import Librcom.Effects.Passage
import Librcom.System.BaseSocket
import Mathlib.Data.Stream.Init

/-! What `BaseSocket::write` has the system send of a buffer, however much of it each call takes. -/

namespace Rcom

open Effects

/-- A buffer that is sent from, and what the system has done and will do. -/
structure Transmission where
  buffer : Bytes
  /-- What the calls to come return, which is never more than they were asked to send. -/
  results : Stream' Int
  /-- The offset and the size of each region that was given to a call. -/
  regions : List (Nat × Nat)
  /-- All bytes that the system has accepted, in their order. -/
  accepted : Bytes

/-- A buffer before anything was sent. -/
def Transmission.start (buffer : Bytes) (results : Stream' Int) : Transmission where
  buffer := buffer
  results := results
  regions := []
  accepted := []

/-- What the next call returns, if it is asked to send that many bytes. -/
def Transmission.result (s : Transmission) (requested : Nat) : Int := min s.results.head requested

/-- The transmission after a call that was given a region, of which it has accepted the first bytes. -/
def Transmission.after (s : Transmission) (offset requested : Nat) : Transmission where
  buffer := s.buffer
  results := s.results.tail
  regions := s.regions ++ [(offset, requested)]
  accepted := s.accepted ++ (s.buffer.drop offset).take (s.result requested).toNat

/-- `linux_->send` on the socket's descriptor. -/
def Transmission.send (offset requested : Nat) : Program Transmission Fault Int :=
  Program.act fun s => (s.result requested, s.after offset requested)

/-- A round of `write`, over whatever carries out the call. -/
def writeRoundWith {σ : Type} (send : Nat → Nat → Program σ Fault Int) (length sent : Nat) :
    Program σ Fault (Nat ⊕ Bool) := do
  if sent < length then
    let n ← send sent (length - sent)
    if n < 0 then return .inr false
    else if n = 0 then return .inr false
    -- The result is added as an unsigned number.
    else return .inl ((sent + n.toNat) % 2 ^ 64)
  else return .inr true

/-- The descriptors see the same rounds, where a call sends no more than it was asked to. -/
theorem BaseSocket.writeRound_agrees {length sent : Nat} (fits : length < 2 ^ 64)
    {s : BaseSocket × Kernel} (most : s.2.outcomes.head.result ≤ (length - sent : Nat)) :
    (BaseSocket.writeRound length sent).Agrees
      (writeRoundWith (fun _ _ => do
        return (← BaseSocket.linux fun sockfd _ => .send sockfd).result) length sent) s := by
  intro fuel
  unfold BaseSocket.writeRound writeRoundWith
  by_cases missing : sent < length
  · rw [if_pos missing, if_pos missing]
    -- The count stays below the length, and so it does not wrap around.
    have exactly : (sent + s.2.outcomes.head.result.toNat) % 18446744073709551616 =
        sent + s.2.outcomes.head.result.toNat := Nat.mod_eq_of_lt (by omega)
    simp [BaseSocket.linux, Outcome.andThen, exactly]
  · rw [if_neg missing, if_neg missing]

/-- Send bytes until all are sent or the system does not take them. -/
def Transmission.write (length : Nat) : Program Transmission Fault Bool :=
  Program.iterate (writeRoundWith Transmission.send length) 0

/-- What was accepted is the front of what was to be sent, and no call was given more than that. -/
structure SentFront (buffer : Bytes) (length : Nat) (s : Transmission) : Prop where
  accepted : s.accepted <+: buffer.take length
  regions : ∀ region ∈ s.regions, region.1 + region.2 ≤ length

/-- What is true between the rounds of a write. -/
structure SentSoFar (buffer : Bytes) (length sent : Nat) (s : Transmission) : Prop where
  same : s.buffer = buffer
  inside : sent ≤ length
  accepted : s.accepted = buffer.take sent
  regions : ∀ region ∈ s.regions, region.1 + region.2 ≤ length

/-- Each call that was made has accepted something. -/
structure Took (results : Stream' Int) (s : Transmission) : Prop where
  left : s.results = results.drop s.regions.length
  some_bytes : ∀ n < s.regions.length, 0 < results.get n

/-- The last call that was made has returned zero or a failure, and those before it have accepted something. -/
def Declined (results : Stream' Int) (s : Transmission) : Prop :=
  ∃ calls, s.regions.length = calls + 1 ∧ results.get calls ≤ 0 ∧ ∀ n < calls, 0 < results.get n

/-- A write returns true only with all bytes sent, and otherwise with some that were refused. -/
structure Written (buffer : Bytes) (length : Nat) (results : Stream' Int) (success : Bool)
    (s : Transmission) : Prop where
  soFar : ∃ sent, SentSoFar buffer length sent s ∧ (success = true ↔ sent = length)
  took : success = true → Took results s
  refused : success = false → Declined results s

/-- Calls that have all accepted something do not end with one that has not. -/
theorem Took.not_refused {results : Stream' Int} {s : Transmission} (took : Took results s) :
    ¬ Declined results s := by
  rintro ⟨calls, made, nothing, -⟩
  have last := took.some_bytes calls (by omega)
  omega

section Rounds

variable {buffer : Bytes} {length sent : Nat} {results : Stream' Int} {s : Transmission}

/-- What was sent so far is a front of the text. -/
theorem SentSoFar.front (soFar : SentSoFar buffer length sent s) : SentFront buffer length s where
  accepted := by
    rw [soFar.accepted]
    exact (List.take_prefix_take_left soFar.inside)
  regions := soFar.regions

/-- A call for what is missing accepts the bytes right behind those before, and no more than there are. -/
theorem SentSoFar.call (soFar : SentSoFar buffer length sent s) (missing : sent < length) :
    SentSoFar buffer length (sent + (s.result (length - sent)).toNat)
      (s.after sent (length - sent)) where
  same := soFar.same
  inside := by
    -- The system accepts no more than it is offered.
    have most : s.result (length - sent) ≤ (length - sent : Nat) := min_le_right _ _
    omega
  accepted := by
    -- The call is offered the bytes behind those that were sent, and takes some of their front.
    show s.accepted ++ (s.buffer.drop sent).take _ = _
    rw [soFar.accepted, soFar.same, List.take_add]
  regions := by
    intro region member
    -- The region is an earlier one, or that of this call, which ends with the bytes.
    rcases List.mem_append.mp member with earlier | now
    · exact soFar.regions region earlier
    · rw [List.mem_singleton.mp now]
      show sent + (length - sent) ≤ length
      omega

/-- What the next call returns is cut to what it is asked to send. -/
theorem Took.result (took : Took results s) (requested : Nat) :
    s.result requested = min (results.get s.regions.length) requested := by
  unfold Transmission.result
  rw [took.left, Stream'.head_drop]

/-- A call that accepts something is one more of the kind. -/
theorem Took.call (took : Took results s) (offset : Nat) {requested : Nat}
    (something : 0 < s.result requested) : Took results (s.after offset requested) where
  left := by
    show s.results.tail = results.drop (s.regions ++ [_]).length
    rw [took.left, Stream'.tail_drop', List.length_append, List.length_singleton]
  some_bytes := by
    intro n less
    have made : n < (s.regions ++ [(offset, requested)]).length := less
    rw [List.length_append, List.length_singleton] at made
    rw [took.result] at something
    -- The call is the last of them.
    by_cases last : n = s.regions.length
    · subst last
      omega
    · exact took.some_bytes n (by omega)

/-- A call that accepts nothing leaves what was accepted before, with something missing. -/
theorem SentSoFar.refused (soFar : SentSoFar buffer length sent s) (took : Took results s)
    (missing : sent < length) (nothing : s.result (length - sent) ≤ 0) :
    Written buffer length results false (s.after sent (length - sent)) where
  soFar := by
    have after := soFar.call missing
    -- Nothing was added to what was sent before.
    rw [Int.toNat_of_nonpos nothing, Nat.add_zero] at after
    refine ⟨sent, after, ⟨nofun, ?_⟩⟩
    rintro rfl
    exact absurd missing (Nat.lt_irrefl _)
  took := nofun
  refused := by
    intro _
    rw [took.result] at nothing
    -- The call was asked to send something, and so its own result was not positive.
    refine ⟨s.regions.length, by simp [Transmission.after], by omega, took.some_bytes⟩

/-- A round goes on with more bytes sent than before, or is the last one. -/
theorem writeRound_upholds (fits : length < 2 ^ 64) (soFar : SentSoFar buffer length sent s)
    (took : Took results s) :
    (writeRoundWith Transmission.send length sent).Upholds (SentFront buffer length) s
      (Program.Turn (fun sent' s' => (SentSoFar buffer length sent' s' ∧ Took results s') ∧ sent < sent')
        (Written buffer length results)) (fun _ _ => False) := by
  unfold writeRoundWith
  split
  · next missing =>
    have after := soFar.call missing
    -- The states passed through are the one behind the call, and no other.
    have called : (Transmission.send sent (length - sent)).Upholds (SentFront buffer length) s
        (fun n s' => n = s.result (length - sent) ∧ s' = s.after sent (length - sent))
        (fun _ _ => False) := Program.upholds_act after.front ⟨rfl, rfl⟩
    refine called.bind ?_
    rintro _ _ ⟨rfl, rfl⟩
    split
    · next failed => exact Program.upholds_pure (soFar.refused took missing (Int.le_of_lt failed))
    · split
      · next zero => exact Program.upholds_pure (soFar.refused took missing (Int.le_of_eq zero))
      · -- The count stays below the length, so that it does not wrap around.
        have inside := after.inside
        refine Program.upholds_pure ?_
        show (SentSoFar _ _ (_ % _) _ ∧ _) ∧ _
        rw [Nat.mod_eq_of_lt (by omega)]
        exact ⟨⟨after, took.call sent (by omega)⟩, by omega⟩
  · next enough =>
    -- The loop ends with the count, which tells whether all was sent.
    have all : sent = length := Nat.le_antisymm soFar.inside (Nat.not_lt.mp enough)
    exact Program.upholds_pure ⟨⟨sent, soFar, fun _ => all, fun _ => rfl⟩, fun _ => took, nofun⟩

/-- A round of the loop takes no loop itself. -/
theorem writeRound_straight (length sent : Nat) :
    (writeRoundWith Transmission.send length sent).Straight := by
  unfold writeRoundWith
  -- There is one call in a round and no loop.
  split
  · refine Program.Straight.bind (fun _ => by simp [Transmission.send]) fun n => ?_
    split
    · exact Program.straight_pure _
    · split
      · exact Program.straight_pure _
      · exact Program.straight_pure _
  · exact Program.straight_pure _

end Rounds

section Writing

variable {buffer : Bytes} {length : Nat} {results : Stream' Int}

/-- Before the first round nothing was sent. -/
theorem sentSoFar_start : SentSoFar buffer length 0 (.start buffer results) where
  same := rfl
  inside := Nat.zero_le _
  accepted := rfl
  regions := by
    intro region member
    cases member

/-- Before the first round no call was made. -/
theorem took_start : Took results (.start buffer results) where
  left := rfl
  some_bytes := by
    intro n impossible
    cases impossible

/-- In every state on the way a front of the text was sent, and at the end as much as is answered. -/
theorem write_upholds (fits : length < 2 ^ 64) :
    (Transmission.write length).Upholds (SentFront buffer length) (.start buffer results)
      (Written buffer length results) (fun _ _ => False) := by
  refine Program.Upholds.iterate (fun sent s => SentSoFar buffer length sent s ∧ Took results s)
    ⟨sentSoFar_start, took_start⟩ ?_
  -- The invariant of the loop is what is true between its rounds.
  rintro sent s ⟨soFar, took⟩
  refine (writeRound_upholds fits soFar took).mono ?_ fun _ _ impossible => impossible
  rintro (sent' | success) s' turned
  · exact turned.1
  · exact turned

/-- Every round that is not the last one leaves fewer bytes to be sent. -/
theorem write_halts (fits : length < 2 ^ 64) :
    (Transmission.write length).Halts (.start buffer results) := by
  suffices achieves : (Transmission.write length).Achieves (.start buffer results)
      (Written buffer length results) (fun _ _ => False) from achieves.halts
  refine Program.Achieves.iterate
    (fun left sent s => (SentSoFar buffer length sent s ∧ Took results s) ∧ left = length - sent) ?_
    ⟨⟨sentSoFar_start, took_start⟩, rfl⟩
  rintro left sent s ⟨⟨soFar, took⟩, rfl⟩
  refine ⟨(writeRound_upholds fits soFar took).toEnsures.mono ?_ fun _ _ impossible => impossible,
    0, writeRound_straight length sent s⟩
  -- Each round that goes on has sent something, so less is left.
  rintro (sent' | success) s' turned
  · obtain ⟨next, more⟩ := turned
    have inside := next.1.inside
    exact ⟨length - sent', by omega, next, rfl⟩
  · exact turned

end Writing

/--
`write` ends, and returns true if and only if the system has accepted all of the bytes.

It returns false if and only if the last call that it has made returned zero or a failure, and every call
before accepted something. At every moment what was accepted is the front of the bytes, and no call was given
anything else.
-/
theorem BaseSocket.write_sends_exactly (buffer : Bytes) (length : UInt64)
    (room : length.toNat ≤ buffer.length) (results : Stream' Int) :
    (∃ success s, (Transmission.write length.toNat).Yields (.start buffer results) success s ∧
      SentFront buffer length.toNat s ∧ (success = true ↔ s.accepted = buffer.take length.toNat) ∧
      (success = false ↔ Declined results s)) ∧
    ∀ fuel, ∀ t ∈ (Transmission.write length.toNat).seen fuel (.start buffer results),
      SentFront buffer length.toNat t := by
  have fits : length.toNat < 2 ^ 64 := length.toNat_lt
  have upholds : (Transmission.write length.toNat).Upholds (SentFront buffer length.toNat)
      (.start buffer results) (Written buffer length.toNat results) (fun _ _ => False) :=
    write_upholds fits
  refine ⟨?_, upholds.through⟩
  rcases (write_halts fits).cases with ⟨success, s, returned⟩ | ⟨e, s, threw⟩
  · have written := upholds.yields returned
    obtain ⟨sent, soFar, whole⟩ := written.soFar
    refine ⟨success, s, returned, soFar.front, whole.trans ⟨?_, fun same => ?_⟩, written.refused,
      fun refused => ?_⟩
    · rintro rfl
      exact soFar.accepted
    · -- The lengths tell that as many bytes were sent as there are.
      rw [soFar.accepted] at same
      have lengths := congrArg List.length same
      have inside := soFar.inside
      simp only [List.length_take] at lengths
      omega
    · -- If all was sent, no call has accepted nothing.
      rw [Bool.eq_false_iff]
      exact fun success => (written.took success).not_refused refused
  · exact (upholds.throws threw).elim

/-- A buffer of four bytes, of which the system takes one, two and one, and one that it fails to take a part of. -/
theorem BaseSocket.write_sends_exactly_partial :
    (∃ s, (Transmission.write (4 : UInt64).toNat).Yields
        (.start [1, 2, 3, 4] fun i => if i = 0 then 1 else if i = 1 then 2 else 9) true s ∧
      s.accepted = [1, 2, 3, 4] ∧ s.regions = [(0, 4), (1, 3), (3, 1)]) ∧
    ∃ s, (Transmission.write (4 : UInt64).toNat).Yields
        (.start [1, 2, 3, 4] fun i => if i = 0 then 3 else -1) false s ∧
      s.accepted = [1, 2, 3] ∧ Declined (fun i => if i = 0 then 3 else -1) s := by
  have sent := Program.yields_after (show ((Transmission.write (4 : UInt64).toNat).run 5
    (.start [1, 2, 3, 4] fun i => if i = 0 then 1 else if i = 1 then 2 else 9)).value? = some true by
      decide +kernel)
  have failed := Program.yields_after (show ((Transmission.write (4 : UInt64).toNat).run 5
    (.start [1, 2, 3, 4] fun i => if i = 0 then 3 else -1)).value? = some false by decide +kernel)
  obtain ⟨success, s, returned, -, whole, -⟩ := (BaseSocket.write_sends_exactly [1, 2, 3, 4] 4
    (by decide) fun i => if i = 0 then 1 else if i = 1 then 2 else 9).1
  obtain ⟨success', s', returned', -, -, refused⟩ := (BaseSocket.write_sends_exactly [1, 2, 3, 4] 4
    (by decide) fun i => if i = 0 then 3 else -1).1
  obtain ⟨rfl, rfl⟩ := sent.unique returned
  obtain ⟨rfl, rfl⟩ := failed.unique returned'
  exact ⟨⟨_, returned, whole.mp rfl, by decide +kernel⟩,
    ⟨_, returned', by decide +kernel, refused.mp rfl⟩⟩

end Rcom
