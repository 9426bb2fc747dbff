import Librcom.Effects.Passage
import Librcom.System.BaseSocket
import Mathlib.Data.Stream.Init

/-! What `BaseSocket::read` puts into a buffer, for whatever the system delivers to it. -/

namespace Rcom

open Effects

/-- How a call of `recv` turns out. -/
inductive RecvOutcome where
  /-- Bytes have arrived, of which the call takes as many as it asks for. -/
  | delivered (first : UInt8) (rest : Bytes)
  /-- The stream has ended. -/
  | ended
  /-- The call fails, and `errno` is `EAGAIN` or not. -/
  | failed (again : Bool)

namespace RecvOutcome

def bytes (requested : Nat) : RecvOutcome → Bytes
  | .delivered first rest => (first :: rest).take requested
  | .ended => []
  | .failed _ => []

/-- What the call returns. -/
def result (requested : Nat) : RecvOutcome → Int
  | .delivered first rest => ((first :: rest).take requested).length
  | .ended => 0
  | .failed _ => -1

def errors : RecvOutcome → List Bool
  | .delivered _ _ => []
  | .ended => []
  | .failed again => [again]

end RecvOutcome

/-- A buffer that is read into, and what the system has done and will do. -/
structure Reception where
  buffer : Bytes
  /-- How the calls to come turn out. -/
  outcomes : Stream' RecvOutcome
  /-- The offset and the size of each region that was given to a call. -/
  regions : List (Nat × Nat)
  /-- All bytes that were delivered, in their order. -/
  delivered : Bytes
  /-- For each call that failed, whether `errno` was `EAGAIN`. -/
  errors : List Bool

/-- A buffer before anything was received. -/
def Reception.start (buffer : Bytes) (outcomes : Stream' RecvOutcome) : Reception where
  buffer := buffer
  outcomes := outcomes
  regions := []
  delivered := []
  errors := []

/-- The buffer with bytes written at an offset. -/
def place (buffer : Bytes) (offset : Nat) (bytes : Bytes) : Bytes :=
  buffer.take offset ++ bytes ++ buffer.drop (offset + bytes.length)

/-- The reception after a call that was given a region. -/
def Reception.after (s : Reception) (offset requested : Nat) : Reception where
  buffer := place s.buffer offset (s.outcomes.head.bytes requested)
  outcomes := s.outcomes.tail
  regions := s.regions ++ [(offset, requested)]
  delivered := s.delivered ++ s.outcomes.head.bytes requested
  errors := s.errors ++ s.outcomes.head.errors

/-- `linux_->recv` on the socket's descriptor. -/
def Reception.recv (offset requested : Nat) : Program Reception Fault CallOutcome :=
  Program.act fun s =>
    (⟨s.outcomes.head.result requested, s.outcomes.head.errors == [true], false⟩, s.after offset requested)

/-- A round of `read`, over whatever carries out the call. -/
def readRoundWith {σ : Type} (recv : Nat → Nat → Program σ Fault CallOutcome) (length received : Nat) :
    Program σ Fault (Nat ⊕ Bool) := do
  if received < length then
    let requested := length - received
    let outcome ← recv received requested
    let n := outcome.result
    -- The result -1 is not among the errors, and is added as an unsigned number.
    if n < -1 then
      if !outcome.again then return .inr false
      else return .inl received
    else if n = 0 then return .inr false
    else return .inl ((received + n) % 2 ^ 64).toNat
  else return .inr true

/-- The descriptors see the same rounds. -/
theorem BaseSocket.readRound_eq (length received : Nat) :
    BaseSocket.readRound length received =
      readRoundWith (fun _ _ => BaseSocket.linux fun sockfd _ => .recv sockfd) length received := rfl

/-- Read into a buffer until enough is received or the stream ends. -/
def Reception.read (length : Nat) : Program Reception Fault Bool :=
  Program.iterate (readRoundWith Reception.recv length) 0

/-- No call was given a region outside of the bytes that were asked for. -/
def Reception.Inside (length : Nat) (s : Reception) : Prop :=
  ∀ region ∈ s.regions, region.1 + region.2 ≤ length

/-- All bytes were delivered, and the buffer begins with them. -/
def Reception.Whole (length : Nat) (s : Reception) : Prop :=
  s.delivered.length = length ∧ s.buffer.take length = s.delivered

/-- What `read` promises about its answer, and about every moment until then. -/
structure KeepsPromises (length : Nat) (start : Reception) : Prop where
  /-- If it returns true the bytes are whole, and the regions are inside at every moment. -/
  upholds : (Reception.read length).Upholds (Reception.Inside length) start
    (fun success s => success = true → s.Whole length) (fun _ _ => False)
  /-- Once a call has failed with something else than `EAGAIN` it ends, and returns false. -/
  fails : ∀ fuel, ∀ s ∈ (Reception.read length).seen fuel start, false ∈ s.errors →
    ∃ s', (Reception.read length).Yields start false s'

/-- Whatever buffer is long enough, `read` keeps its promises. -/
def ReadsFaithfully (length : Nat) (outcomes : Stream' RecvOutcome) : Prop :=
  ∀ buffer : Bytes, length ≤ buffer.length → KeepsPromises length (.start buffer outcomes)

/-- The count of received bytes after a call, where a failure counts for minus one. -/
def RecvOutcome.count (length : Nat) (t : Int) (outcome : RecvOutcome) : Int :=
  t + outcome.result (length - t.toNat)

/-- Calls lead from one count to another: each finds bytes missing, and none the end of the stream. -/
inductive Counts (length : Nat) : Int → List RecvOutcome → Int → Prop
  | done (t : Int) : Counts length t [] t
  | more {t t' : Int} {outcome : RecvOutcome} {front : List RecvOutcome} (inside : 0 ≤ t ∧ t < length)
      (going : outcome ≠ .ended) (rest : Counts length (outcome.count length t) front t') :
      Counts length t (outcome :: front) t'

/-- A failed call is among those that the count first leaves its range with. -/
def Miscounted (length : Nat) (outcomes : Stream' RecvOutcome) : Prop :=
  ∃ front rest t again, outcomes = front ++ₛ rest ∧ Counts length 0 front t ∧ (t < 0 ∨ length ≤ t) ∧
    .failed again ∈ front

/-- The count stays in its range for ever, although a call has failed with something else than `EAGAIN`. -/
def Unending (length : Nat) (outcomes : Stream' RecvOutcome) : Prop :=
  (∀ n, ∃ t, Counts length 0 (outcomes.take n) t) ∧ ∃ n, outcomes.get n = .failed false

section Buffers

variable {buffer bytes : Bytes} {offset : Nat}

/-- Bytes that fit do not make the buffer longer. -/
theorem length_place (fits : offset + bytes.length ≤ buffer.length) :
    (place buffer offset bytes).length = buffer.length := by
  simp only [place, List.length_append, List.length_take, List.length_drop]
  omega

/-- What was before the offset is followed by the bytes. -/
theorem take_place (fits : offset ≤ buffer.length) :
    (place buffer offset bytes).take (offset + bytes.length) = buffer.take offset ++ bytes := by
  have front : (buffer.take offset ++ bytes).length = offset + bytes.length := by
    simp only [List.length_append, List.length_take]
    omega
  rw [place, ← front, List.take_left]

/-- What is behind the bytes is left. -/
theorem getElem?_place {i : Nat} (fits : offset ≤ buffer.length) (behind : offset + bytes.length ≤ i) :
    (place buffer offset bytes)[i]? = buffer[i]? := by
  have front : (buffer.take offset ++ bytes).length = offset + bytes.length := by
    simp only [List.length_append, List.length_take]
    omega
  rw [place, List.getElem?_append_right (by omega), front, List.getElem?_drop]
  congr 1
  omega

end Buffers

section Counting

variable {length : Nat} {t t' : Int} {front : List RecvOutcome} {outcome : RecvOutcome}

/-- No call delivers more than was requested. -/
theorem result_le (outcome : RecvOutcome) (requested : Nat) : outcome.result requested ≤ requested := by
  cases outcome with
  | delivered first rest => simp only [RecvOutcome.result, List.length_take]; omega
  | ended => simp only [RecvOutcome.result]; omega
  | failed again => simp only [RecvOutcome.result]; omega

/-- A call delivers no more than it asks for. -/
theorem length_bytes_le (outcome : RecvOutcome) (requested : Nat) :
    (outcome.bytes requested).length ≤ requested := by
  cases outcome with
  | delivered first rest => simp only [RecvOutcome.bytes, List.length_take]; omega
  | ended => simp [RecvOutcome.bytes]
  | failed again => simp [RecvOutcome.bytes]

/-- No call counts for less than minus one. -/
theorem neg_one_le_result (outcome : RecvOutcome) (requested : Nat) : -1 ≤ outcome.result requested := by
  cases outcome with
  | delivered first rest => simp only [RecvOutcome.result]; omega
  | ended => simp only [RecvOutcome.result]; omega
  | failed again => simp only [RecvOutcome.result]; omega

/-- Only the end of the stream leaves the count where it is. -/
theorem result_ne_zero {requested : Nat} (some : 0 < requested) (going : outcome ≠ .ended) :
    outcome.result requested ≠ 0 := by
  cases outcome with
  | delivered first rest =>
    simp only [RecvOutcome.result, List.length_take, List.length_cons]
    omega
  | ended => exact absurd rfl going
  | failed again => simp [RecvOutcome.result]

/-- A count that starts in its range leaves it by one step at most. -/
theorem Counts.range (counts : Counts length t front t') (low : -1 ≤ t) (high : t ≤ length) :
    -1 ≤ t' ∧ t' ≤ length := by
  induction counts with
  | done t => exact ⟨low, high⟩
  | @more t t' outcome front inside going _ ih =>
    have bound := result_le outcome (length - t.toNat)
    have least := neg_one_le_result outcome (length - t.toNat)
    unfold RecvOutcome.count at ih
    exact ih (by omega) (by omega)

/-- Calls that lead somewhere lead through what their beginning leads to. -/
theorem Counts.split {later : List RecvOutcome} (counts : Counts length t (front ++ later) t') :
    ∃ mid, Counts length t front mid ∧ Counts length mid later t' := by
  induction front generalizing t with
  | nil => exact ⟨t, .done t, counts⟩
  | cons outcome front ih =>
    cases counts with
    | more inside going rest =>
      obtain ⟨mid, first, second⟩ := ih rest
      exact ⟨mid, .more inside going first, second⟩

/-- The same calls lead to the same count. -/
theorem Counts.unique {t'' : Int} (counts : Counts length t front t') (other : Counts length t front t'') :
    t' = t'' := by
  induction counts with
  | done t =>
    cases other with
    | done t => rfl
  | more inside going rest ih =>
    cases other with
    | more inside' going' rest' => exact ih rest'

/-- One more call adds to the count what it counts for. -/
theorem Counts.concat {outcome : RecvOutcome} (counts : Counts length t front t')
    (inside : 0 ≤ t' ∧ t' < length) (going : outcome ≠ .ended) :
    Counts length t (front ++ [outcome]) (outcome.count length t') := by
  induction counts with
  | done t => exact .more inside going (.done _)
  | more inside' going' _ ih => exact .more inside' going' (ih inside)

end Counting

section Rounds

variable {length received : Nat} {s : Reception}

/-- The end of the stream ends the read. -/
theorem round_ended (missing : received < length) (ended : s.outcomes.head = .ended) :
    (readRoundWith Reception.recv length received).Yields s (.inr false)
      (s.after received (length - received)) := by
  unfold readRoundWith
  rw [if_pos missing]
  refine (Program.yields_act _ s).bind ?_
  simp only [ended, RecvOutcome.result]
  exact Program.yields_pure _ _

/-- Any other call is counted, and a failed one as minus one. -/
theorem round_going (missing : received < length) (going : s.outcomes.head ≠ .ended) :
    (readRoundWith Reception.recv length received).Yields s
      (.inl ((s.outcomes.head.count length received) % 2 ^ 64).toNat)
      (s.after received (length - received)) := by
  unfold readRoundWith
  rw [if_pos missing]
  refine (Program.yields_act _ s).bind ?_
  -- The result of a call that failed is minus one, which the source does not take for an error.
  have counted := result_ne_zero (show 0 < length - received by omega) going
  have least := neg_one_le_result s.outcomes.head (length - received)
  dsimp only
  rw [if_neg (by omega), if_neg counted]
  exact Program.yields_pure _ _

/-- A round passes through the state behind its call, and through no other. -/
theorem round_seen {fuel : Nat} {t : Reception}
    (member : t ∈ (readRoundWith Reception.recv length received).seen fuel s) :
    received < length ∧ t = s.after received (length - received) := by
  unfold readRoundWith at member
  by_cases missing : received < length
  · rw [if_pos missing] at member
    refine ⟨missing, ?_⟩
    rcases List.mem_append.mp member with called | behind
    · exact List.mem_singleton.mp called
    · -- What is done with the outcome of the call changes nothing.
      obtain ⟨outcome, s', -, passed⟩ := Program.mem_seenAfter behind
      dsimp only at passed
      split at passed
      · split at passed
        · cases passed
        · cases passed
      · split at passed
        · cases passed
        · cases passed
  · -- A round without a call is in no state of its own.
    rw [if_neg missing] at member
    cases member

/-- A round of the loop takes no loop itself. -/
theorem readRound_straight (length received : Nat) :
    (readRoundWith Reception.recv length received).Straight := by
  unfold readRoundWith
  split
  · refine Program.Straight.bind (fun _ => by simp [Reception.recv]) fun outcome => ?_
    dsimp only
    split
    · split
      · exact Program.straight_pure _
      · exact Program.straight_pure _
    · split
      · exact Program.straight_pure _
      · exact Program.straight_pure _
  · exact Program.straight_pure _

/-- Once the count has reached the length, the round ends with true. -/
theorem round_over (enough : length ≤ received) :
    (readRoundWith Reception.recv length received).Yields s (.inr true) s := by
  unfold readRoundWith
  rw [if_neg (by omega)]
  exact Program.yields_pure _ _

/-- A call for what is missing is given a region that ends with the length. -/
theorem Reception.Inside.after (before : s.Inside length) (missing : received < length) :
    (s.after received (length - received)).Inside length := by
  intro region member
  rcases List.mem_append.mp member with earlier | now
  · exact before region earlier
  · rw [List.mem_singleton.mp now]
    show received + (length - received) ≤ length
    omega

end Rounds

end Rcom
