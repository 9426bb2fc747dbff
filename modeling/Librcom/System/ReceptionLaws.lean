import Librcom.System.Reception

/-! `BaseSocket::read` is faithful exactly when no failed call is counted on the way to its end. -/

namespace Rcom

open Effects

section Faithful

variable {length : Nat} {outcomes : Stream' RecvOutcome}

/-- What is true between the rounds of a read that has made some calls. -/
structure Progress (length : Nat) (outcomes : Stream' RecvOutcome) (received : Nat) (s : Reception)
    (front : List RecvOutcome) (t : Int) : Prop where
  made : outcomes = front ++ₛ s.outcomes
  counts : Counts length 0 front t
  counted : (received : Int) = t % 2 ^ 64
  room : length ≤ s.buffer.length
  inside : s.Inside length
  failures : s.errors = front.flatMap RecvOutcome.errors
  /-- As long as no call has failed, the count is that of the bytes, which the buffer begins with. -/
  filled : (∀ again, .failed again ∉ front) →
    t = s.delivered.length ∧ s.buffer.take s.delivered.length = s.delivered

variable {received : Nat} {s : Reception} {front : List RecvOutcome} {t : Int}

/-- Before the first round nothing was received. -/
theorem progress_start {buffer : Bytes} (room : length ≤ buffer.length) :
    Progress length outcomes 0 (.start buffer outcomes) [] 0 where
  made := rfl
  counts := .done 0
  counted := rfl
  room := room
  -- No region was given to the system yet.
  inside := by
    intro region member
    cases member
  failures := rfl
  filled _ := ⟨rfl, rfl⟩

/-- While something is missing, the count is the number that is compared with the length. -/
theorem Progress.same (progress : Progress length outcomes received s front t)
    (fits : length < 2 ^ 64) (missing : received < length) : t = received := by
  have range := progress.counts.range (by omega) (by omega)
  have counted := progress.counted
  -- A count of minus one would not have left anything missing.
  omega

/-- A call that does not end the read makes progress. -/
theorem Progress.call (progress : Progress length outcomes received s front t)
    (fits : length < 2 ^ 64) (missing : received < length) (going : s.outcomes.head ≠ .ended) :
    Progress length outcomes ((s.outcomes.head.count length received) % 2 ^ 64).toNat
      (s.after received (length - received)) (front ++ [s.outcomes.head])
      (s.outcomes.head.count length t) := by
  obtain rfl := progress.same fits missing
  have room := progress.room
  have taken := length_bytes_le s.outcomes.head (length - received)
  -- The parts of the invariant: the outcomes, the count, the room, the regions, the failures, the bytes.
  refine ⟨?_, progress.counts.concat (by omega) going, by omega, ?_, progress.inside.after missing,
    ?_, ?_⟩
  · rw [progress.made, Stream'.append_append_stream, Stream'.cons_append_stream,
      Stream'.nil_append_stream]
    exact congrArg _ (Stream'.eta s.outcomes).symm
  · show length ≤ (place _ _ _).length
    rw [length_place (by omega)]
    exact room
  · show s.errors ++ _ = _
    rw [progress.failures, List.flatMap_append, List.flatMap_singleton]
  · intro none
    have before : ∀ again, .failed again ∉ front := fun again member =>
      none again (List.mem_append_left _ member)
    obtain ⟨bytes, holds⟩ := progress.filled before
    have position : received = s.delivered.length := by omega
    -- The bytes that come now are put right behind the others.
    cases head : s.outcomes.head with
    | ended => exact absurd head going
    | failed again => exact absurd (by simp [head]) (none again)
    | delivered first rest =>
      simp only [Reception.after, head, RecvOutcome.count, RecvOutcome.result, List.length_append]
      refine ⟨?_, ?_⟩
      · show (received : Int) + _ = _
        rw [position]
        simp only [RecvOutcome.bytes, Int.toNat_natCast, Nat.cast_add]
      · rw [position, take_place (by omega), holds]

/-- The calls that lead to a count, and the failures that were seen among them. -/
def Behind (length : Nat) (outcomes : Stream' RecvOutcome) (s : Reception) : Prop :=
  ∃ front rest t, outcomes = front ++ₛ rest ∧ Counts length 0 front t ∧
    s.errors = front.flatMap RecvOutcome.errors

/-- The state behind a call is inside, and its failures are those of calls that were counted. -/
theorem Progress.passed (progress : Progress length outcomes received s front t)
    (fits : length < 2 ^ 64) (missing : received < length) :
    (s.after received (length - received)).Inside length ∧
      Behind length outcomes (s.after received (length - received)) := by
  refine ⟨progress.inside.after missing, ?_⟩
  by_cases ended : s.outcomes.head = .ended
  · -- The end of the stream is no failure.
    refine ⟨front, s.outcomes, t, progress.made, progress.counts, ?_⟩
    show s.errors ++ s.outcomes.head.errors = _
    rw [ended, progress.failures]
    exact List.append_nil _
  · have next := progress.call fits missing ended
    exact ⟨_, _, _, next.made, next.counts, next.failures⟩

/-- Without a miscounted failure, the bytes are whole when `read` returns true. -/
theorem read_upholds (fits : length < 2 ^ 64) (outcomes : Stream' RecvOutcome) {buffer : Bytes}
    (room : length ≤ buffer.length) :
    (Reception.read length).Upholds
      (fun s => s.Inside length ∧ Behind length outcomes s) (.start buffer outcomes)
      (fun success s => success = true → ¬ Miscounted length outcomes → s.Whole length)
      (fun _ _ => False) := by
  refine Program.Upholds.iterate
    (fun received s => ∃ front t, Progress length outcomes received s front t)
    ⟨[], 0, progress_start room⟩ ?_
  rintro received s ⟨front, t, progress⟩
  refine ⟨?_, fun fuel t' member => ?_⟩
  · by_cases missing : received < length
    · by_cases ended : s.outcomes.head = .ended
      · exact (round_ended missing ended).ensures fun impossible => by cases impossible
      · exact (round_going missing ended).ensures ⟨_, _, progress.call fits missing ended⟩
    · -- The count has left its range, and so no call on the way has failed.
      refine (round_over (by omega)).ensures fun _ counted => ?_
      have range := progress.counts.range (by omega) (by omega)
      have still := progress.counted
      have sound : ∀ again, .failed again ∉ front := fun again member =>
        counted ⟨front, s.outcomes, t, again, progress.made, progress.counts, by omega, member⟩
      obtain ⟨bytes, holds⟩ := progress.filled sound
      have exactly : s.delivered.length = length := by omega
      exact ⟨exactly, exactly ▸ holds⟩
  · -- The state in the middle of a round is the one behind its call.
    obtain ⟨missing, rfl⟩ := round_seen member
    exact progress.passed fits missing

end Faithful

section Counting

variable {length : Nat}

/-- The bytes that calls deliver. -/
def bytesOf (length : Nat) : Int → List RecvOutcome → Bytes
  | _, [] => []
  | t, outcome :: front =>
    outcome.bytes (length - t.toNat) ++ bytesOf length (outcome.count length t) front

/-- The count falls behind the bytes by one for each call that failed. -/
theorem Counts.length_bytesOf {t t' : Int} {front : List RecvOutcome}
    (counts : Counts length t front t') :
    ((bytesOf length t front).length : Int) = t' - t + (front.flatMap RecvOutcome.errors).length := by
  induction counts with
  | done t => simp [bytesOf]
  | @more t t' outcome front inside going _ ih =>
    rw [bytesOf, List.length_append, List.flatMap_cons, List.length_append, Nat.cast_add, Nat.cast_add, ih]
    -- A delivery adds its bytes to both sides; a failure takes one off the count and is made up for.
    cases outcome with
    | delivered first rest =>
      simp only [RecvOutcome.bytes, RecvOutcome.count, RecvOutcome.result, RecvOutcome.errors,
        List.length_nil]
      omega
    | ended => exact absurd rfl going
    | failed again =>
      simp only [RecvOutcome.bytes, RecvOutcome.count, RecvOutcome.result, RecvOutcome.errors,
        List.length_nil, List.length_singleton]
      omega

/-- A count that ends below zero never reached the length. -/
theorem Counts.short {t t' : Int} {front : List RecvOutcome} (counts : Counts length t front t')
    (negative : t' < 0) (start : 0 ≤ t) : t < length := by
  cases counts with
  | done t => omega
  | more inside going rest => exact inside.2

/-- A failure among the calls of a count is one that is seen. -/
theorem mem_errors {again : Bool} {front : List RecvOutcome} :
    again ∈ front.flatMap RecvOutcome.errors ↔ .failed again ∈ front := by
  rw [List.mem_flatMap]
  constructor
  · rintro ⟨outcome, member, failed⟩
    cases outcome with
    | delivered first rest => cases failed
    | ended => cases failed
    | failed other =>
      obtain rfl := List.mem_singleton.mp failed
      exact member
  · exact fun member => ⟨_, member, List.mem_singleton.mpr rfl⟩

/-- Where a read is after the calls that lead it from one count to another. -/
structure Led (length : Nat) (t : Int) (front : List RecvOutcome) (t' : Int) (rest : Stream' RecvOutcome)
    (received : Nat) (s : Reception) (received' : Nat) (s' : Reception) : Prop where
  outcomes : s'.outcomes = rest
  counted : (received' : Int) = t' % 2 ^ 64
  room : length ≤ s'.buffer.length
  delivered : s'.delivered = s.delivered ++ bytesOf length t front
  /-- The last cell of the buffer is left if the count falls below zero. -/
  kept : t' < 0 → s'.buffer[length - 1]? = s.buffer[length - 1]?
  /-- What the rest of the rounds returns, the read returns. -/
  returns : ∀ {answer : Bool} {s'' : Reception},
    (Program.iterate (readRoundWith Reception.recv length) received').Yields s' answer s'' →
      (Program.iterate (readRoundWith Reception.recv length) received).Yields s answer s''

/-- The calls of a count lead a read along. -/
theorem Counts.leads (fits : length < 2 ^ 64) {t t' : Int} {front : List RecvOutcome}
    (counts : Counts length t front t') {s : Reception} {received : Nat} {rest : Stream' RecvOutcome}
    (made : s.outcomes = front ++ₛ rest) (low : -1 ≤ t) (high : t ≤ length)
    (counted : (received : Int) = t % 2 ^ 64) (room : length ≤ s.buffer.length) :
    ∃ received' s', Led length t front t' rest received s received' s' := by
  induction counts generalizing s received with
  | done t => exact ⟨received, s, made, counted, room, by simp [bytesOf], fun _ => rfl, id⟩
  | @more t t' outcome front inside going counts ih =>
    obtain rfl : t = received := by omega
    rw [Stream'.cons_append_stream] at made
    have head : s.outcomes.head = outcome := by rw [made, Stream'.head_cons]
    have tail : s.outcomes.tail = front ++ₛ rest := by rw [made, Stream'.tail_cons]
    have bound := result_le outcome (length - received)
    have least := neg_one_le_result outcome (length - received)
    have taken := length_bytes_le outcome (length - received)
    have step : outcome.count length received = received + outcome.result (length - received) := by
      simp [RecvOutcome.count]
    have room' : length ≤ (s.after received (length - received)).buffer.length := by
      show length ≤ (place _ _ _).length
      rw [head, length_place (by omega)]
      exact room
    have missing : received < length := by omega
    have round := round_going missing (show s.outcomes.head ≠ .ended from head ▸ going)
    rw [head] at round
    have next : ((outcome.count length received % 2 ^ 64).toNat : Int) =
        outcome.count length received % 2 ^ 64 := by omega
    -- The round of this outcome is followed by those of the others.
    obtain ⟨received', s', led⟩ :=
      ih (s := s.after received (length - received)) tail (by omega) (by omega) next room'
    refine ⟨received', s', led.outcomes, led.counted, led.room, ?_, fun negative => ?_,
      fun later => round.iterate_next (led.returns later)⟩
    · rw [led.delivered]
      simp [Reception.after, head, bytesOf]
    · rw [led.kept negative]
      show (place _ _ _)[length - 1]? = _
      rw [head]
      -- The call leaves something missing, so that it does not reach the end of the buffer.
      have short : (received : Int) + (outcome.bytes (length - received)).length < length := by
        cases outcome with
        | ended => exact absurd rfl going
        | failed again =>
          simp only [RecvOutcome.bytes, List.length_nil]
          omega
        | delivered first rest =>
          have nonnegative : 0 ≤ RecvOutcome.count length received (.delivered first rest) := by
            simp only [RecvOutcome.count, RecvOutcome.result]
            omega
          have behind := counts.short negative nonnegative
          simpa only [RecvOutcome.count, RecvOutcome.result, RecvOutcome.bytes, Int.toNat_natCast]
            using behind
      exact getElem?_place (by omega) (by omega)

variable {outcomes : Stream' RecvOutcome} {buffer : Bytes}

/-- From the beginning of a read, the calls of a count lead along. -/
theorem Counts.leads_start (fits : length < 2 ^ 64) {front : List RecvOutcome} {t : Int}
    (counts : Counts length 0 front t) {rest : Stream' RecvOutcome} (made : outcomes = front ++ₛ rest)
    (room : length ≤ buffer.length) :
    ∃ received s, Led length 0 front t rest 0 (.start buffer outcomes) received s :=
  counts.leads fits made (by omega) (by omega) rfl room

/-- The end of the stream, where something is missing, makes `read` return false. -/
theorem Counts.ends (fits : length < 2 ^ 64) {front : List RecvOutcome} {t : Int}
    (counts : Counts length 0 front t) {rest : Stream' RecvOutcome} (made : outcomes = front ++ₛ rest)
    (room : length ≤ buffer.length) (inside : 0 ≤ t ∧ t < length) (ended : rest.head = .ended) :
    ∃ s, (Reception.read length).Yields (.start buffer outcomes) false s := by
  obtain ⟨received, s, led⟩ := counts.leads_start fits made room
  have counted := led.counted
  have missing : received < length := by omega
  have last := round_ended missing (show s.outcomes.head = .ended by rw [led.outcomes, ended])
  exact ⟨_, led.returns (Program.Yields.iterate_last last)⟩

/-- A count that leaves its range makes `read` return true, with what was delivered until then. -/
theorem Counts.runs (fits : length < 2 ^ 64) {front : List RecvOutcome} {t : Int}
    (counts : Counts length 0 front t) {rest : Stream' RecvOutcome} (made : outcomes = front ++ₛ rest)
    (room : length ≤ buffer.length) (out : t < 0 ∨ length ≤ t) :
    ∃ s, (Reception.read length).Yields (.start buffer outcomes) true s ∧
      s.delivered = bytesOf length 0 front ∧
      (t < 0 → s.buffer[length - 1]? = buffer[length - 1]?) := by
  -- The rounds follow the count until it leaves its range, where the loop ends with success.
  obtain ⟨received, s, led⟩ := counts.leads_start fits made room
  have range := counts.range (by omega) (by omega)
  have counted := led.counted
  have ended := round_over (s := s) (show length ≤ received by omega)
  exact ⟨s, led.returns (Program.Yields.iterate_last ended), by rw [led.delivered]; rfl, led.kept⟩

end Counting

section Settling

variable {length : Nat} {outcomes : Stream' RecvOutcome}

/-- Where the count does not go on for ever, it leaves its range, or the stream ends. -/
theorem settles (stops : ¬ ∀ n, ∃ t, Counts length 0 (outcomes.take n) t) :
    ∃ n t, Counts length 0 (outcomes.take n) t ∧
      (∀ m, (∃ t, Counts length 0 (outcomes.take m) t) → m ≤ n) ∧
      ((t < 0 ∨ length ≤ t) ∨ (outcomes.drop n).head = .ended) := by
  obtain ⟨n, last, first⟩ : ∃ n, (¬ ∃ t, Counts length 0 (outcomes.take n) t) ∧
      ∀ m < n, ∃ t, Counts length 0 (outcomes.take m) t := by
    classical
    have some := not_forall.mp stops
    refine ⟨Nat.find some, Nat.find_spec some, fun m less => ?_⟩
    exact not_not.mp (Nat.find_min some less)
  -- Without any call there is a count, so that one fewer is a number of calls.
  cases n with
  | zero => exact absurd ⟨0, .done 0⟩ last
  | succ n =>
    obtain ⟨t, counts⟩ := first n (Nat.lt_succ_self n)
    refine ⟨n, t, counts, fun m counted => ?_, ?_⟩
    · -- More calls would lead through these ones and the next.
      by_contra more
      obtain ⟨t', counts'⟩ := counted
      have through : outcomes.take m = outcomes.take (n + 1) ++ (outcomes.drop (n + 1)).take (m - (n + 1)) := by
        rw [← Stream'.take_add]
        congr 1
        omega
      rw [through] at counts'
      obtain ⟨mid, front, -⟩ := counts'.split
      exact last ⟨mid, front⟩
    · by_contra neither
      obtain ⟨range, going⟩ := not_or.mp neither
      have next := counts.concat (by omega) going
      rw [Stream'.head_drop, ← Stream'.take_succ'] at next
      exact last ⟨_, next⟩

/-- A failure among calls that a count leads through makes `read` return false, unless it is miscounted. -/
theorem fails_of_counted (fits : length < 2 ^ 64) (counted : ¬ Miscounted length outcomes)
    (stops : ¬ Unending length outcomes) {front : List RecvOutcome} {rest : Stream' RecvOutcome} {t : Int}
    (made : outcomes = front ++ₛ rest) (counts : Counts length 0 front t) (failed : .failed false ∈ front)
    {buffer : Bytes} (room : length ≤ buffer.length) :
    ∃ s, (Reception.read length).Yields (.start buffer outcomes) false s := by
  -- The calls of the count are the first ones, and the failure is among these.
  have first : outcomes.take front.length = front := by
    rw [made, Stream'.take_append_of_le_length _ _ _ (Nat.le_refl _), List.take_length]
  have present : ∃ n, outcomes.get n = .failed false := by
    obtain ⟨n, less, here⟩ := List.mem_iff_getElem.mp failed
    exact ⟨n, by rw [made, Stream'.get_append_left n front rest less, here]⟩
  obtain ⟨n, t', counts', longest, settled⟩ := settles fun endless => stops ⟨endless, present⟩
  have within : front.length ≤ n := longest _ ⟨t, by rw [first]; exact counts⟩
  have among : .failed false ∈ outcomes.take n := by
    have split := Stream'.take_add (m := front.length) (n := n - front.length) (a := outcomes)
    rw [Nat.add_sub_cancel' within, first] at split
    rw [split]
    exact List.mem_append_left _ failed
  by_cases out : t' < 0 ∨ length ≤ t'
  · exact absurd ⟨_, _, t', false, (Stream'.append_take_drop n outcomes).symm, counts', out, among⟩ counted
  · -- The count stays in its range, and the stream ends behind it.
    have ended := settled.resolve_left out
    exact counts'.ends fits (Stream'.append_take_drop n outcomes).symm room (by omega) ended

end Settling

section Unending

variable {length : Nat} {outcomes : Stream' RecvOutcome} {buffer : Bytes}

/-- A count that stays in its range for ever keeps `read` from ending. -/
theorem never_ends (fits : length < 2 ^ 64)
    (endless : ∀ n, ∃ t, Counts length 0 (outcomes.take n) t) :
    (Reception.read length).Ensures (.start buffer outcomes) (fun _ _ => False) (fun _ _ => False) := by
  have start : (Reception.start buffer outcomes).outcomes = outcomes.drop 0 := rfl
  refine Program.Ensures.iterate (fun (received : Nat) (s : Reception) => ∃ n t,
    s.outcomes = outcomes.drop n ∧ Counts length 0 (outcomes.take n) t ∧ (received : Int) = t % 2 ^ 64)
    ⟨0, 0, start, .done 0, show ((0 : Nat) : Int) = _ from rfl⟩ ?_
  rintro received s ⟨n, t, left, counts, counted⟩
  -- One more call is counted, so that something was missing before it, and it was not the end.
  obtain ⟨t', more⟩ := endless (n + 1)
  rw [Stream'.take_succ'] at more
  obtain ⟨mid, first, last⟩ := more.split
  obtain rfl := counts.unique first
  cases last with
  | more inside going rest =>
    have range := counts.range (by omega) (by omega)
    obtain rfl : t = received := by omega
    have head : s.outcomes.head = outcomes.get n := by rw [left, Stream'.head_drop]
    -- So the loop goes on behind it, and is never done.
    have round := round_going (show received < length by omega) (head ▸ going)
    rw [head] at round
    refine round.ensures ⟨n + 1, outcomes.get n |>.count length received, ?_, ?_, by omega⟩
    · show s.outcomes.tail = _
      rw [left, Stream'.tail_drop']
    · rw [Stream'.take_succ']
      exact counts.concat inside going

/-- A failure among the calls of a count is seen when there are rounds enough for them. -/
theorem Counts.seen (fits : length < 2 ^ 64) {t t' : Int} {front : List RecvOutcome}
    (counts : Counts length t front t') {again : Bool} (failed : .failed again ∈ front)
    (fuel : Nat) {left received : Nat} {s : Reception} {rest : Stream' RecvOutcome}
    (enough : front.length ≤ left) (made : s.outcomes = front ++ₛ rest)
    (low : -1 ≤ t) (high : t ≤ length) (counted : (received : Int) = t % 2 ^ 64) :
    ∃ s' ∈ Program.roundsSeen (readRoundWith Reception.recv length) fuel left received s,
      again ∈ s'.errors := by
  induction counts generalizing left received s with
  | done t => cases failed
  | @more t t' outcome front inside going counts ih =>
    obtain rfl : t = received := by omega
    -- There are as many rounds left as there are outcomes to come.
    obtain ⟨left, rfl⟩ : ∃ n, left = n + 1 := ⟨left - 1, by simp only [List.length_cons] at enough; omega⟩
    rw [Stream'.cons_append_stream] at made
    have head : s.outcomes.head = outcome := by rw [made, Stream'.head_cons]
    have missing : received < length := by omega
    rcases List.mem_cons.mp failed with first | later
    · -- The state behind the call that failed is the first one of this round.
      refine ⟨s.after received (length - received), List.mem_append_left _ ?_, ?_⟩
      · unfold readRoundWith
        rw [if_pos missing]
        exact Program.seen_bind_first (List.mem_singleton.mpr rfl)
      · refine List.mem_append_right _ ?_
        rw [head, ← first]
        exact List.mem_singleton.mpr rfl
    · have round := (readRound_straight length received).run_eq
        (round_going missing (head ▸ going)) fuel
      have bound := result_le outcome (length - received)
      have least := neg_one_le_result outcome (length - received)
      have step : outcome.count length received = received + outcome.result (length - received) := by
        simp [RecvOutcome.count]
      have tail : s.outcomes.tail = front ++ₛ rest := by rw [made, Stream'.tail_cons]
      rw [head] at round
      have fewer : front.length ≤ left := by simp only [List.length_cons] at enough; omega
      have next : (s.after received (length - received)).outcomes = front ++ₛ rest := tail
      have same : ((outcome.count length received % 2 ^ 64).toNat : Int) =
          outcome.count length received % 2 ^ 64 := by omega
      obtain ⟨s', member, seen⟩ := ih later fewer next (by omega) (by omega) same
      refine ⟨s', List.mem_append_right _ ?_, seen⟩
      rw [round]
      exact member

end Unending

section Miscounting

variable {length : Nat} {outcomes : Stream' RecvOutcome}

/-- A failure that is miscounted makes `read` return true with bytes missing, or without one in its place. -/
theorem miscounted_breaks (fits : length < 2 ^ 64) (miscounted : Miscounted length outcomes) :
    ¬ ReadsFaithfully length outcomes := by
  intro faithful
  obtain ⟨front, rest, t, again, made, counts, out, failed⟩ := miscounted
  have positive : 0 < length := by
    cases counts with
    | done t => cases failed
    | more inside going rest => omega
  have range := counts.range (by omega) (by omega)
  have many : 0 < (front.flatMap RecvOutcome.errors).length :=
    List.length_pos_of_mem (mem_errors.mpr failed)
  have counted := counts.length_bytesOf
  -- Whatever the buffer held, the same bytes were delivered, and its last cell is left if the count fell.
  have result : ∀ old : UInt8, ∃ s : Reception, s.delivered = bytesOf length 0 front ∧
      s.Whole length ∧ (t < 0 → s.buffer[length - 1]? = some old) := by
    intro old
    have room : length ≤ (List.replicate length old).length := by simp
    obtain ⟨s, returned, delivered, kept⟩ := counts.runs fits made room out
    refine ⟨s, delivered, (faithful _ room).upholds.yields returned rfl, fun negative => ?_⟩
    rw [kept negative]
    simp [positive]
  -- Two buffers that differ in their last cell are taken.
  obtain ⟨s, delivered, ⟨whole, holds⟩, last⟩ := result 0
  obtain ⟨s', delivered', ⟨-, holds'⟩, last'⟩ := result 1
  rcases out with negative | enough
  · have same : s.buffer.take length = s'.buffer.take length := by
      rw [holds, holds', delivered, delivered']
    have cells := congrArg (fun bytes => bytes[length - 1]?) same
    simp only [List.getElem?_take, last negative, last' negative] at cells
    rw [if_pos (by omega), if_pos (by omega)] at cells
    cases cells
  · -- A failure takes one off, so more was delivered than the count says.
    rw [delivered] at whole
    omega

/-- A read that does not end keeps no promise to return false. -/
theorem unending_breaks (fits : length < 2 ^ 64) (unending : Unending length outcomes) :
    ¬ ReadsFaithfully length outcomes := by
  intro faithful
  obtain ⟨endless, n, failure⟩ := unending
  have room : length ≤ (List.replicate length (0 : UInt8)).length := by simp
  obtain ⟨t, counts⟩ := endless (n + 1)
  have failed : .failed false ∈ outcomes.take (n + 1) := by
    rw [Stream'.take_succ', failure]
    exact List.mem_append_right _ (List.mem_singleton.mpr rfl)
  -- With as many rounds as calls, the failure is seen.
  have enough : (outcomes.take (n + 1)).length ≤ n + 1 := by rw [Stream'.length_take]
  have made : (Reception.start (List.replicate length 0) outcomes).outcomes =
      outcomes.take (n + 1) ++ₛ outcomes.drop (n + 1) := (Stream'.append_take_drop (n + 1) outcomes).symm
  obtain ⟨s, member, seen⟩ := counts.seen fits failed (n + 1) enough made (by omega) (by omega)
    (show ((0 : Nat) : Int) = _ from rfl)
  obtain ⟨s', returned⟩ := (faithful _ room).fails (n + 1) s member seen
  exact (never_ends fits endless).yields returned

end Miscounting

/--
`read` is faithful exactly when no failed call is counted on the way to its end, and none keeps it from ending.

A failed call of `recv` is taken for one that delivered less than nothing: at the beginning it ends
the read with success, and later it takes back a byte, which may go on for ever.
-/
theorem BaseSocket.read_faithful_iff (length : UInt64) (outcomes : Stream' RecvOutcome) :
    ReadsFaithfully length.toNat outcomes ↔
      ¬ Miscounted length.toNat outcomes ∧ ¬ Unending length.toNat outcomes := by
  have fits : length.toNat < 2 ^ 64 := length.toNat_lt
  constructor
  · exact fun faithful => ⟨fun miscounted => miscounted_breaks fits miscounted faithful,
      fun unending => unending_breaks fits unending faithful⟩
  · rintro ⟨counted, stops⟩ buffer room
    have upholds := read_upholds fits outcomes room
    refine ⟨⟨upholds.toEnsures.mono (fun _ _ whole answer => whole answer counted) fun _ _ none => none,
      fun fuel s member => (upholds.through fuel s member).1⟩, fun fuel s member failed => ?_⟩
    -- The failure is one of the calls that were counted until then.
    obtain ⟨-, front, rest, t, made, counts, failures⟩ := upholds.through fuel s member
    rw [failures, mem_errors] at failed
    exact fails_of_counted fits counted stops made counts failed room

/-- A read from a connection that was reset returns true, with nothing received. -/
theorem BaseSocket.read_takes_failure_for_data :
    ¬ ∀ (length : UInt64) (outcomes : Stream' RecvOutcome), ReadsFaithfully length.toNat outcomes := by
  intro faithful
  have room : (4 : UInt64).toNat ≤ ([0, 0, 0, 0] : Bytes).length := by decide
  have returned : (Reception.read (4 : UInt64).toNat).Yields
      (.start [0, 0, 0, 0] (Stream'.const (.failed false))) true
      ((Reception.start [0, 0, 0, 0] (Stream'.const (.failed false))).after 0 4) := by
    refine (round_going (by decide) ?_).iterate_next (Program.Yields.iterate_last (round_over (by decide)))
    intro impossible
    cases impossible
  have promised := (faithful 4 (Stream'.const (.failed false)) _ room).upholds.yields returned rfl
  have nothing := promised.1
  cases nothing

end Rcom
