import Mathlib.Algebra.Order.Group.Multiset
import Mathlib.Data.Multiset.Count
import Mathlib.Data.List.Induction

/-! Ledgers of things that are handed out, worked on while they are held, and released. -/

namespace Ledger

/-- An event: what it works on, whether it releases that, and what it hands out. -/
structure Event (K : Type) where
  on : Option K
  releases : Bool
  gains : Option K

variable {K : Type}

/-- What an event hands out. -/
def gain : Option K → Multiset K
  | some k => {k}
  | none => 0

/-- Nothing is gained without a resource. -/
theorem gain_none : gain (none : Option K) = 0 := rfl

variable [DecidableEq K]

/-- What is held after an event, unless it works on something that is not held. -/
def account (held : Multiset K) (event : Event K) : Option (Multiset K) :=
  match event.on with
  | none => some (held + gain event.gains)
  | some k =>
    if k ∈ held then some ((if event.releases then held.erase k else held) + gain event.gains)
    else none

/-- What is held after events, unless one of them works on something that is not held. -/
def holding (events : List (Event K)) : Option (Multiset K) :=
  events.foldl (fun held event => held.bind fun held => account held event) (some 0)

/-- How often a key was handed out. -/
def gained (k : K) (events : List (Event K)) : Nat :=
  events.countP fun event => event.gains = some k

/-- How often a key was released. -/
def released (k : K) (events : List (Event K)) : Nat :=
  events.countP fun event => event.releases ∧ event.on = some k

/-- Nothing is handed out while it is held. -/
def Fresh (events : List (Event K)) : Prop :=
  ∀ before event after, events = before ++ event :: after → ∀ k, event.gains = some k →
    gained k before = released k before

/-- Each event works on something that was handed out more often than it was released. -/
def Proper (events : List (Event K)) : Prop :=
  ∀ before event after, events = before ++ event :: after → ∀ k, event.on = some k →
    released k before < gained k before

/-- Before the first event nothing is held. -/
@[simp] theorem holding_nil : holding ([] : List (Event K)) = some 0 := rfl

/-- The last event is accounted for after the others. -/
@[simp] theorem holding_concat (events : List (Event K)) (event : Event K) :
    holding (events ++ [event]) = (holding events).bind fun held => account held event := by
  simp [holding]

/-- Working on what is held keeps it, and adds what is handed out. -/
theorem account_use (key given : Option K) (rest : Multiset K) :
    account (gain key + rest) ⟨key, false, given⟩ = some (gain key + (gain given + rest)) := by
  have arranged : gain key + rest + gain given = gain key + (gain given + rest) := by
    rw [add_assoc, add_comm rest]
  cases key with
  | none => exact congrArg some arranged
  | some k =>
    -- The key is held, so that the work on it is in order.
    have member : k ∈ gain (some k) + rest := by simp [gain]
    simpa [account, member] using arranged

/-- Releasing what is held takes it away. -/
theorem account_release (key : Option K) (rest : Multiset K) :
    account (gain key + rest) ⟨key, true, none⟩ = some rest := by
  cases key with
  | none => simp [account, gain]
  | some k => simp [account, gain]

/-- What is held was handed out and not released. -/
theorem count_holding {events : List (Event K)} {held : Multiset K}
    (holds : holding events = some held) (k : K) :
    gained k events = released k events + held.count k := by
  -- Each event adds to what is held what it hands out, and takes away what it releases.
  induction events using List.reverseRecOn generalizing held with
  | nil =>
    cases holds
    simp [gained, released]
  | append_singleton events event ih =>
    rw [holding_concat] at holds
    obtain ⟨before, held_before, accounted⟩ := Option.bind_eq_some_iff.mp holds
    have counted := ih held_before
    -- Handing out a key counts for that key alone.
    have gains : (gain event.gains).count k = if event.gains = some k then 1 else 0 := by
      cases event.gains with
      | none => simp [gain]
      | some other =>
        -- Whether the key is released is a matter of the event, and of the key it works on.
        by_cases same : other = k
        · simp [gain, same]
        · simp [gain, same, Ne.symm same]
    simp only [gained, released, List.countP_append, List.countP_singleton] at counted ⊢
    unfold account at accounted
    split at accounted
    · -- The event works on nothing, and only adds.
      rename_i nothing
      simp only [Option.some.injEq] at accounted
      subst accounted
      simp only [nothing, Multiset.count_add, gains]
      simp only [decide_eq_true_eq, reduceCtorEq, and_false, decide_false, Bool.false_eq_true, if_false]
      omega
    · rename_i other works
      split at accounted
      · rename_i member
        simp only [Option.some.injEq] at accounted
        subst accounted
        -- What is worked on is held at least once, so that one less is still a number.
        have there : 0 < before.count other := Multiset.count_pos.mpr member
        simp only [Multiset.count_add, gains, works, decide_eq_true_eq]
        by_cases same : other = k
        · subst same
          cases event.releases with
          | true =>
            simp only [if_true, and_self, Multiset.count_erase_self]
            omega
          | false =>
            simp only [Bool.false_eq_true, if_false, false_and]
            omega
        · have different : ¬ (event.releases = true ∧ some other = some k) :=
            fun both => same (Option.some.inj both.2)
          rw [if_neg different]
          cases event.releases with
          | true =>
            simp only [if_true, Multiset.count_erase_of_ne (Ne.symm same)]
            omega
          | false =>
            simp only [Bool.false_eq_true, if_false]
            omega
      · cases accounted

/-- The beginning of a ledger that goes well goes well. -/
theorem holding_front {front back : List (Event K)} {held : Multiset K}
    (holds : holding (front ++ back) = some held) : ∃ before, holding front = some before := by
  induction back using List.reverseRecOn generalizing held with
  | nil => exact ⟨held, by simpa using holds⟩
  | append_singleton back event ih =>
    rw [← List.append_assoc, holding_concat] at holds
    obtain ⟨before, held_before, _⟩ := Option.bind_eq_some_iff.mp holds
    exact ih held_before

/-- In a ledger that goes well, each event works on something that is held. -/
theorem proper_of_holding {events : List (Event K)} {held : Multiset K}
    (holds : holding events = some held) : Proper events := by
  rintro before event after rfl k works
  rw [← List.singleton_append, ← List.append_assoc] at holds
  obtain ⟨mid, upto⟩ := holding_front holds
  rw [holding_concat] at upto
  obtain ⟨had, held_before, accounted⟩ := Option.bind_eq_some_iff.mp upto
  -- An account that a key is missing from ends with none.
  have member : k ∈ had := by
    unfold account at accounted
    rw [works] at accounted
    by_contra missing
    simp [missing] at accounted
  have counted := count_holding held_before k
  have positive : 0 < had.count k := Multiset.count_pos.mpr member
  omega

/-- If nothing is handed out while it is held, nothing is held twice. -/
theorem gained_le_of_fresh {events : List (Event K)} (fresh : Fresh events) (k : K) :
    gained k events ≤ released k events + 1 := by
  induction events using List.reverseRecOn with
  | nil => simp [gained]
  | append_singleton events event ih =>
    -- A beginning of fresh events is fresh.
    have before : Fresh events := by
      rintro front other back rfl j gains
      exact fresh front other (back ++ [event]) (by simp) j gains
    have bounded := ih before
    simp only [gained, released, List.countP_append, List.countP_singleton] at bounded ⊢
    by_cases gains : event.gains = some k
    · have balanced := fresh events event [] rfl k gains
      simp only [gained, released] at balanced
      simp only [gains, decide_true, if_true]
      omega
    · simp only [gains, decide_false, Bool.false_eq_true, if_false]
      omega

end Ledger
