import Mathlib.Data.List.Induction
import Mathlib.Logic.Function.Basic

/-! Maps that are changed one key at a time, and what the latest change of a key was. -/

namespace History

/-- A change of a map: a key gets a value, or loses the one it has. -/
inductive Change (K V : Type) where
  | put (key : K) (value : V)
  | drop (key : K)

variable {K V : Type}

def Change.key : Change K V → K
  | .put key _ => key
  | .drop key => key

/-- The last change of the key gave it the value. -/
def Latest (changes : List (Change K V)) (key : K) (value : V) : Prop :=
  ∃ before after, changes = before ++ .put key value :: after ∧ ∀ change ∈ after, change.key ≠ key

/-- A change of another key leaves the latest one of a key. -/
theorem latest_concat_other {changes : List (Change K V)} {last : Change K V} {key : K} {value : V}
    (other : last.key ≠ key) : Latest (changes ++ [last]) key value ↔ Latest changes key value := by
  constructor
  · rintro ⟨before, after, split, untouched⟩
    rcases List.eq_nil_or_concat after with rfl | ⟨front, final, rfl⟩
    · -- The change of the key itself would be the last one.
      rw [← List.concat_eq_append, ← List.concat_eq_append] at split
      obtain ⟨_, rfl⟩ := List.concat_inj.mp split
      exact absurd rfl other
    · rw [List.concat_eq_append] at split untouched
      rw [← List.cons_append, ← List.append_assoc] at split
      obtain ⟨rfl, _⟩ := List.append_inj' split rfl
      refine ⟨before, front, rfl, fun change member => untouched change ?_⟩
      simp [member]
  · -- The added change stands behind the latest one and has another key.
    rintro ⟨before, after, rfl, untouched⟩
    refine ⟨before, after ++ [last], by simp, fun change member => ?_⟩
    rcases List.mem_append.mp member with earlier | final
    · exact untouched change earlier
    · rwa [List.mem_singleton.mp final]

/-- The last change of all is the latest one of its key. -/
theorem latest_concat_same {changes : List (Change K V)} {last : Change K V} {value : V} :
    Latest (changes ++ [last]) last.key value ↔ last = .put last.key value := by
  constructor
  · rintro ⟨before, after, split, untouched⟩
    rcases List.eq_nil_or_concat after with rfl | ⟨front, final, rfl⟩
    · exact List.singleton_inj.mp (List.append_inj' split rfl).2
    · rw [List.concat_eq_append] at split untouched
      rw [← List.cons_append, ← List.append_assoc] at split
      -- Were the latest change an earlier one, then the last would be among those that leave the key alone.
      obtain ⟨_, same⟩ := List.append_inj' split rfl
      obtain rfl := List.singleton_inj.mp same
      exact absurd rfl (untouched last (by simp))
  · intro puts
    exact ⟨changes, [], by rw [← puts], by simp⟩

variable [DecidableEq K]

/-- The map after a change. -/
def change (map : K → Option V) : Change K V → K → Option V
  | .put key value => Function.update map key (some value)
  | .drop key => Function.update map key none

/-- What changes make of the empty map. -/
def contents (changes : List (Change K V)) : K → Option V := changes.foldl change fun _ => none

/-- The last change is made to what the others have left. -/
@[simp] theorem contents_concat (changes : List (Change K V)) (last : Change K V) :
    contents (changes ++ [last]) = change (contents changes) last := by
  simp [contents]

/-- A change leaves the values of the other keys. -/
theorem change_other (map : K → Option V) {last : Change K V} {key : K} (other : last.key ≠ key) :
    change map last key = map key := by
  cases last with
  | put key' value => exact Function.update_of_ne (Ne.symm other) _ _
  | drop key' => exact Function.update_of_ne (Ne.symm other) _ _

/-- A map holds for each key the value of its latest change. -/
theorem contents_eq_some {changes : List (Change K V)} {key : K} {value : V} :
    contents changes key = some value ↔ Latest changes key value := by
  induction changes using List.reverseRecOn with
  | nil =>
    constructor
    · intro impossible
      cases impossible
    · rintro ⟨before, after, split, _⟩
      simp at split
  | append_singleton changes last ih =>
    rw [contents_concat]
    -- Only a last change of the same key decides; behind any other the shorter history does.
    by_cases same : last.key = key
    · subst same
      rw [latest_concat_same]
      cases last with
      | put key' value' => simp [change, Change.key]
      | drop key' => simp [change, Change.key]
    · rw [change_other _ same, ih, latest_concat_other same]

/-- What changes make of a map. -/
def since (map : K → Option V) (changes : List (Change K V)) : K → Option V := changes.foldl change map

/-- The last change is made to what the others have left of the map. -/
@[simp] theorem since_concat (map : K → Option V) (changes : List (Change K V)) (last : Change K V) :
    since map (changes ++ [last]) = change (since map changes) last := by
  simp [since]

/-- A change of a key does not depend on what the key had. -/
theorem change_same (map map' : K → Option V) (last : Change K V) :
    change map last last.key = change map' last last.key := by
  cases last with
  | put key value => simp [change, Change.key]
  | drop key => simp [change, Change.key]

/-- A key that was changed holds what the changes make of the empty map, and any other what it held. -/
theorem since_apply (map : K → Option V) (changes : List (Change K V)) (key : K) :
    since map changes key =
      if ∃ change ∈ changes, change.key = key then contents changes key else map key := by
  induction changes using List.reverseRecOn with
  | nil => simp [since]
  | append_singleton changes last ih =>
    rw [since_concat, contents_concat]
    by_cases same : last.key = key
    · subst same
      rw [if_pos ⟨last, by simp, rfl⟩, change_same]
    · -- The last change is of another key, and whether the key was changed was settled before.
      rw [change_other _ same, change_other _ same, ih]
      have earlier : (∃ change ∈ changes ++ [last], change.key = key) ↔
          ∃ change ∈ changes, change.key = key := by
        simp [same, or_and_right, exists_or]
      simp only [earlier]

/-- The key has the value after the changes: from its latest change, or from before if it was left alone. -/
def Holds (map : K → Option V) (changes : List (Change K V)) (key : K) (value : V) : Prop :=
  Latest changes key value ∨ (∀ change ∈ changes, change.key ≠ key) ∧ map key = some value

/-- What changes make of a map is what its keys have after them. -/
theorem since_eq_some {map : K → Option V} {changes : List (Change K V)} {key : K} {value : V} :
    since map changes key = some value ↔ Holds map changes key value := by
  rw [since_apply, Holds]
  -- Where a change has the key, the map before does not count.
  by_cases changed : ∃ change ∈ changes, change.key = key
  · rw [if_pos changed, contents_eq_some]
    obtain ⟨change, member, same⟩ := changed
    constructor
    · exact Or.inl
    · rintro (latest | ⟨alone, -⟩)
      · exact latest
      · exact absurd same (alone change member)
  · rw [if_neg changed]
    have alone : ∀ change ∈ changes, change.key ≠ key := fun change member same =>
      changed ⟨change, member, same⟩
    constructor
    · intro held
      exact .inr ⟨alone, held⟩
    · rintro (⟨before, after, rfl, -⟩ | ⟨-, held⟩)
      · -- A latest change would be a change of the key.
        exact absurd rfl (alone (.put key value) (by simp))
      · exact held

end History
