import Mathlib.Data.List.Basic

/-! Lists of entries that belong to several parties, and the part of each party. -/

namespace Effects

variable {κ α β : Type} [DecidableEq κ] {key : κ} {entries : List (κ × α)}

/-- The entries of one party, in their order. -/
def part (key : κ) (entries : List (κ × α)) : List α :=
  entries.filterMap fun entry => if entry.1 = key then some entry.2 else none

/-- What is chosen of each entry, for the same parties. -/
def choose (f : α → Option β) (entries : List (κ × α)) : List (κ × β) :=
  entries.filterMap fun entry => (f entry.2).map (entry.1, ·)

/-- No entries have no part. -/
@[simp] theorem part_nil : part key ([] : List (κ × α)) = [] := rfl

/-- The part of two lists is that of the one and then that of the other. -/
@[simp] theorem part_append (later : List (κ × α)) :
    part key (entries ++ later) = part key entries ++ part key later :=
  List.filterMap_append

/-- An entry of the owner comes first in its part. -/
@[simp] theorem part_cons_self (a : α) : part key ((key, a) :: entries) = a :: part key entries := by
  simp [part]

/-- An entry of another owner is not in the part. -/
@[simp] theorem part_cons_other {owner : κ} (other : owner ≠ key) (a : α) :
    part key ((owner, a) :: entries) = part key entries := by
  simp [part, other]

/-- A party that has no entry has an empty part. -/
theorem part_of_absent (absent : ∀ entry ∈ entries, entry.1 ≠ key) : part key entries = [] := by
  apply List.filterMap_eq_nil_iff.mpr
  intro entry member
  rw [if_neg (absent entry member)]

omit [DecidableEq κ] in
/-- What is chosen of two lists is chosen of each. -/
@[simp] theorem choose_append (f : α → Option β) (later : List (κ × α)) :
    choose f (entries ++ later) = choose f entries ++ choose f later :=
  List.filterMap_append

end Effects
