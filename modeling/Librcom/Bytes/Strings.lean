import Mathlib.Data.List.TakeWhile

/-! The strings of the standard library, as sequences of bytes. -/

namespace Rcom

/-- The characters of a string up to its first null character. -/
def cString (text : List UInt8) : List UInt8 := text.takeWhile (· ≠ 0)

/-- A text without null characters is its own string. -/
theorem cString_eq {text : List UInt8} (no_null : 0 ∉ text) : cString text = text := by
  apply List.takeWhile_eq_self_iff.mpr
  intro byte member
  simpa using fun null : byte = 0 => no_null (null ▸ member)

/-- What stands before and behind the last separator of a text. -/
def splitLast (separator : UInt8) : List UInt8 → Option (List UInt8 × List UInt8)
  | [] => none
  | byte :: rest =>
    match splitLast separator rest with
    | some (front, back) => some (byte :: front, back)
    | none => if byte = separator then some ([], rest) else none

/-- A text without the separator is not split. -/
theorem splitLast_none {separator : UInt8} {text : List UInt8} (absent : separator ∉ text) :
    splitLast separator text = none := by
  induction text with
  | nil => rfl
  | cons byte rest ih =>
    have other : byte ≠ separator := fun same => absent (by simp [same])
    rw [splitLast, ih fun member => absent (by simp [member])]
    exact if_neg other

/-- A text is split where a separator is followed by no other. -/
theorem splitLast_append {separator : UInt8} {back : List UInt8} (absent : separator ∉ back)
    (front : List UInt8) : splitLast separator (front ++ separator :: back) = some (front, back) := by
  induction front with
  | nil => rw [List.nil_append, splitLast, splitLast_none absent, if_pos rfl]
  | cons byte front ih => rw [List.cons_append, splitLast, ih]

/-- A text that cannot be split has no separator in it. -/
theorem not_mem_of_splitLast {separator : UInt8} {text : List UInt8}
    (whole : splitLast separator text = none) : separator ∉ text := by
  induction text with
  | nil => exact List.not_mem_nil
  | cons byte rest ih =>
    rw [splitLast] at whole
    -- The search looks behind the first byte before it looks at it.
    cases later : splitLast separator rest with
    | some parts =>
      rw [later] at whole
      cases whole
    | none =>
      rw [later] at whole
      dsimp only at whole
      split at whole
      · cases whole
      · next other => simp [Ne.symm other, ih later]

/-- Where a text was split, the separator stands between the parts and not in the second one. -/
theorem eq_of_splitLast {separator : UInt8} {text front back : List UInt8}
    (split : splitLast separator text = some (front, back)) :
    text = front ++ separator :: back ∧ separator ∉ back := by
  induction text generalizing front with
  | nil => cases split
  | cons byte rest ih =>
    rw [splitLast] at split
    cases later : splitLast separator rest with
    | some parts =>
      -- A separator further behind is the last one here as well.
      rw [later, Option.some.injEq, Prod.mk.injEq] at split
      obtain ⟨rfl, rfl⟩ := split
      obtain ⟨apart, absent⟩ := ih later
      exact ⟨by rw [apart, List.cons_append], absent⟩
    -- The text is split at its first byte, if anywhere.
    | none =>
      rw [later] at split
      dsimp only at split
      split at split
      · next same =>
        rw [Option.some.injEq, Prod.mk.injEq] at split
        obtain ⟨rfl, rfl⟩ := split
        exact ⟨by rw [same, List.nil_append], not_mem_of_splitLast later⟩
      · cases split

end Rcom
