/-! Texts that differ in the case of their letters only. -/

namespace Rcom

/-- The small letter for a capital one, and any other byte as it is. -/
def lower (c : UInt8) : UInt8 := if 65 ≤ c && c ≤ 90 then c + 32 else c

/-- The texts have the same letters, capital or small. -/
def SameLetters (text text' : List UInt8) : Prop := text.map lower = text'.map lower

instance (text text' : List UInt8) : Decidable (SameLetters text text') :=
  inferInstanceAs (Decidable (_ = _))

namespace SameLetters

variable {text text' text'' : List UInt8}

/-- A text has its own letters. -/
theorem refl (text : List UInt8) : SameLetters text text := rfl

/-- If one text has the letters of another, the other has those of the one. -/
theorem symm (same : SameLetters text text') : SameLetters text' text := Eq.symm same

/-- Texts with the letters of one text have the letters of each other. -/
theorem trans (same : SameLetters text text') (same' : SameLetters text' text'') :
    SameLetters text text'' := Eq.trans same same'

/-- Capital letters take as much room as small ones. -/
theorem length (same : SameLetters text text') : text'.length = text.length := by
  have sizes := congrArg List.length same
  simpa only [List.length_map] using sizes.symm

/-- What does not depend on letter case holds of all bytes of both texts. -/
theorem all (same : SameLetters text text') {p : UInt8 → Bool} (caseless : ∀ c, p (lower c) = p c)
    (holds : ∀ c ∈ text, p c = true) : ∀ c ∈ text', p c = true := by
  intro c member
  -- The byte has the same small letter as some byte of the other text.
  have small : lower c ∈ text.map lower := same ▸ List.mem_map_of_mem member
  obtain ⟨d, member', alike⟩ := List.mem_map.mp small
  rw [← caseless c, ← alike, caseless d]
  exact holds d member'

/-- Nor does what is asked of the first byte. -/
theorem head (same : SameLetters text text') {c : UInt8} (caseless : ∀ d, lower d = lower c → d = c)
    (other : text.head? ≠ some c) : text'.head? ≠ some c := by
  intro first
  have firsts := congrArg List.head? same
  rw [List.head?_map, List.head?_map, first] at firsts
  obtain ⟨d, begins, alike⟩ := Option.map_eq_some_iff.mp firsts
  rw [caseless d alike] at begins
  exact other begins

end SameLetters

end Rcom
