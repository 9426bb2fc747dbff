import Librcom.Bytes.Decimal
import Mathlib.Data.List.DropRight

/-! Texts that begin with a number, taken apart. -/

namespace Decimal

/-- The text is white space, a sign or none, digits, and a rest that no digit begins. -/
structure Numeral (text blanks signs number rest : List UInt8) : Prop where
  whole : text = blanks ++ (signs ++ (number ++ rest))
  blanks : ∀ byte ∈ blanks, isSpace byte = true
  signs : signs = [] ∨ signs = [43] ∨ signs = [45]
  nonempty : number ≠ []
  number : ∀ byte ∈ number, isDigit byte = true
  rest : rest.takeWhile isDigit = []

/-- The number that a sign and digits stand for. -/
def signed (signs number : List UInt8) : Int :=
  (if signs = [45] then -1 else 1) * ofDigits number

section Parts

variable {text blanks signs number rest : List UInt8}

/-- Where nothing is taken, nothing is dropped. -/
theorem dropWhile_eq_self {p : UInt8 → Bool} (stops : rest.takeWhile p = []) :
    rest.dropWhile p = rest := by
  have whole := List.takeWhile_append_dropWhile (p := p) (l := rest)
  rwa [stops, List.nil_append] at whole

/-- What stands behind the white space begins with a character that is none. -/
theorem Numeral.unspaced (numeral : Numeral text blanks signs number rest) :
    (signs ++ (number ++ rest)).takeWhile isSpace = [] := by
  -- What stands there is a sign, or the first digit of the number.
  obtain ⟨digit, others, rfl⟩ := List.exists_cons_of_ne_nil numeral.nonempty
  have first := isDigit_ne (numeral.number digit List.mem_cons_self)
  rcases numeral.signs with rfl | rfl | rfl
  · simp [first.1]
  · rfl
  · rfl

/-- The blanks in front are all of the blanks. -/
theorem Numeral.takeWhile_isSpace (numeral : Numeral text blanks signs number rest) :
    text.takeWhile isSpace = blanks := by
  rw [numeral.whole, List.takeWhile_append_of_pos numeral.blanks, numeral.unspaced, List.append_nil]

/-- Behind the blanks come the sign and the digits. -/
theorem Numeral.dropWhile_isSpace (numeral : Numeral text blanks signs number rest) :
    text.dropWhile isSpace = signs ++ (number ++ rest) := by
  rw [numeral.whole, List.dropWhile_append_of_pos numeral.blanks, dropWhile_eq_self numeral.unspaced]

/-- Behind the white space the sign is read, if there is one. -/
theorem Numeral.sign_eq (numeral : Numeral text blanks signs number rest) :
    sign (signs ++ (number ++ rest)) = (if signs = [45] then -1 else 1, number ++ rest) := by
  obtain ⟨digit, others, rfl⟩ := List.exists_cons_of_ne_nil numeral.nonempty
  have first := isDigit_ne (numeral.number digit List.mem_cons_self)
  -- The three ways to begin are tried one after the other, as the source does.
  rcases numeral.signs with rfl | rfl | rfl
  · simp [sign, first.2.1, first.2.2]
  · rfl
  · rfl

/-- The digits behind the sign are all of the digits. -/
theorem Numeral.takeWhile_isDigit (numeral : Numeral text blanks signs number rest) :
    (number ++ rest).takeWhile isDigit = number := by
  rw [List.takeWhile_append_of_pos numeral.number, numeral.rest, List.append_nil]

/-- A text that begins with a number is read as the number, if it fits. -/
theorem Numeral.stoi_eq (numeral : Numeral text blanks signs number rest) :
    stoi text = if -2 ^ 31 ≤ signed signs number ∧ signed signs number < 2 ^ 31
      then some (signed signs number) else none := by
  -- Each part of the text is taken off in front of the next one.
  unfold stoi
  rw [numeral.dropWhile_isSpace, numeral.sign_eq]
  simp only [numeral.takeWhile_isDigit, numeral.nonempty, if_false]
  rfl

/-- A sign that is read is one character, or none. -/
theorem sign_cases (text : List UInt8) :
    ∃ signs, (signs = [] ∨ signs = [43] ∨ signs = [45]) ∧ text = signs ++ (sign text).2 := by
  unfold sign
  -- A plus is looked for first, and then a minus.
  split
  · exact ⟨[], .inl rfl, rfl⟩
  · split
    · next plus => exact ⟨[43], .inr (.inl rfl), by simp [plus]⟩
    · split
      · next minus => exact ⟨[45], .inr (.inr rfl), by simp [minus]⟩
      · exact ⟨[], .inl rfl, rfl⟩

/-- Whatever is read as a number begins with one. -/
theorem exists_numeral {n : Int} (read : stoi text = some n) :
    ∃ blanks signs number rest, Numeral text blanks signs number rest := by
  obtain ⟨signs, kinds, apart⟩ := sign_cases (text.dropWhile isSpace)
  unfold stoi at read
  dsimp only at read
  split at read
  · cases read
  · next nonempty =>
    -- The parts are those that are taken off the text in turn.
    refine ⟨text.takeWhile isSpace, signs, _, (sign (text.dropWhile isSpace)).2.dropWhile isDigit, ?_,
      fun _ member => List.mem_takeWhile_imp member, kinds, nonempty,
      fun _ member => List.mem_takeWhile_imp member, ?_⟩
    · rw [List.takeWhile_append_dropWhile, ← apart, List.takeWhile_append_dropWhile]
    · -- No digit is left where the digits were taken off.
      have again := List.takeWhile_append_dropWhile (p := isDigit)
        (l := (sign (text.dropWhile isSpace)).2.dropWhile isDigit)
      rw [List.dropWhile_idempotent] at again
      exact List.self_eq_append_left.mp again.symm

/-- A text begins with a number in one way only. -/
theorem Numeral.unique {blanks' signs' number' rest' : List UInt8}
    (first : Numeral text blanks signs number rest)
    (second : Numeral text blanks' signs' number' rest') :
    blanks = blanks' ∧ signs = signs' ∧ number = number' ∧ rest = rest' := by
  -- The parts are what the functions of the library take off the text, which are functions.
  have before : blanks = blanks' := first.takeWhile_isSpace.symm.trans second.takeWhile_isSpace
  have behind : signs ++ (number ++ rest) = signs' ++ (number' ++ rest') :=
    first.dropWhile_isSpace.symm.trans second.dropWhile_isSpace
  have read : sign (signs ++ (number ++ rest)) = sign (signs' ++ (number' ++ rest')) :=
    congrArg sign behind
  rw [first.sign_eq, second.sign_eq, Prod.mk.injEq] at read
  have signs_same : signs = signs' := by
    rw [read.2] at behind
    exact List.append_cancel_right behind
  have number_same : number = number' := by
    rw [← first.takeWhile_isDigit, read.2, second.takeWhile_isDigit]
  refine ⟨before, signs_same, number_same, ?_⟩
  have rests := read.2
  rw [number_same] at rests
  exact List.append_cancel_left rests

end Parts

end Decimal
