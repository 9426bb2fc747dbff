import Mathlib.Algebra.Group.Nat.Defs
import Mathlib.Data.List.Basic

/-! Bytes written with sixty-four letters, three at a time. -/

namespace Base64

/-- A capital or small letter, a digit, a plus sign, or a slash. -/
def isLetter (byte : UInt8) : Bool :=
  (65 ≤ byte && byte ≤ 90) || (97 ≤ byte && byte ≤ 122) || (48 ≤ byte && byte ≤ 57) ||
    byte == 43 || byte == 47

/-- The letter for a number below sixty-four. -/
def letter (n : Nat) : UInt8 :=
  if n < 26 then UInt8.ofNat (65 + n)
  else if n < 52 then UInt8.ofNat (97 + (n - 26))
  else if n < 62 then UInt8.ofNat (48 + (n - 52))
  else if n = 62 then 43
  else 47

/-- The letters for four groups of six bits, first to last. -/
def letters (p : Nat) : List UInt8 :=
  [letter (p / 2 ^ 18 % 64), letter (p / 2 ^ 12 % 64), letter (p / 2 ^ 6 % 64), letter (p % 64)]

/-- Bytes in letters, filled up with equals signs. -/
def encodeBase64 : List UInt8 → List UInt8
  | a :: b :: c :: rest =>
    letters (a.toNat * 2 ^ 16 + b.toNat * 2 ^ 8 + c.toNat) ++ encodeBase64 rest
  | [a, b] => (letters (a.toNat * 2 ^ 16 + b.toNat * 2 ^ 8)).take 3 ++ [61]
  | [a] => (letters (a.toNat * 2 ^ 16)).take 2 ++ [61, 61]
  | [] => []

/-- Letters, with two equals signs at most behind them. -/
def isBase64String (text : List UInt8) : Bool :=
  let rest := text.dropWhile isLetter
  !(text.takeWhile isLetter).isEmpty && rest.all (· == 61) && rest.length ≤ 2

/-- The letter of a number is a letter. -/
theorem isLetter_letter {n : Nat} (small : n < 64) : isLetter (letter n) = true := by
  have all : ∀ n : Fin 64, isLetter (letter n) = true := by decide
  exact all ⟨n, small⟩

/-- Everything among the letters of a number is a letter. -/
theorem isLetter_letters (p : Nat) : ∀ byte ∈ letters p, isLetter byte = true := by
  intro byte among
  simp only [letters, List.mem_cons, List.not_mem_nil, or_false] at among
  rcases among with rfl | rfl | rfl | rfl
  · exact isLetter_letter (Nat.mod_lt _ (by decide))
  · exact isLetter_letter (Nat.mod_lt _ (by decide))
  · exact isLetter_letter (Nat.mod_lt _ (by decide))
  · exact isLetter_letter (Nat.mod_lt _ (by decide))

/-- Three bytes take four letters, and fewer bytes are filled up to four. -/
theorem length_encodeBase64 (bytes : List UInt8) :
    (encodeBase64 bytes).length = 4 * ((bytes.length + 2) / 3) := by
  induction bytes using encodeBase64.induct with
  | case1 a b c rest ih =>
    simp only [encodeBase64, letters, List.length_append, List.length_cons, List.length_nil, ih]
    omega
  | case2 a b => simp [encodeBase64, letters]
  | case3 a => simp [encodeBase64, letters]
  | case4 => rfl

/-- The text is letters, and as many equals signs behind them as bytes are missing from the last three. -/
theorem encodeBase64_filled (bytes : List UInt8) :
    ∃ text, encodeBase64 bytes = text ++ List.replicate ((3 - bytes.length % 3) % 3) 61 ∧
      (bytes ≠ [] → text ≠ []) ∧ ∀ byte ∈ text, isLetter byte = true := by
  induction bytes using encodeBase64.induct with
  | case1 a b c rest ih =>
    -- Three bytes are four letters in front of the text of the rest.
    obtain ⟨text, written, -, all⟩ := ih
    have same : (a :: b :: c :: rest).length % 3 = rest.length % 3 := by
      simp only [List.length_cons]
      omega
    refine ⟨letters (a.toNat * 2 ^ 16 + b.toNat * 2 ^ 8 + c.toNat) ++ text, ?_, by simp [letters], ?_⟩
    · rw [encodeBase64, written, List.append_assoc, same]
    · intro byte among
      rcases List.mem_append.mp among with here | later
      · exact isLetter_letters _ byte here
      · exact all byte later
  | case2 a b =>
    -- Two bytes are three letters and one equals sign.
    refine ⟨(letters (a.toNat * 2 ^ 16 + b.toNat * 2 ^ 8)).take 3, rfl, by simp [letters], ?_⟩
    intro byte among
    exact isLetter_letters _ byte (List.mem_of_mem_take among)
  | case3 a =>
    -- One byte is two letters and two equals signs.
    refine ⟨(letters (a.toNat * 2 ^ 16)).take 2, rfl, by simp [letters], ?_⟩
    intro byte among
    exact isLetter_letters _ byte (List.mem_of_mem_take among)
  | case4 => exact ⟨[], rfl, by simp, by simp⟩

/-- Every byte of the text is a letter or an equals sign, and no other byte is in it. -/
theorem not_mem_encodeBase64 {bytes : List UInt8} {byte : UInt8}
    (other : ¬(isLetter byte = true ∨ byte = 61)) : byte ∉ encodeBase64 bytes := by
  intro among
  obtain ⟨text, written, -, all⟩ := encodeBase64_filled bytes
  rw [written] at among
  rcases List.mem_append.mp among with letter | filler
  · exact other (.inl (all byte letter))
  · exact other (.inr (List.eq_of_mem_replicate filler))

/-- Where one byte is left behind the threes, two equals signs end the text, and letters fill it before. -/
theorem encodeBase64_single {bytes : List UInt8} (left : bytes.length % 3 = 1) :
    ∃ text, encodeBase64 bytes = text ++ [61, 61] ∧ text ≠ [] ∧ ∀ byte ∈ text, isLetter byte = true := by
  obtain ⟨text, written, nonempty, all⟩ := encodeBase64_filled bytes
  rw [left] at written
  refine ⟨text, written, nonempty ?_, all⟩
  rintro rfl
  cases left

/-- Such a text is one that is recognised. -/
theorem isBase64String_append {text : List UInt8} (some : text ≠ [])
    (all : ∀ byte ∈ text, isLetter byte = true) : isBase64String (text ++ [61, 61]) = true := by
  have front : (text ++ [61, 61]).takeWhile isLetter = text := by
    rw [List.takeWhile_append_of_pos all]
    simp [List.takeWhile, show isLetter 61 = false from rfl]
  have back : (text ++ [61, 61]).dropWhile isLetter = [61, 61] := by
    rw [List.dropWhile_append_of_pos all]
    rfl
  simp [isBase64String, front, back, some]

end Base64
