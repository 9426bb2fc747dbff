import Mathlib.Algebra.Group.Int.Defs
import Mathlib.Algebra.Group.Nat.Defs
import Mathlib.Data.List.TakeWhile

/-! Numbers written in decimal digits, and read back from them. -/

namespace Decimal

/-- The byte is one of the ten digits. -/
def isDigit (byte : UInt8) : Bool := 48 ≤ byte && byte ≤ 57

/-- The digit of a number below ten. -/
def digit (n : Nat) : UInt8 := UInt8.ofNat (48 + n)

/-- The number a digit stands for. -/
def valueOf (byte : UInt8) : Nat := byte.toNat - 48

/-- The digits of a number that needs no more than the given count of them. -/
def digits : Nat → Nat → List UInt8
  | 0, _ => []
  | count + 1, n => if n < 10 then [digit n] else digits count (n / 10) ++ [digit (n % 10)]

/-- A number in decimal digits, without leading zeros. -/
def decimal (n : Nat) : List UInt8 := digits (n + 1) n

/-- The number that a sequence of digits stands for. -/
def ofDigits (text : List UInt8) : Nat :=
  text.foldl (fun value byte => 10 * value + valueOf byte) 0

/-- The digits stand one behind the other, from the zero on. -/
theorem digit_toNat {n : Nat} (small : n < 10) : (digit n).toNat = 48 + n := by
  rw [digit, UInt8.toNat_ofNat']
  omega

/-- The digit of a number is a digit. -/
theorem isDigit_digit {n : Nat} (small : n < 10) : isDigit (digit n) = true := by
  have value := digit_toNat small
  simp only [isDigit, Bool.and_eq_true, decide_eq_true_eq, UInt8.le_iff_toNat_le, value]
  constructor
  · show 48 ≤ 48 + n
    omega
  · show 48 + n ≤ 57
    omega

/-- The value of a digit is read back. -/
theorem valueOf_digit {n : Nat} (small : n < 10) : valueOf (digit n) = n := by
  rw [valueOf, digit_toNat small]
  omega

/-- Any number of digits that suffices gives the same digits. -/
theorem digits_eq {count n : Nat} (enough : n < count) : digits count n = decimal n := by
  -- The quotient by ten is smaller, so that the induction is on the number.
  induction n using Nat.strongRecOn generalizing count with
  | _ n ih =>
    obtain ⟨count, rfl⟩ : ∃ m, count = m + 1 := ⟨count - 1, by omega⟩
    rw [decimal, digits, digits]
    by_cases small : n < 10
    · rw [if_pos small, if_pos small]
    · rw [if_neg small, if_neg small, ih (n / 10) (by omega) (by omega),
        ih (n / 10) (by omega) (by omega)]

/-- The last digit is the remainder by ten, behind the digits of the quotient. -/
theorem decimal_eq (n : Nat) :
    decimal n = if n < 10 then [digit n] else decimal (n / 10) ++ [digit (n % 10)] := by
  rw [decimal, digits]
  by_cases small : n < 10
  · rw [if_pos small, if_pos small]
  · rw [if_neg small, if_neg small, digits_eq (by omega)]

/-- A number is written in digits only. -/
theorem isDigit_decimal (n : Nat) : ∀ byte ∈ decimal n, isDigit byte = true := by
  induction n using Nat.strongRecOn with
  | _ n ih =>
    intro byte member
    rw [decimal_eq] at member
    -- A small number is one digit; any other is a tenth of it and a last digit.
    split at member
    · rename_i small
      rw [List.mem_singleton.mp member]
      exact isDigit_digit small
    · rcases List.mem_append.mp member with higher | last
      · exact ih (n / 10) (by omega) byte higher
      · rw [List.mem_singleton.mp last]
        exact isDigit_digit (by omega)

/-- A number below a power of ten has at most as many digits as the power. -/
theorem length_decimal_le {n count : Nat} (small : n < 10 ^ (count + 1)) :
    (decimal n).length ≤ count + 1 := by
  induction count generalizing n with
  | zero =>
    rw [decimal_eq, if_pos (by simpa using small)]
    simp
  | succ count ih =>
    rw [decimal_eq]
    split
    · simp
    · have higher := ih (by rw [Nat.pow_succ] at small; omega : n / 10 < 10 ^ (count + 1))
      simp only [List.length_append, List.length_singleton]
      omega

/-- A number has a digit at least. -/
theorem decimal_ne_nil (n : Nat) : decimal n ≠ [] := by
  rw [decimal_eq]
  split <;> simp

/-- A digit behind others makes ten of each of them. -/
theorem ofDigits_append (text : List UInt8) (byte : UInt8) :
    ofDigits (text ++ [byte]) = 10 * ofDigits text + valueOf byte := by
  simp [ofDigits, List.foldl_append]

/-- The digits of a number stand for it. -/
theorem ofDigits_decimal (n : Nat) : ofDigits (decimal n) = n := by
  induction n using Nat.strongRecOn with
  | _ n ih =>
    rw [decimal_eq]
    split
    · rename_i small
      have single := ofDigits_append [] (digit n)
      rw [List.nil_append] at single
      rw [single, valueOf_digit small]
      simp [ofDigits]
    · -- The last digit is added to ten times the rest.
      rw [ofDigits_append, ih (n / 10) (by omega), valueOf_digit (by omega)]
      omega

/-- The byte is white space. -/
def isSpace (byte : UInt8) : Bool := byte == 32 || (9 ≤ byte && byte ≤ 13)

/-- The sign in front of a number, which may be absent. -/
def sign : List UInt8 → Int × List UInt8
  | [] => (1, [])
  | first :: rest =>
    if first = 43 then (1, rest) else if first = 45 then (-1, rest) else (1, first :: rest)

/--
The number at the beginning of a text, behind white space and a sign.

There is none where no digit follows, or where the number does not fit thirty-two bits.
-/
def stoi (text : List UInt8) : Option Int :=
  let (factor, rest) := sign (text.dropWhile isSpace)
  let number := rest.takeWhile isDigit
  if number = [] then none
  else
    let value := factor * ofDigits number
    if -2 ^ 31 ≤ value ∧ value < 2 ^ 31 then some value else none

/--
The number at the beginning of a text, behind white space and a sign, and the text behind it.

Where no digit follows, the number is zero and the text is all of it. The limits of the number are left out.
-/
def strtol (text : List UInt8) : Int × List UInt8 :=
  let (factor, rest) := sign (text.dropWhile isSpace)
  let number := rest.takeWhile isDigit
  if number = [] then (0, text) else (factor * ofDigits number, rest.dropWhile isDigit)

/-- A digit is neither white space nor a sign. -/
theorem isDigit_ne {byte : UInt8} (leading : isDigit byte = true) :
    isSpace byte = false ∧ byte ≠ 43 ∧ byte ≠ 45 := by
  have different (other : UInt8) (sign : isDigit other = false) : byte ≠ other := by
    rintro rfl
    rw [sign] at leading
    cases leading
  simp only [isDigit, Bool.and_eq_true, decide_eq_true_eq, UInt8.le_iff_toNat_le] at leading
  have low : 48 ≤ byte.toNat := leading.1
  refine ⟨?_, different 43 rfl, different 45 rfl⟩
  -- All white space stands before the digits.
  simp only [isSpace, Bool.or_eq_false_iff, beq_eq_false_iff_ne, Bool.and_eq_false_iff,
    decide_eq_false_iff_not, UInt8.le_iff_toNat_le]
  refine ⟨different 32 rfl, .inr ?_⟩
  show ¬ byte.toNat ≤ 13
  omega

/-- A number has no white space and no sign in front of it. -/
theorem sign_decimal (n : Nat) : sign ((decimal n).dropWhile isSpace) = (1, decimal n) := by
  have all := isDigit_decimal n
  cases text : decimal n with
  | nil => exact absurd text (decimal_ne_nil n)
  | cons first rest =>
    obtain ⟨unspaced, plus, minus⟩ := isDigit_ne (all first (by simp [text]))
    rw [List.dropWhile_cons_of_neg (by simp [unspaced]), sign, if_neg plus, if_neg minus]

/-- A number that fits is read from its digits. -/
theorem stoi_decimal {n : Nat} (fits : n < 2 ^ 31) : stoi (decimal n) = some (n : Int) := by
  have whole : (decimal n).takeWhile isDigit = decimal n :=
    List.takeWhile_eq_self_iff.mpr (isDigit_decimal n)
  unfold stoi
  rw [sign_decimal]
  simp only [whole, decimal_ne_nil, if_false, ofDigits_decimal, Int.one_mul]
  rw [if_pos (by omega)]

/-- A number is read from its digits, and nothing is left behind them. -/
theorem strtol_decimal (n : Nat) : strtol (decimal n) = ((n : Int), []) := by
  have whole : (decimal n).takeWhile isDigit = decimal n :=
    List.takeWhile_eq_self_iff.mpr (isDigit_decimal n)
  have nothing : (decimal n).dropWhile isDigit = [] :=
    List.dropWhile_eq_nil_iff.mpr (isDigit_decimal n)
  unfold strtol
  rw [sign_decimal]
  simp only [whole, nothing, decimal_ne_nil, if_false, ofDigits_decimal, Int.one_mul]

end Decimal
