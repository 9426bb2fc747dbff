import Librcom.Bytes.Strings
import Librcom.Json.Value

/-! Encoded characters that are put behind plain ones, or cut off where a C string ends. -/

namespace Json

open Rcom

/-- Plain characters in front leave the encoding of the others. -/
theorem isUtf8_append {front back : Text} (plain : isPlain front = true) (encoded : isUtf8 back = true) :
    isUtf8 (front ++ back) = true := by
  induction front with
  | nil => exact encoded
  | cons first rest ih =>
    simp only [isPlain, List.all_cons, Bool.and_eq_true, decide_eq_true_eq] at plain
    rw [List.cons_append]
    unfold isUtf8
    rw [if_pos plain.1]
    exact ih plain.2

/-- A byte within a character is none that ends a C string. -/
theorem ne_zero_of_isContinuation {byte : UInt8} (continues : isContinuation byte = true) :
    byte ≠ 0 := by
  rintro rfl
  exact absurd continues (by decide)

/-- A second byte of a character is a continuation byte. -/
theorem isContinuation_of_isSecond {first second : UInt8} (is : isSecond first second = true) :
    isContinuation second = true := by
  simp only [isSecond, Bool.and_eq_true] at is
  exact is.1.1.1.1

/-- A text is not cut at a byte other than zero. -/
theorem cString_cons {byte : UInt8} (other : byte ≠ 0) (rest : Text) :
    cString (byte :: rest) = byte :: cString rest := by
  simp [cString, other]

/-- A C string ends between two characters, since no other character holds its end. -/
theorem isUtf8_cString {text : Text} (encoded : isUtf8 text = true) :
    isUtf8 (cString text) = true := by
  -- A byte that is not plain begins a character, which is kept as a whole.
  have begins {first : UInt8} (character : ¬ first < 0x80) : first ≠ 0 := by
    rintro rfl
    exact character (by decide)
  fun_induction isUtf8 text with
  | case1 => rfl
  | case2 first rest plain ih =>
    -- A null character ends the text here.
    by_cases last : first = 0
    · simp [last, cString, isUtf8]
    · rw [cString_cons last]
      unfold isUtf8
      rw [if_pos plain]
      exact ih encoded
  | case3 first character => cases encoded
  | case4 first character second rest two ih =>
    rw [Bool.and_eq_true] at encoded
    obtain ⟨continues, encoded⟩ := encoded
    rw [cString_cons (begins character), cString_cons (ne_zero_of_isContinuation continues)]
    unfold isUtf8
    simp only [if_neg character, if_pos two, continues, ih encoded, Bool.and_self]
  | case5 first character second two => cases encoded
  | case6 first character second two third rest three ih =>
    rw [Bool.and_eq_true, Bool.and_eq_true] at encoded
    obtain ⟨⟨continues, continues'⟩, encoded⟩ := encoded
    -- None of the bytes of a longer character is a null character.
    have within := isContinuation_of_isSecond continues
    rw [cString_cons (begins character), cString_cons (ne_zero_of_isContinuation within),
      cString_cons (ne_zero_of_isContinuation continues')]
    unfold isUtf8
    simp only [if_neg character, if_neg two, if_pos three, continues, continues', ih encoded,
      Bool.and_self]
  | case7 first character second two third three => cases encoded
  | case8 first character second two third three fourth rest ih =>
    simp only [Bool.and_eq_true] at encoded
    obtain ⟨⟨⟨⟨begun, continues⟩, continues'⟩, continues''⟩, encoded⟩ := encoded
    have within := isContinuation_of_isSecond continues
    rw [cString_cons (begins character), cString_cons (ne_zero_of_isContinuation within),
      cString_cons (ne_zero_of_isContinuation continues'),
      cString_cons (ne_zero_of_isContinuation continues'')]
    unfold isUtf8
    simp only [if_neg character, if_neg two, if_neg three, continues, continues', continues'',
      ih encoded, Bool.and_true]
    simpa using begun

end Json
