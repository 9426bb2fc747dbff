import Mathlib.Data.Nat.Digits.Lemmas

/-! Fixed-width integers as byte strings, in either byte order. -/

namespace Endian

/-- The number a byte string denotes, least significant byte first. -/
def ofLittleEndian (bytes : List UInt8) : Nat :=
  Nat.ofDigits 256 (bytes.map UInt8.toNat)

/-- The given number of low bytes of a number, least significant byte first. -/
def toLittleEndian : Nat → Nat → List UInt8
  | 0, _ => []
  | width + 1, value => UInt8.ofNat value :: toLittleEndian width (value / 256)

/-- The given number of low bytes of a number, most significant byte first. -/
def toBigEndian (width value : Nat) : List UInt8 :=
  (toLittleEndian width value).reverse

/-- The number whose bytes are those of the argument in the opposite order. -/
def byteSwap (width value : Nat) : Nat :=
  ofLittleEndian (toBigEndian width value)

/-- As many bytes are written as the width says. -/
@[simp] theorem toLittleEndian_length (width value : Nat) :
    (toLittleEndian width value).length = width := by
  -- One byte is written for each step of the width.
  induction width generalizing value with
  | zero => rfl
  | succ width ih => simp [toLittleEndian, ih]

/-- The order of the bytes does not change how many are written. -/
@[simp] theorem toBigEndian_length (width value : Nat) :
    (toBigEndian width value).length = width := by
  simp [toBigEndian]

/-- A byte is a digit of the number, and the places count from the low end. -/
theorem toLittleEndian_getElem (width value : Nat) {i : Nat}
    (inside : i < (toLittleEndian width value).length) :
    (toLittleEndian width value)[i] = UInt8.ofNat (value / 256 ^ i) := by
  induction width generalizing value i with
  | zero => cases inside
  | succ width ih =>
    cases i with
    | zero => simp [toLittleEndian]
    | succ i =>
      -- The bytes behind the first are those of the quotient.
      simp only [toLittleEndian, List.getElem_cons_succ]
      rw [ih, Nat.div_div_eq_div_mul, Nat.pow_succ']

/-- The bytes of the highest places come first. -/
theorem toBigEndian_getElem (width value : Nat) {i : Nat}
    (inside : i < (toBigEndian width value).length) :
    (toBigEndian width value)[i] = UInt8.ofNat (value / 256 ^ (width - 1 - i)) := by
  simp only [toBigEndian, List.getElem_reverse, toLittleEndian_getElem, toLittleEndian_length]

/-- The first byte counts once, and all behind it 256 times. -/
theorem ofLittleEndian_cons (byte : UInt8) (rest : List UInt8) :
    ofLittleEndian (byte :: rest) = byte.toNat + 256 * ofLittleEndian rest := by
  simp [ofLittleEndian, Nat.ofDigits_cons]

/-- A byte string denotes a number that fits its width. -/
theorem ofLittleEndian_lt (bytes : List UInt8) : ofLittleEndian bytes < 256 ^ bytes.length := by
  -- Every digit is a byte, and the digit string is as long as the byte string.
  have bound := Nat.ofDigits_lt_base_pow_length (b := 256) (l := bytes.map UInt8.toNat) (by omega)
    (by
      intro digit member
      obtain ⟨byte, _, rfl⟩ := List.mem_map.mp member
      exact byte.toNat_lt)
  simpa [ofLittleEndian] using bound

/-- Writing a number and reading it back keeps what fits the width. -/
theorem ofLittleEndian_toLittleEndian (width value : Nat) :
    ofLittleEndian (toLittleEndian width value) = value % 256 ^ width := by
  induction width generalizing value with
  | zero => simp [toLittleEndian, ofLittleEndian, Nat.mod_one]
  | succ width ih =>
    -- The first byte is the low digit, and the rest is the quotient one width down.
    have digit : (UInt8.ofNat value).toNat = value % 256 := UInt8.toNat_ofNat'
    rw [toLittleEndian, ofLittleEndian_cons, ih, digit, Nat.pow_succ,
      Nat.mul_comm (256 ^ width), Nat.mod_mul]

/-- Reading a byte string and writing it back at its own width gives the byte string. -/
theorem toLittleEndian_ofLittleEndian (bytes : List UInt8) :
    toLittleEndian bytes.length (ofLittleEndian bytes) = bytes := by
  induction bytes with
  | nil => rfl
  | cons byte rest ih =>
    -- The low digit is the first byte itself, and the quotient is what the rest denotes.
    have small := byte.toNat_lt
    have quotient : (byte.toNat + 256 * ofLittleEndian rest) / 256 = ofLittleEndian rest := by
      omega
    have digit : UInt8.ofNat (byte.toNat + 256 * ofLittleEndian rest) = byte := by
      apply UInt8.toNat_inj.mp
      rw [UInt8.toNat_ofNat']
      omega
    rw [List.length_cons, ofLittleEndian_cons, toLittleEndian, quotient, digit, ih]

/-- The bytes of a swapped number are those of the number in the opposite order. -/
theorem toLittleEndian_byteSwap (width value : Nat) :
    toLittleEndian width (byteSwap width value) = toBigEndian width value := by
  have same := toLittleEndian_ofLittleEndian (toBigEndian width value)
  rwa [toBigEndian_length] at same

/-- Swapping what was read from memory reads the memory in the opposite order. -/
theorem byteSwap_ofLittleEndian (bytes : List UInt8) :
    byteSwap bytes.length (ofLittleEndian bytes) = ofLittleEndian bytes.reverse := by
  rw [byteSwap, toBigEndian, toLittleEndian_ofLittleEndian]

/-- A number written most significant byte first is read back by reversing the bytes. -/
theorem ofLittleEndian_reverse_toBigEndian (width value : Nat) :
    ofLittleEndian (toBigEndian width value).reverse = value % 256 ^ width := by
  rw [toBigEndian, List.reverse_reverse, ofLittleEndian_toLittleEndian]

/-- A number is read back from its own bytes in the opposite order by swapping them. -/
theorem byteSwap_toBigEndian (width : Nat) {value : Nat} (fits : value < 256 ^ width) :
    byteSwap width (ofLittleEndian (toBigEndian width value)) = value := by
  have swapped := byteSwap_ofLittleEndian (toBigEndian width value)
  rw [toBigEndian_length] at swapped
  rw [swapped, ofLittleEndian_reverse_toBigEndian, Nat.mod_eq_of_lt fits]

/-- Reading most significant byte first and writing the same way gives the bytes back. -/
theorem toBigEndian_ofLittleEndian_reverse (bytes : List UInt8) :
    toBigEndian bytes.length (ofLittleEndian bytes.reverse) = bytes := by
  have same := toLittleEndian_ofLittleEndian bytes.reverse
  rw [List.length_reverse] at same
  rw [toBigEndian, same, List.reverse_reverse]

/-- Bytes that are swapped after reading them are written again most significant byte first. -/
theorem toBigEndian_byteSwap {width : Nat} {bytes : List UInt8} (size : bytes.length = width) :
    toBigEndian width (byteSwap width (ofLittleEndian bytes)) = bytes := by
  subst size
  rw [byteSwap_ofLittleEndian, toBigEndian_ofLittleEndian_reverse]

/-- A swapped number fits the width. -/
theorem byteSwap_lt (width value : Nat) : byteSwap width value < 256 ^ width := by
  have bound := ofLittleEndian_lt (toBigEndian width value)
  rwa [toBigEndian_length] at bound

/-- Numbers of a width are told apart by their bytes. -/
theorem toBigEndian_inj {width value value' : Nat} (fits : value < 256 ^ width)
    (fits' : value' < 256 ^ width) (same : toBigEndian width value = toBigEndian width value') :
    value = value' := by
  rw [← byteSwap_toBigEndian width fits, same, byteSwap_toBigEndian width fits']

/-- What the bytes of all numbers below 256 have in common is common to all bytes. -/
@[elab_as_elim] theorem forall_byte {p : UInt8 → Prop}
    (all : ∀ n : Fin 256, p (UInt8.ofNat n.val)) (byte : UInt8) : p byte := by
  have one := all ⟨byte.toNat, byte.toNat_lt⟩
  rwa [UInt8.ofNat_toNat] at one

/-- Masking out one byte and shifting it down selects that byte. -/
theorem byte_of_mask (value shift : Nat) :
    UInt8.ofNat ((value &&& (255 <<< shift)) >>> shift) = UInt8.ofNat (value >>> shift) := by
  -- The shift undoes the one in the mask, and the mask keeps exactly the eight low bits.
  rw [Nat.shiftRight_and_distrib, Nat.shiftLeft_shiftRight]
  apply UInt8.toNat_inj.mp
  rw [UInt8.toNat_ofNat', UInt8.toNat_ofNat', Nat.and_two_pow_sub_one_eq_mod _ 8]
  exact Nat.mod_mod _ _

end Endian
