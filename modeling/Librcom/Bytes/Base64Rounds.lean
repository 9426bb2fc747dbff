import Librcom.Bytes.Base64

/-! The loop that writes bytes in letters, and how a text of letters is read. -/

namespace Base64

/-- The sixty-four letters, in the order of the numbers that they stand for. -/
def table : List UInt8 :=
  [65, 66, 67, 68, 69, 70, 71, 72, 73, 74, 75, 76, 77, 78, 79, 80, 81, 82, 83, 84, 85, 86, 87, 88, 89, 90,
    97, 98, 99, 100, 101, 102, 103, 104, 105, 106, 107, 108, 109, 110, 111, 112, 113, 114, 115, 116, 117,
    118, 119, 120, 121, 122, 48, 49, 50, 51, 52, 53, 54, 55, 56, 57, 43, 47]

/-- The entry of the table for the last six bits. -/
def entry (bits : UInt32) : UInt8 := table.getD (bits &&& 0x3F).toNat 0

/-- The rounds of the loop from an index on, which append to what is there already. -/
def encodeRounds (data : List UInt8) (i : Nat) (out : List UInt8) : List UInt8 :=
  if i < data.length then
    match data.length - i with
    | 1 =>
      let a := (data.getD i 0).toUInt32
      let p := a <<< 0x10
      encodeRounds data (i + 1) (out ++ [entry (p >>> 18), entry (p >>> 12), 61, 61])
    | 2 =>
      let a := (data.getD i 0).toUInt32
      let b := (data.getD (i + 1) 0).toUInt32
      let p := (a <<< 0x10) + (b <<< 0x08)
      encodeRounds data (i + 2) (out ++ [entry (p >>> 18), entry (p >>> 12), entry (p >>> 6), 61])
    | _ =>
      -- Of three bytes or more, a round takes three.
      let a := (data.getD i 0).toUInt32
      let b := (data.getD (i + 1) 0).toUInt32
      let c := (data.getD (i + 2) 0).toUInt32
      let p := (a <<< 0x10) + (b <<< 0x08) + c
      encodeRounds data (i + 3)
        (out ++ [entry (p >>> 18), entry (p >>> 12), entry (p >>> 6), entry p])
  else out
termination_by data.length - i

section Rounds

/-- The table has the letters in their order. -/
theorem entry_eq (bits : UInt32) : entry bits = letter (bits.toNat % 64) := by
  have all : ∀ n : Fin 64, table.getD n 0 = letter n := by decide
  have six : (bits &&& 0x3F).toNat = bits.toNat % 64 := by
    rw [UInt32.toNat_and]
    exact Nat.and_two_pow_sub_one_eq_mod _ 6
  rw [entry, six]
  exact all ⟨bits.toNat % 64, Nat.mod_lt _ (by decide)⟩

/-- Six bits at a time, the entries are the letters. -/
theorem entries_eq (p : UInt32) :
    [entry (p >>> 18), entry (p >>> 12), entry (p >>> 6), entry p] = letters p.toNat := by
  simp [letters, entry_eq, Nat.shiftRight_eq_div_pow]

/-- Three bytes make a number of twenty-four bits, in which nothing is lost. -/
theorem toNat_packed (a b c : UInt8) :
    ((a.toUInt32 <<< 0x10) + (b.toUInt32 <<< 0x08) + c.toUInt32).toNat =
      a.toNat * 2 ^ 16 + b.toNat * 2 ^ 8 + c.toNat := by
  have small := a.toNat_lt
  have small' := b.toNat_lt
  have small'' := c.toNat_lt
  simp [Nat.shiftLeft_eq]
  omega

/-- The number has zeros for a byte that is missing. -/
theorem toNat_packed_two (a b : UInt8) :
    ((a.toUInt32 <<< 0x10) + (b.toUInt32 <<< 0x08)).toNat = a.toNat * 2 ^ 16 + b.toNat * 2 ^ 8 := by
  have packed := toNat_packed a b 0
  simpa using packed

/-- One byte that is left over stands in the highest eight of twenty-four bits. -/
theorem toNat_packed_one (a : UInt8) : (a.toUInt32 <<< 0x10).toNat = a.toNat * 2 ^ 16 := by
  have packed := toNat_packed_two a 0
  simpa using packed

/-- What is left from an index on begins with the byte at the index. -/
theorem drop_eq_cons {data : List UInt8} {i : Nat} (inside : i < data.length) :
    data.drop i = data.getD i 0 :: data.drop (i + 1) := by
  rw [List.drop_eq_getElem_cons inside, List.getD_eq_getElem?_getD, List.getElem?_eq_getElem inside,
    Option.getD_some]

/-- The rounds from an index on append the text of the bytes from there on. -/
theorem encodeRounds_eq (data : List UInt8) (i : Nat) (out : List UInt8) :
    encodeRounds data i out = out ++ encodeBase64 (data.drop i) := by
  -- Each round takes from one to three bytes, which are the first of those that are left.
  fun_induction encodeRounds data i out with
  -- One byte is left: it gives two letters, and the others are padding.
  | case1 i out inside left a p ih =>
    have taken : data.drop i = [data.getD i 0] := by
      rw [drop_eq_cons inside, List.drop_eq_nil_of_le (by omega)]
    have written : [entry (p >>> 18), entry (p >>> 12)] =
        (letters ((data.getD i 0).toNat * 2 ^ 16)).take 2 := by
      rw [← toNat_packed_one, ← entries_eq]
      rfl
    rw [ih, List.drop_eq_nil_of_le (by omega), taken, encodeBase64, encodeBase64, List.append_nil,
      ← written]
    rfl
  -- Two bytes are left, which give three letters.
  | case2 i out inside left a b p ih =>
    have taken : data.drop i = [data.getD i 0, data.getD (i + 1) 0] := by
      rw [drop_eq_cons inside, drop_eq_cons (by omega), List.drop_eq_nil_of_le (by omega)]
    have written : [entry (p >>> 18), entry (p >>> 12), entry (p >>> 6)] =
        (letters ((data.getD i 0).toNat * 2 ^ 16 + (data.getD (i + 1) 0).toNat * 2 ^ 8)).take 3 := by
      rw [← toNat_packed_two, ← entries_eq]
      rfl
    rw [ih, List.drop_eq_nil_of_le (by omega), taken, encodeBase64, encodeBase64, List.append_nil,
      ← written]
    rfl
  | case3 i out inside a b c p single double ih =>
    have three : i + 2 < data.length := by
      have one : data.length - i ≠ 1 := single
      have two : data.length - i ≠ 2 := double
      omega
    have taken : data.drop i =
        data.getD i 0 :: data.getD (i + 1) 0 :: data.getD (i + 2) 0 :: data.drop (i + 3) := by
      rw [drop_eq_cons inside, drop_eq_cons (by omega), drop_eq_cons three]
    rw [ih, taken, encodeBase64, ← toNat_packed, ← entries_eq, List.append_assoc]
  | case4 i out outside =>
    rw [List.drop_eq_nil_of_le (by omega), encodeBase64, List.append_nil]

end Rounds

section Decoding

/-- The number that a letter stands for. -/
def number (byte : UInt8) : Option Nat := table.idxOf? byte

/--
The bytes that a text of letters stands for.

Four letters are three bytes. Equals signs stand for the letters that are missing from the last four.
-/
def decodeBase64 : List UInt8 → Option (List UInt8)
  | [] => some []
  | a :: b :: c :: d :: rest =>
    if d ≠ 61 then do
      let p := (← number a) * 2 ^ 18 + (← number b) * 2 ^ 12 + (← number c) * 2 ^ 6 + (← number d)
      let bytes ← decodeBase64 rest
      return UInt8.ofNat (p / 2 ^ 16) :: UInt8.ofNat (p / 2 ^ 8) :: UInt8.ofNat p :: bytes
    else if rest ≠ [] then none
    else if c ≠ 61 then do
      let p := (← number a) * 2 ^ 18 + (← number b) * 2 ^ 12 + (← number c) * 2 ^ 6
      return [UInt8.ofNat (p / 2 ^ 16), UInt8.ofNat (p / 2 ^ 8)]
    else do
      let p := (← number a) * 2 ^ 18 + (← number b) * 2 ^ 12
      return [UInt8.ofNat (p / 2 ^ 16)]
  | _ => none

/-- The number of a letter is read back. -/
theorem number_letter {n : Nat} (small : n < 64) : number (letter n) = some n := by
  have all : ∀ n : Fin 64, number (letter n) = some n.val := by decide +kernel
  exact all ⟨n, small⟩

/-- No letter is the sign that fills up. -/
theorem letter_ne (n : Nat) : letter (n % 64) ≠ 61 := by
  have all : ∀ n : Fin 64, letter n ≠ 61 := by decide
  exact all ⟨n % 64, Nat.mod_lt _ (by decide)⟩

/-- Four times six bits are all bits of a number that has no more. -/
theorem sixes_eq {p : Nat} (small : p < 2 ^ 24) :
    p / 2 ^ 18 % 64 * 2 ^ 18 + p / 2 ^ 12 % 64 * 2 ^ 12 + p / 2 ^ 6 % 64 * 2 ^ 6 + p % 64 = p := by
  have last := Nat.div_add_mod p 64
  have third := Nat.div_add_mod (p / 64) 64
  have second := Nat.div_add_mod (p / 64 / 64) 64
  have first : p / 64 / 64 / 64 < 64 := by omega
  -- Dividing by sixty-four again and again, each remainder is one of the sixes.
  rw [show (2 : Nat) ^ 18 = 64 * 64 * 64 by decide, show (2 : Nat) ^ 12 = 64 * 64 by decide,
    show (2 : Nat) ^ 6 = 64 by decide, ← Nat.div_div_eq_div_mul, ← Nat.div_div_eq_div_mul,
    Nat.mod_eq_of_lt first]
  omega

/-- A byte is found in a number whose last eight bits are its own. -/
theorem ofNat_eq {byte : UInt8} {n : Nat} (same : n % 256 = byte.toNat) : UInt8.ofNat n = byte := by
  apply UInt8.toNat_inj.mp
  rw [UInt8.toNat_ofNat', same]

/-- What was written is read back. -/
theorem decodeBase64_encodeBase64 (bytes : List UInt8) :
    decodeBase64 (encodeBase64 bytes) = some bytes := by
  have six (n : Nat) : number (letter (n % 64)) = some (n % 64) :=
    number_letter (Nat.mod_lt _ (by decide))
  induction bytes using encodeBase64.induct with
  | case1 a b c rest ih =>
    have small := a.toNat_lt
    have small' := b.toNat_lt
    have small'' := c.toNat_lt
    generalize packed : a.toNat * 2 ^ 16 + b.toNat * 2 ^ 8 + c.toNat = p
    have whole := sixes_eq (show p < 2 ^ 24 by omega)
    -- The four letters give the number back, in which the three bytes are found.
    have first : UInt8.ofNat (p / 2 ^ 16) = a := ofNat_eq (by omega)
    have second : UInt8.ofNat (p / 2 ^ 8) = b := ofNat_eq (by omega)
    have third : UInt8.ofNat p = c := ofNat_eq (by omega)
    rw [encodeBase64, packed]
    simp only [letters, List.cons_append, List.nil_append, decodeBase64]
    rw [if_pos (letter_ne p)]
    simp only [six, ih, Option.bind_eq_bind, Option.bind_some, whole, first, second, third]
    rfl
  | case2 a b =>
    have small := a.toNat_lt
    have small' := b.toNat_lt
    generalize packed : a.toNat * 2 ^ 16 + b.toNat * 2 ^ 8 = p
    -- The six bits that have no letter are zeros.
    have whole := sixes_eq (show p < 2 ^ 24 by omega)
    rw [show p % 64 = 0 by omega, Nat.add_zero] at whole
    have first : UInt8.ofNat (p / 2 ^ 16) = a := ofNat_eq (by omega)
    have second : UInt8.ofNat (p / 2 ^ 8) = b := ofNat_eq (by omega)
    rw [encodeBase64, packed]
    simp only [letters, List.take_succ_cons, List.take_zero, List.cons_append, List.nil_append,
      decodeBase64]
    rw [if_neg (by decide), if_neg (by decide), if_pos (letter_ne _)]
    simp only [six, Option.bind_eq_bind, Option.bind_some, whole, first, second]
    rfl
  -- Here two groups of six bits have no letter.
  | case3 a =>
    have small := a.toNat_lt
    generalize packed : a.toNat * 2 ^ 16 = p
    have whole := sixes_eq (show p < 2 ^ 24 by omega)
    rw [show p % 64 = 0 by omega, show p / 2 ^ 6 % 64 = 0 by omega, Nat.zero_mul,
      Nat.add_zero] at whole
    have first : UInt8.ofNat (p / 2 ^ 16) = a := ofNat_eq (by omega)
    rw [encodeBase64, packed]
    simp only [letters, List.take_succ_cons, List.take_zero, List.cons_append, List.nil_append,
      decodeBase64]
    rw [if_neg (by decide), if_neg (by decide), if_neg (by decide)]
    simp only [six, Option.bind_eq_bind, Option.bind_some, whole, first]
    rfl
  | case4 => rfl

end Decoding

end Base64
