import Librcom.Bytes.Endian
import Librcom.Digest.Chain

/-! The secure hash algorithm SHA-1, as the standard FIPS 180 describes it. -/

namespace Fips180

/-- The chaining value, which is also what the rounds of a block work on. -/
abbrev State := Vector UInt32 5

section Functions

def rotl (count : Nat) (word : UInt32) : UInt32 := .ofBitVec (word.toBitVec.rotateLeft count)

def ch (x y z : UInt32) : UInt32 := (x &&& y) ^^^ (~~~x &&& z)

def parity (x y z : UInt32) : UInt32 := x ^^^ y ^^^ z

def maj (x y z : UInt32) : UInt32 := (x &&& y) ^^^ (x &&& z) ^^^ (y &&& z)

/-- The function of a round. -/
def roundFunction (t : Nat) : UInt32 → UInt32 → UInt32 → UInt32 :=
  if t < 20 then ch else if t < 40 then parity else if t < 60 then maj else parity

/-- The constant of a round. -/
def roundConstant (t : Nat) : UInt32 :=
  if t < 20 then 0x5A827999 else if t < 40 then 0x6ED9EBA1
  else if t < 60 then 0x8F1BBCDC else 0xCA62C1D6

end Functions

section Words

/-- The word whose bytes are given, the most significant one first. -/
def joined (first second third fourth : UInt8) : UInt32 :=
  first.toUInt32 <<< 24 ||| second.toUInt32 <<< 16 ||| third.toUInt32 <<< 8 ||| fourth.toUInt32

/-- The bytes of a word, the most significant one first. -/
def wordBytes (word : UInt32) : List UInt8 :=
  [(word >>> 24).toUInt8, (word >>> 16).toUInt8, (word >>> 8).toUInt8, word.toUInt8]

/-- A word of a block. -/
def wordAt (block : List UInt8) (i : Nat) : UInt32 :=
  joined block[4 * i]! block[4 * i + 1]! block[4 * i + 2]! block[4 * i + 3]!

/-- The words that the rounds of a block use. -/
def schedule (block : List UInt8) (t : Nat) : UInt32 :=
  if t < 16 then wordAt block t
  else rotl 1 (schedule block (t - 3) ^^^ schedule block (t - 8) ^^^ schedule block (t - 14) ^^^
    schedule block (t - 16))

end Words

section Blocks

/-- One round. -/
def round (word : UInt32) (t : Nat) (state : State) : State :=
  #v[rotl 5 state[0] + roundFunction t state[1] state[2] state[3] + state[4] + roundConstant t + word,
    state[0], rotl 30 state[1], state[2], state[3]]

/-- The first rounds of a block, as many as are given. -/
def rounds (block : List UInt8) : Nat → State → State
  | 0, state => state
  | t + 1, state => round (schedule block t) t (rounds block t state)

/-- The chaining value after a block. -/
def compress (state : State) (block : List UInt8) : State :=
  state.zipWith (· + ·) (rounds block 80 state)

def initialWords : List UInt32 := [0x67452301, 0xEFCDAB89, 0x98BADCFE, 0x10325476, 0xC3D2E1F0]

def initial : State := ⟨initialWords.toArray, rfl⟩

/-- The number of null bytes that fill the last block. -/
def paddingZeros (length : Nat) : Nat := (119 - length % 64) % 64

/-- What is put behind a message, so that it is a number of whole blocks. -/
def padding (length : Nat) : List UInt8 :=
  0x80 :: (List.replicate (paddingZeros length) 0 ++ Endian.toBigEndian 8 (8 * length))

/-- The digest of a message. -/
def sha1 (message : List UInt8) : List UInt8 :=
  (Chain.absorb 64 compress initial (message ++ padding message.length)).1.toList.flatMap wordBytes

end Blocks

section Sizes

/-- The first sixteen words of the schedule are those of the block. -/
theorem schedule_input (block : List UInt8) {t : Nat} (input : t < 16) :
    schedule block t = wordAt block t := by
  rw [schedule, if_pos input]

/-- The words behind those of the block depend on four earlier ones. -/
theorem schedule_later (block : List UInt8) {t : Nat} (later : 16 ≤ t) :
    schedule block t = rotl 1 (schedule block (t - 3) ^^^ schedule block (t - 8) ^^^
      schedule block (t - 14) ^^^ schedule block (t - 16)) := by
  rw [schedule, if_neg (by omega)]

/-- A digest has twenty bytes. -/
theorem length_sha1 (message : List UInt8) : (sha1 message).length = 20 := by
  -- Each of the five words gives four bytes.
  simp [sha1, List.length_flatMap, wordBytes]

end Sizes

end Fips180
