import Librcom.Digest.Fips180
import Mathlib.Logic.Function.Iterate

/-! The digest of the library, with its unrolled rounds and its buffered updates. -/

namespace Rcom

open Fips180 (joined)

/-- The order of the bytes of a word in the memory of the host. -/
inductive ByteOrder
  | littleEndian
  | bigEndian

/-- The state of a digest, and the bytes that do not fill a block yet. -/
structure Sha1Ctx where
  state : Vector UInt32 5
  count : Vector UInt32 2
  buffer : Vector UInt8 64

section Rounds

def rol (value bits : UInt32) : UInt32 := value <<< bits ||| value >>> (32 - bits)

/-- The working variables, by their names. -/
inductive WorkingVar
  | a
  | b
  | c
  | d
  | e
  deriving DecidableEq

/-- What the rounds of a block work on. -/
structure Sha1Work where
  vars : WorkingVar → UInt32
  block : Fin 16 → UInt32

/-- A place among the words of the block, which are used in turn. -/
def slot (i : Nat) : Fin 16 := ⟨i &&& 15, Nat.lt_of_le_of_lt Nat.and_le_right (by decide)⟩

/-- A word as it is found in the memory of the host. -/
def ByteOrder.load (order : ByteOrder) (buffer : Vector UInt8 64) (i : Fin 16) : UInt32 :=
  let first := buffer[4 * i.val]
  let second := buffer[4 * i.val + 1]
  let third := buffer[4 * i.val + 2]
  let fourth := buffer[4 * i.val + 3]
  match order with
  | .littleEndian => joined fourth third second first
  | .bigEndian => joined first second third fourth

/-- The initial expansion, which depends on the order of bytes. -/
def blk0 (order : ByteOrder) (block : Fin 16 → UInt32) (i : Nat) : UInt32 :=
  match order with
  | .littleEndian =>
    (rol (block (slot i)) 24 &&& 0xFF00FF00) ||| (rol (block (slot i)) 8 &&& 0x00FF00FF)
  | .bigEndian => block (slot i)

def blk (block : Fin 16 → UInt32) (i : Nat) : UInt32 :=
  rol (block (slot (i + 13)) ^^^ block (slot (i + 8)) ^^^ block (slot (i + 2)) ^^^
    block (slot i)) 1

/-- A round, whose word replaces the oldest one of the block. -/
def sha1Round (f : UInt32 → UInt32 → UInt32 → UInt32) (word : (Fin 16 → UInt32) → Nat → UInt32)
    (k : UInt32) (v w x y z : WorkingVar) (i : Nat) (work : Sha1Work) : Sha1Work :=
  let expanded := word work.block i
  let sum := work.vars z +
    (f (work.vars w) (work.vars x) (work.vars y) + expanded + k + rol (work.vars v) 5)
  let vars := Function.update work.vars z sum
  -- The second variable is rotated when the last one has its new value.
  { vars := Function.update vars w (rol (vars w) 30), block := Function.update work.block (slot i) expanded }

def r0 (order : ByteOrder) :=
  sha1Round (fun w x y => (w &&& (x ^^^ y)) ^^^ y) (blk0 order) 0x5A827999

def r1 := sha1Round (fun w x y => (w &&& (x ^^^ y)) ^^^ y) blk 0x5A827999

def r2 := sha1Round (fun w x y => w ^^^ x ^^^ y) blk 0x6ED9EBA1

def r3 := sha1Round (fun w x y => ((w ||| x) &&& y) ||| (w &&& x)) blk 0x8F1BBCDC

def r4 := sha1Round (fun w x y => w ^^^ x ^^^ y) blk 0xCA62C1D6

open WorkingVar in
/-- The rounds of a block, as they are written out in the source. -/
def sha1Rounds (order : ByteOrder) : List (Sha1Work → Sha1Work) :=
  [r0 order a b c d e 0, r0 order e a b c d 1, r0 order d e a b c 2, r0 order c d e a b 3,
    r0 order b c d e a 4, r0 order a b c d e 5, r0 order e a b c d 6, r0 order d e a b c 7,
    r0 order c d e a b 8, r0 order b c d e a 9, r0 order a b c d e 10, r0 order e a b c d 11,
    r0 order d e a b c 12, r0 order c d e a b 13, r0 order b c d e a 14, r0 order a b c d e 15,
    r1 e a b c d 16, r1 d e a b c 17, r1 c d e a b 18, r1 b c d e a 19,
    r2 a b c d e 20, r2 e a b c d 21, r2 d e a b c 22, r2 c d e a b 23,
    r2 b c d e a 24, r2 a b c d e 25, r2 e a b c d 26, r2 d e a b c 27,
    r2 c d e a b 28, r2 b c d e a 29, r2 a b c d e 30, r2 e a b c d 31,
    r2 d e a b c 32, r2 c d e a b 33, r2 b c d e a 34, r2 a b c d e 35,
    r2 e a b c d 36, r2 d e a b c 37, r2 c d e a b 38, r2 b c d e a 39,
    r3 a b c d e 40, r3 e a b c d 41, r3 d e a b c 42, r3 c d e a b 43,
    r3 b c d e a 44, r3 a b c d e 45, r3 e a b c d 46, r3 d e a b c 47,
    r3 c d e a b 48, r3 b c d e a 49, r3 a b c d e 50, r3 e a b c d 51,
    r3 d e a b c 52, r3 c d e a b 53, r3 b c d e a 54, r3 a b c d e 55,
    r3 e a b c d 56, r3 d e a b c 57, r3 c d e a b 58, r3 b c d e a 59,
    r4 a b c d e 60, r4 e a b c d 61, r4 d e a b c 62, r4 c d e a b 63,
    r4 b c d e a 64, r4 a b c d e 65, r4 e a b c d 66, r4 d e a b c 67,
    r4 c d e a b 68, r4 b c d e a 69, r4 a b c d e 70, r4 e a b c d 71,
    r4 d e a b c 72, r4 c d e a b 73, r4 b c d e a 74, r4 a b c d e 75,
    r4 e a b c d 76, r4 d e a b c 77, r4 c d e a b 78, r4 b c d e a 79]

/-- The working variables at the start of a block. -/
def Sha1Work.start (order : ByteOrder) (state : Vector UInt32 5) (buffer : Vector UInt8 64) :
    Sha1Work where
  vars
    | .a => state.get 0
    | .b => state.get 1
    | .c => state.get 2
    | .d => state.get 3
    | .e => state.get 4
  block := order.load buffer

/-- Hash a single block of 512 bits. -/
def sha1Transform (order : ByteOrder) (state : Vector UInt32 5) (buffer : Vector UInt8 64) :
    Vector UInt32 5 :=
  let work := (sha1Rounds order).foldl (fun work operation => operation work)
    (.start order state buffer)
  #v[state.get 0 + work.vars .a, state.get 1 + work.vars .b, state.get 2 + work.vars .c,
    state.get 3 + work.vars .d, state.get 4 + work.vars .e]

end Rounds

section Updates

/-- The initialization leaves the bytes of the buffer as they are. -/
def sha1Init (context : Sha1Ctx) : Sha1Ctx :=
  { context with
    state := #v[0x67452301, 0xEFCDAB89, 0x98BADCFE, 0x10325476, 0xC3D2E1F0], count := #v[0, 0] }

/-- A block that is read from the data in place, if the data reach so far. -/
def blockAt (data : List UInt8) (i : Nat) : Option (Vector UInt8 64) :=
  if enough : ((data.drop i).take 64).length = 64 then
    some ⟨((data.drop i).take 64).toArray, by simpa using enough⟩
  else none

/-- Bytes that are copied into the buffer, if they are within the data and there is room. -/
def copyInto (buffer : Vector UInt8 64) (start : Nat) (data : List UInt8) (i count : Nat) :
    Option (Vector UInt8 64) :=
  if i + count ≤ data.length ∧ start + count ≤ 64 then
    some (.ofFn fun k =>
      if start ≤ k.val ∧ k.val < start + count then data[i + (k.val - start)]! else buffer[k])
  else none

/-- The loop over the blocks in the data. It has no result when it reads beyond the data or does
not end. -/
def updateLoop (order : ByteOrder) (data : List UInt8) (len : UInt32) :
    Nat → UInt32 → Vector UInt32 5 → Option (UInt32 × Vector UInt32 5)
  | 0, _, _ => none
  | turns + 1, i, state =>
    if i + 63 < len then do
      let block ← blockAt data i.toNat
      updateLoop order data len turns (i + 64) (sha1Transform order state block)
    else some (i, state)

/-- Run data through the digest. There is no result when the source leaves the bounds of an array
or does not return. -/
def sha1Update (order : ByteOrder) (context : Sha1Ctx) (data : List UInt8) : Option Sha1Ctx := do
  let len := UInt32.ofNat data.length
  let j := context.count.get 0
  let low := j + len <<< 3
  -- The sum of two numbers is smaller than one of them if it did not fit.
  let high := (if low < j then context.count.get 1 + 1 else context.count.get 1) + len >>> 29
  let j := (j >>> 3) &&& 63
  if j + len > 63 then
    let i := 64 - j
    let buffer ← copyInto context.buffer j.toNat data 0 i.toNat
    let state := sha1Transform order context.state buffer
    -- Places that the loop does not see twice are at most as many as there are bytes.
    let (i, state) ← updateLoop order data len (data.length + 1) i state
    let buffer ← copyInto buffer 0 data i.toNat (len - i).toNat
    return { state := state, count := #v[low, high], buffer := buffer }
  else
    let buffer ← copyInto context.buffer j.toNat data 0 len.toNat
    return { context with count := #v[low, high], buffer := buffer }

/-- The loop that fills the last block but for the length. -/
def padLoop (order : ByteOrder) : Nat → Sha1Ctx → Option Sha1Ctx
  | 0, _ => none
  | turns + 1, context =>
    if context.count.get 0 &&& 504 ≠ 448 then do
      padLoop order turns (← sha1Update order context [0])
    else some context

/-- Add padding and return the message digest. -/
def sha1Final (order : ByteOrder) (context : Sha1Ctx) : Option (List UInt8) := do
  -- The length is taken before the padding is counted too.
  let finalcount := (List.range 8).map fun i =>
    ((context.count[if i ≥ 4 then 0 else 1]! >>> UInt32.ofNat ((3 - (i &&& 3)) * 8)) &&& 255).toUInt8
  let context ← sha1Update order context [0x80]
  let context ← padLoop order 64 context
  let context ← sha1Update order context finalcount
  return (List.range 20).map fun i =>
    ((context.state[i >>> 2]! >>> UInt32.ofNat ((3 - (i &&& 3)) * 8)) &&& 255).toUInt8

/-- The digest of a string. -/
def sha1 (order : ByteOrder) (data : List UInt8) : Option (List UInt8) := do
  let context : Sha1Ctx := ⟨.replicate 5 0, .replicate 2 0, .replicate 64 0⟩
  sha1Final order (← sha1Update order (sha1Init context) data)

end Updates

end Rcom
