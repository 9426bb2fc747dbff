import Librcom.Digest.Sha1
import Mathlib.Tactic.IntervalCases

/-! The unrolled rounds over the working variables are the rounds of the standard. -/

namespace Rcom

open Fips180

section Words

/-- The rotation of the schedule. -/
@[simp] theorem rol_one (word : UInt32) : rol word 1 = rotl 1 word := by
  apply UInt32.toBitVec_inj.mp
  rfl

/-- The rotation of the first working variable. -/
@[simp] theorem rol_five (word : UInt32) : rol word 5 = rotl 5 word := by
  apply UInt32.toBitVec_inj.mp
  rfl

/-- The rotation of the second working variable. -/
@[simp] theorem rol_thirty (word : UInt32) : rol word 30 = rotl 30 word := by
  apply UInt32.toBitVec_inj.mp
  rfl

/-- The choice between two words takes two operations less than in the standard. -/
theorem ch_eq (x y z : UInt32) : (x &&& (y ^^^ z)) ^^^ z = ch x y z := by
  apply UInt32.toBitVec_inj.mp
  simp only [ch, UInt32.toBitVec_xor, UInt32.toBitVec_and, UInt32.toBitVec_not]
  -- The functions work on each bit alone, and there are eight cases for the three bits.
  apply BitVec.eq_of_getLsbD_eq
  intro i inside
  simp only [BitVec.getLsbD_xor, BitVec.getLsbD_and, BitVec.getLsbD_not, inside]
  cases x.toBitVec.getLsbD i <;> cases y.toBitVec.getLsbD i <;> cases z.toBitVec.getLsbD i <;> rfl

/-- The source writes the majority of three words with fewer operations. -/
theorem maj_eq (x y z : UInt32) : ((x ||| y) &&& z) ||| (x &&& y) = maj x y z := by
  apply UInt32.toBitVec_inj.mp
  simp only [maj, UInt32.toBitVec_xor, UInt32.toBitVec_and, UInt32.toBitVec_or]
  apply BitVec.eq_of_getLsbD_eq
  intro i inside
  simp only [BitVec.getLsbD_xor, BitVec.getLsbD_and, BitVec.getLsbD_or]
  cases x.toBitVec.getLsbD i <;> cases y.toBitVec.getLsbD i <;> cases z.toBitVec.getLsbD i <;> rfl

/-- Two rotations with masks put the bytes of a word in the opposite order. -/
theorem swap_joined (first second third fourth : UInt8) :
    (rol (joined first second third fourth) 24 &&& 0xFF00FF00) |||
        (rol (joined first second third fourth) 8 &&& 0x00FF00FF) =
      joined fourth third second first := by
  apply UInt32.toBitVec_inj.mp
  simp only [joined, rol, UInt32.toBitVec_or, UInt32.toBitVec_and, UInt32.toBitVec_shiftLeft,
    UInt32.toBitVec_shiftRight]
  -- Each bit of the result is one bit of one byte, which the masks and shifts select.
  apply BitVec.eq_of_getLsbD_eq
  intro i inside
  interval_cases i <;> simp

end Words

section Names

/-- The name that a variable has in the round before, which is where the names have moved to. -/
def WorkingVar.before : WorkingVar → WorkingVar
  | .a => .e
  | .b => .a
  | .c => .b
  | .d => .c
  | .e => .d

open WorkingVar

/-- The name that stands for a variable in a round. -/
def WorkingVar.inRound (t : Nat) (name : WorkingVar) : WorkingVar := before^[t] name

/-- In the next round a name stands for the variable before it. -/
theorem inRound_succ (t : Nat) (name : WorkingVar) :
    name.inRound (t + 1) = name.before.inRound t := by
  rw [inRound, Function.iterate_succ_apply, inRound]

/-- Different variables have different names in every round. -/
theorem inRound_inj {t : Nat} {first second : WorkingVar} :
    first.inRound t = second.inRound t ↔ first = second := by
  have injective : Function.Injective before := by
    intro x y same
    cases x <;> cases y <;> first | rfl | cases same
  exact (injective.iterate t).eq_iff

/-- The values of the working variables, in the order in which a round names them. -/
def Sha1Work.values (work : Sha1Work) (t : Nat) : State :=
  #v[work.vars (a.inRound t), work.vars (b.inRound t), work.vars (c.inRound t),
    work.vars (d.inRound t), work.vars (e.inRound t)]

/-- The rounds by their number: the function and the constant change after twenty rounds each. -/
def numberedRound (order : ByteOrder) (t : Nat) : Sha1Work → Sha1Work :=
  let named (operation : WorkingVar → WorkingVar → WorkingVar → WorkingVar → WorkingVar → Nat →
      Sha1Work → Sha1Work) :=
    operation (a.inRound t) (b.inRound t) (c.inRound t) (d.inRound t) (e.inRound t) t
  if t < 16 then named (r0 order) else if t < 20 then named r1 else if t < 40 then named r2
  else if t < 60 then named r3 else named r4

/-- What the source writes out is one round after the other. -/
theorem sha1Rounds_eq (order : ByteOrder) :
    sha1Rounds order = (List.range 80).map (numberedRound order) := by
  rfl

end Names

section Block

variable {order : ByteOrder} {buffer : Vector UInt8 64}

/-- The slot of a word is its number among sixteen. -/
theorem slot_val (i : Nat) : (slot i).val = i % 16 := Nat.and_two_pow_sub_one_eq_mod i 4

/-- Places that are a number of turns apart are the same. -/
theorem block_slot {i k : Nat} (turns : i % 16 = k % 16) (block : Fin 16 → UInt32) :
    block (slot i) = block (slot k) := by
  have same : slot i = slot k := by
    apply Fin.ext
    rw [slot_val, slot_val, turns]
  rw [same]

/-- What the sixteen words of the block are before a round: the latest words of the schedule, and
behind them those that are still as in memory. -/
structure Sha1Work.Expanded (order : ByteOrder) (buffer : Vector UInt8 64) (t : Nat)
    (block : Fin 16 → UInt32) : Prop where
  latest : ∀ s < t, t ≤ s + 16 → block (slot s) = schedule buffer.toList s
  untouched : ∀ s, t ≤ s → s < 16 → block (slot s) = order.load buffer (slot s)

/-- The initial expansion gives the word of the standard, on a host of either order of bytes. -/
theorem blk0_eq {block : Fin 16 → UInt32} {t : Nat} (input : t < 16)
    (untouched : block (slot t) = order.load buffer (slot t)) :
    blk0 order block t = schedule buffer.toList t := by
  have place : (slot t).val = t := by rw [slot_val, Nat.mod_eq_of_lt input]
  have byte (k : Nat) (inside : k < 64) : buffer.toList[k]! = buffer[k] := by
    rw [getElem!_pos buffer.toList k (by simpa using inside), Vector.getElem_toList]
  rw [schedule_input _ input, wordAt, byte _ (by omega), byte _ (by omega), byte _ (by omega),
    byte _ (by omega)]
  cases order with
  | littleEndian =>
    -- The word was read in the opposite order, and the rotations put it right.
    rw [blk0, untouched]
    simp only [ByteOrder.load, swap_joined, place]
  | bigEndian =>
    rw [blk0, untouched]
    simp only [ByteOrder.load, place]

/-- A later word depends on the words in four slots, which hold the ones that the standard names. -/
theorem blk_eq {block : Fin 16 → UInt32} {t : Nat} (later : 16 ≤ t)
    (expanded : Sha1Work.Expanded order buffer t block) : blk block t = schedule buffer.toList t := by
  have reads (offset back : Nat) (sum : offset + back = 16) (some : 0 < back) :
      block (slot (t + offset)) = schedule buffer.toList (t - back) := by
    have turns : (t + offset) % 16 = (t - back) % 16 := by omega
    rw [block_slot turns block]
    exact expanded.latest _ (by omega) (by omega)
  rw [blk, rol_one, reads 13 3 rfl (by decide), reads 8 8 rfl (by decide),
    reads 2 14 rfl (by decide), ← Nat.add_zero t, reads 0 16 rfl (by decide), Nat.add_zero,
    schedule_later _ later]

/-- The word of a round replaces the one that no later round reads. -/
theorem expanded_set {block : Fin 16 → UInt32} {t : Nat}
    (expanded : Sha1Work.Expanded order buffer t block) :
    Sha1Work.Expanded order buffer (t + 1)
      (Function.update block (slot t) (schedule buffer.toList t)) := by
  constructor
  · intro s earlier recent
    by_cases same : s = t
    · subst same
      simp
    -- The slots of the fifteen other words are different ones.
    · have other : (slot t).val ≠ (slot s).val := by
        rw [slot_val, slot_val]
        omega
      rw [Function.update_of_ne (Fin.val_ne_iff.mp other).symm]
      exact expanded.latest s (by omega) (by omega)
  · intro s later input
    -- A word of the input that a later round takes has its own slot.
    have other : (slot t).val ≠ (slot s).val := by
      rw [slot_val, slot_val]
      omega
    rw [Function.update_of_ne (Fin.val_ne_iff.mp other).symm]
    exact expanded.untouched s (by omega) input

end Block

section Transform

variable {order : ByteOrder} {state : State} {buffer : Vector UInt8 64} {work : Sha1Work}

/-- What holds before a round: the working variables are those of the standard, by their names of
this round, and the block has the words that are still needed. -/
structure Sha1Work.Follows (order : ByteOrder) (state : State) (buffer : Vector UInt8 64) (t : Nat)
    (work : Sha1Work) : Prop where
  values : work.values t = rounds buffer.toList t state
  expanded : Sha1Work.Expanded order buffer t work.block

/-- One round over the named variables is a round of the standard, after which the names have moved
by one. -/
theorem values_sha1Round {f : UInt32 → UInt32 → UInt32 → UInt32}
    {word : (Fin 16 → UInt32) → Nat → UInt32} {k : UInt32} {t : Nat}
    (function : f = roundFunction t) (constant : k = roundConstant t) (work : Sha1Work) :
    (sha1Round f word k (WorkingVar.inRound t .a) (WorkingVar.inRound t .b)
        (WorkingVar.inRound t .c) (WorkingVar.inRound t .d) (WorkingVar.inRound t .e) t work).values
        (t + 1) =
      Fips180.round (word work.block t) t (work.values t) := by
  subst function constant
  -- The variable that received the sum comes first in the next round, and the others move back.
  simp only [sha1Round, Sha1Work.values, inRound_succ, WorkingVar.before, Function.update_apply,
    inRound_inj, reduceCtorEq, if_true, if_false, rol_five, rol_thirty, Fips180.round]
  congr 1
  simp
  ac_rfl

/-- The word of a round is the one of the standard, whichever way it is made. -/
theorem follows_sha1Round {f : UInt32 → UInt32 → UInt32 → UInt32}
    {word : (Fin 16 → UInt32) → Nat → UInt32} {k : UInt32} {t : Nat}
    (function : f = roundFunction t) (constant : k = roundConstant t)
    (follows : work.Follows order state buffer t)
    (scheduled : word work.block t = schedule buffer.toList t) :
    (sha1Round f word k (WorkingVar.inRound t .a) (WorkingVar.inRound t .b)
        (WorkingVar.inRound t .c) (WorkingVar.inRound t .d) (WorkingVar.inRound t .e) t work).Follows
      order state buffer (t + 1) := by
  constructor
  · rw [values_sha1Round function constant, scheduled, follows.values, rounds]
  · -- The one word of the block that the round overwrites is no longer needed as it was.
    rw [sha1Round, scheduled]
    exact expanded_set follows.expanded

/-- Each round of the source follows the standard. -/
theorem follows_numberedRound {t : Nat} (inside : t < 80)
    (follows : work.Follows order state buffer t) :
    (numberedRound order t work).Follows order state buffer (t + 1) := by
  have choice : (fun w x y : UInt32 => (w &&& (x ^^^ y)) ^^^ y) = ch := by
    funext w x y
    exact ch_eq w x y
  have majority : (fun w x y : UInt32 => ((w ||| x) &&& y) ||| (w &&& x)) = maj := by
    funext w x y
    exact maj_eq w x y
  unfold numberedRound
  -- The five kinds of rounds differ in the function, the constant and the word.
  split
  · next input =>
    apply follows_sha1Round _ _ follows (blk0_eq input (follows.expanded.untouched t le_rfl input))
    · rw [choice, roundFunction, if_pos (by omega)]
    · rw [roundConstant, if_pos (by omega)]
  · next later =>
    -- The later rounds take their word from the schedule.
    have scheduled := blk_eq (by omega) follows.expanded
    split
    · next early =>
      apply follows_sha1Round _ _ follows scheduled
      · rw [choice, roundFunction, if_pos early]
      · rw [roundConstant, if_pos early]
    split
    · next early below =>
      apply follows_sha1Round _ _ follows scheduled
      · rw [roundFunction, if_neg early, if_pos below]
        rfl
      · rw [roundConstant, if_neg early, if_pos below]
    split
    · next early middle below =>
      apply follows_sha1Round _ _ follows scheduled
      · rw [majority, roundFunction, if_neg early, if_neg middle, if_pos below]
      · rw [roundConstant, if_neg early, if_neg middle, if_pos below]
    · next early middle late =>
      apply follows_sha1Round _ _ follows scheduled
      · rw [roundFunction, if_neg early, if_neg middle, if_neg late]
        rfl
      · rw [roundConstant, if_neg early, if_neg middle, if_neg late]

/-- Before the first round, the work holds the state and the block. -/
theorem follows_start (order : ByteOrder) (state : State) (buffer : Vector UInt8 64) :
    (Sha1Work.start order state buffer).Follows order state buffer 0 := by
  constructor
  · -- No name has moved yet.
    apply Vector.ext
    intro i inside
    interval_cases i <;> rfl
  · constructor
    · intro s early
      omega
    · intro s _ input
      simp [Sha1Work.start]

/-- The rounds follow the standard from the first to any other. -/
theorem follows_rounds (order : ByteOrder) (state : State) (buffer : Vector UInt8 64) {t : Nat}
    (inside : t ≤ 80) :
    (((List.range t).map (numberedRound order)).foldl (fun work operation => operation work)
      (Sha1Work.start order state buffer)).Follows order state buffer t := by
  induction t with
  | zero => exact follows_start order state buffer
  | succ t ih =>
    rw [List.range_succ, List.map_append, List.foldl_append]
    exact follows_numberedRound inside (ih (by omega))

/-- The digest of a block is the one of the standard, on a host of either order of bytes. -/
theorem sha1Transform_eq (order : ByteOrder) (state : State) (buffer : Vector UInt8 64) :
    sha1Transform order state buffer = compress state buffer.toList := by
  have follows := (follows_rounds order state buffer (t := 80) le_rfl).values
  rw [← sha1Rounds_eq] at follows
  -- The names return to where they were after every five rounds, and so after eighty.
  have returned (name : WorkingVar) : name.inRound 80 = name := by cases name <;> rfl
  simp only [Sha1Work.values, returned] at follows
  rw [compress, ← follows]
  apply Vector.ext
  intro i inside
  rw [Vector.getElem_zipWith]
  interval_cases i <;> rfl

/-- The digest of the three letters that the source names as a test. -/
example : (sha1Transform .littleEndian initial
    (Vector.ofFn fun i => ([97, 98, 99] ++ padding 3)[i.val]!)).toList =
    [0xA9993E36, 0x4706816A, 0xBA3E2571, 0x7850C26C, 0x9CD0D89D] := by
  decide +kernel

end Transform

end Rcom
