import Mathlib.Data.List.Basic

/-! Functions that take a stream block by block: the state after the whole blocks, and the bytes behind them. -/

namespace Chain

section Blocks

variable {σ α : Type} (width : Nat) (compress : σ → List α → σ)

/-- The state after the given number of blocks at the front of a stream. -/
def run : Nat → σ → List α → σ
  | 0, state, _ => state
  | count + 1, state, stream =>
    run count (compress state (stream.take width)) (stream.drop width)

/-- The state after all the whole blocks of a stream, and what is behind the last of them. -/
def absorb (state : σ) (stream : List α) : σ × List α :=
  (run width compress (stream.length / width) state stream,
    stream.drop (width * (stream.length / width)))

variable {width compress}

/-- A stream without a whole block changes nothing. -/
theorem absorb_short (state : σ) {stream : List α} (short : stream.length < width) :
    absorb width compress state stream = (state, stream) := by
  simp [absorb, run, Nat.div_eq_of_lt short]

/-- The block at the front of a stream is taken first. -/
theorem absorb_block (positive : 0 < width) (state : σ) {block : List α}
    (whole : block.length = width) (stream : List α) :
    absorb width compress state (block ++ stream) =
      absorb width compress (compress state block) stream := by
  -- There is one whole block more than behind the first one.
  have count : (block ++ stream).length / width = stream.length / width + 1 := by
    rw [List.length_append, whole, Nat.add_comm, Nat.add_div_right _ positive]
  have front : (block ++ stream).take width = block := List.take_left' whole
  have back : (block ++ stream).drop width = stream := List.drop_left' whole
  rw [absorb, count, run, front, back, Nat.mul_succ, Nat.add_comm, ← List.drop_drop, back, absorb]

/-- As many elements are left as do not fill a block. -/
theorem length_absorb (state : σ) (stream : List α) :
    (absorb width compress state stream).2.length = stream.length % width := by
  have parts := Nat.div_add_mod stream.length width
  rw [absorb, List.length_drop]
  omega

/-- A stream can be taken in two parts, if the rest of the first is put in front of the second. -/
theorem absorb_append (positive : 0 < width) (state : σ) (first second : List α) :
    absorb width compress state (first ++ second) =
      absorb width compress (absorb width compress state first).1
        ((absorb width compress state first).2 ++ second) := by
  -- The induction is on the number of whole blocks of the first part.
  generalize count : first.length / width = blocks
  induction blocks generalizing state first with
  | zero =>
    have short : first.length < width := (Nat.div_eq_zero_iff_lt positive).mp count
    rw [absorb_short state short]
  | succ blocks ih =>
    have enough : width ≤ first.length := by
      by_contra short
      rw [Nat.div_eq_of_lt (by omega)] at count
      omega
    -- The first block is taken from the whole stream as it is taken from its first part.
    have block : (first.take width).length = width := by simp [enough]
    have split : first.take width ++ first.drop width = first := List.take_append_drop width first
    have fewer : (first.drop width).length / width = blocks := by
      rw [Nat.div_eq_sub_div positive enough] at count
      rw [List.length_drop]
      omega
    have later := ih (compress state (first.take width)) (first.drop width) fewer
    rw [← absorb_block positive state block, ← absorb_block positive state block,
      ← List.append_assoc, split] at later
    exact later

end Blocks

end Chain
