import Librcom.Digest.Rounds

/-! Messages that are run through the digest piece by piece have the digest of the whole. -/

namespace Rcom

open Fips180

/-- The chaining value after the whole blocks of a message, and the bytes behind them. -/
abbrev absorbed (message : List UInt8) : State × List UInt8 :=
  Chain.absorb 64 compress initial message

/-- The context stands for the message that was run through the digest. -/
structure Sha1Ctx.Represents (context : Sha1Ctx) (message : List UInt8) : Prop where
  state : context.state = (absorbed message).1
  -- The two words of the counter are one number of bits, which wraps at 64 bits.
  count : (context.count.get 0).toNat + 2 ^ 32 * (context.count.get 1).toNat = 8 * message.length % 2 ^ 64
  buffer : context.buffer.toList.take (message.length % 64) = (absorbed message).2

section Copies

/-- A copy that stays in bounds has the bytes in front of it and the bytes that were copied. -/
theorem copyInto_take (buffer : Vector UInt8 64) {start i count : Nat} {data : List UInt8}
    (inside : i + count ≤ data.length) (room : start + count ≤ 64) :
    ∃ copied, copyInto buffer start data i count = some copied ∧
      copied.toList.take (start + count) = buffer.toList.take start ++ (data.drop i).take count := by
  refine ⟨_, if_pos ⟨inside, room⟩, ?_⟩
  -- The copy leaves what stands in front of it.
  have front : (buffer.toList.take start).length = start := by simp; omega
  apply List.ext_getElem
  · simp
    omega
  · intro k here there
    have bound : k < start + count := by
      rw [List.length_take] at here
      omega
    rw [List.getElem_take, Vector.getElem_toList, Vector.getElem_ofFn]
    change (if start ≤ k ∧ k < start + count then data[i + (k - start)]! else buffer[k]) = _
    by_cases before : k < start
    · rw [if_neg (by omega), List.getElem_append_left (by omega), List.getElem_take,
        Vector.getElem_toList]
    -- Behind the first bytes are the copied ones, from the place where the copy starts.
    · have copied : data[i + (k - start)]! = data[i + (k - start)] := getElem!_pos _ _ (by omega)
      rw [if_pos (by omega), List.getElem_append_right (by omega), List.getElem_take,
        List.getElem_drop, copied]
      simp only [front]

/-- A block within the data is read as it is. -/
theorem blockAt_eq {data : List UInt8} {i : Nat} (inside : i + 64 ≤ data.length) :
    ∃ block, blockAt data i = some block ∧ block.toList = (data.drop i).take 64 := by
  have enough : ((data.drop i).take 64).length = 64 := by
    rw [List.length_take, List.length_drop]
    omega
  exact ⟨_, dif_pos enough, rfl⟩

end Copies

section Loop

variable {data : List UInt8} {len : UInt32}

/-- The loop takes the whole blocks of what is left of the data, and stops in front of the rest. -/
theorem updateLoop_eq (order : ByteOrder) (fits : len.toNat + 64 ≤ 2 ^ 32) (inside : len.toNat ≤ data.length)
    {turns : Nat} {i : UInt32} (state : State) (within : i.toNat ≤ len.toNat)
    (enough : len.toNat < i.toNat + turns) :
    ∃ j state', updateLoop order data len turns i state = some (j, state') ∧
      j.toNat ≤ len.toNat ∧ len.toNat ≤ j.toNat + 63 ∧
      Chain.absorb 64 compress state ((data.take len.toNat).drop i.toNat) =
        (state', (data.take len.toNat).drop j.toNat) := by
  induction turns generalizing i state with
  | zero => omega
  | succ turns ih =>
    -- The index does not wrap, since the length is that far from the end of the range.
    have later : (i + 63).toNat = i.toNat + 63 := by
      rw [UInt32.toNat_add, Nat.mod_eq_of_lt]
      · rfl
      · change i.toNat + 63 < 2 ^ 32
        omega
    by_cases more : i + 63 < len
    · -- There is a whole block here, which is the first of those that are left.
      have reach : i.toNat + 63 < len.toNat := by
        rw [← later]
        exact UInt32.lt_iff_toNat_lt.mp more
      have next : (i + 64).toNat = i.toNat + 64 := by
        rw [UInt32.toNat_add, Nat.mod_eq_of_lt]
        · rfl
        · change i.toNat + 64 < 2 ^ 32
          omega
      have whole : i.toNat + 64 ≤ data.length := by omega
      obtain ⟨block, read, bytes⟩ := blockAt_eq whole
      have length : block.toList.length = 64 := by simp
      have split : (data.take len.toNat).drop i.toNat =
          block.toList ++ (data.take len.toNat).drop (i + 64).toNat := by
        have front : ((data.take len.toNat).drop i.toNat).take 64 = (data.drop i.toNat).take 64 := by
          rw [List.drop_take, List.take_take, Nat.min_eq_left (by omega)]
        rw [bytes, next, ← front, ← List.drop_drop, List.take_append_drop]
      obtain ⟨j, state', looped, bound, short, rest⟩ :=
        ih (i := i + 64) (sha1Transform order state block) (by omega) (by omega)
      refine ⟨j, state', ?_, bound, short, ?_⟩
      · rw [updateLoop, if_pos more, read]
        exact looped
      · rw [split, Chain.absorb_block (by decide) _ length, ← sha1Transform_eq order, rest]
    · -- Less than a block is left, which is not touched.
      have short : len.toNat ≤ i.toNat + 63 := by
        rw [← later]
        exact Nat.le_of_not_lt fun less => more (UInt32.lt_iff_toNat_lt.mpr less)
      refine ⟨i, state, if_neg more, within, short, Chain.absorb_short _ ?_⟩
      rw [List.length_drop, List.length_take]
      omega

end Loop

section Update

variable {context : Sha1Ctx} {message : List UInt8}

/-- The two words of the counter count the bits of the data, with the carry between them. -/
theorem count_update (j len high : UInt32) :
    (j + len <<< 3).toNat +
        2 ^ 32 * ((if j + len <<< 3 < j then high + 1 else high) + len >>> 29).toNat =
      (j.toNat + 2 ^ 32 * high.toNat + 8 * len.toNat) % 2 ^ 64 := by
  have small := len.toNat_lt
  have start := j.toNat_lt
  have top := high.toNat_lt
  have low : (j + len <<< 3).toNat = (j.toNat + len.toNat * 8 % 2 ^ 32) % 2 ^ 32 := by
    rw [UInt32.toNat_add, UInt32.toNat_shiftLeft, Nat.shiftLeft_eq]
    rfl
  -- The three bits that the low word loses are those that the high word gets.
  have lost : (len >>> 29).toNat = len.toNat / 2 ^ 29 := by
    rw [UInt32.toNat_shiftRight, Nat.shiftRight_eq_div_pow]
    rfl
  -- The sum has wrapped if and only if it is smaller than what was there.
  by_cases wrapped : j + len <<< 3 < j
  · have less := UInt32.lt_iff_toNat_lt.mp wrapped
    -- The wrapped sum has a carry, which goes into the high word.
    have carried : (high + 1).toNat = (high.toNat + 1) % 2 ^ 32 := UInt32.toNat_add high 1
    rw [if_pos wrapped, UInt32.toNat_add (high + 1), carried, lost, low]
    rw [low] at less
    omega
  · have kept : j.toNat ≤ (j + len <<< 3).toNat :=
      Nat.le_of_not_lt fun less => wrapped (UInt32.lt_iff_toNat_lt.mpr less)
    rw [if_neg wrapped, UInt32.toNat_add high, lost, low]
    rw [low] at kept
    omega

/-- The counter says how many bytes of the buffer are in use. -/
theorem Sha1Ctx.Represents.offset (represents : context.Represents message) :
    ((context.count.get 0 >>> 3) &&& 63).toNat = message.length % 64 := by
  have count := represents.count
  have low := (context.count.get 0).toNat_lt
  have mask : ((context.count.get 0 >>> 3) &&& 63).toNat = (context.count.get 0).toNat / 8 % 64 := by
    rw [UInt32.toNat_and, UInt32.toNat_shiftRight, Nat.shiftRight_eq_div_pow]
    exact Nat.and_two_pow_sub_one_eq_mod _ 6
  rw [mask]
  omega

/-- The context stands for a message whose last part has been absorbed. -/
theorem represents_append {after : Sha1Ctx} {piece : List UInt8} {len : UInt32}
    (rest : List UInt8) (represents : context.Represents message) (length : len.toNat = piece.length)
    (count : after.count = #v[context.count.get 0 + len <<< 3,
      (if context.count.get 0 + len <<< 3 < context.count.get 0 then context.count.get 1 + 1
        else context.count.get 1) + len >>> 29])
    (taken : Chain.absorb 64 compress (absorbed message).1 ((absorbed message).2 ++ piece) =
      (after.state, rest))
    (kept : after.buffer.toList.take rest.length = rest) :
    after.Represents (message ++ piece) := by
  -- The chain forgets how the bytes were cut, so taking the piece behind the message takes both.
  have whole : absorbed (message ++ piece) = (after.state, rest) := by
    rw [absorbed, Chain.absorb_append (by decide), taken]
  have residue : (message ++ piece).length % 64 = rest.length := by
    have all : (absorbed (message ++ piece)).2.length = (message ++ piece).length % 64 :=
      Chain.length_absorb initial (message ++ piece)
    rw [← all]
    exact congrArg (fun taken => taken.2.length) whole
  refine ⟨by rw [whole], ?_, by rw [residue, whole, kept]⟩
  rw [count]
  -- What is left is the arithmetic of the two halves of the bit count and their carry.
  change (context.count.get 0 + len <<< 3).toNat + 2 ^ 32 * ((if context.count.get 0 + len <<< 3 <
    context.count.get 0 then context.count.get 1 + 1 else context.count.get 1) + len >>> 29).toNat = _
  rw [count_update, represents.count, List.length_append, length]
  omega

/-- An update adds its data to the message, but for the part that its 32-bit length leaves out. -/
theorem sha1Update_represents (order : ByteOrder) (represents : context.Represents message)
    {data : List UInt8} (fits : data.length % 2 ^ 32 + 64 ≤ 2 ^ 32) :
    ∃ after, sha1Update order context data = some after ∧
      after.Represents (message ++ data.take (data.length % 2 ^ 32)) := by
  set len := UInt32.ofNat data.length with len_eq
  set j := (context.count.get 0 >>> 3) &&& 63 with j_eq
  have size : len.toNat = data.length % 2 ^ 32 := UInt32.toNat_ofNat'
  have used : j.toNat = message.length % 64 := represents.offset
  have inside : len.toNat ≤ data.length := by
    rw [size]
    exact Nat.mod_le _ _
  have sum : (j + len).toNat = j.toNat + len.toNat := by
    rw [UInt32.toNat_add, Nat.mod_eq_of_lt (by omega)]
  rw [← size]
  have taken : (data.take len.toNat).length = len.toNat := by
    rw [List.length_take]
    omega
  -- What is in the buffer is as long as the offset says.
  have residue : (absorbed message).2.length = j.toNat := by
    rw [absorbed, Chain.length_absorb, used]
  by_cases full : j + len > 63
  · -- The buffer is filled up to a block, and the loop takes the blocks behind it.
    have reach : 63 < j.toNat + len.toNat := by
      rw [← sum]
      exact UInt32.lt_iff_toNat_lt.mp full
    have missing : (64 - j).toNat = 64 - j.toNat := by
      apply UInt32.toNat_sub_of_le
      apply UInt32.le_iff_toNat_le.mpr
      change j.toNat ≤ 64
      omega
    have first : 0 + (64 - j).toNat ≤ data.length := by omega
    have fill : j.toNat + (64 - j).toNat ≤ 64 := by omega
    obtain ⟨filled, copied, front⟩ := copyInto_take context.buffer first fill
    have block : filled.toList =
        (absorbed message).2 ++ (data.take len.toNat).take (64 - j).toNat := by
      have all : filled.toList.take (j.toNat + (64 - j).toNat) = filled.toList := by
        apply List.take_of_length_le
        simp
        omega
      rw [← all, front, used, represents.buffer, List.drop_zero, List.take_take,
        Nat.min_eq_left (by omega)]
    have length : filled.toList.length = 64 := by simp
    have enough : len.toNat < (64 - j).toNat + (data.length + 1) := by omega
    obtain ⟨k, state, looped, bound, few, rest⟩ := updateLoop_eq order (by omega) inside
      (sha1Transform order context.state filled) (by omega) enough
    -- Behind the loop, what is left of the data goes to the start of the buffer.
    have left : (len - k).toNat = len.toNat - k.toNat :=
      UInt32.toNat_sub_of_le _ _ (UInt32.le_iff_toNat_le.mpr bound)
    have back : k.toNat + (len - k).toNat ≤ data.length := by omega
    have room : 0 + (len - k).toNat ≤ 64 := by omega
    obtain ⟨last, recopied, tail⟩ := copyInto_take filled back room
    refine ⟨⟨state, _, last⟩, ?_, represents_append ((data.take len.toNat).drop k.toNat) represents
      taken.symm rfl ?_ ?_⟩
    · simp only [sha1Update, ← len_eq, ← j_eq, if_pos full, copied, looped, recopied,
        Option.bind_eq_bind, Option.bind_some, Option.pure_def]
    · -- The first block is what was in the buffer and the data in front of the loop.
      have split : (absorbed message).2 ++ data.take len.toNat =
          filled.toList ++ (data.take len.toNat).drop (64 - j).toNat := by
        rw [block, List.append_assoc, List.take_append_drop]
      rw [split, Chain.absorb_block (by decide) _ length, ← sha1Transform_eq order,
        ← represents.state, rest]
    · have size : ((data.take len.toNat).drop k.toNat).length = (len - k).toNat := by
        rw [List.length_drop, taken, left]
      rw [size]
      simpa [List.drop_take, left] using tail
  · -- There is room for the data behind the bytes that are in the buffer.
    have short : j.toNat + len.toNat ≤ 63 := by
      rw [← sum]
      exact Nat.le_of_not_lt fun less => full (UInt32.lt_iff_toNat_lt.mpr less)
    have all : 0 + len.toNat ≤ data.length := by omega
    have room : j.toNat + len.toNat ≤ 64 := by omega
    obtain ⟨filled, copied, front⟩ := copyInto_take context.buffer all room
    refine ⟨⟨context.state, _, filled⟩, ?_, represents_append
      ((absorbed message).2 ++ data.take len.toNat) represents taken.symm rfl ?_ ?_⟩
    · simp only [sha1Update, ← len_eq, ← j_eq, if_neg full, copied, Option.bind_eq_bind,
        Option.bind_some, Option.pure_def]
    · rw [represents.state]
      apply Chain.absorb_short
      rw [List.length_append, residue, taken]
      omega
    · rw [List.length_append, residue, taken, front, used, represents.buffer, List.drop_zero]

/-- Few bytes are added to the message as they are. -/
theorem sha1Update_few (order : ByteOrder) (represents : context.Represents message)
    {data : List UInt8} (few : data.length ≤ 64) :
    ∃ after, sha1Update order context data = some after ∧ after.Represents (message ++ data) := by
  have fits : data.length % 2 ^ 32 + 64 ≤ 2 ^ 32 := by omega
  obtain ⟨after, updated, whole⟩ := sha1Update_represents order represents fits
  rw [Nat.mod_eq_of_lt (by omega), List.take_length] at whole
  exact ⟨after, updated, whole⟩

end Update

section Final

variable {context : Sha1Ctx} {message : List UInt8}

/-- The bits of the counter that are looked at say how much of the last block is filled. -/
theorem Sha1Ctx.Represents.filled (represents : context.Represents message) :
    context.count.get 0 &&& 504 = 448 ↔ message.length % 64 = 56 := by
  -- The bits that are compared are those of the offset, three places further up.
  have shifted (count : UInt32) : count &&& (504 : UInt32) = ((count >>> 3) &&& 63) <<< 3 := by
    apply UInt32.toBitVec_inj.mp
    simp only [UInt32.toBitVec_and, UInt32.toBitVec_shiftLeft, UInt32.toBitVec_shiftRight]
    apply BitVec.eq_of_getLsbD_eq
    intro i inside
    interval_cases i <;> simp
  have offset := represents.offset
  have value : (((context.count.get 0 >>> 3) &&& 63) <<< 3).toNat = message.length % 64 * 8 := by
    rw [UInt32.toNat_shiftLeft, offset, Nat.shiftLeft_eq]
    change message.length % 64 * 8 % 2 ^ 32 = _
    omega
  rw [shifted, ← UInt32.toNat_inj, value]
  change message.length % 64 * 8 = 448 ↔ _
  omega

/-- Null bytes are added until there are eight bytes left in the last block. -/
theorem padLoop_represents (order : ByteOrder) {turns : Nat} (represents : context.Represents message)
    (enough : (120 - message.length % 64) % 64 < turns) :
    ∃ after, padLoop order turns context = some after ∧
      after.Represents (message ++ List.replicate ((120 - message.length % 64) % 64) 0) := by
  induction turns generalizing context message with
  | zero => omega
  | succ turns ih =>
    -- The loop ends where the count has its place in the block.
    by_cases done : message.length % 64 = 56
    · refine ⟨context, ?_, ?_⟩
      · rw [padLoop, if_neg (by simpa using represents.filled.mpr done)]
      · simpa [done] using represents
    · -- One null byte more leaves one turn less to go.
      have more : context.count.get 0 &&& 504 ≠ 448 := fun same => done (represents.filled.mp same)
      obtain ⟨next, updated, one⟩ := sha1Update_few order represents (by decide : ([0] : List UInt8).length ≤ 64)
      have count : (120 - message.length % 64) % 64 =
          (120 - (message ++ [0]).length % 64) % 64 + 1 := by
        rw [List.length_append, List.length_singleton]
        omega
      obtain ⟨after, looped, whole⟩ := ih one (by omega)
      refine ⟨after, ?_, ?_⟩
      · rw [padLoop, if_pos more, updated]
        exact looped
      · rwa [count, List.replicate_succ, ← List.singleton_append, ← List.append_assoc]

/-- A byte of a word is what the shift by whole bytes leaves of it. -/
theorem toUInt8_shiftRight (word : UInt32) {k : Nat} (inside : k < 4) :
    ((word >>> UInt32.ofNat (k * 8)) &&& 255).toUInt8 = UInt8.ofNat (word.toNat / 256 ^ k) := by
  apply UInt8.toNat_inj.mp
  have mask (n : Nat) : n &&& 255 = n % 256 := Nat.and_two_pow_sub_one_eq_mod n 8
  rw [UInt32.toNat_toUInt8, UInt32.toNat_and, UInt32.toNat_shiftRight, UInt8.toNat_ofNat']
  change ((word.toNat >>> (UInt32.ofNat (k * 8) % 32).toNat) &&& 255) % 256 = _
  interval_cases k
  all_goals
    rw [mask, Nat.shiftRight_eq_div_pow]
    simp

/-- The counter is written as a number of eight bytes, the most significant one first. -/
theorem Sha1Ctx.Represents.finalcount (represents : context.Represents message) :
    ((List.range 8).map fun i => ((context.count[if i ≥ 4 then 0 else 1]! >>>
        UInt32.ofNat ((3 - (i &&& 3)) * 8)) &&& 255).toUInt8) =
      Endian.toBigEndian 8 (8 * message.length) := by
  have count : context.count[0].toNat + 2 ^ 32 * context.count[1].toNat =
      8 * message.length % 2 ^ 64 := represents.count
  have low := context.count[0].toNat_lt
  apply List.ext_getElem (by simp)
  intro i inside _
  have eight : i < 8 := by simpa using inside
  have place : 3 - (i &&& 3) < 4 := by omega
  rw [List.getElem_map, List.getElem_range, toUInt8_shiftRight _ place, Endian.toBigEndian_getElem]
  apply UInt8.toNat_inj.mp
  rw [UInt8.toNat_ofNat', UInt8.toNat_ofNat']
  -- The first four bytes are those of the upper word, and the others those of the lower one.
  interval_cases i
  all_goals
    simp
    omega

/-- The bytes of the digest are those of the five words. -/
theorem digest_bytes (state : State) :
    ((List.range 20).map fun i => ((state[i >>> 2]! >>>
        UInt32.ofNat ((3 - (i &&& 3)) * 8)) &&& 255).toUInt8) = state.toList.flatMap wordBytes := by
  have byte (word : UInt32) : (word &&& 255).toUInt8 = word.toUInt8 := by
    apply UInt8.toNat_inj.mp
    rw [UInt32.toNat_toUInt8, UInt32.toNat_and, UInt32.toNat_toUInt8]
    exact (congrArg (· % 256) (Nat.and_two_pow_sub_one_eq_mod _ 8)).trans (Nat.mod_mod _ _)
  have words : state.toList = [state[0], state[1], state[2], state[3], state[4]] := by
    apply List.ext_getElem (by simp)
    intro i inside _
    have five : i < 5 := by simpa using inside
    interval_cases i <;> simp
  -- Each of the twenty bytes is compared with the one at its place.
  rw [words]
  simp only [List.flatMap_cons, List.flatMap_nil, wordBytes]
  apply List.ext_getElem (by simp)
  intro i inside _
  have twenty : i < 20 := by simpa using inside
  rw [List.getElem_map, List.getElem_range, byte]
  interval_cases i <;> simp

/-- The digest of a message is the one of the standard, however the message was passed. -/
theorem sha1Final_eq (order : ByteOrder) (represents : context.Represents message) :
    sha1Final order context = some (Fips180.sha1 message) := by
  -- The three updates of the source: the mark, the zeros one by one, the length.
  obtain ⟨marked, first, one⟩ := sha1Update_few order represents (by decide : ([0x80] : List UInt8).length ≤ 64)
  have turns : (120 - (message ++ [0x80]).length % 64) % 64 < 64 := Nat.mod_lt _ (by decide)
  have count : (Endian.toBigEndian 8 (8 * message.length)).length ≤ 64 := by simp
  obtain ⟨padded, looped, filled⟩ := padLoop_represents order one turns
  obtain ⟨last, counted, whole⟩ := sha1Update_few order filled count
  have zeros : (120 - (message ++ [0x80]).length % 64) % 64 = paddingZeros message.length := by
    rw [paddingZeros, List.length_append, List.length_singleton]
    omega
  -- Together they are the padding of the standard.
  have message_eq : message ++ [0x80] ++
      List.replicate ((120 - (message ++ [0x80]).length % 64) % 64) 0 ++
        Endian.toBigEndian 8 (8 * message.length) = message ++ padding message.length := by
    rw [zeros, padding, List.append_assoc, List.append_assoc, List.singleton_append]
  rw [message_eq] at whole
  simp only [sha1Final, represents.finalcount, first, looped, counted, Option.bind_eq_bind,
    Option.bind_some, Option.pure_def]
  rw [digest_bytes, whole.state, Fips180.sha1]

/-- A context that was just initialized stands for the empty message. -/
theorem represents_sha1Init (context : Sha1Ctx) : (sha1Init context).Represents [] := by
  constructor
  · rfl
  · rfl
  · simp [absorbed, Chain.absorb]

/-- A run of updates adds up its data. -/
theorem represents_foldlM (order : ByteOrder) {pieces : List (List UInt8)}
    (represents : context.Represents message)
    (fits : ∀ piece ∈ pieces, piece.length % 2 ^ 32 + 64 ≤ 2 ^ 32) :
    ∃ after, pieces.foldlM (sha1Update order) context = some after ∧
      after.Represents (message ++ pieces.flatMap fun piece => piece.take (piece.length % 2 ^ 32)) := by
  induction pieces generalizing context message with
  | nil => exact ⟨context, rfl, by simpa using represents⟩
  | cons piece pieces ih =>
    obtain ⟨next, updated, one⟩ :=
      sha1Update_represents order represents (fits piece List.mem_cons_self)
    -- The context after one piece represents what was taken up to then, where the next begins.
    obtain ⟨after, folded, whole⟩ := ih one fun other among => fits other (List.mem_cons_of_mem _ among)
    refine ⟨after, ?_, ?_⟩
    · rw [List.foldlM_cons, updated]
      exact folded
    · rwa [List.flatMap_cons, ← List.append_assoc]

/-- However a message is cut into pieces, its digest is the one of the standard. -/
theorem sha1_pieces (order : ByteOrder) (context : Sha1Ctx) (pieces : List (List UInt8))
    (fits : ∀ piece ∈ pieces, piece.length % 2 ^ 32 + 64 ≤ 2 ^ 32) :
    (pieces.foldlM (sha1Update order) (sha1Init context)).bind (sha1Final order) =
      some (Fips180.sha1 (pieces.flatMap fun piece => piece.take (piece.length % 2 ^ 32))) := by
  obtain ⟨after, folded, whole⟩ :=
    represents_foldlM order (represents_sha1Init context) fits
  rw [folded, Option.bind_some, sha1Final_eq order whole, List.nil_append]

/-- The letters a, b and c in two pieces, on a host that puts the lowest byte first. -/
theorem sha1_pieces_abc :
    ([[97], [98, 99]].foldlM (sha1Update .littleEndian)
        (sha1Init ⟨.replicate 5 0, .replicate 2 0, .replicate 64 0⟩)).bind
      (sha1Final .littleEndian) = some (Fips180.sha1 [97, 98, 99]) :=
  sha1_pieces .littleEndian _ [[97], [98, 99]] (by decide)

/-- The digest of a string that is not too long. -/
theorem sha1_eq (order : ByteOrder) {data : List UInt8} (fits : data.length + 64 ≤ 2 ^ 32) :
    sha1 order data = some (Fips180.sha1 data) := by
  have represents := represents_sha1Init ⟨.replicate 5 0, .replicate 2 0, .replicate 64 0⟩
  have short : data.length % 2 ^ 32 + 64 ≤ 2 ^ 32 := by omega
  obtain ⟨after, updated, whole⟩ := sha1Update_represents order represents short
  rw [Nat.mod_eq_of_lt (by omega), List.take_length] at whole
  simp only [sha1, updated, Option.bind_eq_bind, Option.bind_some]
  exact sha1Final_eq order whole

end Final

end Rcom
