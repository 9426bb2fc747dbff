import Librcom.Effects.Conduct
import Librcom.WebSocket.ReadInversion

/-! In which blocks a payload is read, and that no length wraps around in sixty-four bits. -/

namespace Rcom

open Effects

/-- The sizes of the blocks that a payload is read in. -/
def payloadBlocks (length : Nat) : List Nat :=
  List.replicate (length / kPayloadBufferLength) kPayloadBufferLength ++
    if length % kPayloadBufferLength = 0 then [] else [length % kPayloadBufferLength]

/-- Read one block of the given size behind what is in the payload buffer. -/
def readBlock (side : Side) (length : Nat) : WebSocketM Unit := do
  inputAppendPayload side (← socketRead length)

/-- Read blocks of the given sizes, one after the other, until a read fails. -/
def readBlocks (side : Side) : List Nat → WebSocketM Unit
  | [] => return ()
  | length :: rest => do
    readBlock side length
    readBlocks side rest

/-- A payload is read in one block, or in a full block and those of what is left. -/
theorem payloadBlocks_pos {length : Nat} (positive : 0 < length) :
    payloadBlocks length = min length kPayloadBufferLength ::
      payloadBlocks (length - min length kPayloadBufferLength) := by
  unfold payloadBlocks
  -- A payload that is shorter than the buffer is one block, and else a full one comes first.
  rcases Nat.lt_or_ge length kPayloadBufferLength with short | full
  · have none : length / kPayloadBufferLength = 0 := Nat.div_eq_of_lt short
    have self : length % kPayloadBufferLength = length := Nat.mod_eq_of_lt short
    rw [Nat.min_eq_left short.le, none, self, Nat.sub_self, if_neg (by omega)]
    rfl
  · obtain ⟨left, rfl⟩ := Nat.exists_eq_add_of_le full
    have quotient : (kPayloadBufferLength + left) / kPayloadBufferLength =
        left / kPayloadBufferLength + 1 := Nat.add_div_left left (by decide)
    rw [Nat.min_eq_right full, Nat.add_sub_cancel_left, quotient, Nat.add_mod_left,
      List.replicate_succ, List.cons_append]

/-- Every block has between one byte and as many as the buffer holds. -/
theorem payloadBlocks_bounds {length block : Nat} (member : block ∈ payloadBlocks length) :
    1 ≤ block ∧ block ≤ kPayloadBufferLength := by
  have positive : 0 < kPayloadBufferLength := by decide
  rcases List.mem_append.mp member with full | last
  · obtain ⟨-, rfl⟩ := List.mem_replicate.mp full
    omega
  · split at last
    · cases last
    · -- The last block is what is left over, and it is left out when it would be empty.
      next partial' =>
      obtain rfl := List.mem_singleton.mp last
      have below := Nat.mod_lt length positive
      omega

/-- The blocks make up the declared length. -/
theorem payloadBlocks_sum (length : Nat) : (payloadBlocks length).sum = length := by
  unfold payloadBlocks
  have parts := Nat.div_add_mod length kPayloadBufferLength
  rw [List.sum_append, List.sum_replicate_nat]
  split
  · next whole =>
    rw [List.sum_nil, Nat.mul_comm]
    omega
  · rw [List.sum_singleton, Nat.mul_comm]
    exact parts

section Blocks

variable (side : Side)

/-- A block goes behind what is in the buffer, without the mask. -/
theorem inputAppendPayload_eq (data : Bytes) :
    inputAppendPayload side data = Program.update fun ws =>
      ws.withPayload (ws.inputPayloadBuffer ++ wirePayload (receiveMask side ws) data) := by
  cases side <;> rfl

/-- A block of any size is read behind what is in the buffer, or the read is rejected. -/
theorem readBlock_achieves (length : Nat) (ws : WebSocket) :
    (readBlock side length).Achieves ws
      (fun _ ws' => ws'.inputMessageLength = ws.inputMessageLength) ws.Rejects := by
  refine (socketRead_achieves length ws).bind ?_
  rintro bytes _ ⟨-, -, rest, -, rfl⟩
  exact (inputAppendPayload_yields side bytes _).achieves rfl

/-- To read any blocks comes to an end. -/
theorem readBlocks_halts (blocks : List Nat) : ∀ ws, (readBlocks side blocks).Halts ws := by
  induction blocks with
  | nil => exact fun ws => (Program.yields_pure _ ws).halts
  | cons length rest ih =>
    exact fun ws => (readBlock_achieves side length ws).halts.bind fun _ ws' _ => ih ws'

/-- A round before the end reads one block. -/
theorem inputReadPayloadRound_agrees (processed : Nat) (ws : WebSocket)
    (more : processed < ws.inputMessageLength) :
    (inputReadPayloadRound side processed).Agrees (do
      readBlock side (min (ws.inputMessageLength - processed) kPayloadBufferLength)
      return .inl (processed + min (ws.inputMessageLength - processed) kPayloadBufferLength)) ws := by
  intro fuel
  simp [inputReadPayloadRound, readBlock, more]

/-- The rounds after some bytes were read do what reading the blocks of the others does. -/
theorem inputReadPayloadRounds_alike (left : Nat) : ∀ (processed : Nat) (ws : WebSocket),
    processed + left = ws.inputMessageLength →
      (Program.iterate (inputReadPayloadRound side) processed).Alike
        (readBlocks side (payloadBlocks left)) ws := by
  -- Each block is taken off what is left, until nothing is.
  induction left using Nat.strong_induction_on with
  | _ left ih =>
    intro processed ws total
    rcases Nat.eq_zero_or_pos left with rfl | positive
    · have last : (inputReadPayloadRound side processed).Yields ws (.inr ()) ws :=
        inputReadPayloadRound_last ws side (by omega)
      exact (Program.Yields.iterate_last last).alike (Program.yields_pure _ _)
    · have agrees := inputReadPayloadRound_agrees side processed ws (by omega)
      have same : ws.inputMessageLength - processed = left := by omega
      rw [same] at agrees
      rw [payloadBlocks_pos positive]
      generalize block : min left kPayloadBufferLength = length at agrees
      -- The block is not empty, and so what is left becomes less.
      have size : 0 < length ∧ length ≤ left := by
        unfold kPayloadBufferLength at block
        omega
      -- A read that fails ends both, and in the same state.
      rcases (readBlock_achieves side length ws).halts.cases with ⟨_, ws', read⟩ | ⟨e, ws', threw⟩
      · have declared := (readBlock_achieves side length ws).yields read
        have round := agrees.yields (read.bind (Program.yields_pure _ _))
        have rest := ih (left - length) (by omega) (processed + length) ws' (by omega)
        rcases (readBlocks_halts side (payloadBlocks (left - length)) ws').cases with
          ⟨_, ws'', ended⟩ | ⟨e, ws'', ended⟩
        · exact (round.iterate_next ((rest.yields _ _).mpr ended)).alike (read.bind ended)
        · exact (Program.Throws.iterate_next round ((rest.throws _ _).mpr ended)).alike
            (read.bind_throws ended)
      · have round := agrees.throws (threw.bind _)
        exact round.iterate.alike (threw.bind _)

/-- The payload is read in blocks that make up the declared length. -/
theorem inputReadPayload_alike (ws : WebSocket) :
    (inputReadPayload side).Alike (do
      Program.update fun ws => { ws with inputPayloadBuffer := [] }
      readBlocks side (payloadBlocks ws.inputMessageLength)) ws := by
  have cleared : (Program.update fun ws : WebSocket => { ws with inputPayloadBuffer := [] } :
      WebSocketM Unit).Yields ws () (ws.withPayload []) := Program.yields_update _ ws
  have read := inputReadPayloadRounds_alike side ws.inputMessageLength 0 (ws.withPayload [])
    (Nat.zero_add _)
  -- The blocks end in one of two ways, and the rounds end in the same way.
  rcases (readBlocks_halts side (payloadBlocks ws.inputMessageLength) (ws.withPayload [])).cases with
    ⟨_, ws', ended⟩ | ⟨e, ws', ended⟩
  · exact (cleared.next ((read.yields _ _).mpr ended)).alike (cleared.next ended)
  · exact (cleared.bind_throws ((read.throws _ _).mpr ended)).alike (cleared.bind_throws ended)

end Blocks

section Arithmetic

variable (side : Side)

/-- A round of reading a payload, with its lengths in sixty-four bits. -/
def inputReadPayloadRound64 (lengthProcessed : UInt64) : WebSocketM (UInt64 ⊕ Unit) := do
  let inputMessageLength := UInt64.ofNat (← Program.get).inputMessageLength
  if lengthProcessed < inputMessageLength then
    let left := inputMessageLength - lengthProcessed
    let lengthToRead :=
      if left > UInt64.ofNat kPayloadBufferLength then UInt64.ofNat kPayloadBufferLength else left
    let buffer ← socketRead lengthToRead.toNat
    inputAppendPayload side buffer
    return .inl (lengthProcessed + lengthToRead)
  else return .inr ()

def inputReadPayload64 : WebSocketM Unit := do
  Program.update fun ws => { ws with inputPayloadBuffer := [] }
  Program.iterate (inputReadPayloadRound64 side) 0

/-- Read and check one frame, with the lengths of its payload in sixty-four bits. -/
def readMessage64 : WebSocketM Unit := do
  inputReadHeader side
  inputAssertValidMessage side
  inputReadPayload64 side

/-- The check of a message's length, with the sum in sixty-four bits. -/
def assertMessageLength64 : WebSocketM Unit := do
  let ws ← Program.get
  let length := UInt64.ofNat ws.inputPayloadBuffer.length
    + if ws.frameHeader.opcode = Opcode.kContinutationOpcode.code then UInt64.ofNat ws.message.length
      else 0
  if length > UInt64.ofNat kMaximumMessageLength then
    Program.raise (.recvError "Message too big" kCloseTooBig)
  else return ()

/-- In a round of an accepted payload, neither the difference nor the sum wraps around. -/
theorem inputReadPayloadRound64_agrees {processed : UInt64} {ws : WebSocket}
    (declared : ws.inputMessageLength ≤ kMaximumPayloadLength) :
    (inputReadPayloadRound side processed.toNat).Agrees
      (do return (← inputReadPayloadRound64 side processed).map UInt64.toNat id) ws := by
  intro fuel
  unfold kMaximumPayloadLength at declared
  -- An accepted length is far from the end of sixty-four bits.
  have small : (UInt64.ofNat ws.inputMessageLength).toNat = ws.inputMessageLength :=
    UInt64.toNat_ofNat_of_lt' (by rw [UInt64.size]; omega)
  by_cases more : processed < UInt64.ofNat ws.inputMessageLength
  · have more' : processed.toNat < ws.inputMessageLength := by
      rw [UInt64.lt_iff_toNat_lt, small] at more
      exact more
    -- The bytes processed are fewer than the length, so that the difference is not below zero.
    have difference : (UInt64.ofNat ws.inputMessageLength - processed).toNat =
        ws.inputMessageLength - processed.toNat := by
      rw [UInt64.toNat_sub_of_le _ _ (UInt64.le_iff_toNat_le.mpr (by omega)), small]
    -- The block is chosen with an `if`, as the source does.
    let block := if UInt64.ofNat ws.inputMessageLength - processed > UInt64.ofNat kPayloadBufferLength
      then UInt64.ofNat kPayloadBufferLength else UInt64.ofNat ws.inputMessageLength - processed
    have least : block.toNat = min (ws.inputMessageLength - processed.toNat) kPayloadBufferLength := by
      have size : (UInt64.ofNat kPayloadBufferLength).toNat = kPayloadBufferLength := rfl
      unfold block
      split
      · next full =>
        rw [gt_iff_lt, UInt64.lt_iff_toNat_lt, difference, size] at full
        omega
      · next short =>
        rw [gt_iff_lt, UInt64.lt_iff_toNat_lt, difference, size] at short
        omega
    -- The sum is at most the declared length.
    have sum : (processed + block).toNat = processed.toNat + block.toNat := by
      rw [UInt64.toNat_add]
      exact Nat.mod_eq_of_lt (by omega)
    have round : (inputReadPayloadRound64 side processed).Agrees (do
        readBlock side block.toNat
        return .inl (processed + block)) ws := by
      intro fuel
      simp [inputReadPayloadRound64, readBlock, more, block]
    rw [inputReadPayloadRound_agrees side processed.toNat ws more' fuel, ← least, ← sum, Program.run_bind,
      Program.run_bind, round fuel, Program.run_bind, Outcome.andThen_andThen]
    rfl
  · have last : ¬ processed.toNat < ws.inputMessageLength := by
      rwa [UInt64.lt_iff_toNat_lt, small] at more
    simp [inputReadPayloadRound, inputReadPayloadRound64, more, last]

/-- Reading an accepted payload is the same in sixty-four bits. -/
theorem inputReadPayload64_agrees {ws : WebSocket}
    (declared : ws.inputMessageLength ≤ kMaximumPayloadLength) :
    (inputReadPayload side).Agrees (inputReadPayload64 side) ws := by
  have rounds : (Program.iterate (inputReadPayloadRound side) (0 : UInt64).toNat).Agrees
      (Program.iterate (inputReadPayloadRound64 side) 0) (ws.withPayload []) := by
    refine Program.iterate_agrees UInt64.toNat
      -- The declared length is not changed by a round, and stays accepted.
      (fun _ (ws' : WebSocket) => ws'.inputMessageLength ≤ kMaximumPayloadLength) ?_ ?_ declared
    · exact fun processed ws' declared' => inputReadPayloadRound64_agrees side declared'
    · intro processed ws' declared'
      refine (Program.yields_get ws').bind_ensures ?_
      dsimp only
      split
      · refine (socketRead_achieves _ ws').toEnsures.seq (fun _ _ _ => trivial) ?_
        rintro bytes _ ⟨-, -, rest, -, rfl⟩
        exact (inputAppendPayload_yields side bytes _).bind_ensures
          (Program.ensures_pure declared')
      · exact Program.ensures_pure trivial
  exact (Program.yields_update _ ws).bind_agrees rounds

/-- No length wraps around while a frame is read, whatever length it declares. -/
theorem readMessage64_agrees (ws : WebSocket) : (readMessage side).Agrees (readMessage64 side) ws := by
  refine Program.Ensures.bind_agrees Program.ensures_true fun _ ws _ => ?_
  refine (inputAssertValidMessage_achieves side ws).toEnsures.bind_agrees ?_
  -- Only a length that passed the checks is read.
  rintro - _ ⟨rfl, -, -, declared⟩
  exact inputReadPayload64_agrees side declared

/-- The sum of two bounded lengths does not wrap around. -/
theorem assertMessageLength64_agrees {ws : WebSocket}
    (payload : ws.inputPayloadBuffer.length ≤ kMaximumPayloadLength)
    (message : ws.message.length ≤ kMaximumMessageLength) :
    assertMessageLength.Agrees assertMessageLength64 ws := by
  refine (Program.yields_get ws).bind_agrees ?_
  unfold kMaximumPayloadLength at payload
  unfold kMaximumMessageLength at message
  -- Both lengths are far below the word, so neither they nor their sum wraps.
  have ofNat {n : Nat} (small : n < 2 ^ 63) : (UInt64.ofNat n).toNat = n :=
    UInt64.toNat_ofNat_of_lt' (by rw [UInt64.size]; omega)
  have sum : (UInt64.ofNat ws.inputPayloadBuffer.length +
      if ws.frameHeader.opcode = Opcode.kContinutationOpcode.code then UInt64.ofNat ws.message.length
        else 0).toNat = ws.inputPayloadBuffer.length +
      if ws.frameHeader.opcode = Opcode.kContinutationOpcode.code then ws.message.length else 0 := by
    split
    · rw [UInt64.toNat_add, ofNat (by omega), ofNat (by omega)]
      exact Nat.mod_eq_of_lt (by omega)
    · rw [UInt64.add_zero, ofNat (by omega), Nat.add_zero]
  intro fuel
  simp only [gt_iff_lt, UInt64.lt_iff_toNat_lt, sum]
  rfl

end Arithmetic

end Rcom
