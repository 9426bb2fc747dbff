import Librcom.WebSocket.CloseLaws

/-! Handling one frame: the message grows, a ping is answered, or the link is closed. -/

namespace Rcom

open Effects

/-- The data frame that was read fits the message in progress, and the message stays bounded. -/
structure WebSocket.TakesData (ws : WebSocket) : Prop where
  continuation : ws.isContinuation =
    decide (ws.frameHeader.opcode = Opcode.kContinutationOpcode.code)
  bounded : ws.inputPayloadBuffer.length +
    (if ws.frameHeader.opcode = Opcode.kContinutationOpcode.code then ws.message.length else 0) ≤
      kMaximumMessageLength

/-- The state after a data frame was added to the message. -/
def WebSocket.dataHandled (ws : WebSocket) : WebSocket :=
  { ws with
    isText :=
      if ws.frameHeader.opcode = Opcode.kTextOpcode.code then true
      else if ws.frameHeader.opcode = Opcode.kBinaryOpcode.code then false
      else ws.isText
    message :=
      (if ws.frameHeader.opcode = Opcode.kTextOpcode.code
          ∨ ws.frameHeader.opcode = Opcode.kBinaryOpcode.code then [] else ws.message)
        ++ ws.inputPayloadBuffer
    isContinuation := !ws.frameHeader.fin }

/-- The check for continuations says that the flag and the opcode agree. -/
theorem continuation_iff (opcode : UInt8) (isContinuation : Bool) :
    ((opcode = Opcode.kContinutationOpcode.code ∧ isContinuation = true) ∨
      (opcode ≠ Opcode.kContinutationOpcode.code ∧ isContinuation = false)) ↔
      isContinuation = decide (opcode = Opcode.kContinutationOpcode.code) := by
  -- The opcode either is that of a continuation or it is not, and in both cases the flag is given.
  by_cases code : opcode = Opcode.kContinutationOpcode.code <;> simp [code]

/-- A data frame that fits is added to the message. -/
theorem handleDataPayload_yields {ws : WebSocket} (takes : ws.TakesData) :
    handleDataPayload.Yields ws () ws.dataHandled := by
  -- Both checks pass, and the three updates after them make the state.
  have continuation : assertContinuation.Yields ws () ws := by
    refine (Program.yields_get ws).bind ?_
    rw [if_pos ((continuation_iff _ _).mpr takes.continuation)]
    exact Program.yields_pure _ _
  have bounded : assertMessageLength.Yields ws () ws := by
    refine (Program.yields_get ws).bind ?_
    simp only [if_neg (Nat.not_lt.mpr takes.bounded)]
    exact Program.yields_pure _ _
  exact continuation.next (bounded.next ((Program.yields_update _ _).next
    ((Program.yields_update _ _).next (Program.yields_update _ _))))

/-- A data frame that ought to continue the message, or ought not to, is rejected as such. -/
theorem handleDataPayload_discontinued {ws : WebSocket}
    (unexpected : ws.isContinuation ≠
      decide (ws.frameHeader.opcode = Opcode.kContinutationOpcode.code)) :
    handleDataPayload.Throws ws (.recvError "Unexpected continuation" kCloseProtocolError) ws := by
  -- The check for continuations is the first one, and nothing after it is run.
  have refused : assertContinuation.Throws ws
      (.recvError "Unexpected continuation" kCloseProtocolError) ws := by
    refine (Program.yields_get ws).bind_throws ?_
    rw [if_neg (mt (continuation_iff _ _).mp unexpected)]
    exact Program.throws_raise _ _
  exact refused.bind _

/-- A data frame that would make the message too long is rejected as such. -/
theorem handleDataPayload_overlong {ws : WebSocket}
    (expected : ws.isContinuation =
      decide (ws.frameHeader.opcode = Opcode.kContinutationOpcode.code))
    (long : kMaximumMessageLength < ws.inputPayloadBuffer.length +
      if ws.frameHeader.opcode = Opcode.kContinutationOpcode.code then ws.message.length else 0) :
    handleDataPayload.Throws ws (.recvError "Message too big" kCloseTooBig) ws := by
  -- The first check passes here, so that it is the second which raises.
  have continuation : assertContinuation.Yields ws () ws := by
    refine (Program.yields_get ws).bind ?_
    rw [if_pos ((continuation_iff _ _).mpr expected)]
    exact Program.yields_pure _ _
  have tooBig : assertMessageLength.Throws ws (.recvError "Message too big" kCloseTooBig) ws := by
    refine (Program.yields_get ws).bind_throws ?_
    simp only [if_pos long]
    exact Program.throws_raise _ _
  exact continuation.bind_throws (tooBig.bind _)

/-- A data frame that does not fit is rejected, and nothing changes. -/
theorem handleDataPayload_throws {ws : WebSocket} (refuses : ¬ ws.TakesData) :
    ∃ e, e.IsRecvError ∧ handleDataPayload.Throws ws e ws := by
  by_cases fits : ws.isContinuation =
      decide (ws.frameHeader.opcode = Opcode.kContinutationOpcode.code)
  · -- The flag agrees with the opcode, so the message would grow too long.
    exact ⟨.recvError _ _, trivial, handleDataPayload_overlong fits
      (Nat.lt_of_not_le fun bounded => refuses ⟨fits, bounded⟩)⟩
  · exact ⟨.recvError _ _, trivial, handleDataPayload_discontinued fits⟩

/-- What handling a frame that was read leaves behind. -/
def Handled (side : Side) (f : Frame) (ws ws' : WebSocket) : Prop :=
  match f.opcode with
  | .kCloseOpcode =>
    Closing side (answerCode f.payload) ws ws' ∧ ws'.frameHeader = ws.frameHeader
  | .kPingOpcode => FrameSent side .kPongOpcode f.payload ws ws'
  | .kPongOpcode => ws' = ws
  | .kContinutationOpcode | .kTextOpcode | .kBinaryOpcode => ws.TakesData ∧ ws' = ws.dataHandled

/-- A data frame is handled by taking its payload. -/
theorem handled_data {side : Side} {f : Frame} {ws ws' : WebSocket} (data : f.isData = true) :
    Handled side f ws ws' ↔ ws.TakesData ∧ ws' = ws.dataHandled := by
  -- The data opcodes are the three that the definition treats alike.
  unfold Frame.isData at data
  unfold Handled
  cases code : f.opcode <;> simp [code] at data ⊢

/-- A frame that was read is processed as its opcode says. -/
theorem processMessage_agrees (side : Side) (f : Frame) (ws : WebSocket)
    (header : ws.frameHeader = f.header) :
    (processMessage side).Agrees
      (match f.opcode with
        | .kCloseOpcode => answerCloseHandshake side
        | .kPingOpcode => sendPong side
        | .kPongOpcode => handlePongResponse
        | .kContinutationOpcode | .kTextOpcode | .kBinaryOpcode => handleDataPayload) ws := by
  intro fuel
  have opcode : ws.frameHeader.opcode = f.opcode.code := congrArg FrameHeader.opcode header
  -- The two kinds of opcodes are told apart by their codes.
  cases code : f.opcode <;>
    simp [processMessage, handleControlMessage, hasControlMessage, hasDataMessage, opcode, code]

/-- A frame that was read is handled as its opcode asks for. -/
theorem processMessage_ensures {side : Side} {f : Frame} {ws : WebSocket}
    (header : ws.frameHeader = f.header) (payload : ws.inputPayloadBuffer = f.payload) :
    (processMessage side).Ensures ws (fun _ ws' => Handled side f ws ws')
      (fun e ws' => (e.IsRecvError ∧ ws' = ws) ∨ ¬ ws.SleepsSucceed) := by
  refine (processMessage_agrees side f ws header).ensures ?_
  -- A data frame is added if it fits, and otherwise rejected.
  have data : handleDataPayload.Ensures ws
      (fun _ ws' => ws.TakesData ∧ ws' = ws.dataHandled)
      (fun e ws' => (e.IsRecvError ∧ ws' = ws) ∨ ¬ ws.SleepsSucceed) := by
    by_cases takes : ws.TakesData
    · exact (handleDataPayload_yields takes).ensures ⟨takes, rfl⟩
    · obtain ⟨e, isRecvError, threw⟩ := handleDataPayload_throws takes
      exact threw.ensures (.inl ⟨isRecvError, rfl⟩)
  unfold Handled
  rw [← payload]
  cases f.opcode with
  | kCloseOpcode =>
    -- The answers to a Close frame and to a ping fail only if a sleep does.
    exact (answerCloseHandshake_ensures side ws).mono (fun _ _ holds => holds)
      (fun _ _ failed => .inr failed)
  | kPingOpcode =>
    exact (sendPong_ensures side ws).mono (fun _ _ holds => holds) (fun _ _ failed => .inr failed)
  | kPongOpcode => exact Program.ensures_pure rfl
  | kContinutationOpcode => exact data
  | kTextOpcode => exact data
  | kBinaryOpcode => exact data

/-- A receiver handles the frame in front, or it rejects what is there. -/
theorem handleOneMessage_ensures (side : Side) (ws : WebSocket) :
    (handleOneMessage side).Ensures ws
      (fun _ ws' => ws.socket.connected = true ∧ ∃ f : Frame, ∃ rest reads, f.Accepted side ∧
        ws.socket.incoming = f.encode ++ rest ∧ Handled side f (ws.received f rest reads) ws')
      (fun e ws' => (e.IsRecvError ∧ ws.Idle ws') ∨ ¬ ws.SleepsSucceed) := by
  refine (readMessage_achieves side ws).toEnsures.seq ?_ ?_
  · -- What cannot be read is rejected, and nothing was passed for it.
    rintro e ws' ⟨isRecvError, reading⟩
    exact .inl ⟨isRecvError, reading.idle⟩
  · rintro - _ ⟨connected, f, rest, reads, accepted, incoming, rfl⟩
    -- What was read is processed from the state after the read.
    refine (processMessage_ensures (f := f) rfl rfl).mono ?_ ?_
    · exact fun _ _ handled => ⟨connected, f, rest, reads, accepted, incoming, handled⟩
    · rintro e _ (⟨isRecvError, rfl⟩ | failed)
      · exact .inl ⟨isRecvError, rfl, rfl, .of_linux rfl⟩
      · exact .inr failed

/-- With a frame in front, it is this frame that a receiver handles. -/
theorem handleOneMessage_frame {side : Side} {ws : WebSocket} {f : Frame} {rest : Bytes}
    (incoming : ws.socket.incoming = f.encode ++ rest) :
    (handleOneMessage side).Ensures ws
      (fun _ ws' => ws.socket.connected = true ∧
        ∃ reads, Handled side f (ws.received f rest reads) ws')
      (fun _ _ => True) := by
  refine (handleOneMessage_ensures side ws).mono ?_ (fun _ _ _ => trivial)
  rintro - ws' ⟨connected, g, rest', reads, -, incoming', handled⟩
  -- The bytes in front are the encoding of one frame only.
  obtain ⟨rfl, rfl⟩ := Frame.encode_inj (incoming.symm.trans incoming')
  exact ⟨connected, reads, handled⟩

end Rcom
