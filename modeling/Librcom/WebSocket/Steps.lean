import Librcom.WebSocket.Input

/-! What the steps of the methods of a WebSocket have in common, the methods have. -/

namespace Rcom

open Effects

/-- An exception for the peer carries one of the three codes that a receiver has for it. -/
def Fault.Refuses : Fault → Prop
  | recvError _ code =>
    code = kCloseProtocolError ∨ code = kCloseTooBig ∨ code = kCloseInternalError
  | runtimeError _ => True

/-- The later state has the same socket, and in the two buffers that receiving fills the same bytes. -/
structure Aside (ws ws' : WebSocket) : Prop where
  payload : ws'.inputPayloadBuffer = ws.inputPayloadBuffer
  message : ws'.message = ws.message
  socket : ws'.socket = ws.socket

/-- The steps that neither fill a buffer nor pass anything have the property, and so has closing. -/
structure StepsHave (side : Side) (has : ∀ {α : Type}, WebSocketM α → Prop) : Prop extends
    Program.Compositional has where
  aside : ∀ {f : WebSocket → WebSocket}, (∀ ws, Aside ws (f ws)) → has (Program.update f)
  time : has rcomTime
  waits : ∀ timeout, has (socketWait timeout)
  asks : ∀ length, has (onSocket (Socket.read length))
  buffering : ∀ nodelay, has (Program.update fun ws : WebSocket =>
    { ws with socket := { ws.socket with nodelay := nodelay } })
  closes : has (closeConnection side)

/-- To refuse a frame has the property. -/
def RefusalsHave (has : ∀ {α : Type}, WebSocketM α → Prop) : Prop :=
  ∀ {α : Type} (what : String) (code : CloseCode), (Fault.recvError what code).Refuses →
    has (Program.raise (.recvError what code) : WebSocketM α)

/-- To write to any member but the socket has the property. -/
def WritesHave (has : ∀ {α : Type}, WebSocketM α → Prop) : Prop :=
  ∀ {f : WebSocket → WebSocket}, (∀ ws, (f ws).socket = ws.socket) → has (Program.update f)

namespace StepsHave

variable {side : Side} {has : ∀ {α : Type}, WebSocketM α → Prop} (steps : StepsHave side has)

include steps

/-- To compute the time that is left is made of the parts. -/
theorem computeRemaningTime_has (startTime timeout : ℚ) :
    has (computeRemaningTime startTime timeout) :=
  steps.bind steps.time fun _ => steps.pure _

/-- To tell the type of a message is made of the parts. -/
theorem getMessageType_has : has getMessageType := by
  refine steps.get_bind fun ws => ?_
  split
  · exact steps.pure _
  · exact steps.pure _

section Sending

/-- A frame that is only made is not passed yet. -/
theorem outputAppendHeader_has (output : Bytes) (opcode : Opcode) (message : Bytes) :
    has (outputAppendHeader side output opcode message) := by
  cases side with
  | server => exact steps.pure _
  | client =>
    -- The mask that is drawn is neither of the buffers.
    refine steps.bind (steps.aside fun _ => ⟨rfl, rfl, rfl⟩) fun _ => ?_
    exact steps.get_bind fun _ => steps.pure _

/-- To mask data is made of the parts. -/
theorem maskData_has (data : Bytes) : has (ClientSideWebSocket.maskData data) :=
  steps.get_bind fun _ => steps.pure _

/-- To make a frame is made of the parts. -/
theorem makeMessage_has (opcode : Opcode) (message : Bytes) : has (makeMessage side opcode message) := by
  refine steps.bind (steps.outputAppendHeader_has [] opcode message) fun output => ?_
  cases side with
  | server => exact steps.pure _
  | client =>
    -- Each round masks one block and appends it to a buffer of its own.
    refine steps.iterate (fun round => ?_) _
    unfold ClientSideWebSocket.outputAppendPayloadRound
    dsimp only
    split
    · exact steps.bind (steps.maskData_has _) fun _ => steps.pure _
    · exact steps.pure _

/-- What may be passed to the socket may be sent: what is not taken closes the link. -/
theorem socketSend_has {call : SocketCall} (passes : has (onSocket (Socket.send call))) :
    has (socketSend side call) := by
  refine steps.bind passes fun taken => ?_
  split
  · exact steps.pure _
  · exact steps.bind steps.closes fun _ => steps.pure _

/-- A block is masked on the client's side, and then passed. -/
theorem outputSendPayload_has {data : Bytes}
    (passes : ∀ bytes, has (onSocket (Socket.send (.block bytes)))) :
    has (outputSendPayload side data) := by
  cases side with
  | server => exact steps.socketSend_has (passes _)
  | client => exact steps.bind (steps.maskData_has data) fun _ => steps.socketSend_has (passes _)

/-- To send the payload of a long message is made of its blocks. -/
theorem sendLongMessagePayload_has (passes : ∀ bytes, has (onSocket (Socket.send (.block bytes))))
    (message : Bytes) : has (sendLongMessagePayload side message) := by
  refine steps.iterate (fun round => ?_) _
  unfold sendLongMessagePayloadRound
  dsimp only
  split
  · exact steps.bind (steps.outputSendPayload_has passes) fun _ => steps.pure _
  · exact steps.pure _

/-- The size of a message decides in which of the two ways it is sent. -/
theorem send_has {message : Bytes} {type : MessageType}
    (short : has (sendShortDataMessage side message type))
    (head : has (sendLongMessageHeader side type.opcode message))
    (passes : ∀ bytes, has (onSocket (Socket.send (.block bytes)))) :
    has (send side message type) := by
  unfold send
  -- The three ways of the source: too long, in one piece, or the header and then blocks.
  split
  · exact steps.pure _
  · split
    · exact short
    · refine steps.bind (steps.buffering false) fun _ => steps.bind head fun taken => ?_
      split
      · exact steps.sendLongMessagePayload_has passes message
      · exact steps.pure _

end Sending

section Reading

variable (refuses : RefusalsHave has)

include refuses

/-- A failed read is an internal error. -/
theorem socketRead_has (length : Nat) : has (socketRead length) := by
  refine steps.bind (steps.asks length) fun answer => ?_
  split
  · exact steps.pure _
  · exact refuses _ _ (.inr (.inr rfl))

/-- To read the header of a frame is made of the parts. -/
theorem inputReadHeader_has : has (inputReadHeader side) := by
  have reads (length : Nat) : has (socketRead length) := steps.socketRead_has refuses length
  have head : has inputReadFrameHeader :=
    steps.bind (reads 2) fun _ => steps.aside fun _ => ⟨rfl, rfl, rfl⟩
  have lengths : has inputReadPayloadLength := by
    refine steps.get_bind fun ws => ?_
    dsimp only
    split
    · -- Up to 125 the short length is the length, and nothing else is read.
      exact steps.aside fun _ => ⟨rfl, rfl, rfl⟩
    · split
      · -- The short length 126 stands for two bytes of length, and 127 for eight.
        refine steps.bind (steps.bind (reads 2) fun _ => steps.pure _) fun _ => ?_
        exact steps.aside fun _ => ⟨rfl, rfl, rfl⟩
      · split
        · refine steps.bind (steps.bind (reads 8) fun _ => steps.pure _) fun _ => ?_
          exact steps.aside fun _ => ⟨rfl, rfl, rfl⟩
        · exact steps.pure _
  have masks : has inputReadPayloadMask :=
    steps.bind (reads 4) fun _ => steps.aside fun _ => ⟨rfl, rfl, rfl⟩
  -- Only a server reads a mask.
  cases side with
  | client => exact steps.bind head fun _ => lengths
  | server => exact steps.bind head fun _ => steps.bind lengths fun _ => masks

/-- To check the mask flag is made of the parts. -/
theorem inputAssertMaskFlag_has : has (inputAssertMaskFlag side) := by
  -- Either side refuses what is masked the wrong way, as a violation of the protocol.
  cases side <;> refine steps.get_bind fun ws => ?_ <;> split
  · exact refuses _ _ (.inl rfl)
  · exact steps.pure _
  · exact refuses _ _ (.inl rfl)
  · exact steps.pure _

/-- To check the opcode is made of the parts. -/
theorem inputAssertOpcode_has : has inputAssertOpcode := by
  refine steps.get_bind fun ws => ?_
  dsimp only
  split
  · exact steps.pure _
  · exact refuses _ _ (.inl rfl)

/-- A head that fails a check breaks the protocol, or declares too much. -/
theorem inputAssertValidMessage_has : has (inputAssertValidMessage side) := by
  have bounded : has inputAssertPayloadLength := by
    refine steps.get_bind fun ws => ?_
    split
    · exact refuses _ _ (.inr (.inl rfl))
    · exact steps.pure _
  exact steps.bind (steps.inputAssertMaskFlag_has refuses) fun _ =>
    steps.bind (steps.inputAssertOpcode_has refuses) fun _ => bounded

/-- To wait for data is made of the parts. -/
theorem waitForData_has (timeout : ℚ) : has (waitForData timeout) := by
  refine steps.bind (steps.waits timeout) fun status => ?_
  cases status with
  | kWaitOK => exact steps.pure _
  | kWaitTimeout => exact steps.pure _
  | kWaitError => exact refuses _ _ (.inr (.inr rfl))

/-- A frame is read when its payload may be written. -/
theorem readMessage_has (writes : WritesHave has) : has (readMessage side) := by
  have appends (bytes : Bytes) : has (inputAppendPayload side bytes) := by
    cases side with
    | client => exact writes fun _ => rfl
    | server => exact writes fun _ => rfl
  have payload : has (inputReadPayload side) := by
    refine steps.bind (writes fun _ => rfl) fun _ => ?_
    -- Each round reads one block and appends it, as long as something is missing.
    refine steps.iterate (fun processed => ?_) 0
    refine steps.get_bind fun ws => ?_
    dsimp only
    split
    · refine steps.bind (steps.socketRead_has refuses _) fun bytes => ?_
      exact steps.bind (appends bytes) fun _ => steps.pure _
    · exact steps.pure _
  refine steps.bind (steps.inputReadHeader_has refuses) fun _ => ?_
  exact steps.bind (steps.inputAssertValidMessage_has refuses) fun _ => payload

/-- A data frame is added when the message may be written. -/
theorem handleDataPayload_has (writes : WritesHave has) : has handleDataPayload := by
  have continues : has assertContinuation := by
    -- A first frame in the middle of a message, or a continuation without one, breaks the protocol.
    refine steps.get_bind fun ws => ?_
    split
    · exact steps.pure _
    · exact refuses _ _ (.inl rfl)
  have fits : has assertMessageLength := by
    -- A message that grows beyond the limit is too big.
    refine steps.get_bind fun ws => ?_
    dsimp only
    generalize ws.inputPayloadBuffer.length + _ = length
    split
    · exact refuses _ _ (.inr (.inl rfl))
    · exact steps.pure _
  -- The message and its flags are only written once both checks have passed.
  refine steps.bind continues fun _ => steps.bind fits fun _ => ?_
  refine steps.bind (writes fun _ => rfl) fun _ => ?_
  exact steps.bind (writes fun _ => rfl) fun _ => writes fun _ => rfl

end Reading

section Closing

variable (reads : has (readMessage side))

include reads

/-- The frames that are discarded while waiting for the peer's Close frame are only read. -/
theorem closingWaitReply_has (timeout : ℚ) : has (closingWaitReply side timeout) := by
  refine steps.bind steps.time fun startTime => ?_
  refine steps.iterate (fun remainingTime => ?_) timeout
  -- Any other frame only takes time.
  have later : has (do
      return .inl (← computeRemaningTime startTime timeout) : WebSocketM (ℚ ⊕ Unit)) :=
    steps.bind (steps.computeRemaningTime_has startTime timeout) fun _ => steps.pure _
  unfold closingWaitReplyRound
  split
  · refine steps.bind (steps.waits _) fun status => ?_
    split
    · refine steps.bind reads fun _ => steps.get_bind fun ws => ?_
      split
      · exact steps.pure _
      · exact later
    · exact later
  · exact steps.pure _

/-- The closing handshake is made of the Close frame and of the parts. -/
theorem tryCloseWithHandshake_has {code : CloseCode} (sends : has (sendCloseMessage side code)) :
    has (tryCloseWithHandshake side code) := by
  refine steps.bind sends fun sent => ?_
  split
  · exact steps.bind (steps.closingWaitReply_has reads 5) fun _ => steps.closes
  · exact steps.closes

end Closing

section Receiving

/-- A round that has not come to an end leaves less time to the next one. -/
theorem nextRound_has (startTime timeout : ℚ) :
    has (do return .inl (← computeRemaningTime startTime timeout) : WebSocketM (ℚ ⊕ RecvStatus)) :=
  steps.bind (steps.computeRemaningTime_has startTime timeout) fun _ => steps.pure _

/-- After a frame the round returns a whole message, or the end of the link, or goes on. -/
theorem endOfRound_has (startTime timeout : ℚ) :
    has (do
      if ← hasCompleteDataMessage then return .inr (← getMessageType)
      else if !(← isConnectedNolock) then return .inr .kRecvClosed
      else return .inl (← computeRemaningTime startTime timeout) :
        WebSocketM (ℚ ⊕ RecvStatus)) := by
  refine steps.bind (steps.get_bind fun _ => steps.pure _) fun complete => ?_
  -- A complete message ends the loop, a closed link too, and anything else uses up time.
  split
  · exact steps.bind steps.getMessageType_has fun _ => steps.pure _
  · refine steps.bind (steps.get_bind fun _ => steps.pure _) fun connected => ?_
    split
    · exact steps.pure _
    · exact steps.nextRound_has startTime timeout

variable (refuses : RefusalsHave has) (handles : has (handleOneMessage side))

include refuses handles

/-- A round without time left ends before it waits, and any other handles a frame at most. -/
theorem tryRecvRound_has (startTime timeout remainingTime : ℚ) :
    has (tryRecvRound side startTime timeout remainingTime) := by
  -- A message is handled only if data has come within the time that remains.
  have handled : has (waitAndHandleOneMessage side remainingTime) := by
    refine steps.bind (steps.waitForData_has refuses _) fun ready => ?_
    split
    · exact steps.bind handles fun _ => steps.pure _
    · exact steps.pure _
  unfold tryRecvRound
  split
  · refine steps.bind handled fun found => ?_
    split
    · exact steps.endOfRound_has startTime timeout
    · exact steps.nextRound_has startTime timeout
  · exact steps.pure _

/-- To receive is made of its rounds. -/
theorem tryRecv_has (timeout : ℚ) : has (tryRecv side timeout) := by
  refine steps.bind steps.time fun startTime => ?_
  exact steps.iterate (fun remainingTime => steps.tryRecvRound_has refuses handles _ _ remainingTime) timeout

end Receiving

section Passing

variable (passes : ∀ call, has (onSocket (Socket.send call)))

include passes

/-- To send the output buffer is made of the parts. -/
theorem sendOutputBuffer_has : has (sendOutputBuffer side) :=
  steps.get_bind fun _ => steps.socketSend_has (passes _)

/-- Where anything may be passed, any message may be sent. -/
theorem send_any (message : Bytes) (type : MessageType) : has (send side message type) := by
  refine steps.send_has ?_ ?_ fun bytes => passes _
  · refine steps.bind (steps.makeMessage_has type.opcode message) fun output => ?_
    refine steps.bind (steps.aside fun _ => ⟨rfl, rfl, rfl⟩) fun _ => ?_
    exact steps.bind (steps.buffering true) fun _ => steps.sendOutputBuffer_has passes
  · refine steps.bind (steps.outputAppendHeader_has [] type.opcode message) fun output => ?_
    refine steps.bind (steps.aside fun _ => ⟨rfl, rfl, rfl⟩) fun _ => ?_
    exact steps.sendOutputBuffer_has passes

/-- To send a Close frame is made of the parts. -/
theorem sendCloseMessage_has (code : CloseCode) : has (sendCloseMessage side code) :=
  steps.bind (steps.makeMessage_has _ _) fun _ => steps.socketSend_has (passes _)

/-- To handle a control frame is made of what answers it. -/
theorem handleControlMessage_has : has (handleControlMessage side) := by
  have answers : has (answerCloseHandshake side) := by
    refine steps.bind (steps.aside fun _ => ⟨rfl, rfl, rfl⟩) fun _ => ?_
    refine steps.get_bind fun ws => ?_
    exact steps.bind (steps.sendCloseMessage_has passes _) fun _ => steps.closes
  -- A pong is made of the payload of the ping.
  have pongs : has (sendPong side) := by
    refine steps.get_bind fun ws => ?_
    refine steps.bind (steps.makeMessage_has .kPongOpcode ws.inputPayloadBuffer) fun message => ?_
    exact steps.bind (steps.socketSend_has (passes _)) fun _ => steps.pure _
  -- The opcode decides between the three handlers, and any other opcode is left alone.
  refine steps.get_bind fun ws => ?_
  dsimp only
  split
  · exact answers
  · split
    · exact pongs
    · split
      · exact steps.pure _
      · exact steps.pure _

/-- Where anything may be passed and written, any frame may be handled. -/
theorem handleOneMessage_has (refuses : RefusalsHave has) (writes : WritesHave has) :
    has (handleOneMessage side) := by
  refine steps.bind (steps.readMessage_has refuses writes) fun _ => steps.get_bind fun ws => ?_
  dsimp only
  split
  · exact steps.handleControlMessage_has passes
  · split
    · exact steps.handleDataPayload_has refuses writes
    · exact refuses _ _ (.inl rfl)

end Passing

end StepsHave

end Rcom
