import Librcom.WebSocket.Output

/-! Receiving: frames, the closing handshake, and data messages. -/

namespace Rcom

open Effects

def inputReadFrameHeader : WebSocketM Unit := do
  let b ← socketRead 2
  -- The reserved bits of the first byte are not kept.
  Program.update fun ws =>
    { ws with
      frameHeader :=
        { fin := (b.getD 0 0 &&& 0x80) != 0
          opcode := b.getD 0 0 &&& 0x0f
          mask := (b.getD 1 0 &&& 0x80) != 0
          length := b.getD 1 0 &&& 0x7f } }

def inputReadUint16 : WebSocketM Nat := do
  let netshort ← socketRead 2
  -- The bytes are read as the machine has them, and then swapped.
  return ntohs (Endian.ofLittleEndian netshort)

def inputReadUint64 : WebSocketM Nat := do
  let netlong ← socketRead 8
  return ntohll (Endian.ofLittleEndian netlong)

def setInputMessageLength (length : Nat) : WebSocketM Unit :=
  Program.update fun ws => { ws with inputMessageLength := length }

def inputReadPayloadLength : WebSocketM Unit := do
  let length := (← Program.get).frameHeader.length
  if length < 126 then setInputMessageLength length.toNat
  else if length = 126 then setInputMessageLength (← inputReadUint16)
  else if length = 127 then setInputMessageLength (← inputReadUint64)
  -- The short length has seven bits, so that the last case is never met.
  else return ()

/-- The four bytes of a mask, as they were read. -/
def maskOfBytes (bytes : Bytes) : Mask := Vector.ofFn fun i => bytes.getD i 0

def inputReadPayloadMask : WebSocketM Unit := do
  let bytes ← socketRead 4
  Program.update fun ws => { ws with inputMask := maskOfBytes bytes }

/-- Only a server expects a mask in the header. -/
def inputReadHeader : Side → WebSocketM Unit
  | .client => do
    inputReadFrameHeader
    inputReadPayloadLength
  | .server => do
    inputReadFrameHeader
    inputReadPayloadLength
    inputReadPayloadMask

def inputAssertMaskFlag : Side → WebSocketM Unit
  | .client => do
    -- A server must not mask what it sends.
    if (← Program.get).frameHeader.mask then
      Program.raise (.recvError "Server sent masked frame" kCloseProtocolError)
    else return ()
  | .server => do
    -- A client must mask what it sends.
    if !(← Program.get).frameHeader.mask then
      Program.raise (.recvError "Client sent unmasked frame" kCloseProtocolError)
    else return ()

def inputAssertOpcode : WebSocketM Unit := do
  let opcode := (← Program.get).frameHeader.opcode
  -- These are all the opcodes; the others are reserved.
  if opcode = Opcode.kContinutationOpcode.code ∨ opcode = Opcode.kTextOpcode.code
      ∨ opcode = Opcode.kBinaryOpcode.code ∨ opcode = Opcode.kCloseOpcode.code
      ∨ opcode = Opcode.kPingOpcode.code ∨ opcode = Opcode.kPongOpcode.code then return ()
  else Program.raise (.recvError "Invalid opcode" kCloseProtocolError)

def inputAssertPayloadLength : WebSocketM Unit := do
  if (← Program.get).inputMessageLength > kMaximumPayloadLength then
    Program.raise (.recvError "Message too large" kCloseTooBig)
  else return ()

def inputAssertValidMessage (side : Side) : WebSocketM Unit := do
  -- The order of the checks decides which exception is thrown.
  inputAssertMaskFlag side
  inputAssertOpcode
  inputAssertPayloadLength

/-- Only a server unmasks what it reads, from the first byte of the mask. -/
def inputAppendPayload : Side → Bytes → WebSocketM Unit
  | .client, data =>
    Program.update fun ws => { ws with inputPayloadBuffer := ws.inputPayloadBuffer ++ data }
  | .server, data =>
    Program.update fun ws =>
      { ws with inputPayloadBuffer := ws.inputPayloadBuffer ++ applyMask ws.inputMask data }

section

variable (side : Side)

/-- One round of reading a payload: the next block goes into the payload buffer. -/
def inputReadPayloadRound (lengthProcessed : Nat) : WebSocketM (Nat ⊕ Unit) := do
  let inputMessageLength := (← Program.get).inputMessageLength
  if lengthProcessed < inputMessageLength then
    -- The last block is what is left of the declared length.
    let lengthToRead := min (inputMessageLength - lengthProcessed) kPayloadBufferLength
    let buffer ← socketRead lengthToRead
    inputAppendPayload side buffer
    return .inl (lengthProcessed + lengthToRead)
  else return .inr ()

def inputReadPayload : WebSocketM Unit := do
  Program.update fun ws => { ws with inputPayloadBuffer := [] }
  Program.iterate (inputReadPayloadRound side) 0

/-- Read and check one frame. -/
def readMessage : WebSocketM Unit := do
  inputReadHeader side
  inputAssertValidMessage side
  inputReadPayload side

/-- One round of waiting for the peer's Close frame. -/
def closingWaitReplyRound (startTime timeout remainingTime : ℚ) : WebSocketM (ℚ ⊕ Unit) := do
  -- Time is looked at before each wait, and not after the last frame.
  if remainingTime ≥ 0 then
    let status ← socketWait (1 / 100)
    if status = .kWaitOK then
      readMessage side
      -- The header that is left is the one of the frame just read.
      if (← Program.get).frameHeader.opcode = Opcode.kCloseOpcode.code then return .inr ()
      else return .inl (← computeRemaningTime startTime timeout)
    else return .inl (← computeRemaningTime startTime timeout)
  else return .inr ()

/-- Wait for the peer's Close frame, and discard every other frame. -/
def closingWaitReply (timeout : ℚ) : WebSocketM Unit := do
  let startTime ← rcomTime
  Program.iterate (closingWaitReplyRound side startTime timeout) timeout

def tryCloseWithHandshake (code : CloseCode) : WebSocketM Unit := do
  -- When the frame cannot be sent, no reply is waited for.
  if ← sendCloseMessage side code then closingWaitReply side 5
  else pure ()
  closeConnection side

def closeWithHandshake (code : CloseCode) : WebSocketM Unit :=
  -- Whatever goes wrong in the closing handshake, the connection is closed.
  (tryCloseWithHandshake side code).attempt fun _ => closeWithoutHandshake side

/-- Close the WebSocket. -/
def close (code : CloseCode) : WebSocketM Unit := closeWithHandshake side code

/-- The number in a two-byte payload, and zero for any other payload. -/
def convertToUint16 (buffer : Bytes) : CloseCode :=
  if buffer.length = 2 then
    UInt16.ofNat ((buffer.getD 0 0).toNat <<< 8 ||| (buffer.getD 1 0).toNat)
  else 0

def getCloseCode : WebSocketM Unit :=
  Program.update fun ws =>
    { ws with
      remoteCloseReason :=
        -- A payload of another length is taken as a close frame without a code.
        if ws.inputPayloadBuffer.length = 2 then convertToUint16 ws.inputPayloadBuffer
        else kCloseMissingCode }

def closingSendReply : WebSocketM Unit := do
  -- The reply carries the code that was received, and its failure is not looked at.
  let _ ← sendCloseMessage side (← Program.get).remoteCloseReason
  closeConnection side

def answerCloseHandshake : WebSocketM Unit := do
  getCloseCode
  closingSendReply side

def hasControlMessage (header : FrameHeader) : Bool :=
  header.opcode == Opcode.kCloseOpcode.code || header.opcode == Opcode.kPingOpcode.code
    || header.opcode == Opcode.kPongOpcode.code

def hasDataMessage (header : FrameHeader) : Bool :=
  header.opcode == Opcode.kTextOpcode.code || header.opcode == Opcode.kBinaryOpcode.code
    || header.opcode == Opcode.kContinutationOpcode.code

def isDataMessageComplete (header : FrameHeader) : Bool :=
  (header.opcode == Opcode.kTextOpcode.code && header.fin)
    || (header.opcode == Opcode.kBinaryOpcode.code && header.fin)
    || (header.opcode == Opcode.kContinutationOpcode.code && header.fin)

def hasCompleteDataMessage : WebSocketM Bool := do
  let header := (← Program.get).frameHeader
  return hasDataMessage header && isDataMessageComplete header

/-- A pong needs no answer. -/
def handlePongResponse : WebSocketM Unit := return ()

def handleControlMessage : WebSocketM Unit := do
  let opcode := (← Program.get).frameHeader.opcode
  if opcode = Opcode.kCloseOpcode.code then answerCloseHandshake side
  else if opcode = Opcode.kPingOpcode.code then sendPong side
  else if opcode = Opcode.kPongOpcode.code then handlePongResponse
  else return ()

def assertContinuation : WebSocketM Unit := do
  let ws ← Program.get
  -- A continuation follows an unfinished message, and any other data frame does not.
  if (ws.frameHeader.opcode = Opcode.kContinutationOpcode.code ∧ ws.isContinuation = true)
      ∨ (ws.frameHeader.opcode ≠ Opcode.kContinutationOpcode.code ∧ ws.isContinuation = false) then
    return ()
  else Program.raise (.recvError "Unexpected continuation" kCloseProtocolError)

def assertMessageLength : WebSocketM Unit := do
  let ws ← Program.get
  let length := ws.inputPayloadBuffer.length
    -- Only a continuation is added to what the message already has.
    + if ws.frameHeader.opcode = Opcode.kContinutationOpcode.code then ws.message.length else 0
  if length > kMaximumMessageLength then
    Program.raise (.recvError "Message too big" kCloseTooBig)
  else return ()

def setPayloadType : WebSocketM Unit :=
  Program.update fun ws =>
    { ws with
      isText :=
        if ws.frameHeader.opcode = Opcode.kTextOpcode.code then true
        else if ws.frameHeader.opcode = Opcode.kBinaryOpcode.code then false
        else ws.isText }

/-- Only the first frame of a message empties the caller's buffer. -/
def copyPayload : WebSocketM Unit :=
  Program.update fun ws =>
    { ws with
      message :=
        (if ws.frameHeader.opcode = Opcode.kTextOpcode.code
            ∨ ws.frameHeader.opcode = Opcode.kBinaryOpcode.code then [] else ws.message)
          ++ ws.inputPayloadBuffer }

def prepareContinuation : WebSocketM Unit :=
  -- A frame that is not the last announces a continuation.
  Program.update fun ws => { ws with isContinuation := !ws.frameHeader.fin }

def handleDataPayload : WebSocketM Unit := do
  -- The checks come before the message is changed.
  assertContinuation
  assertMessageLength
  setPayloadType
  copyPayload
  prepareContinuation

def processMessage : WebSocketM Unit := do
  let header := (← Program.get).frameHeader
  -- The opcode was checked when the frame was read.
  if hasControlMessage header then handleControlMessage side
  else if hasDataMessage header then handleDataPayload
  else Program.raise (.recvError "Invalid opcode" kCloseProtocolError)

def handleOneMessage : WebSocketM Unit := do
  readMessage side
  processMessage side

def waitForData (timeout : ℚ) : WebSocketM Bool := do
  match ← socketWait timeout with
  | .kWaitOK => return true
  | .kWaitTimeout => return false
  -- A wait that fails is an exception, which closes the link.
  | .kWaitError => Program.raise (.recvError "socket_wait failed" kCloseInternalError)

def waitAndHandleOneMessage (timeout : ℚ) : WebSocketM Bool := do
  if ← waitForData timeout then
    handleOneMessage side
    return true
  else return false

def getMessageType : WebSocketM RecvStatus := do
  if (← Program.get).isText then return .kRecvText
  else return .kRecvBinary

/-- One round of receiving: wait for a frame, handle it, and see whether it is the last. -/
def tryRecvRound (startTime timeout remainingTime : ℚ) : WebSocketM (ℚ ⊕ RecvStatus) := do
  if remainingTime ≥ 0 then
    if ← waitAndHandleOneMessage side remainingTime then
      -- Control frames between the fragments leave the message incomplete.
      if ← hasCompleteDataMessage then return .inr (← getMessageType)
      -- The link may have been closed while the frame was handled.
      else if !(← isConnectedNolock) then return .inr .kRecvClosed
      else return .inl (← computeRemaningTime startTime timeout)
    else return .inl (← computeRemaningTime startTime timeout)
  else return .inr .kRecvTimeOut

def tryRecv (timeout : ℚ) : WebSocketM RecvStatus := do
  let startTime ← rcomTime
  Program.iterate (tryRecvRound side startTime timeout) timeout

/-- Receive one message into the caller's buffer, within the timeout. -/
def recv (message : Bytes) (timeout : ℚ) : WebSocketM (RecvStatus × Bytes) := do
  -- The caller's buffer is filled by reference.
  Program.update fun ws => { ws with message := message }
  let status ← (do
    Program.update fun ws => { ws with message := [] }
    tryRecv side timeout : WebSocketM RecvStatus).attempt fun
    -- Only a receive error is answered by closing the link.
    | .recvError _ code => do
      closeWithHandshake side code
      return .kRecvError
    -- Any other exception is left to the caller.
    | .runtimeError what => Program.raise (.runtimeError what)
  return (status, (← Program.get).message)

end

end Rcom
