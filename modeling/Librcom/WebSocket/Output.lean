import Librcom.WebSocket.Endpoint

/-! Sending: frames, data messages, and the Close frame. -/

namespace Rcom

open Effects

/-- The head of a frame, up to and including its payload length. -/
def frameHead (maskFlag type16 type64 : UInt8) (opcode : Opcode) (length : Nat) : Bytes :=
  (0x80 ||| opcode.code) ::
    if length < Frames.dataLength126 then
      [maskFlag ||| UInt8.ofNat (length &&& 0x7f)]
    else if length ≤ Frames.dataLength65536 then
      -- The length is narrowed to sixteen bits before it is written.
      let netshort := htons (length % 2 ^ 16)
      [type16,
        UInt8.ofNat (netshort &&& 0x00ff),
        UInt8.ofNat ((netshort &&& 0xff00) >>> 8)]
    else
      let netlong := htonll length
      [type64,
        UInt8.ofNat (netlong &&& 0x00000000000000ff),
        UInt8.ofNat ((netlong &&& 0x000000000000ff00) >>> 8),
        UInt8.ofNat ((netlong &&& 0x0000000000ff0000) >>> 16),
        UInt8.ofNat ((netlong &&& 0x00000000ff000000) >>> 24),
        UInt8.ofNat ((netlong &&& 0x000000ff00000000) >>> 32),
        UInt8.ofNat ((netlong &&& 0x0000ff0000000000) >>> 40),
        UInt8.ofNat ((netlong &&& 0x00ff000000000000) >>> 48),
        UInt8.ofNat ((netlong &&& 0xff00000000000000) >>> 56)]

namespace ClientSideWebSocket

/-- A client's header ends with a fresh mask. -/
def outputAppendHeader (output : Bytes) (opcode : Opcode) (message : Bytes) :
    WebSocketM Bytes := do
  makeMask
  let ws ← Program.get
  return output ++ (frameHead 0x80 Frames.frameTypeClient254 Frames.frameTypeClient255 opcode
    message.length ++ ws.outputMask.toList)

def maskData (data : Bytes) : WebSocketM Bytes := do
  return applyMask (← Program.get).outputMask data

/-- One round of appending a payload: the next block goes behind the output. -/
def outputAppendPayloadRound (message : Bytes) (round : Bytes × Nat) :
    WebSocketM (Bytes × Nat ⊕ Bytes) := do
  let (output, sent) := round
  if sent < message.length then
    let n := min (message.length - sent) 1024
    let buffer ← maskData ((message.drop sent).take n)
    return .inl (output ++ buffer, sent + n)
  else return .inr output

/-- A client masks the payload block by block. -/
def outputAppendPayload (output message : Bytes) : WebSocketM Bytes :=
  Program.iterate (outputAppendPayloadRound message) (output, 0)

def outputSendPayload (data : Bytes) : WebSocketM Bool := do
  let buffer ← maskData data
  socketSend .client (.block buffer)

end ClientSideWebSocket

namespace ServerSideWebSocket

/-- A server's header has no mask. -/
def outputAppendHeader (output : Bytes) (opcode : Opcode) (message : Bytes) :
    WebSocketM Bytes :=
  return output ++ frameHead 0 Frames.frameTypeServer126 Frames.frameTypeServer127 opcode
    message.length

def outputAppendPayload (output message : Bytes) : WebSocketM Bytes :=
  return output ++ message

def outputSendPayload (data : Bytes) : WebSocketM Bool :=
  socketSend .server (.block data)

end ServerSideWebSocket

/-- The header of a frame, as the side of the socket writes it. -/
def outputAppendHeader : Side → Bytes → Opcode → Bytes → WebSocketM Bytes
  | .client => ClientSideWebSocket.outputAppendHeader
  | .server => ServerSideWebSocket.outputAppendHeader

/-- The payload of a frame, as the side of the socket writes it. -/
def outputAppendPayload : Side → Bytes → Bytes → WebSocketM Bytes
  | .client => ClientSideWebSocket.outputAppendPayload
  | .server => ServerSideWebSocket.outputAppendPayload

/-- One block of a long payload, as the side of the socket sends it. -/
def outputSendPayload : Side → Bytes → WebSocketM Bool
  | .client => ClientSideWebSocket.outputSendPayload
  | .server => ServerSideWebSocket.outputSendPayload

section

variable (side : Side)

/-- A complete frame in one buffer. -/
def makeMessage (opcode : Opcode) (message : Bytes) : WebSocketM Bytes := do
  let output ← outputAppendHeader side [] opcode message
  outputAppendPayload side output message

def sendOutputBuffer : WebSocketM Bool := do
  socketSend side (.buffer (← Program.get).outputMessageBuffer)

/-- The opcode of a data message. -/
def MessageType.opcode : MessageType → Opcode
  | .kTextMessage => .kTextOpcode
  | .kBinaryMessage => .kBinaryOpcode

def sendShortDataMessage (message : Bytes) (type : MessageType) : WebSocketM Bool := do
  let output ← makeMessage side type.opcode message
  Program.update fun ws => { ws with outputMessageBuffer := output }
  turnBufferingOff
  sendOutputBuffer side

def sendLongMessageHeader (opcode : Opcode) (message : Bytes) : WebSocketM Bool := do
  let output ← outputAppendHeader side [] opcode message
  Program.update fun ws => { ws with outputMessageBuffer := output }
  sendOutputBuffer side

/-- One round of sending a long payload: the next block goes to the socket. -/
def sendLongMessagePayloadRound (message : Bytes) (round : Bool × Nat) :
    WebSocketM (Bool × Nat ⊕ Bool) := do
  let (success, sent) := round
  if success && decide (sent < message.length) then
    let n := if sent + kPayloadBufferLength > message.length then message.length - sent
      else kPayloadBufferLength
    let success ← outputSendPayload side ((message.drop sent).take n)
    return .inl (success, sent + n)
  else return .inr success

/-- Send the payload in blocks, until one fails or all are sent. -/
def sendLongMessagePayload (message : Bytes) : WebSocketM Bool :=
  Program.iterate (sendLongMessagePayloadRound side message) (true, 0)

def sendLongDataMessage (message : Bytes) (type : MessageType) : WebSocketM Bool := do
  turnBufferingOn
  if ← sendLongMessageHeader side type.opcode message then sendLongMessagePayload side message
  else return false

/-- Send one data message as one frame. -/
def send (message : Bytes) (type : MessageType) : WebSocketM Bool := do
  if message.length ≥ kMaximumMessageLength then return false
  else if message.length < kShortMessageLength then sendShortDataMessage side message type
  else sendLongDataMessage side message type

/-- Send a Close frame with the given code. -/
def sendCloseMessage (code : CloseCode) : WebSocketM Bool := do
  let netshort := htons code.toNat
  let payload := [UInt8.ofNat (netshort &&& 0x00ff), UInt8.ofNat ((netshort &&& 0xff00) >>> 8)]
  let message ← makeMessage side .kCloseOpcode payload
  socketSend side (.buffer message)

/-- Answer a ping with its own payload. A failed send has already closed the socket. -/
def sendPong : WebSocketM Unit := do
  let message ← makeMessage side .kPongOpcode (← Program.get).inputPayloadBuffer
  let _ ← socketSend side (.buffer message)
  return ()

end

end Rcom
