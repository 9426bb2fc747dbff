import Librcom.Bytes.Endian

/-! The constants, statuses, and header fields of the WebSocket protocol. -/

namespace Rcom

/-- The contents of a buffer, a message, or a stretch of the wire. -/
abbrev Bytes := List UInt8

/-- The four bytes that mask a payload. -/
abbrev Mask := Vector UInt8 4

/-- The operations a frame can carry. -/
inductive Opcode where
  | kContinutationOpcode
  | kTextOpcode
  | kBinaryOpcode
  | kCloseOpcode
  | kPingOpcode
  | kPongOpcode
  deriving DecidableEq, Repr

/-- The number an opcode is written as. -/
def Opcode.code : Opcode → UInt8
  | kContinutationOpcode => 0
  | kTextOpcode => 1
  | kBinaryOpcode => 2
  | kCloseOpcode => 8
  | kPingOpcode => 9
  | kPongOpcode => 10

/-- A close code, where a peer may send any sixteen-bit value. -/
abbrev CloseCode := UInt16

def kCloseNormal : CloseCode := 1000
def kCloseGoingAway : CloseCode := 1001
def kCloseProtocolError : CloseCode := 1002
def kCloseUnhandledData : CloseCode := 1003
def kCloseMissingCode : CloseCode := 1005
def kCloseUnexpected : CloseCode := 1006
def kCloseInvalidData : CloseCode := 1007
def kClosePolicyViolation : CloseCode := 1008
def kCloseTooBig : CloseCode := 1009
def kCloseMissingExtensions : CloseCode := 1010
def kCloseInternalError : CloseCode := 1011

/-- The two kinds of message an application sends. -/
inductive MessageType where
  | kTextMessage
  | kBinaryMessage
  deriving DecidableEq, Repr

/-- The answer of a receive call. -/
inductive RecvStatus where
  | kRecvError
  | kRecvClosed
  | kRecvTimeOut
  | kRecvText
  | kRecvBinary
  deriving DecidableEq, Repr

/-- The answer of waiting for data on a socket. -/
inductive WaitStatus where
  | kWaitOK
  | kWaitTimeout
  | kWaitError
  deriving DecidableEq, Repr

/-- The two fixed bytes of a frame, taken apart. -/
structure FrameHeader where
  fin : Bool
  opcode : UInt8
  mask : Bool
  length : UInt8
  deriving DecidableEq, Repr

/-- Which end of a connection a socket is. -/
inductive Side where
  | client
  | server
  deriving DecidableEq, Repr

/-- The other end of the connection. -/
def Side.opposite : Side → Side
  | client => server
  | server => client

/-- The exceptions thrown while receiving and closing. -/
inductive Fault where
  /-- Reception cannot go on, and the link is to be closed with this code. -/
  | recvError (what : String) (code : CloseCode)
  /-- Any other exception, which no receive call catches. -/
  | runtimeError (what : String)
  deriving DecidableEq, Repr

def kMaximumPayloadLength : Nat := 128 * 1024 * 1024
def kMaximumMessageLength : Nat := 128 * 1024 * 1024
def kShortMessageLength : Nat := 128 * 1024
def kPayloadBufferLength : Nat := 1024

namespace Frames

def dataLength126 : Nat := 126
def dataLength65536 : Nat := 65536
def frameTypeServer126 : UInt8 := 126
def frameTypeServer127 : UInt8 := 127
def frameTypeClient254 : UInt8 := 254
def frameTypeClient255 : UInt8 := 255

end Frames

/-- Host to network order of sixteen bits, on a little-endian host. -/
def htons (value : Nat) : Nat := Endian.byteSwap 2 value

/-- Network to host order of sixteen bits, on a little-endian host. -/
def ntohs (value : Nat) : Nat := Endian.byteSwap 2 value

/-- Host to network order of sixty-four bits, on a little-endian host. -/
def htonll (value : Nat) : Nat := Endian.byteSwap 8 value

/-- Network to host order of sixty-four bits, on a little-endian host. -/
def ntohll (value : Nat) : Nat := Endian.byteSwap 8 value

end Rcom
