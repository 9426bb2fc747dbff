import Librcom.System.Linux
import Librcom.WebSocket.Socket

/-! The state of a WebSocket and the primitive steps its methods are made of. -/

namespace Rcom

open Effects

/-- The members of a WebSocket, of its two subclasses, and of the call in progress. -/
structure WebSocket where
  socket : Socket
  linux : Linux
  outputMessageBuffer : Bytes
  inputPayloadBuffer : Bytes
  frameHeader : FrameHeader
  isText : Bool
  isContinuation : Bool
  remoteCloseReason : CloseCode
  inputMessageLength : Nat
  /-- The mask of the frame being sent, on the client side. -/
  outputMask : Mask
  /-- The mask of the frame being received, on the server side. -/
  inputMask : Mask
  /-- The caller's buffer, which `recv` fills by reference. -/
  message : Bytes

/-- A WebSocket as its constructor leaves it. -/
def WebSocket.create (socket : Socket) (linux : Linux) : WebSocket where
  socket := socket
  linux := linux
  outputMessageBuffer := []
  inputPayloadBuffer := []
  -- The header is read before it is looked at, so that its first value does not matter.
  frameHeader := { fin := false, opcode := 0, mask := false, length := 0 }
  isText := false
  isContinuation := false
  remoteCloseReason := kCloseNormal
  inputMessageLength := 0
  outputMask := Vector.replicate 4 0
  inputMask := Vector.replicate 4 0
  message := []

/-- A new WebSocket on a socket where all goes well. -/
def WebSocket.steady (incoming : Bytes) : WebSocket := .create (.reliable incoming) .steady

/-- A new WebSocket on a socket where all goes well while time goes on. -/
def WebSocket.running (incoming : Bytes) : WebSocket := .create (.reliable incoming) .running

/-- A method of a WebSocket. -/
abbrev WebSocketM := Program WebSocket Fault

/-- Call a method of the socket. -/
def onSocket {α : Type} (call : Socket → α × Socket) : WebSocketM α :=
  Program.act fun ws => ((call ws.socket).1, { ws with socket := (call ws.socket).2 })

/-- Call a function of the system. -/
def onLinux {α : Type} (call : LinuxM α) : WebSocketM α :=
  call.within WebSocket.linux fun linux ws => { ws with linux := linux }

/-- The current time. -/
def rcomTime : WebSocketM ℚ := onLinux Linux.rcomTime

/-- Sleep, or throw when the sleep did not succeed. -/
def rcomSleep (seconds : ℚ) : WebSocketM Unit := onLinux (Linux.rcomSleep seconds)

/-- Draw the random bytes of the next mask. -/
def makeMask : WebSocketM Unit :=
  Program.update fun ws =>
    { ws with
      outputMask := ws.linux.random.head
      linux := { ws.linux with random := ws.linux.random.tail } }

def isConnectedNolock : WebSocketM Bool := do
  return (← Program.get).socket.connected

def socketWait (timeout : ℚ) : WebSocketM WaitStatus := onSocket (Socket.wait timeout)

/-- Read bytes, or throw when the read fails. -/
def socketRead (length : Nat) : WebSocketM Bytes := do
  match ← onSocket (Socket.read length) with
  | some buffer => return buffer
  -- A socket that gives too few bytes makes the call fail.
  | none => Program.raise (.recvError "Read failed" kCloseInternalError)

def turnBufferingOff : WebSocketM Unit :=
  Program.update fun ws => { ws with socket := { ws.socket with nodelay := true } }

def turnBufferingOn : WebSocketM Unit :=
  Program.update fun ws => { ws with socket := { ws.socket with nodelay := false } }

/-- The time left of a timeout that began at the given time. -/
def computeRemaningTime (startTime timeout : ℚ) : WebSocketM ℚ := do
  let now ← rcomTime
  return timeout - (now - startTime)

/-- Mask bytes, starting at the given byte of the mask and going round it. -/
def applyMaskFrom (mask : Mask) : Fin 4 → Bytes → Bytes
  | _, [] => []
  -- The mask is used byte by byte, and again from the beginning after four.
  | j, byte :: rest => (byte ^^^ mask[j]) :: applyMaskFrom mask (j + 1) rest

/-- Mask bytes from the first byte of the mask. -/
def applyMask (mask : Mask) (bytes : Bytes) : Bytes := applyMaskFrom mask 0 bytes

/-- One round of waiting for the other end: look at it, and sleep for a while. -/
def waitForEndpointRound (startTime timeout : ℚ) (timedOut : Bool) :
    WebSocketM (Bool ⊕ Unit) := do
  if (← onSocket Socket.isEndpointConnected) && !timedOut then
    let now ← rcomTime
    let timePassed := now - startTime
    -- Time is up, and the loop ends when it is looked at next.
    if timePassed ≥ timeout then return .inl true
    else
      rcomSleep (min (1 / 10) (timeout - timePassed))
      return .inl false
  else return .inr ()

/-- Wait until the server has closed its end, for at most the timeout. -/
def waitForEndpoint (startTime timeout : ℚ) : WebSocketM Unit :=
  Program.iterate (waitForEndpointRound startTime timeout) false

def socketClose : WebSocketM Unit :=
  Program.update fun ws => { ws with socket := ws.socket.close }

/-- Close the socket. A client first gives the server half a second to close its end. -/
def closeConnection : Side → WebSocketM Unit
  | .server => socketClose
  | .client => do
    let startTime ← rcomTime
    waitForEndpoint startTime (1 / 2)
    socketClose

def closeWithoutHandshake (side : Side) : WebSocketM Unit := closeConnection side

/-- Pass bytes to the socket, and close it when that fails. -/
def socketSend (side : Side) (call : SocketCall) : WebSocketM Bool := do
  if ← onSocket (Socket.send call) then return true
  else
    -- A socket that does not take the bytes is of no more use.
    closeWithoutHandshake side
    return false

end Rcom
