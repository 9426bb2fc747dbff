import Librcom.WebSocket.Constants
import Mathlib.Data.Stream.Init
import Mathlib.Data.Rat.Defs

/-! The connected socket a WebSocket is built on. -/

namespace Rcom

/-- One call that passed bytes to the socket. -/
inductive SocketCall where
  /-- A whole buffer, passed with `send(MemBuffer&)`. -/
  | buffer (bytes : Bytes)
  /-- A block of a long payload, passed with `send(const uint8_t*, size_t)`. -/
  | block (bytes : Bytes)
  deriving DecidableEq, Repr

/-- The bytes a call passed. -/
def SocketCall.bytes : SocketCall → Bytes
  | buffer bytes => bytes
  | block bytes => bytes

/--
A socket with everything its peer and the network still have in store for it.

The streams hold the outcomes of the calls to come, in the order of the calls.
-/
structure Socket where
  connected : Bool
  /-- The bytes the peer sent that were not read yet. -/
  incoming : Bytes
  /-- The calls that passed bytes while the socket was connected, oldest first. -/
  passed : List SocketCall
  nodelay : Bool
  waits : Stream' WaitStatus
  /-- A read either goes through or fails after taking this many bytes. -/
  readFaults : Stream' (Option Nat)
  sends : Stream' Bool
  endpoints : Stream' Bool

namespace Socket

/-- Wait for data. -/
def wait (_timeout : ℚ) (socket : Socket) : WaitStatus × Socket :=
  (socket.waits.head, { socket with waits := socket.waits.tail })

/-- Read exactly the requested number of bytes, or fail. -/
def read (length : Nat) (socket : Socket) : Option Bytes × Socket :=
  let faults := socket.readFaults.tail
  match socket.readFaults.head with
  | some taken =>
    (none, { socket with
      incoming := socket.incoming.drop (min taken length), readFaults := faults })
  | none =>
    if !socket.connected then (none, { socket with readFaults := faults })
    -- The stream ended before the requested number of bytes was read.
    else if socket.incoming.length < length then
      (none, { socket with incoming := [], readFaults := faults })
    else
      (some (socket.incoming.take length),
        { socket with incoming := socket.incoming.drop length, readFaults := faults })

/-- Pass bytes to the socket. A disconnected socket refuses them. -/
def send (call : SocketCall) (socket : Socket) : Bool × Socket :=
  if socket.connected then
    (socket.sends.head,
      { socket with passed := socket.passed ++ [call], sends := socket.sends.tail })
  else (false, socket)

/-- Disconnect. -/
def close (socket : Socket) : Socket := { socket with connected := false }

/-- Ask whether the other end still holds the connection open. -/
def isEndpointConnected (socket : Socket) : Bool × Socket :=
  (socket.endpoints.head, { socket with endpoints := socket.endpoints.tail })

/-- A read takes the bytes in front, or it fails. -/
theorem read_cases (length : Nat) (socket : Socket) :
    (∃ bytes rest, bytes.length = length ∧ socket.connected = true ∧
      socket.incoming = bytes ++ rest ∧
      socket.read length = (some bytes,
        { socket with incoming := rest, readFaults := socket.readFaults.tail })) ∨
    ∃ rest, socket.read length = (none,
      { socket with incoming := rest, readFaults := socket.readFaults.tail }) := by
  unfold read
  cases socket.readFaults.head with
  | some taken => exact .inr ⟨_, rfl⟩
  | none =>
    -- Without a fault the read fails on a closed link or a short stream only.
    by_cases connected : socket.connected = true
    · by_cases short : socket.incoming.length < length
      · exact .inr ⟨[], by simp [connected, short]⟩
      · have size : (socket.incoming.take length).length = length := by
          rw [List.length_take]
          omega
        exact .inl ⟨_, _, size, connected, (List.take_append_drop length _).symm,
          by simp [connected, short]⟩
    · exact .inr ⟨socket.incoming, by simp [connected]⟩

end Socket

/-- A connected socket on which every call goes well. -/
def Socket.reliable (incoming : Bytes) : Socket where
  connected := true
  incoming := incoming
  passed := []
  nodelay := false
  waits := Stream'.const .kWaitOK
  readFaults := Stream'.const none
  sends := Stream'.const true
  endpoints := Stream'.const false

end Rcom
