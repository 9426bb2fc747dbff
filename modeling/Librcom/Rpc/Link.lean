import Librcom.Effects.Rules
import Librcom.WebSocket.Constants
import Mathlib.Data.Stream.Init

/-! The message link of a client: a server at its other end, and replies on their way back. -/

namespace Rcom

open Effects

/-- A message and its type. -/
abbrev LinkMessage := Bytes × MessageType

/-- How a receive call can end without a message. -/
inductive Miss where
  | closed
  | timeOut
  | error
  deriving DecidableEq

/-- The status that such a call returns. -/
def Miss.status : Miss → RecvStatus
  | closed => .kRecvClosed
  | timeOut => .kRecvTimeOut
  | error => .kRecvError

/-- What a receive call meets. -/
inductive Arrival where
  /-- The next reply has arrived. -/
  | arrived
  /-- No reply has arrived, and the bytes are left in the buffer of the caller. -/
  | missed (miss : Miss) (leftover : Bytes)
  /-- An exception leaves the call. -/
  | threw (what leftover : Bytes)

/-- A link to a server with a state of its own, by the outcomes of the calls to come. -/
structure Link (τ : Type) where
  server : τ
  /-- The replies that were sent and not received yet, in order. -/
  pending : List LinkMessage
  /-- The results of sending, which may be an exception. -/
  sends : Stream' (Except Bytes Bool)
  arrivals : Stream' Arrival
  recvStatus : RecvStatus

/-- What a server makes of a message: its replies, and the state it is left in. -/
abbrev Server (τ : Type) := τ → LinkMessage → List LinkMessage × τ

namespace Link

variable {τ : Type}

/-- Pass a message on to the server, whose replies are on their way then. -/
def send (serve : Server τ) (message : Bytes) (type : MessageType) :
    Program (Link τ) Bytes Bool := do
  let link ← Program.get
  Program.update fun link => { link with sends := link.sends.tail }
  match link.sends.head with
  | .error what => Program.raise what
  | .ok false => return false
  -- What is passed on is served at once; only the replies may be late.
  | .ok true => do
    Program.update fun link =>
      let (replies, server) := serve link.server (message, type)
      { link with server := server, pending := link.pending ++ replies }
    return true

/-- The status that a message of a type is received with. -/
def statusOf : MessageType → RecvStatus
  | .kTextMessage => .kRecvText
  | .kBinaryMessage => .kRecvBinary

/--
Receive a message, and give the contents that the buffer of the caller is left with.

The result is an exception, or whether a message was obtained.
-/
def recv : Program (Link τ) Bytes (Bytes × Except Bytes Bool) := do
  let link ← Program.get
  Program.update fun link => { link with arrivals := link.arrivals.tail }
  match link.arrivals.head, link.pending with
  | .arrived, (message, type) :: rest => do
    Program.update fun link => { link with pending := rest, recvStatus := statusOf type }
    return (message, .ok true)
  -- Nothing can arrive when nothing was sent.
  | .arrived, [] => do
    Program.update fun link => { link with recvStatus := .kRecvTimeOut }
    return ([], .ok false)
  | .missed miss leftover, _ => do
    Program.update fun link => { link with recvStatus := miss.status }
    return (leftover, .ok false)
  | .threw what leftover, _ => return (leftover, .error what)

end Link

end Rcom
