import Librcom.Server.WebSocketServer

/-! The hub of a topic, which is the server of its links, and what an application calls on it. -/

namespace Rcom

open Effects

/-- A call of the application on its hub. -/
inductive HubCall where
  | handleEvents
  | broadcast (message : Bytes) (type : MessageType) (exclude : Option Nat)

namespace MessageHub

variable {L W τ : Type} (platform : Platform L W) (listener : Listener τ)

/-- The messages of the links go to the listener of the hub. -/
def handleEvents : WebSocketServerM L W τ Unit := WebSocketServer.handleEvents platform listener

def broadcast (message : Bytes) (type : MessageType) (exclude : Option Nat) :
    WebSocketServerM L W τ Unit :=
  WebSocketServer.broadcast platform message type exclude

def countLinks : WebSocketServerM L W τ Nat := do
  let server ← Program.get
  -- Links that have been closed count until the next sweep removes them.
  return server.links.length

/-- Make one call of the application. -/
def perform : HubCall → WebSocketServerM L W τ Unit
  | .handleEvents => handleEvents platform listener
  | .broadcast message type exclude => broadcast platform message type exclude

/-- Make calls one after the other. -/
def performAll : List HubCall → WebSocketServerM L W τ Unit
  | [] => return ()
  | call :: calls => do
    perform platform listener call
    performAll calls

end MessageHub

end Rcom
