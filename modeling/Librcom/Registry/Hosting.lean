import Librcom.Effects.History
import Librcom.Registry.Atomicity
import Librcom.Registry.ProxyLaws
import Librcom.Server.Answering

/-! The registry server behind a WebSocket server: requests of any number of clients over real WebSockets. -/

namespace Rcom

open Effects
open History (Change Holds since)
open Json (ascii Codec)
open RegistryServer RegistryProxy

/-- What an effect changes in a map of topics. -/
def Effect.change : Effect → Option (Change Bytes Address)
  | mapped topic address => some (.put topic address)
  | removed topic => some (.drop topic)
  | lookedUp _ => none
  | failed _ => none

/-- The reply to a message that comes after some changes of a map of topics, by what is made of the message. -/
def Effect.Replies (map : Bytes → Option Address) (changes : List (Change Bytes Address)) (reply : Bytes) :
    Effect → Prop
  | mapped _ _ => reply = successReply
  | removed _ => reply = successReply
  | lookedUp topic =>
    (∃ address, Holds map changes topic address ∧ reply = addressReply topic address) ∨
      (∀ address, ¬ Holds map changes topic address) ∧ reply = successReply
  | failed what => reply = failReply what

/-- The registry server as a handler of messages, of which it does not read the type. -/
def RegistryServer.handler (host : Host) (codec : Codec) : Handler Registry := fun registry message =>
  let serving := RegistryServer.handle host codec registry message.2
  (serving.sent.map Prod.swap, serving.registry)

section Hosting

variable {host : Host} {ip : UInt32} {registry : Registry}

/-- What a registry answers is the reply that its map of topics gives. -/
theorem Effect.Answers.replies {map : Bytes → Option Address} {changes : List (Change Bytes Address)}
    {effect : Effect} {reply : Bytes} (answers : effect.Answers registry reply)
    (held : registry.get = since map changes) : effect.Replies map changes reply := by
  cases effect with
  | mapped topic address => exact answers
  | removed topic => exact answers
  | failed what => exact answers
  | lookedUp topic =>
    simp only [Effect.Answers, held] at answers
    cases found : since map changes topic with
    | some address =>
      simp only [found] at answers
      exact .inl ⟨address, History.since_eq_some.mp found, answers⟩
    | none =>
      simp only [found] at answers
      refine .inr ⟨fun address holds => ?_, answers⟩
      -- A topic with an address would have been found.
      rw [History.since_eq_some.mpr holds] at found
      cases found

end Hosting

namespace WebSocketServer

/-- A client that has sent one message. -/
def sender (request : Bytes) : WebSocket :=
  (Rcom.send .client request .kTextMessage).after 9 (.steady [])

end WebSocketServer

end Rcom
