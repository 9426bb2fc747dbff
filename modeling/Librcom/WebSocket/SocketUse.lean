import Librcom.Effects.Conduct
import Librcom.WebSocket.ReadInversion
import Librcom.WebSocket.Steps

/-! A server-side WebSocket works on its socket by the calls of the socket's interface alone. -/

namespace Rcom

open Effects
open Relation (ReflTransGen)

/-- A call of the interface of a socket. -/
inductive SocketUse where
  | wait (timeout : ℚ)
  | read (length : Nat)
  | send (call : SocketCall)
  | close
  /-- Turn buffering off or on. -/
  | nodelay (value : Bool)

/-- What a call does to a socket. -/
def SocketUse.apply : SocketUse → Socket → Socket
  | .wait timeout, socket => (socket.wait timeout).2
  | .read length, socket => (socket.read length).2
  | .send call, socket => (socket.send call).2
  | .close, socket => socket.close
  | .nodelay value, socket => { socket with nodelay := value }

/-- A step that leaves the socket or makes one call on it. -/
def SocketStep (ws ws' : WebSocket) : Prop :=
  ws'.socket = ws.socket ∨ ∃ use : SocketUse, ws'.socket = use.apply ws.socket

/-- The method works on its socket by calls alone, and throws only the given exceptions. -/
abbrev Works {α : Type} (method : WebSocketM α) (may : Fault → Prop) : Prop :=
  method.Walks SocketStep may

/-- Steps of a WebSocket are calls on its socket. -/
theorem exists_uses {ws ws' : WebSocket} (path : ReflTransGen SocketStep ws ws') :
    ∃ uses : List SocketUse, ws'.socket = uses.foldl (fun socket use => use.apply socket) ws.socket := by
  induction path with
  | refl => exact ⟨[], rfl⟩
  | tail _ last ih =>
    obtain ⟨uses, before⟩ := ih
    rcases last with same | ⟨use, called⟩
    · exact ⟨uses, same.trans before⟩
    · exact ⟨uses ++ [use], by rw [called, before, List.foldl_append, List.foldl_cons, List.foldl_nil]⟩

section Parts

variable {may : Fault → Prop}

/-- A change of the other members leaves the socket. -/
theorem update_works {f : WebSocket → WebSocket} (same : ∀ ws, (f ws).socket = ws.socket) :
    Works (Program.update f) may :=
  Program.walks_update fun ws => .inl (same ws)

/-- To read the clock does nothing with the socket. -/
theorem rcomTime_works : Works rcomTime may := by
  have ticks : Linux.rcomTime.Walks (fun _ _ => True) may := Program.walks_act fun _ => trivial
  show (Linux.rcomTime.within WebSocket.linux fun linux ws => { ws with linux := linux }).Walks _ _
  exact ticks.within fun ws linux _ => .single (.inl rfl)

/-- On a server, all that a method does is a call on the socket, or leaves it. -/
theorem works_steps : StepsHave .server fun {_} method => Works method may where
  toCompositional := Program.walks_compositional
  aside := fun aside => update_works fun ws => (aside ws).socket
  time := rcomTime_works
  waits := fun timeout => Program.walks_act fun _ => .inr ⟨.wait timeout, rfl⟩
  asks := fun length => Program.walks_act fun _ => .inr ⟨.read length, rfl⟩
  buffering := fun nodelay => Program.walks_update fun _ => .inr ⟨.nodelay nodelay, rfl⟩
  closes := Program.walks_update fun _ => .inr ⟨.close, rfl⟩

/-- To pass bytes to the socket is one use of it. -/
theorem passes_works (call : SocketCall) : Works (onSocket (Socket.send call)) may :=
  Program.walks_act fun _ => .inr ⟨.send call, rfl⟩

/-- To send uses the socket only as it may be used. -/
theorem socketSend_works (call : SocketCall) : Works (socketSend .server call) may :=
  works_steps.socketSend_has (passes_works call)

/-- Sending throws nothing. -/
theorem send_works (message : Bytes) (type : MessageType) : Works (send .server message type) may :=
  works_steps.send_any passes_works message type

end Parts

section Receiving

/-- So does everything that is done to refuse a frame. -/
theorem refusals_work : RefusalsHave fun {_} method => Works method Fault.IsRecvError :=
  fun _ _ _ => Program.walks_raise trivial

/-- So does everything that is written. -/
theorem writes_work : WritesHave fun {_} method => Works method Fault.IsRecvError :=
  fun same => update_works same

/-- Closing answers for every exception of its handshake. -/
theorem closeWithHandshake_works (code : CloseCode) {may : Fault → Prop} :
    Works (closeWithHandshake .server code) may := by
  have reads : Works (readMessage .server) Fault.IsRecvError :=
    works_steps.readMessage_has refusals_work writes_work
  have tries := works_steps.tryCloseWithHandshake_has reads
    (works_steps.sendCloseMessage_has passes_works code)
  exact Program.Walks.attempt tries fun _ _ => works_steps.closes

/-- Receiving answers for every exception, so that it throws nothing. -/
theorem recv_works (message : Bytes) (timeout : ℚ) {may : Fault → Prop} :
    Works (recv .server message timeout) may := by
  have handles : Works (handleOneMessage .server) Fault.IsRecvError :=
    works_steps.handleOneMessage_has passes_works refusals_work writes_work
  have tries : Works (do
      Program.update fun ws => { ws with message := [] }
      tryRecv .server timeout) Fault.IsRecvError :=
    Program.Walks.bind (update_works fun _ => rfl) fun _ =>
      works_steps.tryRecv_has refusals_work handles timeout
  refine Program.Walks.bind (update_works fun _ => rfl) fun _ => ?_
  refine Program.Walks.bind ?_ fun status => Program.walks_get.bind fun _ => Program.walks_pure _
  refine Program.Walks.attempt tries ?_
  intro e closes
  cases e with
  | recvError what code =>
    -- The link is closed for the peer, and the call returns its status.
    exact (closeWithHandshake_works code).bind fun _ => Program.walks_pure _
  | runtimeError what => exact closes.elim

end Receiving

end Rcom
