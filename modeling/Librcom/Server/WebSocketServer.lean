import Librcom.Effects.Conduct
import Librcom.WebSocket.Constants

/-! The server of WebSockets: its links, and what it does with them when it handles events. -/

namespace Rcom

open Effects

/-- The classes a server is built on, for links of type `L` in a world of type `W`. -/
structure Platform (L W : Type) where
  /-- `IServerSocket::accept`, where a negative number is no descriptor. -/
  accept : Program W Fault Int
  closeServerSocket : Program W Fault Unit
  /-- The destructor of the server socket. -/
  destroyServerSocket : Program W Fault Unit
  /-- `ISocketFactory::new_server_side_websocket`, which makes a link and shakes hands on it. -/
  newServerSideWebSocket : Int → Program W Fault L
  isConnected : L → Bool
  recv : Bytes → Program (L × W) Fault (RecvStatus × Bytes)
  send : Bytes → MessageType → Program (L × W) Fault Bool
  close : CloseCode → Program (L × W) Fault Unit
  /-- The destructor of a link. -/
  destroy : Program (L × W) Fault Unit

/-- A link in the table of a server, which is known by its address. -/
structure Connection (L : Type) where
  address : Nat
  ws : L

/-- What a listener does with a message, one call after the other. -/
inductive Reaction (τ : Type) where
  /-- `server.broadcast`, to every link but the one at the given address. -/
  | broadcast (message : Bytes) (type : MessageType) (exclude : Option Nat) (next : Reaction τ)
  /-- `link.send`, and what follows from its answer. -/
  | send (message : Bytes) (type : MessageType) (next : Bool → Reaction τ)
  /-- `link.close`. -/
  | close (code : CloseCode) (next : Reaction τ)
  /-- The listener returns, and leaves its own state and the buffer of the server. -/
  | done (listener : τ) (message : Bytes)

/-- The reaction acts only on links whose addresses are allowed. -/
def Reaction.Confined {τ : Type} (may : Nat → Prop) (self : Nat) : Reaction τ → Prop
  | .broadcast _ _ exclude next =>
    (∀ address, exclude ≠ some address → may address) ∧ next.Confined may self
  | .send _ _ next => may self ∧ ∀ sent, (next sent).Confined may self
  | .close _ next => may self ∧ next.Confined may self
  | .done _ _ => True

/-- A listener may act on every link. -/
theorem Reaction.confined_true {τ : Type} (self : Nat) (reaction : Reaction τ) :
    reaction.Confined (fun _ => True) self := by
  induction reaction with
  | broadcast message type exclude next ih => exact ⟨fun _ _ => trivial, ih⟩
  | send message type next ih => exact ⟨trivial, ih⟩
  | close code next ih => exact ⟨trivial, ih⟩
  | done listener message => trivial

/-- `IMessageListener::onmessage`: a reaction to a message that came over the link at an address. -/
abbrev Listener (τ : Type) := τ → Nat → Bytes → MessageType → Reaction τ

/-- Whatever message comes, the listener acts only on links whose addresses are allowed. -/
def Listener.Confined {τ : Type} (listener : Listener τ) (may : Nat → Prop) : Prop :=
  ∀ state address message type, (listener state address message type).Confined may address

/-- A listener that may act on every link is confined by nothing. -/
theorem Listener.confined_true {τ : Type} (listener : Listener τ) :
    listener.Confined fun _ => True :=
  fun _ address _ _ => Reaction.confined_true address _

/-- What is seen of a server while it handles events. -/
inductive Entry where
  /-- A descriptor was accepted, and gave the link at an address unless its handshake failed. -/
  | accepted (sockfd : Int) (link : Option Nat)
  /-- It is the turn of a link, which is connected or not. -/
  | turn (link : Nat) (connected : Bool)
  /-- `recv` was called on a link. -/
  | received (link : Nat) (status : RecvStatus) (message : Bytes)
  /-- `onmessage` was called for a link. -/
  | heard (link : Nat) (message : Bytes) (type : MessageType)
  deriving DecidableEq, Repr

/-- The members of a server, with its surroundings and what was seen of it. -/
structure WebSocketServer (L W τ : Type) where
  links : List (Connection L)
  /-- The buffer that all links receive into. -/
  message : Bytes
  listener : τ
  world : W
  /-- The address that the next link gets. -/
  nextAddress : Nat
  log : List Entry

/-- A server that was just made. -/
def WebSocketServer.create {L W τ : Type} (listener : τ) (world : W) : WebSocketServer L W τ where
  links := []
  message := []
  listener := listener
  world := world
  nextAddress := 0
  log := []

/-- A method of a server. -/
abbrev WebSocketServerM (L W τ : Type) := Program (WebSocketServer L W τ) Fault

namespace WebSocketServer

section Parts

variable {L W τ α : Type}

def onWorld (call : Program W Fault α) : WebSocketServerM L W τ α :=
  call.within WebSocketServer.world fun world server => { server with world := world }

/-- Call a method of the link at an index. -/
def onLink (index : Nat) (link : Connection L) (call : Program (L × W) Fault α) :
    WebSocketServerM L W τ α :=
  -- The link is looked up before the call, and put back at its index after it.
  call.within (fun server => (link.ws, server.world)) fun result server =>
    { server with
      links := server.links.set index { link with ws := result.1 }
      world := result.2 }

def record (entry : Entry) : WebSocketServerM L W τ Unit :=
  Program.update fun server => { server with log := server.log ++ [entry] }

end Parts

variable {L W τ : Type} (platform : Platform L W)

/-- Make a link of a descriptor and put it behind the others. -/
def append (sockfd : Int) : WebSocketServerM L W τ Unit := do
  -- The link is put into the table only if its handshake succeeded.
  let ws ← onWorld (platform.newServerSideWebSocket sockfd)
  Program.update fun server =>
    { server with
      links := server.links ++ [{ address := server.nextAddress, ws := ws }]
      nextAddress := server.nextAddress + 1
      log := server.log ++ [.accepted sockfd (some server.nextAddress)] }

def handleNewConnection (sockfd : Int) : WebSocketServerM L W τ Unit := append platform sockfd

/-- A runtime error is logged, and any other exception goes on. -/
def tryNewConnection (sockfd : Int) : WebSocketServerM L W τ Unit :=
  (handleNewConnection platform sockfd).attempt fun
    | .runtimeError _ => record (.accepted sockfd none)
    | .recvError what code => Program.raise (.recvError what code)

def handleNewConnectionsRound (_ : Unit) : WebSocketServerM L W τ (Unit ⊕ Unit) := do
  let sockfd ← onWorld platform.accept
  -- The server socket gives a negative number when no connection is waiting.
  if sockfd ≥ 0 then
    tryNewConnection platform sockfd
    return .inl ()
  else return .inr ()

/-- Accept connections until there are no more. -/
def handleNewConnections : WebSocketServerM L W τ Unit :=
  Program.iterate (handleNewConnectionsRound platform) ()

/-- Send over the link at an index, unless it is disconnected. -/
def send (index : Nat) (message : Bytes) (type : MessageType) : WebSocketServerM L W τ Bool := do
  match (← Program.get).links[index]? with
  | some link =>
    -- The caller of `send` learns of a failure, and a disconnected link is none.
    if platform.isConnected link.ws then onLink index link (platform.send message type)
    else return true
  | none => return true

def close (index : Nat) (code : CloseCode) : WebSocketServerM L W τ Unit := do
  match (← Program.get).links[index]? with
  | some link => onLink index link (platform.close code)
  | none => return ()

def broadcastRound (message : Bytes) (type : MessageType) (exclude : Option Nat) (index : Nat) :
    WebSocketServerM L W τ (Nat ⊕ Unit) := do
  match (← Program.get).links[index]? with
  | none => return .inr ()
  | some link =>
    -- The link to exclude is known by its address.
    if exclude ≠ some link.address then
      if ← send platform index message type then return .inl (index + 1)
      -- A link that does not take the message is closed, and stays in the table until the sweep.
      else
        close platform index kCloseInternalError
        return .inl (index + 1)
    else return .inl (index + 1)

/-- Send a message over every link but one, and close those that do not take it. -/
def broadcast (message : Bytes) (type : MessageType) (exclude : Option Nat) :
    WebSocketServerM L W τ Unit :=
  Program.iterate (broadcastRound platform message type exclude) 0

/-- The listener calls `send` of the link that its message came over. -/
def reply (index : Nat) (message : Bytes) (type : MessageType) : WebSocketServerM L W τ Bool := do
  match (← Program.get).links[index]? with
  | some link => onLink index link (platform.send message type)
  | none => return true

/-- Carry out the reaction to a message that came over the link at an index. -/
def react (index : Nat) : Reaction τ → WebSocketServerM L W τ Unit
  | .broadcast message type exclude next => do
    broadcast platform message type exclude
    react index next
  | .send message type next => do
    let sent ← reply platform index message type
    react index (next sent)
  | .close code next => do
    close platform index code
    react index next
  | .done listener message =>
    Program.update fun server => { server with listener := listener, message := message }

variable (listener : Listener τ)

/-- Call the listener with the message in the buffer. -/
def onmessage (index address : Nat) (type : MessageType) : WebSocketServerM L W τ Unit := do
  let server ← Program.get
  -- The message is that of the buffer when the listener is called.
  record (.heard address server.message type)
  react platform index (listener server.listener address server.message type)

/-- What is done with the answer of `recv` on the link at an index. -/
def handleRecvStatus (index address : Nat) : RecvStatus → WebSocketServerM L W τ Unit
  | .kRecvText => onmessage platform listener index address .kTextMessage
  | .kRecvBinary => onmessage platform listener index address .kBinaryMessage
  -- The link has answered an error itself, and is closed once more.
  | .kRecvError => close platform index kCloseInternalError
  | .kRecvClosed => return ()
  | .kRecvTimeOut => return ()

/-- Receive from the link at an index. -/
def handleNewMessagesAt (index : Nat) (link : Connection L) : WebSocketServerM L W τ Unit := do
  let message := (← Program.get).message
  -- The buffer is shared by the links, and the link receives into it.
  let (status, message) ← onLink index link (platform.recv message)
  Program.update fun server => { server with message := message }
  record (.received link.address status message)
  handleRecvStatus platform listener index link.address status

def handleNewMessagesRound (index : Nat) : WebSocketServerM L W τ (Nat ⊕ Unit) := do
  match (← Program.get).links[index]? with
  | none => return .inr ()
  | some link =>
    -- What was disconnected before its turn is not received from.
    record (.turn link.address (platform.isConnected link.ws))
    if platform.isConnected link.ws then
      handleNewMessagesAt platform listener index link
      return .inl (index + 1)
    else return .inl (index + 1)

/-- Give every link its turn. -/
def handleNewMessages : WebSocketServerM L W τ Unit :=
  Program.iterate (handleNewMessagesRound platform listener) 0

/-- Destroy links, in their order. -/
def destroyLinks : List (Connection L) → WebSocketServerM L W τ Unit
  | [] => return ()
  | link :: rest => do
    let _ ← onWorld (platform.destroy.owning link.ws)
    destroyLinks rest

/-- Keep the connected links, and destroy the others. -/
def removeClosedLinks : WebSocketServerM L W τ Unit := do
  -- The links are moved in their order, the connected ones to the table that is kept.
  let links := (← Program.get).links
  Program.update fun server =>
    { server with links := links.filter fun link => platform.isConnected link.ws }
  destroyLinks platform (links.filter fun link => !platform.isConnected link.ws)

def handleEvents : WebSocketServerM L W τ Unit := do
  handleNewConnections platform
  handleNewMessages platform listener
  removeClosedLinks platform

/-- Handle events several times. -/
def handleEventsTimes : Nat → WebSocketServerM L W τ Unit
  | 0 => return ()
  | calls + 1 => do
    handleEventsTimes calls
    handleEvents platform listener

def closeConnectedRound (index : Nat) : WebSocketServerM L W τ (Nat ⊕ Unit) := do
  match (← Program.get).links[index]? with
  | none => return .inr ()
  | some link =>
    if platform.isConnected link.ws then
      close platform index kCloseGoingAway
      return .inl (index + 1)
    else return .inl (index + 1)

/-- The destructor, which goes on to destroy the links and the server socket. -/
def destroy : WebSocketServerM L W τ Unit := do
  onWorld platform.closeServerSocket
  -- The links are told that the server goes away.
  Program.iterate (closeConnectedRound platform) 0
  let links := (← Program.get).links
  Program.update fun server => { server with links := [] }
  destroyLinks platform links
  onWorld platform.destroyServerSocket

end WebSocketServer

end Rcom
