import Librcom.Http.Handshake
import Librcom.Server.Turns
import Librcom.WebSocket.SocketUse

/-! A server of real WebSockets, each on a socket of its own. -/

namespace Rcom

open Effects
open Relation (ReflTransGen)

section Handshake

/-- A step of a parser that leaves its socket or makes one call on it. -/
def ParsingStep {ρ : Type} (parsing parsing' : Parsing ρ) : Prop :=
  parsing'.socket = parsing.socket ∨ ∃ use : SocketUse, parsing'.socket = use.apply parsing.socket

/-- A step of a WebSocket that is being opened. -/
def OpeningStep {ρ : Type} (opening opening' : Opening ρ) : Prop := SocketStep opening.ws opening'.ws

/-- Parsing works on the socket by its calls, and fails with a runtime error. -/
theorem parse_works {ρ : Type} (listener : HttpParserListener ρ) :
    (HttpParser.parse listener).Walks ParsingStep Fault.IsRuntimeError := by
  -- An error is noted in the parser and then thrown.
  have fails : ∀ {α : Type} (what : String),
      (HttpParser.error what : ParserM ρ α).Walks ParsingStep Fault.IsRuntimeError := by
    intro α what
    refine Program.Walks.bind (Program.walks_update fun _ => .inl rfl) fun _ => ?_
    exact Program.walks_raise ⟨_, rfl⟩
  have waits : (HttpParser.socketWait HttpParser.parseTimeoutSeconds : ParserM ρ WaitStatus).Walks
      ParsingStep Fault.IsRuntimeError :=
    Program.walks_act fun _ => .inr ⟨.wait HttpParser.parseTimeoutSeconds, rfl⟩
  have reads : (HttpParser.socketRead 1 : ParserM ρ (Option Bytes)).Walks ParsingStep
      Fault.IsRuntimeError :=
    Program.walks_act fun _ => .inr ⟨.read 1, rfl⟩
  -- A character is one read, and one step of the parser.
  have chars : (HttpParser.readChar listener).Walks ParsingStep Fault.IsRuntimeError := by
    refine reads.bind fun answer => ?_
    split
    · refine Program.walks_get.bind fun parsing => ?_
      split
      · exact Program.walks_update fun _ => .inl rfl
      · exact fails _
    · exact fails _
  refine Program.Walks.bind (Program.walks_update fun _ => .inl rfl) fun _ => ?_
  refine Program.Walks.iterate (fun _ => ?_) ()
  refine waits.bind fun status => ?_
  split
  · exact fails _
  · refine chars.bind fun _ => Program.walks_get.bind fun parsing => ?_
    split
    · exact Program.walks_pure _
    · exact Program.walks_pure _

/-- The handshake of a server works on the socket by its calls, and fails with a runtime error. -/
theorem serverHandshake_works (sha1 : Sha1) :
    (ServerSideWebSocket.handshake sha1).Walks OpeningStep Fault.IsRuntimeError := by
  -- A request is parsed as any text is, after the parser was reset.
  have parses : RequestParser.parse.Walks ParsingStep Fault.IsRuntimeError :=
    Program.Walks.bind (Program.walks_update fun _ => .inl rfl) fun _ => parse_works _
  have lifted : (onParser RequestParser.parse).Walks OpeningStep Fault.IsRuntimeError := by
    refine parses.within fun opening parsing path => ?_
    -- Each step of the parser is a step of the WebSocket on whose socket it reads.
    induction path with
    | refl => exact .single (.inl rfl)
    | tail _ last ih => exact ih.tail last
  have sends : ∀ call, (onWebSocket (socketSend .server call) : OpeningM Request Bool).Walks
      OpeningStep Fault.IsRuntimeError := by
    intro call
    have works : Works (socketSend .server call) Fault.IsRuntimeError := socketSend_works call
    refine works.within fun opening ws path => ?_
    induction path with
    | refl => exact .single (.inl rfl)
    | tail _ last ih => exact ih.tail last
  have asserts : ∀ result : Except String Unit,
      (assertWebsocket result : OpeningM Request Unit).Walks OpeningStep Fault.IsRuntimeError := by
    intro result
    refine Program.walks_ofExcept fun e failed => ?_
    cases result with
    | ok _ => cases failed
    | error what =>
      cases failed
      exact ⟨what, rfl⟩
  -- The steps are those of the source: parse, check, and send the response.
  refine lifted.bind fun _ => Program.walks_get.bind fun opening => ?_
  refine (asserts _).bind fun _ => (sends _).bind fun sent => ?_
  split
  · exact Program.walks_pure _
  · exact Program.walks_raise ⟨_, rfl⟩

end Handshake

/-- What the network has in store for a server. -/
structure Surroundings where
  /-- The answers of `accept` to come. -/
  accepts : Stream' Int
  /-- The sockets of the connections to come, and the system as each of them sees it. -/
  connections : Stream' (Socket × Linux)

/-- A network without new connections. -/
def Surroundings.calm : Surroundings where
  accepts := Stream'.const (-1)
  connections := Stream'.const (.reliable [], .running)

/-- A method of a WebSocket, which leaves the network. -/
def onItself {α : Type} (method : WebSocketM α) : Program (WebSocket × Surroundings) Fault α :=
  method.within Prod.fst fun ws s => (ws, s.2)

/-- A WebSocket and its parser before the handshake. -/
def Opening.start (socket : Socket) (linux : Linux) : Opening Request where
  ws := .create socket linux
  parser := .create .create

/-- The constructor of a server-side WebSocket, on the next connection. -/
def newServerSideWebSocket (sha1 : Sha1) : Program Surroundings Fault WebSocket := do
  let (socket, linux) ← Program.act fun network =>
    (network.connections.head, { network with connections := network.connections.tail })
  let (_, opening) ← ((ServerSideWebSocket.handshake sha1).within Prod.fst
    (fun opening (s : Opening Request × Surroundings) => (opening, s.2))).owning (.start socket linux)
  return opening.ws

/-- The classes of the library, under a server that polls each link without waiting. -/
def webSocketPlatform (sha1 : Sha1) : Platform WebSocket Surroundings where
  accept := Program.act fun network =>
    (network.accepts.head, { network with accepts := network.accepts.tail })
  closeServerSocket := return ()
  destroyServerSocket := return ()
  newServerSideWebSocket _ := newServerSideWebSocket sha1
  isConnected ws := ws.socket.connected
  recv message := onItself (Rcom.recv .server message 0)
  send message type := onItself (Rcom.send .server message type)
  close code := onItself (Rcom.close .server code)
  destroy := Program.update fun s => ({ s.1 with socket := s.1.socket.close }, s.2)

/-- The classes of the library throw nothing but the runtime errors of a handshake. -/
theorem webSocketPlatform_quiet (sha1 : Sha1) : (webSocketPlatform sha1).Quiet where
  accept := Program.throwsOnly_act _
  closeServerSocket := Program.throwsOnly_pure ()
  destroyServerSocket := Program.throwsOnly_pure ()
  newServerSideWebSocket _ := by
    refine (Program.throwsOnly_act _).bind ?_
    -- A handshake throws runtime errors only; the link it was for is destroyed with it.
    rintro ⟨socket, linux⟩
    refine Program.ThrowsOnly.bind ?_ fun _ => Program.throwsOnly_pure _
    exact ((serverHandshake_works sha1).throwsOnly.within Prod.fst _).owning _
  recv message := (Program.Walks.throwsOnly (recv_works message 0)).within Prod.fst _
  send message type := (Program.Walks.throwsOnly (send_works message type)).within Prod.fst _
  close code := (Program.Walks.throwsOnly (closeWithHandshake_works code)).within Prod.fst _
  destroy := Program.throwsOnly_update _

/-- A socket that calls of its interface lead to. -/
def Socket.CalledTo (socket socket' : Socket) : Prop :=
  ∃ uses : List SocketUse, socket' = uses.foldl (fun socket use => use.apply socket) socket

/-- Whatever the methods of a server's WebSocket do, to its socket it is a list of calls. -/
theorem serverSide_calledTo (sha1 : Sha1) :
    (∀ message timeout ws, (recv .server message timeout).Ensures ws
      (fun _ ws' => ws.socket.CalledTo ws'.socket) (fun _ _ => False)) ∧
    (∀ message type ws, (send .server message type).Ensures ws
      (fun _ ws' => ws.socket.CalledTo ws'.socket) (fun _ _ => False)) ∧
    (∀ code ws, (close .server code).Ensures ws
      (fun _ ws' => ws.socket.CalledTo ws'.socket) (fun _ _ => False)) ∧
    ∀ opening, (ServerSideWebSocket.handshake sha1).Ensures opening
      (fun _ opening' => opening.ws.socket.CalledTo opening'.ws.socket)
      (fun e opening' => e.IsRuntimeError ∧ opening.ws.socket.CalledTo opening'.ws.socket) := by
  have called : ∀ {α : Type} {method : WebSocketM α} (ws : WebSocket),
      Works method (fun _ => False) →
      method.Ensures ws (fun _ ws' => ws.socket.CalledTo ws'.socket) (fun _ _ => False) :=
    -- A path of steps is a list of calls, since each step is one call or none.
    fun ws works => (works ws).mono (fun _ _ path => exists_uses path) fun _ _ impossible => impossible.1
  refine ⟨fun message timeout ws => called ws (recv_works message timeout),
    fun message type ws => called ws (send_works message type),
    fun code ws => called ws (closeWithHandshake_works code), fun opening => ?_⟩
  have lifted : ∀ {opening' : Opening Request}, ReflTransGen OpeningStep opening opening' →
      opening.ws.socket.CalledTo opening'.ws.socket := fun path =>
    exists_uses (ReflTransGen.lift (fun opening : Opening Request => opening.ws) (fun _ _ step => step) _ _
      path)
  exact (serverHandshake_works sha1 opening).mono (fun _ _ path => lifted path)
    fun _ _ failed => ⟨failed.1, lifted failed.2⟩

end Rcom
