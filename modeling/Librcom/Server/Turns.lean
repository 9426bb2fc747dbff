import Librcom.Server.WebSocketServer
import Mathlib.Tactic.Common

/-! What a server can do to its links: by a listener's reaction, and on the turn of a link. -/

namespace Rcom

open Effects

/-- An exception that a constructor fails with. -/
def Fault.IsRuntimeError (e : Fault) : Prop := ∃ what, e = .runtimeError what

section Platforms

variable {L W : Type}

/-- The calls that a server or a listener makes on a link besides receiving. -/
inductive Platform.LinkCall (platform : Platform L W) : {α : Type} → Program (L × W) Fault α → Prop
  | send (message : Bytes) (type : MessageType) : platform.LinkCall (platform.send message type)
  | close (code : CloseCode) : platform.LinkCall (platform.close code)

/-- Nothing is thrown but the runtime errors of a failed handshake. -/
structure Platform.Quiet (platform : Platform L W) : Prop where
  accept : platform.accept.Quiet
  closeServerSocket : platform.closeServerSocket.Quiet
  destroyServerSocket : platform.destroyServerSocket.Quiet
  newServerSideWebSocket : ∀ sockfd,
    (platform.newServerSideWebSocket sockfd).ThrowsOnly Fault.IsRuntimeError
  recv : ∀ message, (platform.recv message).Quiet
  send : ∀ message type, (platform.send message type).Quiet
  close : ∀ code, (platform.close code).Quiet
  destroy : platform.destroy.Quiet

/-- The methods of the links come to an end. -/
structure Platform.Prompt (platform : Platform L W) : Prop where
  recv : ∀ message s, (platform.recv message).Halts s
  send : ∀ message type s, (platform.send message type).Halts s
  close : ∀ code s, (platform.close code).Halts s
  destroy : ∀ s, platform.destroy.Halts s

variable {platform : Platform L W} {α : Type} {call : Program (L × W) Fault α}

/-- On a quiet platform the calls on a link throw nothing. -/
theorem Platform.LinkCall.quiet (made : platform.LinkCall call) (quiet : platform.Quiet) :
    call.Quiet := by
  cases made with
  | send message type => exact quiet.send message type
  | close code => exact quiet.close code

/-- On a prompt platform the calls on a link come to an end. -/
theorem Platform.LinkCall.halts (made : platform.LinkCall call) (prompt : platform.Prompt)
    (s : L × W) : call.Halts s := by
  cases made with
  | send message type => exact prompt.send message type s
  | close code => exact prompt.close code s

/-- A method that throws nothing meets what is true of its results. -/
theorem quiet_meets {total : Prop} {s : L × W} (quiet : call.Quiet) (ends : total → call.Halts s) :
    call.Meets total s (fun a s' => call.Yields s a s') (fun _ _ => False) :=
  ⟨⟨fun returned => returned, fun threw => (quiet s).throws threw⟩, ends⟩

end Platforms

namespace WebSocketServer

variable {L W τ : Type}

def addresses (server : WebSocketServer L W τ) : List Nat := server.links.map (·.address)

/-- The server after a call on the link at an index. -/
def updated (server : WebSocketServer L W τ) (index : Nat) (link : Connection L) (ws : L)
    (world : W) : WebSocketServer L W τ :=
  { server with links := server.links.set index { link with ws := ws }, world := world }

def logged (server : WebSocketServer L W τ) (entries : List Entry) : WebSocketServer L W τ :=
  { server with log := server.log ++ entries }

/-- A call on a link leaves the addresses in the table. -/
theorem addresses_updated {server : WebSocketServer L W τ} {index : Nat} {link : Connection L}
    (ws : L) (world : W) (present : server.links[index]? = some link) :
    (server.updated index link ws world).addresses = server.addresses := by
  unfold addresses updated
  apply List.ext_getElem?
  intro i
  -- The link at the index keeps its address, the others are not touched.
  by_cases here : i = index
  · subst here
    obtain ⟨bound, found⟩ := List.getElem?_eq_some_iff.mp present
    simp [bound, ← found]
  · simp [List.getElem?_set_ne (Ne.symm here)]

section Calls

variable {platform : Platform L W} {α : Type} {call : Program (L × W) Fault α} {total : Prop}
  {server : WebSocketServer L W τ}

/-- A call on a link gives its result, and updates the link and the world. -/
theorem onLink_meets (index : Nat) (link : Connection L) (quiet : call.Quiet)
    -- The link is looked up in the server, and put back at its index.
    (ends : total → ∀ s, call.Halts s) :
    (onLink index link call).Meets total server
      (fun a after => ∃ ws world, call.Yields (link.ws, server.world) a (ws, world) ∧
        after = server.updated index link ws world)
      (fun _ _ => False) := by
  have met := quiet_meets (s := (link.ws, server.world)) quiet fun known => ends known _
  refine (met.within (fun server : WebSocketServer L W τ => (link.ws, server.world)) _).mono ?_ ?_
  · rintro a after ⟨⟨ws, world⟩, returned, rfl⟩
    exact ⟨ws, world, returned, rfl⟩
  · rintro e after ⟨_, impossible, _⟩
    exact impossible

/-- What may have been done to links by sending and closing, where only some may be acted on. -/
inductive Acted (platform : Platform L W) (may : Nat → Prop) (server : WebSocketServer L W τ) :
    WebSocketServer L W τ → Prop
  | nothing : Acted platform may server server
  /-- A call was made on a link. -/
  | call {α : Type} {call : Program (L × W) Fault α} {mid : WebSocketServer L W τ} {index : Nat}
      {link : Connection L} {a : α} {ws : L} {world : W} (before : Acted platform may server mid)
      (made : platform.LinkCall call) (present : mid.links[index]? = some link)
      (allowed : may link.address) (returned : call.Yields (link.ws, mid.world) a (ws, world)) :
      Acted platform may server (mid.updated index link ws world)
  /-- The listener returned. -/
  | returned {mid : WebSocketServer L W τ} (listener : τ) (message : Bytes)
      (before : Acted platform may server mid) :
      Acted platform may server { mid with listener := listener, message := message }

variable {may : Nat → Prop} {mid after : WebSocketServer L W τ}

/-- What was done to links may be done in two parts. -/
theorem Acted.trans (front : Acted platform may server mid) (back : Acted platform may mid after) :
    Acted platform may server after := by
  induction back with
  | nothing => exact front
  | call _ made present allowed returned ih => exact ih.call made present allowed returned
  | returned listener message _ ih => exact ih.returned listener message

/-- Acting on links leaves the table and the log. -/
theorem Acted.kept (acted : Acted platform may server after) :
    after.addresses = server.addresses ∧ after.log = server.log ∧
      after.nextAddress = server.nextAddress := by
  induction acted with
  | nothing => exact ⟨rfl, rfl, rfl⟩
  | call _ _ present _ _ ih =>
    obtain ⟨same, logged, next⟩ := ih
    exact ⟨(addresses_updated _ _ present).trans same, logged, next⟩
  | returned listener message _ ih => exact ih

/-- What is done to links leaves as many of them as before. -/
theorem Acted.length (acted : Acted platform may server after) :
    -- The table has as many links as addresses.
    after.links.length = server.links.length := by
  have same := congrArg List.length acted.kept.1
  simpa only [addresses, List.length_map] using same

/-- Acting on links leaves each where it was. -/
theorem Acted.found (acted : Acted platform may server after) {index : Nat} {link : Connection L}
    (present : after.links[index]? = some link) :
    ∃ old, server.links[index]? = some old ∧ old.address = link.address := by
  have same : after.addresses[index]? = server.addresses[index]? := by rw [acted.kept.1]
  simp only [addresses, List.getElem?_map, present, Option.map_some] at same
  exact Option.map_eq_some_iff.mp same.symm

/-- An allowed call on a link of the table acts on it. -/
theorem onLink_acts (quiet : platform.Quiet) (made : platform.LinkCall call) {index : Nat}
    {link : Connection L} (present : server.links[index]? = some link)
    (allowed : may link.address) :
    (onLink index link call).Meets platform.Prompt server
      (fun _ after => Acted platform may server after) (fun _ _ => False) := by
  refine (onLink_meets index link (made.quiet quiet) fun prompt => made.halts prompt).mono ?_
    fun _ _ impossible => impossible
  rintro a after ⟨ws, world, returned, rfl⟩
  exact Acted.nothing.call made present allowed returned

end Calls

section Acting

variable {platform : Platform L W} {may : Nat → Prop} (quiet : platform.Quiet)
  (server : WebSocketServer L W τ)

include quiet

/-- To send over an allowed link acts on that link alone. -/
theorem send_acts (index : Nat) (message : Bytes) (type : MessageType)
    (allowed : ∀ link, server.links[index]? = some link → may link.address) :
    (send platform index message type).Meets platform.Prompt server
      (fun _ after => Acted platform may server after) (fun _ _ => False) := by
  refine (Program.yields_get server).bind_meets ?_
  -- A link at the index is called only while it is connected, and without one nothing is done.
  split
  · rename_i link present
    split
    · exact onLink_acts quiet (.send message type) present (allowed link present)
    · exact Program.meets_pure .nothing
  · exact Program.meets_pure .nothing

/-- To close an allowed link acts on that link alone. -/
theorem close_acts (index : Nat) (code : CloseCode)
    (allowed : ∀ link, server.links[index]? = some link → may link.address) :
    (close platform index code).Meets platform.Prompt server
      (fun _ after => Acted platform may server after) (fun _ _ => False) := by
  refine (Program.yields_get server).bind_meets ?_
  -- A close is made whatever the state of the link.
  split
  · rename_i link present
    exact onLink_acts quiet (.close code) present (allowed link present)
  · exact Program.meets_pure .nothing

/-- To reply over an allowed link acts on that link alone. -/
theorem reply_acts (index : Nat) (message : Bytes) (type : MessageType)
    (allowed : ∀ link, server.links[index]? = some link → may link.address) :
    (reply platform index message type).Meets platform.Prompt server
      (fun _ after => Acted platform may server after) (fun _ _ => False) := by
  refine (Program.yields_get server).bind_meets ?_
  -- The listener sends over its own link, without asking whether that is connected.
  split
  · rename_i link present
    exact onLink_acts quiet (.send message type) present (allowed link present)
  · exact Program.meets_pure .nothing

/-- A broadcast acts on no link but those that are allowed, if the others are excluded. -/
theorem broadcast_acts (message : Bytes) (type : MessageType) (exclude : Option Nat)
    (allowed : ∀ address, exclude ≠ some address → may address) :
    (broadcast platform message type exclude).Meets platform.Prompt server
      (fun _ after => Acted platform may server after) (fun _ _ => False) := by
  -- The rounds left are the links from the index on, and the table keeps its length.
  refine Program.Meets.iterate (n := server.links.length) (fun left index now =>
    Acted platform may server now ∧ left = now.links.length - index) ?_ ⟨.nothing, by omega⟩
  rintro left index now ⟨acted, rfl⟩
  -- Whatever a round does to the links, it lowers the number of those that are left.
  have more : ∀ later, Acted platform may now later → index < now.links.length →
      ∃ m < now.links.length - index,
        Acted platform may server later ∧ m = later.links.length - (index + 1) := by
    intro later further bound
    refine ⟨later.links.length - (index + 1), ?_, acted.trans further, rfl⟩
    rw [further.length]
    omega
  refine (Program.yields_get now).bind_meets ?_
  split
  · -- No link is left, so that the broadcast ends.
    exact Program.meets_pure acted
  · rename_i link present
    have bound : index < now.links.length := (List.getElem?_eq_some_iff.mp present).1
    split
    · rename_i included
      -- Every call goes to the link at this index, whose address stays the one that was compared.
      have here : ∀ later, Acted platform may now later → ∀ link', later.links[index]? = some link' →
          may link'.address := by
        intro later further link' present'
        obtain ⟨old, found, same⟩ := further.found present'
        obtain rfl : link = old := Option.some.inj (present.symm.trans found)
        exact same ▸ allowed _ included
      refine (send_acts quiet now index message type (here now .nothing)).bind fun sent later further => ?_
      split
      · exact Program.meets_pure (more later further bound)
      · -- A link that did not take the message is closed in the same round.
        refine (close_acts quiet later index _ (here later further)).bind fun _ last closed => ?_
        exact Program.meets_pure (more last (further.trans closed) bound)
    · -- The link to exclude is passed over.
      exact Program.meets_pure (more now .nothing bound)

/-- A reaction that is confined acts only on the links it may act on. -/
theorem react_acts (index address : Nat) (reaction : Reaction τ)
    (confined : reaction.Confined may address)
    (here : ∀ link, server.links[index]? = some link → link.address = address) :
    (react platform index reaction).Meets platform.Prompt server
      (fun _ after => Acted platform may server after) (fun _ _ => False) := by
  -- Induction on the reaction: each call acts, and leaves the link at the index where it was.
  have still : ∀ {before later : WebSocketServer L W τ}, Acted platform may before later →
      (∀ link, before.links[index]? = some link → link.address = address) →
      ∀ link, later.links[index]? = some link → link.address = address := by
    intro before later acted known link present
    obtain ⟨old, found, same⟩ := acted.found present
    exact same ▸ known old found
  induction reaction generalizing server with
  | broadcast message type exclude next ih =>
    refine (broadcast_acts quiet server message type exclude confined.1).bind fun _ later acted => ?_
    refine (ih later confined.2 (still acted here)).mono (fun _ _ further => acted.trans further) ?_
    exact fun _ _ impossible => impossible
  | send message type next ih =>
    -- The listener answers over the link that its message came over.
    have allowed := fun link present => (here link present).symm ▸ confined.1
    refine (reply_acts quiet server index message type allowed).bind fun sent later acted => ?_
    refine (ih sent later (confined.2 sent) (still acted here)).mono
      (fun _ _ further => acted.trans further) ?_
    exact fun _ _ impossible => impossible
  | close code next ih =>
    -- It may close that link, too.
    have allowed := fun link present => (here link present).symm ▸ confined.1
    refine (close_acts quiet server index code allowed).bind fun _ later acted => ?_
    refine (ih later confined.2 (still acted here)).mono (fun _ _ further => acted.trans further) ?_
    exact fun _ _ impossible => impossible
  | done listener message => exact Program.meets_update (.returned listener message .nothing)

/-- Closing the connected links acts on them, and ends. -/
theorem closeConnected_acts :
    (Program.iterate (closeConnectedRound platform) 0).Meets platform.Prompt server
      (fun _ after => Acted platform (fun _ => True) server after) (fun _ _ => False) := by
  -- The rounds left are the links from the index on, and the table keeps its length.
  refine Program.Meets.iterate (n := server.links.length) (fun left index now =>
    Acted platform (fun _ => True) server now ∧ left = now.links.length - index) ?_ ⟨.nothing, by omega⟩
  rintro left index now ⟨acted, rfl⟩
  refine (Program.yields_get now).bind_meets ?_
  -- A link that is connected is closed, and any other is passed over.
  split
  · exact Program.meets_pure acted
  · rename_i link present
    have bound : index < now.links.length := (List.getElem?_eq_some_iff.mp present).1
    split
    · have closes : (close platform index kCloseGoingAway).Meets platform.Prompt now
          (fun _ after => Acted platform (fun _ => True) now after) (fun _ _ => False) :=
        close_acts quiet now index kCloseGoingAway fun _ _ => trivial
      refine closes.bind fun _ later further => ?_
      refine Program.meets_pure ⟨later.links.length - (index + 1), ?_, acted.trans further, rfl⟩
      rw [further.length]
      omega
    · exact Program.meets_pure ⟨now.links.length - (index + 1), by omega, acted, rfl⟩

end Acting

/-- The answer of `recv` that announces a message. -/
def statusOf : MessageType → RecvStatus
  | .kTextMessage => .kRecvText
  | .kBinaryMessage => .kRecvBinary

/-- The server after the link at an index received. -/
def served (server : WebSocketServer L W τ) (index : Nat) (link : Connection L) (ws : L) (world : W)
    (status : RecvStatus) (message : Bytes) : WebSocketServer L W τ :=
  { server.updated index link ws world with
    message := message
    log := (server.log ++ [.turn link.address true]) ++ [.received link.address status message] }

/-- What the turn of the link at an index does to a server. -/
inductive Visit (platform : Platform L W) (listener : Listener τ) (may : Nat → Prop) (index : Nat)
    (server : WebSocketServer L W τ) : WebSocketServer L W τ → Prop
  /-- The link is disconnected. -/
  | skipped {link : Connection L} (present : server.links[index]? = some link)
      (gone : platform.isConnected link.ws = false) :
      Visit platform listener may index server (server.logged [.turn link.address false])
  /-- The link received a message, and the listener reacted. -/
  | heard {link : Connection L} {ws : L} {world : W} {message : Bytes}
      {after : WebSocketServer L W τ} (type : MessageType)
      (present : server.links[index]? = some link) (there : platform.isConnected link.ws = true)
      (returned : (platform.recv server.message).Yields (link.ws, server.world)
        (statusOf type, message) (ws, world))
      (reacted : (react platform index (listener server.listener link.address message type)).Yields
        ((server.served index link ws world (statusOf type) message).logged
          [.heard link.address message type]) () after)
      (acted : Acted platform may
        ((server.served index link ws world (statusOf type) message).logged
          [.heard link.address message type]) after) :
      Visit platform listener may index server after
  /-- The link failed to receive, and is closed. -/
  | failed {link : Connection L} {ws ws' : L} {world world' : W} {message : Bytes}
      (present : server.links[index]? = some link) (there : platform.isConnected link.ws = true)
      (returned : (platform.recv server.message).Yields (link.ws, server.world)
        (.kRecvError, message) (ws, world))
      (closed : (platform.close kCloseInternalError).Yields (ws, world) () (ws', world')) :
      Visit platform listener may index server
        ((server.served index link ws world .kRecvError message).updated index
          { link with ws := ws } ws' world')
  /-- The link received no message. -/
  | quiet {link : Connection L} {ws : L} {world : W} {status : RecvStatus} {message : Bytes}
      (present : server.links[index]? = some link) (there : platform.isConnected link.ws = true)
      (returned : (platform.recv server.message).Yields (link.ws, server.world)
        (status, message) (ws, world))
      (idle : status = .kRecvClosed ∨ status = .kRecvTimeOut) :
      Visit platform listener may index server (server.served index link ws world status message)

section Visits

variable {platform : Platform L W} {may : Nat → Prop} {server after : WebSocketServer L W τ}
  {listener : Listener τ} {index : Nat}

/-- The link at the index, after it received. -/
theorem served_present {link : Connection L} {ws : L} {world : W} {status : RecvStatus}
    {message : Bytes} (present : server.links[index]? = some link) :
    (server.served index link ws world status message).links[index]? =
      some { link with ws := ws } := by
  have bound : index < server.links.length := (List.getElem?_eq_some_iff.mp present).1
  simp [served, updated, bound]

/-- Receiving leaves the table. -/
theorem addresses_served {link : Connection L} {ws : L} {world : W} {status : RecvStatus}
    {message : Bytes} (present : server.links[index]? = some link) :
    (server.served index link ws world status message).addresses = server.addresses :=
  addresses_updated ws world present

/-- A turn leaves the table and what the next link is called. -/
theorem Visit.kept (visit : Visit platform listener may index server after) :
    after.addresses = server.addresses ∧ after.nextAddress = server.nextAddress := by
  cases visit with
  | skipped present gone => exact ⟨rfl, rfl⟩
  | @heard link ws world message after type present there returned reacted acted =>
    -- The reaction follows the receive call, and neither moves a link.
    exact ⟨acted.kept.1.trans (addresses_updated ws world present), acted.kept.2.2⟩
  | failed present there returned closed =>
    -- Two calls were made on the link, one after the other.
    refine ⟨(addresses_updated _ _ (served_present present)).trans ?_, rfl⟩
    exact addresses_served present
  | quiet present there returned idle =>
    exact ⟨addresses_served present, rfl⟩

/-- What is done with the answer of `recv` completes the turn. -/
theorem handleRecvStatus_visits (quiet : platform.Quiet) (confined : listener.Confined may)
    {link : Connection L} {ws : L} {world : W} {status : RecvStatus} {message : Bytes}
    (present : server.links[index]? = some link) (there : platform.isConnected link.ws = true)
    (returned : (platform.recv server.message).Yields (link.ws, server.world) (status, message)
      (ws, world)) :
    (handleRecvStatus platform listener index link.address status).Meets platform.Prompt
      (server.served index link ws world status message)
      (fun _ after => Visit platform listener may index server after) (fun _ _ => False) := by
  -- Behind the receive call the link is still the one at the index.
  have here : ∀ found, (server.served index link ws world status message).links[index]? = some found →
      found.address = link.address := by
    intro found same
    rw [served_present present] at same
    cases same
    rfl
  -- Both kinds of message go to the listener in the same way.
  have hears : ∀ type, status = statusOf type →
      (onmessage platform listener index link.address type).Meets platform.Prompt
        (server.served index link ws world status message)
        (fun _ after => Visit platform listener may index server after) (fun _ _ => False) := by
    rintro type rfl
    -- The listener is called with the message in the buffer.
    refine (Program.yields_get _).bind_meets ?_
    -- The message is the one in the buffer, and it is noted before the listener reacts.
    refine (Program.yields_update _ _).bind_meets ?_
    have reacts := react_acts quiet ((server.served index link ws world (statusOf type) message).logged
      [.heard link.address message type]) index link.address
      (listener server.listener link.address message type) (confined _ _ _ _) here
    refine reacts.returned.mono ?_ fun _ _ impossible => impossible
    exact fun _ after ⟨reacted, acted⟩ => .heard type present there returned reacted acted
  cases status with
  | kRecvText => exact hears .kTextMessage rfl
  | kRecvBinary => exact hears .kBinaryMessage rfl
  | kRecvError =>
    -- The link that failed is looked up again, and closed.
    refine (Program.yields_get _).bind_meets ?_
    simp only [served_present present]
    refine (onLink_meets index _ (quiet.close _) fun prompt => prompt.close _).mono ?_
      fun _ _ impossible => impossible
    rintro _ after ⟨ws', world', closed, rfl⟩
    exact .failed present there returned closed
  | kRecvClosed => exact Program.meets_pure (.quiet present there returned (.inl rfl))
  | kRecvTimeOut => exact Program.meets_pure (.quiet present there returned (.inr rfl))

/-- Each round of handling messages is the turn of a link, until there are no more. -/
theorem handleNewMessagesRound_visits (quiet : platform.Quiet) (confined : listener.Confined may) :
    (handleNewMessagesRound platform listener index).Meets platform.Prompt server
      (Program.Turn
        (fun next after => next = index + 1 ∧ index < server.links.length ∧
          Visit platform listener may index server after)
        (fun _ after => server.links.length ≤ index ∧ after = server))
      (fun _ _ => False) := by
  refine (Program.yields_get server).bind_meets ?_
  -- The round ends the loop where no link is left.
  split
  · rename_i absent
    exact Program.meets_pure ⟨List.getElem?_eq_none_iff.mp absent, rfl⟩
  · rename_i link present
    have bound : index < server.links.length := (List.getElem?_eq_some_iff.mp present).1
    refine (Program.yields_update _ server).bind_meets ?_
    split
    · rename_i there
      -- A connected link is received from, and what follows depends on the answer.
      suffices visits : (handleNewMessagesAt platform listener index link).Meets platform.Prompt
          (server.logged [.turn link.address true])
          (fun _ after => Visit platform listener may index server after) (fun _ _ => False) by
        rw [there]
        exact visits.bind fun _ after visit => Program.meets_pure ⟨rfl, bound, visit⟩
      refine (Program.yields_get _).bind_meets ?_
      -- What was received goes into the buffer that all links share.
      refine (onLink_meets index link (quiet.recv _) fun prompt => prompt.recv _).bind ?_
      rintro ⟨status, message⟩ received ⟨ws, world, returned, rfl⟩
      refine (Program.yields_update _ _).bind_meets ?_
      refine (Program.yields_update _ _).bind_meets ?_
      exact handleRecvStatus_visits quiet confined present there returned
    · rename_i away
      have gone : platform.isConnected link.ws = false := by simpa using away
      -- A link that is disconnected has its turn without any call.
      rw [gone]
      exact Program.meets_pure ⟨rfl, bound, .skipped present gone⟩

end Visits

end WebSocketServer

end Rcom
