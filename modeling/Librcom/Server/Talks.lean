import Librcom.Effects.Parts
import Librcom.Server.Hub
import Librcom.Server.Isolation
import Librcom.WebSocket.Dialogue

/-! What is said over the links of a server, each of which holds a dialogue of its own. -/

namespace Rcom

open Effects

/-- What was said over links, in order: the address of a link, and what a call on it said. -/
abbrev Talk := List (Nat × Report)

/-- What a broadcast says: a link takes the message or is closed, unless it is the excluded one. -/
inductive Spread (message : Message) (exclude : Option Nat) : Talk → Prop
  | done : Spread message exclude []
  | sent {talk : Talk} {address : Nat} (before : Spread message exclude talk)
      (included : exclude ≠ some address) :
      Spread message exclude (talk ++ [(address, .sent message)])
  | closed {talk : Talk} {address : Nat} (before : Spread message exclude talk)
      (included : exclude ≠ some address) :
      Spread message exclude (talk ++ ([(address, .unsent message)] ++ [(address, .quiet)]))

/-- What a send call says. -/
def sendReport (message : Bytes) (type : MessageType) (sent : Bool) : Report :=
  if sent then .sent (type, message) else .unsent (type, message)

section Listeners

variable {τ : Type}

/-- What a reaction says to a message of the link at an address, and the listener it leaves. -/
inductive Reacted (self : Nat) : Reaction τ → Talk → τ → Prop
  | done (listener : τ) (message : Bytes) : Reacted self (.done listener message) [] listener
  | send {message : Bytes} {type : MessageType} {next : Bool → Reaction τ} {talk : Talk} {after : τ}
      (sent : Bool) (rest : Reacted self (next sent) talk after) :
      Reacted self (.send message type next) ((self, sendReport message type sent) :: talk) after
  | close {code : CloseCode} {next : Reaction τ} {talk : Talk} {after : τ}
      (rest : Reacted self next talk after) :
      Reacted self (.close code next) ((self, .quiet) :: talk) after
  | broadcast {message : Bytes} {type : MessageType} {exclude : Option Nat} {next : Reaction τ}
      {spread talk : Talk} {after : τ} (first : Spread (type, message) exclude spread)
      (rest : Reacted self next talk after) :
      Reacted self (.broadcast message type exclude next) (spread ++ talk) after

/--
A listener over a talk, from one of its states to another.

It is called with each message that is received, once and in order, and what it does about the message is said
before the next one is received.
-/
inductive Listened (listener : Listener τ) : τ → Talk → τ → Prop
  | stop (state : τ) : Listened listener state [] state
  | quiet {state after : τ} {talk : Talk} (address : Nat) (rest : Listened listener state talk after) :
      Listened listener state ((address, .quiet) :: talk) after
  | heard {state mid after : τ} {address : Nat} {message : Message} {answer talk : Talk}
      (reacted : Reacted address (listener state address message.2 message.1) answer mid)
      (rest : Listened listener mid talk after) :
      Listened listener state ((address, .received message) :: (answer ++ talk)) after

/-- The talk of a hub over the calls of its application, each of which handles events or broadcasts. -/
inductive Hosted (listener : Listener τ) : τ → List HubCall → Talk → τ → Prop
  | stop (state : τ) : Hosted listener state [] [] state
  | handleEvents {state mid after : τ} {calls : List HubCall} {talk later : Talk}
      (first : Listened listener state talk mid) (rest : Hosted listener mid calls later after) :
      Hosted listener state (.handleEvents :: calls) (talk ++ later) after
  | broadcast {state after : τ} {calls : List HubCall} {message : Bytes} {type : MessageType}
      {exclude : Option Nat} {spread later : Talk} (first : Spread (type, message) exclude spread)
      (rest : Hosted listener state calls later after) :
      Hosted listener state (.broadcast message type exclude :: calls) (spread ++ later) after

variable {listener : Listener τ} {state mid after : τ} {talk later : Talk}

/-- Two talks of a listener in a row are one. -/
theorem Listened.append (first : Listened listener state talk mid)
    (second : Listened listener mid later after) : Listened listener state (talk ++ later) after := by
  induction first with
  | stop state => exact second
  | quiet address rest ih => exact .quiet address (ih second)
  | @heard state mid after address message answer talk reacted rest ih =>
    rw [List.cons_append, List.append_assoc]
    exact .heard reacted (ih second)

end Listeners

/-- A dialogue may go on where another one stopped. -/
theorem Dialogue.append {side : Side} {ws ws' ws'' : WebSocket} {reports later : List Report}
    (first : Dialogue side ws reports ws') (second : Dialogue side ws' later ws'') :
    Dialogue side ws (reports ++ later) ws'' := by
  induction first with
  | stop ws => exact second
  | call said rest ih => exact .call said (ih second)

namespace WebSocketServer

variable {τ : Type} {sha1 : Sha1} {listener : Listener τ}

/-- The links of the table hold the dialogues of a talk, each its own part. -/
structure Talked (server : WebSocketServer WebSocket Surroundings τ) (talk : Talk)
    (after : WebSocketServer WebSocket Surroundings τ) : Prop where
  addresses : after.addresses = server.addresses
  nextAddress : after.nextAddress = server.nextAddress
  dialogues : ∀ (index : Nat) (link : Connection WebSocket), server.links[index]? = some link →
    ∃ ws, after.links[index]? = some { link with ws := ws } ∧
      Dialogue .server link.ws (part link.address talk) ws
  silent : ∀ address ∉ server.addresses, part address talk = []

section Steps

variable {server mid after : WebSocketServer WebSocket Surroundings τ} {talk later : Talk}

/-- While nothing is said, the table stays as it is. -/
theorem Talked.of_links (links : after.links = server.links)
    (nextAddress : after.nextAddress = server.nextAddress) : Talked server [] after where
  addresses := by rw [WebSocketServer.addresses, links, WebSocketServer.addresses]
  nextAddress := nextAddress
  dialogues index link present := ⟨link.ws, by rw [links, present], .stop link.ws⟩
  silent _ _ := rfl

/-- Two talks in a row are one. -/
theorem Talked.trans (first : Talked server talk mid) (second : Talked mid later after) :
    Talked server (talk ++ later) after where
  addresses := second.addresses.trans first.addresses
  nextAddress := second.nextAddress.trans first.nextAddress
  dialogues index link present := by
    -- The link is at the same index, and goes on with its dialogue there.
    obtain ⟨ws, found, dialogue⟩ := first.dialogues index link present
    obtain ⟨ws', found', dialogue'⟩ := second.dialogues index _ found
    refine ⟨ws', found', ?_⟩
    rw [part_append]
    exact dialogue.append dialogue'
  silent address absent := by
    have absent' : address ∉ mid.addresses := first.addresses ▸ absent
    rw [part_append, first.silent address absent, second.silent address absent', List.append_nil]

/-- What is done to the other members of the server changes nothing about the links. -/
theorem Talked.before (talked : Talked server talk mid) (links : after.links = mid.links)
    (nextAddress : after.nextAddress = mid.nextAddress) : Talked server talk after := by
  simpa using talked.trans (.of_links links nextAddress)

/-- A call on one link is said by that link alone. -/
theorem Talked.of_call {index : Nat} {link : Connection WebSocket} {report : Report} {ws : WebSocket}
    {world : Surroundings} (distinct : server.addresses.Nodup)
    (present : server.links[index]? = some link) (said : Says .server link.ws ws report) :
    Talked server [(link.address, report)] (server.updated index link ws world) where
  addresses := addresses_updated ws world present
  nextAddress := rfl
  dialogues k other found := by
    by_cases here : k = index
    · -- The link that is called is put back with its new state.
      subst here
      obtain rfl : link = other := Option.some.inj (present.symm.trans found)
      have bound := (List.getElem?_eq_some_iff.mp present).1
      refine ⟨ws, by simp [updated, bound], ?_⟩
      rw [part_cons_self, part_nil]
      exact .call said (.stop ws)
    · have elsewhere : link.address ≠ other.address := by
        intro same
        exact address_elsewhere distinct present here (same ▸ address_at found)
      refine ⟨other.ws, by simpa [updated, List.getElem?_set_ne (Ne.symm here)] using found, ?_⟩
      rw [part_cons_other elsewhere, part_nil]
      exact .stop other.ws
  silent address absent := by
    apply part_of_absent
    intro entry member
    obtain rfl := List.mem_singleton.mp member
    -- The link that is called is one of the table.
    intro same
    exact absent (same ▸ List.mem_of_getElem? (address_at present))

end Steps

section Calls

variable {server : WebSocketServer WebSocket Surroundings τ}

/-- A call on a link is said by it, and the listener stays what it is. -/
theorem onLink_talks {α : Type} {call : WebSocketM α} {index : Nat} {link : Connection WebSocket}
    (quiet : (onItself call).Quiet) (distinct : server.addresses.Nodup)
    (present : server.links[index]? = some link) (said : α → Report → Prop)
    (spoken : ∀ a ws, call.Yields link.ws a ws →
      ∃ report, said a report ∧ Says .server link.ws ws report) :
    (onLink index link (onItself call)).Ensures server
      (fun a after => ∃ report, said a report ∧ Talked server [(link.address, report)] after ∧
        after.listener = server.listener)
      fun _ _ => False := by
  -- The call is made on the link itself, whose surroundings it leaves alone.
  have called : (onLink index link (onItself call)).Meets False server
      (fun a after => ∃ ws world, (onItself call).Yields (link.ws, server.world) a (ws, world) ∧
        after = server.updated index link ws world) fun _ _ => False :=
    onLink_meets index link quiet False.elim
  refine called.toEnsures.mono ?_ fun _ _ impossible => impossible
  rintro a after ⟨ws, world, returned, rfl⟩
  obtain ⟨report, meant, spoke⟩ := spoken a ws (onItself_yields returned).1
  exact ⟨report, meant, .of_call distinct present spoke, rfl⟩

/-- A send call says whether the message was sent. -/
theorem says_sendReport {ws ws' : WebSocket} {message : Bytes} {type : MessageType} {sent : Bool}
    (returned : (Rcom.send .server message type).Yields ws sent ws') :
    Says .server ws ws' (sendReport message type sent) := by
  cases sent with
  | true => exact .sent (type, message) returned
  | false => exact .refused (type, message) returned

/-- The listener's send call on the link that its message came over. -/
theorem reply_talks (distinct : server.addresses.Nodup) {index address : Nat}
    (there : server.addresses[index]? = some address) (message : Bytes) (type : MessageType) :
    (reply (webSocketPlatform sha1) index message type).Ensures server
      (fun sent after => Talked server [(address, sendReport message type sent)] after ∧
        after.listener = server.listener)
      fun _ _ => False := by
  refine (Program.yields_get server).bind_ensures ?_
  -- The link at the index is the one at the address.
  split
  · rename_i link present
    obtain rfl : link.address = address := Option.some.inj ((address_at present).symm.trans there)
    have called := onLink_talks ((webSocketPlatform_quiet sha1).send message type) distinct present
      (fun sent report => report = sendReport message type sent)
      fun sent ws returned => ⟨_, rfl, says_sendReport returned⟩
    refine called.mono ?_ fun _ _ impossible => impossible
    rintro sent after ⟨_, rfl, talked, same⟩
    exact ⟨talked, same⟩
  · rename_i absent
    rw [addresses, List.getElem?_map, absent] at there
    cases there

/-- A link that is closed by the server or its listener has nothing to report. -/
theorem close_talks (distinct : server.addresses.Nodup) {index address : Nat}
    (there : server.addresses[index]? = some address) (code : CloseCode) :
    (close (webSocketPlatform sha1) index code).Ensures server
      (fun _ after => Talked server [(address, .quiet)] after ∧ after.listener = server.listener)
      fun _ _ => False := by
  refine (Program.yields_get server).bind_ensures ?_
  -- The link at the index is the one at the address, and says nothing more.
  split
  · rename_i link present
    obtain rfl : link.address = address := Option.some.inj ((address_at present).symm.trans there)
    have called := onLink_talks ((webSocketPlatform_quiet sha1).close code) distinct present
      (fun _ report => report = .quiet)
      fun _ ws returned => ⟨_, rfl, .closed code (.inl ⟨(), returned⟩)⟩
    refine called.mono ?_ fun _ _ impossible => impossible
    rintro _ after ⟨_, rfl, talked, same⟩
    exact ⟨talked, same⟩
  · rename_i absent
    rw [addresses, List.getElem?_map, absent] at there
    cases there

/-- The server's send call is a send call on the link, unless that is disconnected. -/
theorem send_talks (distinct : server.addresses.Nodup) {index address : Nat}
    (there : server.addresses[index]? = some address) (message : Bytes) (type : MessageType) :
    (send (webSocketPlatform sha1) index message type).Ensures server
      (fun sent after =>
        (Talked server [(address, sendReport message type sent)] after ∨
          sent = true ∧ Talked server [] after) ∧ after.listener = server.listener)
      fun _ _ => False := by
  refine (Program.yields_get server).bind_ensures ?_
  split
  · rename_i link present
    obtain rfl : link.address = address := Option.some.inj ((address_at present).symm.trans there)
    -- Only a connected link is called, and any other counts as having taken the message.
    split
    · have called := onLink_talks ((webSocketPlatform_quiet sha1).send message type) distinct present
        (fun sent report => report = sendReport message type sent)
        fun sent ws returned => ⟨_, rfl, says_sendReport returned⟩
      refine called.mono ?_ fun _ _ impossible => impossible
      rintro sent after ⟨_, rfl, talked, same⟩
      exact ⟨.inl talked, same⟩
    · exact Program.ensures_pure ⟨.inr ⟨rfl, .of_links rfl rfl⟩, rfl⟩
  · exact Program.ensures_pure ⟨.inr ⟨rfl, .of_links rfl rfl⟩, rfl⟩

end Calls

section Reactions

variable {server : WebSocketServer WebSocket Surroundings τ}

/-- A round of a broadcast is about the link at its index. -/
theorem broadcastRound_talks {now : WebSocketServer WebSocket Surroundings τ}
    (distinct : server.addresses.Nodup) (message : Bytes) (type : MessageType) (exclude : Option Nat)
    (index : Nat) {talk : Talk} (spread : Spread (type, message) exclude talk)
    (talked : Talked server talk now) (same : now.listener = server.listener) :
    (broadcastRound (webSocketPlatform sha1) message type exclude index).Ensures now
      (fun _ after => ∃ talk, Spread (type, message) exclude talk ∧ Talked server talk after ∧
        after.listener = server.listener)
      fun _ _ => False := by
  have distinct' : now.addresses.Nodup := talked.addresses ▸ distinct
  refine (Program.yields_get now).bind_ensures ?_
  split
  · exact Program.ensures_pure ⟨talk, spread, talked, same⟩
  · rename_i link present
    split
    · rename_i included
      refine (send_talks distinct' (address_at present) message type).bind ?_
      rintro sent mid ⟨spoken, same'⟩
      split
      · rename_i taken
        rcases spoken with spoken | ⟨_, silent⟩
        · rw [taken] at spoken
          exact Program.ensures_pure ⟨_, spread.sent included, talked.trans spoken, same'.trans same⟩
        · -- A link that is disconnected already has nothing to say.
          refine Program.ensures_pure ⟨talk, spread, ?_, same'.trans same⟩
          simpa using talked.trans silent
      · rename_i refused
        -- A send call that fails closes the link at once.
        have failed : sent = false := by simpa using refused
        rcases spoken with spoken | ⟨taken, _⟩
        · have there : mid.addresses[index]? = some link.address := by
            rw [spoken.addresses]
            exact address_at present
          have distinct'' : mid.addresses.Nodup := spoken.addresses ▸ distinct'
          refine (close_talks distinct'' there kCloseInternalError).bind ?_
          rintro _ last ⟨closed, same''⟩
          rw [failed] at spoken
          refine Program.ensures_pure ⟨_, spread.closed included, ?_, (same''.trans same').trans same⟩
          exact talked.trans (spoken.trans closed)
        · exact absurd taken refused
    · exact Program.ensures_pure ⟨talk, spread, talked, same⟩

/-- A broadcast says of each link whether it took the message. -/
theorem broadcast_talks (distinct : server.addresses.Nodup) (message : Bytes) (type : MessageType)
    (exclude : Option Nat) :
    (broadcast (webSocketPlatform sha1) message type exclude).Ensures server
      (fun _ after => ∃ talk, Spread (type, message) exclude talk ∧ Talked server talk after ∧
        after.listener = server.listener)
      fun _ _ => False := by
  refine Program.Ensures.iterate (fun _ now => ∃ talk, Spread (type, message) exclude talk ∧
    Talked server talk now ∧ now.listener = server.listener) ⟨[], .done, .of_links rfl rfl, rfl⟩ ?_
  rintro index now ⟨talk, spread, talked, same⟩
  refine (broadcastRound_talks distinct message type exclude index spread talked same).mono ?_ ?_
  · -- The invariant of the rounds is also what holds when they are over.
    rintro (next | done) after spoken
    · exact spoken
    · exact spoken
  · exact fun _ _ impossible => impossible

/-- Carrying out a reaction says what the reaction says. -/
theorem react_talks (distinct : server.addresses.Nodup) {index address : Nat}
    (there : server.addresses[index]? = some address) (reaction : Reaction τ) :
    (react (webSocketPlatform sha1) index reaction).Ensures server
      (fun _ after => ∃ talk, Reacted address reaction talk after.listener ∧
        Talked server talk after)
      fun _ _ => False := by
  induction reaction generalizing server with
  | broadcast message type exclude next ih =>
    refine (broadcast_talks distinct message type exclude).bind ?_
    rintro _ mid ⟨spread, first, talked, _⟩
    -- The table is as it was, so that the rest of the reaction is about the same link.
    refine (ih (talked.addresses ▸ distinct) (talked.addresses ▸ there)).mono ?_ ?_
    · rintro _ after ⟨talk, rest, talked'⟩
      exact ⟨spread ++ talk, .broadcast first rest, talked.trans talked'⟩
    · exact fun _ _ impossible => impossible
  | send message type next ih =>
    refine (reply_talks distinct there message type).bind ?_
    rintro sent mid ⟨talked, _⟩
    refine (ih sent (talked.addresses ▸ distinct) (talked.addresses ▸ there)).mono ?_ ?_
    · rintro _ after ⟨talk, rest, talked'⟩
      exact ⟨_ :: talk, .send sent rest, talked.trans talked'⟩
    · exact fun _ _ impossible => impossible
  | close code next ih =>
    refine (close_talks distinct there code).bind ?_
    rintro _ mid ⟨talked, _⟩
    refine (ih (talked.addresses ▸ distinct) (talked.addresses ▸ there)).mono ?_ ?_
    · rintro _ after ⟨talk, rest, talked'⟩
      exact ⟨_ :: talk, .close rest, talked.trans talked'⟩
    · exact fun _ _ impossible => impossible
  -- The reaction ends with the listener's new state.
  | done listener message =>
    exact Program.ensures_update ⟨[], .done listener message, .of_links rfl rfl⟩

end Reactions

section Turns

variable {server : WebSocketServer WebSocket Surroundings τ}

/-- What a receive call answers: a message that it received, or nothing. -/
def Answered (answer : RecvStatus × Bytes) (report : Report) : Prop :=
  (∃ message : Message, answer = (message.1.status, message.2) ∧ report = .received message) ∨
    delivered answer.1 answer.2 = [] ∧ report = .quiet

/-- Whatever a receive call answers, it can be reported. -/
theorem says_received {ws ws' : WebSocket} {buffer : Bytes} {timeout : ℚ} {answer : RecvStatus × Bytes}
    (returned : (Rcom.recv .server buffer timeout).Yields ws answer ws') :
    ∃ report, Answered answer report ∧ Says .server ws ws' report := by
  obtain ⟨status, message⟩ := answer
  -- Two of the statuses come with a message.
  cases status with
  | kRecvText =>
    exact ⟨_, .inl ⟨(.kTextMessage, message), rfl, rfl⟩,
      .received buffer timeout (.kTextMessage, message) returned⟩
  | kRecvBinary =>
    exact ⟨_, .inl ⟨(.kBinaryMessage, message), rfl, rfl⟩,
      .received buffer timeout (.kBinaryMessage, message) returned⟩
  | kRecvError => exact ⟨_, .inr ⟨rfl, rfl⟩, .nothing buffer timeout _ message returned rfl⟩
  | kRecvClosed => exact ⟨_, .inr ⟨rfl, rfl⟩, .nothing buffer timeout _ message returned rfl⟩
  | kRecvTimeOut => exact ⟨_, .inr ⟨rfl, rfl⟩, .nothing buffer timeout _ message returned rfl⟩

/-- The answer of a receive call goes to the listener if it has a message. -/
theorem handleRecvStatus_talks {start : WebSocketServer WebSocket Surroundings τ}
    (distinct : start.addresses.Nodup) {index address : Nat}
    (there : start.addresses[index]? = some address) {status : RecvStatus} {report : Report}
    (answered : Answered (status, server.message) report)
    (talked : Talked start [(address, report)] server) (same : server.listener = start.listener) :
    (handleRecvStatus (webSocketPlatform sha1) listener index address status).Ensures server
      (fun _ after => ∃ talk, Listened listener start.listener talk after.listener ∧
        Talked start talk after)
      fun _ _ => False := by
  have distinct' : server.addresses.Nodup := talked.addresses ▸ distinct
  have there' : server.addresses[index]? = some address := talked.addresses ▸ there
  rcases answered with ⟨message, answer, rfl⟩ | ⟨nothing, rfl⟩
  · -- The listener is called with the message, whose type is that of the status.
    obtain ⟨type, bytes⟩ := message
    obtain ⟨rfl, rfl⟩ : status = type.status ∧ server.message = bytes := Prod.mk.inj answer
    have heard : (onmessage (webSocketPlatform sha1) listener index address type).Ensures server
        (fun _ after => ∃ talk, Listened listener start.listener talk after.listener ∧
          Talked start talk after) fun _ _ => False := by
      refine (Program.yields_get server).bind_ensures ?_
      refine (Program.yields_update _ server).bind_ensures ?_
      let now := server.logged [.heard address server.message type]
      have noted : Talked server [] now := .of_links rfl rfl
      have distinct'' : now.addresses.Nodup := distinct'
      refine (react_talks distinct'' there' _).mono ?_ fun _ _ impossible => impossible
      rintro _ after ⟨talk, reacted, talked'⟩
      rw [same] at reacted
      have answers : Listened listener start.listener
          ((address, .received (type, server.message)) :: (talk ++ [])) after.listener :=
        .heard reacted (.stop after.listener)
      rw [List.append_nil] at answers
      exact ⟨_, answers, talked.trans (noted.trans talked')⟩
    cases type with
    | kTextMessage => exact heard
    | kBinaryMessage => exact heard
  · have silent : Listened listener start.listener [(address, .quiet)] server.listener :=
      same ▸ .quiet address (.stop _)
    cases status with
    | kRecvText => cases nothing
    | kRecvBinary => cases nothing
    -- A failed receive closes the link, which is not told to the listener.
    | kRecvError =>
      refine (close_talks distinct' there' kCloseInternalError).mono ?_ fun _ _ impossible => impossible
      rintro _ after ⟨closed, same'⟩
      refine ⟨_, silent.append ?_, talked.trans closed⟩
      rw [same']
      exact .quiet address (.stop _)
    | kRecvClosed => exact Program.ensures_pure ⟨_, silent, talked⟩
    | kRecvTimeOut => exact Program.ensures_pure ⟨_, silent, talked⟩

/-- A round of handling messages is the turn of the link at its index. -/
theorem handleNewMessagesRound_talks (distinct : server.addresses.Nodup) (index : Nat) :
    (handleNewMessagesRound (webSocketPlatform sha1) listener index).Ensures server
      (fun _ after => ∃ talk, Listened listener server.listener talk after.listener ∧
        Talked server talk after)
      fun _ _ => False := by
  refine (Program.yields_get server).bind_ensures ?_
  split
  · exact Program.ensures_pure ⟨[], .stop _, .of_links rfl rfl⟩
  · rename_i link present
    let now := server.logged [.turn link.address ((webSocketPlatform sha1).isConnected link.ws)]
    -- That the link has its turn is noted in the log alone.
    have noted : Talked server [] now := .of_links rfl rfl
    refine (Program.yields_update _ server).bind_ensures ?_
    split
    · suffices turn : (handleNewMessagesAt (webSocketPlatform sha1) listener index link).Ensures now
          (fun _ after => ∃ talk, Listened listener server.listener talk after.listener ∧
            Talked server talk after) fun _ _ => False by
        exact turn.bind fun _ _ spoken => Program.ensures_pure spoken
      have distinct' : now.addresses.Nodup := distinct
      refine (Program.yields_get now).bind_ensures ?_
      refine (onLink_talks ((webSocketPlatform_quiet sha1).recv server.message) distinct' present
        Answered fun _ _ returned => says_received returned).bind ?_
      rintro ⟨status, message⟩ mid ⟨report, answered, talked, same⟩
      -- The message is put into the buffer of the server, and the answer is noted.
      refine (Program.yields_update _ mid).bind_ensures ?_
      refine (Program.yields_update _ _).bind_ensures ?_
      refine handleRecvStatus_talks distinct (address_at present) answered ?_ same
      exact (noted.trans talked).before rfl rfl
    · exact Program.ensures_pure ⟨[], .stop _, .of_links rfl rfl⟩

/-- All links have their turns, each in its part of the talk. -/
theorem handleNewMessages_talks (distinct : server.addresses.Nodup) :
    (handleNewMessages (webSocketPlatform sha1) listener).Ensures server
      (fun _ after => ∃ talk, Listened listener server.listener talk after.listener ∧
        Talked server talk after)
      fun _ _ => False := by
  -- Each round adds to the talk what its link says, and the listener goes on from there.
  refine Program.Ensures.iterate (fun _ now => ∃ talk,
    Listened listener server.listener talk now.listener ∧ Talked server talk now)
    ⟨[], .stop _, .of_links rfl rfl⟩ ?_
  rintro index now ⟨talk, listened, talked⟩
  have distinct' : now.addresses.Nodup := talked.addresses ▸ distinct
  refine (handleNewMessagesRound_talks distinct' index).mono ?_ fun _ _ impossible => impossible
  rintro turn after ⟨talk', listened', talked'⟩
  have spoken : ∃ talk, Listened listener server.listener talk after.listener ∧
      Talked server talk after := ⟨talk ++ talk', listened.append listened', talked.trans talked'⟩
  cases turn with
  | inl next => exact spoken
  | inr done => exact spoken

end Turns

end WebSocketServer

end Rcom
