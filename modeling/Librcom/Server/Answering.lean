import Librcom.Server.HubRuns

/-! Listeners that reply to every message over its link, and how the requests of clients fare with them. -/

namespace Rcom

open Effects

/-- What is made of a message: the replies, and the state that it leaves. -/
abbrev Handler (τ : Type) := τ → Message → List Message × τ

section Handlers

variable {τ : Type} (handler : Handler τ)

/-- The listener that sends the replies over the link of the message, whatever becomes of them. -/
def answering : Listener τ := fun state _ message type =>
  let (replies, after) := handler state (type, message)
  replies.foldr (fun reply next => .send reply.2 reply.1 fun _ => next) (.done after message)

/-- Every message has one reply. -/
def Handler.Single : Prop := ∀ state message, ∃ reply, (handler state message).1 = [reply]

/-- The state after some messages. -/
def Handler.after (state : τ) (messages : List Message) : τ :=
  messages.foldl (fun state message => (handler state message).2) state

/-- The reply is the one to a request among some messages, in the state that those before it left. -/
def Handler.Replied (state : τ) (messages : List Message) (request reply : Message) : Prop :=
  ∃ earlier, earlier ++ [request] <+: messages ∧ (handler (handler.after state earlier) request).1 = [reply]

end Handlers

/-- The messages that were received over links, in their order. -/
def heardIn (talk : Talk) : List (Nat × Message) :=
  choose (fun | .received message => some message | _ => none) talk

/-- The same, whatever the links were. -/
def messagesIn (talk : Talk) : List Message := (heardIn talk).map Prod.snd

section Hearing

variable {talk later : Talk}

/-- What is heard in two talks is heard in each. -/
@[simp] theorem heardIn_append : heardIn (talk ++ later) = heardIn talk ++ heardIn later :=
  choose_append _ _

/-- The messages of two talks are those of each. -/
@[simp] theorem messagesIn_append : messagesIn (talk ++ later) = messagesIn talk ++ messagesIn later := by
  simp [messagesIn]

/-- A broadcast brings in nothing. -/
theorem messagesIn_spread {message : Message} {exclude : Option Nat} (spread : Spread message exclude talk) :
    messagesIn talk = [] := by
  induction spread with
  | done => rfl
  | sent before included ih =>
    rw [messagesIn_append, ih]
    rfl
  | closed before included ih =>
    rw [messagesIn_append, ih]
    rfl

/-- Of a message and its reply, the message is all that is heard. -/
theorem messagesIn_answered (owner : Nat) (message reply : Message) (sent : Bool) (talk : Talk) :
    messagesIn ((owner, .received message) :: ([(owner, sendReport reply.2 reply.1 sent)] ++ talk)) =
      message :: messagesIn talk := by
  cases sent with
  | true => rfl
  | false => rfl

end Hearing

section Attending

variable {τ : Type} {handler : Handler τ} {state after : τ} {talk : Talk}

/-- A reply to a request is one, too, when another message came before. -/
theorem Handler.Replied.behind {message request reply : Message} {messages : List Message}
    (replied : handler.Replied (handler state message).2 messages request reply) :
    handler.Replied state (message :: messages) request reply := by
  obtain ⟨earlier, among, answered⟩ := replied
  exact ⟨message :: earlier, (List.prefix_cons_inj message).mpr among, answered⟩

/-- The reaction to a message sends its one reply. -/
theorem reacted_answering (single : handler.Single) {message : Message} {address : Nat} {answer : Talk}
    (reacted : Reacted address (answering handler state address message.2 message.1) answer after) :
    ∃ reply sent, (handler state message).1 = [reply] ∧
      answer = [(address, sendReport reply.2 reply.1 sent)] ∧ after = (handler state message).2 := by
  obtain ⟨reply, only⟩ := single state message
  unfold answering at reacted
  rw [show (message.1, message.2) = message from rfl] at reacted
  simp only [only, List.foldr_cons, List.foldr_nil] at reacted
  -- The reaction is one send call, after which the listener returns.
  cases reacted with
  | send sent rest =>
    cases rest
    exact ⟨reply, sent, only, rfl, rfl⟩

/-- What was made of the messages in a talk: each was handled once, and had one reply. -/
structure Attended (handler : Handler τ) (state : τ) (talk : Talk) (after : τ) : Prop where
  handled : after = handler.after state (messagesIn talk)
  replies : ∀ address, List.Forall₂ (handler.Replied state (messagesIn talk))
    (receivedIn (part address talk)) (offeredIn (part address talk))

/-- Whatever comes over the links, each message is handled once, in order, and replied to over its link. -/
theorem Listened.attended (single : handler.Single)
    (listened : Listened (answering handler) state talk after) : Attended handler state talk after := by
  induction listened with
  | stop state => exact ⟨rfl, fun _ => .nil⟩
  | @quiet state after talk owner rest ih =>
    -- Nothing is heard, so that both lists are what they were.
    refine ⟨ih.handled, fun address => ?_⟩
    by_cases own : owner = address
    · subst own
      rw [part_cons_self]
      exact ih.replies owner
    · rw [part_cons_other own]
      exact ih.replies address
  | @heard state mid after owner message answer talk reacted rest ih =>
    obtain ⟨reply, sent, only, rfl, rfl⟩ := reacted_answering single reacted
    have messages := messagesIn_answered owner message reply sent talk
    refine ⟨by rw [messages]; exact ih.handled, fun address => ?_⟩
    rw [messages]
    -- The replies behind this one are in place, with this message in front.
    have later := (ih.replies address).imp fun _ _ replied => replied.behind
    by_cases own : owner = address
    · subst own
      rw [part_cons_self, List.singleton_append, part_cons_self]
      have first : handler.Replied state (message :: messagesIn talk) message reply :=
        ⟨[], (List.prefix_cons_inj message).mpr List.nil_prefix, only⟩
      cases sent with
      | true => exact .cons first later
      | false => exact .cons first later
    · rw [part_cons_other own, List.singleton_append, part_cons_other own]
      exact later

variable {calls : List HubCall}

/-- Whatever the application calls on its hub, what is handled are the messages of the links. -/
theorem Hosted.handled (single : handler.Single)
    (hosted : Hosted (answering handler) state calls talk after) :
    after = handler.after state (messagesIn talk) := by
  induction hosted with
  | stop state => rfl
  | handleEvents first rest ih =>
    rw [ih, (first.attended single).handled, messagesIn_append, Handler.after, Handler.after,
      Handler.after, List.foldl_append]
  | broadcast first rest ih => rw [ih, messagesIn_append, messagesIn_spread first, List.nil_append]

/-- A hub that never broadcasts only listens. -/
theorem Hosted.listened {listener : Listener τ} (quiet : ∀ call ∈ calls, call = .handleEvents)
    (hosted : Hosted listener state calls talk after) : Listened listener state talk after := by
  induction hosted with
  | stop state => exact .stop state
  | handleEvents first rest ih =>
    exact first.append (ih fun call later => quiet call (List.mem_cons_of_mem _ later))
  | broadcast first rest ih => cases quiet _ List.mem_cons_self

end Attending

/-- When every send call succeeds, all that is offered is sent. -/
theorem sentIn_of_taken {reports : List Report} (taken : ∀ message, .unsent message ∉ reports) :
    sentIn reports = offeredIn reports := by
  apply List.filterMap_congr
  intro report member
  cases report with
  | unsent message => exact absurd member (taken message)
  | _ => rfl

/--
How the requests of a client at the other end of a link fare, by how a request is replied to.

The first of the messages that it sent are heard, in order. Unless the application broadcasts itself, each of them is
replied to, and what the client receives are such replies, in order, and all of them if nothing is lost.
-/
structure Fulfilled (replied : Message → Message → Prop) (said : List Report) (quiet : Prop)
    (ws ws' client : WebSocket) (reports : List Report) (client' : WebSocket) : Prop where
  requests : ∃ late missing, Carried reports said late missing ∧
    (NothingLost client client' ws ws' → missing = [] ∧ late = [])
  replies : quiet → Ordinary said → ∃ replies, List.Forall₂ replied (receivedIn said) replies ∧
    (receivedIn reports).Sublist replies ∧
    (NothingLost ws ws' client client' → (∀ message, .unsent message ∉ said) →
      receivedIn reports = replies)

namespace WebSocketServer

variable {τ : Type} {handler : Handler τ}

/-- The link fares as it does, and so do the requests of any client at its other end. -/
def Fulfills (replied : Message → Message → Prop) (talk : Talk) (calls : List HubCall)
    (after : WebSocketServer WebSocket Surroundings τ) (address : Nat) (ws : WebSocket) : Prop :=
  ∃ ws', Fares after address ws (part address talk) ws' ∧
    ∀ client reports client', Attached client reports client' ws ws' →
      Fulfilled replied (part address talk) (∀ call ∈ calls, call = .handleEvents) ws ws' client reports
        client'

variable {sha1 : Sha1} {server after : WebSocketServer WebSocket Surroundings τ} {calls : List HubCall}
  {talk : Talk}

/-- What is known of replies is known of those that clients receive. -/
theorem Fulfills.imp {replied replied' : Message → Message → Prop} {address : Nat} {ws : WebSocket}
    (fulfills : Fulfills replied talk calls after address ws)
    (known : ∀ request reply, replied request reply → replied' request reply) :
    Fulfills replied' talk calls after address ws := by
  obtain ⟨ws', fares, fulfilled⟩ := fulfills
  refine ⟨ws', fares, fun client reports client' attached => ?_⟩
  have held := fulfilled client reports client' attached
  refine ⟨held.requests, fun quiet ordinary => ?_⟩
  obtain ⟨replies, paired, received⟩ := held.replies quiet ordinary
  exact ⟨replies, paired.imp known, received⟩

/-- A link that holds a dialogue fulfills the requests that come over it. -/
theorem Fares.fulfills (single : handler.Single) {state last : τ}
    (hosted : Hosted (answering handler) state calls talk last) {address : Nat} {ws ws' : WebSocket}
    (fares : Fares after address ws (part address talk) ws') :
    Fulfills (handler.Replied state (messagesIn talk)) talk calls after address ws := by
  refine ⟨ws', fares, fun client reports client' attached => ?_⟩
  obtain ⟨up, down⟩ := fares.delivers client reports client' attached
  refine ⟨up, fun quiet ordinary => ?_⟩
  -- What the client receives was sent over its link, and that are the replies.
  obtain ⟨late, missing, carried, complete⟩ := down ordinary
  have attended := (hosted.listened quiet).attended single
  refine ⟨offeredIn (part address talk), attended.replies address, ?_, ?_⟩
  · have first : receivedIn reports <+: sentIn (part address talk) ++ late := ⟨missing, carried.total⟩
    exact first.sublist.trans carried.ordered
  · intro nothingLost taken
    obtain ⟨noneMissing, noneLate⟩ := complete nothingLost
    have total := carried.total
    rw [noneMissing, noneLate, List.append_nil, List.append_nil] at total
    exact total.trans (sentIn_of_taken taken)

end WebSocketServer

end Rcom
