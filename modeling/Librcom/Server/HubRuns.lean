import Librcom.Server.Talks
import Librcom.WebSocket.Delivery
import Mathlib.Data.Finset.Card
import Mathlib.Data.Finset.Range

/-! Whole runs of a hub: what its listener hears and what its clients hear, whatever goes wrong on links. -/

namespace Rcom

open Effects

/-- A WebSocket that was just made of a connection, and has shaken hands. -/
def Opened (sha1 : Sha1) (ws : WebSocket) : Prop :=
  ∃ world world', (newServerSideWebSocket sha1).Yields world ws world'

namespace WebSocketServer

variable {τ : Type} {sha1 : Sha1} {listener : Listener τ}

/-- What becomes of a link: it holds a dialogue, and leaves the table only when it is disconnected. -/
structure Fares (after : WebSocketServer WebSocket Surroundings τ) (address : Nat) (ws : WebSocket)
    (reports : List Report) (ws' : WebSocket) : Prop where
  dialogue : Dialogue .server ws reports ws'
  ends : after.linkAt address = some ws' ∨
    after.linkAt address = none ∧ ws'.socket.connected = false

/-- What becomes of all the links that a server has in a run, and of those that it opens. -/
structure Ran (sha1 : Sha1) (server : WebSocketServer WebSocket Surroundings τ) (talk : Talk)
    (after : WebSocketServer WebSocket Surroundings τ) : Prop where
  wellFormed : after.WellFormed
  grown : server.nextAddress ≤ after.nextAddress
  kept : ∀ address ws, server.linkAt address = some ws →
    ∃ ws', Fares after address ws (part address talk) ws'
  opened : ∀ address, server.nextAddress ≤ address → address < after.nextAddress →
    ∃ ws ws', Opened sha1 ws ∧ Fares after address ws (part address talk) ws'
  silent : ∀ address, server.linkAt address = none →
    address < server.nextAddress ∨ after.nextAddress ≤ address →
    part address talk = [] ∧ after.linkAt address = none

section Steps

variable {server mid after : WebSocketServer WebSocket Surroundings τ} {talk later : Talk}

/-- The address of a link is one that was given. -/
theorem WellFormed.below (wellFormed : server.WellFormed) {address : Nat} {ws : WebSocket}
    (there : server.linkAt address = some ws) : address < server.nextAddress := by
  apply wellFormed.known
  by_contra absent
  rw [linkAt_eq_none.mpr absent] at there
  cases there

/-- The addresses of the links that a server has. -/
def present (server : WebSocketServer WebSocket Surroundings τ) : Finset Nat :=
  (Finset.range server.nextAddress).filter fun address => (server.linkAt address).isSome

/-- The addresses of the table are the addresses of the links that are there. -/
theorem WellFormed.present_eq (wellFormed : server.WellFormed) :
    server.present = server.addresses.toFinset := by
  ext address
  rw [present, Finset.mem_filter, Finset.mem_range, List.mem_toFinset]
  constructor
  · rintro ⟨-, there⟩
    by_contra absent
    rw [linkAt_eq_none.mpr absent] at there
    cases there
  · -- An address in the table was given out, since the server is well formed.
    intro member
    refine ⟨wellFormed.known address member, Option.isSome_iff_ne_none.mpr fun absent => ?_⟩
    exact linkAt_eq_none.mp absent member

/-- The count of links is the number of those that are there, as each has an address of its own. -/
theorem WellFormed.countLinks_yields (wellFormed : server.WellFormed) :
    MessageHub.countLinks.Yields server server.present.card server := by
  have count : server.present.card = server.links.length := by
    rw [wellFormed.present_eq, List.toFinset_card_of_nodup wellFormed.distinct]
    exact List.length_map _
  rw [count]
  exact ⟨0, rfl⟩

/-- A link that fared in the first part of a run fares on in the second. -/
theorem Fares.next {address : Nat} {ws mid_ws : WebSocket} {reports : List Report}
    (first : Fares mid address ws reports mid_ws) (second : Ran sha1 mid later after)
    (known : address < mid.nextAddress) :
    ∃ ws', Fares after address ws (reports ++ part address later) ws' := by
  rcases first.ends with there | ⟨gone, disconnected⟩
  · obtain ⟨ws', fares⟩ := second.kept address mid_ws there
    exact ⟨ws', first.dialogue.append fares.dialogue, fares.ends⟩
  · -- A link that is gone stays so, and no other link gets its address.
    obtain ⟨none, absent⟩ := second.silent address gone (.inl known)
    refine ⟨mid_ws, ?_, .inr ⟨absent, disconnected⟩⟩
    rw [none, List.append_nil]
    exact first.dialogue

/-- Two runs in a row are one. -/
theorem Ran.trans (wellFormed : server.WellFormed) (first : Ran sha1 server talk mid)
    (second : Ran sha1 mid later after) : Ran sha1 server (talk ++ later) after where
  wellFormed := second.wellFormed
  grown := first.grown.trans second.grown
  kept address ws there := by
    obtain ⟨mid_ws, fares⟩ := first.kept address ws there
    -- The link was there before the first part, and so it is none that the second has opened.
    have below := wellFormed.below there
    have grown := first.grown
    rw [part_append]
    exact fares.next second (by omega)
  opened address new below := by
    rw [part_append]
    by_cases early : address < mid.nextAddress
    · obtain ⟨ws, mid_ws, made, fares⟩ := first.opened address new early
      obtain ⟨ws', whole⟩ := fares.next second early
      exact ⟨ws, ws', made, whole⟩
    · -- A link that is opened later has said nothing before.
      have absent : server.linkAt address = none := by
        by_contra present
        obtain ⟨ws, there⟩ := Option.ne_none_iff_exists'.mp present
        have below := wellFormed.below there
        omega
      obtain ⟨none, _⟩ := first.silent address absent (.inr (by omega))
      rw [none, List.nil_append]
      exact second.opened address (by omega) below
  silent address absent outside := by
    have grown := first.grown
    have grown' := second.grown
    obtain ⟨none, absent'⟩ := first.silent address absent (outside.imp_right fun after => by omega)
    obtain ⟨none', absent''⟩ := second.silent address absent' (outside.imp_left fun before => by omega)
    rw [part_append, none, none', List.append_nil]
    exact ⟨rfl, absent''⟩

/-- While the table keeps its links, a talk over them is a run. -/
theorem Ran.of_talked (wellFormed : server.WellFormed) (talked : Talked server talk after) :
    Ran sha1 server talk after where
  wellFormed := by
    refine ⟨talked.addresses ▸ wellFormed.distinct, ?_⟩
    rw [talked.addresses, talked.nextAddress]
    exact wellFormed.known
  grown := Nat.le_of_eq talked.nextAddress.symm
  kept address ws there := by
    have member := (linkAt_eq_some wellFormed.distinct).mp there
    obtain ⟨index, present⟩ := List.mem_iff_getElem?.mp member
    obtain ⟨ws', found, dialogue⟩ := talked.dialogues index _ present
    have distinct : after.addresses.Nodup := talked.addresses ▸ wellFormed.distinct
    -- The link is still in the table, where it was.
    refine ⟨ws', dialogue, .inl ?_⟩
    exact (linkAt_eq_some distinct).mpr (List.mem_of_getElem? found)
  -- No address is given in a talk, and none is taken away.
  opened address new below := by
    rw [talked.nextAddress] at below
    omega
  silent address absent _ := by
    have unknown : address ∉ server.addresses := linkAt_eq_none.mp absent
    refine ⟨talked.silent address unknown, linkAt_eq_none.mpr ?_⟩
    rw [talked.addresses]
    exact unknown

/-- A server that admits connections has a link for each address that it gives. -/
theorem Admits.opened (admits : Admits (webSocketPlatform sha1) server after) {address : Nat}
    (new : server.nextAddress ≤ address) (below : address < after.nextAddress) :
    ∃ ws, ⟨address, ws⟩ ∈ after.links ∧ Opened sha1 ws := by
  induction admits with
  | @finished server sockfd world accepted none =>
    have none : address < server.nextAddress := below
    omega
  | @admitted server after sockfd ws world world' accepted valid made rest ih =>
    by_cases first : address = server.nextAddress
    · -- The link is put behind the others, and the links that come later go behind it.
      obtain ⟨links, _, _, _, _, _, form⟩ := rest.framed
      refine ⟨ws, ?_, world, world', made⟩
      rw [form, first]
      simp [WebSocketServer.admitted]
    · have later : (server.admitted sockfd ws world').nextAddress ≤ address := by
        show server.nextAddress + 1 ≤ address
        omega
      exact ih later below
  | refused accepted valid failed rest ih => exact ih new below

/-- To admit connections is a run in which nothing is said. -/
theorem Ran.of_admits (wellFormed : server.WellFormed)
    (admits : Admits (webSocketPlatform sha1) server after) : Ran sha1 server [] after := by
  have sound := admits.wellFormed wellFormed
  obtain ⟨links, accepted, _, between, _, grown, form⟩ := admits.framed
  have table : after.links = server.links ++ links := by rw [form]
  refine ⟨sound, grown, ?_, ?_, ?_⟩
  · intro address ws there
    have member := (linkAt_eq_some wellFormed.distinct).mp there
    -- An old link has said nothing yet.
    refine ⟨ws, .stop ws, .inl ((linkAt_eq_some sound.distinct).mpr ?_)⟩
    rw [table]
    exact List.mem_append_left _ member
  · intro address new below
    obtain ⟨ws, member, made⟩ := admits.opened new below
    exact ⟨ws, ws, made, .stop ws, .inl ((linkAt_eq_some sound.distinct).mpr member)⟩
  · -- An address that is neither an old nor a new one is not in the table.
    intro address absent outside
    refine ⟨rfl, linkAt_eq_none.mpr fun member => ?_⟩
    have known := sound.known address member
    rw [addresses, table, List.map_append] at member
    rcases List.mem_append.mp member with old | new
    · exact linkAt_eq_none.mp absent old
    · have bounds := between address new
      omega

/-- The sweep is a run in which nothing is said, and leaves out the links that are disconnected. -/
theorem Ran.of_sweep (wellFormed : server.WellFormed) (world : Surroundings) :
    Ran sha1 server [] { server with
      links := server.links.filter fun link => (webSocketPlatform sha1).isConnected link.ws
      world := world } := by
  have swept (address : Nat) :=
    linkAt_swept (p := address) (webSocketPlatform sha1) wellFormed.distinct world
  refine ⟨⟨?_, ?_⟩, Nat.le_refl _, ?_, ?_, ?_⟩
  · exact wellFormed.distinct.sublist (List.filter_sublist.map _)
  · intro address member
    exact wellFormed.known address ((List.filter_sublist.map _).subset member)
  · intro address ws there
    refine ⟨ws, .stop ws, ?_⟩
    rw [swept, there]
    -- A link that is disconnected is left out, and any other stays.
    cases connected : ws.socket.connected with
    | true => exact .inl (by simp [webSocketPlatform, connected])
    | false => exact .inr ⟨by simp [webSocketPlatform, connected], rfl⟩
  · intro address new below
    have impossible : address < server.nextAddress := below
    omega
  · -- What was not in the table is not there after the sweep.
    intro address absent _
    rw [swept, absent]
    exact ⟨rfl, rfl⟩

end Steps

section Runs

variable {server after : WebSocketServer WebSocket Surroundings τ}

/-- Handling events is a run, whose messages go to the listener. -/
theorem handleEvents_ran (wellFormed : server.WellFormed) :
    (handleEvents (webSocketPlatform sha1) listener).Ensures server
      (fun _ after => ∃ talk, Listened listener server.listener talk after.listener ∧
        Ran sha1 server talk after)
      fun _ _ => False := by
  have quiet := webSocketPlatform_quiet sha1
  refine (handleNewConnections_admits quiet server).bind ?_
  intro _ opened admits
  have sound := admits.wellFormed wellFormed
  have same : opened.listener = server.listener := by
    obtain ⟨_, _, _, _, _, _, form⟩ := admits.framed
    rw [form]
  refine (handleNewMessages_talks sound.distinct).bind ?_
  rintro _ served ⟨talk, listened, talked⟩
  have ran : Ran sha1 opened talk served := .of_talked sound talked
  -- The sweep destroys the links that are disconnected, and hears nothing.
  refine (removeClosedLinks_meets quiet served).toEnsures.mono ?_ fun _ _ impossible => impossible
  rintro _ after ⟨world, _, rfl⟩
  refine ⟨talk, same ▸ listened, ?_⟩
  -- The links are admitted, have their turns, and are swept.
  have whole := (Ran.of_admits wellFormed admits).trans wellFormed
    (ran.trans sound (.of_sweep ran.wellFormed world))
  simpa using whole

/-- Every call of the application is a run, and so are any number of calls. -/
theorem performAll_ran (wellFormed : server.WellFormed) (calls : List HubCall) :
    (MessageHub.performAll (webSocketPlatform sha1) listener calls).Ensures server
      (fun _ after => ∃ talk, Hosted listener server.listener calls talk after.listener ∧
        Ran sha1 server talk after)
      fun _ _ => False := by
  induction calls generalizing server with
  | nil =>
    exact Program.ensures_pure ⟨[], .stop _, .of_talked wellFormed (.of_links rfl rfl)⟩
  | cons call calls ih =>
    cases call with
    | handleEvents =>
      -- The calls behind start from the links that are left.
      refine (handleEvents_ran wellFormed).bind ?_
      rintro _ mid ⟨talk, listened, ran⟩
      refine (ih ran.wellFormed).mono ?_ fun _ _ impossible => impossible
      rintro _ after ⟨later, hosted, ran'⟩
      exact ⟨talk ++ later, .handleEvents listened hosted, ran.trans wellFormed ran'⟩
    | broadcast message type exclude =>
      -- A broadcast leaves the table and the listener, whatever the links say to it.
      refine (broadcast_talks wellFormed.distinct message type exclude).bind ?_
      rintro _ mid ⟨talk, spread, talked, same⟩
      have ran : Ran sha1 server talk mid := .of_talked wellFormed talked
      refine (ih ran.wellFormed).mono ?_ fun _ _ impossible => impossible
      rintro _ after ⟨later, hosted, ran'⟩
      rw [same] at hosted
      exact ⟨talk ++ later, .broadcast spread hosted, ran.trans wellFormed ran'⟩

end Runs

section Delivery

/-- A client at the other end of a link, over a dialogue that it holds itself. -/
structure Attached (client : WebSocket) (reports : List Report) (client' ws ws' : WebSocket) :
    Prop where
  dialogue : Dialogue .client client reports client'
  up : wire client.socket.passed ++ ws.socket.incoming <+: wire client'.socket.passed
  down : wire ws.socket.passed ++ client.socket.incoming <+: wire ws'.socket.passed
  fresh : client.Fresh ∧ ws.Fresh
  sleeps : client.SleepsSucceed ∧ ws.SleepsSucceed
  pinged : client.PingedOrdinarily ∧ ws.PingedOrdinarily
  ordinary : Ordinary reports

/--
What a client sends is said over its link in a run, and what is sent over the link is received by the client.

Either side receives the first of the messages that the other sent, in order, and all of them if nothing is lost.
-/
def Delivers (ws : WebSocket) (said : List Report) (ws' : WebSocket) : Prop :=
  ∀ client reports client', Attached client reports client' ws ws' →
    (∃ late missing, Carried reports said late missing ∧
      (NothingLost client client' ws ws' → missing = [] ∧ late = [])) ∧
    (Ordinary said → ∃ late missing, Carried said reports late missing ∧
      (NothingLost ws ws' client client' → missing = [] ∧ late = []))

variable {after : WebSocketServer WebSocket Surroundings τ} {address : Nat} {ws ws' : WebSocket}
  {reports : List Report}

/-- The dialogue that a link holds is one half of what goes over it. -/
theorem Fares.delivers (fares : Fares after address ws reports ws') : Delivers ws reports ws' := by
  intro client reports' client' attached
  obtain ⟨fresh, fresh'⟩ := attached.fresh
  obtain ⟨sleeps, sleeps'⟩ := attached.sleeps
  obtain ⟨pinged, pinged'⟩ := attached.pinged
  have listens : Dialogue (Side.opposite .client) ws reports ws' := fares.dialogue
  have listens' : Dialogue (Side.opposite .server) client reports' client' := attached.dialogue
  -- Each end is the sender of one direction and the receiver of the other.
  constructor
  · exact attached.dialogue.carries listens fresh' sleeps sleeps' attached.ordinary pinged attached.up
  · intro ordinary
    exact fares.dialogue.carries listens' fresh sleeps' sleeps ordinary pinged' attached.down

end Delivery

/--
Over any calls of the application on its hub, each link carries messages both ways in their order.

What the listener hears of a link is what is received over it, whatever the listener does about it and whatever
comes over other links. This is so for the links of the table and for all that are opened later, and a link is
dropped only when it is disconnected. The links that are left are counted once each.
-/
theorem hub_delivers (sha1 : Sha1) (listener : Listener τ)
    {server after : WebSocketServer WebSocket Surroundings τ} (wellFormed : server.WellFormed)
    (calls : List HubCall)
    (returned : (MessageHub.performAll (webSocketPlatform sha1) listener calls).Yields server ()
      after) :
    ∃ talk, Hosted listener server.listener calls talk after.listener ∧
      (∀ address ws, server.linkAt address = some ws → ∃ ws',
        Fares after address ws (part address talk) ws' ∧ Delivers ws (part address talk) ws') ∧
      (∀ address, server.nextAddress ≤ address → address < after.nextAddress → ∃ ws ws',
        Opened sha1 ws ∧ Fares after address ws (part address talk) ws' ∧
        Delivers ws (part address talk) ws') ∧
      (∀ address, server.linkAt address = none →
        address < server.nextAddress ∨ after.nextAddress ≤ address → part address talk = []) ∧
      MessageHub.countLinks.Yields after after.present.card after := by
  -- The run says what becomes of each link, and each link delivers what is said over it.
  obtain ⟨talk, hosted, ran⟩ := (performAll_ran wellFormed calls).yields returned
  refine ⟨talk, hosted, ?_, ?_, ?_, ran.wellFormed.countLinks_yields⟩
  · intro address ws there
    obtain ⟨ws', fares⟩ := ran.kept address ws there
    exact ⟨ws', fares, fares.delivers⟩
  · intro address new below
    obtain ⟨ws, ws', made, fares⟩ := ran.opened address new below
    exact ⟨ws, ws', made, fares, fares.delivers⟩
  · intro address absent outside
    exact (ran.silent address absent outside).1

/-- A listener that sends back what it hears. -/
def echoing : Listener Unit := fun _ _ message type => .send message type fun _ => .done () message

/-- A client that has said hi. -/
def greeter : WebSocket := (Rcom.send .client [104, 105] .kTextMessage).after 9 (.steady [])

/-- A server with one link, whose client has said hi. -/
def greeted : WebSocketServer WebSocket Surroundings Unit where
  links := [⟨0, .running (wire greeter.socket.passed)⟩]
  message := []
  listener := ()
  world := .calm
  nextAddress := 1
  log := []

/-- The hub of that server hears what its client said, and its own broadcast does not come in between. -/
theorem hub_delivers_greeted :
    ∃ after talk, (MessageHub.performAll (webSocketPlatform plainSha1) echoing
        [.handleEvents, .broadcast [104] .kTextMessage none]).Yields greeted () after ∧
      Hosted echoing () [.handleEvents, .broadcast [104] .kTextMessage none] talk after.listener ∧
      (∃ late missing, Carried [.sent (.kTextMessage, [104, 105])] (part 0 talk) late missing) ∧
      MessageHub.countLinks.Yields after 1 after := by
  have returned := Program.yields_after (show ((MessageHub.performAll (webSocketPlatform plainSha1) echoing
    [.handleEvents, .broadcast [104] .kTextMessage none]).run 12 greeted).value? = some () by rfl)
  have sound : greeted.WellFormed := ⟨by decide, by decide⟩
  have sent : (Rcom.send .client [104, 105] .kTextMessage).Yields (.steady []) true greeter :=
    Program.yields_after (by decide +kernel)
  obtain ⟨talk, hosted, there, -, -, counted⟩ :=
    hub_delivers plainSha1 echoing sound [.handleEvents, .broadcast [104] .kTextMessage none] returned
  obtain ⟨ws', -, delivers⟩ := there 0 (.running (wire greeter.socket.passed)) rfl
  refine ⟨_, talk, returned, hosted, ?_, counted⟩
  -- The client has sent one message of two bytes, over a link on which nothing fails.
  have ordinary : Ordinary [.sent (.kTextMessage, [104, 105])] := by
    intro message offered
    have same : message = (.kTextMessage, [104, 105]) := by simpa using offered
    rw [same]
    decide
  have pinged : (WebSocket.running (wire greeter.socket.passed)).PingedOrdinarily :=
    pingedOrdinarily_of_few (by decide +kernel)
  obtain ⟨⟨late, missing, carried, -⟩, -⟩ := delivers (.steady []) _ greeter {
    dialogue := .call (.sent (.kTextMessage, [104, 105]) sent) (.stop greeter)
    up := List.prefix_rfl
    down := List.nil_prefix
    fresh := ⟨fun _ => rfl, fun _ => rfl⟩
    sleeps := ⟨fun _ => rfl, fun _ => rfl⟩
    pinged := ⟨pingedOrdinarily_of_few (by decide), pinged⟩
    ordinary := ordinary }
  exact ⟨late, missing, carried⟩

end WebSocketServer

end Rcom
