import Librcom.Server.Admission

/-! The table of links over a call that handles events, and the turns the links have in it. -/

namespace Rcom

open Effects

/-- The turn of a link: what `recv` answered, unless the link was disconnected. -/
structure LinkTurn where
  link : Nat
  answer : Option (RecvStatus × Bytes)
  deriving DecidableEq, Repr

/-- The call of the listener that an answer asks for. -/
def heardEntries (link : Nat) : RecvStatus → Bytes → List Entry
  | .kRecvText, message => [.heard link message .kTextMessage]
  | .kRecvBinary, message => [.heard link message .kBinaryMessage]
  | .kRecvError, _ => []
  | .kRecvClosed, _ => []
  | .kRecvTimeOut, _ => []

/-- What is seen of a turn: one `recv` on a connected link, and one `onmessage` for a message. -/
def LinkTurn.entries (turn : LinkTurn) : List Entry :=
  match turn.answer with
  | none => [.turn turn.link false]
  | some (status, message) =>
    .turn turn.link true :: .received turn.link status message :: heardEntries turn.link status message

namespace WebSocketServer

variable {L W τ : Type} {platform : Platform L W} {listener : Listener τ} {may : Nat → Prop}

/-- Whatever a turn leads to on other links, what is seen of it is the turn of its link. -/
theorem Visit.seen {index : Nat} {server after : WebSocketServer L W τ}
    (visit : Visit platform listener may index server after) :
    ∃ turn : LinkTurn, server.addresses[index]? = some turn.link ∧
      after.log = server.log ++ turn.entries := by
  have at_index : ∀ {link : Connection L}, server.links[index]? = some link →
      server.addresses[index]? = some link.address := by
    intro link present
    simp [addresses, present]
  cases visit with
  | @skipped link present gone => exact ⟨⟨link.address, none⟩, at_index present, rfl⟩
  | @heard link ws world message after type present there returned reacted acted =>
    refine ⟨⟨link.address, some (statusOf type, message)⟩, at_index present, ?_⟩
    -- The reaction of the listener adds nothing to what is seen.
    rw [acted.kept.2.1]
    cases type with
    | kTextMessage => simp [logged, served, statusOf, LinkTurn.entries, heardEntries]
    | kBinaryMessage => simp [logged, served, statusOf, LinkTurn.entries, heardEntries]
  | @failed link ws ws' world world' message present there returned closed =>
    refine ⟨⟨link.address, some (.kRecvError, message)⟩, at_index present, ?_⟩
    simp [updated, served, LinkTurn.entries, heardEntries]
  | @quiet link ws world status message present there returned idle =>
    refine ⟨⟨link.address, some (status, message)⟩, at_index present, ?_⟩
    -- A time-out and a closed link are seen, and nothing more comes of them.
    rcases idle with rfl | rfl
    · simp [served, LinkTurn.entries, heardEntries]
    · simp [served, LinkTurn.entries, heardEntries]

/-- Each link from an index on has one turn, in the order of the table. -/
theorem Visits.seen {index : Nat} {server after : WebSocketServer L W τ}
    (visits : Visits platform listener may index server after) :
    ∃ turns : List LinkTurn, turns.map (·.link) = server.addresses.drop index ∧
      after.log = server.log ++ turns.flatMap LinkTurn.entries := by
  -- Induction on the turns, each of which is that of the first link that is left.
  induction visits with
  | @finished index server all =>
    have none : server.addresses.drop index = [] := by
      rw [List.drop_eq_nil_iff]
      simpa only [addresses, List.length_map] using all
    exact ⟨[], by simp [none], by simp⟩
  | @next index server mid after more visit rest ih =>
    obtain ⟨turn, first, seen⟩ := visit.seen
    obtain ⟨turns, others, later⟩ := ih
    refine ⟨turn :: turns, ?_, ?_⟩
    · obtain ⟨bound, here⟩ := List.getElem?_eq_some_iff.mp first
      rw [List.drop_eq_getElem_cons bound, here, List.map_cons, others, visit.kept.1]
    · rw [later, seen, List.flatMap_cons, List.append_assoc]

/-- Handling events admits connections, gives every link its turn, and sweeps. -/
theorem handleEvents_parts (quiet : platform.Quiet) (confined : listener.Confined may)
    {server after : WebSocketServer L W τ}
    (returned : (handleEvents platform listener).Yields server () after) :
    ∃ opened served world, Admits platform server opened ∧ Visits platform listener may 0 opened served ∧
      (do
        handleNewConnections platform
        handleNewMessages platform listener).Yields server () served ∧
      Destroyed platform (served.links.filter fun link => !platform.isConnected link.ws)
        served.world world ∧
      after = { served with
        links := served.links.filter fun link => platform.isConnected link.ws
        world := world } := by
  -- The three parts follow each other, and each says what it did.
  obtain ⟨_, opened, admitting, rest⟩ := returned.parts
  obtain ⟨_, served, visiting, sweeping⟩ := rest.parts
  have admits := (handleNewConnections_admits quiet server).yields admitting
  have visits := (handleNewMessages_visits quiet confined opened).yields visiting
  obtain ⟨world, destroyed, form⟩ := (removeClosedLinks_meets quiet served).yields sweeping
  exact ⟨opened, served, world, admits, visits, admitting.bind visiting, destroyed, form⟩

/-- Handling events throws nothing. -/
theorem handleEvents_quiet (quiet : platform.Quiet) :
    (handleEvents platform listener : WebSocketServerM L W τ Unit).Quiet := by
  have free := listener.confined_true
  intro server
  refine ((handleNewConnections_admits quiet server).mono (fun _ _ held => held) ?_).bind ?_
  · exact fun _ _ impossible => impossible
  · intro _ opened _
    refine (handleNewMessages_visits quiet free opened).toEnsures.bind fun _ served _ => ?_
    exact (removeClosedLinks_meets quiet served).toEnsures.mono (fun _ _ _ => trivial)
      fun _ _ impossible => impossible

/-- Handling events comes to an end when there is an end of new connections. -/
theorem handleEvents_halts (quiet : platform.Quiet) (prompt : platform.Prompt)
    {server : WebSocketServer L W τ} (admitted : (handleNewConnections platform).Halts server) :
    (handleEvents platform listener).Halts server := by
  have free := listener.confined_true
  refine admitted.bind fun _ opened _ => ?_
  refine ((handleNewMessages_visits quiet free opened).halts prompt).bind fun _ served _ => ?_
  exact (removeClosedLinks_meets quiet served).halts prompt

/--
The table of links is exactly that of the live connections.

Nothing is thrown, and the call returns if there is an end of new connections.
When it returns, connections were accepted until there were no more, and the links of those whose handshakes
succeeded were put behind the old ones.
Then each link had its turn, in the order of the table: a connected link received once, and for a message the
reaction of the listener to it was carried out, once.
At last the disconnected links were destroyed, and the others are left in their order.
-/
theorem handleEvents_serves (platform : Platform L W) (listener : Listener τ)
    (quiet : platform.Quiet) (server : WebSocketServer L W τ) :
    (∀ e after, ¬ (handleEvents platform listener).Throws server e after) ∧
    (platform.Prompt → (handleNewConnections platform).Halts server →
      ∃ after, (handleEvents platform listener).Yields server () after) ∧
    ∀ after, (handleEvents platform listener).Yields server () after →
      ∃ (accepted : List (Int × Option Nat)) (turns : List LinkTurn) (made : List (Connection L))
          (opened served : WebSocketServer L W τ) (world : W),
        (Admits platform server opened ∧ opened.links = server.links ++ made ∧
          made.map (·.address) = accepted.filterMap (·.2)) ∧
        Visits platform listener (fun _ => True) 0 opened served ∧
        Destroyed platform (served.links.filter fun link => !platform.isConnected link.ws) served.world
          world ∧
        after = { served with
          links := served.links.filter fun link => platform.isConnected link.ws
          world := world } ∧
        after.log = server.log ++ accepted.map (fun made => .accepted made.1 made.2) ++
          turns.flatMap LinkTurn.entries ∧
        turns.map (·.link) = server.addresses ++ accepted.filterMap (·.2) ∧
        (do
          handleNewConnections platform
          handleNewMessages platform listener).Yields server () served ∧
        served.addresses = turns.map (·.link) := by
  have free := listener.confined_true
  refine ⟨fun e after threw => (handleEvents_quiet quiet server).throws threw,
    fun prompt admitted => ?_, fun after returned => ?_⟩
  · rcases (handleEvents_halts quiet prompt admitted).cases with ⟨_, after, returned⟩ | ⟨e, after, threw⟩
    · exact ⟨after, returned⟩
    · exact ((handleEvents_quiet quiet server).throws threw).elim
  · obtain ⟨opened, served, world, admits, visits, reached, destroyed, rfl⟩ :=
      handleEvents_parts quiet free returned
    obtain ⟨links, accepted, named, _, _, _, form⟩ := admits.framed
    obtain ⟨turns, tabled, seen⟩ := visits.seen
    -- The links that were admitted stand behind those that were there.
    have grown : opened.addresses = server.addresses ++ accepted.filterMap (·.2) := by
      rw [form, ← named]
      simp [addresses]
    -- The log grows by what was accepted, and then by the turns.
    have said : opened.log = server.log ++ accepted.map fun made => .accepted made.1 made.2 := by
      rw [form]
    rw [List.drop_zero] at tabled
    have behind : opened.links = server.links ++ links := by rw [form]
    refine ⟨accepted, turns, links, opened, served, world, ⟨admits, behind, named⟩, visits, destroyed,
      rfl, ?_, tabled.trans grown, reached, visits.kept.1.trans tabled.symm⟩
    rw [← said]
    exact seen

/-- A link whose answers are known beforehand. -/
structure Scripted where
  answers : List (RecvStatus × Bytes)
  connected : Bool

/-- A platform of scripted links, where the descriptors to accept are listed and the fourth fails. -/
def scripted (answers : List (RecvStatus × Bytes)) : Platform Scripted (List Int) where
  accept := Program.act fun sockfds => (sockfds.headD (-1), sockfds.tail)
  closeServerSocket := return ()
  destroyServerSocket := return ()
  newServerSideWebSocket sockfd :=
    if sockfd = 4 then Program.raise (.runtimeError "handshake") else return ⟨answers, true⟩
  isConnected ws := ws.connected
  recv _ := Program.act fun s =>
    (s.1.answers.headD (.kRecvTimeOut, []), { s.1 with answers := s.1.answers.tail }, s.2)
  send _ _ := Program.act fun s => (s.1.connected, s)
  close _ := Program.update fun s => ({ s.1 with connected := false }, s.2)
  destroy := return ()

/-- The scripted links throw nothing but the error of the handshake that fails. -/
theorem scripted_quiet (answers : List (RecvStatus × Bytes)) : (scripted answers).Quiet where
  accept := Program.throwsOnly_act _
  closeServerSocket := Program.throwsOnly_pure ()
  destroyServerSocket := Program.throwsOnly_pure ()
  newServerSideWebSocket sockfd := by
    -- The descriptor 4 is the one whose handshake fails.
    show (if sockfd = 4 then Program.raise (.runtimeError "handshake")
      else return ⟨answers, true⟩ : Program (List Int) Fault Scripted).ThrowsOnly _
    split
    · exact Program.throwsOnly_raise ⟨_, rfl⟩
    · exact Program.throwsOnly_pure _
  recv _ := Program.throwsOnly_act _
  send _ _ := Program.throwsOnly_act _
  close _ := Program.throwsOnly_update _
  destroy := Program.throwsOnly_pure ()

/-- A listener that sends what it hears to every other link. -/
def forwarding : Listener Unit := fun _ link message type =>
  .broadcast message type (some link) (.done () message)

/-- Of three connections one fails its handshake, and the others are served. -/
theorem handleEvents_serves_scripted :
    ∃ after, (handleEvents (scripted [(.kRecvText, [104, 105])]) forwarding).Yields
        (.create () [3, 4, 5]) () after ∧
      after.log = [.accepted 3 (some 0), .accepted 4 none, .accepted 5 (some 1),
        .turn 0 true, .received 0 .kRecvText [104, 105], .heard 0 [104, 105] .kTextMessage,
        .turn 1 true, .received 1 .kRecvText [104, 105], .heard 1 [104, 105] .kTextMessage] ∧
      ∃ opened served : WebSocketServer Scripted (List Int) Unit,
        Admits (scripted [(.kRecvText, [104, 105])]) (.create () [3, 4, 5]) opened ∧
        Visits (scripted [(.kRecvText, [104, 105])]) forwarding (fun _ => True) 0 opened served ∧
        after.links = served.links.filter fun link => link.ws.connected := by
  have returned := Program.yields_after
    (show ((handleEvents (scripted [(.kRecvText, [104, 105])]) forwarding).run 6
      (.create () [3, 4, 5])).value? = some () from rfl)
  -- The run is evaluated, and the general result says what was called in it.
  obtain ⟨-, -, serves⟩ := handleEvents_serves (scripted [(.kRecvText, [104, 105])]) forwarding
    (scripted_quiet _) (.create () [3, 4, 5])
  obtain ⟨_, _, _, opened, served, _, ⟨admits, -, -⟩, visits, -, same, -⟩ := serves _ returned
  exact ⟨_, returned, rfl, opened, served, admits, visits,
    congrArg WebSocketServer.links same⟩

end WebSocketServer

end Rcom
