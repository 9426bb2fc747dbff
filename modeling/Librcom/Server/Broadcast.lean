import Librcom.Effects.Views
import Librcom.Server.Table

/-! Broadcasting: what is called on each link, and what becomes of the table. -/

namespace Rcom

open Effects

/-- A call on a link that has returned. -/
inductive LinkUse where
  | recv (status : RecvStatus)
  | send (message : Bytes) (type : MessageType) (success : Bool)
  | close (code : CloseCode)
  deriving DecidableEq, Repr

/-- A link with the calls that were made on it. -/
structure Watched (L : Type) where
  ws : L
  uses : List LinkUse

section Watching

variable {L W α : Type}

/-- Call a method of a watched link. -/
def onWatched (call : Program (L × W) Fault α) : Program (Watched L × W) Fault α :=
  call.within (fun s => (s.1.ws, s.2)) fun result s => ({ s.1 with ws := result.1 }, result.2)

/-- Call a method of a watched link, and note the call when it returns. -/
def noting (use : α → LinkUse) (call : Program (L × W) Fault α) :
    Program (Watched L × W) Fault α := do
  let answer ← onWatched call
  Program.update fun s => ({ s.1 with uses := s.1.uses ++ [use answer] }, s.2)
  return answer

/-- The same platform, where every link is watched from its making on. -/
def Platform.watched (platform : Platform L W) : Platform (Watched L) W where
  accept := platform.accept
  closeServerSocket := platform.closeServerSocket
  destroyServerSocket := platform.destroyServerSocket
  newServerSideWebSocket sockfd := do
    let ws ← platform.newServerSideWebSocket sockfd
    return { ws := ws, uses := [] }
  isConnected link := platform.isConnected link.ws
  recv message := noting (fun answer => .recv answer.1) (platform.recv message)
  send message type := noting (.send message type) (platform.send message type)
  close code := noting (fun _ => .close code) (platform.close code)
  destroy := onWatched platform.destroy

/-- An exception that sending over some link or closing it throws. -/
def Platform.LinkThrows (platform : Platform L W) (e : Fault) : Prop :=
  ∃ (α : Type) (call : Program (L × W) Fault α) (s s' : L × W),
    platform.LinkCall call ∧ call.Throws s e s'

variable {platform : Platform L W} {call : Program (L × W) Fault α}

/-- To note a call throws nothing more than the call does. -/
theorem noting_throwsOnly {may : Fault → Prop} (use : α → LinkUse) (throws : call.ThrowsOnly may) :
    (noting use call).ThrowsOnly may := by
  -- The method may throw, and what is noted behind it does not.
  refine (throws.within _ _).bind fun answer => ?_
  exact (Program.throwsOnly_update _).bind fun _ => Program.throwsOnly_pure answer

/-- To note a call lets it end as before. -/
theorem noting_halts (use : α → LinkUse) (ends : ∀ s, call.Halts s) (s : Watched L × W) :
    (noting use call).Halts s := by
  refine ((ends _).within _).bind fun answer s' _ => ?_
  exact ((Program.yields_update _ s').bind (Program.yields_pure answer _)).halts

/-- Watching the links adds no exceptions. -/
theorem Platform.Quiet.watched (quiet : platform.Quiet) : platform.watched.Quiet where
  accept := quiet.accept
  closeServerSocket := quiet.closeServerSocket
  destroyServerSocket := quiet.destroyServerSocket
  newServerSideWebSocket sockfd :=
    (quiet.newServerSideWebSocket sockfd).bind fun _ => Program.throwsOnly_pure _
  recv message := noting_throwsOnly _ (quiet.recv message)
  send message type := noting_throwsOnly _ (quiet.send message type)
  close code := noting_throwsOnly _ (quiet.close code)
  destroy := quiet.destroy.within _ _

/-- Watched links come to an end like the links themselves. -/
theorem Platform.Prompt.watched (prompt : platform.Prompt) : platform.watched.Prompt where
  recv message s := noting_halts _ (prompt.recv message) s
  send message type s := noting_halts _ (prompt.send message type) s
  close code s := noting_halts _ (prompt.close code) s
  destroy _ := (prompt.destroy _).within _

/-- A call on a watched link is the call on the link, and is noted once. -/
theorem noting_meets (use : α → LinkUse) (made : platform.LinkCall call) (s : Watched L × W) :
    (noting use call).Meets platform.Prompt s (fun answer s' => s'.1.uses = s.1.uses ++ [use answer])
      (fun e _ => platform.LinkThrows e) := by
  have called : call.Meets platform.Prompt (s.1.ws, s.2) (fun _ _ => True)
      (fun e _ => platform.LinkThrows e) :=
    ⟨⟨fun _ => trivial, fun threw => ⟨α, call, _, _, made, threw⟩⟩, fun prompt => made.halts prompt _⟩
  -- The method runs on the link itself, and the note is made when it has answered.
  have first := called.within (fun s : Watched L × W => (s.1.ws, s.2)) fun result s =>
    ({ s.1 with ws := result.1 }, result.2)
  refine (first.mono (fun _ _ held => held) ?_).bind ?_
  · -- A method that throws is one of the link.
    rintro e _ ⟨_, threw, _⟩
    exact threw
  · rintro answer _ ⟨result, _, rfl⟩
    refine (Program.yields_update _ _).bind_meets ?_
    exact Program.meets_pure rfl

end Watching

namespace WebSocketServer

variable {L W τ α : Type} {platform : Platform L W} {message : Bytes} {type : MessageType}
  {exclude : Option Nat}

section Each

/-- What a broadcast does to a link, whatever it does to the others. -/
inductive Reached (platform : Platform L W) (message : Bytes) (type : MessageType)
    (exclude : Option Nat) (link : Connection (Watched L)) : Connection (Watched L) → Prop
  /-- Nothing is called on the link to exclude. -/
  | excluded (named : exclude = some link.address) : Reached platform message type exclude link link
  /-- Nothing is called on a link that is disconnected. -/
  | disconnected (gone : platform.isConnected link.ws.ws = false) :
      Reached platform message type exclude link link
  /-- The link takes the message. -/
  | sent {ws : Watched L} (other : exclude ≠ some link.address)
      (there : platform.isConnected link.ws.ws = true)
      (called : ws.uses = link.ws.uses ++ [.send message type true]) :
      Reached platform message type exclude link { link with ws := ws }
  /-- The link fails to take the message, and is closed. -/
  | closed {ws : Watched L} (other : exclude ≠ some link.address)
      (there : platform.isConnected link.ws.ws = true)
      (called : ws.uses = link.ws.uses ++ [.send message type false, .close kCloseInternalError]) :
      Reached platform message type exclude link { link with ws := ws }

/-- The link stays where it is known. -/
theorem Reached.address {link link' : Connection (Watched L)}
    (reached : Reached platform message type exclude link link') : link'.address = link.address := by
  cases reached with
  | excluded named => rfl
  | disconnected gone => rfl
  | sent other there called => rfl
  | closed other there called => rfl

/-- Links that were reached are known as before. -/
theorem Reached.addresses {links links' : List (Connection (Watched L))}
    (reached : List.Forall₂ (Reached platform message type exclude) links links') :
    links'.map (·.address) = links.map (·.address) := by
  -- Induction on the table: every link keeps its place and its address.
  induction reached with
  | nil => rfl
  | cons first others ih => rw [List.map_cons, List.map_cons, first.address, ih]

end Each

section Broadcasting

variable {server : WebSocketServer (Watched L) W τ}

/-- The server, where the links in front were reached. -/
def reaching (server : WebSocketServer (Watched L) W τ) (front rest : List (Connection (Watched L)))
    (world : W) : WebSocketServer (Watched L) W τ :=
  { server with links := front ++ rest, world := world }

/-- The link behind those that were reached is the first that is left. -/
theorem reaching_present (server : WebSocketServer (Watched L) W τ)
    (front rest : List (Connection (Watched L))) (world : W) :
    (server.reaching front rest world).links[front.length]? = rest[0]? := by
  show (front ++ rest)[front.length]? = rest[0]?
  rw [List.getElem?_append_right (Nat.le_refl _), Nat.sub_self]

/-- A call on the first link that is left is noted there, and leaves the others. -/
theorem onLink_notes {use : α → LinkUse} {call : Program (L × W) Fault α}
    (made : platform.LinkCall call) (front rest : List (Connection (Watched L)))
    (link : Connection (Watched L)) (world : W) :
    (onLink front.length link (noting use call)).Meets platform.Prompt
      (server.reaching front (link :: rest) world)
      (fun answer after => ∃ ws world', ws.uses = link.ws.uses ++ [use answer] ∧
        after = server.reaching front ({ link with ws := ws } :: rest) world')
      (fun e _ => platform.LinkThrows e) := by
  -- The link is written back at the place it was read from, behind the links in front.
  have noted := noting_meets use made (link.ws, world)
  refine (noted.within (fun server : WebSocketServer (Watched L) W τ => (link.ws, server.world))
    (t := server.reaching front (link :: rest) world) _).mono ?_ ?_
  · rintro answer _ ⟨⟨ws, world'⟩, called, rfl⟩
    refine ⟨ws, world', called, ?_⟩
    simp [reaching]
  · rintro e _ ⟨_, threw, _⟩
    exact threw

/-- Sending over the first link that is left notes it once, if the link is connected. -/
theorem send_notes (front rest : List (Connection (Watched L))) (link : Connection (Watched L))
    (world : W) :
    (send platform.watched front.length message type).Meets platform.Prompt
      (server.reaching front (link :: rest) world)
      (fun success after => ∃ ws world',
        after = server.reaching front ({ link with ws := ws } :: rest) world' ∧
          if platform.isConnected link.ws.ws then
            ws.uses = link.ws.uses ++ [.send message type success]
          else success = true ∧ ws = link.ws)
      (fun e _ => platform.LinkThrows e) := by
  refine (Program.yields_get _).bind_meets ?_
  rw [reaching_present]
  dsimp only [List.getElem?_cons_zero]
  by_cases there : platform.isConnected link.ws.ws = true
  · -- A connected link is called, and its answer is the one that is noted.
    have connected : platform.watched.isConnected link.ws = true := there
    rw [if_pos connected]
    refine (onLink_notes (.send message type) front rest link world).mono ?_ fun _ _ threw => threw
    rintro success after ⟨ws, world', called, rfl⟩
    exact ⟨ws, world', rfl, by rwa [if_pos there]⟩
  · -- On any other link nothing is called, which counts as a success.
    have gone : ¬ platform.watched.isConnected link.ws = true := there
    rw [if_neg gone]
    exact Program.meets_pure ⟨link.ws, world, rfl, by rw [if_neg there]; exact ⟨rfl, rfl⟩⟩

/-- Closing the first link that is left notes it once. -/
theorem close_notes (code : CloseCode) (front rest : List (Connection (Watched L)))
    (link : Connection (Watched L)) (world : W) :
    (close platform.watched front.length code).Meets platform.Prompt
      (server.reaching front (link :: rest) world)
      (fun _ after => ∃ ws world', ws.uses = link.ws.uses ++ [.close code] ∧
        after = server.reaching front ({ link with ws := ws } :: rest) world')
      (fun e _ => platform.LinkThrows e) := by
  -- The link is looked up again, and is still the one at this place.
  refine (Program.yields_get _).bind_meets ?_
  rw [reaching_present]
  exact onLink_notes (.close code) front rest link world

/-- A round reaches the first link that is left. -/
theorem broadcastRound_reaches (front rest : List (Connection (Watched L)))
    (link : Connection (Watched L)) (world : W) :
    (broadcastRound platform.watched message type exclude front.length).Meets platform.Prompt
      (server.reaching front (link :: rest) world)
      (Program.Turn
        (fun next after => next = front.length + 1 ∧ ∃ link' world',
          Reached platform message type exclude link link' ∧
            after = server.reaching front (link' :: rest) world')
        (fun _ _ => False))
      (fun e _ => platform.LinkThrows e) := by
  -- The index is that of the first link that is left.
  refine (Program.yields_get _).bind_meets ?_
  rw [reaching_present]
  dsimp only [List.getElem?_cons_zero]
  split
  · rename_i other
    -- The link is not the one to exclude, so that `send` decides.
    refine (send_notes front rest link world).bind ?_
    rintro success _ ⟨ws, world', rfl, called⟩
    cases success with
    | true =>
      -- A success is that of a call, or that of a link on which nothing was called.
      refine Program.meets_pure ⟨rfl, { link with ws := ws }, world', ?_, rfl⟩
      by_cases there : platform.isConnected link.ws.ws = true
      · rw [if_pos there] at called
        exact .sent other there called
      · rw [if_neg there] at called
        obtain ⟨-, rfl⟩ := called
        exact .disconnected (by simpa using there)
    | false =>
      -- Only a call can have failed, so that the link is connected.
      have there : platform.isConnected link.ws.ws = true := by
        by_contra gone
        rw [if_neg gone] at called
        exact absurd called.1 (by decide)
      rw [if_pos there] at called
      -- The close is noted behind the send on the same link.
      refine (close_notes kCloseInternalError front rest { link with ws := ws } world').bind ?_
      rintro _ _ ⟨ws', world'', closed, rfl⟩
      refine Program.meets_pure ⟨rfl, { link with ws := ws' }, world'', ?_, rfl⟩
      exact .closed other there (by rw [closed, called, List.append_assoc]; rfl)
  · rename_i same
    exact Program.meets_pure ⟨rfl, link, world, .excluded (by simpa using same), rfl⟩

/-- Broadcasting reaches the links one after the other. -/
theorem broadcast_reaches (server : WebSocketServer (Watched L) W τ) :
    (broadcast platform.watched message type exclude).Meets platform.Prompt server
      (fun _ after => ∃ links world,
        List.Forall₂ (Reached platform message type exclude) server.links links ∧
          after = { server with links := links, world := world })
      (fun e _ => platform.LinkThrows e) := by
  -- The links in front were reached, and those that are left are as they were.
  refine Program.Meets.iterate (n := server.links.length) (fun left index now =>
    ∃ before front rest world, server.links = before ++ rest ∧
      List.Forall₂ (Reached platform message type exclude) before front ∧
      index = front.length ∧ left = rest.length ∧ now = server.reaching front rest world) ?_
    ⟨[], [], server.links, server.world, rfl, .nil, rfl, rfl, rfl⟩
  rintro left index now ⟨before, front, rest, world, links, reached, rfl, rfl, rfl⟩
  cases rest with
  | nil =>
    -- No link is left, so that all of them were reached.
    refine (Program.yields_get _).bind_meets ?_
    rw [reaching_present]
    refine Program.meets_pure ⟨front, world, ?_, by simp [reaching]⟩
    rw [links, List.append_nil]
    exact reached
  | cons link rest =>
    -- The round reaches the first link that is left, which then stands in front.
    refine (broadcastRound_reaches front rest link world).mono ?_ fun _ _ threw => threw
    rintro (next | done) after turned
    · obtain ⟨rfl, link', world', now, rfl⟩ := turned
      refine ⟨rest.length, by simp, before ++ [link], front ++ [link'], rest, world', ?_, ?_, ?_, rfl, ?_⟩
      · rw [links, List.append_assoc]
        rfl
      · exact List.rel_append reached (.cons now .nil)
      · simp
      · simp [reaching]
    · exact turned.elim

end Broadcasting

section Unwatched

/-- The server, when nobody watches its links. -/
def unwatched (server : WebSocketServer (Watched L) W τ) : WebSocketServer L W τ where
  links := server.links.map fun link => { address := link.address, ws := link.ws.ws }
  message := server.message
  listener := server.listener
  world := server.world
  nextAddress := server.nextAddress
  log := server.log

/-- To note a call is not seen by a link that forgets its calls. -/
theorem noting_mirrors (use : α → LinkUse) (call : Program (L × W) Fault α) (s : Watched L × W) :
    (noting use call).Mirrors (fun s => (s.1.ws, s.2)) call s := by
  intro fuel
  simp only [noting, onWatched, Program.run_bind, Program.within]
  -- In each way the call can end, the note is the only difference.
  cases call.run fuel (s.1.ws, s.2) with
  | done answer s' => rfl
  | thrown e s' => rfl
  | diverged => rfl

/-- Nor is it seen in the table. -/
theorem onLink_mirrors (index : Nat) (link : Connection (Watched L)) (use : α → LinkUse)
    (call : Program (L × W) Fault α) (server : WebSocketServer (Watched L) W τ) :
    (onLink index link (noting use call)).Mirrors unwatched
      (onLink index { address := link.address, ws := link.ws.ws } call) server := by
  refine Program.Mirrors.within (noting_mirrors use call _) rfl fun s => ?_
  -- Writing the link back and forgetting its calls may change places.
  simp [unwatched, List.map_set]

/-- To send over a watched link is to send over the link. -/
theorem send_mirrors (index : Nat) (server : WebSocketServer (Watched L) W τ) :
    (send platform.watched index message type).Mirrors unwatched
      (send platform index message type) server := by
  refine Program.mirrors_get_bind ?_
  -- The link at the index is there for the one if and only if it is for the other.
  simp only [unwatched, List.getElem?_map]
  cases server.links[index]? with
  | none => exact Program.mirrors_pure true
  | some link =>
    by_cases there : platform.isConnected link.ws.ws = true
    · simp only [Option.map_some, there, Platform.watched, if_true]
      exact onLink_mirrors index link _ _ server
    · simp only [Option.map_some, there, Platform.watched]
      exact Program.mirrors_pure true

/-- To close a watched link is to close the link. -/
theorem close_mirrors (index : Nat) (code : CloseCode) (server : WebSocketServer (Watched L) W τ) :
    (close platform.watched index code).Mirrors unwatched (close platform index code) server := by
  refine Program.mirrors_get_bind ?_
  simp only [unwatched, List.getElem?_map]
  cases server.links[index]? with
  | none => exact Program.mirrors_pure ()
  | some link => exact onLink_mirrors index link _ _ server

/-- Watching the links does not change what a broadcast does. -/
theorem broadcast_mirrors (message : Bytes) (type : MessageType) (exclude : Option Nat)
    (server : WebSocketServer (Watched L) W τ) :
    (broadcast platform.watched message type exclude).Mirrors unwatched
      (broadcast platform message type exclude) server := by
  -- Both loops go through the same indices.
  refine Program.Mirrors.iterate (fun index server => ?_) 0
  refine Program.mirrors_get_bind ?_
  simp only [unwatched, List.getElem?_map]
  cases server.links[index]? with
  | none => exact Program.mirrors_pure _
  | some link =>
    simp only [Option.map_some]
    split
    · refine (send_mirrors index server).bind fun sent server => ?_
      -- Both of them have the same answer, and close after the same answers.
      cases sent with
      | true => exact Program.mirrors_pure _
      | false => exact (close_mirrors index _ server).bind fun _ _ => Program.mirrors_pure _
    · exact Program.mirrors_pure _

/-- The server, when somebody begins to watch its links. -/
def watched (server : WebSocketServer L W τ) : WebSocketServer (Watched L) W τ where
  links := server.links.map fun link =>
    { address := link.address, ws := { ws := link.ws, uses := [] } }
  message := server.message
  listener := server.listener
  world := server.world
  nextAddress := server.nextAddress
  log := server.log

/-- A server that is watched and then not watched is as it was. -/
theorem unwatched_watched (server : WebSocketServer L W τ) : server.watched.unwatched = server := by
  obtain ⟨links, message, listener, world, nextAddress, log⟩ := server
  have same : (links.map fun link => Connection.mk link.address (Watched.mk link.ws [])).map
      (fun link => Connection.mk link.address link.ws.ws) = links := by
    -- A link that begins to be watched is forgotten to be so at once.
    rw [List.map_map]
    exact List.map_id links
  simp only [watched, unwatched, same]

/-- Whatever a broadcast leaves, it has reached every link once on the way. -/
theorem broadcast_reaches_unwatched {server after : WebSocketServer L W τ}
    (returned : (broadcast platform message type exclude).Yields server () after) :
    ∃ links world, List.Forall₂ (Reached platform message type exclude) server.watched.links links ∧
      after = unwatched { server.watched with links := links, world := world } := by
  rw [← unwatched_watched server] at returned
  -- The run is one of watched links, of which it is known what is called.
  obtain ⟨after', returned', rfl⟩ :=
    (broadcast_mirrors message type exclude server.watched).lifts returned
  obtain ⟨links, world, reached, rfl⟩ := (broadcast_reaches server.watched).yields returned'
  exact ⟨links, world, reached, rfl⟩

end Unwatched

/--
A broadcast reaches every link once, and leaves the table as it is.

One call of `send` with the message is made on each connected link other than the one to exclude,
and one call of `close` on each of these whose `send` failed.
On every other link nothing is called.
Whatever a listener does with its messages, broadcasting included, each link has one turn.
-/
theorem broadcast_reaches_each_once (platform : Platform L W)
    (server : WebSocketServer (Watched L) W τ) :
    (∀ message type exclude,
      (broadcast platform.watched message type exclude).Meets platform.Prompt server
        (fun _ after => ∃ links world,
          List.Forall₂ (Reached platform message type exclude) server.links links ∧
          after = { server with links := links, world := world } ∧
          after.addresses = server.addresses)
        (fun e _ => platform.LinkThrows e)) ∧
    ∀ listener : Listener τ, platform.Quiet →
      (handleNewMessages platform.watched listener).Meets platform.Prompt server
        (fun _ after => Visits platform.watched listener (fun _ => True) 0 server after ∧
          ∃ turns : List LinkTurn, turns.map (·.link) = server.addresses ∧
          after.log = server.log ++ turns.flatMap LinkTurn.entries ∧
          after.addresses = server.addresses)
        (fun _ _ => False) := by
  refine ⟨fun message type exclude => ?_, fun listener quiet => ?_⟩
  · refine (broadcast_reaches server).mono ?_ fun _ _ threw => threw
    -- Each link that was reached keeps its address, and so does the table.
    rintro _ _ ⟨links, world, reached, rfl⟩
    refine ⟨links, world, reached, rfl, ?_⟩
    exact Reached.addresses reached
  · -- A reaction may act on every link, and none of its calls moves a link.
    have free := listener.confined_true
    have visiting := handleNewMessages_visits quiet.watched free server
    refine ⟨visiting.toEnsures.mono ?_ fun _ _ impossible => impossible,
      fun prompt => visiting.halts prompt.watched⟩
    intro _ after visits
    obtain ⟨turns, named, seen⟩ := visits.seen
    exact ⟨visits, turns, named, seen, visits.kept.1⟩

/-- A link that takes messages or does not, and always has one to receive while it is connected. -/
structure Fickle where
  takes : Bool
  connected : Bool

def fickle : Platform Fickle Unit where
  accept := return -1
  closeServerSocket := return ()
  destroyServerSocket := return ()
  newServerSideWebSocket _ := return ⟨true, true⟩
  isConnected ws := ws.connected
  recv _ := return (.kRecvText, [104, 105])
  send _ _ := Program.act fun s => (s.1.takes, s)
  close _ := Program.update fun s => ({ s.1 with connected := false }, s.2)
  destroy := return ()

/-- The fickle links throw nothing. -/
theorem fickle_quiet : fickle.Quiet where
  accept := Program.throwsOnly_pure _
  closeServerSocket := Program.throwsOnly_pure ()
  destroyServerSocket := Program.throwsOnly_pure ()
  newServerSideWebSocket _ := Program.throwsOnly_pure _
  recv _ := Program.throwsOnly_pure _
  send _ _ := Program.throwsOnly_act _
  close _ := Program.throwsOnly_update _
  destroy := Program.throwsOnly_pure ()

/-- The fickle links come to an end. -/
theorem fickle_prompt : fickle.Prompt where
  recv _ s := (Program.yields_pure _ s).halts
  send _ _ s := (Program.yields_act _ s).halts
  close _ s := (Program.yields_update _ s).halts
  destroy s := (Program.yields_pure () s).halts

/-- A server with a good link, one that takes nothing, one that is disconnected, and another good one. -/
def crowd : WebSocketServer (Watched Fickle) Unit Unit where
  links := [⟨0, ⟨true, true⟩, []⟩, ⟨1, ⟨false, true⟩, []⟩, ⟨2, ⟨true, false⟩, []⟩,
    ⟨3, ⟨true, true⟩, []⟩]
  message := []
  listener := ()
  world := ()
  nextAddress := 4
  log := []

/--
A broadcast to a crowd closes the link that takes nothing, and goes on to the others.

When the links forward what they hear, that link is closed before its turn, and every link still has one turn.
Whatever the listener does, the turns come to an end.
-/
theorem broadcast_reaches_each_once_fickle :
    ∃ after, (broadcast fickle.watched [104] .kTextMessage (some 3)).Yields crowd () after ∧
      List.Forall₂ (Reached fickle [104] .kTextMessage (some 3)) crowd.links after.links ∧
      after.links.map (·.ws.uses) = [[.send [104] .kTextMessage true],
        [.send [104] .kTextMessage false, .close kCloseInternalError], [], []] ∧
      ∃ heard, ∃ turns : List LinkTurn, (handleNewMessages fickle.watched forwarding).Yields crowd () heard ∧
        Visits fickle.watched forwarding (fun _ => True) 0 crowd heard ∧
        turns.map (·.link) = [0, 1, 2, 3] ∧ heard.log = turns.flatMap LinkTurn.entries ∧
        heard.log = [.turn 0 true, .received 0 .kRecvText [104, 105], .heard 0 [104, 105] .kTextMessage,
          .turn 1 false, .turn 2 false,
          .turn 3 true, .received 3 .kRecvText [104, 105], .heard 3 [104, 105] .kTextMessage] ∧
        ∀ listener, (handleNewMessages fickle.watched listener).Halts crowd := by
  have returned := Program.yields_after (show ((broadcast fickle.watched [104] .kTextMessage
    (some 3)).run 6 crowd).value? = some () from rfl)
  have served := Program.yields_after (show ((handleNewMessages fickle.watched forwarding).run 6
    crowd).value? = some () from rfl)
  obtain ⟨reaches, visits⟩ := broadcast_reaches_each_once fickle crowd
  obtain ⟨links, world, reached, same, -⟩ := (reaches [104] .kTextMessage (some 3)).yields returned
  obtain ⟨visited, turns, named, seen, -⟩ := (visits forwarding fickle_quiet).yields served
  refine ⟨_, returned, ?_, rfl, _, turns, served, visited, named, ?_, rfl, fun listener => ?_⟩
  · rw [same]
    exact reached
  · rw [seen]
    rfl
  · exact (visits listener fickle_quiet).halts fickle_prompt

end WebSocketServer

end Rcom
