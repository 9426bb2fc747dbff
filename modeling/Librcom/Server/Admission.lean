import Librcom.Server.Turns

/-! The parts of handling events: admitting connections, giving each link its turn, and the sweep. -/

namespace Rcom

open Effects

namespace WebSocketServer

variable {L W τ : Type} {platform : Platform L W}

section Admission

/-- The server with a new link behind the others. -/
def admitted (server : WebSocketServer L W τ) (sockfd : Int) (ws : L) (world : W) :
    WebSocketServer L W τ :=
  { server with
    links := server.links ++ [{ address := server.nextAddress, ws := ws }]
    world := world
    nextAddress := server.nextAddress + 1
    log := server.log ++ [.accepted sockfd (some server.nextAddress)] }

/-- The server after a handshake that failed. -/
def refused (server : WebSocketServer L W τ) (sockfd : Int) (world : W) : WebSocketServer L W τ :=
  { server with world := world, log := server.log ++ [.accepted sockfd none] }

/-- Connections are accepted one after the other, until there are no more. -/
inductive Admits (platform : Platform L W) :
    WebSocketServer L W τ → WebSocketServer L W τ → Prop
  | finished {server : WebSocketServer L W τ} {sockfd : Int} {world : W}
      (accepted : platform.accept.Yields server.world sockfd world) (none : sockfd < 0) :
      Admits platform server { server with world := world }
  | admitted {server after : WebSocketServer L W τ} {sockfd : Int} {ws : L} {world world' : W}
      (accepted : platform.accept.Yields server.world sockfd world) (valid : 0 ≤ sockfd)
      (made : (platform.newServerSideWebSocket sockfd).Yields world ws world')
      (rest : Admits platform (server.admitted sockfd ws world') after) :
      Admits platform server after
  | refused {server after : WebSocketServer L W τ} {sockfd : Int} {what : String}
      {world world' : W} (accepted : platform.accept.Yields server.world sockfd world)
      (valid : 0 ≤ sockfd)
      (failed : (platform.newServerSideWebSocket sockfd).Throws world (.runtimeError what) world')
      (rest : Admits platform (server.refused sockfd world') after) :
      Admits platform server after

/-- A connection that is tried gives a new link, unless its handshake fails. -/
theorem tryNewConnection_ensures (quiet : platform.Quiet) (sockfd : Int)
    (server : WebSocketServer L W τ) :
    (tryNewConnection platform sockfd).Ensures server
      (fun _ after =>
        (∃ ws world, (platform.newServerSideWebSocket sockfd).Yields server.world ws world ∧
          after = server.admitted sockfd ws world) ∨
        ∃ what world, (platform.newServerSideWebSocket sockfd).Throws server.world
          (.runtimeError what) world ∧ after = server.refused sockfd world)
      (fun _ _ => False) := by
  -- An exception of the factory is a runtime error, and has left the world changed.
  have made : (append platform sockfd).Ensures server
      (fun _ after => ∃ ws world, (platform.newServerSideWebSocket sockfd).Yields server.world ws world ∧
        after = server.admitted sockfd ws world)
      (fun e after => ∃ what world, e = .runtimeError what ∧
        (platform.newServerSideWebSocket sockfd).Throws server.world e world ∧
        after = { server with world := world }) := by
    have factory : (platform.newServerSideWebSocket sockfd).Ensures server.world
        (fun ws world => (platform.newServerSideWebSocket sockfd).Yields server.world ws world)
        (fun e world => ∃ what, e = .runtimeError what ∧
          (platform.newServerSideWebSocket sockfd).Throws server.world e world) := by
      refine ⟨fun returned => returned, fun threw => ?_⟩
      obtain ⟨what, rfl⟩ := (quiet.newServerSideWebSocket sockfd server.world).throws threw
      exact ⟨what, rfl, threw⟩
    refine Program.Ensures.seq (factory.within _) ?_ ?_
    · rintro e after ⟨world, ⟨what, rfl, threw⟩, rfl⟩
      exact ⟨what, world, rfl, threw, rfl⟩
    · rintro ws mid ⟨world, returned, rfl⟩
      exact Program.ensures_update ⟨ws, world, returned, rfl⟩
  refine (made.mono (fun _ _ grown => .inl grown) fun _ _ failed => failed).attempt ?_
  -- The exception is caught, and the connection is forgotten.
  rintro e after ⟨what, world, rfl, threw, rfl⟩
  exact Program.ensures_update (.inr ⟨what, world, threw, rfl⟩)

/-- New connections are admitted until there are no more. -/
theorem handleNewConnections_admits (quiet : platform.Quiet) (server : WebSocketServer L W τ) :
    (handleNewConnections platform).Ensures server (fun _ after => Admits platform server after)
      (fun _ _ => False) := by
  -- Whatever can still be admitted from the state of a round completes what was admitted before it.
  refine Program.Ensures.iterate (fun _ now => ∀ after, Admits platform now after →
    Admits platform server after) (fun _ later => later) ?_
  intro _ now before
  have accepts : (platform.accept).Ensures now.world
      (fun sockfd world => platform.accept.Yields now.world sockfd world) (fun _ _ => False) :=
    ⟨fun returned => returned, fun threw => (quiet.accept _).throws threw⟩
  refine Program.Ensures.seq (accepts.within _) ?_ ?_
  · rintro _ _ ⟨_, impossible, _⟩
    exact impossible
  · rintro sockfd _ ⟨world, accepted, rfl⟩
    -- A negative number is no connection, and ends the loop.
    split
    · rename_i valid
      refine (tryNewConnection_ensures quiet sockfd _).bind ?_
      rintro _ mid (⟨ws, world', made, rfl⟩ | ⟨what, world', failed, rfl⟩)
      · exact Program.ensures_pure fun after rest => before after (.admitted accepted valid made rest)
      · exact Program.ensures_pure fun after rest => before after (.refused accepted valid failed rest)
    · rename_i invalid
      exact Program.ensures_pure (before _ (.finished accepted (by omega)))

/-- What is admitted depends on the world and on the next address alone, and goes behind the rest. -/
theorem Admits.framed {server after : WebSocketServer L W τ} (admits : Admits platform server after) :
    ∃ (opened : List (Connection L)) (accepted : List (Int × Option Nat)),
      opened.map (·.address) = accepted.filterMap (·.2) ∧
      (∀ address ∈ opened.map (·.address), server.nextAddress ≤ address ∧ address < after.nextAddress) ∧
      (opened.map (·.address)).Nodup ∧ server.nextAddress ≤ after.nextAddress ∧
      after = { server with
        links := server.links ++ opened
        world := after.world
        nextAddress := after.nextAddress
        log := server.log ++ accepted.map fun made => .accepted made.1 made.2 } := by
  -- Induction on the connections: each gets the next address, unless its handshake fails.
  induction admits with
  | finished accepted none =>
    refine ⟨[], [], rfl, by simp, by simp, Nat.le_refl _, by simp⟩
  | @admitted server after sockfd ws world world' accepted valid made rest ih =>
    obtain ⟨opened, others, same, between, distinct, grown, form⟩ := ih
    simp only [WebSocketServer.admitted] at between grown form
    refine ⟨⟨server.nextAddress, ws⟩ :: opened, (sockfd, some server.nextAddress) :: others, ?_, ?_, ?_,
      by omega, ?_⟩
    · simp [same]
    · intro address member
      -- The first address is the next one, and the others are above it.
      rcases List.mem_cons.mp member with rfl | member
      · constructor
        · exact Nat.le_refl _
        · show server.nextAddress < after.nextAddress
          omega
      · have bounds := between address member
        omega
    · -- The address is below all that come later.
      refine List.nodup_cons.mpr ⟨fun member => ?_, distinct⟩
      have bounds := between _ member
      have impossible : server.nextAddress + 1 ≤ server.nextAddress := bounds.1
      omega
    · rw [form]
      simp
  | @refused server after sockfd what world world' accepted valid failed rest ih =>
    obtain ⟨opened, others, same, between, distinct, grown, form⟩ := ih
    simp only [WebSocketServer.refused] at between grown form
    refine ⟨opened, (sockfd, none) :: others, ?_, between, distinct, grown, ?_⟩
    · simp [same]
    · rw [form]
      simp

end Admission

section Messages

variable {may : Nat → Prop} {listener : Listener τ}

/-- The links from an index on have their turns, one after the other. -/
inductive Visits (platform : Platform L W) (listener : Listener τ) (may : Nat → Prop) :
    Nat → WebSocketServer L W τ → WebSocketServer L W τ → Prop
  | finished {index : Nat} {server : WebSocketServer L W τ} (all : server.links.length ≤ index) :
      Visits platform listener may index server server
  | next {index : Nat} {server mid after : WebSocketServer L W τ}
      (more : index < server.links.length) (visit : Visit platform listener may index server mid)
      (rest : Visits platform listener may (index + 1) mid after) :
      Visits platform listener may index server after

/-- Whatever happens in the turns, the table keeps its addresses. -/
theorem Visits.kept {index : Nat} {server after : WebSocketServer L W τ}
    (visits : Visits platform listener may index server after) :
    after.addresses = server.addresses ∧ after.nextAddress = server.nextAddress := by
  induction visits with
  | finished all => exact ⟨rfl, rfl⟩
  | next more visit rest ih => exact ⟨ih.1.trans visit.kept.1, ih.2.trans visit.kept.2⟩

/-- Handling new messages gives every link its turn. -/
theorem handleNewMessages_visits (quiet : platform.Quiet) (confined : listener.Confined may)
    (server : WebSocketServer L W τ) :
    (handleNewMessages platform listener).Meets platform.Prompt server
      (fun _ after => Visits platform listener may 0 server after) (fun _ _ => False) := by
  -- The turns that are still to come complete those that were taken, and are fewer in each round.
  refine Program.Meets.iterate (n := server.links.length) (fun left index now =>
    (∀ after, Visits platform listener may index now after → Visits platform listener may 0 server after) ∧
      left = now.links.length - index) ?_ ⟨fun _ later => later, by omega⟩
  rintro left index now ⟨before, rfl⟩
  refine (handleNewMessagesRound_visits quiet confined).mono ?_ fun _ _ impossible => impossible
  rintro (next | done) mid turned
  · obtain ⟨rfl, more, visit⟩ := turned
    have same := congrArg List.length visit.kept.1
    simp only [addresses, List.length_map] at same
    exact ⟨now.links.length - (index + 1), by omega,
      fun after rest => before after (.next more visit rest), by rw [same]⟩
  · obtain ⟨all, rfl⟩ := turned
    exact before _ (.finished all)

end Messages

section Sweep

/-- Links are destroyed one after the other. -/
inductive Destroyed (platform : Platform L W) : List (Connection L) → W → W → Prop
  | nil (world : W) : Destroyed platform [] world world
  | cons {link : Connection L} {rest : List (Connection L)} {ws : L} {world mid after : W}
      (first : platform.destroy.Yields (link.ws, world) () (ws, mid))
      (others : Destroyed platform rest mid after) : Destroyed platform (link :: rest) world after

/-- The links are destroyed in their order, and only the world is changed by that. -/
theorem destroyLinks_meets (quiet : platform.Quiet) (links : List (Connection L))
    (server : WebSocketServer L W τ) :
    (destroyLinks platform links).Meets platform.Prompt server
      (fun _ after => ∃ world, Destroyed platform links server.world world ∧
        after = { server with world := world }) (fun _ _ => False) := by
  -- Induction on the links, which are destroyed one after the other.
  induction links generalizing server with
  | nil => exact Program.meets_pure ⟨server.world, .nil _, rfl⟩
  | cons link rest ih =>
    have gone := quiet_meets (s := (link.ws, server.world)) quiet.destroy
      fun prompt : platform.Prompt => prompt.destroy _
    refine (gone.owning.within WebSocketServer.world _).mono (fun _ _ held => held) ?_ |>.bind ?_
    · rintro _ _ ⟨_, ⟨_, impossible⟩, _⟩
      exact impossible
    · rintro ⟨_, ws⟩ _ ⟨world, first, rfl⟩
      refine (ih _).mono ?_ fun _ _ impossible => impossible
      rintro _ after ⟨world', others, rfl⟩
      exact ⟨world', .cons first others, rfl⟩

/-- The sweep keeps the connected links in their order, and destroys the others. -/
theorem removeClosedLinks_meets (quiet : platform.Quiet) (server : WebSocketServer L W τ) :
    (removeClosedLinks platform).Meets platform.Prompt server
      (fun _ after => ∃ world,
        Destroyed platform (server.links.filter fun link => !platform.isConnected link.ws)
          server.world world ∧
        after = { server with
          links := server.links.filter fun link => platform.isConnected link.ws
          world := world }) (fun _ _ => False) := by
  refine (Program.yields_get server).bind_meets ?_
  -- The links leave the table first, and then they are destroyed.
  refine (Program.yields_update _ server).bind_meets ?_
  exact destroyLinks_meets quiet _ _

end Sweep

end WebSocketServer

end Rcom
