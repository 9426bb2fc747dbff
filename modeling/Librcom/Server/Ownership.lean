import Librcom.Server.Descriptors

/-! Every descriptor is owned by the server socket or by one link, and is closed once in the end. -/

namespace Rcom

open Effects

/-- The socket of a server, and the system it runs on. -/
structure Machine where
  server : BaseSocket
  kernel : Kernel

section Parts

variable {α : Type}

/-- A method of a link's socket. -/
def onKernel (method : BaseSocketM α) : Program (BaseSocket × Machine) Fault α :=
  method.within (fun s => (s.1, s.2.kernel)) fun result s => (result.1, { s.2 with kernel := result.2 })

/-- A method of the server's socket. -/
def onServerSocket (method : BaseSocketM α) : Program Machine Fault α :=
  method.within (fun host => (host.server, host.kernel)) fun result _ => ⟨result.1, result.2⟩

end Parts

/-- Server socket, socket factory and sockets on the system, under WebSockets that do anything. -/
def descriptorPlatform : Platform BaseSocket Machine where
  accept := onServerSocket (BaseSocket.accept 0)
  closeServerSocket := onServerSocket BaseSocket.close
  destroyServerSocket := onServerSocket BaseSocket.close
  newServerSideWebSocket sockfd := do
    let (_, socket) ← (onKernel openServerSide).owning ⟨sockfd⟩
    return socket
  isConnected := BaseSocket.isConnected
  recv _ := do
    let conduct ← onKernel nextConduct
    return (conduct.status, conduct.message)
  send _ _ := do
    let conduct ← onKernel nextConduct
    return conduct.success
  close _ := do
    let _ ← onKernel nextConduct
    return ()
  destroy := onKernel BaseSocket.close

/-- Nothing is thrown but the runtime errors of failed handshakes. -/
theorem descriptorPlatform_quiet : descriptorPlatform.Quiet where
  accept := by
    refine Program.ThrowsOnly.within _ _ ?_
    -- What the wait returns decides if there is a call to `accept`.
    refine (BaseSocket.wait_walks 0).throwsOnly.bind fun status => ?_
    split
    · exact (Program.throwsOnly_act _).bind fun _ => Program.throwsOnly_pure _
    · exact Program.throwsOnly_pure _
  closeServerSocket := BaseSocket.close_walks.throwsOnly.within _ _
  destroyServerSocket := BaseSocket.close_walks.throwsOnly.within _ _
  newServerSideWebSocket sockfd :=
    ((openServerSide_walks.throwsOnly.within _ _).owning _).bind fun _ => Program.throwsOnly_pure _
  recv _ := (nextConduct_walks.throwsOnly.within _ _).bind fun _ => Program.throwsOnly_pure _
  send _ _ := (nextConduct_walks.throwsOnly.within _ _).bind fun _ => Program.throwsOnly_pure _
  close _ := (nextConduct_walks.throwsOnly.within _ _).bind fun _ => Program.throwsOnly_pure _
  destroy := BaseSocket.close_walks.throwsOnly.within _ _

/-- The open descriptors of a machine. -/
def Machine.Holds (host : Machine) (held : Multiset Int) : Prop := host.kernel.held = some held

section Calls

variable {α : Type} {method : BaseSocketM α} {socket socket' : BaseSocket} {host host' : Machine} {a : α}
  {rest : Multiset Int}

/-- A method of a link's socket ensures what the method does. -/
theorem onKernel_ensures {post : α → BaseSocket × Kernel → Prop} {fail : Fault → BaseSocket × Kernel → Prop}
    (ensured : method.Ensures (socket, host.kernel) post fail) :
    (onKernel method).Ensures (socket, host)
      (fun a s => post a (s.1, s.2.kernel) ∧ s.2.server = host.server)
      (fun e s => fail e (s.1, s.2.kernel) ∧ s.2.server = host.server) := by
  refine (Program.Ensures.within (t := (socket, host)) _ ensured).mono ?_ ?_
  · rintro a s ⟨s', holds, rfl⟩
    exact ⟨holds, rfl⟩
  · rintro e s ⟨s', holds, rfl⟩
    exact ⟨holds, rfl⟩

/-- A method of the server's socket ensures what the method does. -/
theorem onServerSocket_ensures {post : α → BaseSocket × Kernel → Prop}
    {fail : Fault → BaseSocket × Kernel → Prop}
    (ensured : method.Ensures (host.server, host.kernel) post fail) :
    (onServerSocket method).Ensures host (fun a host' => post a (host'.server, host'.kernel))
      (fun e host' => fail e (host'.server, host'.kernel)) := by
  refine (Program.Ensures.within (t := host) _ ensured).mono ?_ ?_
  · rintro a _ ⟨s', holds, rfl⟩
    exact holds
  · rintro e _ ⟨s', holds, rfl⟩
    exact holds

/-- A method of a WebSocket works on its own descriptor, and keeps those of the others. -/
theorem onKernel_keeps (holds : host.Holds (socket.owned + rest)) :
    (onKernel nextConduct).Ensures (socket, host)
      (fun _ s => s.2.Holds (s.1.owned + rest) ∧ s.2.server = host.server) (fun _ _ => True) :=
  (onKernel_ensures (walks_own nextConduct_walks holds)).mono (fun _ _ held => held) fun _ _ _ => trivial

/-- To receive over a link keeps what it owns, and what the others own. -/
theorem recv_keeps {message : Bytes} {result : RecvStatus × Bytes}
    (returned : (descriptorPlatform.recv message).Yields (socket, host) result (socket', host'))
    (holds : host.Holds (socket.owned + rest)) :
    host'.Holds (socket'.owned + rest) ∧ host'.server = host.server := by
  have kept : (descriptorPlatform.recv message).Ensures (socket, host)
      (fun _ s => s.2.Holds (s.1.owned + rest) ∧ s.2.server = host.server) (fun _ _ => True) :=
    (onKernel_keeps holds).bind fun _ _ held => Program.ensures_pure held
  exact kept.yields returned

/-- The other calls on a link keep the descriptors of the others, too. -/
theorem call_keeps {call : Program (BaseSocket × Machine) Fault α} (made : descriptorPlatform.LinkCall call)
    (returned : call.Yields (socket, host) a (socket', host')) (holds : host.Holds (socket.owned + rest)) :
    host'.Holds (socket'.owned + rest) ∧ host'.server = host.server := by
  have conducts := onKernel_keeps holds
  -- A send and a close both conduct the socket as its owner may.
  cases made with
  | send message type =>
    have kept : (descriptorPlatform.send message type).Ensures (socket, host)
        (fun _ s => s.2.Holds (s.1.owned + rest) ∧ s.2.server = host.server) (fun _ _ => True) :=
      conducts.bind fun _ _ held => Program.ensures_pure held
    exact kept.yields returned
  | close code =>
    have kept : (descriptorPlatform.close code).Ensures (socket, host)
        (fun _ s => s.2.Holds (s.1.owned + rest) ∧ s.2.server = host.server) (fun _ _ => True) :=
      conducts.bind fun _ _ held => Program.ensures_pure held
    exact kept.yields returned

/-- A link that is destroyed gives its descriptor back. -/
theorem destroy_releases (returned : descriptorPlatform.destroy.Yields (socket, host) () (socket', host'))
    (holds : host.Holds (socket.owned + rest)) : host'.Holds rest ∧ host'.server = host.server := by
  obtain ⟨⟨_, closed⟩, same⟩ :=
    (onKernel_ensures (BaseSocket.close_releases (s := (socket, host.kernel)) holds)).yields returned
  exact ⟨closed, same⟩

end Calls

section Tables

variable {τ : Type} {owner : BaseSocket} {links : List (Connection BaseSocket)} {host host' : Machine}

/-- The descriptors that the links of a table own. -/
def ownedBy (links : List (Connection BaseSocket)) : Multiset Int :=
  (links.map fun link => link.ws.owned).sum

/-- The open descriptors are that of the server socket and those of the links. -/
structure Balanced (owner : BaseSocket) (links : List (Connection BaseSocket)) (host : Machine) : Prop where
  server : host.server = owner
  holds : host.Holds (owner.owned + ownedBy links)

/-- Each link of a table owns its part, and the part of another socket can take its place. -/
theorem ownedBy_set {index : Nat} {link : Connection BaseSocket} (present : links[index]? = some link) :
    ∃ rest, ownedBy links = link.ws.owned + rest ∧
      ∀ ws, ownedBy (links.set index { link with ws := ws }) = ws.owned + rest := by
  induction links generalizing index with
  | nil => simp at present
  | cons first others ih =>
    cases index with
    | zero =>
      -- The link is the first, and the rest is what the others own.
      obtain rfl : first = link := by simpa using present
      exact ⟨ownedBy others, by simp [ownedBy], fun ws => by simp [ownedBy]⟩
    | succ index =>
      -- The link is behind the first, whose part belongs to the rest.
      obtain ⟨rest, whole, changed⟩ := ih (by simpa using present)
      refine ⟨first.ws.owned + rest, ?_, fun ws => ?_⟩
      · show first.ws.owned + ownedBy others = _
        rw [whole, add_left_comm]
      · show first.ws.owned + ownedBy (others.set index { link with ws := ws }) = _
        rw [changed ws, add_left_comm]

/-- The links that are kept and those that are not own the parts of a table. -/
theorem ownedBy_filter (keep : Connection BaseSocket → Bool) (links : List (Connection BaseSocket)) :
    ownedBy links = ownedBy (links.filter keep) + ownedBy (links.filter fun link => !keep link) := by
  induction links with
  | nil => rfl
  | cons link rest ih =>
    have whole : ownedBy (link :: rest) = link.ws.owned + ownedBy rest := rfl
    rw [whole, ih]
    -- The part of the link goes to the side that it is on.
    cases kept : keep link with
    | true =>
      simp only [List.filter_cons, kept, if_true, Bool.not_true, Bool.false_eq_true, if_false]
      show _ = link.ws.owned + ownedBy (rest.filter keep) + _
      rw [add_assoc]
    | false =>
      simp only [List.filter_cons, kept, if_true, Bool.not_false, Bool.false_eq_true, if_false]
      show _ = _ + (link.ws.owned + ownedBy (rest.filter fun link => !keep link))
      rw [add_left_comm]

/-- A table stays balanced when one link is replaced as its descriptor is. -/
theorem Balanced.replaced (balanced : Balanced owner links host) {index : Nat}
    {link : Connection BaseSocket} {ws : BaseSocket} (present : links[index]? = some link)
    (kept : ∀ rest, host.Holds (link.ws.owned + rest) →
      host'.Holds (ws.owned + rest) ∧ host'.server = host.server) :
    Balanced owner (links.set index { link with ws := ws }) host' := by
  -- What the link does leaves the rest alone, which is the server socket and the other links.
  obtain ⟨rest, whole, changed⟩ := ownedBy_set present
  have before := balanced.holds
  rw [whole, add_left_comm] at before
  obtain ⟨after, same⟩ := kept _ before
  refine ⟨same.trans balanced.server, ?_⟩
  rwa [changed ws, add_left_comm]

/-- An accepted descriptor comes to those of the server socket and of the links. -/
theorem accept_gives {sockfd : Int} (accepted : descriptorPlatform.accept.Yields host sockfd host')
    (balanced : Balanced owner links host) :
    host'.server = owner ∧
      host'.Holds (Ledger.gain (descriptor sockfd) + (owner.owned + ownedBy links)) := by
  -- Next to the server socket, what is owned are the links.
  have owns : Owns (ownedBy links) (host.server, host.kernel) := by
    show host.Holds _
    rw [balanced.server]
    exact balanced.holds
  obtain ⟨same, gives⟩ := (onServerSocket_ensures (accept_ensures owns)).yields accepted
  -- Accepting gives a descriptor and leaves the server socket.
  have now : host'.server = owner := same.trans balanced.server
  unfold Owns at gives
  rw [show (host'.server, host'.kernel).1 = owner from now, add_left_comm] at gives
  exact ⟨now, gives⟩

/-- A link that was made of a descriptor owns it, and a failed handshake has closed it. -/
theorem newServerSide_ensures {sockfd : Int} {rest : Multiset Int}
    (holds : host.Holds (Ledger.gain (descriptor sockfd) + rest)) :
    (descriptorPlatform.newServerSideWebSocket sockfd).Ensures host
      (fun ws host' => host'.Holds (ws.owned + rest) ∧ host'.server = host.server)
      (fun _ host' => host'.Holds rest ∧ host'.server = host.server) := by
  -- The factory wraps the descriptor before the handshake, so that the socket owns it from here on.
  have owns : Owns rest (⟨sockfd⟩, host.kernel) := holds
  have opens : (onKernel openServerSide).Ensures (⟨sockfd⟩, host) _ _ :=
    onKernel_ensures (openServerSide_ensures owns)
  refine Program.Ensures.seq opens.owning ?_ ?_
  · rintro e after ⟨_, ⟨_, closed⟩, same⟩
    exact ⟨closed, same⟩
  · rintro ⟨_, socket⟩ after ⟨owns, same⟩
    exact Program.ensures_pure ⟨owns, same⟩

/-- Destroyed links give back what they own. -/
theorem destroyed_releases {rest : Multiset Int}
    (destroyed : WebSocketServer.Destroyed descriptorPlatform links host host')
    (holds : host.Holds (ownedBy links + rest)) : host'.Holds rest ∧ host'.server = host.server := by
  -- Induction on the links: each gives up what it owns, and leaves the others theirs.
  induction destroyed with
  | nil world =>
    have none : ownedBy [] + rest = rest := zero_add rest
    rw [none] at holds
    exact ⟨holds, rfl⟩
  | @cons link others ws world mid after first _ ih =>
    have whole : ownedBy (link :: others) + rest = link.ws.owned + (ownedBy others + rest) :=
      add_assoc _ _ _
    rw [whole] at holds
    obtain ⟨released, same⟩ := destroy_releases first holds
    obtain ⟨all, same'⟩ := ih released
    exact ⟨all, same'.trans same⟩

end Tables

namespace WebSocketServer

variable {τ : Type} {owner : BaseSocket} {may : Nat → Prop} {listener : Listener τ}
  {server after : WebSocketServer BaseSocket Machine τ}

/-- The server's table of links, with its server socket, is balanced. -/
def IsBalanced (owner : BaseSocket) (server : WebSocketServer BaseSocket Machine τ) : Prop :=
  Balanced owner server.links server.world

/-- What is done to links leaves the descriptors balanced. -/
theorem Acted.balanced (acted : Acted descriptorPlatform may server after)
    (balanced : server.IsBalanced owner) : after.IsBalanced owner := by
  induction acted with
  | nothing => exact balanced
  | call _ made present _ returned ih =>
    exact ih.replaced present fun rest holds => call_keeps made returned holds
  | returned _ _ _ ih => exact ih

/-- The turn of a link leaves the descriptors balanced. -/
theorem Visit.balanced {index : Nat} (visit : Visit descriptorPlatform listener may index server after)
    (balanced : server.IsBalanced owner) : after.IsBalanced owner := by
  cases visit with
  | skipped present gone => exact balanced
  | heard type present there returned reacted acted =>
    refine acted.balanced ?_
    exact Balanced.replaced balanced present fun rest holds => recv_keeps returned holds
  | @failed link ws ws' world world' message present there returned closed =>
    have received := Balanced.replaced balanced present fun rest holds => recv_keeps returned holds
    -- The link that is closed is the one that has just been read.
    have again : (server.links.set index { link with ws := ws })[index]? = some { link with ws := ws } := by
      have bound : index < server.links.length := (List.getElem?_eq_some_iff.mp present).1
      simp [bound]
    exact received.replaced again fun rest holds => call_keeps (.close kCloseInternalError) closed holds
  | quiet present there returned idle =>
    exact Balanced.replaced balanced present fun rest holds => recv_keeps returned holds

/-- The turns of all links leave the descriptors balanced. -/
theorem Visits.balanced {index : Nat} (visits : Visits descriptorPlatform listener may index server after)
    (balanced : server.IsBalanced owner) : after.IsBalanced owner := by
  induction visits with
  | finished all => exact balanced
  | next more visit rest ih => exact ih (visit.balanced balanced)

/-- To admit connections leaves the descriptors balanced. -/
theorem Admits.balanced (admits : Admits descriptorPlatform server after)
    (balanced : server.IsBalanced owner) : after.IsBalanced owner := by
  -- An accepted descriptor is that of the new link, or is closed by the time its handshake has failed.
  induction admits with
  | finished accepted invalid =>
    obtain ⟨same, holds⟩ := accept_gives accepted balanced
    have none : descriptor _ = none := if_neg (not_le.mpr invalid)
    rw [none, Ledger.gain_none, zero_add] at holds
    exact ⟨same, holds⟩
  | @admitted server after sockfd ws world world' accepted valid made _ ih =>
    obtain ⟨same, holds⟩ := accept_gives accepted balanced
    obtain ⟨owns, same'⟩ := (newServerSide_ensures holds).yields made
    refine ih ⟨same'.trans same, ?_⟩
    -- The new link comes last, with the descriptor that was accepted.
    have grown : ownedBy (server.links ++ [⟨server.nextAddress, ws⟩]) = ownedBy server.links + ws.owned := by
      simp [ownedBy]
    show world'.Holds (owner.owned + ownedBy (server.links ++ [⟨server.nextAddress, ws⟩]))
    rwa [grown, ← add_assoc, add_comm]
  | refused accepted valid failed _ ih =>
    obtain ⟨same, holds⟩ := accept_gives accepted balanced
    obtain ⟨closed, same'⟩ := (newServerSide_ensures holds).throws failed
    exact ih ⟨same'.trans same, closed⟩

/-- Handling events leaves every descriptor with one owner. -/
theorem handleEvents_balanced (balanced : server.IsBalanced owner) :
    (handleEvents descriptorPlatform listener).Ensures server (fun _ after => after.IsBalanced owner)
      (fun _ _ => False) := by
  have free := listener.confined_true
  -- Nothing escapes the calls of a quiet server.
  refine ⟨fun returned => ?_, fun threw => (handleEvents_quiet descriptorPlatform_quiet server).throws threw⟩
  obtain ⟨opened, served, world, admits, visits, _, destroyed, rfl⟩ :=
    handleEvents_parts descriptorPlatform_quiet free returned
  have mid := visits.balanced (admits.balanced balanced)
  -- The sweep closes what the links that are not kept own.
  have holds := mid.holds
  rw [ownedBy_filter (fun link => descriptorPlatform.isConnected link.ws), ← add_assoc, add_comm] at holds
  obtain ⟨released, same⟩ := destroyed_releases destroyed holds
  exact ⟨same.trans mid.server, released⟩

/-- To handle events any number of times leaves the descriptors balanced. -/
theorem handleEventsTimes_balanced (calls : Nat) (balanced : server.IsBalanced owner) :
    (handleEventsTimes descriptorPlatform listener calls).Ensures server
      (fun _ after => after.IsBalanced owner) (fun _ _ => False) := by
  induction calls with
  | zero => exact Program.ensures_pure balanced
  | succ calls ih => exact ih.bind fun _ mid still => handleEvents_balanced still

/-- Closing the server socket leaves only the descriptors of the links. -/
theorem closesServerSocket (server : WebSocketServer BaseSocket Machine τ) {owner : BaseSocket}
    (balanced : server.IsBalanced owner) :
    (onWorld (onServerSocket BaseSocket.close)).Ensures server
      (fun _ after => after.IsBalanced ⟨kInvalidSocket⟩ ∧ after.links = server.links)
      (fun _ _ => False) := by
  -- The server socket is closed next to the links, which keep theirs.
  have owns : Owns (ownedBy server.links) (server.world.server, server.world.kernel) := by
    show server.world.Holds _
    rw [balanced.server]
    exact balanced.holds
  refine ((onServerSocket_ensures (BaseSocket.close_releases owns)).within fun world server =>
    { server with world := world }).mono ?_ ?_
  · rintro _ _ ⟨host, ⟨invalid, held⟩, rfl⟩
    refine ⟨⟨invalid, ?_⟩, rfl⟩
    rw [BaseSocket.owned_invalid, zero_add]
    exact held
  · rintro _ _ ⟨_, impossible, _⟩
    exact impossible

/-- A destroyed server holds no descriptor. -/
theorem destroy_settles (balanced : server.IsBalanced owner) :
    (destroy descriptorPlatform).Ensures server (fun _ after => after.world.Holds 0)
      (fun _ _ => False) := by
  refine (closesServerSocket server balanced).bind fun _ closed first => ?_
  refine (closeConnected_acts descriptorPlatform_quiet closed).toEnsures.bind fun _ last acted => ?_
  -- Closing the links leaves each with its descriptor, or without one if it has closed it.
  have still := acted.balanced first.1
  refine (Program.yields_get last).bind_ensures ((Program.yields_update _ _).bind_ensures ?_)
  refine (destroyLinks_meets descriptorPlatform_quiet _ _).toEnsures.bind ?_
  rintro _ _ ⟨world, destroyed, rfl⟩
  -- With the server socket closed, the links own all that is open.
  have holds := still.holds
  rw [BaseSocket.owned_invalid, zero_add, ← add_zero (ownedBy _)] at holds
  obtain ⟨released, same⟩ := destroyed_releases destroyed holds
  -- The destructor of the server socket finds it closed.
  have none : IsBalanced ⟨kInvalidSocket⟩ { last with links := [], world := world } :=
    ⟨same.trans still.server, released⟩
  refine (closesServerSocket _ none).mono ?_ fun _ _ impossible => impossible
  rintro _ after ⟨finished, empty⟩
  have settled := finished.holds
  rw [empty] at settled
  exact settled

end WebSocketServer

/-- What the calls on a system were to the descriptors. -/
def Kernel.events (kernel : Kernel) : List (Ledger.Event Int) := kernel.calls.map SystemCall.event

/-- Every descriptor was closed as often as it was given, and no call was made on a closed one. -/
structure Kernel.Settled (kernel : Kernel) : Prop where
  proper : Ledger.Proper kernel.events
  closed : ∀ sockfd, Ledger.gained sockfd kernel.events = Ledger.released sockfd kernel.events

/-- A system on which nothing is open is settled. -/
theorem Kernel.settled_of_held {kernel : Kernel} (held : kernel.held = some 0) : kernel.Settled where
  proper := Ledger.proper_of_holding held
  closed sockfd := by simpa [Kernel.events] using Ledger.count_holding held sockfd

namespace WebSocketServer

variable {τ : Type}

/--
Every open descriptor has its owners, and no call was made on a closed one.

If the system gives no descriptor that is open, one that is not the server's belongs to just one link.
-/
structure Owned (server : WebSocketServer BaseSocket Machine τ) : Prop where
  proper : Ledger.Proper server.world.kernel.events
  owned : ∀ sockfd ≥ 0, Ledger.gained sockfd server.world.kernel.events =
    Ledger.released sockfd server.world.kernel.events +
      ((if server.world.server.sockfd = sockfd then 1 else 0) +
        server.links.countP fun link => link.ws.sockfd = sockfd)
  once : Ledger.Fresh server.world.kernel.events → ∀ sockfd ≥ 0,
    Ledger.released sockfd server.world.kernel.events < Ledger.gained sockfd server.world.kernel.events →
    server.world.server.sockfd ≠ sockfd → (server.links.countP fun link => link.ws.sockfd = sockfd) = 1

/-- A socket owns its descriptor once. -/
theorem owned_count (socket : BaseSocket) {sockfd : Int} (valid : sockfd ≥ 0) :
    socket.owned.count sockfd = if socket.sockfd = sockfd then 1 else 0 := by
  unfold BaseSocket.owned descriptor
  split
  · by_cases same : socket.sockfd = sockfd
    · simp [Ledger.gain, same]
    · simp [Ledger.gain, same, Ne.symm same]
  · have different : socket.sockfd ≠ sockfd := by omega
    simp [Ledger.gain, different]

/-- Links own a descriptor as often as they have it. -/
theorem ownedBy_count (links : List (Connection BaseSocket)) {sockfd : Int} (valid : sockfd ≥ 0) :
    (ownedBy links).count sockfd = links.countP fun link => link.ws.sockfd = sockfd := by
  induction links with
  | nil => rfl
  | cons link rest ih =>
    show (link.ws.owned + ownedBy rest).count sockfd = _
    rw [Multiset.count_add, owned_count _ valid, ih, List.countP_cons, add_comm]
    simp

/-- The descriptors of a balanced server have their owners. -/
theorem IsBalanced.owned {server : WebSocketServer BaseSocket Machine τ} {owner : BaseSocket}
    (balanced : server.IsBalanced owner) : server.Owned := by
  have counts : ∀ sockfd ≥ 0, Ledger.gained sockfd server.world.kernel.events =
      Ledger.released sockfd server.world.kernel.events +
        ((if server.world.server.sockfd = sockfd then 1 else 0) +
          server.links.countP fun link => link.ws.sockfd = sockfd) := by
    intro sockfd valid
    have counted := Ledger.count_holding balanced.holds sockfd
    rwa [Multiset.count_add, owned_count _ valid, ownedBy_count _ valid, ← balanced.server] at counted
  -- What is open is counted, and a descriptor is counted once as long as none is given twice.
  refine ⟨Ledger.proper_of_holding balanced.holds, counts, fun fresh sockfd valid isOpen others => ?_⟩
  have counted := counts sockfd valid
  have bounded := Ledger.gained_le_of_fresh fresh sockfd
  rw [if_neg others] at counted
  omega

/-- The system calls of any run leave every descriptor with its owner, and closed once in the end. -/
theorem descriptors_closed_once (listener : Listener τ) (state : τ) (outcomes : Stream' CallOutcome)
    (conducts : Stream' Conduct) :
    (∀ e socket kernel,
      openServerSocket.Throws (⟨kInvalidSocket⟩, .boot outcomes conducts) e (socket, kernel) →
      kernel.Settled) ∧
    ∀ socket kernel,
      openServerSocket.Yields (⟨kInvalidSocket⟩, .boot outcomes conducts) () (socket, kernel) →
      ∀ calls,
        (∀ after, (handleEventsTimes descriptorPlatform listener calls).Yields
          (.create state ⟨socket, kernel⟩) () after → after.Owned) ∧
        (∀ after, (do
          handleEventsTimes descriptorPlatform listener calls
          destroy descriptorPlatform).Yields (.create state ⟨socket, kernel⟩) () after →
            after.world.kernel.Settled) ∧
        ∀ e after, ¬ (do
          handleEventsTimes descriptorPlatform listener calls
          destroy descriptorPlatform).Throws (.create state ⟨socket, kernel⟩) e after := by
  have nothing : (Kernel.boot outcomes conducts).held = some 0 := rfl
  -- The server socket is opened where no descriptor is open yet.
  have opens := openServerSocket_ensures nothing
  refine ⟨fun e socket kernel threw => Kernel.settled_of_held (opens.throws threw).2, ?_⟩
  intro socket kernel opened calls
  have balanced : (create state ⟨socket, kernel⟩ : WebSocketServer BaseSocket Machine τ).IsBalanced socket :=
    ⟨rfl, opens.yields opened⟩
  have handles : (handleEventsTimes descriptorPlatform listener calls).Ensures _ _ _ :=
    handleEventsTimes_balanced calls balanced
  -- Destroying the server gives back what is left after any number of calls.
  have ends := handles.bind fun _ _ still => destroy_settles still
  exact ⟨fun after returned => (handles.yields returned).owned,
    fun after returned => Kernel.settled_of_held (ends.yields returned), fun e after => ends.throws⟩

end WebSocketServer

end Rcom
