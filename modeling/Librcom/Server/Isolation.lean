import Librcom.Server.Network
import Librcom.Server.Table

/-! What a link receives does not depend on the other links, though all receive into one buffer. -/

namespace Rcom

open Effects

/-- The entry is about the turn of the link at an address. -/
def Entry.concerns (address : Nat) : Entry → Bool
  | .accepted _ _ => false
  | .turn link _ => link == address
  | .received link _ _ => link == address
  | .heard link _ _ => link == address

/-- What is seen of the turns of one link: the answers of `recv`, and the calls of the listener. -/
def seenOf (address : Nat) (log : List Entry) : List Entry := log.filter (Entry.concerns address)

/-- What is seen of a link in two logs is seen in each. -/
theorem seenOf_append (address : Nat) (front back : List Entry) :
    seenOf address (front ++ back) = seenOf address front ++ seenOf address back :=
  List.filter_append front back

/-- The entries of a turn are about its link. -/
theorem seenOf_entries (address : Nat) (turn : LinkTurn) :
    seenOf address turn.entries = if turn.link = address then turn.entries else [] := by
  obtain ⟨link, answer⟩ := turn
  -- An entry of a turn is about the link whose turn it is, whatever it says.
  have heard : ∀ status message, ∀ entry ∈ heardEntries link status message,
      entry.concerns address = (link == address) := by
    intro status message entry member
    cases status <;> simp_all [heardEntries, Entry.concerns]
  have all : ∀ entry ∈ LinkTurn.entries ⟨link, answer⟩, entry.concerns address = (link == address) := by
    intro entry member
    rcases answer with _ | ⟨status, message⟩
    · simp only [LinkTurn.entries, List.mem_singleton] at member
      rw [member]
      rfl
    · rcases List.mem_cons.mp member with rfl | member
      · rfl
      · rcases List.mem_cons.mp member with rfl | member
        · rfl
        · exact heard status message entry member
  unfold seenOf
  -- So that all entries are seen of that link, and none of any other.
  by_cases same : link = address
  · rw [if_pos same]
    exact List.filter_eq_self.mpr fun entry member => by rw [all entry member]; simpa using same
  · rw [if_neg same]
    exact List.filter_eq_nil_iff.mpr fun entry member => by rw [all entry member]; simpa using same

/-- A method of a WebSocket returns what it returns on its own, and leaves the network. -/
theorem onItself_yields {α : Type} {method : WebSocketM α} {ws ws' : WebSocket}
    {network network' : Surroundings} {a : α}
    (returned : (onItself method).Yields (ws, network) a (ws', network')) :
    method.Yields ws a ws' ∧ network' = network := by
  -- The method sees its own link only, and the network is put back as it was.
  have alone : method.Ensures ws (fun a ws' => method.Yields ws a ws') (fun _ _ => True) :=
    ⟨fun ended => ended, fun _ => trivial⟩
  have whole : (onItself method).Ensures (ws, network)
      (fun a s => ∃ ws', method.Yields ws a ws' ∧ s = (ws', network)) (fun _ _ => True) :=
    (Program.Ensures.within (fun ws (s : WebSocket × Surroundings) => (ws, s.2)) alone).mono
      (fun _ _ held => held) fun _ _ _ => trivial
  obtain ⟨own, ended, same⟩ := whole.yields returned
  cases same
  exact ⟨ended, rfl⟩

/-- Receiving begins by emptying the buffer, so that what it holds does not matter. -/
theorem recv_ignores_buffer {message : Bytes} {ws ws' : WebSocket} {result : RecvStatus × Bytes}
    (returned : (Rcom.recv .server message 0).Yields ws result ws') :
    (Rcom.recv .server [] 0).Yields ws result ws' := by
  have alike : (Rcom.recv .server [] 0).Agrees (Rcom.recv .server message 0) ws := fun fuel => rfl
  exact alike.yields returned

/-- What handling events does to a link that nobody else acts on. -/
inductive Undisturbed (ws : WebSocket) : Option (RecvStatus × Bytes) → WebSocket → Prop
  | gone (disconnected : ws.socket.connected = false) : Undisturbed ws none ws
  | received {status : RecvStatus} {message : Bytes} {ws' : WebSocket}
      (connected : ws.socket.connected = true)
      (returned : (Rcom.recv .server [] 0).Yields ws (status, message) ws')
      (fine : status ≠ .kRecvError) : Undisturbed ws (some (status, message)) ws'
  | failed {message : Bytes} {ws' ws'' : WebSocket} (connected : ws.socket.connected = true)
      (returned : (Rcom.recv .server [] 0).Yields ws (.kRecvError, message) ws')
      (closed : (Rcom.close .server kCloseInternalError).Yields ws' () ws'') :
      Undisturbed ws (some (.kRecvError, message)) ws''

/-- The state of the link decides what becomes of it. -/
theorem Undisturbed.unique {ws ws₁ ws₂ : WebSocket} {answer₁ answer₂ : Option (RecvStatus × Bytes)}
    (first : Undisturbed ws answer₁ ws₁) (second : Undisturbed ws answer₂ ws₂) :
    answer₁ = answer₂ ∧ ws₁ = ws₂ := by
  -- The link decides what it does, so that both runs go the same way.
  cases first with
  | gone disconnected =>
    cases second with
    | gone _ => exact ⟨rfl, rfl⟩
    | received connected _ _ => simp [connected] at disconnected
    | failed connected _ _ => simp [connected] at disconnected
  | received connected returned fine =>
    cases second with
    | gone disconnected => simp [connected] at disconnected
    | received _ returned' _ =>
      obtain ⟨same, rfl⟩ := returned.unique returned'
      exact ⟨by rw [same], rfl⟩
    | failed _ returned' _ =>
      obtain ⟨same, _⟩ := returned.unique returned'
      cases same
      exact absurd rfl fine
  | failed connected returned closed =>
    cases second with
    | gone disconnected => simp [connected] at disconnected
    | received _ returned' fine =>
      obtain ⟨same, _⟩ := returned.unique returned'
      cases same
      exact absurd rfl fine
    | failed _ returned' closed' =>
      obtain ⟨same, rfl⟩ := returned.unique returned'
      cases same
      exact ⟨rfl, (closed.unique closed').2⟩

namespace WebSocketServer

variable {τ : Type} {sha1 : Sha1} {listener : Listener τ} {p : Nat}

section World

variable {may : Nat → Prop} {server after : WebSocketServer WebSocket Surroundings τ}

/-- Acting on links leaves the network. -/
theorem Acted.world (acted : Acted (webSocketPlatform sha1) may server after) :
    after.world = server.world := by
  induction acted with
  | nothing => rfl
  -- A call acts on its own link and returns the surroundings as they were.
  | call before made found allowed returned ih =>
    cases made with
    | send message type => exact (onItself_yields returned).2.trans ih
    | close code => exact (onItself_yields returned).2.trans ih
  | returned listener message before ih => exact ih

/-- The turns of links leave the network. -/
theorem Visits.world {index : Nat} (visits : Visits (webSocketPlatform sha1) listener may index server after) :
    after.world = server.world := by
  induction visits with
  | finished all => rfl
  | next more visit rest ih =>
    refine ih.trans ?_
    -- Every kind of visit works on the links alone.
    cases visit with
    | skipped found gone => rfl
    | heard type found there returned reacted acted =>
      exact (Acted.world acted).trans (onItself_yields returned).2
    | failed found there returned closed =>
      exact (onItself_yields closed).2.trans (onItself_yields returned).2
    | quiet found there returned idle => exact (onItself_yields returned).2

/-- Destroying links leaves the network. -/
theorem Destroyed.world {links : List (Connection WebSocket)} {network network' : Surroundings}
    (destroyed : Destroyed (webSocketPlatform sha1) links network network') : network' = network := by
  induction destroyed with
  | nil => rfl
  | cons first others ih =>
    obtain ⟨_, same⟩ := first.unique (Program.yields_update _ _)
    rw [ih, (Prod.mk.inj same).2]

end World

/-- Acting on other links leaves a link. -/
theorem Acted.spares {server after : WebSocketServer WebSocket Surroundings τ} {k : Nat} {ws : WebSocket}
    (acted : Acted (webSocketPlatform sha1) (· ≠ p) server after)
    (present : server.links[k]? = some ⟨p, ws⟩) : after.links[k]? = some ⟨p, ws⟩ := by
  induction acted with
  | nothing => exact present
  | @call α call mid index link a ws' world before made found allowed returned ih =>
    -- The call was allowed on its link, and the link at `k` has the address that is not.
    have elsewhere : index ≠ k := by
      rintro rfl
      rw [ih] at found
      cases found
      exact allowed rfl
    simpa only [updated, List.getElem?_set_ne elsewhere] using ih
  | returned listener message before ih => exact ih

/-- A server whose links have addresses of their own. -/
structure WellFormed {L W : Type} (server : WebSocketServer L W τ) : Prop where
  distinct : server.addresses.Nodup
  known : ∀ address ∈ server.addresses, address < server.nextAddress

section Turns

variable {server after : WebSocketServer WebSocket Surroundings τ} {index k : Nat} {ws : WebSocket}

/-- Two places of a table with the same address are one place. -/
theorem same_place {L W : Type} {server : WebSocketServer L W τ} (distinct : server.addresses.Nodup)
    {i j : Nat} {address : Nat} (left : server.addresses[i]? = some address)
    (right : server.addresses[j]? = some address) : i = j :=
  (List.getElem?_inj (List.getElem?_eq_some_iff.mp left).1 distinct).mp (left.trans right.symm)

/-- The address of a link stands at the place of the link. -/
theorem address_at {L W : Type} {server : WebSocketServer L W τ} {i : Nat} {link : Connection L}
    (present : server.links[i]? = some link) : server.addresses[i]? = some link.address := by
  simp [addresses, present]

/-- The address of a link stands at no other place. -/
theorem address_elsewhere {L W : Type} {server : WebSocketServer L W τ}
    (distinct : server.addresses.Nodup) {i j : Nat} {link : Connection L}
    (present : server.links[j]? = some link) (elsewhere : i ≠ j) :
    server.addresses[i]? ≠ some link.address := by
  intro here
  exact elsewhere (same_place distinct here (address_at present))

/-- The turn of another link leaves a link. -/
theorem Visit.spares (visit : Visit (webSocketPlatform sha1) listener (· ≠ p) index server after)
    (present : server.links[k]? = some ⟨p, ws⟩) (elsewhere : index ≠ k) :
    after.links[k]? = some ⟨p, ws⟩ := by
  -- A visit changes the link at its own index, and broadcasts within it spare this one.
  cases visit with
  | skipped found gone => exact present
  | @heard link ws' world message after type found there returned reacted acted =>
    refine Acted.spares acted ?_
    simpa only [logged, served, updated, List.getElem?_set_ne elsewhere] using present
  | failed found there returned closed =>
    simpa only [served, updated, List.getElem?_set_ne elsewhere] using present
  | quiet found there returned idle =>
    simpa only [served, updated, List.getElem?_set_ne elsewhere] using present

/-- On its own turn a link is served as it would be alone. -/
theorem Visit.own (visit : Visit (webSocketPlatform sha1) listener (· ≠ p) k server after)
    (present : server.links[k]? = some ⟨p, ws⟩) :
    ∃ answer ws', Undisturbed ws answer ws' ∧ after.links[k]? = some ⟨p, ws'⟩ ∧
      after.log = server.log ++ LinkTurn.entries ⟨p, answer⟩ := by
  have bound : k < server.links.length := (List.getElem?_eq_some_iff.mp present).1
  cases visit with
  | skipped found gone =>
    -- The buffer of the caller differs, and the link does not look at it.
    rw [present] at found
    cases found
    exact ⟨none, ws, .gone gone, present, rfl⟩
  | @heard link ws' world message after type found there returned reacted acted =>
    rw [present] at found
    cases found
    refine ⟨some (statusOf type, message), ws', ?_, Acted.spares acted ?_, ?_⟩
    · refine .received there (recv_ignores_buffer (onItself_yields returned).1) ?_
      cases type with
      -- A message is none of the ways in which a receive fails.
      | kTextMessage => decide
      | kBinaryMessage => decide
    · simp [logged, served, updated, bound]
    · -- What the listener does with the message is not noted among the turns.
      rw [acted.kept.2.1]
      cases type with
      | kTextMessage => simp [logged, served, statusOf, LinkTurn.entries, heardEntries]
      | kBinaryMessage => simp [logged, served, statusOf, LinkTurn.entries, heardEntries]
  | @failed link ws' ws'' world world' message found there returned closed =>
    rw [present] at found
    cases found
    -- The link is closed in the state in which the receive left it.
    obtain ⟨alone, _⟩ := onItself_yields returned
    obtain ⟨alone', _⟩ := onItself_yields closed
    refine ⟨some (.kRecvError, message), ws'', .failed there (recv_ignores_buffer alone) alone', ?_, ?_⟩
    · simp [served, updated, bound]
    · simp [served, updated, LinkTurn.entries, heardEntries]
  | @quiet link ws' world status message found there returned idle =>
    rw [present] at found
    cases found
    refine ⟨some (status, message), ws', ?_, ?_, ?_⟩
    · refine .received there (recv_ignores_buffer (onItself_yields returned).1) ?_
      -- Without a message, the status is one of those that leave the link alone.
      rcases idle with rfl | rfl
      · decide
      · decide
    · simp [served, updated, bound]
    · rcases idle with rfl | rfl
      · simp [served, LinkTurn.entries, heardEntries]
      · simp [served, LinkTurn.entries, heardEntries]

/-- The turn of another link is not about a link. -/
theorem Visit.unseen {L W : Type} {platform : Platform L W} {may : Nat → Prop}
    {server after : WebSocketServer L W τ} (visit : Visit platform listener may index server after)
    (other : server.addresses[index]? ≠ some p) : seenOf p after.log = seenOf p server.log := by
  obtain ⟨turn, here, seen⟩ := visit.seen
  have elsewhere : turn.link ≠ p := by
    rintro rfl
    exact other here
  have none := seenOf_entries p turn
  rw [if_neg elsewhere] at none
  rw [seen, seenOf_append, none, List.append_nil]

/-- The turns that come after that of a link leave it, and are not about it. -/
theorem Visits.spares (visits : Visits (webSocketPlatform sha1) listener (· ≠ p) index server after)
    (distinct : server.addresses.Nodup) (present : server.links[k]? = some ⟨p, ws⟩)
    (later : k < index) :
    after.links[k]? = some ⟨p, ws⟩ ∧ seenOf p after.log = seenOf p server.log := by
  induction visits with
  | finished all => exact ⟨present, rfl⟩
  | @next index server mid after more visit rest ih =>
    have still := Visit.spares visit present (by omega)
    -- A turn that comes later is at another place, and so is about another link.
    have other := address_elsewhere distinct present (by omega : index ≠ k)
    obtain ⟨last, seen⟩ := ih (visit.kept.1 ▸ distinct) still (by omega)
    exact ⟨last, seen.trans (visit.unseen other)⟩

/-- When all links have had their turns, each was served as it would be alone. -/
theorem Visits.own (visits : Visits (webSocketPlatform sha1) listener (· ≠ p) index server after)
    (distinct : server.addresses.Nodup) (present : server.links[k]? = some ⟨p, ws⟩)
    (coming : index ≤ k) :
    ∃ answer ws', Undisturbed ws answer ws' ∧ after.links[k]? = some ⟨p, ws'⟩ ∧
      seenOf p after.log = seenOf p server.log ++ LinkTurn.entries ⟨p, answer⟩ := by
  induction visits with
  | @finished index server all =>
    have inside : k < server.links.length := (List.getElem?_eq_some_iff.mp present).1
    omega
  | @next index server mid after more visit rest ih =>
    -- Turns keep the addresses, so that the place still belongs to the same link.
    have distinct' : mid.addresses.Nodup := visit.kept.1 ▸ distinct
    rcases Nat.lt_or_eq_of_le coming with earlier | rfl
    · -- The turn of an earlier link changes nothing here.
      have still := Visit.spares visit present (by omega)
      have other := address_elsewhere distinct present (by omega : index ≠ k)
      obtain ⟨answer, ws', undisturbed, found, seen⟩ := ih distinct' still earlier
      exact ⟨answer, ws', undisturbed, found, by rw [seen, visit.unseen other]⟩
    · -- The link has its own turn, and those behind it leave what came of it.
      obtain ⟨answer, ws', undisturbed, found, seen⟩ := Visit.own visit present
      obtain ⟨last, unseen⟩ := Visits.spares rest distinct' found (by omega)
      refine ⟨answer, ws', undisturbed, last, ?_⟩
      have own := seenOf_entries p ⟨p, answer⟩
      rw [if_pos rfl] at own
      rw [unseen, seen, seenOf_append, own]

end Turns

section Runs

/-- The link at an address. -/
def linkAt {L W : Type} (server : WebSocketServer L W τ) (address : Nat) : Option L :=
  (server.links.find? fun link => link.address == address).map (·.ws)

/-- The link at an address is the one link of the table that has it. -/
theorem linkAt_eq_some {L W : Type} {server : WebSocketServer L W τ} (distinct : server.addresses.Nodup)
    {ws : L} : server.linkAt p = some ws ↔ ⟨p, ws⟩ ∈ server.links := by
  constructor
  · intro found
    obtain ⟨link, first, rfl⟩ := Option.map_eq_some_iff.mp found
    have named : link.address = p := by simpa using List.find?_some first
    exact named ▸ List.mem_of_find?_eq_some first
  · -- The first link that is found has the address, and no other link has.
    intro member
    obtain ⟨k, present⟩ := List.mem_iff_getElem?.mp member
    cases first : server.links.find? fun link => link.address == p with
    | none =>
      have missed := List.find?_eq_none.mp first _ member
      simp at missed
    | some link =>
      obtain ⟨k', here⟩ := List.mem_iff_getElem?.mp (List.mem_of_find?_eq_some first)
      have named : link.address = p := by simpa using List.find?_some first
      -- Two places with one address are one place.
      obtain rfl := same_place distinct (named ▸ address_at here) (address_at present)
      rw [present] at here
      cases here
      simp [linkAt, first]

/-- An address without a link is not in the table. -/
theorem linkAt_eq_none {L W : Type} {server : WebSocketServer L W τ} :
    server.linkAt p = none ↔ p ∉ server.addresses := by
  simp [linkAt, addresses]

/-- Two servers in the same surroundings, which look the same from the link at an address. -/
structure Alike {L W : Type} (p : Nat) (first second : WebSocketServer L W τ) : Prop where
  link : first.linkAt p = second.linkAt p
  world : first.world = second.world
  nextAddress : first.nextAddress = second.nextAddress
  seen : seenOf p first.log = seenOf p second.log

/-- Servers in the same surroundings admit the same connections. -/
theorem Admits.alike {L W : Type} {platform : Platform L W} {first second opened opened' : WebSocketServer L W τ}
    (admits : Admits platform first opened) (world : first.world = second.world)
    (next : first.nextAddress = second.nextAddress) (admits' : Admits platform second opened') :
    ∃ links log, opened.links = first.links ++ links ∧ opened'.links = second.links ++ links ∧
      opened.log = first.log ++ log ∧ opened'.log = second.log ++ log ∧
      opened.world = opened'.world ∧ opened.nextAddress = opened'.nextAddress := by
  -- Induction on what the first server admits: the second is in the same world, and admits the same.
  induction admits generalizing second with
  | @finished server sockfd world₁ accepted none =>
    rw [world] at accepted
    cases admits' with
    | finished accepted' none' =>
      -- Neither accepts anything, and both are done.
      obtain ⟨_, rfl⟩ := accepted.unique accepted'
      exact ⟨[], [], by simp, by simp, by simp, by simp, rfl, next⟩
    | admitted accepted' valid _ _ =>
      obtain ⟨rfl, _⟩ := accepted.unique accepted'
      omega
    | refused accepted' valid _ _ =>
      obtain ⟨rfl, _⟩ := accepted.unique accepted'
      omega
  | @admitted server after sockfd ws world₁ world₂ accepted valid made rest ih =>
    rw [world] at accepted
    cases admits' with
    | finished accepted' none =>
      obtain ⟨rfl, _⟩ := accepted.unique accepted'
      omega
    | admitted accepted' _ made' rest' =>
      obtain ⟨rfl, rfl⟩ := accepted.unique accepted'
      obtain ⟨rfl, rfl⟩ := made.unique made'
      -- The two connections give the same link, so that the rest goes alike.
      obtain ⟨links, log, left, right, logged, logged', worlds, nexts⟩ :=
        ih (rfl : _ = (second.admitted sockfd ws world₂).world) (congrArg (· + 1) next) rest'
      refine ⟨⟨server.nextAddress, ws⟩ :: links, .accepted sockfd (some server.nextAddress) :: log,
        ?_, ?_, ?_, ?_, worlds, nexts⟩
      · rw [left]
        simp [WebSocketServer.admitted]
      · rw [right]
        simp [WebSocketServer.admitted, next]
      · rw [logged]
        simp [WebSocketServer.admitted]
      · rw [logged']
        simp [WebSocketServer.admitted, next]
    | refused accepted' _ failed _ =>
      obtain ⟨rfl, rfl⟩ := accepted.unique accepted'
      exact absurd failed made.not_throws
  | @refused server after sockfd what world₁ world₂ accepted valid failed rest ih =>
    rw [world] at accepted
    cases admits' with
    | finished accepted' none =>
      obtain ⟨rfl, _⟩ := accepted.unique accepted'
      omega
    | admitted accepted' _ made _ =>
      obtain ⟨rfl, rfl⟩ := accepted.unique accepted'
      exact absurd failed made.not_throws
    | refused accepted' _ failed' rest' =>
      obtain ⟨rfl, rfl⟩ := accepted.unique accepted'
      obtain ⟨_, rfl⟩ := failed.unique failed'
      -- Neither gets a link of a handshake that failed.
      obtain ⟨links, log, left, right, logged, logged', worlds, nexts⟩ :=
        ih (rfl : _ = (second.refused sockfd world₂).world) next rest'
      refine ⟨links, .accepted sockfd none :: log, left, right, ?_, ?_, worlds, nexts⟩
      · rw [logged]
        simp [WebSocketServer.refused]
      · rw [logged']
        simp [WebSocketServer.refused]

/-- Admitting connections leaves the table well formed. -/
theorem Admits.wellFormed {L W : Type} {platform : Platform L W} {server opened : WebSocketServer L W τ}
    (admits : Admits platform server opened) (wellFormed : server.WellFormed) : opened.WellFormed := by
  obtain ⟨links, accepted, _, between, distinct, grown, form⟩ := admits.framed
  -- The new links stand behind the old ones.
  have table : opened.addresses = server.addresses ++ links.map (·.address) := by
    rw [form]
    simp [addresses]
  refine ⟨?_, fun address member => ?_⟩
  · rw [table]
    refine List.nodup_append'.mpr ⟨wellFormed.distinct, distinct, ?_⟩
    -- Old addresses lie below the first new one.
    intro address old new
    have below := wellFormed.known address old
    have above := (between address new).1
    omega
  · rw [table] at member
    rcases List.mem_append.mp member with old | new
    · have below := wellFormed.known address old
      omega
    · exact (between address new).2

/-- The sweep leaves the link at an address if it is connected. -/
theorem linkAt_swept {L W : Type} (platform : Platform L W) {server : WebSocketServer L W τ}
    (distinct : server.addresses.Nodup) (world : W) :
    linkAt { server with
      links := server.links.filter fun link => platform.isConnected link.ws
      world := world } p = (server.linkAt p).filter platform.isConnected := by
  -- The links that are left have different addresses still.
  have distinct' : (addresses { server with
      links := server.links.filter fun link => platform.isConnected link.ws
      world := world }).Nodup :=
    distinct.sublist (List.filter_sublist.map _)
  ext ws
  rw [linkAt_eq_some distinct', Option.filter_eq_some_iff, linkAt_eq_some distinct, List.mem_filter]

/-- What is seen of a link that is not in the table is nothing. -/
theorem Visits.absent {L W : Type} {platform : Platform L W} {may : Nat → Prop}
    {server after : WebSocketServer L W τ} (visits : Visits platform listener may 0 server after)
    (absent : p ∉ server.addresses) : seenOf p after.log = seenOf p server.log := by
  obtain ⟨turns, table, seen⟩ := visits.seen
  rw [List.drop_zero] at table
  -- No turn is that of the absent link, so that no entry is about it.
  have others : ∀ turn ∈ turns, turn.link ≠ p := by
    rintro turn member rfl
    exact absent (table ▸ List.mem_map_of_mem member)
  have none : seenOf p (turns.flatMap LinkTurn.entries) = [] := by
    refine List.filter_eq_nil_iff.mpr fun entry member => ?_
    obtain ⟨turn, taken, within⟩ := List.mem_flatMap.mp member
    have unseen := seenOf_entries p turn
    rw [if_neg (others turn taken)] at unseen
    exact List.filter_eq_nil_iff.mp unseen entry within
  rw [seen, seenOf_append, none, List.append_nil]

variable {first second : WebSocketServer WebSocket Surroundings τ}

/-- All links have their turns, and the link at an address fares the same on both servers. -/
theorem Visits.alike {served served' : WebSocketServer WebSocket Surroundings τ}
    (visits : Visits (webSocketPlatform sha1) listener (· ≠ p) 0 first served)
    (visits' : Visits (webSocketPlatform sha1) listener (· ≠ p) 0 second served')
    (alike : first.Alike p second) (distinct : first.addresses.Nodup)
    (distinct' : second.addresses.Nodup) : served.Alike p served' := by
  have world : served.world = served'.world := by
    rw [Visits.world visits, Visits.world visits', alike.world]
  have next : served.nextAddress = served'.nextAddress := by
    rw [visits.kept.2, visits'.kept.2, alike.nextAddress]
  cases here : first.linkAt p with
  | none =>
    -- The address is in neither table, and nothing is seen of it.
    have there : second.linkAt p = none := alike.link ▸ here
    have absent := linkAt_eq_none.mp here
    have absent' := linkAt_eq_none.mp there
    refine ⟨?_, world, next, ?_⟩
    · rw [linkAt_eq_none.mpr (visits.kept.1 ▸ absent), linkAt_eq_none.mpr (visits'.kept.1 ▸ absent')]
    · rw [visits.absent absent, visits'.absent absent', alike.seen]
  | some ws =>
    have there : second.linkAt p = some ws := alike.link ▸ here
    obtain ⟨k, present⟩ := List.mem_iff_getElem?.mp ((linkAt_eq_some distinct).mp here)
    obtain ⟨k', present'⟩ := List.mem_iff_getElem?.mp ((linkAt_eq_some distinct').mp there)
    obtain ⟨answer, ws', undisturbed, found, seen⟩ :=
      Visits.own visits distinct present (Nat.zero_le k)
    obtain ⟨answer', ws'', undisturbed', found', seen'⟩ :=
      Visits.own visits' distinct' present' (Nat.zero_le k')
    -- The state of the link was the same, and it decided what became of it.
    obtain ⟨rfl, rfl⟩ := undisturbed.unique undisturbed'
    refine ⟨?_, world, next, ?_⟩
    · rw [(linkAt_eq_some (visits.kept.1 ▸ distinct)).mpr (List.mem_of_getElem? found),
        (linkAt_eq_some (visits'.kept.1 ▸ distinct')).mpr (List.mem_of_getElem? found')]
    · rw [seen, seen', alike.seen]

/-- Handling events keeps a server well formed, and two servers alike. -/
theorem handleEvents_alike {after after' : WebSocketServer WebSocket Surroundings τ}
    (confined : listener.Confined (· ≠ p)) (alike : first.Alike p second)
    (wellFormed : first.WellFormed) (wellFormed' : second.WellFormed)
    (returned : (handleEvents (webSocketPlatform sha1) listener).Yields first () after)
    (returned' : (handleEvents (webSocketPlatform sha1) listener).Yields second () after') :
    after.Alike p after' ∧ after.WellFormed ∧ after'.WellFormed := by
  have quiet := webSocketPlatform_quiet sha1
  obtain ⟨opened, served, world, admits, visits, _, destroyed, rfl⟩ :=
    handleEvents_parts quiet confined returned
  obtain ⟨opened', served', world', admits', visits', _, destroyed', rfl⟩ :=
    handleEvents_parts quiet confined returned'
  have sound := admits.wellFormed wellFormed
  have sound' := admits'.wellFormed wellFormed'
  -- The sweep keeps the addresses distinct and known.
  have swept : ∀ {opened served : WebSocketServer WebSocket Surroundings τ} {world : Surroundings},
      opened.WellFormed → Visits (webSocketPlatform sha1) listener (· ≠ p) 0 opened served →
      WellFormed { served with
        links := served.links.filter fun link => (webSocketPlatform sha1).isConnected link.ws
        world := world } := by
    intro opened served world sound visits
    have distinct : served.addresses.Nodup := visits.kept.1 ▸ sound.distinct
    refine ⟨distinct.sublist (List.filter_sublist.map _), fun address member => ?_⟩
    have old : address ∈ served.addresses := (List.filter_sublist.map _).subset member
    show address < served.nextAddress
    rw [visits.kept.2]
    exact sound.known address (visits.kept.1 ▸ old)
  refine ⟨?_, swept sound visits, swept sound' visits'⟩
  obtain ⟨links, log, left, right, logged, logged', worlds, nexts⟩ :=
    admits.alike alike.world alike.nextAddress admits'
  -- The links that are admitted stand behind those that differ.
  have opening : opened.Alike p opened' := by
    refine ⟨?_, worlds, nexts, by rw [logged, logged', seenOf_append, seenOf_append, alike.seen]⟩
    have same := alike.link
    unfold linkAt at same ⊢
    rw [left, right, List.find?_append, List.find?_append, Option.map_or, Option.map_or, same]
  -- Nor does any of the turns tell the two servers apart.
  have serving := Visits.alike visits visits' opening sound.distinct sound'.distinct
  refine ⟨?_, ?_, serving.nextAddress, serving.seen⟩
  · rw [linkAt_swept _ (visits.kept.1 ▸ sound.distinct), linkAt_swept _ (visits'.kept.1 ▸ sound'.distinct),
      serving.link]
  · show world = world'
    rw [Destroyed.world destroyed, Destroyed.world destroyed', serving.world]

end Runs

section Isolation

/-- The server, where the link at an address has other bytes coming in. -/
def withIncoming (server : WebSocketServer WebSocket Surroundings τ) (address : Nat) (incoming : Bytes) :
    WebSocketServer WebSocket Surroundings τ :=
  { server with
    links := server.links.map fun link =>
      if link.address = address then
        { link with ws := { link.ws with socket := { link.ws.socket with incoming := incoming } } }
      else link }

/-- What comes in over a link leaves the table. -/
theorem addresses_withIncoming (server : WebSocketServer WebSocket Surroundings τ) (address : Nat)
    (incoming : Bytes) : (server.withIncoming address incoming).addresses = server.addresses := by
  simp only [addresses, withIncoming, List.map_map]
  refine List.map_congr_left fun link _ => ?_
  show (if link.address = address then _ else link : Connection WebSocket).address = link.address
  split
  · rfl
  · rfl

/-- What comes in over one link is not seen from another. -/
theorem linkAt_withIncoming (server : WebSocketServer WebSocket Surroundings τ) {i j : Nat}
    (distinct : i ≠ j) (incoming : Bytes) :
    (server.withIncoming j incoming).linkAt i = server.linkAt i := by
  unfold linkAt withIncoming
  -- The other links of the table are looked at by their addresses alone.
  generalize server.links = links
  induction links with
  | nil => rfl
  | cons link rest ih =>
    rw [List.map_cons, List.find?_cons, List.find?_cons]
    -- The link that is changed is not the one that is looked for.
    by_cases named : link.address = j
    · have passed : (link.address == i) = false := by
        rw [named]
        simpa using distinct.symm
      simp only [if_pos named, passed]
      exact ih
    · simp only [if_neg named]
      cases here : link.address == i with
      | true => rfl
      | false => exact ih

/-- Over any number of calls, two servers stay alike. -/
theorem handleEventsTimes_alike {first second after after' : WebSocketServer WebSocket Surroundings τ}
    (confined : listener.Confined (· ≠ p)) (alike : first.Alike p second)
    (wellFormed : first.WellFormed) (wellFormed' : second.WellFormed) (calls : Nat)
    (returned : (handleEventsTimes (webSocketPlatform sha1) listener calls).Yields first () after)
    (returned' : (handleEventsTimes (webSocketPlatform sha1) listener calls).Yields second () after') :
    after.Alike p after' ∧ after.WellFormed ∧ after'.WellFormed := by
  -- Induction on the calls, of which the last one finds servers that are alike.
  induction calls generalizing after after' with
  | zero =>
    obtain ⟨_, rfl⟩ := returned.unique (Program.yields_pure () first)
    obtain ⟨_, rfl⟩ := returned'.unique (Program.yields_pure () second)
    exact ⟨alike, wellFormed, wellFormed'⟩
  | succ calls ih =>
    obtain ⟨_, mid, before, last⟩ := returned.parts
    obtain ⟨_, mid', before', last'⟩ := returned'.parts
    obtain ⟨between, sound, sound'⟩ := ih before before'
    exact handleEvents_alike confined between sound sound' last last'

/--
Links do not leak into each other.

Whatever bytes come in over one link, and however often events are handled, a listener that does not
act on another link hears the same of it, and its `recv` gives the same statuses and messages.
-/
theorem handleEvents_isolates (sha1 : Sha1) (listener : Listener τ) {i j : Nat} (distinct : i ≠ j)
    (uninvolved : listener.Confined (· ≠ i)) {server : WebSocketServer WebSocket Surroundings τ}
    (wellFormed : server.WellFormed) (first second : Bytes) (calls : Nat)
    {after after' : WebSocketServer WebSocket Surroundings τ}
    (returned : (handleEventsTimes (webSocketPlatform sha1) listener calls).Yields
      (server.withIncoming j first) () after)
    (returned' : (handleEventsTimes (webSocketPlatform sha1) listener calls).Yields
      (server.withIncoming j second) () after') :
    seenOf i after.log = seenOf i after'.log ∧ after.linkAt i = after'.linkAt i := by
  have sound : ∀ incoming, (server.withIncoming j incoming).WellFormed := by
    intro incoming
    refine ⟨?_, ?_⟩
    · rw [addresses_withIncoming]
      exact wellFormed.distinct
    · rw [addresses_withIncoming]
      exact wellFormed.known
  -- The servers differ in what comes in over the other link alone.
  have alike : (server.withIncoming j first).Alike i (server.withIncoming j second) := by
    refine ⟨?_, rfl, rfl, rfl⟩
    rw [linkAt_withIncoming server distinct, linkAt_withIncoming server distinct]
  obtain ⟨still, _, _⟩ := handleEventsTimes_alike uninvolved alike (sound first) (sound second) calls
    returned returned'
  exact ⟨still.seen, still.link⟩

/-- A digest of nothing but zeros. -/
def plainSha1 : Sha1 := fun _ => Vector.replicate 20 0

/-- A listener that only listens. -/
def listening : Listener Unit := fun _ _ message _ => .done () message

/-- A server with two links, where a text message comes in over the first. -/
def twoLinks : WebSocketServer WebSocket Surroundings Unit where
  links := [⟨0, .running [0x81, 0x82, 1, 2, 3, 4, 105, 107]⟩, ⟨1, .running []⟩]
  message := []
  listener := ()
  world := .calm
  nextAddress := 2
  log := []

/-- A broken frame and a message of the second link look the same from the first. -/
theorem handleEvents_isolates_two :
    ∃ after after' : WebSocketServer WebSocket Surroundings Unit,
      (handleEventsTimes (webSocketPlatform plainSha1) listening 1).Yields
        (twoLinks.withIncoming 1 [1]) () after ∧
      (handleEventsTimes (webSocketPlatform plainSha1) listening 1).Yields
        (twoLinks.withIncoming 1 [0x81, 0x81, 1, 2, 3, 4, 105]) () after' ∧
      seenOf 0 after.log = seenOf 0 after'.log ∧ after.linkAt 0 = after'.linkAt 0 := by
  have broken := Program.yields_after (show ((handleEventsTimes (webSocketPlatform plainSha1) listening 1).run
    12 (twoLinks.withIncoming 1 [1])).value? = some () by rfl)
  have fine := Program.yields_after (show ((handleEventsTimes (webSocketPlatform plainSha1) listening 1).run
    12 (twoLinks.withIncoming 1 [0x81, 0x81, 1, 2, 3, 4, 105])).value? = some () by rfl)
  have sound : twoLinks.WellFormed := ⟨by decide, by decide⟩
  have uninvolved : listening.Confined (· ≠ 0) := fun _ _ _ _ => trivial
  exact ⟨_, _, broken, fine,
    handleEvents_isolates plainSha1 listening (by decide) uninvolved sound _ _ 1 broken fine⟩

end Isolation

end WebSocketServer

end Rcom
