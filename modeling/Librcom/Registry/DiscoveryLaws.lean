import Librcom.Registry.Discovery
import Librcom.Server.Turns

/-! What a lookup asks and hears, what a lookup server answers, and how their descriptors are closed. -/

namespace Rcom

open Effects

namespace Datagrams

section Calls

variable {datagrams : Datagrams} {sockfd : Int} {rest : Multiset Int}

/-- A call adds the datagram that it sends, if any. -/
theorem sent_called (made : DatagramCall) :
    (datagrams.called made).sent = datagrams.sent ++ made.sending.toList := by
  unfold sent called
  rw [List.filterMap_append]
  cases sending : made.sending with
  | none => simp [sending]
  | some datagram => simp [sending]

/-- To receive sends nothing. -/
theorem sent_receiving (sockfd : Int) : (datagrams.receiving sockfd).sent = datagrams.sent := by
  unfold sent receiving
  simp [DatagramCall.sending]

/-- A call opens or closes what its event says. -/
theorem held_called {held : Multiset Int} (before : datagrams.held = some held) (made : DatagramCall) :
    (datagrams.called made).held = Ledger.account held made.event := by
  unfold Datagrams.held at before ⊢
  simp only [called, List.map_append, List.map_cons, List.map_nil, Ledger.holding_concat, before,
    Option.bind_some]

/-- A call on an open descriptor leaves it open. -/
theorem held_use (made : DatagramCall)
    (before : datagrams.held = some (Ledger.gain (descriptor sockfd) + rest))
    (plain : made.event = ⟨descriptor sockfd, false, none⟩) :
    (datagrams.called made).held = some (Ledger.gain (descriptor sockfd) + rest) := by
  -- The event gives nothing back and takes nothing, so that the ledger has the same entries.
  have kept := Ledger.account_use (descriptor sockfd) none rest
  rw [Ledger.gain_none, zero_add] at kept
  rw [held_called before, plain, kept]

/-- To receive leaves the descriptors. -/
theorem held_receiving (before : datagrams.held = some (Ledger.gain (descriptor sockfd) + rest)) :
    (datagrams.receiving sockfd).held = some (Ledger.gain (descriptor sockfd) + rest) :=
  held_use (.recvfrom sockfd) before rfl

/-- Closing an open descriptor gives it back. -/
theorem held_close (before : datagrams.held = some (Ledger.gain (descriptor sockfd) + rest)) :
    (datagrams.called (.close sockfd)).held = some rest := by
  rw [held_called before]
  exact Ledger.account_release _ rest

/-- A descriptor that is given comes to those that are open. -/
theorem held_socket (before : datagrams.held = some rest) (result : Int) :
    (datagrams.called (.socket result)).held = some (Ledger.gain (descriptor result) + rest) := by
  have given := Ledger.account_use none (descriptor result) rest
  rw [Ledger.gain_none, zero_add, zero_add] at given
  rw [held_called before, DatagramCall.event, given]

end Calls

end Datagrams

namespace RegistryLookup

/-- The question that a lookup broadcasts. -/
def question (port : UInt16) : Bytes × Address := (broadcastMessage, ⟨INADDR_BROADCAST, port⟩)

/-- The address after a number of receptions. -/
def heardAfter (address : Bytes) (receptions : Stream' (Option (Bytes × Address))) : Nat → Bytes
  | 0 => address
  | n + 1 => received (heardAfter address receptions n)
      (Datagrams.cut (kDatagramBufferLength - 1) (receptions.get n))

section Searching

variable (lookup₀ : RegistryLookup) (before : Datagrams) (rest : Multiset Int)

/-- A lookup with an open socket that has asked a number of times. -/
structure Asking (asked : Nat) (s : RegistryLookup × Datagrams) : Prop where
  port : s.1.port = lookup₀.port
  held : s.2.held = some (Ledger.gain (descriptor s.1.socket) + rest)
  results : s.2.results = before.results.drop (3 + asked)
  receptions : s.2.receptions = before.receptions.drop asked
  address : s.1.address = heardAfter lookup₀.address before.receptions asked
  sent : s.2.sent = before.sent ++ List.replicate asked (question lookup₀.port)

/-- After each of some receptions there was no address. -/
def Unanswered (asked : Nat) : Prop :=
  ∀ n, 0 < n → n < asked → heardAfter lookup₀.address before.receptions n = []

/-- A lookup that was answered when it had asked a number of times, and not before. -/
structure Found (asked : Nat) (text : Bytes) (after : Datagrams) : Prop where
  closed : after.held = some rest
  sent : after.sent = before.sent ++ List.replicate asked (question lookup₀.port)
  asks : 0 < asked ∧ asked ≤ 8
  unanswered : Unanswered lookup₀ before asked
  answer : text = heardAfter lookup₀.address before.receptions asked
  some_text : text ≠ []

/-- A lookup that failed: a call did, or there was no answer to eight questions. -/
structure Missed (after : Datagrams) : Prop where
  closed : after.held = some rest
  sent : ∃ asked ≤ 8, after.sent = before.sent ++ List.replicate asked (question lookup₀.port)
  why : (∃ n < 11, before.results.get n < 0) ∨ Unanswered lookup₀ before 9

variable {lookup₀ before rest} {s : RegistryLookup × Datagrams} {asked : Nat}

/-- A call of the lookup gives the next result of the system. -/
theorem call_yields (made : RegistryLookup → Int → DatagramCall) (s : RegistryLookup × Datagrams) :
    (call made).Yields s s.2.results.head (s.1, s.2.called (made s.1 s.2.results.head)) :=
  (Program.yields_get s).bind ((Program.yields_act _ s.2).within _)

/-- Closing the socket never fails, whatever the call returns. -/
theorem close_yields (s : RegistryLookup × Datagrams) :
    close.Yields s () (s.1, s.2.called (.close s.1.socket)) :=
  (call_yields _ s).bind (Program.yields_pure _ _)

/-- A failure that closes the socket first. -/
theorem close_raise {α : Type} (e : Fault) (s : RegistryLookup × Datagrams) :
    (do
      close
      Program.raise e : LookupM α).Throws s e (s.1, s.2.called (.close s.1.socket)) :=
  (close_yields s).bind_throws (Program.throws_raise _ _)

/-- The socket is open for broadcasts, or it was closed again. -/
theorem createSocket_achieves (held : before.held = some rest) :
    createSocket.Achieves (lookup₀, before) (fun _ => Asking lookup₀ before rest 0)
      (fun e s => e.IsRuntimeError ∧ Missed lookup₀ before rest s.2) := by
  have opened := Datagrams.held_socket held before.results.head
  refine (call_yields _ _).bind_achieves ((Program.yields_update _ _).bind_achieves ?_)
  dsimp only
  split
  · rename_i failed
    -- Without a descriptor there is nothing to close.
    have none : descriptor before.results.head = none := if_neg (by omega)
    refine (Program.throws_raise _ _).achieves ⟨⟨_, rfl⟩, ?_, ⟨0, by omega, ?_⟩,
      .inl ⟨0, by omega, failed⟩⟩
    · rwa [none, Ledger.gain_none, zero_add] at opened
    · simp [Datagrams.sent_called, DatagramCall.sending]
  · -- Both options are set on the open descriptor, which is closed if that fails.
    refine (call_yields _ _).bind_achieves ?_
    have first := Datagrams.held_use (.setsockopt before.results.head) opened rfl
    dsimp only
    split
    · rename_i failed
      refine (close_raise _ _).achieves ⟨⟨_, rfl⟩, Datagrams.held_close first, ⟨0, by omega, ?_⟩,
        .inl ⟨1, by omega, failed⟩⟩
      simp [Datagrams.sent_called, DatagramCall.sending]
    · refine (call_yields _ _).bind_achieves ?_
      have second := Datagrams.held_use (.setsockopt before.results.head) first rfl
      dsimp only
      split
      · rename_i failed
        refine (close_raise _ _).achieves ⟨⟨_, rfl⟩, Datagrams.held_close second,
          ⟨0, by omega, ?_⟩, .inl ⟨2, by omega, failed⟩⟩
        simp [Datagrams.sent_called, DatagramCall.sending]
      · refine (Program.yields_pure _ _).achieves ⟨rfl, second, rfl, rfl, rfl, ?_⟩
        simp [Datagrams.sent_called, DatagramCall.sending]

/-- The lookup after it has asked. -/
def questioned (s : RegistryLookup × Datagrams) : RegistryLookup × Datagrams :=
  (s.1, s.2.called (.sendto s.1.socket broadcastMessage ⟨INADDR_BROADCAST, s.1.port⟩))

/-- The lookup after it has received a datagram, or none. -/
def responded (s : RegistryLookup × Datagrams) : RegistryLookup × Datagrams :=
  ({ s.1 with
      address := received s.1.address (Datagrams.cut (kDatagramBufferLength - 1) s.2.receptions.head) },
    s.2.receiving s.1.socket)

/-- One question more was asked. -/
theorem questioned_sent (asking : Asking lookup₀ before rest asked s) :
    (questioned s).2.sent = before.sent ++ List.replicate (asked + 1) (question lookup₀.port) := by
  unfold questioned
  rw [Datagrams.sent_called, asking.sent, asking.port]
  simp [DatagramCall.sending, question, List.replicate_succ']

/-- To ask a question leaves the descriptors. -/
theorem questioned_held (asking : Asking lookup₀ before rest asked s) :
    (questioned s).2.held = some (Ledger.gain (descriptor s.1.socket) + rest) :=
  Datagrams.held_use (.sendto s.1.socket broadcastMessage ⟨INADDR_BROADCAST, s.1.port⟩) asking.held rfl

/-- After a question and a reception the lookup has asked once more. -/
theorem Asking.next (asking : Asking lookup₀ before rest asked s) :
    Asking lookup₀ before rest (asked + 1) (responded (questioned s)) where
  port := asking.port
  held := Datagrams.held_receiving (questioned_held asking)
  results := by
    show s.2.results.tail = _
    rw [asking.results, Stream'.tail_drop']
    rfl
  receptions := by
    show s.2.receptions.tail = _
    rw [asking.receptions, Stream'.tail_drop']
  address := by
    show received s.1.address (Datagrams.cut _ s.2.receptions.head) = _
    rw [asking.address, asking.receptions, Stream'.head_drop]
    rfl
  -- The answer sends nothing: what was sent is what the question has sent.
  sent := by
    unfold responded
    rw [Datagrams.sent_receiving]
    exact questioned_sent asking

/-- A question is sent, or the socket was closed. -/
theorem sendMessage_achieves (asking : Asking lookup₀ before rest asked s) (early : asked < 8) :
    sendMessage.Achieves s (fun _ s' => s' = questioned s)
      (fun e s' => e.IsRuntimeError ∧ Missed lookup₀ before rest s'.2) := by
  refine (call_yields _ _).bind_achieves ?_
  split
  · rename_i failed
    refine (close_raise _ _).achieves ⟨⟨_, rfl⟩, Datagrams.held_close (questioned_held asking),
      ⟨asked + 1, by omega, ?_⟩, .inl ⟨3 + asked, by omega, ?_⟩⟩
    · -- The question was tried, and closing the socket sends nothing.
      have sent := questioned_sent asking
      unfold questioned at sent
      rw [Datagrams.sent_called, sent]
      simp [DatagramCall.sending]
    · rwa [asking.results, Stream'.head_drop] at failed
  · exact (Program.yields_pure _ _).achieves rfl

/-- To receive leaves the address that came in, if any did. -/
theorem getResponse_yields (s : RegistryLookup × Datagrams) : getResponse.Yields s () (responded s) := by
  refine (Program.yields_get s).bind ?_
  exact ((Program.yields_act _ _).within _).bind (Program.yields_update _ _)

/-- A round asks once more, and leaves what was heard. -/
theorem lookupRound_achieves (asking : Asking lookup₀ before rest asked s) (early : asked < 8) :
    (lookupRound asked).Achieves s
      (fun turn s' => Asking lookup₀ before rest (asked + 1) s' ∧
        turn = if s'.1.address ≠ [] then .inr () else .inl (asked + 1))
      (fun e s' => e.IsRuntimeError ∧ Missed lookup₀ before rest s'.2) := by
  unfold lookupRound
  rw [if_pos early]
  refine (sendMessage_achieves asking early).bind ?_
  rintro _ _ rfl
  refine (getResponse_yields _).bind_achieves ((Program.yields_get _).bind_achieves ?_)
  -- The datagram that came in is the one with the number of the round.
  by_cases answered : (responded (questioned s)).1.address ≠ []
  · rw [if_pos answered]
    exact (Program.yields_pure _ _).achieves ⟨asking.next, by rw [if_pos answered]⟩
  · rw [if_neg answered]
    exact (Program.yields_pure _ _).achieves ⟨asking.next, by rw [if_neg answered]⟩

/-- The loop ends with an answer, or when there was none to eight questions. -/
theorem rounds_achieve (asking : Asking lookup₀ before rest 0 s) :
    (Program.iterate lookupRound 0).Achieves s
      (fun _ s' => ∃ asked, Asking lookup₀ before rest asked s' ∧ (0 < asked ∧ asked ≤ 8) ∧
        Unanswered lookup₀ before asked ∧ (asked < 8 → s'.1.address ≠ []))
      (fun e s' => e.IsRuntimeError ∧ Missed lookup₀ before rest s'.2) := by
  -- Before each round nothing was heard, and the rounds that are left are lowered.
  refine Program.Achieves.iterate (fun left asked s' => left + asked = 8 ∧
    Asking lookup₀ before rest asked s' ∧ Unanswered lookup₀ before (asked + 1)) ?_
    (n := 8) ⟨rfl, asking, fun n pos less => by omega⟩
  rintro left asked s' ⟨total, asking, unanswered⟩
  by_cases early : asked < 8
  · refine (lookupRound_achieves asking early).mono ?_ fun _ _ failed => failed
    rintro turn s'' ⟨next, turned⟩
    by_cases answered : s''.1.address ≠ []
    · rw [if_pos answered] at turned
      subst turned
      exact ⟨asked + 1, next, by omega, unanswered, fun _ => answered⟩
    · rw [if_neg answered] at turned
      subst turned
      refine ⟨left - 1, by omega, by omega, next, fun n pos less => ?_⟩
      -- The last reception left no address, as those before.
      by_cases last : n = asked + 1
      · rw [last, ← next.address]
        exact not_not.mp answered
      · exact unanswered n pos (by omega)
  · obtain rfl : asked = 8 := by omega
    unfold lookupRound
    rw [if_neg early]
    -- The ninth round asks nothing any more.
    exact (Program.yields_pure _ _).achieves ⟨8, asking, by omega,
      fun n pos less => unanswered n pos (by omega), fun less => absurd less early⟩

/--
A lookup ends, and its descriptor is closed.

It has asked at most eight times, and returns what it heard first, unless there was an address before.
-/
theorem lookup_achieves (held : before.held = some rest) :
    lookup.Achieves (lookup₀, before)
      (fun text s => ∃ asked, Found lookup₀ before rest asked text s.2)
      (fun e s => e.IsRuntimeError ∧ Missed lookup₀ before rest s.2) := by
  refine (createSocket_achieves held).bind fun _ s asking => ?_
  refine (rounds_achieve asking).bind ?_
  rintro _ s' ⟨asked, asking, asks, unanswered, answered⟩
  refine (close_yields s').bind_achieves ((Program.yields_get _).bind_achieves ?_)
  -- Closing sends nothing.
  have sent : (s'.2.called (.close s'.1.socket)).sent =
      before.sent ++ List.replicate asked (question lookup₀.port) := by
    rw [Datagrams.sent_called, asking.sent]
    simp [DatagramCall.sending]
  dsimp only
  split
  · rename_i silent
    refine (Program.throws_raise _ _).achieves
      ⟨⟨_, rfl⟩, Datagrams.held_close asking.held, ⟨asked, asks.2, sent⟩, .inr ?_⟩
    -- All eight questions were asked, and there was no address after the last.
    obtain rfl : asked = 8 := by
      by_contra other
      exact answered (by omega) silent
    intro n pos less
    by_cases last : n = 8
    · rw [last, ← asking.address]
      exact silent
    · exact unanswered n pos (by omega)
  · rename_i some_text
    exact (Program.yields_pure _ _).achieves
      ⟨asked, Datagrams.held_close asking.held, sent, asks, unanswered, asking.address, some_text⟩

end Searching

end RegistryLookup

namespace RegistryLookupServer

/-- The replies to what was received: the address of the registry, to each that has sent a datagram. -/
def repliesTo (address : Bytes) (receptions : List (Option (Bytes × Address))) : List (Bytes × Address) :=
  receptions.filterMap fun reception => reception.map fun request => (address, request.2)

section Answering

variable {server₀ : RegistryLookupServer} {before : Datagrams} {rest : Multiset Int}
  {s : RegistryLookupServer × Datagrams} {heard : Nat}

/-- A call of the lookup server gives the next result of the system. -/
theorem call_yields (made : RegistryLookupServer → Int → DatagramCall)
    (s : RegistryLookupServer × Datagrams) :
    (call made).Yields s s.2.results.head (s.1, s.2.called (made s.1 s.2.results.head)) :=
  (Program.yields_get s).bind ((Program.yields_act _ s.2).within _)

variable (server₀ before rest) in
/-- A server with an open socket that has received a number of times. -/
structure Replying (heard : Nat) (s : RegistryLookupServer × Datagrams) : Prop where
  address : s.1.address = server₀.address
  held : s.2.held = some (Ledger.gain (descriptor s.1.socket) + rest)
  receptions : s.2.receptions = before.receptions.drop heard
  sent : s.2.sent = before.sent ++ repliesTo server₀.address (before.receptions.take heard)

/-- The socket is open, or something failed, and what the system gave is open still. -/
theorem init_ensures (port : UInt16) (held : before.held = some rest) :
    (init port).Ensures (server₀, before) (fun _ => Replying server₀ before rest 0)
      (fun e s => e.IsRuntimeError ∧ s.2.sent = before.sent ∧
        s.2.held = some (Ledger.gain (descriptor s.1.socket) + rest)) := by
  -- What is held after each of the three calls, which is all that a failure leaves.
  have opened := Datagrams.held_socket held before.results.head
  have first := Datagrams.held_use (.setsockopt before.results.head) opened rfl
  have second := Datagrams.held_use (.bind before.results.head ⟨INADDR_ANY, port⟩) first rfl
  refine (call_yields _ _).bind_ensures ((Program.yields_update _ _).bind_ensures ?_)
  dsimp only
  split
  · refine Program.ensures_raise ⟨⟨_, rfl⟩, ?_, opened⟩
    simp [Datagrams.sent_called, DatagramCall.sending]
  · refine (call_yields _ _).bind_ensures ?_
    dsimp only
    split
    · refine Program.ensures_raise ⟨⟨_, rfl⟩, ?_, first⟩
      simp [Datagrams.sent_called, DatagramCall.sending]
    · refine (call_yields _ _).bind_ensures ?_
      dsimp only
      split
      · refine Program.ensures_raise ⟨⟨_, rfl⟩, ?_, second⟩
        simp [Datagrams.sent_called, DatagramCall.sending]
      · -- All three calls succeeded, and the server is about to answer.
        refine Program.ensures_pure ⟨rfl, second, rfl, ?_⟩
        simp [Datagrams.sent_called, DatagramCall.sending, repliesTo]

/-- A reception adds the reply to it, if there is one. -/
theorem repliesTo_succ (address : Bytes) (receptions : Stream' (Option (Bytes × Address))) (heard : Nat) :
    repliesTo address (receptions.take (heard + 1)) = repliesTo address (receptions.take heard) ++
      ((receptions.get heard).map fun request => (address, request.2)).toList := by
  rw [Stream'.take_succ', repliesTo, repliesTo, List.filterMap_append]
  cases received : receptions.get heard with
  | none => simp
  | some request => simp

/-- A round answers what it receives, unless it is the one that quits. -/
theorem receiveRound_ensures (replying : Replying server₀ before rest heard s) :
    (receiveRound ()).Ensures s
      (Program.Turn (fun _ s' => ∃ heard, Replying server₀ before rest heard s')
        (fun _ s' => ∃ heard, Replying server₀ before rest heard s')) (fun _ _ => False) := by
  refine (Program.yields_act _ s).bind_ensures ?_
  split
  · -- The flag is set before the reception, and what was received is answered already.
    exact Program.ensures_pure
      ⟨heard, replying.address, replying.held, replying.receptions, replying.sent⟩
  · refine (Program.yields_get _).bind_ensures (((Program.yields_act _ _).within _).bind_ensures ?_)
    have receiving := Datagrams.held_receiving replying.held
    have receptions : s.2.receptions.tail = before.receptions.drop (heard + 1) := by
      rw [replying.receptions, Stream'.tail_drop']
    have head : s.2.receptions.head = before.receptions.get heard := by
      rw [replying.receptions, Stream'.head_drop]
    have grown := repliesTo_succ server₀.address before.receptions heard
    dsimp only
    rw [head]
    cases received : before.receptions.get heard with
    | none =>
      refine Program.ensures_pure ⟨heard + 1, replying.address, receiving, receptions, ?_⟩
      rw [Datagrams.sent_receiving, replying.sent, grown, received]
      simp
    | some request =>
      -- The reply goes to the sender, whatever its datagram was.
      refine (call_yields _ _).bind_ensures ?_
      refine Program.ensures_pure ⟨heard + 1, replying.address, ?_, receptions, ?_⟩
      · exact Datagrams.held_use (.sendto s.1.socket s.1.address request.2) receiving rfl
      · rw [Datagrams.sent_called, Datagrams.sent_receiving, replying.sent, grown, received,
          replying.address]
        simp [DatagramCall.sending]

/--
A server answers each datagram that it receives until it quits, and nothing else, and closes its socket then.

Where it cannot start, the socket stays open if there is one.
-/
theorem serve_ensures (port : UInt16) (held : before.held = some rest) :
    (serve port).Ensures (server₀, before)
      (fun _ s => s.2.held = some rest ∧ ∃ heard,
        s.2.sent = before.sent ++ repliesTo server₀.address (before.receptions.take heard))
      (fun e s => e.IsRuntimeError ∧ s.2.sent = before.sent ∧
        s.2.held = some (Ledger.gain (descriptor s.1.socket) + rest)) := by
  refine (init_ensures port held).bind fun _ s replying => ?_
  have loops : receiveLookupRequests.Ensures s
      (fun _ s' => ∃ heard, Replying server₀ before rest heard s') (fun _ _ => False) := by
    refine Program.Ensures.iterate (fun _ s' => ∃ heard, Replying server₀ before rest heard s')
      ⟨0, replying⟩ ?_
    -- Each round may hear one datagram more, so the number heard is part of the invariant.
    rintro _ s' ⟨heard, still⟩
    exact receiveRound_ensures still
  refine loops.seq (fun _ _ impossible => impossible.elim) ?_
  rintro _ s' ⟨heard, still⟩
  refine (call_yields _ _).bind_ensures
    (Program.ensures_pure ⟨Datagrams.held_close still.held, heard, ?_⟩)
  rw [Datagrams.sent_called, still.sent]
  simp [DatagramCall.sending]

/-- A server for the address of a registry that was started and has quit has sent the datagram. -/
def Sends (address datagram : Bytes) : Prop :=
  ∃ port quits before s sender, before.calls = [] ∧
    (serve port).Yields (create address quits, before) () s ∧ (datagram, sender) ∈ s.2.sent

/-- A server sends nothing but its address. -/
theorem Sends.eq {address datagram : Bytes} (sends : Sends address datagram) : datagram = address := by
  obtain ⟨port, quits, before, s, sender, nothing, served, member⟩ := sends
  have held : before.held = some 0 := by rw [Datagrams.held, nothing]; rfl
  -- A server that has returned has sent the replies, each of which is the address.
  obtain ⟨-, heard, sent⟩ := (serve_ensures port held).yields served
  have none : before.sent = [] := by rw [Datagrams.sent, nothing]; rfl
  rw [sent, none, List.nil_append, repliesTo] at member
  obtain ⟨reception, -, reply⟩ := List.mem_filterMap.mp member
  obtain ⟨request, -, same⟩ := Option.map_eq_some_iff.mp reply
  exact (congrArg Prod.fst same).symm

end Answering

end RegistryLookupServer

end Rcom
