import Mathlib.Logic.Relation
import Librcom.Registry.Atomicity
import Librcom.Registry.Linked

/-! Any number of proxies that call one registry server, in any order. -/

namespace Rcom

open Effects
open Json (ascii Codec)
open RegistryServer

/-- The address of the latest call that set a topic, unless it was removed since. The latest call comes first. -/
def latest : List ProxyCall → Bytes → Option Address
  | [], _ => none
  | .set named address :: earlier, topic => if topic = named then some address else latest earlier topic
  | .remove named :: earlier, topic => if topic = named then none else latest earlier topic
  | .get _ _ :: earlier, topic => latest earlier topic

/-- How far a proxy is. -/
inductive Phase where
  /-- Nothing was called, and the replies are on the link that no call has received. -/
  | idle (inbox : List Bytes)
  /--
  A call was begun.

  Each of its requests that was handled has met the calls that were handled before it, and the replies to them are
  behind those that were on the link.
  -/
  | calling (call : ProxyCall) (linux : Linux) (met : List (List ProxyCall)) (replies : List Bytes)

/-- The registry server, the calls that it handled, and the proxies. -/
structure Network (ι : Type) where
  registry : Registry
  /-- The latest call comes first. -/
  handled : List ProxyCall
  phase : ι → Phase

/-- A server without topics, and proxies that have not called yet. -/
def Network.initial (ι : Type) : Network ι where
  registry := Registry.empty
  handled := []
  phase _ := .idle []

section Steps

variable {ι : Type} [DecidableEq ι] (host : Host) (codec : Codec)

/-- The network after the server handled a message that a call has sent. -/
def Network.serve (network : Network ι) (client : ι) (call : ProxyCall) (linux : Linux)
    (met : List (List ProxyCall)) (replies : List Bytes) (message : Bytes) : Network ι :=
  let serving := RegistryServer.handle host codec network.registry message
  { registry := serving.registry
    handled := call :: network.handled
    phase := Function.update network.phase client
      (.calling call linux (network.handled :: met) (replies ++ serving.sent.map Prod.fst)) }

/-- One step of one proxy, or of the server for one proxy. -/
inductive Network.Step : Network ι → Network ι → Prop
  /-- A call of a valid topic begins. -/
  | issue {network : Network ι} {client : ι} {inbox : List Bytes} {call : ProxyCall} (linux : Linux)
      (ready : network.phase client = .idle inbox) (valid : call.IsValid) :
      Step network
        { network with phase := Function.update network.phase client (.calling call linux [] inbox) }
  /-- The next request of a call is handled. -/
  | serve {network : Network ι} {client : ι} {call : ProxyCall} {linux : Linux}
      {met : List (List ProxyCall)} {replies : List Bytes} {message : Bytes}
      (waiting : network.phase client = .calling call linux met replies)
      (asks : call.Asks host codec linux replies met.length message) :
      Step network (network.serve host codec client call linux met replies message)
  /-- A call returns or throws. -/
  | finish {network : Network ι} {client : ι} {call : ProxyCall} {linux : Linux}
      {met : List (List ProxyCall)} {replies : List Bytes} {count : Nat}
      (waiting : network.phase client = .calling call linux met replies)
      (ends : call.Ends host codec linux replies count) :
      Step network
        { network with phase := Function.update network.phase client (.idle (replies.drop count)) }

/-- The network can come to be, by steps in any order. -/
def Network.Reachable (network : Network ι) : Prop :=
  Relation.ReflTransGen (Network.Step host codec) (Network.initial ι) network

/-- With the replies that were made a program returns, and has received them all. -/
def Returns {α : Type} (program : LinkedProxy.LinkedProxyM α) (linux : Linux) (replies : List Bytes)
    (result : α) : Prop :=
  ∀ rest, ∃ after, program.Yields (.begun linux (replies ++ₛ rest)) result after ∧
    after.received = replies.length

/-- A call whose requests have met some calls does what it is for. -/
def ProxyCall.Succeeds (linux : Linux) (met : List (List ProxyCall)) (replies : List Bytes) :
    ProxyCall → Prop
  | set topic address =>
    met ≠ [] → Returns (LinkedProxy.platform.set codec topic address) linux replies ()
  | remove topic => met ≠ [] → Returns (LinkedProxy.platform.remove codec topic) linux replies ()
  | get topic timeout => ∀ before ∈ met, ∀ address, latest before topic = some address →
    Returns (LinkedProxy.platform.get host codec topic timeout) linux replies (some address)

/-- What is known of a proxy: its call was answered once at most, in the registry that the calls before made. -/
def Phase.Sound : Phase → Prop
  | idle inbox => inbox = []
  | calling call _ met replies => call.IsValid ∧
    ((met = [] ∧ replies = []) ∨ ∃ before registry reply, met = [before] ∧ replies = [reply] ∧
      registry.get = latest before ∧ call.meant.Answers registry reply)

/-- The registry is what the calls made it, and each proxy has its answer. -/
structure Network.Sound (network : Network ι) : Prop where
  registered : network.registry.get = latest network.handled
  phases : ∀ client, (network.phase client).Sound

end Steps

section Laws

variable {host : Host} {codec : Codec} {ip : UInt32}

/-- The server makes of a request what the proxy means by it. -/
theorem ProxyCall.effect_request (reads : codec.ReadsFlat) {call : ProxyCall} (valid : call.IsValid) :
    effect host codec call.request = call.meant := by
  cases call with
  | set topic address =>
    exact effect_registerRequest reads (isBare_of_isValidTopic valid.1) valid.2
  | remove topic => exact effect_unregisterRequest reads (isBare_of_isValidTopic valid)
  | get topic timeout => exact effect_getRequest reads (isBare_of_isValidTopic valid)

/-- A call changes the map of topics as it is meant to. -/
theorem latest_cons (call : ProxyCall) (earlier : List ProxyCall) :
    latest (call :: earlier) = call.meant.apply (latest earlier) := by
  funext topic
  cases call with
  | set named address => rw [latest, ProxyCall.meant, Effect.apply, Function.update_apply]
  | remove named => rw [latest, ProxyCall.meant, Effect.apply, Function.update_apply]
  | get named timeout => rw [latest, ProxyCall.meant, Effect.apply]

/-- A call that was answered in a registry does what it is for. -/
theorem ProxyCall.succeeds (reads : codec.ReadsFlat) {call : ProxyCall} (valid : call.IsValid)
    {linux : Linux} {before : List ProxyCall} {registry : Registry} {reply : Bytes}
    (registered : registry.get = latest before) (answers : call.meant.Answers registry reply) :
    call.Succeeds host codec linux [before] [reply] := by
  cases call with
  | set topic address =>
    exact fun _ rest => ⟨_, LinkedProxy.set_yields reads answers, rfl⟩
  | remove topic =>
    exact fun _ rest => ⟨_, LinkedProxy.remove_yields reads answers, rfl⟩
  | get topic timeout =>
    intro before' among address found rest
    obtain rfl := List.mem_singleton.mp among
    rw [← registered] at found
    -- The topic was registered when the request was handled, so that the reply has its address.
    have answer : reply = addressReply topic address := by
      simpa only [ProxyCall.meant, Effect.Answers, found] using answers
    exact ⟨_, LinkedProxy.get_yields reads (isBare_of_isValidTopic valid) answer, rfl⟩

variable {ι : Type}

/-- Before any call the registry is empty, and so is every link. -/
theorem Network.initial_sound : (Network.initial ι).Sound where
  registered := rfl
  phases _ := rfl

variable [DecidableEq ι]

/-- One proxy goes on, and the others stay as they are. -/
theorem phases_update {phase : ι → Phase} (sound : ∀ client, (phase client).Sound) (client : ι)
    {next : Phase} (next_sound : next.Sound) (other : ι) :
    (Function.update phase client next other).Sound := by
  rw [Function.update_apply]
  by_cases same : other = client
  · rwa [if_pos same]
  · rw [if_neg same]
    exact sound other

/-- Every step keeps the registry and the answers right. -/
theorem Network.Step.sound (hosted : host.localIp = .ok ip) (reads : codec.ReadsFlat)
    {network network' : Network ι} (step : Network.Step host codec network network')
    (sound : network.Sound) : network'.Sound := by
  cases step with
  | @issue client inbox call linux ready valid =>
    -- The link of a proxy that does not call is empty.
    have empty : inbox = [] := by
      have here := sound.phases client
      rwa [ready] at here
    exact ⟨sound.registered, phases_update sound.phases _ ⟨valid, .inl ⟨rfl, empty⟩⟩⟩
  | @serve client call linux met replies message waiting asks =>
    have here := sound.phases client
    rw [waiting] at here
    obtain ⟨valid, ⟨rfl, rfl⟩ | ⟨before, registry, reply, rfl, rfl, -, answers⟩⟩ := here
    · -- The first message is the request, and the server takes it as it is meant.
      obtain rfl := asks.request_eq
      obtain ⟨registry', reply, handled, changes, answers⟩ :=
        handle_eq codec hosted network.registry call.request
      rw [ProxyCall.effect_request reads valid] at changes answers
      have registered : registry'.get = latest (call :: network.handled) := by
        rw [latest_cons, changes.get_eq, sound.registered]
      unfold Network.serve
      rw [handled]
      refine ⟨registered, phases_update sound.phases _ ⟨valid, .inr ?_⟩⟩
      exact ⟨network.handled, network.registry, reply, rfl, rfl, sound.registered, answers⟩
    · -- A call that was answered has no other message for the server.
      exact absurd asks (ProxyCall.not_asks_of_answered reads valid answers)
  | @finish client call linux met replies count waiting ends =>
    have here := sound.phases client
    rw [waiting] at here
    refine ⟨sound.registered, phases_update sound.phases _ ?_⟩
    obtain ⟨valid, ⟨rfl, rfl⟩ | ⟨before, registry, reply, rfl, rfl, -, answers⟩⟩ := here
    · exact List.drop_nil
    · -- The one reply was received, so that none is left on the link.
      obtain ⟨after, left, received⟩ := ends.2 (Stream'.const [])
      have first : call.meant.Answers registry ([reply] ++ₛ Stream'.const []).head := answers
      obtain ⟨after', left', one⟩ := ProxyCall.perform_leaves reads valid first
      obtain rfl := left.unique left'
      rw [← received, one]
      rfl

/-- Whatever steps were taken, the registry and the answers are right. -/
theorem Network.Reachable.sound (hosted : host.localIp = .ok ip) (reads : codec.ReadsFlat)
    {network : Network ι} (reachable : network.Reachable host codec) : network.Sound := by
  induction reachable with
  | refl => exact Network.initial_sound
  | tail _ step sound => exact step.sound hosted reads sound

/--
Whatever the proxies call, and in whatever order the server handles it, each call does what it is for.

A call that was not handled yet asks for its request to be handled, and one that was handled ends. To set and to
remove a topic returns then. To look up a topic, while it is registered, returns the address of the latest call that
set it.
-/
theorem registration_visible (hosted : host.localIp = .ok ip) (reads : codec.ReadsFlat)
    {network : Network ι} (reachable : network.Reachable host codec) {client : ι} {call : ProxyCall}
    {linux : Linux} {met : List (List ProxyCall)} {replies : List Bytes}
    (calling : network.phase client = .calling call linux met replies) :
    (met = [] → call.Asks host codec linux replies 0 call.request) ∧
      (met ≠ [] → call.Ends host codec linux replies replies.length) ∧
      call.Succeeds host codec linux met replies := by
  -- The run's invariant says where the client's request stands: waiting, or met by the server with this reply.
  have here := (reachable.sound hosted reads).phases client
  rw [calling] at here
  obtain ⟨valid, ⟨rfl, rfl⟩ | ⟨before, registry, reply, rfl, rfl, registered, answers⟩⟩ := here
  · refine ⟨fun _ => ProxyCall.asks_request host codec linux call, fun met => absurd rfl met, ?_⟩
    cases call with
    | set topic address => exact fun met => absurd rfl met
    | remove topic => exact fun met => absurd rfl met
    | get topic timeout => exact fun before among => by cases among
  · refine ⟨fun none => (List.cons_ne_nil _ _ none).elim, fun _ => ⟨Nat.le_refl _, fun rest => ?_⟩,
      ProxyCall.succeeds reads valid registered answers⟩
    have first : call.meant.Answers registry ([reply] ++ₛ rest).head := answers
    exact ProxyCall.perform_leaves reads valid first

/-- One proxy registers a topic, and another one finds its address. -/
theorem registration_visible_alpha :
    ∃ network : Network Bool, network.Reachable .dotted (Codec.flat (fun _ => []) []) ∧
      ∃ replies, network.phase true =
          .calling (.get (ascii "alpha") 1) .running [[.set (ascii "alpha") ⟨16777343, 80⟩]] replies ∧
        Returns (LinkedProxy.platform.get .dotted (Codec.flat (fun _ => []) []) (ascii "alpha") 1)
          .running replies (some ⟨16777343, 80⟩) ∧
      ∃ replies', network.phase false =
          .calling (.set (ascii "alpha") ⟨16777343, 80⟩) .running [[]] replies' ∧
        Returns (LinkedProxy.platform.set (Codec.flat (fun _ => []) []) (ascii "alpha") ⟨16777343, 80⟩)
          .running replies' () := by
  -- The request to register is handled before the other proxy sends its own.
  have valid : isValidTopic (ascii "alpha") = true := by decide
  have reads := Json.Codec.flat_readsFlat (fun _ => []) []
  have register := @Network.Step.issue Bool _ .dotted (Codec.flat (fun _ => []) []) (.initial Bool) false
    [] (.set (ascii "alpha") ⟨16777343, 80⟩) .running rfl ⟨valid, by decide⟩
  have registered := (Relation.ReflTransGen.single register).tail
    (@Network.Step.serve Bool _ .dotted (Codec.flat (fun _ => []) []) _ false
      (.set (ascii "alpha") ⟨16777343, 80⟩) .running [] [] _ (by exact rfl)
      (ProxyCall.asks_request _ _ _ _))
  have look := registered.tail
    (@Network.Step.issue Bool _ .dotted (Codec.flat (fun _ => []) []) _ true [] (.get (ascii "alpha") 1)
      .running (by exact rfl) valid)
  have looked := look.tail
    (@Network.Step.serve Bool _ .dotted (Codec.flat (fun _ => []) []) _ true (.get (ascii "alpha") 1)
      .running [] [] _ (by exact rfl) (ProxyCall.asks_request _ _ _ _))
  obtain ⟨network, reachable, ⟨replies, found⟩, replies', set⟩ :
      ∃ network : Network Bool, network.Reachable .dotted (Codec.flat (fun _ => []) []) ∧
        (∃ replies, network.phase true = .calling (.get (ascii "alpha") 1) .running
          [[.set (ascii "alpha") ⟨16777343, 80⟩]] replies) ∧
        ∃ replies', network.phase false =
          .calling (.set (ascii "alpha") ⟨16777343, 80⟩) .running [[]] replies' :=
    ⟨_, looked, ⟨_, rfl⟩, _, rfl⟩
  obtain ⟨-, -, finds⟩ := registration_visible rfl reads reachable found
  obtain ⟨-, -, sets⟩ := registration_visible rfl reads reachable set
  exact ⟨network, reachable, replies, found, finds _ (List.mem_singleton.mpr rfl) _ rfl,
    replies', set, sets (List.cons_ne_nil _ _)⟩

end Laws

end Rcom
