import Librcom.Registry.ProxyLaws

/-! Polling for the address of a topic that may not be registered yet. -/

namespace Rcom

open Effects
open Json (ascii Codec isBare)
open RegistryServer RegistryProxy

section Abstract

/-- The address of a topic, in the registry that a request finds. -/
def lookUp (topic : Bytes) : ProxyM (Option Address) :=
  Program.act fun state =>
    (state.registries.head.get topic, { state with registries := state.registries.tail })

/-- A round of polling that looks at the registry itself. -/
def pollRegistry (topic : Bytes) (startTime timeout : ℚ) : ProxyM (Unit ⊕ Option Address) := do
  let found ← lookUp topic
  let now ← rcomTime
  let timePassed := now - startTime
  if found.isNone ∧ ¬ timeout ≤ timePassed then do
    rcomSleep (min (1 / 2) (timeout - timePassed))
    return .inl ()
  else return .inr found

/--
What it is to look up a topic, which is to look at the registry until it has the topic or time is up.

Where time is up before, there is no address. The only exceptions are those of a sleep.
-/
def awaitTopic (topic : Bytes) (timeout : ℚ) : ProxyM (Option Address) := do
  let startTime ← rcomTime
  Program.iterate (fun _ => pollRegistry topic startTime timeout) ()

end Abstract

/-- A lookup through the server ends as looking at the registry does, and throws nothing else. -/
structure LooksUp (host : Host) (codec : Codec) (topic : Bytes) (timeout : ℚ) (state : ProxyState) :
    Prop where
  returns : ∀ found state', (awaitTopic topic timeout).Yields state found state' →
    (RegistryProxy.get host codec topic timeout).Yields state found state'
  throws : ∀ fault state', (RegistryProxy.get host codec topic timeout).Throws state fault state' →
    (awaitTopic topic timeout).Throws state fault state'

section Rounds

variable {topic : Bytes} {timeout : ℚ} {state : ProxyState}

/-- The exception of a proxy that got a response which it cannot read. -/
def invalidResponse : Fault := .runtimeError "RegistryProxy: invalid response"

/-- Looking at the registry itself meets no invalid response. -/
theorem awaitTopic_ensures : (awaitTopic topic timeout).Ensures state (fun _ _ => True)
    fun fault _ => fault ≠ invalidResponse := by
  apply Program.Yields.bind_ensures (proxyTime_yields state)
  apply Program.Ensures.iterate fun _ _ => True
  · trivial
  · intro _ state' _
    -- A round throws only where its sleep does.
    apply Program.Yields.bind_ensures (Program.yields_act _ state')
    apply Program.Yields.bind_ensures (proxyTime_yields _)
    dsimp only
    split
    · -- A sleep has two exceptions of its own, and neither is that of a response.
      apply Program.Ensures.seq (proxySleep_ensures _ _)
      · intro fault _ failed
        rcases failed with rfl | rfl
        · decide
        · decide
      · exact fun _ _ _ => Program.ensures_pure trivial
    · exact Program.ensures_pure trivial

/-- Looking at a registry that has the topic ends with the first round. -/
theorem awaitTopic_found {address : Address}
    (registered : state.registries.head.get topic = some address) (timeout : ℚ) :
    (awaitTopic topic timeout).Yields state (some address)
      { state with
        linux := { state.linux with clock := state.linux.clock.tail.tail }
        registries := state.registries.tail } := by
  apply (proxyTime_yields state).bind
  apply Program.Yields.iterate_last
  apply (Program.yields_act _ _).bind
  simp only [registered]
  -- An address was found, so that the time is not looked at.
  apply (proxyTime_yields _).bind
  simp only [Option.isNone_some, Bool.false_eq_true, false_and, if_false]
  exact Program.yields_pure _ _

variable {host : Host} {codec : Codec} {ip : UInt32}

/-- A lookup of a registered topic ends with the first round. -/
theorem get_found (hosted : host.localIp = .ok ip) (reads : codec.ReadsFlat)
    (bare : isBare topic = true) (quiet : state.inbox = []) {address : Address}
    (registered : state.registries.head.get topic = some address) (timeout : ℚ) :
    (RegistryProxy.get host codec topic timeout).Yields state (some address)
      { state with
        linux := { state.linux with clock := state.linux.clock.tail.tail }
        registries := state.registries.tail } := by
  apply (proxyTime_yields state).bind
  apply Program.Yields.iterate_last
  obtain ⟨reply, sent, answers⟩ := sendReliably_yields codec hosted (getRequest topic)
    { state with linux := { state.linux with clock := state.linux.clock.tail } }
  -- The server answers the lookup by the address that its registry has.
  rw [effect_getRequest reads bare] at answers
  simp only [Effect.Answers, registered] at answers
  obtain ⟨linux, registries, inbox⟩ := state
  subst quiet answers
  exact sent.bind
    (awaitAddress_yields reads bare (websocketRecv_yields rfl timeout) (proxyTime_yields _))

/-- A lookup of a topic that is not registered throws with the first round. -/
theorem get_throws (hosted : host.localIp = .ok ip) (reads : codec.ReadsFlat)
    (bare : isBare topic = true) (quiet : state.inbox = [])
    (unregistered : state.registries.head.get topic = none) (timeout : ℚ) :
    (RegistryProxy.get host codec topic timeout).Throws state invalidResponse
      { state with
        linux := { state.linux with clock := state.linux.clock.tail }
        registries := state.registries.tail } := by
  obtain ⟨reply, sent, answers⟩ := sendReliably_yields codec hosted (getRequest topic)
    { state with linux := { state.linux with clock := state.linux.clock.tail } }
  rw [effect_getRequest reads bare] at answers
  -- A topic without an address is answered by a success, which has no address either.
  simp only [Effect.Answers, unregistered] at answers
  obtain ⟨linux, registries, inbox⟩ := state
  subst quiet answers
  apply (proxyTime_yields _).bind_throws
  apply Program.Throws.iterate
  exact sent.bind_throws ((readAddress_throws reads (websocketRecv_yields rfl timeout)).bind _)

/-- A lookup of a topic that is not registered is no lookup in the registry. -/
theorem not_looksUp (hosted : host.localIp = .ok ip) (reads : codec.ReadsFlat)
    (bare : isBare topic = true) (quiet : state.inbox = [])
    (unregistered : state.registries.head.get topic = none) (timeout : ℚ) :
    ¬ LooksUp host codec topic timeout state := by
  intro looks
  have threw := get_throws hosted reads bare quiet unregistered timeout
  -- The exception is one that looking at the registry never throws.
  exact absurd rfl (awaitTopic_ensures.throws (looks.throws _ _ threw))

/--
A lookup of a valid topic is a lookup in the registry if and only if the first request finds the topic registered.

Where it does not, the reply to it makes the lookup throw.
-/
theorem get_looksUp_iff (hosted : host.localIp = .ok ip) (reads : codec.ReadsFlat)
    (valid : isValidTopic topic = true) (quiet : state.inbox = []) (timeout : ℚ) :
    LooksUp host codec topic timeout state ↔ (state.registries.head.get topic).isSome = true := by
  have bare := isBare_of_isValidTopic valid
  constructor
  · intro looks
    cases registered : state.registries.head.get topic with
    | some address => rfl
    -- A topic without an address makes the look-up throw, which waiting for it would not.
    | none => exact absurd looks (not_looksUp hosted reads bare quiet registered timeout)
  · intro registered
    obtain ⟨address, registered⟩ := Option.isSome_iff_exists.mp registered
    have found := get_found hosted reads bare quiet registered timeout
    -- Both end with the first round, and in the same state.
    have meant := awaitTopic_found registered timeout
    constructor
    · intro result state' returned
      obtain ⟨rfl, rfl⟩ := meant.unique returned
      exact found
    · intro fault state' threw
      exact absurd threw found.not_throws

end Rounds

/-- A proxy with an empty inbox, whose server has no topics. -/
def lonelyProxy : ProxyState where
  linux := Linux.running
  registries := Stream'.const Registry.empty
  inbox := []

/-- The topic is not registered, and the lookup throws rather than going on. -/
theorem get_looksUp_iff_lonely :
    LooksUp .dotted (Codec.flat (fun _ => []) []) (ascii "alpha") 1 lonelyProxy ↔
      (lonelyProxy.registries.head.get (ascii "alpha")).isSome = true :=
  get_looksUp_iff rfl (Codec.flat_readsFlat _ _) (by decide) rfl 1

/-- The lonely proxy throws, where it should return without an address. -/
theorem lonelyProxy_not_looksUp :
    ¬ LooksUp .dotted (Codec.flat (fun _ => []) []) (ascii "alpha") 1 lonelyProxy :=
  not_looksUp rfl (Codec.flat_readsFlat _ _) (isBare_of_isValidTopic (by decide)) rfl rfl 1

end Rcom
