import Librcom.Effects.Passage
import Librcom.Registry.Texts

/-! What a proxy makes of the replies of the registry server. -/

namespace Rcom

open Effects
open Json (ascii Value Codec FlatMember isBare flatText flatValue IsFlat)
open RegistryServer

variable {host : Host} {codec : Codec}

section Requests

variable {ip : UInt32}

/-- A message that is handled leaves the registry changed, and one reply. -/
theorem handle_eq (codec : Codec) (hosted : host.localIp = .ok ip) (registry : Registry)
    (message : Bytes) :
    ∃ registry' reply,
      handle host codec registry message = { registry := registry', sent := [(reply, .kTextMessage)] } ∧
      (effect host codec message).Changes registry registry' ∧
      (effect host codec message).Answers registry reply := by
  obtain ⟨registry', reply, served, changes, answers⟩ :=
    onmessage_serves codec hosted registry message
  refine ⟨registry', reply, ?_, changes, answers⟩
  exact (registryServer_onmessage_straight codec message).after (.inl ⟨(), served⟩)

/-- A message that maps a topic leaves it with its address. -/
theorem handle_mapped (hosted : host.localIp = .ok ip) {registry : Registry} {message topic : Bytes}
    {address : Address} (made : effect host codec message = .mapped topic address) :
    (handle host codec registry message).registry.get topic = some address := by
  -- A mapping changes the registry by a `set` that succeeded, and this stores the topic.
  obtain ⟨registry', reply, handled, changes, -⟩ := handle_eq codec hosted registry message
  rw [made] at changes
  rw [handled, Registry.get_set changes, if_pos rfl]

/-- A message that looks up a registered topic is answered by its address. -/
theorem handle_lookedUp (hosted : host.localIp = .ok ip) {registry : Registry}
    {message topic : Bytes} {address : Address}
    (made : effect host codec message = .lookedUp topic)
    (registered : registry.get topic = some address) :
    (handle host codec registry message).sent = [(addressReply topic address, .kTextMessage)] := by
  obtain ⟨registry', reply, handled, -, answers⟩ := handle_eq codec hosted registry message
  rw [made] at answers
  simp only [Effect.Answers, registered] at answers
  rw [handled, answers]

end Requests

section Responses

variable {σ : Type} {platform : ProxyPlatform σ} {state state' state'' : σ}

/-- A request that the WebSocket takes is sent. -/
theorem sendRequest_yields {request : Bytes}
    (taken : (platform.websocketSend request).Yields state true state') :
    (platform.sendRequest request).Yields state () state' :=
  taken.bind (Program.yields_pure _ _)

/-- A reply that arrives as a text message is read. -/
theorem readResponse_yields {reply : Bytes} {timeout : ℚ}
    (received : (platform.websocketRecv timeout).Yields state (.kRecvText, reply) state') :
    (platform.readResponse timeout).Yields state reply state' :=
  received.bind (Program.yields_pure _ _)

/-- A flat reply is parsed as the object that it is. -/
theorem parseResponse_yields (reads : codec.ReadsFlat) {members : List FlatMember}
    (flat : IsFlat members) :
    (ProxyPlatform.parseResponse codec (flatText members)).Yields state (flatValue members) state := by
  apply Program.yields_ofExcept
  -- A flat text has no null character, so that the C string keeps all of it.
  rw [cString_eq (Json.flatText_no_null flat.bare), reads members flat]
  rfl

/-- The truth value of a flat reply is its success. -/
theorem success_flatValue {members : List FlatMember} (flat : IsFlat members) (truth : Bool)
    (among : FlatMember.mk kSuccess false (.inr truth) ∈ members) :
    (flatValue members).booleanAt kSuccess = .ok truth := by
  have found : (flatValue members).member? kSuccess = some (.boolean truth) :=
    member?_flatValue flat.distinct _ among
  rw [Value.booleanAt, Value.index_of_member found]
  rfl

/-- A result without an exception is returned. -/
theorem orFail_yields {α : Type} {result : Except Bytes α} {a : α} (ok : result = .ok a)
    (what : String) : (ProxyPlatform.orFail result what).Yields state a state :=
  Program.yields_ofExcept (by rw [ok]; rfl) state

/-- An exception of the library is thrown as one of the proxy. -/
theorem orFail_throws {α : Type} {result : Except Bytes α} {text : Bytes}
    (error : result = .error text) (what : String) :
    (ProxyPlatform.orFail result what).Throws state (.runtimeError what) state :=
  Program.throws_ofExcept (by rw [error]; rfl) state

/-- The reply of a success is asserted to be one. -/
theorem responseAssertSuccess_yields (reads : codec.ReadsFlat)
    (received : (platform.websocketRecv 10).Yields state (.kRecvText, successReply) state') :
    (platform.responseAssertSuccess codec).Yields state () state' := by
  -- The success reply has a single member, which is its success.
  have success := success_flatValue isFlat_successMembers true (List.mem_singleton.mpr rfl)
  apply (readResponse_yields received).bind
  rw [successReply_eq]
  apply (parseResponse_yields reads isFlat_successMembers).bind
  rw [ProxyPlatform.assertSuccess, success]
  exact Program.yields_pure _ _

/-- The address in a reply is found. -/
theorem readAddress_yields (reads : codec.ReadsFlat) {topic : Bytes} (bare : isBare topic = true)
    {address : Address} {timeout : ℚ}
    (received : (platform.websocketRecv timeout).Yields state
      (.kRecvText, addressReply topic address) state') :
    (platform.readAddress host codec timeout).Yields state (some address) state' := by
  have flat := isFlat_addressMembers bare address
  have success := success_flatValue flat true (by simp [addressMembers])
  have told : (flatValue (addressMembers topic address)).stringAt kAddress = .ok address.tostring :=
    stringAt_flatValue flat.distinct (by simp [addressMembers])
  -- The truth of the success is looked at before the address is.
  apply (readResponse_yields received).bind
  rw [addressReply_eq bare]
  apply (parseResponse_yields reads flat).bind
  apply (orFail_yields success _).bind
  rw [if_pos rfl]
  apply (orFail_yields told _).bind
  apply Program.Yields.bind
  · -- The proxy parses the address that the server printed.
    exact Program.yields_ofExcept (by rw [Address.parse_tostring]; rfl) _
  · exact Program.yields_pure _ _

/-- An address that was found ends the polling. -/
theorem awaitAddress_yields (reads : codec.ReadsFlat) {topic : Bytes} (bare : isBare topic = true)
    {address : Address} {startTime timeout now : ℚ}
    (received : (platform.websocketRecv timeout).Yields state
      (.kRecvText, addressReply topic address) state')
    (read : platform.rcomTime.Yields state' now state'') :
    (platform.awaitAddress host codec startTime timeout).Yields state (.inr (some address)) state'' := by
  apply (readAddress_yields reads bare received).bind
  apply read.bind
  -- An address was found, so that the time makes no difference.
  simp only [Option.isNone_some, Bool.false_eq_true, false_and, if_false]
  exact Program.yields_pure _ _

/-- A success without an address is an exception to the reader of an address. -/
theorem readAddress_throws (reads : codec.ReadsFlat) {timeout : ℚ}
    (received : (platform.websocketRecv timeout).Yields state (.kRecvText, successReply) state') :
    (platform.readAddress host codec timeout).Throws state
      (.runtimeError "RegistryProxy: invalid response") state' := by
  -- The reply says that it succeeded, and only then is its address missed.
  have success := success_flatValue isFlat_successMembers true (List.mem_singleton.mpr rfl)
  have untold : (flatValue successMembers).stringAt kAddress =
      .error (Value.typeError "302" "type must be string, but is " [kAddress] .null) := by rfl
  apply (readResponse_yields received).bind_throws
  rw [successReply_eq]
  apply (parseResponse_yields reads isFlat_successMembers).bind_throws
  apply (orFail_yields success _).bind_throws
  rw [if_pos rfl]
  exact (orFail_throws untold _).bind _

/-- What sending maintains, a request does. -/
theorem sendRequest_maintains {holds : σ → Prop} {request : Bytes}
    (sends : (platform.websocketSend request).Maintains holds) :
    (platform.sendRequest request).Maintains holds := by
  refine sends.bind fun success => ?_
  split
  · exact Program.maintains_pure ()
  · exact Program.maintains_raise _

/-- What receiving maintains, reading a response does. -/
theorem readResponse_maintains {holds : σ → Prop} {timeout : ℚ}
    (receives : (platform.websocketRecv timeout).Maintains holds) :
    (platform.readResponse timeout).Maintains holds := by
  refine receives.bind ?_
  rintro ⟨status, response⟩
  -- Three of the five statuses give a response, and the other two an exception.
  cases status with
  | kRecvText => exact Program.maintains_pure response
  | kRecvBinary => exact Program.maintains_pure response
  | kRecvClosed => exact Program.maintains_pure response
  | kRecvTimeOut => exact Program.maintains_raise _
  | kRecvError => exact Program.maintains_raise _

/-- What receiving maintains, reading an address does. -/
theorem readAddress_maintains {holds : σ → Prop} {timeout : ℚ}
    (receives : (platform.websocketRecv timeout).Maintains holds) :
    (platform.readAddress host codec timeout).Maintains holds := by
  -- What is done with a response leaves the state.
  refine (readResponse_maintains receives).bind fun response => ?_
  refine (Program.maintains_ofExcept _).bind fun json => ?_
  refine (Program.maintains_ofExcept _).bind fun success => ?_
  split
  · refine (Program.maintains_ofExcept _).bind fun addressString => ?_
    exact (Program.maintains_ofExcept _).bind fun address => Program.maintains_pure _
  · exact Program.maintains_pure _

/-- What receiving maintains, asserting a success does. -/
theorem responseAssertSuccess_maintains {holds : σ → Prop}
    (receives : (platform.websocketRecv 10).Maintains holds) :
    (platform.responseAssertSuccess codec).Maintains holds := by
  refine (readResponse_maintains receives).bind fun response => ?_
  refine (Program.maintains_ofExcept _).bind fun json => ?_
  unfold ProxyPlatform.assertSuccess
  split
  · exact Program.maintains_pure ()
  · exact Program.maintains_raise _

end Responses

section Reliable

variable {ip : UInt32} {state : ProxyState}

/-- A request over a link that loses nothing is answered by what the server makes of it. -/
theorem sendReliably_yields (codec : Codec) (hosted : host.localIp = .ok ip) (request : Bytes)
    (state : ProxyState) :
    ∃ reply, ((RegistryProxy.reliable host codec).sendRequest request).Yields state ()
        { state with registries := state.registries.tail, inbox := state.inbox ++ [reply] } ∧
      (effect host codec request).Answers state.registries.head reply := by
  obtain ⟨registry', reply, handled, -, answers⟩ :=
    handle_eq codec hosted state.registries.head request
  refine ⟨reply, sendRequest_yields ?_, answers⟩
  -- The server handles the request as it is sent, and the proxy keeps its replies for the next
  -- receive.
  have replies : [reply] = (handle host codec state.registries.head request).sent.map Prod.fst := by
    rw [handled]
    rfl
  rw [replies]
  exact Program.yields_act _ state

/-- A reply that was sent is received. -/
theorem websocketRecv_yields {reply : Bytes} {rest : List Bytes} (arrived : state.inbox = reply :: rest)
    (timeout : ℚ) :
    ((RegistryProxy.reliable host codec).websocketRecv timeout).Yields state (.kRecvText, reply)
      { state with inbox := rest } := by
  obtain ⟨linux, registries, inbox⟩ := state
  cases arrived
  exact Program.yields_act _ _

/-- Reading the clock takes one reading from the system. -/
theorem proxyTime_yields (state : ProxyState) :
    RegistryProxy.rcomTime.Yields state state.linux.clock.head
      { state with linux := { state.linux with clock := state.linux.clock.tail } } := by
  have read : Linux.rcomTime.Yields state.linux state.linux.clock.head
      { state.linux with clock := state.linux.clock.tail } := Program.yields_act _ _
  exact read.within fun linux (state : ProxyState) => { state with linux := linux }

/-- A sleep passes, or it throws that it did not succeed. -/
theorem proxySleep_ensures (seconds : ℚ) (state : ProxyState) :
    (RegistryProxy.rcomSleep seconds).Ensures state (fun _ _ => True)
      fun fault _ => fault = .runtimeError "rcom_sleep: Interrupted" ∨
        fault = .runtimeError "rcom_sleep: Failed" := by
  have slept : (Linux.rcomSleep seconds).Ensures state.linux (fun _ _ => True)
      fun fault _ => fault = .runtimeError "rcom_sleep: Interrupted" ∨
        fault = .runtimeError "rcom_sleep: Failed" := by
    -- Both of the ways in which the system interrupts a sleep end in an exception.
    apply Program.Yields.bind_ensures (Program.yields_act _ _)
    split
    · split
      · exact Program.ensures_raise (.inl rfl)
      · exact Program.ensures_raise (.inr rfl)
    · exact Program.ensures_pure trivial
  apply (slept.within fun linux (state : ProxyState) => { state with linux := linux }).mono
  · exact fun _ _ _ => trivial
  · rintro fault _ ⟨linux, failed, -⟩
    exact failed

end Reliable

end Rcom
