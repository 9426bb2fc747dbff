import Librcom.Registry.Server

/-! What the registry server makes of a message, and how it answers. -/

namespace Rcom

open Effects
open Json (ascii Value Codec)
open RegistryServer

/-- What is made of a message. -/
inductive Effect where
  /-- The topic is mapped to the address. -/
  | mapped (topic : Bytes) (address : Address)
  /-- The topic is removed. -/
  | removed (topic : Bytes)
  /-- The topic is looked up. -/
  | lookedUp (topic : Bytes)
  /-- Nothing is done, and the sender is told why. -/
  | failed (what : Bytes)

/-- The address that a request to register gives, which has to be set. -/
def givenAddress (host : Host) (request : Value) : Option Address :=
  match request.member? kAddress with
  | some (.string text) => (Address.parse host text).toOption.filter Address.isSet
  | _ => none

/-- What is made of a request to register. -/
def registerEffect (host : Host) (request : Value) : Effect :=
  match request.stringAt kTopic, givenAddress host request with
  | .ok topic, some address => .mapped topic address
  | _, _ => .failed (ascii "RegistryServer: set failed")

/-- What is made of a request to unregister. -/
def unregisterEffect (request : Value) : Effect :=
  match request.stringAt kTopic with
  | .ok topic => .removed topic
  | .error _ => .failed (ascii "RegistryServer: remove failed")

/-- What is made of a request to look up. -/
def getEffect (request : Value) : Effect :=
  match request.stringAt kTopic with
  | .ok topic => .lookedUp topic
  | .error what => .failed what

/-- What is made of a request. -/
def effectOf (host : Host) (request : Value) : Effect :=
  match request.stringAt kRequest with
  | .error what => .failed what
  | .ok name =>
    if name = kRegister then registerEffect host request
    else if name = kUnregister then unregisterEffect request
    else if name = kGet then getEffect request
    else .failed (ascii "Unknown request")

/-- What is made of a message, which has to be a request. -/
def effect (host : Host) (codec : Codec) (message : Bytes) : Effect :=
  match codec.parse message with
  | .ok request => effectOf host request
  | .error what => .failed what

/-- The registry after an effect. -/
def Effect.Changes (registry registry' : Registry) : Effect → Prop
  | mapped topic address => registry.set topic address = .ok registry'
  | removed topic => registry' = registry.remove topic
  | lookedUp _ => registry' = registry
  | failed _ => registry' = registry

/-- The reply to a message, by what was made of it. -/
def Effect.Answers (registry : Registry) (reply : Bytes) : Effect → Prop
  | mapped _ _ => reply = successReply
  | removed _ => reply = successReply
  | lookedUp topic =>
    reply = match registry.get topic with
      | some address => addressReply topic address
      | none => successReply
  | failed what => reply = failReply what

/-- The message is handled once: the registry changes as it should, and one reply is sent. -/
def Serves (effect : Effect) (p : ServerM Unit) (registry : Registry) : Prop :=
  ∃ registry' reply,
    p.Yields { registry := registry, sent := [] } ()
      { registry := registry', sent := [(reply, .kTextMessage)] } ∧
    effect.Changes registry registry' ∧ effect.Answers registry reply

section Steps

variable {α : Type} {serving : Serving}

/-- What the library gives is given. -/
theorem ofJson_yields {result : Except Bytes α} {a : α} (ok : result = .ok a) :
    (ofJson result).Yields serving a serving :=
  Program.yields_ofExcept (by rw [ok]; rfl) serving

/-- What the library complains of is thrown as its exception. -/
theorem ofJson_throws {result : Except Bytes α} {what : Bytes} (error : result = .error what) :
    (ofJson result).Throws serving (.jsonException what) serving :=
  Program.throws_ofExcept (by rw [error]; rfl) serving

/-- What was computed is given. -/
theorem ofRuntime_yields {result : Except Bytes α} {a : α} (ok : result = .ok a) :
    (ofRuntime result).Yields serving a serving :=
  Program.yields_ofExcept (by rw [ok]; rfl) serving

/-- What went wrong is thrown as a runtime error. -/
theorem ofRuntime_throws {result : Except Bytes α} {what : Bytes} (error : result = .error what) :
    (ofRuntime result).Throws serving (.runtimeError what) serving :=
  Program.throws_ofExcept (by rw [error]; rfl) serving

/-- A response is sent, and leaves the registry. -/
theorem reply_yields (response : Bytes) (registry : Registry) :
    (RegistryServer.sendResponse response).Yields { registry := registry, sent := [] } ()
      { registry := registry, sent := [(response, .kTextMessage)] } :=
  Program.yields_update _ _

end Steps

section Handlers

variable {host : Host} {request : Value} (registry : Registry)

/-- Before a message is handled, nothing has been sent. -/
def Serving.fresh (registry : Registry) : Serving where
  registry := registry
  sent := []

/-- An exception that changed nothing is answered by a failure. -/
theorem serves_failed {body : ServerM Unit} {handler : ServerFault → ServerM Unit}
    {fault : ServerFault} {message : Bytes}
    (threw : body.Throws (Serving.fresh registry) fault (Serving.fresh registry))
    (caught : handler fault = sendFail message) :
    Serves (.failed message) (body.attempt handler) registry := by
  -- The failure is reported in the handler of the exception, over the registry as it was.
  have answered : (body.attempt handler).Yields (Serving.fresh registry) ()
      { registry := registry, sent := [(failReply message, .kTextMessage)] } :=
    threw.attempt (by rw [caught]; exact reply_yields (failReply message) registry)
  exact ⟨registry, failReply message, answered, rfl, rfl⟩

/-- A request to register maps its topic to the address that it gives. -/
theorem handleRegister_mapped {topic : Bytes} {address : Address}
    (named : request.stringAt kTopic = .ok topic)
    (given : givenAddress host request = some address) :
    Serves (.mapped topic address) (handleRegister host request) registry := by
  unfold givenAddress at given
  split at given
  · rename_i text found
    rw [Option.filter_eq_some_iff] at given
    obtain ⟨parsed, isSet⟩ := given
    have parsed : Address.parse host text = .ok address := by
      cases result : Address.parse host text with
      | error what => simp [result, Except.toOption] at parsed
      | ok other => simpa [result, Except.toOption] using parsed
    -- A registry takes an address that is set, and the registration cannot fail from here on.
    obtain ⟨registry', mapped⟩ := (registry.set_ok topic address).mpr isSet
    refine ⟨registry', successReply, ?_, mapped, rfl⟩
    -- The three steps of the source: read, replace, reply.
    have stored : (RegistryServer.set topic address).Yields (Serving.fresh registry) ()
        (Serving.fresh registry') := by
      apply (Program.yields_get _).bind
      apply (ofRuntime_yields mapped).bind
      exact Program.yields_update _ _
    apply Program.Yields.attempt
    apply (ofJson_yields named).bind
    apply (ofJson_yields (Value.stringAt_ok.mpr found)).bind
    apply (ofRuntime_yields (by rw [parsed]; rfl)).bind
    exact stored.next (reply_yields successReply registry')
  · cases given

/-- A request to register fails without a topic, and without an address that is set. -/
theorem handleRegister_failed
    (missing : (∀ topic, request.stringAt kTopic ≠ .ok topic) ∨ givenAddress host request = none) :
    Serves (.failed (ascii "RegistryServer: set failed")) (handleRegister host request) registry := by
  -- The first of the steps that cannot be done throws, before the registry is changed.
  suffices threw : ∃ fault, (tryRegister host request).Throws (Serving.fresh registry) fault
      (Serving.fresh registry) by
    obtain ⟨fault, threw⟩ := threw
    exact serves_failed registry threw rfl
  cases named : request.stringAt kTopic with
  | error what => exact ⟨_, (ofJson_throws named).bind _⟩
  | ok topic =>
    -- There is a topic, so that it is the address that was not given.
    have ungiven := missing.resolve_left fun none => none topic named
    cases told : request.stringAt kAddress with
    | error what => exact ⟨_, (ofJson_yields named).bind_throws ((ofJson_throws told).bind _)⟩
    | ok text =>
      cases parsed : Address.parse host text with
      | error what =>
        refine ⟨.runtimeError (ascii what), (ofJson_yields named).bind_throws ?_⟩
        exact (ofJson_yields told).bind_throws ((ofRuntime_throws (by rw [parsed]; rfl)).bind _)
      | ok address =>
        rw [givenAddress, Value.stringAt_ok.mp told] at ungiven
        simp only [parsed, Except.toOption, Option.filter_eq_none_iff] at ungiven
        -- The address parses and was not given, so that it is not set, and the registry refuses it.
        cases mapped : registry.set topic address with
        | ok registry' =>
          have isSet := (registry.set_ok topic address).mp ⟨registry', mapped⟩
          exact absurd isSet (ungiven address rfl)
        | error what =>
          refine ⟨.runtimeError what, (ofJson_yields named).bind_throws ?_⟩
          apply (ofJson_yields told).bind_throws
          apply (ofRuntime_yields (by rw [parsed]; rfl)).bind_throws
          apply Program.Throws.bind
          apply (Program.yields_get _).bind_throws
          exact (ofRuntime_throws mapped).bind _

/-- A request to register is handled once. -/
theorem handleRegister_serves :
    Serves (registerEffect host request) (handleRegister host request) registry := by
  unfold registerEffect
  split
  · rename_i topic address named given
    exact handleRegister_mapped registry named given
  · rename_i refused
    apply handleRegister_failed
    -- Either there is no topic, or there is a topic and no address.
    cases given : givenAddress host request with
    | none => exact .inr rfl
    | some address => exact .inl fun topic named => refused topic address named given

/-- A request to unregister is handled once. -/
theorem handleUnregister_serves :
    Serves (unregisterEffect request) (handleUnregister request) registry := by
  unfold unregisterEffect
  cases named : request.stringAt kTopic with
  | error what => exact serves_failed registry ((ofJson_throws named).bind _) rfl
  | ok topic =>
    -- Removing never fails, whether the topic is registered or not.
    refine ⟨registry.remove topic, successReply, ?_, rfl, rfl⟩
    apply Program.Yields.attempt
    apply (ofJson_yields named).bind
    apply (Program.yields_update _ _).next
    exact reply_yields successReply _

/-- A request to look up is handled once, or the exception that it has no topic is left to the caller. -/
theorem handleGet_serves {ip : UInt32} (hosted : host.localIp = .ok ip) :
    Serves (getEffect request) (handleGet host request) registry ∨
      ∃ what, getEffect request = .failed what ∧
        (handleGet host request).Throws (Serving.fresh registry) (.jsonException what)
          (Serving.fresh registry) := by
  -- The object for the address is made first, and this needs an address of the host.
  have fresh : Address.fresh host = .ok { ip := ip, port := 0 } := by rw [Address.fresh, hosted]; rfl
  unfold getEffect
  cases named : request.stringAt kTopic with
  | error what =>
    have threw : (tryGet host request).Throws (Serving.fresh registry) (.jsonException what)
        (Serving.fresh registry) :=
      (ofRuntime_yields fresh).bind_throws ((ofJson_throws named).bind _)
    -- The handler of `get` raises a JSON exception again, and the caller answers it.
    exact .inr ⟨what, rfl, threw.attempt_throws (Program.throws_raise _ _)⟩
  | ok topic =>
    -- The reply is found by the lookup, and is a success either way.
    refine .inl ⟨registry, _, ?_, rfl, rfl⟩
    apply Program.Yields.attempt
    apply (ofRuntime_yields fresh).bind
    apply (ofJson_yields named).bind
    apply Program.Yields.bind
    · exact (Program.yields_get _).bind (Program.yields_pure _ _)
    · cases registry.get topic with
      | some address => exact reply_yields (addressReply topic address) registry
      | none => exact reply_yields successReply registry

end Handlers

section Messages

variable {host : Host} {ip : UInt32} {registry : Registry}

/-- A handler of exceptions is not asked where there are none. -/
theorem Serves.attempt {effect : Effect} {body : ServerM Unit} (served : Serves effect body registry)
    (handler : ServerFault → ServerM Unit) : Serves effect (body.attempt handler) registry := by
  obtain ⟨registry', reply, returned, outcome⟩ := served
  exact ⟨registry', reply, returned.attempt handler, outcome⟩

/-- What precedes a part without changing anything leaves what the part comes to. -/
theorem Serves.after {effect : Effect} {α : Type} {first : ServerM α} {a : α}
    {rest : α → ServerM Unit} (served : Serves effect (rest a) registry)
    (began : first.Yields (Serving.fresh registry) a (Serving.fresh registry)) :
    Serves effect (first >>= rest) registry := by
  obtain ⟨registry', reply, returned, outcome⟩ := served
  exact ⟨registry', reply, began.bind returned, outcome⟩

/-- A request is handled once, or an exception of the JSON library is left to the caller. -/
theorem handleJsonMessage_serves (hosted : host.localIp = .ok ip) (registry : Registry)
    (request : Value) :
    Serves (effectOf host request) (handleJsonMessage host request) registry ∨
      ∃ what, effectOf host request = .failed what ∧
        (handleJsonMessage host request).Throws (Serving.fresh registry) (.jsonException what)
          (Serving.fresh registry) := by
  unfold effectOf
  cases asked : request.stringAt kRequest with
  | error what => exact .inr ⟨what, rfl, (ofJson_throws asked).bind _⟩
  | ok name =>
    have told : (ofJson (request.stringAt kRequest)).Yields (Serving.fresh registry) name
        (Serving.fresh registry) := ofJson_yields asked
    dsimp only
    -- The names of the requests are tried in the order of the source.
    by_cases register : name = kRegister
    · refine .inl (Serves.after ?_ told)
      rw [if_pos register, if_pos register]
      exact handleRegister_serves registry
    by_cases unregister : name = kUnregister
    · refine .inl (Serves.after ?_ told)
      rw [if_neg register, if_pos unregister, if_neg register, if_pos unregister]
      exact handleUnregister_serves registry
    by_cases get : name = kGet
    · rw [if_neg register, if_neg unregister, if_pos get]
      rcases handleGet_serves registry hosted with served | ⟨what, failed, threw⟩
      · refine .inl (Serves.after ?_ told)
        rw [if_neg register, if_neg unregister, if_pos get]
        exact served
      · refine .inr ⟨what, failed, told.bind_throws ?_⟩
        rw [if_neg register, if_neg unregister, if_pos get]
        exact threw
    · refine .inl (Serves.after ?_ told)
      rw [if_neg register, if_neg unregister, if_neg get, if_neg register, if_neg unregister,
        if_neg get]
      -- A request of another name is answered where it is found to be unknown.
      exact ⟨registry, _, reply_yields _ registry, rfl, rfl⟩

/-- A message is handled once, and answered once. -/
theorem onmessage_serves (codec : Codec) (hosted : host.localIp = .ok ip) (registry : Registry)
    (message : Bytes) :
    Serves (effect host codec message) (RegistryServer.onmessage host codec message) registry := by
  unfold effect
  cases parsed : codec.parse message with
  | error what => exact serves_failed registry ((ofJson_throws parsed).bind _) rfl
  | ok request =>
    have read : (ofJson (codec.parse message)).Yields (Serving.fresh registry) request
        (Serving.fresh registry) := ofJson_yields parsed
    -- An exception that a handler left to its caller is answered here.
    rcases handleJsonMessage_serves hosted registry request with served | ⟨what, failed, threw⟩
    · exact (served.after read).attempt _
    · simp only [failed]
      exact serves_failed registry (read.bind_throws threw) rfl

end Messages

section Straight

variable {host : Host}

/-- To send a failure takes no loop. -/
theorem sendFail_straight (message : Bytes) : (sendFail message).Straight :=
  Program.straight_update _

/-- Nor does a result of the library. -/
theorem ofJson_straight {α : Type} (result : Except Bytes α) : (ofJson result).Straight :=
  Program.straight_ofExcept _

/-- Nor does a result that may be a runtime error. -/
theorem ofRuntime_straight {α : Type} (result : Except Bytes α) : (ofRuntime result).Straight :=
  Program.straight_ofExcept _

/-- A request to register is handled without a loop. -/
theorem handleRegister_straight (message : Value) : (handleRegister host message).Straight := by
  apply Program.Straight.attempt
  · apply (ofJson_straight _).bind
    intro topic
    apply (ofJson_straight _).bind
    intro addressString
    apply (ofRuntime_straight _).bind
    intro address
    -- The registry refuses an address that is not set.
    have mapped : (RegistryServer.set topic address).Straight := by
      apply Program.straight_get.bind
      intro serving
      exact (ofRuntime_straight _).bind fun _ => Program.straight_update _
    exact mapped.bind fun _ => Program.straight_update _
  · intro fault
    exact sendFail_straight _

/-- So is a request to unregister. -/
theorem handleUnregister_straight (message : Value) : (handleUnregister message).Straight := by
  apply Program.Straight.attempt
  · apply (ofJson_straight _).bind
    intro topic
    exact (Program.straight_update _).bind fun _ => Program.straight_update _
  · intro fault
    exact sendFail_straight _

/-- So is a request to look up. -/
theorem handleGet_straight (message : Value) : (handleGet host message).Straight := by
  apply Program.Straight.attempt
  · apply (ofRuntime_straight _).bind
    intro fresh
    apply (ofJson_straight _).bind
    intro topic
    -- The look-up gives an address or none, and both are answered.
    apply Program.Straight.bind
    · exact Program.straight_get.bind fun _ => Program.straight_pure _
    · intro found
      cases found with
      | some address => exact Program.straight_update _
      | none => exact Program.straight_update _
  · intro fault
    cases fault with
    | jsonException what => exact Program.straight_raise _
    | runtimeError what => exact sendFail_straight _

/-- Handling a message takes no loops. -/
theorem registryServer_onmessage_straight (codec : Codec) (message : Bytes) :
    (RegistryServer.onmessage host codec message).Straight := by
  apply Program.Straight.attempt
  · apply (ofJson_straight _).bind
    intro request
    apply (ofJson_straight _).bind
    intro name
    -- The four branches of the source: register, unregister, get and anything else.
    split
    · exact handleRegister_straight _
    · split
      · exact handleUnregister_straight _
      · split
        · exact handleGet_straight _
        · exact sendFail_straight _
  · intro fault
    -- Whatever was thrown, the `catch` block that takes it answers with a failure.
    cases fault with
    | jsonException what => exact sendFail_straight _
    | runtimeError what => exact sendFail_straight _

end Straight

end Rcom
