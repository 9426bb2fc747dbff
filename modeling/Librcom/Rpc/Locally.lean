import Librcom.Rpc.Sessions

/-! Calls over links that deliver come to what calls of the objects themselves would come to. -/

namespace Rcom

open Effects
open Json (ascii Value Codec isUtf8)

section Adaptor

variable {σ : Type}

/-- The first object that was added under an id is the one that the adaptor has. -/
theorem map_withObjects (objects : List (Bytes × RemoteObject σ)) (id : Bytes) :
    (RemoteObjectsAdaptor.withObjects objects).map id =
      (objects.find? (·.1 = id)).map Prod.snd := by
  have added (adaptor : RemoteObjectsAdaptor σ) :
      (objects.foldl (fun adaptor object => adaptor.add object.1 object.2) adaptor).map id =
        (adaptor.map id).or ((objects.find? (·.1 = id)).map Prod.snd) := by
    -- The induction is on the objects that are still to be added.
    induction objects generalizing adaptor with
    | nil => simp
    | cons object later ih =>
      obtain ⟨named, object⟩ := object
      rw [List.foldl_cons, ih]
      by_cases same : named = id
      · subst same
        cases found : adaptor.map named with
        | none => simp [RemoteObjectsAdaptor.add, found]
        | some other => simp [RemoteObjectsAdaptor.add, found]
      · -- An object of another id is passed over.
        have kept : (adaptor.add named object).map id = adaptor.map id := by
          unfold RemoteObjectsAdaptor.add
          split
          · rfl
          · exact Function.update_of_ne (Ne.symm same) _ _
        rw [kept]
        simp [same]
  simpa [RemoteObjectsAdaptor.withObjects, RemoteObjectsAdaptor.create] using added .create

end Adaptor

/-- The result of a caller after a call, which stays as it was when the call has a null result. -/
def resultAfter (own : Value) : Value → Value
  | .null => own
  | result => result

/-- What a stub gives for the result of a call, if a result was passed to it. -/
def StubCall.given (call : StubCall) (result : Value) : Option Value :=
  call.result.map (resultAfter · result)

/-- A call of the objects themselves: the first one of the id executes it. -/
def callLocally {σ : Type} (objects : List (Bytes × RemoteObject σ)) (state : σ) (call : StubCall) :
    (Bool × Option Value) × σ :=
  match objects.find? (·.1 = call.sentId) with
  | none => ((false, call.result), state)
  | some (_, object) =>
    let outcome := object.executeJson state call.sentId call.method call.sentParams .fresh
    ((outcome.threw.isNone && outcome.error.code = 0, call.given outcome.result),
      object.next state call.execution)

/-- Calls of the objects themselves, one after the other. -/
def runLocally {σ : Type} (objects : List (Bytes × RemoteObject σ)) :
    σ → List StubCall → List (Bool × Option Value) × σ
  | state, [] => ([], state)
  | state, call :: calls =>
    let (outcome, next) := callLocally objects state call
    let (outcomes, last) := runLocally objects next calls
    (outcome :: outcomes, last)

/-- The link is idle, and passes on and delivers every message. -/
structure Link.Healthy {τ : Type} (link : Link τ) : Prop where
  idle : link.pending = []
  sends : link.sends = Stream'.const (.ok true)
  arrivals : link.arrivals = Stream'.const .arrived

/-- The response that the server makes to a call. -/
def RemoteObjectsAdaptor.response {σ : Type} (adaptor : RemoteObjectsAdaptor σ) (state : σ)
    (call : StubCall) : Value :=
  let (result, error) :=
    adaptor.executeJson state call.sentId call.method call.sentParams .fresh
  constructResponseWithResult call.sentId call.method error result

/-- A call that names a method, whose request and response can be written and are read as they were. -/
structure Conveyable {σ : Type} (codec : Codec) (adaptor : RemoteObjectsAdaptor σ) (state : σ)
    (call : StubCall) : Prop where
  named : call.method ≠ []
  request_encoded : call.request.wellEncoded = true
  request_restored : codec.Restores call.request
  response_encoded : (adaptor.response state call).wellEncoded = true
  response_restored : codec.Restores (adaptor.response state call)

/-- Every call of a run can be conveyed in the state that the calls before it leave. -/
def AllConveyable {σ : Type} (codec : Codec) (objects : List (Bytes × RemoteObject σ)) :
    σ → List StubCall → Prop
  | _, [] => True
  | state, call :: calls =>
    Conveyable codec (.withObjects objects) state call ∧
      AllConveyable codec objects (callLocally objects state call).2 calls

section Calls

variable {σ : Type} {codec : Codec} {adaptor : RemoteObjectsAdaptor σ}

/-- What the server makes of the request of a call: the response is the only reply. -/
theorem serve_conveyable {world : World σ} {call : StubCall} {request reply : Bytes}
    (conveyable : Conveyable codec adaptor world.state call)
    (dumped : codec.dump call.request = .ok request)
    (replied : codec.dump (adaptor.response world.state call) = .ok reply) :
    RemoteSite.serve codec adaptor.service world (request, .kTextMessage) =
      ([(reply, .kTextMessage)], world.after adaptor.service [call.execution]) := by
  -- The request is read back as it was, and asks for the call.
  have verdict : judge codec request =
      .called call.sentId call.method call.sentParams .fresh := by
    rw [judge, conveyable.request_restored request dumped]
    exact judgeRequest_requestOf.trans (if_pos conveyable.named)
  have answered : (onmessage codec (adaptor.service.handler world.state) request
      .kTextMessage).Yields .fresh ()
      { executed := [call.execution], sent := [(reply, .kTextMessage)] } := by
    rw [onmessage_eq, verdict]
    exact answerJson_response .fresh rfl replied
  rw [RemoteSite.serve, (onmessage_straight request .kTextMessage).after (.inl ⟨(), answered⟩)]

/-- The result that a client takes from a response, or keeps when there is none. -/
theorem result_response (id method : Bytes) (error : RPCError) (result own : Value) :
    ((constructResponseWithResult id method error result).member? kResult).getD own =
      resultAfter own result := by
  -- A result that is null is not sent.
  by_cases absent : result = .null
  · rw [absent, constructResponseWithResult, result_constructResponse, Option.getD_none, resultAfter]
  · rw [result_constructResponseWithResult absent, Option.getD_some]
    cases result with
    | null => exact absurd rfl absent
    | _ => rfl

/-- The error that a client takes from a response has the code that the call left. -/
theorem code_response (id method : Bytes) (error : RPCError) (result : Value) :
    (RcomClient.errorAfter codec (constructResponseWithResult id method error result) .fresh).code =
      error.code := by
  rw [errorAfter_constructResponseWithResult]
  by_cases failed : error.code ≠ 0
  · rw [if_pos failed]
  · rw [if_neg failed, not_not.mp failed]
    rfl

/-- A stub gives what its client comes to. -/
theorem execute_yields {τ : Type} {serve : Server τ} {id method : Bytes} {params own : Value}
    {stub : RemoteStub τ} {call' : Calling τ Value}
    (executed : (RcomClient.executeJson codec serve id method params).Yields (stub.calling own) ()
      call') :
    (RemoteStub.execute codec serve id method params own).Yields stub
      (call'.error.code = 0, call'.result) ⟨call'.link, call'.buffer⟩ := by
  -- No exception comes out of the client, so that the stub's handler is not entered.
  have ended : (RemoteStub.tryExecute codec serve id method params).Yields (stub.calling own)
      (call'.error.code = 0, call'.result) call' :=
    (executed.attempt _).bind ((Program.yields_get call').bind (Program.yields_pure _ _))
  unfold RemoteStub.execute
  exact Program.Yields.within _ ended

/-- When its only reply was received, a link that delivers is as it was. -/
theorem Link.Healthy.answered {τ : Type} {serve : Server τ} {link : Link τ}
    (healthy : link.Healthy) (message reply : LinkMessage) :
    ((link.delivered serve message).received reply []).Healthy where
  idle := rfl
  sends := congrArg Stream'.tail healthy.sends
  arrivals := congrArg Stream'.tail healthy.arrivals

/-- A call over a link that delivers comes to what the adaptor makes of it. -/
theorem perform_conveyable {stub : RemoteStub (World σ)} {call : StubCall} {result : Value}
    {error : RPCError} (healthy : stub.link.Healthy)
    (conveyable : Conveyable codec adaptor stub.link.server.state call)
    (executed : adaptor.executeJson stub.link.server.state call.sentId call.method call.sentParams
      .fresh = (result, error)) :
    ∃ stub', (call.perform codec (RemoteSite.serve codec adaptor.service)).Yields stub
        (error.code = 0, call.given result) stub' ∧
      stub'.link.Healthy ∧
      stub'.link.server = stub.link.server.after adaptor.service [call.execution] := by
  obtain ⟨request, dumped⟩ := (codec.dump_ok _).mpr conveyable.request_encoded
  obtain ⟨reply, replied⟩ := (codec.dump_ok _).mpr conveyable.response_encoded
  -- Both texts exist, so the server is reached and its reply is sent.
  have served := serve_conveyable conveyable dumped replied
  have response : adaptor.response stub.link.server.state call =
      constructResponseWithResult call.sentId call.method error result := by
    rw [RemoteObjectsAdaptor.response, executed]
  -- The reply is the only one on its way, so that the client meets it and parses it.
  have sent : (stub.calling (call.result.getD .null)).link.sends.head = .ok true :=
    congrArg Stream'.head healthy.sends
  have arrives : (stub.calling (call.result.getD .null)).link.arrivals.head = .arrived :=
    congrArg Stream'.head healthy.arrivals
  have waiting := RcomClient.delivered_pending (RemoteSite.serve codec adaptor.service) healthy.idle
    (congrArg Prod.fst served)
  have parsed := conveyable.response_restored reply replied
  rw [response] at parsed
  have returned : (RemoteStub.execute codec (RemoteSite.serve codec adaptor.service) call.sentId
      call.method call.sentParams (call.result.getD .null)).Yields stub
      (error.code = 0, ((constructResponseWithResult call.sentId call.method error result).member?
        kResult).getD (call.result.getD .null))
      ⟨(stub.link.delivered (RemoteSite.serve codec adaptor.service) (request, .kTextMessage)).received
        (reply, .kTextMessage) [], reply⟩ := by
    rw [← code_response call.sentId call.method error result]
    exact execute_yields (RcomClient.executeJson_yields _ dumped sent arrives waiting parsed)
  have given : (call.result.map fun _ => ((constructResponseWithResult call.sentId call.method error
      result).member? kResult).getD (call.result.getD .null)) = call.given result := by
    unfold StubCall.given
    cases call.result with
    | none => rfl
    | some own => simp only [Option.map_some, Option.getD_some, result_response]
  refine ⟨⟨(stub.link.delivered (RemoteSite.serve codec adaptor.service) (request,
    .kTextMessage)).received (reply, .kTextMessage) [], reply⟩, ?_, healthy.answered _ _, ?_⟩
  · rw [StubCall.perform_eq, ← given]
    exact returned.bind (Program.yields_pure _ _)
  · exact congrArg Prod.snd served

end Calls

section Sessions

variable {σ : Type}

/-- A call of the objects themselves is what the adaptor makes of it. -/
theorem callLocally_eq {objects : List (Bytes × RemoteObject σ)} {state : σ} {call : StubCall}
    {result : Value} {error : RPCError}
    (executed : (RemoteObjectsAdaptor.withObjects objects).executeJson state call.sentId call.method
      call.sentParams .fresh = (result, error)) :
    callLocally objects state call = (((error.code = 0 : Bool), call.given result),
      (RemoteObjectsAdaptor.withObjects objects).next state call.execution) := by
  have found := map_withObjects objects call.sentId
  have named : call.execution.id = call.sentId := rfl
  rw [RemoteObjectsAdaptor.executeJson, RemoteObjectsAdaptor.getAdaptor, found] at executed
  rw [callLocally, RemoteObjectsAdaptor.next, named, found]
  cases first : objects.find? (·.1 = call.sentId) with
  | none =>
    -- The missing object is an error, and leaves the result of the caller.
    rw [first] at executed
    obtain ⟨rfl, rfl⟩ := Prod.mk.inj executed
    have kept : call.given .null = call.result := by
      unfold StubCall.given
      cases call.result <;> rfl
    rw [kept]
    rfl
  | some object =>
    rw [first] at executed
    simp only [Option.map_some, RemoteObjectsAdaptor.caught] at executed ⊢
    -- An exception of the object is an error, whatever the object left.
    split at executed
    · next what threw =>
      obtain ⟨rfl, rfl⟩ := Prod.mk.inj executed
      simp [threw]
    · next returned =>
      obtain ⟨rfl, rfl⟩ := Prod.mk.inj executed
      simp [returned]

namespace RemoteSite

variable {ι : Type} [DecidableEq ι]

/-- A call of a stub comes to what a call of the objects comes to, and its link delivers again. -/
theorem call_conveyable {codec : Codec} {objects : List (Bytes × RemoteObject σ)}
    {site : RemoteSite ι σ} {call : StubCall} (client : ι)
    (healthy : ∀ client, (site.stubs client).link.Healthy)
    (conveyable : Conveyable codec (.withObjects objects) site.world.state call) :
    ∃ site', (RemoteSite.call codec (RemoteObjectsAdaptor.withObjects objects).service client
        call).Yields site (callLocally objects site.world.state call).1 site' ∧
      (∀ client, (site'.stubs client).link.Healthy) ∧
      site'.world.state = (callLocally objects site.world.state call).2 ∧
      site'.world.executed = site.world.executed ++ [call.execution] := by
  have own : (site.stub client).link.Healthy :=
    ⟨(healthy client).idle, (healthy client).sends, (healthy client).arrivals⟩
  obtain ⟨stub', performed, own', world⟩ := perform_conveyable own conveyable rfl
  rw [callLocally_eq rfl]
  refine ⟨site.after client stub', ?_, ?_, ?_, ?_⟩
  · unfold RemoteSite.call
    exact Program.Yields.within _ performed
  · intro other
    -- The links of the other stubs stay as they are.
    by_cases same : other = client
    · subst same
      simpa [RemoteSite.after] using own'
    · simpa [RemoteSite.after, same] using healthy other
  · exact congrArg World.state world
  · exact congrArg World.executed world

/--
Over links that deliver, any number of stubs that call in any order find what calls of the objects themselves would
have found, one after the other.
-/
theorem session_runs_locally (codec : Codec) (objects : List (Bytes × RemoteObject σ))
    (site : RemoteSite ι σ) (calls : List (ι × StubCall))
    (healthy : ∀ client, (site.stubs client).link.Healthy)
    (conveyable : AllConveyable codec objects site.world.state (calls.map Prod.snd)) :
    ∃ site', (session codec (RemoteObjectsAdaptor.withObjects objects).service calls).Yields site
        (runLocally objects site.world.state (calls.map Prod.snd)).1 site' ∧
      site'.world.state = (runLocally objects site.world.state (calls.map Prod.snd)).2 ∧
      site'.world.executed = site.world.executed ++ calls.map (·.2.execution) := by
  -- The induction is on the calls, each of which leaves links that deliver.
  induction calls generalizing site with
  | nil => exact ⟨site, Program.yields_pure [] site, rfl, by simp⟩
  | cons head later ih =>
    obtain ⟨client, call⟩ := head
    obtain ⟨first, others⟩ := conveyable
    obtain ⟨middle, returned, healthy', state, executed⟩ := call_conveyable client healthy first
    rw [← state] at others
    obtain ⟨site', rest, last, log⟩ := ih middle healthy' others
    refine ⟨site', ?_, ?_, ?_⟩
    · rw [state] at rest
      exact returned.bind (rest.bind (Program.yields_pure _ _))
    · rw [last, state]
      rfl
    · rw [log, executed, List.append_assoc]
      rfl

/-- Two stubs whose links deliver call the object in turn, which counts both calls. -/
theorem session_runs_locally_jump : ∃ site',
    (session jumpCodec (RemoteObjectsAdaptor.withObjects [(ascii "elmo", jumper)]).service
      [(true, jumpCall), (false, jumpCall)]).Yields (stage fun _ => Stream'.const .arrived)
      [(true, none), (true, none)] site' ∧
    site'.world.state = 2 ∧ site'.world.executed = [jumpCall.execution, jumpCall.execution] := by
  have different : Json.print (fun _ => []) jump ≠ Json.print (fun _ => []) jumped := by decide
  have id_encoded : isUtf8 (ascii "elmo") = true := Json.isUtf8_of_plain (by decide)
  have method_encoded : isUtf8 (ascii "jump-around") = true := Json.isUtf8_of_plain (by decide)
  have ran : runLocally [(ascii "elmo", jumper)] 0 [jumpCall, jumpCall] =
      ([(true, none), (true, none)], 2) := by
    simp [runLocally, callLocally, jumpCall, StubCall.sentId, StubCall.given, jumper, RPCError.fresh]
  have found (state : Nat) : (RemoteObjectsAdaptor.withObjects [(ascii "elmo", jumper)]).response
      state jumpCall = jumped := rfl
  have conveyable (state : Nat) :
      Conveyable jumpCodec (.withObjects [(ascii "elmo", jumper)]) state jumpCall := by
    constructor
    · decide
    · exact wellEncoded_requestOf id_encoded method_encoded rfl
    · exact restores_jump
    · rw [found]
      exact (wellEncoded_constructResponseWithResult id_encoded method_encoded).mpr
        ⟨rfl, fun failed => absurd rfl failed⟩
    · rw [found]
      exact Json.Codec.restores_printing _ [(Json.print (fun _ => []) jump, jump)] []
        (by simpa using different)
  have ended := session_runs_locally jumpCodec [(ascii "elmo", jumper)]
    (stage fun _ => Stream'.const .arrived) [(true, jumpCall), (false, jumpCall)]
    (fun _ => ⟨rfl, rfl, rfl⟩) ⟨conveyable 0, conveyable 1, trivial⟩
  obtain ⟨site', run, state, log⟩ := ended
  refine ⟨site', ?_, ?_, log⟩
  · have outcomes : (runLocally [(ascii "elmo", jumper)] 0 [jumpCall, jumpCall]).1 =
        [(true, none), (true, none)] := congrArg Prod.fst ran
    rw [← outcomes]
    exact run
  · exact state.trans (congrArg Prod.snd ran)

end RemoteSite

end Sessions

end Rcom
