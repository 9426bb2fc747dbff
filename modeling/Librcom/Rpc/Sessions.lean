import Librcom.Rpc.StubLaws

/-! Any number of stubs that call the objects of one server, in any order. -/

namespace Rcom

open Effects
open Json (ascii Value Codec isUtf8)

namespace StubCall

variable (call : StubCall)

/-- The request that the call sends. -/
def request : Value := RcomClient.requestOf call.sentId call.method call.sentParams

/-- The functions of the stub differ in what they pass on, and in what they give back. -/
theorem perform_eq {τ : Type} (codec : Codec) (serve : Server τ) :
    call.perform codec serve = (do
      let outcome ← RemoteStub.execute codec serve call.sentId call.method call.sentParams
        (call.result.getD .null)
      return (outcome.1, call.result.map fun _ => outcome.2)) := by
  unfold perform
  -- The four functions differ only in the null values they make up.
  cases params : call.params with
  | none =>
    cases call.result <;> simp [RemoteStub.executeWithResult, RemoteStub.executeSimpleRequest,
      sentParams, params]
  | some value =>
    cases call.result <;> simp [RemoteStub.executeWithParams, sentParams, params]

end StubCall

/--
What became of some calls: each was executed at most once, in their order.

A call that was not executed failed, unless it has no method.
-/
inductive ExecutedOnce : List StubCall → List (Bool × Option Value) → List Execution → Prop
  | done : ExecutedOnce [] [] []
  | executed {call : StubCall} {calls : List StubCall} {outcome : Bool × Option Value}
      {outcomes : List (Bool × Option Value)} {executed : List Execution} (named : call.method ≠ [])
      (later : ExecutedOnce calls outcomes executed) :
      ExecutedOnce (call :: calls) (outcome :: outcomes) (call.execution :: executed)
  | skipped {call : StubCall} {calls : List StubCall} {outcome : Bool × Option Value}
      {outcomes : List (Bool × Option Value)} {executed : List Execution}
      (failed : call.method ≠ [] → outcome.1 = false)
      (later : ExecutedOnce calls outcomes executed) :
      ExecutedOnce (call :: calls) (outcome :: outcomes) executed

section Calls

variable {τ : Type} (codec : Codec) (serve : Server τ)

/-- What a stub runs on its client, with an error that is fresh. -/
theorem tryExecute_serves (id method : Bytes) (params : Value) (call : Calling τ Value) :
    (RemoteStub.tryExecute codec serve id method params).Achieves call
      (fun outcome call' => Served serve codec id method params call.link.server call'.link.server ∨
        call'.HasServer call.link.server ∧ outcome.1 = false)
      fun _ _ => False := by
  apply Program.Straight.achieves
  · -- Neither the call of the client nor what follows it has a loop.
    refine ((executeJson_straight id method params).attempt ?_).bind fun _ => ?_
    · exact fun _ => Program.straight_update _
    · exact Program.straight_get.bind fun _ => Program.straight_pure _
  · apply ((executeJson_serves serve call).attempt (fun _ _ none => none.elim)).bind
    intro _ call' reached
    apply (Program.yields_get call').bind_ensures
    apply Program.ensures_pure
    refine reached.imp_right fun unserved => ⟨unserved.1, ?_⟩
    simpa using unserved.2

/-- A call of a stub succeeds only if the server handled its request. -/
theorem execute_serves (id method : Bytes) (params result : Value) (stub : RemoteStub τ) :
    (RemoteStub.execute codec serve id method params result).Achieves stub
      (fun outcome stub' => Served serve codec id method params stub.link.server stub'.link.server ∨
        stub'.link.server = stub.link.server ∧ outcome.1 = false)
      fun _ _ => False := by
  have tried := tryExecute_serves codec serve id method params (stub.calling result)
  -- The stub's link and buffer are those of the client, so its server is too.
  refine (Program.Achieves.within (RemoteStub.calling · result) _ tried).mono ?_ ?_
  · rintro outcome _ ⟨call, reached, rfl⟩
    exact reached
  · rintro _ _ ⟨_, none, -⟩
    exact none

end Calls

section Service

variable {σ : Type} {codec : Codec} (service : Service σ) (world : World σ)

/-- Without calls the state stays as it is. -/
@[simp] theorem World.after_nil : world.after service [] = world := by
  simp [World.after]

/-- Calls may be executed in two parts. -/
@[simp] theorem World.after_after (executed later : List Execution) :
    (world.after service executed).after service later = world.after service (executed ++ later) := by
  simp [World.after, List.foldl_append]

/-- The server executes a request that names a method, and only such a request. -/
theorem serve_request {id method request : Bytes} {params : Value}
    (restored : codec.Restores (RcomClient.requestOf id method params))
    (dumped : codec.dump (RcomClient.requestOf id method params) = .ok request) :
    (RemoteSite.serve codec service world (request, .kTextMessage)).2 =
      if method ≠ [] then world.after service [⟨.kTextMessage, id, method, params⟩] else world := by
  have verdict : judge codec request =
      if method ≠ [] then .called id method params .fresh else .rejected id .fresh := by
    rw [judge, restored request dumped]
    exact judgeRequest_requestOf
  by_cases named : method ≠ []
  · rw [if_pos named] at verdict ⊢
    obtain ⟨handling, left, executed⟩ :=
      onmessage_called (service.handler world.state) .kTextMessage verdict
    rw [RemoteSite.serve, (onmessage_straight request .kTextMessage).after left, executed]
  · -- The request is answered without a call.
    rw [if_neg named] at verdict ⊢
    obtain ⟨reply, -, answered⟩ :=
      onmessage_rejected_silently (service.handler world.state) .kTextMessage verdict
    rw [RemoteSite.serve, (onmessage_straight request .kTextMessage).after (.inl ⟨(), answered⟩),
      World.after_nil]

end Service

namespace RemoteSite

variable {ι σ : Type} [DecidableEq ι] {codec : Codec} {service : Service σ}

/-- One call is executed at most once, and is executed if it names a method and succeeds. -/
theorem call_executes (site : RemoteSite ι σ) (client : ι) (called : StubCall)
    (restored : codec.Restores called.request) :
    (call codec service client called).Achieves site
      (fun outcome site' =>
        called.method ≠ [] ∧ site'.world = site.world.after service [called.execution] ∨
        (called.method ≠ [] → outcome.1 = false) ∧ site'.world = site.world)
      fun _ _ => False := by
  have reached := execute_serves codec (serve codec service) called.sentId called.method
    called.sentParams (called.result.getD .null) (site.stub client)
  -- The call is one call of the client, whatever function of the stub it was.
  have performed : (called.perform codec (serve codec service)).Achieves (site.stub client)
      (fun outcome stub' =>
        Served (serve codec service) codec called.sentId called.method called.sentParams site.world
          stub'.link.server ∨ stub'.link.server = site.world ∧ outcome.1 = false)
      fun _ _ => False := by
    rw [StubCall.perform_eq]
    apply reached.bind
    intro outcome stub' served
    exact (Program.yields_pure _ _).achieves served
  refine (Program.Achieves.within (fun site : RemoteSite ι σ => site.stub client) _ performed).mono ?_ ?_
  · rintro outcome _ ⟨stub', ⟨request, dumped, served⟩ | ⟨kept, failed⟩, rfl⟩
    · -- The request was handled, which is a call if there is a method.
      rw [serve_request service site.world restored dumped] at served
      by_cases named : called.method ≠ []
      · rw [if_pos named] at served
        exact .inl ⟨named, served⟩
      · rw [if_neg named] at served
        exact .inr ⟨fun other => absurd other named, served⟩
    · exact .inr ⟨fun _ => failed, kept⟩
  · rintro _ _ ⟨_, none, -⟩
    exact none

/--
Over links that lose, delay or refuse anything, the objects execute each call of the stubs at most once.

The state of the application is what the executed calls make of it, in the order of the calls, and a call that names
a method succeeds only if it was executed.
-/
theorem session_executes_once (codec : Codec) (service : Service σ) (site : RemoteSite ι σ)
    (calls : List (ι × StubCall)) (restored : ∀ called ∈ calls, codec.Restores called.2.request) :
    ∃ outcomes site' executed, (session codec service calls).Yields site outcomes site' ∧
      ExecutedOnce (calls.map Prod.snd) outcomes executed ∧
      site'.world = site.world.after service executed := by
  -- The induction is on the calls, each of which leaves the world of the next one.
  induction calls generalizing site with
  | nil => exact ⟨[], site, [], Program.yields_pure [] site, .done, by simp⟩
  | cons head later ih =>
    obtain ⟨client, called⟩ := head
    have first : (call codec service client called).Achieves site _ _ :=
      call_executes site client called (restored _ List.mem_cons_self)
    obtain ⟨outcome, middle, returned⟩ := first.halts.cases.resolve_right fun ⟨_, _, threw⟩ =>
      first.throws threw
    obtain ⟨outcomes, site', executed, rest, once, world⟩ :=
      ih middle fun other among => restored other (List.mem_cons_of_mem _ among)
    have whole : (session codec service ((client, called) :: later)).Yields site (outcome :: outcomes)
        site' := returned.bind (rest.bind (Program.yields_pure _ _))
    -- The first call was executed, or it was lost or named no method.
    rcases first.yields returned with ⟨named, advanced⟩ | ⟨failed, kept⟩
    · refine ⟨outcome :: outcomes, site', called.execution :: executed, whole, .executed named once, ?_⟩
      rw [world, advanced, World.after_after, List.singleton_append]
    · exact ⟨outcome :: outcomes, site', executed, whole, .skipped failed once, by rw [world, kept]⟩

/-- A call that makes the monster jump, from a caller that expects no result. -/
def jumpCall : StubCall where
  id := some (ascii "elmo")
  method := ascii "jump-around"
  params := none
  result := none

/-- An object that counts its calls, and gives no result. -/
def jumper : RemoteObject Nat where
  executeJson _ _ _ _ error := ⟨.null, error, none⟩
  executeBinary _ _ _ _ error := ⟨[], error, none⟩
  next count _ := count + 1

/-- Two stubs, whose links meet the given arrivals. -/
def stage (arrivals : Bool → Stream' Arrival) : RemoteSite Bool Nat where
  world := { state := 0, executed := [] }
  stubs client := {
    link := {
      server := { state := 0, executed := [] }
      pending := []
      sends := Stream'.const (.ok true)
      arrivals := arrivals client
      recvStatus := .kRecvText
    }
    buffer := []
  }

/-- The request for a jump is read back from its text. -/
theorem restores_jump : jumpCodec.Restores jump :=
  Json.Codec.restores_printing _ [] [(Json.print (fun _ => []) jumped, jumped)] (by simp)

/-- The rule for two stubs that call in turn, one of which obtains no reply. -/
theorem session_executes_once_jump : ∃ outcomes site' executed,
    (session jumpCodec (RemoteObjectsAdaptor.withObjects [(ascii "elmo", jumper)]).service
      [(true, jumpCall), (false, jumpCall)]).Yields
      (stage fun client => Stream'.const (if client then .missed .timeOut [] else .arrived)) outcomes
      site' ∧
    ExecutedOnce [jumpCall, jumpCall] outcomes executed ∧
    site'.world = World.after (RemoteObjectsAdaptor.withObjects [(ascii "elmo", jumper)]).service
      ⟨0, []⟩ executed := by
  apply session_executes_once jumpCodec (RemoteObjectsAdaptor.withObjects [(ascii "elmo", jumper)]).service
    (stage fun client => Stream'.const (if client then .missed .timeOut [] else .arrived))
    [(true, jumpCall), (false, jumpCall)]
  intro called among
  have same : called.2 = jumpCall := by
    simp only [List.mem_cons, List.not_mem_nil, or_false] at among
    rcases among with rfl | rfl <;> rfl
  rw [same]
  exact restores_jump

end RemoteSite

end Rcom
