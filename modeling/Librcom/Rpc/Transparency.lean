import Librcom.Rpc.ClientLaws
import Librcom.Rpc.Monster
import Librcom.Rpc.ServerLaws

/-! A text call comes to what its handler makes of it. -/

namespace Rcom

open Effects
open Json (ascii Value Codec isUtf8)
open RcomClient

/-- The message handler as the server of a link, which notes how each message was handled. -/
def handled (codec : Codec) (handler : IRPCHandler) : Server (List Handling) :=
  fun history message =>
    let handling := (onmessage codec handler message.1 message.2).after 0 .fresh
    (handling.sent, history ++ [handling])

/-- How a message was handled is how the handler leaves it. -/
theorem handled_eq {codec : Codec} {handler : IRPCHandler} {message : Bytes} {type : MessageType}
    {handling : Handling} (history : List Handling)
    (left : (onmessage codec handler message type).Leaves .fresh handling) :
    handled codec handler history (message, type) = (handling.sent, history ++ [handling]) := by
  unfold handled
  rw [(onmessage_straight message type).after left]

section Requests

variable {codec : Codec} {id method : Bytes} {params : Value}

/-- What the message handler makes of a request, where the method has to be named. -/
theorem judgeRequest_requestOf : judgeRequest (requestOf id method params) =
    if method ≠ [] then .called id method params .fresh else .rejected id .fresh := by
  have method_other : kID ≠ kMethod := by decide
  have params_other : kID ≠ kParams := by decide
  have params_other' : kMethod ≠ kParams := by decide
  -- The request is written out, and each of its members is found behind the smaller keys.
  rw [requestOf_eq]
  simp [judgeRequest, Value.member?, Value.lookup, idOf, idError, method_other, params_other,
    params_other']

/-- A request can be serialised if its parts can. -/
theorem wellEncoded_requestOf (id_encoded : isUtf8 id = true) (method_encoded : isUtf8 method = true)
    (params_encoded : params.wellEncoded = true) :
    (requestOf id method params).wellEncoded = true := by
  have id_key : isUtf8 kID = true := Json.isUtf8_of_plain (by decide)
  have method_key : isUtf8 kMethod = true := Json.isUtf8_of_plain (by decide)
  have params_key : isUtf8 kParams = true := Json.isUtf8_of_plain (by decide)
  rw [requestOf_eq]
  simp [id_encoded, method_encoded, params_encoded, id_key, method_key, params_key]

end Requests

section Responses

variable {codec : Codec} {id method : Bytes} {error : RPCError} {result : Value}

/-- The members of a response with a result. -/
theorem constructResponseWithResult_eq (present : result ≠ .null) :
    ∃ members, constructResponse id method error = .object members ∧
      constructResponseWithResult id method error result =
        .object (Value.insert kResult result members) := by
  refine ⟨_, constructResponse_eq id method error, ?_⟩
  -- Only a result that is null is left out.
  cases result with
  | null => exact absurd rfl present
  | _ =>
    show (constructResponse id method error).set kResult _ = _
    rw [constructResponse_eq, Value.set_object]

/-- The result takes nothing from the error. -/
theorem member?_constructResponseWithResult :
    (constructResponseWithResult id method error result).member? kError =
      (constructResponse id method error).member? kError := by
  by_cases absent : result = .null
  · rw [absent, constructResponseWithResult]
  · have other : kResult ≠ kError := by decide
    obtain ⟨members, bare, extended⟩ := constructResponseWithResult_eq absent
    rw [bare, extended]
    exact Value.lookup_insert_other other result members

/-- A result that is not null is a member of the response. -/
theorem result_constructResponseWithResult (present : result ≠ .null) :
    (constructResponseWithResult id method error result).member? kResult = some result := by
  obtain ⟨members, -, extended⟩ := constructResponseWithResult_eq present
  rw [extended]
  exact Value.lookup_insert_self kResult result members

/-- A response without a result has no member for one. -/
theorem result_constructResponse : (constructResponse id method error).member? kResult = none := by
  have error_other : kError ≠ kResult := by decide
  have id_other : kID ≠ kResult := by decide
  have method_other : kMethod ≠ kResult := by decide
  rw [constructResponse_eq]
  split <;> simp [Value.member?, Value.lookup, error_other, id_other, method_other]

/-- An error is taken from its member as it was reported. -/
theorem errorOf_errorMember (error : RPCError) :
    errorOf codec (errorMember error) = some { code := error.code, message := reported error } := by
  have message_other : kErrorCode ≠ kErrorMessage := by decide
  -- The code and the message are found apart, since their keys differ.
  have code : errorCodeOf codec (errorMember error) = .ok error.code := by
    simp [errorCodeOf, errorMember, Value.index, Value.lookup, Value.asInt16, bind, Except.bind]
  have message : errorMessageOf (errorMember error) = .ok (reported error) := by
    simp [errorMessageOf, errorMember, Value.stringAt, Value.index, Value.lookup, Value.asString, bind,
      Except.bind, message_other]
  rw [errorOf, code, message]

/-- The error after a response of the server, for a caller whose error was fresh. -/
theorem errorAfter_constructResponseWithResult :
    errorAfter codec (constructResponseWithResult id method error result) .fresh =
      if error.code ≠ 0 then { code := error.code, message := reported error } else .fresh := by
  rw [errorAfter, member?_constructResponseWithResult, member?_constructResponse]
  -- Without an error there is no member for it, and the error of the caller stays.
  by_cases failed : error.code ≠ 0
  · simp [failed, errorOf_errorMember]
  · simp [failed]

end Responses

/--
A text call executes the handler once, and ends with its result and its error.

The link is idle and delivers, and the library reads back what it wrote.
-/
theorem executeJson_transparent (codec : Codec) (handler : IRPCHandler)
    (call : Calling (List Handling) Value) {id method : Bytes} {params result : Value}
    {error : RPCError} (named : method ≠ []) (id_encoded : isUtf8 id = true)
    (method_encoded : isUtf8 method = true) (params_encoded : params.wellEncoded = true)
    (result_encoded : result.wellEncoded = true) (message_encoded : isUtf8 error.message = true)
    (no_null : 0 ∉ error.message)
    (returned : handler.executeJson id method params .fresh = .ok (result, error))
    (request_restored : codec.Restores (requestOf id method params))
    (response_restored : codec.Restores (constructResponseWithResult id method error result))
    (fresh : call.error = .fresh) (idle : call.link.pending = [])
    (sent : call.link.sends.head = .ok true) (arrives : call.link.arrivals.head = .arrived) :
    ∃ call' handling, (executeJson codec (handled codec handler) id method params).Yields call ()
        call' ∧
      call'.link.server = call.link.server ++ [handling] ∧
      handling.executed = [⟨.kTextMessage, id, method, params⟩] ∧
      call'.error.code = error.code ∧
      (error.code ≠ 0 → call'.error.message =
        if error.message = [] then ascii "No message was given" else error.message) ∧
      call'.result = match result with
        | .null => call.result
        | result => result := by
  -- The request is serialised, as its parts are well encoded.
  obtain ⟨serialised, request_dumped⟩ := (codec.dump_ok _).mpr
    (wellEncoded_requestOf id_encoded method_encoded params_encoded)
  -- The message survives the C string of the reply, having no null character.
  have same : cString error.message = error.message := cString_eq no_null
  obtain ⟨reply, response_dumped⟩ := (codec.dump_ok _).mpr
    ((wellEncoded_constructResponseWithResult id_encoded method_encoded).mpr
      ⟨result_encoded, fun _ => same ▸ message_encoded⟩)
  -- The server reads the request that the client wrote, and the handler is called.
  have verdict : judge codec serialised = .called id method params .fresh := by
    rw [judge, request_restored serialised request_dumped]
    simp only
    rw [judgeRequest_requestOf, if_pos named]
  -- The handler answers with a reply, and it is the only one on its way.
  have answered : (onmessage codec handler serialised .kTextMessage).Leaves .fresh
      { executed := [⟨.kTextMessage, id, method, params⟩], sent := [(reply, .kTextMessage)] } := by
    rw [onmessage_eq, verdict]
    exact .inl ⟨(), answerJson_response .fresh returned response_dumped⟩
  have handling := handled_eq call.link.server answered
  have waiting := delivered_pending (handled codec handler) idle (congrArg Prod.fst handling)
  have executed := executeJson_yields (handled codec handler) request_dumped sent arrives waiting
    (response_restored reply response_dumped)
  -- The call ends with what it parsed from the reply; what is left is its error and its result.
  refine ⟨_, _, executed, congrArg Prod.snd handling, rfl, ?_, ?_, ?_⟩
  · show (errorAfter codec _ call.error).code = error.code
    rw [fresh, errorAfter_constructResponseWithResult]
    by_cases failed : error.code ≠ 0
    · rw [if_pos failed]
    · rw [if_neg failed, not_not.mp failed]
      rfl
  · intro failed
    show (errorAfter codec _ call.error).message = _
    rw [fresh, errorAfter_constructResponseWithResult, if_pos failed]
    simp only [reported, same, ne_eq, ite_not]
  · -- A result that is null was never sent, and the result of the caller stays.
    by_cases absent : result = .null
    · simp only [absent, constructResponseWithResult, result_constructResponse, Option.getD_none]
    · simp only [result_constructResponseWithResult absent, Option.getD_some]

section Jump

/-- A call that makes the monster jump, its response, and a library that reads both. -/
def jump : Value := requestOf (ascii "elmo") (ascii "jump-around") .null
def jumped : Value :=
  constructResponseWithResult (ascii "elmo") (ascii "jump-around") .fresh .null
def jumpCodec : Codec :=
  .printing (fun _ => [])
    [(Json.print (fun _ => []) jump, jump), (Json.print (fun _ => []) jumped, jumped)]

/-- A client whose link is idle and delivers. -/
def ready : Calling (List Handling) Value where
  link := {
    server := []
    pending := []
    sends := Stream'.const (.ok true)
    arrivals := Stream'.const .arrived
    recvStatus := .kRecvText
  }
  buffer := []
  result := .null
  error := .fresh

/-- The rule for the call that makes the monster of the tutorial jump. -/
theorem executeJson_transparent_jump : ∃ call' handling,
    (executeJson jumpCodec (handled jumpCodec (monsterAdaptor 7)) (ascii "elmo")
      (ascii "jump-around") .null).Yields ready () call' ∧
    call'.link.server = [handling] ∧
    handling.executed = [⟨.kTextMessage, ascii "elmo", ascii "jump-around", .null⟩] ∧
    call'.error.code = 0 ∧ call'.result = .null := by
  have id_encoded : isUtf8 (ascii "elmo") = true := Json.isUtf8_of_plain (by decide)
  have method_encoded : isUtf8 (ascii "jump-around") = true := Json.isUtf8_of_plain (by decide)
  have different : Json.print (fun _ => []) jump ≠ Json.print (fun _ => []) jumped := by decide
  have request_restored : jumpCodec.Restores jump :=
    Codec.restores_printing _ [] [(Json.print (fun _ => []) jumped, jumped)] (by simp)
  have response_restored : jumpCodec.Restores jumped :=
    Codec.restores_printing _ [(Json.print (fun _ => []) jump, jump)] [] (by simpa using different)
  have returned : (monsterAdaptor 7).executeJson (ascii "elmo") (ascii "jump-around") .null .fresh =
      .ok (.null, .fresh) := by
    simp [monsterAdaptor, RPCError.fresh, pure, Except.pure]
  obtain ⟨call', handling, executed, noted, once, code, -, result⟩ :=
    executeJson_transparent jumpCodec (monsterAdaptor 7) ready (by decide) id_encoded method_encoded
      rfl rfl rfl (by decide) returned request_restored response_restored rfl rfl rfl rfl
  exact ⟨call', handling, executed, noted, once, code, result⟩

end Jump

end Rcom
