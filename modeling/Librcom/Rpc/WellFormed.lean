import Librcom.Rpc.Monster
import Librcom.Rpc.ServerLaws

/-! Which messages are executed, and how the others are answered. -/

namespace Rcom

open Effects
open Json (ascii Value Codec)

/-- The call that a well-formed message asks for. -/
def wellFormed (codec : Codec) (message : Bytes) (type : MessageType) : Option Execution :=
  match codec.parse message with
  | .error _ => none
  | .ok request =>
    let params := (request.member? kParams).getD .null
    match request.member? kMethod, request.member? kID with
    | some (.string method), none =>
      if method = [] then none else some ⟨type, [], method, params⟩
    | some (.string method), some (.string id) =>
      if method = [] then none else some ⟨type, id, method, params⟩
    | _, _ => none

/-- A response with an error whose code is not zero. -/
def IsErrorResponse (response : Value) : Prop :=
  ∃ error code, response.member? kError = some error ∧
    error.member? kErrorCode = some (.integer code) ∧ code ≠ 0

/--
A well-formed message is executed once, and any other is answered with an error response.

The handler may throw, and then the state is the one the exception leaves.
-/
def Obeys (codec : Codec) (handler : IRPCHandler) (message : Bytes) (type : MessageType) : Prop :=
  match wellFormed codec message type with
  | some execution =>
    ∃ handling, (onmessage codec handler message type).Leaves .fresh handling ∧
      handling.executed = [execution]
  | none =>
    ∃ handling reply response, (onmessage codec handler message type).Yields .fresh () handling ∧
      handling.executed = [] ∧ handling.sent = [(reply, .kTextMessage)] ∧
      codec.parse reply = .ok response ∧ IsErrorResponse response

/-- The id of a request is absent or a string. -/
def hasValidId (request : Value) : Bool :=
  match request.member? kID with
  | none => true
  | some (.string _) => true
  | some _ => false

/-- A method comes with an id that is no string, or an empty method with an id that is none. -/
def Misjudged (codec : Codec) (message : Bytes) : Prop :=
  ∃ request method, codec.parse message = .ok request ∧
    request.member? kMethod = some (.string method) ∧ (method = [] ↔ hasValidId request = true)

section Verdicts

variable {codec : Codec} (handler : IRPCHandler) {message : Bytes} (type : MessageType)

/-- A text call is executed once, whatever comes of it. -/
theorem answerJson_called (id method : Bytes) (params : Value) (error : RPCError) :
    ∃ handling, (answerJson codec handler (.called id method params error)).Leaves .fresh handling ∧
      handling.executed = [⟨.kTextMessage, id, method, params⟩] := by
  -- The call is noted before the handler can throw, and what follows it only sends.
  cases executed : handler.executeJson id method params error with
  | error what =>
    have threw := handlerExecute_throws .fresh ⟨.kTextMessage, id, method, params⟩ executed
    exact ⟨_, .inr ⟨what, threw.bind _⟩, rfl⟩
  | ok outcome =>
    obtain ⟨result, error'⟩ := outcome
    have called := handlerExecute_yields .fresh ⟨.kTextMessage, id, method, params⟩ executed
    by_cases encoded : (constructResponseWithResult id method error' result).wellEncoded = true
    · obtain ⟨serialised, dumped⟩ := (codec.dump_ok _).mpr encoded
      exact ⟨_, .inl ⟨(), answerJson_response .fresh executed dumped⟩, rfl⟩
    · -- The response cannot be serialised, and this happens after the call.
      obtain ⟨what, threw⟩ := sendResponse_throws _ encoded
      exact ⟨_, .inr ⟨what, called.bind_throws threw⟩, rfl⟩

/-- So is a binary call. -/
theorem answerBinary_called (id method : Bytes) (params : Value) (error : RPCError) :
    ∃ handling,
      (answerBinary codec handler (.called id method params error)).Leaves .fresh handling ∧
      handling.executed = [⟨.kBinaryMessage, id, method, params⟩] := by
  cases executed : handler.executeBinary id method params error with
  | error what =>
    have threw := handlerExecute_throws .fresh ⟨.kBinaryMessage, id, method, params⟩ executed
    exact ⟨_, .inr ⟨what, threw.bind _⟩, rfl⟩
  | ok outcome =>
    obtain ⟨result, error'⟩ := outcome
    by_cases success : error'.code = 0
    · exact ⟨_, .inl ⟨(), answerBinary_result .fresh executed success⟩, rfl⟩
    · -- An error is answered without the result, and such a response is always serialised.
      obtain ⟨serialised, dumped⟩ := (codec.dump_ok .null).mpr rfl
      exact ⟨_, .inl ⟨(), answerBinary_failure .fresh executed success dumped⟩, rfl⟩

/-- A message that asks for a call is executed once, whatever its type. -/
theorem onmessage_called {id method : Bytes} {params : Value} {error : RPCError}
    (verdict : judge codec message = .called id method params error) :
    ∃ handling, (onmessage codec handler message type).Leaves .fresh handling ∧
      handling.executed = [⟨type, id, method, params⟩] := by
  rw [onmessage_eq, verdict]
  cases type with
  | kTextMessage => exact answerJson_called handler id method params error
  | kBinaryMessage => exact answerBinary_called handler id method params error

/-- A rejection with an error is answered with it. -/
theorem onmessage_rejected {id : Bytes} {error : RPCError}
    (verdict : judge codec message = .rejected id error) (failed : error.code ≠ 0) :
    ∃ reply, codec.dump (constructResponse id kUnknownMethod error) = .ok reply ∧
      (onmessage codec handler message type).Yields .fresh ()
        { executed := [], sent := [(reply, .kTextMessage)] } := by
  obtain ⟨reply, dumped⟩ := dump_rejected verdict
  refine ⟨reply, dumped, ?_⟩
  rw [onmessage_eq, verdict]
  cases type with
  | kTextMessage => exact sendResponse_yields _ dumped
  -- With an error code the answer is the text, also to a binary request.
  | kBinaryMessage =>
    simp only [answerBinary, failed, if_false]
    exact sendResponse_yields _ dumped

/-- A rejection without an error is answered without one. -/
theorem onmessage_rejected_silently {id : Bytes}
    (verdict : judge codec message = .rejected id .fresh) :
    ∃ reply, codec.dump (constructResponse id kUnknownMethod .fresh) = .ok reply ∧
      (onmessage codec handler message type).Yields .fresh ()
        { executed := [],
          sent := [match type with
            | .kTextMessage => (reply, .kTextMessage)
            | .kBinaryMessage => ([], .kBinaryMessage)] } := by
  obtain ⟨reply, dumped⟩ := dump_rejected verdict
  refine ⟨reply, dumped, ?_⟩
  rw [onmessage_eq, verdict]
  cases type with
  | kTextMessage => exact sendResponse_yields _ dumped
  -- Without an error code a binary request is answered with no bytes.
  | kBinaryMessage => exact websocketSend_yields [] .kBinaryMessage .fresh

end Verdicts

section Obedience

variable {codec : Codec} (handler : IRPCHandler) {message : Bytes} {type : MessageType}

/-- The error member of an error response is found, and its code is the one of the error. -/
theorem isErrorResponse_constructResponse {id method : Bytes} {error : RPCError} :
    IsErrorResponse (constructResponse id method error) ↔ error.code ≠ 0 := by
  unfold IsErrorResponse
  rw [member?_constructResponse]
  by_cases failed : error.code ≠ 0
  · -- A code is zero if and only if the integer it is sent as is.
    have code : error.code.toInt ≠ 0 := fun zero => failed (Int16.toInt_inj.mp zero)
    rw [if_pos failed]
    refine ⟨fun _ => failed, fun _ => ⟨_, _, rfl, ?_, code⟩⟩
    simp [errorMember, Value.member?, Value.lookup]
  · simp [failed]

/-- A message that asks for no call and is rejected with an error is answered as it should be. -/
theorem obeys_rejected {id : Bytes} {error : RPCError}
    (nothing : wellFormed codec message type = none)
    (verdict : judge codec message = .rejected id error) (failed : error.code ≠ 0)
    (restored : codec.Restores (constructResponse id kUnknownMethod error)) :
    Obeys codec handler message type := by
  obtain ⟨reply, dumped, answered⟩ := onmessage_rejected handler type verdict failed
  rw [Obeys, nothing]
  exact ⟨_, reply, _, answered, rfl, rfl, restored reply dumped,
    isErrorResponse_constructResponse.mpr failed⟩

/-- A message that asks for no call must not be executed. -/
theorem not_obeys_called {id method : Bytes} {params : Value} {error : RPCError}
    (nothing : wellFormed codec message type = none)
    (verdict : judge codec message = .called id method params error) :
    ¬ Obeys codec handler message type := by
  rw [Obeys, nothing]
  rintro ⟨handling, reply, response, returned, idle, -⟩
  obtain ⟨handling', left, executed⟩ := onmessage_called handler type verdict
  -- The message was executed, which the specification forbids.
  obtain rfl := left.unique (.inl ⟨(), returned⟩)
  simp [idle] at executed

/-- A message that asks for no call must not be answered without an error. -/
theorem not_obeys_silent {id : Bytes} (nothing : wellFormed codec message type = none)
    (verdict : judge codec message = .rejected id .fresh)
    (restored : codec.Restores (constructResponse id kUnknownMethod .fresh)) :
    ¬ Obeys codec handler message type := by
  rw [Obeys, nothing]
  rintro ⟨handling, reply, response, returned, -, sent, parsed, mistaken⟩
  obtain ⟨reply', dumped, answered⟩ := onmessage_rejected_silently handler type verdict
  obtain ⟨-, rfl⟩ := returned.unique answered
  cases type with
  -- An empty binary message was sent, which is no response.
  | kBinaryMessage => simp at sent
  | kTextMessage =>
    simp only [List.cons.injEq, Prod.mk.injEq, and_true] at sent
    -- The reply is read back as it was written, and it has no error.
    rw [← sent, restored reply' dumped, Except.ok.injEq] at parsed
    rw [← parsed] at mistaken
    exact isErrorResponse_constructResponse.mp mistaken rfl

end Obedience

section Requests

variable {codec : Codec} {message : Bytes} {request : Value} (type : MessageType)

/-- A message that parses is judged by its value. -/
theorem judge_of_parse (parsed : codec.parse message = .ok request) :
    judge codec message = judgeRequest request := by
  rw [judge, parsed]

/-- Taking an id leaves an error if and only if the id is not valid. -/
theorem idError_eq (request : Value) :
    idError request = if hasValidId request then .fresh else invalidId := by
  unfold idError hasValidId
  cases request.member? kID with
  | none => rfl
  | some id => cases id <;> rfl

/-- A request with a method is well formed if the method is not empty and the id is valid. -/
theorem wellFormed_method {method : Bytes} (parsed : codec.parse message = .ok request)
    (found : request.member? kMethod = some (.string method)) :
    wellFormed codec message type =
      if method ≠ [] ∧ hasValidId request then
        some ⟨type, idOf request, method, (request.member? kParams).getD .null⟩
      else none := by
  unfold wellFormed hasValidId idOf
  rw [parsed]
  simp only [found]
  cases request.member? kID with
  -- The id may be missing, of some type, and the method may be empty.
  | none => by_cases empty : method = [] <;> simp [empty]
  | some id => cases id <;> by_cases empty : method = [] <;> simp [empty]

/-- A request without a method is not well formed, and it is rejected for that. -/
theorem judge_no_method (parsed : codec.parse message = .ok request)
    (missing : ∀ method, request.member? kMethod ≠ some (.string method)) :
    wellFormed codec message type = none ∧
      judge codec message = .rejected (idOf request) missingMethod := by
  rw [judge_of_parse parsed]
  unfold wellFormed judgeRequest
  rw [parsed]
  -- A method that is missing or no string rejects the request on both sides.
  cases found : request.member? kMethod with
  | none => simp [found]
  | some member =>
    cases member with
    | string method => exact absurd found (missing method)
    | _ => simp [found]

end Requests

/--
The server obeys if and only if it does not misjudge the message.

A rejected message is answered with one response, which has to be read back from its text.
-/
theorem onmessage_obeys_iff (codec : Codec) (handler : IRPCHandler) (message : Bytes)
    (type : MessageType)
    (restores : ∀ id error, judge codec message = .rejected id error →
      codec.Restores (constructResponse id kUnknownMethod error)) :
    Obeys codec handler message type ↔ ¬ Misjudged codec message := by
  cases parsed : codec.parse message with
  | error what =>
    have verdict : judge codec message = .rejected kNoID notParsed := by rw [judge, parsed]
    have nothing : wellFormed codec message type = none := by rw [wellFormed, parsed]
    have obeys := obeys_rejected handler nothing verdict (by decide)
      (restores _ _ verdict)
    simp [obeys, Misjudged, parsed]
  | ok request =>
    -- Without a method, both the specification and the server reject the message.
    by_cases missing : ∀ method, request.member? kMethod ≠ some (.string method)
    · obtain ⟨nothing, verdict⟩ := judge_no_method type parsed missing
      have obeys := obeys_rejected handler nothing verdict (by decide)
        (restores _ _ verdict)
      simp [obeys, Misjudged, parsed, missing]
    · push Not at missing
      obtain ⟨method, found⟩ := missing
      -- Either both are amiss or neither is, and the server misjudges the other two cases.
      have misjudged : Misjudged codec message ↔ (method = [] ↔ hasValidId request = true) := by
        simp [Misjudged, parsed, found]
      have wanted := wellFormed_method type parsed found
      have verdict := judge_of_parse parsed
      simp only [judgeRequest, found, idError_eq] at verdict
      rw [misjudged]
      by_cases empty : method = []
      · simp only [empty, ne_eq, not_true_eq_false, false_and, if_false] at wanted verdict
        by_cases valid : hasValidId request = true
        · rw [if_pos valid] at verdict
          have disobeys := not_obeys_silent handler wanted verdict
            (restores _ _ verdict)
          simp [disobeys, empty, valid]
        · rw [if_neg valid] at verdict
          have obeys := obeys_rejected handler wanted verdict (by decide)
            (restores _ _ verdict)
          simp [obeys, empty, valid]
      · by_cases valid : hasValidId request = true
        · simp only [ne_eq, empty, not_false_eq_true, valid, and_self, if_true] at wanted verdict
          have obeys : Obeys codec handler message type := by
            rw [Obeys, wanted]
            exact onmessage_called handler type verdict
          simp [obeys, empty, valid]
        · simp only [ne_eq, empty, not_false_eq_true, valid, if_true] at wanted verdict
          have disobeys := not_obeys_called handler wanted verdict
          simp [disobeys, empty, valid]

/-- A call with a number where the id has to be a string, its text, and a library that reads it. -/
def numbered : Value := .object [(kID, .integer 7), (kMethod, .string (ascii "m"))]
def numberedText : Bytes := ascii "\x7b\"id\":7,\"method\":\"m\"\x7d"
def numberedCodec : Codec := .printing (fun _ => []) [(numberedText, numbered)]

/-- The library reads the call with a number for an id. -/
theorem parse_numbered : numberedCodec.parse numberedText = .ok numbered := by
  apply Codec.parse_printing _ [] [] (by simp)
  simp [numbered, Json.isUtf8_of_plain (by decide : Json.isPlain kID = true),
    Json.isUtf8_of_plain (by decide : Json.isPlain kMethod = true),
    Json.isUtf8_of_plain (by decide : Json.isPlain (ascii "m") = true)]

/-- That call is executed, although its id is not valid. -/
theorem judge_numbered :
    judge numberedCodec numberedText = .called [] (ascii "m") .null invalidId := by
  have method_other : kID ≠ kMethod := by decide
  have params_other : kMethod ≠ kParams := by decide
  have params_other' : kID ≠ kParams := by decide
  have named : ascii "m" ≠ [] := by decide
  rw [judge_of_parse parse_numbered]
  simp [judgeRequest, numbered, Value.member?, Value.lookup, idOf, idError, method_other,
    params_other, params_other', named]

/-- A call whose id is a number is executed. -/
theorem numbered_executed :
    ¬ Obeys numberedCodec (monsterAdaptor 7) numberedText .kTextMessage := by
  apply not_obeys_called (monsterAdaptor 7) _ judge_numbered
  have method_other : kID ≠ kMethod := by decide
  simp [wellFormed, parse_numbered, numbered, Value.member?, Value.lookup, method_other]

/-- The response to a message that does not parse, and a library that reads it. -/
def rejection : Value := constructResponse kNoID kUnknownMethod notParsed
def rejectionCodec : Codec := .printing (fun _ => []) [(Json.print (fun _ => []) rejection, rejection)]

/-- A message without content does not parse. -/
theorem parse_empty :
    rejectionCodec.parse [] = .error (ascii "syntax error while parsing value") := by
  have unlike : Json.print (fun _ => []) rejection ≠ [] := by
    rw [rejection, constructResponse_eq]
    apply Json.print_object_ne_nil
  simp [rejectionCodec, Codec.printing, unlike]

/-- A message without content is rejected for that. -/
theorem judge_empty : judge rejectionCodec [] = .rejected kNoID notParsed := by
  rw [judge, parse_empty]

/-- A call with a method and nothing else, its text, and a library that reads it. -/
def plainCall : Value := .object [(kMethod, .string (ascii "m"))]
def plainText : Bytes := ascii "\x7b\"method\":\"m\"\x7d"
def plainCodec : Codec := .printing (fun _ => []) [(plainText, plainCall)]

/-- The library reads the plain call. -/
theorem parse_plain : plainCodec.parse plainText = .ok plainCall := by
  apply Codec.parse_printing _ [] [] (by simp)
  simp [plainCall, Json.isUtf8_of_plain (by decide : Json.isPlain kMethod = true),
    Json.isUtf8_of_plain (by decide : Json.isPlain (ascii "m") = true)]

/-- The plain call has a method. -/
theorem method_plain : plainCall.member? kMethod = some (.string (ascii "m")) := by
  simp [plainCall, Value.member?, Value.lookup]

/-- The plain call is executed without an error. -/
theorem judge_plain :
    judge plainCodec plainText = .called [] (ascii "m") .null .fresh := by
  have id_other : kMethod ≠ kID := by decide
  have params_other : kMethod ≠ kParams := by decide
  have named : ascii "m" ≠ [] := by decide
  rw [judge_of_parse parse_plain]
  simp [judgeRequest, plainCall, Value.member?, Value.lookup, idOf, idError, id_other, params_other,
    named]

/--
The rule at a message without content, which is answered with the error it should be, and at a call.

The call is executed once, with an empty id and null for the parameters that it leaves out.
-/
theorem onmessage_obeys_iff_empty :
    Obeys rejectionCodec (monsterAdaptor 7) [] .kBinaryMessage ∧
      Obeys plainCodec (monsterAdaptor 7) plainText .kTextMessage ∧
      wellFormed plainCodec plainText .kTextMessage =
        some ⟨.kTextMessage, [], ascii "m", .null⟩ := by
  have restored : rejectionCodec.Restores rejection := Codec.restores_printing _ [] [] (by simp)
  have id_other : kMethod ≠ kID := by decide
  have params_other : kMethod ≠ kParams := by decide
  have named : ascii "m" ≠ [] := by decide
  -- The call is not rejected, so that no response has to be read back.
  have unrejected : ∀ id error, judge plainCodec plainText = .rejected id error →
      plainCodec.Restores (constructResponse id kUnknownMethod error) := by
    intro id error verdict
    rw [judge_plain] at verdict
    cases verdict
  have judged : ¬ Misjudged plainCodec plainText := by
    rintro ⟨request, method, parsed, found, misjudged⟩
    rw [parse_plain, Except.ok.injEq] at parsed
    rw [← parsed, method_plain, Option.some.injEq, Value.string.injEq] at found
    rw [← parsed, ← found] at misjudged
    have valid : hasValidId plainCall = true := by
      simp [hasValidId, plainCall, Value.member?, Value.lookup, id_other]
    exact named (misjudged.mpr valid)
  have obeys := onmessage_obeys_iff plainCodec (monsterAdaptor 7) plainText .kTextMessage unrejected
  refine ⟨?_, ?_, ?_⟩
  · apply (onmessage_obeys_iff rejectionCodec (monsterAdaptor 7) [] .kBinaryMessage ?_).mpr
    · rintro ⟨request, method, parsed, -⟩
      rw [parse_empty] at parsed
      cases parsed
    · intro id error verdict
      rw [judge_empty, Verdict.rejected.injEq] at verdict
      rw [← verdict.1, ← verdict.2]
      exact restored
  · rw [obeys]
    exact judged
  · rw [wellFormed, parse_plain]
    simp [plainCall, Value.member?, Value.lookup, id_other, params_other, named]

end Rcom
