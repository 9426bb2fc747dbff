import Librcom.Rpc.Server

/-! What the message handler makes of a message, and how it answers. -/

namespace Rcom

open Effects
open Json (ascii Value Codec isUtf8)

/-- What is made of a message: a call to execute, or a rejection. -/
inductive Verdict where
  | rejected (id : Bytes) (error : RPCError)
  | called (id method : Bytes) (params : Value) (error : RPCError)

/-- The error of a request whose id is no string. -/
def invalidId : RPCError := { code := RPCError.kInvalidRequest, message := ascii "Invalid ID" }

/-- The error of a request without a method. -/
def missingMethod : RPCError :=
  { code := RPCError.kInvalidRequest, message := ascii "Missing method" }

/-- The error of a message that does not parse. -/
def notParsed : RPCError :=
  { code := RPCError.kParseError, message := ascii "Failed to parse the request" }

/-- The id that is taken from a request. -/
def idOf (request : Value) : Bytes :=
  match request.member? kID with
  | some (.string id) => id
  | _ => []

/-- The error that taking the id from a request leaves. -/
def idError (request : Value) : RPCError :=
  match request.member? kID with
  | none => .fresh
  | some (.string _) => .fresh
  | some _ => invalidId

/-- What is made of a request. -/
def judgeRequest (request : Value) : Verdict :=
  match request.member? kMethod with
  | some (.string method) =>
    if method ≠ [] then
      .called (idOf request) method ((request.member? kParams).getD .null) (idError request)
    else .rejected (idOf request) (idError request)
  | _ => .rejected (idOf request) missingMethod

/-- What is made of a message. -/
def judge (codec : Codec) (message : Bytes) : Verdict :=
  match codec.parse message with
  | .ok request => judgeRequest request
  | .error _ => .rejected kNoID notParsed

section Extraction

variable (request : Value) (error : RPCError)

/-- The id and its error are those of the request. -/
theorem getId_eq : getId request .fresh = (idOf request, idError request) := by
  unfold getId Value.contains idOf idError
  cases found : request.member? kID with
  | none => rfl
  | some member =>
    simp only [Option.isSome_some, if_true, Value.stringAt, Value.index_of_member found]
    cases member <;> rfl

/-- The method is the string it should be, and otherwise it counts as missing. -/
theorem getMethod_eq : getMethod request error =
    match request.member? kMethod with
    | some (.string method) => (method, error)
    | _ => ([], missingMethod) := by
  unfold getMethod
  cases request with
  | object members =>
    simp only [Value.stringAt, Value.index, Value.member?]
    -- A member that is absent, or is no string, is an exception that the source catches.
    cases Value.lookup kMethod members with
    | none => rfl
    | some member => cases member <;> rfl
  | _ => rfl

/-- A value is copied where the stack has room for it. -/
theorem copy_eq {stack : Stack} {value : Value} (room : stack.copies value = true) :
    stack.copy value = pure value := by
  rw [Stack.copy, if_pos room]

/-- There is always room for null. -/
theorem copy_null (stack : Stack) : stack.copy .null = pure .null :=
  copy_eq (stack.flat .null (by simp)).1

/-- The parameters are copied, or null where there are none. -/
theorem getParams_eq (stack : Stack) :
    getParams stack request = stack.copy ((request.member? kParams).getD .null) := by
  unfold getParams Value.contains
  cases found : request.member? kParams with
  -- Without parameters nothing is copied, as if there were a null to copy.
  | none => exact (copy_null stack).symm
  | some member =>
    simp only [Option.isSome_some, if_true, Value.index_of_member found]
    rfl

end Extraction

section Answers

variable (stack : Stack) (codec : Codec) (handler : IRPCHandler)

/-- How a text message is answered. -/
def answerJsonOn : Verdict → HandlerM Unit
  | .rejected id error => sendResponseOn stack codec (constructResponse id kUnknownMethod error)
  | .called id method params error => do
    let params ← stack.copy params
    let (result, error) ← handlerExecute handler.executeJson
      { type := .kTextMessage, id := id, method := method, params := params } error
    let result ← stack.copy result
    sendResponseOn stack codec (constructResponseWithResult id method error result)

/-- How a binary message is answered. -/
def answerBinaryOn : Verdict → HandlerM Unit
  | .rejected id error =>
    if error.code = 0 then websocketSend [] .kBinaryMessage
    else sendResponseOn stack codec (constructResponse id kUnknownMethod error)
  | .called id method params error => do
    let params ← stack.copy params
    let (result, error) ← handlerExecute handler.executeBinary
      { type := .kBinaryMessage, id := id, method := method, params := params } error
    if error.code = 0 then websocketSend result .kBinaryMessage else sendResponseOn stack codec .null

/-- Serialise a response and pass it on, where there is room for every value. -/
def sendResponse (response : Value) : HandlerM Unit := do
  let serialised ← Program.ofExcept (codec.dump response)
  websocketSend serialised .kTextMessage

/-- How a text message is answered, where there is room for every value. -/
def answerJson : Verdict → HandlerM Unit
  | .rejected id error => sendResponse codec (constructResponse id kUnknownMethod error)
  | .called id method params error => do
    let (result, error) ← handlerExecute handler.executeJson
      { type := .kTextMessage, id := id, method := method, params := params } error
    sendResponse codec (constructResponseWithResult id method error result)

/-- How a binary message is answered, where there is room for every value. -/
def answerBinary : Verdict → HandlerM Unit
  | .rejected id error =>
    if error.code = 0 then websocketSend [] .kBinaryMessage
    else sendResponse codec (constructResponse id kUnknownMethod error)
  | .called id method params error => do
    let (result, error) ← handlerExecute handler.executeBinary
      { type := .kBinaryMessage, id := id, method := method, params := params } error
    if error.code = 0 then websocketSend result .kBinaryMessage else sendResponse codec .null

/-- Both kinds of message are taken apart in the same way, whatever is then done with the parts. -/
theorem parts_eq {β : Type} (rejected : Bytes → RPCError → HandlerM β)
    (called : Bytes → Bytes → Value → RPCError → HandlerM β) (message : Bytes) :
    (let (request, error) := parseRequest codec message
      if error.code = 0 then
        let (id, error) := getId request error
        let (method, error) := getMethod request error
        if method ≠ [] then do
          let params ← getParams stack request
          called id method params error
        else rejected id error
      else rejected kNoID error) =
      match judge codec message with
      | .rejected id error => rejected id error
      | .called id method params error =>
        stack.copy params >>= fun params => called id method params error := by
  unfold parseRequest judge
  cases codec.parse message with
  -- A message that does not parse has neither an id nor a method.
  | error what => rfl
  | ok request =>
    have fresh : RPCError.fresh.code = 0 := rfl
    simp only [fresh, if_true, getId_eq, getMethod_eq, getParams_eq, judgeRequest]
    cases found : request.member? kMethod with
    | none => rfl
    | some member =>
      cases member with
      | string method =>
        -- An empty method counts as missing, with the error that the id has left.
        by_cases empty : method = []
        · simp [empty]
        · simp [empty]
      | _ => rfl

/-- A text message is judged and then answered. -/
theorem handleJsonRequest_eq (message : Bytes) :
    handleJsonRequest stack codec handler message =
      answerJsonOn stack codec handler (judge codec message) := by
  have parts := parts_eq stack codec
    (fun id error => return constructResponse id kUnknownMethod error)
    (fun id method params error => do
      let (result, error) ← handlerExecute handler.executeJson
        { type := .kTextMessage, id := id, method := method, params := params } error
      let result ← stack.copy result
      return constructResponseWithResult id method error result) message
  -- Whatever was made of the message, one response is sent.
  refine (congrArg (· >>= fun response => sendResponseOn stack codec response) parts).trans ?_
  cases judge codec message with
  | rejected id error => rfl
  | called id method params error => simp [answerJsonOn]

/-- A binary message is judged and then answered. -/
theorem handleBinaryRequest_eq (message : Bytes) :
    handleBinaryRequest stack codec handler message =
      answerBinaryOn stack codec handler (judge codec message) := by
  have parts := parts_eq stack codec
    (fun id error => return (([] : Bytes), constructResponse id kUnknownMethod error, error))
    (fun id method params error => do
      let (result, error) ← handlerExecute handler.executeBinary
        { type := .kBinaryMessage, id := id, method := method, params := params } error
      return (result, .null, error)) message
  -- The error decides whether the result is sent or the response.
  refine (congrArg (· >>= fun answer =>
    if answer.2.2.code = 0 then websocketSend answer.1 .kBinaryMessage
    else sendResponseOn stack codec answer.2.1) parts).trans ?_
  cases judge codec message with
  | rejected id error => rfl
  | called id method params error => simp [answerBinaryOn]

/-- A message is judged, and then answered as its type says. -/
theorem onmessageOn_eq (message : Bytes) (type : MessageType) :
    onmessageOn stack codec handler message type =
      match type with
      | .kTextMessage => answerJsonOn stack codec handler (judge codec message)
      | .kBinaryMessage => answerBinaryOn stack codec handler (judge codec message) := by
  cases type with
  | kTextMessage => exact handleJsonRequest_eq stack codec handler message
  | kBinaryMessage => exact handleBinaryRequest_eq stack codec handler message

/-- Where there is room for every value, the answer does without the stack. -/
theorem answerJsonOn_deep (verdict : Verdict) :
    answerJsonOn .deep codec handler verdict = answerJson codec handler verdict := by
  cases verdict with
  | rejected id error => rfl
  | called id method params error => rfl

/-- On a deep stack the parameters can always be copied. -/
theorem answerBinaryOn_deep (verdict : Verdict) :
    answerBinaryOn .deep codec handler verdict = answerBinary codec handler verdict := by
  cases verdict with
  | rejected id error => rfl
  | called id method params error => rfl

/-- On a deep stack a message is answered as if nothing were copied. -/
theorem onmessage_eq (message : Bytes) (type : MessageType) :
    onmessage codec handler message type =
      match type with
      | .kTextMessage => answerJson codec handler (judge codec message)
      | .kBinaryMessage => answerBinary codec handler (judge codec message) := by
  rw [onmessage, onmessageOn_eq, answerJsonOn_deep, answerBinaryOn_deep]

end Answers

section Envelope

/-- The message an error is reported with. -/
def reported (error : RPCError) : Bytes :=
  if cString error.message ≠ [] then cString error.message else ascii "No message was given"

/-- The error member of a response. -/
def errorMember (error : RPCError) : Value :=
  .object [(kErrorCode, .integer error.code.toInt), (kErrorMessage, .string (reported error))]

/-- The members of a response, in the order of their keys. -/
theorem constructResponse_eq (id method : Bytes) (error : RPCError) :
    constructResponse id method error =
      .object ((if error.code ≠ 0 then [(kError, errorMember error)] else []) ++
        [(kID, .string (if id ≠ [] then id else kNoID)),
          (kMethod, .string (if method ≠ [] then method else kUnknownMethod))]) := by
  have method_last : kID < kMethod := by decide
  have error_first : kError < kID := by decide
  have code_first : kErrorCode < kErrorMessage := by decide
  unfold constructResponse errorMember reported
  -- Each member has one place in the order of the keys.
  by_cases code : error.code ≠ 0
  · by_cases message : cString error.message ≠ []
    · simp [code, message, Value.insert_after method_last, Value.insert_before error_first,
        Value.insert_same, Value.insert_before code_first]
    · simp [code, message, Value.insert_after method_last, Value.insert_before error_first,
        Value.insert_before code_first]
  · simp [code, Value.insert_after method_last]

/-- A response has an error member if and only if there is a code for one. -/
theorem member?_constructResponse (id method : Bytes) (error : RPCError) :
    (constructResponse id method error).member? kError =
      if error.code ≠ 0 then some (errorMember error) else none := by
  rw [constructResponse_eq]
  split
  · simp [Value.member?, Value.lookup]
  · have id_other : kID ≠ kError := by decide
    have method_other : kMethod ≠ kError := by decide
    simp [Value.member?, Value.lookup, id_other, method_other]

/-- A response can be serialised unless the text of its error cannot. -/
theorem wellEncoded_constructResponse {id method : Bytes} (id_encoded : isUtf8 id = true)
    (method_encoded : isUtf8 method = true) (error : RPCError) :
    (constructResponse id method error).wellEncoded = true ↔
      (error.code ≠ 0 → isUtf8 (cString error.message) = true) := by
  -- The server's own names are plain text.
  have names {key : Bytes} (plain : Json.isPlain key = true) := Json.isUtf8_of_plain plain
  have id_encoded' : isUtf8 (if id ≠ [] then id else kNoID) = true := by
    split
    · exact id_encoded
    · exact names (by decide)
  have method_encoded' : isUtf8 (if method ≠ [] then method else kUnknownMethod) = true := by
    split
    · exact method_encoded
    · exact names (by decide)
  have reported_encoded : isUtf8 (reported error) = isUtf8 (cString error.message) := by
    unfold reported
    split
    · rfl
    · rename_i empty
      rw [not_not.mp empty]
      exact names (by decide)
  have id_key : isUtf8 kID = true := names (by decide)
  have method_key : isUtf8 kMethod = true := names (by decide)
  have error_key : isUtf8 kError = true := names (by decide)
  have code_key : isUtf8 kErrorCode = true := names (by decide)
  have message_key : isUtf8 kErrorMessage = true := names (by decide)
  rw [constructResponse_eq]
  -- The texts are now any two well-encoded ones: only the error member is left to decide.
  generalize (if id ≠ [] then id else kNoID) = idText at id_encoded' ⊢
  generalize (if method ≠ [] then method else kUnknownMethod) = methodText at method_encoded' ⊢
  by_cases code : error.code ≠ 0
  · simp [code, errorMember, id_encoded', method_encoded', reported_encoded, id_key, method_key,
      error_key, code_key, message_key]
  · simp [code, id_encoded', method_encoded', id_key, method_key]

/-- With a result, the result has to be one that can be serialised as well. -/
theorem wellEncoded_constructResponseWithResult {id method : Bytes} {error : RPCError}
    {result : Value} (id_encoded : isUtf8 id = true) (method_encoded : isUtf8 method = true) :
    (constructResponseWithResult id method error result).wellEncoded = true ↔
      result.wellEncoded = true ∧ (error.code ≠ 0 → isUtf8 (cString error.message) = true) := by
  have result_key : isUtf8 kResult = true := Json.isUtf8_of_plain (by decide)
  have base := wellEncoded_constructResponse id_encoded method_encoded error
  -- The result is a new member, so setting it overwrites nothing.
  have absent : Value.lookup kResult ((if error.code ≠ 0 then [(kError, errorMember error)] else [])
      ++ [(kID, .string (if id ≠ [] then id else kNoID)),
        (kMethod, .string (if method ≠ [] then method else kUnknownMethod))]) = none := by
    have error_other : kError ≠ kResult := by decide
    have id_other : kID ≠ kResult := by decide
    have method_other : kMethod ≠ kResult := by decide
    split <;> simp [Value.lookup, error_other, id_other, method_other]
  have extended : ((constructResponse id method error).set kResult result).wellEncoded =
      (result.wellEncoded && (constructResponse id method error).wellEncoded) := by
    rw [constructResponse_eq, Value.set_object, Value.wellEncoded_object,
      Value.wellEncodedMembers_insert absent, result_key, Bool.true_and, Value.wellEncoded_object]
  -- A null result is not added at all.
  cases result with
  | null => simpa [constructResponseWithResult] using base
  | _ =>
    show ((constructResponse id method error).set kResult _).wellEncoded = true ↔ _
    rw [extended, Bool.and_eq_true, base]

end Envelope

section Calls

variable (handling : Handling) {α : Type}

/-- A message is sent behind those that were. -/
theorem websocketSend_yields (message : Bytes) (type : MessageType) (handling : Handling) :
    (websocketSend message type).Yields handling ()
      { handling with sent := handling.sent ++ [(message, type)] } :=
  Program.yields_update _ handling

/-- A response that can be serialised is passed on as one text message. -/
theorem sendResponse_yields {codec : Codec} {response : Value} {serialised : Bytes}
    (dumped : codec.dump response = .ok serialised) :
    (sendResponse codec response).Yields handling ()
      { handling with sent := handling.sent ++ [(serialised, .kTextMessage)] } := by
  -- Serialising changes nothing, and the message is added behind those sent before.
  apply (Program.yields_ofExcept dumped handling).bind
  exact websocketSend_yields serialised .kTextMessage handling

/-- A response that cannot be serialised is an exception, and nothing is sent. -/
theorem sendResponse_throws {codec : Codec} {response : Value}
    (unencoded : response.wellEncoded ≠ true) :
    ∃ what, (sendResponse codec response).Throws handling what handling := by
  cases dumped : codec.dump response with
  | ok serialised => exact absurd ((codec.dump_ok response).mp ⟨serialised, dumped⟩) unencoded
  | error what => exact ⟨what, (Program.throws_ofExcept dumped handling).bind _⟩

variable {execute : Bytes → Bytes → Value → RPCError → Except Bytes (α × RPCError)}
  {error : RPCError} (execution : Execution)

/-- A call that returns is noted, and gives its outcome. -/
theorem handlerExecute_yields {outcome : α × RPCError}
    (returned : execute execution.id execution.method execution.params error = .ok outcome) :
    (handlerExecute execute execution error).Yields handling outcome
      { handling with executed := handling.executed ++ [execution] } := by
  -- The call is noted first, and then its outcome is the one of the handler.
  apply (Program.yields_update _ handling).next
  exact Program.yields_ofExcept returned _

/-- A call that throws is noted, too. -/
theorem handlerExecute_throws {what : Bytes}
    (threw : execute execution.id execution.method execution.params error = .error what) :
    (handlerExecute execute execution error).Throws handling what
      { handling with executed := handling.executed ++ [execution] } := by
  apply (Program.yields_update _ handling).bind_throws
  exact Program.throws_ofExcept threw _

/-- A call that succeeds is answered with its bytes. -/
theorem answerBinary_result {codec : Codec} {handler : IRPCHandler} {id method result : Bytes}
    {params : Value} {error error' : RPCError}
    (returned : handler.executeBinary id method params error = .ok (result, error'))
    (success : error'.code = 0) :
    (answerBinary codec handler (.called id method params error)).Yields handling ()
      { executed := handling.executed ++ [⟨.kBinaryMessage, id, method, params⟩],
        sent := handling.sent ++ [(result, .kBinaryMessage)] } := by
  apply (handlerExecute_yields handling ⟨.kBinaryMessage, id, method, params⟩ returned).bind
  simp only [success, if_true]
  exact websocketSend_yields result .kBinaryMessage _

/-- A call that fails is answered with a response that was never constructed. -/
theorem answerBinary_failure {codec : Codec} {handler : IRPCHandler}
    {id method result serialised : Bytes} {params : Value} {error error' : RPCError}
    (returned : handler.executeBinary id method params error = .ok (result, error'))
    (failed : error'.code ≠ 0) (dumped : codec.dump .null = .ok serialised) :
    (answerBinary codec handler (.called id method params error)).Yields handling ()
      { executed := handling.executed ++ [⟨.kBinaryMessage, id, method, params⟩],
        sent := handling.sent ++ [(serialised, .kTextMessage)] } := by
  apply (handlerExecute_yields handling ⟨.kBinaryMessage, id, method, params⟩ returned).bind
  simp only [failed, if_false]
  exact sendResponse_yields _ dumped

/-- A call is answered with its result and its error. -/
theorem answerJson_response {codec : Codec} {handler : IRPCHandler}
    {id method serialised : Bytes} {params result : Value} {error error' : RPCError}
    (returned : handler.executeJson id method params error = .ok (result, error'))
    (dumped : codec.dump (constructResponseWithResult id method error' result) = .ok serialised) :
    (answerJson codec handler (.called id method params error)).Yields handling ()
      { executed := handling.executed ++ [⟨.kTextMessage, id, method, params⟩],
        sent := handling.sent ++ [(serialised, .kTextMessage)] } := by
  apply (handlerExecute_yields handling ⟨.kTextMessage, id, method, params⟩ returned).bind
  exact sendResponse_yields _ dumped

end Calls

section Straight

variable {codec : Codec} {handler : IRPCHandler}

/-- To send takes no loop. -/
theorem websocketSend_straight (message : Bytes) (type : MessageType) :
    (websocketSend message type).Straight :=
  Program.straight_update _

/-- Nor does it take one to serialise a response. -/
theorem sendResponse_straight (response : Value) : (sendResponse codec response).Straight :=
  (Program.straight_ofExcept _).bind fun _ => Program.straight_update _

/-- A call of the handler takes no loop of the server. -/
theorem handlerExecute_straight {α : Type}
    (execute : Bytes → Bytes → Value → RPCError → Except Bytes (α × RPCError))
    (execution : Execution) (error : RPCError) :
    (handlerExecute execute execution error).Straight :=
  (Program.straight_update _).bind fun _ => Program.straight_ofExcept _

/-- Handling a message takes no loops. -/
theorem onmessage_straight (message : Bytes) (type : MessageType) :
    (onmessage codec handler message type).Straight := by
  rw [onmessage_eq]
  cases type with
  | kTextMessage =>
    cases judge codec message with
    | rejected id error => exact sendResponse_straight _
    | called id method params error =>
      exact (handlerExecute_straight _ _ _).bind fun _ => sendResponse_straight _
  -- A binary call is answered by its bytes when it succeeds, by a text when it fails.
  | kBinaryMessage =>
    cases judge codec message with
    | rejected id error =>
      unfold answerBinary
      by_cases success : error.code = 0
      · simpa only [success, if_true] using websocketSend_straight _ _
      · simpa only [success, if_false] using sendResponse_straight _
    | called id method params error =>
      refine (handlerExecute_straight _ _ _).bind fun outcome => ?_
      by_cases success : outcome.2.code = 0
      · simpa only [success, if_true] using websocketSend_straight _ _
      · simpa only [success, if_false] using sendResponse_straight _

end Straight

section Judgement

variable {codec : Codec} {message : Bytes}

/-- The id taken from a value that was read can be serialised. -/
theorem isUtf8_idOf {request : Value} (encoded : request.wellEncoded = true) :
    isUtf8 (idOf request) = true := by
  unfold idOf
  split
  · rename_i id found
    cases request with
    | object members => exact Value.wellEncoded_lookup encoded found
    | _ => simp [Value.member?] at found
  · rfl

/-- The method of a call was read, and so was its id. -/
theorem judge_called {id method : Bytes} {params : Value} {error : RPCError}
    (verdict : judge codec message = .called id method params error) :
    isUtf8 id = true ∧ isUtf8 method = true := by
  unfold judge at verdict
  cases parsed : codec.parse message with
  | error what => simp [parsed] at verdict
  | ok request =>
    have encoded := codec.parse_wellEncoded message request parsed
    simp only [parsed, judgeRequest] at verdict
    -- Only a request with a method, and one that is not empty, is a call.
    split at verdict
    · rename_i text found
      split at verdict
      · simp only [Verdict.called.injEq] at verdict
        obtain ⟨rfl, rfl, -, -⟩ := verdict
        refine ⟨isUtf8_idOf encoded, ?_⟩
        -- A method was found, so the request is an object.
        cases request with
        | object members => exact Value.wellEncoded_lookup encoded found
        | _ => simp [Value.member?] at found
      · cases verdict
    · cases verdict

/-- A rejection has one of four errors, one of which is no error. -/
theorem judge_rejected {id : Bytes} {error : RPCError}
    (verdict : judge codec message = .rejected id error) :
    isUtf8 id = true ∧ (error = .fresh ∨ error = invalidId ∨ error = missingMethod ∨
      error = notParsed) := by
  unfold judge at verdict
  cases parsed : codec.parse message with
  -- A message that does not parse has no id, so the response names an unknown one.
  | error what =>
    simp only [parsed, Verdict.rejected.injEq] at verdict
    obtain ⟨rfl, rfl⟩ := verdict
    exact ⟨Json.isUtf8_of_plain (by decide), by simp⟩
  | ok request =>
    have encoded := isUtf8_idOf (codec.parse_wellEncoded message request parsed)
    simp only [parsed, judgeRequest] at verdict
    -- The cases of the source: a method that is a string, one that is not, and none.
    split at verdict
    · split at verdict
      · cases verdict
      · simp only [Verdict.rejected.injEq] at verdict
        obtain ⟨rfl, rfl⟩ := verdict
        refine ⟨encoded, ?_⟩
        unfold idError
        split <;> simp
    · simp only [Verdict.rejected.injEq] at verdict
      obtain ⟨rfl, rfl⟩ := verdict
      exact ⟨encoded, by simp⟩

/-- The response to a rejected message can be serialised. -/
theorem dump_rejected {id : Bytes} {error : RPCError}
    (verdict : judge codec message = .rejected id error) :
    ∃ serialised, codec.dump (constructResponse id kUnknownMethod error) = .ok serialised := by
  -- The text of each of the errors is a constant of plain characters.
  obtain ⟨encoded, cases⟩ := judge_rejected verdict
  have unknown : isUtf8 kUnknownMethod = true := Json.isUtf8_of_plain (by decide)
  apply (codec.dump_ok _).mpr
  apply (wellEncoded_constructResponse encoded unknown error).mpr
  intro _
  apply Json.isUtf8_of_plain
  rcases cases with rfl | rfl | rfl | rfl <;> decide

end Judgement

end Rcom
