import Librcom.Rpc.Monster
import Librcom.Rpc.ServerLaws

/-! When the message handler survives a message, and answers it. -/

namespace Rcom

open Effects
open Json (ascii Value Codec isUtf8)

/-- The message handler returns, and has passed one message to the WebSocket. -/
def Survives (stack : Stack) (codec : Codec) (handler : IRPCHandler) (message : Bytes)
    (type : MessageType) : Prop :=
  ∃ handling, (onmessageOn stack codec handler message type).Yields .fresh () handling ∧
    handling.sent.length = 1

/--
The handler answers a call with texts that can be serialised, and the stack has room for what is copied on the way.

A binary result is passed on as it is, so that there only the parameters and an exception matter.
-/
def Answerable (stack : Stack) (handler : IRPCHandler) (type : MessageType) : Verdict → Prop
  | .rejected _ _ => True
  | .called id method params error =>
    stack.copies params = true ∧
      match type with
      | .kTextMessage =>
        ∃ result error', handler.executeJson id method params error = .ok (result, error') ∧
          stack.copies result = true ∧
          stack.dumps (constructResponseWithResult id method error' result) = true ∧
          result.wellEncoded = true ∧ (error'.code ≠ 0 → isUtf8 (cString error'.message) = true)
      | .kBinaryMessage => ∃ outcome, handler.executeBinary id method params error = .ok outcome

section Room

variable {stack : Stack} {codec : Codec}

/-- A response without a result is an object with at most one object in it. -/
theorem nesting_constructResponse (id method : Bytes) (error : RPCError) :
    (constructResponse id method error).nesting ≤ 2 := by
  rw [constructResponse_eq]
  by_cases code : error.code ≠ 0
  · simp [code, errorMember]
  · simp [code]

/-- Copying a value that there is no room for ends the process. -/
theorem copy_throws {value : Value} (room : stack.copies value ≠ true) (handling : Handling) :
    ∃ what, (stack.copy value).Throws handling what handling := by
  rw [Stack.copy, if_neg room]
  exact ⟨_, Program.throws_raise _ handling⟩

/-- A response is passed on as one text message, where there is room for it and it can be serialised. -/
theorem sendResponseOn_yields {response : Value} {serialised : Bytes}
    (room : stack.dumps response = true) (dumped : codec.dump response = .ok serialised)
    (handling : Handling) :
    (sendResponseOn stack codec response).Yields handling ()
      { handling with sent := handling.sent ++ [(serialised, .kTextMessage)] } := by
  rw [sendResponseOn, Stack.dump, if_pos room]
  exact sendResponse_yields handling dumped

/-- Nothing is passed on where there is no room for the response, or it cannot be serialised. -/
theorem sendResponseOn_throws {response : Value}
    (fails : ¬ (stack.dumps response = true ∧ response.wellEncoded = true)) (handling : Handling) :
    ∃ what, (sendResponseOn stack codec response).Throws handling what handling := by
  rw [sendResponseOn, Stack.dump]
  by_cases room : stack.dumps response = true
  · rw [if_pos room]
    exact sendResponse_throws handling fun encoded => fails ⟨room, encoded⟩
  · rw [if_neg room]
    exact ⟨_, (Program.throws_raise _ handling).bind _⟩

section Result

variable {id method : Bytes} {error : RPCError} {result : Value}

/-- The response to a call is passed on, where there is room for the result and for the whole response. -/
theorem answered_yields {serialised : Bytes} (copied : stack.copies result = true)
    (room : stack.dumps (constructResponseWithResult id method error result) = true)
    (dumped : codec.dump (constructResponseWithResult id method error result) = .ok serialised)
    (handling : Handling) :
    (stack.copy result >>= fun result =>
      sendResponseOn stack codec (constructResponseWithResult id method error result)).Yields handling
        () { handling with sent := handling.sent ++ [(serialised, .kTextMessage)] } := by
  rw [copy_eq copied, pure_bind]
  exact sendResponseOn_yields room dumped handling

/-- Nothing is passed on where there is no room for the result, or else for the response. -/
theorem answered_throws
    (fails : ¬ (stack.copies result = true ∧
      stack.dumps (constructResponseWithResult id method error result) = true ∧
      (constructResponseWithResult id method error result).wellEncoded = true))
    (handling : Handling) :
    ∃ what, (stack.copy result >>= fun result =>
      sendResponseOn stack codec (constructResponseWithResult id method error result)).Throws handling
        what handling := by
  -- The result is copied before the response is made, and either can be too much.
  by_cases copied : stack.copies result = true
  · rw [copy_eq copied, pure_bind]
    exact sendResponseOn_throws (fun sound => fails ⟨copied, sound⟩) handling
  · obtain ⟨what, threw⟩ := copy_throws copied handling
    exact ⟨what, threw.bind _⟩

end Result

/-- There is always room for the response to a message that is rejected, and it can be serialised. -/
theorem rejected_survives {message id : Bytes} {error : RPCError}
    (verdict : judge codec message = .rejected id error) :
    ∃ handling, (sendResponseOn stack codec (constructResponse id kUnknownMethod error)).Yields .fresh
      () handling ∧ handling.sent.length = 1 := by
  obtain ⟨serialised, dumped⟩ := dump_rejected verdict
  have room := (stack.flat _ (nesting_constructResponse id kUnknownMethod error)).2
  exact ⟨_, sendResponseOn_yields room dumped .fresh, rfl⟩

end Room

section Text

variable {stack : Stack} {codec : Codec} {handler : IRPCHandler} {message : Bytes}

/-- A text message is answered where its handler answers and the stack has room. -/
theorem answerJsonOn_survives
    (answerable : Answerable stack handler .kTextMessage (judge codec message)) :
    ∃ handling, (answerJsonOn stack codec handler (judge codec message)).Yields .fresh () handling ∧
      handling.sent.length = 1 := by
  cases verdict : judge codec message with
  | rejected id error => exact rejected_survives verdict
  | called id method params error =>
    rw [verdict] at answerable
    obtain ⟨taken, result, error', returned, copied, room, encoded⟩ := answerable
    obtain ⟨id_encoded, method_encoded⟩ := judge_called verdict
    -- The parts of the response are well encoded: the message was parsed, and the handler answered
    -- in kind.
    obtain ⟨serialised, dumped⟩ := (codec.dump_ok _).mpr
      ((wellEncoded_constructResponseWithResult id_encoded method_encoded).mpr encoded)
    have called := handlerExecute_yields .fresh ⟨.kTextMessage, id, method, params⟩ returned
    simp only [answerJsonOn, copy_eq taken, pure_bind]
    refine ⟨_, called.bind (answered_yields copied room dumped _), rfl⟩

/-- A text message that is survived has a handler that answers, and found room on the stack. -/
theorem answerJsonOn_returns {handling : Handling}
    (returned : (answerJsonOn stack codec handler (judge codec message)).Yields .fresh () handling) :
    Answerable stack handler .kTextMessage (judge codec message) := by
  -- Otherwise a copy, the handler or the serialiser fails, and none of this is caught.
  cases verdict : judge codec message with
  | rejected id error => trivial
  | called id method params error =>
    rw [verdict, answerJsonOn] at returned
    by_cases taken : stack.copies params = true
    case neg =>
      obtain ⟨what, threw⟩ := copy_throws taken .fresh
      exact absurd (threw.bind _) returned.not_throws
    rw [copy_eq taken, pure_bind] at returned
    cases executed : handler.executeJson id method params error with
    | error what =>
      have threw := handlerExecute_throws .fresh ⟨.kTextMessage, id, method, params⟩ executed
      exact absurd (threw.bind _) returned.not_throws
    | ok outcome =>
      have called := handlerExecute_yields .fresh ⟨.kTextMessage, id, method, params⟩ executed
      by_cases sound : stack.copies outcome.1 = true ∧
          stack.dumps (constructResponseWithResult id method outcome.2 outcome.1) = true ∧
          (constructResponseWithResult id method outcome.2 outcome.1).wellEncoded = true
      case neg =>
        -- A response that cannot be constructed or serialised fails after the call.
        obtain ⟨what, threw⟩ := answered_throws sound _
        exact absurd (called.bind_throws threw) returned.not_throws
      obtain ⟨copied, room, encoded⟩ := sound
      obtain ⟨id_encoded, method_encoded⟩ := judge_called verdict
      exact ⟨taken, outcome.1, outcome.2, executed, copied, room,
        (wellEncoded_constructResponseWithResult id_encoded method_encoded).mp encoded⟩

end Text

section Binary

variable {stack : Stack} {codec : Codec} {handler : IRPCHandler} {message : Bytes}

/-- A binary message is answered where its handler returns and the stack has room. -/
theorem answerBinaryOn_survives
    (answerable : Answerable stack handler .kBinaryMessage (judge codec message)) :
    ∃ handling, (answerBinaryOn stack codec handler (judge codec message)).Yields .fresh () handling ∧
      handling.sent.length = 1 := by
  cases verdict : judge codec message with
  | rejected id error =>
    rw [answerBinaryOn]
    by_cases success : error.code = 0
    · rw [if_pos success]
      exact ⟨_, websocketSend_yields _ _ _, rfl⟩
    · rw [if_neg success]
      exact rejected_survives verdict
  | called id method params error =>
    rw [verdict] at answerable
    -- The params were copied, and the handler returned.
    obtain ⟨taken, ⟨result, error'⟩, returned⟩ := answerable
    have called := handlerExecute_yields .fresh ⟨.kBinaryMessage, id, method, params⟩ returned
    simp only [answerBinaryOn, copy_eq taken, pure_bind]
    suffices passed : ∃ handling, (if error'.code = 0 then websocketSend result .kBinaryMessage
        else sendResponseOn stack codec .null).Yields ⟨[⟨.kBinaryMessage, id, method, params⟩], []⟩
        () handling ∧ handling.sent.length = 1 by
      obtain ⟨handling, sent, one⟩ := passed
      exact ⟨handling, called.bind sent, one⟩
    by_cases success : error'.code = 0
    · rw [if_pos success]
      exact ⟨_, websocketSend_yields _ _ _, rfl⟩
    · -- The response was never constructed, but null can always be serialised.
      obtain ⟨serialised, dumped⟩ := (codec.dump_ok .null).mpr rfl
      have room := (stack.flat .null (by simp)).2
      rw [if_neg success]
      exact ⟨_, sendResponseOn_yields room dumped _, rfl⟩

/-- A binary message that is survived has a handler that returns, and found room on the stack. -/
theorem answerBinaryOn_returns {handling : Handling}
    (returned : (answerBinaryOn stack codec handler (judge codec message)).Yields .fresh () handling) :
    Answerable stack handler .kBinaryMessage (judge codec message) := by
  cases verdict : judge codec message with
  | rejected id error => trivial
  | called id method params error =>
    rw [verdict, answerBinaryOn] at returned
    by_cases taken : stack.copies params = true
    case neg =>
      obtain ⟨what, threw⟩ := copy_throws taken .fresh
      exact absurd (threw.bind _) returned.not_throws
    rw [copy_eq taken, pure_bind] at returned
    cases executed : handler.executeBinary id method params error with
    | ok outcome => exact ⟨taken, outcome, executed⟩
    | error what =>
      -- The exception of the handler is not caught.
      have threw := handlerExecute_throws .fresh ⟨.kBinaryMessage, id, method, params⟩ executed
      exact absurd (threw.bind _) returned.not_throws

end Binary

/-- A message is survived if and only if its handler answers what it is called with, and there is room for it. -/
theorem onmessage_survives_iff (stack : Stack) (codec : Codec) (handler : IRPCHandler)
    (message : Bytes) (type : MessageType) :
    Survives stack codec handler message type ↔
      Answerable stack handler type (judge codec message) := by
  unfold Survives
  rw [onmessageOn_eq]
  -- In both directions the answer to the call decides; the two types are answered differently.
  cases type with
  | kTextMessage =>
    exact ⟨fun ⟨_, returned, _⟩ => answerJsonOn_returns returned, answerJsonOn_survives⟩
  | kBinaryMessage =>
    exact ⟨fun ⟨_, returned, _⟩ => answerBinaryOn_returns returned, answerBinaryOn_survives⟩

/-- A text message whose call throws is not survived. -/
theorem not_survives_of_throws {stack : Stack} {codec : Codec} {handler : IRPCHandler}
    {message id method what : Bytes} {params : Value} {error : RPCError}
    (verdict : judge codec message = .called id method params error)
    (threw : handler.executeJson id method params error = .error what) :
    ¬ Survives stack codec handler message .kTextMessage := by
  rintro ⟨handling, returned, -⟩
  rw [onmessageOn_eq] at returned
  -- Had it returned, then the handler would have had a result.
  have answerable := answerJsonOn_returns returned
  rw [verdict] at answerable
  obtain ⟨-, result, error', executed, -⟩ := answerable
  rw [threw] at executed
  cases executed

/-- The value of a call without parameters to scare someone. -/
def scareNobody : Value := .object [(kMethod, .string (ascii "gently-scare-someone"))]

/-- The text of that call, and a library that reads it. -/
def scareNobodyText : Bytes := ascii "\x7b\"method\":\"gently-scare-someone\"\x7d"
def scareNobodyCodec : Codec := .printing (fun _ => []) [(scareNobodyText, scareNobody)]

/-- The message asks for a call without parameters. -/
theorem judge_scareNobody : judge scareNobodyCodec scareNobodyText =
    .called [] (ascii "gently-scare-someone") .null .fresh := by
  have key : isUtf8 kMethod = true := Json.isUtf8_of_plain (by decide)
  have name : isUtf8 (ascii "gently-scare-someone") = true := Json.isUtf8_of_plain (by decide)
  have parsed : scareNobodyCodec.parse scareNobodyText = .ok scareNobody := by
    apply Codec.parse_printing _ [] [] (by simp)
    simp [scareNobody, key, name]
  have id_other : kMethod ≠ kID := by decide
  have params_other : kMethod ≠ kParams := by decide
  have named : ascii "gently-scare-someone" ≠ [] := by decide
  rw [judge, parsed]
  simp [judgeRequest, scareNobody, Value.member?, Value.lookup, idOf, idError, id_other,
    params_other, named]

/-- Scaring someone takes the parameter `person-id`. -/
theorem monsterAdaptor_throws {energyLevel : ℚ} :
    ∃ what, (monsterAdaptor energyLevel).executeJson [] (ascii "gently-scare-someone") .null .fresh =
      .error what := by
  have other : ascii "gently-scare-someone" ≠ ascii "jump-around" := by decide
  simp [monsterAdaptor, executeGentlyScareSomeone, other, Value.stringAt, Value.index,
    Value.asString, bind, Except.bind]

/-- The monster of the tutorial does not survive a call without its parameter. -/
theorem scareNobody_not_survived :
    ¬ Survives .deep scareNobodyCodec (monsterAdaptor 7) scareNobodyText .kTextMessage := by
  obtain ⟨what, threw⟩ := monsterAdaptor_throws
  exact not_survives_of_throws judge_scareNobody threw

end Rcom
