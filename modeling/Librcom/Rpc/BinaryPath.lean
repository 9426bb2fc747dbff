import Librcom.Rpc.Transparency

/-! What becomes of the error of a binary call. -/

namespace Rcom

open Effects
open Json (ascii Value Codec isUtf8)
open RcomClient

/-- What a binary call comes to at the server, where a call without a method comes to nothing. -/
def serverOutcome (method : Bytes) (outcome : Bytes × RPCError) : Bytes × RPCError :=
  if method = [] then ([], .fresh) else outcome

/-- A client ends with the code of the server's error, and with its bytes when there is none. -/
def Conveys (codec : Codec) (handler : IRPCHandler) (call : Calling (List Handling) Bytes)
    (id method : Bytes) (params : Value) (outcome : Bytes × RPCError) : Prop :=
  ∃ call',
    (executeBinary codec (handled codec handler) id method params).Yields call () call' ∧
    call'.error.code = (serverOutcome method outcome).2.code ∧
    ((serverOutcome method outcome).2.code = 0 →
      call'.result = (serverOutcome method outcome).1)

/-- A request of a client, as it reaches a handler that does not throw. -/
structure Delivered (codec : Codec) (handler : IRPCHandler) (call : Calling (List Handling) Bytes)
    (id method : Bytes) (params : Value) (outcome : Bytes × RPCError) : Prop where
  id_encoded : isUtf8 id = true
  method_encoded : isUtf8 method = true
  params_encoded : params.wellEncoded = true
  /-- The library reads the request as it wrote it. -/
  restored : codec.Restores (requestOf id method params)
  returned : handler.executeBinary id method params .fresh = .ok outcome
  fresh : call.error = .fresh
  idle : call.link.pending = []
  sent : call.link.sends.head = .ok true
  arrives : call.link.arrivals.head = .arrived

section Outcomes

variable {codec : Codec} {handler : IRPCHandler} {call : Calling (List Handling) Bytes}
  {id method : Bytes} {params : Value} {outcome : Bytes × RPCError}

/-- The reply to a request: the bytes of a call that succeeds, and otherwise a null response. -/
theorem answered_request (delivered : Delivered codec handler call id method params outcome) :
    ∃ serialised handling reply, codec.dump (requestOf id method params) = .ok serialised ∧
      handled codec handler call.link.server (serialised, .kBinaryMessage) =
        ([reply], call.link.server ++ [handling]) ∧
      ((serverOutcome method outcome).2.code = 0 →
        reply = ((serverOutcome method outcome).1, .kBinaryMessage)) := by
  obtain ⟨serialised, dumped⟩ := (codec.dump_ok _).mpr (wellEncoded_requestOf
    delivered.id_encoded delivered.method_encoded delivered.params_encoded)
  have verdict : judge codec serialised =
      if method ≠ [] then .called id method params .fresh else .rejected id .fresh := by
    rw [judge, delivered.restored serialised dumped]
    exact judgeRequest_requestOf
  by_cases empty : method = []
  · -- The rejection has no error, so that the result is sent, which is empty.
    rw [if_neg (not_not.mpr empty)] at verdict
    have answered : (onmessage codec handler serialised .kBinaryMessage).Leaves .fresh
        { executed := [], sent := [([], .kBinaryMessage)] } := by
      rw [onmessage_eq, verdict]
      exact .inl ⟨(), websocketSend_yields [] .kBinaryMessage .fresh⟩
    refine ⟨serialised, _, _, dumped, handled_eq call.link.server answered, fun _ => ?_⟩
    simp [serverOutcome, empty]
  · rw [if_pos empty] at verdict
    -- With a method, the outcome of the server is that of the handler.
    have same : serverOutcome method outcome = outcome := if_neg empty
    rw [same]
    obtain ⟨result, error⟩ := outcome
    by_cases success : error.code = 0
    · have answered : (onmessage codec handler serialised .kBinaryMessage).Leaves .fresh
          { executed := [⟨.kBinaryMessage, id, method, params⟩],
            sent := [(result, .kBinaryMessage)] } := by
        rw [onmessage_eq, verdict]
        exact .inl ⟨(), answerBinary_result .fresh delivered.returned success⟩
      exact ⟨serialised, _, _, dumped, handled_eq call.link.server answered, fun _ => rfl⟩
    · -- With an error the null response is sent, as a text.
      obtain ⟨text, null_dumped⟩ := (codec.dump_ok .null).mpr rfl
      have answered : (onmessage codec handler serialised .kBinaryMessage).Leaves .fresh
          { executed := [⟨.kBinaryMessage, id, method, params⟩],
            sent := [(text, .kTextMessage)] } := by
        rw [onmessage_eq, verdict]
        exact .inl ⟨(), answerBinary_failure .fresh delivered.returned success null_dumped⟩
      exact ⟨serialised, _, _, dumped, handled_eq call.link.server answered,
        fun done => absurd done success⟩

/-- Whatever the server's error, the client is left without one. -/
theorem executeBinary_errorless (delivered : Delivered codec handler call id method params outcome) :
    ∃ call',
      (executeBinary codec (handled codec handler) id method params).Yields call () call' ∧
      call'.error = .fresh ∧
      ((serverOutcome method outcome).2.code = 0 →
        call'.result = (serverOutcome method outcome).1) := by
  obtain ⟨serialised, handling, reply, dumped, answered, bytes⟩ := answered_request delivered
  have waiting := delivered_pending (handled codec handler) delivered.idle
    (congrArg Prod.fst answered)
  -- The client takes the reply for the result, whatever the server has meant by it.
  have executed := executeBinary_yields (handled codec handler) dumped delivered.sent
    delivered.arrives waiting
  exact ⟨_, executed, delivered.fresh, fun success => congrArg Prod.fst (bytes success)⟩

/-- A client that ends as the server did ends without an error. -/
theorem success_of_conveys (delivered : Delivered codec handler call id method params outcome)
    (conveys : Conveys codec handler call id method params outcome) :
    (serverOutcome method outcome).2.code = 0 := by
  -- A run of the call has one outcome, so that the two ends are the same.
  obtain ⟨call', executed, fresh, -⟩ := executeBinary_errorless delivered
  obtain ⟨call'', executed', code, -⟩ := conveys
  obtain ⟨-, rfl⟩ := executed.unique executed'
  rw [← code, fresh]
  rfl

end Outcomes

/-- The outcome of a binary call is conveyed if and only if the server has no error. -/
theorem executeBinary_conveys_iff (codec : Codec) (handler : IRPCHandler)
    (call : Calling (List Handling) Bytes) (id method : Bytes) (params : Value)
    (outcome : Bytes × RPCError)
    (delivered : Delivered codec handler call id method params outcome) :
    Conveys codec handler call id method params outcome ↔ method = [] ∨ outcome.2.code = 0 := by
  have errorless : (serverOutcome method outcome).2.code = 0 ↔ method = [] ∨ outcome.2.code = 0 := by
    unfold serverOutcome
    by_cases empty : method = [] <;> simp [empty, RPCError.fresh]
  rw [← errorless]
  constructor
  · exact success_of_conveys delivered
  · intro success
    -- Without an error of the server, both codes are zero.
    obtain ⟨call', executed, fresh, bytes⟩ := executeBinary_errorless delivered
    refine ⟨call', executed, ?_, bytes⟩
    rw [success, fresh]
    rfl

section Jump

/-- A client with a buffer for the result, whose link is idle and delivers. -/
def binaryReady : Calling (List Handling) Bytes where
  link := ready.link
  buffer := []
  result := []
  error := .fresh

/-- What the monster makes of a binary call. -/
def monsterRefusal : Bytes × RPCError :=
  ([], { code := 1, message := ascii "Monsters don't take binary messages." })

/-- The request for a jump is passed on, and the refusal of the monster comes back. -/
theorem delivered_jump : Delivered jumpCodec (monsterAdaptor 7) binaryReady (ascii "elmo")
    (ascii "jump-around") .null monsterRefusal where
  id_encoded := Json.isUtf8_of_plain (by decide)
  method_encoded := Json.isUtf8_of_plain (by decide)
  params_encoded := rfl
  restored := Codec.restores_printing _ [] [(Json.print (fun _ => []) jumped, jumped)] (by simp)
  returned := rfl
  fresh := rfl
  idle := rfl
  sent := rfl
  arrives := rfl

/-- The rule for a binary call to the monster of the tutorial. -/
theorem executeBinary_conveys_iff_jump :
    Conveys jumpCodec (monsterAdaptor 7) binaryReady (ascii "elmo") (ascii "jump-around") .null
      monsterRefusal ↔ ascii "jump-around" = [] ∨ monsterRefusal.2.code = 0 :=
  executeBinary_conveys_iff _ _ _ _ _ _ _ delivered_jump

/-- The monster refuses the call, and the client is not told. -/
theorem refusal_not_conveyed :
    ¬ Conveys jumpCodec (monsterAdaptor 7) binaryReady (ascii "elmo") (ascii "jump-around") .null
      monsterRefusal := by
  have named : ascii "jump-around" ≠ [] := by decide
  have refused : monsterRefusal.2.code ≠ 0 := by decide
  intro conveys
  have success := success_of_conveys delivered_jump conveys
  rw [serverOutcome, if_neg named] at success
  exact refused success

end Jump

end Rcom
