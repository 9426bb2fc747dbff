import Librcom.Json.Utf8
import Librcom.Rpc.Locally
import Librcom.Rpc.Survival
import Librcom.Server.Answering

/-! A server of remote procedure calls on a hub: calls of any number of clients over real WebSockets. -/

namespace Rcom

open Effects
open Json (ascii Value Codec isUtf8)

section Survival

variable {σ : Type} {codec : Codec}

/-- Whatever message comes in whatever state, it is survived. -/
def Service.Steady (codec : Codec) (service : Service σ) : Prop :=
  ∀ state message type, Survives .deep codec (service.handler state) message type

/-- What an object writes in a result or an error can be serialised, if what it was called with can. -/
def RemoteObject.Encodes (object : RemoteObject σ) : Prop :=
  ∀ state id method params error, isUtf8 id = true → isUtf8 method = true →
    params.wellEncoded = true → isUtf8 error.message = true →
    let outcome := object.executeJson state id method params error
    outcome.result.wellEncoded = true ∧ isUtf8 outcome.error.message = true ∧
      ∀ what, outcome.threw = some what → isUtf8 what = true

/-- The parameters of a call were read, and so can be written, as can the error that the call is given. -/
theorem judge_encodes {message id method : Bytes} {params : Value} {error : RPCError}
    (verdict : judge codec message = .called id method params error) :
    params.wellEncoded = true ∧ isUtf8 error.message = true := by
  unfold judge at verdict
  cases parsed : codec.parse message with
  | error what => simp [parsed] at verdict
  | ok request =>
    have encoded := codec.parse_wellEncoded message request parsed
    simp only [parsed, judgeRequest] at verdict
    split at verdict
    · split at verdict
      · simp only [Verdict.called.injEq] at verdict
        obtain ⟨-, -, rfl, rfl⟩ := verdict
        constructor
        · -- Without parameters the value is null, and else it is a member of the request.
          cases found : request.member? kParams with
          | none => rfl
          | some params =>
            cases request with
            | object members => exact Value.wellEncoded_lookup encoded found
            | _ => simp [Value.member?] at found
        · -- The text of the one error that an id can give is plain.
          have invalid : isUtf8 invalidId.message = true := Json.isUtf8_of_plain (by decide)
          unfold idError
          split
          · rfl
          · rfl
          · exact invalid
      · cases verdict
    · cases verdict

/-- What the adaptor makes of a call can be serialised: its own errors too, which have the id in them. -/
theorem RemoteObjectsAdaptor.executeJson_encodes {adaptor : RemoteObjectsAdaptor σ}
    (encodes : ∀ id object, adaptor.map id = some object → object.Encodes) (state : σ)
    {id method : Bytes} {params : Value} (error : RPCError) (id_encoded : isUtf8 id = true)
    (method_encoded : isUtf8 method = true) (params_encoded : params.wellEncoded = true)
    (error_encoded : isUtf8 error.message = true) :
    (adaptor.executeJson state id method params error).1.wellEncoded = true ∧
      isUtf8 (cString (adaptor.executeJson state id method params error).2.message) = true := by
  unfold RemoteObjectsAdaptor.executeJson RemoteObjectsAdaptor.caught RemoteObjectsAdaptor.getAdaptor
  -- An unknown id is itself an exception of the source, caught below with its text.
  cases found : adaptor.map id with
  | none =>
    have text : isUtf8 (ascii "Can't find object with given id: " ++ id) = true :=
      Json.isUtf8_append (by decide) id_encoded
    exact ⟨rfl, Json.isUtf8_cString (Json.isUtf8_cString (Json.isUtf8_cString text))⟩
  | some object =>
    obtain ⟨result, noted, thrown⟩ :=
      encodes id object found state id method params error id_encoded method_encoded params_encoded
        error_encoded
    -- What an object throws becomes the message of the error.
    cases threw : (object.executeJson state id method params error).threw with
    | none =>
      simp only [threw]
      exact ⟨result, Json.isUtf8_cString noted⟩
    | some what =>
      simp only [threw]
      exact ⟨result, Json.isUtf8_cString (Json.isUtf8_cString (thrown what threw))⟩

/-- Behind an adaptor no message is fatal: what an object throws, and that there is none, are errors. -/
theorem RemoteObjectsAdaptor.steady {adaptor : RemoteObjectsAdaptor σ}
    (encodes : ∀ id object, adaptor.map id = some object → object.Encodes) :
    adaptor.service.Steady codec := by
  intro state message type
  have answerable : Answerable .deep (adaptor.service.handler state) type (judge codec message) := by
    cases verdict : judge codec message with
    | rejected id error => trivial
    | called id method params error =>
      cases type with
      -- Nothing is serialised for a binary call, so nothing can fail.
      | kBinaryMessage => exact ⟨rfl, _, rfl⟩
      | kTextMessage =>
        -- What the request was made of was read, so that it can be written.
        obtain ⟨id_encoded, method_encoded⟩ := judge_called verdict
        obtain ⟨params_encoded, error_encoded⟩ := judge_encodes verdict
        obtain ⟨result, noted⟩ := adaptor.executeJson_encodes encodes state error id_encoded
          method_encoded params_encoded error_encoded
        exact ⟨rfl, _, _, rfl, rfl, rfl, result, fun _ => noted⟩
  unfold Survives
  rw [onmessageOn_eq]
  cases type with
  | kTextMessage => exact answerJsonOn_survives answerable
  | kBinaryMessage => exact answerBinaryOn_survives answerable

end Survival

/-- The message handler of an application, whose replies go over the link of the message. -/
def RcomMessageHandler.handler {σ : Type} (codec : Codec) (service : Service σ) : Handler (World σ) :=
  fun world message =>
    let (replies, after) := RemoteSite.serve codec service world (message.2, message.1)
    (replies.map Prod.swap, after)

section Handling

variable {σ : Type} {codec : Codec} {service : Service σ} {world : World σ} {talk : Talk}

end Handling

namespace WebSocketServer

variable {σ : Type} {codec : Codec} {service : Service σ}

/-- The text of a request that makes the monster jump. -/
def jumpText : Bytes := Json.print (fun _ => []) jump

/-- A client that has sent this request. -/
def asker : WebSocket := (Rcom.send .client jumpText .kTextMessage).after 9 (.steady [])

/-- A server of this object with one link, whose client has sent the request. -/
def asked : WebSocketServer WebSocket Surroundings (World Nat) where
  links := [⟨0, .running (wire asker.socket.passed)⟩]
  message := []
  listener := ⟨0, []⟩
  world := .calm
  nextAddress := 1
  log := []

end WebSocketServer

end Rcom
