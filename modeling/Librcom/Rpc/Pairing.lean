import Librcom.Rpc.Transparency

/-! Requests and responses on a link whose replies may come late. -/

namespace Rcom

open Effects
open Json (ascii Value Codec)
open RcomClient

variable {τ : Type}

/-- One call of a client, by the states before and after it. -/
inductive Exchange (τ : Type) where
  | json (id method : Bytes) (params : Value) (before after : Calling τ Value)
  | binary (id method : Bytes) (params : Value) (before after : Calling τ Bytes)

namespace Exchange

/-- The link and the buffer of the client before the call. -/
def start : Exchange τ → Link τ × Bytes
  | json _ _ _ before _ => (before.link, before.buffer)
  | binary _ _ _ before _ => (before.link, before.buffer)

/-- The link and the buffer of the client after the call. -/
def finish : Exchange τ → Link τ × Bytes
  | json _ _ _ _ after => (after.link, after.buffer)
  | binary _ _ _ _ after => (after.link, after.buffer)

/-- The call leads from the state before it to the state after it. -/
def Executed (codec : Codec) (serve : Server τ) : Exchange τ → Prop
  | json id method params before after =>
    (executeJson codec serve id method params).Yields before () after
  | binary id method params before after =>
    (executeBinary codec serve id method params).Yields before () after

/-- No reply is on its way when the call begins. -/
def Idle (exchange : Exchange τ) : Prop := exchange.start.1.pending = []

/-- The answer is the reply that the server gives to the request of the call. -/
def IsAnswer (codec : Codec) (serve : Server τ) (exchange : Exchange τ) (answer : LinkMessage) :
    Prop :=
  match exchange with
  | json id method params before _ =>
    ∃ request, codec.dump (requestOf id method params) = .ok request ∧
      (serve before.link.server (request, .kTextMessage)).1 = [answer]
  | binary id method params before _ =>
    ∃ request, codec.dump (requestOf id method params) = .ok request ∧
      (serve before.link.server (request, .kBinaryMessage)).1 = [answer]

/-- The result after the call is the one that the answer holds. -/
def HasResult (codec : Codec) (exchange : Exchange τ) (answer : LinkMessage) : Prop :=
  match exchange with
  | json _ _ _ before after =>
    ∃ response, codec.parse answer.1 = .ok response ∧
      after.result = (response.member? kResult).getD before.result
  | binary _ _ _ _ after => after.result = answer.1

/-- The code of the error after the call. -/
def code : Exchange τ → Int16
  | json _ _ _ _ after => after.error.code
  | binary _ _ _ _ after => after.error.code

/-- A call without an error has the result of the answer to its own request. -/
def Paired (codec : Codec) (serve : Server τ) (exchange : Exchange τ) : Prop :=
  exchange.code = 0 → ∃ answer, exchange.IsAnswer codec serve answer ∧
    exchange.HasResult codec answer

end Exchange

/-- A run of calls of one client over one link, each of which begins where the one before ended. -/
inductive Session (codec : Codec) (serve : Server τ) : Link τ × Bytes → List (Exchange τ) → Prop
  | finished (client : Link τ × Bytes) : Session codec serve client []
  | called {exchange : Exchange τ} {later : List (Exchange τ)}
      (executed : exchange.Executed codec serve)
      (rest : Session codec serve exchange.finish later) :
      Session codec serve exchange.start (exchange :: later)

/-- A server that answers every request exactly once. -/
def AnswersOnce (serve : Server τ) : Prop :=
  ∀ state message, ∃ answer, (serve state message).1 = [answer]

section Calls

variable {codec : Codec} {serve : Server τ} {id method : Bytes} {params : Value}

/-- What holds of a call that ends without an error holds of it when its exceptions are caught. -/
theorem guarded_ensures {ρ : Type} {p : CallM τ ρ Unit} {call : Calling τ ρ}
    {holds : Calling τ ρ → Prop}
    (tried : p.Ensures call (fun _ call' => call'.error.code = 0 → holds call') fun _ _ => True) :
    (guarded p).Ensures call (fun _ call' => call'.error.code = 0 → holds call')
      fun _ _ => True := by
  apply tried.attempt
  intro what call' _
  -- The exceptions that are caught become an error, and nothing is claimed of those.
  have failed : RPCError.kInternalError ≠ 0 := by decide
  exact (setErrorTo_yields _ call').ensures fun success => absurd success failed

/-- A text call without an error took its result from the first reply on its way. -/
theorem executeJson_ensures (call : Calling τ Value) :
    (executeJson codec serve id method params).Ensures call
      (fun _ call' => call'.error.code = 0 → ∃ request reply rest response,
        codec.dump (requestOf id method params) = .ok request ∧
        (call.link.delivered serve (request, .kTextMessage)).pending = reply :: rest ∧
        codec.parse reply.1 = .ok response ∧
        call'.result = (response.member? kResult).getD call.result)
      (fun _ _ => True) := by
  apply guarded_ensures
  · -- Every way not to obtain a reply leaves an error.
    apply makeRequest_ensures.bind
    rintro _ _ ⟨request, dumped, rfl⟩
    apply (sendRequest_ensures serve .kTextMessage _).bind
    intro sent call₁ passed
    cases sent with
    | false => exact Program.ensures_pure fun success => absurd success passed
    | true =>
      rw [if_pos rfl] at passed ⊢
      subst passed
      apply (receiveResponse_ensures (fun contents call => { call with buffer := contents }) _
        fun _ _ => rfl).bind
      intro obtained call₂ met
      cases obtained with
      | false => exact Program.ensures_pure fun success => absurd success met
      | true =>
        rw [if_pos rfl] at met ⊢
        obtain ⟨reply, rest, waiting, rfl⟩ := met
        -- A reply that does not parse leaves an error as well.
        cases parsed : codec.parse reply.1 with
        | error what =>
          have failed : parsingFailed.code ≠ 0 := by decide
          exact (parseResponse_fails parsed).ensures fun success => absurd success failed
        | ok response =>
          apply (parseResponse_yields parsed).ensures
          exact fun _ => ⟨request, reply, rest, response, dumped, waiting, parsed, rfl⟩

/-- A binary call without an error took its result from the first reply on its way. -/
theorem executeBinary_ensures (call : Calling τ Bytes) :
    (executeBinary codec serve id method params).Ensures call
      (fun _ call' => call'.error.code = 0 → ∃ request reply rest,
        codec.dump (requestOf id method params) = .ok request ∧
        (call.link.delivered serve (request, .kBinaryMessage)).pending = reply :: rest ∧
        call'.result = reply.1)
      (fun _ _ => True) := by
  -- A binary call parses nothing, so that its result is the reply itself.
  apply guarded_ensures
  · apply makeRequest_ensures.bind
    rintro _ _ ⟨request, dumped, rfl⟩
    apply (sendRequest_ensures serve .kBinaryMessage _).bind
    intro sent call₁ passed
    cases sent with
    | false => exact Program.ensures_pure fun success => absurd success passed
    | true =>
      rw [if_pos rfl] at passed ⊢
      subst passed
      apply (receiveResponse_ensures (fun contents call => { call with result := contents }) _
        fun _ _ => rfl).bind
      intro obtained call₂ met
      cases obtained with
      | false => exact Program.ensures_pure fun success => absurd success met
      | true =>
        rw [if_pos rfl] at met
        -- The contents of the reply were written into the result.
        obtain ⟨reply, rest, waiting, rfl⟩ := met
        exact Program.ensures_pure fun _ => ⟨request, reply, rest, dumped, waiting, rfl⟩

/-- On an idle link, the first reply on its way is the answer to the request just sent. -/
theorem answer_of_idle (once : AnswersOnce serve) {link : Link τ} (idle : link.pending = [])
    {message reply : LinkMessage} {rest : List LinkMessage}
    (waiting : (link.delivered serve message).pending = reply :: rest) :
    (serve link.server message).1 = [reply] := by
  -- The server answers once, and on an idle link nothing is in front of the answer.
  obtain ⟨answer, answered⟩ := once link.server message
  rw [Link.delivered, idle, answered] at waiting
  simp only [List.nil_append, List.cons.injEq] at waiting
  rw [answered, waiting.1]

/-- A call that begins on an idle link is paired. -/
theorem Exchange.paired_of_idle (once : AnswersOnce serve) {exchange : Exchange τ}
    (executed : exchange.Executed codec serve) (idle : exchange.Idle) :
    exchange.Paired codec serve := by
  intro success
  -- Nothing was on its way before the call, so the reply that came is the one to this request.
  cases exchange with
  | json id method params before after =>
    obtain ⟨request, reply, rest, response, dumped, waiting, parsed, result⟩ :=
      (executeJson_ensures before).yields executed success
    exact ⟨reply, ⟨request, dumped, answer_of_idle once idle waiting⟩, response, parsed, result⟩
  | binary id method params before after =>
    obtain ⟨request, reply, rest, dumped, waiting, result⟩ :=
      (executeBinary_ensures before).yields executed success
    exact ⟨reply, ⟨request, dumped, answer_of_idle once idle waiting⟩, result⟩

end Calls

/-- In a run whose every call begins on an idle link, every call is paired. -/
theorem session_paired (codec : Codec) {serve : Server τ} (once : AnswersOnce serve)
    {client : Link τ × Bytes} {exchanges : List (Exchange τ)}
    (session : Session codec serve client exchanges)
    (idle : ∀ exchange ∈ exchanges, exchange.Idle) :
    ∀ exchange ∈ exchanges, exchange.Paired codec serve := by
  -- The induction is on the run, whose first call begins on an idle link.
  induction session with
  | finished client => simp
  | called executed rest ih =>
    rename_i exchange later
    intro exchange' member
    rcases List.mem_cons.mp member with rfl | member
    · exact Exchange.paired_of_idle once executed (idle _ (by simp))
    · exact ih (fun e later => idle e (by simp [later])) exchange' member

section Late

/-- A server that answers with the number of the request, and a library that only writes. -/
def counting : Server UInt8 := fun count _ => ([([count], .kBinaryMessage)], count + 1)
def writing : Codec := .printing (fun _ => []) []

/-- The text of a request. -/
def lookText : Bytes := Json.print (fun _ => []) (requestOf [] (ascii "look") .null)

/-- The counting server answers every request once. -/
theorem counting_once : AnswersOnce counting := fun _ _ => ⟨_, rfl⟩

/-- The request to look is written as its text. -/
theorem dump_look : writing.dump (requestOf [] (ascii "look") .null) = .ok lookText := by
  have encoded : (requestOf [] (ascii "look") .null).wellEncoded = true :=
    wellEncoded_requestOf rfl (Json.isUtf8_of_plain (by decide)) rfl
  simp [writing, Codec.printing, encoded, lookText]

/-- A client before its first call, where the first reply is late. -/
def unlucky : Calling UInt8 Bytes where
  link := {
    server := 0
    pending := []
    sends := Stream'.const (.ok true)
    arrivals := Stream'.cons (.missed .timeOut []) (Stream'.const .arrived)
    recvStatus := .kRecvText
  }
  buffer := []
  result := []
  error := .fresh

/-- The client after a call that timed out, and before the next call. -/
def timedOut : Calling UInt8 Bytes where
  link := (unlucky.link.delivered counting (lookText, .kBinaryMessage)).missed .timeOut
  buffer := lookText
  result := []
  error := missError .timeOut

def retrying : Calling UInt8 Bytes := { timedOut with error := .fresh }

/-- The client after the next call, which met the late reply. -/
def confused : Calling UInt8 Bytes where
  link := (retrying.link.delivered counting (lookText, .kBinaryMessage)).received
    ([0], .kBinaryMessage) [([1], .kBinaryMessage)]
  buffer := lookText
  result := [0]
  error := .fresh

/-- A call that times out makes the next call take the wrong answer. -/
theorem late_reply_mispairs :
    Session writing counting (unlucky.link, unlucky.buffer)
      [.binary [] (ascii "look") .null unlucky timedOut,
        .binary [] (ascii "look") .null retrying confused] ∧
    ¬ (Exchange.binary [] (ascii "look") .null retrying confused).Paired writing counting := by
  constructor
  · -- The first call misses its reply, which stays on the link and is met by the second.
    have first : (Exchange.binary [] (ascii "look") .null unlucky timedOut).Executed writing
        counting := executeBinary_missed counting dump_look rfl rfl
    have second : (Exchange.binary [] (ascii "look") .null retrying confused).Executed writing
        counting := executeBinary_yields counting dump_look rfl rfl rfl
    exact .called first (.called second (.finished _))
  · intro paired
    obtain ⟨answer, ⟨request, -, answered⟩, result⟩ := paired rfl
    -- The answer to the second request has the number of that request.
    have own : answer = ([1], .kBinaryMessage) := by
      have one : (counting retrying.link.server (request, .kBinaryMessage)).1 =
          [([1], .kBinaryMessage)] := rfl
      rw [one] at answered
      exact (List.cons.inj answered).1.symm
    rw [own] at result
    have zero : ([0] : Bytes) = [1] := result
    exact absurd zero (by decide)

/-- A client before a call whose reply is in time, and after it. -/
def lucky : Calling UInt8 Bytes :=
  { unlucky with link := { unlucky.link with arrivals := Stream'.const .arrived } }

def answeredInTime : Calling UInt8 Bytes where
  link := (lucky.link.delivered counting (lookText, .kBinaryMessage)).received
    ([0], .kBinaryMessage) []
  buffer := lookText
  result := [0]
  error := .fresh

/-- The client before its second call, and after it. -/
def asking : Calling UInt8 Bytes := { answeredInTime with result := [], error := .fresh }

def answeredAgain : Calling UInt8 Bytes where
  link := (asking.link.delivered counting (lookText, .kBinaryMessage)).received
    ([1], .kBinaryMessage) []
  buffer := lookText
  result := [1]
  error := .fresh

/-- The two calls of a client whose replies are in time. -/
def inTime : List (Exchange UInt8) :=
  [.binary [] (ascii "look") .null lucky answeredInTime,
    .binary [] (ascii "look") .null asking answeredAgain]

/-- The rule for a run of two calls, whose results differ although their requests do not. -/
theorem session_paired_lucky :
    Session writing counting (lucky.link, lucky.buffer) inTime ∧
      (Exchange.binary [] (ascii "look") .null lucky answeredInTime).Paired writing counting ∧
      (Exchange.binary [] (ascii "look") .null asking answeredAgain).Paired writing counting ∧
      answeredInTime.error.code = 0 ∧ answeredInTime.result = [0] ∧
      answeredAgain.error.code = 0 ∧ answeredAgain.result = [1] := by
  have first : (Exchange.binary [] (ascii "look") .null lucky answeredInTime).Executed writing
      counting := executeBinary_yields counting dump_look rfl rfl rfl
  have second : (Exchange.binary [] (ascii "look") .null asking answeredAgain).Executed writing
      counting := executeBinary_yields counting dump_look rfl rfl rfl
  have session : Session writing counting (lucky.link, lucky.buffer) inTime :=
    .called first (.called second (.finished _))
  -- The first reply is taken before the second request is sent.
  have idle : ∀ exchange ∈ inTime, exchange.Idle := by
    intro exchange member
    rcases List.mem_pair.mp member with rfl | rfl
    · rfl
    · rfl
  have paired := session_paired writing counting_once session idle
  refine ⟨session, paired _ ?_, paired _ ?_, rfl, rfl, rfl, rfl⟩
  · exact List.mem_pair.mpr (.inl rfl)
  · exact List.mem_pair.mpr (.inr rfl)

end Late

end Rcom
