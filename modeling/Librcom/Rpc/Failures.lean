import Librcom.Rpc.Transparency

/-! The bad replies that a text call reports, and those that it takes for a success. -/

namespace Rcom

open Effects
open Json (ascii Value Codec isUtf8)

namespace RcomClient

/-- The value is a number other than zero. -/
def IsFailureCode : Value → Prop
  | .integer value => value ≠ 0
  | .float value => value ≠ 0
  | _ => False

/--
The value is a number that is zero when it is taken as a code.

A whole number loses all but its last sixteen bits, and a number with a point loses what is behind the point. What is
left of a number with a point that has no place in sixteen bits is up to the machine.
-/
def LosesCode (codec : Codec) : Value → Prop
  | .integer value => 2 ^ 16 ∣ value
  | .float value =>
    if -2 ^ 15 ≤ Value.whole value ∧ Value.whole value < 2 ^ 15 then Value.whole value = 0
    else codec.narrow value = 0
  | _ => False

/-- The reply is no JSON text, or no object, or it has an error with a code other than zero. -/
inductive BadReply (codec : Codec) (reply : Bytes) : Prop
  | unparsed {what : Bytes} : codec.parse reply = .error what → BadReply codec reply
  | other {response : Value} : codec.parse reply = .ok response →
    (∀ members, response ≠ .object members) → BadReply codec reply
  | failed {response member code : Value} : codec.parse reply = .ok response →
    response.member? kError = some member → member.member? kErrorCode = some code →
    IsFailureCode code → BadReply codec reply

/--
The reply is no JSON text, or it has an error which either has a code that is not lost when it is taken, or has no
string for its message.
-/
inductive Noticeable (codec : Codec) (reply : Bytes) : Prop
  | unparsed {what : Bytes} : codec.parse reply = .error what → Noticeable codec reply
  | failed {response member code : Value} : codec.parse reply = .ok response →
    response.member? kError = some member → member.member? kErrorCode = some code →
    (LosesCode codec code → ∀ text, member.member? kErrorMessage ≠ some (.string text)) →
    Noticeable codec reply

/-- The request of the call is passed on, and the given bytes are the first reply on its way. -/
structure Replied {τ : Type} (codec : Codec) (serve : Server τ) (call : Calling τ Value)
    (id method : Bytes) (params : Value) (reply : Bytes) : Prop where
  sent : call.link.sends.head = .ok true
  arrives : call.link.arrivals.head = .arrived
  waiting : ∃ serialised type rest, codec.dump (requestOf id method params) = .ok serialised ∧
    (call.link.delivered serve (serialised, .kTextMessage)).pending = (reply, type) :: rest

/-- Nothing is left of a whole number exactly if it is a multiple of 65536. -/
theorem ofInt_eq_zero {value : Int} : Int16.ofInt value = 0 ↔ (2 ^ 16 : Int) ∣ value := by
  -- The sixteen bits of a number are zero exactly when it is a multiple of their range.
  rw [← Int16.toInt_inj, Int16.toInt_ofInt]
  exact Int.dvd_iff_bmod_eq_zero.symm

/-- A small number is zero in sixteen bits only if it is zero. -/
theorem ofInt_eq_zero_of_small {value : Int} (low : -2 ^ 15 ≤ value) (high : value < 2 ^ 15) :
    Int16.ofInt value = 0 ↔ value = 0 := by
  rw [ofInt_eq_zero]
  omega

/-- A number is taken as a code, which is zero exactly if the number is lost. -/
theorem errorCodeOf_number (codec : Codec) {member code : Value}
    (found : member.member? kErrorCode = some code) (number : IsFailureCode code) :
    ∃ taken, errorCodeOf codec member = .ok taken ∧ (taken = 0 ↔ LosesCode codec code) := by
  -- The member is taken from the object, and then narrowed as the kind of number asks.
  have taken := Value.index_of_member found
  unfold errorCodeOf
  rw [taken]
  cases code with
  | integer value => exact ⟨_, rfl, ofInt_eq_zero⟩
  | float value =>
    -- Only a number that has a place in sixteen bits is converted as the language says.
    by_cases small : -2 ^ 15 ≤ Value.whole value ∧ Value.whole value < 2 ^ 15
    · refine ⟨Int16.ofInt (Value.whole value), if_pos small, ?_⟩
      rw [LosesCode, if_pos small]
      exact ofInt_eq_zero_of_small small.1 small.2
    · refine ⟨codec.narrow value, if_neg small, ?_⟩
      rw [LosesCode, if_neg small]
  | _ => exact number.elim

/-- After a fresh error, the code of a number is zero only if it is lost, and the message is there. -/
theorem errorAfter_code (codec : Codec) {response member code : Value}
    (refused : response.member? kError = some member)
    (found : member.member? kErrorCode = some code) (number : IsFailureCode code)
    (error : RPCError) :
    (errorAfter codec response error).code = 0 ↔
      LosesCode codec code ∧ ∃ text, member.member? kErrorMessage = some (.string text) := by
  obtain ⟨taken, coded, lost⟩ := errorCodeOf_number codec found number
  have told (text : Bytes) : errorMessageOf member = .ok text ↔
      member.member? kErrorMessage = some (.string text) := Value.stringAt_ok
  -- Both members have to be taken before the error is set, and the message comes second.
  simp only [← told, errorAfter, refused, errorOf, coded]
  cases errorMessageOf member with
  | ok text => simp [lost]
  | error what => simp [parsingFailed, RPCError.kParseError]

/--
A text call that starts with a fresh error and gets a bad reply ends with a code other than zero if
and only if the client can notice the failure.
-/
theorem executeJson_reports_iff {τ : Type} {codec : Codec} {serve : Server τ}
    {call : Calling τ Value} {id method reply : Bytes} {params : Value}
    (replied : Replied codec serve call id method params reply) (fresh : call.error = .fresh)
    (bad : BadReply codec reply) :
    (∃ call', (executeJson codec serve id method params).Yields call () call' ∧
      call'.error.code ≠ 0) ↔ Noticeable codec reply := by
  obtain ⟨serialised, type, rest, dumped, waiting⟩ := replied.waiting
  -- Either the reply does not parse, or the error that it leaves is decided by its members.
  cases parsed : codec.parse reply with
  | error what =>
    have executed := executeJson_replied serve dumped replied.sent replied.arrives waiting
      (parseResponse_fails parsed)
    have reported : parsingFailed.code ≠ 0 := by decide
    exact ⟨fun _ => .unparsed parsed, fun _ => ⟨_, executed, reported⟩⟩
  | ok response =>
    have executed := executeJson_yields serve dumped replied.sent replied.arrives waiting parsed
    -- The call ends in one way only, so that its code is the one that the response leaves.
    have ends : (∃ call', (executeJson codec serve id method params).Yields call () call' ∧
        call'.error.code ≠ 0) ↔ (errorAfter codec response call.error).code ≠ 0 := by
      constructor
      · rintro ⟨call', returned, reported⟩
        have codes := congrArg (fun call => call.error.code) (executed.unique returned).2
        exact fun none => reported (codes.symm.trans none)
      · exact fun reported => ⟨_, executed, reported⟩
    rw [ends]
    cases bad with
    -- A reply that parsed is bad for another reason.
    | unparsed failed => cases failed.symm.trans parsed
    | @other response' parsed' noObject =>
      obtain rfl : response' = response := Except.ok.inj (parsed'.symm.trans parsed)
      have absent : response'.member? kError = none := by
        cases response' with
        | object members => exact absurd rfl (noObject members)
        | _ => rfl
      -- Nothing but an object has an error to be taken, so the fresh one stays.
      have kept : errorAfter codec response' call.error = call.error := by
        rw [errorAfter, absent]
      rw [kept, fresh]
      constructor
      · exact fun reported => absurd rfl reported
      · intro noticeable
        cases noticeable with
        -- What is noticeable in a response is a member for the error, which is absent here.
        | unparsed failed => cases failed.symm.trans parsed
        | failed parsed'' refused =>
          obtain rfl := Except.ok.inj (parsed''.symm.trans parsed)
          cases absent.symm.trans refused
    | @failed response' member code parsed' refused found number =>
      obtain rfl : response' = response := Except.ok.inj (parsed'.symm.trans parsed)
      have lost := errorAfter_code codec refused found number call.error
      constructor
      · intro reported
        -- A code that is not lost is noticed, and so is one without a message that could be taken.
        exact .failed parsed refused found fun loses text told => reported (lost.mpr ⟨loses, text, told⟩)
      · intro noticeable none
        obtain ⟨loses, text, told⟩ := lost.mp none
        -- The members of an object are found in one way only, so that both speak of the same code.
        cases noticeable with
        | unparsed failed => cases failed.symm.trans parsed
        | failed parsed'' refused' found' noticed =>
          obtain rfl := Except.ok.inj (parsed''.symm.trans parsed)
          obtain rfl := Option.some.inj (refused'.symm.trans refused)
          obtain rfl := Option.some.inj (found'.symm.trans found)
          exact noticed loses text told

/-- A response that refuses a call with the given code. -/
def refusal (code : Int) : Value :=
  .object [(kError, .object [(kErrorCode, .integer code), (kErrorMessage, .string (ascii "no"))])]

/-- The text of a value. -/
def textOf (value : Value) : Bytes := Json.print (fun _ => []) value

/-- A library that reads the value from its text. -/
def reading (value : Value) : Codec := .printing (fun _ => []) [(textOf value, value)]

/-- A server that replies the value to every message. -/
def replying (value : Value) : Server (List Handling) :=
  fun server _ => ([(textOf value, .kTextMessage)], server)

/-- The library reads the text of the value. -/
theorem parse_reading {value : Value} (encoded : value.wellEncoded = true) :
    (reading value).parse (textOf value) = .ok value :=
  Codec.parse_printing (fun _ => []) [] [] (by simp) encoded

/-- A refusal can be serialised. -/
theorem wellEncoded_refusal (code : Int) : (refusal code).wellEncoded = true := by
  have error : isUtf8 kError = true := Json.isUtf8_of_plain (by decide)
  have code_key : isUtf8 kErrorCode = true := Json.isUtf8_of_plain (by decide)
  have message_key : isUtf8 kErrorMessage = true := Json.isUtf8_of_plain (by decide)
  have message : isUtf8 (ascii "no") = true := Json.isUtf8_of_plain (by decide)
  simp [refusal, error, code_key, message_key, message]

/-- A refusal has an error with its code and with a message. -/
theorem members_refusal (code : Int) : ∃ member, (refusal code).member? kError = some member ∧
    member.member? kErrorCode = some (.integer code) ∧
    member.member? kErrorMessage = some (.string (ascii "no")) := by
  have different : kErrorCode ≠ kErrorMessage := by decide
  simp [refusal, Value.member?, Value.lookup, different]

/-- The request is passed on, and the text of the value comes back. -/
theorem replied_replying (value : Value) :
    Replied (reading value) (replying value) ready (ascii "elmo") (ascii "jump") .null
      (textOf value) where
  sent := rfl
  arrives := rfl
  waiting := by
    -- The request is well encoded, so that the library writes it.
    have encoded : (requestOf (ascii "elmo") (ascii "jump") .null).wellEncoded = true :=
      wellEncoded_requestOf (Json.isUtf8_of_plain (by decide)) (Json.isUtf8_of_plain (by decide)) rfl
    obtain ⟨serialised, dumped⟩ := ((reading value).dump_ok _).mpr encoded
    exact ⟨serialised, .kTextMessage, [], dumped, rfl⟩

/-- A refusal with the code one is reported. -/
theorem executeJson_reports_iff_one : ∃ call',
    (executeJson (reading (refusal 1)) (replying (refusal 1)) (ascii "elmo") (ascii "jump")
      .null).Yields ready () call' ∧ call'.error.code ≠ 0 := by
  -- The code one is a number that sixteen bits keep.
  have parsed := parse_reading (wellEncoded_refusal 1)
  obtain ⟨member, refused, found, -⟩ := members_refusal 1
  have notLost : ¬ LosesCode (reading (refusal 1)) (.integer 1) := by
    show ¬ (2 ^ 16 : Int) ∣ 1
    decide
  refine (executeJson_reports_iff (replied_replying _) rfl (.failed parsed refused found ?_)).mpr
    (.failed parsed refused found fun loses => absurd loses notLost)
  exact one_ne_zero

/-- An array, and a refusal with a code that sixteen bits lose, are taken for a success. -/
theorem executeJson_reports_iff_fails :
    (BadReply (reading (.array [])) (textOf (.array [])) ∧ ∃ call',
      (executeJson (reading (.array [])) (replying (.array [])) (ascii "elmo") (ascii "jump")
        .null).Yields ready () call' ∧ call'.error.code = 0) ∧
    BadReply (reading (refusal 65536)) (textOf (refusal 65536)) ∧ ∃ call',
      (executeJson (reading (refusal 65536)) (replying (refusal 65536)) (ascii "elmo")
        (ascii "jump") .null).Yields ready () call' ∧ call'.error.code = 0 := by
  have array := parse_reading (by decide : (Value.array []).wellEncoded = true)
  have narrowed := parse_reading (wellEncoded_refusal 65536)
  obtain ⟨member, refused, found, told⟩ := members_refusal 65536
  have number : IsFailureCode (.integer 65536) := by
    show (65536 : Int) ≠ 0
    decide
  have loses : LosesCode (reading (refusal 65536)) (.integer 65536) := by
    show (2 ^ 16 : Int) ∣ 65536
    decide
  -- Either reply arrives and parses, so that the error is the one it leaves.
  have taken {value : Value} (parsed : (reading value).parse (textOf value) = .ok value) :
      ∃ call', (executeJson (reading value) (replying value) (ascii "elmo") (ascii "jump")
        .null).Yields ready () call' ∧ call'.error = errorAfter (reading value) value .fresh := by
    have replied := replied_replying value
    obtain ⟨serialised, type, rest, dumped, waiting⟩ := replied.waiting
    exact ⟨_, executeJson_yields _ dumped replied.sent replied.arrives waiting parsed, rfl⟩
  refine ⟨⟨.other array (by simp), ?_⟩, .failed narrowed refused found number, ?_⟩
  · -- The array has no error member, and the fresh error stays.
    obtain ⟨call', executed, error⟩ := taken array
    exact ⟨call', executed, by rw [error]; rfl⟩
  · obtain ⟨call', executed, error⟩ := taken narrowed
    -- The code of the refusal is a multiple of 65536, and its message is a string.
    refine ⟨call', executed, ?_⟩
    rw [error]
    exact (errorAfter_code _ refused found number .fresh).mpr ⟨loses, _, told⟩

end RcomClient

end Rcom
