import Librcom.Registry.ProxyLaws

/-! The replies of the registry server, which are written by hand, as JSON texts. -/

namespace Rcom

open Effects
open Json (ascii Value Codec FlatMember isBare flatText flatValue IsFlat)
open RegistryServer RegistryProxy

/-- The handling of one message: the registry before it, and what was sent. -/
structure HandledMessage where
  before : Registry
  message : Bytes
  sent : List (Bytes × MessageType)

/-- A run of the server from a registry without topics, by the messages it handled. -/
inductive ServerRun (host : Host) (codec : Codec) : Registry → List HandledMessage → Prop
  | started : ServerRun host codec Registry.empty []
  | handled {registry : Registry} {earlier : List HandledMessage} (run : ServerRun host codec registry earlier)
      (message : Bytes) :
      ServerRun host codec (handle host codec registry message).registry
        ({ before := registry
           message := message
           sent := (handle host codec registry message).sent } :: earlier)

namespace HandledMessage

variable (host : Host) (codec : Codec)

/--
One reply was sent, which is read as an object that tells of success.

The reply to a lookup of a registered topic has the topic and its address.
-/
def IsWellFormed (handling : HandledMessage) : Prop :=
  ∃ reply response, handling.sent = [(reply, .kTextMessage)] ∧ codec.parse reply = .ok response ∧
    (∃ success, response.member? kSuccess = some (.boolean success)) ∧
    ∀ topic address, effect host codec handling.message = .lookedUp topic →
      handling.before.get topic = some address →
      response.member? kTopic = some (.string topic) ∧
        response.member? kAddress = some (.string address.tostring)

/-- What the reply quotes needs no escapes: the exception of a message that is no JSON text, or a registered topic. -/
def QuotesBare (handling : HandledMessage) : Prop :=
  (∀ what, codec.parse handling.message = .error what → isBare what = true) ∧
  ∀ topic address, effect host codec handling.message = .lookedUp topic →
    handling.before.get topic = some address → isBare topic = true

variable {host codec}

/-- A reply that is no JSON text is not well formed. -/
theorem not_isWellFormed {before : Registry} {message reply what : Bytes}
    {sent : List (Bytes × MessageType)} (replied : sent = [(reply, .kTextMessage)])
    (unread : codec.parse reply = .error what) :
    ¬ IsWellFormed host codec ⟨before, message, sent⟩ := by
  rintro ⟨reply', response, replied', parsed, -⟩
  obtain rfl : reply' = reply := by simpa [replied] using replied'.symm
  rw [unread] at parsed
  cases parsed

end HandledMessage

section Complaints

/-- A text of plain characters but quotation marks and backslashes. -/
def isUnescaped (text : Bytes) : Bool :=
  text.all fun byte => 32 ≤ byte && byte < 0x80 && byte != 34 && byte != 92

/-- Two texts in a row need no escapes if each of them needs none. -/
theorem isUnescaped_append (first second : Bytes) :
    isUnescaped (first ++ second) = (isUnescaped first && isUnescaped second) := by
  simp [isUnescaped]

/-- The bytes of two texts in a row. -/
theorem ascii_append (first second : String) : ascii (first ++ second) = ascii first ++ ascii second := by
  simp [ascii, String.toList_append]

/-- The text of an exception about a kind of value needs no escapes. -/
theorem isBare_typeError {number message : String} (number_plain : isUnescaped (ascii number) = true)
    (message_plain : isUnescaped (ascii message) = true) {path : List Bytes}
    (path_plain : isUnescaped (Value.diagnostics path) = true) (value : Value) :
    isBare (Value.typeError number message path value) = true := by
  apply Json.isBare_of_plain
  have opening : isUnescaped (ascii "[json.exception.type_error.") = true := by decide
  have closing : isUnescaped (ascii "] ") = true := by decide
  -- The names of the kinds are words.
  have name : isUnescaped (ascii value.typeName) = true := by
    cases value <;> (rw [Value.typeName]; decide)
  show isUnescaped (_ ++ _ ++ _) = true
  simp only [ascii_append, isUnescaped_append, opening, number_plain, closing, message_plain,
    path_plain, name, Bool.and_self]

/-- What is said of a value that is no string can stand between quotation marks. -/
theorem isBare_of_asString {path : List Bytes} (path_plain : isUnescaped (Value.diagnostics path) = true)
    {value : Value} {what : Bytes} (failed : value.asString path = .error what) :
    isBare what = true := by
  have told : what = Value.typeError "302" "type must be string, but is " path value := by
    cases value <;> simp_all [Value.asString]
  rw [told]
  exact isBare_typeError (by decide) (by decide) path_plain value

/-- The exception about a member that is not a string needs no escapes, unless its key does. -/
theorem isBare_of_stringAt {key what : Bytes} {value : Value}
    (key_plain : isUnescaped (Value.diagnostics [key]) = true)
    (failed : value.stringAt key = .error what) : isBare what = true := by
  -- The member is missing from a value that is no object, or it is there and is no string.
  cases indexed : value.index key with
  | error told =>
    have same : what = told := by simp_all [Value.stringAt, bind, Except.bind]
    have typed : told =
        Value.typeError "305" "cannot use operator[] with a string argument with " [] value := by
      cases value <;> simp_all [Value.index]
    rw [same, typed]
    exact isBare_typeError (by decide) (by decide) rfl value
  | ok member =>
    have unread : member.asString [key] = .error what := by
      simpa [Value.stringAt, indexed, bind, Except.bind] using failed
    exact isBare_of_asString key_plain unread

/-- The reason why nothing was made of a request needs no escapes. -/
theorem isBare_of_effectOf {host : Host} {request : Value} {what : Bytes}
    (failed : effectOf host request = .failed what) : isBare what = true := by
  -- The reason comes from the library, or it is a text of the server's own.
  unfold effectOf at failed
  split at failed
  · rename_i told asked
    cases failed
    exact isBare_of_stringAt (by decide) asked
  · split at failed
    · -- A failed registration, removal or look-up is told by a text without quotation marks.
      unfold registerEffect at failed
      split at failed
      · cases failed
      · cases failed
        exact Json.isBare_of_plain (by decide)
    · split at failed
      · unfold unregisterEffect at failed
        split at failed
        · cases failed
        · cases failed
          exact Json.isBare_of_plain (by decide)
      · split at failed
        · unfold getEffect at failed
          split at failed
          · cases failed
          · rename_i named
            cases failed
            exact isBare_of_stringAt (by decide) named
        · cases failed
          exact Json.isBare_of_plain (by decide)

end Complaints

section Runs

variable {host : Host} {codec : Codec} {ip : UInt32}

/-- A flat reply tells of success. -/
theorem member?_success {members : List FlatMember} (flat : IsFlat members) (success : Bool)
    (among : FlatMember.mk kSuccess false (.inr success) ∈ members) :
    ∃ told, (flatValue members).member? kSuccess = some (.boolean told) :=
  ⟨success, member?_flatValue flat.distinct _ among⟩

/-- A message whose quotation needs no escapes gets a well-formed reply. -/
theorem handle_wellFormed (hosted : host.localIp = .ok ip) (reads : codec.ReadsFlat)
    {registry : Registry} {message : Bytes}
    (bare : HandledMessage.QuotesBare host codec
      ⟨registry, message, (handle host codec registry message).sent⟩) :
    HandledMessage.IsWellFormed host codec
      ⟨registry, message, (handle host codec registry message).sent⟩ := by
  obtain ⟨registry', reply, handled, -, answers⟩ := handle_eq codec hosted registry message
  rw [handled] at bare ⊢
  -- The reply to what was done quotes nothing, unless it is the reply to a lookup.
  have plain_reply : reply = successReply →
      (∀ topic address, effect host codec message = .lookedUp topic →
        registry.get topic ≠ some address) →
      HandledMessage.IsWellFormed host codec ⟨registry, message, [(reply, .kTextMessage)]⟩ := by
    intro same unregistered
    refine ⟨reply, flatValue successMembers, rfl, ?_, ?_, ?_⟩
    · rw [same, successReply_eq, reads _ isFlat_successMembers]
    · exact member?_success isFlat_successMembers true (List.mem_singleton.mpr rfl)
    · intro topic address looked registered
      exact absurd registered (unregistered topic address looked)
  cases made : effect host codec message with
  | mapped topic address =>
    rw [made] at answers
    exact plain_reply answers (by simp [made])
  | removed topic =>
    rw [made] at answers
    exact plain_reply answers (by simp [made])
  | lookedUp topic =>
    -- Only the reply to a lookup that finds its topic quotes the topic.
    rw [made] at answers
    cases registered : registry.get topic with
    | none =>
      simp only [Effect.Answers, registered] at answers
      refine plain_reply answers fun topic' address looked found => ?_
      obtain rfl : topic = topic' := by simpa [made] using looked
      rw [registered] at found
      cases found
    | some address =>
      simp only [Effect.Answers, registered] at answers
      have flat := isFlat_addressMembers (bare.2 topic address made registered) address
      refine ⟨reply, flatValue (addressMembers topic address), rfl, ?_, ?_, ?_⟩
      · rw [answers, addressReply_eq (bare.2 topic address made registered), reads _ flat]
      · exact member?_success flat true (by simp [addressMembers])
      · intro topic' address' looked registered'
        obtain rfl : topic = topic' := by simpa [made] using looked
        obtain rfl : address = address' := by simpa [registered] using registered'
        exact ⟨member?_flatValue flat.distinct ⟨kTopic, true, .inl topic⟩ (by simp [addressMembers]),
          member?_flatValue flat.distinct ⟨kAddress, true, .inl address.tostring⟩
            (by simp [addressMembers])⟩
  | failed what =>
    rw [made] at answers
    -- The reason is an exception of the parser, or one about a request.
    have told_bare : isBare what = true := by
      unfold effect at made
      split at made
      · exact isBare_of_effectOf made
      · rename_i told parsed
        cases made
        exact bare.1 _ parsed
    -- The reason can be quoted as it is.
    have flat := isFlat_failMembers told_bare
    refine ⟨reply, flatValue (failMembers what), rfl, ?_, ?_, ?_⟩
    · rw [show reply = failReply what from answers, failReply_eq told_bare, reads _ flat]
    · exact member?_success flat false (by simp [failMembers])
    · intro topic address looked
      rw [made] at looked
      cases looked

/-- In a run where what the replies quote needs no escapes, every reply is well formed. -/
theorem serverRun_wellFormed (hosted : host.localIp = .ok ip) (reads : codec.ReadsFlat)
    {registry : Registry} {history : List HandledMessage} (run : ServerRun host codec registry history)
    (bare : ∀ handling ∈ history, handling.QuotesBare host codec) :
    ∀ handling ∈ history, handling.IsWellFormed host codec := by
  induction run with
  | started => simp
  | handled run message ih =>
    intro handling among
    -- The history has its latest message in front.
    rcases List.mem_cons.mp among with rfl | earlier
    · exact handle_wellFormed hosted reads (bare _ List.mem_cons_self)
    · exact ih (fun other before => bare other (List.mem_cons_of_mem _ before)) handling earlier

/-- The handling of a request that is read as such quotes at most its topic. -/
theorem quotesBare_of_parse {registry : Registry} {message topic : Bytes} {request : Value}
    {sent : List (Bytes × MessageType)} (parsed : codec.parse message = .ok request)
    (bare : isBare topic = true)
    (named : ∀ topic', effect host codec message = .lookedUp topic' → topic' = topic) :
    HandledMessage.QuotesBare host codec ⟨registry, message, sent⟩ := by
  constructor
  · -- A message that parses has no error to be quoted.
    intro what failed
    simp [parsed] at failed
  · intro topic' address looked _
    rw [named topic' looked]
    exact bare

/-- The replies to one message that registers a topic, and to one that looks it up, are well formed. -/
theorem serverRun_wellFormed_alpha : ∃ registry history,
    ServerRun .dotted (Codec.flat (fun _ => []) []) registry history ∧ history.length = 2 ∧
      ∀ handling ∈ history, handling.IsWellFormed .dotted (Codec.flat (fun _ => []) []) := by
  have reads := Codec.flat_readsFlat (fun _ => []) []
  have bare : isBare (ascii "alpha") = true := isBare_of_isValidTopic (by decide)
  have set : Address.isSet ⟨16777343, 80⟩ = true := by decide
  have run := ((ServerRun.started : ServerRun .dotted (Codec.flat (fun _ => []) []) _ _).handled
    (registerRequest (ascii "alpha") ⟨16777343, 80⟩)).handled (getRequest (ascii "alpha"))
  refine ⟨_, _, run, rfl, serverRun_wellFormed rfl reads run ?_⟩
  intro handling among
  simp only [List.mem_cons, List.not_mem_nil, or_false] at among
  rcases among with rfl | rfl
  · apply quotesBare_of_parse (by rw [getRequest_eq bare]; exact reads _ (isFlat_getMembers bare)) bare
    intro topic' looked
    rw [effect_getRequest reads bare] at looked
    cases looked
    rfl
  · apply quotesBare_of_parse
      (by rw [registerRequest_eq bare]; exact reads _ (isFlat_registerMembers bare _)) bare
    intro topic' looked
    rw [effect_registerRequest reads bare set] at looked
    cases looked

end Runs

section Quotation

/-- A topic with a quotation mark in it. -/
def quotedTopic : Bytes := ascii "a\"b"

/-- The address that the topic is registered with. -/
def quotedAddress : Address := ⟨16777343, 80⟩

/-- The text of a value, with spaces before it. -/
def indented (count : Nat) (value : Value) : Bytes :=
  List.replicate count 32 ++ Json.print (fun _ => []) value

/-- A message that registers the topic. -/
def quotedRegister : Bytes := indented 1 (flatValue (registerMembers quotedTopic quotedAddress))

/-- A message that looks up the topic. -/
def quotedGet : Bytes := indented 2 (flatValue (getMembers quotedTopic))

/-- A library that reads the two messages. -/
def quotedCodec : Codec :=
  Codec.flat (fun _ => []) [
    (quotedRegister, flatValue (registerMembers quotedTopic quotedAddress)),
    (quotedGet, flatValue (getMembers quotedTopic))]

/-- A bare text is UTF-8. -/
theorem isUtf8_of_isBare {text : Bytes} (bare : isBare text = true) : Json.isUtf8 text = true := by
  simp only [isBare, Bool.and_eq_true] at bare
  exact bare.1

/-- The topic with a quotation mark is UTF-8. -/
theorem quotedTopic_isUtf8 : Json.isUtf8 quotedTopic = true := Json.isUtf8_of_plain (by decide)

/-- The library reads the request to register the topic. -/
theorem parse_quotedRegister : quotedCodec.parse quotedRegister =
    .ok (flatValue (registerMembers quotedTopic quotedAddress)) := by
  have unread : Json.readFlat quotedRegister = none := by rfl
  have encoded : (flatValue (registerMembers quotedTopic quotedAddress)).wellEncoded = true := by
    apply Json.wellEncoded_flatValue _ (distinct_registerMembers _ _)
    intro member among
    simp only [registerMembers, List.mem_cons, List.not_mem_nil, or_false] at among
    rcases among with rfl | rfl | rfl
    · exact ⟨isUtf8_of_isBare bare_kRequest, isUtf8_of_isBare bare_kRegister⟩
    · exact ⟨isUtf8_of_isBare bare_kTopic, quotedTopic_isUtf8⟩
    · exact ⟨isUtf8_of_isBare bare_kAddress, isUtf8_of_isBare (isBare_tostring _)⟩
  have new : ∀ entry ∈ ([] : List (Bytes × Value)), entry.1 ≠ quotedRegister := by simp
  have known := Codec.parse_printing (fun _ => []) []
    [(quotedGet, flatValue (getMembers quotedTopic))] new encoded
  simpa [quotedCodec, Codec.flat, unread] using known

/-- The library reads the request to look the topic up. -/
theorem parse_quotedGet :
    quotedCodec.parse quotedGet = .ok (flatValue (getMembers quotedTopic)) := by
  have unread : Json.readFlat quotedGet = none := by rfl
  have encoded : (flatValue (getMembers quotedTopic)).wellEncoded = true := by
    apply Json.wellEncoded_flatValue _ (distinct_getMembers _)
    intro member among
    simp only [getMembers, List.mem_cons, List.not_mem_nil, or_false] at among
    rcases among with rfl | rfl
    · exact ⟨isUtf8_of_isBare bare_kRequest, isUtf8_of_isBare bare_kGet⟩
    · exact ⟨isUtf8_of_isBare bare_kTopic, quotedTopic_isUtf8⟩
  -- The other text that the codec knows is a different one.
  have new : ∀ entry ∈ [(quotedRegister, flatValue (registerMembers quotedTopic quotedAddress))],
      entry.1 ≠ quotedGet := by
    intro entry among
    rw [List.mem_singleton.mp among]
    simp [quotedRegister, quotedGet, indented, flatValue, Json.print, ascii, List.replicate]
  have known := Codec.parse_printing (fun _ => []) _ [] new encoded
  simpa [quotedCodec, Codec.flat, unread] using known

/-- The reply to the lookup is no JSON text. -/
theorem parse_quotedReply : quotedCodec.parse (addressReply quotedTopic quotedAddress) =
    .error (ascii "syntax error while parsing value") := by
  have unread : Json.readFlat (addressReply quotedTopic quotedAddress) = none := by decide
  have begins : ∃ rest, addressReply quotedTopic quotedAddress = 123 :: rest := ⟨_, rfl⟩
  obtain ⟨rest, begins⟩ := begins
  rw [begins] at unread ⊢
  simp [quotedCodec, Codec.flat, unread, Codec.printing, quotedRegister, quotedGet, indented,
    List.replicate]

/-- The reply to the lookup of a topic with a quotation mark is not well formed. -/
theorem quoted_reply_malformed : quotedCodec.ReadsFlat ∧ ∃ registry history,
    ServerRun .dotted quotedCodec registry history ∧
      ∃ handling ∈ history, ¬ handling.IsWellFormed .dotted quotedCodec := by
  -- The topic is registered by one message, and looked up by the next.
  have hosted : Host.dotted.localIp = .ok 16777343 := rfl
  have registered_effect : effect .dotted quotedCodec quotedRegister = .mapped quotedTopic quotedAddress := by
    rw [effect, parse_quotedRegister]
    exact effectOf_registerMembers _ _ (by decide)
  have get_effect : effect .dotted quotedCodec quotedGet = .lookedUp quotedTopic := by
    rw [effect, parse_quotedGet]
    exact effectOf_getMembers _ _
  have registered := @handle_mapped _ _ _ hosted Registry.empty _ _ _ registered_effect
  have sent := handle_lookedUp hosted get_effect registered
  have run := ((ServerRun.started : ServerRun .dotted quotedCodec _ _).handled quotedRegister).handled
    quotedGet
  refine ⟨Codec.flat_readsFlat _ _, _, _, run, _, List.mem_cons_self, ?_⟩
  exact HandledMessage.not_isWellFormed sent parse_quotedReply

end Quotation

end Rcom
