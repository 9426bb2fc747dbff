import Librcom.Json.Flat
import Librcom.Registry.Proxy
import Librcom.Registry.ServerLaws

/-! The texts of requests and replies, as the flat objects that are read from them. -/

namespace Rcom

open Effects
open Json (ascii Value Codec FlatMember isBare flatText flatValue IsFlat)
open RegistryServer RegistryProxy

section Bareness

/-- A byte that is a letter, a digit, or a mark of an address or a topic needs no escape. -/
theorem plain_of_range {byte : UInt8} (small : 45 ≤ byte.toNat) (large : byte.toNat ≤ 58 ∨
    97 ≤ byte.toNat ∧ byte.toNat ≤ 122) :
    (32 ≤ byte && byte < 0x80 && byte != 34 && byte != 92) = true := by
  simp only [Bool.and_eq_true, decide_eq_true_eq, bne_iff_ne, ne_eq, UInt8.le_iff_toNat_le,
    UInt8.lt_iff_toNat_lt, ← UInt8.toNat_inj, UInt8.reduceToNat]
  omega

/-- A valid topic needs no escapes. -/
theorem isBare_of_isValidTopic {topic : Bytes} (valid : isValidTopic topic = true) :
    isBare topic = true := by
  apply Json.isBare_of_plain
  cases topic with
  | nil => rfl
  | cons first rest =>
    simp only [isValidTopic, Bool.and_eq_true, Bool.or_eq_true, decide_eq_true_eq, beq_iff_eq,
      List.all_eq_true, UInt8.le_iff_toNat_le, UInt8.reduceToNat, ← UInt8.toNat_inj] at valid
    -- The first byte is a letter, and the bytes behind it are letters and hyphens.
    obtain ⟨⟨leading, following⟩, -⟩ := valid
    rw [List.all_cons, plain_of_range (by omega) (.inr leading), Bool.true_and, List.all_eq_true]
    intro byte member
    rcases following byte member with letter | hyphen
    · exact plain_of_range (by omega) (.inr letter)
    · exact plain_of_range (by omega) (.inl (by omega))

/-- The text of an address can stand between quotation marks. -/
theorem isBare_tostring (address : Address) : isBare address.tostring = true := by
  apply Json.isBare_of_plain
  rw [List.all_eq_true]
  intro byte member
  -- An address is printed with digits, dots and a colon only.
  have mark := isAddressByte_tostring address byte member
  simp only [isAddressByte, Decimal.isDigit, Bool.and_eq_true, Bool.or_eq_true, decide_eq_true_eq,
    beq_iff_eq, UInt8.le_iff_toNat_le, UInt8.reduceToNat, ← UInt8.toNat_inj] at mark
  exact plain_of_range (by omega) (.inl (by omega))

/-- A bare text has no zero at which it is cut off. -/
theorem cString_of_isBare {text : Bytes} (bare : isBare text = true) : cString text = text :=
  cString_eq (Json.bare_no_null bare)

end Bareness

section Pieces

/-- The end of a text whose last value is a string. -/
theorem ascii_closing : ascii "\"\x7d" = [34, 125] := by rfl

/-- What stands between a topic and its address. -/
theorem ascii_behind : ascii "\", \"address\": \"" =
    34 :: 44 :: 32 :: FlatMember.quoted kAddress ++ [58, 32, 34] := by rfl

end Pieces

section Requests

def registerMembers (topic : Bytes) (address : Address) : List FlatMember :=
  [⟨kRequest, true, .inl kRegister⟩, ⟨kTopic, true, .inl topic⟩,
    ⟨kAddress, true, .inl address.tostring⟩]

def getMembers (topic : Bytes) : List FlatMember :=
  [⟨kRequest, true, .inl kGet⟩, ⟨kTopic, true, .inl topic⟩]

def unregisterMembers (topic : Bytes) : List FlatMember :=
  [⟨kRequest, true, .inl kUnregister⟩, ⟨kTopic, true, .inl topic⟩]

/-- The keys of a request to register differ. -/
theorem distinct_registerMembers (topic : Bytes) (address : Address) :
    ((registerMembers topic address).map FlatMember.key).Nodup := by
  -- The keys are told apart whatever the topic and the address are.
  show ([kRequest, kTopic, kAddress] : List Bytes).Nodup
  decide

/-- The keys of a request to look up differ. -/
theorem distinct_getMembers (topic : Bytes) :
    ((getMembers topic).map FlatMember.key).Nodup := by
  show ([kRequest, kTopic] : List Bytes).Nodup
  decide

/-- The keys of a request to unregister differ. -/
theorem distinct_unregisterMembers (topic : Bytes) :
    ((unregisterMembers topic).map FlatMember.key).Nodup := by
  show ([kRequest, kTopic] : List Bytes).Nodup
  decide

variable {topic : Bytes}

/-- A request to register is the text of its members. -/
theorem registerRequest_eq (bare : isBare topic = true) (address : Address) :
    registerRequest topic address = flatText (registerMembers topic address) := by
  -- What is printed before the topic is two members and the beginning of the third.
  have opening : ascii "\x7b\"request\": \"register\", \"topic\": \"" =
      123 :: (FlatMember.quoted kRequest ++ 58 :: 32 :: FlatMember.quoted kRegister ++ 44 :: 32 ::
        FlatMember.quoted kTopic ++ [58, 32, 34]) := by rfl
  rw [registerRequest, cString_of_isBare bare, cString_of_isBare (isBare_tostring address), opening,
    ascii_behind, ascii_closing]
  simp [flatText, Json.flatMembersText, FlatMember.text, FlatMember.valueText, FlatMember.quoted,
    registerMembers]

/-- A request to look up is the text of its members. -/
theorem getRequest_eq (bare : isBare topic = true) :
    getRequest topic = flatText (getMembers topic) := by
  have opening : ascii "\x7b\"request\": \"get\", \"topic\": \"" =
      123 :: (FlatMember.quoted kRequest ++ 58 :: 32 :: FlatMember.quoted kGet ++ 44 :: 32 ::
        FlatMember.quoted kTopic ++ [58, 32, 34]) := by rfl
  rw [getRequest, cString_of_isBare bare, opening, ascii_closing]
  simp [flatText, Json.flatMembersText, FlatMember.text, FlatMember.valueText, FlatMember.quoted,
    getMembers]

/-- A request to unregister is the text of its members. -/
theorem unregisterRequest_eq (bare : isBare topic = true) :
    unregisterRequest topic = flatText (unregisterMembers topic) := by
  have opening : ascii "\x7b\"request\": \"unregister\", \"topic\": \"" =
      123 :: (FlatMember.quoted kRequest ++ 58 :: 32 :: FlatMember.quoted kUnregister ++ 44 :: 32 ::
        FlatMember.quoted kTopic ++ [58, 32, 34]) := by rfl
  rw [unregisterRequest, cString_of_isBare bare, opening, ascii_closing]
  simp [flatText, Json.flatMembersText, FlatMember.text, FlatMember.valueText, FlatMember.quoted,
    unregisterMembers]

end Requests

section Replies

def successMembers : List FlatMember := [⟨kSuccess, false, .inr true⟩]

def addressMembers (topic : Bytes) (address : Address) : List FlatMember :=
  [⟨kSuccess, false, .inr true⟩, ⟨kTopic, true, .inl topic⟩,
    ⟨kAddress, true, .inl address.tostring⟩]

def failMembers (message : Bytes) : List FlatMember :=
  [⟨kSuccess, false, .inr false⟩, ⟨kFailMessage, false, .inl message⟩]

/-- A reply of success is the text of its member. -/
theorem successReply_eq : successReply = flatText successMembers := by rfl

/-- A reply with an address is the text of its members. -/
theorem addressReply_eq {topic : Bytes} (bare : isBare topic = true) (address : Address) :
    addressReply topic address = flatText (addressMembers topic address) := by
  -- Before the topic, the reply has its success, which is no string.
  have opening : ascii "\x7b\"success\":true, \"topic\": \"" =
      123 :: (FlatMember.quoted kSuccess ++ 58 :: ascii "true" ++ 44 :: 32 ::
        FlatMember.quoted kTopic ++ [58, 32, 34]) := by rfl
  rw [addressReply, cString_of_isBare bare, cString_of_isBare (isBare_tostring address), opening,
    ascii_behind, ascii_closing]
  simp [flatText, Json.flatMembersText, FlatMember.text, FlatMember.valueText, FlatMember.quoted,
    addressMembers]

/-- A reply of failure is the text of its members. -/
theorem failReply_eq {message : Bytes} (bare : isBare message = true) :
    failReply message = flatText (failMembers message) := by
  have opening : ascii "\x7b\"success\":false, \"message\":\"" =
      123 :: (FlatMember.quoted kSuccess ++ 58 :: ascii "false" ++ 44 :: 32 ::
        FlatMember.quoted kFailMessage ++ [58, 34]) := by rfl
  rw [failReply, cString_of_isBare bare, opening, ascii_closing]
  simp [flatText, Json.flatMembersText, FlatMember.text, FlatMember.valueText, FlatMember.quoted,
    failMembers]

end Replies

section Readings

/-- The key of the kind of a request. -/
theorem bare_kRequest : isBare kRequest = true := Json.isBare_of_plain (by decide)
/-- The key of the topic. -/
theorem bare_kTopic : isBare kTopic = true := Json.isBare_of_plain (by decide)
/-- The key of the address. -/
theorem bare_kAddress : isBare kAddress = true := Json.isBare_of_plain (by decide)
/-- The key of the success. -/
theorem bare_kSuccess : isBare kSuccess = true := Json.isBare_of_plain (by decide)
/-- The key of the message of a failure. -/
theorem bare_kFailMessage : isBare kFailMessage = true := Json.isBare_of_plain (by decide)
/-- The kind of a request to register. -/
theorem bare_kRegister : isBare kRegister = true := Json.isBare_of_plain (by decide)
/-- The kind of a request to unregister. -/
theorem bare_kUnregister : isBare kUnregister = true := Json.isBare_of_plain (by decide)
/-- The kind of a request to look up. -/
theorem bare_kGet : isBare kGet = true := Json.isBare_of_plain (by decide)

variable {topic : Bytes} (bare : isBare topic = true)

include bare

/-- A request to register is a flat object. -/
theorem isFlat_registerMembers (address : Address) : IsFlat (registerMembers topic address) where
  nonempty := by simp [registerMembers]
  bare := by
    intro member among
    simp only [registerMembers, List.mem_cons, List.not_mem_nil, or_false] at among
    rcases among with rfl | rfl | rfl
    · exact FlatMember.isBare_string bare_kRequest bare_kRegister true
    · exact FlatMember.isBare_string bare_kTopic bare true
    · exact FlatMember.isBare_string bare_kAddress (isBare_tostring address) true
  distinct := distinct_registerMembers topic address

/-- A request to look up is a flat object. -/
theorem isFlat_getMembers : IsFlat (getMembers topic) where
  nonempty := by simp [getMembers]
  bare := by
    intro member among
    simp only [getMembers, List.mem_cons, List.not_mem_nil, or_false] at among
    rcases among with rfl | rfl
    · exact FlatMember.isBare_string bare_kRequest bare_kGet true
    · exact FlatMember.isBare_string bare_kTopic bare true
  distinct := distinct_getMembers topic

/-- A request to unregister is a flat object. -/
theorem isFlat_unregisterMembers : IsFlat (unregisterMembers topic) where
  nonempty := by simp [unregisterMembers]
  bare := by
    intro member among
    simp only [unregisterMembers, List.mem_cons, List.not_mem_nil, or_false] at among
    rcases among with rfl | rfl
    · exact FlatMember.isBare_string bare_kRequest bare_kUnregister true
    · exact FlatMember.isBare_string bare_kTopic bare true
  distinct := distinct_unregisterMembers topic

/-- A reply with an address is a flat object. -/
theorem isFlat_addressMembers (address : Address) : IsFlat (addressMembers topic address) where
  nonempty := by simp [addressMembers]
  bare := by
    intro member among
    simp only [addressMembers, List.mem_cons, List.not_mem_nil, or_false] at among
    -- The topic is bare by assumption; an address has no byte that would be escaped.
    rcases among with rfl | rfl | rfl
    · exact FlatMember.isBare_truth bare_kSuccess false true
    · exact FlatMember.isBare_string bare_kTopic bare true
    · exact FlatMember.isBare_string bare_kAddress (isBare_tostring address) true
  distinct := by
    show ([kSuccess, kTopic, kAddress] : List Bytes).Nodup
    decide

/-- A reply of failure is a flat object. -/
theorem isFlat_failMembers : IsFlat (failMembers topic) where
  nonempty := by simp [failMembers]
  bare := by
    intro member among
    simp only [failMembers, List.mem_cons, List.not_mem_nil, or_false] at among
    -- The text of the failure is bare by assumption.
    rcases among with rfl | rfl
    · exact FlatMember.isBare_truth bare_kSuccess false false
    · exact FlatMember.isBare_string bare_kFailMessage bare false
  distinct := by
    show ([kSuccess, kFailMessage] : List Bytes).Nodup
    decide

end Readings

/-- A reply of success is a flat object. -/
theorem isFlat_successMembers : IsFlat successMembers where
  nonempty := by simp [successMembers]
  bare := by
    intro member among
    rw [List.mem_singleton.mp among]
    exact FlatMember.isBare_truth bare_kSuccess false true
  distinct := List.nodup_singleton _

/-- A member of a flat object, by its place among the members. -/
theorem member?_flatValue {members : List FlatMember}
    (distinct : (members.map FlatMember.key).Nodup) (member : FlatMember) (among : member ∈ members) :
    (flatValue members).member? member.key = some member.toValue :=
  Json.lookup_flatMembers distinct among

/-- A string among the members is found by its key. -/
theorem stringAt_flatValue {members : List FlatMember}
    (distinct : (members.map FlatMember.key).Nodup) {key text : Bytes}
    (among : FlatMember.mk key true (.inl text) ∈ members) :
    (flatValue members).stringAt key = .ok text :=
  Value.stringAt_ok.mpr (member?_flatValue distinct _ among)

section Requested

variable {host : Host} {codec : Codec} {topic : Bytes}

/-- What a flat object does is decided by its members. -/
theorem effect_flat (reads : codec.ReadsFlat) {members : List FlatMember} (flat : IsFlat members) :
    effect host codec (flatText members) = effectOf host (flatValue members) := by
  rw [effect, reads members flat]

/-- The members of a request to register map its topic. -/
theorem effectOf_registerMembers (host : Host) (topic : Bytes) {address : Address}
    (isSet : address.isSet = true) :
    effectOf host (flatValue (registerMembers topic address)) = .mapped topic address := by
  have distinct := distinct_registerMembers topic address
  have request : (flatValue (registerMembers topic address)).stringAt kRequest = .ok kRegister :=
    stringAt_flatValue distinct (by simp [registerMembers])
  have named : (flatValue (registerMembers topic address)).stringAt kTopic = .ok topic :=
    stringAt_flatValue distinct (by simp [registerMembers])
  have told : (flatValue (registerMembers topic address)).stringAt kAddress = .ok address.tostring :=
    stringAt_flatValue distinct (by simp [registerMembers])
  -- The server reads the address as it was printed, and it is set.
  have given : givenAddress host (flatValue (registerMembers topic address)) = some address := by
    simp [givenAddress, Value.stringAt_ok.mp told, Address.parse_tostring, Except.toOption, isSet]
  simp [effectOf, registerEffect, request, named, given]

/-- The members of a request to look up look its topic up. -/
theorem effectOf_getMembers (host : Host) (topic : Bytes) :
    effectOf host (flatValue (getMembers topic)) = .lookedUp topic := by
  have distinct := distinct_getMembers topic
  have request : (flatValue (getMembers topic)).stringAt kRequest = .ok kGet :=
    stringAt_flatValue distinct (by simp [getMembers])
  have named : (flatValue (getMembers topic)).stringAt kTopic = .ok topic :=
    stringAt_flatValue distinct (by simp [getMembers])
  -- The name is tried after those of the other requests.
  have unlike_register : kGet ≠ kRegister := by decide
  have unlike_unregister : kGet ≠ kUnregister := by decide
  simp [effectOf, getEffect, request, named, unlike_register, unlike_unregister]

/-- The members of a request to unregister remove its topic. -/
theorem effectOf_unregisterMembers (host : Host) (topic : Bytes) :
    effectOf host (flatValue (unregisterMembers topic)) = .removed topic := by
  have distinct := distinct_unregisterMembers topic
  have request : (flatValue (unregisterMembers topic)).stringAt kRequest = .ok kUnregister :=
    stringAt_flatValue distinct (by simp [unregisterMembers])
  have named : (flatValue (unregisterMembers topic)).stringAt kTopic = .ok topic :=
    stringAt_flatValue distinct (by simp [unregisterMembers])
  have unlike_register : kUnregister ≠ kRegister := by decide
  simp [effectOf, unregisterEffect, request, named, unlike_register]

/-- A request to register maps its topic to its address. -/
theorem effect_registerRequest (reads : codec.ReadsFlat) (bare : isBare topic = true)
    {address : Address} (isSet : address.isSet = true) :
    effect host codec (registerRequest topic address) = .mapped topic address := by
  rw [registerRequest_eq bare, effect_flat reads (isFlat_registerMembers bare address)]
  exact effectOf_registerMembers host topic isSet

/-- A request to look up looks its topic up. -/
theorem effect_getRequest (reads : codec.ReadsFlat) (bare : isBare topic = true) :
    effect host codec (getRequest topic) = .lookedUp topic := by
  rw [getRequest_eq bare, effect_flat reads (isFlat_getMembers bare)]
  exact effectOf_getMembers host topic

/-- A request to unregister removes its topic. -/
theorem effect_unregisterRequest (reads : codec.ReadsFlat) (bare : isBare topic = true) :
    effect host codec (unregisterRequest topic) = .removed topic := by
  rw [unregisterRequest_eq bare, effect_flat reads (isFlat_unregisterMembers bare)]
  exact effectOf_unregisterMembers host topic

end Requested

end Rcom
