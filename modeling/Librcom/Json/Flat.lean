import Librcom.Json.Codec

/-! Objects of strings and truth values, in texts that are written by hand. -/

namespace Json

/-- The text can stand between quotation marks as it is. -/
def isBare (text : Text) : Bool :=
  isUtf8 text && text.all fun byte => 32 ≤ byte && byte != 34 && byte != 92

/-- Plain characters but quotation marks and backslashes need no escapes. -/
theorem isBare_of_plain {text : Text}
    (plain : text.all (fun byte => 32 ≤ byte && byte < 0x80 && byte != 34 && byte != 92) = true) :
    isBare text = true := by
  simp only [List.all_eq_true, Bool.and_eq_true, decide_eq_true_eq] at plain
  simp only [isBare, Bool.and_eq_true, List.all_eq_true, decide_eq_true_eq]
  refine ⟨isUtf8_of_plain ?_, fun byte member => ?_⟩
  · simp only [isPlain, List.all_eq_true, decide_eq_true_eq]
    exact fun byte member => (plain byte member).1.1.2
  · have held := plain byte member
    exact ⟨⟨held.1.1.1, held.1.2⟩, held.2⟩

/-- A bare text has no null characters. -/
theorem bare_no_null {text : Text} (bare : isBare text = true) : 0 ∉ text := by
  intro member
  simp only [isBare, Bool.and_eq_true, List.all_eq_true, decide_eq_true_eq] at bare
  exact absurd (bare.2 0 member).1.1 (by decide)

/-- A member of a flat object, which is a string or a truth value. -/
structure FlatMember where
  key : Text
  /-- A space follows the colon. -/
  spaced : Bool
  value : Text ⊕ Bool

namespace FlatMember

/-- The value of the member. -/
def toValue (member : FlatMember) : Value :=
  match member.value with
  | .inl text => .string text
  | .inr truth => .boolean truth

/-- The key and the string of the member need no escapes. -/
def isBare (member : FlatMember) : Bool :=
  Json.isBare member.key && match member.value with
    | .inl text => Json.isBare text
    | .inr _ => true

/-- A text between quotation marks. -/
def quoted (text : Text) : Text := 34 :: text ++ [34]

/-- The text of the value. -/
def valueText : Text ⊕ Bool → Text
  | .inl text => quoted text
  | .inr true => ascii "true"
  | .inr false => ascii "false"

/-- The text of the member. -/
def text (member : FlatMember) : Text :=
  quoted member.key ++ 58 :: (if member.spaced then [32] else []) ++ valueText member.value

end FlatMember

/-- The texts of members, with a comma and a space between them. -/
def flatMembersText : List FlatMember → Text
  | [] => []
  | [member] => member.text
  | member :: rest => member.text ++ 44 :: 32 :: flatMembersText rest

/-- The text of a flat object. -/
def flatText (members : List FlatMember) : Text := 123 :: flatMembersText members ++ [125]

/-- The members of a flat object, in the order of their keys. -/
def flatMembers : List FlatMember → List (Text × Value)
  | [] => []
  | member :: rest => Value.insert member.key member.toValue (flatMembers rest)

/-- The value of a flat object. -/
def flatValue (members : List FlatMember) : Value := .object (flatMembers members)

/-- A flat object without escapes, whose keys are different. -/
structure IsFlat (members : List FlatMember) : Prop where
  nonempty : members ≠ []
  bare : ∀ member ∈ members, member.isBare = true
  distinct : (members.map FlatMember.key).Nodup

/-- The library reads the text of a flat object. -/
def Codec.ReadsFlat (codec : Codec) : Prop :=
  ∀ members, IsFlat members → codec.parse (flatText members) = .ok (flatValue members)

section Members

/-- A member with a bare key and a bare text is bare. -/
theorem FlatMember.isBare_string {key text : Text} (key_bare : Json.isBare key = true)
    (text_bare : Json.isBare text = true) (spaced : Bool) :
    (FlatMember.mk key spaced (.inl text)).isBare = true := by
  simp [FlatMember.isBare, key_bare, text_bare]

/-- A member with a bare key and a truth value is bare. -/
theorem FlatMember.isBare_truth {key : Text} (key_bare : Json.isBare key = true) (spaced truth : Bool) :
    (FlatMember.mk key spaced (.inr truth)).isBare = true := by
  simp [FlatMember.isBare, key_bare]

/-- The text of a bare member has no zero in it. -/
theorem FlatMember.text_no_null {member : FlatMember} (bare : member.isBare = true) :
    0 ∉ member.text := by
  obtain ⟨key, spaced, value⟩ := member
  simp only [FlatMember.isBare, Bool.and_eq_true] at bare
  have key_free := bare_no_null bare.1
  -- A string is bare as the key is, and the truth values are two texts.
  have value_free : 0 ∉ FlatMember.valueText value := by
    match value with
    | .inl text =>
      have text_free := bare_no_null bare.2
      simpa [FlatMember.valueText, FlatMember.quoted] using text_free
    | .inr true => decide
    | .inr false => decide
  cases spaced
  · simp [FlatMember.text, FlatMember.quoted, key_free, value_free]
  · simp [FlatMember.text, FlatMember.quoted, key_free, value_free]

/-- The text of a flat object has no null characters. -/
theorem flatText_no_null {members : List FlatMember}
    (bare : ∀ member ∈ members, member.isBare = true) : 0 ∉ flatText members := by
  have inside : 0 ∉ flatMembersText members := by
    induction members with
    | nil => simp [flatMembersText]
    | cons member rest ih =>
      -- The member itself and what comes behind it, with a comma between them.
      have here := FlatMember.text_no_null (bare member (by simp))
      have later := ih fun other among => bare other (by simp [among])
      cases rest with
      | nil => rwa [flatMembersText]
      | cons next rest =>
        rw [flatMembersText]
        · simpa [here] using later
        · simp
  simp [flatText, inside]

/-- No member has a key that is not among the keys. -/
theorem lookup_flatMembers_none {key : Text} {members : List FlatMember}
    (absent : key ∉ members.map FlatMember.key) : Value.lookup key (flatMembers members) = none := by
  induction members with
  | nil => rfl
  | cons member rest ih =>
    simp only [List.map_cons, List.mem_cons, not_or] at absent
    -- The first member has another key, and inserting it changes no other lookup.
    rw [flatMembers, Value.lookup_insert_other (Ne.symm absent.1)]
    exact ih absent.2

/-- Each member is found by its key. -/
theorem lookup_flatMembers {members : List FlatMember}
    (distinct : (members.map FlatMember.key).Nodup) {member : FlatMember}
    (among : member ∈ members) :
    Value.lookup member.key (flatMembers members) = some member.toValue := by
  induction members with
  | nil => cases among
  | cons first rest ih =>
    rw [List.map_cons, List.nodup_cons] at distinct
    rcases List.mem_cons.mp among with rfl | later
    · exact Value.lookup_insert_self _ _ _
    · -- A later member has another key than the first, since keys are different.
      have other : first.key ≠ member.key := by
        intro same
        exact distinct.1 (List.mem_map.mpr ⟨member, later, same.symm⟩)
      rw [flatMembers, Value.lookup_insert_other other]
      exact ih distinct.2 later

/-- The strings of a bare member are encodings of characters. -/
theorem FlatMember.encoded_of_bare {member : FlatMember} (bare : member.isBare = true) :
    isUtf8 member.key = true ∧ member.toValue.wellEncoded = true := by
  obtain ⟨key, spaced, value⟩ := member
  cases value with
  | inl text => simp_all [FlatMember.isBare, FlatMember.toValue, Json.isBare]
  | inr truth => simp_all [FlatMember.isBare, FlatMember.toValue, Json.isBare, Value.wellEncoded]

/-- The strings of a flat object are encodings of characters where those of its members are. -/
theorem wellEncoded_flatValue {members : List FlatMember}
    (encoded : ∀ member ∈ members,
      isUtf8 member.key = true ∧ member.toValue.wellEncoded = true)
    (distinct : (members.map FlatMember.key).Nodup) : (flatValue members).wellEncoded = true := by
  show Value.wellEncodedMembers (flatMembers members) = true
  induction members with
  | nil => rfl
  | cons member rest ih =>
    rw [List.map_cons, List.nodup_cons] at distinct
    have here := encoded member (by simp)
    have later := ih (fun other among => encoded other (by simp [among])) distinct.2
    -- No key is inserted twice, so that nothing is overwritten.
    rw [flatMembers, Value.wellEncodedMembers_insert (lookup_flatMembers_none distinct.1), later,
      here.1, here.2]
    rfl

end Members

section Reading

/-- The text up to the next quotation mark, behind a first one. -/
def readString : Text → Option (Text × Text)
  | 34 :: rest =>
    match rest.dropWhile (· != 34) with
    | [] => none
    | _ :: rest' => some (rest.takeWhile (· != 34), rest')
  | _ => none

/-- A string or a truth value. -/
def readValue (text : Text) : Option ((Text ⊕ Bool) × Text) :=
  match readString text with
  | some (string, rest) => some (.inl string, rest)
  | none =>
    if (ascii "true").isPrefixOf text then some (.inr true, text.drop 4)
    else if (ascii "false").isPrefixOf text then some (.inr false, text.drop 5)
    else none

/-- A key, a colon, a space or none, and a value. -/
def readMember (text : Text) : Option (FlatMember × Text) :=
  match readString text with
  | some (key, 58 :: 32 :: rest) =>
    (readValue rest).map fun (value, rest) => ({ key := key, spaced := true, value := value }, rest)
  | some (key, 58 :: rest) =>
    (readValue rest).map fun (value, rest) => ({ key := key, spaced := false, value := value }, rest)
  | _ => none

/-- Members with a comma and a space between them, and a brace behind them. -/
def readMembers : Nat → Text → Option (List FlatMember)
  | 0, _ => none
  | count + 1, text =>
    match readMember text with
    | some (member, [125]) => some [member]
    | some (member, 44 :: 32 :: rest) => (readMembers count rest).map (member :: ·)
    | _ => none

/-- A flat object. -/
def readFlat : Text → Option (List FlatMember)
  | 123 :: rest => readMembers rest.length rest
  | _ => none

/-- A bare text has no quotation marks. -/
theorem bare_unquoted {text : Text} (bare : isBare text = true) :
    ∀ byte ∈ text, (byte != 34) = true := by
  intro byte member
  simp only [isBare, Bool.and_eq_true, List.all_eq_true, decide_eq_true_eq] at bare
  exact (bare.2 byte member).1.2

/-- A bare text between quotation marks is read as it was. -/
theorem readString_quoted {text : Text} (bare : isBare text = true) (rest : Text) :
    readString (FlatMember.quoted text ++ rest) = some (text, rest) := by
  -- The text ends at the quotation mark behind it, which is the first after the one before it.
  have unquoted := bare_unquoted bare
  have stripped : (text ++ 34 :: rest).dropWhile (· != 34) = 34 :: rest := by
    rw [List.dropWhile_append_of_pos unquoted]
    rfl
  have taken : (text ++ 34 :: rest).takeWhile (· != 34) = text := by
    rw [List.takeWhile_append_of_pos unquoted]
    simp
  simp only [FlatMember.quoted, List.cons_append, List.append_assoc, List.nil_append, readString,
    stripped, taken]

/-- The text of a bare value is read as the value. -/
theorem readValue_valueText {value : Text ⊕ Bool}
    (bare : ∀ text, value = .inl text → isBare text = true) (rest : Text) :
    readValue (FlatMember.valueText value ++ rest) = some (value, rest) := by
  match value with
  | .inl text =>
    rw [readValue, FlatMember.valueText, readString_quoted (bare text rfl)]
  | .inr true => rfl
  | .inr false => rfl

/-- The text of a value does not begin with a space. -/
theorem valueText_head (value : Text ⊕ Bool) (rest : Text) :
    ∃ first later, FlatMember.valueText value ++ rest = first :: later ∧ first ≠ 32 := by
  match value with
  | .inl text => exact ⟨34, text ++ [34] ++ rest, by simp [FlatMember.valueText, FlatMember.quoted], by decide⟩
  | .inr true => exact ⟨116, _, rfl, by decide⟩
  | .inr false => exact ⟨102, _, rfl, by decide⟩

/-- The text of a bare member is read as the member. -/
theorem readMember_text {member : FlatMember} (bare : member.isBare = true) (rest : Text) :
    readMember (member.text ++ rest) = some (member, rest) := by
  obtain ⟨key, spaced, value⟩ := member
  simp only [FlatMember.isBare, Bool.and_eq_true] at bare
  have value_bare : ∀ text, value = .inl text → isBare text = true := by
    intro text same
    rw [same] at bare
    exact bare.2
  -- The value is read off the front, and leaves the rest.
  have read := readValue_valueText value_bare rest
  unfold readMember FlatMember.text
  cases spaced with
  | true =>
    simp only [List.cons_append, List.append_assoc, List.nil_append, if_true,
      readString_quoted bare.1, read, Option.map_some]
  | false =>
    obtain ⟨first, later, text, nospace⟩ := valueText_head value rest
    simp only [List.cons_append, List.append_assoc, List.nil_append, Bool.false_eq_true, if_false,
      readString_quoted bare.1]
    -- What is behind the colon is no space, which tells the two forms of a member apart.
    rw [text] at read ⊢
    split
    · rename_i same
      simp only [Option.some.injEq, Prod.mk.injEq, List.cons.injEq, true_and] at same
      exact absurd same.2.1 nospace
    · rename_i same
      simp only [Option.some.injEq, Prod.mk.injEq, List.cons.injEq, true_and] at same
      rw [← same.1, ← same.2, read]
      rfl
    · rename_i other
      exact absurd rfl (other key (first :: later))

/-- The members are read back from their text. -/
theorem readMembers_text {members : List FlatMember} (nonempty : members ≠ [])
    (bare : ∀ member ∈ members, member.isBare = true) {count : Nat}
    (enough : members.length ≤ count) :
    readMembers count (flatMembersText members ++ [125]) = some members := by
  -- The induction is on the members, of which the last has no comma behind it.
  induction members generalizing count with
  | nil => exact absurd rfl nonempty
  | cons member rest ih =>
    obtain ⟨count, rfl⟩ : ∃ n, count = n + 1 := ⟨count - 1, by simp at enough; omega⟩
    have here := readMember_text (bare member (by simp))
    cases rest with
    | nil =>
      rw [flatMembersText, readMembers, here]
      rfl
    | cons next rest =>
      have later := ih (by simp) (fun other among => bare other (by simp [among]))
        (by simpa using enough : (next :: rest).length ≤ count)
      rw [flatMembersText, List.append_assoc, readMembers, here]
      · simp only [List.cons_append, later, Option.map_some]
      · simp

/-- Each member takes a byte at least. -/
theorem length_flatMembersText (members : List FlatMember) :
    members.length ≤ (flatMembersText members).length := by
  induction members with
  | nil => simp
  | cons member rest ih =>
    -- A member is never without text, if only for its quotation marks.
    have some_text : 1 ≤ member.text.length := by simp [FlatMember.text, FlatMember.quoted]
    -- The last member has no comma behind it.
    cases rest with
    | nil => simpa [flatMembersText] using some_text
    | cons next rest =>
      rw [flatMembersText]
      · simp only [List.length_cons, List.length_append] at ih ⊢
        omega
      · simp

/-- The text of bare members is read as the members. -/
theorem readFlat_flatText {members : List FlatMember} (nonempty : members ≠ [])
    (bare : ∀ member ∈ members, member.isBare = true) :
    readFlat (flatText members) = some members := by
  have enough : members.length ≤ (flatMembersText members ++ [125]).length := by
    have shorter := length_flatMembersText members
    simp only [List.length_append, List.length_singleton]
    omega
  exact readMembers_text nonempty bare enough

end Reading

section Codec

variable (floatText : ℚ → Text)

/-- A library that reads flat objects and the texts it is told about, and writes values as they are written. -/
def Codec.flat (known : List (Text × Value)) : Codec where
  parse text :=
    match readFlat text with
    | some members =>
      if (flatValue members).wellEncoded then .ok (flatValue members)
      else .error (ascii "ill-formed UTF-8 byte")
    | none => (Codec.printing floatText known).parse text
  dump := (Codec.printing floatText []).dump
  dump_ok := (Codec.printing floatText []).dump_ok
  parse_wellEncoded text value parsed := by
    split at parsed
    · split at parsed
      · simp_all
      · cases parsed
    · exact (Codec.printing floatText known).parse_wellEncoded text value parsed
  narrow := narrowed

/-- The library for flat objects reads the texts of all of them. -/
theorem Codec.flat_readsFlat (known : List (Text × Value)) :
    (Codec.flat floatText known).ReadsFlat := by
  intro members flat
  have encoded := wellEncoded_flatValue
    (fun member among => FlatMember.encoded_of_bare (flat.bare member among)) flat.distinct
  simp [Codec.flat, readFlat_flatText flat.nonempty flat.bare, encoded]

end Codec

end Json
