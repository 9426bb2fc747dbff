import Mathlib.Algebra.Ring.Int.Defs
import Mathlib.Data.Rat.Defs

/-! JSON values, the members of objects, and the strings that can be serialised. -/

namespace Json

/-- The bytes of a string, or of a JSON text. -/
abbrev Text := List UInt8

/-- The text of a string of plain characters. -/
def ascii (text : String) : Text := text.toList.map fun c => UInt8.ofNat c.toNat

/-- A JSON value. -/
inductive Value where
  | null
  | boolean (value : Bool)
  | integer (value : Int)
  | float (value : ℚ)
  | string (text : Text)
  | array (items : List Value)
  /-- The members of an object, in the order of their keys. -/
  | object (members : List (Text × Value))

/-- A byte that goes on with a character begun before it. -/
def isContinuation (byte : UInt8) : Bool := 0x80 ≤ byte && byte ≤ 0xbf

/-- The second byte of a character of three or four bytes: no long form, no surrogate, none too large. -/
def isSecond (first second : UInt8) : Bool :=
  isContinuation second && (first != 0xe0 || 0xa0 ≤ second) && (first != 0xed || second ≤ 0x9f)
    && (first != 0xf0 || 0x90 ≤ second) && (first != 0xf4 || second ≤ 0x8f)

/-- The bytes are the encoding of a sequence of characters. -/
def isUtf8 : Text → Bool
  | [] => true
  | first :: rest =>
    if first < 0x80 then isUtf8 rest
    else match rest with
      | [] => false
      | second :: rest =>
        if 0xc2 ≤ first && first ≤ 0xdf then isContinuation second && isUtf8 rest
        else match rest with
          | [] => false
          | third :: rest =>
            if 0xe0 ≤ first && first ≤ 0xef then
              isSecond first second && isContinuation third && isUtf8 rest
            else match rest with
              | [] => false
              | fourth :: rest =>
                0xf0 ≤ first && first ≤ 0xf4 && isSecond first second && isContinuation third
                  && isContinuation fourth && isUtf8 rest

/-- The text has no bytes but those of plain characters. -/
def isPlain (text : Text) : Bool := text.all (· < 0x80)

/-- Plain characters are their own encoding. -/
theorem isUtf8_of_plain {text : Text} (plain : isPlain text = true) : isUtf8 text = true := by
  -- Each byte is a character, so that only the first case of the definition is met.
  induction text with
  | nil => rfl
  | cons first rest ih =>
    simp only [isPlain, List.all_cons, Bool.and_eq_true, decide_eq_true_eq] at plain
    unfold isUtf8
    rw [if_pos plain.1]
    exact ih plain.2

namespace Value

mutual

/-- Every string in the value, keys included, is the encoding of a sequence of characters. -/
def wellEncoded : Value → Bool
  | string text => isUtf8 text
  | array items => wellEncodedItems items
  | object members => wellEncodedMembers members
  | _ => true

/-- The same for the items of an array. -/
def wellEncodedItems : List Value → Bool
  | [] => true
  | item :: rest => item.wellEncoded && wellEncodedItems rest

/-- The same for the members of an object. -/
def wellEncodedMembers : List (Text × Value) → Bool
  | [] => true
  | (key, value) :: rest => isUtf8 key && value.wellEncoded && wellEncodedMembers rest

end

/-- Null can be serialised. -/
@[simp] theorem wellEncoded_null : null.wellEncoded = true := rfl

/-- A number can be serialised. -/
@[simp] theorem wellEncoded_integer (value : Int) : (integer value).wellEncoded = true := rfl

/-- A string can be serialised if it is UTF-8. -/
@[simp] theorem wellEncoded_string (text : Text) : (string text).wellEncoded = isUtf8 text := rfl

/-- An object can be serialised if its members can. -/
@[simp] theorem wellEncoded_object (members : List (Text × Value)) :
    (object members).wellEncoded = wellEncodedMembers members := rfl

/-- No members can be serialised. -/
@[simp] theorem wellEncodedMembers_nil : wellEncodedMembers [] = true := rfl

/-- Members can be serialised if the key and the value of each can. -/
@[simp] theorem wellEncodedMembers_cons (key : Text) (value : Value)
    (rest : List (Text × Value)) :
    wellEncodedMembers ((key, value) :: rest) =
      (isUtf8 key && value.wellEncoded && wellEncodedMembers rest) := by
  rw [wellEncodedMembers]

mutual

/-- How deep arrays and objects are nested in the value. -/
def nesting : Value → Nat
  | array items => nestingItems items + 1
  | object members => nestingMembers members + 1
  | _ => 0

/-- How deep they are nested in the items of an array. -/
def nestingItems : List Value → Nat
  | [] => 0
  | item :: rest => max item.nesting (nestingItems rest)

/-- How deep they are nested in the members of an object. -/
def nestingMembers : List (Text × Value) → Nat
  | [] => 0
  | (_, value) :: rest => max value.nesting (nestingMembers rest)

end

/-- Null is not nested. -/
@[simp] theorem nesting_null : null.nesting = 0 := rfl

/-- A number is not nested. -/
@[simp] theorem nesting_integer (value : Int) : (integer value).nesting = 0 := rfl

/-- A string is not nested. -/
@[simp] theorem nesting_string (text : Text) : (string text).nesting = 0 := rfl

/-- An object is nested once more than its members. -/
@[simp] theorem nesting_object (members : List (Text × Value)) :
    (object members).nesting = nestingMembers members + 1 := rfl

/-- No members are not nested. -/
@[simp] theorem nestingMembers_nil : nestingMembers [] = 0 := rfl

/-- Members are nested as the deepest of them is. -/
@[simp] theorem nestingMembers_cons (key : Text) (value : Value) (rest : List (Text × Value)) :
    nestingMembers ((key, value) :: rest) = max value.nesting (nestingMembers rest) := by
  rw [nestingMembers]

/-- The value of the first member with the key. -/
def lookup (key : Text) : List (Text × Value) → Option Value
  | [] => none
  | (key', value) :: rest => if key' = key then some value else lookup key rest

/-- Put a member in its place among members in order, instead of one with the same key. -/
def insert (key : Text) (value : Value) : List (Text × Value) → List (Text × Value)
  | [] => [(key, value)]
  | (key', value') :: rest =>
    if key' = key then (key, value) :: rest
    else if key < key' then (key, value) :: (key', value') :: rest
    else (key', value') :: insert key value rest

/-- The first member of an object is its only one. -/
@[simp] theorem insert_nil (key : Text) (value : Value) : insert key value [] = [(key, value)] := rfl

/-- A member whose key comes first goes to the front. -/
theorem insert_before {key key' : Text} (first : key < key') (value value' : Value)
    (rest : List (Text × Value)) :
    insert key value ((key', value') :: rest) = (key, value) :: (key', value') :: rest := by
  have different : key' ≠ key := fun same => List.lt_irrefl key (same ▸ first)
  rw [insert, if_neg different, if_pos first]

/-- A member whose key comes later goes behind. -/
theorem insert_after {key key' : Text} (later : key' < key) (value value' : Value)
    (rest : List (Text × Value)) :
    insert key value ((key', value') :: rest) = (key', value') :: insert key value rest := by
  have different : key' ≠ key := fun same => List.lt_irrefl key (same ▸ later)
  rw [insert, if_neg different, if_neg (List.lt_asymm later)]

/-- A member takes the place of one with the same key. -/
theorem insert_same (key : Text) (value value' : Value) (rest : List (Text × Value)) :
    insert key value ((key, value') :: rest) = (key, value) :: rest := by
  rw [insert, if_pos rfl]

/-- A member that was inserted is found. -/
@[simp] theorem lookup_insert_self (key : Text) (value : Value) (members : List (Text × Value)) :
    lookup key (insert key value members) = some value := by
  induction members with
  | nil => simp [insert, lookup]
  | cons member rest ih =>
    unfold insert
    split
    · simp [lookup]
    · split
      · simp [lookup]
      · rename_i other _
        rw [lookup, if_neg other, ih]

/-- A member stays as it is when one with another key is inserted. -/
theorem lookup_insert_other {key other : Text} (different : key ≠ other) (value : Value)
    (members : List (Text × Value)) :
    lookup other (insert key value members) = lookup other members := by
  induction members with
  | nil => simp [insert, lookup, different]
  | cons member rest ih =>
    unfold insert
    -- The member is replaced, put in front of the first, or put somewhere behind it.
    split
    · rename_i same
      simp [lookup, same, different]
    · split
      · simp [lookup, different]
      · simp [lookup, ih]

/-- With a new member, the strings are those of the members and of the new one. -/
theorem wellEncodedMembers_insert {key : Text} {members : List (Text × Value)}
    (absent : lookup key members = none) (value : Value) :
    wellEncodedMembers (insert key value members) =
      (isUtf8 key && value.wellEncoded && wellEncodedMembers members) := by
  induction members with
  | nil => simp
  | cons member rest ih =>
    obtain ⟨key', value'⟩ := member
    rw [lookup] at absent
    -- The key is new, so the first member has another one.
    split at absent
    · simp at absent
    · rename_i other
      rw [insert, if_neg other]
      split
      · simp
      · simp only [wellEncodedMembers_cons, ih absent]
        ac_rfl

/-- A member of well-encoded members is well encoded. -/
theorem wellEncoded_lookup {key : Text} {value : Value} {members : List (Text × Value)}
    (members_encoded : wellEncodedMembers members = true)
    (found : lookup key members = some value) : value.wellEncoded = true := by
  induction members with
  | nil => simp [lookup] at found
  | cons member rest ih =>
    obtain ⟨key', value'⟩ := member
    simp only [wellEncodedMembers_cons, Bool.and_eq_true] at members_encoded
    unfold lookup at found
    -- The member that is looked for is the first one, or among the others.
    split at found
    · simp only [Option.some.injEq] at found
      rw [← found]
      exact members_encoded.1.2
    · exact ih members_encoded.2 found

/-- The member of an object with the key. Only an object has members. -/
def member? (key : Text) : Value → Option Value
  | object members => lookup key members
  | _ => none

/-- The value is an object that has a member with the key. -/
def contains (key : Text) (value : Value) : Bool := (value.member? key).isSome

/-- The name of the kind of a value, as exceptions tell it. -/
def typeName : Value → String
  | null => "null"
  | boolean _ => "boolean"
  | integer _ => "number"
  | float _ => "number"
  | string _ => "string"
  | array _ => "array"
  | object _ => "object"

/-- A key in a path. It is a C string there, in which two characters are escaped. -/
def pathPart (key : Text) : Text :=
  47 :: (key.takeWhile (· ≠ 0)).flatMap fun byte =>
    if byte = 126 then ascii "~0" else if byte = 47 then ascii "~1" else [byte]

/-- The path to a value from the outermost one that it is in, by the keys on the way. -/
def diagnostics (path : List Text) : Text :=
  if path = [] then [] else ascii "(" ++ path.flatMap pathPart ++ ascii ") "

/-- The text of an exception about the kind of a value, which tells the path to it. -/
def typeError (number message : String) (path : List Text) (value : Value) : Text :=
  ascii ("[json.exception.type_error." ++ number ++ "] ") ++ diagnostics path ++
    ascii (message ++ value.typeName)

/--
The member that indexing an outermost value with a key gives.

An absent member is null, and so is every member of null.
-/
def index (key : Text) (value : Value) : Except Text Value :=
  match value with
  | object members => .ok ((lookup key members).getD null)
  | null => .ok null
  | _ => .error (typeError "305" "cannot use operator[] with a string argument with " [] value)

/-- Indexing gives the member that is there. -/
theorem index_of_member {key : Text} {value member : Value}
    (found : value.member? key = some member) : value.index key = .ok member := by
  cases value with
  | object members =>
    rw [member?] at found
    simp [index, found]
  | _ => simp [member?] at found

/-- Assign a member of an object, or of null, which becomes an object. -/
def set (value : Value) (key : Text) (member : Value) : Value :=
  match value with
  | object members => object (insert key member members)
  | null => object [(key, member)]
  -- The other kinds have no members to assign.
  | other => other

/-- A member that is set in null makes it an object. -/
@[simp] theorem set_null (key : Text) (member : Value) :
    null.set key member = object [(key, member)] := rfl

/-- A member that is set in an object is inserted. -/
@[simp] theorem set_object (members : List (Text × Value)) (key : Text) (member : Value) :
    (object members).set key member = object (insert key member members) := rfl

/-- The value at a path as a string. -/
def asString (path : List Text) : Value → Except Text Text
  | string text => .ok text
  | value => .error (typeError "302" "type must be string, but is " path value)

/-- The member with a key, which has to be a string. -/
def stringAt (key : Text) (value : Value) : Except Text Text := value.index key >>= asString [key]

/-- A string is found exactly where there is a member that is one. -/
theorem stringAt_ok {key text : Text} {value : Value} :
    value.stringAt key = .ok text ↔ value.member? key = some (string text) := by
  unfold stringAt
  cases value with
  | object members =>
    simp only [index, member?, bind, Except.bind]
    cases lookup key members with
    | none => simp [asString]
    | some member => cases member <;> simp [asString]
  | _ => simp [index, member?, asString, bind, Except.bind]

/-- The value at a path as a truth value. -/
def asBoolean (path : List Text) : Value → Except Text Bool
  | boolean value => .ok value
  | value => .error (typeError "302" "type must be boolean, but is " path value)

/-- The member with a key, which has to be a truth value. -/
def booleanAt (key : Text) (value : Value) : Except Text Bool := value.index key >>= asBoolean [key]

/-- A number without what is behind the point. -/
def whole (value : ℚ) : Int := value.num.tdiv value.den

/--
The value at a path as a number of sixteen bits.

A whole number is cut to its last bits. A number with a point that has no place in sixteen bits becomes what the
given function makes of it.
-/
def asInt16 (narrow : ℚ → Int16) (path : List Text) : Value → Except Text Int16
  | integer value => .ok (Int16.ofInt value)
  | float value =>
    if -2 ^ 15 ≤ whole value ∧ whole value < 2 ^ 15 then .ok (Int16.ofInt (whole value))
    else .ok (narrow value)
  | boolean value => .ok (if value then 1 else 0)
  | value => .error (typeError "302" "type must be number, but is " path value)

end Value

end Json
