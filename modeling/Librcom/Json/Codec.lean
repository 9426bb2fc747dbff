import Librcom.Json.Value

/-! Reading and writing JSON texts, by what is documented of the library that does it. -/

namespace Json

/--
A library that parses and serialises JSON values.

A call that throws gives the text of its exception.
-/
structure Codec where
  parse : Text → Except Text Value
  dump : Value → Except Text Text
  /-- Serialising throws on a string that is not the encoding of characters, and on nothing else. -/
  dump_ok : ∀ value, (∃ text, dump value = .ok text) ↔ value.wellEncoded = true
  /-- Parsing throws on such a string, so that no value that was read holds one. -/
  parse_wellEncoded : ∀ text value, parse text = .ok value → value.wellEncoded = true
  /-- What a number that has no place in sixteen bits becomes there, which the language leaves open. -/
  narrow : ℚ → Int16

/-- The value is read back from the text it was written as. -/
def Codec.Restores (codec : Codec) (value : Value) : Prop :=
  ∀ text, codec.dump value = .ok text → codec.parse text = .ok value

section Printing

/-- A digit of a number written in sixteens. -/
def hexDigit (digit : UInt8) : UInt8 := if digit < 10 then 48 + digit else 87 + digit

/-- A byte of a string, escaped where it has to be. -/
def escape (byte : UInt8) : Text :=
  if byte = 8 then ascii "\\b"
  else if byte = 9 then ascii "\\t"
  else if byte = 10 then ascii "\\n"
  else if byte = 12 then ascii "\\f"
  else if byte = 13 then ascii "\\r"
  else if byte = 34 then ascii "\\\""
  else if byte = 92 then ascii "\\\\"
  -- The other control characters have no short form.
  else if byte < 32 then ascii "\\u00" ++ [hexDigit (byte / 16), hexDigit (byte % 16)]
  else [byte]

/-- A string between quotation marks. -/
def quote (text : Text) : Text := ascii "\"" ++ text.flatMap escape ++ ascii "\""

variable (floatText : ℚ → Text)

mutual

/-- A value as it is written, without white space. -/
def print : Value → Text
  | .null => ascii "null"
  | .boolean true => ascii "true"
  | .boolean false => ascii "false"
  | .integer value => ascii (toString value)
  | .float value => floatText value
  | .string text => quote text
  | .array items => ascii "[" ++ printItems items ++ ascii "]"
  | .object members => ascii "\x7b" ++ printMembers members ++ ascii "\x7d"

/-- The items of an array, with commas between them. -/
def printItems : List Value → Text
  | [] => []
  | [item] => print item
  | item :: rest => print item ++ ascii "," ++ printItems rest

/-- The members of an object, with commas between them. -/
def printMembers : List (Text × Value) → Text
  | [] => []
  | [(key, value)] => quote key ++ ascii ":" ++ print value
  | (key, value) :: rest => quote key ++ ascii ":" ++ print value ++ ascii "," ++ printMembers rest

end

/-- A number that goes through thirty-two bits on its way to sixteen, as on most machines. -/
def narrowed (value : ℚ) : Int16 :=
  if -2 ^ 31 ≤ value.num.tdiv value.den ∧ value.num.tdiv value.den < 2 ^ 31 then
    Int16.ofInt (value.num.tdiv value.den)
  else 0

/-- A codec that writes values as they are written, and reads the texts it is told about. -/
def Codec.printing (known : List (Text × Value)) : Codec where
  parse text :=
    match known.find? fun entry => entry.1 == text with
    | some (_, value) =>
      -- A text that holds a badly encoded string is refused when it is read.
      if value.wellEncoded then .ok value else .error (ascii "ill-formed UTF-8 byte")
    | none => .error (ascii "syntax error while parsing value")
  dump value :=
    if value.wellEncoded then .ok (print floatText value) else .error (ascii "invalid UTF-8 byte")
  dump_ok value := by
    split
    · simp_all
    · simp_all
  parse_wellEncoded text value parsed := by
    split at parsed
    · split at parsed
      · simp_all
      · cases parsed
    · cases parsed
  narrow := narrowed

/-- A known text is read as the first value that it is told to be. -/
theorem Codec.parse_printing {text : Text} {value : Value} (earlier later : List (Text × Value))
    (new : ∀ entry ∈ earlier, entry.1 ≠ text) (encoded : value.wellEncoded = true) :
    (Codec.printing floatText (earlier ++ (text, value) :: later)).parse text = .ok value := by
  have skipped : earlier.find? (fun entry => entry.1 == text) = none := by
    simpa using new
  simp [Codec.printing, List.find?_append, skipped, encoded]

/-- A value whose own text is known is read back from it. -/
theorem Codec.restores_printing {value : Value} (earlier later : List (Text × Value))
    (new : ∀ entry ∈ earlier, entry.1 ≠ print floatText value) :
    (Codec.printing floatText (earlier ++ (print floatText value, value) :: later)).Restores
      value := by
  intro text dumped
  simp only [Codec.printing] at dumped
  -- Only a well-encoded value has a text at all.
  split at dumped
  · rename_i encoded
    simp only [Except.ok.injEq] at dumped
    rw [← dumped]
    exact parse_printing floatText earlier later new encoded
  · cases dumped

/-- The text of an object is not empty. -/
theorem print_object_ne_nil (members : List (Text × Value)) :
    print floatText (.object members) ≠ [] := by
  simp [print, ascii]

end Printing

end Json
