import Librcom.Http.Request
import Librcom.Http.Scan

/-! The header lines of a head, and how they are handled. -/

namespace Rcom

open Json (ascii)
open HttpParser

/-- The name of a header. -/
structure IsName (name : Bytes) : Prop where
  nonempty : 1 ≤ name.length
  fits : name.length ≤ kMaxHeaderNameLength
  token : ∀ c ∈ name, isTokenCharacter c = true

/-- A name is checked character by character. -/
theorem isName_of_all {name : Bytes}
    (good : (1 ≤ name.length && name.length ≤ kMaxHeaderNameLength && name.all isTokenCharacter) =
      true) : IsName name := by
  simp only [Bool.and_eq_true, decide_eq_true_eq, List.all_eq_true] at good
  exact ⟨good.1.1, good.1.2, good.2⟩

/-- The value of a header. -/
structure IsValue (value : Bytes) : Prop where
  nonempty : 1 ≤ value.length
  fits : value.length ≤ kMaxHeaderValueLength
  unbroken : 13 ∉ value
  unspaced : value.head? ≠ some 32

/-- A header line, with spaces before the value. -/
def headerLine (name : Bytes) (spaces : Nat) (value : Bytes) : Bytes :=
  name ++ 58 :: List.replicate spaces 32 ++ value ++ [13, 10]

/-- The lines of headers, in their order. -/
inductive HeaderLines : Headers → Bytes → Prop
  | none : HeaderLines [] []
  | more {name value : Bytes} {headers : Headers} {lines : Bytes} (spaces : Nat) (named : IsName name)
      (valued : IsValue value) (rest : HeaderLines headers lines) :
      HeaderLines ((name, value) :: headers) (headerLine name spaces value ++ lines)

/-- One more line at the end. -/
theorem HeaderLines.snoc {headers : Headers} {lines name value : Bytes}
    (before : HeaderLines headers lines) (spaces : Nat) (named : IsName name) (valued : IsValue value) :
    HeaderLines (headers ++ [(name, value)]) (lines ++ headerLine name spaces value) := by
  induction before with
  -- The first line needs no line in front of it.
  | none =>
    have line := HeaderLines.more spaces named valued .none
    rwa [List.append_nil] at line
  | more spaces' named' valued' _ ih =>
    rw [List.append_assoc]
    exact .more spaces' named' valued' ih

section Bytes

/-- A token character is no control character and no separator. -/
theorem isTokenCharacter_ne {c : UInt8} (token : isTokenCharacter c = true) :
    c ≠ 13 ∧ c ≠ 32 ∧ c ≠ 58 := by
  refine ⟨?_, ?_, ?_⟩
  · -- Of these three characters none is a token character, which is decided by evaluation.
    rintro rfl
    exact absurd token (by decide)
  · rintro rfl
    exact absurd token (by decide)
  · rintro rfl
    exact absurd token (by decide)

end Bytes

namespace HttpParser

variable {ρ : Type} {listener : HttpParserListener ρ} {parser parser' : HttpParser ρ}

/-- Without text the parser stays as it is. -/
theorem feed_nil : feed listener parser [] = .ok parser := rfl

/-- A character is handled before the rest of the text. -/
theorem feed_cons {c : UInt8} {text : Bytes} (handled : handleChar listener parser c = .ok parser') :
    feed listener parser (c :: text) = feed listener parser' text := by
  simp [feed, handled, bind, Except.bind]

/-- Bytes that are put in the buffer one after the other, as long as it has room for them. -/
theorem feed_puts {state : HttpState} (limit : Nat) {text : Bytes}
    (puts : ∀ (parser : HttpParser ρ) (c : UInt8), parser.state = state → c ∈ text →
      parser.buffer.length < limit → handleChar listener parser c = .ok (parser.put c))
    (began : parser.state = state) (fits : parser.buffer.length + text.length ≤ limit) :
    feed listener parser text = .ok { parser with buffer := parser.buffer ++ text } := by
  induction text generalizing parser with
  | nil => simp [feed_nil]
  | cons c text ih =>
    simp only [List.length_cons] at fits
    -- What the state does with a character holds of those that are left as well.
    have later : ∀ (parser : HttpParser ρ) (c' : UInt8), parser.state = state → c' ∈ text →
        parser.buffer.length < limit → handleChar listener parser c' = .ok (parser.put c') :=
      fun parser c' expecting among => puts parser c' expecting (List.mem_cons_of_mem _ among)
    -- The character just put leaves room for the others.
    have room : (parser.put c).buffer.length + text.length ≤ limit := by
      simp only [put, List.length_append, List.length_singleton]
      omega
    have began' : (parser.put c).state = state := began
    -- The first character is put, and the others follow by induction.
    rw [feed_cons (puts parser c began List.mem_cons_self (by omega)), ih later began' room]
    simp [put]

/-- Spaces that are skipped. -/
theorem feed_spaces (skips : handleChar listener parser 32 = .ok parser) (count : Nat) :
    feed listener parser (List.replicate count 32) = .ok parser := by
  induction count with
  | zero => exact feed_nil
  | succ count ih => rw [List.replicate_succ, feed_cons skips, ih]

/-- A header line hands its name and its value to the listener. -/
theorem feed_headerLine (listener : HttpParserListener ρ) {name value : Bytes} (began : parser.state = .kHeaderStart)
    (named : IsName name) (spaces : Nat) (valued : IsValue value) :
    feed listener parser (headerLine name spaces value) =
      .ok ⟨.kHeaderStart, value, name, listener.addHeader name value parser.head⟩ := by
  -- A name and a value have a first character, which the parser handles in a state of its own.
  obtain ⟨c, name', rfl⟩ := List.exists_cons_of_length_pos named.nonempty
  obtain ⟨v, value', rfl⟩ := List.exists_cons_of_length_pos valued.nonempty
  have token := named.token c List.mem_cons_self
  have broken : v ≠ 13 := fun same => valued.unbroken (by simp [same])
  have spaced : v ≠ 32 := fun same => valued.unspaced (by simp [same])
  have first : handleChar listener parser c = .ok (parser.restart c .kHeaderName) := by
    simp [handleChar, began, token, (isTokenCharacter_ne token).1]
  -- The name is collected up to the colon, and its length keeps it within the limit.
  have names : feed listener (parser.restart c .kHeaderName) name' =
      .ok ⟨.kHeaderName, c :: name', parser.name, parser.head⟩ := by
    have fits := named.fits
    simp only [List.length_cons] at fits
    apply feed_puts kMaxHeaderNameLength _ rfl
    · simp only [restart, List.length_singleton]
      omega
    · intro parser c' expecting among room
      have expecting : parser.state = .kHeaderName := expecting
      have token' := named.token c' (List.mem_cons_of_mem _ among)
      simp [handleChar, expecting, token', (isTokenCharacter_ne token').2.2, room]
  -- The colon takes the name over, and spaces behind it are skipped.
  have colon : handleChar listener ⟨.kHeaderName, c :: name', parser.name, parser.head⟩ 58 =
      .ok ⟨.kHeaderSpaces, c :: name', c :: name', parser.head⟩ := by
    simp [handleChar]
  have skipped : handleChar listener ⟨.kHeaderSpaces, c :: name', c :: name', parser.head⟩ 32 =
      .ok ⟨.kHeaderSpaces, c :: name', c :: name', parser.head⟩ := by
    simp [handleChar]
  have begun : handleChar listener ⟨.kHeaderSpaces, c :: name', c :: name', parser.head⟩ v =
      .ok ⟨.kHeaderValue, [v], c :: name', parser.head⟩ := by
    simp [handleChar, broken, spaced, restart]
  -- The value is collected up to the carriage return, which is not in it.
  have values : feed listener ⟨.kHeaderValue, [v], c :: name', parser.head⟩ value' =
      .ok ⟨.kHeaderValue, v :: value', c :: name', parser.head⟩ := by
    have fits := valued.fits
    simp only [List.length_cons] at fits
    apply feed_puts kMaxHeaderValueLength _ rfl
    · simp only [List.length_singleton]
      omega
    · intro parser c' expecting among room
      have expecting : parser.state = .kHeaderValue := expecting
      have inside : c' ≠ 13 := by
        rintro rfl
        exact valued.unbroken (List.mem_cons_of_mem _ among)
      simp [handleChar, expecting, inside, room]
  -- Only the line feed hands the header to the listener.
  have ended : feed listener ⟨.kHeaderValue, v :: value', c :: name', parser.head⟩ [13, 10] =
      .ok ⟨.kHeaderStart, v :: value', c :: name',
        listener.addHeader (c :: name') (v :: value') parser.head⟩ := by
    simp [feed, handleChar, expect, bind, Except.bind, pure, Except.pure]
  have line : headerLine (c :: name') spaces (v :: value') =
      c :: (name' ++ 58 :: (List.replicate spaces 32 ++ v :: (value' ++ [13, 10]))) := by
    simp [headerLine]
  -- The parts of the line are fed one after the other.
  rw [line, feed_cons first]
  apply feed_append names
  rw [feed_cons colon]
  apply feed_append (feed_spaces skipped spaces)
  rw [feed_cons begun]
  exact feed_append values ended

/-- What is known of a head behind its header lines. -/
def addHeaders (listener : HttpParserListener ρ) (headers : Headers) (head : ρ) : ρ :=
  headers.foldl (fun head header => listener.addHeader header.1 header.2 head) head

/-- Header lines hand their headers to the listener. -/
theorem feed_headerLines (listener : HttpParserListener ρ) {headers : Headers} {lines : Bytes}
    (written : HeaderLines headers lines) (began : parser.state = .kHeaderStart) :
    ∃ parser', feed listener parser lines = .ok parser' ∧ parser'.state = .kHeaderStart ∧
      parser'.head = addHeaders listener headers parser.head := by
  induction written generalizing parser with
  | none => exact ⟨parser, feed_nil, began, rfl⟩
  | @more name value headers lines spaces named valued _ ih =>
    -- After a line the parser is where it was before the line, with one header more.
    have first := feed_headerLine listener began named spaces valued
    have again : (HttpParser.mk .kHeaderStart value name
        (listener.addHeader name value parser.head)).state = .kHeaderStart := rfl
    obtain ⟨parser', later, ending, head⟩ := ih again
    exact ⟨parser', feed_append first later, ending, head⟩

/-- Behind the header lines, an empty line completes the head, and nothing behind it is read. -/
theorem scan_headerLines (listener : HttpParserListener ρ) {headers : Headers} {lines : Bytes}
    (written : HeaderLines headers lines) (began : parser.state = .kHeaderStart) (rest : Bytes) :
    ∃ parser', scan listener parser (lines ++ 13 :: 10 :: rest) = .ok (parser', rest) ∧
      parser'.head = addHeaders listener headers parser.head := by
  obtain ⟨parser', fed, ending, head⟩ := feed_headerLines listener written began
  refine ⟨parser'.expect .kBody, ?_, head⟩
  -- The empty line is a carriage return and a line feed, behind which the scan ends.
  rw [scan_append fed (by simp [ending])]
  simp [scan, handleChar, ending, expect]

section Reading

/--
What the bytes handled so far are, from the first header line on.

The bytes before the header lines are given, and so is what they made of the request or response.
-/
def ReadHeaders (listener : HttpParserListener ρ) (first : Bytes) (head : ρ) (parser : HttpParser ρ)
    (text : Bytes) : Prop :=
  ∃ headers lines, HeaderLines headers lines ∧
    match parser.state with
    | .kHeaderStart => text = first ++ lines ∧ parser.head = addHeaders listener headers head
    | .kHeaderName => text = first ++ lines ++ parser.buffer ∧ IsName parser.buffer ∧
      parser.head = addHeaders listener headers head
    | .kHeaderSpaces => ∃ spaces,
      text = first ++ lines ++ (parser.name ++ 58 :: List.replicate spaces 32) ∧
        IsName parser.name ∧ parser.head = addHeaders listener headers head
    | .kHeaderValue => ∃ spaces,
      text = first ++ lines ++ (parser.name ++ 58 :: List.replicate spaces 32 ++ parser.buffer) ∧
        IsName parser.name ∧ IsValue parser.buffer ∧
        parser.head = addHeaders listener headers head
    | .kHeaderLF => ∃ name spaces value,
      text = first ++ lines ++ (name ++ 58 :: List.replicate spaces 32 ++ value ++ [13]) ∧
        IsName name ∧ IsValue value ∧
        parser.head = listener.addHeader name value (addHeaders listener headers head)
    | .kHeadersEndLF => text = first ++ lines ++ [13] ∧
      parser.head = addHeaders listener headers head
    | .kBody => text = first ++ lines ++ [13, 10] ∧ parser.head = addHeaders listener headers head
    | _ => False

/-- The last header is added after the others. -/
theorem addHeaders_snoc (headers : Headers) (name value : Bytes) (head : ρ) :
    addHeaders listener (headers ++ [(name, value)]) head =
      listener.addHeader name value (addHeaders listener headers head) := by
  simp [addHeaders]

/-- Every byte that is handled goes on with a header line, or with the end of the head. -/
theorem ReadHeaders.step {first text : Bytes} {head : ρ} {c : UInt8}
    (handled : handleChar listener parser c = .ok parser')
    (read : ReadHeaders listener first head parser text) :
    ReadHeaders listener first head parser' (text ++ [c]) := by
  -- In each state a byte goes on, completes what was collected, or is refused.
  obtain ⟨headers, lines, written, read⟩ := read
  obtain ⟨state, buffer, name, filled⟩ := parser
  cases state with
  | kHeaderStart =>
    obtain ⟨rfl, rfl⟩ := read
    simp only [handleChar] at handled
    split at handled
    · -- A carriage return at the start of a line ends the head.
      rename_i ended
      cases handled
      exact ⟨headers, lines, written, by simp [ended], rfl⟩
    · split at handled
      · -- Any other line begins with a token character, which is a name of length one.
        rename_i token
        cases handled
        refine ⟨headers, lines, written, rfl, ?_, rfl⟩
        exact ⟨by simp [restart], by simp [restart, kMaxHeaderNameLength], by simpa [restart] using token⟩
      · cases handled
  | kHeaderName =>
    obtain ⟨rfl, named, rfl⟩ := read
    simp only [handleChar] at handled
    split at handled
    · -- The colon ends the name, with no space skipped yet.
      rename_i colon
      cases handled
      exact ⟨headers, lines, written, 0, by simp [colon], named, rfl⟩
    · split at handled
      · rename_i token
        split at handled
        · rename_i room
          cases handled
          -- The name gets one character longer, which the parser has checked for room.
          refine ⟨headers, lines, written, by simp [put], ?_, rfl⟩
          refine ⟨by simp [put], ?_, ?_⟩
          · simp only [put, List.length_append, List.length_singleton]
            omega
          · intro c' among
            rcases List.mem_append.mp among with before | last
            · exact named.token c' before
            · rwa [List.mem_singleton.mp last]
        · cases handled
      · cases handled
  | kHeaderSpaces =>
    obtain ⟨spaces, rfl, named, rfl⟩ := read
    simp only [handleChar] at handled
    split at handled
    · -- One more space is skipped.
      rename_i space
      cases handled
      refine ⟨headers, lines, written, spaces + 1, ?_, named, rfl⟩
      simp [space, List.replicate_succ']
    · split at handled
      · cases handled
      · -- The first character that is no space begins the value, so that the value does not begin
        -- with one.
        rename_i spaced broken
        cases handled
        refine ⟨headers, lines, written, spaces, by simp [restart], named, ?_, rfl⟩
        exact ⟨by simp [restart], by simp [restart, kMaxHeaderValueLength],
          by simpa [restart] using Ne.symm broken, by simpa [restart] using spaced⟩
  | kHeaderValue =>
    obtain ⟨spaces, rfl, named, valued, rfl⟩ := read
    simp only [handleChar] at handled
    split at handled
    · -- A carriage return ends the value.
      rename_i ended
      cases handled
      exact ⟨headers, lines, written, name, spaces, buffer, by simp [ended], named, valued, rfl⟩
    · split at handled
      · -- The value gets one character longer, and its first character is the same as before.
        rename_i broken room
        cases handled
        refine ⟨headers, lines, written, spaces, by simp [put], named, ?_, rfl⟩
        refine ⟨by simp [put], ?_, ?_, ?_⟩
        · simp only [put, List.length_append, List.length_singleton]
          omega
        · simpa [put, Ne.symm broken] using valued.unbroken
        · obtain ⟨v, value, rfl⟩ := List.exists_cons_of_length_pos valued.nonempty
          simpa [put] using valued.unspaced
      · cases handled
  | kHeaderLF =>
    obtain ⟨name, spaces, value, rfl, named, valued, rfl⟩ := read
    simp only [handleChar] at handled
    split at handled
    · -- The line feed completes the line, which is now one of the header lines.
      rename_i ended
      cases handled
      refine ⟨_, _, written.snoc spaces named valued, ?_, ?_⟩
      · simp [headerLine, ended]
      · rw [addHeaders_snoc]
        rfl
    · cases handled
  | kHeadersEndLF =>
    obtain ⟨rfl, rfl⟩ := read
    simp only [handleChar] at handled
    split at handled
    · -- The line feed behind the empty line completes the head.
      rename_i ended
      cases handled
      exact ⟨headers, lines, written, by simp [ended], rfl⟩
    · cases handled
  -- In the body no more bytes are handled.
  | kBody => simp [handleChar] at handled
  | _ => exact absurd read id

end Reading

end HttpParser

end Rcom
