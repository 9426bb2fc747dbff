import Librcom.Bytes.Endian
import Librcom.Bytes.Letters
import Librcom.Http.HandshakeLaws

/-! The spellings of one request, and which of them open a WebSocket. -/

namespace Rcom

open Effects
open Json (ascii)
open HttpParser

/-- The name is one of those whose values are read in any letter case. -/
def IsCaseless (name : Bytes) : Prop :=
  SameLetters name (ascii "Upgrade") ∨ SameLetters name (ascii "Connection")

instance (name : Bytes) : Decidable (IsCaseless name) := inferInstanceAs (Decidable (_ ∨ _))

/-- The second header is the first one in another spelling that means the same. -/
structure Respelled (header header' : Bytes × Bytes) : Prop where
  name : SameLetters header.1 header'.1
  /-- Spaces may be added behind a value, whose letter case may change under some names. -/
  value : ∃ text spaces, header'.2 = text ++ List.replicate spaces 32 ∧
    (text = header.2 ∨ IsCaseless header.1 ∧ SameLetters header.2 text)
  fits : header'.2.length ≤ kMaxHeaderValueLength

/-- The lines of headers, and those of the same headers in another spelling. -/
inductive RespelledLines : Headers → Headers → Bytes → Bytes → Prop
  | none : RespelledLines [] [] [] []
  | more {name value name' value' : Bytes} {headers headers' : Headers} {lines lines' : Bytes}
      (spaces : Nat) (named : IsName name) (valued : IsValue value)
      (respelled : Respelled (name, value) (name', value'))
      (rest : RespelledLines headers headers' lines lines') :
      RespelledLines ((name, value) :: headers) ((name', value') :: headers')
        (headerLine name spaces value ++ lines) (headerLine name' spaces value' ++ lines')

/-- The head of a request, and that of the same request in another spelling. -/
inductive RespelledHead (uri : Bytes) (headers headers' : Headers) : Bytes → Bytes → Prop
  | written {lines lines' : Bytes} (first second : Nat) (asked : IsUri uri)
      (following : RespelledLines headers headers' lines lines') :
      RespelledHead uri headers headers' (requestLine first uri second ++ lines ++ [13, 10])
        (requestLine first uri second ++ lines' ++ [13, 10])

section Respelling

/-- A token may be spelled with small letters. -/
theorem isTokenCharacter_lower (c : UInt8) : isTokenCharacter (lower c) = isTokenCharacter c :=
  -- Letters are token characters in both cases, which is decided over all bytes.
  Endian.forall_byte (by decide +kernel) c

/-- No letter becomes the end of a line. -/
theorem lower_ne_return (c : UInt8) : (lower c != 13) = (c != 13) :=
  Endian.forall_byte (by decide +kernel) c

/-- Nothing but a blank becomes a blank. -/
theorem eq_space_of_lower (c : UInt8) (same : lower c = lower 32) : c = 32 := by
  revert same
  exact Endian.forall_byte (by decide +kernel) c

/-- A name in another letter case is a name. -/
theorem IsName.respelled {name name' : Bytes} (named : IsName name) (same : SameLetters name name') :
    IsName name' where
  nonempty := same.length ▸ named.nonempty
  fits := same.length ▸ named.fits
  token := same.all isTokenCharacter_lower named.token

/-- A value in another spelling is a value. -/
theorem IsValue.respelled {header header' : Bytes × Bytes} (valued : IsValue header.2)
    (respelled : Respelled header header') : IsValue header'.2 := by
  obtain ⟨text, spaces, written, spelled⟩ := respelled.value
  -- Whichever way the value is spelled, its letters are the same.
  have same : SameLetters header.2 text := by
    rcases spelled with rfl | ⟨-, same⟩
    · exact .refl _
    · exact same
  -- What is asked of a value is asked of its letters, whatever their case, and of its length.
  have nonempty : 1 ≤ text.length := same.length ▸ valued.nonempty
  have unbroken : ∀ c ∈ text, (c != 13) = true := by
    refine same.all lower_ne_return fun c member => ?_
    rw [bne_iff_ne]
    rintro rfl
    exact valued.unbroken member
  refine ⟨?_, respelled.fits, ?_, ?_⟩
  · rw [written, List.length_append]
    omega
  · -- A carriage return is neither one of the letters nor a space.
    rw [written, List.mem_append]
    rintro (inside | behind)
    · exact absurd (unbroken 13 inside) (by decide)
    · exact absurd (List.eq_of_mem_replicate behind) (by decide)
  · -- The first byte of the value is that of the text, in front of the spaces.
    obtain ⟨c, text, rfl⟩ := List.exists_cons_of_length_pos nonempty
    rw [written]
    exact same.head eq_space_of_lower valued.unspaced

/-- The first of two spellings is one of header lines. -/
theorem RespelledLines.left {headers headers' : Headers} {lines lines' : Bytes}
    (respelled : RespelledLines headers headers' lines lines') : HeaderLines headers lines := by
  induction respelled with
  | none => exact .none
  | more spaces named valued _ _ ih => exact .more spaces named valued ih

/-- So is the second. -/
theorem RespelledLines.right {headers headers' : Headers} {lines lines' : Bytes}
    (respelled : RespelledLines headers headers' lines lines') : HeaderLines headers' lines' := by
  induction respelled with
  | none => exact .none
  | more spaces named valued respelled _ ih =>
    exact .more spaces (named.respelled respelled.name) (valued.respelled respelled) ih

/-- The headers of two spellings differ in the letters of their names. -/
theorem RespelledLines.each {headers headers' : Headers} {lines lines' : Bytes}
    (respelled : RespelledLines headers headers' lines lines') :
    List.Forall₂ Respelled headers headers' := by
  induction respelled with
  | none => exact .nil
  | more _ _ _ respelled _ ih => exact .cons respelled ih

/-- Header lines may be respelled header by header. -/
theorem RespelledLines.of_map {respell : Bytes × Bytes → Bytes × Bytes}
    (respells : ∀ header, IsValue header.2 → Respelled header (respell header)) {headers : Headers}
    {lines : Bytes} (written : HeaderLines headers lines) :
    ∃ lines', RespelledLines headers (headers.map respell) lines lines' := by
  induction written with
  | none => exact ⟨[], .none⟩
  -- The line is written anew with the same spaces in front of its value.
  | @more name value _ _ spaces named valued _ ih =>
    obtain ⟨lines', rest⟩ := ih
    exact ⟨_, .more spaces named valued (respells (name, value) valued) rest⟩

end Respelling

section Acceptance

/-- The stream begins with a head that is parsed and opens a WebSocket. -/
def OpensWebsocket (stream : Bytes) : Prop :=
  ∃ after, RequestParser.parse.Yields (RequestParser.start (.reliable stream)) () after ∧
    after.parser.head.assertWebsocket = .ok ()

/-- The checks of a request, by the values that they look at. -/
theorem assertWebsocket_iff (uri : Bytes) (headers : Headers) :
    Request.assertWebsocket ⟨.kGetMethod, uri, headers⟩ = .ok () ↔
      (∃ key, headers.getHeaderValue (ascii "Sec-WebSocket-Key") = some key ∧
        Request.isValidWebsocketKey key = .ok ()) ∧
      headers.getHeaderValue (ascii "Sec-WebSocket-Version") = some (ascii "13") ∧
      (∃ value, headers.getHeaderValue (ascii "Connection") = some value ∧
        (Request.hasSubstring value (ascii "Upgrade") ||
          Request.hasSubstring value (ascii "upgrade")) = true) ∧
      headers.getHeaderValue (ascii "Upgrade") = some (ascii "websocket") := by
  have keyed : Request.hasValidWebsocketKey ⟨.kGetMethod, uri, headers⟩ = .ok () ↔
      ∃ key, headers.getHeaderValue (ascii "Sec-WebSocket-Key") = some key ∧
        Request.isValidWebsocketKey key = .ok () := by
    -- A missing header fails, and one that is there is asked for its form.
    unfold Request.hasValidWebsocketKey
    cases found : headers.getHeaderValue (ascii "Sec-WebSocket-Key") with
    | none => simp
    | some key => simp
  have connected : Request.connectionHeaderIsUpgrade ⟨.kGetMethod, uri, headers⟩ = .ok () ↔
      ∃ value, headers.getHeaderValue (ascii "Connection") = some value ∧
        (Request.hasSubstring value (ascii "Upgrade") ||
          Request.hasSubstring value (ascii "upgrade")) = true := by
    unfold Request.connectionHeaderIsUpgrade
    -- Both spellings of the word are looked for, one after the other.
    cases found : headers.getHeaderValue (ascii "Connection") with
    | none => simp
    | some value =>
      dsimp only
      split
      · rename_i word
        simpa using word
      · rename_i word
        simpa using word
  have versioned : Request.hasValidWebsocketVersion ⟨.kGetMethod, uri, headers⟩ = .ok () ↔
      headers.getHeaderValue (ascii "Sec-WebSocket-Version") = some (ascii "13") := by
    simp [Request.hasValidWebsocketVersion]
  have upgraded : Request.upgradeHeaderIsWebsocket ⟨.kGetMethod, uri, headers⟩ = .ok () ↔
      headers.getHeaderValue (ascii "Upgrade") = some (ascii "websocket") := by
    simp [Request.upgradeHeaderIsWebsocket]
  -- The checks are made one after the other, and the first one that fails decides.
  rw [← keyed, ← connected, ← versioned, ← upgraded]
  unfold Request.assertWebsocket
  have get : Request.httpMethodIsGet ⟨.kGetMethod, uri, headers⟩ = .ok () := rfl
  rw [get]
  -- Behind a check that passed, the next one is made.
  cases Request.hasValidWebsocketKey ⟨.kGetMethod, uri, headers⟩ with
  | error what => simp [bind, Except.bind]
  | ok _ =>
    cases Request.hasValidWebsocketVersion ⟨.kGetMethod, uri, headers⟩ with
    | error what => simp [bind, Except.bind]
    | ok _ =>
      cases Request.connectionHeaderIsUpgrade ⟨.kGetMethod, uri, headers⟩ with
      | error what => simp [bind, Except.bind]
      | ok _ => simp [bind, Except.bind]

/-- A head opens a WebSocket if the request that it holds passes the checks. -/
theorem opensWebsocket_iff {uri : Bytes} {headers : Headers} {head : Bytes}
    (written : RequestHead uri headers head) (rest : Bytes) :
    OpensWebsocket (head ++ rest) ↔
      Request.assertWebsocket ⟨.kGetMethod, uri, headers⟩ = .ok () := by
  have steady : (Socket.reliable (head ++ rest)).Steady := ⟨rfl, rfl, rfl⟩
  obtain ⟨after, returned, -, held⟩ :=
    (RequestParser.parse_accepts_iff steady).2.1 uri headers head rest written rfl
  constructor
  · -- The run is the one that is known, and so is the request that it leaves.
    rintro ⟨after', returned', passes⟩
    obtain ⟨-, rfl⟩ := returned.unique returned'
    rwa [held] at passes
  · intro passes
    exact ⟨after, returned, by rwa [held]⟩

end Acceptance

section Spellings

variable {uri : Bytes} {headers headers' : Headers}

/-- The first header that is spelled with the name, and how it was spelled before. -/
def spelledFirst (headers headers' : Headers) (name : Bytes) :
    Option ((Bytes × Bytes) × (Bytes × Bytes)) :=
  (headers.zip headers').find? fun pair => name == pair.2.1

/-- The value that is looked at is that of the first header that is spelled with the name. -/
theorem getHeaderValue_respelled (respelled : List.Forall₂ Respelled headers headers') (name : Bytes) :
    headers'.getHeaderValue name = (spelledFirst headers headers' name).map fun pair => pair.2.2 := by
  -- The headers that are searched are the second ones of the pairs.
  have seconds : (headers.zip headers').map Prod.snd = headers' :=
    List.map_snd_zip respelled.length_eq.ge
  have found : headers'.getHeaderValue name =
      (((headers.zip headers').map Prod.snd).find? fun header => name == header.1).map Prod.snd := by
    rw [seconds]
    rfl
  rw [found, List.find?_map, Option.map_map]
  rfl

/-- What is found under a name was spelled otherwise before. -/
theorem respelled_of_spelledFirst (respelled : List.Forall₂ Respelled headers headers') {name : Bytes}
    {pair : (Bytes × Bytes) × (Bytes × Bytes)} (found : spelledFirst headers headers' name = some pair) :
    pair.2.1 = name ∧ Respelled pair.1 pair.2 := by
  -- The pair that was found is one of the list, and its second name is the one looked for.
  have named := List.find?_some found
  have both := List.mem_of_find?_eq_some found
  exact ⟨(beq_iff_eq.mp named).symm, (List.forall₂_iff_zip.mp respelled).2 both⟩

/-- A value without a space at its end has none that was added. -/
theorem Respelled.unspaced {header header' : Bytes × Bytes} (respelled : Respelled header header')
    (ending : header'.2.getLast? ≠ some 32) :
    header'.2 = header.2 ∨ IsCaseless header.1 ∧ SameLetters header.2 header'.2 := by
  obtain ⟨text, spaces, written, spelled⟩ := respelled.value
  cases spaces with
  | zero =>
    rw [List.replicate_zero, List.append_nil] at written
    rwa [written]
  -- Of any added spaces one would be the last byte.
  | succ spaces =>
    rw [written, List.replicate_succ', ← List.append_assoc, List.getLast?_concat] at ending
    exact absurd rfl ending

/-- A value whose letter case counts is not changed, when no space is added to it. -/
theorem Respelled.unchanged {header header' : Bytes × Bytes} (respelled : Respelled header header')
    (ending : header'.2.getLast? ≠ some 32) (counts : ¬ IsCaseless header'.1) :
    header'.2 = header.2 := by
  rcases respelled.unspaced ending with same | ⟨caseless, -⟩
  · exact same
  · -- The letter case of the name does not matter for whether that of the value does.
    refine absurd ?_ counts
    rcases caseless with upgrade | connection
    · exact .inl (respelled.name.symm.trans upgrade)
    · exact .inr (respelled.name.symm.trans connection)

/--
The new spelling is one that the source asks for.

Of each of the four headers that are looked at, the first one that is spelled with exactly its name decides.
-/
structure SpelledAsAsked (headers headers' : Headers) : Prop where
  /-- The key is valid, and no space was added to it. -/
  key : ∃ pair, spelledFirst headers headers' (ascii "Sec-WebSocket-Key") = some pair ∧
    Request.isValidWebsocketKey pair.1.2 = .ok () ∧ pair.2.2 = pair.1.2
  /-- The version is the known one, and no space was added to it. -/
  version : ∃ pair, spelledFirst headers headers' (ascii "Sec-WebSocket-Version") = some pair ∧
    pair.1.2 = ascii "13" ∧ pair.2.2 = pair.1.2
  /-- The word is there in one of the two spellings that are known. -/
  connection : ∃ pair, spelledFirst headers headers' (ascii "Connection") = some pair ∧
    (Request.hasSubstring pair.2.2 (ascii "Upgrade") ||
      Request.hasSubstring pair.2.2 (ascii "upgrade")) = true
  /-- The word is in small letters, and has no space behind it. -/
  upgrade : ∃ pair, spelledFirst headers headers' (ascii "Upgrade") = some pair ∧
    SameLetters pair.1.2 (ascii "websocket") ∧ pair.2.2 = ascii "websocket"

/-- A valid key has no space at its end. -/
theorem getLast?_of_isValidWebsocketKey {key : Bytes}
    (valid : Request.isValidWebsocketKey key = .ok ()) : key.getLast? ≠ some 32 := by
  unfold Request.isValidWebsocketKey at valid
  split at valid
  · cases valid
  · split at valid
    · cases valid
    · -- The last of the twenty-four characters is an equals sign.
      rename_i size filled
      rw [List.getLast?_eq_getElem?, not_not.mp size]
      intro space
      exact filled (.inr (by rw [space]; decide))

/-- A head in a new spelling passes the checks if and only if that is one which the source asks for. -/
theorem assertWebsocket_respelled (respelled : List.Forall₂ Respelled headers headers') :
    Request.assertWebsocket ⟨.kGetMethod, uri, headers'⟩ = .ok () ↔ SpelledAsAsked headers headers' := by
  rw [assertWebsocket_iff]
  simp only [getHeaderValue_respelled respelled, Option.map_eq_some_iff]
  constructor
  · -- The key, the version and the word are what they were, as no space can be at their ends.
    rintro ⟨⟨_, ⟨keyed, foundKey, rfl⟩, valid⟩, ⟨versioned, foundVersion, known⟩,
      ⟨_, ⟨connected, foundConnection, rfl⟩, word⟩, ⟨upgraded, foundUpgrade, small⟩⟩
    obtain ⟨name, spelled⟩ := respelled_of_spelledFirst respelled foundKey
    have key := spelled.unchanged (getLast?_of_isValidWebsocketKey valid) (by rw [name]; decide)
    obtain ⟨name', spelled'⟩ := respelled_of_spelledFirst respelled foundVersion
    have version := spelled'.unchanged (by rw [known]; decide) (by rw [name']; decide)
    obtain ⟨-, spelled''⟩ := respelled_of_spelledFirst respelled foundUpgrade
    refine ⟨⟨keyed, foundKey, key ▸ valid, key⟩, ⟨versioned, foundVersion, version ▸ known, version⟩,
      ⟨connected, foundConnection, word⟩, ⟨upgraded, foundUpgrade, ?_, small⟩⟩
    -- The word may have been in other letters before.
    rcases spelled''.unspaced (by rw [small]; decide) with same | ⟨-, same⟩
    · rw [← same, small]
      exact .refl _
    · rwa [small] at same
  · rintro ⟨⟨keyed, foundKey, valid, key⟩, ⟨versioned, foundVersion, known, version⟩,
      ⟨connected, foundConnection, word⟩, ⟨upgraded, foundUpgrade, -, small⟩⟩
    exact ⟨⟨_, ⟨keyed, foundKey, rfl⟩, key ▸ valid⟩, ⟨versioned, foundVersion, version.trans known⟩,
      ⟨_, ⟨connected, foundConnection, rfl⟩, word⟩, ⟨upgraded, foundUpgrade, small⟩⟩

/-- The name `Upgrade` in small letters, and any other header as it is. -/
def smallUpgrade (header : Bytes × Bytes) : Bytes × Bytes :=
  if header.1 = ascii "Upgrade" then (ascii "upgrade", header.2) else header

/-- A header stays the same with the name in small letters. -/
theorem respelled_smallUpgrade (header : Bytes × Bytes) (valued : IsValue header.2) :
    Respelled header (smallUpgrade header) := by
  unfold smallUpgrade
  split
  · -- Only the name is changed, so that the value is as it was, with no space added.
    rename_i named
    have same : SameLetters (ascii "Upgrade") (ascii "upgrade") := by decide
    exact ⟨named ▸ same, ⟨header.2, 0, (List.append_nil _).symm, .inl rfl⟩, valued.fits⟩
  · exact ⟨.refl _, ⟨header.2, 0, (List.append_nil _).symm, .inl rfl⟩, valued.fits⟩

/-- The name in small letters is not the one that is looked for. -/
theorem smallUpgrade_ne (header : Bytes × Bytes) : (smallUpgrade header).1 ≠ ascii "Upgrade" := by
  unfold smallUpgrade
  split
  · have other : ascii "upgrade" ≠ ascii "Upgrade" := by decide
    exact other
  · assumption

/-- In small letters the name is not found, so that the request does not open a WebSocket. -/
theorem not_assertWebsocket_smallUpgrade (uri : Bytes) (headers : Headers) :
    Request.assertWebsocket ⟨.kGetMethod, uri, headers.map smallUpgrade⟩ ≠ .ok () := by
  intro passes
  obtain ⟨-, -, -, upgraded⟩ := (assertWebsocket_iff uri _).mp passes
  obtain ⟨header, found, -⟩ := Option.map_eq_some_iff.mp upgraded
  -- What is found was renamed, and nothing renamed has the name.
  have named := List.find?_some found
  obtain ⟨before, -, rfl⟩ := List.mem_map.mp (List.mem_of_find?_eq_some found)
  exact smallUpgrade_ne before (beq_iff_eq.mp named).symm

/-- A spelling of a head is the head of a request with the headers so spelled. -/
theorem RespelledHead.right {head head' : Bytes}
    (respelled : RespelledHead uri headers headers' head head') : RequestHead uri headers' head' := by
  obtain ⟨first, second, asked, following⟩ := respelled
  exact .written first second asked following.right

/-- The headers of two spellings of a head differ in the letters of their names. -/
theorem RespelledHead.each {head head' : Bytes}
    (respelled : RespelledHead uri headers headers' head head') :
    List.Forall₂ Respelled headers headers' := by
  obtain ⟨first, second, asked, following⟩ := respelled
  exact following.each

/--
Whether a request opens a WebSocket depends on how it is spelled.

Of the spellings of a head, exactly those that the source asks for open one,
and for every head there is a spelling that does not, whether the head opens one or not.
-/
theorem opensWebsocket_respelled_iff {head : Bytes} (written : RequestHead uri headers head)
    (rest : Bytes) :
    (∀ headers' head', RespelledHead uri headers headers' head head' →
      (OpensWebsocket (head' ++ rest) ↔ SpelledAsAsked headers headers')) ∧
    ∃ headers' head', RespelledHead uri headers headers' head head' ∧
      ¬ OpensWebsocket (head' ++ rest) := by
  constructor
  · intro headers' head' respelled
    rw [opensWebsocket_iff respelled.right rest]
    exact assertWebsocket_respelled respelled.each
  · -- One name in small letters is enough.
    obtain ⟨first, second, asked, following⟩ := written
    obtain ⟨lines', respelled⟩ := RespelledLines.of_map respelled_smallUpgrade following
    have spelled := RespelledHead.written first second asked respelled
    refine ⟨_, _, spelled, fun opens => ?_⟩
    exact not_assertWebsocket_smallUpgrade uri _ ((opensWebsocket_iff spelled.right rest).mp opens)

end Spellings

section Example

/-- The headers that open a WebSocket, and no others. -/
def plainHeaders : Headers :=
  [(ascii "Connection", ascii "Upgrade"), (ascii "Upgrade", ascii "websocket"),
    (ascii "Sec-WebSocket-Key", ascii "AAAAAAAAAAAAAAAAAAAAAA=="),
    (ascii "Sec-WebSocket-Version", ascii "13")]

/-- The head of a request, with a space before each value. -/
def plainHead (headers : Headers) : Bytes := requestLine 0 [47] 0 ++ spacedLines headers ++ [13, 10]

/-- The plain headers have good names and values. -/
theorem plainHeaders_good : ∀ header ∈ plainHeaders, IsName header.1 ∧ IsValue header.2 := by
  intro header member
  simp only [plainHeaders, List.mem_cons, List.not_mem_nil, or_false] at member
  rcases member with rfl | rfl | rfl | rfl
  · exact ⟨isName_connection, isValue_upgrade⟩
  · exact ⟨isName_upgrade, isValue_websocket⟩
  · exact ⟨isName_key, by decide, by decide, by decide, by decide⟩
  · exact ⟨isName_version, isValue_version⟩

/-- The plain head is the head of a request. -/
theorem plainHead_written : RequestHead [47] plainHeaders (plainHead plainHeaders) :=
  .written 0 0 ⟨by decide, by decide, by decide⟩ (headerLines_spacedLines plainHeaders_good)

/-- Each spelling of the headers gives a spelling of the head. -/
theorem respelledLines_spacedLines {headers headers' : Headers}
    (good : ∀ header ∈ headers, IsName header.1 ∧ IsValue header.2)
    (respelled : List.Forall₂ Respelled headers headers') :
    RespelledLines headers headers' (spacedLines headers) (spacedLines headers') := by
  induction respelled with
  | nil => exact .none
  | cons first _ ih =>
    obtain ⟨named, valued⟩ := good _ List.mem_cons_self
    exact .more 1 named valued first (ih fun other among => good other (List.mem_cons_of_mem _ among))

/-- The plain head is one that opens a WebSocket as it is, and in other spellings does not. -/
theorem opensWebsocket_respelled_iff_plain :
    (∀ headers' head', RespelledHead [47] plainHeaders headers' (plainHead plainHeaders) head' →
      (OpensWebsocket (head' ++ []) ↔ SpelledAsAsked plainHeaders headers')) ∧
    ∃ headers' head', RespelledHead [47] plainHeaders headers' (plainHead plainHeaders) head' ∧
      ¬ OpensWebsocket (head' ++ []) :=
  opensWebsocket_respelled_iff plainHead_written []

/-- With the name of one header in small letters, the request is refused. -/
theorem opensWebsocket_small_fails :
    RespelledHead [47] plainHeaders (plainHeaders.map smallUpgrade) (plainHead plainHeaders)
        (plainHead (plainHeaders.map smallUpgrade)) ∧
      OpensWebsocket (plainHead plainHeaders ++ []) ∧
      ¬ OpensWebsocket (plainHead (plainHeaders.map smallUpgrade) ++ []) := by
  have respelled : List.Forall₂ Respelled plainHeaders (plainHeaders.map smallUpgrade) := by
    rw [List.forall₂_map_right_iff]
    exact List.forall₂_same.mpr fun header member =>
      respelled_smallUpgrade header (plainHeaders_good header member).2
  have root : IsUri [47] := ⟨by decide, by decide, by decide⟩
  have spelled := RespelledHead.written 0 0 root
    (respelledLines_spacedLines plainHeaders_good respelled)
  refine ⟨spelled, ?_, fun opens => ?_⟩
  · rw [opensWebsocket_iff plainHead_written]
    rfl
  · exact not_assertWebsocket_smallUpgrade [47] _ ((opensWebsocket_iff spelled.right []).mp opens)

end Example

end Rcom
