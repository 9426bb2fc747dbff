import Librcom.Http.RequestLaws

/-! The bytes that get into a request although no request may have them. -/

namespace Rcom

open Effects
open Json (ascii)
open HttpParser

/-- A character that a token may have. -/
def isTchar (c : UInt8) : Bool :=
  isDigit c || isUpper c || (97 ≤ c && c ≤ 122) || (ascii "!#$%&'*+-.^_`|~").contains c

/-- Nothing in the request breaks its lines or is foreign to its names. -/
structure Request.Sound (request : Request) : Prop where
  uri : ∀ c ∈ request.uri, isControl c = false
  names : ∀ header ∈ request.headers, ∀ c ∈ header.1, isTchar c = true
  values : ∀ header ∈ request.headers, ∀ c ∈ header.2, c ≠ 13 ∧ c ≠ 10 ∧ c ≠ 0

namespace RequestParser

/-- A parser of requests at the beginning of a stream. -/
def fresh : HttpParser Request := ⟨.kRequestMethod, [], [], Request.create⟩

/-- At the first line break of the stream the parser is through with the request line. -/
def EndsWithLine (stream : Bytes) : Prop :=
  ∀ line rest, stream = line ++ 13 :: 10 :: rest → ¬ [13, 10] <:+: line →
    ∃ parser, feed listener fresh (line ++ [13, 10]) = .ok parser ∧ parser.state = .kHeaderStart

/--
What the checks leave to be asked of a head: there is no control character between its spaces, in
its names there is neither a quotation mark nor a byte that is no character, and in its values there
is neither a line feed nor a null byte.
-/
structure Clean (uri : Bytes) (headers : Headers) : Prop where
  uri : ∀ c ∈ uri, isControl c = false
  names : ∀ header ∈ headers, ∀ c ∈ header.1, c ≠ 34 ∧ c < 128
  values : ∀ header ∈ headers, 10 ∉ header.2 ∧ 0 ∉ header.2

/-- Should the stream begin with the head of a request, then with a clean one. -/
def CleanInFront (stream : Bytes) : Prop :=
  ∀ uri headers head rest, RequestHead uri headers head → stream = head ++ rest → Clean uri headers

/-- The checks of a name leave two kinds of bytes that no token may have. -/
theorem isTchar_iff {c : UInt8} (token : isTokenCharacter c = true) :
    isTchar c = true ↔ c ≠ 34 ∧ c < 128 := by
  -- There are only 256 bytes to look at.
  revert token
  exact Endian.forall_byte (by decide +kernel) c

/-- The lines of the headers are made of names and values. -/
theorem HeaderLines.named {headers : Headers} {lines : Bytes} (written : HeaderLines headers lines) :
    ∀ header ∈ headers, IsName header.1 ∧ IsValue header.2 := by
  induction written with
  | none => simp
  | more spaces named valued _ ih =>
    intro header member
    -- A header is the one in front, or it is among those behind it.
    rcases List.mem_cons.mp member with rfl | behind
    · exact ⟨named, valued⟩
    · exact ih header behind

/-- For a head that is accepted, the request is sound if and only if the head is clean. -/
theorem sound_iff {uri : Bytes} {headers : Headers} {lines : Bytes}
    (written : HeaderLines headers lines) :
    (Request.mk .kGetMethod uri headers).Sound ↔ Clean uri headers := by
  -- What the checks ensure of names and values is given, and only the rest has to be compared.
  have read := HeaderLines.named written
  constructor
  · intro sound
    refine ⟨sound.uri, fun header member c among => ?_, fun header member => ?_⟩
    · have token := (read header member).1.token c among
      exact (isTchar_iff token).mp (sound.names header member c among)
    · -- A line feed and a null byte are the two that the checks of a value let through.
      constructor
      · exact fun feed => (sound.values header member 10 feed).2.1 rfl
      · exact fun null => (sound.values header member 0 null).2.2 rfl
  · intro clean
    refine ⟨clean.uri, fun header member c among => ?_, fun header member c among => ?_⟩
    · have token := (read header member).1.token c among
      exact (isTchar_iff token).mpr (clean.names header member c among)
    · refine ⟨?_, ?_, ?_⟩
      · -- A carriage return is not in a value, because it would have ended it.
        rintro rfl
        exact (read header member).2.unbroken among
      · rintro rfl
        exact (clean.values header member).1 among
      · rintro rfl
        exact (clean.values header member).2 among

/-- Where no carriage return comes earlier, there is only one first line. -/
theorem line_unique {line line' rest rest' : Bytes} (unbroken : 13 ∉ line)
    (same : line' ++ 13 :: 10 :: rest' = line ++ 13 :: 10 :: rest)
    (first : ¬ [13, 10] <:+: line') : line' = line := by
  -- Of two splits of one stream, one line begins the other.
  rcases List.append_eq_append_iff.mp same with ⟨back, rfl, ends⟩ | ⟨back, rfl, ends⟩
  · -- The line would go on behind a carriage return.
    cases back with
    | nil => exact (List.append_nil _).symm
    | cons c back =>
      rw [List.cons_append, List.cons.injEq] at ends
      exact absurd (by simp [← ends.1]) unbroken
  · -- In the other direction the shorter line is the given one, and the next two bytes are a break.
    cases back with
    | nil => exact List.append_nil _
    | cons c back =>
      rw [List.cons_append, List.cons.injEq] at ends
      obtain ⟨rfl, ends⟩ := ends
      cases back with
      | nil => cases ends
      | cons c back =>
        rw [List.cons_append, List.cons.injEq] at ends
        obtain ⟨rfl, -⟩ := ends
        -- Then the break would already be within the line that is said to be the first.
        exact absurd ⟨line, back, by simp⟩ first

/-- After a clean request line, the first line break is its own. -/
theorem endsWithLine_of_clean {uri : Bytes} (asked : IsUri uri)
    (clean : ∀ c ∈ uri, isControl c = false) (first second : Nat) (rest : Bytes) :
    EndsWithLine (requestLine first uri second ++ rest) := by
  let line := ascii "GET" ++ List.replicate (first + 1) 32 ++ uri ++
    List.replicate (second + 1) 32 ++ ascii "HTTP/1.1"
  -- Neither the fixed words nor a clean URI have a carriage return in them.
  have unbroken : 13 ∉ line := by
    have apart : (13 : UInt8) ∉ uri := fun among => absurd (clean 13 among) (by decide)
    have method : (13 : UInt8) ∉ ascii "GET" := by decide
    have version : (13 : UInt8) ∉ ascii "HTTP/1.1" := by decide
    simp [line, apart, method, version]
  intro line' rest' split noBreak
  have whole : requestLine first uri second = line ++ [13, 10] := rfl
  have same : line' ++ 13 :: 10 :: rest' = line ++ 13 :: 10 :: rest := by
    rw [← split, whole]
    simp
  -- Hence the first line break is the one that the request line is written with.
  obtain rfl := line_unique unbroken same noBreak
  exact ⟨_, feed_requestLine asked first second [], rfl⟩

/-- Whatever the socket does, a request that was accepted is the one that its head says. -/
theorem parse_head (socket : Socket) {after : Parsing Request}
    (accepted : RequestParser.parse.Yields (start socket) () after) :
    ∃ uri headers lines first second, IsUri uri ∧ HeaderLines headers lines ∧
      socket.incoming = requestLine first uri second ++ lines ++ [13, 10] ++ after.socket.incoming ∧
      after.parser.head = ⟨.kGetMethod, uri, headers⟩ := by
  -- The bytes that were read and the parser go together after each round.
  have ensured : RequestParser.parse.Ensures (start socket)
      (fun _ after => ∃ text, socket.incoming = text ++ after.socket.incoming ∧
        ReadRequest after.parser text ∧ after.parser.state = .kBody) (fun _ _ => True) := by
    apply (Program.yields_update _ _).bind_ensures
    refine Program.Ensures.mono (parse_ensures (fun _ _ _ _ handled read =>
      ReadRequest.step handled read) ?_) (fun _ _ held => held) (fun _ _ failed => failed)
    exact ⟨rfl, rfl⟩
  obtain ⟨text, apart, read, complete⟩ := ensured.yields accepted
  -- In the last state the whole head is behind the parser.
  unfold ReadRequest at read
  rw [complete] at read
  obtain ⟨first, uri, second, asked, headers, lines, written, read⟩ := read
  rw [complete] at read
  obtain ⟨rfl, filled⟩ := read
  refine ⟨uri, headers, lines, first, second, asked, written, apart, ?_⟩
  rw [filled, addHeaders_eq, List.nil_append]

/--
Whatever stream is accepted, its request is sound and its request line ends at the first line break,
if and only if the stream, should it begin with the head of a request, begins with a clean one.
-/
theorem parse_sound_iff (stream : Bytes) :
    (∀ (socket : Socket) (after : Parsing Request), socket.incoming = stream →
      RequestParser.parse.Yields (start socket) () after →
      after.parser.head.Sound ∧ EndsWithLine stream) ↔ CleanInFront stream := by
  constructor
  · rintro always uri headers head rest written rfl
    -- Where all goes well, the head is accepted and the request holds what it says.
    have steady : (Socket.reliable (head ++ rest)).Steady := ⟨rfl, rfl, rfl⟩
    obtain ⟨parser', scanned, filled⟩ := scan_requestHead written [] rest
    have sound := (always _ _ rfl (parse_yields steady scanned)).1
    obtain ⟨first, second, asked, following⟩ := written
    rw [show (Parsing.mk parser' _).parser.head = _ from filled] at sound
    exact (sound_iff following).mp sound
  · rintro clean socket after rfl accepted
    obtain ⟨uri, headers, lines, first, second, asked, following, incoming, filled⟩ :=
      parse_head socket accepted
    -- What was accepted is a head that was written, and the condition speaks of all of them.
    have tidy := clean uri headers _ _ (.written first second asked following) incoming
    refine ⟨?_, ?_⟩
    · rw [filled]
      exact (sound_iff following).mpr tidy
    · rw [incoming, List.append_assoc, List.append_assoc]
      exact endsWithLine_of_clean asked tidy.uri first second _

/--
A request line without a version goes on over its end, so that the URI has a line break in it. A
name is accepted with a quotation mark, and a value with a line feed and a null byte.
-/
theorem parse_sound_iff_fails :
    (let stream := ascii "GET /\r\nHost: HTTP/1.1\r\n\r\n"
      ∃ after, RequestParser.parse.Yields (start (.reliable stream)) () after ∧
        after.parser.head.uri = ascii "/\r\nHost:" ∧ ¬ after.parser.head.Sound ∧
        ¬ EndsWithLine stream) ∧
    let stream := ascii "GET / HTTP/1.1\r\n\"a: b\n" ++ [0, 13, 10, 13, 10]
    ∃ after, RequestParser.parse.Yields (start (.reliable stream)) () after ∧
      after.parser.head.headers = [(ascii "\"a", [98, 10, 0])] ∧
      (∃ header ∈ after.parser.head.headers, ∃ c ∈ header.1, isTchar c = false) ∧
      ∃ header ∈ after.parser.head.headers, 10 ∈ header.2 ∧ 0 ∈ header.2 := by
  constructor
  · intro stream
    let after := RequestParser.parse.after 40 (start (.reliable stream))
    have accepted : RequestParser.parse.Yields (start (.reliable stream)) () after :=
      Program.yields_after (by decide +kernel)
    have uri : after.parser.head.uri = ascii "/\r\nHost:" := by decide +kernel
    refine ⟨after, accepted, uri, ?_, ?_⟩
    · intro sound
      exact absurd (sound.uri 13 (uri ▸ by decide)) (by decide)
    · -- At the first line break the parser is still reading the URI.
      intro ends
      obtain ⟨parser, fed, state⟩ := ends (ascii "GET /") (ascii "Host: HTTP/1.1\r\n\r\n") rfl
        (by decide)
      have uriState : (feed listener fresh (ascii "GET /" ++ [13, 10])).map HttpParser.state =
          .ok .kRequestUri := by decide +kernel
      rw [fed] at uriState
      rw [Except.map, state] at uriState
      cases uriState
  · intro stream
    let after := RequestParser.parse.after 40 (start (.reliable stream))
    have accepted : RequestParser.parse.Yields (start (.reliable stream)) () after :=
      Program.yields_after (by decide +kernel)
    have headers : after.parser.head.headers = [(ascii "\"a", [98, 10, 0])] := by decide +kernel
    refine ⟨after, accepted, headers, ?_, ?_⟩
    · exact ⟨_, headers ▸ List.mem_singleton_self _, 34, by decide, by decide⟩
    · exact ⟨_, headers ▸ List.mem_singleton_self _, by decide, by decide⟩

end RequestParser

end Rcom
