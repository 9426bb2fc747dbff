import Librcom.Http.Heads

/-! The heads that the parser of requests accepts. -/

namespace Rcom

open Effects
open Json (ascii)
open HttpParser

/-- What a request asks for. -/
structure IsUri (uri : Bytes) : Prop where
  nonempty : 1 ≤ uri.length
  fits : uri.length ≤ kMaxUriLength
  unspaced : 32 ∉ uri

/-- The first line of a request, with spaces between its parts. -/
def requestLine (first : Nat) (uri : Bytes) (second : Nat) : Bytes :=
  ascii "GET" ++ List.replicate (first + 1) 32 ++ uri ++ List.replicate (second + 1) 32 ++
    ascii "HTTP/1.1" ++ [13, 10]

/-- The head of a request, by what it asks for and its headers. -/
inductive RequestHead (uri : Bytes) (headers : Headers) : Bytes → Prop
  | written {lines : Bytes} (first second : Nat) (asked : IsUri uri)
      (following : HeaderLines headers lines) :
      RequestHead uri headers (requestLine first uri second ++ lines ++ [13, 10])

/-- A parser of requests before it reads anything. -/
def RequestParser.start (socket : Socket) : Parsing Request :=
  ⟨HttpParser.create Request.create, socket⟩

namespace RequestParser

/-- The headers are added behind those that there are. -/
theorem addHeaders_eq (headers : Headers) (request : Request) :
    addHeaders listener headers request =
      { request with headers := request.headers ++ headers } := by
  induction headers generalizing request with
  | nil => simp [addHeaders]
  | cons header headers ih =>
    show addHeaders listener headers (addHeader header.1 header.2 request) = _
    -- The hypothesis is at the request that has the first header already.
    rw [ih]
    simp [addHeader]

section Forward

variable {uri : Bytes} {name : Bytes}

/-- The first line tells the method and the URI. -/
theorem feed_requestLine (asked : IsUri uri) (first second : Nat) (name : Bytes) :
    feed listener ⟨.kRequestMethod, [], name, Request.create⟩ (requestLine first uri second) =
      .ok ⟨.kHeaderStart, ascii "HTTP/1.1", name, ⟨.kGetMethod, uri, []⟩⟩ := by
  obtain ⟨c, uri', rfl⟩ := List.exists_cons_of_length_pos asked.nonempty
  have spaced : c ≠ 32 := fun same => asked.unspaced (by simp [same])
  -- One fact for each part of the line.
  have method : feed listener ⟨.kRequestMethod, [], name, Request.create⟩ (ascii "GET" ++ [32]) =
      .ok ⟨.kRequestMethodSpaces, ascii "GET", name, ⟨.kGetMethod, [], []⟩⟩ := by rfl
  have skipped : handleChar listener
      ⟨.kRequestMethodSpaces, ascii "GET", name, ⟨.kGetMethod, [], []⟩⟩ 32 =
      .ok ⟨.kRequestMethodSpaces, ascii "GET", name, ⟨.kGetMethod, [], []⟩⟩ := by rfl
  have begun : handleChar listener
      ⟨.kRequestMethodSpaces, ascii "GET", name, ⟨.kGetMethod, [], []⟩⟩ c =
      .ok ⟨.kRequestUri, [c], name, ⟨.kGetMethod, [], []⟩⟩ := by
    simp [handleChar, spaced, restart]
  have body : feed listener ⟨.kRequestUri, [c], name, ⟨.kGetMethod, [], []⟩⟩ uri' =
      .ok ⟨.kRequestUri, c :: uri', name, ⟨.kGetMethod, [], []⟩⟩ := by
    -- The URI is collected up to the space behind it.
    have fits := asked.fits
    simp only [List.length_cons] at fits
    apply feed_puts kMaxUriLength _ rfl
    · simp only [List.length_singleton]
      omega
    · intro parser c' expecting among room
      have expecting : parser.state = .kRequestUri := expecting
      have inside : c' ≠ 32 := by
        rintro rfl
        exact asked.unspaced (List.mem_cons_of_mem _ among)
      simp [handleChar, expecting, inside, Nat.not_lt.mpr room.le]
  have asks : handleChar listener ⟨.kRequestUri, c :: uri', name, ⟨.kGetMethod, [], []⟩⟩ 32 =
      .ok ⟨.kRequestUriSpaces, c :: uri', name, ⟨.kGetMethod, c :: uri', []⟩⟩ := by
    -- The space asks whether the URI is too long, which it is not.
    have fits := Nat.not_lt.mpr asked.fits
    simp only [handleChar, gt_iff_lt, fits, if_false, if_true]
    rfl
  have skipped' : handleChar listener
      ⟨.kRequestUriSpaces, c :: uri', name, ⟨.kGetMethod, c :: uri', []⟩⟩ 32 =
      .ok ⟨.kRequestUriSpaces, c :: uri', name, ⟨.kGetMethod, c :: uri', []⟩⟩ := by rfl
  -- The version is fixed, and is collected and compared by evaluation.
  have version : feed listener ⟨.kRequestUriSpaces, c :: uri', name, ⟨.kGetMethod, c :: uri', []⟩⟩
      (ascii "HTTP/1.1" ++ [13, 10]) =
      .ok ⟨.kHeaderStart, ascii "HTTP/1.1", name, ⟨.kGetMethod, c :: uri', []⟩⟩ := by rfl
  have line : requestLine first (c :: uri') second =
      (ascii "GET" ++ [32]) ++ (List.replicate first 32 ++ c :: (uri' ++ 32 ::
        (List.replicate second 32 ++ (ascii "HTTP/1.1" ++ [13, 10])))) := by
    simp [requestLine, List.replicate_succ]
  rw [line]
  apply feed_append method
  apply feed_append (feed_spaces skipped first)
  rw [feed_cons begun]
  apply feed_append body
  rw [feed_cons asks]
  exact feed_append (feed_spaces skipped' second) version

/-- The scan of a head ends with it. -/
theorem scan_requestHead {headers : Headers} {head : Bytes} (written : RequestHead uri headers head)
    (name rest : Bytes) :
    ∃ parser', scan listener ⟨.kRequestMethod, [], name, Request.create⟩ (head ++ rest) =
      .ok (parser', rest) ∧ parser'.head = ⟨.kGetMethod, uri, headers⟩ := by
  obtain ⟨first, second, asked, following⟩ := written
  rename_i lines
  have fed := feed_requestLine asked first second name
  have began : (HttpParser.mk .kHeaderStart (ascii "HTTP/1.1") name
      (Request.mk .kGetMethod uri [])).state = .kHeaderStart := rfl
  -- The lines are scanned from where the first line ends.
  obtain ⟨parser', scanned, filled⟩ := scan_headerLines listener following began rest
  refine ⟨parser', ?_, ?_⟩
  · have apart : requestLine first uri second ++ lines ++ [13, 10] ++ rest =
        requestLine first uri second ++ (lines ++ 13 :: 10 :: rest) := by simp
    rw [apart, scan_append fed (by simp), scanned]
  · rw [filled, addHeaders_eq, List.nil_append]

end Forward

section Backward

/-- What the bytes handled so far are. -/
def ReadRequest (parser : HttpParser Request) (text : Bytes) : Prop :=
  match parser.state with
  | .kRequestMethod => text = parser.buffer ∧ parser.head = Request.create
  | .kRequestMethodSpaces => ∃ first, text = ascii "GET" ++ List.replicate (first + 1) 32 ∧
    parser.head = ⟨.kGetMethod, [], []⟩
  | .kRequestUri => ∃ first,
    text = ascii "GET" ++ List.replicate (first + 1) 32 ++ parser.buffer ∧
      1 ≤ parser.buffer.length ∧ 32 ∉ parser.buffer ∧ parser.head = ⟨.kGetMethod, [], []⟩
  | .kRequestUriSpaces => ∃ first uri second,
    text = ascii "GET" ++ List.replicate (first + 1) 32 ++ uri ++ List.replicate (second + 1) 32 ∧
      IsUri uri ∧ parser.head = ⟨.kGetMethod, uri, []⟩
  | .kRequestVersion => ∃ first uri second,
    text = ascii "GET" ++ List.replicate (first + 1) 32 ++ uri ++ List.replicate (second + 1) 32 ++
      parser.buffer ∧ IsUri uri ∧ parser.head = ⟨.kGetMethod, uri, []⟩
  | .kRequestLineLF => ∃ first uri second,
    text = ascii "GET" ++ List.replicate (first + 1) 32 ++ uri ++ List.replicate (second + 1) 32 ++
      ascii "HTTP/1.1" ++ [13] ∧ IsUri uri ∧ parser.head = ⟨.kGetMethod, uri, []⟩
  | _ => ∃ first uri second, IsUri uri ∧
    ReadHeaders listener (requestLine first uri second) ⟨.kGetMethod, uri, []⟩ parser text

/-- Behind the first line there are header lines. -/
theorem ReadRequest.of_headers {parser : HttpParser Request} {text uri : Bytes} {first second : Nat}
    (asked : IsUri uri)
    (read : ReadHeaders listener (requestLine first uri second) ⟨.kGetMethod, uri, []⟩ parser text) :
    ReadRequest parser text := by
  obtain ⟨state, buffer, name, filled⟩ := parser
  have inside : ReadHeaders listener (requestLine first uri second) ⟨.kGetMethod, uri, []⟩
      ⟨state, buffer, name, filled⟩ text := read
  obtain ⟨headers, lines, written, read⟩ := read
  -- In the states of the first line no header line was begun.
  cases state with
  | kRequestMethod => exact absurd read id
  | kRequestMethodSpaces => exact absurd read id
  | kRequestUri => exact absurd read id
  | kRequestUriSpaces => exact absurd read id
  | kRequestVersion => exact absurd read id
  | kRequestLineLF => exact absurd read id
  | _ => exact ⟨first, uri, second, asked, inside⟩

/-- Every byte that is handled goes on with the head of a request. -/
theorem ReadRequest.step {parser parser' : HttpParser Request} {c : UInt8} {text : Bytes}
    (handled : handleChar listener parser c = .ok parser') (read : ReadRequest parser text) :
    ReadRequest parser' (text ++ [c]) := by
  obtain ⟨state, buffer, name, filled⟩ := parser
  cases state with
  | kRequestMethod =>
    -- The method is collected up to a space, and only GET is accepted.
    obtain ⟨rfl, rfl⟩ := read
    simp only [handleChar] at handled
    split at handled
    · cases handled
    · split at handled
      · rename_i space
        simp only [told, listener, setMethod] at handled
        split at handled
        · rename_i get
          cases handled
          exact ⟨0, by simp [get, space], rfl⟩
        · cases handled
      · split at handled
        · cases handled
          exact ⟨rfl, rfl⟩
        · cases handled
  | kRequestMethodSpaces =>
    -- Spaces are counted until the URI begins.
    obtain ⟨first, rfl, rfl⟩ := read
    simp only [handleChar] at handled
    split at handled
    · rename_i space
      cases handled
      exact ⟨first + 1, by simp [space, List.replicate_succ'], rfl⟩
    · rename_i spaced
      cases handled
      exact ⟨first, by simp [restart], by simp [restart], by simpa [restart] using Ne.symm spaced, rfl⟩
  | kRequestUri =>
    -- A character of the URI is put in the buffer, whose length the space looks at.
    obtain ⟨first, rfl, nonempty, unspaced, rfl⟩ := read
    simp only [handleChar] at handled
    split at handled
    · cases handled
    · -- The check comes before the character is looked at, so that the URI fits.
      rename_i fits
      split at handled
      · rename_i space
        cases handled
        exact ⟨first, buffer, 0, by simp [space], ⟨nonempty, Nat.not_lt.mp fits, unspaced⟩, rfl⟩
      · rename_i spaced
        cases handled
        exact ⟨first, by simp [put], by simp [put], by simp [put, unspaced, Ne.symm spaced], rfl⟩
  | kRequestUriSpaces =>
    -- Spaces are counted until the version begins.
    obtain ⟨first, uri, second, rfl, asked, rfl⟩ := read
    simp only [handleChar] at handled
    split at handled
    · rename_i space
      cases handled
      exact ⟨first, uri, second + 1, by simp [space, List.replicate_succ'], asked, rfl⟩
    · cases handled
      exact ⟨first, uri, second, by simp [restart], asked, rfl⟩
  | kRequestVersion =>
    -- The carriage return compares what was collected with the only version that is known.
    obtain ⟨first, uri, second, rfl, asked, rfl⟩ := read
    simp only [handleChar] at handled
    split at handled
    · rename_i ended
      simp only [told, listener, setVersion] at handled
      split at handled
      · rename_i version
        cases handled
        exact ⟨first, uri, second, by simp [version, ended], asked, rfl⟩
      · cases handled
    · split at handled
      · cases handled
      · split at handled
        · cases handled
        · cases handled
          exact ⟨first, uri, second, by simp [put], asked, rfl⟩
  | kRequestLineLF =>
    -- Behind the first line there are no header lines yet.
    obtain ⟨first, uri, second, rfl, asked, rfl⟩ := read
    simp only [handleChar] at handled
    split at handled
    · rename_i ended
      cases handled
      exact ⟨first, uri, second, asked, [], [], .none, by simp [requestLine, ended], rfl⟩
    · cases handled
  | _ =>
    -- From then on the step is one of the header lines.
    obtain ⟨first, uri, second, asked, read⟩ := read
    exact ReadRequest.of_headers asked (read.step handled)

/-- A head that was accepted is the head of a request, and the request holds what it says. -/
theorem requestHead_of_scan {name stream rest : Bytes} {parser' : HttpParser Request}
    (scanned : scan listener ⟨.kRequestMethod, [], name, Request.create⟩ stream =
      .ok (parser', rest)) :
    ∃ uri headers head, RequestHead uri headers head ∧ stream = head ++ rest ∧
      parser'.head = ⟨.kGetMethod, uri, headers⟩ := by
  have began : ReadRequest ⟨.kRequestMethod, [], name, Request.create⟩ [] := ⟨rfl, rfl⟩
  obtain ⟨head, apart, -, complete, read⟩ :=
    -- The invariant holds before the first byte, and each byte that is handled keeps it.
    scan_keeps (fun _ _ _ _ handled read => ReadRequest.step handled read) began scanned
  unfold ReadRequest at read
  rw [complete] at read
  obtain ⟨first, uri, second, asked, headers, lines, written, read⟩ := read
  -- In the state that ends the scan it speaks of the whole head.
  rw [complete, List.nil_append] at read
  obtain ⟨text, filled⟩ := read
  refine ⟨uri, headers, head, ?_, apart, ?_⟩
  · rw [text]
    exact .written first second asked written
  · rw [filled, addHeaders_eq, List.nil_append]

end Backward

section Parsing

variable {socket : Socket}

/-- Parsing a request is scanning it from its first byte. -/
theorem parse_yields (steady : socket.Steady) {parser' : HttpParser Request} {rest : Bytes}
    (scanned : scan listener ⟨.kRequestMethod, [], [], Request.create⟩ socket.incoming =
      .ok (parser', rest)) :
    RequestParser.parse.Yields (start socket) () ⟨parser', socket.left rest⟩ :=
  (Program.yields_update _ _).next ((Program.yields_update _ _).next (rounds_yield steady scanned))

/-- A text that the parser does not take makes `parse` throw what the parser says. -/
theorem parse_throws (steady : socket.Steady) {what : String}
    (scanned : scan listener ⟨.kRequestMethod, [], [], Request.create⟩ socket.incoming =
      .error what) :
    ∃ after, RequestParser.parse.Throws (start socket) (.runtimeError ("HttpParser: " ++ what))
      after := by
  -- The exception of a round is the one of the call.
  obtain ⟨after, threw⟩ := rounds_throw steady scanned
  exact ⟨after, (Program.yields_update _ _).bind_throws ((Program.yields_update _ _).bind_throws threw)⟩

/--
Exactly the streams that begin with the head of a request are accepted.

What was read is exactly the head, and the request holds what it says. On any other stream an exception is thrown.
-/
theorem parse_accepts_iff (steady : socket.Steady) :
    ((∃ after, RequestParser.parse.Yields (start socket) () after) ↔
      ∃ uri headers head rest, RequestHead uri headers head ∧ socket.incoming = head ++ rest) ∧
    (∀ uri headers head rest, RequestHead uri headers head → socket.incoming = head ++ rest →
      ∃ after, RequestParser.parse.Yields (start socket) () after ∧
        after.socket.incoming = rest ∧ after.parser.head = ⟨.kGetMethod, uri, headers⟩) ∧
    ((¬ ∃ uri headers head rest, RequestHead uri headers head ∧ socket.incoming = head ++ rest) →
      ∃ what after, RequestParser.parse.Throws (start socket) (.runtimeError what) after) := by
  have accepted : ∀ uri headers head rest, RequestHead uri headers head →
      socket.incoming = head ++ rest →
      ∃ after, RequestParser.parse.Yields (start socket) () after ∧
        after.socket.incoming = rest ∧ after.parser.head = ⟨.kGetMethod, uri, headers⟩ := by
    intro uri headers head rest written apart
    -- A head is scanned to its end, whatever the stream has behind it.
    obtain ⟨parser', scanned, filled⟩ := scan_requestHead written [] rest
    rw [← apart] at scanned
    exact ⟨_, parse_yields steady scanned, rfl, filled⟩
  have refused : (¬ ∃ uri headers head rest, RequestHead uri headers head ∧
      socket.incoming = head ++ rest) →
      ∃ what after, RequestParser.parse.Throws (start socket) (.runtimeError what) after := by
    -- If the scan ended well, then what it read would have been a head.
    intro other
    cases scanned : scan listener ⟨.kRequestMethod, [], [], Request.create⟩ socket.incoming with
    | error what => exact ⟨_, parse_throws steady scanned⟩
    | ok result =>
      obtain ⟨uri, headers, head, written, apart, -⟩ := requestHead_of_scan scanned
      exact absurd ⟨uri, headers, head, result.2, written, apart⟩ other
  refine ⟨⟨?_, ?_⟩, accepted, refused⟩
  · -- What was accepted was not refused.
    rintro ⟨after, returned⟩
    by_contra other
    obtain ⟨what, after', threw⟩ := refused other
    exact returned.not_throws threw
  · rintro ⟨uri, headers, head, rest, written, apart⟩
    obtain ⟨after, returned, -⟩ := accepted uri headers head rest written apart
    exact ⟨after, returned⟩

/-- The shortest head of a request is accepted. -/
theorem parse_accepts_iff_root : ∃ after,
    RequestParser.parse.Yields (start (.reliable (requestLine 0 [47] 0 ++ [] ++ [13, 10]))) ()
      after := by
  have root : IsUri [47] := ⟨by decide, by decide, by decide⟩
  have steady : (Socket.reliable (requestLine 0 [47] 0 ++ [] ++ [13, 10])).Steady := ⟨rfl, rfl, rfl⟩
  exact (parse_accepts_iff steady).1.mpr
    ⟨[47], [], _, [], .written 0 0 root .none, (List.append_nil _).symm⟩

end Parsing

end RequestParser

end Rcom
