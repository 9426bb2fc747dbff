import Librcom.Http.Heads
import Librcom.Http.Response

/-! The heads that the parser of responses accepts, and what it makes of an empty reason. -/

namespace Rcom

open Effects
open Json (ascii)
open Decimal (decimal)
open HttpParser

/-- The reason that a response gives, which may be empty. -/
structure IsReason (reason : Bytes) : Prop where
  fits : reason.length ≤ 128
  unbroken : 13 ∉ reason ∧ 10 ∉ reason
  unspaced : reason.head? ≠ some 32

/-- The first line of a response. -/
def statusLine (code : Nat) (reason : Bytes) : Bytes :=
  ascii "HTTP/1.1" ++ 32 :: decimal code ++ 32 :: reason ++ [13, 10]

/-- The head of a response. -/
def responseHead (code : Nat) (reason lines : Bytes) : Bytes :=
  statusLine code reason ++ lines ++ [13, 10]

namespace ResponseParser

/-- A parser of responses before it reads anything. -/
def start (socket : Socket) : Parsing Response := ⟨HttpParser.create Response.create, socket⟩

/-- The parser returns with a code and headers, and leaves the rest unread. -/
def Reads (socket : Socket) (code : Nat) (headers : Headers) (rest : Bytes) : Prop :=
  ∃ after, ResponseParser.parse.Yields (start socket) () after ∧ after.socket.incoming = rest ∧
    after.parser.head = ⟨code, headers⟩

/-- The headers are added behind those that there are. -/
theorem addHeaders_eq (headers : Headers) (response : Response) :
    addHeaders listener headers response =
      { response with headers := response.headers ++ headers } := by
  induction headers generalizing response with
  | nil => simp [addHeaders]
  | cons header headers ih =>
    -- The hypothesis is at the response that has the first header already.
    show addHeaders listener headers (addHeader header.1 header.2 response) = _
    rw [ih]
    simp [addHeader]

section Status

variable {code : Nat} {name : Bytes}

/-- The version and the code are taken, with the space behind them. -/
theorem feed_code (large : 100 ≤ code) (small : code < 600) (name : Bytes) :
    feed listener ⟨.kResponseVersion, [], name, Response.create⟩
      (ascii "HTTP/1.1" ++ 32 :: decimal code ++ [32]) =
      .ok ⟨.kResponseCodeSpaces, decimal code, name, ⟨code, []⟩⟩ := by
  -- A code below six hundred is written with three digits at most, and has a first one.
  obtain ⟨c, code', digits⟩ := List.exists_cons_of_ne_nil (Decimal.decimal_ne_nil code)
  have all := Decimal.isDigit_decimal code
  have fits : (decimal code).length ≤ 3 := Decimal.length_decimal_le (by omega)
  have spaced : c ≠ 32 := by
    rintro rfl
    exact absurd (all 32 (by simp [digits])) (by decide)
  -- The version is fixed, and is compared by evaluation.
  have version : feed listener ⟨.kResponseVersion, [], name, Response.create⟩
      (ascii "HTTP/1.1" ++ [32]) =
      .ok ⟨.kResponseVersionSpaces, ascii "HTTP/1.1", name, Response.create⟩ := by rfl
  have begun : handleChar listener
      ⟨.kResponseVersionSpaces, ascii "HTTP/1.1", name, Response.create⟩ c =
      .ok ⟨.kResponseCode, [c], name, Response.create⟩ := by
    simp [handleChar, spaced, restart]
  have body : feed listener ⟨.kResponseCode, [c], name, Response.create⟩ code' =
      .ok ⟨.kResponseCode, decimal code, name, Response.create⟩ := by
    -- The other digits are put in the buffer, as long as there are three of them.
    rw [digits] at fits ⊢
    simp only [List.length_cons] at fits
    apply feed_puts 3 _ rfl
    · simp only [List.length_singleton]
      omega
    · intro parser c' expecting among room
      have expecting : parser.state = .kResponseCode := expecting
      have digit : HttpParser.isDigit c' = true := all c' (by simp [digits, among])
      have inside : c' ≠ 32 := by
        rintro rfl
        exact absurd digit (by decide)
      simp [handleChar, expecting, inside, digit, Nat.not_lt.mpr room.le]
  have taken : handleChar listener ⟨.kResponseCode, decimal code, name, Response.create⟩ 32 =
      .ok ⟨.kResponseCodeSpaces, decimal code, name, ⟨code, []⟩⟩ := by
    -- The digits are a whole string, so that they are read back as the code.
    have whole : cString (decimal code) = decimal code := by
      apply cString_eq
      intro null
      exact absurd (all 0 null) (by decide)
    have set : setCode (decimal code) Response.create = .ok ⟨code, []⟩ := by
      have inside : (100 : Int) ≤ code ∧ (code : Int) < 600 := by omega
      simp [setCode, whole, Decimal.strtol_decimal, inside, Response.create]
    simp only [handleChar, gt_iff_lt, Nat.not_lt.mpr fits, if_false, if_true, told, listener, set]
    rfl
  -- The text is the version and a space, the first digit, the others, and a space.
  have apart : ascii "HTTP/1.1" ++ 32 :: decimal code ++ [32] =
      (ascii "HTTP/1.1" ++ [32]) ++ c :: (code' ++ [32]) := by simp [digits]
  rw [apart]
  apply feed_append version
  rw [feed_cons begun]
  apply feed_append body
  rw [feed_cons taken, feed_nil]

/-- A reason that is not empty ends the first line. -/
theorem feed_reason {reason : Bytes} (given : IsReason reason) (nonempty : reason ≠ []) {buffer : Bytes}
    {response : Response} :
    feed listener ⟨.kResponseCodeSpaces, buffer, name, response⟩ (reason ++ [13, 10]) =
      .ok ⟨.kHeaderStart, reason, name, response⟩ := by
  -- The first character ends the spaces, and the others are put in the buffer.
  obtain ⟨c, reason', rfl⟩ := List.exists_cons_of_ne_nil nonempty
  have spaced : c ≠ 32 := fun same => given.unspaced (by simp [same])
  have fits := given.fits
  have begun : handleChar listener ⟨.kResponseCodeSpaces, buffer, name, response⟩ c =
      .ok ⟨.kResponseReason, [c], name, response⟩ := by
    simp [handleChar, spaced, restart]
  have body : feed listener ⟨.kResponseReason, [c], name, response⟩ reason' =
      .ok ⟨.kResponseReason, c :: reason', name, response⟩ := by
    simp only [List.length_cons] at fits
    apply feed_puts 128 _ rfl
    · simp only [List.length_singleton]
      omega
    · intro parser c' expecting among room
      have expecting : parser.state = .kResponseReason := expecting
      have inside : c' ≠ 13 := by
        rintro rfl
        exact given.unbroken.1 (List.mem_cons_of_mem _ among)
      simp [handleChar, expecting, inside, Nat.not_lt.mpr room.le]
  have ended : feed listener ⟨.kResponseReason, c :: reason', name, response⟩ [13, 10] =
      .ok ⟨.kHeaderStart, c :: reason', name, response⟩ := by
    -- The carriage return comes when there are 128 characters at most.
    have taken : handleChar listener ⟨.kResponseReason, c :: reason', name, response⟩ 13 =
        .ok ⟨.kResponseReasonLF, c :: reason', name, response⟩ := by
      simp only [handleChar, gt_iff_lt, Nat.not_lt.mpr fits, if_false, if_true]
      rfl
    rw [feed_cons taken]
    rfl
  rw [List.cons_append, feed_cons begun]
  exact feed_append body ended

end Status

section Reasons

variable {parser parser' : HttpParser Response} {text rest rest' : Bytes}

/-- Where a reason is taken at all, it is taken up to the end of a line. -/
theorem scan_reason (reasoning : parser.state = .kResponseReason) (unbroken : 13 ∉ text)
    (scanned : scan listener parser (text ++ 13 :: 10 :: rest) = .ok (parser', rest')) :
    ∃ buffer, scan listener ⟨.kHeaderStart, buffer, parser.name, parser.head⟩ rest =
      .ok (parser', rest') := by
  -- The induction is on the bytes of the reason, each of which is put in the buffer.
  induction text generalizing parser with
  | nil =>
    obtain ⟨state, buffer, name, head⟩ := parser
    simp only at reasoning
    subst reasoning
    -- A reason of more than 128 characters is refused, at its end or before.
    by_cases long : buffer.length > 128
    · simp [scan, handleChar, long] at scanned
    · refine ⟨buffer, ?_⟩
      simpa [scan, handleChar, long, told, listener, expect, bind, Except.bind, pure, Except.pure]
        using scanned
  | cons c text ih =>
    simp only [List.mem_cons, not_or] at unbroken
    have inside : c ≠ 13 := Ne.symm unbroken.1
    rw [List.cons_append, scan] at scanned
    by_cases long : parser.buffer.length > 128
    · simp [handleChar, reasoning, long] at scanned
    · have taken : handleChar listener parser c = .ok (parser.put c) := by
        simp [handleChar, reasoning, long, inside]
      have going : (parser.put c).state = .kResponseReason := reasoning
      simp only [taken, going, reduceCtorEq, if_false] at scanned
      have later := ih going unbroken.2 scanned
      exact later

/-- An empty reason takes the first header line for a reason, and what follows for headers. -/
theorem scan_unreasoned {buffer name : Bytes} {response : Response}
    {headers : Headers} {lines : Bytes} (written : HeaderLines headers lines)
    (scanned : scan listener ⟨.kResponseCodeSpaces, buffer, name, response⟩
      (13 :: 10 :: (lines ++ 13 :: 10 :: rest)) = .ok (parser', rest')) :
    rest' ≠ rest ∨ parser'.head.headers.length + 1 = response.headers.length + headers.length := by
  have began : scan listener ⟨.kResponseReason, [13], name, response⟩
      (10 :: (lines ++ 13 :: 10 :: rest)) = .ok (parser', rest') := by
    simpa [scan, handleChar, restart] using scanned
  cases written with
  | none =>
    -- The empty line is the end of the reason, so that more bytes are read than the head has.
    have line : 10 :: ([] ++ 13 :: 10 :: rest) = [10] ++ 13 :: 10 :: rest := rfl
    rw [line] at began
    obtain ⟨buffer', later⟩ := scan_reason rfl (by decide) began
    refine .inl fun same => ?_
    have shorter := length_lt_of_scan later
    rw [same] at shorter
    exact Nat.lt_irrefl _ shorter
  | @more header value headers lines spaces named valued following =>
    -- The header line has no carriage return before its end.
    have unbroken : 13 ∉ 10 :: (header ++ 58 :: List.replicate spaces 32 ++ value) := by
      have token : 13 ∉ header := fun among => (isTokenCharacter_ne (named.token 13 among)).1 rfl
      simp [token, valued.unbroken]
    have line : 10 :: (headerLine header spaces value ++ lines ++ 13 :: 10 :: rest) =
        10 :: (header ++ 58 :: List.replicate spaces 32 ++ value) ++
          13 :: 10 :: (lines ++ 13 :: 10 :: rest) := by simp [headerLine]
    rw [line] at began
    -- So all of it is taken for the reason, and the lines behind it for the headers.
    obtain ⟨buffer', later⟩ := scan_reason rfl unbroken began
    have beginning : (HttpParser.mk .kHeaderStart buffer' name response).state = .kHeaderStart := rfl
    obtain ⟨parser'', others, filled⟩ := scan_headerLines listener following beginning rest
    rw [others] at later
    cases later
    rw [addHeaders_eq] at filled
    -- There is one header less than the head was written with.
    refine .inr ?_
    rw [filled, List.length_append, List.length_cons, Nat.add_assoc]

end Reasons

section Parsing

variable {socket : Socket}

/-- Parsing a response is scanning it from its first byte. -/
theorem parse_yields (steady : socket.Steady) {parser' : HttpParser Response} {rest : Bytes}
    (scanned : scan listener ⟨.kResponseVersion, [], [], Response.create⟩ socket.incoming =
      .ok (parser', rest)) :
    ResponseParser.parse.Yields (start socket) () ⟨parser', socket.left rest⟩ :=
  (Program.yields_update _ _).next ((Program.yields_update _ _).next (rounds_yield steady scanned))

/-- A text that the parser does not take makes `parse` throw what the parser says. -/
theorem parse_throws (steady : socket.Steady) {what : String}
    (scanned : scan listener ⟨.kResponseVersion, [], [], Response.create⟩ socket.incoming =
      .error what) :
    ∃ after, ResponseParser.parse.Throws (start socket) (.runtimeError ("HttpParser: " ++ what))
      after := by
  obtain ⟨after, threw⟩ := rounds_throw steady scanned
  exact ⟨after, (Program.yields_update _ _).bind_throws ((Program.yields_update _ _).bind_throws threw)⟩

/-- What was read is what the scan read. -/
theorem scan_of_reads (steady : socket.Steady) {code : Nat} {headers : Headers} {rest : Bytes}
    (reads : Reads socket code headers rest) :
    ∃ parser', scan listener ⟨.kResponseVersion, [], [], Response.create⟩ socket.incoming =
      .ok (parser', rest) ∧ parser'.head = ⟨code, headers⟩ := by
  obtain ⟨after, returned, unread, filled⟩ := reads
  -- If the scan had failed, then the call would have thrown.
  cases scanned : scan listener ⟨.kResponseVersion, [], [], Response.create⟩ socket.incoming with
  | error what =>
    obtain ⟨after', threw⟩ := parse_throws steady scanned
    exact absurd threw returned.not_throws
  | ok result =>
    obtain ⟨-, rfl⟩ := (parse_yields steady scanned).unique returned
    exact ⟨result.1, by rw [← unread]; rfl, filled⟩

variable {code : Nat} {reason : Bytes} {headers : Headers} {lines rest : Bytes}

/-- The head up to the reason, and what follows it. -/
theorem responseHead_append (code : Nat) (reason lines rest : Bytes) :
    responseHead code reason lines ++ rest = (ascii "HTTP/1.1" ++ 32 :: decimal code ++ [32]) ++
      (reason ++ 13 :: 10 :: (lines ++ 13 :: 10 :: rest)) := by
  simp [responseHead, statusLine]

/-- A head with a reason is read, with its code and its headers. -/
theorem reads_of_reason (steady : socket.Steady) (large : 100 ≤ code) (small : code < 600)
    (given : IsReason reason) (nonempty : reason ≠ []) (written : HeaderLines headers lines)
    (incoming : socket.incoming = responseHead code reason lines ++ rest) :
    Reads socket code headers rest := by
  -- Behind the first line the parser is ready for the header lines.
  have began : (HttpParser.mk .kHeaderStart reason ([] : Bytes)
      (Response.mk code [])).state = .kHeaderStart := rfl
  obtain ⟨parser', scanned, filled⟩ := scan_headerLines listener written began rest
  have apart : socket.incoming = (ascii "HTTP/1.1" ++ 32 :: decimal code ++ [32]) ++
      ((reason ++ [13, 10]) ++ (lines ++ 13 :: 10 :: rest)) := by
    rw [incoming, responseHead_append]
    simp
  have whole : scan listener ⟨.kResponseVersion, [], [], Response.create⟩ socket.incoming =
      .ok (parser', rest) := by
    -- The scan goes over the code, then the reason, and then the lines.
    rw [apart, scan_append (feed_code large small []) (by simp),
      scan_append (feed_reason given nonempty) (by simp), scanned]
  refine ⟨_, parse_yields steady whole, rfl, ?_⟩
  rw [filled, addHeaders_eq]
  rfl

/-- A head without a reason is not read as what it is. -/
theorem not_reads_of_unreasoned (steady : socket.Steady) (large : 100 ≤ code) (small : code < 600)
    (written : HeaderLines headers lines)
    (incoming : socket.incoming = responseHead code [] lines ++ rest) :
    ¬ Reads socket code headers rest := by
  intro reads
  obtain ⟨parser', scanned, filled⟩ := scan_of_reads steady reads
  rw [incoming, responseHead_append, scan_append (feed_code large small []) (by simp),
    List.nil_append] at scanned
  -- Either more bytes are read than the head has, or a header is missing.
  rcases scan_unreasoned written scanned with other | lost
  · exact other rfl
  · rw [filled] at lost
    simp only [List.length_nil] at lost
    omega

end Parsing

section Codes

/-- From the code on, the code that was recorded is one of a response. -/
def CodeKnown (parser : HttpParser Response) : Prop :=
  match parser.state with
  | .kResponseVersion => True
  | .kResponseVersionSpaces => True
  | .kResponseCode => True
  | .kRequestMethod => False
  | .kRequestMethodSpaces => False
  | .kRequestUri => False
  | .kRequestUriSpaces => False
  | .kRequestVersion => False
  | .kRequestLineLF => False
  | _ => 100 ≤ parser.head.code ∧ parser.head.code < 600

/-- A code that was set has three digits, the first of which is one to five. -/
theorem setCode_range {value : Bytes} {response response' : Response}
    (set : setCode value response = .ok response') : 100 ≤ response'.code ∧ response'.code < 600 := by
  unfold setCode at set
  dsimp only at set
  -- Only in the branch that records it, the code was compared with its bounds.
  split at set
  · rename_i inside
    cases set
    exact inside.2
  · cases set

/-- Every byte that is handled keeps the code, or records one. -/
theorem CodeKnown.step {parser parser' : HttpParser Response} {c : UInt8}
    (handled : handleChar listener parser c = .ok parser') (known : CodeKnown parser) :
    CodeKnown parser' := by
  obtain ⟨state, buffer, name, head⟩ := parser
  cases state with
  -- A space behind the digits records them as the code, if they are one.
  | kResponseCode =>
    simp only [handleChar] at handled
    split at handled
    · cases handled
    · split at handled
      · simp only [told, listener] at handled
        cases set : setCode buffer head with
        | error what => simp [set, bind, Except.bind] at handled
        | ok head' =>
          simp only [set, bind, Except.bind, pure, Except.pure, Except.ok.injEq] at handled
          rw [← handled]
          exact setCode_range set
      · split at handled
        · cases handled
          trivial
        · cases handled
  -- Before the code there is nothing to keep.
  | kResponseVersion =>
    simp only [handleChar] at handled
    split at handled
    · cases handled
    · split at handled
      · simp only [told, listener, setVersion] at handled
        split at handled
        · cases handled
          trivial
        · cases handled
      · cases handled
        trivial
  | kResponseVersionSpaces =>
    simp only [handleChar] at handled
    split at handled
    · cases handled
      trivial
    · cases handled
      trivial
  -- A parser of responses is never in a state of requests.
  | kRequestMethod => exact absurd known id
  | kRequestMethodSpaces => exact absurd known id
  | kRequestUri => exact absurd known id
  | kRequestUriSpaces => exact absurd known id
  | kRequestVersion => exact absurd known id
  | kRequestLineLF => exact absurd known id
  -- In the last two states no byte is handled.
  | kBody => simp [handleChar] at handled
  | kErrorState => simp [handleChar] at handled
  | _ =>
    -- The other states are behind the code, and what they record are headers.
    simp only [handleChar, told, listener, bind, Except.bind, pure, Except.pure] at handled
    repeat' split at handled
    all_goals first
      | (cases handled; exact known)
      | cases handled

/-- Whatever is accepted has a code of a response. -/
theorem parse_code (socket : Socket) {after : Parsing Response}
    (accepted : ResponseParser.parse.Yields (start socket) () after) :
    100 ≤ after.parser.head.code ∧ after.parser.head.code < 600 := by
  have ensured : ResponseParser.parse.Ensures (start socket)
      (fun _ after => CodeKnown after.parser ∧ after.parser.state = .kBody) (fun _ _ => True) := by
    apply (Program.yields_update _ _).bind_ensures
    -- The bytes do not matter here, but only the state of the parser.
    have step (parser : HttpParser Response) (c : UInt8) (parser' : HttpParser Response) (_ : Bytes)
        (handled : handleChar listener parser c = .ok parser') (known : CodeKnown parser) :
        CodeKnown parser' := CodeKnown.step handled known
    refine Program.Ensures.mono (parse_ensures step ?_) ?_ (fun _ _ failed => failed)
    · exact trivial
    · rintro _ after ⟨_, _, known⟩
      exact known
  obtain ⟨known, complete⟩ := ensured.yields accepted
  unfold CodeKnown at known
  rwa [complete] at known

end Codes

/--
The head of a response is read, with its code and its headers, if and only if its reason is not empty.

Whatever is accepted, the code that is recorded is one of a response.
-/
theorem parse_reads_iff (socket : Socket) :
    (∀ (code : Nat) (reason : Bytes) (headers : Headers) (lines rest : Bytes),
      socket.Steady → 100 ≤ code → code < 600 → IsReason reason → HeaderLines headers lines →
      socket.incoming = responseHead code reason lines ++ rest →
      (Reads socket code headers rest ↔ reason ≠ [])) ∧
    (∀ after : Parsing Response,
      ResponseParser.parse.Yields (start socket) () after →
      100 ≤ after.parser.head.code ∧ after.parser.head.code < 600) := by
  -- The two directions are those on a head with a reason and on one without.
  refine ⟨?_, fun after accepted => parse_code socket accepted⟩
  intro code reason headers lines rest steady large small given written incoming
  constructor
  · rintro reads rfl
    exact not_reads_of_unreasoned steady large small written incoming reads
  · intro nonempty
    exact reads_of_reason steady large small given nonempty written incoming

/-- The response that the server sends to open a WebSocket has a reason, and is read. -/
theorem parse_reads_iff_switching :
    Reads (.reliable (responseHead 101 (ascii "Switching Protocols") [] ++ [])) 101 [] [] := by
  have steady : (Socket.reliable (responseHead 101 (ascii "Switching Protocols") [] ++ [])).Steady :=
    ⟨rfl, rfl, rfl⟩
  have given : IsReason (ascii "Switching Protocols") := ⟨by decide, by decide, by decide⟩
  exact ((parse_reads_iff _).1 101 (ascii "Switching Protocols") [] [] [] steady (by decide) (by decide)
    given .none rfl).mpr (by decide)

/-- A response without a reason is not read, though it is one with a header. -/
theorem unreasoned_response_lost :
    HeaderLines [([65], [98])] (headerLine [65] 1 [98] ++ []) ∧ IsReason [] ∧
      ¬ Reads (.reliable (responseHead 200 [] (headerLine [65] 1 [98] ++ []) ++ [])) 200
        [([65], [98])] [] := by
  have named : IsName [65] := isName_of_all (by decide)
  have valued : IsValue [98] := ⟨by decide, by decide, by decide, by decide⟩
  have written : HeaderLines [([65], [98])] (headerLine [65] 1 [98] ++ []) := .more 1 named valued .none
  refine ⟨written, ⟨by decide, by decide, by decide⟩, ?_⟩
  exact not_reads_of_unreasoned ⟨rfl, rfl, rfl⟩ (by decide) (by decide) written rfl

end ResponseParser

end Rcom
