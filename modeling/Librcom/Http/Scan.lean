import Librcom.Http.Parser

/-! Parsing a head from a socket is scanning the bytes on it. -/

namespace Rcom

open Effects

/-- Every wait finds data, and reads fail only past the end of the data. -/
structure Socket.Steady (socket : Socket) : Prop where
  connected : socket.connected = true
  waits : socket.waits = Stream'.const .kWaitOK
  faultless : socket.readFaults = Stream'.const none

/-- The socket after bytes were read from it. -/
def Socket.left (socket : Socket) (rest : Bytes) : Socket := { socket with incoming := rest }

namespace Socket

variable {socket : Socket} (steady : socket.Steady)

include steady

/-- On a steady socket waiting succeeds at once. -/
theorem Steady.wait_eq (timeout : ℚ) : socket.wait timeout = (.kWaitOK, socket) := by
  obtain ⟨connected, incoming, passed, nodelay, waits, readFaults, sends, endpoints⟩ := socket
  -- A wait takes the first element of a constant stream, which leaves the same stream.
  obtain ⟨-, rfl, -⟩ := steady
  rfl

/-- A byte that has come in is read. -/
theorem Steady.read_cons {c : UInt8} {rest : Bytes} (incoming : socket.incoming = c :: rest) :
    socket.read 1 = (some [c], socket.left rest) := by
  obtain ⟨connected, incoming, passed, nodelay, waits, readFaults, sends, endpoints⟩ := socket
  -- No fault is left, so that a read takes just what was asked for.
  obtain ⟨rfl, -, rfl⟩ := steady
  subst incoming
  rfl

/-- Where nothing has come in, reading fails. -/
theorem Steady.read_nil (incoming : socket.incoming = []) : socket.read 1 = (none, socket) := by
  obtain ⟨connected, incoming, passed, nodelay, waits, readFaults, sends, endpoints⟩ := socket
  obtain ⟨rfl, -, rfl⟩ := steady
  subst incoming
  rfl

/-- A steady socket stays steady when bytes are read. -/
theorem Steady.left (rest : Bytes) : (socket.left rest).Steady :=
  ⟨steady.connected, steady.waits, steady.faultless⟩

end Socket

namespace HttpParser

variable {ρ : Type} (listener : HttpParserListener ρ)

/-- Handle bytes until the head is complete, and leave the others unread. -/
def scan (parser : HttpParser ρ) : Bytes → Except String (HttpParser ρ × Bytes)
  | [] => .error "read_char failed"
  | c :: rest =>
    match handleChar listener parser c with
    | .error what => .error what
    | .ok parser' =>
      if parser'.state = .kBody then .ok (parser', rest) else scan parser' rest

/-- Handle bytes one after the other. -/
def feed (parser : HttpParser ρ) (text : Bytes) : Except String (HttpParser ρ) :=
  text.foldlM (handleChar listener) parser

section Socket

variable {listener} {socket : Socket} {parser parser' : HttpParser ρ} {c : UInt8} {rest : Bytes}

/-- An error puts the parser into its error state and is thrown. -/
theorem error_throws {α : Type} (what : String) (parsing : Parsing ρ) :
    (error what : ParserM ρ α).Throws parsing (.runtimeError ("HttpParser: " ++ what))
      { parsing with parser := parsing.parser.expect .kErrorState } :=
  (Program.yields_update _ parsing).bind_throws (Program.throws_raise _ _)

/-- Waiting succeeds on a steady socket, and leaves the parser. -/
theorem socketWait_yields (steady : socket.Steady) (timeout : ℚ) :
    (socketWait timeout).Yields (Parsing.mk parser socket) .kWaitOK ⟨parser, socket⟩ := by
  -- The wait is an action on the socket of the parsing, and the parser is left.
  have waited := Program.yields_act (ε := Fault) (fun parsing : Parsing ρ =>
    ((parsing.socket.wait timeout).1, { parsing with socket := (parsing.socket.wait timeout).2 }))
    ⟨parser, socket⟩
  simp only [steady.wait_eq] at waited
  exact waited

/-- Reading gives what the socket gives, and leaves the parser. -/
theorem socketRead_yields {result : Option Bytes} {socket' : Socket}
    (read : socket.read 1 = (result, socket')) :
    (socketRead 1).Yields (Parsing.mk parser socket) result ⟨parser, socket'⟩ := by
  have got := Program.yields_act (ε := Fault) (fun parsing : Parsing ρ =>
    ((parsing.socket.read 1).1, { parsing with socket := (parsing.socket.read 1).2 }))
    ⟨parser, socket⟩
  simp only [read] at got
  exact got

/-- A byte that is handled takes a round, which is the last one when the head is complete. -/
theorem parseRound_yields (steady : socket.Steady) (incoming : socket.incoming = c :: rest)
    (handled : handleChar listener parser c = .ok parser') :
    (parseRound listener).Yields ⟨parser, socket⟩
      (if parser'.state = .kBody then .inr () else .inl ()) ⟨parser', socket.left rest⟩ := by
  -- A byte is read and handled, and the parser that comes of it is stored.
  have read : (readChar listener).Yields ⟨parser, socket⟩ () ⟨parser', socket.left rest⟩ := by
    apply (socketRead_yields (steady.read_cons incoming)).bind
    apply (Program.yields_get _).bind
    rw [handled]
    exact Program.yields_update _ _
  apply (socketWait_yields steady parseTimeoutSeconds).bind
  rw [if_neg (by simp)]
  apply read.next
  apply (Program.yields_get _).bind
  -- The round looks at the state that was stored.
  split
  · exact Program.yields_pure _ _
  · exact Program.yields_pure _ _

/-- A byte that is refused ends the loop with an exception. -/
theorem parseRound_throws (steady : socket.Steady) (incoming : socket.incoming = c :: rest)
    {what : String} (refused : handleChar listener parser c = .error what) :
    (parseRound listener).Throws ⟨parser, socket⟩ (.runtimeError ("HttpParser: " ++ what))
      ⟨parser.expect .kErrorState, socket.left rest⟩ := by
  -- The byte was taken from the socket before it is refused.
  have read : (readChar listener).Throws ⟨parser, socket⟩ (.runtimeError ("HttpParser: " ++ what))
      ⟨parser.expect .kErrorState, socket.left rest⟩ := by
    apply (socketRead_yields (steady.read_cons incoming)).bind_throws
    apply (Program.yields_get _).bind_throws
    rw [refused]
    exact error_throws what _
  apply (socketWait_yields steady parseTimeoutSeconds).bind_throws
  rw [if_neg (by simp)]
  exact read.bind _

/-- The end of the data ends the loop with an exception. -/
theorem parseRound_throws_end (listener : HttpParserListener ρ) (parser : HttpParser ρ)
    (steady : socket.Steady) (incoming : socket.incoming = []) :
    (parseRound listener).Throws ⟨parser, socket⟩
      (.runtimeError ("HttpParser: " ++ "read_char failed"))
      ⟨parser.expect .kErrorState, socket⟩ := by
  -- A read past the end of the data gives nothing, and that is an error.
  have read : (readChar listener).Throws ⟨parser, socket⟩
      (.runtimeError ("HttpParser: " ++ "read_char failed"))
      ⟨parser.expect .kErrorState, socket⟩ := by
    apply (socketRead_yields (steady.read_nil incoming)).bind_throws
    exact error_throws _ _
  apply (socketWait_yields steady parseTimeoutSeconds).bind_throws
  rw [if_neg (by simp)]
  exact read.bind _

/-- What the scan of the data accepts, the loop accepts, and leaves the same bytes. -/
theorem rounds_yield (steady : socket.Steady)
    (scanned : scan listener parser socket.incoming = .ok (parser', rest)) :
    (Program.iterate (fun _ => parseRound listener) ()).Yields ⟨parser, socket⟩ ()
      ⟨parser', socket.left rest⟩ := by
  -- The induction is on the bytes on the socket.
  induction incoming : socket.incoming generalizing parser socket with
  -- On no bytes the scan itself is an error.
  | nil =>
    rw [incoming, scan] at scanned
    cases scanned
  | cons c text ih =>
    rw [incoming, scan] at scanned
    cases handled : handleChar listener parser c with
    | error what => simp [handled] at scanned
    | ok next =>
      have round := parseRound_yields steady incoming handled
      simp only [handled] at scanned
      -- A complete head ends both the scan and the loop.
      by_cases complete : next.state = .kBody
      · rw [if_pos complete] at scanned round
        cases scanned
        exact round.iterate_last
      · rw [if_neg complete] at scanned round
        have later := ih (steady.left text) scanned rfl
        exact round.iterate_next later

/-- What the scan of the data refuses, the loop refuses. -/
theorem rounds_throw (steady : socket.Steady) {what : String}
    (scanned : scan listener parser socket.incoming = .error what) :
    ∃ after, (Program.iterate (fun _ => parseRound listener) ()).Throws ⟨parser, socket⟩
      (.runtimeError ("HttpParser: " ++ what)) after := by
  -- As above, but the induction ends where a byte is refused or none is left.
  induction incoming : socket.incoming generalizing parser socket with
  | nil =>
    rw [incoming, scan] at scanned
    cases scanned
    exact ⟨_, (parseRound_throws_end listener parser steady incoming).iterate⟩
  | cons c text ih =>
    rw [incoming, scan] at scanned
    cases handled : handleChar listener parser c with
    | error refusal =>
      simp only [handled, Except.error.injEq] at scanned
      rw [scanned] at handled
      exact ⟨_, (parseRound_throws steady incoming handled).iterate⟩
    | ok next =>
      have round := parseRound_yields steady incoming handled
      simp only [handled] at scanned
      -- A complete head would have ended the scan, and without a refusal.
      by_cases complete : next.state = .kBody
      · rw [if_pos complete] at scanned
        cases scanned
      · rw [if_neg complete] at scanned round
        obtain ⟨after, threw⟩ := ih (steady.left text) scanned rfl
        exact ⟨after, Program.Throws.iterate_next round threw⟩

end Socket

section Keeping

variable {listener} {holds : HttpParser ρ → Bytes → Prop}

/-- An error returns nothing. -/
theorem error_ensures {α : Type} {post : α → Parsing ρ → Prop} (what : String)
    (parsing : Parsing ρ) : (error what : ParserM ρ α).Ensures parsing post (fun _ _ => True) :=
  (error_throws what parsing).ensures trivial

/-- What every byte keeps true of the parser and of the bytes so far is kept when a byte is read. -/
theorem readChar_ensures
    (step : ∀ parser c parser' text, handleChar listener parser c = .ok parser' →
      holds parser text → holds parser' (text ++ [c]))
    {parsing : Parsing ρ} {text : Bytes} (held : holds parsing.parser text) :
    (readChar listener).Ensures parsing
      (fun _ after => ∃ c, parsing.socket.incoming = c :: after.socket.incoming ∧
        holds after.parser (text ++ [c]))
      (fun _ _ => True) := by
  have read : (socketRead 1).Yields parsing (parsing.socket.read 1).1
      { parsing with socket := (parsing.socket.read 1).2 } :=
    Program.yields_act (fun parsing : Parsing ρ =>
      ((parsing.socket.read 1).1, { parsing with socket := (parsing.socket.read 1).2 })) parsing
  refine read.bind_ensures ?_
  -- The read gives one byte, which is then handled, or it fails.
  rcases Socket.read_cases 1 parsing.socket with ⟨bytes, rest, size, -, incoming, taken⟩ | ⟨rest, failed⟩
  · obtain ⟨c, rfl⟩ := List.length_eq_one_iff.mp size
    rw [taken]
    apply (Program.yields_get _).bind_ensures
    cases handled : handleChar listener parsing.parser c with
    | ok parser' => exact Program.ensures_update ⟨c, incoming, step _ _ _ _ handled held⟩
    | error what => exact error_ensures _ _
  · rw [failed]
    exact error_ensures _ _

/-- What every byte keeps true holds of a complete head and of the bytes that it is made of. -/
theorem parse_ensures
    (step : ∀ parser c parser' text, handleChar listener parser c = .ok parser' →
      holds parser text → holds parser' (text ++ [c]))
    {parsing : Parsing ρ} (began : holds { parsing.parser with buffer := [] } []) :
    (parse listener).Ensures parsing
      (fun _ after => ∃ text, parsing.socket.incoming = text ++ after.socket.incoming ∧
        holds after.parser text ∧ after.parser.state = .kBody)
      (fun _ _ => True) := by
  apply (Program.yields_update _ _).bind_ensures
  apply Program.Ensures.iterate fun _ now => ∃ text,
    parsing.socket.incoming = text ++ now.socket.incoming ∧ holds now.parser text
  · -- Before the first round nothing was read.
    exact ⟨[], rfl, began⟩
  · -- A round keeps it, whether or not it is the last one.
    rintro _ now ⟨text, apart, kept⟩
    apply (Program.yields_act _ now).bind_ensures
    split
    · exact error_ensures _ _
    · have same : holds (Parsing.mk now.parser (now.socket.wait parseTimeoutSeconds).2).parser text :=
        kept
      apply (readChar_ensures step same).bind
      rintro _ after ⟨c, incoming, held⟩
      have further : parsing.socket.incoming = (text ++ [c]) ++ after.socket.incoming := by
        rw [apart, List.append_assoc]
        exact congrArg (text ++ ·) incoming
      apply (Program.yields_get after).bind_ensures
      split
      · rename_i complete
        exact Program.ensures_pure ⟨_, further, held, complete⟩
      · exact Program.ensures_pure ⟨_, further, held⟩

end Keeping

section Feeding

variable {listener} {parser parser' parser'' : HttpParser ρ} {text rest : Bytes}

/-- A text may be fed in two parts. -/
theorem feed_append {more : Bytes} (first : feed listener parser text = .ok parser')
    (second : feed listener parser' more = .ok parser'') :
    feed listener parser (text ++ more) = .ok parser'' := by
  unfold feed at *
  rw [List.foldlM_append, first]
  exact second

/-- A complete head takes no more bytes. -/
theorem feed_body (listener : HttpParserListener ρ) (complete : parser.state = .kBody) (c : UInt8)
    (text : Bytes) : ∃ what, feed listener parser (c :: text) = .error what := by
  refine ⟨"http_parser_handle_char: reached invalid state", ?_⟩
  simp [feed, handleChar, complete, bind, Except.bind]

/-- The scan goes on behind the bytes that were handled. -/
theorem scan_append (fed : feed listener parser text = .ok parser')
    (incomplete : parser'.state ≠ .kBody) :
    scan listener parser (text ++ rest) = scan listener parser' rest := by
  induction text generalizing parser with
  | nil =>
    simp only [feed, List.foldlM_nil, pure, Except.pure, Except.ok.injEq] at fed
    rw [fed, List.nil_append]
  | cons c text ih =>
    -- A byte that is refused has not been taken.
    cases handled : handleChar listener parser c with
    | error what => simp [feed, handled, bind, Except.bind] at fed
    | ok next =>
      have later : feed listener next text = .ok parser' := by
        simpa [feed, handled, bind, Except.bind] using fed
      -- The head is not complete behind the first byte, because more bytes were taken.
      have going : next.state ≠ .kBody := by
        intro complete
        cases text with
        | nil =>
          simp only [feed, List.foldlM_nil, pure, Except.pure, Except.ok.injEq] at later
          exact incomplete (later ▸ complete)
        | cons c' text =>
          obtain ⟨what, refused⟩ := feed_body listener complete c' text
          rw [refused] at later
          cases later
      rw [List.cons_append, scan, handled]
      simp only [going, if_false]
      exact ih later

/-- What every byte keeps true of the bytes handled so far, holds of a complete head. -/
theorem scan_keeps {holds : HttpParser ρ → Bytes → Prop}
    (step : ∀ parser c parser' text, handleChar listener parser c = .ok parser' →
      holds parser text → holds parser' (text ++ [c]))
    {before stream : Bytes} (began : holds parser before)
    (scanned : scan listener parser stream = .ok (parser', rest)) :
    ∃ head, stream = head ++ rest ∧ head ≠ [] ∧ parser'.state = .kBody ∧
      holds parser' (before ++ head) := by
  induction stream generalizing parser before with
  | nil =>
    rw [scan] at scanned
    cases scanned
  | cons c stream ih =>
    rw [scan] at scanned
    cases handled : handleChar listener parser c with
    | error what => simp [handled] at scanned
    | ok next =>
      -- One byte is one step.
      have kept := step parser c next before handled began
      simp only [handled] at scanned
      -- The byte completes the head, or the induction goes on behind it.
      by_cases complete : next.state = .kBody
      · rw [if_pos complete] at scanned
        cases scanned
        exact ⟨[c], rfl, by simp, complete, kept⟩
      · rw [if_neg complete] at scanned
        obtain ⟨head, rfl, -, ending, later⟩ := ih kept scanned
        rw [List.append_assoc] at later
        exact ⟨c :: head, rfl, by simp, ending, later⟩

/-- A complete head has one byte at least. -/
theorem length_lt_of_scan {stream : Bytes}
    (scanned : scan listener parser stream = .ok (parser', rest)) : rest.length < stream.length := by
  -- Nothing has to be kept to know that the head is not empty.
  obtain ⟨head, rfl, some, -⟩ := @scan_keeps _ listener _ _ _ (fun _ _ => True)
    (fun _ _ _ _ _ _ => trivial) [] _ trivial scanned
  have positive := List.length_pos_iff.mpr some
  rw [List.length_append]
  omega

end Feeding

end HttpParser

end Rcom
