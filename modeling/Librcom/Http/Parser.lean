import Librcom.Effects.Rules
import Librcom.Json.Value
import Librcom.WebSocket.Socket

/-! The parser of HTTP heads, which takes one byte at a time. -/

namespace Rcom

open Effects
open Json (ascii)

/-- What the parser expects next. -/
inductive HttpState where
  | kRequestMethod
  | kRequestMethodSpaces
  | kRequestUri
  | kRequestUriSpaces
  | kRequestVersion
  | kRequestLineLF
  | kResponseVersion
  | kResponseVersionSpaces
  | kResponseCode
  | kResponseCodeSpaces
  | kResponseReason
  | kResponseReasonLF
  | kHeaderStart
  | kHeaderName
  | kHeaderSpaces
  | kHeaderValue
  | kHeaderLF
  | kHeadersEndLF
  | kBody
  | kErrorState
  deriving DecidableEq, Repr

/-- What a parser does with the parts of a head, which are kept in a request or a response. -/
structure HttpParserListener (ρ : Type) where
  setMethod : Bytes → ρ → Except String ρ
  setUri : Bytes → ρ → Except String ρ
  setVersion : Bytes → ρ → Except String ρ
  setCode : Bytes → ρ → Except String ρ
  setReason : Bytes → ρ → Except String ρ
  addHeader : Bytes → Bytes → ρ → ρ

/-- The members of a parser, and what it fills in. -/
structure HttpParser (ρ : Type) where
  state : HttpState
  buffer : Bytes
  name : Bytes
  head : ρ

namespace HttpParser

def kMaxHeaderNameLength : Nat := 128
def kMaxHeaderValueLength : Nat := 1024
def kMaxUriLength : Nat := 2048

def parseTimeoutSeconds : ℚ := 5

/-- A capital letter. -/
def isUpper (c : UInt8) : Bool := 65 ≤ c && c ≤ 90

/-- A decimal digit. -/
def isDigit (c : UInt8) : Bool := 48 ≤ c && c ≤ 57

/-- A control character. -/
def isControl (c : UInt8) : Bool := c < 32 || c == 127

/-- A byte of a string of the language, or the null byte that ends it. -/
def strchr (text : String) (c : UInt8) : Bool := (ascii text).contains c || c == 0

def isValidVersionChar (c : UInt8) : Bool := strchr "HTTP/0123456789." c

def isSeparator (c : UInt8) : Bool := strchr "()<>@,;:\\'/[]?=\x7b\x7d \t" c

def isTokenCharacter (c : UInt8) : Bool := !isControl c && !isSeparator c

variable {ρ : Type}

/-- Put a byte at the end of the buffer. -/
def put (parser : HttpParser ρ) (c : UInt8) : HttpParser ρ :=
  { parser with buffer := parser.buffer ++ [c] }

/-- Put a byte in an empty buffer, and expect something else. -/
def restart (parser : HttpParser ρ) (c : UInt8) (state : HttpState) : HttpParser ρ :=
  { parser with buffer := [c], state := state }

def expect (parser : HttpParser ρ) (state : HttpState) : HttpParser ρ :=
  { parser with state := state }

/-- Hand the buffer to the listener, and expect something else. -/
def told (parser : HttpParser ρ) (tell : Bytes → ρ → Except String ρ) (state : HttpState) :
    Except String (HttpParser ρ) := do
  let head ← tell parser.buffer parser.head
  return { parser with head := head, state := state }

/-- Handle one byte, or give the text of the exception. -/
def handleChar (listener : HttpParserListener ρ) (parser : HttpParser ρ) (c : UInt8) :
    Except String (HttpParser ρ) :=
  match parser.state with
  | .kRequestMethod =>
    -- The limit is checked before the character, so that nine characters are collected at most.
    if parser.buffer.length > 8 then .error "Method string too long"
    else if c = 32 then parser.told listener.setMethod .kRequestMethodSpaces
    else if isUpper c then .ok (parser.put c)
    else .error "Unexpected char in method"
  | .kRequestMethodSpaces =>
    if c = 32 then .ok parser else .ok (parser.restart c .kRequestUri)
  | .kRequestUri =>
    if parser.buffer.length > kMaxUriLength then .error "URI too long"
    else if c = 32 then parser.told listener.setUri .kRequestUriSpaces
    else .ok (parser.put c)
  | .kRequestUriSpaces =>
    if c = 32 then .ok parser else .ok (parser.restart c .kRequestVersion)
  | .kRequestVersion =>
    -- The version is handed over by the carriage return, whatever its length is.
    if c = 13 then parser.told listener.setVersion .kRequestLineLF
    else if parser.buffer.length > 8 then .error "HTTP version too long"
    else if !isValidVersionChar c then .error "Invalid character in HTTP version"
    else .ok (parser.put c)
  | .kRequestLineLF =>
    if c = 10 then .ok (parser.expect .kHeaderStart)
    else .error "Expected CRLF while reading request"
  | .kResponseVersion =>
    if parser.buffer.length > 8 then .error "HTTP version too long"
    else if c = 32 then parser.told listener.setVersion .kResponseVersionSpaces
    else .ok (parser.put c)
  | .kResponseVersionSpaces =>
    if c = 32 then .ok parser else .ok (parser.restart c .kResponseCode)
  | .kResponseCode =>
    if parser.buffer.length > 3 then .error "HTTP code too long"
    else if c = 32 then parser.told listener.setCode .kResponseCodeSpaces
    else if isDigit c then .ok (parser.put c)
    else .error "Unexpected char in status code"
  | .kResponseCodeSpaces =>
    -- Any other character begins the reason, also the carriage return of a line without one.
    if c = 32 then .ok parser else .ok (parser.restart c .kResponseReason)
  | .kResponseReason =>
    if parser.buffer.length > 128 then .error "HTTP status reason too long"
    else if c = 13 then parser.told listener.setReason .kResponseReasonLF
    else .ok (parser.put c)
  | .kResponseReasonLF =>
    if c = 10 then .ok (parser.expect .kHeaderStart)
    else .error "Expected CRLF while reading status"
  | .kHeaderStart =>
    -- A line that begins with a carriage return is the empty line.
    if c = 13 then .ok (parser.expect .kHeadersEndLF)
    else if isTokenCharacter c then .ok (parser.restart c .kHeaderName)
    else .error "Unexpected char in header name"
  | .kHeaderName =>
    if c = 58 then .ok { parser with name := parser.buffer, state := .kHeaderSpaces }
    else if isTokenCharacter c then
      if parser.buffer.length < kMaxHeaderNameLength then .ok (parser.put c)
      else .error "Header name too long"
    else .error "Unexpected char in header name"
  | .kHeaderSpaces =>
    if c = 32 then .ok parser
    else if c = 13 then .error "Unexpected CR header value"
    else .ok (parser.restart c .kHeaderValue)
  | .kHeaderValue =>
    if c = 13 then
      -- The header is handed over before the line feed is seen.
      .ok { parser with
        head := listener.addHeader parser.name parser.buffer parser.head
        state := .kHeaderLF }
    else if parser.buffer.length < kMaxHeaderValueLength then .ok (parser.put c)
    else .error "Header value too long"
  | .kHeaderLF =>
    if c = 10 then .ok (parser.expect .kHeaderStart)
    else .error "Expected CRLF at end of header"
  | .kHeadersEndLF =>
    if c = 10 then .ok (parser.expect .kBody)
    else .error "Expected CRLF at end of headers"
  -- Behind the head no byte is handled any more.
  | .kBody => .error "http_parser_handle_char: reached invalid state"
  | .kErrorState => .error "http_parser_handle_char: reached invalid state"

end HttpParser

/-- A parser at work on a socket. -/
structure Parsing (ρ : Type) where
  parser : HttpParser ρ
  socket : Socket

/-- A method of a parser. -/
abbrev ParserM (ρ : Type) := Program (Parsing ρ) Fault

namespace HttpParser

variable {ρ : Type}

def error {α : Type} (what : String) : ParserM ρ α := do
  Program.update fun parsing => { parsing with parser := parsing.parser.expect .kErrorState }
  Program.raise (.runtimeError ("HttpParser: " ++ what))

def socketWait (timeout : ℚ) : ParserM ρ WaitStatus :=
  Program.act fun parsing =>
    ((parsing.socket.wait timeout).1, { parsing with socket := (parsing.socket.wait timeout).2 })

def socketRead (length : Nat) : ParserM ρ (Option Bytes) :=
  Program.act fun parsing =>
    ((parsing.socket.read length).1, { parsing with socket := (parsing.socket.read length).2 })

def readChar (listener : HttpParserListener ρ) : ParserM ρ Unit := do
  match ← socketRead 1 with
  | some (c :: _) => do
    let parsing ← Program.get
    match handleChar listener parsing.parser c with
    | .ok parser => Program.update fun parsing => { parsing with parser := parser }
    | .error what => error what
  -- A read that goes through has as many bytes as were asked for.
  | _ => error "read_char failed"

/-- One round of the loop, which ends the loop when the head is complete. -/
def parseRound (listener : HttpParserListener ρ) : ParserM ρ (Unit ⊕ Unit) := do
  let status ← socketWait parseTimeoutSeconds
  if status ≠ .kWaitOK then error "Socket timed out"
  else do
    readChar listener
    let parsing ← Program.get
    if parsing.parser.state = .kBody then return .inr ()
    else return .inl ()

def parse (listener : HttpParserListener ρ) : ParserM ρ Unit := do
  Program.update fun parsing => { parsing with parser := { parsing.parser with buffer := [] } }
  Program.iterate (fun _ => parseRound listener) ()

def parseRequest (listener : HttpParserListener ρ) : ParserM ρ Unit := do
  Program.update fun parsing => { parsing with parser := parsing.parser.expect .kRequestMethod }
  parse listener

def parseResponse (listener : HttpParserListener ρ) : ParserM ρ Unit := do
  Program.update fun parsing => { parsing with parser := parsing.parser.expect .kResponseVersion }
  parse listener

end HttpParser

/-- A parser as its constructor leaves it. -/
def HttpParser.create {ρ : Type} (head : ρ) : HttpParser ρ where
  state := .kErrorState
  buffer := []
  name := []
  head := head

end Rcom
