import Librcom.Bytes.Decimal
import Librcom.Bytes.Strings
import Librcom.Http.Request

/-! Responses, and how they are parsed. -/

namespace Rcom

open Json (ascii)

structure Response where
  code : Int
  headers : Headers
  deriving DecidableEq, Repr

namespace Response

/-- A response as its constructor leaves it. -/
def create : Response where
  code := 0
  headers := []

def statusEquals101 (response : Response) : Except String Unit :=
  if response.code = 101 then .ok () else .error "Response: Expected 101 status"

def headerEquals (response : Response) (name expected : Bytes) : Bool :=
  response.headers.getHeaderValue name == some expected

def connectionHeaderEqualsUpgrade (response : Response) : Except String Unit :=
  -- The value is compared letter by letter, and two spellings are known.
  if response.headerEquals (ascii "Connection") (ascii "Upgrade") ||
      response.headerEquals (ascii "Connection") (ascii "upgrade") then .ok ()
  else .error "Response: Bad 'Connection' header"

def upgradeHeaderEqualsWebsocket (response : Response) : Except String Unit :=
  if response.headerEquals (ascii "Upgrade") (ascii "websocket") then .ok ()
  else .error "Response: Bad 'Upgrade' header"

def acceptHeaderIsValid (response : Response) (accept : Bytes) : Except String Unit :=
  if response.headerEquals (ascii "Sec-WebSocket-Accept") accept then .ok ()
  else .error "Response: Bad 'Sec-WebSocket-Accept' header"

/-- The response opens a WebSocket, and answers the key that the accept string was made from. -/
def assertWebsocket (response : Response) (accept : Bytes) : Except String Unit := do
  -- The first check that fails gives the exception.
  response.statusEquals101
  response.connectionHeaderEqualsUpgrade
  response.upgradeHeaderEqualsWebsocket
  response.acceptHeaderIsValid accept

end Response

namespace ResponseParser

def setVersion (value : Bytes) (response : Response) : Except String Response :=
  if value = ascii "HTTP/1.1" then .ok response else .error "Unsupported HTTP version"

def setCode (value : Bytes) (response : Response) : Except String Response :=
  -- The code has to be all of the text.
  let (code, rest) := Decimal.strtol (cString value)
  if rest = [] ∧ 100 ≤ code ∧ code < 600 then .ok { response with code := code }
  else .error "Invalid status code"

def addHeader (name value : Bytes) (response : Response) : Response :=
  { response with headers := response.headers ++ [(name, value)] }

def listener : HttpParserListener Response where
  -- A response begins with its version, so that there is no method.
  setMethod _ _ := .error "Didn't expect a method"
  setUri _ _ := .error "Didn't expect an URI"
  setVersion := setVersion
  setCode := setCode
  -- The reason is read and forgotten.
  setReason _ response := .ok response
  addHeader := addHeader

def parse : ParserM Response Unit := HttpParser.parseResponse listener

end ResponseParser

end Rcom
