import Librcom.Bytes.Base64
import Librcom.Http.Parser

/-! Requests, how they are parsed, and what makes them the opening of a WebSocket. -/

namespace Rcom

open Json (ascii)

/-- The headers of a request or a response, in the order they came in. -/
abbrev Headers := List (Bytes × Bytes)

/-- The value of the first header with the name. -/
def Headers.getHeaderValue (headers : Headers) (name : Bytes) : Option Bytes :=
  -- Names are compared byte by byte, so that another spelling is another name.
  (headers.find? fun header => name == header.1).map Prod.snd

inductive HttpMethod where
  | kUnsupportedMethod
  | kGetMethod
  deriving DecidableEq, Repr

structure Request where
  method : HttpMethod
  uri : Bytes
  headers : Headers
  deriving DecidableEq, Repr

namespace Request

/-- A request as its constructor leaves it. -/
def create : Request where
  method := .kUnsupportedMethod
  uri := []
  headers := []

def httpMethodIsGet (request : Request) : Except String Unit :=
  if request.method = .kGetMethod then .ok () else .error "Request: Bad HTTP method"

def isValidWebsocketKey (key : Bytes) : Except String Unit :=
  if key.length ≠ 24 then .error "Request: bad key length"
  -- Sixteen bytes in base64 end with two characters of padding.
  else if key[22]? ≠ some 61 ∨ key[23]? ≠ some 61 then .error "Request: expected closing '=' chars"
  else if !Base64.isBase64String key then .error "Request: invalid char"
  else .ok ()

def hasValidWebsocketKey (request : Request) : Except String Unit :=
  match request.headers.getHeaderValue (ascii "Sec-WebSocket-Key") with
  | none => .error "Request: Missing Sec-WebSocket-Key header"
  | some key => isValidWebsocketKey key

def hasValidWebsocketVersion (request : Request) : Except String Unit :=
  if request.headers.getHeaderValue (ascii "Sec-WebSocket-Version") = some (ascii "13") then .ok ()
  else .error "Request: Bad Sec-WebSocket-Version header"

/-- The text has another one in it. -/
def hasSubstring (text part : Bytes) : Bool := text.tails.any part.isPrefixOf

def connectionHeaderIsUpgrade (request : Request) : Except String Unit :=
  match request.headers.getHeaderValue (ascii "Connection") with
  | none => .error "Request: Bad Connection header"
  | some value =>
    -- The value may have other words beside this one.
    if hasSubstring value (ascii "Upgrade") || hasSubstring value (ascii "upgrade") then .ok ()
    else .error "Request: Bad Connection header"

def upgradeHeaderIsWebsocket (request : Request) : Except String Unit :=
  if request.headers.getHeaderValue (ascii "Upgrade") = some (ascii "websocket") then .ok ()
  else .error "Request: Bad Upgrade header"

/-- The request opens a WebSocket. -/
def assertWebsocket (request : Request) : Except String Unit := do
  -- The first check that fails names the error.
  request.httpMethodIsGet
  request.hasValidWebsocketKey
  request.hasValidWebsocketVersion
  request.connectionHeaderIsUpgrade
  request.upgradeHeaderIsWebsocket

end Request

namespace RequestParser

def setMethod (value : Bytes) (request : Request) : Except String Request :=
  if value = ascii "GET" then .ok { request with method := .kGetMethod }
  else .error "Method not allowed"

def setUri (value : Bytes) (request : Request) : Except String Request :=
  .ok { request with uri := value }

def setVersion (value : Bytes) (request : Request) : Except String Request :=
  if value = ascii "HTTP/1.1" then .ok request else .error "Unsupported HTTP version"

def addHeader (name value : Bytes) (request : Request) : Request :=
  { request with headers := request.headers ++ [(name, value)] }

def listener : HttpParserListener Request where
  setMethod := setMethod
  setUri := setUri
  setVersion := setVersion
  -- Parts of a response are refused, although the same parser reads both.
  setCode _ _ := .error "Didn't expect a response code"
  setReason _ _ := .error "Didn't expect a response reason"
  addHeader := addHeader

def parse : ParserM Request Unit := HttpParser.parseRequest listener

end RequestParser

end Rcom
