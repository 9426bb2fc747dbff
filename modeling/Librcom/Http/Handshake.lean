import Librcom.Bytes.Base64
import Librcom.Http.Request
import Librcom.Http.Response
import Librcom.Registry.Address
import Librcom.WebSocket.Endpoint

/-! The opening handshake of a WebSocket, on the side of the client and on the side of the server. -/

namespace Rcom

open Effects
open Json (ascii)
open Base64 (encodeBase64)

/-- A function that gives a digest of twenty bytes. -/
abbrev Sha1 := Bytes → Vector UInt8 20

/-- A WebSocket that is being opened, and the parser of what its other end sends. -/
structure Opening (ρ : Type) where
  ws : WebSocket
  parser : HttpParser ρ

/-- A method in the constructor of a WebSocket. -/
abbrev OpeningM (ρ : Type) := Program (Opening ρ) Fault

section Parts

variable {ρ α : Type}

def onWebSocket (call : WebSocketM α) : OpeningM ρ α :=
  call.within Opening.ws fun ws opening => { opening with ws := ws }

/-- The parser reads from the socket of the WebSocket. -/
def onParser (call : ParserM ρ α) : OpeningM ρ α :=
  call.within (fun opening => ⟨opening.parser, opening.ws.socket⟩) fun parsing opening =>
    -- What the parser has read is gone from the socket.
    { ws := { opening.ws with socket := parsing.socket }, parser := parsing.parser }

def assertWebsocket (result : Except String Unit) : OpeningM ρ Unit :=
  Program.ofExcept (result.mapError .runtimeError)

end Parts

/-- The string that answers a key. -/
def makeAcceptString (sha1 : Sha1) (key : Bytes) : Bytes :=
  -- The string behind the key is fixed by the protocol.
  encodeBase64 (sha1 (key ++ ascii "258EAFA5-E914-47DA-95CA-C5AB0DC85B11")).toList

namespace ClientSideWebSocket

/-- The key, made from random bytes. -/
def makeKey (nonce : Vector UInt8 16) : Bytes := encodeBase64 nonce.toList

def makeHttpRequest (host key : Bytes) : Bytes :=
  -- The header lines are printed in this order, from C strings.
  ascii "GET / HTTP/1.1\r\n" ++
    ascii "Host: " ++ cString host ++ ascii "\r\n" ++
    ascii "Connection: Upgrade\r\n" ++
    ascii "Upgrade: websocket\r\n" ++
    ascii "Sec-WebSocket-Version: 13\r\n" ++
    ascii "Sec-WebSocket-Key: " ++ cString key ++ ascii "\r\n" ++
    ascii "\r\n"

def sendHttpRequest (host key : Bytes) : OpeningM Response Unit := do
  -- A request that cannot be sent ends the handshake.
  if ← onWebSocket (socketSend .client (.buffer (makeHttpRequest host key))) then return ()
  else Program.raise (.runtimeError "ClientSideWebSocket::send_http_request send failed")

/-- The rest of the handshake, once the request was sent. -/
def awaitHttpResponse (accept : Bytes) : OpeningM Response Unit := do
  onParser ResponseParser.parse
  let opening ← Program.get
  -- The response is checked only after its header was read to the end.
  assertWebsocket (opening.parser.head.assertWebsocket accept)

def handshake (sha1 : Sha1) (nonce : Vector UInt8 16) (address : Address) : OpeningM Response Unit := do
  let key := makeKey nonce
  -- The answer is known before the request is sent.
  let accept := makeAcceptString sha1 key
  let host := address.tostring
  sendHttpRequest host key
  awaitHttpResponse accept

end ClientSideWebSocket

namespace ServerSideWebSocket

def makeHttpResponse (accept : Bytes) : Bytes :=
  ascii "HTTP/1.1 101 Switching Protocols\r\n" ++
    ascii "Upgrade: websocket\r\n" ++
    ascii "Connection: Upgrade\r\n" ++
    ascii "Sec-WebSocket-Accept: " ++ cString accept ++ ascii "\r\n" ++
    ascii "\r\n"

def upgradeConnection (sha1 : Sha1) (request : Request) : OpeningM Request Unit := do
  -- The request was checked, so that it has a key.
  let key := (request.headers.getHeaderValue (ascii "Sec-WebSocket-Key")).getD []
  let accept := makeAcceptString sha1 key
  if ← onWebSocket (socketSend .server (.buffer (makeHttpResponse accept))) then return ()
  else Program.raise (.runtimeError "ServerSideWebSocket::upgrade_connection send failed")

def handshake (sha1 : Sha1) : OpeningM Request Unit := do
  onParser RequestParser.parse
  let opening ← Program.get
  let request := opening.parser.head
  -- Nothing is sent to a client whose request is not one for a WebSocket.
  assertWebsocket request.assertWebsocket
  upgradeConnection sha1 request

end ServerSideWebSocket

end Rcom
