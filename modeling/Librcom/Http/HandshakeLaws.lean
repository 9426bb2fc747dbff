import Librcom.Http.Handshake
import Librcom.Http.Keys
import Librcom.Http.RequestLaws
import Librcom.Http.ResponseLaws
import Librcom.WebSocket.SocketLaws

/-! The two sides of the handshake understand each other. -/

namespace Rcom

open Effects
open Json (ascii)
open Base64 (encodeBase64)
open Decimal (decimal)
open HttpParser

section Values

/-- A text of letters and equals signs is the value of a header. -/
theorem isValue_encodeBase64 {bytes : List UInt8} (some : bytes ≠ []) (few : bytes.length ≤ 100) :
    IsValue (encodeBase64 bytes) := by
  have length := Base64.length_encodeBase64 bytes
  have positive := List.length_pos_iff.mpr some
  refine ⟨by omega, ?_, Base64.not_mem_encodeBase64 (by decide), ?_⟩
  · rw [length, kMaxHeaderValueLength]
    omega
  · intro space
    exact Base64.not_mem_encodeBase64 (by decide) (List.mem_of_mem_head? space)

/-- There is no zero among letters, so that none of them is cut off. -/
theorem cString_encodeBase64 (bytes : List UInt8) :
    cString (encodeBase64 bytes) = encodeBase64 bytes :=
  cString_eq (Base64.not_mem_encodeBase64 (by decide))

/-- A printed address is short. -/
theorem length_tostring (address : Address) :
    1 ≤ address.tostring.length ∧ address.tostring.length ≤ 1024 := by
  -- Each of the four octets has three digits at most, and the port has five.
  have octet (n : Nat) (small : n < 256) : (decimal n).length ≤ 3 :=
    Decimal.length_decimal_le (by omega)
  have port : (decimal address.port.toNat).length ≤ 5 :=
    Decimal.length_decimal_le (by have := address.port.toNat_lt; omega)
  have ip := address.ip.toNat_lt
  have first := octet (address.ip.toNat % 256) (by omega)
  have second := octet (address.ip.toNat / 256 % 256) (by omega)
  have third := octet (address.ip.toNat / 65536 % 256) (by omega)
  have fourth := octet (address.ip.toNat / 16777216) (by omega)
  simp only [Address.tostring, inetNtoa, List.length_append, List.length_cons]
  omega

/-- The text of an address can be the value of a header. -/
theorem isValue_tostring (address : Address) : IsValue address.tostring := by
  -- The characters of an address are digits, points and a colon.
  have mark := isAddressByte_tostring address
  refine ⟨(length_tostring address).1, (length_tostring address).2, ?_, ?_⟩
  · intro broken
    exact absurd (mark 13 broken) (by decide)
  · intro space
    exact absurd (mark 32 (List.mem_of_mem_head? space)) (by decide)

/-- There is no zero in the text of an address. -/
theorem cString_tostring (address : Address) : cString address.tostring = address.tostring := by
  apply cString_eq
  intro null
  exact absurd (isAddressByte_tostring address 0 null) (by decide)

end Values

section Heads

variable {host key accept : Bytes}

/-- The headers of the request that opens a WebSocket. -/
def openingHeaders (host key : Bytes) : Headers :=
  [(ascii "Host", host), (ascii "Connection", ascii "Upgrade"), (ascii "Upgrade", ascii "websocket"),
    (ascii "Sec-WebSocket-Version", ascii "13"), (ascii "Sec-WebSocket-Key", key)]

/-- The headers of the response that opens a WebSocket. -/
def upgradeHeaders (accept : Bytes) : Headers :=
  [(ascii "Upgrade", ascii "websocket"), (ascii "Connection", ascii "Upgrade"),
    (ascii "Sec-WebSocket-Accept", accept)]

/-- The lines of headers that are written with one space. -/
def spacedLines (headers : Headers) : Bytes :=
  headers.flatMap fun header => headerLine header.1 1 header.2

/-- Headers with good names and values are written as header lines. -/
theorem headerLines_spacedLines {headers : Headers}
    (good : ∀ header ∈ headers, IsName header.1 ∧ IsValue header.2) :
    HeaderLines headers (spacedLines headers) := by
  induction headers with
  | nil => exact .none
  | cons header headers ih =>
    obtain ⟨named, valued⟩ := good header List.mem_cons_self
    -- Each header is a line of its own, with the one space that the source writes.
    exact .more 1 named valued (ih fun other among => good other (List.mem_cons_of_mem _ among))

/-- The request is a request line and the opening headers, where no text is cut off. -/
theorem makeHttpRequest_eq (whole_host : cString host = host) (whole_key : cString key = key) :
    ClientSideWebSocket.makeHttpRequest host key =
      requestLine 0 [47] 0 ++ spacedLines (openingHeaders host key) ++ [13, 10] := by
  -- The strings of the source are taken apart into the parts of the lines, by evaluation.
  have line : ascii "GET / HTTP/1.1\r\n" = requestLine 0 [47] 0 := by rfl
  have hosted : ascii "Host: " = ascii "Host" ++ [58, 32] := by rfl
  have connection : ascii "Connection: Upgrade\r\n" =
      headerLine (ascii "Connection") 1 (ascii "Upgrade") := by rfl
  have upgrade : ascii "Upgrade: websocket\r\n" =
      headerLine (ascii "Upgrade") 1 (ascii "websocket") := by rfl
  have version : ascii "Sec-WebSocket-Version: 13\r\n" =
      headerLine (ascii "Sec-WebSocket-Version") 1 (ascii "13") := by rfl
  have keyed : ascii "Sec-WebSocket-Key: " = ascii "Sec-WebSocket-Key" ++ [58, 32] := by rfl
  have break_line : ascii "\r\n" = [13, 10] := by rfl
  -- What remains is to put the parts together in the same order.
  rw [ClientSideWebSocket.makeHttpRequest, whole_host, whole_key, line, hosted, connection, upgrade,
    version, keyed, break_line]
  simp [spacedLines, openingHeaders, headerLine]

/-- The response is the head of a response with the upgrade headers, where no text is cut off. -/
theorem makeHttpResponse_eq (whole_accept : cString accept = accept) :
    ServerSideWebSocket.makeHttpResponse accept =
      responseHead 101 (ascii "Switching Protocols") (spacedLines (upgradeHeaders accept)) := by
  -- Here the first line is a status line, and the rest is as in the request.
  have line : ascii "HTTP/1.1 101 Switching Protocols\r\n" =
      statusLine 101 (ascii "Switching Protocols") := by rfl
  have connection : ascii "Connection: Upgrade\r\n" =
      headerLine (ascii "Connection") 1 (ascii "Upgrade") := by rfl
  have upgrade : ascii "Upgrade: websocket\r\n" =
      headerLine (ascii "Upgrade") 1 (ascii "websocket") := by rfl
  have accepted : ascii "Sec-WebSocket-Accept: " = ascii "Sec-WebSocket-Accept" ++ [58, 32] := by rfl
  have break_line : ascii "\r\n" = [13, 10] := by rfl
  rw [ServerSideWebSocket.makeHttpResponse, whole_accept, line, connection, upgrade, accepted,
    break_line]
  simp [spacedLines, upgradeHeaders, headerLine, responseHead]

/-- The value of the connection header. -/
theorem isValue_upgrade : IsValue (ascii "Upgrade") := ⟨by decide, by decide, by decide, by decide⟩

/-- The value of the upgrade header. -/
theorem isValue_websocket : IsValue (ascii "websocket") :=
  ⟨by decide, by decide, by decide, by decide⟩

/-- The value of the version header. -/
theorem isValue_version : IsValue (ascii "13") := ⟨by decide, by decide, by decide, by decide⟩

/-- The name of the header for the address. -/
theorem isName_host : IsName (ascii "Host") := isName_of_all (by decide)
/-- The name of the connection header. -/
theorem isName_connection : IsName (ascii "Connection") := isName_of_all (by decide)
/-- The name of the upgrade header. -/
theorem isName_upgrade : IsName (ascii "Upgrade") := isName_of_all (by decide)
/-- The name of the version header. -/
theorem isName_version : IsName (ascii "Sec-WebSocket-Version") := isName_of_all (by decide)
/-- The name of the header for the key. -/
theorem isName_key : IsName (ascii "Sec-WebSocket-Key") := isName_of_all (by decide)
/-- The name of the header for the accept string. -/
theorem isName_accept : IsName (ascii "Sec-WebSocket-Accept") := isName_of_all (by decide)

/-- The headers of a request have good names and values, if the address and the key are good. -/
theorem openingHeaders_good (host_value : IsValue host) (key_value : IsValue key) :
    ∀ header ∈ openingHeaders host key, IsName header.1 ∧ IsValue header.2 := by
  intro header among
  -- There are five headers, and only two of their values are not fixed.
  simp only [openingHeaders, List.mem_cons, List.not_mem_nil, or_false] at among
  rcases among with rfl | rfl | rfl | rfl | rfl
  · exact ⟨isName_host, host_value⟩
  · exact ⟨isName_connection, isValue_upgrade⟩
  · exact ⟨isName_upgrade, isValue_websocket⟩
  · exact ⟨isName_version, isValue_version⟩
  · exact ⟨isName_key, key_value⟩

/-- The headers of a response have good names and values, if the accept string is good. -/
theorem upgradeHeaders_good (accept_value : IsValue accept) :
    ∀ header ∈ upgradeHeaders accept, IsName header.1 ∧ IsValue header.2 := by
  intro header among
  simp only [upgradeHeaders, List.mem_cons, List.not_mem_nil, or_false] at among
  rcases among with rfl | rfl | rfl
  · exact ⟨isName_upgrade, isValue_websocket⟩
  · exact ⟨isName_connection, isValue_upgrade⟩
  · exact ⟨isName_accept, accept_value⟩

/-- The key is found among the headers of the request. -/
theorem getHeaderValue_key (host key : Bytes) :
    (openingHeaders host key).getHeaderValue (ascii "Sec-WebSocket-Key") = some key := by rfl

/-- The key of the client has the form that is asked for. -/
theorem isValidWebsocketKey_makeKey (nonce : Vector UInt8 16) :
    Request.isValidWebsocketKey (ClientSideWebSocket.makeKey nonce) = .ok () :=
  Request.isValidWebsocketKey_encodeBase64 nonce.length_toList

/-- The request of the client opens a WebSocket. -/
theorem assertWebsocket_opening (host : Bytes) (nonce : Vector UInt8 16) :
    Request.assertWebsocket
      ⟨.kGetMethod, [47], openingHeaders host (ClientSideWebSocket.makeKey nonce)⟩ = .ok () := by
  -- Of the four checks only the one of the key depends on what the client chose.
  have keyed : Request.hasValidWebsocketKey
      ⟨.kGetMethod, [47], openingHeaders host (ClientSideWebSocket.makeKey nonce)⟩ = .ok () := by
    rw [Request.hasValidWebsocketKey, getHeaderValue_key]
    exact isValidWebsocketKey_makeKey nonce
  have version : Request.hasValidWebsocketVersion
      ⟨.kGetMethod, [47], openingHeaders host (ClientSideWebSocket.makeKey nonce)⟩ = .ok () := by rfl
  have connection : Request.connectionHeaderIsUpgrade
      ⟨.kGetMethod, [47], openingHeaders host (ClientSideWebSocket.makeKey nonce)⟩ = .ok () := by rfl
  have upgrade : Request.upgradeHeaderIsWebsocket
      ⟨.kGetMethod, [47], openingHeaders host (ClientSideWebSocket.makeKey nonce)⟩ = .ok () := by rfl
  rw [Request.assertWebsocket, keyed, version, connection, upgrade]
  rfl

/-- The response of the server opens a WebSocket, and answers the key. -/
theorem assertWebsocket_upgrade (accept : Bytes) :
    Response.assertWebsocket ⟨101, upgradeHeaders accept⟩ accept = .ok () := by
  -- The accept string of the response is compared with the one that is expected.
  have accepted : Response.acceptHeaderIsValid ⟨101, upgradeHeaders accept⟩ accept = .ok () := by
    have found : Headers.getHeaderValue (upgradeHeaders accept) (ascii "Sec-WebSocket-Accept") =
        some accept := by rfl
    simp [Response.acceptHeaderIsValid, Response.headerEquals, found]
  have connection : Response.connectionHeaderEqualsUpgrade ⟨101, upgradeHeaders accept⟩ = .ok () := by
    rfl
  have upgrade : Response.upgradeHeaderEqualsWebsocket ⟨101, upgradeHeaders accept⟩ = .ok () := by rfl
  rw [Response.assertWebsocket, connection, upgrade, accepted]
  rfl

end Heads

section Agreement

/-- The bytes that the other end sent have arrived. -/
def WebSocket.receiving (ws : WebSocket) (bytes : Bytes) : WebSocket :=
  { ws with socket := ws.socket.left bytes }

/-- Exactly these bytes come in. -/
theorem incoming_receiving (ws : WebSocket) (bytes : Bytes) :
    (ws.receiving bytes).socket.incoming = bytes := rfl

section Calls

variable {ρ α : Type}

/-- A call on the WebSocket leaves the parser. -/
theorem onWebSocket_yields {call : WebSocketM α} {opening : Opening ρ} {a : α} {ws' : WebSocket}
    (returned : call.Yields opening.ws a ws') :
    (onWebSocket call).Yields opening a { opening with ws := ws' } :=
  returned.within fun ws (opening : Opening ρ) => { opening with ws := ws }

/-- A call on the parser leaves all of the WebSocket but its socket. -/
theorem onParser_yields {call : ParserM ρ α} {opening : Opening ρ} {a : α} {after : Parsing ρ}
    (returned : call.Yields ⟨opening.parser, opening.ws.socket⟩ a after) :
    (onParser call).Yields opening a
      { ws := { opening.ws with socket := after.socket }, parser := after.parser } :=
  Program.Yields.within (fun (parsing : Parsing ρ) (opening : Opening ρ) =>
    { ws := { opening.ws with socket := parsing.socket }, parser := parsing.parser }) returned

/-- An assertion that passes changes nothing. -/
theorem assertWebsocket_yields {result : Except String Unit} (passes : result = .ok ())
    (opening : Opening ρ) : (assertWebsocket result).Yields opening () opening :=
  Program.yields_ofExcept (by rw [passes]; rfl) opening

end Calls

/-- What a connected socket was offered it has passed on. -/
theorem passed_offered {ws : WebSocket} (connected : ws.socket.connected = true) (call : SocketCall) :
    (ws.offered call).socket.passed = ws.socket.passed ++ [call] := by
  rw [WebSocket.offered_passed, if_pos connected]

/-- To offer bytes to the peer leaves those that come in. -/
theorem incoming_offered (ws : WebSocket) (call : SocketCall) :
    (ws.offered call).socket.incoming = ws.socket.incoming := by
  unfold WebSocket.offered Socket.send
  split <;> rfl

/-- A steady socket stays steady when bytes are offered. -/
theorem steady_offered {ws : WebSocket} (steady : ws.socket.Steady) (call : SocketCall) :
    (ws.offered call).socket.Steady := by
  unfold WebSocket.offered Socket.send
  rw [if_pos steady.connected]
  exact ⟨steady.connected, steady.waits, steady.faultless⟩

variable {ws : WebSocket}

/-- The client sends its request. -/
theorem sendHttpRequest_yields (connected : ws.socket.connected = true)
    (sends : ws.socket.sends.head = true) (host key : Bytes) (parser : HttpParser Response) :
    (ClientSideWebSocket.sendHttpRequest host key).Yields ⟨ws, parser⟩ ()
      ⟨ws.offered (.buffer (ClientSideWebSocket.makeHttpRequest host key)), parser⟩ := by
  -- A connected socket whose system takes the bytes has them passed.
  apply (onWebSocket_yields (socketSend_yields .client _ ws connected sends)).bind
  rw [if_pos rfl]
  exact Program.yields_pure _ _

/-- Sending leaves what comes in, and what comes in leaves sending. -/
theorem offered_receiving (ws : WebSocket) (call : SocketCall) (bytes : Bytes) :
    (ws.receiving bytes).offered call = (ws.offered call).receiving bytes := by
  unfold WebSocket.receiving WebSocket.offered Socket.send Socket.left
  dsimp only
  split
  · rfl
  · rfl

/-- The handshake of the client is its request, and then what it makes of the response. -/
theorem clientHandshake_yields {sha1 : Sha1} {nonce : Vector UInt8 16} {remote : Address}
    {response : Bytes} {parser : HttpParser Response} {opening : Opening Response}
    (connected : ws.socket.connected = true) (sends : ws.socket.sends.head = true)
    (awaited : (ClientSideWebSocket.awaitHttpResponse
        (makeAcceptString sha1 (ClientSideWebSocket.makeKey nonce))).Yields
      ⟨(ws.offered (.buffer (ClientSideWebSocket.makeHttpRequest remote.tostring
        (ClientSideWebSocket.makeKey nonce)))).receiving response, parser⟩ () opening) :
    (ClientSideWebSocket.handshake sha1 nonce remote).Yields ⟨ws.receiving response, parser⟩ ()
      opening := by
  have still : (ws.receiving response).socket.connected = true := connected
  have takes : (ws.receiving response).socket.sends.head = true := sends
  have requested := sendHttpRequest_yields still takes remote.tostring
    (ClientSideWebSocket.makeKey nonce) parser
  -- The request is sent before the response comes in, or after: the socket is the same.
  rw [offered_receiving] at requested
  exact requested.bind awaited

/-- The server reads the request of the client as a whole, and answers its key. -/
theorem serverHandshake_yields (sha1 : Sha1) (nonce : Vector UInt8 16) (remote : Address)
    (steady : ws.socket.Steady) (sends : ws.socket.sends.head = true)
    (incoming : ws.socket.incoming =
      ClientSideWebSocket.makeHttpRequest remote.tostring (ClientSideWebSocket.makeKey nonce)) :
    ∃ opening, (ServerSideWebSocket.handshake sha1).Yields ⟨ws, HttpParser.create Request.create⟩ ()
        opening ∧
      opening.ws.socket.incoming = [] ∧
      opening.ws.socket.passed = ws.socket.passed ++ [.buffer (ServerSideWebSocket.makeHttpResponse
        (makeAcceptString sha1 (ClientSideWebSocket.makeKey nonce)))] := by
  -- What the client printed has no null in it, so that all of it is in the request.
  have whole_key : cString (ClientSideWebSocket.makeKey nonce) = ClientSideWebSocket.makeKey nonce :=
    cString_encodeBase64 _
  have key_value : IsValue (ClientSideWebSocket.makeKey nonce) :=
    isValue_encodeBase64 (by simp) (by simp)
  have good := openingHeaders_good (isValue_tostring remote) key_value
  have root : IsUri [47] := ⟨by decide, by decide, by decide⟩
  -- The request is a head in the sense of the grammar, with nothing behind it.
  have written : RequestHead [47] (openingHeaders remote.tostring (ClientSideWebSocket.makeKey nonce))
      ws.socket.incoming := by
    rw [incoming, makeHttpRequest_eq (cString_tostring remote) whole_key]
    exact .written 0 0 root (headerLines_spacedLines good)
  -- So the scanner accepts it, and what it filled in are the headers of the client.
  obtain ⟨parser', scanned, filled⟩ := RequestParser.scan_requestHead written [] []
  rw [List.append_nil] at scanned
  have parsed := RequestParser.parse_yields steady scanned
  -- The request that was filled in passes the checks, and its key is found.
  have opened : Request.assertWebsocket parser'.head = .ok () := by
    rw [filled]
    exact assertWebsocket_opening _ nonce
  have key : parser'.head.headers.getHeaderValue (ascii "Sec-WebSocket-Key") =
      some (ClientSideWebSocket.makeKey nonce) := by
    rw [filled]
    exact getHeaderValue_key _ _
  -- The answer is offered to the socket after the request was taken from it.
  have answered := socketSend_yields .server (.buffer (ServerSideWebSocket.makeHttpResponse
    (makeAcceptString sha1 (ClientSideWebSocket.makeKey nonce)))) (ws.receiving [])
    steady.connected sends
  refine ⟨⟨(ws.receiving []).offered (.buffer (ServerSideWebSocket.makeHttpResponse
    (makeAcceptString sha1 (ClientSideWebSocket.makeKey nonce)))), parser'⟩, ?_, ?_, ?_⟩
  · -- The calls of the handshake one after the other: parse, check, answer.
    apply (onParser_yields parsed).bind
    apply (Program.yields_get _).bind
    apply (assertWebsocket_yields opened _).next
    rw [ServerSideWebSocket.upgradeConnection, key]
    apply (onWebSocket_yields answered).bind
    rw [if_pos rfl]
    exact Program.yields_pure _ _
  · rw [incoming_offered]
    rfl
  · have receiving : (ws.receiving []).socket.connected = true := steady.connected
    exact passed_offered receiving _

/-- The client reads the response of the server as a whole, and finds its own accept string. -/
theorem awaitHttpResponse_yields {digest : List UInt8} (size : digest.length = 20)
    (steady : ws.socket.Steady)
    (incoming : ws.socket.incoming =
      ServerSideWebSocket.makeHttpResponse (encodeBase64 digest)) :
    ∃ opening, (ClientSideWebSocket.awaitHttpResponse (encodeBase64 digest)).Yields
        ⟨ws, HttpParser.create Response.create⟩ () opening ∧
      opening.ws.socket.incoming = [] := by
  -- The accept string is the value of a header, since a digest is neither empty nor long.
  have accept_value : IsValue (encodeBase64 digest) :=
    isValue_encodeBase64 (List.length_pos_iff.mp (by omega)) (by omega)
  have written := headerLines_spacedLines (upgradeHeaders_good accept_value)
  have given : IsReason (ascii "Switching Protocols") := ⟨by decide, by decide, by decide⟩
  have head : ws.socket.incoming = responseHead 101 (ascii "Switching Protocols")
      (spacedLines (upgradeHeaders (encodeBase64 digest))) ++ [] := by
    rw [incoming, makeHttpResponse_eq (cString_encodeBase64 digest), List.append_nil]
  -- The response is parsed to its end, and the headers are those of the server.
  obtain ⟨after, parsed, unread, filled⟩ := ResponseParser.reads_of_reason steady (by decide)
    (by decide) given (by decide) written head
  refine ⟨⟨{ ws with socket := after.socket }, after.parser⟩, ?_, unread⟩
  -- The last call of the client only checks what it parsed.
  apply (onParser_yields parsed).bind
  apply (Program.yields_get _).bind
  apply assertWebsocket_yields
  rw [filled]
  exact assertWebsocket_upgrade _

/--
The two sides of the handshake agree, whatever the key and the address are.

The server accepts what the client wrote, and the client accepts what the server wrote, and neither leaves a byte
unread. The handshake of the client as a whole comes to the same, when the response of the server comes in.
-/
theorem handshake_agrees (sha1 : Sha1) (nonce : Vector UInt8 16) (remote : Address)
    {client server : WebSocket} (client_steady : client.socket.Steady)
    (client_sends : client.socket.sends.head = true) (server_steady : server.socket.Steady)
    (server_sends : server.socket.sends.head = true) :
    ∃ request response client' server' client'',
      (ClientSideWebSocket.sendHttpRequest remote.tostring
          (ClientSideWebSocket.makeKey nonce)).Yields
        ⟨client, HttpParser.create Response.create⟩ () ⟨client', HttpParser.create Response.create⟩ ∧
      client'.socket.passed = client.socket.passed ++ [.buffer request] ∧
      (ServerSideWebSocket.handshake sha1).Yields
        ⟨server.receiving request, HttpParser.create Request.create⟩ () server' ∧
      server'.ws.socket.incoming = [] ∧
      server'.ws.socket.passed = server.socket.passed ++ [.buffer response] ∧
      (ClientSideWebSocket.awaitHttpResponse
          (makeAcceptString sha1 (ClientSideWebSocket.makeKey nonce))).Yields
        ⟨client'.receiving response, HttpParser.create Response.create⟩ () client'' ∧
      (ClientSideWebSocket.handshake sha1 nonce remote).Yields
        ⟨client.receiving response, HttpParser.create Response.create⟩ () client'' ∧
      client''.ws.socket.incoming = [] := by
  -- The client writes its request, which the server finds as its incoming bytes.
  have requested := sendHttpRequest_yields client_steady.connected client_sends remote.tostring
    (ClientSideWebSocket.makeKey nonce) (HttpParser.create Response.create)
  have server_receives : (server.receiving (ClientSideWebSocket.makeHttpRequest remote.tostring
      (ClientSideWebSocket.makeKey nonce))).socket.Steady := server_steady.left _
  have client_receives : ((client.offered (.buffer (ClientSideWebSocket.makeHttpRequest
      remote.tostring (ClientSideWebSocket.makeKey nonce)))).receiving
        (ServerSideWebSocket.makeHttpResponse
          (makeAcceptString sha1 (ClientSideWebSocket.makeKey nonce)))).socket.Steady :=
    (steady_offered client_steady _).left _
  -- The server answers, and its answer is what the client finds.
  obtain ⟨server', served, read, answered⟩ :=
    serverHandshake_yields sha1 nonce remote server_receives server_sends rfl
  obtain ⟨client'', opened, read'⟩ :=
    awaitHttpResponse_yields (Vector.length_toList ..) client_receives rfl
  exact ⟨_, _, _, server', client'', requested, passed_offered client_steady.connected _, served, read,
    answered, opened, clientHandshake_yields client_steady.connected client_sends opened, read'⟩

/-- The handshake on sockets where all goes well, with a digest of zeros. -/
theorem handshake_agrees_steady :
    ∃ request response client' server' client'',
      (ClientSideWebSocket.sendHttpRequest (Address.tostring ⟨16777343, 80⟩)
          (ClientSideWebSocket.makeKey (Vector.replicate 16 0))).Yields
        ⟨.steady [], HttpParser.create Response.create⟩ ()
        ⟨client', HttpParser.create Response.create⟩ ∧
      client'.socket.passed = (WebSocket.steady []).socket.passed ++ [.buffer request] ∧
      (ServerSideWebSocket.handshake fun _ => Vector.replicate 20 0).Yields
        ⟨(WebSocket.steady []).receiving request, HttpParser.create Request.create⟩ () server' ∧
      server'.ws.socket.incoming = [] ∧
      server'.ws.socket.passed = (WebSocket.steady []).socket.passed ++ [.buffer response] ∧
      (ClientSideWebSocket.awaitHttpResponse (makeAcceptString (fun _ => Vector.replicate 20 0)
          (ClientSideWebSocket.makeKey (Vector.replicate 16 0)))).Yields
        ⟨client'.receiving response, HttpParser.create Response.create⟩ () client'' ∧
      (ClientSideWebSocket.handshake (fun _ => Vector.replicate 20 0) (Vector.replicate 16 0)
          ⟨16777343, 80⟩).Yields
        ⟨(WebSocket.steady []).receiving response, HttpParser.create Response.create⟩ () client'' ∧
      client''.ws.socket.incoming = [] :=
  handshake_agrees (fun _ => Vector.replicate 20 0) (Vector.replicate 16 0) ⟨16777343, 80⟩
    ⟨rfl, rfl, rfl⟩ rfl ⟨rfl, rfl, rfl⟩ rfl

end Agreement

end Rcom
