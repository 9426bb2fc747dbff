import Librcom.Digest.Stream
import Librcom.Http.HandshakeLaws

/-! The opening handshake with the digest of the library, between hosts of either order of bytes. -/

namespace Rcom

open Effects
open Json (ascii)
open Base64 (encodeBase64)

/-- The array that the digest of the library fills in. -/
def hostSha1 (order : ByteOrder) : Sha1 := fun data =>
  -- A string that is too long for the digest leaves the array without a value of its own.
  .ofFn fun i => ((sha1 order data).getD [])[i.val]!

section Digest

variable {order : ByteOrder}

/-- The digest of a host is the one of the standard, whatever the order of its bytes. -/
theorem hostSha1_toList {data : Bytes} (fits : data.length + 64 ≤ 2 ^ 32) :
    (hostSha1 order data).toList = Fips180.sha1 data := by
  have size := Fips180.length_sha1 data
  rw [hostSha1, sha1_eq order fits, Option.getD_some]
  apply List.ext_getElem
  · simp [size]
  · intro i inside there
    rw [Vector.getElem_toList, Vector.getElem_ofFn, getElem!_pos (Fips180.sha1 data) i there]

/-- The string that answers a key is made with the digest of the standard. -/
theorem makeAcceptString_eq {key : Bytes} (fits : key.length + 100 ≤ 2 ^ 32) :
    makeAcceptString (hostSha1 order) key =
      encodeBase64 (Fips180.sha1 (key ++ ascii "258EAFA5-E914-47DA-95CA-C5AB0DC85B11")) := by
  have length : (ascii "258EAFA5-E914-47DA-95CA-C5AB0DC85B11").length = 36 := by rfl
  rw [makeAcceptString, hostSha1_toList]
  rw [List.length_append, length]
  omega

/-- The keys of a client are short enough. -/
theorem makeAcceptString_makeKey (nonce : Vector UInt8 16) :
    makeAcceptString (hostSha1 order) (ClientSideWebSocket.makeKey nonce) =
      encodeBase64 (Fips180.sha1 (ClientSideWebSocket.makeKey nonce ++
        ascii "258EAFA5-E914-47DA-95CA-C5AB0DC85B11")) := by
  apply makeAcceptString_eq
  rw [ClientSideWebSocket.makeKey, Base64.length_encodeBase64, Vector.length_toList]
  decide

end Digest

/--
Two hosts complete the opening handshake, each with the digest of the library.

The orders of their bytes may differ, since the answer to the key is the one of the standard on both.
-/
theorem hosts_open (client_order server_order : ByteOrder) (nonce : Vector UInt8 16)
    (remote : Address) {client server : WebSocket} (client_steady : client.socket.Steady)
    (server_steady : server.socket.Steady) (server_sends : server.socket.sends.head = true) :
    ∃ server' client' response,
      (ServerSideWebSocket.handshake (hostSha1 server_order)).Yields
        ⟨server.receiving (ClientSideWebSocket.makeHttpRequest remote.tostring
          (ClientSideWebSocket.makeKey nonce)), HttpParser.create Request.create⟩ () server' ∧
      server'.ws.socket.passed = server.socket.passed ++ [.buffer response] ∧
      response = ServerSideWebSocket.makeHttpResponse (encodeBase64 (Fips180.sha1
        (ClientSideWebSocket.makeKey nonce ++ ascii "258EAFA5-E914-47DA-95CA-C5AB0DC85B11"))) ∧
      (ClientSideWebSocket.awaitHttpResponse (makeAcceptString (hostSha1 client_order)
          (ClientSideWebSocket.makeKey nonce))).Yields
        ⟨client.receiving response, HttpParser.create Response.create⟩ () client' ∧
      client'.ws.socket.incoming = [] ∧
      (client.socket.sends.head = true → ∃ client'',
        (ClientSideWebSocket.handshake (hostSha1 client_order) nonce remote).Yields
          ⟨client.receiving response, HttpParser.create Response.create⟩ () client'' ∧
        client''.ws.socket.incoming = []) := by
  -- The server answers with its own digest, which is the one that the client expects.
  have asked : (server.receiving (ClientSideWebSocket.makeHttpRequest remote.tostring
      (ClientSideWebSocket.makeKey nonce))).socket.Steady := server_steady.left _
  obtain ⟨server', served, _, answered⟩ :=
    serverHandshake_yields (hostSha1 server_order) nonce remote asked server_sends rfl
  rw [makeAcceptString_makeKey] at answered
  have replied : (client.receiving (ServerSideWebSocket.makeHttpResponse (encodeBase64 (Fips180.sha1
      (ClientSideWebSocket.makeKey nonce ++
        ascii "258EAFA5-E914-47DA-95CA-C5AB0DC85B11"))))).socket.Steady := client_steady.left _
  have size := Fips180.length_sha1
    (ClientSideWebSocket.makeKey nonce ++ ascii "258EAFA5-E914-47DA-95CA-C5AB0DC85B11")
  obtain ⟨client', opened, read⟩ := awaitHttpResponse_yields size replied rfl
  refine ⟨server', client', _, served, answered, rfl, ?_, read, fun client_sends => ?_⟩
  · rw [makeAcceptString_makeKey]
    exact opened
  · -- A client that has sent its request itself awaits the same response.
    have asked_steady : ((client.offered (.buffer (ClientSideWebSocket.makeHttpRequest remote.tostring
        (ClientSideWebSocket.makeKey nonce)))).receiving (ServerSideWebSocket.makeHttpResponse
          (encodeBase64 (Fips180.sha1 (ClientSideWebSocket.makeKey nonce ++
            ascii "258EAFA5-E914-47DA-95CA-C5AB0DC85B11"))))).socket.Steady :=
      (steady_offered client_steady _).left _
    obtain ⟨client'', opened', read'⟩ :=
      awaitHttpResponse_yields size asked_steady (incoming_receiving _ _)
    refine ⟨client'', clientHandshake_yields client_steady.connected client_sends ?_, read'⟩
    rw [makeAcceptString_makeKey]
    exact opened'

/-- A server and a client on hosts of different orders, with a nonce of zeros. -/
theorem hosts_open_mixed :
    ∃ server' client' response,
      (ServerSideWebSocket.handshake (hostSha1 .bigEndian)).Yields
        ⟨(WebSocket.steady []).receiving (ClientSideWebSocket.makeHttpRequest
          (Address.tostring ⟨16777343, 80⟩) (ClientSideWebSocket.makeKey (Vector.replicate 16 0))),
          HttpParser.create Request.create⟩ () server' ∧
      server'.ws.socket.passed = (WebSocket.steady []).socket.passed ++ [.buffer response] ∧
      response = ServerSideWebSocket.makeHttpResponse (encodeBase64 (Fips180.sha1
        (ClientSideWebSocket.makeKey (Vector.replicate 16 0) ++
          ascii "258EAFA5-E914-47DA-95CA-C5AB0DC85B11"))) ∧
      (ClientSideWebSocket.awaitHttpResponse (makeAcceptString (hostSha1 .littleEndian)
          (ClientSideWebSocket.makeKey (Vector.replicate 16 0)))).Yields
        ⟨(WebSocket.steady []).receiving response, HttpParser.create Response.create⟩ () client' ∧
      client'.ws.socket.incoming = [] ∧
      ((WebSocket.steady []).socket.sends.head = true → ∃ client'',
        (ClientSideWebSocket.handshake (hostSha1 .littleEndian) (Vector.replicate 16 0)
          ⟨16777343, 80⟩).Yields
          ⟨(WebSocket.steady []).receiving response, HttpParser.create Response.create⟩ () client'' ∧
        client''.ws.socket.incoming = []) :=
  hosts_open .littleEndian .bigEndian (Vector.replicate 16 0) ⟨16777343, 80⟩
    ⟨rfl, rfl, rfl⟩ ⟨rfl, rfl, rfl⟩ rfl

end Rcom
