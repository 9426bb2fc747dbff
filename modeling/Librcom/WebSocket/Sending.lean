import Librcom.WebSocket.RoundTrip

/-! Sending as its caller sees it: a whole frame on a link that works, or a link that is closed. -/

namespace Rcom

open Effects

/-- The socket is connected, and takes all that is still passed to it. -/
structure WebSocket.SendsSucceed (ws : WebSocket) : Prop where
  connected : ws.socket.connected = true
  takes : ∀ i, ws.socket.sends.get i = true

/-- A link that takes a call takes the next one, too. -/
theorem WebSocket.SendsSucceed.offered {ws : WebSocket} (succeed : ws.SendsSucceed) (call : SocketCall) :
    (ws.offered call).SendsSucceed where
  connected := by rw [WebSocket.offered_connected, succeed.connected]
  takes i := by
    rw [WebSocket.offered_of_connected call succeed.connected]
    exact succeed.takes (i + 1)

/-- Sends go on to succeed when a mask is drawn. -/
theorem WebSocket.SendsSucceed.drawn {ws : WebSocket} (succeed : ws.SendsSucceed) (side : Side) :
    (ws.drawn side).SendsSucceed := by
  constructor
  · rw [WebSocket.drawn_socket]
    exact succeed.connected
  · rw [WebSocket.drawn_socket]
    exact succeed.takes

section Achievements

variable (side : Side) {ws : WebSocket} (succeed : ws.SendsSucceed)

include succeed

/-- Where sends succeed, a send succeeds. -/
theorem socketSend_achieves (call : SocketCall) :
    (socketSend side call).Achieves ws (fun ok ws' => ok = true ∧ ws'.SendsSucceed)
      (fun _ _ => False) :=
  (socketSend_yields side call ws succeed.connected (succeed.takes 0)).achieves
    ⟨rfl, succeed.offered call⟩

/-- Where sends succeed, a block is sent. -/
theorem outputSendPayload_achieves (data : Bytes) :
    (outputSendPayload side data).Achieves ws (fun ok ws' => ok = true ∧ ws'.SendsSucceed)
      (fun _ _ => False) := by
  cases side with
  | server => exact socketSend_achieves .server succeed (.block data)
  | client =>
    have masked : (ClientSideWebSocket.maskData data).Yields ws (applyMask ws.outputMask data) ws :=
      (Program.yields_get ws).bind (Program.yields_pure _ _)
    exact masked.bind_achieves (socketSend_achieves .client succeed (.block _))

/-- Block after block is taken, and there is an end of them. -/
theorem sendLongMessagePayload_achieves (message : Bytes) :
    (sendLongMessagePayload side message).Achieves ws (fun ok ws' => ok = true ∧ ws'.SendsSucceed)
      (fun _ _ => False) := by
  -- Each round sends at least one byte, so what is left bounds the rounds.
  refine Program.Achieves.iterate (n := message.length) (fun left (state : Bool × Nat) ws' =>
    state.1 = true ∧ ws'.SendsSucceed ∧ left = message.length - state.2) ?_ ⟨rfl, succeed, by omega⟩
  rintro left ⟨ok, sent⟩ ws' ⟨rfl, still, rfl⟩
  by_cases more : sent < message.length
  · simp only [sendLongMessagePayloadRound, more, decide_true, Bool.and_true, if_true]
    generalize size : (if sent + kPayloadBufferLength > message.length then message.length - sent
      else kPayloadBufferLength) = n
    refine (outputSendPayload_achieves side still _).bind ?_
    rintro ok' ws'' ⟨rfl, next⟩
    refine (Program.yields_pure _ _).achieves ⟨message.length - (sent + n), ?_, rfl, next, rfl⟩
    unfold kPayloadBufferLength at size
    split at size
    · omega
    · omega
  · -- Nothing is left, and the loop is done.
    simp only [sendLongMessagePayloadRound, more, decide_false, Bool.and_false, Bool.false_eq_true,
      if_false]
    exact (Program.yields_pure _ _).achieves ⟨rfl, still⟩

/-- Where sends succeed, a header is sent. -/
theorem sendLongMessageHeader_achieves (opcode : Opcode) (message : Bytes) :
    (sendLongMessageHeader side opcode message).Achieves ws
      (fun ok ws' => ok = true ∧ ws'.SendsSucceed) (fun _ _ => False) := by
  refine (outputAppendHeader_yields side [] opcode message ws).bind_achieves ?_
  refine (Program.yields_update _ _).bind_achieves ?_
  -- Drawing a mask leaves the socket.
  have drawn := succeed.drawn side
  refine (Program.yields_get _).bind_achieves (socketSend_achieves side ?_ _)
  exact ⟨drawn.connected, drawn.takes⟩

/-- Where sends succeed, a long message is sent. -/
theorem sendLongDataMessage_achieves (message : Bytes) (type : MessageType) :
    (sendLongDataMessage side message type).Achieves ws
      (fun ok ws' => ok = true ∧ ws'.SendsSucceed) (fun _ _ => False) := by
  have turnedOn : turnBufferingOn.Yields ws ()
      { ws with socket := { ws.socket with nodelay := false } } := Program.yields_update _ ws
  -- Buffering is an option of the socket, which takes all the same.
  refine turnedOn.bind_achieves ?_
  refine (sendLongMessageHeader_achieves side ?_ type.opcode message).bind ?_
  · exact ⟨succeed.connected, succeed.takes⟩
  · rintro ok ws' ⟨rfl, still⟩
    exact sendLongMessagePayload_achieves side still message

end Achievements

/--
A long message goes over the wire as the frame that would be made of it in one buffer.

The other end receives the message and its type, and nothing stays on the wire.
-/
theorem sendLongDataMessage_agrees (side : Side) (message : Bytes) (type : MessageType)
    (long : kShortMessageLength ≤ message.length) (bounded : message.length < kMaximumMessageLength)
    (ws : WebSocket) (succeed : ws.SendsSucceed) :
    ∃ ws' calls made, (sendLongDataMessage side message type).Yields ws true ws' ∧
      ws'.socket.passed = ws.socket.passed ++ calls ∧
      (makeMessage side type.opcode message).Yields ws (wire calls) made ∧
      ∀ (receiver : WebSocket) (timeout : ℚ) (buffer : Bytes),
        receiver.socket.incoming = wire calls → receiver.Listening timeout →
        ∃ receiver', (recv side.opposite buffer timeout).Yields receiver (type.status, message)
            receiver' ∧ receiver'.socket.incoming = [] := by
  have achieved := sendLongDataMessage_achieves side succeed message type
  -- Sending ends, and it succeeds; the bytes that it passed are those of the frame.
  rcases achieved.halts.cases with ⟨ok, ws', sent⟩ | ⟨e, ws', threw⟩
  · obtain rfl : ok = true := (achieved.yields sent).1
    obtain ⟨calls, passed, all, _⟩ := ((sendLongDataMessage_emits side message type ws).yields sent).calls
    have ordinary : message.length ≠ 65536 := by
      unfold kShortMessageLength at long
      omega
    refine ⟨ws', calls, ws.drawn side, sent, passed, ?_, ?_⟩
    · rw [all rfl]
      exact makeMessage_yields side type.opcode message ws
    · intro receiver timeout buffer incoming listening
      rw [all rfl] at incoming
      exact recv_frameBytes side type bounded ordinary incoming listening buffer
  · exact (achieved.throws threw).elim

/-- A client's message of the first length that counts as long. -/
theorem sendLongDataMessage_agrees_zeros :
    ∃ ws' calls made, (sendLongDataMessage .client (List.replicate 131072 0) .kBinaryMessage).Yields
        (.steady []) true ws' ∧
      ws'.socket.passed = [] ++ calls ∧
      (makeMessage .client MessageType.kBinaryMessage.opcode (List.replicate 131072 0)).Yields
        (.steady []) (wire calls) made ∧
      ∀ (receiver : WebSocket) (timeout : ℚ) (buffer : Bytes),
        receiver.socket.incoming = wire calls → receiver.Listening timeout →
        ∃ receiver', (recv .server buffer timeout).Yields receiver
            (.kRecvBinary, List.replicate 131072 0) receiver' ∧ receiver'.socket.incoming = [] := by
  have exact : (List.replicate 131072 (0 : UInt8)).length = 131072 := List.length_replicate
  exact sendLongDataMessage_agrees .client (List.replicate 131072 0) .kBinaryMessage
    (by rw [exact]; decide) (by rw [exact]; decide) (.steady []) ⟨rfl, fun _ => rfl⟩

/--
No torn frame is left on a link that can still be used.

A send that fails has passed nothing and left the link, because the message was too long,
or has closed the link behind a front of the message's frame.
A send that succeeds has passed the frame.
-/
theorem send_leaves_no_torn_frame (side : Side) (message : Bytes) (type : MessageType) (ws : WebSocket)
    (sleeps : ws.SleepsSucceed) :
    ∃ frame, (∃ made, (makeMessage side type.opcode message).Yields ws frame made) ∧
      (∀ e ws', ¬ (send side message type).Throws ws e ws') ∧
      (∀ ws', (send side message type).Yields ws false ws' →
        (kMaximumMessageLength ≤ message.length ∧ ws'.socket.passed = ws.socket.passed ∧
          ws'.socket.connected = ws.socket.connected) ∨
        (ws'.socket.connected = false ∧
          ∃ calls, ws'.socket.passed = ws.socket.passed ++ calls ∧ wire calls <+: frame)) ∧
      ∀ ws', (send side message type).Yields ws true ws' →
        ∃ calls, ws'.socket.passed = ws.socket.passed ++ calls ∧ wire calls = frame := by
  have emits := send_emits side message type ws
  refine ⟨_, ⟨_, makeMessage_yields side type.opcode message ws⟩, fun e ws' threw =>
    emits.throws threw sleeps, fun ws' failed => ?_, fun ws' sent => ?_⟩
  · -- Either the frame was begun and the link is closed, or the message was refused beforehand.
    rcases emits.yields failed with ⟨_, emitted⟩ | ⟨tooLong, _, rfl⟩
    · obtain ⟨calls, passed, _, part⟩ := emitted.calls
      exact .inr ⟨emitted.link, calls, passed, part⟩
    · exact .inl ⟨tooLong, rfl, rfl⟩
  · rcases emits.yields sent with ⟨_, emitted⟩ | ⟨_, impossible, _⟩
    · obtain ⟨calls, passed, all, _⟩ := emitted.calls
      exact ⟨calls, passed, all rfl⟩
    · cases impossible

/-- The rule for a client that says hi. -/
theorem send_leaves_no_torn_frame_hi :
    ∃ frame, (∃ made, (makeMessage .client MessageType.kTextMessage.opcode [104, 105]).Yields
        (.steady []) frame made) ∧
      (∀ e ws', ¬ (send .client [104, 105] .kTextMessage).Throws (.steady []) e ws') ∧
      (∀ ws', (send .client [104, 105] .kTextMessage).Yields (.steady []) false ws' →
        (kMaximumMessageLength ≤ [(104 : UInt8), 105].length ∧ ws'.socket.passed = [] ∧
          ws'.socket.connected = true) ∨
        (ws'.socket.connected = false ∧
          ∃ calls, ws'.socket.passed = [] ++ calls ∧ wire calls <+: frame)) ∧
      ∀ ws', (send .client [104, 105] .kTextMessage).Yields (.steady []) true ws' →
        ∃ calls, ws'.socket.passed = [] ++ calls ∧ wire calls = frame :=
  send_leaves_no_torn_frame .client [104, 105] .kTextMessage (.steady []) fun _ => rfl

end Rcom
