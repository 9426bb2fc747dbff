import Librcom.WebSocket.FrameHead
import Librcom.WebSocket.SocketLaws

/-! What sending a message passes to the socket. -/

namespace Rcom

open Effects

/-- The mask of the next frame: a client draws one, and a server has none. -/
def nextMask : Side → WebSocket → Option Mask
  | .client, ws => some ws.linux.random.head
  | .server, _ => none

/-- The state after a client drew the mask of a frame. -/
def WebSocket.drawn : Side → WebSocket → WebSocket
  | .client, ws =>
    { ws with
      outputMask := ws.linux.random.head
      linux := { ws.linux with random := ws.linux.random.tail } }
  | .server, ws => ws

/-- The mask of the frame being sent. -/
def currentMask : Side → WebSocket → Option Mask
  | .client, ws => some ws.outputMask
  | .server, _ => none

/-- The mask that was drawn is the one that is used. -/
@[simp] theorem currentMask_drawn (side : Side) (ws : WebSocket) :
    currentMask side (ws.drawn side) = nextMask side ws := by
  cases side <;> rfl

/-- To draw a mask leaves the socket. -/
@[simp] theorem WebSocket.drawn_socket (side : Side) (ws : WebSocket) :
    (ws.drawn side).socket = ws.socket := by
  cases side <;> rfl

/-- To draw a mask leaves the sleeps. -/
@[simp] theorem WebSocket.drawn_sleeps (side : Side) (ws : WebSocket) :
    (ws.drawn side).linux.sleeps = ws.linux.sleeps := by
  cases side <;> rfl

/-- The header ends with the mask, where there is one. -/
theorem outputAppendHeader_yields (side : Side) (output : Bytes) (opcode : Opcode)
    (message : Bytes) (ws : WebSocket) :
    (outputAppendHeader side output opcode message).Yields ws
      (output ++ headBytes (nextMask side ws) opcode message.length) (ws.drawn side) := by
  -- A server's head has no mask, and a client draws one for each.
  cases side with
  | server =>
    simp only [headBytes, nextMask, wireMask, List.append_nil]
    exact Program.yields_pure _ ws
  | client =>
    have drew : makeMask.Yields ws () (ws.drawn .client) := Program.yields_update _ ws
    exact drew.bind ((Program.yields_get _).bind (Program.yields_pure _ _))

/-- A client masks a payload block by block as it would in one piece. -/
theorem clientAppendPayload_yields (message : Bytes) (ws : WebSocket) :
    ∀ (left sent : Nat) (output : Bytes), message.length - sent ≤ left →
      (Program.iterate (ClientSideWebSocket.outputAppendPayloadRound message)
        (output, sent)).Yields ws (output ++ applyMask ws.outputMask (message.drop sent)) ws := by
  -- When all of it was taken, the loop stops and there is nothing left to mask.
  have last : ∀ (sent : Nat) (output : Bytes), ¬ sent < message.length →
      (Program.iterate (ClientSideWebSocket.outputAppendPayloadRound message)
        (output, sent)).Yields ws (output ++ applyMask ws.outputMask (message.drop sent)) ws := by
    intro sent output complete
    refine Program.Yields.iterate_last ?_
    simp only [ClientSideWebSocket.outputAppendPayloadRound, complete, if_false]
    rw [List.drop_eq_nil_of_le (by omega), applyMask_nil, List.append_nil]
    exact Program.yields_pure _ _
  -- Each round takes at least one byte, so what is left bounds the rounds.
  intro left
  induction left with
  | zero =>
    intro sent output bounded
    exact last sent output (by omega)
  | succ left ih =>
    intro sent output bounded
    -- A block is masked and goes behind the output, as long as there is one.
    by_cases more : sent < message.length
    · let n := min (message.length - sent) 1024
      have rest := ih (sent + n) (output ++ applyMask ws.outputMask ((message.drop sent).take n))
        (by omega)
      -- A round masks as if from the beginning, since its blocks are whole numbers of masks.
      have split : applyMask ws.outputMask ((message.drop sent).take n) ++
          applyMask ws.outputMask (message.drop (sent + n)) =
          applyMask ws.outputMask (message.drop sent) := by
        rw [← List.drop_drop]
        apply applyMask_split
        simp only [List.length_drop]
        omega
      rw [List.append_assoc, split] at rest
      refine Program.Yields.iterate_next ?_ rest
      simp only [ClientSideWebSocket.outputAppendPayloadRound, more, if_true]
      exact ((Program.yields_get ws).bind (Program.yields_pure _ _)).bind (Program.yields_pure _ _)
    · exact last sent output more

/-- The payload goes into the buffer as it goes over the wire. -/
theorem outputAppendPayload_yields (side : Side) (output message : Bytes) (ws : WebSocket) :
    (outputAppendPayload side output message).Yields ws
      (output ++ wirePayload (currentMask side ws) message) ws := by
  -- A server appends the payload as it is.
  cases side with
  | server => exact Program.yields_pure _ ws
  | client => exact clientAppendPayload_yields message ws _ 0 output (Nat.le_refl _)

/-- A frame made in one buffer is the bytes of the frame. -/
theorem makeMessage_yields (side : Side) (opcode : Opcode) (message : Bytes) (ws : WebSocket) :
    (makeMessage side opcode message).Yields ws (frameBytes (nextMask side ws) opcode message)
      (ws.drawn side) := by
  -- The payload is masked with the mask that was drawn for the head.
  have payload := outputAppendPayload_yields side
    ([] ++ headBytes (nextMask side ws) opcode message.length) message (ws.drawn side)
  rw [currentMask_drawn] at payload
  exact (outputAppendHeader_yields side [] opcode message ws).bind payload

/-- The bytes that a list of calls passed. -/
def wire (calls : List SocketCall) : Bytes := (calls.map SocketCall.bytes).flatten

/-- No calls are no bytes. -/
@[simp] theorem wire_nil : wire [] = [] := rfl

/-- One call is its bytes. -/
@[simp] theorem wire_singleton (call : SocketCall) : wire [call] = call.bytes := by
  simp [wire]

/-- Calls in a row are bytes in a row. -/
@[simp] theorem wire_append (front back : List SocketCall) :
    wire (front ++ back) = wire front ++ wire back := by
  simp [wire]

/-- Bytes were passed to the socket: all of them, or a front of them before it was closed. -/
structure Emits (bytes : Bytes) (ws : WebSocket) (ok : Bool) (ws' : WebSocket) : Prop where
  calls : ∃ calls, ws'.socket.passed = ws.socket.passed ++ calls ∧
    (ok = true → wire calls = bytes) ∧ wire calls <+: bytes
  link : ws'.socket.connected = ok
  sleeps : ws.SleepsSucceed → ws'.SleepsSucceed

namespace Emits

variable {front back : Bytes} {ws mid ws' : WebSocket} {ok : Bool}

/-- What is passed after a success goes behind what was passed before. -/
theorem append (first : Emits front ws true mid) (second : Emits back mid ok ws') :
    Emits (front ++ back) ws ok ws' := by
  -- The calls of both steps follow each other, and so do their bytes.
  obtain ⟨passed, before, all, _⟩ := first.calls
  obtain ⟨more, after, rest, part⟩ := second.calls
  refine ⟨⟨passed ++ more, by rw [after, before, List.append_assoc], ?_, ?_⟩, second.link,
    fun sleeps => second.sleeps (first.sleeps sleeps)⟩
  · -- Both steps were taken whole, since the last one succeeded.
    intro success
    rw [wire_append, all rfl, rest success]
  · rw [wire_append, all rfl]
    exact (List.prefix_append_right_inj front).mpr part

/-- A front of the bytes is a front of any longer bytes. -/
theorem stopped (first : Emits front ws false ws') (back : Bytes) :
    Emits (front ++ back) ws false ws' := by
  -- The bytes that were not passed are behind those that were.
  obtain ⟨passed, before, _, part⟩ := first.calls
  exact ⟨⟨passed, before, by simp, part.trans (List.prefix_append front back)⟩, first.link,
    first.sleeps⟩

/-- Steps that pass nothing may come first. -/
theorem after (emitted : Emits front mid ok ws') (passed : mid.socket.passed = ws.socket.passed)
    (sleeps : ws.SleepsSucceed → mid.SleepsSucceed) : Emits front ws ok ws' :=
  ⟨passed ▸ emitted.calls, emitted.link, fun succeed => emitted.sleeps (sleeps succeed)⟩

end Emits

/-- One call emits its bytes. -/
theorem socketSend_emits (side : Side) (call : SocketCall) (ws : WebSocket) :
    (socketSend side call).Ensures ws
      (fun ok ws' => Emits call.bytes ws ok ws' ∧ ws'.outputMask = ws.outputMask)
      (fun _ _ => ¬ ws.SleepsSucceed) := by
  refine (socketSend_ensures side call ws).mono ?_ ?_
  · -- The socket takes the call whole, or it is closed.
    rintro ok ws' (⟨rfl, connected, rfl⟩ | ⟨rfl, _, ⟨ticks, naps, looks, rfl⟩, rfl⟩)
    · have passed := ws.offered_passed call
      rw [if_pos connected] at passed
      exact ⟨⟨⟨[call], passed, by simp, by simp⟩, by simp [connected], id⟩, rfl⟩
    · -- A socket that was already closed took nothing.
      refine ⟨⟨⟨_, ws.offered_passed call, by simp, ?_⟩, rfl, fun sleeps => ?_⟩, rfl⟩
      · split <;> simp
      · have same : (ws.offered call).SleepsSucceed := sleeps
        exact same.pass ticks naps looks
  · -- The exception comes from a sleep while the connection is closed.
    rintro _ _ ⟨_, failed⟩
    exact failed

/-- One block of a payload is emitted as it goes over the wire. -/
theorem outputSendPayload_emits (side : Side) (data : Bytes) (ws : WebSocket) :
    (outputSendPayload side data).Ensures ws
      (fun ok ws' => Emits (wirePayload (currentMask side ws) data) ws ok ws' ∧
        ws'.outputMask = ws.outputMask)
      (fun _ _ => ¬ ws.SleepsSucceed) := by
  -- A client masks the block, always from the first byte of the mask.
  cases side with
  | server => exact socketSend_emits .server (.block data) ws
  | client =>
    have masked : (ClientSideWebSocket.maskData data).Yields ws (applyMask ws.outputMask data) ws :=
      (Program.yields_get ws).bind (Program.yields_pure _ _)
    exact masked.bind_ensures (socketSend_emits .client (.block _) ws)

/-- The mask that is used is stored in the WebSocket. -/
theorem currentMask_congr (side : Side) {ws ws' : WebSocket}
    (same : ws'.outputMask = ws.outputMask) : currentMask side ws' = currentMask side ws := by
  cases side <;> simp [currentMask, same]

/-- A long payload is emitted block by block as it goes over the wire in one piece. -/
theorem sendLongMessagePayload_emits (side : Side) (message : Bytes) {ws : WebSocket}
    (connected : ws.socket.connected = true) :
    (sendLongMessagePayload side message).Ensures ws
      (fun ok ws' => Emits (wirePayload (currentMask side ws) message) ws ok ws')
      (fun _ _ => ¬ ws.SleepsSucceed) := by
  -- What was emitted and what is still to be sent make up the payload, until a block fails.
  refine Program.Ensures.iterate (fun (state : Bool × Nat) ws' =>
    ∃ front, Emits front ws state.1 ws' ∧ ws'.outputMask = ws.outputMask ∧
      front ++ wirePayload (currentMask side ws) (message.drop state.2) =
        wirePayload (currentMask side ws) message) ?_ ?_
  · exact ⟨[], ⟨⟨[], by simp, by simp, by simp⟩, connected, id⟩, rfl, by simp⟩
  · rintro ⟨ok, sent⟩ ws' ⟨front, emitted, sameMask, whole⟩
    -- The loop goes on as long as the blocks are taken and some of the message is left.
    by_cases more : ok = true ∧ sent < message.length
    · obtain ⟨rfl, left⟩ := more
      simp only [sendLongMessagePayloadRound, left, decide_true, Bool.and_true, if_true]
      generalize size : (if sent + kPayloadBufferLength > message.length then message.length - sent
        else kPayloadBufferLength) = n
      -- A block of full size ends at a whole mask length, and a smaller one ends the payload.
      have aligned : n % 4 = 0 ∨ (message.drop sent).length ≤ n := by
        rw [List.length_drop]
        unfold kPayloadBufferLength at size
        split at size <;> omega
      have split := wirePayload_split (currentMask side ws) aligned
      rw [List.drop_drop] at split
      refine (outputSendPayload_emits side _ ws').seq ?_ ?_
      · exact fun _ _ failed sleeps => failed (emitted.sleeps sleeps)
      · -- The block goes behind the front, and what is left begins after it.
        rintro ok ws'' ⟨sent', sameMask'⟩
        rw [currentMask_congr side sameMask] at sent'
        refine Program.ensures_pure ⟨_, emitted.append sent', sameMask'.trans sameMask, ?_⟩
        rw [List.append_assoc, split, whole]
    · have finished : ¬ (ok && decide (sent < message.length)) = true := by
        simpa using more
      simp only [sendLongMessagePayloadRound, finished]
      refine Program.ensures_pure ?_
      -- The loop was left either by a block that failed or at the end of the message.
      cases ok with
      | false =>
        rw [← whole]
        exact emitted.stopped _
      | true =>
        have past : message.length ≤ sent := by simpa using more
        rw [List.drop_eq_nil_of_le past, wirePayload_nil, List.append_nil] at whole
        rw [← whole]
        exact emitted

/-- Sleeps go on to succeed when a mask is drawn. -/
theorem WebSocket.SleepsSucceed.drawn {ws : WebSocket} (side : Side)
    (sleeps : ws.SleepsSucceed) : (ws.drawn side).SleepsSucceed := by
  simpa [WebSocket.SleepsSucceed] using sleeps

/-- A short message is emitted in one call. -/
theorem sendShortDataMessage_emits (side : Side) (message : Bytes) (type : MessageType)
    (ws : WebSocket) :
    (sendShortDataMessage side message type).Ensures ws
      (fun ok ws' => Emits (frameBytes (nextMask side ws) type.opcode message) ws ok ws')
      (fun _ _ => ¬ ws.SleepsSucceed) := by
  refine (makeMessage_yields side type.opcode message ws).bind_ensures ?_
  refine (Program.yields_update _ _).bind_ensures ((Program.yields_update _ _).bind_ensures ?_)
  refine (Program.yields_get _).bind_ensures ((socketSend_emits side _ _).mono ?_ ?_)
  · -- Making the frame and turning buffering off pass nothing.
    rintro ok ws' ⟨emitted, _⟩
    exact emitted.after (WebSocket.drawn_socket side ws ▸ rfl) (.drawn side)
  · exact fun _ _ failed sleeps => failed (sleeps.drawn side)

/-- On a link that takes it, a short message is passed in one call. -/
theorem sendShortDataMessage_yields (side : Side) (message : Bytes) (type : MessageType)
    (ws : WebSocket) (connected : ws.socket.connected = true)
    (succeeds : ws.socket.sends.head = true) :
    ∃ ws', (sendShortDataMessage side message type).Yields ws true ws' ∧
      ws'.socket.passed = ws.socket.passed ++
        [.buffer (frameBytes (nextMask side ws) type.opcode message)] := by
  let output := frameBytes (nextMask side ws) type.opcode message
  let made : WebSocket := { ws.drawn side with outputMessageBuffer := output }
  let turned : WebSocket := { made with socket := { made.socket with nodelay := true } }
  have open' : turned.socket.connected = true := by simpa [turned, made] using connected
  have sent := socketSend_yields side (.buffer output) turned open'
    (by simpa [turned, made] using succeeds)
  -- The socket takes the one call.
  refine ⟨_, (makeMessage_yields side type.opcode message ws).bind
    ((Program.yields_update _ _).bind ((Program.yields_update _ _).bind
      ((Program.yields_get turned).bind sent))), ?_⟩
  rw [WebSocket.offered_passed, if_pos open']
  simp [turned, made, output]

/-- The header of a long message is emitted in one call. -/
theorem sendLongMessageHeader_emits (side : Side) (opcode : Opcode) (message : Bytes)
    (ws : WebSocket) :
    (sendLongMessageHeader side opcode message).Ensures ws
      (fun ok ws' => Emits (headBytes (nextMask side ws) opcode message.length) ws ok ws' ∧
        currentMask side ws' = nextMask side ws)
      (fun _ _ => ¬ ws.SleepsSucceed) := by
  refine (outputAppendHeader_yields side [] opcode message ws).bind_ensures ?_
  refine (Program.yields_update _ _).bind_ensures ?_
  refine (Program.yields_get _).bind_ensures ((socketSend_emits side _ _).mono ?_ ?_)
  · -- The mask of the head is the one that the payload will be masked with.
    rintro ok ws' ⟨emitted, sameMask⟩
    refine ⟨emitted.after (WebSocket.drawn_socket side ws ▸ rfl) (.drawn side), ?_⟩
    rw [← currentMask_drawn]
    exact currentMask_congr side sameMask
  · exact fun _ _ failed sleeps => failed (sleeps.drawn side)

/-- A long message is emitted as its header and then its payload. -/
theorem sendLongDataMessage_emits (side : Side) (message : Bytes) (type : MessageType)
    (ws : WebSocket) :
    (sendLongDataMessage side message type).Ensures ws
      (fun ok ws' => Emits (frameBytes (nextMask side ws) type.opcode message) ws ok ws')
      (fun _ _ => ¬ ws.SleepsSucceed) := by
  let start : WebSocket := { ws with socket := { ws.socket with nodelay := false } }
  -- Turning buffering on draws no mask.
  have sameMask : nextMask side start = nextMask side ws := by
    cases side <;> rfl
  have turnedOn : turnBufferingOn.Yields ws () start := Program.yields_update _ ws
  refine turnedOn.bind_ensures ?_
  refine (sendLongMessageHeader_emits side type.opcode message start).seq (fun _ _ => id) ?_
  rintro ok ws' ⟨header, mask⟩
  rw [sameMask] at header mask
  have header : Emits (headBytes (nextMask side ws) type.opcode message.length) ws ok ws' :=
    header.after rfl id
  -- Without the head there is no payload to be sent.
  cases ok with
  | false => exact Program.ensures_pure (header.stopped _)
  | true =>
    refine (sendLongMessagePayload_emits side message header.link).mono ?_ ?_
    · intro ok ws'' payload
      rw [mask] at payload
      exact header.append payload
    · exact fun _ _ failed sleeps => failed (header.sleeps sleeps)

/-- A send call emits the frame of its message, or refuses a message that is too long. -/
theorem send_emits (side : Side) (message : Bytes) (type : MessageType) (ws : WebSocket) :
    (send side message type).Ensures ws
      (fun ok ws' =>
        (message.length < kMaximumMessageLength ∧
          Emits (frameBytes (nextMask side ws) type.opcode message) ws ok ws') ∨
        (kMaximumMessageLength ≤ message.length ∧ ok = false ∧ ws' = ws))
      (fun _ _ => ¬ ws.SleepsSucceed) := by
  unfold send
  split
  · -- The message is refused before anything is made of it.
    rename_i tooLong
    exact Program.ensures_pure (.inr ⟨tooLong, rfl, rfl⟩)
  · -- Whether the message is short decides how the frame is emitted.
    rename_i within
    have bounded : message.length < kMaximumMessageLength := Nat.lt_of_not_le within
    split
    · exact (sendShortDataMessage_emits side message type ws).mono
        (fun _ _ emitted => .inl ⟨bounded, emitted⟩) (fun _ _ failed => failed)
    · exact (sendLongDataMessage_emits side message type ws).mono
        (fun _ _ emitted => .inl ⟨bounded, emitted⟩) (fun _ _ failed => failed)

/-- On a link that takes it, a message below the limit for short ones is sent in one call. -/
theorem send_short_yields (side : Side) (message : Bytes) (type : MessageType) (ws : WebSocket)
    (short : message.length < kShortMessageLength)
    (connected : ws.socket.connected = true) (succeeds : ws.socket.sends.head = true) :
    ∃ ws', (send side message type).Yields ws true ws' ∧
      ws'.socket.passed = ws.socket.passed ++
        [.buffer (frameBytes (nextMask side ws) type.opcode message)] := by
  obtain ⟨ws', sent, passed⟩ := sendShortDataMessage_yields side message type ws connected succeeds
  -- The limit for short messages is below the other one.
  have within : ¬ message.length ≥ kMaximumMessageLength := by
    unfold kShortMessageLength at short
    unfold kMaximumMessageLength
    omega
  refine ⟨ws', ?_, passed⟩
  unfold send
  rw [if_neg within, if_pos short]
  exact sent

/-- The call that passes a whole frame. -/
def frameCall (side : Side) (opcode : Opcode) (payload : Bytes) (ws : WebSocket) : SocketCall :=
  .buffer (frameBytes (nextMask side ws) opcode payload)

/-- What sending a frame leaves behind: the frame was taken, or the socket is closed. -/
def FrameSent (side : Side) (opcode : Opcode) (payload : Bytes) (ws ws' : WebSocket) : Prop :=
  (ws.socket.connected = true ∧
    ws' = (ws.drawn side).offered (frameCall side opcode payload ws)) ∨
  ∃ waited, ((ws.drawn side).offered (frameCall side opcode payload ws)).Waited waited ∧
    ws' = waited.closed

/-- A frame in one buffer is taken, or the socket is closed. -/
theorem sendFrame_ensures (side : Side) (opcode : Opcode) (payload : Bytes) (ws : WebSocket) :
    (makeMessage side opcode payload >>= fun message => socketSend side (.buffer message)).Ensures
      ws (fun ok ws' => FrameSent side opcode payload ws ws' ∧ ws'.socket.connected = ok)
      (fun _ _ => ¬ ws.SleepsSucceed) := by
  refine (makeMessage_yields side opcode payload ws).bind_ensures ?_
  refine (socketSend_ensures side _ _).mono ?_ ?_
  · -- The frame is offered to the socket, which takes it or is closed.
    rintro ok ws' (⟨rfl, connected, rfl⟩ | ⟨rfl, waited, passing, rfl⟩)
    · rw [WebSocket.drawn_socket] at connected
      exact ⟨.inl ⟨connected, rfl⟩, by simp [connected]⟩
    · exact ⟨.inr ⟨waited, passing, rfl⟩, rfl⟩
  · rintro _ _ ⟨_, failed⟩ sleeps
    exact failed (sleeps.drawn side)

/-- A pong carries the payload of the ping. -/
theorem sendPong_ensures (side : Side) (ws : WebSocket) :
    (sendPong side).Ensures ws
      (fun _ ws' => FrameSent side .kPongOpcode ws.inputPayloadBuffer ws ws')
      (fun _ _ => ¬ ws.SleepsSucceed) := by
  -- The pong is a frame as any other, and whether it was taken is not returned.
  have sent := sendFrame_ensures side .kPongOpcode ws.inputPayloadBuffer ws
  have ignored : ((makeMessage side .kPongOpcode ws.inputPayloadBuffer >>= fun message =>
      socketSend side (.buffer message)) >>= fun _ => (pure () : WebSocketM Unit)).Ensures ws
      (fun _ ws' => FrameSent side .kPongOpcode ws.inputPayloadBuffer ws ws')
      (fun _ _ => ¬ ws.SleepsSucceed) :=
    sent.bind fun _ _ holds => Program.ensures_pure holds.1
  refine Program.Agrees.ensures (fun fuel => ?_) ignored
  simp [sendPong]

/-- On a link that takes it, a pong is passed to the socket. -/
theorem sendPong_yields (side : Side) (ws : WebSocket) (connected : ws.socket.connected = true)
    (succeeds : ws.socket.sends.head = true) :
    (sendPong side).Yields ws ()
      ((ws.drawn side).offered (frameCall side .kPongOpcode ws.inputPayloadBuffer ws)) := by
  have sent := socketSend_yields side (frameCall side .kPongOpcode ws.inputPayloadBuffer ws)
    (ws.drawn side) (by simpa using connected) (by simpa using succeeds)
  -- The frame is made from the payload that was read, and passed on.
  exact (Program.yields_get ws).bind ((makeMessage_yields side .kPongOpcode _ ws).bind
    (sent.bind (Program.yields_pure _ _)))

/-- A Close frame carries its code. -/
theorem sendCloseMessage_ensures (side : Side) (code : CloseCode) (ws : WebSocket) :
    (sendCloseMessage side code).Ensures ws
      (fun ok ws' => FrameSent side .kCloseOpcode (Endian.toBigEndian 2 code.toNat) ws ws' ∧
        ws'.socket.connected = ok)
      (fun _ _ => ¬ ws.SleepsSucceed) := by
  unfold sendCloseMessage
  -- The code goes out in network order, high byte first.
  simp only [twoBytes_eq, htons, Endian.toLittleEndian_byteSwap]
  exact sendFrame_ensures side .kCloseOpcode _ ws

end Rcom
