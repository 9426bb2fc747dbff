import Librcom.WebSocket.Blocks
import Librcom.WebSocket.CloseOrder
import Librcom.WebSocket.Traffic

/-! The sizes of what is received stay bounded, in every state that a call passes through. -/

namespace Rcom

open Effects

/-- The payload buffer is bounded, and the caller's message is an allowed one. -/
structure WebSocket.Holding (limit : Nat) (allowed : Bytes → Prop) (ws : WebSocket) : Prop where
  payload : ws.inputPayloadBuffer.length ≤ limit
  message : allowed ws.message

/-- Both buffers that receiving fills are bounded. -/
def WebSocket.Bounded (ws : WebSocket) : Prop :=
  ws.Holding kMaximumPayloadLength fun message => message.length ≤ kMaximumMessageLength

/-- What is held is a matter of what is received. -/
theorem holding_ofTraffic (limit : Nat) (allowed : Bytes → Prop) :
    OfTraffic (WebSocket.Holding limit allowed) := by
  intro ws ws' same now
  exact ⟨same.payload ▸ now.payload, same.message ▸ now.message⟩

/-- Whatever is passed to the socket, it is not what was received. -/
theorem send_holding (limit : Nat) (allowed : Bytes → Prop) (call : SocketCall) :
    (onSocket (Socket.send call)).Maintains (WebSocket.Holding limit allowed) :=
  Program.maintains_act fun _ now => ⟨now.payload, now.message⟩

section Reading

variable (side : Side) {limit : Nat} {allowed : Bytes → Prop} {ws : WebSocket}

/-- A head that passes the checks declares a bounded length. -/
theorem inputAssertValidMessage_upholds (now : ws.Holding limit allowed) :
    (inputAssertValidMessage side).Upholds (WebSocket.Holding limit allowed) ws
      (fun _ ws' => ws'.Holding limit allowed ∧ ws'.inputMessageLength ≤ kMaximumPayloadLength)
      (fun _ => WebSocket.Holding limit allowed) := by
  have steps := maintains_steps (holding_ofTraffic limit allowed) side
  -- The flag and the opcode are looked at first, and neither check changes anything.
  refine (steps.inputAssertMaskFlag_has refusals_maintain ws now).bind fun _ ws' now' => ?_
  refine (steps.inputAssertOpcode_has refusals_maintain ws' now').bind fun _ ws' now' => ?_
  refine Program.upholds_get_bind ?_
  split
  · -- The last check is the one that bounds the length, and it raises before anything is read.
    exact Program.upholds_raise now'
  · exact Program.upholds_pure ⟨now', by omega⟩

/-- While a payload is read, the buffer is as long as what was processed of the declared length. -/
theorem inputReadPayload_upholds (large : kMaximumPayloadLength ≤ limit)
    (now : ws.Holding limit allowed)
    (declared : ws.inputMessageLength ≤ kMaximumPayloadLength) :
    (inputReadPayload side).Upholds (WebSocket.Holding limit allowed) ws
      (fun _ => WebSocket.Holding limit allowed) (fun _ => WebSocket.Holding limit allowed) := by
  -- The buffer is empty at first, whatever the frame before has left in it.
  have cleared : (ws.withPayload []).Holding limit allowed := ⟨Nat.zero_le _, now.message⟩
  have clears : (Program.update fun ws : WebSocket => { ws with inputPayloadBuffer := [] } :
      WebSocketM Unit).Upholds (WebSocket.Holding limit allowed) ws
        (fun _ ws' => ws' = ws.withPayload []) (fun _ => WebSocket.Holding limit allowed) :=
    Program.upholds_update cleared rfl
  refine clears.bind ?_
  rintro - _ rfl
  -- From then on its length is the count of the rounds.
  refine Program.Upholds.iterate (fun processed ws' => ws'.Holding limit allowed ∧
    ws'.inputPayloadBuffer.length = processed ∧
    ws'.inputMessageLength ≤ kMaximumPayloadLength) ⟨cleared, rfl, declared⟩ ?_
  rintro processed ws' ⟨now', size, declared'⟩
  refine Program.upholds_get_bind ?_
  dsimp only
  split
  · next more =>
    generalize block : min (ws'.inputMessageLength - processed) kPayloadBufferLength = length
    -- The read leaves the head as it is, and gives as many bytes as were asked for.
    have reads := (maintains_steps (holding_ofTraffic limit allowed) side).socketRead_has
      refusals_maintain length
    have read := (reads ws' now').and (socketRead_achieves length ws').toEnsures
    refine (read.mono (fun _ _ held => held) (fun _ _ held => held.1)).bind ?_
    rintro bytes _ ⟨now'', size', -, rest, -, rfl⟩
    let filled := (ws'.readTo rest 1).withPayload
      (ws'.inputPayloadBuffer ++ wirePayload (receiveMask side (ws'.readTo rest 1)) bytes)
    -- The block that was asked for does not go beyond the declared length.
    have longer : filled.inputPayloadBuffer.length = processed + length := by
      show (ws'.inputPayloadBuffer ++ wirePayload _ bytes).length = _
      rw [List.length_append, wirePayload_length]
      omega
    have bounded : filled.Holding limit allowed := ⟨by omega, now'.message⟩
    have appends : (inputAppendPayload side bytes).Upholds (WebSocket.Holding limit allowed)
        (ws'.readTo rest 1) (fun _ ws'' => ws'' = filled) (fun _ => WebSocket.Holding limit allowed) := by
      rw [inputAppendPayload_eq side]
      exact Program.upholds_update bounded rfl
    refine appends.bind ?_
    rintro - _ rfl
    exact Program.upholds_pure ⟨bounded, longer, declared'⟩
  · -- What was declared is complete, and the buffer has just its length.
    exact Program.upholds_pure now'

/-- Reading a frame keeps the payload buffer bounded, and leaves the caller's message. -/
theorem readMessage_maintains (large : kMaximumPayloadLength ≤ limit) :
    (readMessage side).Maintains (WebSocket.Holding limit allowed) := by
  have heads := (maintains_steps (holding_ofTraffic limit allowed) side).inputReadHeader_has
    refusals_maintain
  refine heads.bind fun _ ws now => (inputAssertValidMessage_upholds side now).bind ?_
  exact fun _ ws' held => inputReadPayload_upholds side large held.1 held.2

end Reading

section Closing

variable (side : Side) {limit : Nat} (large : kMaximumPayloadLength ≤ limit) (allowed : Bytes → Prop)

include large

/-- Closing keeps the payload buffer bounded, and leaves the caller's message. -/
theorem closeWithHandshake_holding (code : CloseCode) :
    (closeWithHandshake side code).Maintains (WebSocket.Holding limit allowed) := by
  have any : Permits (fun _ => True) .kCloseOpcode (Endian.toBigEndian 2 code.toNat) :=
    -- Closing passes any code, since nothing here depends on what is passed.
    fun _ => trivial
  exact closeWithHandshake_maintains (holding_ofTraffic limit allowed)
    (fun call _ => send_holding limit allowed call) side (readMessage_maintains side large) any

omit large in
/-- Closing leaves the caller's message. -/
theorem closeWithHandshake_message (code : CloseCode) (ws : WebSocket) :
    (closeWithHandshake side code).Ensures ws (fun _ ws' => ws'.message = ws.message)
      (fun _ ws' => ws'.message = ws.message) := by
  -- The caller's message may be anything that it was, and the limit is chosen large enough.
  have now : ws.Holding (max ws.inputPayloadBuffer.length kMaximumPayloadLength)
      fun message => message = ws.message := ⟨Nat.le_max_left _ _, rfl⟩
  exact (closeWithHandshake_holding side (Nat.le_max_right _ _) _ code ws now).toEnsures.mono
    (fun _ _ held => held.message) (fun _ _ held => held.message)

end Closing

section Receiving

variable (side : Side)

/-- A data frame is added to the message only if the sum is bounded. -/
theorem copyPayload_upholds {ws : WebSocket} (now : ws.Bounded)
    (data : hasDataMessage ws.frameHeader = true)
    (short : ws.inputPayloadBuffer.length +
      (if ws.frameHeader.opcode = Opcode.kContinutationOpcode.code then ws.message.length else 0) ≤
        kMaximumMessageLength) :
    copyPayload.Upholds WebSocket.Bounded ws (fun _ => WebSocket.Bounded)
      (fun _ => WebSocket.Bounded) := by
  have bounded : ((if ws.frameHeader.opcode = Opcode.kTextOpcode.code
      ∨ ws.frameHeader.opcode = Opcode.kBinaryOpcode.code then [] else ws.message) ++
        ws.inputPayloadBuffer).length ≤ kMaximumMessageLength := by
    rw [List.length_append]
    split
    · -- A new message begins with the payload alone.
      simp only [List.length_nil]
      omega
    · next other =>
      -- What is neither text nor binary continues the message, and was counted with it.
      have continues : ws.frameHeader.opcode = Opcode.kContinutationOpcode.code := by
        simpa [hasDataMessage, not_or.mp other] using data
      rw [if_pos continues] at short
      omega
  exact Program.upholds_update ⟨now.payload, bounded⟩ ⟨now.payload, bounded⟩

/-- To take the payload of a data frame keeps the sizes bounded, in every state on the way. -/
theorem handleDataPayload_upholds {ws : WebSocket} (now : ws.Bounded)
    (data : hasDataMessage ws.frameHeader = true) :
    handleDataPayload.Upholds WebSocket.Bounded ws (fun _ => WebSocket.Bounded)
      (fun _ => WebSocket.Bounded) := by
  -- Neither check writes anything, so that the state is the same behind them.
  have continues : assertContinuation.Upholds WebSocket.Bounded ws (fun _ ws' => ws' = ws)
      (fun _ => WebSocket.Bounded) := by
    refine Program.upholds_get_bind ?_
    split
    · exact Program.upholds_pure rfl
    · exact Program.upholds_raise now
  have fits : assertMessageLength.Upholds WebSocket.Bounded ws
      (fun _ ws' => ws' = ws ∧ ws.inputPayloadBuffer.length +
        (if ws.frameHeader.opcode = Opcode.kContinutationOpcode.code then ws.message.length
          else 0) ≤ kMaximumMessageLength) (fun _ => WebSocket.Bounded) := by
    refine Program.upholds_get_bind ?_
    dsimp only
    -- The comparison is on the sum that the copy will have as its length.
    rcases Nat.lt_or_ge kMaximumMessageLength (ws.inputPayloadBuffer.length +
      if ws.frameHeader.opcode = Opcode.kContinutationOpcode.code then ws.message.length else 0)
      with long | short
    · rw [if_pos long]
      exact Program.upholds_raise now
    · rw [if_neg (Nat.not_lt.mpr short)]
      exact Program.upholds_pure ⟨rfl, short⟩
  have prepares : prepareContinuation.Maintains WebSocket.Bounded :=
    elsewhere_maintains (holding_ofTraffic _ _) fun _ => ⟨rfl, rfl, rfl⟩
  refine continues.bind ?_
  rintro - ws rfl
  refine fits.bind ?_
  rintro - ws ⟨rfl, short⟩
  -- The type of the payload is noted in a member of its own.
  let typed : WebSocket :=
    { ws with
      isText :=
        if ws.frameHeader.opcode = Opcode.kTextOpcode.code then true
        else if ws.frameHeader.opcode = Opcode.kBinaryOpcode.code then false
        else ws.isText }
  have same : typed.Bounded := ⟨now.payload, now.message⟩
  have types : setPayloadType.Upholds WebSocket.Bounded ws (fun _ ws' => ws' = typed)
      (fun _ => WebSocket.Bounded) := Program.upholds_update same rfl
  refine types.bind ?_
  rintro - _ rfl
  refine (copyPayload_upholds same data short).bind fun _ ws' now' => ?_
  exact prepares ws' now'

/-- To process a frame keeps the sizes bounded. -/
theorem processMessage_maintains : (processMessage side).Maintains WebSocket.Bounded := by
  intro ws now
  refine Program.upholds_get_bind ?_
  dsimp only
  split
  · -- The answer to a control frame may be anything here.
    have any (opcode : Opcode) (payload : Bytes) : Permits (fun _ => True) opcode payload :=
      fun _ => trivial
    exact handleControlMessage_upholds (holding_ofTraffic _ _)
      (fun call _ => send_holding _ _ call) side now (fun _ => any _ _) (fun _ => any _ _)
  · split
    · next data => exact handleDataPayload_upholds now data
    · exact Program.upholds_raise now

/-- To receive frames keeps the sizes bounded. -/
theorem tryRecv_maintains (timeout : ℚ) : (tryRecv side timeout).Maintains WebSocket.Bounded := by
  have buffers := holding_ofTraffic kMaximumPayloadLength fun message => message.length ≤ kMaximumMessageLength
  have handles : (handleOneMessage side).Maintains WebSocket.Bounded :=
    (readMessage_maintains side (Nat.le_refl _)).bind fun _ => processMessage_maintains side
  refine (onLinux_maintains buffers _).bind fun startTime => ?_
  -- The invariant holds before each round, and it is the one that a round upholds.
  refine Program.Maintains.iterate (fun remainingTime ws now => ?_) timeout
  exact tryRecvRound_upholds buffers side startTime timeout remainingTime
    (fun _ _ => handles ws.looked) now

/-- What a receive call does once it is given the caller's buffer, which it clears first. -/
def recvInto (timeout : ℚ) : WebSocketM RecvStatus :=
  (do
    Program.update fun ws => { ws with message := [] }
    tryRecv side timeout : WebSocketM RecvStatus).attempt (recvHandler side)

/-- Once the caller's buffer is cleared, both buffers stay bounded. -/
theorem recvInto_upholds (timeout : ℚ) {ws : WebSocket}
    (payload : ws.inputPayloadBuffer.length ≤ kMaximumPayloadLength) :
    (recvInto side timeout).Upholds WebSocket.Bounded ws (fun _ => WebSocket.Bounded)
      (fun _ => WebSocket.Bounded) := by
  -- The message is cleared whatever it was, and with that both buffers are bounded.
  have empty : ({ ws with message := [] } : WebSocket).Bounded := ⟨payload, Nat.zero_le _⟩
  have clears : (Program.update fun ws => { ws with message := [] } : WebSocketM Unit).Upholds
      WebSocket.Bounded ws (fun _ => WebSocket.Bounded) (fun _ => WebSocket.Bounded) :=
    Program.upholds_update empty empty
  refine (clears.bind fun _ ws' now => tryRecv_maintains side timeout ws' now).attempt ?_
  intro e ws' now
  cases e with
  | recvError what code =>
    have closes := closeWithHandshake_holding side (Nat.le_refl _)
      (fun message => message.length ≤ kMaximumMessageLength) code
    exact (closes ws' now).bind fun _ _ now' => Program.upholds_pure now'
  | runtimeError what => exact Program.upholds_raise now

/-- A receive call takes the caller's buffer and clears it, and then it fills it. -/
theorem recv_seen (message : Bytes) (timeout : ℚ) (fuel : Nat) (ws : WebSocket) :
    ∃ states, (recv side message timeout).seen fuel ws =
        { ws with message := message } :: { ws with message := [] } :: states ∧
      ∀ t ∈ states, t ∈ (recvInto side timeout).seen fuel { ws with message := message } := by
  -- Returning the status and the message changes nothing any more.
  have whole : (recv side message timeout).seen fuel ws = { ws with message := message } ::
      ((recvInto side timeout).seen fuel { ws with message := message } ++
        ((recvInto side timeout).run fuel { ws with message := message }).seenAfter fun _ _ => []) :=
    rfl
  have nothing : (((recvInto side timeout).run fuel { ws with message := message }).seenAfter
      fun _ _ => ([] : List WebSocket)) = [] := by
    cases (recvInto side timeout).run fuel { ws with message := message } <;> rfl
  rw [nothing, List.append_nil] at whole
  refine ⟨((recvInto side timeout).seen fuel { ws with message := message }).tail, whole, ?_⟩
  exact fun t member => List.mem_of_mem_tail member

/-- No call of an application leaves more in the payload buffer than is allowed. -/
theorem Call.payload {side : Side} {ws ws' : WebSocket} (called : Call side ws ws')
    (payload : ws.inputPayloadBuffer.length ≤ kMaximumPayloadLength) :
    ws'.inputPayloadBuffer.length ≤ kMaximumPayloadLength := by
  have any : ws.Holding kMaximumPayloadLength fun _ => True := ⟨payload, trivial⟩
  cases called with
  -- Sending and closing do not touch the payload of what comes in.
  | send message type left =>
    have data : PermitsData fun _ => True := ⟨fun _ _ _ _ => trivial, fun _ => trivial⟩
    have sends := send_maintains (holding_ofTraffic kMaximumPayloadLength fun _ => True)
      (fun call _ => send_holding _ _ call) side data message type
    exact (sends.leaves any left).payload
  | recv message timeout left =>
    -- The receiving call works on the caller's message as on its own.
    let bound : WebSocket := { ws with message := message }
    have filled : (recvInto side timeout).Upholds WebSocket.Bounded bound
        (fun _ => WebSocket.Bounded) (fun _ => WebSocket.Bounded) :=
      recvInto_upholds side timeout payload
    have whole : (Rcom.recv side message timeout).Ensures ws (fun _ => WebSocket.Bounded)
        (fun _ => WebSocket.Bounded) := by
      refine (Program.yields_update _ ws).bind_ensures (filled.toEnsures.bind fun _ ws' now => ?_)
      exact (Program.yields_get ws').bind_ensures (Program.ensures_pure now)
    exact (whole.leaves left).payload
  | close code left =>
    exact ((closeWithHandshake_holding side (Nat.le_refl _) _ code).leaves any left).payload

/-- Whatever is called, the buffer of the payload stays bounded. -/
theorem Calls.payload {side : Side} {ws ws' : WebSocket} (calls : Calls side ws ws')
    (payload : ws.inputPayloadBuffer.length ≤ kMaximumPayloadLength) :
    ws'.inputPayloadBuffer.length ≤ kMaximumPayloadLength := by
  induction calls with
  -- Before the first call the buffer is empty, and no call leaves too much in it.
  | refl => exact payload
  | tail _ last ih => exact last.payload ih

end Receiving

/--
Whatever the peer sends and whatever an application called before, the payload buffer is bounded in
every state that a receive or close call passes through. So is the caller's message once a receive
call has cleared it, and closing leaves it. A payload is read in blocks that fit the buffer of a read
and make up the declared length, and no length wraps around in sixty-four bits.
-/
theorem received_sizes_stay_bounded {side : Side} {socket : Socket} {linux : Linux} {ws : WebSocket}
    (calls : Calls side (.create socket linux) ws) :
    ws.inputPayloadBuffer.length ≤ kMaximumPayloadLength ∧
    (∀ buffer timeout fuel, ∃ states, (recv side buffer timeout).seen fuel ws =
        { ws with message := buffer } :: { ws with message := [] } :: states ∧
      ∀ t ∈ states, t.inputPayloadBuffer.length ≤ kMaximumPayloadLength ∧
        t.message.length ≤ kMaximumMessageLength ∧
        assertMessageLength.Agrees assertMessageLength64 t) ∧
    (∀ code fuel, ∀ t ∈ (close side code).seen fuel ws,
      t.inputPayloadBuffer.length ≤ kMaximumPayloadLength ∧ t.message = ws.message) ∧
    ∀ t : WebSocket,
      (inputReadPayload side).Alike (do
        Program.update fun ws => { ws with inputPayloadBuffer := [] }
        readBlocks side (payloadBlocks t.inputMessageLength)) t ∧
      (∀ block ∈ payloadBlocks t.inputMessageLength, 1 ≤ block ∧ block ≤ kPayloadBufferLength) ∧
      (payloadBlocks t.inputMessageLength).sum = t.inputMessageLength ∧
      (readMessage side).Agrees (readMessage64 side) t := by
  have payload : ws.inputPayloadBuffer.length ≤ kMaximumPayloadLength :=
    calls.payload (Nat.zero_le _)
  refine ⟨payload, ?_, ?_, ?_⟩
  · -- The two states in front are those of the caller's own buffer, and behind them all is bounded.
    intro buffer timeout fuel
    obtain ⟨states, seen, inside⟩ := recv_seen side buffer timeout fuel ws
    refine ⟨states, seen, fun t member => ?_⟩
    have filled : ({ ws with message := buffer } : WebSocket).inputPayloadBuffer.length ≤
        kMaximumPayloadLength := payload
    have bounded := (recvInto_upholds side timeout filled).through fuel t (inside t member)
    exact ⟨bounded.payload, bounded.message,
      assertMessageLength64_agrees bounded.payload bounded.message⟩
  · -- Here the message is held to be the one before the call.
    intro code fuel t member
    have same : ws.Holding kMaximumPayloadLength fun message => message = ws.message := ⟨payload, rfl⟩
    have held := (closeWithHandshake_holding side (Nat.le_refl _) _ code ws same).through fuel t member
    exact ⟨held.payload, held.message⟩
  · exact fun t => ⟨inputReadPayload_alike side t, fun _ member => payloadBlocks_bounds member,
      payloadBlocks_sum _, readMessage64_agrees side t⟩

/-- A server receives a text of two bytes, and closes then. -/
theorem received_sizes_stay_bounded_hi :
    let start := WebSocket.running
      (Frame.ofClient true .kTextOpcode [104, 105] (by decide)).encode
    ∃ ws, Calls .server start ws ∧ ws.inputPayloadBuffer = [104, 105] ∧
      ws.inputPayloadBuffer.length ≤ kMaximumPayloadLength ∧
      ∀ code fuel, ∀ t ∈ (close .server code).seen fuel ws,
        t.inputPayloadBuffer.length ≤ kMaximumPayloadLength ∧ t.message = ws.message := by
  -- After a text of two bytes the buffer holds them, and the application closes.
  intro start
  let ws := (recv .server [] 5).after 9 start
  have received : (recv .server [] 5).Yields start (.kRecvText, [104, 105]) ws :=
    Program.yields_after (by decide +kernel)
  have calls : Calls .server start ws := .single (.recv [] 5 (.inl ⟨_, received⟩))
  have payload : ws.inputPayloadBuffer = [104, 105] := by decide +kernel
  have bounded := received_sizes_stay_bounded calls
  exact ⟨ws, calls, payload, bounded.1, bounded.2.2.1⟩

end Rcom
