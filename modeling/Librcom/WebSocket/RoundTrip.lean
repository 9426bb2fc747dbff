import Librcom.WebSocket.Reassembly

/-! What one endpoint sends, the other endpoint receives, at every length but one. -/

namespace Rcom

open Effects

/-- No message is in progress, reads succeed, and a wait finds data within the time budget. -/
structure WebSocket.Listening (ws : WebSocket) (timeout : ℚ) : Prop where
  fresh : ws.isContinuation = false
  connected : ws.socket.connected = true
  reads : ws.ReadsSucceed
  found : ∃ silence, (∀ i < silence, ws.socket.waits.get i = .kWaitTimeout) ∧
    ws.socket.waits.get silence = .kWaitOK ∧
    ∀ i ≤ silence, ws.linux.clock.get i - ws.linux.clock.get 0 ≤ timeout

/-- A receive call returns the message in a final data frame in front, after waits in vain. -/
theorem recv_frame {side : Side} (type : MessageType) (f : Frame) (taken : f.Accepted side)
    (opcode : f.opcode = type.opcode) (fin : f.fin = true) {ws : WebSocket} {rest : Bytes}
    (incoming : ws.socket.incoming = f.encode ++ rest) {timeout : ℚ}
    (listening : ws.Listening timeout) (buffer : Bytes) :
    ∃ ws', (recv side buffer timeout).Yields ws (type.status, f.payload) ws' ∧
      ws'.socket.incoming = rest := by
  obtain ⟨fresh, connected, reads, silence, silent, found, inTime⟩ := listening
  have data : f.isData = true := by
    refine Frame.isData_of_mem ?_
    rw [opcode]
    cases type <;> simp [MessageType.opcode]
  -- The waits in vain only let time pass, and the frame is still in front.
  let found' := ws.started.silent silence
  have flag : found'.looked.isContinuation = decide (f.opcode = .kContinutationOpcode) := by
    rw [opcode]
    cases type <;> exact fresh
  have empty : found'.looked.partFor f.opcode = [] := by
    rw [opcode]
    cases type <;> rfl
  have bounded : (found'.looked.partFor f.opcode ++ f.payload).length ≤ kMaximumMessageLength := by
    rw [empty]
    exact taken.bounded
  -- The frame is read and handled as what it is, whatever was received before.
  obtain ⟨n, read⟩ := readMessage_yields found'.looked connected reads taken incoming
  have handled := handleOneMessage_data side found'.looked read data
    ((takesData_received found'.looked rest n).mpr ⟨flag, bounded⟩)
  have message := dataHandled_message found'.looked rest n data
  have status : ((found'.looked.received f rest n).dataHandled).messageStatus = type.status := by
    rw [WebSocket.messageStatus, dataHandled_isText, opcode, type.textWith_opcode]
  have complete : completes (found'.looked.received f rest n).dataHandled.frameHeader = true := by
    have header := completes_header f
    rwa [data, fin] at header
  have waits : found'.socket.waits.head = .kWaitOK := by
    rw [← found]
    exact congrArg ws.socket.waits.get (Nat.zero_add silence)
  -- The budget of time is not below zero, since the first wait is within it.
  have left : 0 ≤ timeout := by
    have first := inTime 0 (Nat.zero_le silence)
    rwa [sub_self] at first
  have rounds := silentRounds_yields side ws.linux.clock.head timeout silence ws.started left silent
    (fun i small => inTime (i + 1) small) fun remainingTime left =>
      Program.Yields.iterate_last (tryRecvRound_last side _ _ left waits handled complete)
  rw [status] at rounds
  have received := recv_yields buffer rounds
  rw [message, empty, List.nil_append] at received
  exact ⟨_, received, rfl⟩

/-- A mask goes with the side that sends, and is expected by the side that receives. -/
theorem nextMask_isSome (side : Side) (ws : WebSocket) :
    (nextMask side ws).isSome = (side.opposite == .server) := by
  cases side <;> rfl

/-- A receiver of a message in ordinary length form gets it back. -/
theorem recv_frameBytes (side : Side) (type : MessageType) {sender : WebSocket} {message : Bytes}
    (bounded : message.length < kMaximumMessageLength) (ordinary : message.length ≠ 65536)
    {ws : WebSocket}
    (incoming : ws.socket.incoming = frameBytes (nextMask side sender) type.opcode message)
    {timeout : ℚ} (listening : ws.Listening timeout) (buffer : Bytes) :
    ∃ ws', (recv side.opposite buffer timeout).Yields ws (type.status, message) ws' ∧
      ws'.socket.incoming = [] := by
  have small : message.length < 2 ^ 64 := by
    unfold kMaximumMessageLength at bounded
    omega
  -- The frame is the one that the bytes encode, with nothing behind it.
  rw [frameBytes_eq _ _ small ordinary, ← List.append_nil (Frame.encode _)] at incoming
  exact recv_frame type (.unfragmented (nextMask side sender) type.opcode message small)
    ⟨nextMask_isSome side sender, Nat.le_of_lt bounded⟩ rfl rfl incoming listening buffer

/-- A receiver of a message of 65536 bytes gets an empty one, and the bytes stay on the wire. -/
theorem recv_frameBytes_emptied (side : Side) (type : MessageType) {sender : WebSocket}
    {message : Bytes} (exact : message.length = 65536) {ws : WebSocket}
    (incoming : ws.socket.incoming = frameBytes (nextMask side sender) type.opcode message)
    {timeout : ℚ} (listening : ws.Listening timeout) (buffer : Bytes) :
    ∃ ws', (recv side.opposite buffer timeout).Yields ws (type.status, []) ws' ∧
      ws'.socket.incoming = wirePayload (nextMask side sender) message := by
  rw [frameBytes_emptied _ _ exact] at incoming
  exact recv_frame type (.emptied (nextMask side sender) type.opcode)
    ⟨nextMask_isSome side sender, Nat.zero_le _⟩ rfl rfl incoming listening buffer

/--
A receive call at the other end returns what was sent, and leaves nothing on the wire, exactly
when the message is not 65536 bytes long: there the length is narrowed to zero.
-/
theorem recv_sent_iff {side : Side} (type : MessageType) {message : Bytes}
    {sender sender' : WebSocket} (sent : (send side message type).Yields sender true sender')
    {calls : List SocketCall} (emitted : sender'.socket.passed = sender.socket.passed ++ calls)
    {receiver : WebSocket} (delivered : receiver.socket.incoming = wire calls) {timeout : ℚ}
    (listening : receiver.Listening timeout) (buffer : Bytes) :
    (∃ receiver', (recv side.opposite buffer timeout).Yields receiver (type.status, message)
        receiver' ∧ receiver'.socket.incoming = []) ↔ message.length ≠ 65536 := by
  -- A send that succeeds passed exactly the bytes of the message's frame.
  rcases (send_emits side message type sender).yields sent with ⟨bounded, emits⟩ | ⟨_, failed, _⟩
  · obtain ⟨calls', emitted', all, _⟩ := emits.calls
    obtain rfl : calls = calls' := List.append_cancel_left (emitted.symm.trans emitted')
    rw [all rfl] at delivered
    constructor
    · rintro ⟨receiver', received, _⟩ exact
      obtain ⟨receiver'', emptied, _⟩ :=
        recv_frameBytes_emptied side type exact delivered listening buffer
      -- The receiver has one answer only, and it is an empty message.
      have same := (received.unique emptied).1
      have empty : message = [] := congrArg Prod.snd same
      simp [empty] at exact
    · intro ordinary
      exact recv_frameBytes side type bounded ordinary delivered listening buffer
  · cases failed

/-- On a steady socket, data is found at once. -/
theorem WebSocket.steady_listening (incoming : Bytes) :
    (WebSocket.steady incoming).Listening 0 where
  fresh := rfl
  connected := rfl
  reads _ := rfl
  found := ⟨0, by omega, rfl, fun _ _ => le_of_eq (sub_self (0 : ℚ))⟩

/-- The rule for a client that says hi to a server. -/
theorem recv_sent_iff_hi :
    ∃ sender', (send .client [104, 105] .kTextMessage).Yields (.steady []) true sender' ∧
      ((∃ receiver', (recv .server [] 0).Yields (.steady (wire sender'.socket.passed))
          (.kRecvText, [104, 105]) receiver' ∧ receiver'.socket.incoming = []) ↔
        [(104 : UInt8), 105].length ≠ 65536) := by
  obtain ⟨sender', sent, passed⟩ := send_short_yields .client [104, 105] .kTextMessage
    (.steady []) (by decide) rfl rfl
  exact ⟨sender', sent, recv_sent_iff .kTextMessage sent passed (congrArg wire passed)
    (WebSocket.steady_listening _) []⟩

/-- A server that sends 65536 bytes reports success, and its client receives something else. -/
theorem sent_65536_not_received :
    ∃ sender', (send .server (List.replicate 65536 0) .kTextMessage).Yields (.steady []) true
        sender' ∧
      ¬ ∃ receiver', (recv .client [] 0).Yields (.steady (wire sender'.socket.passed))
          (.kRecvText, List.replicate 65536 0) receiver' ∧ receiver'.socket.incoming = [] := by
  have exact : (List.replicate 65536 (0 : UInt8)).length = 65536 := List.length_replicate
  obtain ⟨sender', sent, passed⟩ := send_short_yields .server (List.replicate 65536 0)
    .kTextMessage (.steady []) (by rw [exact]; decide) rfl rfl
  refine ⟨sender', sent, ?_⟩
  rintro ⟨receiver', received, _⟩
  have delivered : (WebSocket.steady (wire sender'.socket.passed)).socket.incoming =
      frameBytes (nextMask .server (.steady [])) MessageType.kTextMessage.opcode
        (List.replicate 65536 0) := by
    rw [passed]
    exact wire_singleton _
  -- The header announces no payload, so an empty message is received.
  obtain ⟨receiver'', emptied, _⟩ := recv_frameBytes_emptied .server _ exact delivered
    (WebSocket.steady_listening _) []
  have same := congrArg Prod.snd (received.unique emptied).1
  exact absurd (congrArg List.length same) (by rw [exact]; decide)

end Rcom
