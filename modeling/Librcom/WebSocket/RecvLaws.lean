import Librcom.WebSocket.ReceiveLaws

/-! One round of a receive call: everything it can do, and what it does when all goes well. -/

namespace Rcom

open Effects

/-- The header ends a data message. -/
def completes (header : FrameHeader) : Bool := hasDataMessage header && isDataMessageComplete header

/-- The status of a complete message. -/
def WebSocket.messageStatus (ws : WebSocket) : RecvStatus :=
  if ws.isText then .kRecvText else .kRecvBinary

/-- A data message ends with a final data frame. -/
theorem completes_header (f : Frame) : completes f.header = (f.isData && f.fin) := by
  unfold completes hasDataMessage isDataMessageComplete Frame.isData Frame.header
  -- The two flags are computed from the opcode and the final bit alone.
  cases f.opcode <;> cases f.fin <;> rfl

/-- A message is complete if its final frame was read. -/
theorem hasCompleteDataMessage_yields (ws : WebSocket) :
    hasCompleteDataMessage.Yields ws (completes ws.frameHeader) ws :=
  (Program.yields_get ws).bind (Program.yields_pure _ _)

/-- The status tells the type of the message. -/
theorem getMessageType_yields (ws : WebSocket) : getMessageType.Yields ws ws.messageStatus ws := by
  refine (Program.yields_get ws).bind ?_
  unfold WebSocket.messageStatus
  split
  · exact Program.yields_pure _ _
  · exact Program.yields_pure _ _

/-- The WebSocket is connected if its socket is. -/
theorem isConnectedNolock_yields (ws : WebSocket) :
    isConnectedNolock.Yields ws ws.socket.connected ws :=
  (Program.yields_get ws).bind (Program.yields_pure _ _)

/-- What a round of receiving can do, for a given way of handling frames. -/
inductive RecvRound (handled : WebSocket → Prop) (startTime timeout remainingTime : ℚ)
    (ws : WebSocket) : ℚ ⊕ RecvStatus → WebSocket → Prop
  | expired : remainingTime < 0 →
    RecvRound handled startTime timeout remainingTime ws (.inr .kRecvTimeOut) ws
  | nothing : 0 ≤ remainingTime →
    RecvRound handled startTime timeout remainingTime ws (.inl (ws.timeLeft startTime timeout))
      (ws.looked.pass 1 0 0)
  | complete {ws' : WebSocket} : handled ws' → completes ws'.frameHeader = true →
    RecvRound handled startTime timeout remainingTime ws (.inr ws'.messageStatus) ws'
  | closed {ws' : WebSocket} : handled ws' → ws'.socket.connected = false →
    completes ws'.frameHeader = false →
    RecvRound handled startTime timeout remainingTime ws (.inr .kRecvClosed) ws'
  | more {ws' : WebSocket} : 0 ≤ remainingTime → handled ws' → ws'.socket.connected = true →
    completes ws'.frameHeader = false →
    RecvRound handled startTime timeout remainingTime ws (.inl (ws'.timeLeft startTime timeout))
      (ws'.pass 1 0 0)

section Round

variable (side : Side) (startTime timeout : ℚ) {remainingTime : ℚ} {ws ws' : WebSocket}

/-- Waiting looks at the socket once, and fails when the wait does. -/
theorem waitForData_achieves (remainingTime : ℚ) (ws : WebSocket) :
    (waitForData remainingTime).Achieves ws (fun _ ws' => ws' = ws.looked)
      (fun e ws' => e.IsRecvError ∧ ws' = ws.looked) := by
  refine (socketWait_yields remainingTime ws).bind_achieves ?_
  -- The status of the wait decides, and nothing else is read.
  cases ws.socket.waits.head with
  | kWaitOK => exact (Program.yields_pure _ _).achieves rfl
  | kWaitTimeout => exact (Program.yields_pure _ _).achieves rfl
  | kWaitError => exact Program.achieves_raise ⟨trivial, rfl⟩

/-- Waiting tells whether there is data. -/
theorem waitForData_yields (remainingTime : ℚ) (found : Bool)
    (waits : ws.socket.waits.head = if found then .kWaitOK else .kWaitTimeout) :
    (waitForData remainingTime).Yields ws found ws.looked := by
  refine (socketWait_yields remainingTime ws).bind ?_
  rw [waits]
  cases found with
  | true => exact Program.yields_pure _ _
  | false => exact Program.yields_pure _ _

/-- Waiting finds data and handles a frame, or finds none, or fails. -/
theorem waitAndHandleOneMessage_ensures {handled : WebSocket → Prop}
    {fail : Fault → WebSocket → Prop}
    (handles : (handleOneMessage side).Ensures ws.looked (fun _ => handled) fail) :
    (waitAndHandleOneMessage side remainingTime).Ensures ws
      (fun found ws' => (found = true ∧ handled ws') ∨ (found = false ∧ ws' = ws.looked))
      (fun e ws' => fail e ws' ∨ (e.IsRecvError ∧ ws' = ws.looked)) := by
  -- A wait that failed is a failure of the round.
  refine (waitForData_achieves remainingTime ws).toEnsures.seq (fun _ _ failed => .inr failed) ?_
  rintro found _ rfl
  cases found with
  -- There is data, and the frame in front is handled.
  | true =>
    refine handles.seq (fun _ _ failed => .inl failed) ?_
    exact fun _ _ handled => Program.ensures_pure (.inl ⟨rfl, handled⟩)
  | false => exact Program.ensures_pure (.inr ⟨rfl, rfl⟩)

/-- A round does one of these things, or a wait or a frame fails. -/
theorem tryRecvRound_ensures {handled : WebSocket → Prop} {fail : Fault → WebSocket → Prop}
    (handles : (handleOneMessage side).Ensures ws.looked (fun _ => handled) fail) :
    (tryRecvRound side startTime timeout remainingTime).Ensures ws
      (RecvRound handled startTime timeout remainingTime ws)
      (fun e ws' => fail e ws' ∨ (e.IsRecvError ∧ ws' = ws.looked)) := by
  unfold tryRecvRound
  -- Without time left the round is over before it begins.
  by_cases left : remainingTime ≥ 0
  · rw [if_pos left]
    refine (waitAndHandleOneMessage_ensures side handles).bind ?_
    rintro found ws' (⟨rfl, handled⟩ | ⟨rfl, rfl⟩)
    · -- A frame was handled, which completes a message, or closes the link, or neither.
      refine (hasCompleteDataMessage_yields ws').bind_ensures ?_
      cases complete : completes ws'.frameHeader with
      | true =>
        exact (getMessageType_yields ws').bind_ensures
          (Program.ensures_pure (.complete handled complete))
      | false =>
        refine (isConnectedNolock_yields ws').bind_ensures ?_
        -- Whether the link is open is asked only if there is no message to return.
        cases connected : ws'.socket.connected with
        | true =>
          exact (computeRemaningTime_yields _ _ ws').bind_ensures
            (Program.ensures_pure (.more left handled connected complete))
        | false => exact Program.ensures_pure (.closed handled connected complete)
    · -- No frame was there, and the next round has what the clock leaves.
      exact (computeRemaningTime_yields _ _ _).bind_ensures (Program.ensures_pure (.nothing left))
  · rw [if_neg left]
    exact Program.ensures_pure (.expired (not_le.mp left))

/-- When there is data, a round handles the frame in front. -/
theorem waitAndHandleOneMessage_yields (waits : ws.socket.waits.head = .kWaitOK)
    (handles : (handleOneMessage side).Yields ws.looked () ws') :
    (waitAndHandleOneMessage side remainingTime).Yields ws true ws' :=
  (waitForData_yields remainingTime true waits).bind (handles.bind (Program.yields_pure _ _))

/-- A round that completes a message gives the status of the message. -/
theorem tryRecvRound_last (left : 0 ≤ remainingTime) (waits : ws.socket.waits.head = .kWaitOK)
    (handles : (handleOneMessage side).Yields ws.looked () ws')
    (complete : completes ws'.frameHeader = true) :
    (tryRecvRound side startTime timeout remainingTime).Yields ws (.inr ws'.messageStatus) ws' := by
  unfold tryRecvRound
  rw [if_pos left]
  -- The frame is handled, the message is complete, and its type is the result.
  refine (waitAndHandleOneMessage_yields side waits handles).bind ?_
  refine (hasCompleteDataMessage_yields ws').bind ?_
  rw [complete]
  exact (getMessageType_yields ws').bind (Program.yields_pure _ _)

/-- A round that completes no message leads to the next one, on a link that stays open. -/
theorem tryRecvRound_next (left : 0 ≤ remainingTime) (waits : ws.socket.waits.head = .kWaitOK)
    (handles : (handleOneMessage side).Yields ws.looked () ws')
    (incomplete : completes ws'.frameHeader = false) (connected : ws'.socket.connected = true) :
    (tryRecvRound side startTime timeout remainingTime).Yields ws
      (.inl (ws'.timeLeft startTime timeout)) (ws'.pass 1 0 0) := by
  unfold tryRecvRound
  rw [if_pos left]
  -- The frame is handled, the message goes on, and so does the link.
  refine (waitAndHandleOneMessage_yields side waits handles).bind ?_
  refine (hasCompleteDataMessage_yields ws').bind ?_
  rw [incomplete]
  refine (isConnectedNolock_yields ws').bind ?_
  rw [connected]
  exact (computeRemaningTime_yields _ _ ws').bind (Program.yields_pure _ _)

/-- A round throws what handling the frame in front throws. -/
theorem tryRecvRound_throws (left : 0 ≤ remainingTime) (waits : ws.socket.waits.head = .kWaitOK)
    {e : Fault} (threw : (handleOneMessage side).Throws ws.looked e ws') :
    (tryRecvRound side startTime timeout remainingTime).Throws ws e ws' := by
  -- The exception passes both the wait and the round.
  have failed : (waitAndHandleOneMessage side remainingTime).Throws ws e ws' :=
    (waitForData_yields remainingTime true waits).bind_throws (threw.bind _)
  unfold tryRecvRound
  rw [if_pos left]
  exact failed.bind _

/-- A round that waits in vain leads to the next one. -/
theorem tryRecvRound_nothing (left : 0 ≤ remainingTime)
    (waits : ws.socket.waits.head = .kWaitTimeout) :
    (tryRecvRound side startTime timeout remainingTime).Yields ws
      (.inl (ws.timeLeft startTime timeout)) (ws.looked.pass 1 0 0) := by
  -- The wait is over without data, and no frame is handled.
  have found : (waitAndHandleOneMessage side remainingTime).Yields ws false ws.looked :=
    (waitForData_yields remainingTime false waits).bind (Program.yields_pure _ _)
  unfold tryRecvRound
  rw [if_pos left]
  exact found.bind ((computeRemaningTime_yields _ _ ws.looked).bind (Program.yields_pure _ _))

end Round

/-- The state after some waits in vain, with one reading of the clock for each. -/
def WebSocket.silent (ws : WebSocket) (rounds : Nat) : WebSocket :=
  { ws with
    socket := { ws.socket with waits := ws.socket.waits.drop rounds }
    linux := { ws.linux with clock := ws.linux.clock.drop rounds } }

/-- A silent round is one look at the socket and one at the clock. -/
theorem WebSocket.silent_succ (ws : WebSocket) (rounds : Nat) :
    (ws.looked.pass 1 0 0).silent rounds = ws.silent (rounds + 1) := by
  simp only [silent, looked, pass, Stream'.drop_drop, Nat.add_comm 1 rounds]
  rfl

/-- Rounds that wait in vain, while there is time, delay what the rounds after them do. -/
theorem silentRounds_yields (side : Side) (startTime timeout : ℚ) {status : RecvStatus}
    {ws' : WebSocket} (rounds : Nat) : ∀ (ws : WebSocket) {remainingTime : ℚ}, 0 ≤ remainingTime →
      (∀ i < rounds, ws.socket.waits.get i = .kWaitTimeout) →
      (∀ i < rounds, ws.linux.clock.get i - startTime ≤ timeout) →
      (∀ remainingTime, 0 ≤ remainingTime →
        (Program.iterate (tryRecvRound side startTime timeout) remainingTime).Yields
          (ws.silent rounds) status ws') →
      (Program.iterate (tryRecvRound side startTime timeout) remainingTime).Yields ws status ws' := by
  -- The first of the rounds takes one wait and one reading of the clock, and the others follow.
  induction rounds with
  | zero => exact fun ws _ left _ _ rest => rest _ left
  | succ rounds ih =>
    intro ws remainingTime left waits inTime rest
    have round := tryRecvRound_nothing side startTime timeout left (waits 0 (by omega))
    refine Program.Yields.iterate_next round (ih _ (sub_nonneg.mpr (inTime 0 (by omega))) ?_ ?_ ?_)
    · exact fun i small => waits (i + 1) (by omega)
    · exact fun i small => inTime (i + 1) (by omega)
    · rw [WebSocket.silent_succ]
      exact rest

section Taken

variable (side : Side) (ws : WebSocket) {f : Frame} {rest : Bytes} {reads : Nat}
  (read : (readMessage side).Yields ws () (ws.received f rest reads))

include read

/-- A data frame that was read and fits the message in progress is added to it. -/
theorem handleOneMessage_data (data : f.isData = true)
    (takes : (ws.received f rest reads).TakesData) :
    (handleOneMessage side).Yields ws () (ws.received f rest reads).dataHandled := by
  have processed := processMessage_agrees side f (ws.received f rest reads) rfl
  -- What was read is handed to the handler of its opcode.
  refine read.next (processed.yields ?_)
  unfold Frame.isData at data
  cases code : f.opcode <;> simp [code] at data <;> exact handleDataPayload_yields takes

/-- A data frame that was read is rejected when its payload is. -/
theorem handleOneMessage_data_throws (data : f.isData = true) {e : Fault} {ws' : WebSocket}
    (threw : handleDataPayload.Throws (ws.received f rest reads) e ws') :
    (handleOneMessage side).Throws ws e ws' := by
  have processed := processMessage_agrees side f (ws.received f rest reads) rfl
  -- The rejection of the payload is that of the frame.
  refine read.bind_throws (processed.throws ?_)
  unfold Frame.isData at data
  cases code : f.opcode <;> simp [code] at data <;> exact threw

/-- For a ping that was read, a pong with its payload is passed to the socket. -/
theorem handleOneMessage_ping (connected : ws.socket.connected = true)
    (sends : ws.socket.sends.head = true) (ping : f.opcode = .kPingOpcode) :
    (handleOneMessage side).Yields ws ()
      (((ws.received f rest reads).drawn side).offered
        (frameCall side .kPongOpcode f.payload ws)) := by
  have processed := processMessage_agrees side f (ws.received f rest reads) rfl
  refine read.next (processed.yields ?_)
  -- The reads have left the mask that the pong will carry.
  have call : frameCall side .kPongOpcode f.payload ws =
      frameCall side .kPongOpcode f.payload (ws.received f rest reads) := by
    cases side <;> rfl
  rw [ping, call]
  exact sendPong_yields side (ws.received f rest reads) connected sends

/-- After a pong was read, nothing else happens. -/
theorem handleOneMessage_pong (pong : f.opcode = .kPongOpcode) :
    (handleOneMessage side).Yields ws () (ws.received f rest reads) := by
  have processed := processMessage_agrees side f (ws.received f rest reads) rfl
  refine read.next (processed.yields ?_)
  rw [pong]
  exact Program.yields_pure _ _

end Taken

/-- The state in which a receive call begins its rounds. -/
def WebSocket.started (ws : WebSocket) : WebSocket := ({ ws with message := [] } : WebSocket).pass 1 0 0

/-- A receive call whose rounds give a status returns it with the message. -/
theorem recv_yields {side : Side} {timeout : ℚ} {ws ws' : WebSocket} {status : RecvStatus}
    (buffer : Bytes)
    (rounds : (Program.iterate (tryRecvRound side ws.linux.clock.head timeout) timeout).Yields
      ws.started status ws') :
    (recv side buffer timeout).Yields ws (status, ws'.message) ws' := by
  -- The call reads the clock once before its first round.
  have tried : (tryRecv side timeout).Yields { ws with message := [] } status ws' :=
    (rcomTime_yields _).bind rounds
  have called : (Program.update fun ws => { ws with message := buffer } : WebSocketM Unit).Yields
      ws () { ws with message := buffer } := Program.yields_update _ ws
  have cleared : (Program.update fun ws => { ws with message := [] } : WebSocketM Unit).Yields
      { ws with message := buffer } () { ws with message := [] } := Program.yields_update _ _
  -- The handler has nothing to do, and the message is read from where it was left.
  refine called.next (((cleared.next tried).attempt _).bind ?_)
  exact (Program.yields_get ws').bind (Program.yields_pure _ _)

/-- What a receive call does with an exception that its rounds end in. -/
def recvHandler (side : Side) : Fault → WebSocketM RecvStatus
  | .recvError _ code => do
    closeWithHandshake side code
    return .kRecvError
  | .runtimeError what => Program.raise (.runtimeError what)

/-- A receive call ensures what its rounds and its handler ensure. -/
theorem recv_ensures {side : Side} {timeout : ℚ} {ws : WebSocket}
    {post : RecvStatus → WebSocket → Prop} {failed fail : Fault → WebSocket → Prop}
    (rounds : (Program.iterate (tryRecvRound side ws.linux.clock.head timeout) timeout).Ensures
      ws.started post failed)
    (handles : ∀ e ws', failed e ws' → (recvHandler side e).Ensures ws' post fail)
    (buffer : Bytes) :
    (recv side buffer timeout).Ensures ws
      (fun result ws' => result.2 = ws'.message ∧ post result.1 ws') fail := by
  let cleared : WebSocket := { ws with message := [] }
  -- The exceptions of the rounds are those of the guarded part.
  have tried : (tryRecv side timeout).Ensures cleared post failed :=
    (rcomTime_yields cleared).bind_ensures rounds
  have guarded : ((do
      Program.update fun ws => { ws with message := [] }
      tryRecv side timeout : WebSocketM RecvStatus).attempt (recvHandler side)).Ensures
        { ws with message := buffer } post fail :=
    Program.Ensures.attempt ((Program.yields_update _ _).bind_ensures tried) handles
  refine (Program.yields_update _ ws).bind_ensures (guarded.bind ?_)
  -- The message that is returned is the one in the state.
  intro status ws' holds
  exact (Program.yields_get ws').bind_ensures (Program.ensures_pure ⟨rfl, holds⟩)

end Rcom
