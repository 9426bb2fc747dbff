import Librcom.WebSocket.RecvLaws

/-! Every call ends: its loops stop at the first reading of the clock past their deadline. -/

namespace Rcom

open Effects

namespace WebSocket

/-- From the given reading on, the clock shows more than the limit. -/
def Due (limit : ℚ) (readings : Nat) (ws : WebSocket) : Prop :=
  ∀ i ≥ readings, limit < ws.linux.clock.get i

/-- The clock goes past every limit and stays there. -/
def ClockAdvances (ws : WebSocket) : Prop := ∀ limit, ∃ readings, ws.Due limit readings

section

variable {ws ws' : WebSocket} {limit : ℚ} {readings : Nat}

/-- A deadline comes nearer with the readings of the clock. -/
theorem Due.later (due : ws.Due limit readings) (later : ws.Later ws') :
    ws'.Due limit readings := by
  -- A later clock shows the readings from a later index on.
  obtain ⟨ticks, _, clock, _⟩ := later
  intro i late
  rw [clock, Stream'.get_drop]
  exact due _ (by omega)

/-- Where no reading is left, the clock is behind the deadline. -/
theorem Due.head (due : ws.Due limit 0) : limit < ws.linux.clock.head := due 0 (Nat.le_refl 0)

/-- A reading brings the deadline one reading closer. -/
theorem Due.tick (due : ws.Due limit (readings + 1)) (naps looks : Nat) :
    (ws.pass 1 naps looks).Due limit readings := by
  intro i late
  show limit < (ws.linux.clock.drop 1).get i
  rw [Stream'.get_drop]
  exact due _ (by omega)

/-- A clock that advances goes on to advance. -/
theorem ClockAdvances.later (advances : ws.ClockAdvances) (later : ws.Later ws') :
    ws'.ClockAdvances := by
  intro limit
  obtain ⟨readings, due⟩ := advances limit
  exact ⟨readings, due.later later⟩

end

/-- The clock of a running WebSocket advances. -/
theorem running_advances (incoming : Bytes) : (running incoming).ClockAdvances := by
  -- The clock of this socket counts its own readings.
  intro limit
  obtain ⟨readings, past⟩ := exists_nat_gt limit
  refine ⟨readings, fun i late => past.trans_le ?_⟩
  show (readings : ℚ) ≤ (i : ℚ)
  exact_mod_cast late

end WebSocket

/-- A round that goes on had time left, and carries on the time left at its last reading. -/
structure GoesOn (startTime timeout remainingTime : ℚ) (ws : WebSocket) (remainingTime' : ℚ)
    (ws' : WebSocket) : Prop where
  left : 0 ≤ remainingTime
  reads : ∃ mid, ws.Later mid ∧ remainingTime' = mid.timeLeft startTime timeout ∧
    ws' = mid.pass 1 0 0

/-- A loop whose rounds read the clock and stop without time left ends. -/
theorem timedLoop_halts {α : Type} {body : ℚ → WebSocketM (ℚ ⊕ α)} (startTime timeout : ℚ)
    (halts : ∀ remainingTime ws, ws.ClockAdvances → (body remainingTime).Halts ws)
    (round : ∀ remainingTime ws, (body remainingTime).Ensures ws
      (Program.Turn (GoesOn startTime timeout remainingTime ws) fun _ _ => True)
      (fun _ _ => True))
    (remainingTime : ℚ) {ws : WebSocket} (advances : ws.ClockAdvances) :
    (Program.iterate body remainingTime).Halts ws := by
  let limit := startTime + timeout
  obtain ⟨readings, due⟩ := advances limit
  -- The readings until the deadline bound the rounds: each round takes one at least.
  suffices achieved : (Program.iterate body remainingTime).Achieves ws (fun _ _ => True)
      (fun _ _ => True) from achieved.halts
  refine Program.Achieves.iterate (fun bound remainingTime ws => ws.ClockAdvances ∧
    (remainingTime < 0 ∨ ∃ n < bound, ws.Due limit n)) ?_
    (⟨advances, .inr ⟨readings, Nat.lt_succ_self readings, due⟩⟩ :
      ws.ClockAdvances ∧ (remainingTime < 0 ∨ ∃ n < readings + 1, ws.Due limit n))
  intro bound remainingTime ws ⟨advances, late⟩
  refine ⟨(round remainingTime ws).mono ?_ (fun _ _ _ => trivial),
    halts remainingTime ws advances⟩
  -- Only a round that goes on has something to show.
  intro turn ws' turned
  cases turn with
  | inr _ => exact trivial
  | inl remainingTime' =>
    obtain ⟨left, mid, later, rfl, rfl⟩ := turned
    have advances' := advances.later (later.trans (mid.later_pass 1 0 0))
    -- A round goes on only if there was time left, so that the bound was still positive.
    rcases late with late | ⟨n, small, due⟩
    · exact absurd left (not_le.mpr late)
    · have due' := due.later later
      cases n with
      | zero =>
        -- At the last of the readings before the deadline the clock is past it, and no time is
        -- left.
        have past : mid.timeLeft startTime timeout < 0 := by
          have head := due'.head
          unfold WebSocket.timeLeft
          linarith
        exact ⟨0, small, advances', .inl past⟩
      -- Otherwise the reading brings the deadline one closer.
      | succ n => exact ⟨n + 1, small, advances', .inr ⟨n, by omega, due'.tick 0 0⟩⟩

/-- To sleep comes to an end. -/
theorem rcomSleep_halts (seconds : ℚ) (ws : WebSocket) : (rcomSleep seconds).Halts ws :=
  (Linux.rcomSleep_achieves seconds ws.linux).halts.within _

/-- Waiting for the other end stops one round after the first reading past its deadline. -/
theorem waitForEndpoint_halts (startTime timeout : ℚ) {ws : WebSocket}
    (advances : ws.ClockAdvances) : (waitForEndpoint startTime timeout).Halts ws := by
  let limit := startTime + timeout
  obtain ⟨readings, due⟩ := advances limit
  -- What bounds the rounds are the readings until the deadline, as for the other loop.
  suffices achieved : (waitForEndpoint startTime timeout).Achieves ws (fun _ _ => True)
      (fun _ _ => True) from achieved.halts
  refine Program.Achieves.iterate
    (fun bound timedOut ws => timedOut = true ∨ ∃ n < bound, ws.Due limit n) ?_
    (.inr ⟨readings, Nat.lt_succ_self readings, due⟩ :
      false = true ∨ ∃ n < readings + 1, ws.Due limit n)
  intro bound timedOut ws late
  -- The round looks at the other end, and stops when it is closed.
  refine (isEndpointConnected_yields ws).bind_achieves ?_
  split
  · rename_i waiting
    obtain ⟨n, small, due⟩ : ∃ n < bound, ws.Due limit n := by
      refine late.resolve_left fun timedOut => ?_
      simp [timedOut] at waiting
    have due' : (ws.pass 0 0 1).Due limit n := due.later (ws.later_pass 0 0 1)
    refine (rcomTime_yields _).bind_achieves ?_
    dsimp only
    split
    · -- The deadline is reached, and the next round sees the flag.
      exact (Program.yields_pure _ _).achieves ⟨0, by omega, .inl rfl⟩
    · -- It is not, so that at least one reading is left before it, and the sleep takes none.
      rename_i early
      refine Program.Achieves.seq ⟨rcomSleep_ensures _ _, rcomSleep_halts _ _⟩
        (fun _ _ _ => trivial) ?_
      rintro - _ rfl
      cases n with
      | zero =>
        have head := due'.head
        refine absurd ?_ early
        show timeout ≤ _ - startTime
        linarith
      | succ n =>
        refine (Program.yields_pure _ _).achieves ⟨n + 1, small, .inr ⟨n, by omega, ?_⟩⟩
        exact (due'.tick 0 0).later (WebSocket.later_pass _ 0 1 0)
  · exact (Program.yields_pure _ _).achieves trivial

/-- To close the connection comes to an end, however long the peer takes. -/
theorem closeConnection_halts (side : Side) {ws : WebSocket} (advances : ws.ClockAdvances) :
    (closeConnection side).Halts ws := by
  cases side with
  -- A server closes without waiting.
  | server => exact (Program.yields_update _ ws).halts
  | client =>
    -- A client waits for the other end, and then closes.
    refine (rcomTime_yields ws).bind_halts ?_
    refine (waitForEndpoint_halts _ _ (advances.later (ws.later_pass 1 0 0))).bind ?_
    exact fun _ ws' _ => (Program.yields_update _ ws').halts

/-- To send comes to an end, and so does the closing of a connection on which it fails. -/
theorem socketSend_halts (side : Side) (call : SocketCall) {ws : WebSocket}
    (advances : ws.ClockAdvances) : (socketSend side call).Halts ws := by
  -- The call on the socket ends, and if it was refused the link is closed.
  have passed : (onSocket (Socket.send call)).Yields ws (ws.socket.send call).1 (ws.offered call) :=
    Program.yields_act _ ws
  refine passed.bind_halts ?_
  split
  · exact (Program.yields_pure _ _).halts
  · refine (closeConnection_halts side (advances.later (.of_linux (ws.offered_linux call)))).bind ?_
    exact fun _ ws' _ => (Program.yields_pure _ ws').halts

/-- To make a frame and send it comes to an end. -/
theorem sendFrame_halts (side : Side) (opcode : Opcode) (payload : Bytes) {ws : WebSocket}
    (advances : ws.ClockAdvances) :
    (makeMessage side opcode payload >>= fun message =>
      socketSend side (.buffer message)).Halts ws :=
  (makeMessage_yields side opcode payload ws).bind_halts
    (socketSend_halts side _ (advances.later (ws.later_drawn side)))

/-- To send a pong comes to an end. -/
theorem sendPong_halts (side : Side) {ws : WebSocket} (advances : ws.ClockAdvances) :
    (sendPong side).Halts ws := by
  refine (Program.yields_get ws).bind_halts ((makeMessage_yields side _ _ ws).bind_halts ?_)
  refine (socketSend_halts side _ (advances.later (ws.later_drawn side))).bind ?_
  exact fun _ ws' _ => (Program.yields_pure _ ws').halts

/-- To send a Close frame comes to an end. -/
theorem sendCloseMessage_halts (side : Side) (code : CloseCode) {ws : WebSocket}
    (advances : ws.ClockAdvances) : (sendCloseMessage side code).Halts ws :=
  sendFrame_halts side .kCloseOpcode _ advances

/-- A round of waiting for the peer's Close frame that goes on has read the clock. -/
theorem closingWaitReplyRound_goesOn (side : Side) (startTime timeout remainingTime : ℚ)
    (ws : WebSocket) :
    (closingWaitReplyRound side startTime timeout remainingTime).Ensures ws
      (Program.Turn (GoesOn startTime timeout remainingTime ws) fun _ _ => True)
      (fun _ _ => True) := by
  unfold closingWaitReplyRound
  split
  · rename_i left
    refine (socketWait_yields _ ws).bind_ensures ?_
    have looked : ws.Later ws.looked := .of_linux rfl
    split
    · -- A frame was read, and if it is not the Close frame the clock is read after it.
      refine (readMessage_achieves side _).toEnsures.seq (fun _ _ _ => trivial) ?_
      rintro - _ ⟨_, f, rest, reads, _, _, rfl⟩
      have read : ws.Later (ws.looked.received f rest reads) := .of_linux rfl
      refine (Program.yields_get _).bind_ensures ?_
      split
      · exact Program.ensures_pure trivial
      · refine (computeRemaningTime_yields _ _ _).bind_ensures ?_
        exact Program.ensures_pure ⟨left, _, read, rfl, rfl⟩
    · -- Without data the clock is read as well.
      refine (computeRemaningTime_yields _ _ _).bind_ensures ?_
      exact Program.ensures_pure ⟨left, _, looked, rfl, rfl⟩
  · exact Program.ensures_pure trivial

/-- A round of waiting for the reply to a Close frame comes to an end. -/
theorem closingWaitReplyRound_halts (side : Side) (startTime timeout remainingTime : ℚ)
    (ws : WebSocket) :
    (closingWaitReplyRound side startTime timeout remainingTime).Halts ws := by
  have again (ws : WebSocket) : (do
      -- Reading the clock at the end of a round takes no loop.
      return .inl (← computeRemaningTime startTime timeout) : WebSocketM (ℚ ⊕ Unit)).Halts ws :=
    (computeRemaningTime_yields _ _ ws).bind_halts (Program.yields_pure _ _).halts
  unfold closingWaitReplyRound
  split
  · refine (socketWait_yields _ ws).bind_halts ?_
    split
    · refine (readMessage_achieves side _).halts.bind fun _ ws' _ => ?_
      refine (Program.yields_get ws').bind_halts ?_
      split
      · exact (Program.yields_pure _ _).halts
      · exact again ws'
    · exact again _
  · exact (Program.yields_pure _ ws).halts

/-- To wait for the reply comes to an end, as time runs out. -/
theorem closingWaitReply_halts (side : Side) (timeout : ℚ) {ws : WebSocket}
    (advances : ws.ClockAdvances) : (closingWaitReply side timeout).Halts ws := by
  refine (rcomTime_yields ws).bind_halts ?_
  -- The rounds are those of a loop that stops without time left.
  refine timedLoop_halts ws.linux.clock.head timeout ?_ ?_ timeout (advances.later (ws.later_pass 1 0 0))
  · exact fun remainingTime ws _ => closingWaitReplyRound_halts side _ _ remainingTime ws
  · exact fun remainingTime ws => closingWaitReplyRound_goesOn side _ _ remainingTime ws

/-- The closing handshake comes to an end, or throws. -/
theorem tryCloseWithHandshake_halts (side : Side) (code : CloseCode) {ws : WebSocket}
    (advances : ws.ClockAdvances) : (tryCloseWithHandshake side code).Halts ws := by
  -- Each part ends from a clock that has gone on, since it advances from any reading.
  refine (sendCloseMessage_halts side code advances).bind fun ok mid sent => ?_
  have said := ((sendCloseMessage_ensures side code ws).yields sent).1.later
  cases ok with
  | true =>
    refine (closingWaitReply_halts side 5 (advances.later said)).bind fun _ ws' waited => ?_
    have idle := (closingWaitReply_ensures side 5 mid).yields waited
    exact closeConnection_halts side (advances.later (said.trans idle.later))
  | false => exact closeConnection_halts side (advances.later said)

/-- To close with a handshake comes to an end, whatever the handshake throws. -/
theorem closeWithHandshake_halts (side : Side) (code : CloseCode) {ws : WebSocket}
    (sleeps : ws.SleepsSucceed) (advances : ws.ClockAdvances) :
    (closeWithHandshake side code).Halts ws := by
  -- When the guarded part throws, the connection is closed all the same.
  refine (tryCloseWithHandshake_halts side code advances).attempt fun e ws' threw => ?_
  have said := ((tryCloseWithHandshake_ensures side code ws).throws threw).resolve_right
    (not_not_intro sleeps)
  exact closeConnection_halts side (advances.later said.later)

/-- To answer a Close frame comes to an end. -/
theorem answerCloseHandshake_halts (side : Side) {ws : WebSocket} (advances : ws.ClockAdvances) :
    (answerCloseHandshake side).Halts ws := by
  -- The reason of the peer is noted before the reply.
  have got : getCloseCode.Yields ws ()
      { ws with remoteCloseReason := answerCode ws.inputPayloadBuffer } := Program.yields_update _ ws
  have heard : ws.Later { ws with remoteCloseReason := answerCode ws.inputPayloadBuffer } :=
    .of_linux rfl
  refine got.bind_halts ((Program.yields_get _).bind_halts ?_)
  refine (sendCloseMessage_halts side _ (advances.later heard)).bind fun ok mid sent => ?_
  have said := ((sendCloseMessage_ensures side _ _).yields sent).1.later
  exact closeConnection_halts side (advances.later (heard.trans said))

/-- To take the payload of a data frame comes to an end. -/
theorem handleDataPayload_halts (ws : WebSocket) : handleDataPayload.Halts ws := by
  -- Either the frame is added, or it is rejected, and there is no loop in both.
  by_cases takes : ws.TakesData
  · exact (handleDataPayload_yields takes).halts
  · obtain ⟨e, _, threw⟩ := handleDataPayload_throws takes
    exact threw.halts

/-- To handle a frame comes to an end, whatever it is. -/
theorem handleOneMessage_halts (side : Side) {ws : WebSocket} (advances : ws.ClockAdvances) :
    (handleOneMessage side).Halts ws := by
  -- Reading ends in any case, and the frame that was read decides what follows.
  refine (readMessage_achieves side ws).halts.bind fun _ ws' read => ?_
  obtain ⟨_, f, rest, reads, _, _, rfl⟩ := (readMessage_achieves side ws).yields read
  have advances' : (ws.received f rest reads).ClockAdvances := advances.later (.of_linux rfl)
  refine (processMessage_agrees side f _ rfl).halts ?_
  cases f.opcode with
  | kCloseOpcode => exact answerCloseHandshake_halts side advances'
  | kPingOpcode => exact sendPong_halts side advances'
  | kPongOpcode => exact (Program.yields_pure _ _).halts
  | kContinutationOpcode => exact handleDataPayload_halts _
  | kTextOpcode => exact handleDataPayload_halts _
  | kBinaryOpcode => exact handleDataPayload_halts _

/-- The clock and the sleeps only go on while a frame is handled. -/
theorem Handled.later {side : Side} {f : Frame} {ws ws' : WebSocket}
    (handled : Handled side f ws ws') : ws.Later ws' := by
  have data (taken : ws' = ws.dataHandled) : ws.Later ws' := .of_linux (by rw [taken]; rfl)
  unfold Handled at handled
  -- Both answers pass the clock on, and data leaves it alone.
  cases opcode : f.opcode <;> rw [opcode] at handled
  case kCloseOpcode => exact handled.1.later
  case kPingOpcode => exact FrameSent.later handled
  case kPongOpcode =>
    rw [show ws' = ws from handled]
    exact .refl ws
  all_goals exact data handled.2

/-- To handle a frame takes its time. -/
theorem handleOneMessage_later (side : Side) (ws : WebSocket) :
    (handleOneMessage side).Ensures ws (fun _ ws' => ws.Later ws') (fun _ _ => True) := by
  refine (handleOneMessage_ensures side ws).mono ?_ (fun _ _ _ => trivial)
  -- Reading does not look at the clock.
  rintro - ws' ⟨_, f, rest, reads, _, _, handled⟩
  have read : ws.Later (ws.received f rest reads) := .of_linux rfl
  exact read.trans handled.later

/-- A round of a receive call comes to an end. -/
theorem tryRecvRound_halts (side : Side) (startTime timeout remainingTime : ℚ) {ws : WebSocket}
    (advances : ws.ClockAdvances) :
    (tryRecvRound side startTime timeout remainingTime).Halts ws := by
  have again (ws : WebSocket) : (do
      return .inl (← computeRemaningTime startTime timeout) :
        WebSocketM (ℚ ⊕ RecvStatus)).Halts ws :=
    (computeRemaningTime_yields _ _ ws).bind_halts (Program.yields_pure _ _).halts
  -- A wait looks at the socket and not at the clock.
  have looked : ws.Later ws.looked := .of_linux rfl
  have handles : (waitAndHandleOneMessage side remainingTime).Halts ws := by
    refine (waitForData_achieves remainingTime ws).halts.bind fun found ws' waited => ?_
    obtain rfl := (waitForData_achieves remainingTime ws).yields waited
    cases found with
    | true =>
      refine (handleOneMessage_halts side (advances.later looked)).bind fun _ ws' _ => ?_
      exact (Program.yields_pure _ ws').halts
    | false => exact (Program.yields_pure _ _).halts
  unfold tryRecvRound
  split
  · refine handles.bind fun found ws' _ => ?_
    -- Whatever the wait has found, the rest of the round has no loop.
    cases found with
    | true =>
      refine (hasCompleteDataMessage_yields ws').bind_halts ?_
      split
      · exact (getMessageType_yields ws').bind_halts (Program.yields_pure _ _).halts
      · refine (isConnectedNolock_yields ws').bind_halts ?_
        split
        · exact (Program.yields_pure _ _).halts
        · exact again ws'
    | false => exact again ws'
  · exact (Program.yields_pure _ ws).halts

/-- A round of receiving that goes on has read the clock. -/
theorem tryRecvRound_goesOn (side : Side) (startTime timeout remainingTime : ℚ) (ws : WebSocket) :
    (tryRecvRound side startTime timeout remainingTime).Ensures ws
      (Program.Turn (GoesOn startTime timeout remainingTime ws) fun _ _ => True)
      (fun _ _ => True) := by
  refine (tryRecvRound_ensures side startTime timeout (handleOneMessage_later side ws.looked)).mono
    ?_ (fun _ _ _ => trivial)
  have looked : ws.Later ws.looked := .of_linux rfl
  intro turn ws' round
  -- The two kinds of rounds that go on have read the clock at their end.
  cases round with
  | nothing left => exact ⟨left, ws.looked, looked, rfl, rfl⟩
  | @more ws' left later _ _ => exact ⟨left, ws', looked.trans later, rfl, rfl⟩
  | expired => exact trivial
  | complete => exact trivial
  | closed => exact trivial

/-- The rounds of a receive call come to an end. -/
theorem tryRecvRounds_halts (side : Side) (startTime timeout remainingTime : ℚ) {ws : WebSocket}
    (advances : ws.ClockAdvances) :
    (Program.iterate (tryRecvRound side startTime timeout) remainingTime).Halts ws := by
  refine timedLoop_halts startTime timeout ?_ ?_ remainingTime advances
  · exact fun remainingTime ws advances => tryRecvRound_halts side _ _ remainingTime advances
  · exact fun remainingTime ws => tryRecvRound_goesOn side _ _ remainingTime ws

/-- A receive call ends when its rounds do, and so does the handler of what they throw. -/
theorem recv_halts {side : Side} {timeout : ℚ} {ws : WebSocket}
    {post : RecvStatus → WebSocket → Prop} {failed : Fault → WebSocket → Prop}
    (rounds : (Program.iterate (tryRecvRound side ws.linux.clock.head timeout) timeout).Achieves
      ws.started post failed)
    (handles : ∀ e ws', failed e ws' → (recvHandler side e).Halts ws') (buffer : Bytes) :
    (recv side buffer timeout).Halts ws := by
  let cleared : WebSocket := { ws with message := [] }
  -- Reading the clock first leaves the rounds as the only loop of the call.
  have tried : (tryRecv side timeout).Achieves cleared (fun _ _ => True) failed :=
    (rcomTime_yields cleared).bind_achieves
      (rounds.mono (fun _ _ _ => trivial) (fun _ _ failure => failure))
  have guarded : ((do
      Program.update fun ws => { ws with message := [] }
      tryRecv side timeout : WebSocketM RecvStatus).attempt (recvHandler side)).Achieves
        { ws with message := buffer } (fun _ _ => True) (fun _ _ => True) :=
    Program.Achieves.attempt ((Program.yields_update _ _).bind_achieves tried)
      fun e ws' failure => ⟨Program.ensures_true, handles e ws' failure⟩
  refine (Program.yields_update _ ws).bind_halts (guarded.halts.bind ?_)
  exact fun _ ws' _ => (Program.yields_get ws').bind_halts (Program.yields_pure _ _).halts

/-- To close after an exception comes to an end. -/
theorem recvHandler_halts (side : Side) (e : Fault) {ws : WebSocket} (sleeps : ws.SleepsSucceed)
    (advances : ws.ClockAdvances) : (recvHandler side e).Halts ws := by
  -- An exception for the peer is handled by closing, which ends, and any other is passed on.
  cases e with
  | recvError _ code =>
    refine (closeWithHandshake_halts side code sleeps advances).bind ?_
    exact fun _ ws' _ => (Program.yields_pure _ ws').halts
  | runtimeError _ => exact (Program.throws_raise _ _).halts

end Rcom
