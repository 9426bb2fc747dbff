import Librcom.WebSocket.ReadInversion
import Librcom.WebSocket.SendLaws

/-! Closing a link: what is passed to the socket, and that it ends closed. -/

namespace Rcom

open Effects

namespace WebSocket

/-- The later state follows the earlier one: the clock and the sleeps only went on. -/
def Later (ws ws' : WebSocket) : Prop :=
  ∃ ticks naps, ws'.linux.clock = ws.linux.clock.drop ticks ∧
    ws'.linux.sleeps = ws.linux.sleeps.drop naps

/-- A moment is not before itself. -/
theorem Later.refl (ws : WebSocket) : ws.Later ws := ⟨0, 0, rfl, rfl⟩

/-- What is later than a later moment is later. -/
theorem Later.trans {first second third : WebSocket} (front : first.Later second)
    (back : second.Later third) : first.Later third := by
  obtain ⟨ticks, naps, clock, sleeps⟩ := front
  obtain ⟨ticks', naps', clock', sleeps'⟩ := back
  -- The two stretches of the streams follow each other.
  refine ⟨ticks + ticks', naps + naps', ?_, ?_⟩
  · rw [clock', clock, Stream'.drop_drop]
  · rw [sleeps', sleeps, Stream'.drop_drop]

/-- Where the system has not gone on, no time has passed. -/
theorem Later.of_linux {ws ws' : WebSocket} (same : ws'.linux = ws.linux) : ws.Later ws' :=
  ⟨0, 0, congrArg Linux.clock same, congrArg Linux.sleeps same⟩

/-- Sleeps that succeed go on to succeed. -/
theorem Later.sleeps {ws ws' : WebSocket} (later : ws.Later ws') (sleeps : ws.SleepsSucceed) :
    ws'.SleepsSucceed := by
  obtain ⟨_, naps, _, same⟩ := later
  intro i
  rw [same]
  simpa using sleeps (naps + i)

/-- The system goes on with what is passed over. -/
theorem later_pass (ws : WebSocket) (ticks naps looks : Nat) :
    ws.Later (ws.pass ticks naps looks) := ⟨ticks, naps, rfl, rfl⟩

/-- It goes on with the drawing of a mask. -/
theorem later_drawn (side : Side) (ws : WebSocket) : ws.Later (ws.drawn side) := by
  cases side <;> exact ⟨0, 0, rfl, rfl⟩

/-- The later state passed nothing to the socket, and the link is as it was. -/
structure Idle (ws ws' : WebSocket) : Prop where
  passed : ws'.socket.passed = ws.socket.passed
  connected : ws'.socket.connected = ws.socket.connected
  later : ws.Later ws'

/-- To do nothing is idle. -/
theorem Idle.refl (ws : WebSocket) : ws.Idle ws := ⟨rfl, rfl, .refl ws⟩

/-- Two idle parts in a row are idle. -/
theorem Idle.trans {first second third : WebSocket} (front : first.Idle second)
    (back : second.Idle third) : first.Idle third :=
  ⟨back.passed.trans front.passed, back.connected.trans front.connected,
    front.later.trans back.later⟩

/-- To read passes nothing to the peer. -/
theorem Reading.idle {ws ws' : WebSocket} (reading : ws.Reading ws') : ws.Idle ws' := by
  unfold Reading at reading
  -- Reads change neither what was passed nor the clock.
  rw [reading]
  exact ⟨rfl, rfl, .of_linux rfl⟩

/-- To wait passes nothing to the peer. -/
theorem Waited.idle {ws ws' : WebSocket} (waited : ws.Waited ws') : ws.Idle ws' := by
  obtain ⟨ticks, naps, looks, rfl⟩ := waited
  exact ⟨rfl, rfl, ticks, naps, rfl, rfl⟩

end WebSocket

/-- The state after waiting for data once. -/
def WebSocket.looked (ws : WebSocket) : WebSocket :=
  { ws with socket := { ws.socket with waits := ws.socket.waits.tail } }

/-- To wait gives the next answer of the socket. -/
theorem socketWait_yields (timeout : ℚ) (ws : WebSocket) :
    (socketWait timeout).Yields ws ws.socket.waits.head ws.looked :=
  Program.yields_act _ ws

/-- The time left of a timeout when the clock is read next. -/
def WebSocket.timeLeft (ws : WebSocket) (startTime timeout : ℚ) : ℚ :=
  timeout - (ws.linux.clock.head - startTime)

/-- The time that is left is computed with one look at the clock. -/
theorem computeRemaningTime_yields (startTime timeout : ℚ) (ws : WebSocket) :
    (computeRemaningTime startTime timeout).Yields ws (ws.timeLeft startTime timeout)
      (ws.pass 1 0 0) :=
  (rcomTime_yields ws).bind (Program.yields_pure _ _)

/-- The later state has the same message in progress, and the same bytes to read. -/
structure Kept (ws ws' : WebSocket) : Prop where
  header : ws'.frameHeader = ws.frameHeader
  message : ws'.message = ws.message
  isText : ws'.isText = ws.isText
  isContinuation : ws'.isContinuation = ws.isContinuation
  incoming : ws'.socket.incoming = ws.socket.incoming

namespace FrameSent

variable {side : Side} {opcode : Opcode} {payload : Bytes} {ws ws' : WebSocket}

/-- A connected socket was passed the frame, and a closed one nothing. -/
theorem passed (sent : FrameSent side opcode payload ws ws') :
    ws'.socket.passed = ws.socket.passed ++
      if ws.socket.connected then [frameCall side opcode payload ws] else [] := by
  -- A frame was offered in both cases, and the socket takes it only when connected.
  rcases sent with ⟨_, rfl⟩ | ⟨_, ⟨_, _, _, rfl⟩, rfl⟩
  · simpa using (ws.drawn side).offered_passed (frameCall side opcode payload ws)
  · simpa using (ws.drawn side).offered_passed (frameCall side opcode payload ws)

/-- Sending does not open a link. -/
theorem connected (sent : FrameSent side opcode payload ws ws')
    (still : ws'.socket.connected = true) : ws.socket.connected = true := by
  -- A frame that was not taken is followed by closing.
  rcases sent with ⟨connected, _⟩ | ⟨_, _, rfl⟩
  · exact connected
  · cases still

/-- A frame that was sent has taken its time. -/
theorem later (sent : FrameSent side opcode payload ws ws') : ws.Later ws' := by
  -- The waiting before the link was closed takes its readings and its sleeps.
  rcases sent with ⟨_, rfl⟩ | ⟨_, ⟨ticks, naps, _, rfl⟩, rfl⟩
  · exact ⟨0, 0, by cases side <;> rfl, by cases side <;> rfl⟩
  · exact ⟨ticks, naps, by cases side <;> rfl, by cases side <;> rfl⟩

/-- Sending does not touch what is being received. -/
theorem kept (sent : FrameSent side opcode payload ws ws') : Kept ws ws' := by
  -- Drawing a mask and passing a call leave the members of the message alone.
  have taken : Kept ws ((ws.drawn side).offered (frameCall side opcode payload ws)) := by
    have incoming : ((ws.drawn side).offered (frameCall side opcode payload ws)).socket.incoming =
        ws.socket.incoming := by
      unfold WebSocket.offered Socket.send
      rw [WebSocket.drawn_socket]
      split <;> rfl
    cases side <;> exact ⟨rfl, rfl, rfl, rfl, incoming⟩
  -- Waiting and closing change only the socket's own state and the system.
  rcases sent with ⟨_, rfl⟩ | ⟨_, ⟨_, _, _, rfl⟩, rfl⟩
  · exact taken
  · exact ⟨taken.header, taken.message, taken.isText, taken.isContinuation, taken.incoming⟩

end FrameSent

/-- The call that passes a Close frame. -/
def closeCall (side : Side) (code : CloseCode) (ws : WebSocket) : SocketCall :=
  frameCall side .kCloseOpcode (Endian.toBigEndian 2 code.toNat) ws

/-- A Close frame was passed if the link was still connected, and nothing else. -/
structure SaidClose (side : Side) (code : CloseCode) (ws ws' : WebSocket) : Prop where
  passed : ws'.socket.passed =
    ws.socket.passed ++ if ws.socket.connected then [closeCall side code ws] else []
  later : ws.Later ws'

/-- The link was closed, with one Close frame if it was still connected. -/
structure Closing (side : Side) (code : CloseCode) (ws ws' : WebSocket) : Prop extends
    SaidClose side code ws ws' where
  closed : ws'.socket.connected = false

/-- A Close frame that was said stays said when nothing more is passed. -/
theorem SaidClose.idle {side : Side} {code : CloseCode} {ws mid ws' : WebSocket}
    (said : SaidClose side code ws mid) (idle : mid.Idle ws') : SaidClose side code ws ws' :=
  ⟨idle.passed.trans said.passed, said.later.trans idle.later⟩

/-- A frame with a close code is a Close frame that was said. -/
theorem FrameSent.saidClose {side : Side} {code : CloseCode} {ws ws' : WebSocket}
    (sent : FrameSent side .kCloseOpcode (Endian.toBigEndian 2 code.toNat) ws ws') :
    SaidClose side code ws ws' :=
  ⟨sent.passed, sent.later⟩

/-- After the Close frame, closing the connection completes the closing. -/
theorem SaidClose.closeConnection_ensures {side : Side} {code : CloseCode} {ws mid : WebSocket}
    (said : SaidClose side code ws mid) :
    (closeConnection side).Ensures mid (fun _ ws' => Closing side code ws ws')
      (fun _ _ => ¬ ws.SleepsSucceed) := by
  refine (Rcom.closeConnection_ensures side mid).mono ?_ ?_
  · -- Waiting passes nothing, so that closing completes what was said.
    rintro - _ ⟨waited, passing, rfl⟩
    have still := said.idle passing.idle
    exact ⟨⟨still.passed, still.later⟩, rfl⟩
  · rintro _ _ ⟨_, failed⟩ sleeps
    exact failed (said.later.sleeps sleeps)

/-- A round of waiting for the peer's Close frame passes nothing. -/
theorem closingWaitReplyRound_ensures (side : Side) (startTime timeout remainingTime : ℚ)
    (ws : WebSocket) :
    (closingWaitReplyRound side startTime timeout remainingTime).Ensures ws
      (fun _ ws' => ws.Idle ws') (fun e ws' => e.IsRecvError ∧ ws.Idle ws') := by
  have looked : ws.Idle ws.looked := ⟨rfl, rfl, .of_linux rfl⟩
  have ticked (ws : WebSocket) : ws.Idle (ws.pass 1 0 0) :=
    WebSocket.Waited.idle ⟨1, 0, 0, rfl⟩
  -- A round without time left does nothing.
  unfold closingWaitReplyRound
  split
  · refine (socketWait_yields _ ws).bind_ensures ?_
    split
    · -- There is data, and the frame that is read is either the Close frame or discarded.
      refine (readMessage_achieves side _).toEnsures.seq ?_ ?_
      · rintro e ws' ⟨isRecvError, reading⟩
        exact ⟨isRecvError, looked.trans reading.idle⟩
      · rintro - _ ⟨_, f, rest, reads, _, _, rfl⟩
        have read : ws.Idle (ws.looked.received f rest reads) := ⟨rfl, rfl, .of_linux rfl⟩
        refine (Program.yields_get _).bind_ensures ?_
        split
        · exact Program.ensures_pure read
        · refine (computeRemaningTime_yields _ _ _).bind_ensures ?_
          exact Program.ensures_pure (read.trans (ticked _))
    · -- There is no data, and only the clock is read.
      refine (computeRemaningTime_yields _ _ _).bind_ensures ?_
      exact Program.ensures_pure (looked.trans (ticked _))
  · exact Program.ensures_pure (.refl ws)

/-- Waiting for the peer's Close frame passes nothing. -/
theorem closingWaitReply_ensures (side : Side) (timeout : ℚ) (ws : WebSocket) :
    (closingWaitReply side timeout).Ensures ws
      (fun _ ws' => ws.Idle ws') (fun e ws' => e.IsRecvError ∧ ws.Idle ws') := by
  refine (rcomTime_yields ws).bind_ensures ?_
  have ticked : ws.Idle (ws.pass 1 0 0) := WebSocket.Waited.idle ⟨1, 0, 0, rfl⟩
  -- Nothing was passed so far, and each round passes nothing more.
  refine Program.Ensures.iterate (fun _ ws' => ws.Idle ws') ticked ?_
  intro remainingTime ws' idle
  refine (closingWaitReplyRound_ensures side _ timeout remainingTime ws').mono ?_ ?_
  · rintro (_ | _) ws'' further
    · exact idle.trans further
    · exact idle.trans further
  · rintro e ws'' ⟨isRecvError, further⟩
    exact ⟨isRecvError, idle.trans further⟩

/-- The closing handshake closes the link, unless reading the reply fails. -/
theorem tryCloseWithHandshake_ensures (side : Side) (code : CloseCode) (ws : WebSocket) :
    (tryCloseWithHandshake side code).Ensures ws (fun _ ws' => Closing side code ws ws')
      (fun _ ws' => SaidClose side code ws ws' ∨ ¬ ws.SleepsSucceed) := by
  -- The Close frame is passed first, whether or not the socket takes it.
  refine (sendCloseMessage_ensures side code ws).seq (fun _ _ failed => .inr failed) ?_
  rintro ok mid ⟨sent, _⟩
  have said := sent.saidClose
  have closes {ws'} (idle : mid.Idle ws') : (closeConnection side).Ensures ws'
      (fun _ ws' => Closing side code ws ws')
      (fun _ ws' => SaidClose side code ws ws' ∨ ¬ ws.SleepsSucceed) :=
    (said.idle idle).closeConnection_ensures.mono (fun _ _ closing => closing)
      (fun _ _ failed => .inr failed)
  -- Only if it was taken is there a reply to wait for.
  cases ok with
  | true =>
    refine (closingWaitReply_ensures side 5 mid).seq ?_ (fun _ _ idle => closes idle)
    rintro _ _ ⟨_, idle⟩
    exact .inl (said.idle idle)
  | false => exact closes (.refl mid)

/-- However the closing handshake goes, the link ends closed after one Close frame at most. -/
theorem closeWithHandshake_ensures (side : Side) (code : CloseCode) {ws : WebSocket}
    (sleeps : ws.SleepsSucceed) :
    (closeWithHandshake side code).Ensures ws (fun _ ws' => Closing side code ws ws')
      (fun _ _ => False) := by
  -- The handler closes the connection if waiting for the reply has failed.
  refine ((tryCloseWithHandshake_ensures side code ws).mono (fun _ _ closing => closing)
    (fun _ _ failed => failed.resolve_right (not_not_intro sleeps))).attempt ?_
  intro e mid said
  exact said.closeConnection_ensures.mono (fun _ _ closing => closing)
    (fun _ _ failed => failed sleeps)

/-- The code that answers a Close frame: the one it carries, or the code for a missing one. -/
def answerCode (payload : Bytes) : CloseCode :=
  if payload.length = 2 then convertToUint16 payload else kCloseMissingCode

/-- A Close frame of the peer is answered by one Close frame, and the link is closed. -/
theorem answerCloseHandshake_ensures (side : Side) (ws : WebSocket) :
    (answerCloseHandshake side).Ensures ws
      (fun _ ws' => Closing side (answerCode ws.inputPayloadBuffer) ws ws' ∧
        ws'.frameHeader = ws.frameHeader)
      (fun _ _ => ¬ ws.SleepsSucceed) := by
  let heard : WebSocket := { ws with remoteCloseReason := answerCode ws.inputPayloadBuffer }
  have got : getCloseCode.Yields ws () heard := Program.yields_update _ ws
  -- The reason of the peer goes into a member that nothing here looks at.
  refine got.bind_ensures ((Program.yields_get heard).bind_ensures ?_)
  refine (sendCloseMessage_ensures side _ heard).seq (fun _ _ failed => failed) ?_
  rintro ok mid ⟨sent, _⟩
  have said : SaidClose side (answerCode ws.inputPayloadBuffer) ws mid := by
    have heardSaid := sent.saidClose
    -- What was passed is the same call, since the mask is that of the state before.
    refine ⟨?_, heardSaid.later⟩
    rw [heardSaid.passed]
    cases side <;> rfl
  have header : mid.frameHeader = ws.frameHeader := sent.kept.header
  -- Closing keeps the head that was read, by which the opcode is still known.
  refine (said.closeConnection_ensures.and (closeConnection_ensures side mid)).mono ?_ ?_
  · rintro _ _ ⟨closing, _, ⟨_, _, _, rfl⟩, rfl⟩
    exact ⟨closing, header⟩
  · exact fun _ _ failed => failed.1

end Rcom
