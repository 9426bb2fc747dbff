import Librcom.WebSocket.Deadlines
import Librcom.WebSocket.Reassembly
import Mathlib.Logic.Relation

/-! A Close frame is the last thing passed to a link, and it closes the link. -/

namespace Rcom

open Effects

/-- The call passes a Close frame. -/
def SocketCall.isClose : SocketCall → Bool
  | buffer (first :: _) => first &&& 0x0f == Opcode.kCloseOpcode.code
  | buffer [] => false
  | block _ => false

/-- A frame is told to be a Close frame by its opcode. -/
theorem isClose_head (mask : Option Mask) (opcode : Opcode) (length : Nat) (rest : Bytes) :
    (SocketCall.buffer (headBytes mask opcode length ++ rest)).isClose =
      decide (opcode = .kCloseOpcode) := by
  -- The first byte of the head has the opcode in its low bits, whatever is behind it.
  cases opcode <;> rfl

/-- The bytes of a frame are those of a Close frame if its opcode is the one for closing. -/
theorem isClose_frameCall (side : Side) (opcode : Opcode) (payload : Bytes) (ws : WebSocket) :
    (frameCall side opcode payload ws).isClose = decide (opcode = .kCloseOpcode) :=
  isClose_head _ _ _ _

namespace WebSocket

/-- What was passed between two states: either no Close frame, or one at the end that closed the link. -/
inductive Orderly (ws ws' : WebSocket) : Prop
  | data (calls : List SocketCall) (passed : ws'.socket.passed = ws.socket.passed ++ calls)
    (noClose : ∀ call ∈ calls, call.isClose = false)
    (refused : ws.socket.connected = false → calls = [] ∧ ws'.socket.connected = false)
    (later : ws.Later ws')
  | closed (calls : List SocketCall) (last : SocketCall)
    (passed : ws'.socket.passed = ws.socket.passed ++ (calls ++ [last]))
    (noClose : ∀ call ∈ calls, call.isClose = false) (close : last.isClose = true)
    (connected : ws.socket.connected = true) (disconnected : ws'.socket.connected = false)
    (later : ws.Later ws')

namespace Orderly

variable {first second third ws ws' : WebSocket}

/-- What is done in order has taken its time. -/
theorem later (orderly : ws.Orderly ws') : ws.Later ws' := by
  cases orderly with
  | data _ _ _ _ later => exact later
  | closed _ _ _ _ _ _ _ later => exact later

/-- After a Close frame the link is closed, so that nothing can be passed any more. -/
theorem trans (front : first.Orderly second) (back : second.Orderly third) :
    first.Orderly third := by
  -- What the first part passed decides what the second may pass.
  cases front with
  | data calls passed noClose refused later =>
    have quiet {calls'} (noClose' : ∀ call ∈ calls', call.isClose = false) :
        ∀ call ∈ calls ++ calls', call.isClose = false := by
      intro call member
      rcases List.mem_append.mp member with member | member
      · exact noClose call member
      · exact noClose' call member
    cases back with
    -- Neither part has a Close frame, and a closed link stays closed through both.
    | data calls' passed' noClose' refused' later' =>
      refine .data (calls ++ calls') (by simp [passed', passed]) (quiet noClose') ?_
        (later.trans later')
      intro disconnected
      obtain ⟨rfl, still⟩ := refused disconnected
      exact refused' still
    | closed calls' last passed' noClose' close connected disconnected later' =>
      -- If the link had been closed at first, the second part could not have passed a Close frame.
      have connected' : first.socket.connected = true := by
        by_contra refuses
        have still := (refused (by simpa using refuses)).2
        simp [still] at connected
      exact .closed (calls ++ calls') last (by simp [passed', passed]) (quiet noClose') close
        connected' disconnected (later.trans later')
  -- The link is closed, so that the second part has passed nothing.
  | closed calls last passed noClose close connected disconnected later =>
    cases back with
    | data calls' passed' noClose' refused' later' =>
      obtain ⟨rfl, still⟩ := refused' disconnected
      exact .closed calls last (by simp [passed', passed]) noClose close connected still
        (later.trans later')
    | closed _ _ _ _ _ connected' _ _ => simp [disconnected] at connected'

end Orderly

/-- What passes nothing is done in order. -/
theorem Idle.orderly {ws ws' : WebSocket} (idle : ws.Idle ws') : ws.Orderly ws' := by
  -- Nothing was passed, and the link is as it was.
  refine .data [] (by simp [idle.passed]) (by simp) (fun refuses => ⟨rfl, ?_⟩) idle.later
  rw [idle.connected, refuses]

/-- To do nothing is in order. -/
theorem Orderly.refl (ws : WebSocket) : ws.Orderly ws := (Idle.refl ws).orderly

/-- To close the connection is in order. -/
theorem closed_orderly (ws : WebSocket) : ws.Orderly ws.closed :=
  .data [] (by simp) (by simp) (fun _ => ⟨rfl, rfl⟩) (.of_linux rfl)

/-- Passing anything but a Close frame is in order. -/
theorem offered_orderly {call : SocketCall} (noClose : call.isClose = false) (ws : WebSocket) :
    ws.Orderly (ws.offered call) := by
  refine .data _ (ws.offered_passed call) ?_ ?_ (.of_linux rfl)
  · -- The one call is none with a Close frame, or there is no call at all.
    split
    · simpa using noClose
    · simp
  · intro refuses
    simp [refuses]

/-- To draw a mask passes nothing. -/
theorem drawn_idle (side : Side) (ws : WebSocket) : ws.Idle (ws.drawn side) :=
  ⟨by simp, by simp, ws.later_drawn side⟩

end WebSocket

/-- Sending anything but a Close frame is in order, whether it succeeds or not. -/
theorem socketSend_orderly (side : Side) {call : SocketCall} (noClose : call.isClose = false)
    (ws : WebSocket) :
    (socketSend side call).Ensures ws (fun _ ws' => ws.Orderly ws')
      (fun _ _ => ¬ ws.SleepsSucceed) := by
  have passed := ws.offered_orderly noClose
  refine (socketSend_ensures side call ws).mono ?_ (fun _ _ failed => failed.2)
  intro ok ws' sent
  -- Either the socket took the call, or the connection was closed over it.
  rcases sent with ⟨_, _, rfl⟩ | ⟨_, waited, passing, rfl⟩
  · exact passed
  · exact (passed.trans passing.idle.orderly).trans waited.closed_orderly

/-- A frame that is no Close frame is sent in order. -/
theorem FrameSent.orderly {side : Side} {opcode : Opcode} {payload : Bytes} {ws ws' : WebSocket}
    (sent : FrameSent side opcode payload ws ws') (other : opcode ≠ .kCloseOpcode) :
    ws.Orderly ws' := by
  have noClose : (frameCall side opcode payload ws).isClose = false := by
    rw [isClose_frameCall]
    exact decide_eq_false other
  -- Drawing a mask passes nothing, and the frame behind it is none of the closing.
  have passed := (ws.drawn_idle side).orderly.trans
    ((ws.drawn side).offered_orderly noClose)
  rcases sent with ⟨_, rfl⟩ | ⟨waited, passing, rfl⟩
  · exact passed
  · exact (passed.trans passing.idle.orderly).trans waited.closed_orderly

/-- Closing passes one Close frame to a link that is still open. -/
theorem Closing.orderly {side : Side} {code : CloseCode} {ws ws' : WebSocket}
    (closing : Closing side code ws ws') : ws.Orderly ws' := by
  have passed := closing.passed
  -- An open link is passed the frame, and a closed one is passed nothing.
  by_cases connected : ws.socket.connected = true
  · rw [if_pos connected] at passed
    exact .closed [] _ passed (by simp) (isClose_frameCall _ _ _ _) connected closing.closed
      closing.later
  · rw [if_neg connected] at passed
    exact .data [] passed (by simp) (fun _ => ⟨rfl, closing.closed⟩) closing.later

section Sending

variable (side : Side) (message : Bytes) (type : MessageType) (ws : WebSocket)

/-- A short message is sent in order, as one frame that is no Close frame. -/
theorem sendShortDataMessage_orderly :
    (sendShortDataMessage side message type).Ensures ws (fun _ ws' => ws.Orderly ws')
      (fun _ _ => ¬ ws.SleepsSucceed) := by
  -- No message type has the opcode of a Close frame.
  have noClose : (frameCall side type.opcode message ws).isClose = false := by
    rw [isClose_frameCall]
    cases type <;> rfl
  let turned : WebSocket :=
    { ws.drawn side with
      outputMessageBuffer := frameBytes (nextMask side ws) type.opcode message
      socket := { (ws.drawn side).socket with nodelay := true } }
  -- Filling the buffer and turning buffering off pass nothing.
  have made : (ws.drawn side).Idle turned := ⟨rfl, rfl, .of_linux rfl⟩
  have before := (ws.drawn_idle side).trans made
  refine (makeMessage_yields side type.opcode message ws).bind_ensures ?_
  refine (Program.yields_update _ _).bind_ensures ((Program.yields_update _ _).bind_ensures ?_)
  refine (Program.yields_get turned).bind_ensures ?_
  refine (socketSend_orderly side noClose turned).mono ?_ ?_
  · exact fun _ _ sent => before.orderly.trans sent
  · exact fun _ _ failed sleeps => failed (before.later.sleeps sleeps)

/-- The header of a long message is sent in order. -/
theorem sendLongMessageHeader_orderly {opcode : Opcode} (other : opcode ≠ .kCloseOpcode) :
    (sendLongMessageHeader side opcode message).Ensures ws (fun _ ws' => ws.Orderly ws')
      (fun _ _ => ¬ ws.SleepsSucceed) := by
  let output := [] ++ headBytes (nextMask side ws) opcode message.length
  -- The head names the opcode, which is another one.
  have noClose : (SocketCall.buffer output).isClose = false := by
    have head := isClose_head (nextMask side ws) opcode message.length []
    rw [List.append_nil] at head
    exact head.trans (decide_eq_false other)
  let made : WebSocket := { ws.drawn side with outputMessageBuffer := output }
  have before : ws.Idle made := (ws.drawn_idle side).trans ⟨rfl, rfl, .of_linux rfl⟩
  refine (outputAppendHeader_yields side [] opcode message ws).bind_ensures ?_
  refine (Program.yields_update _ _).bind_ensures ((Program.yields_get made).bind_ensures ?_)
  refine (socketSend_orderly side noClose made).mono ?_ ?_
  · exact fun _ _ sent => before.orderly.trans sent
  · exact fun _ _ failed sleeps => failed (before.later.sleeps sleeps)

/-- A block of a payload is no frame of its own. -/
theorem outputSendPayload_orderly :
    (outputSendPayload side message).Ensures ws (fun _ ws' => ws.Orderly ws')
      (fun _ _ => ¬ ws.SleepsSucceed) := by
  cases side with
  -- A block is passed as it is, or masked first.
  | server => exact socketSend_orderly .server rfl ws
  | client =>
    have masked : (ClientSideWebSocket.maskData message).Yields ws
        (applyMask ws.outputMask message) ws :=
      (Program.yields_get ws).bind (Program.yields_pure _ _)
    exact masked.bind_ensures (socketSend_orderly .client rfl ws)

/-- The payload of a long message is sent in order, block by block. -/
theorem sendLongMessagePayload_orderly :
    (sendLongMessagePayload side message).Ensures ws (fun _ ws' => ws.Orderly ws')
      (fun _ _ => ¬ ws.SleepsSucceed) := by
  -- Every block that was passed so far was in order.
  refine Program.Ensures.iterate (fun _ ws' => ws.Orderly ws') (.refl ws) ?_
  intro ⟨ok, sent⟩ ws' orderly
  unfold sendLongMessagePayloadRound
  dsimp only
  split
  · -- A block that failed leaves the sleeps as they were, so that the failure is the same.
    refine (outputSendPayload_orderly side _ ws').seq ?_ ?_
    · exact fun _ _ failed sleeps => failed (orderly.later.sleeps sleeps)
    · exact fun _ _ further => Program.ensures_pure (orderly.trans further)
  · exact Program.ensures_pure orderly

/-- A long message is sent in order, its header first. -/
theorem sendLongDataMessage_orderly :
    (sendLongDataMessage side message type).Ensures ws (fun _ ws' => ws.Orderly ws')
      (fun _ _ => ¬ ws.SleepsSucceed) := by
  have other : type.opcode ≠ .kCloseOpcode := by
    cases type <;> simp [MessageType.opcode]
  let turned : WebSocket := { ws with socket := { ws.socket with nodelay := false } }
  have turnedOn : turnBufferingOn.Yields ws () turned := Program.yields_update _ ws
  -- Turning buffering on passes nothing.
  have before : ws.Idle turned := ⟨rfl, rfl, .of_linux rfl⟩
  refine turnedOn.bind_ensures ((sendLongMessageHeader_orderly side message turned other).seq ?_ ?_)
  · exact fun _ _ failed sleeps => failed (before.later.sleeps sleeps)
  · intro ok ws' header
    have passed := before.orderly.trans header
    cases ok with
    | false => exact Program.ensures_pure passed
    -- The payload follows a head that was taken, and is none of the calls otherwise.
    | true =>
      refine (sendLongMessagePayload_orderly side message ws').mono ?_ ?_
      · exact fun _ _ payload => passed.trans payload
      · exact fun _ _ failed sleeps => failed (passed.later.sleeps sleeps)

/-- A send call passes no Close frame, and nothing at all to a closed link. -/
theorem send_orderly :
    (send side message type).Ensures ws (fun _ ws' => ws.Orderly ws')
      (fun _ _ => ¬ ws.SleepsSucceed) := by
  unfold send
  -- A closed link is passed nothing, and the size decides between the two ways.
  split
  · exact Program.ensures_pure (.refl ws)
  · split
    · exact sendShortDataMessage_orderly side message type ws
    · exact sendLongDataMessage_orderly side message type ws

end Sending

section Receiving

variable (side : Side)

/-- Only the answer to a Close frame is a Close frame, and then the link is closed. -/
theorem Handled.orderly {side : Side} {f : Frame} {ws ws' : WebSocket}
    (handled : Handled side f ws ws') : ws.Orderly ws' := by
  -- A data frame only changes the message.
  have data (taken : ws' = ws.dataHandled) : ws.Orderly ws' := by
    rw [taken]
    exact WebSocket.Idle.orderly ⟨rfl, rfl, .of_linux rfl⟩
  unfold Handled at handled
  cases opcode : f.opcode <;> rw [opcode] at handled
  -- The answer to a Close frame closes the link, and that to a ping is a pong.
  case kCloseOpcode => exact handled.1.orderly
  case kPingOpcode => exact FrameSent.orderly handled nofun
  case kPongOpcode =>
    rw [show ws' = ws from handled]
    exact .refl ws
  all_goals exact data handled.2

/-- A frame is handled in order, whatever it is. -/
theorem handleOneMessage_orderly (ws : WebSocket) :
    (handleOneMessage side).Ensures ws (fun _ ws' => ws.Orderly ws')
      (fun e ws' => (e.IsRecvError ∧ ws.Idle ws') ∨ ¬ ws.SleepsSucceed) := by
  refine (handleOneMessage_ensures side ws).mono ?_ (fun _ _ failed => failed)
  intro _ ws' ⟨_, f, rest, reads, _, _, handled⟩
  -- Reading passes nothing, so what was passed is the answer.
  have read : ws.Idle (ws.received f rest reads) := ⟨rfl, rfl, .of_linux rfl⟩
  exact read.orderly.trans handled.orderly

/-- A round of a receive call is in order, whatever it waits for. -/
theorem tryRecvRound_orderly (startTime timeout remainingTime : ℚ) (ws : WebSocket) :
    (tryRecvRound side startTime timeout remainingTime).Ensures ws (fun _ ws' => ws.Orderly ws')
      (fun e ws' => (e.IsRecvError ∧ ws.Idle ws') ∨ ¬ ws.SleepsSucceed) := by
  have looked : ws.Idle ws.looked := ⟨rfl, rfl, .of_linux rfl⟩
  have ticked (ws : WebSocket) : ws.Idle (ws.pass 1 0 0) := WebSocket.Waited.idle ⟨1, 0, 0, rfl⟩
  refine (tryRecvRound_ensures side startTime timeout
    (handleOneMessage_orderly side ws.looked)).mono ?_ ?_
  · intro turn ws' round
    -- Each kind of round is what was handled in it, with waits and readings of the clock around.
    cases round with
    | expired => exact .refl ws
    | nothing => exact (looked.trans (ticked _)).orderly
    | complete handled => exact looked.orderly.trans handled
    | closed handled => exact looked.orderly.trans handled
    | more _ handled => exact (looked.orderly.trans handled).trans (ticked _).orderly
  · intro e ws' failed
    -- An exception comes from the frame or from the wait, and nothing was passed for either.
    rcases failed with (⟨isRecvError, idle⟩ | failed) | ⟨isRecvError, rfl⟩
    · exact .inl ⟨isRecvError, looked.trans idle⟩
    · exact .inr failed
    · exact .inl ⟨isRecvError, looked⟩

/-- A receive call passes at most one Close frame, as the last thing, and then the link is closed. -/
theorem recv_orderly (buffer : Bytes) (timeout : ℚ) {ws : WebSocket} (sleeps : ws.SleepsSucceed) :
    (recv side buffer timeout).Ensures ws (fun _ ws' => ws.Orderly ws') (fun _ _ => False) := by
  have began : ws.Idle ws.started := ⟨rfl, rfl, 1, 0, rfl, rfl⟩
  have rounds : (Program.iterate (tryRecvRound side ws.linux.clock.head timeout) timeout).Ensures
      ws.started (fun _ ws' => ws.Orderly ws') (fun e ws' => e.IsRecvError ∧ ws.Orderly ws') := by
    -- The order is kept before each round, and rounds without failing sleeps keep it to the end.
    refine Program.Ensures.iterate (fun _ ws' => ws.Orderly ws') began.orderly ?_
    intro remainingTime ws' orderly
    refine (tryRecvRound_orderly side _ timeout remainingTime ws').mono ?_ ?_
    · rintro (_ | _) _ further
      · exact orderly.trans further
      · exact orderly.trans further
    · intro e ws'' failed
      obtain ⟨isRecvError, idle⟩ := failed.resolve_right
        (not_not_intro (orderly.later.sleeps sleeps))
      exact ⟨isRecvError, orderly.trans idle.orderly⟩
  -- An exception for the peer is followed by closing, which ends with the Close frame.
  refine (recv_ensures rounds ?_ buffer).mono (fun _ _ holds => holds.2) (fun _ _ failed => failed)
  intro e ws' ⟨isRecvError, orderly⟩
  cases e with
  | runtimeError _ => exact isRecvError.elim
  | recvError _ code =>
    refine (closeWithHandshake_ensures side code (orderly.later.sleeps sleeps)).bind ?_
    exact fun _ _ closing => Program.ensures_pure (orderly.trans closing.orderly)

end Receiving

/-- One call of an application on a WebSocket, however it ends. -/
inductive Call (side : Side) (ws ws' : WebSocket) : Prop
  | send (message : Bytes) (type : MessageType) :
    (send side message type).Leaves ws ws' → Call side ws ws'
  | recv (message : Bytes) (timeout : ℚ) : (recv side message timeout).Leaves ws ws' → Call side ws ws'
  | close (code : CloseCode) : (close side code).Leaves ws ws' → Call side ws ws'

/-- Any number of calls, in any order. -/
abbrev Calls (side : Side) : WebSocket → WebSocket → Prop := Relation.ReflTransGen (Call side)

/-- A call of the application is in order, where sleeps succeed. -/
theorem Call.orderly {side : Side} {ws ws' : WebSocket} (called : Call side ws ws')
    (sleeps : ws.SleepsSucceed) : ws.Orderly ws' := by
  -- Each call has its own lemma, and no sleep fails in any of them.
  cases called with
  | send message type left =>
    exact ((send_orderly side message type ws).mono (fun _ _ holds => holds)
      (fun _ _ failed => absurd sleeps failed)).leaves left
  | recv message timeout left =>
    exact ((recv_orderly side message timeout sleeps).mono (fun _ _ holds => holds)
      (fun _ _ failed => failed.elim)).leaves left
  | close code left =>
    exact ((closeWithHandshake_ensures side code sleeps).mono (fun _ _ holds => holds.orderly)
      (fun _ _ failed => failed.elim)).leaves left

/-- What each call keeps, any number of calls keeps. -/
theorem Calls.orderly {side : Side} {ws ws' : WebSocket} (calls : Calls side ws ws')
    (sleeps : ws.SleepsSucceed) : ws.Orderly ws' := by
  -- The calls so far are in order, and so is the last one from the state they led to.
  induction calls with
  | refl => exact .refl ws
  | tail _ last ih => exact ih.trans (last.orderly (ih.later.sleeps sleeps))

/-- In order and from the beginning, a Close frame is the last call, the only one, and closed the link. -/
theorem WebSocket.Orderly.close_last {start ws : WebSocket} (orderly : start.Orderly ws)
    (unused : start.socket.passed = []) {before after : List SocketCall} {call : SocketCall}
    (passed : ws.socket.passed = before ++ call :: after) (close : call.isClose = true) :
    after = [] ∧ (∀ earlier ∈ before, earlier.isClose = false) ∧
      ws.socket.connected = false := by
  cases orderly with
  -- No Close frame was passed, although one is among the calls.
  | data calls whole noClose _ _ =>
    rw [unused, List.nil_append, passed] at whole
    have none := noClose call (by simp [← whole])
    simp [none] at close
  | closed calls last whole noClose _ _ disconnected _ =>
    rw [unused, List.nil_append, passed] at whole
    -- A call behind the Close frame would put the Close frame among the calls before the last.
    rcases List.eq_nil_or_concat after with rfl | ⟨front, behind, rfl⟩
    · obtain ⟨rfl, -⟩ := List.append_inj' whole rfl
      exact ⟨rfl, noClose, disconnected⟩
    · have split : (before ++ call :: front) ++ [behind] = calls ++ [last] := by simpa using whole
      obtain ⟨rfl, -⟩ := List.append_inj' split rfl
      have none := noClose call (by simp)
      simp [none] at close

/-- From the beginning and in order, a link that was passed a Close frame is closed. -/
theorem WebSocket.Orderly.closed_of_close {start ws : WebSocket} (orderly : start.Orderly ws)
    (unused : start.socket.passed = [])
    (said : ∃ call ∈ ws.socket.passed, call.isClose = true) : ws.socket.connected = false := by
  obtain ⟨call, member, close⟩ := said
  -- The frame has a place among the calls, which is the last.
  obtain ⟨before, after, passed⟩ := List.append_of_mem member
  exact (orderly.close_last unused passed close).2.2

/--
Whatever an application calls on a new link, whatever the peer sends, and whatever fails: behind a
Close frame nothing is passed, and it is the only one. From any state reached, a receive call that
has answered or sent a Close frame leaves the link closed, and so does closing. Neither throws, and
closing ends if the clock advances.
-/
theorem close_frame_is_last {side : Side} {start ws : WebSocket} (calls : Calls side start ws)
    (unused : start.socket.passed = []) (sleeps : start.SleepsSucceed) :
    (∀ before call after, ws.socket.passed = before ++ call :: after → call.isClose = true →
      after = [] ∧ (∀ earlier ∈ before, earlier.isClose = false) ∧
        ws.socket.connected = false) ∧
    (∀ buffer timeout, (recv side buffer timeout).Ensures ws
      (fun _ ws' => (∃ call ∈ ws'.socket.passed, call.isClose = true) →
        ws'.socket.connected = false) (fun _ _ => False)) ∧
    ∀ code, (close side code).Ensures ws (fun _ ws' => ws'.socket.connected = false)
        (fun _ _ => False) ∧
      (start.ClockAdvances → (close side code).Halts ws) := by
  have orderly := calls.orderly sleeps
  have sleeps' := orderly.later.sleeps sleeps
  refine ⟨?_, ?_, ?_⟩
  · intro before call after passed close
    exact orderly.close_last unused passed close
  · -- Whatever was passed before the call and in it, a Close frame among it was the last.
    intro buffer timeout
    refine (recv_orderly side buffer timeout sleeps').mono ?_ (fun _ _ failed => failed)
    exact fun _ _ further said => (orderly.trans further).closed_of_close unused said
  · intro code
    constructor
    · exact (closeWithHandshake_ensures side code sleeps').mono (fun _ _ closing => closing.closed)
        (fun _ _ failed => failed)
    · exact fun advances => closeWithHandshake_halts side code sleeps' (advances.later orderly.later)

/-- A peer that closes is answered with a Close frame, behind which nothing is passed. -/
theorem close_frame_is_last_answered :
    let start := WebSocket.running (Frame.ofClient true .kCloseOpcode [3, 232] (by decide)).encode
    ∃ ws, Calls .server start ws ∧ ws.socket.passed = [.buffer [0x88, 2, 3, 232]] ∧
      ws.socket.connected = false := by
  -- The server answers a Close frame with one of its own, and passes no more.
  intro start
  let ws := (recv .server [] 5).after 9 start
  have answered : (recv .server [] 5).Yields start (.kRecvClosed, []) ws :=
    Program.yields_after (by decide +kernel)
  have calls : Calls .server start ws := .single (.recv [] 5 (.inl ⟨_, answered⟩))
  have passed : ws.socket.passed = [.buffer [0x88, 2, 3, 232]] := by decide +kernel
  have last := (close_frame_is_last calls rfl (fun _ => rfl)).1 [] _ [] passed (by decide)
  exact ⟨ws, calls, passed, last.2.2⟩

end Rcom
