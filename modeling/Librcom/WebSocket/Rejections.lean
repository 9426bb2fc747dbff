import Librcom.WebSocket.Sizes

/-! A frame that a receiver refuses closes the link, with the code of the first check it fails. -/

namespace Rcom

open Effects

/-- The part of a message that a data frame with the given opcode is added to. -/
def partOf (message : Bytes) : Opcode → Bytes
  | .kContinutationOpcode => message
  | _ => []

/-- A first frame begins a message, and any other goes on with one. -/
theorem WebSocket.partFor_eq (ws : WebSocket) (opcode : Opcode) :
    ws.partFor opcode = partOf ws.message opcode := by
  cases opcode <;> rfl

/--
Frames that a receive call takes one after the other without completing a message.

The flag says whether a message is in progress, and with it goes what the call has of the message:
both before the frames and after them.
-/
inductive Unfinished (side : Side) : Bool → Bytes → List Frame → Bool → Bytes → Prop
  | nothing (flag : Bool) (message : Bytes) : Unfinished side flag message [] flag message
  | fragment {flag flag' : Bool} {message message' : Bytes} {f : Frame} {frames : List Frame} :
    f.Accepted side → f.isData = true → f.fin = false →
    flag = decide (f.opcode = .kContinutationOpcode) →
    (partOf message f.opcode ++ f.payload).length ≤ kMaximumMessageLength →
    Unfinished side true (partOf message f.opcode ++ f.payload) frames flag' message' →
    Unfinished side flag message (f :: frames) flag' message'
  | control {flag flag' : Bool} {message message' : Bytes} {f : Frame} {frames : List Frame} :
    f.Accepted side → f.opcode = .kPingOpcode ∨ f.opcode = .kPongOpcode →
    Unfinished side flag message frames flag' message' →
    Unfinished side flag message (f :: frames) flag' message'

/-- The two fixed bytes of a frame and its length, whatever flags and opcode it has. -/
structure FrameStart where
  first : UInt8
  second : UInt8
  form : LengthForm
  length : Nat
  fits : form.Fits length
  short : (FrameHeader.ofBytes first second).length.toNat = form.shortLength length

namespace FrameStart

variable (h : FrameStart)

def header : FrameHeader := .ofBytes h.first h.second

/-- The fixed bytes and those of the length. -/
def bytes : Bytes := h.first :: h.second :: h.form.extendedLength h.length

/-- The mask flag is the one a receiver on the given side expects, and the opcode is known. -/
def Proper (side : Side) : Prop :=
  h.header.mask = (side == .server) ∧ ∃ opcode : Opcode, h.header.opcode = opcode.code

end FrameStart

/--
The bytes in front are a frame that a receiver refuses: how many reads it takes to tell, and the
code of the first check that the frame fails.

A server reads the four bytes behind the length as a mask, before it looks at the mask flag.
-/
inductive Refused (side : Side) (flag : Bool) (message : Bytes) : Bytes → Nat → CloseCode → Prop
  | improper (h : FrameStart) (rest : Bytes) : (side = .server → 4 ≤ rest.length) →
    ¬ h.Proper side → Refused side flag message (h.bytes ++ rest) (headReads side h.form)
      kCloseProtocolError
  | declared (h : FrameStart) (rest : Bytes) : (side = .server → 4 ≤ rest.length) →
    h.Proper side → kMaximumPayloadLength < h.length →
    Refused side flag message (h.bytes ++ rest) (headReads side h.form) kCloseTooBig
  | unexpected (f : Frame) (rest : Bytes) : f.Accepted side → f.isData = true →
    flag ≠ decide (f.opcode = .kContinutationOpcode) →
    Refused side flag message (f.encode ++ rest) (f.reads side) kCloseProtocolError
  | overlong (f : Frame) (rest : Bytes) : f.Accepted side → f.opcode = .kContinutationOpcode →
    flag = true → kMaximumMessageLength < message.length + f.payload.length →
    Refused side flag message (f.encode ++ rest) (f.reads side) kCloseTooBig

section Checks

variable (side : Side) (ws : WebSocket)

/-- A head with the wrong mask flag or an unknown opcode breaks the protocol. -/
theorem inputAssertValidMessage_improper
    (improper : ¬ (ws.frameHeader.mask = (side == .server) ∧
      ∃ opcode : Opcode, ws.frameHeader.opcode = opcode.code)) :
    ∃ what, (inputAssertValidMessage side).Throws ws (.recvError what kCloseProtocolError) ws := by
  -- The mask flag is looked at first, and a wrong opcode only counts if the flag is right.
  by_cases masked : ws.frameHeader.mask = (side == .server)
  · have unknown : ¬ ∃ opcode : Opcode, ws.frameHeader.opcode = opcode.code :=
      fun known => improper ⟨masked, known⟩
    have refused : inputAssertOpcode.Throws ws (.recvError "Invalid opcode" kCloseProtocolError)
        ws := by
      refine (Program.yields_get ws).bind_throws ?_
      simp only [if_neg (mt (Opcode.code_iff _).mp unknown)]
      exact Program.throws_raise _ _
    exact ⟨_, (inputAssertMaskFlag_yields ws masked).bind_throws (refused.bind _)⟩
  · -- Each side has its own message for the other one's mistake.
    cases side with
    | client =>
      have flag : ws.frameHeader.mask = true := Bool.eq_true_of_not_eq_false masked
      have refused : (inputAssertMaskFlag .client).Throws ws
          (.recvError "Server sent masked frame" kCloseProtocolError) ws := by
        refine (Program.yields_get ws).bind_throws ?_
        rw [flag]
        exact Program.throws_raise _ _
      exact ⟨_, refused.bind _⟩
    | server =>
      have flag : ws.frameHeader.mask = false := Bool.eq_false_of_not_eq_true masked
      have refused : (inputAssertMaskFlag .server).Throws ws
          (.recvError "Client sent unmasked frame" kCloseProtocolError) ws := by
        refine (Program.yields_get ws).bind_throws ?_
        rw [flag]
        exact Program.throws_raise _ _
      exact ⟨_, refused.bind _⟩

/-- A proper head that declares too much is too big. -/
theorem inputAssertValidMessage_declared (masked : ws.frameHeader.mask = (side == .server))
    (known : ∃ opcode : Opcode, ws.frameHeader.opcode = opcode.code)
    (large : kMaximumPayloadLength < ws.inputMessageLength) :
    (inputAssertValidMessage side).Throws ws (.recvError "Message too large" kCloseTooBig) ws := by
  have refused : inputAssertPayloadLength.Throws ws (.recvError "Message too large" kCloseTooBig)
      ws := by
    -- The flag and the opcode have passed, and the length is the last that is looked at.
    refine (Program.yields_get ws).bind_throws ?_
    rw [if_pos large]
    exact Program.throws_raise _ _
  exact (inputAssertMaskFlag_yields ws masked).bind_throws
    ((inputAssertOpcode_yields ws known).bind_throws refused)

/-- A receiver reads the start of any frame, and a server a mask behind it. -/
theorem inputReadHeader_start (h : FrameStart) (connected : ws.socket.connected = true)
    (next : ws.NextReads (headReads side h.form)) {rest : Bytes}
    (behind : side = .server → 4 ≤ rest.length) (incoming : ws.socket.incoming = h.bytes ++ rest) :
    ∃ mask rest', (inputReadHeader side).Yields ws ()
      (ws.headRead h.header h.length mask rest' (headReads side h.form)) := by
  -- A client has no mask to read, and a server reads one even from a frame that declares none.
  cases side with
  | client =>
    exact ⟨ws.inputMask, rest, inputReadHeader_yields ws .client connected h.fits h.short
      (fun _ => rfl) next incoming⟩
  | server =>
    -- The four bytes behind the length are taken for a mask, whatever they are.
    have size : (rest.take 4).length = 4 := by
      rw [List.length_take]
      exact Nat.min_eq_left (behind rfl)
    refine ⟨maskOfBytes (rest.take 4), rest.drop 4, inputReadHeader_yields ws .server connected
      h.fits h.short nofun next ?_⟩
    show _ = h.first :: h.second :: (h.form.extendedLength h.length ++
      ((maskOfBytes (rest.take 4)).toList ++ rest.drop 4))
    rw [toList_maskOfBytes size, List.take_append_drop, incoming]
    rfl

end Checks

section Refusing

variable {side : Side}

/-- A frame that is refused is not added to the message, and nothing is passed for it. -/
theorem handleOneMessage_refused (ws : WebSocket) {bytes : Bytes} {reads : Nat} {code : CloseCode}
    (refused : Refused side ws.isContinuation ws.message bytes reads code)
    (connected : ws.socket.connected = true) (next : ws.NextReads reads)
    (incoming : ws.socket.incoming = bytes) :
    ∃ what ws', (handleOneMessage side).Throws ws (.recvError what code) ws' ∧
      ws'.message = ws.message ∧ ws.Idle ws' := by
  cases refused with
  -- Both bad heads are refused before any of the payload is read.
  | improper h rest behind improper =>
    obtain ⟨mask, rest', read⟩ := inputReadHeader_start side ws h connected next behind incoming
    let read' := ws.headRead h.header h.length mask rest' (headReads side h.form)
    obtain ⟨what, threw⟩ := inputAssertValidMessage_improper side read' improper
    have failed : (readMessage side).Throws ws (.recvError what kCloseProtocolError) read' :=
      read.bind_throws (threw.bind _)
    exact ⟨what, read', failed.bind _, rfl, WebSocket.Reading.idle rfl⟩
  | declared h rest behind proper large =>
    obtain ⟨mask, rest', read⟩ := inputReadHeader_start side ws h connected next behind incoming
    let read' := ws.headRead h.header h.length mask rest' (headReads side h.form)
    have threw := inputAssertValidMessage_declared side read' proper.1 proper.2 large
    have failed : (readMessage side).Throws ws (.recvError "Message too large" kCloseTooBig) read' :=
      read.bind_throws (threw.bind _)
    exact ⟨_, read', failed.bind _, rfl, WebSocket.Reading.idle rfl⟩
  | unexpected f rest taken data flag =>
    -- A data frame is read whole, and then refused for what it would do to the message.
    have read := readMessage_takes ws connected taken next incoming
    let read' := ws.received f rest (f.reads side)
    have mismatch : read'.isContinuation ≠
        decide (read'.frameHeader.opcode = Opcode.kContinutationOpcode.code) := by
      show ws.isContinuation ≠ decide (f.opcode.code = Opcode.kContinutationOpcode.code)
      simpa only [Opcode.code_inj] using flag
    have threw := handleOneMessage_data_throws side ws read data
      (handleDataPayload_discontinued mismatch)
    exact ⟨_, read', threw, rfl, WebSocket.Reading.idle rfl⟩
  | overlong f rest taken opcode flag long =>
    have read := readMessage_takes ws connected taken next incoming
    let read' := ws.received f rest (f.reads side)
    have data : f.isData = true := Frame.isData_of_mem (by simp [opcode])
    have code : read'.frameHeader.opcode = Opcode.kContinutationOpcode.code :=
      congrArg Opcode.code opcode
    -- The flag agrees with the opcode, so that the length is what is looked at next.
    have expected : read'.isContinuation =
        decide (read'.frameHeader.opcode = Opcode.kContinutationOpcode.code) := by
      rw [code]
      exact flag
    have long' : kMaximumMessageLength < read'.inputPayloadBuffer.length +
        if read'.frameHeader.opcode = Opcode.kContinutationOpcode.code then read'.message.length
          else 0 := by
      rw [if_pos code, Nat.add_comm]
      exact long
    have threw := handleOneMessage_data_throws side ws read data
      (handleDataPayload_overlong expected long')
    exact ⟨_, read', threw, rfl, WebSocket.Reading.idle rfl⟩

/-- The rounds of a receive call take the frames before the refused one, and fail at that one. -/
theorem tryRecvRounds_refused {startTime timeout : ℚ} {flag flag' : Bool} {message message' : Bytes}
    {frames : List Frame} {bytes : Bytes} {reads : Nat} {code : CloseCode}
    (unfinished : Unfinished side flag message frames flag' message')
    (refused : Refused side flag' message' bytes reads code) :
    ∀ {ws : WebSocket} {remainingTime : ℚ},
      GoesWell ws startTime timeout (frames.length + 1) (readsOf side frames + reads)
        (pingsOf frames).length →
      0 ≤ remainingTime → ws.socket.incoming = encodeAll frames ++ bytes →
      ws.isContinuation = flag → ws.message = message →
      ∃ what ws' calls, (Program.iterate (tryRecvRound side startTime timeout) remainingTime).Throws
          ws (.recvError what code) ws' ∧ ws'.message = message' ∧
        ws'.socket.passed = ws.socket.passed ++ calls ∧ Answers side calls (pingsOf frames) ∧
        ws'.socket.connected = true ∧ ws.Later ws' := by
  -- Each frame in front takes one round, and the refused one takes the last.
  induction unfinished with
  | nothing flag message =>
    rintro ws remainingTime well left incoming rfl rfl
    -- Without frames in front, the first round comes to the frame that is refused.
    have next : ws.looked.NextReads reads := well.reads.mono (Nat.le_add_left _ _)
    obtain ⟨what, ws', threw, same, idle⟩ := handleOneMessage_refused ws.looked refused
      well.connected next incoming
    have round := tryRecvRound_throws side startTime timeout left (well.waits 0 (by simp)) threw
    refine ⟨what, ws', [], round.iterate, same, ?_, .nil, ?_, ?_⟩
    · rw [idle.passed, List.append_nil]
      rfl
    · exact idle.connected.trans well.connected
    · exact idle.later
  | @fragment flag flag' message message' f frames taken data fin continues bounded more ih =>
    rintro ws remainingTime well left incoming rfl rfl
    -- A data frame in front is added to the message, which goes on with it.
    rw [encodeAll_cons, List.append_assoc] at incoming
    rw [readsOf_cons, Nat.add_assoc, pingsOf_cons_other (Frame.not_ping_of_data data)] at well
    rw [← WebSocket.partFor_eq] at bounded ih
    obtain ⟨ws', handled, header, added, -, isContinuation, passed, incoming', linux, well'⟩ :=
      dataRound_yields well taken data incoming continues bounded
    -- A fragment completes nothing, and there is still time for another round.
    have incomplete : completes ws'.frameHeader = false := by
      rw [header, completes_header, data, fin]
      rfl
    have remaining : 0 ≤ timeout - (ws'.linux.clock.head - startTime) := by
      rw [linux]
      exact sub_nonneg.mpr (well.inTime 0 (by simp))
    have round := tryRecvRound_next side startTime timeout left
      (well.waits 0 (by simp)) handled incomplete well'.connected
    rw [fin] at isContinuation
    obtain ⟨what, ws'', calls, threw, same, passed', answers, connected, later⟩ :=
      ih refused well' remaining incoming' isContinuation added
    refine ⟨what, ws'', calls, Program.Throws.iterate_next round threw, same, ?_, ?_, connected, ?_⟩
    · rw [passed', WebSocket.pass_passed, passed]
    · rwa [pingsOf_cons_other (Frame.not_ping_of_data data)]
    · have step : ws.Later (ws'.pass 1 0 0) :=
        (WebSocket.Later.of_linux linux).trans (WebSocket.later_pass ws' 1 0 0)
      exact step.trans later
  | @control flag flag' message message' f frames taken control more ih =>
    rintro ws remainingTime well left incoming rfl rfl
    -- A control frame in front leaves the message, and a ping among them is answered.
    have notData : f.isData = false := by
      rcases control with opcode | opcode <;> simp [Frame.isData, opcode]
    rw [encodeAll_cons, List.append_assoc] at incoming
    rw [readsOf_cons, Nat.add_assoc, pingsOf_cons, List.length_append] at well
    obtain ⟨ws', calls, handled, header, kept, -, isContinuation, connected, passed, answers,
      incoming', clock, step, well'⟩ := controlRound_yields well taken control incoming
    have incomplete : completes ws'.frameHeader = false := by
      rw [header, completes_header, notData]
      rfl
    have remaining : 0 ≤ timeout - (ws'.linux.clock.head - startTime) := by
      rw [clock]
      exact sub_nonneg.mpr (well.inTime 0 (by simp))
    have round := tryRecvRound_next side startTime timeout left
      (well.waits 0 (by simp)) handled incomplete connected
    obtain ⟨what, ws'', calls', threw, same, passed', answers', connected', later⟩ :=
      -- The calls of this round are the answer to this frame, and those behind are the answers to
      -- the rest.
      ih refused well' remaining incoming' isContinuation kept
    refine ⟨what, ws'', calls ++ calls', Program.Throws.iterate_next round threw, same, ?_, ?_,
      connected', ?_⟩
    · rw [passed', WebSocket.pass_passed, passed, List.append_assoc]
    · rw [pingsOf_cons]
      exact List.rel_append answers answers'
    · exact step.trans ((WebSocket.later_pass ws' 1 0 0).trans later)

end Refusing

/-- A Close frame that carries a code, as a sender makes it. -/
def Frame.close (mask : Option Mask) (code : CloseCode) : Frame :=
  .unfragmented mask .kCloseOpcode (Endian.toBigEndian 2 code.toNat)
    (by rw [Endian.toBigEndian_length]; omega)

/-- The bytes of a Close frame are those of its encoding. -/
theorem closeCall_eq (side : Side) (code : CloseCode) (ws : WebSocket) :
    closeCall side code ws = .buffer (Frame.close (nextMask side ws) code).encode := by
  have size := Endian.toBigEndian_length 2 code.toNat
  -- A code of two bytes is a short payload.
  rw [closeCall, frameCall, frameBytes_eq _ _ (by omega) (by omega)]
  rfl

/-- After an exception for the peer, the link is closed with the code of the exception. -/
theorem recvHandler_meets (side : Side) (what : String) (code : CloseCode) {ws : WebSocket}
    (connected : ws.socket.connected = true) (sleeps : ws.SleepsSucceed) :
    (recvHandler side (.recvError what code)).Meets ws.ClockAdvances ws
      (fun status ws' => status = .kRecvError ∧ ws'.message = ws.message ∧
        ws'.socket.passed = ws.socket.passed ++ [closeCall side code ws] ∧
        ws'.socket.connected = false)
      (fun _ _ => False) where
  toEnsures := by
    -- Closing passes one frame on a link that is open, and leaves the message.
    have closed := (closeWithHandshake_ensures side code sleeps).and
      (closeWithHandshake_message side code ws)
    refine closed.seq (fun _ _ failed => failed.1) ?_
    rintro - ws' ⟨closing, message⟩
    have passed := closing.passed
    rw [connected, if_pos rfl] at passed
    exact Program.ensures_pure ⟨rfl, message, passed, closing.closed⟩
  halts := fun advances => recvHandler_halts side (.recvError what code) sleeps advances

/--
The receive call that comes to a frame it refuses returns an error, with what the frames before it
brought of the message. It has answered their pings, and closes the link with one Close frame that
carries the code of the first check the refused frame fails. It ends if the clock advances.
-/
theorem refused_frame_closes_link {side : Side} {ws : WebSocket} {flag : Bool} {message : Bytes}
    {frames : List Frame} (unfinished : Unfinished side ws.isContinuation [] frames flag message)
    {bytes : Bytes} {reads : Nat} {code : CloseCode}
    (refused : Refused side flag message bytes reads code)
    (incoming : ws.socket.incoming = encodeAll frames ++ bytes)
    (connected : ws.socket.connected = true)
    (succeed : ∀ i < readsOf side frames + reads, ws.socket.readFaults.get i = none)
    (waits : ∀ i ≤ frames.length, ws.socket.waits.get i = .kWaitOK)
    (sends : ∀ i < (pingsOf frames).length, ws.socket.sends.get i = true)
    (sleeps : ws.SleepsSucceed) {timeout : ℚ}
    (inTime : ∀ i ≤ frames.length, ws.linux.clock.get i - ws.linux.clock.get 0 ≤ timeout)
    (buffer : Bytes) :
    ∃ pongs mask, Answers side pongs (pingsOf frames) ∧ mask.isSome = (side == .client) ∧
      (recv side buffer timeout).Meets ws.ClockAdvances ws
        (fun result ws' => result = (.kRecvError, message) ∧
          ws'.socket.passed = ws.socket.passed ++ (pongs ++ [.buffer (Frame.close mask code).encode]) ∧
          ws'.socket.connected = false)
        (fun _ _ => False) := by
  -- The call itself reads the clock once, so its rounds see the readings after the first.
  have well : GoesWell ws.started ws.linux.clock.head timeout (frames.length + 1)
      (readsOf side frames + reads) (pingsOf frames).length :=
    { connected := connected
      reads := succeed
      waits := fun i small => waits i (by omega)
      sends := sends
      inTime := fun i small => inTime (i + 1) (by omega) }
  have left : 0 ≤ timeout := by
    have first := inTime 0 (Nat.zero_le _)
    rwa [sub_self] at first
  obtain ⟨what, ws', pongs, threw, same, passed, answers, connected', later⟩ :=
    tryRecvRounds_refused unfinished refused well left incoming rfl rfl
  have later' : ws.Later ws' := (ws.later_pass 1 0 0).trans later
  have handled := recvHandler_meets side what code connected' (later'.sleeps sleeps)
  refine ⟨pongs, nextMask side ws', answers, by cases side <;> rfl, ?_, ?_⟩
  · -- The rounds end in the exception, so that the handler decides the result.
    have rounds : (Program.iterate (tryRecvRound side ws.linux.clock.head timeout) timeout).Ensures
        ws.started (fun status ws'' => status = .kRecvError ∧ ws''.message = ws'.message ∧
          ws''.socket.passed = ws'.socket.passed ++ [closeCall side code ws'] ∧
          ws''.socket.connected = false)
        (fun e ws'' => e = .recvError what code ∧ ws'' = ws') := threw.ensures ⟨rfl, rfl⟩
    refine (recv_ensures rounds ?_ buffer).mono ?_ (fun _ _ failed => failed)
    · rintro _ _ ⟨rfl, rfl⟩
      exact handled.toEnsures
    · -- The message is what the frames in front have brought, and closing has not changed it.
      rintro ⟨status, filled⟩ ws'' ⟨result, rfl, message', passed', closed⟩
      refine ⟨?_, ?_, closed⟩
      · rw [show filled = ws''.message from result, message', same]
      · rw [passed', passed, closeCall_eq, List.append_assoc]
        rfl
  · intro advances
    -- Nothing else keeps the call from its end than the clock that the handler waits by.
    have rounds : (Program.iterate (tryRecvRound side ws.linux.clock.head timeout) timeout).Achieves
        ws.started (fun _ _ => True) (fun e ws'' => e = .recvError what code ∧ ws'' = ws') :=
      threw.achieves ⟨rfl, rfl⟩
    refine recv_halts rounds ?_ buffer
    rintro _ _ ⟨rfl, rfl⟩
    exact handled.halts (advances.later later')

/-- A text frame that begins a message, a ping, and a text frame where the message should go on. -/
theorem refused_frame_closes_link_pinged :
    let frames := [Frame.ofClient false .kTextOpcode [97] (by decide),
      Frame.ofClient true .kPingOpcode [112] (by decide)]
    let refused := Frame.ofClient true .kTextOpcode [98] (by decide)
    let start := WebSocket.running (encodeAll frames ++ (refused.encode ++ [255]))
    ∃ pongs mask, Answers .server pongs (pingsOf frames) ∧ mask.isSome = (Side.server == .client) ∧
      (recv .server [7] 5).Meets start.ClockAdvances start
        (fun result ws' => result = (.kRecvError, [97]) ∧
          ws'.socket.passed = [] ++ (pongs ++ [.buffer (Frame.close mask kCloseProtocolError).encode]) ∧
          ws'.socket.connected = false)
        (fun _ _ => False) := by
  -- The text frame in front begins a message, so that another first frame is unexpected.
  refine refused_frame_closes_link
    (.fragment (Frame.ofClient_accepted _ _ _) rfl rfl rfl (by decide)
      (.control (Frame.ofClient_accepted _ _ _) (.inl rfl) (.nothing _ _)))
    (.unexpected (Frame.ofClient true .kTextOpcode [98] (by decide)) [255]
      (Frame.ofClient_accepted _ _ _) rfl (by decide))
    rfl rfl (fun _ _ => rfl) (fun _ _ => rfl) (fun _ _ => rfl) (fun _ => rfl) ?_ [7]
  intro i small
  have few : (i : ℚ) ≤ 2 := by exact_mod_cast small
  show (i : ℚ) - ((0 : Nat) : ℚ) ≤ 5
  linarith

end Rcom
