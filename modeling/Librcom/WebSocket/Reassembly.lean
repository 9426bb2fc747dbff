import Librcom.WebSocket.RecvLaws

/-! A receive call puts the fragments of a message together, whatever is in between them. -/

namespace Rcom

open Effects

/-- The status of a message of the given type. -/
def MessageType.status : MessageType → RecvStatus
  | .kTextMessage => .kRecvText
  | .kBinaryMessage => .kRecvBinary

/-- The bytes of frames that follow each other on the wire. -/
def encodeAll (frames : List Frame) : Bytes := (frames.map Frame.encode).flatten

/-- The data that frames carry together. -/
def dataOf (frames : List Frame) : Bytes :=
  ((frames.filter Frame.isData).map Frame.payload).flatten

/-- The pings among frames. -/
def pingsOf (frames : List Frame) : List Frame :=
  frames.filter fun f => f.opcode == .kPingOpcode

/--
The frames of one message, from the first frame that a call reads to the last.

The first data frame has the expected opcode, every other one continues it, only the last is
final, and pings and pongs may come before it.
-/
inductive MessageFrames (side : Side) : Opcode → List Frame → Prop
  | last {expected : Opcode} {f : Frame} : f.Accepted side → f.opcode = expected → f.fin = true →
    MessageFrames side expected [f]
  | fragment {expected : Opcode} {f : Frame} {frames : List Frame} : f.Accepted side →
    f.opcode = expected → f.fin = false → MessageFrames side .kContinutationOpcode frames →
    MessageFrames side expected (f :: frames)
  | control {expected : Opcode} {f : Frame} {frames : List Frame} : f.Accepted side →
    f.opcode = .kPingOpcode ∨ f.opcode = .kPongOpcode → f.payload.length ≤ 125 →
    MessageFrames side expected frames → MessageFrames side expected (f :: frames)

/-- The calls are the pongs to the pings, one for each and in the same order. -/
def Pongs (side : Side) : List SocketCall → List Frame → Prop :=
  List.Forall₂ fun call ping => ∃ mask small, mask.isSome = (side == .client) ∧
    call = .buffer (Frame.unfragmented mask .kPongOpcode ping.payload small).encode

/-- The calls answer the pings, one for each and in the same order, whatever the payloads are. -/
def Answers (side : Side) : List SocketCall → List Frame → Prop :=
  List.Forall₂ fun call ping => ∃ mask, mask.isSome = (side == .client) ∧
    call = .buffer (frameBytes mask .kPongOpcode ping.payload)

/-- The answer to a ping with a payload of a control frame is a whole pong. -/
theorem Answers.pongs {side : Side} {calls : List SocketCall} {pings : List Frame}
    (answers : Answers side calls pings) (short : ∀ ping ∈ pings, ping.payload.length ≤ 125) :
    Pongs side calls pings := by
  -- Calls and pings are matched one by one, in their order.
  induction answers with
  | nil => exact .nil
  | @cons call ping calls pings answer _ ih =>
    obtain ⟨mask, present, rfl⟩ := answer
    have bounded := short ping (by simp)
    have small : ping.payload.length < 2 ^ 64 := by omega
    refine .cons ⟨mask, small, present, ?_⟩ (ih fun ping member => short ping (by simp [member]))
    -- With a payload this short the bytes that were passed are those of a whole frame.
    rw [frameBytes_eq _ _ small (by omega)]

/--
All goes well for the given number of frames: waits find data in time.

So do the given numbers of reads and of sends.
-/
structure GoesWell (ws : WebSocket) (startTime timeout : ℚ) (frames reads sends : Nat) : Prop where
  connected : ws.socket.connected = true
  reads : ws.NextReads reads
  waits : ∀ i < frames, ws.socket.waits.get i = .kWaitOK
  sends : ∀ i < sends, ws.socket.sends.get i = true
  inTime : ∀ i, i + 1 < frames → ws.linux.clock.get i - startTime ≤ timeout

namespace GoesWell

variable {ws ws' : WebSocket} {startTime timeout : ℚ} {frames reads sends taken sent : Nat}

/-- What goes well for several frames goes well for those after the first. -/
theorem next (well : GoesWell ws startTime timeout (frames + 1) (taken + reads) (sent + sends))
    (connected : ws'.socket.connected = true)
    (faults : ws'.socket.readFaults = ws.socket.readFaults.drop taken)
    (found : ws'.socket.waits = ws.socket.waits.tail)
    (passed : ws'.socket.sends = ws.socket.sends.drop sent)
    (clock : ws'.linux.clock = ws.linux.clock.tail) :
    GoesWell ws' startTime timeout frames reads sends where
  connected := connected
  reads i small := by
    -- What is needed of the streams behind the first frame is a part of what was needed before it.
    rw [faults]
    simpa using well.reads (taken + i) (by omega)
  waits i small := by
    rw [found]
    exact well.waits (i + 1) (by omega)
  sends i small := by
    rw [passed]
    simpa using well.sends (sent + i) (by omega)
  inTime i small := by
    rw [clock]
    exact well.inTime (i + 1) (by omega)

end GoesWell

/-- Whether the message is text, once a data frame with the given opcode was added. -/
def WebSocket.textWith (ws : WebSocket) : Opcode → Bool
  | .kTextOpcode => true
  | .kBinaryOpcode => false
  | _ => ws.isText

/-- The part of the message that a data frame with the given opcode is added to. -/
def WebSocket.partFor (ws : WebSocket) : Opcode → Bytes
  | .kContinutationOpcode => ws.message
  | _ => []

section Data

variable (ws : WebSocket) {f : Frame} (rest : Bytes) (reads : Nat)

/-- The first frame of a message says if it is a text. -/
theorem dataHandled_isText :
    (ws.received f rest reads).dataHandled.isText = ws.textWith f.opcode := by
  have code : (ws.received f rest reads).frameHeader.opcode = f.opcode.code := rfl
  -- A continuation keeps the type, and the two other data opcodes set it.
  unfold WebSocket.dataHandled
  cases opcode : f.opcode <;> simp [code, opcode, WebSocket.textWith] <;> rfl

/-- The payload of a frame is put behind those before it. -/
theorem dataHandled_message (data : f.isData = true) :
    (ws.received f rest reads).dataHandled.message = ws.partFor f.opcode ++ f.payload := by
  have code : (ws.received f rest reads).frameHeader.opcode = f.opcode.code := rfl
  have payload : (ws.received f rest reads).inputPayloadBuffer = f.payload := rfl
  unfold Frame.isData at data
  unfold WebSocket.dataHandled
  -- Only the data opcodes are left, and each says what the message begins with.
  cases opcode : f.opcode <;>
    simp [opcode] at data <;> simp [code, opcode, payload, WebSocket.partFor]
  rfl

/-- A message goes on until its final frame. -/
theorem dataHandled_isContinuation :
    (ws.received f rest reads).dataHandled.isContinuation = !f.fin := rfl

/-- A data frame fits when the flag says whether it has to continue, and the sum is bounded. -/
theorem takesData_received : (ws.received f rest reads).TakesData ↔
    ws.isContinuation = decide (f.opcode = .kContinutationOpcode) ∧
      (ws.partFor f.opcode ++ f.payload).length ≤ kMaximumMessageLength := by
  -- The opcode in the header is the code of the frame's own.
  have code : ((ws.received f rest reads).frameHeader.opcode = Opcode.kContinutationOpcode.code) =
      (f.opcode = .kContinutationOpcode) := propext Opcode.code_inj
  have payload : (ws.received f rest reads).inputPayloadBuffer = f.payload := rfl
  -- What a frame continues is counted, and for any other frame there is nothing to count.
  have sum : f.payload.length +
      (if f.opcode = .kContinutationOpcode then (ws.received f rest reads).message.length else 0) =
        (ws.partFor f.opcode ++ f.payload).length := by
    rw [List.length_append, Nat.add_comm]
    cases f.opcode <;> simp [WebSocket.partFor]
    rfl
  constructor
  · intro takes
    have flag := takes.continuation
    have bounded := takes.bounded
    simp only [code, payload] at flag bounded
    rw [sum] at bounded
    exact ⟨flag, bounded⟩
  · rintro ⟨flag, bounded⟩
    refine ⟨?_, ?_⟩ <;> simp only [code, payload]
    · exact flag
    · rwa [sum]

end Data

/-- The first frame is encoded before the others. -/
theorem encodeAll_cons (f : Frame) (frames : List Frame) :
    encodeAll (f :: frames) = f.encode ++ encodeAll frames := by
  simp [encodeAll]

/-- The payload of a data frame belongs to the message. -/
theorem dataOf_cons_data {f : Frame} (data : f.isData = true) (frames : List Frame) :
    dataOf (f :: frames) = f.payload ++ dataOf frames := by
  simp [dataOf, data]

/-- The payload of a control frame does not. -/
theorem dataOf_cons_control {f : Frame} (control : f.isData = false) (frames : List Frame) :
    dataOf (f :: frames) = dataOf frames := by
  simp [dataOf, control]

/-- A message has a frame at least. -/
theorem MessageFrames.length_pos {side : Side} {expected : Opcode} {frames : List Frame}
    (shape : MessageFrames side expected frames) : 0 < frames.length := by
  cases shape <;> simp

/-- The frames of a message are data frames. -/
theorem Frame.isData_of_mem {f : Frame}
    (opcode : f.opcode ∈ [Opcode.kTextOpcode, .kBinaryOpcode, .kContinutationOpcode]) :
    f.isData = true := by
  unfold Frame.isData
  cases code : f.opcode <;> simp [code] at opcode ⊢

/-- A round adds a data frame to the message in progress. -/
theorem dataRound_yields {side : Side} {ws : WebSocket} {startTime timeout : ℚ}
    {left reads sends : Nat} {f : Frame}
    (well : GoesWell ws startTime timeout (left + 1) (f.reads side + reads) sends)
    (taken : f.Accepted side) (data : f.isData = true) {rest : Bytes}
    (incoming : ws.socket.incoming = f.encode ++ rest)
    (flag : ws.isContinuation = decide (f.opcode = .kContinutationOpcode))
    (bounded : (ws.partFor f.opcode ++ f.payload).length ≤ kMaximumMessageLength) :
    ∃ ws', (handleOneMessage side).Yields ws.looked () ws' ∧ ws'.frameHeader = f.header ∧
      ws'.message = ws.partFor f.opcode ++ f.payload ∧ ws'.isText = ws.textWith f.opcode ∧
      ws'.isContinuation = !f.fin ∧ ws'.socket.passed = ws.socket.passed ∧
      ws'.socket.incoming = rest ∧ ws'.linux = ws.linux ∧
      GoesWell (ws'.pass 1 0 0) startTime timeout left reads sends := by
  -- The wait finds data, the frame is read, and its payload is added.
  have read := readMessage_takes ws.looked well.connected taken
    (well.reads.mono (Nat.le_add_right _ reads)) incoming
  have handled := handleOneMessage_data side ws.looked read data
    ((takesData_received ws.looked rest (f.reads side)).mpr ⟨flag, bounded⟩)
  have well' : GoesWell ws startTime timeout (left + 1) (f.reads side + reads) (0 + sends) := by
    -- No send is made in this round.
    rwa [Nat.zero_add]
  refine ⟨_, handled, rfl, dataHandled_message ws.looked rest _ data,
    dataHandled_isText ws.looked rest _, rfl, rfl, rfl, rfl, ?_⟩
  refine well'.next ?_ rfl rfl rfl rfl
  exact well.connected

/-- A ping is among the pings. -/
theorem pingsOf_cons_ping {f : Frame} (ping : f.opcode = .kPingOpcode) (frames : List Frame) :
    pingsOf (f :: frames) = f :: pingsOf frames := by
  simp [pingsOf, ping]

/-- Another frame is not. -/
theorem pingsOf_cons_other {f : Frame} (other : f.opcode ≠ .kPingOpcode) (frames : List Frame) :
    pingsOf (f :: frames) = pingsOf frames := by
  simp [pingsOf, other]

/-- The pings are those of the first frame and those of the others. -/
theorem pingsOf_cons (f : Frame) (frames : List Frame) :
    pingsOf (f :: frames) = pingsOf [f] ++ pingsOf frames :=
  List.filter_append [f] frames

/-- A data frame is no ping. -/
theorem Frame.not_ping_of_data {f : Frame} (data : f.isData = true) : f.opcode ≠ .kPingOpcode := by
  intro ping
  simp [Frame.isData, ping] at data

/-- A round answers a ping or takes a pong, and the message in progress stays as it is. -/
theorem controlRound_yields {side : Side} {ws : WebSocket} {startTime timeout : ℚ}
    {left reads sends : Nat} {f : Frame}
    (well : GoesWell ws startTime timeout (left + 1) (f.reads side + reads)
      ((pingsOf [f]).length + sends))
    (taken : f.Accepted side) (control : f.opcode = .kPingOpcode ∨ f.opcode = .kPongOpcode)
    {rest : Bytes} (incoming : ws.socket.incoming = f.encode ++ rest) :
    ∃ ws' calls, (handleOneMessage side).Yields ws.looked () ws' ∧ ws'.frameHeader = f.header ∧
      ws'.message = ws.message ∧ ws'.isText = ws.isText ∧ ws'.isContinuation = ws.isContinuation ∧
      ws'.socket.connected = true ∧ ws'.socket.passed = ws.socket.passed ++ calls ∧
      Answers side calls (pingsOf [f]) ∧ ws'.socket.incoming = rest ∧
      ws'.linux.clock = ws.linux.clock ∧ ws.Later ws' ∧
      GoesWell (ws'.pass 1 0 0) startTime timeout left reads sends := by
  have connected := well.connected
  have read := readMessage_takes ws.looked connected taken
    (well.reads.mono (Nat.le_add_right _ reads)) incoming
  -- Either there is a ping to be answered, or the pong is taken and nothing follows.
  rcases control with ping | pong
  · have one : (pingsOf [f]).length = 1 := by
      rw [pingsOf_cons_ping ping]
      rfl
    -- The pong takes one of the sends that go through.
    rw [one] at well
    have handled := handleOneMessage_ping side ws.looked read connected
      (well.sends 0 (by omega)) ping
    -- Drawing a mask does not touch the socket, so that the link is still open.
    have open' : ((ws.looked.received f rest (f.reads side)).drawn side).socket.connected = true := by
      rw [WebSocket.drawn_socket]
      exact connected
    rw [WebSocket.offered_of_connected _ open'] at handled
    have answers : Answers side [frameCall side .kPongOpcode f.payload ws.looked] (pingsOf [f]) := by
      rw [pingsOf_cons_ping ping]
      exact .cons ⟨nextMask side ws.looked, by cases side <;> rfl, rfl⟩ .nil
    have later : ws.Later ((ws.looked.received f rest (f.reads side)).drawn side) :=
      (WebSocket.Later.of_linux rfl).trans (WebSocket.later_drawn side _)
    -- Only a client has drawn a mask, and the members that are compared are the same on both sides.
    cases side with
    | client =>
      refine ⟨_, _, handled, rfl, rfl, rfl, rfl, connected, rfl, answers, rfl, rfl, later, ?_⟩
      refine well.next ?_ rfl rfl rfl rfl
      exact connected
    | server =>
      refine ⟨_, _, handled, rfl, rfl, rfl, rfl, connected, rfl, answers, rfl, rfl, later, ?_⟩
      refine well.next ?_ rfl rfl rfl rfl
      exact connected
  · have handled := handleOneMessage_pong side ws.looked read pong
    have zero : pingsOf [f] = [] := pingsOf_cons_other (by simp [pong]) []
    -- For a pong there are no calls, and no send is taken.
    rw [zero] at well ⊢
    refine ⟨_, [], handled, rfl, rfl, rfl, rfl, connected, by simp; rfl, .nil, rfl, rfl,
      .of_linux rfl, ?_⟩
    refine well.next ?_ rfl rfl rfl rfl
    exact connected

/-- The reads that frames take one after the other. -/
def readsOf (side : Side) (frames : List Frame) : Nat := (frames.map (Frame.reads side)).sum

/-- The reads are those of the first frame and those of the others. -/
theorem readsOf_cons (side : Side) (f : Frame) (frames : List Frame) :
    readsOf side (f :: frames) = f.reads side + readsOf side frames := by
  simp [readsOf]

/-- The rounds of a receive call read a whole message, from where it is in progress. -/
theorem tryRecvRounds_yields {side : Side} {startTime timeout : ℚ} {tail : Bytes}
    {expected : Opcode} {frames : List Frame} (shape : MessageFrames side expected frames) :
    ∀ {ws : WebSocket} {remainingTime : ℚ},
      GoesWell ws startTime timeout frames.length (readsOf side frames) (pingsOf frames).length →
      0 ≤ remainingTime → ws.socket.incoming = encodeAll frames ++ tail →
      expected ∈ [Opcode.kTextOpcode, .kBinaryOpcode, .kContinutationOpcode] →
      ws.isContinuation = decide (expected = .kContinutationOpcode) →
      (ws.partFor expected ++ dataOf frames).length ≤ kMaximumMessageLength →
      ∃ ws' calls, (Program.iterate (tryRecvRound side startTime timeout) remainingTime).Yields ws
          (if ws.textWith expected then .kRecvText else .kRecvBinary) ws' ∧
        ws'.message = ws.partFor expected ++ dataOf frames ∧
        ws'.socket.passed = ws.socket.passed ++ calls ∧ Pongs side calls (pingsOf frames) ∧
        ws'.socket.incoming = tail ∧ ws'.isContinuation = false := by
  -- One round is left for each frame, and the shape of the message says which comes next.
  induction shape with
  | @last expected f taken opcode fin =>
    -- The final data frame ends the rounds.
    intro ws remainingTime well left incoming member flag bounded
    subst opcode
    have data := Frame.isData_of_mem member
    rw [encodeAll_cons] at incoming
    rw [dataOf_cons_data data] at bounded ⊢
    simp only [encodeAll, dataOf, List.map_nil, List.filter_nil, List.flatten_nil,
      List.append_nil] at incoming bounded ⊢
    rw [readsOf_cons] at well
    obtain ⟨ws', handled, header, message, isText, isContinuation, passed, incoming', -, -⟩ :=
      dataRound_yields well taken data incoming flag bounded
    -- It is data and final, so that the message is complete.
    have complete : completes ws'.frameHeader = true := by
      rw [header, completes_header, data, fin]
      rfl
    have round := tryRecvRound_last side startTime timeout left
      (well.waits 0 (by simp)) handled complete
    refine ⟨ws', [], ?_, message, by simp [passed], ?_, incoming', by simp [isContinuation, fin]⟩
    · rw [WebSocket.messageStatus, isText] at round
      exact Program.Yields.iterate_last round
    · rw [pingsOf_cons_other (Frame.not_ping_of_data data)]
      exact .nil
  | @fragment expected f frames taken opcode fin more ih =>
    -- A fragment goes into the message, and the next data frame has to continue it.
    intro ws remainingTime well left incoming member flag bounded
    subst opcode
    have data := Frame.isData_of_mem member
    rw [encodeAll_cons, List.append_assoc] at incoming
    rw [dataOf_cons_data data] at bounded ⊢
    rw [← List.append_assoc] at bounded
    rw [readsOf_cons, pingsOf_cons_other (Frame.not_ping_of_data data)] at well
    obtain ⟨ws', handled, header, message, isText, isContinuation, passed, incoming', clock, well'⟩ :=
      dataRound_yields well taken data incoming flag
        (Nat.le_trans (by simp only [List.length_append]; omega) bounded)
    -- It is not final, so that another round follows.
    have incomplete : completes ws'.frameHeader = false := by
      rw [header, completes_header, data, fin]
      rfl
    -- The clock is read once in a round, and the reading is still in time.
    have remaining : 0 ≤ timeout - (ws'.linux.clock.head - startTime) := by
      have inTime := well.inTime 0 (Nat.succ_lt_succ more.length_pos)
      rw [clock]
      exact sub_nonneg.mpr inTime
    have round := tryRecvRound_next side startTime timeout left
      (well.waits 0 (by simp)) handled incomplete well'.connected
    -- What is in progress now is the message with this payload at its end.
    have progress : (ws'.pass 1 0 0).partFor .kContinutationOpcode =
        ws.partFor f.opcode ++ f.payload := message
    have text : (ws'.pass 1 0 0).textWith .kContinutationOpcode = ws.textWith f.opcode := isText
    have flag' : (ws'.pass 1 0 0).isContinuation =
        decide (Opcode.kContinutationOpcode = .kContinutationOpcode) := by
      rw [fin] at isContinuation
      exact isContinuation
    obtain ⟨ws'', calls, rounds, message', passed', pongs, incoming'', isContinuation'⟩ :=
      ih well' remaining incoming' (by simp) flag' (by rwa [progress])
    rw [text] at rounds
    rw [progress, List.append_assoc] at message'
    refine ⟨ws'', calls, Program.Yields.iterate_next round rounds, message', ?_, ?_, incoming'',
      isContinuation'⟩
    · rw [passed', WebSocket.pass_passed, passed]
    · rwa [pingsOf_cons_other (Frame.not_ping_of_data data)]
  | @control expected f frames taken control short more ih =>
    -- A control frame comes in between, and the expected opcode stays what it was.
    intro ws remainingTime well left incoming member flag bounded
    have notData : f.isData = false := by
      rcases control with opcode | opcode <;> simp [Frame.isData, opcode]
    rw [encodeAll_cons, List.append_assoc] at incoming
    rw [dataOf_cons_control notData] at bounded ⊢
    rw [readsOf_cons, pingsOf_cons, List.length_append] at well
    obtain ⟨ws', calls, handled, header, message, isText, isContinuation, connected, passed, answers,
      incoming', clock, -, well'⟩ := controlRound_yields well taken control incoming
    -- The call of this round is the pong if the frame is a ping.
    have pongs : Pongs side calls (pingsOf [f]) := by
      refine answers.pongs fun ping member => ?_
      obtain rfl := List.mem_singleton.mp (List.mem_of_mem_filter member)
      exact short
    have incomplete : completes ws'.frameHeader = false := by
      rw [header, completes_header, notData]
      rfl
    have remaining : 0 ≤ timeout - (ws'.linux.clock.head - startTime) := by
      have inTime := well.inTime 0 (Nat.succ_lt_succ more.length_pos)
      rw [clock]
      exact sub_nonneg.mpr inTime
    have round := tryRecvRound_next side startTime timeout left
      (well.waits 0 (by simp)) handled incomplete connected
    -- Neither the message nor its type were touched.
    have progress : (ws'.pass 1 0 0).partFor expected = ws.partFor expected := by
      cases expected <;> first | rfl | exact message
    have text : (ws'.pass 1 0 0).textWith expected = ws.textWith expected := by
      cases expected <;> first | rfl | exact isText
    obtain ⟨ws'', calls', rounds, message', passed', pongs', incoming'', isContinuation'⟩ :=
      ih well' remaining incoming' member (isContinuation.trans flag) (by rwa [progress])
    rw [text] at rounds
    rw [progress] at message'
    refine ⟨ws'', calls ++ calls', Program.Yields.iterate_next round rounds, message', ?_, ?_,
      incoming'', isContinuation'⟩
    · rw [passed', WebSocket.pass_passed, passed, List.append_assoc]
    · rw [pingsOf_cons]
      exact List.rel_append pongs pongs'

/-- The status of a message is that of the type of its first frame. -/
theorem MessageType.textWith_opcode (type : MessageType) (ws : WebSocket) :
    (if ws.textWith type.opcode then RecvStatus.kRecvText else .kRecvBinary) = type.status := by
  cases type <;> rfl

/-- One receive call reassembles the message in front, and answers every ping on the way. -/
theorem recv_reassembles {side : Side} (type : MessageType) {frames : List Frame}
    (shape : MessageFrames side type.opcode frames)
    (bounded : (dataOf frames).length ≤ kMaximumMessageLength) (ws : WebSocket) {rest : Bytes}
    (incoming : ws.socket.incoming = encodeAll frames ++ rest) (fresh : ws.isContinuation = false)
    (connected : ws.socket.connected = true) (reads : ws.ReadsSucceed)
    (waits : ∀ i < frames.length, ws.socket.waits.get i = .kWaitOK)
    (sends : ∀ i < frames.length, ws.socket.sends.get i = true) {timeout : ℚ}
    (inTime : ∀ i < frames.length, ws.linux.clock.get i - ws.linux.clock.get 0 ≤ timeout)
    (buffer : Bytes) :
    ∃ ws' calls, (recv side buffer timeout).Yields ws (type.status, dataOf frames) ws' ∧
      ws'.socket.passed = ws.socket.passed ++ calls ∧ Pongs side calls (pingsOf frames) ∧
      ws'.socket.incoming = rest ∧ ws'.isContinuation = false := by
  -- The call itself reads the clock once, so its rounds see the readings after the first.
  have fewer : (pingsOf frames).length ≤ frames.length := List.length_filter_le _ _
  have well : GoesWell ws.started ws.linux.clock.head timeout frames.length (readsOf side frames)
      (pingsOf frames).length :=
    { connected := connected
      reads := reads.next _
      waits := waits
      sends := fun i small => sends i (by omega)
      inTime := fun i small => inTime (i + 1) small }
  have left : 0 ≤ timeout := by
    have first := inTime 0 shape.length_pos
    rwa [sub_self] at first
  -- The first data frame begins a message of its own.
  have empty : ws.started.partFor type.opcode = [] := by
    cases type <;> rfl
  have flag : ws.started.isContinuation = decide (type.opcode = .kContinutationOpcode) := by
    cases type <;> exact fresh
  -- The rounds begin with the first frame, and end with the message that the call returns.
  obtain ⟨ws', calls, rounds, message, passed, pongs, incoming', isContinuation⟩ :=
    tryRecvRounds_yields shape well left incoming (by cases type <;> simp [MessageType.opcode]) flag
      (by rwa [empty])
  rw [type.textWith_opcode] at rounds
  rw [empty, List.nil_append] at message
  refine ⟨ws', calls, ?_, passed, pongs, incoming', isContinuation⟩
  rw [← message]
  exact recv_yields buffer rounds

/-- A short frame of a client is accepted by a server. -/
theorem Frame.ofClient_accepted (fin : Bool) (opcode : Opcode) {payload : Bytes}
    (short : payload.length < 126) : (Frame.ofClient fin opcode payload short).Accepted .server where
  masked := rfl
  bounded := by
    unfold kMaximumPayloadLength
    simp only [Frame.ofClient]
    omega

/-- A text in two frames with a ping between them. -/
theorem recv_reassembles_pinged :
    let frames := [Frame.ofClient false .kTextOpcode [97] (by decide),
      Frame.ofClient true .kPingOpcode [112] (by decide),
      Frame.ofClient true .kContinutationOpcode [98] (by decide)]
    ∃ ws' calls, (recv .server [7] 0).Yields (.steady (encodeAll frames ++ [255]))
        (.kRecvText, dataOf frames) ws' ∧
      ws'.socket.passed = [] ++ calls ∧ Pongs .server calls (pingsOf frames) ∧
      ws'.socket.incoming = [255] ∧ ws'.isContinuation = false :=
  -- A ping stands between the two fragments of a text message.
  recv_reassembles .kTextMessage
    (.fragment (Frame.ofClient_accepted _ _ _) rfl rfl
      (.control (Frame.ofClient_accepted _ _ _) (.inl rfl) (by decide)
        (.last (Frame.ofClient_accepted _ _ _) rfl rfl)))
    (by decide) (.steady _) rfl rfl rfl (fun _ => rfl) (fun _ _ => rfl) (fun _ _ => rfl)
    (fun _ _ => le_of_eq (sub_self (0 : ℚ))) [7]

end Rcom
