import Librcom.WebSocket.Reassembly

/-! Repeated receive calls, and what they deliver however time-outs cut the stream. -/

namespace Rcom

open Effects

/-- A message in progress or a delivered one, with its type. -/
abbrev Message := MessageType × Bytes

/-- The message in progress after a frame. -/
def Frame.extend (f : Frame) (part : Option Message) : Option Message :=
  match f.opcode with
  | .kTextOpcode => some (.kTextMessage, f.payload)
  | .kBinaryOpcode => some (.kBinaryMessage, f.payload)
  | .kContinutationOpcode => part.map fun message => (message.1, message.2 ++ f.payload)
  | _ => part

/-- The messages that frames make up, after the message in progress. -/
def assemble : Option Message → List Frame → List Message
  | _, [] => []
  | part, f :: frames =>
    if f.isData && f.fin then (f.extend part).toList ++ assemble none frames
    else assemble (f.extend part) frames

/-- The message in progress of an endpoint: its type in the object, its bytes with the caller. -/
structure WebSocket.Holds (ws : WebSocket) (part : Option Message) : Prop where
  flag : ws.isContinuation = part.isSome
  held : ∀ message ∈ part, ws.isText = (message.1 == .kTextMessage) ∧ ws.message = message.2

/--
Receive calls repeated on one WebSocket, until the caller stops.

Each call may use another buffer and another timeout. It delivers a message or it times out. The
states the calls began in and the messages delivered are listed in order.
-/
inductive Schedule (side : Side) :
    WebSocket → List WebSocket → List Message → WebSocket → Prop
  | stop (ws : WebSocket) : Schedule side ws [] [] ws
  | delivered {ws ws' ws'' : WebSocket} {starts : List WebSocket} {messages : List Message}
      {type : MessageType} {message : Bytes} (buffer : Bytes) (timeout : ℚ) :
    (recv side buffer timeout).Yields ws (type.status, message) ws' →
    Schedule side ws' starts messages ws'' →
    Schedule side ws (ws :: starts) ((type, message) :: messages) ws''
  | timedOut {ws ws' ws'' : WebSocket} {starts : List WebSocket} {messages : List Message}
      {message : Bytes} (buffer : Bytes) (timeout : ℚ) :
    (recv side buffer timeout).Yields ws (.kRecvTimeOut, message) ws' →
    Schedule side ws' starts messages ws'' →
    Schedule side ws (ws :: starts) messages ws''

/-- No data of an unfinished message is in the caller's buffer. -/
def WebSocket.NothingHeld (ws : WebSocket) : Prop := ws.isContinuation = true → ws.message = []

/-- What a receive call keeps of the message in progress: its type. -/
def emptied (part : Option Message) : Option Message := part.map fun message => (message.1, [])

/-- Where nothing is held, to empty the buffer loses nothing. -/
theorem WebSocket.Holds.emptied_eq {ws : WebSocket} {part : Option Message} (holds : ws.Holds part)
    (nothing : ws.NothingHeld) : emptied part = part := by
  -- There is either no message in progress, or one whose bytes are none.
  cases part with
  | none => rfl
  | some message =>
    have empty := nothing (by simp [holds.flag])
    have held := (holds.held message rfl).2
    rw [emptied, Option.map_some, ← empty, held]

/-- Clearing the buffer leaves the type of the message in progress. -/
theorem WebSocket.Holds.started {ws : WebSocket} {part : Option Message} (holds : ws.Holds part) :
    ws.started.Holds (emptied part) := by
  -- The flag is a member of its own, and clearing the buffer leaves it.
  constructor
  · rw [emptied, Option.isSome_map]
    exact holds.flag
  · intro message member
    obtain ⟨whole, member', rfl⟩ := Option.mem_map.mp member
    exact ⟨(holds.held whole member').1, rfl⟩

/-- A part of a message is held on to while what was received is kept. -/
theorem WebSocket.Holds.of_kept {ws ws' : WebSocket} {part : Option Message}
    (holds : ws.Holds part) (kept : Kept ws ws') : ws'.Holds part := by
  -- What is kept are the three members that the message in progress is made of.
  constructor
  · rw [kept.isContinuation, holds.flag]
  · rw [kept.isText, kept.message]
    exact holds.held

/-- A control frame does not go on with a message. -/
theorem Frame.extend_control {f : Frame} (control : f.isData = false) (part : Option Message) :
    f.extend part = part := by
  unfold Frame.isData at control
  unfold Frame.extend
  -- The opcodes of control frames all leave the message.
  cases opcode : f.opcode <;> simp [opcode] at control ⊢

/-- What handling a frame makes of the message in progress. -/
structure Extended (part : Option Message) (f : Frame) (rest : Bytes) (ws' : WebSocket) : Prop where
  header : ws'.frameHeader = f.header
  data : f.isData = true → ws'.socket.incoming = rest ∧
    ∃ message, f.extend part = some message ∧ ws'.messageStatus = message.1.status ∧
      ws'.message = message.2 ∧ ws'.Holds (if f.fin then none else some message)
  control : f.isData = false → ws'.socket.connected = true →
    ws'.socket.incoming = rest ∧ ws'.Holds part

/-- A data frame that fits extends the message in progress or begins one. -/
theorem extend_data {ws : WebSocket} {part : Option Message} (holds : ws.Holds part) {f : Frame}
    (data : f.isData = true) (flag : ws.isContinuation = decide (f.opcode = .kContinutationOpcode)) :
    ∃ message, f.extend part = some message ∧
      ws.textWith f.opcode = (message.1 == .kTextMessage) ∧
      ws.partFor f.opcode ++ f.payload = message.2 := by
  -- The first frame of a message gives it its type and its first bytes.
  cases opcode : f.opcode with
  | kTextOpcode => exact ⟨(.kTextMessage, f.payload), by simp [Frame.extend, opcode], rfl, rfl⟩
  | kBinaryOpcode => exact ⟨(.kBinaryMessage, f.payload), by simp [Frame.extend, opcode], rfl, rfl⟩
  | kContinutationOpcode =>
    -- The flag says that a message is in progress, so there is one to extend.
    rw [opcode, holds.flag] at flag
    obtain ⟨message, rfl⟩ := Option.isSome_iff_exists.mp (flag.trans (decide_eq_true rfl))
    obtain ⟨isText, held⟩ := holds.held message rfl
    exact ⟨(message.1, message.2 ++ f.payload), by simp [Frame.extend, opcode], isText,
      congrArg (· ++ f.payload) held⟩
  -- The three control opcodes are none of a data frame.
  | kCloseOpcode => simp [Frame.isData, opcode] at data
  | kPingOpcode => simp [Frame.isData, opcode] at data
  | kPongOpcode => simp [Frame.isData, opcode] at data

/-- Handling a frame extends the message in progress, or leaves it as it is. -/
theorem handled_extended {side : Side} {f : Frame} {ws ws' : WebSocket} {rest : Bytes}
    {reads : Nat} {part : Option Message} (holds : ws.Holds part)
    (handled : Handled side f (ws.received f rest reads) ws') : Extended part f rest ws' := by
  -- Reading the frame has not touched what is in progress.
  have received : (ws.received f rest reads).Holds part := ⟨holds.flag, holds.held⟩
  by_cases data : f.isData = true
  · -- The frame was added, since handling it would have failed otherwise.
    obtain ⟨takes, rfl⟩ := (handled_data data).mp handled
    have flag : ws.isContinuation = decide (f.opcode = .kContinutationOpcode) := by
      have fits := takes.continuation
      rw [show (ws.received f rest reads).frameHeader.opcode = f.opcode.code from rfl] at fits
      simp only [Opcode.code_inj] at fits
      exact fits
    obtain ⟨message, extended, isText, bytes⟩ := extend_data holds data flag
    rw [← dataHandled_isText ws rest reads] at isText
    rw [← dataHandled_message ws rest reads data] at bytes
    refine ⟨rfl, fun _ => ⟨rfl, message, extended, ?_, bytes, ?_, ?_⟩, fun control => ?_⟩
    · rw [WebSocket.messageStatus, isText]
      cases message.1 <;> rfl
    · -- A final frame leaves nothing in progress, and any other one leaves what it made.
      rw [dataHandled_isContinuation]
      cases f.fin <;> rfl
    · intro message' member
      -- With a final frame there is nothing to be held.
      cases fin : f.fin with
      | true => simp [fin] at member
      | false =>
        simp only [fin, Bool.false_eq_true, if_false, Option.mem_some_iff] at member
        subst member
        exact ⟨isText, bytes⟩
    · simp [data] at control
  · -- A control frame has no part in the message.
    have control : f.isData = false := by simpa using data
    unfold Handled at handled
    cases opcode : f.opcode <;> simp only [opcode] at handled
    -- After a Close frame the link is not open any more.
    case kCloseOpcode =>
      obtain ⟨closing, header⟩ := handled
      exact ⟨header, fun data => by simp [control] at data, fun _ connected => by
        simp [closing.closed] at connected⟩
    case kPingOpcode =>
      have kept := handled.kept
      exact ⟨kept.header, fun data => by simp [control] at data, fun _ _ =>
        ⟨kept.incoming, received.of_kept kept⟩⟩
    case kPongOpcode =>
      subst handled
      exact ⟨rfl, fun data => by simp [control] at data, fun _ _ => ⟨rfl, received⟩⟩
    -- The other opcodes are those of data frames.
    all_goals simp [Frame.isData, opcode] at control

/-- The frames still to be read, and the message in progress, make up the given messages. -/
structure Outstanding (side : Side) (messages : List Message) (part : Option Message)
    (frames : List Frame) (ws : WebSocket) : Prop where
  accepted : ∀ f ∈ frames, f.Accepted side
  incoming : ws.socket.incoming = encodeAll frames
  holds : ws.Holds part
  total : assemble part frames = messages

/-- The same messages are outstanding when only the system goes on. -/
theorem Outstanding.pass {side : Side} {messages : List Message} {part : Option Message}
    {frames : List Frame} {ws : WebSocket}
    (outstanding : Outstanding side messages part frames ws) (ticks naps looks : Nat) :
    Outstanding side messages part frames (ws.pass ticks naps looks) :=
  ⟨outstanding.accepted, outstanding.incoming, ⟨outstanding.holds.flag, outstanding.holds.held⟩,
    outstanding.total⟩

/-- What a receive call with the given status leaves of the messages still to be delivered. -/
def Left (side : Side) (messages : List Message) (status : RecvStatus) (ws' : WebSocket) : Prop :=
  match status with
  | .kRecvText => ∃ frames more, messages = (.kTextMessage, ws'.message) :: more ∧
    Outstanding side more none frames ws'
  | .kRecvBinary => ∃ frames more, messages = (.kBinaryMessage, ws'.message) :: more ∧
    Outstanding side more none frames ws'
  | .kRecvTimeOut => ∃ part frames, Outstanding side messages part frames ws'
  | .kRecvError => True
  | .kRecvClosed => True

/-- A frame has at least its two fixed bytes. -/
theorem Frame.encode_ne_nil (f : Frame) (rest : Bytes) : f.encode ++ rest ≠ [] := by
  simp [Frame.encode]

/-- What is handled is the first frame that is outstanding. -/
theorem handleOneMessage_outstanding {side : Side} {messages : List Message}
    {part : Option Message} {frames : List Frame} {ws : WebSocket}
    (outstanding : Outstanding side messages part frames ws) :
    (handleOneMessage side).Ensures ws
      (fun _ ws' => ∃ f rest, frames = f :: rest ∧ Extended part f (encodeAll rest) ws')
      (fun _ _ => True) := by
  obtain ⟨accepted, incoming, holds, _⟩ := outstanding
  cases frames with
  | nil =>
    -- There is nothing to read, so no frame can have been handled.
    refine (handleOneMessage_ensures side ws).mono ?_ (fun _ _ _ => trivial)
    rintro _ _ ⟨_, f, rest, _, _, incoming', _⟩
    exact absurd (incoming'.symm.trans incoming) (f.encode_ne_nil rest)
  -- The frame in front is the first that is outstanding, and what was handled is that frame.
  | cons f rest =>
    rw [encodeAll_cons] at incoming
    refine (handleOneMessage_frame incoming).mono ?_ (fun _ _ _ => trivial)
    rintro _ _ ⟨_, reads, handled⟩
    exact ⟨f, rest, rfl, handled_extended holds handled⟩

/-- A round of receiving leaves the outstanding messages to the next, or delivers the first. -/
theorem tryRecvRound_outstanding {side : Side} {startTime timeout remainingTime : ℚ}
    {messages : List Message} {part : Option Message} {frames : List Frame} {ws : WebSocket}
    (outstanding : Outstanding side messages part frames ws) :
    (tryRecvRound side startTime timeout remainingTime).Ensures ws
      (Program.Turn (fun _ ws' => ∃ part frames, Outstanding side messages part frames ws')
        (Left side messages)) (fun _ _ => True) := by
  -- A wait takes none of what is incoming.
  have looked : Outstanding side messages part frames ws.looked :=
    ⟨outstanding.accepted, outstanding.incoming, ⟨outstanding.holds.flag, outstanding.holds.held⟩,
      outstanding.total⟩
  refine (tryRecvRound_ensures side startTime timeout
    (handleOneMessage_outstanding looked)).mono ?_ (fun _ _ _ => trivial)
  intro turn ws' round
  -- The frame that was handled decides what is delivered and what is left.
  cases round with
  | expired => exact ⟨part, frames, outstanding⟩
  | nothing => exact ⟨part, frames, looked.pass 1 0 0⟩
  -- The frame was final, so that the message it completes is the first that is outstanding.
  | complete handled complete =>
    obtain ⟨f, rest, rfl, extended⟩ := handled
    rw [extended.header, completes_header, Bool.and_eq_true] at complete
    obtain ⟨data, fin⟩ := complete
    obtain ⟨incoming, message, whole, status, bytes, holds⟩ := extended.data data
    rw [fin, if_pos rfl] at holds
    have delivered : messages = (message.1, ws'.message) :: assemble none rest := by
      rw [← outstanding.total, assemble, data, fin, whole, bytes]
      rfl
    have next : Outstanding side (assemble none rest) none rest ws' :=
      ⟨fun g member => outstanding.accepted g (by simp [member]), incoming, holds, rfl⟩
    rw [status]
    cases type : message.1 <;> rw [type] at delivered <;> exact ⟨rest, _, delivered, next⟩
  | closed => exact trivial
  -- The frame was not final, or it was a control frame, and the total stays the same.
  | more _ handled connected incomplete =>
    obtain ⟨f, rest, rfl, extended⟩ := handled
    rw [extended.header, completes_header] at incomplete
    have accepted : ∀ g ∈ rest, g.Accepted side :=
      fun g member => outstanding.accepted g (by simp [member])
    have total : assemble (f.extend part) rest = messages := by
      rw [← outstanding.total, assemble, incomplete]
      rfl
    -- A data frame goes into the message in progress.
    cases data : f.isData with
    | true =>
      obtain ⟨incoming, message, whole, _, _, holds⟩ := extended.data data
      rw [data, Bool.true_and] at incomplete
      rw [incomplete] at holds
      rw [whole] at total
      have next : Outstanding side messages (some message) rest _ := ⟨accepted, incoming, holds, total⟩
      exact ⟨_, rest, next.pass 1 0 0⟩
    -- A control frame is only taken off the front.
    | false =>
      obtain ⟨incoming, holds⟩ := extended.control data connected
      rw [Frame.extend_control data] at total
      have next : Outstanding side messages part rest _ := ⟨accepted, incoming, holds, total⟩
      exact ⟨_, rest, next.pass 1 0 0⟩

/-- A receive call delivers the first outstanding message, or leaves them all outstanding. -/
theorem recv_outstanding {side : Side} {messages : List Message} {part : Option Message}
    {frames : List Frame} {ws : WebSocket}
    (outstanding : Outstanding side messages part frames ws.started) (buffer : Bytes)
    (timeout : ℚ) :
    (recv side buffer timeout).Ensures ws
      (fun result ws' => result.2 = ws'.message ∧ Left side messages result.1 ws')
      (fun _ _ => True) := by
  have rounds : (Program.iterate (tryRecvRound side ws.linux.clock.head timeout) timeout).Ensures
      ws.started (Left side messages) (fun _ _ => True) := by
    -- The messages that are outstanding are the invariant, over whatever is in progress.
    refine Program.Ensures.iterate (fun _ ws' => ∃ part frames,
      Outstanding side messages part frames ws') ⟨part, frames, outstanding⟩ ?_
    rintro remainingTime ws' ⟨part, frames, outstanding⟩
    exact tryRecvRound_outstanding outstanding
  refine recv_ensures rounds ?_ buffer
  -- Whatever a handler does, the call then returns an error.
  rintro (⟨what, code⟩ | what) ws' _
  · exact Program.ensures_true.bind fun _ _ _ => Program.ensures_pure trivial
  · exact Program.ensures_raise trivial

/-- A call that begins with no data held has the same messages outstanding in its rounds. -/
theorem Outstanding.started {side : Side} {messages : List Message} {part : Option Message}
    {frames : List Frame} {ws : WebSocket}
    (outstanding : Outstanding side messages part frames ws) (nothing : ws.NothingHeld) :
    Outstanding side messages part frames ws.started := by
  have holds := outstanding.holds.started
  -- With nothing held, the buffer that is cleared was empty of data.
  rw [outstanding.holds.emptied_eq nothing] at holds
  exact ⟨outstanding.accepted, outstanding.incoming, holds, outstanding.total⟩

/-- Calls that never begin with data held deliver exactly the messages that are outstanding. -/
theorem Schedule.delivers {side : Side} {ws ws' : WebSocket} {starts : List WebSocket}
    {messages : List Message} (schedule : Schedule side ws starts messages ws')
    (undisturbed : ∀ start ∈ starts, start.NothingHeld) (consumed : ws'.socket.incoming = []) :
    ∀ {total : List Message} {part : Option Message} {frames : List Frame},
      Outstanding side total part frames ws → messages = total := by
  -- Each call takes its part from the front of what is outstanding.
  induction schedule with
  | stop ws =>
    intro total part frames outstanding
    -- With nothing left to read there are no frames, so nothing is outstanding.
    have none : frames = [] := by
      cases frames with
      | nil => rfl
      | cons f rest =>
        have incoming := outstanding.incoming
        rw [consumed, encodeAll_cons] at incoming
        exact absurd incoming.symm (f.encode_ne_nil _)
    rw [← outstanding.total, none]
    cases part <;> rfl
  -- A call that delivers takes the first message, and the others remain for the calls behind it.
  | @delivered ws ws' ws'' starts messages type message buffer timeout received rest ih =>
    intro total part frames outstanding
    have started := outstanding.started (undisturbed ws (by simp))
    obtain ⟨bytes, left⟩ := (recv_outstanding started buffer timeout).yields received
    have undisturbed' : ∀ start ∈ starts, start.NothingHeld :=
      fun start member => undisturbed start (by simp [member])
    obtain ⟨frames', more, whole, next⟩ : ∃ frames more,
        total = (type, ws'.message) :: more ∧ Outstanding side more none frames ws' := by
      cases type <;> exact left
    rw [whole, ← bytes, ih undisturbed' consumed next]
  -- A call that times out has only moved frames into the message in progress.
  | @timedOut ws ws' ws'' starts messages message buffer timeout received rest ih =>
    intro total part frames outstanding
    have started := outstanding.started (undisturbed ws (by simp))
    obtain ⟨_, part', frames', next⟩ := (recv_outstanding started buffer timeout).yields received
    exact ih (fun start member => undisturbed start (by simp [member])) consumed next

/-- A new WebSocket with frames to read has their messages outstanding. -/
theorem Outstanding.fresh {side : Side} {frames : List Frame} {ws : WebSocket}
    (accepted : ∀ f ∈ frames, f.Accepted side) (incoming : ws.socket.incoming = encodeAll frames)
    (fresh : ws.isContinuation = false) :
    Outstanding side (assemble none frames) none frames ws :=
  ⟨accepted, incoming, ⟨fresh, by simp⟩, rfl⟩

/--
Two schedules that read the same frames to the end deliver the same messages, if no call of either
begins while data of an unfinished message is held.
-/
theorem schedules_agree {side : Side} {frames : List Frame} (accepted : ∀ f ∈ frames, f.Accepted side)
    {first first' second second' : WebSocket} {starts starts' : List WebSocket}
    {messages messages' : List Message} (one : Schedule side first starts messages first')
    (other : Schedule side second starts' messages' second')
    (incoming : first.socket.incoming = encodeAll frames)
    (incoming' : second.socket.incoming = encodeAll frames)
    (fresh : first.isContinuation = false) (fresh' : second.isContinuation = false)
    (consumed : first'.socket.incoming = []) (consumed' : second'.socket.incoming = [])
    (undisturbed : ∀ start ∈ starts, start.NothingHeld)
    (undisturbed' : ∀ start ∈ starts', start.NothingHeld) : messages = messages' :=
  -- Both schedules deliver what the frames assemble to.
  (one.delivers undisturbed consumed (.fresh accepted incoming fresh)).trans
    (other.delivers undisturbed' consumed' (.fresh accepted incoming' fresh')).symm

/-- A new server whose clock goes on by a second after its first reading. -/
def WebSocket.ticking (waits : Stream' WaitStatus) (incoming : Bytes) : WebSocket :=
  .create { Socket.reliable incoming with waits := waits }
    { Linux.steady with clock := Stream'.cons 0 (Stream'.const 1) }

/-- A message that is received by one call, and by the second of two, the first of which times out before it. -/
theorem schedules_agree_unhurried :
    let frames := [Frame.ofClient false .kTextOpcode [97] (by decide),
      Frame.ofClient true .kContinutationOpcode [98] (by decide)]
    let first := WebSocket.ticking (Stream'.const .kWaitOK) (encodeAll frames)
    let second := WebSocket.ticking (Stream'.cons .kWaitTimeout (Stream'.const .kWaitOK))
      (encodeAll frames)
    ∃ starts starts' messages messages' first' second',
      Schedule .server first starts messages first' ∧
      Schedule .server second starts' messages' second' ∧ starts.length < starts'.length ∧
      messages = messages' := by
  intro frames first second
  let middle := (recv .server [] 0).after 9 second
  -- The first schedule gets the message in one call that has time enough.
  have one : (recv .server [] 5).Yields first (MessageType.kTextMessage.status, [97, 98])
      ((recv .server [] 5).after 9 first) := Program.yields_after (by decide +kernel)
  -- In the second the first wait is in vain, and a timeout of zero ends the call before any frame.
  have expired : (recv .server [] 0).Yields second (.kRecvTimeOut, []) middle :=
    Program.yields_after (by decide +kernel)
  have other : (recv .server [] 0).Yields middle (MessageType.kTextMessage.status, [97, 98])
      ((recv .server [] 0).after 9 middle) := Program.yields_after (by decide +kernel)
  have accepted : ∀ f ∈ frames, f.Accepted .server := by
    intro f member
    simp only [frames, List.mem_cons, List.not_mem_nil, or_false] at member
    rcases member with rfl | rfl
    · exact Frame.ofClient_accepted _ _ _
    · exact Frame.ofClient_accepted _ _ _
  -- No frame was read by then, so that no data is held.
  have quiet (start : WebSocket) (idle : start.isContinuation = false) : start.NothingHeld := by
    simp [WebSocket.NothingHeld, idle]
  have direct := Schedule.delivered [] 5 one (.stop _)
  have delayed := Schedule.timedOut [] 0 expired (.delivered [] 0 other (.stop _))
  refine ⟨_, _, _, _, _, _, direct, delayed, by decide, ?_⟩
  refine schedules_agree accepted direct delayed rfl rfl rfl rfl (by decide +kernel)
    (by decide +kernel) ?_ ?_
  · intro start member
    simp only [List.mem_cons, List.not_mem_nil, or_false] at member
    subst member
    exact quiet _ rfl
  · intro start member
    simp only [List.mem_cons, List.not_mem_nil, or_false] at member
    rcases member with rfl | rfl
    · exact quiet _ rfl
    · exact quiet _ (by decide +kernel)

/-- One stream and one state, and yet a short timeout loses what a long one delivers. -/
theorem timeout_loses_fragment :
    let frames := [Frame.ofClient false .kTextOpcode [97] (by decide),
      Frame.ofClient true .kContinutationOpcode [98] (by decide)]
    let start := WebSocket.ticking (Stream'.const .kWaitOK) (encodeAll frames)
    (∃ starts ws', Schedule .server start starts [(.kTextMessage, [97, 98])] ws' ∧
      ws'.socket.incoming = []) ∧
    ∃ starts ws', Schedule .server start starts [(.kTextMessage, [98])] ws' ∧
      ws'.socket.incoming = [] := by
  intro frames start
  constructor
  · -- A call with time enough reads both frames and delivers their data.
    have received : (recv .server [] 5).Yields start (MessageType.kTextMessage.status, [97, 98])
        ((recv .server [] 5).after 9 start) := Program.yields_after (by decide +kernel)
    exact ⟨_, _, .delivered [] 5 received (.stop _), by decide +kernel⟩
  · -- A call that times out between the two frames has the data of the first in its own buffer.
    let middle := (recv .server [] 0).after 9 start
    have expired : (recv .server [] 0).Yields start (.kRecvTimeOut, [97]) middle :=
      Program.yields_after (by decide +kernel)
    have received : (recv .server [] 0).Yields middle (MessageType.kTextMessage.status, [98])
        ((recv .server [] 0).after 9 middle) := Program.yields_after (by decide +kernel)
    exact ⟨_, _, .timedOut [] 0 expired (.delivered [] 0 received (.stop _)), by decide +kernel⟩

end Rcom
