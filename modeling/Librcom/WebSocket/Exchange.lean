import Librcom.WebSocket.CloseOrder
import Librcom.WebSocket.Schedules

/-! What an endpoint takes from its peer and gives to it between two states, frame by frame. -/

namespace Rcom

open Effects

/-- What an endpoint passes as one frame. -/
structure Emission where
  mask : Option Mask
  opcode : Opcode
  payload : Bytes

def Emission.bytes (emission : Emission) : Bytes :=
  frameBytes emission.mask emission.opcode emission.payload

/-- The bytes of emissions that follow each other. -/
def emitted (given : List Emission) : Bytes := (given.map Emission.bytes).flatten

/-- Nothing is emitted without emissions. -/
@[simp] theorem emitted_nil : emitted [] = [] := rfl

/-- Emissions in a row are emitted in a row. -/
@[simp] theorem emitted_append (front back : List Emission) :
    emitted (front ++ back) = emitted front ++ emitted back := by
  simp [emitted]

/-- No frames are no bytes. -/
@[simp] theorem encodeAll_nil : encodeAll [] = [] := rfl

/-- Frames in a row are encoded in a row. -/
@[simp] theorem encodeAll_append (front back : List Frame) :
    encodeAll (front ++ back) = encodeAll front ++ encodeAll back := by
  simp [encodeAll]

/-- The message in a frame with the given opcode, if that is the opcode of one. -/
def messageIn (opcode : Opcode) (payload : Bytes) : Option Message :=
  match opcode with
  | .kTextOpcode => some (.kTextMessage, payload)
  | .kBinaryOpcode => some (.kBinaryMessage, payload)
  | _ => none

/-- The messages that were given. -/
def messagesGiven (given : List Emission) : List Message :=
  given.filterMap fun emission => messageIn emission.opcode emission.payload

/-- The messages that were taken, where each has a frame of its own. -/
def messagesTaken (taken : List Frame) : List Message :=
  taken.filterMap fun f => messageIn f.opcode f.payload

/-- The messages of emissions in a row are those of each. -/
@[simp] theorem messagesGiven_append (front back : List Emission) :
    messagesGiven (front ++ back) = messagesGiven front ++ messagesGiven back :=
  List.filterMap_append

/-- The messages of frames in a row are those of each. -/
@[simp] theorem messagesTaken_append (front back : List Frame) :
    messagesTaken (front ++ back) = messagesTaken front ++ messagesTaken back :=
  List.filterMap_append

/-- A frame with the opcode of a message holds the message. -/
@[simp] theorem messageIn_opcode (message : Message) :
    messageIn message.1.opcode message.2 = some message := by
  obtain ⟨type, bytes⟩ := message
  cases type <;> rfl

/-- The payloads of the pongs that were given. -/
def pongsGiven (given : List Emission) : List Bytes :=
  (given.filter (·.opcode == .kPongOpcode)).map Emission.payload

/-- The pongs of emissions in a row are those of each. -/
@[simp] theorem pongsGiven_append (front back : List Emission) :
    pongsGiven (front ++ back) = pongsGiven front ++ pongsGiven back := by
  simp [pongsGiven]

/-- The pings of frames in a row are those of each. -/
@[simp] theorem pingsOf_append (front back : List Frame) :
    pingsOf (front ++ back) = pingsOf front ++ pingsOf back := by
  simp [pingsOf]

/-- No message is in progress on the link, if it is open. -/
def WebSocket.Fresh (ws : WebSocket) : Prop := ws.socket.connected = true → ws.isContinuation = false

/-- Every message among the frames is in one frame. -/
def Unfragmented (taken : List Frame) : Prop := ∀ f ∈ taken, f.isData = true → f.fin = true

/--
What an endpoint took and gave between two states.

What was given is on the wire as a whole while the link is open. On a link that was closed a part of it
may be missing at the end.
-/
structure Exchanged (side : Side) (ws : WebSocket) (taken : List Frame) (given : List Emission)
    (ws' : WebSocket) : Prop where
  passed : ∃ calls, ws'.socket.passed = ws.socket.passed ++ calls ∧ wire calls <+: emitted given ∧
    (ws'.socket.connected = true → wire calls = emitted given)
  read : ∃ rest, ws.socket.incoming = encodeAll taken ++ rest ∧
    (ws'.socket.connected = true → ws'.socket.incoming = rest)
  accepted : ∀ f ∈ taken, f.Accepted side
  masked : ∀ emission ∈ given, emission.mask.isSome = (side == .client)
  spoken : ∀ emission ∈ given, emission.opcode ≠ .kPingOpcode ∧
    emission.opcode ≠ .kContinutationOpcode ∧
    (emission.opcode = .kCloseOpcode → emission.payload.length = 2) ∧
    emission.payload.length ≤ kMaximumPayloadLength
  pongs : pongsGiven given = (pingsOf taken).map Frame.payload
  refused : ws.socket.connected = false →
    ws'.socket.connected = false ∧ taken = [] ∧ given = []
  continuing : Unfragmented taken → ws.Fresh → ws'.Fresh
  later : ws.Later ws'

namespace Exchanged

variable {side : Side} {ws mid ws' : WebSocket} {taken taken' : List Frame}
  {given given' : List Emission}

/-- Nothing was taken or given, and the link is as it was. -/
theorem of_kept (passed : ws'.socket.passed = ws.socket.passed)
    (connected : ws'.socket.connected = ws.socket.connected)
    (incoming : ws'.socket.incoming = ws.socket.incoming)
    (isContinuation : ws'.isContinuation = ws.isContinuation) (later : ws.Later ws') :
    Exchanged side ws [] [] ws' where
  passed := ⟨[], by simp [passed], by simp, by simp⟩
  -- No frame was read, and so none was accepted or refused.
  read := ⟨ws.socket.incoming, by simp, fun _ => incoming⟩
  accepted := by simp
  masked := by simp
  spoken := by simp
  pongs := rfl
  refused := fun disconnected => ⟨connected.trans disconnected, rfl, rfl⟩
  continuing := fun _ fresh still => isContinuation.trans (fresh (connected.symm.trans still))
  later := later

/-- To do nothing exchanges nothing. -/
theorem refl (side : Side) (ws : WebSocket) : Exchanged side ws [] [] ws :=
  of_kept rfl rfl rfl rfl (.refl ws)

/-- Steps that only wait are no exchange. -/
theorem of_looked (side : Side) (ws : WebSocket) : Exchanged side ws [] [] ws.looked :=
  of_kept rfl rfl rfl rfl (.of_linux rfl)

/-- The system may go on while nothing is exchanged. -/
theorem of_pass (side : Side) (ws : WebSocket) (ticks naps looks : Nat) :
    Exchanged side ws [] [] (ws.pass ticks naps looks) :=
  of_kept rfl rfl rfl rfl (ws.later_pass ticks naps looks)

/-- A link that is open now was open before. -/
theorem connected (exchanged : Exchanged side ws taken given ws')
    (still : ws'.socket.connected = true) : ws.socket.connected = true := by
  by_contra disconnected
  have closed := (exchanged.refused (by simpa using disconnected)).1
  simp [still] at closed

/-- What happens after an exchange is added to it. -/
theorem trans (front : Exchanged side ws taken given mid)
    (back : Exchanged side mid taken' given' ws') :
    Exchanged side ws (taken ++ taken') (given ++ given') ws' := by
  obtain ⟨calls, passed, part, all⟩ := front.passed
  obtain ⟨calls', passed', part', all'⟩ := back.passed
  obtain ⟨rest, read, left⟩ := front.read
  obtain ⟨rest', read', left'⟩ := back.read
  refine ⟨⟨calls ++ calls', by rw [passed', passed, List.append_assoc], ?_, ?_⟩, ?_, ?_, ?_, ?_, ?_,
    ?_, ?_, front.later.trans back.later⟩
  · rw [wire_append, emitted_append]
    -- Only on a link that is still open is anything passed behind the first part.
    cases open' : mid.socket.connected with
    | true =>
      rw [all open']
      exact (List.prefix_append_right_inj _).mpr part'
    | false =>
      obtain ⟨_, _, rfl⟩ := back.refused open'
      have nothing : wire calls' = [] := by simpa using part'
      rw [nothing, emitted_nil, List.append_nil, List.append_nil]
      exact part
  · intro still
    rw [wire_append, emitted_append, all (back.connected still), all' still]
  · cases open' : mid.socket.connected with
    | true => exact ⟨rest', by rw [read, encodeAll_append, List.append_assoc, ← read', left open'], left'⟩
    | false =>
      -- A closed link takes nothing more.
      obtain ⟨closed, rfl, _⟩ := back.refused open'
      exact ⟨rest, by simpa using read, fun still => by simp [closed] at still⟩
  · intro f member
    rcases List.mem_append.mp member with member | member
    · exact front.accepted f member
    · exact back.accepted f member
  · intro emission member
    rcases List.mem_append.mp member with member | member
    · exact front.masked emission member
    · exact back.masked emission member
  · intro emission member
    rcases List.mem_append.mp member with member | member
    · exact front.spoken emission member
    · exact back.spoken emission member
  · rw [pongsGiven_append, pingsOf_append, List.map_append, front.pongs, back.pongs]
  · -- Nothing happens on a link that was closed at the beginning.
    intro disconnected
    obtain ⟨closed, rfl, rfl⟩ := front.refused disconnected
    obtain ⟨closed', rfl, rfl⟩ := back.refused closed
    exact ⟨closed', rfl, rfl⟩
  · intro whole fresh
    have first : Unfragmented taken := fun f member => whole f (List.mem_append_left _ member)
    have second : Unfragmented taken' := fun f member => whole f (List.mem_append_right _ member)
    exact back.continuing second (front.continuing first fresh)

/-- What comes before an exchange takes nothing and gives nothing. -/
theorem after (front : Exchanged side ws [] [] mid) (back : Exchanged side mid taken given ws') :
    Exchanged side ws taken given ws' := by
  simpa using front.trans back

/-- What exchanges nothing may follow. -/
theorem before (front : Exchanged side ws taken given mid) (back : Exchanged side mid [] [] ws') :
    Exchanged side ws taken given ws' := by
  simpa using front.trans back

end Exchanged

section Keeping

/-- What is being received is not touched. -/
theorem Kept.refl (ws : WebSocket) : Kept ws ws := ⟨rfl, rfl, rfl, rfl, rfl⟩

/-- What is kept by each of two parts is kept by both. -/
theorem Kept.trans {first second third : WebSocket} (front : Kept first second)
    (back : Kept second third) : Kept first third :=
  ⟨back.header.trans front.header, back.message.trans front.message, back.isText.trans front.isText,
    back.isContinuation.trans front.isContinuation, back.incoming.trans front.incoming⟩

/-- To draw a mask keeps what was received. -/
theorem kept_drawn (side : Side) (ws : WebSocket) : Kept ws (ws.drawn side) := by
  cases side <;> exact ⟨rfl, rfl, rfl, rfl, rfl⟩

/-- To offer bytes to the peer keeps what was received. -/
theorem kept_offered (call : SocketCall) (ws : WebSocket) : Kept ws (ws.offered call) := by
  refine ⟨rfl, rfl, rfl, rfl, ?_⟩
  unfold WebSocket.offered Socket.send
  split <;> rfl

variable (side : Side) (message : Bytes) (type : MessageType) (ws : WebSocket)

/-- To send keeps what was received. -/
theorem socketSend_keeps (call : SocketCall) :
    (socketSend side call).Ensures ws (fun _ ws' => Kept ws ws') (fun _ _ => True) := by
  refine (socketSend_ensures side call ws).mono ?_ (fun _ _ _ => trivial)
  -- The call was offered to the socket, and what comes behind a failure only waits and closes.
  rintro ok ws' (⟨_, _, rfl⟩ | ⟨_, waited, ⟨_, _, _, rfl⟩, rfl⟩)
  · exact kept_offered call ws
  · have offered := kept_offered call ws
    exact ⟨offered.header, offered.message, offered.isText, offered.isContinuation, offered.incoming⟩

/-- To send a short message keeps what was received. -/
theorem sendShortDataMessage_keeps :
    (sendShortDataMessage side message type).Ensures ws (fun _ ws' => Kept ws ws')
      (fun _ _ => True) := by
  -- The state in which the socket is called: the frame is made, and its delay is off.
  let turned : WebSocket :=
    { ws.drawn side with
      outputMessageBuffer := frameBytes (nextMask side ws) type.opcode message
      socket := { (ws.drawn side).socket with nodelay := true } }
  have drawn := kept_drawn side ws
  have before : Kept ws turned :=
    ⟨drawn.header, drawn.message, drawn.isText, drawn.isContinuation, drawn.incoming⟩
  refine (makeMessage_yields side type.opcode message ws).bind_ensures ?_
  refine (Program.yields_update _ _).bind_ensures ((Program.yields_update _ _).bind_ensures ?_)
  refine (Program.yields_get turned).bind_ensures ?_
  exact (socketSend_keeps side turned _).mono (fun _ _ kept => before.trans kept) (fun _ _ _ => trivial)

/-- To send the header of a long message keeps what was received. -/
theorem sendLongMessageHeader_keeps (opcode : Opcode) :
    (sendLongMessageHeader side opcode message).Ensures ws (fun _ ws' => Kept ws ws')
      (fun _ _ => True) := by
  -- The state in which the socket is called, with the header in the buffer.
  let made : WebSocket := { ws.drawn side with
    outputMessageBuffer := [] ++ headBytes (nextMask side ws) opcode message.length }
  have drawn := kept_drawn side ws
  have before : Kept ws made :=
    ⟨drawn.header, drawn.message, drawn.isText, drawn.isContinuation, drawn.incoming⟩
  refine (outputAppendHeader_yields side [] opcode message ws).bind_ensures ?_
  refine (Program.yields_update _ _).bind_ensures ((Program.yields_get made).bind_ensures ?_)
  exact (socketSend_keeps side made _).mono (fun _ _ kept => before.trans kept) (fun _ _ _ => trivial)

/-- To send a block keeps what was received. -/
theorem outputSendPayload_keeps :
    (outputSendPayload side message).Ensures ws (fun _ ws' => Kept ws ws') (fun _ _ => True) := by
  cases side with
  | server => exact socketSend_keeps .server ws _
  | client =>
    have masked : (ClientSideWebSocket.maskData message).Yields ws
        (applyMask ws.outputMask message) ws :=
      (Program.yields_get ws).bind (Program.yields_pure _ _)
    exact masked.bind_ensures (socketSend_keeps .client ws _)

/-- To send the payload of a long message keeps what was received. -/
theorem sendLongMessagePayload_keeps :
    (sendLongMessagePayload side message).Ensures ws (fun _ ws' => Kept ws ws')
      (fun _ _ => True) := by
  refine Program.Ensures.iterate (fun _ ws' => Kept ws ws') (.refl ws) ?_
  -- Each block that is sent keeps what all the blocks before it have kept.
  intro ⟨ok, sent⟩ ws' kept
  unfold sendLongMessagePayloadRound
  dsimp only
  split
  · refine (outputSendPayload_keeps side _ ws').seq (fun _ _ _ => trivial) ?_
    exact fun _ _ further => Program.ensures_pure (kept.trans further)
  · exact Program.ensures_pure kept

/-- Sending does not touch what is being received. -/
theorem send_keeps :
    (send side message type).Ensures ws (fun _ ws' => Kept ws ws') (fun _ _ => True) := by
  unfold send
  split
  · exact Program.ensures_pure (.refl ws)
  · split
    · exact sendShortDataMessage_keeps side message type ws
    -- Turning buffering on comes before the head, and the payload behind it.
    · have turnedOn : turnBufferingOn.Yields ws ()
          { ws with socket := { ws.socket with nodelay := false } } := Program.yields_update _ ws
      have before : Kept ws { ws with socket := { ws.socket with nodelay := false } } :=
        ⟨rfl, rfl, rfl, rfl, rfl⟩
      refine turnedOn.bind_ensures ?_
      refine (sendLongMessageHeader_keeps side message _ type.opcode).seq (fun _ _ _ => trivial) ?_
      intro ok ws' kept
      -- Without the header no payload is sent.
      cases ok with
      | false => exact Program.ensures_pure (before.trans kept)
      | true =>
        exact (sendLongMessagePayload_keeps side message ws').mono
          (fun _ _ further => (before.trans kept).trans further) (fun _ _ _ => trivial)

end Keeping

section Steps

variable {side : Side} {ws ws' : WebSocket}

/-- A message that was offered to a link is given, if it is not too long. -/
theorem send_exchanges (side : Side) (message : Message) {ws : WebSocket} (sleeps : ws.SleepsSucceed) :
    (send side message.2 message.1).Ensures ws
      (fun ok ws' => ∃ given, Exchanged side ws [] given ws' ∧
        (ok = true → messagesGiven given = [message]) ∧
        (messagesGiven given = [] ∨ messagesGiven given = [message] ∧ ws'.socket.connected = ok))
      (fun _ _ => False) := by
  have emits := send_emits side message.2 message.1 ws
  have orderly := send_orderly side message.2 message.1 ws
  refine ((emits.and orderly).and (send_keeps side message.2 message.1 ws)).mono ?_
    (fun _ _ failed => failed.1.1 sleeps)
  rintro ok ws' ⟨⟨emitted, orderly⟩, kept⟩
  -- The message was short enough to be sent, or it was refused at once.
  rcases emitted with ⟨bounded, emitted⟩ | ⟨_, rfl, rfl⟩
  · obtain ⟨calls, passed, all, part⟩ := emitted.calls
    cases connected : ws.socket.connected with
    | true =>
      -- The message is given in one frame, whether all of it was passed or not.
      refine ⟨[⟨nextMask side ws, message.1.opcode, message.2⟩], ⟨⟨calls, passed, ?_, ?_⟩, ?_, ?_, ?_,
        ?_, ?_, ?_, ?_, orderly.later⟩, ?_, ?_⟩
      · simpa [emitted, Rcom.emitted, Emission.bytes] using part
      · intro still
        simpa [Rcom.emitted, Emission.bytes] using all (emitted.link.symm.trans still)
      · exact ⟨ws.socket.incoming, rfl, fun _ => kept.incoming⟩
      · simp
      · rintro _ (_ | ⟨_, ⟨⟩⟩)
        cases side <;> rfl
      · rintro _ (_ | ⟨_, ⟨⟩⟩)
        refine ⟨?_, ?_, ?_, Nat.le_of_lt bounded⟩
        · cases message.1 <;> simp [MessageType.opcode]
        · cases message.1 <;> simp [MessageType.opcode]
        · cases message.1 <;> simp [MessageType.opcode]
      · obtain ⟨type, bytes⟩ := message
        cases type <;> rfl
      · intro disconnected
        simp [connected] at disconnected
      · exact fun _ fresh _ => kept.isContinuation.trans (fresh connected)
      · intro _
        simp [messagesGiven]
      · exact .inr ⟨by simp [messagesGiven], emitted.link⟩
    | false =>
      -- Nothing is given to a link that is closed.
      cases orderly with
      | data calls' passed' _ refused later =>
        obtain ⟨rfl, closed⟩ := refused connected
        refine ⟨[], .of_kept (by simpa using passed') (closed.trans connected.symm) kept.incoming
          kept.isContinuation later, fun success => ?_, .inl rfl⟩
        subst success
        simp [emitted.link] at closed
      | closed _ _ _ _ _ open' _ _ => simp [connected] at open'
  · exact ⟨[], .refl side _, by simp, .inl rfl⟩

/-- Closing gives one Close frame to a link that is still open, even if reading has failed before. -/
theorem Closing.exchanged {mid : WebSocket} {code : CloseCode} (idle : ws.Idle mid)
    (closing : Closing side code mid ws') :
    ∃ given, Exchanged side ws [] given ws' ∧ messagesGiven given = [] := by
  have passed := closing.passed
  have closed := closing.closed
  have later := idle.later.trans closing.later
  rw [idle.passed, idle.connected] at passed
  -- The link is closed now, so nothing has to be shown of one that is open.
  have never {p : Prop} (still : ws'.socket.connected = true) : p := by
    simp [closed] at still
  cases connected : ws.socket.connected with
  | true =>
    rw [connected, if_pos rfl] at passed
    refine ⟨[⟨nextMask side mid, .kCloseOpcode, Endian.toBigEndian 2 code.toNat⟩], ⟨⟨_, passed, ?_,
      never⟩, ⟨ws.socket.incoming, rfl, never⟩, by simp, ?_, ?_, rfl, ?_, fun _ _ still => never still, later⟩, rfl⟩
    · simp [emitted, Emission.bytes, closeCall, frameCall, SocketCall.bytes]
    · rintro _ (_ | ⟨_, ⟨⟩⟩)
      cases side <;> rfl
    · rintro _ (_ | ⟨_, ⟨⟩⟩)
      exact ⟨by simp, by simp, by simp, by simp [kMaximumPayloadLength]⟩
    · intro disconnected
      simp [connected] at disconnected
  | false =>
    -- A closed link is passed nothing.
    rw [connected, if_neg (by simp)] at passed
    exact ⟨[], ⟨⟨[], passed, by simp, by simp⟩, ⟨ws.socket.incoming, rfl, never⟩, by simp, by simp,
      by simp, rfl, fun _ => ⟨closed, rfl, rfl⟩, fun _ _ still => never still, later⟩, rfl⟩

/-- A frame that was handled was taken, and a ping was answered by a pong with its payload. -/
theorem Handled.exchanged {f : Frame} {rest : Bytes} {reads : Nat}
    (connected : ws.socket.connected = true) (accepted : f.Accepted side)
    (incoming : ws.socket.incoming = f.encode ++ rest)
    (handled : Handled side f (ws.received f rest reads) ws') :
    ∃ given, Exchanged side ws [f] given ws' ∧ messagesGiven given = [] := by
  have one : encodeAll [f] = f.encode := by simp [encodeAll]
  have refused {p : Prop} (disconnected : ws.socket.connected = false) : p := by
    simp [connected] at disconnected
  have accepts : ∀ g ∈ [f], g.Accepted side := by simpa using accepted
  have quiet (other : f.opcode ≠ .kPingOpcode) : pingsOf [f] = [] := by
    simp [pingsOf, other]
  -- A frame that is no ping is taken without an answer.
  have taken (other : f.opcode ≠ .kPingOpcode) :
      Exchanged side ws [f] [] (ws.received f rest reads) := by
    refine ⟨⟨[], (List.append_nil ws.socket.passed).symm, by simp, by simp⟩,
      ⟨rest, by rw [one, incoming], fun _ => rfl⟩, accepts, by simp, by simp, ?_, refused,
      fun _ fresh => fresh, .of_linux rfl⟩
    rw [quiet other]
    rfl
  have data (isData : f.isData = true) (handled : ws' = (ws.received f rest reads).dataHandled) :
      ∃ given, Exchanged side ws [f] given ws' ∧ messagesGiven given = [] := by
    -- The message grows, and nothing is given for it.
    subst handled
    refine ⟨[], ⟨⟨[], (List.append_nil ws.socket.passed).symm, by simp, by simp⟩,
      ⟨rest, by rw [one, incoming], fun _ => rfl⟩, accepts, by simp, by simp, ?_, refused, ?_,
      .of_linux rfl⟩, rfl⟩
    · rw [quiet (Frame.not_ping_of_data isData)]
      rfl
    · intro whole _ _
      rw [dataHandled_isContinuation, whole f (by simp) isData]
      rfl
  unfold Handled at handled
  cases opcode : f.opcode <;> rw [opcode] at handled
  case kCloseOpcode =>
    -- The Close frame is taken, and the answer to it is given.
    obtain ⟨given, answered, silent⟩ := Closing.exchanged (.refl _) handled.1
    exact ⟨given, (taken (by simp [opcode])).trans answered, silent⟩
  case kPingOpcode =>
    have passed := handled.passed
    have kept := handled.kept
    rw [show (ws.received f rest reads).socket.connected = true from connected, if_pos rfl] at passed
    -- Reading the frame has drawn no random bytes.
    have mask : nextMask side (ws.received f rest reads) = nextMask side ws := by
      cases side <;> rfl
    refine ⟨[⟨nextMask side ws, .kPongOpcode, f.payload⟩], ⟨⟨_, passed, ?_, ?_⟩,
      ⟨rest, by rw [one, incoming], fun _ => kept.incoming⟩, accepts, ?_, ?_, ?_, refused, ?_,
      handled.later⟩, rfl⟩
    · simp [emitted, Emission.bytes, frameCall, SocketCall.bytes, mask]
    · simp [emitted, Emission.bytes, frameCall, SocketCall.bytes, mask]
    · rintro _ (_ | ⟨_, ⟨⟩⟩)
      cases side <;> rfl
    · rintro _ (_ | ⟨_, ⟨⟩⟩)
      exact ⟨by simp, by simp, by simp, accepted.bounded⟩
    · simp [pongsGiven, pingsOf, opcode]
    · exact fun _ fresh _ => kept.isContinuation.trans (fresh connected)
  case kPongOpcode =>
    subst handled
    exact ⟨[], taken (by simp [opcode]), rfl⟩
  all_goals exact data (by simp [Frame.isData, opcode]) handled.2

end Steps

end Rcom
