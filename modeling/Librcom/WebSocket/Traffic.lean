import Librcom.Effects.Passage
import Librcom.WebSocket.CloseLaws
import Librcom.WebSocket.Steps

/-! What the methods of a WebSocket maintain, of what was received and of what is passed. -/

namespace Rcom

open Effects

/-- The two buffers that receiving fills are the same, and nothing was passed to the socket. -/
structure SameTraffic (ws ws' : WebSocket) : Prop where
  payload : ws'.inputPayloadBuffer = ws.inputPayloadBuffer
  message : ws'.message = ws.message
  passed : ws'.socket.passed = ws.socket.passed

/-- The predicate looks at nothing but what was received and what was passed. -/
def OfTraffic (holds : WebSocket → Prop) : Prop :=
  ∀ ws ws', SameTraffic ws ws' → holds ws → holds ws'

section Elsewhere

variable {holds : WebSocket → Prop} (traffic : OfTraffic holds)

include traffic

/-- A change of the other members maintains what is known of the traffic. -/
theorem elsewhere_maintains {f : WebSocket → WebSocket} (same : ∀ ws, SameTraffic ws (f ws)) :
    (Program.update f : WebSocketM Unit).Maintains holds :=
  Program.maintains_update fun ws now => traffic ws (f ws) (same ws) now

/-- A change of the other members, whose outcome is known. -/
theorem elsewhere_upholds {f : WebSocket → WebSocket} {ws : WebSocket}
    (same : SameTraffic ws (f ws)) (now : holds ws) :
    (Program.update f : WebSocketM Unit).Upholds holds ws (fun _ ws' => ws' = f ws ∧ holds ws')
      (fun _ => holds) :=
  Program.upholds_update (traffic ws _ same now) ⟨rfl, traffic ws _ same now⟩

/-- A call that passes nothing maintains what is passed. -/
theorem onSocket_maintains {α : Type} {call : Socket → α × Socket}
    (same : ∀ socket, (call socket).2.passed = socket.passed) : (onSocket call).Maintains holds :=
  Program.maintains_act fun ws now => traffic ws _ ⟨rfl, rfl, same ws.socket⟩ now

/-- The system passes nothing. -/
theorem onLinux_maintains {α : Type} (call : LinuxM α) : (onLinux call).Maintains holds := by
  -- The system is another member of the state than both buffers and the socket.
  have apart (linux : Linux) (ws : WebSocket) (now : holds ws) : holds { ws with linux := linux } :=
    traffic ws _ ⟨rfl, rfl, rfl⟩ now
  exact Program.maintains_within apart call

/-- To close the connection passes nothing. -/
theorem closeConnection_maintains (side : Side) : (closeConnection side).Maintains holds := by
  -- Closing marks the socket as closed and leaves what it has passed.
  have closes : socketClose.Maintains holds := elsewhere_maintains traffic fun _ => ⟨rfl, rfl, rfl⟩
  cases side with
  | server => exact closes
  | client =>
    -- A client looks at its end and sleeps in turns, and only then closes.
    refine (onLinux_maintains traffic _).bind fun startTime => ?_
    refine Program.Maintains.bind ?_ fun _ => closes
    refine Program.Maintains.iterate (fun timedOut => ?_) false
    have looks : (onSocket Socket.isEndpointConnected).Maintains holds :=
      onSocket_maintains traffic fun _ => rfl
    refine looks.bind fun stillOpen => ?_
    split
    · refine (onLinux_maintains traffic _).bind fun now => ?_
      dsimp only
      split
      · exact Program.maintains_pure _
      · exact (onLinux_maintains traffic _).bind fun _ => Program.maintains_pure _
    · exact Program.maintains_pure _

/-- A read takes from what is incoming, however it turns out. -/
theorem read_maintains (length : Nat) : (onSocket (Socket.read length)).Maintains holds := by
  refine onSocket_maintains traffic fun socket => ?_
  unfold Socket.read
  dsimp only
  split
  · rfl
  · split
    · rfl
    · split <;> rfl

/-- What is known of the traffic is maintained by every step but filling a buffer and passing. -/
theorem maintains_steps (side : Side) : StepsHave side fun {_} method => method.Maintains holds where
  toCompositional := Program.maintains_compositional
  aside := fun aside => elsewhere_maintains traffic fun ws =>
    ⟨(aside ws).payload, (aside ws).message, congrArg Socket.passed (aside ws).socket⟩
  time := onLinux_maintains traffic _
  waits := fun _ => onSocket_maintains traffic fun _ => rfl
  asks := read_maintains traffic
  buffering := fun _ => elsewhere_maintains traffic fun _ => ⟨rfl, rfl, rfl⟩
  closes := closeConnection_maintains traffic side

omit traffic in
/-- Everything that is done to refuse a frame passes nothing. -/
theorem refusals_maintain : RefusalsHave fun {_} method => method.Maintains holds :=
  fun _ _ _ => Program.maintains_raise _

/-- A round of receiving maintains what handling a frame does, in the state after the wait. -/
theorem tryRecvRound_upholds (side : Side) (startTime timeout remainingTime : ℚ) {ws : WebSocket}
    (handles : 0 ≤ remainingTime → ws.socket.waits.head = .kWaitOK → holds ws.looked →
      (handleOneMessage side).Upholds holds ws.looked (fun _ => holds) (fun _ => holds))
    (now : holds ws) :
    (tryRecvRound side startTime timeout remainingTime).Upholds holds ws (fun _ => holds)
      (fun _ => holds) := by
  -- The state after the wait is known, and that there is data if the wait says so.
  have steps := maintains_steps traffic side
  have waits : (waitForData remainingTime).Upholds holds ws
      (fun found ws' => ws' = ws.looked ∧ holds ws' ∧
        (found = true → ws.socket.waits.head = .kWaitOK)) (fun _ => holds) := by
    refine (steps.waits _ ws now).next (socketWait_yields _ ws) fun now' => ?_
    cases ws.socket.waits.head with
    | kWaitOK => exact Program.upholds_pure ⟨rfl, now', fun _ => rfl⟩
    | kWaitTimeout => exact Program.upholds_pure ⟨rfl, now', nofun⟩
    | kWaitError => exact Program.upholds_raise now'
  -- A frame is handled only if there is time left and the wait has found data.
  have handled (left : 0 ≤ remainingTime) : (waitAndHandleOneMessage side remainingTime).Upholds
      holds ws (fun _ => holds) (fun _ => holds) := by
    refine waits.bind ?_
    rintro found _ ⟨rfl, now', ready⟩
    split
    · next data =>
      exact (handles left (ready data) now').bind fun _ _ now'' => Program.upholds_pure now''
    · exact Program.upholds_pure now'
  unfold tryRecvRound
  split
  · next left =>
    refine (handled left).bind fun found ws' now' => ?_
    -- What comes after the frame only reads the state and the clock.
    split
    · exact steps.endOfRound_has startTime timeout ws' now'
    · exact steps.nextRound_has startTime timeout ws' now'
  · exact Program.upholds_pure now

end Elsewhere

/-- Every frame of data, in one piece or as a head and blocks, may be passed. -/
structure PermitsData (fine : SocketCall → Prop) : Prop where
  head : ∀ mask (type : MessageType) length rest,
    fine (.buffer (headBytes mask type.opcode length ++ rest))
  block : ∀ bytes, fine (.block bytes)

/-- A frame with the given opcode and payload may be passed, whatever its mask is. -/
def Permits (fine : SocketCall → Prop) (opcode : Opcode) (payload : Bytes) : Prop :=
  ∀ mask, fine (.buffer (frameBytes mask opcode payload))

section Passing

variable {holds : WebSocket → Prop} (traffic : OfTraffic holds) {fine : SocketCall → Prop}
  (passes : ∀ call, fine call → (onSocket (Socket.send call)).Maintains holds) (side : Side)

include traffic passes

/-- To send passes what it is given. -/
theorem socketSend_maintains {call : SocketCall} (permitted : fine call) :
    (socketSend side call).Maintains holds :=
  (maintains_steps traffic side).socketSend_has (passes call permitted)

/-- A whole frame that may be passed is made and passed. -/
theorem sendFrame_maintains {opcode : Opcode} {payload : Bytes}
    (permitted : Permits fine opcode payload) :
    (makeMessage side opcode payload >>= fun message =>
      socketSend side (.buffer message)).Maintains holds := by
  intro ws now
  -- The buffer is made, and what is passed is the frame in it.
  have made := (maintains_steps traffic side).makeMessage_has opcode payload ws now
  refine made.next (makeMessage_yields side opcode payload ws) fun now' => ?_
  exact socketSend_maintains traffic passes side (permitted _) _ now'

/-- To send a Close frame passes the frame, with a mask or without. -/
theorem sendCloseMessage_maintains {code : CloseCode}
    (permitted : Permits fine .kCloseOpcode (Endian.toBigEndian 2 code.toNat)) :
    (sendCloseMessage side code).Maintains holds := by
  -- The two bytes of the code go out most significant byte first.
  unfold sendCloseMessage
  simp only [twoBytes_eq, htons, Endian.toLittleEndian_byteSwap]
  exact sendFrame_maintains traffic passes side permitted

/-- Closing passes no more than its Close frame. -/
theorem closeWithHandshake_maintains (reads : (readMessage side).Maintains holds) {code : CloseCode}
    (permitted : Permits fine .kCloseOpcode (Endian.toBigEndian 2 code.toNat)) :
    (closeWithHandshake side code).Maintains holds := by
  have tries := (maintains_steps traffic side).tryCloseWithHandshake_has reads
    (sendCloseMessage_maintains traffic passes side permitted)
  -- An exception while waiting for the peer does not keep the link open.
  exact Program.Maintains.attempt tries fun _ => closeConnection_maintains traffic side

/-- To send a pong passes a frame with the payload of the ping. -/
theorem sendPong_upholds {ws : WebSocket} (now : holds ws)
    (permitted : Permits fine .kPongOpcode ws.inputPayloadBuffer) :
    (sendPong side).Upholds holds ws (fun _ => holds) (fun _ => holds) := by
  refine Program.upholds_get_bind ?_
  -- The payload of the pong is that of the ping, which is in the buffer.
  have made := (maintains_steps traffic side).makeMessage_has .kPongOpcode ws.inputPayloadBuffer ws now
  refine made.next (makeMessage_yields side _ _ ws) fun now' => ?_
  have sent := socketSend_maintains traffic passes side (permitted (nextMask side ws))
  exact (sent.bind fun _ => Program.maintains_pure ()) _ now'

/-- To answer a Close frame passes a frame with the code that was received. -/
theorem answerCloseHandshake_upholds {ws : WebSocket} (now : holds ws)
    (permitted : Permits fine .kCloseOpcode
      (Endian.toBigEndian 2 (answerCode ws.inputPayloadBuffer).toNat)) :
    (answerCloseHandshake side).Upholds holds ws (fun _ => holds) (fun _ => holds) := by
  let heard : WebSocket := { ws with remoteCloseReason := answerCode ws.inputPayloadBuffer }
  -- The reason of the peer is noted first, which is none of the traffic.
  have now' : holds heard := traffic ws heard ⟨rfl, rfl, rfl⟩ now
  have got : getCloseCode.Upholds holds ws (fun _ ws' => ws' = heard) (fun _ => holds) :=
    Program.upholds_update now' rfl
  refine got.bind ?_
  rintro - _ rfl
  refine Program.upholds_get_bind ?_
  refine (sendCloseMessage_maintains traffic passes side permitted heard now').bind ?_
  exact fun _ ws' now'' => closeConnection_maintains traffic side ws' now''

/-- A control frame is answered by what may be passed for it, or by nothing. -/
theorem handleControlMessage_upholds {ws : WebSocket} (now : holds ws)
    (reply : ws.frameHeader.opcode = Opcode.kCloseOpcode.code →
      Permits fine .kCloseOpcode (Endian.toBigEndian 2 (answerCode ws.inputPayloadBuffer).toNat))
    (pong : ws.frameHeader.opcode = Opcode.kPingOpcode.code →
      Permits fine .kPongOpcode ws.inputPayloadBuffer) :
    (handleControlMessage side).Upholds holds ws (fun _ => holds) (fun _ => holds) := by
  refine Program.upholds_get_bind ?_
  dsimp only
  -- The two control frames with an answer ask for their own permission.
  split
  · next close => exact answerCloseHandshake_upholds traffic passes side now (reply close)
  · split
    · next ping => exact sendPong_upholds traffic passes side now (pong ping)
    · split
      · exact Program.upholds_pure now
      · exact Program.upholds_pure now

/-- To send the output buffer passes what is in it. -/
theorem sendOutputBuffer_upholds {ws : WebSocket} (now : holds ws)
    (permitted : fine (.buffer ws.outputMessageBuffer)) :
    (sendOutputBuffer side).Upholds holds ws (fun _ => holds) (fun _ => holds) :=
  Program.upholds_get_bind (socketSend_maintains traffic passes side permitted ws now)

variable (data : PermitsData fine) (message : Bytes) (type : MessageType)

include data

/-- To send a short message passes one frame. -/
theorem sendShortDataMessage_maintains :
    (sendShortDataMessage side message type).Maintains holds := by
  intro ws now
  -- The frame goes into the output buffer, and the buffer is passed as one piece.
  have made := (maintains_steps traffic side).makeMessage_has type.opcode message ws now
  refine made.next (makeMessage_yields side _ message ws) fun now' => ?_
  refine (elsewhere_upholds traffic ⟨rfl, rfl, rfl⟩ now').bind ?_
  rintro - _ ⟨rfl, now''⟩
  refine (elsewhere_upholds traffic ⟨rfl, rfl, rfl⟩ now'').bind ?_
  rintro - _ ⟨rfl, ready⟩
  exact sendOutputBuffer_upholds traffic passes side ready (data.head _ type _ _)

/-- To send the header of a long message passes the header. -/
theorem sendLongMessageHeader_maintains :
    (sendLongMessageHeader side type.opcode message).Maintains holds := by
  intro ws now
  -- The head alone goes into the output buffer.
  have made := (maintains_steps traffic side).outputAppendHeader_has [] type.opcode message ws now
  refine made.next (outputAppendHeader_yields side [] _ message ws) fun now' => ?_
  refine (elsewhere_upholds traffic ⟨rfl, rfl, rfl⟩ now').bind ?_
  rintro - _ ⟨rfl, ready⟩
  -- A head without a payload is a front that may be passed.
  have head := data.head (nextMask side ws) type message.length []
  rw [List.append_nil] at head
  exact sendOutputBuffer_upholds traffic passes side ready head

/-- A data message is passed in whole or in part, and nothing else. -/
theorem send_maintains : (send side message type).Maintains holds :=
  (maintains_steps traffic side).send_has
    (sendShortDataMessage_maintains traffic passes side data message type)
    (sendLongMessageHeader_maintains traffic passes side data message type)
    (fun bytes => passes _ (data.block bytes))

end Passing

end Rcom
