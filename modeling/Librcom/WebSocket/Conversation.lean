import Librcom.WebSocket.Faults
import Librcom.WebSocket.RecvLaws
import Librcom.WebSocket.Traffic

/-! What is passed over a whole conversation, where each step of it meets a condition. -/

namespace Rcom

open Effects
open Relation (ReflTransGen)

/-- Everything that was passed to the socket is of the given kind. -/
def WebSocket.PassedOnly (fine : SocketCall → Prop) (ws : WebSocket) : Prop :=
  ∀ call ∈ ws.socket.passed, fine call

section Passed

variable (fine : SocketCall → Prop)

/-- What was passed is a matter of the calls on the socket. -/
theorem passedOnly_ofTraffic : OfTraffic (WebSocket.PassedOnly fine) := by
  -- Traffic of the same socket leaves the list of what was passed as it is.
  intro ws ws' same now call member
  exact now call (same.passed ▸ member)

/-- What is of the given kind may be passed. -/
theorem send_passedOnly (call : SocketCall) (permitted : fine call) :
    (onSocket (Socket.send call)).Maintains (WebSocket.PassedOnly fine) := by
  refine Program.maintains_act fun ws now other member => ?_
  -- A call is recorded only while the link is open, and otherwise nothing is passed.
  have passed : (Socket.send call ws.socket).2.passed = ws.socket.passed ++
      if ws.socket.connected then [call] else [] := by
    unfold Socket.send
    split <;> simp
  rw [passed, List.mem_append] at member
  rcases member with before | last
  · exact now other before
  · split at last
    · obtain rfl := List.mem_singleton.mp last
      exact permitted
    · cases last

/-- What is written to another member than the socket is not passed. -/
theorem writes_passedOnly : WritesHave fun {_} method => method.Maintains (WebSocket.PassedOnly fine) :=
  fun same => Program.maintains_update fun ws now call member =>
    now call (congrArg Socket.passed (same ws) ▸ member)

/-- Reading a frame passes nothing. -/
theorem readMessage_passedOnly (side : Side) :
    (readMessage side).Maintains (WebSocket.PassedOnly fine) :=
  (maintains_steps (passedOnly_ofTraffic fine) side).readMessage_has refusals_maintain
    (writes_passedOnly fine)

/-- A data frame is kept, and nothing is passed for it. -/
theorem handleDataPayload_passedOnly (side : Side) :
    handleDataPayload.Maintains (WebSocket.PassedOnly fine) :=
  (maintains_steps (passedOnly_ofTraffic fine) side).handleDataPayload_has refusals_maintain
    (writes_passedOnly fine)

end Passed

/-- If the call passes a frame with the given opcode, then its payload is allowed. -/
def SocketCall.Allows (opcode : Opcode) (allowed : Bytes → Prop) (call : SocketCall) : Prop :=
  ∀ (f : Frame) rest, call = .buffer (f.encode ++ rest) → f.opcode = opcode → allowed f.payload

section Allowing

variable {opcode : Opcode} {allowed : Bytes → Prop}

/-- A block of a payload is always allowed. -/
theorem allows_block (bytes : Bytes) : (SocketCall.block bytes).Allows opcode allowed := by
  -- A block is passed without a head, so that it is no frame.
  intro f rest same
  cases same

/-- The bytes of a frame with another opcode are allowed. -/
theorem allows_other {other : Opcode} (different : other ≠ opcode) (mask : Option Mask)
    (length : Nat) (rest : Bytes) :
    (SocketCall.buffer (headBytes mask other length ++ rest)).Allows opcode allowed := by
  -- The head that was passed names the other opcode, and a frame is read back in one way only.
  intro f rest' same code
  rw [headBytes_opcode (SocketCall.buffer.inj same)] at code
  exact absurd code different

/-- Whoever allows the payloads of one opcode permits every data frame. -/
theorem allows_data (control : opcode = .kCloseOpcode ∨ opcode = .kPongOpcode) :
    PermitsData (SocketCall.Allows opcode allowed) := by
  refine ⟨fun mask type length rest => allows_other ?_ mask length rest, allows_block⟩
  -- No message type has the opcode of a control frame.
  rcases control with rfl | rfl <;> cases type <;> decide

/-- A short payload that is allowed may be passed. -/
theorem permits_allows {payload : Bytes} (short : payload.length < 65536)
    (permitted : allowed payload) : Permits (SocketCall.Allows opcode allowed) opcode payload := by
  intro mask f rest same code
  have bytes := SocketCall.buffer.inj same
  -- The bytes that are passed are those of one frame, whose payload is the given one.
  rw [frameBytes_eq mask opcode (by omega) (by omega), ← List.append_nil (Frame.encode _)] at bytes
  obtain ⟨rfl, -⟩ := Frame.encode_inj bytes
  exact permitted

end Allowing

/-- A round that leads to another one, with the time left at the beginning of each. -/
def RoundStep (side : Side) (startTime timeout : ℚ) (now next : ℚ × WebSocket) : Prop :=
  (tryRecvRound side startTime timeout now.1).Yields now.2 (.inl next.1) next.2

/-- The later state is one in which the receive call handles a frame. -/
def HandlesIn (side : Side) (timeout : ℚ) (ws t : WebSocket) : Prop :=
  ∃ remainingTime t', ReflTransGen (RoundStep side ws.linux.clock.head timeout)
      (timeout, ws.started) (remainingTime, t') ∧
    0 ≤ remainingTime ∧ t'.socket.waits.head = .kWaitOK ∧ t = t'.looked

/-- What an application asks of a WebSocket. -/
inductive Operation where
  | send (message : Bytes) (type : MessageType)
  | recv (message : Bytes) (timeout : ℚ)
  | close (code : CloseCode)

def Operation.perform (side : Side) : Operation → WebSocketM Unit
  | send message type => do
    let _ ← Rcom.send side message type
    return ()
  | recv message timeout => do
    let _ ← Rcom.recv side message timeout
    return ()
  | close code => Rcom.close side code

section Meeting

variable (side : Side) (front : WebSocket → Prop) (allowed : CloseCode → Prop)

/-- Each frame is handled in a state that meets the condition, and the close code is allowed. -/
def Operation.Meets (ws : WebSocket) : Operation → Prop
  | send _ _ => True
  | recv _ timeout => ∀ t, HandlesIn side timeout ws t → front t
  | close code => allowed code

/-- Operations that meet the conditions, in any order, each after the one before has ended. -/
def Conversation : WebSocket → WebSocket → Prop :=
  ReflTransGen fun ws ws' => ∃ operation : Operation,
    operation.Meets side front allowed ws ∧ (operation.perform side).Leaves ws ws'

/-- A state that a conversation leads to, or that its next operation passes through. -/
def Reached (start t : WebSocket) : Prop :=
  ∃ ws, Conversation side front allowed start ws ∧
    (t = ws ∨ ∃ operation : Operation, operation.Meets side front allowed ws ∧
      ∃ fuel, t ∈ (operation.perform side).seen fuel ws)

/--
Whoever meets the conditions passes only what is of a kind: every data frame is, each Close frame
with an allowed code, and the answers to the frames that are handled. The codes of a receive call
are allowed.
-/
structure Policy (fine : SocketCall → Prop) : Prop where
  data : PermitsData fine
  close : ∀ code, allowed code →
    Permits fine .kCloseOpcode (Endian.toBigEndian 2 code.toNat)
  refusals : ∀ what code, (Fault.recvError what code).Refuses → allowed code
  reply : ∀ t (f : Frame) rest, front t → f.Accepted side →
    t.socket.incoming = f.encode ++ rest → f.opcode = .kCloseOpcode →
      Permits fine .kCloseOpcode (Endian.toBigEndian 2 (answerCode f.payload).toNat)
  pong : ∀ t (f : Frame) rest, front t → f.Accepted side →
    t.socket.incoming = f.encode ++ rest → f.opcode = .kPingOpcode →
      Permits fine .kPongOpcode f.payload

end Meeting

namespace Policy

variable {side : Side} {front : WebSocket → Prop} {allowed : CloseCode → Prop}
  {fine : SocketCall → Prop} (policy : Policy side front allowed fine)

include policy

/-- What is of a kind is of any wider kind. -/
theorem weaken {fine' : SocketCall → Prop} (wider : ∀ call, fine call → fine' call) :
    Policy side front allowed fine' where
  data :=
    { head := fun mask type length rest => wider _ (policy.data.head mask type length rest)
      block := fun bytes => wider _ (policy.data.block bytes) }
  close := fun code permitted mask => wider _ (policy.close code permitted mask)
  refusals := policy.refusals
  reply := fun t f rest met taken incoming close mask =>
    wider _ (policy.reply t f rest met taken incoming close mask)
  pong := fun t f rest met taken incoming ping mask =>
    wider _ (policy.pong t f rest met taken incoming ping mask)

/-- A frame that is handled where the condition is met is answered by what is of the kind. -/
theorem handleOneMessage_upholds {ws : WebSocket} (met : front ws) (now : ws.PassedOnly fine) :
    (handleOneMessage side).Upholds (WebSocket.PassedOnly fine) ws
      (fun _ => WebSocket.PassedOnly fine) (fun _ => WebSocket.PassedOnly fine) := by
  -- A frame that is read is the front of what is incoming, and nothing is passed until it is whole.
  have read := (readMessage_passedOnly fine side ws now).and (readMessage_achieves side ws).toEnsures
  refine (read.mono (fun _ _ held => held) (fun _ _ held => held.1)).bind ?_
  rintro - _ ⟨now', -, f, rest, reads, taken, incoming, rfl⟩
  refine Program.upholds_get_bind ?_
  dsimp only
  split
  · -- A control frame is answered, for which the condition on its payload is asked.
    refine handleControlMessage_upholds (passedOnly_ofTraffic fine) (send_passedOnly fine) side now'
      (fun code => ?_) (fun code => ?_)
    · exact policy.reply ws f rest met taken incoming (Opcode.code_inj.mp code)
    · exact policy.pong ws f rest met taken incoming (Opcode.code_inj.mp code)
  · -- A data frame goes into the message, and any other opcode is refused.
    split
    · exact handleDataPayload_passedOnly fine side _ now'
    · exact Program.upholds_raise now'

/-- To close with an allowed code passes only what is allowed. -/
theorem closeWithHandshake_maintains {code : CloseCode} (permitted : allowed code) :
    (closeWithHandshake side code).Maintains (WebSocket.PassedOnly fine) :=
  Rcom.closeWithHandshake_maintains (passedOnly_ofTraffic fine) (send_passedOnly fine) side
    (readMessage_passedOnly fine side) (policy.close code permitted)

/-- The rounds of a receive call begin in states that earlier rounds lead to. -/
theorem tryRecvRounds_upholds {timeout : ℚ} {ws : WebSocket}
    (met : ∀ t, HandlesIn side timeout ws t → front t) (now : ws.PassedOnly fine) :
    (Program.iterate (tryRecvRound side ws.linux.clock.head timeout) timeout).Upholds
      (WebSocket.PassedOnly fine) ws.started (fun _ => WebSocket.PassedOnly fine)
      (fun e ws' => ws'.PassedOnly fine ∧ e.Refuses) := by
  -- The invariant remembers the path of rounds, since the condition is on the states along it.
  refine Program.Upholds.iterate (fun remainingTime t => t.PassedOnly fine ∧
    ReflTransGen (RoundStep side ws.linux.clock.head timeout) (timeout, ws.started)
      (remainingTime, t)) ⟨now, .refl⟩ ?_
  rintro remainingTime t ⟨now', path⟩
  have round := tryRecvRound_upholds (passedOnly_ofTraffic fine) side ws.linux.clock.head timeout
    remainingTime (fun left ready now'' => policy.handleOneMessage_upholds
      (met _ ⟨remainingTime, t, path, left, ready, rfl⟩) now'') now'
  -- A round that goes on is the next step of that path, and an exception is one that refuses.
  have leads : (tryRecvRound side ws.linux.clock.head timeout remainingTime).Ensures t
      (fun turn t' => (tryRecvRound side ws.linux.clock.head timeout remainingTime).Yields t turn t')
      (fun e _ => e.Refuses) :=
    ⟨fun returned => returned, (tryRecvRound_refuses side _ timeout remainingTime t).throws⟩
  refine (round.and leads).mono ?_ (fun _ _ failed => failed)
  rintro (remainingTime' | status) t' ⟨held, returned⟩
  · -- The round goes on, and its step is added to the path.
    exact ⟨held, path.tail returned⟩
  · exact held

/-- Where every frame that is handled is of the kind, a receive call passes only what is allowed. -/
theorem recv_upholds {message : Bytes} {timeout : ℚ} {ws : WebSocket}
    (met : ∀ t, HandlesIn side timeout ws t → front t) (now : ws.PassedOnly fine) :
    (recv side message timeout).Upholds (WebSocket.PassedOnly fine) ws
      (fun _ => WebSocket.PassedOnly fine) (fun _ => WebSocket.PassedOnly fine) := by
  -- The call stores the message that it was given, and clears it before its rounds.
  let called : WebSocket := { ws with message := message }
  let cleared : WebSocket := { ws with message := [] }
  have tried : (tryRecv side timeout).Upholds (WebSocket.PassedOnly fine) cleared
      (fun _ => WebSocket.PassedOnly fine) (fun e ws' => ws'.PassedOnly fine ∧ e.Refuses) := by
    -- Reading the clock first changes nothing that matters here.
    have timed : rcomTime.Upholds (WebSocket.PassedOnly fine) cleared
        (fun _ => WebSocket.PassedOnly fine) (fun e ws' => ws'.PassedOnly fine ∧ e.Refuses) :=
      ((onLinux_maintains (passedOnly_ofTraffic fine) _ cleared now).and
        (rcomTime_refuses cleared)).mono (fun _ _ held => held.1) (fun _ _ failed => failed)
    exact timed.next (rcomTime_yields cleared) fun _ => policy.tryRecvRounds_upholds met now
  -- The rounds begin with an empty message.
  have clears : (Program.update fun ws => { ws with message := [] } : WebSocketM Unit).Upholds
      (WebSocket.PassedOnly fine) called (fun _ ws' => ws' = cleared)
      (fun e ws' => ws'.PassedOnly fine ∧ e.Refuses) := Program.upholds_update now rfl
  -- Up to here only exceptions that refuse a frame can leave the call.
  have guarded : (do
      Program.update fun ws => { ws with message := [] }
      tryRecv side timeout : WebSocketM RecvStatus).Upholds (WebSocket.PassedOnly fine) called
        (fun _ => WebSocket.PassedOnly fine) (fun e ws' => ws'.PassedOnly fine ∧ e.Refuses) := by
    refine clears.bind ?_
    rintro - _ rfl
    exact tried
  have whole : ((do
      Program.update fun ws => { ws with message := [] }
      tryRecv side timeout : WebSocketM RecvStatus).attempt (recvHandler side)).Upholds
        (WebSocket.PassedOnly fine) called (fun _ => WebSocket.PassedOnly fine)
        -- The handler closes the link with the code of the exception, which the policy allows.
        (fun _ => WebSocket.PassedOnly fine) := by
    refine guarded.attempt ?_
    rintro e ws' ⟨now', refuses⟩
    cases e with
    | recvError what code =>
      have closes := policy.closeWithHandshake_maintains (policy.refusals what code refuses)
      exact (closes ws' now').bind fun _ _ now'' => Program.upholds_pure now''
    | runtimeError what => exact Program.upholds_raise now'
  have takes : (Program.update fun ws => { ws with message := message } : WebSocketM Unit).Upholds
      (WebSocket.PassedOnly fine) ws (fun _ ws' => ws' = called)
      (fun _ => WebSocket.PassedOnly fine) := Program.upholds_update now rfl
  -- At last the message that was received is handed over, which passes nothing.
  refine takes.bind ?_
  rintro - _ rfl
  refine whole.bind fun status ws' now' => ?_
  exact Program.upholds_get_bind (Program.upholds_pure now')

/-- So does every operation, if it closes with an allowed code. -/
theorem perform_upholds {operation : Operation} {ws : WebSocket}
    (met : operation.Meets side front allowed ws) (now : ws.PassedOnly fine) :
    (operation.perform side).Upholds (WebSocket.PassedOnly fine) ws
      (fun _ => WebSocket.PassedOnly fine) (fun _ => WebSocket.PassedOnly fine) := by
  -- Each operation has its own lemma, and only for a receive call is the condition asked.
  cases operation with
  | send message type =>
    have sends := send_maintains (passedOnly_ofTraffic fine) (send_passedOnly fine) side policy.data
      message type
    exact (sends ws now).bind fun _ _ now' => Program.upholds_pure now'
  | recv message timeout =>
    -- The frames that are handled are those of which the condition is known.
    exact (policy.recv_upholds met now).bind fun _ _ now' => Program.upholds_pure now'
  | close code => exact policy.closeWithHandshake_maintains met ws now

/-- In every state that a conversation reaches, only what is of the kind was passed. -/
theorem reached {start t : WebSocket} (unused : start.socket.passed = [])
    (reached : Reached side front allowed start t) : t.PassedOnly fine := by
  -- Nothing was passed before the first operation.
  have begun : start.PassedOnly fine := by
    intro call member
    rw [unused] at member
    cases member
  obtain ⟨ws, conversation, here⟩ := reached
  -- Before the last operation every earlier one has ended, which is the induction.
  have now : ws.PassedOnly fine := by
    clear here
    induction conversation with
    | refl => exact begun
    | tail _ last ih =>
      obtain ⟨operation, met, left⟩ := last
      exact (policy.perform_upholds met ih).toEnsures.leaves left
  rcases here with rfl | ⟨operation, met, fuel, member⟩
  · exact now
  · -- In the middle of the last operation the invariant holds in every state it passes through.
    exact (policy.perform_upholds met now).through fuel t member

end Policy

end Rcom
