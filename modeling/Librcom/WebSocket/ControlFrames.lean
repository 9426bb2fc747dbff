import Librcom.WebSocket.Conversation
import Librcom.WebSocket.Rejections

/-! The frames that a receiver takes, and the pongs that answer them. -/

namespace Rcom

open Effects

/-- The reserved bits are zero, and a control frame is final and has a short payload. -/
structure Frame.Valid (f : Frame) : Prop where
  reserved : f.reserved = 0
  control : f.isData = false → f.fin = true ∧ f.payload.length ≤ 125

/--
The frame passes each check that a receiver makes, where the flag says whether a message is in
progress and with it goes what the receiver has of the message.
-/
structure Frame.Passes (f : Frame) (side : Side) (flag : Bool) (message : Bytes) : Prop extends
    f.Accepted side where
  added : f.isData = true → flag = decide (f.opcode = .kContinutationOpcode) ∧
    (partOf message f.opcode ++ f.payload).length ≤ kMaximumMessageLength

/-- Any frame in front that passes the checks is valid. -/
def ValidInFront (side : Side) (flag : Bool) (message bytes : Bytes) : Prop :=
  ∀ (f : Frame) rest, bytes = f.encode ++ rest → f.Passes side flag message → f.Valid

/-- Any frame in front of what is to be read is valid if it passes the checks. -/
def WebSocket.ValidInFront (side : Side) (ws : WebSocket) : Prop :=
  Rcom.ValidInFront side ws.isContinuation ws.message ws.socket.incoming

/-- If the call passes a pong, then it is one with a short payload. -/
abbrev SocketCall.ShortPong : SocketCall → Prop :=
  SocketCall.Allows .kPongOpcode fun payload => payload.length ≤ 125

/-- Whoever handles only valid frames sends only short pongs. -/
theorem shortPong_policy (side : Side) :
    Policy side (WebSocket.ValidInFront side) (fun _ => True) SocketCall.ShortPong where
  data := allows_data (.inr rfl)
  close := fun code _ mask => allows_other (by decide) mask _ _
  refusals := fun _ _ _ => trivial
  reply := fun t f rest _ _ _ _ mask => allows_other (by decide) mask _ _
  pong := by
    -- The ping passes the checks, so that it is valid, and its pong carries the same payload.
    intro t f rest valid taken incoming ping
    have control : f.isData = false := by simp [Frame.isData, ping]
    have passes : f.Passes side t.isContinuation t.message :=
      { taken with added := fun data => by rw [control] at data; cases data }
    have short := ((valid f rest incoming passes).control control).2
    exact permits_allows (by omega) short

section Taking

variable {side : Side}

/-- A receiver that does not fail has taken a frame that passes its checks. -/
theorem handleOneMessage_passes (side : Side) (ws : WebSocket) :
    (handleOneMessage side).Ensures ws
      (fun _ _ => ∃ (f : Frame) (rest : Bytes), ws.socket.incoming = f.encode ++ rest ∧
        f.Passes side ws.isContinuation ws.message) (fun _ _ => True) := by
  -- What was handled was read first, and a data frame was then added to the message.
  refine (handleOneMessage_ensures side ws).mono ?_ (fun _ _ _ => trivial)
  rintro - ws' ⟨-, f, rest, reads, taken, incoming, handled⟩
  refine ⟨f, rest, incoming, taken, fun data => ?_⟩
  have takes := ((handled_data data).mp handled).1
  rw [← WebSocket.partFor_eq]
  exact (takesData_received ws rest reads).mp takes

/-- Where nothing else fails, a receiver takes any frame that passes its checks. -/
theorem handleOneMessage_takes {ws : WebSocket} {f : Frame} {rest : Bytes}
    (passes : f.Passes side ws.isContinuation ws.message)
    (incoming : ws.socket.incoming = f.encode ++ rest) (connected : ws.socket.connected = true)
    (succeed : ws.ReadsSucceed) (sleeps : ws.SleepsSucceed) (advances : ws.ClockAdvances) :
    ∃ ws', (handleOneMessage side).Yields ws () ws' := by
  -- The frame is read whole, since no read fails and it is accepted.
  obtain ⟨reads, read⟩ := readMessage_yields ws connected succeed passes.toAccepted incoming
  let read' := ws.received f rest reads
  -- Processing it cannot throw either, whatever its opcode is.
  have processed : (processMessage side).Ensures read' (fun _ _ => True) (fun _ _ => False) := by
    refine (processMessage_agrees side f read' rfl).ensures ?_
    have data (data : f.isData = true) :
        handleDataPayload.Ensures read' (fun _ _ => True) (fun _ _ => False) := by
      have added := passes.added data
      rw [← WebSocket.partFor_eq] at added
      exact (handleDataPayload_yields ((takesData_received ws rest reads).mpr added)).ensures trivial
    -- Only a sleep that fails could make an answer throw.
    have never (e : Fault) (ws' : WebSocket) (failed : ¬ read'.SleepsSucceed) : False := failed sleeps
    cases opcode : f.opcode with
    | kCloseOpcode => exact (answerCloseHandshake_ensures side read').mono (fun _ _ _ => trivial) never
    | kPingOpcode => exact (sendPong_ensures side read').mono (fun _ _ _ => trivial) never
    | kPongOpcode => exact (Program.yields_pure _ _).ensures trivial
    | kContinutationOpcode => exact data (by simp [Frame.isData, opcode])
    | kTextOpcode => exact data (by simp [Frame.isData, opcode])
    | kBinaryOpcode => exact data (by simp [Frame.isData, opcode])
  have whole : (handleOneMessage side).Ensures ws (fun _ _ => True) (fun _ _ => False) :=
    read.bind_ensures processed
  -- Handling a frame ends, and there is no exception left that it could end in.
  rcases (handleOneMessage_halts side advances).cases with ⟨_, ws', returned⟩ | ⟨e, ws', threw⟩
  · exact ⟨ws', returned⟩
  · exact (whole.throws threw).elim

end Taking

/--
Whatever else there is, a receiver takes none but valid frames and passes none but short pongs for
them if and only if the frame in front, should it pass the checks, is valid. In a conversation where
this holds of each frame that is handled, only short pongs are ever passed, and each frame that is
taken is valid.
-/
theorem taken_frames_are_valid (side : Side) :
    (∀ flag message bytes,
      (∀ ws ws' : WebSocket, ws.isContinuation = flag → ws.message = message →
        ws.socket.incoming = bytes → (handleOneMessage side).Yields ws () ws' →
          (∃ (f : Frame) (rest : Bytes), bytes = f.encode ++ rest ∧ f.Valid) ∧
          ∀ call ∈ ws'.socket.passed, call ∈ ws.socket.passed ∨ call.ShortPong) ↔
        ValidInFront side flag message bytes) ∧
    ∀ start : WebSocket, start.socket.passed = [] →
      (∀ t, Reached side (WebSocket.ValidInFront side) (fun _ => True) start t →
        ∀ call ∈ t.socket.passed, call.ShortPong) ∧
      ∀ ws timeout, Conversation side (WebSocket.ValidInFront side) (fun _ => True) start ws →
        (∀ t, HandlesIn side timeout ws t → t.ValidInFront side) →
        ∀ t t', HandlesIn side timeout ws t → (handleOneMessage side).Yields t () t' →
          ∃ (f : Frame) (rest : Bytes), t.socket.incoming = f.encode ++ rest ∧ f.Valid := by
  -- What is taken passes the checks, and so it is valid where every frame that does so is.
  have takes (ws ws' : WebSocket) (valid : ws.ValidInFront side)
      (returned : (handleOneMessage side).Yields ws () ws') :
      ∃ (f : Frame) (rest : Bytes), ws.socket.incoming = f.encode ++ rest ∧ f.Valid := by
    obtain ⟨f, rest, incoming, passes⟩ := (handleOneMessage_passes side ws).yields returned
    exact ⟨f, rest, incoming, valid f rest incoming passes⟩
  refine ⟨fun flag message bytes => ⟨?_, ?_⟩, fun start unused => ⟨?_, ?_⟩⟩
  · intro always f rest front passes
    -- Where all goes well the frame is taken, and there is no other frame in front.
    let ws : WebSocket :=
      { WebSocket.running bytes with isContinuation := flag, message := message }
    have taken : ∃ ws', (handleOneMessage side).Yields ws () ws' :=
      handleOneMessage_takes passes front rfl (fun _ => rfl) (fun _ => rfl)
        (WebSocket.running_advances bytes)
    obtain ⟨ws', returned⟩ := taken
    obtain ⟨⟨g, rest', front', valid⟩, -⟩ := always ws ws' rfl rfl rfl returned
    obtain ⟨rfl, -⟩ := Frame.encode_inj (front.symm.trans front')
    exact valid
  · -- What was passed before is no concern of this frame, and may be of any kind.
    rintro valid ws ws' rfl rfl rfl returned
    have policy := (shortPong_policy side).weaken
      (fun call short => (.inr short : call ∈ ws.socket.passed ∨ call.ShortPong))
    have handled := policy.handleOneMessage_upholds valid (fun call before => .inl before)
    exact ⟨takes ws ws' valid returned, handled.yields returned⟩
  · exact fun t reached => (shortPong_policy side).reached unused reached
  · exact fun ws timeout _ met t t' here returned => takes t t' (met t here) returned

/-- A text frame with reserved bits is delivered, and a ping of 126 bytes is answered by as many. -/
theorem taken_frames_are_valid_fails :
    (¬ ∀ side bytes status message ws',
      (recv side [] 5).Yields (.running bytes) (status, message) ws' → status ≠ .kRecvError →
        ∀ (f : Frame) rest, bytes = f.encode ++ rest → f.Valid) ∧
    ¬ ∀ side bytes result ws', (recv side [] 5).Yields (.running bytes) result ws' →
      ∀ call ∈ ws'.socket.passed, call.ShortPong := by
  -- Both frames are such as a client may send, but for one field that no check looks at.
  let text := Frame.ofClient true .kTextOpcode [104, 105] (by decide)
  let reserved : Frame := { text with reserved := 7 }
  let payload : Bytes := List.replicate 126 112
  have size : payload.length = 126 := List.length_replicate
  let ping : Frame :=
    { text with
      opcode := .kPingOpcode
      form := .medium
      payload := payload
      fits := (List.length_replicate : payload.length = 126) ▸ (by decide : 126 < 2 ^ 16) }
  constructor
  · -- The text frame has all of its reserved bits set.
    intro always
    let ws' := (recv .server [] 5).after 9 (.running reserved.encode)
    have delivered : (recv .server [] 5).Yields (.running reserved.encode)
        (.kRecvText, [104, 105]) ws' := Program.yields_after (by decide +kernel)
    have valid := always .server reserved.encode _ _ ws' delivered (by decide) reserved []
      (List.append_nil _).symm
    exact absurd valid.reserved (by decide)
  · -- The payload of the ping is one byte longer than that of a control frame may be.
    intro always
    let ws' := (recv .server [] 5).after 9 (.running (ping.encode ++ text.encode))
    have delivered : (recv .server [] 5).Yields (.running (ping.encode ++ text.encode))
        (.kRecvText, [104, 105]) ws' := Program.yields_after (by decide +kernel)
    have passed : ws'.socket.passed = [.buffer (frameBytes none .kPongOpcode payload)] := by
      decide +kernel
    have short := always .server _ _ ws' delivered (.buffer (frameBytes none .kPongOpcode payload))
      (passed ▸ List.mem_singleton_self _)
    have bytes : frameBytes none .kPongOpcode payload = _ :=
      frameBytes_eq none .kPongOpcode (by omega) (by omega)
    -- The answer is the encoding of a pong with the same payload.
    rw [bytes, ← List.append_nil (Frame.encode _)] at short
    have small : payload.length ≤ 125 := short _ [] rfl rfl
    omega

end Rcom
