import Librcom.WebSocket.Deadlines
import Librcom.WebSocket.Reassembly

/-! The status of a receive call tells whether the link is still open. -/

namespace Rcom

open Effects

/-- Handling a frame leaves its header where the status is decided from. -/
theorem Handled.header {side : Side} {f : Frame} {ws ws' : WebSocket}
    (handled : Handled side f ws ws') : ws'.frameHeader = ws.frameHeader := by
  unfold Handled at handled
  -- Only a close frame and a ping send, and both keep the header that was read.
  cases opcode : f.opcode <;> rw [opcode] at handled
  case kCloseOpcode => exact handled.2
  case kPingOpcode => exact (FrameSent.kept handled).header
  case kPongOpcode => exact congrArg WebSocket.frameHeader handled
  all_goals
    rw [handled.2]
    rfl

/-- While the link is open, handling a frame reads nothing more. -/
theorem Handled.incoming {side : Side} {f : Frame} {ws ws' : WebSocket}
    (handled : Handled side f ws ws') (connected : ws'.socket.connected = true) :
    ws'.socket.incoming = ws.socket.incoming := by
  unfold Handled at handled
  cases opcode : f.opcode <;> rw [opcode] at handled
  -- A close frame closes the link, so that it is not open afterwards.
  case kCloseOpcode => exact absurd connected (by simp [handled.1.closed])
  case kPingOpcode => exact (FrameSent.kept handled).incoming
  case kPongOpcode => exact congrArg (·.socket.incoming) handled
  all_goals
    rw [handled.2]
    rfl

/-- The link is open, and what was read of the peer's bytes is in front of what is left. -/
structure StillOpen (start ws : WebSocket) : Prop where
  connected : ws.socket.connected = true
  consumed : ws.socket.incoming <:+ start.socket.incoming

/-- The call took a final data frame, which is the end of the message. -/
def TookFinalFrame (side : Side) (start ws' : WebSocket) : Prop :=
  ∃ f : Frame, f.Accepted side ∧ f.isData = true ∧ f.fin = true ∧
    f.encode ++ ws'.socket.incoming <:+ start.socket.incoming ∧ f.payload <:+ ws'.message

/-- What a status says about the link and about the call. -/
def LinkStatus (side : Side) (start : WebSocket) : RecvStatus → WebSocket → Prop
  | .kRecvError, ws' | .kRecvClosed, ws' => ws'.socket.connected = false
  | .kRecvTimeOut, ws' => ws'.socket.connected = true
  | .kRecvText, ws' | .kRecvBinary, ws' =>
    ws'.socket.connected = true ∧ TookFinalFrame side start ws'

/-- A round either leaves the link open for the next, or gives a status that is true. -/
theorem tryRecvRound_status (side : Side) (startTime timeout remainingTime : ℚ)
    {start ws : WebSocket} (still : StillOpen start ws) :
    (tryRecvRound side startTime timeout remainingTime).Ensures ws
      (fun turn ws' => ws.Later ws' ∧
        Program.Turn (fun _ ws' => StillOpen start ws') (LinkStatus side start) turn ws')
      (fun e ws' => (e.IsRecvError ∧ ws.Later ws') ∨ ¬ ws.SleepsSucceed) := by
  have looked : ws.Later ws.looked := .of_linux rfl
  refine (tryRecvRound_ensures side startTime timeout
    (handleOneMessage_ensures side ws.looked)).mono ?_ ?_
  · intro turn ws' round
    cases round with
    -- The time is up before anything is read.
    | expired _ => exact ⟨.refl ws, still.connected⟩
    | nothing _ => exact ⟨looked.trans (ws.looked.later_pass 1 0 0), still.connected, still.consumed⟩
    -- The frame that completes a message is a data frame, and its payload is at the end of the
    -- message.
    | complete handled complete =>
      obtain ⟨connected, f, rest, reads, accepted, incoming, handled⟩ := handled
      have later : ws.Later (ws.looked.received f rest reads) := .of_linux rfl
      refine ⟨later.trans handled.later, ?_⟩
      rw [handled.header, show (ws.looked.received f rest reads).frameHeader = f.header from rfl,
        completes_header, Bool.and_eq_true] at complete
      obtain ⟨data, fin⟩ := complete
      obtain ⟨_, rfl⟩ := (handled_data data).mp handled
      have took : TookFinalFrame side start (ws.looked.received f rest reads).dataHandled :=
        ⟨f, accepted, data, fin, incoming ▸ still.consumed, List.suffix_append _ _⟩
      have status (ws' : WebSocket) (holds : ws'.socket.connected = true ∧
          TookFinalFrame side start ws') : LinkStatus side start ws'.messageStatus ws' := by
        unfold WebSocket.messageStatus
        split
        · exact holds
        · exact holds
      exact status _ ⟨connected, took⟩
    | closed handled disconnected _ =>
      -- The frame was a close frame, and the link says so too.
      obtain ⟨_, f, rest, reads, _, _, handled⟩ := handled
      have later : ws.Later (ws.looked.received f rest reads) := .of_linux rfl
      exact ⟨later.trans handled.later, disconnected⟩
    | @more ws' _ handled connected _ =>
      obtain ⟨_, f, rest, reads, _, incoming, handled⟩ := handled
      have later : ws.Later (ws.looked.received f rest reads) := .of_linux rfl
      -- The bytes of the frame were in front of those that are left.
      have left : rest <:+ ws.socket.incoming := ⟨f.encode, incoming.symm⟩
      refine ⟨(later.trans handled.later).trans (ws'.later_pass 1 0 0), connected, ?_⟩
      show ws'.socket.incoming <:+ _
      rw [handled.incoming connected]
      exact left.trans still.consumed
  · rintro e ws' ((⟨isRecvError, idle⟩ | failed) | ⟨isRecvError, rfl⟩)
    · exact .inl ⟨isRecvError, looked.trans idle.later⟩
    · exact .inr failed
    · exact .inl ⟨isRecvError, looked⟩

/-- From an open link, the rounds of a receive call end in a status that is true. -/
theorem tryRecvRounds_status (side : Side) (startTime timeout remainingTime : ℚ) {start : WebSocket}
    (connected : start.socket.connected = true) (sleeps : start.SleepsSucceed) :
    (Program.iterate (tryRecvRound side startTime timeout) remainingTime).Ensures start
      (LinkStatus side start) (fun e ws' => e.IsRecvError ∧ start.Later ws') := by
  refine Program.Ensures.iterate (fun _ ws => start.Later ws ∧ StillOpen start ws)
    -- The link is open until a round ends the call, and the bytes are read from the front.
    ⟨.refl start, connected, List.suffix_rfl⟩ ?_
  intro remainingTime ws ⟨later, still⟩
  refine (tryRecvRound_status side startTime timeout remainingTime still).mono ?_ ?_
  · intro turn ws' ⟨further, turned⟩
    cases turn with
    | inl _ => exact ⟨later.trans further, turned⟩
    | inr _ => exact turned
  · intro e ws' failed
    obtain ⟨isRecvError, further⟩ := failed.resolve_right (not_not_intro (later.sleeps sleeps))
    exact ⟨isRecvError, later.trans further⟩

/-- What a failed call does about the link: it is closed, and the status says so. -/
theorem recvHandler_status (side : Side) (start : WebSocket) {e : Fault}
    (isRecvError : e.IsRecvError) {ws : WebSocket} (sleeps : ws.SleepsSucceed) :
    (recvHandler side e).Ensures ws (LinkStatus side start) (fun _ _ => False) := by
  cases e with
  | runtimeError _ => exact isRecvError.elim
  | recvError _ code =>
    refine (closeWithHandshake_ensures side code sleeps).bind fun _ ws' closing => ?_
    exact Program.ensures_pure closing.closed

/--
On an open link, whatever the peer sends and whatever fails, a receive call throws nothing and its
status is true. The call ends if the clock advances.
-/
theorem recv_status_true (side : Side) {ws : WebSocket} (connected : ws.socket.connected = true)
    (sleeps : ws.SleepsSucceed) (buffer : Bytes) (timeout : ℚ) :
    (recv side buffer timeout).Ensures ws (fun result ws' => LinkStatus side ws result.1 ws')
      (fun _ _ => False) ∧
    (ws.ClockAdvances → (recv side buffer timeout).Halts ws) := by
  -- The call has read the clock once before its first round.
  have began : ws.Later ws.started := ⟨1, 0, rfl, rfl⟩
  have rounds := @tryRecvRounds_status side ws.linux.clock.head timeout timeout ws.started connected (began.sleeps sleeps)
  constructor
  · refine (recv_ensures rounds ?_ buffer).mono (fun _ _ holds => holds.2) (fun _ _ failed => failed)
    -- An exception of a round is turned into a status by the handler around the loop.
    intro e ws' ⟨isRecvError, later⟩
    exact recvHandler_status side _ isRecvError ((began.trans later).sleeps sleeps)
  · intro advances
    refine recv_halts ⟨rounds, tryRecvRounds_halts side _ _ _ (advances.later began)⟩ ?_ buffer
    intro e ws' ⟨_, later⟩
    have further := began.trans later
    exact recvHandler_halts side e (further.sleeps sleeps) (advances.later further)

/-- The rule for a server to which a client has said hi. -/
theorem recv_status_true_hi :
    let ws := WebSocket.running (Frame.ofClient true .kTextOpcode [104, 105] (by decide)).encode
    (recv .server [] 5).Achieves ws (fun result ws' => LinkStatus .server ws result.1 ws')
      (fun _ _ => False) := by
  intro ws
  have status := @recv_status_true .server ws rfl (fun _ => rfl) [] 5
  exact ⟨status.1, status.2 (WebSocket.running_advances _)⟩

end Rcom
