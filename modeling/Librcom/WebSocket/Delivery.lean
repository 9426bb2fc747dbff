import Librcom.WebSocket.Dialogue

/-! Two ends of a link: the messages that are received at one are those that were sent at the other. -/

namespace Rcom

open Effects

section Frames

/-- Frames on the wire can be taken off in one way only. -/
theorem encodeAll_front {front frames : List Frame} {rest : Bytes}
    (same : encodeAll front ++ rest = encodeAll frames) :
    ∃ back, frames = front ++ back ∧ rest = encodeAll back := by
  induction front generalizing frames with
  | nil => exact ⟨frames, rfl, by simpa using same⟩
  | cons f front ih =>
    rw [encodeAll_cons, List.append_assoc] at same
    cases frames with
    | nil => exact absurd same (f.encode_ne_nil _)
    | cons g frames =>
      -- The first frames are the same, since no frame is the beginning of another.
      rw [encodeAll_cons] at same
      obtain ⟨rfl, behind⟩ := Frame.encode_inj same
      obtain ⟨back, rfl, rest_eq⟩ := ih behind
      exact ⟨back, rfl, rest_eq⟩

/-- What a frame was given as. -/
def Frame.emission (f : Frame) : Emission := ⟨f.mask, f.opcode, f.payload⟩

/-- The messages of the frames that are given are those of the frames that are taken. -/
theorem messagesTaken_emission (frames : List Frame) :
    messagesTaken frames = messagesGiven (frames.map Frame.emission) := by
  rw [messagesGiven, List.filterMap_map]
  rfl

/-- What is given at ordinary lengths is on the wire as final frames. -/
theorem exists_frames {given : List Emission}
    (bounded : ∀ emission ∈ given, emission.payload.length ≤ kMaximumPayloadLength)
    (ordinary : ∀ emission ∈ given, emission.payload.length ≠ 65536) :
    ∃ frames : List Frame, frames.map Frame.emission = given ∧ encodeAll frames = emitted given ∧
      ∀ f ∈ frames, f.fin = true := by
  induction given with
  | nil => exact ⟨[], rfl, rfl, by simp⟩
  | cons emission given ih =>
    -- The induction is on the emissions, and gives the frames of those behind the first.
    obtain ⟨frames, same, bytes, final⟩ :=
      ih (fun other among => bounded other (List.mem_cons_of_mem _ among))
        (fun other among => ordinary other (List.mem_cons_of_mem _ among))
    -- One emission is one unfragmented frame; its length fits a field since it was bounded.
    have limit := bounded emission List.mem_cons_self
    have small : emission.payload.length < 2 ^ 64 := by
      unfold kMaximumPayloadLength at limit
      omega
    refine ⟨.unfragmented emission.mask emission.opcode emission.payload small :: frames, ?_, ?_, ?_⟩
    · rw [List.map_cons, same]
      rfl
    · rw [encodeAll_cons, bytes, ← frameBytes_eq _ _ small (ordinary emission List.mem_cons_self)]
      rfl
    · intro f member
      rcases List.mem_cons.mp member with rfl | member
      · rfl
      · exact final f member

end Frames

/-- No message of the one length that is not encoded as a frame was offered. -/
def Ordinary (reports : List Report) : Prop :=
  ∀ message, .sent message ∈ reports ∨ .unsent message ∈ reports → message.2.length ≠ 65536

/-- No ping of the one length whose answer is not encoded as a frame comes in. -/
def WebSocket.PingedOrdinarily (ws : WebSocket) : Prop :=
  ∀ frames rest, ws.socket.incoming = encodeAll frames ++ rest →
    ∀ f ∈ pingsOf frames, f.payload.length ≠ 65536

/-- In few bytes there is no ping of that length. -/
theorem pingedOrdinarily_of_few {ws : WebSocket} (few : ws.socket.incoming.length < 65536) :
    ws.PingedOrdinarily := by
  intro frames rest incoming f member
  have among : f ∈ frames := (List.mem_filter.mp member).1
  obtain ⟨front, back, rfl⟩ := List.append_of_mem among
  -- The payload of a frame is a part of the bytes.
  have length := congrArg List.length incoming
  simp only [encodeAll_append, encodeAll_cons, Frame.encode, List.length_append, List.length_cons,
    wirePayload_length] at length
  omega

/-- What a dialogue gives is a sequence of final frames. -/
theorem Dialogue.frames {side : Side} {ws ws' : WebSocket} {reports : List Report} {taken : List Frame}
    {given : List Emission} (exchanged : Exchanged side ws taken given ws')
    (tells : Tells reports ws taken given ws') (ordinary : Ordinary reports)
    (pinged : ws.PingedOrdinarily) :
    ∃ frames : List Frame, frames.map Frame.emission = given ∧ encodeAll frames = emitted given ∧
      ∀ f ∈ frames, f.fin = true := by
  obtain ⟨late, sends, _, unsent, _, _⟩ := tells.sends
  obtain ⟨rest, read, _⟩ := exchanged.read
  apply exists_frames fun emission member => (exchanged.spoken emission member).2.2.2
  intro emission member
  obtain ⟨noPing, noContinuation, close, _⟩ := exchanged.spoken emission member
  -- A data frame has a message of the application in it.
  have data (message : Message) (has : messageIn emission.opcode emission.payload = some message)
      (same : message.2 = emission.payload) : emission.payload.length ≠ 65536 := by
    have given : message ∈ messagesGiven given := List.mem_filterMap.mpr ⟨emission, member, has⟩
    rw [sends] at given
    rw [← same]
    apply ordinary
    rcases List.mem_append.mp given with sent | late
    · obtain ⟨report, among, is⟩ := List.mem_filterMap.mp sent
      cases report <;> cases is
      exact .inl among
    · exact .inr (unsent message late)
  cases opcode : emission.opcode with
  | kTextOpcode => exact data (.kTextMessage, emission.payload) (by rw [opcode]; rfl) rfl
  | kBinaryOpcode => exact data (.kBinaryMessage, emission.payload) (by rw [opcode]; rfl) rfl
  | kCloseOpcode =>
    rw [close opcode]
    decide
  | kPongOpcode =>
    -- The payload of a pong is that of a ping that was taken.
    have pong : emission.payload ∈ pongsGiven given :=
      List.mem_map.mpr ⟨emission, List.mem_filter.mpr ⟨member, by simp [opcode]⟩, rfl⟩
    rw [exchanged.pongs] at pong
    obtain ⟨f, among, same⟩ := List.mem_map.mp pong
    rw [← same]
    exact pinged taken rest read f among
  | kPingOpcode => exact absurd opcode noPing
  | kContinutationOpcode => exact absurd opcode noContinuation

/-- What was received at one end of a link, and what is still missing there, is what was sent at the other. -/
structure Carried (reports reports' : List Report) (late missing : List Message) : Prop where
  total : receivedIn reports' ++ missing = sentIn reports ++ late
  few : late.length ≤ 1
  unsent : ∀ message ∈ late, .unsent message ∈ reports
  ordered : (sentIn reports ++ late).Sublist (offeredIn reports)

section Carrying

variable {side : Side} {sender sender' receiver receiver' : WebSocket}
  {reports reports' : List Report}

/-- When all that was passed has come in and was read, and both ends are still open, nothing is missing. -/
def NothingLost (sender sender' receiver receiver' : WebSocket) : Prop :=
  wire sender.socket.passed ++ receiver.socket.incoming = wire sender'.socket.passed ∧
    sender'.socket.connected = true ∧ receiver'.socket.connected = true ∧
    receiver'.socket.incoming = []

/--
The frames that are taken at one end are the first of those that were given at the other.

What comes in begins where the sender began, behind what it had passed before.
-/
theorem Dialogue.carries (speaks : Dialogue side sender reports sender')
    (listens : Dialogue side.opposite receiver reports' receiver') (fresh : receiver.Fresh)
    (sleeps : sender.SleepsSucceed) (sleeps' : receiver.SleepsSucceed) (ordinary : Ordinary reports)
    (pinged : sender.PingedOrdinarily)
    (comes : wire sender.socket.passed ++ receiver.socket.incoming <+: wire sender'.socket.passed) :
    ∃ late missing, Carried reports reports' late missing ∧
      (NothingLost sender sender' receiver receiver' → missing = [] ∧ late = []) := by
  obtain ⟨taken, given, exchanged, tells⟩ := speaks.exchanged sleeps
  obtain ⟨taken', given', exchanged', tells'⟩ := listens.exchanged sleeps'
  obtain ⟨frames, same, bytes, final⟩ := Dialogue.frames exchanged tells ordinary pinged
  obtain ⟨late, sends, few, unsent, noneLate, ordered⟩ := tells.sends
  obtain ⟨calls, passed, part, all⟩ := exchanged.passed
  rw [← bytes] at part all
  -- What was passed before the dialogue is in front on both sides.
  rw [passed, wire_append, List.prefix_append_right_inj] at comes
  obtain ⟨rest, read, left⟩ := exchanged'.read
  obtain ⟨behind, incoming⟩ := comes.trans part
  rw [read, List.append_assoc] at incoming
  obtain ⟨back, rfl, _⟩ := encodeAll_front incoming
  have received := tells'.receives (fun f member _ => final f (List.mem_append_left _ member)) fresh
  have total : receivedIn reports' ++ messagesTaken back = sentIn reports ++ late := by
    rw [← received, ← messagesTaken_append, messagesTaken_emission, same, sends]
  refine ⟨late, messagesTaken back, ⟨total, few, unsent, ordered⟩, ?_⟩
  rintro ⟨allCame, open_sender, open_receiver, nothing⟩
  -- Nothing is left of what came in, and that was all, so that no frame is behind.
  have empty : rest = [] := (left open_receiver).symm.trans nothing
  rw [passed, wire_append, List.append_cancel_left_eq] at allCame
  have complete := all open_sender
  rw [← allCame, read, empty, List.append_nil, encodeAll_append] at complete
  have none : encodeAll back = [] := by simpa using complete
  have last : back = [] := by
    cases back with
    | nil => rfl
    | cons f back =>
      rw [encodeAll_cons] at none
      exact absurd none (f.encode_ne_nil _)
  exact ⟨by rw [last]; rfl, noneLate open_sender⟩

end Carrying

/--
Whatever the two applications call, and whatever fails: the messages that are received at one end of a
link are those that were sent at the other, in order, each once and unaltered.

A message whose send call failed may be the last one to arrive. When all that was passed has come in and
was read, and both ends are still open, no message is missing.
-/
theorem messages_arrive_in_order {side : Side} {sender sender' receiver receiver' : WebSocket}
    {reports reports' : List Report} (speaks : Dialogue side sender reports sender')
    (listens : Dialogue side.opposite receiver reports' receiver') (fresh : receiver.Fresh)
    (sleeps : sender.SleepsSucceed) (sleeps' : receiver.SleepsSucceed) (ordinary : Ordinary reports)
    (pinged : sender.PingedOrdinarily)
    (comes : wire sender.socket.passed ++ receiver.socket.incoming <+: wire sender'.socket.passed) :
    (∃ late, late.length ≤ 1 ∧ (∀ message ∈ late, .unsent message ∈ reports) ∧
      (sentIn reports ++ late).Sublist (offeredIn reports) ∧
      receivedIn reports' <+: sentIn reports ++ late) ∧
    (NothingLost sender sender' receiver receiver' → receivedIn reports' = sentIn reports) := by
  -- The wire carries what was sent, and at most one message more whose sender gave up.
  obtain ⟨late, missing, carried, complete⟩ :=
    speaks.carries listens fresh sleeps sleeps' ordinary pinged comes
  constructor
  · exact ⟨late, carried.few, carried.unsent, carried.ordered, missing, carried.total⟩
  · intro nothingLost
    obtain ⟨noneMissing, noneLate⟩ := complete nothingLost
    have total := carried.total
    rw [noneMissing, noneLate, List.append_nil, List.append_nil] at total
    exact total

/-- A client sends a message, and a server receives it. -/
theorem messages_arrive_in_order_hi :
    let sender := WebSocket.steady []
    let sender' := (send .client [104, 105] .kTextMessage).after 9 sender
    let receiver := WebSocket.running (wire sender'.socket.passed)
    let receiver' := (recv .server [] 5).after 9 receiver
    receivedIn [.received (.kTextMessage, [104, 105])] =
      sentIn [.sent (.kTextMessage, [104, 105])] ∧ receiver'.socket.connected = true := by
  intro sender sender' receiver receiver'
  have sent : (send .client [104, 105] .kTextMessage).Yields sender true sender' :=
    Program.yields_after (by decide +kernel)
  have received : (recv .server [] 5).Yields receiver (MessageType.kTextMessage.status, [104, 105])
      receiver' := Program.yields_after (by decide +kernel)
  have connected : receiver'.socket.connected = true := by decide +kernel
  have ordinary : Ordinary [.sent (.kTextMessage, [104, 105])] := by
    intro message offered
    have same : message = (.kTextMessage, [104, 105]) := by simpa using offered
    rw [same]
    decide
  have arrive := messages_arrive_in_order (.call (.sent (.kTextMessage, [104, 105]) sent) (.stop _))
    (.call (.received [] 5 (.kTextMessage, [104, 105]) received) (.stop _)) (fun _ => rfl)
    (fun _ => rfl) (fun _ => rfl) ordinary (pingedOrdinarily_of_few (by decide)) List.prefix_rfl
  exact ⟨arrive.2 ⟨rfl, by decide +kernel, connected, by decide +kernel⟩, connected⟩

end Rcom
