import Librcom.WebSocket.ControlFrames

/-! The codes that the Close frames of an endpoint carry. -/

namespace Rcom

open Effects

/-- The code is one that no endpoint puts into a Close frame. -/
def Unsendable (code : CloseCode) : Prop := code = kCloseMissingCode ∨ code = kCloseUnexpected

/-- The payload of a Close frame begins with a code that no endpoint puts there. -/
def CarriesUnsendable (payload : Bytes) : Prop :=
  ∃ code, Unsendable code ∧ Endian.toBigEndian 2 code.toNat <+: payload

/-- If the call passes a Close frame, then not with a code that no endpoint puts there. -/
abbrev SocketCall.SendableClose : SocketCall → Prop :=
  SocketCall.Allows .kCloseOpcode fun payload => ¬ CarriesUnsendable payload

/-- The payload of a Close frame is a code, and one that can be sent back. -/
def Returnable (payload : Bytes) : Prop := payload.length = 2 ∧ ¬ CarriesUnsendable payload

/-- If a Close frame is in front of what is to be read, then it carries a code to be sent back. -/
def WebSocket.ReturnableInFront (ws : WebSocket) : Prop :=
  ∀ (f : Frame) rest, ws.socket.incoming = f.encode ++ rest → f.opcode = .kCloseOpcode →
    Returnable f.payload

/-- A code is read back from the two bytes that it is written as. -/
theorem carriesUnsendable_iff {code : CloseCode} :
    CarriesUnsendable (Endian.toBigEndian 2 code.toNat) ↔ Unsendable code := by
  constructor
  · rintro ⟨other, unsendable, front⟩
    -- Both are two bytes long, so that one begins the other only if they are the same.
    have same := front.eq_of_length (by simp)
    have numbers := Endian.toBigEndian_inj (other.toNat_lt.trans_eq (by norm_num))
      (code.toNat_lt.trans_eq (by norm_num)) same
    rwa [← UInt16.toNat_inj.mp numbers]
  · exact fun unsendable => ⟨code, unsendable, List.prefix_refl _⟩

/-- The number in two bytes is written as these two bytes. -/
theorem toBigEndian_convertToUint16 {payload : Bytes} (size : payload.length = 2) :
    Endian.toBigEndian 2 (convertToUint16 payload).toNat = payload := by
  obtain ⟨high, low, rfl⟩ := List.length_eq_two.mp size
  have number : (convertToUint16 [high, low]).toNat = Endian.ofLittleEndian [low, high] := by
    have below := high.toNat_lt
    have below' := low.toNat_lt
    -- The low byte fills the bits that the shift of the high byte leaves free.
    have joined : high.toNat <<< 8 ||| low.toNat = high.toNat * 256 + low.toNat := by
      rw [← Nat.shiftLeft_add_eq_or_of_lt below', Nat.shiftLeft_eq]
    show (UInt16.ofNat (high.toNat <<< 8 ||| low.toNat)).toNat = _
    rw [joined, UInt16.toNat_ofNat', Endian.ofLittleEndian_cons, Endian.ofLittleEndian_cons]
    simp only [Endian.ofLittleEndian, List.map_nil, Nat.ofDigits_nil]
    omega
  rw [number]
  exact Endian.toBigEndian_ofLittleEndian_reverse [high, low]

/-- A code that was received is sent back. -/
theorem toBigEndian_answerCode {payload : Bytes} (size : payload.length = 2) :
    Endian.toBigEndian 2 (answerCode payload).toNat = payload := by
  rw [answerCode, if_pos size, toBigEndian_convertToUint16 size]

/-- Any other payload is answered with the code for a missing one. -/
theorem carriesUnsendable_answerCode {payload : Bytes} (other : payload.length ≠ 2) :
    CarriesUnsendable (Endian.toBigEndian 2 (answerCode payload).toNat) := by
  rw [answerCode, if_neg other]
  exact carriesUnsendable_iff.mpr (.inl rfl)

/-- Whoever is asked for sendable codes only, by the application and the peer, sends no others. -/
theorem sendableClose_policy (side : Side) :
    Policy side WebSocket.ReturnableInFront (fun code => ¬ Unsendable code)
      SocketCall.SendableClose where
  data := allows_data (.inl rfl)
  close := by
    intro code sendable
    -- Two bytes are a short payload, and the code in them is the one that was asked for.
    refine permits_allows ?_ (mt carriesUnsendable_iff.mp sendable)
    rw [Endian.toBigEndian_length]
    decide
  refusals := by
    -- The three codes of a receive call are none of the two that cannot be sent.
    unfold Unsendable
    rintro what code (rfl | rfl | rfl) <;> decide
  reply := by
    -- A payload that can be returned is returned as it is.
    intro t f rest returnable _ incoming close
    obtain ⟨size, sendable⟩ := returnable f rest incoming close
    rw [toBigEndian_answerCode size]
    exact permits_allows (by omega) sendable
  pong := fun t f rest _ _ _ _ mask => allows_other (by decide) mask _ _

/-- The reply to a Close frame is one Close frame, with a code and nothing else. -/
theorem handleOneMessage_replies {side : Side} {ws : WebSocket} {f : Frame} {rest : Bytes}
    (incoming : ws.socket.incoming = f.encode ++ rest) (close : f.opcode = .kCloseOpcode) :
    (handleOneMessage side).Ensures ws
      (fun _ ws' => ∃ mask, ws'.socket.passed =
        ws.socket.passed ++ [.buffer (Frame.close mask (answerCode f.payload)).encode])
      (fun _ _ => True) := by
  -- A Close frame that was read is handled by passing the reply on the open link.
  refine (handleOneMessage_frame incoming).mono ?_ (fun _ _ _ => trivial)
  rintro - ws' ⟨connected, reads, handled⟩
  rw [Handled, close] at handled
  have passed := handled.1.passed
  rw [show (ws.received f rest reads).socket.connected = true from connected, if_pos rfl,
    closeCall_eq] at passed
  exact ⟨_, passed⟩

/--
Whatever else there is, a Close frame is answered by one Close frame with the beginning of its
payload, and not with a code that no endpoint sends, if and only if its payload is a code that can
be sent. In a conversation where this holds of each Close frame that is handled and of each code
that the application closes with, no Close frame with one of the other codes is ever passed.
-/
theorem close_frames_are_answered (side : Side) :
    (∀ payload : Bytes, payload.length ≤ kMaximumPayloadLength →
      ((∀ (f : Frame) (rest : Bytes) (ws ws' : WebSocket), f.opcode = .kCloseOpcode →
          f.payload = payload → ws.socket.incoming = f.encode ++ rest →
          (handleOneMessage side).Yields ws () ws' →
          ∃ reply : Frame, ws'.socket.passed = ws.socket.passed ++ [.buffer reply.encode] ∧
            reply.opcode = .kCloseOpcode ∧ reply.payload = payload.take 2 ∧
            ¬ CarriesUnsendable reply.payload) ↔
        Returnable payload)) ∧
    ∀ start t : WebSocket, start.socket.passed = [] →
      Reached side WebSocket.ReturnableInFront (fun code => ¬ Unsendable code) start t →
      ∀ call ∈ t.socket.passed, call.SendableClose := by
  refine ⟨fun payload bounded => ⟨?_, ?_⟩, ?_⟩
  · -- The Close frame of this payload is put in front of an endpoint where all goes well.
    intro always
    have small : payload.length < 2 ^ 64 := by
      unfold kMaximumPayloadLength at bounded
      omega
    let mask : Option Mask := if side = .server then some (Vector.replicate 4 0) else none
    let f := Frame.unfragmented mask .kCloseOpcode payload small
    have passes : f.Passes side false [] :=
      { masked := by cases side <;> rfl
        bounded := bounded
        added := fun data => absurd data (by simp [f, Frame.isData, Frame.unfragmented]) }
    let ws := WebSocket.running (f.encode ++ [])
    have taken : ∃ ws', (handleOneMessage side).Yields ws () ws' :=
      handleOneMessage_takes passes rfl rfl (fun _ => rfl) (fun _ => rfl)
        (WebSocket.running_advances _)
    obtain ⟨ws', returned⟩ := taken
    obtain ⟨reply, passed, -, front, sendable⟩ := always f [] ws ws' rfl rfl rfl returned
    obtain ⟨mask', passed'⟩ := (handleOneMessage_replies rfl rfl).yields returned
    -- The one frame that was passed is the one that is asked for.
    have calls := List.append_cancel_left (passed.symm.trans passed')
    have bytes := SocketCall.buffer.inj (List.singleton_inj.mp calls)
    obtain ⟨rfl, -⟩ := Frame.encode_inj (congrArg (· ++ ([] : Bytes)) bytes)
    change Endian.toBigEndian 2 (answerCode payload).toNat = _ at front
    change ¬ CarriesUnsendable (Endian.toBigEndian 2 (answerCode payload).toNat) at sendable
    -- Otherwise the answer would carry the code for a missing one, which cannot be sent.
    have size : payload.length = 2 := by
      by_contra other
      exact sendable (carriesUnsendable_answerCode other)
    rw [toBigEndian_answerCode size] at sendable
    exact ⟨size, sendable⟩
  · -- A payload of two bytes is its own answer.
    rintro ⟨size, sendable⟩ f rest ws ws' close rfl incoming returned
    obtain ⟨mask, passed⟩ := (handleOneMessage_replies incoming close).yields returned
    have answer : (Frame.close mask (answerCode f.payload)).payload = f.payload :=
      toBigEndian_answerCode size
    refine ⟨_, passed, rfl, ?_, ?_⟩
    · rw [answer, List.take_of_length_le (Nat.le_of_eq size)]
    · rwa [answer]
  · exact fun start t unused reached => (sendableClose_policy side).reached unused reached

/-- An empty Close frame, and one with a reason, are both answered with the code for a missing one. -/
theorem close_frames_are_answered_fails :
    (¬ ∀ (side : Side) (f : Frame) result ws', f.opcode = .kCloseOpcode → f.payload.length ≤ 125 →
      (recv side [] 5).Yields (.running f.encode) result ws' →
      ∃ reply : Frame, ws'.socket.passed = [.buffer reply.encode] ∧
        reply.payload = f.payload.take 2) ∧
    ¬ ∀ (side : Side) bytes result ws', (recv side [] 5).Yields (.running bytes) result ws' →
      ∀ call ∈ ws'.socket.passed, call.SendableClose := by
  -- The answer to both frames is the same.
  let empty := Frame.ofClient true .kCloseOpcode [] (by decide)
  let reasoned := Frame.ofClient true .kCloseOpcode [3, 233, 98, 121, 101] (by decide)
  let missing := Frame.close none kCloseMissingCode
  constructor
  · -- The payload begins with a code and goes on with a reason, and the code is not sent back.
    intro always
    let ws' := (recv .server [] 5).after 9 (.running reasoned.encode)
    have closed : (recv .server [] 5).Yields (.running reasoned.encode) (.kRecvClosed, []) ws' :=
      Program.yields_after (by decide +kernel)
    have passed : ws'.socket.passed = [.buffer missing.encode] := by decide +kernel
    obtain ⟨reply, passed', front⟩ := always .server reasoned _ ws' rfl (by decide) closed
    have calls := List.singleton_inj.mp (passed'.symm.trans passed)
    obtain ⟨rfl, -⟩ := Frame.encode_inj (congrArg (· ++ ([] : Bytes)) (SocketCall.buffer.inj calls))
    exact absurd front (by decide)
  · -- An empty payload has no code, and the code for a missing one goes over the wire.
    intro always
    let ws' := (recv .server [] 5).after 9 (.running empty.encode)
    have closed : (recv .server [] 5).Yields (.running empty.encode) (.kRecvClosed, []) ws' :=
      Program.yields_after (by decide +kernel)
    have passed : ws'.socket.passed = [.buffer missing.encode] := by decide +kernel
    have sendable := always .server _ _ ws' closed (.buffer missing.encode)
      (passed ▸ List.mem_singleton_self _)
    have carries : CarriesUnsendable missing.payload := carriesUnsendable_iff.mpr (.inl rfl)
    exact sendable missing [] (by rw [List.append_nil]) rfl carries

end Rcom
