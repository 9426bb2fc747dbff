import Librcom.WebSocket.ReadLaws

/-! Whatever a receiver accepts is a frame, and whatever it does not accept it reports. -/

namespace Rcom

open Effects

/-- The exception is one that a receive call answers by closing the link. -/
def Fault.IsRecvError : Fault → Prop
  | recvError _ _ => True
  | runtimeError _ => False

namespace WebSocket

/-- The state with what reading a frame may change taken from another state. -/
def adopt (ws ws' : WebSocket) : WebSocket :=
  { ws with
    socket :=
      { ws.socket with
        incoming := ws'.socket.incoming
        readFaults := ws'.socket.readFaults }
    frameHeader := ws'.frameHeader
    inputMessageLength := ws'.inputMessageLength
    inputMask := ws'.inputMask
    inputPayloadBuffer := ws'.inputPayloadBuffer }

/-- The later state differs only in what reading a frame may change. -/
def Reading (ws ws' : WebSocket) : Prop := ws' = ws.adopt ws'

/-- To do nothing is to read nothing. -/
theorem Reading.refl (ws : WebSocket) : ws.Reading ws := rfl

/-- Two parts that read are one. -/
theorem Reading.trans {first second third : WebSocket} (front : first.Reading second)
    (back : second.Reading third) : first.Reading third :=
  calc third = second.adopt third := back
    _ = (first.adopt second).adopt third := congrArg (adopt · third) front
    _ = first.adopt third := rfl

/-- Reading ends in an exception that closes the link, after reading part of a frame at most. -/
def Rejects (ws : WebSocket) (e : Fault) (ws' : WebSocket) : Prop :=
  e.IsRecvError ∧ ws.Reading ws'

/-- A frame is rejected, too, when the first bytes of it were read before. -/
theorem Rejects.after {ws mid ws' : WebSocket} {e : Fault} (rejected : mid.Rejects e ws')
    (front : ws.Reading mid) : ws.Rejects e ws' :=
  ⟨rejected.1, front.trans rejected.2⟩

end WebSocket

/-- A read takes the bytes in front, or it is rejected. -/
theorem socketRead_achieves (length : Nat) (ws : WebSocket) :
    (socketRead length).Achieves ws
      (fun bytes ws' => bytes.length = length ∧ ws.socket.connected = true ∧
        ∃ rest, ws.socket.incoming = bytes ++ rest ∧ ws' = ws.readTo rest 1)
      ws.Rejects := by
  have read : (onSocket (Socket.read length)).Yields ws (ws.socket.read length).1
      { ws with socket := (ws.socket.read length).2 } := Program.yields_act _ ws
  -- The socket has the bytes, or it has not and the call throws.
  refine read.bind_achieves ?_
  rcases Socket.read_cases length ws.socket with
    ⟨bytes, rest, size, connected, incoming, taken⟩ | ⟨rest, failed⟩
  · rw [taken]
    exact (Program.yields_pure _ _).achieves ⟨size, connected, rest, incoming, rfl⟩
  · rw [failed]
    exact Program.achieves_raise ⟨trivial, rfl⟩

/-- The header is read from two bytes, whatever they are. -/
theorem inputReadFrameHeader_achieves (ws : WebSocket) :
    inputReadFrameHeader.Achieves ws
      (fun _ ws' => ws.socket.connected = true ∧ ∃ first second rest,
        ws.socket.incoming = first :: second :: rest ∧
        ws' = (ws.readTo rest 1).withHeader (.ofBytes first second))
      ws.Rejects := by
  refine (socketRead_achieves 2 ws).bind ?_
  rintro bytes _ ⟨size, connected, rest, incoming, rfl⟩
  -- A read that succeeds gives as many bytes as were asked for, and here this is two.
  obtain ⟨first, second, rfl⟩ := List.length_eq_two.mp size
  exact (Program.yields_update _ _).achieves ⟨connected, first, second, rest, incoming, rfl⟩

/-- Any two bytes are read as a number of two bytes. -/
theorem inputReadUint16_achieves (ws : WebSocket) :
    inputReadUint16.Achieves ws
      (fun value ws' => value < 2 ^ 16 ∧ ∃ rest,
        ws.socket.incoming = Endian.toBigEndian 2 value ++ rest ∧ ws' = ws.readTo rest 1)
      ws.Rejects := by
  refine (socketRead_achieves 2 ws).bind ?_
  rintro bytes _ ⟨size, -, rest, incoming, rfl⟩
  exact (Program.yields_pure _ _).achieves ⟨Endian.byteSwap_lt 2 _, rest,
    (Endian.toBigEndian_byteSwap size).symm ▸ incoming, rfl⟩

/-- Any eight bytes are read as a number of eight bytes. -/
theorem inputReadUint64_achieves (ws : WebSocket) :
    inputReadUint64.Achieves ws
      (fun value ws' => value < 2 ^ 64 ∧ ∃ rest,
        ws.socket.incoming = Endian.toBigEndian 8 value ++ rest ∧ ws' = ws.readTo rest 1)
      ws.Rejects := by
  refine (socketRead_achieves 8 ws).bind ?_
  rintro bytes _ ⟨size, -, rest, incoming, rfl⟩
  have fits := Endian.byteSwap_lt 8 (Endian.ofLittleEndian bytes)
  -- The bound has the form of the other lengths after it was computed.
  norm_num at fits
  refine (Program.yields_pure _ _).achieves ⟨?_, rest,
    (Endian.toBigEndian_byteSwap size).symm ▸ incoming, rfl⟩
  norm_num
  exact fits

/-- The length is read in one of the three forms, as the short length says. -/
theorem inputReadPayloadLength_achieves {ws : WebSocket}
    (small : ws.frameHeader.length.toNat < 128) :
    inputReadPayloadLength.Achieves ws
      (fun _ ws' => ∃ form : LengthForm, ∃ length rest reads, form.Fits length ∧
        ws.frameHeader.length.toNat = form.shortLength length ∧
        ws.socket.incoming = form.extendedLength length ++ rest ∧
        ws' = (ws.readTo rest reads).withLength length)
      ws.Rejects := by
  refine (Program.yields_get ws).bind_achieves ?_
  -- Below 128 there are only the lengths themselves and the marks of the two longer forms.
  by_cases short : ws.frameHeader.length < 126
  · simp only [if_pos short]
    refine (Program.yields_update _ ws).achieves ⟨.short, _, ws.socket.incoming, 0, ?_, rfl, rfl, rfl⟩
    exact UInt8.lt_iff_toNat_lt.mp short
  by_cases medium : ws.frameHeader.length = 126
  · simp only [if_neg short, if_pos medium]
    refine (inputReadUint16_achieves ws).bind ?_
    rintro length _ ⟨fits, rest, incoming, rfl⟩
    exact (Program.yields_update _ _).achieves
      ⟨.medium, length, rest, 1, fits, by rw [medium]; rfl, incoming, rfl⟩
  -- What is left is the mark of the long form.
  have long : ws.frameHeader.length = 127 := by
    rw [UInt8.lt_iff_toNat_lt] at short
    rw [← UInt8.toNat_inj] at medium ⊢
    simp only [UInt8.reduceToNat] at short medium ⊢
    omega
  simp only [if_neg short, if_neg medium, if_pos long]
  refine (inputReadUint64_achieves ws).bind ?_
  rintro length _ ⟨fits, rest, incoming, rfl⟩
  exact (Program.yields_update _ _).achieves
    ⟨.long, length, rest, 1, fits, by rw [long]; rfl, incoming, rfl⟩

/-- Any four bytes are read as a mask. -/
theorem inputReadPayloadMask_achieves (ws : WebSocket) :
    inputReadPayloadMask.Achieves ws
      (fun _ ws' => ∃ mask : Mask, ∃ rest, ws.socket.incoming = mask.toList ++ rest ∧
        ws' = (ws.readTo rest 1).withMask mask)
      ws.Rejects := by
  refine (socketRead_achieves 4 ws).bind ?_
  rintro bytes _ ⟨size, -, rest, incoming, rfl⟩
  refine (Program.yields_update _ _).achieves ⟨maskOfBytes bytes, rest, ?_, rfl⟩
  rw [toList_maskOfBytes size, incoming]

/-- The mask of a frame head is the one that was read with it. -/
@[simp] theorem receiveMask_headRead (side : Side) (ws : WebSocket) (header : FrameHeader)
    (length : Nat) (mask : Mask) (rest : Bytes) (reads : Nat) :
    receiveMask side (ws.headRead header length mask rest reads) = maskRead side mask := by
  cases side <;> rfl

/-- A head that was read is on the wire as its fixed bytes, its length, and its mask. -/
theorem inputReadHeader_achieves (side : Side) (ws : WebSocket) :
    (inputReadHeader side).Achieves ws
      (fun _ ws' => ws.socket.connected = true ∧ ∃ first second, ∃ form : LengthForm,
        ∃ length mask rest reads, form.Fits length ∧ (side = .client → mask = ws.inputMask) ∧
        (FrameHeader.ofBytes first second).length.toNat = form.shortLength length ∧
        ws.socket.incoming = first :: second ::
          (form.extendedLength length ++ (wireMask (maskRead side mask) ++ rest)) ∧
        ws' = ws.headRead (.ofBytes first second) length mask rest reads)
      ws.Rejects := by
  -- The mask of the short length leaves seven bits.
  have small (first second : UInt8) : (FrameHeader.ofBytes first second).length.toNat < 128 := by
    have low : (second &&& 0x7f).toNat ≤ 127 := by
      rw [UInt8.toNat_and]
      exact Nat.and_le_right
    exact Nat.lt_succ_of_le low
  cases side with
  | client =>
    refine (inputReadFrameHeader_achieves ws).bind ?_
    rintro - _ ⟨connected, first, second, behind, incoming, rfl⟩
    refine (inputReadPayloadLength_achieves (small first second)).mono ?_ ?_
    · rintro - _ ⟨form, length, rest, reads, fits, short, extended, rfl⟩
      refine ⟨connected, first, second, form, length, ws.inputMask, rest, 1 + reads, fits,
        fun _ => rfl, short, ?_, ?_⟩
      · rw [incoming, show behind = _ from extended]
        rfl
      · rw [WebSocket.readTo_withHeader, WebSocket.readTo_readTo]
        rfl
    · exact fun _ _ rejected => rejected.after rfl
  -- Only a server reads a mask behind the length.
  | server =>
    refine (inputReadFrameHeader_achieves ws).bind ?_
    rintro - _ ⟨connected, first, second, behind, incoming, rfl⟩
    refine (inputReadPayloadLength_achieves (small first second)).seq ?_ ?_
    · exact fun _ _ rejected => rejected.after rfl
    · rintro - _ ⟨form, length, further, reads, fits, short, extended, rfl⟩
      refine (inputReadPayloadMask_achieves _).mono ?_ ?_
      · rintro - _ ⟨mask, rest, masked, rfl⟩
        refine ⟨connected, first, second, form, length, mask, rest, 1 + reads + 1, fits,
          nofun, short, ?_, ?_⟩
        · rw [incoming, show behind = _ from extended, show further = _ from masked]
          rfl
        · simp [WebSocket.headRead]
      · exact fun _ _ rejected => rejected.after rfl

/-- A frame passes the check of its mask flag when a server has one and a client none. -/
theorem inputAssertMaskFlag_achieves (side : Side) (ws : WebSocket) :
    (inputAssertMaskFlag side).Achieves ws
      (fun _ ws' => ws' = ws ∧ ws.frameHeader.mask = (side == .server)) ws.Rejects := by
  -- Only the flag that belongs to the other side is an exception.
  cases side <;> refine (Program.yields_get ws).bind_achieves ?_ <;>
    cases ws.frameHeader.mask
  · exact (Program.yields_pure _ _).achieves ⟨rfl, rfl⟩
  · exact Program.achieves_raise ⟨trivial, rfl⟩
  · exact Program.achieves_raise ⟨trivial, rfl⟩
  · exact (Program.yields_pure _ _).achieves ⟨rfl, rfl⟩

/-- An opcode passes if it is known, and is rejected otherwise. -/
theorem inputAssertOpcode_achieves (ws : WebSocket) :
    inputAssertOpcode.Achieves ws
      (fun _ ws' => ws' = ws ∧ ∃ opcode : Opcode, ws.frameHeader.opcode = opcode.code)
      ws.Rejects := by
  refine (Program.yields_get ws).bind_achieves ?_
  by_cases known : ∃ opcode : Opcode, ws.frameHeader.opcode = opcode.code
  · simp only [if_pos ((Opcode.code_iff _).mpr known)]
    exact (Program.yields_pure _ _).achieves ⟨rfl, known⟩
  · simp only [if_neg (mt (Opcode.code_iff _).mp known)]
    exact Program.achieves_raise ⟨trivial, rfl⟩

/-- A length passes if it is not too great, and is rejected otherwise. -/
theorem inputAssertPayloadLength_achieves (ws : WebSocket) :
    inputAssertPayloadLength.Achieves ws
      (fun _ ws' => ws' = ws ∧ ws.inputMessageLength ≤ kMaximumPayloadLength) ws.Rejects := by
  refine (Program.yields_get ws).bind_achieves ?_
  by_cases large : ws.inputMessageLength > kMaximumPayloadLength
  · rw [if_pos large]
    exact Program.achieves_raise ⟨trivial, rfl⟩
  · rw [if_neg large]
    exact (Program.yields_pure _ _).achieves ⟨rfl, Nat.le_of_not_lt large⟩

/-- A head that passes the checks has the right mask flag, an opcode, and a bounded length. -/
theorem inputAssertValidMessage_achieves (side : Side) (ws : WebSocket) :
    (inputAssertValidMessage side).Achieves ws
      (fun _ ws' => ws' = ws ∧ ws.frameHeader.mask = (side == .server) ∧
        (∃ opcode : Opcode, ws.frameHeader.opcode = opcode.code) ∧
        ws.inputMessageLength ≤ kMaximumPayloadLength)
      ws.Rejects := by
  -- The three checks of the source, none of which changes anything.
  refine (inputAssertMaskFlag_achieves side ws).bind ?_
  rintro - _ ⟨rfl, masked⟩
  refine (inputAssertOpcode_achieves _).bind ?_
  rintro - _ ⟨rfl, known⟩
  refine (inputAssertPayloadLength_achieves _).mono ?_ (fun _ _ rejected => rejected)
  rintro - _ ⟨rfl, bounded⟩
  exact ⟨rfl, masked, known, bounded⟩

/-- A round of reading a payload takes the next block, or finds that there is none. -/
theorem inputReadPayloadRound_achieves (side : Side) (processed : Nat) (ws : WebSocket) :
    (inputReadPayloadRound side processed).Achieves ws
      (fun turn ws' =>
        (processed < ws.inputMessageLength ∧ ∃ block rest,
          block.length = min (ws.inputMessageLength - processed) kPayloadBufferLength ∧
          ws.socket.incoming = block ++ rest ∧ turn = .inl (processed + block.length) ∧
          ws' = (ws.readTo rest 1).withPayload
            (ws.inputPayloadBuffer ++ wirePayload (receiveMask side ws) block)) ∨
        (ws.inputMessageLength ≤ processed ∧ turn = .inr () ∧ ws' = ws))
      ws.Rejects := by
  refine (Program.yields_get ws).bind_achieves ?_
  by_cases more : processed < ws.inputMessageLength
  · simp only [if_pos more]
    -- The last block is shorter than the buffer, unless it fills it.
    refine (socketRead_achieves _ ws).bind ?_
    rintro block _ ⟨size, -, rest, incoming, rfl⟩
    refine (inputAppendPayload_yields side block _).bind_achieves ?_
    refine (Program.yields_pure _ _).achieves (.inl ⟨more, block, rest, size, incoming, ?_, ?_⟩)
    · rw [size]
    · rw [receiveMask_readTo, WebSocket.readTo_inputPayloadBuffer]
  · simp only [if_neg more]
    exact (Program.yields_pure _ ws).achieves (.inr ⟨Nat.le_of_not_lt more, rfl, rfl⟩)

/-- The payload is as many bytes as the head declared, without the mask. -/
theorem inputReadPayload_achieves (side : Side) (ws : WebSocket) :
    (inputReadPayload side).Achieves ws
      (fun _ ws' => ∃ whole rest reads, whole.length = ws.inputMessageLength ∧
        ws.socket.incoming = whole ++ rest ∧
        ws' = (ws.readTo rest reads).withPayload (wirePayload (receiveMask side ws) whole))
      ws.Rejects := by
  have cleared : (Program.update fun ws : WebSocket => { ws with inputPayloadBuffer := [] } :
      WebSocketM Unit).Yields ws () (ws.withPayload []) := Program.yields_update _ ws
  refine cleared.bind_achieves ?_
  -- What is left to read goes down in every round, and the mask stays aligned until the end.
  refine Program.Achieves.iterate (fun left processed ws' => ∃ front rest reads,
    front.length = processed ∧ processed + left = ws.inputMessageLength ∧
    (processed % 4 = 0 ∨ left = 0) ∧ ws.socket.incoming = front ++ rest ∧
    ws' = (ws.readTo rest reads).withPayload (wirePayload (receiveMask side ws) front)) ?_
    (n := ws.inputMessageLength)
    ⟨[], ws.socket.incoming, 0, rfl, by omega, .inl rfl, rfl, by rw [wirePayload_nil]; rfl⟩
  rintro left processed _ ⟨front, rest, reads, size, total, aligned, incoming, rfl⟩
  refine (inputReadPayloadRound_achieves side processed _).mono ?_ ?_
  · simp only [WebSocket.withPayload_inputMessageLength, WebSocket.readTo_inputMessageLength]
    rintro turn _ (⟨more, block, rest', size', incoming', rfl, rfl⟩ | ⟨finished, rfl, rfl⟩)
    · -- There was more to read, so that the blocks before this one were whole.
      have masked : front.length % 4 = 0 := by omega
      -- A whole block keeps the mask aligned, since its length is a multiple of four.
      unfold kPayloadBufferLength at size'
      refine ⟨left - block.length, by omega, front ++ block, rest', reads + 1, by simp [size],
        by omega, by omega, ?_, ?_⟩
      · rw [incoming, show rest = _ from incoming', List.append_assoc]
      · rw [wirePayload_append _ masked]
        simp
    · exact ⟨front, rest, reads, by omega, incoming, rfl⟩
  · exact fun _ _ rejected => rejected.after rfl

section Recovered

variable {side : Side} {first second : UInt8} {form : LengthForm} {opcode : Opcode} {mask : Mask}
  {whole : Bytes} (fits : form.Fits whole.length)

/-- The frame whose head and masked payload were read. -/
def Frame.recovered (side : Side) (first : UInt8) (form : LengthForm) (opcode : Opcode)
    (mask : Mask) (whole : Bytes) (fits : form.Fits whole.length) : Frame where
  fin := (first &&& 0x80) != 0
  reserved := ⟨first.toNat / 16 % 8, by omega⟩
  opcode := opcode
  mask := maskRead side mask
  form := form
  payload := wirePayload (maskRead side mask) whole
  fits := by simpa using fits

/-- A mask is read at a server only. -/
theorem maskRead_isSome (side : Side) (mask : Mask) :
    (maskRead side mask).isSome = (side == .server) := by
  cases side <;> rfl

variable (known : (FrameHeader.ofBytes first second).opcode = opcode.code)
  (masked : (FrameHeader.ofBytes first second).mask = (side == .server))
  (short : (FrameHeader.ofBytes first second).length.toNat = form.shortLength whole.length)

include known in
/-- The frame that was recovered begins with the byte that was read. -/
theorem Frame.recovered_firstByte :
    (Frame.recovered side first form opcode mask whole fits).firstByte = first := by
  have byte := firstByte_of_fields first
  rw [show first &&& 0x0f = opcode.code from known] at byte
  exact byte

include masked short in
/-- So does its second byte with the form of the length. -/
theorem Frame.recovered_secondByte :
    (Frame.recovered side first form opcode mask whole fits).secondByte = second := by
  have byte := secondByte_of_fields second
  rw [show (second &&& 0x7f).toNat = _ from short,
    show ((second &&& 0x80) != 0) = _ from masked, ← maskRead_isSome side mask] at byte
  rw [Frame.secondByte, Frame.shortLength]
  simp only [Frame.recovered, wirePayload_length]
  exact byte

include known masked short in
/-- The recovered frame has the header that was read. -/
theorem Frame.recovered_header :
    (Frame.recovered side first form opcode mask whole fits).header = .ofBytes first second := by
  have length : UInt8.ofNat (form.shortLength whole.length) = second &&& 0x7f := by
    rw [← short]
    exact UInt8.ofNat_toNat
  simp only [Frame.header, Frame.shortLength, Frame.recovered, wirePayload_length,
    maskRead_isSome, length, ← known, ← masked]
  rfl

include known masked short in
/-- The recovered frame is on the wire as it was read. -/
theorem Frame.recovered_encode :
    (Frame.recovered side first form opcode mask whole fits).encode = first :: second ::
      (form.extendedLength whole.length ++ (wireMask (maskRead side mask) ++ whole)) := by
  rw [Frame.encode, Frame.recovered_firstByte fits known,
    Frame.recovered_secondByte fits masked short]
  simp [Frame.extendedLength, Frame.recovered]

end Recovered

/-- What a receiver accepts is a frame with the right mask flag and a bounded payload. -/
theorem readMessage_achieves (side : Side) (ws : WebSocket) :
    (readMessage side).Achieves ws
      (fun _ ws' => ws.socket.connected = true ∧ ∃ f : Frame, ∃ rest reads, f.Accepted side ∧
        ws.socket.incoming = f.encode ++ rest ∧ ws' = ws.received f rest reads)
      ws.Rejects := by
  -- Header, checks, payload: what was read so far is carried along and becomes the frame.
  refine (inputReadHeader_achieves side ws).bind ?_
  rintro - _ ⟨connected, first, second, form, length, mask, further, reads, fits, kept, short,
    incoming, rfl⟩
  refine (inputAssertValidMessage_achieves side _).seq ?_ ?_
  · exact fun _ _ rejected => rejected.after rfl
  · rintro - _ ⟨rfl, masked, ⟨opcode, known⟩, bounded⟩
    refine (inputReadPayload_achieves side _).mono ?_ (fun _ _ rejected => rejected.after rfl)
    rintro - _ ⟨whole, rest, reads', size, incoming', rfl⟩
    -- The payload that came in is as long as the header said.
    obtain rfl : whole.length = length := size
    refine ⟨connected, .recovered side first form opcode mask whole fits, rest, reads + reads',
      ⟨maskRead_isSome side mask, ?_⟩, ?_, ?_⟩
    · exact (wirePayload_length _ _).trans_le bounded
    · rw [Frame.recovered_encode fits known masked short, incoming,
        show further = whole ++ rest from incoming']
      simp
    · have same : (Frame.recovered side first form opcode mask whole fits).mask.getD ws.inputMask =
          mask := by
        cases side with
        | client => exact (kept rfl).symm
        | server => rfl
      rw [WebSocket.received, WebSocket.readHead, Frame.recovered_header fits known masked short,
        same, receiveMask_headRead]
      simp [WebSocket.headRead, Frame.recovered]

end Rcom
