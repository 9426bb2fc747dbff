import Librcom.WebSocket.Frame

/-! Reading a frame: what a receiver takes from the wire, and which bytes it takes. -/

namespace Rcom

open Effects

/-- The state after reads that left the given bytes on the wire. -/
def WebSocket.readTo (ws : WebSocket) (rest : Bytes) (reads : Nat) : WebSocket :=
  { ws with
    socket :=
      { ws.socket with incoming := rest, readFaults := ws.socket.readFaults.drop reads } }

/-- Every read to come goes through, as long as there are bytes to read. -/
def WebSocket.ReadsSucceed (ws : WebSocket) : Prop :=
  ∀ i, ws.socket.readFaults.get i = none

/-- The next reads go through, as long as there are bytes to read. -/
def WebSocket.NextReads (ws : WebSocket) (reads : Nat) : Prop :=
  ∀ i < reads, ws.socket.readFaults.get i = none

/-- The header in two bytes. -/
def FrameHeader.ofBytes (first second : UInt8) : FrameHeader where
  fin := (first &&& 0x80) != 0
  opcode := first &&& 0x0f
  mask := (second &&& 0x80) != 0
  length := second &&& 0x7f

/-- The mask that a receiver takes from the bytes it read as one. -/
def maskRead : Side → Mask → Option Mask
  | .client, _ => none
  | .server, mask => some mask

namespace WebSocket

def withHeader (ws : WebSocket) (header : FrameHeader) : WebSocket :=
  { ws with frameHeader := header }

def withLength (ws : WebSocket) (length : Nat) : WebSocket :=
  { ws with inputMessageLength := length }

def withMask (ws : WebSocket) (mask : Mask) : WebSocket :=
  { ws with inputMask := mask }

def withPayload (ws : WebSocket) (payload : Bytes) : WebSocket :=
  { ws with inputPayloadBuffer := payload }

/-- The state after the given head was read. -/
def headRead (ws : WebSocket) (header : FrameHeader) (length : Nat) (mask : Mask) (rest : Bytes)
    (reads : Nat) : WebSocket :=
  (((ws.readTo rest reads).withHeader header).withLength length).withMask mask

/-- The state after the head of a frame was read, in the given number of reads. -/
def readHead (ws : WebSocket) (f : Frame) (rest : Bytes) (reads : Nat) : WebSocket :=
  (((ws.readTo rest reads).withHeader f.header).withLength f.payload.length).withMask
    (f.mask.getD ws.inputMask)

/-- The state after a frame was read, in the given number of reads. -/
def received (ws : WebSocket) (f : Frame) (rest : Bytes) (reads : Nat) : WebSocket :=
  (ws.readHead f rest reads).withPayload f.payload

end WebSocket

/-- The mask a receiver takes off a payload: only a server does. -/
def receiveMask : Side → WebSocket → Option Mask
  | .server, ws => some ws.inputMask
  | .client, _ => none

namespace WebSocket

variable (ws : WebSocket)

/-- To read twice is to read on. -/
@[simp] theorem readTo_readTo (first second : Bytes) (m n : Nat) :
    -- The faults are a stream, so that the two counts of reads add up.
    (ws.readTo first m).readTo second n = ws.readTo second (m + n) := by
  simp [readTo, Stream'.drop_drop]

section Reads

variable (rest : Bytes) (reads : Nat) (header : FrameHeader) (length : Nat) (mask : Mask)
  (payload : Bytes)

/-- What is left is left. -/
@[simp] theorem readTo_incoming : (ws.readTo rest reads).socket.incoming = rest := rfl

/-- To read leaves the connection. -/
@[simp] theorem readTo_connected :
    (ws.readTo rest reads).socket.connected = ws.socket.connected := rfl

/-- To read leaves the mask. -/
@[simp] theorem readTo_inputMask : (ws.readTo rest reads).inputMask = ws.inputMask := rfl

/-- To read leaves the buffer of the payload. -/
@[simp] theorem readTo_inputPayloadBuffer :
    (ws.readTo rest reads).inputPayloadBuffer = ws.inputPayloadBuffer := rfl

/-- To read leaves the length. -/
@[simp] theorem readTo_inputMessageLength :
    (ws.readTo rest reads).inputMessageLength = ws.inputMessageLength := rfl

/-- To store a payload leaves the length. -/
@[simp] theorem withPayload_inputMessageLength :
    (ws.withPayload payload).inputMessageLength = ws.inputMessageLength := rfl

/-- A payload that was stored is there. -/
@[simp] theorem withPayload_inputPayloadBuffer :
    (ws.withPayload payload).inputPayloadBuffer = payload := rfl

/-- To read and to store a header may change places. -/
@[simp] theorem readTo_withHeader :
    (ws.withHeader header).readTo rest reads = (ws.readTo rest reads).withHeader header := rfl

/-- To read and to store a length may change places. -/
@[simp] theorem readTo_withLength :
    (ws.withLength length).readTo rest reads = (ws.readTo rest reads).withLength length := rfl

/-- To read and to store a mask may change places. -/
@[simp] theorem readTo_withMask :
    (ws.withMask mask).readTo rest reads = (ws.readTo rest reads).withMask mask := rfl

/-- To read and to store a payload may change places. -/
@[simp] theorem readTo_withPayload :
    (ws.withPayload payload).readTo rest reads = (ws.readTo rest reads).withPayload payload := rfl

/-- To store a header leaves the socket. -/
@[simp] theorem withHeader_socket : (ws.withHeader header).socket = ws.socket := rfl

/-- To store a length leaves the socket. -/
@[simp] theorem withLength_socket : (ws.withLength length).socket = ws.socket := rfl

/-- To store a mask leaves the socket. -/
@[simp] theorem withMask_socket : (ws.withMask mask).socket = ws.socket := rfl

/-- To store a payload leaves the socket. -/
@[simp] theorem withPayload_socket : (ws.withPayload payload).socket = ws.socket := rfl

/-- The last payload that was stored is there. -/
@[simp] theorem withPayload_withPayload (payload' : Bytes) :
    (ws.withPayload payload).withPayload payload' = ws.withPayload payload' := rfl

end Reads

/-- Reads that succeed go on to succeed. -/
theorem ReadsSucceed.readTo {ws : WebSocket} (succeed : ws.ReadsSucceed) (rest : Bytes)
    (reads : Nat) : (ws.readTo rest reads).ReadsSucceed := by
  intro i
  simpa [WebSocket.readTo] using succeed (reads + i)

/-- Where all reads succeed, the next ones do. -/
theorem ReadsSucceed.next {ws : WebSocket} (succeed : ws.ReadsSucceed) (reads : Nat) :
    ws.NextReads reads := fun i _ => succeed i

/-- Of the next reads that succeed, those that are left go on to. -/
theorem NextReads.readTo {ws : WebSocket} {first second : Nat} (next : ws.NextReads (first + second))
    (rest : Bytes) : (ws.readTo rest first).NextReads second := by
  intro i small
  simpa [WebSocket.readTo] using next (first + i) (by omega)

/-- Where the next reads succeed, fewer of them do. -/
theorem NextReads.mono {ws : WebSocket} {fewer more : Nat} (next : ws.NextReads more)
    (less : fewer ≤ more) : ws.NextReads fewer := fun i small => next i (by omega)

end WebSocket

/-- The reads that a length takes beyond the two fixed bytes. -/
def LengthForm.reads : LengthForm → Nat
  | short => 0
  | medium => 1
  | long => 1

/-- The reads that a mask takes. -/
def maskReads : Side → Nat
  | .client => 0
  | .server => 1

/-- The reads that the head of a frame takes. -/
def headReads (side : Side) (form : LengthForm) : Nat := 1 + form.reads + maskReads side

/-- The reads that a payload takes. -/
def payloadReads (length : Nat) : Nat := (length + (kPayloadBufferLength - 1)) / kPayloadBufferLength

/-- The reads that a frame takes. -/
def Frame.reads (side : Side) (f : Frame) : Nat := headReads side f.form + payloadReads f.payload.length

/-- To read leaves the mask of the frame. -/
@[simp] theorem receiveMask_readTo (side : Side) (ws : WebSocket) (rest : Bytes) (reads : Nat) :
    receiveMask side (ws.readTo rest reads) = receiveMask side ws := by
  cases side <;> rfl

/-- To store a payload leaves the mask of the frame. -/
@[simp] theorem receiveMask_withPayload (side : Side) (ws : WebSocket) (payload : Bytes) :
    receiveMask side (ws.withPayload payload) = receiveMask side ws := by
  cases side <;> rfl

/-- A state that does not change is read to where it is, without a read. -/
theorem WebSocket.readTo_self {ws : WebSocket} {rest : Bytes} (there : ws.socket.incoming = rest) :
    ws.readTo rest 0 = ws := by
  subst there
  rfl

section Forward

variable (ws : WebSocket)

/-- A read of the bytes in front takes them. -/
theorem socketRead_yields (connected : ws.socket.connected = true) (next : ws.NextReads 1)
    {front rest : Bytes} (incoming : ws.socket.incoming = front ++ rest) {length : Nat}
    (size : front.length = length) :
    (socketRead length).Yields ws front (ws.readTo rest 1) := by
  -- The socket is open and has the bytes, so that only a fault could prevent the read.
  have read : (onSocket (Socket.read length)).Yields ws (some front) (ws.readTo rest 1) := by
    have first : ws.socket.readFaults.head = none := next 0 (by omega)
    subst size
    refine ⟨0, ?_⟩
    simp [onSocket, Socket.read, first, connected, incoming, WebSocket.readTo]
    rfl
  exact read.bind (Program.yields_pure _ _)

/-- Two bytes give a header, whatever they are. -/
theorem inputReadFrameHeader_yields (connected : ws.socket.connected = true) (next : ws.NextReads 1)
    {first second : UInt8} {rest : Bytes} (incoming : ws.socket.incoming = first :: second :: rest) :
    inputReadFrameHeader.Yields ws () ((ws.readTo rest 1).withHeader (.ofBytes first second)) := by
  -- The two bytes are what the first read asks for.
  have split : ws.socket.incoming = [first, second] ++ rest := incoming
  exact (socketRead_yields ws connected next split rfl).bind (Program.yields_update _ _)

/-- Two bytes are read as the number they denote, most significant byte first. -/
theorem inputReadUint16_yields (connected : ws.socket.connected = true) (next : ws.NextReads 1)
    {value : Nat} (fits : value < 2 ^ 16) {rest : Bytes}
    (incoming : ws.socket.incoming = Endian.toBigEndian 2 value ++ rest) :
    inputReadUint16.Yields ws value (ws.readTo rest 1) := by
  -- The bytes were read in the order of memory, and swapping them gives the number.
  have swapped := Endian.byteSwap_toBigEndian 2 (fits.trans_eq (by norm_num))
  have size := Endian.toBigEndian_length 2 value
  refine (socketRead_yields ws connected next incoming size).bind ?_
  rw [ntohs, swapped]
  exact Program.yields_pure _ _

/-- Eight bytes are read as the number they denote, most significant byte first. -/
theorem inputReadUint64_yields (connected : ws.socket.connected = true) (next : ws.NextReads 1)
    {value : Nat} (fits : value < 2 ^ 64) {rest : Bytes}
    (incoming : ws.socket.incoming = Endian.toBigEndian 8 value ++ rest) :
    inputReadUint64.Yields ws value (ws.readTo rest 1) := by
  have swapped := Endian.byteSwap_toBigEndian 8 (fits.trans_eq (by norm_num))
  have size := Endian.toBigEndian_length 8 value
  refine (socketRead_yields ws connected next incoming size).bind ?_
  rw [ntohll, swapped]
  exact Program.yields_pure _ _

/-- The length is read in the form that the short length announces. -/
theorem inputReadPayloadLength_yields (connected : ws.socket.connected = true) {form : LengthForm}
    {length : Nat} (fits : form.Fits length)
    (short : ws.frameHeader.length.toNat = form.shortLength length) (next : ws.NextReads form.reads)
    {rest : Bytes} (incoming : ws.socket.incoming = form.extendedLength length ++ rest) :
    inputReadPayloadLength.Yields ws () ((ws.readTo rest form.reads).withLength length) := by
  unfold inputReadPayloadLength
  refine (Program.yields_get ws).bind ?_
  -- The short length decides between three forms, and it was written for one of them.
  cases form with
  | short =>
    -- The length is in the header, and no further byte belongs to it.
    have small : ws.frameHeader.length < 126 := by
      rw [UInt8.lt_iff_toNat_lt, short]
      exact fits
    rw [if_pos small, short]
    have there : ws.readTo rest 0 = ws := WebSocket.readTo_self incoming
    rw [show LengthForm.short.reads = 0 from rfl, there]
    exact Program.yields_update _ ws
  | medium =>
    -- The value 126 announces two bytes.
    have medium : ws.frameHeader.length = 126 := UInt8.toNat_inj.mp short
    rw [medium, if_neg (by decide), if_pos rfl]
    exact (inputReadUint16_yields ws connected next fits incoming).bind (Program.yields_update _ _)
  | long =>
    -- The value 127 announces eight.
    have long : ws.frameHeader.length = 127 := UInt8.toNat_inj.mp short
    rw [long, if_neg (by decide), if_neg (by decide), if_pos rfl]
    exact (inputReadUint64_yields ws connected next fits incoming).bind (Program.yields_update _ _)

/-- The four bytes of a mask are read as that mask. -/
theorem maskOfBytes_toList (mask : Mask) : maskOfBytes mask.toList = mask := by
  ext i
  simp [maskOfBytes]

/-- Four bytes are the bytes of the mask that is read from them. -/
theorem toList_maskOfBytes {bytes : Bytes} (size : bytes.length = 4) :
    (maskOfBytes bytes).toList = bytes := by
  apply List.ext_getElem
  · simp [size]
  · intro i left right
    simp [maskOfBytes, right]

/-- The four bytes of a mask are read and stored. -/
theorem inputReadPayloadMask_yields (connected : ws.socket.connected = true) (next : ws.NextReads 1)
    (mask : Mask) {rest : Bytes} (incoming : ws.socket.incoming = mask.toList ++ rest) :
    inputReadPayloadMask.Yields ws () ((ws.readTo rest 1).withMask mask) := by
  have size : mask.toList.length = 4 := by simp
  refine (socketRead_yields ws connected next incoming size).bind ?_
  rw [maskOfBytes_toList]
  exact Program.yields_update _ _

/-- A receiver reads a whole head, of which only a server takes a mask. -/
theorem inputReadHeader_yields (side : Side) (connected : ws.socket.connected = true)
    {first second : UInt8} {form : LengthForm} {length : Nat} {mask : Mask} (fits : form.Fits length)
    (short : (FrameHeader.ofBytes first second).length.toNat = form.shortLength length)
    (kept : side = .client → mask = ws.inputMask) (next : ws.NextReads (headReads side form))
    {rest : Bytes}
    (incoming : ws.socket.incoming = first :: second ::
      (form.extendedLength length ++ (wireMask (maskRead side mask) ++ rest))) :
    (inputReadHeader side).Yields ws ()
      (ws.headRead (.ofBytes first second) length mask rest (headReads side form)) := by
  unfold headReads at next ⊢
  -- The two fixed bytes are read first, and after them the length in its own form.
  have fixed := inputReadFrameHeader_yields ws connected (next.mono (by omega)) incoming
  have next' : (ws.readTo (form.extendedLength length ++ (wireMask (maskRead side mask) ++ rest))
      1).NextReads (form.reads + maskReads side) := by
    refine WebSocket.NextReads.readTo (next.mono ?_) _
    omega
  have declared := inputReadPayloadLength_yields
    ((ws.readTo (form.extendedLength length ++ (wireMask (maskRead side mask) ++ rest)) 1).withHeader
      (.ofBytes first second)) connected fits short (next'.mono (Nat.le_add_right _ _)) rfl
  rw [WebSocket.readTo_withHeader, WebSocket.readTo_readTo] at declared
  cases side with
  | client =>
    -- The client's mask stays what it was.
    obtain rfl := kept rfl
    exact fixed.next declared
  | server =>
    -- The mask is behind the length, in a read of its own.
    have last : (((ws.readTo (mask.toList ++ rest) (1 + form.reads)).withHeader
        (.ofBytes first second)).withLength length).NextReads 1 :=
      WebSocket.NextReads.readTo next (mask.toList ++ rest)
    have masked := inputReadPayloadMask_yields
      (((ws.readTo (mask.toList ++ rest) (1 + form.reads)).withHeader
        (.ofBytes first second)).withLength length) connected last mask rfl
    simp only [WebSocket.readTo_withLength, WebSocket.readTo_withHeader,
      WebSocket.readTo_readTo] at masked
    exact fixed.next (declared.next masked)

/-- The two fixed bytes of a frame hold its header. -/
theorem Frame.header_ofBytes (f : Frame) : FrameHeader.ofBytes f.firstByte f.secondByte = f.header := by
  obtain ⟨fin, opcode⟩ := firstByte_fields f.fin f.reserved f.opcode
  obtain ⟨mask, length⟩ := secondByte_fields f.mask.isSome f.shortLength_lt
  simp only [FrameHeader.ofBytes, Frame.firstByte, Frame.secondByte, fin, opcode, mask, length]
  rfl

/-- A receiver reads the whole head of a frame that it takes. -/
theorem inputReadHeader_frame (side : Side) (connected : ws.socket.connected = true) {f : Frame}
    (masked : f.mask.isSome = (side == .server)) (next : ws.NextReads (headReads side f.form))
    {rest : Bytes}
    (incoming : ws.socket.incoming =
      f.firstByte :: f.secondByte :: (f.extendedLength ++ (wireMask f.mask ++ rest))) :
    (inputReadHeader side).Yields ws () (ws.readHead f rest (headReads side f.form)) := by
  -- The mask that is read is that of the frame, which has one exactly on the server's side.
  have taken : maskRead side (f.mask.getD ws.inputMask) = f.mask := by
    cases side with
    | client => exact (Option.not_isSome_iff_eq_none.mp (by simp [masked])).symm
    | server =>
      obtain ⟨mask, some⟩ := Option.isSome_iff_exists.mp masked
      simp [maskRead, some]
  have kept : side = .client → f.mask.getD ws.inputMask = ws.inputMask := by
    rintro rfl
    have none : f.mask = none := taken.symm
    simp [none]
  -- The short length is in the second byte, below the mask flag.
  have short : (FrameHeader.ofBytes f.firstByte f.secondByte).length.toNat =
      f.form.shortLength f.payload.length := by
    have small := f.shortLength_lt
    rw [f.header_ofBytes]
    show (UInt8.ofNat f.shortLength).toNat = f.shortLength
    rw [UInt8.toNat_ofNat']
    omega
  rw [← taken] at incoming
  have read := inputReadHeader_yields ws side connected f.fits short kept next incoming
  rw [f.header_ofBytes] at read
  exact read

/-- A frame passes if it is masked as the side asks for. -/
theorem inputAssertMaskFlag_yields {side : Side}
    (masked : ws.frameHeader.mask = (side == .server)) :
    (inputAssertMaskFlag side).Yields ws () ws := by
  -- The flag is compared with what the side expects, and nothing is changed.
  cases side <;> refine (Program.yields_get ws).bind ?_ <;> rw [masked] <;>
    exact Program.yields_pure _ _

/-- A frame passes if its opcode is known. -/
theorem inputAssertOpcode_yields (known : ∃ opcode : Opcode, ws.frameHeader.opcode = opcode.code) :
    inputAssertOpcode.Yields ws () ws := by
  refine (Program.yields_get ws).bind ?_
  simp only [if_pos ((Opcode.code_iff _).mpr known)]
  exact Program.yields_pure _ _

/-- The head of a frame that a receiver takes passes its checks. -/
theorem inputAssertValidMessage_yields {side : Side} {f : Frame} (taken : f.Accepted side)
    (header : ws.frameHeader = f.header) (length : ws.inputMessageLength = f.payload.length) :
    (inputAssertValidMessage side).Yields ws () ws := by
  -- A frame that is accepted passes the three checks, one after the other.
  have flag : (inputAssertMaskFlag side).Yields ws () ws :=
    inputAssertMaskFlag_yields ws (by rw [header]; exact taken.masked)
  have opcode : inputAssertOpcode.Yields ws () ws :=
    inputAssertOpcode_yields ws ⟨f.opcode, by rw [header]; rfl⟩
  have bounded : inputAssertPayloadLength.Yields ws () ws := by
    refine (Program.yields_get ws).bind ?_
    rw [length, if_neg (Nat.not_lt.mpr taken.bounded)]
    exact Program.yields_pure _ _
  exact flag.next (opcode.next bounded)

/-- A block goes behind the payload read so far, without its mask. -/
theorem inputAppendPayload_yields (side : Side) (data : Bytes) (ws : WebSocket) :
    (inputAppendPayload side data).Yields ws ()
      (ws.withPayload (ws.inputPayloadBuffer ++ wirePayload (receiveMask side ws) data)) := by
  cases side with
  | client => exact Program.yields_update _ ws
  | server => exact Program.yields_update _ ws

/-- A round of reading a payload takes a block from the wire. -/
theorem inputReadPayloadRound_yields (side : Side) {processed : Nat} {front rest : Bytes}
    (connected : ws.socket.connected = true) (next : ws.NextReads 1)
    (more : processed < ws.inputMessageLength)
    (size : front.length = min (ws.inputMessageLength - processed) kPayloadBufferLength)
    (incoming : ws.socket.incoming = front ++ rest) :
    (inputReadPayloadRound side processed).Yields ws (.inl (processed + front.length))
      ((ws.readTo rest 1).withPayload
        (ws.inputPayloadBuffer ++ wirePayload (receiveMask side ws) front)) := by
  -- The block is appended to the payload as it was before the read.
  have appended := inputAppendPayload_yields side front (ws.readTo rest 1)
  have read := socketRead_yields ws connected next incoming size
  refine (Program.yields_get ws).bind ?_
  simp only [receiveMask_readTo, WebSocket.readTo_inputPayloadBuffer] at appended
  simp only [if_pos more, ← size]
  exact (size ▸ read).bind (appended.next (Program.yields_pure _ _))

/-- The rounds end when the whole payload was read. -/
theorem inputReadPayloadRound_last (side : Side) {processed : Nat}
    (finished : ws.inputMessageLength ≤ processed) :
    (inputReadPayloadRound side processed).Yields ws (.inr ()) ws := by
  refine (Program.yields_get ws).bind ?_
  simp only [if_neg (Nat.not_lt.mpr finished)]
  exact Program.yields_pure _ _

/-- Blocks read one by one give the payload as it was before it went over the wire. -/
theorem inputReadPayloadRounds_yields (side : Side) (rest : Bytes) :
    ∀ (left processed : Nat) (ws : WebSocket) (whole : Bytes),
      whole.length ≤ left → ws.socket.connected = true → ws.NextReads (payloadReads whole.length) →
      ws.socket.incoming = whole ++ rest → ws.inputMessageLength = processed + whole.length →
      (Program.iterate (inputReadPayloadRound side) processed).Yields ws ()
        ((ws.readTo rest (payloadReads whole.length)).withPayload
          (ws.inputPayloadBuffer ++ wirePayload (receiveMask side ws) whole)) := by
  -- Each round takes at least one byte, so what is left bounds the rounds.
  intro left
  induction left using Nat.strongRecOn with
  | _ left ih =>
    intro processed ws whole bounded connected next incoming total
    -- As long as something is missing, the next round reads a block of it.
    by_cases more : processed < ws.inputMessageLength
    · generalize size : min (ws.inputMessageLength - processed) kPayloadBufferLength = n
      -- Only the last block may end in the middle of a mask.
      have aligned : n % 4 = 0 ∨ whole.length ≤ n := by
        unfold kPayloadBufferLength at size
        omega
      have front : (whole.take n).length = n := by
        rw [List.length_take]
        omega
      have positive : 0 < n := by
        unfold kPayloadBufferLength at size
        omega
      have rest' : (whole.drop n).length = whole.length - n := List.length_drop
      -- The block in front takes one read, and the others take the remaining ones.
      have count : payloadReads whole.length = 1 + payloadReads (whole.drop n).length := by
        rw [rest']
        unfold payloadReads
        unfold kPayloadBufferLength at size ⊢
        omega
      -- What is incoming begins with the block.
      have split : ws.socket.incoming = whole.take n ++ (whole.drop n ++ rest) := by
        rw [incoming, ← List.append_assoc, List.take_append_drop]
      rw [count] at next ⊢
      have round := inputReadPayloadRound_yields ws side connected (next.mono (by omega)) more
        (front.trans size.symm) split
      -- The rounds to come start from the payload with the block at its end.
      have remaining := ih (left - n) (by omega) (processed + n)
        ((ws.readTo (whole.drop n ++ rest) 1).withPayload
          (ws.inputPayloadBuffer ++ wirePayload (receiveMask side ws) (whole.take n)))
        (whole.drop n) (by omega) connected (WebSocket.NextReads.readTo next _) rfl
        (by simp only [WebSocket.withPayload_inputMessageLength,
              WebSocket.readTo_inputMessageLength]; omega)
      refine Program.Yields.iterate_next round ?_
      rw [front]
      simpa only [WebSocket.readTo_withPayload, WebSocket.readTo_readTo, receiveMask_withPayload,
        receiveMask_readTo, WebSocket.withPayload_inputPayloadBuffer,
        WebSocket.withPayload_withPayload, List.append_assoc,
        wirePayload_split (receiveMask side ws) aligned] using remaining
    · -- Nothing is missing, so the rounds are over.
      have empty : whole = [] := List.length_eq_zero_iff.mp (by omega)
      subst empty
      refine Program.Yields.iterate_last ?_
      have none : payloadReads ([] : Bytes).length = 0 := rfl
      rw [none, WebSocket.readTo_self (show ws.socket.incoming = rest from incoming), wirePayload_nil,
        List.append_nil]
      exact inputReadPayloadRound_last ws side (Nat.le_of_not_lt more)

/-- A receiver reads the payload of a frame whose head it has read. -/
theorem inputReadPayload_yields {side : Side} (connected : ws.socket.connected = true) {f : Frame}
    (next : ws.NextReads (payloadReads f.payload.length)) {rest : Bytes}
    (mask : receiveMask side ws = f.mask) (length : ws.inputMessageLength = f.payload.length)
    (incoming : ws.socket.incoming = wirePayload f.mask f.payload ++ rest) :
    (inputReadPayload side).Yields ws ()
      ((ws.readTo rest (payloadReads f.payload.length)).withPayload f.payload) := by
  -- The buffer is empty before the first round, and the payload is on the wire as a whole.
  have cleared : (Program.update fun ws : WebSocket => { ws with inputPayloadBuffer := [] } :
      WebSocketM Unit).Yields ws () (ws.withPayload []) := Program.yields_update _ ws
  have size : (wirePayload f.mask f.payload).length = f.payload.length := wirePayload_length _ _
  have read := inputReadPayloadRounds_yields side rest _ 0 (ws.withPayload [])
    (wirePayload f.mask f.payload) (Nat.le_refl _) connected (size ▸ next) incoming (by simp [length])
  refine cleared.next ?_
  simpa [mask] using read

/-- A receiver that read the head of a frame has the mask of the frame. -/
theorem receiveMask_readHead {side : Side} {f : Frame} (masked : f.mask.isSome = (side == .server))
    (rest : Bytes) (reads : Nat) : receiveMask side (ws.readHead f rest reads) = f.mask := by
  cases side with
  | client =>
    -- A frame with a mask is not one for a client.
    cases mask : f.mask with
    | none => rfl
    | some _ => simp [mask] at masked
  | server =>
    obtain ⟨mask, some⟩ := Option.isSome_iff_exists.mp masked
    simp [receiveMask, WebSocket.readHead, WebSocket.withMask, some]

/-- A receiver reads a frame that it takes, and nothing beyond it. -/
theorem readMessage_takes {side : Side} (connected : ws.socket.connected = true) {f : Frame}
    (taken : f.Accepted side) (next : ws.NextReads (f.reads side)) {rest : Bytes}
    (incoming : ws.socket.incoming = f.encode ++ rest) :
    (readMessage side).Yields ws () (ws.received f rest (f.reads side)) := by
  -- The frame is written in four parts, which are read in their order.
  have split : ws.socket.incoming = f.firstByte :: f.secondByte ::
      (f.extendedLength ++ (wireMask f.mask ++ (wirePayload f.mask f.payload ++ rest))) := by
    simpa [Frame.encode] using incoming
  have head := inputReadHeader_frame ws side connected taken.masked
    (next.mono (Nat.le_add_right _ _)) split
  -- The head is checked before the payload is read.
  have valid := inputAssertValidMessage_yields
    (ws.readHead f (wirePayload f.mask f.payload ++ rest) (headReads side f.form)) taken rfl rfl
  have next' : (ws.readHead f (wirePayload f.mask f.payload ++ rest) (headReads side f.form)).NextReads
      (payloadReads f.payload.length) :=
    WebSocket.NextReads.readTo next (wirePayload f.mask f.payload ++ rest)
  have payload := inputReadPayload_yields
    (ws.readHead f (wirePayload f.mask f.payload ++ rest) (headReads side f.form)) connected next'
    (receiveMask_readHead ws taken.masked _ _) rfl rfl
  refine head.next (valid.next ?_)
  simpa [WebSocket.received, WebSocket.readHead, Frame.reads] using payload

/-- Where all reads go through, a receiver reads a frame that it takes, and nothing beyond it. -/
theorem readMessage_yields {side : Side} (connected : ws.socket.connected = true)
    (succeed : ws.ReadsSucceed) {f : Frame} (taken : f.Accepted side) {rest : Bytes}
    (incoming : ws.socket.incoming = f.encode ++ rest) :
    ∃ reads, (readMessage side).Yields ws () (ws.received f rest reads) :=
  ⟨_, readMessage_takes ws connected taken (succeed.next _) incoming⟩

end Forward

end Rcom
