import Librcom.WebSocket.Input
import Mathlib.Data.Fintype.Basic

/-! Frames as the protocol defines them, and the bytes they are sent as. -/

namespace Rcom

section Masking

variable (mask : Mask)

/-- A mask does not change how many bytes there are, wherever it begins. -/
@[simp] theorem applyMaskFrom_length (j : Fin 4) (bytes : Bytes) :
    (applyMaskFrom mask j bytes).length = bytes.length := by
  -- Masking replaces each byte by one byte.
  induction bytes generalizing j with
  | nil => rfl
  | cons byte rest ih => simp [applyMaskFrom, ih]

/-- A mask does not change how many bytes there are. -/
@[simp] theorem applyMask_length (bytes : Bytes) :
    (applyMask mask bytes).length = bytes.length :=
  applyMaskFrom_length mask 0 bytes

/-- No bytes are masked as none. -/
@[simp] theorem applyMask_nil : applyMask mask [] = [] := rfl

/-- Masking goes on in the second part where the first part stopped in the mask. -/
theorem applyMaskFrom_append (j : Fin 4) (front back : Bytes) :
    applyMaskFrom mask j (front ++ back) =
      applyMaskFrom mask j front ++ applyMaskFrom mask (j + Fin.ofNat 4 front.length) back := by
  induction front generalizing j with
  | nil => simp [applyMaskFrom]
  | cons byte rest ih =>
    -- One more byte in front is one more step around the mask.
    have step : j + 1 + Fin.ofNat 4 rest.length = j + Fin.ofNat 4 (rest.length + 1) := by
      ext
      simp only [Fin.val_add, Fin.ofNat_eq_cast, Fin.val_natCast, Fin.val_one]
      omega
    simp only [List.cons_append, applyMaskFrom, List.length_cons]
    rw [ih, step]

/-- A front of whole mask lengths leaves the mask at its first byte. -/
theorem applyMask_append {front : Bytes} (aligned : front.length % 4 = 0) (back : Bytes) :
    applyMask mask (front ++ back) = applyMask mask front ++ applyMask mask back := by
  have start : (0 : Fin 4) + Fin.ofNat 4 front.length = 0 := by
    ext
    simp [aligned]
  rw [applyMask, applyMaskFrom_append, start]
  rfl

/-- Masking in two parts is masking at once, when the cut is aligned or past the end. -/
theorem applyMask_split {bytes : Bytes} {cut : Nat}
    (aligned : cut % 4 = 0 ∨ bytes.length ≤ cut) :
    applyMask mask (bytes.take cut) ++ applyMask mask (bytes.drop cut) = applyMask mask bytes := by
  by_cases past : bytes.length ≤ cut
  · -- Nothing is left for the second part.
    simp [List.take_of_length_le past, List.drop_eq_nil_of_le past]
  · have front : (bytes.take cut).length % 4 = 0 := by
      rw [List.length_take]
      omega
    rw [← applyMask_append mask front, List.take_append_drop]

/-- Masking twice with the same mask restores the bytes. -/
@[simp] theorem applyMask_applyMask (bytes : Bytes) :
    applyMask mask (applyMask mask bytes) = bytes := by
  -- At every position the same mask byte is combined with itself.
  have general : ∀ j, applyMaskFrom mask j (applyMaskFrom mask j bytes) = bytes := by
    induction bytes with
    | nil => intro j; rfl
    | cons byte rest ih =>
      intro j
      simp only [applyMaskFrom, ih, UInt8.xor_assoc, UInt8.xor_self, UInt8.xor_zero]
  exact general 0

end Masking

/-- Different opcodes are written as different numbers. -/
@[simp] theorem Opcode.code_inj {first second : Opcode} :
    first.code = second.code ↔ first = second := by
  cases first <;> cases second <;> decide

/-- The numbers a receiver lets through are the numbers of opcodes. -/
theorem Opcode.code_iff (byte : UInt8) :
    (byte = kContinutationOpcode.code ∨ byte = kTextOpcode.code ∨ byte = kBinaryOpcode.code
      ∨ byte = kCloseOpcode.code ∨ byte = kPingOpcode.code ∨ byte = kPongOpcode.code) ↔
      ∃ opcode : Opcode, byte = opcode.code := by
  constructor
  · rintro (code | code | code | code | code | code) <;> exact ⟨_, code⟩
  · rintro ⟨opcode, rfl⟩
    cases opcode <;> simp

/-- The mask of a frame as it goes over the wire, where there is one. -/
def wireMask : Option Mask → Bytes
  | some mask => mask.toList
  | none => []

/-- A payload as it goes over the wire. -/
def wirePayload : Option Mask → Bytes → Bytes
  | some mask, payload => applyMask mask payload
  | none, payload => payload

/-- A payload is as long on the wire as it is. -/
@[simp] theorem wirePayload_length (mask : Option Mask) (payload : Bytes) :
    (wirePayload mask payload).length = payload.length := by
  cases mask <;> simp [wirePayload]

/-- An empty payload is empty on the wire. -/
@[simp] theorem wirePayload_nil (mask : Option Mask) : wirePayload mask [] = [] := by
  cases mask <;> rfl

/-- Taking the mask off what went over the wire gives the payload back. -/
@[simp] theorem wirePayload_wirePayload (mask : Option Mask) (payload : Bytes) :
    wirePayload mask (wirePayload mask payload) = payload := by
  cases mask with
  | none => rfl
  | some mask => exact applyMask_applyMask mask payload

/-- A front of whole mask lengths goes over the wire by itself. -/
theorem wirePayload_append (mask : Option Mask) {front : Bytes} (aligned : front.length % 4 = 0)
    (back : Bytes) :
    wirePayload mask (front ++ back) = wirePayload mask front ++ wirePayload mask back := by
  cases mask with
  | none => rfl
  | some mask => exact applyMask_append mask aligned back

/-- A payload goes over the wire in blocks as it would in one piece. -/
theorem wirePayload_split (mask : Option Mask) {payload : Bytes} {cut : Nat}
    (aligned : cut % 4 = 0 ∨ payload.length ≤ cut) :
    wirePayload mask (payload.take cut) ++ wirePayload mask (payload.drop cut) =
      wirePayload mask payload := by
  cases mask with
  | none => exact List.take_append_drop cut payload
  | some mask => exact applyMask_split mask aligned

/-- The three ways of writing a payload length. -/
inductive LengthForm where
  /-- Seven bits of the second byte. -/
  | short
  /-- Two more bytes. -/
  | medium
  /-- Eight more bytes. -/
  | long
  deriving DecidableEq, Repr

/-- The lengths a form has room for. -/
def LengthForm.Fits : LengthForm → Nat → Prop
  | short, length => length < 126
  | medium, length => length < 2 ^ 16
  | long, length => length < 2 ^ 64

instance (form : LengthForm) (length : Nat) : Decidable (form.Fits length) := by
  cases form <;> exact inferInstanceAs (Decidable (length < _))

/-- What the seven length bits of the second byte hold. -/
def LengthForm.shortLength : LengthForm → Nat → Nat
  | short, length => length
  | medium, _ => 126
  | long, _ => 127

/-- The bytes of the length that follow the second byte. -/
def LengthForm.extendedLength : LengthForm → Nat → Bytes
  | short, _ => []
  | medium, length => Endian.toBigEndian 2 length
  | long, length => Endian.toBigEndian 8 length

/-- A frame with a payload that the form of its length has room for. -/
structure Frame where
  fin : Bool
  reserved : Fin 8
  opcode : Opcode
  mask : Option Mask
  form : LengthForm
  payload : Bytes
  fits : form.Fits payload.length

namespace Frame

variable (f : Frame)

/-- What the seven length bits of the second byte hold. -/
def shortLength : Nat := f.form.shortLength f.payload.length

/-- The bytes of the length that follow the second byte. -/
def extendedLength : Bytes := f.form.extendedLength f.payload.length

/-- The final flag, the reserved bits, and the opcode. -/
def firstByte : UInt8 :=
  UInt8.ofNat ((if f.fin then 128 else 0) + 16 * f.reserved.val) ||| f.opcode.code

/-- The mask flag and the short length. -/
def secondByte : UInt8 :=
  UInt8.ofNat ((if f.mask.isSome then 128 else 0) + f.shortLength)

/-- The bytes of a frame. -/
def encode : Bytes :=
  f.firstByte :: f.secondByte ::
    (f.extendedLength ++ (wireMask f.mask ++ wirePayload f.mask f.payload))

/-- The header a receiver reads from the two fixed bytes. -/
def header : FrameHeader where
  fin := f.fin
  opcode := f.opcode.code
  mask := f.mask.isSome
  length := UInt8.ofNat f.shortLength

/-- The frame carries part of a message. -/
def isData : Bool :=
  f.opcode == .kTextOpcode || f.opcode == .kBinaryOpcode || f.opcode == .kContinutationOpcode

/-- A receiver on the given side takes the frame: mask flag and payload length are right. -/
structure Accepted (side : Side) : Prop where
  masked : f.mask.isSome = (side == .server)
  bounded : f.payload.length ≤ kMaximumPayloadLength

/-- The short length has seven bits. -/
theorem shortLength_lt : f.shortLength < 128 := by
  have fits := f.fits
  unfold shortLength
  cases form : f.form <;> simp only [form, LengthForm.Fits, LengthForm.shortLength] at fits ⊢ <;>
    omega

end Frame

/-- The shortest form with room for a length. -/
def LengthForm.ofLength (length : Nat) : LengthForm :=
  if length < 126 then .short else if length < 2 ^ 16 then .medium else .long

/-- A length fits the form that is chosen for it. -/
theorem LengthForm.ofLength_fits {length : Nat} (small : length < 2 ^ 64) :
    (ofLength length).Fits length := by
  unfold ofLength
  split
  · assumption
  · split
    · assumption
    · exact small

/-- A whole message in one frame, with its length in the shortest form. -/
def Frame.unfragmented (mask : Option Mask) (opcode : Opcode) (payload : Bytes)
    (small : payload.length < 2 ^ 64) : Frame where
  fin := true
  reserved := 0
  opcode := opcode
  mask := mask
  form := .ofLength payload.length
  payload := payload
  fits := LengthForm.ofLength_fits small

/-- A frame that declares an empty payload in two length bytes. -/
def Frame.emptied (mask : Option Mask) (opcode : Opcode) : Frame where
  fin := true
  reserved := 0
  opcode := opcode
  mask := mask
  form := .medium
  payload := []
  fits := by simp [LengthForm.Fits]

/-- A frame as a client sends it, with a short payload and a mask of zeros. -/
def Frame.ofClient (fin : Bool) (opcode : Opcode) (payload : Bytes) (short : payload.length < 126) :
    Frame where
  fin := fin
  reserved := 0
  opcode := opcode
  mask := some (Vector.replicate 4 0)
  form := .short
  payload := payload
  fits := short

/-- The fields of the first byte are read back from it. -/
theorem firstByte_fields (fin : Bool) (reserved : Fin 8) (opcode : Opcode) :
    let byte := UInt8.ofNat ((if fin then 128 else 0) + 16 * reserved.val) ||| opcode.code
    ((byte &&& 0x80) != 0) = fin ∧ byte &&& 0x0f = opcode.code := by
  -- There are two flags, eight settings of the reserved bits, and six opcodes.
  revert fin reserved
  cases opcode <;> decide

/-- The fields of the second byte are read back from it. -/
theorem secondByte_fields (masked : Bool) {length : Nat} (small : length < 128) :
    let byte := UInt8.ofNat ((if masked then 128 else 0) + length)
    ((byte &&& 0x80) != 0) = masked ∧ byte &&& 0x7f = UInt8.ofNat length := by
  have all : ∀ (masked : Bool) (length : Fin 128),
      let byte := UInt8.ofNat ((if masked then 128 else 0) + length.val)
      ((byte &&& 0x80) != 0) = masked ∧ byte &&& 0x7f = UInt8.ofNat length.val := by
    decide
  exact all masked ⟨length, small⟩

/-- The first byte is made again from its fields. -/
theorem firstByte_of_fields (byte : UInt8) :
    UInt8.ofNat ((if (byte &&& 0x80) != 0 then 128 else 0) + 16 * (byte.toNat / 16 % 8)) |||
      (byte &&& 0x0f) = byte := by
  exact Endian.forall_byte (by decide +kernel) byte

/-- The second byte is made again from its fields. -/
theorem secondByte_of_fields (byte : UInt8) :
    UInt8.ofNat ((if (byte &&& 0x80) != 0 then 128 else 0) + (byte &&& 0x7f).toNat) = byte := by
  exact Endian.forall_byte (by decide +kernel) byte

/-- The reserved bits are read back from the first byte. -/
theorem firstByte_reserved (fin : Bool) (reserved : Fin 8) (opcode : Opcode) :
    (UInt8.ofNat ((if fin then 128 else 0) + 16 * reserved.val) ||| opcode.code).toNat / 16 % 8 =
      reserved.val := by
  revert fin reserved
  cases opcode <;> decide

/-- A length is read back from the form that it is written in. -/
theorem LengthForm.length_inj {form form' : LengthForm} {length length' : Nat}
    (fits : form.Fits length) (fits' : form'.Fits length')
    (short : form.shortLength length = form'.shortLength length')
    {rest rest' : Bytes}
    (extended : form.extendedLength length ++ rest = form'.extendedLength length' ++ rest') :
    form = form' ∧ length = length' ∧ rest = rest' := by
  -- A number of so many bytes is cut off in front of the rest, and read back.
  have sized (width : Nat) {value value' : Nat} (small : value < 256 ^ width)
      (small' : value' < 256 ^ width)
      (same : Endian.toBigEndian width value ++ rest = Endian.toBigEndian width value' ++ rest') :
      value = value' ∧ rest = rest' := by
    obtain ⟨bytes, behind⟩ := List.append_inj same (by simp)
    exact ⟨Endian.toBigEndian_inj small small' bytes, behind⟩
  -- Two forms with one short length are the same form; the mixed cases end in arithmetic.
  cases form <;> cases form' <;>
    simp only [Fits, shortLength, extendedLength] at fits fits' short extended
  case short.short => exact ⟨rfl, short, extended⟩
  case medium.medium =>
    obtain ⟨same, behind⟩ :=
      sized 2 (fits.trans_eq (by norm_num)) (fits'.trans_eq (by norm_num)) extended
    exact ⟨rfl, same, behind⟩
  case long.long =>
    obtain ⟨same, behind⟩ :=
      sized 8 (fits.trans_eq (by norm_num)) (fits'.trans_eq (by norm_num)) extended
    exact ⟨rfl, same, behind⟩
  all_goals omega

/-- A mask and what it was put on are read back. -/
theorem wireMask_inj {mask mask' : Option Mask} (masked : mask.isSome = mask'.isSome)
    {payload payload' rest rest' : Bytes} (length : payload.length = payload'.length)
    (same : wireMask mask ++ (wirePayload mask payload ++ rest) =
      wireMask mask' ++ (wirePayload mask' payload' ++ rest')) :
    mask = mask' ∧ payload = payload' ∧ rest = rest' := by
  -- The masks are equally long, so that the payloads begin at the same place.
  have masks : mask = mask' ∧
      wirePayload mask payload ++ rest = wirePayload mask' payload' ++ rest' := by
    cases mask with
    | none =>
      cases mask' with
      | none => exact ⟨rfl, same⟩
      | some bytes' => cases masked
    | some bytes =>
      cases mask' with
      | none => cases masked
      | some bytes' =>
        obtain ⟨front, behind⟩ := List.append_inj same (by simp [wireMask])
        exact ⟨congrArg some (Vector.toList_inj.mp front), behind⟩
  obtain ⟨rfl, behind⟩ := masks
  obtain ⟨front, rest_eq⟩ := List.append_inj behind (by simp [length])
  refine ⟨rfl, ?_, rest_eq⟩
  -- Masking twice gives the payload back.
  rw [← wirePayload_wirePayload mask payload, front, wirePayload_wirePayload]

/-- Bytes are those of one frame at most, and determine what is behind it. -/
theorem Frame.encode_inj {f g : Frame} {rest rest' : Bytes}
    (same : f.encode ++ rest = g.encode ++ rest') : f = g ∧ rest = rest' := by
  simp only [Frame.encode, List.cons_append, List.append_assoc, List.cons.injEq] at same
  -- The first two bytes hold the flags, the opcode and the short length.
  obtain ⟨first, second, behind⟩ := same
  obtain ⟨fin, opcode⟩ := firstByte_fields f.fin f.reserved f.opcode
  obtain ⟨fin', opcode'⟩ := firstByte_fields g.fin g.reserved g.opcode
  obtain ⟨masked, short⟩ := secondByte_fields f.mask.isSome f.shortLength_lt
  obtain ⟨masked', short'⟩ := secondByte_fields g.mask.isSome g.shortLength_lt
  change f.firstByte &&& 0x0f = _ at opcode
  change g.firstByte &&& 0x0f = _ at opcode'
  change ((f.firstByte &&& 0x80) != 0) = _ at fin
  change ((g.firstByte &&& 0x80) != 0) = _ at fin'
  change f.secondByte &&& 0x7f = _ at short
  change g.secondByte &&& 0x7f = _ at short'
  change ((f.secondByte &&& 0x80) != 0) = _ at masked
  change ((g.secondByte &&& 0x80) != 0) = _ at masked'
  -- Equal bytes have equal fields.
  have fins : f.fin = g.fin := by rw [← fin, first, fin']
  have opcodes : f.opcode = g.opcode := Opcode.code_inj.mp (by rw [← opcode, first, opcode'])
  have reserveds : f.reserved = g.reserved := by
    ext
    have bits := firstByte_reserved f.fin f.reserved f.opcode
    have bits' := firstByte_reserved g.fin g.reserved g.opcode
    change f.firstByte.toNat / 16 % 8 = _ at bits
    change g.firstByte.toNat / 16 % 8 = _ at bits'
    rw [← bits, first, bits']
  have maskeds : f.mask.isSome = g.mask.isSome := by rw [← masked, second, masked']
  have shorts : f.shortLength = g.shortLength := by
    have bytes : UInt8.ofNat f.shortLength = UInt8.ofNat g.shortLength := by
      rw [← short, second, short']
    have numbers := congrArg UInt8.toNat bytes
    have small := f.shortLength_lt
    have small' := g.shortLength_lt
    rw [UInt8.toNat_ofNat', UInt8.toNat_ofNat'] at numbers
    omega
  -- Behind them the length, the mask and the payload are cut at known places.
  obtain ⟨forms, lengths, behind⟩ := LengthForm.length_inj f.fits g.fits shorts behind
  obtain ⟨masks, payloads, rests⟩ := wireMask_inj maskeds lengths behind
  refine ⟨?_, rests⟩
  cases f
  cases g
  simp_all

end Rcom
