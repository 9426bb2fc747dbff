import Librcom.WebSocket.Frame

/-! The head a sender writes is the head of the frame it means, except at one length. -/

namespace Rcom

/-- Two masked bytes of a number are its two low bytes. -/
theorem twoBytes_eq (value : Nat) :
    [UInt8.ofNat (value &&& 0x00ff), UInt8.ofNat ((value &&& 0xff00) >>> 8)] =
      Endian.toLittleEndian 2 value := by
  have low := Endian.byte_of_mask value 0
  have high := Endian.byte_of_mask value 8
  simp only [Nat.shiftLeft_zero, Nat.shiftRight_zero] at low
  simp only [Endian.toLittleEndian, low, Nat.shiftRight_eq_div_pow] at high ⊢
  rw [← high]
  rfl

/-- Eight masked bytes of a number are its eight low bytes. -/
theorem eightBytes_eq (value : Nat) :
    [UInt8.ofNat (value &&& 0x00000000000000ff),
      UInt8.ofNat ((value &&& 0x000000000000ff00) >>> 8),
      UInt8.ofNat ((value &&& 0x0000000000ff0000) >>> 16),
      UInt8.ofNat ((value &&& 0x00000000ff000000) >>> 24),
      UInt8.ofNat ((value &&& 0x000000ff00000000) >>> 32),
      UInt8.ofNat ((value &&& 0x0000ff0000000000) >>> 40),
      UInt8.ofNat ((value &&& 0x00ff000000000000) >>> 48),
      UInt8.ofNat ((value &&& 0xff00000000000000) >>> 56)] =
      Endian.toLittleEndian 8 value := by
  -- Each mask is the byte mask shifted to its place, and shifting back divides by its weight.
  have byte : ∀ shift, UInt8.ofNat ((value &&& (255 <<< shift)) >>> shift) =
      UInt8.ofNat (value / 2 ^ shift) := by
    intro shift
    rw [Endian.byte_of_mask, Nat.shiftRight_eq_div_pow]
  simp only [Endian.toLittleEndian, Nat.div_div_eq_div_mul, List.cons.injEq, and_true]
  exact ⟨by simpa using byte 0, byte 8, byte 16, byte 24, byte 32, byte 40, byte 48, byte 56⟩

/-- The mask flag and a short length share the second byte. -/
theorem shortSecondByte_eq (masked : Bool) {length : Nat} (small : length < 126) :
    (if masked then (0x80 : UInt8) else 0) ||| UInt8.ofNat (length &&& 0x7f) =
      UInt8.ofNat ((if masked then 128 else 0) + length) := by
  have all : ∀ (masked : Bool) (length : Fin 126),
      (if masked then (0x80 : UInt8) else 0) ||| UInt8.ofNat (length.val &&& 0x7f) =
        UInt8.ofNat ((if masked then 128 else 0) + length.val) := by
    decide
  exact all masked ⟨length, small⟩

/-- The head written for a whole message is the head of its frame, at every length but one. -/
theorem frameHead_eq {f : Frame} (fin : f.fin = true) (reserved : f.reserved = 0)
    (form : f.form = .ofLength f.payload.length) (ordinary : f.payload.length ≠ 65536) :
    frameHead (if f.mask.isSome then 0x80 else 0)
        (if f.mask.isSome then Frames.frameTypeClient254 else Frames.frameTypeServer126)
        (if f.mask.isSome then Frames.frameTypeClient255 else Frames.frameTypeServer127)
        f.opcode f.payload.length =
      f.firstByte :: f.secondByte :: f.extendedLength := by
  have first : f.firstByte = 0x80 ||| f.opcode.code := by
    simp [Frame.firstByte, fin, reserved]
  unfold frameHead Frame.secondByte Frame.shortLength Frame.extendedLength
  rw [first, form]
  generalize f.payload.length = length at ordinary
  generalize f.mask.isSome = masked
  simp only [Frames.dataLength126, Frames.dataLength65536, LengthForm.ofLength]
  -- The sender's two thresholds and the forms' own limits differ only at 65536.
  rcases Nat.lt_or_ge length 126 with short | notShort
  · simp only [short, if_true, shortSecondByte_eq masked short]
    rfl
  · rcases Nat.lt_or_ge length (2 ^ 16) with medium | long
    · have within : length ≤ 65536 := by omega
      have narrowed : length % 2 ^ 16 = length := Nat.mod_eq_of_lt medium
      simp only [Nat.not_lt.mpr notShort, medium, within, narrowed, if_true, if_false,
        twoBytes_eq, htons, Endian.toLittleEndian_byteSwap]
      cases masked <;> rfl
    · -- Here both take the long form.
      have beyond : ¬ length ≤ 65536 := by omega
      simp only [Nat.not_lt.mpr notShort, Nat.not_lt.mpr long, beyond, if_false,
        eightBytes_eq, htonll, Endian.toLittleEndian_byteSwap]
      cases masked <;> rfl

/-- At 65536 bytes the narrowed length is zero, so the head declares an empty payload. -/
theorem frameHead_emptied (mask : Option Mask) (opcode : Opcode) :
    frameHead (if mask.isSome then 0x80 else 0)
        (if mask.isSome then Frames.frameTypeClient254 else Frames.frameTypeServer126)
        (if mask.isSome then Frames.frameTypeClient255 else Frames.frameTypeServer127)
        opcode 65536 =
      (Frame.emptied mask opcode).firstByte :: (Frame.emptied mask opcode).secondByte ::
        (Frame.emptied mask opcode).extendedLength := by
  -- Only the presence of the mask and the opcode matter, and there are twelve combinations.
  have both : ∀ (masked : Bool) (opcode : Opcode),
      frameHead (if masked then 0x80 else 0)
          (if masked then Frames.frameTypeClient254 else Frames.frameTypeServer126)
          (if masked then Frames.frameTypeClient255 else Frames.frameTypeServer127) opcode 65536 =
        (0x80 ||| opcode.code) :: UInt8.ofNat ((if masked then 128 else 0) + 126) :: [0, 0] := by
    intro masked opcode
    cases masked <;> cases opcode <;> rfl
  rw [both]
  cases mask <;>
    simp [Frame.firstByte, Frame.secondByte, Frame.shortLength, Frame.extendedLength,
      LengthForm.shortLength, LengthForm.extendedLength, Frame.emptied, Endian.toBigEndian,
      Endian.toLittleEndian]

/-- What a sender writes before a payload: the head and the mask. -/
def headBytes (mask : Option Mask) (opcode : Opcode) (length : Nat) : Bytes :=
  frameHead (if mask.isSome then 0x80 else 0)
      (if mask.isSome then Frames.frameTypeClient254 else Frames.frameTypeServer126)
      (if mask.isSome then Frames.frameTypeClient255 else Frames.frameTypeServer127)
      opcode length ++
    wireMask mask

/-- What a sender emits with one opcode does not begin with a frame of another. -/
theorem headBytes_opcode {mask : Option Mask} {opcode : Opcode} {length : Nat} {rest rest' : Bytes}
    {f : Frame} (same : headBytes mask opcode length ++ rest = f.encode ++ rest') :
    f.opcode = opcode := by
  -- Both begin with the same byte, of which the opcode is a part.
  have first : (0x80 : UInt8) ||| opcode.code = f.firstByte := by
    have front := congrArg List.head? same
    simpa [headBytes, frameHead, Frame.encode] using front
  have sent := (firstByte_fields true 0 opcode).2
  have received := (firstByte_fields f.fin f.reserved f.opcode).2
  change f.firstByte &&& 0x0f = f.opcode.code at received
  rw [← first] at received
  exact Opcode.code_inj.mp (received.symm.trans sent)

/-- What a sender emits for a message. -/
def frameBytes (mask : Option Mask) (opcode : Opcode) (payload : Bytes) : Bytes :=
  headBytes mask opcode payload.length ++ wirePayload mask payload

/-- At every length but one, a sender emits the frame that carries its message. -/
theorem frameBytes_eq (mask : Option Mask) (opcode : Opcode) {payload : Bytes}
    (small : payload.length < 2 ^ 64) (ordinary : payload.length ≠ 65536) :
    frameBytes mask opcode payload = (Frame.unfragmented mask opcode payload small).encode := by
  have head := frameHead_eq (f := .unfragmented mask opcode payload small) rfl rfl rfl ordinary
  rw [frameBytes, headBytes, List.append_assoc]
  exact congrArg (· ++ (wireMask mask ++ wirePayload mask payload)) head

/-- At 65536 bytes, a sender emits an empty frame and then bytes that belong to no frame. -/
theorem frameBytes_emptied (mask : Option Mask) (opcode : Opcode) {payload : Bytes}
    (exact : payload.length = 65536) :
    frameBytes mask opcode payload =
      (Frame.emptied mask opcode).encode ++ wirePayload mask payload := by
  have head := frameHead_emptied mask opcode
  simp only [frameBytes, headBytes, exact, head, Frame.encode]
  simp [Frame.emptied]

end Rcom
