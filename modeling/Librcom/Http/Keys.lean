import Librcom.Bytes.Base64Rounds
import Librcom.Http.Request

/-! The keys of WebSockets, which are sixteen bytes written in letters. -/

namespace Rcom

open Base64 (encodeBase64 encodeRounds decodeBase64 isLetter)

/-- Sixteen bytes are written in the form that is asked for. -/
theorem Request.isValidWebsocketKey_encodeBase64 {bytes : Bytes} (size : bytes.length = 16) :
    Request.isValidWebsocketKey (encodeBase64 bytes) = .ok () := by
  -- Sixteen bytes are five groups of three and one byte, which two equals signs fill up.
  obtain ⟨text, written, nonempty, letters⟩ := Base64.encodeBase64_single (by rw [size])
  have length := Base64.length_encodeBase64 bytes
  rw [written, size, List.length_append] at length
  -- The characters in front of the two equals signs are as many as the source looks for.
  have front : text.length = 22 := by simpa using length
  have first : (text ++ [61, 61])[22]? = some 61 := by
    rw [List.getElem?_append_right (by omega), front]
    rfl
  have second : (text ++ [61, 61])[23]? = some 61 := by
    rw [List.getElem?_append_right (by omega), front]
    rfl
  rw [written, Request.isValidWebsocketKey, first, second, Base64.isBase64String_append nonempty letters]
  simp [front]

/--
Bytes are written in letters of the alphabet with equals signs behind them, and read back as they were.

Each three bytes take four characters, and so do fewer bytes at the end. Sixteen bytes make a key that is valid.
-/
theorem encodeRounds_correct (data : Bytes) :
    (encodeRounds data 0 []).length = 4 * ((data.length + 2) / 3) ∧
    (∃ text, encodeRounds data 0 [] = text ++ List.replicate ((3 - data.length % 3) % 3) 61 ∧
      ∀ byte ∈ text, isLetter byte = true) ∧
    decodeBase64 (encodeRounds data 0 []) = some data ∧
    (∀ other, encodeRounds other 0 [] = encodeRounds data 0 [] → other = data) ∧
    (data.length = 16 → Request.isValidWebsocketKey (encodeRounds data 0 []) = .ok ()) := by
  -- From the first index on, the rounds write all of the bytes.
  have whole (data : Bytes) : encodeRounds data 0 [] = encodeBase64 data := by
    rw [Base64.encodeRounds_eq, List.nil_append, List.drop_zero]
  rw [whole]
  obtain ⟨text, written, -, letters⟩ := Base64.encodeBase64_filled data
  refine ⟨Base64.length_encodeBase64 data, ⟨text, written, letters⟩,
    Base64.decodeBase64_encodeBase64 data, ?_, Request.isValidWebsocketKey_encodeBase64⟩
  intro other same
  -- Two texts that are the same are read as the same bytes.
  have read := Base64.decodeBase64_encodeBase64 other
  rw [← whole, same, Base64.decodeBase64_encodeBase64] at read
  exact (Option.some.inj read).symm

example : encodeRounds [102, 111, 111, 98] 0 [] = [90, 109, 57, 118, 89, 103, 61, 61] := by
  simp [encodeRounds, Base64.entry, Base64.table]

end Rcom
