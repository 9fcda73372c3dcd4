import BitcoinKeys.Proofs.ByteInput
import BitcoinKeys.Proofs.Signature

/-! # Fixed-width forms of signatures

The 64 bytes of a signature, their Base64 and their hexadecimal text are each read as the signature
without its recovery id, and nothing else is. The words are not range-checked. -/

namespace BitcoinKeys.Signature

variable {signature : Signature}

theorem ofBytes_eq_error_iff {bytes : Bytes} {error : KeyError} :
    ofBytes bytes = .error error ↔
      bytes.length ≠ byteLength ∧ error = .invalidEncoding (.length byteLength bytes.length) := by
  rw [ofBytes]
  split
  case isTrue width => simp [width]
  case isFalse wrong => simp [wrong, eq_comm]

/-! ## Texts -/

theorem ofBase64_eq_ok_iff {text : String} :
    ofBase64 text = .ok signature ↔
      Text.trim text = signature.toBase64 ∧ signature.recoveryId = none := by
  simp only [ofBase64, bind_eq_ok_iff, ofBytes_eq_ok_iff, ← and_assoc, exists_and_right,
    exists_eq_right, decodeBase64_eq_ok_iff, toBase64]

theorem ofInput_eq_ok_iff {input : ByteInput} :
    ofInput input = .ok signature ↔
      input.toBytes = .ok signature.toBytes ∧ signature.recoveryId = none := by
  simp only [ofInput, bind_eq_ok_iff, ofBytes_eq_ok_iff, ← and_assoc, exists_and_right,
    exists_eq_right]

theorem ofHex_eq_ok_iff {text : String} :
    ofHex text = .ok signature ↔
      Hex.lowered (Text.trim text) = signature.toHex ∧ signature.recoveryId = none := by
  rw [ofHex, ofInput_eq_ok_iff, ByteInput.toBytes_hex_eq_ok_iff, toHex]

/-- The fixed-width form of a signature has 64 bytes, the first half for `r` and the second for `s`.
A byte string is read as a signature exactly if it is the form of the signature and there is no
recovery id, and is refused exactly for another length. A text is read as a signature exactly if,
without the blanks around it, it is the Base64 of the form, or, with its capital digits in
lowercase, the hexadecimal text of the form. So every pair of words, in range or not, is read back
from each of its forms. -/
theorem fixedWidth_bijection :
    (∀ (bytes : Bytes) (signature : Signature),
      ofInput (.raw bytes) = .ok signature ↔
        bytes = signature.toBytes ∧ signature.recoveryId = none) ∧
    (∀ (bytes : Bytes) (error : KeyError),
      ofInput (.raw bytes) = .error error ↔
        bytes.length ≠ 64 ∧ error = .invalidEncoding (.length 64 bytes.length)) ∧
    (∀ (text : String) (signature : Signature),
      ofBase64 text = .ok signature ↔
        Text.trim text = signature.toBase64 ∧ signature.recoveryId = none) ∧
    (∀ (text : String) (signature : Signature),
      ofHex text = .ok signature ↔
        Hex.lowered (Text.trim text) = signature.toHex ∧ signature.recoveryId = none) ∧
    (∀ signature : Signature,
      signature.toBytes.length = 64 ∧
        Bytes.toNat (signature.toBytes.take 32) = signature.r.toNat ∧
        Bytes.toNat (signature.toBytes.drop 32) = signature.s.toNat) ∧
    ∀ r s : Word,
      ofInput (.raw (toBytes { r, s })) = .ok { r, s } ∧
        ofBase64 (toBase64 { r, s }) = .ok { r, s } ∧ ofHex (toHex { r, s }) = .ok { r, s } := by
  refine ⟨?_, ?_, ?_, ?_, ?_, ?_⟩
  · intro bytes signature
    exact ofBytes_eq_ok_iff
  · intro bytes error
    exact ofBytes_eq_error_iff
  · intro text signature
    exact ofBase64_eq_ok_iff
  · intro text signature
    exact ofHex_eq_ok_iff
  · intro signature
    exact ⟨signature.length_toBytes, Word.toNat_take_halves _ _, Word.toNat_drop_halves _ _⟩
  · intro r s
    refine ⟨?_, ?_, ?_⟩
    · rw [ofInput_eq_ok_iff]
      exact ⟨rfl, rfl⟩
    · rw [ofBase64_eq_ok_iff]
      exact ⟨Base64.trim_encode _, rfl⟩
    · rw [ofHex_eq_ok_iff, toHex, Hex.trim_encode, Hex.lowered_encode]
      exact ⟨rfl, rfl⟩

end BitcoinKeys.Signature
