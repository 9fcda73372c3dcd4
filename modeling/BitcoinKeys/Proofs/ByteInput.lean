import BitcoinKeys.ByteInput
import BitcoinKeys.Proofs.Base58Check
import BitcoinKeys.Proofs.Base64
import BitcoinKeys.Proofs.Hex

/-! # Texts that stand for bytes

Blanks around a text are ignored. Otherwise a byte string has one Base64 text and, but for letter
case, one hexadecimal text, and a version and a payload have one Base58Check text. -/

namespace BitcoinKeys

theorem ByteInput.toBytes_hex_eq_ok_iff {text : String} {bytes : Bytes} :
    (ByteInput.hex text).toBytes = .ok bytes ↔
      Hex.lowered (Text.trim text) = Hex.encode bytes := by
  rw [toBytes, mapError_eq_ok_iff, Hex.decode_utf8_eq_ok_iff]

/-- The bytes that an input writes, if it is raw or its text is hexadecimal but for blanks and
letter case. -/
def ByteInput.Writes : ByteInput → Bytes → Prop
  | .raw content, bytes => content = bytes
  | .hex text, bytes => Hex.lowered (Text.trim text) = Hex.encode bytes

theorem ByteInput.toBytes_eq_ok_iff {input : ByteInput} {bytes : Bytes} :
    input.toBytes = .ok bytes ↔ input.Writes bytes := by
  cases input with
  | raw content => rw [toBytes, Writes, Except.ok.injEq]
  | hex text => exact toBytes_hex_eq_ok_iff

/-- Reading an input can only fail for a text that is not hexadecimal. -/
theorem ByteInput.eq_hex_of_toBytes_eq_error {input : ByteInput} {error : KeyError}
    (failed : input.toBytes = .error error) : ∃ cause, error = .invalidEncoding (.hex cause) := by
  cases input with
  | raw content => cases failed
  | hex text =>
      rw [toBytes] at failed
      rcases mapError_eq_error_iff.mp failed with ⟨cause, _, rfl⟩
      exact ⟨cause, rfl⟩

theorem ByteInput.exists_toBytes_eq_error_iff {input : ByteInput} :
    (∃ cause, input.toBytes = .error (.invalidEncoding (.hex cause))) ↔
      ¬ ∃ bytes, input.Writes bytes := by
  simp only [← toBytes_eq_ok_iff]
  exact exists_eq_error_iff fun _ => eq_hex_of_toBytes_eq_error

theorem ByteInput.exists_toBytes_hex_eq_error_iff {text : String} :
    (∃ cause, (ByteInput.hex text).toBytes = .error (.invalidEncoding (.hex cause))) ↔
      ¬ ∃ bytes, Hex.lowered (Text.trim text) = Hex.encode bytes :=
  exists_toBytes_eq_error_iff

theorem decodeBase64_eq_ok_iff {text : String} {bytes : Bytes} :
    decodeBase64 text = .ok bytes ↔ Text.trim text = Base64.encode bytes := by
  rw [decodeBase64, mapError_eq_ok_iff, Base64.decode_utf8_eq_ok_iff]

theorem decodeBase64_encode (bytes : Bytes) : decodeBase64 (Base64.encode bytes) = .ok bytes :=
  decodeBase64_eq_ok_iff.mpr (Base64.trim_encode bytes)

theorem eq_base64_of_decodeBase64_eq_error {text : String} {error : KeyError}
    (failed : decodeBase64 text = .error error) :
    ∃ cause, error = .invalidEncoding (.base64 cause) := by
  rw [decodeBase64] at failed
  rcases mapError_eq_error_iff.mp failed with ⟨cause, _, rfl⟩
  exact ⟨cause, rfl⟩

theorem exists_decodeBase64_eq_error_iff {text : String} :
    (∃ cause, decodeBase64 text = .error (.invalidEncoding (.base64 cause))) ↔
      ¬ ∃ bytes, Text.trim text = Base64.encode bytes := by
  simp only [← decodeBase64_eq_ok_iff]
  exact exists_eq_error_iff fun _ => eq_base64_of_decodeBase64_eq_error

theorem decodeBase58Check_eq_ok_iff {text : String} {version : UInt8} {payload : Bytes} :
    decodeBase58Check text = .ok (version, payload) ↔
      Text.trim text = Base58Check.encode version payload := by
  rw [decodeBase58Check, mapError_eq_ok_iff, Base58Check.decode_eq_ok_iff]

theorem exists_decodeBase58Check_eq_error_iff {text : String} :
    (∃ cause, decodeBase58Check text = .error (.invalidEncoding (.base58Check cause))) ↔
      ¬ ∃ version payload, Text.trim text = Base58Check.encode version payload := by
  simp only [← Base58Check.decode_eq_ok_iff, decodeBase58Check]
  cases Base58Check.decode text with
  | error cause => simp [Except.mapError]
  | ok decoded =>
      rcases decoded with ⟨version, payload⟩
      simp [Except.mapError]

/-- Base58Check is a bijection between the pairs of a version and a payload and the texts that are
accepted, but for the blanks around them; all other texts are refused as Base58Check. The text of a
version and a payload writes both and the first four bytes of their double digest in base 58, with
a leading `1` for every leading zero byte, and it is the only text that does. -/
theorem decodeBase58Check_bijection :
    (∀ (version : UInt8) (payload : Bytes),
      decodeBase58Check (Base58Check.encode version payload) = .ok (version, payload)) ∧
    (∀ (text : String) (version : UInt8) (payload : Bytes),
      decodeBase58Check text = .ok (version, payload) ↔
        Text.trim text = Base58Check.encode version payload) ∧
    (∀ text : String,
      (∃ cause, decodeBase58Check text = .error (.invalidEncoding (.base58Check cause))) ↔
        ¬ ∃ version payload, Text.trim text = Base58Check.encode version payload) ∧
    ∀ (text : String) (version : UInt8) (payload : Bytes),
      text = Base58Check.encode version payload ↔
        Base58.Writes text
          (version :: payload ++ (Hash.sha256 (Hash.sha256 (version :: payload))).take 4) := by
  refine ⟨?_, ?_, ?_, ?_⟩
  · intro version payload
    exact decodeBase58Check_eq_ok_iff.mpr (Base58Check.trim_encode version payload)
  · intro text version payload
    exact decodeBase58Check_eq_ok_iff
  · intro text
    exact exists_decodeBase58Check_eq_error_iff
  · intro text version payload
    rw [Base58.writes_iff]
    rfl

/-- A text with a checksum of nothing has no version. -/
example : decodeBase58Check "3QJmnh" = .error (.invalidEncoding (.base58Check .noVersion)) := by
  decide +kernel

end BitcoinKeys
