import BitcoinKeys.Base58Check
import BitcoinKeys.Proofs.Base58

/-! # Base58Check is canonical

The checksum is determined by what stands in front of it, so a text is read exactly if it is, up to
the blanks around it, the text that is written for the version and the payload. Different versions
or payloads have different texts. -/

namespace BitcoinKeys.Base58Check

theorem length_checksum (content : Bytes) : (checksum content).length = checksumLength := by
  rw [checksum, List.length_take, Hash.length_doubleSha256]
  rfl

/-- The checksum is taken off exactly if it is the one of what stands in front of it. -/
theorem openChecked_eq_ok_iff {bytes content : Bytes} :
    openChecked bytes = .ok content ↔ bytes = content ++ checksum content := by
  constructor
  · intro opened
    unfold openChecked at opened
    split at opened
    case isTrue => cases opened
    case isFalse =>
      dsimp only at opened
      split at opened
      case isTrue right =>
        cases opened
        rw [right, List.take_append_drop]
      case isFalse => cases opened
  · intro written
    have front : bytes.length - checksumLength = content.length := by
      rw [written, List.length_append, length_checksum, Nat.add_sub_cancel]
    have long : ¬ bytes.length < checksumLength := by
      rw [written, List.length_append, length_checksum]
      omega
    have taken : bytes.take content.length = content := by
      rw [written, List.take_left]
    have dropped : bytes.drop content.length = checksum content := by
      rw [written, List.drop_left]
    rw [openChecked, if_neg long, front]
    simp only [taken, dropped, if_true]

theorem splitVersion_eq_ok_iff {content payload : Bytes} {version : UInt8} :
    splitVersion content = .ok (version, payload) ↔ content = version :: payload := by
  cases content with
  | nil => simp [splitVersion]
  | cons first rest => simp [splitVersion]

/-- Blanks around a text are ignored, and otherwise only the text that is written for a version and
a payload is read as these. -/
theorem decode_eq_ok_iff {text : String} {version : UInt8} {payload : Bytes} :
    decode text = .ok (version, payload) ↔ Text.trim text = encode version payload := by
  simp only [decode, bind_eq_ok_iff, mapError_eq_ok_iff, Base58.decode_utf8_eq_ok_iff,
    openChecked_eq_ok_iff, splitVersion_eq_ok_iff]
  constructor
  · intro steps
    rcases steps with ⟨bytes, text_eq, content, rfl, rfl⟩
    exact text_eq
  · intro written
    exact ⟨_, written, _, rfl, rfl⟩

theorem trim_encode (version : UInt8) (payload : Bytes) :
    Text.trim (encode version payload) = encode version payload :=
  Text.trim_ofAscii (Base58.graphic_symbols _)

theorem decode_encode (version : UInt8) (payload : Bytes) :
    decode (encode version payload) = .ok (version, payload) :=
  decode_eq_ok_iff.mpr (trim_encode version payload)

theorem encode_inj {version other : UInt8} {payload otherPayload : Bytes} :
    encode version payload = encode other otherPayload ↔
      version = other ∧ payload = otherPayload := by
  constructor
  · intro equal
    have decoded := decode_encode version payload
    rw [equal, decode_encode] at decoded
    cases decoded
    exact ⟨rfl, rfl⟩
  · intro equal
    rw [equal.1, equal.2]

end BitcoinKeys.Base58Check
