import BitcoinKeys.Proofs.ByteInput
import BitcoinKeys.Proofs.PrivateKey.Construction

/-! # Forms of private keys

A secret is written as an integer, as 32 bytes and as hexadecimal text, and the key is read back
from each. A text that is not hexadecimal is refused first, then one of another number of bytes, and
then one whose value is no secret. -/

namespace BitcoinKeys

open Secp256k1

namespace PrivateKey

/-! ## Hexadecimal texts -/

/-- The outcome that a hexadecimal text has to have. -/
inductive HexOutcome (text : String) : Except KeyError PrivateKey → Prop
  | notHex {cause} :
      (ByteInput.hex text).toBytes = .error (.invalidEncoding (.hex cause)) →
      HexOutcome text (.error (.invalidEncoding (.hex cause)))
  | length {bytes} :
      Hex.lowered (Text.trim text) = Hex.encode bytes →
      bytes.length ≠ 32 →
      HexOutcome text (.error (.invalidEncoding (.length 32 bytes.length)))
  | outOfRange {bytes} :
      Hex.lowered (Text.trim text) = Hex.encode bytes →
      bytes.length = 32 →
      bytes.toNat = 0 ∨ groupOrder ≤ bytes.toNat →
      HexOutcome text (.error (.outOfRange .privateScalar))
  | read {key} :
      Hex.lowered (Text.trim text) = key.toHex →
      HexOutcome text (.ok key)

section

variable {text : String}

theorem ofHex_eq_ok_iff {key : PrivateKey} :
    ofHex text = .ok key ↔ Hex.lowered (Text.trim text) = key.toHex := by
  rw [ofHex, ofInput_eq_ok_iff, ByteInput.toBytes_hex_eq_ok_iff, toHex]

theorem ofHex_of_written {bytes : Bytes}
    (written : Hex.lowered (Text.trim text) = Hex.encode bytes) : ofHex text = ofBytes bytes := by
  rw [ofHex, ofInput, ByteInput.toBytes_hex_eq_ok_iff.mpr written, ok_bind]

section

variable {bytes : Bytes} (width : bytes.length = Word.byteLength)

theorem isScalar_ofFixed_iff :
    IsScalar (Word.ofFixed bytes width) ↔ ¬ (bytes.toNat = 0 ∨ groupOrder ≤ bytes.toNat) := by
  rw [IsScalar, Word.toNat_ofFixed]
  omega

include width

theorem ofBytes_of_outside (outside : bytes.toNat = 0 ∨ groupOrder ≤ bytes.toNat) :
    ofBytes bytes = .error (.outOfRange .privateScalar) := by
  rw [ofBytes_of_length_eq width]
  apply ofWord_of_not_isScalar
  rw [isScalar_ofFixed_iff]
  exact not_not_intro outside

theorem exists_toBytes_of_inside (inside : ¬ (bytes.toNat = 0 ∨ groupOrder ≤ bytes.toNat)) :
    ∃ key : PrivateKey, key.toBytes = bytes := by
  rcases exists_key ((isScalar_ofFixed_iff width).mpr inside) with ⟨key, scalar⟩
  refine ⟨key, ?_⟩
  rw [toBytes, scalar, Word.toBytes_ofFixed]

end

theorem HexOutcome.eq {outcome : Except KeyError PrivateKey} (expected : HexOutcome text outcome) :
    ofHex text = outcome := by
  cases expected with
  | notHex unread => rw [ofHex, ofInput, unread, error_bind]
  | length written wrong =>
      rw [ofHex_of_written written]
      exact dif_neg wrong
  | outOfRange written width outside =>
      rw [ofHex_of_written written, ofBytes_of_outside width outside]
  | read written => exact ofHex_eq_ok_iff.mpr written

/-- Some outcome is expected of every text. -/
theorem exists_hexOutcome (text : String) : ∃ outcome, HexOutcome text outcome := by
  by_cases hex : ∃ bytes, Hex.lowered (Text.trim text) = Hex.encode bytes
  case neg =>
    rcases ByteInput.exists_toBytes_hex_eq_error_iff.mpr hex with ⟨cause, unread⟩
    exact ⟨_, .notHex unread⟩
  case pos =>
    rcases hex with ⟨bytes, written⟩
    by_cases width : bytes.length = 32
    case neg => exact ⟨_, .length written width⟩
    case pos =>
      by_cases outside : bytes.toNat = 0 ∨ groupOrder ≤ bytes.toNat
      case pos => exact ⟨_, .outOfRange written width outside⟩
      case neg =>
        rcases exists_toBytes_of_inside width outside with ⟨key, rfl⟩
        exact ⟨_, .read written⟩

theorem ofHex_eq_iff {outcome : Except KeyError PrivateKey} :
    ofHex text = outcome ↔ HexOutcome text outcome :=
  eq_iff_of_total (exists_hexOutcome text) HexOutcome.eq

theorem exists_ofHex_eq_hex_iff :
    (∃ cause, ofHex text = .error (.invalidEncoding (.hex cause))) ↔
      ¬ ∃ bytes, Hex.lowered (Text.trim text) = Hex.encode bytes := by
  rw [← ByteInput.exists_toBytes_hex_eq_error_iff]
  constructor
  · intro refused
    rcases refused with ⟨cause, refused⟩
    cases ofHex_eq_iff.mp refused with
    | notHex unread => exact ⟨cause, unread⟩
  · intro unread
    rcases unread with ⟨cause, unread⟩
    exact ⟨cause, ofHex_eq_iff.mpr (.notHex unread)⟩

end

/-! ## Secrets -/

/-- A hexadecimal text is read as a key exactly if, without the blanks around it and with its
capital digits in lowercase, it is the text of the key, and every other text is refused with the
expected failure. A word has a key exactly if it is a secret, and the key has the word as its
secret. A key is read back, with its public key, from its bytes, its text and its secret. -/
theorem forms_canonical :
    (∀ (text : String) (key : PrivateKey),
      ofHex text = .ok key ↔ Hex.lowered (Text.trim text) = key.toHex) ∧
    (∀ (text : String) (outcome : Except KeyError PrivateKey),
      ofHex text = outcome ↔ HexOutcome text outcome) ∧
    (∀ text : String,
      (∃ cause, ofHex text = .error (.invalidEncoding (.hex cause))) ↔
        ¬ ∃ bytes, Hex.lowered (Text.trim text) = Hex.encode bytes) ∧
    (∀ word : Word,
      (1 ≤ word.toNat ∧ word.toNat ≤ groupOrder - 1) ↔
        ∃ key, ofWord word = .ok key ∧ key.scalar = word ∧ key.toBytes.toNat = word.toNat) ∧
    ∀ key : PrivateKey,
      ofInput (.raw key.toBytes) = .ok key ∧ ofHex key.toHex = .ok key ∧
        ofWord key.scalar = .ok key := by
  refine ⟨?_, ?_, ?_, ?_, ?_⟩
  · intro text key
    exact ofHex_eq_ok_iff
  · intro text outcome
    exact ofHex_eq_iff
  · intro text
    exact exists_ofHex_eq_hex_iff
  · intro word
    have range : (1 ≤ word.toNat ∧ word.toNat ≤ groupOrder - 1) ↔ IsScalar word := by
      rw [IsScalar, groupOrder]
      omega
    rw [range, ← exists_ofWord_iff]
    constructor
    · intro made
      rcases made with ⟨key, made⟩
      have scalar := ofWord_eq_ok_iff.mp made
      exact ⟨key, made, scalar, by rw [toBytes, Word.toNat_toBytes, scalar]⟩
    · intro made
      rcases made with ⟨key, made, _⟩
      exact ⟨key, made⟩
  · intro key
    refine ⟨ofInput_eq_ok_iff.mpr rfl, ?_, key.ofWord_scalar⟩
    rw [ofHex_eq_ok_iff, toHex, Hex.trim_encode, Hex.lowered_encode]

end PrivateKey

end BitcoinKeys
