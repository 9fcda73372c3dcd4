import BitcoinKeys.Proofs.Ecdsa.Recovery
import BitcoinKeys.Proofs.PublicKey.Forms

/-! # Recovered keys

A signature with a recovery id gives the key that recovery finds for the id, and verifies for it. So
does an envelope, whoever made it: once a key is recovered, verification cannot turn it down. -/

namespace BitcoinKeys.PublicKey

open Secp256k1 SignedMessage

/-- A signature gives the key of the point that recovery finds for the stored id. -/
theorem ofSignature_eq_some_iff {message : ByteInput} {signature : Signature} {key : PublicKey} :
    ofSignature message signature = .ok (some key) ↔
      ∃ bytes, message.toBytes = .ok bytes ∧
        ∃ id : Ecdsa.RecoveryId, signature.recoveryId = some id.toByte ∧
          Ecdsa.recover? bytes signature.r signature.s true id = some key.point := by
  rw [ofSignature, bind_eq_ok_iff]
  constructor
  · intro steps
    rcases steps with ⟨bytes, read, found⟩
    refine ⟨bytes, read, ?_⟩
    split at found
    case h_1 => cases found
    case h_2 byte stored =>
      split at found
      case isFalse => cases found
      case isTrue =>
        split at found
        case h_1 => cases found
        case h_2 point recovered =>
          rcases Option.bind_eq_some_iff.mp recovered with ⟨id, idRead, recovered⟩
          rw [ofPoint_eq_ok_iff.mp (map_some_eq_ok_iff.mp found)]
          exact ⟨id, by rw [stored, Ecdsa.RecoveryId.ofByte?_eq_some_iff.mp idRead], recovered⟩
  · intro found
    rcases found with ⟨bytes, read, id, stored, recovered⟩
    refine ⟨bytes, read, ?_⟩
    simp only [stored]
    rw [if_pos (Ecdsa.isScalar_of_recover? recovered), Ecdsa.RecoveryId.ofByte?_toByte,
      Option.bind_some, recovered]
    exact map_some_eq_ok_iff.mpr key.ofPoint_point

theorem verify_of_ofSignature {message : ByteInput} {signature : Signature} {key : PublicKey}
    (found : ofSignature message signature = .ok (some key)) :
    key.verify message signature true = true := by
  rcases ofSignature_eq_some_iff.mp found with ⟨bytes, read, id, _, recovered⟩
  rw [verify, read]
  exact Ecdsa.verify_of_recover? recovered

/-! ## Envelopes -/

theorem ofSignedMessage_eq_ok_iff {message : Bytes} {envelope : String} {key : PublicKey} :
    ofSignedMessage message envelope = .ok key ↔
      ∃ signature, decodeEnvelope envelope = .ok signature ∧
        ∃ digest, SignedMessage.digest message = .ok digest ∧
          ofSignature (.raw digest) signature = .ok (some key) := by
  simp only [ofSignedMessage, bind_eq_ok_iff]
  constructor
  · intro steps
    rcases steps with ⟨signature, decoded, digest, digested, found, recovered, given⟩
    cases found with
    | none => cases given
    | some other =>
        cases given
        exact ⟨signature, decoded, digest, digested, recovered⟩
  · intro steps
    rcases steps with ⟨signature, decoded, digest, digested, recovered⟩
    exact ⟨signature, decoded, digest, digested, some key, recovered, rfl⟩

theorem verifySignedMessage_of_ofSignedMessage {message : Bytes} {envelope : String}
    {key : PublicKey} (recovered : ofSignedMessage message envelope = .ok key) :
    key.verifySignedMessage message envelope = .ok true := by
  rcases ofSignedMessage_eq_ok_iff.mp recovered with ⟨signature, decoded, digest, digested, found⟩
  rw [verifySignedMessage, decoded, ok_bind, digested, ok_bind, verify_of_ofSignature found]
  rfl

/-- The key that an envelope gives is never turned down by the envelope. -/
theorem verifyRecovered_eq (message : Bytes) (envelope : String) :
    verifyRecovered message envelope = (ofSignedMessage message envelope).map fun _ => true := by
  rw [verifyRecovered]
  cases recovered : ofSignedMessage message envelope with
  | error error => rfl
  | ok key =>
      rw [ok_bind, verifySignedMessage_of_ofSignedMessage recovered]
      rfl

end BitcoinKeys.PublicKey
