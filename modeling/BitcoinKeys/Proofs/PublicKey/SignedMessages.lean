import BitcoinKeys.Proofs.PublicKey.Recovery
import BitcoinKeys.Proofs.SignedMessage

/-! # Signed messages of a key

Whether an envelope is a key's own is answered in two ways: by verifying its signature for the key,
which does not look at the recovery id, and by recovering a key from it, which does. The two differ
in the first byte of the envelope alone. -/

namespace BitcoinKeys.PublicKey

open Secp256k1 SignedMessage

/-- An envelope with another recovery id gives the key of the point that the id designates. -/
theorem ofSignedMessage_relabeled_eq_ok_iff {message : Bytes} {signature : Signature}
    {byte : UInt8} {key : PublicKey} :
    (encodeEnvelope (signature.withRecoveryId byte) >>= ofSignedMessage message) = .ok key ↔
      ∃ digest, SignedMessage.digest message = .ok digest ∧
        ∃ id : Ecdsa.RecoveryId, byte = id.toByte ∧
          Ecdsa.recover? digest signature.r signature.s true id = some key.point := by
  rw [bind_eq_ok_iff]
  constructor
  · intro steps
    rcases steps with ⟨envelope, written, recovered⟩
    rcases ofSignedMessage_eq_ok_iff.mp recovered with ⟨_, decoded, digest, digested, given⟩
    rw [decodeEnvelope_of_encodeEnvelope written] at decoded
    cases decoded
    rcases ofSignature_eq_some_iff.mp given with ⟨_, read, id, stored, found⟩
    cases read
    exact ⟨digest, digested, id, Option.some.inj stored, found⟩
  · intro designated
    rcases designated with ⟨digest, digested, id, rfl, found⟩
    have enveloped : ∃ envelope,
        encodeEnvelope (signature.withRecoveryId id.toByte) = .ok envelope :=
      exists_encodeEnvelope_iff.mpr ⟨id.toByte, rfl, id.toByte_le⟩
    rcases enveloped with ⟨envelope, written⟩
    refine ⟨envelope, written, ?_⟩
    apply ofSignedMessage_eq_ok_iff.mpr
    refine ⟨_, decodeEnvelope_of_encodeEnvelope written, digest, digested, ?_⟩
    apply ofSignature_eq_some_iff.mpr
    exact ⟨digest, rfl, id, rfl, found⟩

theorem verifySignedMessage_of_decoded {message digest : Bytes} {envelope : String}
    {signature : Signature} (key : PublicKey) (decoded : decodeEnvelope envelope = .ok signature)
    (digested : SignedMessage.digest message = .ok digest) :
    key.verifySignedMessage message envelope =
      .ok (Ecdsa.verify digest signature.r signature.s key.point true) := by
  rw [verifySignedMessage, decoded, ok_bind, digested, ok_bind]
  rfl

/-! ## An envelope with another recovery id -/

namespace RelabeledRun

def key : PublicKey := ofOnCurve Coordinates.base (by decide)

/-- The envelope of a signature of the base point's key, with the last of the recovery ids in the
place of the first. -/
def envelope : String :=
  Base64.encode ((firstMagic + 3) :: Ecdsa.RecoveryRun.signature.toBytes)

theorem encodeEnvelope_eq :
    encodeEnvelope (Ecdsa.RecoveryRun.signature.withRecoveryId 3) = .ok envelope := rfl

theorem digest_eq : SignedMessage.digest [0x61] = .ok Ecdsa.RecoveryRun.digest := by
  have hashed : Hash.sha256 (header ++ [1, 0x61]) = Ecdsa.RecoveryRun.digest := by
    rw [header_eq]
    decide +kernel
  exact (digest_of_short (by decide)).trans (congrArg Except.ok hashed)

/-- The signature with its own recovery id gives the key. -/
theorem ofSignedMessage_eq {envelope : String}
    (decoded : decodeEnvelope envelope = .ok Ecdsa.RecoveryRun.signature) :
    ofSignedMessage [0x61] envelope = .ok key := by
  have given : ofSignature (.raw Ecdsa.RecoveryRun.digest) Ecdsa.RecoveryRun.signature =
      .ok (some key) := by
    apply ofSignature_eq_some_iff.mpr
    exact ⟨_, rfl, ⟨false, false⟩, rfl, Ecdsa.RecoveryRun.recover?_eq⟩
  exact ofSignedMessage_eq_ok_iff.mpr ⟨_, decoded, _, digest_eq, given⟩

end RelabeledRun

/-! ## Both ways -/

/-- Verification for a key and recovery of the key agree, up to the first byte of the envelope:
the key verifies an envelope exactly if some recovery id in it would give the key, and then no other
id does. -/
theorem verifySignedMessage_iff_exists_relabeled (key : PublicKey) {message : Bytes}
    {envelope : String} {signature : Signature} (short : message.length ≤ 255)
    (decoded : decodeEnvelope envelope = .ok signature) :
    (key.verifySignedMessage message envelope = .ok true ↔
      ∃ id : UInt8, id ≤ 3 ∧
        (encodeEnvelope (signature.withRecoveryId id) >>= ofSignedMessage message) = .ok key) ∧
    ∀ first second : UInt8,
      (encodeEnvelope (signature.withRecoveryId first) >>= ofSignedMessage message) = .ok key →
      (encodeEnvelope (signature.withRecoveryId second) >>= ofSignedMessage message) = .ok key →
      first = second := by
  have digested := digest_of_short short
  simp only [key.verifySignedMessage_of_decoded decoded digested, Except.ok.injEq,
    ofSignedMessage_relabeled_eq_ok_iff]
  refine ⟨?_, ?_⟩
  · constructor
    · intro verified
      rcases Ecdsa.exists_recover?_of_verify verified with ⟨id, found⟩
      exact ⟨id.toByte, id.toByte_le, _, digested, id, rfl, found⟩
    · intro recovered
      rcases recovered with ⟨_, _, _, sameDigested, id, _, found⟩
      cases digested.symm.trans sameDigested
      exact Ecdsa.verify_of_recover? found
  · intro first second firstRecovered secondRecovered
    rcases firstRecovered with ⟨_, firstDigested, firstId, rfl, firstFound⟩
    rcases secondRecovered with ⟨_, secondDigested, secondId, rfl, secondFound⟩
    cases firstDigested.symm.trans secondDigested
    rw [Ecdsa.id_unique_of_recover? firstFound secondFound]

/-- The key verifies the envelope although the recovery id in it does not give the key. -/
theorem verifySignedMessage_iff_exists_relabeled_run :
    ([0x61] : Bytes).length ≤ 255 ∧
    decodeEnvelope RelabeledRun.envelope =
      .ok (Ecdsa.RecoveryRun.signature.withRecoveryId 3) ∧
    RelabeledRun.key.verifySignedMessage [0x61] RelabeledRun.envelope = .ok true ∧
    ofSignedMessage [0x61] RelabeledRun.envelope ≠ .ok RelabeledRun.key := by
  have short : ([0x61] : Bytes).length ≤ 255 := by decide
  have decoded := decodeEnvelope_of_encodeEnvelope RelabeledRun.encodeEnvelope_eq
  rcases verifySignedMessage_iff_exists_relabeled RelabeledRun.key short decoded with
    ⟨verifies, unique⟩
  have recovered : (encodeEnvelope
      ((Ecdsa.RecoveryRun.signature.withRecoveryId 3).withRecoveryId 0) >>=
        ofSignedMessage [0x61]) = .ok RelabeledRun.key := by
    apply ofSignedMessage_relabeled_eq_ok_iff.mpr
    exact ⟨_, RelabeledRun.digest_eq, ⟨false, false⟩, rfl, Ecdsa.RecoveryRun.recover?_eq⟩
  refine ⟨short, decoded, ?_, ?_⟩
  · apply verifies.mpr
    exact ⟨0, by decide, recovered⟩
  · intro given
    have relabeled : (encodeEnvelope
        ((Ecdsa.RecoveryRun.signature.withRecoveryId 3).withRecoveryId 3) >>=
          ofSignedMessage [0x61]) = .ok RelabeledRun.key := by
      change (encodeEnvelope (Ecdsa.RecoveryRun.signature.withRecoveryId 3) >>= _) = _
      rw [RelabeledRun.encodeEnvelope_eq, ok_bind, given]
    exact absurd (unique 0 3 recovered relabeled) (by decide)

end BitcoinKeys.PublicKey
