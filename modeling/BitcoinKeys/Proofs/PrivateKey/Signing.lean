import BitcoinKeys.Proofs.PrivateKey.Construction
import BitcoinKeys.Proofs.PublicKey.Recovery

/-! # Signing with keys

Every secret in range has a key, and a signature that the key makes leads back to its public key.
-/

namespace BitcoinKeys

open Secp256k1

namespace PublicKey

theorem ofSignature_signsFor {key : PublicKey} {message : Bytes} {signature : Signature}
    (signs : Ecdsa.SignsFor message true signature key.point) :
    ofSignature (.raw message) signature = .ok (some key) := by
  rcases signs.recovers with ⟨id, stored, recovered⟩
  exact ofSignature_eq_some_iff.mpr ⟨message, rfl, id, stored, recovered⟩

end PublicKey

namespace PrivateKey

theorem scalar_of_ofWord {secret : Word} {key : PrivateKey} (read : ofWord secret = .ok key)
    (inRange : IsScalar secret) : key.scalar = secret := by
  rcases exists_key inRange with ⟨other, rfl⟩
  rw [ofWord_scalar] at read
  cases read
  rfl

theorem signsFor_of_sign {key : PrivateKey} {message : Bytes} {hashFirst : Bool}
    {signature : Signature} (signed : key.sign message hashFirst = .ok signature) :
    Ecdsa.SignsFor message hashFirst signature key.publicKey.point :=
  Ecdsa.signsFor_of_sign signed key.publicPoint_eq

/-- Every secret in range has a key. Whatever the key signs, the signature is in range with `s` in
the lower half, verification accepts it, recovery gives the public key for the stored id, and the
signature of a hashed message gives back the public key. -/
theorem exists_key_sign_sound {secret : Word} (inRange : IsScalar secret) :
    ∃ key : PrivateKey, ofWord secret = .ok key ∧
      Coordinates.ofPoint? (Point.base.multiple secret.toNat) = some key.publicKey.point ∧
      ∀ message hashFirst signature, key.sign message hashFirst = .ok signature →
        IsScalar signature.r ∧
        0 < signature.s.toNat ∧ signature.s.toNat ≤ (groupOrder - 1) / 2 ∧
        Ecdsa.verify message signature.r signature.s key.publicKey.point hashFirst = true ∧
        (∃ id : Ecdsa.RecoveryId, signature.recoveryId = some id.toByte ∧ id.toByte ≤ 3 ∧
          (key.publicKey.point, id) ∈
            Ecdsa.candidates message signature.r signature.s hashFirst) ∧
        (hashFirst = true →
          PublicKey.ofSignature (.raw message) signature = .ok (some key.publicKey)) := by
  rcases exists_key inRange with ⟨key, rfl⟩
  refine ⟨key, ofWord_scalar key, ofPoint?_multiple key, ?_⟩
  intro message hashFirst signature signed
  have signs := signsFor_of_sign signed
  rcases signs.recovers with ⟨id, stored, recovered⟩
  refine ⟨signs.r_isScalar, signs.s_isScalar.1, signs.s_le, signs.verifies,
    ⟨id, stored, id.toByte_le, Ecdsa.mem_candidates.mpr recovered⟩, ?_⟩
  intro hashed
  rw [hashed] at signs
  exact PublicKey.ofSignature_signsFor signs

/-- The smallest secret signs, and recovery gives its public key. -/
theorem exists_key_sign_sound_run :
    ∃ key : PrivateKey, ofWord 1 = .ok key ∧
      key.sign Ecdsa.SigningRun.digest true = .ok Ecdsa.SigningRun.signature ∧
      PublicKey.ofSignature (.raw Ecdsa.SigningRun.digest) Ecdsa.SigningRun.signature =
        .ok (some key.publicKey) := by
  have inRange : IsScalar 1 := by decide
  rcases exists_key_sign_sound inRange with ⟨key, read, _, sound⟩
  have signed : key.sign Ecdsa.SigningRun.digest true = .ok Ecdsa.SigningRun.signature := by
    rw [sign, scalar_of_ofWord read inRange]
    exact Ecdsa.SigningRun.sign_eq
  rcases sound _ _ _ signed with ⟨_, _, _, _, _, recovers⟩
  exact ⟨key, read, signed, recovers rfl⟩

end PrivateKey

end BitcoinKeys
