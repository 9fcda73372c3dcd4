import BitcoinKeys.Proofs.Ecdsa.Malleability
import BitcoinKeys.Proofs.Service.Verification

/-! # Mirrored signatures

A signature and its mirror image, with the negative of `s` and the recovery id of the mirror image
of its point, cannot be told apart by what they verify for, by the key that they give, or by what
the service finds out about their envelopes.
-/

namespace BitcoinKeys

open Secp256k1 SignedMessage

/-- Zero and the order are negatives of each other too, so that both values are scalars or none. -/
theorem Secp256k1.isScalar_iff_of_sum {s other : Word}
    (sum : s.toNat + other.toNat = groupOrder) : IsScalar other ↔ IsScalar s := by
  unfold IsScalar
  omega

namespace PublicKey

section

variable {r s other : Word} (sum : s.toNat + other.toNat = groupOrder)

include sum

theorem ofSignature_mirrored (message : ByteInput) (id : UInt8) :
    ofSignature message { r, s, recoveryId := some id } =
      ofSignature message { r, s := other, recoveryId := some (id ^^^ 1) } := by
  rw [ofSignature, ofSignature]
  apply bind_congr
  intro bytes
  have sameKey : (Ecdsa.RecoveryId.ofByte? (id ^^^ 1)).bind (Ecdsa.recover? bytes r other true) =
      (Ecdsa.RecoveryId.ofByte? id).bind (Ecdsa.recover? bytes r s true) := by
    rw [Ecdsa.RecoveryId.ofByte?_xor_one, Option.bind_map]
    apply Option.bind_congr
    intro recoveryId _
    exact Ecdsa.recover?_mirrored sum recoveryId
  simp only [isScalar_iff_of_sum sum, sameKey]

theorem ofSignedMessage_mirrored {message : Bytes} {envelope otherEnvelope : String} {id : UInt8}
    (written : encodeEnvelope { r, s, recoveryId := some id } = .ok envelope)
    (otherWritten : encodeEnvelope { r, s := other, recoveryId := some (id ^^^ 1) } =
      .ok otherEnvelope) :
    ofSignedMessage message envelope = ofSignedMessage message otherEnvelope := by
  rw [ofSignedMessage, ofSignedMessage, decodeEnvelope_of_encodeEnvelope written,
    decodeEnvelope_of_encodeEnvelope otherWritten, ok_bind, ok_bind]
  apply bind_congr
  intro digest
  rw [ofSignature_mirrored sum]

end

end PublicKey

namespace Service

/-- What the service finds out, and what it reports, rests on the recovered key. -/
theorem verifyMessage_congr {message : Bytes} {envelope other : String}
    (same : PublicKey.ofSignedMessage message envelope = PublicKey.ofSignedMessage message other)
    (service : Service) (address : String) :
    service.verifyMessage address message envelope =
      service.verifyMessage address message other := by
  unfold verifyMessage
  rw [recoverSigner_eq, recoverSigner_eq, same]

theorem exists_mirroredEnvelope (r other : Word) {id : UInt8} (small : id ≤ 3) :
    ∃ envelope, encodeEnvelope { r, s := other, recoveryId := some (id ^^^ 1) } = .ok envelope := by
  rcases Ecdsa.RecoveryId.exists_toByte_iff.mpr small with ⟨recoveryId, rfl⟩
  apply exists_encodeEnvelope_iff.mpr
  exact ⟨_, rfl, recoveryId.toByte_mirrored ▸ recoveryId.mirrored.toByte_le⟩

/-- A signature and its mirror image are handled alike: their candidates have the same points, under
ids that differ in the lowest bit, they verify for the same points, they give the same key or the
same failure, and the service answers the same for their envelopes. -/
theorem mirrored_signatures_agree (r s other : Word) (inRange : IsScalar s)
    (mirror : other.toNat = groupOrder - s.toNat) :
    (∀ (message : Bytes) (hashFirst : Bool) (coordinates : Coordinates),
      (∀ id : Ecdsa.RecoveryId, id.mirrored.toByte = id.toByte ^^^ 1 ∧
        ((coordinates, id) ∈ Ecdsa.candidates message r s hashFirst ↔
          (coordinates, id.mirrored) ∈ Ecdsa.candidates message r other hashFirst)) ∧
      Ecdsa.verify message r s coordinates hashFirst =
        Ecdsa.verify message r other coordinates hashFirst) ∧
    (∀ (message : ByteInput) (id : UInt8),
      PublicKey.ofSignature message { r, s, recoveryId := some id } =
        PublicKey.ofSignature message { r, s := other, recoveryId := some (id ^^^ 1) }) ∧
    ∀ id : UInt8, id ≤ 3 → ∃ envelope otherEnvelope,
      encodeEnvelope { r, s, recoveryId := some id } = .ok envelope ∧
      encodeEnvelope { r, s := other, recoveryId := some (id ^^^ 1) } = .ok otherEnvelope ∧
      ∀ (service : Service) (address : String) (message : Bytes),
        service.verifyMessage address message envelope =
          service.verifyMessage address message otherEnvelope := by
  have sum : s.toNat + other.toNat = groupOrder := by
    have below := inRange.2
    omega
  refine ⟨?_, PublicKey.ofSignature_mirrored sum, ?_⟩
  · intro message hashFirst coordinates
    refine ⟨?_, (Ecdsa.verify_mirrored sum).symm⟩
    intro id
    refine ⟨id.toByte_mirrored, ?_⟩
    rw [Ecdsa.mem_candidates, Ecdsa.mem_candidates, Ecdsa.recover?_mirrored sum]
  · intro id small
    have enveloped : ∃ envelope, encodeEnvelope { r, s, recoveryId := some id } = .ok envelope :=
      exists_encodeEnvelope_iff.mpr ⟨id, rfl, small⟩
    rcases enveloped with ⟨envelope, written⟩
    rcases exists_mirroredEnvelope r other small with ⟨otherEnvelope, otherWritten⟩
    refine ⟨envelope, otherEnvelope, written, otherWritten, ?_⟩
    intro service address message
    exact verifyMessage_congr (PublicKey.ofSignedMessage_mirrored sum written otherWritten)
      service address

/-- The low mirror image of a made-up signature with a high `s` is valid for the same address, under
the second id in place of the first. The third and the fourth id of a small `r` change places. -/
theorem mirrored_signatures_agree_run :
    let signature := Ecdsa.RecoveryRun.signature
    let key := PublicKey.RelabeledRun.key
    IsScalar signature.s ∧ signature.mirrored.s.toNat = groupOrder - signature.s.toNat ∧
    (Coordinates.base, (⟨true, false⟩ : Ecdsa.RecoveryId)) ∈
      Ecdsa.candidates Ecdsa.RecoveryRun.digest signature.r signature.mirrored.s true ∧
    (∃ envelope,
      encodeEnvelope { signature.mirrored with recoveryId := some 1 } = .ok envelope ∧
      (standard.verifyMessage (key.address true .mainnet) [0x61] envelope).result.valid = true) ∧
    ∃ coordinates,
      (coordinates, (⟨false, true⟩ : Ecdsa.RecoveryId)) ∈
        Ecdsa.candidates (List.replicate 32 0) 2 2 false ∧
      (coordinates, (⟨true, true⟩ : Ecdsa.RecoveryId)) ∈
        Ecdsa.candidates (List.replicate 32 0) 2 (BitVec.ofNat 256 (groupOrder - 2)) false := by
  intro signature key
  have inRange : IsScalar signature.s := by decide
  have mirror : signature.mirrored.s.toNat = groupOrder - signature.s.toNat := by decide
  rcases mirrored_signatures_agree signature.r signature.s _ inRange mirror with
    ⟨candidates, _, envelopes⟩
  refine ⟨inRange, mirror, ?_, ?_, ?_⟩
  · have listed := Ecdsa.mem_candidates.mpr Ecdsa.RecoveryRun.recover?_eq
    exact ((candidates _ true _).1 ⟨false, false⟩).2.mp listed
  · rcases envelopes 0 (by decide) with ⟨envelope, otherEnvelope, written, otherWritten, same⟩
    have signer : PublicKey.ofSignedMessage [0x61] envelope = .ok key :=
      PublicKey.RelabeledRun.ofSignedMessage_eq (decodeEnvelope_of_encodeEnvelope written)
    have matched : standard.matchesAddress key (key.address true .mainnet) = true :=
      matchesAddress_iff.mpr (.inl rfl)
    refine ⟨otherEnvelope, otherWritten, ?_⟩
    rw [← same, result_verifyMessage_of_ok signer, matched]
  · have found : (Ecdsa.recover? (List.replicate 32 0) 2 2 false ⟨false, true⟩).isSome = true := by
      decide +kernel
    rcases Option.isSome_iff_exists.mp found with ⟨coordinates, third⟩
    have listed := Ecdsa.mem_candidates.mpr third
    have swapped := (mirrored_signatures_agree 2 2 (BitVec.ofNat 256 (groupOrder - 2))
      (by decide) (by decide)).1 (List.replicate 32 0) false coordinates
    exact ⟨coordinates, listed, (swapped.1 ⟨false, true⟩).2.mp listed⟩

end Service

end BitcoinKeys
