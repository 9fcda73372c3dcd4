import BitcoinKeys.Proofs.Ecdsa.SigningPoint

/-! # Recovery and verification

The keys that recovery enumerates are the keys for which verification accepts: an id designates the
point of a key as soon as the x coordinate of the point gives `r`.
-/

namespace BitcoinKeys.Ecdsa

open Secp256k1

theorem RecoveryId.ofByte?_eq_some_iff {byte : UInt8} {id : RecoveryId} :
    RecoveryId.ofByte? byte = some id ↔ byte = id.toByte := by
  constructor
  · intro found
    rw [RecoveryId.ofByte?] at found
    have numbered := List.find?_some found
    exact (beq_iff_eq.mp numbered).symm
  · intro equal
    rw [equal, RecoveryId.ofByte?_toByte]

theorem RecoveryId.eq_of_toByte_eq {left right : RecoveryId} (equal : left.toByte = right.toByte) :
    left = right := by
  have read := RecoveryId.ofByte?_eq_some_iff.mpr equal
  rw [RecoveryId.ofByte?_toByte] at read
  exact Option.some.inj read

theorem RecoveryId.exists_toByte_iff {byte : UInt8} :
    (∃ id : RecoveryId, id.toByte = byte) ↔ byte ≤ 3 := by
  constructor
  · intro numbered
    rcases numbered with ⟨id, rfl⟩
    exact id.toByte_le
  · intro small
    have every : ∀ code : Fin 256, .ofFin code ≤ (3 : UInt8) →
        ∃ id ∈ all, id.toByte = .ofFin code := by
      decide +kernel
    rcases every byte.toFin small with ⟨id, _, numbered⟩
    exact ⟨id, numbered⟩

@[simp]
theorem mem_candidates {message : Bytes} {r s : Word} {hashFirst : Bool}
    {coordinates : Coordinates} {id : RecoveryId} :
    (coordinates, id) ∈ candidates message r s hashFirst ↔
      recover? message r s hashFirst id = some coordinates := by
  rw [candidates, List.mem_filterMap]
  constructor
  · intro listed
    rcases listed with ⟨other, _, found⟩
    rcases Option.map_eq_some_iff.mp found with ⟨point, recovered, equal⟩
    cases equal
    exact recovered
  · intro recovered
    exact ⟨id, RecoveryId.mem_all id, Option.map_eq_some_iff.mpr ⟨coordinates, recovered, rfl⟩⟩

section

variable {message : Bytes} {r s : Word} {hashFirst : Bool} {coordinates : Coordinates}
variable {id : RecoveryId} (recovered : recover? message r s hashFirst id = some coordinates)

include recovered

/-- The signature verifies for the key that recovery gives, whoever made it. -/
theorem verify_of_recover? : verify message r s coordinates hashFirst = true := by
  rcases recover?_eq_some_iff.mp recovered with
    ⟨scalars, key, read, coordinatesRead, designates⟩
  apply verify_iff.mpr
  refine ⟨scalars, key, read, coordinatesRead, ?_⟩
  apply (scalars.accepts_iff_exists_designates key).mpr
  exact ⟨id, designates⟩

theorem isScalar_of_recover? : IsScalar r ∧ IsScalar s :=
  isScalar_of_verify (verify_of_recover? recovered)

/-- No key is recovered twice. -/
theorem id_unique_of_recover? {other : RecoveryId}
    (otherRecovered : recover? message r s hashFirst other = some coordinates) : id = other := by
  rcases recover?_eq_some_iff.mp recovered with
    ⟨scalars, key, read, coordinatesRead, designates⟩
  rcases recover?_eq_some_iff.mp otherRecovered with
    ⟨otherScalars, otherKey, otherRead, otherCoordinatesRead, otherDesignates⟩
  cases Option.some.inj (read.symm.trans otherRead)
  cases Coordinates.element_unique coordinatesRead otherCoordinatesRead
  exact designates.id_unique otherDesignates

end

/-- Recovery finds every key for which the signature verifies. -/
theorem exists_recover?_of_verify {message : Bytes} {r s : Word} {hashFirst : Bool}
    {coordinates : Coordinates} (verified : verify message r s coordinates hashFirst = true) :
    ∃ id, recover? message r s hashFirst id = some coordinates := by
  rcases verify_iff.mp verified with ⟨scalars, key, read, coordinatesRead, accepts⟩
  rcases (scalars.accepts_iff_exists_designates key).mp accepts with ⟨id, designates⟩
  exact ⟨id, recover?_eq_some_iff.mpr ⟨scalars, key, read, coordinatesRead, designates⟩⟩

/-- Verification accepts a key exactly if recovery gives it for one of the ids. -/
theorem verify_iff_exists_mem_candidates (message : Bytes) (hashFirst : Bool) (r s : Word)
    (coordinates : Coordinates) :
    verify message r s coordinates hashFirst = true ↔
      ∃ id, (coordinates, id) ∈ candidates message r s hashFirst := by
  simp only [mem_candidates, verify_iff, recover?_eq_some_iff,
    SignedScalars.accepts_iff_exists_designates]
  constructor
  · intro accepted
    rcases accepted with ⟨scalars, key, read, coordinatesRead, id, designates⟩
    exact ⟨id, scalars, key, read, coordinatesRead, designates⟩
  · intro recovered
    rcases recovered with ⟨id, scalars, key, read, coordinatesRead, designates⟩
    exact ⟨scalars, key, read, coordinatesRead, id, designates⟩

/-! ## A run

A signature with a high `s` that is made up for the base point, without its secret. The words add up
so that the point of the signature is the base point too. -/

namespace RecoveryRun

def digest : Bytes := [
  0xEB, 0xD1, 0x04, 0xA0, 0x26, 0xEC, 0x6D, 0x4D, 0xE8, 0xAB, 0x45, 0x02, 0x8F, 0x05, 0x15, 0x5C,
  0x52, 0x42, 0xAE, 0x6E, 0xA7, 0x85, 0x75, 0x55, 0x43, 0xF0, 0x00, 0x49, 0x58, 0x18, 0x0E, 0x77]

def scalars : SignedScalars where
  prehash := 0x81059B18A4975DC3BA3A5437B4BAD1B38C3875407F80C7965BE4AB42BE222C3D
  r := 0x79BE667EF9DCBBAC55A06295CE870B07029BFCDB2DCE28D959F2815B16F81798
  s := 0xFAC401979E7419700FDAB6CD8341DCBA8ED4721BAD4EF06FB5D72C9DD51A43D5
  r_ne_zero := by decide
  s_ne_zero := by decide

def signature : Signature where
  r := scalars.r.toWord
  s := scalars.s.toWord
  recoveryId := some 0

theorem recover?_eq :
    recover? digest signature.r signature.s true ⟨false, false⟩ = some Coordinates.base := by
  have read : signedScalars? digest signature.r signature.s true = some scalars := by
    apply signedScalars?_eq_some_iff.mpr
    refine ⟨scalar?_toWord scalars.r_ne_zero, scalar?_toWord scalars.s_ne_zero, ?_⟩
    decide +kernel
  apply recover?_eq_some_iff.mpr
  refine ⟨scalars, baseElement, read, ?_, ?_⟩
  · rw [ofGroup_baseElement]
    rfl
  · rw [SignedScalars.point_baseElement (by decide), ofGroup_baseElement]
    exact ⟨baseX, baseY, rfl, by decide, by decide⟩

end RecoveryRun

end BitcoinKeys.Ecdsa
