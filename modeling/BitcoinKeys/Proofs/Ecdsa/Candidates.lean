import BitcoinKeys.Proofs.Ecdsa.Recovery

/-! # The list of candidates

Recovery lists the keys of a signature in the order of their ids, and each of them once: two ids
stand for two points, and two points for two keys. The last two ids are for a small `r`, which two
x coordinates can give.
-/

namespace BitcoinKeys.Ecdsa

open Secp256k1

theorem RecoveryId.pairwise_all :
    RecoveryId.all.Pairwise fun left right => left.toByte < right.toByte := by
  decide

section

variable {message : Bytes} {r s : Word} {hashFirst : Bool} {coordinates : Coordinates}
variable {id : RecoveryId} (recovered : recover? message r s hashFirst id = some coordinates)

include recovered

theorem onCurve_of_recover? : coordinates.OnCurve := by
  rcases recover?_eq_some_iff.mp recovered with ⟨_, key, _, coordinatesRead, _⟩
  exact Coordinates.onCurve_iff.mpr ⟨key, coordinatesRead⟩

/-- An x coordinate that was reduced exceeds `r` by the order, and is still in the field. -/
theorem lt_of_recover?_reduced (reduced : id.xIsReduced = true) :
    r.toNat < fieldPrime - groupOrder := by
  rcases recover?_eq_some_iff.mp recovered with ⟨scalars, _, read, _, x, y, _, residue, equal⟩
  rcases signedScalars?_eq_some_iff.mp read with ⟨rRead, _⟩
  have value := (scalar?_eq_some_iff_value.mp rRead).2
  have large : groupOrder ≤ x.value := by
    rw [equal] at reduced
    exact of_decide_eq_true reduced
  have abscissa : x.value = abscissa scalars.r id :=
    RecoveryId.abscissa_eq_iff.mpr ⟨residue, by simp [reduced, large]⟩
  have below := x.value_lt
  rw [Ecdsa.abscissa, if_pos reduced] at abscissa
  omega

end

theorem RecoveryId.two_le_toByte_iff {id : RecoveryId} :
    2 ≤ id.toByte ↔ id.xIsReduced = true := by
  rcases id with ⟨_ | _, _ | _⟩ <;> decide

section

variable (message : Bytes) (r s : Word) (hashFirst : Bool)

theorem pairwise_candidates :
    (candidates message r s hashFirst).Pairwise fun left right =>
      left.2.toByte < right.2.toByte := by
  apply List.Pairwise.filterMap _ _ RecoveryId.pairwise_all
  intro left right ascending leftCandidate leftFound rightCandidate rightFound
  rcases Option.map_eq_some_iff.mp leftFound with ⟨_, _, rfl⟩
  rcases Option.map_eq_some_iff.mp rightFound with ⟨_, _, rfl⟩
  exact ascending

/-- Candidates with one point would have one id, and the ids ascend. -/
theorem nodup_points : ((candidates message r s hashFirst).map Prod.fst).Nodup := by
  apply List.pairwise_map.mpr
  apply List.Pairwise.imp_of_mem _ (pairwise_candidates message r s hashFirst)
  intro left right leftListed rightListed ascending samePoint
  rcases left with ⟨point, leftId⟩
  rcases right with ⟨_, rightId⟩
  cases samePoint
  have sameId := id_unique_of_recover? (mem_candidates.mp leftListed)
    (mem_candidates.mp rightListed)
  rw [sameId] at ascending
  exact UInt8.lt_irrefl _ ascending

end

/-- Candidates are listed by ascending ids up to 3, no point twice, and all points are on the curve.
The ids 2 and 3 come only with an `r` to which the order can be added within the field, and words
out of the range of scalars have no candidates. -/
theorem candidates_ascending_distinct (message : Bytes) (hashFirst : Bool) (r s : Word) :
    ((candidates message r s hashFirst).map fun candidate => candidate.2.toByte).Pairwise (· < ·) ∧
    ((candidates message r s hashFirst).map Prod.fst).Nodup ∧
    (∀ coordinates id, (coordinates, id) ∈ candidates message r s hashFirst →
      id.toByte ≤ 3 ∧ coordinates.OnCurve ∧
        (2 ≤ id.toByte → r.toNat < fieldPrime - groupOrder)) ∧
    (r.toNat = 0 ∨ groupOrder ≤ r.toNat ∨ s.toNat = 0 ∨ groupOrder ≤ s.toNat →
      candidates message r s hashFirst = []) := by
  refine ⟨?_, nodup_points message r s hashFirst, ?_, ?_⟩
  · exact List.pairwise_map.mpr (pairwise_candidates message r s hashFirst)
  · intro coordinates id listed
    have recovered := mem_candidates.mp listed
    refine ⟨id.toByte_le, onCurve_of_recover? recovered, ?_⟩
    intro reduced
    exact lt_of_recover?_reduced recovered (RecoveryId.two_le_toByte_iff.mp reduced)
  · intro outside
    apply List.eq_nil_iff_forall_not_mem.mpr
    intro candidate listed
    rcases isScalar_of_recover? (mem_candidates.mp listed) with
      ⟨⟨rPositive, rBelow⟩, sPositive, sBelow⟩
    omega

/-- Both 2 and 2 more than the order are x coordinates, so that a signature with `r` 2 has all four
candidates, and none is left when a word is 0 or the order. -/
theorem candidates_ascending_distinct_run :
    let digest : Bytes := List.replicate 32 0
    ∃ coordinates, (coordinates, (⟨true, true⟩ : RecoveryId)) ∈ candidates digest 2 2 false ∧
      coordinates.OnCurve ∧ (2 : Word).toNat < fieldPrime - groupOrder ∧
      ((candidates digest 2 2 false).map fun candidate => candidate.2.toByte) = [0, 1, 2, 3] ∧
      candidates digest 0 2 false = [] ∧
      candidates digest 2 (BitVec.ofNat 256 groupOrder) false = [] := by
  intro digest
  have found : (recover? digest 2 2 false ⟨true, true⟩).isSome = true := by decide +kernel
  rcases Option.isSome_iff_exists.mp found with ⟨coordinates, recovered⟩
  have listed := mem_candidates.mpr recovered
  rcases candidates_ascending_distinct digest false 2 2 with ⟨_, _, sound, _⟩
  rcases sound coordinates ⟨true, true⟩ listed with ⟨_, onCurve, reduced⟩
  refine ⟨coordinates, listed, onCurve, reduced (by decide), ?_, ?_, ?_⟩
  · decide +kernel
  · exact (candidates_ascending_distinct digest false 0 2).2.2.2 (.inl rfl)
  · apply (candidates_ascending_distinct digest false 2 _).2.2.2
    exact .inr (.inr (.inr (Nat.le_refl groupOrder)))

end BitcoinKeys.Ecdsa
