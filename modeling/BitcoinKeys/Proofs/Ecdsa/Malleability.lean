import BitcoinKeys.Proofs.Ecdsa.Recovery
import BitcoinKeys.Signature
import Mathlib.Data.Nat.Bitwise

/-! # Malleability

The words of a signature that can be changed without the key. Replacing `s` by its negative takes
the point of the signature to its mirror image, which has the same x coordinate. Unless `r` is so
small that two x coordinates reduce to it, no other `s` is accepted in its place.
-/

namespace BitcoinKeys.Ecdsa

open Secp256k1

namespace RecoveryId

theorem toByte_mirrored (id : RecoveryId) : id.mirrored.toByte = id.toByte ^^^ 1 := by
  rcases id with ⟨_ | _, _ | _⟩ <;> decide

/-- Flipping the lowest bit of a number mirrors the point that it stands for, if there is one. -/
theorem ofByte?_xor_one (byte : UInt8) : ofByte? (byte ^^^ 1) = (ofByte? byte).map mirrored := by
  apply Option.ext
  intro id
  rw [ofByte?_eq_some_iff, Option.map_eq_some_iff]
  constructor
  · intro flipped
    refine ⟨id.mirrored, ofByte?_eq_some_iff.mpr ?_, id.mirrored_mirrored⟩
    rw [toByte_mirrored, ← flipped, UInt8.xor_assoc, UInt8.xor_self, UInt8.xor_zero]
  · intro found
    rcases found with ⟨other, numbered, rfl⟩
    rw [toByte_mirrored, ← ofByte?_eq_some_iff.mp numbered]

end RecoveryId

namespace SignedScalars

/-- The scalars with the negative of `s`. -/
def mirrored (scalars : SignedScalars) : SignedScalars :=
  { scalars with
    s := -scalars.s
    s_ne_zero := Residue.neg_ne_zero scalars.s_ne_zero }

theorem mirrored_point (scalars : SignedScalars) (key : CurveGroup) :
    scalars.mirrored.point key = -scalars.point key := by
  rw [point, mirrored, Residue.toZMod_neg, inv_neg, neg_smul, point]

theorem designates_mirrored_point (scalars : SignedScalars) (key : CurveGroup) {id : RecoveryId} :
    id.mirrored.Designates scalars.r (Point.ofGroup (scalars.mirrored.point key)) ↔
      id.Designates scalars.r (Point.ofGroup (scalars.point key)) := by
  rw [mirrored_point]
  exact RecoveryId.designates_neg

theorem accepts_mirrored {scalars : SignedScalars} {key : CurveGroup}
    (accepts : scalars.Accepts key) : scalars.mirrored.Accepts key := by
  apply (scalars.mirrored.accepts_iff_exists_designates key).mpr
  rcases (scalars.accepts_iff_exists_designates key).mp accepts with ⟨id, designates⟩
  exact ⟨id.mirrored, (scalars.designates_mirrored_point key).mpr designates⟩

/-! ## Two values for one point -/

/-- Multiplied with `s`, the point depends on the prehash, `r` and the key alone. -/
theorem s_smul_point (scalars : SignedScalars) (key : CurveGroup) :
    scalars.s.toZMod • scalars.point key =
      scalars.prehash.toZMod • baseElement + scalars.r.toZMod • key :=
  smul_inv_smul₀ (Residue.toZMod_eq_zero.not.mpr scalars.s_ne_zero) _

/-- An x coordinate that gives a large `r` is `r` itself. -/
theorem value_eq_of_unreduced {r : Scalar} (unreduced : fieldPrime - groupOrder ≤ r.value)
    {x : Coordinate} (residue : Residue.reduce groupOrder x.value = r) : x.value = r.value := by
  have equal : x.value = abscissa r ⟨false, groupOrder ≤ x.value⟩ :=
    RecoveryId.abscissa_eq_iff.mpr ⟨residue, decide_eq_true_iff⟩
  have below := x.value_lt
  rw [abscissa] at equal
  split at equal
  · -- the field is too small for `r` to be greater by the order
    omega
  · exact equal

theorem exists_affine_of_unreduced {scalars : SignedScalars} {key : CurveGroup}
    (unreduced : fieldPrime - groupOrder ≤ scalars.r.value) (accepts : scalars.Accepts key) :
    ∃ x y, Point.ofGroup (scalars.point key) = .affine x y ∧ x.value = scalars.r.value := by
  rcases accepts with ⟨x, y, affine, residue⟩
  exact ⟨x, y, affine, value_eq_of_unreduced unreduced residue⟩

/-- Two accepted signatures with one `r` have the same point up to its sign, and both values of `s`
take it to the same element. -/
theorem s_eq_or_eq_neg {first second : SignedScalars} {key : CurveGroup}
    (samePrehash : second.prehash = first.prehash) (sameR : second.r = first.r)
    (unreduced : fieldPrime - groupOrder ≤ first.r.value)
    (firstAccepts : first.Accepts key) (secondAccepts : second.Accepts key) :
    second.s = first.s ∨ second.s = -first.s := by
  rcases exists_affine_of_unreduced unreduced firstAccepts with
    ⟨firstX, firstY, firstAffine, firstValue⟩
  rcases exists_affine_of_unreduced (sameR ▸ unreduced) secondAccepts with
    ⟨secondX, secondY, secondAffine, secondValue⟩
  have sameX : secondX = firstX := Residue.value_injective (by rw [firstValue, secondValue, sameR])
  have nonzero : first.point key ≠ 0 := by
    intro zero
    rw [zero] at firstAffine
    cases firstAffine
  have sameProduct : second.s.toZMod • second.point key = first.s.toZMod • first.point key := by
    rw [s_smul_point, s_smul_point, samePrehash, sameR]
  subst sameX
  rcases eq_or_eq_neg_of_ofGroup firstAffine secondAffine with equal | opposite
  · apply Or.inl
    apply Residue.toZMod_injective
    rw [equal] at sameProduct
    exact smul_left_injective _ nonzero sameProduct
  · apply Or.inr
    apply Residue.toZMod_injective
    rw [opposite, smul_neg, ← neg_smul] at sameProduct
    rw [Residue.toZMod_neg, ← smul_left_injective _ nonzero sameProduct, neg_neg]

end SignedScalars

/-! ## Words -/

section

variable {message : Bytes} {r s other : Word} {hashFirst : Bool}

theorem signedScalars?_mirrored (sum : s.toNat + other.toNat = groupOrder)
    {scalars : SignedScalars} (read : signedScalars? message r s hashFirst = some scalars) :
    signedScalars? message r other hashFirst = some scalars.mirrored := by
  rcases signedScalars?_eq_some_iff.mp read with ⟨rRead, sRead, prehashed⟩
  rcases scalar?_eq_some_iff_value.mp sRead with ⟨inRange, value⟩
  have range := inRange.2
  have positive := inRange.1
  apply signedScalars?_eq_some_iff.mpr
  refine ⟨rRead, scalar?_eq_some_iff_value.mpr ⟨⟨by omega, by omega⟩, ?_⟩, prehashed⟩
  rw [SignedScalars.mirrored, Residue.value_neg scalars.s_ne_zero, value]
  omega

theorem verify_of_mirrored (sum : s.toNat + other.toNat = groupOrder) {coordinates : Coordinates}
    (verified : verify message r s coordinates hashFirst = true) :
    verify message r other coordinates hashFirst = true := by
  rcases verify_iff.mp verified with ⟨scalars, key, read, coordinatesRead, accepts⟩
  apply verify_iff.mpr
  exact ⟨scalars.mirrored, key, signedScalars?_mirrored sum read, coordinatesRead,
    SignedScalars.accepts_mirrored accepts⟩

/-- Both values of `s` are accepted for the same keys. -/
theorem verify_mirrored (sum : s.toNat + other.toNat = groupOrder) {coordinates : Coordinates} :
    verify message r other coordinates hashFirst = verify message r s coordinates hashFirst :=
  Bool.eq_iff_iff.mpr ⟨verify_of_mirrored ((Nat.add_comm _ _).trans sum), verify_of_mirrored sum⟩

theorem recover?_of_mirrored (sum : s.toNat + other.toNat = groupOrder) {coordinates : Coordinates}
    {id : RecoveryId} (recovered : recover? message r s hashFirst id = some coordinates) :
    recover? message r other hashFirst id.mirrored = some coordinates := by
  rcases recover?_eq_some_iff.mp recovered with
    ⟨scalars, key, read, coordinatesRead, designates⟩
  apply recover?_eq_some_iff.mpr
  exact ⟨scalars.mirrored, key, signedScalars?_mirrored sum read, coordinatesRead,
    (scalars.designates_mirrored_point key).mpr designates⟩

/-- Both values of `s` give the same keys, under ids for points that are mirror images. -/
theorem recover?_mirrored (sum : s.toNat + other.toNat = groupOrder) (id : RecoveryId) :
    recover? message r other hashFirst id.mirrored = recover? message r s hashFirst id := by
  apply Option.ext
  intro coordinates
  constructor
  · intro recovered
    have twice := recover?_of_mirrored ((Nat.add_comm _ _).trans sum) recovered
    rwa [RecoveryId.mirrored_mirrored] at twice
  · exact recover?_of_mirrored sum

theorem eq_or_sum_of_verify {coordinates : Coordinates}
    (unreduced : fieldPrime - groupOrder ≤ r.toNat)
    (verified : verify message r s coordinates hashFirst = true)
    (otherVerified : verify message r other coordinates hashFirst = true) :
    other = s ∨ s.toNat + other.toNat = groupOrder := by
  rcases verify_iff.mp verified with ⟨first, firstKey, firstRead, firstCoordinates, firstAccepts⟩
  rcases verify_iff.mp otherVerified with
    ⟨second, secondKey, secondRead, secondCoordinates, secondAccepts⟩
  rcases Coordinates.element_unique firstCoordinates secondCoordinates with rfl
  rcases signedScalars?_eq_some_iff.mp firstRead with ⟨firstR, firstS, firstPrehash⟩
  rcases signedScalars?_eq_some_iff.mp secondRead with ⟨secondR, secondS, secondPrehash⟩
  have samePrehash : second.prehash = first.prehash :=
    Option.some.inj (secondPrehash.symm.trans firstPrehash)
  have sameR : second.r = first.r := Option.some.inj (secondR.symm.trans firstR)
  have value := (scalar?_eq_some_iff_value.mp firstR).2
  rcases SignedScalars.s_eq_or_eq_neg samePrehash sameR (value ▸ unreduced) firstAccepts
    secondAccepts with equal | negative
  · apply Or.inl
    rw [← (scalar?_eq_some_iff.mp firstS).2, ← (scalar?_eq_some_iff.mp secondS).2, equal]
  · apply Or.inr
    rw [← (scalar?_eq_some_iff_value.mp firstS).2, ← (scalar?_eq_some_iff_value.mp secondS).2,
      negative, Residue.value_neg first.s_ne_zero]
    have := first.s.value_lt
    omega

end

/-! ## Flipped bits -/

/-- A word with one of its bits flipped. -/
def flipped (word : Word) (bit : Nat) : Word :=
  word ^^^ BitVec.twoPow 256 bit

section

variable (word : Word) {bit : Nat} (inWord : bit < 256)

include inWord

theorem toNat_flipped : (flipped word bit).toNat = word.toNat ^^^ 2 ^ bit := by
  rw [flipped, BitVec.toNat_xor, BitVec.toNat_twoPow_of_lt inWord]

theorem flipped_ne : flipped word bit ≠ word := by
  intro equal
  have number : word.toNat ^^^ 2 ^ bit = word.toNat ^^^ 0 := by
    rw [← toNat_flipped word inWord, equal, Nat.xor_zero]
  exact (Nat.two_pow_pos bit).ne' (Nat.xor_right_inj.mp number)

/-- The order is odd, so that only the lowest bit tells a word from its negative, and that only in
the middle of the order. -/
theorem sum_flipped_iff :
    word.toNat + (flipped word bit).toNat = groupOrder ↔
      bit = 0 ∧ (word.toNat = (groupOrder - 1) / 2 ∨ word.toNat = (groupOrder + 1) / 2) := by
  have order : groupOrder % 4 = 1 := by decide
  rw [toNat_flipped word inWord]
  rcases Nat.eq_zero_or_pos bit with rfl | above
  · rcases Nat.even_or_odd word.toNat with even | odd
    · have parity := Nat.even_iff.mp even
      rw [pow_zero, Nat.xor_one_of_even even]
      omega
    · have parity := Nat.odd_iff.mp odd
      rw [pow_zero, Nat.xor_one_of_odd odd]
      omega
  · -- a higher bit leaves the parity, and the sum is even
    have parity : (word.toNat ^^^ 2 ^ bit) % 2 = word.toNat % 2 := by
      have power : 2 ∣ 2 ^ bit := dvd_pow_self 2 above.ne'
      rw [Nat.xor_mod_two_eq]
      omega
    omega

end

/-! ## A signature in the middle of the order, made up for the base point -/

namespace MiddleRun

def digest : Bytes := [
  0x06, 0x41, 0x99, 0x81, 0x06, 0x23, 0x44, 0x53, 0xAA, 0x5F, 0x9D, 0x6A, 0x31, 0x78, 0xF4, 0xF8,
  0x5A, 0xBB, 0x71, 0x98, 0x29, 0xD6, 0x27, 0x44, 0x85, 0xF6, 0xAD, 0xEB, 0x51, 0x23, 0x09, 0x08]

def scalars : SignedScalars where
  prehash := 0x0641998106234453AA5F9D6A3178F4F85ABB719829D6274485F6ADEB51230908
  r := RecoveryRun.scalars.r
  s := 0x7FFFFFFFFFFFFFFFFFFFFFFFFFFFFFFF5D576E7357A4501DDFE92F46681B20A0
  r_ne_zero := RecoveryRun.scalars.r_ne_zero
  s_ne_zero := by decide

theorem verify_eq :
    verify digest scalars.r.toWord scalars.s.toWord Coordinates.base false = true := by
  apply verify_iff.mpr
  refine ⟨scalars, baseElement, signedScalars?_eq_some_iff.mpr ⟨scalar?_toWord scalars.r_ne_zero,
    scalar?_toWord scalars.s_ne_zero, by decide +kernel⟩, ?_, ?_⟩
  · rw [ofGroup_baseElement]
    rfl
  · rw [SignedScalars.Accepts, SignedScalars.point_baseElement (by decide), ofGroup_baseElement]
    exact ⟨baseX, baseY, rfl, by decide⟩

end MiddleRun

/-! ## Accepted values -/

section

variable {message : Bytes} {r s other : Word} {coordinates : Coordinates} {hashFirst : Bool}

theorem verify_iff_eq_or_sum (unreduced : fieldPrime - groupOrder ≤ r.toNat)
    (verified : verify message r s coordinates hashFirst = true) :
    verify message r other coordinates hashFirst = true ↔
      other = s ∨ s.toNat + other.toNat = groupOrder := by
  constructor
  · exact eq_or_sum_of_verify unreduced verified
  · intro related
    rcases related with rfl | sum
    · exact verified
    · rwa [verify_mirrored sum]

/-- The order is odd, so that its halves round down to less. -/
theorem not_isLowS_of_sum (sum : s.toNat + other.toNat = groupOrder)
    (low : Signature.isLowS { r, s } = true) : Signature.isLowS { r, s := other } = false := by
  have order : groupOrder % 2 = 1 := by decide
  have half : s.toNat ≤ groupOrder / 2 := of_decide_eq_true low
  apply decide_eq_false
  change ¬ other.toNat ≤ groupOrder / 2
  omega

end

/-- Signatures are malleable only by negating `s`. One of the two accepted values at most is low,
and they are one bit apart only in the middle of the order. -/
theorem malleable_only_by_negation (message : Bytes) (hashFirst : Bool) (r s : Word)
    (coordinates : Coordinates) (unreduced : fieldPrime - groupOrder ≤ r.toNat)
    (verified : verify message r s coordinates hashFirst = true) :
    (∀ other, verify message r other coordinates hashFirst = true ↔
      other = s ∨ other.toNat = groupOrder - s.toNat) ∧
    (∀ other, verify message r other coordinates hashFirst = true →
      Signature.isLowS { r, s } = true → Signature.isLowS { r, s := other } = true →
      other = s) ∧
    ∀ bit < 256, verify message r (flipped s bit) coordinates hashFirst = true ↔
      bit = 0 ∧ (s.toNat = (groupOrder - 1) / 2 ∨ s.toNat = (groupOrder + 1) / 2) := by
  have accepted (other : Word) : verify message r other coordinates hashFirst = true ↔
      other = s ∨ s.toNat + other.toNat = groupOrder :=
    verify_iff_eq_or_sum unreduced verified
  have below := (isScalar_of_verify verified).2.2
  refine ⟨?_, ?_, ?_⟩
  · intro other
    have sum : other.toNat = groupOrder - s.toNat ↔ s.toNat + other.toNat = groupOrder := by omega
    rw [accepted, sum]
  · intro other otherVerified low otherLow
    rcases (accepted other).mp otherVerified with equal | sum
    · exact equal
    · rw [not_isLowS_of_sum sum low] at otherLow
      cases otherLow
  · intro bit inWord
    rw [accepted, sum_flipped_iff s inWord]
    exact or_iff_right (flipped_ne s inWord)

/-- Flipping the lowest bit of a value in the middle of the order goes unnoticed, and flipping the
next one does not. -/
theorem malleable_only_by_negation_run :
    fieldPrime - groupOrder ≤ MiddleRun.scalars.r.toWord.toNat ∧
    verify MiddleRun.digest MiddleRun.scalars.r.toWord MiddleRun.scalars.s.toWord
      Coordinates.base false = true ∧
    verify MiddleRun.digest MiddleRun.scalars.r.toWord (flipped MiddleRun.scalars.s.toWord 0)
      Coordinates.base false = true ∧
    verify MiddleRun.digest MiddleRun.scalars.r.toWord (flipped MiddleRun.scalars.s.toWord 1)
      Coordinates.base false = false := by
  have unreduced : fieldPrime - groupOrder ≤ MiddleRun.scalars.r.toWord.toNat := by decide
  have flips := (malleable_only_by_negation _ _ _ _ _ unreduced MiddleRun.verify_eq).2.2
  refine ⟨unreduced, MiddleRun.verify_eq, ?_, ?_⟩
  · apply (flips 0 (by decide)).mpr
    exact ⟨rfl, Or.inl (by decide)⟩
  · apply Bool.eq_false_iff.mpr
    intro verified
    have lowest := ((flips 1 (by decide)).mp verified).1
    cases lowest

end BitcoinKeys.Ecdsa
