import BitcoinKeys.Proofs.Bytes
import BitcoinKeys.Proofs.Ecdsa.SigningPoint

/-! # Textbook verification

The textbook divides by `s` as it is, in the field of scalars, and adds two multiples in the group
of the curve. Verification takes the lower `s` first and works on residues, with checks of words and
of the digest in front. Both accept the same signatures for the same keys.
-/

namespace BitcoinKeys

open Secp256k1

namespace Ecdsa

/-- The number of a digest: its first 32 bytes, or all of it with zero bytes in front. -/
def digestNumber (digest : Bytes) : Nat :=
  Bytes.toNat (List.replicate (32 - digest.length) 0 ++ digest.take 32)

/-- What the textbook asks of a signature `(r, s)` of a digest for the point `(x, y)`, which are all
numbers of any size. -/
structure TextbookAccepts (digest : Bytes) (r s x y : Nat) : Prop where
  x_lt : x < fieldPrime
  y_lt : y < fieldPrime
  onCurve : y ^ 2 ≡ x ^ 3 + 7 [MOD fieldPrime]
  r_mem : 1 ≤ r ∧ r < groupOrder
  s_mem : 1 ≤ s ∧ s < groupOrder
  long : 16 ≤ digest.length
  point : ∃ (keyNonsingular : curve.Nonsingular x y) (sumX sumY : ZMod fieldPrime)
    (sumNonsingular : curve.Nonsingular sumX sumY),
    (digestNumber digest / s : ZMod groupOrder) • baseElement +
        (r / s : ZMod groupOrder) • (.some _ _ keyNonsingular : CurveGroup) =
      .some _ _ sumNonsingular ∧
    sumX.val ≡ r [MOD groupOrder]

end Ecdsa

namespace Secp256k1

theorem curve_nonsingular_natCast_iff {x y : Nat} :
    curve.Nonsingular x y ↔ y ^ 2 ≡ x ^ 3 + 7 [MOD fieldPrime] := by
  rw [curve_nonsingular_iff, ← ZMod.natCast_eq_natCast_iff]
  push_cast
  rw [pow_two, pow_three, mul_assoc]

/-- The element of the group with given words for coordinates. -/
theorem Coordinates.ofPoint?_ofGroup_iff {x y : Word} {element : CurveGroup} :
    ofPoint? (Point.ofGroup element) = some ⟨x, y⟩ ↔
      x.toNat < fieldPrime ∧ y.toNat < fieldPrime ∧
        ∃ nonsingular : curve.Nonsingular x.toNat y.toNat, element = .some _ _ nonsingular := by
  constructor
  · intro read
    rcases element with _ | ⟨elementX, elementY, nonsingular⟩
    · cases read
    · have word (coordinate : ZMod fieldPrime) :
          (BitVec.ofNat 256 (Residue.ofZMod coordinate).value).toNat = coordinate.val := by
        rw [toNat_ofNat_value fieldPrime_le, Residue.value_ofZMod]
      cases read
      simp only [word, ZMod.natCast_val, ZMod.cast_id]
      exact ⟨elementX.val_lt, elementY.val_lt, nonsingular, trivial⟩
  · intro given
    rcases given with ⟨xBelow, yBelow, nonsingular, rfl⟩
    simp only [Point.ofGroup, ofPoint?, Residue.value_ofZMod, ZMod.val_natCast_of_lt xBelow,
      ZMod.val_natCast_of_lt yBelow, BitVec.ofNat_toNat, BitVec.setWidth_eq]

end Secp256k1

namespace Ecdsa

/-! ## Numbers of words and digests -/

theorem toNat_prehashWord (digest : Bytes) :
    (Word.ofBytes (digest.take Word.byteLength) (List.length_take_le _ _)).toNat =
      digestNumber digest := by
  rw [Word.toNat_ofBytes, digestNumber, Bytes.toNat_replicate_append]
  rfl

theorem prehashWord?_map_reduced_iff {digest : Bytes} {prehash : Scalar} :
    (prehashWord? digest).map reduced = some prehash ↔
      16 ≤ digest.length ∧ prehash.toZMod = digestNumber digest := by
  unfold prehashWord?
  split
  case isTrue short =>
    constructor
    · intro read
      cases read
    · intro fits
      exact absurd fits.1 (Nat.not_le_of_lt short)
  case isFalse long =>
    rw [Option.map_some, Option.some.injEq, ← Residue.toZMod_inj, reduced, Residue.toZMod_reduce,
      toNat_prehashWord, eq_comm]
    exact ⟨fun equal => ⟨Nat.le_of_not_lt long, equal⟩, And.right⟩

section

variable {message : Bytes} {r s : Word} {hashFirst : Bool}

theorem signedScalars?_eq_some_iff_numbers {scalars : SignedScalars} :
    signedScalars? message r s hashFirst = some scalars ↔
      (IsScalar r ∧ scalars.r.value = r.toNat) ∧ (IsScalar s ∧ scalars.s.value = s.toNat) ∧
        16 ≤ (prehash message hashFirst).length ∧
        scalars.prehash.toZMod = digestNumber (prehash message hashFirst) := by
  rw [signedScalars?_eq_some_iff, scalar?_eq_some_iff_value, scalar?_eq_some_iff_value,
    prehashWord?_map_reduced_iff]

theorem exists_signedScalars?_iff :
    (∃ scalars, signedScalars? message r s hashFirst = some scalars) ↔
      IsScalar r ∧ IsScalar s ∧ 16 ≤ (prehash message hashFirst).length := by
  constructor
  · intro read
    rcases read with ⟨scalars, read⟩
    rcases signedScalars?_eq_some_iff_numbers.mp read with ⟨rRead, sRead, long, _⟩
    exact ⟨rRead.1, sRead.1, long⟩
  · intro fits
    rcases fits with ⟨rInRange, sInRange, long⟩
    have word : ∃ word, prehashWord? (prehash message hashFirst) = some word :=
      ⟨_, if_neg (Nat.not_lt_of_le long)⟩
    rcases word with ⟨word, found⟩
    rw [signedScalars?, dif_pos ⟨rInRange, sInRange⟩, found]
    exact ⟨_, rfl⟩

end

/-! ## The point of a signature -/

namespace SignedScalars

theorem point_eq_div (scalars : SignedScalars) (key : CurveGroup) :
    scalars.point key =
      (scalars.prehash.toZMod / scalars.s.toZMod) • baseElement +
        (scalars.r.toZMod / scalars.s.toZMod) • key := by
  rw [point, smul_add, smul_smul, smul_smul, ← div_eq_inv_mul, ← div_eq_inv_mul]

theorem accepts_iff (scalars : SignedScalars) (key : CurveGroup) :
    scalars.Accepts key ↔
      ∃ (x y : ZMod fieldPrime) (nonsingular : curve.Nonsingular x y),
        scalars.point key = .some x y nonsingular ∧
          x.val ≡ scalars.r.value [MOD groupOrder] := by
  have residue (x : ZMod fieldPrime) :
      Residue.reduce groupOrder (Residue.ofZMod x).value = scalars.r ↔
        x.val ≡ scalars.r.value [MOD groupOrder] := by
    rw [← Residue.toZMod_inj, Residue.toZMod_reduce, Residue.value_ofZMod, Residue.toZMod,
      ZMod.natCast_eq_natCast_iff]
  constructor
  · intro accepts
    rcases accepts with ⟨_, _, affine, equal⟩
    cases sum : scalars.point key with
    | zero =>
        rw [sum] at affine
        cases affine
    | some x y nonsingular =>
        rw [sum] at affine
        cases affine
        exact ⟨x, y, nonsingular, rfl, (residue x).mp equal⟩
  · intro congruent
    rcases congruent with ⟨x, y, nonsingular, sum, equal⟩
    exact ⟨_, _, by rw [sum, Point.ofGroup], (residue x).mpr equal⟩

theorem accepts_iff_numbers {scalars : SignedScalars} {message : Bytes} {r s : Word}
    {hashFirst : Bool} (read : signedScalars? message r s hashFirst = some scalars)
    (key : CurveGroup) :
    scalars.Accepts key ↔
      ∃ (x y : ZMod fieldPrime) (nonsingular : curve.Nonsingular x y),
        (digestNumber (Ecdsa.prehash message hashFirst) / s.toNat : ZMod groupOrder) •
              baseElement + (r.toNat / s.toNat : ZMod groupOrder) • key = .some x y nonsingular ∧
          x.val ≡ r.toNat [MOD groupOrder] := by
  rcases signedScalars?_eq_some_iff_numbers.mp read with
    ⟨⟨_, rValue⟩, ⟨_, sValue⟩, _, prehashed⟩
  rw [accepts_iff, point_eq_div, prehashed, Residue.toZMod, Residue.toZMod, rValue, sValue]

end SignedScalars

/-- Verification is textbook ECDSA: it accepts words exactly if their numbers are in range, the
digest is long enough, and the point of the signature has an x coordinate congruent to `r`. -/
theorem verify_iff_textbook (message : Bytes) (hashFirst : Bool) (r s x y : Word) :
    verify message r s ⟨x, y⟩ hashFirst = true ↔
      TextbookAccepts (if hashFirst then Hash.sha256 message else message)
        r.toNat s.toNat x.toNat y.toNat := by
  rw [verify_iff]
  constructor
  · intro accepted
    rcases accepted with ⟨scalars, key, read, coordinatesRead, accepts⟩
    rcases Coordinates.ofPoint?_ofGroup_iff.mp coordinatesRead with
      ⟨xBelow, yBelow, nonsingular, rfl⟩
    rcases exists_signedScalars?_iff.mp ⟨scalars, read⟩ with ⟨rInRange, sInRange, long⟩
    exact {
      x_lt := xBelow
      y_lt := yBelow
      onCurve := curve_nonsingular_natCast_iff.mp nonsingular
      r_mem := rInRange
      s_mem := sInRange
      long
      point := ⟨nonsingular, (SignedScalars.accepts_iff_numbers read _).mp accepts⟩ }
  · intro textbook
    rcases textbook.point with ⟨nonsingular, sum⟩
    rcases exists_signedScalars?_iff.mpr ⟨textbook.r_mem, textbook.s_mem, textbook.long⟩ with
      ⟨scalars, read⟩
    have coordinatesRead := Coordinates.ofPoint?_ofGroup_iff.mpr
      ⟨textbook.x_lt, textbook.y_lt, nonsingular, rfl⟩
    exact ⟨scalars, _, read, coordinatesRead,
      (SignedScalars.accepts_iff_numbers read _).mpr sum⟩

end Ecdsa

end BitcoinKeys
