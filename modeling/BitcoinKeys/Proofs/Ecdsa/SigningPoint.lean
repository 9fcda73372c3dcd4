import BitcoinKeys.Ecdsa.Recovery
import BitcoinKeys.Proofs.Secp256k1.Coordinates

/-! # The point of a signature

A signature determines a point for every key, and a key for every point, and the two maps are
inverse to each other. Verification looks at the x coordinate of the point of a key; recovery starts
from the point that an id designates. Both read the same scalars and refuse a high `s`, which is why
it is lowered before them: the point becomes its mirror image, which has the same x coordinate.
-/

namespace BitcoinKeys.Ecdsa

open Secp256k1

/-! ## The lower half -/

theorem isHigh_iff {scalar : Scalar} : isHigh scalar = true ↔ groupOrder / 2 < scalar.value :=
  decide_eq_true_iff

theorem lowered_le (scalar : Scalar) : (lowered scalar).value ≤ (groupOrder - 1) / 2 := by
  have order : groupOrder = 2 * (groupOrder / 2) + 1 := by decide
  unfold lowered
  split
  case isTrue high =>
    have above := isHigh_iff.mp high
    have nonzero : scalar ≠ 0 := fun zero => by
      rw [Residue.eq_zero_iff.mp zero] at above
      exact Nat.not_lt_zero _ above
    rw [Residue.value_neg nonzero]
    omega
  case isFalse low =>
    have below := isHigh_iff.not.mp low
    omega

theorem isHigh_lowered (scalar : Scalar) : isHigh (lowered scalar) = false := by
  apply Bool.eq_false_iff.mpr
  intro high
  have above := isHigh_iff.mp high
  have below := lowered_le scalar
  omega

theorem lowered_ne_zero {scalar : Scalar} (nonzero : scalar ≠ 0) : lowered scalar ≠ 0 := by
  unfold lowered
  split
  · exact Residue.neg_ne_zero nonzero
  · exact nonzero

/-! ## Signed scalars -/

/-- The scalars of a prehash and of a signature of it. -/
structure SignedScalars where
  prehash : Scalar
  r : Scalar
  s : Scalar
  r_ne_zero : r ≠ 0
  s_ne_zero : s ≠ 0

/-- The scalars of a message and a pair of words, if the words are in range and the prehash is long
enough. -/
def signedScalars? (message : Bytes) (r s : Word) (hashFirst : Bool) : Option SignedScalars :=
  if inRange : IsScalar r ∧ IsScalar s then
    (prehashWord? (prehash message hashFirst)).map fun word => {
      prehash := reduced word
      r := ⟨r.toNat, inRange.1.2⟩
      s := ⟨s.toNat, inRange.2.2⟩
      r_ne_zero := fun zero => inRange.1.1.ne' (Residue.eq_zero_iff.mp zero)
      s_ne_zero := fun zero => inRange.2.1.ne' (Residue.eq_zero_iff.mp zero) }
  else none

namespace SignedScalars

/-- The scalars with the lower one of the two values of `s`. -/
def lower (scalars : SignedScalars) : SignedScalars :=
  { scalars with
    s := lowered scalars.s
    s_ne_zero := lowered_ne_zero scalars.s_ne_zero }

/-- The point that the signature determines for a key. -/
def point (scalars : SignedScalars) (key : CurveGroup) : CurveGroup :=
  scalars.s.toZMod⁻¹ • (scalars.prehash.toZMod • baseElement + scalars.r.toZMod • key)

/-- The key for which the signature determines a point. -/
def key (scalars : SignedScalars) (point : CurveGroup) : CurveGroup :=
  scalars.r.toZMod⁻¹ • (scalars.s.toZMod • point - scalars.prehash.toZMod • baseElement)

theorem key_eq_iff (scalars : SignedScalars) {point key : CurveGroup} :
    scalars.key point = key ↔ scalars.point key = point := by
  have rNonzero := Residue.toZMod_eq_zero.not.mpr scalars.r_ne_zero
  have sNonzero := Residue.toZMod_eq_zero.not.mpr scalars.s_ne_zero
  rw [SignedScalars.key, SignedScalars.point, inv_smul_eq_iff₀ rNonzero,
    inv_smul_eq_iff₀ sNonzero, sub_eq_iff_eq_add, add_comm (scalars.r.toZMod • key), eq_comm]

/-- A signature that is made up for the base point, so that its point is the base point too. -/
theorem point_baseElement {scalars : SignedScalars}
    (sum : scalars.prehash + scalars.r = scalars.s) : scalars.point baseElement = baseElement := by
  have nonzero := Residue.toZMod_eq_zero.not.mpr scalars.s_ne_zero
  rw [point, ← add_smul, ← Residue.toZMod_add, sum, inv_smul_smul₀ nonzero]

def Accepts (scalars : SignedScalars) (key : CurveGroup) : Prop :=
  ∃ x y, Point.ofGroup (scalars.point key) = .affine x y ∧
    Residue.reduce groupOrder x.value = scalars.r

theorem verifyScalars_iff (scalars : SignedScalars) (key : CurveGroup) :
    verifyScalars scalars.prehash scalars.r scalars.s (Point.ofGroup key) = true ↔
      isHigh scalars.s = false ∧ scalars.Accepts key := by
  have sum : (Point.base.multiple (scalars.prehash * scalars.s.inverse).value).add
      ((Point.ofGroup key).multiple (scalars.r * scalars.s.inverse).value) =
      Point.ofGroup (scalars.point key) := by
    rw [← ofGroup_baseElement, ← ofGroup_smul, ← ofGroup_smul, ← Point.ofGroup_add, point,
      smul_add, smul_smul, smul_smul, Residue.toZMod_mul, Residue.toZMod_mul,
      Residue.toZMod_inverse, mul_comm, mul_comm scalars.r.toZMod]
  simp only [verifyScalars, sum, Accepts]
  cases isHigh scalars.s with
  | true => simp
  | false =>
      cases Point.ofGroup (scalars.point key) with
      | identity => simp
      | affine x y => simp

end SignedScalars

/-! ## Recovery ids -/

namespace RecoveryId

def ofCoordinates (x y : Coordinate) : RecoveryId where
  yIsOdd := y.isOdd
  xIsReduced := groupOrder ≤ x.value

/-- The id, together with `r`, stands for the point. -/
def Designates (id : RecoveryId) (r : Scalar) (point : Point) : Prop :=
  ∃ x y, point = .affine x y ∧ Residue.reduce groupOrder x.value = r ∧ id = ofCoordinates x y

theorem Designates.id_unique {first second : RecoveryId} {r : Scalar} {point : Point}
    (firstDesignates : first.Designates r point) (secondDesignates : second.Designates r point) :
    first = second := by
  rcases firstDesignates with ⟨x, y, rfl, _, rfl⟩
  rcases secondDesignates with ⟨_, _, equal, _, rfl⟩
  cases equal
  rfl

/-- Every x coordinate is its residue modulo the group order, or greater by the order. -/
theorem abscissa_eq_iff {x : Coordinate} {r : Scalar} {id : RecoveryId} :
    x.value = abscissa r id ↔
      Residue.reduce groupOrder x.value = r ∧ (id.xIsReduced = true ↔ groupOrder ≤ x.value) := by
  have xBound := x.value_lt
  have rBound := r.value_lt
  -- so that a coordinate exceeds its residue by the order at most once
  have gap : fieldPrime < 2 * groupOrder := by decide
  have residue : Residue.reduce groupOrder x.value = r ↔ x.value % groupOrder = r.value := by
    rcases r with ⟨value, value_lt⟩
    simp [Residue.reduce]
  rw [residue, abscissa]
  cases id.xIsReduced with
  | false =>
      simp only [Bool.false_eq_true, if_false, false_iff, Nat.not_le]
      constructor
      · intro equal
        exact ⟨by rw [equal, Nat.mod_eq_of_lt rBound], by omega⟩
      · intro reduced
        rcases reduced with ⟨equal, small⟩
        rwa [Nat.mod_eq_of_lt small] at equal
  | true =>
      simp only [if_true, true_iff]
      constructor
      · intro equal
        exact ⟨by rw [equal, Nat.add_mod_right, Nat.mod_eq_of_lt rBound], by omega⟩
      · intro reduced
        rcases reduced with ⟨equal, large⟩
        rw [Nat.mod_eq_sub_mod large, Nat.mod_eq_of_lt (by omega)] at equal
        omega

theorem decompress?_abscissa {r : Scalar} {id : RecoveryId} {point : Point} :
    decompress? (abscissa r id) id.yIsOdd = some point ↔
      point.OnCurve ∧ id.Designates r point := by
  rw [decompress?_eq_some_iff]
  constructor
  · intro found
    rcases found with ⟨x, y, rfl, onCurve, equal, parity⟩
    rcases abscissa_eq_iff.mp equal with ⟨residue, reduced⟩
    refine ⟨onCurve, x, y, rfl, residue, ?_⟩
    rcases id with ⟨yIsOdd, xIsReduced⟩
    exact congrArg₂ RecoveryId.mk parity.symm (Bool.eq_iff_iff.mpr (by simpa using reduced))
  · intro found
    rcases found with ⟨onCurve, x, y, rfl, residue, rfl⟩
    exact ⟨x, y, rfl, onCurve, abscissa_eq_iff.mpr ⟨residue, decide_eq_true_iff⟩, rfl⟩

theorem mirrored_mirrored (id : RecoveryId) : id.mirrored.mirrored = id := by
  simp [mirrored]

theorem designates_neg {id : RecoveryId} {r : Scalar} {element : CurveGroup} :
    id.mirrored.Designates r (Point.ofGroup (-element)) ↔
      id.Designates r (Point.ofGroup element) := by
  have mirror : ∀ {id : RecoveryId} {element : CurveGroup},
      id.Designates r (Point.ofGroup element) →
        id.mirrored.Designates r (Point.ofGroup (-element)) := by
    intro id element designates
    rcases designates with ⟨x, y, affine, residue, rfl⟩
    have onCurve : (Point.affine x y).OnCurve := affine ▸ Point.onCurve_ofGroup element
    refine ⟨x, -y, by rw [Point.ofGroup_neg, affine, Point.negate], residue, ?_⟩
    simp only [mirrored, ofCoordinates, isOdd_neg_ordinate onCurve]
  constructor
  · intro designates
    have twice := mirror designates
    rwa [mirrored_mirrored, neg_neg] at twice
  · exact mirror

theorem mem_all (id : RecoveryId) : id ∈ all := by
  rcases id with ⟨_ | _, _ | _⟩ <;> decide

theorem toByte_le (id : RecoveryId) : id.toByte ≤ 3 := by
  rcases id with ⟨_ | _, _ | _⟩ <;> decide

end RecoveryId

theorem SignedScalars.accepts_iff_exists_designates (scalars : SignedScalars) (key : CurveGroup) :
    scalars.Accepts key ↔
      ∃ id : RecoveryId, id.Designates scalars.r (Point.ofGroup (scalars.point key)) := by
  constructor
  · intro accepts
    rcases accepts with ⟨x, y, affine, residue⟩
    exact ⟨.ofCoordinates x y, x, y, affine, residue, rfl⟩
  · intro designated
    rcases designated with ⟨_, x, y, affine, residue, _⟩
    exact ⟨x, y, affine, residue⟩

/-- The key that recovery finds verifies, so that only a high `s` is refused at its end. -/
theorem SignedScalars.recoverScalars?_eq_some_iff (scalars : SignedScalars) {id : RecoveryId}
    {recovered : Point} :
    recoverScalars? scalars.prehash scalars.r scalars.s id = some recovered ↔
      isHigh scalars.s = false ∧ ∃ key, Point.ofGroup key = recovered ∧
        id.Designates scalars.r (Point.ofGroup (scalars.point key)) := by
  have sum (point : CurveGroup) :
      (Point.base.multiple (-(scalars.r.inverse * scalars.prehash)).value).add
        ((Point.ofGroup point).multiple (scalars.r.inverse * scalars.s).value) =
      Point.ofGroup (scalars.key point) := by
    rw [← ofGroup_baseElement, ← ofGroup_smul, ← ofGroup_smul, ← Point.ofGroup_add,
      SignedScalars.key, smul_sub, smul_smul, smul_smul, Residue.toZMod_neg, Residue.toZMod_mul,
      Residue.toZMod_mul, Residue.toZMod_inverse, neg_smul, neg_add_eq_sub]
  simp only [recoverScalars?, Option.bind_eq_bind, Option.bind_eq_some_iff,
    Option.ite_none_right_eq_some, Option.some.injEq]
  constructor
  · intro recovered
    rcases recovered with ⟨point, decompressed, verified, equal⟩
    rcases RecoveryId.decompress?_abscissa.mp decompressed with ⟨onCurve, designates⟩
    rcases Point.exists_ofGroup onCurve with ⟨element, rfl⟩
    rw [sum] at verified equal
    rcases (scalars.verifyScalars_iff _).mp verified with ⟨low, _⟩
    exact ⟨low, scalars.key element, equal, by rwa [scalars.key_eq_iff.mp rfl]⟩
  · intro found
    rcases found with ⟨low, key, rfl, designates⟩
    have accepts := (scalars.accepts_iff_exists_designates key).mpr ⟨id, designates⟩
    refine ⟨_, RecoveryId.decompress?_abscissa.mpr
      ⟨Point.onCurve_ofGroup _, designates⟩, ?_⟩
    rw [sum, scalars.key_eq_iff.mpr rfl]
    exact ⟨(scalars.verifyScalars_iff key).mpr ⟨low, accepts⟩, rfl⟩

/-! ## Lowering -/

namespace SignedScalars

/-- Lowering `s` takes the point to its mirror image or leaves it. -/
theorem lower_point (scalars : SignedScalars) (key : CurveGroup) :
    scalars.lower.point key =
      if isHigh scalars.s then -scalars.point key else scalars.point key := by
  simp only [point, lower, lowered]
  split
  · rw [Residue.toZMod_neg, inv_neg, neg_smul]
  · rfl

/-- Mirroring the id of a high `s` makes up for lowering it. -/
theorem designates_lower_point (scalars : SignedScalars) (key : CurveGroup) {id : RecoveryId} :
    (if isHigh scalars.s then id.mirrored else id).Designates scalars.r
        (Point.ofGroup (scalars.lower.point key)) ↔
      id.Designates scalars.r (Point.ofGroup (scalars.point key)) := by
  rw [lower_point]
  split
  · exact RecoveryId.designates_neg
  · exact Iff.rfl

theorem accepts_lower (scalars : SignedScalars) (key : CurveGroup) :
    scalars.lower.Accepts key ↔ scalars.Accepts key := by
  rw [accepts_iff_exists_designates, accepts_iff_exists_designates]
  constructor
  · intro designated
    rcases designated with ⟨id, designates⟩
    refine ⟨if isHigh scalars.s then id.mirrored else id,
      (scalars.designates_lower_point key).mp ?_⟩
    split
    · rwa [RecoveryId.mirrored_mirrored]
    · exact designates
  · intro designated
    rcases designated with ⟨id, designates⟩
    exact ⟨_, (scalars.designates_lower_point key).mpr designates⟩

end SignedScalars

/-! ## Words -/

theorem signedScalars?_eq_some_iff {message : Bytes} {r s : Word} {hashFirst : Bool}
    {scalars : SignedScalars} :
    signedScalars? message r s hashFirst = some scalars ↔
      scalar? r = some scalars.r ∧ scalar? s = some scalars.s ∧
        (prehashWord? (prehash message hashFirst)).map reduced = some scalars.prehash := by
  unfold signedScalars?
  constructor
  · intro read
    split at read
    case isTrue inRange =>
      rcases Option.map_eq_some_iff.mp read with ⟨word, found, rfl⟩
      exact ⟨scalar?_of_isScalar inRange.1, scalar?_of_isScalar inRange.2,
        congrArg (Option.map reduced) found⟩
    case isFalse => cases read
  · intro words
    rcases words with ⟨rRead, sRead, read⟩
    rcases Option.map_eq_some_iff.mp read with ⟨word, found, equal⟩
    have rRange := isScalar_of_scalar? rRead
    have sRange := isScalar_of_scalar? sRead
    rw [scalar?_of_isScalar rRange] at rRead
    rw [scalar?_of_isScalar sRange] at sRead
    rw [dif_pos ⟨rRange, sRange⟩, found]
    rcases scalars with ⟨_, _, _, _, _⟩
    cases rRead
    cases sRead
    cases equal
    rfl

theorem verify_iff {message : Bytes} {r s : Word} {coordinates : Coordinates} {hashFirst : Bool} :
    verify message r s coordinates hashFirst = true ↔
      ∃ scalars key, signedScalars? message r s hashFirst = some scalars ∧
        Coordinates.ofPoint? (Point.ofGroup key) = some coordinates ∧
        scalars.Accepts key := by
  simp only [signedScalars?_eq_some_iff]
  constructor
  · intro verified
    unfold verify at verified
    split at verified
    case isFalse => cases verified
    case isTrue onCurve =>
      split at verified
      case h_2 => cases verified
      case h_1 rScalar sScalar word rRead sRead found =>
        rcases Coordinates.onCurve_iff.mp onCurve with ⟨key, read⟩
        rw [Coordinates.toPoint_eq_ofGroup onCurve read] at verified
        let scalars : SignedScalars :=
          ⟨reduced word, rScalar, sScalar, (scalar?_eq_some_iff.mp rRead).1,
            (scalar?_eq_some_iff.mp sRead).1⟩
        exact ⟨scalars, key, ⟨rRead, sRead, congrArg (Option.map reduced) found⟩, read,
          (scalars.accepts_lower key).mp ((scalars.lower.verifyScalars_iff key).mp verified).2⟩
  · intro accepted
    rcases accepted with ⟨scalars, key, ⟨rRead, sRead, read⟩, coordinatesRead, accepts⟩
    rcases Option.map_eq_some_iff.mp read with ⟨word, found, equal⟩
    have onCurve := Coordinates.onCurve_iff.mpr ⟨key, coordinatesRead⟩
    rw [verify, dif_pos onCurve, rRead, sRead, found,
      Coordinates.toPoint_eq_ofGroup onCurve coordinatesRead]
    simp only [equal]
    exact (scalars.lower.verifyScalars_iff key).mpr
      ⟨isHigh_lowered scalars.s, (scalars.accepts_lower key).mpr accepts⟩

theorem isScalar_of_verify {message : Bytes} {r s : Word} {coordinates : Coordinates}
    {hashFirst : Bool} (verified : verify message r s coordinates hashFirst = true) :
    IsScalar r ∧ IsScalar s := by
  rcases verify_iff.mp verified with ⟨scalars, _, read, _⟩
  rcases signedScalars?_eq_some_iff.mp read with ⟨rRead, sRead, _⟩
  exact ⟨isScalar_of_scalar? rRead, isScalar_of_scalar? sRead⟩

theorem recover?_eq_some_iff {message : Bytes} {r s : Word} {coordinates : Coordinates}
    {hashFirst : Bool} {id : RecoveryId} :
    recover? message r s hashFirst id = some coordinates ↔
      ∃ scalars key, signedScalars? message r s hashFirst = some scalars ∧
        Coordinates.ofPoint? (Point.ofGroup key) = some coordinates ∧
        id.Designates scalars.r (Point.ofGroup (scalars.point key)) := by
  simp only [signedScalars?_eq_some_iff, recover?, Option.bind_eq_bind, Option.bind_eq_some_iff]
  constructor
  · intro steps
    rcases steps with
      ⟨rScalar, rRead, sScalar, sRead, word, found, point, recovered, coordinatesRead⟩
    let scalars : SignedScalars :=
      ⟨reduced word, rScalar, sScalar, (scalar?_eq_some_iff.mp rRead).1,
        (scalar?_eq_some_iff.mp sRead).1⟩
    rcases scalars.lower.recoverScalars?_eq_some_iff.mp recovered with
      ⟨_, key, rfl, designates⟩
    exact ⟨scalars, key, ⟨rRead, sRead, congrArg (Option.map reduced) found⟩, coordinatesRead,
      (scalars.designates_lower_point key).mp designates⟩
  · intro designated
    rcases designated with ⟨scalars, key, ⟨rRead, sRead, read⟩, coordinatesRead, designates⟩
    rcases Option.map_eq_some_iff.mp read with ⟨word, found, equal⟩
    have recovered := scalars.lower.recoverScalars?_eq_some_iff.mpr
      ⟨isHigh_lowered scalars.s, key, rfl, (scalars.designates_lower_point key).mpr designates⟩
    exact ⟨scalars.r, rRead, scalars.s, sRead, word, found, Point.ofGroup key, equal ▸ recovered,
      coordinatesRead⟩

end BitcoinKeys.Ecdsa
