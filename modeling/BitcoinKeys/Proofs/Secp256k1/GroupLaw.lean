import BitcoinKeys.Proofs.Secp256k1.Primality
import Mathlib.AlgebraicGeometry.EllipticCurve.Affine.Point
import Mathlib.FieldTheory.Finite.Basic

/-! # The group law

The points of the curve form an abelian group, in which `Point.add` is the sum, `Point.negate` the
negative and `Point.multiple` the multiple. Associativity is that of Weierstrass curves in general:
`Point.ofGroup` reads the points of that theory as points with residues for coordinates.
-/

namespace BitcoinKeys.Secp256k1

/-- The Weierstrass equation `y² = x³ + 7`. -/
def curve : WeierstrassCurve.Affine (ZMod fieldPrime) where
  a₁ := 0
  a₂ := 0
  a₃ := 0
  a₄ := 0
  a₆ := 7

abbrev CurveGroup := curve.Point

theorem natCast_ne_zero {number : Nat} (positive : 0 < number) (small : number < fieldPrime) :
    (number : ZMod fieldPrime) ≠ 0 := by
  intro zero
  have divides := (ZMod.natCast_eq_zero_iff number fieldPrime).mp zero
  exact absurd (Nat.le_of_dvd positive divides) (by omega)

theorem field_two_ne_zero : (2 : ZMod fieldPrime) ≠ 0 :=
  mod_cast natCast_ne_zero (show 0 < 2 by decide) (by decide)

theorem curve_discriminant : curve.Δ ≠ 0 := by
  have discriminant : curve.Δ = -((21168 : Nat) : ZMod fieldPrime) := by
    simp only [WeierstrassCurve.Δ, WeierstrassCurve.b₂, WeierstrassCurve.b₄, WeierstrassCurve.b₆,
      WeierstrassCurve.b₈, curve]
    norm_num
  rw [discriminant, neg_ne_zero]
  exact natCast_ne_zero (by norm_num) (by decide)

theorem curve_equation_iff (x y : ZMod fieldPrime) :
    curve.Equation x y ↔ y * y = x * x * x + 7 := by
  rw [WeierstrassCurve.Affine.equation_iff]
  simp only [curve, zero_mul, add_zero]
  rw [pow_two, pow_three, mul_assoc]

theorem curve_nonsingular_iff (x y : ZMod fieldPrime) :
    curve.Nonsingular x y ↔ y * y = x * x * x + 7 := by
  rw [← WeierstrassCurve.Affine.equation_iff_nonsingular_of_Δ_ne_zero curve_discriminant,
    curve_equation_iff]

theorem curve_negY (x y : ZMod fieldPrime) : curve.negY x y = -y := by
  simp [WeierstrassCurve.Affine.negY, curve]

namespace Point

open WeierstrassCurve.Affine (Point.some Point.zero)

theorem onCurve_affine {x y : Coordinate} :
    (Point.affine x y).OnCurve ↔ curve.Nonsingular x.toZMod y.toZMod := by
  change y * y = x * x * x + 7 ↔ _
  rw [← Residue.toZMod_inj, curve_nonsingular_iff]
  simp

def ofGroup : CurveGroup → Point
  | .zero => .identity
  | .some x y _ => .affine (Residue.ofZMod x) (Residue.ofZMod y)

theorem ofGroup_zero : ofGroup 0 = .identity := rfl

theorem ofGroup_injective : Function.Injective ofGroup := by
  intro left right equal
  rcases left with _ | ⟨x₁, y₁, nonsingular₁⟩ <;> rcases right with _ | ⟨x₂, y₂, nonsingular₂⟩
  · rfl
  · cases equal
  · cases equal
  · rcases Point.affine.inj equal with ⟨sameX, sameY⟩
    rw [Residue.ofZMod_eq_iff, Residue.toZMod_ofZMod] at sameX sameY
    cases sameX
    cases sameY
    rfl

theorem onCurve_ofGroup (element : CurveGroup) : (ofGroup element).OnCurve := by
  rcases element with _ | ⟨x, y, nonsingular⟩
  · trivial
  · refine onCurve_affine.mpr ?_
    rwa [Residue.toZMod_ofZMod, Residue.toZMod_ofZMod]

theorem exists_ofGroup {point : Point} (onCurve : point.OnCurve) :
    ∃ element : CurveGroup, ofGroup element = point := by
  cases point with
  | identity => exact ⟨0, rfl⟩
  | affine x y =>
      exact ⟨.some x.toZMod y.toZMod (onCurve_affine.mp onCurve), by simp [ofGroup]⟩

theorem ofGroup_neg (element : CurveGroup) : ofGroup (-element) = (ofGroup element).negate := by
  rcases element with _ | ⟨x, y, nonsingular⟩
  · rfl
  · simp only [WeierstrassCurve.Affine.Point.neg_some, ofGroup, negate, curve_negY,
      Point.affine.injEq, true_and]
    simp [Residue.ofZMod_eq_iff]

/-- The slope is that of the general theory wherever the sum is not the identity. -/
theorem slope_ofZMod {x₁ y₁ x₂ y₂ : ZMod fieldPrime} (sloped : ¬(x₁ = x₂ ∧ y₁ = -y₂)) :
    (slope (Residue.ofZMod x₁) (Residue.ofZMod y₁) (Residue.ofZMod x₂)
      (Residue.ofZMod y₂)).toZMod = curve.slope x₁ x₂ y₁ y₂ := by
  by_cases sameX : x₁ = x₂
  · have differentY : y₁ ≠ curve.negY x₂ y₂ := by
      rw [curve_negY]
      exact fun sameY => sloped ⟨sameX, sameY⟩
    rw [WeierstrassCurve.Affine.slope_of_Y_ne sameX differentY, slope,
      if_pos (congrArg Residue.ofZMod sameX), curve_negY]
    simp [curve, div_eq_mul_inv]
    ring
  · have differentX : Residue.ofZMod x₁ ≠ Residue.ofZMod x₂ := by
      rwa [Ne, Residue.ofZMod_eq_iff, Residue.toZMod_ofZMod]
    rw [WeierstrassCurve.Affine.slope_of_X_ne sameX, slope, if_neg differentX]
    simp [div_eq_mul_inv]

/-- The chord and tangent law computes sums of the group. -/
theorem ofGroup_add (left right : CurveGroup) :
    ofGroup (left + right) = (ofGroup left).add (ofGroup right) := by
  rcases left with _ | ⟨x₁, y₁, nonsingular₁⟩
  · exact congrArg ofGroup (zero_add right)
  rcases right with _ | ⟨x₂, y₂, nonsingular₂⟩
  · exact congrArg ofGroup (add_zero _)
  have opposite : (Residue.ofZMod x₁ = Residue.ofZMod x₂ ∧
      Residue.ofZMod y₁ = -Residue.ofZMod y₂) ↔ x₁ = x₂ ∧ y₁ = -y₂ := by
    simp [Residue.ofZMod_eq_iff]
  by_cases vertical : x₁ = x₂ ∧ y₁ = -y₂
  · rw [WeierstrassCurve.Affine.Point.add_of_Y_eq vertical.1
      (vertical.2.trans (curve_negY x₂ y₂).symm)]
    exact (if_pos (opposite.mpr vertical)).symm
  · rw [WeierstrassCurve.Affine.Point.add_some (by rwa [curve_negY])]
    refine Eq.trans ?_ (if_neg (opposite.not.mpr vertical)).symm
    simp only [ofGroup, Point.affine.injEq, Residue.ofZMod_eq_iff]
    simp only [Residue.toZMod_sub, Residue.toZMod_mul, slope_ofZMod vertical,
      Residue.toZMod_ofZMod, WeierstrassCurve.Affine.addX, WeierstrassCurve.Affine.addY,
      WeierstrassCurve.Affine.negAddY, curve_negY]
    simp only [curve]
    constructor <;> ring

theorem ofGroup_nsmul (count : Nat) (element : CurveGroup) :
    ofGroup (count • element) = (ofGroup element).multiple count := by
  induction count using Nat.strongRecOn generalizing element with
  | ind count induction =>
      rw [multiple]
      split
      case isTrue zero => rw [zero, zero_nsmul, ofGroup_zero]
      case isFalse positive =>
        have half := induction (count / 2) (by omega) (element + element)
        rw [ofGroup_add, ← two_nsmul, ← mul_nsmul] at half
        rw [← half]
        split
        case isTrue odd =>
          have split : 2 * (count / 2) + 1 = count := by omega
          rw [← ofGroup_add, ← succ_nsmul', split]
        case isFalse even =>
          have split : 2 * (count / 2) = count := by omega
          rw [split]

theorem onCurve_neg {x y : Coordinate} (onCurve : (Point.affine x y).OnCurve) :
    (Point.affine x (-y)).OnCurve := by
  have squares : -y * -y = y * y := by simp [← Residue.toZMod_inj]
  exact squares.trans onCurve

/-! ## No point of order two -/

/-- The curve has no point on the x axis: -7 is not a cube. -/
theorem ordinate_ne_zero {x y : Coordinate} (onCurve : (Point.affine x y).OnCurve) : y ≠ 0 := by
  intro zero
  have cube : x.toZMod ^ 3 = (-7 : Coordinate).toZMod := by
    have equation : y * y = x * x * x + 7 := onCurve
    rw [zero, ← Residue.toZMod_inj] at equation
    simp only [Residue.toZMod_mul, Residue.toZMod_add, Residue.toZMod_ofNat] at equation
    simp only [Residue.toZMod_neg, Residue.toZMod_ofNat]
    linear_combination -equation
  have nonzero : x.toZMod ≠ 0 := by
    intro origin
    rw [origin, zero_pow (by norm_num)] at cube
    exact absurd (Residue.toZMod_eq_zero.mp cube.symm) (by decide)
  have unit : (-7 : Coordinate).power ((fieldPrime - 1) / 3) = 1 := by
    have exponent : 3 * ((fieldPrime - 1) / 3) = fieldPrime - 1 := by decide
    rw [← Residue.toZMod_inj, Residue.toZMod_power, ← cube, ← pow_mul, exponent,
      ZMod.pow_card_sub_one_eq_one nonzero, Residue.toZMod_ofNat, Nat.cast_one]
  exact absurd unit (by decide +kernel)

theorem ne_neg_ordinate {x y : Coordinate} (onCurve : (Point.affine x y).OnCurve) : y ≠ -y := by
  intro equal
  have double : 2 * y.toZMod = 0 := by
    rw [← Residue.toZMod_inj, Residue.toZMod_neg] at equal
    linear_combination equal
  rcases mul_eq_zero.mp double with zero | zero
  · exact field_two_ne_zero zero
  · exact ordinate_ne_zero onCurve (Residue.toZMod_eq_zero.mp zero)

end Point

end BitcoinKeys.Secp256k1
