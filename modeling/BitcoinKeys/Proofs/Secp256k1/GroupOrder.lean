import BitcoinKeys.Proofs.Secp256k1.Jacobian
import Mathlib.Algebra.Module.ZMod
import Mathlib.GroupTheory.OrderOfElement
import Mathlib.GroupTheory.Perm.Cycle.Type

/-! # The order of the group

The group of the curve has `groupOrder` elements. The base point has that order, which is a prime,
so it divides the number of elements. At most two points have the same x coordinate, which leaves
the order and its double, and the double is excluded because no point has order two. So every point
vanishes under the order, and scalars act on points as the elements of a field.
-/

namespace BitcoinKeys.Secp256k1

def baseElement : CurveGroup :=
  .some baseX.toZMod baseY.toZMod (Point.onCurve_affine.mp (by decide))

@[simp]
theorem ofGroup_baseElement : Point.ofGroup baseElement = Point.base := by
  simp [baseElement, Point.ofGroup, Point.base]

theorem baseElement_ne_zero : baseElement ≠ 0 :=
  WeierstrassCurve.Affine.Point.some_ne_zero _

/-- The order less one takes the base point to its mirror image. -/
theorem multiple_base_pred : Point.base.multiple (groupOrder - 1) = Point.base.negate :=
  Jacobian.multiple_eq_affine (by decide) (by decide +kernel)

theorem order_nsmul_base : groupOrder • baseElement = 0 := by
  have last : (groupOrder - 1) • baseElement = -baseElement := by
    apply Point.ofGroup_injective
    rw [Point.ofGroup_nsmul, Point.ofGroup_neg, ofGroup_baseElement, multiple_base_pred]
  have split : groupOrder - 1 + 1 = groupOrder := by decide
  rw [← split, succ_nsmul, last, neg_add_cancel]

theorem addOrderOf_base : addOrderOf baseElement = groupOrder :=
  addOrderOf_eq_prime order_nsmul_base baseElement_ne_zero

/-! ## The number of points -/

/-- The x coordinate of a point and the parity of its y coordinate. -/
def compressedForm (element : CurveGroup) : Option (Coordinate × Bool) :=
  match Point.ofGroup element with
  | .identity => none
  | .affine x y => some (x, y.isOdd)

theorem eq_or_eq_neg_of_same_x {x y₁ y₂ : Coordinate} (first : (Point.affine x y₁).OnCurve)
    (second : (Point.affine x y₂).OnCurve) : y₁ = y₂ ∨ y₁ = -y₂ := by
  have squares : y₁ * y₁ = y₂ * y₂ := Eq.trans first (Eq.symm second)
  rw [← Residue.toZMod_inj, Residue.toZMod_mul, Residue.toZMod_mul] at squares
  rcases mul_self_eq_mul_self_iff.mp squares with equal | opposite
  · exact .inl (Residue.toZMod_injective equal)
  · exact .inr (Residue.toZMod_injective (opposite.trans (Residue.toZMod_neg y₂).symm))

/-- Elements with the same x coordinate are equal or opposite. -/
theorem eq_or_eq_neg_of_ofGroup {left right : CurveGroup} {x y₁ y₂ : Coordinate}
    (leftPoint : Point.ofGroup left = .affine x y₁)
    (rightPoint : Point.ofGroup right = .affine x y₂) : right = left ∨ right = -left := by
  have leftOnCurve := Point.onCurve_ofGroup left
  have rightOnCurve := Point.onCurve_ofGroup right
  rw [leftPoint] at leftOnCurve
  rw [rightPoint] at rightOnCurve
  rcases eq_or_eq_neg_of_same_x rightOnCurve leftOnCurve with rfl | rfl
  · apply Or.inl
    apply Point.ofGroup_injective
    rw [leftPoint, rightPoint]
  · apply Or.inr
    apply Point.ofGroup_injective
    rw [Point.ofGroup_neg, leftPoint, rightPoint, Point.negate]

theorem isOdd_neg_ordinate {x y : Coordinate} (onCurve : (Point.affine x y).OnCurve) :
    (-y).isOdd = !y.isOdd :=
  Residue.isOdd_neg (by decide) (Point.ordinate_ne_zero onCurve)

/-- A point is determined by its x coordinate and the parity of its y coordinate. -/
theorem eq_of_isOdd_eq {x y₁ y₂ : Coordinate} (first : (Point.affine x y₁).OnCurve)
    (second : (Point.affine x y₂).OnCurve) (parity : y₁.isOdd = y₂.isOdd) : y₁ = y₂ := by
  rcases eq_or_eq_neg_of_same_x first second with equal | opposite
  · exact equal
  · rw [opposite, isOdd_neg_ordinate second] at parity
    exact absurd parity (Bool.not_ne_self _)

theorem compressedForm_injective : Function.Injective compressedForm := by
  intro left right equal
  have leftOnCurve := Point.onCurve_ofGroup left
  have rightOnCurve := Point.onCurve_ofGroup right
  apply Point.ofGroup_injective
  unfold compressedForm at equal
  cases leftPoint : Point.ofGroup left <;> cases rightPoint : Point.ofGroup right <;>
    simp only [leftPoint, rightPoint] at equal leftOnCurve rightOnCurve
  case identity.identity => rfl
  case identity.affine => cases equal
  case affine.identity => cases equal
  case affine.affine =>
    rcases Prod.mk.inj (Option.some.inj equal) with ⟨rfl, parity⟩
    rw [eq_of_isOdd_eq leftOnCurve rightOnCurve parity]

instance : Finite CurveGroup := Finite.of_injective compressedForm compressedForm_injective

theorem card_curve_le : Nat.card CurveGroup ≤ 2 * fieldPrime + 1 := by
  have bound := Nat.card_le_card_of_injective compressedForm compressedForm_injective
  have coordinates : Nat.card Coordinate = fieldPrime := by
    rw [Nat.card_congr (Equiv.ofBijective Residue.toZMod
      ⟨Residue.toZMod_injective, fun element => ⟨.ofZMod element, by simp⟩⟩), Nat.card_zmod]
  rw [Finite.card_option, Nat.card_prod, coordinates, Nat.card_eq_fintype_card (α := Bool),
    Fintype.card_bool, mul_comm] at bound
  exact bound

theorem two_nsmul_ne_zero {element : CurveGroup} (nonzero : element ≠ 0) : 2 • element ≠ 0 := by
  intro double
  have opposite : element = -element := by
    rw [two_nsmul] at double
    exact eq_neg_of_add_eq_zero_left double
  have mirror := Point.ofGroup_neg element
  rw [← opposite] at mirror
  have onCurve := Point.onCurve_ofGroup element
  cases point : Point.ofGroup element with
  | identity => exact nonzero (Point.ofGroup_injective point)
  | affine x y =>
      rw [point] at mirror onCurve
      exact Point.ne_neg_ordinate onCurve (Point.affine.inj mirror).2

/-- The curve has exactly as many points as the order of the base point. -/
theorem card_curve : Nat.card CurveGroup = groupOrder := by
  have divides : groupOrder ∣ Nat.card CurveGroup := addOrderOf_base ▸ addOrderOf_dvd_natCard _
  rcases divides with ⟨cofactor, product⟩
  have few := card_curve_le
  have positive : 0 < Nat.card CurveGroup := Nat.card_pos
  have small : cofactor < 3 := by
    by_contra large
    have bound : groupOrder * 3 ≤ groupOrder * cofactor := Nat.mul_le_mul_left _ (by omega)
    rw [← product] at bound
    exact absurd (bound.trans few) (by decide)
  -- a point of order two would be on the x axis
  have odd : cofactor ≠ 2 := by
    intro two
    rw [two] at product
    have even : 2 ∣ Nat.card CurveGroup := ⟨groupOrder, product.trans (mul_comm groupOrder 2)⟩
    rcases exists_prime_addOrderOf_dvd_card' 2 even with ⟨element, order⟩
    refine two_nsmul_ne_zero ?_ (order ▸ addOrderOf_nsmul_eq_zero element)
    intro zero
    rw [zero, addOrderOf_zero] at order
    exact absurd order (by decide)
  have one : cofactor = 1 := by
    rcases Nat.eq_zero_or_pos cofactor with zero | _
    · rw [product, zero] at positive
      exact absurd positive (lt_irrefl 0)
    · omega
  rw [product, one, mul_one]

theorem order_nsmul (element : CurveGroup) : groupOrder • element = 0 := by
  rw [← card_curve]
  exact card_nsmul_eq_zero'

/-! ## Scalars -/

instance : Module (ZMod groupOrder) CurveGroup :=
  AddCommGroup.zmodModule order_nsmul

theorem ofGroup_smul (scalar : Scalar) (element : CurveGroup) :
    Point.ofGroup (scalar.toZMod • element) = (Point.ofGroup element).multiple scalar.value := by
  rw [Residue.toZMod, Nat.cast_smul_eq_nsmul, Point.ofGroup_nsmul]

theorem smul_base_eq_zero {scalar : ZMod groupOrder} :
    scalar • baseElement = 0 ↔ scalar = 0 :=
  smul_eq_zero_iff_left baseElement_ne_zero

end BitcoinKeys.Secp256k1
