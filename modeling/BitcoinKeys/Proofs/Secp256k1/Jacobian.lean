import BitcoinKeys.Proofs.Secp256k1.GroupLaw

/-! # Multiples in Jacobian coordinates

Multiples of a point by a large number, with one division at the end in place of one for every step.
A triple stands for a point as long as its third coordinate is not zero, and a third coordinate that
has become zero stays zero, so that it is enough to look at the last triple.
-/

namespace BitcoinKeys.Secp256k1

/-- The point `(x / z², y / z³)`, unless z is zero. -/
structure Jacobian where
  x : Coordinate
  y : Coordinate
  z : Coordinate

namespace Jacobian

def double (triple : Jacobian) : Jacobian :=
  let square := triple.y * triple.y
  let middle := 4 * triple.x * square
  let tangent := 3 * (triple.x * triple.x)
  let x := tangent * tangent - middle - middle
  ⟨x, tangent * (middle - x) - 8 * (square * square), 2 * triple.y * triple.z⟩

def addAffine (triple : Jacobian) (x y : Coordinate) : Jacobian :=
  let square := triple.z * triple.z
  let width := x * square - triple.x
  let height := y * (square * triple.z) - triple.y
  let widthSquare := width * width
  let middle := triple.x * widthSquare
  let x := height * height - width * widthSquare - middle - middle
  ⟨x, height * (middle - x) - triple.y * (width * widthSquare), width * triple.z⟩

def multiple (x y : Coordinate) (count : Nat) : Jacobian :=
  if count = 0 then ⟨1, 1, 0⟩
  else if count = 1 then ⟨x, y, 1⟩
  else
    let even := (multiple x y (count / 2)).double
    if count % 2 = 1 then even.addAffine x y else even
termination_by count

/-- Whether the triple stands for the point with these coordinates. -/
def StandsFor : Jacobian → Coordinate → Coordinate → Prop
  | ⟨x, y, z⟩, affineX, affineY => z ≠ 0 ∧ affineX * (z * z) = x ∧ affineY * (z * z * z) = y

instance : (triple : Jacobian) → (x y : Coordinate) → Decidable (triple.StandsFor x y)
  | ⟨x, y, z⟩, affineX, affineY =>
      inferInstanceAs
        (Decidable (z ≠ 0 ∧ affineX * (z * z) = x ∧ affineY * (z * z * z) = y))

def Represents (triple : Jacobian) (element : CurveGroup) : Prop :=
  ∃ x y, Point.ofGroup element = .affine x y ∧ triple.StandsFor x y

theorem StandsFor.unique {triple : Jacobian} {x₁ y₁ x₂ y₂ : Coordinate}
    (first : triple.StandsFor x₁ y₁) (second : triple.StandsFor x₂ y₂) : x₁ = x₂ ∧ y₁ = y₂ := by
  rcases triple with ⟨x, y, z⟩
  rcases first with ⟨nonzero, rfl, rfl⟩
  rcases second with ⟨-, sameX, sameY⟩
  have zNonzero := Residue.toZMod_eq_zero.not.mpr nonzero
  simp only [← Residue.toZMod_inj, Residue.toZMod_mul] at sameX sameY ⊢
  exact ⟨(mul_right_cancel₀ (mul_ne_zero zNonzero zNonzero) sameX).symm,
    (mul_right_cancel₀ (mul_ne_zero (mul_ne_zero zNonzero zNonzero) zNonzero) sameY).symm⟩

/-- The tangent slope at `(x, y)`, by the equation that defines it. -/
theorem tangent_mul {x y : Coordinate} (nonzero : y ≠ 0) :
    (Point.slope x y x y).toZMod * (2 * y.toZMod) = 3 * (x.toZMod * x.toZMod) := by
  have twice : 2 * y.toZMod ≠ 0 :=
    mul_ne_zero field_two_ne_zero (Residue.toZMod_eq_zero.not.mpr nonzero)
  simp only [Point.slope, if_true, Residue.toZMod_mul, Residue.toZMod_inverse,
    Residue.toZMod_ofNat, Nat.cast_ofNat]
  exact inv_mul_cancel_right₀ twice _

theorem chord_mul {x₁ x₂ : Coordinate} (y₁ y₂ : Coordinate) (different : x₁ ≠ x₂) :
    (Point.slope x₁ y₁ x₂ y₂).toZMod * (x₁.toZMod - x₂.toZMod) = y₁.toZMod - y₂.toZMod := by
  have width : x₁.toZMod - x₂.toZMod ≠ 0 :=
    sub_ne_zero.mpr (Residue.toZMod_injective.ne different)
  simp only [Point.slope, if_neg different, Residue.toZMod_mul, Residue.toZMod_inverse,
    Residue.toZMod_sub]
  exact inv_mul_cancel_right₀ width _

theorem double_represents {triple : Jacobian} {element : CurveGroup}
    (represents : triple.Represents element) : triple.double.Represents (2 • element) := by
  rcases represents with ⟨x, y, affine, standsFor⟩
  rcases triple with ⟨_, _, z⟩
  rcases standsFor with ⟨nonzero, rfl, rfl⟩
  have onCurve : (Point.affine x y).OnCurve := affine ▸ Point.onCurve_ofGroup element
  have slope := tangent_mul (x := x) (Point.ordinate_ne_zero onCurve)
  have sum := Point.ofGroup_add element element
  rw [← two_nsmul, affine, Point.add,
    if_neg fun opposite => Point.ne_neg_ordinate onCurve opposite.2] at sum
  refine ⟨_, _, sum, ?_⟩
  simp only [double, StandsFor, ne_eq, ← Residue.toZMod_inj, Residue.toZMod_mul,
    Residue.toZMod_sub, Residue.toZMod_ofNat, Nat.cast_ofNat, Nat.cast_zero]
  refine ⟨?_, ?_, ?_⟩
  · have zNonzero := Residue.toZMod_eq_zero.not.mpr nonzero
    have yNonzero := Residue.toZMod_eq_zero.not.mpr (Point.ordinate_ne_zero onCurve)
    simp [field_two_ne_zero, zNonzero, yNonzero]
  · linear_combination (z.toZMod ^ 8 * (2 * y.toZMod * (Point.slope x y x y).toZMod +
      3 * x.toZMod ^ 2)) * slope
  · linear_combination (4 * y.toZMod ^ 2 * z.toZMod ^ 12 *
      (3 * x.toZMod - (Point.slope x y x y).toZMod ^ 2) -
      3 * x.toZMod ^ 2 * z.toZMod ^ 12 *
        (2 * y.toZMod * (Point.slope x y x y).toZMod + 3 * x.toZMod ^ 2)) * slope

theorem addAffine_represents {triple : Jacobian} {left right : CurveGroup} {x y : Coordinate}
    (represents : triple.Represents left) (affine : Point.ofGroup right = .affine x y)
    (finite : (triple.addAffine x y).z ≠ 0) :
    (triple.addAffine x y).Represents (left + right) := by
  rcases represents with ⟨x₁, y₁, leftAffine, standsFor⟩
  rcases triple with ⟨_, _, z⟩
  rcases standsFor with ⟨nonzero, rfl, rfl⟩
  have different : x₁ ≠ x := by
    intro equal
    apply finite
    cases equal
    simp [addAffine, ← Residue.toZMod_inj]
  have slope := chord_mul y₁ y different
  have sum := Point.ofGroup_add left right
  rw [leftAffine, affine, Point.add, if_neg fun opposite => different opposite.1] at sum
  refine ⟨_, _, sum, finite, ?_, ?_⟩
  · simp only [← Residue.toZMod_inj, Residue.toZMod_mul, Residue.toZMod_sub]
    linear_combination z.toZMod ^ 6 * ((Point.slope x₁ y₁ x y).toZMod * (x₁.toZMod - x.toZMod) +
      (y₁.toZMod - y.toZMod)) * slope
  · simp only [← Residue.toZMod_inj, Residue.toZMod_mul, Residue.toZMod_sub]
    linear_combination -z.toZMod ^ 9 * ((y.toZMod - y₁.toZMod) *
      ((Point.slope x₁ y₁ x y).toZMod * (x₁.toZMod - x.toZMod) + (y₁.toZMod - y.toZMod)) +
      (x.toZMod - x₁.toZMod) ^ 2 *
        (2 * x₁.toZMod + x.toZMod - (Point.slope x₁ y₁ x y).toZMod ^ 2)) * slope

/-- A third coordinate that is zero stays zero. -/
theorem z_ne_zero_of_double {triple : Jacobian} (finite : triple.double.z ≠ 0) :
    triple.z ≠ 0 := by
  intro zero
  apply finite
  simp [double, zero, ← Residue.toZMod_inj]

theorem z_ne_zero_of_addAffine {triple : Jacobian} {x y : Coordinate}
    (finite : (triple.addAffine x y).z ≠ 0) : triple.z ≠ 0 := by
  intro zero
  apply finite
  simp [addAffine, zero, ← Residue.toZMod_inj]

/-- A multiple with a third coordinate other than zero has met no exceptional sum on the way. -/
theorem multiple_represents {element : CurveGroup} {x y : Coordinate}
    (affine : Point.ofGroup element = .affine x y) (count : Nat)
    (finite : (multiple x y count).z ≠ 0) : (multiple x y count).Represents (count • element) := by
  fun_induction multiple x y count with
  | case1 => exact absurd rfl finite
  | case2 =>
      rw [one_nsmul]
      exact ⟨x, y, affine, by decide, by simp [← Residue.toZMod_inj],
        by simp [← Residue.toZMod_inj]⟩
  | case3 count _ _ even odd induction =>
      have evenFinite := z_ne_zero_of_addAffine finite
      have half := double_represents (induction (z_ne_zero_of_double evenFinite))
      have sum := addAffine_represents half affine finite
      have split : 2 * (count / 2) + 1 = count := by omega
      rwa [smul_smul, ← succ_nsmul, split] at sum
  | case4 count _ _ even odd induction =>
      have half := double_represents (induction (z_ne_zero_of_double finite))
      have split : 2 * (count / 2) = count := by omega
      rwa [smul_smul, split] at half

/-- A multiple of a point, found without dividing. -/
theorem multiple_eq_affine {x y affineX affineY : Coordinate} {count : Nat}
    (onCurve : (Point.affine x y).OnCurve)
    (standsFor : (multiple x y count).StandsFor affineX affineY) :
    (Point.affine x y).multiple count = .affine affineX affineY := by
  rcases Point.exists_ofGroup onCurve with ⟨element, affine⟩
  rcases multiple_represents affine count standsFor.1 with
    ⟨foundX, foundY, found, foundStandsFor⟩
  rcases standsFor.unique foundStandsFor with ⟨rfl, rfl⟩
  rw [← found, Point.ofGroup_nsmul, affine]

end Jacobian

end BitcoinKeys.Secp256k1
