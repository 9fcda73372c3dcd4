import BitcoinKeys.Proofs.Secp256k1.GroupOrder
import BitcoinKeys.Secp256k1.Coordinates

/-! # Coordinates and scalars as words

Decompression finds every point of the curve from its x coordinate and the parity of its y
coordinate. Pairs of words on the curve are the elements of the group other than zero, and words in
the range of scalars are the scalars other than zero.
-/

namespace BitcoinKeys.Secp256k1

/-! ## Decompression -/

/-- The power that is tried squares to the element wherever the element is a square. -/
theorem power_mul_self {element root : Coordinate} (square : root * root = element) :
    element.power ((fieldPrime + 1) / 4) * element.power ((fieldPrime + 1) / 4) = element := by
  subst square
  rw [← Residue.toZMod_inj, Residue.toZMod_mul, Residue.toZMod_power, Residue.toZMod_mul,
    ← pow_two, ← pow_two, ← pow_mul, ← pow_mul]
  by_cases zero : root.toZMod = 0
  · rw [zero, zero_pow (by decide), zero_pow (by decide)]
  · have exponent : 2 * ((fieldPrime + 1) / 4 * 2) = fieldPrime - 1 + 2 := by decide
    rw [exponent, pow_add, ZMod.pow_card_sub_one_eq_one zero, one_mul]

theorem squareRoot?_mul_self {element root : Coordinate} (found : squareRoot? element = some root) :
    root * root = element := by
  rcases Option.ite_none_right_eq_some.mp found with ⟨square, equal⟩
  exact Option.some.inj equal ▸ square

theorem exists_squareRoot? {element root : Coordinate} (square : root * root = element) :
    ∃ found, squareRoot? element = some found :=
  ⟨_, if_pos (power_mul_self square)⟩

theorem ordinate?_eq_some_iff {x y : Coordinate} {odd : Bool} :
    ordinate? x odd = some y ↔ (Point.affine x y).OnCurve ∧ y.isOdd = odd := by
  -- whatever root is found, one of it and its negative has the parity that is asked for
  have found_spec : ∀ {found : Coordinate}, ordinate? x odd = some found →
      (Point.affine x found).OnCurve ∧ found.isOdd = odd := by
    intro found equal
    rcases Option.map_eq_some_iff.mp equal with ⟨root, square, chosen⟩
    have onCurve : (Point.affine x root).OnCurve := squareRoot?_mul_self square
    split at chosen
    case isTrue parity => exact chosen ▸ ⟨onCurve, parity⟩
    case isFalse parity =>
      subst chosen
      refine ⟨Point.onCurve_neg onCurve, ?_⟩
      rw [isOdd_neg_ordinate onCurve]
      exact Bool.not_eq.mpr parity
  constructor
  · exact found_spec
  · intro above
    rcases above with ⟨onCurve, parity⟩
    rcases exists_squareRoot? (Eq.refl (y * y)) with ⟨root, square⟩
    have equation : y * y = x * x * x + 7 := onCurve
    have defined : ordinate? x odd = some (if root.isOdd = odd then root else -root) := by
      rw [ordinate?, ← equation, square]
      rfl
    have spec := found_spec defined
    rw [defined, eq_of_isOdd_eq spec.1 onCurve (spec.2.trans parity.symm)]

theorem decompress?_eq_some_iff {x : Nat} {odd : Bool} {point : Point} :
    decompress? x odd = some point ↔
      ∃ abscissa ordinate, point = .affine abscissa ordinate ∧ point.OnCurve ∧
        abscissa.value = x ∧ ordinate.isOdd = odd := by
  unfold decompress?
  constructor
  · intro found
    split at found
    case isTrue below =>
      rcases Option.map_eq_some_iff.mp found with ⟨y, ordinate, rfl⟩
      rcases ordinate?_eq_some_iff.mp ordinate with ⟨onCurve, parity⟩
      exact ⟨_, _, rfl, onCurve, rfl, parity⟩
    case isFalse => cases found
  · intro found
    rcases found with ⟨abscissa, ordinate, rfl, onCurve, rfl, parity⟩
    rw [dif_pos abscissa.value_lt, ordinate?_eq_some_iff.mpr ⟨onCurve, parity⟩]
    rfl

/-! ## Coordinates -/

namespace Coordinates

theorem toNat_ofNat_value {modulus : Nat} (small : modulus ≤ 2 ^ 256) (residue : Residue modulus) :
    (BitVec.ofNat 256 residue.value).toNat = residue.value := by
  rw [BitVec.toNat_ofNat, Nat.mod_eq_of_lt (residue.value_lt.trans_le small)]

theorem fieldPrime_le : fieldPrime ≤ 2 ^ 256 := by decide

/-- The equation of words is the equation of residues. -/
theorem onCurve_words {x y : Coordinate} :
    y.value * y.value % fieldPrime = (x.value * x.value * x.value + 7) % fieldPrime ↔
      (Point.affine x y).OnCurve := by
  change _ ↔ y * y = x * x * x + 7
  rw [← ZMod.natCast_eq_natCast_iff', ← Residue.toZMod_inj]
  push_cast
  simp only [Residue.toZMod_mul, Residue.toZMod_add, Residue.toZMod_ofNat, Nat.cast_ofNat]
  rfl

theorem onCurve_toPoint {coordinates : Coordinates} (onCurve : coordinates.OnCurve) :
    (coordinates.toPoint onCurve).OnCurve :=
  onCurve_words.mp onCurve.2.2

@[simp]
theorem ofPoint?_toPoint {coordinates : Coordinates} (onCurve : coordinates.OnCurve) :
    ofPoint? (coordinates.toPoint onCurve) = some coordinates := by
  simp [toPoint, ofPoint?]

theorem toPoint_of_ofPoint? {point : Point} {coordinates : Coordinates}
    (pointOnCurve : point.OnCurve) (read : ofPoint? point = some coordinates) :
    ∃ onCurve : coordinates.OnCurve, coordinates.toPoint onCurve = point := by
  cases point with
  | identity => cases read
  | affine x y =>
      cases read
      have equalX := toNat_ofNat_value fieldPrime_le x
      have equalY := toNat_ofNat_value fieldPrime_le y
      refine ⟨⟨?_, ?_, ?_⟩, ?_⟩
      · simp only [equalX, x.value_lt]
      · simp only [equalY, y.value_lt]
      · simp only [equalX, equalY]
        exact onCurve_words.mpr pointOnCurve
      · simp only [toPoint, equalX, equalY]

theorem onCurve_iff {coordinates : Coordinates} :
    coordinates.OnCurve ↔ ∃ element, ofPoint? (Point.ofGroup element) = some coordinates := by
  constructor
  · intro onCurve
    rcases Point.exists_ofGroup (onCurve_toPoint onCurve) with ⟨element, equal⟩
    exact ⟨element, by rw [equal, ofPoint?_toPoint]⟩
  · intro given
    rcases given with ⟨element, read⟩
    exact (toPoint_of_ofPoint? (Point.onCurve_ofGroup element) read).1

theorem toPoint_eq_ofGroup {coordinates : Coordinates} {element : CurveGroup}
    (onCurve : coordinates.OnCurve)
    (read : ofPoint? (Point.ofGroup element) = some coordinates) :
    coordinates.toPoint onCurve = Point.ofGroup element :=
  (toPoint_of_ofPoint? (Point.onCurve_ofGroup element) read).2

/-- An element is determined by its coordinates. -/
theorem element_unique {coordinates : Coordinates} {left right : CurveGroup}
    (leftRead : ofPoint? (Point.ofGroup left) = some coordinates)
    (rightRead : ofPoint? (Point.ofGroup right) = some coordinates) : left = right := by
  have onCurve := onCurve_iff.mpr ⟨left, leftRead⟩
  apply Point.ofGroup_injective
  rw [← toPoint_eq_ofGroup onCurve leftRead, toPoint_eq_ofGroup onCurve rightRead]

section

variable {element other : CurveGroup} {coordinates otherCoordinates : Coordinates}
  (read : ofPoint? (Point.ofGroup element) = some coordinates)
  (otherRead : ofPoint? (Point.ofGroup other) = some otherCoordinates)

include read otherRead

theorem eq_iff_element_eq : coordinates = otherCoordinates ↔ element = other := by
  constructor
  · intro equal
    subst equal
    exact element_unique read otherRead
  · intro equal
    subst equal
    rw [read] at otherRead
    exact Option.some.inj otherRead

/-- The elements with one x coordinate are an element and its negative. -/
theorem x_eq_iff_element_eq_or_neg :
    coordinates.x = otherCoordinates.x ↔ other = element ∨ other = -element := by
  have onCurve : coordinates.OnCurve := onCurve_iff.mpr ⟨element, read⟩
  have otherOnCurve : otherCoordinates.OnCurve := onCurve_iff.mpr ⟨other, otherRead⟩
  have affine := toPoint_eq_ofGroup onCurve read
  have otherAffine := toPoint_eq_ofGroup otherOnCurve otherRead
  constructor
  · intro sameX
    rcases coordinates with ⟨x, y⟩
    rcases otherCoordinates with ⟨_, otherY⟩
    cases sameX
    exact eq_or_eq_neg_of_ofGroup affine.symm otherAffine.symm
  · intro related
    rcases related with equal | opposite
    · rw [(eq_iff_element_eq read otherRead).mpr equal.symm]
    · rw [opposite, Point.ofGroup_neg, ← affine] at otherRead
      simp only [toPoint, Point.negate, ofPoint?, Option.some.injEq] at otherRead
      rw [← otherRead, BitVec.ofNat_toNat, BitVec.setWidth_eq]

end

end Coordinates

/-! ## Scalars -/

theorem groupOrder_le : groupOrder ≤ 2 ^ 256 := by decide

@[simp]
theorem toNat_toWord (scalar : Scalar) : scalar.toWord.toNat = scalar.value :=
  Coordinates.toNat_ofNat_value groupOrder_le scalar

theorem isScalar_toWord {scalar : Scalar} : IsScalar scalar.toWord ↔ scalar ≠ 0 := by
  rw [IsScalar, toNat_toWord, Ne, Residue.eq_zero_iff]
  have := scalar.value_lt
  omega

theorem scalar?_eq_some_iff {word : Word} {scalar : Scalar} :
    scalar? word = some scalar ↔ scalar ≠ 0 ∧ scalar.toWord = word := by
  unfold scalar?
  constructor
  · intro read
    split at read
    case isTrue inRange =>
      cases read
      exact ⟨fun zero => inRange.1.ne' (Residue.eq_zero_iff.mp zero), by simp [Scalar.toWord]⟩
    case isFalse => cases read
  · intro found
    rcases found with ⟨nonzero, rfl⟩
    rw [dif_pos (isScalar_toWord.mpr nonzero)]
    simp only [toNat_toWord]

theorem isScalar_of_scalar? {word : Word} {scalar : Scalar} (read : scalar? word = some scalar) :
    IsScalar word := by
  rcases scalar?_eq_some_iff.mp read with ⟨nonzero, rfl⟩
  exact isScalar_toWord.mpr nonzero

theorem scalar?_toWord {scalar : Scalar} (nonzero : scalar ≠ 0) :
    scalar? scalar.toWord = some scalar :=
  scalar?_eq_some_iff.mpr ⟨nonzero, rfl⟩

theorem scalar?_of_isScalar {word : Word} (inRange : IsScalar word) :
    scalar? word = some ⟨word.toNat, inRange.2⟩ :=
  dif_pos inRange

theorem scalar?_eq_some_iff_value {word : Word} {scalar : Scalar} :
    scalar? word = some scalar ↔ IsScalar word ∧ scalar.value = word.toNat := by
  constructor
  · intro read
    refine ⟨isScalar_of_scalar? read, ?_⟩
    rw [← (scalar?_eq_some_iff.mp read).2, toNat_toWord]
  · intro given
    rcases given with ⟨inRange, equal⟩
    rcases scalar with ⟨_, below⟩
    cases equal
    exact scalar?_of_isScalar inRange

end BitcoinKeys.Secp256k1
