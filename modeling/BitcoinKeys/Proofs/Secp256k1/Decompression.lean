import BitcoinKeys.Proofs.Secp256k1.Coordinates
import Mathlib.Data.Nat.ModEq

/-! # Decompression of words

Above an x coordinate stand two words for y, one of each parity, or none. So coordinates on the
curve are determined by x and the parity of y, and decompression finds them from these: it gives the
two words that stand above x, and nothing exactly if none does. -/

namespace BitcoinKeys.Secp256k1

/-- The numbers solve the equation of the curve, and none of them could be reduced. -/
def IsPoint (x y : Nat) : Prop :=
  x < fieldPrime ∧ y < fieldPrime ∧ y ^ 2 ≡ x ^ 3 + 7 [MOD fieldPrime]

/-- The number could not be reduced, and what the equation of the curve asks for is a square. -/
def IsAbscissa (x : Nat) : Prop :=
  x < fieldPrime ∧ ∃ y, y ^ 2 ≡ x ^ 3 + 7 [MOD fieldPrime]

namespace Coordinates

theorem onCurve_iff_isPoint {coordinates : Coordinates} :
    coordinates.OnCurve ↔ IsPoint coordinates.x.toNat coordinates.y.toNat := by
  rw [IsPoint, Nat.pow_two, Nat.pow_succ, Nat.pow_two]
  exact Iff.rfl

theorem exists_onCurve_iff {x : Word} : (∃ y, OnCurve ⟨x, y⟩) ↔ IsAbscissa x.toNat := by
  simp only [onCurve_iff_isPoint]
  constructor
  · intro above
    rcases above with ⟨y, xBelow, _, equation⟩
    exact ⟨xBelow, y.toNat, equation⟩
  · intro square
    rcases square with ⟨xBelow, y, equation⟩
    -- any root can be reduced to a word
    have yBelow : y % fieldPrime < fieldPrime := Nat.mod_lt _ (by decide)
    have word : (BitVec.ofNat 256 (y % fieldPrime)).toNat = y % fieldPrime :=
      toNat_ofNat_value fieldPrime_le ⟨_, yBelow⟩
    refine ⟨BitVec.ofNat 256 (y % fieldPrime), xBelow, ?_, ?_⟩
    · rw [word]
      exact yBelow
    · rw [word]
      exact ((Nat.mod_modEq y fieldPrime).pow 2).trans equation

theorem isOdd_eq (coordinates : Coordinates) :
    coordinates.isOdd = (coordinates.y.toNat % 2 == 1) := by
  rw [isOdd, BitVec.getLsbD, Nat.testBit_zero]
  rfl

theorem eq_of_same_parity {left right : Coordinates} (leftOnCurve : left.OnCurve)
    (rightOnCurve : right.OnCurve) (sameX : left.x = right.x)
    (parity : left.isOdd = right.isOdd) : left = right := by
  rcases left with ⟨x, leftY⟩
  rcases right with ⟨_, rightY⟩
  cases sameX
  rw [isOdd_eq, isOdd_eq] at parity
  have sameY := eq_of_isOdd_eq (onCurve_toPoint leftOnCurve) (onCurve_toPoint rightOnCurve) parity
  have words : leftY = rightY := BitVec.eq_of_toNat_eq (congrArg Residue.value sameY)
  rw [words]

/-- Different points with one x coordinate have compressed forms that differ in the tag alone. -/
theorem compressed_of_same_x {left right : Coordinates} (leftOnCurve : left.OnCurve)
    (rightOnCurve : right.OnCurve) (different : left ≠ right) (sameX : left.x = right.x) :
    left.compressed = compressedTag left.isOdd :: left.x.toBytes ∧
      right.compressed = compressedTag (!left.isOdd) :: left.x.toBytes := by
  have parity : right.isOdd = !left.isOdd := by
    apply Bool.eq_not_of_ne
    intro equal
    exact different (eq_of_same_parity leftOnCurve rightOnCurve sameX equal.symm)
  rw [compressed, compressed, parity, sameX]
  exact ⟨rfl, rfl⟩

/-- A y coordinate above a word, as a word. -/
theorem onCurve_ofNat {x : Word} {below : x.toNat < fieldPrime} {y : Coordinate}
    (onCurve : (Point.affine ⟨x.toNat, below⟩ y).OnCurve) :
    OnCurve ⟨x, BitVec.ofNat 256 y.value⟩ ∧ isOdd ⟨x, BitVec.ofNat 256 y.value⟩ = y.isOdd := by
  have read : ofPoint? (.affine ⟨x.toNat, below⟩ y) = some ⟨x, BitVec.ofNat 256 y.value⟩ := by
    simp [ofPoint?]
  rcases toPoint_of_ofPoint? onCurve read with ⟨wordsOnCurve, _⟩
  refine ⟨wordsOnCurve, ?_⟩
  rw [isOdd_eq, toNat_ofNat_value fieldPrime_le]
  rfl

end Coordinates

/-- The words that are found above x are on the curve, and their parities are as announced. -/
theorem onCurve_of_ordinates? {x even odd : Word} (found : ordinates? x = some (even, odd)) :
    (Coordinates.OnCurve ⟨x, even⟩ ∧ Coordinates.isOdd ⟨x, even⟩ = false) ∧
      Coordinates.OnCurve ⟨x, odd⟩ ∧ Coordinates.isOdd ⟨x, odd⟩ = true := by
  unfold ordinates? at found
  split at found
  case isTrue below =>
    rcases Option.map_eq_some_iff.mp found with ⟨y, ordinate, equal⟩
    cases equal
    rcases ordinate?_eq_some_iff.mp ordinate with ⟨onCurve, parity⟩
    have value : fieldPrime - y.value = (-y).value :=
      (Residue.value_neg (Point.ordinate_ne_zero onCurve)).symm
    have otherParity : (-y).isOdd = true := by
      rw [isOdd_neg_ordinate onCurve, parity]
      rfl
    rw [value, ← parity, ← otherParity]
    exact ⟨Coordinates.onCurve_ofNat onCurve, Coordinates.onCurve_ofNat (Point.onCurve_neg onCurve)⟩
  case isFalse => cases found

theorem toNat_add_of_ordinates? {x even odd : Word} (found : ordinates? x = some (even, odd)) :
    even.toNat + odd.toNat = fieldPrime := by
  unfold ordinates? at found
  split at found
  case isTrue below =>
    rcases Option.map_eq_some_iff.mp found with ⟨y, _, equal⟩
    cases equal
    have small : fieldPrime < 2 ^ 256 := by decide
    have bound := y.value_lt
    rw [Coordinates.toNat_ofNat_value small.le, BitVec.toNat_ofNat, Nat.mod_eq_of_lt (by omega)]
    omega
  case isFalse => cases found

theorem exists_ordinates? {coordinates : Coordinates} (onCurve : coordinates.OnCurve) :
    ∃ even odd, ordinates? coordinates.x = some (even, odd) := by
  have equation := Coordinates.onCurve_toPoint onCurve
  rcases exists_squareRoot? equation with ⟨root, square⟩
  rw [ordinates?, dif_pos onCurve.1, ordinate?, square]
  exact ⟨_, _, rfl⟩

/-- The words that are found above x are all that stand above it. -/
theorem onCurve_iff_of_ordinates? {x even odd : Word} (found : ordinates? x = some (even, odd))
    (y : Word) : Coordinates.OnCurve ⟨x, y⟩ ↔ y = even ∨ y = odd := by
  rcases onCurve_of_ordinates? found with ⟨⟨evenOnCurve, evenParity⟩, oddOnCurve, oddParity⟩
  constructor
  · intro onCurve
    cases parity : Coordinates.isOdd ⟨x, y⟩ with
    | false =>
        left
        have equal := Coordinates.eq_of_same_parity onCurve evenOnCurve rfl
          (parity.trans evenParity.symm)
        exact congrArg Coordinates.y equal
    | true =>
        right
        have equal := Coordinates.eq_of_same_parity onCurve oddOnCurve rfl
          (parity.trans oddParity.symm)
        exact congrArg Coordinates.y equal
  · intro equal
    rcases equal with rfl | rfl
    · exact evenOnCurve
    · exact oddOnCurve

theorem ordinates?_eq_none_iff {x : Word} :
    ordinates? x = none ↔ ¬ ∃ y, Coordinates.OnCurve ⟨x, y⟩ := by
  constructor
  · intro absent above
    rcases above with ⟨y, onCurve⟩
    rcases exists_ordinates? onCurve with ⟨even, odd, found⟩
    rw [absent] at found
    cases found
  · intro nothing
    cases found : ordinates? x with
    | none => rfl
    | some pair =>
        rcases pair with ⟨even, odd⟩
        exact absurd ⟨even, (onCurve_of_ordinates? found).1.1⟩ nothing

/-- Above an x coordinate stands a point of either parity. -/
theorem exists_onCurve_of_parity_iff {x : Word} (odd : Bool) :
    (∃ y, Coordinates.OnCurve ⟨x, y⟩ ∧ Coordinates.isOdd ⟨x, y⟩ = odd) ↔ IsAbscissa x.toNat := by
  rw [← Coordinates.exists_onCurve_iff]
  constructor
  · intro above
    rcases above with ⟨y, onCurve, _⟩
    exact ⟨y, onCurve⟩
  · intro above
    rcases above with ⟨y, onCurve⟩
    rcases exists_ordinates? onCurve with ⟨evenY, oddY, found⟩
    rcases onCurve_of_ordinates? found with ⟨evenAbove, oddAbove⟩
    cases odd with
    | false => exact ⟨evenY, evenAbove⟩
    | true => exact ⟨oddY, oddAbove⟩

/-- Decompression agrees with validation: the words that are on the curve with x are the two that
are found above x, an even one and an odd one that add up to the field prime. None are found exactly
if x is at or above the field prime, or no number squares to what the equation asks for. -/
theorem decompression_agrees_with_validation (x : Word) :
    (∀ y, Coordinates.OnCurve ⟨x, y⟩ ↔
      ∃ even odd, ordinates? x = some (even, odd) ∧ (y = even ∨ y = odd)) ∧
    (∀ even odd, ordinates? x = some (even, odd) →
      even.toNat % 2 = 0 ∧ odd.toNat % 2 = 1 ∧ even.toNat + odd.toNat = fieldPrime ∧
        even.toNat < fieldPrime ∧ odd.toNat < fieldPrime) ∧
    (ordinates? x = none ↔
      fieldPrime ≤ x.toNat ∨ ¬ ∃ y, y ^ 2 ≡ x.toNat ^ 3 + 7 [MOD fieldPrime]) := by
  refine ⟨?_, ?_, ?_⟩
  · intro y
    constructor
    · intro onCurve
      rcases exists_ordinates? onCurve with ⟨even, odd, found⟩
      exact ⟨even, odd, found, (onCurve_iff_of_ordinates? found y).mp onCurve⟩
    · intro listed
      rcases listed with ⟨even, odd, found, equal⟩
      exact (onCurve_iff_of_ordinates? found y).mpr equal
  · intro even odd found
    rcases onCurve_of_ordinates? found with ⟨⟨evenOnCurve, evenParity⟩, oddOnCurve, oddParity⟩
    rw [Coordinates.isOdd_eq] at evenParity oddParity
    refine ⟨?_, beq_iff_eq.mp oddParity, toNat_add_of_ordinates? found, evenOnCurve.2.1,
      oddOnCurve.2.1⟩
    exact Nat.mod_two_ne_one.mp (beq_eq_false_iff_ne.mp evenParity)
  · rw [ordinates?_eq_none_iff, Coordinates.exists_onCurve_iff, IsAbscissa, not_and_or, Nat.not_lt]

/-- The y coordinate of the base point is the even one above its x coordinate, nothing stands above
5, and nothing above a second form of 1. -/
theorem decompression_agrees_with_validation_run :
    (∃ odd, ordinates? Coordinates.base.x = some (Coordinates.base.y, odd) ∧
      Coordinates.base.y.toNat + odd.toNat = fieldPrime) ∧
    (¬ ∃ y, y ^ 2 ≡ 5 ^ 3 + 7 [MOD fieldPrime]) ∧
    ordinates? (BitVec.ofNat 256 (fieldPrime + 1)) = none := by
  refine ⟨?_, ?_, ?_⟩
  · rcases decompression_agrees_with_validation Coordinates.base.x with ⟨above, parities, _⟩
    rcases (above Coordinates.base.y).mp (by decide) with ⟨even, odd, found, equal⟩
    rcases parities even odd found with ⟨_, oddParity, sum, _⟩
    have different : Coordinates.base.y ≠ odd := by
      intro same
      rw [← same] at oddParity
      exact absurd oddParity (by decide)
    rw [equal.resolve_right different]
    exact ⟨odd, found, sum⟩
  · have nothing : ordinates? 5 = none := by decide +kernel
    have cause := (decompression_agrees_with_validation 5).2.2.mp nothing
    exact cause.resolve_left (by decide)
  · apply (decompression_agrees_with_validation _).2.2.mpr
    exact .inl (by decide)

end BitcoinKeys.Secp256k1
