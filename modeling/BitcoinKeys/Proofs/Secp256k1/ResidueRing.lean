import BitcoinKeys.Secp256k1.Residue
import Mathlib.Algebra.Field.ZMod
import Mathlib.Data.ZMod.Basic

/-! # Residues as a ring

Residues stand for the elements of `ZMod`. The operations are those of the ring, powers are its
powers, and Euclid's algorithm gives the inverse of the field where the modulus is prime.
-/

namespace BitcoinKeys.Residue

variable {modulus : Nat}

def toZMod (residue : Residue modulus) : ZMod modulus :=
  (residue.value : ZMod modulus)

theorem value_injective : Function.Injective (@value modulus) := by
  intro left right equal
  cases left
  cases right
  cases equal
  rfl

theorem toZMod_injective : Function.Injective (@toZMod modulus) := by
  intro left right equal
  have congruent := (ZMod.natCast_eq_natCast_iff' left.value right.value modulus).mp equal
  rw [Nat.mod_eq_of_lt left.value_lt, Nat.mod_eq_of_lt right.value_lt] at congruent
  exact value_injective congruent

theorem toZMod_inj {left right : Residue modulus} :
    left.toZMod = right.toZMod ↔ left = right :=
  toZMod_injective.eq_iff

/-- Euclid's algorithm keeps both remainders multiples of the element by their factors, up to the
greatest common divisor. -/
theorem euclid_mul (element : ZMod modulus) (larger smaller : Nat)
    (largerFactor smallerFactor : Int)
    (largerMultiple : (larger : ZMod modulus) = largerFactor * element)
    (smallerMultiple : (smaller : ZMod modulus) = smallerFactor * element) :
    (euclid larger smaller largerFactor smallerFactor : ZMod modulus) * element =
      (Nat.gcd larger smaller : ZMod modulus) := by
  fun_induction euclid larger smaller largerFactor smallerFactor with
  | case1 => rw [Nat.gcd_zero_right, largerMultiple]
  | case2 larger smaller largerFactor smallerFactor positive induction =>
      rw [Nat.gcd_comm, Nat.gcd_rec, Nat.gcd_comm]
      refine induction smallerMultiple ?_
      have division := congrArg (Nat.cast (R := ZMod modulus)) (Nat.mod_add_div larger smaller)
      rw [Nat.cast_add, Nat.cast_mul] at division
      rw [Int.cast_sub, Int.cast_mul, Int.cast_natCast, sub_mul, ← largerMultiple, mul_assoc,
        ← smallerMultiple, ← division, mul_comm (smaller : ZMod modulus), add_sub_cancel_right]

variable [Modulus modulus]

@[simp]
theorem toZMod_reduce (number : Nat) : (reduce modulus number).toZMod = (number : ZMod modulus) :=
  ZMod.natCast_mod number modulus

def ofZMod (element : ZMod modulus) : Residue modulus :=
  reduce modulus element.val

@[simp]
theorem toZMod_ofZMod (element : ZMod modulus) : (ofZMod element).toZMod = element := by
  have : NeZero modulus := ⟨Modulus.positive.ne'⟩
  rw [ofZMod, toZMod_reduce, ZMod.natCast_val, ZMod.cast_id]

@[simp]
theorem ofZMod_toZMod (residue : Residue modulus) : ofZMod residue.toZMod = residue :=
  toZMod_injective (toZMod_ofZMod residue.toZMod)

theorem value_ofZMod (element : ZMod modulus) : (ofZMod element).value = element.val := by
  have : NeZero modulus := ⟨Modulus.positive.ne'⟩
  exact Nat.mod_eq_of_lt element.val_lt

theorem ofZMod_eq_iff {element : ZMod modulus} {residue : Residue modulus} :
    ofZMod element = residue ↔ element = residue.toZMod := by
  rw [← toZMod_inj, toZMod_ofZMod]

instance : Finite (Residue modulus) := by
  have : NeZero modulus := ⟨Modulus.positive.ne'⟩
  exact Finite.of_injective toZMod toZMod_injective

@[simp]
theorem toZMod_ofNat (number : Nat) :
    toZMod (no_index (OfNat.ofNat number) : Residue modulus) = (OfNat.ofNat number : Nat) :=
  toZMod_reduce number

@[simp]
theorem toZMod_add (left right : Residue modulus) :
    (left + right).toZMod = left.toZMod + right.toZMod := by
  change (reduce modulus (left.value + right.value)).toZMod = _
  rw [toZMod_reduce, Nat.cast_add, toZMod, toZMod]

@[simp]
theorem toZMod_neg (residue : Residue modulus) : (-residue).toZMod = -residue.toZMod := by
  change (reduce modulus (modulus - residue.value)).toZMod = _
  rw [toZMod_reduce, Nat.cast_sub residue.value_lt.le, ZMod.natCast_self, zero_sub, toZMod]

@[simp]
theorem toZMod_sub (left right : Residue modulus) :
    (left - right).toZMod = left.toZMod - right.toZMod := by
  change (reduce modulus (left.value + (modulus - right.value))).toZMod = _
  rw [toZMod_reduce, Nat.cast_add, Nat.cast_sub right.value_lt.le, ZMod.natCast_self, zero_sub,
    ← sub_eq_add_neg, toZMod, toZMod]

@[simp]
theorem toZMod_mul (left right : Residue modulus) :
    (left * right).toZMod = left.toZMod * right.toZMod := by
  change (reduce modulus (left.value * right.value)).toZMod = _
  rw [toZMod_reduce, Nat.cast_mul, toZMod, toZMod]

theorem toZMod_eq_zero {residue : Residue modulus} : residue.toZMod = 0 ↔ residue = 0 := by
  rw [← toZMod_inj, toZMod_ofNat, Nat.cast_zero]

theorem eq_zero_iff {residue : Residue modulus} : residue = 0 ↔ residue.value = 0 := by
  rw [← toZMod_eq_zero, toZMod, ZMod.natCast_eq_zero_iff]
  constructor
  · exact fun divides => Nat.eq_zero_of_dvd_of_lt divides residue.value_lt
  · intro zero
    rw [zero]
    exact dvd_zero modulus

/-! ## Powers and inverses -/

@[simp]
theorem toZMod_power (base : Residue modulus) (exponent : Nat) :
    (base.power exponent).toZMod = base.toZMod ^ exponent := by
  fun_induction power base exponent with
  | case1 => simp
  | case2 base exponent positive square odd induction =>
      have split : 2 * (exponent / 2) + 1 = exponent := by omega
      rw [toZMod_mul, induction, toZMod_mul, ← pow_two, ← pow_mul, ← pow_succ', split]
  | case3 base exponent positive square even induction =>
      have split : 2 * (exponent / 2) = exponent := by omega
      rw [induction, toZMod_mul, ← pow_two, ← pow_mul, split]

theorem toZMod_inverse_mul [prime : Fact modulus.Prime] {residue : Residue modulus}
    (nonzero : residue ≠ 0) : residue.inverse.toZMod * residue.toZMod = 1 := by
  have coprime : Nat.gcd modulus residue.value = 1 :=
    prime.out.coprime_iff_not_dvd.mpr fun divides =>
      nonzero (eq_zero_iff.mpr (Nat.eq_zero_of_dvd_of_lt divides residue.value_lt))
  have positive : (modulus : Int) ≠ 0 := by exact_mod_cast prime.out.ne_zero
  have factor := euclid_mul residue.toZMod modulus residue.value 0 1 (by simp) (by simp [toZMod])
  have cast : residue.inverse.toZMod = (euclid modulus residue.value 0 1 : ZMod modulus) := by
    rw [inverse, toZMod_reduce, ← Int.cast_natCast,
      Int.toNat_of_nonneg (Int.emod_nonneg _ positive), ZMod.intCast_mod]
  rw [cast, factor, coprime, Nat.cast_one]

/-- Zero has the inverse zero, as in `ZMod`. -/
@[simp]
theorem toZMod_inverse [Fact modulus.Prime] (residue : Residue modulus) :
    residue.inverse.toZMod = residue.toZMod⁻¹ := by
  by_cases zero : residue = 0
  · have value : residue.value = 0 := eq_zero_iff.mp zero
    have inverseZero : residue.inverse = 0 := by
      rw [inverse, value, euclid, if_pos rfl]
      simp [← toZMod_inj]
    rw [inverseZero, zero, toZMod_ofNat, Nat.cast_zero, inv_zero]
  · exact eq_inv_of_mul_eq_one_left (toZMod_inverse_mul zero)

/-! ## Signs and parities -/

theorem neg_ne_zero {residue : Residue modulus} (nonzero : residue ≠ 0) : -residue ≠ 0 := by
  rw [Ne, ← toZMod_eq_zero, toZMod_neg, neg_eq_zero, toZMod_eq_zero]
  exact nonzero

theorem value_neg {residue : Residue modulus} (nonzero : residue ≠ 0) :
    (-residue).value = modulus - residue.value := by
  have positive : residue.value ≠ 0 := fun zero => nonzero (eq_zero_iff.mpr zero)
  have small := residue.value_lt
  change (modulus - residue.value) % modulus = _
  exact Nat.mod_eq_of_lt (by omega)

/-- Modulo an odd number, a residue other than zero and its negative have different parities. -/
theorem isOdd_neg (odd : modulus % 2 = 1) {residue : Residue modulus} (nonzero : residue ≠ 0) :
    (-residue).isOdd = !residue.isOdd := by
  have bound := residue.value_lt
  rw [isOdd, isOdd, value_neg nonzero]
  rcases Nat.mod_two_eq_zero_or_one residue.value with parity | parity
  · have other : (modulus - residue.value) % 2 = 1 := by omega
    rw [parity, other]
    rfl
  · have other : (modulus - residue.value) % 2 = 0 := by omega
    rw [parity, other]
    rfl

end BitcoinKeys.Residue
