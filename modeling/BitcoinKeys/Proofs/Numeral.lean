import BitcoinKeys.Numeral
import Mathlib.Algebra.Group.Nat.Defs
import Mathlib.Data.List.Induction

/-! # Leading zeros and first digits

A list of digits consists of its leading zeros and of the numeral of its value, so that it is
determined by the number of its leading zeros and by its value, or by its length and its value. The
powers of the base that a number stands between tell the length of its numeral and its first
digit. -/

namespace BitcoinKeys.Numeral

variable {base : Nat}

@[simp]
theorem value_zero_cons (rest : List Nat) : value base (0 :: rest) = value base rest := rfl

theorem value_append (front back : List Nat) :
    value base (front ++ back) = value base front * base ^ back.length + value base back := by
  induction back using List.reverseRecOn with
  | nil =>
      rw [List.append_nil, List.length_nil, Nat.pow_zero, Nat.mul_one]
      rfl
  | append_singleton back digit induction =>
      rw [← List.append_assoc, value_append_digit, value_append_digit, induction,
        List.length_append, List.length_singleton, Nat.pow_succ', Nat.mul_add, Nat.add_assoc,
        Nat.mul_left_comm]

@[simp]
theorem value_replicate_append (count : Nat) (numeral : List Nat) :
    value base (List.replicate count 0 ++ numeral) = value base numeral := by
  induction count with
  | zero => rfl
  | succ count induction =>
      rw [List.replicate_succ, List.cons_append, value_zero_cons, induction]

theorem head?_digits (large : 1 < base) (number : Nat) :
    (digits base large number).head? ≠ some 0 := by
  fun_induction digits base large number with
  | case1 =>
      intro zero
      cases zero
  | case2 number positive induction =>
      cases front : digits base large (number / base) with
      | nil =>
          have quotient : number / base = 0 := by
            rw [← value_digits base large (number / base), front]
            rfl
          have remainder : number % base = number := by
            have division := Nat.div_add_mod number base
            rwa [quotient, Nat.mul_zero, Nat.zero_add] at division
          intro zero
          exact positive (remainder.symm.trans (Option.some.inj zero))
      | cons digit rest =>
          rw [front] at induction
          exact induction

/-- A numeral without leading zeros is the numeral of its value. -/
theorem digits_value (large : 1 < base) {numeral : List Nat}
    (small : ∀ digit ∈ numeral, digit < base) (significant : numeral.head? ≠ some 0) :
    digits base large (value base numeral) = numeral := by
  -- the numeral is taken apart from its end, as `digits` makes it
  induction numeral using List.reverseRecOn with
  | nil => exact digits_zero base large
  | append_singleton front digit induction =>
      have digitSmall : digit < base := small digit (by simp)
      have frontSmall : ∀ digit ∈ front, digit < base := fun digit member =>
        small digit (List.mem_append_left _ member)
      have frontDigits : digits base large (value base front) = front := by
        apply induction frontSmall
        intro zero
        apply significant
        rw [List.head?_append, zero]
        rfl
      have positive : value base (front ++ [digit]) ≠ 0 := by
        rw [value_append_digit]
        intro zero
        rcases Nat.add_eq_zero_iff.mp zero with ⟨product, digitZero⟩
        have frontZero : value base front = 0 := by
          rcases Nat.mul_eq_zero.mp product with baseZero | frontZero
          · omega
          · exact frontZero
        rw [frontZero, digits_zero] at frontDigits
        rw [← frontDigits, digitZero] at significant
        exact significant rfl
      have quotient : value base (front ++ [digit]) / base = value base front := by
        rw [value_append_digit, Nat.mul_add_div (by omega), Nat.div_eq_of_lt digitSmall,
          Nat.add_zero]
      have remainder : value base (front ++ [digit]) % base = digit := by
        rw [value_append_digit, Nat.mul_add_mod, Nat.mod_eq_of_lt digitSmall]
      rw [digits, if_neg positive, quotient, remainder, frontDigits]

theorem replicate_append_digits_value (large : 1 < base) {numeral : List Nat}
    (small : ∀ digit ∈ numeral, digit < base) :
    List.replicate (numeral.takeWhile (· == 0)).length 0 ++
      digits base large (value base numeral) = numeral := by
  induction numeral with
  | nil => exact digits_zero base large
  | cons digit rest induction =>
      by_cases zero : digit = 0
      · subst zero
        have restSmall := fun digit member => small digit (List.mem_cons_of_mem 0 member)
        rw [List.takeWhile_cons_of_pos rfl, List.length_cons, List.replicate_succ,
          List.cons_append, value_zero_cons, induction restSmall]
      · have significant : (digit :: rest).head? ≠ some 0 := by
          intro equal
          exact zero (Option.some.inj equal)
        rw [List.takeWhile_cons_of_neg (by simpa using zero), digits_value large small significant]
        rfl

theorem length_takeWhile_replicate_append (count : Nat) {numeral : List Nat}
    (significant : numeral.head? ≠ some 0) :
    ((List.replicate count 0 ++ numeral).takeWhile (· == 0)).length = count := by
  induction count with
  | zero =>
      cases numeral with
      | nil => rfl
      | cons digit rest =>
          have nonzero : digit ≠ 0 := by
            intro zero
            apply significant
            rw [zero]
            rfl
          rw [List.replicate_zero, List.nil_append,
            List.takeWhile_cons_of_neg (by simpa using nonzero)]
          rfl
  | succ count induction =>
      rw [List.replicate_succ, List.cons_append, List.takeWhile_cons_of_pos rfl, List.length_cons,
        induction]

/-- A list of digits is determined by its length and its value. -/
theorem eq_of_value_eq (large : 1 < base) {left right : List Nat}
    (leftSmall : ∀ digit ∈ left, digit < base) (rightSmall : ∀ digit ∈ right, digit < base)
    (length : left.length = right.length) (value : value base left = value base right) :
    left = right := by
  have leftForm := replicate_append_digits_value large leftSmall
  have rightForm := replicate_append_digits_value large rightSmall
  have zeros : (left.takeWhile (· == 0)).length = (right.takeWhile (· == 0)).length := by
    rw [← leftForm, ← rightForm, value, List.length_append, List.length_append,
      List.length_replicate, List.length_replicate] at length
    exact Nat.add_right_cancel length
  rw [← leftForm, ← rightForm, zeros, value]

/-! ## Lengths and first digits -/

theorem length_digits_le (large : 1 < base) {number count : Nat} (below : number < base ^ count) :
    (digits base large number).length ≤ count := by
  induction count generalizing number with
  | zero =>
      have zero : number = 0 := Nat.lt_one_iff.mp below
      rw [zero, digits_zero]
      exact Nat.le_refl 0
  | succ count induction =>
      by_cases zero : number = 0
      · rw [zero, digits_zero]
        exact Nat.zero_le _
      · have quotient : number / base < base ^ count := by
          rw [Nat.pow_succ'] at below
          exact Nat.div_lt_of_lt_mul below
        rw [digits, if_neg zero, List.length_append]
        exact Nat.succ_le_succ (induction quotient)

/-- A number from one multiple of a power of the base up to the next has the factor as its first
digit, and as many digits behind it as the exponent says. -/
theorem exists_digits_eq_cons (large : 1 < base) {number lead count : Nat} (positive : 0 < lead)
    (small : lead < base) (lower : lead * base ^ count ≤ number)
    (upper : number < (lead + 1) * base ^ count) :
    ∃ rest, digits base large number = lead :: rest ∧ rest.length = count := by
  induction count generalizing number with
  | zero =>
      rw [Nat.pow_zero, Nat.mul_one] at lower upper
      have equal : number = lead := Nat.le_antisymm (Nat.le_of_lt_succ upper) lower
      rw [equal, digits, if_neg (Nat.ne_of_gt positive), Nat.div_eq_of_lt small,
        Nat.mod_eq_of_lt small, digits_zero]
      exact ⟨[], rfl, rfl⟩
  | succ count induction =>
      rw [Nat.pow_succ, ← Nat.mul_assoc] at lower upper
      have quotientLower : lead * base ^ count ≤ number / base :=
        (Nat.le_div_iff_mul_le (by omega)).mpr lower
      have quotientUpper : number / base < (lead + 1) * base ^ count :=
        (Nat.div_lt_iff_lt_mul (by omega)).mpr upper
      rcases induction quotientLower quotientUpper with ⟨rest, front, length⟩
      have nonzero : number ≠ 0 := by
        intro zero
        rw [zero, Nat.zero_div, digits_zero] at front
        cases front
      refine ⟨rest ++ [number % base], ?_, ?_⟩
      · rw [digits, if_neg nonzero, front, List.cons_append]
      · rw [List.length_append, length, List.length_singleton]

end BitcoinKeys.Numeral
