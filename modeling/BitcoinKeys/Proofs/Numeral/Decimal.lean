import BitcoinKeys.Proofs.Numeral

/-! # Decimal texts

A text writes a number in decimal if it is made of digits with that value, the first of which may be
zeros, and of a plus sign in front of them or none. Reading finds the number that a text writes, if
it is below the limit, and fails otherwise. -/

namespace BitcoinKeys.Numeral

/-- Whether characters are one or more decimal digits with this value. -/
def IsDecimal (chars : List Char) (number : Nat) : Prop :=
  ∃ digits : List Nat, digits ≠ [] ∧ (∀ digit ∈ digits, digit < 10) ∧
    value 10 digits = number ∧ chars = digits.map Nat.digitChar

/-- Whether a text is a decimal number, behind an optional plus sign. -/
def WritesDecimal (text : String) (number : Nat) : Prop :=
  IsDecimal text.toList number ∨ ∃ chars, text.toList = '+' :: chars ∧ IsDecimal chars number

/-! ## Digits -/

theorem decimalDigit?_eq_some_iff {char : Char} {digit : Nat} :
    decimalDigit? char = some digit ↔ digit < 10 ∧ char = Nat.digitChar digit := by
  unfold decimalDigit?
  constructor
  · intro found
    split at found
    case isTrue inside =>
      cases found
      have lower : 48 ≤ char.toNat := inside.1
      have upper : char.toNat ≤ 57 := inside.2
      have small : char.toNat - '0'.toNat < 10 := by
        change char.toNat - 48 < 10
        omega
      refine ⟨small, Char.toNat_inj.mp ?_⟩
      rw [Nat.toNat_digitChar_of_lt_ten small]
      change char.toNat = 48 + (char.toNat - 48)
      omega
    case isFalse => cases found
  · intro written
    have every : ∀ index : Fin 10,
        decimalDigit? (Nat.digitChar index.val) = some index.val := by
      decide
    rw [written.2]
    exact every ⟨digit, written.1⟩

theorem not_isDecimal_nil (number : Nat) : ¬ IsDecimal [] number := by
  intro written
  rcases written with ⟨digits, nonempty, _, _, empty⟩
  exact nonempty (List.map_eq_nil_iff.mp empty.symm)

theorem not_isDecimal_plus (rest : List Char) (number : Nat) :
    ¬ IsDecimal ('+' :: rest) number := by
  intro written
  rcases written with ⟨digits, _, small, _, equal⟩
  cases digits with
  | nil => cases equal
  | cons digit others =>
      rw [List.map_cons, List.cons.injEq] at equal
      have read : decimalDigit? '+' = some digit :=
        decimalDigit?_eq_some_iff.mpr ⟨small digit List.mem_cons_self, equal.1⟩
      cases read

/-! ## Reading -/

section

variable {limit number : Nat}

theorem le_foldl_digits (digits : List Nat) (total : Nat) :
    total ≤ digits.foldl (fun total digit => 10 * total + digit) total := by
  induction digits generalizing total with
  | nil => exact Nat.le_refl total
  | cons digit rest induction =>
      have step := induction (10 * total + digit)
      rw [List.foldl_cons]
      omega

/-- The value only grows while digits are read, so that it is below the limit at every digit if it
is in the end. -/
theorem readDigits_eq_ok_iff {total : Nat} {chars : List Char} (small : total < limit) :
    readDigits limit total chars = .ok number ↔
      ∃ digits : List Nat, (∀ digit ∈ digits, digit < 10) ∧
        digits.foldl (fun total digit => 10 * total + digit) total = number ∧ number < limit ∧
          chars = digits.map Nat.digitChar := by
  induction chars generalizing total with
  | nil =>
      rw [readDigits, Except.ok.injEq]
      constructor
      · intro equal
        exact ⟨[], List.forall_mem_nil _, equal, equal ▸ small, rfl⟩
      · intro written
        rcases written with ⟨digits, _, equal, _, empty⟩
        rw [List.map_eq_nil_iff.mp empty.symm] at equal
        exact equal
  | cons char rest induction =>
      rw [readDigits]
      constructor
      · intro read
        split at read
        case h_1 => cases read
        case h_2 digit found =>
          rcases decimalDigit?_eq_some_iff.mp found with ⟨digitSmall, rfl⟩
          split at read
          case isTrue inside =>
            rcases (induction inside).mp read with ⟨digits, digitsSmall, equal, below, rfl⟩
            exact ⟨digit :: digits, List.forall_mem_cons.mpr ⟨digitSmall, digitsSmall⟩, equal,
              below, rfl⟩
          case isFalse => cases read
      · intro written
        rcases written with ⟨digits, digitsSmall, equal, below, chars⟩
        cases digits with
        | nil => cases chars
        | cons digit others =>
            rw [List.map_cons, List.cons.injEq] at chars
            rw [List.foldl_cons] at equal
            rcases List.forall_mem_cons.mp digitsSmall with ⟨digitSmall, othersSmall⟩
            have found := decimalDigit?_eq_some_iff.mpr ⟨digitSmall, chars.1⟩
            have grown := le_foldl_digits others (10 * total + digit)
            have inside : 10 * total + digit < limit := by omega
            simp only [found, if_pos inside]
            exact (induction inside).mpr ⟨others, othersSmall, equal, below, chars.2⟩

variable (positive : 0 < limit)

include positive

theorem readDigits_zero_eq_ok_iff {chars : List Char} (nonempty : chars ≠ []) :
    readDigits limit 0 chars = .ok number ↔ IsDecimal chars number ∧ number < limit := by
  rw [readDigits_eq_ok_iff positive]
  constructor
  · intro written
    rcases written with ⟨digits, small, equal, below, rfl⟩
    refine ⟨⟨digits, ?_, small, equal, rfl⟩, below⟩
    intro empty
    rw [empty] at nonempty
    exact nonempty rfl
  · intro written
    rcases written with ⟨⟨digits, _, small, equal, chars⟩, below⟩
    exact ⟨digits, small, equal, below, chars⟩

/-- A text is read as a number exactly if it writes the number and the number is below the limit. -/
theorem readDecimal_eq_ok_iff {text : String} :
    readDecimal limit text = .ok number ↔ WritesDecimal text number ∧ number < limit := by
  unfold readDecimal WritesDecimal
  split
  case h_1 empty =>
    rw [empty]
    simp [not_isDecimal_nil]
  case h_2 sign =>
    rw [sign]
    simp [not_isDecimal_plus, not_isDecimal_nil]
  case h_3 chars nonempty signed =>
    rw [signed, readDigits_zero_eq_ok_iff positive nonempty]
    simp [not_isDecimal_plus]
  case h_4 nonempty _ unsigned =>
    have noSign : ¬ ∃ chars, text.toList = '+' :: chars ∧ IsDecimal chars number := by
      intro signed
      rcases signed with ⟨chars, equal, _⟩
      exact unsigned chars equal
    rw [readDigits_zero_eq_ok_iff positive nonempty, or_iff_left noSign]

end

/-! ## Printing -/

theorem toList_decimal_zero : (decimal 0).toList = ['0'] := by
  rw [decimal, text, digits_zero]
  exact String.toList_ofList

/-- A printed number that is not zero has no zero in front. -/
theorem exists_toList_decimal {number : Nat} (nonzero : number ≠ 0) :
    ∃ first others, first ≠ 0 ∧ (∀ digit ∈ first :: others, digit < 10) ∧
      value 10 (first :: others) = number ∧
      (decimal number).toList = Nat.digitChar first :: others.map Nat.digitChar := by
  have small := digits_lt 10 (by decide) number
  have equal := value_digits 10 (by decide) number
  have significant := head?_digits (show 1 < 10 by decide) number
  cases written : digits 10 (by decide) number with
  | nil =>
      rw [written] at equal
      exact absurd equal.symm nonzero
  | cons first others =>
      rw [written] at small equal significant
      refine ⟨first, others, ?_, small, equal, ?_⟩
      · intro zero
        exact significant (congrArg some zero)
      · rw [decimal, text, written]
        exact String.toList_ofList

/-! ## Zero -/

theorem isDecimal_zero_iff {chars : List Char} :
    IsDecimal chars 0 ↔ ∃ count, chars = List.replicate (count + 1) '0' := by
  constructor
  · intro written
    rcases written with ⟨digits, nonempty, small, zero, rfl⟩
    -- a numeral of zero has nothing behind its leading zeros
    have zeros := replicate_append_digits_value (by decide) small
    rw [zero, digits_zero, List.append_nil] at zeros
    have positive : (digits.takeWhile (· == 0)).length ≠ 0 := by
      intro none
      rw [none, List.replicate_zero] at zeros
      exact nonempty zeros.symm
    rcases Nat.exists_eq_succ_of_ne_zero positive with ⟨count, length⟩
    refine ⟨count, ?_⟩
    rw [← zeros, length, List.map_replicate]
    rfl
  · intro zeros
    rcases zeros with ⟨count, rfl⟩
    refine ⟨List.replicate (count + 1) 0, List.cons_ne_nil 0 _, ?_, ?_, ?_⟩
    · intro digit member
      rw [List.eq_of_mem_replicate member]
      decide
    · rw [← List.append_nil (List.replicate (count + 1) 0), value_replicate_append]
      rfl
    · rw [List.map_replicate]
      rfl

/-- Zero is written by one or more zeros, behind an optional plus sign. -/
theorem writesDecimal_zero_iff {text : String} :
    WritesDecimal text 0 ↔
      ∃ count, text.toList = List.replicate (count + 1) '0' ∨
        text.toList = '+' :: List.replicate (count + 1) '0' := by
  simp only [WritesDecimal, isDecimal_zero_iff, exists_or]
  constructor
  · intro written
    rcases written with zeros | ⟨chars, signed, count, rfl⟩
    · exact .inl zeros
    · exact .inr ⟨count, signed⟩
  · intro written
    rcases written with zeros | ⟨count, signed⟩
    · exact .inl zeros
    · exact .inr ⟨_, signed, count, rfl⟩

end BitcoinKeys.Numeral
