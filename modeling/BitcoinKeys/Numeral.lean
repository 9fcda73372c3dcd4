/-!
# Positional numerals

Digits of a number in a base, most significant digit first. `digits` gives the numeral without
leading zeros, so that zero has no digits, and `value` reads it back. `text` prints a number, and
`readDecimal` reads an unsigned integer that has to fit a number of bits.
-/

namespace BitcoinKeys.Numeral

def value (base : Nat) (digits : List Nat) : Nat :=
  digits.foldl (fun total digit => base * total + digit) 0

/-- The digits of a number, with no leading zero. -/
def digits (base : Nat) (large : 1 < base) (number : Nat) : List Nat :=
  if number = 0 then []
  else digits base large (number / base) ++ [number % base]
termination_by number
decreasing_by exact Nat.div_lt_self (by omega) large

@[simp]
theorem digits_zero (base : Nat) (large : 1 < base) : digits base large 0 = [] := by
  simp [digits]

theorem value_append_digit (base digit : Nat) (front : List Nat) :
    value base (front ++ [digit]) = base * value base front + digit := by
  simp [value, List.foldl_append]

@[simp]
theorem value_digits (base : Nat) (large : 1 < base) (number : Nat) :
    value base (digits base large number) = number := by
  fun_induction digits base large number with
  | case1 => rfl
  | case2 number positive induction => rw [value_append_digit, induction, Nat.div_add_mod]

theorem digits_lt (base : Nat) (large : 1 < base) (number : Nat) :
    ∀ digit ∈ digits base large number, digit < base := by
  fun_induction digits base large number with
  | case1 => simp
  | case2 number positive induction =>
      intro digit member
      rcases List.mem_append.mp member with member | member
      · exact induction digit member
      · exact List.mem_singleton.mp member ▸ Nat.mod_lt _ (by omega)

/-- The printed number: its digits, or a single `0`. -/
def text (base : Nat) (large : 1 < base) (number : Nat) : String :=
  String.ofList (match digits base large number with
    | [] => ['0']
    | digits => digits.map Nat.digitChar)

def decimal (number : Nat) : String :=
  text 10 (by decide) number

def hexadecimal (number : Nat) : String :=
  text 16 (by decide) number

example : decimal 10200 = "10200" := by decide +kernel

example : decimal 0 = "0" := by decide +kernel

/-- Why a text is not an unsigned integer of the wanted width. -/
inductive ReadError where
  | empty
  | invalidDigit
  | tooLarge
  deriving DecidableEq, Repr

def ReadError.message : ReadError → String
  | .empty => "cannot parse integer from empty string"
  | .invalidDigit => "invalid digit found in string"
  | .tooLarge => "number too large to fit in target type"

def decimalDigit? (char : Char) : Option Nat :=
  if '0' ≤ char ∧ char ≤ '9' then some (char.toNat - '0'.toNat) else none

/-- Reads decimal digits from the left until one is wrong or the value reaches the limit. -/
def readDigits (limit : Nat) : (total : Nat) → List Char → Except ReadError Nat
  | total, [] => .ok total
  | total, char :: rest =>
      match decimalDigit? char with
      | none => .error .invalidDigit
      | some digit =>
          if 10 * total + digit < limit then readDigits limit (10 * total + digit) rest
          else .error .tooLarge

/-- Reads a decimal integer below the limit: an optional plus sign, then at least one digit. -/
def readDecimal (limit : Nat) (text : String) : Except ReadError Nat :=
  match text.toList with
  | [] => .error .empty
  | ['+'] => .error .invalidDigit
  | '+' :: digits => readDigits limit 0 digits
  | digits => readDigits limit 0 digits

example : readDecimal 256 "+0255" = .ok 255 := rfl

example : readDecimal 256 "256" = .error .tooLarge := rfl

end BitcoinKeys.Numeral
