import BitcoinKeys.Proofs.Numeral
import BitcoinKeys.Proofs.Text

/-! # Bytes in groups of bits

A text format whose base is a power of two writes the bits of a byte string in groups, with a symbol
for each group, and fills up the last group with zeros. The bits are compared as numbers: a list of
groups has the number of the bytes, times two for every bit that was filled up. A byte string has
one list of groups, and so it is written in one way. -/

namespace BitcoinKeys.Bytes

/-- Whether the values are the bits of the bytes in groups of `width`, most significant bit first,
with fewer zero bits behind them than a group has. -/
structure Grouped (width : Nat) (bytes : Bytes) (values : List Nat) : Prop where
  small : ∀ value ∈ values, value < 2 ^ width
  number : ∃ filling, filling < width ∧ width * values.length = 8 * bytes.length + filling ∧
    Numeral.value (2 ^ width) values = bytes.toNat * 2 ^ filling

/-- Whether the characters write the bits of the bytes, with a symbol of the alphabet for every
`width` of them. -/
def WrittenIn (width : Nat) (alphabet : List Char) (bytes : Bytes) (symbols : List Char) : Prop :=
  ∃ values, Grouped width bytes values ∧ symbols.map some = values.map (alphabet[·]?)

namespace Grouped

variable {width : Nat} {bytes front back : Bytes} {values others : List Nat}

theorem nil (positive : 0 < width) : Grouped width [] [] :=
  ⟨List.forall_mem_nil _, 0, positive, rfl, rfl⟩

/-- Bytes whose groups need no filling may stand in front of others. -/
theorem append (first : Grouped width front values) (second : Grouped width back others)
    (full : width * values.length = 8 * front.length) :
    Grouped width (front ++ back) (values ++ others) := by
  rcases first.number with ⟨surplus, _, frontLength, frontNumber⟩
  rcases second.number with ⟨filling, few, backLength, backNumber⟩
  have unfilled : surplus = 0 := by omega
  rw [unfilled, Nat.pow_zero, Nat.mul_one] at frontNumber
  refine ⟨List.forall_mem_append.mpr ⟨first.small, second.small⟩, filling, few, ?_, ?_⟩
  · rw [List.length_append, List.length_append, Nat.mul_add, full, backLength]
    omega
  · rw [Numeral.value_append, frontNumber, backNumber, toNat_append, Nat.shiftLeft_eq,
      ← Nat.pow_mul, backLength, Nat.pow_add, Nat.add_mul, Nat.mul_assoc]

theorem length_le (grouped : Grouped width bytes values) (other : Grouped width bytes others) :
    values.length ≤ others.length := by
  rcases grouped.number with ⟨filling, few, length, _⟩
  rcases other.number with ⟨otherFilling, _, otherLength, _⟩
  have below : width * values.length < width * (others.length + 1) := by
    rw [Nat.mul_succ]
    omega
  exact Nat.le_of_lt_succ (Nat.lt_of_mul_lt_mul_left below)

/-- Bytes have one list of groups. -/
theorem unique (grouped : Grouped width bytes values) (other : Grouped width bytes others) :
    values = others := by
  have length := Nat.le_antisymm (grouped.length_le other) (other.length_le grouped)
  rcases grouped.number with ⟨filling, few, filled, number⟩
  rcases other.number with ⟨otherFilling, _, otherFilled, otherNumber⟩
  have same : filling = otherFilling := by
    rw [length] at filled
    omega
  have large : 1 < 2 ^ width := Nat.one_lt_two_pow (by omega)
  apply Numeral.eq_of_value_eq large grouped.small other.small length
  rw [number, otherNumber, same]

/-- Only the symbols of the groups of a byte string write it. -/
theorem writtenIn_iff (grouped : Grouped width bytes values) {alphabet : List Char}
    {symbol : Nat → UInt8} (complete : alphabet.length = 2 ^ width)
    (listed : ∀ value < alphabet.length,
      alphabet[value]? = some (Char.ofNat (symbol value).toNat)) {symbols : List Char} :
    WrittenIn width alphabet bytes symbols ↔
      symbols = (Text.ofAscii (values.map symbol)).toList := by
  constructor
  · intro written
    rcases written with ⟨others, otherGrouped, spelled⟩
    rw [otherGrouped.unique grouped] at spelled
    exact ((Text.map_some_eq_iff listed).mp spelled).2
  · intro equal
    have small : ∀ value ∈ values, value < alphabet.length := by
      rw [complete]
      exact grouped.small
    exact ⟨values, grouped, (Text.map_some_eq_iff listed).mpr ⟨small, equal⟩⟩

end Grouped

end BitcoinKeys.Bytes
