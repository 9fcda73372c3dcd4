import BitcoinKeys.Bytes
import Mathlib.Algebra.Group.Nat.Defs

/-! # Leading zero bytes

Zero bytes in front of a byte string leave its value and its significant bytes alone, so that a word
is determined by the significant bytes of any form that fits it. Two words are determined by their
fixed forms, one behind the other. A first byte that is not zero bounds the value on both sides. -/

namespace BitcoinKeys

namespace Bytes

@[simp]
theorem significant_zero_cons (rest : Bytes) : significant (0 :: rest) = rest.significant := rfl

theorem significant_cons {byte : UInt8} (nonzero : byte ≠ 0) (rest : Bytes) :
    significant (byte :: rest) = byte :: rest := by
  simp [significant, nonzero]

@[simp]
theorem toNat_significant (bytes : Bytes) : bytes.significant.toNat = bytes.toNat := by
  induction bytes with
  | nil => rfl
  | cons byte rest induction =>
      by_cases zero : byte = 0
      · rw [zero, significant_zero_cons, induction, toNat_cons]
        simp
      · rw [significant_cons zero]

@[simp]
theorem significant_significant (bytes : Bytes) :
    bytes.significant.significant = bytes.significant := by
  induction bytes with
  | nil => rfl
  | cons byte rest induction =>
      by_cases zero : byte = 0
      · rw [zero, significant_zero_cons, induction]
      · rw [significant_cons zero, significant_cons zero]

theorem length_significant_le (bytes : Bytes) : bytes.significant.length ≤ bytes.length :=
  (List.dropWhile_suffix _).length_le

theorem significant_replicate_append (count : Nat) (bytes : Bytes) :
    significant (List.replicate count 0 ++ bytes) = bytes.significant := by
  induction count with
  | zero => rfl
  | succ count induction =>
      rw [List.replicate_succ, List.cons_append, significant_zero_cons, induction]

theorem toNat_replicate_append (count : Nat) (bytes : Bytes) :
    toNat (List.replicate count 0 ++ bytes) = bytes.toNat := by
  rw [← toNat_significant, significant_replicate_append, toNat_significant]

/-- A wider form of the value of a byte string has zero bytes in front of it. -/
theorem ofNat_toNat_of_length_le {bytes : Bytes} {width : Nat} (fits : bytes.length ≤ width) :
    ofNat width bytes.toNat = List.replicate (width - bytes.length) 0 ++ bytes := by
  have length : (List.replicate (width - bytes.length) (0 : UInt8) ++ bytes).length = width := by
    rw [List.length_append, List.length_replicate]
    omega
  have exactWidth := ofNat_toNat (List.replicate (width - bytes.length) 0 ++ bytes)
  rwa [length, toNat_replicate_append] at exactWidth

/-- The significant bytes are determined by the value. -/
theorem significant_eq_of_toNat_eq {left right : Bytes} (value : left.toNat = right.toNat) :
    left.significant = right.significant := by
  have leftFits := Nat.le_max_left left.length right.length
  have rightFits := Nat.le_max_right left.length right.length
  have padded := congrArg (ofNat (max left.length right.length)) value
  rw [ofNat_toNat_of_length_le leftFits, ofNat_toNat_of_length_le rightFits] at padded
  have significant := congrArg significant padded
  rwa [significant_replicate_append, significant_replicate_append] at significant

theorem le_toNat_cons (byte : UInt8) (rest : Bytes) :
    byte.toNat * 256 ^ rest.length ≤ toNat (byte :: rest) := by
  rw [toNat_cons, Nat.shiftLeft_eq, Nat.pow_mul]
  exact Nat.le_add_right _ _

theorem toNat_lt_pow (bytes : Bytes) : bytes.toNat < 256 ^ bytes.length := by
  have bound := toNat_lt bytes
  rwa [Nat.shiftLeft_eq, Nat.one_mul, Nat.pow_mul] at bound

theorem toNat_cons_lt (byte : UInt8) (rest : Bytes) :
    toNat (byte :: rest) < (byte.toNat + 1) * 256 ^ rest.length := by
  rw [toNat_cons, Nat.shiftLeft_eq, Nat.pow_mul, Nat.add_mul, Nat.one_mul]
  exact Nat.add_lt_add_left (toNat_lt_pow rest) _

end Bytes

namespace Word

theorem significant_toBytes_ofBytes (bytes : Bytes) (fits : bytes.length ≤ byteLength) :
    (ofBytes bytes fits).toBytes.significant = bytes.significant := by
  rw [toBytes, toNat_ofBytes, Bytes.ofNat_toNat_of_length_le fits,
    Bytes.significant_replicate_append]

@[simp]
theorem toNat_ofFixed (bytes : Bytes) (width : bytes.length = byteLength) :
    (ofFixed bytes width).toNat = bytes.toNat :=
  toNat_ofBytes bytes _

/-- A word is read from every form with its significant bytes. -/
theorem ofBytes_eq {word : Word} {bytes : Bytes} (fits : bytes.length ≤ byteLength)
    (significant : bytes.significant = word.toBytes.significant) : ofBytes bytes fits = word := by
  apply BitVec.eq_of_toNat_eq
  rw [toNat_ofBytes, ← Bytes.toNat_significant, significant, Bytes.toNat_significant,
    toNat_toBytes]

theorem ofBytes_eq_iff {word : Word} {bytes : Bytes} (fits : bytes.length ≤ byteLength)
    (width : bytes.length = byteLength) : ofBytes bytes fits = word ↔ bytes = word.toBytes := by
  constructor
  · intro read
    rw [← read]
    exact (toBytes_ofFixed bytes width).symm
  · intro written
    apply ofBytes_eq fits
    rw [written]

theorem length_drop_eq {content : Bytes} (width : content.length = 2 * byteLength) :
    (content.drop byteLength).length = byteLength := by
  rw [List.length_drop, width]
  rfl

/-- The halves of a byte string of two words are read as the words whose forms make it up. -/
theorem ofBytes_halves_iff {content : Bytes} {left right : Word}
    (width : content.length = 2 * byteLength) :
    ofBytes (content.take byteLength) (List.length_take_le _ _) = left ∧
        ofBytes (content.drop byteLength) (length_le_of_eq (length_drop_eq width)) = right ↔
      content = left.toBytes ++ right.toBytes := by
  have leftWidth : (content.take byteLength).length = byteLength := by
    rw [List.length_take, width]
    rfl
  rw [ofBytes_eq_iff _ leftWidth, ofBytes_eq_iff _ (length_drop_eq width)]
  constructor
  · intro halves
    rw [← halves.1, ← halves.2, List.take_append_drop]
  · intro written
    rw [written]
    exact ⟨List.take_left' left.length_toBytes, List.drop_left' left.length_toBytes⟩

theorem exists_toBytes_eq {bytes : Bytes} (width : bytes.length = byteLength) :
    ∃ word : Word, word.toBytes = bytes :=
  ⟨ofFixed bytes width, toBytes_ofFixed bytes width⟩

theorem exists_halves_eq {content : Bytes} (width : content.length = 2 * byteLength) :
    ∃ left right : Word, left.toBytes ++ right.toBytes = content :=
  ⟨_, _, ((ofBytes_halves_iff width).mp ⟨rfl, rfl⟩).symm⟩

theorem toNat_take_halves (left right : Word) :
    Bytes.toNat ((left.toBytes ++ right.toBytes).take byteLength) = left.toNat := by
  rw [List.take_left' left.length_toBytes, toNat_toBytes]

theorem toNat_drop_halves (left right : Word) :
    Bytes.toNat ((left.toBytes ++ right.toBytes).drop byteLength) = right.toNat := by
  rw [List.drop_left' left.length_toBytes, toNat_toBytes]

theorem length_significant_toBytes_le (word : Word) :
    word.toBytes.significant.length ≤ byteLength := by
  have shorter := Bytes.length_significant_le word.toBytes
  rwa [length_toBytes] at shorter

theorem minimalBytes_eq {word : Word} (nonempty : word.toBytes.significant ≠ []) :
    word.minimalBytes = word.toBytes.significant := by
  unfold minimalBytes
  split
  case h_1 empty => exact absurd empty nonempty
  case h_2 => rfl

theorem minimalBytes_eq_zero {word : Word} (empty : word.toBytes.significant = []) :
    word.minimalBytes = [0] := by
  rw [minimalBytes, empty]

@[simp]
theorem significant_minimalBytes (word : Word) :
    word.minimalBytes.significant = word.toBytes.significant := by
  by_cases empty : word.toBytes.significant = []
  · rw [minimalBytes_eq_zero empty, empty]
    rfl
  · rw [minimalBytes_eq empty, Bytes.significant_significant]

theorem minimalBytes_ne_nil (word : Word) : word.minimalBytes ≠ [] := by
  by_cases empty : word.toBytes.significant = []
  · rw [minimalBytes_eq_zero empty]
    exact List.cons_ne_nil 0 []
  · rwa [minimalBytes_eq empty]

theorem length_minimalBytes_le (word : Word) : word.minimalBytes.length ≤ byteLength := by
  by_cases empty : word.toBytes.significant = []
  · rw [minimalBytes_eq_zero empty]
    decide
  · rw [minimalBytes_eq empty]
    exact word.length_significant_toBytes_le

end Word

end BitcoinKeys
