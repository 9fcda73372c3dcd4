/-!
# Byte strings and 256-bit words

Byte strings are lists of bytes, read and written as big-endian integers. A `Word` is a 256-bit
integer that nobody has range-checked yet: a coordinate, a scalar or a signature component. The
fixed 32-byte form and `Word.ofBytes` are inverse to each other.
-/

namespace BitcoinKeys

abbrev Bytes := List UInt8

namespace Bytes

def toNat (bytes : Bytes) : Nat :=
  bytes.foldl (fun value byte => 256 * value + byte.toNat) 0

/-- The `width` lowest bytes of a value, most significant byte first. -/
def ofNat : (width value : Nat) → Bytes
  | 0, _ => []
  | width + 1, value => ofNat width (value / 256) ++ [UInt8.ofNat value]

/-- Drops the leading zero bytes. -/
def significant (bytes : Bytes) : Bytes :=
  bytes.dropWhile (· == 0)

example : toNat [0x01, 0x02] = 0x0102 := rfl

example : ofNat 4 0x0102 = [0x00, 0x00, 0x01, 0x02] := rfl

@[simp]
theorem toNat_nil : toNat [] = 0 := rfl

private theorem foldl_value (bytes : Bytes) (start : Nat) :
    bytes.foldl (fun value byte => 256 * value + byte.toNat) start =
      start <<< (8 * bytes.length) + toNat bytes := by
  induction bytes generalizing start with
  | nil => simp [toNat]
  | cons byte rest induction =>
      have unfolded : toNat (byte :: rest) =
          rest.foldl (fun value byte => 256 * value + byte.toNat) byte.toNat := by simp [toNat]
      have weight : (256 * start) <<< (8 * rest.length) = start <<< (8 * (rest.length + 1)) := by
        rw [Nat.mul_add, Nat.add_comm, Nat.shiftLeft_add, Nat.shiftLeft_eq start, Nat.mul_comm 256]
      rw [List.foldl_cons, unfolded, induction, induction byte.toNat, List.length_cons, ← weight,
        Nat.shiftLeft_eq, Nat.shiftLeft_eq, Nat.shiftLeft_eq, Nat.add_mul, Nat.add_assoc]

theorem toNat_cons (byte : UInt8) (rest : Bytes) :
    toNat (byte :: rest) = byte.toNat <<< (8 * rest.length) + toNat rest := by
  simpa [toNat] using foldl_value rest byte.toNat

theorem toNat_append (left right : Bytes) :
    toNat (left ++ right) = toNat left <<< (8 * right.length) + toNat right := by
  simpa [toNat, List.foldl_append] using foldl_value right (toNat left)

theorem toNat_lt (bytes : Bytes) : toNat bytes < 1 <<< (8 * bytes.length) := by
  induction bytes with
  | nil => simp
  | cons byte rest induction =>
      have bound := byte.toNat_lt
      rw [toNat_cons, List.length_cons, Nat.mul_add, Nat.add_comm, Nat.add_comm (8 * _),
        Nat.shiftLeft_add]
      rw [Nat.shiftLeft_eq] at induction ⊢
      rw [Nat.shiftLeft_eq, Nat.shiftLeft_eq]
      have scaled : (byte.toNat + 1) * 2 ^ (8 * rest.length) ≤
          1 * 2 ^ (8 * 1) * 2 ^ (8 * rest.length) := Nat.mul_le_mul_right _ (by omega)
      rw [Nat.add_mul] at scaled
      omega

@[simp]
theorem length_ofNat (width value : Nat) : (ofNat width value).length = width := by
  induction width generalizing value with
  | zero => rfl
  | succ width induction => simp [ofNat, induction]

@[simp]
theorem toNat_ofNat (width value : Nat) :
    toNat (ofNat width value) = value % 1 <<< (8 * width) := by
  induction width generalizing value with
  | zero => simp [ofNat, Nat.mod_one]
  | succ width induction =>
      have lowByte : (UInt8.ofNat value).toNat = value % 256 := UInt8.toNat_ofNat'
      rw [ofNat, toNat_append, induction, toNat_cons, lowByte, Nat.mul_add,
        Nat.add_comm (8 * width), Nat.shiftLeft_add, Nat.shiftLeft_eq (1 <<< _), Nat.mod_mul]
      simp [Nat.shiftLeft_eq]
      omega

theorem eq_of_toNat_eq {left right : Bytes} (length : left.length = right.length)
    (value : toNat left = toNat right) : left = right := by
  induction left generalizing right with
  | nil => exact (List.length_eq_zero_iff.mp length.symm).symm
  | cons first rest induction =>
      cases right with
      | nil => cases length
      | cons other tail =>
          have sameLength : rest.length = tail.length := Nat.succ.inj length
          rw [toNat_cons, toNat_cons, ← sameLength] at value
          have restBound := toNat_lt rest
          have tailBound := toNat_lt tail
          rw [← sameLength] at tailBound
          simp only [Nat.shiftLeft_eq, Nat.one_mul] at value restBound tailBound
          have heads : first.toNat = other.toNat := by
            have quotient := congrArg (· / 2 ^ (8 * rest.length)) value
            have positive : 0 < 2 ^ (8 * rest.length) := Nat.pow_pos (by omega)
            rwa [Nat.mul_comm, Nat.mul_add_div positive, Nat.div_eq_of_lt restBound,
              Nat.mul_comm, Nat.mul_add_div positive, Nat.div_eq_of_lt tailBound] at quotient
          rw [heads] at value
          rw [UInt8.toNat.inj heads, induction sameLength (by omega)]

/-- A byte string is determined by its length and its value. -/
@[simp]
theorem ofNat_toNat (bytes : Bytes) : ofNat bytes.length (toNat bytes) = bytes :=
  eq_of_toNat_eq (by simp) (by simp [Nat.mod_eq_of_lt (toNat_lt bytes)])

end Bytes

abbrev Word := BitVec 256

namespace Word

def byteLength : Nat := 32

def toBytes (word : Word) : Bytes :=
  Bytes.ofNat byteLength word.toNat

theorem toNat_lt_of_length_le {bytes : Bytes} (fits : bytes.length ≤ byteLength) :
    bytes.toNat < 1 <<< 256 := by
  refine Nat.lt_of_lt_of_le bytes.toNat_lt ?_
  rw [Nat.shiftLeft_eq, Nat.shiftLeft_eq, Nat.one_mul, Nat.one_mul]
  exact Nat.pow_le_pow_right (by decide) (Nat.mul_le_mul_left 8 fits)

def ofBytes (bytes : Bytes) (fits : bytes.length ≤ byteLength) : Word :=
  BitVec.ofNatLT bytes.toNat (toNat_lt_of_length_le fits)

theorem length_le_of_eq {bytes : Bytes} (width : bytes.length = byteLength) :
    bytes.length ≤ byteLength :=
  Nat.le_of_eq width

/-- The word that exactly 32 big-endian bytes write. -/
def ofFixed (bytes : Bytes) (width : bytes.length = byteLength) : Word :=
  ofBytes bytes (length_le_of_eq width)

/-- The shortest big-endian form, which still has one byte for zero. -/
def minimalBytes (word : Word) : Bytes :=
  match word.toBytes.significant with
  | [] => [0]
  | bytes => bytes

example : minimalBytes 0x0102 = [0x01, 0x02] := rfl

/-- Zero keeps one byte. -/
example : minimalBytes 0 = [0x00] := rfl

@[simp]
theorem length_toBytes (word : Word) : word.toBytes.length = byteLength := by
  simp [toBytes]

@[simp]
theorem toNat_toBytes (word : Word) : word.toBytes.toNat = word.toNat := by
  have bound := word.isLt
  rw [toBytes, Bytes.toNat_ofNat, Nat.mod_eq_of_lt]
  exact Nat.lt_of_lt_of_le bound (by decide)

@[simp]
theorem toNat_ofBytes (bytes : Bytes) (fits : bytes.length ≤ byteLength) :
    (ofBytes bytes fits).toNat = bytes.toNat := by
  simp [ofBytes]

@[simp]
theorem ofBytes_toBytes (word : Word) (fits : word.toBytes.length ≤ byteLength) :
    ofBytes word.toBytes fits = word :=
  BitVec.eq_of_toNat_eq (by simp)

@[simp]
theorem toBytes_ofFixed (bytes : Bytes) (width : bytes.length = byteLength) :
    (ofFixed bytes width).toBytes = bytes :=
  Bytes.eq_of_toNat_eq (by simp [width]) (by simp [ofFixed])

@[simp]
theorem ofFixed_toBytes (word : Word) (width : word.toBytes.length = byteLength) :
    ofFixed word.toBytes width = word := by
  simp [ofFixed]

end Word

end BitcoinKeys
