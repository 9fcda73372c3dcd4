import BitcoinKeys.Base58
import BitcoinKeys.Proofs.Bytes
import BitcoinKeys.Proofs.Numeral
import BitcoinKeys.Proofs.Outcome
import BitcoinKeys.Proofs.Text

/-! # Base58 is canonical

A byte string is its leading zeros and a number, and so is a list of Base58 digits. Both bases keep
the zeros and the number, which gives a bijection, and every digit has one symbol. So a text is read
exactly if it is the text of what is read. The powers of the base that the number stands between
tell the first symbol and the length of the text. -/

namespace BitcoinKeys.Base58

/-! ## Bytes as digits -/

theorem toNat_map_lt (bytes : Bytes) : ∀ digit ∈ bytes.map UInt8.toNat, digit < 256 := by
  intro digit member
  rcases List.mem_map.mp member with ⟨byte, _, rfl⟩
  exact byte.toNat_lt

theorem ofNat_map_toNat (bytes : Bytes) : (bytes.map UInt8.toNat).map UInt8.ofNat = bytes := by
  simp [Function.comp_def]

theorem toNat_map_ofNat {digits : List Nat} (small : ∀ digit ∈ digits, digit < 256) :
    (digits.map UInt8.ofNat).map UInt8.toNat = digits := by
  have same : ∀ digit ∈ digits, (UInt8.toNat ∘ UInt8.ofNat) digit = id digit := by
    intro digit member
    exact UInt8.toNat_ofNat_of_lt (small digit member)
  rw [List.map_map, List.map_congr_left same, List.map_id]

theorem value_toNat_map (bytes : Bytes) :
    Numeral.value 256 (bytes.map UInt8.toNat) = bytes.toNat := by
  rw [Numeral.value, List.foldl_map]
  rfl

theorem length_takeWhile_toNat_map (bytes : Bytes) :
    ((bytes.map UInt8.toNat).takeWhile (· == 0)).length =
      (bytes.takeWhile (· == 0)).length := by
  have zero : ((· == 0) ∘ UInt8.toNat) = (· == (0 : UInt8)) := by
    funext byte
    exact Bool.eq_iff_iff.mpr (by simp [← UInt8.toNat_inj])
  rw [List.takeWhile_map, List.length_map, zero]

/-! ## The change of base -/

theorem length_takeWhile_toValues (bytes : Bytes) :
    ((toValues bytes).takeWhile (· == 0)).length = (bytes.takeWhile (· == 0)).length :=
  Numeral.length_takeWhile_replicate_append _ (Numeral.head?_digits _ _)

theorem value_toValues (bytes : Bytes) : Numeral.value 58 (toValues bytes) = bytes.toNat := by
  rw [toValues, Numeral.value_replicate_append, Numeral.value_digits]

theorem toValues_lt (bytes : Bytes) : ∀ value ∈ toValues bytes, value < 58 := by
  intro value member
  rcases List.mem_append.mp member with member | member
  · rw [List.eq_of_mem_replicate member]
    decide
  · exact Numeral.digits_lt 58 _ _ value member

/-- The digits of the bytes that a list of values stands for. -/
theorem toNat_map_ofValues (values : List Nat) :
    (ofValues values).map UInt8.toNat =
      List.replicate (values.takeWhile (· == 0)).length 0 ++
        Numeral.digits 256 (by decide) (Numeral.value 58 values) := by
  rw [ofValues, List.map_append, List.map_replicate,
    toNat_map_ofNat (Numeral.digits_lt 256 _ _)]
  rfl

theorem ofValues_toValues (bytes : Bytes) : ofValues (toValues bytes) = bytes := by
  have digits : (ofValues (toValues bytes)).map UInt8.toNat = bytes.map UInt8.toNat := by
    rw [toNat_map_ofValues, length_takeWhile_toValues, value_toValues,
      ← length_takeWhile_toNat_map, ← value_toNat_map]
    exact Numeral.replicate_append_digits_value _ (toNat_map_lt bytes)
  rw [← ofNat_map_toNat (ofValues _), digits, ofNat_map_toNat]

theorem toValues_ofValues {values : List Nat} (small : ∀ value ∈ values, value < 58) :
    toValues (ofValues values) = values := by
  rw [toValues, ← length_takeWhile_toNat_map, ← value_toNat_map, toNat_map_ofValues,
    Numeral.length_takeWhile_replicate_append _ (Numeral.head?_digits _ _),
    Numeral.value_replicate_append, Numeral.value_digits]
  exact Numeral.replicate_append_digits_value _ small

/-! ## Symbols -/

theorem value?_eq_some_iff {byte : UInt8} {value : Nat} :
    value? byte = some value ↔ value < 58 ∧ symbol value = byte := by
  constructor
  · have every : ∀ code : Fin 256, ∀ value ∈ value? (.ofFin code),
        value < 58 ∧ symbol value = .ofFin code := by
      decide +kernel
    exact every byte.toFin value
  · intro written
    rcases written with ⟨small, rfl⟩
    have every : ∀ index : Fin 58, value? (symbol index.val) = some index.val := by
      decide
    exact every ⟨value, small⟩

theorem isGraphic_symbol {value : Nat} (small : value < 58) : Text.IsGraphic (symbol value) := by
  have every : ∀ index : Fin 58, Text.IsGraphic (symbol index.val) := by
    decide
  exact every ⟨value, small⟩

theorem graphic_symbols (bytes : Bytes) : ∀ byte ∈ symbols bytes, Text.IsGraphic byte := by
  intro byte member
  rcases List.mem_map.mp member with ⟨value, valueMember, rfl⟩
  exact isGraphic_symbol (toValues_lt bytes value valueMember)

theorem readValues_map_symbol (position : Nat) {values : List Nat}
    (small : ∀ value ∈ values, value < 58) :
    readValues position (values.map symbol) = .ok values := by
  induction values generalizing position with
  | nil => rfl
  | cons value rest induction =>
      have first := value?_eq_some_iff.mpr ⟨small value List.mem_cons_self, rfl⟩
      have others := induction (position + 1) fun other member =>
        small other (List.mem_cons_of_mem value member)
      rw [List.map_cons, readValues, first]
      simp only [others]
      rfl

theorem eq_map_symbol {position : Nat} {text : Bytes} {values : List Nat}
    (read : readValues position text = .ok values) :
    text = values.map symbol ∧ ∀ value ∈ values, value < 58 := by
  induction text generalizing position values with
  | nil =>
      cases read
      exact ⟨rfl, List.forall_mem_nil _⟩
  | cons byte text induction =>
      rw [readValues] at read
      split at read
      case h_1 value first =>
        rcases value?_eq_some_iff.mp first with ⟨small, symbol_eq⟩
        rcases map_eq_ok_iff.mp read with ⟨rest, others, rfl⟩
        rcases induction others with ⟨equal, restSmall⟩
        rw [List.map_cons, symbol_eq, ← equal]
        exact ⟨rfl, List.forall_mem_cons.mpr ⟨small, restSmall⟩⟩
      case h_2 =>
        split at read
        case isTrue => cases read
        case isFalse => cases read

/-! ## Texts -/

theorem decode_eq_ok_iff {text bytes : Bytes} : decode text = .ok bytes ↔ text = symbols bytes := by
  constructor
  · intro decoded
    rcases map_eq_ok_iff.mp decoded with ⟨values, read, rfl⟩
    rcases eq_map_symbol read with ⟨equal, small⟩
    rw [symbols, toValues_ofValues small, equal]
  · intro written
    rw [written, decode, symbols, readValues_map_symbol 0 (toValues_lt bytes)]
    exact congrArg Except.ok (ofValues_toValues bytes)

/-- The only text that is read as a byte string is the one that is written for it. -/
theorem decode_utf8_eq_ok_iff {text : String} {bytes : Bytes} :
    decode (Text.utf8 text) = .ok bytes ↔ text = encode bytes := by
  rw [decode_eq_ok_iff, encode, Text.utf8_eq_iff (graphic_symbols bytes)]

/-! ## The written form -/

/-- The symbols in the order of their values. -/
def alphabet : List Char :=
  "123456789ABCDEFGHJKLMNPQRSTUVWXYZabcdefghijkmnopqrstuvwxyz".toList

/-- The text writes the number of the bytes in base 58, with a leading `1` for every leading zero
byte. -/
structure Writes (text : String) (bytes : Bytes) : Prop where
  number : ∃ values, text.toList.map some = values.map (alphabet[·]?) ∧
    Numeral.value 58 values = bytes.toNat
  ones : (text.toList.takeWhile (· == '1')).length = (bytes.takeWhile (· == 0)).length

def symbolChar (value : Nat) : Char :=
  Char.ofNat (symbol value).toNat

theorem toList_encode (bytes : Bytes) :
    (encode bytes).toList = (toValues bytes).map symbolChar := by
  rw [encode, Text.ofAscii, String.toList_ofList, symbols, List.map_map]
  rfl

theorem alphabet_getElem? : ∀ value < alphabet.length,
    alphabet[value]? = some (symbolChar value) := by
  decide

theorem map_some_eq_iff {chars : List Char} {values : List Nat} :
    chars.map some = values.map (alphabet[·]?) ↔
      (∀ value ∈ values, value < 58) ∧ chars = values.map symbolChar := by
  rw [Text.map_some_eq_iff alphabet_getElem?, Text.toList_ofAscii, List.map_map]
  rfl

theorem length_takeWhile_map_symbolChar {values : List Nat}
    (small : ∀ value ∈ values, value < 58) :
    ((values.map symbolChar).takeWhile (· == '1')).length =
      (values.takeWhile (· == 0)).length := by
  have every : ∀ index : Fin 58, (symbolChar index.val == '1') = (index.val == 0) := by
    decide
  induction values with
  | nil => rfl
  | cons value rest induction =>
      rcases List.forall_mem_cons.mp small with ⟨first, others⟩
      rw [List.map_cons, List.takeWhile_cons, List.takeWhile_cons, every ⟨value, first⟩]
      cases value == 0 with
      | true => exact congrArg Nat.succ (induction others)
      | false => rfl

/-- A byte string has one written form. -/
theorem writes_iff {text : String} {bytes : Bytes} : Writes text bytes ↔ text = encode bytes := by
  constructor
  · intro writes
    rcases writes.number with ⟨values, written, number⟩
    rcases map_some_eq_iff.mp written with ⟨small, chars⟩
    have ones := writes.ones
    rw [chars, length_takeWhile_map_symbolChar small] at ones
    have equal : toValues bytes = values := by
      rw [toValues, ← ones, ← number]
      exact Numeral.replicate_append_digits_value _ small
    rw [← String.ofList_toList (s := encode bytes), toList_encode, equal, ← chars,
      String.ofList_toList]
  · intro equal
    have small := toValues_lt bytes
    rw [equal]
    constructor
    · refine ⟨toValues bytes, ?_, value_toValues bytes⟩
      exact map_some_eq_iff.mpr ⟨small, toList_encode bytes⟩
    · rw [toList_encode, length_takeWhile_map_symbolChar small, length_takeWhile_toValues]

/-! ## First symbols and lengths -/

theorem toValues_zero_cons (rest : Bytes) : toValues (0 :: rest) = 0 :: toValues rest := rfl

theorem toValues_cons {byte : UInt8} (nonzero : byte ≠ 0) (rest : Bytes) :
    toValues (byte :: rest) = Numeral.digits 58 (by decide) (Bytes.toNat (byte :: rest)) := by
  rw [toValues, List.takeWhile_cons_of_neg (by simpa using nonzero)]
  rfl

theorem length_encode (bytes : Bytes) : (encode bytes).length = (toValues bytes).length := by
  rw [← String.length_toList, toList_encode, List.length_map]

/-- Up to 24 bytes have at most nine symbols more than bytes: in front of the number a zero byte is
one symbol, and a byte of the number is less than one and a half. -/
theorem length_toValues_le {bytes : Bytes} (short : bytes.length ≤ 24) :
    (toValues bytes).length ≤ bytes.length + 9 := by
  induction bytes with
  | nil =>
      rw [toValues, Bytes.toNat_nil, Numeral.digits_zero]
      exact Nat.zero_le _
  | cons byte rest induction =>
      by_cases zero : byte = 0
      · rw [zero, toValues_zero_cons, List.length_cons, List.length_cons]
        rw [List.length_cons] at short
        have others := induction (by omega)
        omega
      · have powers : ∀ length : Fin 25, 256 ^ length.val ≤ 58 ^ (length.val + 9) := by
          decide
        rw [toValues_cons zero]
        apply Numeral.length_digits_le
        exact Nat.lt_of_lt_of_le (Bytes.toNat_lt_pow _) (powers ⟨_, Nat.lt_succ_of_le short⟩)

theorem encode_of_bounds {byte : UInt8} {rest : Bytes} {lead count : Nat} (nonzero : byte ≠ 0)
    (positive : 0 < lead) (small : lead < 58)
    (lower : lead * 58 ^ count ≤ Bytes.toNat (byte :: rest))
    (upper : Bytes.toNat (byte :: rest) < (lead + 1) * 58 ^ count) :
    (encode (byte :: rest)).toList.head? = some (symbolChar lead) ∧
      (encode (byte :: rest)).length = count + 1 := by
  rcases Numeral.exists_digits_eq_cons (by decide) positive small lower upper with
    ⟨others, values, length⟩
  rw [length_encode, toList_encode, toValues_cons nonzero, values, List.map_cons,
    List.length_cons, length]
  exact ⟨rfl, rfl⟩

end BitcoinKeys.Base58
