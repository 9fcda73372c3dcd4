import BitcoinKeys.Hex
import BitcoinKeys.Proofs.Outcome
import BitcoinKeys.Proofs.Text

/-! # Hexadecimal text is canonical but for letter case

A value below 16 has one digit in each case, and a byte is its two digits. So a text is read exactly
if, with its capital digits in lowercase, it is the text of what is read. -/

namespace BitcoinKeys.Hex

/-! ## Letter case -/

/-- The lowercase form of a capital digit; other characters stay. -/
def lowerDigit (char : Char) : Char :=
  if 'A' ≤ char ∧ char ≤ 'F' then Char.ofNat (char.toNat + 0x20) else char

def lowered (text : String) : String :=
  String.ofList (text.toList.map lowerDigit)

def lowerByte (byte : UInt8) : UInt8 :=
  if 0x41 ≤ byte ∧ byte ≤ 0x46 then byte + 0x20 else byte

theorem lowerByte_of_high {byte : UInt8} (high : 0x80 ≤ byte.toNat) : lowerByte byte = byte := by
  rw [lowerByte, if_neg]
  intro capital
  have bound : byte.toNat ≤ 0x46 := UInt8.le_iff_toNat_le.mp capital.2
  omega

/-- All bytes of a character outside ASCII are outside ASCII. -/
theorem le_of_mem_utf8EncodeChar {char : Char} (high : 0x80 ≤ char.toNat) {byte : UInt8}
    (member : byte ∈ String.utf8EncodeChar char) : 0x80 ≤ byte.toNat := by
  have code : 0x80 ≤ char.val.toNat := high
  unfold String.utf8EncodeChar at member
  dsimp only at member
  split at member
  case isTrue => omega
  case isFalse =>
    split at member
    case isTrue =>
      simp only [List.mem_cons, List.not_mem_nil, or_false] at member
      rcases member with rfl | rfl <;> rw [UInt8.toNat_ofNat'] <;> omega
    case isFalse =>
      split at member
      case isTrue =>
        simp only [List.mem_cons, List.not_mem_nil, or_false] at member
        rcases member with rfl | rfl | rfl <;> rw [UInt8.toNat_ofNat'] <;> omega
      case isFalse =>
        simp only [List.mem_cons, List.not_mem_nil, or_false] at member
        rcases member with rfl | rfl | rfl | rfl <;> rw [UInt8.toNat_ofNat'] <;> omega

theorem utf8EncodeChar_lowerDigit (char : Char) :
    String.utf8EncodeChar (lowerDigit char) = (String.utf8EncodeChar char).map lowerByte := by
  by_cases ascii : char.toNat < 0x80
  · have every : ∀ code : Fin 0x80,
        String.utf8EncodeChar (lowerDigit (Char.ofNat code.val)) =
          (String.utf8EncodeChar (Char.ofNat code.val)).map lowerByte := by
      decide +kernel
    have found := every ⟨char.toNat, ascii⟩
    rwa [Char.ofNat_toNat] at found
  · have high : 0x80 ≤ char.toNat := Nat.le_of_not_lt ascii
    have unchanged : lowerDigit char = char := by
      rw [lowerDigit, if_neg]
      intro capital
      have bound : char.toNat ≤ 0x46 := capital.2
      omega
    have bytes : ∀ byte ∈ String.utf8EncodeChar char, lowerByte byte = id byte := by
      intro byte member
      exact lowerByte_of_high (le_of_mem_utf8EncodeChar high member)
    rw [unchanged, List.map_congr_left bytes, List.map_id]

theorem utf8_lowered (text : String) :
    Text.utf8 (lowered text) = (Text.utf8 text).map lowerByte := by
  rw [Text.utf8, Text.utf8, lowered, String.toList_ofList, List.flatMap_map, List.map_flatMap]
  simp only [utf8EncodeChar_lowerDigit]

/-! ## Digits -/

theorem value?_eq_some_iff {byte : UInt8} {value : Nat} :
    value? byte = some value ↔ value < 16 ∧ lowerByte byte = symbol value := by
  constructor
  · have every : ∀ code : Fin 256, ∀ value ∈ value? (.ofFin code),
        value < 16 ∧ lowerByte (.ofFin code) = symbol value := by
      decide +kernel
    exact every byte.toFin value
  · intro written
    have every : ∀ (code : Fin 256) (index : Fin 16),
        lowerByte (.ofFin code) = symbol index.val → value? (.ofFin code) = some index.val := by
      decide +kernel
    exact every byte.toFin ⟨value, written.1⟩ written.2

theorem readDigit_eq_ok_iff {position value : Nat} {byte : UInt8} :
    readDigit position byte = .ok value ↔ value < 16 ∧ lowerByte byte = symbol value := by
  rw [← value?_eq_some_iff, readDigit]
  split
  case h_1 found valued => rw [valued, Except.ok.injEq, Option.some.injEq]
  case h_2 valued => simp [valued]

theorem isGraphic_symbol {value : Nat} (small : value < 16) : Text.IsGraphic (symbol value) := by
  have every : ∀ index : Fin 16, Text.IsGraphic (symbol index.val) := by
    decide
  exact every ⟨value, small⟩

theorem lowerByte_symbol {value : Nat} (small : value < 16) :
    lowerByte (symbol value) = symbol value := by
  have every : ∀ index : Fin 16, lowerByte (symbol index.val) = symbol index.val := by
    decide
  exact every ⟨value, small⟩

theorem exists_symbol_of_mem {bytes : Bytes} {digit : UInt8} (member : digit ∈ symbols bytes) :
    ∃ value, value < 16 ∧ digit = symbol value := by
  rcases List.mem_flatMap.mp member with ⟨byte, _, member⟩
  have bound := byte.toNat_lt
  simp only [List.mem_cons, List.not_mem_nil, or_false] at member
  rcases member with equal | equal
  · exact ⟨_, by omega, equal⟩
  · exact ⟨_, by omega, equal⟩

theorem graphic_symbols (bytes : Bytes) : ∀ digit ∈ symbols bytes, Text.IsGraphic digit := by
  intro digit member
  rcases exists_symbol_of_mem member with ⟨value, small, rfl⟩
  exact isGraphic_symbol small

theorem map_lowerByte_symbols (bytes : Bytes) : (symbols bytes).map lowerByte = symbols bytes := by
  have every : ∀ digit ∈ symbols bytes, lowerByte digit = id digit := by
    intro digit member
    rcases exists_symbol_of_mem member with ⟨value, small, rfl⟩
    exact lowerByte_symbol small
  rw [List.map_congr_left every, List.map_id]

/-! ## Pairs of digits -/

theorem symbols_cons (byte : UInt8) (rest : Bytes) :
    symbols (byte :: rest) =
      symbol (byte.toNat / 16) :: symbol (byte.toNat % 16) :: symbols rest := rfl

theorem length_symbols (bytes : Bytes) : (symbols bytes).length = 2 * bytes.length := by
  induction bytes with
  | nil => rfl
  | cons byte rest induction =>
      rw [symbols_cons, List.length_cons, List.length_cons, List.length_cons, induction]
      omega

/-- A byte is read from its two digits. -/
theorem ofNat_digits (byte : UInt8) :
    UInt8.ofNat (16 * (byte.toNat / 16) + byte.toNat % 16) = byte := by
  rw [Nat.div_add_mod, UInt8.ofNat_toNat]

theorem toNat_ofNat_digits {high low : Nat} (highSmall : high < 16) (lowSmall : low < 16) :
    (UInt8.ofNat (16 * high + low)).toNat = 16 * high + low := by
  rw [UInt8.toNat_ofNat']
  omega

theorem decodePairs_eq_ok_iff {position : Nat} {digits bytes : Bytes} :
    decodePairs position digits = .ok bytes ↔ digits.map lowerByte = symbols bytes := by
  fun_induction decodePairs position digits generalizing bytes with
  | case1 position =>
      cases bytes with
      | nil => simp [symbols]
      | cons byte rest => simp [symbols_cons]
  | case2 position digit =>
      cases bytes with
      | nil => simp [symbols]
      | cons byte rest => simp [symbols_cons]
  | case3 position first second rest induction =>
      simp only [bind_eq_ok_iff, readDigit_eq_ok_iff, induction, List.map_cons]
      constructor
      · intro steps
        rcases steps with ⟨high, ⟨highSmall, firstDigit⟩, low, ⟨lowSmall, secondDigit⟩, others,
          othersRead, equal⟩
        cases equal
        have highDigit : (16 * high + low) / 16 = high := by omega
        have lowDigit : (16 * high + low) % 16 = low := by omega
        rw [symbols_cons, toNat_ofNat_digits highSmall lowSmall, highDigit, lowDigit, firstDigit,
          secondDigit, othersRead]
      · intro written
        cases bytes with
        | nil => cases written
        | cons byte others =>
            rw [symbols_cons] at written
            rcases List.cons.inj written with ⟨firstDigit, written⟩
            rcases List.cons.inj written with ⟨secondDigit, othersRead⟩
            have bound := byte.toNat_lt
            refine ⟨_, ⟨?_, firstDigit⟩, _, ⟨?_, secondDigit⟩, others, othersRead, ?_⟩
            · omega
            · omega
            · rw [ofNat_digits]
              rfl

theorem decode_eq_ok_iff {digits bytes : Bytes} :
    decode digits = .ok bytes ↔ digits.map lowerByte = symbols bytes := by
  unfold decode
  split
  case isTrue odd =>
    constructor
    · intro read
      cases read
    · intro written
      have length := congrArg List.length written
      rw [List.length_map, length_symbols] at length
      omega
  case isFalse => exact decodePairs_eq_ok_iff

/-! ## Texts -/

theorem trim_encode (bytes : Bytes) : Text.trim (encode bytes) = encode bytes :=
  Text.trim_ofAscii (graphic_symbols bytes)

/-- The only texts that are read as a byte string are those that are written for it, in any letter
case. -/
theorem decode_utf8_eq_ok_iff {text : String} {bytes : Bytes} :
    decode (Text.utf8 text) = .ok bytes ↔ lowered text = encode bytes := by
  rw [decode_eq_ok_iff, ← utf8_lowered, encode, Text.utf8_eq_iff (graphic_symbols bytes)]

@[simp]
theorem lowered_encode (bytes : Bytes) : lowered (encode bytes) = encode bytes := by
  rw [← decode_utf8_eq_ok_iff, decode_eq_ok_iff, encode, Text.utf8_ofAscii (graphic_symbols bytes),
    map_lowerByte_symbols]

end BitcoinKeys.Hex
