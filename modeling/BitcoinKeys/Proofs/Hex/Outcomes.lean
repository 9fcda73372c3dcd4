import BitcoinKeys.Proofs.ByteInput
import BitcoinKeys.Proofs.Bytes.Groups

/-! # What hexadecimal text is read as, and why it is refused

A text with an odd number of bytes is refused for that, whatever the bytes are. Another text is
refused for the leftmost byte that is no digit, and this byte is reported with its position. Every
text that is not refused has the digits of a byte string, each of which stands for four bits. -/

namespace BitcoinKeys

namespace Hex

/-- Whether a byte is a digit of either case. -/
def IsDigit (byte : UInt8) : Prop :=
  Char.ofNat byte.toNat ∈ "0123456789ABCDEFabcdef".toList

instance (byte : UInt8) : Decidable (IsDigit byte) :=
  inferInstanceAs (Decidable (_ ∈ _))

/-- The report of the leftmost byte that is no digit, if the first byte stands at `position`. -/
inductive LeftmostFault (position : Nat) (digits : Bytes) : Error → Prop
  | intro {before byte after} :
      digits = before ++ byte :: after →
      (∀ digit ∈ before, IsDigit digit) →
      ¬ IsDigit byte →
      LeftmostFault position digits (.invalidCharacter byte (position + before.length))

/-- Why digits are refused. -/
inductive Refused (digits : Bytes) : Error → Prop
  | oddLength :
      digits.length % 2 = 1 →
      Refused digits .oddLength
  | character {error} :
      digits.length % 2 = 0 →
      LeftmostFault 0 digits error →
      Refused digits error

/-! ## Single digits -/

theorem value?_eq_none_iff {byte : UInt8} : value? byte = none ↔ ¬ IsDigit byte := by
  have every : ∀ code : Fin 256, value? (.ofFin code) = none ↔ ¬ IsDigit (.ofFin code) := by
    decide +kernel
  exact every byte.toFin

theorem readDigit_eq_error_iff {position : Nat} {byte : UInt8} {error : Error} :
    readDigit position byte = .error error ↔
      ¬ IsDigit byte ∧ error = .invalidCharacter byte position := by
  rw [← value?_eq_none_iff, readDigit]
  split
  case h_1 value valued => simp [valued]
  case h_2 valued => simp [valued, eq_comm]

theorem exists_readDigit_eq_ok_iff {position : Nat} {byte : UInt8} :
    (∃ value, readDigit position byte = .ok value) ↔ IsDigit byte := by
  rw [← Decidable.not_not (p := IsDigit byte), ← value?_eq_none_iff, readDigit]
  split
  case h_1 value valued => simp [valued]
  case h_2 valued => simp [valued]

/-! ## Pairs of digits -/

section

variable {position : Nat} {error : Error}

theorem not_leftmostFault_nil : ¬ LeftmostFault position [] error := by
  intro fault
  rcases fault with ⟨split, _, _⟩
  exact List.append_ne_nil_of_right_ne_nil _ (List.cons_ne_nil _ _) split.symm

theorem leftmostFault_cons_iff {first : UInt8} {rest : Bytes} :
    LeftmostFault position (first :: rest) error ↔
      (¬ IsDigit first ∧ error = .invalidCharacter first position) ∨
        IsDigit first ∧ LeftmostFault (position + 1) rest error := by
  constructor
  · intro fault
    rcases fault with @⟨before, byte, after, split, valid, invalid⟩
    cases before with
    | nil =>
        cases split
        exact .inl ⟨invalid, rfl⟩
    | cons digit before =>
        cases split
        rcases List.forall_mem_cons.mp valid with ⟨firstValid, othersValid⟩
        rw [List.length_cons, Nat.add_comm before.length, ← Nat.add_assoc]
        exact .inr ⟨firstValid, .intro rfl othersValid invalid⟩
  · intro either
    rcases either with ⟨invalid, rfl⟩ | ⟨firstValid, fault⟩
    · exact @LeftmostFault.intro _ _ [] first rest rfl (List.forall_mem_nil _) invalid
    · rcases fault with @⟨before, byte, after, rfl, valid, invalid⟩
      rw [Nat.add_assoc, Nat.add_comm 1, ← List.length_cons (a := first)]
      exact .intro rfl (List.forall_mem_cons.mpr ⟨firstValid, valid⟩) invalid

theorem decodePairs_eq_error_iff {digits : Bytes} (even : digits.length % 2 = 0) :
    decodePairs position digits = .error error ↔ LeftmostFault position digits error := by
  fun_induction decodePairs position digits with
  | case1 position => simp [not_leftmostFault_nil]
  | case2 position digit => cases even
  | case3 position first second rest induction =>
      have restEven : rest.length % 2 = 0 := (Nat.add_mod_right _ 2).symm.trans even
      rw [leftmostFault_cons_iff, leftmostFault_cons_iff, ← induction restEven]
      simp only [bind_eq_error_iff, readDigit_eq_error_iff]
      -- what the digits stand for does not matter to what is refused behind them
      simp [pure, Except.pure, exists_readDigit_eq_ok_iff]

end

theorem decode_eq_error_iff {digits : Bytes} {error : Error} :
    decode digits = .error error ↔ Refused digits error := by
  unfold decode
  split
  case isTrue odd =>
    constructor
    · intro failed
      cases failed
      exact .oddLength odd
    · intro refused
      cases refused with
      | oddLength => rfl
      | character even => omega
  case isFalse notOdd =>
    have even : digits.length % 2 = 0 := by omega
    rw [decodePairs_eq_error_iff even]
    constructor
    · exact .character even
    · intro refused
      cases refused with
      | oddLength odd => exact absurd odd notOdd
      | character _ fault => exact fault

/-! ## Written digits -/

/-- The digits in the order of their values. -/
def alphabet : List Char :=
  "0123456789abcdef".toList

/-- The text writes the bytes with a digit for every four bits. -/
def Writes (text : String) (bytes : Bytes) : Prop :=
  Bytes.WrittenIn 4 alphabet bytes text.toList

theorem grouped_byte (byte : UInt8) :
    Bytes.Grouped 4 [byte] [byte.toNat / 16, byte.toNat % 16] := by
  have bound := byte.toNat_lt
  constructor
  · simp only [List.forall_mem_cons]
    exact ⟨by omega, by omega, List.forall_mem_nil _⟩
  · refine ⟨0, by decide, rfl, ?_⟩
    simp only [Numeral.value, Bytes.toNat, List.foldl_cons, List.foldl_nil]
    omega

theorem exists_grouped (bytes : Bytes) :
    ∃ values, Bytes.Grouped 4 bytes values ∧ symbols bytes = values.map symbol := by
  induction bytes with
  | nil => exact ⟨[], .nil (by decide), rfl⟩
  | cons byte rest induction =>
      rcases induction with ⟨values, grouped, written⟩
      refine ⟨_, (grouped_byte byte).append grouped rfl, ?_⟩
      rw [symbols_cons, written]
      rfl

theorem alphabet_getElem? : ∀ value < alphabet.length,
    alphabet[value]? = some (Char.ofNat (symbol value).toNat) := by
  decide

/-- A byte string has one written form. -/
theorem writes_iff {text : String} {bytes : Bytes} : Writes text bytes ↔ text = encode bytes := by
  rcases exists_grouped bytes with ⟨values, grouped, written⟩
  rw [Writes, grouped.writtenIn_iff rfl alphabet_getElem?, String.toList_inj, encode, written]

end Hex

/-- Hexadecimal text is read as a byte string exactly if, up to the blanks around it and with
capital digits in lowercase, it is the text of the bytes, which has a digit for every four bits.
All other texts are refused as hexadecimal: for an odd number of bytes, or else for the leftmost
byte that is no digit. -/
theorem ByteInput.toBytes_hex_outcomes :
    (∀ (text : String) (bytes : Bytes),
      (ByteInput.hex text).toBytes = .ok bytes ↔
        Hex.lowered (Text.trim text) = Hex.encode bytes) ∧
    (∀ (text : String) (bytes : Bytes), text = Hex.encode bytes ↔ Hex.Writes text bytes) ∧
    (∀ text : String,
      (∃ cause, (ByteInput.hex text).toBytes = .error (.invalidEncoding (.hex cause))) ↔
        ¬ ∃ bytes, Hex.lowered (Text.trim text) = Hex.encode bytes) ∧
    ∀ (text : String) (error : KeyError),
      (ByteInput.hex text).toBytes = .error error ↔
        ∃ cause, Hex.Refused (Text.utf8 (Text.trim text)) cause ∧
          error = .invalidEncoding (.hex cause) := by
  refine ⟨?_, ?_, ?_, ?_⟩
  · intro text bytes
    exact toBytes_hex_eq_ok_iff
  · intro text bytes
    exact Hex.writes_iff.symm
  · intro text
    exact exists_toBytes_hex_eq_error_iff
  · intro text error
    rw [toBytes, mapError_eq_error_iff]
    simp only [Hex.decode_eq_error_iff, @eq_comm _ error]

/-- Positions count bytes, of which the character `é` has two. -/
example : (ByteInput.hex " 0é1\n").toBytes =
    .error (.invalidEncoding (.hex (.invalidCharacter 0xC3 1))) := by
  decide +kernel

end BitcoinKeys
