import BitcoinKeys.Proofs.ByteInput
import BitcoinKeys.Proofs.Bytes.Groups

/-! # Base64 writes groups of six bits

A text is the Base64 text of a byte string exactly if it has one symbol of the alphabet for every
group of six bits, and padding up to a multiple of four characters. Reading accepts this text, also
between blanks, and refuses all others: those with more or less padding, with padding or blanks
inside, and with a last symbol that has other bits than those of the bytes. -/

namespace BitcoinKeys

namespace Base64

/-- The symbols in the order of their values. -/
def alphabet : List Char :=
  "ABCDEFGHIJKLMNOPQRSTUVWXYZabcdefghijklmnopqrstuvwxyz0123456789+/".toList

/-- The text writes the bytes with a symbol for every six bits, and padding up to a multiple of four
characters. -/
inductive Writes (text : String) (bytes : Bytes) : Prop
  | intro {front paddings} :
      Bytes.WrittenIn 6 alphabet bytes front →
      paddings < 4 →
      (front.length + paddings) % 4 = 0 →
      text.toList = front ++ List.replicate paddings '=' →
      Writes text bytes

/-! ## Groups -/

section

variable (first second third : UInt8)

theorem grouped_one : Bytes.Grouped 6 [first] [first.toNat / 4, first.toNat % 4 * 16] := by
  have bound := first.toNat_lt
  constructor
  · simp only [List.forall_mem_cons]
    exact ⟨by omega, by omega, List.forall_mem_nil _⟩
  · refine ⟨4, by decide, rfl, ?_⟩
    simp only [Numeral.value, Bytes.toNat, List.foldl_cons, List.foldl_nil]
    omega

theorem grouped_two :
    Bytes.Grouped 6 [first, second]
      [first.toNat / 4, first.toNat % 4 * 16 + second.toNat / 16, second.toNat % 16 * 4] := by
  have firstBound := first.toNat_lt
  have secondBound := second.toNat_lt
  constructor
  · simp only [List.forall_mem_cons]
    exact ⟨by omega, by omega, by omega, List.forall_mem_nil _⟩
  · refine ⟨2, by decide, rfl, ?_⟩
    simp only [Numeral.value, Bytes.toNat, List.foldl_cons, List.foldl_nil]
    omega

theorem grouped_three :
    Bytes.Grouped 6 [first, second, third]
      [first.toNat / 4, first.toNat % 4 * 16 + second.toNat / 16,
        second.toNat % 16 * 4 + third.toNat / 64, third.toNat % 64] := by
  have firstBound := first.toNat_lt
  have secondBound := second.toNat_lt
  have thirdBound := third.toNat_lt
  constructor
  · simp only [List.forall_mem_cons]
    exact ⟨by omega, by omega, by omega, by omega, List.forall_mem_nil _⟩
  · refine ⟨0, by decide, rfl, ?_⟩
    simp only [Numeral.value, Bytes.toNat, List.foldl_cons, List.foldl_nil]
    omega

end

/-- What is written for a byte string are the symbols of its groups, and padding. -/
theorem exists_grouped (bytes : Bytes) :
    ∃ values paddings, Bytes.Grouped 6 bytes values ∧ paddings < 4 ∧
      (values.length + paddings) % 4 = 0 ∧
      symbols bytes = values.map symbol ++ List.replicate paddings padding := by
  induction bytes using symbols.induct with
  | case1 => exact ⟨[], 0, .nil (by decide), by decide, rfl, rfl⟩
  | case2 first => exact ⟨_, 2, grouped_one first, by decide, by simp, rfl⟩
  | case3 first second => exact ⟨_, 1, grouped_two first second, by decide, by simp, rfl⟩
  | case4 first second third rest induction =>
      rcases induction with ⟨values, paddings, grouped, few, whole, written⟩
      refine ⟨_, paddings, (grouped_three first second third).append grouped rfl, few, ?_, ?_⟩
      · rw [List.length_append, Nat.add_assoc]
        exact (Nat.add_mod_left 4 _).trans whole
      · rw [symbols, written]
        rfl

/-! ## Texts -/

theorem alphabet_getElem? : ∀ value < alphabet.length,
    alphabet[value]? = some (Char.ofNat (symbol value).toNat) := by
  decide

theorem writtenIn_iff {bytes : Bytes} {values : List Nat} (grouped : Bytes.Grouped 6 bytes values)
    {front : List Char} :
    Bytes.WrittenIn 6 alphabet bytes front ↔ front = (Text.ofAscii (values.map symbol)).toList :=
  grouped.writtenIn_iff rfl alphabet_getElem?

theorem toList_ofAscii_padded (front : Bytes) (paddings : Nat) :
    (Text.ofAscii (front ++ List.replicate paddings padding)).toList =
      (Text.ofAscii front).toList ++ List.replicate paddings '=' := by
  rw [Text.toList_ofAscii, Text.toList_ofAscii, List.map_append, List.map_replicate]
  rfl

/-- A byte string has one written form. -/
theorem writes_iff {text : String} {bytes : Bytes} : Writes text bytes ↔ text = encode bytes := by
  rcases exists_grouped bytes with ⟨values, paddings, grouped, few, whole, written⟩
  have length : (Text.ofAscii (values.map symbol)).toList.length = values.length := by
    rw [Text.toList_ofAscii, List.length_map, List.length_map]
  rw [encode, written, ← String.toList_inj, toList_ofAscii_padded]
  constructor
  · intro writes
    rcases writes with @⟨front, others, frontWritten, otherFew, otherWhole, equal⟩
    rw [(writtenIn_iff grouped).mp frontWritten] at otherWhole equal
    rw [length] at otherWhole
    have same : others = paddings := by omega
    rw [equal, same]
  · intro equal
    rw [← length] at whole
    exact .intro ((writtenIn_iff grouped).mpr rfl) few whole equal

end Base64

/-- Base64 text is canonical: it is read as a byte string exactly if it is the text that is written
for it, up to the blanks around it, and every text that is written for none is refused as Base64.
The text that is written has a symbol for every six bits, and padding. -/
theorem decodeBase64_canonical :
    (∀ (text : String) (bytes : Bytes),
      decodeBase64 text = .ok bytes ↔ Text.trim text = Base64.encode bytes) ∧
    (∀ text : String,
      (∃ cause, decodeBase64 text = .error (.invalidEncoding (.base64 cause))) ↔
        ¬ ∃ bytes, Text.trim text = Base64.encode bytes) ∧
    ∀ (text : String) (bytes : Bytes), text = Base64.encode bytes ↔ Base64.Writes text bytes := by
  refine ⟨?_, ?_, ?_⟩
  · intro text bytes
    exact decodeBase64_eq_ok_iff
  · intro text
    exact exists_decodeBase64_eq_error_iff
  · intro text bytes
    exact Base64.writes_iff.symm

end BitcoinKeys
