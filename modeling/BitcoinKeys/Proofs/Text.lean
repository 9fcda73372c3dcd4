import BitcoinKeys.Text.Blank
import BitcoinKeys.Text.Encoded

/-! # Graphic ASCII texts

The encoders of text formats write graphic ASCII characters only. Such a text has the bytes that it
was made of, and no blanks to remove. No other text has the same bytes. Characters that are listed
in an alphabet are told by the places they have there. -/

namespace BitcoinKeys.Text

/-- Whether a byte is an ASCII character other than a blank and a control character. -/
def IsGraphic (byte : UInt8) : Prop :=
  0x20 < byte ∧ byte < 0x7F

instance (byte : UInt8) : Decidable (IsGraphic byte) :=
  inferInstanceAs (Decidable (_ ∧ _))

theorem encode_graphic {byte : UInt8} (graphic : IsGraphic byte) :
    String.utf8EncodeChar (Char.ofNat byte.toNat) = [byte] ∧
      isBlank (Char.ofNat byte.toNat) = false := by
  have every : ∀ code : Fin 256, IsGraphic (.ofFin code) →
      String.utf8EncodeChar (Char.ofNat code.val) = [.ofFin code] ∧
        isBlank (Char.ofNat code.val) = false := by
    decide +kernel
  exact every byte.toFin graphic

theorem dropWhile_isBlank {chars : List Char} (visible : ∀ char ∈ chars, isBlank char = false) :
    chars.dropWhile isBlank = chars := by
  cases chars with
  | nil => rfl
  | cons first rest =>
      have shown := visible first List.mem_cons_self
      rw [List.dropWhile_cons_of_neg (by rw [shown]; exact Bool.false_ne_true)]

theorem trimmed_eq_self {chars : List Char} (visible : ∀ char ∈ chars, isBlank char = false) :
    trimmed chars = chars := by
  have reversed : ∀ char ∈ chars.reverse, isBlank char = false := by
    intro char member
    apply visible
    exact List.mem_reverse.mp member
  rw [trimmed, dropWhile_isBlank visible, dropWhile_isBlank reversed, List.reverse_reverse]

theorem trim_ofAscii {bytes : Bytes} (graphic : ∀ byte ∈ bytes, IsGraphic byte) :
    trim (ofAscii bytes) = ofAscii bytes := by
  rw [trim, ofAscii, String.toList_ofList, trimmed_eq_self]
  intro char member
  rcases List.mem_map.mp member with ⟨byte, byteMember, rfl⟩
  apply (encode_graphic _).2
  exact graphic byte byteMember

theorem utf8_ofAscii {bytes : Bytes} (graphic : ∀ byte ∈ bytes, IsGraphic byte) :
    utf8 (ofAscii bytes) = bytes := by
  rw [utf8, ofAscii, String.toList_ofList]
  induction bytes with
  | nil => rfl
  | cons byte rest induction =>
      have first := encode_graphic (graphic byte List.mem_cons_self)
      have others := induction fun other member => graphic other (List.mem_cons_of_mem byte member)
      rw [List.map_cons, List.flatMap_cons, first.1, others]
      rfl

theorem toByteArray_utf8 (text : String) : (utf8 text).toByteArray = text.toByteArray :=
  String.utf8Encode_toList

theorem utf8_injective : Function.Injective utf8 := by
  intro left right equal
  apply String.toByteArray_inj.mp
  rw [← toByteArray_utf8, equal, toByteArray_utf8]

/-- A text with graphic bytes is the text that is made of them. -/
theorem utf8_eq_iff {text : String} {bytes : Bytes} (graphic : ∀ byte ∈ bytes, IsGraphic byte) :
    utf8 text = bytes ↔ text = ofAscii bytes := by
  constructor
  · intro equal
    apply utf8_injective
    rw [equal, utf8_ofAscii graphic]
  · intro equal
    rw [equal, utf8_ofAscii graphic]

/-! ## Alphabets -/

theorem toList_ofAscii (bytes : Bytes) :
    (ofAscii bytes).toList = bytes.map fun byte => Char.ofNat byte.toNat :=
  String.toList_ofList

/-- Characters stand for values by an alphabet, which lists the symbols, exactly if they are the
symbols of these values. -/
theorem map_some_eq_iff {alphabet : List Char} {symbol : Nat → UInt8}
    (listed : ∀ value < alphabet.length,
      alphabet[value]? = some (Char.ofNat (symbol value).toNat))
    {chars : List Char} {values : List Nat} :
    chars.map some = values.map (alphabet[·]?) ↔
      (∀ value ∈ values, value < alphabet.length) ∧
        chars = (ofAscii (values.map symbol)).toList := by
  have images (small : ∀ value ∈ values, value < alphabet.length) :
      values.map (alphabet[·]?) = (ofAscii (values.map symbol)).toList.map some := by
    rw [toList_ofAscii, List.map_map, List.map_map]
    apply List.map_congr_left
    intro value member
    exact listed value (small value member)
  constructor
  · intro spelled
    have small : ∀ value ∈ values, value < alphabet.length := by
      intro value member
      have image : alphabet[value]? ∈ chars.map some := by
        rw [spelled]
        exact List.mem_map_of_mem member
      rcases List.mem_map.mp image with ⟨char, _, found⟩
      rcases List.getElem?_eq_some_iff.mp found.symm with ⟨bound, _⟩
      exact bound
    refine ⟨small, ?_⟩
    rw [images small] at spelled
    exact (List.map_inj_right fun _ _ equal => Option.some.inj equal).mp spelled
  · intro written
    rw [images written.1, written.2]

end BitcoinKeys.Text
