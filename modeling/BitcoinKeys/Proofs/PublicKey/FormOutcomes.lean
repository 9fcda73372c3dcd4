import BitcoinKeys.Proofs.PublicKey.Forms

/-! # Outcomes of reading a form

A byte string is refused if it is empty, if its length is not the one that its tag asks for, or if
its coordinates are not those of a point. A tag that is not known gives no key. Every other byte
string is a form of a key, and is read as the key. -/

namespace BitcoinKeys.PublicKey

open Secp256k1

/-! ## Tags -/

theorem ofTagged_unknown {tag : UInt8} (content : Bytes) (unknown : tag ∉ [0x02, 0x03, 0x04]) :
    ofTagged (tag :: content) = .ok none := by
  simp only [List.mem_cons, List.not_mem_nil, or_false, not_or] at unknown
  rcases unknown with ⟨notEven, notOdd, notUncompressed⟩
  exact (if_neg notUncompressed).trans ((if_neg notEven).trans (if_neg notOdd))

theorem exists_compressedTag_iff {tag : UInt8} :
    (∃ odd, tag = Coordinates.compressedTag odd) ↔ tag = 0x02 ∨ tag = 0x03 := by
  rw [Bool.exists_bool]
  rfl

/-! ## Uncompressed forms -/

section

variable {content : Bytes}

theorem ofTagged_uncompressed_of_length_ne (wrong : content.length ≠ 64) :
    ofTagged (Coordinates.uncompressedTag :: content) =
      .error (.invalidEncoding (.secLength 0x04 65 (1 + content.length))) := by
  have refused : ofUncompressed content = _ := dif_neg wrong
  rw [ofTagged_uncompressed, refused]
  rfl

theorem ofUncompressed_toBytes (x y : Word) :
    ofUncompressed (x.toBytes ++ y.toBytes) = ofPoint ⟨x, y⟩ := by
  have width : (x.toBytes ++ y.toBytes).length = 2 * Word.byteLength := by
    rw [List.length_append, Word.length_toBytes, Word.length_toBytes]
    rfl
  rcases (Word.ofBytes_halves_iff width).mpr rfl with ⟨left, right⟩
  rw [ofUncompressed, dif_pos width, left, right]

/-- The coordinates of an uncompressed form are the numbers of its halves. -/
theorem exists_ofTagged_uncompressed (width : content.length = 64) :
    ∃ point : Coordinates, point.x.toNat = Bytes.toNat (content.take 32) ∧
      point.y.toNat = Bytes.toNat (content.drop 32) ∧
      point.uncompressed = Coordinates.uncompressedTag :: content ∧
      ofTagged (Coordinates.uncompressedTag :: content) = (ofPoint point).map some := by
  rcases Word.exists_halves_eq width with ⟨x, y, rfl⟩
  refine ⟨⟨x, y⟩, ?_, ?_, rfl, ?_⟩
  · exact (Word.toNat_take_halves x y).symm
  · exact (Word.toNat_drop_halves x y).symm
  · rw [ofTagged_uncompressed, ofUncompressed_toBytes]

theorem ofTagged_uncompressed_of_isPoint (width : content.length = 64)
    (point : IsPoint (Bytes.toNat (content.take 32)) (Bytes.toNat (content.drop 32))) :
    ∃ key : PublicKey, key.toBytes = Coordinates.uncompressedTag :: content ∧
      ofTagged (Coordinates.uncompressedTag :: content) = .ok (some key) := by
  rcases exists_ofTagged_uncompressed width with ⟨coordinates, x, y, written, read⟩
  rw [← x, ← y, ← Coordinates.onCurve_iff_isPoint] at point
  refine ⟨ofOnCurve coordinates point, written, ?_⟩
  rw [read, ofPoint, dif_pos point]
  rfl

theorem ofTagged_uncompressed_of_not_isPoint (width : content.length = 64)
    (nowhere : ¬ IsPoint (Bytes.toNat (content.take 32)) (Bytes.toNat (content.drop 32))) :
    ofTagged (Coordinates.uncompressedTag :: content) = .error .pointNotOnCurve := by
  rcases exists_ofTagged_uncompressed width with ⟨coordinates, x, y, _, read⟩
  rw [← x, ← y, ← Coordinates.onCurve_iff_isPoint] at nowhere
  rw [read, ofPoint, dif_neg nowhere]
  rfl

end

/-! ## Compressed forms -/

section

variable {content : Bytes} (odd : Bool)

theorem ofTagged_compressed_of_length_ne (wrong : content.length ≠ 32) :
    ofTagged (Coordinates.compressedTag odd :: content) = .error
      (.invalidEncoding (.secLength (Coordinates.compressedTag odd) 33 (1 + content.length))) := by
  have refused : ofCompressed odd content = _ := dif_neg wrong
  rw [ofTagged_compressed, refused]
  rfl

theorem ofTagged_compressed_of_isAbscissa (width : content.length = 32)
    (above : IsAbscissa (Bytes.toNat content)) :
    ∃ key : PublicKey, key.toCompressed = Coordinates.compressedTag odd :: content ∧
      ofTagged (Coordinates.compressedTag odd :: content) = .ok (some key) := by
  rcases Word.exists_toBytes_eq width with ⟨x, rfl⟩
  rw [Word.toNat_toBytes, ← exists_onCurve_of_parity_iff odd] at above
  rcases above with ⟨y, onCurve, parity⟩
  have written : (ofOnCurve ⟨x, y⟩ onCurve).toCompressed =
      Coordinates.compressedTag odd :: x.toBytes := by
    rw [← parity]
    rfl
  refine ⟨_, written, ?_⟩
  rw [← written, ofTagged_toCompressed]

theorem ofTagged_compressed_of_not_isAbscissa (width : content.length = 32)
    (nothing : ¬ IsAbscissa (Bytes.toNat content)) :
    ofTagged (Coordinates.compressedTag odd :: content) = .error .pointNotOnCurve := by
  rcases Word.exists_toBytes_eq width with ⟨x, rfl⟩
  rw [Word.toNat_toBytes, ← Coordinates.exists_onCurve_iff, ← ordinates?_eq_none_iff] at nothing
  rw [ofTagged_compressed, ofCompressed, dif_pos x.length_toBytes, Word.ofFixed_toBytes]
  simp only [nothing]
  rfl

end

/-! ## Errors -/

section

variable {content : Bytes} {error : KeyError}

theorem ofPoint_eq_error {point : Coordinates} (failed : ofPoint point = .error error) :
    error = .pointNotOnCurve := by
  unfold ofPoint at failed
  split at failed
  case isTrue => cases failed
  case isFalse =>
    cases failed
    rfl

theorem ofUncompressed_eq_error (failed : ofUncompressed content = .error error) :
    (∃ tag expected actual, error = .invalidEncoding (.secLength tag expected actual)) ∨
      error = .pointNotOnCurve := by
  unfold ofUncompressed at failed
  split at failed
  case isTrue => exact .inr (ofPoint_eq_error failed)
  case isFalse =>
    cases failed
    exact .inl ⟨_, _, _, rfl⟩

theorem ofCompressed_eq_error {odd : Bool} (failed : ofCompressed odd content = .error error) :
    (∃ tag expected actual, error = .invalidEncoding (.secLength tag expected actual)) ∨
      error = .pointNotOnCurve := by
  unfold ofCompressed at failed
  split at failed
  case isTrue =>
    dsimp only at failed
    split at failed
    case h_1 =>
      cases failed
      exact .inr rfl
    case h_2 => exact .inr (ofPoint_eq_error failed)
  case isFalse =>
    cases failed
    exact .inl ⟨_, _, _, rfl⟩

theorem ofTagged_eq_error {bytes : Bytes} (failed : ofTagged bytes = .error error) :
    error = .invalidEncoding .empty ∨
      (∃ tag expected actual, error = .invalidEncoding (.secLength tag expected actual)) ∨
      error = .pointNotOnCurve := by
  unfold ofTagged at failed
  split at failed
  case h_1 =>
    cases failed
    exact .inl rfl
  case h_2 tag content =>
    right
    split at failed
    case isTrue => exact ofUncompressed_eq_error (map_eq_error_iff.mp failed)
    case isFalse =>
      split at failed
      case isTrue => exact ofCompressed_eq_error (map_eq_error_iff.mp failed)
      case isFalse =>
        split at failed
        case isTrue => exact ofCompressed_eq_error (map_eq_error_iff.mp failed)
        case isFalse => cases failed

end

/-! ## All byte strings -/

/-- An empty byte string is refused, and a tag that is not known gives no key. Behind a known tag
the length has to be right, and then the numbers have to be those of a point, or the number that of
an x coordinate; what is read then is the key of this form. There is no other error. -/
theorem ofInput_raw_outcomes :
    (ofInput (.raw [])).result = .error (.invalidEncoding .empty) ∧
    (∀ (tag : UInt8) (content : Bytes), tag ∉ [0x02, 0x03, 0x04] →
      (ofInput (.raw (tag :: content))).result = .ok none) ∧
    (∀ content : Bytes,
      (content.length ≠ 64 →
        (ofInput (.raw (0x04 :: content))).result =
          .error (.invalidEncoding (.secLength 0x04 65 (1 + content.length)))) ∧
      (content.length = 64 →
        (IsPoint (Bytes.toNat (content.take 32)) (Bytes.toNat (content.drop 32)) →
          ∃ key : PublicKey, key.toBytes = 0x04 :: content ∧
            (ofInput (.raw (0x04 :: content))).result = .ok (some key)) ∧
        (¬ IsPoint (Bytes.toNat (content.take 32)) (Bytes.toNat (content.drop 32)) →
          (ofInput (.raw (0x04 :: content))).result = .error .pointNotOnCurve))) ∧
    (∀ (tag : UInt8) (content : Bytes), tag = 0x02 ∨ tag = 0x03 →
      (content.length ≠ 32 →
        (ofInput (.raw (tag :: content))).result =
          .error (.invalidEncoding (.secLength tag 33 (1 + content.length)))) ∧
      (content.length = 32 →
        (IsAbscissa (Bytes.toNat content) →
          ∃ key : PublicKey, key.toCompressed = tag :: content ∧
            (ofInput (.raw (tag :: content))).result = .ok (some key)) ∧
        (¬ IsAbscissa (Bytes.toNat content) →
          (ofInput (.raw (tag :: content))).result = .error .pointNotOnCurve))) ∧
    ∀ (bytes : Bytes) (error : KeyError), (ofInput (.raw bytes)).result = .error error →
      error = .invalidEncoding .empty ∨
        (∃ tag expected actual, error = .invalidEncoding (.secLength tag expected actual)) ∨
        error = .pointNotOnCurve := by
  simp only [ofInput_raw, result_ofBytes]
  refine ⟨rfl, ?_, ?_, ?_, ?_⟩
  · intro tag content unknown
    exact ofTagged_unknown content unknown
  · intro content
    exact ⟨ofTagged_uncompressed_of_length_ne, fun width =>
      ⟨ofTagged_uncompressed_of_isPoint width, ofTagged_uncompressed_of_not_isPoint width⟩⟩
  · intro tag content known
    rcases exists_compressedTag_iff.mpr known with ⟨odd, rfl⟩
    exact ⟨ofTagged_compressed_of_length_ne odd, fun width =>
      ⟨ofTagged_compressed_of_isAbscissa odd width,
        ofTagged_compressed_of_not_isAbscissa odd width⟩⟩
  · intro bytes error failed
    exact ofTagged_eq_error failed

/-- The form of the base point is read behind its own tag only, two zeros are not the coordinates of
a point, and a number above the field prime is no x coordinate. -/
theorem ofInput_raw_outcomes_run :
    let form := Coordinates.base.x.toBytes ++ Coordinates.base.y.toBytes
    (∃ key : PublicKey, key.toBytes = 0x04 :: form ∧
      (ofInput (.raw (0x04 :: form))).result = .ok (some key)) ∧
    (ofInput (.raw (0x03 :: form))).result =
      .error (.invalidEncoding (.secLength 0x03 33 65)) ∧
    (ofInput (.raw (0x05 :: form))).result = .ok none ∧
    (ofInput (.raw (0x04 :: List.replicate 64 0))).result = .error .pointNotOnCurve ∧
    (ofInput (.raw (0x02 :: List.replicate 32 0xFF))).result = .error .pointNotOnCurve := by
  intro form
  rcases ofInput_raw_outcomes with ⟨_, unknown, uncompressed, compressed, _⟩
  have width : form.length = 64 := by
    rw [List.length_append, Word.length_toBytes, Word.length_toBytes]
    rfl
  have point : IsPoint (Bytes.toNat (form.take 32)) (Bytes.toNat (form.drop 32)) := by
    have x : Bytes.toNat (form.take 32) = Coordinates.base.x.toNat := Word.toNat_take_halves _ _
    have y : Bytes.toNat (form.drop 32) = Coordinates.base.y.toNat := Word.toNat_drop_halves _ _
    rw [x, y, ← Coordinates.onCurve_iff_isPoint]
    decide
  have origin : ¬ IsPoint (Bytes.toNat (List.take 32 (List.replicate 64 0)))
      (Bytes.toNat (List.drop 32 (List.replicate 64 0))) := by
    intro point
    exact absurd point.2.2 (by decide)
  have above : ¬ IsAbscissa (Bytes.toNat (List.replicate 32 0xFF)) := by
    intro abscissa
    exact absurd abscissa.1 (by decide)
  refine ⟨((uncompressed form).2 width).1 point, ?_, unknown _ form (by decide),
    ((uncompressed _).2 rfl).2 origin, ((compressed _ _ (.inl rfl)).2 rfl).2 above⟩
  have refused := (compressed 0x03 form (.inr rfl)).1 (by rw [width]; decide)
  rwa [width] at refused

end BitcoinKeys.PublicKey
