import BitcoinKeys.PrivateKey
import BitcoinKeys.Proofs.Bytes
import BitcoinKeys.Proofs.Ecdsa.Signing
import BitcoinKeys.Proofs.Outcome

/-! # Construction of private keys

A word has a key exactly if it is in the range of secrets. The key is determined by the word, and
its public point is the multiple of the base point by it. Drawing finds a word in range in every
stream. -/

namespace BitcoinKeys.PrivateKey

open Secp256k1

theorem isScalar_scalar (key : PrivateKey) : IsScalar key.scalar := by
  rcases Ecdsa.publicPoint_eq_ok_iff.mp key.publicPoint_eq with ⟨_, read, _⟩
  exact isScalar_of_scalar? read

theorem ofPoint?_multiple (key : PrivateKey) :
    Coordinates.ofPoint? (Point.base.multiple key.scalar.toNat) = some key.publicKey.point := by
  rcases Ecdsa.publicPoint_eq_ok_iff.mp key.publicPoint_eq with ⟨scalar, read, affine⟩
  rw [← (scalar?_eq_some_iff.mp read).2, toNat_toWord, ← Ecdsa.ofGroup_publicElement, affine]

/-! ## Words -/

theorem ofWord_scalar (key : PrivateKey) : ofWord key.scalar = .ok key := by
  rcases key with ⟨scalar, publicKey, publicPoint_eq⟩
  unfold ofWord
  split
  case h_1 error derived =>
    rw [publicPoint_eq] at derived
    cases derived
  case h_2 point derived =>
    rw [publicPoint_eq] at derived
    cases derived
    rw [dif_pos publicKey.onCurve]
    have same : PublicKey.ofOnCurve publicKey.point publicKey.onCurve = publicKey :=
      PublicKey.eq_of_point_eq rfl
    simp only [same]

theorem ofWord_eq_ok_iff {word : Word} {key : PrivateKey} :
    ofWord word = .ok key ↔ key.scalar = word := by
  constructor
  · intro made
    unfold ofWord at made
    split at made
    case h_1 => cases made
    case h_2 =>
      split at made
      case isTrue =>
        cases made
        rfl
      case isFalse => cases made
  · intro equal
    rw [← equal, ofWord_scalar]

theorem scalar_injective : Function.Injective scalar := by
  intro left right equal
  have made := left.ofWord_scalar
  rw [equal, right.ofWord_scalar] at made
  exact (Except.ok.inj made).symm

theorem ofWord_of_not_isScalar {word : Word} (outside : ¬ IsScalar word) :
    ofWord word = .error (.outOfRange .privateScalar) := by
  have refused : Ecdsa.publicPoint word = .error (.outOfRange .privateScalar) := by
    rw [Ecdsa.publicPoint, if_neg outside]
  unfold ofWord
  split
  case h_1 error derived =>
    rw [refused] at derived
    cases derived
    rfl
  case h_2 point derived =>
    rw [refused] at derived
    cases derived

theorem exists_key {secret : Word} (inRange : IsScalar secret) :
    ∃ key : PrivateKey, key.scalar = secret := by
  rcases scalar?_eq_some_iff.mp (scalar?_of_isScalar inRange) with ⟨nonzero, word⟩
  rcases Ecdsa.exists_publicPoint nonzero with ⟨coordinates, derived, affine⟩
  have onCurve : coordinates.OnCurve := Coordinates.onCurve_iff.mpr ⟨_, affine⟩
  rw [word] at derived
  exact ⟨⟨secret, .ofOnCurve coordinates onCurve, derived⟩, rfl⟩

theorem exists_ofWord_iff {word : Word} : (∃ key, ofWord word = .ok key) ↔ IsScalar word := by
  constructor
  · intro made
    rcases made with ⟨key, made⟩
    rw [← ofWord_eq_ok_iff.mp made]
    exact key.isScalar_scalar
  · intro inRange
    rcases exists_key inRange with ⟨key, equal⟩
    exact ⟨key, ofWord_eq_ok_iff.mpr equal⟩

theorem ofWord_eq_error_iff {word : Word} {error : KeyError} :
    ofWord word = .error error ↔ ¬ IsScalar word ∧ error = .outOfRange .privateScalar := by
  by_cases inRange : IsScalar word
  · rcases exists_ofWord_iff.mpr inRange with ⟨key, made⟩
    simp [made, inRange]
  · simp [ofWord_of_not_isScalar inRange, inRange, eq_comm]

/-! ## Bytes -/

theorem ofBytes_of_length_eq {bytes : Bytes} (width : bytes.length = Word.byteLength) :
    ofBytes bytes = ofWord (Word.ofFixed bytes width) :=
  dif_pos width

theorem ofBytes_eq_ok_iff {bytes : Bytes} {key : PrivateKey} :
    ofBytes bytes = .ok key ↔ bytes = key.toBytes := by
  constructor
  · intro made
    unfold ofBytes at made
    split at made
    case isTrue width =>
      rw [toBytes, ofWord_eq_ok_iff.mp made, Word.toBytes_ofFixed]
    case isFalse => cases made
  · intro written
    have width : key.toBytes.length = Word.byteLength := Word.length_toBytes key.scalar
    rw [written, ofBytes_of_length_eq width]
    exact ofWord_eq_ok_iff.mpr (Word.ofFixed_toBytes key.scalar width).symm

theorem ofInput_eq_ok_iff {input : ByteInput} {key : PrivateKey} :
    ofInput input = .ok key ↔ input.toBytes = .ok key.toBytes := by
  simp only [ofInput, bind_eq_ok_iff, ofBytes_eq_ok_iff, exists_eq_right]

/-! ## Random streams -/

theorem isScalar_nextWord {stream : Bytes} (accepted : stream = [] ∨ IsScalar (nextWord stream)) :
    IsScalar (nextWord stream) := by
  rcases accepted with ended | inRange
  · rw [ended]
    decide
  · exact inRange

/-- Drawing stops at a word in range, at the latest behind the end of the stream. -/
theorem isScalar_drawWord (stream : Bytes) : IsScalar (drawWord stream).1 := by
  fun_induction drawWord stream with
  | case1 stream accepted => exact isScalar_nextWord accepted
  | case2 stream refused word taken rest induction =>
      rw [rest] at induction
      exact induction

theorem draw_eq (stream : Bytes) :
    draw stream =
      (ofWord (drawWord stream).1).map fun key => (key, (drawWord stream).2) := by
  unfold draw
  rcases drawWord stream with ⟨word, taken⟩
  dsimp only
  cases ofWord word with
  | error error => rfl
  | ok key => rfl

/-- Drawing always gives a key, the one of the word that it stops at. -/
theorem exists_draw (stream : Bytes) :
    ∃ key, draw stream = .ok (key, (drawWord stream).2) ∧ key.scalar = (drawWord stream).1 := by
  rcases exists_key (isScalar_drawWord stream) with ⟨key, scalar⟩
  refine ⟨key, ?_, scalar⟩
  rw [draw_eq, ofWord_eq_ok_iff.mpr scalar]
  rfl

end BitcoinKeys.PrivateKey
