import BitcoinKeys.Proofs.Bytes
import BitcoinKeys.Proofs.Outcome
import BitcoinKeys.Proofs.Secp256k1.Decompression
import BitcoinKeys.PublicKey

/-! # Forms of public keys

A key has two tagged forms, one with both coordinates and one with x and the parity of y. Both are
read as the key, and nothing else is read as a key: coordinates at or above the field prime, which
would be second forms of smaller ones, are refused. -/

namespace BitcoinKeys.PublicKey

open Secp256k1

/-! ## Points -/

@[simp]
theorem ofPoint_point (key : PublicKey) : ofPoint key.point = .ok key := by
  rw [ofPoint, dif_pos key.onCurve]
  apply congrArg Except.ok
  exact eq_of_point_eq rfl

theorem ofPoint_eq_ok_iff {point : Coordinates} {key : PublicKey} :
    ofPoint point = .ok key ↔ key.point = point := by
  constructor
  · intro made
    unfold ofPoint at made
    split at made
    case isTrue =>
      cases made
      rfl
    case isFalse => cases made
  · intro equal
    rw [← equal, ofPoint_point]

/-! ## Integers -/

theorem halves_eq_iff {value : BitVec 512} {x y : Word} :
    value.extractLsb' 256 256 = x ∧ value.extractLsb' 0 256 = y ↔ value = x ++ y := by
  constructor
  · intro halves
    have joined : value.extractLsb' 256 256 ++ value.extractLsb' 0 256 = value.extractLsb' 0 512 :=
      BitVec.extractLsb'_append_extractLsb'_eq_extractLsb' rfl
    rw [← halves.1, ← halves.2, joined, BitVec.extractLsb'_eq_self]
  · intro joined
    rw [joined]
    exact ⟨BitVec.extractLsb'_append_eq_left, BitVec.extractLsb'_append_eq_right⟩

theorem ofInteger_eq_ok_iff {value : BitVec 512} {key : PublicKey} :
    ofInteger value = .ok key ↔ value = key.toInteger := by
  rw [ofInteger, ofPoint_eq_ok_iff, toInteger, ← halves_eq_iff]
  rcases key.point with ⟨x, y⟩
  rw [Coordinates.mk.injEq, eq_comm, @eq_comm _ y]

/-! ## Forms without their tags -/

theorem ofUncompressed_eq_ok_iff {content : Bytes} {key : PublicKey} :
    ofUncompressed content = .ok key ↔
      content = key.point.x.toBytes ++ key.point.y.toBytes := by
  unfold ofUncompressed
  split
  case isTrue width =>
    rw [ofPoint_eq_ok_iff, ← Word.ofBytes_halves_iff width]
    constructor
    · intro point
      rw [point]
      exact ⟨rfl, rfl⟩
    · intro halves
      rw [halves.1, halves.2]
  case isFalse wrong =>
    constructor
    · intro read
      cases read
    · intro written
      apply absurd _ wrong
      rw [written, List.length_append, Word.length_toBytes, Word.length_toBytes]
      rfl

theorem ofCompressed_eq_ok_iff {odd : Bool} {content : Bytes} {key : PublicKey} :
    ofCompressed odd content = .ok key ↔
      content = key.point.x.toBytes ∧ key.point.isOdd = odd := by
  constructor
  · intro read
    unfold ofCompressed at read
    split at read
    case isFalse => cases read
    case isTrue width =>
      dsimp only at read
      split at read
      case h_1 => cases read
      case h_2 even other found =>
        rcases onCurve_of_ordinates? found with ⟨⟨_, evenParity⟩, _, oddParity⟩
        rw [ofPoint_eq_ok_iff.mp read]
        refine ⟨(Word.toBytes_ofFixed content width).symm, ?_⟩
        cases odd with
        | false => exact evenParity
        | true => exact oddParity
  · intro written
    rcases written with ⟨written, parity⟩
    rcases exists_ordinates? key.onCurve with ⟨even, other, found⟩
    rcases onCurve_of_ordinates? found with ⟨⟨evenOnCurve, evenParity⟩, oddOnCurve, oddParity⟩
    rw [written, ofCompressed, dif_pos (Word.length_toBytes _), Word.ofFixed_toBytes]
    simp only [found]
    apply ofPoint_eq_ok_iff.mpr
    cases odd with
    | false =>
        exact Coordinates.eq_of_same_parity key.onCurve evenOnCurve rfl
          (parity.trans evenParity.symm)
    | true =>
        exact Coordinates.eq_of_same_parity key.onCurve oddOnCurve rfl
          (parity.trans oddParity.symm)

/-! ## Tagged forms -/

theorem ofTagged_uncompressed (content : Bytes) :
    ofTagged (Coordinates.uncompressedTag :: content) = (ofUncompressed content).map some := rfl

theorem ofTagged_compressed (odd : Bool) (content : Bytes) :
    ofTagged (Coordinates.compressedTag odd :: content) = (ofCompressed odd content).map some := by
  cases odd with
  | false => rfl
  | true => rfl

theorem ofTagged_toBytes (key : PublicKey) : ofTagged key.toBytes = .ok (some key) := by
  rw [toBytes, Coordinates.uncompressed, ofTagged_uncompressed, ofUncompressed_eq_ok_iff.mpr rfl]
  rfl

theorem ofTagged_toCompressed (key : PublicKey) : ofTagged key.toCompressed = .ok (some key) := by
  rw [toCompressed, Coordinates.compressed, ofTagged_compressed,
    ofCompressed_eq_ok_iff.mpr ⟨rfl, rfl⟩]
  rfl

theorem eq_of_ofTagged {bytes : Bytes} {key : PublicKey}
    (read : ofTagged bytes = .ok (some key)) : bytes = key.toBytes ∨ bytes = key.toCompressed := by
  unfold ofTagged at read
  split at read
  case h_1 => cases read
  case h_2 tag content =>
    split at read
    case isTrue uncompressed =>
      rw [uncompressed, ofUncompressed_eq_ok_iff.mp (map_some_eq_ok_iff.mp read)]
      exact .inl rfl
    case isFalse =>
      split at read
      case isTrue even =>
        rcases ofCompressed_eq_ok_iff.mp (map_some_eq_ok_iff.mp read) with ⟨written, parity⟩
        rw [even, written, ← parity]
        exact .inr rfl
      case isFalse =>
        split at read
        case isTrue odd =>
          rcases ofCompressed_eq_ok_iff.mp (map_some_eq_ok_iff.mp read) with ⟨written, parity⟩
          rw [odd, written, ← parity]
          exact .inr rfl
        case isFalse => cases read

theorem result_ofBytes (bytes : Bytes) : (ofBytes bytes).result = ofTagged bytes := by
  unfold ofBytes
  split
  case h_1 unknown => exact unknown.symm
  case h_2 => rfl

theorem result_ofBytes_eq_some_iff {bytes : Bytes} {key : PublicKey} :
    (ofBytes bytes).result = .ok (some key) ↔ bytes = key.toBytes ∨ bytes = key.toCompressed := by
  rw [result_ofBytes]
  constructor
  · exact eq_of_ofTagged
  · intro written
    rcases written with equal | equal
    · rw [equal, ofTagged_toBytes]
    · rw [equal, ofTagged_toCompressed]

theorem ofInput_raw (bytes : Bytes) : ofInput (.raw bytes) = ofBytes bytes := rfl

theorem result_ofInput_eq_some_iff {input : ByteInput} {key : PublicKey} :
    (ofInput input).result = .ok (some key) ↔
      input.toBytes = .ok key.toBytes ∨ input.toBytes = .ok key.toCompressed := by
  unfold ofInput
  cases input.toBytes with
  | error error => simp [Logged.quiet]
  | ok bytes => rw [result_ofBytes_eq_some_iff, Except.ok.injEq, Except.ok.injEq]

theorem result_ofBase64_eq_some_iff {text : String} {key : PublicKey} :
    (ofBase64 text).result = .ok (some key) ↔
      decodeBase64 text = .ok key.toBytes ∨ decodeBase64 text = .ok key.toCompressed := by
  unfold ofBase64
  cases decodeBase64 text with
  | error error => simp [Logged.quiet]
  | ok bytes => rw [result_ofBytes_eq_some_iff, Except.ok.injEq, Except.ok.injEq]

theorem length_toBytes (key : PublicKey) : key.toBytes.length = 65 := by
  simp [toBytes, Coordinates.uncompressed, Word.byteLength]

theorem length_toCompressed (key : PublicKey) : key.toCompressed.length = 33 := by
  simp [toCompressed, Coordinates.compressed, Word.byteLength]

/-- A byte string is read as a key exactly if it is one of the two forms of the key, of 65 and of 33
bytes, and both forms of every key are read as the key. -/
theorem ofInput_raw_canonical :
    (∀ (bytes : Bytes) (key : PublicKey),
      (ofInput (.raw bytes)).result = .ok (some key) ↔
        bytes = key.toBytes ∨ bytes = key.toCompressed) ∧
    ∀ key : PublicKey,
      key.toBytes.length = 65 ∧ (ofInput (.raw key.toBytes)).result = .ok (some key) ∧
        key.toCompressed.length = 33 ∧
        (ofInput (.raw key.toCompressed)).result = .ok (some key) := by
  constructor
  · intro bytes key
    rw [ofInput_raw, result_ofBytes_eq_some_iff]
  · intro key
    refine ⟨length_toBytes key, ?_, length_toCompressed key, ?_⟩
    · rw [ofInput_raw, result_ofBytes, ofTagged_toBytes]
    · rw [ofInput_raw, result_ofBytes, ofTagged_toCompressed]

/-- There is a point above 1, but no second form of it with 1 more than the field prime. -/
example : ofTagged (0x02 :: Word.toBytes (BitVec.ofNat 256 (fieldPrime + 1))) =
    .error .pointNotOnCurve := by
  decide +kernel

end BitcoinKeys.PublicKey
