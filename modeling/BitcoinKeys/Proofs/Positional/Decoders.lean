import BitcoinKeys.Proofs.Positional.Der
import BitcoinKeys.Proofs.PrivateKey.Wif
import BitcoinKeys.Proofs.PublicKey.Forms
import BitcoinKeys.Proofs.SignedMessage

/-! # Decoders by position

The other decoders over positions in the whole byte string. A check of the length stands in front of
every position, range and word that is read, so that no byte string and no text leads to a fault. -/

namespace BitcoinKeys.Positional

open Secp256k1

/-! ## Signatures -/

def decodeSignature (bytes : Bytes) : Reading KeyError Signature :=
  if bytes.length ≠ Signature.byteLength then
    throw (.invalidEncoding (.length Signature.byteLength bytes.length))
  else do
    let rBytes ← range bytes 0 Word.byteLength
    let r ← word rBytes
    let sBytes ← range bytes Word.byteLength bytes.length
    let s ← word sBytes
    return { r, s }

def decodeDerSignature (bytes : Bytes) : Reading KeyError Signature := do
  let (r, s) ← (decodeDer bytes).adapt fun reason => .invalidEncoding (.der reason)
  return { r, s }

theorem decodeSignature_eq (bytes : Bytes) :
    decodeSignature bytes = settle (Signature.ofBytes bytes) := by
  unfold Signature.ofBytes
  split
  case isTrue width =>
    have twoWords : bytes.length = 2 * Word.byteLength := width
    have inside : Word.byteLength ≤ bytes.length := by omega
    have half := Word.length_le_of_eq (Word.length_drop_eq twoWords)
    rw [decodeSignature, if_neg (not_not_intro width), range_zero inside, pure_bind,
      word_eq (List.length_take_le _ _), pure_bind, range_length inside, pure_bind, word_eq half]
    rfl
  case isFalse wrong => exact if_pos wrong

theorem decodeDerSignature_eq (bytes : Bytes) :
    decodeDerSignature bytes = settle (Signature.ofDerBytes bytes).result := by
  rw [decodeDerSignature, decodeDer_eq, adapt_settle, Signature.result_ofDerBytes]
  cases Der.decode bytes with
  | error reason => rfl
  | ok components => rfl

/-! ## Envelopes -/

def openEnvelope (bytes : Bytes) : Reading KeyError Signature :=
  if bytes.length ≠ SignedMessage.envelopeLength then
    throw (.invalidEncoding (.length SignedMessage.envelopeLength bytes.length))
  else do
    let magic ← byteAt bytes 0
    let id ← settle (SignedMessage.recoveryIdOfMagic magic)
    let content ← range bytes 1 bytes.length
    let signature ← decodeSignature content
    return signature.withRecoveryId id

theorem openEnvelope_eq (bytes : Bytes) :
    openEnvelope bytes = settle (SignedMessage.openEnvelope bytes) := by
  by_cases width : bytes.length = SignedMessage.envelopeLength
  case neg =>
    rw [SignedMessage.openEnvelope_of_length_ne width]
    exact if_pos width
  case pos =>
    cases bytes with
    | nil => cases width
    | cons magic content =>
        have counted : content.length + 1 = SignedMessage.envelopeLength := width
        rw [openEnvelope, if_neg (not_not_intro width), SignedMessage.openEnvelope, if_pos counted,
          byteAt_zero, range_tail]
        simp only [pure_bind, decodeSignature_eq, settle_bind]
        rfl

/-! ## Public keys -/

def checkLength (tag : UInt8) (expected actual : Nat) : Reading KeyError Unit :=
  if expected = actual then return ()
  else throw (.invalidEncoding (.secLength tag expected actual))

/-- The two y coordinates above x. The even one is read from its bytes. -/
def ordinates (x : Word) : Reading KeyError (Word × Word) :=
  if below : x.toNat < fieldPrime then
    match ordinate? ⟨x.toNat, below⟩ false with
    | none => throw .pointNotOnCurve
    | some root => do
        let even ← word (Word.toBytes (BitVec.ofNat 256 root.value))
        let odd ← difference fieldPrime even.toNat
        return (even, BitVec.ofNat 256 odd)
  else throw .pointNotOnCurve

def decodeUncompressed (bytes : Bytes) : Reading KeyError PublicKey := do
  checkLength Coordinates.uncompressedTag (1 + 2 * Word.byteLength) bytes.length
  let xBytes ← range bytes 1 (1 + Word.byteLength)
  let x ← word xBytes
  let yBytes ← range bytes (1 + Word.byteLength) bytes.length
  let y ← word yBytes
  settle (PublicKey.ofPoint { x, y })

def decodeCompressed (odd : Bool) (bytes : Bytes) : Reading KeyError PublicKey := do
  checkLength (Coordinates.compressedTag odd) (1 + Word.byteLength) bytes.length
  let xBytes ← range bytes 1 bytes.length
  let x ← word xBytes
  let (evenY, oddY) ← ordinates x
  settle (PublicKey.ofPoint { x, y := if odd then oddY else evenY })

def decodePublicKey (bytes : Bytes) : Reading KeyError (Option PublicKey) :=
  match bytes[0]? with
  | none => throw (.invalidEncoding .empty)
  | some tag =>
      if tag = Coordinates.uncompressedTag then some <$> decodeUncompressed bytes
      else if tag = Coordinates.compressedTag false then some <$> decodeCompressed false bytes
      else if tag = Coordinates.compressedTag true then some <$> decodeCompressed true bytes
      else return none

theorem ordinates_eq (x : Word) :
    ordinates x = settle (match ordinates? x with
      | none => .error .pointNotOnCurve
      | some pair => .ok pair) := by
  unfold ordinates ordinates?
  split
  case isTrue below =>
    cases ordinate? ⟨x.toNat, below⟩ false with
    | none => rfl
    | some root =>
        have odd : (difference fieldPrime root.value : Reading KeyError Nat) =
            pure (fieldPrime - root.value) := difference_eq (Nat.le_of_lt root.value_lt)
        rw [Option.map_some]
        simp only [word_toBytes, pure_bind, Coordinates.toNat_ofNat_value Coordinates.fieldPrime_le,
          odd]
        rfl
  case isFalse => rfl

theorem checkLength_cons (tag first : UInt8) (content : Bytes) (width : Nat) :
    checkLength tag (1 + width) (first :: content).length =
      if content.length = width then pure ()
      else throw (.invalidEncoding (.secLength tag (1 + width) (1 + content.length))) := by
  have same : 1 + width = (first :: content).length ↔ content.length = width := by
    rw [List.length_cons]
    omega
  rw [checkLength, Nat.add_comm 1 content.length]
  exact if_congr same rfl rfl

theorem decodeUncompressed_eq (tag : UInt8) (content : Bytes) :
    decodeUncompressed (tag :: content) = settle (PublicKey.ofUncompressed content) := by
  rw [decodeUncompressed, checkLength_cons]
  unfold PublicKey.ofUncompressed
  split
  case isTrue width =>
    have inside : Word.byteLength ≤ content.length := by omega
    have half := Word.length_le_of_eq (Word.length_drop_eq width)
    have left : (range (tag :: content) 1 (1 + Word.byteLength) : Reading KeyError Bytes) =
        pure (content.take Word.byteLength) := range_append [tag] inside
    have right : (range (tag :: content) (1 + Word.byteLength) (tag :: content).length :
        Reading KeyError Bytes) = pure (content.drop Word.byteLength) := by
      rw [Nat.add_comm, range_length (Nat.add_le_add_right inside 1), List.drop_succ_cons]
    rw [pure_bind, left, pure_bind, word_eq (List.length_take_le _ _), pure_bind,
      right, pure_bind, word_eq half, pure_bind]
  case isFalse wrong => rw [throw_bind, settle_error]

theorem decodeCompressed_eq (odd : Bool) (tag : UInt8) (content : Bytes) :
    decodeCompressed odd (tag :: content) = settle (PublicKey.ofCompressed odd content) := by
  rw [decodeCompressed, checkLength_cons]
  unfold PublicKey.ofCompressed
  split
  case isTrue width =>
    rw [pure_bind, range_tail, pure_bind, word_eq (Word.length_le_of_eq width),
      pure_bind, ordinates_eq]
    dsimp only [Word.ofFixed]
    cases ordinates? (Word.ofBytes content (Word.length_le_of_eq width)) with
    | none => rfl
    | some pair => rfl
  case isFalse wrong => rw [throw_bind, settle_error]

theorem decodePublicKey_eq (bytes : Bytes) :
    decodePublicKey bytes = settle (PublicKey.ofTagged bytes) := by
  cases bytes with
  | nil => rfl
  | cons tag content =>
      simp only [decodePublicKey, List.getElem?_cons_zero, decodeUncompressed_eq,
        decodeCompressed_eq, map_settle, PublicKey.ofTagged, apply_ite settle]
      rfl

/-! ## Private keys -/

/-- The public point of a scalar, whose coordinates are read from their bytes. -/
def publicPoint (secret : Word) : Reading KeyError Coordinates :=
  if IsScalar secret then
    match Point.base.multiple secret.toNat with
    | .identity => throw (.outOfRange .privateScalar)
    | .affine x y => do
        let x ← word (Word.toBytes (BitVec.ofNat 256 x.value))
        let y ← word (Word.toBytes (BitVec.ofNat 256 y.value))
        return { x, y }
  else throw (.outOfRange .privateScalar)

def decodePrivateKey (bytes : Bytes) : Reading KeyError PrivateKey :=
  if bytes.length ≠ Word.byteLength then
    throw (.invalidEncoding (.length Word.byteLength bytes.length))
  else do
    let scalar ← word bytes
    let _ ← publicPoint scalar
    settle (PrivateKey.ofWord scalar)

def splitVersion (bytes : Bytes) : Reading Base58Check.Error (UInt8 × Bytes) :=
  if bytes = [] then throw .noVersion
  else do
    let version ← byteAt bytes 0
    let payload ← range bytes 1 bytes.length
    return (version, payload)

def decodeChecked (text : String) : Reading Base58Check.Error (UInt8 × Bytes) := do
  let bytes ← settle ((Base58.decode (Text.utf8 (Text.trim text))).mapError .base58)
  let content ← settle (Base58Check.openChecked bytes)
  splitVersion content

def decodeVersioned (version : UInt8) (payload : Bytes) :
    Reading KeyError (PrivateKey × Network) := do
  let network ← settle ((Network.ofPrivateKeyVersion version).mapError .outOfRange)
  if payload.length ≠ Word.byteLength then
    throw (.invalidEncoding (.payloadLength Word.byteLength payload.length))
  else
    let key ← decodePrivateKey payload
    return (key, network)

def decodeWif (text : String) : Reading KeyError (PrivateKey × Network) := do
  let (version, payload) ←
    (decodeChecked text).adapt fun cause => .invalidEncoding (.base58Check cause)
  decodeVersioned version payload

theorem publicPoint_eq (secret : Word) :
    publicPoint secret = settle (Ecdsa.publicPoint secret) := by
  unfold publicPoint Ecdsa.publicPoint
  split
  case isTrue inRange =>
    cases Point.base.multiple secret.toNat with
    | identity => rfl
    | affine x y =>
        simp [Coordinates.ofPoint?]
  case isFalse => rfl

theorem publicPoint_ofWord (secret : Word) :
    (publicPoint secret >>= fun _ => settle (PrivateKey.ofWord secret)) =
      settle (PrivateKey.ofWord secret) := by
  rw [publicPoint_eq]
  by_cases inRange : IsScalar secret
  · rcases PrivateKey.exists_key inRange with ⟨key, rfl⟩
    rw [key.publicPoint_eq, settle_ok, pure_bind]
  · rw [Ecdsa.publicPoint, if_neg inRange, PrivateKey.ofWord_of_not_isScalar inRange, settle_error,
      throw_bind]
    rfl

theorem decodePrivateKey_eq (bytes : Bytes) :
    decodePrivateKey bytes = settle (PrivateKey.ofBytes bytes) := by
  unfold PrivateKey.ofBytes
  split
  case isTrue width =>
    rw [decodePrivateKey, if_neg (not_not_intro width), word_eq (Word.length_le_of_eq width),
      pure_bind, publicPoint_ofWord]
    rfl
  case isFalse wrong => exact if_pos wrong

theorem splitVersion_eq (bytes : Bytes) :
    splitVersion bytes = settle (Base58Check.splitVersion bytes) := by
  cases bytes with
  | nil => rfl
  | cons version payload =>
      rw [splitVersion, if_neg (List.cons_ne_nil _ _), byteAt_zero, range_tail]
      rfl

theorem decodeChecked_eq (text : String) :
    decodeChecked text = settle (Base58Check.decode text) := by
  simp only [decodeChecked, Base58Check.decode, settle_bind, splitVersion_eq]

theorem decodeVersioned_eq (version : UInt8) (payload : Bytes) :
    decodeVersioned version payload = settle (PrivateKey.ofVersioned version payload) := by
  rw [decodeVersioned, PrivateKey.ofVersioned, settle_bind]
  apply bind_congr
  intro network
  by_cases width : payload.length = Word.byteLength
  · rw [if_neg (not_not_intro width), if_neg (not_not_intro width), decodePrivateKey_eq]
    simp only [settle_bind]
    rfl
  · rw [if_pos width, if_pos width]
    rfl

theorem decodeWif_eq (text : String) : decodeWif text = settle (PrivateKey.ofWif text).result := by
  rw [decodeWif, decodeChecked_eq, adapt_settle, PrivateKey.result_ofWif]
  simp only [decodeVersioned_eq]
  exact (settle_bind (decodeBase58Check text) _).symm

/-! ## All decoders -/

/-- Over positions, every decoder comes to the outcome that it has, and not to a fault: no byte
string and no text leads it to a position or a range out of bounds, to a difference below zero, to
an integer without content or to a word of more than 32 bytes. -/
theorem decoders_stay_in_bounds :
    (∀ input : ByteInput,
      (settle input.toBytes >>= decodeDerSignature).run = .ok (Signature.ofDer input).result) ∧
    (∀ input : ByteInput,
      (settle input.toBytes >>= decodeSignature).run = .ok (Signature.ofInput input)) ∧
    (∀ input : ByteInput,
      (settle input.toBytes >>= decodePublicKey).run = .ok (PublicKey.ofInput input).result) ∧
    (∀ input : ByteInput,
      (settle input.toBytes >>= decodePrivateKey).run = .ok (PrivateKey.ofInput input)) ∧
    (∀ text : String,
      (settle (decodeBase64 text) >>= openEnvelope).run =
        .ok (SignedMessage.decodeEnvelope text)) ∧
    ∀ text : String, (decodeWif text).run = .ok (PrivateKey.ofWif text).result := by
  refine ⟨?_, ?_, ?_, ?_, ?_, ?_⟩
  · intro input
    rw [run_settle_bind decodeDerSignature_eq, Signature.ofDer]
    cases input.toBytes with
    | error error => rfl
    | ok bytes => rfl
  · intro input
    exact run_settle_bind decodeSignature_eq input.toBytes
  · intro input
    rw [run_settle_bind decodePublicKey_eq, PublicKey.ofInput]
    cases input.toBytes with
    | error error => rfl
    | ok bytes => exact congrArg Except.ok (PublicKey.result_ofBytes bytes).symm
  · intro input
    exact run_settle_bind decodePrivateKey_eq input.toBytes
  · intro text
    exact run_settle_bind openEnvelope_eq (decodeBase64 text)
  · intro text
    rw [decodeWif_eq]
    rfl

end BitcoinKeys.Positional
