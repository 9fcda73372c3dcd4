import BitcoinKeys.Proofs.PrivateKey.Wif
import BitcoinKeys.Proofs.PublicKey.Recovery
import Mathlib.Data.Nat.ModEq

/-! # Constructors of keys

Keys come from many sources, and each source stands for coordinates or for a secret. Whichever
source a key comes from, it is the key of what the source stands for. -/

namespace BitcoinKeys

open Secp256k1

/-! ## Public keys -/

namespace PublicKey

/-- The key has the coordinates, which are canonical and on the curve, and the digests of its own
forms. -/
structure IsKeyOf (key : PublicKey) (point : Coordinates) : Prop where
  point_eq : key.point = point
  x_lt : point.x.toNat < fieldPrime
  y_lt : point.y.toNat < fieldPrime
  equation : point.y.toNat ^ 2 ≡ point.x.toNat ^ 3 + 7 [MOD fieldPrime]
  uncompressedDigest_eq : key.uncompressedDigest = Hash.hash160 key.toBytes
  compressedDigest_eq : key.compressedDigest = Hash.hash160 key.toCompressed

theorem isKeyOf_iff {key : PublicKey} {point : Coordinates} :
    key.IsKeyOf point ↔ key.point = point := by
  constructor
  · exact IsKeyOf.point_eq
  · intro equal
    have onCurve := key.onCurve
    rw [equal, Coordinates.onCurve_iff_isPoint] at onCurve
    rcases onCurve with ⟨x_lt, y_lt, equation⟩
    exact ⟨equal, x_lt, y_lt, equation, key.uncompressedDigest_eq, key.compressedDigest_eq⟩

/-- The id of a signature stands for the point, among the points that recovery finds. -/
def Recovers (message : Bytes) (signature : Signature) (point : Coordinates) : Prop :=
  ∃ id : Ecdsa.RecoveryId, signature.recoveryId = some id.toByte ∧
    (point, id) ∈ Ecdsa.candidates message signature.r signature.s true

/-- What a public key can be made of. -/
inductive Source where
  | point (point : Coordinates)
  | form (input : ByteInput)
  | base64 (text : String)
  | integer (value : BitVec 512)
  | privateKey (key : PrivateKey)
  | signature (message : ByteInput) (signature : Signature)
  | signedMessage (message : Bytes) (envelope : String)

namespace Source

def key? : Source → Except KeyError (Option PublicKey)
  | .point coordinates => (ofPoint coordinates).map some
  | .form input => (ofInput input).result
  | .base64 text => (ofBase64 text).result
  | .integer value => (ofInteger value).map some
  | .privateKey key => .ok (some key.publicKey)
  | .signature message signed => ofSignature message signed
  | .signedMessage message envelope => (ofSignedMessage message envelope).map some

/-- The source stands for the coordinates, whether they are on the curve or not. -/
def StandsFor : Source → Coordinates → Prop
  | .point given, coordinates => given = coordinates
  | .form input, coordinates =>
      input.toBytes = .ok coordinates.uncompressed ∨ input.toBytes = .ok coordinates.compressed
  | .base64 text, coordinates =>
      decodeBase64 text = .ok coordinates.uncompressed ∨
        decodeBase64 text = .ok coordinates.compressed
  | .integer value, coordinates => value = coordinates.x ++ coordinates.y
  | .privateKey key, coordinates =>
      Coordinates.ofPoint? (Point.base.multiple key.scalar.toNat) = some coordinates
  | .signature message signed, coordinates =>
      ∃ bytes, message.toBytes = .ok bytes ∧ Recovers bytes signed coordinates
  | .signedMessage message envelope, coordinates =>
      ∃ signed, SignedMessage.decodeEnvelope envelope = .ok signed ∧
        ∃ digest, SignedMessage.digest message = .ok digest ∧ Recovers digest signed coordinates

theorem key?_eq_some_iff_standsFor (source : Source) (key : PublicKey) :
    source.key? = .ok (some key) ↔ source.StandsFor key.point := by
  cases source with
  | point coordinates =>
      rw [key?, StandsFor, map_some_eq_ok_iff, ofPoint_eq_ok_iff, eq_comm]
  | form input => rw [key?, StandsFor, result_ofInput_eq_some_iff, toBytes, toCompressed]
  | base64 text => rw [key?, StandsFor, result_ofBase64_eq_some_iff, toBytes, toCompressed]
  | integer value =>
      rw [key?, StandsFor, map_some_eq_ok_iff, ofInteger_eq_ok_iff, toInteger]
  | privateKey secretKey =>
      rw [key?, StandsFor, secretKey.ofPoint?_multiple, Except.ok.injEq, Option.some.injEq,
        Option.some.injEq]
      exact ⟨congrArg PublicKey.point, eq_of_point_eq⟩
  | signature message signed =>
      simp only [key?, StandsFor, Recovers, Ecdsa.mem_candidates, ofSignature_eq_some_iff]
  | signedMessage message envelope =>
      simp only [key?, StandsFor, Recovers, Ecdsa.mem_candidates, map_some_eq_ok_iff,
        ofSignedMessage_eq_ok_iff, ofSignature_eq_some_iff, ByteInput.toBytes, Except.ok.injEq,
        exists_eq_left']

theorem key?_eq_some_iff (source : Source) (key : PublicKey) :
    source.key? = .ok (some key) ↔
      ∃ coordinates, source.StandsFor coordinates ∧ key.IsKeyOf coordinates := by
  simp only [source.key?_eq_some_iff_standsFor, isKeyOf_iff, exists_eq_right']

end Source

end PublicKey

/-! ## Private keys -/

namespace PrivateKey

/-- The key has the secret, which is in range, and the public key of the multiple of the base point
by the secret. -/
structure IsKeyOf (key : PrivateKey) (secret : Word) : Prop where
  scalar_eq : key.scalar = secret
  one_le : 1 ≤ secret.toNat
  lt_groupOrder : secret.toNat < groupOrder
  publicKey : ∃ point, Coordinates.ofPoint? (Point.base.multiple secret.toNat) = some point ∧
    key.publicKey.IsKeyOf point

theorem isKeyOf_iff {key : PrivateKey} {secret : Word} :
    key.IsKeyOf secret ↔ key.scalar = secret := by
  constructor
  · exact IsKeyOf.scalar_eq
  · intro equal
    have inRange := key.isScalar_scalar
    have multiple := key.ofPoint?_multiple
    rw [equal] at inRange multiple
    exact ⟨equal, inRange.1, inRange.2, _, multiple, PublicKey.isKeyOf_iff.mpr rfl⟩

/-- What a private key can be made of. -/
inductive Source where
  | integer (secret : Word)
  | form (input : ByteInput)
  | hex (text : String)
  | wif (text : String)
  | random (stream : Bytes)

namespace Source

def key : Source → Except KeyError PrivateKey
  | .integer secret => ofWord secret
  | .form input => ofInput input
  | .hex text => ofHex text
  | .wif text => (ofWif text).result.map Prod.fst
  | .random stream => (draw stream).map Prod.fst

/-- The source stands for the secret, whether it is in range or not. -/
def StandsFor : Source → Word → Prop
  | .integer value, secret => value = secret
  | .form input, secret => input.toBytes = .ok secret.toBytes
  | .hex text, secret => (ByteInput.hex text).toBytes = .ok secret.toBytes
  | .wif text, secret =>
      ∃ network : Network,
        Text.trim text = Base58Check.encode network.privateKeyVersion secret.toBytes
  | .random stream, secret => (drawWord stream).1 = secret

theorem key_eq_ok_iff_standsFor (source : Source) (made : PrivateKey) :
    source.key = .ok made ↔ source.StandsFor made.scalar := by
  cases source with
  | integer secret => rw [key, StandsFor, ofWord_eq_ok_iff, eq_comm]
  | form input => rw [key, StandsFor, ofInput_eq_ok_iff, toBytes]
  | hex text => rw [key, StandsFor, ofHex, ofInput_eq_ok_iff, toBytes]
  | wif text =>
      simp only [key, StandsFor, map_eq_ok_iff, Prod.exists, exists_and_right, exists_eq_right,
        result_ofWif_eq_ok_iff, toWif, toBytes]
  | random stream =>
      rcases exists_draw stream with ⟨drawn, equal, scalar⟩
      rw [key, StandsFor, equal, ← scalar]
      change (Except.ok drawn : Except KeyError PrivateKey) = .ok made ↔ _
      rw [Except.ok.injEq, scalar_injective.eq_iff]

theorem key_eq_ok_iff (source : Source) (made : PrivateKey) :
    source.key = .ok made ↔ ∃ secret, source.StandsFor secret ∧ made.IsKeyOf secret := by
  simp only [source.key_eq_ok_iff_standsFor, isKeyOf_iff, exists_eq_right']

end Source

end PrivateKey

/-- Every source of public keys gives exactly the key of the coordinates that it stands for, which
are on the curve, and keys are equal exactly if their points are. Every source of private keys gives
exactly the key of the secret that it stands for, which is in range. A random stream always gives a
key, and a word gives one exactly if it is in range, with one error otherwise. -/
theorem constructors_sound :
    (∀ (source : PublicKey.Source) (key : PublicKey),
      source.key? = .ok (some key) ↔
        ∃ coordinates, source.StandsFor coordinates ∧ key.IsKeyOf coordinates) ∧
    (∀ left right : PublicKey, left = right ↔ left.point = right.point) ∧
    (∀ (source : PrivateKey.Source) (key : PrivateKey),
      source.key = .ok key ↔ ∃ secret, source.StandsFor secret ∧ key.IsKeyOf secret) ∧
    (∀ stream, ∃ key, (PrivateKey.Source.random stream).key = .ok key) ∧
    (∀ secret : Word, (∃ key, PrivateKey.ofWord secret = .ok key) ↔
      1 ≤ secret.toNat ∧ secret.toNat < groupOrder) ∧
    ∀ (secret : Word) (error : KeyError), PrivateKey.ofWord secret = .error error ↔
      ¬ (1 ≤ secret.toNat ∧ secret.toNat < groupOrder) ∧ error = .outOfRange .privateScalar := by
  refine ⟨?_, ?_, ?_, ?_, ?_, ?_⟩
  · intro source key
    exact source.key?_eq_some_iff key
  · intro left right
    exact ⟨congrArg PublicKey.point, PublicKey.eq_of_point_eq⟩
  · intro source key
    exact source.key_eq_ok_iff key
  · intro stream
    rcases PrivateKey.exists_draw stream with ⟨key, drawn, _⟩
    refine ⟨key, ?_⟩
    rw [PrivateKey.Source.key, drawn]
    rfl
  · intro secret
    exact PrivateKey.exists_ofWord_iff
  · intro secret error
    exact PrivateKey.ofWord_eq_error_iff

end BitcoinKeys
