import BitcoinKeys.Ecdsa.Recovery
import BitcoinKeys.Ecdsa.Verification
import BitcoinKeys.SignedMessage

/-!
# Public keys

A point of the curve with the digests of both its forms. A key exists only for coordinates that are
on the curve, whichever constructor makes it.
-/

namespace BitcoinKeys

open Secp256k1

/-- A point of the curve, with the digests of its uncompressed and compressed forms. -/
structure PublicKey where
  point : Coordinates
  onCurve : point.OnCurve
  uncompressedDigest : Bytes
  compressedDigest : Bytes
  uncompressedDigest_eq : uncompressedDigest = Hash.hash160 point.uncompressed
  compressedDigest_eq : compressedDigest = Hash.hash160 point.compressed
  deriving DecidableEq

namespace PublicKey

def ofOnCurve (point : Coordinates) (onCurve : point.OnCurve) : PublicKey where
  point
  onCurve
  uncompressedDigest := Hash.hash160 point.uncompressed
  compressedDigest := Hash.hash160 point.compressed
  uncompressedDigest_eq := rfl
  compressedDigest_eq := rfl

def ofPoint (point : Coordinates) : Except KeyError PublicKey :=
  if onCurve : point.OnCurve then .ok (ofOnCurve point onCurve) else .error .pointNotOnCurve

def toBytes (key : PublicKey) : Bytes :=
  key.point.uncompressed

def toCompressed (key : PublicKey) : Bytes :=
  key.point.compressed

def toHex (key : PublicKey) : String :=
  Hex.encode key.toBytes

def toBase64 (key : PublicKey) : String :=
  Base64.encode key.toBytes

/-- Both coordinates in one integer, x in the upper half. -/
def toInteger (key : PublicKey) : BitVec 512 :=
  key.point.x ++ key.point.y

def hash160 (key : PublicKey) (compressed : Bool) : Bytes :=
  if compressed then key.compressedDigest else key.uncompressedDigest

def address (key : PublicKey) (compressed : Bool) (network : Network) : String :=
  Base58Check.encode network.addressVersion (key.hash160 compressed)

/-- The key of a form without its tag, which is the uncompressed one. -/
def ofUncompressed (content : Bytes) : Except KeyError PublicKey :=
  if width : content.length = 2 * Word.byteLength then
    ofPoint {
      x := Word.ofBytes (content.take Word.byteLength) (List.length_take_le _ _)
      y := Word.ofBytes (content.drop Word.byteLength) (by
        rw [List.length_drop, width]
        decide) }
  else
    .error (.invalidEncoding (.secLength Coordinates.uncompressedTag (1 + 2 * Word.byteLength)
      (1 + content.length)))

/-- The key of a form without its tag, which is the compressed one for this parity of y. -/
def ofCompressed (odd : Bool) (content : Bytes) : Except KeyError PublicKey :=
  if width : content.length = Word.byteLength then
    let x := Word.ofFixed content width
    match ordinates? x with
    | none => .error .pointNotOnCurve
    | some (evenY, oddY) => ofPoint { x, y := if odd then oddY else evenY }
  else
    .error (.invalidEncoding (.secLength (Coordinates.compressedTag odd) (1 + Word.byteLength)
      (1 + content.length)))

/-- The key of a tagged form. A tag that is not known gives no key, and no error. -/
def ofTagged : Bytes → Except KeyError (Option PublicKey)
  | [] => .error (.invalidEncoding .empty)
  | tag :: content =>
      if tag = Coordinates.uncompressedTag then (ofUncompressed content).map some
      else if tag = Coordinates.compressedTag false then (ofCompressed false content).map some
      else if tag = Coordinates.compressedTag true then (ofCompressed true content).map some
      else .ok none

/-- Decodes a tagged form, and reports a tag that is not known. -/
def ofBytes (bytes : Bytes) : Logged (Except KeyError (Option PublicKey)) :=
  match ofTagged bytes, bytes with
  | .ok none, tag :: _ => ⟨.ok none, [.unrecognizedSecTag tag]⟩
  | outcome, _ => .quiet outcome

def ofInput (input : ByteInput) : Logged (Except KeyError (Option PublicKey)) :=
  match input.toBytes with
  | .ok bytes => ofBytes bytes
  | .error error => .quiet (.error error)

def ofBase64 (text : String) : Logged (Except KeyError (Option PublicKey)) :=
  match decodeBase64 text with
  | .ok bytes => ofBytes bytes
  | .error error => .quiet (.error error)

/-- The key whose coordinates are the halves of an integer. -/
def ofInteger (value : BitVec 512) : Except KeyError PublicKey :=
  ofPoint { x := value.extractLsb' 256 256, y := value.extractLsb' 0 256 }

/-- Whether a signature of a message verifies for the key. Text that is not hexadecimal does not
verify. -/
def verify (key : PublicKey) (message : ByteInput) (signature : Signature) (hashFirst : Bool) :
    Bool :=
  match message.toBytes with
  | .ok bytes => Ecdsa.verify bytes signature.r signature.s key.point hashFirst
  | .error _ => false

/-- The key that a signature of a message belongs to, by the recovery id that it carries. An id
that stands for no key is not an error. -/
def ofSignature (message : ByteInput) (signature : Signature) :
    Except KeyError (Option PublicKey) := do
  let bytes ← message.toBytes
  match signature.recoveryId with
  | none => .error (.recoveryUnavailable .missingRecoveryId)
  | some id =>
      if IsScalar signature.r ∧ IsScalar signature.s then
        match (Ecdsa.RecoveryId.ofByte? id).bind
            (Ecdsa.recover? bytes signature.r signature.s true) with
        | none => .ok none
        | some point => (ofPoint point).map some
      else .error (.recoveryUnavailable .invalidSignature)

def ofSignedMessage (message : Bytes) (envelope : String) : Except KeyError PublicKey := do
  let signature ← SignedMessage.decodeEnvelope envelope
  let digest ← SignedMessage.digest message
  match ← ofSignature (.raw digest) signature with
  | some key => .ok key
  | none => .error (.recoveryUnavailable .noCandidate)

def verifySignedMessage (key : PublicKey) (message : Bytes) (envelope : String) :
    Except KeyError Bool := do
  let signature ← SignedMessage.decodeEnvelope envelope
  let digest ← SignedMessage.digest message
  return key.verify (.raw digest) signature true

/-- Whether the envelope of a message verifies for the key that it gives. -/
def verifyRecovered (message : Bytes) (envelope : String) : Except KeyError Bool := do
  let key ← ofSignedMessage message envelope
  key.verifySignedMessage message envelope

def description (key : PublicKey) : String :=
  "PublicKey \x7b point: CurvePoint \x7b x: " ++ Numeral.decimal key.point.x.toNat ++ ", y: " ++
    Numeral.decimal key.point.y.toNat ++ " \x7d, hash160_uncompressed: " ++
    Base58Check.listing key.uncompressedDigest ++ ", hash160_compressed: " ++
    Base58Check.listing key.compressedDigest ++ " \x7d"

/-- A key is determined by its point. -/
theorem eq_of_point_eq {left right : PublicKey} (equal : left.point = right.point) :
    left = right := by
  rcases left with ⟨point, _, uncompressed, compressed, rfl, rfl⟩
  rcases right with ⟨_, _, uncompressed, compressed, rfl, rfl⟩
  cases equal
  rfl

end PublicKey

end BitcoinKeys
