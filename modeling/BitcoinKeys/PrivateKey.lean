import BitcoinKeys.PublicKey

/-!
# Private keys

A secret scalar with the public key that belongs to it, its forms and its decoders, and the drawing
of a key from a stream of random bytes.
-/

namespace BitcoinKeys

open Secp256k1

structure PrivateKey where
  scalar : Word
  publicKey : PublicKey
  publicPoint_eq : Ecdsa.publicPoint scalar = .ok publicKey.point

namespace PrivateKey

/-- Keys are compared by their scalars alone. -/
instance : BEq PrivateKey :=
  ⟨fun left right => left.scalar == right.scalar⟩

def ofWord (scalar : Word) : Except KeyError PrivateKey :=
  match derived : Ecdsa.publicPoint scalar with
  | .error error => .error error
  | .ok point =>
      if onCurve : point.OnCurve then
        .ok ⟨scalar, .ofOnCurve point onCurve, derived⟩
      else .error .pointNotOnCurve

def toBytes (key : PrivateKey) : Bytes :=
  key.scalar.toBytes

def toHex (key : PrivateKey) : String :=
  Hex.encode key.toBytes

/-- The text in which keys of a network are exported. -/
def toWif (key : PrivateKey) (network : Network) : String :=
  Base58Check.encode network.privateKeyVersion key.toBytes

def ofBytes (bytes : Bytes) : Except KeyError PrivateKey :=
  if width : bytes.length = Word.byteLength then ofWord (Word.ofFixed bytes width)
  else .error (.invalidEncoding (.length Word.byteLength bytes.length))

def ofInput (input : ByteInput) : Except KeyError PrivateKey := do
  ofBytes (← input.toBytes)

def ofHex (text : String) : Except KeyError PrivateKey :=
  ofInput (.hex text)

/-- The key and the network of the version byte and the payload of an exported key. -/
def ofVersioned (version : UInt8) (payload : Bytes) : Except KeyError (PrivateKey × Network) := do
  let network ← (Network.ofPrivateKeyVersion version).mapError .outOfRange
  if payload.length ≠ Word.byteLength then
    throw (.invalidEncoding (.payloadLength Word.byteLength payload.length))
  let key ← ofBytes payload
  return (key, network)

/-- Decodes an exported key of either network. A rejection is reported if the text is Base58Check at
all. -/
def ofWif (text : String) : Logged (Except KeyError (PrivateKey × Network)) :=
  match decodeBase58Check text with
  | .error error => .quiet (.error error)
  | .ok (version, payload) =>
      match ofVersioned version payload with
      | .ok decoded => .quiet (.ok decoded)
      | .error error => ⟨.error error, [.rejectedPrivateKey error version]⟩

def sign (key : PrivateKey) (message : Bytes) (hashFirst : Bool) : Except KeyError Signature :=
  Ecdsa.sign message key.scalar hashFirst

def signMessage (key : PrivateKey) (message : Bytes) : Except KeyError String := do
  let digest ← SignedMessage.digest message
  SignedMessage.encodeEnvelope (← key.sign digest true)

/-- The next 32 bytes of a random stream, which goes on with bytes 0x01 behind its end. -/
def nextWord (stream : Bytes) : Word :=
  Word.ofBytes ((stream ++ List.replicate Word.byteLength 0x01).take Word.byteLength)
    (List.length_take_le _ _)

/-- The first word of a random stream that is in the range of scalars, and the number of bytes that
were taken. Behind the end of the stream every word is in range. -/
def drawWord (stream : Bytes) : Word × Nat :=
  if stream = [] ∨ IsScalar (nextWord stream) then (nextWord stream, Word.byteLength)
  else
    let (word, taken) := drawWord (stream.drop Word.byteLength)
    (word, Word.byteLength + taken)
termination_by stream.length
decreasing_by
  rename_i refused
  have nonempty : stream ≠ [] := fun empty => refused (.inl empty)
  have positive := List.length_pos_iff.mpr nonempty
  rw [List.length_drop, Word.byteLength]
  omega

def draw (stream : Bytes) : Except KeyError (PrivateKey × Nat) := do
  let (word, taken) := drawWord stream
  return (← ofWord word, taken)

def description (key : PrivateKey) : String :=
  "PrivateKey \x7b scalar: \"<redacted>\", public_key: " ++ key.publicKey.description ++ " \x7d"

end PrivateKey

end BitcoinKeys
