import BitcoinKeys.Ecdsa.Prehash
import BitcoinKeys.Hash.Hmac

/-!
# Deterministic nonces

The nonce of a signature comes out of a generator that is keyed with the secret scalar and the
prehash, so that signing needs no source of randomness.
-/

namespace BitcoinKeys.Ecdsa

structure Generator where
  key : Bytes
  value : Bytes

namespace Generator

def mix (generator : Generator) (separator : UInt8) (data : Bytes) : Generator :=
  let key := Hash.hmacSha256 generator.key (generator.value ++ separator :: data)
  ⟨key, Hash.hmacSha256 key generator.value⟩

/-- The generator for a secret scalar and a prehash. The prehash enters as it is, also when it is at
or above the group order. -/
def seeded (secret prehash : Word) : Generator :=
  let data := secret.toBytes ++ prehash.toBytes
  let start : Generator := ⟨List.replicate 32 0x00, List.replicate 32 0x01⟩
  (start.mix 0x00 data).mix 0x01 data

def output (generator : Generator) : Bytes :=
  Hash.hmacSha256 generator.key generator.value

/-- The scalar of the output, unless it is zero or out of range. -/
def scalar? (generator : Generator) : Option Secp256k1.Scalar :=
  Secp256k1.scalar? (BitVec.ofNat 256 generator.output.toNat)

def next (generator : Generator) : Generator :=
  mix ⟨generator.key, generator.output⟩ 0x00 []

/-- One attempt of the search for a scalar, which gives the generator to go on with or the scalar. -/
def attempt (generator : Generator) : Id (Generator ⊕ Secp256k1.Scalar) :=
  match generator.scalar? with
  | some scalar => pure (.inr scalar)
  | none => pure (.inl generator.next)

/-- The first scalar among the outputs. The search has no bound: it ends at a scalar only, and stands
for no scalar in particular where it does not end. -/
def firstScalar (generator : Generator) : Secp256k1.Scalar :=
  Id.run (repeatM attempt generator)

end Generator

def deterministicNonce (secret prehash : Word) : Secp256k1.Scalar :=
  (Generator.seeded secret prehash).firstScalar

end BitcoinKeys.Ecdsa
