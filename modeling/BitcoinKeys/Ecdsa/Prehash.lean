import BitcoinKeys.Hash.Sha256
import BitcoinKeys.Secp256k1.Coordinates

/-!
# Prehashes

What is signed in place of a message: its SHA-256 digest, or the message itself if it is a digest
already. A prehash of at least 16 bytes stands for a word.
-/

namespace BitcoinKeys.Ecdsa

def prehash (message : Bytes) (hashFirst : Bool) : Bytes :=
  if hashFirst then Hash.sha256 message else message

def minimumPrehash : Nat := 16

/-- The word of a prehash: its first 32 bytes, or all of it with zero bytes in front. -/
def prehashWord? (prehash : Bytes) : Option Word :=
  if prehash.length < minimumPrehash then none
  else some (Word.ofBytes (prehash.take Word.byteLength) (List.length_take_le _ _))

/-- The scalar of a word, which may be at or above the group order. -/
def reduced (word : Word) : Secp256k1.Scalar :=
  Residue.reduce Secp256k1.groupOrder word.toNat

end BitcoinKeys.Ecdsa
