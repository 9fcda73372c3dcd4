import BitcoinKeys.Hash.Ripemd160
import BitcoinKeys.Hash.Sha256

/-!
# Composed digests

The double digest that checksums and signed messages use, and the short digest of a public key.
-/

namespace BitcoinKeys.Hash

def doubleSha256 (message : Bytes) : Bytes :=
  sha256 (sha256 message)

def hash160 (message : Bytes) : Bytes :=
  ripemd160 (sha256 message)

@[simp]
theorem length_doubleSha256 (message : Bytes) : (doubleSha256 message).length = 32 := rfl

@[simp]
theorem length_hash160 (message : Bytes) : (hash160 message).length = 20 := rfl

end BitcoinKeys.Hash
