import BitcoinKeys.Hash.Sha256

/-!
# HMAC with SHA-256
-/

namespace BitcoinKeys.Hash

/-- The key brought to the length of a block: hashed if it is longer, then filled with zeros. -/
def blockKey (key : Bytes) : Bytes :=
  let short := if key.length ≤ blockLength then key else sha256 key
  short ++ List.replicate (blockLength - short.length) 0

def hmacSha256 (key message : Bytes) : Bytes :=
  let padded := blockKey key
  sha256 (padded.map (· ^^^ 0x5c) ++ sha256 (padded.map (· ^^^ 0x36) ++ message))

@[simp]
theorem length_hmacSha256 (key message : Bytes) : (hmacSha256 key message).length = 32 := rfl

end BitcoinKeys.Hash
