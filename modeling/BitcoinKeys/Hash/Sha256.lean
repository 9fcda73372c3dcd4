import BitcoinKeys.Hash.Block

/-!
# SHA-256

The compression function runs over the blocks of the padded message. A digest has 32 bytes,
whatever the message.
-/

namespace BitcoinKeys.Hash

namespace Sha256

structure State where
  a : UInt32
  b : UInt32
  c : UInt32
  d : UInt32
  e : UInt32
  f : UInt32
  g : UInt32
  h : UInt32

/-- The first 32 bits of the fractional parts of the square roots of the first eight primes. -/
def State.initial : State :=
  ⟨0x6a09e667, 0xbb67ae85, 0x3c6ef372, 0xa54ff53a,
    0x510e527f, 0x9b05688c, 0x1f83d9ab, 0x5be0cd19⟩

/-- The first 32 bits of the fractional parts of the cube roots of the first 64 primes. -/
def roundConstants : List UInt32 := [
    0x428a2f98, 0x71374491, 0xb5c0fbcf, 0xe9b5dba5, 0x3956c25b, 0x59f111f1,
    0x923f82a4, 0xab1c5ed5, 0xd807aa98, 0x12835b01, 0x243185be, 0x550c7dc3,
    0x72be5d74, 0x80deb1fe, 0x9bdc06a7, 0xc19bf174, 0xe49b69c1, 0xefbe4786,
    0x0fc19dc6, 0x240ca1cc, 0x2de92c6f, 0x4a7484aa, 0x5cb0a9dc, 0x76f988da,
    0x983e5152, 0xa831c66d, 0xb00327c8, 0xbf597fc7, 0xc6e00bf3, 0xd5a79147,
    0x06ca6351, 0x14292967, 0x27b70a85, 0x2e1b2138, 0x4d2c6dfc, 0x53380d13,
    0x650a7354, 0x766a0abb, 0x81c2c92e, 0x92722c85, 0xa2bfe8a1, 0xa81a664b,
    0xc24b8b70, 0xc76c51a3, 0xd192e819, 0xd6990624, 0xf40e3585, 0x106aa070,
    0x19a4c116, 0x1e376c08, 0x2748774c, 0x34b0bcb5, 0x391c0cb3, 0x4ed8aa4a,
    0x5b9cca4f, 0x682e6ff3, 0x748f82ee, 0x78a5636f, 0x84c87814, 0x8cc70208,
    0x90befffa, 0xa4506ceb, 0xbef9a3f7, 0xc67178f2]

/-- Puts the next word of the message schedule in front of the words so far, of which the latest
comes first. It is made from the words 16, 15, 7 and 2 places back. -/
def extendSchedule (words : List UInt32) : List UInt32 :=
  let word (back : Nat) : UInt32 := words.getD (back - 1) 0
  let early := word 15
  let late := word 2
  let sigma0 := rotateRight early 7 ^^^ rotateRight early 18 ^^^ early >>> 3
  let sigma1 := rotateRight late 17 ^^^ rotateRight late 19 ^^^ late >>> 10
  (sigma1 + word 7 + sigma0 + word 16) :: words

/-- The message schedule: the 16 words of a block and 48 further ones. -/
def schedule (block : List UInt32) : List UInt32 :=
  (Nat.repeat extendSchedule 48 block.reverse).reverse

def round (state : State) (constant word : UInt32) : State :=
  let ⟨a, b, c, d, e, f, g, h⟩ := state
  let sum1 := rotateRight e 6 ^^^ rotateRight e 11 ^^^ rotateRight e 25
  let choice := (e &&& f) ^^^ (~~~e &&& g)
  let first := h + sum1 + choice + constant + word
  let sum0 := rotateRight a 2 ^^^ rotateRight a 13 ^^^ rotateRight a 22
  let majority := (a &&& b) ^^^ (a &&& c) ^^^ (b &&& c)
  ⟨first + (sum0 + majority), a, b, c, d + first, e, f, g⟩

def compress (state : State) (block : Bytes) : State :=
  let mixed := (roundConstants.zip (schedule (bigEndianWords block))).foldl
    (fun state step => round state step.1 step.2) state
  ⟨state.a + mixed.a, state.b + mixed.b, state.c + mixed.c, state.d + mixed.d,
    state.e + mixed.e, state.f + mixed.f, state.g + mixed.g, state.h + mixed.h⟩

def State.toBytes (state : State) : Bytes :=
  [state.a, state.b, state.c, state.d, state.e, state.f, state.g, state.h].flatMap bigEndianBytes

end Sha256

def sha256 (message : Bytes) : Bytes :=
  ((paddedBlocks (Bytes.ofNat 8) message).foldl Sha256.compress Sha256.State.initial).toBytes

@[simp]
theorem length_sha256 (message : Bytes) : (sha256 message).length = 32 := rfl

example : (sha256 []).take 4 = [0xE3, 0xB0, 0xC4, 0x42] := by decide +kernel

end BitcoinKeys.Hash
