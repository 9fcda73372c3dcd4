import BitcoinKeys.Hash.Block

/-!
# RIPEMD-160

Two lines of 80 steps run over every block of the padded message, and their results are added
crosswise. A digest has 20 bytes, whatever the message.
-/

namespace BitcoinKeys.Hash

namespace Ripemd160

structure State where
  a : UInt32
  b : UInt32
  c : UInt32
  d : UInt32
  e : UInt32

def State.initial : State :=
  ⟨0x67452301, 0xefcdab89, 0x98badcfe, 0x10325476, 0xc3d2e1f0⟩

def mixings : List (UInt32 → UInt32 → UInt32 → UInt32) := [
  fun x y z => x ^^^ y ^^^ z,
  fun x y z => (x &&& y) ||| (~~~x &&& z),
  fun x y z => (x ||| ~~~y) ^^^ z,
  fun x y z => (x &&& z) ||| (y &&& ~~~z),
  fun x y z => x ^^^ (y ||| ~~~z)]

/-- One round of a line: its mixing function, its constant, and for each of its 16 steps the
index of a word and a rotation. -/
structure Round where
  mixing : UInt32 → UInt32 → UInt32 → UInt32
  constant : UInt32
  steps : List (Nat × UInt32)

def rounds (mixings : List (UInt32 → UInt32 → UInt32 → UInt32)) (constants : List UInt32)
    (indices : List (List Nat)) (rotations : List (List UInt32)) : List Round :=
  (mixings.zip constants).zipWith (fun round steps => ⟨round.1, round.2, steps⟩)
    (indices.zipWith List.zip rotations)

def leftRounds : List Round :=
  rounds mixings [0x00000000, 0x5a827999, 0x6ed9eba1, 0x8f1bbcdc, 0xa953fd4e]
    [[0, 1, 2, 3, 4, 5, 6, 7, 8, 9, 10, 11, 12, 13, 14, 15],
      [7, 4, 13, 1, 10, 6, 15, 3, 12, 0, 9, 5, 2, 14, 11, 8],
      [3, 10, 14, 4, 9, 15, 8, 1, 2, 7, 0, 6, 13, 11, 5, 12],
      [1, 9, 11, 10, 0, 8, 12, 4, 13, 3, 7, 15, 14, 5, 6, 2],
      [4, 0, 5, 9, 7, 12, 2, 10, 14, 1, 3, 8, 11, 6, 15, 13]]
    [[11, 14, 15, 12, 5, 8, 7, 9, 11, 13, 14, 15, 6, 7, 9, 8],
      [7, 6, 8, 13, 11, 9, 7, 15, 7, 12, 15, 9, 11, 7, 13, 12],
      [11, 13, 6, 7, 14, 9, 13, 15, 14, 8, 13, 6, 5, 12, 7, 5],
      [11, 12, 14, 15, 14, 15, 9, 8, 9, 14, 5, 6, 8, 6, 5, 12],
      [9, 15, 5, 11, 6, 8, 13, 12, 5, 12, 13, 14, 11, 8, 5, 6]]

def rightRounds : List Round :=
  rounds mixings.reverse [0x50a28be6, 0x5c4dd124, 0x6d703ef3, 0x7a6d76e9, 0x00000000]
    [[5, 14, 7, 0, 9, 2, 11, 4, 13, 6, 15, 8, 1, 10, 3, 12],
      [6, 11, 3, 7, 0, 13, 5, 10, 14, 15, 8, 12, 4, 9, 1, 2],
      [15, 5, 1, 3, 7, 14, 6, 9, 11, 8, 12, 2, 10, 0, 4, 13],
      [8, 6, 4, 1, 3, 11, 15, 0, 5, 12, 2, 13, 9, 7, 10, 14],
      [12, 15, 10, 4, 1, 5, 8, 7, 6, 2, 13, 14, 0, 3, 9, 11]]
    [[8, 9, 9, 11, 13, 15, 15, 5, 7, 7, 8, 11, 14, 14, 12, 6],
      [9, 13, 15, 7, 12, 8, 9, 11, 7, 7, 12, 7, 6, 15, 13, 11],
      [9, 7, 15, 11, 8, 6, 6, 14, 12, 13, 5, 14, 13, 13, 7, 5],
      [15, 5, 8, 11, 14, 14, 6, 14, 6, 9, 12, 9, 12, 5, 15, 8],
      [8, 5, 12, 9, 12, 5, 14, 6, 8, 13, 6, 5, 15, 13, 11, 11]]

def step (round : Round) (state : State) (word rotation : UInt32) : State :=
  let ⟨a, b, c, d, e⟩ := state
  let next := rotateLeft (a + round.mixing b c d + word + round.constant) rotation + e
  ⟨e, next, b, rotateLeft c 10, d⟩

def runLine (line : List Round) (words : Array UInt32) (state : State) : State :=
  line.foldl (fun state round =>
    round.steps.foldl (fun state choice =>
      step round state (words.getD choice.1 0) choice.2) state) state

def compress (state : State) (block : Bytes) : State :=
  let words := (littleEndianWords block).toArray
  let left := runLine leftRounds words state
  let right := runLine rightRounds words state
  ⟨state.b + left.c + right.d, state.c + left.d + right.e, state.d + left.e + right.a,
    state.e + left.a + right.b, state.a + left.b + right.c⟩

def State.toBytes (state : State) : Bytes :=
  [state.a, state.b, state.c, state.d, state.e].flatMap littleEndianBytes

end Ripemd160

def ripemd160 (message : Bytes) : Bytes :=
  let blocks := paddedBlocks (fun bits => (Bytes.ofNat 8 bits).reverse) message
  (blocks.foldl Ripemd160.compress Ripemd160.State.initial).toBytes

@[simp]
theorem length_ripemd160 (message : Bytes) : (ripemd160 message).length = 20 := rfl

example : (ripemd160 []).take 4 = [0x9C, 0x11, 0x85, 0xA5] := by decide +kernel

end BitcoinKeys.Hash
