import BitcoinKeys.Bytes
import BitcoinKeys.Secp256k1.Point

/-!
# Coordinates as words

Pairs of 256-bit words that may or may not be the coordinates of a point, and their encodings.
Words at or above the field prime are refused and never reduced, so that a point has one pair of
coordinates.
-/

namespace BitcoinKeys.Secp256k1

structure Coordinates where
  x : Word
  y : Word
  deriving DecidableEq, Repr

namespace Coordinates

def OnCurve (coordinates : Coordinates) : Prop :=
  coordinates.x.toNat < fieldPrime ∧ coordinates.y.toNat < fieldPrime ∧
    coordinates.y.toNat * coordinates.y.toNat % fieldPrime =
      (coordinates.x.toNat * coordinates.x.toNat * coordinates.x.toNat + 7) % fieldPrime

instance (coordinates : Coordinates) : Decidable coordinates.OnCurve :=
  inferInstanceAs (Decidable (_ ∧ _ ∧ _))

def toPoint (coordinates : Coordinates) (onCurve : coordinates.OnCurve) : Point :=
  .affine ⟨coordinates.x.toNat, onCurve.1⟩ ⟨coordinates.y.toNat, onCurve.2.1⟩

/-- The coordinates of a point; the identity has none. -/
def ofPoint? : Point → Option Coordinates
  | .identity => none
  | .affine x y => some ⟨BitVec.ofNat 256 x.value, BitVec.ofNat 256 y.value⟩

def base : Coordinates :=
  ⟨BitVec.ofNat 256 baseX.value, BitVec.ofNat 256 baseY.value⟩

def uncompressedTag : UInt8 := 0x04

/-- The first byte of the compressed form, which tells whether y is odd. -/
def compressedTag (odd : Bool) : UInt8 :=
  if odd then 0x03 else 0x02

def isOdd (coordinates : Coordinates) : Bool :=
  coordinates.y.getLsbD 0

def uncompressed (coordinates : Coordinates) : Bytes :=
  uncompressedTag :: (coordinates.x.toBytes ++ coordinates.y.toBytes)

def compressed (coordinates : Coordinates) : Bytes :=
  compressedTag coordinates.isOdd :: coordinates.x.toBytes

end Coordinates

/-- A square root of a field element, if it has one. The field prime is 3 modulo 4, so that a power
of the element is the only candidate up to its sign. -/
def squareRoot? (element : Coordinate) : Option Coordinate :=
  let root := element.power ((fieldPrime + 1) / 4)
  if root * root = element then some root else none

/-- The y coordinate of the given parity above a field element. -/
def ordinate? (x : Coordinate) (odd : Bool) : Option Coordinate :=
  (squareRoot? (x * x * x + 7)).map fun root =>
    if root.isOdd = odd then root else -root

/-- The point with this x coordinate whose y coordinate has the given parity. -/
def decompress? (x : Nat) (odd : Bool) : Option Point :=
  if below : x < fieldPrime then
    (ordinate? ⟨x, below⟩ odd).map (.affine ⟨x, below⟩)
  else none

/-- The two y coordinates above x, the even one first. -/
def ordinates? (x : Word) : Option (Word × Word) :=
  if below : x.toNat < fieldPrime then
    (ordinate? ⟨x.toNat, below⟩ false).map fun even =>
      (BitVec.ofNat 256 even.value, BitVec.ofNat 256 (fieldPrime - even.value))
  else none

/-- Whether a word is between 1 and the group order less one. -/
def IsScalar (word : Word) : Prop :=
  0 < word.toNat ∧ word.toNat < groupOrder

instance (word : Word) : Decidable (IsScalar word) :=
  inferInstanceAs (Decidable (_ ∧ _))

def scalar? (word : Word) : Option Scalar :=
  if inRange : IsScalar word then some ⟨word.toNat, inRange.2⟩ else none

def Scalar.toWord (scalar : Scalar) : Word :=
  BitVec.ofNat 256 scalar.value

end BitcoinKeys.Secp256k1
