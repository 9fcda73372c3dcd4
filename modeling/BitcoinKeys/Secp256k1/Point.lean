import BitcoinKeys.Secp256k1.Residue

/-!
# The secp256k1 group

The points of `y² = x³ + 7` over the field of `fieldPrime` elements, with the chord and tangent
law, and multiples of a point by repeated doubling.
-/

namespace BitcoinKeys.Secp256k1

/-- The number of elements of the coordinate field, a prime. -/
def fieldPrime : Nat := 0xFFFFFFFFFFFFFFFFFFFFFFFFFFFFFFFFFFFFFFFFFFFFFFFFFFFFFFFEFFFFFC2F

/-- The number of points of the group, a prime. -/
def groupOrder : Nat := 0xFFFFFFFFFFFFFFFFFFFFFFFFFFFFFFFEBAAEDCE6AF48A03BBFD25E8CD0364141

instance : Modulus fieldPrime := ⟨by decide⟩

instance : Modulus groupOrder := ⟨by decide⟩

abbrev Coordinate := Residue fieldPrime

abbrev Scalar := Residue groupOrder

def baseX : Coordinate := 0x79BE667EF9DCBBAC55A06295CE870B07029BFCDB2DCE28D959F2815B16F81798

def baseY : Coordinate := 0x483ADA7726A3C4655DA4FBFC0E1108A8FD17B448A68554199C47D08FFB10D4B8

/-- A point: the identity of the group, or a pair of coordinates. -/
inductive Point where
  | identity
  | affine (x y : Coordinate)
  deriving DecidableEq, Repr

namespace Point

def OnCurve : Point → Prop
  | .identity => True
  | .affine x y => y * y = x * x * x + 7

instance : (point : Point) → Decidable point.OnCurve
  | .identity => .isTrue trivial
  | .affine x y => inferInstanceAs (Decidable (y * y = x * x * x + 7))

def base : Point :=
  .affine baseX baseY

def negate : Point → Point
  | .identity => .identity
  | .affine x y => .affine x (-y)

/-- The slope of the line through two points with different x coordinates, or of the tangent. -/
def slope (x₁ y₁ x₂ y₂ : Coordinate) : Coordinate :=
  if x₁ = x₂ then 3 * (x₁ * x₁) * (2 * y₁).inverse
  else (y₁ - y₂) * (x₁ - x₂).inverse

/-- The sum of two points: the mirror image of the third point on their line. -/
def add : Point → Point → Point
  | .identity, right => right
  | left, .identity => left
  | .affine x₁ y₁, .affine x₂ y₂ =>
      if x₁ = x₂ ∧ y₁ = -y₂ then .identity
      else
        let slope := slope x₁ y₁ x₂ y₂
        let x := slope * slope - x₁ - x₂
        .affine x (slope * (x₁ - x) - y₁)

def multiple (count : Nat) (point : Point) : Point :=
  if count = 0 then .identity
  else
    let even := multiple (count / 2) (point.add point)
    if count % 2 = 1 then point.add even else even
termination_by count

example : base.OnCurve := rfl

example : base.multiple 3 = (base.add base).add base := by decide +kernel

end Point

end BitcoinKeys.Secp256k1
