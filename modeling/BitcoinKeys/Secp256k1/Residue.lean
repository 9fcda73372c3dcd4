/-!
# Residues

Arithmetic modulo a number. Inverses come from Euclid's algorithm and powers from repeated squaring;
the inverse is one whenever the residue has no divisor in common with the modulus.
-/

namespace BitcoinKeys

class Modulus (modulus : Nat) : Prop where
  positive : 0 < modulus

/-- A number below the modulus. -/
structure Residue (modulus : Nat) where
  value : Nat
  value_lt : value < modulus
  deriving DecidableEq, Repr

namespace Residue

variable {modulus : Nat} [Modulus modulus]

def reduce (modulus : Nat) [Modulus modulus] (number : Nat) : Residue modulus :=
  ⟨number % modulus, Nat.mod_lt _ Modulus.positive⟩

instance (number : Nat) : OfNat (Residue modulus) number :=
  ⟨reduce modulus number⟩

instance : Nonempty (Residue modulus) :=
  ⟨0⟩

instance : Add (Residue modulus) :=
  ⟨fun left right => reduce modulus (left.value + right.value)⟩

instance : Neg (Residue modulus) :=
  ⟨fun residue => reduce modulus (modulus - residue.value)⟩

instance : Sub (Residue modulus) :=
  ⟨fun left right => reduce modulus (left.value + (modulus - right.value))⟩

instance : Mul (Residue modulus) :=
  ⟨fun left right => reduce modulus (left.value * right.value)⟩

/-- Euclid's algorithm on two remainders of multiples of one number, which keeps the factor of each
multiple. The answer is the factor that belongs to the greatest common divisor. -/
def euclid (larger smaller : Nat) (largerFactor smallerFactor : Int) : Int :=
  if smaller = 0 then largerFactor
  else
    euclid smaller (larger % smaller) smallerFactor
      (largerFactor - (larger / smaller : Nat) * smallerFactor)
termination_by smaller
decreasing_by exact Nat.mod_lt _ (by omega)

def inverse (residue : Residue modulus) : Residue modulus :=
  reduce modulus (euclid modulus residue.value 0 1 % modulus).toNat

def power (base : Residue modulus) (exponent : Nat) : Residue modulus :=
  if exponent = 0 then 1
  else
    let square := power (base * base) (exponent / 2)
    if exponent % 2 = 1 then base * square else square
termination_by exponent

def isOdd (residue : Residue modulus) : Bool :=
  residue.value % 2 == 1

end Residue

end BitcoinKeys
