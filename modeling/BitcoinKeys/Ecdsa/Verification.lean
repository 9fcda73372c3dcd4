import BitcoinKeys.Ecdsa.Signing

/-!
# Verification

Whether a pair of words is a signature of a message for a public point. Scalars with a high `s` are
refused, so verification of words takes the lower of the two values first and accepts both.
-/

namespace BitcoinKeys.Ecdsa

open Secp256k1

/-- Whether `s` is not high, and the point that a signature of a prehash determines has an x
coordinate that gives `r`. -/
def verifyScalars (prehash r s : Scalar) (key : Point) : Bool :=
  if isHigh s then false
  else
    let inverse := s.inverse
    let fromBase := Point.base.multiple (prehash * inverse).value
    let fromKey := key.multiple (r * inverse).value
    match fromBase.add fromKey with
    | .identity => false
    | .affine x _ => Residue.reduce groupOrder x.value == r

def verify (message : Bytes) (r s : Word) (key : Coordinates) (hashFirst : Bool) : Bool :=
  if onCurve : key.OnCurve then
    match scalar? r, scalar? s, prehashWord? (prehash message hashFirst) with
    | some r, some s, some word =>
        verifyScalars (reduced word) r (lowered s) (key.toPoint onCurve)
    | _, _, _ => false
  else false

end BitcoinKeys.Ecdsa
