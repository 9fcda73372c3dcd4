import BitcoinKeys.Ecdsa.Verification

/-!
# Recovery

The public points for which a pair of words is a signature of a message: one for every recovery id
that stands for a point of the curve.
-/

namespace BitcoinKeys.Ecdsa

open Secp256k1

def abscissa (r : Scalar) (id : RecoveryId) : Nat :=
  if id.xIsReduced then r.value + groupOrder else r.value

/-- The key that signs a prehash with the point that a recovery id stands for. The signature has to
verify for it, so there is no key for a high `s`. -/
def recoverScalars? (prehash r s : Scalar) (id : RecoveryId) : Option Point := do
  let point ← decompress? (abscissa r id) id.yIsOdd
  let inverse := r.inverse
  let fromBase := Point.base.multiple (-(inverse * prehash)).value
  let fromPoint := point.multiple (inverse * s).value
  let key := fromBase.add fromPoint
  if verifyScalars prehash r s key then some key else none

/-- The public point of the signer of a message, or of a digest if it is not to be hashed first.
Taking the lower `s` mirrors the point that the recovery id stands for. -/
def recover? (message : Bytes) (r s : Word) (hashFirst : Bool) (id : RecoveryId) :
    Option Coordinates := do
  let r ← scalar? r
  let s ← scalar? s
  let word ← prehashWord? (prehash message hashFirst)
  let id := if isHigh s then id.mirrored else id
  let key ← recoverScalars? (reduced word) r (lowered s) id
  Coordinates.ofPoint? key

def candidates (message : Bytes) (r s : Word) (hashFirst : Bool) :
    List (Coordinates × RecoveryId) :=
  RecoveryId.all.filterMap fun id =>
    (recover? message r s hashFirst id).map fun point => (point, id)

end BitcoinKeys.Ecdsa
