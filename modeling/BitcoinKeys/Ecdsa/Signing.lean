import BitcoinKeys.Ecdsa.Nonce
import BitcoinKeys.Ecdsa.RecoveryId
import BitcoinKeys.Signature

/-!
# Signing

The public point of a secret scalar, and signatures made with it. Of the two values of `s` that
verify, signing gives the one in the lower half of the scalars.
-/

namespace BitcoinKeys.Ecdsa

open Secp256k1

def publicPoint (secret : Word) : Except KeyError Coordinates :=
  if IsScalar secret then
    match Coordinates.ofPoint? (Point.base.multiple secret.toNat) with
    | some point => .ok point
    | none => .error (.outOfRange .privateScalar)
  else .error (.outOfRange .privateScalar)

def isHigh (scalar : Scalar) : Bool :=
  groupOrder / 2 < scalar.value

/-- The scalar in the lower half that agrees with the given one up to its sign. -/
def lowered (scalar : Scalar) : Scalar :=
  if isHigh scalar then -scalar else scalar

/-- The signature of a prehash by a secret scalar with a nonce, unless a component is zero. Taking
the lower `s` mirrors the point that the recovery id tells about. -/
def signWithNonce? (secret nonce prehash : Scalar) : Option Signature :=
  match Point.base.multiple nonce.value with
  | .identity => none
  | .affine x y =>
      let r := Residue.reduce groupOrder x.value
      let s := nonce.inverse * (prehash + r * secret)
      if r = 0 ∨ s = 0 then none
      else
        let id : RecoveryId :=
          { yIsOdd := y.isOdd != isHigh s, xIsReduced := groupOrder ≤ x.value }
        some {
          r := Scalar.toWord r
          s := Scalar.toWord (lowered s)
          recoveryId := some id.toByte }

def signPrehash? (secret : Scalar) (prehash : Bytes) : Option Signature := do
  let word ← prehashWord? prehash
  signWithNonce? secret (deterministicNonce secret.toWord word) (reduced word)

def sign (message : Bytes) (secret : Word) (hashFirst : Bool) : Except KeyError Signature :=
  match scalar? secret with
  | none => .error (.outOfRange .privateScalar)
  | some scalar =>
      match signPrehash? scalar (prehash message hashFirst) with
      | some signature => .ok signature
      | none => .error .signingFailed

end BitcoinKeys.Ecdsa
