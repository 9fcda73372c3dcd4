/-!
# Recovery ids

What a verifier has to know, besides a signature, to tell which point the signer used.
-/

namespace BitcoinKeys.Ecdsa

/-- Which of the points with a given `r` is meant: whether its y coordinate is odd, and whether its
x coordinate was reduced by the group order to give `r`. -/
structure RecoveryId where
  yIsOdd : Bool
  xIsReduced : Bool
  deriving DecidableEq, Repr

namespace RecoveryId

/-- The number of an id: bit 0 for the parity of y, bit 1 for the reduction of x. -/
def toByte (id : RecoveryId) : UInt8 :=
  (if id.yIsOdd then 1 else 0) + (if id.xIsReduced then 2 else 0)

def all : List RecoveryId :=
  [⟨false, false⟩, ⟨true, false⟩, ⟨false, true⟩, ⟨true, true⟩]

def ofByte? (byte : UInt8) : Option RecoveryId :=
  all.find? fun id => id.toByte == byte

def mirrored (id : RecoveryId) : RecoveryId :=
  { id with yIsOdd := !id.yIsOdd }

theorem ofByte?_toByte (id : RecoveryId) : ofByte? id.toByte = some id := by
  rcases id with ⟨_ | _, _ | _⟩ <;> rfl

end RecoveryId

end BitcoinKeys.Ecdsa
