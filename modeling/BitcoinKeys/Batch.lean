import BitcoinKeys.PublicKey

/-!
# Batches

Requests to verify a signature, their outcomes, and the tally of a list of outcomes.
-/

namespace BitcoinKeys

/-- A request to verify a signature of a message, or of a digest if it is not to be hashed first. -/
structure VerificationRequest where
  publicKey : PublicKey
  message : Bytes
  signature : Signature
  hashFirst : Bool

/-- The outcome of a request: whether the signature verifies, or why this could not be found out. -/
inductive VerificationOutcome where
  | valid
  | invalid
  | failed (error : KeyError)
  deriving DecidableEq, Repr

namespace VerificationOutcome

def isValid : VerificationOutcome → Bool
  | .valid => true
  | _ => false

def error? : VerificationOutcome → Option KeyError
  | .failed error => some error
  | _ => none

end VerificationOutcome

namespace VerificationRequest

def digestLength : Nat := 32

/-- Verifies one signature. What is not hashed first has to have the length of a digest. -/
def run (request : VerificationRequest) : VerificationOutcome :=
  if request.hashFirst || request.message.length = digestLength then
    if request.publicKey.verify (.raw request.message) request.signature request.hashFirst then
      .valid
    else .invalid
  else .failed (.invalidEncoding (.length digestLength request.message.length))

end VerificationRequest

structure BatchOutcome where
  outcomes : List VerificationOutcome
  deriving DecidableEq, Repr

namespace BatchOutcome

def validCount (batch : BatchOutcome) : Nat :=
  batch.outcomes.countP VerificationOutcome.isValid

def invalidCount (batch : BatchOutcome) : Nat :=
  batch.outcomes.length - batch.validCount

def allValid (batch : BatchOutcome) : Bool :=
  batch.invalidCount == 0

def ofRequests (requests : List VerificationRequest) : BatchOutcome :=
  ⟨requests.map VerificationRequest.run⟩

end BatchOutcome

end BitcoinKeys
