import BitcoinKeys.Hash.Digest
import BitcoinKeys.Signature

/-!
# Signed messages

What is signed for a message, and the Base64 envelope that carries the signature. The length of a
message has to fit one byte, and the first byte of an envelope tells the recovery id.
-/

namespace BitcoinKeys.SignedMessage

/-- What stands in front of every message: a length byte and a sentence. -/
def header : Bytes :=
  0x18 :: Text.utf8 "Bitcoin Signed Message:\n"

def maximumLength : Nat := 255

def preimage (message : Bytes) : Except KeyError Bytes :=
  if message.length ≤ maximumLength then
    .ok (header ++ UInt8.ofNat message.length :: message)
  else .error (.messageTooLong message.length)

/-- The SHA-256 digest of the preimage. Signing hashes it once more. -/
def digest (message : Bytes) : Except KeyError Bytes :=
  (preimage message).map Hash.sha256

/-- The first byte of an envelope with recovery id zero. -/
def firstMagic : UInt8 := 27

def maximumRecoveryId : UInt8 := 3

def envelopeLength : Nat := 1 + Signature.byteLength

def encodeEnvelope (signature : Signature) : Except KeyError String :=
  match signature.recoveryId with
  | none => .error (.recoveryUnavailable .missingRecoveryId)
  | some id =>
      if id ≤ maximumRecoveryId then .ok (Base64.encode ((firstMagic + id) :: signature.toBytes))
      else .error (.recoveryUnavailable (.invalidRecoveryId id))

/-- The recovery id that the first byte of an envelope stands for. -/
def recoveryIdOfMagic (magic : UInt8) : Except KeyError UInt8 :=
  if firstMagic ≤ magic ∧ magic ≤ firstMagic + maximumRecoveryId then .ok (magic - firstMagic)
  else .error (.recoveryUnavailable (.unsupportedMagic magic))

def openEnvelope : Bytes → Except KeyError Signature
  | [] => .error (.invalidEncoding (.length envelopeLength 0))
  | magic :: content =>
      if content.length + 1 = envelopeLength then do
        let id ← recoveryIdOfMagic magic
        let signature ← Signature.ofBytes content
        return signature.withRecoveryId id
      else .error (.invalidEncoding (.length envelopeLength (content.length + 1)))

def decodeEnvelope (text : String) : Except KeyError Signature := do
  openEnvelope (← decodeBase64 text)

end BitcoinKeys.SignedMessage
