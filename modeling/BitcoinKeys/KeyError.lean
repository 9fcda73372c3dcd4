import BitcoinKeys.Base58Check
import BitcoinKeys.Base64
import BitcoinKeys.Der
import BitcoinKeys.Hex

/-!
# Errors

Why an operation on keys and signatures fails, with the facts that the message reports. The wording
stands in the `message` functions alone.
-/

namespace BitcoinKeys

inductive EncodingError where
  | empty
  | hex (cause : Hex.Error)
  | base64 (cause : Base64.Error)
  | base58Check (cause : Base58Check.Error)
  | payloadLength (expected actual : Nat)
  | secLength (tag : UInt8) (expected actual : Nat)
  | length (expected actual : Nat)
  | der (cause : Der.Error)
  deriving DecidableEq, Repr

def EncodingError.message : EncodingError → String
  | .empty => "empty input"
  | .hex cause => "invalid hex: " ++ cause.message
  | .base64 cause => "invalid base64: " ++ cause.message
  | .base58Check cause => "invalid base58check: " ++ cause.message
  | .payloadLength expected actual =>
      "invalid base58check payload length: expected " ++ Numeral.decimal expected ++ ", got " ++
        Numeral.decimal actual
  | .secLength tag expected actual =>
      "SEC key with prefix 0x" ++ Hex.encode [tag] ++ " must be " ++ Numeral.decimal expected ++
        " bytes, got " ++ Numeral.decimal actual
  | .length expected actual =>
      "expected " ++ Numeral.decimal expected ++ " bytes, got " ++ Numeral.decimal actual
  | .der cause => "DER signature: " ++ cause.message

inductive RangeError where
  | privateScalar
  | unknownVersion (version : UInt8)
  deriving DecidableEq, Repr

def RangeError.message : RangeError → String
  | .privateScalar => "private key scalar must be in [1, n - 1]"
  | .unknownVersion version =>
      "unrecognized private key version byte 0x" ++ Hex.encode [version]

inductive RecoveryFailure where
  | missingRecoveryId
  | invalidRecoveryId (id : UInt8)
  | invalidSignature
  | unsupportedMagic (magic : UInt8)
  | noCandidate
  deriving DecidableEq, Repr

def RecoveryFailure.message : RecoveryFailure → String
  | .missingRecoveryId => "signature has no recovery id"
  | .invalidRecoveryId id => "recovery id " ++ Numeral.decimal id.toNat ++ " out of range"
  | .invalidSignature => "signature components out of range"
  | .unsupportedMagic magic => "unsupported magic byte " ++ Numeral.decimal magic.toNat
  | .noCandidate => "no candidate key matches the recovery id"

inductive KeyError where
  | invalidEncoding (cause : EncodingError)
  | outOfRange (cause : RangeError)
  | pointNotOnCurve
  | recoveryUnavailable (cause : RecoveryFailure)
  | messageTooLong (length : Nat)
  | signingFailed
  | batchTooLarge (size maximum : Nat)
  | zeroBatchSize
  deriving DecidableEq, Repr

def KeyError.message : KeyError → String
  | .invalidEncoding cause => "Invalid encoding: " ++ cause.message
  | .outOfRange cause => "Value out of range: " ++ cause.message
  | .pointNotOnCurve => "Point is not on the secp256k1 curve"
  | .recoveryUnavailable cause => "Public key recovery unavailable: " ++ cause.message
  | .messageTooLong length =>
      "Message too long for a Bitcoin signed message: " ++ Numeral.decimal length ++
        " bytes (max 255)"
  | .signingFailed => "Signing failed: signature error"
  | .batchTooLarge size maximum =>
      "Batch too large: " ++ Numeral.decimal size ++ " requests (max " ++
        Numeral.decimal maximum ++ ")"
  | .zeroBatchSize => "Invalid configuration: max_batch_size cannot be 0"

end BitcoinKeys
