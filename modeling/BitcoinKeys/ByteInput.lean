import BitcoinKeys.KeyError
import BitcoinKeys.Text.Blank

/-!
# Byte input

Decoders take raw bytes, or hexadecimal text that blanks may surround.
-/

namespace BitcoinKeys

inductive ByteInput where
  | raw (bytes : Bytes)
  | hex (text : String)
  deriving DecidableEq, Repr

namespace ByteInput

def isRaw : ByteInput → Bool
  | .raw _ => true
  | .hex _ => false

def toBytes : ByteInput → Except KeyError Bytes
  | .raw bytes => .ok bytes
  | .hex text =>
      (Hex.decode (Text.utf8 (Text.trim text))).mapError fun cause => .invalidEncoding (.hex cause)

end ByteInput

/-- Reads Base64 text that blanks may surround. -/
def decodeBase64 (text : String) : Except KeyError Bytes :=
  (Base64.decode (Text.utf8 (Text.trim text))).mapError fun cause =>
    .invalidEncoding (.base64 cause)

/-- Reads Base58Check text that blanks may surround. -/
def decodeBase58Check (text : String) : Except KeyError (UInt8 × Bytes) :=
  (Base58Check.decode text).mapError fun cause => .invalidEncoding (.base58Check cause)

end BitcoinKeys
