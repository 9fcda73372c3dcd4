import BitcoinKeys.Base58
import BitcoinKeys.Hash.Digest
import BitcoinKeys.Text.Blank

/-!
# Base58Check text

Base58 of a version byte, a payload and a checksum: the first four bytes of the double SHA-256
digest of the version and the payload.
-/

namespace BitcoinKeys.Base58Check

inductive Error where
  | base58 (cause : Base58.Error)
  | noChecksum
  | wrongChecksum (calculated found : Bytes)
  | noVersion
  deriving DecidableEq, Repr

/-- A byte string as a list of decimal numbers in brackets. -/
def listing (bytes : Bytes) : String :=
  "[" ++ ", ".intercalate (bytes.map fun byte => Numeral.decimal byte.toNat) ++ "]"

def Error.message : Error → String
  | .base58 cause => cause.message
  | .noChecksum => "provided string is too small to contain a checksum"
  | .wrongChecksum calculated found =>
      "invalid checksum, calculated checksum: '" ++ listing calculated ++
        "', expected checksum: " ++ listing found
  | .noVersion => "missing version byte"

def checksumLength : Nat := 4

def checksum (content : Bytes) : Bytes :=
  (Hash.doubleSha256 content).take checksumLength

def encode (version : UInt8) (payload : Bytes) : String :=
  let content := version :: payload
  Base58.encode (content ++ checksum content)

/-- Takes the checksum off a byte string that ends in the right one. -/
def openChecked (bytes : Bytes) : Except Error Bytes :=
  if bytes.length < checksumLength then .error .noChecksum
  else
    let content := bytes.take (bytes.length - checksumLength)
    let found := bytes.drop (bytes.length - checksumLength)
    if checksum content = found then .ok content
    else .error (.wrongChecksum (checksum content) found)

def splitVersion : Bytes → Except Error (UInt8 × Bytes)
  | [] => .error .noVersion
  | version :: payload => .ok (version, payload)

def decode (text : String) : Except Error (UInt8 × Bytes) := do
  let bytes ← (Base58.decode (Text.utf8 (Text.trim text))).mapError .base58
  splitVersion (← openChecked bytes)

end BitcoinKeys.Base58Check
