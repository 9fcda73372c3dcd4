import BitcoinKeys.Numeral
import BitcoinKeys.Text.Encoded
import BitcoinKeys.Text.Quoted

/-!
# Base58 text

A byte string is read as one big number and written in base 58. A number has no leading zeros, so
every leading zero byte is written as one leading `1`, the symbol of zero, and read back from it.
-/

namespace BitcoinKeys.Base58

/-- Why a text is not Base58; positions count bytes. -/
inductive Error where
  | nonAscii (position : Nat)
  | invalidCharacter (byte : UInt8) (position : Nat)
  deriving DecidableEq, Repr

def Error.message : Error → String
  | .nonAscii position =>
      "provided string contained non-ascii character starting at byte " ++
        Numeral.decimal position
  | .invalidCharacter byte position =>
      "provided string contained invalid character " ++ Text.quoted byte ++ " at byte " ++
        Numeral.decimal position

/-- The symbol of a value below 58. The alphabet has no `0`, `I`, `O` and `l`. -/
def symbol (value : Nat) : UInt8 :=
  UInt8.ofNat
    (if value < 9 then 0x31 + value
    else if value < 17 then 0x38 + value
    else if value < 22 then 0x39 + value
    else if value < 33 then 0x3A + value
    else if value < 44 then 0x40 + value
    else 0x41 + value)

def value? (byte : UInt8) : Option Nat :=
  let code := byte.toNat
  if 0x31 ≤ code ∧ code ≤ 0x39 then some (code - 0x31)
  else if 0x41 ≤ code ∧ code ≤ 0x48 then some (code - 0x38)
  else if 0x4A ≤ code ∧ code ≤ 0x4E then some (code - 0x39)
  else if 0x50 ≤ code ∧ code ≤ 0x5A then some (code - 0x3A)
  else if 0x61 ≤ code ∧ code ≤ 0x6B then some (code - 0x40)
  else if 0x6D ≤ code ∧ code ≤ 0x7A then some (code - 0x41)
  else none

def toValues (bytes : Bytes) : List Nat :=
  List.replicate (bytes.takeWhile (· == 0)).length 0 ++
    Numeral.digits 58 (by decide) bytes.toNat

def ofValues (values : List Nat) : Bytes :=
  List.replicate (values.takeWhile (· == 0)).length 0 ++
    (Numeral.digits 256 (by decide) (Numeral.value 58 values)).map UInt8.ofNat

def symbols (bytes : Bytes) : Bytes :=
  (toValues bytes).map symbol

def encode (bytes : Bytes) : String :=
  Text.ofAscii (symbols bytes)

/-- The values of symbols, the first of which stands at `position`. -/
def readValues (position : Nat) : Bytes → Except Error (List Nat)
  | [] => .ok []
  | byte :: rest =>
      match value? byte with
      | some value => (readValues (position + 1) rest).map (value :: ·)
      | none =>
          if byte < 0x80 then .error (.invalidCharacter byte position)
          else .error (.nonAscii position)

def decode (text : Bytes) : Except Error Bytes :=
  (readValues 0 text).map ofValues

/-- Two leading zero bytes are two leading ones. -/
example : encode [0x00, 0x00, 0x3A] = "1121" := by decide +kernel

end BitcoinKeys.Base58
