import BitcoinKeys.Text.Encoded
import BitcoinKeys.Text.Quoted

/-!
# Hexadecimal text

Two digits for every byte. Writing uses lowercase digits; reading accepts both cases, and checks
the number of digits before any digit.
-/

namespace BitcoinKeys.Hex

inductive Error where
  | oddLength
  | invalidCharacter (byte : UInt8) (position : Nat)
  deriving DecidableEq, Repr

def Error.message : Error → String
  | .oddLength => "Odd number of digits"
  | .invalidCharacter byte position =>
      "Invalid character " ++ Text.quoted byte ++ " at position " ++ Numeral.decimal position

def symbol (value : Nat) : UInt8 :=
  UInt8.ofNat (if value < 10 then 0x30 + value else 0x57 + value)

def value? (byte : UInt8) : Option Nat :=
  let code := byte.toNat
  if 0x30 ≤ code ∧ code ≤ 0x39 then some (code - 0x30)
  else if 0x41 ≤ code ∧ code ≤ 0x46 then some (code - 0x37)
  else if 0x61 ≤ code ∧ code ≤ 0x66 then some (code - 0x57)
  else none

def symbols (bytes : Bytes) : Bytes :=
  bytes.flatMap fun byte => [symbol (byte.toNat / 16), symbol (byte.toNat % 16)]

def encode (bytes : Bytes) : String :=
  Text.ofAscii (symbols bytes)

def readDigit (position : Nat) (byte : UInt8) : Except Error Nat :=
  match value? byte with
  | some value => .ok value
  | none => .error (.invalidCharacter byte position)

/-- Reads pairs of digits, the first of which stands at `position`. -/
def decodePairs (position : Nat) : Bytes → Except Error Bytes
  | [] => .ok []
  | [_] => .error .oddLength
  | first :: second :: rest => do
      let high ← readDigit position first
      let low ← readDigit (position + 1) second
      let bytes ← decodePairs (position + 2) rest
      return UInt8.ofNat (16 * high + low) :: bytes

def decode (digits : Bytes) : Except Error Bytes :=
  if digits.length % 2 = 1 then .error .oddLength
  else decodePairs 0 digits

example : encode [0x0F, 0xA0] = "0fa0" := rfl

example : decode (Text.utf8 "0Fa0") = .ok [0x0F, 0xA0] := rfl

/-- The number of digits is checked first. -/
example : decode (Text.utf8 "0 g") = .error .oddLength := rfl

example : decode (Text.utf8 "0g") = .error (.invalidCharacter 0x67 1) := rfl

end BitcoinKeys.Hex
