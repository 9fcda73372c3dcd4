import BitcoinKeys.Numeral

/-!
# Quoted characters

A byte shown in messages as the quoted character of the same number. Quotes, backslashes and
characters without a visible form are escaped.
-/

namespace BitcoinKeys.Text

/-- Whether the Latin-1 character of this number has a visible form. -/
def isVisible (byte : UInt8) : Bool :=
  (0x20 ≤ byte && byte ≤ 0x7E) || (0xA1 ≤ byte && byte != 0xAD)

def escaped (byte : UInt8) : String :=
  if byte = 0x00 then "\\0"
  else if byte = 0x09 then "\\t"
  else if byte = 0x0A then "\\n"
  else if byte = 0x0D then "\\r"
  else if byte = 0x27 then "\\'"
  else if byte = 0x5C then "\\\\"
  else if isVisible byte then String.ofList [Char.ofNat byte.toNat]
  else "\\u\x7b" ++ Numeral.hexadecimal byte.toNat ++ "\x7d"

def quoted (byte : UInt8) : String :=
  "'" ++ escaped byte ++ "'"

example : quoted 0x41 = "'A'" := rfl

example : quoted 0x1B = "'\\u\x7b1b\x7d'" := by decide +kernel

end BitcoinKeys.Text
