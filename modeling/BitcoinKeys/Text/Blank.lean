/-!
# Blank characters

The characters with the Unicode property `White_Space`, and the removal of those at both ends of
a text.
-/

namespace BitcoinKeys.Text

def isBlank (char : Char) : Bool :=
  let code := char.toNat
  (0x09 ≤ code && code ≤ 0x0D) || code == 0x20 || code == 0x85 || code == 0xA0 ||
    code == 0x1680 || (0x2000 ≤ code && code ≤ 0x200A) || code == 0x2028 || code == 0x2029 ||
    code == 0x202F || code == 0x205F || code == 0x3000

/-- The characters between the first and the last one that is not blank. -/
def trimmed (chars : List Char) : List Char :=
  ((chars.dropWhile isBlank).reverse.dropWhile isBlank).reverse

def trim (text : String) : String :=
  String.ofList (trimmed text.toList)

/-- The blanks inside a text stay. -/
example : trim "\u00a0a b\n" = "a b" := rfl

end BitcoinKeys.Text
