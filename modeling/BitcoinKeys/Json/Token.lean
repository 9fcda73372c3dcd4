import BitcoinKeys.Numeral

/-!
# JSON tokens

The tokens of a JSON text, between which white space may stand. Strings and numbers are checked in
full. A string keeps its text, unless an escape in it names half of a surrogate pair; a number keeps
its value, if it is written as a natural number.
-/

namespace BitcoinKeys.Json

inductive Token where
  | openObject
  | closeObject
  | openArray
  | closeArray
  | comma
  | colon
  | null
  | bool (value : Bool)
  | number (natural? : Option Nat)
  | string (text? : Option String)
  deriving DecidableEq, Repr

def isSpace (char : Char) : Bool :=
  char == ' ' || char == '\n' || char == '\t' || char == '\r'

/-- A part of a string: a character, or the code unit that an escape names. -/
inductive Piece where
  | char (char : Char)
  | unit (code : Nat)
  deriving DecidableEq, Repr

def hexDigit? (char : Char) : Option Nat :=
  if '0' ≤ char ∧ char ≤ '9' then some (char.toNat - '0'.toNat)
  else if 'a' ≤ char ∧ char ≤ 'f' then some (char.toNat - 'a'.toNat + 10)
  else if 'A' ≤ char ∧ char ≤ 'F' then some (char.toNat - 'A'.toNat + 10)
  else none

def codeUnit? (digits : List Char) : Option Nat :=
  (digits.mapM hexDigit?).map (Numeral.value 16)

/-- The character that a one-letter escape stands for. -/
def escape? (char : Char) : Option Char :=
  match char with
  | '"' => some '"'
  | '\\' => some '\\'
  | '/' => some '/'
  | 'b' => some '\x08'
  | 'f' => some '\x0c'
  | 'n' => some '\n'
  | 'r' => some '\r'
  | 't' => some '\t'
  | _ => none

/-- Reads a string behind its opening quote, and gives its parts and what follows the closing
quote. -/
def readPieces : List Char → Option (List Piece × List Char)
  | [] => none
  | '"' :: rest => some ([], rest)
  | '\\' :: 'u' :: a :: b :: c :: d :: rest => do
      let code ← codeUnit? [a, b, c, d]
      let (pieces, after) ← readPieces rest
      return (.unit code :: pieces, after)
  | '\\' :: letter :: rest => do
      let char ← escape? letter
      let (pieces, after) ← readPieces rest
      return (.char char :: pieces, after)
  | char :: rest =>
      if char.toNat < 0x20 ∨ char = '\\' then none
      else do
        let (pieces, after) ← readPieces rest
        return (.char char :: pieces, after)

def isHighSurrogate (code : Nat) : Bool :=
  0xD800 ≤ code && code ≤ 0xDBFF

def isLowSurrogate (code : Nat) : Bool :=
  0xDC00 ≤ code && code ≤ 0xDFFF

/-- The text of the parts of a string, whose surrogates have to come in pairs. -/
def joinPieces : List Piece → Option (List Char)
  | [] => some []
  | .char char :: rest => (joinPieces rest).map (char :: ·)
  | .unit high :: .unit low :: rest =>
      if isHighSurrogate high then
        if isLowSurrogate low then
          let code := 0x10000 + (high - 0xD800) * 0x400 + (low - 0xDC00)
          (joinPieces rest).map (Char.ofNat code :: ·)
        else none
      else if isLowSurrogate high then none
      else (joinPieces (.unit low :: rest)).map (Char.ofNat high :: ·)
  | .unit code :: rest =>
      if isHighSurrogate code || isLowSurrogate code then none
      else (joinPieces rest).map (Char.ofNat code :: ·)

def dropDigits (chars : List Char) : Option (List Char) :=
  match chars with
  | [] => none
  | char :: rest => if char.isDigit then some (rest.dropWhile Char.isDigit) else none

def dropFraction (chars : List Char) : Option (List Char) :=
  match chars with
  | '.' :: rest => dropDigits rest
  | _ => some chars

def dropSign (chars : List Char) : List Char :=
  match chars with
  | '+' :: rest => rest
  | '-' :: rest => rest
  | _ => chars

def dropExponent (chars : List Char) : Option (List Char) :=
  match chars with
  | 'e' :: rest => dropDigits (dropSign rest)
  | 'E' :: rest => dropDigits (dropSign rest)
  | _ => some chars

def naturalOf (digits : List Char) : Nat :=
  Numeral.value 10 (digits.map fun digit => digit.toNat - '0'.toNat)

/-- Reads the integer part of a number, which has no needless zero in front. -/
def readWhole (chars : List Char) : Option (Nat × List Char) :=
  match chars with
  | [] => none
  | char :: rest =>
      if char = '0' then some (0, rest)
      else if char.isDigit then
        some (naturalOf (char :: rest.takeWhile Char.isDigit), rest.dropWhile Char.isDigit)
      else none

/-- Reads a number, and gives its value, if it is written as a natural number, and what follows. -/
def readNumber (chars : List Char) : Option (Option Nat × List Char) :=
  match chars with
  | '-' :: unsigned => do
      let (_, rest) ← readWhole unsigned
      let after ← dropExponent (← dropFraction rest)
      return (none, after)
  | _ => do
      let (whole, rest) ← readWhole chars
      let after ← dropExponent (← dropFraction rest)
      return (if after = rest then some whole else none, after)

end BitcoinKeys.Json
