import BitcoinKeys.Numeral
import BitcoinKeys.Hex
import BitcoinKeys.Secp256k1.Coordinates

/-!
# Strict DER

A signature as a sequence of two integers. Every integer is positive and as short as it can be, all
lengths agree, and nothing follows the second integer, so that a signature has one encoding. Every
departure from the format has an error of its own.
-/

namespace BitcoinKeys.Der

inductive Component where
  | r
  | s
  deriving DecidableEq, Repr

def Component.name : Component → String
  | .r => "r"
  | .s => "s"

inductive Error where
  | tooShort (length : Nat)
  | wrongSequenceTag (tag : UInt8)
  | lengthMismatch (declared remaining : Nat)
  | missingMarker (component : Component)
  | invalidLength (component : Component) (length : Nat)
  | negative (component : Component)
  | excessivelyPadded (component : Component)
  | trailingBytes (count : Nat)
  | outOfRange (component : Component)
  deriving DecidableEq, Repr

def Error.message : Error → String
  | .tooShort length => "too short (" ++ Numeral.decimal length ++ " bytes, minimum 8)"
  | .wrongSequenceTag tag =>
      "wrong sequence tag 0x" ++ Hex.encode [tag] ++ " (expected 0x30)"
  | .lengthMismatch declared remaining =>
      "length mismatch: declared " ++ Numeral.decimal declared ++ ", remaining " ++
        Numeral.decimal remaining
  | .missingMarker component => "no INTEGER marker for " ++ component.name
  | .invalidLength component length =>
      "incorrect " ++ component.name ++ " length " ++ Numeral.decimal length
  | .negative component => component.name ++ " is negative"
  | .excessivelyPadded component => component.name ++ " is excessively padded"
  | .trailingBytes count => Numeral.decimal count ++ " trailing bytes after s"
  | .outOfRange component => component.name ++ " is not between 1 and n - 1"

def sequenceTag : UInt8 := 0x30

def integerTag : UInt8 := 0x02

/-- The length of the shortest signature, whose integers have one byte each. -/
def minimumLength : Nat := 8

def hasSignBit : Bytes → Bool
  | [] => false
  | byte :: _ => 0x80 ≤ byte

/-- The content of an integer: the shortest big-endian form whose sign bit is not set. -/
def integer (value : Word) : Bytes :=
  if hasSignBit value.minimalBytes then 0 :: value.minimalBytes else value.minimalBytes

def taggedInteger (value : Word) : Bytes :=
  integerTag :: UInt8.ofNat (integer value).length :: integer value

def encode (r s : Word) : Bytes :=
  let content := taggedInteger r ++ taggedInteger s
  sequenceTag :: UInt8.ofNat content.length :: content

example : encode 1 0xFF = [0x30, 0x07, 0x02, 0x01, 0x01, 0x02, 0x02, 0x00, 0xFF] := rfl

def openSequence : Bytes → Except Error Bytes
  | tag :: declared :: content =>
      if tag ≠ sequenceTag then .error (.wrongSequenceTag tag)
      else if declared.toNat ≠ content.length then
        .error (.lengthMismatch declared.toNat content.length)
      else .ok content
  | short => .error (.tooShort short.length)

/-- Splits an integer from the bytes behind it, of which there have to be at least `reserve`. -/
def takeInteger (component : Component) (reserve : Nat) : Bytes → Except Error (Bytes × Bytes)
  | tag :: length :: rest =>
      if tag ≠ integerTag then .error (.missingMarker component)
      else if length = 0 ∨ rest.length < length.toNat + reserve then
        .error (.invalidLength component length.toNat)
      else .ok (rest.take length.toNat, rest.drop length.toNat)
  | [tag] =>
      if tag ≠ integerTag then .error (.missingMarker component)
      else .error (.invalidLength component 0)
  | [] => .error (.missingMarker component)

/-- Checks that an integer is not negative and has no needless zero byte in front. -/
def checkInteger (component : Component) (content : Bytes) : Except Error Unit :=
  if hasSignBit content then .error (.negative component)
  else
    match content with
    | 0 :: next :: _ =>
        if next < 0x80 then .error (.excessivelyPadded component) else .ok ()
    | _ => .ok ()

/-- The value of a big-endian byte string of any length, if it is a scalar other than zero. -/
def scalarValue? (content : Bytes) : Option Word :=
  if fits : content.significant.length ≤ Word.byteLength then
    let word := Word.ofBytes content.significant fits
    if Secp256k1.IsScalar word then some word else none
  else none

def readScalar (component : Component) (content : Bytes) : Except Error Word :=
  match scalarValue? content with
  | some word => .ok word
  | none => .error (.outOfRange component)

/-- The two integers of a signature in strict DER. The smallest `s`, of three bytes, has to fit
behind `r`. -/
def decode (bytes : Bytes) : Except Error (Word × Word) := do
  if bytes.length < minimumLength then throw (.tooShort bytes.length)
  let content ← openSequence bytes
  let (rContent, rest) ← takeInteger .r 3 content
  checkInteger .r rContent
  let (sContent, rest) ← takeInteger .s 0 rest
  if rest.length ≠ 0 then throw (.trailingBytes rest.length)
  checkInteger .s sContent
  let r ← readScalar .r rContent
  let s ← readScalar .s sContent
  return (r, s)

example : decode [0x30, 0x07, 0x02, 0x01, 0x01, 0x02, 0x02, 0x00, 0xFF] = .ok (1, 0xFF) := rfl

end BitcoinKeys.Der
