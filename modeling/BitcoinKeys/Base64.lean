import BitcoinKeys.Numeral
import BitcoinKeys.Text.Encoded

/-!
# Base64 text

The standard alphabet with padding. Three bytes become four symbols; one or two bytes at the end
become two or three symbols and padding up to four. Reading is canonical: the padding is required,
and the unused bits of the last symbol have to be zero.
-/

namespace BitcoinKeys.Base64

/-- Why a text is not canonical Base64; offsets count bytes. -/
inductive Error where
  | invalidSymbol (byte : UInt8) (offset : Nat)
  | invalidLength (length : Nat)
  | invalidPadding
  | invalidLastSymbol (byte : UInt8) (offset : Nat)
  deriving DecidableEq, Repr

def Error.message : Error → String
  | .invalidSymbol byte offset =>
      "Invalid symbol " ++ Numeral.decimal byte.toNat ++ ", offset " ++
        Numeral.decimal offset ++ "."
  | .invalidLength length => "Invalid input length: " ++ Numeral.decimal length
  | .invalidPadding => "Invalid padding"
  | .invalidLastSymbol byte offset =>
      "Invalid last symbol " ++ Numeral.decimal byte.toNat ++ ", offset " ++
        Numeral.decimal offset ++ "."

def padding : UInt8 := 0x3D

def symbol (value : Nat) : UInt8 :=
  UInt8.ofNat
    (if value < 26 then 0x41 + value
    else if value < 52 then 0x47 + value
    else if value < 62 then value - 4
    else if value = 62 then 0x2B
    else 0x2F)

def value? (byte : UInt8) : Option Nat :=
  let code := byte.toNat
  if 0x41 ≤ code ∧ code ≤ 0x5A then some (code - 0x41)
  else if 0x61 ≤ code ∧ code ≤ 0x7A then some (code - 0x47)
  else if 0x30 ≤ code ∧ code ≤ 0x39 then some (code + 4)
  else if code = 0x2B then some 62
  else if code = 0x2F then some 63
  else none

def symbols : Bytes → Bytes
  | [] => []
  | [first] =>
      [symbol (first.toNat / 4), symbol (first.toNat % 4 * 16), padding, padding]
  | [first, second] =>
      [symbol (first.toNat / 4), symbol (first.toNat % 4 * 16 + second.toNat / 16),
        symbol (second.toNat % 16 * 4), padding]
  | first :: second :: third :: rest =>
      symbol (first.toNat / 4) :: symbol (first.toNat % 4 * 16 + second.toNat / 16) ::
        symbol (second.toNat % 16 * 4 + third.toNat / 64) :: symbol (third.toNat % 64) ::
        symbols rest

def encode (bytes : Bytes) : String :=
  Text.ofAscii (symbols bytes)

def readSymbol (offset : Nat) (byte : UInt8) : Except Error Nat :=
  match value? byte with
  | some value => .ok value
  | none => .error (.invalidSymbol byte offset)

def firstByte (first second : Nat) : UInt8 :=
  UInt8.ofNat (first * 4 + second / 16)

def secondByte (second third : Nat) : UInt8 :=
  UInt8.ofNat (second % 16 * 16 + third / 4)

def thirdByte (third fourth : Nat) : UInt8 :=
  UInt8.ofNat (third % 4 * 64 + fourth)

/-- Reads the symbols of the last group, which starts at `start`, from its position `index` on.
The values read so far are `values`; the answer adds the number of padding symbols. Padding may not
stand before the third position, and no symbol may follow it. -/
def scanLast (start index : Nat) (values : List Nat) : Bytes → Except Error (List Nat × Nat)
  | [] => .ok (values, 0)
  | byte :: rest =>
      if byte = padding then
        if index < 2 then .error (.invalidSymbol padding (start + index))
        else if rest.all (· == padding) then .ok (values, rest.length + 1)
        else .error (.invalidSymbol padding (start + index))
      else do
        let value ← readSymbol (start + index) byte
        scanLast start (index + 1) (values ++ [value]) rest

def closeLast (start : Nat) : (values : List Nat) → (paddings : Nat) → Except Error Bytes
  | [], _ => .error (.invalidLength start)
  | [_], _ => .error (.invalidLength (start + 1))
  | [first, second], paddings =>
      if paddings ≠ 2 then .error .invalidPadding
      else if second % 16 ≠ 0 then .error (.invalidLastSymbol (symbol second) (start + 1))
      else .ok [firstByte first second]
  | [first, second, third], paddings =>
      if paddings ≠ 1 then .error .invalidPadding
      else if third % 4 ≠ 0 then .error (.invalidLastSymbol (symbol third) (start + 2))
      else .ok [firstByte first second, secondByte second third]
  | first :: second :: third :: fourth :: _, _ =>
      .ok [firstByte first second, secondByte second third, thirdByte third fourth]

def decodeLast (start : Nat) (group : Bytes) : Except Error Bytes := do
  let (values, paddings) ← scanLast start 0 [] group
  closeLast start values paddings

/-- Reads groups of four symbols, the first of which stands at `start`. Padding may occur in the
last group only. -/
def decodeGroups (start : Nat) : Bytes → Except Error Bytes
  | [] => .ok []
  | first :: second :: third :: fourth :: rest =>
      if rest.isEmpty then decodeLast start [first, second, third, fourth]
      else do
        let first ← readSymbol start first
        let second ← readSymbol (start + 1) second
        let third ← readSymbol (start + 2) third
        let fourth ← readSymbol (start + 3) fourth
        let bytes ← decodeGroups (start + 4) rest
        return firstByte first second :: secondByte second third :: thirdByte third fourth :: bytes
  | group => decodeLast start group

/-- A byte that is left over after full groups and is neither a symbol nor padding. -/
def strayByte? (text : Bytes) : Option UInt8 :=
  if text.length % 4 = 1 then
    text.getLast?.filter fun byte => byte != padding && (value? byte).isNone
  else none

/-- Reads Base64 symbols given as ASCII bytes. A stray last byte is reported before any other
fault. -/
def decode (text : Bytes) : Except Error Bytes :=
  match strayByte? text with
  | some byte => .error (.invalidSymbol byte (text.length - 1))
  | none => decodeGroups 0 text

example : encode [0xFB, 0xFF] = "+/8=" := rfl

example : decode (Text.utf8 "+/8=") = .ok [0xFB, 0xFF] := rfl

/-- Another symbol with the same used bits is refused. -/
example : decode (Text.utf8 "+/9=") = .error (.invalidLastSymbol 0x39 2) := rfl

end BitcoinKeys.Base64
