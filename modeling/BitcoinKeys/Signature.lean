import BitcoinKeys.ByteInput
import BitcoinKeys.Event

/-!
# Signatures

A pair of words with an optional recovery id, its forms and their decoders. Only the DER decoder
checks that the words are in the range of scalars.
-/

namespace BitcoinKeys

/-- A signature as it is stored. Nothing is range-checked. -/
structure Signature where
  r : Word
  s : Word
  recoveryId : Option UInt8 := none
  deriving DecidableEq, Repr

namespace Signature

def withRecoveryId (signature : Signature) (id : UInt8) : Signature :=
  { signature with recoveryId := some id }

/-- The other signature with the same `r` that verifies for the same keys and messages. -/
def mirrored (signature : Signature) : Signature :=
  { signature with s := BitVec.ofNat 256 (Secp256k1.groupOrder - signature.s.toNat) }

def isLowS (signature : Signature) : Bool :=
  signature.s.toNat ≤ Secp256k1.groupOrder / 2

def byteLength : Nat := 2 * Word.byteLength

/-- The fixed-width form: `r`, then `s`. -/
def toBytes (signature : Signature) : Bytes :=
  signature.r.toBytes ++ signature.s.toBytes

def toHex (signature : Signature) : String :=
  Hex.encode signature.toBytes

def toBase64 (signature : Signature) : String :=
  Base64.encode signature.toBytes

def toDer (signature : Signature) : Bytes :=
  Der.encode signature.r signature.s

def ofBytes (bytes : Bytes) : Except KeyError Signature :=
  if width : bytes.length = byteLength then
    .ok {
      r := Word.ofBytes (bytes.take Word.byteLength) (List.length_take_le _ _)
      s := Word.ofBytes (bytes.drop Word.byteLength) (by
        rw [List.length_drop, width]
        decide) }
  else .error (.invalidEncoding (.length byteLength bytes.length))

def ofInput (input : ByteInput) : Except KeyError Signature := do
  ofBytes (← input.toBytes)

def ofHex (text : String) : Except KeyError Signature :=
  ofInput (.hex text)

def ofBase64 (text : String) : Except KeyError Signature := do
  ofBytes (← decodeBase64 text)

/-- Decodes the DER form of a byte string, and reports a rejection. -/
def ofDerBytes (bytes : Bytes) : Logged (Except KeyError Signature) :=
  match Der.decode bytes with
  | .ok (r, s) => .quiet (.ok { r, s })
  | .error reason =>
      ⟨.error (.invalidEncoding (.der reason)), [.rejectedDer reason bytes.length]⟩

def ofDer (input : ByteInput) : Logged (Except KeyError Signature) :=
  match input.toBytes with
  | .ok bytes => ofDerBytes bytes
  | .error error => .quiet (.error error)

def description (signature : Signature) : String :=
  let id := match signature.recoveryId with
    | some id => "Some(" ++ Numeral.decimal id.toNat ++ ")"
    | none => "None"
  "Signature \x7b r: " ++ Numeral.decimal signature.r.toNat ++ ", s: " ++
    Numeral.decimal signature.s.toNat ++ ", recovery_id: " ++ id ++ " \x7d"

@[simp]
theorem length_toBytes (signature : Signature) : signature.toBytes.length = byteLength := by
  simp [toBytes, byteLength, Nat.two_mul]

end Signature

end BitcoinKeys
