import BitcoinKeys.Proofs.ByteInput
import BitcoinKeys.Proofs.PublicKey.Forms

/-! # Texts and integers of public keys

The two tagged forms of a key have texts in Base64 and in hexadecimal digits, and its coordinates
make one integer. Each of these is read as the key, and nothing else is. -/

namespace BitcoinKeys.PublicKey

open Secp256k1

theorem toNat_toInteger (key : PublicKey) :
    key.toInteger.toNat = key.point.x.toNat * 2 ^ 256 + key.point.y.toNat := by
  rw [toInteger, BitVec.toNat_append, ← Nat.shiftLeft_add_eq_or_of_lt key.point.y.isLt,
    Nat.shiftLeft_eq]

theorem result_ofBase64_eq_some_iff_trim {text : String} {key : PublicKey} :
    (ofBase64 text).result = .ok (some key) ↔
      Text.trim text = Base64.encode key.toBytes ∨
        Text.trim text = Base64.encode key.toCompressed := by
  rw [result_ofBase64_eq_some_iff, decodeBase64_eq_ok_iff, decodeBase64_eq_ok_iff]

theorem result_ofInput_hex_eq_some_iff {text : String} {key : PublicKey} :
    (ofInput (.hex text)).result = .ok (some key) ↔
      Hex.lowered (Text.trim text) = Hex.encode key.toBytes ∨
        Hex.lowered (Text.trim text) = Hex.encode key.toCompressed := by
  rw [result_ofInput_eq_some_iff, ByteInput.toBytes_hex_eq_ok_iff, ByteInput.toBytes_hex_eq_ok_iff]

/-- An integer is read as a key exactly if its halves are the coordinates of the key. A text is read
as a key exactly if, without the blanks around it, it is the Base64 of one of the two forms of the
key, or, for hexadecimal text with its capital digits in lowercase, the hexadecimal text of one. So
the integer and the texts that are written for a key are read as the key. -/
theorem texts_canonical :
    (∀ (value : BitVec 512) (key : PublicKey),
      ofInteger value = .ok key ↔ value = key.toInteger) ∧
    (∀ key : PublicKey,
      key.toInteger.toNat = key.point.x.toNat * 2 ^ 256 + key.point.y.toNat) ∧
    (∀ (text : String) (key : PublicKey),
      (ofBase64 text).result = .ok (some key) ↔
        Text.trim text = Base64.encode key.toBytes ∨
          Text.trim text = Base64.encode key.toCompressed) ∧
    (∀ (text : String) (key : PublicKey),
      (ofInput (.hex text)).result = .ok (some key) ↔
        Hex.lowered (Text.trim text) = Hex.encode key.toBytes ∨
          Hex.lowered (Text.trim text) = Hex.encode key.toCompressed) ∧
    ∀ key : PublicKey,
      ofInteger key.toInteger = .ok key ∧
        (ofBase64 key.toBase64).result = .ok (some key) ∧
        (ofInput (.hex key.toHex)).result = .ok (some key) := by
  refine ⟨?_, toNat_toInteger, ?_, ?_, ?_⟩
  · intro value key
    exact ofInteger_eq_ok_iff
  · intro text key
    exact result_ofBase64_eq_some_iff_trim
  · intro text key
    exact result_ofInput_hex_eq_some_iff
  · intro key
    refine ⟨ofInteger_eq_ok_iff.mpr rfl, ?_, ?_⟩
    · apply result_ofBase64_eq_some_iff_trim.mpr
      exact .inl (Base64.trim_encode key.toBytes)
    · apply result_ofInput_hex_eq_some_iff.mpr
      left
      rw [toHex, Hex.trim_encode, Hex.lowered_encode]

end BitcoinKeys.PublicKey
