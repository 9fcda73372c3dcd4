import BitcoinKeys.Proofs.Der
import BitcoinKeys.Signature

/-! # Forms of signatures

The fixed-width form keeps every pair of words, and strict DER the pairs of scalars; neither keeps
the recovery id. -/

namespace BitcoinKeys.Signature

open Secp256k1

/-- The fixed-width form of a signature gives its words back, and is the only one that does. -/
theorem ofBytes_eq_ok_iff {bytes : Bytes} {signature : Signature} :
    ofBytes bytes = .ok signature ↔ bytes = signature.toBytes ∧ signature.recoveryId = none := by
  rcases signature with ⟨r, s, id⟩
  rw [ofBytes, toBytes]
  split
  case isTrue width =>
    rw [Except.ok.injEq, mk.injEq, ← and_assoc, Word.ofBytes_halves_iff width, @eq_comm _ none id]
  case isFalse wrong =>
    constructor
    · intro read
      cases read
    · intro written
      apply absurd _ wrong
      rw [written.1]
      exact length_toBytes ⟨r, s, id⟩

theorem exists_eq_toBytes {bytes : Bytes} (width : bytes.length = byteLength) :
    ∃ signature : Signature, bytes = signature.toBytes := by
  have read : ∃ signature, ofBytes bytes = .ok signature := ⟨_, dif_pos width⟩
  rcases read with ⟨signature, read⟩
  exact ⟨signature, (ofBytes_eq_ok_iff.mp read).1⟩

theorem result_ofDerBytes (bytes : Bytes) :
    (ofDerBytes bytes).result =
      match Der.decode bytes with
      | .ok (r, s) => .ok { r, s }
      | .error reason => .error (.invalidEncoding (.der reason)) := by
  unfold ofDerBytes
  cases Der.decode bytes with
  | ok _ => rfl
  | error _ => rfl

theorem result_ofDerBytes_eq_error_iff {bytes : Bytes} {reason : Der.Error} :
    (ofDerBytes bytes).result = .error (.invalidEncoding (.der reason)) ↔
      Der.decode bytes = .error reason := by
  rw [result_ofDerBytes]
  cases Der.decode bytes with
  | ok _ => simp
  | error _ => simp

/-- Strict DER is a bijection between the signatures of scalars, without recovery id, and the byte
strings that are accepted. The form of any other signature is refused for the first of its words
that is out of range. -/
theorem ofDer_toDer_bijection :
    (∀ (bytes : Bytes) (signature : Signature),
      (ofDer (.raw bytes)).result = .ok signature ↔
        signature.toDer = bytes ∧ signature.recoveryId = none ∧
          IsScalar signature.r ∧ IsScalar signature.s) ∧
    ∀ signature : Signature,
      (ofDer (.raw signature.toDer)).result =
        if IsScalar signature.r then
          if IsScalar signature.s then .ok { r := signature.r, s := signature.s }
          else .error (.invalidEncoding (.der (.outOfRange .s)))
        else .error (.invalidEncoding (.der (.outOfRange .r))) := by
  constructor
  · intro bytes signature
    rcases signature with ⟨r, s, id⟩
    change (ofDerBytes bytes).result = _ ↔ Der.encode r s = bytes ∧ id = none ∧ _
    rw [result_ofDerBytes]
    constructor
    · intro read
      split at read
      case h_1 rRead sRead decoded =>
        cases read
        rcases Der.decode_eq_ok_iff.mp decoded with ⟨equal, inRange⟩
        exact ⟨equal.symm, rfl, inRange⟩
      case h_2 => cases read
    · intro written
      rcases written with ⟨equal, noId, inRange⟩
      rw [Der.decode_eq_ok_iff.mpr ⟨equal.symm, inRange⟩, noId]
  · intro signature
    change (ofDerBytes (Der.encode signature.r signature.s)).result = _
    rw [result_ofDerBytes, Der.decode_encode]
    by_cases rInRange : IsScalar signature.r
    · by_cases sInRange : IsScalar signature.s
      · simp only [if_pos rInRange, if_pos sInRange]
      · simp only [if_pos rInRange, if_neg sInRange]
    · simp only [if_neg rInRange]

/-- The greatest scalars need 33 bytes each. -/
example :
    let greatest : Word := BitVec.ofNat 256 (groupOrder - 1)
    (toDer { r := greatest, s := greatest }).length = 72 := by
  decide +kernel

end BitcoinKeys.Signature
