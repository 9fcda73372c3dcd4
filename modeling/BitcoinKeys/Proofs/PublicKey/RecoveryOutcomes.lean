import BitcoinKeys.Proofs.ByteInput
import BitcoinKeys.Proofs.Ecdsa.Candidates
import BitcoinKeys.Proofs.PublicKey.Recovery

/-! # Outcomes of recovery

A key is not recovered for one of three failures, which are told apart in a fixed order, or because
no candidate has the stored id, which is no failure. A candidate is on the curve, so that the point
that recovery finds always makes a key.
-/

namespace BitcoinKeys.PublicKey

open Secp256k1

section

variable {message : ByteInput} {bytes : Bytes} {signature : Signature} {id : UInt8}

theorem ofSignature_of_error {error : KeyError} (failed : message.toBytes = .error error) :
    ofSignature message signature = .error error := by
  rw [ofSignature, failed, error_bind]

section

variable (read : message.toBytes = .ok bytes)

include read

theorem ofSignature_of_missing (missing : signature.recoveryId = none) :
    ofSignature message signature = .error (.recoveryUnavailable .missingRecoveryId) := by
  rw [ofSignature, read, ok_bind, missing]

variable (stored : signature.recoveryId = some id)

include stored

theorem ofSignature_of_outside (outside : ¬ (IsScalar signature.r ∧ IsScalar signature.s)) :
    ofSignature message signature = .error (.recoveryUnavailable .invalidSignature) := by
  rw [ofSignature, read, ok_bind, stored]
  exact if_neg outside

/-- With scalars, recovery has an outcome, whatever the id is. -/
theorem exists_ofSignature (inRange : IsScalar signature.r ∧ IsScalar signature.s) :
    ∃ found, ofSignature message signature = .ok found := by
  rw [ofSignature, read, ok_bind, stored]
  simp only [if_pos inRange]
  split
  case h_1 => exact ⟨none, rfl⟩
  case h_2 point recovered =>
    rcases Option.bind_eq_some_iff.mp recovered with ⟨recoveryId, _, recovered⟩
    rw [ofPoint, dif_pos (Ecdsa.onCurve_of_recover? recovered)]
    exact ⟨_, rfl⟩

theorem ofSignature_eq_some_iff_mem {key : PublicKey} :
    ofSignature message signature = .ok (some key) ↔
      ∃ recoveryId : Ecdsa.RecoveryId, recoveryId.toByte = id ∧
        (key.point, recoveryId) ∈ Ecdsa.candidates bytes signature.r signature.s true := by
  rw [ofSignature_eq_some_iff]
  constructor
  · intro found
    rcases found with ⟨_, otherRead, recoveryId, otherStored, recovered⟩
    cases read.symm.trans otherRead
    cases stored.symm.trans otherStored
    exact ⟨recoveryId, rfl, Ecdsa.mem_candidates.mpr recovered⟩
  · intro listed
    rcases listed with ⟨recoveryId, rfl, listed⟩
    exact ⟨bytes, read, recoveryId, stored, Ecdsa.mem_candidates.mp listed⟩

/-- No key is recovered exactly if no candidate has the id. -/
theorem ofSignature_eq_none_iff (inRange : IsScalar signature.r ∧ IsScalar signature.s) :
    ofSignature message signature = .ok none ↔
      ∀ (coordinates : Coordinates) (recoveryId : Ecdsa.RecoveryId), recoveryId.toByte = id →
        (coordinates, recoveryId) ∉ Ecdsa.candidates bytes signature.r signature.s true := by
  rcases exists_ofSignature read stored inRange with ⟨found, recovered⟩
  constructor
  · intro none coordinates recoveryId numbered listed
    have onCurve := Ecdsa.onCurve_of_recover? (Ecdsa.mem_candidates.mp listed)
    have given : ofSignature message signature = .ok (some (ofOnCurve coordinates onCurve)) :=
      (ofSignature_eq_some_iff_mem read stored).mpr ⟨recoveryId, numbered, listed⟩
    rw [none] at given
    cases given
  · intro unlisted
    cases found with
    | none => exact recovered
    | some key =>
        rcases (ofSignature_eq_some_iff_mem read stored).mp recovered with
          ⟨recoveryId, numbered, listed⟩
        exact absurd listed (unlisted _ _ numbered)

/-- Ids above 3 stand for no point. -/
theorem ofSignature_of_large (inRange : IsScalar signature.r ∧ IsScalar signature.s)
    (large : 3 < id) : ofSignature message signature = .ok none := by
  apply (ofSignature_eq_none_iff read stored inRange).mpr
  intro coordinates recoveryId numbered
  rw [← numbered] at large
  exact absurd recoveryId.toByte_le (UInt8.not_le.mpr large)

end

theorem ofSignature_eq_error {error : KeyError}
    (failed : ofSignature message signature = .error error) :
    message.toBytes = .error error ∨ error = .recoveryUnavailable .missingRecoveryId ∨
      error = .recoveryUnavailable .invalidSignature := by
  cases read : message.toBytes with
  | error other =>
      rw [ofSignature_of_error read] at failed
      cases failed
      exact .inl rfl
  | ok bytes =>
      cases stored : signature.recoveryId with
      | none =>
          rw [ofSignature_of_missing read stored] at failed
          cases failed
          exact .inr (.inl rfl)
      | some id =>
          by_cases inRange : IsScalar signature.r ∧ IsScalar signature.s
          · rcases exists_ofSignature read stored inRange with ⟨found, recovered⟩
            rw [recovered] at failed
            cases failed
          · rw [ofSignature_of_outside read stored inRange] at failed
            cases failed
            exact .inr (.inr rfl)

end

theorem exists_ofSignature_eq_hex_iff {message : ByteInput} {signature : Signature} :
    (∃ cause, ofSignature message signature = .error (.invalidEncoding (.hex cause))) ↔
      ¬ ∃ bytes, message.Writes bytes := by
  constructor
  · intro failed written
    rcases failed with ⟨cause, failed⟩
    rcases written with ⟨bytes, written⟩
    rcases ofSignature_eq_error failed with unread | missing | outside
    · rw [ByteInput.toBytes_eq_ok_iff.mpr written] at unread
      cases unread
    · cases missing
    · cases outside
  · intro unwritten
    rcases ByteInput.exists_toBytes_eq_error_iff.mpr unwritten with ⟨cause, unread⟩
    exact ⟨cause, ofSignature_of_error unread⟩

/-- Recovery fails for a text that is not hexadecimal, else for a missing id, else for words out of
the range of scalars, and never otherwise. Otherwise it gives the key of the candidate with the
stored id, for which the signature verifies, or no key if there is no such candidate. -/
theorem ofSignature_outcomes (message : ByteInput) (signature : Signature) :
    ((∃ cause, ofSignature message signature = .error (.invalidEncoding (.hex cause))) ↔
      ¬ ∃ bytes, message.Writes bytes) ∧
    (∀ bytes, message.Writes bytes →
      (signature.recoveryId = none →
        ofSignature message signature = .error (.recoveryUnavailable .missingRecoveryId)) ∧
      ∀ id, signature.recoveryId = some id →
        (¬ (IsScalar signature.r ∧ IsScalar signature.s) →
          ofSignature message signature = .error (.recoveryUnavailable .invalidSignature)) ∧
        (IsScalar signature.r ∧ IsScalar signature.s →
          (∃ found, ofSignature message signature = .ok found) ∧
          (∀ key, ofSignature message signature = .ok (some key) ↔
            ∃ recoveryId : Ecdsa.RecoveryId, recoveryId.toByte = id ∧
              (key.point, recoveryId) ∈ Ecdsa.candidates bytes signature.r signature.s true) ∧
          (ofSignature message signature = .ok none ↔
            ∀ (coordinates : Coordinates) (recoveryId : Ecdsa.RecoveryId), recoveryId.toByte = id →
              (coordinates, recoveryId) ∉
                Ecdsa.candidates bytes signature.r signature.s true) ∧
          (3 < id → ofSignature message signature = .ok none))) ∧
    (∀ key, ofSignature message signature = .ok (some key) →
      key.verify message signature true = true) ∧
    ofSignature message signature ≠ .error .pointNotOnCurve := by
  refine ⟨exists_ofSignature_eq_hex_iff, ?_, fun key => verify_of_ofSignature, ?_⟩
  · intro bytes written
    have read := ByteInput.toBytes_eq_ok_iff.mpr written
    refine ⟨ofSignature_of_missing read, ?_⟩
    intro id stored
    refine ⟨ofSignature_of_outside read stored, ?_⟩
    intro inRange
    exact ⟨exists_ofSignature read stored inRange,
      fun key => ofSignature_eq_some_iff_mem read stored,
      ofSignature_eq_none_iff read stored inRange, ofSignature_of_large read stored inRange⟩
  · intro failed
    rcases ofSignature_eq_error failed with unread | missing | outside
    · rcases ByteInput.eq_hex_of_toBytes_eq_error unread with ⟨cause, equal⟩
      cases equal
    · cases missing
    · cases outside

/-- A made-up signature gives the key that it was made up for, under its own id only. -/
theorem ofSignature_outcomes_run :
    let message : ByteInput := .raw Ecdsa.RecoveryRun.digest
    let signature := Ecdsa.RecoveryRun.signature
    (∃ key : PublicKey, key.point = Coordinates.base ∧
      ofSignature message signature = .ok (some key) ∧ key.verify message signature true = true) ∧
    ofSignature message (signature.withRecoveryId 4) = .ok none ∧
    ofSignature message { signature with recoveryId := none, r := 0 } =
      .error (.recoveryUnavailable .missingRecoveryId) ∧
    ofSignature message { signature with s := 0 } =
      .error (.recoveryUnavailable .invalidSignature) := by
  intro message signature
  have written : message.Writes Ecdsa.RecoveryRun.digest := rfl
  have inRange : IsScalar signature.r ∧ IsScalar signature.s := by decide
  have listed := Ecdsa.mem_candidates.mpr Ecdsa.RecoveryRun.recover?_eq
  rcases ofSignature_outcomes message signature with ⟨_, outcomes, verifies, _⟩
  rcases ((outcomes _ written).2 0 rfl).2 inRange with ⟨_, given, _, _⟩
  have found : ofSignature message signature =
      .ok (some (ofOnCurve Coordinates.base (by decide))) :=
    (given _).mpr ⟨⟨false, false⟩, rfl, listed⟩
  refine ⟨⟨_, rfl, found, verifies _ found⟩, ?_, ?_, ?_⟩
  · have large := (ofSignature_outcomes message (signature.withRecoveryId 4)).2.1 _ written
    exact ((large.2 4 rfl).2 inRange).2.2.2 (by decide)
  · exact ((ofSignature_outcomes message _).2.1 _ written).1 rfl
  · exact (((ofSignature_outcomes message _).2.1 _ written).2 0 rfl).1 (by decide)

end BitcoinKeys.PublicKey
