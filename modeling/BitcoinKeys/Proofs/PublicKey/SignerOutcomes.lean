import BitcoinKeys.Proofs.PublicKey.RecoveryOutcomes
import BitcoinKeys.Proofs.PublicKey.SignedMessages

/-! # Outcomes of recovering the signer of a message

A text that is no envelope is refused first, then a message that is too long, then words that are
no scalars. What is left gives the key of the candidate with the id of the envelope, or the failure
that there is none. The other failures of recovery need a signature that no envelope holds. -/

namespace BitcoinKeys

open Secp256k1

namespace SignedMessage

/-- Whether a text is, but for blanks around it, the envelope of these words and this id. -/
def Holds (text : String) (r s : Word) (id : Ecdsa.RecoveryId) : Prop :=
  Text.trim text = Base64.encode ((27 + id.toByte) :: (r.toBytes ++ s.toBytes))

theorem decodeEnvelope_eq_ok_iff_holds {text : String} {r s : Word} {id : Ecdsa.RecoveryId} :
    decodeEnvelope text = .ok { r, s, recoveryId := some id.toByte } ↔ Holds text r s id := by
  rw [decodeEnvelope_eq_ok_iff, encodeEnvelope_eq_ok_iff]
  constructor
  · intro written
    rcases written with ⟨_, stored, _, written⟩
    cases stored
    exact written.symm
  · intro holds
    exact ⟨id.toByte, rfl, id.toByte_le, holds.symm⟩

/-- Every text that can be opened holds a signature with an id that stands for points. -/
theorem exists_holds_of_decodeEnvelope {text : String} {signature : Signature}
    (opened : decodeEnvelope text = .ok signature) : ∃ r s id, Holds text r s id := by
  rcases encodeEnvelope_eq_ok_iff.mp (decodeEnvelope_eq_ok_iff.mp opened) with
    ⟨byte, _, small, written⟩
  rcases Ecdsa.RecoveryId.exists_toByte_iff.mpr small with ⟨id, rfl⟩
  exact ⟨signature.r, signature.s, id, written.symm⟩

theorem decodeEnvelope_of_unread {text : String} {error : KeyError}
    (unread : decodeBase64 text = .error error) : decodeEnvelope text = .error error := by
  rw [decodeEnvelope, unread, error_bind]

theorem decodeEnvelope_of_written {text : String} {bytes : Bytes}
    (written : Text.trim text = Base64.encode bytes) :
    decodeEnvelope text = openEnvelope bytes := by
  rw [decodeEnvelope, decodeBase64_eq_ok_iff.mpr written, ok_bind]

end SignedMessage

namespace PublicKey

open SignedMessage

/-- The outcome that a message and a text have to have. -/
inductive SignerOutcome (message : Bytes) (text : String) : Except KeyError PublicKey → Prop
  | notBase64 {cause} :
      decodeBase64 text = .error (.invalidEncoding (.base64 cause)) →
      SignerOutcome message text (.error (.invalidEncoding (.base64 cause)))
  | length {bytes} :
      Text.trim text = Base64.encode bytes →
      bytes.length ≠ 65 →
      SignerOutcome message text (.error (.invalidEncoding (.length 65 bytes.length)))
  | unsupportedMagic {magic content} :
      Text.trim text = Base64.encode (magic :: content) →
      content.length = 64 →
      ¬ (27 ≤ magic ∧ magic ≤ 30) →
      SignerOutcome message text (.error (.recoveryUnavailable (.unsupportedMagic magic)))
  | messageTooLong {r s id} :
      Holds text r s id →
      255 < message.length →
      SignerOutcome message text (.error (.messageTooLong message.length))
  | invalidSignature {r s id} :
      Holds text r s id →
      message.length ≤ 255 →
      ¬ (IsScalar r ∧ IsScalar s) →
      SignerOutcome message text (.error (.recoveryUnavailable .invalidSignature))
  | noCandidate {r s id digest} :
      Holds text r s id →
      SignedMessage.digest message = .ok digest →
      IsScalar r ∧ IsScalar s →
      (∀ coordinates, (coordinates, id) ∉ Ecdsa.candidates digest r s true) →
      SignerOutcome message text (.error (.recoveryUnavailable .noCandidate))
  | recovered {r s id digest} {key : PublicKey} :
      Holds text r s id →
      SignedMessage.digest message = .ok digest →
      (key.point, id) ∈ Ecdsa.candidates digest r s true →
      SignerOutcome message text (.ok key)

section

variable {message digest : Bytes} {text : String} {r s : Word} {id : Ecdsa.RecoveryId}

theorem ofSignedMessage_of_unopened {error : KeyError}
    (unopened : decodeEnvelope text = .error error) :
    ofSignedMessage message text = .error error := by
  rw [ofSignedMessage, unopened, error_bind]

section

variable (holds : Holds text r s id)

include holds

theorem ofSignedMessage_of_long (long : maximumLength < message.length) :
    ofSignedMessage message text = .error (.messageTooLong message.length) := by
  rw [ofSignedMessage, decodeEnvelope_eq_ok_iff_holds.mpr holds, ok_bind, digest_of_long long,
    error_bind]

variable (digested : SignedMessage.digest message = .ok digest)

include digested

theorem ofSignedMessage_of_outside (outside : ¬ (IsScalar r ∧ IsScalar s)) :
    ofSignedMessage message text = .error (.recoveryUnavailable .invalidSignature) := by
  rw [ofSignedMessage, decodeEnvelope_eq_ok_iff_holds.mpr holds, ok_bind, digested, ok_bind,
    ofSignature_of_outside rfl rfl outside, error_bind]

theorem ofSignedMessage_of_unlisted (inRange : IsScalar r ∧ IsScalar s)
    (unlisted : ∀ coordinates, (coordinates, id) ∉ Ecdsa.candidates digest r s true) :
    ofSignedMessage message text = .error (.recoveryUnavailable .noCandidate) := by
  have none : ofSignature (.raw digest) { r, s, recoveryId := some id.toByte } = .ok none := by
    apply (ofSignature_eq_none_iff rfl rfl inRange).mpr
    intro coordinates other numbered
    rw [Ecdsa.RecoveryId.eq_of_toByte_eq numbered]
    exact unlisted coordinates
  rw [ofSignedMessage, decodeEnvelope_eq_ok_iff_holds.mpr holds, ok_bind, digested, ok_bind, none]
  rfl

theorem ofSignedMessage_of_listed {key : PublicKey}
    (listed : (key.point, id) ∈ Ecdsa.candidates digest r s true) :
    ofSignedMessage message text = .ok key := by
  have given : ofSignature (.raw digest) { r, s, recoveryId := some id.toByte } = .ok (some key) :=
    (ofSignature_eq_some_iff_mem rfl rfl).mpr ⟨id, rfl, listed⟩
  exact ofSignedMessage_eq_ok_iff.mpr
    ⟨_, decodeEnvelope_eq_ok_iff_holds.mpr holds, digest, digested, given⟩

end

theorem SignerOutcome.eq {outcome : Except KeyError PublicKey}
    (expected : SignerOutcome message text outcome) : ofSignedMessage message text = outcome := by
  cases expected with
  | notBase64 unread => exact ofSignedMessage_of_unopened (decodeEnvelope_of_unread unread)
  | length written wrong =>
      apply ofSignedMessage_of_unopened
      rw [decodeEnvelope_of_written written]
      exact openEnvelope_of_length_ne wrong
  | unsupportedMagic written width unsupported =>
      apply ofSignedMessage_of_unopened
      rw [decodeEnvelope_of_written written]
      exact openEnvelope_eq_error_iff.mpr
        (.inr ⟨congrArg Nat.succ width, _, _, rfl, unsupported, rfl⟩)
  | messageTooLong holds long => exact ofSignedMessage_of_long holds long
  | invalidSignature holds short outside =>
      exact ofSignedMessage_of_outside holds (digest_of_short short) outside
  | noCandidate holds digested inRange unlisted =>
      exact ofSignedMessage_of_unlisted holds digested inRange unlisted
  | recovered holds digested listed => exact ofSignedMessage_of_listed holds digested listed

theorem exists_signerOutcome_of_holds (message : Bytes) (holds : Holds text r s id) :
    ∃ outcome, SignerOutcome message text outcome := by
  by_cases long : 255 < message.length
  case pos => exact ⟨_, .messageTooLong holds long⟩
  case neg =>
    have short := Nat.le_of_not_lt long
    by_cases inRange : IsScalar r ∧ IsScalar s
    case neg => exact ⟨_, .invalidSignature holds short inRange⟩
    case pos =>
      have hashed : ∃ digest, SignedMessage.digest message = .ok digest :=
        ⟨_, digest_of_short short⟩
      rcases hashed with ⟨digest, digested⟩
      by_cases found : ∃ coordinates, (coordinates, id) ∈ Ecdsa.candidates digest r s true
      case neg => exact ⟨_, .noCandidate holds digested inRange (not_exists.mp found)⟩
      case pos =>
        rcases found with ⟨coordinates, listed⟩
        have onCurve := Ecdsa.onCurve_of_recover? (Ecdsa.mem_candidates.mp listed)
        exact ⟨.ok (ofOnCurve coordinates onCurve), .recovered holds digested listed⟩

/-- Some outcome is expected of every message and text. -/
theorem exists_signerOutcome (message : Bytes) (text : String) :
    ∃ outcome, SignerOutcome message text outcome := by
  cases read : decodeBase64 text with
  | error error =>
      rcases eq_base64_of_decodeBase64_eq_error read with ⟨cause, rfl⟩
      exact ⟨_, .notBase64 read⟩
  | ok bytes =>
      have written := decodeBase64_eq_ok_iff.mp read
      cases opened : openEnvelope bytes with
      | error error =>
          rcases openEnvelope_eq_error_iff.mp opened with
            ⟨wrong, _⟩ | ⟨width, magic, content, rfl, unsupported, _⟩
          · exact ⟨_, .length written wrong⟩
          · exact ⟨_, .unsupportedMagic written (Nat.succ.inj width) unsupported⟩
      | ok signature =>
          rw [← decodeEnvelope_of_written written] at opened
          rcases exists_holds_of_decodeEnvelope opened with ⟨r, s, id, holds⟩
          exact exists_signerOutcome_of_holds message holds

theorem ofSignedMessage_eq_iff {outcome : Except KeyError PublicKey} :
    ofSignedMessage message text = outcome ↔ SignerOutcome message text outcome :=
  eq_iff_of_total (exists_signerOutcome message text) SignerOutcome.eq

/-- No envelope holds a signature without an id or with an id that is too large, the message is not
read from a text, and candidates are on the curve. -/
theorem SignerOutcome.error_ne {error : KeyError}
    (expected : SignerOutcome message text (.error error)) :
    error ≠ .recoveryUnavailable .missingRecoveryId ∧
      (∀ id, error ≠ .recoveryUnavailable (.invalidRecoveryId id)) ∧
      error ≠ .pointNotOnCurve ∧
      ∀ cause, error ≠ .invalidEncoding (.hex cause) := by
  cases expected <;> exact ⟨nofun, nofun, nofun, nofun⟩

theorem SignerOutcome.unread {cause : Base64.Error}
    (expected : SignerOutcome message text (.error (.invalidEncoding (.base64 cause)))) :
    decodeBase64 text = .error (.invalidEncoding (.base64 cause)) := by
  cases expected with
  | notBase64 unread => exact unread

theorem exists_ofSignedMessage_eq_base64_iff :
    (∃ cause, ofSignedMessage message text = .error (.invalidEncoding (.base64 cause))) ↔
      ¬ ∃ bytes, Text.trim text = Base64.encode bytes := by
  rw [← exists_decodeBase64_eq_error_iff]
  constructor
  · intro refused
    rcases refused with ⟨cause, refused⟩
    exact ⟨cause, (ofSignedMessage_eq_iff.mp refused).unread⟩
  · intro unread
    rcases unread with ⟨cause, unread⟩
    exact ⟨cause, ofSignedMessage_eq_iff.mpr (.notBase64 unread)⟩

end

/-- The signer of a message is recovered exactly with the expected outcome. The failures of opening
the text come first, in their order; the failures of recovery that need another signature than an
envelope holds do not occur. Verification for the recovered key fails in the same cases, for the
same reasons. -/
theorem ofSignedMessage_outcomes (message : Bytes) (text : String) :
    (∀ outcome, ofSignedMessage message text = outcome ↔ SignerOutcome message text outcome) ∧
    ((∃ cause, ofSignedMessage message text = .error (.invalidEncoding (.base64 cause))) ↔
      ¬ ∃ bytes, Text.trim text = Base64.encode bytes) ∧
    (∀ error, decodeEnvelope text = .error error →
      ofSignedMessage message text = .error error) ∧
    (∀ error, ofSignedMessage message text = .error error →
      error ≠ .recoveryUnavailable .missingRecoveryId ∧
      (∀ id, error ≠ .recoveryUnavailable (.invalidRecoveryId id)) ∧
      error ≠ .pointNotOnCurve ∧
      ∀ cause, error ≠ .invalidEncoding (.hex cause)) ∧
    ∀ error, verifyRecovered message text = .error error ↔
      ofSignedMessage message text = .error error := by
  refine ⟨?_, exists_ofSignedMessage_eq_base64_iff, ?_, ?_, ?_⟩
  · intro outcome
    exact ofSignedMessage_eq_iff
  · intro error unopened
    exact ofSignedMessage_of_unopened unopened
  · intro error failed
    exact (ofSignedMessage_eq_iff.mp failed).error_ne
  · intro error
    rw [verifyRecovered_eq, map_eq_error_iff]

/-- The envelope of a made-up signature gives its key under the first id, and no key under the last.
Without `r` it is refused, but not before the length of the message. -/
theorem ofSignedMessage_outcomes_run :
    let made := Ecdsa.RecoveryRun.signature
    let envelope (r : Word) (id : Ecdsa.RecoveryId) :=
      Base64.encode ((27 + id.toByte) :: (r.toBytes ++ made.s.toBytes))
    ofSignedMessage [0x61] (envelope made.r ⟨false, false⟩) = .ok RelabeledRun.key ∧
    ofSignedMessage [0x61] (envelope made.r ⟨true, true⟩) =
      .error (.recoveryUnavailable .noCandidate) ∧
    ofSignedMessage [0x61] (envelope 0 ⟨false, false⟩) =
      .error (.recoveryUnavailable .invalidSignature) ∧
    verifyRecovered (List.replicate 256 0x61) (envelope 0 ⟨false, false⟩) =
      .error (.messageTooLong 256) ∧
    verifyRecovered (List.replicate 256 0x61) " AA==\n" =
      .error (.invalidEncoding (.length 65 1)) := by
  intro made envelope
  have holds (r : Word) (id : Ecdsa.RecoveryId) : Holds (envelope r id) r made.s id :=
    Base64.trim_encode _
  refine ⟨?_, ?_, ?_, ?_, ?_⟩
  · apply ((ofSignedMessage_outcomes _ _).1 _).mpr
    apply SignerOutcome.recovered (holds _ _) RelabeledRun.digest_eq
    exact Ecdsa.mem_candidates.mpr Ecdsa.RecoveryRun.recover?_eq
  · apply ((ofSignedMessage_outcomes _ _).1 _).mpr
    apply SignerOutcome.noCandidate (holds _ _) RelabeledRun.digest_eq (by decide)
    intro coordinates listed
    have small := Ecdsa.lt_of_recover?_reduced (Ecdsa.mem_candidates.mp listed) rfl
    exact absurd small (by decide)
  · apply ((ofSignedMessage_outcomes _ _).1 _).mpr
    exact .invalidSignature (holds _ _) (by decide) (by decide)
  · rcases ofSignedMessage_outcomes (List.replicate 256 0x61) (envelope 0 ⟨false, false⟩) with
      ⟨outcomes, _, _, _, verifies⟩
    have long : 255 < (List.replicate 256 0x61 : Bytes).length := by
      rw [List.length_replicate]
      decide
    have expected := SignerOutcome.messageTooLong (holds 0 ⟨false, false⟩) long
    rw [List.length_replicate] at expected
    exact (verifies _).mpr ((outcomes _).mpr expected)
  · rcases ofSignedMessage_outcomes (List.replicate 256 0x61) " AA==\n" with
      ⟨_, _, unopened, _, verifies⟩
    have written : Text.trim " AA==\n" = Base64.encode [0] := by decide +kernel
    apply (verifies _).mpr
    apply unopened
    rw [decodeEnvelope_of_written written]
    rfl

end PublicKey

end BitcoinKeys
