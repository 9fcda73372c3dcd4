import BitcoinKeys.Proofs.ByteInput
import BitcoinKeys.Proofs.Signature
import BitcoinKeys.SignedMessage

/-! # Envelopes of signed messages

An envelope keeps both words of a signature and its recovery id, and nothing else: a text is opened
as a signature exactly if, without the blanks around it, it is the envelope of the signature. -/

namespace BitcoinKeys.SignedMessage

/-! ## First bytes -/

theorem recoveryIdOfMagic_eq_ok_iff {magic id : UInt8} :
    recoveryIdOfMagic magic = .ok id ↔ id ≤ maximumRecoveryId ∧ magic = firstMagic + id := by
  unfold recoveryIdOfMagic
  constructor
  · intro read
    split at read
    case isTrue supported =>
      cases read
      have every : ∀ code : Fin 256,
          firstMagic ≤ .ofFin code ∧ .ofFin code ≤ firstMagic + maximumRecoveryId →
          .ofFin code - firstMagic ≤ maximumRecoveryId := by
        decide +kernel
      refine ⟨every magic.toFin supported, ?_⟩
      rw [UInt8.add_comm, UInt8.sub_add_cancel]
    case isFalse => cases read
  · intro written
    rcases written with ⟨small, rfl⟩
    have every : ∀ code : Fin 256, .ofFin code ≤ maximumRecoveryId →
        firstMagic ≤ firstMagic + .ofFin code ∧
          firstMagic + .ofFin code ≤ firstMagic + maximumRecoveryId := by
      decide +kernel
    have supported : firstMagic ≤ firstMagic + id ∧
        firstMagic + id ≤ firstMagic + maximumRecoveryId := every id.toFin small
    rw [if_pos supported, UInt8.add_comm, UInt8.add_sub_cancel]

/-! ## Bytes of envelopes -/

theorem openEnvelope_of_length_ne {bytes : Bytes} (wrong : bytes.length ≠ envelopeLength) :
    openEnvelope bytes = .error (.invalidEncoding (.length envelopeLength bytes.length)) := by
  cases bytes with
  | nil => rfl
  | cons magic content => exact if_neg wrong

theorem openEnvelope_toBytes (magic : UInt8) (signature : Signature) :
    openEnvelope (magic :: signature.toBytes) =
      (recoveryIdOfMagic magic).map signature.withRecoveryId := by
  have width : signature.toBytes.length + 1 = envelopeLength := by
    rw [Signature.length_toBytes]
    rfl
  have read : Signature.ofBytes signature.toBytes = .ok { r := signature.r, s := signature.s } :=
    Signature.ofBytes_eq_ok_iff.mpr ⟨rfl, rfl⟩
  rw [openEnvelope, if_pos width, read]
  cases recoveryIdOfMagic magic with
  | error error => rfl
  | ok id => rfl

/-- Bytes of the length of an envelope are a first byte and the form of a signature. -/
theorem exists_of_length_eq {bytes : Bytes} (width : bytes.length = envelopeLength) :
    ∃ magic, ∃ signature : Signature, bytes = magic :: signature.toBytes := by
  cases bytes with
  | nil => exact absurd width (by decide)
  | cons magic content =>
      have contentWidth : content.length = Signature.byteLength := by
        rw [List.length_cons, envelopeLength] at width
        omega
      rcases Signature.exists_eq_toBytes contentWidth with ⟨signature, written⟩
      exact ⟨magic, signature, congrArg (List.cons magic) written⟩

theorem openEnvelope_eq_ok_iff {bytes : Bytes} {signature : Signature} :
    openEnvelope bytes = .ok signature ↔
      ∃ id, signature.recoveryId = some id ∧ id ≤ maximumRecoveryId ∧
        (firstMagic + id) :: signature.toBytes = bytes := by
  constructor
  · intro opened
    by_cases width : bytes.length = envelopeLength
    case neg =>
      rw [openEnvelope_of_length_ne width] at opened
      cases opened
    case pos =>
      rcases exists_of_length_eq width with ⟨magic, other, rfl⟩
      rw [openEnvelope_toBytes] at opened
      rcases map_eq_ok_iff.mp opened with ⟨id, read, rfl⟩
      rcases recoveryIdOfMagic_eq_ok_iff.mp read with ⟨small, rfl⟩
      exact ⟨id, rfl, small, rfl⟩
  · intro written
    rcases written with ⟨id, stored, small, rfl⟩
    rw [openEnvelope_toBytes, recoveryIdOfMagic_eq_ok_iff.mpr ⟨small, rfl⟩]
    rcases signature with ⟨r, s, recoveryId⟩
    cases stored
    rfl

theorem openEnvelope_eq_error_iff {bytes : Bytes} {error : KeyError} :
    openEnvelope bytes = .error error ↔
      (bytes.length ≠ envelopeLength ∧
        error = .invalidEncoding (.length envelopeLength bytes.length)) ∨
      (bytes.length = envelopeLength ∧ ∃ magic content, bytes = magic :: content ∧
        ¬ (firstMagic ≤ magic ∧ magic ≤ firstMagic + maximumRecoveryId) ∧
        error = .recoveryUnavailable (.unsupportedMagic magic)) := by
  by_cases width : bytes.length = envelopeLength
  case neg => simp [openEnvelope_of_length_ne width, width, eq_comm]
  case pos =>
    rcases exists_of_length_eq width with ⟨magic, signature, rfl⟩
    rw [openEnvelope_toBytes, recoveryIdOfMagic]
    split
    case isTrue supported =>
      constructor
      · intro refused
        cases refused
      · intro causes
        rcases causes with ⟨wrong, _⟩ | ⟨_, _, _, equal, unsupported, _⟩
        · exact absurd width wrong
        · cases equal
          exact absurd supported unsupported
    case isFalse unsupported =>
      constructor
      · intro refused
        cases refused
        exact .inr ⟨width, magic, _, rfl, unsupported, rfl⟩
      · intro causes
        rcases causes with ⟨wrong, _⟩ | ⟨_, _, _, equal, _, rfl⟩
        · exact absurd width wrong
        · cases equal
          rfl

/-! ## Envelopes -/

theorem encodeEnvelope_eq_ok_iff {signature : Signature} {text : String} :
    encodeEnvelope signature = .ok text ↔
      ∃ id, signature.recoveryId = some id ∧ id ≤ maximumRecoveryId ∧
        Base64.encode ((firstMagic + id) :: signature.toBytes) = text := by
  unfold encodeEnvelope
  cases signature.recoveryId with
  | none => simp
  | some id =>
      by_cases small : id ≤ maximumRecoveryId
      · simp [small]
      · simp [small]

/-- Blanks around a text are ignored, and otherwise only the envelope of a signature is read as the
signature. -/
theorem decodeEnvelope_eq_ok_iff {text : String} {signature : Signature} :
    decodeEnvelope text = .ok signature ↔ encodeEnvelope signature = .ok (Text.trim text) := by
  simp only [decodeEnvelope, bind_eq_ok_iff, decodeBase64_eq_ok_iff, openEnvelope_eq_ok_iff,
    encodeEnvelope_eq_ok_iff]
  constructor
  · intro steps
    rcases steps with ⟨_, written, id, stored, small, rfl⟩
    exact ⟨id, stored, small, written.symm⟩
  · intro steps
    rcases steps with ⟨id, stored, small, written⟩
    exact ⟨_, written.symm, id, stored, small, rfl⟩

theorem trim_of_encodeEnvelope {signature : Signature} {text : String}
    (written : encodeEnvelope signature = .ok text) : Text.trim text = text := by
  rcases encodeEnvelope_eq_ok_iff.mp written with ⟨_, _, _, rfl⟩
  exact Base64.trim_encode _

/-- The envelope of a signature is read as the signature. -/
theorem decodeEnvelope_of_encodeEnvelope {signature : Signature} {text : String}
    (written : encodeEnvelope signature = .ok text) : decodeEnvelope text = .ok signature := by
  apply decodeEnvelope_eq_ok_iff.mpr
  rw [trim_of_encodeEnvelope written, written]

theorem exists_encodeEnvelope_iff {signature : Signature} :
    (∃ text, encodeEnvelope signature = .ok text) ↔
      ∃ id, signature.recoveryId = some id ∧ id ≤ maximumRecoveryId := by
  simp only [encodeEnvelope_eq_ok_iff]
  constructor
  · intro written
    rcases written with ⟨_, id, stored, small, _⟩
    exact ⟨id, stored, small⟩
  · intro stored
    rcases stored with ⟨id, stored, small⟩
    exact ⟨_, id, stored, small, rfl⟩

/-- Envelopes are canonical: blanks around a text are ignored, and otherwise the only text that is
read as a signature is the one that is written for it. Exactly the signatures with a recovery id up
to 3 have one. Bytes in Base64 are refused for their number first, then for an unsupported first
byte, and for nothing else. -/
theorem decodeEnvelope_canonical :
    (∀ (text : String) (signature : Signature),
      decodeEnvelope text = .ok signature ↔ encodeEnvelope signature = .ok (Text.trim text)) ∧
    (∀ signature : Signature,
      (∃ text, encodeEnvelope signature = .ok text) ↔
        ∃ id, signature.recoveryId = some id ∧ id ≤ 3) ∧
    (∀ (text : String) (signature : Signature), decodeEnvelope text = .ok signature →
      ∃ id, signature.recoveryId = some id ∧ id ≤ 3) ∧
    ∀ (text : String) (bytes : Bytes), decodeBase64 text = .ok bytes →
      ∀ error, decodeEnvelope text = .error error ↔
        (bytes.length ≠ 65 ∧ error = .invalidEncoding (.length 65 bytes.length)) ∨
        (bytes.length = 65 ∧ ∃ magic content, bytes = magic :: content ∧
          ¬ (27 ≤ magic ∧ magic ≤ 30) ∧
          error = .recoveryUnavailable (.unsupportedMagic magic)) := by
  refine ⟨?_, ?_, ?_, ?_⟩
  · intro text signature
    exact decodeEnvelope_eq_ok_iff
  · intro signature
    exact exists_encodeEnvelope_iff
  · intro text signature read
    apply exists_encodeEnvelope_iff.mp
    exact ⟨_, decodeEnvelope_eq_ok_iff.mp read⟩
  · intro text bytes decoded error
    rw [decodeEnvelope, decoded, ok_bind]
    exact openEnvelope_eq_error_iff

/-- Words that are no scalars do not matter, and the first bytes next to the supported ones are
refused. -/
theorem decodeEnvelope_canonical_run :
    let signature : Signature := { r := 0, s := BitVec.allOnes 256, recoveryId := some 3 }
    let envelope (magic : UInt8) := Base64.encode (magic :: signature.toBytes)
    decodeEnvelope (envelope 30) = .ok signature ∧
      (∃ id, signature.recoveryId = some id ∧ id ≤ 3) ∧
      decodeEnvelope (envelope 31) = .error (.recoveryUnavailable (.unsupportedMagic 31)) ∧
      decodeEnvelope (envelope 26) = .error (.recoveryUnavailable (.unsupportedMagic 26)) ∧
      decodeEnvelope " AA==\n" = .error (.invalidEncoding (.length 65 1)) := by
  intro signature envelope
  rcases decodeEnvelope_canonical with ⟨reads, _, carriesId, refuses⟩
  have opened : decodeEnvelope (envelope 30) = .ok signature := by
    apply (reads _ _).mpr
    rw [Base64.trim_encode]
    rfl
  have width (magic : UInt8) : (magic :: signature.toBytes).length = 65 := by
    rw [List.length_cons, Signature.length_toBytes]
    rfl
  refine ⟨opened, carriesId _ _ opened, ?_, ?_, ?_⟩
  · apply (refuses _ _ (decodeBase64_encode _) _).mpr
    exact .inr ⟨width 31, 31, _, rfl, by decide, rfl⟩
  · apply (refuses _ _ (decodeBase64_encode _) _).mpr
    exact .inr ⟨width 26, 26, _, rfl, by decide, rfl⟩
  · have decoded : decodeBase64 " AA==\n" = .ok [0] := rfl
    apply (refuses _ _ decoded _).mpr
    exact .inl ⟨by decide, rfl⟩

/-! ## Preimages and digests -/

/-- Behind the header stands the exact length of the message, in one byte. -/
theorem preimage_eq_ok_iff {message bytes : Bytes} :
    preimage message = .ok bytes ↔
      ∃ length : UInt8, length.toNat = message.length ∧ bytes = header ++ length :: message := by
  unfold preimage
  split
  case isTrue short =>
    have exactLength : (UInt8.ofNat message.length).toNat = message.length :=
      UInt8.toNat_ofNat_of_lt (Nat.lt_succ_of_le short)
    constructor
    · intro made
      cases made
      exact ⟨_, exactLength, rfl⟩
    · intro written
      rcases written with ⟨length, same, rfl⟩
      rw [← same, UInt8.ofNat_toNat]
  case isFalse long =>
    constructor
    · intro made
      cases made
    · intro written
      rcases written with ⟨length, same, _⟩
      have bound := length.toNat_lt
      rw [maximumLength] at long
      omega

theorem exists_preimage_iff {message : Bytes} :
    (∃ bytes, preimage message = .ok bytes) ↔ message.length ≤ maximumLength := by
  constructor
  · intro made
    rcases made with ⟨bytes, made⟩
    rcases preimage_eq_ok_iff.mp made with ⟨length, same, _⟩
    rw [← same]
    exact Nat.le_of_lt_succ length.toNat_lt
  · intro short
    exact ⟨_, if_pos short⟩

theorem preimage_injective {left right bytes : Bytes} (leftMade : preimage left = .ok bytes)
    (rightMade : preimage right = .ok bytes) : left = right := by
  rcases preimage_eq_ok_iff.mp leftMade with ⟨leftLength, _, leftWritten⟩
  rcases preimage_eq_ok_iff.mp rightMade with ⟨rightLength, _, rightWritten⟩
  have contents := List.append_cancel_left (leftWritten.symm.trans rightWritten)
  exact (List.cons.inj contents).2

theorem digest_eq_ok_iff {message digest : Bytes} :
    SignedMessage.digest message = .ok digest ↔
      ∃ bytes, preimage message = .ok bytes ∧ Hash.sha256 bytes = digest :=
  map_eq_ok_iff

theorem header_eq : header = [
    0x18, 0x42, 0x69, 0x74, 0x63, 0x6F, 0x69, 0x6E, 0x20, 0x53, 0x69, 0x67, 0x6E, 0x65, 0x64, 0x20,
    0x4D, 0x65, 0x73, 0x73, 0x61, 0x67, 0x65, 0x3A, 0x0A] := by
  decide +kernel

theorem digest_of_short {message : Bytes} (short : message.length ≤ maximumLength) :
    digest message =
      .ok (Hash.sha256 (header ++ UInt8.ofNat message.length :: message)) := by
  rw [digest, preimage, if_pos short]
  rfl

theorem digest_of_long {message : Bytes} (long : maximumLength < message.length) :
    digest message = .error (.messageTooLong message.length) := by
  rw [digest, preimage, if_neg (Nat.not_le_of_lt long)]
  rfl

end BitcoinKeys.SignedMessage
