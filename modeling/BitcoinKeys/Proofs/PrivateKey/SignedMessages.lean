import BitcoinKeys.Proofs.PrivateKey.Signing
import BitcoinKeys.Proofs.SignedMessage

/-! # Envelopes that keys sign

What is signed for a message is the double digest of its preimage: once it is hashed in front of
signing, and once by signing itself. The envelope holds the signature and tells the recovery id of
the signer, and signing fails for the length of a message or in signing itself. -/

namespace BitcoinKeys.PrivateKey

open SignedMessage

theorem eq_signingFailed_of_sign {key : PrivateKey} {message : Bytes} {hashFirst : Bool}
    {error : KeyError} (failed : key.sign message hashFirst = .error error) :
    error = .signingFailed := by
  rcases Ecdsa.publicPoint_eq_ok_iff.mp key.publicPoint_eq with ⟨scalar, read, _⟩
  exact ((Ecdsa.sign_eq_error_iff read).mp failed).1

theorem signMessage_eq_ok_iff {key : PrivateKey} {message : Bytes} {envelope : String} :
    key.signMessage message = .ok envelope ↔
      ∃ digest, SignedMessage.digest message = .ok digest ∧
        ∃ signature, key.sign digest true = .ok signature ∧
          encodeEnvelope signature = .ok envelope := by
  rw [signMessage]
  simp only [bind_eq_ok_iff]

theorem encodeEnvelope_signed {key : PrivateKey} {message : Bytes} {hashFirst : Bool}
    {signature : Signature} (signed : key.sign message hashFirst = .ok signature) :
    ∃ envelope, encodeEnvelope signature = .ok envelope := by
  rcases (signsFor_of_sign signed).recovers with ⟨id, stored, _⟩
  exact ⟨_, encodeEnvelope_eq_ok_iff.mpr ⟨id.toByte, stored, id.toByte_le, rfl⟩⟩

theorem signMessage_of_long (key : PrivateKey) {message : Bytes}
    (long : maximumLength < message.length) :
    key.signMessage message = .error (.messageTooLong message.length) := by
  rw [signMessage, digest_of_long long]
  rfl

theorem signMessage_of_short {key : PrivateKey} {message : Bytes}
    (short : message.length ≤ maximumLength) {error : KeyError}
    (failed : key.signMessage message = .error error) : error = .signingFailed := by
  rw [signMessage, digest_of_short short, ok_bind] at failed
  rcases bind_eq_error_iff.mp failed with signing | ⟨signature, signed, writing⟩
  · exact eq_signingFailed_of_sign signing
  · rcases encodeEnvelope_signed signed with ⟨envelope, written⟩
    rw [written] at writing
    cases writing

/-- The signature of an envelope is one of the double digest of the preimage, which is not hashed
again. -/
theorem exists_signature_of_signMessage {key : PrivateKey} {message : Bytes} {text : String}
    (signed : key.signMessage message = .ok text) :
    ∃ preimage, SignedMessage.preimage message = .ok preimage ∧
      ∃ signature, encodeEnvelope signature = .ok text ∧
        Ecdsa.SignsFor (Hash.doubleSha256 preimage) false signature key.publicKey.point := by
  rcases signMessage_eq_ok_iff.mp signed with ⟨_, digested, signature, made, written⟩
  rcases digest_eq_ok_iff.mp digested with ⟨preimage, read, rfl⟩
  exact ⟨preimage, read, signature, written, (signsFor_of_sign made).hashed⟩

/-- Signed messages follow the convention of the network. An envelope is the Base64 of 65 bytes: 27
and the recovery id, then both words of a signature, for which the double digest of the preimage
verifies and recovers the signer. The preimage of a message has its exact length in one byte, exists
for up to 255 bytes, and is the preimage of no other message. -/
theorem signMessage_convention :
    (∀ (key : PrivateKey) (message : Bytes) (text : String),
      key.signMessage message = .ok text →
        ∃ (preimage : Bytes) (r s : Word) (id : Ecdsa.RecoveryId),
          SignedMessage.preimage message = .ok preimage ∧
          text = Base64.encode ((27 + id.toByte) :: (r.toBytes ++ s.toBytes)) ∧
          ((27 + id.toByte) :: (r.toBytes ++ s.toBytes)).length = 65 ∧ id.toByte ≤ 3 ∧
          Ecdsa.verify (Hash.doubleSha256 preimage) r s key.publicKey.point false = true ∧
          (key.publicKey.point, id) ∈
            Ecdsa.candidates (Hash.doubleSha256 preimage) r s false) ∧
    (∀ message : Bytes,
      (∃ preimage, SignedMessage.preimage message = .ok preimage) ↔ message.length ≤ 255) ∧
    (∀ message preimage : Bytes,
      SignedMessage.preimage message = .ok preimage ↔
        ∃ length : UInt8, length.toNat = message.length ∧
          preimage = header ++ length :: message) ∧
    ∀ left right preimage : Bytes, SignedMessage.preimage left = .ok preimage →
      SignedMessage.preimage right = .ok preimage → left = right := by
  refine ⟨?_, ?_, ?_, ?_⟩
  · intro key message text signed
    rcases exists_signature_of_signMessage signed with ⟨preimage, read, signature, written, signs⟩
    rcases signs.recovers with ⟨id, stored, recovered⟩
    rcases encodeEnvelope_eq_ok_iff.mp written with ⟨_, sameStored, _, rfl⟩
    cases Option.some.inj (stored.symm.trans sameStored)
    refine ⟨preimage, signature.r, signature.s, id, read, rfl, ?_, id.toByte_le, signs.verifies,
      Ecdsa.mem_candidates.mpr recovered⟩
    rw [List.length_cons, ← Signature.toBytes, Signature.length_toBytes]
    rfl
  · intro message
    exact exists_preimage_iff
  · intro message preimage
    exact preimage_eq_ok_iff
  · intro left right preimage leftMade rightMade
    exact preimage_injective leftMade rightMade

/-! ## A run

The key with the smallest secret signs the empty message. -/

theorem digest_nil : SignedMessage.digest [] = .ok Ecdsa.SigningRun.digest := by
  have hashed : Hash.sha256 (header ++ [0]) = Ecdsa.SigningRun.digest := by
    rw [header_eq]
    decide +kernel
  exact (digest_of_short (Nat.zero_le _)).trans (congrArg Except.ok hashed)

theorem signMessage_nil {key : PrivateKey} (smallest : key.scalar = 1) :
    key.signMessage [] =
      .ok (Base64.encode (firstMagic :: Ecdsa.SigningRun.signature.toBytes)) := by
  rw [signMessage, digest_nil, ok_bind, sign, smallest, Ecdsa.SigningRun.sign_eq, ok_bind]
  rfl

/-- The envelope of the empty message is of the double digest of the header and one zero byte. -/
theorem signMessage_convention_run :
    ∃ (key : PrivateKey) (text : String),
      key.scalar = 1 ∧ key.signMessage [] = .ok text ∧
      ∃ (r s : Word) (id : Ecdsa.RecoveryId),
        text = Base64.encode ((27 + id.toByte) :: (r.toBytes ++ s.toBytes)) ∧
        Ecdsa.verify (Hash.doubleSha256 (header ++ [0])) r s key.publicKey.point false = true ∧
        (key.publicKey.point, id) ∈
          Ecdsa.candidates (Hash.doubleSha256 (header ++ [0])) r s false := by
  rcases exists_key (show Secp256k1.IsScalar 1 by decide) with ⟨key, smallest⟩
  rcases signMessage_convention with ⟨signs, _, form, _⟩
  have signed := signMessage_nil smallest
  rcases signs key [] _ signed with
    ⟨preimage, r, s, id, made, written, _, _, verifies, listed⟩
  have emptyMade : SignedMessage.preimage [] = .ok (header ++ [0]) :=
    (form [] _).mpr ⟨0, rfl, rfl⟩
  cases made.symm.trans emptyMade
  exact ⟨key, _, smallest, signed, r, s, id, written, verifies, listed⟩

end BitcoinKeys.PrivateKey
