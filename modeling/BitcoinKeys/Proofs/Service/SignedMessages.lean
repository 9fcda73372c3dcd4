import BitcoinKeys.Proofs.PrivateKey.SignedMessages
import BitcoinKeys.Proofs.Service.Verification

/-! # Signed messages, end to end

A message that the service signs is traced back to the key that signed it: the envelope is read as
the signature, recovery gives the public key, and the signature verifies for it. -/

namespace BitcoinKeys.Service

open SignedMessage

theorem result_signMessage (key : PrivateKey) (message : Bytes) :
    (signMessage key message).result = key.signMessage message := by
  unfold signMessage
  cases key.signMessage message with
  | ok _ => rfl
  | error _ => rfl

theorem recoverSigner_signMessage {key : PrivateKey} {message : Bytes} {envelope : String}
    (signed : key.signMessage message = .ok envelope) :
    recoverSigner message envelope = .ok (key.publicKey, true) := by
  rcases PrivateKey.signMessage_eq_ok_iff.mp signed with
    ⟨digest, digested, signature, signatureMade, written⟩
  have decoded := decodeEnvelope_of_encodeEnvelope written
  have given := PublicKey.ofSignature_signsFor (PrivateKey.signsFor_of_sign signatureMade)
  have recovered : PublicKey.ofSignedMessage message envelope = .ok key.publicKey :=
    PublicKey.ofSignedMessage_eq_ok_iff.mpr ⟨signature, decoded, digest, digested, given⟩
  rw [recoverSigner_eq, recovered]
  rfl

/-- Whatever the service signs, it verifies: it finds the address of the signer and no error, and
takes the message as valid exactly for the two addresses of the signer on its network. Signing
refuses exactly the messages that are too long, and fails otherwise only in signing itself. -/
theorem verifyMessage_signMessage (key : PrivateKey) (message : Bytes) :
    (∀ (service : Service) (address envelope : String),
      (signMessage key message).result = .ok envelope →
        (service.verifyMessage address message envelope).result.error = none ∧
        (service.verifyMessage address message envelope).result.recoveredAddress =
          some (service.address key.publicKey) ∧
        ((service.verifyMessage address message envelope).result.valid = true ↔
          address = key.publicKey.address true service.config.network ∨
            address = key.publicKey.address false service.config.network)) ∧
    ((signMessage key message).result = .error (.messageTooLong message.length) ↔
      255 < message.length) ∧
    (message.length ≤ 255 → ∀ error, (signMessage key message).result = .error error →
      error = .signingFailed) := by
  rw [result_signMessage]
  refine ⟨?_, ?_, ?_⟩
  · intro service address envelope signed
    rw [result_verifyMessage (recoverSigner_signMessage signed), Bool.true_and,
      matchesAddress_iff]
    exact ⟨rfl, rfl, Iff.rfl⟩
  · constructor
    · intro tooLong
      apply Nat.lt_of_not_le
      intro short
      cases PrivateKey.signMessage_of_short short tooLong
    · intro long
      exact key.signMessage_of_long long
  · intro short error failed
    exact PrivateKey.signMessage_of_short short failed

/-- The smallest secret signs the empty message, which is valid for its compressed address. -/
theorem verifyMessage_signMessage_run :
    ∃ key : PrivateKey, PrivateKey.ofWord 1 = .ok key ∧
      ∃ envelope, (signMessage key []).result = .ok envelope ∧
        let found := standard.verifyMessage (key.publicKey.address true .mainnet) [] envelope
        found.result.error = none ∧
        found.result.recoveredAddress = some (standard.address key.publicKey) ∧
        found.result.valid = true := by
  rcases PrivateKey.exists_key (show Secp256k1.IsScalar 1 by decide) with ⟨key, scalar⟩
  have read : PrivateKey.ofWord 1 = .ok key := by
    rw [← scalar, PrivateKey.ofWord_scalar]
  have signed : (signMessage key []).result =
      .ok (Base64.encode (firstMagic :: Ecdsa.SigningRun.signature.toBytes)) := by
    rw [result_signMessage, PrivateKey.signMessage_nil scalar]
  have sound := (verifyMessage_signMessage key []).1 standard
    (key.publicKey.address true .mainnet) _ signed
  rcases sound with ⟨noError, address, valid⟩
  exact ⟨key, read, _, signed, noError, address, valid.mpr (.inl rfl)⟩

end BitcoinKeys.Service
