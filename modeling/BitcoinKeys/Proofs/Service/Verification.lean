import BitcoinKeys.Proofs.PublicKey.SignedMessages
import BitcoinKeys.Service

/-! # Verification of signed messages

What the service finds out about a message and an envelope rests on the recovery of a key alone. If
there is a key, its signature verifies, and only the address is left to be compared. -/

namespace BitcoinKeys.Service

open SignedMessage

theorem matchesAddress_iff {service : Service} {key : PublicKey} {text : String} :
    service.matchesAddress key text = true ↔
      text = key.address true service.config.network ∨
        text = key.address false service.config.network := by
  rw [matchesAddress, Bool.or_eq_true, beq_iff_eq, beq_iff_eq, eq_comm, @eq_comm _ _ text]

theorem recoverSigner_eq (message : Bytes) (envelope : String) :
    recoverSigner message envelope =
      (PublicKey.ofSignedMessage message envelope).map fun key => (key, true) := by
  rw [recoverSigner]
  cases recovered : PublicKey.ofSignedMessage message envelope with
  | error error => rfl
  | ok key =>
      rw [ok_bind, PublicKey.verifySignedMessage_of_ofSignedMessage recovered]
      rfl

theorem result_verifyMessage {message : Bytes} {envelope : String} {key : PublicKey}
    {verified : Bool} (recovered : recoverSigner message envelope = .ok (key, verified))
    (service : Service) (address : String) :
    (service.verifyMessage address message envelope).result = {
      valid := verified && service.matchesAddress key address
      recoveredAddress := some (service.address key)
      error := none } := by
  unfold verifyMessage
  rw [recovered]

theorem result_verifyMessage_of_ok {message : Bytes} {envelope : String} {key : PublicKey}
    (recovered : PublicKey.ofSignedMessage message envelope = .ok key)
    (service : Service) (address : String) :
    (service.verifyMessage address message envelope).result = {
      valid := service.matchesAddress key address
      recoveredAddress := some (service.address key)
      error := none } := by
  have signer : recoverSigner message envelope = .ok (key, true) := by
    rw [recoverSigner_eq, recovered]
    rfl
  rw [result_verifyMessage signer, Bool.true_and]

theorem result_verifyMessage_of_error {message : Bytes} {envelope : String} {error : KeyError}
    (failed : PublicKey.ofSignedMessage message envelope = .error error)
    (service : Service) (address : String) :
    (service.verifyMessage address message envelope).result = {
      valid := false
      recoveredAddress := none
      error := some error } := by
  unfold verifyMessage
  rw [recoverSigner_eq, failed]
  rfl

theorem result_verifyMessage_eq_failure_iff {service : Service} {address : String}
    {message : Bytes} {envelope : String} {error : KeyError} :
    (service.verifyMessage address message envelope).result =
        { valid := false, recoveredAddress := none, error := some error } ↔
      PublicKey.ofSignedMessage message envelope = .error error := by
  constructor
  · intro reported
    cases recovered : PublicKey.ofSignedMessage message envelope with
    | error other =>
        rw [result_verifyMessage_of_error recovered] at reported
        cases reported
        rfl
    | ok key =>
        rw [result_verifyMessage_of_ok recovered] at reported
        cases congrArg MessageVerification.error reported
  · intro failed
    exact result_verifyMessage_of_error failed service address

/-- An envelope that gives a key verifies for it, whoever made the envelope. So the service reports
an error exactly if no key is recovered, and the same error. Otherwise the message is valid exactly
for the two addresses of the recovered key on the network of the service. -/
theorem verifyMessage_recovered (message : Bytes) (envelope : String) :
    ((∃ error, PublicKey.verifyRecovered message envelope = .error error) ∨
      PublicKey.verifyRecovered message envelope = .ok true) ∧
    ∀ (service : Service) (address : String),
      (∀ error,
        (service.verifyMessage address message envelope).result =
            { valid := false, recoveredAddress := none, error := some error } ↔
          PublicKey.ofSignedMessage message envelope = .error error) ∧
      ∀ key, PublicKey.ofSignedMessage message envelope = .ok key →
        (service.verifyMessage address message envelope).result.error = none ∧
        (service.verifyMessage address message envelope).result.recoveredAddress =
          some (service.address key) ∧
        ((service.verifyMessage address message envelope).result.valid = true ↔
          address = key.address true service.config.network ∨
            address = key.address false service.config.network) := by
  constructor
  · rw [PublicKey.verifyRecovered_eq]
    cases PublicKey.ofSignedMessage message envelope with
    | error error => exact .inl ⟨error, rfl⟩
    | ok key => exact .inr rfl
  · intro service address
    constructor
    · intro error
      exact result_verifyMessage_eq_failure_iff
    · intro key recovered
      rw [result_verifyMessage_of_ok recovered, matchesAddress_iff]
      exact ⟨rfl, rfl, Iff.rfl⟩

/-- The service takes a made-up signature with a high `s` as valid for the address of the base point
in the form that it is not configured for. -/
theorem verifyMessage_recovered_run :
    ∃ (service : Service) (key : PublicKey) (envelope : String),
      service.config.compressedAddresses = false ∧
      PublicKey.ofSignedMessage [0x61] envelope = .ok key ∧
      let found := service.verifyMessage (key.address true .testnet) [0x61] envelope
      found.result.error = none ∧
      found.result.recoveredAddress = some (key.address false .testnet) ∧
      found.result.valid = true := by
  let key := PublicKey.RelabeledRun.key
  let service : Service := ⟨⟨.testnet, false, 1⟩, by decide⟩
  let envelope := Base64.encode (firstMagic :: Ecdsa.RecoveryRun.signature.toBytes)
  have decoded : decodeEnvelope envelope = .ok Ecdsa.RecoveryRun.signature := by
    apply decodeEnvelope_of_encodeEnvelope
    rfl
  have recovered := PublicKey.RelabeledRun.ofSignedMessage_eq decoded
  have sound := (verifyMessage_recovered [0x61] envelope).2 service (key.address true .testnet)
  rcases sound.2 key recovered with ⟨noError, address, valid⟩
  exact ⟨service, key, envelope, rfl, recovered, noError, address, valid.mpr (.inl rfl)⟩

end BitcoinKeys.Service
