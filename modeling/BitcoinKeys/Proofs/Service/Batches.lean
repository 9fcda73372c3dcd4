import BitcoinKeys.Proofs.Outcome
import BitcoinKeys.Service
import Mathlib.Data.List.Forall2

/-! # Batches

A service verifies a batch as it verifies each request on its own, unless the batch is larger than
configured. Whatever a service is made of, it is configured for batches of at least one request. -/

namespace BitcoinKeys

/-! ## Requests -/

namespace VerificationRequest

/-- What is to be verified is hashed first, or has the length of a digest. -/
def IsPrepared (request : VerificationRequest) : Prop :=
  request.hashFirst = true ∨ request.message.length = digestLength

def verifies (request : VerificationRequest) : Bool :=
  request.publicKey.verify (.raw request.message) request.signature request.hashFirst

variable {request : VerificationRequest}

theorem not_isPrepared_iff :
    ¬ request.IsPrepared ↔
      request.hashFirst = false ∧ request.message.length ≠ digestLength := by
  rw [IsPrepared, not_or, Bool.not_eq_true]

theorem run_of_isPrepared (prepared : request.IsPrepared) :
    request.run = if request.verifies then .valid else .invalid := by
  rw [run, if_pos]
  · rfl
  · rw [Bool.or_eq_true, decide_eq_true_iff]
    exact prepared

theorem run_of_not_isPrepared (unprepared : ¬ request.IsPrepared) :
    request.run = .failed (.invalidEncoding (.length digestLength request.message.length)) := by
  rw [run, if_neg]
  rw [Bool.or_eq_true, decide_eq_true_iff]
  exact unprepared

theorem isValid_run_iff :
    request.run.isValid = true ↔ request.verifies = true ∧ request.IsPrepared := by
  by_cases prepared : request.IsPrepared
  · rw [run_of_isPrepared prepared]
    cases request.verifies with
    | true => simp [VerificationOutcome.isValid, prepared]
    | false => simp [VerificationOutcome.isValid]
  · rw [run_of_not_isPrepared prepared]
    simp [VerificationOutcome.isValid, prepared]

theorem error?_run_eq_some_iff {error : KeyError} :
    request.run.error? = some error ↔
      ¬ request.IsPrepared ∧
        error = .invalidEncoding (.length digestLength request.message.length) := by
  by_cases prepared : request.IsPrepared
  · rw [run_of_isPrepared prepared]
    cases request.verifies with
    | true => simp [VerificationOutcome.error?, prepared]
    | false => simp [VerificationOutcome.error?, prepared]
  · rw [run_of_not_isPrepared prepared]
    simp [VerificationOutcome.error?, prepared, eq_comm]

/-- The outcome tells whether the signature verifies. What is not hashed first has to have the
length of a digest, and a wrong length is the only error. -/
structure IsAnsweredBy (request : VerificationRequest) (outcome : VerificationOutcome) : Prop where
  isValid_iff : outcome.isValid = true ↔
    request.publicKey.verify (.raw request.message) request.signature request.hashFirst = true ∧
      (request.hashFirst = true ∨ request.message.length = 32)
  error?_iff (error : KeyError) : outcome.error? = some error ↔
    (request.hashFirst = false ∧ request.message.length ≠ 32) ∧
      error = .invalidEncoding (.length 32 request.message.length)

theorem isAnsweredBy_run (request : VerificationRequest) : request.IsAnsweredBy request.run := by
  constructor
  · exact isValid_run_iff
  · intro error
    rw [error?_run_eq_some_iff, not_isPrepared_iff]
    rfl

end VerificationRequest

/-! ## Tallies -/

namespace BatchOutcome

theorem validCount_add_invalidCount (batch : BatchOutcome) :
    batch.validCount + batch.invalidCount = batch.outcomes.length :=
  Nat.add_sub_cancel' List.countP_le_length

theorem allValid_eq (batch : BatchOutcome) :
    batch.allValid = batch.outcomes.all VerificationOutcome.isValid := by
  rw [Bool.eq_iff_iff, allValid, beq_iff_eq, List.all_eq_true, ← List.countP_eq_length]
  have tally := batch.validCount_add_invalidCount
  change batch.validCount + _ = _ at tally
  rw [← tally]
  change _ ↔ batch.validCount = _
  omega

end BatchOutcome

/-! ## Services -/

namespace Service

theorem one_le_maxBatchSize_iff {config : Config} :
    1 ≤ config.maxBatchSize.toNat ↔ config.maxBatchSize ≠ 0 := by
  rw [Nat.one_le_iff_ne_zero, ne_eq, ne_eq, ← UInt64.toNat_inj]
  rfl

theorem ofConfig_eq_ok_iff {config : Config} {service : Service} :
    ofConfig config = .ok service ↔ service.config = config ∧ 1 ≤ config.maxBatchSize.toNat := by
  rw [one_le_maxBatchSize_iff]
  unfold ofConfig
  split
  case isTrue zero => simp [zero]
  case isFalse nonzero =>
    rcases service with ⟨other, _⟩
    simp [nonzero, eq_comm]

/-- What a service can be made of. -/
inductive Source where
  | config (config : Config)
  | environment (environment : Environment)
  | standard

namespace Source

def service : Source → Except KeyError Service
  | .config given => ofConfig given
  | .environment given => (ofEnvironment given).result
  | .standard => .ok Service.standard

/-- The settings that the source stands for, whether they are valid or not. -/
def settings : Source → Config
  | .config given => given
  | .environment given => (Config.readEnvironment given).result
  | .standard => Config.standard

theorem service_eq (source : Source) : source.service = ofConfig source.settings := by
  cases source with
  | config given => rfl
  | environment given =>
      change (Config.validate (settings (.environment given))).bind ofConfig = _
      rw [Config.validate]
      split
      case isTrue zero => simp [ofConfig, zero, Except.bind]
      case isFalse nonzero => rfl
  | standard => rfl

theorem service_eq_ok_iff {source : Source} {service : Service} :
    source.service = .ok service ↔
      service.config = source.settings ∧ 1 ≤ source.settings.maxBatchSize.toNat := by
  rw [service_eq, ofConfig_eq_ok_iff]

end Source

section Batch

variable {service : Service} {requests : List VerificationRequest}

theorem result_verifyBatch_of_large
    (large : service.config.maxBatchSize.toNat < requests.length) :
    (service.verifyBatch requests).result =
      .error (.batchTooLarge requests.length service.config.maxBatchSize.toNat) := by
  rw [verifyBatch, if_pos large]

theorem result_verifyBatch_of_small
    (small : ¬ service.config.maxBatchSize.toNat < requests.length) :
    (service.verifyBatch requests).result = .ok (.ofRequests requests) := by
  rw [verifyBatch, if_neg small]

end Batch

theorem result_verifyBatch_singleton (service : Service) (request : VerificationRequest) :
    (service.verifyBatch [request]).result = .ok ⟨[request.run]⟩ := by
  rw [result_verifyBatch_of_small]
  · rfl
  · have positive := one_le_maxBatchSize_iff.mpr service.maxBatchSize_ne_zero
    rw [List.length_singleton]
    omega

/-- Every service, whatever it is made of, takes batches of at least one request, and it is made
exactly if its settings allow this. A batch is refused exactly if it is larger than configured.
Otherwise there is one outcome for each request, in the order of the requests: the outcome that the
service finds for the request alone. The tally counts the valid outcomes and the others, and all are
valid exactly if each of them is. -/
theorem verifyBatch_sequential :
    (∀ (source : Source) (service : Service),
      source.service = .ok service ↔
        service.config = source.settings ∧ 1 ≤ source.settings.maxBatchSize.toNat) ∧
    ∀ (service : Service) (requests : List VerificationRequest),
      let size := requests.length
      let maximum := service.config.maxBatchSize.toNat
      if maximum < size then
        (service.verifyBatch requests).result = .error (.batchTooLarge size maximum)
      else
        ∃ batch, (service.verifyBatch requests).result = .ok batch ∧
          List.Forall₂
            (fun request outcome =>
              (service.verifyBatch [request]).result = .ok ⟨[outcome]⟩ ∧
                request.IsAnsweredBy outcome)
            requests batch.outcomes ∧
          batch.validCount + batch.invalidCount = size ∧
          batch.validCount = (batch.outcomes.filter VerificationOutcome.isValid).length ∧
          batch.allValid = batch.outcomes.all VerificationOutcome.isValid := by
  constructor
  · intro source service
    exact Source.service_eq_ok_iff
  · intro service requests size maximum
    split
    case isTrue large => exact result_verifyBatch_of_large large
    case isFalse small =>
      let batch := BatchOutcome.ofRequests requests
      refine ⟨batch, result_verifyBatch_of_small small, ?_, ?_, ?_, batch.allValid_eq⟩
      · apply List.forall₂_map_right_iff.mpr
        apply List.forall₂_same.mpr
        intro request member
        exact ⟨service.result_verifyBatch_singleton request, request.isAnsweredBy_run⟩
      · rw [batch.validCount_add_invalidCount]
        exact List.length_map _
      · exact List.countP_eq_length_filter

end Service

end BitcoinKeys
