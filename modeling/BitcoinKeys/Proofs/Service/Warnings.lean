import BitcoinKeys.Proofs.Service.Secrecy

/-! # Warnings of a session

A session makes calls to one service, one after the other. A call warns once if its answer tells of
an anomaly, and not at all otherwise, so that the warnings of a session count its anomalies:
messages that are not valid, batches that are too large, and imported keys of another network. -/

namespace BitcoinKeys

/-! ## Sessions -/

namespace Logged

variable {α β : Type} (change : α → β) (run : Logged α)

@[simp]
theorem result_map : (change <$> run).result = change run.result := rfl

@[simp]
theorem events_map : (change <$> run).events = run.events :=
  List.append_nil _

end Logged

namespace Event

def isWarning (event : Event) : Bool :=
  event.level == .warn

def warningCount (events : List Event) : Nat :=
  events.countP isWarning

end Event

namespace Service

/-- A call with its arguments. The bytes of a new key come from a random stream. -/
inductive Call where
  | generateKey (stream : Bytes)
  | importKey (text : String)
  | exportKey (key : PrivateKey)
  | address (key : PublicKey)
  | signMessage (key : PrivateKey) (message : Bytes)
  | verifyMessage (address : String) (message : Bytes) (envelope : String)
  | verifyBatch (requests : List VerificationRequest)

inductive Answer where
  | generatedKey (outcome : Except KeyError PrivateKey)
  | importedKey (outcome : Except KeyError PrivateKey)
  | exportedKey (text : String)
  | address (text : String)
  | signedMessage (outcome : Except KeyError String)
  | verifiedMessage (found : MessageVerification)
  | verifiedBatch (outcome : Except KeyError BatchOutcome)

structure Exchange where
  call : Call
  answer : Answer

def answer (service : Service) : Call → Logged Answer
  | .generateKey stream => .generatedKey <$> service.generateKey stream
  | .importKey text => .importedKey <$> service.importKey text
  | .exportKey key => .exportedKey <$> service.exportKey key
  | .address key => .quiet (.address (service.address key))
  | .signMessage key message => .signedMessage <$> signMessage key message
  | .verifyMessage address message envelope =>
      .verifiedMessage <$> service.verifyMessage address message envelope
  | .verifyBatch requests => .verifiedBatch <$> service.verifyBatch requests

/-- Makes calls in their order, and keeps each with its answer. -/
def session (service : Service) : List Call → Logged (List Exchange)
  | [] => return []
  | call :: rest => do
      let answer ← service.answer call
      let exchanges ← session service rest
      return ⟨call, answer⟩ :: exchanges

theorem result_session (service : Service) (calls : List Call) :
    (service.session calls).result =
      calls.map fun call => ⟨call, (service.answer call).result⟩ := by
  induction calls with
  | nil => rfl
  | cons call rest induction =>
      rw [session, List.map_cons, ← induction]
      rfl

theorem events_session (service : Service) (calls : List Call) :
    (service.session calls).events = calls.flatMap fun call => (service.answer call).events := by
  induction calls with
  | nil => rfl
  | cons call rest induction =>
      rw [session, List.flatMap_cons, ← induction]
      simp only [Logged.events_bind, Logged.events_pure, List.append_nil]

/-! ## Anomalies -/

/-- The network that the version of an exported key marks. -/
def networkOfWif? (text : String) : Option Network :=
  match decodeBase58Check text with
  | .error _ => none
  | .ok (version, _) => (Network.ofPrivateKeyVersion version).toOption

namespace Exchange

def isInvalidMessage (exchange : Exchange) : Bool :=
  match exchange.answer with
  | .verifiedMessage found => !found.valid
  | _ => false

def isOversizedBatch (exchange : Exchange) : Bool :=
  match exchange.answer with
  | .verifiedBatch (.error (.batchTooLarge _ _)) => true
  | _ => false

/-- Whether a key was imported whose text marks another network than the configured one. -/
def isForeignImport (configured : Network) (exchange : Exchange) : Bool :=
  match exchange.answer, exchange.call with
  | .importedKey (.ok _), .importKey text => networkOfWif? text != some configured
  | _, _ => false

/-- The number of anomalies in a list of exchanges. -/
def anomalyCount (configured : Network) (exchanges : List Exchange) : Nat :=
  exchanges.countP isInvalidMessage + exchanges.countP isOversizedBatch +
    exchanges.countP (isForeignImport configured)

theorem anomalyCount_cons (configured : Network) (exchange : Exchange)
    (exchanges : List Exchange) :
    anomalyCount configured (exchange :: exchanges) =
      anomalyCount configured [exchange] + anomalyCount configured exchanges := by
  simp only [anomalyCount, List.countP_cons, List.countP_nil]
  omega

/-- An answer is of one kind, and so an exchange shows one anomaly at most. -/
theorem anomalyCount_singleton_le (configured : Network) (exchange : Exchange) :
    anomalyCount configured [exchange] ≤ 1 := by
  have single (anomalous : Exchange → Bool) : [exchange].countP anomalous ≤ 1 :=
    List.countP_le_length
  rcases exchange with ⟨call, answer⟩
  cases answer with
  | verifiedMessage found => exact single isInvalidMessage
  | verifiedBatch outcome => exact (Nat.zero_add _).le.trans (single isOversizedBatch)
  | importedKey outcome =>
      exact (Nat.zero_add _).le.trans (single (isForeignImport configured))
  | _ => exact Nat.zero_le 1

section

variable (configured : Network) (call : Call)

theorem anomalyCount_verifiedMessage (found : MessageVerification) :
    anomalyCount configured [⟨call, .verifiedMessage found⟩] = if found.valid then 0 else 1 := by
  cases valid : found.valid with
  | true => simp [anomalyCount, isInvalidMessage, isOversizedBatch, isForeignImport, valid]
  | false => simp [anomalyCount, isInvalidMessage, isOversizedBatch, isForeignImport, valid]

theorem anomalyCount_importedKey (text : String) (key : PrivateKey) :
    anomalyCount configured [⟨.importKey text, .importedKey (.ok key)⟩] =
      if networkOfWif? text = some configured then 0 else 1 := by
  by_cases same : networkOfWif? text = some configured
  · simp [anomalyCount, isInvalidMessage, isOversizedBatch, isForeignImport, same]
  · simp [anomalyCount, isInvalidMessage, isOversizedBatch, isForeignImport, same]

end

end Exchange

section

open Event Exchange

variable {service : Service}

theorem networkOfWif?_of_read {text : String} {key : PrivateKey} {network : Network}
    (read : (PrivateKey.ofWif text).result = .ok (key, network)) :
    networkOfWif? text = some network := by
  have decoded : decodeBase58Check text = .ok (network.privateKeyVersion, key.toBytes) :=
    decodeBase58Check_eq_ok_iff.mpr (PrivateKey.result_ofWif_eq_ok_iff.mp read)
  rw [networkOfWif?, decoded]
  simp only [Network.ofPrivateKeyVersion_privateKeyVersion]
  rfl

/-! ## The warnings of a call -/

theorem warningCount_generateKey (stream : Bytes) :
    warningCount (service.generateKey stream).events = 0 := by
  unfold generateKey
  split
  case h_1 => rfl
  case h_2 => rfl

theorem warningCount_signMessage (key : PrivateKey) (message : Bytes) :
    warningCount (signMessage key message).events = 0 := by
  unfold signMessage
  split
  case h_1 => rfl
  case h_2 => rfl

theorem warningCount_ofWif (text : String) :
    warningCount (PrivateKey.ofWif text).events = 0 := by
  unfold PrivateKey.ofWif
  split
  case h_1 => rfl
  case h_2 =>
    split
    case h_1 => rfl
    case h_2 => rfl

theorem warningCount_reportImport (key : PrivateKey) (network : Network) :
    warningCount (service.reportImport key network).events =
      if network = service.config.network then 0 else 1 := by
  unfold reportImport
  by_cases same : network = service.config.network
  · rw [if_neg (not_not_intro same), if_pos same]
    rfl
  · rw [if_pos same, if_neg same]
    rfl

theorem warningCount_importKey (text : String) :
    warningCount (service.importKey text).events =
      anomalyCount service.config.network
        [⟨.importKey text, .importedKey (service.importKey text).result⟩] := by
  rw [result_importKey]
  cases read : (PrivateKey.ofWif text).result with
  | error error =>
      rw [events_importKey_of_error read, warningCount_ofWif]
      rfl
  | ok imported =>
      rcases imported with ⟨key, network⟩
      rw [events_importKey_of_read read, warningCount_reportImport]
      change _ = anomalyCount _ [⟨_, .importedKey (.ok key)⟩]
      simp only [anomalyCount_importedKey, networkOfWif?_of_read read, Option.some.injEq]

theorem warningCount_verifyMessage (address : String) (message : Bytes) (envelope : String) :
    warningCount (service.verifyMessage address message envelope).events =
      if (service.verifyMessage address message envelope).result.valid then 0 else 1 := by
  unfold verifyMessage
  cases recoverSigner message envelope with
  | error error => rfl
  | ok found =>
      rcases found with ⟨key, verified⟩
      dsimp only
      split
      case isTrue => rfl
      case isFalse => rfl

theorem warningCount_verifyBatch (requests : List VerificationRequest) :
    warningCount (service.verifyBatch requests).events =
      anomalyCount service.config.network
        [⟨.verifyBatch requests, .verifiedBatch (service.verifyBatch requests).result⟩] := by
  unfold verifyBatch
  dsimp only
  split
  case isTrue => rfl
  case isFalse => rfl

/-- A call warns of the anomaly that its answer tells of, and of nothing else. -/
theorem warningCount_answer (service : Service) (call : Call) :
    warningCount (service.answer call).events =
      anomalyCount service.config.network [⟨call, (service.answer call).result⟩] := by
  cases call with
  | generateKey stream =>
      rw [answer, Logged.events_map, warningCount_generateKey]
      rfl
  | importKey text =>
      rw [answer, Logged.events_map]
      exact warningCount_importKey text
  | exportKey key => rfl
  | address key => rfl
  | signMessage key message =>
      rw [answer, Logged.events_map, warningCount_signMessage]
      rfl
  | verifyMessage address message envelope =>
      rw [answer, Logged.events_map, Logged.result_map, anomalyCount_verifiedMessage]
      exact warningCount_verifyMessage address message envelope
  | verifyBatch requests =>
      rw [answer, Logged.events_map]
      exact warningCount_verifyBatch requests

/-! ## The warnings of a session -/

theorem warningCount_session (service : Service) (calls : List Call) :
    warningCount (service.session calls).events =
      anomalyCount service.config.network (service.session calls).result := by
  induction calls with
  | nil => rfl
  | cons call rest induction =>
      have step := service.warningCount_answer call
      rw [session]
      simp only [Logged.events_bind, Logged.result_bind, Logged.events_pure, Logged.result_pure,
        List.append_nil]
      rw [anomalyCount_cons, ← step, ← induction]
      exact List.countP_append

/-- The calls of a session are answered as each would be on its own, and leave their events one
after the other. There are as many warnings among these as messages that are answered as not valid,
batches that are refused as too large and keys that are imported from a text of another network,
taken together. No call warns more than once. -/
theorem warnings_count_anomalies (service : Service) :
    (∀ calls : List Call,
      let exchanges := calls.map fun call => Exchange.mk call (service.answer call).result
      (service.session calls).result = exchanges ∧
      (service.session calls).events = calls.flatMap (fun call => (service.answer call).events) ∧
      (service.session calls).events.countP (fun event => event.level = .warn) =
        exchanges.countP isInvalidMessage + exchanges.countP isOversizedBatch +
          exchanges.countP (isForeignImport service.config.network)) ∧
    ∀ call : Call, (service.answer call).events.countP (fun event => event.level = .warn) ≤ 1 := by
  constructor
  · intro calls exchanges
    refine ⟨service.result_session calls, service.events_session calls, ?_⟩
    have counted := service.warningCount_session calls
    rw [result_session] at counted
    exact counted
  · intro call
    have counted := service.warningCount_answer call
    exact counted.le.trans (anomalyCount_singleton_le _ _)

example :
    warningCount (standard.session [.importKey "0OIl", .verifyMessage "" [] "",
      .importKey "91avARGdfge8E4tZfYLoxeJ5sGBdNJQH4kvjJoQFacbgwmaKkrx"]).events = 2 := by
  decide +kernel

end

end Service

end BitcoinKeys
