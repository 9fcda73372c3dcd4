import BitcoinKeys.Batch
import BitcoinKeys.Config.Environment
import BitcoinKeys.PrivateKey

/-!
# The key service

Keys, addresses, signed messages and batches under one configuration. Every operation reports what
it does; none changes the service.
-/

namespace BitcoinKeys

/-- A configuration under which batches can be verified. -/
structure Service where
  config : Config
  maxBatchSize_ne_zero : config.maxBatchSize ≠ 0

/-- What is found out about a signed message: whether it was signed with the key of the expected
address, the address of the key that signed it, and why no such key was found. -/
structure MessageVerification where
  valid : Bool
  recoveredAddress : Option String
  error : Option KeyError
  deriving DecidableEq, Repr

namespace Service

def ofConfig (config : Config) : Except KeyError Service :=
  if zero : config.maxBatchSize = 0 then .error .zeroBatchSize else .ok ⟨config, zero⟩

def ofEnvironment (environment : Environment) : Logged (Except KeyError Service) := do
  let config ← Config.ofEnvironment environment
  return config.bind ofConfig

def standard : Service :=
  ⟨Config.standard, by decide⟩

def address (service : Service) (key : PublicKey) : String :=
  key.address service.config.compressedAddresses service.config.network

def matchesAddress (service : Service) (key : PublicKey) (text : String) : Bool :=
  key.address true service.config.network == text ||
    key.address false service.config.network == text

def generateKey (service : Service) (stream : Bytes) : Logged (Except KeyError PrivateKey) :=
  match PrivateKey.draw stream with
  | .error error => .quiet (.error error)
  | .ok (key, _) =>
      ⟨.ok key, [.generatedPrivateKey service.config.network (service.address key.publicKey)]⟩

/-- Reports an imported key, and first whether it belongs to another network. -/
def reportImport (service : Service) (key : PrivateKey) (network : Network) : Logged Unit := do
  if network ≠ service.config.network then
    Logged.report (.foreignPrivateKey network service.config.network)
  Logged.report (.importedPrivateKey (service.address key.publicKey))

def importKey (service : Service) (text : String) : Logged (Except KeyError PrivateKey) := do
  match ← PrivateKey.ofWif text with
  | .error error => return .error error
  | .ok (key, network) =>
      service.reportImport key network
      return .ok key

def exportKey (service : Service) (key : PrivateKey) : Logged String :=
  ⟨key.toWif service.config.network,
    [.exportedPrivateKey service.config.network (service.address key.publicKey)]⟩

def signMessage (key : PrivateKey) (message : Bytes) : Logged (Except KeyError String) :=
  match key.signMessage message with
  | .error error => .quiet (.error error)
  | .ok envelope => ⟨.ok envelope, [.signedMessage message.length]⟩

/-- The key that a signed message gives, and whether its envelope verifies for the key. -/
def recoverSigner (message : Bytes) (envelope : String) : Except KeyError (PublicKey × Bool) := do
  let key ← PublicKey.ofSignedMessage message envelope
  let verified ← key.verifySignedMessage message envelope
  return (key, verified)

/-- Finds out whether a message was signed with the key of an address. -/
def verifyMessage (service : Service) (address : String) (message : Bytes) (envelope : String) :
    Logged MessageVerification :=
  match recoverSigner message envelope with
  | .error error =>
      ⟨{ valid := false, recoveredAddress := none, error := some error },
        [.messageVerificationFailed error address]⟩
  | .ok (key, verified) =>
      let valid := verified && service.matchesAddress key address
      ⟨{ valid, recoveredAddress := some (service.address key), error := none },
        if valid then [] else [.addressMismatch address]⟩

/-- Verifies a list of requests, unless it is longer than configured. -/
def verifyBatch (service : Service) (requests : List VerificationRequest) :
    Logged (Except KeyError BatchOutcome) :=
  let size := requests.length
  let maximum := service.config.maxBatchSize.toNat
  if maximum < size then
    ⟨.error (.batchTooLarge size maximum), [.rejectedBatch size maximum]⟩
  else
    let batch := BatchOutcome.ofRequests requests
    ⟨.ok batch, [.completedBatch size batch.validCount batch.invalidCount]⟩

end Service

end BitcoinKeys
