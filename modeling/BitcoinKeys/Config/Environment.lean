import BitcoinKeys.Config
import BitcoinKeys.Event
import BitcoinKeys.Text.Encoded

/-!
# Configuration from the environment

Three variables of the environment. One that is not set, or is not UTF-8, counts for nothing; one
that cannot be read as a value is reported and replaced by the standard setting.
-/

namespace BitcoinKeys

inductive Setting where
  | unset
  | undecodable
  | text (value : String)
  deriving DecidableEq, Repr

def Setting.ofBytes (bytes : Bytes) : Setting :=
  match Text.ofUtf8? bytes with
  | some value => .text value
  | none => .undecodable

def Setting.text? : Setting → Option String
  | .text value => some value
  | _ => none

/-- The variables that the configuration is read from. -/
structure Environment where
  network : Setting := .unset
  compressedAddresses : Setting := .unset
  maxBatchSize : Setting := .unset
  deriving DecidableEq, Repr

namespace Config

def networkKey : String := "BTC_NETWORK"

def maxBatchSizeKey : String := "BTC_MAX_BATCH_SIZE"

/-- Reads a setting, or reports it and takes the fallback, which is shown as `shown`. -/
def readSetting {α : Type} (key : String) (setting : Setting) (read : String → Except String α)
    (fallback : α) (shown : String) : Logged α :=
  match setting.text? with
  | none => .quiet fallback
  | some value =>
      match read value with
      | .ok result => .quiet result
      | .error error => ⟨fallback, [.ignoredSetting key value error shown]⟩

/-- Whether a setting asks for compressed addresses. All texts do but `0` and `false` in any letter
case. -/
def readCompressed (setting : Setting) : Bool :=
  match setting.text? with
  | none => standard.compressedAddresses
  | some value => Text.lowercase value != "false" && value != "0"

def readSize (value : String) : Except String UInt64 :=
  match Numeral.readDecimal UInt64.size value with
  | .ok size => .ok (UInt64.ofNat size)
  | .error error => .error error.message

/-- The configuration that an environment gives, before it is validated. -/
def readEnvironment (environment : Environment) : Logged Config := do
  let network ← readSetting networkKey environment.network
    (fun value => (Network.parse value).mapError Network.UnknownName.message)
    standard.network standard.network.name
  let compressedAddresses := readCompressed environment.compressedAddresses
  let maxBatchSize ← readSetting maxBatchSizeKey environment.maxBatchSize readSize
    standard.maxBatchSize (Numeral.decimal standard.maxBatchSize.toNat)
  return { network, compressedAddresses, maxBatchSize }

def ofEnvironment (environment : Environment) : Logged (Except KeyError Config) := do
  let config ← readEnvironment environment
  return config.validate

end Config

end BitcoinKeys
