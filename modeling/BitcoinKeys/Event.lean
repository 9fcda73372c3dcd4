import BitcoinKeys.KeyError
import BitcoinKeys.Network

/-!
# Events

Operations report what they do as events. `Logged` is the result of an operation together with its
events, in the order in which they happened.
-/

namespace BitcoinKeys

inductive Event where
  | rejectedDer (reason : Der.Error) (length : Nat)
  | unrecognizedSecTag (tag : UInt8)
  | rejectedPrivateKey (error : KeyError) (version : UInt8)
  | ignoredSetting (key value error fallback : String)
  | generatedPrivateKey (network : Network) (address : String)
  | foreignPrivateKey (keyNetwork configured : Network)
  | importedPrivateKey (address : String)
  | exportedPrivateKey (network : Network) (address : String)
  | signedMessage (length : Nat)
  | addressMismatch (expected : String)
  | messageVerificationFailed (error : KeyError) (expected : String)
  | rejectedBatch (size maximum : Nat)
  | completedBatch (size valid invalid : Nat)
  deriving DecidableEq, Repr

namespace Event

inductive Level where
  | debug
  | info
  | warn
  deriving DecidableEq, Repr

def Level.name : Level → String
  | .debug => "DEBUG"
  | .info => "INFO"
  | .warn => "WARN"

inductive Value where
  | text (text : String)
  | number (number : Nat)
  deriving DecidableEq, Repr

def level : Event → Level
  | .rejectedDer .. | .unrecognizedSecTag .. | .rejectedPrivateKey .. | .signedMessage ..
  | .completedBatch .. => .debug
  | .generatedPrivateKey .. | .importedPrivateKey .. | .exportedPrivateKey .. => .info
  | .ignoredSetting .. | .foreignPrivateKey .. | .addressMismatch ..
  | .messageVerificationFailed .. | .rejectedBatch .. => .warn

def message : Event → String
  | .rejectedDer .. => "Rejected DER signature"
  | .unrecognizedSecTag .. => "Unrecognized SEC prefix"
  | .rejectedPrivateKey .. => "Rejected Base58Check private key"
  | .ignoredSetting .. => "Ignoring unparseable environment value"
  | .generatedPrivateKey .. => "Generated private key"
  | .foreignPrivateKey .. => "Imported private key belongs to another network"
  | .importedPrivateKey .. => "Imported private key"
  | .exportedPrivateKey .. => "Exported private key"
  | .signedMessage .. => "Signed message"
  | .addressMismatch .. => "Signed message does not match address"
  | .messageVerificationFailed .. => "Signed message verification failed"
  | .rejectedBatch .. => "Rejected oversized batch"
  | .completedBatch .. => "Batch verification complete"

def fields : Event → List (String × Value)
  | .rejectedDer reason length =>
      [("reason", .text reason.message), ("len", .number length)]
  | .unrecognizedSecTag tag => [("prefix", .number tag.toNat)]
  | .rejectedPrivateKey error version =>
      [("err", .text error.message), ("version", .number version.toNat)]
  | .ignoredSetting key value error fallback =>
      [("key", .text key), ("value", .text value), ("err", .text error),
        ("fallback", .text fallback)]
  | .generatedPrivateKey network address | .exportedPrivateKey network address =>
      [("network", .text network.name), ("address", .text address)]
  | .foreignPrivateKey keyNetwork configured =>
      [("key_network", .text keyNetwork.name), ("configured", .text configured.name)]
  | .importedPrivateKey address => [("address", .text address)]
  | .signedMessage length => [("len", .number length)]
  | .addressMismatch expected => [("expected", .text expected)]
  | .messageVerificationFailed error expected =>
      [("err", .text error.message), ("expected", .text expected)]
  | .rejectedBatch size maximum => [("size", .number size), ("max", .number maximum)]
  | .completedBatch size valid invalid =>
      [("size", .number size), ("valid", .number valid), ("invalid", .number invalid)]

end Event

/-- A result and the events on the way to it. -/
structure Logged (α : Type) where
  result : α
  events : List Event
  deriving DecidableEq, Repr

namespace Logged

def quiet {α : Type} (result : α) : Logged α :=
  ⟨result, []⟩

def report (event : Event) : Logged Unit :=
  ⟨(), [event]⟩

def andThen {α β : Type} (first : Logged α) (next : α → Logged β) : Logged β :=
  ⟨(next first.result).result, first.events ++ (next first.result).events⟩

instance : Monad Logged where
  pure := quiet
  bind := andThen

@[simp]
theorem result_pure {α : Type} (result : α) : (pure result : Logged α).result = result := rfl

@[simp]
theorem events_pure {α : Type} (result : α) : (pure result : Logged α).events = [] := rfl

@[simp]
theorem result_bind {α β : Type} (first : Logged α) (next : α → Logged β) :
    (first >>= next).result = (next first.result).result := rfl

@[simp]
theorem events_bind {α β : Type} (first : Logged α) (next : α → Logged β) :
    (first >>= next).events = first.events ++ (next first.result).events := rfl

@[simp]
theorem result_report (event : Event) : (report event).result = () := rfl

@[simp]
theorem events_report (event : Event) : (report event).events = [event] := rfl

end Logged

end BitcoinKeys
