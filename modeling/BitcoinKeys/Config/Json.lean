import BitcoinKeys.Config
import BitcoinKeys.Json.Value

/-!
# Configuration as JSON

Settings are written as an object with three members. They are read from such an object with its
members in any order and any further members, or from an array of the three values.
-/

namespace BitcoinKeys.Config

def networkJson (network : Network) : String :=
  "\"" ++ network.name ++ "\""

def boolJson (value : Bool) : String :=
  if value then "true" else "false"

def toJson (config : Config) : String :=
  "\x7b\"network\":" ++ networkJson config.network ++ ",\"compressed_addresses\":" ++
    boolJson config.compressedAddresses ++ ",\"max_batch_size\":" ++
    Numeral.decimal config.maxBatchSize.toNat ++ "\x7d"

def networkOfName? (name : String) : Option Network :=
  if name = Network.mainnet.name then some .mainnet
  else if name = Network.testnet.name then some .testnet
  else none

/-- A network, as its name or as an object whose only member is the name with a null. -/
def networkOf? : Json → Option Network
  | .string (some name) => networkOfName? name
  | .object [(some name, .null)] => networkOfName? name
  | _ => none

def boolOf? : Json → Option Bool
  | .bool value => some value
  | _ => none

def sizeOf? : Json → Option UInt64
  | .number (some natural) => if natural < UInt64.size then some (UInt64.ofNat natural) else none
  | _ => none

/-- The value of the member with this name, which has to occur once. -/
def member? (name : String) (members : List (Option String × Json)) : Option Json :=
  match members.filter fun member => member.1 = some name with
  | [(_, value)] => some value
  | _ => none

def ofValues? (network compressedAddresses maxBatchSize : Json) : Option Config := do
  let network ← networkOf? network
  let compressedAddresses ← boolOf? compressedAddresses
  let maxBatchSize ← sizeOf? maxBatchSize
  return { network, compressedAddresses, maxBatchSize }

def ofValue? : Json → Option Config
  | .array [network, compressedAddresses, maxBatchSize] =>
      ofValues? network compressedAddresses maxBatchSize
  | .object members =>
      if members.all fun member => member.1.isSome then do
        let network ← member? "network" members
        let compressedAddresses ← member? "compressed_addresses" members
        let maxBatchSize ← member? "max_batch_size" members
        ofValues? network compressedAddresses maxBatchSize
      else none
  | _ => none

/-- The settings that a JSON text writes. They are not validated. -/
def ofJson? (text : String) : Option Config := do
  ofValue? (← Json.parse? text)

example : ofJson? standard.toJson = some standard := by decide +kernel

example : ofJson? "[\"testnet\", false, 7]" = some ⟨.testnet, false, 7⟩ := by decide +kernel

end BitcoinKeys.Config
