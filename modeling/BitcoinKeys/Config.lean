import BitcoinKeys.KeyError
import BitcoinKeys.Network

/-!
# Configuration

The settings of a service. Any settings can be written down; they are valid if a batch may hold at
least one request.
-/

namespace BitcoinKeys

/-- The network of addresses and exported keys, the form of public keys that addresses are made of,
and the largest number of requests in a batch. -/
structure Config where
  network : Network := .mainnet
  compressedAddresses : Bool := true
  maxBatchSize : UInt64 := 10000
  deriving DecidableEq, Repr

namespace Config

/-- The settings that hold where nothing else is said. -/
def standard : Config := {}

/-- Refuses settings under which no batch could be verified. -/
def validate (config : Config) : Except KeyError Config :=
  if config.maxBatchSize = 0 then .error .zeroBatchSize else .ok config

def build (network : Option Network) (compressedAddresses : Option Bool)
    (maxBatchSize : Option UInt64) : Except KeyError Config :=
  validate {
    network := network.getD standard.network
    compressedAddresses := compressedAddresses.getD standard.compressedAddresses
    maxBatchSize := maxBatchSize.getD standard.maxBatchSize }

def withNetwork (config : Config) (network : Network) : Config :=
  { config with network }

end Config

end BitcoinKeys
