import BitcoinKeys.KeyError
import BitcoinKeys.Text.Lowercase

/-!
# Networks

The two networks, the version bytes that mark their private keys and addresses, and their names.
-/

namespace BitcoinKeys

inductive Network where
  | mainnet
  | testnet
  deriving DecidableEq, Repr

namespace Network

def privateKeyVersion : Network → UInt8
  | .mainnet => 0x80
  | .testnet => 0xEF

def addressVersion : Network → UInt8
  | .mainnet => 0x00
  | .testnet => 0x6F

def ofPrivateKeyVersion (version : UInt8) : Except RangeError Network :=
  if version = mainnet.privateKeyVersion then .ok .mainnet
  else if version = testnet.privateKeyVersion then .ok .testnet
  else .error (.unknownVersion version)

def isTestnet : Network → Bool
  | .mainnet => false
  | .testnet => true

def name : Network → String
  | .mainnet => "mainnet"
  | .testnet => "testnet"

/-- A text that names no network, in lowercase and without the blanks around it. -/
structure UnknownName where
  name : String
  deriving DecidableEq, Repr

def UnknownName.message (unknown : UnknownName) : String :=
  "unknown network '" ++ unknown.name ++ "'"

/-- The network that a text names, in any letter case and with blanks around it. -/
def parse (text : String) : Except UnknownName Network :=
  let name := Text.lowercase (Text.trim text)
  if name ∈ ["mainnet", "main", "bitcoin"] then .ok .mainnet
  else if name ∈ ["testnet", "test", "testnet3"] then .ok .testnet
  else .error ⟨name⟩

example : parse " BitCoin\n" = .ok .mainnet := by cbv

@[simp]
theorem ofPrivateKeyVersion_privateKeyVersion (network : Network) :
    ofPrivateKeyVersion network.privateKeyVersion = .ok network := by
  cases network <;> rfl

end Network

end BitcoinKeys
