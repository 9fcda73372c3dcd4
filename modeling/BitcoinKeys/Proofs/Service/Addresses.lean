import BitcoinKeys.Proofs.PrivateKey.Wif
import BitcoinKeys.Proofs.Service.Verification

/-! # Addresses

An address is the text of a network and of a digest, and of nothing else: both are read back from
it, and no other network or digest has the same address. So comparing addresses is comparing
networks and digests. The versions of addresses are not those of private keys, which keeps addresses
from being imported. -/

namespace BitcoinKeys

namespace Network

theorem addressVersion_inj {left right : Network} :
    left.addressVersion = right.addressVersion ↔ left = right := by
  cases left <;> cases right <;> decide

theorem addressVersion_not_privateKeyVersion (network : Network) :
    ¬ ∃ other : Network, network.addressVersion = other.privateKeyVersion := by
  rw [exists_privateKeyVersion_iff]
  cases network <;> decide

end Network

namespace PublicKey

variable (key : PublicKey) (compressed : Bool) (network : Network)

theorem decodeBase58Check_address :
    decodeBase58Check (key.address compressed network) =
      .ok (network.addressVersion, key.hash160 compressed) :=
  decodeBase58Check_eq_ok_iff.mpr (Base58Check.trim_encode _ _)

theorem result_ofWif_address :
    (PrivateKey.ofWif (key.address compressed network)).result =
      .error (.outOfRange (.unknownVersion network.addressVersion)) := by
  rw [address, PrivateKey.result_ofWif_encode]
  exact PrivateKey.ofVersioned_of_unknown _ network.addressVersion_not_privateKeyVersion

theorem address_eq_iff {other : PublicKey} {otherCompressed : Bool} {otherNetwork : Network} :
    key.address compressed network = other.address otherCompressed otherNetwork ↔
      network = otherNetwork ∧ key.hash160 compressed = other.hash160 otherCompressed := by
  rw [address, address, Base58Check.encode_inj, Network.addressVersion_inj]

end PublicKey

/-- An address matches a key exactly if it is on the network of the service and has one of the two
digests of the key. -/
theorem Service.matchesAddress_address_iff {service : Service} {key other : PublicKey}
    {compressed : Bool} {network : Network} :
    service.matchesAddress key (other.address compressed network) = true ↔
      network = service.config.network ∧
        ∃ form, other.hash160 compressed = key.hash160 form := by
  rw [matchesAddress_iff, PublicKey.address_eq_iff, PublicKey.address_eq_iff, ← and_or_left,
    or_comm, Bool.exists_bool]

/-- Addresses are equal exactly if their networks and digests are, whatever the keys and the forms
are that the digests belong to, and this is what a service finds out by comparing them. The version
of the network and the digest are read back from an address, and no address is imported as a private
key. -/
theorem addresses_identify_network_and_digest :
    (∀ (key other : PublicKey) (compressed otherCompressed : Bool)
      (network otherNetwork : Network),
      key.address compressed network = other.address otherCompressed otherNetwork ↔
        network = otherNetwork ∧ key.hash160 compressed = other.hash160 otherCompressed) ∧
    (∀ (key : PublicKey) (compressed : Bool) (network : Network),
      decodeBase58Check (key.address compressed network) =
        .ok (network.addressVersion, key.hash160 compressed)) ∧
    (∀ (key : PublicKey) (compressed : Bool) (network : Network),
      (PrivateKey.ofWif (key.address compressed network)).result =
        .error (.outOfRange (.unknownVersion network.addressVersion))) ∧
    ∀ (service : Service) (key other : PublicKey) (compressed : Bool) (network : Network),
      service.matchesAddress key (other.address compressed network) = true ↔
        network = service.config.network ∧
          ∃ form, other.hash160 compressed = key.hash160 form := by
  refine ⟨?_, ?_, ?_, ?_⟩
  · intro key other compressed otherCompressed network otherNetwork
    exact key.address_eq_iff compressed network
  · intro key compressed network
    exact key.decodeBase58Check_address compressed network
  · intro key compressed network
    exact key.result_ofWif_address compressed network
  · intro service key other compressed network
    exact Service.matchesAddress_address_iff

end BitcoinKeys
