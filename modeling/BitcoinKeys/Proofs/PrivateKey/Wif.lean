import BitcoinKeys.Proofs.ByteInput
import BitcoinKeys.Proofs.PrivateKey.Construction

/-! # Exported keys

A text is read as a key of a network exactly if it is, up to the blanks around it, the text in which
the key is exported. Of what can be wrong with a version and a payload, the version is looked at
first, then the length of the payload, and then its value. -/

namespace BitcoinKeys

open Secp256k1

namespace Network

theorem exists_privateKeyVersion_iff {version : UInt8} :
    (∃ network : Network, version = network.privateKeyVersion) ↔
      version = 0x80 ∨ version = 0xEF := by
  constructor
  · intro known
    rcases known with ⟨network, equal⟩
    cases network with
    | mainnet => exact .inl equal
    | testnet => exact .inr equal
  · intro known
    rcases known with main | test
    · exact ⟨.mainnet, main⟩
    · exact ⟨.testnet, test⟩

theorem ofPrivateKeyVersion_of_unknown {version : UInt8}
    (unknown : ¬ ∃ network : Network, version = network.privateKeyVersion) :
    ofPrivateKeyVersion version = .error (.unknownVersion version) := by
  rw [ofPrivateKeyVersion, if_neg fun main => unknown ⟨.mainnet, main⟩,
    if_neg fun test => unknown ⟨.testnet, test⟩]

end Network

namespace PrivateKey

/-! ## Versions and payloads -/

theorem ofVersioned_of_unknown {version : UInt8} (payload : Bytes)
    (unknown : ¬ ∃ network : Network, version = network.privateKeyVersion) :
    ofVersioned version payload = .error (.outOfRange (.unknownVersion version)) := by
  rw [ofVersioned, Network.ofPrivateKeyVersion_of_unknown unknown]
  rfl

theorem ofVersioned_of_length_ne (network : Network) {payload : Bytes}
    (wrong : payload.length ≠ Word.byteLength) :
    ofVersioned network.privateKeyVersion payload =
      .error (.invalidEncoding (.payloadLength Word.byteLength payload.length)) := by
  rw [ofVersioned, Network.ofPrivateKeyVersion_privateKeyVersion]
  change (if _ then _ else _) = _
  rw [if_pos wrong]
  rfl

theorem ofVersioned_of_length_eq (network : Network) {payload : Bytes}
    (width : payload.length = Word.byteLength) :
    ofVersioned network.privateKeyVersion payload =
      (ofWord (Word.ofFixed payload width)).map fun key => (key, network) := by
  rw [ofVersioned, Network.ofPrivateKeyVersion_privateKeyVersion]
  change (if _ then _ else _) = _
  rw [if_neg (not_not_intro width), ofBytes_of_length_eq width]
  cases ofWord (Word.ofFixed payload width) with
  | error error => rfl
  | ok key => rfl

theorem ofVersioned_eq_ok_iff {version : UInt8} {payload : Bytes} {key : PrivateKey}
    {network : Network} :
    ofVersioned version payload = .ok (key, network) ↔
      version = network.privateKeyVersion ∧ payload = key.toBytes := by
  constructor
  · intro read
    by_cases known : ∃ network : Network, version = network.privateKeyVersion
    case neg =>
      rw [ofVersioned_of_unknown payload known] at read
      cases read
    case pos =>
      rcases known with ⟨other, equal⟩
      rw [equal] at read
      by_cases width : payload.length = Word.byteLength
      case neg =>
        rw [ofVersioned_of_length_ne other width] at read
        cases read
      case pos =>
        rw [ofVersioned_of_length_eq other width] at read
        rcases map_eq_ok_iff.mp read with ⟨_, made, same⟩
        cases same
        refine ⟨equal, ofBytes_eq_ok_iff.mp ?_⟩
        rw [ofBytes_of_length_eq width, made]
  · intro written
    have width : key.toBytes.length = Word.byteLength := Word.length_toBytes key.scalar
    have made := ofBytes_eq_ok_iff.mpr (Eq.refl key.toBytes)
    rw [ofBytes_of_length_eq width] at made
    rw [written.1, written.2, ofVersioned_of_length_eq network width, made]
    rfl

/-! ## Texts -/

theorem result_ofWif (text : String) :
    (ofWif text).result =
      (decodeBase58Check text).bind fun decoded => ofVersioned decoded.1 decoded.2 := by
  unfold ofWif
  cases decodeBase58Check text with
  | error error => rfl
  | ok decoded =>
      dsimp only [Except.bind]
      cases ofVersioned decoded.1 decoded.2 with
      | error error => rfl
      | ok outcome => rfl

theorem result_ofWif_encode (version : UInt8) (payload : Bytes) :
    (ofWif (Base58Check.encode version payload)).result = ofVersioned version payload := by
  rw [result_ofWif, decodeBase58Check_eq_ok_iff.mpr (Base58Check.trim_encode version payload)]
  rfl

/-- Only the exported form of a key is imported as the key, and blanks around it are ignored. -/
theorem result_ofWif_eq_ok_iff {text : String} {key : PrivateKey} {network : Network} :
    (ofWif text).result = .ok (key, network) ↔ Text.trim text = key.toWif network := by
  rw [result_ofWif]
  constructor
  · intro read
    rcases bind_eq_ok_iff.mp read with ⟨⟨version, payload⟩, decoded, made⟩
    have parts : version = network.privateKeyVersion ∧ payload = key.toBytes :=
      ofVersioned_eq_ok_iff.mp made
    rw [decodeBase58Check_eq_ok_iff.mp decoded, parts.1, parts.2, toWif]
  · intro written
    rw [decodeBase58Check_eq_ok_iff.mpr written]
    exact ofVersioned_eq_ok_iff.mpr ⟨rfl, rfl⟩

theorem result_ofWif_toWif (key : PrivateKey) (network : Network) :
    (ofWif (key.toWif network)).result = .ok (key, network) :=
  result_ofWif_eq_ok_iff.mpr (Base58Check.trim_encode _ _)

end PrivateKey

end BitcoinKeys
