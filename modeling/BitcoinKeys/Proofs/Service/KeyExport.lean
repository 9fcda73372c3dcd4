import BitcoinKeys.Proofs.PrivateKey.Wif
import BitcoinKeys.Service

/-! # Export and import of keys

What a service exports it imports again, and nothing else is imported as the same key. -/

namespace BitcoinKeys.Service

open Secp256k1

theorem result_importKey (service : Service) (text : String) :
    (service.importKey text).result = (PrivateKey.ofWif text).result.map Prod.fst := by
  rw [importKey, Logged.result_bind]
  cases (PrivateKey.ofWif text).result with
  | error error => rfl
  | ok imported => rfl

theorem importKey_exportKey (service : Service) (key : PrivateKey) :
    (service.importKey (service.exportKey key).result).result = .ok key := by
  rw [result_importKey, exportKey, PrivateKey.result_ofWif_toWif]
  rfl

/-- A text is imported as a key of a network exactly if it is the exported form of the key, up to
blanks around it. A text that is made for any version and payload is refused for its version, then
for the length of its payload, then for the value of its payload, and imported otherwise. -/
theorem importKey_canonical :
    (∀ (text : String) (key : PrivateKey) (network : Network),
      (PrivateKey.ofWif text).result = .ok (key, network) ↔ Text.trim text = key.toWif network) ∧
    (∀ (key : PrivateKey) (network : Network),
      (PrivateKey.ofWif (key.toWif network)).result = .ok (key, network)) ∧
    (∀ (left right : String) (imported : PrivateKey × Network),
      (PrivateKey.ofWif left).result = .ok imported →
        (PrivateKey.ofWif right).result = .ok imported → Text.trim left = Text.trim right) ∧
    (∀ (service : Service) (key : PrivateKey),
      (service.importKey (service.exportKey key).result).result = .ok key) ∧
    ∀ (version : UInt8) (payload : Bytes),
      let decoded := (PrivateKey.ofWif (Base58Check.encode version payload)).result
      if version ≠ 0x80 ∧ version ≠ 0xEF then
        decoded = .error (.outOfRange (.unknownVersion version))
      else if payload.length ≠ 32 then
        decoded = .error (.invalidEncoding (.payloadLength 32 payload.length))
      else if payload.toNat = 0 ∨ groupOrder ≤ payload.toNat then
        decoded = .error (.outOfRange .privateScalar)
      else
        ∃ key network, decoded = .ok (key, network) ∧ key.toBytes = payload ∧
          network.privateKeyVersion = version := by
  refine ⟨?_, PrivateKey.result_ofWif_toWif, ?_, importKey_exportKey, ?_⟩
  · intro text key network
    exact PrivateKey.result_ofWif_eq_ok_iff
  · intro left right imported leftRead rightRead
    rw [PrivateKey.result_ofWif_eq_ok_iff.mp leftRead, PrivateKey.result_ofWif_eq_ok_iff.mp rightRead]
  · intro version payload
    rw [PrivateKey.result_ofWif_encode]
    split
    case isTrue unknown =>
      apply PrivateKey.ofVersioned_of_unknown
      rw [Network.exists_privateKeyVersion_iff, not_or]
      exact unknown
    case isFalse known =>
      rw [← not_or, not_not] at known
      rcases Network.exists_privateKeyVersion_iff.mpr known with ⟨network, equal⟩
      rw [equal]
      split
      case isTrue wrong => exact PrivateKey.ofVersioned_of_length_ne network wrong
      case isFalse width =>
        have width : payload.length = Word.byteLength := not_not.mp width
        rw [PrivateKey.ofVersioned_of_length_eq network width]
        have value : (Word.ofFixed payload width).toNat = payload.toNat :=
          Word.toNat_ofBytes payload _
        split
        case isTrue outside =>
          rw [PrivateKey.ofWord_of_not_isScalar]
          · rfl
          · rw [IsScalar, value]
            omega
        case isFalse inside =>
          have inRange : IsScalar (Word.ofFixed payload width) := by
            rw [IsScalar, value]
            omega
          rcases PrivateKey.exists_key inRange with ⟨key, scalar⟩
          refine ⟨key, network, ?_, ?_, rfl⟩
          · rw [← scalar, PrivateKey.ofWord_scalar]
            rfl
          · rw [PrivateKey.toBytes, scalar, Word.toBytes_ofFixed]

/-- The smallest secret is imported from its exported form, also with blanks around it. -/
theorem importKey_canonical_run :
    ∃ key : PrivateKey, PrivateKey.ofWord 1 = .ok key ∧
      (PrivateKey.ofWif " 5HpHagT65TZzG1PH3CSu63k8DbpvD8s5ip4nEB3kEsreAnchuDf\n").result =
        .ok (key, .mainnet) ∧
      Text.trim " 5HpHagT65TZzG1PH3CSu63k8DbpvD8s5ip4nEB3kEsreAnchuDf\n" =
        Text.trim (key.toWif .mainnet) := by
  rcases PrivateKey.exists_key (show IsScalar 1 by decide) with ⟨key, scalar⟩
  rcases importKey_canonical with ⟨canonical, roundTrip, unique, _⟩
  have trimmed : Text.trim " 5HpHagT65TZzG1PH3CSu63k8DbpvD8s5ip4nEB3kEsreAnchuDf\n" =
      key.toWif .mainnet := by
    rw [PrivateKey.toWif, PrivateKey.toBytes, scalar]
    decide +kernel
  have imported := (canonical _ key .mainnet).mpr trimmed
  exact ⟨key, PrivateKey.ofWord_eq_ok_iff.mpr scalar, imported,
    unique _ _ _ imported (roundTrip key .mainnet)⟩

end BitcoinKeys.Service
