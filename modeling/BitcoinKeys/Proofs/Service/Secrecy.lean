import BitcoinKeys.Proofs.PrivateKey.SignedMessages
import BitcoinKeys.Proofs.Service.KeyExport

/-! # What the log tells about secrets

The events of an operation on a key depend on the key through its address at most. A refused import
tells the version and, through its failure, the length of the payload, but nothing else of the
payload. So two runs that agree on this leave the same events, whatever their secrets are. -/

namespace BitcoinKeys

namespace PrivateKey

/-- The failure for a version and a payload of some length that make no key. -/
def rejection (version : UInt8) (length : Nat) : KeyError :=
  if version ≠ 0x80 ∧ version ≠ 0xEF then .outOfRange (.unknownVersion version)
  else if length ≠ 32 then .invalidEncoding (.payloadLength 32 length)
  else .outOfRange .privateScalar

/-- Why a payload is rejected does not depend on its content. -/
theorem eq_rejection_of_ofVersioned {version : UInt8} {payload : Bytes} {error : KeyError}
    (rejected : ofVersioned version payload = .error error) :
    error = rejection version payload.length := by
  unfold rejection
  split
  case isTrue unknown =>
    rw [ofVersioned_of_unknown] at rejected
    · cases rejected
      rfl
    · rw [Network.exists_privateKeyVersion_iff, not_or]
      exact unknown
  case isFalse known =>
    rw [← not_or, not_not] at known
    rcases Network.exists_privateKeyVersion_iff.mpr known with ⟨network, rfl⟩
    split
    case isTrue wrong =>
      rw [ofVersioned_of_length_ne network wrong] at rejected
      cases rejected
      rfl
    case isFalse width =>
      rw [ofVersioned_of_length_eq network (not_not.mp width), map_eq_error_iff,
        ofWord_eq_error_iff] at rejected
      exact rejected.2

section

variable {text : String}

theorem events_ofWif_of_undecoded {error : KeyError}
    (undecoded : decodeBase58Check text = .error error) : (ofWif text).events = [] := by
  rw [ofWif, undecoded]
  rfl

theorem events_ofWif_of_rejected {version : UInt8} {payload : Bytes} {error : KeyError}
    (decoded : decodeBase58Check text = .ok (version, payload))
    (rejected : (ofWif text).result = .error error) :
    (ofWif text).events = [.rejectedPrivateKey (rejection version payload.length) version] := by
  have refused : ofVersioned version payload = .error error := by
    rw [result_ofWif, decoded] at rejected
    exact rejected
  rw [← eq_rejection_of_ofVersioned refused, ofWif, decoded]
  simp only [refused]

theorem events_ofWif_of_read {read : PrivateKey × Network}
    (result : (ofWif text).result = .ok read) : (ofWif text).events = [] := by
  unfold ofWif at result ⊢
  split
  case h_1 => rfl
  case h_2 version payload decoded =>
    simp only [decoded] at result
    split
    case h_1 => rfl
    case h_2 error refused =>
      simp only [refused] at result
      cases result

end

end PrivateKey

namespace Service

variable {service : Service}

/-! ## Importing -/

/-- Two texts whose imports need not leave different events: neither is Base58Check, both are and
are rejected with the same version and length, or both are keys of one network with one address. -/
inductive ImportAlike (service : Service) (left right : String) : Prop
  | undecoded {leftError rightError} :
      decodeBase58Check left = .error leftError →
      decodeBase58Check right = .error rightError →
      ImportAlike service left right
  | rejected {version leftPayload rightPayload leftError rightError} :
      decodeBase58Check left = .ok (version, leftPayload) →
      decodeBase58Check right = .ok (version, rightPayload) →
      leftPayload.length = rightPayload.length →
      (service.importKey left).result = .error leftError →
      (service.importKey right).result = .error rightError →
      ImportAlike service left right
  | imported {network leftKey rightKey} :
      (PrivateKey.ofWif left).result = .ok (leftKey, network) →
      (PrivateKey.ofWif right).result = .ok (rightKey, network) →
      service.address leftKey.publicKey = service.address rightKey.publicKey →
      ImportAlike service left right

theorem events_importKey_of_error {text : String} {error : KeyError}
    (failed : (PrivateKey.ofWif text).result = .error error) :
    (service.importKey text).events = (PrivateKey.ofWif text).events := by
  rw [importKey, Logged.events_bind, failed]
  exact List.append_nil _

theorem events_importKey_of_undecoded {text : String} {error : KeyError}
    (undecoded : decodeBase58Check text = .error error) :
    (service.importKey text).events = [] := by
  have failed : (PrivateKey.ofWif text).result = .error error := by
    rw [PrivateKey.result_ofWif, undecoded]
    rfl
  rw [events_importKey_of_error failed, PrivateKey.events_ofWif_of_undecoded undecoded]

theorem events_importKey_of_rejected {text : String} {version : UInt8} {payload : Bytes}
    {error : KeyError} (decoded : decodeBase58Check text = .ok (version, payload))
    (rejected : (service.importKey text).result = .error error) :
    (service.importKey text).events =
      [.rejectedPrivateKey (PrivateKey.rejection version payload.length) version] := by
  rw [result_importKey, map_eq_error_iff] at rejected
  rw [events_importKey_of_error rejected, PrivateKey.events_ofWif_of_rejected decoded rejected]

theorem events_importKey_of_read {text : String} {key : PrivateKey} {network : Network}
    (read : (PrivateKey.ofWif text).result = .ok (key, network)) :
    (service.importKey text).events = (service.reportImport key network).events := by
  rw [importKey, Logged.events_bind, read, PrivateKey.events_ofWif_of_read read]
  simp only [Logged.events_bind, Logged.events_pure, List.append_nil, List.nil_append]

theorem ImportAlike.events_eq {left right : String} (alike : service.ImportAlike left right) :
    (service.importKey left).events = (service.importKey right).events := by
  cases alike with
  | undecoded leftUndecoded rightUndecoded =>
      rw [events_importKey_of_undecoded leftUndecoded,
        events_importKey_of_undecoded rightUndecoded]
  | rejected leftDecoded rightDecoded sameLength leftRejected rightRejected =>
      rw [events_importKey_of_rejected leftDecoded leftRejected,
        events_importKey_of_rejected rightDecoded rightRejected, sameLength]
  | imported leftRead rightRead sameAddress =>
      rw [events_importKey_of_read leftRead, events_importKey_of_read rightRead, reportImport,
        reportImport, sameAddress]

/-! ## Exporting and signing -/

theorem events_signMessage {key : PrivateKey} {message : Bytes} {envelope : String}
    (signed : (signMessage key message).result = .ok envelope) :
    (signMessage key message).events = [.signedMessage message.length] := by
  unfold signMessage at signed ⊢
  split
  case h_1 error failed =>
    rw [failed] at signed
    cases signed
  case h_2 => rfl

/-- The log tells no more of a secret than the address of its key. Importing a text that is not
Base58Check leaves no events, and importing either of two texts leaves the same if both are rejected
with one version and payload length, or both are keys of one network with one address. Exporting
either of two keys with one address leaves the same events, and so does signing, with any two keys,
either of two messages of one length. -/
theorem log_determined_by_address :
    (∀ (service : Service) (text : String) (error : KeyError),
      decodeBase58Check text = .error error → (service.importKey text).events = []) ∧
    (∀ (service : Service) (left right : String), service.ImportAlike left right →
      (service.importKey left).events = (service.importKey right).events) ∧
    (∀ (service : Service) (left right : PrivateKey),
      service.address left.publicKey = service.address right.publicKey →
        (service.exportKey left).events = (service.exportKey right).events) ∧
    ∀ (left right : PrivateKey) (leftMessage rightMessage : Bytes)
      (leftEnvelope rightEnvelope : String),
      (signMessage left leftMessage).result = .ok leftEnvelope →
        (signMessage right rightMessage).result = .ok rightEnvelope →
          leftMessage.length = rightMessage.length →
            (signMessage left leftMessage).events = (signMessage right rightMessage).events := by
  refine ⟨?_, ?_, ?_, ?_⟩
  · intro service text error undecoded
    exact events_importKey_of_undecoded undecoded
  · intro service left right alike
    exact alike.events_eq
  · intro service left right sameAddress
    rw [exportKey, exportKey, sameAddress]
  · intro left right leftMessage rightMessage leftEnvelope rightEnvelope leftSigned rightSigned
      sameLength
    rw [events_signMessage leftSigned, events_signMessage rightSigned, sameLength]

/-! ## A run

Payloads of zeros and of ones are both out of range, and the two smallest secrets sign the empty
message. -/

section

open Ecdsa Secp256k1

theorem result_importKey_of_outside {payload : Bytes} (width : payload.length = Word.byteLength)
    (outside : ¬ IsScalar (Word.ofFixed payload width)) :
    (service.importKey (Base58Check.encode 0x80 payload)).result =
      .error (.outOfRange .privateScalar) := by
  have refused := PrivateKey.ofVersioned_of_length_eq .mainnet width
  rw [PrivateKey.ofWord_of_not_isScalar outside] at refused
  rw [result_importKey, PrivateKey.result_ofWif_encode]
  exact congrArg (Except.map Prod.fst) refused

def secondNonce : Scalar := 0x0C2CAA1228459EC92AE44F33D9500A8ECA5A6885F715910B98E3D69A163EBB4B

theorem secondNonce_eq :
    deterministicNonce (Scalar.toWord 2) SigningRun.prehashWord = secondNonce := by
  apply Generator.Finds.firstScalar_eq
  apply Generator.Finds.accept
  decide +kernel

theorem multiple_secondNonce : Point.base.multiple secondNonce.value = .affine
    0xA84C83262745FB8439E4739D31927AC7CCD24626D2C1CEAAC4D4888BFA246438
    0x90319A344F6CB551A818D93CF8E4BE43670610881105A33449D18F6541D4D43A :=
  Jacobian.multiple_eq_affine (by decide) (by decide +kernel)

theorem exists_sign_two : ∃ signature, Ecdsa.sign SigningRun.digest 2 true = .ok signature := by
  have signed : ∃ signature,
      signWithNonce? 2 (deterministicNonce (Scalar.toWord 2) SigningRun.prehashWord)
        (reduced SigningRun.prehashWord) = some signature := by
    rw [← Option.isSome_iff_exists, secondNonce_eq, signWithNonce?, multiple_secondNonce]
    decide +kernel
  rcases signed with ⟨signature, signed⟩
  refine ⟨signature, sign_eq_ok_iff.mpr ?_⟩
  exact ⟨2, SigningRun.prehashWord, rfl, SigningRun.prehashWord_eq, signed⟩

theorem exists_signMessage_nil {key : PrivateKey}
    (signed : ∃ signature, key.sign SigningRun.digest true = .ok signature) :
    ∃ envelope, (signMessage key []).result = .ok envelope := by
  rcases signed with ⟨signature, signed⟩
  rcases PrivateKey.encodeEnvelope_signed signed with ⟨envelope, written⟩
  have made : key.signMessage [] = .ok envelope :=
    PrivateKey.signMessage_eq_ok_iff.mpr ⟨_, PrivateKey.digest_nil, signature, signed, written⟩
  refine ⟨envelope, ?_⟩
  rw [signMessage, made]

/-- Two rejected payloads leave the same events, as do a key of the other network with blanks around
it and without, a key before it is exported and after it is imported again, and two keys that sign
the empty message. -/
theorem log_determined_by_address_run :
    ∃ first second imported : PrivateKey, first.scalar = 1 ∧ second.scalar = 2 ∧
      (standard.importKey "0OIl").events = [] ∧
      (standard.importKey (Base58Check.encode 0x80 (List.replicate 32 0x00))).events =
        (standard.importKey (Base58Check.encode 0x80 (List.replicate 32 0xFF))).events ∧
      (standard.importKey " 91avARGdfge8E4tZfYLoxeJ5sGBdNJQH4kvjJoQFacbgwmaKkrx\n").events =
        (standard.importKey (first.toWif .testnet)).events ∧
      (standard.importKey (standard.exportKey first).result).result = .ok imported ∧
      (standard.exportKey imported).events = (standard.exportKey first).events ∧
      (signMessage first []).events = (signMessage second []).events := by
  rcases PrivateKey.exists_key (show IsScalar 1 by decide) with ⟨first, firstScalar⟩
  rcases PrivateKey.exists_key (show IsScalar 2 by decide) with ⟨second, secondScalar⟩
  rcases log_determined_by_address with ⟨silent, imports, exports, signs⟩
  refine ⟨first, second, first, firstScalar, secondScalar, ?_, ?_, ?_, ?_, ?_, ?_⟩
  · apply silent standard _ (.invalidEncoding (.base58Check (.base58 (.invalidCharacter 0x30 0))))
    decide +kernel
  · apply imports
    apply ImportAlike.rejected
    · exact decodeBase58Check_eq_ok_iff.mpr (Base58Check.trim_encode _ _)
    · exact decodeBase58Check_eq_ok_iff.mpr (Base58Check.trim_encode _ _)
    · rfl
    · exact result_importKey_of_outside rfl (by decide +kernel)
    · exact result_importKey_of_outside rfl (by decide +kernel)
  · apply imports
    have trimmed : Text.trim " 91avARGdfge8E4tZfYLoxeJ5sGBdNJQH4kvjJoQFacbgwmaKkrx\n" =
        first.toWif .testnet := by
      rw [PrivateKey.toWif, PrivateKey.toBytes, firstScalar]
      decide +kernel
    exact .imported (PrivateKey.result_ofWif_eq_ok_iff.mpr trimmed)
      (first.result_ofWif_toWif .testnet) rfl
  · exact importKey_exportKey standard first
  · exact exports standard first first rfl
  · have firstSigns : ∃ signature, first.sign SigningRun.digest true = .ok signature := by
      rw [PrivateKey.sign, firstScalar]
      exact ⟨_, SigningRun.sign_eq⟩
    have secondSigns : ∃ signature, second.sign SigningRun.digest true = .ok signature := by
      rw [PrivateKey.sign, secondScalar]
      exact exists_sign_two
    rcases exists_signMessage_nil firstSigns with ⟨firstEnvelope, firstSigned⟩
    rcases exists_signMessage_nil secondSigns with ⟨secondEnvelope, secondSigned⟩
    exact signs first second [] [] firstEnvelope secondEnvelope firstSigned secondSigned rfl

end

end Service

end BitcoinKeys
