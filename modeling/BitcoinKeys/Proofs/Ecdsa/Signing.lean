import BitcoinKeys.Proofs.Ecdsa.SigningPoint

/-! # Signing

A signature made with a nonce determines the multiple of the base point by the nonce. It stores the
lower `s` and the id of the mirrored point, so that verification accepts it and recovery gives the
key of the signer.
-/

namespace BitcoinKeys.Ecdsa

open Secp256k1

def publicElement (secret : Scalar) : CurveGroup :=
  secret.toZMod • baseElement

theorem ofGroup_publicElement (secret : Scalar) :
    Point.ofGroup (publicElement secret) = Point.base.multiple secret.value := by
  rw [publicElement, ofGroup_smul, ofGroup_baseElement]

theorem exists_publicPoint {secret : Scalar} (nonzero : secret ≠ 0) :
    ∃ coordinates, publicPoint secret.toWord = .ok coordinates ∧
      Coordinates.ofPoint? (Point.ofGroup (publicElement secret)) = some coordinates := by
  rw [publicPoint, if_pos (isScalar_toWord.mpr nonzero), toNat_toWord, ← ofGroup_publicElement]
  cases affine : Point.ofGroup (publicElement secret) with
  | identity =>
      have zero : publicElement secret = 0 := Point.ofGroup_injective affine
      exact absurd (Residue.toZMod_eq_zero.mp (smul_base_eq_zero.mp zero)) nonzero
  | affine x y => exact ⟨_, rfl, rfl⟩

theorem publicPoint_eq_ok_iff {secret : Word} {coordinates : Coordinates} :
    publicPoint secret = .ok coordinates ↔
      ∃ scalar, scalar? secret = some scalar ∧
        Coordinates.ofPoint? (Point.ofGroup (publicElement scalar)) = some coordinates := by
  constructor
  · intro derived
    have inRange : IsScalar secret := by
      by_contra outside
      rw [publicPoint, if_neg outside] at derived
      cases derived
    have read := scalar?_of_isScalar inRange
    rcases scalar?_eq_some_iff.mp read with ⟨nonzero, word⟩
    rcases exists_publicPoint nonzero with ⟨found, equal, affine⟩
    rw [← word, equal] at derived
    cases derived
    exact ⟨_, read, affine⟩
  · intro derived
    rcases derived with ⟨scalar, read, affine⟩
    rcases scalar?_eq_some_iff.mp read with ⟨nonzero, rfl⟩
    rcases exists_publicPoint nonzero with ⟨found, equal, found_eq⟩
    rw [affine] at found_eq
    cases found_eq
    exact equal

/-! ## The point of a signature -/

/-- A signature that is the value of the signing equation determines the point of its nonce. -/
theorem SignedScalars.point_of_equation (scalars : SignedScalars) {secret nonce : Scalar}
    (equation : scalars.s = nonce.inverse * (scalars.prehash + scalars.r * secret)) :
    scalars.point (publicElement secret) = nonce.toZMod • baseElement := by
  have sNonzero := Residue.toZMod_eq_zero.not.mpr scalars.s_ne_zero
  have image := congrArg Residue.toZMod equation
  simp only [Residue.toZMod_mul, Residue.toZMod_add, Residue.toZMod_inverse] at image
  have nonceNonzero : nonce.toZMod ≠ 0 := by
    intro zero
    rw [zero, inv_zero, zero_mul] at image
    exact sNonzero image
  have product : scalars.s.toZMod * nonce.toZMod =
      scalars.prehash.toZMod + scalars.r.toZMod * secret.toZMod := by
    rw [image]
    field_simp
  rw [point, publicElement, smul_smul, ← add_smul, ← product, smul_smul,
    inv_mul_cancel_left₀ sNonzero]

theorem RecoveryId.mirrored_if (x y : Coordinate) (high : Bool) :
    (if high then (ofCoordinates x y).mirrored else ofCoordinates x y) =
      { yIsOdd := y.isOdd != high, xIsReduced := groupOrder ≤ x.value } := by
  cases high <;> simp [ofCoordinates, mirrored]

/-- A signature made with a nonce consists of the lower `s` of scalars whose point is the multiple
of the base point, and of the id that designates the point. -/
theorem signWithNonce?_eq_some {secret nonce prehash : Scalar} {signature : Signature}
    (signed : signWithNonce? secret nonce prehash = some signature) :
    ∃ (scalars : SignedScalars) (id : RecoveryId), scalars.prehash = prehash ∧
      id.Designates scalars.r (Point.ofGroup (scalars.point (publicElement secret))) ∧
      signature = {
        r := scalars.r.toWord
        s := (lowered scalars.s).toWord
        recoveryId := some (if isHigh scalars.s then id.mirrored else id).toByte } := by
  unfold signWithNonce? at signed
  have multiple : Point.ofGroup (nonce.toZMod • baseElement) = Point.base.multiple nonce.value := by
    rw [ofGroup_smul, ofGroup_baseElement]
  rw [← multiple] at signed
  split at signed
  case h_1 => cases signed
  case h_2 x y affine =>
    rcases Option.ite_none_left_eq_some.mp signed with ⟨nonzero, equal⟩
    rcases not_or.mp nonzero with ⟨rNonzero, sNonzero⟩
    let scalars : SignedScalars := ⟨prehash, _, _, rNonzero, sNonzero⟩
    refine ⟨scalars, .ofCoordinates x y, rfl, ?_, ?_⟩
    · rw [scalars.point_of_equation rfl]
      exact ⟨x, y, affine, rfl, rfl⟩
    · rw [← Option.some.inj equal, RecoveryId.mirrored_if]

/-! ## The nonce -/

theorem Generator.firstScalar_eq (generator : Generator) :
    generator.firstScalar =
      match generator.scalar? with
      | some scalar => scalar
      | none => generator.next.firstScalar := by
  rw [firstScalar, repeatM_eq_of_monadTail, repeatM.body, attempt]
  cases generator.scalar? with
  | some scalar => rfl
  | none => rfl

/-- A search for a scalar that ends: outputs that are not scalars, and then one that is. -/
inductive Generator.Finds : Generator → Scalar → Prop
  | accept {generator : Generator} {scalar : Scalar} :
      generator.scalar? = some scalar → Finds generator scalar
  | reject {generator : Generator} {scalar : Scalar} :
      generator.scalar? = none → Finds generator.next scalar → Finds generator scalar

/-- A search that ends gives the scalar that it ends at. -/
theorem Generator.Finds.firstScalar_eq {generator : Generator} {scalar : Scalar}
    (finds : generator.Finds scalar) : generator.firstScalar = scalar := by
  induction finds with
  | accept found => rw [Generator.firstScalar_eq, found]
  | reject refused _ induction => rw [Generator.firstScalar_eq, refused, induction]

/-! ## Signatures -/

/-- What signing guarantees of a signature, for the key with these coordinates. -/
structure SignsFor (message : Bytes) (hashFirst : Bool) (signature : Signature)
    (coordinates : Coordinates) : Prop where
  r_isScalar : IsScalar signature.r
  s_isScalar : IsScalar signature.s
  s_le : signature.s.toNat ≤ (groupOrder - 1) / 2
  verifies : verify message signature.r signature.s coordinates hashFirst = true
  recovers : ∃ id : RecoveryId, signature.recoveryId = some id.toByte ∧
    recover? message signature.r signature.s hashFirst id = some coordinates

/-- To hash a message first is to take its digest for the message. -/
theorem SignsFor.hashed {message : Bytes} {signature : Signature} {coordinates : Coordinates}
    (signs : SignsFor message true signature coordinates) :
    SignsFor (Hash.sha256 message) false signature coordinates where
  r_isScalar := signs.r_isScalar
  s_isScalar := signs.s_isScalar
  s_le := signs.s_le
  verifies := signs.verifies
  recovers := signs.recovers

/-- Signing draws a nonce for the word of the prehash, and signs with it. -/
theorem sign_eq_ok_iff {message : Bytes} {secret : Word} {hashFirst : Bool}
    {signature : Signature} :
    sign message secret hashFirst = .ok signature ↔
      ∃ scalar word, scalar? secret = some scalar ∧
        prehashWord? (prehash message hashFirst) = some word ∧
        signWithNonce? scalar (deterministicNonce scalar.toWord word) (reduced word) =
          some signature := by
  have bindings : ∀ scalar, signPrehash? scalar (prehash message hashFirst) = some signature ↔
      ∃ word, prehashWord? (prehash message hashFirst) = some word ∧
        signWithNonce? scalar (deterministicNonce scalar.toWord word) (reduced word) =
          some signature := by
    intro scalar
    simp only [signPrehash?, Option.bind_eq_bind, Option.bind_eq_some_iff]
  constructor
  · intro signed
    unfold sign at signed
    split at signed
    case h_1 => cases signed
    case h_2 scalar read =>
      split at signed
      case h_1 found made =>
        cases signed
        rcases (bindings scalar).mp made with ⟨word, hashed, signed⟩
        exact ⟨scalar, word, read, hashed, signed⟩
      case h_2 => cases signed
  · intro steps
    rcases steps with ⟨scalar, word, read, hashed, signed⟩
    have made := (bindings scalar).mpr ⟨word, hashed, signed⟩
    unfold sign
    rw [read]
    simp only [made]

/-- Signing fails exactly for a prehash that is too short, or if the nonce gives no signature. -/
theorem sign_eq_error_iff {message : Bytes} {secret : Word} {hashFirst : Bool} {scalar : Scalar}
    {error : KeyError} (read : scalar? secret = some scalar) :
    sign message secret hashFirst = .error error ↔
      error = .signingFailed ∧
        ∀ word, prehashWord? (prehash message hashFirst) = some word →
          signWithNonce? scalar (deterministicNonce scalar.toWord word) (reduced word) = none := by
  have refused : signPrehash? scalar (prehash message hashFirst) = none ↔
      ∀ word, prehashWord? (prehash message hashFirst) = some word →
        signWithNonce? scalar (deterministicNonce scalar.toWord word) (reduced word) = none := by
    simp only [signPrehash?, Option.bind_eq_bind, Option.bind_eq_none_iff]
  simp only [sign, read, ← refused]
  cases signPrehash? scalar (prehash message hashFirst) with
  | some signature => simp
  | none => simp [eq_comm]

theorem signsFor_of_sign {message : Bytes} {secret : Word} {hashFirst : Bool}
    {signature : Signature} {coordinates : Coordinates}
    (signed : sign message secret hashFirst = .ok signature)
    (derived : publicPoint secret = .ok coordinates) :
    SignsFor message hashFirst signature coordinates := by
  rcases sign_eq_ok_iff.mp signed with ⟨scalar, word, read, found, signedScalars⟩
  rcases publicPoint_eq_ok_iff.mp derived with ⟨other, otherRead, affine⟩
  rw [read] at otherRead
  cases otherRead
  rcases signWithNonce?_eq_some signedScalars with ⟨scalars, id, prehashEqual, designates, rfl⟩
  -- the words that are stored are read back as the scalars with the lower `s`
  have lowRead : signedScalars? message scalars.lower.r.toWord scalars.lower.s.toWord hashFirst =
      some scalars.lower := by
    apply signedScalars?_eq_some_iff.mpr
    refine ⟨scalar?_toWord scalars.r_ne_zero, scalar?_toWord scalars.lower.s_ne_zero, ?_⟩
    rw [found]
    exact congrArg some prehashEqual.symm
  have lowDesignates := (scalars.designates_lower_point (publicElement scalar)).mpr designates
  have accepts : scalars.lower.Accepts (publicElement scalar) := by
    apply (scalars.lower.accepts_iff_exists_designates _).mpr
    exact ⟨_, lowDesignates⟩
  have small : scalars.lower.s.toWord.toNat ≤ (groupOrder - 1) / 2 := by
    rw [toNat_toWord]
    exact lowered_le scalars.s
  exact {
    r_isScalar := isScalar_toWord.mpr scalars.r_ne_zero
    s_isScalar := isScalar_toWord.mpr scalars.lower.s_ne_zero
    s_le := small
    verifies := verify_iff.mpr ⟨scalars.lower, publicElement scalar, lowRead, affine, accepts⟩
    recovers := ⟨_, rfl, recover?_eq_some_iff.mpr
      ⟨scalars.lower, publicElement scalar, lowRead, affine, lowDesignates⟩⟩ }

/-! ## A run

The smallest secret signs the digest of the empty message, whose recovery id is zero. -/

namespace SigningRun

def digest : Bytes := [
  0xF1, 0x10, 0x9B, 0x4D, 0xDA, 0x52, 0x4D, 0xA2, 0x4C, 0x24, 0x26, 0xA0, 0x27, 0x3B, 0x00, 0x43,
  0xF1, 0x3D, 0x75, 0xE2, 0xCE, 0x62, 0x51, 0x9F, 0xB7, 0xCB, 0x7F, 0x07, 0x95, 0xC4, 0xD6, 0xE5]

def prehashWord : Word := 0x80E795D4A4CAADD7047AF389D9F7F220562FEB6196032E2131E10563352C4BCC

def nonce : Scalar := 0xD7A4218105BC8D6E053304F7573B7251704FE35AD7FF3D302C77F6614F5A2635

def signature : Signature where
  r := 0xF7A45B212236CFAFB2A397E64ECB1F7A4F65FCBD8B382DE9462F704193F6D7F6
  s := 0x16B182047F590753B426D8942D32680F112698125223615319941A067F3791B3
  recoveryId := some 0

theorem prehashWord_eq : prehashWord? (prehash digest true) = some prehashWord := by
  decide +kernel

theorem nonce_eq : deterministicNonce (Scalar.toWord 1) prehashWord = nonce := by
  apply Generator.Finds.firstScalar_eq
  apply Generator.Finds.accept
  decide +kernel

theorem multiple_nonce : Point.base.multiple nonce.value = .affine
    0xF7A45B212236CFAFB2A397E64ECB1F7A4F65FCBD8B382DE9462F704193F6D7F6
    0x2E45A822BB9332E092288B332D477AA1EF0CECD5A9CFA8E75CCF5B9CF3EB0593 :=
  Jacobian.multiple_eq_affine (by decide) (by decide +kernel)

theorem sign_eq : sign digest 1 true = .ok signature := by
  have signed : signWithNonce? 1 (deterministicNonce (Scalar.toWord 1) prehashWord)
      (reduced prehashWord) = some signature := by
    rw [nonce_eq, signWithNonce?, multiple_nonce]
    decide +kernel
  apply sign_eq_ok_iff.mpr
  exact ⟨1, prehashWord, rfl, prehashWord_eq, signed⟩

end SigningRun

end BitcoinKeys.Ecdsa
