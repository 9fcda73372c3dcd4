import BitcoinKeys.Proofs.PrivateKey.Construction
import BitcoinKeys.Proofs.Secp256k1.Decompression

/-! # Derivation of public keys

The base point has the order of the group, so that a secret is determined by its public key. Two
public keys have the same x coordinate exactly if their secrets are equal or negatives of each
other, and in the second case their compressed forms differ in the tag alone. -/

namespace BitcoinKeys

open Secp256k1

namespace Ecdsa

theorem publicElement_injective : Function.Injective publicElement := by
  intro left right equal
  apply Residue.toZMod_injective
  exact smul_left_injective _ baseElement_ne_zero equal

theorem publicElement_neg (secret : Scalar) : publicElement (-secret) = -publicElement secret := by
  rw [publicElement, Residue.toZMod_neg, neg_smul, publicElement]

end Ecdsa

namespace PrivateKey

def secret (key : PrivateKey) : Scalar :=
  ⟨key.scalar.toNat, key.isScalar_scalar.2⟩

theorem secret_ne_zero (key : PrivateKey) : key.secret ≠ 0 := by
  intro zero
  have positive := key.isScalar_scalar.1
  have value : key.scalar.toNat = 0 := Residue.eq_zero_iff.mp zero
  omega

theorem ofPoint?_publicElement (key : PrivateKey) :
    Coordinates.ofPoint? (Point.ofGroup (Ecdsa.publicElement key.secret)) =
      some key.publicKey.point := by
  rw [Ecdsa.ofGroup_publicElement]
  exact key.ofPoint?_multiple

section

variable {left right : PrivateKey}

theorem secret_eq_iff : left.secret = right.secret ↔ left.scalar = right.scalar := by
  rw [secret, secret, Residue.mk.injEq, BitVec.toNat_inj]

theorem secret_eq_neg_iff :
    right.secret = -left.secret ↔ right.scalar.toNat = groupOrder - left.scalar.toNat := by
  have value : (-left.secret).value = groupOrder - left.scalar.toNat :=
    Residue.value_neg left.secret_ne_zero
  rw [← value]
  exact ⟨congrArg Residue.value, fun equal => Residue.value_injective equal⟩

theorem beq_iff_scalar_eq : (left == right) = true ↔ left.scalar = right.scalar :=
  beq_iff_eq (a := left.scalar) (b := right.scalar)

theorem publicKey_eq_iff : left.publicKey = right.publicKey ↔ left.scalar = right.scalar := by
  have points : left.publicKey.point = right.publicKey.point ↔ left.scalar = right.scalar := by
    rw [Coordinates.eq_iff_element_eq left.ofPoint?_publicElement right.ofPoint?_publicElement,
      Ecdsa.publicElement_injective.eq_iff, secret_eq_iff]
  rw [← points]
  exact ⟨congrArg PublicKey.point, PublicKey.eq_of_point_eq⟩

theorem x_eq_iff : left.publicKey.point.x = right.publicKey.point.x ↔
    right.scalar = left.scalar ∨ right.scalar.toNat = groupOrder - left.scalar.toNat := by
  rw [Coordinates.x_eq_iff_element_eq_or_neg left.ofPoint?_publicElement
    right.ofPoint?_publicElement, ← Ecdsa.publicElement_neg, Ecdsa.publicElement_injective.eq_iff,
    Ecdsa.publicElement_injective.eq_iff, secret_eq_iff, secret_eq_neg_iff]

/-- The order is odd, so that no secret is its own negative. -/
theorem publicKey_ne_of_opposite
    (opposite : right.scalar.toNat = groupOrder - left.scalar.toNat) :
    left.publicKey ≠ right.publicKey := by
  have order : groupOrder % 2 = 1 := by decide
  have below := left.isScalar_scalar.2
  intro equal
  rw [publicKey_eq_iff.mp equal] at opposite below
  omega

theorem toCompressed_of_opposite
    (opposite : right.scalar.toNat = groupOrder - left.scalar.toNat) :
    ∃ odd content, left.publicKey.toCompressed = Coordinates.compressedTag odd :: content ∧
      right.publicKey.toCompressed = Coordinates.compressedTag (!odd) :: content := by
  have different : left.publicKey.point ≠ right.publicKey.point := by
    intro equal
    exact publicKey_ne_of_opposite opposite (PublicKey.eq_of_point_eq equal)
  exact ⟨_, _, Coordinates.compressed_of_same_x left.publicKey.onCurve right.publicKey.onCurve
    different (x_eq_iff.mpr (.inr opposite))⟩

end

/-- Derivation is injective up to negation: two secrets in range have one public key exactly if they
are equal, which is what the comparison of their keys finds out, and one x coordinate exactly if
they are equal or negatives of each other. The compressed forms of negatives differ in the tag
alone. -/
theorem derivation_injective_up_to_negation (first second : Word) (firstInRange : IsScalar first)
    (secondInRange : IsScalar second) :
    ∃ left right : PrivateKey, ofWord first = .ok left ∧ ofWord second = .ok right ∧
      (left.publicKey = right.publicKey ↔ first = second) ∧
      ((left == right) = true ↔ left.publicKey = right.publicKey) ∧
      (left.publicKey.point.x = right.publicKey.point.x ↔
        second = first ∨ second.toNat = groupOrder - first.toNat) ∧
      (second.toNat = groupOrder - first.toNat → ∃ odd content,
        left.publicKey.toCompressed = Coordinates.compressedTag odd :: content ∧
        right.publicKey.toCompressed = Coordinates.compressedTag (!odd) :: content) := by
  rcases exists_key firstInRange with ⟨left, rfl⟩
  rcases exists_key secondInRange with ⟨right, rfl⟩
  refine ⟨left, right, left.ofWord_scalar, right.ofWord_scalar, publicKey_eq_iff, ?_, x_eq_iff,
    toCompressed_of_opposite⟩
  rw [beq_iff_scalar_eq, publicKey_eq_iff]

theorem point_of_scalar_one {key : PrivateKey} (one : key.scalar = 1) :
    key.publicKey.point = Coordinates.base := by
  have multiple := key.ofPoint?_multiple
  rw [one] at multiple
  have base : Coordinates.ofPoint? (Point.base.multiple (1 : Word).toNat) =
      some Coordinates.base := by
    decide +kernel
  exact Option.some.inj (multiple.symm.trans base)

/-- At both ends of the range stand the base point and its mirror image. -/
theorem derivation_injective_up_to_negation_run :
    let last : Word := BitVec.ofNat 256 (groupOrder - 1)
    IsScalar 1 ∧ IsScalar last ∧
    ∃ left right : PrivateKey, ofWord 1 = .ok left ∧ ofWord last = .ok right ∧
      (left == right) = false ∧ left.publicKey ≠ right.publicKey ∧
      right.publicKey.point.x = Coordinates.base.x ∧
      left.publicKey.toCompressed = 0x02 :: Coordinates.base.x.toBytes ∧
      right.publicKey.toCompressed = 0x03 :: Coordinates.base.x.toBytes := by
  intro last
  have firstInRange : IsScalar 1 := by decide
  have lastInRange : IsScalar last := by decide
  have opposite : last.toNat = groupOrder - (1 : Word).toNat := by decide
  rcases derivation_injective_up_to_negation 1 last firstInRange lastInRange with
    ⟨left, right, leftMade, rightMade, keys, compared, sameX, forms⟩
  have point := point_of_scalar_one (ofWord_eq_ok_iff.mp leftMade)
  have leftForm : left.publicKey.toCompressed = 0x02 :: Coordinates.base.x.toBytes := by
    rw [PublicKey.toCompressed, point]
    decide
  have different : left.publicKey ≠ right.publicKey := by
    intro equal
    exact absurd (keys.mp equal) (by decide)
  rcases forms opposite with ⟨odd, content, leftTagged, rightTagged⟩
  rw [leftForm] at leftTagged
  rcases List.cons.inj leftTagged with ⟨tag, rfl⟩
  have even : odd = false := by
    cases odd with
    | false => rfl
    | true => exact absurd tag (by decide)
  refine ⟨firstInRange, lastInRange, left, right, leftMade, rightMade, ?_, different, ?_,
    leftForm, ?_⟩
  · exact Bool.eq_false_iff.mpr (compared.not.mpr different)
  · rw [← sameX.mpr (.inr opposite), point]
  · rw [rightTagged, even]
    rfl

end PrivateKey

end BitcoinKeys
