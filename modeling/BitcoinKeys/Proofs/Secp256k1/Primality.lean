import BitcoinKeys.Proofs.Secp256k1.ResidueRing
import BitcoinKeys.Secp256k1.Point
import Mathlib.NumberTheory.LucasPrimality
import Mathlib.Tactic.NormNum.Prime

/-! # The two primes of the curve

A number is prime if some residue has the order of a full multiplicative group. A certificate names
such a residue and the prime factors of the number less one, which need certificates of their own
unless trial division finds them prime. Powers are those of residues.
-/

namespace BitcoinKeys.Secp256k1

/-- A number, a primitive root modulo it, and the prime factors of the number less one. -/
structure PrimeCertificate where
  number : Nat
  root : Nat
  factors : List Nat

namespace PrimeCertificate

/-- The power of the root, as a number below the certified one. -/
def rootPower (certificate : PrimeCertificate) (exponent : Nat) : Nat :=
  if positive : 0 < certificate.number then
    have : Modulus certificate.number := ⟨positive⟩
    ((Residue.reduce certificate.number certificate.root).power exponent).value
  else 0

/-- The root has the order that the factors say: the number less one. -/
def Holds (certificate : PrimeCertificate) : Prop :=
  certificate.factors.prod = certificate.number - 1 ∧
    certificate.rootPower (certificate.number - 1) = 1 ∧
    ∀ factor ∈ certificate.factors,
      certificate.rootPower ((certificate.number - 1) / factor) ≠ 1

instance (certificate : PrimeCertificate) : Decidable certificate.Holds :=
  inferInstanceAs (Decidable (_ ∧ _ ∧ _))

theorem rootPower_eq_one {certificate : PrimeCertificate} (large : 1 < certificate.number)
    (exponent : Nat) :
    certificate.rootPower exponent = 1 ↔
      (certificate.root : ZMod certificate.number) ^ exponent = 1 := by
  have : Modulus certificate.number := ⟨by omega⟩
  let power := (Residue.reduce certificate.number certificate.root).power exponent
  have read : certificate.rootPower exponent = power.value := dif_pos (by omega)
  have cast : power.toZMod = (certificate.root : ZMod certificate.number) ^ exponent := by
    rw [Residue.toZMod_power, Residue.toZMod_reduce]
  rw [read, ← cast, Residue.toZMod, ← Nat.cast_one (R := ZMod certificate.number),
    ZMod.natCast_eq_natCast_iff', Nat.mod_eq_of_lt power.value_lt, Nat.mod_eq_of_lt large]

theorem Holds.prime {certificate : PrimeCertificate} (holds : certificate.Holds)
    (factorsPrime : ∀ factor ∈ certificate.factors, factor.Prime) :
    certificate.number.Prime := by
  rcases holds with ⟨product, full, proper⟩
  have large : 1 < certificate.number := by
    by_contra small
    have zero : certificate.number - 1 = 0 := by omega
    rw [zero] at product
    exact Nat.not_prime_zero (factorsPrime 0 (List.prod_eq_zero_iff.mp product))
  refine lucas_primality certificate.number certificate.root
    ((rootPower_eq_one large _).mp full) ?_
  intro divisor divisorPrime divides
  rw [← product] at divides
  rcases (Prime.dvd_prod_iff divisorPrime.prime).mp divides with ⟨factor, member, divisorDivides⟩
  have equal : divisor = factor :=
    (Nat.prime_dvd_prime_iff_eq divisorPrime (factorsPrime factor member)).mp divisorDivides
  rw [ne_eq, ← rootPower_eq_one large, equal]
  exact proper factor member

end PrimeCertificate

/-- The numbers that are known to be prime after the certificates, each of which may use the numbers
before it. -/
def certified : (known : List Nat) → List PrimeCertificate → List Nat
  | known, [] => known
  | known, certificate :: rest =>
      if certificate.Holds ∧ ∀ factor ∈ certificate.factors, factor ∈ known then
        certified (certificate.number :: known) rest
      else certified known rest

theorem prime_of_mem_certified {known : List Nat} (knownPrime : ∀ number ∈ known, number.Prime)
    (certificates : List PrimeCertificate) :
    ∀ number ∈ certified known certificates, number.Prime := by
  induction certificates generalizing known with
  | nil => exact knownPrime
  | cons certificate rest induction =>
      rw [certified]
      split
      case isTrue valid =>
        apply induction
        intro number member
        rcases List.mem_cons.mp member with equal | member
        · rw [equal]
          exact valid.1.prime fun factor inFactors =>
            knownPrime factor (valid.2 factor inFactors)
        · exact knownPrime number member
      case isFalse => exact induction knownPrime

/-- The primes in the certificates that trial division finds. -/
def smallPrimes : List Nat := [
    2, 3, 5, 7, 11, 13, 17, 29, 31, 41, 53, 59, 109, 149, 293, 461, 631, 797, 971, 1373, 1627,
    2621, 2657, 4051, 4423, 5323, 7723, 9349, 13441, 16699, 24809, 28181, 41201, 85831, 96557,
    120233, 305873, 1627771, 4681609, 7240687]

theorem prime_of_mem_smallPrimes : ∀ number ∈ smallPrimes, number.Prime := by
  norm_num [smallPrimes]

def fieldPrimeCertificates : List PrimeCertificate := [
    ⟨107590001, 3, [2, 2, 2, 2, 5, 5, 5, 5, 7, 29, 53]⟩,
    ⟨255515944373312847190720520512484175977, 3,
      [2, 2, 2, 7, 7, 11, 1627, 2657, 4423, 41201, 96557, 7240687, 107590001]⟩,
    ⟨13331831, 13, [2, 5, 971, 1373]⟩,
    ⟨173378833005251801, 6, [2, 2, 2, 5, 5, 2621, 24809, 13331831]⟩,
    ⟨22149492674086928081353, 5, [2, 2, 2, 3, 5323, 173378833005251801]⟩,
    ⟨132896956044521568488119, 6, [2, 3, 22149492674086928081353]⟩,
    ⟨205115282021455665897114700593932402728804164701536103180137503955397371, 10,
      [2, 3, 5, 29, 29, 31, 7723, 132896956044521568488119,
        255515944373312847190720520512484175977]⟩,
    ⟨fieldPrime, 3,
      [2, 3, 7, 13441,
        205115282021455665897114700593932402728804164701536103180137503955397371]⟩]

def groupOrderCertificates : List PrimeCertificate := [
    ⟨44706919, 6, [2, 3, 797, 9349]⟩,
    ⟨174723607534414371449, 3, [2, 2, 2, 17, 59, 4051, 120233, 44706919]⟩,
    ⟨107361793816595537, 3, [2, 2, 2, 2, 16699, 85831, 4681609]⟩,
    ⟨297159362677, 2, [2, 2, 3, 3, 11, 461, 1627771]⟩,
    ⟨545358713, 5, [2, 2, 2, 41, 59, 28181]⟩,
    ⟨29047611873442575647497758179, 2, [2, 293, 305873, 545358713, 297159362677]⟩,
    ⟨341948486974166000522343609283189, 2,
      [2, 2, 3, 3, 3, 109, 29047611873442575647497758179]⟩,
    ⟨groupOrder, 7,
      [2, 2, 2, 2, 2, 2, 3, 149, 631, 107361793816595537, 174723607534414371449,
        341948486974166000522343609283189]⟩]

theorem fieldPrime_prime : fieldPrime.Prime :=
  prime_of_mem_certified prime_of_mem_smallPrimes fieldPrimeCertificates fieldPrime
    (by decide +kernel)

theorem groupOrder_prime : groupOrder.Prime :=
  prime_of_mem_certified prime_of_mem_smallPrimes groupOrderCertificates groupOrder
    (by decide +kernel)

instance : Fact fieldPrime.Prime := ⟨fieldPrime_prime⟩

instance : Fact groupOrder.Prime := ⟨groupOrder_prime⟩

end BitcoinKeys.Secp256k1
