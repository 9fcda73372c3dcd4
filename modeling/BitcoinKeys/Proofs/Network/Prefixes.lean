import BitcoinKeys.PrivateKey
import BitcoinKeys.Proofs.Base58Check

/-! # Prefixes of keys and addresses

The version outweighs whatever stands behind it, the checksum included, and decides about the first
symbols and the length that a text can have. The version of mainnet addresses is zero and so has a
symbol of its own, in front of a number that may be short. -/

namespace BitcoinKeys

namespace Base58Check

theorem encode_eq (version : UInt8) (payload : Bytes) :
    encode version payload =
      Base58.encode (version :: (payload ++ checksum (version :: payload))) := rfl

theorem length_append_checksum (version : UInt8) (payload : Bytes) :
    (payload ++ checksum (version :: payload)).length = payload.length + 4 := by
  rw [List.length_append, length_checksum, checksumLength]

/-- A version other than zero leaves a range of first symbols and one length, whatever the payload
and the checksum are. -/
theorem exists_symbol_encode (version : UInt8) {payload : Bytes} {width low high count : Nat}
    (length : payload.length = width) (nonzero : version ≠ 0) (positive : 0 < low)
    (small : high < 58) (lower : low * 58 ^ count ≤ version.toNat * 256 ^ (width + 4))
    (upper : (version.toNat + 1) * 256 ^ (width + 4) ≤ (high + 1) * 58 ^ count) :
    ∃ lead, low ≤ lead ∧ lead ≤ high ∧
      (encode version payload).toList.head? = some (Base58.symbolChar lead) ∧
      (encode version payload).length = count + 1 := by
  have fromBelow := Bytes.le_toNat_cons version (payload ++ checksum (version :: payload))
  have fromAbove := Bytes.toNat_cons_lt version (payload ++ checksum (version :: payload))
  rw [length_append_checksum, length] at fromBelow fromAbove
  rw [encode_eq]
  generalize payload ++ checksum (version :: payload) = rest at fromBelow fromAbove
  have power : 0 < 58 ^ count := Nat.pow_pos (by decide)
  have lowest : low ≤ Bytes.toNat (version :: rest) / 58 ^ count :=
    (Nat.le_div_iff_mul_le power).mpr (Nat.le_trans lower fromBelow)
  have highest : Bytes.toNat (version :: rest) / 58 ^ count < high + 1 :=
    (Nat.div_lt_iff_lt_mul power).mpr (Nat.lt_of_lt_of_le fromAbove upper)
  refine ⟨_, lowest, Nat.le_of_lt_succ highest, ?_⟩
  apply Base58.encode_of_bounds nonzero
  · exact Nat.lt_of_lt_of_le positive lowest
  · exact Nat.lt_of_lt_of_le highest small
  · exact Nat.div_mul_le_self _ _
  · exact (Nat.div_lt_iff_lt_mul power).mp (Nat.lt_succ_self _)

/-- Version zero is a leading `1`, and what follows is at most nine symbols longer than the payload
and the checksum. -/
theorem encode_zero {payload : Bytes} (short : payload.length ≤ 20) :
    (encode 0 payload).toList.head? = some '1' ∧
      (encode 0 payload).length ≤ payload.length + 14 := by
  have few : (payload ++ checksum (0 :: payload)).length ≤ 24 := by
    rw [length_append_checksum]
    omega
  have bound := Base58.length_toValues_le few
  rw [length_append_checksum] at bound
  rw [encode_eq, Base58.length_encode, Base58.toList_encode, Base58.toValues_zero_cons,
    List.map_cons, List.length_cons]
  exact ⟨rfl, by omega⟩

end Base58Check

/-! ## Private keys -/

/-- The value of the first symbol of the private keys of a network. -/
def Network.keyMark : Network → Nat
  | .mainnet => 4
  | .testnet => 8

/-- On testnet the lower bound holds by one part in a thousand only. -/
theorem Network.keyMark_bounds (network : Network) :
    network.keyMark * 58 ^ 50 ≤ network.privateKeyVersion.toNat * 256 ^ 36 ∧
      (network.privateKeyVersion.toNat + 1) * 256 ^ 36 ≤ (network.keyMark + 1) * 58 ^ 50 := by
  cases network with
  | mainnet => decide
  | testnet => decide

theorem PrivateKey.toWif_mark (key : PrivateKey) (network : Network) :
    (key.toWif network).toList.head? = some (Base58.symbolChar network.keyMark) ∧
      (key.toWif network).length = 51 := by
  have width : key.toBytes.length = 32 := Word.length_toBytes key.scalar
  have nonzero : network.privateKeyVersion ≠ 0 := by
    cases network <;> decide
  have positive : 0 < network.keyMark ∧ network.keyMark < 58 := by
    cases network <;> decide
  rcases network.keyMark_bounds with ⟨lower, upper⟩
  rcases Base58Check.exists_symbol_encode network.privateKeyVersion width nonzero positive.1
    positive.2 lower upper with ⟨lead, lowest, highest, first, length⟩
  rw [Nat.le_antisymm highest lowest] at first
  exact ⟨first, length⟩

/-! ## Addresses -/

namespace PublicKey

variable (key : PublicKey) (compressed : Bool)

theorem length_hash160 : (key.hash160 compressed).length = 20 := by
  cases compressed with
  | false =>
      change key.uncompressedDigest.length = 20
      rw [key.uncompressedDigest_eq, Hash.length_hash160]
  | true =>
      change key.compressedDigest.length = 20
      rw [key.compressedDigest_eq, Hash.length_hash160]

theorem address_mainnet :
    (key.address compressed .mainnet).toList.head? = some '1' ∧
      (key.address compressed .mainnet).length ≤ 34 := by
  have width := key.length_hash160 compressed
  have written := Base58Check.encode_zero (Nat.le_of_eq width)
  rw [width] at written
  exact written

theorem address_testnet :
    ((key.address compressed .testnet).toList.head? = some 'm' ∨
      (key.address compressed .testnet).toList.head? = some 'n') ∧
      (key.address compressed .testnet).length = 34 := by
  have lower : 44 * 58 ^ 33 ≤ 0x6F * 256 ^ 24 := by decide
  have upper : 0x70 * 256 ^ 24 ≤ 46 * 58 ^ 33 := by decide
  rcases Base58Check.exists_symbol_encode 0x6F (key.length_hash160 compressed) (by decide)
    (by decide) (by decide) lower upper with ⟨lead, lowest, highest, first, length⟩
  refine ⟨?_, length⟩
  rcases Nat.eq_or_lt_of_le lowest with equal | above
  · rw [← equal] at first
    exact .inl first
  · rw [Nat.le_antisymm highest above] at first
    exact .inr first

end PublicKey

/-- Exported keys are 51 characters long and start with `5` on mainnet and with `9` on testnet.
Addresses of either form start with `1` on mainnet, with at most 34 characters, and with `m` or `n`
on testnet, with exactly 34. -/
theorem Network.texts_start_as_marked :
    (∀ key : PrivateKey,
      (key.toWif .mainnet).length = 51 ∧ (key.toWif .mainnet).toList.head? = some '5' ∧
      (key.toWif .testnet).length = 51 ∧ (key.toWif .testnet).toList.head? = some '9') ∧
    ∀ (key : PublicKey) (compressed : Bool),
      (key.address compressed .mainnet).toList.head? = some '1' ∧
      (key.address compressed .mainnet).length ≤ 34 ∧
      ((key.address compressed .testnet).toList.head? = some 'm' ∨
        (key.address compressed .testnet).toList.head? = some 'n') ∧
      (key.address compressed .testnet).length = 34 := by
  constructor
  · intro key
    rcases key.toWif_mark .mainnet with ⟨mainFirst, mainLength⟩
    rcases key.toWif_mark .testnet with ⟨testFirst, testLength⟩
    exact ⟨mainLength, mainFirst, testLength, testFirst⟩
  · intro key compressed
    rcases key.address_mainnet compressed with ⟨mainFirst, mainLength⟩
    rcases key.address_testnet compressed with ⟨testFirst, testLength⟩
    exact ⟨mainFirst, mainLength, testFirst, testLength⟩

end BitcoinKeys
