import BitcoinKeys.Proofs.Der

/-! # Integers and their values

The content that is written for a word is the shortest that has its value and is not negative. The
checks accept exactly this content for a value that fits a word, and the value is read without being
cut down, whatever the length of the content. -/

namespace BitcoinKeys.Der

open Secp256k1

/-! ## Writing -/

@[simp]
theorem toNat_integer (value : Word) : (integer value).toNat = value.toNat := by
  rw [← Bytes.toNat_significant, significant_integer, Bytes.toNat_significant, Word.toNat_toBytes]

theorem exists_integer_eq_cons (value : Word) :
    ∃ first rest, integer value = first :: rest ∧ first < 0x80 := by
  have unsigned := (checkInteger_eq_ok_iff.mp (checkInteger_integer .r value)).1
  cases written : integer value with
  | nil => exact absurd written (integer_ne_nil value)
  | cons first rest =>
      rw [written] at unsigned
      exact ⟨first, rest, rfl, UInt8.not_le.mp (of_decide_eq_false unsigned)⟩

/-- Content with another byte than its significant ones in front is longer than these. -/
theorem length_significant_lt {first : UInt8} {rest : Bytes}
    (padded : Bytes.significant (first :: rest) ≠ first :: rest) :
    (Bytes.significant (first :: rest)).length < (first :: rest).length := by
  by_cases zero : first = 0
  · rw [zero, Bytes.significant_zero_cons, List.length_cons]
    exact Nat.lt_succ_of_le (Bytes.length_significant_le rest)
  · exact absurd (Bytes.significant_cons zero rest) padded

/-- Content that is not negative has at least the bytes that are written for its value. -/
theorem length_integer_le_of_toNat_eq {value : Word} {first : UInt8} {rest : Bytes}
    (unsigned : first < 0x80) (equal : Bytes.toNat (first :: rest) = value.toNat) :
    (integer value).length ≤ (first :: rest).length := by
  have significant : Bytes.significant (first :: rest) = value.toBytes.significant :=
    Bytes.significant_eq_of_toNat_eq (equal.trans value.toNat_toBytes.symm)
  have shorter := Bytes.length_significant_le (first :: rest)
  by_cases empty : value.toBytes.significant = []
  · rw [integer, Word.minimalBytes_eq_zero empty]
    exact Nat.succ_le_succ (Nat.zero_le rest.length)
  · rw [integer, Word.minimalBytes_eq empty, ← significant]
    split
    case isTrue signed =>
      -- the significant bytes are negative, and so they are not the whole content
      apply length_significant_lt
      intro whole
      rw [whole] at signed
      exact absurd (of_decide_eq_true signed) (UInt8.not_le.mpr unsigned)
    case isFalse => exact shorter

/-! ## Checking -/

theorem checkInteger_eq_ok_iff_eq_integer {component : Component} {content : Bytes}
    (nonempty : content ≠ []) (fits : content.toNat < 2 ^ 256) :
    checkInteger component content = .ok () ↔
      content = integer (BitVec.ofNat 256 content.toNat) := by
  constructor
  · intro checked
    apply eq_integer_of_significant nonempty checked
    apply Bytes.significant_eq_of_toNat_eq
    rw [Word.toNat_toBytes, BitVec.toNat_ofNat, Nat.mod_eq_of_lt fits]
  · intro written
    rw [written]
    exact checkInteger_integer component _

/-- The content that is written for a word has up to 33 bytes, the first of which is below 0x80, and
the value of the word. It passes the checks, and no other content of this value with such a first
byte is shorter. Any content whose value fits a word passes the checks only if it is the one that is
written for its value. -/
theorem integer_minimal_unique :
    (∀ (component : Component) (value : Word),
      (1 ≤ (integer value).length ∧ (integer value).length ≤ 33) ∧
      (∃ first rest, integer value = first :: rest ∧ first < 0x80) ∧
      (integer value).toNat = value.toNat ∧
      checkInteger component (integer value) = .ok () ∧
      ∀ (first : UInt8) (rest : Bytes), first < 0x80 →
        Bytes.toNat (first :: rest) = value.toNat →
          (integer value).length ≤ (first :: rest).length) ∧
    ∀ (component : Component) (content : Bytes), content ≠ [] → content.toNat < 2 ^ 256 →
      (checkInteger component content = .ok () ↔
        content = integer (BitVec.ofNat 256 content.toNat)) := by
  constructor
  · intro component value
    have positive := List.length_pos_iff.mpr (integer_ne_nil value)
    refine ⟨⟨positive, length_integer_le value⟩, exists_integer_eq_cons value, toNat_integer value,
      checkInteger_integer component value, ?_⟩
    intro first rest unsigned equal
    exact length_integer_le_of_toNat_eq unsigned equal
  · intro component content nonempty fits
    exact checkInteger_eq_ok_iff_eq_integer nonempty fits

/-- The greatest power of two that fits a word needs a zero byte in front of its 32 bytes, which no
content of 32 bytes goes without, and a second zero byte is refused. -/
theorem integer_minimal_unique_run :
    let word : Word := BitVec.ofNat 256 (2 ^ 255)
    let content : Bytes := 0x00 :: 0x80 :: List.replicate 31 0x00
    content.toNat = word.toNat ∧ (integer word).length ≤ content.length ∧
      checkInteger .r content = .ok () ∧ content = integer word ∧
      ¬ checkInteger .s (0x00 :: content) = .ok () := by
  intro word content
  rcases integer_minimal_unique with ⟨written, checked⟩
  have value : content.toNat = word.toNat := by decide +kernel
  have shortest := (written .r word).2.2.2.2
  have accepted := checked .r content (List.cons_ne_nil _ _) (by decide +kernel)
  have refused := checked .s (0x00 :: content) (List.cons_ne_nil _ _) (by decide +kernel)
  have equal : content = integer word := by decide +kernel
  refine ⟨value, shortest 0x00 _ (by decide) value, ?_, equal, ?_⟩
  · apply accepted.mpr
    rw [value, BitVec.ofNat_toNat, BitVec.setWidth_eq]
    exact equal
  · intro passed
    have length := congrArg List.length (refused.mp passed)
    exact absurd length (by decide +kernel)

/-! ## Reading -/

/-- The value of a content of any length is read as the word that it is exactly if it is in the
range of scalars. Anything else is refused, above all a value that no word has. -/
theorem scalarValue?_exact (content : Bytes) :
    (∀ value : Word, scalarValue? content = some value ↔
      content.toNat = value.toNat ∧ 1 ≤ value.toNat ∧ value.toNat < groupOrder) ∧
    (scalarValue? content = none ↔ ¬ (1 ≤ content.toNat ∧ content.toNat < groupOrder)) ∧
    (2 ^ 256 ≤ content.toNat → scalarValue? content = none) := by
  refine ⟨?_, scalarValue?_eq_none_iff, ?_⟩
  · intro value
    rw [scalarValue?_eq_some_iff, and_comm, @eq_comm _ value.toNat]
    rfl
  · intro large
    have order : groupOrder ≤ 2 ^ 256 := by decide
    apply scalarValue?_eq_none_iff.mpr
    intro inRange
    exact absurd inRange.2 (Nat.not_lt.mpr (Nat.le_trans order large))

/-- All 33 bytes are refused, although the last 32 of them are a scalar, also behind 33 zeros. -/
theorem scalarValue?_exact_run :
    let content : Bytes := List.replicate 33 0x01
    2 ^ 256 ≤ content.toNat ∧ scalarValue? content = none ∧
      scalarValue? (List.replicate 33 0x00 ++ content.tail) =
        some (Word.ofFixed content.tail rfl) := by
  intro content
  have large : 2 ^ 256 ≤ content.toNat := by decide +kernel
  have padded := (scalarValue?_exact (List.replicate 33 0x00 ++ content.tail)).1
  refine ⟨large, (scalarValue?_exact content).2.2 large, (padded _).mpr ?_⟩
  decide +kernel

end BitcoinKeys.Der
