import BitcoinKeys.Proofs.PrivateKey.Construction
import Mathlib.Data.List.GetD

/-!
# Keys from random bytes

The generation of a key as two loops over an endless source of bytes: the inner one reads words
until one is in range, the outer one samples such words until one makes a key. Whatever the source,
the outer loop runs once, and the inner one stops behind the first aligned word in range. A finite
stream that goes on with bytes 0x01 has such a word, at the latest behind its end, and drawing from
the stream is the run of the loops on it.
-/

namespace BitcoinKeys

open Secp256k1

/-- The bytes that a random source hands out, by their positions. -/
abbrev RandomSource := Nat → UInt8

namespace RandomSource

/-- The source of a finite stream, which goes on with bytes 0x01 for ever. -/
def ofStream (stream : Bytes) : RandomSource :=
  fun position => stream.getD position 0x01

def block (source : RandomSource) (position : Nat) : Bytes :=
  (List.range Word.byteLength).map fun offset => source (position + offset)

@[simp]
theorem length_block (source : RandomSource) (position : Nat) :
    (source.block position).length = Word.byteLength := by
  simp [block]

theorem getElem_block (source : RandomSource) (position offset : Nat)
    (inside : offset < (source.block position).length) :
    (source.block position)[offset] = source (position + offset) := by
  simp [block]

def word (source : RandomSource) (position : Nat) : Word :=
  Word.ofFixed (source.block position) (source.length_block position)

@[simp]
theorem toNat_word (source : RandomSource) (position : Nat) :
    (source.word position).toNat = (source.block position).toNat :=
  Word.toNat_ofFixed _ _

/-- The inner loop, from a position in the source to the word it returns and the position behind it:
the next word is read, and read again while it is out of range. -/
inductive Samples (source : RandomSource) : Nat → Word → Nat → Prop
  | accept {position : Nat} :
      IsScalar (source.word position) →
      Samples source position (source.word position) (position + Word.byteLength)
  | redraw {position ending : Nat} {word : Word} :
      ¬ IsScalar (source.word position) →
      Samples source (position + Word.byteLength) word ending →
      Samples source position word ending

/-- The outer loop, from a position in the source to the number of its rounds, the key it returns
and the position behind it: words are sampled until one of them makes a key. -/
inductive Generates (source : RandomSource) : Nat → Nat → PrivateKey → Nat → Prop
  | keep {position ending : Nat} {word : Word} {key : PrivateKey} :
      source.Samples position word ending →
      PrivateKey.ofWord word = .ok key →
      Generates source position 1 key ending
  | retry {position middle rounds ending : Nat} {word : Word} {error : KeyError}
      {key : PrivateKey} :
      source.Samples position word middle →
      PrivateKey.ofWord word = .error error →
      Generates source middle rounds key ending →
      Generates source position (rounds + 1) key ending

/-- Among the words that follow each other from a position on, the first one in range. -/
structure IsFirstInRange (source : RandomSource) (position index : Nat) : Prop where
  inRange : IsScalar (source.word (position + index * Word.byteLength))
  refused : ∀ earlier < index, ¬ IsScalar (source.word (position + earlier * Word.byteLength))

variable {source : RandomSource} {position index : Nat}

/-! ## The first word in range -/

theorem add_byteLength_add (position count : Nat) :
    position + Word.byteLength + count * Word.byteLength =
      position + (count + 1) * Word.byteLength := by
  rw [Nat.succ_mul, Nat.add_assoc, Nat.add_comm Word.byteLength]

theorem IsFirstInRange.unique {other : Nat} (first : source.IsFirstInRange position index)
    (second : source.IsFirstInRange position other) : index = other := by
  rcases Nat.lt_trichotomy index other with before | same | behind
  · exact absurd first.inRange (second.refused index before)
  · exact same
  · exact absurd second.inRange (first.refused other behind)

theorem isFirstInRange_zero_iff :
    source.IsFirstInRange position 0 ↔ IsScalar (source.word position) := by
  constructor
  · intro first
    simpa using first.inRange
  · intro inRange
    constructor
    · simpa using inRange
    · intro earlier before
      exact absurd before earlier.not_lt_zero

theorem isFirstInRange_succ_iff :
    source.IsFirstInRange position (index + 1) ↔
      ¬ IsScalar (source.word position) ∧
        source.IsFirstInRange (position + Word.byteLength) index := by
  constructor
  · intro first
    refine ⟨by simpa using first.refused 0 index.succ_pos, ?_, ?_⟩
    · rw [add_byteLength_add]
      exact first.inRange
    · intro earlier before
      rw [add_byteLength_add]
      exact first.refused (earlier + 1) (Nat.succ_lt_succ before)
  · intro behind
    rcases behind with ⟨refused, first⟩
    constructor
    · rw [← add_byteLength_add]
      exact first.inRange
    · intro earlier before
      cases earlier with
      | zero => simpa using refused
      | succ earlier =>
          rw [← add_byteLength_add]
          exact first.refused earlier (Nat.lt_of_succ_lt_succ before)

/-! ## The loops -/

theorem Samples.exists_isFirstInRange {word : Word} {ending : Nat}
    (samples : source.Samples position word ending) :
    ∃ index, source.IsFirstInRange position index ∧
      word = source.word (position + index * Word.byteLength) ∧
      ending = position + (index + 1) * Word.byteLength := by
  induction samples with
  | accept inRange =>
      exact ⟨0, isFirstInRange_zero_iff.mpr inRange, by simp, by simp⟩
  | redraw refused rest induction =>
      rcases induction with ⟨index, first, read, stop⟩
      refine ⟨index + 1, isFirstInRange_succ_iff.mpr ⟨refused, first⟩, ?_, ?_⟩
      · rw [read, add_byteLength_add]
      · rw [stop, add_byteLength_add]

theorem IsFirstInRange.samples (first : source.IsFirstInRange position index) :
    source.Samples position (source.word (position + index * Word.byteLength))
      (position + (index + 1) * Word.byteLength) := by
  induction index generalizing position with
  | zero =>
      have accepted := Samples.accept (isFirstInRange_zero_iff.mp first)
      simpa using accepted
  | succ index induction =>
      rcases isFirstInRange_succ_iff.mp first with ⟨refused, behind⟩
      have rest := induction behind
      rw [add_byteLength_add, add_byteLength_add] at rest
      exact Samples.redraw refused rest

theorem samples_iff {word : Word} {ending : Nat}
    (first : source.IsFirstInRange position index) :
    source.Samples position word ending ↔
      word = source.word (position + index * Word.byteLength) ∧
        ending = position + (index + 1) * Word.byteLength := by
  constructor
  · intro samples
    rcases samples.exists_isFirstInRange with ⟨other, otherFirst, read, stop⟩
    rw [first.unique otherFirst]
    exact ⟨read, stop⟩
  · intro result
    rw [result.1, result.2]
    exact first.samples

theorem Samples.isScalar {word : Word} {ending : Nat}
    (samples : source.Samples position word ending) : IsScalar word := by
  rcases samples.exists_isFirstInRange with ⟨index, first, read, _⟩
  rw [read]
  exact first.inRange

/-- Every sampled word makes a key, so that there is no second round. -/
theorem generates_iff {rounds ending : Nat} {key : PrivateKey} :
    source.Generates position rounds key ending ↔
      rounds = 1 ∧ source.Samples position key.scalar ending := by
  constructor
  · intro generates
    cases generates with
    | keep samples made =>
        rw [PrivateKey.ofWord_eq_ok_iff.mp made]
        exact ⟨rfl, samples⟩
    | retry samples refused rest =>
        exact absurd samples.isScalar (PrivateKey.ofWord_eq_error_iff.mp refused).1
  · intro single
    rw [single.1]
    exact Generates.keep single.2 key.ofWord_scalar

/-! ## Finite streams -/

theorem block_ofStream (stream : Bytes) (position : Nat) :
    (ofStream stream).block position =
      (stream.drop position ++ List.replicate Word.byteLength 0x01).take Word.byteLength := by
  apply List.ext_getElem
  · simp
  · intro offset inBlock inTake
    rw [getElem_block, ofStream, List.getElem_take]
    by_cases inside : offset < (stream.drop position).length
    · rw [List.getElem_append_left inside, List.getElem_drop]
      rw [List.length_drop] at inside
      exact List.getD_eq_getElem stream 0x01 (by omega)
    · rw [List.getElem_append_right (Nat.le_of_not_lt inside), List.getElem_replicate]
      rw [List.length_drop] at inside
      exact List.getD_eq_default stream 0x01 (by omega)

theorem nextWord_drop (stream : Bytes) (position : Nat) :
    PrivateKey.nextWord (stream.drop position) = (ofStream stream).word position := by
  apply BitVec.eq_of_toNat_eq
  rw [toNat_word, block_ofStream, PrivateKey.nextWord, Word.toNat_ofBytes]

theorem isScalar_word_of_length_le {stream : Bytes} (ended : stream.length ≤ position) :
    IsScalar ((ofStream stream).word position) := by
  rw [← nextWord_drop]
  exact PrivateKey.isScalar_nextWord (.inl (List.drop_eq_nil_of_le ended))

/-- The loop ends because the words behind the end of the stream are in range. -/
theorem exists_isFirstInRange (stream : Bytes) :
    ∃ index, (ofStream stream).IsFirstInRange 0 index ∧
      index * Word.byteLength < stream.length + Word.byteLength := by
  have ended : stream.length ≤ stream.length * Word.byteLength :=
    Nat.le_mul_of_pos_right _ (by decide)
  have reached : ∃ index, IsScalar ((ofStream stream).word (0 + index * Word.byteLength)) := by
    refine ⟨stream.length, isScalar_word_of_length_le ?_⟩
    rwa [Nat.zero_add]
  refine ⟨Nat.find reached, ⟨Nat.find_spec reached, fun earlier => Nat.find_min reached⟩, ?_⟩
  -- Were it further on, the word in front of it would already stand behind the end of the stream.
  by_contra beyond
  cases found : Nat.find reached with
  | zero =>
      rw [found] at beyond
      simp [Word.byteLength] at beyond
  | succ earlier =>
      rw [found, Nat.succ_mul] at beyond
      have inRange : IsScalar ((ofStream stream).word (0 + earlier * Word.byteLength)) :=
        isScalar_word_of_length_le (by omega)
      exact Nat.find_min reached (by omega) inRange

/-- Drawing from what a position leaves of a stream runs the inner loop from there. -/
theorem samples_drawWord (stream : Bytes) (position : Nat) :
    (ofStream stream).Samples position (PrivateKey.drawWord (stream.drop position)).1
      (position + (PrivateKey.drawWord (stream.drop position)).2) := by
  -- Every refused word moves the position on, with what it leaves of the stream.
  generalize left : stream.drop position = rest
  fun_induction PrivateKey.drawWord rest generalizing position with
  | case1 rest accepted =>
      have inRange := PrivateKey.isScalar_nextWord accepted
      rw [← left, nextWord_drop] at inRange ⊢
      exact Samples.accept inRange
  | case2 rest refused word taken drawn induction =>
      rw [not_or, ← left, nextWord_drop] at refused
      have next : stream.drop (position + Word.byteLength) = rest.drop Word.byteLength := by
        rw [← left, List.drop_drop]
      have continued := induction (position + Word.byteLength) next
      rw [drawn, Nat.add_assoc] at continued
      exact Samples.redraw refused.2 continued

end RandomSource

namespace PrivateKey

open RandomSource

/-- The key generated from a finite stream that goes on with bytes 0x01 is the key of its first
aligned block of 32 bytes with a value in range, which starts before the end of the stream or right
behind it. The stream is read up to the end of this block, and the run of the two loops is the only
one, with one round of the outer one. -/
theorem draw_is_rejection_sampling (stream : Bytes) :
    ∃ (index : Nat) (key : PrivateKey),
      draw stream = .ok (key, 32 * (index + 1)) ∧
      key.scalar.toNat = ((ofStream stream).block (32 * index)).toNat ∧
      (1 ≤ key.scalar.toNat ∧ key.scalar.toNat < groupOrder) ∧
      (∀ earlier < index,
        ¬ (1 ≤ ((ofStream stream).block (32 * earlier)).toNat ∧
          ((ofStream stream).block (32 * earlier)).toNat < groupOrder)) ∧
      32 * index < stream.length + 32 ∧
      ∀ (rounds ending : Nat) (generated : PrivateKey),
        (ofStream stream).Generates 0 rounds generated ending ↔
          rounds = 1 ∧ generated = key ∧ ending = 32 * (index + 1) := by
  have aligned : ∀ count, 0 + count * Word.byteLength = 32 * count := by
    intro count
    rw [Nat.zero_add, Nat.mul_comm, Word.byteLength]
  rcases exists_isFirstInRange stream with ⟨index, first, bound⟩
  rcases exists_draw stream with ⟨key, drawn, scalar⟩
  have sampled := (samples_iff first).mp (samples_drawWord stream 0)
  rw [List.drop_zero, ← scalar, aligned, aligned, Nat.zero_add] at sampled
  rcases sampled with ⟨word, taken⟩
  refine ⟨index, key, ?_, ?_, key.isScalar_scalar, ?_, ?_, ?_⟩
  · rw [drawn, taken]
  · rw [word, toNat_word]
  · intro earlier before
    have refused := first.refused earlier before
    rwa [aligned, IsScalar, toNat_word] at refused
  · rwa [Nat.mul_comm, Word.byteLength] at bound
  · intro rounds ending generated
    rw [generates_iff, samples_iff first, aligned, aligned, ← word, scalar_injective.eq_iff]

/-- The first block is too large, and the second one is cut off after one byte. -/
example : (drawWord (List.replicate 33 0xFF)).2 = 64 := by
  decide +kernel

end PrivateKey

end BitcoinKeys
