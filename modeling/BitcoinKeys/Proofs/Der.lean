import BitcoinKeys.Der
import BitcoinKeys.Proofs.Bytes
import BitcoinKeys.Proofs.Outcome

/-! # Strict DER is canonical

Every part of the format is read in one way only: a part that is accepted is the encoding of what
was read from it. The sequence, its integers and their contents are taken one after the other, and
the decoder is put together from them. -/

namespace BitcoinKeys.Der

open Secp256k1

/-! ## Contents of integers -/

theorem integer_ne_nil (value : Word) : integer value ≠ [] := by
  unfold integer
  split
  case isTrue => exact List.cons_ne_nil _ _
  case isFalse => exact value.minimalBytes_ne_nil

theorem length_integer_le (value : Word) : (integer value).length ≤ 1 + Word.byteLength := by
  have minimal := value.length_minimalBytes_le
  unfold integer
  split
  case isTrue =>
    rw [List.length_cons]
    omega
  case isFalse => omega

@[simp]
theorem significant_integer (value : Word) :
    (integer value).significant = value.toBytes.significant := by
  unfold integer
  split
  case isTrue => rw [Bytes.significant_zero_cons, Word.significant_minimalBytes]
  case isFalse => exact Word.significant_minimalBytes value

theorem checkInteger_eq_ok_iff {component : Component} {content : Bytes} :
    checkInteger component content = .ok () ↔ hasSignBit content = false ∧
      ∀ next rest, content = 0 :: next :: rest → hasSignBit (next :: rest) = true := by
  unfold checkInteger
  split
  case isTrue signed => simp [signed]
  case isFalse unsigned =>
    split
    case h_1 next rest => simp [hasSignBit]
    case h_2 other =>
      refine ⟨fun _ => ⟨Bool.eq_false_iff.mpr unsigned, ?_⟩, fun _ => rfl⟩
      intro next rest equal
      exact absurd equal (other next rest)

theorem checkInteger_integer (component : Component) (value : Word) :
    checkInteger component (integer value) = .ok () := by
  apply checkInteger_eq_ok_iff.mpr
  unfold integer
  split
  case isTrue signed =>
    refine ⟨rfl, ?_⟩
    intro next rest equal
    rwa [(List.cons.inj equal).2] at signed
  case isFalse unsigned =>
    refine ⟨Bool.eq_false_iff.mpr unsigned, ?_⟩
    intro next rest minimal
    by_cases empty : value.toBytes.significant = []
    · rw [Word.minimalBytes_eq_zero empty] at minimal
      cases minimal
    · have equal := value.significant_minimalBytes
      have shorter := Bytes.length_significant_le (next :: rest)
      rw [← Word.minimalBytes_eq empty, minimal, Bytes.significant_zero_cons] at equal
      rw [equal] at shorter
      exact absurd shorter (Nat.not_succ_le_self _)

theorem scalarValue?_integer (value : Word) :
    scalarValue? (integer value) = if IsScalar value then some value else none := by
  have significant := significant_integer value
  unfold scalarValue?
  split
  case isTrue fits =>
    have word : Word.ofBytes (integer value).significant fits = value :=
      Word.ofBytes_eq fits ((Bytes.significant_significant _).trans significant)
    rw [word]
  case isFalse wide =>
    rw [significant] at wide
    exact absurd value.length_significant_toBytes_le wide

theorem scalarValue?_eq_some {content : Bytes} {value : Word}
    (read : scalarValue? content = some value) :
    IsScalar value ∧ value.toBytes.significant = content.significant := by
  unfold scalarValue? at read
  split at read
  case isTrue fits =>
    rcases Option.ite_none_right_eq_some.mp read with ⟨inRange, equal⟩
    cases equal
    rw [Word.significant_toBytes_ofBytes, Bytes.significant_significant]
    exact ⟨inRange, rfl⟩
  case isFalse => cases read

/-- Content of any length has a scalar for its value or is refused; no larger value is cut down. -/
theorem scalarValue?_eq_some_iff {content : Bytes} {value : Word} :
    scalarValue? content = some value ↔ IsScalar value ∧ value.toNat = content.toNat := by
  constructor
  · intro read
    rcases scalarValue?_eq_some read with ⟨inRange, significant⟩
    refine ⟨inRange, ?_⟩
    rw [← Word.toNat_toBytes, ← Bytes.toNat_significant, significant, Bytes.toNat_significant]
  · intro given
    rcases given with ⟨inRange, equal⟩
    have significant := Bytes.significant_eq_of_toNat_eq (value.toNat_toBytes.trans equal)
    have fits : content.significant.length ≤ Word.byteLength :=
      significant ▸ value.length_significant_toBytes_le
    have word : Word.ofBytes content.significant fits = value :=
      Word.ofBytes_eq fits ((Bytes.significant_significant content).trans significant.symm)
    rw [scalarValue?, dif_pos fits, word]
    exact if_pos inRange

/-- Content of any length is read if its value is in the range of scalars. -/
theorem scalarValue?_of_inRange {content : Bytes}
    (inRange : 1 ≤ content.toNat ∧ content.toNat < groupOrder) :
    scalarValue? content = some (BitVec.ofNat 256 content.toNat) := by
  have value : (BitVec.ofNat 256 content.toNat).toNat = content.toNat := by
    rw [BitVec.toNat_ofNat, Nat.mod_eq_of_lt (Nat.lt_of_lt_of_le inRange.2 (by decide))]
  apply scalarValue?_eq_some_iff.mpr
  rw [IsScalar, value]
  exact ⟨inRange, rfl⟩

theorem scalarValue?_eq_none_iff {content : Bytes} :
    scalarValue? content = none ↔ ¬ (1 ≤ content.toNat ∧ content.toNat < groupOrder) := by
  constructor
  · intro refused inRange
    rw [scalarValue?_of_inRange inRange] at refused
    cases refused
  · intro outside
    apply Option.eq_none_iff_forall_ne_some.mpr
    intro word read
    rcases scalarValue?_eq_some_iff.mp read with ⟨isScalar, equal⟩
    rw [IsScalar, equal] at isScalar
    exact outside isScalar

/-- The only content that passes the checks and has the significant bytes of a word is the one that
is written. -/
theorem eq_integer_of_significant {component : Component} {content : Bytes} {value : Word}
    (nonempty : content ≠ []) (checked : checkInteger component content = .ok ())
    (significant : value.toBytes.significant = content.significant) : content = integer value := by
  rcases checkInteger_eq_ok_iff.mp checked with ⟨unsigned, padded⟩
  cases content with
  | nil => exact absurd rfl nonempty
  | cons first rest =>
      by_cases zero : first = 0
      · cases zero
        cases rest with
        | nil =>
            rw [integer, Word.minimalBytes_eq_zero significant]
            rfl
        | cons next rest =>
            -- the zero byte is there for the sign of the next one, which is thus significant
            have signed := padded next rest rfl
            have nonzero : next ≠ 0 := by
              intro zero
              rw [zero] at signed
              cases signed
            rw [Bytes.significant_zero_cons, Bytes.significant_cons nonzero] at significant
            have minimal := Word.minimalBytes_eq (significant ▸ List.cons_ne_nil next rest)
            rw [integer, minimal, significant, if_pos signed]
      · rw [Bytes.significant_cons zero] at significant
        have minimal := Word.minimalBytes_eq (significant ▸ List.cons_ne_nil first rest)
        rw [integer, minimal, significant, if_neg (Bool.eq_false_iff.mp unsigned)]

theorem eq_integer {component : Component} {content : Bytes} {value : Word}
    (nonempty : content ≠ []) (checked : checkInteger component content = .ok ())
    (read : scalarValue? content = some value) : content = integer value :=
  eq_integer_of_significant nonempty checked (scalarValue?_eq_some read).2

theorem readScalar_eq_ok_iff {component : Component} {content : Bytes} {value : Word} :
    readScalar component content = .ok value ↔ scalarValue? content = some value := by
  unfold readScalar
  split
  case h_1 word read => rw [read, Except.ok.injEq, Option.some.injEq]
  case h_2 read => rw [read]; simp

theorem readScalar_integer (component : Component) (value : Word) :
    readScalar component (integer value) =
      if IsScalar value then .ok value else .error (.outOfRange component) := by
  rw [readScalar, scalarValue?_integer]
  by_cases inRange : IsScalar value
  · rw [if_pos inRange, if_pos inRange]
  · rw [if_neg inRange, if_neg inRange]

/-! ## Lengths -/

theorem toNat_ofNat_length {bytes : Bytes} (short : bytes.length < 256) :
    (UInt8.ofNat bytes.length).toNat = bytes.length :=
  UInt8.toNat_ofNat_of_lt short

/-- An integer is split off exactly if its length byte says where it ends. -/
theorem takeInteger_cons_eq_ok_iff {component : Component} {reserve : Nat} {tag length : UInt8}
    {tail content rest : Bytes} :
    takeInteger component reserve (tag :: length :: tail) = .ok (content, rest) ↔
      tag = integerTag ∧ length ≠ 0 ∧ content.length = length.toNat ∧ tail = content ++ rest ∧
        reserve ≤ rest.length := by
  rw [takeInteger]
  split
  case isTrue untagged => simp [untagged]
  case isFalse tagged =>
    split
    case isTrue wrong =>
      constructor
      · intro taken
        cases taken
      · intro written
        rcases written with ⟨_, nonzero, width, rfl, enough⟩
        rw [List.length_append] at wrong
        rcases wrong with zero | short
        · exact absurd zero nonzero
        · omega
    case isFalse fits =>
      rcases not_or.mp fits with ⟨nonzero, enough⟩
      constructor
      · intro taken
        cases taken
        rw [List.take_append_drop, List.length_take, List.length_drop]
        exact ⟨Decidable.not_not.mp tagged, nonzero, by omega, rfl, by omega⟩
      · intro written
        rcases written with ⟨_, _, width, rfl, _⟩
        rw [← width, List.take_left, List.drop_left]

theorem takeInteger_eq_ok_iff {component : Component} {reserve : Nat}
    {bytes content rest : Bytes} :
    takeInteger component reserve bytes = .ok (content, rest) ↔
      bytes = integerTag :: UInt8.ofNat content.length :: (content ++ rest) ∧
        content ≠ [] ∧ content.length < 256 ∧ reserve ≤ rest.length := by
  constructor
  · intro taken
    rcases bytes with _ | ⟨tag, _ | ⟨length, tail⟩⟩
    · cases taken
    · rw [takeInteger] at taken
      split at taken
      case isTrue => cases taken
      case isFalse => cases taken
    · rcases takeInteger_cons_eq_ok_iff.mp taken with ⟨rfl, nonzero, width, rfl, enough⟩
      rw [width, UInt8.ofNat_toNat]
      refine ⟨rfl, ?_, length.toNat_lt, enough⟩
      intro empty
      rw [empty] at width
      exact nonzero (UInt8.toNat.inj width.symm)
  · intro written
    rcases written with ⟨rfl, nonempty, short, enough⟩
    have width := toNat_ofNat_length short
    apply takeInteger_cons_eq_ok_iff.mpr
    refine ⟨rfl, ?_, width.symm, rfl, enough⟩
    intro zero
    rw [zero] at width
    exact nonempty (List.length_eq_zero_iff.mp width.symm)

/-- The two bytes of the second integer are there whenever the first integer is accepted. -/
theorem takeInteger_leaves_header {content rContent rest : Bytes}
    (taken : takeInteger .r 3 content = .ok (rContent, rest)) :
    ∃ marker length tail, rest = marker :: length :: tail := by
  have enough := (takeInteger_eq_ok_iff.mp taken).2.2.2
  match rest, enough with
  | marker :: length :: tail, _ => exact ⟨marker, length, tail, rfl⟩

theorem openSequence_eq_ok_iff {bytes content : Bytes} :
    openSequence bytes = .ok content ↔
      bytes = sequenceTag :: UInt8.ofNat content.length :: content ∧ content.length < 256 := by
  constructor
  · intro opened
    unfold openSequence at opened
    split at opened
    case h_1 tag declared tail =>
      split at opened
      case isTrue => cases opened
      case isFalse tagged =>
        split at opened
        case isTrue => cases opened
        case isFalse agrees =>
          cases opened
          rw [← Decidable.not_not.mp agrees, UInt8.ofNat_toNat, Decidable.not_not.mp tagged]
          exact ⟨rfl, declared.toNat_lt⟩
    case h_2 => cases opened
  · intro written
    rcases written with ⟨equal, short⟩
    rw [equal, openSequence, if_neg (not_not_intro rfl),
      if_neg (not_not_intro (toNat_ofNat_length short))]

/-! ## Signatures -/

theorem length_taggedInteger (value : Word) :
    (taggedInteger value).length = 2 + (integer value).length := by
  rw [taggedInteger, List.length_cons, List.length_cons]
  omega

theorem takeInteger_taggedInteger {component : Component} {reserve : Nat} (value : Word)
    {rest : Bytes} (enough : reserve ≤ rest.length) :
    takeInteger component reserve (taggedInteger value ++ rest) = .ok (integer value, rest) := by
  have short := length_integer_le value
  apply takeInteger_eq_ok_iff.mpr
  exact ⟨rfl, integer_ne_nil value, Nat.lt_of_le_of_lt short (by decide), enough⟩

/-- The encoding of two words is read up to the check that they are scalars. -/
theorem decode_encode (r s : Word) :
    decode (encode r s) =
      if IsScalar r then
        if IsScalar s then .ok (r, s) else .error (.outOfRange .s)
      else .error (.outOfRange .r) := by
  have rNonempty := List.length_pos_iff.mpr (integer_ne_nil r)
  have sNonempty := List.length_pos_iff.mpr (integer_ne_nil s)
  have rShort := length_integer_le r
  have sShort := length_integer_le s
  have content : (taggedInteger r ++ taggedInteger s).length =
      2 + (integer r).length + (2 + (integer s).length) := by
    rw [List.length_append, length_taggedInteger, length_taggedInteger]
  have long : ¬ (encode r s).length < minimumLength := by
    rw [encode, List.length_cons, List.length_cons, content, minimumLength]
    omega
  have opened : openSequence (encode r s) = .ok (taggedInteger r ++ taggedInteger s) := by
    apply openSequence_eq_ok_iff.mpr
    refine ⟨rfl, ?_⟩
    rw [content]
    rw [Word.byteLength] at rShort sShort
    omega
  have rTaken : takeInteger .r 3 (taggedInteger r ++ taggedInteger s) =
      .ok (integer r, taggedInteger s) := by
    apply takeInteger_taggedInteger
    rw [length_taggedInteger]
    omega
  have sTaken : takeInteger .s 0 (taggedInteger s) = .ok (integer s, []) := by
    rw [← List.append_nil (taggedInteger s)]
    exact takeInteger_taggedInteger s (Nat.zero_le _)
  rw [decode, if_neg long]
  simp only [opened, ok_bind, rTaken, checkInteger_integer, sTaken, List.length_nil,
    ne_eq, not_true_eq_false, if_false, readScalar_integer]
  by_cases rInRange : IsScalar r
  · by_cases sInRange : IsScalar s
    · simp only [if_pos rInRange, if_pos sInRange, ok_bind]
      rfl
    · simp only [if_pos rInRange, if_neg sInRange, ok_bind, error_bind]
  · simp only [if_neg rInRange, error_bind]

/-- Strict DER has one form for every pair of scalars, and no other forms. -/
theorem decode_eq_ok_iff {bytes : Bytes} {r s : Word} :
    decode bytes = .ok (r, s) ↔ bytes = encode r s ∧ IsScalar r ∧ IsScalar s := by
  constructor
  · intro decoded
    rw [decode] at decoded
    split at decoded
    case isTrue => cases decoded
    case isFalse =>
      simp only [bind_eq_ok_iff] at decoded
      rcases decoded with ⟨content, opened, ⟨rContent, rest⟩, rTaken, ⟨⟩, rChecked,
        ⟨sContent, trailing⟩, sTaken, decoded⟩
      split at decoded
      case isTrue => cases decoded
      case isFalse exhausted =>
        simp only [bind_eq_ok_iff] at decoded
        rcases decoded with ⟨⟨⟩, sChecked, rValue, rRead, sValue, sRead, equal⟩
        cases equal
        have empty : trailing = [] := List.length_eq_zero_iff.mp (Decidable.not_not.mp exhausted)
        rcases openSequence_eq_ok_iff.mp opened with ⟨sequence, _⟩
        rcases takeInteger_eq_ok_iff.mp rTaken with ⟨first, rNonempty, _⟩
        rcases takeInteger_eq_ok_iff.mp sTaken with ⟨second, sNonempty, _⟩
        change rest = _ at second
        have rValue := readScalar_eq_ok_iff.mp rRead
        have sValue := readScalar_eq_ok_iff.mp sRead
        rw [eq_integer rNonempty rChecked rValue] at first
        rw [empty, List.append_nil, eq_integer sNonempty sChecked sValue] at second
        refine ⟨?_, (scalarValue?_eq_some rValue).1, (scalarValue?_eq_some sValue).1⟩
        rw [sequence, first, second]
        rfl
  · intro written
    rcases written with ⟨equal, rInRange, sInRange⟩
    rw [equal, decode_encode, if_pos rInRange, if_pos sInRange]

end BitcoinKeys.Der
