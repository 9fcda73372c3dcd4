import BitcoinKeys.Proofs.Der
import BitcoinKeys.Proofs.Positional.Reading

/-! # Strict DER by position

The decoder of signatures over positions in the whole byte string. What has been checked up to a
position keeps the next ones in bounds, so that it never ends in a fault and is the decoder that
takes one part after the other. -/

namespace BitcoinKeys.Positional

open Secp256k1

/-! ## The positional decoder -/

def checkSequence (bytes : Bytes) : Reading Der.Error Unit :=
  if bytes.length < Der.minimumLength then throw (.tooShort bytes.length)
  else do
    let tag ← byteAt bytes 0
    if tag ≠ Der.sequenceTag then throw (.wrongSequenceTag tag)
    else
      let declared ← byteAt bytes 1
      let remaining ← difference bytes.length 2
      if declared.toNat ≠ remaining then throw (.lengthMismatch declared.toNat remaining)
      else return ()

/-- The content of the first integer and the position behind it. -/
def firstContent (bytes : Bytes) : Reading Der.Error (Bytes × Nat) := do
  let tag ← byteAt bytes 2
  if tag ≠ Der.integerTag then throw (.missingMarker .r)
  else
    let length ← byteAt bytes 3
    let available ← difference bytes.length 7
    if length.toNat = 0 ∨ available < length.toNat then throw (.invalidLength .r length.toNat)
    else
      let content ← range bytes 4 (4 + length.toNat)
      return (content, 4 + length.toNat)

/-- The length of the second integer. Its content is behind the length byte, within the string. -/
def secondLength (bytes : Bytes) (position : Nat) : Reading Der.Error Nat :=
  match bytes[position + 1]? with
  | some length =>
      if position + 2 ≤ bytes.length then return length.toNat else throw (.invalidLength .s 0)
  | none => throw (.invalidLength .s 0)

/-- The content of the second integer, which begins at a position and is the last one. -/
def secondContent (bytes : Bytes) (position : Nat) : Reading Der.Error Bytes :=
  if bytes[position]? ≠ some Der.integerTag then throw (.missingMarker .s)
  else do
    let length ← secondLength bytes position
    let remaining ← difference bytes.length (position + 2)
    if length = 0 ∨ remaining < length then throw (.invalidLength .s length)
    else if length < remaining then
      let count ← difference remaining length
      throw (.trailingBytes count)
    else range bytes (position + 2) (position + 2 + length)

def checkInteger (component : Der.Component) (content : Bytes) : Reading Der.Error Unit := do
  let first ← byteAt content 0
  if 0x80 ≤ first then throw (.negative component)
  else if 1 < content.length ∧ first = 0 then
    let second ← byteAt content 1
    if second < 0x80 then throw (.excessivelyPadded component) else return ()
  else return ()

def readScalar (component : Der.Component) (content : Bytes) : Reading Der.Error Word := do
  let significant ← range content (content.takeWhile (· == 0)).length content.length
  if Word.byteLength < significant.length then throw (.outOfRange component)
  else
    let value ← word significant
    if IsScalar value then return value else throw (.outOfRange component)

def decodeDer (bytes : Bytes) : Reading Der.Error (Word × Word) := do
  checkSequence bytes
  let (rContent, position) ← firstContent bytes
  checkInteger .r rContent
  let sContent ← secondContent bytes position
  checkInteger .s sContent
  let r ← readScalar .r rContent
  let s ← readScalar .s sContent
  return (r, s)

/-! ## Contents of integers -/

theorem checkInteger_eq (component : Der.Component) {content : Bytes} (nonempty : content ≠ []) :
    checkInteger component content = settle (Der.checkInteger component content) := by
  rcases List.exists_cons_of_ne_nil nonempty with ⟨first, rest, rfl⟩
  unfold Der.checkInteger
  split
  case isTrue signed =>
    rw [checkInteger, byteAt_zero, pure_bind, if_pos (of_decide_eq_true signed)]
    rfl
  case isFalse unsigned =>
    have positive : ¬ 0x80 ≤ first := fun signed => unsigned (decide_eq_true signed)
    split
    case h_1 second tail equal =>
      cases equal
      have next : (byteAt (0 :: second :: tail) 1 : Reading Der.Error UInt8) = pure second := rfl
      have long : 1 < (0 :: second :: tail).length := by simp
      rw [checkInteger, byteAt_zero, pure_bind, if_neg positive, if_pos ⟨long, rfl⟩, next,
        pure_bind]
      exact (apply_ite settle _ _ _).symm
    case h_2 other =>
      have unpadded : ¬ (1 < (first :: rest).length ∧ first = 0) := by
        intro padded
        cases rest with
        | nil => exact Nat.lt_irrefl 1 padded.1
        | cons second tail => exact other second tail (by rw [padded.2])
      rw [checkInteger, byteAt_zero, pure_bind, if_neg positive, if_neg unpadded]
      rfl

/-- Without content there is no first byte to look at. -/
example : checkInteger .r [] = fail (.position 0 0) := rfl

theorem drop_length_takeWhile (bytes : Bytes) :
    bytes.drop (bytes.takeWhile (· == 0)).length = bytes.significant := by
  have parts : bytes.takeWhile (· == 0) ++ bytes.significant = bytes :=
    List.takeWhile_append_dropWhile
  have behind : (bytes.takeWhile (· == 0) ++ bytes.significant).drop
      (bytes.takeWhile (· == 0)).length = bytes.significant := List.drop_left
  rwa [parts] at behind

theorem readScalar_eq (component : Der.Component) (content : Bytes) :
    readScalar component content = settle (Der.readScalar component content) := by
  rw [readScalar, range_length (List.takeWhile_sublist _).length_le, drop_length_takeWhile,
    pure_bind, Der.readScalar, Der.scalarValue?]
  by_cases fits : content.significant.length ≤ Word.byteLength
  · rw [if_neg (Nat.not_lt.mpr fits), word_eq fits, pure_bind, dif_pos fits]
    by_cases inRange : IsScalar (Word.ofBytes content.significant fits)
    · simp only [if_pos inRange, settle_ok]
    · simp only [if_neg inRange, settle_error]
  · rw [if_pos (Nat.not_le.mp fits), dif_neg fits]
    rfl

/-! ## The parts of a signature -/

theorem checkSequence_of_short {bytes : Bytes} (short : bytes.length < Der.minimumLength) :
    checkSequence bytes = throw (.tooShort bytes.length) :=
  if_pos short

theorem exists_of_minimumLength_le {bytes : Bytes} (long : Der.minimumLength ≤ bytes.length) :
    ∃ tag declared marker length rest,
      bytes = tag :: declared :: marker :: length :: rest ∧ 4 ≤ rest.length := by
  match bytes, long with
  | tag :: declared :: marker :: length :: rest, long =>
      refine ⟨tag, declared, marker, length, rest, rfl, ?_⟩
      simpa [Der.minimumLength] using long

section Parts

variable {tag declared marker length : UInt8} {rest : Bytes}

theorem checkSequence_eq {content : Bytes} (enough : 6 ≤ content.length) :
    checkSequence (tag :: declared :: content) =
      settle (Der.openSequence (tag :: declared :: content)) >>= fun _ => pure () := by
  have long : ¬ (tag :: declared :: content).length < Der.minimumLength := by
    simp [Der.minimumLength]
    omega
  have second : (byteAt (tag :: declared :: content) 1 : Reading Der.Error UInt8) =
      pure declared := rfl
  have remaining : (difference (tag :: declared :: content).length 2 : Reading Der.Error Nat) =
      pure content.length := difference_eq (by simp)
  rw [checkSequence, if_neg long, byteAt_zero, pure_bind, second, pure_bind, remaining, pure_bind,
    Der.openSequence]
  by_cases tagged : tag = Der.sequenceTag
  · by_cases agrees : declared.toNat = content.length
    · simp [tagged, agrees]
    · simp [tagged, agrees]
  · simp [tagged]

theorem takeInteger_bind (component : Der.Component) (reserve : Nat) {α : Type}
    (next : Bytes × Bytes → Reading Der.Error α) :
    settle (Der.takeInteger component reserve (marker :: length :: rest)) >>= next =
      if marker ≠ Der.integerTag then throw (.missingMarker component)
      else if length.toNat = 0 ∨ rest.length < length.toNat + reserve then
        throw (.invalidLength component length.toNat)
      else next (rest.take length.toNat, rest.drop length.toNat) := by
  have zero : length = 0 ↔ length.toNat = 0 := by
    rw [← UInt8.toNat_inj, UInt8.toNat_zero]
  rw [Der.takeInteger]
  simp only [zero]
  split
  case isTrue => rfl
  case isFalse =>
    split
    case isTrue => rfl
    case isFalse => rfl

/-- The first integer is read behind the two bytes of the sequence and its own two bytes. Of the
seven bytes that are left out of its bound, three are those of the smallest second integer. -/
theorem firstContent_eq (enough : 4 ≤ rest.length) :
    firstContent (tag :: declared :: marker :: length :: rest) =
      settle (Der.takeInteger .r 3 (marker :: length :: rest)) >>= fun taken =>
        pure (taken.1, 4 + taken.1.length) := by
  have third : (byteAt (tag :: declared :: marker :: length :: rest) 2 : Reading Der.Error UInt8) =
      pure marker := rfl
  have fourth : (byteAt (tag :: declared :: marker :: length :: rest) 3 :
      Reading Der.Error UInt8) = pure length := rfl
  have available : (difference (tag :: declared :: marker :: length :: rest).length 7 :
      Reading Der.Error Nat) = pure (rest.length - 3) := difference_eq (by simp; omega)
  have refused : length.toNat = 0 ∨ rest.length - 3 < length.toNat ↔
      length.toNat = 0 ∨ rest.length < length.toNat + 3 := by omega
  rw [firstContent, third, pure_bind, fourth, pure_bind, available, pure_bind, takeInteger_bind]
  refine ite_congr rfl (fun _ => rfl) fun _ => ?_
  refine ite_congr (propext refused) (fun _ => rfl) fun accepted => ?_
  have inside : length.toNat ≤ rest.length := by omega
  have content : (range (tag :: declared :: marker :: length :: rest) 4 (4 + length.toNat) :
      Reading Der.Error Bytes) = pure (rest.take length.toNat) :=
    range_append [tag, declared, marker, length] inside
  rw [content, pure_bind, List.length_take_of_le inside]

theorem secondLength_append (front : Bytes) :
    secondLength (front ++ marker :: length :: rest) front.length = pure length.toNat := by
  simp [secondLength]

theorem header_append (front : Bytes) :
    let bytes := front ++ marker :: length :: rest
    bytes[front.length]? = some marker ∧ bytes[front.length + 1]? = some length ∧
      secondLength bytes front.length = pure length.toNat := by
  refine ⟨?_, ?_, secondLength_append front⟩
  · simp
  · simp

/-- Whatever stands behind the first integer, the second one is read in bounds. -/
theorem secondContent_eq (front : Bytes) :
    secondContent (front ++ rest) front.length =
      settle (Der.takeInteger .s 0 rest) >>= fun taken =>
        if taken.2.length ≠ 0 then throw (.trailingBytes taken.2.length) else pure taken.1 := by
  match rest with
  | [] => simp [secondContent, Der.takeInteger]
  | [marker] =>
      by_cases tagged : marker = Der.integerTag
      · simp [secondContent, secondLength, Der.takeInteger, tagged]
      · simp [secondContent, Der.takeInteger, tagged]
  | marker :: length :: rest =>
      have first : (front ++ marker :: length :: rest)[front.length]? = some marker := by simp
      have remaining : (difference (front ++ marker :: length :: rest).length (front.length + 2) :
          Reading Der.Error Nat) = pure rest.length := by
        rw [difference_eq (by simp), List.length_append, Nat.add_sub_add_left]
        rfl
      rw [secondContent, first, secondLength_append, pure_bind, remaining, pure_bind,
        takeInteger_bind, Nat.add_zero]
      refine ite_congr (by rw [ne_eq, Option.some_inj]) (fun _ => rfl) fun _ => ?_
      refine ite_congr rfl (fun _ => rfl) fun accepted => ?_
      have inside : length.toNat ≤ rest.length := by omega
      have content : (range (front ++ marker :: length :: rest) (front.length + 2)
          (front.length + 2 + length.toNat) : Reading Der.Error Bytes) =
            pure (rest.take length.toNat) := by
        have behind : (range _ _ _ : Reading Der.Error Bytes) = _ :=
          range_append (front ++ [marker, length]) inside
        rwa [List.length_append, List.append_assoc] at behind
      have count : (difference rest.length length.toNat : Reading Der.Error Nat) =
          pure (rest.length - length.toNat) := difference_eq inside
      have trailing : length.toNat < rest.length ↔ rest.length - length.toNat ≠ 0 := by omega
      rw [count, content, pure_bind, List.length_drop]
      exact ite_congr (propext trailing) (fun _ => rfl) fun _ => rfl

end Parts

/-- The two bytes of the second integer are in bounds whenever its position is come to. -/
theorem exists_secondHeader {bytes rContent : Bytes} {position : Nat}
    (first : (checkSequence bytes >>= fun _ => firstContent bytes) = pure (rContent, position)) :
    ∃ marker length : UInt8, bytes[position]? = some marker ∧
      bytes[position + 1]? = some length ∧ secondLength bytes position = pure length.toNat := by
  by_cases short : bytes.length < Der.minimumLength
  case pos =>
    rw [checkSequence_of_short short] at first
    cases first
  case neg =>
    rcases exists_of_minimumLength_le (Nat.not_lt.mp short) with
      ⟨tag, declared, marker, length, rest, rfl, enough⟩
    have content : 6 ≤ (marker :: length :: rest).length := Nat.add_le_add_right enough 2
    rw [checkSequence_eq content, firstContent_eq enough] at first
    cases opened : Der.openSequence (tag :: declared :: marker :: length :: rest) with
    | error error =>
        rw [opened] at first
        cases first
    | ok content =>
        cases taken : Der.takeInteger .r 3 (marker :: length :: rest) with
        | error error =>
            rw [opened, taken] at first
            cases first
        | ok parts =>
            rw [opened, taken] at first
            cases first
            rcases parts with ⟨rContent, tail⟩
            rcases Der.takeInteger_leaves_header taken with ⟨second, size, behind, rfl⟩
            have written := (Der.takeInteger_eq_ok_iff.mp taken).1
            cases (List.cons.inj (List.cons.inj written).2).2
            have position : 4 + rContent.length =
                (tag :: declared :: marker :: length :: rContent).length := Nat.add_comm _ _
            have header := @header_append second size behind
              (tag :: declared :: marker :: length :: rContent)
            rw [← position] at header
            exact ⟨second, size, header⟩

/-! ## Signatures -/

/-- What is left when both integers are split off. -/
theorem readScalars_eq (rContent : Bytes) {sContent : Bytes} (nonempty : sContent ≠ []) :
    (do
      checkInteger .s sContent
      let r ← readScalar .r rContent
      let s ← readScalar .s sContent
      return (r, s)) = settle (do
        Der.checkInteger .s sContent
        let r ← Der.readScalar .r rContent
        let s ← Der.readScalar .s sContent
        return (r, s)) := by
  simp only [settle_bind, checkInteger_eq .s nonempty, readScalar_eq]
  rfl

/-- What is left behind the first integer. -/
theorem finish_eq (front rest rContent : Bytes) :
    (do
      let sContent ← secondContent (front ++ rest) front.length
      checkInteger .s sContent
      let r ← readScalar .r rContent
      let s ← readScalar .s sContent
      return (r, s)) = settle (do
        let (sContent, rest) ← Der.takeInteger .s 0 rest
        if rest.length ≠ 0 then throw (.trailingBytes rest.length)
        Der.checkInteger .s sContent
        let r ← Der.readScalar .r rContent
        let s ← Der.readScalar .s sContent
        return (r, s)) := by
  rw [secondContent_eq, bind_assoc]
  cases taken : Der.takeInteger .s 0 rest with
  | error error => rfl
  | ok parts =>
      rcases parts with ⟨sContent, trailing⟩
      have nonempty := (Der.takeInteger_eq_ok_iff.mp taken).2.1
      simp only [settle_ok, pure_bind, ok_bind]
      by_cases exhausted : trailing.length = 0
      · rw [if_neg (not_not_intro exhausted), if_neg (not_not_intro exhausted), pure_bind]
        exact readScalars_eq rContent nonempty
      · rw [if_pos exhausted, if_pos exhausted]
        rfl

/-- Every position that the decoder looks at is in bounds, whatever the bytes are. -/
theorem decodeDer_eq (bytes : Bytes) : decodeDer bytes = settle (Der.decode bytes) := by
  by_cases short : bytes.length < Der.minimumLength
  case pos =>
    rw [Der.decode, decodeDer, checkSequence_of_short short, if_pos short]
    rfl
  case neg =>
    rcases exists_of_minimumLength_le (Nat.not_lt.mp short) with
      ⟨tag, declared, marker, length, rest, rfl, enough⟩
    have content : 6 ≤ (marker :: length :: rest).length := Nat.add_le_add_right enough 2
    rw [Der.decode, if_neg short, decodeDer, checkSequence_eq content, firstContent_eq enough]
    cases opened : Der.openSequence (tag :: declared :: marker :: length :: rest) with
    | error error => rfl
    | ok content =>
        have sequence := (Der.openSequence_eq_ok_iff.mp opened).1
        cases (List.cons.inj (List.cons.inj sequence).2).2
        simp only [settle_ok, pure_bind, ok_bind, bind_assoc]
        cases taken : Der.takeInteger .r 3 (marker :: length :: rest) with
        | error error => rfl
        | ok parts =>
            rcases parts with ⟨rContent, tail⟩
            rcases Der.takeInteger_eq_ok_iff.mp taken with ⟨written, nonempty, _⟩
            cases (List.cons.inj (List.cons.inj written).2).2
            have position : 4 + rContent.length =
                (tag :: declared :: marker :: length :: rContent).length := Nat.add_comm _ _
            simp only [settle_ok, pure_bind, ok_bind, checkInteger_eq .r nonempty, position]
            rw [settle_bind]
            apply bind_congr
            intro _
            exact finish_eq (tag :: declared :: marker :: length :: rContent) tail rContent

end BitcoinKeys.Positional
