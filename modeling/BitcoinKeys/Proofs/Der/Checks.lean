import BitcoinKeys.Proofs.Positional.Der
import BitcoinKeys.Proofs.Signature

/-! # The checks of strict DER

The format as a list of checks in a fixed order, each of which looks at bytes of the whole string by
their positions. The decoder reports the first check that does not hold, whatever the ones behind it
say, and takes the values of the two integers if all of them hold.
-/

namespace BitcoinKeys.Der

open Secp256k1

/-! ## Lists of checks -/

/-- A check, and what is reported if it does not hold. -/
structure Check where
  holds : Bool
  failure : Error

def firstFailure? (checks : List Check) : Option Error :=
  (checks.find? fun check => !check.holds).map Check.failure

/-- Goes through checks up to the first one that does not hold. -/
def run (checks : List Check) : Except Error Unit :=
  match firstFailure? checks with
  | some failure => .error failure
  | none => .ok ()

theorem run_cons (check : Check) (checks : List Check) :
    run (check :: checks) = if check.holds then run checks else .error check.failure := by
  rcases check with ⟨_ | _, failure⟩
  · rfl
  · rfl

theorem run_append (front back : List Check) :
    run (front ++ back) = run front >>= fun _ => run back := by
  induction front with
  | nil => rfl
  | cons check front induction =>
      rw [List.cons_append, run_cons, run_cons, induction]
      split
      case isTrue => rfl
      case isFalse => rfl

section

variable {condition : Prop} [Decidable condition] {failure : Error}

theorem run_cons_of_eq_ok_iff {checks : List Check} :
    run (⟨condition, failure⟩ :: checks) = .ok () ↔ condition ∧ run checks = .ok () := by
  rw [run_cons]
  by_cases holds : condition
  · simp [holds]
  · simp [holds]

variable (condition failure)

theorem run_cons_of (checks : List Check) :
    run (⟨condition, failure⟩ :: checks) = if condition then run checks else .error failure := by
  simp only [run_cons, decide_eq_true_eq]

theorem run_singleton_of :
    run [⟨condition, failure⟩] = if condition then .ok () else .error failure :=
  run_cons_of condition failure []

end

theorem run_bind {α : Type} (checks : List Check) (next : Except Error α) :
    (run checks >>= fun _ => next) =
      match firstFailure? checks with
      | some failure => .error failure
      | none => next := by
  unfold run
  cases firstFailure? checks with
  | none => rfl
  | some failure => rfl

theorem exists_of_run_eq_error {checks : List Check} {failure : Error}
    (failed : run checks = .error failure) :
    ∃ check ∈ checks, check.holds = false ∧ check.failure = failure := by
  induction checks with
  | nil => cases failed
  | cons check checks induction =>
      rw [run_cons] at failed
      split at failed
      case isTrue =>
        rcases induction failed with ⟨other, member, violated⟩
        exact ⟨other, List.mem_cons_of_mem check member, violated⟩
      case isFalse violated =>
        cases failed
        exact ⟨check, List.mem_cons_self, Bool.eq_false_iff.mpr violated, rfl⟩

theorem run_eq_ok_of_forall_ne {front back : List Check} {failure : Error}
    (failed : run (front ++ back) = .error failure)
    (others : ∀ check ∈ front, check.failure ≠ failure) : run front = .ok () := by
  rw [run_append] at failed
  cases passed : run front with
  | ok _ => rfl
  | error first =>
      rw [passed] at failed
      cases failed
      rcases exists_of_run_eq_error passed with ⟨check, member, _, reported⟩
      exact absurd reported (others check member)

/-! ## The checks of a signature -/

/-- The byte at a position; zero stands for the bytes behind the end, which no check comes to. -/
def byteAt (bytes : Bytes) (position : Nat) : UInt8 :=
  bytes.getD position 0

/-- The length byte of the integer that begins at a position. -/
def lengthAt (bytes : Bytes) (position : Nat) : Nat :=
  (byteAt bytes (position + 1)).toNat

/-- The content of the integer that begins at a position. -/
def contentAt (bytes : Bytes) (position : Nat) : Bytes :=
  (bytes.drop (position + 2)).take (lengthAt bytes position)

/-- Where the second integer begins, behind the two bytes of the sequence and the first integer. -/
def secondPosition (bytes : Bytes) : Nat :=
  4 + lengthAt bytes 2

/-- The number of bytes behind the length byte of the integer that begins at a position. -/
def bytesLeft (bytes : Bytes) (position : Nat) : Nat :=
  bytes.length - (position + 2)

def sequenceChecks (bytes : Bytes) : List Check := [
  ⟨8 ≤ bytes.length, .tooShort bytes.length⟩,
  ⟨byteAt bytes 0 = 0x30, .wrongSequenceTag (byteAt bytes 0)⟩,
  ⟨(byteAt bytes 1).toNat = bytes.length - 2,
    .lengthMismatch (byteAt bytes 1).toNat (bytes.length - 2)⟩]

/-- The tag of an integer, and a length that is not zero and not above a bound. -/
def headerChecks (component : Component) (bytes : Bytes) (position bound : Nat) : List Check := [
  ⟨byteAt bytes position = 0x02, .missingMarker component⟩,
  ⟨0 < lengthAt bytes position ∧ lengthAt bytes position ≤ bound,
    .invalidLength component (lengthAt bytes position)⟩]

def contentChecks (component : Component) (content : Bytes) : List Check := [
  ⟨byteAt content 0 < 0x80, .negative component⟩,
  ⟨¬ (1 < content.length ∧ byteAt content 0 = 0 ∧ byteAt content 1 < 0x80),
    .excessivelyPadded component⟩]

def rangeCheck (component : Component) (content : Bytes) : Check :=
  ⟨1 ≤ content.toNat ∧ content.toNat < groupOrder, .outOfRange component⟩

/-- The first integer leaves the seven bytes of the sequence, of its own header and of the smallest
second integer. -/
def firstChecks (bytes : Bytes) : List Check :=
  headerChecks .r bytes 2 (bytes.length - 7) ++ contentChecks .r (contentAt bytes 2)

def secondChecks (bytes : Bytes) (position : Nat) : List Check :=
  headerChecks .s bytes position (bytesLeft bytes position) ++
    [⟨bytesLeft bytes position ≤ lengthAt bytes position,
      .trailingBytes (bytesLeft bytes position - lengthAt bytes position)⟩] ++
    contentChecks .s (contentAt bytes position)

def checks (bytes : Bytes) : List Check :=
  sequenceChecks bytes ++ firstChecks bytes ++ secondChecks bytes (secondPosition bytes) ++
    [rangeCheck .r (contentAt bytes 2), rangeCheck .s (contentAt bytes (secondPosition bytes))]

/-- The value of a content, which is not cut down if the range check holds. -/
def scalarOf (content : Bytes) : Word :=
  BitVec.ofNat 256 content.toNat

def scalars (bytes : Bytes) : Word × Word :=
  (scalarOf (contentAt bytes 2), scalarOf (contentAt bytes (secondPosition bytes)))

/-! ## The parts of the decoder as checks -/

theorem byteAt_eq {bytes : Bytes} {position : Nat} (inside : position < bytes.length) :
    byteAt bytes position = bytes[position] := by
  rw [byteAt, List.getD_eq_getElem?_getD, List.getElem?_eq_getElem inside, Option.getD_some]

theorem drop_eq_byteAt {bytes : Bytes} {position : Nat} (inside : position + 2 ≤ bytes.length) :
    bytes.drop position =
      byteAt bytes position :: byteAt bytes (position + 1) :: bytes.drop (position + 2) := by
  have first : position < bytes.length := by omega
  have second : position + 1 < bytes.length := by omega
  rw [List.drop_eq_getElem_cons first, List.drop_eq_getElem_cons second, byteAt_eq first,
    byteAt_eq second]

theorem openSequence_eq_run {bytes : Bytes} (long : 8 ≤ bytes.length) :
    openSequence bytes = run (sequenceChecks bytes) >>= fun _ => .ok (bytes.drop 2) := by
  have parts : bytes = byteAt bytes 0 :: byteAt bytes 1 :: bytes.drop 2 :=
    @drop_eq_byteAt bytes 0 (by omega)
  have opened : openSequence bytes =
      openSequence (byteAt bytes 0 :: byteAt bytes 1 :: bytes.drop 2) := by
    rw [← parts]
  rw [opened, openSequence, sequenceChecks, run_cons_of, if_pos long, run_cons_of, run_singleton_of,
    List.length_drop]
  by_cases tagged : byteAt bytes 0 = 0x30
  · by_cases agrees : (byteAt bytes 1).toNat = bytes.length - 2
    · simp [tagged, agrees, sequenceTag]
    · simp [tagged, agrees, sequenceTag]
  · simp [tagged, sequenceTag]

theorem takeInteger_eq_run (component : Component) (reserve : Nat) {bytes : Bytes} {position : Nat}
    (inside : position + 2 ≤ bytes.length) :
    takeInteger component reserve (bytes.drop position) =
      run (headerChecks component bytes position (bytesLeft bytes position - reserve)) >>= fun _ =>
        .ok (contentAt bytes position, bytes.drop (position + 2 + lengthAt bytes position)) := by
  have zero : byteAt bytes (position + 1) = 0 ↔ lengthAt bytes position = 0 := by
    rw [lengthAt, ← UInt8.toNat_inj, UInt8.toNat_zero]
  have refused : byteAt bytes (position + 1) = 0 ∨
        bytes.length - (position + 2) < lengthAt bytes position + reserve ↔
      ¬ (0 < lengthAt bytes position ∧
        lengthAt bytes position ≤ bytesLeft bytes position - reserve) := by
    rw [zero, bytesLeft]
    omega
  rw [drop_eq_byteAt inside, takeInteger, headerChecks, run_cons_of, run_singleton_of,
    List.length_drop]
  by_cases tagged : byteAt bytes position = integerTag
  · rw [if_neg (not_not_intro tagged), if_pos (show byteAt bytes position = 0x02 from tagged)]
    by_cases fits : 0 < lengthAt bytes position ∧
        lengthAt bytes position ≤ bytesLeft bytes position - reserve
    · have behind : (bytes.drop (position + 2)).drop (lengthAt bytes position) =
          bytes.drop (position + 2 + lengthAt bytes position) := List.drop_drop
      rw [if_pos fits, ← behind]
      exact if_neg fun refusal => refused.mp refusal fits
    · rw [if_neg fits]
      exact if_pos (refused.mpr fits)
  · rw [if_pos tagged, if_neg (show ¬ byteAt bytes position = 0x02 from tagged)]
    rfl

theorem checkInteger_eq_run (component : Component) (content : Bytes) :
    checkInteger component content = run (contentChecks component content) := by
  rw [contentChecks, run_cons_of, run_singleton_of]
  match content with
  | [] => rfl
  | [first] =>
      by_cases signed : 0x80 ≤ first
      · simp [checkInteger, hasSignBit, byteAt, signed, UInt8.not_lt.mpr signed]
      · simp [checkInteger, hasSignBit, byteAt, signed, UInt8.not_le.mp signed]
  | first :: next :: rest =>
      by_cases signed : 0x80 ≤ first
      · simp [checkInteger, hasSignBit, byteAt, signed, UInt8.not_lt.mpr signed]
      · by_cases zero : first = 0
        · by_cases small : next < 0x80
          · simp [checkInteger, hasSignBit, byteAt, zero, small]
          · simp [checkInteger, hasSignBit, byteAt, zero, UInt8.not_lt.mp small]
        · simp [checkInteger, hasSignBit, byteAt, signed, UInt8.not_le.mp signed, zero]

theorem readScalar_eq_run (component : Component) (content : Bytes) :
    readScalar component content =
      run [rangeCheck component content] >>= fun _ => .ok (scalarOf content) := by
  rw [readScalar, rangeCheck, run_singleton_of]
  by_cases inRange : 1 ≤ content.toNat ∧ content.toNat < groupOrder
  · rw [scalarValue?_of_inRange inRange, if_pos inRange]
    rfl
  · rw [scalarValue?_eq_none_iff.mpr inRange, if_neg inRange]
    rfl

/-! ## The decoder as checks -/

theorem le_length_of_run_headerChecks {bytes : Bytes} (long : 8 ≤ bytes.length)
    (passed : run (headerChecks .r bytes 2 (bytes.length - 7)) = .ok ()) :
    secondPosition bytes + 3 ≤ bytes.length := by
  have tagged := run_cons_of_eq_ok_iff.mp passed
  have fits := (run_cons_of_eq_ok_iff.mp tagged.2).1
  rw [secondPosition]
  omega

/-- What is left of the decoder behind the first integer. -/
theorem finish_eq_run {bytes : Bytes} {position : Nat} (inside : position + 2 ≤ bytes.length)
    (rContent : Bytes) :
    (do
      let (sContent, rest) ← takeInteger .s 0 (bytes.drop position)
      if rest.length ≠ 0 then throw (.trailingBytes rest.length)
      checkInteger .s sContent
      let r ← readScalar .r rContent
      let s ← readScalar .s sContent
      return (r, s)) =
      run (secondChecks bytes position ++
          [rangeCheck .r rContent, rangeCheck .s (contentAt bytes position)]) >>= fun _ =>
        .ok (scalarOf rContent, scalarOf (contentAt bytes position)) := by
  have count : (bytes.drop (position + 2 + lengthAt bytes position)).length =
      bytesLeft bytes position - lengthAt bytes position := by
    rw [List.length_drop, bytesLeft]
    omega
  have exhausted : bytesLeft bytes position - lengthAt bytes position ≠ 0 ↔
      ¬ bytesLeft bytes position ≤ lengthAt bytes position := by omega
  rw [takeInteger_eq_run .s 0 inside, Nat.sub_zero, secondChecks, List.append_assoc,
    List.append_assoc, run_append, run_append, run_append, run_singleton_of, bind_assoc, bind_assoc]
  cases run (headerChecks .s bytes position (bytesLeft bytes position)) with
  | error failure => rfl
  | ok _ =>
      simp only [ok_bind, count, checkInteger_eq_run, readScalar_eq_run, bind_assoc]
      by_cases fits : bytesLeft bytes position ≤ lengthAt bytes position
      · have spent : ¬ (bytesLeft bytes position - lengthAt bytes position ≠ 0) :=
          fun left => exhausted.mp left fits
        have ranges : run [rangeCheck .r rContent, rangeCheck .s (contentAt bytes position)] =
            run [rangeCheck .r rContent] >>= fun _ =>
              run [rangeCheck .s (contentAt bytes position)] := run_append [_] [_]
        rw [if_pos fits, if_neg spent, ok_bind, ranges, bind_assoc]
        rfl
      · rw [if_neg fits, if_pos (exhausted.mpr fits)]
        rfl

theorem decode_eq_run (bytes : Bytes) :
    decode bytes = run (checks bytes) >>= fun _ => .ok (scalars bytes) := by
  by_cases long : 8 ≤ bytes.length
  case neg =>
    rw [decode, minimumLength, if_pos (Nat.not_le.mp long), checks, sequenceChecks,
      List.cons_append, List.cons_append, List.cons_append, run_cons_of, if_neg long]
    rfl
  case pos =>
    have enough : bytesLeft bytes 2 - 3 = bytes.length - 7 := by
      rw [bytesLeft]
      omega
    have behind : bytes.drop (2 + 2 + lengthAt bytes 2) = bytes.drop (secondPosition bytes) := rfl
    rw [decode, minimumLength, if_neg (Nat.not_lt.mpr long), openSequence_eq_run long, checks,
      firstChecks, List.append_assoc, List.append_assoc, List.append_assoc, run_append, run_append,
      run_append]
    simp only [bind_assoc, ok_bind]
    rw [takeInteger_eq_run .r 3 (show 2 + 2 ≤ bytes.length by omega), enough, behind]
    cases run (sequenceChecks bytes) with
    | error failure => rfl
    | ok _ =>
        cases headed : run (headerChecks .r bytes 2 (bytes.length - 7)) with
        | error failure => rfl
        | ok _ =>
            have enough := le_length_of_run_headerChecks long headed
            have inside : secondPosition bytes + 2 ≤ bytes.length := Nat.le_of_succ_le enough
            simp only [ok_bind]
            rw [checkInteger_eq_run .r]
            apply bind_congr
            intro _
            exact finish_eq_run inside (contentAt bytes 2)

/-! ## The length of the second integer -/

theorem length_of_decode_eq_error {bytes : Bytes} {count : Nat}
    (refused : decode bytes = .error (.invalidLength .s count)) :
    secondPosition bytes + 3 ≤ bytes.length ∧ lengthAt bytes (secondPosition bytes) = count := by
  have failed : run (checks bytes) = .error (.invalidLength .s count) := by
    rw [decode_eq_run] at refused
    rcases bind_eq_error_iff.mp refused with failed | read
    · exact failed
    · rcases read with ⟨_, _, ⟨⟩⟩
  constructor
  · have others : ∀ check ∈ sequenceChecks bytes ++ firstChecks bytes,
        check.failure ≠ .invalidLength .s count := by
      simp [sequenceChecks, firstChecks, headerChecks, contentChecks]
    rw [checks, List.append_assoc] at failed
    have passed := run_eq_ok_of_forall_ne failed others
    rw [run_append, bind_eq_ok_iff] at passed
    rcases passed with ⟨⟨⟩, opened, passed⟩
    rw [firstChecks, run_append, bind_eq_ok_iff] at passed
    rcases passed with ⟨⟨⟩, headed, _⟩
    exact le_length_of_run_headerChecks (run_cons_of_eq_ok_iff.mp opened).1 headed
  · have only : ∀ check ∈ checks bytes, check.failure = .invalidLength .s count →
        lengthAt bytes (secondPosition bytes) = count := by
      simp [checks, sequenceChecks, firstChecks, secondChecks, headerChecks, contentChecks,
        rangeCheck]
    rcases exists_of_run_eq_error failed with ⟨check, member, _, reported⟩
    exact only check member reported

end BitcoinKeys.Der

namespace BitcoinKeys.Signature

open Der

/-- Strict DER refuses a byte string for the first of its checks that does not hold, in the order
of `Der.checks` and with what that check reports, and accepts it if they all hold. The tag and the
length of the second integer are always there to be checked, so that a length of zero is reported
only where a byte is zero. -/
theorem ofDer_reports_first_failure :
    (∀ bytes : Bytes,
      (ofDer (.raw bytes)).result =
        match firstFailure? (checks bytes) with
        | some failure => .error (.invalidEncoding (.der failure))
        | none => .ok { r := (scalars bytes).1, s := (scalars bytes).2 }) ∧
    (∀ content rContent rest : Bytes, takeInteger .r 3 content = .ok (rContent, rest) →
      ∃ marker length tail, rest = marker :: length :: tail) ∧
    (∀ (bytes rContent : Bytes) (position : Nat),
      (Positional.checkSequence bytes >>= fun _ => Positional.firstContent bytes) =
        pure (rContent, position) →
      ∃ marker length : UInt8, bytes[position]? = some marker ∧
        bytes[position + 1]? = some length ∧
        Positional.secondLength bytes position = pure length.toNat) ∧
    ∀ (bytes : Bytes) (count : Nat),
      (ofDer (.raw bytes)).result = .error (.invalidEncoding (.der (.invalidLength .s count))) →
      ∃ length : UInt8, bytes[secondPosition bytes + 1]? = some length ∧ length.toNat = count := by
  refine ⟨?_, fun _ _ _ => takeInteger_leaves_header, fun _ _ _ => Positional.exists_secondHeader,
    ?_⟩
  · intro bytes
    change (ofDerBytes bytes).result = _
    rw [result_ofDerBytes, decode_eq_run, run_bind]
    cases firstFailure? (checks bytes) with
    | none => rfl
    | some failure => rfl
  · intro bytes count refused
    have decoded := result_ofDerBytes_eq_error_iff.mp refused
    rcases length_of_decode_eq_error decoded with ⟨inside, reported⟩
    have bound : secondPosition bytes + 1 < bytes.length := by omega
    refine ⟨bytes[secondPosition bytes + 1], List.getElem?_eq_getElem bound, ?_⟩
    rwa [← byteAt_eq bound]

/-- The length byte of the second integer is there, and zero. -/
theorem ofDer_reports_first_failure_run :
    let bytes : Bytes := [0x30, 0x06, 0x02, 0x01, 0x01, 0x02, 0x00, 0x02]
    (ofDer (.raw bytes)).result = .error (.invalidEncoding (.der (.invalidLength .s 0))) ∧
      (∃ marker length tail, ([0x02, 0x00, 0x02] : Bytes) = marker :: length :: tail) ∧
      (∃ marker length : UInt8, bytes[5]? = some marker ∧ bytes[6]? = some length ∧
        Positional.secondLength bytes 5 = pure length.toNat) ∧
      ∃ length : UInt8, bytes[6]? = some length ∧ length.toNat = 0 := by
  intro bytes
  rcases ofDer_reports_first_failure with ⟨outcome, front, header, literal⟩
  have refused : (ofDer (.raw bytes)).result =
      .error (.invalidEncoding (.der (.invalidLength .s 0))) := outcome bytes
  refine ⟨refused, ?_, header bytes [0x01] 5 rfl, literal bytes 0 refused⟩
  exact front [0x02, 0x01, 0x01, 0x02, 0x00, 0x02] [0x01] [0x02, 0x00, 0x02] rfl

end BitcoinKeys.Signature
