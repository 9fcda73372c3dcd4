import BitcoinKeys.Json.Lexer
import BitcoinKeys.Proofs.Numeral.Decimal
import Mathlib.Data.List.Chain

/-! # Texts of tokens

A token is written in one way, if it is a bracket, a word, a natural number or a string without
escapes. A text of tokens with any white space around and between them is cut into these tokens,
unless a number stands right behind another. -/

namespace BitcoinKeys.Json

/-! ## Writing -/

/-- Whether a character stands for itself in a string. -/
def IsPlain (char : Char) : Prop :=
  0x20 ≤ char.toNat ∧ char ≠ '"' ∧ char ≠ '\\'

instance (char : Char) : Decidable (IsPlain char) :=
  inferInstanceAs (Decidable (_ ∧ _))

/-- Whether a text needs no escapes in a string. -/
def IsPlainText (text : String) : Prop :=
  ∀ char ∈ text.toList, IsPlain char

-- goes over the characters of the text, where a search for an instance could go over all characters
instance (text : String) : Decidable (IsPlainText text) :=
  List.decidableBAll IsPlain text.toList

def quoted (text : String) : List Char :=
  '"' :: (text.toList ++ ['"'])

/-- The text of a token. -/
inductive Writes : List Char → Token → Prop
  | openObject : Writes ['{'] .openObject
  | closeObject : Writes ['}'] .closeObject
  | openArray : Writes ['['] .openArray
  | closeArray : Writes [']'] .closeArray
  | comma : Writes [','] .comma
  | colon : Writes [':'] .colon
  | null : Writes "null".toList .null
  | true : Writes "true".toList (.bool true)
  | false : Writes "false".toList (.bool false)
  | number (natural : Nat) : Writes (Numeral.decimal natural).toList (.number (some natural))
  | string {text : String} :
      IsPlainText text →
      Writes (quoted text) (.string (some text))

def IsBlank (space : List Char) : Prop :=
  ∀ char ∈ space, isSpace char = true

instance (space : List Char) : Decidable (IsBlank space) :=
  List.decidableBAll (isSpace · = true) space

/-- The texts of tokens, one after the other, with white space around and between them. -/
inductive WritesSpaced : List Char → List Token → Prop
  | nil {space} : IsBlank space → WritesSpaced space []
  | cons {space chars rest token tokens} :
      IsBlank space →
      Writes chars token →
      WritesSpaced rest tokens →
      WritesSpaced (space ++ (chars ++ rest)) (token :: tokens)

/-- A token may stand right in front of a text, with no white space between. -/
theorem WritesSpaced.adjacent {chars rest : List Char} {token : Token} {tokens : List Token}
    (written : Writes chars token) (spaced : WritesSpaced rest tokens) :
    WritesSpaced (chars ++ rest) (token :: tokens) :=
  .cons (List.forall_mem_nil _) written spaced

def Token.isNumber : Token → Bool
  | .number _ => true
  | _ => false

/-- Whether no number stands right behind another. -/
def IsSeparated (tokens : List Token) : Prop :=
  tokens.IsChain fun left right => left.isNumber = true → right.isNumber = false

/-! ## Strings -/

theorem readPieces_plain {chars : List Char} (plain : ∀ char ∈ chars, IsPlain char)
    (rest : List Char) :
    readPieces (chars ++ '"' :: rest) = some (chars.map .char, rest) := by
  induction chars with
  | nil => rw [List.nil_append, readPieces, List.map_nil]
  | cons char chars induction =>
      rcases List.forall_mem_cons.mp plain with ⟨⟨printable, noQuote, noEscape⟩, plain⟩
      have refused : ¬ (char.toNat < 0x20 ∨ char = '\\') :=
        not_or_intro (Nat.not_lt.mpr printable) noEscape
      rw [List.cons_append, readPieces, if_neg refused, induction plain]
      · rfl
      all_goals simp [noQuote, noEscape]

theorem joinPieces_map_char (chars : List Char) :
    joinPieces (chars.map .char) = some chars := by
  induction chars with
  | nil => rfl
  | cons char chars induction =>
      rw [List.map_cons, joinPieces, induction]
      rfl

theorem tokens_string {text : String} (plain : IsPlainText text) (rest : List Char) :
    tokens (quoted text ++ rest) = (tokens rest).map (.string (some text) :: ·) := by
  have read := readPieces_plain plain rest
  rw [quoted, List.cons_append, List.append_assoc, List.singleton_append, tokens]
  split
  case h_1 unread =>
    rw [read] at unread
    cases unread
  case h_2 pieces after found =>
    rw [read] at found
    cases found
    rw [joinPieces_map_char, Option.map_some, String.ofList_toList]

/-! ## Numbers -/

def continuesNumber (char : Char) : Bool :=
  char.isDigit || char == '.' || char == 'e' || char == 'E'

/-- Whether a number ends in front of these characters. -/
def EndsNumber (rest : List Char) : Prop :=
  ∀ char ∈ rest.head?, continuesNumber char = false

theorem not_isDigit_of_ends {char : Char} {tail : List Char} (ends : EndsNumber (char :: tail)) :
    ¬ char.isDigit = true := by
  have stops := ends char rfl
  simp only [continuesNumber, Bool.or_eq_false_iff] at stops
  exact Bool.eq_false_iff.mp stops.1.1.1

section

variable {rest : List Char} (ends : EndsNumber rest)

include ends

theorem takeWhile_isDigit_of_ends : rest.takeWhile Char.isDigit = [] := by
  cases rest with
  | nil => rfl
  | cons char tail => exact List.takeWhile_cons_of_neg (not_isDigit_of_ends ends)

theorem dropWhile_isDigit_of_ends : rest.dropWhile Char.isDigit = rest := by
  cases rest with
  | nil => rfl
  | cons char tail => exact List.dropWhile_cons_of_neg (not_isDigit_of_ends ends)

theorem dropFraction_of_ends : dropFraction rest = some rest := by
  unfold dropFraction
  split
  case h_1 => cases ends '.' rfl
  case h_2 => rfl

theorem dropExponent_of_ends : dropExponent rest = some rest := by
  unfold dropExponent
  split
  case h_1 => cases ends 'e' rfl
  case h_2 => cases ends 'E' rfl
  case h_3 => rfl

end

theorem naturalOf_map_digitChar {digits : List Nat} (small : ∀ digit ∈ digits, digit < 10) :
    naturalOf (digits.map Nat.digitChar) = Numeral.value 10 digits := by
  have back : ∀ digit ∈ digits, (Nat.digitChar digit).toNat - '0'.toNat = digit := by
    intro digit member
    rw [Nat.toNat_digitChar_of_lt_ten (small digit member)]
    exact Nat.add_sub_cancel_left 48 digit
  rw [naturalOf, List.map_map]
  exact congrArg _ ((List.map_congr_left back).trans (List.map_id _))

theorem isDigit_digitChar_of_lt {digit : Nat} (small : digit < 10) :
    (Nat.digitChar digit).isDigit = true := by
  rw [Nat.isDigit_digitChar]
  exact decide_eq_true small

theorem readWhole_decimal {rest : List Char} (ends : EndsNumber rest) (number : Nat) :
    readWhole ((Numeral.decimal number).toList ++ rest) = some (number, rest) := by
  by_cases zero : number = 0
  · rw [zero, Numeral.toList_decimal_zero]
    rfl
  · rcases Numeral.exists_toList_decimal zero with ⟨first, others, nonzero, small, value, written⟩
    have digits : ∀ char ∈ others.map Nat.digitChar, char.isDigit = true := by
      intro char member
      rcases List.mem_map.mp member with ⟨digit, other, rfl⟩
      exact isDigit_digitChar_of_lt (small digit (List.mem_cons_of_mem first other))
    have firstSmall := small first List.mem_cons_self
    have noZero : Nat.digitChar first ≠ '0' := by
      intro equal
      have code := congrArg Char.toNat equal
      rw [Nat.toNat_digitChar_of_lt_ten firstSmall] at code
      exact nonzero (Nat.add_left_cancel code)
    rw [written, List.cons_append, readWhole, if_neg noZero,
      if_pos (isDigit_digitChar_of_lt firstSmall), List.takeWhile_append_of_pos digits,
      List.dropWhile_append_of_pos digits,
      takeWhile_isDigit_of_ends ends, dropWhile_isDigit_of_ends ends, List.append_nil,
      ← List.map_cons, naturalOf_map_digitChar small, value]

theorem exists_decimal_eq_cons (number : Nat) :
    ∃ char tail, (Numeral.decimal number).toList = char :: tail ∧ char.isDigit = true := by
  by_cases zero : number = 0
  · rw [zero, Numeral.toList_decimal_zero]
    exact ⟨'0', [], rfl, rfl⟩
  · rcases Numeral.exists_toList_decimal zero with ⟨first, others, _, small, _, written⟩
    exact ⟨_, _, written, isDigit_digitChar_of_lt (small first List.mem_cons_self)⟩

/-- A digit begins no other token, and is no space. -/
theorem tokens_of_readNumber {char : Char} {tail rest : List Char} {natural? : Option Nat}
    (digit : char.isDigit = true) (read : readNumber (char :: tail) = some (natural?, rest)) :
    tokens (char :: tail) = (tokens rest).map (.number natural? :: ·) := by
  have noSpace : ¬ isSpace char = true := by
    intro space
    simp only [isSpace, Bool.or_eq_true, beq_iff_eq] at space
    rcases space with ((rfl | rfl) | rfl) | rfl
    all_goals cases digit
  rw [tokens, if_neg noSpace]
  · split
    case h_1 unread =>
      rw [read] at unread
      cases unread
    case h_2 found =>
      rw [read] at found
      cases found
      rfl
  all_goals
    intros
    subst char
    cases digit

theorem readNumber_decimal {rest : List Char} (ends : EndsNumber rest) (number : Nat) :
    readNumber ((Numeral.decimal number).toList ++ rest) = some (some number, rest) := by
  have whole := readWhole_decimal ends number
  rcases exists_decimal_eq_cons number with ⟨char, tail, written, digit⟩
  rw [written, List.cons_append] at whole ⊢
  rw [readNumber, whole]
  · simp [dropFraction_of_ends ends, dropExponent_of_ends ends]
  · intro unsigned equal
    cases equal
    cases digit

theorem tokens_number {rest : List Char} (ends : EndsNumber rest) (number : Nat) :
    tokens ((Numeral.decimal number).toList ++ rest) =
      (tokens rest).map (.number (some number) :: ·) := by
  have read := readNumber_decimal ends number
  rcases exists_decimal_eq_cons number with ⟨char, tail, written, digit⟩
  rw [written, List.cons_append] at read ⊢
  exact tokens_of_readNumber digit read

/-! ## White space -/

theorem tokens_cons_of_isSpace {char : Char} (space : isSpace char = true) (rest : List Char) :
    tokens (char :: rest) = tokens rest := by
  have skipped := space
  simp only [isSpace, Bool.or_eq_true, beq_iff_eq] at space
  rcases space with ((rfl | rfl) | rfl) | rfl
  all_goals
    rw [tokens, if_pos skipped]
    all_goals simp

theorem tokens_blank_append {space : List Char} (blank : IsBlank space) (rest : List Char) :
    tokens (space ++ rest) = tokens rest := by
  induction space with
  | nil => rfl
  | cons char space induction =>
      rcases List.forall_mem_cons.mp blank with ⟨first, blank⟩
      rw [List.cons_append, tokens_cons_of_isSpace first, induction blank]

theorem endsNumber_cons_of_isSpace {char : Char} (space : isSpace char = true)
    (rest : List Char) : EndsNumber (char :: rest) := by
  simp only [isSpace, Bool.or_eq_true, beq_iff_eq] at space
  intro first member
  cases member
  rcases space with ((rfl | rfl) | rfl) | rfl
  all_goals rfl

/-! ## Texts of tokens -/

theorem tokens_append {chars rest : List Char} {token : Token} (written : Writes chars token)
    (ends : token.isNumber = true → EndsNumber rest) :
    tokens (chars ++ rest) = (tokens rest).map (token :: ·) := by
  cases written with
  | number natural => exact tokens_number (ends rfl) natural
  | string plain => exact tokens_string plain rest
  | null =>
      change tokens ('n' :: 'u' :: 'l' :: 'l' :: rest) = _
      rw [tokens]
  | true =>
      change tokens ('t' :: 'r' :: 'u' :: 'e' :: rest) = _
      rw [tokens]
  | false =>
      change tokens ('f' :: 'a' :: 'l' :: 's' :: 'e' :: rest) = _
      rw [tokens]
  | _ => rw [List.singleton_append, tokens]

/-- A number ends in front of any token that is not a number. -/
theorem endsNumber_append {chars : List Char} {token : Token} (written : Writes chars token)
    (other : token.isNumber = false) (rest : List Char) : EndsNumber (chars ++ rest) := by
  intro char member
  cases written with
  | number natural => cases other
  | _ =>
      cases member
      rfl

theorem endsNumber_of_writesSpaced {text : List Char} {written : List Token}
    (spaced : WritesSpaced text written)
    (other : ∀ token ∈ written.head?, token.isNumber = false) : EndsNumber text := by
  cases spaced with
  | nil blank =>
      cases text with
      | nil =>
          intro char member
          cases member
      | cons char space => exact endsNumber_cons_of_isSpace (blank char List.mem_cons_self) space
  | @cons space chars rest token tokens blank first following =>
      cases space with
      | nil => exact endsNumber_append first (other token rfl) rest
      | cons char space => exact endsNumber_cons_of_isSpace (blank char List.mem_cons_self) _

theorem tokens_of_writesSpaced {text : List Char} {written : List Token}
    (spaced : WritesSpaced text written) (separated : IsSeparated written) :
    tokens text = some written := by
  induction spaced with
  | @nil space blank =>
      have skipped := tokens_blank_append blank []
      rwa [List.append_nil, tokens] at skipped
  | @cons space chars rest token tokens blank first following induction =>
      rcases List.isChain_cons.mp separated with ⟨next, separated⟩
      have ends : token.isNumber = true → EndsNumber rest := by
        intro number
        apply endsNumber_of_writesSpaced following
        intro right member
        exact next right member number
      rw [tokens_blank_append blank, tokens_append first ends, induction separated]
      rfl

end BitcoinKeys.Json
