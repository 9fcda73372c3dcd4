import BitcoinKeys.Json.Token

/-!
# The tokens of a text

Every token takes at least one character, so that cutting a text into tokens ends.
-/

namespace BitcoinKeys.Json

theorem length_of_readPieces {chars rest : List Char} {pieces : List Piece}
    (read : readPieces chars = some (pieces, rest)) : rest.length < chars.length := by
  fun_induction readPieces chars generalizing pieces rest with
  | case1 => cases read
  | case2 tail =>
      cases read
      simp
  | case3 a b c d tail induction =>
      simp only [Option.bind_eq_bind, Option.bind_eq_some_iff] at read
      rcases read with ⟨code, _, ⟨inner, after⟩, readTail, equal⟩
      cases equal
      have shorter := induction readTail
      simp only [List.length_cons]
      omega
  | case4 letter tail _ induction =>
      simp only [Option.bind_eq_bind, Option.bind_eq_some_iff] at read
      rcases read with ⟨char, _, ⟨inner, after⟩, readTail, equal⟩
      cases equal
      have shorter := induction readTail
      simp only [List.length_cons]
      omega
  | case5 => cases read
  | case6 char tail _ _ _ _ induction =>
      simp only [Option.bind_eq_bind, Option.bind_eq_some_iff] at read
      rcases read with ⟨⟨inner, after⟩, readTail, equal⟩
      cases equal
      have shorter := induction readTail
      simp only [List.length_cons]
      omega

theorem length_dropWhile_le (keep : Char → Bool) (chars : List Char) :
    (chars.dropWhile keep).length ≤ chars.length :=
  (List.dropWhile_sublist keep).length_le

theorem length_of_dropDigits {chars rest : List Char} (dropped : dropDigits chars = some rest) :
    rest.length ≤ chars.length := by
  cases chars with
  | nil => cases dropped
  | cons char tail =>
      simp only [dropDigits] at dropped
      split at dropped
      · cases dropped
        exact Nat.le_succ_of_le (length_dropWhile_le _ _)
      · cases dropped

theorem length_dropSign_le (chars : List Char) : (dropSign chars).length ≤ chars.length := by
  fun_cases dropSign chars <;> simp

theorem length_of_dropFraction {chars rest : List Char}
    (dropped : dropFraction chars = some rest) : rest.length ≤ chars.length := by
  fun_cases dropFraction chars with
  | case1 tail => exact Nat.le_succ_of_le (length_of_dropDigits dropped)
  | case2 => simp_all [dropFraction]

theorem length_of_dropExponent {chars rest : List Char}
    (dropped : dropExponent chars = some rest) : rest.length ≤ chars.length := by
  fun_cases dropExponent chars with
  | case1 tail | case2 tail =>
      exact Nat.le_succ_of_le
        (Nat.le_trans (length_of_dropDigits dropped) (length_dropSign_le tail))
  | case3 => simp_all [dropExponent]

theorem length_of_readWhole {chars rest : List Char} {whole : Nat}
    (read : readWhole chars = some (whole, rest)) : rest.length < chars.length := by
  cases chars with
  | nil => cases read
  | cons char tail =>
      simp only [readWhole] at read
      split at read
      · cases read
        exact Nat.lt_succ_self _
      · split at read
        · cases read
          exact Nat.lt_succ_of_le (length_dropWhile_le _ _)
        · cases read

theorem length_of_readNumber {chars rest : List Char} {natural? : Option Nat}
    (read : readNumber chars = some (natural?, rest)) : rest.length < chars.length := by
  fun_cases readNumber chars with
  | case1 unsigned =>
      simp only [readNumber, Option.bind_eq_bind, Option.bind_eq_some_iff] at read
      rcases read with ⟨⟨whole, front⟩, readFront, middle, fraction, last, exponent, equal⟩
      cases equal
      have first := length_of_readWhole readFront
      have second : middle.length ≤ front.length := length_of_dropFraction fraction
      have third := length_of_dropExponent exponent
      simp only [List.length_cons]
      omega
  | case2 =>
      rw [readNumber] at read
      · simp only [Option.bind_eq_bind, Option.bind_eq_some_iff] at read
        rcases read with ⟨⟨whole, front⟩, readFront, middle, fraction, last, exponent, equal⟩
        cases equal
        have first := length_of_readWhole readFront
        have second : middle.length ≤ front.length := length_of_dropFraction fraction
        have third := length_of_dropExponent exponent
        omega
      · assumption

def tokens (chars : List Char) : Option (List Token) :=
  match chars with
  | [] => some []
  | '{' :: rest => (tokens rest).map (.openObject :: ·)
  | '}' :: rest => (tokens rest).map (.closeObject :: ·)
  | '[' :: rest => (tokens rest).map (.openArray :: ·)
  | ']' :: rest => (tokens rest).map (.closeArray :: ·)
  | ',' :: rest => (tokens rest).map (.comma :: ·)
  | ':' :: rest => (tokens rest).map (.colon :: ·)
  | 'n' :: 'u' :: 'l' :: 'l' :: rest => (tokens rest).map (.null :: ·)
  | 't' :: 'r' :: 'u' :: 'e' :: rest => (tokens rest).map (.bool true :: ·)
  | 'f' :: 'a' :: 'l' :: 's' :: 'e' :: rest => (tokens rest).map (.bool false :: ·)
  | '"' :: rest =>
      match _ : readPieces rest with
      | none => none
      | some (pieces, after) =>
          (tokens after).map (.string ((joinPieces pieces).map String.ofList) :: ·)
  | char :: rest =>
      if isSpace char then tokens rest
      else
        match _ : readNumber (char :: rest) with
        | none => none
        | some (natural?, after) => (tokens after).map (.number natural? :: ·)
termination_by chars.length
decreasing_by
  all_goals first
    | exact length_of_readNumber (by assumption)
    | exact Nat.lt_succ_of_lt (length_of_readPieces (by assumption))
    | simp only [List.length_cons]; omega

end BitcoinKeys.Json
