import BitcoinKeys.Json.Value
import BitcoinKeys.Proofs.Json.Tokens

/-! # Texts of values

A value is read back from its tokens, whatever it is nested in, and so from every text of them. -/

namespace BitcoinKeys.Json

/-! ## Tokens of values -/

mutual

def toTokens : Json → List Token
  | .null => [.null]
  | .bool value => [.bool value]
  | .number natural? => [.number natural?]
  | .string text? => [.string text?]
  | .array [] => [.openArray, .closeArray]
  | .array (item :: items) => .openArray :: (item.toTokens ++ itemTokens items)
  | .object [] => [.openObject, .closeObject]
  | .object ((name, value) :: members) =>
      .openObject :: .string name :: .colon :: (value.toTokens ++ memberTokens members)

/-- The tokens of an array behind its first item. -/
def itemTokens : List Json → List Token
  | [] => [.closeArray]
  | item :: items => .comma :: (item.toTokens ++ itemTokens items)

/-- The tokens of an object behind its first member. -/
def memberTokens : List (Option String × Json) → List Token
  | [] => [.closeObject]
  | (name, value) :: members =>
      .comma :: .string name :: .colon :: (value.toTokens ++ memberTokens members)

end

/-! ## Reading -/

namespace Reader

/-- No value begins with the end of an array. -/
theorem foldlM_needsItem (item : Json) (stack : List Frame) (rest : List Token) :
    (item.toTokens ++ rest).foldlM step (.needsItem stack) =
      (item.toTokens ++ rest).foldlM step (.needsValue (.array [] :: stack)) := by
  match item with
  | .null | .bool _ | .number _ | .string _ => rfl
  | .array [] | .array (_ :: _) | .object [] | .object (_ :: _) => rfl

mutual

theorem foldlM_toTokens (value : Json) (stack : List Frame) (rest : List Token) :
    (value.toTokens ++ rest).foldlM step (.needsValue stack) =
      rest.foldlM step (.finished stack value) := by
  match value with
  | .null | .bool _ | .number _ | .string _ | .array [] | .object [] => rfl
  | .array (item :: items) =>
      rw [toTokens, List.cons_append, List.append_assoc]
      change (item.toTokens ++ (itemTokens items ++ rest)).foldlM step (.needsItem stack) = _
      rw [foldlM_needsItem, foldlM_toTokens item, foldlM_itemTokens items]
      rfl
  | .object ((name, value) :: members) =>
      rw [toTokens, List.cons_append, List.cons_append, List.cons_append, List.append_assoc]
      change (value.toTokens ++ (memberTokens members ++ rest)).foldlM step
        (.needsValue (.object [] name :: stack)) = _
      rw [foldlM_toTokens value, foldlM_memberTokens members]
      rfl

theorem foldlM_itemTokens (items before : List Json) (item : Json) (stack : List Frame)
    (rest : List Token) :
    (itemTokens items ++ rest).foldlM step (.finished (.array before :: stack) item) =
      rest.foldlM step (.finished stack (.array (before ++ item :: items))) := by
  match items with
  | [] => rfl
  | next :: items =>
      rw [itemTokens, List.cons_append, List.append_assoc]
      change (next.toTokens ++ (itemTokens items ++ rest)).foldlM step
        (.needsValue (.array (before ++ [item]) :: stack)) = _
      rw [foldlM_toTokens next, foldlM_itemTokens items, List.append_assoc]
      rfl

theorem foldlM_memberTokens (members before : List (Option String × Json)) (name : Option String)
    (value : Json) (stack : List Frame) (rest : List Token) :
    (memberTokens members ++ rest).foldlM step (.finished (.object before name :: stack) value) =
      rest.foldlM step (.finished stack (.object (before ++ (name, value) :: members))) := by
  match members with
  | [] => rfl
  | (nextName, next) :: members =>
      rw [memberTokens, List.cons_append, List.cons_append, List.cons_append, List.append_assoc]
      change (next.toTokens ++ (memberTokens members ++ rest)).foldlM step
        (.needsValue (.object (before ++ [(name, value)]) nextName :: stack)) = _
      rw [foldlM_toTokens next, foldlM_memberTokens members, List.append_assoc]
      rfl

end

theorem continueAfter_number (value : Json) (stack : List Frame) (natural? : Option Nat) :
    continueAfter value stack (.number natural?) = none := by
  cases stack with
  | nil => rfl
  | cons frame stack =>
      cases frame with
      | array items => rfl
      | object members name => rfl

/-- A number is a whole value, behind which no other number is read. -/
theorem exists_step_number {reader next : Reader} {natural? : Option Nat}
    (read : step reader (.number natural?) = some next) :
    ∃ stack, next = .finished stack (.number natural?) := by
  cases reader with
  | needsValue stack | needsItem stack =>
      cases read
      exact ⟨_, rfl⟩
  | finished stack value =>
      rw [step, continueAfter_number] at read
      cases read
  | _ => cases read

theorem isNumber_of_step {reader next last : Reader} {left right : Token}
    (first : step reader left = some next) (second : step next right = some last)
    (number : left.isNumber = true) : right.isNumber = false := by
  cases left with
  | number natural? =>
      rcases exists_step_number first with ⟨stack, rfl⟩
      cases right with
      | number other =>
          rw [step, continueAfter_number] at second
          cases second
      | _ => rfl
  | _ => cases number

/-- What the reader gets through holds no two numbers in a row. -/
theorem isSeparated_of_foldlM {written : List Token} {reader last : Reader}
    (read : written.foldlM step reader = some last) : IsSeparated written := by
  induction written generalizing reader with
  | nil => exact List.isChain_nil
  | cons token rest induction =>
      rw [List.foldlM_cons] at read
      rcases Option.bind_eq_some_iff.mp read with ⟨next, first, read⟩
      refine List.isChain_cons.mpr ⟨?_, induction read⟩
      intro right member number
      cases rest with
      | nil => cases member
      | cons other tail =>
          cases member
          rw [List.foldlM_cons] at read
          rcases Option.bind_eq_some_iff.mp read with ⟨_, second, _⟩
          exact isNumber_of_step first second number

end Reader

theorem ofTokens?_toTokens (value : Json) : ofTokens? value.toTokens = some value := by
  have read := Reader.foldlM_toTokens value [] []
  rw [List.append_nil] at read
  rw [ofTokens?, read]
  rfl

/-- A value is read from every text of its tokens, with any white space around and between them. -/
theorem parse?_of_writesSpaced {value : Json} {text : String}
    (spaced : WritesSpaced text.toList value.toTokens) : parse? text = some value := by
  have read := ofTokens?_toTokens value
  have separated : IsSeparated value.toTokens := by
    rcases Option.bind_eq_some_iff.mp read with ⟨last, read, _⟩
    exact Reader.isSeparated_of_foldlM read
  rw [parse?, tokens_of_writesSpaced spaced separated]
  exact read

end BitcoinKeys.Json
