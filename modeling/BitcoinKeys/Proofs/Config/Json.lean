import BitcoinKeys.Config.Json
import BitcoinKeys.Proofs.Json.Values
import BitcoinKeys.Proofs.Config.Environment
import BitcoinKeys.Proofs.Service.Batches

/-! # Configuration as JSON

A configuration is read back from the object that it is written as, in any order of the members and
with any white space. Reading does not validate, and so a batch size of zero is read as well. -/

namespace BitcoinKeys.Config

open Json

/-! ## Order of the members -/

section

variable {left right : List (Option String × Json)} (perm : left.Perm right)

include perm

theorem member?_of_perm (name : String) : member? name left = member? name right := by
  have filtered := perm.filter fun member => member.1 = some name
  unfold member?
  generalize left.filter _ = leftFound at filtered ⊢
  generalize right.filter _ = rightFound at filtered ⊢
  match leftFound, rightFound, filtered with
  | [], _, filtered => rw [List.nil_perm.mp filtered]
  | [_], _, filtered => rw [List.singleton_perm.mp filtered]
  | _ :: _ :: _, _ :: _ :: _, _ => rfl
  | _ :: _ :: _, [_], filtered | _ :: _ :: _, [], filtered => cases filtered.length_eq

theorem ofValue?_of_perm : ofValue? (.object left) = ofValue? (.object right) := by
  simp only [ofValue?, member?_of_perm perm, perm.all_eq]

end

/-! ## Members -/

/-- The members that a configuration is written as, in the order in which they are written. -/
def members (config : Config) : List (Option String × Json) := [
  (some "network", .string (some config.network.name)),
  (some "compressed_addresses", .bool config.compressedAddresses),
  (some "max_batch_size", .number (some config.maxBatchSize.toNat))]

theorem ofValue?_members (config : Config) : ofValue? (.object config.members) = some config := by
  rcases config with ⟨network, compressedAddresses, size⟩
  have networkRead : networkOfName? network.name = some network := by
    cases network with
    | mainnet => rfl
    | testnet => rfl
  have sizeRead : sizeOf? (.number (some size.toNat)) = some size := by
    rw [sizeOf?, if_pos size.toNat_lt_size, UInt64.ofNat_toNat]
  change ofValues? (.string (some network.name)) (.bool compressedAddresses)
    (.number (some size.toNat)) = _
  rw [ofValues?, networkOf?, boolOf?, networkRead, sizeRead]
  rfl

/-! ## Texts -/

theorem toList_toJson (config : Config) :
    config.toJson.toList =
      ['{'] ++ (quoted "network" ++ ([':'] ++ (quoted config.network.name ++
        ([','] ++ (quoted "compressed_addresses" ++ ([':'] ++
          ((boolJson config.compressedAddresses).toList ++
        ([','] ++ (quoted "max_batch_size" ++ ([':'] ++
          ((Numeral.decimal config.maxBatchSize.toNat).toList ++ ['}']))))))))))) := by
  have first : "\x7b\"network\":".toList = ['{'] ++ (quoted "network" ++ [':']) := by
    decide +kernel
  have name : (networkJson config.network).toList = quoted config.network.name := by
    rw [networkJson, String.toList_append, String.toList_append, List.append_assoc]
    rfl
  have second : ",\"compressed_addresses\":".toList =
      [','] ++ (quoted "compressed_addresses" ++ [':']) := by
    decide +kernel
  have third : ",\"max_batch_size\":".toList =
      [','] ++ (quoted "max_batch_size" ++ [':']) := by
    decide +kernel
  have closing : "\x7d".toList = ['}'] := rfl
  -- the equation of `toJson` takes seconds to be made, its unfolding no time
  delta toJson
  simp only [String.toList_append, first, name, second, third, closing, List.append_assoc]

theorem writes_boolJson (value : Bool) : Writes (boolJson value).toList (.bool value) := by
  cases value with
  | true => exact .true
  | false => exact .false

theorem isPlainText_name (network : Network) : IsPlainText network.name := by
  cases network with
  | mainnet => decide +kernel
  | testnet => decide +kernel

theorem writesSpaced_member {name : String} {chars rest : List Char} {token : Token}
    {tokens : List Token} (plain : IsPlainText name) (written : Writes chars token)
    (spaced : WritesSpaced rest tokens) :
    WritesSpaced (quoted name ++ ([':'] ++ (chars ++ rest)))
      (.string (some name) :: .colon :: token :: tokens) :=
  .adjacent (.string plain) (.adjacent .colon (.adjacent written spaced))

/-- A configuration is written as the tokens of its members, with no white space. -/
theorem writesSpaced_toJson (config : Config) :
    WritesSpaced config.toJson.toList (Json.object config.members).toTokens := by
  rw [toList_toJson]
  apply WritesSpaced.adjacent .openObject
  apply writesSpaced_member (by decide +kernel) (.string (isPlainText_name config.network))
  apply WritesSpaced.adjacent .comma
  apply writesSpaced_member (by decide +kernel) (writes_boolJson config.compressedAddresses)
  apply WritesSpaced.adjacent .comma
  apply writesSpaced_member (by decide +kernel) (.number config.maxBatchSize.toNat)
  exact .adjacent .closeObject (.nil (List.forall_mem_nil _))

theorem ofJson?_of_writesSpaced {config : Config} {members : List (Option String × Json)}
    {text : String} (perm : members.Perm config.members)
    (spaced : WritesSpaced text.toList (Json.object members).toTokens) :
    ofJson? text = some config := by
  rw [ofJson?, parse?_of_writesSpaced spaced]
  exact (ofValue?_of_perm perm).trans config.ofValue?_members

/-- A configuration is read back from what it is written as, which is a text of the tokens of its
members, and from any other such text, whatever the order of the members and the white space. What
is read is refused exactly for a batch size of zero, by validation and as a service. -/
theorem ofJson?_toJson_any_order (config : Config) :
    ofJson? config.toJson = some config ∧
    WritesSpaced config.toJson.toList (Json.object config.members).toTokens ∧
    (∀ (members : List (Option String × Json)) (text : String),
      members.Perm config.members →
        WritesSpaced text.toList (Json.object members).toTokens → ofJson? text = some config) ∧
    (∀ error, config.validate = .error error ↔
      config.maxBatchSize = 0 ∧ error = .zeroBatchSize) ∧
    ∀ error, Service.ofConfig config = .error error ↔
      config.maxBatchSize = 0 ∧ error = .zeroBatchSize := by
  have written := config.writesSpaced_toJson
  refine ⟨ofJson?_of_writesSpaced (.refl _) written, written, ?_, ?_, ?_⟩
  · intro members text perm spaced
    exact ofJson?_of_writesSpaced perm spaced
  · intro error
    exact validate_eq_error_iff
  · intro error
    rw [Service.ofConfig]
    split
    case isTrue zero => simp [zero, eq_comm]
    case isFalse nonzero => simp [nonzero]

/-- A batch size of zero is read in front of the other members and among white space of all kinds,
and refused only then. -/
theorem ofJson?_toJson_any_order_run :
    let config : Config := ⟨.testnet, false, 0⟩
    let text := "\x7b \"max_batch_size\" :\t0,\r\n" ++
      "\"network\":\"testnet\",\"compressed_addresses\": false\x7d\n"
    ∃ members : List (Option String × Json), members.Perm config.members ∧
      WritesSpaced text.toList (Json.object members).toTokens ∧
      ofJson? text = some config ∧ config.validate = .error .zeroBatchSize := by
  intro config text
  let reordered := config.members.drop 2 ++ config.members.take 2
  have perm : reordered.Perm config.members := by
    have rotated : reordered.Perm (config.members.take 2 ++ config.members.drop 2) :=
      List.perm_append_comm
    rwa [List.take_append_drop] at rotated
  have spelled : text.toList =
      [] ++ (['{'] ++ ([' '] ++ (quoted "max_batch_size" ++ ([' '] ++ ([':'] ++
        (['\t'] ++ ((Numeral.decimal 0).toList ++ ([] ++ ([','] ++ (['\r', '\n'] ++
      (quoted "network" ++ ([] ++ ([':'] ++ ([] ++ (quoted "testnet" ++ ([] ++ ([','] ++ ([] ++
      (quoted "compressed_addresses" ++ ([] ++ ([':'] ++ ([' '] ++ ("false".toList ++
        ([] ++ (['}'] ++ ['\n']))))))))))))))))))))))))) := by
    decide +kernel
  have spaced : WritesSpaced text.toList (Json.object reordered).toTokens := by
    rw [spelled]
    refine .cons (by decide) .openObject (.cons (by decide) (.string (by decide +kernel)) ?_)
    refine .cons (by decide) .colon (.cons (by decide) (.number 0) ?_)
    refine .cons (by decide) .comma (.cons (by decide) (.string (by decide +kernel)) ?_)
    refine .cons (by decide) .colon (.cons (by decide) (.string (isPlainText_name .testnet)) ?_)
    refine .cons (by decide) .comma (.cons (by decide) (.string (by decide +kernel)) ?_)
    refine .cons (by decide) .colon (.cons (by decide) .false ?_)
    exact .cons (by decide) .closeObject (.nil (by decide))
  rcases ofJson?_toJson_any_order config with ⟨_, _, read, refused, _⟩
  exact ⟨reordered, perm, spaced, read reordered text perm spaced, (refused _).mpr ⟨rfl, rfl⟩⟩

end BitcoinKeys.Config
