import BitcoinKeys.Network
import BitcoinKeys.Proofs.Text.Lowercase

/-! # Names of networks

Each network has three names, of ASCII letters and digits. Of the ASCII letters only `k` is by
itself the lowercase form of a character outside ASCII, and no name has a `k`. So a text names a
network exactly if it is, without the blanks around it, a case variant of one of the names. -/

namespace BitcoinKeys.Network

def names : Network → List String
  | .mainnet => ["mainnet", "main", "bitcoin"]
  | .testnet => ["testnet", "test", "testnet3"]

theorem isPlainName_of_mem_names {network : Network} {name : String}
    (member : name ∈ network.names) : Text.IsPlainName name := by
  have every : ∀ name ∈ network.names, Text.IsPlainName name := by
    cases network <;> decide
  exact every name member

theorem eq_of_mem_names {left right : Network} {name : String} (leftMember : name ∈ left.names)
    (rightMember : name ∈ right.names) : left = right := by
  have apart : ∀ name ∈ mainnet.names, name ∉ testnet.names := by decide
  cases left with
  | mainnet =>
      cases right with
      | mainnet => rfl
      | testnet => exact absurd rightMember (apart name leftMember)
  | testnet =>
      cases right with
      | mainnet => exact absurd leftMember (apart name rightMember)
      | testnet => rfl

theorem lowercase_mem_names_iff {text : String} {network : Network} :
    Text.lowercase text ∈ network.names ↔ ∃ name ∈ network.names, Text.IsCaseVariant text name := by
  constructor
  · intro member
    exact ⟨_, member, (Text.lowercase_eq_iff (isPlainName_of_mem_names member)).mp rfl⟩
  · intro named
    rcases named with ⟨name, member, variant⟩
    rwa [(Text.lowercase_eq_iff (isPlainName_of_mem_names member)).mpr variant]

/-! ## Parsing -/

theorem parse_eq (text : String) :
    parse text =
      let name := Text.lowercase (Text.trim text)
      if name ∈ mainnet.names then .ok .mainnet
      else if name ∈ testnet.names then .ok .testnet
      else .error ⟨name⟩ := rfl

theorem parse_eq_ok_iff_mem {text : String} {network : Network} :
    parse text = .ok network ↔ Text.lowercase (Text.trim text) ∈ network.names := by
  rw [parse_eq]
  generalize Text.lowercase (Text.trim text) = name
  dsimp only
  split
  case isTrue main =>
    rw [Except.ok.injEq]
    exact ⟨fun equal => equal ▸ main, eq_of_mem_names main⟩
  case isFalse notMain =>
    split
    case isTrue test =>
      rw [Except.ok.injEq]
      exact ⟨fun equal => equal ▸ test, eq_of_mem_names test⟩
    case isFalse notTest =>
      cases network with
      | mainnet => simp [notMain]
      | testnet => simp [notTest]

theorem parse_eq_ok_iff {text : String} {network : Network} :
    parse text = .ok network ↔
      ∃ name ∈ network.names, Text.IsCaseVariant (Text.trim text) name := by
  rw [parse_eq_ok_iff_mem, lowercase_mem_names_iff]

/-- A text that names no network is reported in lowercase and without the blanks around it. -/
theorem parse_eq_error_iff {text : String} {unknown : UnknownName} :
    parse text = .error unknown ↔
      (∀ network, parse text ≠ .ok network) ∧ unknown = ⟨Text.lowercase (Text.trim text)⟩ := by
  rw [parse_eq]
  generalize Text.lowercase (Text.trim text) = name
  dsimp only
  split
  case isTrue => simp
  case isFalse =>
    split
    case isTrue => simp
    case isFalse => simp [eq_comm]

/-- A text names a network exactly if it is, up to the blanks around it, a case variant of one of
the names of the network, and every other text is refused. The lowercase form of a text with a
character outside ASCII is no name of a network. -/
theorem parse_ascii_names :
    (∀ (text : String) (network : Network),
      parse text = .ok network ↔
        ∃ name ∈ network.names, Text.IsCaseVariant (Text.trim text) name) ∧
    (∀ (text : String) (unknown : UnknownName),
      parse text = .error unknown ↔
        (¬ ∃ network, ∃ name ∈ names network, Text.IsCaseVariant (Text.trim text) name) ∧
          unknown = ⟨Text.lowercase (Text.trim text)⟩) ∧
    ∀ (text : String) (char : Char) (network : Network),
      char ∈ text.toList → 0x80 ≤ char.toNat → Text.lowercase text ∉ network.names := by
  refine ⟨?_, ?_, ?_⟩
  · intro text network
    exact parse_eq_ok_iff
  · intro text unknown
    rw [parse_eq_error_iff, not_exists]
    simp only [ne_eq, parse_eq_ok_iff]
  · intro text char network member high named
    rcases lowercase_mem_names_iff.mp named with ⟨name, nameMember, variant⟩
    have ascii := variant.ascii (isPlainName_of_mem_names nameMember) char member
    exact absurd high (Nat.not_le_of_lt ascii)

/-- The lowercase form of a capital I with a dot is an `i` with a dot above, and not the `i` of a
name. -/
theorem parse_ascii_names_run :
    'İ' ∈ "maİn".toList ∧ 0x80 ≤ 'İ'.toNat ∧ Text.lowercase "maİn" ∉ mainnet.names ∧
      parse " MaIn\n" = .ok .mainnet ∧ ¬ parse "maİn" = .ok .mainnet := by
  rcases parse_ascii_names with ⟨accepted, _, outside⟩
  have member : 'İ' ∈ "maİn".toList := by decide
  have high : 0x80 ≤ 'İ'.toNat := by decide
  have unnamed := outside "maİn" 'İ' .mainnet member high
  refine ⟨member, high, unnamed, ?_, ?_⟩
  · apply (accepted " MaIn\n" .mainnet).mpr
    exact ⟨"main", by decide, rfl⟩
  · rw [parse_eq_ok_iff_mem]
    exact unnamed

end BitcoinKeys.Network
