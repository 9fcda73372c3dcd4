import BitcoinKeys.Config.Environment
import BitcoinKeys.Proofs.Numeral.Decimal
import BitcoinKeys.Proofs.Outcome
import BitcoinKeys.Proofs.Text.Lowercase

/-! # Configuration from the environment

What each variable means for the configuration, whether it is unset, no UTF-8, or any text. A
variable that cannot be read never makes the configuration fail. It fails for a batch size that can
be read, as zero. -/

namespace BitcoinKeys

namespace Setting

variable {α : Type}

/-- Whether a setting gives a value: the one that its text is read as, or the fallback if it has no
text or a text that cannot be read. -/
def Gives (setting : Setting) (Reads : String → α → Prop) (fallback value : α) : Prop :=
  (∃ text, setting = .text text ∧ Reads text value) ∨
    value = fallback ∧ ¬ ∃ text readable, setting = .text text ∧ Reads text readable

/-- What is reported of a setting under a key: a text that cannot be read, and nothing else. -/
inductive Reports (key : String) (setting : Setting) (Reads : String → α → Prop)
    (fallback : String) : List Event → Prop
  | nothing :
      (∀ text, setting = .text text → ∃ value, Reads text value) →
      Reports key setting Reads fallback []
  | ignored {text error} :
      setting = .text text →
      (¬ ∃ value, Reads text value) →
      Reports key setting Reads fallback [.ignoredSetting key text error fallback]

theorem text?_eq_some_iff {setting : Setting} {content : String} :
    setting.text? = some content ↔ setting = .text content := by
  cases setting with
  | unset => simp [text?]
  | undecodable => simp [text?]
  | text _ => simp [text?]

theorem Reports.level_eq_warn {key fallback : String} {setting : Setting}
    {Reads : String → α → Prop} {events : List Event}
    (reports : setting.Reports key Reads fallback events) :
    ∀ event ∈ events, event.level = .warn := by
  intro event member
  cases reports with
  | nothing => cases member
  | ignored =>
      rw [List.mem_singleton.mp member]
      rfl

end Setting

/-- Whether the batch size is set to one or more zeros, behind an optional plus sign. -/
def Environment.HasZeroBatchSize (environment : Environment) : Prop :=
  ∃ text count, environment.maxBatchSize = .text text ∧
    (text.toList = List.replicate (count + 1) '0' ∨
      text.toList = '+' :: List.replicate (count + 1) '0')

namespace Config

/-! ## Variables -/

section

variable {α : Type} {read : String → Except String α} {Reads : String → α → Prop}
variable (reads : ∀ text value, read text = .ok value ↔ Reads text value)
variable (key : String) (setting : Setting) (fallback : α) (shown : String)

include reads

theorem result_readSetting_eq_iff (value : α) :
    (readSetting key setting read fallback shown).result = value ↔
      setting.Gives Reads fallback value := by
  simp only [readSetting, Setting.Gives, ← Setting.text?_eq_some_iff]
  cases setting.text? with
  | none => simp [Logged.quiet, eq_comm]
  | some content =>
      simp only [Option.some.injEq, ← reads, exists_eq_left', exists_and_left]
      cases read content with
      | ok found => simp [Logged.quiet]
      | error error => simp [eq_comm]

theorem reports_readSetting :
    setting.Reports key Reads shown (readSetting key setting read fallback shown).events := by
  rw [readSetting]
  cases found : setting.text? with
  | none =>
      apply Setting.Reports.nothing
      intro text equal
      rw [Setting.text?_eq_some_iff.mpr equal] at found
      cases found
  | some content =>
      rw [Setting.text?_eq_some_iff] at found
      subst found
      dsimp only
      cases outcome : read content with
      | ok value =>
          apply Setting.Reports.nothing
          intro text equal
          cases equal
          exact ⟨value, (reads content value).mp outcome⟩
      | error error =>
          apply Setting.Reports.ignored rfl
          intro readable
          rcases readable with ⟨value, readable⟩
          rw [(reads content value).mpr readable] at outcome
          cases outcome

end

theorem readSize_eq_ok_iff (text : String) (size : UInt64) :
    readSize text = .ok size ↔ Numeral.WritesDecimal text size.toNat := by
  have decimal : Numeral.readDecimal UInt64.size text = .ok size.toNat ↔
      Numeral.WritesDecimal text size.toNat ∧ size.toNat < UInt64.size :=
    Numeral.readDecimal_eq_ok_iff (by decide)
  rw [and_iff_left size.toNat_lt_size] at decimal
  rw [← decimal, readSize]
  cases outcome : Numeral.readDecimal UInt64.size text with
  | error error => simp
  | ok number =>
      have below := (Numeral.readDecimal_eq_ok_iff (by decide)).mp outcome
      rw [Except.ok.injEq, Except.ok.injEq, ← UInt64.toNat_inj, UInt64.toNat_ofNat_of_lt' below.2]

theorem mapError_parse_eq_ok_iff (text : String) (network : Network) :
    (Network.parse text).mapError Network.UnknownName.message = .ok network ↔
      Network.parse text = .ok network :=
  mapError_eq_ok_iff

/-- Addresses are of the uncompressed form if that is asked for by `0` or a case variant of
`false`. -/
theorem readCompressed_eq_false_iff {setting : Setting} :
    readCompressed setting = false ↔
      ∃ text, setting = .text text ∧ (text = "0" ∨ Text.IsCaseVariant text "false") := by
  simp only [readCompressed, ← Setting.text?_eq_some_iff]
  cases setting.text? with
  | none => simp [standard]
  | some content =>
      have variant : Text.lowercase content = "false" ↔ Text.IsCaseVariant content "false" :=
        Text.lowercase_eq_iff (by decide)
      simp only [Option.some.injEq, exists_eq_left', ← variant]
      simp only [Bool.and_eq_false_iff, bne_eq_false_iff_eq]
      exact or_comm

/-! ## Configurations -/

/-- The configuration that is read from an environment, by what each variable means. -/
structure ReadFrom (environment : Environment) (config : Config) : Prop where
  network : environment.network.Gives (fun text network => Network.parse text = .ok network)
    .mainnet config.network
  compressedAddresses : config.compressedAddresses = false ↔
    ∃ text, environment.compressedAddresses = .text text ∧
      (text = "0" ∨ Text.IsCaseVariant text "false")
  maxBatchSize : environment.maxBatchSize.Gives
    (fun text (size : UInt64) => Numeral.WritesDecimal text size.toNat) 10000 config.maxBatchSize

/-- What is reported while an environment is read: first what is of the network, then what is of the
batch size. -/
def ReportedFrom (environment : Environment) (events : List Event) : Prop :=
  ∃ networkEvents sizeEvents, events = networkEvents ++ sizeEvents ∧
    environment.network.Reports "BTC_NETWORK"
      (fun text network => Network.parse text = .ok network) "mainnet" networkEvents ∧
    environment.maxBatchSize.Reports "BTC_MAX_BATCH_SIZE"
      (fun text (size : UInt64) => Numeral.WritesDecimal text size.toNat) "10000" sizeEvents

theorem result_readEnvironment_eq_iff {environment : Environment} {config : Config} :
    (readEnvironment environment).result = config ↔ ReadFrom environment config := by
  rcases config with ⟨network, compressedAddresses, maxBatchSize⟩
  have networkRead := result_readSetting_eq_iff mapError_parse_eq_ok_iff networkKey
    environment.network standard.network standard.network.name network
  have sizeRead := result_readSetting_eq_iff readSize_eq_ok_iff maxBatchSizeKey
    environment.maxBatchSize standard.maxBatchSize (Numeral.decimal standard.maxBatchSize.toNat)
    maxBatchSize
  have formRead : readCompressed environment.compressedAddresses = compressedAddresses ↔
      (compressedAddresses = false ↔
        readCompressed environment.compressedAddresses = false) := by
    cases compressedAddresses <;> simp
  rw [readCompressed_eq_false_iff] at formRead
  change Config.mk _ _ _ = _ ↔ _
  rw [mk.injEq, networkRead, formRead, sizeRead]
  constructor
  · intro parts
    exact ⟨parts.1, parts.2.1, parts.2.2⟩
  · intro read
    exact ⟨read.network, read.compressedAddresses, read.maxBatchSize⟩

theorem decimal_maxBatchSize : Numeral.decimal standard.maxBatchSize.toNat = "10000" := by
  decide +kernel

theorem reportedFrom_readEnvironment (environment : Environment) :
    ReportedFrom environment (readEnvironment environment).events := by
  refine ⟨_, _, ?_, reports_readSetting mapError_parse_eq_ok_iff _ _ standard.network _,
    reports_readSetting readSize_eq_ok_iff _ _ standard.maxBatchSize _⟩
  rw [readEnvironment, decimal_maxBatchSize]
  simp only [Logged.events_bind, Logged.events_pure, List.append_nil]
  rfl

theorem ReportedFrom.level_eq_warn {environment : Environment} {events : List Event}
    (reported : ReportedFrom environment events) : ∀ event ∈ events, event.level = .warn := by
  rcases reported with ⟨networkEvents, sizeEvents, rfl, networkReports, sizeReports⟩
  intro event member
  rcases List.mem_append.mp member with member | member
  · exact networkReports.level_eq_warn event member
  · exact sizeReports.level_eq_warn event member

/-! ## Validation -/

theorem validate_eq_ok_iff {config valid : Config} :
    config.validate = .ok valid ↔ config = valid ∧ config.maxBatchSize ≠ 0 := by
  rw [validate]
  split
  case isTrue zero => simp [zero]
  case isFalse nonzero => simp [nonzero]

theorem validate_eq_error_iff {config : Config} {error : KeyError} :
    config.validate = .error error ↔ config.maxBatchSize = 0 ∧ error = .zeroBatchSize := by
  rw [validate]
  split
  case isTrue zero => simp [zero, eq_comm]
  case isFalse nonzero => simp [nonzero]

/-- The batch size that is read is zero only if it is set to zero, because the fallback is not. -/
theorem ReadFrom.maxBatchSize_eq_zero_iff {environment : Environment} {config : Config}
    (read : ReadFrom environment config) :
    config.maxBatchSize = 0 ↔ environment.HasZeroBatchSize := by
  have written : environment.HasZeroBatchSize ↔
      ∃ text, environment.maxBatchSize = .text text ∧
        Numeral.WritesDecimal text (0 : UInt64).toNat := by
    simp only [UInt64.toNat_zero, Numeral.writesDecimal_zero_iff, Environment.HasZeroBatchSize,
      exists_and_left]
  rw [written]
  constructor
  · intro zero
    rcases read.maxBatchSize with ⟨text, equal, size⟩ | ⟨fallback, _⟩
    · rw [zero] at size
      exact ⟨text, equal, size⟩
    · rw [zero] at fallback
      exact absurd fallback (by decide)
  · intro zero
    have same := result_readSetting_eq_iff readSize_eq_ok_iff maxBatchSizeKey
      environment.maxBatchSize standard.maxBatchSize (Numeral.decimal standard.maxBatchSize.toNat)
    rw [← (same _).mpr read.maxBatchSize]
    exact (same 0).mpr (.inl zero)

/-- The configuration of an environment fails exactly if the batch size is set to zero, and is
otherwise the one that the environment gives. Texts of the network and of the batch size that cannot
be read are reported as warnings, in this order, and nothing else is. -/
theorem ofEnvironment_outcome (environment : Environment) :
    (∀ error, (ofEnvironment environment).result = .error error ↔
      error = .zeroBatchSize ∧ environment.HasZeroBatchSize) ∧
    (∀ config, (ofEnvironment environment).result = .ok config ↔
      ReadFrom environment config ∧ ¬ environment.HasZeroBatchSize) ∧
    ReportedFrom environment (ofEnvironment environment).events ∧
    ∀ event ∈ (ofEnvironment environment).events, event.level = .warn := by
  have read : ReadFrom environment (readEnvironment environment).result :=
    result_readEnvironment_eq_iff.mp rfl
  have reported : ReportedFrom environment (ofEnvironment environment).events := by
    rw [ofEnvironment, Logged.events_bind, Logged.events_pure, List.append_nil]
    exact reportedFrom_readEnvironment environment
  refine ⟨?_, ?_, reported, reported.level_eq_warn⟩
  · intro error
    change (readEnvironment environment).result.validate = .error error ↔ _
    rw [validate_eq_error_iff, read.maxBatchSize_eq_zero_iff, and_comm]
  · intro config
    change (readEnvironment environment).result.validate = .ok config ↔ _
    rw [validate_eq_ok_iff, Ne, read.maxBatchSize_eq_zero_iff, result_readEnvironment_eq_iff]

/-- The first number that is too large is reported, and the standard size taken. -/
example : ofEnvironment { maxBatchSize := .text "18446744073709551616" } =
    ⟨.ok standard, [.ignoredSetting "BTC_MAX_BATCH_SIZE" "18446744073709551616"
      "number too large to fit in target type" "10000"]⟩ := by
  cbv

end Config

end BitcoinKeys
