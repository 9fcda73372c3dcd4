import BitcoinKeys.Text.Lowercase

/-! # Letter case of ASCII names

Texts are case variants of each other if they differ in the case of ASCII letters at most. Few
characters outside ASCII are lowercased into ASCII: the Kelvin sign becomes `k`, and the capital I
with a dot becomes `i` followed by a combining dot. So an ASCII name in lowercase without a `k` is
the lowercase form of its case variants, and of no other text. -/

namespace BitcoinKeys.Text

/-- Whether two texts are the same up to the case of ASCII letters. -/
def IsCaseVariant (text name : String) : Prop :=
  text.toList.map Char.toLower = name.toList.map Char.toLower

/-- A lowercase ASCII character that no character outside ASCII has as its lowercase form. -/
def IsPlain (char : Char) : Prop :=
  char.toNat < 0x80 ∧ char.toLower = char ∧ char ≠ 'k'

instance (char : Char) : Decidable (IsPlain char) :=
  inferInstanceAs (Decidable (_ ∧ _))

/-- Whether a name consists of such characters. -/
def IsPlainName (name : String) : Prop :=
  ∀ char ∈ name.toList, IsPlain char

-- goes over the characters of the name, where a search for an instance could go over all characters
instance (name : String) : Decidable (IsPlainName name) :=
  List.decidableBAll IsPlain name.toList

/-! ## Characters outside ASCII -/

/-- All lowercase letters of the table but that of the Kelvin sign are characters outside ASCII. -/
theorem image_of_mem_capitalRuns : ∀ run ∈ capitalRuns,
    run.first = run.last ∧ run.target = 'k'.toNat ∨
      0x80 ≤ run.target ∧
        (run.target + (run.last - run.first) < 0xD800 ∨
          0xDFFF < run.target ∧ run.target + (run.last - run.first) < 0x110000) := by
  decide +kernel

theorem not_isPlain_of_high {char : Char} (high : 0x80 ≤ char.toNat) : ¬ IsPlain char :=
  fun plain => Nat.not_lt_of_le high plain.1

theorem toLower_of_high {char : Char} (high : 0x80 ≤ char.toNat) : char.toLower = char := by
  have bound : 0x80 ≤ char.val.toNat := high
  apply dif_neg
  intro capital
  have capitalBound : char.val.toNat ≤ 90 := capital.2
  omega

theorem not_isPlain_image {run : CaseRun} (member : run ∈ capitalRuns) {code : Nat}
    (covered : run.covers code = true) : ¬ IsPlain (Char.ofNat (run.image code)) := by
  simp only [CaseRun.covers, Bool.and_eq_true, decide_eq_true_eq] at covered
  rcases image_of_mem_capitalRuns run member with kelvin | outside
  · have image : run.image code = 'k'.toNat := by
      rw [CaseRun.image, kelvin.2]
      omega
    rw [image, Char.ofNat_toNat]
    exact fun plain => plain.2.2 rfl
  · have valid : (run.image code).isValidChar := by
      rw [CaseRun.image, Nat.isValidChar]
      omega
    have code : (Char.ofNat (run.image code)).toNat = run.image code := by
      rw [Char.ofNat, dif_pos valid]
      rfl
    apply not_isPlain_of_high
    rw [code, CaseRun.image]
    omega

theorem exists_mem_lowercaseChar {char : Char} (high : 0x80 ≤ char.toNat) :
    ∃ image ∈ lowercaseChar char, ¬ IsPlain image := by
  rw [lowercaseChar, if_neg (Nat.not_lt_of_le high)]
  split
  case isTrue => exact ⟨'\u0307', by simp, by decide⟩
  case isFalse =>
    split
    case h_1 run found =>
      have covered := List.find?_some found
      refine ⟨_, List.mem_singleton_self _, ?_⟩
      exact not_isPlain_image (List.mem_of_find?_eq_some found) covered
    case h_2 => exact ⟨char, List.mem_singleton_self char, not_isPlain_of_high high⟩

/-! ## Texts -/

theorem lowercaseAfter_cons_of_ascii {char : Char} (ascii : char.toNat < 0x80)
    (before rest : List Char) :
    lowercaseAfter before (char :: rest) =
      char.toLower :: lowercaseAfter (char :: before) rest := by
  have notSigma : char ≠ 'Σ' := by
    intro equal
    rw [equal] at ascii
    exact absurd ascii (by decide)
  rw [lowercaseAfter, lowercaseChar, if_pos ascii]
  · rfl
  · exact notSigma

theorem exists_mem_lowercaseAfter_cons {char : Char} (high : 0x80 ≤ char.toNat)
    (before rest : List Char) :
    ∃ image ∈ lowercaseAfter before (char :: rest), ¬ IsPlain image := by
  by_cases sigma : char = 'Σ'
  · subst sigma
    rw [lowercaseAfter]
    split
    case isTrue => exact ⟨'ς', List.mem_cons_self, by decide⟩
    case isFalse => exact ⟨'σ', List.mem_cons_self, by decide⟩
  · rcases exists_mem_lowercaseChar high with ⟨image, member, outside⟩
    refine ⟨image, ?_, outside⟩
    rw [lowercaseAfter]
    · exact List.mem_append_left _ member
    · exact sigma

theorem lowercaseAfter_eq_iff {before chars name : List Char}
    (plain : ∀ char ∈ name, IsPlain char) :
    lowercaseAfter before chars = name ↔ chars.map Char.toLower = name := by
  induction chars generalizing before name with
  | nil => rw [lowercaseAfter, List.map_nil]
  | cons char rest induction =>
      by_cases ascii : char.toNat < 0x80
      · rw [lowercaseAfter_cons_of_ascii ascii, List.map_cons]
        cases name with
        | nil => simp
        | cons first others =>
            have othersPlain := fun char member => plain char (List.mem_cons_of_mem first member)
            rw [List.cons.injEq, List.cons.injEq, induction othersPlain]
      · -- neither form of a character outside ASCII consists of plain characters
        have high : 0x80 ≤ char.toNat := Nat.le_of_not_lt ascii
        constructor
        · intro equal
          rcases exists_mem_lowercaseAfter_cons high before rest with ⟨image, member, outside⟩
          rw [equal] at member
          exact absurd (plain image member) outside
        · intro equal
          have member : char ∈ name := by
            rw [← equal, List.map_cons, toLower_of_high high]
            exact List.mem_cons_self
          exact absurd (plain char member) (not_isPlain_of_high high)

/-- A name of plain characters is the lowercase form of its case variants only. -/
theorem lowercase_eq_iff {text name : String} (plain : IsPlainName name) :
    lowercase text = name ↔ IsCaseVariant text name := by
  have unchanged : name.toList.map Char.toLower = name.toList := by
    have every : ∀ char ∈ name.toList, char.toLower = id char := fun char member =>
      (plain char member).2.1
    rw [List.map_congr_left every, List.map_id]
  rw [IsCaseVariant, unchanged, ← lowercaseAfter_eq_iff plain, lowercase,
    ← String.toList_inj, String.toList_ofList]

/-- Neither a name of plain characters nor any of its case variants has a character outside
ASCII. -/
theorem IsCaseVariant.ascii {text name : String} (variant : IsCaseVariant text name)
    (plain : IsPlainName name) : ∀ char ∈ text.toList, char.toNat < 0x80 := by
  intro char member
  apply Nat.lt_of_not_le
  intro high
  have lower : char ∈ name.toList.map Char.toLower := by
    rw [← variant, ← toLower_of_high high]
    exact List.mem_map_of_mem member
  rcases List.mem_map.mp lower with ⟨letter, letterMember, rfl⟩
  have letterPlain := plain letter letterMember
  rw [letterPlain.2.1] at high
  exact not_isPlain_of_high high letterPlain

end BitcoinKeys.Text
