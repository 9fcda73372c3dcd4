import BitcoinKeys.Base64
import BitcoinKeys.Proofs.Outcome
import BitcoinKeys.Proofs.Text

/-! # Base64 is canonical

A symbol stands for one value, a full group of four symbols for three bytes, and a padded group for
the one or two bytes at the end, whose unused bits are zero. Groups are read as the bytes that they
were written for, and from no other symbols, so a text is read exactly if it is the text of what is
read. -/

namespace BitcoinKeys.Base64

/-! ## Symbols -/

theorem value?_symbol {value : Nat} (small : value < 64) : value? (symbol value) = some value := by
  have every : ∀ index : Fin 64, value? (symbol index.val) = some index.val := by
    decide
  exact every ⟨value, small⟩

theorem value?_eq_some_iff {byte : UInt8} {value : Nat} :
    value? byte = some value ↔ value < 64 ∧ symbol value = byte := by
  constructor
  · have every : ∀ code : Fin 256, ∀ value ∈ value? (.ofFin code),
        value < 64 ∧ symbol value = .ofFin code := by
      decide +kernel
    exact every byte.toFin value
  · intro written
    rcases written with ⟨small, rfl⟩
    exact value?_symbol small

theorem readSymbol_symbol {value : Nat} (small : value < 64) (offset : Nat) :
    readSymbol offset (symbol value) = .ok value := by
  rw [readSymbol, value?_symbol small]

theorem eq_symbol_of_readSymbol {offset value : Nat} {byte : UInt8}
    (read : readSymbol offset byte = .ok value) : value < 64 ∧ byte = symbol value := by
  unfold readSymbol at read
  split at read
  case h_1 found valued =>
    cases read
    rcases value?_eq_some_iff.mp valued with ⟨small, rfl⟩
    exact ⟨small, rfl⟩
  case h_2 => cases read

theorem symbol_ne_padding {value : Nat} (small : value < 64) : symbol value ≠ padding := by
  intro equal
  have read := value?_symbol small
  rw [equal] at read
  cases read

theorem isGraphic_symbol (value : Nat) : Text.IsGraphic (symbol value) := by
  by_cases small : value < 64
  · have every : ∀ index : Fin 64, Text.IsGraphic (symbol index.val) := by
      decide
    exact every ⟨value, small⟩
  · rw [symbol, if_neg (by omega), if_neg (by omega), if_neg (by omega), if_neg (by omega)]
    decide

/-! ## Bytes out of values -/

theorem firstByte_split (byte : UInt8) {low : Nat} (small : low < 16) :
    firstByte (byte.toNat / 4) (byte.toNat % 4 * 16 + low) = byte := by
  apply UInt8.toNat.inj
  have bound := byte.toNat_lt
  rw [firstByte, UInt8.toNat_ofNat']
  omega

theorem secondByte_split (byte : UInt8) (high : Nat) {low : Nat} (small : low < 4) :
    secondByte (high * 16 + byte.toNat / 16) (byte.toNat % 16 * 4 + low) = byte := by
  apply UInt8.toNat.inj
  have bound := byte.toNat_lt
  rw [secondByte, UInt8.toNat_ofNat']
  omega

theorem thirdByte_split (byte : UInt8) (high : Nat) :
    thirdByte (high * 4 + byte.toNat / 64) (byte.toNat % 64) = byte := by
  apply UInt8.toNat.inj
  have bound := byte.toNat_lt
  rw [thirdByte, UInt8.toNat_ofNat']
  omega

/-! ## Values out of bytes -/

section Values

variable {first second third fourth : Nat}

theorem toNat_firstByte (firstSmall : first < 64) (secondSmall : second < 64) :
    (firstByte first second).toNat = first * 4 + second / 16 := by
  rw [firstByte, UInt8.toNat_ofNat']
  omega

theorem toNat_secondByte (thirdSmall : third < 64) :
    (secondByte second third).toNat = second % 16 * 16 + third / 4 := by
  rw [secondByte, UInt8.toNat_ofNat']
  omega

theorem toNat_thirdByte (fourthSmall : fourth < 64) :
    (thirdByte third fourth).toNat = third % 4 * 64 + fourth := by
  rw [thirdByte, UInt8.toNat_ofNat']
  omega

theorem symbols_one (firstSmall : first < 64) (secondSmall : second < 64)
    (unused : second % 16 = 0) :
    symbols [firstByte first second] = [symbol first, symbol second, padding, padding] := by
  have high : (first * 4 + second / 16) / 4 = first := by omega
  have low : (first * 4 + second / 16) % 4 * 16 = second := by omega
  rw [symbols, toNat_firstByte firstSmall secondSmall, high, low]

theorem symbols_two (firstSmall : first < 64) (secondSmall : second < 64)
    (thirdSmall : third < 64) (unused : third % 4 = 0) :
    symbols [firstByte first second, secondByte second third] =
      [symbol first, symbol second, symbol third, padding] := by
  have high : (first * 4 + second / 16) / 4 = first := by omega
  have middle : (first * 4 + second / 16) % 4 * 16 + (second % 16 * 16 + third / 4) / 16 =
      second := by omega
  have low : (second % 16 * 16 + third / 4) % 16 * 4 = third := by omega
  rw [symbols, toNat_firstByte firstSmall secondSmall, toNat_secondByte thirdSmall, high, middle,
    low]

theorem symbols_three (firstSmall : first < 64) (secondSmall : second < 64)
    (thirdSmall : third < 64) (fourthSmall : fourth < 64) (rest : Bytes) :
    symbols (firstByte first second :: secondByte second third :: thirdByte third fourth :: rest) =
      symbol first :: symbol second :: symbol third :: symbol fourth :: symbols rest := by
  have high : (first * 4 + second / 16) / 4 = first := by omega
  have middle : (first * 4 + second / 16) % 4 * 16 + (second % 16 * 16 + third / 4) / 16 =
      second := by omega
  have low : (second % 16 * 16 + third / 4) % 16 * 4 + (third % 4 * 64 + fourth) / 64 =
      third := by omega
  have last : (third % 4 * 64 + fourth) % 64 = fourth := by omega
  rw [symbols, toNat_firstByte firstSmall secondSmall, toNat_secondByte thirdSmall,
    toNat_thirdByte fourthSmall, high, middle, low, last]

end Values

/-! ## Groups that were written -/

theorem scanLast_symbol {value : Nat} (small : value < 64) (start index : Nat)
    (values : List Nat) (rest : Bytes) :
    scanLast start index values (symbol value :: rest) =
      scanLast start (index + 1) (values ++ [value]) rest := by
  rw [scanLast, if_neg (symbol_ne_padding small), readSymbol_symbol small, ok_bind]

section Group

variable {first second third fourth : Nat} (start : Nat)

theorem decodeGroups_four (firstSmall : first < 64) (secondSmall : second < 64)
    (thirdSmall : third < 64) (fourthSmall : fourth < 64) (rest : Bytes) :
    decodeGroups start
        (symbol first :: symbol second :: symbol third :: symbol fourth :: rest) =
      (decodeGroups (start + 4) rest).map fun bytes =>
        firstByte first second :: secondByte second third :: thirdByte third fourth :: bytes := by
  cases rest with
  | nil =>
      change decodeLast start _ = _
      rw [decodeLast, scanLast_symbol firstSmall, scanLast_symbol secondSmall,
        scanLast_symbol thirdSmall, scanLast_symbol fourthSmall]
      rfl
  | cons byte rest =>
      rw [decodeGroups, List.isEmpty_cons, if_neg Bool.false_ne_true,
        readSymbol_symbol firstSmall, readSymbol_symbol secondSmall,
        readSymbol_symbol thirdSmall, readSymbol_symbol fourthSmall]
      cases decodeGroups (start + 4) (byte :: rest) with
      | ok _ => rfl
      | error _ => rfl

theorem decodeGroups_three (firstSmall : first < 64) (secondSmall : second < 64)
    (thirdSmall : third < 64) (unused : third % 4 = 0) :
    decodeGroups start [symbol first, symbol second, symbol third, padding] =
      .ok [firstByte first second, secondByte second third] := by
  change decodeLast start _ = _
  rw [decodeLast, scanLast_symbol firstSmall, scanLast_symbol secondSmall,
    scanLast_symbol thirdSmall]
  change closeLast start [first, second, third] 1 = _
  rw [closeLast, if_neg (not_not_intro rfl), if_neg (not_not_intro unused)]

theorem decodeGroups_two (firstSmall : first < 64) (secondSmall : second < 64)
    (unused : second % 16 = 0) :
    decodeGroups start [symbol first, symbol second, padding, padding] =
      .ok [firstByte first second] := by
  change decodeLast start _ = _
  rw [decodeLast, scanLast_symbol firstSmall, scanLast_symbol secondSmall]
  change closeLast start [first, second] 2 = _
  rw [closeLast, if_neg (not_not_intro rfl), if_neg (not_not_intro unused)]

end Group

theorem decodeGroups_symbols (start : Nat) (bytes : Bytes) :
    decodeGroups start (symbols bytes) = .ok bytes := by
  induction bytes using symbols.induct generalizing start with
  | case1 => rfl
  | case2 first =>
      have bound := first.toNat_lt
      have byte : firstByte (first.toNat / 4) (first.toNat % 4 * 16) = first :=
        firstByte_split first (show 0 < 16 by decide)
      rw [symbols, decodeGroups_two start (by omega) (by omega) (by omega), byte]
  | case3 first second =>
      have firstBound := first.toNat_lt
      have secondBound := second.toNat_lt
      have byte : secondByte (first.toNat % 4 * 16 + second.toNat / 16)
          (second.toNat % 16 * 4) = second :=
        secondByte_split second _ (show 0 < 4 by decide)
      rw [symbols, decodeGroups_three start (by omega) (by omega) (by omega) (by omega),
        firstByte_split first (by omega), byte]
  | case4 first second third rest induction =>
      have firstBound := first.toNat_lt
      have secondBound := second.toNat_lt
      have thirdBound := third.toNat_lt
      rw [symbols, decodeGroups_four start (by omega) (by omega) (by omega) (by omega), induction,
        firstByte_split first (by omega), secondByte_split second _ (by omega), thirdByte_split]
      rfl

/-! ## Groups that are read -/

/-- What is scanned in the last group are symbols, and padding behind them. -/
theorem eq_of_scanLast {start index paddings : Nat} {values read : List Nat} {group : Bytes}
    (scanned : scanLast start index values group = .ok (read, paddings)) :
    ∃ added, read = values ++ added ∧ (∀ value ∈ added, value < 64) ∧
      group = added.map symbol ++ List.replicate paddings padding := by
  induction group generalizing index values with
  | nil =>
      cases scanned
      exact ⟨[], (List.append_nil read).symm, List.forall_mem_nil _, rfl⟩
  | cons byte rest induction =>
      rw [scanLast] at scanned
      split at scanned
      case isTrue isPadding =>
        split at scanned
        case isTrue => cases scanned
        case isFalse =>
          split at scanned
          case isTrue uniform =>
            cases scanned
            have others : rest = List.replicate rest.length padding := by
              apply List.eq_replicate_iff.mpr
              refine ⟨rfl, ?_⟩
              intro other member
              exact beq_iff_eq.mp (List.all_eq_true.mp uniform other member)
            refine ⟨[], (List.append_nil read).symm, List.forall_mem_nil _, ?_⟩
            rw [isPadding, List.map_nil, List.nil_append, List.replicate_succ, ← others]
          case isFalse => cases scanned
      case isFalse =>
        rcases bind_eq_ok_iff.mp scanned with ⟨value, valued, continued⟩
        rcases eq_symbol_of_readSymbol valued with ⟨small, rfl⟩
        rcases induction continued with ⟨added, rfl, addedSmall, rfl⟩
        exact ⟨value :: added, List.append_assoc values [value] added,
          List.forall_mem_cons.mpr ⟨small, addedSmall⟩, rfl⟩

theorem symbols_of_closeLast {start paddings : Nat} {values : List Nat} {bytes : Bytes}
    (closed : closeLast start values paddings = .ok bytes) (small : ∀ value ∈ values, value < 64)
    (fits : values.length + paddings ≤ 4) :
    symbols bytes = values.map symbol ++ List.replicate paddings padding := by
  unfold closeLast at closed
  split at closed
  case h_1 => cases closed
  case h_2 => cases closed
  case h_3 first second =>
    split at closed
    case isTrue => cases closed
    case isFalse two =>
      split at closed
      case isTrue => cases closed
      case isFalse unused =>
        cases closed
        simp only [List.forall_mem_cons] at small
        rw [symbols_one small.1 small.2.1 (Decidable.not_not.mp unused), Decidable.not_not.mp two]
        rfl
  case h_4 first second third =>
    split at closed
    case isTrue => cases closed
    case isFalse one =>
      split at closed
      case isTrue => cases closed
      case isFalse unused =>
        cases closed
        simp only [List.forall_mem_cons] at small
        rw [symbols_two small.1 small.2.1 small.2.2.1 (Decidable.not_not.mp unused),
          Decidable.not_not.mp one]
        rfl
  case h_5 first second third fourth rest =>
    cases closed
    simp only [List.forall_mem_cons] at small
    simp only [List.length_cons] at fits
    have full : rest = [] := List.length_eq_zero_iff.mp (by omega)
    have unpadded : paddings = 0 := by omega
    rw [symbols_three small.1 small.2.1 small.2.2.1 small.2.2.2.1, full, unpadded]
    rfl

theorem eq_symbols_of_decodeLast {start : Nat} {group bytes : Bytes} (short : group.length ≤ 4)
    (decoded : decodeLast start group = .ok bytes) : group = symbols bytes := by
  rcases bind_eq_ok_iff.mp decoded with ⟨⟨values, paddings⟩, scanned, closed⟩
  rcases eq_of_scanLast scanned with ⟨added, rfl, small, rfl⟩
  rw [List.length_append, List.length_map, List.length_replicate] at short
  exact (symbols_of_closeLast closed small short).symm

theorem eq_symbols_of_decodeGroups {start : Nat} {text bytes : Bytes}
    (decoded : decodeGroups start text = .ok bytes) : text = symbols bytes := by
  fun_induction decodeGroups start text generalizing bytes with
  | case1 =>
      cases decoded
      rfl
  | case2 start first second third fourth rest isLast =>
      have last : rest = [] := List.isEmpty_iff.mp isLast
      rw [last]
      exact eq_symbols_of_decodeLast (Nat.le_refl 4) decoded
  | case3 start first second third fourth rest isLast induction =>
      simp only [bind_eq_ok_iff] at decoded
      rcases decoded with ⟨firstValue, firstRead, secondValue, secondRead, thirdValue, thirdRead,
        fourthValue, fourthRead, others, othersRead, equal⟩
      rcases eq_symbol_of_readSymbol firstRead with ⟨firstSmall, rfl⟩
      rcases eq_symbol_of_readSymbol secondRead with ⟨secondSmall, rfl⟩
      rcases eq_symbol_of_readSymbol thirdRead with ⟨thirdSmall, rfl⟩
      rcases eq_symbol_of_readSymbol fourthRead with ⟨fourthSmall, rfl⟩
      cases equal
      rw [symbols_three firstSmall secondSmall thirdSmall fourthSmall, induction othersRead]
  | case4 start group nonempty incomplete =>
      have short : group.length ≤ 4 := by
        match group, incomplete with
        | [], _ | [_], _ | [_, _], _ | [_, _, _], _ => simp
        | first :: second :: third :: fourth :: rest, incomplete =>
            exact (incomplete first second third fourth rest rfl).elim
      exact eq_symbols_of_decodeLast short decoded

/-! ## Texts -/

theorem length_symbols_mod (bytes : Bytes) : (symbols bytes).length % 4 = 0 := by
  induction bytes using symbols.induct with
  | case1 => rfl
  | case2 => simp [symbols]
  | case3 => simp [symbols]
  | case4 first second third rest induction =>
      rw [symbols]
      simp only [List.length_cons]
      omega

theorem decode_eq_ok_iff {text bytes : Bytes} : decode text = .ok bytes ↔ text = symbols bytes := by
  constructor
  · intro decoded
    unfold decode at decoded
    split at decoded
    case h_1 => cases decoded
    case h_2 => exact eq_symbols_of_decodeGroups decoded
  · intro written
    have noStray : strayByte? (symbols bytes) = none := by
      rw [strayByte?, length_symbols_mod, if_neg (by decide)]
    rw [written, decode, noStray]
    exact decodeGroups_symbols 0 bytes

theorem graphic_symbols (bytes : Bytes) : ∀ byte ∈ symbols bytes, Text.IsGraphic byte := by
  have padded : Text.IsGraphic padding := by decide
  induction bytes using symbols.induct with
  | case1 => exact List.forall_mem_nil _
  | case2 =>
      rw [symbols]
      simp [isGraphic_symbol, padded]
  | case3 =>
      rw [symbols]
      simp [isGraphic_symbol, padded]
  | case4 first second third rest induction =>
      rw [symbols]
      simp only [List.forall_mem_cons]
      exact ⟨isGraphic_symbol _, isGraphic_symbol _, isGraphic_symbol _, isGraphic_symbol _,
        induction⟩

theorem trim_encode (bytes : Bytes) : Text.trim (encode bytes) = encode bytes :=
  Text.trim_ofAscii (graphic_symbols bytes)

/-- The only text that is read as a byte string is the one that is written for it. -/
theorem decode_utf8_eq_ok_iff {text : String} {bytes : Bytes} :
    decode (Text.utf8 text) = .ok bytes ↔ text = encode bytes := by
  rw [decode_eq_ok_iff, encode, Text.utf8_eq_iff (graphic_symbols bytes)]

end BitcoinKeys.Base64
