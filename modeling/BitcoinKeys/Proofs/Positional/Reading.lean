import BitcoinKeys.Bytes

/-! # Positional reading

A byte string as code reads it that holds it in an array and keeps positions. A position or a range
outside of the string, a difference below zero and more bytes than a word has are faults: no error
tells about them, and nothing goes on behind them. -/

namespace BitcoinKeys.Positional

inductive Fault where
  | position (position length : Nat)
  | range (start stop length : Nat)
  | difference (left right : Nat)
  | word (length : Nat)
  deriving DecidableEq, Repr

/-- A reader comes to a result, refuses its input with an error, or ends in a fault. -/
abbrev Reading (ε : Type) : Type → Type := ExceptT ε (Except Fault)

variable {ε δ α β : Type}

def fail (fault : Fault) : Reading ε α :=
  ExceptT.mk (.error fault)

/-- The reader without faults that has a given outcome. -/
def settle (outcome : Except ε α) : Reading ε α :=
  ExceptT.mk (.ok outcome)

def byteAt (bytes : Bytes) (position : Nat) : Reading ε UInt8 :=
  match bytes[position]? with
  | some byte => pure byte
  | none => fail (.position position bytes.length)

/-- The bytes from a position up to the one in front of `stop`. -/
def range (bytes : Bytes) (start stop : Nat) : Reading ε Bytes :=
  if start ≤ stop ∧ stop ≤ bytes.length then pure (bytes.extract start stop)
  else fail (.range start stop bytes.length)

def difference (left right : Nat) : Reading ε Nat :=
  if right ≤ left then pure (left - right) else fail (.difference left right)

def word (bytes : Bytes) : Reading ε Word :=
  if fits : bytes.length ≤ Word.byteLength then pure (Word.ofBytes bytes fits)
  else fail (.word bytes.length)

/-! ## Outcomes -/

@[simp]
theorem settle_ok (result : α) : settle (.ok result : Except ε α) = pure result := rfl

@[simp]
theorem settle_error (error : ε) : settle (.error error : Except ε α) = throw error := rfl

@[simp]
theorem throw_bind (error : ε) (next : α → Reading ε β) :
    ((throw error : Reading ε α) >>= next) = throw error := rfl

theorem settle_bind (outcome : Except ε α) (next : α → Except ε β) :
    settle (outcome >>= next) = settle outcome >>= fun value => settle (next value) := by
  cases outcome with
  | error error => rfl
  | ok value => rfl

theorem map_settle (change : α → β) (outcome : Except ε α) :
    change <$> settle outcome = settle (outcome.map change) := by
  cases outcome with
  | error error => rfl
  | ok value => rfl

theorem run_settle_bind {next : α → Reading ε β} {decoder : α → Except ε β}
    (same : ∀ value, next value = settle (decoder value)) (outcome : Except ε α) :
    (settle outcome >>= next).run = .ok (outcome >>= decoder) := by
  cases outcome with
  | error error => rfl
  | ok value => exact congrArg ExceptT.run (same value)

theorem adapt_settle (change : ε → δ) (outcome : Except ε α) :
    (settle outcome).adapt change = settle (outcome.mapError change) := rfl

/-! ## Readers in bounds -/

@[simp]
theorem byteAt_zero (byte : UInt8) (rest : Bytes) :
    (byteAt (byte :: rest) 0 : Reading ε UInt8) = pure byte := rfl

theorem range_eq {bytes : Bytes} {start stop : Nat} (ordered : start ≤ stop)
    (inside : stop ≤ bytes.length) :
    (range bytes start stop : Reading ε Bytes) = pure (bytes.extract start stop) :=
  if_pos ⟨ordered, inside⟩

/-- A range behind the front of a byte string. -/
theorem range_append (front : Bytes) {bytes : Bytes} {length : Nat}
    (inside : length ≤ bytes.length) :
    (range (front ++ bytes) front.length (front.length + length) : Reading ε Bytes) =
      pure (bytes.take length) := by
  rw [range_eq (Nat.le_add_right _ _), List.extract_eq_take_drop, List.drop_left,
    Nat.add_sub_cancel_left]
  rw [List.length_append]
  exact Nat.add_le_add_left inside _

theorem range_zero {bytes : Bytes} {stop : Nat} (inside : stop ≤ bytes.length) :
    (range bytes 0 stop : Reading ε Bytes) = pure (bytes.take stop) :=
  range_eq (Nat.zero_le stop) inside

/-- The range from a position to the end of a byte string. -/
theorem range_length {bytes : Bytes} {start : Nat} (inside : start ≤ bytes.length) :
    (range bytes start bytes.length : Reading ε Bytes) = pure (bytes.drop start) := by
  rw [range_eq inside (Nat.le_refl _), List.extract_eq_take_drop, ← List.length_drop,
    List.take_length]

theorem range_tail (byte : UInt8) (rest : Bytes) :
    (range (byte :: rest) 1 (byte :: rest).length : Reading ε Bytes) = pure rest :=
  range_length (Nat.le_add_left 1 _)

theorem difference_eq {left right : Nat} (ordered : right ≤ left) :
    (difference left right : Reading ε Nat) = pure (left - right) :=
  if_pos ordered

theorem word_eq {bytes : Bytes} (fits : bytes.length ≤ Word.byteLength) :
    (word bytes : Reading ε Word) = pure (Word.ofBytes bytes fits) :=
  dif_pos fits

@[simp]
theorem word_toBytes (value : Word) : (word value.toBytes : Reading ε Word) = pure value := by
  rw [word_eq (Word.length_le_of_eq value.length_toBytes), Word.ofBytes_toBytes]

end BitcoinKeys.Positional
