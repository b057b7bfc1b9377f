import RecordLog.Layout

/-!
# Machine words

Offsets, sizes and lengths are numbers of 64 bits, and bytes are taken from a
buffer by index. An operation that leaves its range gives no value here: a sum
past the largest word, a difference below zero, a division by zero, a slice
beyond its bytes. Where the result is in range, each operation answers what it
answers on natural numbers.
-/

namespace RecordLog

/-- Why a computation with words gives no value. -/
inductive Halt where
  /-- An operation left its range. -/
  | outOfRange
  /-- The rounds are used up. -/
  | unfinished
  /-- A failure was answered. -/
  | failed (cause : Failure)
  deriving DecidableEq

namespace Word

/-- A sum that must be a word. -/
def add (first second : Nat) : Except Halt Nat :=
  if first + second ≤ maxOffset then .ok (first + second) else .error .outOfRange

/-- A difference that must not be negative. -/
def sub (first second : Nat) : Except Halt Nat :=
  if second ≤ first then .ok (first - second) else .error .outOfRange

/-- A product that must be a word. -/
def mul (first second : Nat) : Except Halt Nat :=
  if first * second ≤ maxOffset then .ok (first * second) else .error .outOfRange

/-- The quotient by a number that must not be zero. -/
def div (first second : Nat) : Except Halt Nat :=
  if second = 0 then .error .outOfRange else .ok (first / second)

/-- The remainder by a number that must not be zero. -/
def mod (first second : Nat) : Except Halt Nat :=
  if second = 0 then .error .outOfRange else .ok (first % second)

/-- A sum that stops at the largest word. -/
def saturatingAdd (first second : Nat) : Nat := min (first + second) maxOffset

/-- The bytes from one index to another, which must be in order and within
them. -/
def slice (bytes : List UInt8) (first last : Nat) : Except Halt (List UInt8) :=
  if first ≤ last ∧ last ≤ bytes.length then .ok ((bytes.take last).drop first)
  else .error .outOfRange

/-- The byte at an index, which must be within the bytes. -/
def byteAt (bytes : List UInt8) (index : Nat) : Except Halt UInt8 :=
  match bytes[index]? with
  | some byte => .ok byte
  | none => .error .outOfRange

/-! ## Offsets in blocks -/

/-- The bytes from an offset to the end of its block. -/
def remaining (layout : Layout) (offset : Nat) : Except Halt Nat := do
  let within ← mod offset layout.blockSize
  sub layout.blockSize within

/-- The first offset that is not padding. -/
def align (layout : Layout) (offset : Nat) : Except Halt Nat := do
  let left ← remaining layout offset
  if left ≤ headerSize then .ok (saturatingAdd offset left) else .ok offset

/-! ## Results in range -/

theorem ok_bind {α β : Type} (value : α) (next : α → Except Halt β) :
    (Except.ok value >>= next) = next value :=
  rfl

theorem add_eq {first second : Nat} (word : first + second ≤ maxOffset) :
    add first second = .ok (first + second) :=
  if_pos word

theorem sub_eq {first second : Nat} (le : second ≤ first) :
    sub first second = .ok (first - second) :=
  if_pos le

theorem mul_eq {first second : Nat} (word : first * second ≤ maxOffset) :
    mul first second = .ok (first * second) :=
  if_pos word

theorem div_eq {first second : Nat} (pos : 0 < second) :
    div first second = .ok (first / second) :=
  if_neg (Nat.ne_of_gt pos)

theorem mod_eq {first second : Nat} (pos : 0 < second) :
    mod first second = .ok (first % second) :=
  if_neg (Nat.ne_of_gt pos)

theorem slice_zero {bytes : List UInt8} {last : Nat} (within : last ≤ bytes.length) :
    slice bytes 0 last = .ok (bytes.take last) := by
  rw [slice, if_pos ⟨Nat.zero_le _, within⟩, List.drop_zero]

theorem slice_eq_drop {bytes : List UInt8} {first : Nat} (within : first ≤ bytes.length) :
    slice bytes first bytes.length = .ok (bytes.drop first) := by
  rw [slice, if_pos ⟨within, Nat.le_refl _⟩, List.take_length]

theorem remaining_eq (layout : Layout) (offset : Nat) :
    remaining layout offset = .ok (layout.remaining offset) := by
  have positive := layout.blockSize_pos
  have within := Nat.mod_lt offset positive
  rw [remaining, mod_eq positive, ok_bind, sub_eq (by omega), Layout.remaining]

theorem align_eq {layout : Layout} {offset : Nat} (word : offset + layout.blockSize ≤ maxOffset) :
    align layout offset = .ok (layout.align offset) := by
  have := layout.remaining_le offset
  rw [align, remaining_eq, ok_bind, saturatingAdd, Nat.min_eq_left (by omega), Layout.align,
    Layout.inPadding]
  simp only [decide_eq_true_eq]
  split <;> rfl

end Word

end RecordLog
