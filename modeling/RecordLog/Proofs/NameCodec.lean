import Mathlib.Data.Nat.Digits.Defs
import RecordLog.Proofs.Discovering
import RecordLog.Proofs.Words

/-!
# Names as a code of ids

A name denotes an id under an extension exactly if it consists of decimal digits
and the extension, and the value of the digits is the id, a number of 64 bits.
Which characters are digits is settled by the extension alone, also when it begins
with digits itself. The names of one id differ only in the zeros in front, and the
name that a segment is given is the one without them, so each id has a name of its
own. Read digit by digit in machine words, the value is out of range exactly if
the number has more than 64 bits.
-/

namespace RecordLog

namespace SegmentId

variable {name extension : String} {id : SegmentId} {digits : List Char}

/-! ## The value of digits -/

/-- The value of digits by their places: the last counts ones, each one before it
ten times as much. -/
def placeValue (digits : List Char) : Nat :=
  Nat.ofDigits 10 (digits.reverse.map fun digit => digit.toNat - '0'.toNat)

theorem placeValue_concat (digits : List Char) (digit : Char) :
    placeValue (digits ++ [digit]) = digit.toNat - '0'.toNat + 10 * placeValue digits := by
  rw [placeValue, List.reverse_append, List.reverse_singleton, List.singleton_append,
    List.map_cons, Nat.ofDigits_cons, placeValue]

/-- Reading digits from the left computes their value by places. -/
theorem decimalValue_eq_placeValue (digits : List Char) :
    decimalValue digits = placeValue digits := by
  induction digits using List.reverseRecOn with
  | nil => rfl
  | append_singleton front last ih => rw [decimalValue_concat, placeValue_concat, ih, Nat.add_comm]

/-- Zeros in front do not count. -/
theorem decimalValue_zeros_append (zeros : Nat) (digits : List Char) :
    decimalValue (List.replicate zeros '0' ++ digits) = decimalValue digits := by
  induction zeros with
  | zero => rfl
  | succ zeros ih => rw [List.replicate_succ, List.cons_append, ← ih]; rfl

/-- Digits are zeros and then the digits that their value is written with. -/
theorem exists_zeros (nonempty : digits ≠ [])
    (decimal : ∀ digit ∈ digits, digit.isDigit = true) :
    ∃ zeros, digits = List.replicate zeros '0' ++ Nat.toDigits 10 (decimalValue digits) := by
  induction digits with
  | nil => exact absurd rfl nonempty
  | cons first rest ih =>
      by_cases padded : first = '0' ∧ rest ≠ []
      · obtain ⟨rfl, more⟩ := padded
        obtain ⟨zeros, rest_eq⟩ := ih more fun digit member =>
          decimal digit (List.mem_cons_of_mem _ member)
        refine ⟨zeros + 1, ?_⟩
        rw [show decimalValue ('0' :: rest) = decimalValue rest from rfl, List.replicate_succ,
          List.cons_append, ← rest_eq]
      · refine ⟨0, (toDigits_decimalValue nonempty decimal fun zero => ?_).symm⟩
        have last : rest = [] := by
          by_contra more
          exact padded ⟨Option.some.inj zero, more⟩
        rw [last, List.length_singleton]

/-! ## Names of digits and an extension -/

/-- A name consists of decimal digits, at least one, and the extension. -/
structure Numbers (name extension : String) (digits : List Char) : Prop where
  nonempty : digits ≠ []
  decimal : ∀ digit ∈ digits, '0' ≤ digit ∧ digit ≤ '9'
  split_eq : name.toList = digits ++ extension.toList

theorem isDigit_iff {digit : Char} : digit.isDigit = true ↔ '0' ≤ digit ∧ digit ≤ '9' := by
  rw [Char.isDigit, Bool.and_eq_true, decide_eq_true_eq, decide_eq_true_eq]
  rfl

theorem Numbers.isDigit (numbers : Numbers name extension digits) :
    ∀ digit ∈ digits, digit.isDigit = true :=
  fun digit member => isDigit_iff.mpr (numbers.decimal digit member)

/-- A name spells an id if it has digits of that value before the extension. -/
theorem spells_iff : Spells name extension id ↔
    ∃ digits, Numbers name extension digits ∧ placeValue digits = id.number ∧
      id.number < 2 ^ 64 := by
  simp only [Spells, ← decimalValue_eq_placeValue]
  constructor
  · rintro ⟨digits, nonempty, decimal, split_eq, value, bounded⟩
    have between (digit : Char) (member : digit ∈ digits) : '0' ≤ digit ∧ digit ≤ '9' :=
      isDigit_iff.mp (List.all_eq_true.mp decimal digit member)
    exact ⟨digits, ⟨nonempty, between, split_eq⟩, value, bounded⟩
  · rintro ⟨digits, numbers, value, bounded⟩
    exact ⟨digits, numbers.nonempty, List.all_eq_true.mpr numbers.isDigit, numbers.split_eq, value,
      bounded⟩

/-- The digits of a name decide what it denotes: their value, if it has 64 bits. -/
theorem parse_of_numbers (numbers : Numbers name extension digits) :
    parse name extension =
      if placeValue digits < 2 ^ 64 then some ⟨placeValue digits⟩ else none := by
  split
  · rename_i bounded
    exact parse_eq_some_iff.mpr (spells_iff.mpr ⟨digits, numbers, rfl, bounded⟩)
  · rename_i large
    rw [Option.eq_none_iff_forall_ne_some]
    intro id denotes
    obtain ⟨others, again, value, bounded⟩ := spells_iff.mp (parse_eq_some_iff.mp denotes)
    have same : digits = others :=
      List.append_cancel_right (numbers.split_eq.symm.trans again.split_eq)
    exact large (by rw [same, value]; exact bounded)

/-- A name spells an id if it is the id's own with zeros in front. -/
theorem spells_iff_zeros : Spells name extension id ↔
    id.number < 2 ^ 64 ∧
      ∃ zeros, name.toList = List.replicate zeros '0' ++ (id.fileName extension).toList := by
  simp only [toList_fileName, ← List.append_assoc]
  constructor
  · rintro ⟨digits, nonempty, decimal, split_eq, value, bounded⟩
    obtain ⟨zeros, digits_eq⟩ := exists_zeros nonempty (List.all_eq_true.mp decimal)
    refine ⟨bounded, zeros, ?_⟩
    rw [← value, ← digits_eq, split_eq]
  · rintro ⟨bounded, zeros, split_eq⟩
    refine ⟨_, ?_, ?_, split_eq, ?_, bounded⟩
    · exact List.append_ne_nil_of_right_ne_nil _ Nat.toDigits_ne_nil
    · rw [List.all_append, Bool.and_eq_true, List.all_eq_true, List.all_eq_true]
      constructor
      · intro digit member
        rw [List.eq_of_mem_replicate member]
        rfl
      · intro digit member
        exact Nat.isDigit_of_mem_toDigits (by decide) (by decide) member
    · rw [decimalValue_zeros_append, decimalValue_toDigits]

end SegmentId

/-! ## Reading in machine words -/

namespace Word

/-- The value of digits, read one after the other with a product and a sum that must
be words. -/
def readDecimal (digits : List Char) : Except Halt Nat :=
  digits.foldlM (fun value digit => do
    let tens ← mul 10 value
    add tens (digit.toNat - '0'.toNat)) 0

theorem readDecimal_concat (digits : List Char) (digit : Char) :
    readDecimal (digits ++ [digit]) = (do
      let value ← readDecimal digits
      let tens ← mul 10 value
      add tens (digit.toNat - '0'.toNat)) := by
  simp only [readDecimal, List.foldlM_append, List.foldlM_cons, List.foldlM_nil, bind_pure]

/-- Digits are read if their value is a word. What leaves the range on the way does
not come back to it, since the digits that follow only add to the value. -/
theorem readDecimal_eq (digits : List Char) :
    readDecimal digits =
      if SegmentId.placeValue digits < 2 ^ 64 then .ok (SegmentId.placeValue digits)
      else .error .outOfRange := by
  induction digits using List.reverseRecOn with
  | nil => rfl
  | append_singleton front last ih =>
      rw [readDecimal_concat, ih, SegmentId.placeValue_concat]
      by_cases before : SegmentId.placeValue front < 2 ^ 64
      · rw [if_pos before, ok_bind, mul]
        by_cases tens : 10 * SegmentId.placeValue front ≤ maxOffset
        · rw [if_pos tens, ok_bind, add, Nat.add_comm]
          exact if_congr (by rw [maxOffset]; omega) rfl rfl
        · rw [if_neg tens, if_neg (by rw [maxOffset] at tens; omega)]
          rfl
      · rw [if_neg before, if_neg (by omega)]
        rfl

end Word

namespace SegmentId

/-- File names are a faithful code of segment ids under every extension. A name
denotes an id exactly if it consists of decimal digits and the extension and the
digits have the value of the id, a number of 64 bits; reading the digits in machine
words comes to the same, also where it leaves the range. The names of an id are its
own with any zeros in front. Its own denotes it again, and different ids have
different names. -/
theorem names_faithful (extension : String) :
    (∀ name id, parse name extension = some id ↔
      ∃ digits, Numbers name extension digits ∧ placeValue digits = id.number ∧
        id.number < 2 ^ 64) ∧
    (∀ name digits, Numbers name extension digits →
      (parse name extension).map number = (Word.readDecimal digits).toOption) ∧
    (∀ name id, parse name extension = some id ↔ id.number < 2 ^ 64 ∧
      ∃ zeros, name.toList = List.replicate zeros '0' ++ (id.fileName extension).toList) ∧
    (∀ id, parse (id.fileName extension) extension = some id ↔ id.number < 2 ^ 64) ∧
    Function.Injective fun id => fileName id extension := by
  constructor
  · intro name id
    exact parse_eq_some_iff.trans spells_iff
  constructor
  · intro name digits numbers
    rw [parse_of_numbers numbers, Word.readDecimal_eq]
    split <;> rfl
  constructor
  · intro name id
    exact parse_eq_some_iff.trans spells_iff_zeros
  constructor
  · intro id
    constructor
    · intro denotes
      exact (spells_iff_zeros.mp (parse_eq_some_iff.mp denotes)).1
    · intro bounded
      exact parse_fileName bounded extension
  · intro id other same
    exact fileName_inj same

/-- Digits of the extension are none of the number. -/
example : parse "00712" "12" = some ⟨7⟩ := by
  decide

end SegmentId

end RecordLog
