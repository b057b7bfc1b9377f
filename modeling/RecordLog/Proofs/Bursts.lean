import Mathlib.Logic.Function.Iterate
import RecordLog.Checksum.Table
import RecordLog.LittleEndian

/-!
# Short bursts change the checksum

The highest bit of the polynomial is set, so shifting the register loses
nothing: from the shifted register the old one can be told. Up to four bytes
that are absorbed one by one amount to their number added to the register,
which is then shifted as often; so different bytes lead to different registers,
and what is absorbed behind them keeps the registers apart. Messages that
differ within four bytes next to each other therefore have different checksums.
-/

namespace RecordLog.Checksum

/-! ## The register loses nothing -/

private theorem toNat_shiftRight_one (register : UInt32) :
    (register >>> 1).toNat = register.toNat / 2 := by
  simp [Nat.shiftRight_eq_div_pow]

/-- No register but the empty one is shifted to it. -/
theorem eq_zero_of_bitStep {register : UInt32} (gone : bitStep register = 0) : register = 0 := by
  have bound := register.toNat_lt
  have halved := toNat_shiftRight_one register
  unfold bitStep at gone
  split at gone
  · -- the polynomial reaches higher than any register that moved down
    rw [UInt32.xor_eq_zero_iff.mp gone, show polynomial.toNat = 3988292384 from rfl] at halved
    omega
  · rename_i even
    rw [and_one_eq_one_iff, Nat.testBit_zero, decide_eq_true_eq] at even
    rw [gone, UInt32.toNat_zero] at halved
    rw [← UInt32.toNat_inj, UInt32.toNat_zero]
    omega

theorem shiftByte_injective : Function.Injective shiftByte := by
  intro first second same
  have gone : shiftByte (first ^^^ second) = 0 := by
    rw [shiftByte_xor, same, UInt32.xor_self]
  unfold shiftByte at gone
  iterate 8 replace gone := eq_zero_of_bitStep gone
  exact UInt32.xor_eq_zero_iff.mp gone

theorem byteStep_injective (byte : UInt8) : Function.Injective (byteStep · byte) := by
  intro first second same
  exact UInt32.xor_left_inj _ |>.mp (shiftByte_injective same)

/-- What is absorbed keeps different registers apart. -/
theorem absorb_injective (message : List UInt8) : Function.Injective (absorb · message) := by
  induction message with
  | nil => exact fun _ _ same => same
  | cons byte rest ih => exact fun _ _ same => byteStep_injective byte (ih same)

/-! ## Four bytes fill the register -/

/-- The number in up to four bytes is in the range of the register. -/
theorem ofLittleEndian_lt_of_short {window : List UInt8} (short : window.length ≤ 4) :
    ofLittleEndian window < 4294967296 := by
  have range_eq (width : Nat) : fieldRange width = 256 ^ width := by
    induction width with
    | zero => rfl
    | succ width ih => rw [fieldRange, ih, Nat.pow_succ']
  calc
    ofLittleEndian window < 256 ^ window.length := range_eq _ ▸ ofLittleEndian_lt window
    _ ≤ 256 ^ 4 := Nat.pow_le_pow_right (by decide) short

/-- Up to four bytes are absorbed as one number, which is then shifted out. -/
theorem absorb_eq_iterate {window : List UInt8} (short : window.length ≤ 4) (register : UInt32) :
    absorb register window =
      shiftByte^[window.length] (register ^^^ .ofNat (ofLittleEndian window)) := by
  induction window generalizing register with
  | nil =>
      simp only [absorb_nil, List.length_nil, Function.iterate_zero, id_eq, ofLittleEndian]
      exact UInt32.xor_zero.symm
  | cons byte rest ih =>
      have small : 256 * ofLittleEndian rest < 4294967296 := by
        have bound : ofLittleEndian (byte :: rest) < 4294967296 := ofLittleEndian_lt_of_short short
        rw [ofLittleEndian] at bound
        omega
      have joined : byte.toUInt32 ^^^ .ofNat (256 * ofLittleEndian rest) =
          .ofNat (ofLittleEndian (byte :: rest)) := by
        have low : byte.toUInt32 = .ofNat byte.toNat := by
          apply UInt32.toNat_inj.mp
          simp
        rw [low, UInt32.xor_comm, ← UInt32.ofNat_xor, mul_xor_eq_add byte.toNat_lt, ofLittleEndian,
          Nat.add_comm]
      rw [absorb_cons, ih (Nat.le_of_succ_le short), byteStep, ← shiftByte_ofNat small, ← shiftByte_xor,
        UInt32.xor_assoc, joined, List.length_cons, Function.iterate_succ_apply]

/-- Up to four bytes are told from the register that holds their number. -/
theorem eq_of_ofNat_eq {first second : List UInt8} (length_eq : first.length = second.length)
    (short : second.length ≤ 4)
    (same : UInt32.ofNat (ofLittleEndian first) = .ofNat (ofLittleEndian second)) :
    first = second := by
  have numbers := congrArg UInt32.toNat same
  rw [UInt32.toNat_ofNat_of_lt' (ofLittleEndian_lt_of_short (length_eq ▸ short)),
    UInt32.toNat_ofNat_of_lt' (ofLittleEndian_lt_of_short short)] at numbers
  rw [← littleEndian_ofLittleEndian first, numbers, length_eq, littleEndian_ofLittleEndian]

/-- Up to four bytes are told from the register that absorbed them. -/
theorem eq_of_absorb_eq {register : UInt32} {first second : List UInt8}
    (length_eq : first.length = second.length) (short : second.length ≤ 4)
    (same : absorb register first = absorb register second) : first = second := by
  rw [absorb_eq_iterate (length_eq ▸ short), absorb_eq_iterate short, length_eq] at same
  have numbers := (UInt32.xor_right_inj register).mp
    (shiftByte_injective.iterate second.length same)
  exact eq_of_ofNat_eq length_eq short numbers

/-! ## Bursts -/

/-- Messages that differ in up to four bytes next to each other have different
checksums. -/
theorem crc32_ne {front first second back : List UInt8} (length_eq : first.length = second.length)
    (short : second.length ≤ 4) (differs : first ≠ second) :
    crc32 (front ++ (first ++ back)) ≠ crc32 (front ++ (second ++ back)) := by
  intro same
  apply differs
  have registers := (UInt32.xor_left_inj 0xFFFFFFFF).mp same
  simp only [absorb_append] at registers
  exact eq_of_absorb_eq length_eq short (absorb_injective back registers)

/-- A message that is changed within four bytes next to each other, and is as
long as before, gets another checksum. -/
theorem crc32_ne_of_changed {first second : List UInt8} (length_eq : first.length = second.length)
    (differs : first ≠ second) (start : Nat)
    (same : ∀ index, ¬ (start ≤ index ∧ index < start + 4) → first[index]? = second[index]?) :
    crc32 first ≠ crc32 second := by
  have split_eq (message : List UInt8) :
      message = message.take start ++ ((message.drop start).take 4 ++ message.drop (start + 4)) := by
    rw [← List.drop_drop, List.take_append_drop, List.take_append_drop]
  have front_eq : first.take start = second.take start := by
    apply List.ext_getElem?
    intro index
    rw [List.getElem?_take, List.getElem?_take]
    split
    · exact same index (by omega)
    · rfl
  have back_eq : first.drop (start + 4) = second.drop (start + 4) := by
    apply List.ext_getElem?
    intro index
    rw [List.getElem?_drop, List.getElem?_drop]
    exact same _ (by omega)
  rw [split_eq first, split_eq second, front_eq, back_eq]
  apply crc32_ne
  · rw [List.length_take, List.length_take, List.length_drop, List.length_drop, length_eq]
  · rw [List.length_take]
    exact Nat.min_le_left _ _
  · intro window_eq
    apply differs
    rw [split_eq first, split_eq second, front_eq, window_eq, back_eq]

end RecordLog.Checksum
