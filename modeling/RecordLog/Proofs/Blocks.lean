import RecordLog.Layout

/-!
# Offsets within a block

The offsets from a given one up to the next boundary lie in the same block,
and the padding of a block is its end. Alignment therefore never passes over
an offset that is not padding, and two offsets with only padding between them
have the same aligned offset.
-/

namespace RecordLog.Layout

variable (layout : Layout)

/-- The start of the block an offset lies in. -/
def blockStart (offset : Nat) : Nat := offset / layout.blockSize * layout.blockSize

theorem blockStart_le (offset : Nat) : layout.blockStart offset ≤ offset :=
  Nat.div_mul_le_self offset layout.blockSize

theorem remaining_eq (offset : Nat) :
    layout.remaining offset = layout.nextBlock offset - offset := by
  have := layout.add_remaining offset
  omega

theorem nextBlock_eq_blockStart_add (offset : Nat) :
    layout.nextBlock offset = layout.blockStart offset + layout.blockSize := by
  rw [nextBlock, blockStart, Nat.add_mul, Nat.one_mul]

/-- The offsets up to the next boundary lie in one block. -/
theorem nextBlock_eq_of_lt {low high : Nat} (le : low ≤ high) (lt : high < layout.nextBlock low) :
    layout.nextBlock high = layout.nextBlock low := by
  have upper : high / layout.blockSize < low / layout.blockSize + 1 :=
    Nat.div_lt_of_lt_mul (by rwa [Nat.mul_comm])
  have lower := Nat.div_le_div_right (c := layout.blockSize) le
  rw [nextBlock, nextBlock, show high / layout.blockSize = low / layout.blockSize by omega]

theorem blockStart_eq_of_lt {low high : Nat} (le : low ≤ high) (lt : high < layout.nextBlock low) :
    layout.blockStart high = layout.blockStart low := by
  have same := layout.nextBlock_eq_of_lt le lt
  rw [nextBlock_eq_blockStart_add, nextBlock_eq_blockStart_add] at same
  omega

/-- A boundary lies in the block it begins. -/
@[simp]
theorem blockStart_nextBlock (offset : Nat) :
    layout.blockStart (layout.nextBlock offset) = layout.nextBlock offset := by
  rw [blockStart, nextBlock, Nat.mul_div_cancel _ layout.blockSize_pos]

@[simp]
theorem nextBlock_blockStart (offset : Nat) :
    layout.nextBlock (layout.blockStart offset) = layout.nextBlock offset := by
  rw [nextBlock, blockStart, Nat.mul_div_cancel _ layout.blockSize_pos, nextBlock]

@[simp]
theorem blockStart_blockStart (offset : Nat) :
    layout.blockStart (layout.blockStart offset) = layout.blockStart offset := by
  have same := layout.nextBlock_blockStart offset
  rw [nextBlock_eq_blockStart_add, nextBlock_eq_blockStart_add] at same
  omega

/-- An offset past a boundary does not lie in the block before it. -/
theorem nextBlock_le_blockStart {low high : Nat} (le : layout.nextBlock low ≤ high) :
    layout.nextBlock low ≤ layout.blockStart high := by
  rw [nextBlock, blockStart]
  apply Nat.mul_le_mul_right
  exact (Nat.le_div_iff_mul_le layout.blockSize_pos).mpr le

/-- A block begins where the one before it ends. -/
theorem nextBlock_pred_blockStart {offset : Nat} (pos : 0 < layout.blockStart offset) :
    layout.nextBlock (layout.blockStart offset - 1) = layout.blockStart offset := by
  have reached := layout.lt_nextBlock (layout.blockStart offset - 1)
  apply Nat.le_antisymm
  · apply Nat.le_of_not_lt
    intro past
    have same := layout.blockStart_eq_of_lt (by omega) past
    rw [blockStart_blockStart] at same
    have := layout.blockStart_le (layout.blockStart offset - 1)
    omega
  · omega

/-! ## Padding -/

theorem inPadding_iff {offset : Nat} :
    layout.inPadding offset = true ↔ layout.nextBlock offset ≤ offset + headerSize := by
  have := layout.lt_nextBlock offset
  rw [inPadding, remaining_eq, decide_eq_true_eq]
  omega

theorem inPadding_eq_false_iff {offset : Nat} :
    layout.inPadding offset = false ↔ offset + headerSize < layout.nextBlock offset := by
  have := layout.lt_nextBlock offset
  rw [inPadding, remaining_eq, decide_eq_false_iff_not]
  omega

/-- A boundary is not padding. -/
@[simp]
theorem inPadding_nextBlock (offset : Nat) :
    layout.inPadding (layout.nextBlock offset) = false := by
  have := layout.headerSize_lt_blockSize
  rw [inPadding, remaining_nextBlock, decide_eq_false_iff_not]
  omega

@[simp]
theorem inPadding_blockStart (offset : Nat) :
    layout.inPadding (layout.blockStart offset) = false := by
  have := layout.headerSize_lt_blockSize
  rw [inPadding_eq_false_iff, nextBlock_blockStart, nextBlock_eq_blockStart_add]
  omega

@[simp]
theorem inPadding_zero : layout.inPadding 0 = false := by
  have := layout.headerSize_lt_blockSize
  rw [inPadding, remaining, Nat.zero_mod, decide_eq_false_iff_not]
  omega

/-- The padding of a block is its end. -/
theorem inPadding_of_le {low high : Nat} (le : low ≤ high) (lt : high < layout.nextBlock low)
    (padded : layout.inPadding low = true) : layout.inPadding high = true := by
  have same := layout.nextBlock_eq_of_lt le lt
  rw [inPadding_iff] at padded ⊢
  omega

/-! ## Alignment -/

theorem align_of_inPadding {offset : Nat} (padded : layout.inPadding offset = true) :
    layout.align offset = layout.nextBlock offset := by
  rw [align, if_pos padded, add_remaining]

@[simp]
theorem align_zero : layout.align 0 = 0 :=
  layout.align_of_not_inPadding layout.inPadding_zero

/-- Alignment does not pass over an offset that is not padding. -/
theorem align_le {low high : Nat} (le : low ≤ high) (outside : layout.inPadding high = false) :
    layout.align low ≤ high := by
  by_cases padded : layout.inPadding low = true
  · rw [layout.align_of_inPadding padded]
    apply Nat.le_of_not_lt
    intro lt
    rw [layout.inPadding_of_le le lt padded] at outside
    cases outside
  · rwa [layout.align_of_not_inPadding (eq_false_of_ne_true padded)]

theorem align_mono {low high : Nat} (le : low ≤ high) : layout.align low ≤ layout.align high :=
  layout.align_le (Nat.le_trans le (layout.le_align high)) (layout.inPadding_align high)

/-- An offset past the start of the block that alignment leads to is not
padding. -/
theorem align_eq_of_blockStart_lt {offset : Nat}
    (past : layout.blockStart (layout.align offset) < offset) : layout.align offset = offset := by
  apply layout.align_of_not_inPadding
  apply eq_false_of_ne_true
  intro padded
  rw [layout.align_of_inPadding padded, blockStart_nextBlock] at past
  exact absurd past (Nat.not_lt.mpr (Nat.le_of_lt (layout.lt_nextBlock offset)))

/-- An offset between another and its aligned offset is aligned to the same. -/
theorem align_eq_of_le_align {low high : Nat} (le : low ≤ high)
    (le_align : high ≤ layout.align low) : layout.align high = layout.align low := by
  apply Nat.le_antisymm
  · exact layout.align_le le_align (layout.inPadding_align low)
  · exact layout.align_mono le

/-- The room of an offset that is not padding, with the header before it,
reaches to the end of the block. -/
theorem headerSize_add_room {offset : Nat} (outside : layout.inPadding offset = false) :
    headerSize + layout.room offset = layout.remaining offset := by
  rw [inPadding, decide_eq_false_iff_not] at outside
  rw [room]
  omega

theorem add_headerSize_add_room {offset : Nat} (outside : layout.inPadding offset = false) :
    offset + headerSize + layout.room offset = layout.nextBlock offset := by
  rw [Nat.add_assoc, layout.headerSize_add_room outside, add_remaining]

end RecordLog.Layout
