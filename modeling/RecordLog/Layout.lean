import RecordLog.Chunk

/-!
# Block geometry

A segment file is a sequence of blocks of one size. Blocks carry no mark on
the file: a boundary is a multiple of the block size. A chunk never crosses a
boundary, and the last bytes of a block that hold no more than a header are
padding. The block size is bounded below by two headers and two bytes, and
above by the largest block whose chunks the length field can still describe;
both bounds are part of the type.
-/

namespace RecordLog

/-- The smallest block size. -/
def minBlockSize : Nat := 2 * headerSize + 2

/-- The largest block size. -/
def maxBlockSize : Nat := maxDataSize + headerSize

/-- The block size used where none is given. -/
def defaultBlockSize : Nat := 32 * 1024

/-- Offsets are numbers of 64 bits. -/
def maxOffset : Nat := 0xFFFFFFFFFFFFFFFF

/-- A block size within its bounds. -/
structure Layout where
  blockSize : Nat
  minBlockSize_le : minBlockSize ≤ blockSize
  le_maxBlockSize : blockSize ≤ maxBlockSize
  deriving DecidableEq

namespace Layout

instance : Inhabited Layout := ⟨⟨defaultBlockSize, by decide, by decide⟩⟩

/-- The layout of a given block size. -/
def ofBlockSize (size : Nat) : Except Failure Layout :=
  if h : minBlockSize ≤ size ∧ size ≤ maxBlockSize then .ok ⟨size, h.1, h.2⟩
  else .error (.config (.blockSize size))

variable (layout : Layout)

/-- The largest data a single chunk can carry. -/
def maxChunkData : Nat := layout.blockSize - headerSize

/-- The bytes from an offset to the end of its block, at least one. -/
def remaining (offset : Nat) : Nat :=
  layout.blockSize - offset % layout.blockSize

/-- Whether an offset lies in the padding of its block. -/
def inPadding (offset : Nat) : Bool :=
  layout.remaining offset ≤ headerSize

/-- The first offset at or after the given one that is not padding. -/
def align (offset : Nat) : Nat :=
  if layout.inPadding offset then offset + layout.remaining offset else offset

/-- The aligned offset as far as offsets go: alignment stops at the largest
one. -/
def readOffset (offset : Nat) : Nat :=
  min (layout.align offset) maxOffset

/-- The start of the block after the one an offset lies in. -/
def nextBlock (offset : Nat) : Nat :=
  (offset / layout.blockSize + 1) * layout.blockSize

/-- The data that a chunk at an offset can carry. -/
def room (offset : Nat) : Nat :=
  layout.remaining offset - headerSize

/-- The bytes a payload of the given length occupies without padding, when it
starts on a block boundary; a lower bound elsewhere. -/
def requiredSpace (length : Nat) : Nat :=
  let rest := length % layout.maxChunkData
  length / layout.maxChunkData * layout.blockSize +
    if 0 < rest ∨ length = 0 then rest + headerSize else 0

theorem headerSize_lt_blockSize : headerSize < layout.blockSize := by
  have := layout.minBlockSize_le
  simp only [minBlockSize, headerSize] at *
  omega

theorem blockSize_pos : 0 < layout.blockSize :=
  Nat.lt_of_le_of_lt (Nat.zero_le _) layout.headerSize_lt_blockSize

theorem remaining_pos (offset : Nat) : 0 < layout.remaining offset :=
  Nat.sub_pos_of_lt (Nat.mod_lt _ layout.blockSize_pos)

theorem remaining_le (offset : Nat) : layout.remaining offset ≤ layout.blockSize :=
  Nat.sub_le _ _

/-- The end of the block an offset lies in. -/
theorem add_remaining (offset : Nat) :
    offset + layout.remaining offset = layout.nextBlock offset := by
  have := Nat.mod_lt offset layout.blockSize_pos
  have := Nat.div_add_mod offset layout.blockSize
  rw [remaining, nextBlock, Nat.add_mul, Nat.one_mul, Nat.mul_comm]
  omega

theorem lt_nextBlock (offset : Nat) : offset < layout.nextBlock offset := by
  have := layout.remaining_pos offset
  rw [← layout.add_remaining]
  omega

/-- A block boundary has its whole block before it. -/
theorem remaining_nextBlock (offset : Nat) :
    layout.remaining (layout.nextBlock offset) = layout.blockSize := by
  simp [remaining, nextBlock]

theorem le_align (offset : Nat) : offset ≤ layout.align offset := by
  unfold align
  split <;> omega

/-- An aligned offset is not padding. -/
theorem inPadding_align (offset : Nat) : layout.inPadding (layout.align offset) = false := by
  have := layout.headerSize_lt_blockSize
  unfold align
  split
  · rw [layout.add_remaining, inPadding, layout.remaining_nextBlock]
    simpa using this
  · rename_i outside
    exact eq_false_of_ne_true outside

/-- An offset that is not padding is aligned already. -/
theorem align_of_not_inPadding {offset : Nat} (h : layout.inPadding offset = false) :
    layout.align offset = offset := by
  simp [align, h]

@[simp]
theorem align_align (offset : Nat) :
    layout.align (layout.align offset) = layout.align offset :=
  layout.align_of_not_inPadding (layout.inPadding_align offset)

/-- A chunk at an aligned offset can carry data. -/
theorem room_align_pos (offset : Nat) : 0 < layout.room (layout.align offset) := by
  have := layout.inPadding_align offset
  simp only [inPadding, decide_eq_false_iff_not] at this
  simp only [room]
  omega

end Layout

end RecordLog
