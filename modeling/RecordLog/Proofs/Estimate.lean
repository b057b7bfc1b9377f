import Mathlib.Algebra.Order.Floor.Div
import Mathlib.Order.Monotone.Basic
import RecordLog.Proofs.FrameShape
import RecordLog.Proofs.Spacing
import RecordLog.Proofs.Words

/-!
# The estimate of a record

The estimate counts the payload and one header for each chunk it has from a block
boundary on. It is computed by a division of words, none of which leaves its
range while the payload has less than 2 ^ 63 bytes: the smallest block still
carries nine bytes of data with each header of seven. No record takes less than
its estimate, since a shorter first chunk saves no header, and one begun on a
boundary takes no more than it and its padding.
-/

namespace RecordLog

namespace Layout

variable (layout : Layout)

/-! ## The number of chunks -/

/-- The estimate is the payload and a header for each chunk of a payload begun on
a boundary. -/
theorem requiredSpace_eq_ceilDiv (length : Nat) :
    layout.requiredSpace length =
      length + headerSize * max 1 (length ⌈/⌉ layout.maxChunkData) := by
  have pos := layout.maxChunkData_pos
  have chunks : (length - 1) / layout.maxChunkData + 1 =
      max 1 (length ⌈/⌉ layout.maxChunkData) := by
    cases length with
    | zero => rw [zero_ceilDiv, Nat.zero_sub, Nat.zero_div, Nat.max_eq_left (Nat.zero_le _)]
    | succ length =>
        have shifted : length + 1 + layout.maxChunkData - 1 = length + layout.maxChunkData := by
          omega
        rw [Nat.ceilDiv_eq_add_pred_div, shifted, Nat.add_div_right _ pos, Nat.add_sub_cancel]
        exact (Nat.max_eq_right (Nat.le_add_left _ _)).symm
  rw [requiredSpace_eq, chunks]

/-- A longer payload needs more space. -/
theorem strictMono_requiredSpace : StrictMono layout.requiredSpace := by
  apply strictMono_nat_of_lt_succ
  intro length
  exact layout.requiredSpace_add_le length 1

/-- Data for a chunk, put before a payload, needs at most one more header. -/
theorem requiredSpace_add_le_of_le {data length : Nat} (pos : 0 < length)
    (fits : data ≤ layout.maxChunkData) :
    layout.requiredSpace (data + length) ≤ data + headerSize + layout.requiredSpace length := by
  have chunks : (data + length - 1) / layout.maxChunkData ≤
      (length - 1) / layout.maxChunkData + 1 := by
    rw [← Nat.add_div_right _ layout.maxChunkData_pos]
    apply Nat.div_le_div_right
    omega
  have headers := Nat.mul_le_mul_left headerSize (Nat.add_le_add_right chunks 1)
  rw [Nat.mul_succ headerSize (_ + 1)] at headers
  rw [requiredSpace_eq, requiredSpace_eq]
  omega

/-! ## Words -/

theorem nine_le_maxChunkData : 9 ≤ layout.maxChunkData := by
  have least := layout.minBlockSize_le
  simp only [minBlockSize, headerSize, maxChunkData] at *
  omega

/-- The estimate for less than 2 ^ 63 bytes is a word. -/
theorem requiredSpace_le_maxOffset {length : Nat} (short : length < 2 ^ 63) :
    layout.requiredSpace length ≤ maxOffset := by
  have chunks : (length - 1) / layout.maxChunkData ≤ (length - 1) / 9 :=
    Nat.div_le_div_left layout.nine_le_maxChunkData (by decide)
  -- sixteen ninths of 2 ^ 63 are less than 2 ^ 64
  rw [requiredSpace_eq]
  simp only [headerSize, maxOffset] at *
  omega

end Layout

namespace Word

/-- The estimate for a payload of some length. -/
def requiredSpace (layout : Layout) (length : Nat) : Except Halt Nat := do
  let most ← sub layout.blockSize headerSize
  let blocks ← div length most
  let rest ← mod length most
  let tail ← if 0 < rest ∨ length = 0 then add rest headerSize else .ok 0
  let whole ← mul blocks layout.blockSize
  add whole tail

/-- The estimate for less than 2 ^ 63 bytes is computed in range. -/
theorem requiredSpace_eq {layout : Layout} {length : Nat} (short : length < 2 ^ 63) :
    requiredSpace layout length = .ok (layout.requiredSpace length) := by
  have pos := layout.maxChunkData_pos
  have word := layout.requiredSpace_le_maxOffset short
  have most_eq : layout.blockSize - headerSize = layout.maxChunkData := rfl
  rw [requiredSpace, sub_eq (Nat.le_of_lt layout.headerSize_lt_blockSize), ok_bind, most_eq,
    div_eq pos, ok_bind, mod_eq pos, ok_bind]
  rw [Layout.requiredSpace] at word ⊢
  split
  · rename_i some_tail
    rw [if_pos some_tail] at word
    rw [add_eq (by omega), mul_eq (by omega)]
    exact add_eq word
  · rename_i no_tail
    rw [if_neg no_tail] at word
    rw [mul_eq word]
    exact add_eq word

end Word

namespace Layout

variable (layout : Layout)

/-! ## Bounds -/

theorem room_le_maxChunkData (offset : Nat) : layout.room offset ≤ layout.maxChunkData :=
  Nat.sub_le_sub_right (layout.remaining_le offset) headerSize

/-- A record does not take less than the estimate from where it starts. -/
theorem align_add_requiredSpace_le (offset : Nat) (payload : List UInt8) :
    layout.align offset + layout.requiredSpace payload.length ≤
      layout.recordStop offset payload := by
  have room_le := layout.room_le_maxChunkData (layout.align offset)
  rw [recordStop_eq]
  split
  · rename_i fits
    rw [layout.requiredSpace_of_le (Nat.le_trans fits room_le)]
    omega
  · rename_i exceeds
    have split_eq : layout.room (layout.align offset) +
        (payload.length - layout.room (layout.align offset)) = payload.length := by omega
    have least := layout.requiredSpace_add_le_of_le
      (Nat.sub_pos_of_lt (Nat.lt_of_not_le exceeds)) room_le
    rw [split_eq] at least
    omega

theorem le_frame_stop (offset : Nat) (payload : List UInt8) :
    offset + layout.requiredSpace payload.length ≤ (layout.frame offset payload).stop := by
  calc offset + layout.requiredSpace payload.length
      ≤ layout.align offset + layout.requiredSpace payload.length :=
        Nat.add_le_add_right (layout.le_align offset) _
    _ ≤ layout.recordStop offset payload := layout.align_add_requiredSpace_le offset payload
    _ ≤ (layout.frame offset payload).stop := layout.recordStop_le_frame_stop offset payload

/-- A frame whose record starts on a boundary takes the estimate and its
padding. -/
theorem frame_stop_of_boundary {offset : Nat} (payload : List UInt8)
    (boundary : layout.align offset % layout.blockSize = 0) :
    offset + layout.requiredSpace payload.length + (layout.frame offset payload).padding =
      (layout.frame offset payload).stop := by
  have whole : layout.remaining (layout.align offset) = layout.blockSize := by
    rw [remaining, boundary, Nat.sub_zero]
  have takes := layout.recordStop_of_boundary whole payload
  have start_le := layout.le_align offset
  have stop_le := layout.recordStop_le_frame_stop offset payload
  rw [recordStop_align] at takes
  rw [frame_padding, frame_start]
  omega

/-- The estimate is computed without leaving the range of words, counts a header
for each chunk of a payload begun on a boundary, bounds what is framed from
below and to within two headers, is met there but for the padding, and grows
with the payload. -/
theorem requiredSpace_tight :
    (∀ length < 2 ^ 63,
      Word.requiredSpace layout length = .ok (layout.requiredSpace length) ∧
        layout.requiredSpace length =
          length + headerSize * max 1 (length ⌈/⌉ layout.maxChunkData)) ∧
      (∀ offset payload,
        offset + layout.requiredSpace payload.length ≤ (layout.frame offset payload).stop ∧
          (layout.frame offset payload).stop ≤
            offset + layout.requiredSpace payload.length + 2 * headerSize) ∧
      (∀ offset payload, (layout.frame offset payload).start % layout.blockSize = 0 →
        offset + layout.requiredSpace payload.length + (layout.frame offset payload).padding =
          (layout.frame offset payload).stop) ∧
      StrictMono layout.requiredSpace := by
  refine ⟨?_, ?_, ?_, layout.strictMono_requiredSpace⟩
  · intro length short
    exact ⟨Word.requiredSpace_eq short, layout.requiredSpace_eq_ceilDiv length⟩
  · intro offset payload
    exact ⟨layout.le_frame_stop offset payload, layout.frame_stop_le offset payload⟩
  · intro offset payload boundary
    exact layout.frame_stop_of_boundary payload boundary

/-- Seventy bytes in blocks of 32 are estimated at 91, which is what they take on a
boundary but for the padding; behind nine bytes they take no less. -/
theorem requiredSpace_tight_seventy :
    let layout : Layout := ⟨32, by decide, by decide⟩
    let payload := List.replicate 70 (1 : UInt8)
    Word.requiredSpace layout 70 = .ok 91 ∧
      9 + 91 ≤ (layout.frame 9 payload).stop ∧
        (layout.frame 64 payload).start % 32 = 0 ∧
          64 + 91 + (layout.frame 64 payload).padding = (layout.frame 64 payload).stop ∧
            91 < layout.requiredSpace 71 := by
  intro layout payload
  obtain ⟨words, bounds, boundary, grows⟩ := layout.requiredSpace_tight
  have estimate : layout.requiredSpace 70 = 91 := by decide
  have start_eq : (layout.frame 64 payload).start % layout.blockSize = 0 := by decide
  obtain ⟨computed, -⟩ := words 70 (by decide)
  have least := (bounds 9 payload).1
  have exact_fit := boundary 64 payload start_eq
  have more := grows (Nat.lt_succ_self 70)
  rw [List.length_replicate, estimate] at least exact_fit
  rw [estimate] at computed more
  exact ⟨computed, least, start_eq, exact_fit, more⟩

end Layout

end RecordLog
