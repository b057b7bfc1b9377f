import RecordLog.Proofs.Blocks
import RecordLog.Proofs.Written

/-!
# The space of a record

A log decides by an estimate whether a record still fits a segment: the length of
the payload, and a header for every chunk that it would have from a block boundary
on. Begun on a boundary a record takes exactly that space. Begun elsewhere it
may need one header more, since its first chunk is shorter. Before and after it
there may be padding, each of a header at the most, but before it only if the
record then begins on a boundary. The stop of a frame is therefore never more than
two headers past the estimate.
-/

namespace RecordLog.Layout

variable (layout : Layout)

/-! ## The estimate -/

theorem maxChunkData_pos : 0 < layout.maxChunkData :=
  Nat.sub_pos_of_lt layout.headerSize_lt_blockSize

theorem blockSize_eq : layout.blockSize = layout.maxChunkData + headerSize :=
  (Nat.sub_add_cancel (Nat.le_of_lt layout.headerSize_lt_blockSize)).symm

/-- The space of a payload is its length and one header for each of its chunks,
of which there is at least one. -/
theorem requiredSpace_eq (length : Nat) :
    layout.requiredSpace length =
      length + headerSize * ((length - 1) / layout.maxChunkData + 1) := by
  have pos := layout.maxChunkData_pos
  have parts := Nat.div_add_mod length layout.maxChunkData
  have short := Nat.mod_lt length pos
  simp only [requiredSpace, blockSize_eq, Nat.mul_add, Nat.mul_one]
  rw [Nat.mul_comm] at parts
  rw [Nat.mul_comm headerSize]
  by_cases remains : 0 < length % layout.maxChunkData
  · have chunks : (length - 1) / layout.maxChunkData = length / layout.maxChunkData :=
      Nat.div_eq_of_lt_le (by omega) (by rw [Nat.add_mul]; omega)
    rw [if_pos (.inl remains), chunks]
    omega
  · by_cases empty : length = 0
    · simp [empty]
    · -- all chunks are full, and the last of them ends where the next would begin
      have some_block : 0 < length / layout.maxChunkData := by
        apply Nat.pos_of_ne_zero
        intro none
        rw [none] at parts
        omega
      obtain ⟨blocks, blocks_eq⟩ := Nat.exists_eq_succ_of_ne_zero (Nat.ne_of_gt some_block)
      rw [blocks_eq, Nat.succ_mul] at parts
      have chunks : (length - 1) / layout.maxChunkData = blocks :=
        Nat.div_eq_of_lt_le (by omega) (by rw [Nat.add_mul]; omega)
      rw [if_neg (by omega), chunks, blocks_eq, Nat.succ_mul, Nat.succ_mul]
      omega

/-- A payload that fits a block needs one header. -/
theorem requiredSpace_of_le {length : Nat} (fits : length ≤ layout.maxChunkData) :
    layout.requiredSpace length = length + headerSize := by
  have pos := layout.maxChunkData_pos
  rw [requiredSpace_eq, Nat.div_eq_of_lt (by omega), Nat.zero_add, Nat.mul_one]

/-- More data needs at least as much more space. -/
theorem requiredSpace_add_le (length more : Nat) :
    layout.requiredSpace length + more ≤ layout.requiredSpace (length + more) := by
  have chunks : (length - 1) / layout.maxChunkData ≤ (length + more - 1) / layout.maxChunkData :=
    Nat.div_le_div_right (by omega)
  have headers := Nat.mul_le_mul_left headerSize (Nat.add_le_add_right chunks 1)
  rw [requiredSpace_eq, requiredSpace_eq]
  omega

theorem length_add_headerSize_le_requiredSpace (length : Nat) :
    length + headerSize ≤ layout.requiredSpace length := by
  have least := layout.requiredSpace_add_le 0 length
  rw [layout.requiredSpace_of_le (Nat.zero_le _), Nat.zero_add, Nat.zero_add] at least
  omega

/-- The data of a whole block needs the block. -/
theorem requiredSpace_maxChunkData_add {length : Nat} (pos : 0 < length) :
    layout.requiredSpace (layout.maxChunkData + length) =
      layout.blockSize + layout.requiredSpace length := by
  have chunks : (layout.maxChunkData + length - 1) / layout.maxChunkData =
      (length - 1) / layout.maxChunkData + 1 := by
    rw [Nat.add_sub_assoc pos, Nat.add_div_left _ layout.maxChunkData_pos]
  rw [requiredSpace_eq, requiredSpace_eq, chunks, blockSize_eq, Nat.mul_add headerSize (_ + 1)]
  omega

/-! ## Records begun on a boundary -/

/-- An offset is aligned if it is not padding, and no padding is longer than a
header. -/
theorem align_le_add_headerSize (offset : Nat) : layout.align offset ≤ offset + headerSize := by
  unfold align
  split
  · rename_i padded
    exact Nat.add_le_add_left (of_decide_eq_true padded) offset
  · exact Nat.le_add_right _ _

/-- A boundary has the room of a whole block. -/
theorem room_of_boundary {offset : Nat} (boundary : layout.remaining offset = layout.blockSize) :
    layout.align offset = offset ∧ layout.room offset = layout.maxChunkData := by
  have outside : layout.inPadding offset = false := by
    rw [inPadding, boundary]
    exact decide_eq_false (Nat.not_le.mpr layout.headerSize_lt_blockSize)
  exact ⟨layout.align_of_not_inPadding outside, by rw [room, boundary, maxChunkData]⟩

theorem remaining_add_blockSize (offset : Nat) :
    layout.remaining (offset + layout.blockSize) = layout.remaining offset := by
  rw [remaining, Nat.add_mod_right, remaining]

/-- From a boundary on, the rest of a payload takes the estimated space. -/
theorem stopFrom_continuation {offset : Nat} {payload : List UInt8}
    (boundary : layout.remaining offset = layout.blockSize) (nonempty : payload ≠ []) :
    PlacedChunk.stopFrom offset (layout.continuation offset payload) =
      offset + layout.requiredSpace payload.length := by
  fun_induction continuation layout offset payload with
  | case1 offset payload start room fits =>
      obtain ⟨aligned, room_eq⟩ := layout.room_of_boundary boundary
      have le : payload.length ≤ layout.maxChunkData := by
        rw [← room_eq, ← aligned]
        exact List.drop_eq_nil_iff.mp fits
      rw [layout.requiredSpace_of_le le, PlacedChunk.stopFrom, PlacedChunk.stopFrom,
        PlacedChunk.stop, Chunk.size]
      simp only [start, aligned]
      omega
  | case2 offset payload start room exceeds ih =>
      obtain ⟨aligned, room_eq⟩ := layout.room_of_boundary boundary
      have full : room = layout.maxChunkData := by rw [← room_eq, ← aligned]
      have next : start + headerSize + room = offset + layout.blockSize := by
        rw [full, blockSize_eq]
        simp only [start, aligned]
        omega
      have onward := ih (by rw [next, remaining_add_blockSize, boundary]) exceeds
      have longer : room < payload.length :=
        Nat.lt_of_not_le (mt List.drop_eq_nil_iff.mpr exceeds)
      have whole := layout.requiredSpace_maxChunkData_add (Nat.sub_pos_of_lt longer)
      rw [← full, Nat.add_sub_cancel' (Nat.le_of_lt longer)] at whole
      rw [PlacedChunk.stopFrom, PlacedChunk.stop, Chunk.size_take .middle exceeds,
        ← Nat.add_assoc, onward, next, List.length_drop, whole, Nat.add_assoc]

/-- A record ends in its block, or else fills that block and goes on from the
boundary behind it. -/
theorem recordStop_eq (offset : Nat) (payload : List UInt8) :
    layout.recordStop offset payload =
      layout.align offset + headerSize +
        if payload.length ≤ layout.room (layout.align offset) then payload.length
        else layout.room (layout.align offset) +
          layout.requiredSpace (payload.length - layout.room (layout.align offset)) := by
  unfold recordStop split
  simp only [List.drop_eq_nil_iff]
  split
  · simp only [PlacedChunk.stopFrom, PlacedChunk.stop, Chunk.size]
    omega
  · rename_i exceeds
    have outside := layout.inPadding_align offset
    have boundary : layout.remaining (layout.align offset + headerSize +
        layout.room (layout.align offset)) = layout.blockSize := by
      rw [layout.add_headerSize_add_room outside, remaining_nextBlock]
    have rest : payload.drop (layout.room (layout.align offset)) ≠ [] :=
      mt List.drop_eq_nil_iff.mp exceeds
    rw [PlacedChunk.stopFrom, PlacedChunk.stop, Chunk.size_take .first rest, ← Nat.add_assoc,
      layout.stopFrom_continuation boundary rest, List.length_drop, Nat.add_assoc]

/-- A record that begins on a boundary takes the estimated space. -/
theorem recordStop_of_boundary {offset : Nat}
    (boundary : layout.remaining offset = layout.blockSize) (payload : List UInt8) :
    layout.recordStop offset payload = offset + layout.requiredSpace payload.length := by
  obtain ⟨aligned, room_eq⟩ := layout.room_of_boundary boundary
  rw [recordStop_eq, aligned, room_eq]
  split
  · rename_i fits
    rw [layout.requiredSpace_of_le fits]
    omega
  · have length_eq : payload.length =
        layout.maxChunkData + (payload.length - layout.maxChunkData) := by omega
    rw [length_eq, layout.requiredSpace_maxChunkData_add (by omega), Nat.add_sub_cancel_left,
      blockSize_eq]
    omega

/-! ## Records begun anywhere -/

/-- Wherever it is begun, a record ends at most a header behind the estimated
space: it begins on a boundary, behind padding, or needs one more header. -/
theorem recordStop_le (offset : Nat) (payload : List UInt8) :
    layout.recordStop offset payload ≤
      offset + layout.requiredSpace payload.length + headerSize := by
  by_cases padded : layout.inPadding offset = true
  · have le := layout.align_le_add_headerSize offset
    have boundary : layout.remaining (layout.align offset) = layout.blockSize := by
      rw [layout.align_of_inPadding padded, remaining_nextBlock]
    rw [← recordStop_align, layout.recordStop_of_boundary boundary]
    omega
  · rw [recordStop_eq, layout.align_of_not_inPadding (eq_false_of_ne_true padded)]
    split
    · have := layout.length_add_headerSize_le_requiredSpace payload.length
      omega
    · have least := layout.requiredSpace_add_le (payload.length - layout.room offset)
        (layout.room offset)
      rw [Nat.sub_add_cancel (by omega)] at least
      omega

/-- The stop of a frame is at most two headers behind the estimated space. -/
theorem frame_stop_le (offset : Nat) (payload : List UInt8) :
    (layout.frame offset payload).stop ≤
      offset + layout.requiredSpace payload.length + 2 * headerSize := by
  have := layout.recordStop_le offset payload
  have := layout.align_le_add_headerSize (layout.recordStop offset payload)
  rw [frame_stop]
  omega

/-- The stop of the first frame of a file is at most one header behind the
estimated space. -/
theorem frame_stop_zero_le (payload : List UInt8) :
    (layout.frame 0 payload).stop ≤ layout.requiredSpace payload.length + headerSize := by
  have boundary : layout.remaining 0 = layout.blockSize := by
    rw [remaining, Nat.zero_mod, Nat.sub_zero]
  have := layout.recordStop_of_boundary boundary payload
  have := layout.align_le_add_headerSize (layout.recordStop 0 payload)
  rw [frame_stop]
  omega

end RecordLog.Layout
