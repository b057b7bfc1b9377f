import Mathlib.Order.Bounds.Defs
import RecordLog.Proofs.Tiling

/-!
# The shape of a frame

A frame begins with zeros up to the first offset that has room for data. There
the record starts: one full chunk if the payload fits the rest of the block, and
otherwise a first chunk that fills the block, middle chunks that fill theirs and
a last one, none of them empty. Nothing stands between the chunks. Behind the
record there are zeros if its block has no room for another chunk, so that a
frame always stops where the next record can start.
-/

namespace RecordLog

namespace Layout

/-! ## Records as chunks -/

/-- The chunks that carry a record on from an offset to its stop: middle chunks
up to the end of their blocks, and a last one. -/
inductive RestFramed (layout : Layout) : Nat → List UInt8 → List Chunk → Nat → Prop
  | last {offset : Nat} {data : List UInt8} (nonempty : data ≠ [])
      (inBlock : Chunk.size ⟨.last, data⟩ ≤ layout.remaining offset) :
      RestFramed layout offset data [⟨.last, data⟩] (offset + Chunk.size ⟨.last, data⟩)
  | middle {offset stop : Nat} {data rest : List UInt8} {chunks : List Chunk}
      (nonempty : data ≠ []) (fills : Chunk.size ⟨.middle, data⟩ = layout.remaining offset)
      (onward : RestFramed layout (offset + Chunk.size ⟨.middle, data⟩) rest chunks stop) :
      RestFramed layout offset (data ++ rest) (⟨.middle, data⟩ :: chunks) stop

/-- The chunks of a record from its start to its stop: a full one, or a first
one up to the end of its block and those that carry the record on. -/
inductive RecordFramed (layout : Layout) : Nat → List UInt8 → List Chunk → Nat → Prop
  | full {offset : Nat} {data : List UInt8}
      (inBlock : Chunk.size ⟨.full, data⟩ ≤ layout.remaining offset) :
      RecordFramed layout offset data [⟨.full, data⟩] (offset + Chunk.size ⟨.full, data⟩)
  | spanning {offset stop : Nat} {data rest : List UInt8} {chunks : List Chunk}
      (nonempty : data ≠ []) (fills : Chunk.size ⟨.first, data⟩ = layout.remaining offset)
      (onward : RestFramed layout (offset + Chunk.size ⟨.first, data⟩) rest chunks stop) :
      RecordFramed layout offset (data ++ rest) (⟨.first, data⟩ :: chunks) stop

variable {layout : Layout}

namespace RestFramed

variable {offset stop : Nat} {data : List UInt8} {chunks : List Chunk}

theorem stop_eq (framed : RestFramed layout offset data chunks stop) :
    stop = offset + data.length + headerSize * chunks.length := by
  induction framed with
  | last =>
      simp only [Chunk.size, List.length_singleton]
      omega
  | middle _ _ _ ih =>
      rw [ih]
      simp only [Chunk.size, List.length_append, List.length_cons, Nat.mul_succ]
      omega

theorem data_ne_nil (framed : RestFramed layout offset data chunks stop) : data ≠ [] := by
  cases framed with
  | last nonempty => exact nonempty
  | middle nonempty => exact List.append_ne_nil_of_left_ne_nil nonempty _

theorem kind_ne_full (framed : RestFramed layout offset data chunks stop) :
    ∀ chunk ∈ chunks, chunk.kind ≠ .full := by
  induction framed with
  | last =>
      intro chunk member
      rw [List.mem_singleton.mp member]
      nofun
  | middle _ _ _ ih =>
      intro chunk member
      rcases List.mem_cons.mp member with rfl | later
      · nofun
      · exact ih chunk later

end RestFramed

namespace RecordFramed

variable {offset stop : Nat} {payload : List UInt8} {chunks : List Chunk}

/-- A record takes up its payload and a header for each chunk. -/
theorem stop_eq (framed : RecordFramed layout offset payload chunks stop) :
    stop = offset + payload.length + headerSize * chunks.length := by
  cases framed with
  | full =>
      simp only [Chunk.size, List.length_singleton]
      omega
  | spanning _ _ onward =>
      rw [onward.stop_eq]
      simp only [Chunk.size, List.length_append, List.length_cons, Nat.mul_succ]
      omega

/-- A record has a full chunk exactly if its payload fits the rest of the
block. -/
theorem full_iff (framed : RecordFramed layout offset payload chunks stop) :
    (∃ chunk ∈ chunks, chunk.kind = .full) ↔
      headerSize + payload.length ≤ layout.remaining offset := by
  cases framed with
  | full inBlock => exact iff_of_true ⟨_, List.mem_singleton_self _, rfl⟩ inBlock
  | spanning _ fills onward =>
      apply iff_of_false
      · rintro ⟨chunk, member, isFull⟩
        rcases List.mem_cons.mp member with rfl | later
        · cases isFull
        · exact onward.kind_ne_full chunk later isFull
      · have more := List.length_pos_of_ne_nil onward.data_ne_nil
        simp only [Chunk.size] at fills
        rw [List.length_append]
        omega

end RecordFramed

/-! ## Payloads that are split -/

/-- A payload that exceeds the room at an offset fills the block from there with
some of its data, and the rest goes on at the boundary. -/
theorem fills_of_exceeds (kind : Kind) {start : Nat} {payload : List UInt8}
    (outside : layout.inPadding start = false) (exceeds : payload.drop (layout.room start) ≠ []) :
    payload.take (layout.room start) ≠ [] ∧
      Chunk.size ⟨kind, payload.take (layout.room start)⟩ = layout.remaining start ∧
        layout.align (start + headerSize + layout.room start) =
          start + Chunk.size ⟨kind, payload.take (layout.room start)⟩ := by
  have size_eq := Chunk.size_take kind exceeds
  have room_eq := layout.headerSize_add_room outside
  refine ⟨?_, size_eq.trans room_eq, ?_⟩
  · rw [ne_eq, List.take_eq_nil_iff, not_or]
    constructor
    · rw [inPadding, decide_eq_false_iff_not] at outside
      omega
    · rintro rfl
      exact exceeds List.drop_nil
  · rw [size_eq, ← Nat.add_assoc, layout.add_headerSize_add_room outside]
    exact layout.align_of_not_inPadding (layout.inPadding_nextBlock _)

/-- What is left of a payload is shorter than the payload. -/
theorem length_drop_room_lt (layout : Layout) {offset : Nat} {payload : List UInt8}
    (exceeds : payload.drop (layout.room (layout.align offset)) ≠ []) :
    (payload.drop (layout.room (layout.align offset))).length < payload.length := by
  have longer := Nat.lt_of_not_le (mt List.drop_eq_nil_iff.mpr exceeds)
  have room_pos := layout.room_align_pos offset
  rw [List.length_drop]
  omega

/-- The rest of a payload does not stop before it starts. -/
theorem align_le_stopFrom (layout : Layout) (offset : Nat) (payload : List UInt8) :
    layout.align offset ≤
      layout.align (PlacedChunk.stopFrom offset (layout.continuation offset payload)) :=
  layout.align_mono (PlacedChunk.le_stopFrom (chain_continuation offset payload))

/-- The rest of a payload is framed from the next aligned offset on. -/
theorem restFramed_continuation (offset : Nat) {payload : List UInt8} (nonempty : payload ≠ []) :
    RestFramed layout (layout.align offset) payload
      ((layout.continuation offset payload).map PlacedChunk.chunk)
      (PlacedChunk.stopFrom offset (layout.continuation offset payload)) := by
  fun_induction continuation layout offset payload with
  | case1 offset payload start room fits =>
      apply RestFramed.last nonempty
      rw [← layout.headerSize_add_room (layout.inPadding_align offset)]
      exact Chunk.size_le .last fits
  | case2 offset payload start room exceeds ih =>
      obtain ⟨some_data, fills, boundary⟩ :=
        fills_of_exceeds .middle (layout.inPadding_align offset) exceeds
      have onward := ih exceeds
      rw [boundary] at onward
      have framed := RestFramed.middle some_data fills onward
      rw [List.take_append_drop] at framed
      rw [List.map_cons, PlacedChunk.stopFrom, PlacedChunk.stop, Chunk.size_take .middle exceeds,
        ← Nat.add_assoc]
      exact framed

/-- A payload that is split is framed from where its record starts to where it
stops. -/
theorem recordFramed_split (offset : Nat) (payload : List UInt8) :
    RecordFramed layout (layout.align offset) payload
      ((layout.split offset payload).map PlacedChunk.chunk) (layout.recordStop offset payload) := by
  rw [recordStop]
  simp only [split]
  split
  · rename_i fits
    apply RecordFramed.full
    rw [← layout.headerSize_add_room (layout.inPadding_align offset)]
    exact Chunk.size_le .full fits
  · rename_i exceeds
    obtain ⟨some_data, fills, boundary⟩ :=
      fills_of_exceeds .first (layout.inPadding_align offset) exceeds
    have onward : RestFramed layout _ _ _ _ := restFramed_continuation
      (layout.align offset + headerSize + layout.room (layout.align offset)) exceeds
    rw [boundary] at onward
    have framed := RecordFramed.spanning some_data fills onward
    rw [List.take_append_drop] at framed
    rw [List.map_cons, PlacedChunk.stopFrom, PlacedChunk.stop, Chunk.size_take .first exceeds,
      ← Nat.add_assoc]
    exact framed

/-! ## The bytes of a frame -/

/-- Chunks that lie side by side are rendered without anything between them. -/
theorem Spans.render_eq {start stop : Nat} {chunks : List PlacedChunk}
    (spans : Spans layout stop start chunks) :
    PlacedChunk.render layout start chunks =
      (chunks.map PlacedChunk.chunk).flatMap Chunk.bytes ++
        List.replicate (layout.align stop - stop) 0 := by
  induction spans with
  | last _ ends => simp [PlacedChunk.render, ends]
  | more _ _ ih => simp [PlacedChunk.render, ih]

/-- Chunks that lie side by side take up all the space between their ends. -/
theorem Spans.add_totalSize {start stop : Nat} {chunks : List PlacedChunk}
    (spans : Spans layout stop start chunks) :
    start + PlacedChunk.totalSize chunks = stop := by
  induction spans with
  | last _ ends =>
      rw [← ends]
      rfl
  | more _ _ ih =>
      rw [← ih, PlacedChunk.totalSize, PlacedChunk.stop, Nat.add_assoc]

/-- A payload is rendered behind zeros up to the start of its record. -/
theorem render_split (offset : Nat) (payload : List UInt8) :
    PlacedChunk.render layout offset (layout.split offset payload) =
      List.replicate (layout.align offset - offset) 0 ++
        PlacedChunk.render layout (layout.align offset) (layout.split offset payload) := by
  obtain ⟨chunk, rest, split_eq⟩ := layout.exists_split_eq_cons offset payload
  rw [split_eq, PlacedChunk.render, PlacedChunk.render, Nat.sub_self, List.replicate_zero,
    List.nil_append]

/-- The chunks of a payload take up the space from the start of its record to
its stop. -/
theorem align_add_totalSize_split (offset : Nat) (payload : List UInt8) :
    layout.align offset + PlacedChunk.totalSize (layout.split offset payload) =
      layout.recordStop offset payload :=
  (spans_split offset payload).add_totalSize

/-- The padding of a frame is what lies before its record and behind it. -/
theorem frame_padding (offset : Nat) (payload : List UInt8) :
    (layout.frame offset payload).padding =
      (layout.frame offset payload).start - offset +
        ((layout.frame offset payload).stop - layout.recordStop offset payload) := by
  have total := layout.align_add_totalSize_split offset payload
  have start_le := layout.le_align offset
  have stop_le := layout.recordStop_le_frame_stop offset payload
  rw [frame_start, Frame.padding]
  change (layout.frame offset payload).stop - offset -
    PlacedChunk.totalSize (layout.split offset payload) = _
  omega

end Layout

/-- What a frame of a payload for a write offset consists of, where its record
ends at a given offset. -/
structure Frame.Composed (layout : Layout) (offset : Nat) (payload : List UInt8) (frame : Frame)
    (recordStop : Nat) : Prop where
  start_least :
    IsLeast {other | offset ≤ other ∧ headerSize < layout.remaining other} frame.start
  record : layout.RecordFramed frame.start payload (frame.chunks.map PlacedChunk.chunk) recordStop
  full_iff : (∃ placed ∈ frame.chunks, placed.chunk.kind = .full) ↔
    headerSize + payload.length ≤ layout.remaining frame.start
  bytes_eq : frame.bytes = List.replicate (frame.start - offset) 0 ++
    ((frame.chunks.map PlacedChunk.chunk).flatMap Chunk.bytes ++
      List.replicate (frame.stop - recordStop) 0)
  stop_eq : frame.stop = if headerSize < layout.remaining recordStop then recordStop
    else recordStop + layout.remaining recordStop
  room_behind : headerSize < layout.remaining frame.stop
  length_eq : offset + frame.bytes.length = frame.stop
  padding_eq : frame.padding = frame.start - offset + (frame.stop - recordStop)
  cost_eq : frame.bytes.length =
    payload.length + headerSize * frame.chunks.length + frame.padding

namespace Layout

variable {layout : Layout}

theorem inPadding_eq_false_iff_lt_remaining {offset : Nat} :
    layout.inPadding offset = false ↔ headerSize < layout.remaining offset := by
  rw [inPadding, decide_eq_false_iff_not, Nat.not_le]

/-- A frame consists of padding, the chunks of its record, and padding. -/
theorem composed_frame (offset : Nat) (payload : List UInt8) :
    Frame.Composed layout offset payload (layout.frame offset payload)
      (layout.recordStop offset payload) := by
  have framed := layout.recordFramed_split offset payload
  have start_le := layout.le_align offset
  have stop_le := layout.recordStop_le_frame_stop offset payload
  have length_eq := layout.length_frame_bytes offset payload
  have padding_eq := layout.frame_padding offset payload
  have stop_eq := framed.stop_eq
  constructor
  case start_least =>
    constructor
    · exact ⟨start_le, inPadding_eq_false_iff_lt_remaining.mp (layout.inPadding_align offset)⟩
    · rintro other ⟨behind, outside⟩
      exact layout.align_le behind (inPadding_eq_false_iff_lt_remaining.mpr outside)
  case record => exact framed
  case full_iff => simpa [frame] using framed.full_iff
  case bytes_eq =>
    change PlacedChunk.render layout offset (layout.split offset payload) = _
    rw [render_split, (spans_split offset payload).render_eq]
    rfl
  case stop_eq =>
    rw [frame_stop, align]
    split
    · rename_i padded
      rw [if_neg (Nat.not_lt.mpr (of_decide_eq_true padded))]
    · rename_i outside
      rw [if_pos (inPadding_eq_false_iff_lt_remaining.mp (eq_false_of_ne_true outside))]
  case room_behind =>
    exact inPadding_eq_false_iff_lt_remaining.mp (layout.inPadding_frame_stop offset payload)
  case length_eq => exact length_eq
  case padding_eq => exact padding_eq
  case cost_eq =>
    rw [List.length_map] at stop_eq
    change (layout.frame offset payload).bytes.length =
      payload.length + headerSize * (layout.split offset payload).length + _
    rw [padding_eq, frame_start]
    omega

end Layout

end RecordLog
