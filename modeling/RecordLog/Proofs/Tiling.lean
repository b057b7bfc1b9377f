import RecordLog.Proofs.Passage

/-!
# Chunks side by side

The chunks of a payload fill the space from the start of its record to its
stop: each but the last reaches to the end of its block, and the next one
begins there. So every boundary between the start and the stop of a record is
the place of one of its chunks. In a file of payloads, the chunks in the same
block before a record lie side by side from the start of the block on, and a
walk over them comes to the record.
-/

namespace RecordLog

namespace Layout

variable {layout : Layout}

/-- Chunks that fill the space from a start to a stop; all but the last reach
to the end of their blocks. -/
inductive Spans (layout : Layout) (stop : Nat) : Nat → List PlacedChunk → Prop
  | last {placed : PlacedChunk} (inBlock : placed.stop ≤ layout.nextBlock placed.offset)
      (ends : placed.stop = stop) : Spans layout stop placed.offset [placed]
  | more {placed : PlacedChunk} {rest : List PlacedChunk}
      (fills : placed.stop = layout.nextBlock placed.offset)
      (onward : Spans layout stop placed.stop rest) :
      Spans layout stop placed.offset (placed :: rest)

namespace Spans

variable {start stop : Nat} {chunks : List PlacedChunk}

theorem exists_first (spans : Spans layout stop start chunks) :
    ∃ placed ∈ chunks, placed.offset = start := by
  cases spans with
  | last => exact ⟨_, List.mem_cons_self, rfl⟩
  | more => exact ⟨_, List.mem_cons_self, rfl⟩

theorem le_stop (spans : Spans layout stop start chunks) : start ≤ stop := by
  induction spans with
  | last _ ends =>
      rw [← ends, PlacedChunk.stop]
      exact Nat.le_add_right _ _
  | more _ _ ih => exact Nat.le_trans (Nat.le_add_right _ _) ih

/-- No chunk begins before its record. -/
theorem start_le (spans : Spans layout stop start chunks) {placed : PlacedChunk}
    (member : placed ∈ chunks) : start ≤ placed.offset := by
  induction spans with
  | last => rw [List.mem_singleton.mp member]
  | @more first rest _ _ ih =>
      rcases List.mem_cons.mp member with here | later
      · rw [here]
      · exact Nat.le_trans (Nat.le_add_right first.offset first.chunk.size) (ih later)

/-- No chunk stops behind its record. -/
theorem stop_le (spans : Spans layout stop start chunks) {placed : PlacedChunk}
    (member : placed ∈ chunks) : placed.stop ≤ stop := by
  induction spans with
  | last _ ends =>
      rw [List.mem_singleton.mp member]
      exact Nat.le_of_eq ends
  | more _ onward ih =>
      rcases List.mem_cons.mp member with here | later
      · rw [here]
        exact onward.le_stop
      · exact ih later

/-- A chunk ends the record, or the next one begins where it stops. -/
theorem adjacent (spans : Spans layout stop start chunks) {placed : PlacedChunk}
    (member : placed ∈ chunks) :
    placed.stop = stop ∨ placed.stop = layout.nextBlock placed.offset ∧
      ∃ next ∈ chunks, next.offset = placed.stop := by
  induction spans with
  | last _ ends =>
      rw [List.mem_singleton.mp member]
      exact .inl ends
  | more fills onward ih =>
      rcases List.mem_cons.mp member with here | later
      · obtain ⟨next, among, begins⟩ := onward.exists_first
        rw [here]
        exact .inr ⟨fills, next, List.mem_cons_of_mem _ among, begins⟩
      · rcases ih later with ends | ⟨filled, next, among, begins⟩
        · exact .inl ends
        · exact .inr ⟨filled, next, List.mem_cons_of_mem _ among, begins⟩

/-- A chunk in the block where its record stops is the last one. -/
theorem stop_eq (spans : Spans layout stop start chunks) {placed : PlacedChunk}
    (member : placed ∈ chunks) (within : stop < layout.nextBlock placed.offset) :
    placed.stop = stop := by
  rcases spans.adjacent member with ends | ⟨fills, _⟩
  · exact ends
  · rw [← fills] at within
    exact absurd (spans.stop_le member) (Nat.not_le.mpr within)

/-- Every boundary within a record is the place of a chunk. -/
theorem exists_of_boundary (spans : Spans layout stop start chunks) {boundary : Nat}
    (begins : layout.blockStart boundary = boundary) (reached : start ≤ boundary)
    (inside : boundary < stop) : ∃ placed ∈ chunks, placed.offset = boundary := by
  have first {placed : PlacedChunk} (le : placed.offset ≤ boundary)
      (lt : boundary < layout.nextBlock placed.offset) : placed.offset = boundary := by
    have same := layout.blockStart_eq_of_lt le lt
    have := layout.blockStart_le placed.offset
    omega
  induction spans with
  | last inBlock ends => exact ⟨_, List.mem_cons_self, first reached (by omega)⟩
  | @more placed rest fills onward ih =>
      by_cases here : boundary < placed.stop
      · exact ⟨_, List.mem_cons_self, first reached (by omega)⟩
      · obtain ⟨found, among, same⟩ := ih (Nat.not_lt.mp here)
        exact ⟨found, List.mem_cons_of_mem _ among, same⟩

end Spans

private theorem stop_eq_nextBlock {start : Nat} (kind : Kind) {data : List UInt8}
    (outside : layout.inPadding start = false) (exceeds : data.drop (layout.room start) ≠ []) :
    PlacedChunk.stop ⟨start, kind, data.take (layout.room start)⟩ = layout.nextBlock start := by
  rw [PlacedChunk.stop, Chunk.size_take kind exceeds, ← Nat.add_assoc,
    layout.add_headerSize_add_room outside]

private theorem stop_le_nextBlock {start : Nat} (kind : Kind) {data : List UInt8}
    (outside : layout.inPadding start = false) (fits : data.drop (layout.room start) = []) :
    PlacedChunk.stop ⟨start, kind, data⟩ ≤ layout.nextBlock start := by
  rw [← layout.add_headerSize_add_room outside, Nat.add_assoc]
  exact Nat.add_le_add_left (Chunk.size_le kind fits) start

/-- The chunks of the rest of a payload span it. -/
theorem spans_continuation (offset : Nat) (payload : List UInt8) :
    Spans layout (PlacedChunk.stopFrom offset (layout.continuation offset payload))
      (layout.align offset) (layout.continuation offset payload) := by
  fun_induction continuation layout offset payload with
  | case1 offset payload start room fits =>
      have outside := layout.inPadding_align offset
      exact .last (stop_le_nextBlock _ outside fits) rfl
  | case2 offset payload start room exceeds ih =>
      have outside := layout.inPadding_align offset
      have filled := stop_eq_nextBlock .middle outside exceeds
      have next_eq : start + headerSize + room = layout.nextBlock start :=
        layout.add_headerSize_add_room outside
      rw [next_eq, layout.align_of_not_inPadding (layout.inPadding_nextBlock start), ← filled] at ih
      rw [next_eq, ← filled]
      exact .more filled ih

/-- The chunks of a payload span its record. -/
theorem spans_split (offset : Nat) (payload : List UInt8) :
    Spans layout (layout.recordStop offset payload) (layout.align offset)
      (layout.split offset payload) := by
  have outside := layout.inPadding_align offset
  rw [recordStop]
  simp only [split]
  split
  · rename_i fits
    exact .last (stop_le_nextBlock _ outside fits) rfl
  · rename_i exceeds
    have filled := stop_eq_nextBlock .first outside exceeds
    have onward := @spans_continuation layout
      (layout.align offset + headerSize + layout.room (layout.align offset))
      (payload.drop (layout.room (layout.align offset)))
    rw [layout.add_headerSize_add_room outside,
      layout.align_of_not_inPadding (layout.inPadding_nextBlock (layout.align offset)), ← filled]
      at onward
    rw [layout.add_headerSize_add_room outside, ← filled]
    exact .more filled onward

theorem startsRecord_of_mem_continuation {offset : Nat} {payload : List UInt8}
    {placed : PlacedChunk} (member : placed ∈ layout.continuation offset payload) :
    placed.chunk.kind.startsRecord = false := by
  fun_induction continuation layout offset payload with
  | case1 offset payload start room fits =>
      rw [List.mem_singleton.mp member]
      rfl
  | case2 offset payload start room exceeds ih =>
      rcases List.mem_cons.mp member with here | later
      · rw [here]
        rfl
      · exact ih later

/-- No chunk of a payload but the first starts a record. -/
theorem startsRecord_of_mem_split {offset : Nat} {payload : List UInt8} {placed : PlacedChunk}
    (member : placed ∈ layout.split offset payload) (past : layout.align offset < placed.offset) :
    placed.chunk.kind.startsRecord = false := by
  simp only [split] at member
  split at member
  · rw [List.mem_singleton.mp member] at past
    exact absurd past (Nat.lt_irrefl _)
  · rcases List.mem_cons.mp member with here | later
    · rw [here] at past
      exact absurd past (Nat.lt_irrefl _)
    · exact startsRecord_of_mem_continuation later

end Layout

/-! ## From the start of a block -/

namespace Image

/-- Chunks lie side by side from an offset to a later one. -/
inductive Tiled (image : Image) (last : Nat) : Nat → Prop
  | here : Tiled image last last
  | chunk {offset : Nat} {chunk : Chunk} (outside : image.layout.inPadding offset = false)
      (found : image.chunkAt offset = .ok chunk)
      (onward : Tiled image last (offset + chunk.size)) : Tiled image last offset

variable {image other : Image}

namespace Tiled

theorem le {last offset : Nat} (tiled : image.Tiled last offset) : offset ≤ last := by
  induction tiled with
  | here => exact Nat.le_refl _
  | chunk _ _ _ ih => omega

theorem concat {last offset : Nat} {chunk : Chunk} (tiled : image.Tiled last offset)
    (outside : image.layout.inPadding last = false) (found : image.chunkAt last = .ok chunk) :
    image.Tiled (last + chunk.size) offset := by
  induction tiled with
  | here => exact .chunk outside found .here
  | chunk outsideFirst foundFirst _ ih => exact .chunk outsideFirst foundFirst ih

/-- A walk over chunks that lie side by side finds a record, at the latest the
one it comes to. -/
theorem findByChunk_ne_none (whole : image.Whole) (isOpen : image.isOpen = true)
    {last offset : Nat} (tiled : image.Tiled last offset)
    (outside : image.layout.inPadding last = false) (readable : image.Readable last) :
    image.findByChunk offset ≠ .ok none := by
  induction tiled with
  | here =>
      rw [findByChunk_of_readable whole isOpen outside readable]
      simp
  | @chunk offset chunk outsideFirst found _ ih =>
      by_cases first : image.Readable offset
      · rw [findByChunk_of_readable whole isOpen outsideFirst first]
        simp
      · rw [findByChunk_of_chunkAt whole isOpen outsideFirst found first]
        exact ih

end Tiled

/-- The chunk of a record in the block where the record stops. -/
private theorem chunkAt_of_spans {start stop : Nat} {chunks : List PlacedChunk}
    (spans : image.layout.Spans stop start chunks)
    (found : ∀ placed ∈ chunks, image.chunkAt placed.offset = .ok placed.chunk)
    {placed : PlacedChunk} (member : placed ∈ chunks)
    (within : stop < image.layout.nextBlock placed.offset) :
    ∃ chunk, image.chunkAt placed.offset = .ok chunk ∧ placed.offset + chunk.size = stop :=
  ⟨placed.chunk, found placed member, spans.stop_eq member within⟩

/-- Where chunks lie side by side before a record, they do after it: from the
start of the block, or from an origin within the block. -/
private theorem tiled_record {origin offset : Nat} {payload : List UInt8}
    (outside : image.layout.inPadding offset = false) (le : origin ≤ offset)
    (found : ∀ placed ∈ image.layout.split offset payload,
      image.chunkAt placed.offset = .ok placed.chunk)
    (before : image.Tiled offset (max origin (image.layout.blockStart offset))) :
    image.Tiled (image.layout.frame offset payload).stop
      (max origin (image.layout.blockStart (image.layout.frame offset payload).stop)) := by
  have spans := image.layout.spans_split offset payload
  have past := image.layout.align_lt_recordStop offset payload
  rw [image.layout.align_of_not_inPadding outside] at spans past
  rw [Layout.frame_stop]
  generalize image.layout.recordStop offset payload = stop at spans past
  have le_align := image.layout.le_align stop
  have inBlock := image.layout.lt_nextBlock (image.layout.align stop)
  by_cases within : image.layout.align stop < image.layout.nextBlock offset
  · -- the record has one chunk, in the block in which it begins
    have same := image.layout.blockStart_eq_of_lt (by omega) within
    have start_le := image.layout.blockStart_le offset
    obtain ⟨placed, member, rfl⟩ := spans.exists_first
    obtain ⟨chunk, last, ends⟩ := chunkAt_of_spans spans found member (by omega)
    rw [same, image.layout.align_eq_of_blockStart_lt (by omega), ← ends]
    exact before.concat outside last
  · have beyond := image.layout.nextBlock_le_blockStart (Nat.not_lt.mp within)
    have reached := image.layout.lt_nextBlock offset
    rw [Nat.max_eq_right (by omega)]
    by_cases behind : image.layout.blockStart (image.layout.align stop) < stop
    · -- the last chunk begins the block in which the record stops
      obtain ⟨placed, member, begins⟩ := spans.exists_of_boundary
        (image.layout.blockStart_blockStart _) (by omega) behind
      have next_eq := image.layout.nextBlock_blockStart (image.layout.align stop)
      rw [← begins] at next_eq
      obtain ⟨chunk, last, ends⟩ := chunkAt_of_spans spans found member (by omega)
      have outsideLast := image.layout.inPadding_blockStart (image.layout.align stop)
      rw [image.layout.align_eq_of_blockStart_lt behind] at begins outsideLast ⊢
      rw [begins] at last ends
      have tiled : image.Tiled (image.layout.blockStart stop + chunk.size)
          (image.layout.blockStart stop) := .chunk outsideLast last .here
      rwa [ends] at tiled
    · -- the record stops where a block begins, or in the padding before it
      have ends := image.layout.align_le (Nat.not_lt.mp behind)
        (image.layout.inPadding_blockStart _)
      rw [Nat.le_antisymm (image.layout.blockStart_le _) ends]
      exact .here

/-- Behind any beginning of a file, the chunks of the payloads written after it
lie side by side up to where the next record begins: from the start of its block,
or from the first of them. -/
theorem tiled_written_after (whole : image.Whole) {base tail : List UInt8}
    {front back : List (List UInt8)}
    (stored_eq : image.stored =
      base ++ (image.layout.writtenBytes base.length (front ++ back) ++ tail)) :
    image.Tiled (image.layout.align (image.layout.writtenStop base.length front))
      (max (image.layout.align base.length)
        (image.layout.blockStart
          (image.layout.align (image.layout.writtenStop base.length front)))) := by
  induction front using List.reverseRecOn generalizing back with
  | nil =>
      rw [Layout.writtenStop_nil, Nat.max_eq_left (image.layout.blockStart_le _)]
      exact .here
  | append_singleton front payload ih =>
      rw [List.append_assoc] at stored_eq
      have before := ih stored_eq
      have length_eq := image.layout.length_writtenBytes base.length front
      have stop_eq : image.layout.writtenStop base.length (front ++ [payload]) =
          (image.layout.frame (image.layout.writtenStop base.length front) payload).stop :=
        image.layout.writtenStop_append base.length front [payload]
      rw [Layout.writtenBytes_append, List.singleton_append, Layout.writtenBytes_cons,
        ← length_eq] at stored_eq
      have found := @chunkAt_frame image whole
        (base ++ image.layout.writtenBytes base.length front) _ payload
        (by simpa only [List.length_append, List.append_assoc] using stored_eq)
      rw [List.length_append, length_eq, ← Layout.split_align] at found
      have le := image.layout.align_mono (image.layout.le_writtenStop base.length front)
      have tiled := tiled_record (image.layout.inPadding_align _) le found before
      rw [Layout.frame_stop, Layout.recordStop_align] at tiled
      rwa [stop_eq, image.layout.align_of_not_inPadding (image.layout.inPadding_frame_stop _ _)]

/-- In a file of payloads chunks lie side by side from the start of a block to
every record that begins in it. -/
theorem tiled_written (whole : image.Whole) {front back : List (List UInt8)} {tail : List UInt8}
    (stored_eq : image.stored = image.layout.writtenBytes 0 (front ++ back) ++ tail) :
    image.Tiled (image.layout.writtenStop 0 front)
      (image.layout.blockStart (image.layout.writtenStop 0 front)) := by
  have tiled := @tiled_written_after image whole [] tail front back stored_eq
  have outside := image.layout.inPadding_writtenStop image.layout.inPadding_zero front
  rwa [List.length_nil, Layout.align_zero, Nat.zero_max,
    Layout.align_of_not_inPadding _ outside] at tiled

end Image

end RecordLog
