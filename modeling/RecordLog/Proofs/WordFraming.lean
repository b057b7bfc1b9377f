import RecordLog.Proofs.FrameShape
import RecordLog.Proofs.Spacing
import RecordLog.Proofs.Words

/-!
# Framing with machine words

A framer has a buffer it appends to, an offset of 64 bits, and counts of the
chunks and of the padding so far. It pads, emits chunks through the encoder,
which refuses data too long for the length field, and goes on in rounds until
the payload is used up. Where the frame of the payload stops at an offset, no
operation leaves its range, nothing is refused, the rounds suffice, and the
framer appends the bytes of the frame.
-/

namespace RecordLog

/-- A framer between two chunks. -/
@[ext]
structure Framer where
  out : List UInt8
  cursor : Nat
  chunks : Nat
  padding : Nat
  deriving DecidableEq

namespace Word

/-! ## Framing -/

variable (layout : Layout)

/-- Append zeros up to the end of the block if it has no room for data. -/
def pad (framer : Framer) : Except Halt Framer := do
  let left ← remaining layout framer.cursor
  if headerSize < left then .ok framer
  else do
    let cursor ← add framer.cursor left
    let padding ← add framer.padding left
    .ok { framer with out := framer.out ++ List.replicate left 0, cursor, padding }

/-- Append a chunk, which must fit the rest of the block. -/
def emit (chunk : Chunk) (framer : Framer) : Except Halt Framer := do
  let left ← remaining layout framer.cursor
  let needed ← add chunk.data.length headerSize
  if left < needed then .error .outOfRange
  else
    match Chunk.encodeOnto framer.out chunk.kind chunk.data with
    | (.error cause, _) => .error (.failed cause)
    | (.ok written, out) => do
        let cursor ← add framer.cursor written
        let chunks ← add framer.chunks 1
        .ok { framer with out, cursor, chunks }

/-- Append a chunk and the padding behind it. -/
def put (chunk : Chunk) (framer : Framer) : Except Halt Framer := do
  let framer ← emit layout chunk framer
  pad layout framer

/-- The data that a chunk at an offset can carry. -/
def room (offset : Nat) : Except Halt Nat := do
  let left ← remaining layout offset
  sub left headerSize

/-- Append as much of a payload as there is room for; answers the rest of it. -/
def putPart (kind : Kind) (room : Nat) (payload : List UInt8) (framer : Framer) :
    Except Halt (List UInt8 × Framer) := do
  let data ← slice payload 0 room
  let rest ← slice payload room payload.length
  let framer ← put layout ⟨kind, data⟩ framer
  .ok (rest, framer)

/-- Append the rest of a payload behind its first chunk, in at most so many
rounds. -/
def putRest : Nat → List UInt8 → Framer → Except Halt Framer
  | 0, _, _ => .error .unfinished
  | count + 1, rest, framer => do
      let room ← room layout framer.cursor
      if rest.length ≤ room then put layout ⟨.last, rest⟩ framer
      else do
        let (rest, framer) ← putPart layout .middle room rest framer
        putRest count rest framer

/-- Append a framed payload to a buffer, in at most so many rounds; answers where
its record starts. -/
def frame (count offset : Nat) (payload out : List UInt8) : Except Halt (Nat × Framer) := do
  let framer ← pad layout ⟨out, offset, 0, 0⟩
  let start := framer.cursor
  let room ← room layout start
  if payload.length ≤ room then do
    let framer ← put layout ⟨.full, payload⟩ framer
    .ok (start, framer)
  else do
    let (rest, framer) ← putPart layout .first room payload framer
    let framer ← putRest layout count rest framer
    .ok (start, framer)

end Word

/-! ## Framing without bounds -/

namespace Framer

variable (layout : Layout)

/-- The framer behind the padding, if there is any. -/
def padded (framer : Framer) : Framer :=
  let padding := layout.align framer.cursor - framer.cursor
  { framer with
    out := framer.out ++ List.replicate padding 0
    cursor := layout.align framer.cursor
    padding := framer.padding + padding }

/-- The framer behind one more chunk. -/
def emitted (framer : Framer) (chunk : Chunk) : Framer :=
  { framer with
    out := framer.out ++ chunk.bytes
    cursor := framer.cursor + chunk.size
    chunks := framer.chunks + 1 }

/-- The framer behind some more chunks and the padding behind each. -/
def extended (framer : Framer) : List PlacedChunk → Framer
  | [] => framer
  | placed :: rest => extended ((framer.emitted placed.chunk).padded layout) rest

/-- The counts of a framer do not exceed its offset. -/
structure Counts (framer : Framer) : Prop where
  chunks_le : framer.chunks ≤ framer.cursor
  padding_le : framer.padding ≤ framer.cursor

variable {layout} {framer : Framer}

theorem Counts.padded (counts : framer.Counts) : (framer.padded layout).Counts := by
  have forward := layout.le_align framer.cursor
  obtain ⟨chunks_le, padding_le⟩ := counts
  constructor
  · exact Nat.le_trans chunks_le forward
  · simp only [Framer.padded]
    omega

theorem Counts.emitted (counts : framer.Counts) (chunk : Chunk) :
    (framer.emitted chunk).Counts := by
  obtain ⟨chunks_le, padding_le⟩ := counts
  constructor
  · simp only [Framer.emitted, Chunk.size, headerSize]
    omega
  · exact Nat.le_trans padding_le (Nat.le_add_right _ _)

/-- A framer appends the chunks of a chain as they are rendered. -/
theorem extended_eq {offset : Nat} {chunks : List PlacedChunk}
    (chain : layout.Chain offset chunks) {out : List UInt8}
    (out_eq : framer.out = out ++ List.replicate (layout.align offset - offset) 0)
    (cursor_eq : framer.cursor = layout.align offset) :
    (framer.extended layout chunks).out = out ++ PlacedChunk.render layout offset chunks ∧
      (framer.extended layout chunks).cursor =
          layout.align (PlacedChunk.stopFrom offset chunks) ∧
        (framer.extended layout chunks).chunks = framer.chunks + chunks.length ∧
          (framer.extended layout chunks).padding + PlacedChunk.totalSize chunks +
              framer.cursor = framer.padding + (framer.extended layout chunks).cursor := by
  induction chain generalizing framer out with
  | nil => exact ⟨out_eq, cursor_eq, rfl, rfl⟩
  | @cons offset placed rest aligned fits onward ih =>
      have stop_eq : framer.cursor + placed.chunk.size = placed.stop := by
        rw [cursor_eq, ← aligned, PlacedChunk.stop]
      have behind := layout.le_align placed.stop
      obtain ⟨outRest, cursorRest, chunksRest, paddingRest⟩ :=
        @ih ((framer.emitted placed.chunk).padded layout) (framer.out ++ placed.chunk.bytes)
          (by simp only [padded, emitted, stop_eq]) (by simp only [padded, emitted, stop_eq])
      refine ⟨?_, cursorRest, ?_, ?_⟩
      · rw [extended, outRest, out_eq, PlacedChunk.render, aligned]
        simp only [List.append_assoc]
      · rw [extended, chunksRest, List.length_cons]
        simp only [padded, emitted]
        omega
      · simp only [padded, emitted, stop_eq] at paddingRest
        rw [extended, PlacedChunk.totalSize]
        simp only [padded, emitted, stop_eq]
        omega

end Framer

namespace Word

variable {layout : Layout} {framer : Framer}

theorem pad_eq (counts : framer.Counts) (word : layout.align framer.cursor ≤ maxOffset) :
    pad layout framer = .ok (framer.padded layout) := by
  have padding_le := counts.padding_le
  rw [pad, remaining_eq, ok_bind]
  split
  · rename_i outside
    rw [← Layout.inPadding_eq_false_iff_lt_remaining] at outside
    simp [Framer.padded, layout.align_of_not_inPadding outside]
  · rename_i within
    have inside : layout.inPadding framer.cursor = true :=
      decide_eq_true (Nat.le_of_not_lt within)
    have align_eq :
        layout.align framer.cursor = framer.cursor + layout.remaining framer.cursor := by
      rw [Layout.align, if_pos inside]
    rw [align_eq] at word
    rw [add_eq word, ok_bind, add_eq (by omega), ok_bind, Framer.padded, align_eq,
      Nat.add_sub_cancel_left]

theorem emit_eq {chunk : Chunk} (counts : framer.Counts)
    (fits : chunk.size ≤ layout.remaining framer.cursor)
    (word : framer.cursor + chunk.size ≤ maxOffset) :
    emit layout chunk framer = .ok (framer.emitted chunk) := by
  have small := layout.length_le_of_fits fits
  have encoded : Chunk.encodeOnto framer.out chunk.kind chunk.data =
      (.ok chunk.size, framer.out ++ chunk.bytes) := by
    rw [Chunk.encodeOnto, Chunk.encode_eq_ok_iff.mpr ⟨small, rfl⟩]
    simp only [Chunk.length_bytes]
  have chunks_le := counts.chunks_le
  have size_eq : chunk.data.length + headerSize = chunk.size := Nat.add_comm _ _
  rw [emit, remaining_eq, ok_bind, add_eq (by omega), ok_bind, size_eq, if_neg (by omega), encoded]
  simp only
  rw [add_eq word, ok_bind, add_eq (by simp only [Chunk.size, headerSize] at word; omega), ok_bind,
    Framer.emitted]

theorem put_eq {chunk : Chunk} (counts : framer.Counts)
    (fits : chunk.size ≤ layout.remaining framer.cursor)
    (word : layout.align (framer.cursor + chunk.size) ≤ maxOffset) :
    put layout chunk framer = .ok ((framer.emitted chunk).padded layout) := by
  have forward := layout.le_align (framer.cursor + chunk.size)
  rw [put, emit_eq counts fits (Nat.le_trans forward word), ok_bind]
  exact pad_eq (counts.emitted chunk) word

theorem room_eq {offset : Nat} (outside : layout.inPadding offset = false) :
    room layout offset = .ok (layout.room offset) := by
  rw [Layout.inPadding_eq_false_iff_lt_remaining] at outside
  rw [room, remaining_eq, ok_bind, sub_eq (Nat.le_of_lt outside), Layout.room]

/-- A part of a payload that exceeds the room of its block is put, and the framer
goes on where the rest does. -/
theorem putPart_eq (kind : Kind) {offset : Nat} {payload : List UInt8} (counts : framer.Counts)
    (cursor_eq : framer.cursor = layout.align offset)
    (exceeds : payload.drop (layout.room (layout.align offset)) ≠ [])
    (word : layout.align (layout.align offset + headerSize + layout.room (layout.align offset)) ≤
      maxOffset) :
    ∃ next : Framer,
      putPart layout kind (layout.room (layout.align offset)) payload framer =
          .ok (payload.drop (layout.room (layout.align offset)), next) ∧
        next = (framer.emitted
          ⟨kind, payload.take (layout.room (layout.align offset))⟩).padded layout ∧
          next.Counts ∧ next.cursor =
            layout.align (layout.align offset + headerSize + layout.room (layout.align offset)) := by
  have longer := Nat.lt_of_not_le (mt List.drop_eq_nil_iff.mpr exceeds)
  have size_eq := Chunk.size_take kind exceeds
  have inBlock :=
    Nat.le_of_eq (size_eq.trans (layout.headerSize_add_room (layout.inPadding_align offset)))
  have stop_eq : framer.cursor +
      Chunk.size ⟨kind, payload.take (layout.room (layout.align offset))⟩ =
        layout.align offset + headerSize + layout.room (layout.align offset) := by
    rw [size_eq, cursor_eq, Nat.add_assoc]
  refine ⟨_, ?_, rfl, (counts.emitted _).padded, ?_⟩
  · rw [putPart, slice_zero (Nat.le_of_lt longer), ok_bind, slice_eq_drop (Nat.le_of_lt longer),
      ok_bind, put_eq counts (by rwa [cursor_eq]) (by rwa [stop_eq]), ok_bind]
  · rw [← stop_eq]
    rfl

/-- The rounds append the rest of a payload. Every round that goes on has used
up some of it, since a chunk at an aligned offset has room for data. -/
theorem putRest_eq {count offset : Nat} {payload : List UInt8} (counts : framer.Counts)
    (cursor_eq : framer.cursor = layout.align offset) (enough : payload.length < count)
    (word : layout.align (PlacedChunk.stopFrom offset (layout.continuation offset payload)) ≤
      maxOffset) :
    putRest layout count payload framer =
      .ok (framer.extended layout (layout.continuation offset payload)) := by
  induction count generalizing offset payload framer with
  | zero => exact absurd enough (Nat.not_lt_zero _)
  | succ count ih =>
      have outside := layout.inPadding_align offset
      rw [Layout.continuation] at word ⊢
      rw [putRest, cursor_eq, Word.room_eq outside, ok_bind]
      by_cases fits : payload.drop (layout.room (layout.align offset)) = []
      · have inBlock := Chunk.size_le .last fits
        rw [layout.headerSize_add_room outside, ← cursor_eq] at inBlock
        rw [if_pos fits] at word ⊢
        rw [if_pos (List.drop_eq_nil_iff.mp fits), put_eq counts inBlock (by rwa [cursor_eq])]
        rfl
      · rw [if_neg fits] at word ⊢
        rw [PlacedChunk.stopFrom, PlacedChunk.stop, Chunk.size_take .middle fits,
          ← Nat.add_assoc] at word
        have wordPart := Nat.le_trans (layout.align_le_stopFrom _ _) word
        obtain ⟨next, done, next_eq, nextCounts, nextCursor⟩ :=
          putPart_eq .middle counts cursor_eq fits wordPart
        rw [if_neg (mt List.drop_eq_nil_iff.mpr fits), done, ok_bind, Framer.extended, ← next_eq]
        have shorter := layout.length_drop_room_lt fits
        exact ih nextCounts nextCursor (by omega) word

/-- A framer pads and appends the chunks of the split payload. -/
theorem frame_eq_extended {count offset : Nat} {payload : List UInt8} (out : List UInt8)
    (enough : payload.length ≤ count)
    (word : (layout.frame offset payload).stop ≤ maxOffset) :
    frame layout count offset payload out =
      .ok (layout.align offset, ((Framer.mk out offset 0 0).padded layout).extended layout
        (layout.split offset payload)) := by
  have outside := layout.inPadding_align offset
  have fresh : (Framer.mk out offset 0 0).Counts := ⟨Nat.zero_le _, Nat.zero_le _⟩
  have start_le : layout.align offset ≤ maxOffset := by
    have := layout.align_lt_recordStop offset payload
    have := layout.recordStop_le_frame_stop offset payload
    omega
  have cursor_eq : ((Framer.mk out offset 0 0).padded layout).cursor = layout.align offset := rfl
  rw [Layout.frame_stop, Layout.recordStop, Layout.split] at word
  rw [frame, pad_eq fresh start_le, ok_bind, Layout.split]
  simp only [cursor_eq]
  rw [Word.room_eq outside, ok_bind]
  by_cases fits : payload.drop (layout.room (layout.align offset)) = []
  · have inBlock := Chunk.size_le .full fits
    rw [layout.headerSize_add_room outside] at inBlock
    rw [if_pos fits] at word ⊢
    rw [if_pos (List.drop_eq_nil_iff.mp fits), put_eq fresh.padded inBlock word]
    rfl
  · rw [if_neg fits] at word ⊢
    rw [PlacedChunk.stopFrom, PlacedChunk.stop, Chunk.size_take .first fits,
      ← Nat.add_assoc] at word
    have wordPart := Nat.le_trans (layout.align_le_stopFrom _ _) word
    obtain ⟨next, done, next_eq, nextCounts, nextCursor⟩ :=
      putPart_eq .first fresh.padded cursor_eq fits wordPart
    have shorter := Nat.lt_of_lt_of_le (layout.length_drop_room_lt fits) enough
    rw [if_neg (mt List.drop_eq_nil_iff.mpr fits), done, ok_bind]
    simp only
    rw [putRest_eq nextCounts nextCursor shorter word, ok_bind, Framer.extended, ← next_eq]

/-- A framer ends with the bytes of the frame behind those it was given, at the
stop of the frame and with its counts. -/
theorem frame_eq {count offset : Nat} {payload : List UInt8} (out : List UInt8)
    (enough : payload.length ≤ count)
    (word : (layout.frame offset payload).stop ≤ maxOffset) :
    frame layout count offset payload out =
      .ok ((layout.frame offset payload).start,
        { out := out ++ (layout.frame offset payload).bytes
          cursor := (layout.frame offset payload).stop
          chunks := (layout.frame offset payload).chunks.length
          padding := (layout.frame offset payload).padding }) := by
  have padded_out : ((Framer.mk out offset 0 0).padded layout).out =
      out ++ List.replicate (layout.align offset - offset) 0 := rfl
  obtain ⟨out_eq, cursor_eq, chunks_eq, padding_eq⟩ :=
    Framer.extended_eq (layout.chain_split offset payload) padded_out rfl
  rw [frame_eq_extended out enough word]
  congr 2
  apply Framer.ext
  · exact out_eq
  · exact cursor_eq
  · exact chunks_eq.trans (Nat.zero_add _)
  · have total := layout.align_add_totalSize_split offset payload
    have start_le := layout.le_align offset
    have stop_le := layout.recordStop_le_frame_stop offset payload
    rw [Layout.frame_padding, Layout.frame_start]
    change _ = (layout.frame offset payload).stop at cursor_eq
    rw [cursor_eq] at padding_eq
    simp only [Framer.padded] at padding_eq ⊢
    omega

/-! ## Well-formed frames -/

/-- Framing with machine words answers for every payload whose frame stops at an
offset. It keeps the bytes it was given and appends padding, the chunks of one
record and padding, and counts them as they are. -/
theorem frame_wellFormed {offset : Nat} {payload : List UInt8} (out : List UInt8)
    (word : (layout.frame offset payload).stop ≤ maxOffset) :
    (∀ count, payload.length ≤ count →
      frame layout count offset payload out =
        .ok ((layout.frame offset payload).start,
          { out := out ++ (layout.frame offset payload).bytes
            cursor := (layout.frame offset payload).stop
            chunks := (layout.frame offset payload).chunks.length
            padding := (layout.frame offset payload).padding })) ∧
      Frame.Composed layout offset payload (layout.frame offset payload)
        (layout.recordStop offset payload) :=
  ⟨fun _ enough => frame_eq out enough word, layout.composed_frame offset payload⟩

/-- Seventy bytes for an offset in padding, in blocks of 32: the record starts
at the next boundary, spans three blocks and has padding behind it. -/
theorem frame_wellFormed_seventy :
    let layout : Layout := ⟨32, by decide, by decide⟩
    let payload := List.replicate 70 (1 : UInt8)
    (layout.frame 25 payload).stop = 128 ∧ 128 ≤ maxOffset ∧
      Word.frame layout 70 25 payload [9] =
        .ok (32,
          { out := [9] ++ (layout.frame 25 payload).bytes
            cursor := 128
            chunks := (layout.frame 25 payload).chunks.length
            padding := (layout.frame 25 payload).padding }) ∧
        Frame.Composed layout 25 payload (layout.frame 25 payload) 123 := by
  intro layout payload
  have recordStop_eq : layout.recordStop 25 payload = 123 := by
    rw [layout.recordStop_eq]
    decide
  have stop_eq : (layout.frame 25 payload).stop = 128 := by
    rw [layout.frame_stop, recordStop_eq]
    decide
  have word : (layout.frame 25 payload).stop ≤ maxOffset := by
    rw [stop_eq]
    decide
  obtain ⟨framed, composed⟩ := frame_wellFormed [9] word
  have done := framed 70 (by decide)
  have start_eq : (layout.frame 25 payload).start = 32 := by decide
  rw [stop_eq, start_eq] at done
  rw [recordStop_eq] at composed
  exact ⟨stop_eq, by decide, done, composed⟩

end Word

end RecordLog
