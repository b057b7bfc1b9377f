import RecordLog.Proofs.Blocks
import RecordLog.Proofs.Reading

/-!
# Frames read back

The chunks of a framed payload follow one another: each stands at the aligned
offset after the one before and fits its block. Rendering keeps that shape, so
that an image which has the bytes of a frame where they were written for finds
every chunk of it, and reading collects the payload again. The stop of a frame
is aligned, which makes it the write offset of the next one.
-/

namespace RecordLog

/-- A chunk that takes the data for some room takes it up. -/
theorem Chunk.size_take (kind : Kind) {data : List UInt8} {room : Nat}
    (exceeds : data.drop room ≠ []) : size ⟨kind, data.take room⟩ = headerSize + room := by
  have longer := mt List.drop_eq_nil_iff.mpr exceeds
  simp only [size, List.length_take]
  omega

/-- A chunk with the data that is left fits the room for it. -/
theorem Chunk.size_le (kind : Kind) {data : List UInt8} {room : Nat} (fits : data.drop room = []) :
    size ⟨kind, data⟩ ≤ headerSize + room :=
  Nat.add_le_add_left (List.drop_eq_nil_iff.mp fits) headerSize

namespace Layout

variable {layout : Layout}

/-- Chunks that follow one another from an offset on, each at the aligned
offset after the one before and within its block. -/
inductive Chain (layout : Layout) : Nat → List PlacedChunk → Prop
  | nil {offset : Nat} : Chain layout offset []
  | cons {offset : Nat} {placed : PlacedChunk} {rest : List PlacedChunk}
      (aligned : placed.offset = layout.align offset)
      (fits : placed.chunk.size ≤ layout.remaining placed.offset)
      (onward : Chain layout placed.stop rest) : Chain layout offset (placed :: rest)

theorem Chain.fits_of_mem {offset : Nat} {chunks : List PlacedChunk}
    (chain : Chain layout offset chunks) {placed : PlacedChunk} (member : placed ∈ chunks) :
    placed.chunk.size ≤ layout.remaining placed.offset := by
  induction chain with
  | nil => cases member
  | cons _ fits _ ih =>
      rcases List.mem_cons.mp member with here | later
      · rwa [here]
      · exact ih later

/-- No chunk of a chain stands in padding. -/
theorem Chain.align_of_mem {offset : Nat} {chunks : List PlacedChunk}
    (chain : Chain layout offset chunks) {placed : PlacedChunk} (member : placed ∈ chunks) :
    layout.align placed.offset = placed.offset := by
  induction chain with
  | nil => cases member
  | cons aligned _ _ ih =>
      rcases List.mem_cons.mp member with here | later
      · rw [here, aligned, layout.align_align]
      · exact ih later

/-- The rest of a payload is a chain. -/
theorem chain_continuation (offset : Nat) (payload : List UInt8) :
    Chain layout offset (layout.continuation offset payload) := by
  have room_eq (offset : Nat) := layout.headerSize_add_room (layout.inPadding_align offset)
  fun_induction continuation layout offset payload with
  | case1 offset payload start room fits =>
      have within := Chunk.size_le .last fits
      rw [room_eq] at within
      exact .cons rfl within .nil
  | case2 offset payload start room exceeds ih =>
      have size_eq := Chunk.size_take .middle exceeds
      refine .cons rfl (Nat.le_of_eq (size_eq.trans (room_eq offset))) ?_
      rwa [PlacedChunk.stop, size_eq, ← Nat.add_assoc]

/-- A payload is split into a chain. -/
theorem chain_split (offset : Nat) (payload : List UInt8) :
    Chain layout offset (layout.split offset payload) := by
  have room_eq := layout.headerSize_add_room (layout.inPadding_align offset)
  simp only [split]
  split
  · rename_i fits
    have within := Chunk.size_le .full fits
    rw [room_eq] at within
    exact .cons rfl within .nil
  · rename_i exceeds
    have size_eq := Chunk.size_take .first exceeds
    refine .cons rfl (Nat.le_of_eq (size_eq.trans room_eq)) ?_
    rw [PlacedChunk.stop, size_eq, ← Nat.add_assoc]
    exact chain_continuation _ _

end Layout

namespace PlacedChunk

variable {layout : Layout}

/-- A chain does not end before its offset. -/
theorem le_stopFrom {offset : Nat} {chunks : List PlacedChunk}
    (chain : layout.Chain offset chunks) : offset ≤ stopFrom offset chunks := by
  induction chain with
  | nil => exact Nat.le_refl _
  | @cons offset placed rest aligned _ _ ih =>
      have := layout.le_align offset
      simp only [stop] at ih
      simp only [stopFrom, stop]
      omega

/-- A rendered chain reaches from its offset to the aligned offset after its
last chunk. -/
theorem length_render {offset : Nat} {chunks : List PlacedChunk}
    (chain : layout.Chain offset chunks) :
    offset + (render layout offset chunks).length = layout.align (stopFrom offset chunks) := by
  induction chain with
  | @nil offset =>
      have := layout.le_align offset
      simp only [render, List.length_replicate, stopFrom]
      omega
  | @cons offset placed rest aligned _ _ ih =>
      have := layout.le_align offset
      simp only [render, stopFrom, List.length_append, List.length_replicate, Chunk.length_bytes]
      simp only [stop] at ih ⊢
      omega

/-- Every chunk of a chain stands in its rendering where it was placed. -/
theorem isPrefix_drop_render {offset : Nat} {chunks : List PlacedChunk}
    (chain : layout.Chain offset chunks) {front : List UInt8} (length_eq : front.length = offset)
    (tail : List UInt8) {placed : PlacedChunk} (member : placed ∈ chunks) :
    placed.chunk.bytes <+: (front ++ (render layout offset chunks ++ tail)).drop placed.offset := by
  induction chain generalizing front with
  | nil => cases member
  | @cons offset first rest aligned _ _ ih =>
      have forward := layout.le_align offset
      rcases List.mem_cons.mp member with here | later
      · subst here
        rw [render, List.append_assoc, ← List.append_assoc front, List.drop_append_of_le_length
          (by simp; omega), List.drop_of_length_le (by simp; omega)]
        simp only [List.append_assoc, List.nil_append]
        exact List.prefix_append _ _
      · have whole := @ih (front ++ List.replicate (first.offset - offset) 0 ++
          first.chunk.bytes) (by simp [stop]; omega) later
        rwa [render, List.append_assoc, List.append_assoc, ← List.append_assoc front,
          ← List.append_assoc _ first.chunk.bytes]

end PlacedChunk

/-! ## Reading a chain -/

namespace Image

variable {image : Image}

/-- The rest of a record is collected from the chunks of its continuation. -/
theorem collects_continuation {offset : Nat} {payload : List UInt8}
    (found : ∀ placed ∈ image.layout.continuation offset payload,
      image.chunkAt placed.offset = .ok placed.chunk) :
    image.Collects false offset payload
      (PlacedChunk.stopFrom offset (image.layout.continuation offset payload)) := by
  fun_induction Layout.continuation image.layout offset payload with
  | case1 offset payload start room fits =>
      exact .last (found _ List.mem_cons_self) rfl rfl
  | case2 offset payload start room exceeds ih =>
      have size_eq := Chunk.size_take .middle exceeds
      have onward := ih fun placed member => found placed (List.mem_cons_of_mem _ member)
      rw [Nat.add_assoc, ← size_eq] at onward
      have collects : image.Collects false offset (payload.take room ++ payload.drop room) _ :=
        .more (found _ List.mem_cons_self) rfl rfl onward
      rw [PlacedChunk.stopFrom, PlacedChunk.stop, Nat.add_assoc, ← size_eq]
      rwa [List.take_append_drop] at collects

/-- A record is collected from the chunks a payload was split into. -/
theorem collects_split {offset : Nat} {payload : List UInt8}
    (found : ∀ placed ∈ image.layout.split offset payload,
      image.chunkAt placed.offset = .ok placed.chunk) :
    image.Collects true offset payload
      (PlacedChunk.stopFrom offset (image.layout.split offset payload)) := by
  simp only [Layout.split] at found ⊢
  split at found
  · rename_i fits
    rw [if_pos fits]
    exact .last (found _ List.mem_cons_self) rfl rfl
  · rename_i exceeds
    have size_eq := Chunk.size_take .first exceeds
    have onward := collects_continuation fun placed member =>
      found placed (List.mem_cons_of_mem _ member)
    rw [if_neg exceeds]
    rw [Nat.add_assoc, ← size_eq] at onward
    have collects : image.Collects true offset (payload.take _ ++ payload.drop _) _ :=
      .more (found _ List.mem_cons_self) rfl rfl onward
    rw [PlacedChunk.stopFrom, PlacedChunk.stop, Nat.add_assoc, ← size_eq]
    rwa [List.take_append_drop] at collects

end Image

end RecordLog
