import RecordLog.Layout

/-!
# Framing

A payload written at an offset is split at the block boundaries: it becomes
one full chunk when it fits the rest of the block, and otherwise a first
chunk, as many middle chunks as whole blocks remain, and a last one. Each
chunk stands at an aligned offset; the bytes between the chunks, and those
from the last chunk to the next aligned offset, are zero.
-/

namespace RecordLog

/-- A chunk and the offset it is written at. -/
structure PlacedChunk where
  offset : Nat
  chunk : Chunk
  deriving DecidableEq, Repr

namespace PlacedChunk

/-- The offset just past a placed chunk. -/
def stop (placed : PlacedChunk) : Nat := placed.offset + placed.chunk.size

/-- The bytes of placed chunks from an offset on, with zeros in the gaps and
up to the next aligned offset. -/
def render (layout : Layout) (offset : Nat) : List PlacedChunk → List UInt8
  | [] => List.replicate (layout.align offset - offset) 0
  | placed :: rest =>
      List.replicate (placed.offset - offset) 0 ++
        (placed.chunk.bytes ++ render layout placed.stop rest)

/-- The number of bytes that chunks occupy. -/
def totalSize : List PlacedChunk → Nat
  | [] => 0
  | placed :: rest => placed.chunk.size + totalSize rest

/-- The offset just past the last of some placed chunks, or the given one. -/
def stopFrom (offset : Nat) : List PlacedChunk → Nat
  | [] => offset
  | placed :: rest => stopFrom placed.stop rest

end PlacedChunk

/-- A payload framed for a write offset. -/
structure Frame where
  /-- The write offset. -/
  offset : Nat
  /-- The chunks, in writing order. -/
  chunks : List PlacedChunk
  /-- The offset of the first chunk, where the record is read back. -/
  start : Nat
  /-- The write offset after the record and its padding. -/
  stop : Nat
  /-- The bytes from the write offset to the stop. -/
  bytes : List UInt8
  deriving DecidableEq, Repr

/-- The bytes of a frame that belong to no chunk. -/
def Frame.padding (frame : Frame) : Nat :=
  frame.stop - frame.offset - PlacedChunk.totalSize frame.chunks

namespace Layout

variable (layout : Layout)

/-- The chunks of the rest of a payload, after its first chunk. What does not
fit a block is what is left of the payload behind its room. -/
def continuation (offset : Nat) (payload : List UInt8) : List PlacedChunk :=
  let start := layout.align offset
  let room := layout.room start
  if payload.drop room = [] then [⟨start, .last, payload⟩]
  else ⟨start, .middle, payload.take room⟩ ::
    continuation (start + headerSize + room) (payload.drop room)
termination_by payload.length
decreasing_by
  have := layout.room_align_pos offset
  simp only [List.drop_eq_nil_iff, List.length_drop] at *
  omega

/-- The chunks of a payload written at an offset. -/
def split (offset : Nat) (payload : List UInt8) : List PlacedChunk :=
  let start := layout.align offset
  let room := layout.room start
  if payload.drop room = [] then [⟨start, .full, payload⟩]
  else ⟨start, .first, payload.take room⟩ ::
    layout.continuation (start + headerSize + room) (payload.drop room)

/-- Frame a payload for a write offset. -/
def frame (offset : Nat) (payload : List UInt8) : Frame :=
  let chunks := layout.split offset payload
  { offset
    chunks
    start := layout.align offset
    stop := layout.align (PlacedChunk.stopFrom offset chunks)
    bytes := PlacedChunk.render layout offset chunks }

end Layout

end RecordLog
