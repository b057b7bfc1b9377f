import RecordLog.Frame

/-!
# Reading a segment

An image is what a reader sees of a segment: its geometry, the size it
remembers, the bytes now in its file, and whether it is still open. The bytes
may be fewer than the remembered size, when the file was shortened behind the
segment's back or no handle on it is held; reading past them fails for that
cause and is not damage.

A record is read from an offset by collecting chunks until one ends it. The
start must carry a chunk that starts a record, all further chunks must be
continuations, and every chunk must lie in one block and within the size. A
frame that fits its block and ends past the size is reported as truncated,
since a torn write leaves exactly such bytes; a frame that would cross its
block is corrupt.
-/

namespace RecordLog

/-- What a reader sees of a segment. -/
structure Image where
  layout : Layout
  /-- The remembered size: the next write offset. -/
  size : Nat
  /-- The bytes that can be read from the file. -/
  bytes : Array UInt8
  /-- What a read fails with that goes past them. -/
  shortage : Failure
  /-- Whether the segment has not been closed. -/
  isOpen : Bool

/-- A record and the offset it is read back from. -/
structure Record where
  offset : Nat
  payload : List UInt8
  deriving DecidableEq, Repr

namespace Image

variable (image : Image)

/-- The image of an open segment whose file holds the given bytes, all of them
within its size. -/
def ofBytes (layout : Layout) (bytes : List UInt8) : Image :=
  { layout, size := bytes.length, bytes := bytes.toArray, shortage := .storage .unexpectedEnd,
    isOpen := true }

/-- A run of bytes of the file, if all of it is there. -/
def slice? (offset length : Nat) : Option (List UInt8) :=
  if offset + length ≤ image.bytes.size then
    some (image.bytes.extract offset (offset + length)).toList
  else
    none

/-- A run of bytes holds the bytes of the file from its offset on. -/
theorem getElem?_slice? {offset length index : Nat} {run : List UInt8}
    (h : image.slice? offset length = some run) (within : index < length) :
    run[index]? = image.bytes[offset + index]? := by
  unfold slice? at h
  split at h
  · cases h
    rw [Array.getElem?_toList, Array.getElem?_extract]
    simp
    omega
  · cases h

/-- A run of bytes is cut from the bytes of the file. -/
theorem slice?_eq_some {offset length : Nat} {run : List UInt8}
    (h : image.slice? offset length = some run) :
    offset + length ≤ image.bytes.size ∧
      run = (image.bytes.toList.drop offset).take length := by
  unfold slice? at h
  split at h
  · cases h
    exact ⟨‹_›, by simp⟩
  · cases h

/-- A file that holds all bytes within the size answers every run within it. -/
theorem slice?_ne_none {offset length : Nat} (whole : image.size ≤ image.bytes.size)
    (within : offset + length ≤ image.size) : image.slice? offset length ≠ none := by
  simp only [slice?, ne_eq]
  rw [if_pos (Nat.le_trans within whole)]
  simp

/-! ## One chunk -/

/-- The chunk stored at an offset. -/
def chunkAt (offset : Nat) : Except Failure Chunk :=
  if image.size < offset + headerSize then
    .error (.truncated offset headerSize (image.size - offset))
  else
    match image.slice? offset headerSize with
    | none => .error image.shortage
    | some header =>
        let frame := headerSize + Chunk.declaredLength header
        if image.layout.remaining offset < frame then
          .error (.corrupt offset (.crossesBlock frame))
        else if image.size < offset + frame then
          .error (.truncated offset frame (image.size - offset))
        else
          match image.slice? offset frame with
          | none => .error image.shortage
          | some stored => Chunk.decode offset stored

/-- A chunk is only found where its header lies within the size. -/
theorem offset_lt_size_of_chunkAt {offset : Nat} {chunk : Chunk}
    (found : image.chunkAt offset = .ok chunk) : offset < image.size := by
  unfold chunkAt at found
  split at found
  · cases found
  · simp only [headerSize] at *
    omega

/-- Where all bytes within the size are there, a chunk is missing through
damage alone. -/
theorem isDamage_of_chunkAt {offset : Nat} {cause : Failure}
    (whole : image.size ≤ image.bytes.size) (failed : image.chunkAt offset = .error cause) :
    cause.isDamage = true := by
  unfold chunkAt at failed
  split at failed
  · cases failed; rfl
  split at failed
  · rename_i h
    exact absurd h (image.slice?_ne_none whole (by omega))
  simp only at failed
  split at failed
  · cases failed; rfl
  split at failed
  · cases failed; rfl
  split at failed
  · rename_i h
    exact absurd h (image.slice?_ne_none whole (by omega))
  · exact Chunk.isDamage_of_decode failed

/-- The seventh byte at the place of a chunk is the code of its kind. -/
theorem code_of_chunkAt {offset : Nat} {chunk : Chunk}
    (found : image.chunkAt offset = .ok chunk) :
    image.bytes[offset + 6]? = some chunk.kind.code := by
  unfold chunkAt at found
  split at found
  · cases found
  split at found
  · cases found
  simp only at found
  split at found
  · cases found
  split at found
  · cases found
  split at found
  · cases found
  · rename_i run
    rw [← Chunk.code_of_decode found, image.getElem?_slice? run (by simp only [headerSize]; omega)]

/-! ## One record -/

/-- The payload and the stop of the record whose next chunk is sought from an
offset; `isFirst` says that no chunk of it has been read. -/
def readChunks (isFirst : Bool) (offset : Nat) : Except Failure (List UInt8 × Nat) :=
  let start := image.layout.align offset
  match _ : image.chunkAt start with
  | .error cause => .error cause
  | .ok chunk =>
      if isFirst && !chunk.kind.startsRecord then
        .error (.corrupt start (.cannotStart chunk.kind))
      else if !isFirst && chunk.kind.startsRecord then
        .error (.corrupt start (.expectedContinuation chunk.kind))
      else if chunk.kind.endsRecord then
        .ok (chunk.data, start + chunk.size)
      else
        match readChunks false (start + chunk.size) with
        | .error cause => .error cause
        | .ok (rest, stop) => .ok (chunk.data ++ rest, stop)
termination_by image.size - offset
decreasing_by
  have inside := image.offset_lt_size_of_chunkAt ‹_›
  have forward := image.layout.le_align offset
  simp only [Chunk.size, headerSize] at *
  omega

/-- The record anchored at an offset, with the offset just past its last
chunk. -/
def read (offset : Nat) : Except Failure (List UInt8 × Nat) :=
  if !image.isOpen then .error .closed
  else if image.size ≤ offset then .error (.truncated offset headerSize 0)
  else image.readChunks true offset

/-- A record that is read ends past the offset it was sought from. -/
theorem lt_stop_of_readChunks {isFirst : Bool} {offset stop : Nat} {payload : List UInt8}
    (done : image.readChunks isFirst offset = .ok (payload, stop)) : offset < stop := by
  fun_induction readChunks image isFirst offset generalizing payload stop with
  | case1 => cases done
  | case2 => cases done
  | case3 => cases done
  | case4 isFirst offset start chunk =>
      have forward := image.layout.le_align offset
      cases done
      simp only [start, Chunk.size, headerSize]
      omega
  | case5 => simp_all
  | case6 isFirst offset =>
      rename_i ih
      have forward := image.layout.le_align offset
      have := ih ‹_›
      cases done
      simp only [Chunk.size, headerSize] at *
      omega

theorem lt_stop_of_read {offset stop : Nat} {payload : List UInt8}
    (done : image.read offset = .ok (payload, stop)) : offset < stop := by
  unfold read at done
  split at done
  · cases done
  split at done
  · cases done
  · exact image.lt_stop_of_readChunks done

theorem lt_size_of_read {offset stop : Nat} {payload : List UInt8}
    (done : image.read offset = .ok (payload, stop)) : offset < image.size := by
  unfold read at done
  split at done
  · cases done
  split at done
  · cases done
  · omega

/-! ## Records in order -/

/-- The next record from a position, with the position after it, or nothing at
the end of the segment. -/
def next (position : Nat) : Except Failure (Option (Record × Nat)) :=
  let start := image.layout.align position
  if image.size ≤ start then .ok none
  else
    match image.read start with
    | .error cause => .error cause
    | .ok (payload, stop) => .ok (some (⟨start, payload⟩, image.layout.align stop))

theorem lt_of_next {position after : Nat} {record : Record}
    (done : image.next position = .ok (some (record, after))) :
    position < after ∧ position < image.size := by
  unfold next at done
  have forward := image.layout.le_align position
  simp only at done
  split at done
  · cases done
  split at done
  · cases done
  · rename_i stop result
    have past := image.lt_stop_of_read result
    have beyond := image.layout.le_align stop
    cases done
    omega

/-- The records from a position on, and the failure that ended them, if one
did. -/
def recordsFrom (position : Nat) : List Record × Option Failure :=
  match _ : image.next position with
  | .error cause => ([], some cause)
  | .ok none => ([], none)
  | .ok (some (record, after)) =>
      let (records, ending) := recordsFrom after
      (record :: records, ending)
termination_by image.size - position
decreasing_by
  have := image.lt_of_next ‹_›
  omega

/-- All records of a segment in write order, or the first failure. -/
def records : Except Failure (List Record) :=
  match image.recordsFrom 0 with
  | (records, none) => .ok records
  | (_, some cause) => .error cause

end Image

/-! ## Cursors -/

/-- A place in a segment from which records are read one by one. -/
structure Cursor where
  position : Nat
  /-- Whether an earlier step failed. -/
  failed : Bool
  deriving DecidableEq, Repr

namespace Cursor

/-- A cursor at an offset: a record's anchor, or the end of a record. -/
def start (position : Nat) : Cursor := ⟨position, false⟩

/-- Read the next record. A failure and the end of the segment leave the
cursor in its place. -/
def next (cursor : Cursor) (image : Image) : Except Failure (Option Record) × Cursor :=
  match image.next cursor.position with
  | .error cause => (.error cause, cursor)
  | .ok none => (.ok none, cursor)
  | .ok (some (record, after)) => (.ok (some record), { cursor with position := after })

/-- One step of an iteration: a failure is reported once, and nothing after
it. -/
def step (cursor : Cursor) (image : Image) : Option (Except Failure Record) × Cursor :=
  if cursor.failed then (none, cursor)
  else
    match cursor.next image with
    | (.ok none, cursor) => (none, cursor)
    | (.ok (some record), cursor) => (some (.ok record), cursor)
    | (.error cause, cursor) => (some (.error cause), { cursor with failed := true })

end Cursor

end RecordLog
