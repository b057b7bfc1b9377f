import RecordLog.Image.Survey
import RecordLog.Storage.Handle

/-!
# Segments

A segment is an open file to which records are appended. It remembers its
size from when it was opened, and writes there; what others do to the file is
not noticed until a read meets it. After a write that failed part-way the
segment is poisoned: records written before stay readable, and nothing more
is appended. A closed segment answers no reads, and closing it again succeeds.

A segment holds its file by two handles, one of them for syncing alone. They are
given up together when the segment is closed, and not before.
-/

namespace RecordLog

/-- An open segment. -/
structure Segment where
  id : SegmentId
  path : Path
  layout : Layout
  /-- The file that the segment was opened on. -/
  handle : Handle
  /-- Whether the handle for reading and writing is held. -/
  hasFile : Bool
  /-- Whether the duplicate for syncing is held. -/
  hasDuplicate : Bool
  /-- The next write offset. -/
  size : Nat
  closed : Bool
  /-- Whether a write failed part-way. -/
  poisoned : Bool
  hasFile_eq : hasFile = !closed
  hasDuplicate_eq : hasDuplicate = !closed

/-- A duplicate of a segment's file for syncing alone. It outlives the
segment. -/
structure SyncHandle where
  segment : SegmentId
  handle : Handle

/-- Sync through a duplicate; answers whether it succeeded. -/
def SyncHandle.sync (duplicate : SyncHandle) (storage : Storage) : Bool × Storage :=
  storage.sync duplicate.handle

namespace Segment

attribute [simp] hasFile_eq hasDuplicate_eq

/-! ## Opening -/

/-- A segment over a freshly opened file. -/
def ofHandle (path : Path) (id : SegmentId) (layout : Layout) (handle : Handle) (size : Nat) :
    Segment :=
  { id, path, layout, handle, size, hasFile := true, hasDuplicate := true, closed := false,
    poisoned := false, hasFile_eq := rfl, hasDuplicate_eq := rfl }

/-- Take over a freshly opened file, whose handle is duplicated for syncing.
Where there is no duplicate to be had, the file is given up. -/
def attach (path : Path) (id : SegmentId) (layout : Layout) (handle : Handle) (size : Nat)
    (storage : Storage) : Except Failure Segment × Storage :=
  match storage.duplicationFault handle with
  | some cause => (.error (.storage cause), storage.release handle)
  | none => (.ok (ofHandle path id layout handle size), storage)

/-- Create an empty segment; what exists at its path is an obstacle. A file that
was created and cannot be taken over stays behind. -/
def create (path : Path) (id : SegmentId) (layout : Layout) (storage : Storage) :
    Except Failure Segment × Storage :=
  match storage.createFile path with
  | (.error cause, storage) => (.error (.storage cause), storage)
  | (.ok handle, storage) => attach path id layout handle 0 storage

/-- Open an existing segment; the length of its file is its size. -/
def openExisting (path : Path) (id : SegmentId) (layout : Layout) (storage : Storage) :
    Except Failure Segment × Storage :=
  match storage.openFile path with
  | (.error cause, storage) => (.error (.storage cause), storage)
  | (.ok handle, storage) =>
      attach path id layout handle (storage.content handle).size storage

variable (segment : Segment)

/-- Whether the segment still takes writes. -/
def isUsable : Bool := !segment.poisoned && segment.hasFile

/-- Why the segment takes no writes, if so. -/
def usageFault : Option Failure :=
  if segment.closed then some .closed
  else if segment.poisoned then some (.invalid (.poisoned segment.id))
  else if segment.hasFile then none
  else some (.invalid (.noFile segment.id))

/-- The space a payload needs in the segment, without padding. -/
def requiredSpace (payload : List UInt8) : Nat :=
  segment.layout.requiredSpace payload.length

/-! ## Reading -/

/-- What a reader sees of the segment. Without a handle it finds no bytes. -/
def image (storage : Storage) : Image :=
  { layout := segment.layout
    size := segment.size
    bytes := if segment.hasFile then storage.content segment.handle else #[]
    shortage := if segment.hasFile then .storage .unexpectedEnd else .invalid (.noFile segment.id)
    isOpen := !segment.closed }

/-- The payload of the record anchored at an offset. -/
def read (storage : Storage) (offset : Nat) : Except Failure (List UInt8) :=
  match (segment.image storage).read offset with
  | .error cause => .error cause
  | .ok (payload, _) => .ok payload

/-- Check the segment without changing it. -/
def verify (storage : Storage) : Except Failure Report :=
  (segment.image storage).report

/-! ## Writing -/

/-- Append a record; answers the offset it is read back from. -/
def append (payload : List UInt8) (storage : Storage) :
    Except Failure Nat × Segment × Storage :=
  match segment.usageFault with
  | some cause => (.error cause, segment, storage)
  | none =>
      let frame := segment.layout.frame segment.size payload
      match storage.write segment.handle segment.size frame.bytes with
      | (.ok (), storage) => (.ok frame.start, { segment with size := frame.stop }, storage)
      | (.error cause, storage) =>
          (.error (.storage cause), { segment with poisoned := true }, storage)

/-- Bring the segment to stable storage; answers whether that succeeded. -/
def sync (storage : Storage) : Bool × Storage :=
  if segment.hasDuplicate then storage.sync segment.handle else (false, storage)

/-- The duplicate for syncing, if it is held. -/
def syncHandle? : Option SyncHandle :=
  if segment.hasDuplicate then some ⟨segment.id, segment.handle⟩ else none

/-- The segment, closed, with no handle held. -/
def shut : Segment :=
  { segment with
    hasFile := false
    hasDuplicate := false
    closed := true
    hasFile_eq := rfl
    hasDuplicate_eq := rfl }

/-- Sync and give up the file; answers whether the sync succeeded. A closed
segment stays as it is. -/
def close (storage : Storage) : Bool × Segment × Storage :=
  if segment.closed then (true, segment, storage)
  else
    let (synced, storage) := segment.sync storage
    (synced, segment.shut, storage.release segment.handle)

/-- Cut the segment back to a length. -/
def truncate (length : Nat) (storage : Storage) : Except Failure Unit × Segment × Storage :=
  match segment.usageFault with
  | some cause => (.error cause, segment, storage)
  | none =>
      match storage.truncate segment.handle length with
      | (.error cause, storage) => (.error (.storage cause), segment, storage)
      | (.ok (), storage) => (.ok (), { segment with size := length }, storage)

/-- Check the segment and cut off a torn tail. Damage with readable records
after it is left in place. -/
def recover (storage : Storage) : Except Failure Report × Segment × Storage :=
  match segment.verify storage with
  | .error cause => (.error cause, segment, storage)
  | .ok report =>
      if report.truncated then
        match segment.truncate report.validLength storage with
        | (.error cause, segment, storage) => (.error cause, segment, storage)
        | (.ok (), segment, storage) => (.ok report, segment, storage)
      else
        (.ok report, segment, storage)

end Segment

end RecordLog
