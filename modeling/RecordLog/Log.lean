import RecordLog.Log.Discovery
import RecordLog.Log.Stats
import RecordLog.Log.Table

/-!
# The log

A log is a directory of segments. Records are appended to the newest, the
active one; the others are sealed and only read. When the active segment
cannot take a record, or is poisoned, a new one is begun under the next id.
The file of the new segment is created first, so that a failure to create it
changes nothing; only then is the old one synced and sealed.

Opening a log repairs the active segment alone. A closed log answers no reads
or writes, and closing it again succeeds.

A log remembers its segments in a table and the id of the next one beside it.
That the table is never empty and that the next id is behind all others is left
to what is done with it: what a log without segments would answer is said too.
-/

namespace RecordLog

/-- Where a record was written. -/
structure Position where
  segment : SegmentId
  offset : Nat
  deriving DecidableEq, Repr

/-- A description of a segment. -/
structure SegmentInfo where
  id : SegmentId
  path : Path
  size : Nat
  /-- Whether the segment takes writes. -/
  active : Bool
  deriving DecidableEq, Repr

/-- An open log. -/
structure Log where
  config : Config
  layout : Layout
  /-- The segments. The last one is active. -/
  table : Table
  /-- The id of the next segment to create. -/
  nextId : SegmentId
  stats : Stats
  closed : Bool

namespace Log

/-! ## Opening -/

/-- A log over a table of opened segments. -/
def ofTable (config : Config) (layout : Layout) (table : Table) : Log :=
  { config, layout, table
    nextId := (table.getLast?.map fun (id, _) => id.next).getD .first
    stats := .zero
    closed := false }

/-- Begin a log in a directory that holds no segment. -/
def begin (config : Config) (layout : Layout) (storage : Storage) :
    Except Failure Log × Storage :=
  match Segment.create (config.segmentPath .first) .first layout storage with
  | (.error cause, storage) => (.error cause, storage)
  | (.ok segment, storage) => (.ok (ofTable config layout (Table.put [] .first segment)), storage)

/-- Continue a log, repairing the segment that is active. -/
def resumeAt (config : Config) (layout : Layout) (table : Table) (id : SegmentId)
    (active : Segment) (storage : Storage) : Except Failure Log × Storage :=
  match active.recover storage with
  | (.error cause, active, storage) =>
      (.error cause, (Table.closeAll (table.put id active) storage).2.2)
  | (.ok _, active, storage) => (.ok (ofTable config layout (table.put id active)), storage)

/-- Open the segments found in the directory of a log. -/
def openFound (config : Config) (layout : Layout) (ids : List SegmentId) (storage : Storage) :
    Except Failure Log × Storage :=
  match Segment.openAll config layout ids.eraseDups storage with
  | (.error cause, storage) => (.error cause, storage)
  | (.ok segments, storage) =>
      let table := Table.ofOpened ids.eraseDups segments
      match table.getLast? with
      | none => begin config layout storage
      | some (id, active) => resumeAt config layout table id active storage

/-- Open the log that some settings describe, creating what is missing. -/
def openDirectory (config : Config) (storage : Storage) : Except Failure Log × Storage :=
  match config.validate with
  | .error cause => (.error cause, storage)
  | .ok () =>
      match Layout.ofBlockSize config.blockSize with
      | .error cause => (.error cause, storage)
      | .ok layout =>
          match storage.createDirectory ⟨config.directory⟩ with
          | (.error cause, storage) => (.error (.storage cause), storage)
          | (.ok (), storage) =>
              match config.discover storage with
              | .error cause => (.error cause, storage)
              | .ok ids => openFound config layout ids storage

variable (log : Log)

/-! ## Segments -/

/-- All segments, in ascending order. -/
def segments : List Segment := log.table.map Prod.snd

/-- The ids of all segments, in ascending order. -/
def ids : List SegmentId := log.table.map Prod.fst

/-- The segment of an id. -/
def segment? (id : SegmentId) : Option Segment :=
  log.table.lookup id

/-- The active segment, if there is one. -/
def active? : Option Segment := log.segments.getLast?

/-- The active segment. Where there is none, one that is closed stands for it. -/
def active : Segment :=
  log.active?.getD (Segment.ofHandle ⟨""⟩ .first log.layout ⟨0⟩ 0).shut

/-- The segments before the active one, in ascending order. -/
def sealed : List Segment := log.segments.dropLast

/-- The log with a segment put under an id. -/
def put (id : SegmentId) (segment : Segment) : Log :=
  { log with table := log.table.put id segment }

/-- A description of every segment, in ascending order. -/
def infos : List SegmentInfo :=
  log.table.map fun (id, segment) =>
    { id
      path := segment.path
      size := segment.size
      active := some id = log.ids.getLast? }

/-- A description of every sealed segment. -/
def sealedInfos : List SegmentInfo :=
  log.infos.filter fun info => !info.active

/-! ## Reading -/

/-- Look at an open log's segment. -/
def withSegment (id : SegmentId) (look : Segment → Except Failure α) : Except Failure α :=
  if log.closed then .error .closed
  else
    match log.segment? id with
    | none => .error (.segmentNotFound id)
    | some segment => look segment

/-- The payload of the record at a position. -/
def read (position : Position) (storage : Storage) : Except Failure (List UInt8) :=
  log.withSegment position.segment fun segment => segment.read storage position.offset

/-- All records of a segment, in write order. -/
def records (id : SegmentId) (storage : Storage) : Except Failure (List Record) :=
  log.withSegment id fun segment => (segment.image storage).records

/-- The bytes of a segment's file, which are there for others to copy even
when the log is closed. -/
def segmentBytes (id : SegmentId) (storage : Storage) : Except Failure Content :=
  match log.segment? id with
  | none => .error (.segmentNotFound id)
  | some segment =>
      match storage.fileBytes segment.path with
      | .error cause => .error (.storage cause)
      | .ok bytes => .ok bytes

/-! ## Writing -/

/-- Whether a payload would push the active segment past its largest size. An
empty segment takes any payload. -/
def exceedsCapacity (payload : List UInt8) : Bool :=
  0 < log.active.size &&
    log.config.maxSegmentSize - log.active.size < log.active.requiredSpace payload

/-- Whether a payload has to go to a new segment. -/
def needsRotation (payload : List UInt8) : Bool :=
  !log.active.isUsable || log.exceedsCapacity payload

/-- Whether the sync policy asks for a sync now. -/
def syncDue : Bool :=
  log.config.syncPerWrite ||
    (0 < log.config.syncWriteThreshold &&
      log.config.syncWriteThreshold ≤ log.stats.windowWrites)

/-- Count a sync if it succeeded. -/
def countSync (synced : Bool) : Log :=
  if synced then { log with stats := log.stats.recordSync } else log

/-- Begin a new segment and seal the active one. Answers the new one with its
id. -/
def rotate (storage : Storage) : Except Failure (SegmentId × Segment) × Log × Storage :=
  let id := log.nextId
  match Segment.create (log.config.segmentPath id) id log.layout storage with
  | (.error cause, storage) => (.error cause, log, storage)
  | (.ok fresh, storage) =>
      let log := { log with nextId := id.next }
      match log.active? with
      | none => (.ok (id, fresh), log.put id fresh, storage)
      | some previous =>
          let (synced, storage) := previous.sync storage
          (.ok (id, fresh), (log.countSync synced).put id fresh, storage)

/-- Append a record to the segment of an id and sync it if the policy asks for
that. A failed sync is not a failed write. -/
def appendTo (id : SegmentId) (segment : Segment) (payload : List UInt8) (storage : Storage) :
    Except Failure Position × Log × Storage :=
  match segment.append payload storage with
  | (.error cause, segment, storage) => (.error cause, log.put id segment, storage)
  | (.ok offset, segment, storage) =>
      let log := { log.put id segment with stats := log.stats.recordWrite payload.length }
      let position := ⟨segment.id, offset⟩
      if log.syncDue then
        let (synced, storage) := segment.sync storage
        (.ok position, log.countSync synced, storage)
      else
        (.ok position, log, storage)

/-- Write a record; answers where it was written. -/
def write (payload : List UInt8) (storage : Storage) :
    Except Failure Position × Log × Storage :=
  if log.config.maxPayloadSize < payload.length then
    (.error (.payloadTooLarge payload.length log.config.maxPayloadSize), log, storage)
  else if log.closed then (.error .closed, log, storage)
  else
    match log.table.getLast? with
    | none => (.error (.invalid .noActive), log, storage)
    | some (id, active) =>
        if log.needsRotation payload then
          match log.rotate storage with
          | (.error cause, log, storage) => (.error cause, log, storage)
          | (.ok (id, fresh), log, storage) => log.appendTo id fresh payload storage
        else log.appendTo id active payload storage

/-- Bring the active segment to stable storage. -/
def sync (storage : Storage) : Except Failure Unit × Log × Storage :=
  if log.closed then (.error .closed, log, storage)
  else
    match log.active? with
    | none => (.error (.invalid .noActive), log, storage)
    | some active =>
        match active.syncHandle? with
        | none => (.error .closed, log, storage)
        | some duplicate =>
            match duplicate.sync storage with
            | (true, storage) => (.ok (), log.countSync true, storage)
            | (false, storage) => (.error (.syncFailed duplicate.segment), log, storage)

/-- Sync and close every segment. All are closed whatever fails; the first
whose sync failed is reported. -/
def close (storage : Storage) : Except Failure Unit × Log × Storage :=
  if log.closed then (.ok (), log, storage)
  else
    let (failed, table, storage) := Table.closeAll log.table storage
    let log := { log with table, closed := true }
    match failed with
    | some id => (.error (.syncFailed id), log, storage)
    | none => (.ok (), log, storage)

end Log

end RecordLog
