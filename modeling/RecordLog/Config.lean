import RecordLog.Layout
import RecordLog.Storage.Path

/-!
# Configuration

The settings of a log and the rules a usable one keeps. The rules are checked
in a fixed order and the first that fails is reported: the directory, the
extension of segment files, the block size, and the segment size.
-/

namespace RecordLog

/-- A span of time in seconds and nanoseconds. -/
structure Interval where
  seconds : Nat
  nanoseconds : Nat
  deriving DecidableEq, Repr

namespace Interval

/-- The nanoseconds of a second. -/
def nanosecondsPerSecond : Nat := 1000000000

/-- The empty span. -/
def zero : Interval := ⟨0, 0⟩

/-- A span given in both units; nanoseconds of a second and more carry over. -/
def normalize (seconds nanoseconds : Nat) : Interval :=
  ⟨seconds + nanoseconds / nanosecondsPerSecond, nanoseconds % nanosecondsPerSecond⟩

end Interval

/-- The settings of a log. -/
structure Config where
  /-- The directory of the segment files. -/
  directory : String
  /-- The extension of segment files, with its dot. -/
  fileExtension : String
  /-- The size past which a segment takes no further record. -/
  maxSegmentSize : Nat
  /-- The block size; fixed for a directory. -/
  blockSize : Nat
  /-- The number of writes since the last sync that brings the next one, or
  zero. -/
  syncWriteThreshold : Nat
  /-- The time between syncs in the background, or zero. -/
  syncInterval : Interval
  /-- Whether every write is synced. -/
  syncPerWrite : Bool
  /-- Whether sealed segments may be compressed by others. -/
  compressionEnabled : Bool
  /-- Whether every record is reported to the logging. -/
  verboseLogging : Bool
  deriving DecidableEq, Repr

namespace Config

/-- The settings used where none are given. -/
def default : Config :=
  { directory := "./blockwal_data"
    fileExtension := ".seg"
    maxSegmentSize := 64 * 1024 * 1024
    blockSize := defaultBlockSize
    syncWriteThreshold := 0
    syncInterval := .zero
    syncPerWrite := false
    compressionEnabled := false
    verboseLogging := false }

variable (config : Config)

/-- Whether the settings are those used where none are given; the directory
may be written another way. -/
def isDefault : Bool :=
  Path.isLike ⟨config.directory⟩ ⟨default.directory⟩ &&
    { config with directory := default.directory } = default

/-- The largest payload a single write may carry. -/
def maxPayloadSize : Nat := config.maxSegmentSize - headerSize

/-- Whether an extension begins with a dot and names something. -/
def isExtension (text : String) : Bool :=
  2 ≤ text.utf8ByteSize && text.toList.head? = some '.'

/-- The first rule the settings break, if any. -/
def fault : Option ConfigFault :=
  if config.directory = "" then some .emptyDirectory
  else if !isExtension config.fileExtension then some (.extension config.fileExtension)
  else if config.blockSize < minBlockSize ∨ maxBlockSize < config.blockSize then
    some (.blockSize config.blockSize)
  else if config.maxSegmentSize ≤ headerSize then some (.segmentSize config.maxSegmentSize)
  else none

/-- Check that the settings describe a usable log. -/
def validate : Except Failure Unit :=
  match config.fault with
  | some cause => .error (.config cause)
  | none => .ok ()

/-- One setting to change. -/
inductive Setting where
  | directory (text : String)
  | fileExtension (text : String)
  | maxSegmentSize (size : Nat)
  | blockSize (size : Nat)
  | syncWriteThreshold (count : Nat)
  | syncInterval (interval : Interval)
  | syncPerWrite (enabled : Bool)
  | compressionEnabled (enabled : Bool)
  | verboseLogging (enabled : Bool)
  deriving DecidableEq, Repr

/-- Change one setting. -/
def apply : Setting → Config
  | .directory text => { config with directory := text }
  | .fileExtension text => { config with fileExtension := text }
  | .maxSegmentSize size => { config with maxSegmentSize := size }
  | .blockSize size => { config with blockSize := size }
  | .syncWriteThreshold count => { config with syncWriteThreshold := count }
  | .syncInterval interval => { config with syncInterval := interval }
  | .syncPerWrite enabled => { config with syncPerWrite := enabled }
  | .compressionEnabled enabled => { config with compressionEnabled := enabled }
  | .verboseLogging enabled => { config with verboseLogging := enabled }

/-- Change settings in order. -/
def applyAll (settings : List Setting) : Config :=
  settings.foldl apply config

/-- The path of a segment file. -/
def segmentPath (id : SegmentId) : Path :=
  Path.join ⟨config.directory⟩ (id.fileName config.fileExtension)

end Config

end RecordLog
