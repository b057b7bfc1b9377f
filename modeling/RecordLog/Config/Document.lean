import RecordLog.Config

/-!
# Configuration documents

Settings can be written to and read from a tree of plain values, whatever
format it is stored in. A record gives settings by name: those missing keep
their defaults and unknown names are passed over. A list gives them in their
fixed order, and may stop early. Every value given must have the type of its
setting.
-/

namespace RecordLog

/-- A tree of plain values. -/
inductive Document where
  | boolean (value : Bool)
  | natural (value : Nat)
  | text (value : String)
  | list (items : List Document)
  | record (fields : List (String × Document))
  /-- A value that no setting takes: nothing, a fraction, a negative number. -/
  | unsupported
  deriving Inhabited

namespace Document

/-- Natural numbers of settings have 64 bits. -/
def naturalBound : Nat := 0x10000000000000000

/-- Nanoseconds are given in 32 bits. -/
def nanosecondsBound : Nat := 0x100000000

/-- A text. -/
def text? : Document → Option String
  | text value => some value
  | _ => none

/-- A truth value. -/
def boolean? : Document → Option Bool
  | boolean value => some value
  | _ => none

/-- A natural number below a bound. -/
def natural? (bound : Nat) : Document → Option Nat
  | natural value => if value < bound then some value else none
  | _ => none

/-- A span from its two numbers, unless the seconds overflow. -/
def intervalOf? (seconds nanoseconds : Document) : Option Interval :=
  match seconds.natural? naturalBound, nanoseconds.natural? nanosecondsBound with
  | some seconds, some nanoseconds =>
      let interval := Interval.normalize seconds nanoseconds
      if interval.seconds < naturalBound then some interval else none
  | _, _ => none

/-- A span: its seconds and nanoseconds by name and nothing else, or in
order. -/
def interval? : Document → Option Interval
  | list [seconds, nanoseconds] => intervalOf? seconds nanoseconds
  | record [(first, value), (second, other)] =>
      if first = "secs" ∧ second = "nanos" then intervalOf? value other
      else if first = "nanos" ∧ second = "secs" then intervalOf? other value
      else none
  | _ => none

/-- The document of a span. -/
def ofInterval (interval : Interval) : Document :=
  record [("secs", natural interval.seconds), ("nanos", natural interval.nanoseconds)]

end Document

namespace Config

open Document

/-- The names of the settings, in their fixed order. -/
def settingNames : List String :=
  ["wal_dir", "file_extension", "max_segment_size", "block_size", "sync_write_threshold",
    "sync_interval", "sync_per_write", "compression_enabled", "verbose_logging"]

/-- The setting that a name and a value give. -/
def setting? (name : String) (value : Document) : Option Setting :=
  match name with
  | "wal_dir" => value.text?.map .directory
  | "file_extension" => value.text?.map .fileExtension
  | "max_segment_size" => (value.natural? naturalBound).map .maxSegmentSize
  | "block_size" => (value.natural? naturalBound).map .blockSize
  | "sync_write_threshold" => (value.natural? naturalBound).map .syncWriteThreshold
  | "sync_interval" => value.interval?.map .syncInterval
  | "sync_per_write" => value.boolean?.map .syncPerWrite
  | "compression_enabled" => value.boolean?.map .compressionEnabled
  | "verbose_logging" => value.boolean?.map .verboseLogging
  | _ => none

/-- The settings given by some names and values, if all of them have the right
type. -/
def settings? (fields : List (String × Document)) : Option (List Setting) :=
  fields.mapM fun (name, value) => setting? name value

/-- Read settings from a document. -/
def ofDocument? : Document → Option Config
  | .record fields =>
      (settings? (fields.filter fun (name, _) => settingNames.contains name)).map
        default.applyAll
  | .list items =>
      if items.length ≤ settingNames.length then
        (settings? (settingNames.zip items)).map default.applyAll
      else none
  | _ => none

/-- The document of some settings. -/
def toDocument (config : Config) : Document :=
  .record
    [("wal_dir", .text config.directory),
      ("file_extension", .text config.fileExtension),
      ("max_segment_size", .natural config.maxSegmentSize),
      ("block_size", .natural config.blockSize),
      ("sync_write_threshold", .natural config.syncWriteThreshold),
      ("sync_interval", ofInterval config.syncInterval),
      ("sync_per_write", .boolean config.syncPerWrite),
      ("compression_enabled", .boolean config.compressionEnabled),
      ("verbose_logging", .boolean config.verboseLogging)]

end Config

end RecordLog
