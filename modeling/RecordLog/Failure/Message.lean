import RecordLog.Layout
import RecordLog.Text.Column
import RecordLog.Text.Quoted

/-!
# The wording of failures
-/

namespace RecordLog

/-- The text of a storage error. -/
def StorageError.message : StorageError → String
  | notFound => "No such file or directory (os error 2)"
  | alreadyExists => "File exists (os error 17)"
  | notADirectory => "Not a directory (os error 20)"
  | isADirectory => "Is a directory (os error 21)"
  | busy => "Device or resource busy (os error 16)"
  | invalidArgument => "Invalid argument (os error 22)"
  | fileTooLarge => "File too large (os error 27)"
  | directoryNotEmpty => "Directory not empty (os error 39)"
  | unexpectedEnd => "failed to fill whole buffer"
  | other text => text

/-- The text of a kind of damage. -/
def Damage.message : Damage → String
  | shortFrame size => s!"frame of {size} bytes is shorter than a chunk header"
  | lengthExceeds declared available =>
      s!"declared length {declared} exceeds the {available} bytes available"
  | checksumMismatch stored computed =>
      "checksum mismatch: stored " ++ Text.hexWord stored ++ ", computed " ++
        Text.hexWord computed
  | unknownKind code => s!"unknown chunk type {code}"
  | cannotStart kind => "record cannot start with a " ++ kind.name ++ " chunk"
  | expectedContinuation kind => "expected a continuation chunk, found " ++ kind.name
  | crossesBlock size => s!"chunk of {size} bytes crosses a block boundary"
  | other text => text

/-- The text of a reason why something is invalid. -/
def Invalidity.message : Invalidity → String
  | poisoned id => "segment " ++ id.text ++ " was poisoned by a failed write"
  | noFile id => "segment " ++ id.text ++ " has no file handle"
  | noActive => "WAL has no active segment"
  | other text => text

/-- The text of a broken rule of the configuration. -/
def ConfigFault.message : ConfigFault → String
  | emptyDirectory => "wal_dir must not be empty"
  | extension text =>
      "file_extension must start with '.' and name an extension, got " ++ Text.quote text
  | blockSize size =>
      s!"block_size must be within [{minBlockSize}, {maxBlockSize}], got {size}"
  | segmentSize size =>
      s!"max_segment_size must exceed the chunk header size ({headerSize}), got {size}"
  | other text => text

/-- The text of a failure. -/
def Failure.message : Failure → String
  | storage cause => "IO error: " ++ cause.message
  | payloadTooLarge size limit =>
      s!"Payload of {size} bytes exceeds the maximum of {limit} bytes"
  | corrupt offset damage => s!"Corrupt frame at offset {offset}: " ++ damage.message
  | truncated offset expected available =>
      s!"Truncated frame at offset {offset}: expected {expected} bytes, found {available}"
  | closed => "Segment is closed"
  | invalid cause => "Segment is invalid: " ++ cause.message
  | segmentNotFound id => "Segment not found: " ++ id.text
  | syncFailed id => "Sync failed for segment " ++ id.text
  | config cause => "Configuration error: " ++ cause.message

end RecordLog
