import RecordLog.Chunk.Kind
import RecordLog.SegmentId

/-!
# Failures

Every operation of the log answers with a value or with one of the causes
listed here. Damage to stored bytes is told apart from misuse and from
failures of the storage, because repair skips the former and stops at the
latter. The wording of each cause is in one place, `Failure.message`.
-/

namespace RecordLog

/-- What a storage operation can fail with. -/
inductive StorageError where
  | notFound
  | alreadyExists
  | notADirectory
  | isADirectory
  | busy
  | invalidArgument
  | fileTooLarge
  | directoryNotEmpty
  /-- A read met the end of the file before its buffer was full. -/
  | unexpectedEnd
  /-- Any other failure, with its text. -/
  | other (text : String)
  deriving DecidableEq, Repr

/-- Why the bytes of a frame are not a chunk, or not the chunk expected. -/
inductive Damage where
  | shortFrame (size : Nat)
  | lengthExceeds (declared available : Nat)
  | checksumMismatch (stored computed : UInt32)
  | unknownKind (code : UInt8)
  | cannotStart (kind : Kind)
  | expectedContinuation (kind : Kind)
  | crossesBlock (size : Nat)
  /-- Any other reason, with its text. -/
  | other (text : String)
  deriving DecidableEq, Repr

/-- Why a segment or a log is in no state to be used. -/
inductive Invalidity where
  | poisoned (id : SegmentId)
  /-- The segment holds no handle on its file. -/
  | noFile (id : SegmentId)
  /-- The log has no segment to write to. -/
  | noActive
  /-- Any other reason, with its text. -/
  | other (text : String)
  deriving DecidableEq, Repr

/-- Why a configuration is refused. -/
inductive ConfigFault where
  | emptyDirectory
  | extension (text : String)
  | blockSize (size : Nat)
  | segmentSize (size : Nat)
  /-- Any other reason, with its text. -/
  | other (text : String)
  deriving DecidableEq, Repr

/-- The causes an operation of the log can fail with. -/
inductive Failure where
  | storage (cause : StorageError)
  | payloadTooLarge (size limit : Nat)
  | corrupt (offset : Nat) (damage : Damage)
  | truncated (offset expected available : Nat)
  | closed
  | invalid (cause : Invalidity)
  | segmentNotFound (id : SegmentId)
  | syncFailed (id : SegmentId)
  | config (cause : ConfigFault)
  deriving DecidableEq, Repr

/-- Whether a failure describes damaged or incomplete stored bytes. -/
def Failure.isDamage : Failure → Bool
  | corrupt .. | truncated .. => true
  | _ => false

end RecordLog
