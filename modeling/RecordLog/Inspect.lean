import RecordLog.Failure.Message
import RecordLog.Inspect.Arguments
import RecordLog.Log

/-!
# Inspecting a log

The commands of the inspector, as functions from a storage to the lines they
print. Listing, verifying and dumping read the segment files directly and
change nothing: opening the log would repair it. A failure ends a command;
what was printed before stays printed.
-/

namespace RecordLog.Inspect

/-- The gravity of a line of the program's own log. -/
inductive Level where
  | warning
  | error
  deriving DecidableEq, Repr

/-- What a run of the inspector produced. -/
structure Outcome where
  exitCode : Nat
  output : List String
  log : List (Level × String)
  deriving DecidableEq, Repr

namespace Outcome

/-- A refused command line. -/
def usageError : Outcome := ⟨2, [], []⟩

/-- A run that ended well. -/
def success (output : List String) : Outcome := ⟨0, output, []⟩

/-- A run that ended in a failure, after printing some lines. -/
def failure (output : List String) (cause : Failure) : Outcome :=
  ⟨1, output, [(.error, cause.message)]⟩

/-- The outcome of lines and the failure that ended them, if any. -/
def ofLines : List String × Option Failure → Outcome
  | (lines, none) => success lines
  | (lines, some cause) => failure lines cause

end Outcome

/-! ## Listing -/

/-- The line of a segment in a listing. -/
def listLine (config : Config) (id : SegmentId) (size : Nat) (active : Bool) : String :=
  id.text ++ "  " ++ Text.numberColumn 12 size ++ " bytes  " ++
    (config.segmentPath id).text ++ if active then "  (active)" else ""

/-- The lines of segments, up to the first failure. -/
def listLines (config : Config) (storage : Storage) (active : Option SegmentId) :
    List SegmentId → List String × Option Failure
  | [] => ([], none)
  | id :: rest =>
      match storage.sizeOf (config.segmentPath id) with
      | .error cause => ([], some (.storage cause))
      | .ok size =>
          let (lines, ending) := listLines config storage active rest
          (listLine config id size (active = some id) :: lines, ending)

/-- List the segments with their sizes. -/
def list (config : Config) (storage : Storage) : Outcome :=
  match config.validate with
  | .error cause => .failure [] cause
  | .ok () =>
      match config.discover storage with
      | .error cause => .failure [] cause
      | .ok ids => .ofLines (listLines config storage ids.getLast? ids)

/-! ## Verifying -/

/-- The image of a segment file. -/
def imageOf (config : Config) (id : SegmentId) (storage : Storage) : Except Failure Image :=
  match config.validate with
  | .error cause => .error cause
  | .ok () =>
      match Layout.ofBlockSize config.blockSize with
      | .error cause => .error cause
      | .ok layout =>
          match Segment.openExisting (config.segmentPath id) id layout storage with
          | (.error cause, _) => .error cause
          | (.ok segment, storage) => .ok (segment.image storage)

/-- The line of a verified segment. -/
def verifyLine (id : SegmentId) (size : Nat) (report : Report) : String :=
  id.text ++ "  " ++ Text.numberColumn 8 report.recovered ++ " records  " ++
    toString report.corrupted ++ " damaged  valid " ++ toString report.validLength ++
    " of " ++ toString size ++ " bytes  " ++
    if 0 < report.corrupted then "DAMAGED" else "ok"

/-- The report of a segment file, with its size. -/
def reportOf (config : Config) (id : SegmentId) (storage : Storage) :
    Except Failure (Nat × Report) :=
  match imageOf config id storage with
  | .error cause => .error cause
  | .ok image =>
      match image.report with
      | .error cause => .error cause
      | .ok report => .ok (image.size, report)

/-- The lines of verified segments up to the first failure, and the number of
damaged ones. -/
def verifyLines (config : Config) (storage : Storage) :
    List SegmentId → List String × Nat × Option Failure
  | [] => ([], 0, none)
  | id :: rest =>
      match reportOf config id storage with
      | .error cause => ([], 0, some cause)
      | .ok (size, report) =>
          let (lines, damaged, ending) := verifyLines config storage rest
          (verifyLine id size report :: lines,
            if 0 < report.corrupted then damaged + 1 else damaged, ending)

/-- Check every segment. -/
def verify (config : Config) (storage : Storage) : Outcome :=
  match config.discover storage with
  | .error cause => .failure [] cause
  | .ok ids =>
      match verifyLines config storage ids with
      | (lines, _, some cause) => .failure lines cause
      | (lines, 0, none) => .success lines
      | (lines, damaged, none) =>
          { Outcome.success lines with
            log := [(.warning, toString damaged ++ " damaged segment(s)")] }

/-! ## Dumping -/

/-- The longest payload shown in full. -/
def previewSize : Nat := 48

/-- A byte as a visible character. -/
def previewChar (byte : UInt8) : Char :=
  if 0x20 ≤ byte ∧ byte ≤ 0x7E then Char.ofNat byte.toNat else '.'

/-- The beginning of a payload in visible characters. -/
def preview (payload : List UInt8) : String :=
  String.ofList ((payload.take previewSize).map previewChar) ++
    if previewSize < payload.length then "..." else ""

/-- The line of a record. -/
def recordLine (record : Record) : String :=
  Text.numberColumn 10 record.offset ++ "  " ++
    Text.numberColumn 8 record.payload.length ++ " bytes  " ++ preview record.payload

/-- The first records of an image, and the failure met before there were as
many as wanted. -/
def firstRecords (image : Image) : Option Nat → List Record × Option Failure
  | none => image.recordsFrom 0
  | some limit =>
      let (records, ending) := image.recordsFrom 0
      if limit ≤ records.length then (records.take limit, none) else (records, ending)

/-- Print the records of a segment. -/
def dump (config : Config) (id : SegmentId) (limit : Option Nat) (storage : Storage) :
    Outcome :=
  match imageOf config id storage with
  | .error cause => .failure [] cause
  | .ok image =>
      match firstRecords image limit with
      | (records, some cause) => .failure (records.map recordLine) cause
      | (records, none) =>
          .success (records.map recordLine ++ [toString records.length ++ " records"])

/-! ## Appending -/

/-- Write a record to an open log, and sync it if asked. -/
def writeRecord (log : Log) (payload : List UInt8) (sync : Bool) (storage : Storage) :
    Except Failure Position × Log × Storage :=
  match log.write payload storage with
  | (.error cause, log, storage) => (.error cause, log, storage)
  | (.ok position, log, storage) =>
      if sync then
        match log.sync storage with
        | (.error cause, log, storage) => (.error cause, log, storage)
        | (.ok (), log, storage) => (.ok position, log, storage)
      else
        (.ok position, log, storage)

/-- The line of an appended record. -/
def positionLine (position : Position) : String :=
  "segment " ++ position.segment.text ++ " offset " ++ toString position.offset

/-- Append a record to the log and close it. -/
def append (config : Config) (payload : List UInt8) (sync : Bool) (storage : Storage) :
    Outcome × Storage :=
  match Log.openDirectory config storage with
  | (.error cause, storage) => (.failure [] cause, storage)
  | (.ok log, storage) =>
      match writeRecord log payload sync storage with
      | (.error cause, log, storage) => (.failure [] cause, (log.close storage).2.2)
      | (.ok position, log, storage) =>
          match log.close storage with
          | (.error cause, _, storage) => (.failure [positionLine position] cause, storage)
          | (.ok (), _, storage) => (.success [positionLine position], storage)

/-! ## The program -/

/-- The name of the program and its version. -/
def versionLine : String := "blockwal-inspect 0.1.0"

/-- Run a command. -/
def runCommand (config : Config) (command : Command) (storage : Storage) :
    Outcome × Storage :=
  match command with
  | .list => (list config storage, storage)
  | .verify => (verify config storage, storage)
  | .dump segment limit => (dump config segment limit storage, storage)
  | .append payload sync => append config payload.toUTF8.data.toList sync storage

/-- Run the inspector on its arguments. -/
def run (arguments : List String) (storage : Storage) : Outcome × Storage :=
  match Invocation.ofArguments arguments with
  | none => (.usageError, storage)
  | some .help => (.success [], storage)
  | some .version => (.success [versionLine], storage)
  | some (.run config command) => runCommand config command storage

end RecordLog.Inspect
