import RecordLog.Inspect
import RecordLog.Storage.Tree
import RecordLog.Text.Lossy

/-!
# The inspector program

The command line of the inspector. The files that a command line names are
loaded into a storage, the command runs on that storage, and the files it
changed are written back. All decisions are made by the command; this module
only moves bytes.
-/

namespace RecordLog.Program

/-- A path as an entry of the current directory. -/
def entryOf (path : String) : IO.FS.DirEntry := ⟨".", path⟩

/-- The type of what a path names, if it names anything. -/
def typeOf? (path : String) : IO (Option IO.FS.FileType) := do
  try
    return some (← (entryOf path).path.metadata).type
  catch _ =>
    return none

/-- Load one name into a storage. The bytes of files that cannot be segments
are left out. -/
def loadName (config : Config) (path : String) (place : Place) (storage : Storage) :
    IO Storage := do
  match ← typeOf? path with
  | none => return storage
  | some .file =>
      if path.endsWith config.fileExtension then
        return (storage.putAt place (← IO.FS.readBinFile path).data).2
      else
        return storage.addFile place
  | some _ =>
      if (storage.entryAt place).isNone then return storage.addEntry place .directory
      else return storage

/-- Load the directory of a log, with those above it. -/
def load (config : Config) : IO Storage := do
  let directory : Path := ⟨config.directory⟩
  let mut storage := Storage.empty
  let mut walked : Path := ⟨if config.directory.startsWith "/" then "/" else ""⟩
  let mut place : Place := []
  for component in directory.components do
    walked := walked.join component
    place := Storage.stepInto place component
    storage ← loadName config walked.text place storage
  if (← typeOf? config.directory) == some .dir then
    for entry in ← (entryOf config.directory).path.readDir do
      let path := (directory.join entry.fileName).text
      storage ← loadName config path (place ++ [.text entry.fileName]) storage
  return storage

/-- The path of a place that a path leads past. -/
def placeText (directory : Path) (place : Place) : String :=
  (if directory.isRooted then "/" else "") ++ "/".intercalate (place.map FileName.display)

/-- Write back the directories that were created, and the files of the log
directory that differ from what was loaded. -/
def save (config : Config) (before after : Storage) : IO Unit := do
  let directory : Path := ⟨config.directory⟩
  for (place, entry) in after.entries do
    if entry = .directory ∧ before.entryAt place = none then
      IO.FS.createDirAll (placeText directory place)
  match after.readDirectory directory with
  | .error _ => return ()
  | .ok names =>
      for (name, entry) in names do
        match name, entry with
        | .text name, .file node =>
            let path := directory.join name
            let bytes := after.nodeBytes node
            if (before.fileBytes path).toOption ≠ some bytes then
              IO.FS.writeBinFile path.text ⟨bytes⟩
        | _, _ => pure ()

/-- The name of a level in the program's log. -/
def levelText : Inspect.Level → String
  | .warning => "WARN"
  | .error => "ERROR"

/-- Print an outcome; answers the exit code. -/
def print (outcome : Inspect.Outcome) : IO UInt32 := do
  for line in outcome.output do
    IO.println line
  for (level, message) in outcome.log do
    IO.eprintln (levelText level ++ " " ++ message)
  return outcome.exitCode.toUInt32

/-- How the program is called. -/
def usage : String :=
  "usage: [-d DIR] [-e EXTENSION] [-b BLOCK_SIZE] COMMAND\n" ++
    "commands: list, verify, dump SEGMENT [-l LIMIT], append PAYLOAD [--sync]"

/-- Run the program on its arguments. -/
def run (arguments : List String) : IO UInt32 := do
  match Inspect.Invocation.ofArguments arguments with
  | none =>
      IO.eprintln usage
      return 2
  | some .help =>
      IO.println usage
      return 0
  | some .version =>
      IO.println Inspect.versionLine
      return 0
  | some (.run config command) =>
      let before ← load config
      let (outcome, after) := Inspect.runCommand config command before
      save config before after
      print outcome

end RecordLog.Program

/-- The program. -/
def main (arguments : List String) : IO UInt32 :=
  RecordLog.Program.run arguments
