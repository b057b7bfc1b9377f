import RecordLog.Storage.Basic

/-!
# Changing the tree

Operations that act on names: whole files are replaced, appended to, cut and
patched by name, and names are removed and moved. A file replaced in place
stays the same file, so handles on it see the new bytes.
-/

namespace RecordLog

namespace Storage

variable (storage : Storage)

/-- Whether no name lies in the directory at a place. -/
def isVacant (place : Place) : Bool :=
  (storage.namesAt place).isEmpty

/-- Remove the entry at a place. -/
def removeEntry (place : Place) : Storage :=
  { storage with entries := storage.entries.filter fun (inner, _) => inner ≠ place }

/-- Replace the bytes of the file at a place, which is created if there is
none. -/
def putAt (place : Place) (bytes : Content) : Except StorageError Unit × Storage :=
  match storage.entryAt place with
  | some .directory => (.error .isADirectory, storage)
  | some (.file node) => (.ok (), storage.modifyNode node fun _ => ⟨bytes, 0⟩)
  | none =>
      let node := storage.nodes.size
      (.ok (), (storage.addFile place).modifyNode node fun _ => ⟨bytes, 0⟩)

/-- Create the directory above a path. The root has none above it. -/
def createParent (path : Path) : Except StorageError Unit × Storage :=
  if path.isRoot then (.ok (), storage)
  else storage.createDirectory (.fromRoot path.parentSteps)

/-- Replace the bytes of the file a path names; the directories above it are
created. -/
def putFile (path : Path) (bytes : Content) : Except StorageError Unit × Storage :=
  match storage.createParent path with
  | (.error cause, storage) => (.error cause, storage)
  | (.ok (), storage) =>
      match storage.resolve path with
      | .error cause => (.error cause, storage)
      | .ok place =>
          if path.namesDirectory then (.error .isADirectory, storage)
          else storage.putAt place bytes

/-- Replace the bytes of the file of a name that is no text, in the directory
a path leads to; the directory is created. -/
def putBinary (directory : Path) (name : List UInt8) (bytes : Content) :
    Except StorageError Unit × Storage :=
  match storage.createDirectory (.fromRoot directory.steps) with
  | (.error cause, storage) => (.error cause, storage)
  | (.ok (), storage) =>
      match storage.walk [] directory.components with
      | .error cause => (.error cause, storage)
      | .ok place => storage.putAt (place ++ [.binary name]) bytes

/-- Change the bytes of the file a path names. -/
def changeFile (path : Path) (change : Content → Except StorageError Content) :
    Except StorageError Unit × Storage :=
  match storage.findFile path with
  | .error cause => (.error cause, storage)
  | .ok node =>
      match change (storage.nodeBytes node) with
      | .error cause => (.error cause, storage)
      | .ok bytes => (.ok (), storage.modifyBytes node fun _ => bytes)

/-- Append to an existing file. -/
def appendFile (path : Path) (data : List UInt8) : Except StorageError Unit × Storage :=
  storage.changeFile path fun bytes => .ok (bytes ++ data)

/-- Set the length of an existing file. -/
def resizeFile (path : Path) (length : Nat) : Except StorageError Unit × Storage :=
  storage.changeFile path fun bytes => .ok (bytes.resize length)

/-- Overwrite bytes of an existing file. -/
def patchFile (path : Path) (offset : Nat) (data : List UInt8) :
    Except StorageError Unit × Storage :=
  storage.changeFile path fun bytes => .ok (bytes.overwrite offset data)

/-- Flip bits of one byte of an existing file. -/
def flipBits (path : Path) (offset : Nat) (mask : UInt8) :
    Except StorageError Unit × Storage :=
  storage.changeFile path fun bytes =>
    if h : offset < bytes.size then .ok (bytes.set offset (bytes[offset] ^^^ mask))
    else .error .unexpectedEnd

/-- Remove the name of a file. -/
def removeFile (path : Path) : Except StorageError Unit × Storage :=
  match storage.findFile path, storage.resolve path with
  | .error cause, _ => (.error cause, storage)
  | .ok _, .error cause => (.error cause, storage)
  | .ok _, .ok place => (.ok (), storage.removeEntry place)

/-- Remove an empty directory, which has to be named. -/
def removeDirectory (path : Path) : Except StorageError Unit × Storage :=
  match storage.find path, storage.resolve path with
  | .error cause, _ => (.error cause, storage)
  | .ok _, .error cause => (.error cause, storage)
  | .ok (.file _), .ok _ => (.error .notADirectory, storage)
  | .ok .directory, .ok place =>
      if path.endsWithDot then (.error .invalidArgument, storage)
      else if path.endsWithDoubleDot || !storage.isVacant place then
        (.error .directoryNotEmpty, storage)
      else (.ok (), storage.removeEntry place)

/-- Move a place, with all that lies in it, over another. -/
def relocate (source target : Place) : Storage :=
  let kept := storage.removeEntry target
  { kept with
    entries := kept.entries.map fun (place, entry) =>
      if source.isPrefixOf place then (target ++ place.drop source.length, entry)
      else (place, entry) }

/-- Why an entry cannot be moved over what stands at the target, if so. -/
def replaceFault (target : Place) (entry : Entry) : Option StorageError :=
  match entry, storage.entryAt target with
  | _, none => none
  | .file _, some (.file _) => none
  | .file _, some .directory => some .isADirectory
  | .directory, some (.file _) => some .notADirectory
  | .directory, some .directory =>
      if storage.isVacant target then none else some .directoryNotEmpty

/-- Why an entry cannot be moved to a place, if so. A file is not moved where
only a directory can be, and nothing into itself or over what it lies in. -/
def moveFault (source target : Place) (entry : Entry) (intoDirectory : Bool) :
    Option StorageError :=
  if entry ≠ .directory ∧ intoDirectory then some .notADirectory
  else if source = target then none
  else if source.isPrefixOf target then some .invalidArgument
  else if target.isPrefixOf source then some .directoryNotEmpty
  else storage.replaceFault target entry

/-- Rename a file or a directory. Both paths have to end with a name, and the
directories of both are looked up before the names. -/
def rename (source target : Path) : Except StorageError Unit × Storage :=
  match storage.resolve source, storage.resolve target with
  | .error cause, _ => (.error cause, storage)
  | .ok _, .error cause => (.error cause, storage)
  | .ok sourcePlace, .ok targetPlace =>
      if source.endsWithDots || target.endsWithDots then (.error .busy, storage)
      else
        match storage.find source with
        | .error cause => (.error cause, storage)
        | .ok entry =>
            match storage.moveFault sourcePlace targetPlace entry target.endsWithSlash with
            | some cause => (.error cause, storage)
            | none =>
                if sourcePlace = targetPlace then (.ok (), storage)
                else (.ok (), storage.relocate sourcePlace targetPlace)

end Storage

end RecordLog
