import RecordLog.Failure
import RecordLog.Storage.Content
import RecordLog.Storage.Path

/-!
# Storage

Storage is a tree of names over numbered files. A file outlives its names as
long as it is open: handles refer to the file itself, so that removing or
renaming leaves them working. What the storage refuses at present is part of
its state: a length past which no handle may write, the faults that meet the
creation of files, the duplication of handles, the setting of a length and the
sync that follows it, and for each handle, also those to come, whether its syncs
fail.

A name stands for a directory or for a file. Next to regular files there are
others: links to files, pipes, sockets and devices. They can be opened like any
file, and are told apart where a directory is searched for regular files. A path
leads through directories alone: one that leads through links is taken as the one
it stands for.

A path is followed from the root, one component at a time. Each place on the
way must be a directory; the last one may be vacant. The root is an entry too:
it can be removed, and comes back with the next directory that is asked for.
-/

namespace RecordLog

/-- A name in a directory. Names are text, or bytes that are no text. -/
inductive FileName where
  | text (name : String)
  | binary (bytes : List UInt8)
  deriving DecidableEq, Repr

/-- A place in the tree: the names from the root down. -/
abbrev Place := List FileName

/-- What a name stands for: a directory or a file, regular or not. -/
inductive Entry where
  | directory
  | file {isRegular : Bool} (node : Nat)
  deriving DecidableEq, Repr

/-- A regular file. -/
@[match_pattern]
abbrev Entry.regular (node : Nat) : Entry := @Entry.file true node

/-- A file that is not regular. -/
@[match_pattern]
abbrev Entry.irregular (node : Nat) : Entry := @Entry.file false node

/-- A file: its bytes, and the length its last successful sync covered. -/
structure FileNode where
  bytes : Content
  synced : Nat

/-- An open file. -/
structure OpenFile where
  node : Nat
  /-- Whether its owner has not released it. -/
  held : Bool
  /-- Whether its syncs fail. -/
  syncFails : Bool

/-- The number of an open file. -/
structure Handle where
  index : Nat
  deriving DecidableEq, Repr

/-- What a storage refuses. -/
structure Refusals where
  /-- The length past which no handle may write. -/
  growthLimit : Option Nat
  /-- The fault that meets the creation of a file at a path. A name may be too
  long, or a directory may not be written. -/
  creationFault : Path → Option StorageError
  /-- The fault that meets the duplication of a handle. -/
  duplicationFault : Handle → Option StorageError
  /-- The fault that meets setting the length of a file. -/
  resizeFault : Option StorageError
  /-- The fault that meets the sync of a length that was set. -/
  flushFault : Option StorageError
  /-- Whether the syncs of handles opened from now on fail. -/
  syncFault : Bool

/-- Nothing is refused. -/
def Refusals.none : Refusals :=
  { growthLimit := .none, creationFault := fun _ => .none, duplicationFault := fun _ => .none,
    resizeFault := .none, flushFault := .none, syncFault := false }

/-- The state of the storage. -/
structure Storage extends Refusals where
  entries : List (Place × Entry)
  nodes : Array FileNode
  opened : Array OpenFile

namespace Storage

/-- A storage with an empty root. -/
def empty : Storage :=
  { Refusals.none with entries := [([], .directory)], nodes := #[], opened := #[] }

variable (storage : Storage)

/-! ## Names -/

/-- What stands at a place. -/
def entryAt (place : Place) : Option Entry :=
  storage.entries.lookup place

/-- The place a component leads to. -/
def stepInto (place : Place) (component : String) : Place :=
  if component = "." then place
  else if component = ".." then place.dropLast
  else place ++ [.text component]

/-- Follow components from a place. -/
def walk (place : Place) : List String → Except StorageError Place
  | [] => .ok place
  | component :: rest =>
      match storage.entryAt place with
      | none => .error .notFound
      | some (.file _) => .error .notADirectory
      | some .directory => walk (stepInto place component) rest

/-- The place of a path. -/
def resolve (path : Path) : Except StorageError Place :=
  if path.text = "" then .error .notFound else storage.walk [] path.components

/-- What a path names. -/
def find (path : Path) : Except StorageError Entry :=
  match storage.resolve path with
  | .error cause => .error cause
  | .ok place =>
      match storage.entryAt place with
      | none => .error .notFound
      | some .directory => .ok .directory
      | some (@Entry.file isRegular node) =>
          if path.namesDirectory then .error .notADirectory else .ok (@Entry.file isRegular node)

/-- The file a path names. -/
def findFile (path : Path) : Except StorageError Nat :=
  match storage.find path with
  | .error cause => .error cause
  | .ok .directory => .error .isADirectory
  | .ok (.file node) => .ok node

/-- The names in the directory at a place. -/
def namesAt (place : Place) : List (FileName × Entry) :=
  storage.entries.filterMap fun (inner, entry) =>
    if inner.dropLast = place then inner.getLast?.map fun name => (name, entry) else none

/-- The names in the directory a path names. -/
def readDirectory (path : Path) : Except StorageError (List (FileName × Entry)) :=
  match storage.resolve path with
  | .error cause => .error cause
  | .ok place =>
      match storage.entryAt place with
      | none => .error .notFound
      | some (.file _) => .error .notADirectory
      | some .directory => .ok (storage.namesAt place)

/-! ## Files -/

/-- The bytes of a file. -/
def nodeBytes (node : Nat) : Content :=
  (storage.nodes[node]?.map FileNode.bytes).getD #[]

/-- The bytes of the file a path names. -/
def fileBytes (path : Path) : Except StorageError Content :=
  match storage.findFile path with
  | .error cause => .error cause
  | .ok node => .ok (storage.nodeBytes node)

/-- The size reported for a directory. -/
def directorySize : Nat := 4096

/-- The size of what an entry stands for. -/
def entrySize : Entry → Nat
  | .directory => directorySize
  | .file node => (storage.nodeBytes node).size

/-- The size of what a path names. -/
def sizeOf (path : Path) : Except StorageError Nat :=
  match storage.find path with
  | .error cause => .error cause
  | .ok entry => .ok (storage.entrySize entry)

/-- Change a file. -/
def modifyNode (node : Nat) (change : FileNode → FileNode) : Storage :=
  { storage with nodes := storage.nodes.modify node change }

/-- Change the bytes of a file. -/
def modifyBytes (node : Nat) (change : Content → Content) : Storage :=
  storage.modifyNode node fun file => { file with bytes := change file.bytes }

/-- Put an entry at a vacant place. -/
def addEntry (place : Place) (entry : Entry) : Storage :=
  { storage with entries := storage.entries ++ [(place, entry)] }

/-- Add a regular file with no bytes at a vacant place. -/
def addFile (place : Place) : Storage :=
  { storage.addEntry place (.regular storage.nodes.size) with
    nodes := storage.nodes.push ⟨#[], 0⟩ }

/-! ## Directories -/

/-- Create a directory where there is nothing. -/
def makeDirectory (path : Path) : Except StorageError Unit × Storage :=
  match storage.resolve path with
  | .error cause => (.error cause, storage)
  | .ok place =>
      match storage.entryAt place with
      | some _ => (.error .alreadyExists, storage)
      | none => (.ok (), storage.addEntry place .directory)

/-- Whether a path names a directory. -/
def isDirectory (path : Path) : Bool :=
  match storage.find path with
  | .ok .directory => true
  | _ => false

/-- Create a directory unless there is one. -/
def ensureDirectory (path : Path) : Except StorageError Unit × Storage :=
  match storage.makeDirectory path with
  | (.ok (), storage) => (.ok (), storage)
  | (.error cause, storage) =>
      if storage.isDirectory path then (.ok (), storage) else (.error cause, storage)

/-- Make sure that there is a directory at a place. -/
def makePlace (place : Place) : Except StorageError Unit × Storage :=
  match storage.entryAt place with
  | some .directory => (.ok (), storage)
  | some (.file _) => (.error .alreadyExists, storage)
  | none => (.ok (), storage.addEntry place .directory)

/-- Create the missing directories from a place on along components. -/
def makeDirectories : Storage → Place → List String → Except StorageError Unit × Storage
  | storage, place, [] => storage.makePlace place
  | storage, place, component :: rest =>
      match storage.makePlace place with
      | (.error cause, storage) => (.error cause, storage)
      | (.ok (), storage) => makeDirectories storage (stepInto place component) rest

/-- Create the missing directories above a path. The root has none above it. -/
def makeParents (path : Path) : Except StorageError Unit × Storage :=
  if path.isRoot then (.ok (), storage) else storage.makeDirectories [] path.parentSteps

/-- Create a directory and those above it; what exists already is kept. The
directories above are created only when one of them is missing, and a dot at
the end of the path is followed, not created: without its directory there it
fails. -/
def createDirectory (path : Path) : Except StorageError Unit × Storage :=
  match storage.ensureDirectory path with
  | (.error .notFound, storage) =>
      match storage.makeParents path with
      | (.error cause, storage) => (.error cause, storage)
      | (.ok (), storage) => storage.ensureDirectory path
  | outcome => outcome

end Storage

end RecordLog
