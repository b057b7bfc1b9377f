import RecordLog.Storage.Basic

/-!
# Open files

Files are created or opened for reading and writing, and from then on used
through a handle. A write that the storage cuts short leaves a beginning of
its bytes behind and fails. A sync that succeeds covers the whole length of
the file. A length is set first and synced then, and either can fail.
-/

namespace RecordLog

namespace Storage

variable (storage : Storage)

/-- Open a file. -/
def openNode (node : Nat) : Handle × Storage :=
  (⟨storage.opened.size⟩,
    { storage with opened := storage.opened.push ⟨node, true, storage.syncFault⟩ })

/-- Open the file a path names. -/
def openFile (path : Path) : Except StorageError Handle × Storage :=
  match storage.findFile path with
  | .error cause => (.error cause, storage)
  | .ok node =>
      let (handle, storage) := storage.openNode node
      (.ok handle, storage)

/-- Create a file where there is nothing, and open it. Dots name what exists,
and a slash names a directory. -/
def createFile (path : Path) : Except StorageError Handle × Storage :=
  match storage.resolve path with
  | .error cause => (.error cause, storage)
  | .ok place =>
      if path.endsWithDots then (.error .alreadyExists, storage)
      else if path.endsWithSlash then (.error .isADirectory, storage)
      else
        match storage.entryAt place with
        | some _ => (.error .alreadyExists, storage)
        | none =>
            match storage.creationFault path with
            | some cause => (.error cause, storage)
            | none =>
                let node := storage.nodes.size
                let (handle, storage) := (storage.addFile place).openNode node
                (.ok handle, storage)

/-- The file a handle refers to. -/
def nodeOf? (handle : Handle) : Option Nat :=
  storage.opened[handle.index]?.map OpenFile.node

/-- The bytes of an open file. -/
def content (handle : Handle) : Content :=
  (storage.nodeOf? handle).elim #[] storage.nodeBytes

/-- The length of an open file that its last successful sync covered. -/
def syncedLength (handle : Handle) : Nat :=
  ((storage.nodeOf? handle).bind fun node => storage.nodes[node]?.map FileNode.synced).getD 0

/-- Change the file of a handle. -/
def modifyOpen (handle : Handle) (change : FileNode → FileNode) : Storage :=
  match storage.nodeOf? handle with
  | none => storage
  | some node => storage.modifyNode node change

/-- How many bytes of a write at an offset the storage takes. -/
def admitted (offset length : Nat) : Nat :=
  match storage.growthLimit with
  | none => length
  | some limit => min length (limit - offset)

/-- Write bytes at an offset. When the storage does not take them all, those
it takes are written and the write fails. -/
def write (handle : Handle) (offset : Nat) (data : List UInt8) :
    Except StorageError Unit × Storage :=
  let count := storage.admitted offset data.length
  let written := storage.modifyOpen handle fun file =>
    { file with bytes := file.bytes.overwrite offset (data.take count) }
  if count < data.length then (.error .fileTooLarge, written) else (.ok (), written)

/-- Set the length of an open file. What was synced and is not cut off stays so. -/
def resize (handle : Handle) (length : Nat) : Except StorageError Unit × Storage :=
  match storage.resizeFault with
  | some cause => (.error cause, storage)
  | none =>
      (.ok (), storage.modifyOpen handle fun file =>
        { bytes := file.bytes.resize length, synced := min file.synced length })

/-- Bring the length of an open file to stable storage, with its bytes. -/
def flush (handle : Handle) : Except StorageError Unit × Storage :=
  match storage.flushFault with
  | some cause => (.error cause, storage)
  | none =>
      (.ok (), storage.modifyOpen handle fun file => { file with synced := file.bytes.size })

/-- Set the length of an open file, and sync it. A length whose sync fails stays
set. -/
def truncate (handle : Handle) (length : Nat) : Except StorageError Unit × Storage :=
  match storage.resize handle length with
  | (.error cause, storage) => (.error cause, storage)
  | (.ok (), storage) => storage.flush handle

/-- Whether the syncs of a handle fail. -/
def syncFails (handle : Handle) : Bool :=
  (storage.opened[handle.index]?.map OpenFile.syncFails).getD true

/-- Bring the bytes of an open file to stable storage; answers whether that
succeeded. -/
def sync (handle : Handle) : Bool × Storage :=
  if storage.syncFails handle then (false, storage)
  else
    (true, storage.modifyOpen handle fun file => { file with synced := file.bytes.size })

/-- Change an open file. -/
def modifyHandle (handle : Handle) (change : OpenFile → OpenFile) : Storage :=
  { storage with opened := storage.opened.modify handle.index change }

/-- Give up a handle. Duplicates taken before still sync. -/
def release (handle : Handle) : Storage :=
  storage.modifyHandle handle fun opened => { opened with held := false }

/-- Whether the file a path names is held open. -/
def isHeld (path : Path) : Bool :=
  match storage.findFile path with
  | .error _ => false
  | .ok node => storage.opened.any fun opened => opened.held && opened.node = node

/-- From now on the syncs of all handles held on the file a path names fail. -/
def failSyncs (path : Path) : Storage :=
  match storage.findFile path with
  | .error _ => storage
  | .ok node =>
      { storage with
        opened := storage.opened.map fun opened =>
          if opened.held && opened.node = node then { opened with syncFails := true }
          else opened }

end Storage

end RecordLog
