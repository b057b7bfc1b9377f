import RecordLog.Proofs.Formed
import RecordLog.Proofs.Written

/-!
# What syncs have covered

Once a segment is open, its file only advances: bytes are added or overwritten
and none are taken away, and a length that a sync has covered stays covered. This
is followed by handles, since a log syncs through the handle it opened, whatever
becomes of the name. Every operation of an open log advances the files of all
handles; a write that succeeds makes a file as long as it reaches, and a sync
that succeeds covers the whole of one.
-/

namespace RecordLog

/-- A file that lost no byte, and no cover of a byte it has. -/
structure FileNode.Advances (before after : FileNode) : Prop where
  size_le : before.bytes.size ≤ after.bytes.size
  synced_le : min before.synced before.bytes.size ≤ after.synced

namespace FileNode.Advances

variable {before middle after : FileNode}

theorem refl (file : FileNode) : file.Advances file :=
  ⟨Nat.le_refl _, Nat.min_le_left _ _⟩

theorem trans (first : before.Advances middle) (second : middle.Advances after) :
    before.Advances after := by
  have := first.size_le
  have := first.synced_le
  have := second.size_le
  have := second.synced_le
  constructor <;> omega

/-- What is covered stays covered. -/
theorem covers (advances : before.Advances after) {length : Nat}
    (held : length ≤ before.bytes.size) (covered : length ≤ before.synced) :
    length ≤ after.synced :=
  Nat.le_trans (Nat.le_min.mpr ⟨covered, held⟩) advances.synced_le

end FileNode.Advances

theorem Content.size_overwrite (content : Content) (offset : Nat) {data : List UInt8}
    (nonempty : data ≠ []) :
    (content.overwrite offset data).size = max content.size (offset + data.length) := by
  unfold overwrite
  rw [if_neg nonempty, ← Array.length_toList]
  split
  · simp
    omega
  · simp
    omega

namespace Storage

variable {storage before middle after : Storage} {handle other : Handle} {file : FileNode}

/-- The file that a handle refers to. -/
def fileOf? (storage : Storage) (handle : Handle) : Option FileNode :=
  (storage.nodeOf? handle).bind fun node => storage.nodes[node]?

theorem syncedLength_eq (found : storage.fileOf? handle = some file) :
    storage.syncedLength handle = file.synced := by
  obtain ⟨node, refers, stands⟩ := Option.bind_eq_some_iff.mp found
  simp [syncedLength, refers, stands]

/-- A handle without a file covers nothing. -/
theorem syncedLength_of_none (missing : storage.fileOf? handle = none) :
    storage.syncedLength handle = 0 := by
  unfold fileOf? at missing
  unfold syncedLength
  cases refers : storage.nodeOf? handle with
  | none => rfl
  | some node =>
      rw [refers, Option.bind_some] at missing
      simp [missing]

/-- The files of all handles advance. -/
def Advances (before after : Storage) : Prop :=
  ∀ handle, ∀ file ∈ before.fileOf? handle, ∃ advanced ∈ after.fileOf? handle,
    file.Advances advanced

theorem Advances.trans (first : before.Advances middle) (second : middle.Advances after) :
    before.Advances after := by
  intro handle file found
  obtain ⟨advanced, foundMiddle, here⟩ := first handle file found
  obtain ⟨final, foundAfter, there⟩ := second handle advanced foundMiddle
  exact ⟨final, foundAfter, here.trans there⟩

/-- Where handles keep their files as they are, these advance. -/
theorem Advances.of_kept
    (kept : ∀ handle, ∀ file ∈ before.fileOf? handle, after.fileOf? handle = some file) :
    before.Advances after :=
  fun handle file found => ⟨file, kept handle file found, .refl file⟩

theorem Advances.refl (storage : Storage) : storage.Advances storage :=
  .of_kept fun _ _ found => found

/-! ## Handles -/

theorem fileOf?_openNode (found : storage.fileOf? handle = some file) (node : Nat) :
    (storage.openNode node).2.fileOf? handle = some file := by
  obtain ⟨own, refers, stands⟩ := Option.bind_eq_some_iff.mp found
  rw [fileOf?, (storage.keeps_openNode node).nodeOf?_eq refers]
  exact stands

theorem fileOf?_addFile (found : storage.fileOf? handle = some file) (place : Place) :
    (storage.addFile place).fileOf? handle = some file := by
  obtain ⟨own, refers, stands⟩ := Option.bind_eq_some_iff.mp found
  have refersAfter : (storage.addFile place).nodeOf? handle = some own := refers
  obtain ⟨within, _⟩ := Array.getElem?_eq_some_iff.mp stands
  rw [fileOf?, refersAfter, Option.bind_some, addFile, Array.getElem?_push_lt within, ← stands,
    Array.getElem?_eq_getElem within]

theorem advances_createFile (storage : Storage) (path : Path) :
    storage.Advances (storage.createFile path).2 := by
  rcases storage.createFile_cases path with ⟨cause, failed⟩ | ⟨place, _, _, _, _, created⟩
  · rw [failed]
    exact .refl storage
  · rw [created]
    exact .of_kept fun _ _ found => fileOf?_openNode (fileOf?_addFile found place) _

theorem advances_release (storage : Storage) (handle : Handle) :
    storage.Advances (storage.release handle) := by
  apply Advances.of_kept
  intro other file found
  obtain ⟨node, refers, stands⟩ := Option.bind_eq_some_iff.mp found
  rw [fileOf?, (storage.keeps_release handle).nodeOf?_eq refers]
  exact stands

theorem syncFails_release (storage : Storage) (handle other : Handle) :
    (storage.release handle).syncFails other = storage.syncFails other := by
  simp only [syncFails, release, modifyHandle, Array.getElem?_modify]
  split
  · cases storage.opened[other.index]? <;> rfl
  · rfl

/-- Creating a file does not change whether the syncs of a handle fail. -/
theorem syncFails_createFile (found : storage.fileOf? handle = some file) (path : Path) :
    (storage.createFile path).2.syncFails handle = storage.syncFails handle := by
  rcases storage.createFile_cases path with ⟨cause, failed⟩ | ⟨place, _, _, _, _, created⟩
  · rw [failed]
  · obtain ⟨node, refers, _⟩ := Option.bind_eq_some_iff.mp found
    obtain ⟨opened, at_index, _⟩ := Option.map_eq_some_iff.mp refers
    obtain ⟨within, _⟩ := Array.getElem?_eq_some_iff.mp at_index
    have pushed : (storage.createFile path).2.opened[handle.index]? =
        storage.opened[handle.index]? := by
      rw [created]
      exact (Array.getElem?_push_lt within).trans (Array.getElem?_eq_getElem within).symm
    rw [syncFails, pushed, syncFails]

/-- A file that was created is there, and so is its handle. -/
theorem exists_fileOf?_createFile {path : Path}
    (created : (storage.createFile path).1 = .ok handle) :
    ∃ file, (storage.createFile path).2.fileOf? handle = some file := by
  rcases storage.createFile_cases path with ⟨cause, failed⟩ | ⟨place, _, _, _, _, done⟩
  · rw [failed] at created
    cases created
  · rw [done] at created ⊢
    cases created
    refine ⟨⟨#[], 0⟩, ?_⟩
    rw [fileOf?, nodeOf?_openNode, Option.bind_some, openNode, addFile, Array.getElem?_push_size]

/-! ## Changing files -/

/-- Changing the file of one handle changes it for all handles of that file. -/
theorem fileOf?_modifyOpen (storage : Storage) (handle other : Handle)
    (change : FileNode → FileNode) :
    (storage.modifyOpen handle change).fileOf? other =
      if storage.nodeOf? other = storage.nodeOf? handle then (storage.fileOf? other).map change
      else storage.fileOf? other := by
  cases refers : storage.nodeOf? handle with
  | none =>
      cases refersOther : storage.nodeOf? other <;> simp [fileOf?, modifyOpen, refers, refersOther]
  | some node =>
      have same : (storage.modifyOpen handle change).nodeOf? other = storage.nodeOf? other := by
        rw [modifyOpen, refers]
        rfl
      cases refersOther : storage.nodeOf? other with
      | none => simp [fileOf?, same, refersOther]
      | some otherNode =>
          simp only [fileOf?, same, refersOther, Option.bind_some, Option.some.injEq]
          simp only [modifyOpen, refers, modifyNode, Array.getElem?_modify]
          by_cases here : node = otherNode
          · rw [if_pos here, if_pos here.symm]
          · rw [if_neg here, if_neg (Ne.symm here)]

theorem fileOf?_modifyOpen_self (storage : Storage) (handle : Handle)
    (change : FileNode → FileNode) :
    (storage.modifyOpen handle change).fileOf? handle = (storage.fileOf? handle).map change := by
  rw [fileOf?_modifyOpen, if_pos rfl]

theorem advances_modifyOpen (storage : Storage) (handle : Handle) {change : FileNode → FileNode}
    (advances : ∀ file : FileNode, file.Advances (change file)) :
    storage.Advances (storage.modifyOpen handle change) := by
  intro other file found
  rw [fileOf?_modifyOpen]
  split
  · exact ⟨change file, Option.mem_map_of_mem change found, advances file⟩
  · exact ⟨file, found, .refl file⟩

/-- A handle keeps its file when the length of that is set. -/
theorem exists_fileOf?_truncate (backed : ∃ file, storage.fileOf? handle = some file)
    (length : Nat) : ∃ file, (storage.truncate handle length).2.fileOf? handle = some file := by
  have changed {storage : Storage} (backed : ∃ file, storage.fileOf? handle = some file)
      (change : FileNode → FileNode) :
      ∃ file, (storage.modifyOpen handle change).fileOf? handle = some file := by
    obtain ⟨file, found⟩ := backed
    exact ⟨change file, by rw [fileOf?_modifyOpen_self, found, Option.map_some]⟩
  unfold truncate resize flush
  cases storage.resizeFault with
  | some cause => exact backed
  | none =>
      simp only
      split
      · exact changed backed _
      · exact changed (changed backed _) _

theorem advances_write (storage : Storage) (handle : Handle) (offset : Nat) (data : List UInt8) :
    storage.Advances (storage.write handle offset data).2 := by
  have advances : storage.Advances (storage.modifyOpen handle fun file =>
      { file with
        bytes := file.bytes.overwrite offset
          (data.take (storage.admitted offset data.length)) }) := by
    apply advances_modifyOpen
    intro file
    refine ⟨?_, Nat.min_le_left _ _⟩
    by_cases nothing : data.take (storage.admitted offset data.length) = []
    · simp [nothing, Content.overwrite]
    · rw [Content.size_overwrite _ _ nothing]
      exact Nat.le_max_left _ _
  unfold write
  simp only
  split
  · exact advances
  · exact advances

/-- A write that succeeds makes a file as long as it reaches. -/
theorem size_of_write {offset : Nat} {data : List UInt8} (nonempty : data ≠ [])
    (found : storage.fileOf? handle = some file)
    (written : (storage.write handle offset data).1 = .ok ()) :
    ∃ longer ∈ (storage.write handle offset data).2.fileOf? handle,
      offset + data.length ≤ longer.bytes.size := by
  have admitted : ¬ storage.admitted offset data.length < data.length := by
    intro short
    rw [write_fst, if_pos short] at written
    cases written
  have whole : data.take (storage.admitted offset data.length) = data :=
    List.take_of_length_le (by omega)
  have after_eq : (storage.write handle offset data).2 = storage.modifyOpen handle fun file =>
      { file with bytes := file.bytes.overwrite offset data } := by
    simp only [write, if_neg admitted, whole]
  rw [after_eq, fileOf?_modifyOpen_self, found]
  refine ⟨_, rfl, ?_⟩
  simp only [Content.size_overwrite _ _ nonempty]
  exact Nat.le_max_right _ _

theorem advances_sync (storage : Storage) (handle : Handle) :
    storage.Advances (storage.sync handle).2 := by
  unfold sync
  split
  · exact .refl storage
  · exact storage.advances_modifyOpen handle fun file => ⟨Nat.le_refl _, Nat.min_le_right _ _⟩

/-- A sync that succeeds covers the whole of its file. -/
theorem covered_of_sync (synced : (storage.sync handle).1 = true) :
    ∀ file ∈ (storage.sync handle).2.fileOf? handle, file.bytes.size ≤ file.synced := by
  intro file found
  unfold sync at synced found
  split at found
  · rename_i fails
    rw [if_pos fails] at synced
    cases synced
  · simp only [fileOf?_modifyOpen_self, Option.mem_def, Option.map_eq_some_iff] at found
    obtain ⟨_, _, rfl⟩ := found
    exact Nat.le_refl _

theorem syncFails_of_sync (failed : (storage.sync handle).1 = false) :
    storage.syncFails handle = true := by
  unfold sync at failed
  split at failed
  · assumption
  · cases failed

/-! ## Directories -/

section Directories

variable {Kept : Storage → Prop}

private theorem kept_makePlace
    (adds : ∀ storage place, Kept storage → Kept (storage.addEntry place .directory))
    (kept : Kept storage) (place : Place) : Kept (storage.makePlace place).2 := by
  unfold makePlace
  split
  · exact kept
  · exact kept
  · exact adds storage place kept

private theorem kept_makeDirectories
    (adds : ∀ storage place, Kept storage → Kept (storage.addEntry place .directory))
    (kept : Kept storage) (place : Place) (components : List String) :
    Kept (storage.makeDirectories place components).2 := by
  induction components generalizing storage place with
  | nil => exact kept_makePlace adds kept place
  | cons component rest ih =>
      have made := kept_makePlace adds kept place
      rw [makeDirectories]
      split
      · rename_i outcome
        rw [outcome] at made
        exact made
      · rename_i outcome
        rw [outcome] at made
        exact ih made _

private theorem kept_ensureDirectory
    (adds : ∀ storage place, Kept storage → Kept (storage.addEntry place .directory))
    (kept : Kept storage) (path : Path) : Kept (storage.ensureDirectory path).2 := by
  have made : Kept (storage.makeDirectory path).2 := by
    unfold makeDirectory
    split
    · exact kept
    · split
      · exact kept
      · exact adds storage _ kept
  unfold ensureDirectory
  split
  · rename_i outcome
    rw [outcome] at made
    exact made
  · rename_i outcome
    rw [outcome] at made
    split <;> exact made

/-- What the adding of directories keeps is kept when a directory is created with
those above it. -/
theorem kept_createDirectory
    (adds : ∀ storage place, Kept storage → Kept (storage.addEntry place .directory))
    (kept : Kept storage) (path : Path) : Kept (storage.createDirectory path).2 := by
  have ensured := kept_ensureDirectory adds kept path
  unfold createDirectory
  split
  · rename_i missing outcome
    rw [outcome] at ensured
    have parents : Kept (missing.makeParents path).2 := by
      unfold makeParents
      split
      · exact ensured
      · exact kept_makeDirectories adds ensured [] path.parentSteps
    split
    · rename_i made
      rw [made] at parents
      exact parents
    · rename_i made
      rw [made] at parents
      exact kept_ensureDirectory adds parents path
  · exact ensured

end Directories

/-! ## Names -/

/-- Every name of a file leads to one. -/
def Sound (storage : Storage) : Prop :=
  ∀ place isRegular node, (place, @Entry.file isRegular node) ∈ storage.entries →
    node < storage.nodes.size

theorem Sound.findFile (sound : storage.Sound) {path : Path} {node : Nat}
    (found : storage.findFile path = .ok node) : node < storage.nodes.size := by
  obtain ⟨place, isRegular, _, stands, _⟩ := findFile_eq_ok_iff.mp found
  exact sound place isRegular node (mem_entries_of_entryAt stands)

theorem Sound.keeps (sound : storage.Sound) (keeps : storage.Keeps after) : after.Sound := by
  intro place isRegular node named
  rw [keeps.entries_eq] at named
  rw [keeps.size_eq]
  exact sound place isRegular node named

theorem Sound.addDirectory (sound : storage.Sound) (place : Place) :
    (storage.addEntry place .directory).Sound := by
  intro other isRegular node named
  simp only [addEntry, List.mem_append, List.mem_singleton, Prod.mk.injEq, reduceCtorEq, and_false,
    or_false] at named
  exact sound other isRegular node named

theorem Sound.createDirectory (sound : storage.Sound) (path : Path) :
    (storage.createDirectory path).2.Sound :=
  kept_createDirectory (fun _ place sound => sound.addDirectory place) sound path

end Storage

/-! ## Segments -/

namespace Segment

variable {layout : Layout} {storage after : Storage} {segment : Segment}

/-- A segment is open on a file. -/
structure Attached (layout : Layout) (storage : Storage) (segment : Segment) : Prop where
  layout_eq : segment.layout = layout
  isOpen : segment.closed = false
  backed : ∃ file, storage.fileOf? segment.handle = some file

theorem Attached.advances (attached : segment.Attached layout storage)
    (advances : storage.Advances after) : segment.Attached layout after where
  layout_eq := attached.layout_eq
  isOpen := attached.isOpen
  backed := by
    obtain ⟨file, found⟩ := attached.backed
    obtain ⟨advanced, foundAfter, _⟩ := advances segment.handle file found
    exact ⟨advanced, foundAfter⟩

/-- The id of a segment, and the handle it is open on. -/
def key (segment : Segment) : SegmentId × Handle := (segment.id, segment.handle)

/-! ### Opening -/

theorem attached_openExisting {path : Path} {id : SegmentId} (sound : storage.Sound)
    (opened : openExisting path id layout storage = (.ok segment, after)) :
    segment.id = id ∧ segment.Attached layout after ∧ storage.Keeps after ∧
      storage.Advances after := by
  obtain ⟨handle, outcome, rfl⟩ := openExisting_eq_ok opened
  unfold Storage.openFile at outcome
  split at outcome
  · cases outcome
  rename_i node found
  cases outcome
  refine ⟨rfl, ⟨rfl, rfl, ?_⟩, storage.keeps_openNode node,
    .of_kept fun _ _ kept => Storage.fileOf?_openNode kept node⟩
  exact ⟨_, Option.bind_eq_some_iff.mpr
    ⟨node, storage.nodeOf?_openNode node, Array.getElem?_eq_getElem (sound.findFile found)⟩⟩

/-- All segments that are opened together are open on files. -/
theorem attached_openAll {config : Config} {ids : List SegmentId} {segments : List Segment}
    (sound : storage.Sound) (opened : openAll config layout ids storage = (.ok segments, after)) :
    segments.map Segment.id = ids ∧ (∀ segment ∈ segments, segment.Attached layout after) ∧
      after.Sound ∧ storage.Advances after := by
  induction ids generalizing storage segments after with
  | nil =>
      cases opened
      exact ⟨rfl, by simp, sound, .refl storage⟩
  | cons id rest ih =>
      rw [openAll] at opened
      split at opened
      · cases opened
      rename_i first middle openedFirst
      split at opened
      · cases opened
      rename_i others final openedRest
      cases opened
      obtain ⟨id_eq, attached, keeps, advances⟩ := attached_openExisting sound openedFirst
      obtain ⟨ids_eq, attachedRest, soundRest, advancesRest⟩ := ih (sound.keeps keeps) openedRest
      refine ⟨by rw [List.map_cons, id_eq, ids_eq], ?_, soundRest, advances.trans advancesRest⟩
      intro segment member
      rcases List.mem_cons.mp member with rfl | later
      · exact attached.advances advancesRest
      · exact attachedRest segment later

/-- Creating a segment advances all files, and does not change whether the syncs
of a handle fail. -/
theorem create_effect {path : Path} {id : SegmentId} {answer : Except Failure Segment}
    (outcome : create path id layout storage = (answer, after)) :
    storage.Advances after ∧ ∀ handle, ∀ file ∈ storage.fileOf? handle,
      after.syncFails handle = storage.syncFails handle := by
  have advances := storage.advances_createFile path
  rcases create_snd path id layout storage with same | ⟨given, same⟩
  · rw [outcome] at same
    subst same
    exact ⟨advances, fun _ _ found => Storage.syncFails_createFile found path⟩
  · rw [outcome] at same
    subst same
    refine ⟨advances.trans (Storage.advances_release _ given), fun handle file found => ?_⟩
    rw [Storage.syncFails_release, Storage.syncFails_createFile found path]

theorem attached_create {path : Path} {id : SegmentId}
    (created : create path id layout storage = (.ok segment, after)) :
    segment.id = id ∧ segment.Attached layout after := by
  obtain ⟨handle, outcome, rfl⟩ := create_eq_ok created
  have backed : ∃ file, (storage.createFile path).2.fileOf? handle = some file :=
    Storage.exists_fileOf?_createFile (by rw [outcome])
  rw [outcome] at backed
  exact ⟨rfl, rfl, rfl, backed⟩

/-- Recovery leaves a segment open on its file. -/
theorem attached_recover {report : Report} {recovered : Segment}
    (attached : segment.Attached layout storage)
    (done : segment.recover storage = (.ok report, recovered, after)) :
    recovered.id = segment.id ∧ recovered.Attached layout after := by
  unfold recover at done
  split at done
  · cases done
  split at done
  · split at done
    · cases done
    · rename_i cut final outcome
      cases done
      unfold truncate at outcome
      split at outcome
      · cases outcome
      split at outcome
      · cases outcome
      · rename_i set
        cases outcome
        have kept := Storage.exists_fileOf?_truncate attached.backed report.validLength
        rw [set] at kept
        exact ⟨rfl, attached.layout_eq, attached.isOpen, kept⟩
  · cases done
    exact ⟨rfl, attached⟩

/-! ### Writing, syncing and closing -/

theorem advances_append (segment : Segment) (payload : List UInt8) (storage : Storage) :
    storage.Advances (segment.append payload storage).2.2 := by
  unfold append
  split
  · exact .refl storage
  · have advances := storage.advances_write segment.handle segment.size
      (segment.layout.frame segment.size payload).bytes
    simp only
    split <;>
      · rename_i outcome
        rw [outcome] at advances
        exact advances

/-- The file of a segment holds a record that was appended to it. -/
theorem held_of_append {payload : List UInt8} {offset : Nat}
    (attached : segment.Attached layout storage)
    (appended : (segment.append payload storage).1 = .ok offset) :
    ∃ file ∈ (segment.append payload storage).2.2.fileOf? segment.handle,
      layout.recordStop offset payload ≤ file.bytes.size := by
  obtain ⟨file, found⟩ := attached.backed
  unfold append at appended ⊢
  split at appended
  · cases appended
  rename_i usable
  simp only [attached.layout_eq] at appended ⊢
  split at appended
  · rename_i after outcome
    cases appended
    have length_eq := layout.length_frame_bytes segment.size payload
    have nonempty : (layout.frame segment.size payload).bytes ≠ [] := by
      intro empty
      have := layout.lt_frame_stop segment.size payload
      rw [empty, List.length_nil] at length_eq
      omega
    have written : (storage.write segment.handle segment.size
        (layout.frame segment.size payload).bytes).1 = .ok () := by
      rw [outcome]
    obtain ⟨longer, foundAfter, reaches⟩ := Storage.size_of_write nonempty found written
    rw [outcome] at foundAfter
    refine ⟨longer, foundAfter, ?_⟩
    rw [Layout.frame_start, Layout.recordStop_align]
    have := layout.recordStop_le_frame_stop segment.size payload
    omega
  · cases appended

theorem advances_segmentSync (segment : Segment) (storage : Storage) :
    storage.Advances (segment.sync storage).2 := by
  rw [segment.sync_eq]
  split
  · exact .refl storage
  · exact storage.advances_sync segment.handle

theorem advances_close (segment : Segment) (storage : Storage) :
    storage.Advances (segment.close storage).2.2 := by
  rw [segment.close_eq]
  split
  · exact .refl storage
  · exact (storage.advances_sync segment.handle).trans (Storage.advances_release _ _)

end Segment

theorem Table.advances_closeAll (table : Table) (storage : Storage) :
    storage.Advances (table.closeAll storage).2.2 := by
  induction table generalizing storage with
  | nil => exact .refl storage
  | cons entry rest ih => exact (entry.2.advances_close storage).trans (ih _)

/-! ## Logs -/

namespace Log

theorem advances_append (log : Log) (payload : List UInt8) (storage : Storage) :
    storage.Advances (log.append payload storage).2.2 := by
  have writing := log.active.advances_append payload storage
  unfold append
  generalize log.active.append payload storage = outcome at writing ⊢
  obtain ⟨answer, active, middle⟩ := outcome
  cases answer with
  | error cause => exact writing
  | ok offset =>
      simp only
      split
      · exact writing.trans (active.advances_segmentSync middle)
      · exact writing

theorem advances_sync (log : Log) (storage : Storage) :
    storage.Advances (log.sync storage).2.2 := by
  rcases log.sync_snd storage with same | ⟨handle, same⟩
  · rw [same]
    exact .refl storage
  · rw [same]
    exact storage.advances_sync handle

theorem advances_close (log : Log) (storage : Storage) :
    storage.Advances (log.close storage).2.2 := by
  rw [log.close_eq]
  split
  · exact .refl storage
  · exact Table.advances_closeAll log.table storage

end Log

end RecordLog
