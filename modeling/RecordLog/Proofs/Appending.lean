import RecordLog.Proofs.Serving
import RecordLog.Storage.Tree

/-!
# Segments that are filled and repaired

A new segment is filled with payloads; the file is then changed behind its
back, and the segment is opened again and recovered. The file of a filled
segment holds the frames of the payloads one after the other, and the appends
answer the offsets at which the records are read back. Opening the changed file
and recovering it succeeds unless the storage refuses that, and cuts the file
where a survey ends.
-/

namespace RecordLog

/-! ## Operations -/

namespace Segment

/-- Append some payloads; answers the offsets they are read back from. -/
def appendAll (segment : Segment) :
    List (List UInt8) → Storage → Except Failure (List Nat) × Segment × Storage
  | [], storage => (.ok [], segment, storage)
  | payload :: rest, storage =>
      match segment.append payload storage with
      | (.error cause, segment, storage) => (.error cause, segment, storage)
      | (.ok anchor, segment, storage) =>
          match appendAll segment rest storage with
          | (.error cause, segment, storage) => (.error cause, segment, storage)
          | (.ok anchors, segment, storage) => (.ok (anchor :: anchors), segment, storage)

/-- Create a segment and append some payloads to it. Answers the offsets they are
read back from, and the segment. -/
def build (path : Path) (id : SegmentId) (layout : Layout) (payloads : List (List UInt8))
    (storage : Storage) : Except Failure (List Nat × Segment) × Storage :=
  match create path id layout storage with
  | (.error cause, storage) => (.error cause, storage)
  | (.ok segment, storage) =>
      match segment.appendAll payloads storage with
      | (.error cause, _, storage) => (.error cause, storage)
      | (.ok anchors, segment, storage) => (.ok (anchors, segment), storage)

/-- Create a segment, append some payloads to it and close it. Answers the
offsets they are read back from, and the size of the segment. -/
def fill (path : Path) (id : SegmentId) (layout : Layout) (payloads : List (List UInt8))
    (storage : Storage) : Except Failure (List Nat × Nat) × Storage :=
  match create path id layout storage with
  | (.error cause, storage) => (.error cause, storage)
  | (.ok segment, storage) =>
      match segment.appendAll payloads storage with
      | (.error cause, segment, storage) => (.error cause, (segment.close storage).2.2)
      | (.ok anchors, segment, storage) =>
          (.ok (anchors, segment.size), (segment.close storage).2.2)

/-- Change the file at a path, open it as a segment and recover that. -/
def repair (path : Path) (id : SegmentId) (layout : Layout)
    (change : Content → Except StorageError Content) (storage : Storage) :
    Except Failure (Report × Segment) × Storage :=
  match storage.changeFile path change with
  | (.error cause, storage) => (.error (.storage cause), storage)
  | (.ok (), storage) =>
      match openExisting path id layout storage with
      | (.error cause, storage) => (.error cause, storage)
      | (.ok segment, storage) =>
          match segment.recover storage with
          | (.error cause, _, storage) => (.error cause, storage)
          | (.ok report, segment, storage) => (.ok (report, segment), storage)

end Segment

/-- The records of some payloads by the offsets they are read back from. -/
def recordsAt (anchors : List Nat) (payloads : List (List UInt8)) : List Record :=
  List.zipWith Record.mk anchors payloads

variable {layout : Layout} {path : Path} {id : SegmentId} {storage after : Storage}
  {file : LogFile} {segment : Segment} {bytes : List UInt8} {payloads : List (List UInt8)}

/-! ## Files by their paths -/

theorem Storage.findFile_congr (entries_eq : after.entries = storage.entries) (path : Path) :
    after.findFile path = storage.findFile path := by
  simp only [Storage.findFile, Storage.find, Storage.resolve, Storage.walk_congr entries_eq,
    Storage.entryAt_congr entries_eq]

/-- A file that was created is found again. -/
theorem Storage.findFile_createFile {handle : Handle}
    (created : storage.createFile path = (.ok handle, after)) :
    after.findFile path = .ok storage.nodes.size ∧ storage.Creates after handle := by
  rcases storage.createFile_cases path with ⟨cause, failed⟩ |
    ⟨place, resolved, noDots, noSlash, vacant, succeeded⟩
  · rw [failed] at created
    cases created
  rw [succeeded] at created
  cases created
  refine ⟨?_, storage.creates_addFile place⟩
  rw [Storage.findFile_congr ((storage.addFile place).keeps_openNode _).entries_eq]
  have found : (storage.addFile place).entryAt place = some (.regular storage.nodes.size) := by
    rw [Storage.entryAt] at vacant
    simp [Storage.entryAt, Storage.addFile, Storage.addEntry, List.lookup_append, vacant]
  have plain : path.namesDirectory = false := by
    simp [Path.namesDirectory, noSlash, noDots]
  exact Storage.findFile_eq_ok_iff.mpr
    ⟨place, true, Storage.resolve_addFile resolved, found, plain⟩

/-- A file that has a name keeps it when another one is created. -/
theorem Storage.findFile_addFile {node : Nat} (found : storage.findFile path = .ok node)
    (place : Place) : (storage.addFile place).findFile path = .ok node := by
  obtain ⟨target, isRegular, resolved, stands, plain⟩ := Storage.findFile_eq_ok_iff.mp found
  exact Storage.findFile_eq_ok_iff.mpr
    ⟨target, isRegular, Storage.resolve_addFile resolved, Storage.entryAt_addEntry stands, plain⟩

/-- A changed file has the changed bytes. -/
theorem Storage.changeFile_eq {node : Nat} (found : storage.findFile path = .ok node)
    (inRange : node < storage.nodes.size) {change : Content → Except StorageError Content}
    {changed : Content} (change_eq : change (storage.nodeBytes node) = .ok changed) :
    ∃ after, storage.changeFile path change = (.ok (), after) ∧
      storage.Rewrites after node changed ∧ after.toRefusals = storage.toRefusals := by
  refine ⟨storage.modifyBytes node fun _ => changed, ?_, ⟨rfl, ?_, ?_, ?_, ?_⟩, rfl⟩
  · simp only [Storage.changeFile, found, change_eq]
  · simp [Storage.modifyBytes, Storage.modifyNode]
  · rw [Storage.modifyBytes, Storage.nodeBytes_modifyNode inRange]
  · intro other ne
    rw [Storage.modifyBytes, Storage.nodeBytes_modifyNode_of_ne ne]
  · exact fun found => found

/-! ## Appending -/

theorem Segment.toRefusals_append (segment : Segment) (payload : List UInt8)
    (storage : Storage) :
    (segment.append payload storage).2.2.toRefusals = storage.toRefusals := by
  have kept := storage.toRefusals_write segment.handle segment.size
    (segment.layout.frame segment.size payload).bytes
  unfold Segment.append
  split
  · rfl
  simp only
  split <;>
    · rename_i written
      rw [written] at kept
      exact kept

/-- A segment is open for appending to a file of some bytes. -/
structure Fills (layout : Layout) (storage : Storage) (file : LogFile) (segment : Segment)
    (bytes : List UInt8) : Prop extends Serves layout storage file segment where
  inRange : file.node < storage.nodes.size
  poisoned_eq : segment.poisoned = false
  bytes_eq : (storage.nodeBytes file.node).toList = bytes
  size_eq : segment.size = bytes.length

namespace Fills

/-- What a segment sees of its file. -/
theorem image_eq (fills : Fills layout storage file segment bytes) :
    segment.image storage = .ofBytes layout bytes := by
  rw [fills.toServes.image_eq_ofBytes, fills.bytes_eq]
  rw [fills.size_eq, ← fills.bytes_eq, Array.length_toList]

/-- An append extends the file by the frame of the payload, unless the storage
is limited. -/
theorem append (fills : Fills layout storage file segment bytes) (payload : List UInt8) :
    (∃ segment' after, segment.append payload storage =
        (.ok (layout.align bytes.length), segment', after) ∧
      after.entries = storage.entries ∧ after.toRefusals = storage.toRefusals ∧
        Fills layout after file segment' (bytes ++ (layout.frame bytes.length payload).bytes)) ∨
      storage.growthLimit ≠ none ∧ ∃ cause, (segment.append payload storage).1 = .error cause := by
  have complete : (storage.nodeBytes file.node).size = segment.size := by
    rw [fills.size_eq, ← fills.bytes_eq, Array.length_toList]
  have refusals_eq := segment.toRefusals_append payload storage
  obtain ⟨after, content, rewrites, outcome⟩ :=
    fills.toServes.append_cases fills.inRange fills.poisoned_eq complete payload
  rcases outcome with ⟨content_eq, appended⟩ | ⟨_, cause, limited, _, appended⟩
  · left
    have serves := fills.toServes.rewrites rewrites
    rw [appended] at refusals_eq
    rw [fills.size_eq] at appended content_eq
    rw [fills.bytes_eq] at content_eq
    refine ⟨_, after, appended, rewrites.entries_eq, refusals_eq,
      ⟨serves.id_eq, serves.layout_eq, serves.isOpen, serves.nodeOf?_eq⟩, ?_, fills.poisoned_eq,
      ?_, ?_⟩
    · rw [rewrites.size_eq]
      exact fills.inRange
    · rw [rewrites.bytes_eq, content_eq]
    · rw [List.length_append, layout.length_frame_bytes]
  · exact .inr ⟨limited, cause, by rw [appended]⟩

/-- Appended payloads extend the file by their frames. -/
theorem appendAll (fills : Fills layout storage file segment bytes) {anchors : List Nat}
    {final : Segment}
    (appended : segment.appendAll payloads storage = (.ok anchors, final, after)) :
    Fills layout after file final (bytes ++ layout.writtenBytes bytes.length payloads) ∧
      recordsAt anchors payloads = layout.writtenRecords bytes.length payloads ∧
        after.entries = storage.entries ∧ after.toRefusals = storage.toRefusals := by
  induction payloads generalizing bytes segment storage anchors with
  | nil =>
      cases appended
      rw [Layout.writtenBytes_nil, List.append_nil]
      exact ⟨fills, rfl, rfl, rfl⟩
  | cons payload rest ih =>
      have length_eq := layout.length_frame_bytes bytes.length payload
      rw [Segment.appendAll] at appended
      rcases fills.append payload with ⟨middle, between, first, entries_eq, refusals_eq, filled⟩ |
        ⟨_, cause, failed⟩
      · simp only [first] at appended
        split at appended
        · cases appended
        · rename_i later segment' storage' others
          cases appended
          obtain ⟨filledAll, records_eq, entriesAll, refusalsAll⟩ := ih filled others
          rw [List.length_append, length_eq] at filledAll records_eq
          rw [List.append_assoc] at filledAll
          rw [Layout.writtenBytes_cons, Layout.writtenRecords_cons, ← records_eq]
          exact ⟨filledAll, rfl, entriesAll.trans entries_eq, refusalsAll.trans refusals_eq⟩
      · split at appended
        · cases appended
        · rename_i succeeded
          rw [succeeded] at failed
          cases failed

/-- Where the storage is not limited, payloads can be appended. -/
theorem exists_appendAll (fills : Fills layout storage file segment bytes)
    (unlimited : storage.growthLimit = none) (payloads : List (List UInt8)) :
    ∃ anchors final after, segment.appendAll payloads storage = (.ok anchors, final, after) := by
  induction payloads generalizing bytes segment storage with
  | nil => exact ⟨[], segment, storage, rfl⟩
  | cons payload rest ih =>
      rcases fills.append payload with ⟨middle, between, first, _, refusals_eq, filled⟩ |
        ⟨limited, _⟩
      · obtain ⟨anchors, final, after, others⟩ := ih filled (by rw [refusals_eq, unlimited])
        refine ⟨layout.align bytes.length :: anchors, final, after, ?_⟩
        simp only [Segment.appendAll, first, others]
      · exact absurd unlimited limited

end Fills

/-- A segment that was built is open on a file with the frames of its
payloads. -/
theorem Segment.build_eq_ok {anchors : List Nat}
    (built : Segment.build path id layout payloads storage = (.ok (anchors, segment), after)) :
    ∃ node, after.findFile path = .ok node ∧
      Fills layout after ⟨id, node, []⟩ segment (layout.writtenBytes 0 payloads) ∧
        recordsAt anchors payloads = layout.writtenRecords 0 payloads ∧
          after.toRefusals = storage.toRefusals := by
  unfold Segment.build at built
  split at built
  · cases built
  rename_i fresh begun created
  obtain ⟨handle, made, rfl⟩ := Segment.create_eq_ok created
  obtain ⟨found, creates⟩ := Storage.findFile_createFile made
  have empty : Fills layout begun ⟨id, storage.nodes.size, []⟩
      (Segment.ofHandle path id layout handle 0) [] := by
    refine ⟨⟨rfl, rfl, rfl, creates.nodeOf?_new⟩, ?_, rfl, ?_, rfl⟩
    · rw [creates.size_eq]
      exact Nat.lt_succ_self _
    · rw [creates.bytes_new]
  split at built
  · cases built
  · rename_i answers final between appended
    cases built
    obtain ⟨fills, records_eq, entries_eq, refusals_eq⟩ := empty.appendAll appended
    refine ⟨storage.nodes.size, ?_, fills, records_eq, refusals_eq.trans creates.toRefusals_eq⟩
    rw [Storage.findFile_congr entries_eq, found]

/-- A segment is filled by building and closing it. -/
theorem Segment.exists_build_of_fill {anchors : List Nat} {size : Nat}
    (filled : Segment.fill path id layout payloads storage = (.ok (anchors, size), after)) :
    ∃ segment written, Segment.build path id layout payloads storage =
        (.ok (anchors, segment), written) ∧
      size = segment.size ∧ after = (segment.close written).2.2 := by
  unfold Segment.fill at filled
  unfold Segment.build
  cases created : Segment.create path id layout storage with
  | mk answer begun =>
      cases answer with
      | error cause =>
          simp only [created] at filled
          cases filled
      | ok fresh =>
          simp only [created] at filled ⊢
          split at filled
          · cases filled
          · rename_i final between _
            cases filled
            exact ⟨final, between, rfl, rfl, rfl⟩

/-- The file of a filled segment holds the frames of its payloads. -/
theorem Segment.fill_eq_ok {anchors : List Nat} {size : Nat}
    (filled : Segment.fill path id layout payloads storage = (.ok (anchors, size), after)) :
    ∃ node, after.findFile path = .ok node ∧ node < after.nodes.size ∧
      (after.nodeBytes node).toList = layout.writtenBytes 0 payloads ∧
        size = layout.writtenStop 0 payloads ∧
          recordsAt anchors payloads = layout.writtenRecords 0 payloads ∧
            after.toRefusals = storage.toRefusals := by
  obtain ⟨segment, written, built, rfl, rfl⟩ := Segment.exists_build_of_fill filled
  obtain ⟨node, found, fills, records_eq, refusals_eq⟩ := Segment.build_eq_ok built
  have keeps := segment.keeps_close written
  refine ⟨node, ?_, ?_, ?_, ?_, records_eq, (segment.toRefusals_close written).trans refusals_eq⟩
  · rw [Storage.findFile_congr keeps.entries_eq, found]
  · rw [keeps.size_eq]
    exact fills.inRange
  · rw [keeps.bytes_eq]
    exact fills.bytes_eq
  · have length_eq := layout.length_writtenBytes 0 payloads
    rw [fills.size_eq]
    omega

/-! ## Repairing -/

/-- A changed file is opened and recovered; what a survey of it passes is
kept. -/
theorem Segment.repair_eq_ok (id : SegmentId) (change : Content → Except StorageError Content)
    (recovers : storage.Recovers) {node : Nat} (found : storage.findFile path = .ok node)
    (inRange : node < storage.nodes.size) {changed : Content}
    (change_eq : change (storage.nodeBytes node) = .ok changed) {last : Nat}
    {regions ending : List Region}
    (way : Image.Passes (.ofBytes layout changed.toList) 0 last regions)
    (ends : Image.Ends (.ofBytes layout changed.toList) last ending) :
    ∃ segment after, Segment.repair path id layout change storage =
        (.ok (.ofRegions changed.size (regions ++ ending), segment), after) ∧
      Fills layout after ⟨id, node, []⟩ segment (changed.toList.take last) := by
  obtain ⟨middle, changeFile_eq, rewrites, refusals_eq⟩ :=
    Storage.changeFile_eq found inRange change_eq
  have foundAgain : middle.findFile path = .ok node := by
    rw [Storage.findFile_congr rewrites.entries_eq, found]
  obtain ⟨opened, between, openExisting_eq, keeps, refusalsAgain, opens⟩ :=
    Segment.exists_openExisting (by rw [refusals_eq]; exact recovers.duplicates) id layout
      foundAgain []
  have bytes_eq : between.nodeBytes node = changed := by
    rw [keeps.bytes_eq, rewrites.bytes_eq]
  have inRangeAgain : node < between.nodes.size := by
    rw [keeps.size_eq, rewrites.size_eq]
    exact inRange
  rw [← bytes_eq] at way ends
  obtain ⟨segment, after, bytes, rewritten, outcome⟩ := opens.recover_cases inRangeAgain way ends
  rcases outcome with ⟨cause, _, untruncated, _⟩ |
    ⟨content_eq, serves, unpoisoned, size_eq, recovered⟩
  · rw [refusalsAgain, refusals_eq] at untruncated
    exact absurd recovers.toTruncates untruncated
  refine ⟨segment, after, ?_, serves, ?_, unpoisoned, ?_, ?_⟩
  · simp only [Segment.repair, changeFile_eq, openExisting_eq, recovered]
    rw [opens.size_eq, bytes_eq]
  · rw [rewritten.size_eq]
    exact inRangeAgain
  · rw [rewritten.bytes_eq, content_eq, bytes_eq]
  · rw [size_eq, ← Array.length_toList, content_eq, bytes_eq]

/-- Blocks of 32 bytes. -/
def Segment.smallLayout : Layout := ⟨32, by decide, by decide⟩

end RecordLog
