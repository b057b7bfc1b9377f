import Mathlib.Data.List.Forall2
import RecordLog.Proofs.Formed
import RecordLog.Proofs.Passage

/-!
# Segments on files

An open segment serves the file behind its handle. What it reads is what stands
in the file up to its size, and what it appends extends the bytes of the file:
by a whole frame, or by a beginning of one after which the segment is poisoned.
Recovering a segment cuts its file where a survey ends.
-/

namespace RecordLog

/-- A segment is open on a file. -/
structure Serves (layout : Layout) (storage : Storage) (file : LogFile) (segment : Segment) :
    Prop where
  id_eq : segment.id = file.id
  layout_eq : segment.layout = layout
  isOpen : segment.closed = false
  nodeOf?_eq : storage.nodeOf? segment.handle = some file.node

/-- A segment was just opened on a file. -/
structure Opens (layout : Layout) (storage : Storage) (file : LogFile) (segment : Segment) : Prop
    extends Serves layout storage file segment where
  poisoned_eq : segment.poisoned = false
  size_eq : segment.size = (storage.nodeBytes file.node).size

variable {layout : Layout} {storage after : Storage} {file : LogFile} {segment : Segment}

theorem Serves.keeps (serves : Serves layout storage file segment) (keeps : storage.Keeps after) :
    Serves layout after file segment :=
  ⟨serves.id_eq, serves.layout_eq, serves.isOpen, keeps.nodeOf?_eq serves.nodeOf?_eq⟩

theorem Serves.rewrites (serves : Serves layout storage file segment) {node : Nat} {bytes : Content}
    (rewrites : storage.Rewrites after node bytes) : Serves layout after file segment :=
  ⟨serves.id_eq, serves.layout_eq, serves.isOpen, rewrites.nodeOf?_eq serves.nodeOf?_eq⟩

theorem Serves.creates (serves : Serves layout storage file segment) {handle : Handle}
    (creates : storage.Creates after handle) : Serves layout after file segment :=
  ⟨serves.id_eq, serves.layout_eq, serves.isOpen, creates.nodeOf?_eq serves.nodeOf?_eq⟩

/-- Records do not matter to a segment. -/
theorem Serves.relabel (serves : Serves layout storage file segment) (records : List Record) :
    Serves layout storage { file with records } segment :=
  ⟨serves.id_eq, serves.layout_eq, serves.isOpen, serves.nodeOf?_eq⟩

theorem Opens.keeps (opens : Opens layout storage file segment) (keeps : storage.Keeps after) :
    Opens layout after file segment :=
  ⟨opens.toServes.keeps keeps, opens.poisoned_eq, by rw [keeps.bytes_eq, opens.size_eq]⟩

/-! ## Reading -/

/-- What a segment sees of its file. -/
theorem Serves.image_eq (serves : Serves layout storage file segment) :
    segment.image storage =
      { layout
        size := segment.size
        bytes := storage.nodeBytes file.node
        shortage := .storage .unexpectedEnd
        isOpen := true } := by
  rw [Segment.image_eq serves.isOpen, serves.layout_eq,
    Storage.content_eq_nodeBytes serves.nodeOf?_eq]

/-- A segment reads what stands in its file up to its size. -/
theorem Serves.grows (serves : Serves layout storage file segment)
    (inFile : segment.size ≤ (storage.nodeBytes file.node).size) :
    Image.Grows (.ofBytes layout ((storage.nodeBytes file.node).toList.take segment.size))
      (segment.image storage) where
  layout_eq := serves.layout_eq
  isOpen_eq := by
    rw [serves.image_eq]
    rfl
  whole := Image.whole_ofBytes _ _
  grownWhole := by
    rw [serves.image_eq]
    exact inFile
  begins := by
    rw [serves.image_eq, Image.stored_ofBytes]
    exact List.prefix_refl _

/-- A segment that knows the length of its file sees all of it. -/
theorem Serves.image_eq_ofBytes (serves : Serves layout storage file segment)
    (complete : segment.size = (storage.nodeBytes file.node).size) :
    segment.image storage = .ofBytes layout (storage.nodeBytes file.node).toList := by
  rw [serves.image_eq, complete]
  rfl

/-! ## Appending -/

/-- An append extends the file by the frame of the payload, or by a beginning
of it. -/
theorem Serves.append_cases (serves : Serves layout storage file segment)
    (inRange : file.node < storage.nodes.size) (unpoisoned : segment.poisoned = false)
    (complete : (storage.nodeBytes file.node).size = segment.size) (payload : List UInt8) :
    ∃ after bytes, storage.Rewrites after file.node bytes ∧
      (bytes.toList = (storage.nodeBytes file.node).toList ++
          (layout.frame segment.size payload).bytes ∧
        segment.append payload storage =
          (.ok (layout.align segment.size),
            { segment with size := (layout.frame segment.size payload).stop }, after) ∨
      ∃ part cause, storage.growthLimit ≠ none ∧
        bytes.toList = (storage.nodeBytes file.node).toList ++ part ∧
          segment.append payload storage =
            (.error cause, { segment with poisoned := true }, after)) := by
  have usable : segment.usageFault = none := by
    simp [Segment.usageFault, serves.isOpen, unpoisoned]
  have rewrites := Storage.rewrites_write serves.nodeOf?_eq inRange segment.size
    (layout.frame segment.size payload).bytes
  have outcome := storage.write_fst segment.handle segment.size
    (layout.frame segment.size payload).bytes
  generalize written : storage.write segment.handle segment.size
    (layout.frame segment.size payload).bytes = result at rewrites outcome
  obtain ⟨answer, after⟩ := result
  simp only at rewrites outcome
  refine ⟨after, _, rewrites, ?_⟩
  rw [← complete, Content.toList_overwrite_size, complete]
  by_cases short : storage.admitted segment.size (layout.frame segment.size payload).bytes.length <
      (layout.frame segment.size payload).bytes.length
  · rw [if_pos short] at outcome
    refine .inr ⟨_, .storage .fileTooLarge, ?_, rfl, ?_⟩
    · intro unlimited
      rw [Storage.admitted, unlimited] at short
      exact Nat.lt_irrefl _ short
    · simp only [Segment.append, usable, serves.layout_eq, written, outcome]
  · rw [if_neg short] at outcome
    refine .inl ⟨by rw [List.take_of_length_le (by omega)], ?_⟩
    simp only [Segment.append, usable, serves.layout_eq, written, outcome, Layout.frame_start]

/-! ## Syncing and closing -/

theorem Segment.keeps_sync (segment : Segment) (storage : Storage) :
    storage.Keeps (segment.sync storage).2 := by
  rw [segment.sync_eq]
  split
  · exact .refl storage
  · exact storage.keeps_sync segment.handle

theorem Segment.toRefusals_sync (segment : Segment) (storage : Storage) :
    (segment.sync storage).2.toRefusals = storage.toRefusals := by
  rw [segment.sync_eq]
  split
  · rfl
  · exact storage.toRefusals_sync segment.handle

theorem Segment.keeps_close (segment : Segment) (storage : Storage) :
    storage.Keeps (segment.close storage).2.2 := by
  rw [segment.close_eq]
  split
  · exact .refl storage
  · exact (storage.keeps_sync segment.handle).trans (Storage.keeps_release _ _)

theorem Segment.toRefusals_close (segment : Segment) (storage : Storage) :
    (segment.close storage).2.2.toRefusals = storage.toRefusals := by
  rw [segment.close_eq]
  split
  · rfl
  · exact storage.toRefusals_sync segment.handle

theorem Table.keeps_closeAll (table : Table) (storage : Storage) :
    storage.Keeps (table.closeAll storage).2.2 := by
  induction table generalizing storage with
  | nil => exact .refl storage
  | cons entry rest ih => exact (entry.2.keeps_close storage).trans (ih _)

theorem Table.toRefusals_closeAll (table : Table) (storage : Storage) :
    (table.closeAll storage).2.2.toRefusals = storage.toRefusals := by
  induction table generalizing storage with
  | nil => rfl
  | cons entry rest ih => exact (ih _).trans (entry.2.toRefusals_close storage)

/-! ## Creating and opening -/

/-- The next segment of a log is created, or its file alone, or nothing. -/
theorem Catalog.create_cases {config : Config} {place : Place} {files : List LogFile}
    (catalog : Catalog config.directory config.fileExtension storage place files)
    (layout : Layout) :
    (∃ cause, Segment.create (config.segmentPath ⟨files.length + 1⟩) ⟨files.length + 1⟩ layout
        storage = (.error cause, storage) ∧
          ∀ handle after, storage.createFile (config.segmentPath ⟨files.length + 1⟩) ≠
            (.ok handle, after)) ∨
      ∃ handle after, storage.Creates after handle ∧
        Catalog config.directory config.fileExtension after place
          (files ++ [⟨⟨files.length + 1⟩, storage.nodes.size, []⟩]) ∧
          ((∃ cause, Segment.create (config.segmentPath ⟨files.length + 1⟩) ⟨files.length + 1⟩
              layout storage = (.error cause, after) ∧ storage.duplicationFault handle ≠ none) ∨
            Segment.create (config.segmentPath ⟨files.length + 1⟩) ⟨files.length + 1⟩ layout
              storage = (.ok (.ofHandle (config.segmentPath ⟨files.length + 1⟩)
                ⟨files.length + 1⟩ layout handle 0), after)) := by
  rcases catalog.createFile_cases with ⟨cause, failed⟩ |
    ⟨handle, after, created, creates, catalogAfter⟩
  · exact .inl ⟨.storage cause, by simp only [Segment.create, failed], by simp [failed]⟩
  · rcases Segment.attach_eq (config.segmentPath ⟨files.length + 1⟩) ⟨files.length + 1⟩ layout
      handle 0 after with ⟨cause, refused, fault⟩ | attached
    · refine .inr ⟨handle, after.release handle, creates.release,
        catalogAfter.keeps (after.keeps_release handle), .inl ⟨.storage cause, ?_, ?_⟩⟩
      · simp only [Segment.create, created, refused]
      · rwa [creates.toRefusals_eq] at fault
    · refine .inr ⟨handle, after, creates, catalogAfter, .inr ?_⟩
      simp only [Segment.create, created, attached]

/-- Opening an existing file gives a segment on it, unless its handle cannot be
duplicated. -/
theorem Segment.openExisting_cases {path : Path} (id : SegmentId) (layout : Layout) {node : Nat}
    (found : storage.findFile path = .ok node) (records : List Record) :
    ∃ after, storage.Keeps after ∧ after.toRefusals = storage.toRefusals ∧
      ((∃ cause, Segment.openExisting path id layout storage = (.error cause, after) ∧
          ¬storage.Duplicates) ∨
        ∃ segment, Segment.openExisting path id layout storage = (.ok segment, after) ∧
          Opens layout after ⟨id, node, records⟩ segment) := by
  have keeps := storage.keeps_openNode node
  have opened := storage.nodeOf?_openNode node
  have outcome : Segment.openExisting path id layout storage =
      Segment.attach path id layout (storage.openNode node).1
        ((storage.openNode node).2.content (storage.openNode node).1).size
        (storage.openNode node).2 := by
    rw [Segment.openExisting, Storage.openFile, found]
  rw [outcome]
  rcases Segment.attach_eq path id layout (storage.openNode node).1
    ((storage.openNode node).2.content (storage.openNode node).1).size
    (storage.openNode node).2 with ⟨cause, refused, fault⟩ | attached
  · refine ⟨_, keeps.trans (Storage.keeps_release _ _), rfl, .inl ⟨.storage cause, refused, ?_⟩⟩
    exact fun duplicates => fault (duplicates _)
  · refine ⟨_, keeps, rfl, .inr ⟨_, attached, ⟨rfl, rfl, rfl, opened⟩, rfl, ?_⟩⟩
    exact congrArg Array.size (Storage.content_eq_nodeBytes opened)

/-- Where handles can be duplicated, an existing file can be opened. -/
theorem Segment.exists_openExisting (duplicates : storage.Duplicates) {path : Path}
    (id : SegmentId) (layout : Layout) {node : Nat} (found : storage.findFile path = .ok node)
    (records : List Record) :
    ∃ segment after, Segment.openExisting path id layout storage = (.ok segment, after) ∧
      storage.Keeps after ∧ after.toRefusals = storage.toRefusals ∧
        Opens layout after ⟨id, node, records⟩ segment := by
  obtain ⟨after, keeps, refusals_eq, ⟨_, _, unduplicated⟩ | ⟨segment, opened, opens⟩⟩ :=
    Segment.openExisting_cases id layout found records
  · exact absurd duplicates unduplicated
  · exact ⟨segment, after, opened, keeps, refusals_eq, opens⟩

/-- All files of a catalog can be opened where their handles can be
duplicated. -/
theorem Segment.openAll_cases {config : Config} {place : Place} {files : List LogFile}
    (layout : Layout) (catalog : Catalog config.directory config.fileExtension storage place files)
    {part : List LogFile} (included : part ⊆ files) :
    ∃ after, storage.Keeps after ∧ after.toRefusals = storage.toRefusals ∧
      ((∃ cause, Segment.openAll config layout (part.map LogFile.id) storage =
          (.error cause, after) ∧ ¬storage.Duplicates) ∨
        ∃ segments, Segment.openAll config layout (part.map LogFile.id) storage =
            (.ok segments, after) ∧ List.Forall₂ (Opens layout after) part segments) := by
  induction part generalizing storage with
  | nil => exact ⟨storage, .refl storage, rfl, .inr ⟨[], rfl, .nil⟩⟩
  | cons file rest ih =>
      obtain ⟨middle, keepsFirst, refusalsFirst, opening⟩ :=
        Segment.openExisting_cases file.id layout
          (catalog.findFile_eq (included List.mem_cons_self)) file.records
      rw [List.map_cons, Segment.openAll]
      rcases opening with ⟨cause, failed, unduplicated⟩ | ⟨segment, opened, opens⟩
      · refine ⟨middle, keepsFirst, refusalsFirst, .inl ⟨cause, ?_, unduplicated⟩⟩
        simp only [failed]
      obtain ⟨after, keepsRest, refusalsRest, openingRest⟩ :=
        ih (catalog.keeps keepsFirst) fun _ member => included (List.mem_cons_of_mem file member)
      rcases openingRest with ⟨cause, failed, unduplicated⟩ | ⟨segments, openedRest, opensRest⟩
      · refine ⟨(segment.close after).2.2, (keepsFirst.trans keepsRest).trans (keeps_close _ _),
          ?_, .inl ⟨cause, ?_, ?_⟩⟩
        · rw [toRefusals_close, refusalsRest, refusalsFirst]
        · simp only [opened, failed]
        · rwa [← refusalsFirst]
      · refine ⟨after, keepsFirst.trans keepsRest, refusalsRest.trans refusalsFirst,
          .inr ⟨segment :: segments, ?_, .cons (opens.keeps keepsRest) opensRest⟩⟩
        simp only [opened, openedRest]

/-! ## Recovering -/

section Recovering

variable {last : Nat} {regions ending : List Region}

/-- A segment that is open and knows the length of its file sees all of it. -/
theorem Segment.image_eq_ofBytes (isOpen : segment.closed = false)
    (complete : (storage.content segment.handle).size = segment.size) :
    segment.image storage = .ofBytes segment.layout (storage.content segment.handle).toList := by
  rw [Segment.image_eq isOpen, ← complete]
  rfl

/-- Checking a segment reports on a survey of its file. -/
theorem Segment.verify_of_passes (isOpen : segment.closed = false)
    (complete : (storage.content segment.handle).size = segment.size)
    (way : Image.Passes (.ofBytes segment.layout (storage.content segment.handle).toList) 0 last
      regions)
    (ends : Image.Ends (.ofBytes segment.layout (storage.content segment.handle).toList) last
      ending) :
    segment.verify storage = .ok (.ofRegions segment.size (regions ++ ending)) := by
  rw [Segment.verify, Segment.image_eq_ofBytes isOpen complete,
    Image.report_of_passes (Image.whole_ofBytes _ _) rfl way ends, Image.size_ofBytes,
    Array.length_toList, complete]

/-- Recovering a segment cuts its file where a survey ends, if that is before
its end. -/
theorem Segment.recover_eq (usable : segment.isUsable = true)
    (complete : (storage.content segment.handle).size = segment.size)
    (way : Image.Passes (.ofBytes segment.layout (storage.content segment.handle).toList) 0 last
      regions)
    (ends : Image.Ends (.ofBytes segment.layout (storage.content segment.handle).toList) last
      ending) :
    segment.recover storage =
      if last < segment.size then
        match storage.truncate segment.handle last with
        | (.error cause, after) => (.error (.storage cause), segment, after)
        | (.ok (), after) =>
            (.ok (.ofRegions segment.size (regions ++ ending)), { segment with size := last }, after)
      else (.ok (.ofRegions segment.size (regions ++ ending)), segment, storage) := by
  obtain ⟨sound, isOpen⟩ : segment.poisoned = false ∧ segment.closed = false := by
    simpa [Segment.isUsable] using usable
  have unhindered : segment.usageFault = none := by
    simp [Segment.usageFault, sound, isOpen]
  have valid := Image.validLength_ofRegions way ends segment.size
  have truncated_eq : (Report.ofRegions segment.size (regions ++ ending)).truncated =
      decide (last < segment.size) := by
    rw [← valid]
    rfl
  rw [Segment.recover, Segment.verify_of_passes isOpen complete way ends]
  simp only [truncated_eq, decide_eq_true_eq, Segment.truncate, unhindered, valid]
  split
  · cases storage.truncate segment.handle last with
    | mk answer after => cases answer <;> rfl
  · rfl

/-- Where lengths can be set, a segment is recovered. -/
theorem Segment.recover_of_passes (truncates : storage.Truncates)
    (usable : segment.isUsable = true)
    (complete : (storage.content segment.handle).size = segment.size)
    (way : Image.Passes (.ofBytes segment.layout (storage.content segment.handle).toList) 0 last
      regions)
    (ends : Image.Ends (.ofBytes segment.layout (storage.content segment.handle).toList) last
      ending) :
    segment.recover storage =
      (.ok (.ofRegions segment.size (regions ++ ending)),
        if last < segment.size then
          ({ segment with size := last }, (storage.truncate segment.handle last).2)
        else (segment, storage)) := by
  rw [Segment.recover_eq usable complete way ends]
  split
  · have succeeds := Storage.truncate_of_truncates truncates segment.handle last
    generalize storage.truncate segment.handle last = outcome at succeeds
    obtain ⟨answer, after⟩ := outcome
    cases succeeds
    rfl
  · rfl

/-- Recovering a segment cuts its file where a survey of it ends, or fails where
lengths cannot be set or synced. Then the file may be cut all the same. -/
theorem Opens.recover_cases (opens : Opens layout storage file segment)
    (inRange : file.node < storage.nodes.size)
    (way : Image.Passes (.ofBytes layout (storage.nodeBytes file.node).toList) 0 last regions)
    (ends : Image.Ends (.ofBytes layout (storage.nodeBytes file.node).toList) last ending) :
    ∃ recovered after bytes, storage.Rewrites after file.node bytes ∧
      ((∃ cause, segment.recover storage = (.error cause, recovered, after) ∧
          ¬storage.Truncates ∧ (bytes = storage.nodeBytes file.node ∨
            bytes.toList = (storage.nodeBytes file.node).toList.take last)) ∨
        bytes.toList = (storage.nodeBytes file.node).toList.take last ∧
          Serves layout after file recovered ∧ recovered.poisoned = false ∧
            recovered.size = bytes.size ∧
              segment.recover storage =
                (.ok (.ofRegions segment.size (regions ++ ending)), recovered, after)) := by
  have usable : segment.isUsable = true := by
    simp [Segment.isUsable, opens.isOpen, opens.poisoned_eq]
  have size_eq := opens.size_eq
  have content_eq := Storage.content_eq_nodeBytes opens.nodeOf?_eq
  rw [← content_eq, ← opens.layout_eq] at way ends
  have done := Segment.recover_eq usable (by rw [content_eq, size_eq]) way ends
  by_cases torn : last < segment.size
  · rw [if_pos torn] at done
    have cut : ((storage.nodeBytes file.node).resize last).toList =
        (storage.nodeBytes file.node).toList.take last :=
      Content.toList_resize (by omega)
    rcases Storage.truncate_cases opens.nodeOf?_eq inRange last with
      ⟨cause, refused, fault⟩ | ⟨answer, after, truncated, rewrites, healthy⟩
    · rw [refused] at done
      exact ⟨segment, storage, _, (Storage.Keeps.refl storage).rewrites file.node,
        .inl ⟨_, done, fun truncates => fault truncates.resizes, .inl rfl⟩⟩
    rw [truncated] at done
    cases answer with
    | error cause =>
        refine ⟨segment, after, _, rewrites, .inl ⟨_, done, fun truncates => ?_, .inr cut⟩⟩
        cases healthy truncates.flushes
    | ok =>
        refine ⟨{ segment with size := last }, after, _, rewrites, .inr ⟨cut,
          ⟨opens.id_eq, opens.layout_eq, opens.isOpen, rewrites.nodeOf?_eq opens.nodeOf?_eq⟩,
          opens.poisoned_eq, ?_, done⟩⟩
        rw [← Array.length_toList, cut, List.length_take, Array.length_toList]
        simp only
        omega
  · rw [if_neg torn] at done
    refine ⟨segment, storage, _, (Storage.Keeps.refl storage).rewrites file.node, .inr ⟨?_,
      opens.toServes, opens.poisoned_eq, size_eq, done⟩⟩
    rw [List.take_of_length_le (by rw [Array.length_toList]; omega)]

end Recovering

end RecordLog
