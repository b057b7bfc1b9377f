import RecordLog.Proofs.Coherence
import RecordLog.Proofs.Packing
import RecordLog.Proofs.ScanHistory

/-!
# Files filled by packing

Where the storage refuses nothing, the segment files of a log are the packing of
the payloads that were written: the bytes of each file are the frames of its
payloads, and a write goes to the file that the packing says. An open log knows
the path, the id and the size of every one of its files.
-/

namespace RecordLog

/-! ## Settings that write alike -/

/-- Settings under which a log writes the same bytes: they may differ in when it
syncs and in what it reports. -/
structure Config.Resembles (config other : Config) : Prop where
  directory_eq : config.directory = other.directory
  extension_eq : config.fileExtension = other.fileExtension
  blockSize_eq : config.blockSize = other.blockSize
  maxSegmentSize_eq : config.maxSegmentSize = other.maxSegmentSize

namespace Config.Resembles

variable {config other : Config}

theorem fault_eq (resembles : config.Resembles other) : config.fault = other.fault := by
  simp only [fault, resembles.directory_eq, resembles.extension_eq, resembles.blockSize_eq,
    resembles.maxSegmentSize_eq]

theorem maxPayloadSize_eq (resembles : config.Resembles other) :
    config.maxPayloadSize = other.maxPayloadSize := by
  rw [maxPayloadSize, resembles.maxSegmentSize_eq, maxPayloadSize]

theorem segmentPath_eq (resembles : config.Resembles other) (id : SegmentId) :
    config.segmentPath id = other.segmentPath id := by
  rw [segmentPath, resembles.directory_eq, resembles.extension_eq, segmentPath]

end Config.Resembles

/-! ## Paths of segments -/

section Paths

variable {config : Config} {layout : Layout} {storage after : Storage} {log : Log}

theorem Segment.path_openAll {ids : List SegmentId} {segments : List Segment}
    (opened : openAll config layout ids storage = (.ok segments, after)) :
    ∀ segment ∈ segments, segment.path = config.segmentPath segment.id := by
  induction ids generalizing storage segments after with
  | nil =>
      cases opened
      simp
  | cons id rest ih =>
      rw [openAll] at opened
      split at opened
      · cases opened
      rename_i first middle openedFirst
      split at opened
      · cases opened
      rename_i others final openedRest
      cases opened
      obtain ⟨_, _, rfl⟩ := openExisting_eq_ok openedFirst
      exact List.forall_mem_cons.mpr ⟨rfl, ih openedRest⟩

namespace Log

/-- Every segment has the path that its id names. -/
def Named (log : Log) : Prop :=
  ∀ segment ∈ log.segments, segment.path = log.config.segmentPath segment.id

theorem Named.withActive (named : log.Named) (formed : log.Formed) (size : Nat) (poisoned : Bool)
    (stats : Stats) :
    Named { log.withActive { log.active with size, poisoned } with stats } := by
  intro segment member
  change segment ∈ (log.withActive { log.active with size, poisoned }).segments at member
  rw [Log.withActive, segments_withSegments, List.mem_append, List.mem_singleton] at member
  rcases member with older | rfl
  · exact named segment (formed.mem_segments.mpr (.inl older))
  · exact named log.active (formed.mem_segments.mpr (.inr rfl))

theorem Named.append (named : log.Named) (formed : log.Formed) (payload : List UInt8)
    (storage : Storage) : (log.append payload storage).2.1.Named := by
  obtain ⟨size, poisoned, stats, log_eq⟩ := log.exists_append_eq payload storage
  rw [log_eq]
  exact named.withActive formed size poisoned stats

theorem Named.rotate (named : log.Named) (formed : log.Formed) (storage : Storage) :
    (log.rotate storage).2.1.Named := by
  rw [formed.rotate_eq]
  rcases Segment.create_cases (log.config.segmentPath log.nextId) log.nextId log.layout storage with
    ⟨cause, failed⟩ | ⟨handle, created, _, _, _, ⟨cause, failed, _⟩ | succeeded⟩
  · rw [failed]
    exact named
  · rw [failed]
    exact named
  · rw [succeeded]
    intro segment member
    have config_eq (synced : Bool) (fresh : Segment) :
        (log.sealing synced fresh).config = log.config := by
      cases synced <;> rfl
    rw [config_eq]
    rw [segments_sealing, ← formed.segments_eq, List.mem_append, List.mem_singleton] at member
    rcases member with older | rfl
    · exact named segment older
    · rfl

theorem Named.write (named : log.Named) (formed : log.Formed) (payload : List UInt8)
    (storage : Storage) : (log.write payload storage).2.1.Named := by
  rw [formed.write_eq]
  split
  · exact named
  split
  · exact named
  rename_i isOpen
  split
  · have rotated := named.rotate formed storage
    have formedAfter := (formed.rotate (eq_false_of_ne_true isOpen) storage).1
    split <;>
      · rename_i outcome
        rw [outcome] at rotated formedAfter
        first
          | exact rotated
          | exact rotated.append formedAfter payload _
  · exact named.append formed payload storage

theorem named_openDirectory (opened : openDirectory config storage = (.ok log, after)) :
    log.Named := by
  obtain ⟨layout, _, _, _, _, _, discovered, found⟩ := openDirectory_eq_ok opened
  obtain ⟨segments, middle, outcome, begun | ⟨sealed, active, report, recovered, rfl, done, rfl⟩⟩ :=
    openFound_eq_ok (Config.ascending_of_discover discovered) found
  · obtain ⟨fresh, created, rfl⟩ := begin_eq_ok begun
    obtain ⟨handle, _, rfl⟩ := Segment.create_eq_ok created
    intro segment member
    rw [segments_ofSegments, List.nil_append, List.mem_singleton] at member
    rw [member]
    rfl
  · obtain ⟨size, recovered_eq⟩ := active.exists_recover_eq middle
    have paths := Segment.path_openAll outcome
    rw [done] at recovered_eq
    cases recovered_eq
    intro segment member
    rw [segments_ofSegments, List.mem_append, List.mem_singleton] at member
    rcases member with older | rfl
    · exact paths segment (List.mem_append_left _ older)
    · exact paths active (by simp)

end Log

end Paths

/-! ## The files of a log -/

/-- The bytes of some segment files by their ids, or the first failure. -/
def Config.readSegments (config : Config) (storage : Storage) :
    List SegmentId → Except Failure (List (SegmentId × List UInt8))
  | [] => .ok []
  | id :: rest =>
      match storage.fileBytes (config.segmentPath id) with
      | .error cause => .error (.storage cause)
      | .ok bytes =>
          match config.readSegments storage rest with
          | .error cause => .error cause
          | .ok later => .ok ((id, bytes.toList) :: later)

/-- The bytes of all segment files in the directory of a log, by their ids. -/
def Config.contents (config : Config) (storage : Storage) :
    Except Failure (List (SegmentId × List UInt8)) :=
  match config.discover storage with
  | .error cause => .error cause
  | .ok ids => config.readSegments storage ids

section Files

variable {layout : Layout} {config settings : Config} {place : Place} {storage : Storage}
  {files front : List LogFile} {newest : LogFile} {log : Log}

theorem Catalog.fileBytes_eq
    (catalog : Catalog config.directory config.fileExtension storage place files)
    {file : LogFile} (member : file ∈ files) :
    storage.fileBytes (config.segmentPath file.id) = .ok (storage.nodeBytes file.node) := by
  simp only [Storage.fileBytes, catalog.findFile_eq member]

/-- The files of a catalog are those of the directory. -/
theorem Catalog.contents_eq
    (catalog : Catalog config.directory config.fileExtension storage place files)
    (bounded : files.length < SegmentId.bound) :
    config.contents storage = .ok (files.map fun file => (file.id, file.bytes storage)) := by
  have part {part : List LogFile} (included : part ⊆ files) :
      config.readSegments storage (part.map LogFile.id) =
        .ok (part.map fun file => (file.id, file.bytes storage)) := by
    induction part with
    | nil => rfl
    | cons file rest ih =>
        have later := ih fun _ member => included (List.mem_cons_of_mem file member)
        simp only [List.map_cons, Config.readSegments,
          catalog.fileBytes_eq (included List.mem_cons_self), later]
        rfl
  rw [Config.contents, catalog.discover_eq bounded, ← catalog.ids_eq]
  exact part (List.Subset.refl files)

/-- The payloads of a file. -/
def LogFile.payloads (file : LogFile) : List (List UInt8) := file.records.map Record.payload

/-- The payloads of files, the last of which is the newest. -/
def Packing.ofFiles (front : List LogFile) (newest : LogFile) : Packing :=
  ⟨front.map LogFile.payloads, newest.payloads⟩

theorem Packing.segments_ofFiles (front : List LogFile) (newest : LogFile) :
    (Packing.ofFiles front newest).segments = (front ++ [newest]).map LogFile.payloads := by
  simp [segments, ofFiles]

/-- A file holds the frames of its payloads and nothing else. -/
structure LogFile.Framed (layout : Layout) (storage : Storage) (file : LogFile) : Prop where
  bytes_eq : file.bytes storage = layout.writtenBytes 0 file.payloads
  records_eq : file.records = layout.writtenRecords 0 file.payloads

theorem LogFile.framed_of_sealed {file : LogFile} {size : Nat} {poisoned : Bool}
    (sealed : (Discipline.exact layout).Sealed file.id (file.bytes storage) size poisoned file.records) :
    file.Framed layout storage := by
  obtain ⟨_, payloads, bytes_eq, records_eq⟩ := sealed
  have payloads_eq : file.payloads = payloads := by
    rw [LogFile.payloads, records_eq, Layout.map_payload_writtenRecords]
  exact ⟨payloads_eq ▸ bytes_eq, payloads_eq ▸ records_eq⟩

/-- Where the discipline of whole frames is upheld, every file holds its payloads. -/
theorem Discipline.Stored.framed (stored : (Discipline.exact layout).Stored storage files) :
    ∀ file ∈ files, file.Framed layout storage := by
  intro file member
  rcases stored with rfl | ⟨front, newest, rfl, sealed, _, _, active⟩
  · cases member
  · rcases List.mem_append.mp member with older | last
    · obtain ⟨_, _, held⟩ := sealed file older
      exact LogFile.framed_of_sealed held
    · rw [List.mem_singleton.mp last]
      exact LogFile.framed_of_sealed ((Discipline.exact layout).retire active)

/-- A segment of a log is that of a file: it has the path, the id and the size of
the file. -/
structure LogFile.Measures (config : Config) (storage : Storage) (file : LogFile)
    (segment : Segment) : Prop where
  id_eq : segment.id = file.id
  path_eq : segment.path = config.segmentPath file.id
  size_eq : segment.size = (file.bytes storage).length

/-- An open log knows the sizes of its files. -/
theorem Discipline.Serving.measures (resembles : settings.Resembles config)
    (serving : (Discipline.exact layout).Serving settings storage front newest [] log)
    (named : log.Named) :
    List.Forall₂ (LogFile.Measures config storage) (front ++ [newest]) log.segments := by
  have kept : List.Forall₂ ((Discipline.exact layout).Keeping storage) (front ++ [newest])
      (log.sealed ++ [log.active]) :=
    List.rel_append serving.sealed
      (.cons ⟨serving.serves, (Discipline.exact layout).retire serving.active⟩ .nil)
  rw [← serving.formed.segments_eq] at kept
  refine List.Forall₂.flip
    (((List.forall₂_and_left log.segments _).mpr ⟨named, kept.flip⟩).imp ?_)
  rintro segment file ⟨path_eq, keeping⟩
  rw [serving.config_eq, resembles.segmentPath_eq, keeping.serves.id_eq] at path_eq
  exact ⟨keeping.serves.id_eq, path_eq, keeping.sealed.1⟩

namespace Discipline.Serving

/-- A log goes on in a new segment exactly if the payload would push its newest
file past the largest size. -/
theorem needsRotation_eq
    (serving : (Discipline.exact layout).Serving settings storage front newest [] log)
    (payload : List UInt8) :
    log.needsRotation payload =
      (Packing.ofFiles front newest).overflows layout settings.maxSegmentSize payload := by
  obtain ⟨unpoisoned, payloads, _, size_eq, records_eq⟩ := serving.active
  have payloads_eq : newest.payloads = payloads := by
    rw [LogFile.payloads, records_eq, Layout.map_payload_writtenRecords]
  simp only [Log.needsRotation, Segment.isUsable_eq, unpoisoned, serving.serves.isOpen,
    Log.exceedsCapacity, Segment.requiredSpace, serving.serves.layout_eq, serving.config_eq,
    Packing.overflows, Packing.size, Packing.ofFiles, payloads_eq, size_eq, Bool.not_false,
    Bool.and_self, Bool.not_true, Bool.false_or]

/-- Where the storage refuses nothing, a payload that is not too large is packed
behind the others. -/
theorem write_packs
    (catalog : Catalog settings.directory settings.fileExtension storage place (front ++ [newest]))
    (serving : (Discipline.exact layout).Serving settings storage front newest [] log)
    (clean : storage.Clean) (healthy : ∀ path, storage.creationFault path = none)
    {payload : List UInt8} (fits : payload.length ≤ settings.maxPayloadSize) :
    ∃ position again after front' newest',
      log.write payload storage = (.ok position, again, after) ∧
        Catalog settings.directory settings.fileExtension after place (front' ++ [newest']) ∧
        (Discipline.exact layout).Serving settings after front' newest' [] again ∧
        LogFile.allEntries (front' ++ [newest']) =
          LogFile.allEntries (front ++ [newest]) ++ [(position, payload)] ∧
        Packing.ofFiles front' newest' =
          (Packing.ofFiles front newest).add layout settings.maxSegmentSize payload ∧
        (front' ++ [newest']).length ≤ (front ++ [newest]).length + 1 := by
  rw [serving.formed.write_eq, serving.config_eq, if_neg (Nat.not_lt.mpr fits),
    if_neg (by simp [serving.isOpen]), serving.needsRotation_eq payload]
  unfold Packing.add
  by_cases exceeds : (Packing.ofFiles front newest).overflows layout settings.maxSegmentSize payload
  · rw [if_pos exceeds, if_pos exceeds]
    rcases serving.rotate_cases catalog (.inl clean) with ⟨_, _, _, _, ⟨path, fault⟩ | lossy, _⟩ |
      ⟨_, log', middle, file, rotated, refusals_eq, empty, unpoisoned, _, catalogAfter, servingAfter⟩
    · exact absurd (healthy path) fault
    · exact lossy.elim
    simp only [rotated]
    obtain ⟨result, final, after, records, appended, catalogFinal, servingFinal, outcome⟩ :=
      servingAfter.append_cases catalogAfter unpoisoned (.inl (refusals_eq ▸ clean)) payload
    rcases outcome with ⟨_, _, lossy, _⟩ | ⟨offset, rfl, rfl⟩
    · exact lossy.elim
    refine ⟨_, _, _, _, _, appended, catalogFinal, servingFinal, ?_, ?_, by simp⟩
    · rw [LogFile.allEntries_relabel, LogFile.allEntries_concat _ file, LogFile.entries, empty,
        List.map_nil, List.append_nil]
    · simp [Packing.ofFiles, LogFile.payloads, empty]
  · rw [if_neg exceeds, if_neg exceeds]
    obtain ⟨result, final, after, records, appended, catalogFinal, servingFinal, outcome⟩ :=
      serving.append_cases catalog serving.active.1 (.inl clean) payload
    rcases outcome with ⟨_, _, lossy, _⟩ | ⟨offset, rfl, rfl⟩
    · exact lossy.elim
    refine ⟨_, _, _, _, _, appended, catalogFinal, servingFinal, ?_, ?_, by simp⟩
    · exact LogFile.allEntries_relabel front newest _
    · simp [Packing.ofFiles, LogFile.payloads]

end Discipline.Serving

end Files

end RecordLog
