import RecordLog.Proofs.History

/-!
# The scan of a log is its history

Where the storage refuses nothing, every file of a log holds the frames of some
payloads and nothing else. The records found in the files, taken in the order
of the segments, are then the acknowledged writes in the order in which they
were made, each with its position and its payload. Writes that are not too
large succeed, and so does every further opening, which has nothing to repair.
-/

namespace RecordLog

/-- The discipline of a log whose storage refuses nothing: files hold whole
frames alone. -/
def Discipline.exact (layout : Layout) : Discipline layout where
  Active _ bytes size poisoned records :=
    poisoned = false ∧ ∃ payloads, bytes = layout.writtenBytes 0 payloads ∧
      size = layout.writtenStop 0 payloads ∧ records = layout.writtenRecords 0 payloads
  Sealed _ bytes size _ records :=
    size = bytes.length ∧ ∃ payloads, bytes = layout.writtenBytes 0 payloads ∧
      records = layout.writtenRecords 0 payloads
  Clear _ _ _ := True
  Lossy := False
  fresh := ⟨rfl, [], rfl, rfl, rfl⟩
  complete := by
    rintro _ _ _ _ ⟨_, payloads, rfl, rfl, rfl⟩
    have := layout.length_writtenBytes 0 payloads
    omega
  write payload := by
    rintro ⟨_, payloads, rfl, rfl, rfl⟩
    refine ⟨rfl, payloads ++ [payload], ?_, ?_, ?_⟩
    · simp [layout.writtenBytes_append]
    · simp [layout.writtenStop_append]
    · simp [layout.writtenRecords_append]
  tear _ lossy := lossy.elim
  retire := by
    rintro _ _ _ _ _ ⟨_, payloads, rfl, rfl, rfl⟩
    have := layout.length_writtenBytes 0 payloads
    exact ⟨by omega, payloads, rfl, rfl⟩
  resume sealed := ⟨rfl, sealed.2⟩
  recover {_ bytes size poisoned records} active _ := by
    obtain ⟨_, payloads, rfl, rfl, rfl⟩ := active
    have length_eq := layout.length_writtenBytes 0 payloads
    have aligned := layout.align_of_not_inPadding
      (layout.inPadding_writtenStop layout.inPadding_zero payloads)
    have stored_eq : (Image.ofBytes layout (layout.writtenBytes 0 payloads)).stored =
        layout.writtenBytes 0 payloads ++ [] := by
      simp
    have way := (Image.carries_writtenBytes (Image.whole_ofBytes _ _) rfl stored_eq).passes
    simp only [Image.layout_ofBytes, layout.align_zero, aligned] at way
    refine ⟨_, _, [], way, .clean ?_, rfl, payloads, ?_, ?_, rfl⟩
    · rw [Image.layout_ofBytes, Image.size_ofBytes, aligned]
      omega
    · exact List.take_of_length_le (by omega)
    · rw [List.take_of_length_le (by omega)]
      omega

namespace Log

/-- The records of some segments with their positions, or the first failure. -/
def scanSegments (log : Log) (storage : Storage) :
    List SegmentId → Except Failure (List (Position × List UInt8))
  | [] => .ok []
  | id :: rest =>
      match log.records id storage with
      | .error cause => .error cause
      | .ok records =>
          match scanSegments log storage rest with
          | .error cause => .error cause
          | .ok later =>
              .ok ((records.map fun record => (⟨id, record.offset⟩, record.payload)) ++ later)

/-- The records of all segments, in the order of their ids. -/
def scan (log : Log) (storage : Storage) : Except Failure (List (Position × List UInt8)) :=
  log.scanSegments storage log.ids

end Log

variable {layout : Layout} {config : Config} {place : Place} {storage : Storage}
  {files front spare : List LogFile} {newest : LogFile} {log : Log}

namespace Discipline.Serving

/-- The segments of an open log have the ids of its files up to the newest. -/
theorem ids_eq {discipline : Discipline layout}
    (serving : discipline.Serving config storage front newest spare log) :
    log.ids = (front ++ [newest]).map LogFile.id := by
  rw [serving.formed.ids_eq]
  exact Segment.ids_of_forall₂ (serving.related.imp fun _ _ keeping => keeping.serves)

/-- The records found in a segment are those of its file. -/
theorem records_eq
    (catalog : Catalog config.directory config.fileExtension storage place
      (front ++ newest :: spare))
    (serving : (Discipline.exact layout).Serving config storage front newest spare log)
    {file : LogFile} (member : file ∈ front ++ [newest]) :
    log.records file.id storage = .ok file.records := by
  obtain ⟨segment, segment_eq, keeping⟩ := serving.segment?_eq catalog member
  obtain ⟨size_eq, payloads, bytes_eq, records_eq⟩ := keeping.sealed
  rw [LogFile.bytes] at size_eq bytes_eq
  rw [Array.length_toList] at size_eq
  have image_eq := keeping.serves.image_eq_ofBytes size_eq
  have read := Image.records_written (Image.whole_ofBytes _ _) rfl
    ((Image.stored_ofBytes _ _).trans bytes_eq)
  rw [Log.records, Log.withSegment, if_neg (by simp [serving.isOpen])]
  simp only [segment_eq, image_eq]
  rw [read, records_eq]
  rfl

/-- The scan of an open log answers the records of its files in their order. -/
theorem scan_eq
    (catalog : Catalog config.directory config.fileExtension storage place
      (front ++ newest :: spare))
    (serving : (Discipline.exact layout).Serving config storage front newest spare log) :
    log.scan storage = .ok (LogFile.allEntries (front ++ [newest])) := by
  have part {files : List LogFile} (included : files ⊆ front ++ [newest]) :
      log.scanSegments storage (files.map LogFile.id) = .ok (LogFile.allEntries files) := by
    induction files with
    | nil => rfl
    | cons file rest ih =>
        have found := serving.records_eq catalog (included List.mem_cons_self)
        have later := ih fun _ member => included (List.mem_cons_of_mem file member)
        simp only [List.map_cons, Log.scanSegments, found, later]
        rfl
  rw [Log.scan, serving.ids_eq]
  exact part (List.Subset.refl _)

end Discipline.Serving

namespace World

/-- The log scans its acknowledged writes, takes every payload that is not too
large, and can be opened again. -/
structure Replays (config : Config) (world : World) (log : Log) : Prop where
  ascending : (log.ids.map SegmentId.number).Pairwise (· < ·)
  scan_eq : log.scan world.storage = .ok world.acknowledged
  writes : ∀ payload : List UInt8, payload.length ≤ config.maxPayloadSize →
    ∃ position, (log.write payload (world.storage.suffer .none)).1 = .ok position
  reopens : ∃ again, (world.step (.none, .openLog config)).log = some again ∧
    again.closed = false

variable {world : World} {directory extension : String}

/-- Where the discipline is upheld, an open log replays its history. -/
theorem Upholds.replays
    (upholds : world.Upholds (.exact layout) (· = config) config.directory config.fileExtension
      place files)
    (describes : config.Describes config.directory config.fileExtension layout)
    (bounded : files.length < SegmentId.bound) (found : world.log = some log)
    (isOpen : log.closed = false) : world.Replays config log := by
  rcases upholds.serving log found with closed | ⟨_, front, newest, spare, rfl, rfl, serving⟩
  · rw [isOpen] at closed
    cases closed
  cases serving.spare_eq_nil not_false
  have suffering := upholds.keeps (world.storage.keeps_suffer .none)
  refine ⟨?_, ?_, ?_, ?_⟩
  · rw [serving.ids_eq, upholds.catalog.ids_eq, SegmentId.upTo, List.map_map]
    apply List.pairwise_map.mpr
    apply List.pairwise_lt_range.imp
    intro first second before
    exact Nat.succ_lt_succ before
  · rw [serving.scan_eq upholds.catalog, upholds.acknowledged_eq]
  · intro payload fits
    have suffers := serving.keeps (world.storage.keeps_suffer .none)
    obtain ⟨_, _, _, _, _, _, outcome⟩ :=
      suffers.written suffering.catalog (.inl Refusals.clean_none) payload
    split at outcome
    · rename_i cause failed
      rcases outcome.1 with large | ⟨_, creation⟩ | lossy
      · exact absurd fits (Nat.not_le.mpr large)
      · exact absurd rfl creation
      · exact lossy.elim
    · rename_i position succeeded
      exact ⟨position, succeeded⟩
  · have dropped := suffering.dropLog
    have opened := Discipline.opened dropped.catalog dropped.stored bounded describes.geometry
      fun _ _ _ => trivial
    unfold Discipline.Opened at opened
    split at opened
    · rename_i cause failed
      rcases opened.2 with unsound | nothing | refused
      · exact absurd serving.sound unsound
      · simp at nothing
      · rw [World.toRefusals_dropLog] at refused
        exact absurd Refusals.recovers_none refused
    · rename_i again succeeded
      obtain ⟨_, _, _, servingAgain, _, _⟩ := opened
      exact ⟨again, log_openLog succeeded, servingAgain.isOpen⟩

/-- Where the storage refuses nothing, the scan of an open log is the history
of its writes, as long as the segment ids do not run out. -/
theorem replays_run {config : Config} {storage : Storage}
    (empty : storage.readDirectory ⟨config.directory⟩ = .ok []) {operations : List Operation}
    (same : ∀ other, .openLog other ∈ operations → other = config)
    (bounded : operations.length < SegmentId.bound) :
    ∀ log ∈ ((World.start storage).run (operations.map (Prod.mk .none))).log,
      log.closed = false →
        ((World.start storage).run (operations.map (Prod.mk .none))).Replays config log := by
  obtain ⟨layout, geometry⟩ := Layout.exists_geometry config.blockSize
  have describes (other : Config) (equal : other = config) :
      other.Describes config.directory config.fileExtension layout := by
    rw [equal]
    exact ⟨rfl, rfl, geometry⟩
  have used : ∀ faults other, (faults, .openLog other) ∈ operations.map (Prod.mk Faults.none) →
      other = config := by
    intro faults other member
    obtain ⟨operation, performed, equal⟩ := List.mem_map.mp member
    cases equal
    exact same other performed
  have unlimited : ∀ event ∈ operations.map (Prod.mk Faults.none),
      event.1.Clean ∨ (Discipline.exact layout).Lossy := by
    intro event member
    obtain ⟨operation, _, rfl⟩ := List.mem_map.mp member
    exact .inl Refusals.clean_none
  obtain ⟨place, files, upholds, short⟩ := upholds_run (.exact layout) describes empty
    used unlimited (by rwa [List.length_map]) fun _ _ _ _ _ _ _ _ _ _ _ _ _ => trivial
  rw [List.length_map] at short
  intro log found isOpen
  exact upholds.replays (describes config rfl) (Nat.lt_of_le_of_lt short bounded) found isOpen

/-- Settings with small segments. -/
def tightSettings : Config :=
  { smallSettings with maxSegmentSize := 80 }

/-- Writes to three segments, with a close and an opening before the second. -/
def plainHistory : List Operation :=
  [.openLog tightSettings, .write [1, 2, 3], .sync, .close, .openLog tightSettings,
    .write (List.replicate 70 4), .write []]

theorem plainHistory_replays :
    vacantStorage.readDirectory ⟨tightSettings.directory⟩ = .ok [] ∧
      (∀ other, .openLog other ∈ plainHistory → other = tightSettings) ∧
        plainHistory.length < SegmentId.bound ∧
          ((World.start vacantStorage).run (plainHistory.map (Prod.mk .none))).acknowledged =
              [(⟨⟨1⟩, 0⟩, [1, 2, 3]), (⟨⟨2⟩, 0⟩, List.replicate 70 4), (⟨⟨3⟩, 0⟩, [])] ∧
            ∃ log, ((World.start vacantStorage).run (plainHistory.map (Prod.mk .none))).log =
                some log ∧
              ((World.start vacantStorage).run (plainHistory.map (Prod.mk .none))).Replays
                tightSettings log := by
  have empty : vacantStorage.readDirectory ⟨tightSettings.directory⟩ = .ok [] := by
    decide +kernel
  have bounded : plainHistory.length < SegmentId.bound := by decide
  have same : ∀ other, .openLog other ∈ plainHistory → other = tightSettings := by
    intro other member
    simpa [plainHistory] using member
  have serves : (((World.start vacantStorage).run (plainHistory.map (Prod.mk .none))).log.any
      fun log => !log.closed) = true := by decide +kernel
  obtain ⟨log, found, isOpen⟩ := (Option.any_eq_true _ _).mp serves
  refine ⟨empty, same, bounded, by decide +kernel, log, found, ?_⟩
  exact replays_run empty same bounded log found (by simpa using isOpen)

end World

end RecordLog
