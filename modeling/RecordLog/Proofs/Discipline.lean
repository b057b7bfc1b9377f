import Mathlib.Tactic.ByContra
import RecordLog.Proofs.Serving

/-!
# What a log keeps true of its files

A log writes one of its files, the newest, and leaves the others as they are. A
discipline says what is to hold of the bytes of a file, the size remembered of
it and the records acknowledged in it: one thing while the file is written and
another, which follows, when it is sealed. It may say so of some files alone, by
their ids. It is upheld by appending a frame,
by sealing, by opening the sealed file again, and by recovery. From that the
operations of a log are shown to uphold it in the directory as a whole.
-/

namespace RecordLog

/-- Statements about files that appending, sealing and recovering uphold. -/
structure Discipline (layout : Layout) where
  /-- What holds of the bytes of the file that is written, its size, whether it
  is poisoned, and its records. -/
  Active : SegmentId → List UInt8 → Nat → Bool → List Record → Prop
  /-- What holds of the bytes of a sealed file, its size, whether it is poisoned,
  and its records. -/
  Sealed : SegmentId → List UInt8 → Nat → Bool → List Record → Prop
  /-- What recovery asks of the bytes and the records of a file. -/
  Clear : SegmentId → List UInt8 → List Record → Prop
  /-- Whether writes may fail part-way. -/
  Lossy : Prop
  fresh {id} : Active id [] 0 false []
  complete {id bytes size records} : Active id bytes size false records → bytes.length = size
  write {id bytes size records} (payload : List UInt8) : Active id bytes size false records →
    Active id (bytes ++ (layout.frame size payload).bytes) (layout.frame size payload).stop false
      (records ++ [⟨layout.align size, payload⟩])
  tear {id bytes size records} (part : List UInt8) : Lossy → Active id bytes size false records →
    Active id (bytes ++ part) size true records
  retire {id bytes size poisoned records} : Active id bytes size poisoned records →
    Sealed id bytes size poisoned records
  resume {id bytes size poisoned records} : Sealed id bytes size poisoned records →
    Sealed id bytes bytes.length false records
  recover {id bytes size poisoned records} : Active id bytes size poisoned records →
    Clear id bytes records → ∃ last regions ending,
      Image.Passes (.ofBytes layout bytes) 0 last regions ∧
        Image.Ends (.ofBytes layout bytes) last ending ∧
          Active id (bytes.take last) (bytes.take last).length false records

/-! ## Acknowledged records -/

/-- The bytes of a file. -/
def LogFile.bytes (file : LogFile) (storage : Storage) : List UInt8 :=
  (storage.nodeBytes file.node).toList

/-- The records of a file, by their positions in the log. -/
def LogFile.entries (file : LogFile) : List (Position × List UInt8) :=
  file.records.map fun record => (⟨file.id, record.offset⟩, record.payload)

/-- The records of all files. -/
def LogFile.allEntries (files : List LogFile) : List (Position × List UInt8) :=
  files.flatMap LogFile.entries

theorem LogFile.allEntries_concat (front : List LogFile) (file : LogFile) :
    allEntries (front ++ [file]) = allEntries front ++ file.entries := by
  simp [allEntries]

theorem LogFile.allEntries_relabel (front : List LogFile) (file : LogFile) (record : Record) :
    allEntries (front ++ [{ file with records := file.records ++ [record] }]) =
      allEntries (front ++ [file]) ++ [(⟨file.id, record.offset⟩, record.payload)] := by
  simp [allEntries_concat, entries]

/-- The records of a segment among those of a log. -/
def LogFile.recordsUnder (id : SegmentId) (entries : List (Position × List UInt8)) : List Record :=
  entries.filterMap fun (position, payload) =>
    if position.segment = id then some ⟨position.offset, payload⟩ else none

theorem LogFile.recordsUnder_append (id : SegmentId) (first second : List (Position × List UInt8)) :
    recordsUnder id (first ++ second) = recordsUnder id first ++ recordsUnder id second :=
  List.filterMap_append

theorem LogFile.recordsUnder_entries (file : LogFile) (id : SegmentId) :
    recordsUnder id file.entries = if file.id = id then file.records else [] := by
  by_cases same : file.id = id
  · simp [recordsUnder, entries, same]
  · simp [recordsUnder, entries, same]

/-- Where ids are distinct, the records under an id are those of its file. -/
theorem LogFile.recordsUnder_allEntries {files : List LogFile}
    (distinct : (files.map LogFile.id).Nodup) {file : LogFile} (member : file ∈ files) :
    recordsUnder file.id (allEntries files) = file.records := by
  have foreign {id : SegmentId} (others : List LogFile) (absent : id ∉ others.map LogFile.id) :
      recordsUnder id (allEntries others) = [] := by
    induction others with
    | nil => rfl
    | cons other rest ih =>
        rw [List.map_cons, List.mem_cons, not_or] at absent
        rw [allEntries, List.flatMap_cons, recordsUnder_append, recordsUnder_entries,
          if_neg (Ne.symm absent.1)]
        exact ih absent.2
  induction files with
  | nil => cases member
  | cons first rest ih =>
      rw [List.map_cons, List.nodup_cons] at distinct
      rw [allEntries, List.flatMap_cons, recordsUnder_append, recordsUnder_entries]
      rcases List.mem_cons.mp member with rfl | later
      · rw [if_pos rfl]
        have nothing := foreign rest distinct.1
        rw [allEntries] at nothing
        rw [nothing, List.append_nil]
      · rw [if_neg]
        · exact ih distinct.2 later
        · intro same
          rw [same] at distinct
          exact distinct.1 (List.mem_map_of_mem later)

variable {layout : Layout} {directory extension : String} {config : Config} {place : Place}
  {storage after : Storage} {files front spare : List LogFile} {newest : LogFile} {log : Log}

/-- A file has the id of the number of files up to it. -/
theorem Catalog.id_newest
    (catalog : Catalog directory extension storage place (front ++ newest :: spare)) :
    newest.id = ⟨front.length + 1⟩ := by
  have ids := congrArg (·[front.length]?) catalog.ids_eq
  simpa [SegmentId.upTo] using ids

theorem Catalog.nodup_ids (catalog : Catalog directory extension storage place files) :
    (files.map LogFile.id).Nodup := by
  rw [catalog.ids_eq]
  exact SegmentId.nodup_upTo files.length

/-- The newest file is none of those before it. -/
theorem Catalog.node_ne_newest
    (catalog : Catalog directory extension storage place (front ++ newest :: spare)) :
    ∀ file ∈ front, file.node ≠ newest.node := by
  intro file member same
  have distinct := catalog.nodup
  rw [List.map_append, List.nodup_append] at distinct
  exact distinct.2.2 file.node (List.mem_map_of_mem member) newest.node (by simp) same

/-- The newest file is none of those behind it. -/
theorem Catalog.node_ne_spare
    (catalog : Catalog directory extension storage place (front ++ newest :: spare)) :
    ∀ file ∈ spare, file.node ≠ newest.node := by
  intro file member same
  have distinct := catalog.nodup
  rw [List.map_append, List.nodup_append, List.map_cons, List.nodup_cons] at distinct
  exact distinct.2.1.1 (same ▸ List.mem_map_of_mem member)

namespace Discipline

variable (discipline : Discipline layout)

/-- The files of a log, with no segment open on them. -/
def Stored (storage : Storage) (files : List LogFile) : Prop :=
  files = [] ∨ ∃ front newest, files = front ++ [newest] ∧
    (∀ file ∈ front, ∃ size poisoned,
      discipline.Sealed file.id (file.bytes storage) size poisoned file.records) ∧
      ∃ size poisoned, discipline.Active newest.id (newest.bytes storage) size poisoned newest.records

/-- A segment is open on a sealed file. -/
structure Keeping (storage : Storage) (file : LogFile) (segment : Segment) : Prop where
  serves : Serves layout storage file segment
  sealed : discipline.Sealed file.id (file.bytes storage) segment.size segment.poisoned file.records

/-- A log is open on its files. Behind the newest there may be a spare one: a file
that was created for the next segment and could not be taken over. -/
structure Serving (config : Config) (storage : Storage) (front : List LogFile)
    (newest : LogFile) (spare : List LogFile) (log : Log) : Prop where
  formed : log.Formed
  config_eq : log.config = config
  sound : config.fault = none
  layout_eq : log.layout = layout
  isOpen : log.closed = false
  sealed : List.Forall₂ (discipline.Keeping storage) front log.sealed
  serves : Serves layout storage newest log.active
  active : discipline.Active newest.id (newest.bytes storage) log.active.size log.active.poisoned
    newest.records
  blank : ∀ file ∈ spare, file.bytes storage = [] ∧ file.records = []
  single : spare.length ≤ 1
  lossy : spare ≠ [] → discipline.Lossy

variable {discipline}

theorem bytes_of_keeps (keeps : storage.Keeps after) (file : LogFile) :
    file.bytes after = file.bytes storage := by
  rw [LogFile.bytes, keeps.bytes_eq, LogFile.bytes]

theorem Keeping.keeps {file : LogFile} {segment : Segment}
    (keeping : discipline.Keeping storage file segment) (keeps : storage.Keeps after) :
    discipline.Keeping after file segment where
  serves := keeping.serves.keeps keeps
  sealed := by
    rw [bytes_of_keeps keeps]
    exact keeping.sealed

theorem Stored.keeps (stored : discipline.Stored storage files) (keeps : storage.Keeps after) :
    discipline.Stored after files := by
  rcases stored with empty | ⟨front, newest, files_eq, sealed, active⟩
  · exact .inl empty
  · refine .inr ⟨front, newest, files_eq, ?_, ?_⟩
    · intro file member
      rw [bytes_of_keeps keeps]
      exact sealed file member
    · rw [bytes_of_keeps keeps]
      exact active

namespace Serving

theorem keeps (serving : discipline.Serving config storage front newest spare log)
    (keeps : storage.Keeps after) :
    discipline.Serving config after front newest spare log where
  formed := serving.formed
  config_eq := serving.config_eq
  sound := serving.sound
  layout_eq := serving.layout_eq
  isOpen := serving.isOpen
  sealed := serving.sealed.imp fun _ _ keeping => keeping.keeps keeps
  serves := serving.serves.keeps keeps
  active := by
    rw [bytes_of_keeps keeps]
    exact serving.active
  blank file member := by
    rw [bytes_of_keeps keeps]
    exact serving.blank file member
  single := serving.single
  lossy := serving.lossy

/-- Statistics do not matter to what is kept. -/
theorem withStats (serving : discipline.Serving config storage front newest spare log)
    (stats : Stats) :
    discipline.Serving config storage front newest spare { log with stats } :=
  ⟨serving.formed.withStats stats, serving.config_eq, serving.sound, serving.layout_eq,
    serving.isOpen, serving.sealed, serving.serves, serving.active, serving.blank, serving.single,
    serving.lossy⟩

theorem countSync (serving : discipline.Serving config storage front newest spare log)
    (synced : Bool) :
    discipline.Serving config storage front newest spare (log.countSync synced) := by
  unfold Log.countSync
  split
  · exact serving.withStats _
  · exact serving

/-- What an open log keeps is also kept without it. A spare file is then the
newest, and the one before it sealed. -/
theorem stored (serving : discipline.Serving config storage front newest spare log) :
    discipline.Stored storage (front ++ newest :: spare) := by
  have sealed : ∀ file ∈ front, ∃ size poisoned,
      discipline.Sealed file.id (file.bytes storage) size poisoned file.records := by
    intro file member
    obtain ⟨index, inRange, rfl⟩ := List.getElem_of_mem member
    have keeping := serving.sealed.get inRange (serving.sealed.length_eq ▸ inRange)
    exact ⟨_, _, keeping.sealed⟩
  match spare, serving.blank, serving.single with
  | [], _, _ => exact .inr ⟨front, newest, rfl, sealed, _, _, serving.active⟩
  | [left], blank, _ =>
      refine .inr ⟨front ++ [newest], left, by simp, ?_, 0, false, ?_⟩
      · intro file member
        rcases List.mem_append.mp member with older | last
        · exact sealed file older
        · rw [List.mem_singleton.mp last]
          exact ⟨_, _, discipline.retire serving.active⟩
      · obtain ⟨bytes_eq, records_eq⟩ := blank left List.mem_cons_self
        rw [bytes_eq, records_eq]
        exact discipline.fresh

/-- Where nothing may be lost there is no spare file. -/
theorem spare_eq_nil (serving : discipline.Serving config storage front newest spare log)
    (lossless : ¬discipline.Lossy) : spare = [] := by
  by_contra nonempty
  exact lossless (serving.lossy nonempty)

/-- A spare file holds no records. -/
theorem allEntries_eq (serving : discipline.Serving config storage front newest spare log) :
    LogFile.allEntries (front ++ newest :: spare) = LogFile.allEntries (front ++ [newest]) := by
  have none : LogFile.allEntries spare = [] := by
    rw [LogFile.allEntries, List.flatMap_eq_nil_iff]
    intro file member
    rw [LogFile.entries, (serving.blank file member).2, List.map_nil]
  rw [List.append_cons front newest spare, LogFile.allEntries, List.flatMap_append,
    ← LogFile.allEntries, ← LogFile.allEntries, none, List.append_nil]

end Serving

end Discipline

end RecordLog
