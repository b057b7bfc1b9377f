import RecordLog.Proofs.Filling

/-!
# Visits to a log

A log is visited: it is opened, written, read, synced, closed and dropped, and its
files are read and checked on their own. What it leaves behind depends on none of
this but on the payloads that it was given while it was open. The files are the
packing of these payloads at any moment, and the positions that were answered are
those of the packing. When the log is opened again it finds exactly the state that
it would be in had it never been closed: the newest file has nothing to repair, and
its length is the running end.
-/

namespace RecordLog

/-! ## Visits -/

/-- Something done with a log or with its files. -/
inductive Visit where
  | operation (operation : Operation)
  /-- Read the bytes of a segment file. -/
  | segmentBytes (id : SegmentId)
  /-- Open a file as a segment of its own, check it, and close it. -/
  | verify (path : Path) (id : SegmentId) (layout : Layout)

namespace World

/-- Open a file as a segment of its own, check it, and close it. Checking, like
reading, changes nothing. -/
def verify (path : Path) (id : SegmentId) (layout : Layout) (world : World) : World :=
  match Segment.openExisting path id layout world.storage with
  | (.error _, storage) => { world with storage }
  | (.ok segment, storage) => { world with storage := (segment.close storage).2.2 }

/-- One visit, with storage that refuses nothing. -/
def visit (world : World) : Visit → World
  | .operation operation => world.step (.none, operation)
  | .segmentBytes _ => world
  | .verify path id layout => world.verify path id layout

/-- Several visits. -/
def attend (world : World) (visits : List Visit) : World :=
  visits.foldl visit world

end World

/-- Whether a log can be opened under some settings in an empty directory: they
have no fault, and no slash in the extension leads out of the directory. -/
def Config.isUsable (config : Config) : Bool :=
  config.fault = none && !config.fileExtension.toList.contains '/'

/-- What visits amount to: whether a log was ever opened, whether it is open, and
the payloads that it was given then and that are not too large. -/
structure Course where
  begun : Bool
  isOpen : Bool
  payloads : List (List UInt8)
  deriving DecidableEq, Repr

namespace Course

/-- Nothing has been done. -/
def start : Course := ⟨false, false, []⟩

/-- Take note of a visit to a log with some settings. -/
def note (config : Config) (course : Course) : Visit → Course
  | .operation (.openLog _) =>
      { course with begun := course.begun || config.isUsable, isOpen := config.isUsable }
  | .operation (.write payload) =>
      if course.isOpen && payload.length ≤ config.maxPayloadSize then
        { course with payloads := course.payloads ++ [payload] }
      else course
  | .operation .close => { course with isOpen := false }
  | .operation .drop => { course with isOpen := false }
  | _ => course

variable {config : Config} {course : Course} {payload : List UInt8}

theorem note_write_of_le (isOpen : course.isOpen = true)
    (fits : payload.length ≤ config.maxPayloadSize) :
    course.note config (.operation (.write payload)) =
      { course with payloads := course.payloads ++ [payload] } :=
  if_pos (by simp [isOpen, fits])

theorem note_write_of_refused
    (refused : course.isOpen = false ∨ config.maxPayloadSize < payload.length) :
    course.note config (.operation (.write payload)) = course := by
  apply if_neg
  rcases refused with closed | large
  · simp [closed]
  · simp [large]

/-- What visits amount to. -/
def ofVisits (config : Config) (visits : List Visit) : Course :=
  visits.foldl (note config) start

/-- The payloads as they are packed. -/
def packing (config : Config) (layout : Layout) (course : Course) : Packing :=
  .pack layout config.maxSegmentSize course.payloads

end Course

/-! ## What visits leave -/

variable {layout : Layout} {config settings : Config} {place : Place} {storage after : Storage}
  {files front : List LogFile} {newest : LogFile} {log : Log} {course : Course} {world : World}

namespace World

/-- The files of a world are the packing of the payloads, and the log, open or
closed, has a segment on each. -/
structure Packed (config : Config) (layout : Layout) (course : Course) (world : World)
    (place : Place) (files : List LogFile) : Prop where
  upholds : world.Upholds (.exact layout) (Config.Resembles · config) config.directory
    config.fileExtension place files
  segments_eq : files.map LogFile.payloads =
    if course.begun then (course.packing config layout).segments else []
  nothing : course.begun = false → course.payloads = []
  isOpen_eq : course.isOpen = world.log.any fun log => !log.closed
  formed : ∀ log, world.log = some log → log.Formed
  measured : ∀ log, world.log = some log →
    List.Forall₂ (LogFile.Measures config world.storage) files log.segments

namespace Packed

theorem keeps (packed : world.Packed config layout course place files)
    (keeps : world.storage.Keeps after) :
    Packed config layout course { world with storage := after } place files where
  upholds := packed.upholds.keeps keeps
  segments_eq := packed.segments_eq
  nothing := packed.nothing
  isOpen_eq := packed.isOpen_eq
  formed := packed.formed
  measured log found := by
    refine (packed.measured log found).imp ?_
    rintro file segment ⟨id_eq, path_eq, size_eq⟩
    exact ⟨id_eq, path_eq, by rw [size_eq, Discipline.bytes_of_keeps keeps]⟩

/-- Once a log was begun there is a newest file. -/
theorem packing_eq (packed : world.Packed config layout course place (front ++ [newest])) :
    course.begun = true ∧ Packing.ofFiles front newest = course.packing config layout := by
  have segments_eq := packed.segments_eq
  cases begun : course.begun with
  | false => simp [begun] at segments_eq
  | true =>
      rw [begun, if_pos rfl, ← Packing.segments_ofFiles] at segments_eq
      exact ⟨rfl, Packing.eq_of_segments segments_eq⟩

/-- An open log that serves the packing of the payloads. -/
theorem of_serving (resembles : settings.Resembles config)
    (catalog : Catalog settings.directory settings.fileExtension after place (front ++ [newest]))
    (serving : (Discipline.exact layout).Serving settings after front newest [] log)
    (named : log.Named) {acknowledged : List (Position × List UInt8)}
    (acknowledged_eq : acknowledged = LogFile.allEntries (front ++ [newest]))
    (begun : course.begun = true) (isOpen : course.isOpen = true)
    (packing_eq : Packing.ofFiles front newest = course.packing config layout) :
    Packed config layout course ⟨some log, after, acknowledged⟩ place (front ++ [newest]) := by
  rw [resembles.directory_eq, resembles.extension_eq] at catalog
  refine ⟨⟨catalog, acknowledged_eq, serving.stored, ?_⟩, ?_, ?_, ?_, ?_, ?_⟩
  · rintro _ ⟨⟩
    exact .inr ⟨settings, front, newest, [], resembles, rfl, serving⟩
  · rw [begun, if_pos rfl, ← packing_eq, Packing.segments_ofFiles]
  · rw [begun]
    rintro ⟨⟩
  · simp [isOpen, serving.isOpen]
  · rintro _ ⟨⟩
    exact serving.formed
  · rintro _ ⟨⟩
    exact serving.measures resembles named

/-- The segments of the log have the paths of their ids. -/
theorem named (packed : world.Packed config layout course place files)
    (found : world.log = some log) (resembles : log.config.Resembles config) : log.Named := by
  intro segment member
  obtain ⟨file, _, measures⟩ := exists_of_forall₂_of_mem (packed.measured log found) member
  rw [measures.path_eq, resembles.segmentPath_eq, measures.id_eq]

/-! ### Visits that write nothing -/

theorem dropLog (packed : world.Packed config layout course place files) :
    world.dropLog.Packed config layout { course with isOpen := false } place files := by
  have gone := world.log_dropLog
  exact ⟨packed.upholds.dropLog, packed.segments_eq, packed.nothing, by simp [gone],
    by simp [gone], by simp [gone]⟩

theorem sync (packed : world.Packed config layout course place files) :
    (world.act Log.sync).Packed config layout course place files := by
  have upholds := packed.upholds.sync
  unfold World.act at upholds ⊢
  split at upholds
  · exact packed
  rename_i log found
  have kept := packed.keeps (log.keeps_sync world.storage)
  obtain ⟨stats, log_eq⟩ := log.exists_sync_eq world.storage
  refine ⟨upholds, packed.segments_eq, packed.nothing, ?_, ?_, ?_⟩
  · rw [packed.isOpen_eq, found, log_eq]
    rfl
  · rintro _ ⟨⟩
    exact (packed.formed log found).sync world.storage
  · rintro _ ⟨⟩
    rw [log_eq]
    exact kept.measured log found

theorem close (packed : world.Packed config layout course place files) :
    (world.act Log.close).Packed config layout { course with isOpen := false } place files := by
  have upholds := packed.upholds.close
  unfold World.act at upholds ⊢
  split at upholds
  · rename_i gone
    exact ⟨packed.upholds, packed.segments_eq, packed.nothing, by simp [gone], packed.formed,
      packed.measured⟩
  rename_i log found
  have kept := packed.keeps (log.keeps_close world.storage)
  refine ⟨upholds, packed.segments_eq, packed.nothing, ?_, ?_, ?_⟩
  · simp [log.closed_close]
  · rintro _ ⟨⟩
    exact (packed.formed log found).close world.storage
  · rintro _ ⟨⟩
    have related := kept.measured log found
    rw [log.close_eq] at related ⊢
    split
    · rename_i closed
      rwa [if_pos closed] at related
    · rename_i isOpen
      rw [if_neg isOpen] at related
      rw [Log.segments_shut, List.forall₂_map_right_iff]
      exact related.imp fun _ _ measures => ⟨measures.id_eq, measures.path_eq, measures.size_eq⟩

theorem verify (packed : world.Packed config layout course place files) (path : Path)
    (id : SegmentId) (own : Layout) :
    (world.verify path id own).Packed config layout course place files := by
  unfold World.verify
  obtain ⟨answer, after, opened, keeps, _⟩ := Segment.openExisting_eq path id own world.storage
  rw [opened]
  cases answer with
  | error cause => exact packed.keeps keeps
  | ok segment => exact packed.keeps (keeps.trans (segment.keeps_close after))

end Packed

end World

/-! ### Opening -/

/-- A log of unusable settings cannot be opened in an empty directory. -/
theorem Log.openDirectory_of_not_isUsable
    (catalog : Catalog config.directory config.fileExtension storage place files)
    (unusable : config.isUsable = false) :
    ∃ cause, Log.openDirectory config storage = (.error cause, storage) := by
  cases fault : config.fault with
  | some cause => exact ⟨.config cause, by simp only [Log.openDirectory, Config.validate, fault]⟩
  | none =>
      obtain ⟨layout, laidOut⟩ := config.exists_layout fault
      have slash : '/' ∈ config.fileExtension.toList := by
        simpa [Config.isUsable, fault] using unusable
      have empty : files = [] := by
        by_contra nonempty
        exact catalog.plain nonempty slash
      subst empty
      obtain ⟨cause, failed⟩ := catalog.createFile_of_slash slash .first
      exact ⟨.storage cause, by
        rw [Log.openDirectory_of_empty fault laidOut catalog, Log.begin, Segment.create, failed]⟩

/-- Where the storage refuses nothing, a log of usable settings begins in an empty
directory. -/
theorem Log.exists_begin (usable : config.isUsable = true) (layout : Layout)
    (catalog : Catalog config.directory config.fileExtension storage place [])
    (healthy : storage.toRefusals = .none) :
    ∃ log after, Log.begin config layout storage = (.ok log, after) := by
  obtain ⟨_, plain⟩ : config.fault = none ∧ '/' ∉ config.fileExtension.toList := by
    simpa [Config.isUsable] using usable
  have created : ∃ segment after,
      Segment.create (config.segmentPath .first) .first layout storage = (.ok segment, after) := by
    rcases catalog.create_cases layout with ⟨_, _, uncreated⟩ |
      ⟨handle, after, _, _, ⟨_, _, fault⟩ | created⟩
    · obtain ⟨handle, after, created⟩ := catalog.createFile_of_plain plain (by rw [healthy]; rfl)
      exact absurd created (uncreated handle after)
    · rw [healthy] at fault
      exact absurd rfl fault
    · exact ⟨_, after, created⟩
  obtain ⟨segment, after, created⟩ := created
  exact ⟨_, after, by simp only [Log.begin, created]; rfl⟩

/-- A log of usable settings is opened on files that are whole. It begins with an
empty one where there is none. -/
theorem Log.openDirectory_of_isUsable (usable : config.isUsable = true)
    (laidOut : Layout.ofBlockSize config.blockSize = .ok layout)
    (catalog : Catalog config.directory config.fileExtension storage place files)
    (stored : (Discipline.exact layout).Stored storage files)
    (healthy : storage.toRefusals = .none) (bounded : files.length < SegmentId.bound) :
    ∃ log after front newest, Log.openDirectory config storage = (.ok log, after) ∧
      Catalog config.directory config.fileExtension after place (front ++ [newest]) ∧
      (Discipline.exact layout).Serving config after front newest [] log ∧
      (files = front ++ [newest] ∨ files = [] ∧ front = [] ∧ newest.records = []) := by
  obtain ⟨sound, _⟩ : config.fault = none ∧ '/' ∉ config.fileExtension.toList := by
    simpa [Config.isUsable] using usable
  rcases stored with rfl | ⟨front, newest, rfl, sealed, _, _, active⟩
  · obtain ⟨log, after, begun⟩ := Log.exists_begin usable layout catalog healthy
    have opened : (Discipline.exact layout).Opened config place storage []
      (Log.begin config layout storage) := Discipline.opened_begin sound catalog
    rw [begun] at opened
    obtain ⟨front, newest, catalogAfter, serving, short, entries_eq⟩ := opened
    have alone : front = [] := by
      rw [List.length_append, List.length_singleton, List.length_nil] at short
      exact List.eq_nil_of_length_eq_zero (by omega)
    subst alone
    refine ⟨log, after, [], newest, ?_, catalogAfter, serving, .inr ⟨rfl, rfl, ?_⟩⟩
    · rw [Log.openDirectory_of_empty sound laidOut catalog, begun]
    · simpa [LogFile.allEntries, LogFile.entries] using entries_eq
  · -- recovery finds whole frames up to the end of the newest file, and cuts nothing off
    obtain ⟨last, regions, ending, way, ends, recovered⟩ :=
      (Discipline.exact layout).recover active trivial
    obtain ⟨after, _, _, ⟨_, _, refused, _⟩ | ⟨log, opened, resumes⟩⟩ :=
      Log.openDirectory_cases sound laidOut catalog bounded way ends
    · rw [healthy] at refused
      exact absurd Refusals.recovers_none refused
    exact ⟨log, after, front, newest, opened, catalog.transfer resumes.entries_eq resumes.size_eq,
      resumes.serving sound sealed recovered, .inl rfl⟩

namespace World.Packed

theorem openLog (packed : world.Packed config layout course place files)
    (laidOut : Layout.ofBlockSize config.blockSize = .ok layout) (gone : world.log = none)
    (healthy : world.storage.toRefusals = .none) (resembles : settings.Resembles config)
    (bounded : files.length < SegmentId.bound) :
    ∃ files', (world.openLog settings).Packed config layout
        (course.note config (.operation (.openLog settings))) place files' ∧
      files'.length ≤ files.length + 1 := by
  have catalog := packed.upholds.catalog
  rw [← resembles.directory_eq, ← resembles.extension_eq] at catalog
  have usable_eq : settings.isUsable = config.isUsable := by
    rw [Config.isUsable, resembles.fault_eq, resembles.extension_eq, Config.isUsable]
  unfold World.openLog Course.note
  cases usable : config.isUsable with
  | false =>
      obtain ⟨cause, failed⟩ := Log.openDirectory_of_not_isUsable catalog (usable_eq.trans usable)
      simp only [failed]
      refine ⟨files, ⟨packed.upholds, ?_, ?_, ?_, packed.formed, packed.measured⟩, Nat.le_succ _⟩
      · rw [Bool.or_false]
        exact packed.segments_eq
      · rw [Bool.or_false]
        exact packed.nothing
      · simp [gone]
  | true =>
      rw [← resembles.blockSize_eq] at laidOut
      obtain ⟨log, after, front, newest, opened, catalogAfter, serving, files_eq⟩ :=
        Log.openDirectory_of_isUsable (usable_eq.trans usable) laidOut catalog
          packed.upholds.stored healthy bounded
      have named := Log.named_openDirectory opened
      simp only [opened]
      rcases files_eq with rfl | ⟨rfl, rfl, empty⟩
      · exact ⟨front ++ [newest], of_serving resembles catalogAfter serving named
          packed.upholds.acknowledged_eq (Bool.or_true _) rfl packed.packing_eq.2, Nat.le_succ _⟩
      · have begun : course.begun = false := by
          have segments_eq := packed.segments_eq
          cases begun : course.begun with
          | false => rfl
          | true => simp [begun, Packing.segments] at segments_eq
        refine ⟨[newest], of_serving resembles catalogAfter serving named ?_ (Bool.or_true _) rfl
          ?_, Nat.le_refl _⟩
        · rw [packed.upholds.acknowledged_eq]
          simp [LogFile.allEntries, LogFile.entries, empty]
        · simp [Packing.ofFiles, Course.packing, packed.nothing begun, LogFile.payloads, empty,
            Packing.pack, Packing.empty]

/-! ### Writing -/

theorem write (packed : world.Packed config layout course place files)
    (healthy : world.storage.toRefusals = .none) (payload : List UInt8) :
    ∃ files', (world.write payload).Packed config layout
        (course.note config (.operation (.write payload))) place files' ∧
      files'.length ≤ files.length + 1 := by
  have isOpen_eq := packed.isOpen_eq
  have refuse {files : List LogFile} (packed : world.Packed config layout course place files)
      (refused : course.isOpen = false ∨ config.maxPayloadSize < payload.length) :
      ∃ files', world.Packed config layout (course.note config (.operation (.write payload)))
        place files' ∧ files'.length ≤ files.length + 1 :=
    ⟨files, by rwa [Course.note_write_of_refused refused], Nat.le_succ _⟩
  unfold World.write
  cases found : world.log with
  | none =>
      rw [found, Option.any_none] at isOpen_eq
      exact refuse packed (.inl isOpen_eq)
  | some log =>
      have unchanged : { world with log := some log } = world := by rw [← found]
      rw [found, Option.any_some] at isOpen_eq
      rcases packed.upholds.serving log found with
        closed | ⟨settings, front, newest, spare, resembles, rfl, serving⟩
      · obtain ⟨cause, refused⟩ := log.write_of_closed closed payload world.storage
        rw [closed] at isOpen_eq
        simp only [refused, unchanged]
        exact refuse packed (.inl isOpen_eq)
      cases serving.spare_eq_nil not_false
      by_cases large : config.maxPayloadSize < payload.length
      · have refused : log.write payload world.storage =
            (.error (.payloadTooLarge payload.length settings.maxPayloadSize), log,
              world.storage) := by
          rw [Log.write, serving.config_eq, resembles.maxPayloadSize_eq, if_pos large]
        simp only [refused, unchanged]
        exact refuse packed (.inr large)
      · have fits := Nat.le_of_not_lt large
        rw [serving.isOpen] at isOpen_eq
        have catalog := packed.upholds.catalog
        rw [← resembles.directory_eq, ← resembles.extension_eq] at catalog
        obtain ⟨begun, packing_eq⟩ := packed.packing_eq
        have named := packed.named found (serving.config_eq ▸ resembles)
        obtain ⟨position, again, after, front', newest', written, catalogAfter, servingAfter,
          entries_eq, added, short⟩ :=
          serving.write_packs catalog (by rw [healthy]; exact Refusals.clean_none)
            (by rw [healthy]; exact fun _ => rfl) (resembles.maxPayloadSize_eq ▸ fits)
        have namedAfter := named.write serving.formed payload world.storage
        rw [written] at namedAfter
        simp only [written]
        rw [Course.note_write_of_le isOpen_eq fits]
        refine ⟨front' ++ [newest'], of_serving resembles catalogAfter servingAfter namedAfter ?_
          begun isOpen_eq ?_, short⟩
        · rw [packed.upholds.acknowledged_eq, entries_eq]
        · rw [added, packing_eq, Course.packing, Course.packing, Packing.pack_concat,
            resembles.maxSegmentSize_eq]

/-! ### Any visits -/

/-- One visit leaves the packing that it amounts to. -/
theorem visit (packed : world.Packed config layout course place files)
    (laidOut : Layout.ofBlockSize config.blockSize = .ok layout) {visit : Visit}
    (resembles : ∀ settings, visit = .operation (.openLog settings) → settings.Resembles config)
    (bounded : files.length < SegmentId.bound) :
    ∃ files', (world.visit visit).Packed config layout (course.note config visit) place files' ∧
      files'.length ≤ files.length + 1 := by
  have kept := packed.keeps (world.storage.keeps_suffer .none)
  cases visit with
  | operation operation =>
      cases operation with
      | openLog settings =>
          have dropped := kept.dropLog
          exact dropped.openLog laidOut (World.log_dropLog _) (World.toRefusals_dropLog _)
            (resembles settings rfl) bounded
      | write payload => exact kept.write rfl payload
      | read position => exact ⟨files, kept, Nat.le_succ _⟩
      | scan id => exact ⟨files, kept, Nat.le_succ _⟩
      | sync => exact ⟨files, kept.sync, Nat.le_succ _⟩
      | close => exact ⟨files, kept.close, Nat.le_succ _⟩
      | drop => exact ⟨files, kept.dropLog, Nat.le_succ _⟩
  | segmentBytes id => exact ⟨files, packed, Nat.le_succ _⟩
  | verify path id own => exact ⟨files, packed.verify path id own, Nat.le_succ _⟩

theorem attend (packed : world.Packed config layout course place files)
    (laidOut : Layout.ofBlockSize config.blockSize = .ok layout) {visits : List Visit}
    (resembles : ∀ settings, .operation (.openLog settings) ∈ visits → settings.Resembles config)
    (bounded : files.length + visits.length < SegmentId.bound) :
    ∃ files', (world.attend visits).Packed config layout (visits.foldl (Course.note config) course)
        place files' ∧ files'.length ≤ files.length + visits.length := by
  induction visits generalizing world course files with
  | nil => exact ⟨files, packed, Nat.le_refl _⟩
  | cons visit rest ih =>
      rw [List.length_cons] at bounded ⊢
      have first (settings : Config) (opens : visit = .operation (.openLog settings)) :
          settings.Resembles config :=
        resembles settings (opens ▸ List.mem_cons_self)
      obtain ⟨middle, visited, short⟩ := packed.visit laidOut first (by omega)
      obtain ⟨files', attended, shorter⟩ := ih visited
        (fun settings member => resembles settings (List.mem_cons_of_mem _ member)) (by omega)
      exact ⟨files', attended, by omega⟩

end World.Packed

/-! ## What visits amount to -/

namespace World

/-- A log is open where one should be. It has acknowledged the positions of the
packing, and its files hold the bytes of the packing. Every segment that it reports
can be read, in the size that it reports. -/
structure Packs (config : Config) (layout : Layout) (course : Course) (world : World) : Prop where
  isOpen_eq : course.isOpen = world.log.any fun log => !log.closed
  acknowledged_eq : world.acknowledged = (course.packing config layout).entries layout
  contents_eq : config.contents world.storage =
    .ok (if course.begun then (course.packing config layout).contents layout else [])
  sizes_eq : ∀ log, world.log = some log → ∀ info ∈ log.infos, ∃ bytes,
    log.segmentBytes info.id world.storage = .ok bytes ∧ bytes.size = info.size

namespace Packed

/-- The files in their order are the segments of the packing under their ids. -/
theorem numbered_eq (packed : world.Packed config layout course place files)
    (begun : course.begun = true) :
    (course.packing config layout).numbered = files.map fun file => (file.id, file.payloads) := by
  have segments_eq := packed.segments_eq
  rw [begun, if_pos rfl] at segments_eq
  rw [Packing.numbered, ← segments_eq, List.length_map, ← packed.upholds.catalog.ids_eq,
    List.zip_map']

theorem files_eq_nil (packed : world.Packed config layout course place files)
    (begun : course.begun = false) : files = [] := by
  have segments_eq := packed.segments_eq
  rw [begun] at segments_eq
  simpa using segments_eq

theorem entries_eq (packed : world.Packed config layout course place files) :
    world.acknowledged = (course.packing config layout).entries layout := by
  rw [packed.upholds.acknowledged_eq]
  cases begun : course.begun with
  | false =>
      rw [packed.files_eq_nil begun, Course.packing, packed.nothing begun]
      exact (Packing.entries_empty layout).symm
  | true =>
      rw [Packing.entries, packed.numbered_eq begun, List.flatMap_map, LogFile.allEntries]
      apply List.flatMap_congr
      intro file member
      rw [LogFile.entries, (packed.upholds.stored.framed file member).records_eq]

theorem contents_eq (packed : world.Packed config layout course place files)
    (bounded : files.length < SegmentId.bound) :
    config.contents world.storage =
      .ok (if course.begun then (course.packing config layout).contents layout else []) := by
  rw [packed.upholds.catalog.contents_eq bounded]
  cases begun : course.begun with
  | false =>
      rw [packed.files_eq_nil begun]
      rfl
  | true =>
      rw [if_pos rfl, Packing.contents, packed.numbered_eq begun, List.map_map]
      congr 1
      apply List.map_congr_left
      intro file member
      rw [(packed.upholds.stored.framed file member).bytes_eq]
      rfl

theorem sizes_eq (packed : world.Packed config layout course place files)
    (found : world.log = some log) {info : SegmentInfo} (member : info ∈ log.infos) :
    ∃ bytes, log.segmentBytes info.id world.storage = .ok bytes ∧ bytes.size = info.size := by
  have formed := packed.formed log found
  rw [formed.infos_eq] at member
  obtain ⟨segment, among, rfl⟩ := List.mem_map.mp member
  have catalog := packed.upholds.catalog
  have related := packed.measured log found
  obtain ⟨file, fileMember, measures⟩ := exists_of_forall₂_of_mem related among
  obtain ⟨same, same_eq, measuresSame⟩ := formed.segment?_of_forall₂ catalog.nodup_ids related
    (fun _ _ measures => measures.id_eq) fileMember
  refine ⟨world.storage.nodeBytes file.node, ?_, ?_⟩
  · simp only [Log.segmentBytes, measures.id_eq, same_eq, measuresSame.path_eq,
      catalog.fileBytes_eq fileMember]
  · rw [measures.size_eq, LogFile.bytes, Array.length_toList]

theorem packs (packed : world.Packed config layout course place files)
    (bounded : files.length < SegmentId.bound) : world.Packs config layout course :=
  ⟨packed.isOpen_eq, packed.entries_eq, packed.contents_eq bounded,
    fun _ found _ => packed.sizes_eq found⟩

end Packed

/-- Visits that begin in an empty directory, to logs with settings that write alike.
Every visit takes up one segment id at the most, and the ids do not run out. -/
structure Tour (config : Config) (storage : Storage) (visits : List Visit) : Prop where
  empty : storage.readDirectory ⟨config.directory⟩ = .ok []
  resembles : ∀ settings, .operation (.openLog settings) ∈ visits → settings.Resembles config
  bounded : visits.length < SegmentId.bound

theorem Tour.exists_packed {visits : List Visit} (tour : Tour config storage visits)
    (laidOut : Layout.ofBlockSize config.blockSize = .ok layout) :
    ∃ place files, ((start storage).attend visits).Packed config layout
        (.ofVisits config visits) place files ∧ files.length < SegmentId.bound := by
  obtain ⟨place, catalog⟩ := Catalog.of_readDirectory tour.empty
  have packed : (start storage).Packed config layout .start place [] :=
    ⟨⟨catalog, rfl, .inl rfl, fun _ found => nomatch found⟩, rfl, fun _ => rfl, rfl,
      fun _ found => (nomatch found), fun _ found => nomatch found⟩
  have bounded := tour.bounded
  obtain ⟨files, attended, short⟩ := packed.attend laidOut tour.resembles
    (by rwa [List.length_nil, Nat.zero_add])
  rw [List.length_nil, Nat.zero_add] at short
  exact ⟨place, files, attended, Nat.lt_of_le_of_lt short bounded⟩

/-- Whatever visits are paid to a log that began in an empty directory, its files
and the positions it answered are those of the packing of the payloads, at any
moment. So they are the same after other visits that gave it the same payloads,
however often it was read, synced, closed, dropped and opened in between. -/
theorem packs_attend (laidOut : Layout.ofBlockSize config.blockSize = .ok layout)
    {visits : List Visit} (tour : Tour config storage visits) :
    ((start storage).attend visits).Packs config layout (.ofVisits config visits) ∧
      ∀ otherStorage otherVisits, Tour config otherStorage otherVisits →
        (Course.ofVisits config otherVisits).begun = (Course.ofVisits config visits).begun →
        (Course.ofVisits config otherVisits).payloads = (Course.ofVisits config visits).payloads →
          ((start otherStorage).attend otherVisits).acknowledged =
              ((start storage).attend visits).acknowledged ∧
            config.contents ((start otherStorage).attend otherVisits).storage =
              config.contents ((start storage).attend visits).storage := by
  obtain ⟨place, files, packed, bounded⟩ := tour.exists_packed laidOut
  have packs := packed.packs bounded
  refine ⟨packs, ?_⟩
  intro otherStorage otherVisits otherTour begun_eq payloads_eq
  obtain ⟨otherPlace, otherFiles, otherPacked, otherBounded⟩ := otherTour.exists_packed laidOut
  have otherPacks := otherPacked.packs otherBounded
  have packing_eq : (Course.ofVisits config otherVisits).packing config layout =
      (Course.ofVisits config visits).packing config layout := by
    rw [Course.packing, payloads_eq, Course.packing]
  constructor
  · rw [otherPacks.acknowledged_eq, packs.acknowledged_eq, packing_eq]
  · rw [otherPacks.contents_eq, packs.contents_eq, begun_eq, packing_eq]

/-- Three payloads for three segments, with nothing in between. -/
def plainVisits : List Visit :=
  [.operation (.openLog tightSettings), .operation (.write [1, 2, 3]),
    .operation (.write (List.replicate 70 4)), .operation (.write [])]

/-- The same payloads with reads, syncs, checks and openings in between, with other
sync settings, and with writes that are refused. -/
def busyVisits : List Visit :=
  [.operation (.openLog tightSettings), .operation (.write [1, 2, 3]),
    .operation (.read ⟨⟨1⟩, 0⟩), .verify (tightSettings.segmentPath ⟨1⟩) ⟨1⟩ Segment.smallLayout,
    .operation .close, .operation (.write [5]),
    .operation (.openLog { tightSettings with syncPerWrite := true }),
    .operation (.write (List.replicate 74 6)), .operation (.write (List.replicate 70 4)),
    .segmentBytes ⟨2⟩, .operation .drop, .operation (.openLog tightSettings), .operation .sync,
    .operation (.write []), .operation (.scan ⟨3⟩)]

/-- The layout of the settings. -/
def tightLayout : Layout := ⟨64, by decide, by decide⟩

theorem packs_attend_of_busyVisits :
    Layout.ofBlockSize tightSettings.blockSize = .ok tightLayout ∧
      Tour tightSettings vacantStorage busyVisits ∧ Tour tightSettings vacantStorage plainVisits ∧
        ((start vacantStorage).attend busyVisits).Packs tightSettings tightLayout
          (.ofVisits tightSettings busyVisits) ∧
        ((start vacantStorage).attend busyVisits).acknowledged =
          [(⟨⟨1⟩, 0⟩, [1, 2, 3]), (⟨⟨2⟩, 0⟩, List.replicate 70 4), (⟨⟨3⟩, 0⟩, [])] ∧
        ((start vacantStorage).attend plainVisits).acknowledged =
          ((start vacantStorage).attend busyVisits).acknowledged ∧
        tightSettings.contents ((start vacantStorage).attend plainVisits).storage =
          tightSettings.contents ((start vacantStorage).attend busyVisits).storage := by
  have empty : vacantStorage.readDirectory ⟨tightSettings.directory⟩ = .ok [] := by decide +kernel
  have plain : Tour tightSettings vacantStorage plainVisits := by
    refine ⟨empty, ?_, by decide⟩
    intro settings member
    obtain rfl : settings = tightSettings := by simpa [plainVisits] using member
    exact ⟨rfl, rfl, rfl, rfl⟩
  have busy : Tour tightSettings vacantStorage busyVisits := by
    refine ⟨empty, ?_, by decide⟩
    intro settings member
    have either : settings = tightSettings ∨
        settings = { tightSettings with syncPerWrite := true } := by
      simpa [busyVisits, or_comm] using member
    rcases either with rfl | rfl
    · exact ⟨rfl, rfl, rfl, rfl⟩
    · exact ⟨rfl, rfl, rfl, rfl⟩
  have laidOut : Layout.ofBlockSize tightSettings.blockSize = .ok tightLayout := rfl
  obtain ⟨packs, same⟩ := packs_attend laidOut busy
  have positions : ((Course.ofVisits tightSettings busyVisits).packing tightSettings
      tightLayout).entries tightLayout =
        [(⟨⟨1⟩, 0⟩, [1, 2, 3]), (⟨⟨2⟩, 0⟩, List.replicate 70 4), (⟨⟨3⟩, 0⟩, [])] := by
    decide +kernel
  exact ⟨laidOut, busy, plain, packs, packs.acknowledged_eq.trans positions,
    same vacantStorage plainVisits plain (by decide) (by decide)⟩

end World

end RecordLog
