import RecordLog.Proofs.Upholding

/-!
# Histories of a log

A history is a sequence of operations on one log, each under faults of the
storage of its own: a length past which writes are cut short, faults that meet
creating files, duplicating handles and setting lengths, and syncs that fail. A
write that answers a position adds to the acknowledged records. One step of a
history upholds the discipline of the log, and so does a whole history.
-/

namespace RecordLog

/-- What the storage refuses during one operation. -/
structure Faults extends Refusals where
  /-- Whether the syncs of an open file fail, by its number. -/
  syncFails : Nat → Bool

/-- Storage that refuses nothing. -/
def Faults.none : Faults :=
  { Refusals.none with syncFails := fun _ => false }

/-- The storage as it is under some faults. -/
def Storage.suffer (storage : Storage) (faults : Faults) : Storage :=
  { storage with
    toRefusals := faults.toRefusals
    opened := storage.opened.mapIdx fun index file =>
      { file with syncFails := faults.syncFails index } }

/-- An operation on a log. -/
inductive Operation where
  /-- Open the log that some settings describe; a log that is open is dropped
  first. -/
  | openLog (config : Config)
  | write (payload : List UInt8)
  | read (position : Position)
  | scan (id : SegmentId)
  | sync
  | close
  | drop

/-- A log, if there is one, its storage, and the records it acknowledged. -/
structure World where
  log : Option Log
  storage : Storage
  acknowledged : List (Position × List UInt8)

namespace World

/-- The world before any operation. -/
def start (storage : Storage) : World := ⟨none, storage, []⟩

/-- Close the log and forget it. -/
def dropLog (world : World) : World :=
  match world.log with
  | none => world
  | some log => { world with log := none, storage := (log.close world.storage).2.2 }

/-- Open a log. -/
def openLog (config : Config) (world : World) : World :=
  match Log.openDirectory config world.storage with
  | (.ok log, storage) => { world with log := some log, storage }
  | (.error _, storage) => { world with storage }

/-- Write a payload; the record is acknowledged if the write answers where it
was written. -/
def write (payload : List UInt8) (world : World) : World :=
  match world.log with
  | none => world
  | some log =>
      match log.write payload world.storage with
      | (.ok position, log, storage) =>
          { log := some log, storage, acknowledged := world.acknowledged ++ [(position, payload)] }
      | (.error _, log, storage) => { world with log := some log, storage }

/-- Do something to the log that writes nothing. -/
def act (action : Log → Storage → Except Failure Unit × Log × Storage) (world : World) : World :=
  match world.log with
  | none => world
  | some log =>
      { world with
        log := some (action log world.storage).2.1
        storage := (action log world.storage).2.2 }

/-- One operation. Reading changes nothing. -/
def perform (operation : Operation) (world : World) : World :=
  match operation with
  | .openLog config => world.dropLog.openLog config
  | .write payload => world.write payload
  | .read _ => world
  | .scan _ => world
  | .sync => world.act Log.sync
  | .close => world.act Log.close
  | .drop => world.dropLog

/-- One operation under faults. -/
def step (world : World) (event : Faults × Operation) : World :=
  { world with storage := world.storage.suffer event.1 }.perform event.2

/-- A history. -/
def run (world : World) (events : List (Faults × Operation)) : World :=
  events.foldl step world

theorem log_openLog {config : Config} {world : World} {log : Log}
    (opened : (Log.openDirectory config world.storage).1 = .ok log) :
    (world.openLog config).log = some log := by
  unfold openLog
  split
  · rename_i found after outcome
    rw [outcome] at opened
    cases opened
    rfl
  · rename_i after outcome
    rw [outcome] at opened
    cases opened

theorem run_concat (world : World) (events : List (Faults × Operation))
    (event : Faults × Operation) :
    world.run (events ++ [event]) = (world.run events).step event := by
  simp [run]

end World

theorem Storage.keeps_suffer (storage : Storage) (faults : Faults) :
    storage.Keeps (storage.suffer faults) where
  entries_eq := rfl
  size_eq := rfl
  bytes_eq _ := rfl
  nodeOf?_eq {handle node} found := by
    simp only [nodeOf?, Option.map_eq_some_iff, suffer, Array.getElem?_mapIdx] at found ⊢
    obtain ⟨file, at_index, same⟩ := found
    exact ⟨_, ⟨file, at_index, rfl⟩, same⟩

theorem World.keeps_dropLog (world : World) : world.storage.Keeps world.dropLog.storage := by
  unfold World.dropLog
  split
  · exact .refl world.storage
  · rename_i log _
    exact log.keeps_close world.storage

theorem World.toRefusals_dropLog (world : World) :
    world.dropLog.storage.toRefusals = world.storage.toRefusals := by
  unfold World.dropLog
  split
  · rfl
  · rename_i log _
    exact log.toRefusals_close world.storage

theorem World.log_dropLog (world : World) : world.dropLog.log = none := by
  unfold World.dropLog
  split
  · assumption
  · rfl

/-! ## Upholding a discipline -/

variable {layout : Layout} {directory extension : String} {uses : Config → Prop}

/-- A block size has one layout at the most. -/
theorem Layout.exists_geometry (blockSize : Nat) :
    ∃ layout, ∀ other, Layout.ofBlockSize blockSize = .ok other → other = layout := by
  cases laidOut : Layout.ofBlockSize blockSize with
  | ok layout =>
      refine ⟨layout, ?_⟩
      rintro other ⟨⟩
      rfl
  | error cause =>
      refine ⟨default, ?_⟩
      rintro other ⟨⟩

/-- Settings of a log in some directory. -/
structure Config.Describes (directory extension : String) (layout : Layout) (config : Config) :
    Prop where
  directory_eq : config.directory = directory
  extension_eq : config.fileExtension = extension
  geometry : ∀ other, Layout.ofBlockSize config.blockSize = .ok other → other = layout

/-- Settings under which a log has the same files and the same block size. -/
structure Config.Shares (directory extension : String) (blockSize : Nat) (config : Config) : Prop
    where
  directory_eq : config.directory = directory
  extension_eq : config.fileExtension = extension
  blockSize_eq : config.blockSize = blockSize

theorem Config.Shares.describes {blockSize : Nat}
    (geometry : ∀ other, Layout.ofBlockSize blockSize = .ok other → other = layout)
    (config : Config) (shares : config.Shares directory extension blockSize) :
    config.Describes directory extension layout where
  directory_eq := shares.directory_eq
  extension_eq := shares.extension_eq
  geometry := by
    rw [shares.blockSize_eq]
    exact geometry

/-- The discipline of a log is upheld: its files hold the acknowledged records, and
an open log serves them. -/
structure World.Upholds (discipline : Discipline layout) (uses : Config → Prop)
    (directory extension : String) (world : World) (place : Place) (files : List LogFile) :
    Prop where
  catalog : Catalog directory extension world.storage place files
  acknowledged_eq : world.acknowledged = LogFile.allEntries files
  stored : discipline.Stored world.storage files
  serving : ∀ log, world.log = some log → log.closed = true ∨
    ∃ config front newest spare, uses config ∧ files = front ++ newest :: spare ∧
      discipline.Serving config world.storage front newest spare log

namespace World.Upholds

variable {discipline : Discipline layout} {world : World} {place : Place} {files : List LogFile}

theorem keeps (upholds : world.Upholds discipline uses directory extension place files)
    {after : Storage} (keeps : world.storage.Keeps after) :
    World.Upholds discipline uses directory extension { world with storage := after } place
      files where
  catalog := upholds.catalog.keeps keeps
  acknowledged_eq := upholds.acknowledged_eq
  stored := upholds.stored.keeps keeps
  serving log found := by
    rcases upholds.serving log found with closed |
      ⟨config, front, newest, spare, used, files_eq, serving⟩
    · exact .inl closed
    · exact .inr ⟨config, front, newest, spare, used, files_eq, serving.keeps keeps⟩

/-- A world without a log needs nothing more of it. -/
theorem forget (upholds : world.Upholds discipline uses directory extension place files) :
    World.Upholds discipline uses directory extension { world with log := none } place files :=
  ⟨upholds.catalog, upholds.acknowledged_eq, upholds.stored, fun _ found => by cases found⟩

theorem dropLog (upholds : world.Upholds discipline uses directory extension place files) :
    world.dropLog.Upholds discipline uses directory extension place files := by
  unfold World.dropLog
  split
  · exact upholds
  · rename_i log found
    exact (upholds.keeps (log.keeps_close world.storage)).forget

theorem sync (upholds : world.Upholds discipline uses directory extension place files) :
    (world.act Log.sync).Upholds discipline uses directory extension place files := by
  unfold World.act
  split
  · exact upholds
  · rename_i log found
    have kept := upholds.keeps (log.keeps_sync world.storage)
    refine ⟨kept.catalog, kept.acknowledged_eq, kept.stored, ?_⟩
    rintro _ ⟨⟩
    rcases upholds.serving log found with closed |
      ⟨config, front, newest, spare, used, files_eq, serving⟩
    · left
      simp only [Log.sync, closed, if_true]
    · exact .inr ⟨config, front, newest, spare, used, files_eq, serving.sync⟩

theorem close (upholds : world.Upholds discipline uses directory extension place files) :
    (world.act Log.close).Upholds discipline uses directory extension place files := by
  unfold World.act
  split
  · exact upholds
  · rename_i log found
    have kept := upholds.keeps (log.keeps_close world.storage)
    refine ⟨kept.catalog, kept.acknowledged_eq, kept.stored, ?_⟩
    rintro _ ⟨⟩
    exact .inl (log.closed_close world.storage)

/-- Opening a log upholds the discipline. -/
theorem openLog (upholds : world.Upholds discipline uses directory extension place files)
    (closedBefore : world.log = none) {config : Config} (used : uses config)
    (describes : config.Describes directory extension layout)
    (bounded : files.length < SegmentId.bound)
    (clear : Layout.ofBlockSize config.blockSize = .ok layout → ∀ newest ∈ files.getLast?,
      discipline.Clear newest.id (newest.bytes world.storage) newest.records) :
    ∃ files', (world.openLog config).Upholds discipline uses directory extension place files' ∧
      files'.length ≤ files.length + 1 := by
  have catalog := upholds.catalog
  rw [← describes.directory_eq, ← describes.extension_eq] at catalog
  have opened := Discipline.opened catalog upholds.stored bounded describes.geometry clear
  unfold World.openLog
  unfold Discipline.Opened at opened
  split at opened
  · rename_i cause failed
    split
    · rename_i log after outcome
      rw [outcome] at failed
      cases failed
    · rename_i after outcome
      rw [outcome, describes.directory_eq, describes.extension_eq] at opened
      obtain ⟨⟨files', catalogAfter, storedAfter, short, entries_eq⟩, _⟩ := opened
      refine ⟨files', ⟨catalogAfter, ?_, storedAfter, ?_⟩, short⟩
      · rw [entries_eq]
        exact upholds.acknowledged_eq
      · intro log found
        rw [closedBefore] at found
        cases found
  · rename_i log succeeded
    obtain ⟨front, newest, catalogAfter, serving, short, entries_eq⟩ := opened
    rw [describes.directory_eq, describes.extension_eq] at catalogAfter
    split
    · rename_i log after outcome
      rw [outcome] at succeeded catalogAfter serving
      cases succeeded
      refine ⟨front ++ [newest], ⟨catalogAfter, ?_, serving.stored, ?_⟩, short⟩
      · rw [entries_eq]
        exact upholds.acknowledged_eq
      · rintro _ ⟨⟩
        exact .inr ⟨config, front, newest, [], used, rfl, serving⟩
    · rename_i after outcome
      rw [outcome] at succeeded
      cases succeeded

/-- A write upholds the discipline. -/
theorem write (upholds : world.Upholds discipline uses directory extension place files)
    (describes : ∀ config, uses config → config.Describes directory extension layout)
    (admits : world.storage.Clean ∨ discipline.Lossy) (payload : List UInt8) :
    ∃ files', (world.write payload).Upholds discipline uses directory extension place files' ∧
      files'.length ≤ files.length + 1 := by
  unfold World.write
  split
  · exact ⟨files, upholds, Nat.le_succ _⟩
  rename_i log found
  rcases upholds.serving log found with closed |
    ⟨config, front, newest, spare, used, rfl, serving⟩
  · obtain ⟨cause, refused⟩ := log.write_of_closed closed payload world.storage
    simp only [refused]
    rw [← found]
    exact ⟨files, upholds, Nat.le_succ _⟩
  · have described := describes config used
    have catalog := upholds.catalog
    rw [← described.directory_eq, ← described.extension_eq] at catalog
    obtain ⟨front', newest', spare', catalogAfter, servingAfter, short, outcome⟩ :=
      serving.written catalog admits payload
    rw [described.directory_eq, described.extension_eq] at catalogAfter
    generalize log.write payload world.storage = result at catalogAfter servingAfter outcome
    obtain ⟨answer, log', after⟩ := result
    refine ⟨front' ++ newest' :: spare', ?_, short⟩
    cases answer with
    | error cause =>
        refine ⟨catalogAfter, ?_, servingAfter.stored, ?_⟩
        · exact upholds.acknowledged_eq.trans outcome.2.symm
        · rintro _ ⟨⟩
          exact .inr ⟨config, front', newest', spare', used, rfl, servingAfter⟩
    | ok position =>
        refine ⟨catalogAfter, ?_, servingAfter.stored, ?_⟩
        · simp only at outcome
          rw [outcome, ← upholds.acknowledged_eq]
        · rintro _ ⟨⟩
          exact .inr ⟨config, front', newest', spare', used, rfl, servingAfter⟩

/-- One step upholds the discipline. -/
theorem step (upholds : world.Upholds discipline uses directory extension place files)
    (describes : ∀ config, uses config → config.Describes directory extension layout)
    (bounded : files.length < SegmentId.bound) {event : Faults × Operation}
    (admits : event.1.Clean ∨ discipline.Lossy)
    (opens : ∀ config, event.2 = .openLog config → uses config ∧
      (Layout.ofBlockSize config.blockSize = .ok layout → ∀ newest ∈ files.getLast?,
        discipline.Clear newest.id (newest.bytes world.storage) newest.records)) :
    ∃ files', (world.step event).Upholds discipline uses directory extension place files' ∧
      files'.length ≤ files.length + 1 := by
  obtain ⟨faults, operation⟩ := event
  have suffering := upholds.keeps (world.storage.keeps_suffer faults)
  unfold World.step World.perform
  cases operation with
  | openLog config =>
      obtain ⟨used, clear⟩ := opens config rfl
      apply suffering.dropLog.openLog (World.log_dropLog _) used (describes config used) bounded
      intro laidOut newest last
      have keeps := (world.storage.keeps_suffer faults).trans
        (World.keeps_dropLog { world with storage := world.storage.suffer faults })
      rw [Discipline.bytes_of_keeps keeps]
      exact clear laidOut newest last
  | write payload => exact suffering.write describes admits payload
  | read position => exact ⟨files, suffering, Nat.le_succ _⟩
  | scan id => exact ⟨files, suffering, Nat.le_succ _⟩
  | sync => exact ⟨files, suffering.sync, Nat.le_succ _⟩
  | close => exact ⟨files, suffering.close, Nat.le_succ _⟩
  | drop => exact ⟨files, suffering.dropLog, Nat.le_succ _⟩

end World.Upholds

/-! ## Whole histories -/

/-- Whatever the files of a world are, the newest can be recovered. -/
def World.Clear (discipline : Discipline layout) (directory extension : String) (world : World) :
    Prop :=
  ∀ place files, Catalog directory extension world.storage place files →
    files.length < SegmentId.bound → world.acknowledged = LogFile.allEntries files →
      ∀ newest ∈ files.getLast?, discipline.Clear newest.id (newest.bytes world.storage) newest.records

/-- The records acknowledged in a segment. -/
def World.recordsIn (world : World) (id : SegmentId) : List Record :=
  LogFile.recordsUnder id world.acknowledged

/-- The records of a file are those acknowledged under its id. -/
theorem World.recordsIn_eq {world : World} {files : List LogFile} {place : Place}
    (catalog : Catalog directory extension world.storage place files)
    (acknowledged_eq : world.acknowledged = LogFile.allEntries files) {file : LogFile}
    (member : file ∈ files) : world.recordsIn file.id = file.records := by
  rw [World.recordsIn, acknowledged_eq,
    LogFile.recordsUnder_allEntries catalog.nodup_ids member]

/-- A directory without names is the catalog of no files. -/
theorem Catalog.of_readDirectory {storage : Storage}
    (empty : storage.readDirectory ⟨directory⟩ = .ok []) :
    ∃ place, Catalog directory extension storage place [] := by
  unfold Storage.readDirectory at empty
  split at empty
  · cases empty
  rename_i place resolved
  split at empty
  · cases empty
  · cases empty
  rename_i isDirectory
  unfold Storage.resolve at resolved
  split at resolved
  · cases resolved
  rename_i named
  exact ⟨place, named, resolved, isDirectory, by simpa using empty, rfl, List.nodup_nil,
    by simp, by simp⟩

/-- A history that begins in an empty directory upholds a discipline, provided
that the newest file is clear whenever the log is opened. -/
theorem World.upholds_run (discipline : Discipline layout)
    (describes : ∀ config, uses config → config.Describes directory extension layout)
    {storage : Storage} (empty : storage.readDirectory ⟨directory⟩ = .ok [])
    {events : List (Faults × Operation)}
    (used : ∀ faults config, (faults, .openLog config) ∈ events → uses config)
    (admits : ∀ event ∈ events, event.1.Clean ∨ discipline.Lossy)
    (bounded : events.length < SegmentId.bound)
    (clear : ∀ before faults config after, events = before ++ (faults, .openLog config) :: after →
      Layout.ofBlockSize config.blockSize = .ok layout →
        ((World.start storage).run before).Clear discipline directory extension) :
    ∃ place files, ((World.start storage).run events).Upholds discipline uses directory extension
      place files ∧ files.length ≤ events.length := by
  induction events using List.reverseRecOn with
  | nil =>
      obtain ⟨place, catalog⟩ := Catalog.of_readDirectory empty
      exact ⟨place, [], ⟨catalog, rfl, .inl rfl, fun _ found => by cases found⟩, Nat.le_refl _⟩
  | append_singleton events event ih =>
      rw [List.length_append, List.length_singleton] at bounded ⊢
      obtain ⟨place, files, upholds, short⟩ := ih
        (fun faults config member => used faults config (List.mem_append_left _ member))
        (fun event member => admits event (List.mem_append_left _ member)) (by omega)
        (fun before faults config after split_eq =>
          clear before faults config (after ++ [event]) (by rw [split_eq, List.append_assoc]; rfl))
      obtain ⟨files', upholdsAfter, longer⟩ := upholds.step describes (by omega)
        (admits event (by simp)) (by
          rintro config opens
          have event_eq : event = (event.1, .openLog config) := by rw [← opens]
          refine ⟨used event.1 config (by rw [← event_eq]; simp), fun laidOut => ?_⟩
          exact clear events event.1 config [] (by rw [← event_eq]) laidOut place files
            upholds.catalog (by omega) upholds.acknowledged_eq)
      rw [World.run_concat]
      exact ⟨place, files', upholdsAfter, by omega⟩

namespace World

/-- A storage with an empty directory for a log. -/
def vacantStorage : Storage := (Storage.empty.createDirectory ⟨"wal"⟩).2

/-- Settings with small blocks. -/
def smallSettings : Config :=
  { Config.default with directory := "wal", blockSize := 64, maxSegmentSize := 1000 }

end World

end RecordLog
