import RecordLog.Proofs.Discipline

/-!
# Operations of a log uphold its discipline

Each operation of an open log, and the opening of a log, is described by what it
answers and by what is then true of the files of the log: the catalog of its
directory, the discipline, and the acknowledged records, which grow by exactly
the record of a write that succeeds.
-/

namespace RecordLog

variable {layout : Layout} {config : Config} {place : Place} {storage after : Storage}
  {files front spare : List LogFile} {newest : LogFile} {log : Log}
  {discipline : Discipline layout}

/-! ## Syncing and closing -/

theorem Log.keeps_sync (log : Log) (storage : Storage) :
    storage.Keeps (log.sync storage).2.2 := by
  rcases log.sync_snd storage with same | ⟨handle, same⟩
  · rw [same]
    exact .refl storage
  · rw [same]
    exact storage.keeps_sync handle

theorem Log.keeps_close (log : Log) (storage : Storage) :
    storage.Keeps (log.close storage).2.2 := by
  rw [log.close_eq]
  split
  · exact .refl storage
  · exact log.table.keeps_closeAll storage

theorem Log.toRefusals_close (log : Log) (storage : Storage) :
    (log.close storage).2.2.toRefusals = storage.toRefusals := by
  rw [log.close_eq]
  split
  · rfl
  · exact log.table.toRefusals_closeAll storage

/-- A log that was closed stays closed. -/
theorem Log.closed_close (log : Log) (storage : Storage) :
    (log.close storage).2.1.closed = true := by
  rw [log.close_eq]
  split
  · assumption
  · rfl

/-- A closed log writes nothing. -/
theorem Log.write_of_closed (log : Log) (closed : log.closed = true) (payload : List UInt8)
    (storage : Storage) : ∃ cause, log.write payload storage = (.error cause, log, storage) := by
  unfold Log.write
  rw [closed]
  split <;> exact ⟨_, rfl⟩

/-! ## Finding segments -/

/-- Where the segments of a log belong to some files one by one, the segment of an
id belongs to the file of that id. -/
theorem Log.Formed.segment?_of_forall₂ (formed : log.Formed)
    (distinct : (files.map LogFile.id).Nodup)
    {Belongs : LogFile → Segment → Prop} (related : List.Forall₂ Belongs files log.segments)
    (id_eq : ∀ file segment, Belongs file segment → segment.id = file.id) {file : LogFile}
    (member : file ∈ files) :
    ∃ segment, log.segment? file.id = some segment ∧ Belongs file segment := by
  rw [formed.segment?_eq]
  generalize log.segments = segments at related
  induction related with
  | nil => cases member
  | @cons first segment rest segments here _ ih =>
      have same_id := id_eq first segment here
      rw [List.map_cons, List.nodup_cons] at distinct
      rcases List.mem_cons.mp member with same | later
      · subst same
        exact ⟨segment, by simp [same_id], here⟩
      · have ne : segment.id ≠ file.id := by
          rw [same_id]
          intro same
          rw [same] at distinct
          exact distinct.1 (List.mem_map_of_mem later)
        obtain ⟨found, found_eq, belongs⟩ := ih distinct.2 later
        exact ⟨found, by simp [ne, found_eq], belongs⟩

/-- What is in a list belongs to something in a list that it is related to. -/
theorem exists_of_forall₂_of_mem {α β : Type} {R : α → β → Prop} {firsts : List α}
    {seconds : List β} (related : List.Forall₂ R firsts seconds) {second : β}
    (member : second ∈ seconds) : ∃ first ∈ firsts, R first second := by
  obtain ⟨index, inRange, rfl⟩ := List.getElem_of_mem member
  exact ⟨_, List.getElem_mem _, related.get (related.length_eq ▸ inRange) inRange⟩

/-- A segment that is found belongs to a file. -/
theorem Log.Formed.exists_file_of_segment? (formed : log.Formed)
    {Belongs : LogFile → Segment → Prop}
    (related : List.Forall₂ Belongs files log.segments) {id : SegmentId} {segment : Segment}
    (found : log.segment? id = some segment) : ∃ file ∈ files, Belongs file segment :=
  exists_of_forall₂_of_mem related
    (List.mem_of_find?_eq_some ((formed.segment?_eq id).symm.trans found))

/-- The files up to the newest have distinct ids. -/
theorem Catalog.nodup_ids_newest {directory extension : String}
    (catalog : Catalog directory extension storage place (front ++ newest :: spare)) :
    ((front ++ [newest]).map LogFile.id).Nodup := by
  have distinct := catalog.nodup_ids
  rw [List.append_cons, List.map_append] at distinct
  exact (List.nodup_append.mp distinct).1

namespace Discipline.Serving

/-! ## Reading -/

/-- The segments of an open log are kept on its files one by one. -/
theorem related (serving : discipline.Serving config storage front newest spare log) :
    List.Forall₂ (discipline.Keeping storage) (front ++ [newest]) log.segments := by
  rw [serving.formed.segments_eq]
  exact List.rel_append serving.sealed
    (.cons ⟨serving.serves, discipline.retire serving.active⟩ .nil)

/-- Every file of an open log up to the newest is served by the segment of its
id. -/
theorem segment?_eq
    (catalog : Catalog config.directory config.fileExtension storage place
      (front ++ newest :: spare))
    (serving : discipline.Serving config storage front newest spare log) {file : LogFile}
    (member : file ∈ front ++ [newest]) :
    ∃ segment, log.segment? file.id = some segment ∧ discipline.Keeping storage file segment :=
  serving.formed.segment?_of_forall₂ catalog.nodup_ids_newest serving.related
    (fun _ _ keeping => keeping.serves.id_eq) member

/-! ## Syncing -/

theorem sync (serving : discipline.Serving config storage front newest spare log) :
    discipline.Serving config (log.sync storage).2.2 front newest spare (log.sync storage).2.1 := by
  have kept := serving.keeps (log.active.keeps_sync storage)
  rw [serving.formed.sync_eq, if_neg (by simp [serving.isOpen])]
  split <;>
    · rename_i synced
      rw [synced] at kept
      first
        | exact kept.countSync true
        | exact kept

/-! ## Writing -/

/-- Sealed files are kept while another file is rewritten. -/
theorem sealed_rewrites
    (catalog : Catalog config.directory config.fileExtension storage place
      (front ++ newest :: spare))
    (serving : discipline.Serving config storage front newest spare log) {bytes : Content}
    (rewrites : storage.Rewrites after newest.node bytes) :
    List.Forall₂ (discipline.Keeping after) front log.sealed := by
  have apart := (List.forall₂_and_left _ _).mpr ⟨catalog.node_ne_newest, serving.sealed⟩
  apply apart.imp
  rintro file segment ⟨ne, keeping⟩
  refine ⟨keeping.serves.rewrites rewrites, ?_⟩
  rw [LogFile.bytes, rewrites.others_eq file.node ne]
  exact keeping.sealed

/-- The newest file is rewritten, and the active segment is in another state, with
other statistics. -/
theorem replace
    (catalog : Catalog config.directory config.fileExtension storage place
      (front ++ newest :: spare))
    (serving : discipline.Serving config storage front newest spare log) {bytes : Content}
    (rewrites : storage.Rewrites after newest.node bytes) (stats : Stats) (records : List Record)
    (segment : Segment) (serves : Serves layout after newest segment)
    (active : discipline.Active newest.id (newest.bytes after) segment.size segment.poisoned
      records) :
    discipline.Serving config after front { newest with records } spare
      { log.withActive segment with stats } := by
  have formed : (log.withActive segment).Formed :=
    serving.formed.withActive (serves.id_eq.trans serving.serves.id_eq.symm)
      (serves.isOpen.trans serving.serves.isOpen.symm)
  refine ⟨formed.withStats stats, serving.config_eq, serving.sound, serving.layout_eq,
    serving.isOpen, ?_, ?_, ?_, ?_, serving.single, serving.lossy⟩
  · rw [Log.sealed_withActive]
    exact serving.sealed_rewrites catalog rewrites
  · rw [Log.active_withActive]
    exact serves.relabel records
  · rw [Log.active_withActive]
    exact active
  · intro file member
    rw [LogFile.bytes, rewrites.others_eq _ (catalog.node_ne_spare file member)]
    exact serving.blank file member

/-- An append records the payload, or fails and leaves the records as they
are. -/
theorem append_cases
    (catalog : Catalog config.directory config.fileExtension storage place
      (front ++ newest :: spare))
    (serving : discipline.Serving config storage front newest spare log)
    (unpoisoned : log.active.poisoned = false)
    (admits : storage.Clean ∨ discipline.Lossy) (payload : List UInt8) :
    ∃ result log' after records, log.append payload storage = (result, log', after) ∧
      Catalog config.directory config.fileExtension after place
        (front ++ { newest with records } :: spare) ∧
      discipline.Serving config after front { newest with records } spare log' ∧
      ((∃ cause, result = .error cause ∧ discipline.Lossy ∧ records = newest.records) ∨
        ∃ offset, result = .ok ⟨newest.id, offset⟩ ∧
          records = newest.records ++ [⟨offset, payload⟩]) := by
  have active := serving.active
  rw [unpoisoned] at active
  have complete := discipline.complete active
  rw [LogFile.bytes, Array.length_toList] at complete
  obtain ⟨middle, bytes, rewrites, outcome⟩ :=
    serving.serves.append_cases (catalog.inRange newest (by simp)) unpoisoned complete payload
  have serves := serving.serves.rewrites rewrites
  rcases outcome with ⟨bytes_eq, appended⟩ | ⟨part, cause, limited, bytes_eq, appended⟩
  · have written := discipline.write payload active
    rw [LogFile.bytes, ← bytes_eq, ← rewrites.bytes_eq] at written
    have catalogAfter := (catalog.rewrites rewrites).relabel
      (newest.records ++ [⟨layout.align log.active.size, payload⟩])
    have kept := serving.replace catalog rewrites (log.stats.recordWrite payload.length)
      (newest.records ++ [⟨layout.align log.active.size, payload⟩])
      { log.active with size := (layout.frame log.active.size payload).stop }
      ⟨serves.id_eq, serves.layout_eq, serves.isOpen, serves.nodeOf?_eq⟩
      (by rw [unpoisoned]; exact written)
    simp only [Log.append, appended]
    split
    · have keeps := Segment.keeps_sync
        { log.active with size := (layout.frame log.active.size payload).stop } middle
      exact ⟨_, _, _, _, rfl, catalogAfter.keeps keeps, (kept.keeps keeps).countSync _,
        .inr ⟨_, by rw [serving.serves.id_eq], rfl⟩⟩
    · exact ⟨_, _, _, _, rfl, catalogAfter, kept, .inr ⟨_, by rw [serving.serves.id_eq], rfl⟩⟩
  · have lossy : discipline.Lossy := admits.resolve_left fun clean => limited clean.unlimited
    have torn := discipline.tear part lossy active
    rw [LogFile.bytes, ← bytes_eq, ← rewrites.bytes_eq] at torn
    have kept := serving.replace catalog rewrites log.stats newest.records
      { log.active with poisoned := true }
      ⟨serves.id_eq, serves.layout_eq, serves.isOpen, serves.nodeOf?_eq⟩ torn
    refine ⟨.error cause, _, middle, newest.records, ?_, (catalog.rewrites rewrites).relabel _,
      kept, .inl ⟨cause, rfl, lossy, rfl⟩⟩
    simp only [Log.append, appended]
    rfl

/-- The next segment has the id behind that of the newest file. -/
theorem nextId_eq
    (catalog : Catalog config.directory config.fileExtension storage place
      (front ++ newest :: spare))
    (serving : discipline.Serving config storage front newest spare log) :
    log.nextId = ⟨(front ++ [newest]).length + 1⟩ := by
  rw [serving.formed.nextId_eq, serving.serves.id_eq, catalog.id_newest, SegmentId.next,
    List.length_append]
  rfl

/-- Another file is created, which keeps those that there are. -/
theorem creates
    (catalog : Catalog config.directory config.fileExtension storage place (front ++ [newest]))
    (serving : discipline.Serving config storage front newest [] log) {handle : Handle}
    (creates : storage.Creates after handle) :
    discipline.Serving config after front newest [] log := by
  have bytes_eq : ∀ file ∈ front ++ [newest], file.bytes after = file.bytes storage := by
    intro file member
    rw [LogFile.bytes, creates.bytes_eq _ (catalog.inRange file member), LogFile.bytes]
  refine { serving with
    sealed := ?_
    serves := serving.serves.creates creates
    active := ?_
    blank := by simp }
  · refine ((List.forall₂_and_left front log.sealed).mpr
      ⟨fun file member => bytes_eq file (List.mem_append_left _ member), serving.sealed⟩).imp ?_
    rintro file segment ⟨same, keeping⟩
    exact ⟨keeping.serves.creates creates, same ▸ keeping.sealed⟩
  · rw [bytes_eq newest (by simp)]
    exact serving.active

/-- A file that was created in vain is spare. -/
theorem spares (serving : discipline.Serving config storage front newest [] log)
    (lossy : discipline.Lossy) {file : LogFile} (empty : file.bytes storage = [])
    (unused : file.records = []) : discipline.Serving config storage front newest [file] log where
  __ := serving
  blank other member := by
    rw [List.mem_singleton.mp member]
    exact ⟨empty, unused⟩
  single := Nat.le_refl 1
  lossy _ := lossy

/-- The active segment is sealed, and a segment on a new file takes its place. -/
theorem sealing (serving : discipline.Serving config storage front newest [] log) (synced : Bool)
    {file : LogFile} {fresh : Segment} (id_eq : fresh.id = log.nextId)
    (serves : Serves layout storage file fresh)
    (active : discipline.Active file.id (file.bytes storage) fresh.size fresh.poisoned
      file.records) :
    discipline.Serving config storage (front ++ [newest]) file [] (log.sealing synced fresh) := by
  have counted := serving.countSync synced
  refine ⟨serving.formed.sealing synced id_eq (serves.isOpen.trans serving.isOpen.symm),
    counted.config_eq, counted.sound, counted.layout_eq, counted.isOpen, ?_, ?_, ?_, by simp,
    by simp, by simp⟩
  · rw [Log.sealed_sealing]
    exact List.rel_append serving.sealed
      (.cons ⟨serving.serves, discipline.retire serving.active⟩ .nil)
  · rwa [Log.active_sealing]
  · rwa [Log.active_sealing]

/-- A rotation fails where the next file is there already: none is created over it. -/
theorem rotate_of_spare {left : LogFile} {rest : List LogFile}
    (catalog : Catalog config.directory config.fileExtension storage place
      (front ++ newest :: left :: rest))
    (serving : discipline.Serving config storage front newest (left :: rest) log) :
    ∃ cause, log.rotate storage = (.error cause, log, storage) := by
  have nextId_eq := serving.nextId_eq catalog
  rw [List.append_cons] at catalog
  have found := catalog.findFile_eq (show left ∈ _ by simp)
  rw [catalog.id_newest] at found
  obtain ⟨cause, failed⟩ := Storage.createFile_of_findFile found
  exact ⟨.storage cause, by
    simp only [serving.formed.rotate_eq, Segment.create, serving.config_eq, nextId_eq, failed]⟩

/-- A rotation begins the next file, or fails. Then everything is as it was, or
the file is there all the same, and spare. -/
theorem rotate_cases
    (catalog : Catalog config.directory config.fileExtension storage place
      (front ++ newest :: spare))
    (serving : discipline.Serving config storage front newest spare log)
    (admits : storage.Clean ∨ discipline.Lossy) :
    (∃ cause after spare', log.rotate storage = (.error cause, log, after) ∧
      ((∃ path, storage.creationFault path ≠ none) ∨ discipline.Lossy) ∧
        Catalog config.directory config.fileExtension after place (front ++ newest :: spare') ∧
          discipline.Serving config after front newest spare' log ∧
            spare'.length ≤ spare.length + 1) ∨
      ∃ entry log' after file, log.rotate storage = (.ok entry, log', after) ∧
        after.toRefusals = storage.toRefusals ∧ file.records = [] ∧
          log'.active.poisoned = false ∧ spare = [] ∧
            Catalog config.directory config.fileExtension after place
              (front ++ [newest] ++ [file]) ∧
            discipline.Serving config after (front ++ [newest]) file [] log' := by
  cases spare with
  | cons left rest =>
      obtain ⟨cause, failed⟩ := serving.rotate_of_spare catalog
      exact .inl ⟨cause, storage, left :: rest, failed, .inr (serving.lossy (by simp)),
        catalog, serving, Nat.le_succ _⟩
  | nil =>
      have nextId_eq := serving.nextId_eq catalog
      rcases catalog.create_cases layout with ⟨cause, failed, uncreated⟩ |
        ⟨handle, middle, creates, catalogAfter, outcome⟩
      · refine .inl ⟨cause, storage, [], ?_, .inl ?_, catalog, serving, Nat.le_succ _⟩
        · simp only [serving.formed.rotate_eq, serving.config_eq, serving.layout_eq, nextId_eq,
            failed]
        · refine ⟨config.segmentPath ⟨(front ++ [newest]).length + 1⟩, fun healthy => ?_⟩
          obtain ⟨handle, after, created⟩ :=
            catalog.createFile_of_plain (catalog.plain (by simp)) healthy
          exact uncreated handle after created
      have kept := serving.creates catalog creates
      rcases outcome with ⟨cause, failed, fault⟩ | created
      · have lossy : discipline.Lossy :=
          admits.resolve_left fun clean => fault (clean.duplicates handle)
        refine .inl ⟨cause, middle, _, ?_, .inr lossy, by simpa using catalogAfter,
          kept.spares lossy (by rw [LogFile.bytes, creates.bytes_new]) rfl, Nat.le_refl 1⟩
        simp only [serving.formed.rotate_eq, serving.config_eq, serving.layout_eq, nextId_eq,
          failed]
      · have keeps := log.active.keeps_sync middle
        generalize fresh_eq : Segment.ofHandle
          (config.segmentPath ⟨(front ++ [newest]).length + 1⟩) ⟨(front ++ [newest]).length + 1⟩
          layout handle 0 = fresh at created
        have rotated : log.rotate storage =
            (.ok fresh.entry, log.sealing (log.active.sync middle).1 fresh,
              (log.active.sync middle).2) := by
          simp only [serving.formed.rotate_eq, serving.config_eq, serving.layout_eq, nextId_eq,
            created]
        refine .inr ⟨_, _, _, ⟨⟨(front ++ [newest]).length + 1⟩, storage.nodes.size, []⟩, rotated,
          ?_, rfl, ?_, rfl, catalogAfter.keeps keeps, (kept.keeps keeps).sealing _ ?_ ?_ ?_⟩
        · rw [Segment.toRefusals_sync, creates.toRefusals_eq]
        · rw [Log.active_sealing, ← fresh_eq]
          rfl
        · rw [nextId_eq, ← fresh_eq]
          rfl
        · rw [← fresh_eq]
          exact ⟨rfl, rfl, rfl, keeps.nodeOf?_eq creates.nodeOf?_new⟩
        · rw [← fresh_eq, bytes_of_keeps keeps, LogFile.bytes, creates.bytes_new]
          exact discipline.fresh

/-- What a write answers, and what is then true of the files. Unless something
may be lost it fails only on a payload that is too large, or where a file cannot
be created. -/
def Written (discipline : Discipline layout) (config : Config) (place : Place) (storage : Storage)
    (files : List LogFile) (payload : List UInt8)
    (outcome : Except Failure Position × Log × Storage) : Prop :=
  ∃ front newest spare,
    Catalog config.directory config.fileExtension outcome.2.2 place (front ++ newest :: spare) ∧
    discipline.Serving config outcome.2.2 front newest spare outcome.2.1 ∧
      (front ++ newest :: spare).length ≤ files.length + 1 ∧
        match outcome.1 with
        | .error _ =>
            (config.maxPayloadSize < payload.length ∨ (∃ path, storage.creationFault path ≠ none) ∨
                discipline.Lossy) ∧
              LogFile.allEntries (front ++ newest :: spare) = LogFile.allEntries files
        | .ok position =>
            LogFile.allEntries (front ++ newest :: spare) =
              LogFile.allEntries files ++ [(position, payload)]

/-- An append to the newest file, as part of a write. -/
theorem written_append
    (catalog : Catalog config.directory config.fileExtension storage place
      (front ++ newest :: spare))
    (serving : discipline.Serving config storage front newest spare log)
    (unpoisoned : log.active.poisoned = false)
    (admits : storage.Clean ∨ discipline.Lossy) (payload : List UInt8) {before : Storage}
    (short : (front ++ newest :: spare).length ≤ files.length + 1)
    (same : LogFile.allEntries (front ++ newest :: spare) = LogFile.allEntries files) :
    Written discipline config place before files payload (log.append payload storage) := by
  obtain ⟨result, final, after, records, appended, catalogFinal, servingFinal, outcome⟩ :=
    serving.append_cases catalog unpoisoned admits payload
  rw [appended]
  refine ⟨front, _, spare, catalogFinal, servingFinal, by simpa using short, ?_⟩
  rw [← same, serving.allEntries_eq, servingFinal.allEntries_eq]
  rcases outcome with ⟨cause, rfl, lossy, rfl⟩ | ⟨offset, rfl, rfl⟩
  · exact ⟨.inr (.inr lossy), rfl⟩
  · exact LogFile.allEntries_relabel front newest _

/-- A write records the payload, in the newest file or in a new one, or fails
and leaves the records as they are. -/
theorem written
    (catalog : Catalog config.directory config.fileExtension storage place
      (front ++ newest :: spare))
    (serving : discipline.Serving config storage front newest spare log)
    (admits : storage.Clean ∨ discipline.Lossy) (payload : List UInt8) :
    Written discipline config place storage (front ++ newest :: spare) payload
      (log.write payload storage) := by
  by_cases large : config.maxPayloadSize < payload.length
  · rw [serving.formed.write_eq, serving.config_eq, if_pos large]
    exact ⟨front, newest, spare, catalog, serving, Nat.le_succ _, .inl large, rfl⟩
  rw [serving.formed.write_eq, serving.config_eq, if_neg large, if_neg (by simp [serving.isOpen])]
  by_cases rotates : log.needsRotation payload = true
  · rw [if_pos rotates]
    rcases serving.rotate_cases catalog admits with
      ⟨cause, after, spare', failed, fault, catalogAfter, servingAfter, short⟩ |
      ⟨_, log', middle, file, rotated, refusals_eq, empty, unpoisoned, rfl, catalogAfter,
        servingAfter⟩
    · simp only [failed]
      refine ⟨front, newest, spare', catalogAfter, servingAfter, ?_, .inr fault, ?_⟩
      · simp only [List.length_append, List.length_cons]
        omega
      · rw [servingAfter.allEntries_eq, serving.allEntries_eq]
    · simp only [rotated]
      have unchanged : LogFile.allEntries (front ++ [newest] ++ [file]) =
          LogFile.allEntries (front ++ [newest]) := by
        rw [LogFile.allEntries_concat, LogFile.entries, empty, List.map_nil, List.append_nil]
      exact servingAfter.written_append catalogAfter unpoisoned (by rwa [refusals_eq]) payload
        (by simp) unchanged
  · rw [if_neg rotates]
    have unpoisoned : log.active.poisoned = false := by
      simp only [Log.needsRotation, Segment.isUsable, Bool.or_eq_true, not_or] at rotates
      simpa [serving.serves.isOpen] using rotates.1
    exact serving.written_append catalog unpoisoned admits payload (Nat.le_succ _) rfl

end Discipline.Serving

/-! ## Opening -/

/-- Settings without a fault have a layout. -/
theorem Config.exists_layout (sound : config.fault = none) :
    ∃ layout, Layout.ofBlockSize config.blockSize = .ok layout := by
  unfold Config.fault at sound
  split at sound
  · cases sound
  split at sound
  · cases sound
  split at sound
  · cases sound
  · rename_i inBounds
    unfold Layout.ofBlockSize
    rw [dif_pos (by omega)]
    exact ⟨_, rfl⟩

/-- Where nothing is missing, opening a log opens the segments that are found. -/
theorem Log.openDirectory_of_discover (sound : config.fault = none)
    (laidOut : Layout.ofBlockSize config.blockSize = .ok layout)
    (there : storage.createDirectory ⟨config.directory⟩ = (.ok (), storage))
    {ids : List SegmentId} (found : config.discover storage = .ok ids) :
    Log.openDirectory config storage = Log.openFound config layout ids storage := by
  simp only [Log.openDirectory, Config.validate, sound, laidOut, there, found]

/-- A log is opened over the segments that are discovered in its directory. -/
theorem Log.openDirectory_eq_ok (opened : Log.openDirectory config storage = (.ok log, after)) :
    ∃ layout middle ids, config.fault = none ∧
      Layout.ofBlockSize config.blockSize = .ok layout ∧
        storage.createDirectory ⟨config.directory⟩ = (.ok (), middle) ∧
          config.discover middle = .ok ids ∧
            Log.openFound config layout ids middle = (.ok log, after) := by
  unfold openDirectory at opened
  split at opened
  · cases opened
  rename_i validated
  split at opened
  · cases opened
  rename_i layout laidOut
  split at opened
  · cases opened
  rename_i middle created
  split at opened
  · cases opened
  rename_i ids discovered
  refine ⟨layout, middle, ids, ?_, laidOut, created, discovered, opened⟩
  unfold Config.validate at validated
  split at validated
  · cases validated
  · assumption

/-- A log that was opened is in good form. -/
theorem Log.formed_openDirectory (opened : Log.openDirectory config storage = (.ok log, after)) :
    log.Formed := by
  obtain ⟨layout, middle, ids, _, _, _, discovered, found⟩ := Log.openDirectory_eq_ok opened
  exact Log.formed_openFound (Config.ascending_of_discover discovered) found

/-- What opening a log answers, and what is then true of the files. Unless its
settings have a fault it fails only where a first file is to be created, or where
the storage refuses to have files opened and recovered. -/
def Discipline.Opened (discipline : Discipline layout) (config : Config) (place : Place)
    (storage : Storage) (files : List LogFile) (outcome : Except Failure Log × Storage) : Prop :=
  match outcome.1 with
  | .error _ =>
      (∃ files', Catalog config.directory config.fileExtension outcome.2 place files' ∧
        discipline.Stored outcome.2 files' ∧ files'.length ≤ files.length + 1 ∧
          LogFile.allEntries files' = LogFile.allEntries files) ∧
        (config.fault ≠ none ∨ files = [] ∨ ¬storage.Recovers)
  | .ok log =>
      ∃ front newest,
        Catalog config.directory config.fileExtension outcome.2 place (front ++ [newest]) ∧
          discipline.Serving config outcome.2 front newest [] log ∧
            (front ++ [newest]).length ≤ files.length + 1 ∧
              LogFile.allEntries (front ++ [newest]) = LogFile.allEntries files

/-- In an empty directory, opening a log begins it. -/
theorem Log.openDirectory_of_empty (sound : config.fault = none)
    (laidOut : Layout.ofBlockSize config.blockSize = .ok layout)
    (catalog : Catalog config.directory config.fileExtension storage place []) :
    Log.openDirectory config storage = Log.begin config layout storage := by
  rw [Log.openDirectory_of_discover sound laidOut catalog.createDirectory_eq
    (catalog.discover_eq (by decide)), Log.openFound, SegmentId.eraseDups_upTo]
  rfl

/-- The first opening creates the first file. -/
theorem Discipline.opened_begin (sound : config.fault = none)
    (catalog : Catalog config.directory config.fileExtension storage place []) :
    discipline.Opened config place storage [] (Log.begin config layout storage) := by
  rcases catalog.create_cases layout with ⟨cause, failed, _⟩ |
    ⟨handle, after, creates, catalogAfter, outcome⟩
  · rw [Log.begin_eq failed]
    exact ⟨⟨[], catalog, .inl rfl, Nat.le_succ _, rfl⟩, .inr (.inl rfl)⟩
  rw [List.nil_append] at catalogAfter
  have fresh : discipline.Active .first
      (LogFile.bytes ⟨.first, storage.nodes.size, []⟩ after) 0 false [] := by
    rw [LogFile.bytes, creates.bytes_new]
    exact discipline.fresh
  rcases outcome with ⟨cause, failed, _⟩ | created
  · rw [Log.begin_eq failed]
    exact ⟨⟨_, catalogAfter, .inr ⟨[], _, rfl, by simp, 0, false, fresh⟩, Nat.le_refl _, rfl⟩,
      .inr (.inl rfl)⟩
  · rw [Log.begin_eq created]
    refine ⟨[], _, catalogAfter, ⟨Log.formed_ofSegments_nil rfl, rfl,
      sound, rfl, rfl, ?_, ?_, ?_, by simp, by simp, by simp⟩, Nat.le_refl _, rfl⟩
    · rw [Log.sealed_ofSegments]
      exact .nil
    · rw [Log.active_ofSegments]
      exact ⟨rfl, rfl, rfl, creates.nodeOf?_new⟩
    · rw [Log.active_ofSegments]
      exact fresh

/-- A log was opened on files that were there: every segment sees the whole of
its file, and nothing was changed but the newest file, which was cut. -/
structure Log.Resumes (config : Config) (layout : Layout) (storage : Storage)
    (front : List LogFile) (newest : LogFile) (last : Nat) (log : Log) (after : Storage) :
    Prop where
  formed : log.Formed
  config_eq : log.config = config
  layout_eq : log.layout = layout
  isOpen : log.closed = false
  sealed : List.Forall₂ (Opens layout after) front log.sealed
  active : Opens layout after newest log.active
  entries_eq : after.entries = storage.entries
  size_eq : after.nodes.size = storage.nodes.size
  bytes_eq : ∀ file ∈ front, file.bytes after = file.bytes storage
  newest_eq : newest.bytes after = (newest.bytes storage).take last

/-- Segments have the ids of the files that they are on. -/
theorem Segment.ids_of_forall₂ {segments : List Segment}
    (related : List.Forall₂ (Serves layout storage) files segments) :
    segments.map Segment.id = files.map LogFile.id := by
  induction related with
  | nil => rfl
  | cons here _ ih => rw [List.map_cons, List.map_cons, here.id_eq, ih]

/-- Continuing a log cuts its newest file where a survey of it ends. It fails
where the length of the file cannot be set or synced. -/
theorem Log.resume_cases
    (catalog : Catalog config.directory config.fileExtension storage place (front ++ [newest]))
    {sealed : List Segment} {active : Segment}
    (opensSealed : List.Forall₂ (Opens layout storage) front sealed)
    (opensActive : Opens layout storage newest active)
    {last : Nat} {regions ending : List Region}
    (way : Image.Passes (.ofBytes layout (newest.bytes storage)) 0 last regions)
    (ends : Image.Ends (.ofBytes layout (newest.bytes storage)) last ending) :
    ∃ after bytes, storage.Rewrites after newest.node bytes ∧
      ((∃ cause, Log.resume config layout sealed active storage = (.error cause, after) ∧
          ¬storage.Truncates ∧ (bytes.toList = newest.bytes storage ∨
            bytes.toList = (newest.bytes storage).take last)) ∨
        ∃ log, Log.resume config layout sealed active storage = (.ok log, after) ∧
          Log.Resumes config layout storage front newest last log after) := by
  obtain ⟨segment, after, bytes, rewrites, outcome⟩ :=
    opensActive.recover_cases (catalog.inRange newest (by simp)) way ends
  have others_eq (file : LogFile) (member : file ∈ front) :
      after.nodeBytes file.node = storage.nodeBytes file.node :=
    rewrites.others_eq file.node (catalog.node_ne_newest file member)
  rcases outcome with ⟨cause, failed, untruncated, left⟩ |
    ⟨bytes_eq, serves, unpoisoned, size_eq, recovered⟩
  · refine ⟨(Table.closeAll ((sealed ++ [segment]).map Segment.entry) after).2.2, bytes,
      rewrites.keeps (Table.keeps_closeAll _ _), .inl ⟨cause, ?_, untruncated, ?_⟩⟩
    · simp only [Log.resume, failed]
    · exact left.imp_left fun same => by rw [same, LogFile.bytes]
  · refine ⟨after, bytes, rewrites, .inr ⟨.ofSegments config layout sealed segment, ?_, ?_, rfl, rfl,
      rfl, ?_, ?_, rewrites.entries_eq, rewrites.size_eq, ?_, ?_⟩⟩
    · simp only [Log.resume, recovered]
    · have related : List.Forall₂ (Serves layout after) (front ++ [newest]) (sealed ++ [segment]) :=
        List.rel_append (opensSealed.imp fun _ _ opens => opens.toServes.rewrites rewrites)
          (.cons serves .nil)
      refine Log.formed_ofSegments ?_ fun other member => ?_
      · rw [Segment.ids_of_forall₂ related, catalog.ids_eq]
        exact SegmentId.pairwise_upTo _
      · obtain ⟨_, _, servesOther⟩ := exists_of_forall₂_of_mem related member
        exact servesOther.isOpen
    · rw [Log.sealed_ofSegments]
      apply ((List.forall₂_and_left front sealed).mpr ⟨others_eq, opensSealed⟩).imp
      rintro file segment ⟨same, opens⟩
      exact ⟨opens.toServes.rewrites rewrites, opens.poisoned_eq, by rw [same, opens.size_eq]⟩
    · rw [Log.active_ofSegments]
      exact ⟨serves, unpoisoned, by rw [rewrites.bytes_eq]; exact size_eq⟩
    · intro file member
      rw [LogFile.bytes, others_eq file member, LogFile.bytes]
    · rw [LogFile.bytes, rewrites.bytes_eq, bytes_eq, LogFile.bytes]

/-- What is related to a list with a last element has a last element too. -/
theorem exists_concat_of_forall₂ {α β : Type} {R : α → β → Prop} {front : List α} {last : α}
    {others : List β} (related : List.Forall₂ R (front ++ [last]) others) :
    ∃ start final, others = start ++ [final] ∧ List.Forall₂ R front start ∧ R last final := by
  induction front generalizing others with
  | nil =>
      cases related with
      | cons here rest =>
          cases rest
          exact ⟨[], _, rfl, .nil, here⟩
  | cons first rest ih =>
      cases related with
      | cons here later =>
          obtain ⟨start, final, rfl, relatedFront, relatedLast⟩ := ih later
          exact ⟨_ :: start, final, rfl, .cons here relatedFront, relatedLast⟩

/-- Opening a log that has files recovers the newest of them. It fails where the
storage refuses to have them opened and recovered, and cuts the newest then at
the most. -/
theorem Log.openDirectory_cases (sound : config.fault = none)
    (laidOut : Layout.ofBlockSize config.blockSize = .ok layout)
    (catalog : Catalog config.directory config.fileExtension storage place (front ++ [newest]))
    (bounded : (front ++ [newest]).length < SegmentId.bound)
    {last : Nat} {regions ending : List Region}
    (way : Image.Passes (.ofBytes layout (newest.bytes storage)) 0 last regions)
    (ends : Image.Ends (.ofBytes layout (newest.bytes storage)) last ending) :
    ∃ after bytes, storage.Rewrites after newest.node bytes ∧
      ((∃ cause, Log.openDirectory config storage = (.error cause, after) ∧
          ¬storage.Recovers ∧ (bytes.toList = newest.bytes storage ∨
            bytes.toList = (newest.bytes storage).take last)) ∨
        ∃ log, Log.openDirectory config storage = (.ok log, after) ∧
          Log.Resumes config layout storage front newest last log after) := by
  have ascending := SegmentId.pairwise_upTo (front ++ [newest]).length
  rw [← SegmentId.eraseDups_upTo] at ascending
  rw [Log.openDirectory_of_discover sound laidOut catalog.createDirectory_eq
    (catalog.discover_eq bounded), Log.openFound_eq ascending, SegmentId.eraseDups_upTo,
    ← catalog.ids_eq]
  obtain ⟨middle, keeps, refusals_eq, opening⟩ :=
    Segment.openAll_cases layout catalog (List.Subset.refl (front ++ [newest]))
  rcases opening with ⟨cause, failed, unduplicated⟩ | ⟨segments, opened, opens⟩
  · refine ⟨middle, _, keeps.rewrites newest.node, .inl ⟨cause, ?_, ?_, .inl rfl⟩⟩
    · simp only [failed]
    · exact fun recovers => unduplicated recovers.duplicates
  obtain ⟨sealed, active, rfl, opensSealed, opensActive⟩ := exists_concat_of_forall₂ opens
  have bytes_eq := Discipline.bytes_of_keeps keeps newest
  rw [← bytes_eq] at way ends
  obtain ⟨after, bytes, rewrites, outcome⟩ :=
    Log.resume_cases (catalog.keeps keeps) opensSealed opensActive way ends
  simp only [opened, List.getLast?_concat, List.dropLast_concat]
  refine ⟨after, bytes, keeps.then rewrites, ?_⟩
  rcases outcome with ⟨cause, failed, untruncated, left⟩ | ⟨log, resumed, resumes⟩
  · rw [bytes_eq] at left
    refine .inl ⟨cause, failed, fun recovers => untruncated ?_, left⟩
    rw [refusals_eq]
    exact recovers.toTruncates
  · refine .inr ⟨log, resumed, resumes.formed, resumes.config_eq, resumes.layout_eq, resumes.isOpen,
      resumes.sealed, resumes.active, resumes.entries_eq.trans keeps.entries_eq,
      resumes.size_eq.trans keeps.size_eq, ?_, ?_⟩
    · intro file member
      rw [resumes.bytes_eq file member, Discipline.bytes_of_keeps keeps]
    · rw [resumes.newest_eq, bytes_eq]

/-- A log that was opened again serves its files, if recovery left the newest of
them in order. -/
theorem Log.Resumes.serving {last : Nat} (sound : config.fault = none)
    (resumes : Log.Resumes config layout storage front newest last log after)
    (sealed : ∀ file ∈ front, ∃ size poisoned,
      discipline.Sealed file.id (file.bytes storage) size poisoned file.records)
    (active : discipline.Active newest.id ((newest.bytes storage).take last)
      ((newest.bytes storage).take last).length false newest.records) :
    discipline.Serving config after front newest [] log := by
  refine ⟨resumes.formed, resumes.config_eq, sound, resumes.layout_eq, resumes.isOpen, ?_,
    resumes.active.toServes,
    ?_, by simp, by simp, by simp⟩
  · apply ((List.forall₂_and_left front log.sealed).mpr
      ⟨fun file member => And.intro (resumes.bytes_eq file member) (sealed file member),
        resumes.sealed⟩).imp
    rintro file segment ⟨⟨bytes_eq, size, poisoned, held⟩, opens⟩
    refine ⟨opens.toServes, ?_⟩
    rw [← bytes_eq] at held
    rw [opens.size_eq, opens.poisoned_eq, ← Array.length_toList]
    exact discipline.resume held
  · rw [resumes.active.size_eq, resumes.active.poisoned_eq, ← Array.length_toList]
    rw [← resumes.newest_eq] at active
    exact active

/-- Files stay stored when the newest is left as it is, or cut where a recovery
cuts it. -/
theorem Discipline.stored_of_rewrites
    (catalog : Catalog config.directory config.fileExtension storage place (front ++ [newest]))
    (sealed : ∀ file ∈ front, ∃ size poisoned,
      discipline.Sealed file.id (file.bytes storage) size poisoned file.records)
    {bytes : Content} (rewrites : storage.Rewrites after newest.node bytes)
    (active : ∃ size poisoned,
      discipline.Active newest.id bytes.toList size poisoned newest.records) :
    discipline.Stored after (front ++ [newest]) := by
  refine .inr ⟨front, newest, rfl, ?_, ?_⟩
  · intro file member
    rw [LogFile.bytes, rewrites.others_eq file.node (catalog.node_ne_newest file member)]
    exact sealed file member
  · rwa [LogFile.bytes, rewrites.bytes_eq]

/-- Opening a log upholds its discipline. -/
theorem Discipline.opened
    (catalog : Catalog config.directory config.fileExtension storage place files)
    (stored : discipline.Stored storage files) (bounded : files.length < SegmentId.bound)
    (geometry : ∀ other, Layout.ofBlockSize config.blockSize = .ok other → other = layout)
    (clear : Layout.ofBlockSize config.blockSize = .ok layout → ∀ newest ∈ files.getLast?,
      discipline.Clear newest.id (newest.bytes storage) newest.records) :
    discipline.Opened config place storage files (Log.openDirectory config storage) := by
  cases fault : config.fault with
  | some cause =>
      rw [Log.openDirectory, Config.validate, fault]
      exact ⟨⟨files, catalog, stored, Nat.le_succ _, rfl⟩, .inl (by simp [fault])⟩
  | none =>
      obtain ⟨other, laidOut⟩ := config.exists_layout fault
      cases geometry other laidOut
      rcases stored with rfl | ⟨front, newest, rfl, sealed, size, poisoned, active⟩
      · rw [Log.openDirectory_of_empty fault laidOut catalog]
        exact Discipline.opened_begin fault catalog
      · obtain ⟨last, regions, ending, way, ends, recovered⟩ :=
          discipline.recover active (clear laidOut newest (by simp))
        obtain ⟨after, bytes, rewrites, outcome⟩ :=
          Log.openDirectory_cases fault laidOut catalog bounded way ends
        rcases outcome with ⟨cause, failed, refused, left⟩ | ⟨log, opened, resumes⟩
        · rw [failed]
          refine ⟨⟨_, catalog.rewrites rewrites,
            stored_of_rewrites catalog sealed rewrites ?_, Nat.le_succ _, rfl⟩, .inr (.inr refused)⟩
          rcases left with same | cut
          · exact ⟨size, poisoned, same ▸ active⟩
          · exact ⟨_, false, cut ▸ recovered⟩
        · rw [opened]
          exact ⟨front, newest, catalog.rewrites rewrites, resumes.serving fault sealed recovered,
            Nat.le_succ _, rfl⟩

end RecordLog
