import RecordLog.Proofs.Discovering

/-!
# Names in the way of new segments

A log passes over what it does not take for a segment: other files, directories
under any name, and files that are not regular. Its next segment gets the id after
the newest one, and its file must not exist yet. So a write that goes on in a new
segment fails where something stands under the name of that segment's file, or where
the storage refuses the name. What stands there is known when the log has been
opened: no segment that is begun later takes the name of another one. A regular file
under such a name would have been discovered, so only what is none can be in the way.
-/

namespace RecordLog

namespace Storage

variable {storage after : Storage} {path : Path}

/-! ## Places of paths -/

/-- Following components leads where they say. -/
theorem eq_foldl_of_walk {start target : Place} {components : List String}
    (walked : storage.walk start components = .ok target) :
    target = components.foldl stepInto start := by
  induction components generalizing start with
  | nil =>
      cases walked
      rfl
  | cons component rest ih => exact ih (walk_cons_eq_ok_iff.mp walked).2

/-- Steps from a name in a directory lead to a place below that name, or to one
that does not depend on it. -/
theorem foldl_stepInto_cases (base : Place) (steps : List String) :
    (∃ inner, ∀ name, steps.foldl stepInto (base ++ [name]) = base ++ name :: inner) ∨
      ∃ place, ∀ name, steps.foldl stepInto (base ++ [name]) = place := by
  have below (inner : Place) :
      (∃ deeper, ∀ name, steps.foldl stepInto (base ++ name :: inner) = base ++ name :: deeper) ∨
        ∃ place, ∀ name, steps.foldl stepInto (base ++ name :: inner) = place := by
    induction steps generalizing inner with
    | nil => exact .inl ⟨inner, fun _ => rfl⟩
    | cons step steps ih =>
        simp only [List.foldl_cons, stepInto]
        by_cases dot : step = "."
        · simp only [if_pos dot]
          exact ih inner
        by_cases dots : step = ".."
        · simp only [if_neg dot, if_pos dots]
          cases inner with
          | nil => exact .inr ⟨steps.foldl stepInto base, fun name => by rw [List.dropLast_concat]⟩
          | cons first rest =>
              have up (name : FileName) : (base ++ name :: first :: rest).dropLast =
                  base ++ name :: (first :: rest).dropLast := by
                rw [List.dropLast_append_of_ne_nil (List.cons_ne_nil _ _), List.dropLast_cons_cons]
              simp only [up]
              exact ih _
        · simp only [if_neg dot, if_neg dots, List.append_assoc, List.cons_append]
          exact ih _
  exact below []

end Storage

namespace Config

variable {config : Config}

/-- The path of a segment goes through its directory to the name that the id has
under the first part of the extension, and from there on alike for every id. -/
theorem exists_components_segmentPath (config : Config) :
    ∃ extension steps, ∀ id, (config.segmentPath id).components =
      (⟨config.directory⟩ : Path).components ++ SegmentId.fileName id extension :: steps := by
  by_cases slash : '/' ∈ config.fileExtension.toList
  · rcases List.eq_append_cons_of_mem slash with ⟨front, back, extension_eq, plain⟩
    refine ⟨String.ofList front, (⟨String.ofList back⟩ : Path).components, fun id => ?_⟩
    have first_eq : (id.fileName (String.ofList front)).toList =
        Nat.toDigits 10 id.number ++ front := by
      rw [SegmentId.toList_fileName, String.toList_ofList]
    have plainFirst : '/' ∉ (id.fileName (String.ofList front)).toList :=
      id.slash_not_mem_fileName (by rwa [String.toList_ofList])
    have nonempty := (id.fileName_ne (String.ofList front)).1
    have name_eq : (id.fileName config.fileExtension).toList =
        (id.fileName (String.ofList front)).toList ++ '/' :: back := by
      rw [first_eq, SegmentId.toList_fileName, extension_eq, List.append_assoc]
    rw [segmentPath, Path.components_join,
      Path.components_eq_cons name_eq plainFirst (by simpa using nonempty), String.ofList_toList]
  · refine ⟨config.fileExtension, [], fun id => ?_⟩
    rw [segmentPath, Path.components_join, Path.components_eq_singleton
      (id.fileName_ne config.fileExtension).1 (id.slash_not_mem_fileName slash)]

/-- Where the paths of two segments lead to the same place, those of all segments
lead there. -/
theorem place_eq_of_same {storage : Storage} {first second other : SegmentId}
    (differ : first ≠ second) {place elsewhere : Place}
    (leadsFirst : storage.resolve (config.segmentPath first) = .ok place)
    (leadsSecond : storage.resolve (config.segmentPath second) = .ok place)
    (leadsOther : storage.resolve (config.segmentPath other) = .ok elsewhere) :
    elsewhere = place := by
  rcases config.exists_components_segmentPath with ⟨extension, steps, components_eq⟩
  have leads {id : SegmentId} {target : Place}
      (resolved : storage.resolve (config.segmentPath id) = .ok target) :
      target = steps.foldl Storage.stepInto
        ((⟨config.directory⟩ : Path).components.foldl Storage.stepInto [] ++
          [.text (id.fileName extension)]) := by
    rcases id.fileName_ne extension with ⟨-, notDot, notDots⟩
    rw [Storage.eq_foldl_of_walk (Storage.walk_of_resolve resolved), components_eq,
      List.foldl_append, List.foldl_cons, Storage.stepInto.eq_1 _ (id.fileName extension),
      if_neg notDot, if_neg notDots]
  have firstPlace := leads leadsFirst
  have secondPlace := leads leadsSecond
  have otherPlace := leads leadsOther
  rcases Storage.foldl_stepInto_cases
      ((⟨config.directory⟩ : Path).components.foldl Storage.stepInto []) steps with
    ⟨inner, below⟩ | ⟨common, apart⟩
  · rw [below] at firstPlace secondPlace
    have same := List.append_cancel_left (firstPlace.symm.trans secondPlace)
    simp only [List.cons.injEq, FileName.text.injEq, and_true] at same
    exact absurd (SegmentId.fileName_inj same) differ
  · rw [otherPlace, firstPlace, apart, apart]

end Config

/-! ## Vacant paths -/

namespace Storage

variable {storage after : Storage} {path : Path}

/-- A path leads to where nothing stands, and asks for no directory. -/
def Vacant (storage : Storage) (path : Path) : Prop :=
  path.endsWithDots = false ∧ path.endsWithSlash = false ∧
    ∃ place, storage.resolve path = .ok place ∧ storage.entryAt place = none

theorem vacant_congr (entries_eq : after.entries = storage.entries) :
    after.Vacant path ↔ storage.Vacant path := by
  simp only [Vacant, resolve_congr entries_eq, entryAt_congr entries_eq]

/-- Files are created under vacant paths that the storage does not refuse. -/
theorem exists_createFile_iff :
    (∃ handle after, storage.createFile path = (.ok handle, after)) ↔
      storage.Vacant path ∧ storage.creationFault path = none := by
  constructor
  · rintro ⟨handle, after, created⟩
    rcases storage.createFile_cases path with
      ⟨cause, failed⟩ | ⟨place, resolved, noDots, noSlash, nothing, -⟩
    · rw [failed] at created
      cases created
    refine ⟨⟨noDots, noSlash, place, resolved, nothing⟩, ?_⟩
    simp only [createFile, resolved, noDots, noSlash, nothing, Bool.false_eq_true, if_false]
      at created
    split at created
    · cases created
    · assumption
  · rintro ⟨⟨noDots, noSlash, place, resolved, nothing⟩, admitted⟩
    simp only [createFile, resolved, noDots, noSlash, nothing, admitted, Bool.false_eq_true,
      if_false]
    exact ⟨_, _, rfl⟩

theorem entryAt_addFile (storage : Storage) (place target : Place) :
    (storage.addFile place).entryAt target =
      (storage.entryAt target).or
        (if target = place then some (.regular storage.nodes.size) else none) := by
  simp only [entryAt, addFile, addEntry, List.lookup_append, List.lookup_cons, List.lookup_nil]
  by_cases same : target = place
  · simp [same]
  · have differs : (target == place) = false := beq_eq_false_iff_ne.mpr same
    simp [same, differs]

/-- Creating a file leads no path elsewhere and changes what stands at no other
place. -/
theorem kept_createFile {place : Place} {handle : Handle}
    (resolved : storage.resolve path = .ok place)
    (created : storage.createFile path = (.ok handle, after)) :
    (∀ {other target}, storage.resolve other = .ok target → after.resolve other = .ok target) ∧
      ∀ {target}, target ≠ place → after.entryAt target = storage.entryAt target := by
  rcases storage.createFile_cases path with ⟨cause, failed⟩ | ⟨_, leads, -, -, -, succeeded⟩
  · rw [failed] at created
    cases created
  rw [resolved] at leads
  cases leads
  rw [succeeded] at created
  cases created
  have entries_eq := ((storage.addFile place).keeps_openNode storage.nodes.size).entries_eq
  constructor
  · intro other target leads
    rw [resolve_congr entries_eq]
    exact resolve_addFile leads
  · intro target apart
    rw [entryAt_congr entries_eq, entryAt_addFile, if_neg apart, Option.or_none]

/-- A new file opens no way. -/
theorem walk_of_walk_addFile {place start target : Place} {components : List String}
    (walked : (storage.addFile place).walk start components = .ok target) :
    storage.walk start components = .ok target := by
  induction components generalizing start with
  | nil => exact walked
  | cons component rest ih =>
      rcases walk_cons_eq_ok_iff.mp walked with ⟨isDirectory, onward⟩
      apply walk_cons_eq_ok_iff.mpr
      constructor
      · rw [entryAt_addFile] at isDirectory
        cases standing : storage.entryAt start with
        | some entry => rwa [standing, Option.some_or] at isDirectory
        | none =>
            rw [standing, Option.none_or] at isDirectory
            split at isDirectory <;> cases isDirectory
      · exact ih onward

/-- With a new file, a path is vacant as before unless it leads to the file. -/
theorem vacant_addFile_iff {place : Place} (leads : storage.resolve path ≠ .ok place) :
    (storage.addFile place).Vacant path ↔ storage.Vacant path := by
  apply and_congr_right
  intro _
  apply and_congr_right
  intro _
  constructor
  · rintro ⟨target, resolved, nothing⟩
    have before : storage.resolve path = .ok target := by
      unfold resolve at resolved ⊢
      split at resolved
      · cases resolved
      · rename_i named
        rw [if_neg named]
        exact walk_of_walk_addFile resolved
    rw [entryAt_addFile, Option.or_eq_none_iff] at nothing
    exact ⟨target, before, nothing.1⟩
  · rintro ⟨target, resolved, nothing⟩
    have apart : target ≠ place := by
      rintro rfl
      exact leads resolved
    refine ⟨target, resolve_addFile resolved, ?_⟩
    rw [entryAt_addFile, nothing, if_neg apart]
    rfl

end Storage

/-! ## Segments still to come -/

/-- The files of segments still to come can be created exactly if they could be
at an earlier time; and the file of the newest segment is there. -/
structure Config.Foresees (config : Config) (earlier storage : Storage) (newest : SegmentId) :
    Prop where
  vacant_iff : ∀ id, newest.number < id.number →
    (storage.Vacant (config.segmentPath id) ↔ earlier.Vacant (config.segmentPath id))
  present : ∃ node, storage.findFile (config.segmentPath newest) = .ok node

namespace Config.Foresees

variable {config : Config} {earlier storage after : Storage} {newest : SegmentId}

theorem congr (foresees : config.Foresees earlier storage newest)
    (entries_eq : after.entries = storage.entries) : config.Foresees earlier after newest := by
  constructor
  · intro id later
    rw [Storage.vacant_congr entries_eq]
    exact foresees.vacant_iff id later
  · rcases foresees.present with ⟨node, found⟩
    exact ⟨node, by rw [Storage.findFile_congr entries_eq, found]⟩

/-- The file of the next segment is in the way of no other one. -/
theorem createFile (foresees : config.Foresees earlier storage newest) {handle : Handle}
    (created : storage.createFile (config.segmentPath newest.next) = (.ok handle, after)) :
    config.Foresees earlier after newest.next := by
  have present := (Storage.findFile_createFile created).1
  rcases storage.createFile_cases (config.segmentPath newest.next) with
    ⟨cause, failed⟩ | ⟨place, leads, -, -, nothing, succeeded⟩
  · rw [failed] at created
    cases created
  rw [succeeded] at created
  cases created
  constructor
  · intro id later
    have apart : storage.resolve (config.segmentPath id) ≠ .ok place := by
      intro same
      -- then the file of the newest segment would stand there too
      have differ : newest.next ≠ id := by
        rintro rfl
        exact Nat.lt_irrefl _ later
      rcases foresees.present with ⟨node, found⟩
      rcases Storage.findFile_eq_ok_iff.mp found with ⟨elsewhere, _, resolved, stands, -⟩
      rw [Config.place_eq_of_same differ leads same resolved, nothing] at stands
      cases stands
    have entries_eq := ((storage.addFile place).keeps_openNode storage.nodes.size).entries_eq
    rw [Storage.vacant_congr entries_eq, Storage.vacant_addFile_iff apart]
    exact foresees.vacant_iff id (Nat.lt_trans (Nat.lt_succ_self newest.number) later)
  · exact ⟨_, present⟩

end Config.Foresees

/-! ## Logs -/

namespace Segment

/-- Appending gives and takes no names. -/
theorem entries_append (segment : Segment) (payload : List UInt8) (storage : Storage) :
    (segment.append payload storage).2.2.entries = storage.entries := by
  have kept := storage.entries_write segment.handle segment.size
    (segment.layout.frame segment.size payload).bytes
  unfold append
  split
  · rfl
  simp only
  split <;>
    · rename_i written
      rw [written] at kept
      exact kept

/-- A usable segment takes every payload if the storage is not limited. -/
theorem append_of_unlimited {segment : Segment} {storage : Storage}
    (usable : segment.isUsable = true) (unlimited : storage.growthLimit = none)
    (payload : List UInt8) :
    ∃ offset, (segment.append payload storage).1 = .ok offset := by
  have taken (data : List UInt8) :
      (storage.write segment.handle segment.size data).1 = .ok () := by
    simp [Storage.write, Storage.admitted, unlimited]
  have taken := taken (segment.layout.frame segment.size payload).bytes
  simp only [append, usageFault_eq_none usable]
  split
  · exact ⟨_, rfl⟩
  · rename_i failed
    rw [failed] at taken
    cases taken

/-- Where handles can be duplicated, a segment is created with its file, or nothing
is. -/
theorem create_of_duplicates {storage : Storage} (duplicates : storage.Duplicates) (path : Path)
    (id : SegmentId) (layout : Layout) :
    (∃ cause, create path id layout storage = (.error (.storage cause), storage)) ∨
      ∃ handle created, storage.createFile path = (.ok handle, created) ∧
        created.toRefusals = storage.toRefusals ∧
          create path id layout storage = (.ok (ofHandle path id layout handle 0), created) := by
  rcases create_cases path id layout storage with
    failed | ⟨handle, created, -, adds, -, ⟨-, -, fault⟩ | succeeded⟩
  · exact .inl failed
  · exact absurd (duplicates handle) fault
  · rcases create_eq_ok succeeded with ⟨opened, made, same⟩
    cases same
    exact .inr ⟨_, created, made, adds.toRefusals_eq, succeeded⟩

/-- Where handles can be duplicated, segments are created under the paths that files
can be created under. -/
theorem exists_create_iff {path : Path} {id : SegmentId} {layout : Layout} {storage : Storage}
    (duplicates : storage.Duplicates) :
    (∃ segment created, create path id layout storage = (.ok segment, created)) ↔
      storage.Vacant path ∧ storage.creationFault path = none := by
  rw [← Storage.exists_createFile_iff]
  constructor
  · rintro ⟨segment, created, creates⟩
    rcases create_eq_ok creates with ⟨handle, made, -⟩
    exact ⟨handle, created, made⟩
  · rintro ⟨handle, created, made⟩
    rcases create_of_duplicates duplicates path id layout with
      ⟨cause, failed⟩ | ⟨_, _, -, -, succeeded⟩
    · rw [create, made] at failed
      simp only [attach] at failed
      rw [(storage.findFile_createFile made).2.toRefusals_eq, duplicates handle] at failed
      cases failed
    · exact ⟨_, _, succeeded⟩

end Segment

namespace Log

variable {config : Config} {layout : Layout} {earlier storage after : Storage} {log : Log}
  {oldest : SegmentId} {payload : List UInt8}

theorem entries_append (log : Log) (payload : List UInt8) (storage : Storage) :
    (log.append payload storage).2.2.entries = storage.entries := by
  have kept := log.active.entries_append payload storage
  unfold append
  split
  · rename_i outcome
    rw [outcome] at kept
    exact kept
  · rename_i offset active middle outcome
    rw [outcome] at kept
    simp only
    split
    · exact (active.keeps_sync middle).entries_eq.trans kept
    · exact kept

/-- A log in good form has not gone back behind a segment, and the segments to come
are as they were foreseen. -/
structure Foresees (log : Log) (config : Config) (earlier storage : Storage)
    (oldest : SegmentId) : Prop where
  formed : log.Formed
  config_eq : log.config = config
  oldest_le : oldest.number ≤ log.active.id.number
  ahead : config.Foresees earlier storage log.active.id

namespace Foresees

/-- What keeps the settings, the newest id and the names keeps what is foreseen. -/
theorem transfer (foresees : log.Foresees config earlier storage oldest) {again : Log}
    (formed : again.Formed) (config_eq : again.config = log.config)
    (id_eq : again.active.id = log.active.id) (entries_eq : after.entries = storage.entries) :
    again.Foresees config earlier after oldest where
  formed := formed
  config_eq := config_eq.trans foresees.config_eq
  oldest_le := by
    rw [id_eq]
    exact foresees.oldest_le
  ahead := by
    rw [id_eq]
    exact foresees.ahead.congr entries_eq

theorem append (foresees : log.Foresees config earlier storage oldest) (payload : List UInt8) :
    (log.append payload storage).2.1.Foresees config earlier (log.append payload storage).2.2
      oldest := by
  rcases log.exists_append_eq payload storage with ⟨size, poisoned, stats, again_eq⟩
  apply foresees.transfer (foresees.formed.append payload storage)
  · rw [again_eq]
    rfl
  · rw [again_eq, active_withActive]
  · exact log.entries_append payload storage

/-- A write keeps what is foreseen, also where it begins a segment, if handles can be
duplicated. -/
theorem write (foresees : log.Foresees config earlier storage oldest)
    (duplicates : storage.Duplicates) (payload : List UInt8) :
    (log.write payload storage).2.1.Foresees config earlier (log.write payload storage).2.2
      oldest := by
  generalize outcome : log.write payload storage = result
  have formed := foresees.formed
  have way := writes (fun _ => formed) payload storage
  rw [outcome] at way
  cases way with
  | refused cause => exact foresees
  | strands _ _ _ _ _ _ fault => exact absurd (duplicates _) fault
  | stays => exact foresees.append payload
  | @rotates handle created isOpen small full creates rotated =>
      apply Foresees.append
      rcases Segment.create_eq_ok creates with ⟨opened, createdFile, -⟩
      rw [foresees.config_eq] at createdFile
      have synced := (log.active.keeps_sync created).entries_eq
      have ahead := foresees.ahead
      have oldest_le := foresees.oldest_le
      constructor
      · exact formed.sealing _ rfl isOpen.symm
      · rw [← foresees.config_eq]
        cases (log.active.sync created).1 <;> rfl
      · rw [active_sealing]
        change oldest.number ≤ log.nextId.number
        rw [formed.nextId_eq]
        exact Nat.le_succ_of_le oldest_le
      · rw [active_sealing]
        change config.Foresees earlier _ log.nextId
        rw [formed.nextId_eq] at createdFile ⊢
        exact (ahead.createFile createdFile).congr synced

theorem sync (foresees : log.Foresees config earlier storage oldest) :
    (log.sync storage).2.1.Foresees config earlier (log.sync storage).2.2 oldest := by
  rcases log.exists_sync_eq storage with ⟨stats, again_eq⟩
  apply foresees.transfer (foresees.formed.sync storage)
  · rw [again_eq]
  · rw [again_eq]
    rfl
  · exact (log.keeps_sync storage).entries_eq

theorem close (foresees : log.Foresees config earlier storage oldest) :
    (log.close storage).2.1.Foresees config earlier (log.close storage).2.2 oldest := by
  apply foresees.transfer (foresees.formed.close storage)
  · rw [log.close_eq]
    split <;> rfl
  · have id_eq : log.shut.active.id = log.active.shut.id :=
      congrArg Segment.id foresees.formed.active_shut
    rw [log.close_eq]
    split
    · rfl
    · exact id_eq
  · exact (log.keeps_close storage).entries_eq

end Foresees

/-! ### One write -/

/-- A log with a usable segment takes every payload if the storage is not limited. -/
theorem append_of_unlimited (usable : log.active.isUsable = true)
    (unlimited : storage.growthLimit = none) (payload : List UInt8) :
    ∃ position, (log.append payload storage).1 = .ok position := by
  rcases Segment.append_of_unlimited usable unlimited payload with ⟨offset, done⟩
  unfold append
  split
  · rename_i outcome
    rw [outcome] at done
    cases done
  · simp only
    split <;> exact ⟨_, rfl⟩

/-- An open log takes every payload that is not too large if the storage is not
limited and the segment it may have to begin can be created. -/
theorem Formed.exists_write_of_creates (formed : log.Formed) (isOpen : log.closed = false)
    (small : payload.length ≤ log.config.maxPayloadSize) (clean : storage.Clean)
    (creates : log.needsRotation payload = true → ∃ fresh created,
      Segment.create (log.config.segmentPath log.nextId) log.nextId log.layout storage =
        (.ok fresh, created)) :
    ∃ position, (log.write payload storage).1 = .ok position := by
  rw [formed.write_eq, if_neg (Nat.not_lt.mpr small), if_neg (by simp [isOpen])]
  by_cases full : log.needsRotation payload = true
  · rw [if_pos full]
    rcases Segment.create_of_duplicates clean.duplicates (log.config.segmentPath log.nextId)
      log.nextId log.layout with ⟨cause, failed⟩ | ⟨handle, created, -, refusals_eq, succeeded⟩
    · rcases creates full with ⟨fresh, created, succeeded⟩
      rw [failed] at succeeded
      cases succeeded
    · simp only [formed.rotate_eq, succeeded]
      apply append_of_unlimited
      · rw [active_sealing]
        rfl
      · rw [Segment.toRefusals_sync, refusals_eq, clean.unlimited]
  · rw [if_neg full]
    apply append_of_unlimited _ clean.unlimited
    simp only [needsRotation, Bool.or_eq_true, Bool.not_eq_true', not_or] at full
    simpa using full.1

/-- A log that cannot begin the segment it has to begin fails, and stays as it is. -/
theorem Formed.write_of_not_creates (formed : log.Formed) (duplicates : storage.Duplicates)
    (isOpen : log.closed = false) (small : payload.length ≤ log.config.maxPayloadSize)
    (full : log.needsRotation payload = true)
    (missing : ¬ ∃ fresh created,
      Segment.create (log.config.segmentPath log.nextId) log.nextId log.layout storage =
        (.ok fresh, created)) :
    ∃ cause, log.write payload storage = (.error (.storage cause), log, storage) := by
  rcases Segment.create_of_duplicates duplicates (log.config.segmentPath log.nextId) log.nextId
    log.layout with ⟨cause, failed⟩ | ⟨handle, created, -, -, succeeded⟩
  · refine ⟨cause, ?_⟩
    rw [formed.write_eq, if_neg (Nat.not_lt.mpr small), if_neg (by simp [isOpen]), if_pos full]
    simp only [formed.rotate_eq, failed]
  · exact absurd ⟨_, created, succeeded⟩ missing

namespace Foresees

/-- The next segment can be created exactly if that was foreseen, and the storage does
not refuse it. -/
theorem creates_iff (foresees : log.Foresees config earlier storage oldest)
    (duplicates : storage.Duplicates) :
    (∃ fresh created,
      Segment.create (log.config.segmentPath log.nextId) log.nextId log.layout storage =
        (.ok fresh, created)) ↔
      earlier.Vacant (config.segmentPath log.nextId) ∧
        storage.creationFault (config.segmentPath log.nextId) = none := by
  rw [Segment.exists_create_iff duplicates, foresees.config_eq, foresees.formed.nextId_eq]
  exact and_congr_left fun _ => foresees.ahead.vacant_iff _ (Nat.lt_succ_self _)

/-- A log takes a payload exactly if the segment that it may have to begin for it
was vacant, and is not refused. -/
theorem write_ok_iff (foresees : log.Foresees config earlier storage oldest)
    (isOpen : log.closed = false) (small : payload.length ≤ config.maxPayloadSize)
    (clean : storage.Clean) :
    (∃ position, (log.write payload storage).1 = .ok position) ↔
      (log.needsRotation payload = true → earlier.Vacant (config.segmentPath log.nextId) ∧
        storage.creationFault (config.segmentPath log.nextId) = none) := by
  rw [← foresees.config_eq] at small
  rw [← foresees.creates_iff clean.duplicates]
  constructor
  · rintro ⟨position, written⟩ full
    by_contra missing
    rcases foresees.formed.write_of_not_creates clean.duplicates isOpen small full missing with
      ⟨cause, failed⟩
    rw [failed] at written
    cases written
  · exact foresees.formed.exists_write_of_creates isOpen small clean

/-- A log that has to begin a segment where something stands, or under a name that is
refused, stays as it is. -/
theorem write_of_not_vacant (foresees : log.Foresees config earlier storage oldest)
    (isOpen : log.closed = false) (small : payload.length ≤ config.maxPayloadSize)
    (duplicates : storage.Duplicates) (full : log.needsRotation payload = true)
    (prevented : ¬ (earlier.Vacant (config.segmentPath log.nextId) ∧
      storage.creationFault (config.segmentPath log.nextId) = none)) :
    ∃ cause, log.write payload storage = (.error (.storage cause), log, storage) := by
  rw [← foresees.config_eq] at small
  exact foresees.formed.write_of_not_creates duplicates isOpen small full
    ((foresees.creates_iff duplicates).not.mpr prevented)

end Foresees

/-! ### Opening -/

/-- A log of no segments begins with the first one, which it creates. -/
theorem newest_of_begin (begun : begin config layout storage = (.ok log, after)) :
    log.config = config ∧ log.active.id = .first ∧
      ∃ handle, storage.createFile (config.segmentPath .first) = (.ok handle, after) := by
  obtain ⟨fresh, created, rfl⟩ := begin_eq_ok begun
  obtain ⟨handle, made, rfl⟩ := Segment.create_eq_ok created
  exact ⟨rfl, by rw [active_ofSegments]; rfl, handle, made⟩

/-- A log resumes with the segment that it recovers, and no name is new. -/
theorem newest_of_resume {sealed : List Segment} {active : Segment}
    (resumed : resume config layout sealed active storage = (.ok log, after)) :
    log.config = config ∧ log.active.id = active.id ∧ after.entries = storage.entries := by
  have names := active.entries_recover storage
  rcases active.exists_recover_eq storage with ⟨size, recovered_eq⟩
  unfold resume at resumed
  split at resumed
  · cases resumed
  rename_i report recovered final done
  cases resumed
  rw [done] at names recovered_eq
  have id_eq : recovered.id = active.id := by
    rw [show recovered = { active with size } from recovered_eq]
  exact ⟨rfl, by rw [active_ofSegments, id_eq], names⟩

/-- A log that was opened has the settings it was opened with, and the file of its
newest segment is there. That is the first one, which was created, or the
greatest id that was discovered, and then no name is new. -/
theorem newest_of_openFound {ids : List SegmentId}
    (discovered : config.discover storage = .ok ids)
    (opened : openFound config layout ids storage = (.ok log, after)) :
    log.config = config ∧
      (∃ node, after.findFile (config.segmentPath log.active.id) = .ok node) ∧
        (ids = [] ∧ log.active.id = .first ∧
            (∃ handle, storage.createFile (config.segmentPath .first) = (.ok handle, after)) ∨
          ids.eraseDups.getLast? = some log.active.id ∧ after.entries = storage.entries) := by
  cases ids with
  | nil =>
      rcases newest_of_begin opened with ⟨config_eq, id_eq, handle, created⟩
      rw [id_eq]
      exact ⟨config_eq, ⟨_, (Storage.findFile_createFile created).1⟩,
        .inl ⟨rfl, rfl, handle, created⟩⟩
  | cons first rest =>
      rcases openFound_cases config layout (Config.ascending_of_discover discovered)
          storage with
        ⟨newest, middle, last, keeps, ⟨cause, failed⟩ | ⟨sealed, active, opens, resumes⟩⟩
      · rw [failed] at opened
        cases opened
      · rw [resumes] at opened
        rcases newest_of_resume opened with ⟨config_eq, id_eq, names⟩
        rcases opens with ⟨node, found, serves⟩
        rw [id_eq, serves.id_eq]
        exact ⟨config_eq, ⟨node, by rw [Storage.findFile_congr names, found]⟩,
          .inr ⟨last, names.trans keeps.entries_eq⟩⟩

theorem foresees_openDirectory (opened : openDirectory config storage = (.ok log, after)) :
    log.Foresees config after after log.active.id := by
  rcases openDirectory_eq_ok opened with ⟨layout, middle, ids, -, -, -, discovered, found⟩
  rcases newest_of_openFound discovered found with ⟨config_eq, present, -⟩
  exact ⟨formed_openFound (Config.ascending_of_discover discovered) found, config_eq,
    Nat.le_refl _, fun _ _ => Iff.rfl, present⟩

/-- No discovered id is greater than the last one. -/
theorem number_le_of_discover {ids : List SegmentId} {last id : SegmentId}
    (discovered : config.discover storage = .ok ids)
    (greatest : ids.eraseDups.getLast? = some last) (member : id ∈ ids) :
    id.number ≤ last.number := by
  have ascending := Config.ascending_of_discover discovered
  rcases List.getLast?_eq_some_iff.mp greatest with ⟨front, split_eq⟩
  rw [← List.mem_eraseDups, split_eq, List.mem_append, List.mem_singleton] at member
  rw [split_eq, List.pairwise_append] at ascending
  rcases member with before | rfl
  · exact Nat.le_of_lt (ascending.2.2 id before last (List.mem_singleton.mpr rfl))
  · exact Nat.le_refl _

section Listing

variable {ids : List SegmentId} {place : Place} {id : SegmentId}

/-- No regular file stands under the name of a segment to come, for it would have been
discovered. -/
theorem not_file_of_openFound (discovered : config.discover storage = .ok ids)
    (resolved : storage.resolve ⟨config.directory⟩ = .ok place)
    (isDirectory : storage.entryAt place = some .directory)
    (opened : openFound config layout ids storage = (.ok log, after))
    (later : log.active.id.number < id.number) (bounded : id.number < SegmentId.bound)
    (node : Nat) :
    storage.entryAt (place ++ [.text (id.fileName config.fileExtension)]) ≠
      some (.regular node) := by
  intro stands
  have member : id ∈ ids := by
    have listed := Config.readDirectory_eq_ok_iff.mpr ⟨place, resolved, isDirectory, rfl⟩
    rcases Config.exists_discover listed with ⟨found, foundIds, mem_iff⟩
    rw [discovered] at foundIds
    cases foundIds
    rw [Storage.entryAt_concat] at stands
    rcases List.lookup_eq_some_iff.mp stands with ⟨front, back, names_eq, -⟩
    apply (mem_iff id).mpr
    refine ⟨id.fileName config.fileExtension, node, by simp [names_eq], ?_⟩
    exact SegmentId.parse_eq_some_iff.mp (SegmentId.parse_fileName bounded _)
  rcases newest_of_openFound discovered opened with ⟨-, -, ⟨rfl, -⟩ | ⟨greatest, -⟩⟩
  · cases member
  · exact absurd (number_le_of_discover discovered greatest member) (Nat.not_le.mpr later)

/-- Opening a log changes nothing under the names of segments to come. -/
theorem entryAt_of_openFound (discovered : config.discover storage = .ok ids)
    (resolved : storage.resolve ⟨config.directory⟩ = .ok place)
    (isDirectory : storage.entryAt place = some .directory)
    (opened : openFound config layout ids storage = (.ok log, after))
    (plain : '/' ∉ config.fileExtension.toList) :
    after.resolve ⟨config.directory⟩ = .ok place ∧ after.entryAt place = some .directory ∧
      ∀ id : SegmentId, log.active.id.number < id.number →
        after.entryAt (place ++ [.text (id.fileName config.fileExtension)]) =
          storage.entryAt (place ++ [.text (id.fileName config.fileExtension)]) := by
  rcases newest_of_openFound discovered opened with
    ⟨-, -, ⟨-, first, handle, created⟩ | ⟨-, entries_eq⟩⟩
  · have leads := config.resolve_segmentPath (Storage.walk_of_resolve resolved) isDirectory plain
      .first
    rcases Storage.kept_createFile leads created with ⟨resolve_kept, entryAt_kept⟩
    constructor
    · exact resolve_kept resolved
    constructor
    · rw [entryAt_kept (by simp), isDirectory]
    · intro id later
      apply entryAt_kept
      intro same
      rw [List.append_cancel_left_eq, List.cons.injEq, FileName.text.injEq] at same
      rw [first, ← SegmentId.fileName_inj same.1] at later
      exact Nat.lt_irrefl _ later
  · constructor
    · rw [Storage.resolve_congr entries_eq, resolved]
    constructor
    · rw [Storage.entryAt_congr entries_eq, isDirectory]
    · intro id _
      exact Storage.entryAt_congr entries_eq _

end Listing

/-- Under an extension without a slash, the path of a segment to come is vacant unless
something stands under the name of its file when the log has been opened, and that
is no regular file. -/
theorem vacant_iff_of_openDirectory (opened : openDirectory config storage = (.ok log, after))
    (plain : '/' ∉ config.fileExtension.toList) :
    ∃ names, after.readDirectory ⟨config.directory⟩ = .ok names ∧
      ∀ id, log.active.id.number < id.number → id.number < SegmentId.bound →
        (after.Vacant (config.segmentPath id) ↔
          names.lookup (.text (id.fileName config.fileExtension)) = none) ∧
        ∀ node, names.lookup (.text (id.fileName config.fileExtension)) ≠
          some (.regular node) := by
  rcases openDirectory_eq_ok opened with ⟨layout, middle, ids, -, -, -, discovered, found⟩
  rcases Config.discover_eq_ok_iff.mp discovered with ⟨place, resolved, isDirectory, -⟩
  rcases entryAt_of_openFound discovered resolved isDirectory found plain with
    ⟨resolvedAfter, isDirectoryAfter, entryAt_eq⟩
  refine ⟨after.namesAt place,
    Config.readDirectory_eq_ok_iff.mpr ⟨place, resolvedAfter, isDirectoryAfter, rfl⟩,
    fun id later bounded => ⟨?_, fun node => ?_⟩⟩
  · have leads := config.resolve_segmentPath (Storage.walk_of_resolve resolvedAfter)
      isDirectoryAfter plain id
    rcases config.ends_segmentPath plain id with ⟨noSlash, noDots⟩
    simp only [Storage.Vacant, noSlash, noDots, leads, ← Storage.entryAt_concat]
    simp
  · rw [← Storage.entryAt_concat, entryAt_eq id later]
    exact not_file_of_openFound discovered resolved isDirectory found later bounded node

end Log

/-! ## Histories -/

namespace World

variable {config : Config} {earlier storage : Storage} {world : World} {oldest : SegmentId}
  {first log : Log} {faults : Faults} {events : List (Faults × Operation)} {payload : List UInt8}

/-- What a log foresees, if there is one. -/
def Foresees (world : World) (config : Config) (earlier : Storage) (oldest : SegmentId) : Prop :=
  ∀ log ∈ world.log, log.Foresees config earlier world.storage oldest

namespace Foresees

theorem suffer (foresees : world.Foresees config earlier oldest) (faults : Faults) :
    Foresees { world with storage := world.storage.suffer faults } config earlier oldest :=
  fun log found => (foresees log found).transfer (foresees log found).formed rfl rfl rfl

theorem write (foresees : world.Foresees config earlier oldest)
    (duplicates : world.storage.Duplicates) (payload : List UInt8) :
    (world.write payload).Foresees config earlier oldest := by
  cases present : world.log with
  | none => rwa [world.write_of_none present]
  | some log =>
      rw [write_eq world present payload]
      rintro _ ⟨⟩
      exact (foresees log present).write duplicates payload

theorem act (foresees : world.Foresees config earlier oldest)
    {action : Log → Storage → Except Failure Unit × Log × Storage}
    (keeps : ∀ {log : Log} {storage}, log.Foresees config earlier storage oldest →
      (action log storage).2.1.Foresees config earlier (action log storage).2.2 oldest) :
    (world.act action).Foresees config earlier oldest := by
  unfold World.act
  split
  · exact foresees
  · rename_i log present
    rintro _ ⟨⟩
    exact keeps (foresees log present)

/-- Every operation but an opening keeps what is foreseen, whatever else the storage
refuses than to duplicate handles. -/
theorem step (foresees : world.Foresees config earlier oldest) {event : Faults × Operation}
    (stays : ∀ settings, event.2 ≠ .openLog settings) (duplicates : event.1.Duplicates) :
    (world.step event).Foresees config earlier oldest := by
  rcases event with ⟨faults, operation⟩
  have suffering := foresees.suffer faults
  cases operation with
  | openLog settings => exact absurd rfl (stays settings)
  | write payload => exact suffering.write duplicates payload
  | read position => exact suffering
  | scan id => exact suffering
  | sync => exact suffering.act Log.Foresees.sync
  | close => exact suffering.act Log.Foresees.close
  | drop =>
      intro log present
      change (dropLog _).log = some log at present
      rw [log_dropLog] at present
      cases present

theorem run (foresees : world.Foresees config earlier oldest)
    (stays : ∀ event ∈ events, ∀ settings, event.2 ≠ .openLog settings)
    (duplicates : ∀ event ∈ events, event.1.Duplicates) :
    (world.run events).Foresees config earlier oldest := by
  induction events using List.reverseRecOn with
  | nil => exact foresees
  | append_singleton events event ih =>
      rw [run_concat]
      apply Foresees.step
      · exact ih (fun earlier member => stays earlier (List.mem_append_left _ member))
          fun earlier member => duplicates earlier (List.mem_append_left _ member)
      · exact stays event (by simp)
      · exact duplicates event (by simp)

end Foresees

/-- What stands in the way of a segment when the log has been opened prevents its
writes, and so does a name that the storage refuses, but nothing else. An open log
that has not been opened again takes a payload that is not too large exactly if the
segment that it may have to begin for it was vacant then and is not refused, and
without that it stays as it is. Under an extension without a slash, a path is vacant
unless something stands under the name of the file, and that is no regular file. -/
theorem writes_where_vacant (opened : Log.openDirectory config storage = (.ok first, earlier))
    (stays : ∀ event ∈ events, ∀ settings, event.2 ≠ .openLog settings)
    (duplicates : ∀ event ∈ events, event.1.Duplicates)
    (reaches : run ⟨some first, earlier, []⟩ events = world) (present : world.log = some log)
    (isOpen : log.closed = false) (bounded : log.nextId.number < SegmentId.bound)
    (clean : faults.Clean) (small : payload.length ≤ config.maxPayloadSize) :
    ((∃ position, (log.write payload (world.storage.suffer faults)).1 = .ok position) ↔
      (log.needsRotation payload = true → earlier.Vacant (config.segmentPath log.nextId) ∧
        faults.creationFault (config.segmentPath log.nextId) = none)) ∧
    (log.needsRotation payload = true →
      ¬ (earlier.Vacant (config.segmentPath log.nextId) ∧
        faults.creationFault (config.segmentPath log.nextId) = none) →
          ∃ cause, log.write payload (world.storage.suffer faults) =
            (.error (.storage cause), log, world.storage.suffer faults)) ∧
    ('/' ∉ config.fileExtension.toList →
      ∃ names, earlier.readDirectory ⟨config.directory⟩ = .ok names ∧
        (earlier.Vacant (config.segmentPath log.nextId) ↔
          names.lookup (.text (log.nextId.fileName config.fileExtension)) = none) ∧
        ∀ node, names.lookup (.text (log.nextId.fileName config.fileExtension)) ≠
          some (.regular node)) := by
  have begins : Foresees ⟨some first, earlier, []⟩ config earlier first.active.id := by
    rintro _ ⟨⟩
    exact Log.foresees_openDirectory opened
  have foresees : log.Foresees config earlier world.storage first.active.id := by
    have ran := begins.run stays duplicates
    rw [reaches] at ran
    exact ran log present
  have suffering : log.Foresees config earlier (world.storage.suffer faults) first.active.id :=
    foresees.transfer foresees.formed rfl rfl rfl
  have later : first.active.id.number < log.nextId.number := by
    rw [foresees.formed.nextId_eq]
    exact Nat.lt_succ_of_le foresees.oldest_le
  constructor
  · exact suffering.write_ok_iff isOpen small clean
  constructor
  · exact suffering.write_of_not_vacant isOpen small clean.duplicates
  · intro plain
    rcases Log.vacant_iff_of_openDirectory opened plain with ⟨names, listed, vacant_iff⟩
    exact ⟨names, listed, vacant_iff log.nextId later bounded⟩

/-! ### A directory in the way -/

/-- A directory of a log with two files that are no segments, and a directory under
the name of the third segment. -/
def obstructedStorage : Storage :=
  (((vacantStorage.putFile ⟨"wal/notes.txt"⟩ #[1]).2.putFile ⟨"wal/abc.seg"⟩ #[2]).2.createDirectory
    ⟨"wal/3.seg"⟩).2

/-- Some writes, each of which fills a segment. -/
def fillings (count : Nat) : List (Faults × Operation) :=
  List.replicate count (.none, .write (List.replicate 30 1))

/-- The log in that directory after some of these writes. -/
def obstructed (count : Nat) : World :=
  ((start obstructedStorage).openLog narrowSettings).run (fillings count)

/-- A write that begins the second segment is taken, and one that would begin the
third is not. -/
theorem writes_where_vacant_of_obstructedStorage :
    (∃ log ∈ (obstructed 1).log, ∃ position,
      (log.write (List.replicate 30 2) ((obstructed 1).storage.suffer .none)).1 = .ok position) ∧
    ∃ log ∈ (obstructed 2).log, ∃ cause,
      log.write (List.replicate 30 2) ((obstructed 2).storage.suffer .none) =
        (.error (.storage cause), log, (obstructed 2).storage.suffer .none) := by
  rcases opened : Log.openDirectory narrowSettings obstructedStorage with ⟨answer, earlier⟩
  have succeeded : (Log.openDirectory narrowSettings obstructedStorage).1.isOk = true := by
    decide +kernel
  have listed : (Log.openDirectory narrowSettings obstructedStorage).2.readDirectory ⟨"wal"⟩ =
      .ok [(.text "notes.txt", .regular 0), (.text "abc.seg", .regular 1),
        (.text "3.seg", .directory), (.text "1.seg", .regular 2)] := by
    decide +kernel
  rw [opened] at succeeded listed
  cases answer with
  | error cause => cases succeeded
  | ok first =>
      have reaches (count : Nat) :
          run ⟨some first, earlier, []⟩ (fillings count) = obstructed count := by
        simp only [obstructed, openLog, start, opened]
      have stays (count : Nat) :
          ∀ event ∈ fillings count, ∀ settings, event.2 ≠ .openLog settings := by
        intro event member settings opens
        rw [List.eq_of_mem_replicate member] at opens
        cases opens
      have small : (List.replicate 30 (2 : UInt8)).length ≤ narrowSettings.maxPayloadSize := by
        decide
      have plain : '/' ∉ narrowSettings.fileExtension.toList := by decide
      have duplicates (count : Nat) : ∀ event ∈ fillings count, event.1.Duplicates := by
        intro event member
        rw [List.eq_of_mem_replicate member]
        exact Refusals.clean_none.duplicates
      have clean : Faults.none.Clean := Refusals.clean_none
      have second : ∀ log ∈ (obstructed 1).log, log.closed = false ∧ log.nextId = ⟨2⟩ := by
        decide +kernel
      have third : ∀ log ∈ (obstructed 2).log, log.closed = false ∧ log.nextId = ⟨3⟩ ∧
          log.needsRotation (List.replicate 30 2) = true := by
        decide +kernel
      constructor
      · have present : (obstructed 1).log.isSome = true := by decide +kernel
        rcases Option.isSome_iff_exists.mp present with ⟨log, found⟩
        rcases second log found with ⟨isOpen, next_eq⟩
        rcases writes_where_vacant opened (stays 1) (duplicates 1) (reaches 1) found isOpen
          (by rw [next_eq]; decide) clean small with ⟨takes_iff, -, only⟩
        rcases only plain with ⟨names, names_eq, vacant_iff, -⟩
        cases listed.symm.trans names_eq
        rw [next_eq] at takes_iff vacant_iff
        exact ⟨log, found, takes_iff.mpr fun _ => ⟨vacant_iff.mpr (by decide), rfl⟩⟩
      · have present : (obstructed 2).log.isSome = true := by decide +kernel
        rcases Option.isSome_iff_exists.mp present with ⟨log, found⟩
        rcases third log found with ⟨isOpen, next_eq, full⟩
        rcases writes_where_vacant opened (stays 2) (duplicates 2) (reaches 2) found isOpen
          (by rw [next_eq]; decide) clean small with ⟨-, fails, only⟩
        rcases only plain with ⟨names, names_eq, vacant_iff, -⟩
        cases listed.symm.trans names_eq
        rw [next_eq] at fails vacant_iff
        have occupied := vacant_iff.not.mpr (by decide)
        exact ⟨log, found, fails full fun free => occupied free.1⟩

/-- A directory of a log with a directory under the name of the second segment. -/
def blockedStorage : Storage := (vacantStorage.createDirectory ⟨"wal/2.seg"⟩).2

/-- Settings under which the files of segments are in directories of their own. -/
def nestedSettings : Config := { narrowSettings with fileExtension := ".x/seg" }

/-- The directory for the file of the first segment is there, and there is none for
the second. -/
def nestedStorage : Storage := (vacantStorage.createDirectory ⟨"wal/1.x"⟩).2

/-- What a write of a payload answers after another one, if the log opens. -/
def secondAnswer (config : Config) (storage : Storage) : Option (Except Failure Position) :=
  let world := ((start storage).openLog config).run (fillings 1)
  world.log.map fun log => (log.write (List.replicate 30 2) (world.storage.suffer .none)).1

/-- Logs open, take a payload, and then fail to begin their second segment: for a
directory under its name, and for want of a directory for its file. -/
theorem second_write_obstructed :
    narrowSettings.fault = none ∧ nestedSettings.fault = none ∧
      30 ≤ narrowSettings.maxPayloadSize ∧ 30 ≤ nestedSettings.maxPayloadSize ∧
        (((start blockedStorage).openLog narrowSettings).run (fillings 1)).acknowledged =
          [(⟨⟨1⟩, 0⟩, List.replicate 30 1)] ∧
        secondAnswer narrowSettings blockedStorage = some (.error (.storage .alreadyExists)) ∧
        (((start nestedStorage).openLog nestedSettings).run (fillings 1)).acknowledged =
          [(⟨⟨1⟩, 0⟩, List.replicate 30 1)] ∧
        secondAnswer nestedSettings nestedStorage = some (.error (.storage .notFound)) := by
  decide +kernel

end World

end RecordLog
