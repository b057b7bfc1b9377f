import RecordLog.Proofs.Coherence
import RecordLog.Proofs.SyncCoverage

/-!
# Worlds in order

Nothing that is done to a log brings disorder into its storage, whatever the
storage refuses: new files are given names of their own, and all other changes
are to bytes and handles. So at any time of a history an open log agrees with its
files, and these hold all bytes up to the sizes that the segments remember, for
sizes grow only with what was written, and files never shrink but by recovery.
-/

namespace RecordLog

/-! ## Storage -/

namespace Storage

variable {storage before after : Storage}

/-- The order of a storage is in its names and in the number of its files. -/
theorem Orderly.transfer (orderly : before.Orderly) (entries_eq : after.entries = before.entries)
    (size_eq : after.nodes.size = before.nodes.size) : after.Orderly where
  sound := by
    intro place isRegular node named
    rw [entries_eq] at named
    rw [size_eq]
    exact orderly.sound place isRegular node named
  plain := by
    rw [entries_eq]
    exact orderly.plain
  single := by
    rw [entries_eq]
    exact orderly.single

theorem Orderly.keeps (orderly : before.Orderly) (keeps : before.Keeps after) : after.Orderly :=
  orderly.transfer keeps.entries_eq keeps.size_eq

theorem Orderly.rewrites {node : Nat} {bytes : Content} (orderly : before.Orderly)
    (rewrites : before.Rewrites after node bytes) : after.Orderly :=
  orderly.transfer rewrites.entries_eq rewrites.size_eq

/-- A file with a name of its own, none of whose parts has a slash in it. -/
theorem Orderly.addFile (orderly : storage.Orderly) {place : Place} (plain : place.Plain) :
    (storage.addFile place).Orderly := by
  have named_cases {other : Place} {isRegular : Bool} {node : Nat}
      (named : (other, @Entry.file isRegular node) ∈ (storage.addFile place).entries) :
      (other, @Entry.file isRegular node) ∈ storage.entries ∨
        other = place ∧ node = storage.nodes.size := by
    rw [Storage.addFile, addEntry, List.mem_append, List.mem_singleton] at named
    rcases named with older | new
    · exact .inl older
    · cases new
      exact .inr ⟨rfl, rfl⟩
  have size_eq : (storage.addFile place).nodes.size = storage.nodes.size + 1 := by
    simp [Storage.addFile, addEntry]
  constructor
  · intro other isRegular node named
    rw [size_eq]
    rcases named_cases named with older | ⟨_, rfl⟩
    · exact Nat.lt_succ_of_lt (orderly.sound other isRegular node older)
    · exact Nat.lt_succ_self _
  · intro other isRegular node named
    rcases named_cases named with older | ⟨rfl, _⟩
    · exact orderly.plain other isRegular node older
    · exact plain
  · intro first second _ _ node named again
    rcases named_cases named with older | ⟨rfl, rfl⟩
    · rcases named_cases again with olderToo | ⟨rfl, rfl⟩
      · exact orderly.single first second _ _ node older olderToo
      · exact absurd (orderly.sound first _ _ older) (Nat.lt_irrefl _)
    · rcases named_cases again with older | ⟨rfl, _⟩
      · exact absurd (orderly.sound second _ _ older) (Nat.lt_irrefl _)
      · exact fun _ => rfl

theorem Orderly.createFile (orderly : storage.Orderly) (path : Path) :
    (storage.createFile path).2.Orderly := by
  rcases storage.createFile_cases path with
    ⟨cause, failed⟩ | ⟨place, resolved, _, _, _, created⟩
  · rw [failed]
    exact orderly
  · rw [created]
    exact (orderly.addFile (plain_of_resolve resolved)).keeps (keeps_openNode _ _)

/-- The bytes of a handle are those of its file. -/
theorem content_eq_of_fileOf? {handle : Handle} {file : FileNode}
    (found : storage.fileOf? handle = some file) : storage.content handle = file.bytes := by
  obtain ⟨node, refers, stands⟩ := Option.bind_eq_some_iff.mp found
  rw [content_eq_nodeBytes refers, nodeBytes, stands]
  rfl

/-- The files of all handles are at least as long as before. -/
def Lengthens (before after : Storage) : Prop :=
  ∀ handle, (before.content handle).size ≤ (after.content handle).size

theorem Advances.lengthens (advances : before.Advances after) : before.Lengthens after := by
  intro handle
  cases found : before.fileOf? handle with
  | none =>
      have empty : before.content handle = #[] := by
        unfold fileOf? at found
        unfold content nodeBytes
        cases refers : before.nodeOf? handle with
        | none => rfl
        | some node =>
            rw [refers, Option.bind_some] at found
            simp [found]
      rw [empty]
      exact Nat.zero_le _
  | some file =>
      obtain ⟨advanced, foundAfter, further⟩ := advances handle file found
      rw [content_eq_of_fileOf? found, content_eq_of_fileOf? foundAfter]
      exact further.size_le

theorem Keeps.lengthens (keeps : before.Keeps after) : before.Lengthens after := by
  intro handle
  cases refers : before.nodeOf? handle with
  | none =>
      rw [content, refers]
      exact Nat.zero_le _
  | some node => rw [keeps.content_eq refers]

/-- Putting a file in place names at most one more, in a place of its own. -/
theorem Orderly.putAt (orderly : storage.Orderly) {place : Place} (plain : place.Plain)
    (bytes : Content) : (storage.putAt place bytes).2.Orderly := by
  unfold Storage.putAt
  split
  · exact orderly
  · exact orderly.transfer rfl (Array.size_modify ..)
  · exact (orderly.addFile plain).transfer rfl (Array.size_modify ..)

theorem Orderly.putFile (orderly : storage.Orderly) (path : Path) (bytes : Content) :
    (storage.putFile path bytes).2.Orderly := by
  have parent : (storage.createParent path).2.Orderly := by
    unfold Storage.createParent
    split
    · exact orderly
    · exact orderly.createDirectory _
  unfold Storage.putFile
  split
  · rename_i failed
    rwa [failed] at parent
  · rename_i created
    rw [created] at parent
    split
    · exact parent
    · rename_i resolved
      split
      · exact parent
      · exact parent.putAt (plain_of_resolve resolved) bytes

theorem orderly_empty : Storage.empty.Orderly := by
  have nameless (place : Place) (isRegular : Bool) (node : Nat) :
      (place, @Entry.file isRegular node) ∉ Storage.empty.entries := by
    simp [Storage.empty]
  exact ⟨fun place isRegular node named => absurd named (nameless place isRegular node),
    fun place isRegular node named => absurd named (nameless place isRegular node),
    fun place _ isRegular _ node named => absurd named (nameless place isRegular node)⟩

/-- A storage with an empty directory for a log is in order. -/
theorem orderly_vacantStorage : World.vacantStorage.Orderly :=
  orderly_empty.createDirectory ⟨"wal"⟩

end Storage

/-! ## Segments -/

namespace Segment

variable {segment : Segment} {storage after : Storage}

theorem orderly_create (orderly : storage.Orderly) (path : Path) (id : SegmentId)
    (layout : Layout) : (create path id layout storage).2.Orderly := by
  have made := orderly.createFile path
  rcases create_snd path id layout storage with same | ⟨handle, same⟩
  · rw [same]
    exact made
  · rw [same]
    exact made.keeps (Storage.keeps_release _ handle)

/-- All bytes up to the size of a segment are in its file. -/
def Whole (segment : Segment) (storage : Storage) : Prop :=
  segment.size ≤ (storage.content segment.handle).size

/-- Readers of an open segment find all of its bytes. -/
theorem Whole.image (whole : segment.Whole storage) (isOpen : segment.closed = false) :
    (segment.image storage).Whole := by
  rw [Segment.image_eq isOpen]
  exact whole

theorem Whole.lengthens (whole : segment.Whole storage) (lengthens : storage.Lengthens after) :
    segment.Whole after :=
  Nat.le_trans whole (lengthens segment.handle)

/-- A segment on a file knows nothing beyond it after an append. -/
theorem Whole.append (whole : segment.Whole storage) {file : FileNode}
    (found : storage.fileOf? segment.handle = some file) (payload : List UInt8) :
    (segment.append payload storage).2.1.Whole (segment.append payload storage).2.2 := by
  unfold Segment.append
  split
  · exact whole
  have lengthens := (storage.advances_write segment.handle segment.size
    (segment.layout.frame segment.size payload).bytes).lengthens
  simp only
  split
  · rename_i after outcome
    have length_eq := segment.layout.length_frame_bytes segment.size payload
    have nonempty : (segment.layout.frame segment.size payload).bytes ≠ [] := by
      intro empty
      have := segment.layout.lt_frame_stop segment.size payload
      rw [empty, List.length_nil] at length_eq
      omega
    obtain ⟨longer, foundAfter, reaches⟩ :=
      Storage.size_of_write nonempty found (by rw [outcome])
    rw [outcome] at foundAfter
    rw [length_eq] at reaches
    rw [Whole, Storage.content_eq_of_fileOf? foundAfter]
    exact reaches
  · rename_i outcome
    rw [outcome] at lengthens
    exact whole.lengthens lengthens

theorem Whole.shut (whole : segment.Whole storage) : segment.shut.Whole storage :=
  whole

/-- A segment on the file of its id is on a file. -/
theorem Seated.exists_fileOf? {config : Config} (seated : segment.Seated config storage) :
    ∃ file, storage.fileOf? segment.handle = some file := by
  obtain ⟨node, _, refers, inRange⟩ := seated.stands
  exact ⟨_, Option.bind_eq_some_iff.mpr ⟨node, refers, Array.getElem?_eq_getElem inRange⟩⟩

/-! ### Opening -/

section Opening

variable {config : Config} {layout : Layout} {id : SegmentId}

/-- A segment that was just opened knows the length of its file. -/
theorem OpensId.size_content (opens : OpensId config layout storage id segment) :
    (storage.content segment.handle).size = segment.size := by
  obtain ⟨_, _, opens⟩ := opens
  rw [Storage.content_eq_nodeBytes opens.nodeOf?_eq, opens.size_eq]

/-- A segment was opened under the id it has. -/
theorem OpensId.own (opens : OpensId config layout storage id segment) :
    OpensId config layout storage segment.id segment := by
  obtain ⟨node, found, serves⟩ := opens
  rw [serves.id_eq]
  exact ⟨node, found, serves⟩

theorem opensId_of_forall₂ {ids : List SegmentId} {segments : List Segment}
    (related : List.Forall₂ (OpensId config layout storage) ids segments) :
    ∀ segment ∈ segments, OpensId config layout storage segment.id segment := by
  induction related with
  | nil => nofun
  | cons opens _ ih =>
      intro segment member
      rcases List.mem_cons.mp member with rfl | later
      · exact opens.own
      · exact ih segment later

/-- Segments that were opened together are each on the file of their id. -/
theorem opensId_of_openAll {ids : List SegmentId} {segments : List Segment}
    (opened : openAll config layout ids storage = (.ok segments, after)) :
    ∀ segment ∈ segments, OpensId config layout after segment.id segment := by
  obtain ⟨_, _, outcome, _, related⟩ := openAll_eq config layout ids storage
  rw [opened] at outcome
  cases outcome
  exact opensId_of_forall₂ (related segments rfl)

end Opening

end Segment

/-! ## Logs -/

namespace Log

variable {log again : Log} {config : Config} {layout : Layout} {storage after : Storage}

/-- All bytes up to the sizes of the segments are in their files. -/
def Whole (log : Log) (storage : Storage) : Prop :=
  ∀ segment ∈ log.segments, segment.Whole storage

theorem Whole.lengthens (whole : log.Whole storage) (lengthens : storage.Lengthens after) :
    log.Whole after :=
  fun segment member => (whole segment member).lengthens lengthens

theorem Formed.whole_iff (formed : log.Formed) :
    log.Whole storage ↔
      (∀ segment ∈ log.sealed, segment.Whole storage) ∧ log.active.Whole storage := by
  simp [Whole, formed.segments_eq, or_imp, forall_and]

theorem Whole.countSync (whole : log.Whole storage) (synced : Bool) :
    (log.countSync synced).Whole storage := by
  rw [countSync_eq]
  exact whole

/-! ### Syncing and closing -/

theorem Whole.sync (whole : log.Whole storage) :
    (log.sync storage).2.1.Whole (log.sync storage).2.2 := by
  obtain ⟨stats, log_eq⟩ := log.exists_sync_eq storage
  rw [log_eq]
  exact whole.lengthens (log.keeps_sync storage).lengthens

theorem Whole.close (whole : log.Whole storage) :
    (log.close storage).2.1.Whole (log.close storage).2.2 := by
  have kept := whole.lengthens (log.keeps_close storage).lengthens
  rw [log.close_eq] at kept ⊢
  split
  · exact whole
  · rename_i isOpen
    rw [if_neg isOpen] at kept
    intro segment member
    rw [segments_shut] at member
    obtain ⟨other, found, rfl⟩ := List.mem_map.mp member
    exact (kept other found).shut

/-! ### Writing -/

/-- The segment that a log begins on a new file. -/
def begun (log : Log) (handle : Handle) : Segment :=
  .ofHandle (log.config.segmentPath log.nextId) log.nextId log.layout handle 0

/-- What a write to a log comes to. It is refused, and nothing changes; or it goes
to the active segment, or to one that is begun for it once its file was created;
or that file is created and cannot be taken over. -/
inductive Writes (log : Log) (payload : List UInt8) (storage : Storage) :
    Except Failure Position × Log × Storage → Prop
  | refused (cause : Failure) : Writes log payload storage (.error cause, log, storage)
  | strands {cause : StorageError} {handle : Handle} {after : Storage}
      (isOpen : log.closed = false) (small : payload.length ≤ log.config.maxPayloadSize)
      (full : log.needsRotation payload = true) (retains : storage.Retains after)
      (creates : storage.Creates after handle)
      (found : after.findFile (log.config.segmentPath log.nextId) = .ok storage.nodes.size)
      (fault : storage.duplicationFault handle ≠ none)
      (failed : Segment.create (log.config.segmentPath log.nextId) log.nextId log.layout storage =
        (.error (.storage cause), after)) :
      Writes log payload storage (.error (.storage cause), log, after)
  | stays (isOpen : log.closed = false) (small : payload.length ≤ log.config.maxPayloadSize)
      (fits : log.needsRotation payload = false) :
      Writes log payload storage (log.append payload storage)
  | rotates {handle : Handle} {created : Storage} (isOpen : log.closed = false)
      (small : payload.length ≤ log.config.maxPayloadSize)
      (full : log.needsRotation payload = true)
      (creates : Segment.create (log.config.segmentPath log.nextId) log.nextId log.layout storage =
        (.ok (log.begun handle), created))
      (rotated : log.rotate storage =
        (.ok (log.begun handle).entry, log.sealing (log.active.sync created).1 (log.begun handle),
          (log.active.sync created).2)) :
      Writes log payload storage
        ((log.sealing (log.active.sync created).1 (log.begun handle)).append payload
          (log.active.sync created).2)

theorem writes (formed : log.closed = false → log.Formed) (payload : List UInt8)
    (storage : Storage) : log.Writes payload storage (log.write payload storage) := by
  cases isOpen : log.closed with
  | true =>
      obtain ⟨cause, refused⟩ := log.write_of_closed isOpen payload storage
      rw [refused]
      exact .refused cause
  | false =>
      have formed := formed isOpen
      rw [formed.write_eq]
      split
      · exact .refused _
      rename_i small
      rw [if_neg (by simp [isOpen])]
      split
      · rename_i full
        rcases Segment.create_cases (log.config.segmentPath log.nextId) log.nextId log.layout
          storage with ⟨cause, failed⟩ |
            ⟨handle, created, retains, creates, found, ⟨cause, failed, fault⟩ | succeeded⟩
        · have refused : log.rotate storage = (.error (.storage cause), log, storage) := by
            rw [formed.rotate_eq, failed]
          rw [refused]
          exact .refused _
        · have stranded : log.rotate storage = (.error (.storage cause), log, created) := by
            rw [formed.rotate_eq, failed]
          rw [stranded]
          exact .strands isOpen (Nat.le_of_not_lt small) full retains creates found fault failed
        · have rotated : log.rotate storage = (.ok (log.begun handle).entry,
              log.sealing (log.active.sync created).1 (log.begun handle),
                (log.active.sync created).2) := by
            rw [formed.rotate_eq, succeeded]
            rfl
          rw [rotated]
          exact .rotates isOpen (Nat.le_of_not_lt small) full succeeded rotated
      · rename_i fits
        exact .stays isOpen (Nat.le_of_not_lt small) (eq_false_of_ne_true fits)

theorem Whole.append (whole : log.Whole storage) (formed : log.Formed) {file : FileNode}
    (found : storage.fileOf? log.active.handle = some file) (payload : List UInt8) :
    (log.append payload storage).2.1.Whole (log.append payload storage).2.2 := by
  obtain ⟨sealed, active⟩ := formed.whole_iff.mp whole
  have written := active.append found payload
  have lengthens := (log.active.advances_append payload storage).lengthens
  unfold Log.append
  generalize log.active.append payload storage = outcome at written lengthens ⊢
  obtain ⟨answer, active, after⟩ := outcome
  have wholeAfter (stats : Stats) : Whole { log.withActive active with stats } after := by
    intro segment member
    change segment ∈ (log.withActive active).segments at member
    rw [withActive, segments_withSegments, List.mem_append, List.mem_singleton] at member
    rcases member with older | rfl
    · exact (sealed segment older).lengthens lengthens
    · exact written
  cases answer with
  | error cause => exact wholeAfter log.stats
  | ok offset =>
      simp only
      split
      · exact ((wholeAfter _).countSync _).lengthens (active.keeps_sync after).lengthens
      · exact wholeAfter _

/-- An empty segment has no bytes to be in its file. -/
theorem Whole.sealing (whole : log.Whole storage) (formed : log.Formed)
    (lengthens : storage.Lengthens after) (synced : Bool) (handle : Handle) :
    (log.sealing synced (log.begun handle)).Whole after := by
  intro segment member
  rw [segments_sealing, ← formed.segments_eq, List.mem_append, List.mem_singleton] at member
  rcases member with older | rfl
  · exact (whole.lengthens lengthens) segment older
  · exact Nat.zero_le _

theorem lengthens_of_create {path : Path} {id : SegmentId} {segment : Segment} {created : Storage}
    (creates : Segment.create path id layout storage = (.ok segment, created)) :
    storage.Lengthens (log.active.sync created).2 :=
  ((Segment.create_effect creates).1.trans (log.active.advances_segmentSync created)).lengthens

/-- The log after a rotation goes on with a new file in its place. -/
theorem Coherent.rotated (coherent : log.Coherent storage) (isOpen : log.closed = false)
    {entry : SegmentId × Segment} (rotated : log.rotate storage = (.ok entry, again, after)) :
    again.active.isUsable = true ∧ log.Evolves storage again after := by
  rcases coherent.rotate_cases isOpen with
    ⟨cause, _, failed, _⟩ | ⟨_, other, final, succeeded, usable, evolves⟩
  · rw [failed] at rotated
    cases rotated
  · rw [succeeded] at rotated
    cases rotated
    exact ⟨usable, evolves⟩

theorem Whole.write (whole : log.Whole storage) (coherent : log.Coherent storage)
    (payload : List UInt8) :
    (log.write payload storage).2.1.Whole (log.write payload storage).2.2 := by
  generalize outcome : log.write payload storage = result
  have way := writes (fun _ => coherent.formed) payload storage
  rw [outcome] at way
  cases way with
  | refused => exact whole
  | strands _ _ _ _ _ _ _ failed => exact whole.lengthens (Segment.create_effect failed).1.lengthens
  | stays =>
      obtain ⟨file, found⟩ := coherent.active.exists_fileOf?
      exact whole.append coherent.formed found payload
  | rotates isOpen _ _ creates rotated =>
      obtain ⟨_, evolves⟩ := coherent.rotated isOpen rotated
      obtain ⟨file, found⟩ := evolves.coherent.active.exists_fileOf?
      exact (whole.sealing coherent.formed (lengthens_of_create creates) _ _).append
        evolves.coherent.formed found payload

theorem orderly_append (coherent : log.Coherent storage) (orderly : storage.Orderly)
    (payload : List UInt8) : (log.append payload storage).2.2.Orderly := by
  obtain ⟨node, _, refers, inRange⟩ := coherent.active.stands
  obtain ⟨bytes, rewrites⟩ := rewrites_append refers inRange payload
  exact orderly.rewrites rewrites

theorem orderly_write (coherent : log.Coherent storage) (orderly : storage.Orderly)
    (payload : List UInt8) : (log.write payload storage).2.2.Orderly := by
  generalize outcome : log.write payload storage = result
  have way := writes (fun _ => coherent.formed) payload storage
  rw [outcome] at way
  cases way with
  | refused => exact orderly
  | strands _ _ _ _ _ _ _ failed =>
      have made := Segment.orderly_create orderly (log.config.segmentPath log.nextId) log.nextId
        log.layout
      rwa [failed] at made
  | stays => exact orderly_append coherent orderly payload
  | @rotates handle created isOpen _ _ creates rotated =>
      have made := Segment.orderly_create orderly (log.config.segmentPath log.nextId) log.nextId
        log.layout
      rw [creates] at made
      obtain ⟨_, evolves⟩ := coherent.rotated isOpen rotated
      exact orderly_append evolves.coherent (made.keeps (log.active.keeps_sync created)) payload

/-! ### Opening -/

theorem orderly_begin (orderly : storage.Orderly) (config : Config) (layout : Layout) :
    (begin config layout storage).2.Orderly := by
  have made := Segment.orderly_create orderly (config.segmentPath .first) .first layout
  rw [begin_eq rfl]
  exact made

theorem orderly_openFound (orderly : storage.Orderly) (config : Config) (layout : Layout)
    {ids : List SegmentId}
    (ascending : ids.eraseDups.Pairwise fun first second => first.number < second.number) :
    (openFound config layout ids storage).2.Orderly := by
  cases ids with
  | nil => exact orderly_begin orderly config layout
  | cons first rest =>
      obtain ⟨_, middle, _, keeps, ⟨cause, failed⟩ | ⟨sealed, active, ⟨_, found, opens⟩, resumes⟩⟩ :=
        openFound_cases config layout ascending storage
      · rw [failed]
        exact orderly.keeps keeps
      · have kept := orderly.keeps keeps
        have inRange := kept.sound.findFile found
        obtain ⟨bytes, rewrites⟩ := Segment.rewrites_recover opens.nodeOf?_eq inRange
        have recovered := kept.rewrites rewrites
        rw [resumes, resume]
        split <;>
          · rename_i outcome
            rw [outcome] at recovered
            first
              | exact recovered
              | exact recovered.keeps (Table.keeps_closeAll _ _)

theorem orderly_openDirectory (orderly : storage.Orderly) (config : Config) :
    (openDirectory config storage).2.Orderly := by
  have made := orderly.createDirectory ⟨config.directory⟩
  unfold openDirectory
  split
  · exact orderly
  split
  · exact orderly
  split
  · rename_i outcome
    rw [outcome] at made
    exact made
  · rename_i outcome
    rw [outcome] at made
    split
    · exact made
    · rename_i discovered
      exact orderly_openFound made config _ (Config.ascending_of_discover discovered)

/-- The segments of a log that was opened know the lengths of their files, also the
one whose file was created or cut. -/
theorem opensId_openFound {ids : List SegmentId} (orderly : storage.Orderly)
    (discovered : config.discover storage = .ok ids)
    (opened : openFound config layout ids storage = (.ok log, after)) :
    ∀ segment ∈ log.segments, Segment.OpensId config layout after segment.id segment := by
  obtain ⟨segments, middle, outcome, begun | ⟨sealed, active, report, recovered, rfl, done, rfl⟩⟩ :=
    openFound_eq_ok (Config.ascending_of_discover discovered) opened
  · obtain ⟨fresh, created, rfl⟩ := begin_eq_ok begun
    obtain ⟨handle, made, rfl⟩ := Segment.create_eq_ok created
    obtain ⟨found, creates⟩ := Storage.findFile_createFile made
    intro segment member
    rw [segments_ofSegments, List.nil_append, List.mem_singleton] at member
    subst member
    exact ⟨_, found, ⟨rfl, rfl, rfl, creates.nodeOf?_new⟩, rfl, by rw [creates.bytes_new]; rfl⟩
  · obtain ⟨ids_eq, keeps, each⟩ := Segment.seated_openAll orderly.sound outcome
    have opens := Segment.opensId_of_openAll outcome
    have apart : (ofSegments config layout sealed active).Apart middle :=
      apart_ofSegments orderly discovered keeps ids_eq each
    rw [Log.Apart, sealed_ofSegments, active_ofSegments] at apart
    obtain ⟨node, found, opensActive⟩ := opens active (by simp)
    have inRange : node < middle.nodes.size := (orderly.sound.keeps keeps).findFile found
    obtain ⟨last, regions, ending, way, ends⟩ := Image.exists_passes
      (Image.whole_ofBytes layout (middle.nodeBytes node).toList) rfl 0
    obtain ⟨_, _, bytes, rewrites, ⟨_, failed, _⟩ | ⟨_, serves, sound, size_eq, again⟩⟩ :=
      opensActive.recover_cases inRange way ends
    · rw [done] at failed
      cases failed
    rw [done] at again
    cases again
    have named {path : Path} {node : Nat} (leads : middle.findFile path = .ok node) :
        after.findFile path = .ok node := by
      rw [Storage.findFile_congr rewrites.entries_eq, leads]
    intro segment member
    rw [segments_ofSegments, List.mem_append, List.mem_singleton] at member
    rcases member with older | same
    · obtain ⟨other, foundOther, opensOther⟩ := opens segment (List.mem_append_left _ older)
      have ne : other ≠ node := by
        rintro rfl
        exact apart segment older (opensOther.nodeOf?_eq.trans opensActive.nodeOf?_eq.symm)
      exact ⟨other, named foundOther, opensOther.toServes.rewrites rewrites, opensOther.poisoned_eq,
        by rw [rewrites.others_eq other ne, opensOther.size_eq]⟩
    · have id_eq : recovered.id = active.id := serves.id_eq
      rw [same, id_eq]
      exact ⟨node, named found, serves, sound, by rw [rewrites.bytes_eq, size_eq]⟩

theorem whole_openDirectory (orderly : storage.Orderly)
    (opened : openDirectory config storage = (.ok log, after)) : log.Whole after := by
  obtain ⟨layout, middle, ids, _, _, created, discovered, found⟩ := openDirectory_eq_ok opened
  have made := orderly.createDirectory ⟨config.directory⟩
  rw [created] at made
  intro segment member
  exact Nat.le_of_eq (opensId_openFound made discovered found segment member).size_content.symm

end Log

/-! ## Histories -/

namespace World

/-- Nothing is written without a log. -/
theorem write_of_none (world : World) (absent : world.log = none) (payload : List UInt8) :
    world.write payload = world := by
  unfold World.write
  rw [absent]

/-- A world whose storage is in order, and whose log agrees with its files, the
active one of which is not shared. They hold all bytes up to the sizes of the
segments. -/
structure InOrder (world : World) : Prop where
  orderly : world.storage.Orderly
  coherent : ∀ log ∈ world.log, log.Coherent world.storage
  apart : ∀ log ∈ world.log, log.Apart world.storage
  whole : ∀ log ∈ world.log, log.Whole world.storage

namespace InOrder

variable {world : World} {log : Log}

theorem suffer (order : world.InOrder) (faults : Faults) :
    InOrder { world with storage := world.storage.suffer faults } := by
  have keeps := world.storage.keeps_suffer faults
  exact ⟨order.orderly.keeps keeps, fun log found => (order.coherent log found).retains
    keeps.retains, fun log found => (order.apart log found).retains (order.coherent log found)
    keeps.retains, fun log found => (order.whole log found).lengthens keeps.lengthens⟩

theorem dropLog (order : world.InOrder) : world.dropLog.InOrder := by
  have absent := world.log_dropLog
  refine ⟨order.orderly.keeps world.keeps_dropLog, ?_, ?_, ?_⟩ <;>
    · rw [absent]
      nofun

theorem openLog (order : world.InOrder) (forgotten : world.log = none) (config : Config) :
    (world.openLog config).InOrder := by
  have orderly := Log.orderly_openDirectory order.orderly config
  unfold World.openLog
  split
  · rename_i log after outcome
    rw [outcome] at orderly
    obtain ⟨coherent, _, apart⟩ := Log.coherent_openDirectory order.orderly.sound outcome
    refine ⟨orderly, ?_, ?_, ?_⟩
    · rintro _ ⟨⟩
      exact coherent
    · rintro _ ⟨⟩
      exact apart order.orderly
    · rintro _ ⟨⟩
      exact Log.whole_openDirectory order.orderly outcome
  · rename_i after outcome
    rw [outcome] at orderly
    refine ⟨orderly, ?_, ?_, ?_⟩ <;>
      · rw [forgotten]
        nofun

theorem write (order : world.InOrder) (payload : List UInt8) : (world.write payload).InOrder := by
  cases present : world.log with
  | none => rwa [world.write_of_none present]
  | some log =>
      have coherent := order.coherent log present
      rw [write_eq world present payload]
      have evolves := (coherent.write payload).1
      refine ⟨Log.orderly_write coherent order.orderly payload, ?_, ?_, ?_⟩
      · rintro _ ⟨⟩
        exact evolves.coherent
      · rintro _ ⟨⟩
        exact evolves.apart (order.apart log present)
      · rintro _ ⟨⟩
        exact (order.whole log present).write coherent payload

/-- What changes no bytes leaves a world in order if it does so with its log. -/
theorem act (order : world.InOrder)
    {action : Log → Storage → Except Failure Unit × Log × Storage}
    (keeps : ∀ log (storage : Storage), storage.Keeps (action log storage).2.2)
    (evolves : ∀ {log : Log} {storage}, log.Coherent storage →
      log.Evolves storage (action log storage).2.1 (action log storage).2.2)
    (whole : ∀ {log : Log} {storage}, log.Whole storage →
      (action log storage).2.1.Whole (action log storage).2.2) :
    (world.act action).InOrder := by
  cases present : world.log with
  | none =>
      have same : world.act action = world := by
        unfold World.act
        rw [present]
      rwa [same]
  | some log =>
      unfold World.act
      rw [present]
      have onward := evolves (order.coherent log present)
      refine ⟨order.orderly.keeps (keeps log world.storage), ?_, ?_, ?_⟩
      · rintro _ ⟨⟩
        exact onward.coherent
      · rintro _ ⟨⟩
        exact onward.apart (order.apart log present)
      · rintro _ ⟨⟩
        exact whole (order.whole log present)

/-- Every operation leaves a world in order, whatever the storage refuses. -/
theorem step (order : world.InOrder) (event : Faults × Operation) : (world.step event).InOrder := by
  obtain ⟨faults, operation⟩ := event
  have suffering := order.suffer faults
  cases operation with
  | openLog config => exact suffering.dropLog.openLog (log_dropLog _) config
  | write payload => exact suffering.write payload
  | read position => exact suffering
  | scan id => exact suffering
  | sync => exact suffering.act Log.keeps_sync Log.Coherent.evolves_sync .sync
  | close => exact suffering.act Log.keeps_close Log.Coherent.evolves_close .close
  | drop => exact suffering.dropLog

theorem start {storage : Storage} (orderly : storage.Orderly) : (World.start storage).InOrder :=
  ⟨orderly, nofun, nofun, nofun⟩

/-- A world is in order at any time of its history. -/
theorem run (order : world.InOrder) (events : List (Faults × Operation)) :
    (world.run events).InOrder := by
  induction events using List.reverseRecOn with
  | nil => exact order
  | append_singleton events event ih =>
      rw [run_concat]
      exact ih.step event

end InOrder

end World

end RecordLog
