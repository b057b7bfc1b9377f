import RecordLog.Proofs.Catalog
import RecordLog.Proofs.Durability
import RecordLog.Proofs.Upholding

/-!
# Accounting for what is not synced

An open log answers for every record it acknowledged: the record stands whole
in the file of its segment, and either a sync of that file has covered it, or
the log still counts it, which it does for records of the active segment alone.
Syncs, failed syncs, appends and closing keep these accounts. A rotation syncs
the segment it seals once; if that fails, the records that were counted there
are not followed any further, and are said to be left behind.
-/

namespace RecordLog

namespace Log

/-- The file of a record was synced as far as the record reaches. -/
def Covers (log : Log) (storage : Storage) (entry : Position × List UInt8) : Prop :=
  ∃ segment ∈ log.segment? entry.1.segment,
    log.layout.recordStop entry.1.offset entry.2 ≤ storage.syncedLength segment.handle

instance (log : Log) (storage : Storage) (entry : Position × List UInt8) :
    Decidable (log.Covers storage entry) :=
  inferInstanceAs (Decidable (∃ segment ∈ log.segment? entry.1.segment,
    log.layout.recordStop entry.1.offset entry.2 ≤ storage.syncedLength segment.handle))

/-- A record is left behind: the log went on from its segment, the sync of that
segment failed, and no sync before had covered the record. -/
structure LeavesBehind (log : Log) (storage : Storage) (again : Log)
    (entry : Position × List UInt8) : Prop where
  rotates : again.active.id ≠ log.active.id
  fails : storage.syncFails log.active.handle = true
  id_eq : entry.1.segment = log.active.id
  uncovered : ¬ log.Covers storage entry

/-! ## The files of a log -/

/-- The files that segments are open on, by the ids of the segments. -/
def handles (log : Log) : List (SegmentId × Handle) :=
  log.table.map fun entry => (entry.1, entry.2.handle)

/-- The file of a segment. -/
def file? (log : Log) (storage : Storage) (id : SegmentId) : Option FileNode :=
  (log.handles.lookup id).bind storage.fileOf?

/-- A log with the same segments, and possibly more. -/
structure Continues (log again : Log) : Prop where
  layout_eq : again.layout = log.layout
  handles : log.handles <+: again.handles

/-- The active segment of an open log in good form is open on a file. -/
structure Custody (log : Log) (storage : Storage) : Prop where
  formed : log.Formed
  attached : log.active.Attached log.layout storage

variable {log again : Log} {storage after : Storage} {id : SegmentId}
  {entry : Position × List UInt8} {Left Other : Position × List UInt8 → Prop}

private theorem lookup_handles (table : Table) (id : SegmentId) :
    (table.map fun entry => (entry.1, entry.2.handle)).lookup id =
      (table.lookup id).map Segment.handle := by
  induction table with
  | nil => rfl
  | cons entry rest ih =>
      rw [List.map_cons, List.lookup_cons, List.lookup_cons, ih]
      cases id == entry.1 <;> rfl

theorem file?_eq (log : Log) (storage : Storage) (id : SegmentId) :
    log.file? storage id =
      (log.segment? id).bind fun segment => storage.fileOf? segment.handle := by
  rw [file?, handles, lookup_handles, Option.bind_map]
  rfl

theorem Formed.handles_eq (formed : log.Formed) :
    log.handles = log.segments.map Segment.key := by
  rw [handles, formed.table_eq, List.map_map]
  rfl

theorem handles_withSegments (log : Log) (sealed : List Segment) (active : Segment) :
    (log.withSegments sealed active).handles = (sealed ++ [active]).map Segment.key := by
  rw [handles, withSegments, List.map_map]
  rfl

/-- The active segment stays on its handle while it grows. -/
theorem Formed.handles_resized (formed : log.Formed) (size : Nat) (poisoned : Bool) :
    (log.withActive { log.active with size, poisoned }).handles = log.handles := by
  rw [Log.withActive, handles_withSegments, formed.handles_eq, formed.segments_eq]
  simp [Segment.key]

/-- A record is covered as far as the sync of its file reaches. -/
theorem covers_iff :
    log.Covers storage entry ↔ ∃ file ∈ log.file? storage entry.1.segment,
      log.layout.recordStop entry.1.offset entry.2 ≤ file.synced := by
  rw [Covers, file?_eq]
  constructor
  · rintro ⟨segment, found, covered⟩
    cases backed : storage.fileOf? segment.handle with
    | none =>
        have := log.layout.align_lt_recordStop entry.1.offset entry.2
        rw [Storage.syncedLength_of_none backed] at covered
        omega
    | some file =>
        rw [Storage.syncedLength_eq backed] at covered
        exact ⟨file, Option.bind_eq_some_iff.mpr ⟨segment, found, backed⟩, covered⟩
  · rintro ⟨file, found, covered⟩
    obtain ⟨segment, found, backed⟩ := Option.bind_eq_some_iff.mp found
    exact ⟨segment, found, by rwa [Storage.syncedLength_eq backed]⟩

/-- The files of a log advance with its storage. -/
theorem Continues.file? (continues : log.Continues again) (advances : storage.Advances after)
    {file : FileNode} (found : log.file? storage id = some file) :
    ∃ advanced, again.file? after id = some advanced ∧ file.Advances advanced := by
  obtain ⟨handle, listed, backed⟩ := Option.bind_eq_some_iff.mp found
  obtain ⟨advanced, foundAfter, further⟩ := advances handle file backed
  obtain ⟨more, handles_eq⟩ := continues.handles
  refine ⟨advanced, Option.bind_eq_some_iff.mpr ⟨handle, ?_, foundAfter⟩, further⟩
  rw [← handles_eq, List.lookup_append, listed]
  rfl

/-- The file of the active segment is the one it is open on. -/
theorem Custody.file?_active (custody : log.Custody storage) (after : Storage) :
    log.file? after log.active.id = after.fileOf? log.active.handle := by
  rw [file?_eq, custody.formed.segment?_active]
  rfl

/-! ## Accounting for records -/

/-- The file of a record reaches as far as the record. -/
def Holds (log : Log) (storage : Storage) (entry : Position × List UInt8) : Prop :=
  ∃ file ∈ log.file? storage entry.1.segment,
    log.layout.recordStop entry.1.offset entry.2 ≤ file.bytes.size

/-- A record stands in its file, and is covered there, is left out of account,
or is counted in the active segment. -/
structure AccountsFor (log : Log) (storage : Storage) (Left : Position × List UInt8 → Prop)
    (entry : Position × List UInt8) : Prop where
  held : log.Holds storage entry
  accounted : log.Covers storage entry ∨ Left entry ∨
    entry.1.segment = log.active.id ∧ 0 < log.stats.windowWrites

/-- A log accounts for some records. -/
structure Accounts (log : Log) (storage : Storage) (entries : List (Position × List UInt8))
    (Left : Position × List UInt8 → Prop) : Prop where
  custody : log.closed = false → log.Custody storage
  each : ∀ entry ∈ entries, log.AccountsFor storage Left entry

/-- The file of the active segment was synced to its end. -/
def Flushed (log : Log) (storage : Storage) : Prop :=
  ∀ file ∈ log.file? storage log.active.id, file.bytes.size ≤ file.synced

/-- What becomes of a log that stays in its active segment: where the count
of records comes down to zero, the segment was synced. -/
structure Proceeds (log : Log) (storage : Storage) (again : Log) (after : Storage) : Prop where
  continues : log.Continues again
  advances : storage.Advances after
  custody : again.closed = false → again.Custody after
  id_eq : again.active.id = log.active.id
  flushed : again.stats.windowWrites = 0 → log.stats.windowWrites = 0 ∨ again.Flushed after

theorem Holds.continues (held : log.Holds storage entry) (continues : log.Continues again)
    (advances : storage.Advances after) : again.Holds after entry := by
  obtain ⟨file, found, inFile⟩ := held
  obtain ⟨advanced, foundAfter, further⟩ := continues.file? advances found
  rw [← continues.layout_eq] at inFile
  exact ⟨advanced, foundAfter, Nat.le_trans inFile further.size_le⟩

/-- A record that is covered stays so. -/
theorem Holds.covers (held : log.Holds storage entry) (covered : log.Covers storage entry)
    (continues : log.Continues again) (advances : storage.Advances after) :
    again.Covers after entry := by
  obtain ⟨file, found, inFile⟩ := held
  obtain ⟨same, foundSame, reached⟩ := covers_iff.mp covered
  obtain rfl := Option.mem_unique found foundSame
  obtain ⟨advanced, foundAfter, further⟩ := continues.file? advances found
  rw [← continues.layout_eq] at inFile reached
  exact covers_iff.mpr ⟨advanced, foundAfter, further.covers inFile reached⟩

/-- A sync to the end of a file covers the records it holds. -/
theorem Holds.flushed (held : log.Holds storage entry) (flushed : log.Flushed storage)
    (same : entry.1.segment = log.active.id) : log.Covers storage entry := by
  obtain ⟨file, found, inFile⟩ := held
  rw [Flushed, ← same] at flushed
  exact covers_iff.mpr ⟨file, found, Nat.le_trans inFile (flushed file found)⟩

/-- Where nothing is counted, a record is covered or left out of account. -/
theorem AccountsFor.covered (accounts : log.AccountsFor storage Left entry)
    (window : log.stats.windowWrites = 0) : log.Covers storage entry ∨ Left entry := by
  rcases accounts.accounted with covered | left | ⟨_, counted⟩
  · exact .inl covered
  · exact .inr left
  · omega

theorem AccountsFor.proceed (accounts : log.AccountsFor storage Left entry)
    (proceeds : log.Proceeds storage again after) : again.AccountsFor after Left entry := by
  have held := accounts.held.continues proceeds.continues proceeds.advances
  refine ⟨held, ?_⟩
  rcases accounts.accounted with covered | left | ⟨same, counted⟩
  · exact .inl (accounts.held.covers covered proceeds.continues proceeds.advances)
  · exact .inr (.inl left)
  · rcases Nat.eq_zero_or_pos again.stats.windowWrites with none | some
    · rcases proceeds.flushed none with nothing | flushed
      · omega
      · exact .inl (held.flushed flushed (same.trans proceeds.id_eq.symm))
    · exact .inr (.inr ⟨same.trans proceeds.id_eq.symm, some⟩)

theorem Accounts.imp {entries : List (Position × List UInt8)}
    (accounts : log.Accounts storage entries Left) (more : ∀ entry, Left entry → Other entry) :
    log.Accounts storage entries Other where
  custody := accounts.custody
  each entry member :=
    have accounted := accounts.each entry member
    ⟨accounted.held, accounted.accounted.imp_right (Or.imp_left (more entry))⟩

theorem Accounts.proceed {entries : List (Position × List UInt8)}
    (accounts : log.Accounts storage entries Left) (proceeds : log.Proceeds storage again after) :
    again.Accounts after entries Left :=
  ⟨proceeds.custody, fun entry member => (accounts.each entry member).proceed proceeds⟩

/-! ## Syncing and closing -/

theorem Continues.refl (log : Log) : log.Continues log :=
  ⟨rfl, List.prefix_refl _⟩

theorem Continues.of_eq (layout_eq : again.layout = log.layout)
    (handles_eq : again.handles = log.handles) : log.Continues again :=
  ⟨layout_eq, by rw [handles_eq]⟩

theorem Custody.advances (custody : log.Custody storage) (advances : storage.Advances after) :
    log.Custody after :=
  ⟨custody.formed, custody.attached.advances advances⟩

theorem Proceeds.of_advances (custody : log.closed = false → log.Custody storage)
    (advances : storage.Advances after) : log.Proceeds storage log after :=
  ⟨.refl log, advances, fun isOpen => (custody isOpen).advances advances, rfl, .inl⟩

theorem Custody.sync_eq (custody : log.Custody storage) (after : Storage) :
    log.active.sync after = after.sync log.active.handle := by
  rw [Segment.sync_eq, if_neg (by simp [custody.attached.isOpen])]

theorem Custody.flushed_of_sync (custody : log.Custody storage)
    (synced : (log.active.sync storage).1 = true) : log.Flushed (log.active.sync storage).2 := by
  rw [custody.sync_eq] at synced ⊢
  rw [Flushed, custody.file?_active]
  exact Storage.covered_of_sync synced

/-- Syncing the active segment covers the records that are counted there, or
leaves their count. -/
theorem Custody.proceeds_sync (custody : log.Custody storage) :
    log.Proceeds storage (log.countSync (log.active.sync storage).1)
      (log.active.sync storage).2 := by
  have advances := log.active.advances_segmentSync storage
  have custodyAfter := custody.advances advances
  cases synced : (log.active.sync storage).1 with
  | false => exact .of_advances (fun _ => custody) advances
  | true =>
      exact ⟨.of_eq rfl rfl, advances,
        fun _ => ⟨custodyAfter.formed.countSync true, custodyAfter.attached⟩, rfl,
        fun _ => .inr (custody.flushed_of_sync synced)⟩

/-- A sync that succeeds leaves nothing to count. -/
theorem windowWrites_of_sync (synced : (log.sync storage).1 = .ok ()) :
    (log.sync storage).2.1.stats.windowWrites = 0 := by
  unfold sync at synced ⊢
  split at synced
  · cases synced
  rename_i isOpen
  rw [if_neg isOpen]
  split at synced
  · cases synced
  split at synced
  · cases synced
  split at synced
  · rfl
  · cases synced

theorem sync_of_closed (closed : log.closed = true) (storage : Storage) :
    log.sync storage = (.error .closed, log, storage) := by
  rw [sync, if_pos closed]

theorem proceeds_sync (custody : log.closed = false → log.Custody storage) :
    log.Proceeds storage (log.sync storage).2.1 (log.sync storage).2.2 := by
  cases open_or : log.closed with
  | true =>
      rw [sync_of_closed open_or]
      exact .of_advances custody (.refl storage)
  | false =>
      have proceeds := (custody open_or).proceeds_sync
      rw [(custody open_or).formed.sync_eq, if_neg (by simp [open_or])]
      split <;>
        · rename_i outcome
          rw [outcome] at proceeds
          exact proceeds

theorem proceeds_close (custody : log.closed = false → log.Custody storage) :
    log.Proceeds storage (log.close storage).2.1 (log.close storage).2.2 := by
  have advances := log.advances_close storage
  rw [log.close_eq] at advances ⊢
  cases open_or : log.closed with
  | true => exact .of_advances custody (.refl storage)
  | false =>
      have handles_eq : log.shut.handles = log.handles := by
        simp [handles, shut, Segment.shut]
      rw [open_or, if_neg Bool.false_ne_true] at advances
      rw [if_neg Bool.false_ne_true]
      have id_eq : log.shut.active.id = log.active.shut.id :=
        congrArg Segment.id (custody open_or).formed.active_shut
      refine ⟨.of_eq rfl handles_eq, advances, ?_, id_eq, .inl⟩
      rintro ⟨⟩

/-! ## Writing -/

/-- An append leaves the active segment on its file. -/
theorem Custody.withActive (custody : log.Custody storage) (size : Nat) (poisoned : Bool)
    (stats : Stats) :
    Custody { log.withActive { log.active with size, poisoned } with stats } storage where
  formed := custody.formed.resized size poisoned stats
  attached := by
    rw [active_withActive]
    exact ⟨custody.attached.layout_eq, custody.attached.isOpen, custody.attached.backed⟩

/-- An append leaves the active segment where it is. -/
theorem Custody.proceeds_append (custody : log.Custody storage) (payload : List UInt8)
    (stats : Stats) (counted : stats.windowWrites = 0 → log.stats.windowWrites = 0) :
    log.Proceeds storage { log.withActive (log.active.append payload storage).2.1 with stats }
      (log.active.append payload storage).2.2 := by
  have advances := log.active.advances_append payload storage
  obtain ⟨size, poisoned, active_eq⟩ := log.active.exists_append_eq payload storage
  rw [active_eq]
  refine ⟨.of_eq rfl (custody.formed.handles_resized size poisoned), advances,
    fun _ => (custody.advances advances).withActive _ _ _, ?_,
    fun nothing => .inl (counted nothing)⟩
  rw [active_withActive]

/-- A record that was appended is counted in the active segment. -/
theorem Custody.accountsFor_append (custody : log.Custody storage) {payload : List UInt8}
    {offset : Nat} (appended : (log.active.append payload storage).1 = .ok offset) {stats : Stats}
    (counted : 0 < stats.windowWrites) (Left : Position × List UInt8 → Prop) :
    AccountsFor { log.withActive (log.active.append payload storage).2.1 with stats }
      (log.active.append payload storage).2.2 Left
      (⟨(log.active.append payload storage).2.1.id, offset⟩, payload) := by
  obtain ⟨file, found, held⟩ := Segment.held_of_append custody.attached appended
  obtain ⟨size, poisoned, active_eq⟩ := log.active.exists_append_eq payload storage
  rw [active_eq]
  have same := custody.withActive size poisoned stats
  have file_eq := same.file?_active (log.active.append payload storage).2.2
  rw [active_withActive] at file_eq
  exact ⟨⟨file, file_eq.trans found, held⟩, .inr (.inr ⟨by rw [active_withActive], counted⟩)⟩

/-- An append stays in the active segment, and its record is accounted for. -/
theorem Accounts.append {entries : List (Position × List UInt8)}
    (accounts : log.Accounts storage entries Left) (isOpen : log.closed = false)
    (payload : List UInt8) :
    (log.append payload storage).2.1.active.id = log.active.id ∧
      (log.append payload storage).2.1.Accounts (log.append payload storage).2.2
        (match (log.append payload storage).1 with
          | .error _ => entries
          | .ok position => entries ++ [(position, payload)]) Left := by
  have custody := accounts.custody isOpen
  have failing := custody.proceeds_append payload log.stats id
  have counted : 0 < (log.stats.recordWrite payload.length).windowWrites := Nat.succ_pos _
  have writing := custody.proceeds_append payload (log.stats.recordWrite payload.length) (by omega)
  have recorded {offset : Nat} (appended : (log.active.append payload storage).1 = .ok offset) :=
    custody.accountsFor_append appended counted Left
  unfold Log.append
  generalize log.active.append payload storage = outcome at failing writing recorded ⊢
  obtain ⟨result, active, middle⟩ := outcome
  cases result with
  | error cause => exact ⟨failing.id_eq, accounts.proceed failing⟩
  | ok offset =>
      have written : Accounts { log.withActive active with
          stats := log.stats.recordWrite payload.length } middle
          (entries ++ [(⟨active.id, offset⟩, payload)]) Left := by
        refine ⟨writing.custody, ?_⟩
        intro entry member
        rcases List.mem_append.mp member with older | new
        · exact (accounts.each entry older).proceed writing
        · rw [List.mem_singleton.mp new]
          exact recorded rfl
      have syncing := (written.custody isOpen).proceeds_sync
      rw [active_withActive] at syncing
      simp only
      split
      · exact ⟨syncing.id_eq.trans writing.id_eq, written.proceed syncing⟩
      · exact ⟨writing.id_eq, written⟩

theorem Formed.continues_sealing (formed : log.Formed) (synced : Bool) (fresh : Segment) :
    log.Continues (log.sealing synced fresh) where
  layout_eq := by cases synced <;> rfl
  handles := by
    refine ⟨[fresh.key], ?_⟩
    rw [formed.handles_eq, formed.segments_eq]
    exact List.map_append.symm.trans (handles_withSegments (log.countSync synced) _ _).symm

/-- The fresh segment is the active one. -/
theorem Custody.sealing (custody : log.Custody storage) (isOpen : log.closed = false)
    (synced : Bool) {fresh : Segment} (id_eq : fresh.id = log.nextId)
    (attached : fresh.Attached log.layout after) :
    (log.sealing synced fresh).Custody after where
  formed := custody.formed.sealing synced id_eq (attached.isOpen.trans isOpen.symm)
  attached := by
    rw [(custody.formed.continues_sealing synced fresh).layout_eq, active_sealing]
    exact attached

/-- A rotation creates the file of the next segment, and then syncs the segment
that it seals. -/
theorem Formed.rotate_cases (formed : log.Formed) (storage : Storage) :
    (∃ cause after, log.rotate storage = (.error cause, log, after) ∧ storage.Advances after) ∨
      ∃ fresh created, fresh.id = log.nextId ∧ fresh.Attached log.layout created ∧
        storage.Advances created ∧
          (∀ handle, ∀ file ∈ storage.fileOf? handle,
            created.syncFails handle = storage.syncFails handle) ∧
            log.rotate storage =
              (.ok fresh.entry, log.sealing (log.active.sync created).1 fresh,
                (log.active.sync created).2) := by
  cases outcome : Segment.create (log.config.segmentPath log.nextId) log.nextId log.layout storage
    with
  | mk answer created =>
      obtain ⟨advances, fails⟩ := Segment.create_effect outcome
      cases answer with
      | error cause =>
          refine .inl ⟨cause, created, ?_, advances⟩
          rw [formed.rotate_eq, outcome]
      | ok fresh =>
          obtain ⟨id_eq, attached⟩ := Segment.attached_create outcome
          refine .inr ⟨fresh, created, id_eq, attached, advances, fails, ?_⟩
          rw [formed.rotate_eq, outcome]

/-- A record is covered when its segment is sealed, or left out of account, or
left behind. -/
theorem AccountsFor.sealing (accounts : log.AccountsFor storage Left entry)
    (custody : log.Custody storage) {fresh : Segment} {created : Storage}
    (id_eq : fresh.id = log.nextId) (advances : storage.Advances created)
    (fails : created.syncFails log.active.handle = storage.syncFails log.active.handle) :
    (log.sealing (log.active.sync created).1 fresh).Covers (log.active.sync created).2 entry ∨
      Left entry ∨
        log.LeavesBehind storage (log.sealing (log.active.sync created).1 fresh) entry := by
  have custodyCreated := custody.advances advances
  have onward := advances.trans (log.active.advances_segmentSync created)
  by_cases covered : log.Covers storage entry
  · exact .inl (accounts.held.covers covered (custody.formed.continues_sealing _ fresh) onward)
  rcases accounts.accounted with covers | left | ⟨same, _⟩
  · exact absurd covers covered
  · exact .inr (.inl left)
  -- the record is counted in the segment that is sealed
  cases synced : (log.active.sync created).1 with
  | true =>
      have held := accounts.held.continues (.refl log) onward
      have flushed := custodyCreated.flushed_of_sync synced
      exact .inl (held.covers (held.flushed flushed same)
        (custody.formed.continues_sealing true fresh) (.refl _))
  | false =>
      rw [custodyCreated.sync_eq] at synced
      refine .inr (.inr ⟨?_, fails.symm.trans (Storage.syncFails_of_sync synced), same, covered⟩)
      intro stays
      rw [active_sealing, id_eq, custody.formed.nextId_eq] at stays
      exact Nat.succ_ne_self _ (congrArg SegmentId.number stays)

/-- A rotation accounts for all records, some of which it may leave behind. -/
theorem Accounts.rotate {entries : List (Position × List UInt8)}
    (accounts : log.Accounts storage entries Left) (isOpen : log.closed = false)
    {opened : SegmentId × Segment} (rotated : log.rotate storage = (.ok opened, again, after)) :
    again.closed = false ∧ again.Accounts after entries fun entry =>
      Left entry ∨ entry ∈ entries ∧ log.LeavesBehind storage again entry := by
  have custody := accounts.custody isOpen
  obtain ⟨file, found⟩ := custody.attached.backed
  rcases custody.formed.rotate_cases storage with ⟨cause, _, failed, _⟩ |
    ⟨fresh, created, id_eq, attached, advances, fails, sealed⟩
  · rw [failed] at rotated
    cases rotated
  rw [sealed] at rotated
  cases rotated
  have syncing := log.active.advances_segmentSync created
  refine ⟨?_, fun _ => custody.sealing isOpen _ id_eq (attached.advances syncing), ?_⟩
  · cases (log.active.sync created).1 <;> exact isOpen
  intro entry member
  have accounted := accounts.each entry member
  refine ⟨accounted.held.continues (custody.formed.continues_sealing _ fresh)
    (advances.trans syncing), ?_⟩
  rcases accounted.sealing custody id_eq advances (fails _ file found) with
    covered | left | behind
  · exact .inl covered
  · exact .inr (.inl (.inl left))
  · exact .inr (.inl (.inr ⟨member, behind⟩))

/-- A write accounts for its record and for those before it. -/
theorem Accounts.write {entries : List (Position × List UInt8)}
    (accounts : log.Accounts storage entries Left) (payload : List UInt8) :
    (log.write payload storage).2.1.Accounts (log.write payload storage).2.2
      (match (log.write payload storage).1 with
        | .error _ => entries
        | .ok position => entries ++ [(position, payload)])
      fun entry =>
        Left entry ∨ entry ∈ entries ∧
          log.LeavesBehind storage (log.write payload storage).2.1 entry := by
  cases open_or : log.closed with
  | true =>
      obtain ⟨cause, refused⟩ := log.write_of_closed open_or payload storage
      rw [refused]
      exact accounts.imp fun _ => .inl
  | false =>
      have formed := (accounts.custody open_or).formed
      rw [formed.write_eq]
      split
      · exact accounts.imp fun _ => .inl
      rw [if_neg (by simp [open_or])]
      split
      · split
        · rename_i failed
          rcases formed.rotate_cases storage with
            ⟨_, _, refused, advances⟩ | ⟨_, _, _, _, _, _, rotated⟩
          · rw [refused] at failed
            cases failed
            exact (accounts.proceed (.of_advances accounts.custody advances)).imp fun _ => .inl
          · rw [rotated] at failed
            cases failed
        · rename_i middle rotatedStorage rotated
          obtain ⟨stillOpen, sealed⟩ := accounts.rotate open_or rotated
          obtain ⟨id_eq, appended⟩ := sealed.append stillOpen payload
          apply appended.imp
          rintro entry (left | ⟨member, behind⟩)
          · exact .inl left
          · refine .inr ⟨member, ?_, behind.fails, behind.id_eq, behind.uncovered⟩
            rw [id_eq]
            exact behind.rotates
      · exact (accounts.append open_or payload).2.imp fun _ => .inl

end Log

/-! ## Opening -/

namespace Log

variable {config : Config} {layout : Layout} {storage after : Storage} {log : Log}

/-- A log is opened with its active segment open on a file. -/
theorem custody_openFound {ids : List SegmentId} (sound : storage.Sound)
    (ascending : ids.eraseDups.Pairwise fun first second => first.number < second.number)
    (opened : openFound config layout ids storage = (.ok log, after)) : log.Custody after := by
  refine ⟨formed_openFound ascending opened, ?_⟩
  obtain ⟨segments, middle, outcome, begun | ⟨sealed, active, report, recovered, rfl, done, rfl⟩⟩ :=
    openFound_eq_ok ascending opened
  · obtain ⟨fresh, created, rfl⟩ := begin_eq_ok begun
    rw [active_ofSegments]
    exact (Segment.attached_create created).2
  · obtain ⟨ids_eq, attached, _, _⟩ := Segment.attached_openAll sound outcome
    rw [active_ofSegments]
    exact (Segment.attached_recover (attached active (by simp)) done).2

theorem custody_openDirectory (sound : storage.Sound)
    (opened : openDirectory config storage = (.ok log, after)) : log.Custody after := by
  obtain ⟨layout, made, ids, _, _, created, discovered, found⟩ := openDirectory_eq_ok opened
  have soundMade := sound.createDirectory ⟨config.directory⟩
  rw [created] at soundMade
  exact custody_openFound soundMade (Config.ascending_of_discover discovered) found

end Log

end RecordLog
