import RecordLog.Proofs.Bookkeeping
import RecordLog.Proofs.Requests
import RecordLog.Proofs.Roster

/-!
# Closing a log

Closing goes through the segments in ascending order. Each is synced and given up,
whatever became of those before it, so the file of a segment is covered to its end
if its own sync succeeds, also when an earlier sync had failed. The answer names the
first segment whose sync fails, which is the one with the smallest id. If none fails,
every record the log acknowledged is covered.

A closed log is at rest. It answers that it is closed, and when it is closed again
that this succeeded; nothing that is asked of it changes it or a file.
-/

namespace RecordLog

/-- A file after a sync that succeeded. -/
def FileNode.flushed (file : FileNode) : FileNode := { file with synced := file.bytes.size }

namespace Storage

variable {storage : Storage} {handle : Handle}

/-- A handle was given up. -/
def Released (storage : Storage) (handle : Handle) : Prop :=
  ∀ opened ∈ storage.opened[handle.index]?, opened.held = false

theorem opened_sync (storage : Storage) (handle : Handle) :
    (storage.sync handle).2.opened = storage.opened := by
  unfold sync
  split
  · rfl
  · simp only [modifyOpen]
    split <;> rfl

/-- A sync that succeeds covers its file to the end. -/
theorem fileOf?_sync (storage : Storage) (handle other : Handle) :
    (storage.sync handle).2.fileOf? other =
      if storage.syncFails handle = false ∧ storage.nodeOf? other = storage.nodeOf? handle then
        (storage.fileOf? other).map FileNode.flushed
      else storage.fileOf? other := by
  unfold sync
  cases storage.syncFails handle with
  | true => simp
  | false =>
      simp only [Bool.false_eq_true, if_false, true_and]
      exact storage.fileOf?_modifyOpen handle other _

theorem fileOf?_release (storage : Storage) (handle other : Handle) :
    (storage.release handle).fileOf? other = storage.fileOf? other := by
  have same : (storage.release handle).nodeOf? other = storage.nodeOf? other := by
    simp only [nodeOf?, release, modifyHandle, Array.getElem?_modify]
    split
    · cases storage.opened[other.index]? <;> rfl
    · rfl
  simp only [fileOf?, same]
  rfl

theorem released_release (storage : Storage) (handle : Handle) :
    (storage.release handle).Released handle := by
  intro opened found
  simp only [release, modifyHandle, Array.getElem?_modify, if_true, Option.mem_def,
    Option.map_eq_some_iff] at found
  obtain ⟨_, _, rfl⟩ := found
  rfl

/-- A handle that was given up is not taken back. -/
theorem Released.release (released : storage.Released handle) (other : Handle) :
    (storage.release other).Released handle := by
  intro opened found
  simp only [Storage.release, modifyHandle, Array.getElem?_modify] at found
  split at found
  · simp only [Option.mem_def, Option.map_eq_some_iff] at found
    obtain ⟨_, _, rfl⟩ := found
    rfl
  · exact released opened found

end Storage

/-! ## Closing segments -/

namespace Segment

variable {segments : List Segment} {segment : Segment} {storage : Storage} {handle : Handle}
  {file : FileNode}

theorem close_of_open (isOpen : segment.closed = false) (storage : Storage) :
    segment.close storage =
      (!storage.syncFails segment.handle, segment.shut,
        (storage.sync segment.handle).2.release segment.handle) := by
  rw [close_eq, if_neg (by simp [isOpen]), Storage.sync_fst]

/-- Closing a segment leaves it open which syncs fail. -/
theorem syncFails_close (isOpen : segment.closed = false) (storage : Storage) (other : Handle) :
    (segment.close storage).2.2.syncFails other = storage.syncFails other := by
  rw [close_of_open isOpen, Storage.syncFails_release, Storage.syncFails_sync]

theorem fileOf?_close (isOpen : segment.closed = false) (storage : Storage) (other : Handle) :
    (segment.close storage).2.2.fileOf? other =
      if storage.syncFails segment.handle = false ∧
          storage.nodeOf? other = storage.nodeOf? segment.handle then
        (storage.fileOf? other).map FileNode.flushed
      else storage.fileOf? other := by
  rw [close_of_open isOpen, Storage.fileOf?_release, Storage.fileOf?_sync]

/-- Closing a segment changes nothing of a file but how far it was synced. -/
theorem exists_fileOf?_close (isOpen : segment.closed = false)
    (found : storage.fileOf? handle = some file) :
    ∃ again, (segment.close storage).2.2.fileOf? handle = some again ∧
      again.flushed = file.flushed := by
  rw [fileOf?_close isOpen, found]
  split
  · exact ⟨file.flushed, rfl, rfl⟩
  · exact ⟨file, rfl, rfl⟩

theorem released_close (isOpen : segment.closed = false) (storage : Storage) :
    (segment.close storage).2.2.Released segment.handle := by
  rw [close_of_open isOpen]
  exact Storage.released_release _ _

theorem released_close_of_released (isOpen : segment.closed = false)
    (released : storage.Released handle) : (segment.close storage).2.2.Released handle := by
  rw [close_of_open isOpen]
  apply Storage.Released.release
  rw [Storage.Released, Storage.opened_sync]
  exact released

/-- Where ids ascend, the first segment of some kind has the smallest id. -/
theorem find?_eq_some_iff {kind : Segment → Bool}
    (ascending : segments.Pairwise fun first second => first.id.number < second.id.number) :
    segments.find? kind = some segment ↔ segment ∈ segments ∧ kind segment = true ∧
      ∀ other ∈ segments, kind other = true → segment.id.number ≤ other.id.number := by
  rw [List.find?_eq_some_iff_append]
  constructor
  · rintro ⟨holds, front, back, rfl, before⟩
    have behind := List.pairwise_cons.mp (List.pairwise_append.mp ascending).2.1
    refine ⟨by simp, holds, ?_⟩
    intro other member also
    rcases List.mem_append.mp member with earlier | later
    · have differs := before other earlier
      rw [also] at differs
      cases differs
    · rcases List.mem_cons.mp later with rfl | later
      · exact Nat.le_refl _
      · exact Nat.le_of_lt (behind.1 other later)
  · rintro ⟨member, holds, least⟩
    obtain ⟨front, back, rfl⟩ := List.append_of_mem member
    refine ⟨holds, front, back, rfl, ?_⟩
    intro other earlier
    cases also : kind other with
    | false => rfl
    | true =>
        have le := least other (List.mem_append_left _ earlier) also
        have lt := (List.pairwise_append.mp ascending).2.2 other earlier segment List.mem_cons_self
        exact absurd le (Nat.not_le.mpr lt)

end Segment

/-! ### All segments -/

namespace Table

variable {table : Table} {member : SegmentId × Segment} {storage : Storage} {file : FileNode}

/-- What the closing of each segment keeps is kept when all are closed. -/
theorem kept_closeAll (Kept : Storage → Prop)
    (keeps : ∀ entry ∈ table, ∀ storage, Kept storage → Kept (entry.2.close storage).2.2)
    (kept : Kept storage) : Kept (closeAll table storage).2.2 := by
  induction table generalizing storage with
  | nil => exact kept
  | cons first rest ih =>
      obtain ⟨here, further⟩ := List.forall_mem_cons.mp keeps
      exact ih further (here storage kept)

/-- What the closing of one segment brings about, and the others neither prevent
before nor undo after it, is so when all are closed. -/
theorem reached_closeAll (Before After : Storage → Prop) (among : member ∈ table)
    (prepares : ∀ entry ∈ table, ∀ storage, Before storage → Before (entry.2.close storage).2.2)
    (brings : ∀ storage, Before storage → After (member.2.close storage).2.2)
    (keeps : ∀ entry ∈ table, ∀ storage, After storage → After (entry.2.close storage).2.2)
    (before : Before storage) : After (closeAll table storage).2.2 := by
  induction table generalizing storage with
  | nil => cases among
  | cons first rest ih =>
      obtain ⟨here, further⟩ := List.forall_mem_cons.mp prepares
      obtain ⟨_, keepsRest⟩ := List.forall_mem_cons.mp keeps
      change After (closeAll rest (first.2.close storage).2.2).2.2
      rcases List.mem_cons.mp among with rfl | later
      · exact kept_closeAll After keepsRest (brings storage before)
      · exact ih later further keepsRest (here storage before)

/-- The first segment is reported whose sync fails. -/
theorem closeAll_fst (isOpen : ∀ entry ∈ table, entry.2.closed = false) (storage : Storage) :
    (closeAll table storage).1 =
      (table.find? fun entry => storage.syncFails entry.2.handle).map Prod.fst := by
  induction table generalizing storage with
  | nil => rfl
  | cons first rest ih =>
      obtain ⟨here, openRest⟩ := List.forall_mem_cons.mp isOpen
      have same : (fun entry : SegmentId × Segment =>
          (first.2.close storage).2.2.syncFails entry.2.handle) =
            fun entry => storage.syncFails entry.2.handle :=
        funext fun entry => Segment.syncFails_close here storage entry.2.handle
      simp only [closeAll, ih openRest, same, List.find?_cons]
      rw [Segment.close_of_open here]
      cases storage.syncFails first.2.handle <;> rfl

/-- The file of every segment whose own sync succeeds is covered to its end, whatever
becomes of the others. -/
theorem fileOf?_closeAll (isOpen : ∀ entry ∈ table, entry.2.closed = false)
    (among : member ∈ table) (succeeds : storage.syncFails member.2.handle = false)
    (found : storage.fileOf? member.2.handle = some file) :
    (closeAll table storage).2.2.fileOf? member.2.handle = some file.flushed := by
  -- two names may lead to one file, so the sync of another segment may cover it as well
  refine reached_closeAll
    (fun storage => storage.syncFails member.2.handle = false ∧
      ∃ again, storage.fileOf? member.2.handle = some again ∧ again.flushed = file.flushed)
    (fun storage => storage.fileOf? member.2.handle = some file.flushed) among ?_ ?_ ?_
    ⟨succeeds, file, found, rfl⟩
  · rintro entry listed storage ⟨succeeds, again, found, same⟩
    have here := isOpen entry listed
    obtain ⟨further, foundAfter, sameAfter⟩ := Segment.exists_fileOf?_close here found
    exact ⟨(Segment.syncFails_close here storage _).trans succeeds, further, foundAfter,
      sameAfter.trans same⟩
  · rintro storage ⟨succeeds, again, found, same⟩
    rw [Segment.fileOf?_close (isOpen member among), if_pos ⟨succeeds, rfl⟩, found, ← same]
    rfl
  · intro entry listed storage covered
    rw [Segment.fileOf?_close (isOpen entry listed), covered]
    split <;> rfl

/-- All segments give up their handles. -/
theorem released_closeAll (isOpen : ∀ entry ∈ table, entry.2.closed = false)
    (among : member ∈ table) (storage : Storage) :
    (closeAll table storage).2.2.Released member.2.handle :=
  reached_closeAll (fun _ => True) (fun storage => storage.Released member.2.handle) among
    (fun _ _ _ _ => trivial) (fun storage _ => Segment.released_close (isOpen member among) storage)
    (fun entry listed _ released =>
      Segment.released_close_of_released (isOpen entry listed) released)
    trivial

end Table

/-! ## A closed log -/

namespace Log

variable {log : Log} {storage : Storage}

/-- Nothing that is asked of a closed log changes it or the storage. -/
theorem serve_of_closed (closed : log.closed = true) (request : Request) (storage : Storage) :
    (log.serve request storage).2 = (log, storage) := by
  cases request with
  | write payload =>
      obtain ⟨cause, refused⟩ := log.write_of_closed closed payload storage
      simp only [serve, refused]
  | read position => rfl
  | records id => rfl
  | segmentBytes id => rfl
  | sync => simp only [serve, sync, if_pos closed]
  | close => simp only [serve, close, if_pos closed]

theorem withSegment_of_closed {α : Type} (closed : log.closed = true) (id : SegmentId)
    (look : Segment → Except Failure α) : log.withSegment id look = .error .closed :=
  if_pos closed

end Log

namespace Service

variable {service : Service}

/-- What a closed log answers. The size of a payload is looked at first, as it is by
an open one. -/
structure Declines (service : Service) (faults : Faults) : Prop where
  close : service.answer (faults, .close) = .ok .done
  sync : service.answer (faults, .sync) = .error .closed
  read : ∀ position, service.answer (faults, .read position) = .error .closed
  records : ∀ id, service.answer (faults, .records id) = .error .closed
  write : ∀ payload, service.answer (faults, .write payload) =
    .error (if payload.length ≤ service.log.config.maxPayloadSize then .closed
      else .payloadTooLarge payload.length service.log.config.maxPayloadSize)

/-- The log is the same, its segments, their sizes and its counters included, and so
are the names and all files. -/
structure Unchanged (before after : Service) : Prop where
  log_eq : after.log = before.log
  entries_eq : after.storage.entries = before.storage.entries
  nodes_eq : after.storage.nodes = before.storage.nodes

/-- Whatever is asked, and whatever the storage refuses meanwhile, nothing changes
and everything is declined. -/
def Rests (service : Service) : Prop :=
  ∀ later, service.Unchanged (service.run later) ∧ ∀ faults, (service.run later).Declines faults

theorem declines_of_closed (closed : service.log.closed = true) (faults : Faults) :
    service.Declines faults where
  close := by simp only [answer, Log.serve, Log.close, if_pos closed, Except.map]
  sync := by simp only [answer, Log.serve, Log.sync, if_pos closed, Except.map]
  read position := by
    simp only [answer, Log.serve, Log.read, Log.withSegment_of_closed closed, Except.map]
  records id := by
    simp only [answer, Log.serve, Log.records, Log.withSegment_of_closed closed, Except.map]
  write payload := by
    simp only [answer, Log.serve, Log.write, if_pos closed, ← Nat.not_le, ite_not]
    split <;> rfl

/-- A request to a closed log changes nothing. -/
theorem unchanged_step (closed : service.log.closed = true) (event : Faults × Request) :
    service.Unchanged (service.step event) := by
  have same := Log.serve_of_closed closed event.2 (service.storage.suffer event.1)
  simp only [step, same]
  exact ⟨rfl, rfl, rfl⟩

theorem Unchanged.trans {before middle after : Service} (first : before.Unchanged middle)
    (second : middle.Unchanged after) : before.Unchanged after :=
  ⟨second.log_eq.trans first.log_eq, second.entries_eq.trans first.entries_eq,
    second.nodes_eq.trans first.nodes_eq⟩

theorem unchanged_run (closed : service.log.closed = true) (later : List (Faults × Request)) :
    service.Unchanged (service.run later) := by
  induction later generalizing service with
  | nil => exact ⟨rfl, rfl, rfl⟩
  | cons event rest ih =>
      have here := unchanged_step closed event
      exact here.trans (ih (by rw [here.log_eq, closed]))

/-- A closed log is at rest. -/
theorem rests_of_closed (closed : service.log.closed = true) : service.Rests := by
  intro later
  have unchanged := unchanged_run closed later
  exact ⟨unchanged, declines_of_closed (by rw [unchanged.log_eq, closed])⟩

end Service

/-! ## Closing an open log -/

namespace Log

variable {log : Log} {storage : Storage} {entries : List (Position × List UInt8)}

/-- What the closing of a log comes to, which acknowledged some records. -/
structure Closes (log : Log) (storage : Storage) (entries : List (Position × List UInt8)) : Prop
    where
  /-- All segments are closed, and nothing else of the log changes. -/
  log_eq : (log.close storage).2.1 = log.shut
  released : ∀ segment ∈ log.segments, (log.close storage).2.2.Released segment.handle
  /-- No file loses or gains a byte or a name. -/
  keeps : storage.Keeps (log.close storage).2.2
  ok_iff : (log.close storage).1 = .ok () ↔
    ∀ segment ∈ log.segments, storage.syncFails segment.handle = false
  /-- The failure is that of the smallest id whose sync fails. -/
  error_iff : ∀ cause, (log.close storage).1 = .error cause ↔
    ∃ segment ∈ log.segments, cause = .syncFailed segment.id ∧
      storage.syncFails segment.handle = true ∧
        ∀ other ∈ log.segments, storage.syncFails other.handle = true →
          segment.id.number ≤ other.id.number
  /-- A sync that succeeds covers the whole file of its segment, whatever the others
  do. -/
  flushed : ∀ segment ∈ log.segments, storage.syncFails segment.handle = false →
    ∃ file, storage.fileOf? segment.handle = some file ∧
      (log.close storage).2.2.fileOf? segment.handle = some file.flushed
  /-- A success covers all records. -/
  covers : (log.close storage).1 = .ok () →
    ∀ entry ∈ entries, (log.close storage).2.1.Covers (log.close storage).2.2 entry
  rests : Service.Rests ⟨(log.close storage).2.1, (log.close storage).2.2⟩

/-- Closing leaves the segments on their handles. -/
theorem file?_shut (log : Log) (storage : Storage) (id : SegmentId) :
    log.shut.file? storage id = log.file? storage id := by
  have handles_eq : log.shut.handles = log.handles := by
    simp [handles, shut, Segment.shut]
  rw [file?, handles_eq, file?]

namespace Roster

variable (roster : log.Roster storage) (isOpen : log.closed = false)
include roster isOpen

theorem open_of_mem : ∀ entry ∈ log.table, entry.2.closed = false :=
  fun entry member =>
    (roster.formed.closed_eq entry.2 (List.mem_map_of_mem member)).trans isOpen

theorem close_fst :
    (log.close storage).1 =
      match log.segments.find? fun segment => storage.syncFails segment.handle with
      | none => .ok ()
      | some segment => .error (.syncFailed segment.id) := by
  rw [log.close_eq, if_neg (by simp [isOpen]), Table.closeAll_fst (roster.open_of_mem isOpen),
    roster.formed.table_eq, List.find?_map, Option.map_map]
  change (Option.map Segment.id
    (log.segments.find? fun segment => storage.syncFails segment.handle)).elim _ _ = _
  cases log.segments.find? fun segment => storage.syncFails segment.handle <;> rfl

theorem close_eq_ok_iff :
    (log.close storage).1 = .ok () ↔
      ∀ segment ∈ log.segments, storage.syncFails segment.handle = false := by
  rw [roster.close_fst isOpen]
  split
  · rename_i none
    exact iff_of_true rfl fun segment member =>
      eq_false_of_ne_true (List.find?_eq_none.mp none segment member)
  · rename_i segment first
    refine iff_of_false nofun fun succeed => ?_
    have fails := List.find?_some first
    rw [succeed segment (List.mem_of_find?_eq_some first)] at fails
    cases fails

theorem close_eq_error_iff (cause : Failure) :
    (log.close storage).1 = .error cause ↔
      ∃ segment ∈ log.segments, cause = .syncFailed segment.id ∧
        storage.syncFails segment.handle = true ∧
          ∀ other ∈ log.segments, storage.syncFails other.handle = true →
            segment.id.number ≤ other.id.number := by
  rw [roster.close_fst isOpen]
  constructor
  · intro failed
    split at failed
    · cases failed
    · rename_i segment found
      cases failed
      obtain ⟨member, fails, least⟩ := (Segment.find?_eq_some_iff roster.ascending).mp found
      exact ⟨segment, member, rfl, fails, least⟩
  · rintro ⟨segment, member, rfl, fails, least⟩
    have found : log.segments.find? (fun segment => storage.syncFails segment.handle) =
        some segment := (Segment.find?_eq_some_iff roster.ascending).mpr ⟨member, fails, least⟩
    rw [found]

/-- The file of a segment is covered to its end if its own sync succeeds. -/
theorem flushed_close {segment : Segment} (member : segment ∈ log.segments)
    (succeeds : storage.syncFails segment.handle = false) :
    ∃ file, storage.fileOf? segment.handle = some file ∧
      (log.close storage).2.2.fileOf? segment.handle = some file.flushed := by
  obtain ⟨file, found⟩ := roster.backs member
  obtain ⟨entry, among, rfl⟩ := List.mem_map.mp member
  refine ⟨file, found, ?_⟩
  rw [log.close_eq, if_neg (by simp [isOpen])]
  exact Table.fileOf?_closeAll (roster.open_of_mem isOpen) among succeeds found

/-- A record that a file holds is covered by a closing that succeeds. -/
theorem covers_close (succeeded : (log.close storage).1 = .ok ()) {entry : Position × List UInt8}
    (held : log.Holds storage entry) :
    (log.close storage).2.1.Covers (log.close storage).2.2 entry := by
  obtain ⟨file, found, inFile⟩ := held
  rw [file?_eq] at found
  obtain ⟨segment, among, backed⟩ := Option.bind_eq_some_iff.mp found
  have member : segment ∈ log.segments := by
    rw [roster.formed.segment?_eq] at among
    exact List.mem_of_find?_eq_some among
  obtain ⟨same, foundSame, flushed⟩ := roster.flushed_close isOpen member
    ((roster.close_eq_ok_iff isOpen).mp succeeded segment member)
  obtain rfl := Option.mem_unique backed foundSame
  have log_eq : (log.close storage).2.1 = log.shut := by
    rw [log.close_eq, if_neg (by simp [isOpen])]
  rw [log_eq]
  refine covers_iff.mpr ⟨file.flushed, ?_, inFile⟩
  rw [file?_shut, file?_eq]
  exact Option.bind_eq_some_iff.mpr ⟨segment, among, flushed⟩

/-- An open log whose files hold the records that it acknowledged is closed
completely, and for good. -/
theorem closes (held : ∀ entry ∈ entries, log.Holds storage entry) :
    log.Closes storage entries where
  log_eq := by rw [log.close_eq, if_neg (by simp [isOpen])]
  released segment member := by
    obtain ⟨entry, among, rfl⟩ := List.mem_map.mp member
    rw [log.close_eq, if_neg (by simp [isOpen])]
    exact Table.released_closeAll (roster.open_of_mem isOpen) among storage
  keeps := log.keeps_close storage
  ok_iff := roster.close_eq_ok_iff isOpen
  error_iff := roster.close_eq_error_iff isOpen
  flushed segment member := roster.flushed_close isOpen member
  covers succeeded entry member := roster.covers_close isOpen succeeded (held entry member)
  rests := Service.rests_of_closed (log.closed_close storage)

end Roster

end Log

/-! ## Histories -/

theorem Storage.Backs.syncFails_suffer {storage : Storage} {handle : Handle}
    (backs : storage.Backs handle) (faults : Faults) :
    (storage.suffer faults).syncFails handle = faults.syncFails handle.index := by
  obtain ⟨node, refers, _⟩ := Storage.backs_iff.mp backs
  obtain ⟨opened, at_index, _⟩ := Option.map_eq_some_iff.mp refers
  simp [syncFails, suffer, Array.getElem?_mapIdx, at_index]

namespace Log

variable {log : Log} {storage : Storage}

/-- Faults under which the syncs of some segments of a log fail. -/
def failing (log : Log) (fails : SegmentId → Bool) : Faults :=
  { Faults.none with
    syncFails := fun index =>
      log.segments.any (fun segment => segment.handle.index = index && fails segment.id) }

/-- The last syncs can fail in any combination, since no two segments share a handle. -/
theorem Roster.syncFails_failing (roster : log.Roster storage) (fails : SegmentId → Bool)
    {segment : Segment} (member : segment ∈ log.segments) :
    (storage.suffer (log.failing fails)).syncFails segment.handle = fails segment.id := by
  rw [(roster.backs member).syncFails_suffer, failing, Bool.eq_iff_iff, List.any_eq_true]
  constructor
  · rintro ⟨other, among, both⟩
    rw [Bool.and_eq_true, decide_eq_true_eq] at both
    have same : other = segment :=
      List.inj_on_of_nodup_map roster.separate among member (congrArg Handle.mk both.1)
    rw [← same]
    exact both.2
  · intro failed
    exact ⟨segment, member, by simp [failed]⟩

end Log

namespace World

variable {storage : Storage} {events : List (Faults × Operation)}

/-- If the log is open, closing it is complete, whichever of the last syncs fail. -/
def Concludes (world : World) : Prop :=
  ∀ log ∈ world.log, log.closed = false →
    (∀ last : Faults, log.Closes (world.storage.suffer last) world.acknowledged) ∧
      ∀ fails : SegmentId → Bool, ∃ last : Faults, ∀ segment ∈ log.segments,
        (world.storage.suffer last).syncFails segment.handle = fails segment.id

/-- An open log, whatever was done with it and whatever the storage refused, can be
closed under any failures of the last syncs. All segments are closed then, the answer
names the smallest id whose sync failed or is a success, a success covers every
record that was acknowledged since the log was opened, and after that nothing changes
any more. -/
theorem concludes_run (sound : storage.Sound) (faults : Faults) (config : Config)
    (stays : ∀ event ∈ events, ∀ config, event.2 ≠ .openLog config) :
    ((start storage).run ((faults, .openLog config) :: events)).Concludes := by
  intro log found isOpen
  have roster := Rostered.run sound faults config stays log found
  have accounts := accounts_run sound faults config stays log found
  refine ⟨fun last => ?_, fun fails => ⟨log.failing fails, fun _ => roster.syncFails_failing fails⟩⟩
  have advances := Storage.advances_suffer
    ((start storage).run ((faults, .openLog config) :: events)).storage last
  exact (roster.advances advances).closes isOpen fun entry member =>
    (accounts.each entry member).held.continues (.refl log) advances

/-- The sync failed that was to cover the first record when its segment was sealed.
Closing the log covers it, and if this fails too, the failure is that of its segment. -/
theorem concludes_run_of_failedSeal :
    vacantStorage.Sound ∧ ((start vacantStorage).run (failedSeal.take 3)).Concludes ∧
      ∃ log, ((start vacantStorage).run (failedSeal.take 3)).log = some log ∧
        log.closed = false ∧
          ¬ log.Covers ((start vacantStorage).run (failedSeal.take 3)).storage
            (⟨⟨1⟩, 0⟩, List.replicate 30 1) ∧
            (log.close (((start vacantStorage).run (failedSeal.take 3)).storage.suffer
              .none)).2.1.Covers
                (log.close (((start vacantStorage).run (failedSeal.take 3)).storage.suffer
                  .none)).2.2 (⟨⟨1⟩, 0⟩, List.replicate 30 1) ∧
              (log.close (((start vacantStorage).run (failedSeal.take 3)).storage.suffer
                { Faults.none with syncFails := fun _ => true })).1 =
                  .error (.syncFailed ⟨1⟩) := by
  have sound := Storage.orderly_vacantStorage.sound
  have stays : ∀ event ∈ (failedSeal.take 3).tail, ∀ config, event.2 ≠ .openLog config := by
    simp [failedSeal]
  have concludes : ((start vacantStorage).run (failedSeal.take 3)).Concludes :=
    concludes_run sound .none narrowSettings stays
  have facts : ∀ log ∈ ((start vacantStorage).run (failedSeal.take 3)).log,
      log.closed = false ∧
        ¬ log.Covers ((start vacantStorage).run (failedSeal.take 3)).storage
          (⟨⟨1⟩, 0⟩, List.replicate 30 1) ∧
          (log.close (((start vacantStorage).run (failedSeal.take 3)).storage.suffer
            .none)).1 = .ok () ∧
            (log.close (((start vacantStorage).run (failedSeal.take 3)).storage.suffer
              { Faults.none with syncFails := fun _ => true })).1 =
                .error (.syncFailed ⟨1⟩) := by
    decide +kernel
  have acknowledged : (⟨⟨1⟩, 0⟩, List.replicate 30 1) ∈
      ((start vacantStorage).run (failedSeal.take 3)).acknowledged := by
    decide +kernel
  have opened : (((start vacantStorage).run (failedSeal.take 3)).log).isSome = true := by
    decide +kernel
  obtain ⟨log, found⟩ := Option.isSome_iff_exists.mp opened
  obtain ⟨isOpen, uncovered, succeeds, fails⟩ := facts log found
  have covered := ((concludes log found isOpen).1 .none).covers succeeds _ acknowledged
  exact ⟨sound, concludes, log, found, isOpen, uncovered, covered, fails⟩

end World

end RecordLog
