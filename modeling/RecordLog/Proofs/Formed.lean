import RecordLog.Proofs.Catalog

/-!
# Logs in good form

A log that could be opened has a segment; each of its segments stands under its
own id, in ascending order; the next id is the one behind the greatest; and the
segments are open while the log is. Opening a log brings this about, because ids
are discovered in order. Every operation keeps it: a write changes the last
segment or puts a new one behind it, and closing closes all segments. So a log
that could be opened never lacks an active segment, and its operations say what
they do to the sealed segments and to the active one.
-/

namespace RecordLog

/-! ## Tables -/

/-- A segment under its own id. -/
def Segment.entry (segment : Segment) : SegmentId × Segment := (segment.id, segment)

theorem Segment.map_fst_entry (segments : List Segment) :
    (segments.map entry).map Prod.fst = segments.map Segment.id := by
  rw [List.map_map]
  rfl

theorem Segment.map_snd_entry (segments : List Segment) :
    (segments.map entry).map Prod.snd = segments := by
  rw [List.map_map]
  exact List.map_id segments

namespace Table

variable {table : Table} {id : SegmentId}

/-- What is put under an id behind all others comes last. -/
theorem put_of_above (above : ∀ entry ∈ table, entry.1.number < id.number) (segment : Segment) :
    table.put id segment = table ++ [(id, segment)] := by
  induction table with
  | nil => rfl
  | cons entry rest ih =>
      have lt : entry.1.number < id.number := above entry List.mem_cons_self
      have ne : id ≠ entry.1 := fun same => Nat.lt_irrefl _ (same ▸ lt)
      rw [put, if_neg (Nat.not_lt.mpr (Nat.le_of_lt lt)), if_neg ne,
        ih fun other member => above other (List.mem_cons_of_mem entry member)]
      rfl

/-- What is put under the last id takes the last place. -/
theorem put_concat (below : ∀ entry ∈ table, entry.1.number < id.number) (kept segment : Segment) :
    put (table ++ [(id, kept)]) id segment = table ++ [(id, segment)] := by
  induction table with
  | nil => rw [List.nil_append, put, if_neg (Nat.lt_irrefl _), if_pos rfl]; rfl
  | cons entry rest ih =>
      have lt : entry.1.number < id.number := below entry List.mem_cons_self
      have ne : id ≠ entry.1 := fun same => Nat.lt_irrefl _ (same ▸ lt)
      rw [List.cons_append, put, if_neg (Nat.not_lt.mpr (Nat.le_of_lt lt)), if_neg ne,
        ih fun other member => below other (List.mem_cons_of_mem entry member)]
      rfl

/-- Segments that were opened in the order of their ids stand in that order. -/
theorem ofOpened_eq {ids : List SegmentId} {segments : List Segment}
    (ascending : ids.Pairwise fun first second => first.number < second.number)
    (ids_eq : segments.map Segment.id = ids) :
    ofOpened ids segments = segments.map Segment.entry := by
  subst ids_eq
  have onward (front back : List Segment)
      (ascending : ((front ++ back).map Segment.id).Pairwise fun first second =>
        first.number < second.number) :
      ((back.map Segment.id).zip back).foldl (fun table entry => put table entry.1 entry.2)
          (front.map Segment.entry) = (front ++ back).map Segment.entry := by
    induction back generalizing front with
    | nil => simp
    | cons segment rest ih =>
        have above : ∀ entry ∈ front.map Segment.entry, entry.1.number < segment.id.number := by
          intro entry member
          obtain ⟨other, among, rfl⟩ := List.mem_map.mp member
          rw [List.map_append, List.pairwise_append] at ascending
          exact ascending.2.2 other.id (List.mem_map_of_mem among) segment.id (by simp)
        have step : Table.put (front.map Segment.entry) segment.id segment =
            (front ++ [segment]).map Segment.entry := by
          rw [put_of_above above, List.map_append]
          rfl
        rw [List.append_cons] at ascending ⊢
        rw [List.map_cons, List.zip_cons_cons, List.foldl_cons, step]
        exact ih (front ++ [segment]) ascending
  exact onward [] segments ascending

theorem closeAll_eq_shut (table : Table) (storage : Storage) :
    (closeAll table storage).2.1 = table.map fun entry => (entry.1, entry.2.shut) := by
  induction table generalizing storage with
  | nil => rfl
  | cons entry rest ih =>
      simp only [closeAll, List.map_cons, entry.2.close_eq_shut, ih]

end Table

/-! ## Opening segments -/

section Opening

variable {config : Config} {layout : Layout} {storage after : Storage}

/-- The segments of some ids are opened under these ids. -/
theorem Segment.ids_openAll {ids : List SegmentId} {segments : List Segment}
    (opened : Segment.openAll config layout ids storage = (.ok segments, after)) :
    segments.map Segment.id = ids ∧ ∀ segment ∈ segments, segment.closed = false := by
  induction ids generalizing storage segments after with
  | nil =>
      cases opened
      exact ⟨rfl, by simp⟩
  | cons id rest ih =>
      rw [Segment.openAll] at opened
      split at opened
      · cases opened
      rename_i first middle openedFirst
      split at opened
      · cases opened
      rename_i others final openedRest
      cases opened
      obtain ⟨_, _, rfl⟩ := Segment.openExisting_eq_ok openedFirst
      obtain ⟨ids_eq, isOpen⟩ := ih openedRest
      refine ⟨by rw [List.map_cons, ids_eq]; rfl, ?_⟩
      intro segment member
      rcases List.mem_cons.mp member with rfl | later
      · rfl
      · exact isOpen segment later

/-- Ids are discovered in ascending order. -/
theorem Config.ascending_of_discover {ids : List SegmentId}
    (discovered : config.discover storage = .ok ids) :
    ids.eraseDups.Pairwise fun first second => first.number < second.number := by
  unfold Config.discover at discovered
  split at discovered
  · cases discovered
  · cases discovered
    exact SegmentId.ascending_eraseDups (SegmentId.sorted_sort _)

end Opening

namespace Log

variable {config : Config} {layout : Layout} {storage after : Storage} {log : Log}

/-! ## Good form -/

/-- A log has segments, each under its own id and in ascending order, and the next
id is the one behind that of the active segment. All segments are open, or all
are closed, as the log is. -/
structure Formed (log : Log) : Prop where
  nonempty : log.table ≠ []
  keyed : ∀ entry ∈ log.table, entry.2.id = entry.1
  ascending : log.ids.Pairwise fun first second => first.number < second.number
  nextId_eq : log.nextId = log.active.id.next
  closed_eq : ∀ segment ∈ log.segments, segment.closed = log.closed

/-- A log with other segments, of which the last one is active. -/
def withSegments (log : Log) (sealed : List Segment) (active : Segment) : Log :=
  { log with table := (sealed ++ [active]).map Segment.entry }

@[simp]
theorem segments_withSegments (log : Log) (sealed : List Segment) (active : Segment) :
    (log.withSegments sealed active).segments = sealed ++ [active] :=
  Segment.map_snd_entry _

@[simp]
theorem ids_withSegments (log : Log) (sealed : List Segment) (active : Segment) :
    (log.withSegments sealed active).ids = (sealed ++ [active]).map Segment.id :=
  Segment.map_fst_entry _

@[simp]
theorem sealed_withSegments (log : Log) (sealed : List Segment) (active : Segment) :
    (log.withSegments sealed active).sealed = sealed := by
  rw [Log.sealed, segments_withSegments, List.dropLast_concat]

@[simp]
theorem active?_withSegments (log : Log) (sealed : List Segment) (active : Segment) :
    (log.withSegments sealed active).active? = some active := by
  rw [active?, segments_withSegments, List.getLast?_concat]

@[simp]
theorem active_withSegments (log : Log) (sealed : List Segment) (active : Segment) :
    (log.withSegments sealed active).active = active := by
  rw [Log.active, active?_withSegments, Option.getD_some]

namespace Formed

theorem exists_concat (formed : log.Formed) :
    log.active? = some log.active ∧ log.segments = log.sealed ++ [log.active] := by
  have nonempty : log.segments ≠ [] := by
    rw [segments, ne_eq, List.map_eq_nil_iff]
    exact formed.nonempty
  have last : log.active? = some (log.segments.getLast nonempty) :=
    List.getLast?_eq_some_getLast nonempty
  have active_eq : log.active = log.segments.getLast nonempty := by
    rw [Log.active, last, Option.getD_some]
  exact ⟨by rw [last, active_eq],
    by rw [Log.sealed, active_eq, List.dropLast_concat_getLast nonempty]⟩

/-- A log in good form has an active segment. -/
theorem active?_eq (formed : log.Formed) : log.active? = some log.active :=
  formed.exists_concat.1

theorem segments_eq (formed : log.Formed) : log.segments = log.sealed ++ [log.active] :=
  formed.exists_concat.2

/-- Every segment stands under its own id. -/
theorem table_eq (formed : log.Formed) : log.table = log.segments.map Segment.entry := by
  rw [segments, List.map_map, eq_comm]
  apply List.map_congr_left _ |>.trans (List.map_id log.table)
  intro entry member
  exact Prod.ext (formed.keyed entry member) rfl

theorem ids_eq (formed : log.Formed) : log.ids = log.segments.map Segment.id := by
  rw [ids, formed.table_eq, Segment.map_fst_entry]

/-- The last entry is that of the active segment. -/
theorem getLast?_eq (formed : log.Formed) : log.table.getLast? = some log.active.entry := by
  rw [formed.table_eq, formed.segments_eq, List.map_append, List.map_singleton,
    List.getLast?_concat]

theorem mem_segments (formed : log.Formed) {segment : Segment} :
    segment ∈ log.segments ↔ segment ∈ log.sealed ∨ segment = log.active := by
  rw [formed.segments_eq, List.mem_append, List.mem_singleton]

/-- Sealed segments have smaller ids than the active one. -/
theorem below (formed : log.Formed) :
    ∀ segment ∈ log.sealed, segment.id.number < log.active.id.number := by
  have ascending := formed.ascending
  rw [formed.ids_eq, formed.segments_eq, List.map_append, List.pairwise_append] at ascending
  exact fun segment member =>
    ascending.2.2 segment.id (List.mem_map_of_mem member) log.active.id (by simp)

/-- The active segment has the greatest id. -/
theorem number_le (formed : log.Formed) {id : SegmentId} (member : id ∈ log.ids) :
    id.number ≤ log.active.id.number := by
  rw [formed.ids_eq] at member
  obtain ⟨segment, among, rfl⟩ := List.mem_map.mp member
  rcases formed.mem_segments.mp among with older | rfl
  · exact Nat.le_of_lt (formed.below segment older)
  · exact Nat.le_refl _

/-- A segment is found by its id. -/
theorem segment?_eq (formed : log.Formed) (id : SegmentId) :
    log.segment? id = log.segments.find? fun segment => segment.id = id := by
  rw [segment?, formed.table_eq]
  generalize log.segments = segments
  induction segments with
  | nil => rfl
  | cons segment rest ih =>
      rw [List.map_cons, Segment.entry, List.lookup_cons, List.find?_cons, ih]
      by_cases same : segment.id = id
      · simp [same]
      · have other : (id == segment.id) = false := beq_false_of_ne (Ne.symm same)
        simp [same, other]

theorem segment?_active (formed : log.Formed) :
    log.segment? log.active.id = some log.active := by
  have absent : log.sealed.find? (fun segment => segment.id = log.active.id) = none := by
    rw [List.find?_eq_none]
    intro segment member same
    rw [decide_eq_true_eq] at same
    exact Nat.ne_of_lt (formed.below segment member) (congrArg SegmentId.number same)
  rw [formed.segment?_eq, formed.segments_eq, List.find?_append, absent]
  simp

/-- Segments are described with their own ids. -/
theorem infos_eq (formed : log.Formed) :
    log.infos = log.segments.map fun segment =>
      { id := segment.id
        path := segment.path
        size := segment.size
        active := segment.id = log.active.id } := by
  have last : log.ids.getLast? = some log.active.id := by
    rw [formed.ids_eq, formed.segments_eq, List.map_append, List.map_singleton,
      List.getLast?_concat]
  rw [infos, formed.table_eq, List.map_map, last]
  apply List.map_congr_left
  intro segment _
  exact congrArg (SegmentInfo.mk segment.id segment.path segment.size)
    (decide_eq_decide.mpr Option.some_inj)

end Formed

/-! ## What operations do to the segments -/

/-- A log with another active segment. -/
def withActive (log : Log) (active : Segment) : Log := log.withSegments log.sealed active

theorem active_withActive (log : Log) (active : Segment) (stats : Stats) :
    ({ log.withActive active with stats } : Log).active = active :=
  active_withSegments log log.sealed active

theorem sealed_withActive (log : Log) (active : Segment) (stats : Stats) :
    ({ log.withActive active with stats } : Log).sealed = log.sealed :=
  sealed_withSegments log log.sealed active

/-- A log that goes on in a fresh segment, whether or not the one before was
synced. -/
def sealing (log : Log) (synced : Bool) (fresh : Segment) : Log :=
  { (log.countSync synced).withSegments (log.sealed ++ [log.active]) fresh with
    nextId := log.nextId.next }

@[simp]
theorem segments_sealing (log : Log) (synced : Bool) (fresh : Segment) :
    (log.sealing synced fresh).segments = log.sealed ++ [log.active] ++ [fresh] :=
  segments_withSegments (log.countSync synced) _ _

@[simp]
theorem sealed_sealing (log : Log) (synced : Bool) (fresh : Segment) :
    (log.sealing synced fresh).sealed = log.sealed ++ [log.active] :=
  sealed_withSegments (log.countSync synced) _ _

@[simp]
theorem active_sealing (log : Log) (synced : Bool) (fresh : Segment) :
    (log.sealing synced fresh).active = fresh :=
  active_withSegments (log.countSync synced) _ _

/-- An append to the active segment. -/
def append (log : Log) (payload : List UInt8) (storage : Storage) :
    Except Failure Position × Log × Storage :=
  match log.active.append payload storage with
  | (.error cause, active, storage) => (.error cause, log.withActive active, storage)
  | (.ok offset, active, storage) =>
      let log := { log.withActive active with stats := log.stats.recordWrite payload.length }
      let position := ⟨active.id, offset⟩
      if log.syncDue then
        let (synced, storage) := active.sync storage
        (.ok position, log.countSync synced, storage)
      else
        (.ok position, log, storage)

/-- The log, closed with all of its segments. -/
def shut (log : Log) : Log :=
  { log with table := log.table.map fun entry => (entry.1, entry.2.shut), closed := true }

theorem segments_shut (log : Log) : log.shut.segments = log.segments.map Segment.shut := by
  simp [segments, shut]

theorem ids_shut (log : Log) : log.shut.ids = log.ids := by
  simp [ids, shut]

/-- A sync leaves the storage as the sync of a handle does, if anything. -/
theorem sync_snd (log : Log) (storage : Storage) :
    (log.sync storage).2.2 = storage ∨
      ∃ handle, (log.sync storage).2.2 = (storage.sync handle).2 := by
  unfold sync
  split
  · exact .inl rfl
  split
  · exact .inl rfl
  split
  · exact .inl rfl
  rename_i duplicate _
  refine .inr ⟨duplicate.handle, ?_⟩
  split <;>
    · rename_i outcome
      rw [← SyncHandle.sync, outcome]

/-- Closing a log closes all of its segments, and reports the first one whose sync
failed. -/
theorem close_eq (log : Log) (storage : Storage) :
    log.close storage =
      if log.closed then (.ok (), log, storage)
      else
        ((Table.closeAll log.table storage).1.elim (.ok ()) fun id => .error (.syncFailed id),
          log.shut, (Table.closeAll log.table storage).2.2) := by
  have table_eq := Table.closeAll_eq_shut log.table storage
  unfold close shut
  rw [← table_eq]
  split
  · rfl
  · generalize Table.closeAll log.table storage = outcome
    obtain ⟨failed, table, after⟩ := outcome
    cases failed <;> rfl

theorem countSync_eq (log : Log) (synced : Bool) :
    log.countSync synced = { log with stats := (log.countSync synced).stats } := by
  cases synced <;> rfl

/-- A sync changes nothing but what was counted. -/
theorem exists_sync_eq (log : Log) (storage : Storage) :
    ∃ stats, (log.sync storage).2.1 = { log with stats } := by
  unfold sync
  split
  · exact ⟨_, rfl⟩
  split
  · exact ⟨_, rfl⟩
  split
  · exact ⟨_, rfl⟩
  split
  · exact ⟨_, log.countSync_eq true⟩
  · exact ⟨_, rfl⟩

/-- An append changes the size of the active segment, or poisons it. -/
theorem exists_append_eq (log : Log) (payload : List UInt8) (storage : Storage) :
    ∃ size poisoned stats, (log.append payload storage).2.1 =
      { log.withActive { log.active with size, poisoned } with stats } := by
  obtain ⟨size, poisoned, active_eq⟩ := log.active.exists_append_eq payload storage
  unfold append
  generalize log.active.append payload storage = outcome at active_eq ⊢
  obtain ⟨answer, active, after⟩ := outcome
  cases active_eq
  cases answer with
  | error cause => exact ⟨size, poisoned, log.stats, rfl⟩
  | ok offset =>
      simp only
      split
      · exact ⟨size, poisoned, _, countSync_eq _ _⟩
      · exact ⟨size, poisoned, _, rfl⟩

namespace Formed

variable {segment : Segment}

/-- What is put under the id of the active segment takes its place. -/
theorem put_active (formed : log.Formed) (id_eq : segment.id = log.active.id) :
    log.put log.active.id segment = log.withActive segment := by
  have table_eq := formed.table_eq
  rw [formed.segments_eq, List.map_append, List.map_singleton] at table_eq
  have below : ∀ entry ∈ log.sealed.map Segment.entry, entry.1.number < log.active.id.number := by
    intro entry member
    obtain ⟨other, among, rfl⟩ := List.mem_map.mp member
    exact formed.below other among
  rw [put, table_eq, Segment.entry, Table.put_concat below, withActive, withSegments,
    List.map_append, List.map_singleton, Segment.entry, id_eq]

/-- What is put under the next id comes last. -/
theorem put_next (formed : log.Formed) (synced : Bool) (id_eq : segment.id = log.nextId) :
    (({ log with nextId := log.nextId.next }.countSync synced).put log.nextId segment) =
      log.sealing synced segment := by
  have above : ∀ entry ∈ log.table, entry.1.number < log.nextId.number := by
    intro entry member
    rw [formed.table_eq] at member
    obtain ⟨other, among, rfl⟩ := List.mem_map.mp member
    rw [formed.nextId_eq]
    rcases formed.mem_segments.mp among with older | rfl
    · exact Nat.lt_succ_of_lt (formed.below other older)
    · exact Nat.lt_succ_self _
  have table_eq : (log.sealed ++ [log.active] ++ [segment]).map Segment.entry =
      log.table.put log.nextId segment := by
    rw [Table.put_of_above above, List.map_append, ← formed.segments_eq, ← formed.table_eq,
      List.map_singleton, Segment.entry, id_eq]
  cases synced <;> simp only [put, sealing, withSegments, countSync, table_eq] <;> rfl

/-- A rotation syncs the active segment and goes on in a fresh one, if that could
be created. -/
theorem rotate_eq (formed : log.Formed) (storage : Storage) :
    log.rotate storage =
      match Segment.create (log.config.segmentPath log.nextId) log.nextId log.layout storage with
      | (.error cause, storage) => (.error cause, log, storage)
      | (.ok fresh, storage) =>
          (.ok fresh.entry, log.sealing (log.active.sync storage).1 fresh,
            (log.active.sync storage).2) := by
  have active?_eq : ({ log with nextId := log.nextId.next } : Log).active? = some log.active :=
    formed.active?_eq
  cases created : Segment.create (log.config.segmentPath log.nextId) log.nextId log.layout
      storage with
  | mk answer middle =>
      cases answer with
      | error cause => simp only [rotate, created]
      | ok fresh =>
          obtain ⟨_, _, rfl⟩ := Segment.create_eq_ok created
          simp only [rotate, created, active?_eq]
          rw [formed.put_next _ rfl]
          rfl

/-- An append to the entry of the active segment is one to the active segment. -/
theorem appendTo_eq (formed : log.Formed) (payload : List UInt8) (storage : Storage) :
    log.appendTo log.active.id log.active payload storage = log.append payload storage := by
  obtain ⟨size, poisoned, active_eq⟩ := log.active.exists_append_eq payload storage
  unfold appendTo append
  generalize log.active.append payload storage = outcome at active_eq
  obtain ⟨answer, active, middle⟩ := outcome
  simp only at active_eq
  have put_eq : log.put log.active.id active = log.withActive active :=
    formed.put_active (by rw [active_eq])
  cases answer <;> simp only [put_eq]

/-- A sync is one of the active segment. -/
theorem sync_eq (formed : log.Formed) (storage : Storage) :
    log.sync storage =
      if log.closed then (.error .closed, log, storage)
      else
        match log.active.sync storage with
        | (true, storage) => (.ok (), log.countSync true, storage)
        | (false, storage) => (.error (.syncFailed log.active.id), log, storage) := by
  unfold sync
  split
  · rfl
  · rename_i isOpen
    have active_eq : log.active.closed = false := by
      rw [formed.closed_eq log.active (formed.mem_segments.mpr (.inr rfl))]
      exact eq_false_of_ne_true isOpen
    have handle_eq : log.active.syncHandle? = some ⟨log.active.id, log.active.handle⟩ := by
      rw [Segment.syncHandle?, Segment.hasDuplicate_eq, active_eq]
      rfl
    have sync_eq : log.active.sync storage = storage.sync log.active.handle := by
      rw [Segment.sync_eq, active_eq, if_neg Bool.false_ne_true]
    cases outcome : storage.sync log.active.handle with
    | mk synced after =>
        cases synced <;>
          simp only [formed.active?_eq, handle_eq, SyncHandle.sync, sync_eq, outcome]

/-! ### Good form is kept -/

theorem withStats (formed : log.Formed) (stats : Stats) : Formed { log with stats } :=
  ⟨formed.nonempty, formed.keyed, formed.ascending, formed.nextId_eq, formed.closed_eq⟩

/-- Another state of the active segment is in good form too. -/
theorem withActive (formed : log.Formed) (id_eq : segment.id = log.active.id)
    (closed_eq : segment.closed = log.active.closed) : (log.withActive segment).Formed where
  nonempty := by simp [Log.withActive, withSegments]
  keyed entry member := by
    obtain ⟨_, _, rfl⟩ := List.mem_map.mp member
    rfl
  ascending := by
    have ascending := formed.ascending
    rw [formed.ids_eq, formed.segments_eq] at ascending
    rw [Log.withActive, ids_withSegments]
    simpa [id_eq] using ascending
  nextId_eq := by
    rw [Log.withActive, active_withSegments, id_eq]
    exact formed.nextId_eq
  closed_eq other member := by
    rw [Log.withActive, segments_withSegments, List.mem_append, List.mem_singleton] at member
    rcases member with older | rfl
    · exact formed.closed_eq other (formed.mem_segments.mpr (.inl older))
    · exact closed_eq.trans (formed.closed_eq log.active (formed.mem_segments.mpr (.inr rfl)))

/-- Sizes, failed writes and statistics do not matter. -/
theorem resized (formed : log.Formed) (size : Nat) (poisoned : Bool) (stats : Stats) :
    Formed { log.withActive { log.active with size, poisoned } with stats } :=
  have kept : (log.withActive { log.active with size, poisoned }).Formed :=
    formed.withActive rfl rfl
  kept.withStats stats

theorem countSync (formed : log.Formed) (synced : Bool) : (log.countSync synced).Formed := by
  unfold Log.countSync
  split
  · exact formed.withStats _
  · exact formed

theorem ids_sealing (formed : log.Formed) (synced : Bool) (segment : Segment) :
    (log.sealing synced segment).ids = log.ids ++ [segment.id] := by
  rw [formed.ids_eq, formed.segments_eq]
  exact (ids_withSegments (log.countSync synced) _ _).trans List.map_append

/-- A fresh segment under the next id comes last. -/
theorem sealing (formed : log.Formed) (synced : Bool) (id_eq : segment.id = log.nextId)
    (closed_eq : segment.closed = log.closed) : (log.sealing synced segment).Formed := by
  have segments_eq : (log.sealing synced segment).segments = log.segments ++ [segment] := by
    rw [formed.segments_eq, segments_sealing]
  have same : (log.sealing synced segment).closed = log.closed := by
    cases synced <;> rfl
  refine ⟨by simp [Log.sealing, withSegments], ?_, ?_, ?_, ?_⟩
  · intro entry member
    obtain ⟨_, _, rfl⟩ := List.mem_map.mp member
    rfl
  · rw [formed.ids_sealing, id_eq, List.pairwise_append]
    refine ⟨formed.ascending, List.pairwise_singleton _ _, ?_⟩
    intro id member next single
    rw [List.mem_singleton.mp single, formed.nextId_eq]
    rw [formed.ids_eq] at member
    obtain ⟨other, among, rfl⟩ := List.mem_map.mp member
    rcases formed.mem_segments.mp among with older | rfl
    · exact Nat.lt_succ_of_lt (formed.below other older)
    · exact Nat.lt_succ_self _
  · rw [active_sealing, id_eq]
    rfl
  · intro other member
    rw [same]
    rw [segments_eq, List.mem_append, List.mem_singleton] at member
    rcases member with older | rfl
    · exact formed.closed_eq other older
    · exact closed_eq

theorem active_shut (formed : log.Formed) : log.shut.active = log.active.shut := by
  rw [Log.active, active?, segments_shut, formed.segments_eq, List.map_append, List.map_singleton,
    List.getLast?_concat, Option.getD_some]

/-- A closed log is in good form with its segments closed. -/
theorem shut (formed : log.Formed) : log.shut.Formed := by
  refine ⟨?_, ?_, ?_, ?_, ?_⟩
  · rw [Log.shut, ne_eq, List.map_eq_nil_iff]
    exact formed.nonempty
  · intro entry member
    obtain ⟨other, among, rfl⟩ := List.mem_map.mp member
    exact formed.keyed other among
  · rw [ids_shut]
    exact formed.ascending
  · rw [formed.active_shut]
    exact formed.nextId_eq
  · intro segment member
    rw [segments_shut] at member
    obtain ⟨_, _, rfl⟩ := List.mem_map.mp member
    rfl

/-- A rotation that succeeds answers the entry of the segment that is active
then. -/
theorem rotate (formed : log.Formed) (isOpen : log.closed = false) (storage : Storage) :
    (log.rotate storage).2.1.Formed ∧
      ∀ entry, (log.rotate storage).1 = .ok entry →
        entry = (log.rotate storage).2.1.active.entry := by
  rw [formed.rotate_eq]
  cases created : Segment.create (log.config.segmentPath log.nextId) log.nextId log.layout
      storage with
  | mk answer middle =>
      cases answer with
      | error cause => exact ⟨formed, by rintro _ ⟨⟩⟩
      | ok fresh =>
          obtain ⟨_, _, rfl⟩ := Segment.create_eq_ok created
          refine ⟨formed.sealing _ rfl isOpen.symm, ?_⟩
          rintro _ ⟨⟩
          rw [active_sealing]

/-- A write appends to the active segment, before or after a rotation. -/
theorem write_eq (formed : log.Formed) (payload : List UInt8) (storage : Storage) :
    log.write payload storage =
      if log.config.maxPayloadSize < payload.length then
        (.error (.payloadTooLarge payload.length log.config.maxPayloadSize), log, storage)
      else if log.closed then (.error .closed, log, storage)
      else if log.needsRotation payload then
        match log.rotate storage with
        | (.error cause, log, storage) => (.error cause, log, storage)
        | (.ok _, log, storage) => log.append payload storage
      else log.append payload storage := by
  unfold write
  split
  · rfl
  split
  · rfl
  rename_i isOpen
  simp only [formed.getLast?_eq, Segment.entry, formed.appendTo_eq]
  split
  · obtain ⟨formedAfter, entry_eq⟩ := formed.rotate (eq_false_of_ne_true isOpen) storage
    generalize log.rotate storage = outcome at formedAfter entry_eq
    obtain ⟨answer, again, middle⟩ := outcome
    cases answer with
    | error cause => rfl
    | ok entry =>
        have same : entry = again.active.entry := entry_eq entry rfl
        subst same
        exact formedAfter.appendTo_eq payload middle
  · rfl

theorem append (formed : log.Formed) (payload : List UInt8) (storage : Storage) :
    (log.append payload storage).2.1.Formed := by
  obtain ⟨size, poisoned, stats, log_eq⟩ := log.exists_append_eq payload storage
  rw [log_eq]
  exact formed.resized size poisoned stats

theorem write (formed : log.Formed) (payload : List UInt8) (storage : Storage) :
    (log.write payload storage).2.1.Formed := by
  rw [formed.write_eq]
  split
  · exact formed
  split
  · exact formed
  rename_i isOpen
  split
  · have formedAfter := (formed.rotate (eq_false_of_ne_true isOpen) storage).1
    split <;>
      · rename_i outcome
        rw [outcome] at formedAfter
        first
          | exact formedAfter
          | exact formedAfter.append payload _
  · exact formed.append payload storage

theorem sync (formed : log.Formed) (storage : Storage) : (log.sync storage).2.1.Formed := by
  rw [formed.sync_eq]
  split
  · exact formed
  split
  · exact formed.countSync true
  · exact formed

theorem close (formed : log.Formed) (storage : Storage) : (log.close storage).2.1.Formed := by
  rw [log.close_eq]
  split
  · exact formed
  · exact formed.shut

end Formed

/-! ## Opening -/

/-- A log over opened segments. -/
def ofSegments (config : Config) (layout : Layout) (sealed : List Segment) (active : Segment) :
    Log :=
  ofTable config layout ((sealed ++ [active]).map Segment.entry)

@[simp]
theorem segments_ofSegments (config : Config) (layout : Layout) (sealed : List Segment)
    (active : Segment) : (ofSegments config layout sealed active).segments = sealed ++ [active] :=
  Segment.map_snd_entry _

@[simp]
theorem ids_ofSegments (config : Config) (layout : Layout) (sealed : List Segment)
    (active : Segment) :
    (ofSegments config layout sealed active).ids = (sealed ++ [active]).map Segment.id :=
  Segment.map_fst_entry _

@[simp]
theorem sealed_ofSegments (config : Config) (layout : Layout) (sealed : List Segment)
    (active : Segment) : (ofSegments config layout sealed active).sealed = sealed := by
  rw [Log.sealed, segments_ofSegments, List.dropLast_concat]

@[simp]
theorem active_ofSegments (config : Config) (layout : Layout) (sealed : List Segment)
    (active : Segment) : (ofSegments config layout sealed active).active = active := by
  rw [Log.active, active?, segments_ofSegments, List.getLast?_concat, Option.getD_some]

/-- Open segments with ascending ids make a log in good form. -/
theorem formed_ofSegments {sealed : List Segment} {active : Segment}
    (ascending : ((sealed ++ [active]).map Segment.id).Pairwise fun first second =>
      first.number < second.number)
    (isOpen : ∀ segment ∈ sealed ++ [active], segment.closed = false) :
    (ofSegments config layout sealed active).Formed where
  nonempty := by simp [ofSegments, ofTable]
  keyed entry member := by
    obtain ⟨_, _, rfl⟩ := List.mem_map.mp member
    rfl
  ascending := by rwa [ids_ofSegments]
  nextId_eq := by
    rw [active_ofSegments, ofSegments, ofTable, List.map_append, List.map_singleton]
    simp [Segment.entry]
  closed_eq segment member := by
    rw [segments_ofSegments] at member
    exact isOpen segment member

/-- One open segment makes a log in good form. -/
theorem formed_ofSegments_nil {active : Segment} (isOpen : active.closed = false) :
    (ofSegments config layout [] active).Formed :=
  formed_ofSegments (by simp) (by simpa using isOpen)

/-- A log begins with what the creation of its first segment answers. -/
theorem begin_eq {answer : Except Failure Segment}
    (created : Segment.create (config.segmentPath .first) .first layout storage =
      (answer, after)) :
    begin config layout storage = (answer.map (ofSegments config layout []), after) := by
  cases answer with
  | error cause => simp only [begin, created, Except.map]
  | ok segment =>
      obtain ⟨_, _, rfl⟩ := Segment.create_eq_ok created
      simp only [begin, created, Except.map]
      rfl

/-- A log that begins is a log of one segment, which was created. -/
theorem begin_eq_ok (begun : begin config layout storage = (.ok log, after)) :
    ∃ fresh, Segment.create (config.segmentPath .first) .first layout storage = (.ok fresh, after) ∧
      log = ofSegments config layout [] fresh := by
  cases created : Segment.create (config.segmentPath .first) .first layout storage with
  | mk answer middle =>
      rw [begin_eq created] at begun
      cases answer with
      | error cause => cases begun
      | ok fresh =>
          cases begun
          exact ⟨fresh, rfl, rfl⟩

/-- Continue a log, repairing its active segment. -/
def resume (config : Config) (layout : Layout) (sealed : List Segment) (active : Segment)
    (storage : Storage) : Except Failure Log × Storage :=
  match active.recover storage with
  | (.error cause, active, storage) =>
      (.error cause, (Table.closeAll ((sealed ++ [active]).map Segment.entry) storage).2.2)
  | (.ok _, active, storage) => (.ok (ofSegments config layout sealed active), storage)

/-- The segment that is recovered takes its place again. -/
theorem resumeAt_eq {sealed : List Segment} {active : Segment}
    (ascending : ((sealed ++ [active]).map Segment.id).Pairwise fun first second =>
      first.number < second.number) :
    resumeAt config layout ((sealed ++ [active]).map Segment.entry) active.id active storage =
      resume config layout sealed active storage := by
  have below : ∀ entry ∈ sealed.map Segment.entry, entry.1.number < active.id.number := by
    intro entry member
    obtain ⟨other, among, rfl⟩ := List.mem_map.mp member
    rw [List.map_append, List.pairwise_append] at ascending
    exact ascending.2.2 other.id (List.mem_map_of_mem among) active.id (by simp)
  obtain ⟨size, recovered_eq⟩ := active.exists_recover_eq storage
  unfold resumeAt resume
  generalize active.recover storage = outcome at recovered_eq
  obtain ⟨answer, recovered, after⟩ := outcome
  cases recovered_eq
  have put_eq : Table.put ((sealed ++ [active]).map Segment.entry) active.id
      { active with size } = (sealed ++ [{ active with size }]).map Segment.entry := by
    rw [List.map_append, List.map_singleton, Segment.entry, Table.put_concat below,
      List.map_append, List.map_singleton, Segment.entry]
  cases answer <;> simp only [put_eq, ofSegments]

/-- All segments are opened. The last is recovered, and where there is none the
log begins. -/
theorem openFound_eq {ids : List SegmentId}
    (ascending : ids.eraseDups.Pairwise fun first second => first.number < second.number) :
    openFound config layout ids storage =
      match Segment.openAll config layout ids.eraseDups storage with
      | (.error cause, storage) => (.error cause, storage)
      | (.ok segments, storage) =>
          match segments.getLast? with
          | none => begin config layout storage
          | some active => resume config layout segments.dropLast active storage := by
  unfold openFound
  cases opened : Segment.openAll config layout ids.eraseDups storage with
  | mk answer middle =>
      cases answer with
      | error cause => rfl
      | ok segments =>
          obtain ⟨ids_eq, _⟩ := Segment.ids_openAll opened
          simp only [Table.ofOpened_eq ascending ids_eq]
          rcases List.eq_nil_or_concat segments with rfl | ⟨sealed, active, rfl⟩
          · rfl
          · rw [List.concat_eq_append] at ids_eq ⊢
            rw [← ids_eq] at ascending
            simp only [List.getLast?_concat, List.dropLast_concat, List.map_append,
              List.map_singleton, Segment.entry]
            rw [← resumeAt_eq ascending, List.map_append, List.map_singleton]
            rfl

/-- What it is to open a log over ids that were found. -/
theorem openFound_eq_ok {ids : List SegmentId}
    (ascending : ids.eraseDups.Pairwise fun first second => first.number < second.number)
    (opened : openFound config layout ids storage = (.ok log, after)) :
    ∃ segments middle,
      Segment.openAll config layout ids.eraseDups storage = (.ok segments, middle) ∧
        (begin config layout middle = (.ok log, after) ∨
          ∃ sealed active report recovered, segments = sealed ++ [active] ∧
            active.recover middle = (.ok report, recovered, after) ∧
              log = ofSegments config layout sealed recovered) := by
  rw [openFound_eq ascending] at opened
  split at opened
  · cases opened
  rename_i segments middle outcome
  refine ⟨segments, middle, outcome, ?_⟩
  split at opened
  · exact .inl opened
  rename_i active last
  obtain ⟨sealed, rfl⟩ := List.getLast?_eq_some_iff.mp last
  rw [List.dropLast_concat] at opened
  unfold resume at opened
  split at opened
  · cases opened
  · rename_i report recovered _ done
    cases opened
    exact .inr ⟨sealed, active, report, recovered, rfl, done, rfl⟩

/-- A log that was opened is in good form. -/
theorem formed_openFound {ids : List SegmentId}
    (ascending : ids.eraseDups.Pairwise fun first second => first.number < second.number)
    (opened : openFound config layout ids storage = (.ok log, after)) : log.Formed := by
  obtain ⟨segments, middle, outcome, begun | ⟨sealed, active, report, recovered, rfl, done, rfl⟩⟩ :=
    openFound_eq_ok ascending opened
  · obtain ⟨fresh, created, rfl⟩ := begin_eq_ok begun
    obtain ⟨_, _, rfl⟩ := Segment.create_eq_ok created
    exact formed_ofSegments_nil rfl
  · obtain ⟨ids_eq, isOpen⟩ := Segment.ids_openAll outcome
    obtain ⟨size, recovered_eq⟩ := active.exists_recover_eq middle
    rw [done] at recovered_eq
    cases recovered_eq
    rw [← ids_eq] at ascending
    apply formed_ofSegments
    · simpa using ascending
    · intro segment member
      rcases List.mem_append.mp member with older | single
      · exact isOpen segment (List.mem_append_left _ older)
      · rw [List.mem_singleton.mp single]
        exact isOpen active (by simp)

end Log

end RecordLog
