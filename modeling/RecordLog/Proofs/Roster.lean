import RecordLog.Proofs.WorldOrder

/-!
# Segments on handles of their own

Every segment of a log in good form is opened on a handle that no other uses. Syncs,
writes and closing change nothing about this; a rotation adds a segment on a handle
that did not exist before. So whether the
last sync of a segment fails is a matter of that segment alone. Nothing is asked of
the names of the files, two of which may lead to the same file.
-/

namespace RecordLog

namespace Storage

variable {storage after : Storage} {handle : Handle}

/-- A handle refers to a file that is there. -/
def Backs (storage : Storage) (handle : Handle) : Prop :=
  ∃ file, storage.fileOf? handle = some file

theorem backs_iff : storage.Backs handle ↔
    ∃ node, storage.nodeOf? handle = some node ∧ node < storage.nodes.size := by
  constructor
  · rintro ⟨file, found⟩
    obtain ⟨node, refers, stands⟩ := Option.bind_eq_some_iff.mp found
    exact ⟨node, refers, (Array.getElem?_eq_some_iff.mp stands).1⟩
  · rintro ⟨node, refers, inRange⟩
    exact ⟨_, Option.bind_eq_some_iff.mpr ⟨node, refers, Array.getElem?_eq_getElem inRange⟩⟩

theorem Backs.advances (backs : storage.Backs handle) (advances : storage.Advances after) :
    after.Backs handle := by
  obtain ⟨file, found⟩ := backs
  obtain ⟨advanced, foundAfter, _⟩ := advances handle file found
  exact ⟨advanced, foundAfter⟩

theorem Backs.rewrites {node : Nat} {bytes : Content} (backs : storage.Backs handle)
    (rewrites : storage.Rewrites after node bytes) : after.Backs handle := by
  obtain ⟨own, refers, inRange⟩ := backs_iff.mp backs
  exact backs_iff.mpr ⟨own, rewrites.nodeOf?_eq refers, by rwa [rewrites.size_eq]⟩

/-- A handle that does not refer to anything is none that refers to a file. -/
theorem Backs.ne (backs : storage.Backs handle) {other : Handle}
    (unused : storage.nodeOf? other = none) : handle ≠ other := by
  rintro rfl
  obtain ⟨node, refers, _⟩ := backs_iff.mp backs
  rw [unused] at refers
  cases refers

theorem Keeps.nodeOf?_eq_none (keeps : storage.Keeps after) (unused : after.nodeOf? handle = none) :
    storage.nodeOf? handle = none := by
  cases refers : storage.nodeOf? handle with
  | none => rfl
  | some node =>
      rw [keeps.nodeOf?_eq refers] at unused
      cases unused

/-- A file is opened on a handle that did not exist before. -/
theorem nodeOf?_openNode_of_new (storage : Storage) (node : Nat) :
    storage.nodeOf? (storage.openNode node).1 = none := by
  simp [openNode, nodeOf?]

end Storage

/-! ## New handles -/

namespace Segment

variable {config : Config} {layout : Layout} {storage after : Storage} {segment : Segment}
  {path : Path} {id : SegmentId}

theorem nodeOf?_openExisting_of_new
    (opened : openExisting path id layout storage = (.ok segment, after)) :
    storage.nodeOf? segment.handle = none := by
  obtain ⟨handle, found, rfl⟩ := openExisting_eq_ok opened
  unfold Storage.openFile at found
  split at found
  · cases found
  rename_i node _
  cases found
  exact storage.nodeOf?_openNode_of_new node

theorem nodeOf?_create_of_new (created : create path id layout storage = (.ok segment, after)) :
    storage.nodeOf? segment.handle = none := by
  obtain ⟨handle, made, rfl⟩ := create_eq_ok created
  rcases storage.createFile_cases path with ⟨cause, failed⟩ | ⟨place, _, _, _, _, done⟩
  · rw [failed] at made
    cases made
  · rw [done] at made
    cases made
    exact (storage.addFile place).nodeOf?_openNode_of_new storage.nodes.size

/-- Segments that are opened together have new handles, each its own. -/
theorem separate_openAll {ids : List SegmentId} {segments : List Segment} (sound : storage.Sound)
    (opened : openAll config layout ids storage = (.ok segments, after)) :
    (∀ segment ∈ segments, storage.nodeOf? segment.handle = none) ∧
      segments.Pairwise fun first second => first.handle ≠ second.handle := by
  induction ids generalizing storage segments after with
  | nil =>
      cases opened
      exact ⟨nofun, .nil⟩
  | cons id rest ih =>
      rw [openAll] at opened
      split at opened
      · cases opened
      rename_i first middle openedFirst
      split at opened
      · cases opened
      rename_i others final openedRest
      cases opened
      obtain ⟨_, attached, keeps, _⟩ := attached_openExisting sound openedFirst
      obtain ⟨unused, separate⟩ := ih (sound.keeps keeps) openedRest
      have backs : middle.Backs first.handle := attached.backed
      constructor
      · intro segment member
        rcases List.mem_cons.mp member with rfl | later
        · exact nodeOf?_openExisting_of_new openedFirst
        · exact keeps.nodeOf?_eq_none (unused segment later)
      · exact .cons (fun other later => backs.ne (unused other later)) separate

end Segment

/-! ## The roster -/

namespace Log

variable {config : Config} {layout : Layout} {storage after : Storage} {log again : Log}

/-- Each segment of a log in good form is on a handle of its own that refers to a
file. -/
structure Roster (log : Log) (storage : Storage) : Prop where
  formed : log.Formed
  separate : (log.segments.map Segment.handle).Nodup
  backed : ∀ handle ∈ log.segments.map Segment.handle, storage.Backs handle

namespace Roster

theorem ascending (roster : log.Roster storage) :
    log.segments.Pairwise fun first second => first.id.number < second.id.number := by
  have ascending := roster.formed.ascending
  rwa [roster.formed.ids_eq, List.pairwise_map] at ascending

theorem backs (roster : log.Roster storage) {segment : Segment} (member : segment ∈ log.segments) :
    storage.Backs segment.handle :=
  roster.backed segment.handle (List.mem_map_of_mem member)

theorem advances (roster : log.Roster storage) (advances : storage.Advances after) :
    log.Roster after :=
  ⟨roster.formed, roster.separate,
    fun handle member => (roster.backed handle member).advances advances⟩

/-- The roster is a matter of handles. -/
theorem of_handles_eq (roster : log.Roster storage) (formed : again.Formed)
    (handles_eq : again.segments.map Segment.handle = log.segments.map Segment.handle) :
    again.Roster storage :=
  ⟨formed, handles_eq ▸ roster.separate, handles_eq ▸ roster.backed⟩

/-! ### One operation -/

theorem append (roster : log.Roster storage) (payload : List UInt8) :
    (log.append payload storage).2.1.Roster (log.append payload storage).2.2 := by
  obtain ⟨size, poisoned, stats, log_eq⟩ := log.exists_append_eq payload storage
  rw [log_eq]
  refine (roster.advances (log.advances_append payload storage)).of_handles_eq
    (roster.formed.resized size poisoned stats) ?_
  refine (congrArg (List.map Segment.handle) (log.segments_withSegments _ _)).trans ?_
  rw [roster.formed.segments_eq]
  simp

theorem sync (roster : log.Roster storage) :
    (log.sync storage).2.1.Roster (log.sync storage).2.2 := by
  obtain ⟨stats, log_eq⟩ := log.exists_sync_eq storage
  rw [log_eq]
  exact (roster.advances (log.advances_sync storage)).of_handles_eq
    (roster.formed.withStats stats) rfl

theorem close (roster : log.Roster storage) :
    (log.close storage).2.1.Roster (log.close storage).2.2 := by
  refine (roster.advances (log.advances_close storage)).of_handles_eq
    (roster.formed.close storage) ?_
  rw [log.close_eq]
  split
  · rfl
  · rw [segments_shut, List.map_map]
    rfl

/-- A new segment is entered under the next id, on a new handle. -/
theorem sealing (roster : log.Roster storage) (advances : storage.Advances after)
    {fresh : Segment} (id_eq : fresh.id = log.nextId) (unused : storage.nodeOf? fresh.handle = none)
    (backs : after.Backs fresh.handle) (closed_eq : fresh.closed = log.closed) (synced : Bool) :
    (log.sealing synced fresh).Roster after := by
  have handles_eq : (log.sealing synced fresh).segments.map Segment.handle =
      log.segments.map Segment.handle ++ [fresh.handle] := by
    rw [segments_sealing, ← roster.formed.segments_eq, List.map_append, List.map_singleton]
  refine ⟨roster.formed.sealing synced id_eq closed_eq, ?_, ?_⟩ <;> rw [handles_eq]
  · rw [List.nodup_append']
    refine ⟨roster.separate, List.nodup_singleton _, ?_⟩
    intro handle member last
    exact (roster.backed handle member).ne unused (List.mem_singleton.mp last)
  · intro handle member
    rcases List.mem_append.mp member with older | last
    · exact (roster.backed handle older).advances advances
    · rwa [List.mem_singleton.mp last]

theorem write (roster : log.Roster storage) (payload : List UInt8) :
    (log.write payload storage).2.1.Roster (log.write payload storage).2.2 := by
  have outcome := writes (fun _ => roster.formed) payload storage
  generalize log.write payload storage = result at outcome ⊢
  cases outcome with
  | refused cause => exact roster
  | strands _ _ _ _ _ _ _ failed => exact roster.advances (Segment.create_effect failed).1
  | stays isOpen small fits => exact roster.append payload
  | @rotates handle created isOpen small full creates rotated =>
      obtain ⟨id_eq, attached⟩ := Segment.attached_create creates
      have syncing := log.active.advances_segmentSync created
      have backs : created.Backs (log.begun handle).handle := attached.backed
      exact (roster.sealing ((Segment.create_effect creates).1.trans syncing) id_eq
        (Segment.nodeOf?_create_of_new creates) (backs.advances syncing) isOpen.symm _).append
          payload

/-! ### Opening -/

/-- The segments that a log is opened with are on handles of their own. -/
theorem openFound {ids : List SegmentId} (sound : storage.Sound)
    (ascending : ids.eraseDups.Pairwise fun first second => first.number < second.number)
    (opened : openFound config layout ids storage = (.ok log, after)) : log.Roster after := by
  have formed := formed_openFound ascending opened
  obtain ⟨segments, middle, outcome, begun | ⟨sealed, active, report, recovered, rfl, done, rfl⟩⟩ :=
    openFound_eq_ok ascending opened
  · obtain ⟨fresh, created, rfl⟩ := begin_eq_ok begun
    obtain ⟨_, attached⟩ := Segment.attached_create created
    refine ⟨formed, ?_, ?_⟩ <;> rw [segments_ofSegments]
    · exact List.nodup_singleton _
    · intro handle member
      rw [List.mem_singleton.mp member]
      exact attached.backed
  · obtain ⟨ids_eq, attached, _, _⟩ := Segment.attached_openAll sound outcome
    obtain ⟨_, separate⟩ := Segment.separate_openAll sound outcome
    -- the recovery of the newest cuts its file, which is still there
    obtain ⟨node, refers, inRange⟩ := Storage.backs_iff.mp (attached active (by simp)).backed
    obtain ⟨bytes, rewrites⟩ := Segment.rewrites_recover refers inRange
    obtain ⟨size, recovered_eq⟩ := active.exists_recover_eq middle
    rw [done] at rewrites recovered_eq
    cases recovered_eq
    have handles_eq : (ofSegments config layout sealed { active with size }).segments.map
        Segment.handle = (sealed ++ [active]).map Segment.handle := by
      rw [segments_ofSegments, List.map_append, List.map_append]
      rfl
    refine ⟨formed, handles_eq ▸ List.pairwise_map.mpr separate, fun handle member => ?_⟩
    rw [handles_eq] at member
    obtain ⟨segment, among, rfl⟩ := List.mem_map.mp member
    have backs : middle.Backs segment.handle := (attached segment among).backed
    exact backs.rewrites rewrites

theorem openDirectory (sound : storage.Sound)
    (opened : openDirectory config storage = (.ok log, after)) : log.Roster after := by
  obtain ⟨layout, made, ids, _, _, created, discovered, found⟩ := openDirectory_eq_ok opened
  have soundMade := sound.createDirectory ⟨config.directory⟩
  rw [created] at soundMade
  exact .openFound soundMade (Config.ascending_of_discover discovered) found

end Roster

end Log

/-! ## Histories -/

namespace World

variable {world : World} {storage : Storage} {events : List (Faults × Operation)}

/-- A log that is there has its segments on handles of their own. -/
def Rostered (world : World) : Prop :=
  ∀ log ∈ world.log, log.Roster world.storage

namespace Rostered

theorem act (rostered : world.Rostered)
    {action : Log → Storage → Except Failure Unit × Log × Storage}
    (keeps : ∀ {log : Log} {storage}, log.Roster storage →
      (action log storage).2.1.Roster (action log storage).2.2) : (world.act action).Rostered := by
  intro again found
  unfold World.act at found ⊢
  cases present : world.log with
  | none =>
      simp only [present] at found
      cases found
  | some log =>
      simp only [present] at found ⊢
      cases found
      exact keeps (rostered log present)

theorem write (rostered : world.Rostered) (payload : List UInt8) :
    (world.write payload).Rostered := by
  cases present : world.log with
  | none => rwa [world.write_of_none present]
  | some log =>
      rw [write_eq world present payload]
      rintro _ ⟨⟩
      exact (rostered log present).write payload

/-- Every operation but an opening leaves the segments on handles of their own. -/
theorem step (rostered : world.Rostered) {event : Faults × Operation}
    (stays : ∀ config, event.2 ≠ .openLog config) : (world.step event).Rostered := by
  obtain ⟨faults, operation⟩ := event
  have suffering : Rostered { world with storage := world.storage.suffer faults } :=
    fun log found => (rostered log found).advances (world.storage.advances_suffer faults)
  cases operation with
  | openLog config => exact absurd rfl (stays config)
  | write payload => exact suffering.write payload
  | read position => exact suffering
  | scan id => exact suffering
  | sync => exact suffering.act Log.Roster.sync
  | close => exact suffering.act Log.Roster.close
  | drop =>
      intro log found
      rw [World.step, perform, log_dropLog] at found
      cases found

theorem opening (sound : storage.Sound) (faults : Faults) (config : Config) :
    ((start storage).step (faults, .openLog config)).Rostered := by
  have suffered := sound.keeps (storage.keeps_suffer faults)
  intro log found
  simp only [World.step, perform, dropLog, start, World.openLog] at found ⊢
  split at found
  · rename_i opened after outcome
    cases found
    exact .openDirectory suffered outcome
  · cases found

/-- From its opening on a log has its segments on handles of their own. -/
theorem run (sound : storage.Sound) (faults : Faults) (config : Config)
    (stays : ∀ event ∈ events, ∀ config, event.2 ≠ .openLog config) :
    ((start storage).run ((faults, .openLog config) :: events)).Rostered := by
  induction events using List.reverseRecOn with
  | nil => exact opening sound faults config
  | append_singleton events event ih =>
      rw [← List.cons_append, World.run_concat]
      exact (ih fun event member => stays event (List.mem_append_left _ member)).step
        (stays event (by simp))

end Rostered

end World

end RecordLog
