import RecordLog.Proofs.Stability
import RecordLog.Proofs.SyncAccounts

/-!
# Logs that agree with their files

A log that could be opened is in good form, and every segment is on the file that
its id names. Syncing, closing and writing preserve this, whatever the storage
refuses: a rotation creates the next file before anything else changes, and a
write that fails touches the file of the active segment alone. The bytes of the
files may be anything.

Two names can be one file. Where no two names in a directory are, the sealed
segments are on other files than the active one, and remain so.
-/

namespace RecordLog

namespace Storage

variable {storage before middle after : Storage} {path : Path} {node : Nat}

/-- Storage whose names of files have no slash in them and lead to files, no two
names in one directory to the same file. -/
structure Orderly (storage : Storage) : Prop where
  sound : storage.Sound
  plain : ∀ place isRegular node, (place, @Entry.file isRegular node) ∈ storage.entries →
    place.Plain
  single : ∀ place other isRegular otherRegular node,
    (place, @Entry.file isRegular node) ∈ storage.entries →
      (other, @Entry.file otherRegular node) ∈ storage.entries →
        place.dropLast = other.dropLast → place = other

theorem Orderly.addDirectory (orderly : storage.Orderly) (place : Place) :
    (storage.addEntry place .directory).Orderly := by
  have older {other : Place} {isRegular : Bool} {node : Nat}
      (named : (other, @Entry.file isRegular node) ∈ (storage.addEntry place .directory).entries) :
      (other, @Entry.file isRegular node) ∈ storage.entries := by
    simpa [addEntry] using named
  exact ⟨orderly.sound.addDirectory place,
    fun other _ node named => orderly.plain other _ node (older named),
    fun other another _ _ node named again => orderly.single other another _ _ node (older named)
      (older again)⟩

theorem Orderly.createDirectory (orderly : storage.Orderly) (path : Path) :
    (storage.createDirectory path).2.Orderly :=
  kept_createDirectory (fun _ place orderly => orderly.addDirectory place) orderly path

/-- Storage in which all files keep their names, and all handles their files,
whatever becomes of the bytes. -/
structure Retains (before after : Storage) : Prop where
  findFile_eq : ∀ {path node}, before.findFile path = .ok node → after.findFile path = .ok node
  nodeOf?_eq : ∀ {handle node}, before.nodeOf? handle = some node →
    after.nodeOf? handle = some node
  size_le : before.nodes.size ≤ after.nodes.size

theorem Rewrites.retains {bytes : Content} (rewrites : before.Rewrites after node bytes) :
    before.Retains after where
  findFile_eq found := by rw [findFile_congr rewrites.entries_eq, found]
  nodeOf?_eq := rewrites.nodeOf?_eq
  size_le := Nat.le_of_eq rewrites.size_eq.symm

theorem Keeps.retains (keeps : before.Keeps after) : before.Retains after :=
  (keeps.rewrites 0).retains

theorem Retains.trans (first : before.Retains middle) (second : middle.Retains after) :
    before.Retains after where
  findFile_eq found := second.findFile_eq (first.findFile_eq found)
  nodeOf?_eq found := second.nodeOf?_eq (first.nodeOf?_eq found)
  size_le := Nat.le_trans first.size_le second.size_le

/-- A new file takes no name away and no handle. -/
theorem retains_createFile (storage : Storage) (path : Path) :
    storage.Retains (storage.createFile path).2 := by
  rcases storage.createFile_cases path with ⟨cause, failed⟩ | ⟨place, _, _, _, _, created⟩
  · rw [failed]
    exact (Keeps.refl storage).retains
  · have creates := storage.creates_addFile place
    rw [created]
    refine ⟨fun found => ?_, creates.nodeOf?_eq, Nat.le_of_lt ?_⟩
    · rw [findFile_congr ((storage.addFile place).keeps_openNode _).entries_eq]
      exact findFile_addFile found place
    · exact Nat.lt_of_succ_le (Nat.le_of_eq creates.size_eq.symm)

end Storage

/-! ## Segments on the files of their ids -/

namespace Segment

variable {config : Config} {layout : Layout} {storage after : Storage} {segment : Segment}

/-- A segment is on the file that its id names, or was until it was closed. -/
structure Seated (config : Config) (storage : Storage) (segment : Segment) : Prop where
  path_eq : segment.path = config.segmentPath segment.id
  stands : ∃ node, storage.findFile segment.path = .ok node ∧
    storage.nodeOf? segment.handle = some node ∧ node < storage.nodes.size

theorem Seated.retains (seated : segment.Seated config storage) (retains : storage.Retains after) :
    segment.Seated config after where
  path_eq := seated.path_eq
  stands := by
    obtain ⟨node, found, refers, inRange⟩ := seated.stands
    exact ⟨node, retains.findFile_eq found, retains.nodeOf?_eq refers,
      Nat.lt_of_lt_of_le inRange retains.size_le⟩

/-- A segment is created on a new file, or that file alone, or nothing changes. -/
theorem create_cases (path : Path) (id : SegmentId) (layout : Layout) (storage : Storage) :
    (∃ cause, create path id layout storage = (.error (.storage cause), storage)) ∨
      ∃ handle after, storage.Retains after ∧ storage.Creates after handle ∧
        after.findFile path = .ok storage.nodes.size ∧
          ((∃ cause, create path id layout storage = (.error (.storage cause), after) ∧
              storage.duplicationFault handle ≠ none) ∨
            create path id layout storage = (.ok (ofHandle path id layout handle 0), after)) := by
  have retains := storage.retains_createFile path
  cases outcome : storage.createFile path with
  | mk answer after =>
      rw [outcome] at retains
      cases answer with
      | error cause =>
          left
          rcases storage.createFile_cases path with ⟨cause, failed⟩ | ⟨_, _, _, _, _, created⟩
          · exact ⟨cause, by rw [create, failed]⟩
          · rw [created] at outcome
            cases outcome
      | ok handle =>
          obtain ⟨found, creates⟩ := Storage.findFile_createFile outcome
          rcases attach_eq path id layout handle 0 after with ⟨cause, refused, fault⟩ | attached
          · have keeps := after.keeps_release handle
            rw [creates.toRefusals_eq] at fault
            exact .inr ⟨handle, after.release handle, retains.trans keeps.retains,
              creates.release, keeps.retains.findFile_eq found,
              .inl ⟨cause, by rw [create, outcome]; exact refused, fault⟩⟩
          · exact .inr ⟨handle, after, retains, creates, found,
              .inr (by rw [create, outcome]; exact attached)⟩

/-- A segment that was created is on the file of its id. -/
theorem seated_ofHandle {id : SegmentId} (layout : Layout) {handle : Handle}
    (creates : storage.Creates after handle)
    (found : after.findFile (config.segmentPath id) = .ok storage.nodes.size) :
    (ofHandle (config.segmentPath id) id layout handle 0).Seated config after :=
  ⟨rfl, _, found, creates.nodeOf?_new, by rw [creates.size_eq]; exact Nat.lt_succ_self _⟩

theorem seated_openExisting {id : SegmentId} (sound : storage.Sound)
    (opened : openExisting (config.segmentPath id) id layout storage = (.ok segment, after)) :
    segment.id = id ∧ segment.closed = false ∧ storage.Keeps after ∧
      segment.Seated config after := by
  obtain ⟨handle, outcome, rfl⟩ := openExisting_eq_ok opened
  unfold Storage.openFile at outcome
  split at outcome
  · cases outcome
  rename_i node found
  cases outcome
  have keeps := storage.keeps_openNode node
  exact ⟨rfl, rfl, keeps, rfl, node, keeps.retains.findFile_eq found,
    storage.nodeOf?_openNode node, sound.findFile found⟩

/-- Segments are opened on the files of their ids, without any change. -/
theorem seated_openAll {ids : List SegmentId} {segments : List Segment} (sound : storage.Sound)
    (opened : openAll config layout ids storage = (.ok segments, after)) :
    segments.map Segment.id = ids ∧ storage.Keeps after ∧
      ∀ segment ∈ segments, segment.closed = false ∧ segment.Seated config after := by
  induction ids generalizing storage segments after with
  | nil =>
      cases opened
      exact ⟨rfl, .refl storage, by simp⟩
  | cons id rest ih =>
      rw [openAll] at opened
      split at opened
      · cases opened
      rename_i first middle openedFirst
      split at opened
      · cases opened
      rename_i others final openedRest
      cases opened
      obtain ⟨id_eq, isOpen, keeps, seated⟩ := seated_openExisting sound openedFirst
      obtain ⟨ids_eq, keepsRest, each⟩ := ih (sound.keeps keeps) openedRest
      refine ⟨by rw [List.map_cons, id_eq, ids_eq], keeps.trans keepsRest, ?_⟩
      intro segment member
      rcases List.mem_cons.mp member with rfl | later
      · exact ⟨isOpen, seated.retains keepsRest.retains⟩
      · exact each segment later

/-- Recovery gives and takes no names. -/
theorem entries_recover (segment : Segment) (storage : Storage) :
    (segment.recover storage).2.2.entries = storage.entries := by
  have cut (length : Nat) :
      (segment.truncate length storage).2.2.entries = storage.entries := by
    have cut := storage.entries_truncate segment.handle length
    unfold truncate
    split
    · rfl
    split <;>
      · rename_i outcome
        rw [outcome] at cut
        exact cut
  unfold recover
  split
  · rfl
  rename_i report _
  have cut := cut report.validLength
  split
  · split <;>
      · rename_i outcome
        rw [outcome] at cut
        exact cut
  · rfl

/-- Recovery changes the bytes of the segment's file, if anything. -/
theorem rewrites_recover {node : Nat} (refers : storage.nodeOf? segment.handle = some node)
    (inRange : node < storage.nodes.size) :
    ∃ bytes, storage.Rewrites (segment.recover storage).2.2 node bytes := by
  have unchanged : ∃ bytes, storage.Rewrites storage node bytes :=
    ⟨_, (Storage.Keeps.refl storage).rewrites node⟩
  have cut (length : Nat) :
      ∃ bytes, storage.Rewrites (segment.truncate length storage).2.2 node bytes := by
    have cut : ∃ bytes, storage.Rewrites (storage.truncate segment.handle length).2 node bytes := by
      rcases Storage.truncate_cases refers inRange length with
        ⟨cause, refused, _⟩ | ⟨answer, after, truncated, rewrites, _⟩
      · rw [refused]
        exact unchanged
      · rw [truncated]
        exact ⟨_, rewrites⟩
    unfold truncate
    split
    · exact unchanged
    split <;>
      · rename_i outcome
        rw [outcome] at cut
        exact cut
  unfold recover
  split
  · exact unchanged
  rename_i report _
  have cut := cut report.validLength
  split
  · split <;>
      · rename_i outcome
        rw [outcome] at cut
        exact cut
  · exact unchanged

theorem Seated.shut (seated : segment.Seated config storage) : segment.shut.Seated config storage :=
  ⟨seated.path_eq, seated.stands⟩

end Segment

/-! ## Coherent logs -/

namespace Log

variable {config : Config} {layout : Layout} {storage after final : Storage} {log again last : Log}
  {id : SegmentId}

/-- A log in good form, each segment of which is on the file that its id names. -/
structure Coherent (log : Log) (storage : Storage) : Prop where
  formed : log.Formed
  seated : ∀ segment ∈ log.segments, segment.Seated log.config storage

/-- The sealed segments are on other files than the active one. -/
def Apart (log : Log) (storage : Storage) : Prop :=
  ∀ segment ∈ log.sealed, storage.nodeOf? segment.handle ≠ storage.nodeOf? log.active.handle

namespace Coherent

theorem sealed (coherent : log.Coherent storage) {segment : Segment}
    (member : segment ∈ log.sealed) : segment.Seated log.config storage :=
  coherent.seated segment (coherent.formed.mem_segments.mpr (.inl member))

theorem active (coherent : log.Coherent storage) : log.active.Seated log.config storage :=
  coherent.seated log.active (coherent.formed.mem_segments.mpr (.inr rfl))

theorem retains (coherent : log.Coherent storage) (retains : storage.Retains after) :
    log.Coherent after where
  formed := coherent.formed
  seated segment member := (coherent.seated segment member).retains retains

theorem withStats (coherent : log.Coherent storage) (stats : Stats) :
    Coherent { log with stats } storage :=
  ⟨coherent.formed.withStats stats, coherent.seated⟩

/-- Sizes and failed writes do not matter. -/
theorem withActive (coherent : log.Coherent storage) (size : Nat) (poisoned : Bool) :
    (log.withActive { log.active with size, poisoned }).Coherent storage where
  formed := coherent.formed.withActive rfl rfl
  seated segment member := by
    rw [Log.withActive, segments_withSegments, List.mem_append, List.mem_singleton] at member
    rcases member with older | rfl
    · exact coherent.sealed older
    · exact ⟨coherent.active.path_eq, coherent.active.stands⟩

/-- A segment on a new file, under the next id, comes after all others. -/
theorem sealing (coherent : log.Coherent storage) (retains : storage.Retains after)
    (synced : Bool) {fresh : Segment} (id_eq : fresh.id = log.nextId)
    (isOpen : fresh.closed = log.closed) (seated : fresh.Seated log.config after) :
    (log.sealing synced fresh).Coherent after where
  formed := coherent.formed.sealing synced id_eq isOpen
  seated segment member := by
    have config_eq : (log.sealing synced fresh).config = log.config := by cases synced <;> rfl
    rw [config_eq]
    rw [segments_sealing, ← coherent.formed.segments_eq, List.mem_append, List.mem_singleton]
      at member
    rcases member with older | rfl
    · exact (coherent.retains retains).seated segment older
    · exact seated

/-- Closing a log closes all of its segments, whatever fails. -/
theorem close (coherent : log.Coherent storage) :
    (log.close storage).2.1.Coherent (log.close storage).2.2 := by
  have kept := coherent.retains (log.keeps_close storage).retains
  refine ⟨coherent.formed.close storage, ?_⟩
  rw [log.close_eq] at kept ⊢
  split
  · rename_i closed
    rw [if_pos closed] at kept
    exact kept.seated
  · rename_i isOpen
    rw [if_neg isOpen] at kept
    intro segment member
    rw [segments_shut] at member
    obtain ⟨other, found, rfl⟩ := List.mem_map.mp member
    exact (kept.seated other found).shut

/-- The file of every segment is found under its id. -/
theorem findFile_eq (coherent : log.Coherent storage) (member : id ∈ log.ids) :
    ∃ segment node, log.segment? id = some segment ∧ segment ∈ log.segments ∧ segment.id = id ∧
      segment.path = log.config.segmentPath id ∧ storage.findFile segment.path = .ok node ∧
        storage.nodeOf? segment.handle = some node := by
  rw [coherent.formed.ids_eq] at member
  obtain ⟨other, found, rfl⟩ := List.mem_map.mp member
  have isSome : (log.segment? other.id).isSome = true := by
    rw [coherent.formed.segment?_eq, List.find?_isSome]
    exact ⟨other, found, by simp⟩
  obtain ⟨segment, segment_eq⟩ := Option.isSome_iff_exists.mp isSome
  have found_eq := segment_eq
  rw [coherent.formed.segment?_eq] at found_eq
  have among : segment ∈ log.segments := List.mem_of_find?_eq_some found_eq
  have same : segment.id = other.id := by
    simpa using List.find?_some found_eq
  obtain ⟨node, named, refers, _⟩ := (coherent.seated segment among).stands
  have path_eq := (coherent.seated segment among).path_eq
  rw [same] at path_eq
  exact ⟨segment, node, segment_eq, among, same, path_eq, named, refers⟩

end Coherent

namespace Apart

theorem retains (apart : log.Apart storage) (coherent : log.Coherent storage)
    (retains : storage.Retains after) : log.Apart after := by
  intro segment member same
  obtain ⟨node, _, refers, _⟩ := (coherent.sealed member).stands
  obtain ⟨other, _, refersActive, _⟩ := coherent.active.stands
  apply apart segment member
  rw [retains.nodeOf?_eq refers, retains.nodeOf?_eq refersActive] at same
  rw [refers, refersActive, same]

/-- What has its segments on the same files has them apart as well. -/
theorem of_handles (apart : log.Apart storage) (formed : log.Formed) (formedAfter : again.Formed)
    (handles_eq : again.handles = log.handles) : again.Apart storage := by
  rw [formed.handles_eq, formedAfter.handles_eq, formed.segments_eq, formedAfter.segments_eq,
    List.map_append, List.map_append] at handles_eq
  obtain ⟨sealed_eq, active_eq⟩ := List.append_inj' handles_eq rfl
  intro segment member
  have listed : segment.key ∈ log.sealed.map Segment.key :=
    sealed_eq ▸ List.mem_map_of_mem member
  obtain ⟨older, among, key_eq⟩ := List.mem_map.mp listed
  have handle_eq : older.handle = segment.handle := congrArg Prod.snd key_eq
  have activeHandle_eq : again.active.handle = log.active.handle :=
    congrArg Prod.snd (List.cons.inj active_eq).1
  rw [← handle_eq, activeHandle_eq]
  exact apart older among

/-- A segment on a new file is apart from all others. -/
theorem sealing (coherent : log.Coherent storage) (retains : storage.Retains after)
    (synced : Bool) {fresh : Segment}
    (refers : after.nodeOf? fresh.handle = some storage.nodes.size) :
    (log.sealing synced fresh).Apart after := by
  intro segment member
  rw [sealed_sealing, ← coherent.formed.segments_eq] at member
  obtain ⟨node, _, refersOlder, inRange⟩ := (coherent.seated segment member).stands
  rw [active_sealing, refers, retains.nodeOf?_eq refersOlder]
  intro same
  exact Nat.ne_of_lt inRange (Option.some.inj same)

end Apart

/-! ## What operations leave -/

/-- What becomes of a coherent log: it stays coherent, loses no segment, goes on in
the file of its active segment or in a new one, and all files but that of the
active segment are as they were. -/
structure Evolves (log : Log) (storage : Storage) (again : Log) (after : Storage) : Prop where
  coherent : again.Coherent after
  config_eq : again.config = log.config
  ids_prefix : log.ids <+: again.ids
  retains : storage.Retains after
  stays_or : again.active.handle = log.active.handle ∨
    ∃ node, after.nodeOf? again.active.handle = some node ∧ storage.nodes.size ≤ node
  bytes_eq : ∀ node < storage.nodes.size, after.nodeOf? again.active.handle ≠ some node →
    after.nodeBytes node = storage.nodeBytes node
  apart : log.Apart storage → again.Apart after

namespace Evolves

/-- What stays on the same files need only tell which bytes it keeps. -/
theorem of_handles (coherent : log.Coherent storage) (coherentAfter : again.Coherent after)
    (config_eq : again.config = log.config) (handles_eq : again.handles = log.handles)
    (retains : storage.Retains after)
    (bytes_eq : ∀ node, after.nodeOf? log.active.handle ≠ some node →
      after.nodeBytes node = storage.nodeBytes node) : log.Evolves storage again after := by
  have ids_eq : again.ids = log.ids := by
    have fst_eq := congrArg (List.map Prod.fst) handles_eq
    rw [handles, handles, List.map_map, List.map_map] at fst_eq
    exact fst_eq
  have handle_eq : again.active.handle = log.active.handle := by
    have last := congrArg List.getLast? handles_eq
    rw [coherent.formed.handles_eq, coherentAfter.formed.handles_eq,
      coherent.formed.segments_eq, coherentAfter.formed.segments_eq] at last
    simpa [Segment.key] using congrArg (Option.map Prod.snd) last
  refine ⟨coherentAfter, config_eq, by rw [ids_eq], retains, .inl handle_eq, ?_, ?_⟩
  · rw [handle_eq]
    exact fun node _ => bytes_eq node
  · exact fun apart =>
      (apart.retains coherent retains).of_handles coherent.formed coherentAfter.formed handles_eq

/-- Where no bytes change, it is enough that the log is coherent. -/
theorem of_keeps (coherent : log.Coherent storage) (coherentAfter : again.Coherent after)
    (config_eq : again.config = log.config) (handles_eq : again.handles = log.handles)
    (keeps : storage.Keeps after) : log.Evolves storage again after :=
  .of_handles coherent coherentAfter config_eq handles_eq keeps.retains
    fun node _ => keeps.bytes_eq node

theorem refl (coherent : log.Coherent storage) : log.Evolves storage log storage :=
  .of_keeps coherent coherent rfl rfl (.refl storage)

/-- What goes on in the same segment goes on from what was before. -/
theorem trans (first : log.Evolves storage again after) (second : again.Evolves after last final)
    (stays : last.active.handle = again.active.handle) : log.Evolves storage last final where
  coherent := second.coherent
  config_eq := second.config_eq.trans first.config_eq
  ids_prefix := first.ids_prefix.trans second.ids_prefix
  retains := first.retains.trans second.retains
  stays_or := by
    rw [stays]
    exact first.stays_or.imp_right fun ⟨node, refers, fresh⟩ =>
      ⟨node, second.retains.nodeOf?_eq refers, fresh⟩
  bytes_eq node inRange other := by
    rw [second.bytes_eq node (Nat.lt_of_lt_of_le inRange first.retains.size_le) other]
    rw [stays] at other
    exact first.bytes_eq node inRange fun refers => other (second.retains.nodeOf?_eq refers)
  apart := second.apart ∘ first.apart

end Evolves

/-! ### Syncing and closing -/

theorem Coherent.evolves_sync (coherent : log.Coherent storage) :
    log.Evolves storage (log.sync storage).2.1 (log.sync storage).2.2 := by
  have keeps := log.keeps_sync storage
  have kept := coherent.retains keeps.retains
  obtain ⟨stats, log_eq⟩ := log.exists_sync_eq storage
  rw [log_eq]
  exact .of_keeps coherent (kept.withStats stats) rfl rfl keeps

theorem Coherent.evolves_close (coherent : log.Coherent storage) :
    log.Evolves storage (log.close storage).2.1 (log.close storage).2.2 := by
  have handles_eq : log.shut.handles = log.handles := by
    simp [handles, shut, Segment.shut]
  refine .of_keeps coherent coherent.close ?_ ?_ (log.keeps_close storage)
  · rw [log.close_eq]
    split <;> rfl
  · rw [log.close_eq]
    split
    · rfl
    · exact handles_eq

/-! ### Writing -/

/-- A rotation goes on in a fresh segment, or fails and changes no file. -/
theorem Coherent.rotate_cases (coherent : log.Coherent storage) (isOpen : log.closed = false) :
    (∃ cause after, log.rotate storage = (.error (.storage cause), log, after) ∧
      log.Evolves storage log after) ∨
      ∃ entry again after, log.rotate storage = (.ok entry, again, after) ∧
        again.active.isUsable = true ∧ log.Evolves storage again after := by
  rcases Segment.create_cases (log.config.segmentPath log.nextId) log.nextId log.layout storage with
    ⟨cause, failed⟩ | ⟨handle, created, retains, creates, found, outcome⟩
  · exact .inl ⟨cause, storage, by rw [coherent.formed.rotate_eq, failed], .refl coherent⟩
  rcases outcome with ⟨cause, failed, _⟩ | succeeded
  · refine .inl ⟨cause, created, by rw [coherent.formed.rotate_eq, failed],
      coherent.retains retains, rfl, List.prefix_refl _, retains, .inl rfl,
      fun node inRange _ => creates.bytes_eq node inRange,
      fun apart => apart.retains coherent retains⟩
  have keeps := log.active.keeps_sync created
  have coherentSealed := coherent.sealing retains (log.active.sync created).1 rfl isOpen.symm
    (Segment.seated_ofHandle log.layout creates found)
  have apart : (log.sealing (log.active.sync created).1
      (.ofHandle (log.config.segmentPath log.nextId) log.nextId log.layout handle 0)).Apart
        created :=
    .sealing coherent retains _ creates.nodeOf?_new
  refine .inr ⟨_, _, _, by rw [coherent.formed.rotate_eq, succeeded], ?_,
    coherentSealed.retains keeps.retains, ?_, ?_, retains.trans keeps.retains, .inr ?_, ?_,
    fun _ => apart.retains coherentSealed keeps.retains⟩
  · rw [active_sealing]
    rfl
  · cases (log.active.sync created).1 <;> rfl
  · rw [coherent.formed.ids_sealing]
    exact List.prefix_append _ _
  · rw [active_sealing]
    exact ⟨_, keeps.nodeOf?_eq creates.nodeOf?_new, Nat.le_refl _⟩
  · intro node inRange _
    rw [keeps.bytes_eq, creates.bytes_eq node inRange]

/-- An append writes to the file of the active segment alone. -/
theorem rewrites_append {node : Nat} (refers : storage.nodeOf? log.active.handle = some node)
    (inRange : node < storage.nodes.size) (payload : List UInt8) :
    ∃ bytes, storage.Rewrites (log.append payload storage).2.2 node bytes := by
  have written : ∃ bytes, storage.Rewrites (log.active.append payload storage).2.2 node bytes := by
    have rewrites := Storage.rewrites_write refers inRange log.active.size
      (log.active.layout.frame log.active.size payload).bytes
    unfold Segment.append
    split
    · exact ⟨_, (Storage.Keeps.refl storage).rewrites node⟩
    simp only
    split <;>
      · rename_i outcome
        rw [outcome] at rewrites
        exact ⟨_, rewrites⟩
  unfold append
  generalize log.active.append payload storage = outcome at written ⊢
  obtain ⟨answer, active, after⟩ := outcome
  obtain ⟨bytes, rewrites⟩ := written
  cases answer with
  | error cause => exact ⟨bytes, rewrites⟩
  | ok offset =>
      simp only
      split
      · exact ⟨bytes, rewrites.keeps (active.keeps_sync after)⟩
      · exact ⟨bytes, rewrites⟩

/-- An append to a usable segment fails for the storage alone. -/
theorem exists_of_append_eq_error (usable : log.active.isUsable = true) {payload : List UInt8}
    {cause : Failure} (failed : (log.append payload storage).1 = .error cause) :
    ∃ fault, cause = .storage fault := by
  simp only [Log.append, Segment.append, Segment.usageFault_eq_none usable] at failed
  split at failed
  · rename_i outcome
    split at outcome
    · cases outcome
    · cases outcome
      cases failed
      exact ⟨_, rfl⟩
  · split at failed <;> cases failed

theorem Coherent.append (coherent : log.Coherent storage) (payload : List UInt8) :
    log.Evolves storage (log.append payload storage).2.1 (log.append payload storage).2.2 ∧
      (log.append payload storage).2.1.active.handle = log.active.handle := by
  obtain ⟨node, _, refers, inRange⟩ := coherent.active.stands
  obtain ⟨bytes, rewrites⟩ := rewrites_append refers inRange payload
  obtain ⟨size, poisoned, stats, log_eq⟩ := log.exists_append_eq payload storage
  have kept := ((coherent.retains rewrites.retains).withActive size poisoned).withStats stats
  rw [log_eq]
  refine ⟨.of_handles coherent kept rfl ?_ rewrites.retains ?_, by rw [active_withActive]⟩
  · exact coherent.formed.handles_resized size poisoned
  · intro other ne
    rw [rewrites.nodeOf?_eq refers] at ne
    exact rewrites.others_eq other fun same => ne (congrArg some same.symm)

/-- Why a write can fail that is not refused because the log is closed. -/
def WriteFault (log : Log) (payload : List UInt8) (cause : Failure) : Prop :=
  cause = .payloadTooLarge payload.length log.config.maxPayloadSize ∨
    ∃ fault, cause = .storage fault

/-- A write goes on in the active segment or in a new one. -/
theorem Coherent.write (coherent : log.Coherent storage) (payload : List UInt8) :
    log.Evolves storage (log.write payload storage).2.1 (log.write payload storage).2.2 ∧
      ∀ cause, (log.write payload storage).1 = .error cause →
        log.WriteFault payload cause ∨ log.closed = true ∧ cause = .closed := by
  rw [coherent.formed.write_eq]
  split
  · refine ⟨.refl coherent, ?_⟩
    rintro _ ⟨⟩
    exact .inl (.inl rfl)
  split
  · rename_i closed
    refine ⟨.refl coherent, ?_⟩
    rintro _ ⟨⟩
    exact .inr ⟨closed, rfl⟩
  rename_i isOpen
  rw [Bool.not_eq_true] at isOpen
  split
  · rcases coherent.rotate_cases isOpen with
      ⟨cause, after, failed, evolves⟩ | ⟨entry, again, after, rotated, usable, evolves⟩
    · simp only [failed]
      refine ⟨evolves, ?_⟩
      rintro _ ⟨⟩
      exact .inl (.inr ⟨cause, rfl⟩)
    · simp only [rotated]
      obtain ⟨onward, stays⟩ := evolves.coherent.append payload
      exact ⟨evolves.trans onward stays,
        fun cause failed => .inl (.inr (exists_of_append_eq_error usable failed))⟩
  · rename_i remains
    have usable : log.active.isUsable = true := by
      simp only [needsRotation, Bool.or_eq_true, Bool.not_eq_true', not_or] at remains
      simpa using remains.1
    exact ⟨(coherent.append payload).1,
      fun cause failed => .inl (.inr (exists_of_append_eq_error usable failed))⟩

end Log

/-! ## Opening -/

section Opening

variable {config : Config} {layout : Layout} {storage after : Storage} {ids : List SegmentId}
  {log : Log}

/-- The extension of a segment that was discovered has no slash in it. -/
theorem Config.plain_of_discover (orderly : storage.Orderly)
    (discovered : config.discover storage = .ok ids) {id : SegmentId} (member : id ∈ ids) :
    '/' ∉ config.fileExtension.toList := by
  obtain ⟨place, _, _, rfl⟩ := Config.discover_eq_ok_iff.mp discovered
  rw [SegmentId.sort, List.mem_mergeSort] at member
  obtain ⟨⟨name, entry⟩, named, parsed⟩ := List.mem_filterMap.mp member
  unfold Config.segmentId? at parsed
  split at parsed
  · rename_i text node same
    cases same
    obtain ⟨⟨inner, other⟩, among, inner_eq⟩ := List.mem_filterMap.mp named
    simp only at inner_eq
    split at inner_eq
    · obtain ⟨_, last, same⟩ := Option.map_eq_some_iff.mp inner_eq
      cases same
      intro slash
      have plain := orderly.plain inner true node among text (List.mem_of_getLast? last)
      rw [SegmentId.parse_eq_none_of_slash slash plain] at parsed
      cases parsed
    · cases inner_eq
  · cases parsed

/-- Segments that were discovered under different ids have different files. -/
theorem Config.eq_of_findFile (orderly : storage.Orderly)
    (discovered : config.discover storage = .ok ids) {first second : SegmentId}
    (member : first ∈ ids) {node : Nat}
    (found : storage.findFile (config.segmentPath first) = .ok node)
    (again : storage.findFile (config.segmentPath second) = .ok node) : first = second := by
  have plain := Config.plain_of_discover orderly discovered member
  obtain ⟨place, resolved, isDirectory, _⟩ := Config.discover_eq_ok_iff.mp discovered
  have leads (id : SegmentId) :=
    config.resolve_segmentPath (Storage.walk_of_resolve resolved) isDirectory plain id
  obtain ⟨placeFirst, _, resolvedFirst, stands, _⟩ := Storage.findFile_eq_ok_iff.mp found
  obtain ⟨placeSecond, _, resolvedSecond, standsAgain, _⟩ := Storage.findFile_eq_ok_iff.mp again
  rw [leads] at resolvedFirst resolvedSecond
  cases resolvedFirst
  cases resolvedSecond
  have same := orderly.single _ _ _ _ node (Storage.mem_entries_of_entryAt stands)
    (Storage.mem_entries_of_entryAt standsAgain)
    (by rw [List.dropLast_concat, List.dropLast_concat])
  apply SegmentId.fileName_inj
  simpa using same

namespace Log

theorem coherent_begin (opened : begin config layout storage = (.ok log, after)) :
    log.Coherent after ∧ log.config = config ∧ log.sealed = [] := by
  obtain ⟨fresh, created, rfl⟩ := begin_eq_ok opened
  obtain ⟨handle, made, rfl⟩ := Segment.create_eq_ok created
  obtain ⟨found, creates⟩ := Storage.findFile_createFile made
  refine ⟨⟨formed_ofSegments_nil rfl, ?_⟩, rfl, ?_⟩
  · intro segment member
    rw [segments_ofSegments, List.nil_append, List.mem_singleton] at member
    rw [member]
    exact Segment.seated_ofHandle layout creates found
  · rw [sealed_ofSegments]

/-- Opened segments make a coherent log. -/
theorem coherent_ofSegments {sealed : List Segment} {active : Segment}
    (discovered : config.discover storage = .ok ids)
    (ids_eq : (sealed ++ [active]).map Segment.id = ids.eraseDups)
    (each : ∀ segment ∈ sealed ++ [active], segment.closed = false ∧ segment.Seated config after) :
    (ofSegments config layout sealed active).Coherent after where
  formed := by
    have ascending := Config.ascending_of_discover discovered
    rw [← ids_eq] at ascending
    exact formed_ofSegments ascending fun segment member => (each segment member).1
  seated segment member := by
    rw [segments_ofSegments] at member
    exact (each segment member).2

/-- Segments that were discovered under different ids are on different files. -/
theorem apart_ofSegments {sealed : List Segment} {active : Segment} (orderly : storage.Orderly)
    (discovered : config.discover storage = .ok ids) (keeps : storage.Keeps after)
    (ids_eq : (sealed ++ [active]).map Segment.id = ids.eraseDups)
    (each : ∀ segment ∈ sealed ++ [active], segment.closed = false ∧ segment.Seated config after) :
    (ofSegments config layout sealed active).Apart after := by
  have ascending := Config.ascending_of_discover discovered
  rw [← ids_eq, List.pairwise_map] at ascending
  intro segment member same
  rw [sealed_ofSegments] at member
  rw [active_ofSegments] at same
  have below := (List.pairwise_append.mp ascending).2.2 segment member active (by simp)
  obtain ⟨seatedPath, node, found, refers, _⟩ := (each segment (List.mem_append_left _ member)).2
  obtain ⟨activePath, other, foundActive, refersActive, _⟩ := (each active (by simp)).2
  rw [refers, refersActive] at same
  cases same
  rw [seatedPath, Storage.findFile_congr keeps.entries_eq] at found
  rw [activePath, Storage.findFile_congr keeps.entries_eq] at foundActive
  have listed : segment.id ∈ ids := by
    rw [← List.mem_eraseDups, ← ids_eq]
    exact List.mem_map_of_mem (List.mem_append_left _ member)
  rw [Config.eq_of_findFile orderly discovered listed found foundActive] at below
  exact Nat.lt_irrefl _ below

/-- A log that was opened is coherent. Its segments are apart if names are. -/
theorem coherent_openFound (sound : storage.Sound)
    (discovered : config.discover storage = .ok ids)
    (opened : openFound config layout ids storage = (.ok log, after)) :
    log.Coherent after ∧ log.config = config ∧ (storage.Orderly → log.Apart after) := by
  obtain ⟨segments, middle, outcome, begun | ⟨sealed, active, report, recovered, rfl, done, rfl⟩⟩ :=
    openFound_eq_ok (Config.ascending_of_discover discovered) opened
  · obtain ⟨coherent, config_eq, sealed_eq⟩ := coherent_begin begun
    refine ⟨coherent, config_eq, fun _ segment member => ?_⟩
    rw [sealed_eq] at member
    cases member
  obtain ⟨ids_eq, keeps, each⟩ := Segment.seated_openAll sound outcome
  have coherent : (ofSegments config layout sealed active).Coherent middle :=
    coherent_ofSegments discovered ids_eq each
  obtain ⟨node, _, refers, inRange⟩ := (each active (by simp)).2.stands
  obtain ⟨bytes, rewrites⟩ : ∃ bytes, middle.Rewrites (active.recover middle).2.2 node bytes :=
    Segment.rewrites_recover refers inRange
  obtain ⟨size, recovered_eq⟩ := active.exists_recover_eq middle
  rw [done] at rewrites recovered_eq
  cases recovered_eq
  have coherentAfter : (ofSegments config layout sealed { active with size }).Coherent after := by
    refine coherent_ofSegments discovered (by simpa using ids_eq) ?_
    intro segment member
    rcases List.mem_append.mp member with older | single
    · obtain ⟨isOpen, seated⟩ := each segment (List.mem_append_left _ older)
      exact ⟨isOpen, seated.retains rewrites.retains⟩
    · obtain ⟨isOpen, seated⟩ := each active (by simp)
      have kept := seated.retains rewrites.retains
      rw [List.mem_singleton.mp single]
      exact ⟨isOpen, kept.path_eq, kept.stands⟩
  refine ⟨coherentAfter, rfl, fun orderly => ?_⟩
  have apart : (ofSegments config layout sealed active).Apart middle :=
    apart_ofSegments orderly discovered keeps ids_eq each
  refine (apart.retains coherent rewrites.retains).of_handles coherent.formed
    coherentAfter.formed ?_
  simp [handles, ofSegments, ofTable, Segment.entry]

theorem coherent_openDirectory (sound : storage.Sound)
    (opened : openDirectory config storage = (.ok log, after)) :
    log.Coherent after ∧ log.config = config ∧ (storage.Orderly → log.Apart after) := by
  obtain ⟨layout, middle, ids, _, _, created, discovered, found⟩ := openDirectory_eq_ok opened
  have made := sound.createDirectory ⟨config.directory⟩
  rw [created] at made
  obtain ⟨coherent, config_eq, apart⟩ := coherent_openFound made discovered found
  refine ⟨coherent, config_eq, fun orderly => apart ?_⟩
  have orderlyMade := orderly.createDirectory ⟨config.directory⟩
  rw [created] at orderlyMade
  exact orderlyMade

end Log

end Opening

end RecordLog
