import RecordLog.Segment

/-!
# What storage operations leave alone

Opening, syncing and releasing keep all names and all bytes, and every handle
keeps its file. Writing and truncating through a handle change the bytes of its
file and of no other. Creating a file adds one name and one file without bytes.
-/

namespace RecordLog

/-- All handles can be duplicated. -/
def Refusals.Duplicates (refusals : Refusals) : Prop :=
  ∀ handle, refusals.duplicationFault handle = .none

/-- The length of a file can be set, and synced. -/
structure Refusals.Truncates (refusals : Refusals) : Prop where
  resizes : refusals.resizeFault = .none
  flushes : refusals.flushFault = .none

/-- Files that are there can be opened and recovered. -/
structure Refusals.Recovers (refusals : Refusals) : Prop extends refusals.Truncates where
  duplicates : refusals.Duplicates

/-- A failure leaves nothing behind: no write stops part-way, and no file is
created that cannot be taken over. -/
structure Refusals.Clean (refusals : Refusals) : Prop where
  unlimited : refusals.growthLimit = .none
  duplicates : refusals.Duplicates

theorem Refusals.recovers_none : Refusals.none.Recovers := ⟨⟨rfl, rfl⟩, fun _ => rfl⟩

theorem Refusals.clean_none : Refusals.none.Clean := ⟨rfl, fun _ => rfl⟩

namespace Storage

/-- Storage with the same names and the same bytes, where all handles still
refer to their files. -/
structure Keeps (before after : Storage) : Prop where
  entries_eq : after.entries = before.entries
  size_eq : after.nodes.size = before.nodes.size
  bytes_eq : ∀ node, after.nodeBytes node = before.nodeBytes node
  nodeOf?_eq : ∀ {handle node}, before.nodeOf? handle = some node →
    after.nodeOf? handle = some node

/-- Storage where one file has the given bytes, and all else is kept. -/
structure Rewrites (before after : Storage) (node : Nat) (bytes : Content) : Prop where
  entries_eq : after.entries = before.entries
  size_eq : after.nodes.size = before.nodes.size
  bytes_eq : after.nodeBytes node = bytes
  others_eq : ∀ other, other ≠ node → after.nodeBytes other = before.nodeBytes other
  nodeOf?_eq : ∀ {handle node}, before.nodeOf? handle = some node →
    after.nodeOf? handle = some node

variable {storage before middle after : Storage}

theorem Keeps.refl (storage : Storage) : Keeps storage storage where
  entries_eq := rfl
  size_eq := rfl
  bytes_eq _ := rfl
  nodeOf?_eq found := found

theorem Keeps.trans (first : Keeps before middle) (second : Keeps middle after) :
    Keeps before after where
  entries_eq := second.entries_eq.trans first.entries_eq
  size_eq := second.size_eq.trans first.size_eq
  bytes_eq node := (second.bytes_eq node).trans (first.bytes_eq node)
  nodeOf?_eq found := second.nodeOf?_eq (first.nodeOf?_eq found)

theorem Rewrites.keeps {node : Nat} {bytes : Content}
    (first : Rewrites before middle node bytes) (second : Keeps middle after) :
    Rewrites before after node bytes where
  entries_eq := second.entries_eq.trans first.entries_eq
  size_eq := second.size_eq.trans first.size_eq
  bytes_eq := (second.bytes_eq node).trans first.bytes_eq
  others_eq other ne := (second.bytes_eq other).trans (first.others_eq other ne)
  nodeOf?_eq found := second.nodeOf?_eq (first.nodeOf?_eq found)

theorem Keeps.then {node : Nat} {bytes : Content} (first : Keeps before middle)
    (second : Rewrites middle after node bytes) : Rewrites before after node bytes where
  entries_eq := second.entries_eq.trans first.entries_eq
  size_eq := second.size_eq.trans first.size_eq
  bytes_eq := second.bytes_eq
  others_eq other ne := (second.others_eq other ne).trans (first.bytes_eq other)
  nodeOf?_eq found := second.nodeOf?_eq (first.nodeOf?_eq found)

theorem Keeps.content_eq (keeps : Keeps before after) {handle : Handle} {node : Nat}
    (found : before.nodeOf? handle = some node) :
    after.content handle = before.content handle := by
  rw [content, content, found, keeps.nodeOf?_eq found]
  exact keeps.bytes_eq node

theorem content_eq_nodeBytes {handle : Handle} {node : Nat}
    (found : storage.nodeOf? handle = some node) :
    storage.content handle = storage.nodeBytes node := by
  rw [content, found]
  rfl

/-! ## Names -/

theorem mem_entries_of_entryAt {place : Place} {entry : Entry}
    (found : storage.entryAt place = some entry) : (place, entry) ∈ storage.entries := by
  obtain ⟨front, back, entries_eq, _⟩ := List.lookup_eq_some_iff.mp found
  rw [entries_eq]
  simp

/-- A path leads to a file if one stands at its place, and it asks for no
directory. -/
theorem findFile_eq_ok_iff {path : Path} {node : Nat} :
    storage.findFile path = .ok node ↔
      ∃ place isRegular, storage.resolve path = .ok place ∧
        storage.entryAt place = some (@Entry.file isRegular node) ∧
          path.namesDirectory = false := by
  unfold findFile find
  constructor
  · intro found
    split at found
    · cases found
    · cases found
    rename_i other named
    cases found
    split at named
    · cases named
    rename_i place resolved
    split at named
    · cases named
    · cases named
    rename_i stands
    split at named
    · cases named
    · rename_i plain
      cases named
      exact ⟨place, _, resolved, stands, eq_false_of_ne_true plain⟩
  · rintro ⟨place, isRegular, resolved, stands, plain⟩
    simp only [resolved, stands, plain, Bool.false_eq_true, if_false]

/-! ## Files -/

theorem nodeBytes_modifyNode {node : Nat} (inRange : node < storage.nodes.size)
    (change : FileNode → FileNode) :
    (storage.modifyNode node change).nodeBytes node = (change storage.nodes[node]).bytes := by
  simp [modifyNode, nodeBytes, inRange, Array.getElem_modify_self]

theorem nodeBytes_modifyNode_of_ne {node other : Nat} (ne : other ≠ node)
    (change : FileNode → FileNode) :
    (storage.modifyNode node change).nodeBytes other = storage.nodeBytes other := by
  simp [modifyNode, nodeBytes, Array.getElem?_modify, Ne.symm ne]

theorem nodeBytes_eq {node : Nat} (inRange : node < storage.nodes.size) :
    storage.nodeBytes node = storage.nodes[node].bytes := by
  simp [nodeBytes, inRange]

/-- Changing an open file gives and takes no names. -/
theorem entries_modifyOpen (storage : Storage) (handle : Handle)
    (change : FileNode → FileNode) :
    (storage.modifyOpen handle change).entries = storage.entries := by
  unfold modifyOpen
  split <;> rfl

theorem nodeOf?_modifyOpen (storage : Storage) (handle other : Handle)
    (change : FileNode → FileNode) :
    (storage.modifyOpen handle change).nodeOf? other = storage.nodeOf? other := by
  unfold modifyOpen
  split <;> rfl

theorem size_modifyOpen (storage : Storage) (handle : Handle) (change : FileNode → FileNode) :
    (storage.modifyOpen handle change).nodes.size = storage.nodes.size := by
  unfold modifyOpen
  split
  · rfl
  · exact Array.size_modify

theorem entries_write (storage : Storage) (handle : Handle) (offset : Nat) (data : List UInt8) :
    (storage.write handle offset data).2.entries = storage.entries := by
  unfold write
  simp only
  split <;> exact storage.entries_modifyOpen handle _

/-- Changing a file rewrites its bytes and keeps the rest. -/
theorem rewrites_modifyOpen {handle : Handle} {node : Nat}
    (found : storage.nodeOf? handle = some node) (inRange : node < storage.nodes.size)
    (change : FileNode → FileNode) :
    Rewrites storage (storage.modifyOpen handle change) node
      (change storage.nodes[node]).bytes := by
  have modified : storage.modifyOpen handle change = storage.modifyNode node change := by
    simp only [modifyOpen, found]
  rw [modified]
  constructor
  · rfl
  · simp [modifyNode]
  · exact nodeBytes_modifyNode inRange change
  · intro other ne
    exact nodeBytes_modifyNode_of_ne ne change
  · exact fun found => found

/-- Rewriting a file with the bytes it has keeps everything. -/
theorem Rewrites.keeps_of_eq {node : Nat} {bytes : Content}
    (rewrites : Rewrites before after node bytes) (same : bytes = before.nodeBytes node) :
    Keeps before after where
  entries_eq := rewrites.entries_eq
  size_eq := rewrites.size_eq
  bytes_eq other := by
    by_cases here : other = node
    · rw [here, rewrites.bytes_eq, same]
    · exact rewrites.others_eq other here
  nodeOf?_eq := rewrites.nodeOf?_eq

/-- Keeping everything rewrites a file with the bytes it has. -/
theorem Keeps.rewrites (keeps : Keeps before after) (node : Nat) :
    Rewrites before after node (before.nodeBytes node) where
  entries_eq := keeps.entries_eq
  size_eq := keeps.size_eq
  bytes_eq := keeps.bytes_eq node
  others_eq other _ := keeps.bytes_eq other
  nodeOf?_eq := keeps.nodeOf?_eq

/-! ## Handles -/

theorem nodeOf?_openNode (storage : Storage) (node : Nat) :
    (storage.openNode node).2.nodeOf? (storage.openNode node).1 = some node := by
  simp [openNode, nodeOf?]

theorem keeps_openNode (storage : Storage) (node : Nat) :
    Keeps storage (storage.openNode node).2 where
  entries_eq := rfl
  size_eq := rfl
  bytes_eq _ := rfl
  nodeOf?_eq {handle node} found := by
    simp only [nodeOf?, Option.map_eq_some_iff] at found ⊢
    obtain ⟨opened, at_index, same⟩ := found
    refine ⟨opened, ?_, same⟩
    obtain ⟨within, _⟩ := Array.getElem?_eq_some_iff.mp at_index
    rw [openNode, Array.getElem?_push_lt within, ← at_index, Array.getElem?_eq_getElem within]

theorem keeps_release (storage : Storage) (handle : Handle) :
    Keeps storage (storage.release handle) where
  entries_eq := rfl
  size_eq := rfl
  bytes_eq _ := rfl
  nodeOf?_eq {other node} found := by
    simp only [nodeOf?, Option.map_eq_some_iff, release, modifyHandle,
      Array.getElem?_modify] at found ⊢
    obtain ⟨opened, at_index, same⟩ := found
    split
    · refine ⟨{ opened with held := false }, ?_, same⟩
      rw [at_index, Option.map_some]
    · exact ⟨opened, at_index, same⟩

theorem keeps_sync (storage : Storage) (handle : Handle) :
    Keeps storage (storage.sync handle).2 := by
  unfold sync
  split
  · exact .refl storage
  cases found : storage.nodeOf? handle with
  | none =>
      simp only [modifyOpen, found]
      exact .refl storage
  | some node =>
      by_cases inRange : node < storage.nodes.size
      · exact (rewrites_modifyOpen found inRange _).keeps_of_eq (nodeBytes_eq inRange).symm
      · have same :
            storage.nodes.modify node (fun file => { file with synced := file.bytes.size }) =
              storage.nodes := by
          apply Array.ext
          · simp
          · intro index _ _
            rw [Array.getElem_modify, if_neg (by omega)]
        simp only [modifyOpen, found, modifyNode, same]
        exact .refl storage

/-! ## Refusals -/

@[simp]
theorem toRefusals_modifyOpen (storage : Storage) (handle : Handle)
    (change : FileNode → FileNode) :
    (storage.modifyOpen handle change).toRefusals = storage.toRefusals := by
  unfold modifyOpen
  split <;> rfl

@[simp]
theorem toRefusals_sync (storage : Storage) (handle : Handle) :
    (storage.sync handle).2.toRefusals = storage.toRefusals := by
  unfold sync
  split
  · rfl
  · exact storage.toRefusals_modifyOpen handle _

@[simp]
theorem toRefusals_write (storage : Storage) (handle : Handle) (offset : Nat)
    (data : List UInt8) :
    (storage.write handle offset data).2.toRefusals = storage.toRefusals := by
  unfold write
  simp only
  split <;> exact storage.toRefusals_modifyOpen handle _

/-! ## Writing -/

/-- A write rewrites the file with as many bytes as the storage takes. -/
theorem rewrites_write {handle : Handle} {node : Nat}
    (found : storage.nodeOf? handle = some node) (inRange : node < storage.nodes.size)
    (offset : Nat) (data : List UInt8) :
    Rewrites storage (storage.write handle offset data).2 node
      ((storage.nodeBytes node).overwrite offset
        (data.take (storage.admitted offset data.length))) := by
  have rewrites := rewrites_modifyOpen found inRange fun file =>
    { file with
      bytes := file.bytes.overwrite offset (data.take (storage.admitted offset data.length)) }
  simp only [← nodeBytes_eq inRange] at rewrites
  unfold write
  simp only
  split
  · exact rewrites
  · exact rewrites

theorem keeps_flush {handle : Handle} {node : Nat} (found : storage.nodeOf? handle = some node)
    (inRange : node < storage.nodes.size) : Keeps storage (storage.flush handle).2 := by
  unfold flush
  split
  · exact .refl storage
  · exact (rewrites_modifyOpen found inRange _).keeps_of_eq (nodeBytes_eq inRange).symm

/-- Setting the length of a file fails and changes nothing, or it rewrites the
file. Then its sync may still fail. -/
theorem truncate_cases {handle : Handle} {node : Nat}
    (found : storage.nodeOf? handle = some node) (inRange : node < storage.nodes.size)
    (length : Nat) :
    (∃ cause, storage.truncate handle length = (.error cause, storage) ∧
        storage.resizeFault ≠ none) ∨
      ∃ answer after, storage.truncate handle length = (answer, after) ∧
        Rewrites storage after node ((storage.nodeBytes node).resize length) ∧
          (storage.flushFault = none → answer = .ok ()) := by
  have rewrites := rewrites_modifyOpen found inRange fun file =>
    { bytes := file.bytes.resize length, synced := min file.synced length }
  simp only [← nodeBytes_eq inRange] at rewrites
  have keeps := keeps_flush (rewrites.nodeOf?_eq found) (by rwa [rewrites.size_eq])
  cases fault : storage.resizeFault with
  | some cause => exact .inl ⟨cause, by simp only [truncate, resize, fault], by simp⟩
  | none =>
      refine .inr ⟨_, _, rfl, ?_, ?_⟩
      · simp only [resize, fault]
        exact rewrites.keeps keeps
      · intro healthy
        simp only [resize, fault, flush, toRefusals_modifyOpen, healthy]

/-- Where the storage sets lengths and syncs them, a file can be cut. -/
theorem truncate_eq (truncates : storage.Truncates) (handle : Handle) (length : Nat) :
    storage.truncate handle length =
      (.ok (), (storage.modifyOpen handle fun file =>
        { bytes := file.bytes.resize length, synced := min file.synced length }).modifyOpen handle
          fun file => { file with synced := file.bytes.size }) := by
  simp only [truncate, resize, flush, toRefusals_modifyOpen, truncates.resizes, truncates.flushes]

theorem truncate_of_truncates (truncates : storage.Truncates) (handle : Handle) (length : Nat) :
    (storage.truncate handle length).1 = .ok () := by
  rw [truncate_eq truncates]

theorem entries_truncate (storage : Storage) (handle : Handle) (length : Nat) :
    (storage.truncate handle length).2.entries = storage.entries := by
  unfold truncate resize flush
  cases storage.resizeFault with
  | some cause => rfl
  | none =>
      simp only
      split
      · exact storage.entries_modifyOpen handle _
      · exact (entries_modifyOpen _ handle _).trans (storage.entries_modifyOpen handle _)

/-- A write succeeds exactly when the storage takes all of its bytes. -/
theorem write_fst (storage : Storage) (handle : Handle) (offset : Nat) (data : List UInt8) :
    (storage.write handle offset data).1 =
      if storage.admitted offset data.length < data.length then .error .fileTooLarge
      else .ok () := by
  unfold write
  simp only
  split <;> rfl

/-! ## Creating -/

/-- Storage with one more file, which has no bytes and is open. -/
structure Creates (before after : Storage) (handle : Handle) : Prop where
  toRefusals_eq : after.toRefusals = before.toRefusals
  size_eq : after.nodes.size = before.nodes.size + 1
  nodeOf?_new : after.nodeOf? handle = some before.nodes.size
  bytes_new : after.nodeBytes before.nodes.size = #[]
  bytes_eq : ∀ node, node < before.nodes.size → after.nodeBytes node = before.nodeBytes node
  nodeOf?_eq : ∀ {handle node}, before.nodeOf? handle = some node →
    after.nodeOf? handle = some node

theorem creates_addFile (storage : Storage) (place : Place) :
    Creates storage ((storage.addFile place).openNode storage.nodes.size).2
      ((storage.addFile place).openNode storage.nodes.size).1 where
  toRefusals_eq := rfl
  size_eq := by simp [openNode, addFile, addEntry]
  nodeOf?_new := nodeOf?_openNode _ _
  bytes_new := by simp [openNode, addFile, addEntry, nodeBytes]
  bytes_eq node inRange := by
    simp [openNode, addFile, addEntry, nodeBytes, Array.getElem?_push_lt, inRange]
  nodeOf?_eq found := (keeps_openNode (storage.addFile place) _).nodeOf?_eq found

/-- A file is created at the vacant place that its path leads to, or nothing
changes. -/
theorem createFile_cases (storage : Storage) (path : Path) :
    (∃ cause, storage.createFile path = (.error cause, storage)) ∨
      ∃ place, storage.resolve path = .ok place ∧ path.endsWithDots = false ∧
        path.endsWithSlash = false ∧ storage.entryAt place = none ∧
          storage.createFile path =
            (.ok ((storage.addFile place).openNode storage.nodes.size).1,
              ((storage.addFile place).openNode storage.nodes.size).2) := by
  unfold createFile
  split
  · exact .inl ⟨_, rfl⟩
  rename_i place resolved
  split
  · exact .inl ⟨_, rfl⟩
  rename_i noDots
  split
  · exact .inl ⟨_, rfl⟩
  rename_i noSlash
  split
  · exact .inl ⟨_, rfl⟩
  rename_i vacant
  split
  · exact .inl ⟨_, rfl⟩
  · exact .inr ⟨place, resolved, eq_false_of_ne_true noDots, eq_false_of_ne_true noSlash, vacant,
      rfl⟩

/-- No file is created where one is found. -/
theorem createFile_of_findFile {path : Path} {node : Nat}
    (found : storage.findFile path = .ok node) :
    ∃ cause, storage.createFile path = (.error cause, storage) := by
  obtain ⟨place, _, resolved, stands, _⟩ := findFile_eq_ok_iff.mp found
  rcases storage.createFile_cases path with failed | ⟨other, leads, _, _, vacant, _⟩
  · exact failed
  · rw [resolved] at leads
    cases leads
    rw [stands] at vacant
    cases vacant

theorem Creates.release {handle : Handle} (creates : before.Creates after handle) :
    before.Creates (after.release handle) handle where
  toRefusals_eq := creates.toRefusals_eq
  size_eq := creates.size_eq
  nodeOf?_new := (after.keeps_release handle).nodeOf?_eq creates.nodeOf?_new
  bytes_new := creates.bytes_new
  bytes_eq := creates.bytes_eq
  nodeOf?_eq found := (after.keeps_release handle).nodeOf?_eq (creates.nodeOf?_eq found)

end Storage

namespace Segment

/-! ## What the handles of a segment are for -/

/-- A segment that takes writes is open and not poisoned. -/
theorem isUsable_eq (segment : Segment) :
    segment.isUsable = (!segment.poisoned && !segment.closed) := by
  rw [isUsable, segment.hasFile_eq]

/-- An open segment takes writes unless it is poisoned. The lack of a handle is
no other cause. -/
theorem usageFault_eq (segment : Segment) :
    segment.usageFault =
      if segment.closed then some .closed
      else if segment.poisoned then some (.invalid (.poisoned segment.id))
      else none := by
  rw [usageFault, segment.hasFile_eq]
  cases segment.closed <;> rfl

theorem usageFault_eq_none {segment : Segment} (usable : segment.isUsable = true) :
    segment.usageFault = none := by
  rw [isUsable_eq, Bool.and_eq_true, Bool.not_eq_true', Bool.not_eq_true'] at usable
  rw [usageFault_eq, usable.1, usable.2]
  rfl

/-- An open segment is read from its file. -/
theorem image_eq {segment : Segment} (isOpen : segment.closed = false) (storage : Storage) :
    segment.image storage =
      { layout := segment.layout
        size := segment.size
        bytes := storage.content segment.handle
        shortage := .storage .unexpectedEnd
        isOpen := true } := by
  simp [image, isOpen]

/-- An open segment is synced by its handle. -/
theorem sync_eq (segment : Segment) (storage : Storage) :
    segment.sync storage =
      if segment.closed then (false, storage) else storage.sync segment.handle := by
  rw [sync, segment.hasDuplicate_eq]
  cases segment.closed <;> rfl

theorem close_eq (segment : Segment) (storage : Storage) :
    segment.close storage =
      if segment.closed then (true, segment, storage)
      else ((storage.sync segment.handle).1, segment.shut,
        (storage.sync segment.handle).2.release segment.handle) := by
  rw [close, sync_eq]
  cases segment.closed <;> rfl

/-- A closed segment is as it is when closed. -/
theorem shut_of_closed {segment : Segment} (closed : segment.closed = true) :
    segment.shut = segment := by
  obtain ⟨id, path, layout, handle, hasFile, hasDuplicate, size, isClosed, poisoned, file_eq,
    duplicate_eq⟩ := segment
  subst closed file_eq duplicate_eq
  rfl

theorem close_eq_shut (segment : Segment) (storage : Storage) :
    (segment.close storage).2.1 = segment.shut := by
  rw [close_eq]
  split
  · rename_i closed
    exact (shut_of_closed closed).symm
  · rfl

/-- An append changes the size of a segment or poisons it. -/
theorem exists_append_eq (segment : Segment) (payload : List UInt8) (storage : Storage) :
    ∃ size poisoned, (segment.append payload storage).2.1 = { segment with size, poisoned } := by
  unfold append
  split
  · exact ⟨_, _, rfl⟩
  · simp only
    split
    · exact ⟨_, _, rfl⟩
    · exact ⟨_, _, rfl⟩

theorem exists_truncate_eq (segment : Segment) (length : Nat) (storage : Storage) :
    ∃ size, (segment.truncate length storage).2.1 = { segment with size } := by
  unfold truncate
  split
  · exact ⟨_, rfl⟩
  split <;> exact ⟨_, rfl⟩

/-- Recovery changes the size of a segment, if anything. -/
theorem exists_recover_eq (segment : Segment) (storage : Storage) :
    ∃ size, (segment.recover storage).2.1 = { segment with size } := by
  unfold recover
  split
  · exact ⟨_, rfl⟩
  rename_i report _
  have cut := segment.exists_truncate_eq report.validLength storage
  split
  · split <;>
      · rename_i outcome
        rw [outcome] at cut
        exact cut
  · exact ⟨_, rfl⟩

variable {path : Path} {id : SegmentId} {layout : Layout} {storage after : Storage}
  {segment : Segment}

/-! ## Taking files over -/

/-- Taking over a file gives a segment on it, unless its handle cannot be
duplicated. -/
theorem attach_eq (path : Path) (id : SegmentId) (layout : Layout) (handle : Handle)
    (size : Nat) (storage : Storage) :
    (∃ cause, attach path id layout handle size storage =
        (.error (.storage cause), storage.release handle) ∧
          storage.duplicationFault handle ≠ none) ∨
      attach path id layout handle size storage =
        (.ok (.ofHandle path id layout handle size), storage) := by
  unfold attach
  split
  · rename_i cause fault
    exact .inl ⟨_, rfl, by simp [fault]⟩
  · exact .inr rfl

/-- A file whose handle cannot be duplicated is not taken over. -/
theorem attach_of_fault {handle : Handle} (fault : storage.duplicationFault handle ≠ none)
    (path : Path) (id : SegmentId) (layout : Layout) (size : Nat) :
    ∃ cause, attach path id layout handle size storage =
      (.error (.storage cause), storage.release handle) := by
  obtain ⟨cause, refuses⟩ := Option.ne_none_iff_exists'.mp fault
  exact ⟨cause, by simp only [attach, refuses]⟩

/-- A segment that was created is open on the file that was created. -/
theorem create_eq_ok (created : create path id layout storage = (.ok segment, after)) :
    ∃ handle, storage.createFile path = (.ok handle, after) ∧
      segment = .ofHandle path id layout handle 0 := by
  unfold create at created
  split at created
  · cases created
  rename_i handle middle made
  rcases attach_eq path id layout handle 0 middle with ⟨cause, refused, _⟩ | attached
  · rw [refused] at created
    cases created
  · rw [attached] at created
    cases created
    exact ⟨handle, made, rfl⟩

/-- A segment that was opened is open on the file that was opened. -/
theorem openExisting_eq_ok
    (opened : openExisting path id layout storage = (.ok segment, after)) :
    ∃ handle, storage.openFile path = (.ok handle, after) ∧
      segment = .ofHandle path id layout handle (after.content handle).size := by
  unfold openExisting at opened
  split at opened
  · cases opened
  rename_i handle middle found
  rcases attach_eq path id layout handle (middle.content handle).size middle with
    ⟨cause, refused, _⟩ | attached
  · rw [refused] at opened
    cases opened
  · rw [attached] at opened
    cases opened
    exact ⟨handle, found, rfl⟩

/-- Creating a segment leaves the storage as the creation of its file does, or
with the handle released. -/
theorem create_snd (path : Path) (id : SegmentId) (layout : Layout) (storage : Storage) :
    (create path id layout storage).2 = (storage.createFile path).2 ∨
      ∃ handle, (create path id layout storage).2 = (storage.createFile path).2.release handle := by
  unfold create
  split
  · rename_i failed
    exact .inl (by rw [failed])
  rename_i handle middle made
  rw [made]
  rcases attach_eq path id layout handle 0 middle with ⟨cause, refused, _⟩ | attached
  · exact .inr ⟨handle, by rw [refused]⟩
  · exact .inl (by rw [attached])

end Segment

end RecordLog
