import Mathlib.Data.List.Find
import RecordLog.Proofs.WorldOrder

/-!
# Writes that fail

A write that fails may have left bytes in the file of the active segment, but
only behind the size that the segment remembers, and a reader looks at nothing
there. It may also have sealed the active segment before, and begun another one
that is still empty. So all that was readable reads as it did. A write that is
too large, and one whose new file cannot be created, change nothing at all. Where the
file was created and its handle cannot be duplicated, the file stays, without bytes.
-/

namespace RecordLog

/-- Writing behind some bytes of a file leaves them as they are. -/
theorem Content.take_overwrite (content : Content) {offset length : Nat} (data : List UInt8)
    (le : length ≤ offset) (inside : offset ≤ content.size) :
    (content.overwrite offset data).toList.take length = content.toList.take length := by
  have inList : length ≤ content.toList.length := by
    rw [Array.length_toList]
    exact Nat.le_trans le inside
  unfold overwrite
  split
  · rfl
  split
  · rw [Array.toList_appendList, Array.toList_append, List.append_assoc,
      List.take_append_of_le_length inList]
  · rw [Array.toList_append, Array.toList_appendList, Array.toList_extract,
      List.extract_eq_take_drop, Nat.sub_zero, List.drop_zero, List.append_assoc,
      List.take_append_of_le_length (by rw [List.length_take]; omega), List.take_take,
      Nat.min_eq_left le]

/-! ## Images that look alike -/

namespace Image

/-- Images that a reader cannot tell apart: they differ in nothing but the bytes
behind their size. -/
structure Alike (image other : Image) : Prop where
  layout_eq : other.layout = image.layout
  size_eq : other.size = image.size
  isOpen_eq : other.isOpen = image.isOpen
  shortage_eq : other.shortage = image.shortage
  whole : image.Whole
  otherWhole : other.Whole
  stored_eq : other.stored = image.stored

namespace Alike

variable {image other : Image}

theorem refl (whole : image.Whole) : image.Alike image :=
  ⟨rfl, rfl, rfl, rfl, whole, whole, rfl⟩

theorem trans {third : Image} (first : image.Alike other) (second : other.Alike third) :
    image.Alike third where
  layout_eq := second.layout_eq.trans first.layout_eq
  size_eq := second.size_eq.trans first.size_eq
  isOpen_eq := second.isOpen_eq.trans first.isOpen_eq
  shortage_eq := second.shortage_eq.trans first.shortage_eq
  whole := first.whole
  otherWhole := second.otherWhole
  stored_eq := second.stored_eq.trans first.stored_eq

theorem slice?_eq (alike : image.Alike other) {offset length : Nat}
    (within : offset + length ≤ image.size) :
    other.slice? offset length = image.slice? offset length := by
  rw [slice?_eq_take_drop alike.whole within,
    slice?_eq_take_drop alike.otherWhole (by rwa [alike.size_eq]), alike.stored_eq]

theorem chunkAt_eq (alike : image.Alike other) (offset : Nat) :
    other.chunkAt offset = image.chunkAt offset := by
  unfold chunkAt
  rw [alike.size_eq, alike.layout_eq, alike.shortage_eq]
  by_cases short : image.size < offset + headerSize
  · rw [if_pos short, if_pos short]
  rw [if_neg short, if_neg short, alike.slice?_eq (Nat.le_of_not_lt short)]
  cases image.slice? offset headerSize with
  | none => rfl
  | some header =>
      simp only
      by_cases torn : image.size < offset + (headerSize + Chunk.declaredLength header)
      · rw [if_pos torn, if_pos torn]
      · rw [alike.slice?_eq (Nat.le_of_not_lt torn)]

theorem readChunks_eq (alike : image.Alike other) (isFirst : Bool) (offset : Nat) :
    other.readChunks isFirst offset = image.readChunks isFirst offset := by
  have aligned (offset : Nat) : other.layout.align offset = image.layout.align offset := by
    rw [alike.layout_eq]
  have step {isFirst : Bool} {offset start : Nat} {chunk : Chunk}
      (start_eq : image.layout.align offset = start) (found : image.chunkAt start = .ok chunk) :=
    @readChunks_of_chunkAt other isFirst offset start chunk ((aligned offset).trans start_eq)
      ((alike.chunkAt_eq start).trans found)
  fun_induction readChunks image isFirst offset with
  | case1 isFirst offset start cause missing =>
      exact readChunks_of_error (by rw [aligned, alike.chunkAt_eq, missing])
  | case2 isFirst offset start chunk found notFirst => rw [step rfl found, if_pos notFirst]
  | case3 isFirst offset start chunk found first notLater =>
      rw [step rfl found, if_neg first, if_pos notLater]
  | case4 isFirst offset start chunk found first later ends =>
      rw [step rfl found, if_neg first, if_neg later, if_pos ends]
  | case5 isFirst offset start chunk found first later continues cause failed ih =>
      rw [step rfl found, if_neg first, if_neg later, if_neg continues, ih, failed]
  | case6 isFirst offset start chunk found first later continues rest stop done ih =>
      rw [step rfl found, if_neg first, if_neg later, if_neg continues, ih, done]

theorem read_eq (alike : image.Alike other) (offset : Nat) :
    other.read offset = image.read offset := by
  rw [read, read, alike.isOpen_eq, alike.size_eq, alike.readChunks_eq]

theorem next_eq (alike : image.Alike other) (position : Nat) :
    other.next position = image.next position := by
  simp only [next, alike.layout_eq, alike.size_eq, alike.read_eq]

theorem recordsFrom_eq (alike : image.Alike other) (position : Nat) :
    other.recordsFrom position = image.recordsFrom position := by
  fun_induction recordsFrom image position with
  | case1 position cause failed => rw [Image.recordsFrom_eq, alike.next_eq, failed]
  | case2 position ended => rw [Image.recordsFrom_eq, alike.next_eq, ended]
  | case3 position record after found records ending same ih =>
      rw [Image.recordsFrom_eq, alike.next_eq, found]
      simp only [ih, same]

theorem records_eq (alike : image.Alike other) : other.records = image.records := by
  rw [records, records, alike.recordsFrom_eq]

end Alike

end Image

/-! ## Segments that show the same -/

/-- A segment shows readers what another one showed them. -/
structure Segment.Shows (storage : Storage) (segment : Segment) (after : Storage)
    (again : Segment) : Prop where
  id_eq : again.id = segment.id
  path_eq : again.path = segment.path
  alike : (segment.image storage).Alike (again.image after)

theorem Segment.Whole.shows {segment : Segment} {storage after : Storage}
    (whole : segment.Whole storage) (isOpen : segment.closed = false)
    (content_eq : after.content segment.handle = storage.content segment.handle) :
    segment.Shows storage after segment := by
  have same : segment.image after = segment.image storage := by
    rw [Segment.image, Segment.image, content_eq]
  exact ⟨rfl, rfl, by rw [same]; exact .refl (whole.image isOpen)⟩

/-- Bytes that are written from the size of a segment on are nothing to its readers. -/
theorem Segment.Whole.shows_overwrite {segment : Segment} {storage after : Storage}
    (whole : segment.Whole storage) (isOpen : segment.closed = false) {node : Nat}
    (refers : storage.nodeOf? segment.handle = some node) {data : List UInt8}
    (rewrites : storage.Rewrites after node
      ((storage.nodeBytes node).overwrite segment.size data)) :
    segment.Shows storage after { segment with poisoned := true } := by
  have before : storage.content segment.handle = storage.nodeBytes node :=
    Storage.content_eq_nodeBytes refers
  have content_eq : after.content segment.handle =
      (storage.nodeBytes node).overwrite segment.size data := by
    rw [Storage.content_eq_nodeBytes (rewrites.nodeOf?_eq refers), rewrites.bytes_eq]
  have inFile : segment.size ≤ (storage.nodeBytes node).size := before ▸ whole
  have kept := Content.take_overwrite (storage.nodeBytes node) data (Nat.le_refl segment.size)
    inFile
  have image_eq := Segment.image_eq isOpen storage
  have openAfter : ({ segment with poisoned := true } : Segment).closed = false := isOpen
  have imageAfter_eq := Segment.image_eq openAfter after
  refine ⟨rfl, rfl, rfl, rfl, rfl, rfl, whole.image isOpen, ?_, ?_⟩
  · rw [imageAfter_eq]
    change segment.size ≤ (after.content segment.handle).size
    rw [content_eq, ← Array.length_toList]
    have length_eq := congrArg List.length kept
    have inList : segment.size ≤ (storage.nodeBytes node).toList.length := by
      rwa [Array.length_toList]
    rw [List.length_take, List.length_take, Nat.min_eq_left inList] at length_eq
    omega
  · rw [imageAfter_eq, image_eq]
    change (after.content segment.handle).toList.take segment.size =
      (storage.content segment.handle).toList.take segment.size
    rw [content_eq, before, kept]

theorem Segment.Shows.trans {segment again last : Segment} {storage after final : Storage}
    (first : segment.Shows storage after again) (second : again.Shows after final last) :
    segment.Shows storage final last :=
  ⟨second.id_eq.trans first.id_eq, second.path_eq.trans first.path_eq,
    first.alike.trans second.alike⟩

theorem Segment.Shows.size_eq {segment again : Segment} {storage after : Storage}
    (shows : segment.Shows storage after again) : again.size = segment.size :=
  shows.alike.size_eq

namespace Log

variable {log again last : Log} {storage after final : Storage} {id : SegmentId}
  {more : List Segment}

/-! ## Logs that show the same -/

/-- The segments of a log with their paths and sizes, in ascending order. -/
def outline (log : Log) : List (SegmentId × Path × Nat) :=
  log.infos.map fun info => (info.id, info.path, info.size)

theorem Formed.outline_eq_map (formed : log.Formed) :
    log.outline = log.segments.map fun segment => (segment.id, segment.path, segment.size) := by
  rw [outline, formed.infos_eq, List.map_map]
  rfl

/-- A log whose first segments show what those of another log showed, with the
given ones behind them. -/
structure Shows (log : Log) (storage : Storage) (again : Log) (after : Storage)
    (more : List Segment) : Prop where
  formed : log.Formed
  formedAfter : again.Formed
  config_eq : again.config = log.config
  closed_eq : again.closed = log.closed
  segments : ∃ shown, again.segments = log.segments.map shown ++ more ∧
    ∀ segment ∈ log.segments, segment.Shows storage after (shown segment)

namespace Shows

/-- The active segment may be another one, if it shows the same. -/
theorem of_active (formed : log.Formed) {active : Segment}
    (formedAfter : (log.withActive active).Formed)
    (sealed : ∀ segment ∈ log.sealed, segment.Shows storage after segment)
    (shows : log.active.Shows storage after active) :
    log.Shows storage (log.withActive active) after [] := by
  have differs {segment : Segment} (member : segment ∈ log.sealed) :
      segment.id ≠ log.active.id := by
    intro same
    have := formed.below segment member
    rw [same] at this
    exact Nat.lt_irrefl _ this
  let shown (segment : Segment) : Segment :=
    if segment.id = log.active.id then active else segment
  have shown_sealed : ∀ segment ∈ log.sealed, shown segment = segment :=
    fun segment member => if_neg (differs member)
  have shown_active : shown log.active = active := if_pos rfl
  refine ⟨formed, formedAfter, rfl, rfl, shown, ?_, ?_⟩
  · rw [withActive, segments_withSegments, formed.segments_eq, List.append_nil, List.map_append,
      List.map_congr_left shown_sealed, List.map_id', List.map_singleton, shown_active]
  · intro segment member
    rcases formed.mem_segments.mp member with older | rfl
    · rw [shown_sealed segment older]
      exact sealed segment older
    · rw [shown_active]
      exact shows

/-- What shows the same again does so behind the first segments as well. -/
theorem trans {rest : List Segment} (first : log.Shows storage again after more)
    (second : again.Shows after last final rest) :
    ∃ shown, log.Shows storage last final (more.map shown ++ rest) ∧
      ∀ segment ∈ more, segment.Shows after final (shown segment) := by
  obtain ⟨shown, split_eq, each⟩ := first.segments
  obtain ⟨shownLast, splitLast, eachLast⟩ := second.segments
  rw [split_eq, List.map_append, List.map_map, List.append_assoc] at splitLast
  rw [split_eq] at eachLast
  refine ⟨shownLast, ⟨first.formed, second.formedAfter, second.config_eq.trans first.config_eq,
    second.closed_eq.trans first.closed_eq, _, splitLast, ?_⟩, ?_⟩
  · intro segment member
    exact (each segment member).trans
      (eachLast _ (List.mem_append_left _ (List.mem_map_of_mem member)))
  · exact fun segment member => eachLast segment (List.mem_append_right _ member)

/-- Under each id there is a segment that shows what the one there showed. -/
theorem segment? (shows : log.Shows storage again after more) (member : id ∈ log.ids) :
    ∃ segment other, log.segment? id = some segment ∧ again.segment? id = some other ∧
      segment.Shows storage after other := by
  obtain ⟨shown, split_eq, each⟩ := shows.segments
  rw [shows.formed.ids_eq] at member
  obtain ⟨named, among, rfl⟩ := List.mem_map.mp member
  simp only [shows.formed.segment?_eq, shows.formedAfter.segment?_eq]
  have isSome : (log.segments.find? fun segment => segment.id = named.id).isSome = true := by
    rw [List.find?_isSome]
    exact ⟨named, among, by simp⟩
  obtain ⟨segment, found⟩ := Option.isSome_iff_exists.mp isSome
  have there : segment ∈ log.segments := List.mem_of_find?_eq_some found
  have same : log.segments.find? ((fun segment => segment.id = named.id) ∘ shown) =
      log.segments.find? fun segment => segment.id = named.id :=
    List.find?_congr fun other inLog => by
      rw [Function.comp_apply, (each other inLog).id_eq]
  refine ⟨segment, shown segment, found, ?_, each segment there⟩
  rw [split_eq, List.find?_append, List.find?_map, same, found]
  rfl

theorem read_eq (shows : log.Shows storage again after more) (member : id ∈ log.ids)
    (offset : Nat) : again.read ⟨id, offset⟩ after = log.read ⟨id, offset⟩ storage := by
  obtain ⟨segment, other, found, foundAgain, shown⟩ := shows.segment? member
  simp only [read, withSegment, shows.closed_eq, found, foundAgain, Segment.read,
    shown.alike.read_eq]

theorem records_eq (shows : log.Shows storage again after more) (member : id ∈ log.ids) :
    again.records id after = log.records id storage := by
  obtain ⟨segment, other, found, foundAgain, shown⟩ := shows.segment? member
  simp only [records, withSegment, shows.closed_eq, found, foundAgain, shown.alike.records_eq]

theorem outline_eq (shows : log.Shows storage again after more) :
    again.outline =
      log.outline ++ more.map fun segment => (segment.id, segment.path, segment.size) := by
  obtain ⟨shown, split_eq, each⟩ := shows.segments
  rw [shows.formed.outline_eq_map, shows.formedAfter.outline_eq_map, split_eq, List.map_append,
    List.map_map]
  congr 1
  apply List.map_congr_left
  intro segment member
  have same := each segment member
  rw [Function.comp_apply, same.id_eq, same.path_eq, same.size_eq]

end Shows

theorem Whole.shows (whole : log.Whole storage) (formed : log.Formed) (isOpen : log.closed = false)
    (content_eq : ∀ segment ∈ log.segments,
      after.content segment.handle = storage.content segment.handle) :
    log.Shows storage log after [] :=
  ⟨formed, formed, rfl, rfl, id, by simp, fun segment member => (whole segment member).shows
    ((formed.closed_eq segment member).trans isOpen) (content_eq segment member)⟩

/-! ## What a failing write does -/

/-- What a write that failed leaves of a log: its counters have not risen, all
segments that there were have their sizes and read as before, and at the most
there is one more, empty and under the greatest id. -/
structure Spares (log : Log) (storage : Storage) (again : Log) (after : Storage) : Prop where
  config_eq : again.config = log.config
  closed_eq : again.closed = log.closed
  totalWrites_eq : again.stats.totalWrites = log.stats.totalWrites
  totalBytes_eq : again.stats.totalBytes = log.stats.totalBytes
  windowWrites_le : again.stats.windowWrites ≤ log.stats.windowWrites
  windowBytes_le : again.stats.windowBytes ≤ log.stats.windowBytes
  read_eq : ∀ id ∈ log.ids, ∀ offset,
    again.read ⟨id, offset⟩ after = log.read ⟨id, offset⟩ storage
  records_eq : ∀ id ∈ log.ids, again.records id after = log.records id storage
  outline_eq : again.outline = log.outline ∨
    again.outline = log.outline ++ [(log.nextId, log.config.segmentPath log.nextId, 0)] ∧
      (∀ id ∈ log.ids, id.number < log.nextId.number) ∧
        again.records log.nextId after = .ok []

/-- Counting a sync raises no counter of writes. -/
theorem writes_of_recordSync {before after : Stats}
    (counts : after = before ∨ after = before.recordSync) :
    after.totalWrites = before.totalWrites ∧ after.totalBytes = before.totalBytes ∧
      after.windowWrites ≤ before.windowWrites ∧ after.windowBytes ≤ before.windowBytes := by
  rcases counts with rfl | rfl
  · exact ⟨rfl, rfl, Nat.le_refl _, Nat.le_refl _⟩
  · exact ⟨rfl, rfl, Nat.zero_le _, Nat.zero_le _⟩

/-- A log whose active segment is poisoned. -/
def poison (log : Log) : Log := log.withActive { log.active with poisoned := true }

/-- An append to a usable segment that fails poisons the segment, and leaves what
the storage took of the frame. -/
theorem append_of_error (usable : log.active.isUsable = true) {payload : List UInt8}
    {cause : Failure} (failed : (log.append payload storage).1 = .error cause) :
    log.append payload storage = (.error cause, log.poison,
      (storage.write log.active.handle log.active.size
        (log.active.layout.frame log.active.size payload).bytes).2) := by
  simp only [append, Segment.append, Segment.usageFault_eq_none usable] at failed ⊢
  split at failed
  · rename_i outcome
    split at outcome
    · cases outcome
    · rename_i written
      cases outcome
      cases failed
      rw [written]
      rfl
  · split at failed <;> cases failed

/-- An append that fails leaves bytes behind the active segment's size, and no
other traces that a reader could find. -/
theorem Coherent.shows_append (coherent : log.Coherent storage) (apart : log.Apart storage)
    (whole : log.Whole storage) (isOpen : log.closed = false)
    (usable : log.active.isUsable = true) {payload : List UInt8} {cause : Failure}
    (failed : (log.append payload storage).1 = .error cause) :
    log.Shows storage log.poison (log.append payload storage).2.2 [] := by
  have formed := coherent.formed
  obtain ⟨sealed, active⟩ := formed.whole_iff.mp whole
  have openActive : log.active.closed = false :=
    (formed.closed_eq log.active (formed.mem_segments.mpr (.inr rfl))).trans isOpen
  obtain ⟨node, _, refers, inRange⟩ := coherent.active.stands
  have rewrites := Storage.rewrites_write refers inRange log.active.size
    (log.active.layout.frame log.active.size payload).bytes
  rw [append_of_error usable failed]
  generalize (storage.write log.active.handle log.active.size
    (log.active.layout.frame log.active.size payload).bytes).2 = after at rewrites
  refine .of_active formed (formed.withActive rfl rfl) ?_
    (active.shows_overwrite openActive refers rewrites)
  intro segment member
  obtain ⟨other, _, refersOther, _⟩ := (coherent.sealed member).stands
  have ne : other ≠ node := by
    rintro rfl
    exact apart segment member (refersOther.trans refers.symm)
  apply (sealed segment member).shows
    ((formed.closed_eq segment (formed.mem_segments.mpr (.inl member))).trans isOpen)
  rw [Storage.content_eq_nodeBytes (rewrites.nodeOf?_eq refersOther),
    Storage.content_eq_nodeBytes refersOther, rewrites.others_eq other ne]

/-- Creating a file changes no byte of the segments that there are. -/
theorem Coherent.content_eq_of_creates (coherent : log.Coherent storage) {handle : Handle}
    (creates : storage.Creates after handle) {segment : Segment} (member : segment ∈ log.segments) :
    after.content segment.handle = storage.content segment.handle := by
  obtain ⟨node, _, refers, inRange⟩ := (coherent.seated segment member).stands
  rw [Storage.content_eq_nodeBytes (creates.nodeOf?_eq refers),
    Storage.content_eq_nodeBytes refers, creates.bytes_eq node inRange]

/-- Beginning another segment changes no byte of those that there are. -/
theorem Coherent.shows_sealing (coherent : log.Coherent storage) (whole : log.Whole storage)
    (isOpen : log.closed = false) {handle : Handle} {created : Storage}
    (creates : Segment.create (log.config.segmentPath log.nextId) log.nextId log.layout storage =
      (.ok (log.begun handle), created)) (synced : Bool) :
    log.Shows storage (log.sealing synced (log.begun handle)) (log.active.sync created).2
      [log.begun handle] := by
  obtain ⟨_, made, _⟩ := Segment.create_eq_ok creates
  obtain ⟨_, adds⟩ := Storage.findFile_createFile made
  have content_eq : ∀ segment ∈ log.segments,
      (log.active.sync created).2.content segment.handle = storage.content segment.handle := by
    intro segment member
    obtain ⟨node, _, refers, _⟩ := (coherent.seated segment member).stands
    rw [(log.active.keeps_sync created).content_eq (adds.nodeOf?_eq refers),
      coherent.content_eq_of_creates adds member]
  have segments_eq : (log.sealing synced (log.begun handle)).segments =
      log.segments.map id ++ [log.begun handle] := by
    rw [segments_sealing, ← coherent.formed.segments_eq, List.map_id]
  refine ⟨coherent.formed, coherent.formed.sealing synced rfl isOpen.symm, ?_, ?_, id, segments_eq,
    fun segment member => (whole segment member).shows
      ((coherent.formed.closed_eq segment member).trans isOpen) (content_eq segment member)⟩ <;>
    cases synced <;> rfl

/-- The segments that a failing write adds: none, or an empty one under the next
id. -/
def Begins (log : Log) (more : List Segment) : Prop :=
  more = [] ∨ ∃ fresh, more = [fresh] ∧ fresh.id = log.nextId ∧
    fresh.path = log.config.segmentPath log.nextId ∧ fresh.size = 0

/-- A payload is too large for the log, or needs a new segment whose file cannot be
created. -/
def Unable (log : Log) (payload : List UInt8) (storage : Storage) : Prop :=
  log.config.maxPayloadSize < payload.length ∨
    log.needsRotation payload = true ∧
      ∃ cause, (storage.createFile (log.config.segmentPath log.nextId)).1 = .error cause

/-- A payload needs a new segment whose file can be created, and the handle of that
file cannot be duplicated. -/
def Thwarted (log : Log) (payload : List UInt8) (storage : Storage) : Prop :=
  payload.length ≤ log.config.maxPayloadSize ∧ log.needsRotation payload = true ∧
    ∃ handle created,
      storage.createFile (log.config.segmentPath log.nextId) = (.ok handle, created) ∧
        created.duplicationFault handle ≠ none

/-- A file was created for the next segment. It has no bytes, and all other files are
as they were. -/
structure Strands (log : Log) (storage after : Storage) : Prop where
  creates : ∃ handle, storage.Creates after handle
  retains : storage.Retains after
  found : after.findFile (log.config.segmentPath log.nextId) = .ok storage.nodes.size

/-- A write whose payload is too large, or whose new file cannot be created, leaves the
log and the storage as they were. -/
theorem write_of_unable (formed : log.Formed) {payload : List UInt8}
    (unable : log.Unable payload storage) : (log.write payload storage).2 = (log, storage) := by
  rw [formed.write_eq]
  split
  · rfl
  split
  · rfl
  rename_i small _
  obtain ⟨full, cause, failed⟩ := unable.resolve_left small
  rcases storage.createFile_cases (log.config.segmentPath log.nextId) with
    ⟨other, uncreated⟩ | ⟨_, _, _, _, _, created⟩
  · have rotated : log.rotate storage = (.error (.storage other), log, storage) := by
      simp only [formed.rotate_eq, Segment.create, uncreated]
    rw [if_pos full, rotated]
  · rw [created] at failed
    cases failed

/-- A write whose new file cannot be taken over leaves the log as it was, and that
file stranded. -/
theorem write_of_thwarted (formed : log.Formed) (isOpen : log.closed = false)
    {payload : List UInt8} (thwarted : log.Thwarted payload storage) :
    (log.write payload storage).2.1 = log ∧ log.Strands storage (log.write payload storage).2.2 := by
  obtain ⟨small, full, handle, created, made, fault⟩ := thwarted
  obtain ⟨found, creates⟩ := Storage.findFile_createFile made
  have retains := storage.retains_createFile (log.config.segmentPath log.nextId)
  have keeps := created.keeps_release handle
  rw [made] at retains
  obtain ⟨cause, refused⟩ := Segment.attach_of_fault fault (log.config.segmentPath log.nextId)
    log.nextId log.layout 0
  have rotated : log.rotate storage = (.error (.storage cause), log, created.release handle) := by
    simp only [formed.rotate_eq, Segment.create, made, refused]
  rw [formed.write_eq, if_neg (Nat.not_lt.mpr small), if_neg (by simp [isOpen]), if_pos full,
    rotated]
  exact ⟨rfl, ⟨handle, creates.release⟩, retains.trans keeps.retains,
    keeps.retains.findFile_eq found⟩

/-- A write that fails does to the storage what no reader sees. It counts nothing
but the sync of the segment that it sealed, if it sealed one. -/
theorem Coherent.write_of_error (coherent : log.Coherent storage) (apart : log.Apart storage)
    (whole : log.Whole storage) (isOpen : log.closed = false) {payload : List UInt8}
    {cause : Failure} (failed : (log.write payload storage).1 = .error cause) :
    ((log.write payload storage).2.1.stats = log.stats ∨
        (log.write payload storage).2.1.stats = log.stats.recordSync) ∧
      ∃ more, log.Begins more ∧
        log.Shows storage (log.write payload storage).2.1 (log.write payload storage).2.2 more := by
  generalize outcome : log.write payload storage = result at failed ⊢
  have formed := coherent.formed
  have way := writes (fun _ => formed) payload storage
  rw [outcome] at way
  cases way with
  | refused => exact ⟨.inl rfl, [], .inl rfl, whole.shows formed isOpen fun _ _ => rfl⟩
  | strands _ _ _ _ creates =>
      exact ⟨.inl rfl, [], .inl rfl,
        whole.shows formed isOpen fun _ member => coherent.content_eq_of_creates creates member⟩
  | stays _ _ fits =>
      have usable : log.active.isUsable = true := by
        simp only [needsRotation, Bool.or_eq_false_iff, Bool.not_eq_false'] at fits
        exact fits.1
      have shows := coherent.shows_append apart whole isOpen usable failed
      have done := append_of_error usable failed
      rw [done] at shows ⊢
      exact ⟨.inl rfl, [], .inl rfl, shows⟩
  | @rotates handle created _ _ _ creates rotated =>
      obtain ⟨usable, evolves⟩ := coherent.rotated isOpen rotated
      have first := coherent.shows_sealing whole isOpen creates (log.active.sync created).1
      have second := evolves.coherent.shows_append (evolves.apart apart)
        (whole.sealing formed (lengthens_of_create creates) _ _) (first.closed_eq.trans isOpen)
        usable failed
      obtain ⟨shown, shows, freshShows⟩ := first.trans second
      have fresh := freshShows _ (List.mem_singleton_self _)
      have done := append_of_error usable failed
      rw [done] at shows ⊢
      refine ⟨?_, _, .inr ⟨_, rfl, fresh.id_eq, fresh.path_eq, fresh.size_eq⟩, shows⟩
      cases (log.active.sync created).1 with
      | true => exact .inr rfl
      | false => exact .inl rfl

/-- A segment above all others is found under its id. -/
theorem Shows.segment?_above {fresh : Segment} (shows : log.Shows storage again after [fresh])
    (above : ∀ id ∈ log.ids, id.number < fresh.id.number) :
    again.segment? fresh.id = some fresh := by
  obtain ⟨shown, split_eq, each⟩ := shows.segments
  have absent : (log.segments.map shown).find? (fun segment => segment.id = fresh.id) = none := by
    rw [List.find?_eq_none]
    intro other member same
    obtain ⟨segment, inLog, rfl⟩ := List.mem_map.mp member
    rw [decide_eq_true_eq, (each segment inLog).id_eq] at same
    have := above segment.id (by rw [shows.formed.ids_eq]; exact List.mem_map_of_mem inLog)
    rw [same] at this
    exact Nat.lt_irrefl _ this
  rw [shows.formedAfter.segment?_eq, split_eq, List.find?_append, absent, Option.none_or]
  simp

/-- What shows the same and counts no more spares the log. -/
theorem Shows.spares (shows : log.Shows storage again after more) (isOpen : log.closed = false)
    (stats : again.stats = log.stats ∨ again.stats = log.stats.recordSync)
    (begins : log.Begins more) : log.Spares storage again after := by
  obtain ⟨totalWrites_eq, totalBytes_eq, windowWrites_le, windowBytes_le⟩ :=
    writes_of_recordSync stats
  refine ⟨shows.config_eq, shows.closed_eq, totalWrites_eq, totalBytes_eq, windowWrites_le,
    windowBytes_le, fun _ member offset => shows.read_eq member offset,
    fun _ member => shows.records_eq member, ?_⟩
  rcases begins with rfl | ⟨fresh, rfl, id_eq, path_eq, size_eq⟩
  · left
    rw [shows.outline_eq, List.map_nil, List.append_nil]
  have below : ∀ id ∈ log.ids, id.number < log.nextId.number := by
    rw [shows.formed.nextId_eq]
    exact fun id member => Nat.lt_succ_of_le (shows.formed.number_le member)
  refine .inr ⟨?_, below, ?_⟩
  · rw [shows.outline_eq, List.map_singleton, id_eq, path_eq, size_eq]
  · have found := shows.segment?_above (by rwa [id_eq])
    rw [id_eq] at found
    have empty : (fresh.image after).recordsFrom 0 = ([], none) :=
      Image.recordsFrom_of_size_le (by rw [Segment.image, size_eq]; exact Nat.zero_le _)
    simp only [records, withSegment, shows.closed_eq, isOpen, Bool.false_eq_true, if_false, found,
      Image.records, empty]

end Log

/-! ## Histories -/

namespace World

/-- Every write to an open log that fails spares the log, and acknowledges nothing,
as long as there is an id for the next segment. If the payload was too large, or a
new segment was needed and its file could not be created, nothing has changed at all.
If the file was created and its handle could not be duplicated, that file is left,
without bytes, and nothing else has changed. -/
def SparesFailed (world : World) : Prop :=
  ∀ log ∈ world.log, log.closed = false → log.nextId.number < SegmentId.bound →
    ∀ (faults : Faults) (payload : List UInt8) cause,
      (log.write payload (world.storage.suffer faults)).1 = .error cause →
        ∃ again ∈ (world.step (faults, .write payload)).log,
          log.Spares world.storage again (world.step (faults, .write payload)).storage ∧
            (world.step (faults, .write payload)).acknowledged = world.acknowledged ∧
              (log.Unable payload (world.storage.suffer faults) → again = log ∧
                (world.step (faults, .write payload)).storage = world.storage.suffer faults) ∧
              (log.Thwarted payload (world.storage.suffer faults) → again = log ∧
                log.Strands (world.storage.suffer faults)
                  (world.step (faults, .write payload)).storage)

theorem InOrder.sparesFailed {world : World} (order : world.InOrder) : world.SparesFailed := by
  intro log found isOpen _ faults payload cause failed
  have coherent := order.coherent log found
  have whole := order.whole log found
  have suffering := order.suffer faults
  have keeps := world.storage.keeps_suffer faults
  have first : log.Shows world.storage log (world.storage.suffer faults) [] :=
    whole.shows coherent.formed isOpen fun segment member => by
      obtain ⟨node, _, refers, _⟩ := (coherent.seated segment member).stands
      exact keeps.content_eq refers
  obtain ⟨stats, more, begins, second⟩ :=
    (suffering.coherent log found).write_of_error (suffering.apart log found)
      (suffering.whole log found) isOpen failed
  obtain ⟨_, shows, _⟩ := first.trans second
  rw [List.map_nil, List.nil_append] at shows
  have step_eq := write_eq { world with storage := world.storage.suffer faults } found payload
  rw [World.step, perform, step_eq, failed]
  exact ⟨_, rfl, shows.spares isOpen stats begins, rfl,
    fun unable => Prod.ext_iff.mp (Log.write_of_unable coherent.formed unable),
    Log.write_of_thwarted coherent.formed isOpen⟩

/-- A log with a record, and the next record needs another segment. -/
def filled : List (Faults × Operation) :=
  [(.none, .openLog narrowSettings), (.none, .write (List.replicate 30 1))]

end World

end RecordLog
