import RecordLog.Proofs.Coherence

/-!
# Requests to a log

Whatever is asked of a log once it could be opened, and whatever the storage
refuses meanwhile, the log stays in order: it has segments, each under its own id
and on the file that this id names; the next id is the one after the greatest; no
segment is lost, and all files but that of the active segment keep their bytes;
all segments are open with their handles held, or all are closed without any. So no
request is ever answered with the failure of something in no state to be used: that
of a log without segments, of a segment without a file, or of one that was poisoned.
A write to an open log fails for the size of its payload or for the storage alone.

Ids have 64 bits. What is said holds as long as they have not run out.
-/

namespace RecordLog

/-! ## Failures of reading -/

/-- Whether a failure is that of something in no state to be used. -/
def Failure.isInvalid : Failure → Bool
  | invalid _ => true
  | _ => false

theorem Failure.isInvalid_of_isDamage {cause : Failure} (damage : cause.isDamage = true) :
    cause.isInvalid = false := by
  cases cause with
  | corrupt => rfl
  | truncated => rfl
  | _ => cases damage

/-- An answer that does not fail for something in no state to be used. -/
def Sensible (answer : Except Failure α) : Prop :=
  ∀ cause, answer = .error cause → cause.isInvalid = false

theorem Sensible.ok (value : α) : Sensible (.ok value) := by
  rintro _ ⟨⟩

theorem Sensible.error {cause : Failure} (valid : cause.isInvalid = false) :
    Sensible (.error cause : Except Failure α) := by
  rintro _ ⟨⟩
  exact valid

theorem Sensible.map {answer : Except Failure α} (sensible : Sensible answer) (f : α → β) :
    Sensible (answer.map f) := by
  cases answer with
  | ok value => exact .ok (f value)
  | error cause => exact .error (sensible cause rfl)

namespace Image

variable (image : Image) (lacks : image.shortage.isInvalid = false)

include lacks

theorem sensible_chunkAt (offset : Nat) : Sensible (image.chunkAt offset) := by
  unfold chunkAt
  split
  · exact .error rfl
  split
  · exact .error lacks
  simp only
  split
  · exact .error rfl
  split
  · exact .error rfl
  split
  · exact .error lacks
  · exact fun _ failed => Failure.isInvalid_of_isDamage (Chunk.isDamage_of_decode failed)

theorem sensible_readChunks (isFirst : Bool) (offset : Nat) :
    Sensible (image.readChunks isFirst offset) := by
  fun_induction readChunks image isFirst offset with
  | case1 _ _ _ cause failed => exact .error (image.sensible_chunkAt lacks _ cause failed)
  | case2 => exact .error rfl
  | case3 => exact .error rfl
  | case4 => exact .ok _
  | case5 _ _ _ _ _ _ _ _ cause failed ih => exact .error (ih cause failed)
  | case6 => exact .ok _

theorem sensible_read (offset : Nat) : Sensible (image.read offset) := by
  unfold read
  split
  · exact .error rfl
  split
  · exact .error rfl
  · exact image.sensible_readChunks lacks true offset

theorem sensible_next (position : Nat) : Sensible (image.next position) := by
  unfold next
  simp only
  split
  · exact .ok _
  split
  · rename_i cause failed
    exact .error (image.sensible_read lacks _ cause failed)
  · exact .ok _

theorem sensible_recordsFrom (position : Nat) :
    ∀ cause ∈ (image.recordsFrom position).2, cause.isInvalid = false := by
  fun_induction recordsFrom image position with
  | case1 position cause failed =>
      rintro _ ⟨⟩
      exact image.sensible_next lacks position cause failed
  | case2 => simp
  | case3 _ _ _ _ _ _ same ih =>
      rw [same] at ih
      exact ih

theorem sensible_records : Sensible image.records := by
  have sensible := image.sensible_recordsFrom lacks 0
  unfold records
  split
  · exact .ok _
  · rename_i outcome
    rw [outcome] at sensible
    exact .error (sensible _ rfl)

end Image

/-! ## Failures of opening -/

section Opening

variable (config : Config) (layout : Layout) (ids : List SegmentId) (storage : Storage)

theorem Segment.sensible_attach (path : Path) (id : SegmentId) (handle : Handle) (size : Nat) :
    Sensible (Segment.attach path id layout handle size storage).1 := by
  rcases Segment.attach_eq path id layout handle size storage with ⟨cause, refused, _⟩ | attached
  · rw [refused]
    exact .error rfl
  · rw [attached]
    exact .ok _

theorem Segment.sensible_create (path : Path) (id : SegmentId) :
    Sensible (Segment.create path id layout storage).1 := by
  unfold create
  split
  · exact .error rfl
  · exact sensible_attach layout _ path id _ _

theorem Segment.sensible_openExisting (path : Path) (id : SegmentId) :
    Sensible (Segment.openExisting path id layout storage).1 := by
  unfold openExisting
  split
  · exact .error rfl
  · exact sensible_attach layout _ path id _ _

/-- A segment that was just opened is recovered, unless the storage refuses to
cut its file. -/
theorem Segment.sensible_recover {file : LogFile} {segment : Segment}
    (opens : Opens layout storage file segment) : Sensible (segment.recover storage).1 := by
  have usable : segment.isUsable = true := by
    simp [Segment.isUsable_eq, opens.isOpen, opens.poisoned_eq]
  have complete : (storage.content segment.handle).size = segment.size := by
    rw [Storage.content_eq_nodeBytes opens.nodeOf?_eq, opens.size_eq]
  obtain ⟨last, regions, ending, way, ends⟩ := Image.exists_passes
    (Image.whole_ofBytes segment.layout (storage.content segment.handle).toList) rfl 0
  rw [Segment.recover_eq usable complete way ends]
  split
  · split
    · exact .error rfl
    · exact .ok _
  · exact .ok _

theorem Segment.sensible_openAll : Sensible (Segment.openAll config layout ids storage).1 := by
  induction ids generalizing storage with
  | nil => exact .ok []
  | cons id rest ih =>
      have first := sensible_openExisting layout storage (config.segmentPath id) id
      rw [openAll]
      split
      · rename_i outcome
        rw [outcome] at first
        exact .error (first _ rfl)
      · rename_i segment middle _
        have later := ih middle
        split
        · rename_i outcome
          rw [outcome] at later
          exact .error (later _ rfl)
        · exact .ok _

theorem Log.sensible_begin : Sensible (Log.begin config layout storage).1 := by
  have created := Segment.sensible_create layout storage (config.segmentPath .first) .first
  unfold Log.begin
  split
  · rename_i outcome
    rw [outcome] at created
    exact .error (created _ rfl)
  · exact .ok _

theorem Log.sensible_openFound
    (ascending : ids.eraseDups.Pairwise fun first second => first.number < second.number) :
    Sensible (Log.openFound config layout ids storage).1 := by
  obtain ⟨answer, middle, opened, _, opens⟩ :=
    Segment.openAll_eq config layout ids.eraseDups storage
  have sensible := Segment.sensible_openAll config layout ids.eraseDups storage
  rw [Log.openFound_eq ascending]
  rw [opened] at sensible ⊢
  cases answer with
  | error cause => exact .error (sensible cause rfl)
  | ok segments =>
      simp only
      split
      · exact sensible_begin config layout middle
      · rename_i active last
        obtain ⟨index, inRange, rfl⟩ := List.getElem_of_mem (List.mem_of_getLast? last)
        have related := opens segments rfl
        obtain ⟨node, _, opensActive⟩ := related.get (related.length_eq ▸ inRange) inRange
        have recovered := Segment.sensible_recover layout middle opensActive
        rw [List.get_eq_getElem] at recovered
        unfold Log.resume
        split
        · rename_i outcome
          rw [outcome] at recovered
          exact .error (recovered _ rfl)
        · exact .ok _

theorem Log.sensible_openDirectory : Sensible (Log.openDirectory config storage).1 := by
  unfold Log.openDirectory
  split
  · rename_i cause refused
    unfold Config.validate at refused
    split at refused
    · cases refused
      exact .error rfl
    · cases refused
  split
  · rename_i cause refused
    unfold Layout.ofBlockSize at refused
    split at refused
    · cases refused
    · cases refused
      exact .error rfl
  split
  · exact .error rfl
  split
  · rename_i cause failed
    unfold Config.discover at failed
    split at failed
    · cases failed
      exact .error rfl
    · cases failed
  · rename_i discovered
    exact sensible_openFound config _ _ _ (Config.ascending_of_discover discovered)

end Opening

/-! ## Requests -/

/-- Something asked of a log. -/
inductive Request where
  | write (payload : List UInt8)
  | read (position : Position)
  | records (id : SegmentId)
  | segmentBytes (id : SegmentId)
  | sync
  | close

/-- What a request is answered with. -/
inductive Answer where
  | position (position : Position)
  | payload (payload : List UInt8)
  | records (records : List Record)
  | bytes (bytes : Content)
  | done

/-- Do what is asked of a log. -/
def Log.serve (log : Log) (request : Request) (storage : Storage) :
    Except Failure Answer × Log × Storage :=
  match request with
  | .write payload =>
      let (answer, log, storage) := log.write payload storage
      (answer.map .position, log, storage)
  | .read position => ((log.read position storage).map .payload, log, storage)
  | .records id => ((log.records id storage).map .records, log, storage)
  | .segmentBytes id => ((log.segmentBytes id storage).map .bytes, log, storage)
  | .sync =>
      let (answer, log, storage) := log.sync storage
      (answer.map fun _ => .done, log, storage)
  | .close =>
      let (answer, log, storage) := log.close storage
      (answer.map fun _ => .done, log, storage)

/-- A log in service, and its storage. -/
structure Service where
  log : Log
  storage : Storage

namespace Service

variable {service : Service} {event : Faults × Request}

/-- What a request is answered with under faults. -/
def answer (service : Service) (event : Faults × Request) : Except Failure Answer :=
  (service.log.serve event.2 (service.storage.suffer event.1)).1

/-- What a request under faults leaves. -/
def step (service : Service) (event : Faults × Request) : Service :=
  { log := (service.log.serve event.2 (service.storage.suffer event.1)).2.1
    storage := (service.log.serve event.2 (service.storage.suffer event.1)).2.2 }

/-- A log that was just opened. -/
def start (config : Config) (storage : Storage) : Option Service :=
  match Log.openDirectory config storage with
  | (.error _, _) => none
  | (.ok log, storage) => some ⟨log, storage⟩

/-- What several requests leave. -/
def run (service : Service) (events : List (Faults × Request)) : Service :=
  events.foldl step service

/-- The id that comes next is one of 64 bits. -/
def InRange (service : Service) : Prop := service.log.nextId.number < SegmentId.bound

instance (service : Service) : Decidable service.InRange :=
  inferInstanceAs (Decidable (service.log.nextId.number < SegmentId.bound))

/-- The name of an id leads to the file that the active segment is on. -/
def SharesActive (service : Service) (id : SegmentId) : Prop :=
  ∃ node, service.storage.findFile (service.log.config.segmentPath id) = .ok node ∧
    service.storage.nodeOf? service.log.active.handle = some node

/-- The order that a log is in between requests. -/
structure Regular (service : Service) : Prop where
  nonempty : service.log.table ≠ []
  /-- Every segment stands under its own id, and its path is the file of that id. -/
  named : ∀ entry ∈ service.log.table, entry.2.id = entry.1 ∧
    entry.2.path = service.log.config.segmentPath entry.1 ∧
      ∃ node, service.storage.findFile entry.2.path = .ok node ∧
        service.storage.nodeOf? entry.2.handle = some node
  ascending : service.log.ids.Pairwise fun first second => first.number < second.number
  /-- The next id is the one after the greatest, and no number was too large. -/
  nextId_eq : ∃ id ∈ service.log.ids, service.log.nextId = id.next ∧
    id.next.number < SegmentId.bound ∧ ∀ other ∈ service.log.ids, other.number ≤ id.number
  /-- The log is open and all segments are, with both handles held, or it is closed
  and all are, with none. -/
  uniform :
    (service.log.closed = false ∧ ∀ segment ∈ service.log.segments,
      segment.closed = false ∧ segment.hasFile = true ∧ segment.hasDuplicate = true) ∨
    (service.log.closed = true ∧ ∀ segment ∈ service.log.segments,
      segment.closed = true ∧ segment.hasFile = false ∧ segment.hasDuplicate = false)

/-- What a request does to a log in order. -/
structure Complies (service : Service) (event : Faults × Request) : Prop where
  /-- No segment is lost. -/
  ids_prefix : service.log.ids <+: (service.step event).log.ids
  /-- All files but that of the active segment keep their bytes. -/
  bytes_eq : ∀ id ∈ service.log.ids, ¬ (service.step event).SharesActive id →
    (service.step event).log.segmentBytes id (service.step event).storage =
      service.log.segmentBytes id service.storage
  sensible : Sensible (service.answer event)
  /-- A write to an open log fails for the size of the payload or the storage. -/
  writes : ∀ payload, event.2 = .write payload → service.log.closed = false →
    ∀ cause, service.answer event = .error cause → service.log.WriteFault payload cause

/-- What any number of requests leave: all segments are there, and the files that
the active segment was not on have the same bytes. -/
structure Endures (before after : Service) : Prop where
  ids_prefix : before.log.ids <+: after.log.ids
  bytes_eq : ∀ id ∈ before.log.ids, ¬ before.SharesActive id →
    after.log.segmentBytes id after.storage = before.log.segmentBytes id before.storage

end Service

/-! ## One request -/

namespace Log

variable {log again : Log} {storage after : Storage} {id : SegmentId}

theorem Coherent.segmentBytes_eq (coherent : log.Coherent storage) (member : id ∈ log.ids) :
    ∃ node < storage.nodes.size, storage.findFile (log.config.segmentPath id) = .ok node ∧
      log.segmentBytes id storage = .ok (storage.nodeBytes node) := by
  obtain ⟨segment, node, found, among, _, path_eq, named, _⟩ := coherent.findFile_eq member
  obtain ⟨other, namedOther, _, inRange⟩ := (coherent.seated segment among).stands
  rw [named] at namedOther
  cases namedOther
  refine ⟨node, inRange, path_eq ▸ named, ?_⟩
  simp only [segmentBytes, found, Storage.fileBytes, named]

/-- The bytes of a file are kept unless the active segment is on it afterwards. -/
theorem Evolves.segmentBytes_eq (evolves : log.Evolves storage again after)
    (coherent : log.Coherent storage) (member : id ∈ log.ids)
    (other : ∀ node, storage.findFile (log.config.segmentPath id) = .ok node →
      after.nodeOf? again.active.handle ≠ some node) :
    again.segmentBytes id after = log.segmentBytes id storage := by
  obtain ⟨node, inRange, named, bytes_eq⟩ := coherent.segmentBytes_eq member
  obtain ⟨same, _, namedAfter, bytesAfter_eq⟩ :=
    evolves.coherent.segmentBytes_eq (evolves.ids_prefix.subset member)
  rw [evolves.config_eq, evolves.retains.findFile_eq named] at namedAfter
  cases namedAfter
  rw [bytes_eq, bytesAfter_eq, evolves.bytes_eq node inRange (other node named)]

/-- The log does not come back to the file of a segment that it is not on. -/
theorem Evolves.ne_active (evolves : log.Evolves storage again after)
    (coherent : log.Coherent storage) {node : Nat} (inRange : node < storage.nodes.size)
    (other : storage.nodeOf? log.active.handle ≠ some node) :
    after.nodeOf? again.active.handle ≠ some node := by
  intro refers
  rcases evolves.stays_or with stays | ⟨fresh, refersFresh, beyond⟩
  · obtain ⟨own, _, refersOwn, _⟩ := coherent.active.stands
    rw [stays, evolves.retains.nodeOf?_eq refersOwn] at refers
    exact other (refersOwn.trans refers)
  · rw [refersFresh] at refers
    exact Nat.not_le.mpr inRange (Option.some.inj refers ▸ beyond)

/-- Whatever is asked of a coherent log, it evolves. -/
theorem Coherent.serve (coherent : log.Coherent storage) (request : Request) :
    log.Evolves storage (log.serve request storage).2.1 (log.serve request storage).2.2 := by
  cases request with
  | write payload => exact (coherent.write payload).1
  | read position => exact .refl coherent
  | records id => exact .refl coherent
  | segmentBytes id => exact .refl coherent
  | sync => exact coherent.evolves_sync
  | close => exact coherent.evolves_close

/-- The segments of an open log are read from their files. -/
theorem Formed.sensible_withSegment (formed : log.Formed)
    {look : Segment → Except Failure α}
    (sensible : ∀ segment, segment.closed = false → Sensible (look segment)) :
    Sensible (log.withSegment id look) := by
  unfold withSegment
  split
  · exact .error rfl
  rename_i isOpen
  split
  · exact .error rfl
  · rename_i segment found
    rw [formed.segment?_eq] at found
    refine sensible segment ?_
    rw [formed.closed_eq segment (List.mem_of_find?_eq_some found)]
    exact eq_false_of_ne_true isOpen

theorem sensible_segmentBytes (log : Log) (id : SegmentId) (storage : Storage) :
    Sensible (log.segmentBytes id storage) := by
  unfold segmentBytes
  split
  · exact .error rfl
  split
  · exact .error rfl
  · exact .ok _

theorem Formed.sensible_sync (formed : log.Formed) (storage : Storage) :
    Sensible (log.sync storage).1 := by
  rw [formed.sync_eq]
  split
  · exact .error rfl
  split
  · exact .ok _
  · exact .error rfl

theorem sensible_close (log : Log) (storage : Storage) : Sensible (log.close storage).1 := by
  rw [log.close_eq]
  split
  · exact .ok _
  · cases (Table.closeAll log.table storage).1 with
    | none => exact .ok _
    | some id => exact .error rfl

theorem Coherent.sensible_write (coherent : log.Coherent storage) (payload : List UInt8) :
    Sensible (log.write payload storage).1 := by
  intro cause failed
  rcases (coherent.write payload).2 cause failed with (rfl | ⟨fault, rfl⟩) | ⟨_, rfl⟩
  · rfl
  · rfl
  · rfl

theorem Coherent.sensible_serve (coherent : log.Coherent storage) (request : Request) :
    Sensible (log.serve request storage).1 := by
  have lacks {segment : Segment} (isOpen : segment.closed = false) :
      (segment.image storage).shortage.isInvalid = false := by
    rw [Segment.image_eq isOpen]
    rfl
  cases request with
  | write payload => exact (coherent.sensible_write payload).map _
  | read position =>
      refine (coherent.formed.sensible_withSegment fun segment isOpen => ?_).map _
      have sensible := (segment.image storage).sensible_read (lacks isOpen) position.offset
      unfold Segment.read
      split
      · rename_i cause failed
        exact .error (sensible cause failed)
      · exact .ok _
  | records id =>
      exact (coherent.formed.sensible_withSegment fun segment isOpen =>
        (segment.image storage).sensible_records (lacks isOpen)).map _
  | segmentBytes id => exact (log.sensible_segmentBytes id storage).map _
  | sync => exact (coherent.formed.sensible_sync storage).map _
  | close => exact (log.sensible_close storage).map _

end Log

namespace Service

variable {service : Service} {event : Faults × Request} {config : Config} {storage : Storage}

/-- A coherent log is in order while its next id has 64 bits. -/
theorem regular_of_coherent (coherent : service.log.Coherent service.storage)
    (inRange : service.InRange) : service.Regular where
  nonempty := coherent.formed.nonempty
  named entry member := by
    have keyed := coherent.formed.keyed entry member
    have seated := coherent.seated entry.2 (List.mem_map_of_mem member)
    obtain ⟨node, named, refers, _⟩ := seated.stands
    exact ⟨keyed, keyed ▸ seated.path_eq, node, named, refers⟩
  ascending := coherent.formed.ascending
  nextId_eq := by
    have formed := coherent.formed
    refine ⟨service.log.active.id, ?_, formed.nextId_eq, formed.nextId_eq ▸ inRange, ?_⟩
    · rw [formed.ids_eq]
      exact List.mem_map_of_mem (formed.mem_segments.mpr (.inr rfl))
    · exact fun other member => formed.number_le member
  uniform := by
    have closed_eq := coherent.formed.closed_eq
    cases open_or : service.log.closed with
    | false =>
        refine .inl ⟨rfl, fun segment member => ?_⟩
        have isOpen := (closed_eq segment member).trans open_or
        exact ⟨isOpen, by rw [segment.hasFile_eq, isOpen]; rfl,
          by rw [segment.hasDuplicate_eq, isOpen]; rfl⟩
    | true =>
        refine .inr ⟨rfl, fun segment member => ?_⟩
        have closed := (closed_eq segment member).trans open_or
        exact ⟨closed, by rw [segment.hasFile_eq, closed]; rfl,
          by rw [segment.hasDuplicate_eq, closed]; rfl⟩

/-- The log evolves with every request, the faults of which change nothing by
themselves. -/
theorem evolves_step (coherent : service.log.Coherent service.storage)
    (event : Faults × Request) :
    service.log.Evolves service.storage (service.step event).log (service.step event).storage := by
  have keeps := service.storage.keeps_suffer event.1
  have suffering := coherent.retains keeps.retains
  have evolves := suffering.serve event.2
  refine ⟨evolves.coherent, evolves.config_eq, evolves.ids_prefix,
    keeps.retains.trans evolves.retains, ?_, ?_, ?_⟩
  · rw [← keeps.size_eq]
    exact evolves.stays_or
  · intro node inRange other
    rw [← keeps.size_eq] at inRange
    exact (evolves.bytes_eq node inRange other).trans (keeps.bytes_eq node)
  · exact fun apart => evolves.apart (apart.retains coherent keeps.retains)

theorem complies_of_coherent (coherent : service.log.Coherent service.storage)
    (event : Faults × Request) : service.Complies event := by
  have evolves := evolves_step coherent event
  have suffering := coherent.retains (service.storage.keeps_suffer event.1).retains
  refine ⟨evolves.ids_prefix, ?_, suffering.sensible_serve event.2, ?_⟩
  · intro id member other
    refine evolves.segmentBytes_eq coherent member fun node named refers => other ?_
    exact ⟨node, by rw [evolves.config_eq, evolves.retains.findFile_eq named], refers⟩
  intro payload write_eq isOpen cause failed
  obtain ⟨faults, request⟩ := event
  cases write_eq
  have refused := (suffering.write payload).2
  change Except.map _ (service.log.write payload (service.storage.suffer faults)).1 = _ at failed
  cases outcome : (service.log.write payload (service.storage.suffer faults)).1 with
  | ok position =>
      rw [outcome] at failed
      cases failed
  | error other =>
      rw [outcome] at failed
      cases failed
      rcases refused cause outcome with fault | ⟨closed, _⟩
      · exact fault
      · rw [isOpen] at closed
        cases closed

/-! ## Any number of requests -/

theorem coherent_run (coherent : service.log.Coherent service.storage)
    (events : List (Faults × Request)) :
    (service.run events).log.Coherent (service.run events).storage ∧
      (service.log.Apart service.storage →
        (service.run events).log.Apart (service.run events).storage) := by
  induction events generalizing service with
  | nil => exact ⟨coherent, id⟩
  | cons event rest ih =>
      have evolves := evolves_step coherent event
      obtain ⟨coherentAfter, apart⟩ := ih evolves.coherent
      exact ⟨coherentAfter, apart ∘ evolves.apart⟩

theorem endures_run (coherent : service.log.Coherent service.storage)
    (events : List (Faults × Request)) : service.Endures (service.run events) := by
  induction events generalizing service with
  | nil => exact ⟨List.prefix_refl _, fun _ _ _ => rfl⟩
  | cons event rest ih =>
      have evolves := evolves_step coherent event
      have onward := ih evolves.coherent
      refine ⟨evolves.ids_prefix.trans onward.ids_prefix, ?_⟩
      intro id member other
      obtain ⟨node, inRange, named, _⟩ := coherent.segmentBytes_eq member
      have sealed : (service.step event).storage.nodeOf?
          (service.step event).log.active.handle ≠ some node :=
        evolves.ne_active coherent inRange fun refers => other ⟨node, named, refers⟩
      have kept := evolves.segmentBytes_eq coherent member fun same namedSame => by
        rw [named] at namedSame
        cases namedSame
        exact sealed
      refine (onward.bytes_eq id (evolves.ids_prefix.subset member) ?_).trans kept
      rintro ⟨same, namedSame, refers⟩
      rw [evolves.config_eq, evolves.retains.findFile_eq named] at namedSame
      cases namedSame
      exact sealed refers

/-- Where the segments are apart, no other one is on the file of the active one. -/
theorem eq_of_sharesActive (coherent : service.log.Coherent service.storage)
    (apart : service.log.Apart service.storage) {id : SegmentId} (member : id ∈ service.log.ids)
    (shares : service.SharesActive id) : id = service.log.active.id := by
  obtain ⟨node, named, refersActive⟩ := shares
  obtain ⟨segment, own, _, among, rfl, path_eq, namedOwn, refers⟩ := coherent.findFile_eq member
  rw [path_eq, named] at namedOwn
  cases namedOwn
  rcases coherent.formed.mem_segments.mp among with older | rfl
  · exact absurd (refers.trans refersActive.symm) (apart segment older)
  · rfl

theorem coherent_start (sound : storage.Sound) (started : start config storage = some service) :
    service.log.Coherent service.storage ∧
      (storage.Orderly → service.log.Apart service.storage) := by
  unfold start at started
  split at started
  · cases started
  · rename_i log after opened
    cases started
    obtain ⟨coherent, _, apart⟩ := Log.coherent_openDirectory sound opened
    exact ⟨coherent, apart⟩

/-- A write is cut short, the next file cannot be created, and at last it can; a
close fails to sync. -/
def refusals : List (Faults × Request) :=
  [(.none, .write [1, 2, 3]), ({ Faults.none with growthLimit := some 12 }, .write [4, 5, 6]),
    ({ Faults.none with creationFault := fun _ => some .busy }, .write [7]), (.none, .write [8]),
    ({ Faults.none with syncFails := fun _ => true }, .close)]

end Service

end RecordLog
