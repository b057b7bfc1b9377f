import Mathlib.Data.Prod.Lex
import RecordLog.Proofs.History
import RecordLog.Proofs.Keeping
import RecordLog.Proofs.Tiling

/-!
# Positions ascend

A log hands out no position twice: in the order in which writes are
acknowledged their positions ascend, by segment first and by offset within a
segment. Between two openings this is how a log writes. At an opening the write
offset is where the survey of the newest file ends, and the survey may have
lost its way in the remains of a failed write, and missed records. It still
does not end at or before a record that was acknowledged since the opening
before: chunks lie side by side in front of each of them, so that the search
for readable records finds it at the latest. And it comes as far as the survey
of that opening did, which was behind all older records.
-/

namespace RecordLog

/-- Positions in order: segments by number, places in a segment by offset. -/
def Position.rank (position : Position) : Nat ×ₗ Nat :=
  toLex (position.segment.number, position.offset)

/-! ## Where a survey ends -/

namespace Image

variable {image : Image} {base remains : List UInt8} {payloads : List (List UInt8)}

/-- A survey that has come to some payloads ends behind the place where the last
of them begins. -/
theorem Ends.lt_last (whole : image.Whole) (isOpen : image.isOpen = true)
    (stored_eq : image.stored =
      base ++ (image.layout.writtenBytes base.length payloads ++ remains)) {last : Nat}
    {ending : List Region} (ends : Ends image last ending)
    (reached : image.layout.align base.length ≤ last)
    (outside : image.layout.inPadding last = false) {record : Record}
    (member : record ∈ image.layout.writtenRecords base.length payloads) :
    record.offset < last := by
  obtain ⟨front, back, split_eq, begins⟩ := image.layout.exists_of_mem_writtenRecords member
  have outsideRecord : image.layout.inPadding record.offset = false := by
    rw [begins, image.layout.inPadding_align]
  obtain ⟨stop, done⟩ := (carries_written whole isOpen stored_eq).holds record member
  have readable : image.Readable record.offset := ⟨_, stop, done⟩
  apply Nat.lt_of_not_le
  intro behind
  obtain ⟨_, beyond, missed⟩ := missed_of_ends whole isOpen ends outside outsideRecord readable
    behind
  rw [split_eq] at stored_eq
  have tiled := tiled_written_after whole stored_eq
  have later := image.layout.nextBlock_le_blockStart beyond
  have forward := image.layout.lt_nextBlock last
  rw [← begins, Nat.max_eq_right (by omega)] at tiled
  exact tiled.findByChunk_ne_none whole isOpen outsideRecord readable
    (missed.findByChunk whole isOpen)

end Image

/-! ## Records laid behind a base -/

/-- The bytes of a file are a base that a survey went over, payloads written
since up to the given size, and remains. Older records begin within the base. -/
def Outgrown (layout : Layout) (bytes : List UInt8) (size : Nat) (records : List Record) : Prop :=
  ∃ base payloads remains old, Surveyed layout base [] ∧
    bytes = base ++ (layout.writtenBytes base.length payloads ++ remains) ∧
      size = layout.writtenStop base.length payloads ∧
        records = old ++ layout.writtenRecords base.length payloads ∧
          ∀ record ∈ old, record.offset < base.length

namespace Outgrown

variable {layout : Layout} {bytes : List UInt8} {size : Nat} {records : List Record}

/-- Bytes that a survey goes over outgrow all records that begin within them. -/
theorem of_surveyed (surveyed : Surveyed layout bytes [])
    (inside : ∀ record ∈ records, record.offset < bytes.length) :
    Outgrown layout bytes bytes.length records :=
  ⟨bytes, [], [], records, surveyed, by simp, rfl, by simp, inside⟩

/-- Bytes of a failed write are remains. -/
theorem remains (outgrown : Outgrown layout bytes size records) (more : List UInt8) :
    Outgrown layout (bytes ++ more) size records := by
  obtain ⟨base, payloads, remains, old, surveyed, rfl, rfl, rfl, inside⟩ := outgrown
  exact ⟨base, payloads, remains ++ more, old, surveyed, by simp, rfl, rfl, inside⟩

/-- A payload framed for the end of the file is laid behind the others. -/
theorem append (outgrown : Outgrown layout bytes size records) (complete : bytes.length = size)
    (payload : List UInt8) :
    Outgrown layout (bytes ++ (layout.frame size payload).bytes) (layout.frame size payload).stop
      (records ++ [⟨layout.align size, payload⟩]) := by
  obtain ⟨base, payloads, remains, old, surveyed, rfl, rfl, rfl, inside⟩ := outgrown
  have none_left : remains = [] := by
    have := layout.length_writtenBytes base.length payloads
    simp only [List.length_append] at complete
    exact List.eq_nil_of_length_eq_zero (by omega)
  refine ⟨base, payloads ++ [payload], [], old, surveyed, ?_, ?_, ?_, inside⟩
  · simp [none_left, layout.writtenBytes_append]
  · simp [layout.writtenStop_append]
  · simp [layout.writtenRecords_append]

theorem size_le (outgrown : Outgrown layout bytes size records) : size ≤ bytes.length := by
  obtain ⟨base, payloads, remains, old, _, rfl, rfl, _, _⟩ := outgrown
  have := layout.length_writtenBytes base.length payloads
  simp only [List.length_append]
  omega

/-- A survey of longer bytes comes at least as far as one of the base did. -/
private theorem exists_survey {base : List UInt8} {grown : Image}
    (surveyed : Surveyed layout base []) (grows : Image.Grows (.ofBytes layout base) grown) :
    ∃ last regions ending, Image.Passes grown 0 last regions ∧ Image.Ends grown last ending ∧
      layout.align base.length ≤ last := by
  have isOpen : grown.isOpen = true := grows.isOpen_eq
  obtain ⟨regions, way, _⟩ := surveyed.passes
  obtain ⟨position, front, again, le⟩ : ∃ position front, Image.Passes grown 0 position front ∧
      layout.align base.length ≤ position := by
    rcases way.grow grows rfl with same | ⟨offset, stop, front, diverges⟩
    · exact ⟨_, _, same, Nat.le_refl _⟩
    · have beyond := diverges.beyond
      rw [Image.size_ofBytes] at beyond
      refine ⟨_, front, diverges.way, ?_⟩
      rw [grows.layout_eq, Image.layout_ofBytes]
      exact layout.align_mono (Nat.le_of_lt beyond)
  obtain ⟨last, back, ending, onward, ends⟩ :=
    Image.exists_passes grows.grownWhole isOpen position
  exact ⟨last, _, ending, again.trans onward, ends, Nat.le_trans le onward.le⟩

/-- A survey ends behind the place where the last record begins. -/
theorem survey (outgrown : Outgrown layout bytes size records) :
    ∃ last regions ending, Image.Passes (.ofBytes layout bytes) 0 last regions ∧
      Image.Ends (.ofBytes layout bytes) last ending ∧
        ∀ record ∈ records, record.offset < last := by
  obtain ⟨base, payloads, remains, old, surveyed, bytes_eq, _, rfl, inside⟩ := outgrown
  have whole := Image.whole_ofBytes layout bytes
  have grows : Image.Grows (.ofBytes layout base) (.ofBytes layout bytes) := by
    rw [bytes_eq]
    exact .ofBytes (List.prefix_append _ _)
  have stored_eq : (Image.ofBytes layout bytes).stored =
      base ++ (layout.writtenBytes base.length payloads ++ remains) :=
    (Image.stored_ofBytes layout bytes).trans bytes_eq
  obtain ⟨last, regions, ending, way, ends, reached⟩ := exists_survey surveyed grows
  have outside := way.inPadding_last layout.inPadding_zero
  refine ⟨last, regions, ending, way, ends, ?_⟩
  intro record member
  rcases List.mem_append.mp member with older | written
  · have := inside record older
    have := layout.le_align base.length
    omega
  · exact ends.lt_last whole rfl stored_eq reached outside written

end Outgrown

/-! ## The discipline -/

/-- Records lie in ascending order. -/
def Ascending (records : List Record) : Prop :=
  records.Pairwise fun earlier later => earlier.offset < later.offset

/-- A record behind all others keeps them in order. -/
theorem Ascending.concat {records : List Record} (ascending : Ascending records) {last : Record}
    (behind : ∀ record ∈ records, record.offset < last.offset) :
    Ascending (records ++ [last]) := by
  refine List.pairwise_append.mpr ⟨ascending, List.pairwise_singleton _ _, ?_⟩
  intro record member other single
  rw [List.mem_singleton.mp single]
  exact behind record member

/-- The discipline under which positions ascend: the records of every file are
in order, and those of the newest begin before the write offset. -/
def Discipline.ascending (layout : Layout) : Discipline layout where
  Active _ bytes size poisoned records :=
    Outgrown layout bytes size records ∧ (poisoned = false → bytes.length = size) ∧
      Ascending records ∧ ∀ record ∈ records, record.offset < size
  Sealed _ _ _ _ records := Ascending records
  Clear _ _ _ := True
  Lossy := True
  fresh := ⟨.of_surveyed .nil (by simp), fun _ => rfl, .nil, by simp⟩
  complete active := active.2.1 rfl
  write {_ bytes size records} payload active := by
    obtain ⟨outgrown, complete, ordered, inside⟩ := active
    have ahead := layout.le_align size
    have stop := layout.align_lt_recordStop size payload
    have aligned := layout.recordStop_le_frame_stop size payload
    refine ⟨outgrown.append (complete rfl) payload, fun _ => ?_, ordered.concat ?_, ?_⟩
    · rw [List.length_append, complete rfl, layout.length_frame_bytes]
    · intro record member
      exact Nat.lt_of_lt_of_le (inside record member) ahead
    · intro record member
      rcases List.mem_append.mp member with older | new
      · have := inside record older
        omega
      · rw [List.mem_singleton.mp new]
        exact Nat.lt_of_lt_of_le stop aligned
  tear part _ active := by
    obtain ⟨outgrown, _, ordered, inside⟩ := active
    exact ⟨outgrown.remains part, by simp, ordered, inside⟩
  retire active := active.2.2.1
  resume ordered := ordered
  recover {_ bytes size poisoned records} active _ := by
    obtain ⟨outgrown, _, ordered, inside⟩ := active
    obtain ⟨last, regions, ending, way, ends, behind⟩ := outgrown.survey
    have kept : ∀ record ∈ records, record.offset < (bytes.take last).length := by
      intro record member
      rw [List.length_take]
      exact Nat.lt_min.mpr ⟨behind record member,
        Nat.lt_of_lt_of_le (inside record member) outgrown.size_le⟩
    have surveyed : Surveyed layout (bytes.take last) [] := .of_passes way (by simp) .nil
    exact ⟨last, regions, ending, way, ends, .of_surveyed surveyed kept, fun _ => rfl, ordered,
      kept⟩

/-! ## Histories -/

namespace World

variable {world : World} {layout : Layout} {directory extension : String} {uses : Config → Prop}
  {place : Place} {files : List LogFile}

/-- The records of all files are in order if those of every file are. -/
theorem ascending_allEntries (catalog : Catalog directory extension world.storage place files)
    (ordered : ∀ file ∈ files, Ascending file.records) :
    ((LogFile.allEntries files).map fun entry => entry.1.rank).Pairwise (· < ·) := by
  have ids : (files.map LogFile.id).Pairwise fun first second => first.number < second.number := by
    rw [catalog.ids_eq]
    exact SegmentId.pairwise_upTo files.length
  rw [List.pairwise_map] at ids ⊢
  rw [LogFile.allEntries, List.pairwise_flatMap]
  constructor
  · intro file member
    rw [LogFile.entries, List.pairwise_map]
    refine (ordered file member).imp ?_
    intro earlier later before
    exact Prod.Lex.toLex_lt_toLex.mpr (.inr ⟨rfl, before⟩)
  · refine ids.imp ?_
    rintro first second before _ memberFirst _ memberSecond
    obtain ⟨_, _, rfl⟩ := List.mem_map.mp memberFirst
    obtain ⟨_, _, rfl⟩ := List.mem_map.mp memberSecond
    exact Prod.Lex.toLex_lt_toLex.mpr (.inl before)

/-- Where the discipline is upheld, the files hold their records in order. -/
theorem Upholds.ascending
    (upholds : world.Upholds (.ascending layout) uses directory extension place files) :
    ∀ file ∈ files, Ascending file.records := by
  intro file member
  rcases upholds.stored with rfl | ⟨front, newest, rfl, sealed, _, _, active⟩
  · cases member
  · rcases List.mem_append.mp member with older | last
    · obtain ⟨_, _, ordered⟩ := sealed file older
      exact ordered
    · rw [List.mem_singleton.mp last]
      exact active.2.2.1

/-- In every history that begins in an empty directory, the positions that
successful writes answer ascend, whatever fails and however often the log is
opened again. Every operation takes up one segment id at the most, and the ids
do not run out. -/
theorem ascends_run {directory extension : String} {blockSize : Nat} {storage : Storage}
    (empty : storage.readDirectory ⟨directory⟩ = .ok []) {events : List (Faults × Operation)}
    (shares : ∀ faults config, (faults, .openLog config) ∈ events →
      config.Shares directory extension blockSize)
    (bounded : events.length < SegmentId.bound) :
    (((World.start storage).run events).acknowledged.map fun entry => entry.1.rank).Pairwise
      (· < ·) := by
  obtain ⟨layout, geometry⟩ := Layout.exists_geometry blockSize
  have describes (config : Config) (shared : config.Shares directory extension blockSize) :
      config.Describes directory extension layout :=
    shared.describes geometry
  obtain ⟨place, files, upholds, _⟩ := upholds_run (.ascending layout) describes empty shares
    (fun _ _ => .inr trivial) bounded
    (fun _ _ _ _ _ _ _ _ _ _ _ _ _ => trivial)
  rw [upholds.acknowledged_eq]
  exact ascending_allEntries upholds.catalog upholds.ascending

/-- Two writes are cut short. After the first the log is opened again, which cuts
off what it left; after the second the log goes on in a new segment. -/
def interruptedHistory : List (Faults × Operation) :=
  [(.none, .openLog smallSettings), (.none, .write [1, 2, 3]),
    ({ Faults.none with growthLimit := some 12 }, .write [4, 5, 6]),
    (.none, .openLog smallSettings), (.none, .write [7]),
    ({ Faults.none with growthLimit := some 20 }, .write [8, 9]), (.none, .write [10])]

theorem interruptedHistory_ascends :
    vacantStorage.readDirectory ⟨"wal"⟩ = .ok [] ∧
      (∀ faults config, (faults, .openLog config) ∈ interruptedHistory →
        config.Shares "wal" ".seg" 64) ∧
      interruptedHistory.length < SegmentId.bound ∧
        ((World.start vacantStorage).run interruptedHistory).acknowledged =
          [(⟨⟨1⟩, 0⟩, [1, 2, 3]), (⟨⟨1⟩, 10⟩, [7]), (⟨⟨2⟩, 0⟩, [10])] ∧
        (((World.start vacantStorage).run interruptedHistory).acknowledged.map
          fun entry => entry.1.rank).Pairwise (· < ·) := by
  have empty : vacantStorage.readDirectory ⟨"wal"⟩ = .ok [] := by decide +kernel
  have bounded : interruptedHistory.length < SegmentId.bound := by decide
  have shares : ∀ faults config, (faults, .openLog config) ∈ interruptedHistory →
      config.Shares "wal" ".seg" 64 := by
    intro faults config member
    have same : faults = .none ∧ config = smallSettings := by
      simpa [interruptedHistory] using member
    rw [same.2]
    exact ⟨rfl, rfl, rfl⟩
  exact ⟨empty, shares, bounded, by decide +kernel, ascends_run empty shares bounded⟩

end World

end RecordLog
