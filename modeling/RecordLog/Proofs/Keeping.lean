import RecordLog.Proofs.Passage

/-!
# Records that a survey keeps

The bytes of the newest file of a log come in three parts: what the last
repair left, what was written since, and the remains of a write that failed.
A survey of such bytes goes over all records of the first two parts as long as
no stray record covers one of them: a record that is read from some place
outside them, such as a piece of a payload in the remains of a failed write,
and that extends over their anchors. Cutting the bytes where the survey ends
gives bytes that a survey goes over in whole again.
-/

namespace RecordLog.Image

variable {image : Image}

/-- The record anchored at one offset extends over another. -/
def Covers (image : Image) (anchor offset : Nat) : Prop :=
  ∃ payload stop, image.read anchor = .ok (payload, stop) ∧ anchor ≤ offset ∧ offset < stop

/-- An offset outside the records at some anchors where a record can be read
that covers one of the anchors. -/
structure Stray (image : Image) (anchors : List Nat) (offset : Nat) : Prop where
  inPadding_eq : image.layout.inPadding offset = false
  outside : ∀ anchor ∈ anchors, ¬ image.Covers anchor offset
  covers : ∃ anchor ∈ anchors, image.Covers offset anchor

/-- Some records are read back, each from its anchor. -/
def Holds (image : Image) (records : List Record) : Prop :=
  ∀ record ∈ records, ∃ stop, image.read record.offset = .ok (record.payload, stop)

theorem Holds.nil : image.Holds [] := by
  intro record member
  cases member

theorem Holds.append {first second : List Record} (holdsFirst : image.Holds first)
    (holdsSecond : image.Holds second) : image.Holds (first ++ second) := by
  intro record member
  rcases List.mem_append.mp member with front | back
  · exact holdsFirst record front
  · exact holdsSecond record back

/-- A longer file holds what a shorter one does. -/
theorem Grows.holds {grown : Image} (grows : Grows image grown) {records : List Record}
    (holds : image.Holds records) : grown.Holds records := by
  intro record member
  obtain ⟨stop, done⟩ := holds record member
  exact ⟨stop, (grows.read_iff.mp done).1⟩

/-- Payloads that can be read are held. -/
theorem Carries.holds {offset : Nat} {payloads : List (List UInt8)}
    (carries : image.Carries offset payloads) :
    image.Holds (image.layout.writtenRecords offset payloads) := by
  induction payloads generalizing offset with
  | nil => exact .nil
  | cons payload rest ih =>
      obtain ⟨done, onward⟩ := carries_cons_iff.mp carries
      intro record member
      rcases List.mem_cons.mp member with here | later
      · subst here
        exact ⟨_, done⟩
      · exact ih onward record later

end Image

/-! ## Bytes that a survey goes over -/

/-- A survey goes over bytes in whole and passes some records, all of which
are read back. -/
structure Surveyed (layout : Layout) (bytes : List UInt8) (records : List Record) : Prop where
  passes : ∃ regions, Image.Passes (.ofBytes layout bytes) 0 (layout.align bytes.length) regions ∧
    ∀ record ∈ records, ∃ stop, .record record.offset stop ∈ regions
  holds : (Image.ofBytes layout bytes).Holds records

/-- The bytes of a file are what a survey went over, payloads written since up
to the given size, and remains. -/
def Extended (layout : Layout) (bytes : List UInt8) (size : Nat) (records : List Record) : Prop :=
  ∃ base payloads remains old, Surveyed layout base old ∧
    bytes = base ++ (layout.writtenBytes base.length payloads ++ remains) ∧
      size = layout.writtenStop base.length payloads ∧
        records = old ++ layout.writtenRecords base.length payloads

variable {layout : Layout} {bytes : List UInt8} {size : Nat} {records : List Record}

theorem Surveyed.nil : Surveyed layout [] [] where
  passes := by
    refine ⟨[], ?_, by simp⟩
    rw [List.length_nil, layout.align_zero]
    exact .here
  holds := .nil

theorem Surveyed.extended (surveyed : Surveyed layout bytes records) :
    Extended layout bytes bytes.length records :=
  ⟨bytes, [], [], records, surveyed, by simp, rfl, by simp⟩

namespace Extended

theorem size_le (extended : Extended layout bytes size records) : size ≤ bytes.length := by
  obtain ⟨base, payloads, remains, old, _, rfl, rfl, rfl⟩ := extended
  have := layout.length_writtenBytes base.length payloads
  simp only [List.length_append]
  omega

/-- Bytes of a failed write are remains. -/
theorem remains (extended : Extended layout bytes size records) (more : List UInt8) :
    Extended layout (bytes ++ more) size records := by
  obtain ⟨base, payloads, remains, old, surveyed, rfl, rfl, rfl⟩ := extended
  exact ⟨base, payloads, remains ++ more, old, surveyed, by simp, rfl, rfl⟩

/-- A payload framed for the end of the file extends it. -/
theorem append (extended : Extended layout bytes size records) (complete : bytes.length = size)
    (payload : List UInt8) :
    Extended layout (bytes ++ (layout.frame size payload).bytes) (layout.frame size payload).stop
      (records ++ [⟨layout.align size, payload⟩]) := by
  obtain ⟨base, payloads, remains, old, surveyed, rfl, rfl, rfl⟩ := extended
  have none_left : remains = [] := by
    have := layout.length_writtenBytes base.length payloads
    simp only [List.length_append] at complete
    exact List.eq_nil_of_length_eq_zero (by omega)
  refine ⟨base, payloads ++ [payload], [], old, surveyed, ?_, ?_, ?_⟩
  · simp [none_left, layout.writtenBytes_append]
  · simp [layout.writtenStop_append]
  · simp [layout.writtenRecords_append]

/-- All records are read back from the bytes up to the size. -/
theorem holds (extended : Extended layout bytes size records) :
    (Image.ofBytes layout (bytes.take size)).Holds records := by
  obtain ⟨base, payloads, remains, old, surveyed, rfl, rfl, rfl⟩ := extended
  have length_eq := layout.length_writtenBytes base.length payloads
  have take_eq : (base ++ (layout.writtenBytes base.length payloads ++ remains)).take
      (layout.writtenStop base.length payloads) =
        base ++ layout.writtenBytes base.length payloads := by
    rw [← List.append_assoc, List.take_left' (by rw [List.length_append, length_eq])]
  rw [take_eq]
  have grows : Image.Grows (.ofBytes layout base)
      (.ofBytes layout (base ++ layout.writtenBytes base.length payloads)) :=
    .ofBytes (List.prefix_append _ _)
  apply (grows.holds surveyed.holds).append
  have stored_eq :
      (Image.ofBytes layout (base ++ layout.writtenBytes base.length payloads)).stored =
        base ++ (layout.writtenBytes base.length payloads ++ []) := by
    simp
  exact (Image.carries_written (Image.whole_ofBytes _ _) rfl stored_eq).holds

end Extended

/-! ## Surveying again -/

/-- No stray record covers one of some records. -/
def Unstrayed (layout : Layout) (bytes : List UInt8) (records : List Record) : Prop :=
  ∀ offset, ¬ (Image.ofBytes layout bytes).Stray (records.map Record.offset) offset

/-- Where a survey of longer bytes leaves the way it went before, it is for a
new record, which lies outside the old ones. Unless it is stray, it stops before
those behind it begin. -/
private theorem stop_le_of_diverges {base : List UInt8} {payloads : List (List UInt8)}
    {old : List Record} {regions front : List Region} {offset stop : Nat}
    (grows : Image.Grows (.ofBytes layout base) (.ofBytes layout bytes))
    (wayBase : Image.Passes (.ofBytes layout base) 0 (layout.align base.length) regions)
    (passed : ∀ record ∈ old, ∃ stop, .record record.offset stop ∈ regions)
    (diverges : Image.Diverges (.ofBytes layout base) (.ofBytes layout bytes) 0 regions offset stop
      front)
    (clear : Unstrayed layout bytes (old ++ layout.writtenRecords base.length payloads)) :
    ∀ record ∈ old ++ layout.writtenRecords base.length payloads,
      offset ≤ record.offset → stop ≤ record.offset := by
  have inBase := diverges.inside
  rw [Image.size_ofBytes] at inBase
  have apart : ∀ anchor ∈ (old ++ layout.writtenRecords base.length payloads).map Record.offset,
      ¬ (Image.ofBytes layout bytes).Covers anchor offset := by
    rintro _ mapped ⟨_, anchorStop, read, before, after⟩
    obtain ⟨record, member, rfl⟩ := List.mem_map.mp mapped
    rcases List.mem_append.mp member with kept | written
    · obtain ⟨regionStop, region⟩ := passed record kept
      obtain ⟨_, _, _, _, last, again, aligned⟩ :=
        wayBase.read_of_mem (Image.whole_ofBytes _ _) rfl region
      have last_eq : last = anchorStop := by
        rw [(grows.read_iff.mp again).1] at read
        cases read
        rfl
      have := layout.le_align last
      rw [Image.layout_ofBytes] at aligned
      rcases diverges.met _ _ region with later | ⟨earlier, _⟩
      · omega
      · omega
    · have := layout.align_le_of_mem_writtenRecords written
      have := layout.le_align base.length
      omega
  obtain ⟨payload, done⟩ := diverges.found
  intro record member le
  apply Nat.le_of_not_lt
  intro lt
  exact clear offset ⟨diverges.outside, apart, record.offset, List.mem_map_of_mem member, payload,
    stop, done, le, lt⟩

/-- Bytes that a survey went over are gone over again, up to where the payloads
written since begin. -/
private theorem passes_base {base remains : List UInt8} {payloads : List (List UInt8)}
    {old : List Record} (surveyed : Surveyed layout base old)
    (bytes_eq : bytes = base ++ (layout.writtenBytes base.length payloads ++ remains))
    (clear : Unstrayed layout bytes (old ++ layout.writtenRecords base.length payloads)) :
    ∃ position regions, Image.Passes (.ofBytes layout bytes) 0 position regions ∧
      (payloads ≠ [] → position = layout.align base.length) ∧
        ∀ record ∈ old, ∃ stop, .record record.offset stop ∈ regions := by
  obtain ⟨regions, wayBase, passed⟩ := surveyed.passes
  have grows : Image.Grows (.ofBytes layout base) (.ofBytes layout bytes) :=
    .ofBytes ⟨_, bytes_eq.symm⟩
  rcases wayBase.grow grows rfl with way | ⟨offset, stop, front, diverges⟩
  · exact ⟨_, regions, way, fun _ => rfl, passed⟩
  have uncovered := stop_le_of_diverges grows wayBase passed diverges clear
  have inBase := diverges.inside
  have beyond := diverges.beyond
  rw [Image.size_ofBytes] at inBase beyond
  refine ⟨_, front, diverges.way, ?_, ?_⟩
  · intro nonempty
    obtain ⟨payload, rest, rfl⟩ := List.exists_cons_of_ne_nil nonempty
    have le := layout.le_align base.length
    have stops := uncovered ⟨layout.align base.length, payload⟩ (by simp)
      (Nat.le_trans (Nat.le_of_lt inBase) le)
    exact layout.align_eq_of_le_align (Nat.le_of_lt beyond) stops
  · intro record member
    obtain ⟨regionStop, region⟩ := passed record member
    rcases diverges.met _ _ region with later | ⟨_, again⟩
    · -- the new record ends past all of the old ones
      have stops := uncovered record (List.mem_append_left _ member) (Nat.le_of_lt later)
      obtain ⟨_, done⟩ := surveyed.holds record member
      have inside := Image.lt_size_of_read _ done
      rw [Image.size_ofBytes] at inside
      omega
    · exact ⟨regionStop, again⟩

/-- Bytes cut where a survey of them ends are gone over by a survey in
whole. -/
theorem Surveyed.of_passes {last : Nat} {regions : List Region}
    (way : Image.Passes (.ofBytes layout bytes) 0 last regions)
    (passed : ∀ record ∈ records, ∃ stop, .record record.offset stop ∈ regions)
    (holds : (Image.ofBytes layout bytes).Holds records) :
    Surveyed layout (bytes.take last) records := by
  have whole := Image.whole_ofBytes layout bytes
  have outside := way.inPadding_last layout.inPadding_zero
  have grows : Image.Grows (.ofBytes layout (bytes.take last)) (.ofBytes layout bytes) :=
    .ofBytes (List.take_prefix last bytes)
  have wayCut : Image.Passes (.ofBytes layout (bytes.take last)) 0
      (layout.align (bytes.take last).length) regions := by
    by_cases fits : last ≤ bytes.length
    · rw [List.length_take, Nat.min_eq_left fits, layout.align_of_not_inPadding outside]
      apply way.shrink grows rfl
      rw [Image.size_ofBytes, List.length_take, Nat.min_eq_left fits]
    · rw [List.take_of_length_le (by omega)]
      rcases way.last_eq whole with start | ⟨stop, le, rfl⟩
      · omega
      · rw [Image.layout_ofBytes] at way fits
        rw [Image.size_ofBytes] at le
        rwa [layout.align_eq_of_le_align le (by omega)]
  refine ⟨⟨regions, wayCut, passed⟩, ?_⟩
  intro record member
  obtain ⟨stop, done⟩ := holds record member
  obtain ⟨regionStop, region⟩ := passed record member
  obtain ⟨_, _, _, payload, recordStop, again, _⟩ :=
    wayCut.read_of_mem (Image.whole_ofBytes _ _) rfl region
  have same := (grows.read_iff.mp again).1
  rw [done] at same
  cases same
  exact ⟨stop, again⟩

/-- A survey of a file passes every record that no stray record covers, and
keeps all of them when the file is cut where it ends. -/
theorem Extended.survey (extended : Extended layout bytes size records)
    (clear : Unstrayed layout bytes records) :
    ∃ last regions ending, Image.Passes (.ofBytes layout bytes) 0 last regions ∧
      Image.Ends (.ofBytes layout bytes) last ending ∧
        Surveyed layout (bytes.take last) records := by
  have whole := Image.whole_ofBytes layout bytes
  have grows : Image.Grows (.ofBytes layout (bytes.take size)) (.ofBytes layout bytes) :=
    .ofBytes (List.take_prefix size bytes)
  have holds := grows.holds extended.holds
  obtain ⟨base, payloads, remains, old, surveyed, bytes_eq, _, rfl⟩ := extended
  obtain ⟨position, front, way, meets, passed⟩ := passes_base surveyed bytes_eq clear
  have stored_eq : (Image.ofBytes layout bytes).stored =
      base ++ (layout.writtenBytes base.length payloads ++ remains) :=
    (Image.stored_ofBytes layout bytes).trans bytes_eq
  have written := (Image.carries_written whole rfl stored_eq).passes
  cases payloads with
  | nil =>
      obtain ⟨last, back, ending, onward, ends⟩ := Image.exists_passes whole rfl position
      refine ⟨last, _, ending, way.trans onward, ends, .of_passes (way.trans onward) ?_ holds⟩
      intro record member
      rw [Layout.writtenRecords_nil, List.append_nil] at member
      obtain ⟨stop, region⟩ := passed record member
      exact ⟨stop, List.mem_append_left _ region⟩
  | cons payload rest =>
      rw [meets (List.cons_ne_nil payload rest)] at way
      obtain ⟨last, back, ending, onward, ends⟩ := Image.exists_passes whole rfl
        (layout.align (layout.writtenStop base.length (payload :: rest)))
      have whole_way := (way.trans written).trans onward
      refine ⟨last, _, ending, whole_way, ends, .of_passes whole_way ?_ holds⟩
      intro record member
      rcases List.mem_append.mp member with kept | new
      · obtain ⟨stop, region⟩ := passed record kept
        exact ⟨stop, List.mem_append_left _ (List.mem_append_left _ region)⟩
      · obtain ⟨stop, region⟩ := Image.exists_mem_writtenRegions new
        exact ⟨stop, List.mem_append_left _ (List.mem_append_right _ region)⟩

end RecordLog
