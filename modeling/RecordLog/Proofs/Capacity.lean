import RecordLog.Proofs.Visits

/-!
# How far segments outgrow their largest size

A log seals a segment before a record that does not fit by the estimated space. The
estimate falls short by two headers at the most, so a segment is no further past its
largest size than that; unless it is an empty one that took a record too large for
any. Such a record stays alone, and begun on a boundary it falls short by one
header. An empty segment is never sealed.
-/

namespace RecordLog

/-- The bytes of a segment are close to the largest size, or hold one record alone,
at the beginning, that is no further past the space it needs. -/
def Layout.Confines (layout : Layout) (limit : Nat) (bytes : List UInt8) : Prop :=
  bytes.length ≤ limit + 2 * headerSize ∨
    ∃ payload, (Image.ofBytes layout bytes).records = .ok [⟨0, payload⟩] ∧
      bytes.length ≤ layout.requiredSpace payload.length + headerSize

/-- Payloads within bounds are written within bounds. -/
theorem Packing.Within.confines {layout : Layout} {limit : Nat} {payloads : List (List UInt8)}
    (within : Within layout limit payloads) :
    layout.Confines limit (layout.writtenBytes 0 payloads) := by
  have length_eq := layout.length_writtenBytes 0 payloads
  rw [Nat.zero_add] at length_eq
  unfold Layout.Confines
  rw [length_eq]
  rcases within with close | ⟨payload, rfl, alone⟩
  · exact .inl close
  · refine .inr ⟨payload, ?_, alone⟩
    have records := Image.records_written (Image.whole_ofBytes layout _) rfl
      (Image.stored_ofBytes layout (layout.writtenBytes 0 [payload]))
    rw [records, Image.layout_ofBytes, Layout.writtenRecords_cons, layout.align_zero,
      Layout.writtenRecords_nil]

namespace World

/-- The segment files of a world, given by their contents, are confined, and none
but the last of them is empty. The log, if there is one, has these segments in these
sizes. -/
structure Contained (config : Config) (layout : Layout) (world : World)
    (contents : List (SegmentId × List UInt8)) : Prop where
  contents_eq : config.contents world.storage = .ok contents
  confined : ∀ entry ∈ contents, layout.Confines config.maxSegmentSize entry.2
  filled : ∀ entry ∈ contents.dropLast, entry.2 ≠ []
  sizes_eq : ∀ log, world.log = some log →
    log.segments.map (fun segment => (segment.id, segment.size)) =
      contents.map fun entry => (entry.1, entry.2.length)
  sealed_pos : ∀ log, world.log = some log → ∀ segment ∈ log.sealed, 0 < segment.size

variable {layout : Layout} {config : Config} {place : Place} {storage : Storage}
  {files front : List LogFile} {newest file : LogFile} {course : Course} {world : World} {log : Log}

namespace Packed

theorem sizes_eq_map (packed : world.Packed config layout course place files)
    (found : world.log = some log) :
    log.segments.map (fun segment => (segment.id, segment.size)) =
      (files.map fun file => (file.id, file.bytes world.storage)).map
        fun entry => (entry.1, entry.2.length) := by
  rw [← List.forall₂_eq_eq_eq, List.map_map, List.forall₂_map_left_iff, List.forall₂_map_right_iff]
  refine List.Forall₂.flip ((packed.measured log found).imp ?_)
  intro file segment measures
  exact Prod.ext measures.id_eq measures.size_eq

/-- The newest file is within bounds, and so are the others, which are not empty. -/
theorem within (packed : world.Packed config layout course place (front ++ [newest])) :
    Packing.Within layout config.maxSegmentSize newest.payloads ∧
      ∀ file ∈ front, Packing.Within layout config.maxSegmentSize file.payloads ∧
        0 < (file.bytes world.storage).length := by
  have bounded : (Packing.ofFiles front newest).Bounded layout config.maxSegmentSize := by
    rw [packed.packing_eq.2]
    exact Packing.bounded_pack layout config.maxSegmentSize course.payloads
  refine ⟨bounded.active, fun file member => ?_⟩
  obtain ⟨within, nonempty⟩ := bounded.sealed file.payloads (List.mem_map_of_mem member)
  refine ⟨within, Nat.pos_of_ne_zero ?_⟩
  have length_eq := layout.length_writtenBytes 0 file.payloads
  rw [Nat.zero_add] at length_eq
  rw [(packed.upholds.stored.framed file (List.mem_append_left _ member)).bytes_eq, length_eq]
  exact mt layout.writtenStop_zero_eq_zero_iff.mp nonempty

/-- The sealed segments are those of all files but the newest. -/
theorem sealed_pos (packed : world.Packed config layout course place (front ++ [newest]))
    (found : world.log = some log) : ∀ segment ∈ log.sealed, 0 < segment.size := by
  intro segment member
  have parts := (packed.formed log found).segments_eq
  obtain ⟨start, last, segments_eq, related, _⟩ :=
    exists_concat_of_forall₂ (packed.measured log found)
  obtain ⟨rfl, _⟩ := List.append_inj' (parts.symm.trans segments_eq) rfl
  obtain ⟨file, fileMember, measures⟩ := exists_of_forall₂_of_mem related member
  rw [measures.size_eq]
  exact (packed.within.2 file fileMember).2

theorem contained (packed : world.Packed config layout course place files)
    (bounded : files.length < SegmentId.bound) :
    world.Contained config layout (files.map fun file => (file.id, file.bytes world.storage)) := by
  have contents_eq := packed.upholds.catalog.contents_eq bounded
  have sizes_eq (log : Log) (found : world.log = some log) := packed.sizes_eq_map found
  rcases packed.upholds.stored with rfl | ⟨front, newest, rfl, _⟩
  · refine ⟨contents_eq, by simp, by simp, sizes_eq, ?_⟩
    intro log found
    have nothing := sizes_eq log found
    simp [(packed.formed log found).segments_eq] at nothing
  obtain ⟨newestWithin, frontWithin⟩ := packed.within
  refine ⟨contents_eq, ?_, ?_, sizes_eq, fun log found => packed.sealed_pos found⟩
  · intro entry member
    obtain ⟨file, fileMember, rfl⟩ := List.mem_map.mp member
    simp only [(packed.upholds.stored.framed file fileMember).bytes_eq]
    rcases List.mem_append.mp fileMember with older | last
    · exact (frontWithin file older).1.confines
    · rw [List.mem_singleton.mp last]
      exact newestWithin.confines
  · intro entry member
    rw [List.map_append, List.map_singleton, List.dropLast_concat] at member
    obtain ⟨file, fileMember, rfl⟩ := List.mem_map.mp member
    exact List.ne_nil_of_length_pos (frontWithin file fileMember).2

end Packed

/-- Whatever visits are paid to a log that began in an empty directory, its segments
are confined at any moment, and none but the last is empty. -/
theorem contained_attend (laidOut : Layout.ofBlockSize config.blockSize = .ok layout)
    {visits : List Visit} (tour : Tour config storage visits) :
    ∃ contents, ((start storage).attend visits).Contained config layout contents := by
  obtain ⟨place, files, packed, bounded⟩ := tour.exists_packed laidOut
  exact ⟨_, packed.contained bounded⟩

/-- Settings with the smallest blocks, in which the headers of a large payload count
for much. -/
def smallestSettings : Config :=
  { smallSettings with blockSize := minBlockSize, maxSegmentSize := 60 }

/-- The largest payload between two small ones. -/
def crowdedVisits : List Visit :=
  [.operation (.openLog smallestSettings), .operation (.write [1]),
    .operation (.write (List.replicate 53 2)), .operation .drop,
    .operation (.openLog smallestSettings), .operation (.write [3])]

/-- The largest payload takes up more than two headers over the largest size. -/
theorem contained_attend_of_crowdedVisits :
    Layout.ofBlockSize smallestSettings.blockSize = .ok ⟨minBlockSize, by decide, by decide⟩ ∧
      Tour smallestSettings vacantStorage crowdedVisits ∧
        ∃ contents, ((start vacantStorage).attend crowdedVisits).Contained smallestSettings
            ⟨minBlockSize, by decide, by decide⟩ contents ∧
          contents.map (fun entry => entry.2.length) = [8, 96, 8] := by
  have laidOut : Layout.ofBlockSize smallestSettings.blockSize =
      .ok ⟨minBlockSize, by decide, by decide⟩ := rfl
  have tour : Tour smallestSettings vacantStorage crowdedVisits := by
    refine ⟨by decide +kernel, ?_, by decide⟩
    intro settings member
    obtain rfl : settings = smallestSettings := by simpa [crowdedVisits] using member
    exact ⟨rfl, rfl, rfl, rfl⟩
  obtain ⟨contents, contained⟩ := contained_attend laidOut tour
  refine ⟨laidOut, tour, contents, contained, ?_⟩
  obtain ⟨place, files, packed, bounded⟩ := tour.exists_packed laidOut
  have contents_eq := contained.contents_eq
  rw [packed.contents_eq bounded] at contents_eq
  rw [← Except.ok.inj contents_eq]
  decide +kernel

end World

end RecordLog
