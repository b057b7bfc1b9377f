import RecordLog.Proofs.Damage
import RecordLog.Proofs.Keeping
import RecordLog.Proofs.TornWrite

/-!
# Records in front of arbitrary bytes

The bytes of a file are kept up to where one of its records stops, and what
follows is replaced by anything at all. Whatever the bytes behind look like, a
survey passes the records in front of them first, so it ends behind them, and a
repair cuts nothing off them. Appends go behind what the repair left, and so
keep them too.
-/

namespace RecordLog

namespace Layout

variable (layout : Layout)

/-- Where the last of some records stops. -/
def lastStop (records : List Record) : Nat :=
  (records.getLast?.map fun record => record.stop layout).getD 0

/-- The first records are those of the first payloads. -/
theorem writtenRecords_take (offset : Nat) (payloads : List (List UInt8)) (count : Nat) :
    layout.writtenRecords offset (payloads.take count) =
      (layout.writtenRecords offset payloads).take count := by
  induction payloads generalizing offset count with
  | nil => rw [List.take_nil, writtenRecords_nil, List.take_nil]
  | cons payload rest ih =>
      cases count with
      | zero => rfl
      | succ count =>
          rw [List.take_succ_cons, writtenRecords_cons, ih, writtenRecords_cons,
            List.take_succ_cons]

/-- The records of some payloads stop where the payloads do. -/
theorem recordStops_eq_map (offset : Nat) (payloads : List (List UInt8)) :
    layout.recordStops offset payloads =
      (layout.writtenRecords offset payloads).map fun record => record.stop layout := by
  induction payloads generalizing offset with
  | nil => rfl
  | cons payload rest ih =>
      rw [recordStops_cons, writtenRecords_cons, List.map_cons, ih, Record.stop,
        layout.recordStop_align]

/-- The last record stops behind all others. -/
theorem le_lastStop {payloads : List (List UInt8)} {stop : Nat}
    (member : stop ∈ layout.recordStops 0 payloads) :
    stop ≤ layout.lastStop (layout.writtenRecords 0 payloads) := by
  rw [recordStops_eq_map] at member
  obtain ⟨record, among, rfl⟩ := List.mem_map.mp member
  have ordered := layout.pairwise_writtenRecords 0 payloads
  cases last : (layout.writtenRecords 0 payloads).getLast? with
  | none =>
      rw [List.getLast?_eq_none_iff.mp last] at among
      cases among
  | some final =>
      obtain ⟨front, split_eq⟩ := List.getLast?_eq_some_iff.mp last
      rw [lastStop, last, Option.map_some, Option.getD_some]
      rw [split_eq] at among ordered
      rcases List.mem_append.mp among with before | here
      · have behind := (List.pairwise_append.mp ordered).2.2 record before final (by simp)
        exact Nat.le_trans behind (Nat.le_of_lt (layout.lt_stop final))
      · rw [List.mem_singleton.mp here]

/-- No record stops behind where all payloads do. -/
theorem lastStop_le_writtenStop (payloads : List (List UInt8)) :
    layout.lastStop (layout.writtenRecords 0 payloads) ≤ layout.writtenStop 0 payloads := by
  cases last : (layout.writtenRecords 0 payloads).getLast? with
  | none =>
      rw [lastStop, last]
      exact Nat.zero_le _
  | some final =>
      rw [lastStop, last, Option.map_some, Option.getD_some]
      apply layout.le_writtenStop_of_mem_recordStops
      rw [recordStops_eq_map]
      exact List.mem_map_of_mem (List.mem_of_getLast? last)

end Layout

/-- The bytes that some payloads are written as, up to where the last of them
stops. -/
def Layout.intactBytes (layout : Layout) (payloads : List (List UInt8)) : List UInt8 :=
  (layout.writtenBytes 0 payloads).take (layout.lastStop (layout.writtenRecords 0 payloads))

theorem Layout.length_intactBytes (layout : Layout) (payloads : List (List UInt8)) :
    (layout.intactBytes payloads).length =
      layout.lastStop (layout.writtenRecords 0 payloads) := by
  have within := layout.lastStop_le_writtenStop payloads
  have length_eq := layout.length_writtenBytes 0 payloads
  rw [intactBytes, List.length_take]
  omega

/-- Payloads written behind do not matter to the bytes of those before. -/
theorem Layout.take_writtenBytes (layout : Layout) (front back : List (List UInt8)) :
    (layout.writtenBytes 0 (front ++ back)).take (layout.lastStop (layout.writtenRecords 0 front)) =
      layout.intactBytes front := by
  have within := layout.lastStop_le_writtenStop front
  have length_eq := layout.length_writtenBytes 0 front
  rw [layout.writtenBytes_append, List.take_append_of_le_length (by omega), intactBytes]

/-- Payloads can be read wherever their bytes stand first, without the padding
behind the last of them. -/
theorem Image.carries_of_intact {layout : Layout} {payloads : List (List UInt8)}
    {bytes : List UInt8} (intact : layout.intactBytes payloads <+: bytes) :
    (ofBytes layout bytes).Carries 0 payloads := by
  have within := layout.lastStop_le_writtenStop payloads
  have carries : (ofBytes layout ((layout.writtenBytes 0 (payloads ++ [])).take
      (layout.lastStop (layout.writtenRecords 0 payloads)))).Carries 0 payloads :=
    carries_take (by rwa [List.append_nil]) fun stop member => layout.le_lastStop member
  rw [List.append_nil] at carries
  exact Grows.carries (.ofBytes intact) carries

namespace Segment

/-- A segment has some records before all others: they are read back, a scan
meets them first, and the segment reaches to where the last of them stops. -/
structure Retains (segment : Segment) (storage : Storage) (records : List Record) : Prop where
  read_eq : ∀ record ∈ records, segment.read storage record.offset = .ok record.payload
  scan_prefix : records <+: ((segment.image storage).recordsFrom 0).1
  lastStop_le : segment.layout.lastStop records ≤ segment.size

/-- Where an append succeeds the record lies behind some records and is read
back, and they are retained; and it succeeds unless the storage is limited. -/
structure TakesBehind (segment : Segment) (storage : Storage) (records : List Record) : Prop where
  appends : storage.growthLimit = none → ∀ more, ∃ anchors final after,
    segment.appendAll more storage = (.ok anchors, final, after)
  behind : ∀ more anchors final after, segment.appendAll more storage = (.ok anchors, final, after) →
    final.Retains after records ∧ anchors.length = more.length ∧
      ∀ record ∈ recordsAt anchors more, segment.layout.lastStop records ≤ record.offset ∧
        final.read after record.offset = .ok record.payload

variable {layout : Layout} {storage : Storage} {file : LogFile} {segment : Segment}
  {bytes : List UInt8} {payloads : List (List UInt8)}

theorem retains_of_intact (fills : Fills layout storage file segment bytes)
    (intact : layout.intactBytes payloads <+: bytes) :
    segment.Retains storage (layout.writtenRecords 0 payloads) := by
  have carries := Image.carries_of_intact intact
  constructor
  · intro record member
    obtain ⟨stop, done⟩ := carries.holds record member
    rw [Segment.read, fills.image_eq, done]
  · rw [fills.image_eq, carries.recordsFrom]
    exact List.prefix_append _ _
  · rw [fills.layout_eq, fills.size_eq, ← layout.length_intactBytes]
    exact intact.length_le

/-- Every payload that is appended has an anchor. -/
theorem length_of_appendAll {anchors : List Nat} {final : Segment} {after : Storage}
    (appended : segment.appendAll payloads storage = (.ok anchors, final, after)) :
    anchors.length = payloads.length := by
  induction payloads generalizing segment storage anchors with
  | nil =>
      cases appended
      rfl
  | cons payload rest ih =>
      rw [appendAll] at appended
      split at appended
      · cases appended
      split at appended
      · cases appended
      · rename_i others
        cases appended
        rw [List.length_cons, List.length_cons, ih others]

/-- What is appended to a file goes behind the records it begins with. -/
theorem takesBehind_of_intact (fills : Fills layout storage file segment bytes)
    (intact : layout.intactBytes payloads <+: bytes) :
    segment.TakesBehind storage (layout.writtenRecords 0 payloads) := by
  refine ⟨fun unlimited more => fills.exists_appendAll unlimited more, ?_⟩
  intro more anchors final after appended
  obtain ⟨fillsAfter, records_eq, _⟩ := fills.appendAll appended
  refine ⟨retains_of_intact fillsAfter (intact.trans (List.prefix_append _ _)),
    length_of_appendAll appended, ?_⟩
  intro record member
  rw [records_eq] at member
  constructor
  · have reached := (retains_of_intact fills intact).lastStop_le
    rw [fills.size_eq] at reached
    have aligned := layout.le_align bytes.length
    have past := layout.align_le_of_mem_writtenRecords member
    omega
  · have stored_eq : (Image.ofBytes layout (bytes ++ layout.writtenBytes bytes.length more)).stored =
        bytes ++ (layout.writtenBytes bytes.length more ++ []) := by
      rw [Image.stored_ofBytes, List.append_nil]
    obtain ⟨stop, done⟩ :=
      (Image.carries_written (Image.whole_ofBytes _ _) rfl stored_eq).holds record member
    rw [Segment.read, fillsAfter.image_eq, done]

/-- The bytes of a filled segment are kept up to where one of the first records
stops, and replaced by any others behind. A repair then succeeds, retains these
records, and what is appended later goes behind them. -/
theorem repair_retains {path : Path} {id : SegmentId} {anchors : List Nat} {size : Nat}
    {written : Storage} (recovers : storage.Recovers)
    (filled : Segment.fill path id layout payloads storage = (.ok (anchors, size), written))
    {original : Content} (bytes_eq : written.fileBytes path = .ok original) (count : Nat)
    {altered : Content}
    (intact : original.toList.take (layout.lastStop ((recordsAt anchors payloads).take count)) <+:
      altered.toList) :
    ∃ report segment after,
      Segment.repair path id layout (fun _ => .ok altered) written =
          (.ok (report, segment), after) ∧
        segment.Retains after ((recordsAt anchors payloads).take count) ∧
          segment.TakesBehind after ((recordsAt anchors payloads).take count) := by
  obtain ⟨node, found, inRange, content_eq, rfl, records_eq, refusals_eq⟩ :=
    Segment.fill_eq_ok filled
  rw [← refusals_eq] at recovers
  have original_eq : original.toList = layout.writtenBytes 0 payloads := by
    simp only [Storage.fileBytes, found] at bytes_eq
    rw [← Except.ok.inj bytes_eq, content_eq]
  have split_eq : payloads = payloads.take count ++ payloads.drop count :=
    (List.take_append_drop count payloads).symm
  rw [records_eq, ← layout.writtenRecords_take] at intact ⊢
  generalize payloads.take count = front at intact split_eq ⊢
  rw [original_eq, split_eq, layout.take_writtenBytes] at intact
  -- a survey passes the intact records before it meets anything else
  have first := (Image.carries_of_intact intact).passes
  obtain ⟨last, regions, ending, onward, ends⟩ :=
    Image.exists_passes (Image.whole_ofBytes layout altered.toList) rfl
      (layout.align (layout.writtenStop 0 front))
  rw [Image.layout_ofBytes, layout.align_zero] at first
  obtain ⟨segment, after, repaired, fills⟩ :=
    Segment.repair_eq_ok id (fun _ => .ok altered) recovers found inRange rfl
      (first.trans onward) ends
  have kept : layout.intactBytes front <+: altered.toList.take last := by
    have within := layout.lastStop_le_writtenStop front
    have aligned := layout.le_align (layout.writtenStop 0 front)
    have behind := onward.le
    refine List.prefix_take_iff.mpr ⟨intact, ?_⟩
    rw [layout.length_intactBytes]
    omega
  exact ⟨_, segment, after, repaired, retains_of_intact fills kept,
    takesBehind_of_intact fills kept⟩

/-- The second of two records is replaced by other bytes. -/
theorem repair_retains_of_garbage :
    (fill ⟨"1.seg"⟩ .first smallLayout [[1, 2, 3], [4, 5]] .empty).1 = .ok ([0, 10], 19) ∧
      ∃ report segment after,
        repair ⟨"1.seg"⟩ .first smallLayout
            (fun _ => .ok ((filledContent smallLayout [[1, 2, 3]]) ++ #[9, 9, 9, 9, 9, 9, 9, 9]))
            (filledStorage smallLayout [[1, 2, 3], [4, 5]]) =
          (.ok (report, segment), after) ∧
        segment.Retains after [⟨0, [1, 2, 3]⟩] ∧ segment.TakesBehind after [⟨0, [1, 2, 3]⟩] := by
  have filled : (fill ⟨"1.seg"⟩ .first smallLayout [[1, 2, 3], [4, 5]] .empty).1 =
      .ok ([0, 10], 19) := by decide +kernel
  have written : fill ⟨"1.seg"⟩ .first smallLayout [[1, 2, 3], [4, 5]] .empty =
      (.ok ([0, 10], 19), filledStorage smallLayout [[1, 2, 3], [4, 5]]) :=
    Prod.ext filled rfl
  have bytes_eq : (filledStorage smallLayout [[1, 2, 3], [4, 5]]).fileBytes ⟨"1.seg"⟩ =
      .ok (filledContent smallLayout [[1, 2, 3], [4, 5]]) := by
    decide +kernel
  have intact : (filledContent smallLayout [[1, 2, 3], [4, 5]]).toList.take
      (smallLayout.lastStop ((recordsAt [0, 10] [[1, 2, 3], [4, 5]]).take 1)) <+:
        (filledContent smallLayout [[1, 2, 3]] ++ #[9, 9, 9, 9, 9, 9, 9, 9]).toList := by
    decide +kernel
  exact ⟨filled, repair_retains Refusals.recovers_none written bytes_eq 1 intact⟩

end Segment

end RecordLog
