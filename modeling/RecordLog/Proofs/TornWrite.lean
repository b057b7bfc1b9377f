import RecordLog.Proofs.Appending

/-!
# Torn writes

A file of payloads is cut at some length and repaired. The records whose last
chunk lies below the cut are kept, and of the next one there are remains. A
repair looks for records in them: byte by byte in the block where they begin,
and chunk by chunk in later blocks, where it meets the continuation of the torn
record and nothing else. So the torn write is rolled back exactly when no
record can be read within that first block of the remains; the payload decides
about that, since it may contain bytes that are themselves a chunk.
-/

namespace RecordLog

namespace Layout

variable (layout : Layout)

/-- The offsets just past the last chunks of some payloads written from an
offset on. -/
def recordStops (offset : Nat) : List (List UInt8) → List Nat
  | [] => []
  | payload :: rest =>
      layout.recordStop offset payload :: recordStops (layout.frame offset payload).stop rest

theorem recordStops_cons (offset : Nat) (payload : List UInt8) (rest : List (List UInt8)) :
    layout.recordStops offset (payload :: rest) =
      layout.recordStop offset payload ::
        layout.recordStops (layout.frame offset payload).stop rest :=
  (rfl)

/-- How many of some payloads, written from the start of a file, have their
last chunk wholly below a length. -/
def wholeCount (payloads : List (List UInt8)) (length : Nat) : Nat :=
  (layout.recordStops 0 payloads).countP fun stop => stop ≤ length

/-- All payloads end before the write offset after them. -/
theorem le_writtenStop_of_mem_recordStops {offset : Nat} {payloads : List (List UInt8)} {stop : Nat}
    (member : stop ∈ layout.recordStops offset payloads) :
    stop ≤ layout.writtenStop offset payloads := by
  induction payloads generalizing offset with
  | nil => cases member
  | cons payload rest ih =>
      rcases List.mem_cons.mp member with here | later
      · rw [here, writtenStop_cons]
        exact Nat.le_trans (layout.recordStop_le_frame_stop offset payload)
          (layout.le_writtenStop _ rest)
      · exact ih later

theorem lt_of_mem_recordStops {offset : Nat} {payloads : List (List UInt8)} {stop : Nat}
    (member : stop ∈ layout.recordStops offset payloads) : offset < stop := by
  induction payloads generalizing offset with
  | nil => cases member
  | cons payload rest ih =>
      rcases List.mem_cons.mp member with here | later
      · have := layout.le_align offset
        have := layout.align_lt_recordStop offset payload
        omega
      · exact Nat.lt_trans (layout.lt_frame_stop offset payload) (ih later)

/-- The payloads that are whole below a length come first. -/
theorem exists_whole (offset : Nat) (payloads : List (List UInt8)) (length : Nat) :
    ∃ front back, payloads = front ++ back ∧
      front.length = (layout.recordStops offset payloads).countP (fun stop => stop ≤ length) ∧
        (∀ stop ∈ layout.recordStops offset front, stop ≤ length) ∧
          ∀ torn rest, back = torn :: rest →
            length < layout.recordStop (layout.writtenStop offset front) torn := by
  induction payloads generalizing offset with
  | nil => exact ⟨[], [], rfl, rfl, by simp [recordStops], by simp⟩
  | cons payload rest ih =>
      by_cases whole : layout.recordStop offset payload ≤ length
      · obtain ⟨front, back, split_eq, count_eq, below, past⟩ :=
          ih (layout.frame offset payload).stop
        refine ⟨payload :: front, back, by rw [split_eq, List.cons_append], ?_, ?_, past⟩
        · rw [recordStops_cons, List.countP_cons_of_pos (by simpa using whole), List.length_cons,
            count_eq]
        · intro stop member
          rcases List.mem_cons.mp member with here | later
          · rwa [here]
          · exact below stop later
      · refine ⟨[], payload :: rest, rfl, ?_, by simp [recordStops], ?_⟩
        · symm
          rw [List.length_nil, List.countP_eq_zero]
          intro stop member
          rw [decide_eq_true_eq]
          rcases List.mem_cons.mp member with here | later
          · rwa [here]
          · have := layout.lt_of_mem_recordStops later
            have := layout.recordStop_le_frame_stop offset payload
            omega
        · rintro torn others same
          cases same
          exact Nat.not_le.mp whole

/-- The records of the first payloads are the first records. -/
theorem take_writtenRecords (offset : Nat) (front back : List (List UInt8)) :
    (layout.writtenRecords offset (front ++ back)).take front.length =
      layout.writtenRecords offset front := by
  rw [writtenRecords_append, List.take_left' (layout.length_writtenRecords offset front)]

/-- Bytes cut within the padding after the last record, or before it, are
aligned to where the payloads end. -/
theorem align_min_writtenStop {length : Nat} {payloads : List (List UInt8)}
    (below : ∀ stop ∈ layout.recordStops 0 payloads, stop ≤ length) :
    layout.align (min length (layout.writtenStop 0 payloads)) = layout.writtenStop 0 payloads := by
  have aligned := layout.align_of_not_inPadding
    (layout.inPadding_writtenStop layout.inPadding_zero payloads)
  by_cases reaches : layout.writtenStop 0 payloads ≤ length
  · rw [Nat.min_eq_right reaches, aligned]
  rw [Nat.min_eq_left (by omega)]
  -- only the padding after the last record can be cut
  have last (offset : Nat) (short : length < layout.writtenStop offset payloads)
      (whole : ∀ stop ∈ layout.recordStops offset payloads, stop ≤ length)
      (past : offset ≤ length) :
      layout.align length = layout.writtenStop offset payloads := by
    clear reaches aligned below
    induction payloads generalizing offset with
    | nil => exact absurd past (Nat.not_le.mpr short)
    | cons payload rest ih =>
        have reached := whole _ List.mem_cons_self
        rw [writtenStop_cons] at short ⊢
        by_cases covered : (layout.frame offset payload).stop ≤ length
        · exact ih _ short (fun stop member => whole stop (List.mem_cons_of_mem _ member)) covered
        · have stop_eq : layout.align length = (layout.frame offset payload).stop := by
            rw [frame_stop] at covered ⊢
            exact layout.align_eq_of_le_align reached (by omega)
          have nothing : rest = [] := by
            cases rest with
            | nil => rfl
            | cons next others =>
                have := whole _ (List.mem_cons_of_mem _ List.mem_cons_self)
                have := layout.align_lt_recordStop (layout.frame offset payload).stop next
                have := layout.le_align (layout.frame offset payload).stop
                omega
          rw [stop_eq, nothing, writtenStop_nil]
  exact last 0 (by omega) below (Nat.zero_le _)

end Layout

namespace Image

variable {image grown : Image}

/-- No record can be read in the rest of the block of an offset. -/
def Barren (image : Image) (offset : Nat) : Prop :=
  ∀ later, offset < later → later < image.layout.nextBlock offset →
    image.layout.inPadding later = false → ¬ image.Readable later

theorem carries_append_iff {offset : Nat} {first second : List (List UInt8)} :
    image.Carries offset (first ++ second) ↔
      image.Carries offset first ∧
        image.Carries (image.layout.writtenStop offset first) second := by
  induction first generalizing offset with
  | nil => simp [Carries]
  | cons payload rest ih =>
      rw [List.cons_append, carries_cons_iff, carries_cons_iff, ih, Layout.writtenStop_cons,
        and_assoc]

/-- The search in a block without records goes on behind it. -/
theorem resync_of_barren (whole : image.Whole) (isOpen : image.isOpen = true) {damaged : Nat}
    (barren : image.Barren damaged) :
    image.resync damaged = image.findByChunk (image.layout.nextBlock damaged) := by
  obtain ⟨answer, result⟩ := exists_findByByte whole isOpen
    (min (image.layout.nextBlock damaged) image.size) (damaged + 1)
  rw [resync]
  simp only [result]
  cases answer with
  | none => rfl
  | some found =>
      obtain ⟨readable, outside, inBlock, _⟩ := readable_of_findByByte whole isOpen result
      have past := image.le_of_findByByte result
      exact absurd readable (barren found (by omega) (by omega) outside)

namespace Grows

/-- What can be read in a longer file can be read in a shorter one that
reaches past it. -/
theorem carries_back (grows : Grows image grown) {offset : Nat} {payloads : List (List UInt8)}
    (carries : grown.Carries offset payloads)
    (below : ∀ stop ∈ grown.layout.recordStops offset payloads, stop ≤ image.size) :
    image.Carries offset payloads := by
  induction payloads generalizing offset with
  | nil => exact trivial
  | cons payload rest ih =>
      obtain ⟨done, onward⟩ := carries_cons_iff.mp carries
      have doneImage := grows.read_iff.mpr ⟨done, below _ List.mem_cons_self⟩
      have later := ih onward fun stop member => below stop (List.mem_cons_of_mem _ member)
      rw [grows.layout_eq] at doneImage later
      exact carries_cons_iff.mpr ⟨doneImage, later⟩

/-- What can be read in a shorter file can be read in a longer one. -/
theorem carries (grows : Grows image grown) {offset : Nat} {payloads : List (List UInt8)}
    (carries : image.Carries offset payloads) : grown.Carries offset payloads := by
  induction payloads generalizing offset with
  | nil => exact trivial
  | cons payload rest ih =>
      obtain ⟨done, onward⟩ := carries_cons_iff.mp carries
      have doneGrown := (grows.read_iff.mp done).1
      have later := ih onward
      rw [← grows.layout_eq] at doneGrown later
      exact carries_cons_iff.mpr ⟨doneGrown, later⟩

/-- A walk ends at a chunk that is cut. -/
theorem findByChunk_cut (grows : Grows image grown) {offset : Nat} {chunk : Chunk}
    (found : grown.chunkAt offset = .ok chunk) (cut : image.size < offset + chunk.size) :
    image.findByChunk offset = .ok none := by
  have inBlock := stop_le_nextBlock_of_chunkAt grows.grownWhole found
  rw [grows.layout_eq] at inBlock
  cases missing : image.chunkAt offset with
  | ok other =>
      obtain ⟨again, reached⟩ := grows.chunkAt_iff.mp missing
      rw [found] at again
      cases again
      omega
  | error cause =>
      rw [findByChunk_of_error grows.whole missing, findByChunk_of_size_le (by omega)]

/-- A walk over the continuation of a torn record finds nothing. -/
theorem findByChunk_continuation (grows : Grows image grown) (isOpen : image.isOpen = true)
    {offset : Nat} {payload : List UInt8} (outside : image.layout.inPadding offset = false)
    (found : ∀ placed ∈ image.layout.continuation offset payload,
      grown.chunkAt placed.offset = .ok placed.chunk)
    (torn : image.size <
      PlacedChunk.stopFrom offset (image.layout.continuation offset payload)) :
    image.findByChunk offset = .ok none := by
  fun_induction Layout.continuation image.layout offset payload with
  | case1 offset payload start room fits =>
      have start_eq : start = offset := image.layout.align_of_not_inPadding outside
      have last := found _ List.mem_cons_self
      simp only [PlacedChunk.stopFrom, PlacedChunk.stop, start_eq] at torn last
      exact grows.findByChunk_cut last torn
  | case2 offset payload start room exceeds ih =>
      have start_eq : start = offset := image.layout.align_of_not_inPadding outside
      have middle := found _ List.mem_cons_self
      have size_eq := Chunk.size_take .middle exceeds
      have boundary : start + headerSize + room = image.layout.nextBlock start :=
        image.layout.add_headerSize_add_room (image.layout.inPadding_align offset)
      simp only [PlacedChunk.stopFrom, PlacedChunk.stop, size_eq] at torn
      rw [← Nat.add_assoc] at torn
      rw [start_eq] at middle boundary torn ih
      by_cases cut : image.size < offset + Chunk.size ⟨.middle, payload.take room⟩
      · exact grows.findByChunk_cut middle cut
      · have here := grows.chunkAt_iff.mpr ⟨middle, Nat.not_lt.mp cut⟩
        have unreadable : ¬ image.Readable offset := by
          intro readable
          have starts := startsRecord_of_readable outside here readable
          cases starts
        rw [findByChunk_of_chunkAt grows.whole isOpen outside here unreadable, size_eq,
          ← Nat.add_assoc]
        refine ih ?_ (fun placed member => ?_) torn
        · rw [boundary, image.layout.inPadding_nextBlock]
        · exact found placed (List.mem_cons_of_mem _ (by rwa [start_eq]))

/-- Nothing is found in the remains of a torn record whose first block is
barren. -/
theorem resync_torn (grows : Grows image grown) (isOpen : image.isOpen = true) {offset : Nat}
    {payload : List UInt8} (outside : image.layout.inPadding offset = false)
    (found : ∀ placed ∈ image.layout.split offset payload,
      grown.chunkAt placed.offset = .ok placed.chunk)
    (torn : image.size < image.layout.recordStop offset payload)
    (barren : image.Barren offset) : image.resync offset = .ok none := by
  have aligned := image.layout.align_of_not_inPadding outside
  rw [resync_of_barren grows.whole isOpen barren]
  simp only [Layout.recordStop, Layout.split, aligned] at found torn
  split at torn
  · rename_i fits
    rw [if_pos fits] at found
    have inBlock := stop_le_nextBlock_of_chunkAt grows.grownWhole (found _ List.mem_cons_self)
    rw [grows.layout_eq] at inBlock
    simp only [PlacedChunk.stopFrom, PlacedChunk.stop] at torn inBlock
    exact findByChunk_of_size_le (by omega)
  · rename_i exceeds
    rw [if_neg exceeds] at found
    have boundary := image.layout.add_headerSize_add_room outside
    have size_eq := Chunk.size_take .first exceeds
    simp only [PlacedChunk.stopFrom, PlacedChunk.stop, size_eq] at torn
    rw [← Nat.add_assoc] at torn
    rw [boundary] at torn found
    exact grows.findByChunk_continuation isOpen (image.layout.inPadding_nextBlock offset)
      (fun placed member => found placed (List.mem_cons_of_mem _ member)) torn

end Grows

/-- The payloads that are whole below a cut can be read. -/
theorem carries_take {layout : Layout} {front back : List (List UInt8)} {length : Nat}
    (within : length ≤ layout.writtenStop 0 (front ++ back))
    (below : ∀ stop ∈ layout.recordStops 0 front, stop ≤ length) :
    (ofBytes layout ((layout.writtenBytes 0 (front ++ back)).take length)).Carries 0 front := by
  have length_eq := layout.length_writtenBytes 0 (front ++ back)
  have grows : Grows (ofBytes layout ((layout.writtenBytes 0 (front ++ back)).take length))
      (ofBytes layout (layout.writtenBytes 0 (front ++ back))) :=
    .ofBytes (List.take_prefix _ _)
  have stored_eq : (ofBytes layout (layout.writtenBytes 0 (front ++ back))).stored =
      layout.writtenBytes 0 (front ++ back) ++ [] := by
    simp
  have all := carries_writtenBytes (whole_ofBytes _ _) rfl stored_eq
  apply grows.carries_back (carries_append_iff.mp all).1
  intro stop member
  have := below stop member
  rw [size_ofBytes, List.length_take]
  omega

/-- Where a survey ends after the whole records of a cut file, if the remains
of the next one are barren. -/
theorem ends_torn {layout : Layout} {front back : List (List UInt8)} {length : Nat}
    (within : length ≤ layout.writtenStop 0 (front ++ back))
    (past : ∀ torn rest, back = torn :: rest →
      length < layout.recordStop (layout.writtenStop 0 front) torn)
    (barren : (ofBytes layout ((layout.writtenBytes 0 (front ++ back)).take length)).Barren
      (layout.writtenStop 0 front)) :
    Ends (ofBytes layout ((layout.writtenBytes 0 (front ++ back)).take length))
      (layout.writtenStop 0 front)
      (if layout.writtenStop 0 front < length then [.tail (layout.writtenStop 0 front)]
        else []) := by
  have outside := layout.inPadding_writtenStop layout.inPadding_zero front
  have aligned := layout.align_of_not_inPadding outside
  have length_front := layout.length_writtenBytes 0 front
  have length_all := layout.length_writtenBytes 0 (front ++ back)
  have size_eq : ((layout.writtenBytes 0 (front ++ back)).take length).length = length := by
    rw [List.length_take]
    omega
  by_cases reaches : layout.writtenStop 0 front < length
  · rw [if_pos reaches]
    have grows : Grows (ofBytes layout ((layout.writtenBytes 0 (front ++ back)).take length))
        (ofBytes layout (layout.writtenBytes 0 (front ++ back))) :=
      .ofBytes (List.take_prefix _ _)
    cases back with
    | nil =>
        rw [List.append_nil] at within
        omega
    | cons torn rest =>
        have cut := past torn rest rfl
        have stored_eq : (ofBytes layout (layout.writtenBytes 0 (front ++ torn :: rest))).stored =
            layout.writtenBytes 0 (front ++ torn :: rest) ++ [] := by
          simp
        have found := chunkAt_written (whole_ofBytes _ _) stored_eq
        rw [layout_ofBytes] at found
        refine .torn ?_ ?_ (grows.resync_torn rfl outside found ?_ barren)
        · rw [layout_ofBytes, size_ofBytes, aligned, size_eq]
          exact reaches
        · rintro ⟨payload, stop, done⟩
          obtain ⟨again, inSize⟩ := grows.read_iff.mp done
          have whole := read_split (isOpen_ofBytes _ _) found
          rw [layout_ofBytes] at again whole
          rw [again] at whole
          cases whole
          rw [size_ofBytes, size_eq] at inSize
          omega
        · rw [size_ofBytes, size_eq]
          exact cut
  · rw [if_neg reaches]
    refine .clean ?_
    rw [layout_ofBytes, size_ofBytes, aligned, size_eq]
    omega

/-- A survey that finds no record from a position on ends there, in a barren
block. -/
theorem barren_of_passes {layout : Layout} {bytes : List UInt8} {position last : Nat}
    {regions ending : List Region} (outside : layout.inPadding position = false)
    (way : Passes (ofBytes layout bytes) position last regions)
    (ends : Ends (ofBytes layout bytes) last ending)
    (nothing : regions.countP Region.isRecord = 0) : (ofBytes layout bytes).Barren position := by
  intro later past inBlock outsideLater readable
  have inside := lt_size_of_readable readable
  have aligned := layout.align_of_not_inPadding outside
  cases way with
  | here =>
      cases ends with
      | clean ended =>
          rw [layout_ofBytes, aligned] at ended
          omega
      | torn _ _ skipped =>
          exact not_readable_of_resync (whole_ofBytes _ _) rfl skipped past inBlock outsideLater
            (by simp) readable
  | record done onward => simp [Region.isRecord] at nothing
  | gap _ _ _ _ _ => simp [Region.isRecord] at nothing

/-- A scan goes over what could be read before and the payloads appended
since. -/
theorem records_resumed {layout : Layout} {bytes : List UInt8} {front : List (List UInt8)}
    (carries : (ofBytes layout bytes).Carries 0 front)
    (aligned : layout.align bytes.length = layout.writtenStop 0 front)
    (more : List (List UInt8)) :
    (ofBytes layout (bytes ++ layout.writtenBytes bytes.length more)).records =
      .ok (layout.writtenRecords 0 front ++ layout.writtenRecords bytes.length more) := by
  have grows : Grows (ofBytes layout bytes)
      (ofBytes layout (bytes ++ layout.writtenBytes bytes.length more)) :=
    .ofBytes (List.prefix_append _ _)
  have stored_eq : (ofBytes layout (bytes ++ layout.writtenBytes bytes.length more)).stored =
      bytes ++ (layout.writtenBytes bytes.length more ++ []) := by
    simp
  have appended := (carries_written (whole_ofBytes _ _) rfl stored_eq).recordsFrom
  have ended : (ofBytes layout (bytes ++ layout.writtenBytes bytes.length more)).recordsFrom
      (layout.writtenStop bytes.length more) = ([], none) := by
    have forward := layout.le_align (layout.writtenStop bytes.length more)
    have length_eq := layout.length_writtenBytes bytes.length more
    apply recordsFrom_of_size_le
    rw [layout_ofBytes, size_ofBytes, List.length_append, length_eq]
    exact forward
  rw [layout_ofBytes, ended, List.append_nil] at appended
  have resumed := @recordsFrom_align
    (ofBytes layout (bytes ++ layout.writtenBytes bytes.length more)) bytes.length
  rw [layout_ofBytes, aligned] at resumed
  rw [records, (grows.carries carries).recordsFrom, layout_ofBytes, resumed, appended]

end Image

/-! ## Rolling back -/

/-- The report of a survey that goes over payloads up to where it ends. -/
theorem Report.ofRegions_written {layout : Layout} {bytes : List UInt8}
    {front : List (List UInt8)} {last length : Nat}
    (way : Image.Passes (.ofBytes layout bytes) 0 last (Image.writtenRegions layout 0 front))
    (ends : Image.Ends (.ofBytes layout bytes) last (if last < length then [.tail last] else [])) :
    Report.ofRegions length
        (Image.writtenRegions layout 0 front ++ if last < length then [.tail last] else []) =
      { recovered := front.length
        corrupted := if last < length then 1 else 0
        validLength := last
        truncated := last < length } := by
  have valid := Image.validLength_ofRegions way ends length
  have sound :
      (Image.writtenRegions layout 0 front).countP (fun region => !region.isRecord) = 0 := by
    rw [List.countP_eq_zero]
    intro region member
    simp [Image.isRecord_of_mem_writtenRegions member]
  simp only [Report.ofRegions] at valid ⊢
  rw [valid, List.countP_append, List.countP_append, Image.countP_writtenRegions, sound]
  by_cases torn : last < length
  · simp [torn, Region.isRecord]
  · simp [torn]

namespace Segment

/-- A repaired segment holds some records and nothing else: what was past them
up to the given length is cut off, and further payloads follow them. -/
structure RollsBack (records : List Record) (length stop : Nat) (report : Report)
    (segment : Segment) (storage : Storage) : Prop where
  report_eq : report =
    { recovered := records.length
      corrupted := if stop < length then 1 else 0
      validLength := stop
      truncated := stop < length }
  size_eq : segment.size = min length stop
  scan_eq : (segment.image storage).records = .ok records
  append_eq : storage.growthLimit = none → ∀ more, ∃ anchors final after,
    segment.appendAll more storage = (.ok anchors, final, after) ∧
      (final.image after).records = .ok (records ++ recordsAt anchors more)

section Cut

variable {path : Path} {layout : Layout} {front back : List (List UInt8)} {written : Storage}
  {node length : Nat}

/-- Where the remains of the next record are barren, a repair keeps the records
that are whole and nothing else. -/
private theorem rollsBack_of_barren (id : SegmentId) (recovers : written.Recovers)
    (found : written.findFile path = .ok node) (inRange : node < written.nodes.size)
    (content_eq : ((written.nodeBytes node).resize length).toList =
      (layout.writtenBytes 0 (front ++ back)).take length)
    (within : length ≤ layout.writtenStop 0 (front ++ back))
    (below : ∀ stop ∈ layout.recordStops 0 front, stop ≤ length)
    (past : ∀ torn rest, back = torn :: rest →
      length < layout.recordStop (layout.writtenStop 0 front) torn)
    (barren : (Image.ofBytes layout ((layout.writtenBytes 0 (front ++ back)).take length)).Barren
      (layout.writtenStop 0 front)) :
    ∃ report segment after,
      Segment.repair path id layout (fun bytes => .ok (bytes.resize length)) written =
          (.ok (report, segment), after) ∧
        RollsBack (layout.writtenRecords 0 front) length (layout.writtenStop 0 front) report segment
          after := by
  have length_all := layout.length_writtenBytes 0 (front ++ back)
  have outside := layout.inPadding_writtenStop layout.inPadding_zero front
  have aligned := layout.align_of_not_inPadding outside
  have way := (Image.carries_take within below).passes
  have ends := Image.ends_torn within past barren
  simp only [Image.layout_ofBytes, layout.align_zero, aligned] at way
  rw [← content_eq] at way ends
  obtain ⟨segment, after, repaired, fills⟩ := Segment.repair_eq_ok id
    (fun bytes => .ok (bytes.resize length)) recovers found inRange rfl way ends
  have changed_size : ((written.nodeBytes node).resize length).size = length := by
    rw [← Array.length_toList, content_eq, List.length_take]
    omega
  rw [changed_size, Report.ofRegions_written way ends] at repaired
  rw [content_eq, List.take_take, Nat.min_comm] at fills
  have short : layout.writtenStop 0 front ≤ layout.writtenStop 0 (front ++ back) := by
    rw [layout.writtenStop_append]
    exact layout.le_writtenStop _ back
  have kept_length :
      ((layout.writtenBytes 0 (front ++ back)).take
        (min length (layout.writtenStop 0 front))).length =
          min length (layout.writtenStop 0 front) := by
    rw [List.length_take]
    omega
  have kept : (Image.ofBytes layout ((layout.writtenBytes 0 (front ++ back)).take
      (min length (layout.writtenStop 0 front)))).Carries 0 front := by
    apply Image.carries_take (by omega)
    intro stop member
    exact Nat.le_min.mpr ⟨below stop member, layout.le_writtenStop_of_mem_recordStops member⟩
  have resumed := layout.align_min_writtenStop below
  rw [← kept_length] at resumed
  refine ⟨_, segment, after, repaired, ?_, ?_, ?_, ?_⟩
  · rw [layout.length_writtenRecords]
  · rw [fills.size_eq, kept_length]
  · have scanned := Image.records_resumed kept resumed []
    rw [Layout.writtenBytes_nil, List.append_nil, Layout.writtenRecords_nil, List.append_nil]
      at scanned
    rw [fills.image_eq, scanned]
  · intro unlimited more
    obtain ⟨anchors, final, later, appended⟩ := fills.exists_appendAll unlimited more
    obtain ⟨extended, more_eq, _, _⟩ := fills.appendAll appended
    refine ⟨anchors, final, later, appended, ?_⟩
    rw [extended.image_eq, more_eq, Image.records_resumed kept resumed more]

/-- Where the remains of the next record are not barren, a repair counts a
record that it finds in them. -/
private theorem recovered_ne_of_not_barren (id : SegmentId) (recovers : written.Recovers)
    (found : written.findFile path = .ok node) (inRange : node < written.nodes.size)
    (content_eq : ((written.nodeBytes node).resize length).toList =
      (layout.writtenBytes 0 (front ++ back)).take length)
    (within : length ≤ layout.writtenStop 0 (front ++ back))
    (below : ∀ stop ∈ layout.recordStops 0 front, stop ≤ length)
    (fertile : ¬ (Image.ofBytes layout
      ((layout.writtenBytes 0 (front ++ back)).take length)).Barren (layout.writtenStop 0 front)) :
    ∃ report segment after,
      Segment.repair path id layout (fun bytes => .ok (bytes.resize length)) written =
          (.ok (report, segment), after) ∧
        report.recovered ≠ front.length := by
  have outside := layout.inPadding_writtenStop layout.inPadding_zero front
  have aligned := layout.align_of_not_inPadding outside
  have way := (Image.carries_take within below).passes
  simp only [Image.layout_ofBytes, layout.align_zero, aligned] at way
  obtain ⟨last, regions, ending, onward, ends⟩ := Image.exists_passes
    (Image.whole_ofBytes layout ((layout.writtenBytes 0 (front ++ back)).take length)) rfl
    (layout.writtenStop 0 front)
  have far := way.trans onward
  have ends' := ends
  rw [← content_eq] at far ends'
  obtain ⟨segment, after, repaired, _⟩ := Segment.repair_eq_ok id
    (fun bytes => .ok (bytes.resize length)) recovers found inRange rfl far ends'
  refine ⟨_, segment, after, repaired, ?_⟩
  intro same
  apply fertile
  apply Image.barren_of_passes outside onward ends
  simp only [Report.ofRegions, List.countP_append, Image.countP_writtenRegions] at same
  omega

end Cut

/-- A file of payloads that is cut at any length can be repaired. Exactly where
the remains of the torn record are barren the repair counts the records that
are whole, and then it keeps those alone. -/
theorem repair_torn {path : Path} {id : SegmentId} {layout : Layout}
    {payloads : List (List UInt8)} {storage written : Storage} (recovers : storage.Recovers)
    {anchors : List Nat} {size : Nat}
    (filled : Segment.fill path id layout payloads storage = (.ok (anchors, size), written))
    {length : Nat} (within : length ≤ size) :
    ∃ report segment after,
      Segment.repair path id layout (fun bytes => .ok (bytes.resize length)) written =
          (.ok (report, segment), after) ∧
        (report.recovered = layout.wholeCount payloads length ↔
          (Image.ofBytes layout ((layout.writtenBytes 0 payloads).take length)).Barren
            (layout.writtenStop 0 (payloads.take (layout.wholeCount payloads length)))) ∧
        (report.recovered = layout.wholeCount payloads length →
          RollsBack ((recordsAt anchors payloads).take (layout.wholeCount payloads length)) length
            (layout.writtenStop 0 (payloads.take (layout.wholeCount payloads length))) report
            segment after) := by
  obtain ⟨node, found, inRange, bytes_eq, rfl, records_eq, refusals_eq⟩ :=
    Segment.fill_eq_ok filled
  rw [← refusals_eq] at recovers
  obtain ⟨front, back, rfl, count_eq, below, past⟩ := layout.exists_whole 0 payloads length
  rw [records_eq, show layout.wholeCount (front ++ back) length = front.length from count_eq.symm,
    List.take_left, layout.take_writtenRecords]
  have content_eq : ((written.nodeBytes node).resize length).toList =
      (layout.writtenBytes 0 (front ++ back)).take length := by
    have length_all := layout.length_writtenBytes 0 (front ++ back)
    rw [Content.toList_resize, bytes_eq]
    rw [← Array.length_toList, bytes_eq]
    omega
  by_cases barren : (Image.ofBytes layout
      ((layout.writtenBytes 0 (front ++ back)).take length)).Barren (layout.writtenStop 0 front)
  · obtain ⟨report, segment, after, repaired, rollsBack⟩ :=
      rollsBack_of_barren id recovers found inRange content_eq within below past barren
    have counted : report.recovered = front.length := by
      rw [rollsBack.report_eq]
      exact layout.length_writtenRecords 0 front
    exact ⟨report, segment, after, repaired, iff_of_true counted barren, fun _ => rollsBack⟩
  · obtain ⟨report, segment, after, repaired, more⟩ :=
      recovered_ne_of_not_barren id recovers found inRange content_eq within below barren
    exact ⟨report, segment, after, repaired, iff_of_false more barren, fun same =>
      absurd same more⟩

theorem repair_torn_of_short :
    (fill ⟨"1.seg"⟩ .first smallLayout [[1, 2, 3], [4, 5, 6, 7]] .empty).1 = .ok ([0, 10], 21) ∧
      18 ≤ 21 ∧ ∃ report segment after,
        repair ⟨"1.seg"⟩ .first smallLayout (fun bytes => .ok (bytes.resize 18))
            (fill ⟨"1.seg"⟩ .first smallLayout [[1, 2, 3], [4, 5, 6, 7]] .empty).2 =
          (.ok (report, segment), after) ∧
        RollsBack [⟨0, [1, 2, 3]⟩] 18 10 report segment after := by
  have filled : (fill ⟨"1.seg"⟩ .first smallLayout [[1, 2, 3], [4, 5, 6, 7]] .empty).1 =
      .ok ([0, 10], 21) := by decide +kernel
  have counted : (repair ⟨"1.seg"⟩ .first smallLayout (fun bytes => .ok (bytes.resize 18))
      (fill ⟨"1.seg"⟩ .first smallLayout [[1, 2, 3], [4, 5, 6, 7]] .empty).2).1.map
        (fun outcome => outcome.1.recovered) = .ok 1 := by decide +kernel
  have whole : smallLayout.wholeCount [[1, 2, 3], [4, 5, 6, 7]] 18 = 1 := by decide +kernel
  have stop : smallLayout.writtenStop 0 [[1, 2, 3]] = 10 := by decide +kernel
  have written : fill ⟨"1.seg"⟩ .first smallLayout [[1, 2, 3], [4, 5, 6, 7]] .empty =
      (.ok ([0, 10], 21),
        (fill ⟨"1.seg"⟩ .first smallLayout [[1, 2, 3], [4, 5, 6, 7]] .empty).2) :=
    Prod.ext filled rfl
  obtain ⟨report, segment, after, repaired, _, rollsBack⟩ :=
    repair_torn Refusals.recovers_none written (show 18 ≤ 21 by decide)
  rw [repaired] at counted
  rw [whole] at rollsBack
  refine ⟨filled, by decide, report, segment, after, repaired, ?_⟩
  have kept := rollsBack (Except.ok.inj counted)
  rw [List.take_succ_cons, List.take_zero, stop] at kept
  exact kept

/-- A payload that begins with an empty record of its own. -/
def nestedPayload : List UInt8 := [0x12, 0xd9, 0x41, 0xff, 0x00, 0x00, 0x00, 0x00]

/-- The record inside the remains of a torn one is taken for a whole one. -/
theorem nestedPayload_not_rolledBack :
    (fill ⟨"1.seg"⟩ .first smallLayout [nestedPayload] .empty).1 = .ok ([0], 15) ∧
      smallLayout.wholeCount [nestedPayload] 14 = 0 ∧
        (repair ⟨"1.seg"⟩ .first smallLayout (fun bytes => .ok (bytes.resize 14))
            (fill ⟨"1.seg"⟩ .first smallLayout [nestedPayload] .empty).2).1.map Prod.fst =
          .ok { recovered := 1, corrupted := 1, validLength := 14, truncated := false } := by
  decide +kernel

end Segment

end RecordLog
