import RecordLog.Proofs.Appending

/-!
# The accounts of a survey

A survey divides a segment into runs of records and the gaps between them. A run
goes from record to record, with nothing but padding between two of them, until
nothing can be read. Behind it there is the end of the segment, a gap with
another run behind it, or a torn tail. The numbers of a report are those of the
records, of the gaps and of the tail, and what it leaves valid ends with the
last record.
-/

namespace RecordLog

/-- The place of a record: its anchor, and the offset just past its last
chunk. -/
structure Extent where
  start : Nat
  stop : Nat
  deriving DecidableEq, Repr

/-- A gap and the run of records behind it. -/
structure Stretch where
  /-- Where the run before it ended, and nothing could be read. -/
  damaged : Nat
  /-- Where the next record was found. -/
  resumed : Nat
  run : List Extent
  deriving DecidableEq, Repr

/-- A segment in parts: the run it begins with, which may be empty, and each gap
with the run behind it. -/
structure Division where
  lead : List Extent
  stretches : List Stretch
  deriving DecidableEq, Repr

/-- The places of all records. -/
def Division.extents (division : Division) : List Extent :=
  division.lead ++ division.stretches.flatMap Stretch.run

/-- The aligned stop of the last of some records, or a position if there are
none. -/
def Layout.reach (layout : Layout) (position : Nat) (extents : List Extent) : Nat :=
  (extents.getLast?.map fun extent => layout.align extent.stop).getD position

namespace Layout

variable (layout : Layout)

theorem reach_cons (position : Nat) (extent : Extent) (rest : List Extent) :
    layout.reach position (extent :: rest) = layout.reach (layout.align extent.stop) rest := by
  rw [reach, reach, List.getLast?_cons]
  cases rest.getLast? <;> rfl

theorem reach_append (position : Nat) (front back : List Extent) :
    layout.reach position (front ++ back) =
      layout.reach (layout.reach position front) back := by
  induction front generalizing position with
  | nil => rfl
  | cons extent rest ih => rw [List.cons_append, reach_cons, reach_cons, ih]

theorem reach_of_ne_nil {extents : List Extent} (nonempty : extents ≠ [])
    (position other : Nat) : layout.reach position extents = layout.reach other extents := by
  obtain ⟨extent, rest, rfl⟩ := List.exists_cons_of_ne_nil nonempty
  rw [reach_cons, reach_cons]

end Layout

/-! ## Places in order -/

/-- Places that lie one behind the other between two offsets. -/
structure Ascends (low high : Nat) (extents : List Extent) : Prop where
  le : low ≤ high
  pairwise : extents.Pairwise fun first second => first.stop ≤ second.start
  bounds : ∀ extent ∈ extents,
    low ≤ extent.start ∧ extent.start < extent.stop ∧ extent.stop ≤ high

namespace Ascends

variable {low middle high : Nat} {front back : List Extent}

theorem nil (le : low ≤ high) : Ascends low high [] :=
  ⟨le, .nil, nofun⟩

theorem append (first : Ascends low middle front) (second : Ascends middle high back) :
    Ascends low high (front ++ back) where
  le := Nat.le_trans first.le second.le
  pairwise := by
    refine List.pairwise_append.mpr ⟨first.pairwise, second.pairwise, ?_⟩
    intro before inFront behind inBack
    obtain ⟨_, _, stop_le⟩ := first.bounds before inFront
    obtain ⟨le_start, _, _⟩ := second.bounds behind inBack
    exact Nat.le_trans stop_le le_start
  bounds := by
    intro extent member
    have le_first := first.le
    have le_second := second.le
    rcases List.mem_append.mp member with inFront | inBack
    · obtain ⟨le_start, lt_stop, stop_le⟩ := first.bounds extent inFront
      exact ⟨le_start, lt_stop, Nat.le_trans stop_le le_second⟩
    · obtain ⟨le_start, lt_stop, stop_le⟩ := second.bounds extent inBack
      exact ⟨Nat.le_trans le_first le_start, lt_stop, stop_le⟩

theorem singleton {extent : Extent} (le_start : low ≤ extent.start)
    (lt_stop : extent.start < extent.stop) (stop_le : extent.stop ≤ high) :
    Ascends low high [extent] where
  le := by omega
  pairwise := List.pairwise_singleton _ _
  bounds := by
    intro other member
    rw [List.mem_singleton.mp member]
    exact ⟨le_start, lt_stop, stop_le⟩

end Ascends

namespace Image

variable (image : Image)

/-! ## Runs and gaps -/

/-- Records that are read one after the other from a position up to another. -/
inductive Run : Nat → List Extent → Nat → Prop
  | nil {position : Nat} : Run position [] position
  | cons {position stop last : Nat} {payload : List UInt8} {run : List Extent}
      (done : image.read (image.layout.align position) = .ok (payload, stop))
      (onward : Run (image.layout.align stop) run last) :
      Run position (⟨image.layout.align position, stop⟩ :: run) last

/-- Reading on from a position meets damage. -/
def Damaged (position : Nat) : Prop :=
  ∃ cause, image.next position = .error cause ∧ cause.isDamage = true

/-- Gaps that reading met from a position up to another, each with a run behind
it that has a record. -/
inductive Stretched : Nat → List Stretch → Nat → Prop
  | nil {position : Nat} : Stretched position [] position
  | cons {position resumed middle last : Nat} {run : List Extent} {stretches : List Stretch}
      (damaged : image.Damaged position) (skipped : image.resync position = .ok (some resumed))
      (forward : position < resumed) (outside : image.layout.inPadding resumed = false)
      (found : image.Run resumed run middle) (nonempty : run ≠ [])
      (onward : Stretched middle stretches last) :
      Stretched position (⟨position, resumed, run⟩ :: stretches) last

/-- A report tells what the parts of a segment are. -/
structure Accounts (division : Division) (report : Report) : Prop where
  parts : ∃ middle, image.Run 0 division.lead middle ∧
    image.Stretched middle division.stretches report.validLength
  readable : ∀ extent ∈ division.extents, extent.stop ≤ image.size ∧
    ∃ payload, image.read extent.start = .ok (payload, extent.stop)
  ascends : Ascends 0 report.validLength division.extents
  recovered_eq : report.recovered = division.extents.length
  corrupted_eq : report.corrupted =
    division.stretches.length + if report.truncated then 1 else 0
  validLength_eq : report.validLength = image.layout.reach 0 division.extents
  truncated_iff : report.truncated = true ↔
    image.Damaged report.validLength ∧ image.resync report.validLength = .ok none
  ended_iff : report.truncated = false ↔ image.next report.validLength = .ok none
  sound_iff : report.corrupted = 0 ↔ ∃ records, image.records = .ok records

variable {image}

/-! ## What a run is -/

namespace Run

variable {position last : Nat} {extents : List Extent}

theorem readable (run : image.Run position extents last) :
    ∀ extent ∈ extents, ∃ payload, image.read extent.start = .ok (payload, extent.stop) := by
  induction run with
  | nil => nofun
  | cons done _ ih =>
      intro extent member
      rcases List.mem_cons.mp member with rfl | later
      · exact ⟨_, done⟩
      · exact ih extent later

theorem ascends (run : image.Run position extents last) : Ascends position last extents := by
  induction run with
  | nil => exact .nil (Nat.le_refl _)
  | @cons position stop last _ _ done _ ih =>
      have first : Ascends position (image.layout.align stop)
          [⟨image.layout.align position, stop⟩] :=
        .singleton (image.layout.le_align position) (image.lt_stop_of_read done)
          (image.layout.le_align stop)
      exact first.append ih

/-- A run ends at the aligned stop of its last record. -/
theorem last_eq (run : image.Run position extents last) :
    image.layout.reach position extents = last := by
  induction run with
  | nil => rfl
  | cons _ _ ih => rw [Layout.reach_cons, ih]

/-- The failure that ends a scan is met behind the run. -/
theorem ending_eq (run : image.Run position extents last) :
    (image.recordsFrom position).2 = (image.recordsFrom last).2 := by
  induction run with
  | nil => rfl
  | cons done _ ih => rw [recordsFrom_of_read done, ih]

end Run

theorem Damaged.ending_ne_none {position : Nat} (damaged : image.Damaged position) :
    (image.recordsFrom position).2 ≠ none := by
  obtain ⟨cause, failed, _⟩ := damaged
  rw [recordsFrom_eq, failed]
  nofun

theorem exists_records_iff :
    (∃ records, image.records = .ok records) ↔ (image.recordsFrom 0).2 = none := by
  unfold records
  split
  · rename_i found
    simp [found]
  · rename_i found
    simp [found]

/-! ## What stretches are -/

namespace Stretched

variable {position last : Nat} {stretches : List Stretch}

theorem readable (stretched : image.Stretched position stretches last) :
    ∀ extent ∈ stretches.flatMap Stretch.run,
      ∃ payload, image.read extent.start = .ok (payload, extent.stop) := by
  induction stretched with
  | nil => nofun
  | cons _ _ _ _ found _ _ ih =>
      intro extent member
      rw [List.flatMap_cons] at member
      rcases List.mem_append.mp member with here | later
      · exact found.readable extent here
      · exact ih extent later

theorem ascends (stretched : image.Stretched position stretches last) :
    Ascends position last (stretches.flatMap Stretch.run) := by
  induction stretched with
  | nil => exact .nil (Nat.le_refl _)
  | cons _ _ forward _ found _ _ ih =>
      rw [List.flatMap_cons]
      exact (Ascends.nil (Nat.le_of_lt forward)).append (found.ascends.append ih)

/-- Stretches end at the aligned stop of the last record. -/
theorem last_eq (stretched : image.Stretched position stretches last) :
    image.layout.reach position (stretches.flatMap Stretch.run) = last := by
  induction stretched with
  | nil => rfl
  | @cons position resumed _ _ _ _ _ _ _ _ found nonempty _ ih =>
      rw [List.flatMap_cons, Layout.reach_append,
        image.layout.reach_of_ne_nil nonempty position resumed, found.last_eq, ih]

/-- A scan meets no damage behind a run exactly if there is no gap behind it and
none at the end. -/
theorem ending_eq_none_iff (stretched : image.Stretched position stretches last) :
    (image.recordsFrom position).2 = none ↔
      stretches = [] ∧ (image.recordsFrom last).2 = none := by
  cases stretched with
  | nil => exact (and_iff_right rfl).symm
  | cons damaged => exact iff_of_false damaged.ending_ne_none nofun

end Stretched

/-! ## The parts of a segment -/

variable {position last : Nat} {regions ending : List Region}

/-- What a survey passes is a run and stretches. -/
theorem Passes.exists_division (whole : image.Whole) (isOpen : image.isOpen = true)
    (way : Passes image position last regions) :
    ∃ (division : Division) (middle : Nat), image.Run position division.lead middle ∧
      image.Stretched middle division.stretches last ∧
        regions.countP Region.isRecord = division.extents.length ∧
          (regions.countP fun region => !region.isRecord) = division.stretches.length := by
  induction way with
  | here => exact ⟨⟨[], []⟩, _, .nil, .nil, rfl, rfl⟩
  | @record position stop _ _ _ done _ ih =>
      obtain ⟨⟨lead, stretches⟩, middle, run, stretched, records_eq, gaps_eq⟩ := ih
      refine ⟨⟨_ :: lead, stretches⟩, middle, .cons done run, stretched, ?_, gaps_eq⟩
      rw [List.countP_cons_of_pos rfl, records_eq]
      rfl
  | @gap position resumed stop _ _ _ inside unreadable skipped done _ ih =>
      -- the run that the rest begins with stands behind this gap, and the lead is empty
      obtain ⟨⟨lead, stretches⟩, middle, run, stretched, records_eq, gaps_eq⟩ := ih
      obtain ⟨cause, failed⟩ := exists_next_eq_error_iff.mpr ⟨inside, unreadable⟩
      have damaged : image.Damaged position := ⟨cause, failed, isDamage_of_next whole isOpen failed⟩
      have outside := (readable_of_resync whole isOpen skipped).2
      have aligned := image.layout.align_of_not_inPadding outside
      have found : image.Run resumed (⟨resumed, stop⟩ :: lead) middle := by
        rw [← aligned] at done
        have again := Run.cons done run
        rwa [aligned] at again
      refine ⟨⟨[], ⟨position, resumed, ⟨resumed, stop⟩ :: lead⟩ :: stretches⟩, position, .nil,
        .cons damaged skipped (image.lt_of_resync skipped) outside found (by simp) stretched,
        ?_, ?_⟩
      · rw [List.countP_cons_of_neg (by simp [Region.isRecord]), List.countP_cons_of_pos rfl,
          records_eq]
        rfl
      · rw [List.countP_cons_of_pos rfl, List.countP_cons_of_neg (by simp [Region.isRecord]),
          gaps_eq]
        rfl

/-- A run and stretches account for a segment, by a report with their numbers. The
segment ends behind them or has a torn tail there. -/
theorem accounts_of_parts (whole : image.Whole) {division : Division} {report : Report}
    {middle : Nat} (run : image.Run 0 division.lead middle)
    (stretched : image.Stretched middle division.stretches report.validLength)
    (recovered_eq : report.recovered = division.extents.length)
    (corrupted_eq : report.corrupted =
      division.stretches.length + if report.truncated then 1 else 0)
    (ending : report.truncated = false ∧ image.next report.validLength = .ok none ∨
      report.truncated = true ∧ image.Damaged report.validLength ∧
        image.resync report.validLength = .ok none) :
    image.Accounts division report := by
  have readable : ∀ extent ∈ division.extents,
      ∃ payload, image.read extent.start = .ok (payload, extent.stop) := by
    intro extent member
    rcases List.mem_append.mp member with inLead | inStretches
    · exact run.readable extent inLead
    · exact stretched.readable extent inStretches
  have damaged_iff : report.truncated = true ↔ image.Damaged report.validLength := by
    rcases ending with ⟨clean, ended⟩ | ⟨torn, damaged, _⟩
    · rw [clean, iff_comm]
      refine iff_of_false ?_ nofun
      rintro ⟨cause, failed, _⟩
      rw [ended] at failed
      cases failed
    · exact iff_of_true torn damaged
  have ended_iff : report.truncated = false ↔ image.next report.validLength = .ok none := by
    rcases ending with ⟨clean, ended⟩ | ⟨torn, ⟨cause, failed, _⟩, _⟩
    · exact iff_of_true clean ended
    · rw [torn, failed]
      exact iff_of_false nofun nofun
  constructor
  case parts => exact ⟨middle, run, stretched⟩
  case readable =>
    intro extent member
    obtain ⟨payload, done⟩ := readable extent member
    exact ⟨stop_le_size_of_read whole done, payload, done⟩
  case ascends => exact run.ascends.append stretched.ascends
  case recovered_eq => exact recovered_eq
  case corrupted_eq => exact corrupted_eq
  case validLength_eq =>
    rw [Division.extents, Layout.reach_append, run.last_eq, stretched.last_eq]
  case truncated_iff =>
    refine ⟨fun torn => ⟨damaged_iff.mp torn, ?_⟩, fun ⟨damaged, _⟩ => damaged_iff.mpr damaged⟩
    rcases ending with ⟨clean, _⟩ | ⟨_, _, skipped⟩
    · rw [torn] at clean
      cases clean
    · exact skipped
  case ended_iff => exact ended_iff
  case sound_iff =>
    have unended : (image.recordsFrom report.validLength).2 = none ↔ report.truncated = false := by
      constructor
      · intro none_left
        rw [← Bool.not_eq_true, damaged_iff]
        exact fun damaged => damaged.ending_ne_none none_left
      · intro clean
        rw [recordsFrom_eq, ended_iff.mp clean]
    rw [exists_records_iff, run.ending_eq, stretched.ending_eq_none_iff, unended, corrupted_eq,
      ← List.length_eq_zero_iff]
    cases report.truncated with
    | false => simp
    | true => simp

/-- Every segment has a report that accounts for all of it. -/
theorem exists_accounts (whole : image.Whole) (isOpen : image.isOpen = true) :
    ∃ division report, image.report = .ok report ∧ image.Accounts division report := by
  obtain ⟨last, regions, ending, way, ends⟩ := exists_passes whole isOpen 0
  obtain ⟨division, middle, run, stretched, records_eq, gaps_eq⟩ :=
    way.exists_division whole isOpen
  have aligned := image.layout.align_of_not_inPadding
    (way.inPadding_last image.layout.inPadding_zero)
  have valid := validLength_ofRegions way ends image.size
  refine ⟨division, _, report_of_passes whole isOpen way ends, ?_⟩
  rw [← valid] at stretched
  have truncated_eq : (Report.ofRegions image.size (regions ++ ending)).truncated =
      decide (last < image.size) := by
    rw [← valid]
    rfl
  cases ends with
  | clean ended =>
      have clean : (Report.ofRegions image.size (regions ++ [])).truncated = false := by
        rw [truncated_eq, decide_eq_false_iff_not, Nat.not_lt]
        rwa [aligned] at ended
      apply accounts_of_parts whole run stretched
      case recovered_eq => rw [Report.ofRegions, List.append_nil, records_eq]
      case corrupted_eq =>
        rw [clean, if_neg Bool.false_ne_true, Report.ofRegions, List.append_nil, gaps_eq]
        rfl
      case ending =>
        refine .inl ⟨clean, ?_⟩
        rw [valid]
        exact next_eq_none_iff.mpr ended
  | torn inside unreadable skipped =>
      have torn : (Report.ofRegions image.size (regions ++ [.tail last])).truncated = true := by
        rw [truncated_eq, decide_eq_true_eq]
        rwa [aligned] at inside
      obtain ⟨cause, failed⟩ := exists_next_eq_error_iff.mpr ⟨inside, unreadable⟩
      apply accounts_of_parts whole run stretched
      case recovered_eq =>
        rw [Report.ofRegions, List.countP_append, records_eq]
        rfl
      case corrupted_eq =>
        rw [torn, if_pos rfl, ← gaps_eq]
        exact List.countP_append
      case ending =>
        refine .inr ⟨torn, ?_, ?_⟩
        · rw [valid]
          exact ⟨cause, failed, isDamage_of_next whole isOpen failed⟩
        · rw [valid, skipped]

end Image

/-- Checking an open segment whose bytes are in its file gives a report that
accounts for all of them, and every record of it is read at its anchor. -/
theorem Segment.verify_accounts {segment : Segment} {storage : Storage}
    (isOpen : segment.closed = false)
    (within : segment.size ≤ (storage.content segment.handle).size) :
    ∃ division report, segment.verify storage = .ok report ∧
      (segment.image storage).Accounts division report ∧
        ∀ extent ∈ division.extents,
          ∃ payload, segment.read storage extent.start = .ok payload := by
  have isOpenImage : (segment.image storage).isOpen = true := by
    rw [Segment.image_eq isOpen]
  have whole : (segment.image storage).Whole := by
    rw [Segment.image_eq isOpen]
    exact within
  obtain ⟨division, report, reported, accounts⟩ := Image.exists_accounts whole isOpenImage
  refine ⟨division, report, reported, accounts, ?_⟩
  intro extent member
  obtain ⟨_, payload, done⟩ := accounts.readable extent member
  exact ⟨payload, by rw [Segment.read, done]⟩

/-- The storage of a file with three bytes of damage, two records and the first
five bytes of a header. -/
def Segment.raggedStorage : Storage :=
  ((Storage.empty.putFile ⟨"1.seg"⟩
    ([0xff, 0xff, 0xff] ++ Chunk.bytes ⟨.full, [1, 2]⟩ ++ Chunk.bytes ⟨.full, [3]⟩ ++
      [0, 0, 0, 0, 9]).toArray).2.openNode 0).2

/-- A segment on that file. -/
def Segment.ragged : Segment :=
  ofHandle ⟨"1.seg"⟩ .first ⟨40, by decide, by decide⟩ ⟨0⟩ 25

/-- The file begins with a gap and ends with a torn tail. -/
theorem Segment.verify_accounts_of_ragged :
    ragged.closed = false ∧ ragged.size ≤ (raggedStorage.content ragged.handle).size ∧
      ragged.verify raggedStorage = .ok ⟨2, 2, 20, true⟩ ∧
        ∃ division, (ragged.image raggedStorage).Accounts division ⟨2, 2, 20, true⟩ ∧
          ∀ extent ∈ division.extents,
            ∃ payload, ragged.read raggedStorage extent.start = .ok payload := by
  have within : ragged.size ≤ (raggedStorage.content ragged.handle).size := by decide +kernel
  have verified : ragged.verify raggedStorage = .ok ⟨2, 2, 20, true⟩ := by decide +kernel
  obtain ⟨division, report, reported, accounts, readable⟩ := verify_accounts rfl within
  rw [verified] at reported
  cases reported
  exact ⟨rfl, within, verified, division, accounts, readable⟩

/-! ## Where the valid part ends -/

/-- A report leaves less valid than there is exactly if there is something to cut
off. Else the valid part ends where the segment does, or behind the padding that the
segment ends in. -/
structure Report.Measures (report : Report) (layout : Layout) (size : Nat) : Prop where
  truncated_iff : report.truncated = true ↔ report.validLength < size
  validLength_eq : report.truncated = false → report.validLength = layout.align size

namespace Report.Measures

variable {report : Report} {layout : Layout} {size : Nat}

/-- Padding is all that a valid part has behind the size. -/
theorem validLength_le (measures : report.Measures layout size) :
    report.validLength ≤ layout.align size := by
  cases torn : report.truncated with
  | true =>
      have shorter := measures.truncated_iff.mp torn
      exact Nat.le_trans (Nat.le_of_lt shorter) (layout.le_align size)
  | false => exact Nat.le_of_eq (measures.validLength_eq torn)

/-- Where a segment does not end in padding, the valid part is within the size, and
is all of it if there is nothing to cut off. -/
theorem of_outside (measures : report.Measures layout size)
    (outside : layout.inPadding size = false) :
    report.validLength ≤ size ∧ (report.truncated = false → report.validLength = size) := by
  have aligned := layout.align_of_not_inPadding outside
  refine ⟨?_, fun clean => (measures.validLength_eq clean).trans aligned⟩
  rw [← aligned]
  exact measures.validLength_le

end Report.Measures

/-- A survey that reaches the end of a segment has come to the aligned end. -/
theorem Image.Passes.last_eq_align {image : Image} {last : Nat} {regions : List Region}
    (way : Image.Passes image 0 last regions) (whole : image.Whole) (reached : image.size ≤ last) :
    last = image.layout.align image.size := by
  rcases way.last_eq whole with rfl | ⟨stop, inSize, rfl⟩
  · rw [Nat.le_zero.mp reached, image.layout.align_zero]
  · exact (image.layout.align_eq_of_le_align inSize reached).symm

theorem Image.exists_measures {image : Image} (whole : image.Whole) (isOpen : image.isOpen = true) :
    ∃ report, image.report = .ok report ∧ report.Measures image.layout image.size := by
  obtain ⟨last, regions, ending, way, ends⟩ := exists_passes whole isOpen 0
  have valid := validLength_ofRegions way ends image.size
  refine ⟨_, report_of_passes whole isOpen way ends, ?_, ?_⟩
  · exact decide_eq_true_iff
  · intro clean
    have reached : ¬ last < image.size := by
      rw [← valid]
      exact of_decide_eq_false clean
    rw [valid]
    exact way.last_eq_align whole (Nat.le_of_not_lt reached)

/-- A usable segment is recovered with the report that a check gives, if what is
to be cut off can be. -/
theorem Segment.recover_of_verify {segment : Segment} {storage : Storage} {report : Report}
    (usable : segment.isUsable = true) (verified : segment.verify storage = .ok report)
    (truncates : report.truncated = true → storage.Truncates) :
    ∃ recovered after, segment.recover storage = (.ok report, recovered, after) := by
  simp only [recover, verified, truncate, usageFault_eq_none usable]
  split
  · rename_i torn
    have succeeds := Storage.truncate_of_truncates (truncates torn) segment.handle
      report.validLength
    generalize storage.truncate segment.handle report.validLength = outcome at succeeds
    obtain ⟨answer, after⟩ := outcome
    cases succeeds
    exact ⟨_, _, rfl⟩
  · exact ⟨_, _, rfl⟩

/-- What a check of an open segment leaves valid ends before the size if there is
something to cut off, and a recovery does so unless the storage refuses it. Else it
ends at the size, unless the segment ends in padding, and then behind the padding. -/
theorem Segment.verify_measures {segment : Segment} {storage : Storage}
    (isOpen : segment.closed = false)
    (within : segment.size ≤ (storage.content segment.handle).size) :
    ∃ report, segment.verify storage = .ok report ∧
      (segment.isUsable = true → (report.truncated = true → storage.Truncates) →
        ∃ recovered after, segment.recover storage = (.ok report, recovered, after)) ∧
      report.Measures segment.layout segment.size ∧
        report.validLength ≤ segment.layout.align segment.size ∧
          (segment.layout.inPadding segment.size = false → report.validLength ≤ segment.size ∧
            (report.truncated = false → report.validLength = segment.size)) := by
  have isOpenImage : (segment.image storage).isOpen = true := by
    rw [Segment.image_eq isOpen]
  have whole : (segment.image storage).Whole := by
    rw [Segment.image_eq isOpen]
    exact within
  obtain ⟨report, reported, measures⟩ := Image.exists_measures whole isOpenImage
  exact ⟨report, reported, fun usable => recover_of_verify usable reported, measures,
    measures.validLength_le, measures.of_outside⟩

/-- The segment with a torn tail is usable, and ends outside of padding. -/
theorem Segment.verify_measures_of_ragged :
    ragged.closed = false ∧ ragged.size ≤ (raggedStorage.content ragged.handle).size ∧
      ragged.isUsable = true ∧ ragged.layout.inPadding ragged.size = false ∧
        ragged.verify raggedStorage = .ok ⟨2, 2, 20, true⟩ ∧
          Report.Measures ⟨2, 2, 20, true⟩ ragged.layout ragged.size := by
  have within : ragged.size ≤ (raggedStorage.content ragged.handle).size := by decide +kernel
  have verified : ragged.verify raggedStorage = .ok ⟨2, 2, 20, true⟩ := by decide +kernel
  obtain ⟨report, reported, _, measures, _⟩ := verify_measures rfl within
  rw [verified] at reported
  cases reported
  exact ⟨rfl, within, rfl, by decide, verified, measures⟩

/-- The storage of a file that ends with its only record, five bytes before the end
of the block. -/
def Segment.unpaddedStorage : Storage :=
  (Storage.empty.putFile ⟨"1.seg"⟩ (Chunk.bytes ⟨.full, List.replicate 20 1⟩).toArray).2

/-- That file, opened. -/
def Segment.openUnpadded : Except Failure Segment × Storage :=
  openExisting ⟨"1.seg"⟩ .first smallLayout unpaddedStorage

/-- What is left valid of that file is longer than the file. -/
theorem Segment.validLength_exceeds_size :
    ∃ segment ∈ openUnpadded.1.toOption, segment.size = 27 ∧
      segment.verify openUnpadded.2 = .ok ⟨1, 0, 32, false⟩ ∧
        (segment.recover openUnpadded.2).1 = .ok ⟨1, 0, 32, false⟩ := by
  decide +kernel

end RecordLog
