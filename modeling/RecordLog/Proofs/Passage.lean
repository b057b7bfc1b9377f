import RecordLog.Proofs.Search
import RecordLog.Proofs.Written

/-!
# The way of a survey

A survey goes from record to record, over gaps where it has to. Its way is a
relation of its own, so that parts of it can be joined and carried over to
other images: what is passed within a shorter file is passed in a longer one
unless that has a new record in a gap, and what is passed in a longer file is
passed in any shorter one that still holds the whole way. Every way of a survey
comes to an end, either at the end of the file or at a torn tail.
-/

namespace RecordLog.Image

variable {image : Image}

/-- A survey gets from a position to a later one and finds the regions between
them. -/
inductive Passes (image : Image) : Nat → Nat → List Region → Prop
  | here {position : Nat} : Passes image position position []
  | record {position stop last : Nat} {payload : List UInt8} {regions : List Region}
      (done : image.read (image.layout.align position) = .ok (payload, stop))
      (onward : Passes image (image.layout.align stop) last regions) :
      Passes image position last
        (.record (image.layout.align position) (image.layout.align stop) :: regions)
  | gap {position found stop last : Nat} {payload : List UInt8} {regions : List Region}
      (inside : image.layout.align position < image.size)
      (unreadable : ¬ image.Readable (image.layout.align position))
      (skipped : image.resync position = .ok (some found))
      (done : image.read found = .ok (payload, stop))
      (onward : Passes image (image.layout.align stop) last regions) :
      Passes image position last
        (.gap position found :: .record found (image.layout.align stop) :: regions)

/-- The last region of a survey that has come to a position: none at the end of
the segment, a torn tail where nothing readable is left. -/
inductive Ends (image : Image) : Nat → List Region → Prop
  | clean {last : Nat} (ended : image.size ≤ image.layout.align last) : Ends image last []
  | torn {last : Nat} (inside : image.layout.align last < image.size)
      (unreadable : ¬ image.Readable (image.layout.align last))
      (skipped : image.resync last = .ok none) : Ends image last [.tail last]

/-! ## The next record -/

theorem next_eq_some_iff {position after : Nat} {record : Record} :
    image.next position = .ok (some (record, after)) ↔
      ∃ stop, image.read (image.layout.align position) = .ok (record.payload, stop) ∧
        record.offset = image.layout.align position ∧ after = image.layout.align stop := by
  constructor
  · intro found
    unfold next at found
    simp only at found
    split at found
    · cases found
    split at found
    · cases found
    · rename_i payload stop done
      cases found
      exact ⟨stop, done, rfl, rfl⟩
  · rintro ⟨stop, done, anchor, rfl⟩
    have inside := image.lt_size_of_read done
    unfold next
    simp only
    rw [if_neg (by omega), done, ← anchor]

theorem next_eq_none_iff {position : Nat} :
    image.next position = .ok none ↔ image.size ≤ image.layout.align position := by
  constructor
  · intro found
    unfold next at found
    simp only at found
    split at found
    · assumption
    split at found
    · cases found
    · cases found
  · intro ended
    unfold next
    exact if_pos ended

theorem exists_next_eq_error_iff {position : Nat} :
    (∃ cause, image.next position = .error cause) ↔
      image.layout.align position < image.size ∧
        ¬ image.Readable (image.layout.align position) := by
  constructor
  · rintro ⟨cause, failed⟩
    unfold next at failed
    simp only at failed
    split at failed
    · cases failed
    rename_i inside
    refine ⟨by omega, ?_⟩
    rintro ⟨payload, stop, done⟩
    rw [done] at failed
    cases failed
  · rintro ⟨inside, unreadable⟩
    unfold next
    simp only
    rw [if_neg (by omega)]
    cases result : image.read (image.layout.align position) with
    | error cause => exact ⟨cause, rfl⟩
    | ok found => exact absurd ⟨found.1, found.2, result⟩ unreadable

theorem isDamage_of_next (whole : image.Whole) (isOpen : image.isOpen = true) {position : Nat}
    {cause : Failure} (failed : image.next position = .error cause) : cause.isDamage = true := by
  unfold next at failed
  simp only at failed
  split at failed
  · cases failed
  split at failed
  · rename_i missing
    cases failed
    exact isDamage_of_read whole isOpen missing
  · cases failed

/-! ## Ways and surveys -/

namespace Passes

theorem trans {position middle last : Nat} {front back : List Region}
    (first : Passes image position middle front) (second : Passes image middle last back) :
    Passes image position last (front ++ back) := by
  induction first with
  | here => exact second
  | record done _ ih => exact .record done (ih second)
  | gap inside unreadable skipped done _ ih =>
      exact .gap inside unreadable skipped done (ih second)

theorem le {position last : Nat} {regions : List Region}
    (way : Passes image position last regions) : position ≤ last := by
  induction way with
  | here => exact Nat.le_refl _
  | @record position stop _ _ _ done _ ih =>
      have := image.layout.le_align position
      have := image.layout.le_align stop
      have := image.lt_stop_of_read done
      omega
  | @gap position found stop _ _ _ _ _ skipped done _ ih =>
      have := image.layout.le_align stop
      have := image.lt_of_resync skipped
      have := image.lt_stop_of_read done
      omega

/-- A survey that gets somewhere stops at the aligned offset after a record. -/
theorem last_eq (whole : image.Whole) {position last : Nat} {regions : List Region}
    (way : Passes image position last regions) :
    last = position ∨ ∃ stop, stop ≤ image.size ∧ last = image.layout.align stop := by
  induction way with
  | here => exact .inl rfl
  | record done _ ih =>
      rcases ih with same | onward
      · exact .inr ⟨_, stop_le_size_of_read whole done, same⟩
      · exact .inr onward
  | gap _ _ _ done _ ih =>
      rcases ih with same | onward
      · exact .inr ⟨_, stop_le_size_of_read whole done, same⟩
      · exact .inr onward

/-- A survey stops at aligned offsets. -/
theorem inPadding_last {position last : Nat} {regions : List Region}
    (way : Passes image position last regions)
    (outside : image.layout.inPadding position = false) :
    image.layout.inPadding last = false := by
  induction way with
  | here => exact outside
  | record _ _ ih => exact ih (image.layout.inPadding_align _)
  | gap _ _ _ _ _ ih => exact ih (image.layout.inPadding_align _)

/-- The records that a survey passes can be read. -/
theorem read_of_mem (whole : image.Whole) (isOpen : image.isOpen = true)
    {position last : Nat} {regions : List Region}
    (way : Passes image position last regions) {start stop : Nat}
    (member : .record start stop ∈ regions) :
    image.layout.inPadding start = false ∧ position ≤ start ∧ stop ≤ last ∧
      ∃ payload recordStop, image.read start = .ok (payload, recordStop) ∧
        image.layout.align recordStop = stop := by
  induction way with
  | here => cases member
  | @record position middle _ _ _ done onward ih =>
      have past := image.lt_stop_of_read done
      have reached := image.layout.le_align position
      have beyond := image.layout.le_align middle
      rcases List.mem_cons.mp member with here | later
      · cases here
        exact ⟨image.layout.inPadding_align position, reached, onward.le, _, _, done, rfl⟩
      · obtain ⟨outside, le, rest⟩ := ih later
        exact ⟨outside, by omega, rest⟩
  | @gap position found middle _ _ _ _ _ skipped done onward ih =>
      have past := image.lt_stop_of_read done
      have reached := image.lt_of_resync skipped
      have beyond := image.layout.le_align middle
      rcases List.mem_cons.mp member with gap | member
      · cases gap
      rcases List.mem_cons.mp member with here | later
      · cases here
        exact ⟨(readable_of_resync whole isOpen skipped).2, by omega, onward.le, _, _, done, rfl⟩
      · obtain ⟨outside, le, rest⟩ := ih later
        exact ⟨outside, by omega, rest⟩

end Passes

/-- A record behind a torn tail begins in a later block, and the search has
gone over that block from its start. -/
theorem missed_of_ends (whole : image.Whole) (isOpen : image.isOpen = true) {last offset : Nat}
    {ending : List Region} (ends : Ends image last ending)
    (outsideLast : image.layout.inPadding last = false)
    (outside : image.layout.inPadding offset = false) (readable : image.Readable offset)
    (behind : last ≤ offset) :
    last < image.size ∧ image.layout.nextBlock last ≤ offset ∧
      image.Walks none (image.layout.blockStart offset) := by
  have inside := lt_size_of_readable readable
  have aligned := image.layout.align_of_not_inPadding outsideLast
  cases ends with
  | clean ended => omega
  | torn _ unreadable skipped =>
      have ne : last ≠ offset := by
        rintro rfl
        rw [aligned] at unreadable
        exact unreadable readable
      have beyond : image.layout.nextBlock last ≤ offset := by
        apply Nat.le_of_not_lt
        intro inBlock
        exact not_readable_of_resync whole isOpen skipped (by omega) inBlock outside (by simp)
          readable
      refine ⟨by omega, beyond, ?_⟩
      have walks := walks_of_resync whole isOpen skipped (by simp)
      have start := image.layout.nextBlock_le_blockStart beyond
      rcases Nat.eq_or_lt_of_le start with same | later
      · rwa [← same]
      · -- the search enters every later block at its start
        have entered := walks.nextBlock whole (image.layout.blockStart offset - 1) (by omega)
        rwa [image.layout.nextBlock_pred_blockStart (by omega)] at entered

private theorem surveyFrom_of_next {position after : Nat} {record : Record}
    (found : image.next position = .ok (some (record, after))) :
    image.surveyFrom position =
      match image.surveyFrom after with
      | .error cause => .error cause
      | .ok regions => .ok (.record record.offset after :: regions) := by
  conv => lhs; rw [surveyFrom]
  split
  · simp_all
  · rename_i again
    rw [found] at again
    cases again
    rfl
  · simp_all

private theorem surveyFrom_of_damage {position : Nat} {cause : Failure} {answer : Option Nat}
    (failed : image.next position = .error cause) (damage : cause.isDamage = true)
    (skipped : image.resync position = .ok answer) :
    image.surveyFrom position =
      match answer with
      | none => .ok [.tail position]
      | some offset =>
          match image.surveyFrom offset with
          | .error cause => .error cause
          | .ok regions => .ok (.gap position offset :: regions) := by
  conv => lhs; rw [surveyFrom]
  split
  · simp_all
  · simp_all
  · rename_i again
    rw [failed] at again
    cases again
    rw [if_pos damage]
    split
    · simp_all
    · rename_i nothing
      rw [skipped] at nothing
      cases nothing
      rfl
    · rename_i offset other
      rw [skipped] at other
      cases other
      rfl

theorem Ends.surveyFrom (whole : image.Whole) (isOpen : image.isOpen = true) {last : Nat}
    {ending : List Region} (ends : Ends image last ending) :
    image.surveyFrom last = .ok ending := by
  cases ends with
  | clean ended =>
      rw [Image.surveyFrom]
      split <;> simp_all [next_eq_none_iff.mpr ended]
  | torn inside unreadable skipped =>
      obtain ⟨cause, failed⟩ := exists_next_eq_error_iff.mpr ⟨inside, unreadable⟩
      rw [surveyFrom_of_damage failed (isDamage_of_next whole isOpen failed) skipped]

/-- A survey finds what is on its way, and then the ending. -/
theorem Passes.surveyFrom (whole : image.Whole) (isOpen : image.isOpen = true)
    {position last : Nat} {regions ending : List Region}
    (way : Passes image position last regions) (ends : Ends image last ending) :
    image.surveyFrom position = .ok (regions ++ ending) := by
  induction way with
  | here => exact ends.surveyFrom whole isOpen
  | @record position stop _ payload _ done _ ih =>
      have found : image.next position =
          .ok (some (⟨image.layout.align position, payload⟩, image.layout.align stop)) :=
        next_eq_some_iff.mpr ⟨stop, done, rfl, rfl⟩
      rw [surveyFrom_of_next found, ih ends]
      rfl
  | @gap position offset stop _ payload _ inside unreadable skipped done _ ih =>
      obtain ⟨cause, failed⟩ := exists_next_eq_error_iff.mpr ⟨inside, unreadable⟩
      have outside := (readable_of_resync whole isOpen skipped).2
      have aligned := image.layout.align_of_not_inPadding outside
      have found : image.next offset = .ok (some (⟨offset, payload⟩, image.layout.align stop)) :=
        next_eq_some_iff.mpr ⟨stop, by rwa [aligned], aligned.symm, rfl⟩
      rw [surveyFrom_of_damage failed (isDamage_of_next whole isOpen failed) skipped]
      simp only
      rw [surveyFrom_of_next found, ih ends]
      rfl

/-- Every survey has a way and an ending. -/
theorem exists_passes (whole : image.Whole) (isOpen : image.isOpen = true) (position : Nat) :
    ∃ last regions ending, Passes image position last regions ∧ Ends image last ending := by
  generalize measure_eq : image.size - position = measure
  induction measure using Nat.strong_induction_on generalizing position with
  | h measure ih =>
      have onward {offset stop : Nat} {payload : List UInt8} (reached : position ≤ offset)
          (done : image.read offset = .ok (payload, stop)) :
          ∃ last regions ending, Passes image (image.layout.align stop) last regions ∧
            Ends image last ending := by
        have := image.lt_size_of_read done
        have := image.lt_stop_of_read done
        have := image.layout.le_align stop
        exact ih (image.size - image.layout.align stop) (by omega) _ rfl
      by_cases inside : image.layout.align position < image.size
      · by_cases readable : image.Readable (image.layout.align position)
        · obtain ⟨payload, stop, done⟩ := readable
          obtain ⟨last, regions, ending, way, ends⟩ := onward (image.layout.le_align position) done
          exact ⟨last, _, ending, .record done way, ends⟩
        · obtain ⟨answer, skipped⟩ := exists_resync whole isOpen position
          cases answer with
          | none => exact ⟨position, [], _, .here, .torn inside readable skipped⟩
          | some found =>
              obtain ⟨⟨payload, stop, done⟩, _⟩ := readable_of_resync whole isOpen skipped
              have past := image.lt_of_resync skipped
              obtain ⟨last, regions, ending, way, ends⟩ := onward (Nat.le_of_lt past) done
              exact ⟨last, _, ending, .gap inside readable skipped done way, ends⟩
      · exact ⟨position, [], [], .here, .clean (by omega)⟩

/-! ## Reports -/

theorem Passes.validLength_getLast? {position last : Nat} {regions : List Region}
    (way : Passes image position last regions) :
    (regions.getLast?.map Region.validLength).getD position = last := by
  have step (region : Region) (regions : List Region) (position : Nat) :
      (((region :: regions).getLast?).map Region.validLength).getD position =
        (regions.getLast?.map Region.validLength).getD region.validLength := by
    rw [List.getLast?_cons]
    cases regions.getLast? <;> rfl
  induction way with
  | here => rfl
  | record _ _ ih => rw [step]; exact ih
  | gap _ _ _ _ _ ih => rw [step, step]; exact ih

/-- What is left valid reaches to the end of the way. -/
theorem validLength_ofRegions {last : Nat} {regions ending : List Region}
    (way : Passes image 0 last regions) (ends : Ends image last ending) (size : Nat) :
    (Report.ofRegions size (regions ++ ending)).validLength = last := by
  cases ends with
  | clean => simpa [Report.ofRegions] using way.validLength_getLast?
  | torn => simp [Report.ofRegions, Region.validLength]

theorem report_of_passes (whole : image.Whole) (isOpen : image.isOpen = true) {last : Nat}
    {regions ending : List Region} (way : Passes image 0 last regions)
    (ends : Ends image last ending) :
    image.report = .ok (.ofRegions image.size (regions ++ ending)) := by
  rw [report, survey, way.surveyFrom whole isOpen ends]

/-! ## Growing files -/

/-- A survey of a longer file leaves the way of one of the shorter file for a
record that ends past the shorter file. What it has passed by then are the
records of the way before that one. -/
structure Diverges (image grown : Image) (position : Nat) (regions : List Region)
    (offset stop : Nat) (passed : List Region) : Prop where
  outside : grown.layout.inPadding offset = false
  le : position ≤ offset
  inside : offset < image.size
  found : ∃ payload, grown.read offset = .ok (payload, stop)
  beyond : image.size < stop
  way : Passes grown position (grown.layout.align stop) passed
  met : ∀ start recordStop, .record start recordStop ∈ regions →
    offset < start ∨ recordStop ≤ offset ∧ .record start recordStop ∈ passed

/-- A survey that goes the same way first diverges later. -/
theorem Diverges.behind {grown : Image} (whole : grown.Whole) (isOpen : grown.isOpen = true)
    {position middle offset stop : Nat} {front regions passed : List Region}
    (diverges : Diverges image grown middle regions offset stop passed)
    (first : Passes grown position middle front) :
    Diverges image grown position (front ++ regions) offset stop (front ++ passed) where
  outside := diverges.outside
  le := Nat.le_trans first.le diverges.le
  inside := diverges.inside
  found := diverges.found
  beyond := diverges.beyond
  way := first.trans diverges.way
  met start recordStop member := by
    rcases List.mem_append.mp member with before | later
    · have ends := (first.read_of_mem whole isOpen before).2.2.1
      exact .inr ⟨Nat.le_trans ends diverges.le, List.mem_append_left _ before⟩
    · rcases diverges.met start recordStop later with after | ⟨earlier, again⟩
      · exact .inl after
      · exact .inr ⟨earlier, List.mem_append_right _ again⟩

/-- A longer file has new records only past the end of the shorter one, so a
survey of it goes the same way unless it finds one of them in a gap. -/
theorem Passes.grow {grown : Image} (grows : Grows image grown) (isOpen : image.isOpen = true)
    {position last : Nat} {regions : List Region} (way : Passes image position last regions) :
    Passes grown position last regions ∨
      ∃ offset stop passed, Diverges image grown position regions offset stop passed := by
  have isOpenGrown : grown.isOpen = true := grows.isOpen_eq.trans isOpen
  have behind {position middle last : Nat} {front regions : List Region}
      (first : Passes grown position middle front)
      (rest : Passes grown middle last regions ∨
        ∃ offset stop passed, Diverges image grown middle regions offset stop passed) :
      Passes grown position last (front ++ regions) ∨
        ∃ offset stop passed, Diverges image grown position (front ++ regions) offset stop
          passed := by
    rcases rest with way | ⟨offset, stop, passed, diverges⟩
    · exact .inl (first.trans way)
    · exact .inr ⟨offset, stop, _, diverges.behind grows.grownWhole isOpenGrown first⟩
  induction way with
  | here => exact .inl .here
  | @record position stop last payload regions done onward ih =>
      have doneGrown := (grows.read_iff.mp done).1
      rw [← grows.layout_eq] at doneGrown ih ⊢
      exact behind (.record doneGrown .here) ih
  | @gap position found stop last payload regions inside unreadable skipped done onward ih =>
      have size_le := grows.size_le
      have past := image.lt_of_resync skipped
      have foundInside := image.lt_size_of_read done
      have outside := (readable_of_resync grows.whole isOpen skipped).2
      have after : ∀ start recordStop,
          .record start recordStop ∈ .gap position found ::
            .record found (image.layout.align stop) :: regions → found ≤ start := by
        intro start recordStop member
        rcases List.mem_cons.mp member with gap | member
        · cases gap
        rcases List.mem_cons.mp member with here | later
        · cases here
          exact Nat.le_refl _
        · have := (onward.read_of_mem grows.whole isOpen later).2.1
          have := image.layout.le_align stop
          have := image.lt_stop_of_read done
          omega
      by_cases new : grown.Readable (grown.layout.align position)
      · -- the longer file has a record at the damage itself
        obtain ⟨newPayload, newStop, newDone⟩ := new
        rw [← grows.layout_eq] at inside unreadable outside
        have le := grown.layout.align_le (Nat.le_of_lt past) outside
        have ne : grown.layout.align position ≠ found := by
          intro same
          rw [same] at unreadable
          exact unreadable ⟨payload, stop, done⟩
        have before := Nat.lt_of_le_of_ne le ne
        refine .inr ⟨_, newStop, _, grown.layout.inPadding_align position,
          grown.layout.le_align position, Nat.lt_trans before foundInside, ⟨_, newDone⟩,
          grows.size_lt_of_read newDone unreadable, .record newDone .here, ?_⟩
        intro start recordStop member
        exact .inl (Nat.lt_of_lt_of_le before (after start recordStop member))
      obtain ⟨first, again, same | ⟨before, missing⟩⟩ := grows.resync isOpen skipped
      · subst same
        have doneGrown := (grows.read_iff.mp done).1
        rw [← grows.layout_eq] at ih inside ⊢
        exact behind (.gap (Nat.lt_of_lt_of_le inside size_le) new again doneGrown .here) ih
      · -- the longer file has a record further on in the gap
        obtain ⟨⟨newPayload, newStop, newDone⟩, outsideFirst⟩ :=
          readable_of_resync grows.grownWhole isOpenGrown again
        rw [← grows.layout_eq] at inside
        refine .inr ⟨first, newStop, _, outsideFirst, Nat.le_of_lt (grown.lt_of_resync again),
          Nat.lt_trans before foundInside, ⟨_, newDone⟩, grows.size_lt_of_read newDone missing,
          .gap (Nat.lt_of_lt_of_le inside size_le) new again newDone .here, ?_⟩
        intro start recordStop member
        exact .inl (Nat.lt_of_lt_of_le before (after start recordStop member))

/-- What a survey of a longer file passes is passed in any shorter one that
holds the whole way. -/
theorem Passes.shrink {grown : Image} (grows : Grows image grown) (isOpen : image.isOpen = true)
    {position last : Nat} {regions : List Region} (way : Passes grown position last regions)
    (fits : last ≤ image.size) : Passes image position last regions := by
  have isOpenGrown : grown.isOpen = true := grows.isOpen_eq.trans isOpen
  induction way with
  | here => exact .here
  | @record position stop last payload regions done onward ih =>
      have := grown.layout.le_align stop
      have := onward.le
      have doneImage := grows.read_iff.mpr ⟨done, by omega⟩
      rw [grows.layout_eq] at doneImage ih ⊢
      exact .record doneImage (ih fits)
  | @gap position found stop last payload regions inside unreadable skipped done onward ih =>
      have := grown.layout.le_align stop
      have := onward.le
      have := grown.lt_stop_of_read done
      have past := grown.lt_of_resync skipped
      have outside := (readable_of_resync grows.grownWhole isOpenGrown skipped).2
      have := grown.layout.align_le (Nat.le_of_lt past) outside
      have doneImage := grows.read_iff.mpr ⟨done, by omega⟩
      have skippedImage := grows.resync_back isOpen skipped ⟨payload, stop, doneImage⟩
      rw [grows.layout_eq] at unreadable ih this ⊢
      exact .gap (by omega) (mt grows.readable unreadable) skippedImage doneImage (ih fits)

/-! ## Written payloads -/

/-- The regions of some payloads written from an offset on. -/
def writtenRegions (layout : Layout) (offset : Nat) : List (List UInt8) → List Region
  | [] => []
  | payload :: rest =>
      .record (layout.align offset) (layout.frame offset payload).stop ::
        writtenRegions layout (layout.frame offset payload).stop rest

@[simp]
theorem writtenRegions_nil (layout : Layout) (offset : Nat) :
    writtenRegions layout offset [] = [] :=
  (rfl)

@[simp]
theorem writtenRegions_cons (layout : Layout) (offset : Nat) (payload : List UInt8)
    (rest : List (List UInt8)) :
    writtenRegions layout offset (payload :: rest) =
      .record (layout.align offset) (layout.frame offset payload).stop ::
        writtenRegions layout (layout.frame offset payload).stop rest :=
  (rfl)

theorem isRecord_of_mem_writtenRegions {layout : Layout} {offset : Nat}
    {payloads : List (List UInt8)} {region : Region}
    (member : region ∈ writtenRegions layout offset payloads) : region.isRecord = true := by
  induction payloads generalizing offset with
  | nil => cases member
  | cons payload rest ih =>
      rcases List.mem_cons.mp member with here | later
      · rw [here]
        rfl
      · exact ih later

/-- There are as many regions as payloads, all of them records. -/
theorem countP_writtenRegions (layout : Layout) (offset : Nat) (payloads : List (List UInt8)) :
    (writtenRegions layout offset payloads).countP Region.isRecord = payloads.length := by
  induction payloads generalizing offset with
  | nil => rfl
  | cons payload rest ih =>
      rw [writtenRegions_cons, List.countP_cons_of_pos rfl, ih, List.length_cons]

/-- Every record that was written is a region of its own. -/
theorem exists_mem_writtenRegions {layout : Layout} {offset : Nat} {payloads : List (List UInt8)}
    {record : Record} (member : record ∈ layout.writtenRecords offset payloads) :
    ∃ stop, .record record.offset stop ∈ writtenRegions layout offset payloads := by
  induction payloads generalizing offset with
  | nil => cases member
  | cons payload rest ih =>
      rw [writtenRegions_cons]
      rcases List.mem_cons.mp member with here | later
      · subst here
        exact ⟨_, List.mem_cons_self⟩
      · obtain ⟨stop, found⟩ := ih later
        exact ⟨stop, List.mem_cons_of_mem _ found⟩

/-- A survey passes the payloads that can be read one by one. -/
theorem Carries.passes {offset : Nat} {payloads : List (List UInt8)}
    (carries : image.Carries offset payloads) :
    Passes image (image.layout.align offset)
      (image.layout.align (image.layout.writtenStop offset payloads))
      (writtenRegions image.layout offset payloads) := by
  induction payloads generalizing offset with
  | nil => exact .here
  | cons payload rest ih =>
      obtain ⟨done, onward⟩ := carries_cons_iff.mp carries
      have aligned := image.layout.align_of_not_inPadding
        (image.layout.inPadding_frame_stop offset payload)
      have way := ih onward
      rw [writtenRegions_cons, Layout.writtenStop_cons]
      rw [aligned, Layout.frame_stop] at way
      rw [Layout.frame_stop]
      rw [← image.layout.align_align offset] at done
      have passed := Passes.record done way
      rwa [image.layout.align_align] at passed

end RecordLog.Image
