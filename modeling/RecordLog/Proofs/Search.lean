import RecordLog.Image.Survey
import RecordLog.Proofs.Blocks
import RecordLog.Proofs.Reading

/-!
# What the search after damage finds

On an open image whose bytes are all there the search never fails, and what it
finds can be read. In the block of the damage it is exhaustive: it answers the
first readable offset of the block. In later blocks it sees the offsets that
its walk over chunks comes by, and a walk that finds nothing has entered every
later block at its start.
-/

namespace RecordLog.Image

variable {image : Image}

/-! ## Single offsets -/

/-- On an open image every offset is readable or not. -/
theorem isReadable_eq (whole : image.Whole) (isOpen : image.isOpen = true) (offset : Nat) :
    image.isReadable offset = .ok true ∧ image.Readable offset ∨
      image.isReadable offset = .ok false ∧ ¬ image.Readable offset := by
  unfold isReadable Readable
  cases result : image.read offset with
  | ok found => exact .inl ⟨rfl, found.1, found.2, rfl⟩
  | error cause =>
      refine .inr ⟨?_, ?_⟩
      · simp [isDamage_of_read whole isOpen result]
      · rintro ⟨payload, stop, done⟩
        cases done

theorem isReadable_eq_true_iff (whole : image.Whole) (isOpen : image.isOpen = true) {offset : Nat} :
    image.isReadable offset = .ok true ↔ image.Readable offset := by
  rcases isReadable_eq whole isOpen offset with ⟨result, readable⟩ | ⟨result, unreadable⟩
  · simp [result, readable]
  · simp [result, unreadable]

theorem isReadable_eq_false_iff (whole : image.Whole) (isOpen : image.isOpen = true)
    {offset : Nat} :
    image.isReadable offset = .ok false ↔ ¬ image.Readable offset := by
  rcases isReadable_eq whole isOpen offset with ⟨result, readable⟩ | ⟨result, unreadable⟩
  · simp [result, readable]
  · simp [result, unreadable]

theorem lt_size_of_readable {offset : Nat} (readable : image.Readable offset) :
    offset < image.size := by
  obtain ⟨payload, stop, done⟩ := readable
  exact image.lt_size_of_read done

/-- A record starts with a chunk that starts one. -/
theorem startsRecord_of_readable {offset : Nat} {chunk : Chunk}
    (outside : image.layout.inPadding offset = false) (found : image.chunkAt offset = .ok chunk)
    (readable : image.Readable offset) : chunk.kind.startsRecord = true := by
  obtain ⟨payload, stop, done⟩ := readable
  obtain ⟨first, again, starts⟩ := (collects_of_read done).exists_first
  rw [image.layout.align_of_not_inPadding outside, found] at again
  cases again
  exact starts

/-! ## The block of the damage -/

/-- The search by bytes comes to an answer. -/
theorem exists_findByByte (whole : image.Whole) (isOpen : image.isOpen = true)
    (limit offset : Nat) : ∃ answer, image.findByByte limit offset = .ok answer := by
  fun_induction findByByte image limit offset with
  | case1 _ _ _ ih => exact ih
  | case2 offset _ _ cause failed =>
      rcases isReadable_eq whole isOpen offset with ⟨result, _⟩ | ⟨result, _⟩ <;>
        · rw [result] at failed
          cases failed
  | case3 offset => exact ⟨_, rfl⟩
  | case4 _ _ _ _ ih => exact ih
  | case5 => exact ⟨_, rfl⟩

/-- What the search by bytes finds is the first readable offset. -/
theorem readable_of_findByByte (whole : image.Whole) (isOpen : image.isOpen = true)
    {limit offset found : Nat} (done : image.findByByte limit offset = .ok (some found)) :
    image.Readable found ∧ image.layout.inPadding found = false ∧ found < limit ∧
      ∀ before, offset ≤ before → before < found → ¬ image.Readable before := by
  have skip {offset : Nat} (unreadable : ¬ image.Readable offset)
      (onward : ∀ before, offset + 1 ≤ before → before < found → ¬ image.Readable before) :
      ∀ before, offset ≤ before → before < found → ¬ image.Readable before := by
    intro before le lt
    rcases Nat.eq_or_lt_of_le le with here | later
    · rwa [← here]
    · exact onward before later lt
  fun_induction findByByte image limit offset with
  | case1 offset within nothing ih =>
      obtain ⟨readable, outside, inLimit, first⟩ := ih done
      have unreadable := (isReadable_eq_false_iff whole isOpen).mp
        (image.isReadable_of_startsNothing within.2 nothing)
      exact ⟨readable, outside, inLimit, skip unreadable first⟩
  | case2 => cases done
  | case3 offset within _ result =>
      cases done
      have readable := (isReadable_eq_true_iff whole isOpen).mp result
      refine ⟨readable, within.2, within.1, ?_⟩
      intro before le lt
      omega
  | case4 offset within _ result ih =>
      obtain ⟨readable, outside, inLimit, first⟩ := ih done
      have unreadable := (isReadable_eq_false_iff whole isOpen).mp result
      exact ⟨readable, outside, inLimit, skip unreadable first⟩
  | case5 => cases done

/-- Where the search by bytes finds nothing, nothing in the block is
readable. -/
theorem not_readable_of_findByByte (whole : image.Whole) (isOpen : image.isOpen = true)
    {limit offset later : Nat} (done : image.findByByte limit offset = .ok none)
    (le : offset ≤ later) (lt : later < limit) (inBlock : later < image.layout.nextBlock offset)
    (outside : image.layout.inPadding later = false) : ¬ image.Readable later := by
  fun_induction findByByte image limit offset with
  | case1 offset within nothing ih =>
      rcases Nat.eq_or_lt_of_le le with here | onward
      · rw [← here]
        exact (isReadable_eq_false_iff whole isOpen).mp
          (image.isReadable_of_startsNothing within.2 nothing)
      · apply ih done onward
        rwa [image.layout.nextBlock_eq_of_lt (Nat.le_succ offset) (by omega)]
  | case2 => cases done
  | case3 => cases done
  | case4 offset within _ result ih =>
      rcases Nat.eq_or_lt_of_le le with here | onward
      · rw [← here]
        exact (isReadable_eq_false_iff whole isOpen).mp result
      · apply ih done onward
        rwa [image.layout.nextBlock_eq_of_lt (Nat.le_succ offset) (by omega)]
  | case5 offset ended =>
      have padded : image.layout.inPadding offset = true := by
        apply eq_true_of_ne_false
        intro unpadded
        exact ended ⟨by omega, unpadded⟩
      rw [image.layout.inPadding_of_le le inBlock padded] at outside
      cases outside

/-! ## Later blocks -/

/-- The walk over chunks comes to an answer. -/
theorem exists_findByChunk (whole : image.Whole) (isOpen : image.isOpen = true) (offset : Nat) :
    ∃ answer, image.findByChunk offset = .ok answer := by
  fun_induction findByChunk image offset with
  | case1 _ _ _ ih => exact ih
  | case2 _ _ _ _ _ _ ih => exact ih
  | case3 offset _ _ cause failed foreign =>
      exact absurd (image.isDamage_of_chunkAt whole failed) foreign
  | case4 offset _ _ _ _ _ cause failed =>
      rcases isReadable_eq whole isOpen offset with ⟨result, _⟩ | ⟨result, _⟩ <;>
        · rw [result] at failed
          cases failed
  | case5 => exact ⟨_, rfl⟩
  | case6 _ _ _ _ _ _ _ ih => exact ih
  | case7 _ _ _ _ _ _ ih => exact ih
  | case8 => exact ⟨_, rfl⟩

/-- The walk ends at the end of the segment. -/
theorem findByChunk_of_size_le {offset : Nat} (ended : image.size ≤ offset) :
    image.findByChunk offset = .ok none := by
  rw [findByChunk, if_neg (by omega)]

/-- The walk skips padding. -/
theorem findByChunk_of_inPadding {offset : Nat} (padded : image.layout.inPadding offset = true) :
    image.findByChunk offset = image.findByChunk (image.layout.nextBlock offset) := by
  by_cases inside : offset < image.size
  · rw [findByChunk, if_pos inside, if_pos padded]
  · have := image.layout.lt_nextBlock offset
    rw [findByChunk_of_size_le (by omega), findByChunk_of_size_le (by omega)]

/-- The walk gives up a block at an offset where there is no chunk. -/
theorem findByChunk_of_error (whole : image.Whole) {offset : Nat} {cause : Failure}
    (failed : image.chunkAt offset = .error cause) :
    image.findByChunk offset = image.findByChunk (image.layout.nextBlock offset) := by
  by_cases padded : image.layout.inPadding offset = true
  · exact findByChunk_of_inPadding padded
  by_cases inside : offset < image.size
  · rw [findByChunk, if_pos inside, if_neg padded]
    simp only [failed]
    rw [if_pos (image.isDamage_of_chunkAt whole failed)]
  · have := image.layout.lt_nextBlock offset
    rw [findByChunk_of_size_le (by omega), findByChunk_of_size_le (by omega)]

/-- The walk passes over a chunk at which no record can be read. -/
theorem findByChunk_of_chunkAt (whole : image.Whole) (isOpen : image.isOpen = true)
    {offset : Nat} {chunk : Chunk} (outside : image.layout.inPadding offset = false)
    (found : image.chunkAt offset = .ok chunk) (unreadable : ¬ image.Readable offset) :
    image.findByChunk offset = image.findByChunk (offset + chunk.size) := by
  have inside := image.offset_lt_size_of_chunkAt found
  conv => lhs; rw [findByChunk]
  rw [if_pos inside, outside, if_neg (by simp)]
  simp only [found, (isReadable_eq_false_iff whole isOpen).mpr unreadable]
  split <;> rfl

/-- The walk ends where a record can be read. -/
theorem findByChunk_of_readable (whole : image.Whole) (isOpen : image.isOpen = true)
    {offset : Nat} (outside : image.layout.inPadding offset = false)
    (readable : image.Readable offset) : image.findByChunk offset = .ok (some offset) := by
  have inside := lt_size_of_readable readable
  obtain ⟨payload, stop, done⟩ := readable
  obtain ⟨chunk, found, starts⟩ := (collects_of_read done).exists_first
  rw [image.layout.align_of_not_inPadding outside] at found
  rw [findByChunk, if_pos inside, outside, if_neg (by simp)]
  have complete := (isReadable_eq_true_iff whole isOpen).mpr ⟨payload, stop, done⟩
  simp only [found, starts, if_true, complete]

/-- A walk over chunks from an offset, and its answer. It leaves a block at its
padding and where there is no chunk, passes over chunks at which no record can
be read, and stops at the first record. -/
inductive Walks (image : Image) (answer : Option Nat) : Nat → Prop
  | ended {offset : Nat} (past : image.size ≤ offset) (nothing : answer = none) :
      Walks image answer offset
  | block {offset : Nat} (stuck : image.layout.inPadding offset = true ∨
      ∃ cause, image.chunkAt offset = .error cause)
      (onward : Walks image answer (image.layout.nextBlock offset)) : Walks image answer offset
  | chunk {offset : Nat} {chunk : Chunk} (outside : image.layout.inPadding offset = false)
      (found : image.chunkAt offset = .ok chunk) (unreadable : ¬ image.Readable offset)
      (onward : Walks image answer (offset + chunk.size)) : Walks image answer offset
  | record {offset : Nat} (outside : image.layout.inPadding offset = false)
      (readable : image.Readable offset) (same : answer = some offset) : Walks image answer offset

theorem walks_of_findByChunk (whole : image.Whole) (isOpen : image.isOpen = true) {offset : Nat}
    {answer : Option Nat} (done : image.findByChunk offset = .ok answer) :
    image.Walks answer offset := by
  fun_induction findByChunk image offset with
  | case1 _ _ padded ih => exact .block (.inl padded) (ih done)
  | case2 _ _ _ cause failed _ ih => exact .block (.inr ⟨cause, failed⟩) (ih done)
  | case3 => cases done
  | case4 => cases done
  | case5 _ _ outside _ _ _ result =>
      cases done
      exact .record (eq_false_of_ne_true outside) ((isReadable_eq_true_iff whole isOpen).mp result)
        rfl
  | case6 _ _ outside _ found _ result ih =>
      exact .chunk (eq_false_of_ne_true outside) found
        ((isReadable_eq_false_iff whole isOpen).mp result) (ih done)
  | case7 _ _ outside _ found continues ih =>
      refine .chunk (eq_false_of_ne_true outside) found ?_ (ih done)
      intro readable
      exact continues (startsRecord_of_readable (eq_false_of_ne_true outside) found readable)
  | case8 _ ended =>
      cases done
      exact .ended (Nat.not_lt.mp ended) rfl

namespace Walks

variable {answer : Option Nat} {offset : Nat}

theorem findByChunk (whole : image.Whole) (isOpen : image.isOpen = true)
    (walks : image.Walks answer offset) : image.findByChunk offset = .ok answer := by
  induction walks with
  | ended past nothing => rw [findByChunk_of_size_le past, nothing]
  | block stuck _ ih =>
      rcases stuck with padded | ⟨cause, failed⟩
      · rw [findByChunk_of_inPadding padded, ih]
      · rw [findByChunk_of_error whole failed, ih]
  | chunk outside found unreadable _ ih =>
      rw [findByChunk_of_chunkAt whole isOpen outside found unreadable, ih]
  | record outside readable same =>
      rw [findByChunk_of_readable whole isOpen outside readable, same]

/-- What a walk finds is readable, and not behind its start. -/
theorem readable (walks : image.Walks answer offset) {found : Nat} (same : answer = some found) :
    image.Readable found ∧ image.layout.inPadding found = false ∧ offset ≤ found := by
  induction walks with
  | ended _ nothing =>
      rw [same] at nothing
      cases nothing
  | @block offset _ _ ih =>
      obtain ⟨readable, outside, le⟩ := ih
      exact ⟨readable, outside, Nat.le_trans (Nat.le_of_lt (image.layout.lt_nextBlock offset)) le⟩
  | chunk _ _ _ _ ih =>
      obtain ⟨readable, outside, le⟩ := ih
      exact ⟨readable, outside, Nat.le_trans (Nat.le_add_right _ _) le⟩
  | record outside readable here =>
      rw [same] at here
      cases here
      exact ⟨readable, outside, Nat.le_refl _⟩

private theorem entered_of_reached {reach : Nat} (forward : offset ≤ reach)
    (inBlock : reach ≤ image.layout.nextBlock offset) (walks : image.Walks none reach)
    (onward : ∀ later, reach ≤ later → image.Walks none (image.layout.nextBlock later))
    {later : Nat} (le : offset ≤ later) : image.Walks none (image.layout.nextBlock later) := by
  by_cases beyond : reach ≤ later
  · exact onward later beyond
  · rw [image.layout.nextBlock_eq_of_lt le (by omega)]
    rcases Nat.eq_or_lt_of_le inBlock with boundary | inside
    · rwa [← boundary]
    · rw [← image.layout.nextBlock_eq_of_lt forward inside]
      exact onward reach (Nat.le_refl _)

/-- A walk that finds nothing has entered every later block at its start. -/
theorem nextBlock (whole : image.Whole) (walks : image.Walks none offset) :
    ∀ later, offset ≤ later → image.Walks none (image.layout.nextBlock later) := by
  induction walks with
  | ended past _ =>
      intro later le
      have forward := image.layout.lt_nextBlock later
      exact .ended (Nat.le_trans past (Nat.le_of_lt (Nat.lt_of_le_of_lt le forward))) rfl
  | @block offset _ onward ih =>
      have forward := Nat.le_of_lt (image.layout.lt_nextBlock offset)
      exact fun later le => entered_of_reached forward (Nat.le_refl _) onward ih le
  | chunk _ found _ onward ih =>
      have inBlock := stop_le_nextBlock_of_chunkAt whole found
      exact fun later le => entered_of_reached (Nat.le_add_right _ _) inBlock onward ih le
  | record _ _ same => cases same

end Walks

/-! ## The search -/

/-- The search after damage comes to an answer. -/
theorem exists_resync (whole : image.Whole) (isOpen : image.isOpen = true) (damaged : Nat) :
    ∃ answer, image.resync damaged = .ok answer := by
  unfold resync
  obtain ⟨answer, result⟩ := exists_findByByte whole isOpen
    (min (image.layout.nextBlock damaged) image.size) (damaged + 1)
  simp only [result]
  cases answer with
  | some found => exact ⟨_, rfl⟩
  | none => exact exists_findByChunk whole isOpen _

/-- What the search finds can be read. -/
theorem readable_of_resync (whole : image.Whole) (isOpen : image.isOpen = true)
    {damaged found : Nat} (done : image.resync damaged = .ok (some found)) :
    image.Readable found ∧ image.layout.inPadding found = false := by
  unfold resync at done
  simp only at done
  split at done
  · cases done
  · rename_i result
    cases done
    obtain ⟨readable, outside, _⟩ := readable_of_findByByte whole isOpen result
    exact ⟨readable, outside⟩
  · obtain ⟨readable, outside, _⟩ := (walks_of_findByChunk whole isOpen done).readable rfl
    exact ⟨readable, outside⟩

/-- In the block of the damage nothing before what is found can be read. -/
theorem not_readable_of_resync (whole : image.Whole) (isOpen : image.isOpen = true)
    {damaged : Nat} {answer : Option Nat} (done : image.resync damaged = .ok answer) {later : Nat}
    (lt : damaged < later) (inBlock : later < image.layout.nextBlock damaged)
    (outside : image.layout.inPadding later = false) (before : ∀ found ∈ answer, later < found) :
    ¬ image.Readable later := by
  intro readable
  have inSize := lt_size_of_readable readable
  unfold resync at done
  simp only at done
  split at done
  · cases done
  · rename_i found result
    cases done
    obtain ⟨_, _, _, first⟩ := readable_of_findByByte whole isOpen result
    exact first later lt (before found rfl) readable
  · rename_i result
    refine not_readable_of_findByByte whole isOpen result lt (by omega) ?_ outside readable
    rwa [image.layout.nextBlock_eq_of_lt (Nat.le_succ damaged) (by omega)]

/-- What is found past the block of the damage is found by a walk over
chunks. -/
theorem walks_of_resync (whole : image.Whole) (isOpen : image.isOpen = true) {damaged : Nat}
    {answer : Option Nat} (done : image.resync damaged = .ok answer)
    (beyond : ∀ found ∈ answer, image.layout.nextBlock damaged ≤ found) :
    image.Walks answer (image.layout.nextBlock damaged) := by
  unfold resync at done
  simp only at done
  split at done
  · cases done
  · rename_i found result
    cases done
    obtain ⟨_, _, inBlock, _⟩ := readable_of_findByByte whole isOpen result
    have := beyond found rfl
    omega
  · exact walks_of_findByChunk whole isOpen done

/-! ## Growing files -/

namespace Grows

variable {grown : Image}

/-- A walk that finds a record in the shorter file finds the same in the
longer one, or comes by a new record before. -/
theorem walks (grows : Grows image grown) {offset found : Nat}
    (walks : image.Walks (some found) offset) :
    ∃ first, grown.Walks (some first) offset ∧
      (first = found ∨ first < found ∧ ¬ image.Readable first) := by
  induction walks with
  | ended _ nothing => cases nothing
  | @block offset stuck onward ih =>
      obtain ⟨first, again, outcome⟩ := ih
      rw [← grows.layout_eq] at again
      refine ⟨first, .block ?_ again, outcome⟩
      rcases stuck with padded | ⟨cause, failed⟩
      · rw [grows.layout_eq]
        exact .inl padded
      · right
        cases result : grown.chunkAt offset with
        | error other => exact ⟨other, rfl⟩
        | ok chunk =>
            -- a chunk that only the longer file has leaves nothing to find behind it
            obtain ⟨readable, _, reached⟩ := onward.readable rfl
            have inside := lt_size_of_readable readable
            have inBlock := stop_le_nextBlock_of_chunkAt grows.grownWhole result
            rw [grows.layout_eq] at inBlock
            rw [grows.chunkAt_iff.mpr ⟨result, by omega⟩] at failed
            cases failed
  | @chunk offset chunk outside result unreadable onward ih =>
      rw [← grows.layout_eq] at outside
      by_cases new : grown.Readable offset
      · have forward := (onward.readable rfl).2.2
        simp only [Chunk.size, headerSize] at forward
        exact ⟨offset, .record outside new rfl, .inr ⟨by omega, unreadable⟩⟩
      · obtain ⟨first, again, outcome⟩ := ih
        exact ⟨first, .chunk outside (grows.chunkAt_iff.mp result).1 new again, outcome⟩
  | record outside readable same =>
      cases same
      rw [← grows.layout_eq] at outside
      exact ⟨_, .record outside (grows.readable readable) rfl, .inl rfl⟩

/-- A walk over the longer file that finds a record of the shorter one finds
it there too. -/
theorem walks_back (grows : Grows image grown) {offset found : Nat}
    (walks : grown.Walks (some found) offset) (readable : image.Readable found) :
    image.Walks (some found) offset := by
  have inside := lt_size_of_readable readable
  induction walks with
  | ended _ nothing => cases nothing
  | block stuck _ ih =>
      rw [grows.layout_eq] at stuck ih
      refine .block ?_ ih
      rcases stuck with padded | ⟨cause, failed⟩
      · exact .inl padded
      · right
        cases result : image.chunkAt _ with
        | error other => exact ⟨other, rfl⟩
        | ok chunk =>
            rw [(grows.chunkAt_iff.mp result).1] at failed
            cases failed
  | chunk outside result unreadable onward ih =>
      have forward := (onward.readable rfl).2.2
      rw [grows.layout_eq] at outside
      exact .chunk outside (grows.chunkAt_iff.mpr ⟨result, by omega⟩) (mt grows.readable unreadable)
        ih
  | record outside _ same =>
      cases same
      rw [grows.layout_eq] at outside
      exact .record outside readable rfl

/-- A search that finds a record in the shorter file finds the same in the
longer one, or a new record before it. -/
theorem resync (grows : Grows image grown) (isOpen : image.isOpen = true)
    {damaged found : Nat} (done : image.resync damaged = .ok (some found)) :
    ∃ first, grown.resync damaged = .ok (some first) ∧
      (first = found ∨ first < found ∧ ¬ image.Readable first) := by
  have isOpenGrown : grown.isOpen = true := grows.isOpen_eq.trans isOpen
  have past := image.lt_of_resync done
  obtain ⟨readable, outside⟩ := readable_of_resync grows.whole isOpen done
  obtain ⟨answer, result⟩ := exists_findByByte grows.grownWhole isOpenGrown
    (min (grown.layout.nextBlock damaged) grown.size) (damaged + 1)
  cases answer with
  | some first =>
      have near := grown.le_of_findByByte result
      obtain ⟨_, outsideFirst, inLimit, smallest⟩ :=
        readable_of_findByByte grows.grownWhole isOpenGrown result
      refine ⟨first, by simp only [Image.resync, result], ?_⟩
      rcases Nat.lt_trichotomy first found with before | same | after
      · refine .inr ⟨before, ?_⟩
        refine not_readable_of_resync grows.whole isOpen done near ?_ ?_ (by simpa using before)
        · rw [← grows.layout_eq]
          omega
        · rwa [← grows.layout_eq]
      · exact .inl same
      · exact absurd (grows.readable readable) (smallest found past after)
  | none =>
      have resumed : image.findByChunk (image.layout.nextBlock damaged) = .ok (some found) := by
        unfold Image.resync at done
        simp only at done
        split at done
        · cases done
        · rename_i near
          cases done
          obtain ⟨_, _, inLimit, _⟩ := readable_of_findByByte grows.whole isOpen near
          have inSize := grows.size_le
          rw [← grows.layout_eq] at inLimit outside
          have unreadable := not_readable_of_findByByte grows.grownWhole isOpenGrown result past
            (by omega)
          refine absurd (grows.readable readable) (unreadable ?_ outside)
          rw [grown.layout.nextBlock_eq_of_lt (Nat.le_succ damaged) (by omega)]
          omega
        · exact done
      obtain ⟨first, walks, outcome⟩ :=
        grows.walks (walks_of_findByChunk grows.whole isOpen resumed)
      rw [← grows.layout_eq] at walks
      refine ⟨first, ?_, outcome⟩
      simp only [Image.resync, result, walks.findByChunk grows.grownWhole isOpenGrown]

/-- A search in the longer file that finds a record of the shorter one finds
it there too. -/
theorem resync_back (grows : Grows image grown) (isOpen : image.isOpen = true)
    {damaged found : Nat} (done : grown.resync damaged = .ok (some found))
    (readable : image.Readable found) : image.resync damaged = .ok (some found) := by
  have isOpenGrown : grown.isOpen = true := grows.isOpen_eq.trans isOpen
  have past := grown.lt_of_resync done
  have outside := (readable_of_resync grows.grownWhole isOpenGrown done).2
  have inSize := lt_size_of_readable readable
  obtain ⟨answer, result⟩ := exists_findByByte grows.whole isOpen
    (min (image.layout.nextBlock damaged) image.size) (damaged + 1)
  cases answer with
  | some first =>
      have near := image.le_of_findByByte result
      obtain ⟨readableFirst, outsideFirst, inLimit, smallest⟩ :=
        readable_of_findByByte grows.whole isOpen result
      have same : first = found := by
        rcases Nat.lt_trichotomy first found with before | same | after
        · apply absurd (grows.readable readableFirst)
          refine not_readable_of_resync grows.grownWhole isOpenGrown done near ?_ ?_
            (by simpa using before)
          · rw [grows.layout_eq]
            omega
          · rwa [grows.layout_eq]
        · exact same
        · exact absurd readable (smallest found past after)
      rw [Image.resync]
      simp only [result, same]
  | none =>
      have resumed : grown.findByChunk (grown.layout.nextBlock damaged) = .ok (some found) := by
        unfold Image.resync at done
        simp only at done
        split at done
        · cases done
        · rename_i near
          cases done
          obtain ⟨_, _, inLimit, _⟩ := readable_of_findByByte grows.grownWhole isOpenGrown near
          rw [grows.layout_eq] at inLimit outside
          refine absurd readable
            (not_readable_of_findByByte grows.whole isOpen result past (by omega) ?_ outside)
          rw [image.layout.nextBlock_eq_of_lt (Nat.le_succ damaged) (by omega)]
          omega
        · exact done
      have walks := grows.walks_back (walks_of_findByChunk grows.grownWhole isOpenGrown resumed)
        readable
      rw [grows.layout_eq] at walks
      simp only [Image.resync, result, walks.findByChunk grows.whole isOpen]

end Grows

end RecordLog.Image
