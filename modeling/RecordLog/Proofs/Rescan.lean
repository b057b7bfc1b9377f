import RecordLog.Proofs.Passage

/-!
# Scanning a file again

A scan that succeeds goes from record to record up to the aligned end of the
segment. Later the same file may be seen at another size: in its whole length,
or cut where a survey of it ends. The records up to the first end are found
again, so the scan gives the same list exactly if it stops there again.
-/

namespace RecordLog.Image

variable {image : Image}

/-- A scan gets from a position to a later one and finds the records between
them. -/
inductive Scans (image : Image) : Nat → List Record → Nat → Prop
  | here {position : Nat} : Scans image position [] position
  | record {position stop last : Nat} {payload : List UInt8} {records : List Record}
      (done : image.read (image.layout.align position) = .ok (payload, stop))
      (onward : Scans image (image.layout.align stop) records last) :
      Scans image position (⟨image.layout.align position, payload⟩ :: records) last

theorem exists_scans_iff {position : Nat} {records : List Record} :
    image.recordsFrom position = (records, none) ↔
      ∃ last, image.Scans position records last ∧ image.size ≤ image.layout.align last := by
  constructor
  · intro found
    fun_induction recordsFrom image position generalizing records with
    | case1 => cases found
    | case2 position nothing =>
        cases found
        exact ⟨position, .here, next_eq_none_iff.mp nothing⟩
    | case3 position record after next later ending rest ih =>
        obtain ⟨offset, payload⟩ := record
        cases found
        obtain ⟨stop, done, anchor, rfl⟩ := next_eq_some_iff.mp next
        obtain ⟨last, onward, ended⟩ := ih rest
        simp only at done anchor
        subst anchor
        exact ⟨last, .record done onward, ended⟩
  · rintro ⟨last, scans, ended⟩
    induction scans with
    | here => exact recordsFrom_of_size_le ended
    | record done _ ih => rw [recordsFrom_of_read done, ih ended]

namespace Scans

variable {position last : Nat} {records : List Record}

/-- A scan that gets somewhere stops at the aligned offset after a record. -/
theorem last_eq (whole : image.Whole) (scans : image.Scans position records last) :
    last = position ∨ ∃ stop, stop ≤ image.size ∧ last = image.layout.align stop := by
  induction scans with
  | here => exact .inl rfl
  | record done _ ih =>
      rcases ih with same | onward
      · exact .inr ⟨_, stop_le_size_of_read whole done, same⟩
      · exact .inr onward

/-- The records found tell where a scan stops. -/
theorem last_unique {other : Nat} (first : image.Scans position records last)
    (second : image.Scans position records other) : last = other := by
  induction first with
  | here =>
      cases second
      rfl
  | record done _ ih =>
      cases second with
      | record again onward =>
          rw [done] at again
          cases again
          exact ih onward

/-- A scan finds in a longer file what it found in a shorter one. -/
theorem grow {grown : Image} (grows : Grows image grown)
    (scans : image.Scans position records last) : grown.Scans position records last := by
  induction scans with
  | here => exact .here
  | record done _ ih =>
      have doneGrown := (grows.read_iff.mp done).1
      rw [← grows.layout_eq] at doneGrown ih ⊢
      exact .record doneGrown ih

/-- A survey finds the records of a scan first, and nothing else until there. -/
theorem exists_passes {final : Nat} {regions ending : List Region}
    (scans : image.Scans position records last) (way : Passes image position final regions)
    (ends : Ends image final ending) :
    ∃ front back, regions = front ++ back ∧
      front.countP Region.isRecord = records.length ∧ Passes image last final back := by
  induction scans generalizing regions with
  | here => exact ⟨[], regions, rfl, rfl, way⟩
  | @record position stop last payload records done _ ih =>
      have readable : image.Readable (image.layout.align position) := ⟨payload, stop, done⟩
      cases way with
      | here =>
          cases ends with
          | clean ended => exact absurd (image.lt_size_of_read done) (Nat.not_lt.mpr ended)
          | torn _ unreadable _ => exact absurd readable unreadable
      | record again onward =>
          rw [done] at again
          cases again
          obtain ⟨front, back, rfl, count_eq, rest⟩ := ih onward
          refine ⟨_ :: front, back, rfl, ?_, rest⟩
          rw [List.countP_cons_of_pos rfl, count_eq, List.length_cons]
      | gap _ unreadable _ _ _ => exact absurd readable unreadable

end Scans

/-- The records of a segment are those on the way to its aligned end. -/
theorem records_eq_ok_iff (whole : image.Whole) {records : List Record} :
    image.records = .ok records ↔ image.Scans 0 records (image.layout.align image.size) := by
  have unfolded : image.records = .ok records ↔ image.recordsFrom 0 = (records, none) := by
    unfold Image.records
    split
    · rename_i found
      rw [found]
      simp
    · rename_i found
      rw [found]
      simp
  rw [unfolded, exists_scans_iff]
  constructor
  · rintro ⟨last, scans, ended⟩
    rcases scans.last_eq whole with rfl | ⟨stop, inside, rfl⟩
    · rw [image.layout.align_zero] at ended
      obtain size_eq := Nat.le_zero.mp ended
      rwa [size_eq, image.layout.align_zero]
    · rw [image.layout.align_align] at ended
      rwa [image.layout.align_eq_of_le_align inside ended]
  · intro scans
    exact ⟨_, scans, by rw [image.layout.align_align]; exact image.layout.le_align _⟩

/-- A survey that goes anywhere passes a record, which ends past its start. -/
theorem Passes.exists_stop (whole : image.Whole) (isOpen : image.isOpen = true)
    {position last : Nat} {regions : List Region} (way : Passes image position last regions)
    (goes : regions ≠ []) :
    0 < regions.countP Region.isRecord ∧
      ∃ stop, image.layout.align position < stop ∧ stop ≤ image.size ∧ stop ≤ last := by
  cases way with
  | here => exact absurd rfl goes
  | @record _ stop _ _ _ done onward =>
      refine ⟨?_, stop, image.lt_stop_of_read done, stop_le_size_of_read whole done, ?_⟩
      · rw [List.countP_cons_of_pos rfl]
        exact Nat.succ_pos _
      · exact Nat.le_trans (image.layout.le_align stop) onward.le
  | @gap _ found stop _ _ _ _ _ skipped done onward =>
      have outside := (readable_of_resync whole isOpen skipped).2
      have reached := image.layout.align_le (Nat.le_of_lt (image.lt_of_resync skipped)) outside
      refine ⟨?_, stop, Nat.lt_of_le_of_lt reached (image.lt_stop_of_read done),
        stop_le_size_of_read whole done, ?_⟩
      · rw [List.countP_cons_of_neg (by simp [Region.isRecord]), List.countP_cons_of_pos rfl]
        exact Nat.succ_pos _
      · exact Nat.le_trans (image.layout.le_align stop) onward.le

/-- Where a scan succeeds, a survey finds its records and nothing else. -/
theorem countP_of_records (whole : image.Whole) (isOpen : image.isOpen = true)
    {records : List Record} (found : image.records = .ok records) {last : Nat}
    {regions ending : List Region} (way : Passes image 0 last regions)
    (ends : Ends image last ending) : regions.countP Region.isRecord = records.length := by
  obtain ⟨front, back, rfl, count_eq, rest⟩ :=
    ((records_eq_ok_iff whole).mp found).exists_passes way ends
  rw [List.countP_append, count_eq]
  by_cases goes : back = []
  · rw [goes, List.countP_nil, Nat.add_zero]
  · obtain ⟨_, stop, past, inside, _⟩ := rest.exists_stop whole isOpen goes
    have size_le := image.layout.le_align image.size
    rw [image.layout.align_align] at past
    omega

/-! ## The same file at another size -/

variable {grown : Image} {records : List Record}

/-- A longer file gives the same list exactly if it stops at the same end. -/
theorem Grows.records_eq_iff (grows : Grows image grown) (found : image.records = .ok records) :
    grown.records = .ok records ↔
      image.layout.align grown.size = image.layout.align image.size := by
  have scans := ((records_eq_ok_iff grows.whole).mp found).grow grows
  rw [records_eq_ok_iff grows.grownWhole, grows.layout_eq]
  constructor
  · intro again
    exact again.last_unique scans
  · intro same
    rwa [same]

/-- The list of a longer file is the same exactly if there is nothing but
padding behind the shorter one. -/
theorem Grows.records_eq_iff_size_le (grows : Grows image grown)
    (found : image.records = .ok records) :
    grown.records = .ok records ↔ grown.size ≤ image.layout.align image.size := by
  rw [grows.records_eq_iff found]
  constructor
  · intro same
    rw [← same]
    exact image.layout.le_align grown.size
  · intro inside
    exact image.layout.align_eq_of_le_align grows.size_le inside

/-- A file that is cut where a survey of it ends gives the list that a shorter
one gave, exactly if the survey found as many records. -/
theorem Grows.records_cut_iff {bytes : List UInt8}
    (grows : Grows image (.ofBytes image.layout bytes))
    (found : image.records = .ok records) {last : Nat} {regions ending : List Region}
    (way : Passes (.ofBytes image.layout bytes) 0 last regions)
    (ends : Ends (.ofBytes image.layout bytes) last ending) :
    (Image.ofBytes image.layout (bytes.take last)).records = .ok records ↔
      regions.countP Region.isRecord = records.length := by
  have whole := whole_ofBytes image.layout bytes
  have scans := ((records_eq_ok_iff grows.whole).mp found).grow grows
  obtain ⟨front, back, rfl, count_eq, rest⟩ := scans.exists_passes way ends
  have reached := rest.le
  have size_le := image.layout.le_align image.size
  have grows_cut : Grows image (.ofBytes image.layout (bytes.take last)) := by
    refine ⟨rfl, grows.isOpen_eq, grows.whole, whole_ofBytes _ _, ?_⟩
    have begins := grows.begins
    rw [stored_ofBytes] at begins ⊢
    refine List.prefix_take_iff.mpr ⟨begins, ?_⟩
    rw [length_stored grows.whole]
    omega
  rw [grows_cut.records_eq_iff_size_le found, List.countP_append, count_eq, size_ofBytes,
    List.length_take]
  by_cases goes : back = []
  · subst goes
    cases rest
    simp only [List.countP_nil, Nat.add_zero, iff_true]
    omega
  · obtain ⟨more, stop, past, inside, before⟩ := rest.exists_stop whole rfl goes
    rw [layout_ofBytes, image.layout.align_align] at past
    rw [size_ofBytes] at inside
    omega

end RecordLog.Image
