import RecordLog.Log
import RecordLog.Proofs.Catalog
import RecordLog.Proofs.Spacing

/-!
# Payloads packed into segments

Which segment a payload goes to depends on nothing but the payloads before it.
It is framed for the running end of the segment that the one before went to,
unless that segment has something in it and the estimated space of the payload
exceeds what is left of the largest size; then a new segment begins with it. This
is told here of lists of payloads, without files. An estimate that is exceeded by
two headers at the most keeps segments close to their largest size, except where
one payload alone is larger.
-/

namespace RecordLog

/-- Only where nothing was written a file is empty. -/
theorem Layout.writtenStop_zero_eq_zero_iff (layout : Layout) {payloads : List (List UInt8)} :
    layout.writtenStop 0 payloads = 0 ↔ payloads = [] := by
  constructor
  · intro zero
    cases payloads with
    | nil => rfl
    | cons first rest =>
        have past := layout.lt_frame_stop 0 first
        have onward := layout.le_writtenStop (layout.frame 0 first).stop rest
        rw [Layout.writtenStop_cons] at zero
        omega
  · rintro rfl
    rfl

/-- Payloads by the segments they are packed into. -/
structure Packing where
  /-- The payloads of the segments before the last. -/
  sealed : List (List (List UInt8))
  /-- The payloads of the last segment. -/
  active : List (List UInt8)

namespace Packing

/-- One segment with nothing in it. -/
def empty : Packing := ⟨[], []⟩

/-- All segments, in their order. -/
def segments (packing : Packing) : List (List (List UInt8)) := packing.sealed ++ [packing.active]

/-- The running end of the last segment. -/
def size (layout : Layout) (packing : Packing) : Nat := layout.writtenStop 0 packing.active

/-- Whether a payload would push the last segment past the largest size. An empty
segment takes any payload. -/
def overflows (layout : Layout) (limit : Nat) (packing : Packing) (payload : List UInt8) : Bool :=
  0 < packing.size layout && limit - packing.size layout < layout.requiredSpace payload.length

/-- Pack one more payload. -/
def add (layout : Layout) (limit : Nat) (packing : Packing) (payload : List UInt8) : Packing :=
  if packing.overflows layout limit payload then
    ⟨packing.sealed ++ [packing.active], [payload]⟩
  else ⟨packing.sealed, packing.active ++ [payload]⟩

/-- Pack payloads in their order. -/
def pack (layout : Layout) (limit : Nat) (payloads : List (List UInt8)) : Packing :=
  payloads.foldl (add layout limit) empty

/-- The segments under their ids. -/
def numbered (packing : Packing) : List (SegmentId × List (List UInt8)) :=
  (SegmentId.upTo packing.segments.length).zip packing.segments

/-- The bytes of the segments, by their ids. -/
def contents (layout : Layout) (packing : Packing) : List (SegmentId × List UInt8) :=
  packing.numbered.map fun (id, payloads) => (id, layout.writtenBytes 0 payloads)

/-- The payloads by their positions. -/
def entries (layout : Layout) (packing : Packing) : List (Position × List UInt8) :=
  packing.numbered.flatMap fun (id, payloads) =>
    (layout.writtenRecords 0 payloads).map fun record => (⟨id, record.offset⟩, record.payload)

variable {layout : Layout} {limit : Nat} {packing : Packing}

theorem pack_concat (layout : Layout) (limit : Nat) (payloads : List (List UInt8))
    (payload : List UInt8) :
    pack layout limit (payloads ++ [payload]) =
      (pack layout limit payloads).add layout limit payload :=
  List.foldl_concat _ _ _ _

theorem eq_of_segments {other : Packing} (same : packing.segments = other.segments) :
    packing = other := by
  obtain ⟨sealed_eq, active_eq⟩ := List.append_inj' same rfl
  cases packing
  cases other
  simp_all

/-- Nothing packed has no positions. -/
@[simp]
theorem entries_empty (layout : Layout) : empty.entries layout = [] :=
  (rfl)

/-! ## Sizes -/

/-- The payloads of a segment are close to the largest size, or are one payload
alone that is no further past the space it needs. -/
def Within (layout : Layout) (limit : Nat) (payloads : List (List UInt8)) : Prop :=
  layout.writtenStop 0 payloads ≤ limit + 2 * headerSize ∨
    ∃ payload, payloads = [payload] ∧
      layout.writtenStop 0 payloads ≤ layout.requiredSpace payload.length + headerSize

theorem within_singleton (layout : Layout) (limit : Nat) (payload : List UInt8) :
    Within layout limit [payload] :=
  .inr ⟨payload, rfl, layout.frame_stop_zero_le payload⟩

/-- All segments are within bounds, and only the last may be empty. -/
structure Bounded (layout : Layout) (limit : Nat) (packing : Packing) : Prop where
  sealed : ∀ payloads ∈ packing.sealed, Within layout limit payloads ∧ payloads ≠ []
  active : Within layout limit packing.active

/-- A payload that fits by the estimate exceeds the largest size by two headers at
the most; one that does not fit leaves behind a segment with something in it. -/
theorem Bounded.add (bounded : packing.Bounded layout limit) (payload : List UInt8) :
    (packing.add layout limit payload).Bounded layout limit := by
  unfold Packing.add
  split
  · rename_i exceeds
    simp only [overflows, Bool.and_eq_true, decide_eq_true_eq] at exceeds
    refine ⟨?_, within_singleton layout limit payload⟩
    intro payloads member
    rcases List.mem_append.mp member with older | last
    · exact bounded.sealed payloads older
    · rw [List.mem_singleton.mp last]
      exact ⟨bounded.active, mt layout.writtenStop_zero_eq_zero_iff.mpr (Nat.ne_of_gt exceeds.1)⟩
  · rename_i fits
    refine ⟨bounded.sealed, ?_⟩
    by_cases nothing : packing.active = []
    · rw [nothing]
      exact within_singleton layout limit payload
    · left
      have filled : packing.size layout ≠ 0 := mt layout.writtenStop_zero_eq_zero_iff.mp nothing
      simp only [overflows, Bool.and_eq_true, decide_eq_true_eq] at fits
      have stop := layout.frame_stop_le (packing.size layout) payload
      have space := layout.length_add_headerSize_le_requiredSpace payload.length
      have header : 0 < headerSize := Nat.succ_pos _
      simp only [layout.writtenStop_append, Layout.writtenStop_cons, Layout.writtenStop_nil]
      rw [size] at *
      omega

theorem bounded_pack (layout : Layout) (limit : Nat) (payloads : List (List UInt8)) :
    (pack layout limit payloads).Bounded layout limit := by
  induction payloads using List.reverseRecOn with
  | nil =>
      refine ⟨?_, .inl (Nat.zero_le _)⟩
      rintro _ ⟨⟩
  | append_singleton payloads payload ih =>
      rw [pack_concat]
      exact ih.add payload

end Packing

end RecordLog
