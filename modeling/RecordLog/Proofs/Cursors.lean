import RecordLog.Proofs.IntactPrefix

/-!
# Reading on with a cursor

A cursor brings the records of a segment one by one. It is asked in two ways,
which may be mixed: for the next record, or as an iteration. A file of written
payloads can be read on from the anchor of a record, from the raw end of the
record before it, which may lie in padding, and from wherever a cursor stood
after bringing that record. From all of these the same records come, and after
them nothing, however often the cursor is asked.
-/

namespace RecordLog

namespace Cursor

/-! ## Calls -/

/-- The two ways to ask a cursor for a record. -/
inductive Call where
  | next
  | step
  deriving DecidableEq, Repr

/-- What a cursor answers to a call. -/
inductive Reply where
  | next (found : Except Failure (Option Record))
  | step (found : Option (Except Failure Record))

/-- The reply that brings a record, or tells that there is none. -/
def Call.brings (found : Option Record) : Call → Reply
  | .next => .next (.ok found)
  | .step => .step (found.map .ok)

/-- Ask a cursor once. -/
def ask (cursor : Cursor) (image : Image) : Call → Reply × Cursor
  | .next => ((cursor.next image).map Reply.next id)
  | .step => ((cursor.step image).map Reply.step id)

/-- Ask a cursor several times, one call after the other. -/
def askAll (image : Image) : List Call → Cursor → List Reply × Cursor
  | [], cursor => ([], cursor)
  | call :: calls, cursor =>
      let (reply, after) := cursor.ask image call
      let (replies, last) := askAll image calls after
      (reply :: replies, last)

/-- However a cursor is asked, it brings some records in their order and then
tells that there is none. After each record it stands at the anchor of the next
one, or at the end of the segment; where there are no records, it stays. -/
structure Delivers (image : Image) (cursor : Cursor) (records : List Record) : Prop where
  replies_eq : ∀ calls,
    (askAll image calls cursor).1 = calls.mapIdx fun index call => call.brings records[index]?
  position_eq : ∀ calls, records ≠ [] → calls ≠ [] →
    (askAll image calls cursor).2.position =
      (records[calls.length]?.map Record.offset).getD image.size
  stays : records = [] → ∀ calls, (askAll image calls cursor).2 = cursor

variable {image : Image} {cursor : Cursor}

/-- At the end of a segment a cursor stays and brings nothing. -/
theorem ask_of_ended (ended : image.size ≤ image.layout.align cursor.position) (call : Call) :
    cursor.ask image call = (call.brings none, cursor) := by
  have next_eq : cursor.next image = (.ok none, cursor) := by
    rw [next, Image.next_eq_none_iff.mpr ended]
  cases call with
  | next => rw [ask, next_eq]; rfl
  | step =>
      rw [ask, step, next_eq]
      split <;> rfl

/-- In front of a record a cursor brings it, and stands behind it then. -/
theorem ask_of_found {record : Record} {after : Nat} (sound : cursor.failed = false)
    (found : image.next cursor.position = .ok (some (record, after))) (call : Call) :
    cursor.ask image call = (call.brings (some record), .start after) := by
  have next_eq : cursor.next image = (.ok (some record), .start after) := by
    rw [next, found, start, ← sound]
  cases call with
  | next => rw [ask, next_eq]; rfl
  | step =>
      rw [ask, step, next_eq, sound]
      rfl

namespace Delivers

theorem nil (ended : image.size ≤ image.layout.align cursor.position) :
    Delivers image cursor [] := by
  have asked (calls : List Call) :
      askAll image calls cursor = (calls.mapIdx fun _ call => call.brings none, cursor) := by
    induction calls with
    | nil => rfl
    | cons call calls ih =>
        rw [askAll, ask_of_ended ended]
        simp only [ih, List.mapIdx_cons]
  constructor
  case replies_eq =>
    intro calls
    rw [asked]
    rfl
  case position_eq =>
    intro calls nonempty
    exact absurd rfl nonempty
  case stays =>
    intro _ calls
    rw [asked]

theorem cons {record : Record} {after : Nat} {rest : List Record} (sound : cursor.failed = false)
    (found : image.next cursor.position = .ok (some (record, after)))
    (after_eq : after = (rest.head?.map Record.offset).getD image.size)
    (onward : Delivers image (.start after) rest) : Delivers image cursor (record :: rest) := by
  have asked (call : Call) (calls : List Call) :
      askAll image (call :: calls) cursor =
        (call.brings (some record) :: (askAll image calls (.start after)).1,
          (askAll image calls (.start after)).2) := by
    rw [askAll, ask_of_found sound found]
  constructor
  case replies_eq =>
    intro calls
    cases calls with
    | nil => rfl
    | cons call calls =>
        rw [asked, onward.replies_eq, List.mapIdx_cons]
        rfl
  case position_eq =>
    rintro (_ | ⟨call, calls⟩) - some
    · exact absurd rfl some
    rw [asked, List.length_cons, List.getElem?_cons_succ]
    by_cases last : rest = []
    · rw [onward.stays last, last]
      simpa [start, last] using after_eq
    · cases calls with
      | nil => simpa [askAll, start, List.head?_eq_getElem?] using after_eq
      | cons again calls => exact onward.position_eq _ last (List.cons_ne_nil _ _)
  case stays =>
    intro empty
    cases empty

end Delivers

end Cursor

/-! ## Written records by their numbers -/

namespace Layout

variable (layout : Layout)

theorem getElem?_writtenRecords (offset : Nat) (payloads : List (List UInt8)) (index : Nat) :
    (layout.writtenRecords offset payloads)[index]? =
      payloads[index]?.map fun payload =>
        ⟨layout.align (layout.writtenStop offset (payloads.take index)), payload⟩ := by
  induction payloads generalizing offset index with
  | nil => rfl
  | cons payload rest ih =>
      cases index with
      | zero => rfl
      | succ index => exact ih (layout.frame offset payload).stop index

theorem drop_writtenRecords (offset : Nat) (payloads : List (List UInt8)) (index : Nat) :
    (layout.writtenRecords offset payloads).drop index =
      layout.writtenRecords (layout.writtenStop offset (payloads.take index))
        (payloads.drop index) := by
  induction payloads generalizing offset index with
  | nil => simp
  | cons payload rest ih =>
      cases index with
      | zero => rfl
      | succ index => exact ih (layout.frame offset payload).stop index

/-- The aligned end of a record is where the payloads up to it stop. -/
theorem align_stop {payloads : List (List UInt8)} {index : Nat} {record : Record}
    (found : (layout.writtenRecords 0 payloads)[index]? = some record) :
    layout.align (record.stop layout) = layout.writtenStop 0 (payloads.take (index + 1)) := by
  rw [getElem?_writtenRecords, Option.map_eq_some_iff] at found
  rcases found with ⟨payload, among, rfl⟩
  rw [List.take_add_one, among, Option.toList_some, layout.writtenStop_append, Record.stop,
    layout.recordStop_align]
  rfl

end Layout

/-! ## Places to read on from -/

/-- The offsets from which a segment of some records can be read on, with the
number of the record that comes first: the start of the segment, the anchor of
the record, the raw end of the last chunk of the record before it, and the
position of a cursor that has brought the record before it. -/
inductive Resumes (image : Image) (records : List Record) : Nat → Nat → Prop
  | start : Resumes image records 0 0
  | anchor {index : Nat} {record : Record} (found : records[index]? = some record) :
      Resumes image records index record.offset
  | stop {index : Nat} {record : Record} (found : records[index]? = some record) :
      Resumes image records (index + 1) (record.stop image.layout)
  | position {index offset : Nat} {calls : List Cursor.Call}
      (earlier : Resumes image records index offset) (some : calls ≠ [])
      (within : index + calls.length ≤ records.length) :
      Resumes image records (index + calls.length)
        (Cursor.askAll image calls (.start offset)).2.position

namespace Image

variable {image : Image}

/-- Payloads that can be read are delivered from every offset with the same
alignment. -/
theorem Carries.delivers {offset position : Nat} {payloads : List (List UInt8)}
    (carries : image.Carries offset payloads)
    (size_eq : image.size = image.layout.writtenStop offset payloads)
    (aligned : image.layout.align position = image.layout.align offset) :
    Cursor.Delivers image (.start position) (image.layout.writtenRecords offset payloads) := by
  induction payloads generalizing offset position with
  | nil =>
      apply Cursor.Delivers.nil
      rw [size_eq, Cursor.start, aligned]
      exact image.layout.le_align offset
  | cons payload rest ih =>
      rcases carries_cons_iff.mp carries with ⟨done, onward⟩
      have found : image.next position = .ok (some (⟨image.layout.align offset, payload⟩,
          (image.layout.frame offset payload).stop)) := by
        apply next_eq_some_iff.mpr
        rw [aligned]
        exact ⟨_, done, rfl, image.layout.frame_stop offset payload⟩
      have later := image.layout.align_of_not_inPadding
        (image.layout.inPadding_frame_stop offset payload)
      apply Cursor.Delivers.cons rfl found _ (ih onward size_eq rfl)
      cases rest with
      | nil => exact size_eq.symm
      | cons next rest => exact later.symm

/-- A file of written payloads delivers them from any number on. -/
theorem delivers_drop {layout : Layout} {payloads : List (List UInt8)} {index position : Nat}
    (aligned : layout.align position = layout.writtenStop 0 (payloads.take index)) :
    Cursor.Delivers (ofBytes layout (layout.writtenBytes 0 payloads)) (.start position)
      ((layout.writtenRecords 0 payloads).drop index) := by
  have length_eq := layout.length_writtenBytes 0 payloads
  have outside := layout.inPadding_writtenStop layout.inPadding_zero (payloads.take index)
  have stored_eq : (ofBytes layout (layout.writtenBytes 0 payloads)).stored =
      layout.writtenBytes 0 (payloads.take index ++ payloads.drop index) ++ [] := by
    rw [stored_ofBytes, List.take_append_drop, List.append_nil]
  have carries := carries_append_iff.mp (carries_writtenBytes (whole_ofBytes _ _) rfl stored_eq)
  rw [layout.drop_writtenRecords]
  apply carries.2.delivers
  · rw [layout_ofBytes, size_ofBytes, ← layout.writtenStop_append, List.take_append_drop,
      ← length_eq, Nat.zero_add]
  · rw [layout_ofBytes, aligned]
    exact (layout.align_of_not_inPadding outside).symm

/-- Every place to read on from lies just in front of its record. -/
theorem align_of_resumes {layout : Layout} {payloads : List (List UInt8)} {index position : Nat}
    (resumes : Resumes (ofBytes layout (layout.writtenBytes 0 payloads))
      (layout.writtenRecords 0 payloads) index position) :
    layout.align position = layout.writtenStop 0 (payloads.take index) := by
  have aligned (front : List (List UInt8)) :=
    layout.align_of_not_inPadding (layout.inPadding_writtenStop layout.inPadding_zero front)
  induction resumes with
  | start => rw [List.take_zero, layout.align_zero, layout.writtenStop_nil]
  | anchor found =>
      rw [layout.getElem?_writtenRecords, Option.map_eq_some_iff] at found
      rcases found with ⟨payload, -, rfl⟩
      rw [layout.align_align, aligned]
  | stop found => exact layout.align_stop found
  | @position index offset calls _ some within ih =>
      have delivers := delivers_drop ih
      have length_eq := layout.length_writtenBytes 0 payloads
      rw [layout.length_writtenRecords] at within
      have count := List.length_pos_iff.mpr some
      have left : (layout.writtenRecords 0 payloads).drop index ≠ [] := by
        rw [← List.length_pos_iff, List.length_drop, layout.length_writtenRecords]
        omega
      rw [delivers.position_eq calls left some, List.getElem?_drop,
        layout.getElem?_writtenRecords, size_ofBytes]
      by_cases inside : index + calls.length < payloads.length
      · rw [List.getElem?_eq_getElem inside]
        simp only [Option.map_some, Option.getD_some]
        rw [layout.align_align, aligned]
      · rw [List.getElem?_eq_none (by omega), List.take_of_length_le (by omega), ← aligned payloads,
          ← length_eq, Nat.zero_add]
        rfl

/-- The next record where alignment stops at the largest offset. -/
def nextWithin (image : Image) (position : Nat) : Except Failure (Option (Record × Nat)) :=
  let start := image.layout.readOffset position
  if image.size ≤ start then .ok none
  else
    match image.read start with
    | .error cause => .error cause
    | .ok (payload, stop) => .ok (some (⟨start, payload⟩, image.layout.readOffset stop))

/-- A segment of which the aligned size is an offset is read alike where
alignment stops at the largest offset. -/
theorem nextWithin_eq (whole : image.Whole) (small : image.layout.align image.size ≤ maxOffset)
    (position : Nat) : image.nextWithin position = image.next position := by
  have size_le := image.layout.le_align image.size
  rw [nextWithin, next]
  by_cases ended : image.size ≤ image.layout.align position
  · have endedWithin : image.size ≤ image.layout.readOffset position :=
      Nat.le_min.mpr ⟨ended, Nat.le_trans size_le small⟩
    rw [if_pos ended, if_pos endedWithin]
  · have start_eq : image.layout.readOffset position = image.layout.align position :=
      Nat.min_eq_left (by omega)
    rw [start_eq, if_neg ended, if_neg ended]
    cases done : image.read (image.layout.align position) with
    | error cause => rfl
    | ok found =>
        rcases found with ⟨payload, stop⟩
        have within := image.layout.align_mono (stop_le_size_of_read whole done)
        have stop_eq : image.layout.readOffset stop = image.layout.align stop :=
          Nat.min_eq_left (Nat.le_trans within small)
        simp only [stop_eq]

end Image

/-! ## Segments -/

namespace Segment

/-- Every payload of a segment that was built has an anchor. -/
theorem length_build {path : Path} {id : SegmentId} {layout : Layout}
    {payloads : List (List UInt8)} {storage written : Storage} {anchors : List Nat}
    {segment : Segment}
    (built : Segment.build path id layout payloads storage = (.ok (anchors, segment), written)) :
    anchors.length = payloads.length := by
  unfold Segment.build at built
  split at built
  · cases built
  split at built
  · cases built
  rename_i appended
  cases built
  exact length_of_appendAll appended

/-- A segment that was built is read on from every place in front of a record:
that record comes, with all that follow it, and then nothing, in both ways of
asking. From its size on nothing comes at all. Alignment that stops at the
largest offset makes no difference. -/
theorem cursor_delivers {path : Path} {id : SegmentId} {layout : Layout}
    {payloads : List (List UInt8)} {storage written : Storage} {anchors : List Nat}
    {segment : Segment}
    (built : Segment.build path id layout payloads storage = (.ok (anchors, segment), written)) :
    anchors.length = payloads.length ∧
    (∀ index offset,
      Resumes (segment.image written) (recordsAt anchors payloads) index offset →
        Cursor.Delivers (segment.image written) (.start offset)
          ((recordsAt anchors payloads).drop index)) ∧
    (∀ offset, segment.size ≤ offset →
      Cursor.Delivers (segment.image written) (.start offset) []) ∧
    (segment.size ≤ maxOffset → ∀ position,
      (segment.image written).nextWithin position = (segment.image written).next position) := by
  rcases build_eq_ok built with ⟨node, -, fills, records_eq, -⟩
  have image_eq := fills.image_eq
  have size_eq := fills.size_eq
  have length_eq := layout.length_writtenBytes 0 payloads
  have aligned := layout.align_of_not_inPadding
    (layout.inPadding_writtenStop layout.inPadding_zero payloads)
  rw [Nat.zero_add] at length_eq
  rw [image_eq, records_eq]
  constructor
  · exact length_build built
  constructor
  · intro index offset resumes
    exact Image.delivers_drop (Image.align_of_resumes resumes)
  constructor
  · intro offset past
    apply Cursor.Delivers.nil
    rw [Image.size_ofBytes, ← size_eq]
    exact Nat.le_trans past (layout.le_align offset)
  · intro small position
    apply Image.nextWithin_eq (Image.whole_ofBytes _ _)
    rw [Image.size_ofBytes, Image.layout_ofBytes, length_eq, aligned, ← length_eq, ← size_eq]
    exact small

/-- Four payloads for blocks of 32 bytes. The second one ends at 26, where six
bytes of its block are left, and the third one goes over two blocks. -/
def pacedPayloads : List (List UInt8) :=
  [[1, 2, 3], List.replicate 9 4, List.replicate 40 5, []]

/-- Reading on from the padding behind the second record, and from the largest
offset. -/
theorem cursor_delivers_of_padding :
    ∃ segment written,
      build ⟨"1.seg"⟩ .first smallLayout pacedPayloads .empty =
          (.ok ([0, 10, 32, 86], segment), written) ∧
        smallLayout.inPadding 26 = true ∧
        Cursor.Delivers (segment.image written) (.start 26)
          [⟨32, List.replicate 40 5⟩, ⟨86, []⟩] ∧
        (Cursor.askAll (segment.image written) [.next, .step, .step, .next] (.start 26)).1 =
          [.next (.ok (some ⟨32, List.replicate 40 5⟩)), .step (some (.ok ⟨86, []⟩)),
            .step none, .next (.ok none)] ∧
        Cursor.Delivers (segment.image written) (.start maxOffset) [] := by
  have filled : (fill ⟨"1.seg"⟩ .first smallLayout pacedPayloads .empty).1 =
      .ok ([0, 10, 32, 86], 96) := by decide +kernel
  rcases exists_build_of_fill (Prod.ext filled rfl) with ⟨segment, written, built, size_eq, -⟩
  rcases cursor_delivers built with ⟨-, resumed, ended, -⟩
  have layout_eq : (segment.image written).layout = smallLayout := by
    rcases build_eq_ok built with ⟨node, -, fills, -, -⟩
    rw [fills.image_eq, Image.layout_ofBytes]
  have stop_eq : Record.stop ⟨10, List.replicate 9 4⟩ smallLayout = 26 := by decide +kernel
  have behind : Resumes (segment.image written) (recordsAt [0, 10, 32, 86] pacedPayloads) 2 26 := by
    rw [← stop_eq, ← layout_eq]
    exact .stop rfl
  have delivers := resumed 2 26 behind
  refine ⟨segment, written, built, by decide, delivers, delivers.replies_eq _, ended maxOffset ?_⟩
  rw [← size_eq]
  decide

end Segment

end RecordLog
