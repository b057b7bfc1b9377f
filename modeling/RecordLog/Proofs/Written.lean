import RecordLog.Proofs.Framing

/-!
# Payloads written one after the other

Each payload is framed for the offset where the frame before it stopped. The
bytes of such a sequence, laid after any beginning of the right length, are
read back as the same payloads in the same order, each at the start of its
frame, and the last stop is the place where the scan comes to its end.
-/

namespace RecordLog

namespace Layout

variable (layout : Layout)

/-- The offset just past the last chunk of a payload written at an offset. -/
def recordStop (offset : Nat) (payload : List UInt8) : Nat :=
  PlacedChunk.stopFrom offset (layout.split offset payload)

/-- The write offset after some payloads written from an offset on. -/
def writtenStop (offset : Nat) : List (List UInt8) → Nat
  | [] => offset
  | payload :: rest => writtenStop (layout.frame offset payload).stop rest

/-- The bytes of some payloads written from an offset on. -/
def writtenBytes (offset : Nat) : List (List UInt8) → List UInt8
  | [] => []
  | payload :: rest =>
      (layout.frame offset payload).bytes ++ writtenBytes (layout.frame offset payload).stop rest

/-- The records of some payloads written from an offset on. -/
def writtenRecords (offset : Nat) : List (List UInt8) → List Record
  | [] => []
  | payload :: rest =>
      ⟨(layout.frame offset payload).start, payload⟩ ::
        writtenRecords (layout.frame offset payload).stop rest

@[simp]
theorem writtenStop_nil (offset : Nat) : layout.writtenStop offset [] = offset :=
  (rfl)

@[simp]
theorem writtenStop_cons (offset : Nat) (payload : List UInt8) (rest : List (List UInt8)) :
    layout.writtenStop offset (payload :: rest) =
      layout.writtenStop (layout.frame offset payload).stop rest :=
  (rfl)

@[simp]
theorem writtenBytes_nil (offset : Nat) : layout.writtenBytes offset [] = [] :=
  (rfl)

@[simp]
theorem writtenBytes_cons (offset : Nat) (payload : List UInt8) (rest : List (List UInt8)) :
    layout.writtenBytes offset (payload :: rest) =
      (layout.frame offset payload).bytes ++
        layout.writtenBytes (layout.frame offset payload).stop rest :=
  (rfl)

@[simp]
theorem writtenRecords_nil (offset : Nat) : layout.writtenRecords offset [] = [] :=
  (rfl)

@[simp]
theorem writtenRecords_cons (offset : Nat) (payload : List UInt8) (rest : List (List UInt8)) :
    layout.writtenRecords offset (payload :: rest) =
      ⟨layout.align offset, payload⟩ ::
        layout.writtenRecords (layout.frame offset payload).stop rest :=
  (rfl)

/-! ## One frame -/

theorem frame_start (offset : Nat) (payload : List UInt8) :
    (layout.frame offset payload).start = layout.align offset :=
  (rfl)

theorem frame_stop (offset : Nat) (payload : List UInt8) :
    (layout.frame offset payload).stop = layout.align (layout.recordStop offset payload) :=
  (rfl)

/-- The stop of a frame is aligned. -/
theorem inPadding_frame_stop (offset : Nat) (payload : List UInt8) :
    layout.inPadding (layout.frame offset payload).stop = false := by
  rw [frame_stop, inPadding_align]

theorem length_frame_bytes (offset : Nat) (payload : List UInt8) :
    offset + (layout.frame offset payload).bytes.length = (layout.frame offset payload).stop :=
  PlacedChunk.length_render (chain_split offset payload)

/-- The first chunk of a split stands at the aligned offset. -/
theorem exists_split_eq_cons (offset : Nat) (payload : List UInt8) :
    ∃ chunk rest, layout.split offset payload = ⟨layout.align offset, chunk⟩ :: rest := by
  simp only [split]
  split
  · exact ⟨_, _, rfl⟩
  · exact ⟨_, _, rfl⟩

/-- A payload is split alike from an offset and from where its record starts. -/
theorem split_align (offset : Nat) (payload : List UInt8) :
    layout.split (layout.align offset) payload = layout.split offset payload := by
  simp only [split, align_align]

theorem recordStop_align (offset : Nat) (payload : List UInt8) :
    layout.recordStop (layout.align offset) payload = layout.recordStop offset payload := by
  obtain ⟨chunk, rest, split_eq⟩ := layout.exists_split_eq_cons offset payload
  rw [recordStop, recordStop, split_align, split_eq, PlacedChunk.stopFrom, PlacedChunk.stopFrom]

/-- A record ends past the place where it starts. -/
theorem align_lt_recordStop (offset : Nat) (payload : List UInt8) :
    layout.align offset < layout.recordStop offset payload := by
  obtain ⟨chunk, rest, split_eq⟩ := layout.exists_split_eq_cons offset payload
  have chain : Chain layout offset (layout.split offset payload) := chain_split offset payload
  rw [split_eq] at chain
  cases chain with
  | cons _ _ onward =>
      have le := PlacedChunk.le_stopFrom onward
      rw [recordStop, split_eq, PlacedChunk.stopFrom]
      simp only [PlacedChunk.stop, Chunk.size, headerSize] at le ⊢
      omega

theorem recordStop_le_frame_stop (offset : Nat) (payload : List UInt8) :
    layout.recordStop offset payload ≤ (layout.frame offset payload).stop :=
  layout.le_align _

theorem lt_frame_stop (offset : Nat) (payload : List UInt8) :
    offset < (layout.frame offset payload).stop := by
  have := layout.le_align offset
  have := layout.align_lt_recordStop offset payload
  have := layout.recordStop_le_frame_stop offset payload
  omega

/-! ## Sequences -/

theorem length_writtenBytes (offset : Nat) (payloads : List (List UInt8)) :
    offset + (layout.writtenBytes offset payloads).length = layout.writtenStop offset payloads := by
  induction payloads generalizing offset with
  | nil => rfl
  | cons payload rest ih =>
      rw [writtenBytes_cons, writtenStop_cons, List.length_append, ← Nat.add_assoc,
        layout.length_frame_bytes, ih]

theorem le_writtenStop (offset : Nat) (payloads : List (List UInt8)) :
    offset ≤ layout.writtenStop offset payloads := by
  have := layout.length_writtenBytes offset payloads
  omega

theorem writtenStop_append (offset : Nat) (first second : List (List UInt8)) :
    layout.writtenStop offset (first ++ second) =
      layout.writtenStop (layout.writtenStop offset first) second := by
  induction first generalizing offset with
  | nil => rfl
  | cons payload rest ih => simp [ih]

theorem writtenBytes_append (offset : Nat) (first second : List (List UInt8)) :
    layout.writtenBytes offset (first ++ second) =
      layout.writtenBytes offset first ++
        layout.writtenBytes (layout.writtenStop offset first) second := by
  induction first generalizing offset with
  | nil => rfl
  | cons payload rest ih => simp [ih]

theorem writtenRecords_append (offset : Nat) (first second : List (List UInt8)) :
    layout.writtenRecords offset (first ++ second) =
      layout.writtenRecords offset first ++
        layout.writtenRecords (layout.writtenStop offset first) second := by
  induction first generalizing offset with
  | nil => rfl
  | cons payload rest ih => simp [ih]

@[simp]
theorem length_writtenRecords (offset : Nat) (payloads : List (List UInt8)) :
    (layout.writtenRecords offset payloads).length = payloads.length := by
  induction payloads generalizing offset with
  | nil => rfl
  | cons payload rest ih => simp [ih]

@[simp]
theorem map_payload_writtenRecords (offset : Nat) (payloads : List (List UInt8)) :
    (layout.writtenRecords offset payloads).map Record.payload = payloads := by
  induction payloads generalizing offset with
  | nil => rfl
  | cons payload rest ih => simp [ih]

/-- Writing from an aligned offset stops at an aligned offset. -/
theorem inPadding_writtenStop {offset : Nat} (outside : layout.inPadding offset = false)
    (payloads : List (List UInt8)) :
    layout.inPadding (layout.writtenStop offset payloads) = false := by
  induction payloads generalizing offset with
  | nil => exact outside
  | cons payload rest ih => exact ih (layout.inPadding_frame_stop offset payload)

/-- No record is written before the aligned offset. -/
theorem align_le_of_mem_writtenRecords {offset : Nat} {payloads : List (List UInt8)}
    {record : Record} (member : record ∈ layout.writtenRecords offset payloads) :
    layout.align offset ≤ record.offset := by
  induction payloads generalizing offset with
  | nil => cases member
  | cons payload rest ih =>
      rcases List.mem_cons.mp member with here | later
      · subst here
        exact Nat.le_refl _
      · exact Nat.le_trans (layout.align_mono (Nat.le_of_lt (layout.lt_frame_stop offset payload)))
          (ih later)

/-- Records that were written begin where the payloads before them stop. -/
theorem exists_of_mem_writtenRecords {offset : Nat} {payloads : List (List UInt8)}
    {record : Record} (member : record ∈ layout.writtenRecords offset payloads) :
    ∃ front back, payloads = front ++ record.payload :: back ∧
      record.offset = layout.align (layout.writtenStop offset front) := by
  induction payloads generalizing offset with
  | nil => cases member
  | cons payload rest ih =>
      rcases List.mem_cons.mp member with here | later
      · rw [here]
        exact ⟨[], rest, rfl, rfl⟩
      · obtain ⟨front, back, split_eq, begins⟩ := ih later
        exact ⟨payload :: front, back, by rw [split_eq]; rfl, begins⟩

end Layout

/-! ## Reading back -/

namespace Image

variable {image : Image}

/-- A record is read back wherever the chunks of its payload stand. -/
theorem read_split (isOpen : image.isOpen = true) {offset : Nat} {payload : List UInt8}
    (found : ∀ placed ∈ image.layout.split offset payload,
      image.chunkAt placed.offset = .ok placed.chunk) :
    image.read (image.layout.align offset) =
      .ok (payload, image.layout.recordStop offset payload) := by
  obtain ⟨chunk, rest, split_eq⟩ := image.layout.exists_split_eq_cons offset payload
  have first := found ⟨image.layout.align offset, chunk⟩ (by simp [split_eq])
  have inside := image.offset_lt_size_of_chunkAt first
  exact read_eq_ok_iff.mpr ⟨isOpen, inside, (collects_split found).of_align⟩

/-- The chunks of a payload stand wherever the bytes of its frame do. -/
theorem chunkAt_frame (whole : image.Whole) {front tail payload : List UInt8}
    (stored_eq : image.stored =
      front ++ ((image.layout.frame front.length payload).bytes ++ tail)) :
    ∀ placed ∈ image.layout.split front.length payload,
      image.chunkAt placed.offset = .ok placed.chunk := by
  have chain : Layout.Chain image.layout front.length (image.layout.split front.length payload) :=
    Layout.chain_split front.length payload
  intro placed member
  rw [chunkAt_eq_ok_iff whole, stored_eq]
  exact ⟨chain.fits_of_mem member, PlacedChunk.isPrefix_drop_render chain rfl tail member⟩

/-- The chunks of every payload in a file stand where it was written. -/
theorem chunkAt_written (whole : image.Whole) {front back : List (List UInt8)}
    {payload tail : List UInt8}
    (stored_eq : image.stored = image.layout.writtenBytes 0 (front ++ payload :: back) ++ tail) :
    ∀ placed ∈ image.layout.split (image.layout.writtenStop 0 front) payload,
      image.chunkAt placed.offset = .ok placed.chunk := by
  have length_eq := image.layout.length_writtenBytes 0 front
  rw [Nat.zero_add] at length_eq
  have framed : image.stored = image.layout.writtenBytes 0 front ++
      ((image.layout.frame (image.layout.writtenBytes 0 front).length payload).bytes ++
        (image.layout.writtenBytes
          (image.layout.frame (image.layout.writtenBytes 0 front).length payload).stop back ++
            tail)) := by
    rw [stored_eq, Layout.writtenBytes_append, Layout.writtenBytes_cons, length_eq]
    simp only [List.append_assoc]
  rw [← length_eq]
  exact chunkAt_frame whole framed

/-- Some payloads can be read one after the other from an offset on, each
framed for the place where the one before it stopped. -/
def Carries (image : Image) (offset : Nat) : List (List UInt8) → Prop
  | [] => True
  | payload :: rest =>
      image.read (image.layout.align offset) =
          .ok (payload, image.layout.recordStop offset payload) ∧
        Carries image (image.layout.frame offset payload).stop rest

theorem carries_cons_iff {offset : Nat} {payload : List UInt8} {rest : List (List UInt8)} :
    image.Carries offset (payload :: rest) ↔
      image.read (image.layout.align offset) =
          .ok (payload, image.layout.recordStop offset payload) ∧
        image.Carries (image.layout.frame offset payload).stop rest :=
  Iff.rfl

/-- Written payloads can be read wherever their bytes stand. -/
theorem carries_written (whole : image.Whole) (isOpen : image.isOpen = true)
    {front tail : List UInt8} {payloads : List (List UInt8)}
    (stored_eq : image.stored =
      front ++ (image.layout.writtenBytes front.length payloads ++ tail)) :
    image.Carries front.length payloads := by
  induction payloads generalizing front with
  | nil => exact trivial
  | cons payload rest ih =>
      have length_eq := image.layout.length_frame_bytes front.length payload
      rw [Layout.writtenBytes_cons, List.append_assoc] at stored_eq
      have onward := @ih (front ++ (image.layout.frame front.length payload).bytes) (by
        rw [List.length_append, length_eq, List.append_assoc]
        exact stored_eq)
      rw [List.length_append, length_eq] at onward
      exact carries_cons_iff.mpr ⟨read_split isOpen (chunkAt_frame whole stored_eq), onward⟩

/-- Payloads written from the start of a file can be read. -/
theorem carries_writtenBytes (whole : image.Whole) (isOpen : image.isOpen = true)
    {tail : List UInt8} {payloads : List (List UInt8)}
    (stored_eq : image.stored = image.layout.writtenBytes 0 payloads ++ tail) :
    image.Carries 0 payloads :=
  @carries_written image whole isOpen [] tail payloads stored_eq

/-! ## Scanning -/

theorem recordsFrom_eq (position : Nat) :
    image.recordsFrom position =
      match image.next position with
      | .error cause => ([], some cause)
      | .ok none => ([], none)
      | .ok (some (record, after)) =>
          (record :: (image.recordsFrom after).1, (image.recordsFrom after).2) := by
  rw [recordsFrom]
  split <;>
    · rename_i found
      rw [found]

/-- A scan begins at the aligned offset. -/
theorem recordsFrom_align (position : Nat) :
    image.recordsFrom (image.layout.align position) = image.recordsFrom position := by
  have same : image.next (image.layout.align position) = image.next position := by
    rw [next, next, image.layout.align_align]
  rw [recordsFrom_eq, recordsFrom_eq position, same]

theorem recordsFrom_of_size_le {position : Nat} (ended : image.size ≤ image.layout.align position) :
    image.recordsFrom position = ([], none) := by
  have found : image.next position = .ok none := by
    rw [next]
    exact if_pos ended
  rw [recordsFrom_eq, found]

theorem recordsFrom_of_read {position stop : Nat} {payload : List UInt8}
    (done : image.read (image.layout.align position) = .ok (payload, stop)) :
    image.recordsFrom position =
      (⟨image.layout.align position, payload⟩ :: (image.recordsFrom (image.layout.align stop)).1,
        (image.recordsFrom (image.layout.align stop)).2) := by
  have inside := image.lt_size_of_read done
  have found : image.next position =
      .ok (some (⟨image.layout.align position, payload⟩, image.layout.align stop)) := by
    rw [next]
    simp only [if_neg (Nat.not_le.mpr inside), done]
  rw [recordsFrom_eq, found]

/-- A scan answers the payloads it can read in order, and goes on after the
last. -/
theorem Carries.recordsFrom {offset : Nat} {payloads : List (List UInt8)}
    (carries : image.Carries offset payloads) :
    image.recordsFrom offset =
      (image.layout.writtenRecords offset payloads ++
          (image.recordsFrom (image.layout.writtenStop offset payloads)).1,
        (image.recordsFrom (image.layout.writtenStop offset payloads)).2) := by
  induction payloads generalizing offset with
  | nil => rfl
  | cons payload rest ih =>
      obtain ⟨done, onward⟩ := carries_cons_iff.mp carries
      rw [recordsFrom_of_read done, ← Layout.frame_stop, ih onward]
      rfl

/-- The records of written payloads are read back. -/
theorem records_written (whole : image.Whole) (isOpen : image.isOpen = true)
    {payloads : List (List UInt8)}
    (stored_eq : image.stored = image.layout.writtenBytes 0 payloads) :
    image.records = .ok (image.layout.writtenRecords 0 payloads) := by
  have size_eq := length_stored whole
  have length_eq := image.layout.length_writtenBytes 0 payloads
  rw [stored_eq] at size_eq
  have carries : image.Carries 0 payloads :=
    carries_writtenBytes whole isOpen (by rw [stored_eq, List.append_nil])
  have ended := image.layout.le_align (image.layout.writtenStop 0 payloads)
  rw [records, carries.recordsFrom, recordsFrom_of_size_le]
  · simp
  · omega

end Image

end RecordLog
