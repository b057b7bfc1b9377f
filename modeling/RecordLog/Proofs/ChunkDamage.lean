import RecordLog.Proofs.Bursts
import RecordLog.Proofs.Damage

/-!
# Damage within a chunk

The bytes of one chunk of a record are changed. The chunks in front of it are
still found, so reading the record comes to the changed chunk and fails there
if that is not a chunk any more; and no other record is touched. The checksum
tells that bytes were changed as long as its own four bytes or four bytes next
to each other behind it differ, for then the stored checksum and the computed
one are not both changed, nor the one into the other.
-/

namespace RecordLog

/-! ## Changes of a file -/

/-- Bytes were changed, and only between two offsets. -/
structure ChangedWithin (original altered : List UInt8) (first last : Nat) : Prop where
  length_eq : altered.length = original.length
  differs : altered ≠ original
  same : ∀ index, ¬ (first ≤ index ∧ index < last) → altered[index]? = original[index]?

namespace ChangedWithin

variable {original altered : List UInt8} {first last : Nat}

/-- A run of bytes in front of the change or behind it is as it was. -/
theorem take_drop_eq (changed : ChangedWithin original altered first last) {offset length : Nat}
    (apart : offset + length ≤ first ∨ last ≤ offset) :
    (altered.drop offset).take length = (original.drop offset).take length :=
  Image.take_drop_congr fun index reached before => changed.same index (by omega)

/-- A run of bytes around the change is changed. -/
theorem take_drop_ne (changed : ChangedWithin original altered first last) {offset length : Nat}
    (before : offset ≤ first) (behind : last ≤ offset + length) :
    (altered.drop offset).take length ≠ (original.drop offset).take length := by
  intro run_eq
  apply changed.differs
  apply List.ext_getElem?
  intro index
  by_cases inside : offset ≤ index ∧ index < offset + length
  · have same := congrArg (fun run : List UInt8 => run[index - offset]?) run_eq
    simp only [List.getElem?_take, List.getElem?_drop] at same
    rwa [if_pos (by omega), if_pos (by omega), Nat.add_sub_cancel' inside.1] at same
  · exact changed.same index (by omega)

/-- What the change is to a run of bytes around it. -/
theorem run (changed : ChangedWithin original altered first last) (offset length : Nat)
    (before : offset ≤ first) (behind : last ≤ offset + length) :
    ChangedWithin ((original.drop offset).take length) ((altered.drop offset).take length)
      (first - offset) (last - offset) where
  length_eq := by
    rw [List.length_take, List.length_take, List.length_drop, List.length_drop, changed.length_eq]
  differs := changed.take_drop_ne before behind
  same index apart := by
    rw [List.getElem?_take, List.getElem?_take, List.getElem?_drop, List.getElem?_drop]
    split
    · exact changed.same (offset + index) (by omega)
    · rfl

/-- What is changed in a range is changed in a wider one. -/
theorem widen (changed : ChangedWithin original altered first last) {start stop : Nat}
    (before : start ≤ first) (behind : last ≤ stop) : ChangedWithin original altered start stop :=
  ⟨changed.length_eq, changed.differs, fun index apart => changed.same index (by omega)⟩

end ChangedWithin

/-- Flip some bits of one byte. -/
def flipBits (content : Content) (index : Nat) (mask : UInt8) : Content :=
  content.modify index (· ^^^ mask)

/-- Flipping bits changes one byte and no other. -/
theorem changedWithin_flipBits {content : Content} {index : Nat} {mask : UInt8}
    (inside : index < content.size) (some_bit : mask ≠ 0) :
    ChangedWithin content.toList (flipBits content index mask).toList index (index + 1) where
  length_eq := by simp [flipBits]
  differs same := by
    have flipped := congrArg (fun bytes : List UInt8 => bytes[index]?) same
    simp only [flipBits, Array.getElem?_toList, Array.getElem?_modify, if_true,
      Array.getElem?_eq_getElem inside, Option.map_some, Option.some.injEq] at flipped
    exact some_bit ((UInt8.xor_right_inj _).mp (flipped.trans UInt8.xor_zero.symm))
  same other apart := by
    have ne : index ≠ other := by omega
    simp [flipBits, ne]

/-! ## Chunks with a wrong checksum -/

namespace Chunk

/-- The checksum that is stored in front of some bytes. -/
def storedChecksum (run : List UInt8) : UInt32 :=
  .ofNat (ofLittleEndian (run.take 4))

/-- The checksum of the bytes behind the stored one. -/
def computedChecksum (run : List UInt8) : UInt32 :=
  Checksum.crc32 (run.drop 4)

/-- Bytes as long as they declare are a chunk if the checksum is the stored one
and the code of the kind is known. -/
private theorem decode_of_exact (offset : Nat) {run : List UInt8}
    (exact : run.length = headerSize + declaredLength run) :
    ∃ code, run[6]? = some code ∧ decode offset run =
      if storedChecksum run ≠ computedChecksum run then
        .error (.corrupt offset (.checksumMismatch (storedChecksum run) (computedChecksum run)))
      else
        match Kind.ofCode? code with
        | none => .error (.corrupt offset (.unknownKind code))
        | some kind => .ok ⟨kind, run.drop headerSize⟩ := by
  have long : headerSize ≤ run.length := exact ▸ Nat.le_add_right _ _
  obtain ⟨c₀, c₁, c₂, c₃, l₀, l₁, code, rest, rfl⟩ := exists_header long
  simp only [declaredLength, headerSize, List.drop_succ_cons, List.drop_zero,
    List.take_succ_cons, List.take_zero, List.length_cons] at exact
  have whole : rest.take (ofLittleEndian [l₀, l₁]) = rest :=
    List.take_of_length_le (by omega)
  have field := littleEndian_ofLittleEndian [l₀, l₁]
  simp only [List.length_cons, List.length_nil] at field
  refine ⟨code, rfl, ?_⟩
  simp only [decode, whole, checksumOf, field, List.cons_append, List.nil_append]
  rw [if_neg (by omega)]
  rfl

/-- Bytes with another checksum than the stored one are refused. -/
theorem decode_of_mismatch (offset : Nat) {run : List UInt8}
    (exact : run.length = headerSize + declaredLength run)
    (differs : storedChecksum run ≠ computedChecksum run) :
    decode offset run =
      .error (.corrupt offset (.checksumMismatch (storedChecksum run) (computedChecksum run))) := by
  obtain ⟨code, _, decoded⟩ := decode_of_exact offset exact
  rw [decoded, if_pos differs]

/-- Bytes with the stored checksum are accepted, whatever they were before. -/
theorem decode_of_match (offset : Nat) {run : List UInt8} {kind : Kind}
    (exact : run.length = headerSize + declaredLength run)
    (same : storedChecksum run = computedChecksum run) (code_eq : run[6]? = some kind.code) :
    decode offset run = .ok ⟨kind, run.drop headerSize⟩ := by
  obtain ⟨code, found, decoded⟩ := decode_of_exact offset exact
  rw [code_eq, Option.some.injEq] at found
  rw [decoded, if_neg (not_not_intro same), ← found, Kind.ofCode?_code]

/-- A change of the stored checksum alone, or of four bytes next to each other
behind it, makes it differ from the computed one. -/
theorem mismatch_of_changed {run altered : List UInt8} {first last : Nat}
    (sound : storedChecksum run = computedChecksum run)
    (changed : ChangedWithin run altered first last)
    (burst : last ≤ 4 ∨ 4 ≤ first ∧ last ≤ first + 4) :
    storedChecksum altered ≠ computedChecksum altered := by
  have length_eq := changed.length_eq
  rcases burst with field | ⟨behind, short⟩
  · -- the bytes that the checksum covers are as they were
    have kept : computedChecksum altered = computedChecksum run := by
      rw [computedChecksum, computedChecksum]
      congr 1
      apply List.ext_getElem?
      intro index
      rw [List.getElem?_drop, List.getElem?_drop]
      exact changed.same _ (by omega)
    rw [kept, ← sound]
    intro same
    apply changed.take_drop_ne (Nat.zero_le first) (show last ≤ 0 + 4 by omega)
    rw [List.drop_zero, List.drop_zero]
    apply Checksum.eq_of_ofNat_eq _ _ same
    · rw [List.length_take, List.length_take, length_eq]
    · rw [List.length_take]
      exact Nat.min_le_left _ _
  · -- the stored checksum is as it was, and the burst changes the other one
    have field : (altered.drop 0).take 4 = (run.drop 0).take 4 :=
      changed.take_drop_eq (.inl behind)
    rw [List.drop_zero, List.drop_zero] at field
    have kept : storedChecksum altered = storedChecksum run := by
      rw [storedChecksum, field, storedChecksum]
    rw [kept, sound]
    intro same
    refine Checksum.crc32_ne_of_changed ?_ ?_ (first - 4) ?_ same
    · rw [List.length_drop, List.length_drop, length_eq]
    · intro rest_eq
      apply changed.differs
      rw [← List.take_append_drop 4 altered, field, ← rest_eq, List.take_append_drop]
    · intro index apart
      rw [List.getElem?_drop, List.getElem?_drop]
      exact (changed.same _ (by omega)).symm

/-- The checksum stored with a chunk is its own. -/
theorem storedChecksum_bytes {chunk : Chunk} (small : chunk.data.length ≤ maxDataSize) :
    storedChecksum chunk.bytes = computedChecksum chunk.bytes := by
  have done := decode_bytes_append 0 [] small
  have declared := declaredLength_bytes_append [] small
  rw [List.append_nil] at done declared
  exact checksum_of_decode done (by rw [length_bytes, declared, size])

/-- The length is told from any beginning that reaches over it. -/
theorem declaredLength_take_of_le {run : List UInt8} {length : Nat} (long : headerSize ≤ length) :
    declaredLength (run.take length) = declaredLength run := by
  rw [headerSize] at long
  rw [declaredLength, declaredLength, List.drop_take, List.take_take, Nat.min_eq_left (by omega)]

end Chunk

namespace Image

variable {image : Image}

/-- What is found at an offset depends on the length declared there. -/
theorem chunkAt_eq (whole : image.Whole) {offset frame : Nat}
    (header : offset + headerSize ≤ image.size)
    (declared : headerSize + Chunk.declaredLength (image.stored.drop offset) = frame) :
    image.chunkAt offset =
      if image.layout.remaining offset < frame then .error (.corrupt offset (.crossesBlock frame))
      else if image.size < offset + frame then
        .error (.truncated offset frame (image.size - offset))
      else Chunk.decode offset ((image.stored.drop offset).take frame) := by
  unfold chunkAt
  rw [if_neg (by omega), slice?_eq_take_drop whole header]
  simp only [Chunk.declaredLength_take, declared]
  by_cases crosses : image.layout.remaining offset < frame
  · rw [if_pos crosses, if_pos crosses]
  rw [if_neg crosses, if_neg crosses]
  by_cases cut : image.size < offset + frame
  · rw [if_pos cut, if_pos cut]
  rw [if_neg cut, if_neg cut, slice?_eq_take_drop whole (by omega)]

/-- What stands where a chunk is found. -/
theorem stands_of_chunkAt (whole : image.Whole) {offset : Nat} {chunk : Chunk}
    (found : image.chunkAt offset = .ok chunk) :
    chunk.data.length ≤ maxDataSize ∧ offset + chunk.size ≤ image.size ∧
      chunk.size ≤ image.layout.remaining offset ∧
        (image.stored.drop offset).take chunk.size = chunk.bytes ∧
          Chunk.declaredLength (image.stored.drop offset) = chunk.data.length := by
  obtain ⟨fits, stands⟩ := (chunkAt_eq_ok_iff whole).mp found
  have small := image.layout.length_le_of_fits fits
  refine ⟨small, stop_le_size_of_chunkAt whole found, fits, ?_, ?_⟩
  · rw [List.prefix_iff_eq_take, Chunk.length_bytes] at stands
    exact stands.symm
  · obtain ⟨rest, split_eq⟩ := stands
    rw [← split_eq, Chunk.declaredLength_bytes_append rest small]

/-- Where four bytes of a chunk next to each other are changed, but not its
length, the checksum is found to be wrong. -/
theorem chunkAt_of_burst {layout : Layout} {original altered : List UInt8} {offset : Nat}
    {chunk : Chunk} (found : (ofBytes layout original).chunkAt offset = .ok chunk)
    {first last : Nat} (changed : ChangedWithin original altered first last)
    (burst : offset ≤ first ∧ last ≤ offset + 4 ∨
      offset + 6 ≤ first ∧ last ≤ first + 4 ∧ last ≤ offset + chunk.size) :
    ∃ stored computed, (ofBytes layout altered).chunkAt offset =
      .error (.corrupt offset (.checksumMismatch stored computed)) := by
  obtain ⟨small, inSize, fits, run_eq, declared⟩ := stands_of_chunkAt (whole_ofBytes _ _) found
  rw [size_ofBytes] at inSize
  rw [layout_ofBytes] at fits
  rw [stored_ofBytes] at run_eq declared
  have size_eq : chunk.size = headerSize + chunk.data.length := rfl
  have header_eq : headerSize = 7 := rfl
  -- the length is as it was, so the same bytes are decoded as before
  have kept : Chunk.declaredLength (altered.drop offset) = chunk.data.length := by
    rw [← declared, Chunk.declaredLength, Chunk.declaredLength, List.drop_drop, List.drop_drop,
      changed.take_drop_eq (by omega)]
  have runChanged := changed.run offset chunk.size (by omega) (by omega)
  rw [run_eq] at runChanged
  have mismatch := Chunk.mismatch_of_changed (Chunk.storedChecksum_bytes small) runChanged
    (by omega)
  have refused := Chunk.decode_of_mismatch offset
    (by rw [runChanged.length_eq, Chunk.length_bytes, Chunk.declaredLength_take_of_le (by omega),
      kept, size_eq]) mismatch
  have decoded : (ofBytes layout altered).chunkAt offset =
      Chunk.decode offset ((altered.drop offset).take chunk.size) := by
    rw [chunkAt_eq (whole_ofBytes _ _) (by rw [size_ofBytes, changed.length_eq]; omega)
      (by rw [stored_ofBytes, kept, ← size_eq]), layout_ofBytes, if_neg (by omega), size_ofBytes,
      changed.length_eq, if_neg (by omega), stored_ofBytes]
  exact ⟨_, _, decoded.trans refused⟩

/-! ## Up to one chunk of a record -/

/-- What is read behind some bytes, with these in front. -/
def prepend (front : List UInt8) :
    Except Failure (List UInt8 × Nat) → Except Failure (List UInt8 × Nat)
  | .error cause => .error cause
  | .ok (rest, stop) => .ok (front ++ rest, stop)

theorem prepend_nil (answer : Except Failure (List UInt8 × Nat)) : prepend [] answer = answer := by
  cases answer <;> rfl

theorem prepend_prepend (front back : List UInt8) (answer : Except Failure (List UInt8 × Nat)) :
    prepend front (prepend back answer) = prepend (front ++ back) answer := by
  cases answer with
  | error cause => rfl
  | ok done => rw [prepend, prepend, prepend, List.append_assoc]

/-- Padding is skipped before a chunk is read. -/
theorem readChunks_align (isFirst : Bool) (offset : Nat) :
    image.readChunks isFirst (image.layout.align offset) = image.readChunks isFirst offset := by
  have aligned := image.layout.align_align offset
  cases answer : image.chunkAt (image.layout.align offset) with
  | error cause => rw [readChunks_of_error (by rwa [aligned]), readChunks_of_error answer]
  | ok chunk => rw [readChunks_of_chunkAt aligned answer, readChunks_of_chunkAt rfl answer]

/-- Behind a chunk that does not end its record the next one is read. -/
theorem readChunks_of_continues {isFirst : Bool} {offset : Nat} {chunk : Chunk}
    (found : image.chunkAt (image.layout.align offset) = .ok chunk)
    (starts : chunk.kind.startsRecord = isFirst) (continues : chunk.kind.endsRecord = false) :
    image.readChunks isFirst offset =
      prepend chunk.data (image.readChunks false (image.layout.align offset + chunk.size)) := by
  rw [readChunks_of_chunkAt rfl found, starts, continues]
  cases isFirst <;> rfl

/-- The chunk behind the first one stands behind it. -/
private theorem lt_of_mem_continuation {layout : Layout} {offset : Nat} {payload : List UInt8}
    {placed : PlacedChunk}
    (later : placed ∈ layout.continuation
      (layout.align offset + headerSize + layout.room (layout.align offset)) payload) :
    layout.align offset < placed.offset := by
  have onward := (layout.spans_continuation _ _).start_le later
  have forward := layout.le_align
    (layout.align offset + headerSize + layout.room (layout.align offset))
  have room_pos := layout.room_align_pos offset
  omega

/-- Where the chunks in front of one are found, reading the rest of a record
comes to that one; if it ends the record, it holds all that is left. -/
theorem readChunks_eq_prepend {offset : Nat} {payload : List UInt8} {placed : PlacedChunk}
    (among : placed ∈ image.layout.continuation offset payload)
    (before : ∀ other ∈ image.layout.continuation offset payload, other.offset < placed.offset →
      image.chunkAt other.offset = .ok other.chunk) :
    ∃ front, (placed.chunk.kind.endsRecord = true → payload = front ++ placed.chunk.data) ∧
      image.readChunks false offset = prepend front (image.readChunks false placed.offset) := by
  fun_induction Layout.continuation image.layout offset payload with
  | case1 offset payload start room fits =>
      rw [List.mem_singleton.mp among]
      exact ⟨[], fun _ => rfl, by rw [prepend_nil, readChunks_align]⟩
  | case2 offset payload start room exceeds ih =>
      rcases List.mem_cons.mp among with here | later
      · rw [here]
        exact ⟨[], fun ends => (by cases ends), by rw [prepend_nil, readChunks_align]⟩
      · have size_eq := Chunk.size_take .middle exceeds
        have found := before _ List.mem_cons_self (lt_of_mem_continuation later)
        obtain ⟨front, ends, onward⟩ :=
          ih later fun other member => before other (List.mem_cons_of_mem _ member)
        have first : image.readChunks false offset =
            prepend (payload.take room) (image.readChunks false (start + headerSize + room)) := by
          rw [Nat.add_assoc, ← size_eq]
          exact readChunks_of_continues found rfl rfl
        refine ⟨payload.take room ++ front, ?_, ?_⟩
        · intro last
          rw [List.append_assoc, ← ends last, List.take_append_drop]
        · rw [first, onward, prepend_prepend]

/-- Where the chunks in front of one are found, reading a record comes to that
one; if it ends the record, it holds all that is left. -/
theorem read_eq_prepend (isOpen : image.isOpen = true) {offset : Nat} {payload : List UInt8}
    {placed : PlacedChunk} (inside : image.layout.align offset < image.size)
    (among : placed ∈ image.layout.split offset payload)
    (before : ∀ other ∈ image.layout.split offset payload, other.offset < placed.offset →
      image.chunkAt other.offset = .ok other.chunk) :
    ∃ front, (placed.chunk.kind.endsRecord = true → payload = front ++ placed.chunk.data) ∧
      image.read (image.layout.align offset) =
        prepend front (image.readChunks placed.chunk.kind.startsRecord placed.offset) := by
  rw [read, isOpen, if_neg (by simp), if_neg (Nat.not_le.mpr inside), readChunks_align]
  simp only [Layout.split] at among before
  split at among
  · rw [List.mem_singleton.mp among]
    exact ⟨[], fun _ => rfl, by rw [prepend_nil, readChunks_align]; rfl⟩
  · rename_i exceeds
    rw [if_neg exceeds] at before
    rcases List.mem_cons.mp among with here | later
    · rw [here]
      exact ⟨[], fun ends => (by cases ends), by rw [prepend_nil, readChunks_align]; rfl⟩
    · have size_eq := Chunk.size_take .first exceeds
      have found := before _ List.mem_cons_self (lt_of_mem_continuation later)
      obtain ⟨front, ends, onward⟩ := readChunks_eq_prepend later
        fun other member => before other (List.mem_cons_of_mem _ member)
      have first := readChunks_of_continues found rfl rfl
      rw [size_eq, ← Nat.add_assoc, onward, prepend_prepend] at first
      refine ⟨_, ?_, by rw [Layout.startsRecord_of_mem_continuation later]; exact first⟩
      intro last
      rw [List.append_assoc, ← ends last, List.take_append_drop]

end Image

namespace Layout

variable {layout : Layout}

/-- The chunks of a record lie one behind the other. -/
theorem Spans.stop_le_of_lt {start stop : Nat} {chunks : List PlacedChunk}
    (spans : layout.Spans stop start chunks) {first second : PlacedChunk}
    (memberFirst : first ∈ chunks) (memberSecond : second ∈ chunks)
    (before : first.offset < second.offset) : first.stop ≤ second.offset := by
  induction spans with
  | last =>
      rw [List.mem_singleton.mp memberFirst, List.mem_singleton.mp memberSecond] at before
      exact absurd before (Nat.lt_irrefl _)
  | @more placed rest fills onward ih =>
      rcases List.mem_cons.mp memberFirst with rfl | laterFirst
      · rcases List.mem_cons.mp memberSecond with rfl | laterSecond
        · exact absurd before (Nat.lt_irrefl _)
        · exact onward.start_le laterSecond
      · rcases List.mem_cons.mp memberSecond with rfl | laterSecond
        · have behind := onward.start_le laterFirst
          rw [PlacedChunk.stop] at behind
          omega
        · exact ih laterFirst laterSecond

/-- Different records that were written lie apart. -/
theorem apart_of_ne {offset : Nat} {payloads : List (List UInt8)} {first second : Record}
    (memberFirst : first ∈ layout.writtenRecords offset payloads)
    (memberSecond : second ∈ layout.writtenRecords offset payloads) (ne : first ≠ second) :
    first.stop layout ≤ second.offset ∨ second.stop layout ≤ first.offset := by
  have ordered := List.pairwise_iff_getElem.mp (layout.pairwise_writtenRecords offset payloads)
  obtain ⟨low, inLow, rfl⟩ := List.getElem_of_mem memberFirst
  obtain ⟨high, inHigh, rfl⟩ := List.getElem_of_mem memberSecond
  rcases Nat.lt_trichotomy low high with less | rfl | greater
  · exact .inl (ordered low high inLow inHigh less)
  · exact absurd rfl ne
  · exact .inr (ordered high low inHigh inLow greater)

end Layout

namespace Image

variable {layout : Layout} {payloads : List (List UInt8)} {altered : List UInt8} {record : Record}
  {placed : PlacedChunk} {first last : Nat}

/-- All records stand in a file that was written. -/
theorem bears_written (layout : Layout) (payloads : List (List UInt8)) :
    (ofBytes layout (layout.writtenBytes 0 payloads)).Bears (layout.writtenRecords 0 payloads) := by
  have bears := bears_unaltered layout payloads (layout.writtenBytes 0 payloads)
  rwa [List.filter_eq_self.mpr fun record _ => by simp [Layout.isUnaltered]] at bears

/-- A chunk of a record that was written lies in the record. -/
theorem within_of_mem_split (member : record ∈ layout.writtenRecords 0 payloads)
    (among : placed ∈ layout.split record.offset record.payload) :
    record.offset ≤ placed.offset ∧ placed.offset + headerSize ≤ placed.stop ∧
      placed.stop ≤ record.stop layout :=
  have spans := (bears_written layout payloads).spans member
  ⟨spans.start_le among, Nat.add_le_add_left (Nat.le_add_right _ _) _, spans.stop_le among⟩

/-- A chunk of a record that was written is found again if it lies apart from
the change. -/
theorem chunkAt_of_apart (member : record ∈ layout.writtenRecords 0 payloads)
    (among : placed ∈ layout.split record.offset record.payload)
    (changed : ChangedWithin (layout.writtenBytes 0 payloads) altered first last)
    (apart : placed.stop ≤ first ∨ last ≤ placed.offset) :
    (ofBytes layout altered).chunkAt placed.offset = .ok placed.chunk := by
  have bears := bears_written layout payloads
  apply chunkAt_congr bears.whole (whole_ofBytes layout altered) rfl _
    (bears.found record member placed among)
  rw [stored_ofBytes, stored_ofBytes]
  exact changed.take_drop_eq apart

/-- Where one chunk of a record was changed, reading the record comes to that
chunk; if it ends the record, it held all that is left. -/
theorem exists_read_eq_prepend (member : record ∈ layout.writtenRecords 0 payloads)
    (among : placed ∈ layout.split record.offset record.payload)
    (changed : ChangedWithin (layout.writtenBytes 0 payloads) altered first last)
    (reached : placed.offset ≤ first) :
    ∃ front, (placed.chunk.kind.endsRecord = true → record.payload = front ++ placed.chunk.data) ∧
      (ofBytes layout altered).read record.offset = prepend front
        ((ofBytes layout altered).readChunks placed.chunk.kind.startsRecord placed.offset) := by
  have bears := bears_written layout payloads
  have aligned := layout.align_of_not_inPadding (bears.outside record member)
  have inside := lt_size_of_read _ (bears.read member)
  rw [size_ofBytes, ← changed.length_eq] at inside
  have before : ∀ other ∈ layout.split record.offset record.payload,
      other.offset < placed.offset →
        (ofBytes layout altered).chunkAt other.offset = .ok other.chunk := by
    intro other memberOther before
    have stop_le := (bears.spans member).stop_le_of_lt memberOther among before
    exact chunkAt_of_apart member memberOther changed (.inl (Nat.le_trans stop_le reached))
  obtain ⟨front, ends, read_eq⟩ := read_eq_prepend (isOpen_ofBytes layout altered)
    (by rwa [layout_ofBytes, aligned, size_ofBytes]) among before
  rw [layout_ofBytes, aligned] at read_eq
  exact ⟨front, ends, read_eq⟩

/-- A record with a change in one of its chunks is not read if the chunk is not
found any more. -/
theorem read_of_changed (member : record ∈ layout.writtenRecords 0 payloads)
    (among : placed ∈ layout.split record.offset record.payload)
    (changed : ChangedWithin (layout.writtenBytes 0 payloads) altered first last)
    (reached : placed.offset ≤ first) {cause : Failure}
    (missing : (ofBytes layout altered).chunkAt placed.offset = .error cause) :
    (ofBytes layout altered).read record.offset = .error cause := by
  have aligned := (layout.chain_split _ _).align_of_mem among
  obtain ⟨front, _, read_eq⟩ := exists_read_eq_prepend member among changed reached
  rw [read_eq, readChunks_of_error (by rwa [layout_ofBytes, aligned])]
  rfl

/-- A change in one record leaves the others. -/
theorem read_other_of_changed (member : record ∈ layout.writtenRecords 0 payloads)
    (changed : ChangedWithin (layout.writtenBytes 0 payloads) altered first last)
    (reached : record.offset ≤ first) (ended : last ≤ record.stop layout) {other : Record}
    (memberOther : other ∈ layout.writtenRecords 0 payloads) (ne : other ≠ record) :
    ∃ stop, (ofBytes layout altered).read other.offset = .ok (other.payload, stop) := by
  have bears := bears_written layout payloads
  have aligned := layout.align_of_not_inPadding (bears.outside other memberOther)
  have found : ∀ placed ∈ layout.split other.offset other.payload,
      (ofBytes layout altered).chunkAt placed.offset = .ok placed.chunk := by
    intro placed among
    obtain ⟨started, _, stopped⟩ := within_of_mem_split memberOther among
    apply chunkAt_of_apart memberOther among changed
    rcases layout.apart_of_ne memberOther member ne with before | behind
    · exact .inl (Nat.le_trans stopped (Nat.le_trans before reached))
    · exact .inr (Nat.le_trans ended (Nat.le_trans behind started))
  have done := read_split (isOpen_ofBytes layout altered) found
  rw [layout_ofBytes, aligned] at done
  exact ⟨_, done⟩

end Image

/-! ## Segments whose file is changed -/

namespace Segment

variable {path : Path} {id : SegmentId} {layout : Layout} {payloads : List (List UInt8)}
  {storage written : Storage} {anchors : List Nat} {segment : Segment} {original altered : Content}

/-- The bytes of a segment's file are changed while it is open. It then answers
in some way, and so does another one that is opened after it is closed, where
handles can be duplicated. -/
def AfterChange (segment : Segment) (path : Path) (altered : Content) (storage : Storage)
    (answers : Segment → Storage → Prop) : Prop :=
  ∃ after,
    storage.changeFile path (fun _ => .ok altered) = (.ok (), after) ∧ answers segment after ∧
      (storage.Duplicates → ∃ reopened final,
        openExisting path segment.id segment.layout (segment.close after).2.2 =
            (.ok reopened, final) ∧
          answers reopened final)

/-- All records but one are read back. -/
def ReadsOthers (segment : Segment) (storage : Storage) (records : List Record)
    (record : Record) : Prop :=
  ∀ other ∈ records, other ≠ record → segment.read storage other.offset = .ok other.payload

/-- A record is not read because one of its chunks has a wrong checksum, and all
others are read back. -/
structure Detects (segment : Segment) (storage : Storage) (records : List Record)
    (record : Record) (placed : PlacedChunk) : Prop where
  refuses : ∃ stored computed, segment.read storage record.offset =
    .error (.corrupt placed.offset (.checksumMismatch stored computed))
  others : segment.ReadsOthers storage records record

/-- The file of a segment that was built holds the bytes of its payloads. -/
theorem toList_eq_of_build
    (built : Segment.build path id layout payloads storage = (.ok (anchors, segment), written))
    (bytes_eq : written.fileBytes path = .ok original) :
    original.toList = layout.writtenBytes 0 payloads := by
  obtain ⟨node, found, fills, _⟩ := build_eq_ok built
  simp only [Storage.fileBytes, found] at bytes_eq
  rw [← Except.ok.inj bytes_eq, fills.bytes_eq]

/-- A segment whose file is changed, but not its length, sees the changed
bytes, whether it is still open or opened again. -/
theorem afterChange_of_image
    (built : Segment.build path id layout payloads storage = (.ok (anchors, segment), written))
    (bytes_eq : written.fileBytes path = .ok original)
    (length_eq : altered.toList.length = original.toList.length)
    {answers : Segment → Storage → Prop}
    (sees : ∀ segment storage, segment.image storage = .ofBytes layout altered.toList →
      answers segment storage) :
    segment.AfterChange path altered written answers := by
  have original_eq := toList_eq_of_build built bytes_eq
  obtain ⟨node, found, fills, _⟩ := build_eq_ok built
  obtain ⟨after, changed, rewrites, refusals_eq⟩ : ∃ after,
      written.changeFile path (fun _ => .ok altered) = (.ok (), after) ∧
        written.Rewrites after node altered ∧ after.toRefusals = written.toRefusals :=
    Storage.changeFile_eq found fills.inRange rfl
  have keeps := segment.keeps_close after
  have foundAgain : (segment.close after).2.2.findFile path = .ok node := by
    rw [Storage.findFile_congr keeps.entries_eq, Storage.findFile_congr rewrites.entries_eq, found]
  refine ⟨after, changed, sees _ _ ?_, fun duplicates => ?_⟩
  · have size_eq : segment.size = (after.nodeBytes node).size := by
      rw [rewrites.bytes_eq, fills.size_eq, ← original_eq, ← length_eq, Array.length_toList]
    rw [(fills.toServes.rewrites rewrites).image_eq_ofBytes size_eq, rewrites.bytes_eq]
  · rw [← refusals_eq, ← segment.toRefusals_close after] at duplicates
    obtain ⟨reopened, final, openExisting_eq, keepsOpen, _, opens⟩ :=
      exists_openExisting duplicates segment.id segment.layout foundAgain []
    refine ⟨reopened, final, openExisting_eq, sees _ _ ?_⟩
    rw [opens.toServes.image_eq_ofBytes opens.size_eq, keepsOpen.bytes_eq, keeps.bytes_eq,
      rewrites.bytes_eq, fills.layout_eq]

/-- A change of the file inside one record leaves the others. -/
theorem readsOthers_of_changed {record : Record} {first last : Nat} {seen : Segment}
    {storage : Storage} (image_eq : seen.image storage = .ofBytes layout altered.toList)
    (member : record ∈ layout.writtenRecords 0 payloads)
    (changed : ChangedWithin (layout.writtenBytes 0 payloads) altered.toList first last)
    (reached : record.offset ≤ first) (ended : last ≤ record.stop layout) :
    seen.ReadsOthers storage (layout.writtenRecords 0 payloads) record := by
  intro other memberOther ne
  obtain ⟨stop, done⟩ := Image.read_other_of_changed member changed reached ended memberOther ne
  rw [Segment.read, image_eq, done]

end Segment

/-- In a chunk, its stored checksum was changed, or up to four bytes next to each
other behind its length. -/
def PlacedChunk.Burst (placed : PlacedChunk) (original altered : List UInt8) : Prop :=
  ∃ first last, ChangedWithin original altered first last ∧
    (placed.offset ≤ first ∧ last ≤ placed.offset + 4 ∨
      placed.offset + 6 ≤ first ∧ last ≤ first + 4 ∧ last ≤ placed.stop)

namespace Segment

/-- After a short burst in one chunk of a record the checksum of that chunk is
found to be wrong, and all other records are read back. -/
theorem detects_burst {path : Path} {id : SegmentId} {layout : Layout}
    {payloads : List (List UInt8)} {storage written : Storage} {anchors : List Nat}
    {segment : Segment}
    (built : Segment.build path id layout payloads storage = (.ok (anchors, segment), written))
    {original altered : Content} (bytes_eq : written.fileBytes path = .ok original)
    {record : Record} (member : record ∈ recordsAt anchors payloads) {placed : PlacedChunk}
    (among : placed ∈ layout.split record.offset record.payload)
    (burst : placed.Burst original.toList altered.toList) :
    segment.AfterChange path altered written fun segment storage =>
      segment.Detects storage (recordsAt anchors payloads) record placed := by
  obtain ⟨first, last, changed, apart⟩ := burst
  apply afterChange_of_image built bytes_eq changed.length_eq
  intro seen storage image_eq
  obtain ⟨_, _, _, records_eq, _⟩ := build_eq_ok built
  rw [toList_eq_of_build built bytes_eq] at changed
  rw [records_eq] at member ⊢
  obtain ⟨started, long, ended⟩ := Image.within_of_mem_split member among
  rw [headerSize] at long
  have found := (Image.bears_written layout payloads).found record member placed among
  obtain ⟨stored, computed, refused⟩ := Image.chunkAt_of_burst found changed apart
  constructor
  · refine ⟨stored, computed, ?_⟩
    rw [Segment.read, image_eq, Image.read_of_changed member among changed (by omega) refused]
  · exact readsOthers_of_changed image_eq member changed (by omega) (by omega)

/-- What can be filled can be built, and holds the bytes of its payloads. -/
theorem exists_build_of_filled {layout : Layout} {payloads : List (List UInt8)}
    {anchors : List Nat} {size : Nat}
    (filled : (fill ⟨"1.seg"⟩ .first layout payloads .empty).1 = .ok (anchors, size)) :
    ∃ segment written,
      build ⟨"1.seg"⟩ .first layout payloads .empty = (.ok (anchors, segment), written) ∧
        written.fileBytes ⟨"1.seg"⟩ = .ok (filledContent layout payloads) := by
  obtain ⟨segment, written, built, _⟩ := exists_build_of_fill (Prod.ext filled rfl)
  obtain ⟨node, found, fills, _⟩ := build_eq_ok built
  refine ⟨segment, written, built, ?_⟩
  rw [Storage.fileBytes, found, filledContent, ← fills.bytes_eq]

/-- A bit of the first of two records is flipped, behind the length of its
chunk. -/
theorem detects_burst_of_flip :
    ∃ segment written,
      build ⟨"1.seg"⟩ .first smallLayout [[1, 2, 3], [4, 5]] .empty =
          (.ok ([0, 10], segment), written) ∧
        segment.AfterChange ⟨"1.seg"⟩
          (flipBits (filledContent smallLayout [[1, 2, 3], [4, 5]]) 8 64) written
          fun segment storage => segment.Detects storage [⟨0, [1, 2, 3]⟩, ⟨10, [4, 5]⟩]
            ⟨0, [1, 2, 3]⟩ ⟨0, .full, [1, 2, 3]⟩ := by
  have filled : (fill ⟨"1.seg"⟩ .first smallLayout [[1, 2, 3], [4, 5]] .empty).1 =
      .ok ([0, 10], 19) := by decide +kernel
  obtain ⟨segment, written, built, bytes_eq⟩ := exists_build_of_filled filled
  have changed : ChangedWithin (filledContent smallLayout [[1, 2, 3], [4, 5]]).toList
      (flipBits (filledContent smallLayout [[1, 2, 3], [4, 5]]) 8 64).toList 8 9 :=
    changedWithin_flipBits (by decide +kernel) (by decide)
  exact ⟨segment, written, built, detects_burst built bytes_eq (by decide) (by decide +kernel)
    ⟨8, 9, changed, .inr (by decide)⟩⟩

end Segment

end RecordLog
