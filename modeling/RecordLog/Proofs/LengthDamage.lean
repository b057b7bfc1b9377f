import RecordLog.Proofs.ChunkDamage

/-!
# Damage to the length of a chunk

The length of a chunk says which bytes its checksum covers. Where it is changed,
other bytes are covered than before, and the change is noticed unless the
checksum of these happens to be the stored one. In that case they are a chunk
like any other, and if it ends the record, a payload of another length is read
in place of the one that was written.
-/

namespace RecordLog

/-- The bytes at an offset are damaged, or some are missing there. -/
def Failure.DamagedAt (offset : Nat) : Failure → Prop
  | .corrupt place _ => place = offset
  | .truncated place _ _ => place = offset
  | _ => False

/-! ## Runs of the declared length -/

namespace Chunk

/-- The bytes that a chunk has which is stored at the start of some bytes, going
by the length declared there. -/
def declaredRun (bytes : List UInt8) : List UInt8 :=
  bytes.take (headerSize + declaredLength bytes)

theorem length_declaredRun {bytes : List UInt8}
    (enough : headerSize + declaredLength bytes ≤ bytes.length) :
    (declaredRun bytes).length = headerSize + declaredLength (declaredRun bytes) := by
  rw [declaredRun, declaredLength_take_of_le (Nat.le_add_right _ _), List.length_take,
    Nat.min_eq_left enough]

/-- Different fields of length declare different lengths. -/
theorem declaredLength_ne {first second : List UInt8} (length_eq : first.length = second.length)
    (differs : (first.drop 4).take 2 ≠ (second.drop 4).take 2) :
    declaredLength first ≠ declaredLength second := by
  intro same
  apply differs
  rw [declaredLength, declaredLength] at same
  have field_eq : ((first.drop 4).take 2).length = ((second.drop 4).take 2).length := by
    rw [List.length_take, List.length_take, List.length_drop, List.length_drop, length_eq]
  rw [← littleEndian_ofLittleEndian ((first.drop 4).take 2), same, field_eq,
    littleEndian_ofLittleEndian]

end Chunk

/-- The length that is declared at an offset fits the block and the file, and the
checksum stored there happens to be that of the bytes it covers. -/
structure Layout.Coincides (layout : Layout) (bytes : List UInt8) (offset : Nat) : Prop where
  inBlock : headerSize + Chunk.declaredLength (bytes.drop offset) ≤ layout.remaining offset
  inFile : offset + (headerSize + Chunk.declaredLength (bytes.drop offset)) ≤ bytes.length
  checksum_eq : Chunk.storedChecksum (Chunk.declaredRun (bytes.drop offset)) =
    Chunk.computedChecksum (Chunk.declaredRun (bytes.drop offset))

instance (layout : Layout) (bytes : List UInt8) (offset : Nat) :
    Decidable (layout.Coincides bytes offset) :=
  decidable_of_iff (_ ∧ _ ∧ _)
    ⟨fun ⟨inBlock, inFile, checksum_eq⟩ => ⟨inBlock, inFile, checksum_eq⟩,
      fun ⟨inBlock, inFile, checksum_eq⟩ => ⟨inBlock, inFile, checksum_eq⟩⟩

namespace Image

variable {layout : Layout} {bytes original altered : List UInt8} {offset : Nat} {chunk : Chunk}

/-- Where the checksum does not happen to be right, no chunk is found. -/
theorem chunkAt_of_not_coincides (header : offset + headerSize ≤ bytes.length)
    (differs : ¬ layout.Coincides bytes offset) :
    ∃ cause, (ofBytes layout bytes).chunkAt offset = .error cause ∧ cause.DamagedAt offset := by
  have chunkAt_eq := chunkAt_eq (whole_ofBytes layout bytes) (by rwa [size_ofBytes]) rfl
  rw [stored_ofBytes, layout_ofBytes, size_ofBytes] at chunkAt_eq
  by_cases crosses : layout.remaining offset <
      headerSize + Chunk.declaredLength (bytes.drop offset)
  · rw [if_pos crosses] at chunkAt_eq
    exact ⟨_, chunkAt_eq, rfl⟩
  rw [if_neg crosses] at chunkAt_eq
  by_cases cut : bytes.length < offset + (headerSize + Chunk.declaredLength (bytes.drop offset))
  · rw [if_pos cut] at chunkAt_eq
    exact ⟨_, chunkAt_eq, rfl⟩
  rw [if_neg cut] at chunkAt_eq
  have enough : headerSize + Chunk.declaredLength (bytes.drop offset) ≤
      (bytes.drop offset).length := by
    rw [List.length_drop]
    omega
  have exact := Chunk.length_declaredRun enough
  have mismatch : Chunk.storedChecksum (Chunk.declaredRun (bytes.drop offset)) ≠
      Chunk.computedChecksum (Chunk.declaredRun (bytes.drop offset)) := by
    intro same
    exact differs ⟨Nat.le_of_not_lt crosses, Nat.le_of_not_lt cut, same⟩
  exact ⟨_, chunkAt_eq.trans (Chunk.decode_of_mismatch offset exact mismatch), rfl⟩

/-- Where the checksum happens to be right, a chunk of the declared length is
found. -/
theorem chunkAt_of_coincides (coincides : layout.Coincides bytes offset) {kind : Kind}
    (code_eq : bytes[offset + 6]? = some kind.code) :
    ∃ data, (ofBytes layout bytes).chunkAt offset = .ok ⟨kind, data⟩ ∧
      data.length = Chunk.declaredLength (bytes.drop offset) := by
  obtain ⟨inBlock, inFile, checksum_eq⟩ := coincides
  have header : offset + headerSize ≤ bytes.length := by omega
  have chunkAt_eq := chunkAt_eq (whole_ofBytes layout bytes) (by rwa [size_ofBytes]) rfl
  rw [stored_ofBytes, layout_ofBytes, size_ofBytes, if_neg (Nat.not_lt.mpr inBlock),
    if_neg (Nat.not_lt.mpr inFile)] at chunkAt_eq
  have enough : headerSize + Chunk.declaredLength (bytes.drop offset) ≤
      (bytes.drop offset).length := by
    rw [List.length_drop]
    omega
  have exact := Chunk.length_declaredRun enough
  have code : (Chunk.declaredRun (bytes.drop offset))[6]? = some kind.code := by
    rw [Chunk.declaredRun, List.getElem?_take, if_pos (by rw [headerSize]; omega),
      List.getElem?_drop, code_eq]
  refine ⟨_, chunkAt_eq.trans (Chunk.decode_of_match offset exact checksum_eq code), ?_⟩
  rw [List.length_drop, List.length_take, Nat.min_eq_left enough, Nat.add_sub_cancel_left]

/-- Where only the length of a chunk was changed, a chunk of the same kind and
another length is found if the checksum happens to be right. -/
theorem exists_chunkAt_of_coincides (found : (ofBytes layout original).chunkAt offset = .ok chunk)
    (changed : ChangedWithin original altered (offset + 4) (offset + 6))
    (coincides : layout.Coincides altered offset) :
    ∃ data, (ofBytes layout altered).chunkAt offset = .ok ⟨chunk.kind, data⟩ ∧
      data.length ≠ chunk.data.length := by
  obtain ⟨_, _, _, _, declared⟩ := stands_of_chunkAt (whole_ofBytes _ _) found
  have code_eq := code_of_chunkAt _ found
  have bytes_eq : (ofBytes layout original).bytes[offset + 6]? = original[offset + 6]? := by
    simp [ofBytes]
  rw [bytes_eq, ← changed.same _ (by omega)] at code_eq
  obtain ⟨data, again, length_eq⟩ := chunkAt_of_coincides coincides code_eq
  refine ⟨data, again, ?_⟩
  rw [length_eq, ← declared, stored_ofBytes]
  apply Chunk.declaredLength_ne
  · rw [List.length_drop, List.length_drop, changed.length_eq]
  · rw [List.drop_drop, List.drop_drop]
    exact changed.take_drop_ne (Nat.le_refl _) (Nat.le_refl _)

/-! ## Records with a changed length -/

variable {payloads : List (List UInt8)} {record : Record} {placed : PlacedChunk}

/-- Where the checksum does not happen to be right, the record is not read. -/
theorem read_of_not_coincides (member : record ∈ layout.writtenRecords 0 payloads)
    (among : placed ∈ layout.split record.offset record.payload)
    (changed : ChangedWithin (layout.writtenBytes 0 payloads) altered (placed.offset + 4)
      (placed.offset + 6))
    (differs : ¬ layout.Coincides altered placed.offset) :
    ∃ cause, (ofBytes layout altered).read record.offset = .error cause ∧
      cause.DamagedAt placed.offset := by
  have bears := bears_written layout payloads
  have inSize := stop_le_size_of_chunkAt bears.whole (bears.found record member placed among)
  rw [size_ofBytes, ← changed.length_eq, Chunk.size] at inSize
  obtain ⟨cause, missing, damaged⟩ := chunkAt_of_not_coincides (by omega) differs
  exact ⟨cause, read_of_changed member among changed (Nat.le_add_right _ _) missing, damaged⟩

/-- Where the checksum happens to be right, and the chunk ends the record, a
payload of another length is read. -/
theorem read_of_coincides (member : record ∈ layout.writtenRecords 0 payloads)
    (among : placed ∈ layout.split record.offset record.payload)
    (changed : ChangedWithin (layout.writtenBytes 0 payloads) altered (placed.offset + 4)
      (placed.offset + 6))
    (coincides : layout.Coincides altered placed.offset)
    (ends : placed.chunk.kind.endsRecord = true) :
    ∃ payload stop, (ofBytes layout altered).read record.offset = .ok (payload, stop) ∧
      payload.length ≠ record.payload.length := by
  have aligned := (layout.chain_split _ _).align_of_mem among
  have bears := bears_written layout payloads
  obtain ⟨data, found, ne⟩ := exists_chunkAt_of_coincides
    (bears.found record member placed among) changed coincides
  obtain ⟨front, left, read_eq⟩ :=
    exists_read_eq_prepend member among changed (Nat.le_add_right _ _)
  have foundAligned : (ofBytes layout altered).chunkAt
      ((ofBytes layout altered).layout.align placed.offset) = .ok ⟨placed.chunk.kind, data⟩ := by
    rwa [layout_ofBytes, aligned]
  have done := (Collects.last foundAligned rfl ends).readChunks
  refine ⟨front ++ data, _, by rw [read_eq, done]; rfl, ?_⟩
  rw [left ends, List.length_append, List.length_append]
  omega

end Image

namespace Segment

/-- What a segment answers for a record after the length of one of its chunks was
changed to what now stands in the file. Damage is reported at that chunk, unless
the checksum happens to be right; and if it is, and the chunk ends the record, a
payload of another length is read. All other records are read back. -/
structure ChecksLength (segment : Segment) (storage : Storage) (bytes : List UInt8)
    (records : List Record) (record : Record) (placed : PlacedChunk) : Prop where
  refuses : ¬ segment.layout.Coincides bytes placed.offset → ∃ cause,
    segment.read storage record.offset = .error cause ∧ cause.DamagedAt placed.offset
  accepts : segment.layout.Coincides bytes placed.offset →
    placed.chunk.kind.endsRecord = true → ∃ payload,
      segment.read storage record.offset = .ok payload ∧ payload.length ≠ record.payload.length
  others : segment.ReadsOthers storage records record

/-- The length of one chunk of a record is changed in any way. Reading the record
then reports damage at that chunk, unless the checksum happens to be right for
the bytes that the new length covers; and all other records are read back. -/
theorem checksLength_of_changed {path : Path} {id : SegmentId} {layout : Layout}
    {payloads : List (List UInt8)} {storage written : Storage} {anchors : List Nat}
    {segment : Segment}
    (built : Segment.build path id layout payloads storage = (.ok (anchors, segment), written))
    {original altered : Content} (bytes_eq : written.fileBytes path = .ok original)
    {record : Record} (member : record ∈ recordsAt anchors payloads) {placed : PlacedChunk}
    (among : placed ∈ layout.split record.offset record.payload)
    (changed : ChangedWithin original.toList altered.toList (placed.offset + 4)
      (placed.offset + 6)) :
    segment.AfterChange path altered written fun segment storage =>
      segment.ChecksLength storage altered.toList (recordsAt anchors payloads) record placed := by
  apply afterChange_of_image built bytes_eq changed.length_eq
  intro seen storage image_eq
  obtain ⟨_, _, _, records_eq, _⟩ := build_eq_ok built
  rw [toList_eq_of_build built bytes_eq] at changed
  rw [records_eq] at member ⊢
  have layout_eq : seen.layout = layout := congrArg Image.layout image_eq
  obtain ⟨started, long, ended⟩ := Image.within_of_mem_split member among
  rw [headerSize] at long
  constructor
  · rw [layout_eq]
    intro differs
    obtain ⟨cause, failed, damaged⟩ :=
      Image.read_of_not_coincides member among changed differs
    exact ⟨cause, by rw [Segment.read, image_eq, failed], damaged⟩
  · rw [layout_eq]
    intro coincides ends
    obtain ⟨payload, stop, done, ne⟩ :=
      Image.read_of_coincides member among changed coincides ends
    exact ⟨payload, by rw [Segment.read, image_eq, done], ne⟩
  · exact readsOthers_of_changed image_eq member changed (by omega) (by omega)

/-- The length of the first of two records is changed by one bit. -/
theorem checksLength_of_flip :
    ¬ smallLayout.Coincides
        (flipBits (filledContent smallLayout [[1, 2, 3], [4, 5]]) 4 4).toList 0 ∧
      ∃ segment written,
        build ⟨"1.seg"⟩ .first smallLayout [[1, 2, 3], [4, 5]] .empty =
            (.ok ([0, 10], segment), written) ∧
          segment.AfterChange ⟨"1.seg"⟩
            (flipBits (filledContent smallLayout [[1, 2, 3], [4, 5]]) 4 4) written
            fun segment storage => segment.ChecksLength storage
              (flipBits (filledContent smallLayout [[1, 2, 3], [4, 5]]) 4 4).toList
              [⟨0, [1, 2, 3]⟩, ⟨10, [4, 5]⟩] ⟨0, [1, 2, 3]⟩ ⟨0, .full, [1, 2, 3]⟩ := by
  have filled : (fill ⟨"1.seg"⟩ .first smallLayout [[1, 2, 3], [4, 5]] .empty).1 =
      .ok ([0, 10], 19) := by decide +kernel
  obtain ⟨segment, written, built, bytes_eq⟩ := exists_build_of_filled filled
  have changed : ChangedWithin (filledContent smallLayout [[1, 2, 3], [4, 5]]).toList
      (flipBits (filledContent smallLayout [[1, 2, 3], [4, 5]]) 4 4).toList 4 6 :=
    (changedWithin_flipBits (by decide +kernel) (by decide)).widen (by decide) (by decide)
  exact ⟨by decide +kernel, segment, written, built,
    checksLength_of_changed built bytes_eq (by decide) (by decide +kernel) changed⟩

/-- Change the file of a new segment with some payloads, open it again, and read
what is anchored at an offset. -/
def readChanged (layout : Layout) (payloads : List (List UInt8)) (altered : Content)
    (offset : Nat) : Except Failure (List UInt8) :=
  match (filledStorage layout payloads).changeFile ⟨"1.seg"⟩ fun _ => .ok altered with
  | (.error cause, _) => .error (.storage cause)
  | (.ok (), storage) =>
      match openExisting ⟨"1.seg"⟩ .first layout storage with
      | (.error cause, _) => .error cause
      | (.ok segment, storage) => segment.read storage offset

/-- A payload with the checksum of an empty one. -/
def mimickingPayload : List UInt8 := [0xe8, 0x01, 0x22, 0xf7]

/-- A payload is read as empty after a single bit of its length was flipped. -/
theorem flippedLength_reads_other :
    (filledStorage smallLayout [mimickingPayload]).fileBytes ⟨"1.seg"⟩ =
        .ok (filledContent smallLayout [mimickingPayload]) ∧
      smallLayout.split 0 mimickingPayload = [⟨0, .full, mimickingPayload⟩] ∧
      readChanged smallLayout [mimickingPayload]
          (filledContent smallLayout [mimickingPayload]) 0 = .ok mimickingPayload ∧
      readChanged smallLayout [mimickingPayload]
          (flipBits (filledContent smallLayout [mimickingPayload]) 4 4) 0 = .ok [] := by
  decide +kernel

end Segment

end RecordLog
