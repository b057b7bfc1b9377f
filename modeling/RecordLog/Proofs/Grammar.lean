import RecordLog.Proofs.Blocks
import RecordLog.Proofs.Reading

/-!
# The grammar of records

A stored chunk is described by the fields of its bytes: the checksum, the length,
the kind and the data, each in its place, all within one block of the file. A
record is a full chunk, or a first chunk, any number of middle chunks and a last
one, each at the aligned offset behind the chunk before it. The bytes of a file
whose length is below the largest offset follow this grammar exactly where a
reader collects the chunks of a record.
-/

namespace RecordLog

/-- A chunk is stored at an offset of a file. -/
structure ChunkStored (layout : Layout) (file : List UInt8) (offset : Nat) (chunk : Chunk) :
    Prop where
  inBlock : offset % layout.blockSize + chunk.size ≤ layout.blockSize
  inFile : offset + chunk.size ≤ file.length
  checksum : ofLittleEndian ((file.drop offset).take 4) =
    (Checksum.crc32 ((file.drop (offset + 4)).take (3 + chunk.data.length))).toNat
  length : ofLittleEndian ((file.drop (offset + 4)).take 2) = chunk.data.length
  kind : file[offset + 6]? = some chunk.kind.code
  data : (file.drop (offset + 7)).take chunk.data.length = chunk.data

/-- The chunks after the first one of a record, from an offset on. -/
inductive Continued (layout : Layout) (file : List UInt8) : Nat → List UInt8 → Prop
  | last {offset : Nat} {data : List UInt8}
      (stored : ChunkStored layout file (layout.readOffset offset) ⟨.last, data⟩) :
      Continued layout file offset data
  | middle {offset : Nat} {data rest : List UInt8}
      (stored : ChunkStored layout file (layout.readOffset offset) ⟨.middle, data⟩)
      (onward : Continued layout file (layout.readOffset offset + (headerSize + data.length)) rest) :
      Continued layout file offset (data ++ rest)

/-- A record is stored at an offset of a file. -/
inductive RecordStored (layout : Layout) (file : List UInt8) : Nat → List UInt8 → Prop
  | full {offset : Nat} {data : List UInt8}
      (stored : ChunkStored layout file (layout.readOffset offset) ⟨.full, data⟩) :
      RecordStored layout file offset data
  | spanning {offset : Nat} {data rest : List UInt8}
      (stored : ChunkStored layout file (layout.readOffset offset) ⟨.first, data⟩)
      (onward : Continued layout file (layout.readOffset offset + (headerSize + data.length)) rest) :
      RecordStored layout file offset (data ++ rest)

/-! ## Chunks -/

/-- The fields of a chunk at the start of some bytes. -/
private theorem decode_iff_fields (offset : Nat) (bytes : List UInt8) (chunk : Chunk) :
    Chunk.decode offset bytes = .ok chunk ↔
      chunk.size ≤ bytes.length ∧
        ofLittleEndian (bytes.take 4) =
            (Checksum.crc32 ((bytes.drop 4).take (3 + chunk.data.length))).toNat ∧
          ofLittleEndian ((bytes.drop 4).take 2) = chunk.data.length ∧
            bytes[6]? = some chunk.kind.code ∧
              (bytes.drop 7).take chunk.data.length = chunk.data := by
  unfold Chunk.decode
  split
  · rename_i c₀ c₁ c₂ c₃ l₀ l₁ code rest
    have lengthField := littleEndian_ofLittleEndian [l₀, l₁]
    have checksumBound := ofLittleEndian_lt [c₀, c₁, c₂, c₃]
    simp only [List.length_cons, List.length_nil, fieldRange] at lengthField checksumBound
    simp only [Chunk.size, headerSize, Chunk.checksumOf, lengthField, Nat.add_comm 3,
      List.length_cons, List.take_succ_cons, List.take_zero, List.drop_succ_cons, List.drop_zero,
      List.getElem?_cons_succ, List.getElem?_cons_zero, List.cons_append, List.nil_append]
    constructor
    · intro done
      split at done
      · cases done
      rename_i enough
      split at done
      · cases done
      rename_i same
      split at done
      · cases done
      · rename_i kind known
        cases done
        have code_eq : code = kind.code := Kind.ofCode?_eq_some_iff.mp known
        have length_eq : (rest.take (ofLittleEndian [l₀, l₁])).length =
            ofLittleEndian [l₀, l₁] := by
          rw [List.length_take]
          omega
        simp only [ne_eq, Decidable.not_not] at same
        rw [length_eq, ← same, UInt32.toNat_ofNat_of_lt' checksumBound, code_eq]
        exact ⟨by omega, rfl, rfl, rfl, rfl⟩
    · rintro ⟨enough, checksum, length, kind, data⟩
      cases kind
      rw [length, if_neg (by omega), checksum, UInt32.ofNat_toNat]
      simp [data]
  · rename_i short
    constructor
    · intro failed
      cases failed
    · rintro ⟨enough, _⟩
      obtain ⟨c₀, c₁, c₂, c₃, l₀, l₁, code, rest, long⟩ :=
        Chunk.exists_header (Nat.le_trans (Nat.le_add_right _ _) enough)
      exact absurd long (short c₀ c₁ c₂ c₃ l₀ l₁ code rest)

namespace Image

variable {image : Image}

/-- A chunk is found exactly where it is stored. -/
theorem chunkAt_iff_chunkStored (whole : image.Whole) {offset : Nat} {chunk : Chunk} :
    image.chunkAt offset = .ok chunk ↔ ChunkStored image.layout image.stored offset chunk := by
  have within := Nat.mod_lt offset image.layout.blockSize_pos
  have fields := decode_iff_fields offset (image.stored.drop offset) chunk
  simp only [Chunk.decode_eq_ok_iff, List.drop_drop, List.getElem?_drop, List.length_drop]
    at fields
  rw [chunkAt_eq_ok_iff whole, Layout.remaining]
  constructor
  · rintro ⟨inBlock, stands⟩
    have small := image.layout.length_le_of_fits inBlock
    obtain ⟨inFile, checksum, length, kind, data⟩ := fields.mp ⟨small, stands⟩
    refine ⟨by omega, ?_, checksum, length, kind, data⟩
    simp only [Chunk.size, headerSize] at inFile ⊢
    omega
  · rintro ⟨inBlock, inFile, checksum, length, kind, data⟩
    exact ⟨by omega, (fields.mpr ⟨by omega, checksum, length, kind, data⟩).2⟩

end Image

/-! ## Records -/

/-- In a file whose length is an offset, a chunk is stored behind an offset only
where alignment is exact. -/
theorem ChunkStored.readOffset_eq {layout : Layout} {file : List UInt8} {offset : Nat}
    {chunk : Chunk} (small : file.length ≤ maxOffset)
    (stored : ChunkStored layout file (layout.readOffset offset) chunk) :
    layout.readOffset offset = layout.align offset := by
  have inFile := stored.inFile
  simp only [Layout.readOffset, Chunk.size, headerSize] at inFile ⊢
  omega

namespace Image

variable {image : Image} {offset : Nat} {payload : List UInt8}

theorem chunkAt_align_iff (whole : image.Whole) (small : image.size ≤ maxOffset) {chunk : Chunk} :
    image.chunkAt (image.layout.align offset) = .ok chunk ↔
      ChunkStored image.layout image.stored (image.layout.readOffset offset) chunk := by
  constructor
  · intro found
    have inside := image.offset_lt_size_of_chunkAt found
    rw [Layout.readOffset, Nat.min_eq_left (by omega)]
    exact (chunkAt_iff_chunkStored whole).mp found
  · intro stored
    rw [stored.readOffset_eq (by rwa [length_stored whole])] at stored
    exact (chunkAt_iff_chunkStored whole).mpr stored

/-- The later chunks of a record are collected where they continue one. -/
theorem continued_iff (whole : image.Whole) (small : image.size ≤ maxOffset) :
    Continued image.layout image.stored offset payload ↔
      ∃ stop, image.Collects false offset payload stop := by
  have small' : image.stored.length ≤ maxOffset := by rwa [length_stored whole]
  constructor
  · intro continued
    induction continued with
    | last stored =>
        exact ⟨_, .last ((chunkAt_align_iff whole small).mpr stored) rfl rfl⟩
    | middle stored _ ih =>
        obtain ⟨stop, onward⟩ := ih
        rw [stored.readOffset_eq small'] at onward
        exact ⟨stop, .more ((chunkAt_align_iff whole small).mpr stored) rfl rfl onward⟩
  · rintro ⟨stop, collects⟩
    generalize isFirst_eq : false = isFirst at collects
    induction collects with
    | @last _ _ chunk found starts ends =>
        obtain ⟨kind, data⟩ := chunk
        subst isFirst_eq
        cases kind with
        | last => exact .last ((chunkAt_align_iff whole small).mp found)
        | _ => simp_all [Kind.startsRecord, Kind.endsRecord]
    | @more _ _ _ chunk _ found starts continues _ ih =>
        obtain ⟨kind, data⟩ := chunk
        subst isFirst_eq
        cases kind with
        | middle =>
            have stored := (chunkAt_align_iff whole small).mp found
            have onward := ih rfl
            rw [← stored.readOffset_eq small'] at onward
            exact .middle stored onward
        | _ => simp_all [Kind.startsRecord, Kind.endsRecord]

/-- The chunks of a record are collected exactly where it is stored. -/
theorem recordStored_iff (whole : image.Whole) (small : image.size ≤ maxOffset) :
    RecordStored image.layout image.stored offset payload ↔
      ∃ stop, image.Collects true offset payload stop := by
  have small' : image.stored.length ≤ maxOffset := by rwa [length_stored whole]
  constructor
  · intro stored
    cases stored with
    | full stored => exact ⟨_, .last ((chunkAt_align_iff whole small).mpr stored) rfl rfl⟩
    | spanning stored onward =>
        obtain ⟨stop, collects⟩ := (continued_iff whole small).mp onward
        rw [stored.readOffset_eq small'] at collects
        exact ⟨stop, .more ((chunkAt_align_iff whole small).mpr stored) rfl rfl collects⟩
  · rintro ⟨stop, collects⟩
    cases collects with
    | @last _ _ chunk found starts ends =>
        obtain ⟨kind, data⟩ := chunk
        cases kind with
        | full => exact .full ((chunkAt_align_iff whole small).mp found)
        | _ => simp_all [Kind.startsRecord, Kind.endsRecord]
    | @more _ _ _ chunk _ found starts continues onward =>
        obtain ⟨kind, data⟩ := chunk
        cases kind with
        | first =>
            have stored := (chunkAt_align_iff whole small).mp found
            have later := (continued_iff whole small).mpr ⟨stop, onward⟩
            rw [← stored.readOffset_eq small'] at later
            exact .spanning stored later
        | _ => simp_all [Kind.startsRecord, Kind.endsRecord]

/-- A record is read of an open image exactly where it is stored. -/
theorem exists_read_iff (whole : image.Whole) (small : image.size ≤ maxOffset)
    (isOpen : image.isOpen = true) (offset : Nat) (payload : List UInt8) :
    (∃ stop, image.read offset = .ok (payload, stop)) ↔
      offset < image.size ∧ RecordStored image.layout image.stored offset payload := by
  simp only [read_eq_ok_iff, isOpen, true_and, recordStored_iff whole small]
  exact exists_and_left

end Image

end RecordLog
