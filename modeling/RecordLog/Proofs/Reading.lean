import Mathlib.Data.List.Infix
import RecordLog.Image
import RecordLog.Proofs.ChunkCodec

/-!
# What a reader depends on

A reader of an image whose bytes are all there looks at nothing but the bytes
within the size. A chunk is found exactly where its stored form stands inside
one block, and a record is read exactly where its chunks are collected one
behind the other. So what is read of a file is read of every longer file with
the same beginning. The converse holds for everything that ends within the
shorter file: only what runs past its end is new.
-/

namespace RecordLog

/-- Answers are compared by what they hold. -/
instance decidableEqExcept {ε α : Type} [DecidableEq ε] [DecidableEq α] :
    DecidableEq (Except ε α)
  | .ok first, .ok second => decidable_of_iff (first = second) (by rw [Except.ok.injEq])
  | .error first, .error second => decidable_of_iff (first = second) (by rw [Except.error.injEq])
  | .ok _, .error _ => isFalse nofun
  | .error _, .ok _ => isFalse nofun

/-- The length field can describe the data of every chunk that fits a block. -/
theorem Layout.length_le_of_fits (layout : Layout) {offset : Nat} {chunk : Chunk}
    (fits : chunk.size ≤ layout.remaining offset) : chunk.data.length ≤ maxDataSize := by
  have within := layout.remaining_le offset
  have bounded := layout.le_maxBlockSize
  simp only [Chunk.size, maxBlockSize] at *
  omega

end RecordLog

namespace RecordLog.Image

variable {image : Image}

/-- The bytes within the size. -/
def stored (image : Image) : List UInt8 := image.bytes.toList.take image.size

/-- All bytes within the size are in the file. -/
def Whole (image : Image) : Prop := image.size ≤ image.bytes.size

/-- A record can be read at an offset. -/
def Readable (image : Image) (offset : Nat) : Prop :=
  ∃ payload stop, image.read offset = .ok (payload, stop)

theorem length_stored (whole : image.Whole) : image.stored.length = image.size := by
  rw [stored, List.length_take, Array.length_toList, Nat.min_eq_left whole]

@[simp]
theorem layout_ofBytes (layout : Layout) (bytes : List UInt8) :
    (ofBytes layout bytes).layout = layout :=
  rfl

@[simp]
theorem size_ofBytes (layout : Layout) (bytes : List UInt8) :
    (ofBytes layout bytes).size = bytes.length :=
  rfl

@[simp]
theorem isOpen_ofBytes (layout : Layout) (bytes : List UInt8) :
    (ofBytes layout bytes).isOpen = true :=
  rfl

@[simp]
theorem stored_ofBytes (layout : Layout) (bytes : List UInt8) :
    (ofBytes layout bytes).stored = bytes := by
  simp [stored, ofBytes]

theorem whole_ofBytes (layout : Layout) (bytes : List UInt8) : (ofBytes layout bytes).Whole := by
  simp [Whole, ofBytes]

/-! ## One chunk -/

/-- A run of bytes within the size is cut from the bytes within the size. -/
theorem slice?_eq_take_drop (whole : image.Whole) {offset length : Nat}
    (within : offset + length ≤ image.size) :
    image.slice? offset length = some ((image.stored.drop offset).take length) := by
  rw [slice?, if_pos (Nat.le_trans within whole), stored, List.drop_take, List.take_take,
    Nat.min_eq_left (by omega)]
  simp

/-- The header of a chunk that stands somewhere declares its length. -/
private theorem declaredLength_of_stands {offset : Nat} {chunk : Chunk}
    (small : chunk.data.length ≤ maxDataSize) (stands : chunk.bytes <+: image.stored.drop offset) :
    Chunk.declaredLength ((image.stored.drop offset).take headerSize) = chunk.data.length := by
  obtain ⟨rest, split_eq⟩ := stands
  rw [Chunk.declaredLength_take, ← split_eq, Chunk.declaredLength_bytes_append rest small]

/-- A chunk is found exactly where its stored form stands inside one block. -/
theorem chunkAt_eq_ok_iff (whole : image.Whole) {offset : Nat} {chunk : Chunk} :
    image.chunkAt offset = .ok chunk ↔
      chunk.size ≤ image.layout.remaining offset ∧ chunk.bytes <+: image.stored.drop offset := by
  have size_eq := length_stored whole
  constructor
  · intro found
    unfold chunkAt at found
    split at found
    · cases found
    rename_i header
    rw [slice?_eq_take_drop whole (by omega)] at found
    simp only at found
    split at found
    · cases found
    rename_i inBlock
    split at found
    · cases found
    rename_i inSize
    rw [slice?_eq_take_drop whole (by omega)] at found
    obtain ⟨small, start⟩ := Chunk.isPrefix_of_decode found
    have stands := start.trans (List.take_prefix _ _)
    rw [declaredLength_of_stands small stands] at inBlock
    exact ⟨by simp only [Chunk.size]; omega, stands⟩
  · rintro ⟨inBlock, stands⟩
    have data_le := image.layout.length_le_of_fits inBlock
    have inSize : offset + chunk.size ≤ image.size := by
      have length_le := stands.length_le
      simp only [Chunk.length_bytes, List.length_drop, size_eq, Chunk.size, headerSize]
        at length_le ⊢
      omega
    have header_le : offset + headerSize ≤ image.size := by
      simp only [Chunk.size] at inSize
      omega
    unfold chunkAt
    rw [if_neg (by omega), slice?_eq_take_drop whole header_le]
    simp only [declaredLength_of_stands data_le stands]
    rw [if_neg (by simp only [Chunk.size] at inBlock; omega),
      if_neg (by simp only [Chunk.size] at inSize; omega),
      slice?_eq_take_drop whole (by simp only [Chunk.size] at inSize; omega)]
    rw [Chunk.decode_eq_ok_iff]
    refine ⟨data_le, ?_⟩
    obtain ⟨rest, split_eq⟩ := stands
    rw [← split_eq, show headerSize + chunk.data.length = chunk.bytes.length by simp [Chunk.size],
      List.take_left]

/-- A chunk that is found lies within the size. -/
theorem stop_le_size_of_chunkAt (whole : image.Whole) {offset : Nat} {chunk : Chunk}
    (found : image.chunkAt offset = .ok chunk) : offset + chunk.size ≤ image.size := by
  have inside := image.offset_lt_size_of_chunkAt found
  obtain ⟨_, stands⟩ := (chunkAt_eq_ok_iff whole).mp found
  have length_le := stands.length_le
  rw [Chunk.length_bytes, List.length_drop, length_stored whole] at length_le
  omega

/-- A chunk that is found lies within its block. -/
theorem stop_le_nextBlock_of_chunkAt (whole : image.Whole) {offset : Nat} {chunk : Chunk}
    (found : image.chunkAt offset = .ok chunk) :
    offset + chunk.size ≤ image.layout.nextBlock offset := by
  have inBlock := ((chunkAt_eq_ok_iff whole).mp found).1
  rw [← image.layout.add_remaining]
  omega

/-! ## One record -/

/-- One step of reading: the next chunk decides. -/
theorem readChunks_of_chunkAt {isFirst : Bool} {offset start : Nat} {chunk : Chunk}
    (aligned : image.layout.align offset = start) (found : image.chunkAt start = .ok chunk) :
    image.readChunks isFirst offset =
      if isFirst && !chunk.kind.startsRecord then
        .error (.corrupt start (.cannotStart chunk.kind))
      else if !isFirst && chunk.kind.startsRecord then
        .error (.corrupt start (.expectedContinuation chunk.kind))
      else if chunk.kind.endsRecord then
        .ok (chunk.data, start + chunk.size)
      else
        match image.readChunks false (start + chunk.size) with
        | .error cause => .error cause
        | .ok (rest, stop) => .ok (chunk.data ++ rest, stop) := by
  subst aligned
  conv => lhs; rw [readChunks]
  split
  · rename_i missing
    rw [found] at missing
    cases missing
  · rename_i other
    rw [found] at other
    cases other
    rfl

/-- Reading fails where the next chunk is missing. -/
theorem readChunks_of_error {isFirst : Bool} {offset : Nat} {cause : Failure}
    (missing : image.chunkAt (image.layout.align offset) = .error cause) :
    image.readChunks isFirst offset = .error cause := by
  rw [readChunks]
  split
  · rename_i other
    rw [missing] at other
    cases other
    rfl
  · rename_i found
    rw [missing] at found
    cases found

/-- The chunks of a record are collected from an offset on. The first one starts
a record, unless one has been started before, and the last one ends it. -/
inductive Collects (image : Image) : Bool → Nat → List UInt8 → Nat → Prop
  | last {isFirst : Bool} {offset : Nat} {chunk : Chunk}
      (found : image.chunkAt (image.layout.align offset) = .ok chunk)
      (starts : chunk.kind.startsRecord = isFirst) (ends : chunk.kind.endsRecord = true) :
      Collects image isFirst offset chunk.data (image.layout.align offset + chunk.size)
  | more {isFirst : Bool} {offset stop : Nat} {chunk : Chunk} {rest : List UInt8}
      (found : image.chunkAt (image.layout.align offset) = .ok chunk)
      (starts : chunk.kind.startsRecord = isFirst) (continues : chunk.kind.endsRecord = false)
      (onward : Collects image false (image.layout.align offset + chunk.size) rest stop) :
      Collects image isFirst offset (chunk.data ++ rest) stop

theorem collects_of_readChunks {isFirst : Bool} {offset stop : Nat} {payload : List UInt8}
    (done : image.readChunks isFirst offset = .ok (payload, stop)) :
    image.Collects isFirst offset payload stop := by
  have starts_eq {isFirst : Bool} {chunk : Chunk}
      (first : ¬ (isFirst && !chunk.kind.startsRecord) = true)
      (later : ¬ (!isFirst && chunk.kind.startsRecord) = true) :
      chunk.kind.startsRecord = isFirst := by
    cases isFirst with
    | true => simpa using first
    | false => simpa using later
  fun_induction readChunks image isFirst offset generalizing payload stop with
  | case1 => cases done
  | case2 => cases done
  | case3 => cases done
  | case4 =>
      rename_i found first later ends
      cases done
      exact .last found (starts_eq first later) ends
  | case5 => simp_all
  | case6 =>
      rename_i found first later continues rest last onward ih
      cases done
      exact .more found (starts_eq first later) (eq_false_of_ne_true continues) (ih onward)

namespace Collects

variable {isFirst : Bool} {offset stop : Nat} {payload : List UInt8}

theorem readChunks (collects : image.Collects isFirst offset payload stop) :
    image.readChunks isFirst offset = .ok (payload, stop) := by
  induction collects with
  | last found starts ends =>
      rw [readChunks_of_chunkAt rfl found, starts, ends]
      simp
  | more found starts continues _ ih =>
      rw [readChunks_of_chunkAt rfl found, starts, continues, ih]
      simp

theorem exists_first (collects : image.Collects isFirst offset payload stop) :
    ∃ chunk, image.chunkAt (image.layout.align offset) = .ok chunk ∧
      chunk.kind.startsRecord = isFirst := by
  cases collects with
  | last found starts _ => exact ⟨_, found, starts⟩
  | more found starts _ _ => exact ⟨_, found, starts⟩

theorem lt_stop (collects : image.Collects isFirst offset payload stop) : offset < stop :=
  image.lt_stop_of_readChunks collects.readChunks

/-- A record is collected from the aligned offset. -/
theorem of_align (collects : image.Collects isFirst offset payload stop) :
    image.Collects isFirst (image.layout.align offset) payload stop := by
  have aligned := image.layout.align_align offset
  cases collects with
  | @last _ _ chunk found starts ends =>
      have again : image.Collects isFirst (image.layout.align offset) chunk.data
          (image.layout.align (image.layout.align offset) + chunk.size) :=
        .last (by rwa [aligned]) starts ends
      rwa [aligned] at again
  | more found starts continues onward =>
      exact .more (by rwa [aligned]) starts continues (by rwa [aligned])

/-- A record that is collected ends within the size. -/
theorem stop_le_size (whole : image.Whole)
    (collects : image.Collects isFirst offset payload stop) : stop ≤ image.size := by
  induction collects with
  | last found _ _ => exact stop_le_size_of_chunkAt whole found
  | more _ _ _ _ ih => exact ih

end Collects

/-- A record is read of an open image where its chunks are collected. -/
theorem read_eq_ok_iff {offset stop : Nat} {payload : List UInt8} :
    image.read offset = .ok (payload, stop) ↔
      image.isOpen = true ∧ offset < image.size ∧ image.Collects true offset payload stop := by
  constructor
  · intro done
    unfold read at done
    split at done
    · cases done
    rename_i isOpen
    split at done
    · cases done
    rename_i inside
    exact ⟨by simpa using isOpen, Nat.lt_of_not_le inside, collects_of_readChunks done⟩
  · rintro ⟨isOpen, inside, collects⟩
    rw [read, isOpen, if_neg (by simp), if_neg (Nat.not_le.mpr inside)]
    exact collects.readChunks

theorem collects_of_read {offset stop : Nat} {payload : List UInt8}
    (done : image.read offset = .ok (payload, stop)) : image.Collects true offset payload stop :=
  (read_eq_ok_iff.mp done).2.2

theorem stop_le_size_of_read (whole : image.Whole) {offset stop : Nat} {payload : List UInt8}
    (done : image.read offset = .ok (payload, stop)) : stop ≤ image.size :=
  (collects_of_read done).stop_le_size whole

/-- Where all bytes within the size are there, a record is missing through
damage alone. -/
theorem isDamage_of_readChunks (whole : image.Whole) {isFirst : Bool} {offset : Nat}
    {cause : Failure} (failed : image.readChunks isFirst offset = .error cause) :
    cause.isDamage = true := by
  fun_induction readChunks image isFirst offset generalizing cause with
  | case1 =>
      rename_i chunkFailed
      cases failed
      exact image.isDamage_of_chunkAt whole chunkFailed
  | case2 => cases failed; rfl
  | case3 => cases failed; rfl
  | case4 => cases failed
  | case5 =>
      rename_i failedRest ih
      cases failed
      exact ih failedRest
  | case6 => simp_all

/-- Reading an open image fails through damage alone. -/
theorem isDamage_of_read (whole : image.Whole) (isOpen : image.isOpen = true) {offset : Nat}
    {cause : Failure} (failed : image.read offset = .error cause) : cause.isDamage = true := by
  unfold read at failed
  rw [isOpen] at failed
  simp only [Bool.not_true, Bool.false_eq_true, if_false] at failed
  split at failed
  · cases failed; rfl
  · exact isDamage_of_readChunks whole failed

/-! ## Growing files -/

/-- One image is another one with more bytes after its end. -/
structure Grows (image grown : Image) : Prop where
  layout_eq : grown.layout = image.layout
  isOpen_eq : grown.isOpen = image.isOpen
  whole : image.Whole
  grownWhole : grown.Whole
  begins : image.stored <+: grown.stored

namespace Grows

variable {grown : Image}

theorem ofBytes {layout : Layout} {bytes more : List UInt8} (begins : bytes <+: more) :
    Grows (Image.ofBytes layout bytes) (Image.ofBytes layout more) where
  layout_eq := rfl
  isOpen_eq := rfl
  whole := whole_ofBytes layout bytes
  grownWhole := whole_ofBytes layout more
  begins := by simpa using begins

theorem size_le (grows : Grows image grown) : image.size ≤ grown.size := by
  have length_le := grows.begins.length_le
  rwa [length_stored grows.whole, length_stored grows.grownWhole] at length_le

/-- Within the shorter file, the two have the same chunks. -/
theorem chunkAt_iff (grows : Grows image grown) {offset : Nat} {chunk : Chunk} :
    image.chunkAt offset = .ok chunk ↔
      grown.chunkAt offset = .ok chunk ∧ offset + chunk.size ≤ image.size := by
  constructor
  · intro found
    refine ⟨?_, stop_le_size_of_chunkAt grows.whole found⟩
    rw [chunkAt_eq_ok_iff grows.whole] at found
    rw [chunkAt_eq_ok_iff grows.grownWhole, grows.layout_eq]
    exact ⟨found.1, found.2.trans (grows.begins.drop offset)⟩
  · rintro ⟨found, inSize⟩
    rw [chunkAt_eq_ok_iff grows.grownWhole, grows.layout_eq] at found
    rw [chunkAt_eq_ok_iff grows.whole]
    refine ⟨found.1, List.prefix_of_prefix_length_le found.2 (grows.begins.drop offset) ?_⟩
    rw [Chunk.length_bytes, List.length_drop, length_stored grows.whole]
    omega

/-- The shorter file has just those chunks of a record of the longer one, if the
record ends within it. -/
theorem collects_iff (grows : Grows image grown) {isFirst : Bool} {offset stop : Nat}
    {payload : List UInt8} :
    image.Collects isFirst offset payload stop ↔
      grown.Collects isFirst offset payload stop ∧ stop ≤ image.size := by
  constructor
  · intro collects
    induction collects with
    | last found starts ends =>
        obtain ⟨again, inSize⟩ := grows.chunkAt_iff.mp found
        rw [← grows.layout_eq] at again inSize ⊢
        exact ⟨.last again starts ends, inSize⟩
    | more found starts continues _ ih =>
        obtain ⟨again, _⟩ := grows.chunkAt_iff.mp found
        obtain ⟨onward, inSize⟩ := ih
        rw [← grows.layout_eq] at again onward
        exact ⟨.more again starts continues onward, inSize⟩
  · rintro ⟨collects, inSize⟩
    induction collects with
    | last found starts ends =>
        have again := grows.chunkAt_iff.mpr ⟨found, inSize⟩
        rw [grows.layout_eq] at again ⊢
        exact .last again starts ends
    | more found starts continues collects ih =>
        have before := Nat.le_trans (Nat.le_of_lt collects.lt_stop) inSize
        have again := grows.chunkAt_iff.mpr ⟨found, before⟩
        have onward := ih inSize
        rw [grows.layout_eq] at again onward
        exact .more again starts continues onward

/-- The shorter file has just those records of the longer one that end within
it. -/
theorem read_iff (grows : Grows image grown) {offset stop : Nat} {payload : List UInt8} :
    image.read offset = .ok (payload, stop) ↔
      grown.read offset = .ok (payload, stop) ∧ stop ≤ image.size := by
  rw [read_eq_ok_iff, read_eq_ok_iff, grows.isOpen_eq, grows.collects_iff]
  constructor
  · rintro ⟨isOpen, inside, collects, inSize⟩
    exact ⟨⟨isOpen, Nat.lt_of_lt_of_le inside grows.size_le, collects⟩, inSize⟩
  · rintro ⟨⟨isOpen, _, collects⟩, inSize⟩
    exact ⟨isOpen, Nat.lt_of_lt_of_le collects.lt_stop inSize, collects, inSize⟩

theorem readable (grows : Grows image grown) {offset : Nat} (found : image.Readable offset) :
    grown.Readable offset := by
  obtain ⟨payload, stop, done⟩ := found
  exact ⟨payload, stop, (grows.read_iff.mp done).1⟩

/-- A record that only the longer file has runs past the end of the shorter
one. -/
theorem size_lt_of_read (grows : Grows image grown) {offset stop : Nat} {payload : List UInt8}
    (done : grown.read offset = .ok (payload, stop)) (missing : ¬ image.Readable offset) :
    image.size < stop := by
  by_contra inSize
  exact missing ⟨payload, stop, grows.read_iff.mpr ⟨done, by omega⟩⟩

end Grows

end RecordLog.Image
