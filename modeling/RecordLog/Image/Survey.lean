import RecordLog.Checksum.Table
import RecordLog.Image

/-!
# Surveying a damaged segment

A survey walks a whole segment and divides it into records and damaged
regions. Where a record cannot be read, the region from there to the next
readable record is damaged. The length of the damaged frame cannot be
trusted, so the rest of its block is searched byte by byte; later blocks are
searched chunk by chunk from their start, since no chunk crosses a boundary,
and a block is given up at its first unreadable chunk. A damaged region with
no readable record after it is a torn tail, and repair cuts it off.
-/

namespace RecordLog

/-- A part of a segment found by a survey. -/
inductive Region where
  /-- A readable record, from its anchor to the aligned offset after it. -/
  | record (start stop : Nat)
  /-- Damage, from the unreadable record to the next readable one. -/
  | gap (start stop : Nat)
  /-- Damage from an offset on, with nothing readable after it. -/
  | tail (start : Nat)
  deriving DecidableEq, Repr

namespace Region

/-- Whether a region is a readable record. -/
def isRecord : Region → Bool
  | record .. => true
  | _ => false

/-- The length of the segment that a region at its end leaves valid. -/
def validLength : Region → Nat
  | record _ stop => stop
  | gap start _ => start
  | tail start => start

end Region

/-- What a survey found. -/
structure Report where
  /-- The number of readable records. -/
  recovered : Nat
  /-- The number of damaged regions, a torn tail included. -/
  corrupted : Nat
  /-- The offset just past the last readable record. -/
  validLength : Nat
  /-- Whether bytes past the valid length are to be cut off. -/
  truncated : Bool
  deriving DecidableEq, Repr

/-- The summary of a survey of a segment of the given size. -/
def Report.ofRegions (size : Nat) (regions : List Region) : Report :=
  let validLength := (regions.getLast?.map Region.validLength).getD 0
  { recovered := regions.countP Region.isRecord
    corrupted := regions.countP fun region => !region.isRecord
    validLength
    truncated := validLength < size }

namespace Image

variable (image : Image)

/-! ## Finding the next readable record -/

/-- Whether a complete record is anchored at an offset. -/
def isReadable (offset : Nat) : Except Failure Bool :=
  match image.read offset with
  | .ok _ => .ok true
  | .error cause => if cause.isDamage then .ok false else .error cause

/-- Whether the frame that an offset would begin lies in one block and within
the size, and has not the bytes that its checksum was made of. -/
def failsChecksum (offset : Nat) : Bool :=
  let stop := offset + headerSize +
    ofLittleEndian (image.bytes.extract (offset + 4) (offset + 6)).toList
  stop ≤ image.size && stop ≤ offset + image.layout.remaining offset &&
    UInt32.ofNat (ofLittleEndian (image.bytes.extract offset (offset + 4)).toList) ≠
      Checksum.crc32Between image.bytes (offset + 4) stop

/-- A chunk has the bytes that its checksum was made of. -/
theorem failsChecksum_of_chunkAt {offset : Nat} {chunk : Chunk}
    (found : image.chunkAt offset = .ok chunk) : image.failsChecksum offset = false := by
  unfold chunkAt at found
  split at found
  · cases found
  split at found
  · cases found
  rename_i header sliced
  simp only at found
  split at found
  · cases found
  split at found
  · cases found
  split at found
  · cases found
  rename_i stored run
  have ⟨_, headerBytes⟩ := image.slice?_eq_some sliced
  have ⟨fits, storedBytes⟩ := image.slice?_eq_some run
  have field :
      (image.bytes.extract (offset + 4) (offset + 6)).toList = (header.drop 4).take 2 := by
    simp [headerBytes, headerSize, List.drop_take, List.take_take, Nat.add_sub_add_left]
  have again : Chunk.declaredLength stored = Chunk.declaredLength header := by
    rw [Chunk.declaredLength, Chunk.declaredLength, headerBytes, storedBytes]
    simp only [headerSize, List.drop_take, List.take_take, List.drop_drop]
    rw [Nat.min_eq_left (by omega), Nat.min_eq_left (by omega)]
  have exact : stored.length = headerSize + Chunk.declaredLength stored := by
    rw [again, storedBytes]
    simp
    omega
  have start : (image.bytes.extract offset (offset + 4)).toList = stored.take 4 := by
    simp [storedBytes, List.take_take, headerSize]
    omega
  have rest :
      (image.bytes.extract (offset + 4)
        (offset + headerSize + Chunk.declaredLength header)).toList = stored.drop 4 := by
    simp [storedBytes, List.drop_take, headerSize]
    omega
  simp only [failsChecksum, field, Checksum.crc32Between_eq, start]
  rw [← Chunk.declaredLength, rest, Chunk.checksum_of_decode found exact]
  simp

/-- Whether the bytes show that no record is anchored at an offset: all bytes
within the size are there, and either the one that would be the code of a kind
is none that starts a record, or the frame is not what its checksum says. -/
def startsNothing (offset : Nat) : Bool :=
  image.isOpen && image.size ≤ image.bytes.size &&
    (image.bytes[offset + 6]?.any (fun code => !(Kind.ofCode? code).any Kind.startsRecord) ||
      image.failsChecksum offset)

/-- Where the bytes show that nothing starts, nothing is readable. -/
theorem isReadable_of_startsNothing {offset : Nat}
    (outside : image.layout.inPadding offset = false)
    (nothing : image.startsNothing offset = true) : image.isReadable offset = .ok false := by
  simp only [startsNothing, Bool.and_eq_true, decide_eq_true_eq] at nothing
  obtain ⟨⟨isOpen, whole⟩, foreign⟩ := nothing
  unfold isReadable read
  simp only [isOpen, Bool.not_true, Bool.false_eq_true, if_false]
  by_cases h : image.size ≤ offset
  · simp [h, Failure.isDamage]
  · rw [if_neg h, readChunks]
    split <;> rename_i result <;> split at result <;> rename_i found <;>
      rw [image.layout.align_of_not_inPadding outside] at found
    · cases result
    · simp [image.code_of_chunkAt found, image.failsChecksum_of_chunkAt found] at foreign
      simp [foreign] at result
    · cases result
      simp [image.isDamage_of_chunkAt whole found]
    · simp [image.code_of_chunkAt found, image.failsChecksum_of_chunkAt found] at foreign
      simp [foreign] at result
      simp [← result, Failure.isDamage]

/-- The first readable record in the bytes from an offset up to a limit that
are not padding. Most offsets are passed over by a look at a single byte, and
most others by their checksum. -/
def findByByte (limit offset : Nat) : Except Failure (Option Nat) :=
  if offset < limit ∧ image.layout.inPadding offset = false then
    if image.startsNothing offset then findByByte limit (offset + 1)
    else
      match image.isReadable offset with
      | .error cause => .error cause
      | .ok true => .ok (some offset)
      | .ok false => findByByte limit (offset + 1)
  else
    .ok none
termination_by limit - offset

/-- The search by bytes, as if every offset were read. -/
theorem findByByte_eq (limit offset : Nat) :
    image.findByByte limit offset =
      if offset < limit ∧ image.layout.inPadding offset = false then
        match image.isReadable offset with
        | .error cause => .error cause
        | .ok true => .ok (some offset)
        | .ok false => image.findByByte limit (offset + 1)
      else
        .ok none := by
  conv => lhs; rw [findByByte]
  split
  · rename_i within
    split
    · rw [image.isReadable_of_startsNothing within.2 ‹_›]
    · rfl
  · rfl

/-- The first readable record reached by walking chunks from an offset. The
rest of a block is skipped at its padding or at an unreadable chunk. -/
def findByChunk (offset : Nat) : Except Failure (Option Nat) :=
  if offset < image.size then
    if image.layout.inPadding offset then
      findByChunk (image.layout.nextBlock offset)
    else
      match image.chunkAt offset with
      | .error cause =>
          if cause.isDamage then findByChunk (image.layout.nextBlock offset)
          else .error cause
      | .ok chunk =>
          if chunk.kind.startsRecord then
            match image.isReadable offset with
            | .error cause => .error cause
            | .ok true => .ok (some offset)
            | .ok false => findByChunk (offset + chunk.size)
          else
            findByChunk (offset + chunk.size)
  else
    .ok none
termination_by image.size - offset
decreasing_by
  · have := image.layout.lt_nextBlock offset
    omega
  · have := image.layout.lt_nextBlock offset
    omega
  · simp only [Chunk.size, headerSize]
    omega
  · simp only [Chunk.size, headerSize]
    omega

/-- The first readable record after a damaged frame. -/
def resync (damaged : Nat) : Except Failure (Option Nat) :=
  let boundary := image.layout.nextBlock damaged
  match image.findByByte (min boundary image.size) (damaged + 1) with
  | .error cause => .error cause
  | .ok (some found) => .ok (some found)
  | .ok none => image.findByChunk boundary

theorem le_of_findByByte {limit offset found : Nat}
    (done : image.findByByte limit offset = .ok (some found)) : offset ≤ found := by
  fun_induction findByByte image limit offset with
  | case1 _ _ _ ih => have := ih done; omega
  | case2 => cases done
  | case3 => cases done; omega
  | case4 _ _ _ _ ih => have := ih done; omega
  | case5 => cases done

theorem le_of_findByChunk {offset found : Nat}
    (done : image.findByChunk offset = .ok (some found)) : offset ≤ found := by
  fun_induction findByChunk image offset with
  | case1 offset _ _ ih =>
      have := ih done
      have := image.layout.lt_nextBlock offset
      omega
  | case2 offset _ _ _ _ _ ih =>
      have := ih done
      have := image.layout.lt_nextBlock offset
      omega
  | case3 => cases done
  | case4 => cases done
  | case5 => cases done; omega
  | case6 _ _ _ _ _ _ _ ih => have := ih done; omega
  | case7 _ _ _ _ _ _ ih => have := ih done; omega
  | case8 => cases done

/-- The search goes forward. -/
theorem lt_of_resync {damaged found : Nat}
    (done : image.resync damaged = .ok (some found)) : damaged < found := by
  unfold resync at done
  simp only at done
  split at done
  · cases done
  · rename_i result
    cases done
    have := image.le_of_findByByte result
    omega
  · have := image.le_of_findByChunk done
    have := image.layout.lt_nextBlock damaged
    omega

/-! ## The survey -/

theorem lt_size_of_next_error {position : Nat} {cause : Failure}
    (failed : image.next position = .error cause) : position < image.size := by
  unfold next at failed
  have := image.layout.le_align position
  simp only at failed
  split at failed
  · cases failed
  · omega

/-- The regions of a segment from a position on. -/
def surveyFrom (position : Nat) : Except Failure (List Region) :=
  match _ : image.next position with
  | .ok none => .ok []
  | .ok (some (record, after)) =>
      match surveyFrom after with
      | .error cause => .error cause
      | .ok regions => .ok (.record record.offset after :: regions)
  | .error cause =>
      if cause.isDamage then
        match _ : image.resync position with
        | .error cause => .error cause
        | .ok none => .ok [.tail position]
        | .ok (some offset) =>
            match surveyFrom offset with
            | .error cause => .error cause
            | .ok regions => .ok (.gap position offset :: regions)
      else
        .error cause
termination_by image.size - position
decreasing_by
  · have := image.lt_of_next ‹_›
    omega
  · have := image.lt_size_of_next_error ‹_›
    have := image.lt_of_resync ‹_›
    omega

/-- The regions of a whole segment. -/
def survey : Except Failure (List Region) :=
  image.surveyFrom 0

/-- The summary of a whole segment. -/
def report : Except Failure Report :=
  match image.survey with
  | .error cause => .error cause
  | .ok regions => .ok (.ofRegions image.size regions)

end Image

end RecordLog
