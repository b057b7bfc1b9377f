import Mathlib.Algebra.Group.Nat.Defs
import RecordLog.Proofs.Appending
import RecordLog.Proofs.Grammar
import RecordLog.Proofs.Words

/-!
# Reading with machine words

A reader has numbers of 64 bits and a buffer of one block. Here every operation
says whether it stays in range: a sum below the largest word, a difference not
below zero, a slice within its bytes. The loop over the chunks of a record is
given a number of rounds. On a segment whose file holds all its bytes, no
operation leaves its range, the rounds suffice, and the answer is the one of
reading with natural numbers. A record is therefore read of any bytes exactly
where one is stored.
-/

namespace RecordLog

/-- The reader before a round: its buffer, the data of the chunks before, the
offset to go on from, and whether there was no chunk yet. -/
structure Reader where
  buffer : List UInt8
  payload : List UInt8
  cursor : Nat
  isFirst : Bool

namespace Word

/-! ## Reading -/

/-- File positions are below this bound; seeking to it is refused. -/
def seekBound : Nat := 2 ^ 63

/-- The length in a header. -/
def declaredLength (header : List UInt8) : Except Halt Nat := do
  let low ← byteAt header 4
  let high ← byteAt header 5
  .ok (ofLittleEndian [low, high])

/-- The chunk at the start of some bytes. -/
def decode (offset : Nat) (bytes : List UInt8) : Except Halt Chunk :=
  if bytes.length < headerSize then
    .error (.failed (.corrupt offset (.shortFrame bytes.length)))
  else do
    let c₀ ← byteAt bytes 0
    let c₁ ← byteAt bytes 1
    let c₂ ← byteAt bytes 2
    let c₃ ← byteAt bytes 3
    let stored := UInt32.ofNat (ofLittleEndian [c₀, c₁, c₂, c₃])
    let length ← declaredLength bytes
    let code ← byteAt bytes 6
    let stop ← add headerSize length
    if bytes.length < stop then do
      let available ← sub bytes.length headerSize
      .error (.failed (.corrupt offset (.lengthExceeds length available)))
    else do
      let data ← slice bytes headerSize stop
      let computed := Chunk.checksumOf length code data
      if stored ≠ computed then
        .error (.failed (.corrupt offset (.checksumMismatch stored computed)))
      else
        match Kind.ofCode? code with
        | none => .error (.failed (.corrupt offset (.unknownKind code)))
        | some kind => .ok ⟨kind, data⟩

variable (image : Image)

/-- Fill the buffer from one index to another with the bytes of the file from an
offset on. -/
def fill (offset : Nat) (buffer : List UInt8) (first last : Nat) : Except Halt (List UInt8) := do
  let place ← slice buffer first last
  match image.slice? offset place.length with
  | none => .error (.failed image.shortage)
  | some bytes => .ok (buffer.take first ++ (bytes ++ buffer.drop last))

/-- The chunk stored at an offset, the length that its header declares, and the
buffer after it was read. -/
def chunkAt (offset : Nat) (buffer : List UInt8) : Except Halt (Chunk × Nat × List UInt8) :=
  if image.size < saturatingAdd offset headerSize then
    .error (.failed (.truncated offset headerSize (image.size - offset)))
  else if seekBound ≤ offset then
    .error (.failed (.storage .invalidArgument))
  else do
    let buffer ← fill image offset buffer 0 headerSize
    let header ← slice buffer 0 headerSize
    let length ← declaredLength header
    let frame ← add headerSize length
    let left ← remaining image.layout offset
    if left < frame then
      .error (.failed (.corrupt offset (.crossesBlock frame)))
    else if image.size < saturatingAdd offset frame then do
      let available ← sub image.size offset
      .error (.failed (.truncated offset frame available))
    else do
      let buffer ← fill image (offset + headerSize) buffer headerSize frame
      let stored ← slice buffer 0 frame
      let chunk ← decode offset stored
      .ok (chunk, length, buffer)

/-- Read one chunk; answers whether the record ends with it. -/
def round (reader : Reader) : Except Halt (Reader × Bool) := do
  let cursor ← align image.layout reader.cursor
  let (chunk, length, buffer) ← chunkAt image cursor reader.buffer
  if reader.isFirst && !chunk.kind.startsRecord then
    .error (.failed (.corrupt cursor (.cannotStart chunk.kind)))
  else if !reader.isFirst && chunk.kind.startsRecord then
    .error (.failed (.corrupt cursor (.expectedContinuation chunk.kind)))
  else do
    let size ← add headerSize length
    let cursor ← add cursor size
    .ok (⟨buffer, reader.payload ++ chunk.data, cursor, false⟩, chunk.kind.endsRecord)

/-- Read chunks to the end of the record, in at most so many rounds. -/
def rounds : Nat → Reader → Except Halt (List UInt8 × Nat)
  | 0, _ => .error .unfinished
  | count + 1, reader => do
      let (reader, done) ← round image reader
      if done then .ok (reader.payload, reader.cursor) else rounds count reader

/-- The record anchored at an offset, read in at most so many rounds. -/
def read (buffer : List UInt8) (count offset : Nat) : Except Halt (List UInt8 × Nat) :=
  if !image.isOpen then .error (.failed .closed)
  else if image.size ≤ offset then .error (.failed (.truncated offset headerSize 0))
  else rounds image count ⟨buffer, [], offset, true⟩

/-! ## Staying in range -/

theorem declaredLength_eq {header : List UInt8} (enough : headerSize ≤ header.length) :
    declaredLength header = .ok (Chunk.declaredLength header) := by
  match header with
  | _ :: _ :: _ :: _ :: low :: high :: _ => rfl
  | [] | [_] | [_, _] | [_, _, _] | [_, _, _, _] | [_, _, _, _, _] =>
      simp only [headerSize, List.length_cons, List.length_nil] at enough
      omega

theorem decode_eq (offset : Nat) (bytes : List UInt8) :
    decode offset bytes = (Chunk.decode offset bytes).mapError .failed := by
  match bytes with
  | [] | [_] | [_, _] | [_, _, _] | [_, _, _, _] | [_, _, _, _, _] | [_, _, _, _, _, _] => rfl
  | c₀ :: c₁ :: c₂ :: c₃ :: l₀ :: l₁ :: code :: rest =>
      have small := ofLittleEndian_lt [l₀, l₁]
      have length_eq : (c₀ :: c₁ :: c₂ :: c₃ :: l₀ :: l₁ :: code :: rest).length =
          headerSize + rest.length := by
        simp only [List.length_cons, headerSize]
        omega
      have stop_eq : add headerSize (ofLittleEndian [l₀, l₁]) =
          .ok (headerSize + ofLittleEndian [l₀, l₁]) := by
        apply add_eq
        simp only [List.length_cons, List.length_nil, fieldRange, headerSize, maxOffset] at *
        omega
      rw [decode, if_neg (by omega), declaredLength_eq (by omega), Chunk.decode]
      simp only [byteAt, List.getElem?_cons_succ, List.getElem?_cons_zero, ok_bind,
        Chunk.declaredLength, List.drop_succ_cons, List.drop_zero, List.take_succ_cons,
        List.take_zero, stop_eq, length_eq, Nat.add_lt_add_iff_left]
      split
      · rw [sub_eq (by omega), Nat.add_sub_cancel_left]
        rfl
      · rename_i enough
        have data_eq : slice (c₀ :: c₁ :: c₂ :: c₃ :: l₀ :: l₁ :: code :: rest) headerSize
            (headerSize + ofLittleEndian [l₀, l₁]) =
              .ok (rest.take (ofLittleEndian [l₀, l₁])) := by
          rw [slice, if_pos ⟨by omega, by omega⟩, List.drop_take, Nat.add_sub_cancel_left]
          rfl
        rw [data_eq, ok_bind]
        split
        · rfl
        · cases Kind.ofCode? code <;> rfl

variable {image : Image} {buffer : List UInt8}

/-- A buffer that begins with the bytes at an offset is filled with more of
them. -/
theorem fill_eq (whole : image.Whole) {offset first last : Nat} (ordered : first ≤ last)
    (fits : last ≤ buffer.length) (inside : offset + last ≤ image.size)
    (begun : buffer.take first = (image.stored.drop offset).take first) :
    ∃ filled, fill image (offset + first) buffer first last = .ok filled ∧
      filled.length = buffer.length ∧ filled.take last = (image.stored.drop offset).take last := by
  have run : image.slice? (offset + first) (last - first) =
      some ((image.stored.drop (offset + first)).take (last - first)) :=
    image.slice?_eq_take_drop whole (by omega)
  have frame_eq : (image.stored.drop offset).take first ++
      (image.stored.drop (offset + first)).take (last - first) =
        (image.stored.drop offset).take last := by
    rw [← List.drop_drop, ← List.take_add, Nat.add_sub_of_le ordered]
  have length_eq : ((image.stored.drop offset).take last).length = last := by
    rw [List.length_take, List.length_drop, Image.length_stored whole]
    omega
  refine ⟨(image.stored.drop offset).take last ++ buffer.drop last, ?_, ?_, ?_⟩
  · rw [fill, slice, if_pos ⟨ordered, fits⟩, ok_bind, List.length_drop, List.length_take,
      Nat.min_eq_left fits, run, ← frame_eq, begun, List.append_assoc]
  · rw [List.length_append, length_eq, List.length_drop]
    omega
  · rw [List.take_left' length_eq]

theorem declaredLength_le {header : List UInt8} (enough : headerSize ≤ header.length) :
    Chunk.declaredLength header ≤ maxDataSize := by
  have bound := ofLittleEndian_lt ((header.drop 4).take 2)
  have width : ((header.drop 4).take 2).length = 2 := by
    simp only [headerSize] at enough
    rw [List.length_take, List.length_drop]
    omega
  simp only [width, fieldRange] at bound
  simp only [Chunk.declaredLength, maxDataSize]
  omega

/-- A chunk that is decoded has the length that its header declares. -/
theorem declaredLength_of_decode {offset : Nat} {bytes : List UInt8} {chunk : Chunk}
    (decoded : Chunk.decode offset bytes = .ok chunk) :
    Chunk.declaredLength bytes = chunk.data.length := by
  obtain ⟨bounded, more, rfl⟩ := Chunk.isPrefix_of_decode decoded
  exact Chunk.declaredLength_bytes_append more bounded

/-- Reading a chunk comes to what it comes to with natural numbers, and leaves a
buffer of the same length. -/
theorem chunkAt_eq (whole : image.Whole) (small : image.size < seekBound)
    (room : buffer.length = image.layout.blockSize) (offset : Nat) :
    (∃ cause, image.chunkAt offset = .error cause ∧
        chunkAt image offset buffer = .error (.failed cause)) ∨
      ∃ chunk filled, image.chunkAt offset = .ok chunk ∧
        filled.length = image.layout.blockSize ∧
          chunkAt image offset buffer = .ok (chunk, chunk.data.length, filled) := by
  have beyond (length : Nat) :
      image.size < saturatingAdd offset length ↔ image.size < offset + length := by
    simp only [saturatingAdd, seekBound, maxOffset] at *
    omega
  have headerFits : headerSize ≤ buffer.length := by
    have := image.layout.headerSize_lt_blockSize
    omega
  rw [Image.chunkAt, chunkAt]
  simp only [beyond]
  split
  · exact .inl ⟨_, rfl, rfl⟩
  rename_i inside
  obtain ⟨filled, filledHeader, length_eq, header_eq⟩ :=
    fill_eq whole (Nat.zero_le _) headerFits (Nat.le_of_not_lt inside) rfl
  have headerLength : headerSize ≤ ((image.stored.drop offset).take headerSize).length := by
    rw [List.length_take, List.length_drop, Image.length_stored whole]
    omega
  have declared_eq := declaredLength_eq headerLength
  have declared_le := declaredLength_le headerLength
  rw [Nat.add_zero] at filledHeader
  rw [if_neg (by omega), image.slice?_eq_take_drop whole (Nat.le_of_not_lt inside), filledHeader]
  simp only [ok_bind, slice_zero (length_eq ▸ headerFits), header_eq, declared_eq, remaining_eq]
  rw [Chunk.declaredLength_take] at declared_le ⊢
  generalize declares : Chunk.declaredLength (image.stored.drop offset) = length at *
  rw [add_eq (by simp only [maxDataSize, headerSize, maxOffset] at *; omega), ok_bind]
  split
  · exact .inl ⟨_, rfl, rfl⟩
  rename_i inBlock
  split
  · rw [sub_eq (by omega)]
    exact .inl ⟨_, rfl, rfl⟩
  rename_i inFile
  have frameFits : headerSize + length ≤ filled.length := by
    have := image.layout.remaining_le offset
    omega
  obtain ⟨full, filledFrame, fullLength, frame_eq⟩ :=
    fill_eq whole (Nat.le_add_right _ _) frameFits (Nat.le_of_not_lt inFile) header_eq
  rw [image.slice?_eq_take_drop whole (Nat.le_of_not_lt inFile), filledFrame, ok_bind,
    slice_zero (by omega), ok_bind, decode_eq, frame_eq]
  cases decoded : Chunk.decode offset ((image.stored.drop offset).take (headerSize + length)) with
  | error cause => exact .inl ⟨cause, decoded, rfl⟩
  | ok chunk =>
      have length_eq : length = chunk.data.length := by
        rw [← declaredLength_of_decode decoded, ← Chunk.declaredLength_take, List.take_take,
          Nat.min_eq_left (Nat.le_add_right _ _), Chunk.declaredLength_take, declares]
      exact .inr ⟨chunk, full, decoded, by omega, by rw [← length_eq]; rfl⟩

/-- A round fails as reading does, or takes one chunk that has its place in the
record. -/
theorem round_cases (whole : image.Whole) (small : image.size < seekBound) {reader : Reader}
    (room : reader.buffer.length = image.layout.blockSize)
    (inside : reader.cursor ≤ image.size) :
    (∃ cause, image.readChunks reader.isFirst reader.cursor = .error cause ∧
        round image reader = .error (.failed cause)) ∨
      ∃ chunk filled, image.chunkAt (image.layout.align reader.cursor) = .ok chunk ∧
        chunk.kind.startsRecord = reader.isFirst ∧ filled.length = image.layout.blockSize ∧
          round image reader =
            .ok (⟨filled, reader.payload ++ chunk.data,
              image.layout.align reader.cursor + chunk.size, false⟩, chunk.kind.endsRecord) := by
  have word : reader.cursor + image.layout.blockSize ≤ maxOffset := by
    have := image.layout.le_maxBlockSize
    simp only [seekBound, maxBlockSize, maxDataSize, headerSize, maxOffset] at *
    omega
  rw [round, align_eq word, ok_bind]
  rcases chunkAt_eq whole small room (image.layout.align reader.cursor) with
    ⟨cause, missing, halted⟩ | ⟨chunk, filled, found, filledRoom, read_eq⟩
  · rw [halted, Image.readChunks_of_error missing]
    exact .inl ⟨cause, rfl, rfl⟩
  · have stop_le := Image.stop_le_size_of_chunkAt whole found
    have size_eq : add headerSize chunk.data.length = .ok chunk.size := by
      apply add_eq
      simp only [Chunk.size, seekBound, headerSize, maxOffset] at *
      omega
    have next_eq : add (image.layout.align reader.cursor) chunk.size =
        .ok (image.layout.align reader.cursor + chunk.size) := by
      apply add_eq
      simp only [seekBound, maxOffset] at *
      omega
    rw [Image.readChunks_of_chunkAt rfl found, read_eq]
    simp only [ok_bind, size_eq, next_eq]
    by_cases starts : chunk.kind.startsRecord = reader.isFirst
    · refine .inr ⟨chunk, filled, found, starts, filledRoom, ?_⟩
      rw [starts]
      simp
    · refine .inl ?_
      cases isFirst_eq : reader.isFirst <;> simp_all

/-- The rounds come to the record that is read with natural numbers. Every round
that goes on has passed a header within the size. -/
theorem rounds_eq (whole : image.Whole) (small : image.size < seekBound) {count : Nat}
    {reader : Reader} (room : reader.buffer.length = image.layout.blockSize)
    (inside : reader.cursor ≤ image.size)
    (enough : image.size - reader.cursor < count * headerSize) :
    rounds image count reader =
      match image.readChunks reader.isFirst reader.cursor with
      | .error cause => .error (.failed cause)
      | .ok (payload, stop) => .ok (reader.payload ++ payload, stop) := by
  induction count generalizing reader with
  | zero => simp only [Nat.zero_mul, Nat.not_lt_zero] at enough
  | succ count ih =>
      rcases round_cases whole small room inside with
        ⟨cause, failed, halted⟩ | ⟨chunk, filled, found, starts, filledRoom, taken⟩
      · rw [rounds, halted, failed]
        rfl
      · have forward := image.layout.le_align reader.cursor
        have stop_le := Image.stop_le_size_of_chunkAt whole found
        rw [rounds, taken, ok_bind, Image.readChunks_of_chunkAt rfl found, starts]
        cases ends : chunk.kind.endsRecord with
        | true => simp
        | false =>
            have shorter : image.size - (image.layout.align reader.cursor + chunk.size) <
                count * headerSize := by
              simp only [Chunk.size, headerSize, Nat.add_mul, Nat.one_mul] at *
              omega
            simp only [Bool.false_eq_true, if_false]
            rw [ih filledRoom stop_le shorter]
            cases image.readChunks false (image.layout.align reader.cursor + chunk.size) with
            | error cause => simp
            | ok done => simp

/-- Reading with words answers what reading with natural numbers answers. -/
theorem read_eq (whole : image.Whole) (small : image.size < seekBound)
    (room : buffer.length = image.layout.blockSize) (offset : Nat) :
    read image buffer (image.size / headerSize + 1) offset =
      (image.read offset).mapError .failed := by
  have enough : image.size < (image.size / headerSize + 1) * headerSize := by
    simp only [headerSize]
    omega
  rw [read, Image.read]
  split
  · rfl
  split
  · rfl
  rename_i inside
  rw [rounds_eq whole small room (by simp only; omega) (by simp only; omega)]
  cases image.readChunks true offset with
  | error cause => rfl
  | ok done => simp [Except.mapError]

end Word

/-! ## Segments -/

namespace Segment

/-- The payload of the record anchored at an offset, read with words in at most
so many rounds. -/
def readWords (segment : Segment) (storage : Storage) (buffer : List UInt8)
    (count offset : Nat) : Except Halt (List UInt8) :=
  (Word.read (segment.image storage) buffer count offset).map Prod.fst

/-- Reading a segment whose file has just its size ends and stays in range,
fails through damage alone, and answers a payload exactly where its record is
stored. -/
theorem read_exact {segment : Segment} {storage : Storage} {buffer : List UInt8}
    (isOpen : segment.closed = false)
    (whole : (storage.content segment.handle).size = segment.size)
    (small : segment.size < 2 ^ 63) (room : buffer.length = segment.layout.blockSize)
    (offset : Nat) :
    segment.readWords storage buffer (segment.size / headerSize + 1) offset =
        (segment.read storage offset).mapError .failed ∧
      (∀ cause, segment.read storage offset = .error cause → cause.isDamage = true) ∧
        ∀ payload, segment.read storage offset = .ok payload ↔
          offset < segment.size ∧
            RecordStored segment.layout (storage.content segment.handle).toList offset payload := by
  have imageWhole : (segment.image storage).Whole := by
    rw [image_eq isOpen]
    exact Nat.le_of_eq whole.symm
  have imageOpen : (segment.image storage).isOpen = true := by rw [image_eq isOpen]
  have imageSmall : (segment.image storage).size ≤ maxOffset := by
    simp only [image, maxOffset]
    omega
  have stored_eq : (segment.image storage).stored = (storage.content segment.handle).toList := by
    rw [image_eq isOpen, Image.stored, List.take_of_length_le]
    rw [Array.length_toList]
    exact Nat.le_of_eq whole
  refine ⟨?_, fun cause failed => ?_, fun payload => ?_⟩
  · have words := Word.read_eq imageWhole small room offset
    rw [readWords, show segment.size = (segment.image storage).size from rfl, words, read]
    cases (segment.image storage).read offset with
    | error cause => rfl
    | ok done => rfl
  · rw [read] at failed
    split at failed
    · rename_i imageFailed
      cases failed
      exact Image.isDamage_of_read imageWhole imageOpen imageFailed
    · cases failed
  · have stored := Image.exists_read_iff imageWhole imageSmall imageOpen offset payload
    rw [stored_eq] at stored
    refine Iff.trans ?_ stored
    rw [read]
    cases (segment.image storage).read offset with
    | error cause => simp
    | ok done => simp [Prod.ext_iff]

/-- A file with a short record, one over two blocks, and the beginning of
another one. -/
def spanningBytes : List UInt8 :=
  smallLayout.writtenBytes 0 [[1, 2, 3], List.replicate 20 4] ++ [5, 6, 7]

/-- The storage of that file, which is open. -/
def spanningStorage : Storage :=
  ((Storage.empty.putFile ⟨"1.seg"⟩ spanningBytes.toArray).2.openNode 0).2

/-- The segment on that file. -/
def spanningSegment : Segment :=
  ofHandle ⟨"1.seg"⟩ .first smallLayout ⟨0⟩ spanningBytes.length

theorem read_exact_of_spanning :
    spanningSegment.closed = false ∧
      (spanningStorage.content spanningSegment.handle).size = spanningSegment.size ∧
        spanningSegment.size < 2 ^ 63 ∧
          (List.replicate 32 (0 : UInt8)).length = spanningSegment.layout.blockSize ∧
            RecordStored smallLayout spanningBytes 10 (List.replicate 20 4) ∧
              ∀ payload, ¬ RecordStored smallLayout spanningBytes 44 payload := by
  have whole : (spanningStorage.content spanningSegment.handle).size = spanningSegment.size := by
    decide +kernel
  have bytes_eq : (spanningStorage.content spanningSegment.handle).toList = spanningBytes := by
    decide +kernel
  have small : spanningSegment.size < 2 ^ 63 := by decide +kernel
  have room : (List.replicate 32 (0 : UInt8)).length = spanningSegment.layout.blockSize := by
    decide
  have accepted : spanningSegment.read spanningStorage 10 = .ok (List.replicate 20 4) := by
    decide +kernel
  have refused : (spanningSegment.read spanningStorage 44).toBool = false := by
    decide +kernel
  obtain ⟨_, _, stored⟩ := read_exact rfl whole small room 10
  obtain ⟨_, _, missing⟩ := read_exact rfl whole small room 44
  rw [bytes_eq] at stored missing
  refine ⟨rfl, whole, small, room, ((stored _).mp accepted).2, fun payload stray => ?_⟩
  rw [(missing payload).mpr ⟨by decide +kernel, stray⟩] at refused
  cases refused

end Segment

end RecordLog
