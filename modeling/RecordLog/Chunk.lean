import RecordLog.Checksum
import RecordLog.Failure
import RecordLog.LittleEndian

/-!
# Chunks

A chunk is stored as a header of seven bytes and its data: the checksum in
four bytes, the length of the data in two, the kind in one. The checksum
covers the length, the kind and the data. Decoding looks at the start of a
byte string, refuses whatever encoding would not have written there, and does
not depend on what follows.
-/

namespace RecordLog

/-- The size of a chunk header. -/
def headerSize : Nat := 7

/-- The largest data one chunk can describe in its length field. -/
def maxDataSize : Nat := 65535

/-- One chunk: its kind and its data. -/
structure Chunk where
  kind : Kind
  data : List UInt8
  deriving DecidableEq, Repr

namespace Chunk

/-- The checksum over a length field, a kind code and data. -/
def checksumOf (length : Nat) (code : UInt8) (data : List UInt8) : UInt32 :=
  Checksum.crc32 (littleEndian 2 length ++ code :: data)

/-- The checksum of a chunk. -/
def checksum (chunk : Chunk) : UInt32 :=
  checksumOf chunk.data.length chunk.kind.code chunk.data

/-- The number of bytes a chunk occupies. -/
def size (chunk : Chunk) : Nat := headerSize + chunk.data.length

/-- The stored form of a chunk. -/
def bytes (chunk : Chunk) : List UInt8 :=
  littleEndian 4 chunk.checksum.toNat ++ (littleEndian 2 chunk.data.length ++
    chunk.kind.code :: chunk.data)

/-- Store data as one chunk; data that the length field cannot describe is
refused. -/
def encode (kind : Kind) (data : List UInt8) : Except Failure (List UInt8) :=
  if data.length ≤ maxDataSize then .ok (bytes ⟨kind, data⟩)
  else .error (.payloadTooLarge data.length maxDataSize)

/-- Append the stored form of a chunk to a buffer, answering the number of
bytes added. A refused chunk leaves the buffer as it was. -/
def encodeOnto (buffer : List UInt8) (kind : Kind) (data : List UInt8) :
    Except Failure Nat × List UInt8 :=
  match encode kind data with
  | .ok stored => (.ok stored.length, buffer ++ stored)
  | .error cause => (.error cause, buffer)

/-- The data length a header declares. -/
def declaredLength (header : List UInt8) : Nat :=
  ofLittleEndian ((header.drop 4).take 2)

/-- Read the chunk at the start of a byte string. The offset is the place of
the string in its file and appears in failures only. -/
def decode (offset : Nat) : List UInt8 → Except Failure Chunk
  | c₀ :: c₁ :: c₂ :: c₃ :: l₀ :: l₁ :: code :: rest =>
      let stored := UInt32.ofNat (ofLittleEndian [c₀, c₁, c₂, c₃])
      let length := ofLittleEndian [l₀, l₁]
      let data := rest.take length
      if rest.length < length then
        .error (.corrupt offset (.lengthExceeds length rest.length))
      else if stored ≠ checksumOf length code data then
        .error (.corrupt offset (.checksumMismatch stored (checksumOf length code data)))
      else
        match Kind.ofCode? code with
        | none => .error (.corrupt offset (.unknownKind code))
        | some kind => .ok ⟨kind, data⟩
  | short => .error (.corrupt offset (.shortFrame short.length))

@[simp]
theorem length_bytes (chunk : Chunk) : chunk.bytes.length = chunk.size := by
  simp [bytes, size, headerSize]
  omega

/-- Encoding succeeds exactly on data the length field can describe. -/
theorem encode_eq_ok_iff {kind : Kind} {data stored : List UInt8} :
    encode kind data = .ok stored ↔
      data.length ≤ maxDataSize ∧ stored = bytes ⟨kind, data⟩ := by
  unfold encode
  split
  · simp_all [eq_comm]
  · simp
    omega

/-- Bytes that are not a chunk are damaged. -/
theorem isDamage_of_decode {offset : Nat} {stored : List UInt8} {cause : Failure}
    (failed : decode offset stored = .error cause) : cause.isDamage = true := by
  unfold decode at failed
  split at failed
  · simp only at failed
    repeat' split at failed
    all_goals cases failed
    all_goals rfl
  · cases failed
    rfl

/-- The seventh byte of a chunk is the code of its kind. -/
theorem code_of_decode {offset : Nat} {stored : List UInt8} {chunk : Chunk}
    (done : decode offset stored = .ok chunk) : stored[6]? = some chunk.kind.code := by
  unfold decode at done
  split at done
  · simp only at done
    repeat' split at done
    · cases done
    · cases done
    · cases done
    · rename_i known
      cases done
      simp [Kind.ofCode?_eq_some_iff.mp known]
  · cases done

/-- The checksum of a chunk is made of all bytes after it. -/
theorem checksum_of_decode {offset : Nat} {stored : List UInt8} {chunk : Chunk}
    (done : decode offset stored = .ok chunk)
    (exact : stored.length = headerSize + declaredLength stored) :
    UInt32.ofNat (ofLittleEndian (stored.take 4)) = Checksum.crc32 (stored.drop 4) := by
  unfold decode at done
  split at done
  · rename_i c₀ c₁ c₂ c₃ l₀ l₁ code rest
    simp only [declaredLength, headerSize, List.drop_succ_cons, List.drop_zero,
      List.take_succ_cons, List.take_zero, List.length_cons] at exact
    have whole : rest.take (ofLittleEndian [l₀, l₁]) = rest :=
      List.take_of_length_le (by omega)
    simp only [whole] at done
    split at done
    · cases done
    split at done
    · cases done
    · rename_i same
      simp only [ne_eq, Decidable.not_not] at same
      have length := littleEndian_ofLittleEndian [l₀, l₁]
      simp only [List.length_cons, List.length_nil] at length
      simpa [checksumOf, length] using same
  · cases done

end Chunk

end RecordLog
