import RecordLog.Chunk

/-!
# Exactness of the chunk codec

Decoding accepts a byte string exactly when it begins with the stored form of
a chunk whose data the length field can describe, and then answers that chunk.
What follows the chunk does not matter, so a chunk is found wherever its bytes
stand. Encoding and decoding undo each other, and no stored chunk begins with
another one.
-/

namespace RecordLog.Chunk

/-- Bytes that are long enough begin with a header. -/
theorem exists_header {bytes : List UInt8} (long : headerSize ≤ bytes.length) :
    ∃ c₀ c₁ c₂ c₃ l₀ l₁ code rest,
      bytes = c₀ :: c₁ :: c₂ :: c₃ :: l₀ :: l₁ :: code :: rest := by
  match bytes with
  | c₀ :: c₁ :: c₂ :: c₃ :: l₀ :: l₁ :: code :: rest =>
      exact ⟨c₀, c₁, c₂, c₃, l₀, l₁, code, rest, rfl⟩
  | [] | [_] | [_, _] | [_, _, _] | [_, _, _, _] | [_, _, _, _, _] | [_, _, _, _, _, _] =>
      simp [headerSize] at long

/-- The stored form of a chunk spelled out: four bytes of checksum, two of
length, the kind and the data. -/
private theorem bytes_eq (chunk : Chunk) :
    ∃ c₀ c₁ c₂ c₃ l₀ l₁,
      chunk.bytes = c₀ :: c₁ :: c₂ :: c₃ :: l₀ :: l₁ :: chunk.kind.code :: chunk.data ∧
        littleEndian 4 chunk.checksum.toNat = [c₀, c₁, c₂, c₃] ∧
          littleEndian 2 chunk.data.length = [l₀, l₁] :=
  ⟨_, _, _, _, _, _, rfl, rfl, rfl⟩

/-- A chunk is read back from its stored form, whatever follows. -/
theorem decode_bytes_append {chunk : Chunk} (offset : Nat) (rest : List UInt8)
    (small : chunk.data.length ≤ maxDataSize) :
    decode offset (chunk.bytes ++ rest) = .ok chunk := by
  obtain ⟨c₀, c₁, c₂, c₃, l₀, l₁, spelled, checksumField, lengthField⟩ := bytes_eq chunk
  have checksumRead : ofLittleEndian [c₀, c₁, c₂, c₃] = chunk.checksum.toNat := by
    rw [← checksumField]
    exact ofLittleEndian_littleEndian_of_lt chunk.checksum.toNat_lt
  have lengthRead : ofLittleEndian [l₀, l₁] = chunk.data.length := by
    rw [← lengthField]
    apply ofLittleEndian_littleEndian_of_lt
    simp only [maxDataSize] at small
    simp only [fieldRange]
    omega
  simp only [spelled, List.cons_append, decode, checksumRead, lengthRead,
    List.take_left, List.length_append, UInt32.ofNat_toNat, Kind.ofCode?_code]
  rw [if_neg (by omega), if_neg (by simp [checksum])]

/-- What decoding answers is stored at the start of the bytes. -/
theorem isPrefix_of_decode {offset : Nat} {stored : List UInt8} {chunk : Chunk}
    (done : decode offset stored = .ok chunk) :
    chunk.data.length ≤ maxDataSize ∧ chunk.bytes <+: stored := by
  unfold decode at done
  split at done
  · rename_i c₀ c₁ c₂ c₃ l₀ l₁ code rest
    simp only at done
    split at done
    · cases done
    rename_i enough
    split at done
    · cases done
    rename_i same
    split at done
    · cases done
    · rename_i kind known
      cases done
      have code_eq : code = kind.code := Kind.ofCode?_eq_some_iff.mp known
      have length_eq : (rest.take (ofLittleEndian [l₀, l₁])).length = ofLittleEndian [l₀, l₁] := by
        rw [List.length_take]
        omega
      have lengthBound := ofLittleEndian_lt [l₀, l₁]
      have checksumBound := ofLittleEndian_lt [c₀, c₁, c₂, c₃]
      have lengthField := littleEndian_ofLittleEndian [l₀, l₁]
      have checksumField := littleEndian_ofLittleEndian [c₀, c₁, c₂, c₃]
      simp only [List.length_cons, List.length_nil, fieldRange] at lengthBound checksumBound
      simp only [List.length_cons, List.length_nil] at lengthField checksumField
      simp only [ne_eq, Decidable.not_not] at same
      refine ⟨by simp only [length_eq, maxDataSize]; omega, rest.drop (ofLittleEndian [l₀, l₁]), ?_⟩
      have checksum_eq :
          (checksum ⟨kind, rest.take (ofLittleEndian [l₀, l₁])⟩).toNat =
            ofLittleEndian [c₀, c₁, c₂, c₃] := by
        rw [checksum, length_eq, ← code_eq, ← same, UInt32.toNat_ofNat_of_lt' checksumBound]
      simp only [bytes, checksum_eq, length_eq, lengthField, checksumField, code_eq]
      simp
  · cases done

/-- Decoding answers a chunk exactly where the bytes begin with its stored
form. -/
theorem decode_eq_ok_iff {offset : Nat} {stored : List UInt8} {chunk : Chunk} :
    decode offset stored = .ok chunk ↔
      chunk.data.length ≤ maxDataSize ∧ chunk.bytes <+: stored := by
  constructor
  · exact isPrefix_of_decode
  · rintro ⟨small, rest, rfl⟩
    exact decode_bytes_append offset rest small

/-- The length field of a stored chunk is the length of its data. -/
theorem declaredLength_bytes_append {chunk : Chunk} (rest : List UInt8)
    (small : chunk.data.length ≤ maxDataSize) :
    declaredLength (chunk.bytes ++ rest) = chunk.data.length := by
  obtain ⟨c₀, c₁, c₂, c₃, l₀, l₁, spelled, _, lengthField⟩ := bytes_eq chunk
  rw [spelled, declaredLength]
  simp only [List.cons_append, List.drop_succ_cons, List.drop_zero, List.take_succ_cons,
    List.take_zero]
  rw [← lengthField]
  apply ofLittleEndian_littleEndian_of_lt
  simp only [maxDataSize] at small
  simp only [fieldRange]
  omega

/-- The header alone tells the length. -/
theorem declaredLength_take (stored : List UInt8) :
    declaredLength (stored.take headerSize) = declaredLength stored := by
  simp [declaredLength, headerSize, List.drop_take, List.take_take]

/-! ## Encoding and decoding together -/

/-- Data the length field can describe is appended to the buffer as a chunk. -/
theorem encodeOnto_of_le {data : List UInt8} (buffer : List UInt8) (kind : Kind)
    (small : data.length ≤ maxDataSize) :
    encodeOnto buffer kind data =
      (.ok (headerSize + data.length), buffer ++ bytes ⟨kind, data⟩) := by
  simp [encodeOnto, encode, small, size]

/-- Other data is refused and the buffer stays as it was. -/
theorem encodeOnto_of_lt {data : List UInt8} (buffer : List UInt8) (kind : Kind)
    (large : maxDataSize < data.length) :
    encodeOnto buffer kind data =
      (.error (.payloadTooLarge data.length maxDataSize), buffer) := by
  simp [encodeOnto, encode, Nat.not_le.mpr large]

/-- Encoding says yes to a buffer exactly for data the length field can
describe. -/
theorem encodeOnto_ok_iff {buffer data : List UInt8} {kind : Kind} :
    (∃ count, (encodeOnto buffer kind data).1 = .ok count) ↔ data.length ≤ maxDataSize := by
  constructor
  · rintro ⟨count, done⟩
    rcases Nat.lt_or_ge maxDataSize data.length with large | small
    · rw [encodeOnto_of_lt buffer kind large] at done
      cases done
    · exact small
  · intro small
    exact ⟨_, by rw [encodeOnto_of_le buffer kind small]⟩

/-- Decoding accepts exactly the byte strings that begin with what encoding
makes of the answer. -/
theorem decode_eq_ok_iff_encode {offset : Nat} {stored : List UInt8} {chunk : Chunk} :
    decode offset stored = .ok chunk ↔
      ∃ encoded, encode chunk.kind chunk.data = .ok encoded ∧ encoded <+: stored := by
  rw [decode_eq_ok_iff]
  constructor
  · rintro ⟨small, front⟩
    exact ⟨chunk.bytes, encode_eq_ok_iff.mpr ⟨small, rfl⟩, front⟩
  · rintro ⟨encoded, made, front⟩
    rcases encode_eq_ok_iff.mp made with ⟨small, rfl⟩
    exact ⟨small, front⟩

/-- Encoding what was decoded gives back the bytes it was decoded from. -/
theorem encode_of_decode {offset : Nat} {stored : List UInt8} {chunk : Chunk}
    (done : decode offset stored = .ok chunk) :
    encode chunk.kind chunk.data = .ok (stored.take chunk.size) := by
  rcases isPrefix_of_decode done with ⟨small, front⟩
  apply encode_eq_ok_iff.mpr
  constructor
  · exact small
  · rw [← length_bytes]
    exact (List.prefix_iff_eq_take.mp front).symm

/-- A stored chunk begins with no other stored chunk. -/
theorem eq_of_bytes_isPrefix {first second : Chunk}
    (small : first.data.length ≤ maxDataSize) (fits : second.data.length ≤ maxDataSize)
    (front : first.bytes <+: second.bytes) : first = second := by
  have found : decode 0 second.bytes = .ok first := decode_eq_ok_iff.mpr ⟨small, front⟩
  have itself : decode 0 second.bytes = .ok second :=
    decode_eq_ok_iff.mpr ⟨fits, List.prefix_rfl⟩
  rw [found] at itself
  exact Except.ok.inj itself

/-- What encoding does to a buffer: it says yes exactly to data the length
field can describe and then appends a header and the data, the same bytes for
every buffer; a refusal leaves the buffer alone. -/
structure EncodesExactly (buffer : List UInt8) (kind : Kind) (data : List UInt8) : Prop where
  accepts : (∃ count, (encodeOnto buffer kind data).1 = .ok count) ↔ data.length ≤ 65535
  appends : ∀ count, (encodeOnto buffer kind data).1 = .ok count →
    ∃ encoded, encode kind data = .ok encoded ∧ encoded.length = headerSize + data.length ∧
      count = encoded.length ∧ (encodeOnto buffer kind data).2 = buffer ++ encoded
  leaves : ∀ cause, (encodeOnto buffer kind data).1 = .error cause →
    (encodeOnto buffer kind data).2 = buffer ∧ cause = .payloadTooLarge data.length 65535

/-- Encoding does this to every buffer. -/
theorem encodesExactly (buffer : List UInt8) (kind : Kind) (data : List UInt8) :
    EncodesExactly buffer kind data := by
  constructor
  case accepts => exact encodeOnto_ok_iff
  case appends =>
    intro count done
    have small : data.length ≤ maxDataSize := encodeOnto_ok_iff.mp ⟨count, done⟩
    rw [encodeOnto_of_le buffer kind small] at done ⊢
    cases done
    exact ⟨_, encode_eq_ok_iff.mpr ⟨small, rfl⟩, length_bytes ⟨kind, data⟩,
      (length_bytes ⟨kind, data⟩).symm, rfl⟩
  case leaves =>
    intro cause refused
    rcases Nat.lt_or_ge maxDataSize data.length with large | small
    · rw [encodeOnto_of_lt buffer kind large] at refused ⊢
      cases refused
      exact ⟨rfl, rfl⟩
    · rw [encodeOnto_of_le buffer kind small] at refused
      cases refused

/-- The codec is exact: encoding takes all data the length field can describe
and nothing else, and decoding answers a chunk exactly where the bytes begin
with what encoding makes of it. So decoding undoes encoding whatever follows,
encoding undoes decoding, and no encoding begins with another one. -/
theorem codec_exact :
    (∀ buffer kind data, EncodesExactly buffer kind data) ∧
    (∀ offset stored chunk, decode offset stored = .ok chunk ↔
      ∃ encoded, encode chunk.kind chunk.data = .ok encoded ∧ encoded <+: stored) ∧
    (∀ kind data encoded, encode kind data = .ok encoded →
      ∀ offset rest, decode offset (encoded ++ rest) = .ok ⟨kind, data⟩) ∧
    (∀ offset stored chunk, decode offset stored = .ok chunk →
      encode chunk.kind chunk.data = .ok (stored.take chunk.size) ∧
        ∀ place rest, decode place (stored.take chunk.size ++ rest) = .ok chunk) ∧
    (∀ first second : Chunk, ∀ encoded longer,
      encode first.kind first.data = .ok encoded →
        encode second.kind second.data = .ok longer → encoded <+: longer → first = second) := by
  have undoes (kind : Kind) (data encoded : List UInt8) (made : encode kind data = .ok encoded)
      (offset : Nat) (rest : List UInt8) :
      decode offset (encoded ++ rest) = .ok ⟨kind, data⟩ :=
    decode_eq_ok_iff_encode.mpr ⟨encoded, made, List.prefix_append encoded rest⟩
  constructor
  · exact encodesExactly
  constructor
  · intro offset stored chunk
    exact decode_eq_ok_iff_encode
  constructor
  · exact undoes
  constructor
  · intro offset stored chunk done
    have made := encode_of_decode done
    exact ⟨made, undoes chunk.kind chunk.data _ made⟩
  · intro first second encoded longer made madeLonger front
    rcases encode_eq_ok_iff.mp made with ⟨small, rfl⟩
    rcases encode_eq_ok_iff.mp madeLonger with ⟨fits, rfl⟩
    exact eq_of_bytes_isPrefix small fits front

end RecordLog.Chunk
