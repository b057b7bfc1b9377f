/-!
# Little-endian fields

A natural number written into a field of fixed width, lowest byte first, and
read back. Writing reduces the number to the range of the field; reading and
writing are inverse on the fields themselves.
-/

namespace RecordLog

/-- The number of values that a field of some width can hold. -/
def fieldRange : Nat → Nat
  | 0 => 1
  | width + 1 => 256 * fieldRange width

/-- The lowest `width` bytes of a number, lowest first. -/
def littleEndian : Nat → Nat → List UInt8
  | 0, _ => []
  | width + 1, n => UInt8.ofNat n :: littleEndian width (n / 256)

/-- The number a field holds. -/
def ofLittleEndian : List UInt8 → Nat
  | [] => 0
  | byte :: bytes => byte.toNat + 256 * ofLittleEndian bytes

@[simp]
theorem length_littleEndian (width n : Nat) : (littleEndian width n).length = width := by
  induction width generalizing n with
  | zero => rfl
  | succ width ih => simp [littleEndian, ih]

/-- A field holds the number written into it, reduced to the field's range. -/
@[simp]
theorem ofLittleEndian_littleEndian (width n : Nat) :
    ofLittleEndian (littleEndian width n) = n % fieldRange width := by
  induction width generalizing n with
  | zero => simp [littleEndian, ofLittleEndian, fieldRange, Nat.mod_one]
  | succ width ih =>
      rw [littleEndian, ofLittleEndian, ih, fieldRange, Nat.mod_mul]
      simp

/-- A number within a field's range is read back as it was written. -/
theorem ofLittleEndian_littleEndian_of_lt {width n : Nat} (h : n < fieldRange width) :
    ofLittleEndian (littleEndian width n) = n := by
  rw [ofLittleEndian_littleEndian, Nat.mod_eq_of_lt h]

/-- Writing a field's number back gives the field. -/
theorem littleEndian_ofLittleEndian (bytes : List UInt8) :
    littleEndian bytes.length (ofLittleEndian bytes) = bytes := by
  induction bytes with
  | nil => rfl
  | cons byte bytes ih =>
      have low : UInt8.ofNat (byte.toNat + 256 * ofLittleEndian bytes) = byte := by
        apply UInt8.toNat_inj.mp
        have := byte.toNat_lt
        simp
      have high : (byte.toNat + 256 * ofLittleEndian bytes) / 256 = ofLittleEndian bytes := by
        have := byte.toNat_lt
        omega
      rw [List.length_cons, ofLittleEndian, littleEndian, low, high, ih]

/-- A field holds a number within its range. -/
theorem ofLittleEndian_lt (bytes : List UInt8) :
    ofLittleEndian bytes < fieldRange bytes.length := by
  induction bytes with
  | nil => decide
  | cons byte bytes ih =>
      have := byte.toNat_lt
      rw [ofLittleEndian, List.length_cons, fieldRange]
      omega

end RecordLog
