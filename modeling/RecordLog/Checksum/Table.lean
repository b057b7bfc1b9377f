import RecordLog.Checksum

/-!
# CRC-32 by table

Shifting the register by a byte is linear: the upper three bytes only move
down, and the lowest one leaves a remainder that depends on nothing else. With
the 256 remainders at hand a byte is absorbed by one look into a table.
Searching a damaged block needs the checksums of many overlapping runs of
bytes, and this is how they are computed; `crc32Between_eq` says that it is
the checksum all the same.
-/

namespace RecordLog.Checksum

/-! ## The register is linear -/

theorem and_one_eq_one_iff (register : UInt32) :
    register &&& 1 = 1 ↔ register.toNat.testBit 0 = true := by
  rw [← UInt32.toNat_inj]
  simp

/-- Registers are added without carry, and so are their shifts. -/
theorem bitStep_xor (first second : UInt32) :
    bitStep (first ^^^ second) = bitStep first ^^^ bitStep second := by
  unfold bitStep
  simp only [and_one_eq_one_iff, UInt32.toNat_xor, Nat.testBit_xor, UInt32.shiftRight_xor]
  cases first.toNat.testBit 0 <;> cases second.toNat.testBit 0
  · simp
  · simp [UInt32.xor_assoc]
  · simp only [Bool.xor_false, if_true, Bool.false_eq_true, if_false]
    rw [UInt32.xor_assoc, UInt32.xor_comm (second >>> 1), UInt32.xor_assoc]
  · simp only [Bool.xor_true, Bool.not_true, Bool.false_eq_true, if_false, if_true]
    rw [UInt32.xor_assoc, UInt32.xor_comm polynomial, UInt32.xor_assoc,
      UInt32.xor_self, UInt32.xor_zero]

theorem shiftByte_xor (first second : UInt32) :
    shiftByte (first ^^^ second) = shiftByte first ^^^ shiftByte second := by
  simp only [shiftByte, bitStep_xor]

/-! ## The lowest byte decides -/

/-- An even register only moves down. -/
theorem bitStep_double {n : Nat} (h : 2 * n < 4294967296) :
    bitStep (.ofNat (2 * n)) = .ofNat n := by
  unfold bitStep
  rw [if_neg]
  · apply UInt32.toNat_inj.mp
    simp [Nat.shiftRight_eq_div_pow]
    omega
  · simp [and_one_eq_one_iff]

/-- A register with an empty lowest byte only moves down. -/
theorem shiftByte_ofNat {n : Nat} (h : 256 * n < 4294967296) :
    shiftByte (.ofNat (256 * n)) = .ofNat n := by
  have split : 256 * n = 2 * (2 * (2 * (2 * (2 * (2 * (2 * (2 * n))))))) := by omega
  rw [split] at h ⊢
  simp only [shiftByte]
  repeat rw [bitStep_double (by omega)]

/-- Adding a byte below others needs no carry. -/
theorem mul_xor_eq_add {high low : Nat} (h : low < 256) :
    256 * high ^^^ low = 256 * high + low := by
  apply Nat.eq_of_testBit_eq
  intro i
  have sum := Nat.testBit_two_pow_mul_add high (i := 8) h i
  rw [show 256 = 2 ^ 8 from rfl, sum, Nat.testBit_xor, Nat.testBit_two_pow_mul]
  by_cases inside : i < 8
  · simp [inside, Nat.not_le.mpr inside]
  · have small : low < 2 ^ i :=
      Nat.lt_of_lt_of_le h (Nat.pow_le_pow_right (by decide : 2 > 0) (Nat.not_lt.mp inside))
    simp [inside, Nat.not_lt.mp inside, Nat.testBit_lt_two_pow small]

/-- What the lowest byte leaves is added to the rest, moved down. -/
theorem shiftByte_eq (register : UInt32) :
    shiftByte register = (register >>> 8) ^^^ shiftByte register.toUInt8.toUInt32 := by
  have bound := register.toNat_lt
  have low : register.toUInt8.toUInt32 = .ofNat (register.toNat % 256) := by
    apply UInt32.toNat_inj.mp
    simp
    omega
  have high : register >>> 8 = .ofNat (register.toNat / 256) := by
    apply UInt32.toNat_inj.mp
    simp [Nat.shiftRight_eq_div_pow]
    omega
  have parts :
      register = .ofNat (256 * (register.toNat / 256)) ^^^ .ofNat (register.toNat % 256) := by
    rw [← UInt32.ofNat_xor, mul_xor_eq_add (by omega), Nat.div_add_mod, UInt32.ofNat_toNat]
  rw [low, high]
  conv => lhs; rw [parts]
  rw [shiftByte_xor, shiftByte_ofNat (by omega)]

/-! ## The table -/

/-- What every byte leaves of itself. -/
def byteTable : Vector UInt32 256 :=
  .ofFn fun byte => shiftByte (.ofNat byte)

/-- Absorb one byte by a look into the table. -/
@[inline]
def tableStep (register : UInt32) (byte : UInt8) : UInt32 :=
  let low := register.toUInt8 ^^^ byte
  have : low.toNat < 256 := low.toNat_lt
  (register >>> 8) ^^^ byteTable[low.toNat]

/-- The table absorbs a byte as the shift register does. -/
theorem tableStep_eq (register : UInt32) (byte : UInt8) :
    tableStep register byte = byteStep register byte := by
  have gone : byte.toUInt32 >>> 8 = 0 := by
    apply UInt32.toNat_inj.mp
    have := byte.toNat_lt
    simp [Nat.shiftRight_eq_div_pow]
    omega
  have low : (register ^^^ byte.toUInt32).toUInt8 = register.toUInt8 ^^^ byte := by
    rw [UInt32.toUInt8_xor, UInt8.toUInt8_toUInt32]
  have entry (index : UInt8) : UInt32.ofNat index.toNat = index.toUInt32 := by
    apply UInt32.toNat_inj.mp
    simp
  rw [byteStep, shiftByte_eq, low, UInt32.shiftRight_xor, gone, UInt32.xor_zero]
  simp only [tableStep, byteTable, Vector.getElem_ofFn, entry]

/-- The CRC-32 of the bytes between two offsets. -/
def crc32Between (bytes : Array UInt8) (start stop : Nat) : UInt32 :=
  bytes.foldl tableStep 0xFFFFFFFF start stop ^^^ 0xFFFFFFFF

theorem crc32Between_eq (bytes : Array UInt8) (start stop : Nat) :
    crc32Between bytes start stop = crc32 (bytes.extract start stop).toList := by
  have same : tableStep = byteStep := by
    funext register byte
    exact tableStep_eq register byte
  rw [crc32Between, crc32, absorb, same, Array.foldl_toList, Array.foldl, Array.foldlM_start_stop]
  rfl

end RecordLog.Checksum
