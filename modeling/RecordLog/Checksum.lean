/-!
# CRC-32

The checksum of a chunk is the cyclic redundancy check with the reflected
polynomial `0xEDB88320`: the register starts with all bits set, absorbs the
message byte by byte, and is complemented at the end. One byte is eight steps
of a linear shift register, so absorbing a concatenation is absorbing its
parts in turn.
-/

namespace RecordLog.Checksum

/-- The generator polynomial, lowest degree in the highest bit. -/
def polynomial : UInt32 := 0xEDB88320

/-- Shift the register by one bit and subtract the polynomial when a set bit
falls out. -/
@[inline]
def bitStep (register : UInt32) : UInt32 :=
  if register &&& 1 = 1 then (register >>> 1) ^^^ polynomial else register >>> 1

/-- Shift the register by a whole byte. -/
def shiftByte (register : UInt32) : UInt32 :=
  bitStep (bitStep (bitStep (bitStep (bitStep (bitStep (bitStep (bitStep register)))))))

/-- Absorb one byte: add it to the low end of the register and shift it out. -/
def byteStep (register : UInt32) (byte : UInt8) : UInt32 :=
  shiftByte (register ^^^ byte.toUInt32)

/-- Absorb a message into a register. -/
def absorb (register : UInt32) (message : List UInt8) : UInt32 :=
  message.foldl byteStep register

/-- The CRC-32 of a message. -/
def crc32 (message : List UInt8) : UInt32 :=
  absorb 0xFFFFFFFF message ^^^ 0xFFFFFFFF

@[simp]
theorem absorb_nil (register : UInt32) : absorb register [] = register :=
  rfl

@[simp]
theorem absorb_cons (register : UInt32) (byte : UInt8) (message : List UInt8) :
    absorb register (byte :: message) = absorb (byteStep register byte) message :=
  rfl

/-- A concatenation is absorbed part by part. -/
theorem absorb_append (register : UInt32) (first second : List UInt8) :
    absorb register (first ++ second) = absorb (absorb register first) second :=
  List.foldl_append

/-- The check value of the algorithm, over the digits one to nine. -/
example :
    crc32 [0x31, 0x32, 0x33, 0x34, 0x35, 0x36, 0x37, 0x38, 0x39] = 0xCBF43926 := by
  decide +kernel

end RecordLog.Checksum
