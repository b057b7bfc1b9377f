import RecordLog.Storage.Basic

/-!
# Names as text

Names that are no text are shown as text all the same: what is well-formed
UTF-8 in them stands for itself, and each longest beginning of a character
that breaks off is shown as one replacement character.
-/

namespace RecordLog.Text

/-- The character shown for what is no text. -/
def replacement : Char := Char.ofNat 0xFFFD

/-- The number of bytes that follow a first byte, and the least and greatest
value of the first of them. -/
def followers (lead : UInt8) : Option (Nat × UInt8 × UInt8) :=
  if lead < 0x80 then some (0, 0x80, 0xBF)
  else if lead < 0xC2 then none
  else if lead < 0xE0 then some (1, 0x80, 0xBF)
  else if lead = 0xE0 then some (2, 0xA0, 0xBF)
  else if lead = 0xED then some (2, 0x80, 0x9F)
  else if lead < 0xF0 then some (2, 0x80, 0xBF)
  else if lead = 0xF0 then some (3, 0x90, 0xBF)
  else if lead < 0xF4 then some (3, 0x80, 0xBF)
  else if lead = 0xF4 then some (3, 0x80, 0x8F)
  else none

/-- The bits that a first byte gives to its character. -/
def leadBits (lead : UInt8) (count : Nat) : Nat :=
  if count = 0 then lead.toNat else lead.toNat % (64 >>> count)

/-- Decode bytes. The state is what the character begun so far still needs:
the number of bytes, the range of the next one, and the bits read. -/
def decodeLossyFrom : Option (Nat × UInt8 × UInt8 × Nat) → List UInt8 → List Char
  | none, [] => []
  | some _, [] => [replacement]
  | some (count, low, high, bits), byte :: rest =>
      if low ≤ byte ∧ byte ≤ high then
        let bits := bits * 64 + byte.toNat % 64
        if count = 1 then Char.ofNat bits :: decodeLossyFrom none rest
        else decodeLossyFrom (some (count - 1, 0x80, 0xBF, bits)) rest
      else replacement :: begin byte rest
  | none, byte :: rest => begin byte rest
where
  /-- Begin a character. -/
  begin (lead : UInt8) (rest : List UInt8) : List Char :=
    match followers lead with
    | none => replacement :: decodeLossyFrom none rest
    | some (0, _, _) => Char.ofNat lead.toNat :: decodeLossyFrom none rest
    | some (count, low, high) =>
        decodeLossyFrom (some (count, low, high, leadBits lead count)) rest

/-- Bytes as text, with replacement characters where they are none. -/
def decodeLossy (bytes : List UInt8) : String :=
  String.ofList (decodeLossyFrom none bytes)

end RecordLog.Text

namespace RecordLog

/-- A file name as text. -/
def FileName.display : FileName → String
  | text name => name
  | binary bytes => Text.decodeLossy bytes

end RecordLog
