/-!
# File contents

The two ways in which the bytes of a file change: bytes are written at an
offset, and the length is set. A gap between the end of the file and the
offset of a write reads as zeros, and so does what a longer length adds.
Writing nothing changes nothing, wherever it is done.
-/

namespace RecordLog

/-- The bytes of a file. -/
abbrev Content := Array UInt8

namespace Content

/-- Write bytes at an offset. -/
def overwrite (content : Content) (offset : Nat) (data : List UInt8) : Content :=
  if data = [] then content
  else if content.size ≤ offset then
    content ++ Array.replicate (offset - content.size) 0 ++ data
  else
    content.extract 0 offset ++ data ++ content.extract (offset + data.length) content.size

/-- Set the length, by cutting or by adding zeros. -/
def resize (content : Content) (length : Nat) : Content :=
  if length ≤ content.size then content.extract 0 length
  else content ++ Array.replicate (length - content.size) 0

/-- Writing at the end of a file appends. -/
theorem toList_overwrite_size (content : Content) (data : List UInt8) :
    (content.overwrite content.size data).toList = content.toList ++ data := by
  unfold overwrite
  split
  · simp_all
  · simp

/-- Setting a length within the file keeps that many bytes. -/
theorem toList_resize {content : Content} {length : Nat} (h : length ≤ content.size) :
    (content.resize length).toList = content.toList.take length := by
  simp [resize, h]

end Content

end RecordLog
