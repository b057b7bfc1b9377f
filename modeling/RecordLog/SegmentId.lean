/-!
# Segment ids and file names

Segments are numbered; the file of segment `n` is called `n` in decimal
followed by the configured extension. A name is read back by removing the
extension and taking the rest as a decimal number of 64 bits: leading zeros
are allowed, signs, blanks and foreign digits are not.
-/

namespace RecordLog

/-- The number of a segment. -/
structure SegmentId where
  number : Nat
  deriving DecidableEq, Repr

namespace SegmentId

/-- Ids are numbers of 64 bits. -/
def bound : Nat := 0x10000000000000000

/-- The id of the first segment of a log. -/
def first : SegmentId := ⟨1⟩

/-- The id of the segment that follows. The greatest id of 64 bits has none: what
holds of a log as long as its ids have not run out is stated with `bound`. -/
def next (id : SegmentId) : SegmentId := ⟨id.number + 1⟩

/-- The decimal digits of an id. -/
def text (id : SegmentId) : String := toString id.number

/-- The file name of a segment. -/
def fileName (id : SegmentId) (extension : String) : String :=
  id.text ++ extension

/-- The characters of a name before an extension, if the name ends with it. -/
def stem? (name extension : List Char) : Option (List Char) :=
  if extension.isSuffixOf name then
    some (name.take (name.length - extension.length))
  else
    none

/-- The value of a string of decimal digits. -/
def decimalValue (digits : List Char) : Nat :=
  digits.foldl (fun value digit => 10 * value + (digit.toNat - '0'.toNat)) 0

/-- The id that a file name denotes under an extension. -/
def parse (name extension : String) : Option SegmentId :=
  match stem? name.toList extension.toList with
  | none => none
  | some digits =>
      if digits = [] ∨ ¬ digits.all Char.isDigit then none
      else if decimalValue digits < bound then some ⟨decimalValue digits⟩
      else none

/-- Ids in ascending order; equal ids are kept. -/
def sort (ids : List SegmentId) : List SegmentId :=
  ids.mergeSort fun left right => left.number ≤ right.number

end SegmentId

end RecordLog
