/-!
# Columns

Fields of a report that are filled up on the left: numbers with blanks,
checksums with zeros.
-/

namespace RecordLog.Text

/-- Fill a text up to a width with a character on its left. -/
def fillLeft (fill : Char) (width : Nat) (text : String) : String :=
  String.ofList (List.replicate (width - text.length) fill) ++ text

/-- A number right-aligned in a column. -/
def numberColumn (width n : Nat) : String :=
  fillLeft ' ' width (toString n)

/-- A number of 32 bits in hexadecimal, with all its digits. -/
def hexWord (word : UInt32) : String :=
  "0x" ++ fillLeft '0' 8 (String.ofList (Nat.toDigits 16 word.toNat))

end RecordLog.Text
