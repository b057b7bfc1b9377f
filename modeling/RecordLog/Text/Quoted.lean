import RecordLog.Text.CharacterClass

/-!
# Quoted text

Text in double quotes for messages. The quote, the backslash and four controls
have short escapes; other characters without a visible form are written by
their code point in hexadecimal; all others stand for themselves.
-/

namespace RecordLog.Text

/-- The escape of a character by its code point. -/
def pointEscape (char : Char) : List Char :=
  ['\\', 'u', '\x7b'] ++ Nat.toDigits 16 char.toNat ++ ['\x7d']

/-- A character between quotes. -/
def escape (char : Char) : List Char :=
  if char = '"' then ['\\', '"']
  else if char = '\\' then ['\\', '\\']
  else if char = '\n' then ['\\', 'n']
  else if char = '\r' then ['\\', 'r']
  else if char = '\t' then ['\\', 't']
  else if char = '\x00' then ['\\', '0']
  else if isInvisible char then pointEscape char
  else [char]

/-- Text in quotes. -/
def quote (text : String) : String :=
  String.ofList ('"' :: text.toList.flatMap escape ++ ['"'])

end RecordLog.Text
