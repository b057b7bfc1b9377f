/-!
# Chunk kinds

A record is one full chunk, or a first chunk, any number of middle chunks and
a last one. Each kind has a one-byte code; all other codes are unknown.
-/

namespace RecordLog

/-- The place of a chunk within its record. -/
inductive Kind where
  /-- The whole record. -/
  | full
  /-- The first piece of a record of several chunks. -/
  | first
  /-- A piece between the first and the last. -/
  | middle
  /-- The final piece of a record of several chunks. -/
  | last
  deriving DecidableEq, Repr

namespace Kind

/-- The byte a kind is stored as. -/
def code : Kind → UInt8
  | full => 0
  | first => 1
  | middle => 2
  | last => 3

/-- The kind a byte stands for, if any. -/
def ofCode? (byte : UInt8) : Option Kind :=
  if byte = 0 then some full
  else if byte = 1 then some first
  else if byte = 2 then some middle
  else if byte = 3 then some last
  else none

/-- Whether a chunk of this kind completes its record. -/
def endsRecord : Kind → Bool
  | full | last => true
  | first | middle => false

/-- Whether a record may begin with a chunk of this kind. -/
def startsRecord : Kind → Bool
  | full | first => true
  | middle | last => false

/-- The name of a kind in reports. -/
def name : Kind → String
  | full => "Full"
  | first => "First"
  | middle => "Middle"
  | last => "Last"

/-- A byte stands for a kind exactly when it is that kind's code. -/
theorem ofCode?_eq_some_iff {byte : UInt8} {kind : Kind} :
    ofCode? byte = some kind ↔ byte = kind.code := by
  unfold ofCode?
  split
  · subst_vars; cases kind <;> decide
  split
  · subst_vars; cases kind <;> decide
  split
  · subst_vars; cases kind <;> decide
  split
  · subst_vars; cases kind <;> decide
  · cases kind <;> simp_all [code]

@[simp]
theorem ofCode?_code (kind : Kind) : ofCode? kind.code = some kind :=
  ofCode?_eq_some_iff.mpr rfl

end Kind

end RecordLog
