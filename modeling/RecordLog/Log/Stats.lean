/-!
# Write statistics

Counters over the writes and syncs of a log since it was opened, and over the
window of writes since the last successful sync.
-/

namespace RecordLog

/-- The counters of a log. -/
structure Stats where
  /-- Payload bytes accepted since the log was opened. -/
  totalBytes : Nat
  /-- Writes accepted since the log was opened. -/
  totalWrites : Nat
  /-- Payload bytes accepted since the last successful sync. -/
  windowBytes : Nat
  /-- Writes accepted since the last successful sync. -/
  windowWrites : Nat
  /-- Successful syncs since the log was opened. -/
  syncs : Nat
  deriving DecidableEq, Repr

namespace Stats

/-- The counters of a fresh log. -/
def zero : Stats := ⟨0, 0, 0, 0, 0⟩

/-- Count an accepted write. -/
def recordWrite (stats : Stats) (length : Nat) : Stats :=
  { stats with
    totalBytes := stats.totalBytes + length
    totalWrites := stats.totalWrites + 1
    windowBytes := stats.windowBytes + length
    windowWrites := stats.windowWrites + 1 }

/-- Count a successful sync, which begins a new window. -/
def recordSync (stats : Stats) : Stats :=
  { stats with
    windowBytes := 0
    windowWrites := 0
    syncs := stats.syncs + 1 }

end Stats

end RecordLog
