import RecordLog.Segment

/-!
# Tables of segments

The segments of a log by their ids. A table is kept in the order of the ids,
whatever the order in which segments are put into it; the last segment is the one
with the greatest id.
-/

namespace RecordLog

/-- Segments by their ids, in ascending order. -/
abbrev Table := List (SegmentId × Segment)

namespace Table

/-- Put a segment under an id. What stood under it gives way. -/
def put : Table → SegmentId → Segment → Table
  | [], id, segment => [(id, segment)]
  | (first, kept) :: rest, id, segment =>
      if id.number < first.number then (id, segment) :: (first, kept) :: rest
      else if id = first then (id, segment) :: rest
      else (first, kept) :: put rest id segment

/-- The table of segments that were opened under some ids. -/
def ofOpened (ids : List SegmentId) (segments : List Segment) : Table :=
  (ids.zip segments).foldl (fun table (id, segment) => table.put id segment) []

/-- Close all segments in order. Answers the first id whose sync failed, if
any. -/
def closeAll : Table → Storage → Option SegmentId × Table × Storage
  | [], storage => (none, [], storage)
  | (id, segment) :: rest, storage =>
      let (synced, segment, storage) := segment.close storage
      let (failed, rest, storage) := closeAll rest storage
      (if synced then failed else some id, (id, segment) :: rest, storage)

end Table

end RecordLog
