import RecordLog.Segment
import RecordLog.Text.Quoted

/-!
# Segments in words

A one-line summary of a segment for people who look into a running program. It
shows what the segment remembers of itself, so that a segment closed in good
order still counts as valid.
-/

namespace RecordLog.Segment

/-- A truth value in words. -/
def truthText (value : Bool) : String :=
  if value then "true" else "false"

/-- The summary of a segment. -/
def summary (segment : Segment) : String :=
  "Segment \x7b id: SegmentId(" ++ segment.id.text ++ "), path: " ++
    Text.quote segment.path.text ++ ", size: " ++ toString segment.size ++ ", closed: " ++
    truthText segment.closed ++ ", valid: " ++ truthText (!segment.poisoned) ++ " \x7d"

end RecordLog.Segment
