import RecordLog.Config
import RecordLog.Segment

/-!
# Discovering and opening segments

The segments of a log are the regular files in its directory whose name is a
decimal id followed by the extension. Everything else there is passed over.
Discovery answers the ids in ascending order, one for each such name, so an
id comes twice when two names denote it. A segment is then opened under the
one name that its id has.
-/

namespace RecordLog

/-- The id that an entry of the log directory denotes, if it is a segment. -/
def Config.segmentId? (config : Config) : FileName × Entry → Option SegmentId
  | (.text name, .regular _) => SegmentId.parse name config.fileExtension
  | _ => none

/-- The ids of the segments in the log directory, in ascending order. -/
def Config.discover (config : Config) (storage : Storage) : Except Failure (List SegmentId) :=
  match storage.readDirectory ⟨config.directory⟩ with
  | .error cause => .error (.storage cause)
  | .ok names => .ok (SegmentId.sort (names.filterMap config.segmentId?))

namespace Segment

/-- Open the segments of some ids, all or none. -/
def openAll (config : Config) (layout : Layout) :
    List SegmentId → Storage → Except Failure (List Segment) × Storage
  | [], storage => (.ok [], storage)
  | id :: rest, storage =>
      match openExisting (config.segmentPath id) id layout storage with
      | (.error cause, storage) => (.error cause, storage)
      | (.ok segment, storage) =>
          match openAll config layout rest storage with
          | (.error cause, storage) => (.error cause, (segment.close storage).2.2)
          | (.ok segments, storage) => (.ok (segment :: segments), storage)

end Segment

end RecordLog
