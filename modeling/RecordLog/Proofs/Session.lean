import Mathlib.Order.Bounds.Defs
import RecordLog.Proofs.Appending
import RecordLog.Proofs.Keeping

/-!
# Sessions with one segment

A segment is opened on a file with any bytes whatever, in the padding of a block
or elsewhere. From then on records are appended and read in any order. What a
session has done is written down by its payloads: the file holds what it held
before, then the frames of the payloads, and after an append that failed the
beginning of one more. Every record is therefore read back at any later moment,
and every append goes on where the one before it ended.
-/

namespace RecordLog

/-- A path leads to a file with the given bytes. -/
def Storage.Holds (storage : Storage) (path : Path) (content : Content) : Prop :=
  ∃ node, storage.findFile path = .ok node ∧
    storage.nodes[node]?.map FileNode.bytes = some content

/-- Something done with an open segment. -/
inductive Segment.Use where
  | append (payload : List UInt8)
  | read (offset : Nat)

/-- A segment in use, its storage, and the records appended to it by the offsets
that the appends answered. -/
structure Session where
  segment : Segment
  storage : Storage
  appended : List Record

namespace Session

/-- The session that begins with a segment. -/
def start (segment : Segment) (storage : Storage) : Session := ⟨segment, storage, []⟩

/-- Append a payload. -/
def append (payload : List UInt8) (session : Session) : Session :=
  match session.segment.append payload session.storage with
  | (.ok anchor, segment, storage) =>
      { segment, storage, appended := session.appended ++ [⟨anchor, payload⟩] }
  | (.error _, segment, storage) => { session with segment, storage }

/-- Use the segment once. Reading changes nothing. -/
def step (session : Session) : Segment.Use → Session
  | .append payload => session.append payload
  | .read _ => session

/-- Use the segment several times. -/
def run (session : Session) (uses : List Segment.Use) : Session :=
  uses.foldl step session

/-- What an append that succeeds does. It answers the first offset from the end
of the file on that is not padding, puts some bytes behind those of the file,
and the size grows by their number. -/
structure Appends (path : Path) (before : Session) (anchor : Nat) (after : Session) : Prop where
  anchor : IsLeast
    {offset | before.segment.size ≤ offset ∧ before.segment.layout.inPadding offset = false} anchor
  bytes : ∃ old new written, before.storage.fileBytes path = .ok old ∧
    after.storage.fileBytes path = .ok new ∧ new.toList = old.toList ++ written ∧
      old.size = before.segment.size ∧
        after.segment.size = before.segment.size + written.length

/-- All records appended so far are read back, and one more can be appended,
unless the storage is limited. -/
structure RoundTrips (path : Path) (session : Session) : Prop where
  read_eq : ∀ record ∈ session.appended,
    session.segment.read session.storage record.offset = .ok record.payload
  appends : ∀ payload,
    (∃ anchor, (session.segment.append payload session.storage).1 = .ok anchor ∧
        session.Appends path anchor (session.append payload)) ∨
      session.storage.growthLimit ≠ none ∧
        ∃ cause, (session.segment.append payload session.storage).1 = .error cause

/-- A session has appended some payloads to a file, and left remains of one that
it could not append in whole. -/
structure Follows (layout : Layout) (path : Path) (file : LogFile) (content : List UInt8)
    (payloads : List (List UInt8)) (remains : List UInt8) (session : Session) : Prop where
  found : session.storage.findFile path = .ok file.node
  inRange : file.node < session.storage.nodes.size
  serves : Serves layout session.storage file session.segment
  bytes_eq : (session.storage.nodeBytes file.node).toList =
    content ++ (layout.writtenBytes content.length payloads ++ remains)
  size_eq : session.segment.size = layout.writtenStop content.length payloads
  appended_eq : session.appended = layout.writtenRecords content.length payloads
  complete : session.segment.poisoned = false → remains = []
  limited : session.segment.poisoned = true → session.storage.growthLimit ≠ none

variable {layout : Layout} {path : Path} {file : LogFile} {content remains : List UInt8}
  {payloads : List (List UInt8)} {session : Session}

/-- A session changes nothing about what the storage refuses. -/
theorem toRefusals_run (session : Session) (uses : List Segment.Use) :
    (session.run uses).storage.toRefusals = session.storage.toRefusals := by
  induction uses generalizing session with
  | nil => rfl
  | cons use rest ih =>
      refine (ih _).trans ?_
      cases use with
      | read offset => rfl
      | append payload =>
          have kept := session.segment.toRefusals_append payload session.storage
          rw [step, append]
          split <;>
            · rename_i appended
              rw [appended] at kept
              exact kept

namespace Follows

/-- The bytes from the start of the file to the size of the segment. -/
theorem take_size (follows : session.Follows layout path file content payloads remains) :
    (session.storage.nodeBytes file.node).toList.take session.segment.size =
      content ++ layout.writtenBytes content.length payloads := by
  have length_eq := layout.length_writtenBytes content.length payloads
  rw [follows.bytes_eq, follows.size_eq, ← List.append_assoc,
    List.take_left' (by rw [List.length_append, length_eq])]

theorem size_le (follows : session.Follows layout path file content payloads remains) :
    session.segment.size ≤ (session.storage.nodeBytes file.node).size := by
  have length_eq := congrArg List.length follows.bytes_eq
  have written := layout.length_writtenBytes content.length payloads
  have size_eq := follows.size_eq
  simp only [Array.length_toList, List.length_append] at length_eq
  omega

/-- What was appended is read back. -/
theorem read_eq (follows : session.Follows layout path file content payloads remains)
    {record : Record} (member : record ∈ session.appended) :
    session.segment.read session.storage record.offset = .ok record.payload := by
  have grows := follows.serves.grows follows.size_le
  rw [follows.take_size] at grows
  have stored_eq :
      (Image.ofBytes layout (content ++ layout.writtenBytes content.length payloads)).stored =
        content ++ (layout.writtenBytes content.length payloads ++ []) := by
    simp
  have holds := (Image.carries_written (Image.whole_ofBytes _ _) rfl stored_eq).holds
  rw [follows.appended_eq] at member
  obtain ⟨stop, done⟩ := grows.holds holds record member
  rw [Segment.read, done]

/-- An append to a segment that is not poisoned writes a frame or a beginning of
one. -/
theorem append (follows : session.Follows layout path file content payloads [])
    (unpoisoned : session.segment.poisoned = false) (payload : List UInt8) :
    ((session.segment.append payload session.storage).1 =
          .ok (layout.align session.segment.size) ∧
        (session.append payload).Follows layout path file content (payloads ++ [payload]) []) ∨
      session.storage.growthLimit ≠ none ∧
        (∃ cause, (session.segment.append payload session.storage).1 = .error cause) ∧
          ∃ part, (session.append payload).Follows layout path file content payloads part := by
  have length_eq := layout.length_writtenBytes content.length payloads
  have complete : (session.storage.nodeBytes file.node).size = session.segment.size := by
    rw [← Array.length_toList, follows.bytes_eq, follows.size_eq, List.append_nil,
      List.length_append, length_eq]
  have refusals_eq := session.segment.toRefusals_append payload session.storage
  obtain ⟨after, bytes, rewrites, outcome⟩ :=
    follows.serves.append_cases follows.inRange unpoisoned complete payload
  have serves := follows.serves.rewrites rewrites
  have found : after.findFile path = .ok file.node := by
    rw [Storage.findFile_congr rewrites.entries_eq, follows.found]
  have inRange : file.node < after.nodes.size := by
    rw [rewrites.size_eq]
    exact follows.inRange
  rcases outcome with ⟨bytes_eq, appended⟩ | ⟨part, cause, limited, bytes_eq, appended⟩
  · refine .inl ⟨by rw [appended], ?_⟩
    simp only [Session.append, appended]
    refine ⟨found, inRange, ⟨serves.id_eq, serves.layout_eq, serves.isOpen, serves.nodeOf?_eq⟩,
      ?_, ?_, ?_, fun _ => rfl, ?_⟩
    · rw [rewrites.bytes_eq, bytes_eq, follows.bytes_eq, follows.size_eq,
        layout.writtenBytes_append]
      simp
    · simp only [follows.size_eq, layout.writtenStop_append, Layout.writtenStop_cons,
        Layout.writtenStop_nil]
    · simp only [follows.appended_eq, follows.size_eq, layout.writtenRecords_append,
        Layout.writtenRecords_cons, Layout.writtenRecords_nil]
    · intro poisoned
      rw [unpoisoned] at poisoned
      cases poisoned
  · rw [appended] at refusals_eq
    refine .inr ⟨limited, ⟨cause, by rw [appended]⟩, part, ?_⟩
    simp only [Session.append, appended]
    refine ⟨found, inRange, ⟨serves.id_eq, serves.layout_eq, serves.isOpen, serves.nodeOf?_eq⟩,
      ?_, follows.size_eq, follows.appended_eq, ?_, ?_⟩
    · rw [rewrites.bytes_eq, bytes_eq, follows.bytes_eq]
      simp
    · intro unpoisoned
      cases unpoisoned
    · intro _
      rw [refusals_eq]
      exact limited

/-- A poisoned segment refuses to append. -/
theorem append_of_poisoned (follows : session.Follows layout path file content payloads remains)
    (poisoned : session.segment.poisoned = true) (payload : List UInt8) :
    (∃ cause, (session.segment.append payload session.storage).1 = .error cause) ∧
      session.append payload = session := by
  have refused : session.segment.append payload session.storage =
      (.error (.invalid (.poisoned session.segment.id)), session.segment, session.storage) := by
    simp only [Segment.append, Segment.usageFault, follows.serves.isOpen, poisoned,
      Bool.false_eq_true, if_false, if_true]
  refine ⟨⟨_, by rw [refused]⟩, ?_⟩
  rw [Session.append, refused]

/-- One use goes on with the session. -/
theorem step (follows : session.Follows layout path file content payloads remains)
    (use : Segment.Use) :
    ∃ payloads remains,
      (session.step use).Follows layout path file content payloads remains := by
  cases use with
  | read offset => exact ⟨payloads, remains, follows⟩
  | append payload =>
      cases poisoned : session.segment.poisoned with
      | true =>
          rw [Session.step, (follows.append_of_poisoned poisoned payload).2]
          exact ⟨payloads, remains, follows⟩
      | false =>
          obtain rfl := follows.complete poisoned
          rcases follows.append poisoned payload with ⟨_, more⟩ | ⟨_, _, part, same⟩
          · exact ⟨_, _, more⟩
          · exact ⟨_, part, same⟩

theorem run (follows : session.Follows layout path file content payloads remains)
    (uses : List Segment.Use) :
    ∃ payloads remains, (session.run uses).Follows layout path file content payloads remains := by
  induction uses generalizing session payloads remains with
  | nil => exact ⟨payloads, remains, follows⟩
  | cons use rest ih =>
      obtain ⟨_, _, onward⟩ := follows.step use
      exact ih onward

/-- An append that succeeds extends the file. -/
theorem appends (follows : session.Follows layout path file content payloads [])
    {payload : List UInt8}
    (more : (session.append payload).Follows layout path file content (payloads ++ [payload]) []) :
    session.Appends path (layout.align session.segment.size) (session.append payload) := by
  have length_eq := layout.length_writtenBytes content.length payloads
  refine ⟨⟨⟨layout.le_align _, ?_⟩, ?_⟩, _, _, (layout.frame session.segment.size payload).bytes,
    by rw [Storage.fileBytes, follows.found], by rw [Storage.fileBytes, more.found], ?_, ?_, ?_⟩
  · rw [follows.serves.layout_eq, layout.inPadding_align]
  · rintro offset ⟨behind, outside⟩
    rw [follows.serves.layout_eq] at outside
    exact layout.align_le behind outside
  · rw [more.bytes_eq, follows.bytes_eq, follows.size_eq, layout.writtenBytes_append]
    simp
  · rw [← Array.length_toList, follows.bytes_eq, follows.size_eq, List.append_nil,
      List.length_append, length_eq]
  · rw [more.size_eq, follows.size_eq, layout.writtenStop_append, layout.length_frame_bytes]
    rfl

theorem roundTrips (follows : session.Follows layout path file content payloads remains) :
    session.RoundTrips path := by
  refine ⟨fun record member => follows.read_eq member, fun payload => ?_⟩
  cases poisoned : session.segment.poisoned with
  | true =>
      exact .inr ⟨follows.limited poisoned, (follows.append_of_poisoned poisoned payload).1⟩
  | false =>
      obtain rfl := follows.complete poisoned
      rcases follows.append poisoned payload with ⟨answered, more⟩ | ⟨limited, failed, _⟩
      · exact .inl ⟨_, answered, follows.appends more⟩
      · exact .inr ⟨limited, failed⟩

end Follows

/-- A session follows the file that its segment was opened on. -/
theorem follows_start {id : SegmentId} {node : Nat} {storage after : Storage} {segment : Segment}
    (found : storage.findFile path = .ok node) (inRange : node < storage.nodes.size)
    (keeps : storage.Keeps after) (opens : Opens layout after ⟨id, node, []⟩ segment) :
    (start segment after).Follows layout path ⟨id, node, []⟩ (storage.nodeBytes node).toList []
      [] where
  found := by rw [start, Storage.findFile_congr keeps.entries_eq, found]
  inRange := by
    rw [start, keeps.size_eq]
    exact inRange
  serves := opens.toServes
  bytes_eq := by
    rw [start, keeps.bytes_eq, Layout.writtenBytes_nil, List.append_nil, List.append_nil]
  size_eq := by
    rw [start, opens.size_eq, keeps.bytes_eq, Layout.writtenStop_nil, Array.length_toList]
  appended_eq := rfl
  complete _ := rfl
  limited poisoned := by
    rw [start, opens.poisoned_eq] at poisoned
    cases poisoned

/-- However a segment that was opened on a file is used, its records are read
back and further appends extend the file. -/
theorem roundTrips_run {id : SegmentId} {storage after : Storage} {content : Content}
    {segment : Segment} (held : storage.Holds path content)
    (opened : Segment.openExisting path id layout storage = (.ok segment, after))
    (uses : List Segment.Use) : ((start segment after).run uses).RoundTrips path := by
  obtain ⟨node, found, bytes_eq⟩ := held
  obtain ⟨file, inNodes, _⟩ := Option.map_eq_some_iff.mp bytes_eq
  obtain ⟨inRange, _⟩ := Array.getElem?_eq_some_iff.mp inNodes
  obtain ⟨between, keeps, _, ⟨_, failed, _⟩ | ⟨other, openedAgain, opens⟩⟩ :=
    Segment.openExisting_cases id layout found []
  · rw [opened] at failed
    cases failed
  rw [opened] at openedAgain
  cases openedAgain
  obtain ⟨_, _, onward⟩ := (follows_start found inRange keeps opens).run uses
  exact onward.roundTrips

/-- A file whose bytes are no records and end in the padding of their block. -/
def paddedStorage : Storage :=
  (Storage.empty.putFile ⟨"1.seg"⟩ (Array.replicate 27 0xff)).2

/-- Appends of a short payload and of one for several blocks, and reads of a
record and of none. -/
def mixedUses : List Segment.Use :=
  [.append [1, 2, 3], .read 32, .read 5, .append (List.replicate 40 4), .read 7]

theorem duplicates_paddedStorage : paddedStorage.Duplicates := by
  have refusals_eq : paddedStorage.toRefusals = .none := by rfl
  rw [refusals_eq]
  exact Refusals.recovers_none.duplicates

theorem roundTrips_of_padded :
    paddedStorage.Holds ⟨"1.seg"⟩ (Array.replicate 27 0xff) ∧
      ∃ segment after,
        Segment.openExisting ⟨"1.seg"⟩ .first Segment.smallLayout paddedStorage =
            (.ok segment, after) ∧
          ((start segment after).run mixedUses).appended =
              [⟨32, [1, 2, 3]⟩, ⟨42, List.replicate 40 4⟩] ∧
            ((start segment after).run mixedUses).RoundTrips ⟨"1.seg"⟩ := by
  have held : paddedStorage.Holds ⟨"1.seg"⟩ (Array.replicate 27 0xff) :=
    ⟨0, by decide +kernel, by decide +kernel⟩
  obtain ⟨segment, after, opened, _⟩ :=
    Segment.exists_openExisting duplicates_paddedStorage .first Segment.smallLayout
      held.choose_spec.1 []
  have appended :
      (match Segment.openExisting ⟨"1.seg"⟩ .first Segment.smallLayout paddedStorage with
        | (.ok segment, after) => ((start segment after).run mixedUses).appended
        | (.error _, _) => []) = [⟨32, [1, 2, 3]⟩, ⟨42, List.replicate 40 4⟩] := by
    decide +kernel
  rw [opened] at appended
  exact ⟨held, segment, after, opened, appended, roundTrips_run held opened mixedUses⟩

end Session

end RecordLog
