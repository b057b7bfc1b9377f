import RecordLog.Proofs.Damage
import RecordLog.Proofs.Session
import RecordLog.Proofs.Spacing

/-!
# Reading a file that was cut

A reader says that bytes are missing where the size of the segment ends before a
header or a frame does, and it says so before it looks at anything that more
bytes could change. Any other answer it gives for a beginning of a file, a record
or damage, it gives for the whole file. Of a record whose last chunk does not
end within the beginning it says that bytes are missing.
-/

namespace RecordLog

/-- An answer says that bytes are missing at the end of the file. -/
def Incomplete {α : Type} (answer : Except Failure α) : Prop :=
  ∃ offset expected available, answer = .error (.truncated offset expected available)

theorem not_incomplete_ok {α : Type} (value : α) : ¬ Incomplete (.ok value : Except Failure α) := by
  rintro ⟨_, _, _, failed⟩
  cases failed

namespace Image

variable {image grown : Image}

/-! ## Answers that stand -/

namespace Grows

/-- A run of bytes within the shorter file is in the longer one. -/
theorem slice?_eq (grows : Grows image grown) {offset length : Nat}
    (within : offset + length ≤ image.size) :
    image.slice? offset length = grown.slice? offset length := by
  obtain ⟨more, split_eq⟩ := grows.begins
  have inStored : length ≤ (image.stored.drop offset).length := by
    rw [List.length_drop, length_stored grows.whole]
    omega
  rw [slice?_eq_take_drop grows.whole within,
    slice?_eq_take_drop grows.grownWhole (Nat.le_trans within grows.size_le), ← split_eq,
    List.drop_append_of_le_length (by rw [length_stored grows.whole]; omega),
    List.take_append_of_le_length inStored]

/-- What is found at an offset of the shorter file is found in the longer one,
unless bytes are missing. -/
theorem chunkAt_eq_or_incomplete (grows : Grows image grown) (offset : Nat) :
    image.chunkAt offset = grown.chunkAt offset ∨ Incomplete (image.chunkAt offset) := by
  have size_le := grows.size_le
  by_cases short : image.size < offset + headerSize
  · exact .inr ⟨_, _, _, if_pos short⟩
  unfold chunkAt
  rw [if_neg short, if_neg (by omega), grows.slice?_eq (Nat.not_lt.mp short), grows.layout_eq]
  cases found : grown.slice? offset headerSize with
  | none => exact absurd found (grown.slice?_ne_none grows.grownWhole (by omega))
  | some header =>
      simp only
      by_cases crosses :
          image.layout.remaining offset < headerSize + Chunk.declaredLength header
      · rw [if_pos crosses, if_pos crosses]
        exact .inl rfl
      rw [if_neg crosses, if_neg crosses]
      by_cases torn : image.size < offset + (headerSize + Chunk.declaredLength header)
      · exact .inr ⟨_, _, _, if_pos torn⟩
      · rw [if_neg torn, if_neg (by omega), grows.slice?_eq (Nat.not_lt.mp torn)]
        cases frame : grown.slice? offset (headerSize + Chunk.declaredLength header) with
        | none => exact absurd frame (grown.slice?_ne_none grows.grownWhole (by omega))
        | some stored => exact .inl rfl

/-- Collecting chunks of the shorter file answers as for the longer one, unless
bytes are missing: they are missing for the record if they are for a chunk. -/
theorem readChunks_eq_or_incomplete (grows : Grows image grown) (isFirst : Bool) (offset : Nat) :
    image.readChunks isFirst offset = grown.readChunks isFirst offset ∨
      Incomplete (image.readChunks isFirst offset) := by
  have aligned (offset : Nat) : grown.layout.align offset = image.layout.align offset := by
    rw [grows.layout_eq]
  fun_induction readChunks image isFirst offset with
  | case1 isFirst offset start cause missing =>
      rcases grows.chunkAt_eq_or_incomplete start with same | incomplete
      · left
        rw [missing] at same
        exact (readChunks_of_error (by rw [aligned, ← same])).symm
      · right
        obtain ⟨_, _, _, failed⟩ := incomplete
        rw [missing] at failed
        cases failed
        exact ⟨_, _, _, rfl⟩
  | case2 isFirst offset start chunk found notFirst =>
      left
      rw [readChunks_of_chunkAt (aligned offset) (grows.chunkAt_iff.mp found).1, if_pos notFirst]
  | case3 isFirst offset start chunk found first notLater =>
      left
      rw [readChunks_of_chunkAt (aligned offset) (grows.chunkAt_iff.mp found).1, if_neg first,
        if_pos notLater]
  | case4 isFirst offset start chunk found first later ends =>
      left
      rw [readChunks_of_chunkAt (aligned offset) (grows.chunkAt_iff.mp found).1, if_neg first,
        if_neg later, if_pos ends]
  | case5 isFirst offset start chunk found first later continues cause failed ih =>
      rw [failed] at ih
      rw [readChunks_of_chunkAt (aligned offset) (grows.chunkAt_iff.mp found).1, if_neg first,
        if_neg later, if_neg continues]
      rcases ih with same | ⟨_, _, _, incomplete⟩
      · left
        rw [← same]
      · right
        cases incomplete
        exact ⟨_, _, _, rfl⟩
  | case6 isFirst offset start chunk found first later continues rest stop done ih =>
      rw [done] at ih
      left
      rw [readChunks_of_chunkAt (aligned offset) (grows.chunkAt_iff.mp found).1, if_neg first,
        if_neg later, if_neg continues]
      rcases ih with same | incomplete
      · rw [← same]
      · exact absurd incomplete (not_incomplete_ok _)

/-- The shorter file answers as the longer one does, unless bytes are missing. -/
theorem read_eq_or_incomplete (grows : Grows image grown) (offset : Nat) :
    image.read offset = grown.read offset ∨ Incomplete (image.read offset) := by
  have size_le := grows.size_le
  rw [read, read, grows.isOpen_eq]
  by_cases closed : (!image.isOpen) = true
  · rw [if_pos closed, if_pos closed]
    exact .inl rfl
  rw [if_neg closed, if_neg closed]
  by_cases behind : image.size ≤ offset
  · rw [if_pos behind]
    exact .inr ⟨_, _, _, rfl⟩
  · rw [if_neg behind, if_neg (by omega)]
    exact grows.readChunks_eq_or_incomplete true offset

/-- Bytes are missing for a record that ends behind the shorter file. -/
theorem incomplete_of_read (grows : Grows image grown) {offset stop : Nat} {payload : List UInt8}
    (done : grown.read offset = .ok (payload, stop)) (cut : image.size < stop) :
    Incomplete (image.read offset) := by
  rcases grows.read_eq_or_incomplete offset with same | incomplete
  · rw [done, grows.read_iff] at same
    exact absurd same.2 (Nat.not_le.mpr cut)
  · exact incomplete

end Grows

/-- Payloads that can be read are read up to where their records stop. -/
theorem Carries.read_eq {offset : Nat} {payloads : List (List UInt8)}
    (carries : image.Carries offset payloads) {record : Record}
    (member : record ∈ image.layout.writtenRecords offset payloads) :
    image.read record.offset = .ok (record.payload, record.stop image.layout) := by
  induction payloads generalizing offset with
  | nil => cases member
  | cons payload rest ih =>
      obtain ⟨done, onward⟩ := carries_cons_iff.mp carries
      rcases List.mem_cons.mp member with rfl | later
      · rw [← image.layout.recordStop_align] at done
        exact done
      · exact ih onward later

end Image

/-! ## Segments on cut files -/

/-- Open the file at a path after its length was set. -/
def Segment.openCut (path : Path) (id : SegmentId) (layout : Layout) (length : Nat)
    (storage : Storage) : Except Failure Segment × Storage :=
  match storage.resizeFile path length with
  | (.error cause, storage) => (.error (.storage cause), storage)
  | (.ok (), storage) => openExisting path id layout storage

variable {path : Path} {layout : Layout} {storage : Storage}

/-- A segment on a file that was cut sees the beginning that is left. -/
theorem Segment.openCut_eq (duplicates : storage.Duplicates) (id : SegmentId) (layout : Layout)
    {node length : Nat}
    (found : storage.findFile path = .ok node) (inRange : node < storage.nodes.size)
    (within : length ≤ (storage.nodeBytes node).size) :
    ∃ cut after, openCut path id layout length storage = (.ok cut, after) ∧
      cut.image after = .ofBytes layout ((storage.nodeBytes node).toList.take length) := by
  obtain ⟨middle, resized, rewrites, refusals_eq⟩ :
      ∃ middle, storage.resizeFile path length = (.ok (), middle) ∧
        storage.Rewrites middle node ((storage.nodeBytes node).resize length) ∧
          middle.toRefusals = storage.toRefusals :=
    storage.changeFile_eq found inRange rfl
  rw [← refusals_eq] at duplicates
  have foundAgain : middle.findFile path = .ok node := by
    rw [Storage.findFile_congr rewrites.entries_eq, found]
  obtain ⟨cut, after, opened, keeps, _, opens⟩ :=
    Segment.exists_openExisting duplicates id layout foundAgain []
  refine ⟨cut, after, ?_, ?_⟩
  · rw [openCut, resized]
    exact opened
  · rw [opens.toServes.image_eq_ofBytes opens.size_eq, keeps.bytes_eq, rewrites.bytes_eq,
      Content.toList_resize within]

theorem Segment.incomplete_read {segment : Segment} {offset : Nat}
    (incomplete : Incomplete ((segment.image storage).read offset)) :
    Incomplete (segment.read storage offset) := by
  obtain ⟨place, expected, available, failed⟩ := incomplete
  exact ⟨place, expected, available, by rw [Segment.read, failed]⟩

/-- A segment on a beginning of a file answers as one on the file does, unless
bytes are missing. -/
theorem Segment.read_eq_or_incomplete {segment cut : Segment} {after : Storage}
    (grows : Image.Grows (cut.image after) (segment.image storage)) (offset : Nat) :
    cut.read after offset = segment.read storage offset ∨ Incomplete (cut.read after offset) := by
  rcases grows.read_eq_or_incomplete offset with same | incomplete
  · left
    rw [Segment.read, Segment.read, same]
  · exact .inr (Segment.incomplete_read incomplete)

namespace Session

variable {file : LogFile} {content remains : List UInt8} {payloads : List (List UInt8)}
  {session : Session}

/-- All that was appended stands in the file up to where its records stop. -/
theorem Follows.read_ofBytes (follows : session.Follows layout path file content payloads remains)
    {record : Record} (member : record ∈ session.appended) :
    (Image.ofBytes layout (session.storage.nodeBytes file.node).toList).read record.offset =
      .ok (record.payload, record.stop layout) := by
  have stored_eq :
      (Image.ofBytes layout (session.storage.nodeBytes file.node).toList).stored =
        content ++ (layout.writtenBytes content.length payloads ++ remains) := by
    rw [Image.stored_ofBytes, follows.bytes_eq]
  have carries := Image.carries_written (Image.whole_ofBytes _ _) rfl stored_eq
  rw [follows.appended_eq] at member
  exact carries.read_eq member

/-- Bytes are missing for a record of a session whose file is cut before the
record stops. -/
theorem Follows.incomplete_of_cut
    (follows : session.Follows layout path file content payloads remains)
    (duplicates : session.storage.Duplicates) (id : SegmentId) {record : Record}
    (member : record ∈ session.appended) {length : Nat} (short : length < record.stop layout) :
    ∃ cut after, Segment.openCut path id layout length session.storage = (.ok cut, after) ∧
      Incomplete (cut.read after record.offset) := by
  have done := follows.read_ofBytes member
  have stop_le := Image.stop_le_size_of_read (Image.whole_ofBytes _ _) done
  rw [Image.size_ofBytes, Array.length_toList] at stop_le
  obtain ⟨cut, after, opened, image_eq⟩ := Segment.openCut_eq duplicates id layout follows.found
    follows.inRange (Nat.le_trans (Nat.le_of_lt short) stop_le)
  have grows : Image.Grows (cut.image after)
      (.ofBytes layout (session.storage.nodeBytes file.node).toList) := by
    rw [image_eq]
    exact .ofBytes (List.take_prefix _ _)
  have behind : (cut.image after).size < record.stop layout := by
    rw [image_eq, Image.size_ofBytes, List.length_take]
    omega
  exact ⟨cut, after, opened, Segment.incomplete_read (grows.incomplete_of_read done behind)⟩

end Session

/-- Of a file that was cut anywhere, a segment answers what it answers of the
whole file, or that bytes are missing. Whatever is done with the segment, bytes
are missing for each of its records once the file is cut before the record
stops. -/
theorem Segment.read_cut {path : Path} (id : SegmentId) (layout : Layout) {storage : Storage}
    (duplicates : storage.Duplicates) {content : Content} (held : storage.Holds path content) :
    ∃ segment after, openExisting path id layout storage = (.ok segment, after) ∧
      (∀ length ≤ content.size, ∃ cut afterCut,
        openCut path id layout length storage = (.ok cut, afterCut) ∧
          ∀ offset, cut.read afterCut offset = segment.read after offset ∨
            Incomplete (cut.read afterCut offset)) ∧
      ∀ uses, ∀ record ∈ ((Session.start segment after).run uses).appended,
        ∀ length < record.stop layout, ∃ cut afterCut,
          openCut path id layout length ((Session.start segment after).run uses).storage =
              (.ok cut, afterCut) ∧
            Incomplete (cut.read afterCut record.offset) := by
  obtain ⟨node, found, bytes_eq⟩ := held
  obtain ⟨file, inNodes, file_eq⟩ := Option.map_eq_some_iff.mp bytes_eq
  obtain ⟨inRange, _⟩ := Array.getElem?_eq_some_iff.mp inNodes
  have content_eq : storage.nodeBytes node = content := by
    rw [Storage.nodeBytes, bytes_eq, Option.getD_some]
  obtain ⟨segment, after, opened, keeps, refusals_eq, opens⟩ :=
    Segment.exists_openExisting duplicates id layout found []
  refine ⟨segment, after, opened, ?_, ?_⟩
  · intro length within
    obtain ⟨cut, afterCut, openedCut, image_eq⟩ :=
      Segment.openCut_eq duplicates id layout found inRange (content_eq ▸ within)
    refine ⟨cut, afterCut, openedCut, Segment.read_eq_or_incomplete ?_⟩
    rw [image_eq, opens.toServes.image_eq_ofBytes opens.size_eq, keeps.bytes_eq]
    exact .ofBytes (List.take_prefix _ _)
  · intro uses record member length short
    obtain ⟨_, _, follows⟩ := (Session.follows_start found inRange keeps opens).run uses
    refine follows.incomplete_of_cut ?_ id member short
    rw [Session.toRefusals_run, Session.start, refusals_eq]
    exact duplicates

/-- A record of two chunks, appended behind bytes that are no records, in a file
that is cut within its second chunk. -/
theorem Segment.read_cut_of_padded :
    Session.paddedStorage.Holds ⟨"1.seg"⟩ (Array.replicate 27 0xff) ∧
      ∃ segment after,
        openExisting ⟨"1.seg"⟩ .first smallLayout Session.paddedStorage = (.ok segment, after) ∧
          ⟨42, List.replicate 40 4⟩ ∈
              ((Session.start segment after).run Session.mixedUses).appended ∧
            80 < Record.stop ⟨42, List.replicate 40 4⟩ smallLayout ∧
              ∃ cut afterCut,
                openCut ⟨"1.seg"⟩ .first smallLayout 80
                    ((Session.start segment after).run Session.mixedUses).storage =
                      (.ok cut, afterCut) ∧
                  Incomplete (cut.read afterCut 42) := by
  have held : Session.paddedStorage.Holds ⟨"1.seg"⟩ (Array.replicate 27 0xff) :=
    ⟨0, by decide +kernel, by decide +kernel⟩
  have short : 80 < Record.stop ⟨42, List.replicate 40 4⟩ smallLayout := by
    rw [Record.stop, smallLayout.recordStop_eq]
    decide
  obtain ⟨segment, after, opened, -, missing⟩ :=
    read_cut .first smallLayout Session.duplicates_paddedStorage held
  have appended :
      ((openExisting ⟨"1.seg"⟩ .first smallLayout Session.paddedStorage).1.map fun segment =>
        ((Session.start segment
          (openExisting ⟨"1.seg"⟩ .first smallLayout Session.paddedStorage).2).run
            Session.mixedUses).appended) = .ok [⟨32, [1, 2, 3]⟩, ⟨42, List.replicate 40 4⟩] := by
    decide +kernel
  rw [opened, Except.map, Except.ok.injEq] at appended
  have member : ⟨42, List.replicate 40 4⟩ ∈
      ((Session.start segment after).run Session.mixedUses).appended := by
    rw [appended]
    exact .tail _ (.head _)
  exact ⟨held, segment, after, opened, member, short, missing _ _ member _ short⟩

end RecordLog
