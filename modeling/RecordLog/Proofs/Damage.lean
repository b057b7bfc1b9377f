import RecordLog.Proofs.Appending
import RecordLog.Proofs.Tiling

/-!
# Records behind damage

The bytes of a file are altered in place, and the file is repaired. A survey
never stops inside a record that was left unaltered, unless a stray chunk leads
it there: one that decodes outside all such records and extends over the place
where one of them begins. So a repair keeps every unaltered record before the
place where it cuts the file, and it can cut off only those that the search for
readable records misses. It misses none in the block it starts from, and in a
later block none with unaltered bytes in front of it, since there chunks lie
side by side from the start of the block.
-/

namespace RecordLog

/-- The offset just past the last chunk of a record. -/
def Record.stop (record : Record) (layout : Layout) : Nat :=
  layout.recordStop record.offset record.payload

namespace Layout

variable (layout : Layout)

/-- Whether all chunks of a record have the same bytes in two files. -/
def isUnaltered (original altered : List UInt8) (record : Record) : Bool :=
  (layout.split record.offset record.payload).all fun placed =>
    (altered.drop placed.offset).take placed.chunk.size =
      (original.drop placed.offset).take placed.chunk.size

/-- Records that were written lie one behind the other. -/
theorem pairwise_writtenRecords (offset : Nat) (payloads : List (List UInt8)) :
    (layout.writtenRecords offset payloads).Pairwise fun first second =>
      first.stop layout ≤ second.offset := by
  induction payloads generalizing offset with
  | nil => exact .nil
  | cons payload rest ih =>
      refine .cons ?_ (ih _)
      intro second member
      have stop_eq := layout.recordStop_align offset payload
      simp only [Record.stop, frame_start]
      have := layout.recordStop_le_frame_stop offset payload
      have := layout.le_align (layout.frame offset payload).stop
      have := layout.align_le_of_mem_writtenRecords member
      omega

theorem lt_stop (record : Record) : record.offset < record.stop layout := by
  have := layout.le_align record.offset
  have := layout.align_lt_recordStop record.offset record.payload
  rw [Record.stop]
  omega

theorem stop_le_of_mem_writtenRecords {offset : Nat} {payloads : List (List UInt8)}
    {first second : Record} (memberFirst : first ∈ layout.writtenRecords offset payloads)
    (memberSecond : second ∈ layout.writtenRecords offset payloads)
    (before : first.offset < second.offset) : first.stop layout ≤ second.offset := by
  have ordered := List.pairwise_iff_getElem.mp (layout.pairwise_writtenRecords offset payloads)
  obtain ⟨low, inLow, rfl⟩ := List.getElem_of_mem memberFirst
  obtain ⟨high, inHigh, rfl⟩ := List.getElem_of_mem memberSecond
  rcases Nat.lt_trichotomy low high with less | rfl | greater
  · exact ordered low high inLow inHigh less
  · exact absurd before (Nat.lt_irrefl _)
  · have := ordered high low inHigh inLow greater
    have := layout.lt_stop ((layout.writtenRecords offset payloads)[high])
    omega

end Layout

namespace Image

variable {image other : Image}

/-! ## Images that agree -/

/-- Lists that agree at some indices next to each other have the same run of
elements there. -/
theorem take_drop_congr {first second : List UInt8} {offset length : Nat}
    (same : ∀ index, offset ≤ index → index < offset + length → first[index]? = second[index]?) :
    (first.drop offset).take length = (second.drop offset).take length := by
  apply List.ext_getElem?
  intro index
  rw [List.getElem?_take, List.getElem?_take]
  by_cases inside : index < length
  · rw [if_pos inside, if_pos inside, List.getElem?_drop, List.getElem?_drop]
    exact same _ (by omega) (by omega)
  · rw [if_neg inside, if_neg inside]

/-- A chunk is found in every image that has its bytes. -/
theorem chunkAt_congr (whole : image.Whole) (wholeOther : other.Whole)
    (layout_eq : other.layout = image.layout) {offset : Nat} {chunk : Chunk}
    (same : (other.stored.drop offset).take chunk.size = (image.stored.drop offset).take chunk.size)
    (found : image.chunkAt offset = .ok chunk) : other.chunkAt offset = .ok chunk := by
  obtain ⟨fits, stands⟩ := (chunkAt_eq_ok_iff whole).mp found
  refine (chunkAt_eq_ok_iff wholeOther).mpr ⟨by rwa [layout_eq], ?_⟩
  rw [List.prefix_iff_eq_take, Chunk.length_bytes] at stands ⊢
  rw [same]
  exact stands

/-- Chunks lie side by side in every image with the same bytes there. -/
theorem Tiled.congr (whole : image.Whole) (wholeOther : other.Whole)
    (layout_eq : other.layout = image.layout) {last offset : Nat}
    (tiled : image.Tiled last offset)
    (same : ∀ index, offset ≤ index → index < last → other.stored[index]? = image.stored[index]?) :
    other.Tiled last offset := by
  induction tiled with
  | here => exact .here
  | @chunk offset chunk outside found onward ih =>
      have within := onward.le
      refine .chunk (by rwa [layout_eq]) (chunkAt_congr whole wholeOther layout_eq ?_ found) ?_
      · exact take_drop_congr fun index reached before => same index reached (by omega)
      · exact ih fun index reached => same index (by omega)

/-! ## Records that stand -/

/-- Records that stand in an image with all their chunks, apart from one
another. -/
structure Bears (image : Image) (kept : List Record) : Prop where
  whole : image.Whole
  isOpen : image.isOpen = true
  outside : ∀ record ∈ kept, image.layout.inPadding record.offset = false
  found : ∀ record ∈ kept, ∀ placed ∈ image.layout.split record.offset record.payload,
    image.chunkAt placed.offset = .ok placed.chunk
  apart : ∀ first ∈ kept, ∀ second ∈ kept, first.offset < second.offset →
    first.stop image.layout ≤ second.offset

/-- An offset outside some records where a chunk stands that extends over the
beginning of one of them. -/
structure StrayChunk (image : Image) (kept : List Record) (offset : Nat) : Prop where
  inPadding_eq : image.layout.inPadding offset = false
  outside : ∀ record ∈ kept, offset < record.offset ∨ record.stop image.layout ≤ offset
  covers : ∃ chunk, image.chunkAt offset = .ok chunk ∧
    ∃ record ∈ kept, offset < record.offset ∧ record.offset < offset + chunk.size

/-- No record of some has a position inside it. -/
def Between (image : Image) (kept : List Record) (position : Nat) : Prop :=
  ∀ record ∈ kept, position ≤ record.offset ∨ record.stop image.layout ≤ position

/-- A record of some may have a position inside it where one of its chunks
begins. -/
def AtSeam (image : Image) (kept : List Record) (position : Nat) : Prop :=
  ∀ record ∈ kept, position ≤ record.offset ∨ record.stop image.layout ≤ position ∨
    ∃ placed ∈ image.layout.split record.offset record.payload, placed.offset = position

variable {kept : List Record}

/-- Where no chunk is stray, one outside the records stops before those behind
it begin. -/
theorem stop_le_of_chunkAt (clear : ∀ offset, ¬ image.StrayChunk kept offset) {start : Nat}
    {chunk : Chunk} (outside : image.layout.inPadding start = false)
    (found : image.chunkAt start = .ok chunk)
    (apart : ∀ record ∈ kept, start < record.offset ∨ record.stop image.layout ≤ start) :
    ∀ record ∈ kept, start < record.offset → start + chunk.size ≤ record.offset := by
  intro record member before
  apply Nat.le_of_not_lt
  intro covered
  exact clear start ⟨outside, apart, chunk, found, record, member, before, covered⟩

/-- A chunk between records where none of them begins stops between them, and
before those behind it begin. -/
theorem between_of_chunkAt (clear : ∀ offset, ¬ image.StrayChunk kept offset) {start : Nat}
    {chunk : Chunk} (outside : image.layout.inPadding start = false)
    (found : image.chunkAt start = .ok chunk) (between : image.Between kept start)
    (ne : ∀ record ∈ kept, start ≠ record.offset) :
    (∀ record ∈ kept, start ≤ record.offset → start + chunk.size ≤ record.offset) ∧
      image.Between kept (start + chunk.size) := by
  have apart : ∀ record ∈ kept, start < record.offset ∨ record.stop image.layout ≤ start := by
    intro record member
    rcases between record member with before | behind
    · exact .inl (Nat.lt_of_le_of_ne before (ne record member))
    · exact .inr behind
  have stops := stop_le_of_chunkAt clear outside found apart
  constructor
  · intro record member le
    exact stops record member (Nat.lt_of_le_of_ne le (ne record member))
  · intro record member
    rcases apart record member with before | behind
    · exact .inl (stops record member before)
    · exact .inr (Nat.le_trans behind (Nat.le_add_right _ _))

namespace Bears

theorem read (bears : image.Bears kept) {record : Record} (member : record ∈ kept) :
    image.read record.offset = .ok (record.payload, record.stop image.layout) := by
  have done := read_split bears.isOpen (bears.found record member)
  rwa [image.layout.align_of_not_inPadding (bears.outside record member)] at done

theorem readable (bears : image.Bears kept) {record : Record} (member : record ∈ kept) :
    image.Readable record.offset :=
  ⟨_, _, bears.read member⟩

theorem spans (bears : image.Bears kept) {record : Record} (member : record ∈ kept) :
    image.layout.Spans (record.stop image.layout) record.offset
      (image.layout.split record.offset record.payload) := by
  have spans := image.layout.spans_split record.offset record.payload
  rwa [image.layout.align_of_not_inPadding (bears.outside record member)] at spans

theorem between_align (bears : image.Bears kept) {position : Nat}
    (between : image.Between kept position) : image.Between kept (image.layout.align position) := by
  intro record member
  rcases between record member with before | behind
  · exact .inl (image.layout.align_le before (bears.outside record member))
  · exact .inr (Nat.le_trans behind (image.layout.le_align position))

/-- A chunk that continues a record does not stand where one begins. -/
theorem ne_of_continues (bears : image.Bears kept) {start : Nat} {chunk : Chunk}
    (found : image.chunkAt start = .ok chunk) (continues : chunk.kind.startsRecord = false) :
    ∀ record ∈ kept, start ≠ record.offset := by
  rintro record member rfl
  have starts := startsRecord_of_readable (bears.outside record member) found
    (bears.readable member)
  rw [continues] at starts
  cases starts

/-- A record that is collected between others stops before those behind it
begin. -/
theorem stop_le_of_collects (bears : image.Bears kept)
    (clear : ∀ offset, ¬ image.StrayChunk kept offset) {isFirst : Bool} {offset stop : Nat}
    {payload : List UInt8} (collects : image.Collects isFirst offset payload stop)
    (between : image.Between kept (image.layout.align offset))
    (fresh : isFirst = true → ∀ record ∈ kept, image.layout.align offset ≠ record.offset) :
    ∀ record ∈ kept, image.layout.align offset ≤ record.offset → stop ≤ record.offset := by
  have ne {isFirst : Bool} {offset : Nat} {chunk : Chunk}
      (found : image.chunkAt (image.layout.align offset) = .ok chunk)
      (starts : chunk.kind.startsRecord = isFirst)
      (fresh : isFirst = true → ∀ record ∈ kept, image.layout.align offset ≠ record.offset) :
      ∀ record ∈ kept, image.layout.align offset ≠ record.offset := by
    cases isFirst with
    | true => exact fresh rfl
    | false => exact bears.ne_of_continues found starts
  induction collects with
  | @last _ offset _ found starts _ =>
      have outside := image.layout.inPadding_align offset
      exact (between_of_chunkAt clear outside found between (ne found starts fresh)).1
  | @more _ offset _ _ _ found starts _ _ ih =>
      have outside := image.layout.inPadding_align offset
      obtain ⟨stops, after⟩ :=
        between_of_chunkAt clear outside found between (ne found starts fresh)
      intro record member le
      apply ih (bears.between_align after) (fun first => by cases first) record member
      exact image.layout.align_le (stops record member le) (bears.outside record member)

/-- A survey that passes a record comes out between records again. -/
theorem between_of_read (bears : image.Bears kept)
    (clear : ∀ offset, ¬ image.StrayChunk kept offset) {position stop : Nat}
    {payload : List UInt8} (between : image.Between kept position)
    (done : image.read (image.layout.align position) = .ok (payload, stop)) :
    image.Between kept (image.layout.align stop) := by
  have past := image.lt_stop_of_read done
  have forward := image.layout.le_align stop
  have aligned := bears.between_align between
  by_cases own : ∃ record ∈ kept, image.layout.align position = record.offset
  · obtain ⟨record, member, begins⟩ := own
    rw [begins, bears.read member] at done
    cases done
    intro other among
    rcases Nat.lt_trichotomy other.offset record.offset with less | same | greater
    · have := bears.apart other among record member less
      exact .inr (by omega)
    · have again := bears.read among
      rw [same, bears.read member] at again
      have stop_eq : record.stop image.layout = other.stop image.layout :=
        congrArg Prod.snd (Except.ok.inj again)
      exact .inr (by omega)
    · exact .inl (image.layout.align_le (bears.apart record member other among greater)
        (bears.outside other among))
  · have ne : ∀ record ∈ kept, image.layout.align position ≠ record.offset := by
      intro record member begins
      exact own ⟨record, member, begins⟩
    have stops := bears.stop_le_of_collects clear (collects_of_read done)
      (by rwa [image.layout.align_align]) (fun _ => by rwa [image.layout.align_align])
    rw [image.layout.align_align] at stops
    intro record member
    rcases aligned record member with before | behind
    · exact .inl (image.layout.align_le (stops record member before) (bears.outside record member))
    · exact .inr (by omega)

/-! ## Walks over chunks -/

theorem atSeam_of_boundary (bears : image.Bears kept) {boundary : Nat}
    (begins : image.layout.blockStart boundary = boundary) : image.AtSeam kept boundary := by
  intro record member
  by_cases before : boundary ≤ record.offset
  · exact .inl before
  by_cases behind : record.stop image.layout ≤ boundary
  · exact .inr (.inl behind)
  · exact .inr (.inr ((bears.spans member).exists_of_boundary begins (by omega) (by omega)))

/-- A walk that passes a chunk comes to a seam again. -/
theorem atSeam_of_chunkAt (bears : image.Bears kept)
    (clear : ∀ offset, ¬ image.StrayChunk kept offset) {position : Nat} {chunk : Chunk}
    (seam : image.AtSeam kept position) (outside : image.layout.inPadding position = false)
    (found : image.chunkAt position = .ok chunk) (unreadable : ¬ image.Readable position) :
    image.AtSeam kept (position + chunk.size) := by
  have ne : ∀ record ∈ kept, position ≠ record.offset := by
    rintro record member rfl
    exact unreadable (bears.readable member)
  have own {record : Record} (member : record ∈ kept) {placed : PlacedChunk}
      (among : placed ∈ image.layout.split record.offset record.payload)
      (begins : placed.offset = position) : position + chunk.size = placed.stop := by
    have again := bears.found record member placed among
    rw [begins, found] at again
    rw [Except.ok.inj again, PlacedChunk.stop, begins]
  intro record member
  rcases seam record member with before | behind | ⟨placed, among, begins⟩
  · left
    apply Nat.le_of_not_lt
    intro covered
    have := ne record member
    refine clear position ⟨outside, ?_, chunk, found, record, member, by omega, covered⟩
    intro other amongOther
    rcases seam other amongOther with beforeOther | behindOther | ⟨placed, among, begins⟩
    · exact .inl (Nat.lt_of_le_of_ne beforeOther (ne other amongOther))
    · exact .inr behindOther
    · -- the chunk of another record stops with that record at the latest
      have spans := bears.spans amongOther
      have stops := spans.stop_le among
      have starts := spans.start_le among
      have ends := own amongOther among begins
      have := bears.apart other amongOther record member (by omega)
      omega
  · exact .inr (.inl (Nat.le_trans behind (Nat.le_add_right _ _)))
  · rw [own member among begins]
    rcases (bears.spans member).adjacent among with ends | ⟨_, next, amongNext, beginsNext⟩
    · exact .inr (.inl (Nat.le_of_eq ends.symm))
    · exact .inr (.inr ⟨next, amongNext, beginsNext⟩)

/-- What a walk over chunks finds lies between records. -/
theorem between_of_walks (bears : image.Bears kept)
    (clear : ∀ offset, ¬ image.StrayChunk kept offset) {position found : Nat}
    (walks : image.Walks (some found) position) (seam : image.AtSeam kept position) :
    image.Between kept found := by
  induction walks with
  | ended _ nothing => cases nothing
  | @block position _ _ ih =>
      exact ih (bears.atSeam_of_boundary (image.layout.blockStart_nextBlock position))
  | chunk outside result unreadable _ ih =>
      exact ih (bears.atSeam_of_chunkAt clear seam outside result unreadable)
  | @record position outside readable same =>
      cases same
      intro record member
      rcases seam record member with before | behind | ⟨placed, among, begins⟩
      · exact .inl before
      · exact .inr behind
      · -- a chunk inside a record does not start one
        left
        apply Nat.le_of_not_lt
        intro past
        have aligned := image.layout.align_of_not_inPadding (bears.outside record member)
        have continues := Layout.startsRecord_of_mem_split among (by omega)
        have starts := startsRecord_of_readable (by rwa [begins])
          (bears.found record member placed among) (by rwa [begins])
        rw [continues] at starts
        cases starts

/-- What the search after damage finds lies between records. -/
theorem between_of_resync (bears : image.Bears kept)
    (clear : ∀ offset, ¬ image.StrayChunk kept offset) {position found : Nat}
    (between : image.Between kept position)
    (unreadable : ¬ image.Readable (image.layout.align position))
    (skipped : image.resync position = .ok (some found)) : image.Between kept found := by
  have past := image.lt_of_resync skipped
  intro record member
  by_cases before : found ≤ record.offset
  · exact .inl before
  rcases between record member with ahead | behind
  · have ne : position ≠ record.offset := by
      rintro rfl
      rw [image.layout.align_of_not_inPadding (bears.outside record member)] at unreadable
      exact unreadable (bears.readable member)
    -- the search by bytes would have found the record
    have beyond : image.layout.nextBlock position ≤ record.offset := by
      apply Nat.le_of_not_lt
      intro inBlock
      refine not_readable_of_resync bears.whole bears.isOpen skipped (by omega) inBlock
        (bears.outside record member) ?_ (bears.readable member)
      rintro _ ⟨⟩
      omega
    have walks := walks_of_resync bears.whole bears.isOpen skipped (by
      rintro _ ⟨⟩
      omega)
    have seam := bears.atSeam_of_boundary (image.layout.blockStart_nextBlock position)
    exact bears.between_of_walks clear walks seam record member
  · exact .inr (by omega)

/-- A survey ends between records. -/
theorem between_of_passes (bears : image.Bears kept)
    (clear : ∀ offset, ¬ image.StrayChunk kept offset) {position last : Nat}
    {regions : List Region} (way : Passes image position last regions)
    (between : image.Between kept position) : image.Between kept last := by
  induction way with
  | here => exact between
  | record done _ ih => exact ih (bears.between_of_read clear between done)
  | @gap position found _ _ _ _ inside unreadable skipped done _ ih =>
      have outside := (readable_of_resync bears.whole bears.isOpen skipped).2
      rw [← image.layout.align_of_not_inPadding outside] at done
      exact ih (bears.between_of_read clear
        (bears.between_of_resync clear between unreadable skipped) done)

end Bears

end Image

/-! ## Repairing altered files -/

/-- The records left unaltered stand in the altered file. -/
theorem Image.bears_unaltered (layout : Layout) (payloads : List (List UInt8))
    (altered : List UInt8) :
    (ofBytes layout altered).Bears ((layout.writtenRecords 0 payloads).filter
      (layout.isUnaltered (layout.writtenBytes 0 payloads) altered)) where
  whole := whole_ofBytes layout altered
  isOpen := rfl
  outside record member := by
    obtain ⟨front, back, _, begins⟩ :=
      layout.exists_of_mem_writtenRecords (List.mem_filter.mp member).1
    rw [layout_ofBytes, begins]
    exact layout.inPadding_align _
  found record member placed among := by
    obtain ⟨written, unaltered⟩ := List.mem_filter.mp member
    obtain ⟨front, back, split_eq, begins⟩ := layout.exists_of_mem_writtenRecords written
    rw [layout.align_of_not_inPadding
      (layout.inPadding_writtenStop layout.inPadding_zero front)] at begins
    have stored_eq : (ofBytes layout (layout.writtenBytes 0 payloads)).stored =
        layout.writtenBytes 0 (front ++ record.payload :: back) ++ [] := by
      rw [stored_ofBytes, split_eq, List.append_nil]
    have found := chunkAt_written (whole_ofBytes _ _) stored_eq
    rw [layout_ofBytes, ← begins] at found
    refine chunkAt_congr (whole_ofBytes layout (layout.writtenBytes 0 payloads))
      (whole_ofBytes layout altered) rfl ?_ (found placed among)
    rw [stored_ofBytes, stored_ofBytes]
    exact of_decide_eq_true (List.all_eq_true.mp unaltered placed among)
  apart first memberFirst second memberSecond before :=
    layout.stop_le_of_mem_writtenRecords (List.mem_filter.mp memberFirst).1
      (List.mem_filter.mp memberSecond).1 before

/-- A record that begins in a later block than some offset, behind bytes of its
own block that were altered. -/
structure Layout.Shadowed (layout : Layout) (original altered : List UInt8) (offset : Nat)
    (record : Record) : Prop where
  nextBlock_le : layout.nextBlock offset ≤ record.offset
  exists_altered : ∃ index, layout.blockStart record.offset ≤ index ∧ index < record.offset ∧
    altered[index]? ≠ original[index]?

/-- Of the records left unaltered, a survey can miss only those behind altered
bytes of their own block. -/
theorem Image.shadowed_of_ends {layout : Layout} {payloads : List (List UInt8)}
    {altered : List UInt8} {last : Nat} {ending : List Region}
    (outside : layout.inPadding last = false) (ends : Ends (ofBytes layout altered) last ending)
    {record : Record} (member : record ∈ (layout.writtenRecords 0 payloads).filter
      (layout.isUnaltered (layout.writtenBytes 0 payloads) altered))
    (behind : last ≤ record.offset) :
    last < altered.length ∧
      layout.Shadowed (layout.writtenBytes 0 payloads) altered last record := by
  have bears := bears_unaltered layout payloads altered
  have outsideRecord := bears.outside record member
  have readable := bears.readable member
  obtain ⟨inside, beyond, missed⟩ := missed_of_ends bears.whole bears.isOpen ends outside
    outsideRecord readable behind
  refine ⟨inside, beyond, ?_⟩
  by_contra unaltered
  obtain ⟨front, back, split_eq, begins⟩ :=
    layout.exists_of_mem_writtenRecords (List.mem_filter.mp member).1
  rw [layout.align_of_not_inPadding
    (layout.inPadding_writtenStop layout.inPadding_zero front)] at begins
  have stored_eq : (ofBytes layout (layout.writtenBytes 0 payloads)).stored =
      layout.writtenBytes 0 (front ++ record.payload :: back) ++ [] := by
    rw [stored_ofBytes, split_eq, List.append_nil]
  have tiled := tiled_written (whole_ofBytes _ _) stored_eq
  rw [layout_ofBytes, ← begins] at tiled
  have again := tiled.congr (whole_ofBytes layout (layout.writtenBytes 0 payloads))
    (whole_ofBytes layout altered) rfl (by
      intro index reached before
      rw [stored_ofBytes, stored_ofBytes]
      by_contra differs
      exact unaltered ⟨index, reached, before, differs⟩)
  exact again.findByChunk_ne_none bears.whole bears.isOpen outsideRecord readable
    (missed.findByChunk bears.whole bears.isOpen)

namespace Segment

/-- Records in front of the place where a repair cuts a file are read back. -/
private theorem read_of_between {layout : Layout} {bytes : List UInt8} {kept : List Record}
    {after : Storage} {file : LogFile} {segment : Segment} {last : Nat}
    (bears : (Image.ofBytes layout bytes).Bears kept)
    (between : (Image.ofBytes layout bytes).Between kept last)
    (fills : Fills layout after file segment (bytes.take last)) {record : Record}
    (member : record ∈ kept) :
    last ≤ record.offset ∨ segment.read after record.offset = .ok record.payload := by
  rcases between record member with cut | whole
  · exact .inl cut
  · right
    have done := bears.read member
    have inSize := Image.stop_le_size_of_read bears.whole done
    have grows : Image.Grows (.ofBytes layout (bytes.take last)) (.ofBytes layout bytes) :=
      .ofBytes (List.take_prefix _ _)
    have again := grows.read_iff.mpr ⟨done, by
      rw [Image.size_ofBytes] at inSize ⊢
      rw [List.length_take]
      exact Nat.le_min.mpr ⟨whole, inSize⟩⟩
    rw [Segment.read, fills.image_eq, again]

/-- The bytes of a filled segment are altered in any way, and it is repaired.
What the repair cuts off holds no unaltered record but those in later blocks,
behind altered bytes of their own block; and unless a stray chunk covers one,
all other unaltered records are read back. -/
theorem repair_altered {path : Path} {id : SegmentId} {layout : Layout}
    {payloads : List (List UInt8)} {storage written : Storage} (recovers : storage.Recovers)
    {anchors : List Nat} {size : Nat}
    (filled : Segment.fill path id layout payloads storage = (.ok (anchors, size), written))
    {original : Content} (bytes_eq : written.fileBytes path = .ok original) (altered : Content) :
    ∃ report segment after,
      Segment.repair path id layout (fun _ => .ok altered) written =
          (.ok (report, segment), after) ∧
        (∀ record ∈ (recordsAt anchors payloads).filter
            (layout.isUnaltered original.toList altered.toList),
          report.validLength ≤ record.offset → report.truncated = true ∧
            layout.Shadowed original.toList altered.toList report.validLength record) ∧
        ((∀ offset, ¬ (Image.ofBytes layout altered.toList).StrayChunk
            ((recordsAt anchors payloads).filter
              (layout.isUnaltered original.toList altered.toList)) offset) →
          ∀ record ∈ (recordsAt anchors payloads).filter
              (layout.isUnaltered original.toList altered.toList),
            report.validLength ≤ record.offset ∨
              segment.read after record.offset = .ok record.payload) := by
  obtain ⟨node, found, inRange, content_eq, rfl, records_eq, refusals_eq⟩ :=
    Segment.fill_eq_ok filled
  rw [← refusals_eq] at recovers
  have original_eq : original.toList = layout.writtenBytes 0 payloads := by
    simp only [Storage.fileBytes, found] at bytes_eq
    rw [← Except.ok.inj bytes_eq, content_eq]
  rw [records_eq, original_eq]
  have bears := Image.bears_unaltered layout payloads altered.toList
  obtain ⟨last, regions, ending, way, ends⟩ := Image.exists_passes bears.whole bears.isOpen 0
  have outside := way.inPadding_last layout.inPadding_zero
  obtain ⟨segment, after, repaired, fills⟩ :=
    Segment.repair_eq_ok id (fun _ => .ok altered) recovers found inRange rfl way ends
  have valid := Image.validLength_ofRegions way ends altered.size
  refine ⟨_, segment, after, repaired, ?_, ?_⟩
  · intro record member behind
    rw [valid] at behind ⊢
    obtain ⟨inside, shadowed⟩ := Image.shadowed_of_ends outside ends member behind
    refine ⟨?_, shadowed⟩
    have truncated_eq : (Report.ofRegions altered.size (regions ++ ending)).truncated =
        decide ((Report.ofRegions altered.size (regions ++ ending)).validLength < altered.size) :=
      rfl
    rw [truncated_eq, valid, decide_eq_true_eq, ← Array.length_toList]
    exact inside
  · intro clear record member
    rw [valid]
    have between := bears.between_of_passes clear way fun _ _ => .inl (Nat.zero_le _)
    exact read_of_between bears between fills member

/-- Flip the lowest bit of some bytes. -/
def flipAt (content : Content) (indices : List Nat) : Content :=
  indices.foldl (fun content index => content.modify index (· ^^^ 1)) content

/-- What is appended to a new segment of the name in an empty storage. -/
def filledStorage (layout : Layout) (payloads : List (List UInt8)) : Storage :=
  (fill ⟨"1.seg"⟩ .first layout payloads .empty).2

/-- The bytes of some payloads in a new segment. -/
def filledContent (layout : Layout) (payloads : List (List UInt8)) : Content :=
  (layout.writtenBytes 0 payloads).toArray

theorem repair_altered_of_flip :
    (fill ⟨"1.seg"⟩ .first smallLayout [[1, 2, 3], [4, 5]] .empty).1 = .ok ([0, 10], 19) ∧
      (∀ offset, ¬ (Image.ofBytes smallLayout
        (flipAt (filledContent smallLayout [[1, 2, 3], [4, 5]]) [7]).toList).StrayChunk
          [⟨10, [4, 5]⟩] offset) ∧
      ∃ report segment after,
        repair ⟨"1.seg"⟩ .first smallLayout
            (fun _ => .ok (flipAt (filledContent smallLayout [[1, 2, 3], [4, 5]]) [7]))
            (filledStorage smallLayout [[1, 2, 3], [4, 5]]) =
          (.ok (report, segment), after) ∧
        segment.read after 10 = .ok [4, 5] := by
  have filled : (fill ⟨"1.seg"⟩ .first smallLayout [[1, 2, 3], [4, 5]] .empty).1 =
      .ok ([0, 10], 19) := by decide +kernel
  have written : fill ⟨"1.seg"⟩ .first smallLayout [[1, 2, 3], [4, 5]] .empty =
      (.ok ([0, 10], 19), filledStorage smallLayout [[1, 2, 3], [4, 5]]) :=
    Prod.ext filled rfl
  have bytes_eq : (filledStorage smallLayout [[1, 2, 3], [4, 5]]).fileBytes ⟨"1.seg"⟩ =
      .ok (filledContent smallLayout [[1, 2, 3], [4, 5]]) := by
    decide +kernel
  have unaltered : (recordsAt [0, 10] [[1, 2, 3], [4, 5]]).filter (smallLayout.isUnaltered
      (filledContent smallLayout [[1, 2, 3], [4, 5]]).toList
      (flipAt (filledContent smallLayout [[1, 2, 3], [4, 5]]) [7]).toList) =
        [⟨10, [4, 5]⟩] := by decide +kernel
  have valid : (repair ⟨"1.seg"⟩ .first smallLayout
      (fun _ => .ok (flipAt (filledContent smallLayout [[1, 2, 3], [4, 5]]) [7]))
      (filledStorage smallLayout [[1, 2, 3], [4, 5]])).1.map
        (fun outcome => outcome.1.validLength) = .ok 19 := by decide +kernel
  have unreadable : ∀ offset < 10, ((Image.ofBytes smallLayout
      (flipAt (filledContent smallLayout [[1, 2, 3], [4, 5]]) [7]).toList).chunkAt
        offset).toOption = none := by decide +kernel
  have clear : ∀ offset, ¬ (Image.ofBytes smallLayout
      (flipAt (filledContent smallLayout [[1, 2, 3], [4, 5]]) [7]).toList).StrayChunk
        [⟨10, [4, 5]⟩] offset := by
    rintro offset ⟨_, _, chunk, found, record, member, before, _⟩
    rw [List.mem_singleton.mp member] at before
    have missing := unreadable offset before
    rw [found] at missing
    cases missing
  obtain ⟨report, segment, after, repaired, _, kept⟩ :=
    repair_altered Refusals.recovers_none written bytes_eq
    (flipAt (filledContent smallLayout [[1, 2, 3], [4, 5]]) [7])
  rw [unaltered] at kept
  rw [repaired] at valid
  refine ⟨filled, clear, report, segment, after, repaired, ?_⟩
  rcases kept clear _ (List.mem_singleton.mpr rfl) with cut | done
  · have valid_eq : report.validLength = 19 := Except.ok.inj valid
    rw [valid_eq] at cut
    exact absurd cut (by decide)
  · exact done

/-- The report of a repair, and the record it leaves at an offset. -/
def readRepaired (layout : Layout) (payloads : List (List UInt8)) (altered : Content)
    (offset : Nat) : Except Failure (Report × Except Failure (List UInt8)) :=
  match repair ⟨"1.seg"⟩ .first layout (fun _ => .ok altered) (filledStorage layout payloads) with
  | (.error cause, _) => .error cause
  | (.ok (report, segment), after) => .ok (report, segment.read after offset)

/-- A payload that continues like a chunk over the next record, if its own
chunk is damaged. -/
def coveringPayload : List UInt8 := [0xb3, 0x83, 0xfe, 0xff, 0x01, 0x00, 0x00]

/-- Blocks of 16 bytes. -/
def narrowLayout : Layout := ⟨16, by decide, by decide⟩

/-- A payload that leaves no room for another record in a block of 16 bytes. -/
def widePayload : List UInt8 := [0xaa, 0xbb, 0xcc, 0xdd, 0xee, 0xff, 0x11, 0x22, 0x33]

/-- The search takes the contents of a damaged record for a chunk over the next
one; and it gives up a block at its first damaged chunk. -/
theorem altered_loses_record :
    ((filledStorage smallLayout [coveringPayload, [7]]).fileBytes ⟨"1.seg"⟩ =
        .ok (filledContent smallLayout [coveringPayload, [7]]) ∧
      smallLayout.isUnaltered (filledContent smallLayout [coveringPayload, [7]]).toList
        (flipAt (filledContent smallLayout [coveringPayload, [7]]) [0]).toList ⟨14, [7]⟩ = true ∧
      readRepaired smallLayout [coveringPayload, [7]]
          (flipAt (filledContent smallLayout [coveringPayload, [7]]) [0]) 14 =
        .ok ({ recovered := 1, corrupted := 2, validLength := 15, truncated := true },
          .error (.truncated 14 7 1))) ∧
    ((filledStorage narrowLayout [widePayload, [4], [5]]).fileBytes ⟨"1.seg"⟩ =
        .ok (filledContent narrowLayout [widePayload, [4], [5]]) ∧
      narrowLayout.isUnaltered (filledContent narrowLayout [widePayload, [4], [5]]).toList
        (flipAt (filledContent narrowLayout [widePayload, [4], [5]]) [7, 23]).toList ⟨24, [5]⟩ =
          true ∧
      readRepaired narrowLayout [widePayload, [4], [5]]
          (flipAt (filledContent narrowLayout [widePayload, [4], [5]]) [7, 23]) 24 =
        .ok ({ recovered := 0, corrupted := 1, validLength := 0, truncated := true },
          .error (.truncated 24 7 0))) := by
  decide +kernel

end Segment

end RecordLog
