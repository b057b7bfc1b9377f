import RecordLog.Proofs.Coherence
import RecordLog.Proofs.TornWrite

/-!
# Zeros behind the records

A file that was given its space in advance ends with zeros. Zeros are no chunk,
however many they are: they declare no data, but the checksum of that is not
zero. So no record can be read behind the last one that was written, wherever
the search looks for it, and a repair takes the zeros off to the last of them.
-/

namespace RecordLog

/-! ## Zeros are no chunk -/

/-- Zeros are corrupt as a chunk: fewer than a header are too short, and more
have the wrong checksum. -/
theorem Chunk.decode_zeros (offset count : Nat) :
    ∃ problem, decode offset (List.replicate count 0) = .error (.corrupt offset problem) := by
  have wrong : checksumOf 0 0 [] ≠ 0 := by decide +kernel
  match count with
  | 0 | 1 | 2 | 3 | 4 | 5 | 6 => exact ⟨_, rfl⟩
  | count + 7 =>
      have read : (0 : UInt32) = UInt32.ofNat (ofLittleEndian [0, 0, 0, 0]) := rfl
      have declared : ofLittleEndian [0, 0] = 0 := rfl
      simp only [List.replicate_succ, decode, ← read, declared, List.take_zero, Nat.not_lt_zero,
        if_false]
      rw [if_pos wrong.symm]
      exact ⟨_, rfl⟩

namespace Image

variable {image : Image}

/-- Where there are zeros up to the end of the file, there is no chunk. -/
theorem chunkAt_zeros (whole : image.Whole) {offset count : Nat}
    (zeros : image.stored.drop offset = List.replicate count 0) (chunk : Chunk) :
    image.chunkAt offset ≠ .ok chunk := by
  intro found
  rcases (chunkAt_eq_ok_iff whole).mp found with ⟨inBlock, front⟩
  have small := image.layout.length_le_of_fits inBlock
  rw [zeros] at front
  rcases Chunk.decode_zeros offset count with ⟨problem, corrupt⟩
  rw [Chunk.decode_eq_ok_iff.mpr ⟨small, front⟩] at corrupt
  cases corrupt

/-- No record can be read in zeros at the end of a file. -/
theorem not_readable_zeros (whole : image.Whole) {first offset count : Nat}
    (zeros : image.stored.drop first = List.replicate count 0) (behind : first ≤ offset) :
    ¬ image.Readable offset := by
  rintro ⟨payload, stop, done⟩
  rcases (collects_of_read done).exists_first with ⟨chunk, found, -⟩
  have reached := image.layout.le_align offset
  have later : image.stored.drop (image.layout.align offset) =
      List.replicate (count - (image.layout.align offset - first)) 0 := by
    rw [← List.drop_replicate, ← zeros, List.drop_drop]
    congr 1
    omega
  exact chunkAt_zeros whole later chunk found

/-- The search after damage finds nothing in zeros. -/
theorem resync_zeros (whole : image.Whole) (isOpen : image.isOpen = true) {first count : Nat}
    (zeros : image.stored.drop first = List.replicate count 0) :
    image.resync first = .ok none := by
  rcases exists_resync whole isOpen first with ⟨answer, result⟩
  cases answer with
  | none => exact result
  | some found =>
      have readable := (readable_of_resync whole isOpen result).1
      have behind := image.lt_of_resync result
      exact absurd readable (not_readable_zeros whole zeros (Nat.le_of_lt behind))

/-- A survey of written payloads with zeros behind them ends at the zeros. -/
theorem ends_zeros (layout : Layout) (payloads : List (List UInt8)) (count : Nat) :
    Ends (ofBytes layout (layout.writtenBytes 0 payloads ++ List.replicate count 0))
      (layout.writtenStop 0 payloads)
      (if layout.writtenStop 0 payloads < layout.writtenStop 0 payloads + count then
        [.tail (layout.writtenStop 0 payloads)] else []) := by
  have length_eq := layout.length_writtenBytes 0 payloads
  have aligned := layout.align_of_not_inPadding
    (layout.inPadding_writtenStop layout.inPadding_zero payloads)
  rw [Nat.zero_add] at length_eq
  have size_eq : (ofBytes layout
      (layout.writtenBytes 0 payloads ++ List.replicate count 0)).size =
        layout.writtenStop 0 payloads + count := by
    rw [size_ofBytes, List.length_append, length_eq, List.length_replicate]
  have zeros : (ofBytes layout
      (layout.writtenBytes 0 payloads ++ List.replicate count 0)).stored.drop
        (layout.writtenStop 0 payloads) = List.replicate count 0 := by
    rw [stored_ofBytes, List.drop_left' length_eq]
  split
  · rename_i torn
    apply Ends.torn
    · rwa [layout_ofBytes, aligned, size_eq]
    · rw [layout_ofBytes, aligned]
      exact not_readable_zeros (whole_ofBytes _ _) zeros (Nat.le_refl _)
    · exact resync_zeros (whole_ofBytes _ _) (isOpen_ofBytes _ _) zeros
  · rename_i clean
    apply Ends.clean
    rw [layout_ofBytes, aligned, size_eq]
    exact Nat.le_of_not_lt clean

end Image

/-! ## Repairing -/

namespace Segment

/-- A repair gives and takes no names. -/
theorem entries_repair (path : Path) (id : SegmentId) (layout : Layout)
    (change : Content → Except StorageError Content) (storage : Storage) :
    (repair path id layout change storage).2.entries = storage.entries := by
  have changed : (storage.changeFile path change).2.entries = storage.entries := by
    unfold Storage.changeFile
    split
    · rfl
    · split <;> rfl
  unfold repair
  split
  · rename_i outcome
    rw [outcome] at changed
    exact changed
  · rename_i middle outcome
    rw [outcome] at changed
    cases found : middle.findFile path with
    | error cause =>
        rw [openExisting, Storage.openFile, found]
        exact changed
    | ok node =>
        rcases openExisting_cases id layout found [] with
          ⟨after, keeps, -, ⟨cause, refused, -⟩ | ⟨segment, opened, -⟩⟩
        · rw [refused]
          exact keeps.entries_eq.trans changed
        have recovered := (segment.entries_recover after).trans (keeps.entries_eq.trans changed)
        rw [opened]
        simp only
        split <;>
          · rename_i outcome
            rw [outcome] at recovered
            exact recovered

/-- Zeros behind the records of a new segment are taken off by a repair: all
records are counted, there is a damaged region exactly if there are zeros, and
the file has the bytes it had before them. -/
theorem repair_zeros {path : Path} {id : SegmentId} {layout : Layout}
    {payloads : List (List UInt8)} {storage written : Storage} (recovers : storage.Recovers)
    {anchors : List Nat} {size : Nat}
    (filled : Segment.fill path id layout payloads storage = (.ok (anchors, size), written))
    (count : Nat) :
    ∃ original report segment after,
      written.fileBytes path = .ok original ∧ original.size = size ∧
        Segment.repair path id layout (fun bytes => .ok (bytes ++ Array.replicate count 0)) written =
          (.ok (report, segment), after) ∧
        report =
          { recovered := payloads.length
            corrupted := if 0 < count then 1 else 0
            validLength := size
            truncated := 0 < count } ∧
        segment.size = size ∧ after.fileBytes path = .ok original := by
  rcases fill_eq_ok filled with ⟨node, found, inRange, bytes_eq, rfl, -, refusals_eq⟩
  rw [← refusals_eq] at recovers
  have length_eq := layout.length_writtenBytes 0 payloads
  have outside := layout.inPadding_writtenStop layout.inPadding_zero payloads
  have aligned := layout.align_of_not_inPadding outside
  rw [Nat.zero_add] at length_eq
  have original_size : (written.nodeBytes node).size = layout.writtenStop 0 payloads := by
    rw [← Array.length_toList, bytes_eq, length_eq]
  have changed_eq : (written.nodeBytes node ++ Array.replicate count 0).toList =
      layout.writtenBytes 0 payloads ++ List.replicate count 0 := by
    rw [Array.toList_append, bytes_eq, Array.toList_replicate]
  have changed_size : (written.nodeBytes node ++ Array.replicate count 0).size =
      layout.writtenStop 0 payloads + count := by
    rw [Array.size_append, original_size, Array.size_replicate]
  have way := (Image.carries_writtenBytes (Image.whole_ofBytes layout _) (Image.isOpen_ofBytes _ _)
    (Image.stored_ofBytes layout
      (layout.writtenBytes 0 payloads ++ List.replicate count 0))).passes
  have ends := Image.ends_zeros layout payloads count
  simp only [Image.layout_ofBytes, layout.align_zero, aligned] at way
  rw [← changed_eq] at way ends
  rcases repair_eq_ok id (fun bytes => .ok (bytes ++ Array.replicate count 0)) recovers found
    inRange rfl way ends with ⟨segment, after, repaired, fills⟩
  have entries_eq := entries_repair path id layout
    (fun bytes => .ok (bytes ++ Array.replicate count 0)) written
  rw [repaired] at entries_eq
  rw [changed_size, Report.ofRegions_written way ends] at repaired
  rw [changed_eq, List.take_left' length_eq] at fills
  have restored : after.nodeBytes node = written.nodeBytes node := by
    rw [← Array.toList_inj, fills.bytes_eq, bytes_eq]
  have some_zeros : layout.writtenStop 0 payloads < layout.writtenStop 0 payloads + count ↔
      0 < count := Nat.lt_add_right_iff_pos
  refine ⟨written.nodeBytes node, _, segment, after, ?_, original_size, repaired, ?_, ?_, ?_⟩
  · rw [Storage.fileBytes, found]
  · simp only [some_zeros]
  · rw [fills.size_eq, length_eq]
  · rw [Storage.fileBytes, Storage.findFile_congr entries_eq, found, ← restored]

/-- Two records with 70 zeros behind them, over three blocks. -/
theorem repair_zeros_of_seventy :
    (fill ⟨"1.seg"⟩ .first smallLayout [[1, 2, 3], []] .empty).1 = .ok ([0, 10], 17) ∧
      ∃ original report segment after,
        original.size = 17 ∧
          repair ⟨"1.seg"⟩ .first smallLayout (fun bytes => .ok (bytes ++ Array.replicate 70 0))
              (fill ⟨"1.seg"⟩ .first smallLayout [[1, 2, 3], []] .empty).2 =
            (.ok (report, segment), after) ∧
          report =
            { recovered := 2, corrupted := 1, validLength := 17, truncated := true } ∧
          after.fileBytes ⟨"1.seg"⟩ = .ok original := by
  have filled : (fill ⟨"1.seg"⟩ .first smallLayout [[1, 2, 3], []] .empty).1 =
      .ok ([0, 10], 17) := by decide +kernel
  have written : fill ⟨"1.seg"⟩ .first smallLayout [[1, 2, 3], []] .empty =
      (.ok ([0, 10], 17), (fill ⟨"1.seg"⟩ .first smallLayout [[1, 2, 3], []] .empty).2) :=
    Prod.ext filled rfl
  rcases repair_zeros Refusals.recovers_none written 70 with
    ⟨original, report, segment, after, -, size_eq, repaired, report_eq, -, restored⟩
  exact ⟨filled, original, report, segment, after, size_eq, repaired, report_eq, restored⟩

end Segment

end RecordLog
