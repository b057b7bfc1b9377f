import RecordLog.Proofs.WorldOrder

/-!
# Opening what was discovered

Discovery goes from names to ids, and opening goes from ids back to names. Every
string of digits spells an id, but only one of those that spell it is its own
name: the one without leading zeros. So a log is opened if the own name of each
discovered id is that of a file, and then it reads each of these files under its
id as it was found, the newest up to where a recovery cuts it. A file with
leading zeros in its name is discovered and not opened: if there is no file under
the own name of its id, the opening fails, and else that one is opened.
-/

namespace RecordLog

namespace SegmentId

variable {name extension : String} {id : SegmentId}

/-! ## Names that spell an id -/

/-- A name spells an id under an extension: digits of that value, and the
extension behind them. -/
def Spells (name extension : String) (id : SegmentId) : Prop :=
  ∃ digits, digits ≠ [] ∧ digits.all Char.isDigit = true ∧
    name.toList = digits ++ extension.toList ∧ decimalValue digits = id.number ∧ id.number < bound

/-- A name begins with a zero that is not the only character before the
extension. -/
def Padded (name extension : String) : Prop :=
  name.toList.head? = some '0' ∧ extension.toList.length + 1 < name.toList.length

instance (name extension : String) : Decidable (Padded name extension) :=
  inferInstanceAs (Decidable (_ ∧ _))

theorem stem?_eq_some_iff {name extension digits : List Char} :
    stem? name extension = some digits ↔ name = digits ++ extension := by
  unfold stem?
  rw [Option.ite_none_right_eq_some, List.isSuffixOf_iff_suffix, Option.some.injEq]
  constructor
  · rintro ⟨⟨front, rfl⟩, rfl⟩
    simp
  · rintro rfl
    exact ⟨⟨digits, rfl⟩, by simp⟩

/-- Discovery takes a name for the id that it spells. -/
theorem parse_eq_some_iff : parse name extension = some id ↔ Spells name extension id := by
  unfold parse Spells
  cases stem : stem? name.toList extension.toList with
  | none =>
      refine iff_of_false nofun ?_
      rintro ⟨digits, _, _, split_eq, _⟩
      rw [stem?_eq_some_iff.mpr split_eq] at stem
      cases stem
  | some digits =>
      have split_eq := stem?_eq_some_iff.mp stem
      simp only
      constructor
      · intro parsed
        split at parsed
        · cases parsed
        rename_i decimal
        split at parsed
        · rename_i inBound
          cases parsed
          simp only [not_or, Bool.not_eq_false, Bool.not_eq_true] at decimal
          exact ⟨digits, decimal.1, by simpa using decimal.2, split_eq, rfl, inBound⟩
        · cases parsed
      · rintro ⟨others, nonempty, decimal, again, value, inBound⟩
        obtain rfl : digits = others := List.append_cancel_right (split_eq.symm.trans again)
        rw [if_neg (by simp [nonempty, decimal]), if_pos (by rwa [value]), value]

theorem decimalValue_concat (digits : List Char) (digit : Char) :
    decimalValue (digits ++ [digit]) = 10 * decimalValue digits + (digit.toNat - '0'.toNat) := by
  simp [decimalValue, List.foldl_append]

/-- A digit is the character of its value, which is less than ten. -/
theorem digitChar_of_isDigit {digit : Char} (isDigit : digit.isDigit = true) :
    digit.toNat - '0'.toNat < 10 ∧ Nat.digitChar (digit.toNat - '0'.toNat) = digit := by
  have character : ∀ value < 10, Nat.digitChar value = Char.ofNat ('0'.toNat + value) := by decide
  obtain ⟨low, high⟩ := Char.isDigit_iff_toNat.mp isDigit
  have small : digit.toNat - '0'.toNat < 10 := by
    have : '9'.toNat = '0'.toNat + 9 := rfl
    omega
  refine ⟨small, ?_⟩
  rw [character _ small, Nat.add_sub_cancel' low, Char.ofNat_toNat]

/-- Digits without leading zeros are those that their value is written with. -/
theorem toDigits_decimalValue {digits : List Char} (nonempty : digits ≠ [])
    (decimal : ∀ digit ∈ digits, digit.isDigit = true)
    (unpadded : digits.head? = some '0' → digits.length = 1) :
    Nat.toDigits 10 (decimalValue digits) = digits := by
  induction digits using List.reverseRecOn with
  | nil => exact absurd rfl nonempty
  | append_singleton front last ih =>
      obtain ⟨small, character⟩ := digitChar_of_isDigit (decimal last (by simp))
      have lastDigits : Nat.toDigits 10 (last.toNat - '0'.toNat) = [last] := by
        rw [Nat.toDigits_of_lt_base small, character]
      rw [decimalValue_concat]
      by_cases single : front = []
      · subst single
        rw [show decimalValue [] = 0 from rfl, Nat.mul_zero, Nat.zero_add, lastDigits,
          List.nil_append]
      -- the digits in front have no leading zeros, and so are no zero
      have lead : front.head? ≠ some '0' := by
        intro zero
        have length_eq := unpadded (by rw [List.head?_append, zero]; rfl)
        rw [List.length_append, List.length_singleton] at length_eq
        exact single (List.length_eq_zero_iff.mp (by omega))
      have frontDigits := ih single (fun digit member => decimal digit (by simp [member]))
        fun zero => absurd zero lead
      have positive : 0 < decimalValue front := by
        apply Nat.pos_of_ne_zero
        intro zero
        rw [zero] at frontDigits
        rw [← frontDigits] at lead
        exact lead rfl
      rw [← Nat.toDigits_append_toDigits (by decide) positive small, frontDigits, lastDigits]

/-- A name that spells an id without leading zeros is the id's own. -/
theorem Spells.eq_fileName (spells : Spells name extension id)
    (unpadded : ¬ Padded name extension) : name = id.fileName extension := by
  obtain ⟨digits, nonempty, decimal, split_eq, value, _⟩ := spells
  have written : Nat.toDigits 10 (decimalValue digits) = digits := by
    refine toDigits_decimalValue nonempty (List.all_eq_true.mp decimal) fun zero => ?_
    have head : name.toList.head? = some '0' := by
      rw [split_eq, List.head?_append, zero]
      rfl
    have length_eq : name.toList.length = digits.length + extension.toList.length := by
      rw [split_eq, List.length_append]
    have short : ¬ extension.toList.length + 1 < name.toList.length :=
      fun long => unpadded ⟨head, long⟩
    have := List.length_pos_iff.mpr nonempty
    omega
  apply String.toList_inj.mp
  rw [toList_fileName, ← value, written, split_eq]

end SegmentId

/-! ## Own names -/

namespace Config

variable {config : Config} {storage : Storage} {names : List (FileName × Entry)}

theorem readDirectory_eq_ok_iff {path : Path} :
    storage.readDirectory path = .ok names ↔
      ∃ place, storage.resolve path = .ok place ∧ storage.entryAt place = some .directory ∧
        names = storage.namesAt place := by
  unfold Storage.readDirectory
  constructor
  · intro listed
    split at listed
    · cases listed
    rename_i place resolved
    split at listed
    · cases listed
    · cases listed
    rename_i isDirectory
    cases listed
    exact ⟨place, resolved, isDirectory, rfl⟩
  · rintro ⟨place, resolved, isDirectory, rfl⟩
    simp only [resolved, isDirectory]

/-- An id is found among some names: one of them is that of a regular file and
spells it. -/
def Finds (config : Config) (names : List (FileName × Entry)) (id : SegmentId) : Prop :=
  ∃ name node, (.text name, .regular node) ∈ names ∧ SegmentId.Spells name config.fileExtension id

/-- Discovery answers the ids that are found among the names in the directory. -/
theorem exists_discover (listed : storage.readDirectory ⟨config.directory⟩ = .ok names) :
    ∃ ids, config.discover storage = .ok ids ∧ ∀ id, id ∈ ids ↔ config.Finds names id := by
  refine ⟨SegmentId.sort (names.filterMap config.segmentId?), by rw [discover, listed], ?_⟩
  intro id
  rw [SegmentId.sort, List.mem_mergeSort, List.mem_filterMap]
  constructor
  · rintro ⟨⟨name, entry⟩, member, denotes⟩
    unfold segmentId? at denotes
    split at denotes
    · rename_i text node same
      cases same
      exact ⟨text, node, member, SegmentId.parse_eq_some_iff.mp denotes⟩
    · cases denotes
  · rintro ⟨name, node, member, spells⟩
    exact ⟨_, member, SegmentId.parse_eq_some_iff.mpr spells⟩

/-- The path of a segment leads to what stands under the own name of its id. -/
theorem findFile_segmentPath (listed : storage.readDirectory ⟨config.directory⟩ = .ok names)
    (plain : '/' ∉ config.fileExtension.toList) (id : SegmentId) :
    storage.findFile (config.segmentPath id) =
      match names.lookup (.text (id.fileName config.fileExtension)) with
      | none => .error .notFound
      | some .directory => .error .isADirectory
      | some (.file node) => .ok node := by
  obtain ⟨place, resolved, isDirectory, rfl⟩ := readDirectory_eq_ok_iff.mp listed
  have leads := config.resolve_segmentPath (Storage.walk_of_resolve resolved) isDirectory plain id
  obtain ⟨noSlash, noDots⟩ := config.ends_segmentPath plain id
  simp only [Storage.findFile, Storage.find, leads, Storage.entryAt_concat]
  cases (storage.namesAt place).lookup (.text (id.fileName config.fileExtension)) with
  | none => rfl
  | some entry =>
      cases entry with
      | directory => rfl
      | file node => simp [Path.namesDirectory, noSlash, noDots]

end Config

/-! ## Opening segments -/

namespace Segment

variable {config : Config} {layout : Layout} {storage : Storage} {ids : List SegmentId}

/-- Segments are opened together if there is a file for each of their ids, where
handles can be duplicated. -/
theorem exists_openAll (duplicates : storage.Duplicates)
    (found : ∀ id ∈ ids, ∃ node, storage.findFile (config.segmentPath id) = .ok node) :
    ∃ segments after, openAll config layout ids storage = (.ok segments, after) ∧
      after.toRefusals = storage.toRefusals := by
  induction ids generalizing storage with
  | nil => exact ⟨[], storage, rfl, rfl⟩
  | cons id rest ih =>
      obtain ⟨node, here⟩ := found id List.mem_cons_self
      obtain ⟨segment, middle, opened, keeps, refusals_eq, _⟩ :=
        exists_openExisting duplicates id layout here []
      rw [← refusals_eq] at duplicates
      obtain ⟨segments, after, openedRest, refusalsRest⟩ :=
        @ih middle duplicates fun other member => by
          rw [Storage.findFile_congr keeps.entries_eq]
          exact found other (List.mem_cons_of_mem _ member)
      exact ⟨segment :: segments, after, by rw [openAll, opened]; simp only [openedRest],
        refusalsRest.trans refusals_eq⟩

/-- Segments are not opened together if there is no file for one of their ids. -/
theorem openAll_of_missing (duplicates : storage.Duplicates)
    (missing : ∃ id ∈ ids, ∃ cause, storage.findFile (config.segmentPath id) = .error cause) :
    ∃ id ∈ ids, ∃ cause, storage.findFile (config.segmentPath id) = .error cause ∧
      (openAll config layout ids storage).1 = .error (.storage cause) := by
  induction ids generalizing storage with
  | nil =>
      obtain ⟨_, member, _⟩ := missing
      cases member
  | cons id rest ih =>
      cases here : storage.findFile (config.segmentPath id) with
      | error cause =>
          refine ⟨id, List.mem_cons_self, cause, here, ?_⟩
          rw [openAll, openExisting, Storage.openFile, here]
      | ok node =>
          obtain ⟨segment, middle, opened, keeps, refusals_eq, _⟩ :=
            exists_openExisting duplicates id layout here []
          rw [← refusals_eq] at duplicates
          have same : ∀ path, middle.findFile path = storage.findFile path :=
            Storage.findFile_congr keeps.entries_eq
          obtain ⟨other, among, cause, failed⟩ := missing
          have behind : other ∈ rest := by
            rcases List.mem_cons.mp among with rfl | later
            · rw [here] at failed
              cases failed
            · exact later
          obtain ⟨first, member, fault, absent, refused⟩ :=
            @ih middle duplicates ⟨other, behind, cause, (same _).trans failed⟩
          refine ⟨first, List.mem_cons_of_mem _ member, fault, (same _).symm.trans absent, ?_⟩
          rw [openAll, opened]
          simp only
          split
          · rename_i outcome
            rw [outcome] at refused
            exact refused
          · rename_i outcome
            rw [outcome] at refused
            cases refused

end Segment

/-- The bytes that recovery leaves of a file. -/
def Layout.recovered (layout : Layout) (bytes : List UInt8) : List UInt8 :=
  match (Image.ofBytes layout bytes).report with
  | .error _ => bytes
  | .ok report => bytes.take report.validLength

namespace Log

variable {config : Config} {layout : Layout} {storage after : Storage} {ids : List SegmentId}
  {log : Log} {id : SegmentId}

/-- A log is opened if there is a file for each of the ids that were discovered.
It has a segment for each of them, and of the files it changes the newest alone,
by recovering it. -/
theorem exists_openFound (orderly : storage.Orderly) (recovers : storage.Recovers)
    (discovered : config.discover storage = .ok ids) (nonempty : ids ≠ [])
    (found : ∀ id ∈ ids, ∃ node, storage.findFile (config.segmentPath id) = .ok node) :
    ∃ log after, openFound config layout ids storage = (.ok log, after) ∧
      log.closed = false ∧ log.ids = ids.eraseDups ∧
        ∃ node bytes, storage.findFile (config.segmentPath log.active.id) = .ok node ∧
          storage.Rewrites after node bytes ∧
            bytes.toList = layout.recovered (storage.nodeBytes node).toList := by
  obtain ⟨segments, middle, opened, refusals_eq⟩ :=
    @Segment.exists_openAll config layout storage ids.eraseDups recovers.duplicates
      fun id member => found id (List.mem_eraseDups.mp member)
  obtain ⟨ids_eq, keeps, _⟩ := Segment.seated_openAll orderly.sound opened
  have opens := Segment.opensId_of_openAll opened
  have last : segments ≠ [] := by
    rintro rfl
    obtain ⟨id, member⟩ := List.exists_mem_of_ne_nil ids nonempty
    have inNone := List.mem_eraseDups.mpr member
    rw [← ids_eq] at inNone
    cases inNone
  obtain ⟨sealed, active, rfl⟩ : ∃ sealed active, segments = sealed ++ [active] :=
    ⟨_, _, (List.dropLast_concat_getLast last).symm⟩
  obtain ⟨node, named, opensActive⟩ := opens active (by simp)
  rw [Storage.findFile_congr keeps.entries_eq] at named
  have inRange : node < middle.nodes.size := by
    rw [keeps.size_eq]
    exact orderly.sound.findFile named
  obtain ⟨last, regions, ending, way, ends⟩ := Image.exists_passes
    (Image.whole_ofBytes layout (middle.nodeBytes node).toList) rfl 0
  obtain ⟨recovered, after, bytes, rewrites, ⟨_, _, untruncated, _⟩ |
      ⟨bytes_eq, serves, _, _, done⟩⟩ := opensActive.recover_cases inRange way ends
  · rw [refusals_eq] at untruncated
    exact absurd recovers.toTruncates untruncated
  have id_eq : recovered.id = active.id := serves.id_eq
  refine ⟨ofSegments config layout sealed recovered, after, ?_, rfl, ?_, node, bytes, ?_,
    keeps.then rewrites, ?_⟩
  · rw [openFound_eq (Config.ascending_of_discover discovered), opened]
    simp only [List.getLast?_concat, List.dropLast_concat, resume, done]
  · rw [← ids_eq, ids_ofSegments, List.map_append, List.map_append, List.map_singleton,
      List.map_singleton, id_eq]
  · rw [active_ofSegments, id_eq, named]
  · rw [keeps.bytes_eq] at way ends bytes_eq
    rw [bytes_eq, Layout.recovered,
      Image.report_of_passes (Image.whole_ofBytes layout _) rfl way ends]
    simp only
    rw [Image.validLength_ofRegions way ends]

/-- A log has a segment under an id on the given file, of which it reads what
recovery leaves if the segment is the newest, and else all that there was. -/
structure Reads (log : Log) (layout : Layout) (before after : Storage) (id : SegmentId)
    (node : Nat) : Prop where
  segment : ∃ segment, log.segment? id = some segment ∧ after.nodeOf? segment.handle = some node
  records_eq : log.records id after = (Image.ofBytes layout
    (if id = log.active.id then layout.recovered (before.nodeBytes node).toList
      else (before.nodeBytes node).toList)).records
  read_eq : ∀ offset, log.read ⟨id, offset⟩ after = ((Image.ofBytes layout
    (if id = log.active.id then layout.recovered (before.nodeBytes node).toList
      else (before.nodeBytes node).toList)).read offset).map Prod.fst

/-- A log that was opened reads each file under the id whose own name it has. -/
theorem reads_of_openFound (orderly : storage.Orderly)
    (discovered : config.discover storage = .ok ids)
    (opened : openFound config layout ids storage = (.ok log, after)) (isOpen : log.closed = false)
    (ids_eq : log.ids = ids.eraseDups) {newest : Nat} {bytes : Content}
    (active : storage.findFile (config.segmentPath log.active.id) = .ok newest)
    (rewrites : storage.Rewrites after newest bytes)
    (bytes_eq : bytes.toList = layout.recovered (storage.nodeBytes newest).toList)
    (member : id ∈ ids) {node : Nat}
    (named : storage.findFile (config.segmentPath id) = .ok node) :
    log.Reads layout storage after id node := by
  obtain ⟨coherent, config_eq, _⟩ := coherent_openFound orderly.sound discovered opened
  have inLog : id ∈ log.ids := by
    rw [ids_eq]
    exact List.mem_eraseDups.mpr member
  obtain ⟨segment, other, found, among, _, path_eq, leads, refers⟩ := coherent.findFile_eq inLog
  rw [path_eq, config_eq, Storage.findFile_congr rewrites.entries_eq, named] at leads
  cases leads
  obtain ⟨again, _, opens⟩ := opensId_openFound orderly discovered opened segment among
  obtain rfl : node = again := Option.some.inj (refers.symm.trans opens.nodeOf?_eq)
  -- two ids have two files, so that recovery rewrote no file but that of the newest
  have content_eq : (after.nodeBytes node).toList =
      if id = log.active.id then layout.recovered (storage.nodeBytes node).toList
        else (storage.nodeBytes node).toList := by
    split
    · rename_i same
      rw [← same, named] at active
      cases active
      rw [rewrites.bytes_eq, bytes_eq]
    · rename_i differs
      have apart : node ≠ newest := by
        rintro rfl
        exact differs (Config.eq_of_findFile orderly discovered member named active)
      rw [rewrites.others_eq node apart]
  have image_eq : segment.image after = .ofBytes layout (if id = log.active.id then
      layout.recovered (storage.nodeBytes node).toList else (storage.nodeBytes node).toList) := by
    rw [← content_eq]
    exact opens.toServes.image_eq_ofBytes opens.size_eq
  refine ⟨⟨segment, found, refers⟩, ?_, fun offset => ?_⟩
  · simp only [records, withSegment, isOpen, Bool.false_eq_true, if_false, found, image_eq]
  · simp only [read, withSegment, isOpen, Bool.false_eq_true, if_false, found, Segment.read,
      image_eq]
    cases (Image.ofBytes layout _).read offset <;> rfl

/-! ## Opening a directory -/

section Directory

variable {names : List (FileName × Entry)}

/-- Opening the directory of a log opens the ids that are found among its names, and
their paths lead to what stands under their own names. -/
theorem exists_openDirectory_eq (sound : config.fault = none) (orderly : storage.Orderly)
    (listed : storage.readDirectory ⟨config.directory⟩ = .ok names) :
    ∃ layout ids, Layout.ofBlockSize config.blockSize = .ok layout ∧
      config.discover storage = .ok ids ∧ (∀ id, id ∈ ids ↔ config.Finds names id) ∧
        openDirectory config storage = openFound config layout ids storage ∧
          ∀ id ∈ ids, storage.findFile (config.segmentPath id) =
            match names.lookup (.text (id.fileName config.fileExtension)) with
            | none => .error .notFound
            | some .directory => .error .isADirectory
            | some (.file node) => .ok node := by
  obtain ⟨layout, laidOut⟩ := Config.exists_layout sound
  obtain ⟨ids, discovered, mem_iff⟩ := Config.exists_discover listed
  obtain ⟨place, resolved, isDirectory, _⟩ := Config.readDirectory_eq_ok_iff.mp listed
  refine ⟨layout, ids, laidOut, discovered, mem_iff, ?_, ?_⟩
  · exact openDirectory_of_discover sound laidOut (Storage.createDirectory_eq resolved isDirectory)
      discovered
  · intro id member
    exact Config.findFile_segmentPath listed (Config.plain_of_discover orderly discovered member) id

/-- Without a file under the own name of each id that is found the log is not opened. -/
theorem openDirectory_of_missing (sound : config.fault = none) (orderly : storage.Orderly)
    (duplicates : storage.Duplicates)
    (listed : storage.readDirectory ⟨config.directory⟩ = .ok names) (finds : config.Finds names id)
    (missing : names.lookup (.text (id.fileName config.fileExtension)) = none)
    (files : ∀ id, config.Finds names id →
      names.lookup (.text (id.fileName config.fileExtension)) ≠ some .directory) :
    (openDirectory config storage).1 = .error (.storage .notFound) := by
  obtain ⟨layout, ids, _, _, mem_iff, opening, leads⟩ :=
    exists_openDirectory_eq sound orderly listed
  have member := (mem_iff id).mpr finds
  -- the opening ends with the first id that has no file, which may be another one
  obtain ⟨first, among, cause, failed, refused⟩ :=
    @Segment.openAll_of_missing config layout storage ids.eraseDups duplicates
      ⟨id, List.mem_eraseDups.mpr member, .notFound, by rw [leads id member, missing]⟩
  rw [List.mem_eraseDups] at among
  have cause_eq : cause = .notFound := by
    have noDirectory := files first ((mem_iff first).mp among)
    rw [leads first among] at failed
    split at failed
    · cases failed
      rfl
    · rename_i stands
      exact absurd stands noDirectory
    · cases failed
  rw [opening, openFound]
  split
  · rename_i outcome
    rw [outcome, cause_eq] at refused
    obtain rfl := Except.error.inj refused
    rfl
  · rename_i outcome
    rw [outcome] at refused
    cases refused

/-- With a file under the own name of each id that is found the log is opened. -/
theorem openDirectory_of_stored (sound : config.fault = none) (orderly : storage.Orderly)
    (recovers : storage.Recovers)
    (listed : storage.readDirectory ⟨config.directory⟩ = .ok names) (finds : config.Finds names id)
    (stored : ∀ id, config.Finds names id → ∃ node,
      names.lookup (.text (id.fileName config.fileExtension)) = some (.regular node)) :
    ∃ layout log after, Layout.ofBlockSize config.blockSize = .ok layout ∧
      openDirectory config storage = (.ok log, after) ∧
        (∀ id, id ∈ log.ids ↔ config.Finds names id) ∧
          ∀ name node id, names.lookup (.text name) = some (.regular node) →
            SegmentId.Spells name config.fileExtension id →
              ¬ SegmentId.Padded name config.fileExtension →
                log.Reads layout storage after id node := by
  obtain ⟨layout, ids, laidOut, discovered, mem_iff, opening, leads⟩ :=
    exists_openDirectory_eq sound orderly listed
  have nonempty : ids ≠ [] := List.ne_nil_of_mem ((mem_iff id).mpr finds)
  have found : ∀ id ∈ ids, ∃ node, storage.findFile (config.segmentPath id) = .ok node := by
    intro id member
    obtain ⟨node, stands⟩ := stored id ((mem_iff id).mp member)
    exact ⟨node, by rw [leads id member, stands]⟩
  obtain ⟨log, after, opened, isOpen, ids_eq, newest, bytes, active, rewrites, bytes_eq⟩ :=
    @exists_openFound config layout storage ids orderly recovers discovered nonempty found
  refine ⟨layout, log, after, laidOut, opening.trans opened, ?_, ?_⟩
  · intro id
    rw [ids_eq, List.mem_eraseDups, mem_iff]
  · intro name node id stands spells unpadded
    have own := spells.eq_fileName unpadded
    obtain ⟨front, back, names_eq, _⟩ := List.lookup_eq_some_iff.mp stands
    have among : (.text name, .regular node) ∈ names := by simp [names_eq]
    have member : id ∈ ids := (mem_iff id).mpr ⟨name, node, among, spells⟩
    refine reads_of_openFound orderly discovered opened isOpen ids_eq active rewrites bytes_eq
      member ?_
    rw [leads id member, ← own, stands]

/-- A log is not opened if the own name of an id that was discovered is missing. It is
opened if all these names are those of files, and then it reads every file with a
name that spells an id without leading zeros under this id. -/
theorem opens_discovered (sound : config.fault = none) (orderly : storage.Orderly)
    (recovers : storage.Recovers)
    (listed : storage.readDirectory ⟨config.directory⟩ = .ok names) :
    ((∃ id, config.Finds names id ∧
        names.lookup (.text (id.fileName config.fileExtension)) = none) →
      (∀ id, config.Finds names id →
        names.lookup (.text (id.fileName config.fileExtension)) ≠ some .directory) →
        (openDirectory config storage).1 = .error (.storage .notFound)) ∧
    ((∃ id, config.Finds names id) →
      (∀ id, config.Finds names id → ∃ node,
        names.lookup (.text (id.fileName config.fileExtension)) = some (.regular node)) →
        ∃ layout log after, Layout.ofBlockSize config.blockSize = .ok layout ∧
          openDirectory config storage = (.ok log, after) ∧
            (∀ id, id ∈ log.ids ↔ config.Finds names id) ∧
              ∀ name node id, names.lookup (.text name) = some (.regular node) →
                SegmentId.Spells name config.fileExtension id →
                  ¬ SegmentId.Padded name config.fileExtension →
                    log.Reads layout storage after id node) :=
  ⟨fun ⟨_, finds, missing⟩ files =>
      openDirectory_of_missing sound orderly recovers.duplicates listed finds missing files,
    fun ⟨_, finds⟩ stored => openDirectory_of_stored sound orderly recovers listed finds stored⟩

end Directory

/-- A log of two files, one of which has another beside it with zeros in front of the
number. -/
def twinStorage : Storage :=
  (((Storage.empty.putFile ⟨"wal/7.seg"⟩ (Chunk.bytes ⟨.full, [1, 2, 3]⟩).toArray).2.putFile
    ⟨"wal/12.seg"⟩ (Chunk.bytes ⟨.full, [4]⟩ ++ [9]).toArray).2.putFile
      ⟨"wal/007.seg"⟩ (Chunk.bytes ⟨.full, [5]⟩).toArray).2

/-- The two files are opened under the two ids, and the newer is recovered. -/
theorem opens_discovered_of_twinStorage :
    ∃ layout log after, openDirectory World.smallSettings twinStorage = (.ok log, after) ∧
      log.Reads layout twinStorage after ⟨7⟩ 0 ∧
        log.Reads layout twinStorage after ⟨12⟩ 1 := by
  have orderly : twinStorage.Orderly :=
    ((Storage.orderly_empty.putFile _ _).putFile _ _).putFile _ _
  have listed : twinStorage.readDirectory ⟨World.smallSettings.directory⟩ =
      .ok [(.text "7.seg", .regular 0), (.text "12.seg", .regular 1), (.text "007.seg", .regular 2)] := by
    decide +kernel
  have recovers : twinStorage.Recovers := by
    have refusals_eq : twinStorage.toRefusals = .none := by rfl
    rw [refusals_eq]
    exact Refusals.recovers_none
  have seven : SegmentId.parse "7.seg" ".seg" = some ⟨7⟩ := by decide +kernel
  have twelve : SegmentId.parse "12.seg" ".seg" = some ⟨12⟩ := by decide +kernel
  have padded : SegmentId.parse "007.seg" ".seg" = some ⟨7⟩ := by decide +kernel
  have own (id : SegmentId) (finds : World.smallSettings.Finds
      [(.text "7.seg", .regular 0), (.text "12.seg", .regular 1), (.text "007.seg", .regular 2)] id) :
      id = ⟨7⟩ ∨ id = ⟨12⟩ := by
    obtain ⟨name, node, member, spells⟩ := finds
    have parsed : SegmentId.parse name ".seg" = some id := SegmentId.parse_eq_some_iff.mpr spells
    simp only [List.mem_cons, Prod.mk.injEq, FileName.text.injEq, List.not_mem_nil,
      or_false] at member
    rcases member with ⟨rfl, _⟩ | ⟨rfl, _⟩ | ⟨rfl, _⟩
    · exact .inl (Option.some.inj (parsed.symm.trans seven))
    · exact .inr (Option.some.inj (parsed.symm.trans twelve))
    · exact .inl (Option.some.inj (parsed.symm.trans padded))
  obtain ⟨layout, log, after, _, opened, _, reads⟩ :=
    (opens_discovered (by decide) orderly recovers listed).2
      ⟨⟨7⟩, "7.seg", 0, by simp, SegmentId.parse_eq_some_iff.mp seven⟩ (by
        intro id finds
        rcases own id finds with rfl | rfl
        · exact ⟨0, by decide +kernel⟩
        · exact ⟨1, by decide +kernel⟩)
  exact ⟨layout, log, after, opened,
    reads "7.seg" 0 ⟨7⟩ (by decide) (SegmentId.parse_eq_some_iff.mp seven) (by decide),
    reads "12.seg" 1 ⟨12⟩ (by decide) (SegmentId.parse_eq_some_iff.mp twelve) (by decide)⟩

/-- A log of one file, with zeros in front of its number. -/
def zerosStorage : Storage :=
  (Storage.empty.putFile ⟨"wal/007.seg"⟩ (Chunk.bytes ⟨.full, [1, 2, 3]⟩).toArray).2

/-- The segment of that file is discovered, and then there is no file to open. -/
theorem discovered_not_opened :
    World.smallSettings.fault = none ∧
      World.smallSettings.discover zerosStorage = .ok [⟨7⟩] ∧
        ((openDirectory World.smallSettings zerosStorage).1.map fun log => log.ids) =
          .error (.storage .notFound) := by
  decide +kernel

end Log

end RecordLog
