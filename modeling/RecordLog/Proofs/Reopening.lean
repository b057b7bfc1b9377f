import RecordLog.Proofs.History
import RecordLog.Proofs.Rescan

/-!
# Opening a log again

A log that is opened again sees its files in their whole length, and recovers
the newest of them. What a segment was scanned for before is scanned again as
long as no write failed part-way in it. The remains of such a write lie past the
size that the segment remembered. In a sealed segment they are met by the next
scan, unless they are nothing but padding; in the newest they are cut off,
unless the search of the recovery finds a record in them. The newest file is that
of the active segment, unless the file of another segment was created that could
not be begun: that one is opened then, and the active segment is sealed.
-/

namespace RecordLog

/-- The discipline that keeps account of sizes alone: a segment that is not
poisoned knows the length of its file. -/
def Discipline.sized (layout : Layout) : Discipline layout where
  Active _ bytes size poisoned _ := size ≤ bytes.length ∧ (poisoned = false → bytes.length = size)
  Sealed _ bytes size poisoned _ := size ≤ bytes.length ∧ (poisoned = false → bytes.length = size)
  Clear _ _ _ := True
  Lossy := True
  fresh := ⟨Nat.le_refl _, fun _ => rfl⟩
  complete active := active.2 rfl
  write payload active := by
    rw [List.length_append, active.2 rfl, layout.length_frame_bytes]
    exact ⟨Nat.le_refl _, fun _ => rfl⟩
  tear part _ active := by
    rw [List.length_append]
    exact ⟨Nat.le_add_right_of_le active.1, fun whole => by cases whole⟩
  retire active := active
  resume _ := ⟨Nat.le_refl _, fun _ => rfl⟩
  recover {_ bytes _ _ _} _ _ := by
    obtain ⟨last, regions, ending, way, ends⟩ :=
      Image.exists_passes (Image.whole_ofBytes layout bytes) rfl 0
    exact ⟨last, regions, ending, way, ends, Nat.le_refl _, fun _ => rfl⟩

/-- Whether opening the log again recovers a segment: the active one, if there is
no file under the next id. -/
def Log.isNewest (log : Log) (storage : Storage) (segment : Segment) : Bool :=
  segment.id = log.active.id && !(storage.findFile (log.config.segmentPath log.nextId)).isOk

/-- Opening the log again finds no more in a segment than some records: in the file
of the one that is recovered a survey finds as many, and behind the size of another
one there is nothing but padding. -/
def Log.Settled (log : Log) (storage : Storage) (segment : Segment) (records : List Record) :
    Prop :=
  if log.isNewest storage segment then
    (Image.ofBytes log.layout (storage.content segment.handle).toList).report.map
      Report.recovered = .ok records.length
  else (storage.content segment.handle).size ≤ log.layout.align segment.size

instance (log : Log) (storage : Storage) (segment : Segment) (records : List Record) :
    Decidable (log.Settled storage segment records) :=
  inferInstanceAs (Decidable
    (if log.isNewest storage segment then
      (Image.ofBytes log.layout (storage.content segment.handle).toList).report.map
        Report.recovered = .ok records.length
    else (storage.content segment.handle).size ≤ log.layout.align segment.size))

/-- Some log is open where another one was before: it gives the same records of
a segment exactly if that was settled, which all segments are that no write
failed in. -/
structure Log.Reopens (log : Log) (storage : Storage) (again : Log) (after : Storage) : Prop where
  isOpen : again.closed = false
  records_eq_iff : ∀ id records, log.records id storage = .ok records →
    ∀ segment ∈ log.segment? id,
      again.records id after = .ok records ↔ log.Settled storage segment records
  settled : ∀ id records, log.records id storage = .ok records →
    ∀ segment ∈ log.segment? id, segment.poisoned = false → log.Settled storage segment records

variable {layout : Layout} {config : Config} {place : Place} {storage after : Storage}
  {front spare older : List LogFile} {newest last file : LogFile} {segment : Segment}
  {log again : Log}
  {records : List Record}

/-- A segment sees a beginning of its file. -/
theorem Serves.grows_whole (serves : Serves layout storage file segment)
    (inFile : segment.size ≤ (file.bytes storage).length) :
    Image.Grows (segment.image storage) (.ofBytes layout (file.bytes storage)) where
  layout_eq := serves.layout_eq.symm
  isOpen_eq := by
    rw [serves.image_eq]
    rfl
  whole := by
    rw [serves.image_eq]
    rwa [LogFile.bytes, Array.length_toList] at inFile
  grownWhole := Image.whole_ofBytes _ _
  begins := by
    rw [serves.image_eq, Image.stored_ofBytes]
    exact List.take_prefix _ _

/-- The records of a segment of an open log. -/
theorem Log.records_of_segment? {id : SegmentId} (isOpen : log.closed = false)
    (found : log.segment? id = some segment) :
    log.records id storage = (segment.image storage).records := by
  rw [Log.records, Log.withSegment, if_neg (by simp [isOpen])]
  simp only [found]

/-- A log that was opened again sees its files in their whole length. -/
theorem Log.Resumes.records_eq {stop : Nat}
    (resumes : Log.Resumes config layout storage older last stop again after)
    (catalog : Catalog config.directory config.fileExtension storage place (older ++ [last]))
    (member : file ∈ older ++ [last]) :
    again.records file.id after = (Image.ofBytes layout (file.bytes after)).records := by
  have related : List.Forall₂ (Opens layout after) (older ++ [last]) again.segments := by
    rw [resumes.formed.segments_eq]
    exact List.rel_append resumes.sealed (.cons resumes.active .nil)
  obtain ⟨segment, found, opens⟩ := resumes.formed.segment?_of_forall₂ catalog.nodup_ids related
    (fun _ _ opens => opens.id_eq) member
  rw [Log.records_of_segment? resumes.isOpen found, opens.image_eq_ofBytes opens.size_eq,
    LogFile.bytes]

namespace Discipline.Serving

/-- What opening the log again recovers is the newest file of an open log, unless
there is a spare one. -/
theorem isNewest_iff
    (catalog : Catalog config.directory config.fileExtension storage place
      (front ++ newest :: spare))
    (serving : (Discipline.sized layout).Serving config storage front newest spare log)
    (keeping : (Discipline.sized layout).Keeping storage file segment) :
    log.isNewest storage segment = true ↔ file.id = newest.id ∧ spare = [] := by
  have nextId_eq := serving.nextId_eq catalog
  have files_eq : front ++ newest :: spare = (front ++ [newest]) ++ spare := by simp
  rw [files_eq] at catalog
  rw [Log.isNewest, keeping.serves.id_eq, serving.serves.id_eq, serving.config_eq, nextId_eq,
    Bool.and_eq_true, decide_eq_true_eq, Bool.not_eq_true']
  refine and_congr_right fun _ => ?_
  match spare, serving.single with
  | [], _ =>
      rw [List.append_nil] at catalog
      exact iff_of_true (by rw [catalog.findFile_next (by simp)]; rfl) rfl
  | [left], _ =>
      have found := catalog.findFile_eq (show left ∈ _ by simp)
      rw [catalog.id_newest] at found
      exact iff_of_false (by rw [found]; simp [Except.isOk, Except.toBool]) (by simp)

/-- A segment that opening the log again does not recover is settled if its file ends
in the padding behind it. -/
theorem settled_iff_of_not_isNewest
    (serving : (Discipline.sized layout).Serving config storage front newest spare log)
    (keeping : (Discipline.sized layout).Keeping storage file segment)
    (sealed : log.isNewest storage segment = false) :
    log.Settled storage segment records ↔
      (file.bytes storage).length ≤ layout.align segment.size := by
  rw [Log.Settled, if_neg (by simp [sealed]), serving.layout_eq,
    Storage.content_eq_nodeBytes keeping.serves.nodeOf?_eq, LogFile.bytes, Array.length_toList]

/-- The segment that it recovers is settled if a survey of its file finds as many
records. -/
theorem settled_iff_of_isNewest
    (serving : (Discipline.sized layout).Serving config storage front newest spare log)
    (keeping : (Discipline.sized layout).Keeping storage file segment)
    (recovered : log.isNewest storage segment = true) {stop : Nat} {regions ending : List Region}
    (way : Image.Passes (.ofBytes layout (file.bytes storage)) 0 stop regions)
    (ends : Image.Ends (.ofBytes layout (file.bytes storage)) stop ending) :
    log.Settled storage segment records ↔ regions.countP Region.isRecord = records.length := by
  have report := Image.report_of_passes (Image.whole_ofBytes _ _) rfl way ends
  have nothing : ending.countP Region.isRecord = 0 := by
    cases ends <;> rfl
  rw [Log.Settled, if_pos recovered, serving.layout_eq,
    Storage.content_eq_nodeBytes keeping.serves.nodeOf?_eq, ← LogFile.bytes, report, Except.map,
    Report.ofRegions, List.countP_append, nothing, Nat.add_zero, Except.ok.injEq]

/-- Of the files of a log the last is recovered when it is opened again, and a segment
is open on it if there is no spare one. -/
theorem mem_split
    (catalog : Catalog config.directory config.fileExtension storage place
      (front ++ newest :: spare))
    (serving : (Discipline.sized layout).Serving config storage front newest spare log)
    (files_eq : front ++ newest :: spare = older ++ [last]) (member : file ∈ front ++ [newest])
    (keeping : (Discipline.sized layout).Keeping storage file segment) :
    file ∈ older ∧ log.isNewest storage segment = false ∨
      file = last ∧ log.isNewest storage segment = true := by
  have recovered := serving.isNewest_iff catalog keeping
  match spare, serving.single with
  | [], _ =>
      obtain ⟨rfl, same⟩ := List.append_inj' files_eq rfl
      obtain rfl := List.singleton_inj.mp same
      rcases List.mem_append.mp member with before | here
      · refine .inl ⟨before, eq_false_of_ne_true fun newest_eq => ?_⟩
        have distinct := catalog.nodup_ids
        rw [List.map_append, List.nodup_append] at distinct
        exact distinct.2.2 file.id (List.mem_map_of_mem before) newest.id (by simp)
          (recovered.mp newest_eq).1
      · obtain rfl := List.mem_singleton.mp here
        exact .inr ⟨rfl, recovered.mpr ⟨rfl, rfl⟩⟩
  | [left], _ =>
      rw [List.append_cons] at files_eq
      obtain ⟨rfl, _⟩ := List.append_inj' files_eq rfl
      exact .inl ⟨member, eq_false_of_ne_true fun newest_eq => by
        cases (recovered.mp newest_eq).2⟩

end Discipline.Serving

/-- A log that is opened again gives the records of every segment that was
settled. -/
theorem Log.Resumes.reopens {before : Storage} {stop : Nat} {regions ending : List Region}
    (catalog : Catalog config.directory config.fileExtension storage place
      (front ++ newest :: spare))
    (serving : (Discipline.sized layout).Serving config storage front newest spare log)
    (files_eq : front ++ newest :: spare = older ++ [last]) (keeps : storage.Keeps before)
    (resumes : Log.Resumes config layout before older last stop again after)
    (way : Image.Passes (.ofBytes layout (last.bytes storage)) 0 stop regions)
    (ends : Image.Ends (.ofBytes layout (last.bytes storage)) stop ending) :
    log.Reopens storage again after := by
  have catalogBefore := catalog.keeps keeps
  rw [files_eq] at catalogBefore
  -- what a segment that is found was scanned for, by its file
  have scanned {id : SegmentId} {records : List Record} {segment : Segment}
      (found : log.records id storage = .ok records)
      (segment_eq : log.segment? id = some segment) :
      ∃ file ∈ front ++ [newest], file.id = id ∧
        (Discipline.sized layout).Keeping storage file segment ∧
          (segment.image storage).records = .ok records := by
    obtain ⟨file, member, keeping⟩ :=
      serving.formed.exists_file_of_segment? serving.related segment_eq
    have id_eq := List.find?_some ((serving.formed.segment?_eq id).symm.trans segment_eq)
    rw [decide_eq_true_eq, keeping.serves.id_eq] at id_eq
    rw [Log.records_of_segment? serving.isOpen segment_eq] at found
    exact ⟨file, member, id_eq, keeping, found⟩
  refine ⟨resumes.isOpen, ?_, ?_⟩
  · intro id records found segment segment_eq
    obtain ⟨file, member, rfl, keeping, scan⟩ := scanned found segment_eq
    have grows := keeping.serves.grows_whole keeping.sealed.1
    have layout_eq : (segment.image storage).layout = layout := grows.layout_eq.symm
    rcases serving.mem_split catalog files_eq member keeping with
      ⟨among, sealed⟩ | ⟨rfl, recovered⟩
    · rw [resumes.records_eq catalogBefore (List.mem_append_left _ among),
        resumes.bytes_eq file among, Discipline.bytes_of_keeps keeps,
        serving.settled_iff_of_not_isNewest keeping sealed, grows.records_eq_iff_size_le scan,
        layout_eq]
      rfl
    · rw [resumes.records_eq catalogBefore (List.mem_append_right _ (List.mem_singleton_self _)),
        resumes.newest_eq, Discipline.bytes_of_keeps keeps,
        serving.settled_iff_of_isNewest keeping recovered way ends]
      rw [← layout_eq] at grows way ends ⊢
      exact grows.records_cut_iff scan way ends
  · intro id records found segment segment_eq unpoisoned
    obtain ⟨file, member, rfl, keeping, scan⟩ := scanned found segment_eq
    have complete := keeping.sealed.2 unpoisoned
    rcases serving.mem_split catalog files_eq member keeping with
      ⟨_, sealed⟩ | ⟨rfl, recovered⟩
    · rw [serving.settled_iff_of_not_isNewest keeping sealed, complete]
      exact layout.le_align segment.size
    · rw [serving.settled_iff_of_isNewest keeping recovered way ends]
      rw [keeping.serves.image_eq_ofBytes (by rw [← complete, LogFile.bytes, Array.length_toList])]
        at scan
      exact Image.countP_of_records (Image.whole_ofBytes _ _) rfl scan way ends

namespace World

variable {world : World} {directory extension : String} {blockSize : Nat}

/-- Closing and dropping a log change no bytes. -/
theorem keeps_leaving (world : World) (faults : Faults) {leaving : Operation}
    (leaves : leaving = .close ∨ leaving = .drop) :
    world.storage.Keeps (world.step (faults, leaving)).storage := by
  have suffering := world.storage.keeps_suffer faults
  rcases leaves with rfl | rfl
  · simp only [step, perform, act]
    split
    · exact suffering
    · rename_i log _
      exact suffering.trans (log.keeps_close _)
  · exact suffering.trans (keeps_dropLog { world with storage := world.storage.suffer faults })

/-- What comes of an open log that is left and opened again. The opening succeeds if
the storage lets files be opened and recovered; and if it succeeds, it gives the
records of all segments that were settled. -/
def Resumable (world : World) (log : Log) (leaving : Operation) (first second : Faults) : Prop :=
  (second.Recovers → ((world.step (first, leaving)).step
      (second, .openLog log.config)).log.isSome = true) ∧
    ∀ again ∈ ((world.step (first, leaving)).step (second, .openLog log.config)).log,
      log.Reopens world.storage again
        ((world.step (first, leaving)).step (second, .openLog log.config)).storage

/-- Where a discipline of sizes is upheld, an open log can be left and opened
again. -/
theorem Upholds.resumable {files : List LogFile}
    (upholds : world.Upholds (.sized layout) (Config.Shares directory extension blockSize)
      directory extension place files)
    (geometry : ∀ other, Layout.ofBlockSize blockSize = .ok other → other = layout)
    (bounded : files.length < SegmentId.bound) (found : world.log = some log)
    (isOpen : log.closed = false) {leaving : Operation}
    (leaves : leaving = .close ∨ leaving = .drop) (first second : Faults) :
    world.Resumable log leaving first second := by
  rcases upholds.serving log found with closed |
    ⟨config, front, newest, spare, shares, rfl, serving⟩
  · rw [isOpen] at closed
    cases closed
  have describes := Config.Shares.describes geometry config shares
  have catalog := upholds.catalog
  rw [← describes.directory_eq, ← describes.extension_eq] at catalog
  obtain ⟨other, laidOut⟩ := config.exists_layout serving.sound
  cases describes.geometry other laidOut
  have nonempty : front ++ newest :: spare ≠ [] := by simp
  obtain ⟨older, last, files_eq⟩ : ∃ older last, front ++ newest :: spare = older ++ [last] :=
    ⟨_, _, (List.dropLast_concat_getLast nonempty).symm⟩
  obtain ⟨stop, regions, ending, way, ends⟩ :=
    Image.exists_passes (Image.whole_ofBytes layout (last.bytes world.storage)) rfl 0
  -- the storage in which the log is opened again
  let suffering := { world.step (first, leaving) with
    storage := (world.step (first, leaving)).storage.suffer second }
  let left := suffering.dropLog
  have keeps : world.storage.Keeps left.storage :=
    ((world.keeps_leaving first leaves).trans
      ((world.step (first, leaving)).storage.keeps_suffer second)).trans suffering.keeps_dropLog
  have refusals_eq : left.storage.toRefusals = second.toRefusals := suffering.toRefusals_dropLog
  have catalogLeft := catalog.keeps keeps
  have wayLeft := way
  have endsLeft := ends
  rw [files_eq] at bounded catalogLeft
  rw [← Discipline.bytes_of_keeps keeps] at wayLeft endsLeft
  have opening := Log.openDirectory_cases serving.sound laidOut catalogLeft bounded wayLeft endsLeft
  have step_eq : (world.step (first, leaving)).step (second, .openLog log.config) =
      left.openLog config := by
    rw [serving.config_eq]
    rfl
  rw [Resumable, step_eq, World.openLog]
  obtain ⟨after, bytes, _, ⟨cause, failed, refused, _⟩ | ⟨again, opened, resumes⟩⟩ := opening
  · rw [refusals_eq] at refused
    rw [failed]
    refine ⟨fun recovers => absurd recovers refused, fun again found => ?_⟩
    rw [show left.log = none from suffering.log_dropLog] at found
    cases found
  · rw [opened]
    refine ⟨fun _ => rfl, ?_⟩
    rintro _ ⟨⟩
    exact resumes.reopens catalog serving files_eq keeps way ends

/-- However a log came to be open, it can be opened again after it was closed or
dropped, unless the storage refuses that; and it gives the records of its settled
segments again. -/
theorem reopens_run {storage : Storage} (empty : storage.readDirectory ⟨directory⟩ = .ok [])
    {events : List (Faults × Operation)}
    (shares : ∀ faults config, (faults, .openLog config) ∈ events →
      config.Shares directory extension blockSize)
    (bounded : events.length < SegmentId.bound) :
    ∀ log ∈ ((start storage).run events).log, log.closed = false →
      ∀ leaving, leaving = .close ∨ leaving = .drop → ∀ first second : Faults,
        ((start storage).run events).Resumable log leaving first second := by
  obtain ⟨layout, geometry⟩ := Layout.exists_geometry blockSize
  obtain ⟨place, files, upholds, short⟩ := upholds_run (.sized layout)
    (Config.Shares.describes geometry) empty shares (fun _ _ => .inr trivial) bounded
    fun _ _ _ _ _ _ _ _ _ _ _ _ _ => trivial
  intro log found isOpen leaving leaves first second
  exact upholds.resumable geometry (Nat.lt_of_le_of_lt short bounded) found isOpen leaves first
    second

/-- A write is cut short, and the next one goes to another segment. -/
def rotatedHistory : List (Faults × Operation) :=
  [(.none, .openLog smallSettings), (.none, .write [1, 2, 3]),
    ({ Faults.none with growthLimit := some 20 }, .write [4, 5, 6, 7, 8]), (.none, .write [9])]

/-- A scan of the first segment is lost with another opening, and one of the
second is kept. -/
theorem rotatedHistory_reopens :
    vacantStorage.readDirectory ⟨"wal"⟩ = .ok [] ∧ rotatedHistory.length < SegmentId.bound ∧
      ∃ log again after, ((start vacantStorage).run rotatedHistory).log = some log ∧
        log.Reopens ((start vacantStorage).run rotatedHistory).storage again after ∧
          again.records ⟨1⟩ after ≠ .ok [⟨0, [1, 2, 3]⟩] ∧
            again.records ⟨2⟩ after = .ok [⟨0, [9]⟩] := by
  have empty : vacantStorage.readDirectory ⟨"wal"⟩ = .ok [] := by decide +kernel
  have bounded : rotatedHistory.length < SegmentId.bound := by decide
  have shares : ∀ faults config, (faults, .openLog config) ∈ rotatedHistory →
      config.Shares "wal" ".seg" 64 := by
    intro faults config member
    have same : faults = .none ∧ config = smallSettings := by simpa [rotatedHistory] using member
    rw [same.2]
    exact ⟨rfl, rfl, rfl⟩
  have serves : ∀ log ∈ ((start vacantStorage).run rotatedHistory).log, log.closed = false ∧
      (log.records ⟨1⟩ ((start vacantStorage).run rotatedHistory).storage = .ok [⟨0, [1, 2, 3]⟩] ∧
        ∃ segment ∈ log.segment? ⟨1⟩,
          ¬ log.Settled ((start vacantStorage).run rotatedHistory).storage segment
            [⟨0, [1, 2, 3]⟩]) ∧
        log.records ⟨2⟩ ((start vacantStorage).run rotatedHistory).storage = .ok [⟨0, [9]⟩] ∧
          ∃ segment ∈ log.segment? ⟨2⟩, segment.poisoned = false := by
    decide +kernel
  have opened : (((start vacantStorage).run rotatedHistory).log).isSome = true := by
    decide +kernel
  obtain ⟨log, found⟩ := Option.isSome_iff_exists.mp opened
  obtain ⟨isOpen, ⟨scanFirst, first, firstFound, unsettled⟩, scanSecond, second, secondFound,
    unpoisoned⟩ := serves log found
  obtain ⟨opens, kept⟩ :=
    reopens_run empty shares bounded log found isOpen .drop (.inr rfl) .none .none
  obtain ⟨again, foundAgain⟩ := Option.isSome_iff_exists.mp (opens Refusals.recovers_none)
  have reopens := kept again foundAgain
  refine ⟨empty, bounded, log, again, _, found, reopens, ?_, ?_⟩
  · exact mt (reopens.records_eq_iff _ _ scanFirst first firstFound).mp unsettled
  · exact (reopens.records_eq_iff _ _ scanSecond second secondFound).mpr
      (reopens.settled _ _ scanSecond second secondFound unpoisoned)

/-- The storage of that log after it was dropped. -/
def rotatedStorage : Storage :=
  (((start vacantStorage).run rotatedHistory).step (.none, .drop)).storage

/-- The names of two segments are put in order, which evaluation does not do. -/
private theorem openDirectory_rotatedStorage :
    Log.openDirectory smallSettings rotatedStorage =
      Log.openFound smallSettings ⟨64, by decide, by decide⟩ (SegmentId.upTo 2) rotatedStorage := by
  have listed : rotatedStorage.readDirectory ⟨smallSettings.directory⟩ =
      .ok [(.text "1.seg", .regular 0), (.text "2.seg", .regular 1)] := by
    decide +kernel
  have discovered : smallSettings.discover rotatedStorage = .ok (SegmentId.upTo 2) :=
    Config.discover_of_names listed (by decide +kernel)
  have resolved : rotatedStorage.resolve ⟨smallSettings.directory⟩ = .ok [.text "wal"] := by
    decide +kernel
  have isDirectory : rotatedStorage.entryAt [.text "wal"] = some .directory := by decide +kernel
  exact Log.openDirectory_of_discover (by decide +kernel) (by decide +kernel)
    (Storage.createDirectory_eq resolved isDirectory) discovered

/-- A write is cut short of the padding behind its record. -/
def unpaddedHistory : List (Faults × Operation) :=
  [(.none, .openLog smallSettings), (.none, .write [1, 2, 3]),
    ({ Faults.none with growthLimit := some 61 }, .write (List.replicate 44 4))]

/-- What a scan of a segment answers. -/
def scanned (world : World) (id : SegmentId) : Option (Except Failure (List Record)) :=
  world.log.map fun log => log.records id world.storage

/-- What it answers when the log was dropped and opened again. -/
def scannedAgain (world : World) (id : SegmentId) : Option (Except Failure (List Record)) :=
  match Log.openDirectory smallSettings (world.step (.none, .drop)).storage with
  | (.ok log, storage) => some (log.records id storage)
  | (.error _, _) => none

/-- Not every list is kept: a sealed segment does not scan any more, and the
active one gives a record that no write acknowledged. -/
theorem unsettled_changes_scan :
    vacantStorage.readDirectory ⟨"wal"⟩ = .ok [] ∧
      (((start vacantStorage).run rotatedHistory).scanned ⟨1⟩ = some (.ok [⟨0, [1, 2, 3]⟩]) ∧
        ((start vacantStorage).run rotatedHistory).scannedAgain ⟨1⟩ =
          some (.error (.truncated 10 12 10))) ∧
        ((start vacantStorage).run unpaddedHistory).scanned ⟨1⟩ = some (.ok [⟨0, [1, 2, 3]⟩]) ∧
          ((start vacantStorage).run unpaddedHistory).scannedAgain ⟨1⟩ =
            some (.ok [⟨0, [1, 2, 3]⟩, ⟨10, List.replicate 44 4⟩]) := by
  refine ⟨by decide +kernel, ⟨by decide +kernel, ?_⟩, by decide +kernel, by decide +kernel⟩
  rw [scannedAgain, ← rotatedStorage, openDirectory_rotatedStorage]
  decide +kernel

end World

end RecordLog
