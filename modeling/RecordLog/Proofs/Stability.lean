import RecordLog.Proofs.Appending
import RecordLog.Proofs.History

/-!
# Recovering again

A recovery succeeds on whatever bytes there are unless the storage refuses to
cut the file, and cuts it where a survey of it ends. The way of that survey lies
within what is left, so a second recovery goes the same way, comes to the end of
the file, and changes nothing.
A log that is opened again finds the same segments under the same names, the
newest of them recovered; or it finds the file that the first opening created,
which is empty, or misses it if its name is not that of a segment, and then
fails to create it once more. So as long as nothing is written, leaving a log
and opening it again changes no file.
-/

namespace RecordLog

/-! ## Surveys that come to the end -/

/-- A survey of some bytes comes to their end. -/
def Layout.Untorn (layout : Layout) (bytes : List UInt8) : Prop :=
  ∃ last regions, Image.Passes (.ofBytes layout bytes) 0 last regions ∧ bytes.length ≤ last

namespace Image

variable {layout : Layout} {bytes : List UInt8} {last : Nat} {regions ending : List Region}

/-- A survey ends where the bytes end, or finds a torn tail before. -/
theorem Ends.eq_of_passes (ends : Ends (ofBytes layout bytes) last ending)
    (way : Passes (ofBytes layout bytes) 0 last regions) :
    ending = if last < bytes.length then [.tail last] else [] := by
  have aligned := layout.align_of_not_inPadding (way.inPadding_last layout.inPadding_zero)
  cases ends with
  | clean ended =>
      rw [layout_ofBytes, size_ofBytes, aligned] at ended
      rw [if_neg (by omega)]
  | torn inside _ _ =>
      rw [layout_ofBytes, size_ofBytes, aligned] at inside
      rw [if_pos inside]

theorem ends_of_length_le (reached : bytes.length ≤ last) :
    Ends (ofBytes layout bytes) last [] := by
  refine .clean (Nat.le_trans ?_ (layout.le_align last))
  rwa [size_ofBytes]

/-- The way of a survey is gone again over what it passed. -/
theorem Passes.again (way : Passes (ofBytes layout bytes) 0 last regions) :
    Passes (ofBytes layout (bytes.take last)) 0 last regions := by
  by_cases inside : last ≤ bytes.length
  · refine way.shrink (.ofBytes (List.take_prefix last bytes)) rfl ?_
    rw [size_ofBytes, List.length_take, Nat.min_eq_left inside]
  · rwa [List.take_of_length_le (by omega)]

/-- What a survey passed is not torn. -/
theorem Passes.untorn (way : Passes (ofBytes layout bytes) 0 last regions) :
    layout.Untorn (bytes.take last) :=
  ⟨last, regions, way.again, by rw [List.length_take]; exact Nat.min_le_left _ _⟩

end Image

theorem Layout.untorn_nil (layout : Layout) : layout.Untorn [] :=
  ⟨0, [], .here, Nat.le_refl 0⟩

/-- Cutting an open file keeps a beginning of it. -/
theorem Storage.content_truncate {storage : Storage} (truncates : storage.Truncates)
    {handle : Handle} {length : Nat} (inside : length ≤ (storage.content handle).size) :
    ((storage.truncate handle length).2.content handle).toList =
      (storage.content handle).toList.take length := by
  have cut := truncate_eq truncates handle length
  cases found : storage.nodeOf? handle with
  | none =>
      have same : (storage.truncate handle length).2 = storage := by
        rw [cut]
        simp only [modifyOpen, found]
      have empty : storage.content handle = #[] := by
        rw [content, found, Option.elim_none]
      rw [same, empty, List.take_nil]
  | some node =>
      rw [content_eq_nodeBytes found] at inside ⊢
      by_cases inRange : node < storage.nodes.size
      · rcases truncate_cases found inRange length with ⟨_, _, fault⟩ | ⟨_, _, outcome, rewrites, _⟩
        · exact absurd truncates.resizes fault
        · rw [outcome, content_eq_nodeBytes (rewrites.nodeOf?_eq found), rewrites.bytes_eq,
            Content.toList_resize inside]
      · have gone : storage.nodes.size ≤ node := Nat.le_of_not_lt inRange
        have still : (storage.truncate handle length).2.nodeOf? handle = some node := by
          rw [cut, nodeOf?_modifyOpen, nodeOf?_modifyOpen, found]
        have bytes_eq : (storage.truncate handle length).2.nodeBytes node = #[] := by
          rw [cut, nodeBytes, Array.getElem?_eq_none (by simpa [size_modifyOpen] using gone)]
          rfl
        have empty : storage.nodeBytes node = #[] := by
          simp [nodeBytes, gone]
        rw [content_eq_nodeBytes still, bytes_eq, empty, List.take_nil]

/-! ## Recovering a segment twice -/

/-- What it comes to that a segment is recovered, and then again: a check says
before what the recovery answers, which cuts off an end of the file at the
most. The second recovery finds the same records and one damage less if the end
was cut, and changes nothing. -/
structure Segment.Settles (segment : Segment) (storage : Storage) (report : Report)
    (recovered : Segment) (after : Storage) (again : Report) : Prop where
  verify_eq : segment.verify storage = .ok report
  recover_eq : segment.recover storage = (.ok report, recovered, after)
  content_prefix : (after.content segment.handle).toList <+: (storage.content segment.handle).toList
  handle_eq : recovered.handle = segment.handle
  size_eq : (after.content recovered.handle).size = recovered.size
  recover_again_eq : recovered.recover after = (.ok again, recovered, after)
  recovered_eq : again.recovered = report.recovered
  validLength_eq : again.validLength = report.validLength
  corrupted_eq : again.corrupted + (if report.truncated then 1 else 0) = report.corrupted
  truncated_eq : again.truncated = false

namespace Segment

variable {segment : Segment} {storage : Storage} {last : Nat} {regions : List Region}

/-- A segment whose file is not torn is recovered without any change. -/
theorem recover_of_untorn (usable : segment.isUsable = true)
    (complete : (storage.content segment.handle).size = segment.size)
    (way : Image.Passes (.ofBytes segment.layout (storage.content segment.handle).toList) 0 last
      regions)
    (reached : segment.size ≤ last) :
    segment.recover storage = (.ok (.ofRegions segment.size regions), segment, storage) := by
  have ends : Image.Ends (.ofBytes segment.layout (storage.content segment.handle).toList) last
      [] := by
    apply Image.ends_of_length_le
    rwa [Array.length_toList, complete]
  rw [recover_eq usable complete way ends, if_neg (Nat.not_lt.mpr reached), List.append_nil]

/-- Any usable segment that knows the length of its file is recovered, if what is
to be cut off can be, and left alone when it is recovered again. -/
theorem exists_settles (usable : segment.isUsable = true)
    (complete : (storage.content segment.handle).size = segment.size) :
    ∃ report, segment.verify storage = .ok report ∧
      ((report.truncated = true → storage.Truncates) →
        ∃ recovered after again, segment.Settles storage report recovered after again) := by
  have isOpen : segment.closed = false := by
    rw [isUsable_eq, Bool.and_eq_true, Bool.not_eq_true', Bool.not_eq_true'] at usable
    exact usable.2
  obtain ⟨last, regions, ending, way, ends⟩ := Image.exists_passes
    (Image.whole_ofBytes segment.layout (storage.content segment.handle).toList) rfl 0
  have verified := verify_of_passes isOpen complete way ends
  have valid := Image.validLength_ofRegions way ends segment.size
  have truncated_eq : (Report.ofRegions segment.size (regions ++ ending)).truncated =
      decide (last < segment.size) := by
    rw [← valid]
    rfl
  have ending_eq := ends.eq_of_passes way
  rw [Array.length_toList, complete] at ending_eq
  refine ⟨_, verified, fun allowed => ?_⟩
  by_cases torn : last < segment.size
  · have truncates := allowed (by rw [truncated_eq, decide_eq_true torn])
    have recovered := recover_of_passes truncates usable complete way ends
    rw [if_pos torn] at recovered ending_eq
    have cut := Storage.content_truncate truncates (Nat.le_of_lt (complete ▸ torn))
    have left : ((storage.truncate segment.handle last).2.content segment.handle).size = last := by
      rw [← Array.length_toList, cut, List.length_take, Array.length_toList, complete]
      exact Nat.min_eq_left (Nat.le_of_lt torn)
    have wayAgain := way.again
    rw [← cut] at wayAgain
    have again : ({ segment with size := last }).recover
        (storage.truncate segment.handle last).2 =
          (.ok (.ofRegions last regions), { segment with size := last },
            (storage.truncate segment.handle last).2) :=
      recover_of_untorn usable left wayAgain (Nat.le_refl last)
    have validAgain := Image.validLength_ofRegions wayAgain
      (Image.ends_of_length_le (by rw [Array.length_toList, left])) last
    rw [List.append_nil] at validAgain
    exact ⟨_, _, _, {
      verify_eq := verified
      recover_eq := recovered
      content_prefix := by
        rw [cut]
        exact List.take_prefix last _
      handle_eq := rfl
      size_eq := left
      recover_again_eq := again
      recovered_eq := by simp [Report.ofRegions, ending_eq, Region.isRecord]
      validLength_eq := validAgain.trans valid.symm
      corrupted_eq := by
        rw [truncated_eq, decide_eq_true torn, if_pos rfl]
        simp [Report.ofRegions, ending_eq, Region.isRecord]
      truncated_eq := by simpa [Report.ofRegions] using Nat.le_of_eq validAgain.symm }⟩
  · have recovered := recover_eq usable complete way ends
    rw [if_neg torn] at recovered ending_eq
    exact ⟨_, _, _, {
      verify_eq := verified
      recover_eq := recovered
      content_prefix := List.prefix_refl _
      handle_eq := rfl
      size_eq := complete
      recover_again_eq := recovered
      recovered_eq := rfl
      validLength_eq := rfl
      corrupted_eq := by
        rw [truncated_eq, decide_eq_false torn, if_neg Bool.false_ne_true, Nat.add_zero]
      truncated_eq := by rw [truncated_eq, decide_eq_false torn] }⟩

end Segment

/-! ## Names without slashes -/

namespace Path

private theorem not_mem_of_mem_splitOn {characters : List Char} :
    ∀ piece ∈ characters.splitOn '/', '/' ∉ piece := by
  induction characters with
  | nil => simp
  | cons first rest ih =>
      rw [List.splitOn_cons_eq_if_modifyHead]
      split
      · simpa using ih
      · rename_i other
        obtain ⟨piece, pieces, split_eq⟩ :=
          List.exists_cons_of_ne_nil (List.splitOn_ne_nil '/' rest)
        rw [split_eq] at ih ⊢
        rw [List.modifyHead_cons]
        intro found member
        rcases List.mem_cons.mp member with here | later
        · rw [here, List.mem_cons]
          rintro (same | inside)
          · exact other (by simp [← same])
          · exact ih piece List.mem_cons_self inside
        · exact ih found (List.mem_cons_of_mem _ later)

theorem slash_not_mem_of_mem_components {path : Path} {component : String}
    (member : component ∈ path.components) : '/' ∉ component.toList := by
  simp only [components, pieces, List.mem_filter, List.mem_map] at member
  obtain ⟨⟨piece, found, rfl⟩, _⟩ := member
  rw [String.toList_ofList]
  exact not_mem_of_mem_splitOn piece found

end Path

/-- No name that is text has a slash in it. -/
def Place.Plain (place : Place) : Prop :=
  ∀ name, .text name ∈ place → '/' ∉ name.toList

namespace Storage

variable {storage after : Storage} {path : Path} {place target : Place}

/-- Following components leads to names without slashes. -/
theorem plain_of_walk {start : Place} {components : List String} (plainStart : start.Plain)
    (plain : ∀ component ∈ components, '/' ∉ component.toList)
    (walked : storage.walk start components = .ok target) : target.Plain := by
  induction components generalizing start with
  | nil =>
      cases walked
      exact plainStart
  | cons component rest ih =>
      obtain ⟨_, onward⟩ := walk_cons_eq_ok_iff.mp walked
      refine ih ?_ (fun other member => plain other (List.mem_cons_of_mem _ member)) onward
      unfold stepInto
      split
      · exact plainStart
      split
      · exact fun name member => plainStart name (List.mem_of_mem_dropLast member)
      · intro name member
        rcases List.mem_append.mp member with before | last
        · exact plainStart name before
        · cases List.mem_singleton.mp last
          exact plain component List.mem_cons_self

theorem plain_of_resolve (resolved : storage.resolve path = .ok place) : place.Plain := by
  unfold resolve at resolved
  split at resolved
  · cases resolved
  · exact plain_of_walk (fun _ member => by cases member)
      (fun _ member => Path.slash_not_mem_of_mem_components member) resolved

/-! ## Names of files -/

/-- A new file adds at most its own name to a directory. -/
theorem mem_namesAt_addFile {name : FileName} {entry : Entry}
    (member : (name, entry) ∈ (storage.addFile target).namesAt place) :
    (name, entry) ∈ storage.namesAt place ∨ name ∈ target := by
  have split_eq : (storage.addFile target).entries =
      storage.entries ++ [(target, .regular storage.nodes.size)] := rfl
  rw [namesAt, split_eq, List.filterMap_append, List.mem_append] at member
  rcases member with before | last
  · exact .inl before
  · obtain ⟨⟨inner, other⟩, single, named⟩ := List.mem_filterMap.mp last
    cases List.mem_singleton.mp single
    simp only at named
    split at named
    · obtain ⟨_, found, same⟩ := Option.map_eq_some_iff.mp named
      cases same
      exact .inr (List.mem_of_getLast? found)
    · cases named

/-- A file that was created is not created again. -/
theorem createFile_again {handle : Handle} (created : storage.createFile path = (.ok handle, after))
    {later : Storage} (entries_eq : later.entries = after.entries) :
    later.createFile path = (.error .alreadyExists, later) := by
  rcases storage.createFile_cases path with ⟨cause, failed⟩ |
    ⟨place, resolved, noDots, noSlash, _, succeeded⟩
  · rw [failed] at created
    cases created
  rw [succeeded] at created
  cases created
  have resolvedLater : later.resolve path = .ok place := by
    have opened := (storage.addFile place).keeps_openNode storage.nodes.size
    rw [resolve_congr entries_eq, resolve_congr opened.entries_eq]
    exact resolve_addFile resolved
  have there : ∃ entry, later.entryAt place = some entry := by
    rw [entryAt, entries_eq]
    exact Option.isSome_iff_exists.mp
      (by simp [openNode, addFile, addEntry, List.lookup_append, List.lookup_cons_self])
  obtain ⟨entry, there⟩ := there
  simp only [createFile, resolvedLater, noDots, noSlash, there, Bool.false_eq_true, if_false]

end Storage

/-! ## Discovery -/

/-- Only a name with a slash has an extension with one. -/
theorem SegmentId.parse_eq_none_of_slash {name extension : String}
    (slash : '/' ∈ extension.toList) (plain : '/' ∉ name.toList) : parse name extension = none := by
  have stem : stem? name.toList extension.toList = none := by
    rw [stem?, if_neg]
    intro isSuffix
    exact plain ((List.isSuffixOf_iff_suffix.mp isSuffix).subset slash)
  rw [parse, stem]

namespace Config

variable {config : Config} {storage after : Storage} {ids : List SegmentId}

theorem discover_eq_ok_iff :
    config.discover storage = .ok ids ↔
      ∃ place, storage.resolve ⟨config.directory⟩ = .ok place ∧
        storage.entryAt place = some .directory ∧
          ids = SegmentId.sort ((storage.namesAt place).filterMap config.segmentId?) := by
  unfold discover Storage.readDirectory
  constructor
  · intro found
    split at found
    · cases found
    rename_i listed
    split at listed
    · cases listed
    rename_i place resolved
    split at listed
    · cases listed
    · cases listed
    rename_i isDirectory
    cases listed
    cases found
    exact ⟨place, resolved, isDirectory, rfl⟩
  · rintro ⟨place, resolved, isDirectory, rfl⟩
    simp only [resolved, isDirectory]

theorem discover_congr (entries_eq : after.entries = storage.entries) :
    config.discover after = config.discover storage := by
  simp only [discover, Storage.readDirectory, Storage.resolve_congr entries_eq,
    Storage.entryAt_congr entries_eq, Storage.namesAt, entries_eq]

/-- Where there was no segment, the file created for the first one is discovered
as that, or not at all. -/
theorem discover_created {handle : Handle} (nothing : config.discover storage = .ok [])
    (created : storage.createFile (config.segmentPath .first) = (.ok handle, after)) :
    config.discover after = .ok [.first] ∨ config.discover after = .ok [] := by
  obtain ⟨place, resolved, isDirectory, sorted⟩ := discover_eq_ok_iff.mp nothing
  have none : (storage.namesAt place).filterMap config.segmentId? = [] := by
    rw [← List.length_eq_zero_iff, ← List.length_mergeSort]
    exact List.length_eq_zero_iff.mpr sorted.symm
  rcases storage.createFile_cases (config.segmentPath .first) with ⟨cause, failed⟩ |
    ⟨target, found, _, _, _, succeeded⟩
  · rw [failed] at created
    cases created
  rw [succeeded] at created
  cases created
  rw [discover_congr ((storage.addFile target).keeps_openNode _).entries_eq]
  have resolvedAfter : (storage.addFile target).resolve ⟨config.directory⟩ = .ok place :=
    Storage.resolve_addFile resolved
  have isDirectoryAfter : (storage.addFile target).entryAt place = some .directory :=
    Storage.entryAt_addEntry isDirectory
  by_cases slash : '/' ∈ config.fileExtension.toList
  · right
    refine discover_eq_ok_iff.mpr ⟨place, resolvedAfter, isDirectoryAfter, ?_⟩
    have stillNone : ((storage.addFile target).namesAt place).filterMap config.segmentId? = [] := by
      rw [List.filterMap_eq_nil_iff] at none ⊢
      rintro ⟨name, entry⟩ member
      rcases Storage.mem_namesAt_addFile member with before | new
      · exact none _ before
      · unfold segmentId?
        split
        · rename_i same
          cases same
          exact SegmentId.parse_eq_none_of_slash slash (Storage.plain_of_resolve found _ new)
        · rfl
    rw [none] at sorted
    rwa [stillNone]
  · left
    rw [config.resolve_segmentPath (Storage.walk_of_resolve resolved) isDirectory slash] at found
    cases found
    refine discover_eq_ok_iff.mpr ⟨place, resolvedAfter, isDirectoryAfter, ?_⟩
    have named : config.segmentId? (.text (SegmentId.fileName .first config.fileExtension),
        .regular storage.nodes.size) = some .first :=
      SegmentId.parse_fileName (by decide) config.fileExtension
    rw [Storage.namesAt_addFile, List.filterMap_append, none, List.nil_append,
      List.filterMap_cons_some named, List.filterMap_nil]
    exact (SegmentId.sort_upTo 1).symm

end Config

/-! ## Opening segments again -/

variable {layout : Layout} {config : Config} {storage after : Storage} {file : LogFile}
  {segment : Segment} {ids : List SegmentId} {log : Log}

/-- Opening a file gives a segment on it, or fails. Files are kept either way. -/
theorem Segment.openExisting_eq (path : Path) (id : SegmentId) (layout : Layout)
    (storage : Storage) :
    ∃ answer after, Segment.openExisting path id layout storage = (answer, after) ∧
      storage.Keeps after ∧ ∀ segment, answer = .ok segment →
        ∃ node, storage.findFile path = .ok node ∧ Opens layout after ⟨id, node, []⟩ segment := by
  cases found : storage.findFile path with
  | error cause =>
      refine ⟨.error (.storage cause), storage, ?_, .refl storage, ?_⟩
      · rw [openExisting, Storage.openFile, found]
      · rintro _ ⟨⟩
  | ok node =>
      obtain ⟨after, keeps, _, opening⟩ := Segment.openExisting_cases id layout found []
      rcases opening with ⟨cause, failed, _⟩ | ⟨segment, opened, opens⟩
      · exact ⟨_, after, failed, keeps, by rintro _ ⟨⟩⟩
      · refine ⟨_, after, opened, keeps, ?_⟩
        rintro _ ⟨⟩
        exact ⟨node, rfl, opens⟩

/-- A segment was just opened on the file of an id. -/
def Segment.OpensId (config : Config) (layout : Layout) (storage : Storage) (id : SegmentId)
    (segment : Segment) : Prop :=
  ∃ node, storage.findFile (config.segmentPath id) = .ok node ∧
    Opens layout storage ⟨id, node, []⟩ segment

theorem Segment.OpensId.keeps {id : SegmentId} (opens : OpensId config layout storage id segment)
    (keeps : storage.Keeps after) : OpensId config layout after id segment := by
  obtain ⟨node, found, opens⟩ := opens
  exact ⟨node, by rw [Storage.findFile_congr keeps.entries_eq, found], opens.keeps keeps⟩

/-- Opening segments changes no file, and gives one on the file of each id. -/
theorem Segment.openAll_eq (config : Config) (layout : Layout) (ids : List SegmentId)
    (storage : Storage) :
    ∃ answer after, Segment.openAll config layout ids storage = (answer, after) ∧
      storage.Keeps after ∧ ∀ segments, answer = .ok segments →
        List.Forall₂ (OpensId config layout after) ids segments := by
  induction ids generalizing storage with
  | nil =>
      refine ⟨.ok [], storage, rfl, .refl storage, ?_⟩
      rintro _ ⟨⟩
      exact .nil
  | cons id rest ih =>
      obtain ⟨first, middle, opened, keeps, opens⟩ :=
        openExisting_eq (config.segmentPath id) id layout storage
      rw [openAll, opened]
      cases first with
      | error cause => exact ⟨.error cause, middle, rfl, keeps, by rintro _ ⟨⟩⟩
      | ok segment =>
          obtain ⟨answer, after, openedRest, keepsRest, opensRest⟩ := ih middle
          simp only [openedRest]
          cases answer with
          | error cause =>
              exact ⟨.error cause, (segment.close after).2.2, rfl,
                (keeps.trans keepsRest).trans (segment.keeps_close after), by rintro _ ⟨⟩⟩
          | ok segments =>
              refine ⟨.ok (segment :: segments), after, rfl, keeps.trans keepsRest, ?_⟩
              rintro _ ⟨⟩
              obtain ⟨node, found, opens⟩ := opens segment rfl
              have here : OpensId config layout middle id segment :=
                ⟨node, by rw [Storage.findFile_congr keeps.entries_eq, found], opens⟩
              exact .cons (here.keeps keepsRest) (opensRest segments rfl)

/-- A segment on a file that is not torn is recovered without any change. -/
theorem Opens.recover_of_untorn (opens : Opens layout storage file segment)
    (untorn : layout.Untorn (storage.nodeBytes file.node).toList) :
    ∃ report, segment.recover storage = (.ok report, segment, storage) := by
  obtain ⟨last, regions, way, reached⟩ := untorn
  have content_eq := Storage.content_eq_nodeBytes opens.nodeOf?_eq
  rw [← content_eq, ← opens.layout_eq] at way
  have usable : segment.isUsable = true := by
    simp [Segment.isUsable, opens.isOpen, opens.poisoned_eq]
  rw [Array.length_toList, ← opens.size_eq] at reached
  exact ⟨_, Segment.recover_of_untorn usable (by rw [content_eq, opens.size_eq]) way reached⟩

/-- A recovery that succeeds leaves the file of its segment untorn. -/
theorem Opens.untorn_of_recover (opens : Opens layout storage file segment) {report : Report}
    {recovered : Segment} (done : segment.recover storage = (.ok report, recovered, after)) :
    ∃ bytes, storage.Rewrites after file.node bytes ∧ layout.Untorn bytes.toList := by
  by_cases inRange : file.node < storage.nodes.size
  · obtain ⟨last, regions, ending, way, ends⟩ := Image.exists_passes
      (Image.whole_ofBytes layout (storage.nodeBytes file.node).toList) rfl 0
    obtain ⟨_, _, bytes, rewrites, outcome⟩ := opens.recover_cases inRange way ends
    rcases outcome with ⟨cause, failed, _⟩ | ⟨bytes_eq, _, _, _, succeeded⟩
    · rw [failed] at done
      cases done
    · rw [succeeded] at done
      cases done
      exact ⟨bytes, rewrites, bytes_eq ▸ way.untorn⟩
  · have empty : storage.nodeBytes file.node = #[] := by
      simp [Storage.nodeBytes, Nat.le_of_not_lt inRange]
    have untorn : layout.Untorn (storage.nodeBytes file.node).toList := by
      rw [empty]
      exact layout.untorn_nil
    obtain ⟨_, unchanged⟩ := opens.recover_of_untorn untorn
    rw [unchanged] at done
    cases done
    exact ⟨_, (Storage.Keeps.refl storage).rewrites file.node, untorn⟩

/-! ## Opening a log again -/

/-- What opening a log would find can be opened without any change: the newest
segment is not torn, and where there is none, the first cannot be created. -/
structure Config.Recovered (config : Config) (layout : Layout) (storage : Storage)
    (ids : List SegmentId) : Prop where
  newest : ∀ id ∈ ids.eraseDups.getLast?, ∀ node,
    storage.findFile (config.segmentPath id) = .ok node →
      layout.Untorn (storage.nodeBytes node).toList
  nothing : ids = [] → ∃ cause, storage.createFile (config.segmentPath .first) =
    (.error cause, storage)

private theorem exists_eraseDups_eq_concat (first : SegmentId) (rest : List SegmentId) :
    ∃ front last, (first :: rest).eraseDups = front ++ [last] := by
  have nonempty : (first :: rest).eraseDups ≠ [] := by
    rw [List.eraseDups_cons]
    exact List.cons_ne_nil _ _
  exact ⟨_, _, (List.dropLast_concat_getLast nonempty).symm⟩

/-- Where segments are found, they are opened without any change, and the newest
one is resumed. -/
theorem Log.openFound_cases (config : Config) (layout : Layout) {first : SegmentId}
    {rest : List SegmentId} (ascending : (first :: rest).eraseDups.Pairwise fun first second =>
      first.number < second.number) (storage : Storage) :
    ∃ newest middle, (first :: rest).eraseDups.getLast? = some newest ∧ storage.Keeps middle ∧
      ((∃ cause, Log.openFound config layout (first :: rest) storage = (.error cause, middle)) ∨
        ∃ sealed active, Segment.OpensId config layout middle newest active ∧
          Log.openFound config layout (first :: rest) storage =
            Log.resume config layout sealed active middle) := by
  obtain ⟨front, newest, split_eq⟩ := exists_eraseDups_eq_concat first rest
  obtain ⟨answer, middle, opened, keeps, opens⟩ :=
    Segment.openAll_eq config layout (first :: rest).eraseDups storage
  refine ⟨newest, middle, by rw [split_eq, List.getLast?_concat], keeps, ?_⟩
  simp only [openFound_eq ascending, opened]
  cases answer with
  | error cause => exact .inl ⟨cause, rfl⟩
  | ok segments =>
      right
      have related := opens segments rfl
      rw [split_eq] at related
      obtain ⟨sealed, active, rfl, _, opensActive⟩ := exists_concat_of_forall₂ related
      refine ⟨sealed, active, opensActive, ?_⟩
      simp only [List.getLast?_concat, List.dropLast_concat]

theorem Log.keeps_openFound (recovered : config.Recovered layout storage ids)
    (ascending : ids.eraseDups.Pairwise fun first second => first.number < second.number) :
    storage.Keeps (Log.openFound config layout ids storage).2 := by
  cases ids with
  | nil =>
      obtain ⟨cause, failed⟩ := recovered.nothing rfl
      change storage.Keeps (Log.begin config layout storage).2
      simp only [Log.begin, Segment.create, failed]
      exact .refl storage
  | cons first rest =>
      obtain ⟨newest, middle, last, keeps, outcome⟩ :=
        Log.openFound_cases config layout ascending storage
      rcases outcome with ⟨cause, failed⟩ | ⟨sealed, active, ⟨node, found, opens⟩, resumes⟩
      · rw [failed]
        exact keeps
      · have untorn := recovered.newest newest last node
          (by rw [← Storage.findFile_congr keeps.entries_eq, found])
        rw [← keeps.bytes_eq] at untorn
        obtain ⟨report, done⟩ := opens.recover_of_untorn untorn
        rw [resumes, Log.resume]
        simp only [done]
        exact keeps

/-- After a log was opened, opening it again changes no file. -/
def Config.Steady (config : Config) (storage : Storage) : Prop :=
  ∀ after, storage.Keeps after → after.Keeps (Log.openDirectory config after).2

theorem Config.Steady.keeps (steady : config.Steady storage) (keeps : storage.Keeps after) :
    config.Steady after :=
  fun later keepsLater => steady later (keeps.trans keepsLater)

/-- What opening found segments leaves is recovered. -/
theorem Log.recovered_of_openFound (discovered : config.discover storage = .ok ids)
    (opened : Log.openFound config layout ids storage = (.ok log, after)) {later : Storage}
    (keeps : after.Keeps later) :
    ∃ idsLater, config.discover later = .ok idsLater ∧
      config.Recovered layout later idsLater := by
  cases ids with
  | nil =>
      change Log.begin config layout storage = (.ok log, after) at opened
      unfold Log.begin at opened
      split at opened
      · cases opened
      rename_i segment middle made
      cases opened
      obtain ⟨handle, created, rfl⟩ := Segment.create_eq_ok made
      obtain ⟨found, creates⟩ := Storage.findFile_createFile created
      have empty : later.nodeBytes storage.nodes.size = #[] := by
        rw [keeps.bytes_eq, creates.bytes_new]
      rcases Config.discover_created discovered created with first | missed
      · refine ⟨[.first], (Config.discover_congr keeps.entries_eq).trans first, ?_, ?_⟩
        · intro id last node foundLater
          obtain rfl : SegmentId.first = id := Option.some.inj last
          rw [Storage.findFile_congr keeps.entries_eq, found] at foundLater
          cases foundLater
          rw [empty]
          exact layout.untorn_nil
        · rintro ⟨⟩
      · refine ⟨[], (Config.discover_congr keeps.entries_eq).trans missed, ?_, ?_⟩
        · rintro id ⟨⟩
        · intro _
          exact ⟨_, Storage.createFile_again created keeps.entries_eq⟩
  | cons first rest =>
      obtain ⟨newest, middle, newest_eq, keepsMiddle, outcome⟩ :=
        Log.openFound_cases config layout (Config.ascending_of_discover discovered) storage
      rcases outcome with ⟨cause, failed⟩ | ⟨sealed, active, ⟨node, found, opens⟩, resumes⟩
      · rw [failed] at opened
        cases opened
      rw [resumes, Log.resume] at opened
      split at opened
      · cases opened
      rename_i report recovered final done
      cases opened
      obtain ⟨bytes, rewrites, untorn⟩ := opens.untorn_of_recover done
      have entries_eq := keeps.entries_eq.trans rewrites.entries_eq
      refine ⟨first :: rest, ?_, ?_, ?_⟩
      · rw [Config.discover_congr (entries_eq.trans keepsMiddle.entries_eq), discovered]
      · intro id last other foundLater
        rw [newest_eq] at last
        cases last
        rw [Storage.findFile_congr entries_eq, found] at foundLater
        cases foundLater
        rw [keeps.bytes_eq, rewrites.bytes_eq]
        exact untorn
      · rintro ⟨⟩

/-- Once a log could be opened, opening it again changes no file. -/
theorem Config.steady_of_openDirectory
    (opened : Log.openDirectory config storage = (.ok log, after)) : config.Steady after := by
  obtain ⟨layout, middle, ids, sound, laidOut, _, discovered, opened⟩ :=
    Log.openDirectory_eq_ok opened
  intro later keeps
  obtain ⟨idsLater, found, recovered⟩ := Log.recovered_of_openFound discovered opened keeps
  obtain ⟨place, resolved, isDirectory, _⟩ := Config.discover_eq_ok_iff.mp found
  have there := Storage.createDirectory_eq resolved isDirectory
  rw [Log.openDirectory_of_discover sound laidOut there found]
  exact Log.keeps_openFound recovered (Config.ascending_of_discover found)

/-! ## Leaving a log and opening it again -/

/-- An operation that writes nothing, and opens no log but that of some
settings. -/
def Operation.Revisits (config : Config) : Operation → Prop
  | .openLog other => other = config
  | .write _ => False
  | _ => True

namespace World

variable {world : World} {event : Faults × Operation}

theorem keeps_openLog (steady : config.Steady world.storage) :
    world.storage.Keeps (world.openLog config).storage := by
  have keeps := steady world.storage (.refl world.storage)
  unfold openLog
  split <;>
    · rename_i outcome
      rw [outcome] at keeps
      exact keeps

theorem keeps_act (world : World) {action : Log → Storage → Except Failure Unit × Log × Storage}
    (keeps : ∀ log (storage : Storage), storage.Keeps (action log storage).2.2) :
    world.storage.Keeps (world.act action).storage := by
  unfold act
  split
  · exact .refl world.storage
  · rename_i log _
    exact keeps log world.storage

/-- One step that writes nothing changes no file. -/
theorem keeps_step (steady : config.Steady world.storage)
    (revisits : event.2.Revisits config) :
    world.storage.Keeps (world.step event).storage := by
  obtain ⟨faults, operation⟩ := event
  unfold step
  have suffering : world.storage.Keeps
      ({ world with storage := world.storage.suffer faults } : World).storage :=
    world.storage.keeps_suffer faults
  generalize ({ world with storage := world.storage.suffer faults } : World) = suffered
    at suffering
  have dropped := suffering.trans suffered.keeps_dropLog
  cases operation with
  | openLog other =>
      obtain rfl : other = config := revisits
      exact dropped.trans (keeps_openLog (steady.keeps dropped))
  | write payload => exact revisits.elim
  | read position => exact suffering
  | scan id => exact suffering
  | sync => exact suffering.trans (suffered.keeps_act Log.keeps_sync)
  | close => exact suffering.trans (suffered.keeps_act Log.keeps_close)
  | drop => exact dropped

/-- A history that writes nothing changes no file. -/
theorem keeps_run (steady : config.Steady world.storage) {events : List (Faults × Operation)}
    (revisits : ∀ event ∈ events, event.2.Revisits config) :
    world.storage.Keeps (world.run events).storage := by
  induction events using List.reverseRecOn with
  | nil => exact .refl world.storage
  | append_singleton events event ih =>
      have before := ih fun other member => revisits other (List.mem_append_left _ member)
      rw [run_concat]
      exact before.trans (keeps_step (steady.keeps before) (revisits event (by simp)))

end World

/-- A check always succeeds. So does a recovery if what is to be cut off can be; it
says what the check says, leaves a beginning of the file, and has nothing left to
do when it is repeated. So once a log could be opened, whatever is then done to it
but writing, under whatever faults, all files stay as they are when it is closed and
opened again. -/
theorem recovery_settles :
    (∀ (segment : Segment) (storage : Storage), segment.isUsable = true →
      (storage.content segment.handle).size = segment.size →
        ∃ report, segment.verify storage = .ok report ∧
          ((report.truncated = true → storage.Truncates) →
            ∃ recovered after again, segment.Settles storage report recovered after again)) ∧
      ∀ (config : Config) (storage : Storage) (log : Log) (opened : Storage),
        Log.openDirectory config storage = (.ok log, opened) →
          ∀ (acknowledged : List (Position × List UInt8)) (events : List (Faults × Operation)),
            (∀ event ∈ events, event.2.Revisits config) →
              opened.Keeps ((⟨some log, opened, acknowledged⟩ : World).run events).storage := by
  refine ⟨fun segment storage usable complete => Segment.exists_settles usable complete, ?_⟩
  intro config storage log opened succeeded acknowledged events revisits
  have steady : config.Steady (⟨some log, opened, acknowledged⟩ : World).storage :=
    Config.steady_of_openDirectory succeeded
  exact World.keeps_run steady revisits

/-- The storage of a log in which a write was cut short. -/
def World.tornStorage : Storage :=
  ((World.start vacantStorage).run
    [(.none, .openLog smallSettings), (.none, .write [1, 2, 3]),
      ({ Faults.none with growthLimit := some 12 }, .write [4, 5, 6]), (.none, .drop)]).storage

theorem recovery_settles_of_torn :
    (∃ report recovered after again,
      (Segment.ofHandle ⟨"wal/1.seg"⟩ .first ⟨64, by decide, by decide⟩ (World.tornStorage.openNode 0).1
          12).Settles (World.tornStorage.openNode 0).2 report recovered after again ∧
        report.truncated = true) ∧
      ∃ log opened, Log.openDirectory World.smallSettings World.tornStorage = (.ok log, opened) ∧
        World.tornStorage.sizeOf ⟨"wal/1.seg"⟩ = .ok 12 ∧ opened.sizeOf ⟨"wal/1.seg"⟩ = .ok 10 ∧
          opened.Keeps ((⟨some log, opened, []⟩ : World).run
            [(.none, .close), (.none, .openLog World.smallSettings)]).storage := by
  constructor
  · obtain ⟨report, _, recovers⟩ := recovery_settles.1
      (Segment.ofHandle ⟨"wal/1.seg"⟩ .first ⟨64, by decide, by decide⟩
        (World.tornStorage.openNode 0).1 12)
      (World.tornStorage.openNode 0).2 rfl (by decide +kernel)
    obtain ⟨recovered, after, again, settles⟩ :=
      recovers fun _ => ⟨by decide +kernel, by decide +kernel⟩
    have truncated : ((Segment.ofHandle ⟨"wal/1.seg"⟩ .first ⟨64, by decide, by decide⟩
        (World.tornStorage.openNode 0).1 12).verify (World.tornStorage.openNode 0).2).map
          Report.truncated = .ok true := by decide +kernel
    rw [settles.verify_eq] at truncated
    exact ⟨report, recovered, after, again, settles, Except.ok.inj truncated⟩
  · have outcome : ((Log.openDirectory World.smallSettings World.tornStorage).1.map fun _ => ()) =
        .ok () := by decide +kernel
    have sizeAfter : (Log.openDirectory World.smallSettings World.tornStorage).2.sizeOf
        ⟨"wal/1.seg"⟩ = .ok 10 := by decide +kernel
    generalize succeeded : Log.openDirectory World.smallSettings World.tornStorage = result
      at outcome sizeAfter
    obtain ⟨answer, opened⟩ := result
    cases answer with
    | error cause => cases outcome
    | ok log =>
        refine ⟨log, opened, rfl, by decide +kernel, sizeAfter, ?_⟩
        apply recovery_settles.2 World.smallSettings World.tornStorage log opened succeeded
        intro event member
        simp only [List.mem_cons, List.not_mem_nil, or_false] at member
        rcases member with rfl | rfl
        · exact trivial
        · exact rfl

end RecordLog
