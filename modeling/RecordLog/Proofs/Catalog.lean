import Mathlib.Data.List.Nodup
import Mathlib.Tactic.ByContra
import RecordLog.Log
import RecordLog.Proofs.Effects
import RecordLog.Proofs.Naming

/-!
# The catalog of a log directory

A log that nothing outside interferes with owns its directory: the names in it
are those of its segment files, numbered from one without gaps, and no two of
them are the same file. Under this invariant a directory is listed, a segment
file found and the next one created as a log expects, and every operation that
keeps names keeps the catalog.
-/

namespace RecordLog

namespace Storage

variable {storage : Storage}

/-! ## Looking up names -/

/-- A place in a directory holds what its name stands for there. -/
theorem entryAt_concat (storage : Storage) (place : Place) (name : FileName) :
    storage.entryAt (place ++ [name]) = (storage.namesAt place).lookup name := by
  unfold entryAt namesAt
  induction storage.entries with
  | nil => rfl
  | cons first rest ih =>
      obtain ⟨inner, entry⟩ := first
      rw [List.lookup_cons, List.filterMap_cons, ih]
      simp only
      by_cases child : inner.dropLast = place
      · rw [if_pos child]
        cases last : inner.getLast? with
        | none =>
            have differs : (place ++ [name] == inner) = false := by
              rw [List.getLast?_eq_none_iff.mp last]
              simp
            rw [differs]
            rfl
        | some other =>
            obtain ⟨front, rfl⟩ := List.getLast?_eq_some_iff.mp last
            rw [List.dropLast_concat] at child
            subst child
            simp only [Option.map_some, List.lookup_cons]
            simp
      · rw [if_neg child]
        have differs : (place ++ [name] == inner) = false := by
          rw [beq_eq_false_iff_ne]
          rintro rfl
          exact child List.dropLast_concat
        rw [differs]

/-- What stands somewhere stays there when an entry is added. -/
theorem entryAt_addEntry {place other : Place} {entry new : Entry}
    (found : storage.entryAt place = some entry) :
    (storage.addEntry other new).entryAt place = some entry := by
  unfold entryAt at found ⊢
  rw [addEntry, List.lookup_append, found]
  rfl

/-- A component can be followed only from a directory. -/
theorem walk_cons_eq_ok_iff {start target : Place} {component : String} {rest : List String} :
    storage.walk start (component :: rest) = .ok target ↔
      storage.entryAt start = some .directory ∧
        storage.walk (stepInto start component) rest = .ok target := by
  rw [walk]
  split <;> simp_all

theorem walk_addEntry {place start target : Place} {new : Entry} {components : List String}
    (walked : storage.walk start components = .ok target) :
    (storage.addEntry place new).walk start components = .ok target := by
  induction components generalizing start with
  | nil => exact walked
  | cons component rest ih =>
      obtain ⟨isDirectory, onward⟩ := walk_cons_eq_ok_iff.mp walked
      exact walk_cons_eq_ok_iff.mpr ⟨entryAt_addEntry isDirectory, ih onward⟩

/-- What stands somewhere depends on the names alone. -/
theorem entryAt_congr {after : Storage} (entries_eq : after.entries = storage.entries)
    (place : Place) : after.entryAt place = storage.entryAt place := by
  rw [entryAt, entries_eq, entryAt]

theorem walk_congr {after : Storage} (entries_eq : after.entries = storage.entries) (start : Place)
    (components : List String) : after.walk start components = storage.walk start components := by
  induction components generalizing start with
  | nil => rfl
  | cons component rest ih => rw [walk, walk, entryAt_congr entries_eq start, ih]

theorem walk_addFile {place start target : Place} {components : List String}
    (walked : storage.walk start components = .ok target) :
    (storage.addFile place).walk start components = .ok target := by
  have same : (storage.addFile place).entries =
      (storage.addEntry place (.regular storage.nodes.size)).entries := rfl
  rw [walk_congr same]
  exact walk_addEntry walked

/-- A path leads where its components do. -/
theorem walk_of_resolve {path : Path} {place : Place}
    (resolved : storage.resolve path = .ok place) :
    storage.walk [] path.components = .ok place := by
  unfold resolve at resolved
  split at resolved
  · cases resolved
  · exact resolved

theorem resolve_congr {after : Storage} (entries_eq : after.entries = storage.entries)
    (path : Path) : after.resolve path = storage.resolve path := by
  rw [resolve, walk_congr entries_eq, resolve]

theorem resolve_addFile {path : Path} {place target : Place}
    (resolved : storage.resolve path = .ok place) :
    (storage.addFile target).resolve path = .ok place := by
  unfold resolve at resolved ⊢
  split at resolved
  · cases resolved
  · rename_i named
    rw [if_neg named]
    exact walk_addFile resolved

theorem walk_append {start middle : Place} {front back : List String}
    (walked : storage.walk start front = .ok middle) :
    storage.walk start (front ++ back) = storage.walk middle back := by
  induction front generalizing start with
  | nil =>
      cases walked
      rfl
  | cons component rest ih =>
      obtain ⟨isDirectory, onward⟩ := walk_cons_eq_ok_iff.mp walked
      rw [List.cons_append, walk, isDirectory]
      exact ih onward

/-- Following a path into a directory leads on from its place. -/
theorem resolve_join {directory : Path} {place : Place}
    (walked : storage.walk [] directory.components = .ok place) {name : String}
    (nonempty : (⟨name⟩ : Path).components ≠ []) :
    storage.resolve (directory.join name) = storage.walk place (⟨name⟩ : Path).components := by
  have components := directory.components_join name
  have text_ne : (directory.join name).text ≠ "" := by
    intro empty
    have none : (directory.join name).components = [] := by
      simp [Path.components, Path.pieces, empty]
    rw [none] at components
    exact nonempty (List.append_eq_nil_iff.mp components.symm).2
  rw [resolve, if_neg text_ne, components, walk_append walked]

/-- A directory that is there need not be created. -/
theorem createDirectory_eq {path : Path} {place : Place}
    (resolved : storage.resolve path = .ok place)
    (isDirectory : storage.entryAt place = some .directory) :
    storage.createDirectory path = (.ok (), storage) := by
  have found : storage.isDirectory path = true := by
    simp only [Storage.isDirectory, find, resolved, isDirectory]
  simp only [createDirectory, ensureDirectory, makeDirectory, resolved, isDirectory, found,
    if_true]

/-- A new file is named in its directory after all others. -/
theorem namesAt_addFile (storage : Storage) (place : Place) (name : FileName) :
    (storage.addFile (place ++ [name])).namesAt place =
      storage.namesAt place ++ [(name, .regular storage.nodes.size)] := by
  simp [addFile, addEntry, namesAt]

end Storage

/-- The path of a segment leads to its name in the directory. -/
theorem Config.resolve_segmentPath (config : Config) {storage : Storage} {place : Place}
    (walked : storage.walk [] (⟨config.directory⟩ : Path).components = .ok place)
    (isDirectory : storage.entryAt place = some .directory)
    (plain : '/' ∉ config.fileExtension.toList) (id : SegmentId) :
    storage.resolve (config.segmentPath id) =
      .ok (place ++ [.text (id.fileName config.fileExtension)]) := by
  obtain ⟨nonempty, notDot, notDots⟩ := id.fileName_ne config.fileExtension
  have components := Path.components_eq_singleton nonempty (id.slash_not_mem_fileName plain)
  rw [segmentPath, Storage.resolve_join walked (by simp [components]), components,
    Storage.walk_cons_eq_ok_iff]
  refine ⟨isDirectory, ?_⟩
  rw [Storage.stepInto, if_neg notDot, if_neg notDots, Storage.walk]

/-- The path of a segment asks for no directory. -/
theorem Config.ends_segmentPath (config : Config) (plain : '/' ∉ config.fileExtension.toList)
    (id : SegmentId) :
    (config.segmentPath id).endsWithSlash = false ∧
      (config.segmentPath id).endsWithDots = false := by
  obtain ⟨nonempty, notDot, notDots⟩ := id.fileName_ne config.fileExtension
  have noSlash := id.slash_not_mem_fileName plain
  have components := Path.components_eq_singleton nonempty noSlash
  constructor
  · rw [Config.segmentPath, Path.endsWithSlash_join _ nonempty, Path.endsWithSlash,
      decide_eq_false_iff_not]
    exact fun last => noSlash (List.mem_of_getLast? last)
  · simp [Path.endsWithDots, Path.endsWithDot, Path.endsWithDoubleDot, Config.segmentPath,
      Path.components_join, components, notDot, notDots]

/-! ## Catalogs -/

/-- A segment file of a log, with the records that were acknowledged in it. -/
structure LogFile where
  id : SegmentId
  node : Nat
  records : List Record

/-- The ids from the first one on. -/
def SegmentId.upTo (count : Nat) : List SegmentId :=
  (List.range count).map fun index => ⟨index + 1⟩

/-- What the directory of a log says of a file. -/
def LogFile.listing (extension : String) (file : LogFile) : FileName × Entry :=
  (.text (file.id.fileName extension), .regular file.node)

/-- A directory holds the given segment files and nothing else. -/
structure Catalog (directory extension : String) (storage : Storage) (place : Place)
    (files : List LogFile) : Prop where
  named : directory ≠ ""
  walk_eq : storage.walk [] (⟨directory⟩ : Path).components = .ok place
  isDirectory : storage.entryAt place = some .directory
  names_eq : storage.namesAt place = files.map (LogFile.listing extension)
  ids_eq : files.map LogFile.id = SegmentId.upTo files.length
  nodup : (files.map LogFile.node).Nodup
  inRange : ∀ file ∈ files, file.node < storage.nodes.size
  plain : files ≠ [] → '/' ∉ extension.toList

theorem SegmentId.upTo_succ (count : Nat) :
    SegmentId.upTo (count + 1) = SegmentId.upTo count ++ [⟨count + 1⟩] := by
  simp [upTo, List.range_succ]

theorem SegmentId.nodup_upTo (count : Nat) : (SegmentId.upTo count).Nodup :=
  List.nodup_range.map fun first second same => by simpa using same

private theorem eraseDups_of_nodup {ids : List SegmentId} (distinct : ids.Nodup) :
    ids.eraseDups = ids := by
  induction ids with
  | nil => rfl
  | cons id rest ih =>
      rw [List.nodup_cons] at distinct
      have kept : rest.filter (fun other => !other == id) = rest := by
        rw [List.filter_eq_self]
        intro other member
        simp only [Bool.not_eq_true', beq_eq_false_iff_ne]
        rintro rfl
        exact distinct.1 member
      rw [List.eraseDups_cons, kept, ih distinct.2]

theorem SegmentId.eraseDups_upTo (count : Nat) :
    (SegmentId.upTo count).eraseDups = SegmentId.upTo count :=
  eraseDups_of_nodup (SegmentId.nodup_upTo count)

/-- The ids in a catalog are within the range of ids. -/
theorem SegmentId.number_of_mem_upTo {count : Nat} {id : SegmentId}
    (member : id ∈ SegmentId.upTo count) : 0 < id.number ∧ id.number ≤ count := by
  obtain ⟨index, inRange, rfl⟩ := List.mem_map.mp member
  rw [List.mem_range] at inRange
  exact ⟨Nat.succ_pos index, inRange⟩

theorem SegmentId.pairwise_upTo (count : Nat) :
    (SegmentId.upTo count).Pairwise fun first second => first.number < second.number := by
  unfold upTo
  rw [List.pairwise_map]
  exact List.pairwise_lt_range.imp fun lt => Nat.succ_lt_succ lt

theorem SegmentId.sort_upTo (count : Nat) :
    SegmentId.sort (SegmentId.upTo count) = SegmentId.upTo count := by
  apply List.mergeSort_of_pairwise
  refine (SegmentId.pairwise_upTo count).imp ?_
  intro first second lt
  exact decide_eq_true (Nat.le_of_lt lt)

/-- Once sorted, the ids that are left without repetitions ascend. -/
theorem SegmentId.ascending_eraseDups {ids : List SegmentId}
    (sorted : ids.Pairwise fun left right => left.number ≤ right.number) :
    ids.eraseDups.Pairwise fun left right => left.number < right.number := by
  induction count : ids.length using Nat.strongRecOn generalizing ids with
  | ind count ih =>
  cases ids with
  | nil => exact .nil
  | cons id rest =>
      rw [List.pairwise_cons] at sorted
      rw [List.eraseDups_cons, List.pairwise_cons]
      have shorter := List.length_filter_le (fun other => !other == id) rest
      refine ⟨?_, ih _ (by rw [← count, List.length_cons]; omega) (sorted.2.filter _) rfl⟩
      intro other member
      rw [List.mem_eraseDups, List.mem_filter] at member
      have le := sorted.1 other member.1
      have ne : other ≠ id := by simpa using member.2
      rcases Nat.lt_or_eq_of_le le with lt | same
      · exact lt
      · cases id
        cases other
        exact absurd (congrArg SegmentId.mk same.symm) ne

theorem SegmentId.sorted_sort (ids : List SegmentId) :
    (SegmentId.sort ids).Pairwise fun left right => left.number ≤ right.number := by
  have sorted : (SegmentId.sort ids).Pairwise fun left right =>
      decide (left.number ≤ right.number) = true :=
    List.pairwise_mergeSort (by simp; omega) (by simp; omega) ids
  exact sorted.imp (by simp)

/-- Discovery answers the ids that the names denote. -/
theorem Config.discover_of_names {config : Config} {storage : Storage}
    {names : List (FileName × Entry)} {count : Nat}
    (listed : storage.readDirectory ⟨config.directory⟩ = .ok names)
    (named : names.filterMap config.segmentId? = SegmentId.upTo count) :
    config.discover storage = .ok (SegmentId.upTo count) := by
  rw [Config.discover, listed]
  simp only
  rw [named, SegmentId.sort_upTo]

namespace Catalog

variable {config : Config} {storage after : Storage} {place : Place} {files : List LogFile}

/-- Where the names and the number of files are the same, so is the catalog. -/
theorem transfer {directory extension : String}
    (catalog : Catalog directory extension storage place files)
    (entries_eq : after.entries = storage.entries)
    (size_eq : after.nodes.size = storage.nodes.size) :
    Catalog directory extension after place files where
  named := catalog.named
  walk_eq := (Storage.walk_congr entries_eq _ _).trans catalog.walk_eq
  isDirectory := by
    rw [Storage.entryAt, entries_eq]
    exact catalog.isDirectory
  names_eq := by
    rw [Storage.namesAt, entries_eq]
    exact catalog.names_eq
  ids_eq := catalog.ids_eq
  nodup := catalog.nodup
  inRange file member := by
    rw [size_eq]
    exact catalog.inRange file member
  plain := catalog.plain

theorem keeps {directory extension : String}
    (catalog : Catalog directory extension storage place files)
    (keeps : storage.Keeps after) : Catalog directory extension after place files :=
  catalog.transfer keeps.entries_eq keeps.size_eq

theorem rewrites {directory extension : String}
    (catalog : Catalog directory extension storage place files) {node : Nat} {bytes : Content}
    (rewrites : storage.Rewrites after node bytes) :
    Catalog directory extension after place files :=
  catalog.transfer rewrites.entries_eq rewrites.size_eq

/-- A catalog does not depend on the records in a file. -/
theorem relabel {directory extension : String} {front back : List LogFile} {file : LogFile}
    (catalog : Catalog directory extension storage place (front ++ file :: back))
    (records : List Record) :
    Catalog directory extension storage place (front ++ { file with records } :: back) where
  named := catalog.named
  walk_eq := catalog.walk_eq
  isDirectory := catalog.isDirectory
  names_eq := by simpa [LogFile.listing] using catalog.names_eq
  ids_eq := by simpa using catalog.ids_eq
  nodup := by simpa using catalog.nodup
  inRange other member := by
    rcases List.mem_append.mp member with older | others
    · exact catalog.inRange other (List.mem_append_left _ older)
    · rcases List.mem_cons.mp others with rfl | newer
      · exact catalog.inRange file (by simp)
      · exact catalog.inRange other (by simp [newer])
  plain _ := catalog.plain (by simp)

theorem id_mem_upTo {directory extension : String}
    (catalog : Catalog directory extension storage place files) {file : LogFile}
    (member : file ∈ files) : file.id ∈ SegmentId.upTo files.length := by
  rw [← catalog.ids_eq]
  exact List.mem_map_of_mem member

/-! ## Listing -/

theorem resolve_eq (catalog : Catalog config.directory config.fileExtension storage place files) :
    storage.resolve ⟨config.directory⟩ = .ok place := by
  rw [Storage.resolve, if_neg catalog.named, catalog.walk_eq]

/-- The directory is there already. -/
theorem createDirectory_eq
    (catalog : Catalog config.directory config.fileExtension storage place files) :
    storage.createDirectory ⟨config.directory⟩ = (.ok (), storage) :=
  Storage.createDirectory_eq catalog.resolve_eq catalog.isDirectory

/-- Discovery answers the ids of the catalog. -/
theorem discover_eq (catalog : Catalog config.directory config.fileExtension storage place files)
    (bounded : files.length < SegmentId.bound) :
    config.discover storage = .ok (SegmentId.upTo files.length) := by
  have listed : storage.readDirectory ⟨config.directory⟩ =
      .ok (files.map (LogFile.listing config.fileExtension)) := by
    simp only [Storage.readDirectory, catalog.resolve_eq, catalog.isDirectory, catalog.names_eq]
  have ids : (files.map (LogFile.listing config.fileExtension)).filterMap config.segmentId? =
      files.map LogFile.id := by
    rw [List.filterMap_map, ← List.filterMap_eq_map]
    apply List.filterMap_congr
    intro file member
    have := SegmentId.number_of_mem_upTo (catalog.id_mem_upTo member)
    exact SegmentId.parse_fileName (by omega) config.fileExtension
  exact Config.discover_of_names listed (ids.trans catalog.ids_eq)

/-! ## Finding and creating files -/

/-- Following a path into the directory leads on from its place. -/
theorem resolve_join (catalog : Catalog config.directory config.fileExtension storage place files)
    {name : String} (nonempty : (⟨name⟩ : Path).components ≠ []) :
    storage.resolve (Path.join ⟨config.directory⟩ name) =
      storage.walk place (⟨name⟩ : Path).components :=
  Storage.resolve_join catalog.walk_eq nonempty

/-- The path of a segment leads to its name in the directory. -/
theorem resolve_segmentPath
    (catalog : Catalog config.directory config.fileExtension storage place files)
    (plain : '/' ∉ config.fileExtension.toList) (id : SegmentId) :
    storage.resolve (config.segmentPath id) =
        .ok (place ++ [.text (id.fileName config.fileExtension)]) ∧
      (config.segmentPath id).endsWithSlash = false ∧
        (config.segmentPath id).endsWithDots = false :=
  ⟨config.resolve_segmentPath catalog.walk_eq catalog.isDirectory plain id,
    config.ends_segmentPath plain id⟩

/-- The files of the catalog are found under their names. -/
theorem findFile_eq (catalog : Catalog config.directory config.fileExtension storage place files)
    {file : LogFile} (member : file ∈ files) :
    storage.findFile (config.segmentPath file.id) = .ok file.node := by
  obtain ⟨resolved, noSlash, noDots⟩ :=
    catalog.resolve_segmentPath (catalog.plain (List.ne_nil_of_mem member)) file.id
  have entry : storage.entryAt (place ++ [.text (file.id.fileName config.fileExtension)]) =
      some (.regular file.node) := by
    rw [Storage.entryAt_concat, catalog.names_eq]
    obtain ⟨front, back, split_eq⟩ := List.append_of_mem member
    rw [List.lookup_eq_some_iff]
    refine ⟨front.map (LogFile.listing config.fileExtension),
      back.map (LogFile.listing config.fileExtension), by simp [split_eq, LogFile.listing], ?_⟩
    intro listing earlier
    obtain ⟨other, found, rfl⟩ := List.mem_map.mp earlier
    have distinct : (files.map LogFile.id).Nodup := by
      rw [catalog.ids_eq]
      exact SegmentId.nodup_upTo files.length
    rw [split_eq, List.map_append, List.map_cons, List.nodup_append] at distinct
    have ne := distinct.2.2 other.id (List.mem_map_of_mem found) file.id (by simp)
    simp only [LogFile.listing, bne_iff_ne, ne_eq, FileName.text.injEq]
    exact fun same => ne (SegmentId.fileName_inj same).symm
  simp only [Storage.findFile, Storage.find, resolved, entry, Path.namesDirectory, noSlash, noDots,
    Bool.or_self, Bool.false_eq_true, if_false]

/-- The name after those of the catalog is free. -/
theorem entryAt_next (catalog : Catalog config.directory config.fileExtension storage place files) :
    storage.entryAt (place ++
      [.text ((⟨files.length + 1⟩ : SegmentId).fileName config.fileExtension)]) = none := by
  rw [Storage.entryAt_concat, catalog.names_eq, List.lookup_eq_none_iff]
  intro listing member
  obtain ⟨file, found, rfl⟩ := List.mem_map.mp member
  have bounds := SegmentId.number_of_mem_upTo (catalog.id_mem_upTo found)
  simp only [LogFile.listing, bne_iff_ne, ne_eq, FileName.text.injEq]
  intro same
  rw [← SegmentId.fileName_inj same] at bounds
  simp only at bounds
  omega

/-- No file is found under the id after those of the catalog. -/
theorem findFile_next (catalog : Catalog config.directory config.fileExtension storage place files)
    (nonempty : files ≠ []) :
    storage.findFile (config.segmentPath ⟨files.length + 1⟩) = .error .notFound := by
  obtain ⟨resolved, _⟩ :=
    catalog.resolve_segmentPath (catalog.plain nonempty) ⟨files.length + 1⟩
  simp only [Storage.findFile, Storage.find, resolved, catalog.entryAt_next]

/-- The catalog after the next file was created. -/
theorem addFile (catalog : Catalog config.directory config.fileExtension storage place files)
    (plain : '/' ∉ config.fileExtension.toList) :
    Catalog config.directory config.fileExtension
      (storage.addFile (place ++
        [.text ((⟨files.length + 1⟩ : SegmentId).fileName config.fileExtension)])) place
      (files ++ [⟨⟨files.length + 1⟩, storage.nodes.size, []⟩]) where
  named := catalog.named
  walk_eq := Storage.walk_addFile catalog.walk_eq
  isDirectory := Storage.entryAt_addEntry catalog.isDirectory
  names_eq := by
    rw [Storage.namesAt_addFile, catalog.names_eq]
    simp [LogFile.listing]
  ids_eq := by
    rw [List.map_append, catalog.ids_eq, List.length_append, List.length_singleton,
      SegmentId.upTo_succ]
    rfl
  nodup := by
    rw [List.map_append, List.nodup_append]
    refine ⟨catalog.nodup, by simp, ?_⟩
    intro node member other last
    obtain ⟨file, found, rfl⟩ := List.mem_map.mp member
    have := catalog.inRange file found
    simp only [List.map_cons, List.map_nil, List.mem_singleton] at last
    omega
  inRange file member := by
    simp only [Storage.addFile, Storage.addEntry, Array.size_push]
    rcases List.mem_append.mp member with older | newest
    · have := catalog.inRange file older
      omega
    · rw [List.mem_singleton.mp newest]
      exact Nat.lt_succ_self _
  plain _ := plain

/-- With a slash in the extension the first file of a log cannot be created:
its path leads below a directory that is not there, or names a directory. -/
theorem createFile_of_slash
    (catalog : Catalog config.directory config.fileExtension storage place [])
    (slash : '/' ∈ config.fileExtension.toList) (id : SegmentId) :
    ∃ cause, storage.createFile (config.segmentPath id) = (.error cause, storage) := by
  rcases storage.createFile_cases (config.segmentPath id) with
    failed | ⟨target, resolved, _, noSlash, _⟩
  · exact failed
  obtain ⟨front, back, extension_eq, plain⟩ := List.eq_append_cons_of_mem slash
  obtain ⟨digit, rest, isDigit, digits⟩ := SegmentId.exists_toDigits_eq_cons id.number
  have name_eq : (id.fileName config.fileExtension).toList =
      (Nat.toDigits 10 id.number ++ front) ++ '/' :: back := by
    rw [SegmentId.toList_fileName, extension_eq, List.append_assoc]
  have plainFront : '/' ∉ Nat.toDigits 10 id.number ++ front := by
    rw [List.mem_append]
    rintro (digit | slash)
    · exact SegmentId.slash_not_mem_toDigits _ digit
    · exact plain slash
  have components := Path.components_eq_cons name_eq plainFront (by simp [digits])
  have first_ne : String.ofList (Nat.toDigits 10 id.number ++ front) ≠ "" ∧
      String.ofList (Nat.toDigits 10 id.number ++ front) ≠ "." ∧
        String.ofList (Nat.toDigits 10 id.number ++ front) ≠ ".." :=
    SegmentId.ne_dots_of_isDigit isDigit (by simp [digits])
  rw [Config.segmentPath, catalog.resolve_join (by simp [components]), components,
    Storage.walk_cons_eq_ok_iff, Storage.stepInto, if_neg first_ne.2.1, if_neg first_ne.2.2]
    at resolved
  cases below : (⟨String.ofList back⟩ : Path).components with
  | nil =>
      -- nothing but slashes follows, so the path ends with one
      have slashes := Path.eq_slash_of_components_eq_nil below
      rw [Config.segmentPath, Path.endsWithSlash_join _ (id.fileName_ne _).1, Path.endsWithSlash,
        name_eq] at noSlash
      simp only [String.toList_ofList] at slashes
      cases last : back.getLast? with
      | none => simp [List.getLast?_cons, last] at noSlash
      | some character =>
          have := slashes character (List.mem_of_getLast? last)
          simp [List.getLast?_cons, last, this] at noSlash
  | cons second others =>
      rw [below, Storage.walk_cons_eq_ok_iff, Storage.entryAt_concat, catalog.names_eq] at resolved
      cases resolved.2.1

/-- The next file of a log is created under the next id, or nothing changes. -/
theorem createFile_cases
    (catalog : Catalog config.directory config.fileExtension storage place files) :
    (∃ cause,
      storage.createFile (config.segmentPath ⟨files.length + 1⟩) = (.error cause, storage)) ∨
      ∃ handle after,
        storage.createFile (config.segmentPath ⟨files.length + 1⟩) = (.ok handle, after) ∧
          storage.Creates after handle ∧
            Catalog config.directory config.fileExtension after place
              (files ++ [⟨⟨files.length + 1⟩, storage.nodes.size, []⟩]) := by
  by_cases slash : '/' ∈ config.fileExtension.toList
  · have empty : files = [] := by
      by_contra nonempty
      exact catalog.plain nonempty slash
    subst empty
    exact .inl (catalog.createFile_of_slash slash _)
  · have resolved := (catalog.resolve_segmentPath slash ⟨files.length + 1⟩).1
    rcases storage.createFile_cases (config.segmentPath ⟨files.length + 1⟩) with
      failed | ⟨target, found, _, _, _, created⟩
    · exact .inl failed
    · rw [resolved] at found
      cases found
      refine .inr ⟨_, _, created, storage.creates_addFile _, ?_⟩
      exact (catalog.addFile slash).keeps (Storage.keeps_openNode _ _)

/-- Where nothing prevents it, the next file is created. -/
theorem createFile_of_plain
    (catalog : Catalog config.directory config.fileExtension storage place files)
    (plain : '/' ∉ config.fileExtension.toList)
    (healthy : storage.creationFault (config.segmentPath ⟨files.length + 1⟩) = none) :
    ∃ handle after,
      storage.createFile (config.segmentPath ⟨files.length + 1⟩) = (.ok handle, after) := by
  obtain ⟨resolved, noSlash, noDots⟩ := catalog.resolve_segmentPath plain ⟨files.length + 1⟩
  unfold Storage.createFile
  simp only [resolved, noSlash, noDots, catalog.entryAt_next, healthy, Bool.false_eq_true, if_false]
  exact ⟨_, _, rfl⟩

end Catalog

end RecordLog
