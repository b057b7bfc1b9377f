import RecordLog.Proofs.History
import RecordLog.Proofs.Keeping

/-!
# Acknowledged records survive

Once a write has answered where its record is, the record is read back from
there for as long as the log lives: after writes that fail part-way, after
rotations, and after any number of openings, each of which repairs the newest
file. What can take a record away is a stray one. The bytes that a failed write
leaves behind are searched for records by the next opening, and if a payload
contains bytes that are themselves a chunk, the survey may follow them over the
anchor of a record that was acknowledged later. Only the newest file is searched,
and what a survey meets behind a record does nothing to it. So a record survives
unless an opening that finds its segment the newest meets a stray record over its
anchor or an earlier one.
-/

namespace RecordLog

/-- The records that begin no later than some offset. -/
def recordsUpTo (reach : Nat) (records : List Record) : List Record :=
  records.filter fun record => record.offset ≤ reach

theorem recordsUpTo_concat (reach : Nat) (records : List Record) (record : Record) :
    recordsUpTo reach (records ++ [record]) =
      if record.offset ≤ reach then recordsUpTo reach records ++ [record]
      else recordsUpTo reach records := by
  unfold recordsUpTo
  rw [List.filter_append]
  split
  · rename_i le
    simp [le]
  · rename_i beyond
    simp [Nat.lt_of_not_le beyond]

/-- The records up to some offset are where a survey goes over them: the bytes up
to a smaller size are in order, and up to the whole of it while nothing begins
behind the offset. -/
def Reaches (layout : Layout) (reach : Nat) (bytes : List UInt8) (size : Nat)
    (records : List Record) : Prop :=
  ∃ inner, inner ≤ size ∧ (size ≤ reach → inner = size) ∧
    Extended layout bytes inner (recordsUpTo reach records)

namespace Reaches

variable {layout : Layout} {reach size : Nat} {bytes : List UInt8} {records : List Record}

theorem append (reaches : Reaches layout reach bytes size records)
    (complete : bytes.length = size) (payload : List UInt8) :
    Reaches layout reach (bytes ++ (layout.frame size payload).bytes)
      (layout.frame size payload).stop (records ++ [⟨layout.align size, payload⟩]) := by
  obtain ⟨inner, inside, same, extended⟩ := reaches
  have forward := layout.le_align size
  have longer := layout.lt_frame_stop size payload
  unfold Reaches
  rw [recordsUpTo_concat]
  split
  · rename_i within
    obtain rfl := same (Nat.le_trans forward within)
    exact ⟨_, Nat.le_refl _, fun _ => rfl, extended.append complete payload⟩
  · -- what begins behind the offset is remains to the records before it
    rename_i beyond
    have stop := layout.align_lt_recordStop size payload
    have aligned := layout.recordStop_le_frame_stop size payload
    refine ⟨inner, by omega, fun within => ?_, extended.remains _⟩
    exact absurd (Nat.le_trans (Nat.le_of_lt (Nat.lt_of_lt_of_le stop aligned)) within) beyond

theorem remains (reaches : Reaches layout reach bytes size records) (part : List UInt8) :
    Reaches layout reach (bytes ++ part) size records := by
  obtain ⟨inner, inside, same, extended⟩ := reaches
  exact ⟨inner, inside, same, extended.remains part⟩

theorem holds (reaches : Reaches layout reach bytes size records) :
    (Image.ofBytes layout (bytes.take size)).Holds (recordsUpTo reach records) := by
  obtain ⟨inner, inside, _, extended⟩ := reaches
  have grows : Image.Grows (.ofBytes layout (bytes.take inner))
      (.ofBytes layout (bytes.take size)) :=
    .ofBytes (List.take_prefix_take_left inside)
  exact grows.holds extended.holds

theorem recover (reaches : Reaches layout reach bytes size records)
    (clear : Unstrayed layout bytes (recordsUpTo reach records)) :
    ∃ last regions ending, Image.Passes (.ofBytes layout bytes) 0 last regions ∧
      Image.Ends (.ofBytes layout bytes) last ending ∧
        Reaches layout reach (bytes.take last) (bytes.take last).length records := by
  obtain ⟨inner, _, _, extended⟩ := reaches
  obtain ⟨last, regions, ending, way, ends, surveyed⟩ := extended.survey clear
  exact ⟨last, regions, ending, way, ends, _, Nat.le_refl _, fun _ => rfl, surveyed.extended⟩

end Reaches

/-- The discipline under which the records of a segment up to some offset survive:
while its file is the newest it is what the last recovery left, payloads written
since and the remains of a failed write, and the records are read back ever
after. Of other files nothing is asked but that their segments know their lengths. -/
def Discipline.survival (layout : Layout) (position : Position) : Discipline layout where
  Active id bytes size poisoned records :=
    (poisoned = false → bytes.length = size) ∧
      (id = position.segment →
        size ≤ bytes.length ∧ Reaches layout position.offset bytes size records)
  Sealed id bytes size _ records :=
    id = position.segment → size ≤ bytes.length ∧
      (Image.ofBytes layout (bytes.take size)).Holds (recordsUpTo position.offset records)
  Clear id bytes records :=
    id = position.segment → Unstrayed layout bytes (recordsUpTo position.offset records)
  Lossy := True
  fresh := ⟨fun _ => rfl, fun _ => ⟨Nat.le_refl _, 0, Nat.le_refl _, fun _ => rfl,
    Surveyed.nil.extended⟩⟩
  complete active := active.1 rfl
  write {id bytes size records} payload active := by
    have complete := active.1 rfl
    have length_eq : (bytes ++ (layout.frame size payload).bytes).length =
        (layout.frame size payload).stop := by
      rw [List.length_append, complete, layout.length_frame_bytes]
    exact ⟨fun _ => length_eq, fun same =>
      ⟨Nat.le_of_eq length_eq.symm, (active.2 same).2.append complete payload⟩⟩
  tear part _ active := by
    refine ⟨?_, fun same => ⟨?_, (active.2 same).2.remains part⟩⟩
    · rintro ⟨⟩
    · rw [List.length_append]
      exact Nat.le_add_right_of_le (active.2 same).1
  retire active same := ⟨(active.2 same).1, (active.2 same).2.holds⟩
  resume {id bytes size _ records} sealed same := by
    have grows : Image.Grows (.ofBytes layout (bytes.take size)) (.ofBytes layout bytes) :=
      .ofBytes (List.take_prefix size bytes)
    refine ⟨Nat.le_refl _, ?_⟩
    rw [List.take_length]
    exact grows.holds (sealed same).2
  recover {id bytes _ _ _} active clear := by
    by_cases same : id = position.segment
    · obtain ⟨last, regions, ending, way, ends, reaches⟩ := (active.2 same).2.recover (clear same)
      exact ⟨last, regions, ending, way, ends, fun _ => rfl, fun _ => ⟨Nat.le_refl _, reaches⟩⟩
    · obtain ⟨last, regions, ending, way, ends⟩ :=
        Image.exists_passes (Image.whole_ofBytes layout bytes) rfl 0
      exact ⟨last, regions, ending, way, ends, fun _ => rfl, fun again => absurd again same⟩

/-- The record at the start of a file is covered by no stray one. -/
theorem Unstrayed.of_start {layout : Layout} {bytes : List UInt8} {records : List Record}
    (first : ∀ record ∈ records, record.offset = 0) : Unstrayed layout bytes records := by
  rintro offset ⟨_, outside, anchor, member, covers⟩
  obtain ⟨record, found, rfl⟩ := List.mem_map.mp member
  obtain ⟨_, _, _, le, _⟩ := id covers
  rw [first record found] at le
  obtain rfl := Nat.le_zero.mp le
  apply outside _ member
  rw [first record found] at covers ⊢
  exact covers

namespace World

/-- A record that was acknowledged at a position is read back while the log is
open. -/
def Survives (position : Position) (world : World) : Prop :=
  ∀ log ∈ world.log, log.closed = false → ∀ entry ∈ world.acknowledged, entry.1 = position →
    log.read entry.1 world.storage = .ok entry.2

instance (position : Position) (world : World) : Decidable (world.Survives position) :=
  inferInstanceAs (Decidable (∀ log ∈ world.log, log.closed = false →
    ∀ entry ∈ world.acknowledged, entry.1 = position →
      log.read entry.1 world.storage = .ok entry.2))

/-- Where the segment of a position is the newest of the log that some settings
describe, no stray record covers one of those acknowledged there up to the
position. -/
def Unstrayed (config : Config) (position : Position) (world : World) : Prop :=
  ∀ layout ids bytes, Layout.ofBlockSize config.blockSize = .ok layout →
    config.discover world.storage = .ok ids → ids.getLast? = some position.segment →
      world.storage.fileBytes (config.segmentPath position.segment) = .ok bytes →
        RecordLog.Unstrayed layout bytes.toList
          (recordsUpTo position.offset (world.recordsIn position.segment))

variable {world : World} {layout : Layout} {directory extension : String} {uses : Config → Prop}
  {place : Place} {files : List LogFile} {position : Position}

/-- What no stray record covers can be recovered. -/
theorem Unstrayed.clear {config : Config} (unstrayed : world.Unstrayed config position)
    (laidOut : Layout.ofBlockSize config.blockSize = .ok layout) :
    world.Clear (.survival layout position) config.directory config.fileExtension := by
  intro place files catalog bounded acknowledged_eq newest last same
  have member := List.mem_of_getLast? last
  have id_eq : (SegmentId.upTo files.length).getLast? = some newest.id := by
    rw [← catalog.ids_eq, List.getLast?_map, last]
    rfl
  have bytes_eq : world.storage.fileBytes (config.segmentPath newest.id) =
      .ok (world.storage.nodeBytes newest.node) := by
    simp only [Storage.fileBytes, catalog.findFile_eq member]
  rw [same] at id_eq bytes_eq
  have clear := unstrayed layout _ _ laidOut (catalog.discover_eq bounded) id_eq bytes_eq
  rwa [← same, recordsIn_eq catalog acknowledged_eq member] at clear

/-- Where the discipline is upheld, acknowledged records are read back. -/
theorem Upholds.survives
    (upholds : world.Upholds (.survival layout position) uses directory extension place files)
    (describes : ∀ config, uses config → config.Describes directory extension layout) :
    world.Survives position := by
  intro log found isOpen entry acknowledged here
  rcases upholds.serving log found with closed |
    ⟨config, front, newest, spare, used, rfl, serving⟩
  · rw [isOpen] at closed
    cases closed
  have described := describes config used
  have catalog := upholds.catalog
  rw [← described.directory_eq, ← described.extension_eq] at catalog
  rw [upholds.acknowledged_eq, serving.allEntries_eq, LogFile.allEntries] at acknowledged
  obtain ⟨file, member, inFile⟩ := List.mem_flatMap.mp acknowledged
  obtain ⟨record, recorded, rfl⟩ := List.mem_map.mp inFile
  subst here
  obtain ⟨segment, segment_eq, keeping⟩ := serving.segment?_eq catalog member
  obtain ⟨inSize, holds⟩ := keeping.sealed rfl
  rw [LogFile.bytes, Array.length_toList] at inSize
  obtain ⟨stop, done⟩ := (keeping.serves.grows inSize).holds holds record
    (List.mem_filter.mpr ⟨recorded, by simp⟩)
  rw [Log.read, Log.withSegment, if_neg (by simp [isOpen])]
  simp only [segment_eq, Segment.read, done]

/-- An acknowledged record survives every history in which no opening that finds
its segment the newest meets a stray record over its anchor or an earlier one.
Every operation takes up one segment id at the most, and the ids do not run out. -/
theorem survives_run {directory extension : String} {blockSize : Nat} {storage : Storage}
    (empty : storage.readDirectory ⟨directory⟩ = .ok []) {events : List (Faults × Operation)}
    (shares : ∀ faults config, (faults, .openLog config) ∈ events →
      config.Shares directory extension blockSize)
    (bounded : events.length < SegmentId.bound) (position : Position)
    (unstrayed : ∀ before faults config after,
      events = before ++ (faults, .openLog config) :: after →
        ((World.start storage).run before).Unstrayed config position) :
    ((World.start storage).run events).Survives position := by
  obtain ⟨layout, geometry⟩ := Layout.exists_geometry blockSize
  have describes (config : Config) (shared : config.Shares directory extension blockSize) :
      config.Describes directory extension layout :=
    shared.describes geometry
  obtain ⟨place, files, upholds, _⟩ := upholds_run (.survival layout position) describes empty
    shares (fun _ _ => .inr trivial) bounded (by
      intro before faults config after split_eq laidOut
      obtain ⟨rfl, rfl, rfl⟩ := shares faults config (by simp [split_eq])
      exact (unstrayed before faults config after split_eq).clear laidOut)
  exact upholds.survives describes

/-- The write that is cut short leaves behind a payload that contains two
chunks. The next opening takes the second, empty one for a record and keeps
it. The first one covers it and the record written after it, so that the
opening after that finds the first chunk and misses the record. -/
def strayWrites (limit : Nat) : List (Faults × Operation) :=
  [({ Faults.none with growthLimit := some limit },
      .write [0x2f, 0x00, 0xed, 0xc2, 0x0e, 0x00, 0x00, 0x12, 0xd9, 0x41, 0xff, 0x00, 0x00, 0x00,
        0x00]),
    (.none, .openLog smallSettings), (.none, .write [0, 0, 0, 0]),
    (.none, .openLog smallSettings)]

/-- A record is written before the stray one comes about. -/
def earlyHistory : List (Faults × Operation) :=
  (.none, .openLog smallSettings) :: (.none, .write [1, 2, 3]) :: strayWrites 31

/-- The record that was written first survives, although another one is lost. -/
theorem earlyHistory_survives :
    vacantStorage.readDirectory ⟨"wal"⟩ = .ok [] ∧ earlyHistory.length < SegmentId.bound ∧
      ((World.start vacantStorage).run earlyHistory).acknowledged =
          [(⟨⟨1⟩, 0⟩, [1, 2, 3]), (⟨⟨1⟩, 31⟩, [0, 0, 0, 0])] ∧
        ((World.start vacantStorage).run earlyHistory).Survives ⟨⟨1⟩, 0⟩ ∧
          ¬ ((World.start vacantStorage).run earlyHistory).Survives ⟨⟨1⟩, 31⟩ := by
  have empty : vacantStorage.readDirectory ⟨"wal"⟩ = .ok [] := by decide +kernel
  have bounded : earlyHistory.length < SegmentId.bound := by decide
  have shares : ∀ faults config, (faults, .openLog config) ∈ earlyHistory →
      config.Shares "wal" ".seg" 64 := by
    intro faults config member
    have same : faults = .none ∧ config = smallSettings := by
      simpa [earlyHistory, strayWrites] using member
    rw [same.2]
    exact ⟨rfl, rfl, rfl⟩
  refine ⟨empty, bounded, by decide +kernel, survives_run empty shares bounded _ ?_,
    by decide +kernel⟩
  intro before faults config after _ layout ids bytes _ _ _ _
  apply RecordLog.Unstrayed.of_start
  intro record member
  have := (List.mem_filter.mp member).2
  simpa using this

/-- An acknowledged record that a stray one covers can be lost. -/
theorem strayHistory_loses_record :
    vacantStorage.readDirectory ⟨"wal"⟩ = .ok [] ∧
      ((World.start vacantStorage).run ((.none, .openLog smallSettings) ::
        strayWrites 21)).acknowledged = [(⟨⟨1⟩, 21⟩, [0, 0, 0, 0])] ∧
        ¬ ((World.start vacantStorage).run ((.none, .openLog smallSettings) ::
          strayWrites 21)).Survives ⟨⟨1⟩, 21⟩ := by
  decide +kernel

end World

end RecordLog
