import RecordLog.Proofs.History
import RecordLog.Proofs.SyncAccounts

/-!
# What a sync covers

A log counts the records written since the last successful sync. Its segments
are synced one at a time: the active one by the sync policy and on demand, and
every other once, when it was sealed. The log goes on to the next segment
whether or not that last sync succeeds. So when the count is zero, and in
particular after a sync on demand that succeeds, every record that was
acknowledged since the log was opened is covered by a sync of its own file,
unless a rotation left it behind uncovered.
-/

namespace RecordLog

theorem Storage.advances_suffer (storage : Storage) (faults : Faults) :
    storage.Advances (storage.suffer faults) := by
  apply Storage.Advances.of_kept
  intro handle file found
  obtain ⟨node, refers, stands⟩ := Option.bind_eq_some_iff.mp found
  exact Option.bind_eq_some_iff.mpr ⟨node, (storage.keeps_suffer faults).nodeOf?_eq refers, stands⟩

namespace World

/-- An operation leaves an acknowledged record behind. -/
def LeavesBehind (world : World) (event : Faults × Operation) (entry : Position × List UInt8) :
    Prop :=
  entry ∈ world.acknowledged ∧ ∃ log ∈ world.log, ∃ again ∈ (world.step event).log,
    log.LeavesBehind (world.storage.suffer event.1) again entry

/-- Some operation of a history left an acknowledged record behind. -/
def LeftBehind (world : World) (events : List (Faults × Operation))
    (entry : Position × List UInt8) : Prop :=
  ∃ before event later, events = before ++ event :: later ∧
    (world.run before).LeavesBehind event entry

/-- After a history every acknowledged record is covered by a sync of its own
file, unless it was left behind. -/
def CoveredBy (world : World) (events : List (Faults × Operation)) : Prop :=
  ∀ log ∈ (world.run events).log, ∀ entry ∈ (world.run events).acknowledged,
    log.Covers (world.run events).storage entry ∨ world.LeftBehind events entry

/-- A log that is there accounts for the acknowledged records. -/
def Accounts (world : World) (Left : Position × List UInt8 → Prop) : Prop :=
  ∀ log ∈ world.log, log.Accounts world.storage world.acknowledged Left

variable {world : World} {storage : Storage} {log : Log} {faults : Faults} {config : Config}
  {events : List (Faults × Operation)} {Left : Position × List UInt8 → Prop}

theorem write_eq (world : World) (found : world.log = some log) (payload : List UInt8) :
    world.write payload =
      { log := some (log.write payload world.storage).2.1
        storage := (log.write payload world.storage).2.2
        acknowledged :=
          match (log.write payload world.storage).1 with
          | .error _ => world.acknowledged
          | .ok position => world.acknowledged ++ [(position, payload)] } := by
  unfold World.write
  simp only [found]
  split <;>
    · rename_i outcome
      rw [outcome]

theorem Accounts.suffer (accounts : world.Accounts Left) (faults : Faults) :
    Accounts { world with storage := world.storage.suffer faults } Left :=
  fun log found => (accounts log found).proceed
    (.of_advances (accounts log found).custody (world.storage.advances_suffer faults))

/-- What stays in the active segment leaves nothing behind. -/
theorem Accounts.act (accounts : world.Accounts Left)
    {action : Log → Storage → Except Failure Unit × Log × Storage}
    (proceeds : ∀ (log : Log) storage, (log.closed = false → log.Custody storage) →
      log.Proceeds storage (action log storage).2.1 (action log storage).2.2) :
    (world.act action).Accounts Left := by
  intro again found
  unfold World.act at found ⊢
  cases present : world.log with
  | none =>
      simp only [present] at found
      cases found
  | some log =>
      simp only [present] at found ⊢
      cases found
      exact (accounts log present).proceed (proceeds log _ (accounts log present).custody)

/-- One operation other than an opening accounts for the records before it and
its own. -/
theorem Accounts.step (accounts : world.Accounts Left) {event : Faults × Operation}
    (stays : ∀ config, event.2 ≠ .openLog config) :
    (world.step event).Accounts fun entry => Left entry ∨ world.LeavesBehind event entry := by
  obtain ⟨faults, operation⟩ := event
  have suffering := accounts.suffer faults
  have imp {after : World} (kept : after.Accounts Left) :
      after.Accounts fun entry => Left entry ∨ world.LeavesBehind (faults, operation) entry :=
    fun log found => (kept log found).imp fun _ => .inl
  cases operation with
  | openLog config => exact absurd rfl (stays config)
  | write payload =>
      intro again found
      cases present : world.log with
      | none =>
          simp only [World.step, perform, World.write, present] at found
          cases found
      | some log =>
          have step_eq := write_eq { world with storage := world.storage.suffer faults } present
            payload
          rw [World.step, perform, step_eq] at found ⊢
          cases found
          apply ((suffering log present).write payload).imp
          rintro entry (left | ⟨member, behind⟩)
          · exact .inl left
          · exact .inr ⟨member, log, present, _, by rw [World.step, perform, step_eq]; rfl, behind⟩
  | read position => exact imp suffering
  | scan id => exact imp suffering
  | sync => exact imp (Accounts.act suffering fun _ _ => Log.proceeds_sync)
  | close => exact imp (Accounts.act suffering fun _ _ => Log.proceeds_close)
  | drop =>
      intro again found
      simp only [World.step, perform, dropLog] at found
      split at found
      · rename_i absent
        cases absent.symm.trans found
      · cases found

/-- A log that was just opened has nothing to account for. -/
theorem accounts_opening (sound : storage.Sound) (faults : Faults) (config : Config) :
    ((start storage).step (faults, .openLog config)).Accounts Left := by
  intro log found
  have suffered := sound.keeps (storage.keeps_suffer faults)
  simp only [World.step, perform, dropLog, start, World.openLog] at found ⊢
  split at found
  · rename_i opened after outcome
    cases found
    exact ⟨fun _ => Log.custody_openDirectory suffered outcome, by simp⟩
  · cases found

theorem LeftBehind.concat {entry : Position × List UInt8} {event : Faults × Operation}
    (behind : world.LeftBehind events entry ∨ (world.run events).LeavesBehind event entry) :
    world.LeftBehind (events ++ [event]) entry := by
  rcases behind with ⟨before, earlier, later, rfl, left⟩ | here
  · exact ⟨before, earlier, later ++ [event], by simp, left⟩
  · exact ⟨events, event, [], rfl, here⟩

/-- From its opening on a log accounts for every record it acknowledges. -/
theorem accounts_run (sound : storage.Sound) (faults : Faults) (config : Config)
    (stays : ∀ event ∈ events, ∀ config, event.2 ≠ .openLog config) :
    ((start storage).run ((faults, .openLog config) :: events)).Accounts
      ((start storage).LeftBehind ((faults, .openLog config) :: events)) := by
  induction events using List.reverseRecOn with
  | nil => exact accounts_opening sound faults config
  | append_singleton events event ih =>
      have before := ih fun event member => stays event (List.mem_append_left _ member)
      have after := before.step (stays event (by simp))
      rw [← List.cons_append, World.run_concat]
      exact fun log found => (after log found).imp fun _ => LeftBehind.concat

/-- Where a log counts no writes since its last sync, the acknowledged records
are covered by a sync, except for those that were left behind. -/
theorem coveredBy_of_window (sound : storage.Sound)
    (stays : ∀ event ∈ events, ∀ config, event.2 ≠ .openLog config)
    (found : ((start storage).run ((faults, .openLog config) :: events)).log = some log)
    (window : log.stats.windowWrites = 0) :
    (start storage).CoveredBy ((faults, .openLog config) :: events) := by
  intro same foundSame entry member
  obtain rfl := Option.mem_unique found foundSame
  exact ((accounts_run sound faults config stays log found).each entry member).covered window

/-- Whenever a log counts no writes since its last sync, and whenever it is
synced on demand and answers that this succeeded, the records acknowledged since
it was opened are covered by a sync, except for those that were left behind. -/
theorem covered_run (sound : storage.Sound) (faults : Faults) (config : Config)
    (stays : ∀ event ∈ events, ∀ config, event.2 ≠ .openLog config) :
    ∀ log ∈ ((start storage).run ((faults, .openLog config) :: events)).log,
      (log.stats.windowWrites = 0 →
        (start storage).CoveredBy ((faults, .openLog config) :: events)) ∧
      ∀ later : Faults,
        (log.sync (((start storage).run ((faults, .openLog config) :: events)).storage.suffer
          later)).1 = .ok () →
            (start storage).CoveredBy
              ((faults, .openLog config) :: events ++ [(later, .sync)]) := by
  intro log found
  refine ⟨coveredBy_of_window sound stays found, ?_⟩
  intro later synced
  have present : ((start storage).run ((faults, .openLog config) :: events)).log = some log := found
  have foundAfter : ((start storage).run
      ((faults, .openLog config) :: (events ++ [(later, .sync)]))).log =
        some (log.sync (((start storage).run ((faults, .openLog config) :: events)).storage.suffer
          later)).2.1 := by
    rw [← List.cons_append, run_concat]
    simp only [World.step, perform, World.act, present]
  refine coveredBy_of_window sound ?_ foundAfter (Log.windowWrites_of_sync synced)
  intro event member
  rcases List.mem_append.mp member with older | new
  · exact stays event older
  · rw [List.mem_singleton.mp new]
    exact fun _ opens => by cases opens

/-- Settings under which a segment has room for one record of this history. -/
def narrowSettings : Config := { smallSettings with maxSegmentSize := 40 }

/-- The second record goes to another segment, and the sync of the first one
fails. Then the log is synced on demand. -/
def failedSeal : List (Faults × Operation) :=
  [(.none, .openLog narrowSettings), (.none, .write (List.replicate 30 1)),
    ({ Faults.none with syncFails := fun index => index == 0 }, .write (List.replicate 30 2)),
    (.none, .sync)]

/-- The second record is covered, and the first was left behind. -/
theorem failedSeal_leavesBehind :
    vacantStorage.Sound ∧ ∃ log, ((start vacantStorage).run failedSeal).log = some log ∧
      log.stats.windowWrites = 0 ∧
        log.Covers ((start vacantStorage).run failedSeal).storage
            (⟨⟨2⟩, 0⟩, List.replicate 30 2) ∧
          (start vacantStorage).LeftBehind failedSeal (⟨⟨1⟩, 0⟩, List.replicate 30 1) := by
  have sound : vacantStorage.Sound := by
    have entries_eq : vacantStorage.entries = [([], .directory), ([.text "wal"], .directory)] := by
      decide +kernel
    intro place isRegular node named
    simp [entries_eq] at named
  have stays : ∀ event ∈ failedSeal.tail, ∀ config, event.2 ≠ .openLog config := by
    simp [failedSeal]
  have facts : ∀ log ∈ ((start vacantStorage).run failedSeal).log, log.stats.windowWrites = 0 ∧
      log.Covers ((start vacantStorage).run failedSeal).storage (⟨⟨2⟩, 0⟩, List.replicate 30 2) ∧
        ¬ log.Covers ((start vacantStorage).run failedSeal).storage
          (⟨⟨1⟩, 0⟩, List.replicate 30 1) := by
    decide +kernel
  have acknowledged : (⟨⟨1⟩, 0⟩, List.replicate 30 1) ∈
      ((start vacantStorage).run failedSeal).acknowledged := by
    decide +kernel
  have opened : (((start vacantStorage).run failedSeal).log).isSome = true := by decide +kernel
  obtain ⟨log, found⟩ := Option.isSome_iff_exists.mp opened
  obtain ⟨window, covered, uncovered⟩ := facts log found
  have coveredBy := (covered_run sound .none narrowSettings stays log found).1 window
  exact ⟨sound, log, found, window, covered,
    (coveredBy log found _ acknowledged).resolve_left uncovered⟩

/-- A sync that succeeds need not cover every acknowledged record. -/
theorem failedSeal_uncovered :
    ((start vacantStorage).run (failedSeal.take 3)).log.map (fun log =>
        (log.sync (((start vacantStorage).run (failedSeal.take 3)).storage.suffer .none)).1) =
          some (.ok ()) ∧
      ∃ log ∈ ((start vacantStorage).run failedSeal).log, log.stats.windowWrites = 0 ∧
        ∃ entry ∈ ((start vacantStorage).run failedSeal).acknowledged,
          ¬ log.Covers ((start vacantStorage).run failedSeal).storage entry := by
  decide +kernel

end World

end RecordLog
