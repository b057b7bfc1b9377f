import Mathlib.Algebra.GroupWithZero.Nat
import RecordLog.Proofs.WorldOrder

/-!
# Bookkeeping

From its opening on a ledger is kept of a log: a mark for each payload that it
acknowledges, and one for each time that its active segment is synced, which may
fail. A rotation syncs the segment that it seals before the payload is appended to
the next one, and the sync policy syncs after that. So one write can leave three
marks, and a write that fails can still leave one. The syncs of a closing log are
not noted.

The statistics of the log are those of the ledger, and as long as no sync in it
failed, there are few writes after the last one, as the sync policy asks.
-/

namespace RecordLog

/-- What is noted of a log. -/
inductive Mark where
  /-- A payload of some length was acknowledged. -/
  | write (length : Nat)
  /-- The active segment was synced, which succeeded or failed. -/
  | sync (succeeded : Bool)
  deriving DecidableEq, Repr

/-! ## Ledgers -/

namespace Ledger

/-- The lengths of the payloads that were acknowledged, the last one in front as in
the ledger. -/
def lengths : List Mark → List Nat
  | [] => []
  | .write length :: ledger => length :: lengths ledger
  | .sync _ :: ledger => lengths ledger

/-- What was noted after the last sync that succeeded. -/
def window (ledger : List Mark) : List Mark :=
  ledger.takeWhile fun mark => mark ≠ .sync true

/-- The statistics of a ledger. -/
def stats (ledger : List Mark) : Stats where
  totalBytes := (lengths ledger).sum
  totalWrites := (lengths ledger).length
  windowBytes := (lengths (window ledger)).sum
  windowWrites := (lengths (window ledger)).length
  syncs := ledger.count (.sync true)

@[simp]
theorem stats_write (length : Nat) (ledger : List Mark) :
    stats (.write length :: ledger) = (stats ledger).recordWrite length := by
  simp [stats, window, lengths, Stats.recordWrite, Nat.add_comm]

/-- A sync that succeeds begins a new window, and one that fails counts for nothing. -/
@[simp]
theorem stats_sync (succeeded : Bool) (ledger : List Mark) :
    stats (.sync succeeded :: ledger) =
      if succeeded then (stats ledger).recordSync else stats ledger := by
  cases succeeded <;> simp [stats, window, lengths, Stats.recordSync]

end Ledger

namespace Config

variable {config : Config} {ledger : List Mark}

/-- Whether the sync policy asks for a sync. -/
def asksSync (config : Config) (ledger : List Mark) : Bool :=
  config.syncPerWrite ||
    (0 < config.syncWriteThreshold &&
      config.syncWriteThreshold ≤ (Ledger.stats ledger).windowWrites)

/-- The ledger when a payload was appended. If the policy then asks for a sync, it is
made, and succeeds or fails. -/
def enterAppend (config : Config) (length : Nat) (succeeds : Bool) (ledger : List Mark) :
    List Mark :=
  if config.asksSync (.write length :: ledger) then
    .sync succeeds :: .write length :: ledger
  else .write length :: ledger

theorem lengths_enterAppend (length : Nat) (succeeds : Bool) :
    Ledger.lengths (config.enterAppend length succeeds ledger) =
      length :: Ledger.lengths ledger := by
  unfold enterAppend
  split <;> rfl

/-- Fewer writes were acknowledged since the last sync that succeeded than the
threshold of the policy, and none if each write is to be synced. -/
structure Restrains (config : Config) (stats : Stats) : Prop where
  lt_threshold : 0 < config.syncWriteThreshold → stats.windowWrites < config.syncWriteThreshold
  eq_zero : config.syncPerWrite = true → stats.windowWrites = 0

theorem Restrains.recordSync (stats : Stats) : config.Restrains stats.recordSync :=
  ⟨id, fun _ => rfl⟩

/-- A ledger without a failed sync obeys the policy. -/
def Obeyed (config : Config) (ledger : List Mark) : Prop :=
  .sync false ∉ ledger → config.Restrains (Ledger.stats ledger)

theorem obeyed_nil (config : Config) : config.Obeyed [] :=
  fun _ => ⟨id, fun _ => rfl⟩

/-- Whatever the ledger was, a sync obeys the policy if it succeeds. -/
theorem obeyed_sync (succeeded : Bool) : config.Obeyed (.sync succeeded :: ledger) := by
  intro sound
  cases succeeded with
  | true =>
      rw [Ledger.stats_sync, if_pos rfl]
      exact .recordSync _
  | false => exact absurd List.mem_cons_self sound

/-- Where the policy asks for no sync, it is obeyed without one. -/
theorem obeyed_enterAppend (length : Nat) (succeeds : Bool) :
    config.Obeyed (config.enterAppend length succeeds ledger) := by
  unfold enterAppend
  split
  · exact obeyed_sync succeeds
  · rename_i unasked
    simp only [asksSync, Bool.or_eq_true, Bool.and_eq_true, decide_eq_true_eq, not_or, not_and,
      Nat.not_le] at unasked
    exact fun _ => ⟨unasked.2, fun perWrite => absurd perWrite unasked.1⟩

end Config

/-! ## One operation -/

namespace Storage

variable (storage : Storage) (handle : Handle)

theorem sync_fst : (storage.sync handle).1 = !storage.syncFails handle := by
  unfold sync
  split
  · rename_i fails
    rw [fails]
    rfl
  · rename_i succeeds
    rw [eq_false_of_ne_true succeeds]
    rfl

/-- A sync leaves it open which syncs fail. -/
theorem syncFails_sync (other : Handle) :
    (storage.sync handle).2.syncFails other = storage.syncFails other := by
  unfold sync
  split
  · rfl
  · simp only [modifyOpen]
    split <;> rfl

end Storage

/-- Whether an open segment was synced shows in the storage that this led to. -/
theorem Segment.sync_fst {segment : Segment} (isOpen : segment.closed = false)
    (storage : Storage) :
    (segment.sync storage).1 = !(segment.sync storage).2.syncFails segment.handle := by
  rw [Segment.sync_eq, if_neg (by simp [isOpen]), Storage.syncFails_sync, Storage.sync_fst]

namespace Log

variable {config : Config} {storage after : Storage} {log : Log} {ledger : List Mark}

/-- The ledger after an append that came to some result. If it failed, nothing is
noted of it. -/
def enterResult (config : Config) (length : Nat) (ledger : List Mark) :
    Except Failure Position × Log × Storage → List Mark
  | (.error _, _, _) => ledger
  | (.ok _, again, after) =>
      config.enterAppend length (!after.syncFails again.active.handle) ledger

/-- The ledger after a write. If the log has gone on to another segment, that was
synced which was the active one before. -/
def enterWrite (log : Log) (payload : List UInt8) (storage : Storage) (ledger : List Mark) :
    List Mark :=
  let result := log.write payload storage
  let sealed :=
    if result.2.1.active.id = log.active.id then ledger
    else .sync (!storage.syncFails log.active.handle) :: ledger
  enterResult log.config payload.length sealed result

/-- The ledger after a sync on demand. -/
def enterSync (log : Log) (storage : Storage) (ledger : List Mark) : List Mark :=
  if log.closed then ledger else .sync (!storage.syncFails log.active.handle) :: ledger

/-- The statistics of a log are those of a ledger. -/
def Tallies (config : Config) (ledger : List Mark) (log : Log) : Prop :=
  log.config = config ∧ log.stats = Ledger.stats ledger

theorem Tallies.countSync (tallies : log.Tallies config ledger) (synced : Bool) :
    (log.countSync synced).Tallies config (.sync synced :: ledger) := by
  obtain ⟨config_eq, stats_eq⟩ := tallies
  cases synced with
  | true => exact ⟨config_eq, by rw [Ledger.stats_sync, ← stats_eq]; rfl⟩
  | false => exact ⟨config_eq, by rw [Ledger.stats_sync]; exact stats_eq⟩

theorem Tallies.syncDue (tallies : log.Tallies config ledger) :
    log.syncDue = config.asksSync ledger := by
  obtain ⟨rfl, stats_eq⟩ := tallies
  rw [Log.syncDue, Config.asksSync, stats_eq]

theorem active_countSync (log : Log) (synced : Bool) :
    (log.countSync synced).active = log.active := by
  cases synced <;> rfl

theorem Tallies.append (tallies : log.Tallies config ledger) (isOpen : log.active.closed = false)
    (payload : List UInt8) (storage : Storage) :
    (log.append payload storage).2.1.Tallies config
      (enterResult config payload.length ledger (log.append payload storage)) := by
  obtain ⟨config_eq, stats_eq⟩ := tallies
  obtain ⟨size, poisoned, active_eq⟩ := log.active.exists_append_eq payload storage
  unfold Log.append
  generalize log.active.append payload storage = outcome at active_eq ⊢
  obtain ⟨result, active, middle⟩ := outcome
  have stillOpen : active.closed = false := by
    rw [show active = _ from active_eq]
    exact isOpen
  cases result with
  | error cause => exact ⟨config_eq, stats_eq⟩
  | ok offset =>
      have counted : Tallies config (.write payload.length :: ledger)
          { log.withActive active with stats := log.stats.recordWrite payload.length } :=
        ⟨config_eq, by rw [Ledger.stats_write, ← stats_eq]⟩
      simp only [counted.syncDue]
      cases due : config.asksSync (.write payload.length :: ledger) with
      | true =>
          simp only [if_true, enterResult, Config.enterAppend, due, active_countSync,
            active_withActive, ← Segment.sync_fst stillOpen]
          exact counted.countSync _
      | false =>
          simp only [Bool.false_eq_true, if_false, enterResult, Config.enterAppend, due]
          exact counted

/-- An append stays in the active segment. -/
theorem id_append (log : Log) (payload : List UInt8) (storage : Storage) :
    (log.append payload storage).2.1.active.id = log.active.id := by
  obtain ⟨size, poisoned, stats, again_eq⟩ := log.exists_append_eq payload storage
  rw [again_eq, active_withActive]

/-- The segment that is sealed is synced unless the storage refused that before the
file of the next one was created. -/
theorem Tallies.sealing (tallies : log.Tallies config ledger) (custody : log.Custody storage)
    {path : Path} {id : SegmentId} {layout : Layout} {fresh : Segment}
    (creates : Segment.create path id layout storage = (.ok fresh, after)) :
    (log.sealing (log.active.sync after).1 fresh).Tallies config
      (.sync (!storage.syncFails log.active.handle) :: ledger) := by
  obtain ⟨file, found⟩ := custody.attached.backed
  have fails := (Segment.create_effect creates).2 _ file found
  rw [← fails, ← Storage.sync_fst, ← custody.sync_eq]
  exact tallies.countSync _

/-- The books are kept through a write. -/
theorem Tallies.write (tallies : log.Tallies config ledger)
    (custody : log.closed = false → log.Custody storage) (payload : List UInt8) :
    (log.write payload storage).2.1.Tallies config (log.enterWrite payload storage ledger) := by
  have config_eq := tallies.1
  generalize outcome : log.write payload storage = result
  have way := writes (fun isOpen => (custody isOpen).formed) payload storage
  rw [outcome] at way
  simp only [enterWrite, outcome, config_eq]
  -- appends stay in their segment, so that another id tells of a rotation
  cases way with
  | refused =>
      rw [if_pos rfl]
      exact tallies
  | strands =>
      rw [if_pos rfl]
      exact tallies
  | stays isOpen =>
      rw [if_pos (log.id_append payload storage)]
      exact tallies.append (custody isOpen).attached.isOpen payload storage
  | @rotates handle created isOpen _ _ creates rotated =>
      have sealed := tallies.sealing (custody isOpen) creates
      have goesOn : (log.begun handle).id ≠ log.active.id :=
        fun same => Nat.succ_ne_self _ (congrArg SegmentId.number
          ((custody isOpen).formed.nextId_eq.symm.trans same))
      rw [if_neg (by rwa [id_append, active_sealing])]
      exact sealed.append (by rw [active_sealing]; rfl) payload _

/-- The books are kept through a sync on demand. -/
theorem Tallies.sync (tallies : log.Tallies config ledger)
    (custody : log.closed = false → log.Custody storage) :
    (log.sync storage).2.1.Tallies config (log.enterSync storage ledger) := by
  unfold enterSync
  split
  · rename_i closed
    rw [sync_of_closed closed]
    exact tallies
  · rename_i isOpen
    have custody := custody (eq_false_of_ne_true isOpen)
    have outcome := custody.sync_eq storage
    rw [custody.formed.sync_eq, if_neg isOpen]
    have answer := storage.sync_fst log.active.handle
    rw [← outcome] at answer
    rw [← answer]
    split <;>
      · rename_i synced
        rw [synced]
        exact tallies.countSync _

/-- Closing a log is not noted. -/
theorem Tallies.close (tallies : log.Tallies config ledger) (storage : Storage) :
    (log.close storage).2.1.Tallies config ledger := by
  rw [log.close_eq]
  split <;> exact tallies

theorem tallies_openFound {layout : Layout} {ids : List SegmentId}
    (ascending : ids.eraseDups.Pairwise fun first second => first.number < second.number)
    (opened : openFound config layout ids storage = (.ok log, after)) : log.Tallies config [] := by
  obtain ⟨segments, middle, _, begun | ⟨sealed, active, report, recovered, _, _, rfl⟩⟩ :=
    openFound_eq_ok ascending opened
  · obtain ⟨_, _, rfl⟩ := begin_eq_ok begun
    exact ⟨rfl, rfl⟩
  · exact ⟨rfl, rfl⟩

/-- The books of a log that was opened are empty. -/
theorem tallies_openDirectory (opened : openDirectory config storage = (.ok log, after)) :
    log.Tallies config [] := by
  obtain ⟨_, _, _, _, _, _, discovered, found⟩ := openDirectory_eq_ok opened
  exact tallies_openFound (Config.ascending_of_discover discovered) found

theorem lengths_enterWrite (log : Log) (payload : List UInt8) (storage : Storage)
    (ledger : List Mark) :
    Ledger.lengths (log.enterWrite payload storage ledger) =
      match (log.write payload storage).1 with
      | .error _ => Ledger.lengths ledger
      | .ok _ => payload.length :: Ledger.lengths ledger := by
  unfold enterWrite
  obtain ⟨outcome, again, final⟩ := log.write payload storage
  cases outcome with
  | error cause =>
      simp only [enterResult]
      split <;> rfl
  | ok position =>
      simp only [enterResult, Config.lengths_enterAppend]
      split <;> rfl

theorem lengths_enterSync (log : Log) (storage : Storage) (ledger : List Mark) :
    Ledger.lengths (log.enterSync storage ledger) = Ledger.lengths ledger := by
  unfold enterSync
  split <;> rfl

theorem obeyed_enterWrite (obeyed : log.config.Obeyed ledger) (payload : List UInt8)
    (storage : Storage) : log.config.Obeyed (log.enterWrite payload storage ledger) := by
  unfold enterWrite
  obtain ⟨outcome, again, final⟩ := log.write payload storage
  cases outcome with
  | error cause =>
      simp only [enterResult]
      split
      · exact obeyed
      · exact Config.obeyed_sync _
  | ok position => exact Config.obeyed_enterAppend _ _

theorem obeyed_enterSync (obeyed : config.Obeyed ledger) (log : Log) (storage : Storage) :
    config.Obeyed (log.enterSync storage ledger) := by
  unfold enterSync
  split
  · exact obeyed
  · exact Config.obeyed_sync _

end Log

/-! ## Histories -/

namespace World

/-- The ledger after one operation. -/
def enter (operation : Operation) (world : World) (marks : List Mark) : List Mark :=
  match operation with
  | .write payload => world.log.elim marks fun log => log.enterWrite payload world.storage marks
  | .sync => world.log.elim marks fun log => log.enterSync world.storage marks
  | .openLog _ | .read _ | .scan _ | .close | .drop => marks

/-- The ledger after a history. -/
def ledger : World → List Mark → List (Faults × Operation) → List Mark
  | _, marks, [] => marks
  | world, marks, event :: events =>
      (world.step event).ledger
        (enter event.2 { world with storage := world.storage.suffer event.1 } marks) events

/-- The books of the log are in balance: the ledger has the lengths of the payloads
that were acknowledged, the statistics are those of the ledger, and the sync policy
is obeyed. -/
structure Balances (config : Config) (marks : List Mark) (world : World) : Prop where
  lengths_eq : Ledger.lengths marks =
    (world.acknowledged.map fun entry => entry.2.length).reverse
  tallies : ∀ log ∈ world.log, log.Tallies config marks
  obeyed : config.Obeyed marks

variable {world : World} {storage : Storage} {config : Config} {marks : List Mark}
  {events : List (Faults × Operation)} {Left : Position × List UInt8 → Prop}

theorem balances_opening (storage : Storage) (faults : Faults) (config : Config) :
    ((start storage).step (faults, .openLog config)).Balances config [] := by
  simp only [World.step, perform, dropLog, start, World.openLog]
  split
  · rename_i outcome
    refine ⟨rfl, ?_, config.obeyed_nil⟩
    rintro _ ⟨⟩
    exact Log.tallies_openDirectory outcome
  · exact ⟨rfl, fun _ found => (by cases found), config.obeyed_nil⟩

theorem Balances.write (balances : world.Balances config marks)
    (accounts : world.Accounts Left) (payload : List UInt8) :
    (world.write payload).Balances config (enter (.write payload) world marks) := by
  unfold enter
  cases present : world.log with
  | none => rwa [world.write_of_none present]
  | some log =>
      have tallies := balances.tallies log present
      rw [write_eq world present payload]
      refine ⟨?_, ?_, ?_⟩
      · refine (log.lengths_enterWrite payload world.storage marks).trans ?_
        cases (log.write payload world.storage).1 with
        | error cause => exact balances.lengths_eq
        | ok position => simp [balances.lengths_eq]
      · rintro _ ⟨⟩
        exact tallies.write (accounts log present).custody payload
      · obtain ⟨rfl, _⟩ := tallies
        exact Log.obeyed_enterWrite balances.obeyed payload _

theorem Balances.sync (balances : world.Balances config marks) (accounts : world.Accounts Left) :
    (world.act Log.sync).Balances config (enter .sync world marks) := by
  unfold enter World.act
  cases present : world.log with
  | none => exact ⟨balances.lengths_eq, by rw [present]; nofun, balances.obeyed⟩
  | some log =>
      refine ⟨?_, ?_, Log.obeyed_enterSync balances.obeyed log world.storage⟩
      · exact (log.lengths_enterSync world.storage marks).trans balances.lengths_eq
      · rintro _ ⟨⟩
        exact (balances.tallies log present).sync (accounts log present).custody

theorem Balances.close (balances : world.Balances config marks) :
    (world.act Log.close).Balances config marks := by
  unfold World.act
  cases present : world.log with
  | none => exact ⟨balances.lengths_eq, by rw [present]; nofun, balances.obeyed⟩
  | some log =>
      refine ⟨balances.lengths_eq, ?_, balances.obeyed⟩
      rintro _ ⟨⟩
      exact (balances.tallies log present).close world.storage

theorem Balances.dropLog (balances : world.Balances config marks) :
    world.dropLog.Balances config marks := by
  refine ⟨?_, by rw [log_dropLog]; nofun, balances.obeyed⟩
  rw [balances.lengths_eq]
  unfold World.dropLog
  split <;> rfl

/-- Every operation but an opening keeps the books in balance. -/
theorem Balances.perform (balances : world.Balances config marks) (accounts : world.Accounts Left)
    {operation : Operation} (stays : ∀ config, operation ≠ .openLog config) :
    (perform operation world).Balances config (enter operation world marks) := by
  cases operation with
  | openLog config => exact absurd rfl (stays config)
  | write payload => exact balances.write accounts payload
  | read position => exact balances
  | scan id => exact balances
  | sync => exact balances.sync accounts
  | close => exact balances.close
  | drop => exact balances.dropLog

/-- Every operation under faults but an opening keeps the books in balance. -/
theorem Balances.step (balances : world.Balances config marks) (accounts : world.Accounts Left)
    {event : Faults × Operation} (stays : ∀ config, event.2 ≠ .openLog config) :
    (world.step event).Balances config
      (enter event.2 { world with storage := world.storage.suffer event.1 } marks) := by
  have suffering : Balances config marks
      { world with storage := world.storage.suffer event.1 } :=
    ⟨balances.lengths_eq, balances.tallies, balances.obeyed⟩
  exact suffering.perform (accounts.suffer event.1) stays

theorem Balances.run (balances : world.Balances config marks)
    (accounts : world.Accounts fun _ => True)
    (stays : ∀ event ∈ events, ∀ config, event.2 ≠ .openLog config) :
    (world.run events).Balances config (world.ledger marks events) := by
  induction events generalizing world marks with
  | nil => exact balances
  | cons event rest ih =>
      have here := stays event List.mem_cons_self
      -- which records are left behind is of no matter to the counters
      have accountsAfter : (world.step event).Accounts fun _ => True :=
        fun log found => (accounts.step here log found).imp fun _ _ => trivial
      exact ih (balances.step accounts here) accountsAfter fun event member =>
        stays event (List.mem_cons_of_mem _ member)

/-- The statistics of a log are those of the ledger that was kept since it was opened.
This has the lengths of the acknowledged payloads, and obeys the sync policy unless
a sync failed. -/
theorem balances_run (sound : storage.Sound) (faults : Faults) (config : Config)
    (stays : ∀ event ∈ events, ∀ config, event.2 ≠ .openLog config) :
    ((start storage).run ((faults, .openLog config) :: events)).Balances config
      (((start storage).step (faults, .openLog config)).ledger [] events) :=
  (balances_opening storage faults config).run (accounts_opening sound faults config) stays

/-- Settings under which every second write is synced, and a segment has room for
two records of some kind. -/
def pairedSettings : Config :=
  { smallSettings with maxSegmentSize := 60, syncWriteThreshold := 2 }

/-- The second write goes to another segment, the third finds the sync that is due
failing, and the last one makes up for it. -/
def pairedHistory : List (Faults × Operation) :=
  [(.none, .write (List.replicate 30 1)), (.none, .write (List.replicate 30 2)),
    ({ Faults.none with syncFails := fun _ => true }, .write [3]), (.none, .read ⟨⟨1⟩, 0⟩),
    (.none, .write [4, 5])]

/-- The sync of the sealed segment counts, the one that failed does not, and before
that the policy was obeyed. -/
theorem balances_run_of_pairedHistory :
    vacantStorage.Sound ∧
      (∃ log, ((start vacantStorage).run ((.none, .openLog pairedSettings) ::
          pairedHistory)).log = some log ∧ log.stats = ⟨63, 4, 0, 0, 2⟩) ∧
        ∃ log, ((start vacantStorage).run ((.none, .openLog pairedSettings) ::
          pairedHistory.take 2)).log = some log ∧ log.stats.windowWrites < 2 := by
  have sound := Storage.orderly_vacantStorage.sound
  have stays : ∀ event ∈ pairedHistory, ∀ config, event.2 ≠ .openLog config := by
    simp [pairedHistory]
  have opened : (((start vacantStorage).run ((.none, .openLog pairedSettings) ::
      pairedHistory)).log).isSome = true := by decide +kernel
  have ledger_eq : ((start vacantStorage).step (.none, .openLog pairedSettings)).ledger []
      pairedHistory = [.sync true, .write 2, .sync false, .write 1, .write 30, .sync true,
        .write 30] := by decide +kernel
  have openedBefore : (((start vacantStorage).run ((.none, .openLog pairedSettings) ::
      pairedHistory.take 2)).log).isSome = true := by decide +kernel
  have ledgerBefore : ((start vacantStorage).step (.none, .openLog pairedSettings)).ledger []
      (pairedHistory.take 2) = [.write 30, .sync true, .write 30] := by decide +kernel
  obtain ⟨log, found⟩ := Option.isSome_iff_exists.mp opened
  obtain ⟨logBefore, foundBefore⟩ := Option.isSome_iff_exists.mp openedBefore
  have balances := balances_run sound .none pairedSettings stays
  have balancesBefore := @balances_run vacantStorage (pairedHistory.take 2) sound .none
    pairedSettings fun event member => stays event (List.mem_of_mem_take member)
  rw [ledger_eq] at balances
  rw [ledgerBefore] at balancesBefore
  refine ⟨sound, ⟨log, found, (balances.tallies log found).2⟩, logBefore, foundBefore, ?_⟩
  rw [(balancesBefore.tallies logBefore foundBefore).2]
  exact (balancesBefore.obeyed (by decide)).lt_threshold (by decide)

end World

end RecordLog
