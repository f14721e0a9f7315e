import SolarConnect.Misc.Slots
import SolarConnect.Net.ClientAcl
import Mathlib.Algebra.Group.Nat.Defs

/-!
# Daily quota

The session record, the quota table and the accounting functions of `http_server.c`.
`esp_timer_get_time()` is a number of microseconds since boot and `time(NULL)` a number of
seconds; a function reads both once, as a `Moment`. A `uint32_t` is a number below `2 ^ 32`
and wraps where the code adds or truncates. A C string is the list of its bytes, so an empty
list is a string whose first byte is the NUL. What NVS answers to a flush is a parameter.
-/

namespace SolarConnect.Session

open Slots

/-- `MAX_CLIENTS`. -/
def maxClients : Nat := 20

theorem maxClients_pos : 0 < maxClients := by decide

/-- `DAILY_QUOTA_SEC`. -/
def dailyQuotaSec : Nat := 3600

/-- `SESSION_DURATION_SEC`. -/
def sessionDurationSec : Nat := dailyQuotaSec

/-- `QUOTA_FLUSH_INTERVAL_US`. -/
def quotaFlushIntervalUs : Nat := 60 * 1000000

/-- A second of the timer. -/
def secondUs : Nat := 1000000

/-- A C string. -/
abbrev CString := List (BitVec 8)

/-- The clocks a function reads. The timer runs since before the sessions exist. -/
structure Moment where
  now : Nat
  time : Nat
  booted : 0 < now

/-- `client_session_t`. -/
structure ClientSession where
  ipAddr : IpAddr
  mac : Mac
  token : CString
  deviceHash : CString
  endTime : Nat
  startTime : Nat
  grantedSeconds : Nat
  accountedSeconds : Nat
  dayId : Nat
  admitted : Bool
  active : Bool
  deriving DecidableEq, Repr

/-- A zeroed session. -/
def ClientSession.zero : ClientSession := ⟨0, 0, [], [], 0, 0, 0, 0, 0, false, false⟩

/-- `quota_record_t`. -/
structure QuotaRecord where
  valid : Bool
  mac : Mac
  dayId : Nat
  usedSeconds : Nat
  deriving DecidableEq, Repr

/-- A zeroed record. -/
def QuotaRecord.zero : QuotaRecord := ⟨false, 0, 0, 0⟩

/-- `s_quota_records`. -/
abbrev QuotaTable := Fin maxClients → QuotaRecord

/-- The quota statics: `s_quota_records`, `s_quota_dirty`, `s_day_hint`,
    `s_last_quota_flush_us`; beside them the blob NVS holds and the number of flushes that
    have reached NVS. -/
structure QuotaState where
  records : QuotaTable
  dirty : Bool
  dayHint : Nat
  lastFlushUs : Nat
  stored : QuotaTable
  flushes : Nat

/-- `load_quota_state` (`http_server.c:322-364`) at time `now`: with
    `DEV_RESET_QUOTA_ON_BOOT` set the stored table is erased and none is loaded. -/
def loadQuotaState (now : Nat) : QuotaState where
  records := fun _ => .zero
  dirty := false
  dayHint := 0
  lastFlushUs := now
  stored := fun _ => .zero
  flushes := 0

/-- `has_valid_system_time` (`http_server.c:229-243`). -/
def hasValidSystemTime (time : Nat) : Bool :=
  1700000000 ≤ time

/-- `get_current_day_id` (`http_server.c:245-262`), which remembers the day it saw. -/
def getCurrentDayId (time : Nat) (q : QuotaState) : Nat × QuotaState :=
  if hasValidSystemTime time then
    let dayId := time / 86400 % 2 ^ 32
    (dayId, { q with dayHint := dayId })
  else (if q.dayHint ≠ 0 then q.dayHint else 1, q)

/-- `get_seconds_until_next_day` (`http_server.c:264-275`). -/
def getSecondsUntilNextDay (time : Nat) : Nat :=
  if hasValidSystemTime time then (time / 86400 + 1) * 86400 - time else dailyQuotaSec

/-- `flush_quota_state` (`http_server.c:284-320`); `nvs n` tells whether the `n`-th flush gets
    through `nvs_open`, `nvs_set_blob`, `nvs_set_u32` and `nvs_commit`. -/
def flushQuotaState (nvs : Nat → Bool) (now : Nat) (forceFlush : Bool) (q : QuotaState) :
    QuotaState :=
  if !q.dirty then q
  else if !forceFlush && decide (now - q.lastFlushUs < quotaFlushIntervalUs) then q
  else if nvs q.flushes then
    { q with dirty := false, lastFlushUs := now, stored := q.records, flushes := q.flushes + 1 }
  else { q with flushes := q.flushes + 1 }

/-- The record of a MAC: the first valid one that carries it. -/
def recordOf (records : QuotaTable) (mac : Mac) : Option (Fin maxClients) :=
  firstSlot fun i => (records i).valid && (records i).mac == mac

/-- Where a new record goes: the first free slot, or slot 0 when there is none. -/
def freeRecord (records : QuotaTable) : Fin maxClients :=
  (firstSlot fun i => !(records i).valid).getD ⟨0, maxClients_pos⟩

/-- `find_or_alloc_quota_record` (`http_server.c:366-403`): the index of the record. -/
def findOrAllocQuotaRecord (mac : Mac) (dayId : Nat) (q : QuotaState) :
    Option (Fin maxClients) × QuotaState :=
  if mac = 0 then (none, q)
  else
    match recordOf q.records mac with
    | some i =>
      if (q.records i).dayId ≠ dayId then
        (some i, { q with
          records := Function.update q.records i
            { q.records i with dayId := dayId, usedSeconds := 0 }
          dirty := true })
      else (some i, q)
    | none =>
      (some (freeRecord q.records), { q with
        records := Function.update q.records (freeRecord q.records) ⟨true, mac, dayId, 0⟩
        dirty := true })

/-- `get_quota_remaining_for_mac` (`http_server.c:405-424`). -/
def getQuotaRemainingForMac (time : Nat) (mac : Mac) (q : QuotaState) : Nat × QuotaState :=
  let day := getCurrentDayId time q
  if mac = 0 then (dailyQuotaSec, day.2)
  else
    let found := findOrAllocQuotaRecord mac day.1 day.2
    match found.1 with
    | none => (0, found.2)
    | some i =>
      if dailyQuotaSec ≤ (found.2.records i).usedSeconds then (0, found.2)
      else (dailyQuotaSec - (found.2.records i).usedSeconds, found.2)

/-- `elapsed_seconds` in `checkpoint_session_usage`: whole seconds in a `uint32_t`, at most
    the grant. -/
def elapsedSeconds (now : Nat) (session : ClientSession) : Nat :=
  min ((now - session.startTime) / secondUs % 2 ^ 32) session.grantedSeconds

/-- The early returns of `checkpoint_session_usage` that charge nothing. -/
def nothingDue (now : Nat) (session : ClientSession) : Bool :=
  session.mac == 0 || session.startTime == 0 || session.grantedSeconds == 0 ||
    decide (now ≤ session.startTime) ||
    decide (elapsedSeconds now session ≤ session.accountedSeconds)

/-- `delta` more seconds in the record of a MAC and day, capped at the quota. -/
def chargeRecord (mac : Mac) (dayId delta : Nat) (q : QuotaState) : QuotaState :=
  let found := findOrAllocQuotaRecord mac dayId q
  match found.1 with
  | none => found.2
  | some i =>
    let record := found.2.records i
    let newUsed := (record.usedSeconds + delta) % 2 ^ 32
    { found.2 with
      records := Function.update found.2.records i
        { record with usedSeconds := if dailyQuotaSec < newUsed then dailyQuotaSec else newUsed }
      dirty := true }

/-- The charge of `checkpoint_session_usage`, to the session's day or, when it has none, to
    the current one. -/
def chargeUsage (m : Moment) (session : ClientSession) (q : QuotaState) : QuotaState :=
  let delta := elapsedSeconds m.now session - session.accountedSeconds
  if session.dayId ≠ 0 then chargeRecord session.mac session.dayId delta q
  else
    let day := getCurrentDayId m.time q
    chargeRecord session.mac day.1 delta day.2

/-- `checkpoint_session_usage` (`http_server.c:426-469`): the session and the quota state it
    leaves. -/
def checkpointSessionUsage (nvs : Nat → Bool) (m : Moment) (forceFlush : Bool)
    (session : ClientSession) (q : QuotaState) : ClientSession × QuotaState :=
  if nothingDue m.now session then
    (session, if forceFlush then flushQuotaState nvs m.now true q else q)
  else
    ({ session with accountedSeconds := elapsedSeconds m.now session },
      flushQuotaState nvs m.now forceFlush (chargeUsage m session q))

/-! ## What the table says -/

/-- The seconds recorded for a MAC on a day. -/
def recordedUse (records : QuotaTable) (mac : Mac) (dayId : Nat) : Nat :=
  match recordOf records mac with
  | some i => if (records i).dayId = dayId then (records i).usedSeconds else 0
  | none => 0

/-- The record of a MAC is written, in its own slot or in the one a new record takes. -/
def putRecord (records : QuotaTable) (mac : Mac) (dayId used : Nat) : QuotaTable :=
  Function.update records ((recordOf records mac).getD (freeRecord records))
    ⟨true, mac, dayId, used⟩

/-- Valid records have distinct nonzero MACs and stay within the quota. -/
structure TableOk (records : QuotaTable) : Prop where
  distinct : ∀ i j, (records i).valid = true → (records j).valid = true →
    (records i).mac = (records j).mac → i = j
  nonzero : ∀ i, (records i).valid = true → (records i).mac ≠ 0
  capped : ∀ i, (records i).valid = true → (records i).usedSeconds ≤ dailyQuotaSec

/-- Writing a record for the MAC takes the slot of another valid one: the table is full. -/
def Evicts (records : QuotaTable) (mac : Mac) : Prop :=
  recordOf records mac = none ∧ ∀ i, (records i).valid = true

instance (records : QuotaTable) (mac : Mac) : Decidable (Evicts records mac) := by
  unfold Evicts
  infer_instance

theorem recordOf_some {records : QuotaTable} {mac : Mac} {i : Fin maxClients}
    (found : recordOf records mac = some i) :
    (records i).valid = true ∧ (records i).mac = mac := by
  simpa using firstSlot_passes found

theorem recordOf_none {records : QuotaTable} {mac : Mac} :
    recordOf records mac = none ↔ ∀ i, (records i).valid = true → (records i).mac ≠ mac := by
  simp [recordOf, firstSlot_eq_none_iff]

theorem recordOf_eq_some {records : QuotaTable} (ok : TableOk records) {mac : Mac}
    {i : Fin maxClients} :
    recordOf records mac = some i ↔ (records i).valid = true ∧ (records i).mac = mac := by
  refine ⟨recordOf_some, fun ⟨valid, carries⟩ => ?_⟩
  cases found : recordOf records mac with
  | none => exact absurd carries (recordOf_none.mp found i valid)
  | some j =>
    obtain ⟨validJ, carriesJ⟩ := recordOf_some found
    rw [ok.distinct j i validJ valid (carriesJ.trans carries.symm)]

/-- Without an eviction a new record takes a free slot. -/
theorem freeRecord_free {records : QuotaTable} {mac : Mac} (absent : recordOf records mac = none)
    (room : ¬ Evicts records mac) : (records (freeRecord records)).valid = false := by
  unfold freeRecord
  cases found : firstSlot fun i => !(records i).valid with
  | none =>
    exact absurd ⟨absent, fun i => by simpa using firstSlot_eq_none_iff.mp found i⟩ room
  | some i => simpa using firstSlot_passes found

theorem freeRecord_full {records : QuotaTable} (full : ∀ i, (records i).valid = true) :
    freeRecord records = ⟨0, maxClients_pos⟩ := by
  have none_free : (firstSlot fun i => !(records i).valid) = none :=
    firstSlot_eq_none_iff.mpr fun i => by simp [full i]
  rw [freeRecord, none_free, Option.getD_none]

/-- The slot a record is put in holds the record of that MAC, or another only on eviction. -/
theorem putRecord_slot {records : QuotaTable} (mac : Mac) :
    let slot := (recordOf records mac).getD (freeRecord records)
    (records slot).valid = true → (records slot).mac = mac ∨ Evicts records mac := by
  intro slot valid
  by_cases evicts : Evicts records mac
  · exact Or.inr evicts
  left
  cases found : recordOf records mac with
  | some i =>
    have place : slot = i := by simp [slot, found]
    rw [place]
    exact (recordOf_some found).2
  | none =>
    have place : slot = freeRecord records := by simp [slot, found]
    rw [place, freeRecord_free found evicts] at valid
    simp at valid

theorem tableOk_putRecord {records : QuotaTable} (ok : TableOk records) {mac : Mac}
    (nonzero : mac ≠ 0) (dayId : Nat) {used : Nat} (capped : used ≤ dailyQuotaSec) :
    TableOk (putRecord records mac dayId used) := by
  have alone : ∀ i, i ≠ (recordOf records mac).getD (freeRecord records) →
      (records i).valid = true → (records i).mac ≠ mac := by
    intro i other valid carries
    rw [(recordOf_eq_some ok).mpr ⟨valid, carries⟩] at other
    exact other rfl
  unfold putRecord
  generalize (recordOf records mac).getD (freeRecord records) = slot at alone
  have separate : Separate (fun record : QuotaRecord => record.valid = true)
      (fun a b => a.mac = b.mac) records := ok.distinct
  refine ⟨separate.update (fun a b same => same.symm) alone, fun i => ?_, fun i => ?_⟩
  · rcases eq_or_ne i slot with rfl | other
    · simpa using nonzero
    · rw [Function.update_of_ne other]
      exact ok.nonzero i
  · rcases eq_or_ne i slot with rfl | other
    · simpa using capped
    · rw [Function.update_of_ne other]
      exact ok.capped i

/-- A record that was put is the record of its MAC. -/
theorem recordOf_putRecord_self (records : QuotaTable) (mac : Mac) (dayId used : Nat) :
    recordOf (putRecord records mac dayId used) mac =
      some ((recordOf records mac).getD (freeRecord records)) := by
  refine firstSlot_eq_some_iff.mpr ⟨by simp [putRecord], ?_⟩
  intro j before
  rw [putRecord, Function.update_of_ne before.ne]
  cases found : recordOf records mac with
  | none => exact firstSlot_eq_none_iff.mp found j
  | some i =>
    rw [found] at before
    exact (firstSlot_eq_some_iff.mp found).2 j before

/-- What is recorded for the MAC that was written. -/
theorem recordedUse_putRecord_self (records : QuotaTable) (mac : Mac) (dayId used day : Nat) :
    recordedUse (putRecord records mac dayId used) mac day = if dayId = day then used else 0 := by
  rw [recordedUse, recordOf_putRecord_self]
  simp [putRecord]

/-- The second of two records of a MAC takes the place of the first. -/
theorem putRecord_putRecord (records : QuotaTable) (mac : Mac) (dayId dayId' used used' : Nat) :
    putRecord (putRecord records mac dayId used) mac dayId' used' =
      putRecord records mac dayId' used' := by
  rw [putRecord, recordOf_putRecord_self, Option.getD_some, putRecord, putRecord,
    Function.update_idem]

/-- The record of another MAC stays, unless it is the one evicted. -/
theorem recordOf_putRecord_other {records : QuotaTable} (ok : TableOk records) {mac m : Mac}
    (nonzero : mac ≠ 0) (dayId : Nat) {used : Nat} (capped : used ≤ dailyQuotaSec)
    (other : m ≠ mac) (kept : Evicts records mac → (records ⟨0, maxClients_pos⟩).mac ≠ m)
    {i : Fin maxClients} :
    recordOf (putRecord records mac dayId used) m = some i ↔ recordOf records m = some i := by
  rw [recordOf_eq_some (tableOk_putRecord ok nonzero dayId capped), recordOf_eq_some ok]
  rcases eq_or_ne i ((recordOf records mac).getD (freeRecord records)) with rfl | elsewhere
  · simp only [putRecord, Function.update_self, true_and]
    refine ⟨fun same => absurd same.symm other, fun ⟨valid, same⟩ => ?_⟩
    rcases putRecord_slot mac valid with itself | evicts
    · exact absurd (same.symm.trans itself) other
    · rw [evicts.1, Option.getD_none, freeRecord_full evicts.2] at same
      exact absurd same (kept evicts)
  · rw [putRecord, Function.update_of_ne elsewhere]

theorem putRecord_other {records : QuotaTable} {mac m : Mac} (dayId used : Nat)
    (other : m ≠ mac) {i : Fin maxClients} (found : recordOf records m = some i)
    (kept : Evicts records mac → (records ⟨0, maxClients_pos⟩).mac ≠ m) :
    putRecord records mac dayId used i = records i := by
  obtain ⟨valid, same⟩ := recordOf_some found
  unfold putRecord
  refine Function.update_of_ne (fun place => ?_) _ _
  rw [place] at valid same
  rcases putRecord_slot mac valid with itself | evicts
  · exact other (same.symm.trans itself)
  · rw [evicts.1, Option.getD_none, freeRecord_full evicts.2] at same
    exact kept evicts same

/-- What is recorded for another MAC stays, unless its record is evicted. -/
theorem recordedUse_putRecord_other {records : QuotaTable} (ok : TableOk records) {mac m : Mac}
    (nonzero : mac ≠ 0) (dayId : Nat) {used : Nat} (capped : used ≤ dailyQuotaSec)
    (other : m ≠ mac) (kept : Evicts records mac → (records ⟨0, maxClients_pos⟩).mac ≠ m)
    (day : Nat) :
    recordedUse (putRecord records mac dayId used) m day = recordedUse records m day := by
  have same := @recordOf_putRecord_other records ok mac m nonzero dayId used capped other kept
  have found : recordOf (putRecord records mac dayId used) m = recordOf records m :=
    Option.ext fun i => same
  rw [recordedUse, recordedUse, found]
  cases place : recordOf records m with
  | none => rfl
  | some i => simp only [putRecord_other dayId used other place kept]

/-- The evicted MAC has nothing recorded any more. -/
theorem recordedUse_putRecord_evicted {records : QuotaTable} (ok : TableOk records) {mac : Mac}
    (dayId used : Nat) (evicts : Evicts records mac) (day : Nat) :
    recordedUse (putRecord records mac dayId used) (records ⟨0, maxClients_pos⟩).mac day = 0 := by
  have differs : (records ⟨0, maxClients_pos⟩).mac ≠ mac :=
    recordOf_none.mp evicts.1 _ (evicts.2 _)
  have slot : (recordOf records mac).getD (freeRecord records) = ⟨0, maxClients_pos⟩ := by
    rw [evicts.1, Option.getD_none, freeRecord_full evicts.2]
  have absent :
    recordOf (putRecord records mac dayId used) (records ⟨0, maxClients_pos⟩).mac = none := by
    rw [recordOf_none]
    intro i valid same
    rw [putRecord, slot] at valid same
    rcases eq_or_ne i ⟨0, maxClients_pos⟩ with rfl | elsewhere
    · rw [Function.update_self] at same
      exact differs same.symm
    · rw [Function.update_of_ne elsewhere] at valid same
      exact elsewhere (ok.distinct i _ valid (evicts.2 _) same)
  rw [recordedUse, absent]

theorem recordedUse_le_of_capped {records : QuotaTable}
    (capped : ∀ i, (records i).valid = true → (records i).usedSeconds ≤ dailyQuotaSec) (mac : Mac)
    (day : Nat) : recordedUse records mac day ≤ dailyQuotaSec := by
  unfold recordedUse
  split
  · rename_i i found
    split
    · exact capped i (recordOf_some found).1
    · exact Nat.zero_le _
  · exact Nat.zero_le _

theorem recordedUse_le {records : QuotaTable} (ok : TableOk records) (mac : Mac) (day : Nat) :
    recordedUse records mac day ≤ dailyQuotaSec :=
  recordedUse_le_of_capped ok.capped mac day

/-! ## What the functions do to the table -/

theorem untilNextDay_pos (time : Nat) : 0 < getSecondsUntilNextDay time := by
  unfold getSecondsUntilNextDay dailyQuotaSec
  split <;> omega

theorem findOrAlloc_records {mac : Mac} (nonzero : mac ≠ 0) (dayId : Nat) (q : QuotaState) :
    (findOrAllocQuotaRecord mac dayId q).1 =
        some ((recordOf q.records mac).getD (freeRecord q.records)) ∧
      (findOrAllocQuotaRecord mac dayId q).2.records =
        putRecord q.records mac dayId (recordedUse q.records mac dayId) := by
  unfold findOrAllocQuotaRecord putRecord recordedUse
  rw [if_neg nonzero]
  cases found : recordOf q.records mac with
  | none => simp
  | some i =>
    obtain ⟨valid, carries⟩ := recordOf_some found
    by_cases same : (q.records i).dayId = dayId
    · have unchanged : (⟨true, mac, dayId, (q.records i).usedSeconds⟩ : QuotaRecord) =
          q.records i := by
        rw [← valid, ← carries, ← same]
      simp [same, unchanged]
    · simp [same, valid, carries]

@[simp] theorem getCurrentDayId_records (time : Nat) (q : QuotaState) :
    (getCurrentDayId time q).2.records = q.records := by
  unfold getCurrentDayId
  split <;> rfl

theorem getCurrentDayId_valid {time : Nat} (valid : hasValidSystemTime time = true)
    (q : QuotaState) : (getCurrentDayId time q).1 = time / 86400 % 2 ^ 32 := by
  simp [getCurrentDayId, valid]

@[simp] theorem flushQuotaState_records (nvs : Nat → Bool) (now : Nat) (force : Bool)
    (q : QuotaState) : (flushQuotaState nvs now force q).records = q.records := by
  unfold flushQuotaState
  repeat' split
  all_goals rfl

/-- A lookup answers what is left, and leaves the record of the MAC on the current day. -/
theorem getQuotaRemaining_spec (time : Nat) {mac : Mac} (nonzero : mac ≠ 0) (q : QuotaState) :
    (getQuotaRemainingForMac time mac q).1 =
        dailyQuotaSec - recordedUse q.records mac (getCurrentDayId time q).1 ∧
      (getQuotaRemainingForMac time mac q).2.records =
        putRecord q.records mac (getCurrentDayId time q).1
          (recordedUse q.records mac (getCurrentDayId time q).1) := by
  have spec := findOrAlloc_records nonzero (getCurrentDayId time q).1 (getCurrentDayId time q).2
  rw [getCurrentDayId_records] at spec
  unfold getQuotaRemainingForMac
  simp only [if_neg nonzero, spec.1]
  have used : ((findOrAllocQuotaRecord mac (getCurrentDayId time q).1
      (getCurrentDayId time q).2).2.records
        ((recordOf q.records mac).getD (freeRecord q.records))).usedSeconds =
      recordedUse q.records mac (getCurrentDayId time q).1 := by
    rw [spec.2]
    simp [putRecord]
  rw [used]
  split
  · exact ⟨by omega, spec.2⟩
  · exact ⟨rfl, spec.2⟩

theorem tableOk_boot (now : Nat) : TableOk (loadQuotaState now).records := by
  constructor <;> simp [loadQuotaState, QuotaRecord.zero]

/-- A lookup keeps the table in order. -/
theorem tableOk_lookup {q : QuotaState} (ok : TableOk q.records) (time : Nat) (mac : Mac) :
    TableOk (getQuotaRemainingForMac time mac q).2.records := by
  by_cases zero : mac = 0
  · simpa [getQuotaRemainingForMac, zero] using ok
  · rw [(getQuotaRemaining_spec time zero q).2]
    exact tableOk_putRecord ok zero _ (recordedUse_le ok mac _)

/-- The day a session is charged to. -/
def chargedDay (m : Moment) (session : ClientSession) (q : QuotaState) : Nat :=
  if session.dayId ≠ 0 then session.dayId else (getCurrentDayId m.time q).1

/-- What a charge leaves in the record. -/
def chargedUse (used delta : Nat) : Nat :=
  min dailyQuotaSec ((used + delta) % 2 ^ 32)

theorem chargedUse_le (used delta : Nat) : chargedUse used delta ≤ dailyQuotaSec :=
  Nat.min_le_left _ _

theorem elapsedSeconds_lt (now : Nat) (session : ClientSession) :
    elapsedSeconds now session < 2 ^ 32 :=
  Nat.lt_of_le_of_lt (Nat.min_le_left _ _) (Nat.mod_lt _ (by decide))

theorem chargeRecord_records {mac : Mac} (nonzero : mac ≠ 0) (dayId delta : Nat)
    (q : QuotaState) :
    (chargeRecord mac dayId delta q).records =
      putRecord q.records mac dayId (chargedUse (recordedUse q.records mac dayId) delta) := by
  have spec := findOrAlloc_records nonzero dayId q
  unfold chargeRecord
  simp only [spec.1, spec.2]
  simp only [putRecord, Function.update_self, Function.update_idem, chargedUse]
  congr 2
  split <;> omega

/-- A charge writes the record of the session's MAC and day. -/
theorem chargeUsage_records (m : Moment) {session : ClientSession} (nonzero : session.mac ≠ 0)
    (q : QuotaState) :
    (chargeUsage m session q).records =
      putRecord q.records session.mac (chargedDay m session q)
        (chargedUse (recordedUse q.records session.mac (chargedDay m session q))
          (elapsedSeconds m.now session - session.accountedSeconds)) := by
  unfold chargeUsage chargedDay
  split
  · exact chargeRecord_records nonzero _ _ q
  · rw [chargeRecord_records nonzero, getCurrentDayId_records]

/-- A checkpoint changes the table only by the charge, when there is something due. -/
theorem checkpoint_records (nvs : Nat → Bool) (m : Moment) (force : Bool)
    (session : ClientSession) (q : QuotaState) :
    (checkpointSessionUsage nvs m force session q).2.records =
      if nothingDue m.now session then q.records else (chargeUsage m session q).records := by
  unfold checkpointSessionUsage
  split
  · split <;> simp
  · simp

theorem mac_ne_zero_of_due {now : Nat} {session : ClientSession}
    (due : nothingDue now session = false) : session.mac ≠ 0 := by
  simp only [nothingDue, Bool.or_eq_false_iff, beq_eq_false_iff_ne] at due
  exact due.1.1.1.1

end SolarConnect.Session
