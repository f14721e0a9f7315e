import SolarConnect.Session.Quota
import Mathlib.Tactic.IntervalCases

/-!
# Recorded usage within a day

What a sequence of lookups and checkpoints does to the seconds recorded for a day. A call
loses recorded seconds in three ways: it needs a record for a new MAC while the table is full,
and slot 0 holds seconds of that day; it charges a session of another day to a MAC that has
seconds of that day; or the sum wraps around `2 ^ 32`. Without such a call no remaining quota
ever grows.
-/

namespace SolarConnect.Session

open Slots

/-- A call of `get_quota_remaining_for_mac` or of `checkpoint_session_usage`, with what the
    clocks read. -/
inductive QuotaCall
  | remaining (time : Nat) (mac : Mac)
  | checkpoint (m : Moment) (forceFlush : Bool) (session : ClientSession)

/-- `time(NULL)` during the call. -/
def QuotaCall.time : QuotaCall → Nat
  | .remaining time _ => time
  | .checkpoint m _ _ => m.time

/-- The quota state after a call. -/
def runQuotaCall (nvs : Nat → Bool) (q : QuotaState) : QuotaCall → QuotaState
  | .remaining time mac => (getQuotaRemainingForMac time mac q).2
  | .checkpoint m forceFlush session => (checkpointSessionUsage nvs m forceFlush session q).2

/-- The quota state after a sequence of calls. -/
def runQuotaCalls (nvs : Nat → Bool) (q : QuotaState) (calls : List QuotaCall) : QuotaState :=
  calls.foldl (runQuotaCall nvs) q

/-- The clock is set, and `get_current_day_id` answers `day`. -/
def OnDay (day time : Nat) : Prop :=
  hasValidSystemTime time = true ∧ time / 86400 % 2 ^ 32 = day

instance (day time : Nat) : Decidable (OnDay day time) := by
  unfold OnDay
  infer_instance

/-- A record for the MAC takes the place of one that has seconds of the day. -/
def EvictsUse (day : Nat) (records : QuotaTable) (mac : Mac) : Prop :=
  Evicts records mac ∧ 0 < recordedUse records (records ⟨0, maxClients_pos⟩).mac day

/-- Charging the session loses seconds recorded for its MAC: it is of another day, or the sum
    does not fit in 32 bits. -/
def ChargeLosesUse (day now : Nat) (records : QuotaTable) (session : ClientSession) : Prop :=
  0 < recordedUse records session.mac day ∧
    (session.dayId ≠ 0 ∧ session.dayId ≠ day ∨
      2 ^ 32 ≤ recordedUse records session.mac day +
        (elapsedSeconds now session - session.accountedSeconds))

/-- The call loses seconds recorded for the day. -/
def LosesUse (day : Nat) (records : QuotaTable) : QuotaCall → Prop
  | .remaining _ mac => mac ≠ 0 ∧ EvictsUse day records mac
  | .checkpoint m _ session =>
    nothingDue m.now session = false ∧
      (EvictsUse day records session.mac ∨ ChargeLosesUse day m.now records session)

/-! ## One call -/

theorem tableOk_runQuotaCall {nvs : Nat → Bool} {q : QuotaState} (ok : TableOk q.records)
    (call : QuotaCall) : TableOk (runQuotaCall nvs q call).records := by
  cases call with
  | remaining time mac => exact tableOk_lookup ok time mac
  | checkpoint m forceFlush session =>
    rw [runQuotaCall, checkpoint_records]
    split
    · exact ok
    · rename_i due
      have nonzero := mac_ne_zero_of_due (Bool.not_eq_true _ ▸ due)
      rw [chargeUsage_records m nonzero]
      exact tableOk_putRecord ok nonzero _ (chargedUse_le _ _)

theorem tableOk_runQuotaCalls {nvs : Nat → Bool} {q : QuotaState} (ok : TableOk q.records)
    (calls : List QuotaCall) : TableOk (runQuotaCalls nvs q calls).records := by
  induction calls generalizing q with
  | nil => exact ok
  | cons call calls ih => exact ih (tableOk_runQuotaCall ok call)

/-- Writing one record keeps every MAC's recorded seconds of the day, if and only if it keeps
    those of its own MAC and evicts none. -/
theorem putRecord_keeps_iff {records : QuotaTable} (ok : TableOk records) {mac : Mac}
    (nonzero : mac ≠ 0) (dayId : Nat) {used : Nat} (capped : used ≤ dailyQuotaSec) (day : Nat) :
    (∀ m, m ≠ 0 →
      recordedUse records m day ≤ recordedUse (putRecord records mac dayId used) m day) ↔
      recordedUse records mac day ≤ (if dayId = day then used else 0) ∧
        ¬ EvictsUse day records mac := by
  constructor
  · intro keeps
    constructor
    · rw [← recordedUse_putRecord_self records mac dayId used day]
      exact keeps mac nonzero
    · rintro ⟨evicts, lost⟩
      have kept := keeps _ (ok.nonzero _ (evicts.2 ⟨0, maxClients_pos⟩))
      rw [recordedUse_putRecord_evicted ok dayId used evicts] at kept
      omega
  · rintro ⟨own, room⟩ m -
    by_cases same : m = mac
    · rw [same, recordedUse_putRecord_self]
      exact own
    by_cases evicted : Evicts records mac ∧ (records ⟨0, maxClients_pos⟩).mac = m
    · obtain ⟨evicts, rfl⟩ := evicted
      have nothing : recordedUse records (records ⟨0, maxClients_pos⟩).mac day = 0 := by
        by_contra some_use
        exact room ⟨evicts, Nat.pos_of_ne_zero some_use⟩
      rw [nothing]
      exact Nat.zero_le _
    · rw [recordedUse_putRecord_other ok nonzero dayId capped same
        fun evicts place => evicted ⟨evicts, place⟩]

/-- A call keeps the recorded seconds of every MAC if and only if it is none of the three. -/
theorem runQuotaCall_keeps_iff {nvs : Nat → Bool} {q : QuotaState} (ok : TableOk q.records)
    {day : Nat} (call : QuotaCall) (today : OnDay day call.time) :
    (∀ m, m ≠ 0 →
        recordedUse q.records m day ≤ recordedUse (runQuotaCall nvs q call).records m day) ↔
      ¬ LosesUse day q.records call := by
  cases call with
  | remaining time mac =>
    by_cases zero : mac = 0
    · simp [runQuotaCall, getQuotaRemainingForMac, LosesUse, zero]
    · have current : (getCurrentDayId time q).1 = day :=
        (getCurrentDayId_valid today.1 q).trans today.2
      rw [runQuotaCall, (getQuotaRemaining_spec time zero q).2, current,
        putRecord_keeps_iff ok zero day (recordedUse_le ok mac day), if_pos rfl]
      simp only [LosesUse, le_refl, true_and, ne_eq, zero, not_false_eq_true]
  | checkpoint m forceFlush session =>
    rw [runQuotaCall, checkpoint_records]
    cases due : nothingDue m.now session with
    | true => simp [LosesUse, due]
    | false =>
      have nonzero := mac_ne_zero_of_due due
      have current : (getCurrentDayId m.time q).1 = day :=
        (getCurrentDayId_valid today.1 q).trans today.2
      have small := elapsedSeconds_lt m.now session
      have used := recordedUse_le ok session.mac day
      rw [if_neg (by simp), chargeUsage_records m nonzero,
        putRecord_keeps_iff ok nonzero _ (chargedUse_le _ _)]
      simp only [LosesUse, due, true_and, not_or, ChargeLosesUse, dailyQuotaSec] at used ⊢
      rw [and_comm]
      refine and_congr_right fun _ => ?_
      unfold chargedDay chargedUse dailyQuotaSec
      rw [current]
      split
      · split
        · rename_i same
          rw [same]
          omega
        · omega
      · rw [if_pos rfl]
        omega

/-! ## Sequences of calls -/

/-- A sequence of numbers falls along its first `n` steps if it falls at each of them. -/
theorem falls_iff {f : Nat → Nat} {n : Nat} :
    (∀ i j, i ≤ j → j ≤ n → f j ≤ f i) ↔ ∀ k < n, f (k + 1) ≤ f k := by
  refine ⟨fun falls k within => falls k (k + 1) (Nat.le_succ k) within, fun steps i j order => ?_⟩
  induction j, order using Nat.le_induction with
  | base => exact fun _ => le_rfl
  | succ j _ ih => exact fun within => (steps j within).trans (ih (Nat.le_of_succ_le within))

/-- The quota state after the first `k` of the calls. -/
def quotaAfter (nvs : Nat → Bool) (q : QuotaState) (calls : List QuotaCall) (k : Nat) :
    QuotaState :=
  runQuotaCalls nvs q (calls.take k)

theorem quotaAfter_succ (nvs : Nat → Bool) (q : QuotaState) (calls : List QuotaCall) {k : Nat}
    (within : k < calls.length) :
    quotaAfter nvs q calls (k + 1) = runQuotaCall nvs (quotaAfter nvs q calls k) calls[k] := by
  rw [quotaAfter, runQuotaCalls, List.take_succ_eq_append_getElem within, List.foldl_append]
  rfl

/-- Along calls made on one day, after any earlier calls, the remaining quota of no MAC ever
    grows, if and only if none of the calls loses seconds recorded for that day. -/
theorem remaining_never_grows_iff (nvs : Nat → Bool) (boot day : Nat)
    (history calls : List QuotaCall) (sameDay : ∀ call ∈ calls, OnDay day call.time) :
    let q := quotaAfter nvs (runQuotaCalls nvs (loadQuotaState boot) history) calls
    (∀ m, m ≠ 0 → ∀ time, OnDay day time → ∀ i j, i ≤ j → j ≤ calls.length →
        (getQuotaRemainingForMac time m (q j)).1 ≤ (getQuotaRemainingForMac time m (q i)).1) ↔
      ∀ k (within : k < calls.length), ¬ LosesUse day (q k).records calls[k] := by
  intro q
  have ok : ∀ k, TableOk (q k).records := fun k =>
    tableOk_runQuotaCalls (tableOk_runQuotaCalls (tableOk_boot boot) history) _
  have remaining : ∀ {m : Mac} {time : Nat} (k : Nat), m ≠ 0 → OnDay day time →
      (getQuotaRemainingForMac time m (q k)).1 =
        dailyQuotaSec - recordedUse (q k).records m day := by
    intro m time k nonzero today
    rw [(getQuotaRemaining_spec time nonzero (q k)).1, getCurrentDayId_valid today.1, today.2]
  have step : ∀ k (within : k < calls.length),
      (∀ m, m ≠ 0 → recordedUse (q k).records m day ≤ recordedUse (q (k + 1)).records m day) ↔
        ¬ LosesUse day (q k).records calls[k] := by
    intro k within
    have next : q (k + 1) = runQuotaCall nvs (q k) calls[k] := quotaAfter_succ nvs _ calls within
    rw [next]
    exact runQuotaCall_keeps_iff (ok k) calls[k] (sameDay _ (List.getElem_mem within))
  constructor
  · intro falls k within
    refine (step k within).mp fun m nonzero => ?_
    have today := sameDay _ (List.getElem_mem within)
    have fall := falls m nonzero _ today k (k + 1) (Nat.le_succ k) within
    rw [remaining _ nonzero today, remaining _ nonzero today] at fall
    have before := recordedUse_le (ok k) m day
    omega
  · intro safe m nonzero time today
    refine falls_iff.mpr fun k within => ?_
    rw [remaining _ nonzero today, remaining _ nonzero today]
    have grows := (step k within).mpr (safe k within) m nonzero
    omega

/-! ## The twenty-first device -/

/-- A clock reading on day 19675. -/
def someTime : Nat := 1700000000

/-- Ten minutes of a full grant, checkpointed for a MAC. -/
def tenMinutes (mac : Mac) : QuotaCall :=
  .checkpoint ⟨601000000, someTime, by decide⟩ false
    { ClientSession.zero with
      mac := mac, startTime := 1000000, endTime := 3601000000, grantedSeconds := 3600,
      dayId := 19675, admitted := true, active := true }

theorem remaining_never_grows_iff_two :
    let calls := [tenMinutes 1, .remaining someTime 2, tenMinutes 2]
    let q := quotaAfter (fun _ => true) (runQuotaCalls (fun _ => true) (loadQuotaState 1) []) calls
    (getQuotaRemainingForMac someTime 1 (q 3)).1 ≤
      (getQuotaRemainingForMac someTime 1 (q 1)).1 := by
  have today : ∀ call ∈ [tenMinutes 1, .remaining someTime 2, tenMinutes 2],
      OnDay 19675 call.time := by
    decide
  refine (remaining_never_grows_iff (fun _ => true) 1 19675 [] _ today).mpr ?_ 1 (by decide)
    someTime (by decide) 1 3 (by decide) (by decide)
  have room : ∀ k ≤ 3, ∀ mac : Mac, ¬ Evicts (quotaAfter (fun _ => true)
      (runQuotaCalls (fun _ => true) (loadQuotaState 1) [])
      [tenMinutes 1, .remaining someTime 2, tenMinutes 2] k).records mac := by
    intro k few mac evicts
    have full := evicts.2 ⟨19, by decide⟩
    interval_cases k <;> revert full <;> decide +kernel
  intro k within
  have few : k ≤ 2 := by
    have : k < 3 := within
    omega
  have kept := room k (by omega)
  interval_cases k
  · rintro ⟨-, ⟨evicts, -⟩ | ⟨used, -⟩⟩
    · exact kept _ evicts
    · revert used
      decide +kernel
  · exact fun ⟨_, evicts, _⟩ => kept _ evicts
  · rintro ⟨-, ⟨evicts, -⟩ | ⟨used, -⟩⟩
    · exact kept _ evicts
    · revert used
      decide +kernel

/-- Ten minutes recorded for the first device are gone once twenty others have been looked
    up. -/
theorem remaining_grows_with_new_devices :
    ¬ ∀ (nvs : Nat → Bool) (boot day : Nat) (history calls : List QuotaCall),
      (∀ call ∈ calls, OnDay day call.time) →
        let q := quotaAfter nvs (runQuotaCalls nvs (loadQuotaState boot) history) calls
        ∀ m, m ≠ 0 → ∀ time, OnDay day time → ∀ i j, i ≤ j → j ≤ calls.length →
          (getQuotaRemainingForMac time m (q j)).1 ≤ (getQuotaRemainingForMac time m (q i)).1 := by
  intro claim
  have falls := claim (fun _ => true) 1 19675 []
    (tenMinutes 1 :: (List.range 20).map fun k => .remaining someTime (BitVec.ofNat 48 (k + 2)))
    (by decide +kernel) 1 (by decide) someTime (by decide) 1 21 (by decide) (by decide)
  revert falls
  decide +kernel

end SolarConnect.Session
