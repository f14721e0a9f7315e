import SolarConnect.Sensors.PortSync
import Mathlib.Tactic.NormNum
import Mathlib.Algebra.Order.Ring.Int

/-!
# In-use time

How much of a stretch of consecutive in-use polls `s_daily_in_use_seconds` counts. Every
gap is divided by 1000 on its own and the anchor moves to the poll, so what a gap leaves
over is dropped. The accumulator is right to within a second exactly when the dropped
milliseconds stay below two seconds.
-/

namespace SolarConnect.PortSync

/-- A poll that finds the port present and reads it as in use. -/
def ReadsInUse (i : PortSensorId) (q : Poll) : Prop :=
  (q.port i).present = true ∧ (q.port i).status = .inUse

/-- The gaps between consecutive polls, the first one measured from `last`, all lie
    strictly between 0 and 60000 ms. -/
def GapsOk : Int → List Poll → Prop
  | _, [] => True
  | last, q :: qs => 0 < q.nowMs - last ∧ q.nowMs - last < 60000 ∧ GapsOk q.nowMs qs

/-- The time of the last of the polls, or `last` when there are none. -/
def endMs : Int → List Poll → Int
  | last, [] => last
  | _, q :: qs => endMs q.nowMs qs

/-- The milliseconds the accumulator drops: what every gap leaves over after its division
    by 1000, and a whole gap that starts at time 0, which the loop takes for "no previous
    poll". -/
def droppedMs : Int → List Poll → Int
  | _, [] => 0
  | last, q :: qs =>
    (if last = 0 then q.nowMs - last else (q.nowMs - last) % 1000) + droppedMs q.nowMs qs

/-- The seconds the accumulator counts. -/
def countedSeconds : Int → List Poll → Nat
  | _, [] => 0
  | last, q :: qs =>
    (if last = 0 then 0 else ((q.nowMs - last) / 1000).toNat) + countedSeconds q.nowMs qs

/-- How far `s_daily_in_use_seconds` of a port has grown from `s` to `s'`, as the difference
    of two `uint32_t` values. -/
def growth (i : PortSensorId) (s s' : SyncState) : Int :=
  ((s'.port i).dailyInUseSeconds - (s.port i).dailyInUseSeconds : Int) % 2 ^ 32

/-- `grown` is `stretch` seconds, up to one second. -/
def WithinSecond (grown stretch : Int) : Prop :=
  grown ≤ stretch + 1 ∧ stretch ≤ grown + 1

/-- Counted and dropped time make up the stretch. -/
theorem counted_add_dropped (last : Int) (polls : List Poll) (gaps : GapsOk last polls) :
    1000 * (countedSeconds last polls : Int) + droppedMs last polls = endMs last polls - last := by
  induction polls generalizing last with
  | nil => simp [countedSeconds, droppedMs, endMs]
  | cons q qs ih =>
    obtain ⟨positive, -, rest⟩ := gaps
    have tail := ih q.nowMs rest
    simp only [countedSeconds, droppedMs, endMs]
    split <;> push_cast <;> omega

theorem droppedMs_nonneg (last : Int) (polls : List Poll) (gaps : GapsOk last polls) :
    0 ≤ droppedMs last polls := by
  induction polls generalizing last with
  | nil => simp [droppedMs]
  | cons q qs ih =>
    obtain ⟨positive, -, rest⟩ := gaps
    have tail := ih q.nowMs rest
    simp only [droppedMs]
    split <;> omega

/-- One in-use poll on the day of the anchor. -/
theorem poll_inUse (i : PortSensorId) (q : Poll) (s : SyncState) (reads : ReadsInUse i q)
    (day : ((q.time / 86400 : Nat) : Int) = s.utcDayAnchor)
    (positive : 0 < q.nowMs - (s.port i).lastAccumTsMs)
    (short : q.nowMs - (s.port i).lastAccumTsMs < 60000) :
    ((poll q s).port i).dailyInUseSeconds % 2 ^ 32 =
        ((s.port i).dailyInUseSeconds + (if (s.port i).lastAccumTsMs = 0 then 0
          else ((q.nowMs - (s.port i).lastAccumTsMs) / 1000).toNat)) % 2 ^ 32 ∧
      ((poll q s).port i).lastAccumTsMs = q.nowMs := by
  have effect := pollPort_accumulates q.nowMs i (q.port i) (s.port i) reads.1 (Or.inr reads.2)
  simp only [poll, updateDailyAnchor_sameDay q.time s day]
  refine ⟨?_, effect.2⟩
  rw [effect.1]
  by_cases fresh : (s.port i).lastAccumTsMs = 0
  · simp [accumulate, fresh]
  · have later : (s.port i).lastAccumTsMs < q.nowMs := by omega
    simp [accumulate, reads.2, fresh, later, short]

/-- A stretch of in-use polls adds `countedSeconds` to the accumulator, modulo `2 ^ 32`. -/
theorem runPolls_inUse (i : PortSensorId) (polls : List Poll) (s : SyncState)
    (reads : ∀ q ∈ polls, ReadsInUse i q)
    (day : ∀ q ∈ polls, ((q.time / 86400 : Nat) : Int) = s.utcDayAnchor)
    (gaps : GapsOk (s.port i).lastAccumTsMs polls) :
    ((runPolls s polls).port i).dailyInUseSeconds % 2 ^ 32 =
      ((s.port i).dailyInUseSeconds + countedSeconds (s.port i).lastAccumTsMs polls) %
        2 ^ 32 := by
  induction polls generalizing s with
  | nil => simp [runPolls, countedSeconds]
  | cons q qs ih =>
    obtain ⟨positive, short, rest⟩ := gaps
    have step := poll_inUse i q s (reads q (by simp)) (day q (by simp)) positive short
    have tail := ih (poll q s) (fun r member => reads r (by simp [member]))
      (fun r member => by
        rw [poll_anchor, day q (by simp)]
        exact day r (by simp [member]))
      (by rw [step.2]; exact rest)
    rw [step.2] at tail
    change ((runPolls (poll q s) qs).port i).dailyInUseSeconds % 2 ^ 32 = _
    rw [tail, Nat.add_mod, step.1, ← Nat.add_mod, countedSeconds]
    simp only [Nat.add_assoc]

/-- The accumulator counts a stretch of in-use polls to within a second if and only if the
    milliseconds the polls drop stay below two seconds. The stretch starts at the poll
    `first` of any run and lies within one UTC day. -/
theorem growth_within_second_iff (i : PortSensorId) (history : List Poll) (first : Poll)
    (polls : List Poll) (firstReads : ReadsInUse i first) (reads : ∀ q ∈ polls, ReadsInUse i q)
    (gaps : GapsOk first.nowMs polls)
    (sameDay : ∀ q ∈ polls, q.time / 86400 = first.time / 86400)
    (withinDay : endMs first.nowMs polls - first.nowMs < 86400 * 1000) :
    let start := runPolls SyncState.init (history ++ [first])
    WithinSecond (growth i start (runPolls start polls))
        ((endMs first.nowMs polls - first.nowMs) / 1000) ↔
      droppedMs first.nowMs polls < 2000 := by
  intro start
  have startPoll : start = poll first (runPolls SyncState.init history) := by
    simp [start, runPolls]
  have anchor : start.utcDayAnchor = ((first.time / 86400 : Nat) : Int) := by
    rw [startPoll, poll_anchor]
  have last : (start.port i).lastAccumTsMs = first.nowMs := by
    rw [startPoll]
    exact (pollPort_accumulates first.nowMs i (first.port i) _ firstReads.1
      (Or.inr firstReads.2)).2
  have run := runPolls_inUse i polls start reads
    (fun q member => by rw [anchor, sameDay q member]) (by rw [last]; exact gaps)
  rw [last] at run
  have total := counted_add_dropped first.nowMs polls gaps
  have dropped := droppedMs_nonneg first.nowMs polls gaps
  have grown : growth i start (runPolls start polls) = countedSeconds first.nowMs polls := by
    unfold growth
    omega
  rw [grown, WithinSecond]
  omega

/-- The default schedule: a port read as in use every 500 ms from one second after boot. -/
def halfSecondPoll (k : Nat) : Poll where
  nowMs := 1000 + 500 * k
  time := 1760000000
  port _ := ⟨true, .inUse, true⟩

/-- Polls 1.5 s apart lose half a second each time, one second in all after two of them. -/
def slowPoll (k : Nat) : Poll where
  nowMs := 1000 + 1500 * k
  time := 1760000000
  port _ := ⟨true, .inUse, true⟩

theorem growth_within_second_iff_slow :
    let start := runPolls SyncState.init ([] ++ [slowPoll 0])
    WithinSecond (growth .usbC1 start (runPolls start [slowPoll 1, slowPoll 2]))
        ((endMs 1000 [slowPoll 1, slowPoll 2] - 1000) / 1000) ↔
      droppedMs 1000 [slowPoll 1, slowPoll 2] < 2000 :=
  growth_within_second_iff .usbC1 [] (slowPoll 0) [slowPoll 1, slowPoll 2] ⟨rfl, rfl⟩
    (by simp [ReadsInUse, slowPoll]) (by simp [GapsOk, slowPoll]) (by simp [slowPoll])
    (by simp [endMs, slowPoll])

/-- With the default poll period nothing is ever counted: two seconds in use leave the
    accumulator where it was. -/
theorem growth_not_within_second :
    ¬ ∀ (i : PortSensorId) (history : List Poll) (first : Poll) (polls : List Poll),
      ReadsInUse i first → (∀ q ∈ polls, ReadsInUse i q) → GapsOk first.nowMs polls →
      (∀ q ∈ polls, q.time / 86400 = first.time / 86400) →
      endMs first.nowMs polls - first.nowMs < 86400 * 1000 →
      WithinSecond
        (growth i (runPolls SyncState.init (history ++ [first]))
          (runPolls (runPolls SyncState.init (history ++ [first])) polls))
        ((endMs first.nowMs polls - first.nowMs) / 1000) := by
  intro counts
  have late := (counts .usbC1 [] (halfSecondPoll 0)
    [halfSecondPoll 1, halfSecondPoll 2, halfSecondPoll 3, halfSecondPoll 4] ⟨rfl, rfl⟩
    (by simp [ReadsInUse, halfSecondPoll]) (by simp [GapsOk, halfSecondPoll])
    (by simp [halfSecondPoll]) (by simp [endMs, halfSecondPoll])).2
  revert late
  decide

end SolarConnect.PortSync
