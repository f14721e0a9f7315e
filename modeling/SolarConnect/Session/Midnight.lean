import SolarConnect.Session.DailyUse

/-!
# Sessions and midnight

A session is charged to the day it was started on, so it should be over by the next midnight.
`start_or_resume_session` takes the seconds it is given: `/confirm` caps them by
`get_seconds_until_next_day` when it knows a MAC, and not otherwise, and
`handle_client_connect` does not cap them. The cap itself counts from an earlier reading of the
clock, and the second that is under way as a whole one.
-/

namespace SolarConnect.Session

open Slots

/-- The session carries the day it was started on, and is over by the first midnight after. -/
def InItsDay (wall : Nat) (session : ClientSession) : Prop :=
  session.dayId = dayAt wall session.startTime % 2 ^ 32 ∧
    wall + session.endTime ≤ (dayAt wall session.startTime + 1) * dayUs

instance (wall : Nat) (session : ClientSession) : Decidable (InItsDay wall session) :=
  inferInstanceAs (Decidable (_ ∧ _))

/-- Every session that has been started is in its day. -/
def SessionsInDay (wall : Nat) (s : Server) : Prop :=
  ∀ i, (s.sessions i).endTime ≠ 0 → InItsDay wall (s.sessions i)

instance (wall : Nat) (s : Server) : Decidable (SessionsInDay wall s) :=
  inferInstanceAs (Decidable (∀ _, _))

/-- The whole seconds left of the day. -/
def secondsLeft (wall now : Nat) : Nat :=
  ((dayAt wall now + 1) * dayUs - (wall + now)) / secondUs

/-- `/confirm` counts the seconds to midnight before the start reads the timer: on the same day they
    are left only when no time has passed since a whole second. -/
def CapFits (wall : Nat) (m : Clocks) : Prop :=
  if m.capped / 86400 = dayAt wall m.now then wall + m.now = m.capped * secondUs
  else getSecondsUntilNextDay m.capped ≤ secondsLeft wall m.now

/-- The seconds an operation grants are left of the day. -/
def GrantFits (wall : Nat) (m : Clocks) (op : Operation) (s : Server) : Prop :=
  match op with
  | .clientConnect _ _ mac =>
    (getQuotaRemainingForMac m.asked mac s.quota).1 ≤ secondsLeft wall m.now
  | .confirm ap _ ip =>
    match confirmMac ap ip with
    | none => sessionDurationSec ≤ secondsLeft wall m.now
    | some mac =>
      (getQuotaRemainingForMac m.asked mac s.quota).1 ≤ secondsLeft wall m.now ∨ CapFits wall m
  | .startOrResume req => req.duration ≤ secondsLeft wall m.now
  | _ => True

/-- The operation starts or restarts no session, or does so on the day its clocks both tell, and
    grants it seconds of the day. -/
def StartsInDay (p : Platform) (wall : Nat) (input : Input) (s : Server) : Prop :=
  ∀ req, requestOf p input.1 input.2 s = some req → Binds req →
    (requestBinding input.1 req s.sessions).reuse = false →
      input.1.time / 86400 % 2 ^ 32 = dayAt wall input.1.now % 2 ^ 32 ∧
        GrantFits wall input.1 input.2 s

/-! ## What fits into the day -/

theorem started_inItsDay_iff {wall : Nat} (m : Moment) (req : StartRequest) (dayId : Nat) :
    InItsDay wall (startedSession m dayId req) ↔
      dayId = dayAt wall m.now % 2 ^ 32 ∧ req.duration ≤ secondsLeft wall m.now := by
  have before := (dayAt_bounds wall m.now).2
  have fits : wall + (m.now + req.duration * secondUs) ≤ (dayAt wall m.now + 1) * dayUs ↔
      req.duration ≤ secondsLeft wall m.now := by
    rw [secondsLeft, Nat.le_div_iff_mul_le (by decide)]
    omega
  exact and_congr_right fun _ => fits

/-- The seconds to midnight, counted on the same day, are all left exactly at the whole second at
    which they are counted. -/
theorem untilNextDay_le_iff {wall : Nat} {m : Clocks} (valid : ClockValid wall m)
    (sameDay : m.capped / 86400 = dayAt wall m.now) :
    getSecondsUntilNextDay m.capped ≤ secondsLeft wall m.now ↔
      wall + m.now = m.capped * secondUs := by
  have clockSet := hasValidSystemTime_mono valid.clockSet valid.capped
  have midnight := (dayAt_bounds wall m.now).2
  have counted : m.capped < (m.capped / 86400 + 1) * 86400 :=
    Nat.lt_mul_of_div_lt (Nat.lt_succ_self _) (by decide)
  have order := valid.before
  rw [getSecondsUntilNextDay, if_pos clockSet, secondsLeft]
  rw [sameDay] at counted ⊢
  rw [dayUs, ← Nat.mul_assoc] at midnight ⊢
  generalize (dayAt wall m.now + 1) * 86400 = next at midnight counted ⊢
  rw [Nat.le_div_iff_mul_le (by decide)]
  rw [secondUs] at midnight order ⊢
  omega

theorem capFits_iff {wall : Nat} {m : Clocks} (valid : ClockValid wall m) :
    CapFits wall m ↔ getSecondsUntilNextDay m.capped ≤ secondsLeft wall m.now := by
  unfold CapFits
  split
  · exact (untilNextDay_le_iff valid ‹_›).symm
  · exact Iff.rfl

/-- The request of an operation fits into the day exactly when the grant does. -/
theorem grantFits_iff {p : Platform} {wall : Nat} {m : Clocks} {op : Operation} {s : Server}
    {req : StartRequest} (request : requestOf p m op s = some req) (valid : ClockValid wall m) :
    GrantFits wall m op s ↔ req.duration ≤ secondsLeft wall m.now := by
  cases op with
  | startOrResume given =>
    cases request
    exact Iff.rfl
  | clientConnect ap random mac =>
    obtain ⟨starts, same⟩ := Option.ite_none_right_eq_some.mp request
    cases same
    rw [duration_granted (Nat.pos_of_ne_zero starts.2.2.1) rfl]
    exact Iff.rfl
  | confirm ap random ip =>
    obtain ⟨granted, starts, rfl⟩ := Option.map_eq_some_iff.mp request
    obtain ⟨-, starts⟩ := Option.ite_none_right_eq_some.mp starts
    rw [GrantFits]
    cases resolved : confirmMac ap ip with
    | none =>
      rw [resolved] at starts
      obtain rfl : sessionDurationSec = granted := Option.some.inj starts
      rw [duration_granted (by decide) rfl]
    | some mac =>
      rw [resolved, confirmGrant] at starts
      split at starts
      · cases starts
      rename_i someLeft
      obtain rfl := Option.some.inj starts
      rw [duration_granted (lt_min (untilNextDay_pos _) (Nat.not_le.mp someLeft)) rfl, min_le_iff,
        capFits_iff valid]
      exact Or.comm
  | _ => cases request

/-! ## Runs -/

theorem SameTimes.inItsDay {wall : Nat} {a b : ClientSession} (same : SameTimes a b) :
    InItsDay wall b ↔ InItsDay wall a := by
  simp only [InItsDay, same.startTime, same.endTime, same.dayId]

/-- A session that a step starts is in its day exactly when it is started there and the grant
    fits. -/
theorem NewIn.inItsDay_iff {p : Platform} {wall : Nat} {input : Input} {s : Server}
    {req : StartRequest} {i : Fin maxClients} {session : ClientSession} {q : QuotaState}
    (new : NewIn p input.1 input.2 s req i) (valid : ClockValid wall input.1)
    (times : SameTimes (startedSession input.1 (currentDay input.1 q) req) session) :
    InItsDay wall session ↔
      input.1.time / 86400 % 2 ^ 32 = dayAt wall input.1.now % 2 ^ 32 ∧
        GrantFits wall input.1 input.2 s := by
  rw [times.inItsDay, started_inItsDay_iff, currentDay_valid valid.time_set,
    grantFits_iff new.1 valid]

theorem SessionsInDay.step {p : Platform} {wall : Nat} {input : Input} {s : Server}
    (timed : Timed s.sessions) (inDay : SessionsInDay wall s) (valid : ClockValid wall input.1)
    (fits : StartsInDay p wall input s) : SessionsInDay wall (stepInput p input s) := by
  intro i started
  rw [stepInput] at started ⊢
  rcases (step_books p input.1 input.2 timed).times i with ⟨req, new, times⟩ | ⟨-, times, -⟩
  · exact (new.inItsDay_iff valid times).mpr (fits req new.1 new.2.1 new.2.2.2)
  · rw [times.endTime] at started
    exact times.inItsDay.mpr (inDay i started)

/-- A run whose clock is set and goes with the timer keeps every session in its day, if and only
    if every start is made on the day of its clocks and grants seconds of the day. -/
theorem sessions_in_day_iff (p : Platform) (wall boot : Nat) (inputs : List Input)
    (clocks : ∀ input ∈ inputs, ClockValid wall input.1) :
    (∀ prior, prior <+: inputs → SessionsInDay wall (serverAfter p boot prior)) ↔
      Runs.Guarded (stepInput p) (StartsInDay p wall) (initSessions boot) inputs := by
  apply Runs.always_iff_guarded (SessionsInDay wall)
    (fun s => Timed s.sessions ∧ SessionsInDay wall s)
  · refine ⟨timed_init boot, ?_⟩
    intro i started
    exact absurd rfl started
  · rintro s ⟨-, inDay⟩
    exact inDay
  · exact Runs.guarded_of_forall clocks
  · rintro input s ⟨timed, inDay⟩ valid starts
    exact ⟨timed.step, inDay.step timed valid starts⟩
  · rintro input s ⟨timed, -⟩ valid unfit inDay
    apply unfit
    intro req request binds begins
    -- the slot keeps the times it is given, whatever the refresh after that ends
    have new : NewIn p input.1 input.2 s req (requestBinding input.1 req s.sessions).slot :=
      ⟨request, binds, rfl, begins⟩
    rcases (step_books p input.1 input.2 timed).times (requestBinding input.1 req s.sessions).slot
      with ⟨req', new', times⟩ | ⟨none, -, -⟩
    · obtain rfl : req = req' := Option.some.inj (request.symm.trans new'.1)
      refine (new.inItsDay_iff valid times).mp (inDay _ ?_)
      rw [stepInput, times.endTime]
      have positive : 0 < req.duration * secondUs := Nat.mul_pos (duration_pos req) (by decide)
      exact Nat.ne_of_gt (Nat.add_pos_right _ positive)
    · exact absurd new (none req)

/-- A day and a clock at a whole second: a station confirms with its MAC known. -/
theorem sessions_in_day_iff_resolved :
    (∀ prior, prior <+: firstMinute →
        SessionsInDay (1699999999 * secondUs) (serverAfter somePlatform 1 prior)) ↔
      Runs.Guarded (stepInput somePlatform) (StartsInDay somePlatform (1699999999 * secondUs))
        (initSessions 1) firstMinute := by
  apply sessions_in_day_iff
  rintro input member
  rcases List.mem_cons.mp member with rfl | member
  · exact secondsIn_valid _
  · obtain rfl := List.mem_singleton.mp member
    exact secondsIn_valid _

/-- No station is associated, so that `/confirm` finds no MAC. -/
def noStation : ApView where
  staList := some []
  dhcpsClients := none
  lastApClientMac := none
  apConnect := true
  connectCount := 0

/-- Half an hour before midnight `/confirm` finds no MAC and grants an hour. -/
theorem session_passes_midnight :
    ¬ ∀ (p : Platform) (wall boot : Nat) (inputs : List Input),
      (∀ input ∈ inputs, ClockValid wall input.1) →
        SessionsInDay wall (serverAfter p boot inputs) := by
  intro claim
  have inDay := claim somePlatform (1700004599 * secondUs) 1
    [(.still ⟨1000000, 1700004600, by decide⟩, .confirm noStation (fun _ => 0) 1)]
    (by
      intro input member
      obtain rfl := List.mem_singleton.mp member
      exact ⟨by decide, by decide, by decide, by decide, by decide⟩)
  revert inDay
  decide +kernel

end SolarConnect.Session
