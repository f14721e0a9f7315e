import SolarConnect.Session.Usage

/-!
# The countdown of a running session

`start_or_resume_session` keeps the time of a session it reuses and sets a new one where it
writes a session. Without an address it looks for the token alone, so a MAC that already has
a running session gets a new countdown: an association event and a `/confirm` without a peer
address restart it with what the quota record has left.
-/

namespace SolarConnect.Session

open Slots

/-- The session of the MAC is active and not over. -/
def Running (now : Nat) (mac : Mac) (session : ClientSession) : Prop :=
  session.active = true ∧ session.mac = mac ∧ now < session.endTime

instance (now : Nat) (mac : Mac) (session : ClientSession) :
    Decidable (Running now mac session) :=
  inferInstanceAs (Decidable (_ ∧ _))

/-- A MAC with a running session has no session afterwards that ends later. -/
def CountdownKept (now : Nat) (before after : SessionTable) : Prop :=
  ∀ mac, mac ≠ 0 → (∃ i, Running now mac (before i)) →
    ∀ j, (after j).active = true → (after j).mac = mac →
      ∃ i, Running now mac (before i) ∧ (after j).endTime ≤ (before i).endTime

/-- The seconds an operation grants a MAC: what its quota record leaves of the day, with the
    seconds charged so far; `/confirm` cuts them at midnight. -/
def grantFor (m : Clocks) (op : Operation) (mac : Mac) (s : Server) : Nat :=
  let left := dailyQuotaSec - recordedUse s.quota.records mac (getCurrentDayId m.asked s.quota).1
  match op with
  | .startOrResume req => req.duration
  | .confirm _ _ _ => min (getSecondsUntilNextDay m.capped) left
  | _ => left

/-- The session for the request ends no later than one the MAC has running: it is a session that
    ends so, or the seconds granted are no more than that one has left. -/
def KeepsTime (m : Clocks) (op : Operation) (req : StartRequest) (mac : Mac) (s : Server) : Prop :=
  ∃ i, Running m.now mac (s.sessions i) ∧
    if (requestBinding m req s.sessions).reuse then
      (s.sessions (requestBinding m req s.sessions).slot).endTime ≤ (s.sessions i).endTime
    else m.now + grantFor m op mac s * secondUs ≤ (s.sessions i).endTime

/-- The operation starts no session for a MAC with a running one, or keeps to its time, or what
    it starts is over before the refresh after that. -/
def StepKeepsTime (p : Platform) (m : Clocks) (op : Operation) (s : Server) : Prop :=
  ∀ req mac, requestOf p m op s = some req → Binds req → req.mac = some mac → mac ≠ 0 →
    (∃ i, Running m.now mac (s.sessions i)) → Outlasts m req s.sessions →
      KeepsTime m op req mac s

/-- A request for a MAC asks for the seconds granted to it. -/
theorem requestOf_duration {p : Platform} {m : Clocks} {op : Operation} {s : Server}
    {req : StartRequest} {mac : Mac} (request : requestOf p m op s = some req)
    (carries : req.mac = some mac) (real : mac ≠ 0) : req.duration = grantFor m op mac s := by
  cases op with
  | startOrResume req' =>
    cases request
    rfl
  | clientConnect ap random device =>
    obtain ⟨starts, same⟩ := Option.ite_none_right_eq_some.mp request
    cases same
    cases carries
    rw [duration_granted (Nat.pos_of_ne_zero starts.2.2.1) rfl]
    exact (getQuotaRemaining_spec m.asked real s.quota).1
  | confirm ap random ip =>
    obtain ⟨granted, grants, rfl⟩ := Option.map_eq_some_iff.mp request
    obtain ⟨-, grants⟩ := Option.ite_none_right_eq_some.mp grants
    have resolved : confirmMac ap ip = some mac := carries
    rw [resolved] at grants
    simp only [confirmGrant, (getQuotaRemaining_spec m.asked real s.quota).1] at grants
    split at grants
    · cases grants
    rename_i left
    cases grants
    refine duration_granted (lt_min ?_ (Nat.pos_of_ne_zero fun zero => left zero.le)) rfl
    exact untilNextDay_pos m.capped
  | revoke i disconnected => cases request
  | refresh => cases request
  | getRemaining ap ip => cases request
  | clientIpAssigned device ipNet => cases request
  | clientDisconnect ap device => cases request
  | heartbeat i => cases request

/-- The condition on a request, by the end of the session it gets. -/
theorem keepsTime_iff {p : Platform} {m : Clocks} {op : Operation} {s : Server}
    {req : StartRequest} {mac : Mac} (request : requestOf p m op s = some req)
    (carries : req.mac = some mac) (real : mac ≠ 0) :
    KeepsTime m op req mac s ↔
      ∃ i, Running m.now mac (s.sessions i) ∧
        boundEnd m req s.sessions ≤ (s.sessions i).endTime := by
  simp only [KeepsTime, boundEnd, requestOf_duration request carries real]
  cases (requestBinding m req s.sessions).reuse with
  | true => simp only [if_true]
  | false => simp only [Bool.false_eq_true, if_false]

/-- A session that was there before keeps its time. -/
theorem kept_of_same {now : Nat} {mac : Mac} {before : SessionTable} {session : ClientSession}
    (runs : ∃ i, Running now mac (before i)) (j : Fin maxClients)
    (active : (before j).active = true) (same : (before j).mac = mac)
    (endTime : session.endTime = (before j).endTime) :
    ∃ i, Running now mac (before i) ∧ session.endTime ≤ (before i).endTime := by
  by_cases left : now < (before j).endTime
  · exact ⟨j, ⟨active, same, left⟩, endTime.le⟩
  · obtain ⟨i, running⟩ := runs
    refine ⟨i, running, ?_⟩
    have later := running.2.2
    omega

theorem Ends.countdownKept {ended : Fin maxClients → Prop} {g g' : Gate} (ends : Ends ended g g')
    (now : Nat) : CountdownKept now g.sessions g'.sessions := by
  intro mac real runs j active same
  obtain ⟨-, before, alike⟩ := ends.survivor active
  rw [alike] at same
  apply kept_of_same runs j before same
  rw [alike]

/-- The session of another slot ends when it did, wherever its address is. -/
theorem moved_countdownKept (now : Nat) (before : SessionTable) {i : Fin maxClients}
    {session : ClientSession} (active : session.active = (before i).active)
    (sameMac : session.mac = (before i).mac) (endTime : session.endTime = (before i).endTime) :
    CountdownKept now before (Function.update before i session) := by
  intro mac real runs j live same
  rcases eq_or_ne j i with rfl | other
  · rw [Function.update_self] at live same ⊢
    exact kept_of_same runs j (active.symm.trans live) (sameMac.symm.trans same) endTime
  · rw [Function.update_of_ne other] at live same ⊢
    exact kept_of_same runs j live same rfl

theorem CountdownKept.ends {now : Nat} {before : SessionTable} {ended : Fin maxClients → Prop}
    {g g' : Gate} (kept : CountdownKept now before g.sessions) (ends : Ends ended g g') :
    CountdownKept now before g'.sessions := by
  intro mac real runs j active same
  obtain ⟨-, live, alike⟩ := ends.survivor active
  rw [alike] at same ⊢
  exact kept mac real runs j live same

/-- A lookup leaves every session its time. -/
theorem CountdownKept.lookup {now : Nat} {before : SessionTable} {client : Option Mac} {m : Clocks}
    {req : StartRequest} {sessions : SessionTable} {mid g' : Gate}
    (last : LooksUp client m req sessions mid g') :
    CountdownKept now before g'.sessions ↔ CountdownKept now before mid.sessions := by
  have same : ∀ j, (g'.sessions j).active = (mid.sessions j).active ∧
      (g'.sessions j).mac = (mid.sessions j).mac ∧
        (g'.sessions j).endTime = (mid.sessions j).endTime := fun j => by
    rw [last.session j]
    exact ⟨rfl, rfl, rfl⟩
  simp only [CountdownKept, fun j => (same j).1, fun j => (same j).2.1, fun j => (same j).2.2]

/-- A start keeps the countdowns exactly when a session that outlasts it keeps to the time of its
    MAC. -/
theorem StartEffect.countdownKept_iff {m : Clocks} {req : StartRequest} {g g' : Gate}
    (effect : StartEffect m req g g') :
    CountdownKept m.now g.sessions g'.sessions ↔
      ∀ mac, req.mac = some mac → mac ≠ 0 → (∃ i, Running m.now mac (g.sessions i)) →
        Outlasts m req g.sessions →
          ∃ i, Running m.now mac (g.sessions i) ∧
            boundEnd m req g.sessions ≤ (g.sessions i).endTime := by
  constructor
  · intro kept device carries real runs outlasts
    have live := effect.slot_active.mpr outlasts
    obtain ⟨dayId, slot⟩ := effect.slot live
    have same : (g'.sessions (requestBinding m req g.sessions).slot).mac = device := by
      rw [slot]
      simp only [boundSession_mac, boundMac, carries, Option.getD_some]
    obtain ⟨i, running, later⟩ := kept device real runs _ live same
    refine ⟨i, running, ?_⟩
    rw [slot] at later
    exact (boundSession_endTime m dayId req g.sessions).ge.trans later
  · intro keeps device real runs j live same
    rcases eq_or_ne j (requestBinding m req g.sessions).slot with rfl | elsewhere
    · obtain ⟨dayId, slot⟩ := effect.slot live
      rw [slot] at same ⊢
      have own : (boundSession m dayId req (requestBinding m req g.sessions)).mac = device :=
        same
      simp only [boundSession_endTime m dayId req g.sessions]
      cases carries : req.mac with
      | some device' =>
        rw [boundSession_mac, boundMac, carries, Option.getD_some] at own
        exact keeps device (carries.trans (congrArg some own)) real runs
          (effect.slot_active.mp live)
      | none =>
        -- only a session that is reused keeps a MAC the request does not carry
        cases reuse : (requestBinding m req g.sessions).reuse with
        | false =>
          rw [boundSession_mac, boundMac, carries, reuse] at own
          exact absurd own.symm real
        | true =>
          obtain ⟨written, before, -⟩ := boundSession_reuse m dayId reuse
          rw [written, reusedSession, carries] at own
          rw [boundEnd, if_pos reuse]
          exact kept_of_same runs _ before own rfl
    · obtain ⟨-, dropped, alike⟩ := effect.other elsewhere live
      have before := (dropped_active dropped).2
      rw [before] at dropped
      rw [alike] at same
      apply kept_of_same runs j dropped same
      rw [alike]

/-- In every reachable state an operation extends no countdown, if and only if it starts no
    session for a MAC with a running one, keeps to its time, or starts one that is over at once. -/
theorem countdown_kept_iff (p : Platform) (boot : Nat) (inputs : List Input) (m : Clocks)
    (op : Operation) :
    CountdownKept m.now (serverAfter p boot inputs).sessions
        (step p m op (serverAfter p boot inputs)).sessions ↔
      StepKeepsTime p m op (serverAfter p boot inputs) := by
  have timed := serverAfter_timed p boot inputs
  generalize serverAfter p boot inputs = s at timed ⊢
  by_cases starts : ∃ req, requestOf p m op s = some req ∧ Binds req
  · obtain ⟨req, request, binds⟩ := starts
    obtain ⟨mid, effect, last⟩ := step_starts timed request binds
    apply (CountdownKept.lookup last).trans
    apply effect.countdownKept_iff.trans
    constructor
    · intro keeps req' mac request' binds' carries real runs outlasts
      obtain rfl : req = req' := Option.some.inj (request.symm.trans request')
      exact (keepsTime_iff request carries real).mpr (keeps mac carries real runs outlasts)
    · intro keeps mac carries real runs outlasts
      exact (keepsTime_iff request carries real).mp
        (keeps req mac request binds carries real runs outlasts)
  · refine iff_of_true ?_ ?_
    · have effect := step_effect p m op timed
      change CountdownKept m.now s.gate.sessions (step p m op s).gate.sessions
      generalize (step p m op s).gate = g' at effect ⊢
      cases effect with
      | starts req request binds mid effect last => exact absurd ⟨req, request, binds⟩ starts
      | ends ended gone => exact gone.countdownKept m.now
      | rebinds i mac ip rebound result =>
        rw [result]
        exact moved_countdownKept m.now s.sessions rfl rfl rfl
      | assigns i mac ip mid assigned result gone =>
        apply CountdownKept.ends (g := mid) ?_ gone
        rw [result]
        exact moved_countdownKept m.now s.sessions rfl rfl rfl
    · intro req mac request binds
      exact absurd ⟨req, request, binds⟩ starts

/-- Half a minute after the first heartbeat the station associates again: its session, which was to
    end at 3601 seconds, now ends at 3631. -/
theorem countdown_extended :
    ¬ ∀ (p : Platform) (boot : Nat) (inputs : List Input) (m : Clocks) (op : Operation),
      CountdownKept m.now (serverAfter p boot inputs).sessions
        (step p m op (serverAfter p boot inputs)).sessions := by
  intro claim
  have kept := claim somePlatform 1 firstMinute (secondsIn 90)
    (.clientConnect oneStation (fun _ => 1) 1) 1 (by decide) (by decide +kernel)
    ⟨0, maxClients_pos⟩ (by decide +kernel) (by decide +kernel)
  revert kept
  decide +kernel

end SolarConnect.Session
