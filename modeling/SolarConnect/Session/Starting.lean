import SolarConnect.Session.Binding

/-!
# Starting sessions

What `start_or_resume_session` does to the gate: without an address the sessions expired by then
end, the slot is written, the sessions expired by the last refresh end, and the client is
admitted. The session that was just bound is one of those that end if it does not outlast the
refresh.
-/

namespace SolarConnect.Session

open Slots ClientAcl

/-- Ending sessions of a table that looks the same. -/
theorem Ends.of_sameTable {ended : Fin maxClients → Prop} {a b : SessionTable} {acl : Acl}
    {g : Gate} (ends : Ends ended ⟨b, acl⟩ g) (same : SameTable a b) : Ends ended ⟨a, acl⟩ g := by
  have held : ∀ {j e}, ended j → (Holds (b j) e ↔ Holds (a j) e) := by
    intro j e here
    have active := ends.active j here
    rw [← (same j).1] at active
    exact ((same j).2 active).holds_iff e
  refine ⟨fun i here => ?_, ends.inactive, fun i idle => ends.idle i ?_, fun i active other => ?_,
    fun e j here holds => ends.revoked e j here ((held here).mpr holds),
    fun e free => ends.spared e fun j here holds => free j here ((held here).mp holds)⟩
  · exact (same i).1.trans (ends.active i here)
  · exact (same i).1.symm.trans idle
  · have active' := (same i).1.symm.trans active
    exact ((same i).2 active).trans (ends.kept i active' other)

/-- The sweep after the slot has been written: the sessions that are expired then end. -/
abbrev SweepsBound (m : Clocks) (dayId : Nat) (req : StartRequest) (sessions : SessionTable)
    (opened : Acl) (mid : Gate) : Prop :=
  Ends (fun j => Expired m.closed (boundTable m dayId req (requestBinding m req sessions) j))
    ⟨boundTable m dayId req (requestBinding m req sessions), opened⟩ mid

/-- What `start_or_resume_session` does to the gate. -/
inductive StartEffect (m : Clocks) (req : StartRequest) (g g' : Gate) : Prop
  | intro (dayId : Nat) (opened : Acl) (mid : Gate)
    (first : Ends (fun j => req.ip = 0 ∧ Expired m.opened (g.sessions j)) g
      ⟨searchedTable m req g.sessions, opened⟩)
    (second : SweepsBound m dayId req g.sessions opened mid)
    (result : g' = ⟨mid.sessions, clientAclAdmit req.ip req.mac mid.acl⟩)

theorem admitRequest_ends (p : Platform) (m : Moment) (req : StartRequest) (s : Server)
    {table : SessionTable} {acl : Acl} (sessions : s.sessions = table) (entries : s.acl = acl) :
    ∃ mid, Ends (fun j => Expired m.now (table j)) ⟨table, acl⟩ mid ∧
      (admitRequest p m req s).gate = ⟨mid.sessions, clientAclAdmit req.ip req.mac mid.acl⟩ :=
  ⟨(refreshPortalAuthState p m s).gate, refresh_ends_of p m s sessions entries, rfl⟩

/-- The slot is written, and neither the ACL nor the quota records. -/
theorem acceptSession_bound (m : Moment) (req : StartRequest) (found : Option (Fin maxClients))
    (s : Server) :
    let b := binding m.now req found s.sessions
    (acceptSession m req found s).1 = b.slot ∧
      (acceptSession m req found s).2.gate =
        ⟨boundTable m (getCurrentDayId m.time s.quota).1 req b, s.acl⟩ := by
  intro b
  unfold acceptSession
  rcases binding_cases m.now req found s.sessions with
    ⟨i, rfl, running, same⟩ | ⟨i, rfl, expired, same⟩ | ⟨rfl, same⟩
  · simp only [running, if_true, same, b]
    exact ⟨trivial, rfl⟩
  · simp only [Nat.not_lt.mpr expired, if_false, same, b]
    exact ⟨trivial, rfl⟩
  · simp only [same, b]
    exact ⟨trivial, rfl⟩

theorem liveTable_sameTable {now : Nat} {g g' : Gate}
    (ends : Ends (fun j => Expired now (g.sessions j)) g g') :
    SameTable (liveTable now g.sessions) g'.sessions := by
  intro j
  unfold liveTable
  by_cases expired : Expired now (g.sessions j)
  · simp [expired, ends.inactive j expired]
  · simp only [expired, if_false]
    cases active : (g.sessions j).active with
    | false => simp [ends.idle j active]
    | true =>
      have same := ends.kept j active expired
      refine ⟨?_, fun _ => same⟩
      rw [same]
      exact active.symm

/-- Ending the expired sessions, seen on the live table. -/
theorem Ends.live {now : Nat} {g g' : Gate}
    (ends : Ends (fun j => Expired now (g.sessions j)) g g') :
    Ends (fun j => Expired now (g.sessions j)) g ⟨liveTable now g.sessions, g'.acl⟩ := by
  refine ⟨ends.active, fun i expired => ?_, fun i idle => ?_, fun i _ other => ?_, ends.revoked,
    ends.spared⟩
  · simp only [liveTable, expired, if_true]
  · have running : ¬ Expired now (g.sessions i) := fun expired => by simp [expired.1] at idle
    simpa only [liveTable, running, if_false] using idle
  · simp only [liveTable, other, if_false]
    exact sameSession_refl _

/-- `start_or_resume_session` returns the bound slot, and acts on the gate as described. -/
theorem startOrResume_effect (p : Platform) (m : Clocks) {req : StartRequest} (binds : Binds req)
    (s : Server) :
    (startOrResumeSession p m req s).1 = some (requestBinding m req s.sessions).slot ∧
      StartEffect m req s.gate (startOrResumeSession p m req s).2.gate := by
  unfold startOrResumeSession
  dsimp only
  by_cases zero : req.ip = 0
  · have token : ¬ req.token.getD [] = [] := binds.token zero
    have opened : Ends (fun j => Expired m.opened (s.sessions j)) s.gate
        (openGlobalSession p m req s).gate :=
      refresh_ends_of p m.opening _ rfl rfl
    have same := liveTable_sameTable (g := s.gate) opened
    rw [gate_sessions, gate_sessions] at same
    have found : foundSession req (liveTable m.opened s.sessions) =
        findSessionIndexByToken (openGlobalSession p m req s).sessions req.token := by
      rw [foundSession, if_pos zero]
      exact same.findByToken req.token
    have active : ∀ i, findSessionIndexByToken (openGlobalSession p m req s).sessions req.token =
        some i → (liveTable m.opened s.sessions i).active = true := fun i here =>
      foundSession_active (found.trans here)
    have choice : requestBinding m req s.sessions = binding m.now req
        (findSessionIndexByToken (openGlobalSession p m req s).sessions req.token)
        (liveTable m.opened s.sessions) := by
      simp only [requestBinding, searchedTable, zero, if_true, found]
    obtain ⟨slot, written⟩ := acceptSession_bound m req
      (findSessionIndexByToken (openGlobalSession p m req s).sessions req.token)
      (openGlobalSession p m req s)
    obtain ⟨mid, swept, result⟩ := admitRequest_ends p m.closing req _
      (congrArg Gate.sessions written) (congrArg Gate.acl written)
    have bound := same.bound m
      (getCurrentDayId m.time (openGlobalSession p m req s).quota).1 req active
    rw [if_pos zero, if_neg token]
    refine ⟨?_, ⟨(getCurrentDayId m.time (openGlobalSession p m req s).quota).1,
      (openGlobalSession p m req s).acl, mid, ?_, ?_, result⟩⟩
    · rw [choice, slot, (same.binding m.now req active).1]
    · simp only [zero, true_and, searchedTable, if_true]
      exact Ends.live (g := s.gate) opened
    · rw [gate_sessions, SweepsBound, choice]
      exact (swept.of_sameTable bound).congr fun j => bound.expired_iff m.closed j
  · have choice : requestBinding m req s.sessions =
        binding m.now req (foundByClient req s.sessions) s.sessions := by
      simp only [requestBinding, searchedTable, foundSession, zero, if_false]
    obtain ⟨slot, written⟩ := acceptSession_bound m req (foundByClient req s.sessions) s
    obtain ⟨mid, swept, result⟩ := admitRequest_ends p m.closing req _
      (congrArg Gate.sessions written) (congrArg Gate.acl written)
    rw [if_neg zero]
    refine ⟨?_, ⟨(getCurrentDayId m.time s.quota).1, s.acl, mid, ?_, ?_, result⟩⟩
    · rw [choice, slot]
    · simp only [searchedTable, zero, false_and, if_false]
      exact Ends.refl s.gate
    · rw [gate_sessions, SweepsBound, choice]
      exact swept

/-- Without an address and without a token the expired sessions end, and that is all. -/
theorem startOrResume_unbound (p : Platform) (m : Clocks) {req : StartRequest}
    (unbound : ¬ Binds req) (s : Server) :
    Ends (fun j => Expired m.opened (s.sessions j)) s.gate
      (startOrResumeSession p m req s).2.gate := by
  rw [Binds, not_or, not_not, not_not] at unbound
  rw [startOrResumeSession, if_pos unbound.1, if_pos unbound.2]
  exact refresh_ends_of p m.opening _ rfl rfl

/-! ## The sweep -/

/-- A session that goes on in another slot is the same after the sweep. -/
theorem SweepsBound.kept {m : Clocks} {dayId : Nat} {req : StartRequest}
    {sessions : SessionTable} {opened : Acl} {mid : Gate}
    (sweeps : SweepsBound m dayId req sessions opened mid) {j : Fin maxClients}
    (elsewhere : j ≠ (requestBinding m req sessions).slot)
    (place : searchedTable m req sessions j = sessions j)
    (active : (sessions j).active = true) (running : m.closed < (sessions j).endTime) :
    SameSession (sessions j) (mid.sessions j) := by
  have kept := Ends.kept sweeps j
  have unexpired : m.now < (sessions j).endTime :=
    (m.opens.trans m.closes).trans_lt running
  have stays : (requestBinding m req sessions).dropped j = sessions j :=
    (dropped_running (by rwa [place])).trans place
  dsimp only at kept
  rw [boundTable_other m dayId req elsewhere, stays] at kept
  exact kept active fun expired => Nat.not_lt.mpr expired.2.2 running

/-- A session in another slot after the sweep was there before. -/
theorem SweepsBound.other {m : Clocks} {dayId : Nat} {req : StartRequest}
    {sessions : SessionTable} {opened : Acl} {mid : Gate}
    (sweeps : SweepsBound m dayId req sessions opened mid) {j : Fin maxClients}
    (elsewhere : j ≠ (requestBinding m req sessions).slot)
    (active : (mid.sessions j).active = true) :
    ¬ Expired m.closed (sessions j) ∧
      ((requestBinding m req sessions).dropped j).active = true ∧
        SameSession (sessions j) (mid.sessions j) := by
  obtain ⟨running, before, same⟩ := Ends.survivor sweeps active
  dsimp only at running before same
  rw [boundTable_other m dayId req elsewhere] at running before same
  have source := (dropped_active before).2
  exact ⟨source ▸ running, before, source ▸ same⟩

/-- The bound session survives the sweep exactly when it outlasts it. -/
theorem SweepsBound.slot_active {m : Clocks} {dayId : Nat} {req : StartRequest}
    {sessions : SessionTable} {opened : Acl} {mid : Gate}
    (sweeps : SweepsBound m dayId req sessions opened mid) :
    (mid.sessions (requestBinding m req sessions).slot).active = true ↔
      Outlasts m req sessions := by
  have finished := boundSession_expired_iff m dayId req sessions
  constructor
  · intro active
    obtain ⟨running, -, -⟩ := Ends.survivor sweeps active
    simpa only [boundTable, Function.update_self, finished, not_not] using running
  · intro outlasts
    have active := (boundSession_running m dayId req sessions).1
    have kept := Ends.kept sweeps (requestBinding m req sessions).slot
    simp only [boundTable, Function.update_self, finished, not_not] at kept
    rw [kept active outlasts]
    exact active

/-- The bound slot after the sweep. -/
theorem SweepsBound.slot {m : Clocks} {dayId : Nat} {req : StartRequest}
    {sessions : SessionTable} {opened : Acl} {mid : Gate}
    (sweeps : SweepsBound m dayId req sessions opened mid)
    (active : (mid.sessions (requestBinding m req sessions).slot).active = true) :
    SameSession (boundSession m dayId req (requestBinding m req sessions))
      (mid.sessions (requestBinding m req sessions).slot) := by
  obtain ⟨-, -, same⟩ := Ends.survivor sweeps active
  simpa only [boundTable, Function.update_self] using same

/-! ## The tables after a start -/

/-- A session in another slot after a start was there before. -/
theorem StartEffect.other {m : Clocks} {req : StartRequest} {g g' : Gate}
    (effect : StartEffect m req g g') {j : Fin maxClients}
    (elsewhere : j ≠ (requestBinding m req g.sessions).slot)
    (active : (g'.sessions j).active = true) :
    ¬ Expired m.closed (g.sessions j) ∧
      ((requestBinding m req g.sessions).dropped j).active = true ∧
        SameSession (g.sessions j) (g'.sessions j) := by
  obtain ⟨dayId, opened, mid, first, second, rfl⟩ := effect
  exact second.other elsewhere active

theorem StartEffect.slot_active {m : Clocks} {req : StartRequest} {g g' : Gate}
    (effect : StartEffect m req g g') :
    (g'.sessions (requestBinding m req g.sessions).slot).active = true ↔
      Outlasts m req g.sessions := by
  obtain ⟨dayId, opened, mid, first, second, rfl⟩ := effect
  exact second.slot_active

/-- The bound slot after a start. -/
theorem StartEffect.slot {m : Clocks} {req : StartRequest} {g g' : Gate}
    (effect : StartEffect m req g g')
    (active : (g'.sessions (requestBinding m req g.sessions).slot).active = true) :
    ∃ dayId, SameSession (boundSession m dayId req (requestBinding m req g.sessions))
      (g'.sessions (requestBinding m req g.sessions).slot) := by
  obtain ⟨dayId, opened, mid, first, second, rfl⟩ := effect
  exact ⟨dayId, second.slot active⟩

/-- After a start no active session is expired. -/
theorem StartEffect.unexpired {m : Clocks} {req : StartRequest} {g g' : Gate}
    (effect : StartEffect m req g g') (i : Fin maxClients) :
    ¬ Expired m.closed (g'.sessions i) := by
  obtain ⟨dayId, opened, mid, first, second, rfl⟩ := effect
  exact @Ends.unexpired m.closed ⟨_, opened⟩ mid second i

/-- Every active session is admitted and has an end. -/
def Timed (sessions : SessionTable) : Prop :=
  ∀ i, (sessions i).active = true → (sessions i).admitted = true ∧ 0 < (sessions i).endTime

theorem Timed.ends {ended : Fin maxClients → Prop} {g g' : Gate} (timed : Timed g.sessions)
    (ends : Ends ended g g') : Timed g'.sessions := by
  intro i active
  obtain ⟨-, before, same⟩ := ends.survivor active
  rw [same]
  exact timed i before

theorem Timed.starts {m : Clocks} {req : StartRequest} {g g' : Gate} (timed : Timed g.sessions)
    (effect : StartEffect m req g g') : Timed g'.sessions := by
  intro i active
  rcases eq_or_ne i (requestBinding m req g.sessions).slot with rfl | elsewhere
  · obtain ⟨dayId, same⟩ := effect.slot active
    rw [same]
    exact ⟨boundSession_admitted _ _ _ _,
      Nat.zero_lt_of_lt (boundSession_running m dayId req g.sessions).2⟩
  · obtain ⟨-, kept, same⟩ := effect.other elsewhere active
    rw [same] at active ⊢
    exact timed i active

end SolarConnect.Session
