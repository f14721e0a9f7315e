import SolarConnect.Session.Announcing

/-!
# Operations and rows

What every operation does to the rows of the sessions: it leaves them alone, it revokes sessions
and ends the expired ones, or it binds a session and ends the expired ones. Only a revocation
queues a report.
-/

namespace SolarConnect.Session

open Slots

/-! ## Bound rows -/

/-- The token of the bound session. -/
def boundToken (req : StartRequest) (b : Binding) : CString :=
  if b.reuse then (reusedSession req (b.dropped b.slot)).token
  else setString sessionTokenLen [] req.token

/-- The device hash of the bound session. -/
def boundHash (req : StartRequest) (b : Binding) : CString :=
  if b.reuse then (reusedSession req (b.dropped b.slot)).deviceHash
  else setString deviceHashLen [] req.deviceHash

/-- A slot that is bound, what the row of its session is then made of, and the session's end. -/
structure BoundRow where
  slot : Fin maxClients
  token : CString
  deviceHash : CString
  endTime : Nat

/-- What an operation binds. -/
def boundRow (p : Platform) (m : Clocks) (op : Operation) (s : Server) : Option BoundRow :=
  match requestOf p m op s with
  | some req =>
    if Binds req then
      let b := requestBinding m req s.sessions
      some ⟨b.slot, boundToken req b, boundHash req b, boundEnd m req s.sessions⟩
    else none
  | none => none

theorem boundRow_eq {p : Platform} {m : Clocks} {op : Operation} {s : Server} {req : StartRequest}
    (request : requestOf p m op s = some req) (binds : Binds req) :
    boundRow p m op s = some ⟨(requestBinding m req s.sessions).slot,
      boundToken req (requestBinding m req s.sessions),
      boundHash req (requestBinding m req s.sessions), boundEnd m req s.sessions⟩ := by
  simp only [boundRow, request, binds, if_true]

theorem boundRow_refreshes {p : Platform} {m : Clocks} {op : Operation} {s : Server}
    {row : BoundRow} (bound : boundRow p m op s = some row) : Refreshes p m op s := by
  have request : (requestOf p m op s).isSome = true := by
    cases request : requestOf p m op s with
    | none => simp [boundRow, request] at bound
    | some req => rfl
  cases op with
  | startOrResume req => trivial
  | clientConnect ap random mac => exact request
  | confirm ap random ip => exact request
  | _ => cases request

theorem boundSession_token (m : Moment) (dayId : Nat) (req : StartRequest) (b : Binding) :
    (boundSession m dayId req b).token = boundToken req b := by
  unfold boundSession boundToken
  split <;> rfl

theorem boundSession_deviceHash (m : Moment) (dayId : Nat) (req : StartRequest) (b : Binding) :
    (boundSession m dayId req b).deviceHash = boundHash req b := by
  unfold boundSession boundHash
  split <;> rfl

/-- The strings in a slot. -/
def rowNames (session : ClientSession) : CString × CString :=
  (session.token, session.deviceHash)

/-- A refresh leaves the strings in the slots. -/
theorem refresh_rowNames (p : Platform) (m : Moment) (s : Server) (j : Fin maxClients) :
    rowNames ((refreshPortalAuthState p m s).sessions j) = rowNames (s.sessions j) := by
  have settled : (refreshPortalAuthState p m s).sessions = (sweep (expireSlot p m) s).sessions :=
    congrArg Gate.sessions (settlePortalAuthState_gate p m _)
  rw [settled]
  apply sweep_preserves fun t : Server => rowNames (t.sessions j) = rowNames (s.sessions j)
  · rfl
  · intro i t same
    rcases eq_or_ne j i with rfl | other
    · rw [← same]
      unfold expireSlot
      split
      · rfl
      split
      · have checked := checkpointSlot_self p m true j t
        dsimp only
        rw [Function.update_self, checked]
        rfl
      · rfl
    · unfold expireSlot
      split
      · exact same
      split
      · dsimp only
        rw [Function.update_of_ne other, checkpointSlot_other other]
        exact same
      · exact same

/-- The slot a start returns has the strings bound to it, whether or not its session goes on. -/
theorem startOrResume_rowNames (p : Platform) (m : Clocks) {req : StartRequest} (binds : Binds req)
    (s : Server) :
    rowNames ((startOrResumeSession p m req s).2.sessions (requestBinding m req s.sessions).slot) =
      (boundToken req (requestBinding m req s.sessions),
        boundHash req (requestBinding m req s.sessions)) := by
  obtain ⟨slot, reuse, dropped⟩ := openedBinding_same p m req s
  rw [startOrResume_phases p m binds]
  refine (refresh_rowNames p m.closing (writtenServer p m req s) _).trans ?_
  rw [writtenServer_sessions, boundTable, slot, Function.update_self, rowNames, boundSession_token,
    boundSession_deviceHash]
  unfold boundToken boundHash
  rw [← reuse]
  split
  · rename_i here
    -- the session that is reused is active, so both tables hold it
    have live := (boundSession_running m 0 req s.sessions).1
    rw [boundSession, if_pos here] at live
    rw [← slot, (dropped _).2 live]
    rfl
  · rfl

/-! ## Operations that queue no report -/

/-- No end is reported: what is queued is for the session that the operation binds. -/
def ReportsNone (p : Platform) (m : Clocks) (op : Operation) (s s' : Server) : Prop :=
  ∃ new, s'.updates = s.updates ++ new ∧ ∀ update ∈ new, update.mode = .active ∧
    ∃ row ∈ boundRow p m op s, update.token = strlcpy sessionTokenLen row.token

theorem ReportsNone.of_same {p : Platform} {m : Clocks} {op : Operation} {s s' : Server}
    (same : s'.updates = s.updates) : ReportsNone p m op s s' := by
  refine ⟨[], ?_, ?_⟩
  · rw [same, List.append_nil]
  · intro update member
    cases member

theorem acceptSession_updates (m : Moment) (req : StartRequest) (found : Option (Fin maxClients))
    (s : Server) : (acceptSession m req found s).2.updates = s.updates := by
  unfold acceptSession
  split
  · split <;> rfl
  · rfl

theorem startOrResume_updates (p : Platform) (m : Clocks) (req : StartRequest) (s : Server) :
    (startOrResumeSession p m req s).2.updates = s.updates := by
  have opened : (openGlobalSession p m req s).updates = s.updates := refresh_updates p m.opening _
  have admitted : ∀ t : Server, (admitRequest p m.closing req t).updates = t.updates :=
    refresh_updates p m.closing
  unfold startOrResumeSession
  dsimp only
  split
  · split
    · exact opened
    · exact (admitted _).trans ((acceptSession_updates m req _ _).trans opened)
  · exact (admitted _).trans (acceptSession_updates m req _ _)

theorem ensureNapt_updates (p : Platform) (s : Server) :
    (ensureNaptEnabled p s).2.updates = s.updates := by
  unfold ensureNaptEnabled
  split <;> rfl

theorem generateSessionToken_ne_nil (random : Fin 16 → BitVec 8) :
    generateSessionToken random ≠ [] := by
  simp [generateSessionToken, bytesToHex]

theorem queueUpdate_updates (token deviceHash : CString) (remainingSeconds : Nat)
    (mode : SupabaseUpdateMode) (s : Server) :
    (queueSupabaseSessionUpdate token deviceHash remainingSeconds mode s).updates = s.updates ++
      [⟨strlcpy sessionTokenLen token, strlcpy deviceHashLen deviceHash, remainingSeconds, mode⟩] :=
  rfl

theorem connectRequest_eq (p : Platform) (m : Clocks) (random : Fin 16 → BitVec 8) (mac : Mac)
    (s : Server) :
    (⟨0, some mac, some (generateSessionToken random), some (generateHashFromMac p mac),
      (getQuotaRemainingForMac m.asked mac s.quota).1⟩ : StartRequest) =
        connectRequest p m random mac s := rfl

/-- The update that `handle_client_connect` queues is for the session it has started. -/
theorem connect_reportsNone (p : Platform) (m : Clocks) (ap : ApView) (random : Fin 16 → BitVec 8)
    (mac : Mac) (s : Server) :
    ReportsNone p m (.clientConnect ap random mac) s (handleClientConnect p m ap random mac s) := by
  unfold handleClientConnect
  dsimp only
  split
  · exact .of_same rfl
  rename_i real
  split
  · exact .of_same rfl
  rename_i connected
  split
  · exact .of_same rfl
  rename_i some_left
  split
  · exact .of_same rfl
  rename_i not_fresh
  generalize looked : { s with quota := (getQuotaRemainingForMac m.asked mac s.quota).2 } = t
  have updates : t.updates = s.updates := by rw [← looked]
  have sessions : t.sessions = s.sessions := by rw [← looked]
  have napt : (ensureNaptEnabled p t).1 = (ensureNaptEnabled p s).1 := by
    rw [← looked]
    exact ensureNapt_quota p s _
  have ensured := (ensureNapt_updates p t).trans updates
  split
  · exact .of_same ensured
  rename_i routed
  have started := (startOrResume_updates p m (connectRequest p m random mac s)
    (ensureNaptEnabled p t).2).trans ensured
  have binds : Binds (connectRequest p m random mac s) :=
    Or.inr (generateSessionToken_ne_nil random)
  have request : requestOf p m (.clientConnect ap random mac) s =
      some (connectRequest p m random mac s) :=
    if_pos ⟨real, by simpa using connected, by omega, by omega, by rw [← napt]; simpa using routed⟩
  have returned := (startOrResume_effect p m binds (ensureNaptEnabled p t).2).1
  have named := startOrResume_rowNames p m binds (ensureNaptEnabled p t).2
  have table := (ensureNapt_sessions p t).trans sessions
  rw [table] at returned named
  rw [connectRequest_eq]
  split
  · exact .of_same started
  · rename_i i slot
    split
    · exact .of_same started
    · refine ⟨_, (queueUpdate_updates _ _ _ _ _).trans (by rw [started]), ?_⟩
      intro update member
      obtain rfl := Option.some.inj (slot.symm.trans returned)
      rw [List.mem_singleton.mp member]
      refine ⟨rfl, _, Option.mem_def.mpr (boundRow_eq request binds), ?_⟩
      dsimp only
      rw [(Prod.mk.inj named).1]

/-- A lookup that finds no session over queues nothing. -/
theorem getRemaining_updates (p : Platform) {m : Moment} (ap : ApView) (ip : IpAddr) {s : Server}
    (running : ∀ i, (s.sessions i).active = true → ¬ (s.sessions i).endTime ≤ m.now) :
    (getRemainingSeconds p m ap ip s).2.updates = s.updates := by
  have lookup := getRemaining_lookup p m ap ip s
  generalize getRemainingSeconds p m ap ip s = result at lookup ⊢
  cases lookup with
  | misses | answers | moves => rfl
  | revokes i found finished => exact absurd finished (running i (soughtSession_active found))

/-- After a start no session is over when the lookup of `/confirm` reads the timer. -/
theorem startOrResume_running (p : Platform) (m : Clocks) {req : StartRequest} (binds : Binds req)
    {s : Server} (timed : Timed s.sessions) (i : Fin maxClients)
    (active : ((startOrResumeSession p m req s).2.sessions i).active = true) :
    ¬ ((startOrResumeSession p m req s).2.sessions i).endTime ≤ m.closing.now := by
  have effect := (startOrResume_effect p m binds s).2
  have timed' := Timed.starts timed effect
  intro finished
  exact effect.unexpired i ⟨active, (timed' i active).2, finished⟩

/-- `/confirm` queues nothing. -/
theorem confirm_updates (p : Platform) (m : Clocks) (ap : ApView) (random : Fin 16 → BitVec 8)
    (ip : IpAddr) {s : Server} (timed : Timed s.sessions) :
    (confirmHandler p m ap random ip s).2.updates = s.updates := by
  have granted : (confirmGrant m (confirmMac ap ip) s).2.updates = s.updates ∧
      (confirmGrant m (confirmMac ap ip) s).2.sessions = s.sessions := by
    rw [confirmGrant_server]
    exact ⟨rfl, rfl⟩
  unfold confirmHandler
  dsimp only
  split
  · exact granted.1
  rename_i seconds _
  split
  · exact granted.1
  have ensured := (ensureNapt_updates p _).trans granted.1
  split
  · exact ensured
  · have timed' :
      Timed (ensureNaptEnabled p (confirmGrant m (confirmMac ap ip) s).2).2.sessions := by
      rw [ensureNapt_sessions, granted.2]
      exact timed
    have binds : Binds (confirmRequest p (confirmMac ap ip) ip random seconds) :=
      Or.inr (generateSessionToken_ne_nil random)
    refine (getRemaining_updates p ap ip (startOrResume_running p m binds timed')).trans ?_
    exact (startOrResume_updates p m _ _).trans ensured

/-! ## Every operation -/

/-- What an operation does to the rows: nothing; it revokes sessions and ends the expired ones; or
    it starts a session and ends the expired ones. -/
inductive StepReports (p : Platform) (m : Clocks) (op : Operation) (s s' : Server) : Prop
  | quiet (rows : ∀ j, SameRow (s.sessions j) (s'.sessions j)) (silent : ReportsNone p m op s s')
    (rests : ¬ Refreshes p m op s)
  | announces (t : Server) (rows : ∀ j, SameRow (s.sessions j) (t.sessions j))
    (updates : t.updates = s.updates) (now : Nat) (reading : (lastRefresh p m op s).now = now)
    (list : List (Fin maxClients)) (announced : Announces now list t s')
    (refreshes : Refreshes p m op s)
    (first : firstRevoked m.now op s.sessions = list.head?) (unbound : boundRow p m op s = none)
  | starts (req : StartRequest) (request : requestOf p m op s = some req) (binds : Binds req)
    (mid : Gate) (effect : StartEffect m req s.gate mid)
    (rows : ∀ j, SameRow (mid.sessions j) (s'.sessions j)) (silent : ReportsNone p m op s s')
    (refreshes : Refreshes p m op s) (first : firstRevoked m.now op s.sessions = none)

theorem StepReports.unchanged {p : Platform} {m : Clocks} {op : Operation} {s : Server}
    (rests : ¬ Refreshes p m op s) : StepReports p m op s s :=
  .quiet (fun _ => sameRow_refl _) (.of_same rfl) rests

theorem firstRevoked_eq_none {now : Nat} {op : Operation} {sessions : SessionTable}
    (none : ∀ i, ¬ Revokes now op sessions i) : firstRevoked now op sessions = .none := by
  rw [firstRevoked, firstSlot_eq_none_iff]
  intro i
  simp [none i]

theorem firstRevoked_only {now : Nat} {op : Operation} {sessions : SessionTable}
    {i : Fin maxClients} (active : (sessions i).active = true) (here : Revokes now op sessions i)
    (only : ∀ j, Revokes now op sessions j → j = i) : firstRevoked now op sessions = some i := by
  apply firstSlot_only
  · rw [active, Bool.true_and]
    exact decide_eq_true here
  · intro j passes
    rw [Bool.and_eq_true, decide_eq_true_eq] at passes
    exact only j passes.2

/-- An operation that revokes one session. -/
theorem StepReports.revokes {p : Platform} {m : Clocks} {op : Operation} {s t s' : Server}
    {i : Fin maxClients} (rows : ∀ j, SameRow (s.sessions j) (t.sessions j))
    (updates : t.updates = s.updates) (reading : (lastRefresh p m op s).now = m.now)
    (announced : Announces m.now [i] t s')
    (active : (s.sessions i).active = true) (here : Revokes m.now op s.sessions i)
    (only : ∀ j, Revokes m.now op s.sessions j → j = i) (refreshes : Refreshes p m op s)
    (unbound : boundRow p m op s = none) : StepReports p m op s s' :=
  .announces t rows updates m.now reading [i] announced refreshes
    (firstRevoked_only active here only) unbound

theorem getRemaining_reports (p : Platform) (m : Clocks) (ap : ApView) (ip : IpAddr)
    (s : Server) :
    StepReports p m (.getRemaining ap ip) s (getRemainingSeconds p m ap ip s).2 := by
  have overdue := overdueSession_lookup m.now ap ip s.sessions
  have rests : overdueSession m.now (.getRemaining ap ip) s.sessions = none →
      ¬ Refreshes p m (.getRemaining ap ip) s := by
    rintro none ⟨k, -, overdue⟩
    exact absurd (none.symm.trans overdue) (by simp)
  have lookup := getRemaining_lookup p m ap ip s
  generalize getRemainingSeconds p m ap ip s = result at lookup ⊢
  cases lookup with
  | misses none =>
    rw [none, Option.filter_none] at overdue
    exact .unchanged (rests overdue)
  | revokes i found finished =>
    rw [found, Option.filter_some, if_pos (decide_eq_true finished)] at overdue
    have active := soughtSession_active found
    apply StepReports.revokes (fun _ => sameRow_refl _) rfl rfl
      (revoke_announces p m false active) active
    · exact overdue
    · intro j overdue'
      exact Option.some.inj (overdue'.symm.trans overdue)
    · exact ⟨i, active, overdue⟩
    · rfl
  | answers i found running =>
    rw [found, Option.filter_some, if_neg (by simp [running])] at overdue
    exact .unchanged (rests overdue)
  | moves i found running =>
    rw [found, Option.filter_some, if_neg (by simp [running])] at overdue
    exact .quiet (SameRow.update ⟨rfl, rfl, rfl, rfl⟩) (.of_same rfl) (rests overdue)

theorem checkpointSlot_rows (p : Platform) (m : Clocks) (force : Bool) (i : Fin maxClients)
    (s : Server) (j : Fin maxClients) :
    SameRow (s.sessions j) ((checkpointSlot p m force i s).sessions j) := by
  rcases eq_or_ne j i with rfl | elsewhere
  · exact (checkpointSlot_self p m force j s).sameRow
  · rw [checkpointSlot_other elsewhere]
    exact sameRow_refl _

theorem heartbeat_reports (p : Platform) (m : Clocks) (i : Fin maxClients) (s : Server) :
    StepReports p m (.heartbeat i) s (heartbeatSlot p m i s) := by
  have rests : ¬ HeartbeatEnds m.now (s.sessions i) → ¬ Refreshes p m (.heartbeat i) s := by
    rintro goesOn ⟨k, -, -, ends⟩
    exact goesOn ends
  have rows := checkpointSlot_rows p m false i s
  unfold heartbeatSlot
  split
  · rename_i skipped
    apply StepReports.unchanged
    apply rests
    rintro ⟨active, token, hash, -⟩
    simp [active, token, hash] at skipped
  rename_i present
  rw [Bool.not_eq_true', not_or, not_or, Bool.not_eq_false] at present
  obtain ⟨active, token, hash⟩ := present
  have remaining : getSessionRemainingSeconds ((checkpointSlot p m false i s).sessions i) m.now =
      getSessionRemainingSeconds (s.sessions i) m.now := by
    rw [checkpointSlot_self p m false i s]
    rfl
  dsimp only
  rw [remaining]
  split
  · rename_i left
    refine .quiet rows (.of_same rfl) (rests ?_)
    rintro ⟨-, -, -, ending⟩
    exact ending left
  · rename_i ending
    have ends : HeartbeatEnds m.now (s.sessions i) := ⟨active, token, hash, ending⟩
    have live : ((checkpointSlot p m false i s).sessions i).active = true :=
      (rows i).active.trans active
    apply StepReports.revokes rows rfl rfl (revoke_announces p m _ live) active
    · exact ⟨rfl, ends⟩
    · rintro j ⟨same, -⟩
      exact same
    · exact ⟨i, active, rfl, ends⟩
    · rfl

theorem ipAssigned_reports (p : Platform) (m : Clocks) (mac : Mac) (ipNet : IpAddr) (s : Server) :
    StepReports p m (.clientIpAssigned mac ipNet) s (handleClientIpAssigned p m mac ipNet s) := by
  unfold handleClientIpAssigned
  split
  · rename_i zero
    apply StepReports.unchanged
    simp only [Refreshes, assignedSession, if_pos zero]
    simp
  rename_i real
  split
  · rename_i missing
    apply StepReports.unchanged
    simp only [Refreshes, assignedSession, if_neg real, missing]
    simp
  rename_i i found
  refine .announces _ ?_ ?_ m.closed rfl [] (refresh_announces p m.closing _) ?_ ?_ rfl
  · exact SameRow.update ⟨rfl, rfl, rfl, rfl⟩
  · rfl
  · simp only [Refreshes, assignedSession, if_neg real, found]
    rfl
  · apply firstRevoked_eq_none
    intro i revoked
    exact revoked

/-- The lookup after a start leaves the rows alone. -/
theorem LooksUp.sameRow {client : Option Mac} {m : Clocks} {req : StartRequest}
    {sessions : SessionTable} {mid g' : Gate} (last : LooksUp client m req sessions mid g')
    (j : Fin maxClients) : SameRow (mid.sessions j) (g'.sessions j) := by
  rw [last.session j]
  exact ⟨rfl, rfl, rfl, rfl⟩

/-- An operation that makes a request, and nothing else that touches a row. -/
theorem StepReports.of_request {p : Platform} {m : Clocks} {op : Operation} {s s' : Server}
    (timed : Timed s.sessions) (result : s' = step p m op s) (silent : ReportsNone p m op s s')
    (binds : ∀ req, requestOf p m op s = some req → Binds req)
    (refreshes : Refreshes p m op s ↔ (requestOf p m op s).isSome = true)
    (first : firstRevoked m.now op s.sessions = none)
    (unmade : requestOf p m op s = none → s'.gate = s.gate) : StepReports p m op s s' := by
  cases request : requestOf p m op s with
  | none =>
    have same : s'.sessions = s.sessions := congrArg Gate.sessions (unmade request)
    refine .quiet ?_ silent ?_
    · intro j
      rw [same]
      exact sameRow_refl _
    · rw [refreshes, request]
      simp
  | some req =>
    obtain ⟨mid, effect, last⟩ := step_starts timed request (binds req request)
    refine .starts req request (binds req request) mid effect ?_ silent ?_ first
    · rw [result]
      exact last.sameRow
    · rw [refreshes, request]
      rfl

theorem startOrResume_reports (p : Platform) (m : Clocks) (req : StartRequest) {s : Server} :
    StepReports p m (.startOrResume req) s (startOrResumeSession p m req s).2 := by
  have first : firstRevoked m.now (.startOrResume req) s.sessions = none := by
    apply firstRevoked_eq_none
    intro i revoked
    exact revoked
  by_cases binds : Binds req
  · exact .starts req rfl binds _ (startOrResume_effect p m binds s).2 (fun _ => sameRow_refl _)
      (.of_same (startOrResume_updates p m req s)) trivial first
  · have unbound : boundRow p m (.startOrResume req) s = none := by
      simp only [boundRow, requestOf, binds, if_false]
    have reading : (lastRefresh p m (.startOrResume req) s).now = m.opened := by
      simp only [lastRefresh, requestOf, binds, if_false, opening_now]
    rw [Binds, not_or, not_not, not_not] at binds
    rw [startOrResumeSession, if_pos binds.1, if_pos binds.2]
    exact .announces { s with globalSessionEndTime := m.now + req.duration * secondUs }
      (fun _ => sameRow_refl _) rfl m.opened reading [] (refresh_announces p m.opening _) trivial
      first unbound

/-- Every operation acts on the rows in one of the three ways. -/
theorem step_reports (p : Platform) (m : Clocks) (op : Operation) {s : Server}
    (timed : Timed s.sessions) : StepReports p m op s (step p m op s) := by
  cases op with
  | startOrResume req => exact startOrResume_reports p m req
  | revoke i disconnected =>
    change StepReports p m _ s (revokeSession p m i disconnected s)
    cases active : (s.sessions i).active with
    | true =>
      apply StepReports.revokes (fun _ => sameRow_refl _) rfl rfl
        (revoke_announces p m disconnected active) active
      · rfl
      · intro j same
        exact same
      · exact ⟨i, active, rfl⟩
      · rfl
    | false =>
      rw [revokeSession, if_pos (by simp [active])]
      apply StepReports.unchanged
      rintro ⟨k, live, rfl⟩
      rw [active] at live
      cases live
  | refresh =>
    refine .announces s (fun _ => sameRow_refl _) rfl m.now rfl [] (refresh_announces p m s) trivial
      ?_ rfl
    apply firstRevoked_eq_none
    intro i revoked
    exact revoked
  | getRemaining ap ip => exact getRemaining_reports p m ap ip s
  | clientConnect ap random mac =>
    refine .of_request timed rfl (connect_reportsNone p m ap random mac s) ?_ Iff.rfl ?_ ?_
    · intro req request
      obtain ⟨-, same⟩ := Option.ite_none_right_eq_some.mp request
      cases same
      exact Or.inr (generateSessionToken_ne_nil random)
    · apply firstRevoked_eq_none
      intro i revoked
      exact revoked
    · intro unmade
      obtain ⟨t, looked, makes⟩ := connect_books p m ap random mac s
      exact congrArg Prod.fst ((makes.of_none unmade).trans looked)
  | clientIpAssigned mac ipNet => exact ipAssigned_reports p m mac ipNet s
  | clientDisconnect ap mac =>
    change StepReports p m _ s (handleClientDisconnect p m ap mac s)
    rcases disconnect_announces p m ap mac s with ⟨same, none⟩ | ⟨f, list, announced, first, here⟩
    · rw [same]
      apply StepReports.unchanged
      rintro ⟨k, active, revoked⟩
      exact none k active revoked
    · exact .announces s (fun _ => sameRow_refl _) rfl m.now rfl (f :: list) announced
        ⟨f, here⟩ first
        rfl
  | confirm ap random ip =>
    refine .of_request timed rfl
      (.of_same (confirm_updates p m ap random ip timed)) ?_ Iff.rfl ?_ ?_
    · intro req request
      obtain ⟨granted, -, same⟩ := Option.map_eq_some_iff.mp request
      cases same
      exact Or.inr (generateSessionToken_ne_nil random)
    · apply firstRevoked_eq_none
      intro i revoked
      exact revoked
    · intro unmade
      obtain ⟨t, looked, makes⟩ := confirm_books p m ap random ip timed
      exact congrArg Prod.fst ((makes.of_none unmade).trans looked)
  | heartbeat i => exact heartbeat_reports p m i s

end SolarConnect.Session
