import SolarConnect.Session.Settling

/-!
# Sessions and quota

What every operation does to the sessions and the quota table. A start settles sessions in its
first refresh, writes a slot, and settles sessions in its last one; the other operations settle
sessions, or checkpoint one that goes on.
-/

namespace SolarConnect.Session

open Slots ClientAcl

/-! ## Starts -/

/-- The server after the first refresh, which comes only without an address. -/
def openedServer (p : Platform) (m : Clocks) (req : StartRequest) (s : Server) : Server :=
  if req.ip = 0 then openGlobalSession p m req s else s

/-- The server once the slot is written. -/
def writtenServer (p : Platform) (m : Clocks) (req : StartRequest) (s : Server) : Server :=
  let t := openedServer p m req s
  (acceptSession m req (foundSession req t.sessions) t).2

theorem startOrResume_phases (p : Platform) (m : Clocks) {req : StartRequest} (binds : Binds req)
    (s : Server) :
    (startOrResumeSession p m req s).2 =
      admitRequest p m.closing req (writtenServer p m req s) := by
  unfold startOrResumeSession writtenServer openedServer foundSession
  by_cases zero : req.ip = 0
  · have token : ¬ req.token.getD [] = [] := binds.token zero
    simp only [zero, token, if_true, if_false]
  · simp only [zero, if_false]

/-- What `start_or_resume_session` does to sessions and quota: the sessions over by the first
    refresh are settled, the slot is written, and those over by the last one are settled. -/
structure Starts (p : Platform) (m : Clocks) (req : StartRequest)
    (first second : List (Fin maxClients)) (s s' : Server) : Prop where
  opens : Settles m.opening first s (openedServer p m req s)
  overFirst : ∀ j, j ∈ first ↔ req.ip = 0 ∧ Expired m.opened (s.sessions j)
  closes : Settles m.closing second (writtenServer p m req s) s'
  overSecond : ∀ j, j ∈ second ↔ Expired m.closed ((writtenServer p m req s).sessions j)

theorem opened_settles (p : Platform) (m : Clocks) (req : StartRequest) (s : Server) :
    ∃ first, Settles m.opening first s (openedServer p m req s) ∧
      ∀ j, j ∈ first ↔ req.ip = 0 ∧ Expired m.opened (s.sessions j) := by
  unfold openedServer
  by_cases zero : req.ip = 0
  · obtain ⟨first, settles, finished⟩ := refresh_settles p m.opening
      { s with globalSessionEndTime := m.now + req.duration * secondUs }
    rw [if_pos zero]
    refine ⟨first, ?_, fun j => (finished j).trans (and_iff_right zero).symm⟩
    exact ⟨settles.nodup, settles.active, settles.inactive, settles.kept, settles.times,
      settles.charged, settles.day⟩
  · rw [if_neg zero]
    exact ⟨[], .refl _ s, fun j => ⟨fun member => (List.not_mem_nil member).elim,
      fun here => absurd here.1 zero⟩⟩

/-- A request that gets a session starts or resumes it as described. -/
theorem startOrResume_starts (p : Platform) (m : Clocks) {req : StartRequest} (binds : Binds req)
    (s : Server) :
    ∃ first second, Starts p m req first second s (startOrResumeSession p m req s).2 := by
  obtain ⟨first, opens, overFirst⟩ := opened_settles p m req s
  obtain ⟨second, closes, overSecond⟩ := refresh_settles p m.closing (writtenServer p m req s)
  refine ⟨first, second, opens, overFirst, ?_, overSecond⟩
  rw [startOrResume_phases p m binds]
  exact closes.of_tables rfl rfl

theorem Starts.of_sameUse {p : Platform} {m : Clocks} {req : StartRequest}
    {first second : List (Fin maxClients)} {s t u : Server}
    (starts : Starts p m req first second s t) (alike : ∀ i, SameUse (t.sessions i) (u.sessions i))
    (quota : u.quota = t.quota) : Starts p m req first second s u :=
  ⟨starts.opens, starts.overFirst, starts.closes.of_sameUse alike quota, starts.overSecond⟩

/-- Without an address and without a token the expired sessions are settled. -/
theorem startOrResume_unbound_settles (p : Platform) (m : Clocks) {req : StartRequest}
    (unbound : ¬ Binds req) (s : Server) :
    ∃ list, Settles m.opening list s (startOrResumeSession p m req s).2 ∧
      ∀ j ∈ list, Expired m.opened (s.sessions j) := by
  rw [Binds, not_or, not_not, not_not] at unbound
  obtain ⟨list, settles, finished⟩ := opened_settles p m req s
  rw [openedServer, if_pos unbound.1] at settles
  rw [startOrResumeSession, if_pos unbound.1]
  dsimp only
  rw [if_pos unbound.2]
  exact ⟨list, settles, fun j member => ((finished j).mp member).2⟩

/-! ### The written slot -/

theorem opened_sameTable (p : Platform) (m : Clocks) (req : StartRequest) (s : Server) :
    SameTable (searchedTable m req s.sessions) (openedServer p m req s).sessions := by
  unfold openedServer searchedTable
  split
  · have ends : Ends (fun j => Expired m.opened (s.sessions j)) s.gate
        (openGlobalSession p m req s).gate := refresh_ends_of p m.opening _ rfl rfl
    exact liveTable_sameTable (g := s.gate) ends
  · exact sameTable_refl _

/-- The binding as the code makes it, after the first refresh. -/
def openedBinding (p : Platform) (m : Clocks) (req : StartRequest) (s : Server) : Binding :=
  let t := openedServer p m req s
  binding m.now req (foundSession req t.sessions) t.sessions

theorem openedBinding_same (p : Platform) (m : Clocks) (req : StartRequest) (s : Server) :
    (requestBinding m req s.sessions).slot = (openedBinding p m req s).slot ∧
      (requestBinding m req s.sessions).reuse = (openedBinding p m req s).reuse ∧
        SameTable (requestBinding m req s.sessions).dropped (openedBinding p m req s).dropped := by
  have same := opened_sameTable p m req s
  have choice : requestBinding m req s.sessions =
      binding m.now req (foundSession req (openedServer p m req s).sessions)
        (searchedTable m req s.sessions) := by
    rw [requestBinding, same.found]
  rw [choice]
  exact same.binding m.now req fun i found => foundSession_active ((same.found req).trans found)

theorem writtenServer_sessions (p : Platform) (m : Clocks) (req : StartRequest) (s : Server) :
    (writtenServer p m req s).sessions =
      boundTable m (currentDay m s.quota) req (openedBinding p m req s) := by
  obtain ⟨first, opens, -⟩ := opened_settles p m req s
  have written := (acceptSession_bound m req
    (foundSession req (openedServer p m req s).sessions) (openedServer p m req s)).2
  have day : currentDay m (openedServer p m req s).quota = currentDay m s.quota := opens.day
  rw [currentDay] at day
  rw [day] at written
  exact congrArg Gate.sessions written

theorem writtenServer_quota (p : Platform) (m : Clocks) (req : StartRequest) (s : Server) :
    (writtenServer p m req s).quota.records = (openedServer p m req s).quota.records ∧
      currentDay m (writtenServer p m req s).quota =
        currentDay m (openedServer p m req s).quota := by
  unfold writtenServer
  generalize openedServer p m req s = t
  dsimp only
  rcases binding_cases m.now req (foundSession req t.sessions) t.sessions with
    ⟨i, found, running, -⟩ | ⟨i, found, expired, -⟩ | ⟨found, -⟩
  · simp only [acceptSession, found, running, if_true, and_self]
  · simp only [acceptSession, found, Nat.not_lt.mpr expired, if_false]
    exact ⟨getCurrentDayId_records _ _, currentDay_getCurrentDayId _ _⟩
  · simp only [acceptSession, found]
    exact ⟨getCurrentDayId_records _ _, currentDay_getCurrentDayId _ _⟩

/-- Another slot is left as it is, but for the session that was found and dropped as expired. -/
theorem written_other (p : Platform) {m : Clocks} {req : StartRequest} {s : Server}
    {j : Fin maxClients} (elsewhere : j ≠ (requestBinding m req s.sessions).slot) :
    ((writtenServer p m req s).sessions j).active =
        ((requestBinding m req s.sessions).dropped j).active ∧
      ((writtenServer p m req s).sessions j = (openedServer p m req s).sessions j ∨
        ((openedServer p m req s).sessions j).active = true ∧
          ((writtenServer p m req s).sessions j).active = false) := by
  obtain ⟨slot, -, dropped⟩ := openedBinding_same p m req s
  rw [slot] at elsewhere
  rw [writtenServer_sessions, boundTable_other m _ req elsewhere]
  exact ⟨(dropped j).1.symm,
    binding_dropped_cases (fun i found => foundSession_active found) j⟩

/-- The written slot: the session found goes on, or a new one begins. -/
theorem written_slot (p : Platform) (m : Clocks) (req : StartRequest) (s : Server) :
    let b := requestBinding m req s.sessions
    (b.reuse = true ∧ (s.sessions b.slot).active = true ∧
        m.now < (s.sessions b.slot).endTime ∧
        SameUse (reusedSession req (s.sessions b.slot))
          ((writtenServer p m req s).sessions b.slot)) ∨
      (b.reuse = false ∧ (writtenServer p m req s).sessions b.slot =
        startedSession m (currentDay m s.quota) req) := by
  intro b
  obtain ⟨slot, reuse, dropped⟩ := openedBinding_same p m req s
  rw [writtenServer_sessions, boundTable, slot, Function.update_self, boundSession, ← reuse]
  cases here : b.reuse with
  | false => exact Or.inr ⟨rfl, rfl⟩
  | true =>
    left
    obtain ⟨-, active, running⟩ := boundSession_reuse m 0 here
    obtain ⟨table, found⟩ := requestBinding_reuse here
    have live := foundSession_active found
    have searched := searchedTable_active live
    have running' : ((openedBinding p m req s).dropped b.slot).active = true := by
      rw [← (dropped b.slot).1, table]
      exact live
    rw [slot] at running'
    have source : (openedBinding p m req s).dropped (openedBinding p m req s).slot =
        (openedServer p m req s).sessions (openedBinding p m req s).slot := binding_dropped running'
    obtain ⟨first, opens, -⟩ := opened_settles p m req s
    have alike := (opens.untouched (source ▸ running')).2
    rw [if_pos rfl, source]
    exact ⟨rfl, slot ▸ active, slot ▸ running, alike.reused req⟩

theorem Starts.opened_kept {p : Platform} {m : Clocks} {req : StartRequest}
    {first second : List (Fin maxClients)} {s s' : Server}
    (starts : Starts p m req first second s s') {j : Fin maxClients}
    (elsewhere : j ≠ (requestBinding m req s.sessions).slot)
    (active : ((writtenServer p m req s).sessions j).active = true) :
    (s.sessions j).active = true ∧ j ∉ first ∧
      SameUse (s.sessions j) ((writtenServer p m req s).sessions j) := by
  have same : (writtenServer p m req s).sessions j = (openedServer p m req s).sessions j := by
    refine (written_other p elsewhere).2.resolve_right fun gone => ?_
    simp [gone.2] at active
  rw [same] at active ⊢
  obtain ⟨unlisted, alike⟩ := starts.opens.untouched active
  refine ⟨?_, unlisted, alike⟩
  rw [alike] at active
  exact active

/-- A session in another slot after a start was there before. -/
theorem Starts.survivor {p : Platform} {m : Clocks} {req : StartRequest}
    {first second : List (Fin maxClients)} {s s' : Server}
    (starts : Starts p m req first second s s') {j : Fin maxClients}
    (elsewhere : j ≠ (requestBinding m req s.sessions).slot)
    (active : (s'.sessions j).active = true) :
    (s.sessions j).active = true ∧ j ∉ first ∧ j ∉ second ∧
      SameUse (s.sessions j) (s'.sessions j) := by
  obtain ⟨unlisted, same⟩ := starts.closes.untouched active
  have before := active
  rw [same] at before
  obtain ⟨live, untouched, alike⟩ := starts.opened_kept elsewhere before
  exact ⟨live, untouched, unlisted, alike.trans same⟩

/-- A session that the last refresh settles in another slot was there before, and not settled by the
    first one. -/
theorem Starts.sweptLater {p : Platform} {m : Clocks} {req : StartRequest}
    {first second : List (Fin maxClients)} {s s' : Server}
    (starts : Starts p m req first second s s') {j : Fin maxClients} (member : j ∈ second)
    (elsewhere : j ≠ (requestBinding m req s.sessions).slot) :
    Expired m.closed (s.sessions j) ∧ j ∉ first ∧
      SameUse (s.sessions j) ((writtenServer p m req s).sessions j) := by
  have expired := (starts.overSecond j).mp member
  obtain ⟨-, untouched, alike⟩ := starts.opened_kept elsewhere expired.1
  exact ⟨(alike.expired_iff m.closed).mp expired, untouched, alike⟩

/-- The bound session is settled by the last refresh exactly if it does not outlast it. -/
theorem Starts.slot_mem_iff {p : Platform} {m : Clocks} {req : StartRequest}
    {first second : List (Fin maxClients)} {s s' : Server}
    (starts : Starts p m req first second s s') :
    (requestBinding m req s.sessions).slot ∈ second ↔ ¬ Outlasts m req s.sessions := by
  rw [starts.overSecond, Outlasts, boundEnd, Nat.not_lt]
  rcases written_slot p m req s with ⟨reuse, active, running, same⟩ | ⟨new, same⟩
  · rw [same.expired_iff, if_pos reuse]
    exact ⟨fun expired => expired.2.2,
      fun finished => ⟨active, Nat.zero_lt_of_lt running, finished⟩⟩
  · rw [same, if_neg (by simp [new])]
    have booted := m.booted
    exact ⟨fun expired => expired.2.2, fun finished =>
      ⟨rfl, booted.trans_le (Nat.le_add_right _ _), finished⟩⟩

theorem binding_dropped_times (now : Nat) (req : StartRequest) (found : Option (Fin maxClients))
    (table : SessionTable) (j : Fin maxClients) :
    SameTimes (table j) ((binding now req found table).dropped j) := by
  rcases binding_cases now req found table with
    ⟨i, -, -, same⟩ | ⟨i, -, -, same⟩ | ⟨-, same⟩
  · rw [same]
    exact sameTimes_refl _
  · rw [same]
    dsimp only
    rcases eq_or_ne j i with rfl | other
    · rw [Function.update_self]
      exact ⟨rfl, rfl, rfl, rfl⟩
    · rw [Function.update_of_ne other]
      exact sameTimes_refl _
  · rw [same]
    exact sameTimes_refl _

theorem reusedSession_times (req : StartRequest) (session : ClientSession) :
    SameTimes session (reusedSession req session) := ⟨rfl, rfl, rfl, rfl⟩

/-- A start sets the times of the slot it writes for a new session, and no others. -/
theorem Starts.times {p : Platform} {m : Clocks} {req : StartRequest}
    {first second : List (Fin maxClients)} {s s' : Server}
    (starts : Starts p m req first second s s') (j : Fin maxClients) :
    (j = (requestBinding m req s.sessions).slot ∧ (requestBinding m req s.sessions).reuse = false ∧
        SameTimes (startedSession m (currentDay m s.quota) req) (s'.sessions j)) ∨
      ((j = (requestBinding m req s.sessions).slot →
          (requestBinding m req s.sessions).reuse = true) ∧
        SameTimes (s.sessions j) (s'.sessions j) ∧
        ((s'.sessions j).active = true → (s.sessions j).active = true)) := by
  have later := starts.closes.times j
  rcases eq_or_ne j (requestBinding m req s.sessions).slot with rfl | elsewhere
  · rcases written_slot p m req s with ⟨reuse, live, -, same⟩ | ⟨new, same⟩
    · have reused := (reusedSession_times req _).trans same.times
      exact Or.inr ⟨fun _ => reuse, reused.trans later, fun _ => live⟩
    · rw [same] at later
      exact Or.inl ⟨rfl, new, later⟩
  · obtain ⟨slot, -, -⟩ := openedBinding_same p m req s
    refine Or.inr ⟨fun same => absurd same elsewhere,
      (starts.opens.times j).trans (SameTimes.trans ?_ later),
      fun active => (starts.survivor elsewhere active).1⟩
    rw [writtenServer_sessions, boundTable_other m _ req (slot ▸ elsewhere)]
    exact binding_dropped_times _ _ _ _ j

/-! ## Every operation -/

/-- The session that `get_remaining_seconds` finds over and revokes. -/
def overdueSession (now : Nat) (op : Operation) (sessions : SessionTable) :
    Option (Fin maxClients) :=
  match op with
  | .getRemaining ap ip =>
    if ip = 0 then none
    else
      match firstSlot fun i =>
          (sessions i).active && (sessions i).admitted && (sessions i).ipAddr == ip with
      | some i => if (sessions i).endTime ≤ now then some i else none
      | none =>
        match getClientMacForIp ap ip with
        | none => none
        | some mac =>
          match findSessionIndexByMac sessions (some mac) with
          | none => none
          | some i =>
            if (sessions i).admitted = true ∧ (sessions i).endTime ≤ now then some i else none
  | _ => none

/-- The sessions an operation revokes. -/
def Revokes (now : Nat) (op : Operation) (sessions : SessionTable) (i : Fin maxClients) : Prop :=
  match op with
  | .revoke k _ => i = k
  | .getRemaining _ _ => overdueSession now op sessions = some i
  | .clientDisconnect ap mac => Disconnects ap mac sessions i
  | .heartbeat k => i = k ∧ HeartbeatEnds now (sessions k)
  | _ => False

instance (now : Nat) (op : Operation) (sessions : SessionTable) :
    DecidablePred (Revokes now op sessions) := fun i => by
  unfold Revokes
  cases op <;> infer_instance

/-- The operation refreshes: after a revocation, for a session it starts or assigns, or as
    such. -/
def Refreshes (p : Platform) (m : Clocks) (op : Operation) (s : Server) : Prop :=
  match op with
  | .startOrResume _ | .refresh => True
  | .clientConnect _ _ _ | .confirm _ _ _ => (requestOf p m op s).isSome = true
  | .clientIpAssigned _ _ => (assignedSession m.now op s.sessions).isSome = true
  | _ => ∃ k, (s.sessions k).active = true ∧ Revokes m.now op s.sessions k

instance (p : Platform) (m : Clocks) (op : Operation) (s : Server) :
    Decidable (Refreshes p m op s) := by
  unfold Refreshes
  cases op <;> infer_instance

/-- When the operation refreshes last. -/
def lastRefresh (p : Platform) (m : Clocks) (op : Operation) (s : Server) : Moment :=
  match requestOf p m op s with
  | some req => if Binds req then m.closing else m.opening
  | none =>
    match op with
    | .clientIpAssigned _ _ => m.closing
    | _ => m

/-- The operation settles the session: it revokes it, or sweeps it as expired. -/
def SettledBy (p : Platform) (m : Clocks) (op : Operation) (s : Server) (i : Fin maxClients) :
    Prop :=
  Revokes m.now op s.sessions i ∨
    Refreshes p m op s ∧ Expired (lastRefresh p m op s).now (s.sessions i)

/-- What an operation does to sessions and quota, after the lookup it may make first: it
    settles sessions, starts one for a request, or checkpoints one that goes on. -/
inductive StepBooks (p : Platform) (m : Clocks) (op : Operation) (s s' : Server) : Prop
  | settles (t : Server) (sessions : t.sessions = s.sessions) (quota : t.quota = lookedUp m op s)
    (unbound : ∀ req, requestOf p m op s = some req → ¬ Binds req)
    (list : List (Fin maxClients)) (settled : Settles (lastRefresh p m op s) list t s')
    (inside : ∀ j ∈ list, SettledBy p m op s j)
  | starts (t : Server) (sessions : t.sessions = s.sessions) (quota : t.quota = lookedUp m op s)
    (req : StartRequest) (request : requestOf p m op s = some req) (binds : Binds req)
    (called : t = calledServer p m op s) (sweeps : Refreshes p m op s)
    (first second : List (Fin maxClients))
    (started : Starts p m req first second t s')
  | checkpoints (i : Fin maxClients) (heartbeat : op = .heartbeat i)
    (active : (s.sessions i).active = true) (result : s' = checkpointSlot p m false i s)

@[simp] theorem lastRefresh_time (p : Platform) (m : Clocks) (op : Operation) (s : Server) :
    (lastRefresh p m op s).time = m.time := by
  unfold lastRefresh
  split
  · split <;> rfl
  · split <;> rfl

theorem lastRefresh_binds {p : Platform} {m : Clocks} {op : Operation} {s : Server}
    {req : StartRequest} (request : requestOf p m op s = some req) (binds : Binds req) :
    lastRefresh p m op s = m.closing := by
  simp only [lastRefresh, request, binds, if_true]

/-- The session that a lookup revokes is the one it finds, if that is over. -/
theorem overdueSession_lookup (now : Nat) (ap : ApView) (ip : IpAddr) (sessions : SessionTable) :
    overdueSession now (.getRemaining ap ip) sessions =
      (soughtSession ap ip sessions).filter fun i => (sessions i).endTime ≤ now := by
  unfold overdueSession soughtSession
  dsimp only
  split
  · rfl
  split
  · rename_i here
    rw [here, Option.some_or, Option.filter_some]
    simp only [decide_eq_true_eq]
  rename_i elsewhere
  rw [elsewhere, Option.none_or]
  split
  · rename_i unresolved
    rw [unresolved]
    rfl
  rename_i mac resolved
  rw [resolved, Option.bind_some]
  split
  · rename_i missing
    rw [missing]
    rfl
  rename_i i byMac
  rw [byMac, Option.filter_some]
  cases admitted : (sessions i).admitted with
  | true => simp [Option.filter_some]
  | false => simp

theorem getRemaining_settles (p : Platform) (m : Moment) (ap : ApView) (ip : IpAddr)
    (s : Server) :
    ∃ list, Settles m list s (getRemainingSeconds p m ap ip s).2 ∧
      ∀ j ∈ list, ∃ i, (s.sessions i).active = true ∧
        overdueSession m.now (.getRemaining ap ip) s.sessions = some i ∧
          (j = i ∨ Expired m.now (s.sessions j)) := by
  have lookup := getRemaining_lookup p m ap ip s
  generalize getRemainingSeconds p m ap ip s = result at lookup ⊢
  cases lookup with
  | misses | answers => exact ⟨[], .refl m s, by simp⟩
  | revokes i found finished =>
    have overdue : overdueSession m.now (.getRemaining ap ip) s.sessions = some i := by
      rw [overdueSession_lookup, found, Option.filter_some, if_pos (decide_eq_true finished)]
    obtain ⟨list, settles, inside⟩ := revoke_settles p m i false s
    exact ⟨list, settles, fun j member =>
      ⟨i, (inside j member).1, overdue, (inside j member).2⟩⟩
  | moves i =>
    refine ⟨[], .of_same (fun j => ?_) rfl rfl, by simp⟩
    rcases eq_or_ne j i with rfl | other
    · simp only [Function.update_self]
      rfl
    · simp only [Function.update_of_ne other, sameUse_refl]

theorem ipAssigned_settles (p : Platform) (m : Clocks) (mac : Mac) (ipNet : IpAddr)
    (s : Server) :
    ∃ list, Settles m.closing list s (handleClientIpAssigned p m mac ipNet s) ∧
      ∀ j ∈ list, (assignedSession m.now (.clientIpAssigned mac ipNet) s.sessions).isSome = true ∧
        Expired m.closed (s.sessions j) := by
  unfold handleClientIpAssigned
  split
  · exact ⟨[], .refl _ s, by simp⟩
  rename_i real
  split
  · exact ⟨[], .refl _ s, by simp⟩
  rename_i i found
  have assigned :
    (assignedSession m.now (.clientIpAssigned mac ipNet) s.sessions).isSome = true := by
    simp only [assignedSession, real, if_false, found, Option.map_some, Option.isSome_some]
  dsimp only
  generalize moved : ({ s with
    sessions := Function.update s.sessions i
      { s.sessions i with ipAddr := ipNet, admitted := true }
    acl := clientAclAdmit ipNet (some mac) _ } : Server) = t
  have same : Settles m.closing [] s t := by
    refine .of_same (fun j => ?_) (by rw [← moved]) (by rw [← moved])
    rw [← moved]
    rcases eq_or_ne j i with rfl | other
    · simp only [Function.update_self]
      rfl
    · simp only [Function.update_of_ne other, sameUse_refl]
  obtain ⟨list, settles, inside⟩ := same.refresh p
  exact ⟨list, settles, fun j member => ⟨assigned, by simpa using inside j member⟩⟩

/-- The lookup at the end of `/confirm` leaves every session in its use. -/
theorem LooksUp.sameUse {client : Option Mac} {m : Clocks} {req : StartRequest}
    {sessions : SessionTable} {mid g' : Gate} (last : LooksUp client m req sessions mid g')
    (i : Fin maxClients) : SameUse (mid.sessions i) (g'.sessions i) := by
  rw [last.session i]
  rfl

/-- An operation that looks the quota up and may then start a session, seen on the tables. -/
theorem MakesRequest.stepBooks {p : Platform} {m : Clocks} {op : Operation} {s r t : Server}
    (makes : MakesRequest p m op s t r)
    (refreshes : ∀ req, requestOf p m op s = some req → Refreshes p m op s)
    (looked : t.books = (s.gate, lookedUp m op s)) : StepBooks p m op s r := by
  have sessions : t.sessions = s.sessions := congrArg (fun books => books.1.sessions) looked
  have quota : t.quota = lookedUp m op s := congrArg Prod.snd looked
  cases request : requestOf p m op s with
  | none =>
    exact .settles t sessions quota (by simp [request]) []
      ((Settles.refl _ t).of_books (makes.of_none request)) (by simp)
  | some req =>
    obtain ⟨called, looks, same⟩ := makes.of_some request
    by_cases binds : Binds req
    · obtain ⟨first, second, starts⟩ := startOrResume_starts p m binds t
      exact .starts t sessions quota req request binds called (refreshes req request) first second
        (starts.of_sameUse looks.sameUse same)
    · obtain ⟨list, settles, inside⟩ := startOrResume_unbound_settles p m binds t
      have last : lastRefresh p m op s = m.opening := by
        simp only [lastRefresh, request, binds, if_false]
      have alone : ∀ req', requestOf p m op s = some req' → ¬ Binds req' := fun req' given =>
        Option.some.inj (request.symm.trans given) ▸ binds
      refine .settles t sessions quota alone list ?_ fun j member =>
        Or.inr ⟨refreshes req request, ?_⟩
      · rw [last]
        exact settles.of_sameUse looks.sameUse same
      · rw [last, ← sessions]
        exact inside j member

/-- Every operation acts on sessions and quota in one of the three ways. -/
theorem step_books (p : Platform) (m : Clocks) (op : Operation) {s : Server}
    (timed : Timed s.sessions) : StepBooks p m op s (step p m op s) := by
  cases op with
  | startOrResume req =>
    exact (@MakesRequest.of_books p m (.startOrResume req) s s _ (fun _ => rfl) rfl).stepBooks
      (fun _ _ => trivial) rfl
  | revoke i disconnected =>
    obtain ⟨list, settles, inside⟩ := revoke_settles p m i disconnected s
    refine .settles s rfl rfl (fun _ => nofun) list settles fun j member => ?_
    obtain ⟨active, rfl | expired⟩ := inside j member
    · exact Or.inl rfl
    · exact Or.inr ⟨⟨i, active, rfl⟩, expired⟩
  | refresh =>
    obtain ⟨list, settles, inside⟩ := refresh_settles p m s
    exact .settles s rfl rfl (fun _ => nofun) list settles fun j member =>
      Or.inr ⟨trivial, (inside j).mp member⟩
  | getRemaining ap ip =>
    obtain ⟨list, settles, inside⟩ := getRemaining_settles p m ap ip s
    refine .settles s rfl rfl (fun _ => nofun) list settles fun j member => ?_
    obtain ⟨i, active, overdue, rfl | expired⟩ := inside j member
    · exact Or.inl overdue
    · exact Or.inr ⟨⟨i, active, overdue⟩, expired⟩
  | clientConnect ap random mac =>
    obtain ⟨t, looked, makes⟩ := connect_books p m ap random mac s
    exact makes.stepBooks (fun req request => by simp [Refreshes, request]) looked
  | clientIpAssigned mac ipNet =>
    obtain ⟨list, settles, inside⟩ := ipAssigned_settles p m mac ipNet s
    exact .settles s rfl rfl (fun _ => nofun) list settles fun j member => Or.inr (inside j member)
  | clientDisconnect ap mac =>
    obtain ⟨list, settles, inside⟩ := disconnect_settles p m ap mac s
    refine .settles s rfl rfl (fun _ => nofun) list settles fun j member => ?_
    obtain ⟨revoked, here | expired⟩ := inside j member
    · exact Or.inl here
    · exact Or.inr ⟨revoked, expired⟩
  | confirm ap random ip =>
    obtain ⟨t, looked, makes⟩ := confirm_books p m ap random ip timed
    exact makes.stepBooks (fun req request => by simp [Refreshes, request]) looked
  | heartbeat i =>
    by_cases ends : HeartbeatEnds m.now (s.sessions i)
    · obtain ⟨list, settles, inside⟩ := heartbeat_settles p m ends
      refine .settles s rfl rfl (fun _ => nofun) list settles fun j member => ?_
      rcases inside j member with rfl | expired
      · exact Or.inl ⟨rfl, ends⟩
      · exact Or.inr ⟨⟨i, ends.1, rfl, ends⟩, expired⟩
    · by_cases idle : (s.sessions i).active = false ∨ (s.sessions i).token = [] ∨
          (s.sessions i).deviceHash = []
      · have same : step p m (.heartbeat i) s = s := by
          change heartbeatSlot p m i s = s
          rw [heartbeatSlot, if_pos (by simpa using idle)]
        rw [same]
        exact .settles s rfl rfl (fun _ => nofun) [] (.refl _ s) (by simp)
      · rw [not_or, not_or, Bool.not_eq_false] at idle
        have left : 0 < getSessionRemainingSeconds
            ((checkpointSlot p m false i s).sessions i) m.now := by
          by_contra expired
          refine ends ⟨idle.1, idle.2.1, idle.2.2, ?_⟩
          rw [checkpointSlot_self p m false i s] at expired
          exact expired
        refine .checkpoints i rfl idle.1 ?_
        change heartbeatSlot p m i s = _
        rw [heartbeatSlot, if_neg (by simpa using idle)]
        dsimp only
        rw [if_pos left]

/-- The operation starts a new session for the request in the slot. -/
def NewIn (p : Platform) (m : Clocks) (op : Operation) (s : Server) (req : StartRequest)
    (i : Fin maxClients) : Prop :=
  requestOf p m op s = some req ∧ Binds req ∧ i = (requestBinding m req s.sessions).slot ∧
    (requestBinding m req s.sessions).reuse = false

/-- An operation sets the times of the slot it starts a new session in, and no others. -/
theorem StepBooks.times {p : Platform} {m : Clocks} {op : Operation} {s s' : Server}
    (books : StepBooks p m op s s') (i : Fin maxClients) :
    (∃ req, NewIn p m op s req i ∧
        SameTimes (startedSession m (currentDay m (lookedUp m op s)) req) (s'.sessions i)) ∨
      ((∀ req, ¬ NewIn p m op s req i) ∧ SameTimes (s.sessions i) (s'.sessions i) ∧
        ((s'.sessions i).active = true → (s.sessions i).active = true)) := by
  cases books with
  | settles t sessions quota unbound list settled =>
    rw [← sessions]
    refine Or.inr ⟨fun req new => unbound req new.1 new.2.1, settled.times i, fun active => ?_⟩
    rw [(settled.untouched active).2] at active
    exact active
  | starts t sessions quota req request binds _ _ first second started =>
    rw [← sessions, ← quota]
    rcases started.times i with ⟨slot, new, times⟩ | ⟨old, kept⟩
    · rw [sessions] at slot new
      exact Or.inl ⟨req, ⟨request, binds, slot, new⟩, times⟩
    · refine Or.inr ⟨?_, kept⟩
      rintro req' ⟨request', -, slot, new⟩
      obtain rfl : req = req' := Option.some.inj (request.symm.trans request')
      rw [sessions] at old
      exact Bool.false_ne_true (new.symm.trans (old slot))
  | checkpoints k heartbeat live result =>
    rw [result]
    refine Or.inr ⟨fun req new => ?_, ?_⟩
    · rw [NewIn, heartbeat] at new
      cases new.1
    · rcases eq_or_ne i k with rfl | other
      · exact ⟨checkpointSlot_times p m false i s, fun _ => live⟩
      · rw [checkpointSlot_other other]
        exact ⟨sameTimes_refl _, id⟩

end SolarConnect.Session
