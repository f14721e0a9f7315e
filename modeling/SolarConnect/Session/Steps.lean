import SolarConnect.Session.Starting

/-!
# Every operation

An operation ends sessions, starts one for a request, or rebinds one to an address, for a lookup
or for a lease. Which of these it does follows from the tables it finds.
-/

namespace SolarConnect.Session

open Slots ClientAcl

/-! ## What an operation asks for -/

/-- `handle_client_connect` gets as far as `start_or_resume_session`. -/
def ConnectStarts (p : Platform) (m : Clocks) (ap : ApView) (mac : Mac) (s : Server) : Prop :=
  mac ≠ 0 ∧ ap.apConnect = true ∧
    (getQuotaRemainingForMac m.asked mac s.quota).1 ≠ 0 ∧
    (getQuotaRemainingForMac m.asked mac s.quota).1 < dailyQuotaSec ∧
    (ensureNaptEnabled p s).1 = true

instance (p : Platform) (m : Clocks) (ap : ApView) (mac : Mac) (s : Server) :
    Decidable (ConnectStarts p m ap mac s) := by
  unfold ConnectStarts
  infer_instance

/-- The request `handle_client_connect` starts a session for. -/
def connectRequest (p : Platform) (m : Clocks) (random : Fin 16 → BitVec 8) (mac : Mac)
    (s : Server) : StartRequest where
  ip := 0
  mac := some mac
  token := some (generateSessionToken random)
  deviceHash := some (generateHashFromMac p mac)
  grantedSeconds := (getQuotaRemainingForMac m.asked mac s.quota).1

/-- The seconds `/confirm` grants, when it gets as far as `start_or_resume_session`. -/
def confirmStarts (p : Platform) (m : Clocks) (ap : ApView) (ip : IpAddr) (s : Server) :
    Option Nat :=
  if ap.apConnect && (ensureNaptEnabled p s).1 then (confirmGrant m (confirmMac ap ip) s).1
  else none

/-- The call of `start_or_resume_session` an operation makes, if it makes one. -/
def requestOf (p : Platform) (m : Clocks) (op : Operation) (s : Server) : Option StartRequest :=
  match op with
  | .startOrResume req => some req
  | .clientConnect ap random mac =>
    if ConnectStarts p m ap mac s then some (connectRequest p m random mac s) else none
  | .confirm ap random ip =>
    (confirmStarts p m ap ip s).map (confirmRequest p (confirmMac ap ip) ip random)
  | _ => none

/-- The quota state after the lookup that `handle_client_connect` and `/confirm` make first. -/
def lookedUp (m : Clocks) (op : Operation) (s : Server) : QuotaState :=
  match op with
  | .clientConnect ap _ mac =>
    if mac ≠ 0 ∧ ap.apConnect = true then (getQuotaRemainingForMac m.asked mac s.quota).2
    else s.quota
  | .confirm ap _ ip => (confirmGrant m (confirmMac ap ip) s).2.quota
  | _ => s.quota

/-- The session a lookup rebinds to an address it has no session for, and its MAC. -/
def reboundSession (now : Nat) (op : Operation) (sessions : SessionTable) :
    Option (Fin maxClients × Mac × IpAddr) :=
  match op with
  | .getRemaining ap ip =>
    match firstSlot fun i =>
        (sessions i).active && (sessions i).admitted && (sessions i).ipAddr == ip with
    | some _ => none
    | none =>
      match getClientMacForIp ap ip with
      | none => none
      | some mac =>
        match findSessionIndexByMac sessions (some mac) with
        | none => none
        | some i =>
          if (sessions i).admitted = true ∧ now < (sessions i).endTime then some (i, mac, ip)
          else none
  | _ => none

/-- The session a lease binds to its address. -/
def assignedSession (now : Nat) (op : Operation) (sessions : SessionTable) :
    Option (Fin maxClients × Mac × IpAddr) :=
  match op with
  | .clientIpAssigned mac ipNet =>
    if mac = 0 ∨ ipNet = 0 then none
    else
      (firstSlot fun i =>
        (sessions i).active && (sessions i).mac == mac &&
          !decide ((sessions i).endTime ≤ now)).map fun i => (i, mac, ipNet)
  | _ => none

/-! ## What it does to the gate -/

/-- The MAC of the client's address, where `/confirm` finds it. -/
def clientMac : Operation → Option Mac
  | .confirm ap _ ip => getClientMacForIp ap ip
  | _ => none

/-- The lookup at the end of `/confirm`, after a start for the request: it may move another
    session of the client to its address, if the session bound to the request is over. -/
inductive LooksUp (client : Option Mac) (m : Clocks) (req : StartRequest) (sessions : SessionTable)
    (mid g' : Gate) : Prop
  | found (same : g' = mid)
  | moves (i : Fin maxClients) (mac : Mac) (nonzero : req.ip ≠ 0)
    (finished : ¬ Outlasts m req sessions) (resolved : client = some mac)
    (named : req.mac = some mac) (active : (mid.sessions i).active = true)
    (own : (mid.sessions i).mac = mac)
    (alone : ∀ j, (mid.sessions j).active = true → (mid.sessions j).admitted = true →
      (mid.sessions j).ipAddr ≠ req.ip)
    (result : g' = ⟨Function.update mid.sessions i { mid.sessions i with ipAddr := req.ip },
      mid.acl⟩)

theorem LooksUp.acl {client : Option Mac} {m : Clocks} {req : StartRequest}
    {sessions : SessionTable} {mid g' : Gate}
    (last : LooksUp client m req sessions mid g') : g'.acl = mid.acl := by
  cases last with
  | found same => rw [same]
  | moves i mac _ _ _ _ _ _ _ result => rw [result]

/-- A session moves at most. -/
theorem LooksUp.session {client : Option Mac} {m : Clocks} {req : StartRequest}
    {sessions : SessionTable} {mid g' : Gate} (last : LooksUp client m req sessions mid g')
    (j : Fin maxClients) :
    g'.sessions j = { mid.sessions j with ipAddr := (g'.sessions j).ipAddr } := by
  cases last with
  | found same => rw [same]
  | moves i mac _ _ _ _ _ _ _ result =>
    rw [result]
    rcases eq_or_ne j i with rfl | other
    · simp
    · simp [Function.update_of_ne other]

/-- What an operation does to the gate: it ends sessions, starts one for a request, or rebinds
    one to an address, for a lookup or for a lease. -/
inductive StepEffect (p : Platform) (m : Clocks) (op : Operation) (s : Server) (g' : Gate) : Prop
  | ends (ended : Fin maxClients → Prop) (gone : Ends ended s.gate g')
  | starts (req : StartRequest) (request : requestOf p m op s = some req) (binds : Binds req)
    (mid : Gate) (effect : StartEffect m req s.gate mid)
    (last : LooksUp (clientMac op) m req s.sessions mid g')
  | rebinds (i : Fin maxClients) (mac : Mac) (ip : IpAddr)
    (rebound : reboundSession m.now op s.sessions = some (i, mac, ip))
    (result : g' = ⟨Function.update s.sessions i { s.sessions i with ipAddr := ip },
      clientAclAdmit ip (some mac) s.acl⟩)
  | assigns (i : Fin maxClients) (mac : Mac) (ip : IpAddr) (mid : Gate)
    (assigned : assignedSession m.now op s.sessions = some (i, mac, ip))
    (written : mid = ⟨Function.update s.sessions i
        { s.sessions i with ipAddr := ip, admitted := true },
      clientAclAdmit ip (some mac)
        (if (s.sessions i).ipAddr ≠ ip ∧ (s.sessions i).ipAddr ≠ 0 then
          clientAclRevokeByIp (s.sessions i).ipAddr s.acl
        else s.acl)⟩)
    (gone : Ends (fun j => Expired m.closed (mid.sessions j)) mid g')

theorem StepEffect.unchanged {p : Platform} {m : Clocks} {op : Operation} {s : Server} {g' : Gate}
    (same : g' = s.gate) : StepEffect p m op s g' := by
  rw [same]
  exact .ends _ (Ends.refl s.gate)

/-- The tables an operation works on: the gate and the quota. -/
def Server.books (s : Server) : Gate × QuotaState := (s.gate, s.quota)

theorem queueUpdate_books (token deviceHash : CString) (remainingSeconds : Nat)
    (mode : SupabaseUpdateMode) (s : Server) :
    (queueSupabaseSessionUpdate token deviceHash remainingSeconds mode s).books = s.books := rfl

theorem ensureNapt_books (p : Platform) (s : Server) :
    (ensureNaptEnabled p s).2.books = s.books := by
  unfold ensureNaptEnabled
  split <;> rfl

theorem ensureNapt_quota (p : Platform) (s : Server) (q : QuotaState) :
    (ensureNaptEnabled p { s with quota := q }).1 = (ensureNaptEnabled p s).1 := by
  unfold ensureNaptEnabled
  split <;> rfl

/-- The server an operation calls `start_or_resume_session` on: the callers look the quota up and
    make sure of NAPT first. -/
def calledServer (p : Platform) (m : Clocks) (op : Operation) (s : Server) : Server :=
  match op with
  | .startOrResume _ => s
  | _ => (ensureNaptEnabled p { s with quota := lookedUp m op s }).2

/-- From `t` to `r` the operation starts the session it asks for in `s`, if it asks for one. -/
def MakesRequest (p : Platform) (m : Clocks) (op : Operation) (s t r : Server) : Prop :=
  match requestOf p m op s with
  | none => r.books = t.books
  | some req =>
    t = calledServer p m op s ∧
      LooksUp (clientMac op) m req s.sessions (startOrResumeSession p m req t).2.gate r.gate ∧
        r.quota = (startOrResumeSession p m req t).2.quota

theorem MakesRequest.of_none {p : Platform} {m : Clocks} {op : Operation} {s t r : Server}
    (makes : MakesRequest p m op s t r) (request : requestOf p m op s = none) :
    r.books = t.books := by
  rw [MakesRequest, request] at makes
  exact makes

theorem MakesRequest.of_some {p : Platform} {m : Clocks} {op : Operation} {s t r : Server}
    {req : StartRequest} (makes : MakesRequest p m op s t r)
    (request : requestOf p m op s = some req) :
    t = calledServer p m op s ∧
      LooksUp (clientMac op) m req s.sessions (startOrResumeSession p m req t).2.gate r.gate ∧
        r.quota = (startOrResumeSession p m req t).2.quota := by
  rw [MakesRequest, request] at makes
  exact makes

theorem MakesRequest.asksNone {p : Platform} {m : Clocks} {op : Operation} {s t r : Server}
    (request : requestOf p m op s = none) (same : r.books = t.books) :
    MakesRequest p m op s t r := by
  rw [MakesRequest, request]
  exact same

theorem MakesRequest.asks {p : Platform} {m : Clocks} {op : Operation} {s t r : Server}
    {req : StartRequest} (request : requestOf p m op s = some req)
    (called : t = calledServer p m op s)
    (looks : LooksUp (clientMac op) m req s.sessions
        (startOrResumeSession p m req t).2.gate r.gate ∧
      r.quota = (startOrResumeSession p m req t).2.quota) : MakesRequest p m op s t r := by
  rw [MakesRequest, request]
  exact ⟨called, looks⟩

/-- Nothing follows the start. -/
theorem MakesRequest.of_books {p : Platform} {m : Clocks} {op : Operation} {s t r : Server}
    (called : (requestOf p m op s).isSome = true → t = calledServer p m op s)
    (result : r.books = match requestOf p m op s with
      | none => t.books
      | some req => (startOrResumeSession p m req t).2.books) : MakesRequest p m op s t r := by
  unfold MakesRequest
  cases request : requestOf p m op s with
  | none =>
    rw [request] at result
    exact result
  | some req =>
    rw [request] at result
    exact ⟨called (by rw [request]; rfl), .found (congrArg Prod.fst result),
      congrArg Prod.snd result⟩

/-- `handle_client_connect` looks the quota up, and may then start a session. -/
theorem connect_books (p : Platform) (m : Clocks) (ap : ApView) (random : Fin 16 → BitVec 8)
    (mac : Mac) (s : Server) :
    ∃ t : Server, t.books = (s.gate, lookedUp m (.clientConnect ap random mac) s) ∧
      MakesRequest p m (.clientConnect ap random mac) s t
        (handleClientConnect p m ap random mac s) := by
  suffices result : ∃ t : Server, t.books = (s.gate, lookedUp m (.clientConnect ap random mac) s) ∧
      ((requestOf p m (.clientConnect ap random mac) s).isSome = true →
        t = calledServer p m (.clientConnect ap random mac) s) ∧
      (handleClientConnect p m ap random mac s).books =
        match requestOf p m (.clientConnect ap random mac) s with
        | none => t.books
        | some req => (startOrResumeSession p m req t).2.books by
    obtain ⟨t, looked, called, result⟩ := result
    exact ⟨t, looked, .of_books called result⟩
  have request : requestOf p m (.clientConnect ap random mac) s =
      if ConnectStarts p m ap mac s then some (connectRequest p m random mac s) else none := rfl
  have looked : lookedUp m (.clientConnect ap random mac) s =
      if mac ≠ 0 ∧ ap.apConnect = true then (getQuotaRemainingForMac m.asked mac s.quota).2
      else s.quota := rfl
  have called : calledServer p m (.clientConnect ap random mac) s =
      (ensureNaptEnabled p { s with quota := lookedUp m (.clientConnect ap random mac) s }).2 := rfl
  rw [request, called, looked]
  clear request called looked
  by_cases zero : mac = 0
  · rw [if_neg fun starts => starts.1 zero, if_neg fun real => real.1 zero, handleClientConnect,
      if_pos zero]
    exact ⟨s, rfl, by simp, rfl⟩
  cases connected : ap.apConnect with
  | false =>
    have idle : ¬ ConnectStarts p m ap mac s := fun starts => by simp [starts.2.1] at connected
    have waiting : (!ap.apConnect) = true := by simp [connected]
    rw [if_neg idle, if_neg (by simp), handleClientConnect, if_neg zero, if_pos waiting]
    exact ⟨s, rfl, by simp, rfl⟩
  | true =>
    have joined : ¬ (!ap.apConnect) = true := by simp [connected]
    rw [if_pos ⟨zero, rfl⟩, handleClientConnect, if_neg zero, if_neg joined]
    dsimp only
    rw [ensureNapt_quota]
    generalize fresh : { s with quota := (getQuotaRemainingForMac m.asked mac s.quota).2 } = t
    have books : t.books = (s.gate, (getQuotaRemainingForMac m.asked mac s.quota).2) := by
      rw [← fresh]
      rfl
    by_cases starts : ConnectStarts p m ap mac s
    · obtain ⟨-, -, some_left, not_fresh, napt⟩ := id starts
      refine ⟨(ensureNaptEnabled p t).2, (ensureNapt_books p t).trans books, fun _ => rfl, ?_⟩
      rw [if_pos starts, if_neg (by omega), if_neg (by omega), if_neg (by simp [napt])]
      change _ = (startOrResumeSession p m (connectRequest p m random mac s) _).2.books
      split
      · rfl
      split
      · rfl
      · exact queueUpdate_books _ _ _ _ _
    · rw [if_neg starts]
      split
      · exact ⟨t, books, by simp, rfl⟩
      split
      · exact ⟨t, books, by simp, rfl⟩
      rename_i some_left not_fresh
      have unrouted : (ensureNaptEnabled p s).1 = false := by
        by_contra napt
        exact starts ⟨zero, connected, by omega, by omega, by simpa using napt⟩
      rw [if_pos (by simp [unrouted])]
      exact ⟨_, (ensureNapt_books p t).trans books, by simp, rfl⟩

/-- The admitted session that `get_remaining_seconds` finds, at the address or else by its MAC. -/
def soughtSession (ap : ApView) (ip : IpAddr) (sessions : SessionTable) : Option (Fin maxClients) :=
  if ip = 0 then none
  else
    (firstSlot fun i =>
      (sessions i).active && (sessions i).admitted && (sessions i).ipAddr == ip).or
      ((getClientMacForIp ap ip).bind fun mac =>
        (findSessionIndexByMac sessions (some mac)).filter fun i => (sessions i).admitted)

theorem soughtSession_active {ap : ApView} {ip : IpAddr} {sessions : SessionTable}
    {i : Fin maxClients} (found : soughtSession ap ip sessions = some i) :
    (sessions i).active = true := by
  unfold soughtSession at found
  split at found
  · cases found
  rcases Option.or_eq_some_iff.mp found with here | ⟨-, byMac⟩
  · have passes := firstSlot_passes here
    simp only [Bool.and_eq_true] at passes
    exact passes.1.1
  · obtain ⟨mac, -, named⟩ := Option.bind_eq_some_iff.mp byMac
    have passes := firstSlot_passes (Option.filter_eq_some_iff.mp named).1
    rw [Bool.and_eq_true] at passes
    exact passes.1

/-- What `get_remaining_seconds` does: it finds no session; it finds one that is over and revokes
    it; or it answers with the time of a session that is at the address, or that it moves there. -/
inductive LookupEffect (p : Platform) (m : Moment) (ap : ApView) (ip : IpAddr) (s : Server) :
    Int × Server → Prop
  | misses (none : soughtSession ap ip s.sessions = none) : LookupEffect p m ap ip s (-1, s)
  | revokes (i : Fin maxClients) (found : soughtSession ap ip s.sessions = some i)
    (finished : (s.sessions i).endTime ≤ m.now) :
    LookupEffect p m ap ip s (-1, revokeSession p m i false s)
  | answers (i : Fin maxClients) (found : soughtSession ap ip s.sessions = some i)
    (running : m.now < (s.sessions i).endTime) (real : ip ≠ 0)
    (here : (s.sessions i).ipAddr = ip) :
    LookupEffect p m ap ip s (Int.ofNat (((s.sessions i).endTime - m.now) / secondUs), s)
  | moves (i : Fin maxClients) (found : soughtSession ap ip s.sessions = some i)
    (running : m.now < (s.sessions i).endTime) (mac : Mac)
    (elsewhere : (firstSlot fun i => (s.sessions i).active && (s.sessions i).admitted &&
      (s.sessions i).ipAddr == ip) = none)
    (resolved : getClientMacForIp ap ip = some mac)
    (byMac : findSessionIndexByMac s.sessions (some mac) = some i)
    (admitted : (s.sessions i).admitted = true) :
    LookupEffect p m ap ip s (Int.ofNat (((s.sessions i).endTime - m.now) / secondUs),
      { s with
        sessions := Function.update s.sessions i { s.sessions i with ipAddr := ip }
        acl := clientAclAdmit ip (some mac) s.acl })

theorem getRemaining_lookup (p : Platform) (m : Moment) (ap : ApView) (ip : IpAddr) (s : Server) :
    LookupEffect p m ap ip s (getRemainingSeconds p m ap ip s) := by
  unfold getRemainingSeconds
  split
  · rename_i zero
    exact .misses (if_pos zero)
  rename_i real
  split
  · rename_i i here
    have found : soughtSession ap ip s.sessions = some i := by
      rw [soughtSession, if_neg real, here, Option.some_or]
    have passes := firstSlot_passes here
    simp only [Bool.and_eq_true, beq_iff_eq] at passes
    split
    · rename_i finished
      exact .revokes i found finished
    · rename_i running
      exact .answers i found (Nat.lt_of_not_le running) real passes.2
  rename_i elsewhere
  split
  · rename_i unresolved
    exact .misses (by rw [soughtSession, if_neg real, elsewhere, unresolved]; rfl)
  rename_i mac resolved
  split
  · rename_i missing
    exact .misses (by
      rw [soughtSession, if_neg real, elsewhere, resolved, Option.none_or, Option.bind_some,
        missing, Option.filter_none])
  rename_i i byMac
  have sought : soughtSession ap ip s.sessions =
      if (s.sessions i).admitted = true then some i else none := by
    rw [soughtSession, if_neg real, elsewhere, resolved, Option.none_or, Option.bind_some, byMac,
      Option.filter_some]
  split
  · rename_i waiting
    rw [Bool.not_eq_true'] at waiting
    exact .misses (sought.trans (if_neg (by simp [waiting])))
  rename_i admitted
  rw [Bool.not_eq_true, Bool.not_eq_false'] at admitted
  rw [if_pos admitted] at sought
  split
  · rename_i finished
    exact .revokes i sought finished
  · rename_i running
    exact .moves i sought (Nat.lt_of_not_le running) mac elsewhere resolved byMac admitted

theorem getRemaining_effect (p : Platform) (m : Clocks) (ap : ApView) (ip : IpAddr)
    (s : Server) :
    StepEffect p m (.getRemaining ap ip) s (getRemainingSeconds p m ap ip s).2.gate := by
  have lookup := getRemaining_lookup p m ap ip s
  generalize getRemainingSeconds p m ap ip s = result at lookup ⊢
  cases lookup with
  | misses => exact .unchanged rfl
  | revokes i => exact .ends _ (revoke_ends p m i false s)
  | answers => exact .unchanged rfl
  | moves i found running mac elsewhere resolved byMac admitted =>
    refine .rebinds i mac ip ?_ rfl
    simp only [reboundSession, elsewhere, resolved, byMac, admitted, running, and_self, if_true]

theorem ipAssigned_effect (p : Platform) (m : Clocks) (mac : Mac) (ipNet : IpAddr) (s : Server) :
    StepEffect p m (.clientIpAssigned mac ipNet) s
      (handleClientIpAssigned p m mac ipNet s).gate := by
  unfold handleClientIpAssigned
  split
  · exact .unchanged rfl
  rename_i real
  split
  · exact .unchanged rfl
  rename_i i found
  refine .assigns i mac ipNet _ ?_ rfl (refresh_ends_of p m.closing _ rfl rfl)
  simp only [assignedSession, real, if_false, found, Option.map_some]

/-- After the client has been admitted its address has a session, so the lookup that follows
    in `/confirm` finds one that is not over; with no address it does nothing. Only if the session
    of the client is over by now, it may find another one by the client's MAC. -/
theorem getRemaining_afterStart (p : Platform) (m : Clocks) (ap : ApView) {req : StartRequest}
    (named : ∀ mac, getClientMacForIp ap req.ip = some mac → req.mac = some mac) {s : Server}
    (timed : Timed s.sessions) :
    LooksUp (getClientMacForIp ap req.ip) m req s.sessions (startOrResumeSession p m req s).2.gate
        (getRemainingSeconds p m.closing ap req.ip (startOrResumeSession p m req s).2).2.gate ∧
      (getRemainingSeconds p m.closing ap req.ip (startOrResumeSession p m req s).2).2.quota =
        (startOrResumeSession p m req s).2.quota := by
  have lookup := getRemaining_lookup p m.closing ap req.ip (startOrResumeSession p m req s).2
  generalize getRemainingSeconds p m.closing ap req.ip (startOrResumeSession p m req s).2 = result
    at lookup ⊢
  by_cases zero : req.ip = 0
  · cases lookup with
    | misses => exact ⟨.found rfl, rfl⟩
    | answers i found running real => exact absurd zero real
    | revokes i found | moves i found => simp [soughtSession, zero] at found
  have effect := (startOrResume_effect p m (Or.inl zero) s).2
  have timed' : Timed (startOrResumeSession p m req s).2.sessions := Timed.starts timed effect
  cases lookup with
  | misses | answers => exact ⟨.found rfl, rfl⟩
  | revokes i found finished =>
    have active := soughtSession_active found
    exact absurd ⟨active, (timed' i active).2, finished⟩ (effect.unexpired i)
  | moves i found running mac elsewhere resolved byMac =>
    have passes := firstSlot_passes byMac
    simp only [Bool.and_eq_true, beq_iff_eq] at passes
    have alone : ∀ j, ((startOrResumeSession p m req s).2.sessions j).active = true →
        ((startOrResumeSession p m req s).2.sessions j).admitted = true →
          ((startOrResumeSession p m req s).2.sessions j).ipAddr ≠ req.ip := by
      intro j active admitted here
      simpa [active, admitted, here] using firstSlot_eq_none_iff.mp elsewhere j
    rw [resolved]
    refine ⟨.moves i mac zero (fun outlasts => ?_) rfl (named mac resolved) passes.1 passes.2 alone
      ?_, rfl⟩
    · have active := effect.slot_active.mpr outlasts
      obtain ⟨dayId, same⟩ := effect.slot active
      rw [gate_sessions, gate_sessions] at active same
      refine alone _ active (timed' _ active).1 ?_
      rw [same]
      exact boundSession_ip m dayId req _
    · obtain ⟨-, -, mid, -, -, admits⟩ := effect
      have again : clientAclAdmit req.ip (some mac) (startOrResumeSession p m req s).2.acl =
          (startOrResumeSession p m req s).2.acl := by
        have admitted : (startOrResumeSession p m req s).2.acl = _ := congrArg Gate.acl admits
        rw [admitted, named mac resolved]
        exact clientAclAdmit_again req.ip mac mid.acl
      rw [again]
      rfl

/-- The quota lookup of `/confirm` leaves everything but the quota statics alone. -/
theorem confirmGrant_server (m : Clocks) (mac : Option Mac) (s : Server) :
    (confirmGrant m mac s).2 = { s with quota := (confirmGrant m mac s).2.quota } := by
  unfold confirmGrant
  split
  · rfl
  · dsimp only
    split
    · rfl
    · rfl

/-- The MAC of the client's address comes first. -/
theorem confirmMac_resolved {ap : ApView} {ip : IpAddr} {mac : Mac}
    (resolved : getClientMacForIp ap ip = some mac) : confirmMac ap ip = some mac := by
  rw [confirmMac, resolved, Option.some_or]

/-- `/confirm` looks the quota up, may then start a session, and looks the session up. -/
theorem confirm_books (p : Platform) (m : Clocks) (ap : ApView) (random : Fin 16 → BitVec 8)
    (ip : IpAddr) {s : Server} (timed : Timed s.sessions) :
    ∃ t : Server, t.books = (s.gate, lookedUp m (.confirm ap random ip) s) ∧
      MakesRequest p m (.confirm ap random ip) s t (confirmHandler p m ap random ip s).2 := by
  have grantGate : (confirmGrant m (confirmMac ap ip) s).2.gate = s.gate := by
    rw [confirmGrant_server]
    rfl
  have grantNapt : (ensureNaptEnabled p (confirmGrant m (confirmMac ap ip) s).2).1 =
      (ensureNaptEnabled p s).1 := by
    rw [confirmGrant_server]
    exact ensureNapt_quota p s _
  have granted_books : (confirmGrant m (confirmMac ap ip) s).2.books =
      (s.gate, lookedUp m (.confirm ap random ip) s) := Prod.ext grantGate rfl
  have request : requestOf p m (.confirm ap random ip) s =
      (confirmStarts p m ap ip s).map (confirmRequest p (confirmMac ap ip) ip random) := rfl
  rw [confirmStarts] at request
  unfold confirmHandler
  dsimp only
  cases given : (confirmGrant m (confirmMac ap ip) s).1 with
  | none => exact ⟨_, granted_books, .asksNone (by simp [request, given]) rfl⟩
  | some granted =>
    dsimp only
    cases connected : ap.apConnect with
    | false => exact ⟨_, granted_books, .asksNone (by simp [request, connected]) rfl⟩
    | true =>
      refine ⟨_, (ensureNapt_books p _).trans granted_books, ?_⟩
      rw [if_neg (by simp), grantNapt]
      cases napt : (ensureNaptEnabled p s).1 with
      | false => exact .asksNone (by simp [request, napt]) rfl
      | true =>
        have sessions : (ensureNaptEnabled p (confirmGrant m (confirmMac ap ip) s).2).2.sessions =
            s.sessions :=
          congrArg (fun books => books.1.sessions) ((ensureNapt_books p _).trans granted_books)
        have looks := @getRemaining_afterStart p m ap
          (confirmRequest p (confirmMac ap ip) ip random granted)
          (fun mac resolved => confirmMac_resolved resolved) _ (by rwa [sessions])
        rw [sessions] at looks
        rw [if_neg (by simp)]
        refine .asks (by simp [request, given, connected, napt]) ?_ looks
        rw [confirmGrant_server]
        rfl

/-- An operation that looks the quota up and may then start a session, seen on the gate. -/
theorem MakesRequest.effect {p : Platform} {m : Clocks} {op : Operation} {s r t : Server}
    (makes : MakesRequest p m op s t r) (gate : t.gate = s.gate) : StepEffect p m op s r.gate := by
  cases request : requestOf p m op s with
  | none => exact .unchanged ((congrArg Prod.fst (makes.of_none request)).trans gate)
  | some req =>
    obtain ⟨-, looks, -⟩ := makes.of_some request
    by_cases binds : Binds req
    · refine .starts req request binds _ ?_ looks
      rw [← gate]
      exact (startOrResume_effect p m binds t).2
    · have gone := startOrResume_unbound p m binds t
      rw [gate] at gone
      cases looks with
      | found same =>
        rw [same]
        exact .ends _ gone
      | moves i mac nonzero => exact absurd (Or.inl nonzero) binds

/-- Every operation acts on the gate in one of the four ways. -/
theorem step_effect (p : Platform) (m : Clocks) (op : Operation) {s : Server}
    (timed : Timed s.sessions) :
    StepEffect p m op s (step p m op s).gate := by
  cases op with
  | startOrResume req =>
    exact (@MakesRequest.of_books p m (.startOrResume req) s s _ (fun _ => rfl) rfl).effect rfl
  | revoke i disconnected => exact .ends _ (revoke_ends p m i disconnected s)
  | refresh => exact .ends _ (refresh_ends p m s)
  | getRemaining ap ip => exact getRemaining_effect p m ap ip s
  | clientConnect ap random mac =>
    obtain ⟨t, looked, makes⟩ := connect_books p m ap random mac s
    exact makes.effect (congrArg Prod.fst looked)
  | clientIpAssigned mac ipNet => exact ipAssigned_effect p m mac ipNet s
  | clientDisconnect ap mac =>
    obtain ⟨ended, gone⟩ := disconnect_ends p m ap mac s
    exact .ends ended gone
  | confirm ap random ip =>
    obtain ⟨t, looked, makes⟩ := confirm_books p m ap random ip timed
    exact makes.effect (congrArg Prod.fst looked)
  | heartbeat i =>
    obtain ⟨ended, gone⟩ := heartbeat_ends p m i s
    exact .ends ended gone

/-! ## The operations that bind -/

/-- An operation that makes a request starts the session for it. -/
theorem step_starts {p : Platform} {m : Clocks} {op : Operation} {s : Server}
    (timed : Timed s.sessions) {req : StartRequest} (request : requestOf p m op s = some req)
    (binds : Binds req) :
    ∃ mid, StartEffect m req s.gate mid ∧
        LooksUp (clientMac op) m req s.sessions mid (step p m op s).gate := by
  have started : ∀ {r t : Server}, t.gate = s.gate → MakesRequest p m op s t r →
      ∃ mid, StartEffect m req s.gate mid ∧ LooksUp (clientMac op) m req s.sessions mid r.gate := by
    intro r t gate makes
    refine ⟨_, ?_, (makes.of_some request).2.1⟩
    rw [← gate]
    exact (startOrResume_effect p m binds t).2
  cases op with
  | startOrResume req' => exact started rfl (.of_books (fun _ => rfl) rfl)
  | clientConnect ap random mac =>
    obtain ⟨t, looked, makes⟩ := connect_books p m ap random mac s
    exact started (congrArg Prod.fst looked) makes
  | confirm ap random ip =>
    obtain ⟨t, looked, makes⟩ := confirm_books p m ap random ip timed
    exact started (congrArg Prod.fst looked) makes
  | revoke i disconnected => cases request
  | refresh => cases request
  | getRemaining ap ip => cases request
  | clientIpAssigned mac ipNet => cases request
  | clientDisconnect ap mac => cases request
  | heartbeat i => cases request

/-- The lookup that rebinds a session: its address has no session, its MAC has one. -/
theorem reboundSession_lookup {now : Nat} {op : Operation} {sessions : SessionTable}
    {i : Fin maxClients} {mac : Mac} {ip : IpAddr}
    (rebound : reboundSession now op sessions = some (i, mac, ip)) :
    ∃ ap, op = .getRemaining ap ip ∧ getClientMacForIp ap ip = some mac ∧
      (firstSlot fun j =>
        (sessions j).active && (sessions j).admitted && (sessions j).ipAddr == ip) = none ∧
      findSessionIndexByMac sessions (some mac) = some i ∧
      (sessions i).admitted = true ∧ now < (sessions i).endTime := by
  cases op with
  | getRemaining ap address =>
    rw [reboundSession] at rebound
    split at rebound
    · cases rebound
    rename_i unknown
    split at rebound
    · cases rebound
    rename_i client resolved
    split at rebound
    · cases rebound
    rename_i k found
    split at rebound
    · rename_i live
      cases rebound
      exact ⟨ap, rfl, resolved, unknown, found, live⟩
    · cases rebound
  | startOrResume req => cases rebound
  | clientConnect ap random mac => cases rebound
  | confirm ap random ip => cases rebound
  | revoke i disconnected => cases rebound
  | refresh => cases rebound
  | clientIpAssigned mac ipNet => cases rebound
  | clientDisconnect ap mac => cases rebound
  | heartbeat i => cases rebound

/-- An operation with a session to rebind rebinds it. -/
theorem step_rebinds (p : Platform) {m : Clocks} {op : Operation} {s : Server}
    {i : Fin maxClients} {mac : Mac} {ip : IpAddr}
    (rebound : reboundSession m.now op s.sessions = some (i, mac, ip)) :
    (step p m op s).gate =
      ⟨Function.update s.sessions i { s.sessions i with ipAddr := ip },
        clientAclAdmit ip (some mac) s.acl⟩ := by
  obtain ⟨ap, rfl, resolved, unknown, found, admitted, running⟩ := reboundSession_lookup rebound
  have real : ip ≠ 0 := by
    intro zero
    simp [getClientMacForIp, zero] at resolved
  simp only [step, getRemainingSeconds, real, unknown, resolved, found, admitted,
    Nat.not_le.mpr running, if_false, Bool.not_true, Bool.false_eq_true]
  rfl

/-- An operation with a session to assign assigns it, and ends the expired ones. -/
theorem step_assigns (p : Platform) {m : Clocks} {op : Operation} {s : Server}
    {i : Fin maxClients} {mac : Mac} {ip : IpAddr}
    (assigned : assignedSession m.now op s.sessions = some (i, mac, ip)) :
    ∃ mid : Gate,
      mid.sessions = Function.update s.sessions i
        { s.sessions i with ipAddr := ip, admitted := true } ∧
      Ends (fun j => Expired m.closed (mid.sessions j)) mid (step p m op s).gate := by
  cases op with
  | clientIpAssigned mac' ipNet =>
    rw [assignedSession] at assigned
    split at assigned
    · cases assigned
    rename_i real
    obtain ⟨k, found, same⟩ := Option.map_eq_some_iff.mp assigned
    cases same
    rw [step, handleClientIpAssigned, if_neg real, found]
    exact ⟨⟨_, _⟩, rfl, refresh_ends_of p m.closing _ rfl rfl⟩
  | startOrResume req => cases assigned
  | clientConnect ap random mac => cases assigned
  | confirm ap random ip => cases assigned
  | revoke i disconnected => cases assigned
  | refresh => cases assigned
  | getRemaining ap ip => cases assigned
  | clientDisconnect ap mac => cases assigned
  | heartbeat i => cases assigned

end SolarConnect.Session