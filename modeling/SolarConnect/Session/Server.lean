import SolarConnect.Session.Quota

/-!
# Session table

The session table of `http_server.c` and the functions that start, resume and end sessions.
An index of type `int` that is `-1` for "none" is an `Option` of a slot, and a pointer
argument that may be `NULL` is an `Option`. A function that binds a session takes `Clocks`: time
passes before the refresh at its end reads the timer again. The others take a `Moment`; a refresh
at the end of a revocation that reads the timer later is a refresh of its own. Platform calls that
can fail answer from a `Platform`, by the number of the call.
-/

namespace SolarConnect.Session

open Slots ClientAcl

/-- `SESSION_TOKEN_LEN`. -/
def sessionTokenLen : Nat := 33

/-- `DEVICE_HASH_LEN`. -/
def deviceHashLen : Nat := 65

/-- The string `strlcpy` leaves in an array of `size` bytes. -/
def strlcpy (size : Nat) (src : CString) : CString :=
  src.take (size - 1)

/-- The platform under the server: whether the `n`-th flush and the `n`-th NAPT call
    succeed, and `mbedtls_sha256`. -/
structure Platform where
  nvs : Nat → Bool
  naptEnable : Nat → Bool
  naptDisable : Nat → Bool
  sha256 : List (BitVec 8) → Fin 32 → BitVec 8

/-- The clocks during an operation: at the `Moment` it begins, or `start_or_resume_session` does;
    `time(NULL)` when the quota is looked up and when the grant is capped before that; and the
    timer in the refresh that comes first without an address, and in the last refresh. -/
structure Clocks extends Moment where
  asked : Nat
  capped : Nat
  opened : Nat
  closed : Nat
  opens : now ≤ opened
  closes : opened ≤ closed

instance : Coe Clocks Moment := ⟨Clocks.toMoment⟩

/-- The moment of the refresh that comes first without an address. -/
def Clocks.opening (m : Clocks) : Moment := ⟨m.opened, m.time, m.booted.trans_le m.opens⟩

/-- The moment of the last refresh. -/
def Clocks.closing (m : Clocks) : Moment :=
  ⟨m.closed, m.time, m.booted.trans_le (m.opens.trans m.closes)⟩

@[simp] theorem opening_now (m : Clocks) : m.opening.now = m.opened := rfl

@[simp] theorem opening_time (m : Clocks) : m.opening.time = m.time := rfl

@[simp] theorem closing_now (m : Clocks) : m.closing.now = m.closed := rfl

@[simp] theorem closing_time (m : Clocks) : m.closing.time = m.time := rfl

/-- No time passes during the operation. -/
def Clocks.still (m : Moment) : Clocks :=
  { m with
    asked := m.time
    capped := m.time
    opened := m.now
    closed := m.now
    opens := Nat.le_refl _
    closes := Nat.le_refl _ }

/-- `supabase_update_mode_t`. -/
inductive SupabaseUpdateMode
  | active
  | disconnected
  | expired
  deriving DecidableEq, Repr

/-- `pending_supabase_update_t`. -/
structure PendingSupabaseUpdate where
  token : CString
  deviceHash : CString
  remainingSeconds : Nat
  mode : SupabaseUpdateMode
  deriving DecidableEq, Repr

/-- `sessions`. -/
abbrev SessionTable := Fin maxClients → ClientSession

/-- The statics of the session code, the ACL, the number of NAPT calls so far, and the
    updates put on `s_supabase_update_queue`, in order. -/
structure Server where
  sessions : SessionTable
  acl : Acl
  quota : QuotaState
  naptEnabled : Bool
  naptCalls : Nat
  globalSessionEndTime : Nat
  portalAuthenticated : Bool
  updates : List PendingSupabaseUpdate

/-- `init_sessions` (`http_server.c:173-179`) at time `now`, on the statics at boot. -/
def initSessions (now : Nat) : Server where
  sessions := fun _ => .zero
  acl := clientAclInit
  quota := loadQuotaState now
  naptEnabled := false
  naptCalls := 0
  globalSessionEndTime := 0
  portalAuthenticated := false
  updates := []

/-! ## Lookups -/

/-- `find_session_index_by_ip` (`http_server.c:181-189`). -/
def findSessionIndexByIp (sessions : SessionTable) (ip : IpAddr) : Option (Fin maxClients) :=
  firstSlot fun i => (sessions i).active && (sessions i).ipAddr == ip

/-- `find_session_index_by_mac` (`http_server.c:191-203`). -/
def findSessionIndexByMac (sessions : SessionTable) : Option Mac → Option (Fin maxClients)
  | none => none
  | some mac => firstSlot fun i => (sessions i).active && (sessions i).mac == mac

/-- `find_session_index_by_token` (`http_server.c:205-217`). -/
def findSessionIndexByToken (sessions : SessionTable) : Option CString → Option (Fin maxClients)
  | none => none
  | some token =>
    if token = [] then none
    else firstSlot fun i => (sessions i).active && (sessions i).token == token

/-- `find_free_session_slot` (`http_server.c:219-227`). -/
def findFreeSessionSlot (sessions : SessionTable) : Option (Fin maxClients) :=
  firstSlot fun i => !(sessions i).active

/-! ## Ending sessions -/

/-- `has_active_access` (`http_server.c:509-524`). -/
def hasActiveAccess (now : Nat) (s : Server) : Bool :=
  decide (now < s.globalSessionEndTime) ||
    (firstSlot fun i =>
      (s.sessions i).active && (s.sessions i).admitted &&
        decide (now < (s.sessions i).endTime)).isSome

/-- `maybe_disable_napt_if_idle` (`http_server.c:526-547`). -/
def maybeDisableNaptIfIdle (p : Platform) (now : Nat) (s : Server) : Server :=
  if !s.naptEnabled || hasActiveAccess now s then s
  else
    { s with
      naptEnabled := !p.naptDisable s.naptCalls
      naptCalls := s.naptCalls + 1 }

/-- The ACL entries of a session revoked: by its IP, and by its MAC when it has one. -/
def revokeEntries (session : ClientSession) (acl : Acl) : Acl :=
  let acl := if session.ipAddr ≠ 0 then clientAclRevokeByIp session.ipAddr acl else acl
  if session.mac ≠ 0 then clientAclRevokeByMac (some session.mac) acl else acl

/-- The session in a slot checkpointed, with the quota flushed at once or when it is time. -/
def checkpointSlot (p : Platform) (m : Moment) (forceFlush : Bool) (i : Fin maxClients)
    (s : Server) : Server :=
  let checked := checkpointSessionUsage p.nvs m forceFlush (s.sessions i) s.quota
  { s with sessions := Function.update s.sessions i checked.1, quota := checked.2 }

/-- The loop body of `refresh_portal_auth_state`: an expired session is checkpointed, loses
    its ACL entries and becomes inactive. -/
def expireSlot (p : Platform) (m : Moment) (i : Fin maxClients) (s : Server) : Server :=
  if !(s.sessions i).active then s
  else if 0 < (s.sessions i).endTime ∧ (s.sessions i).endTime ≤ m.now then
    let s := checkpointSlot p m true i s
    { s with
      acl := revokeEntries (s.sessions i) s.acl
      sessions := Function.update s.sessions i { s.sessions i with active := false } }
  else s

/-- The end of `refresh_portal_auth_state`. The sessions that are active and admitted after
    its loop are those that set `has_active_session` in it. -/
def settlePortalAuthState (p : Platform) (m : Moment) (s : Server) : Server :=
  let hasActiveSession :=
    (firstSlot fun i => (s.sessions i).active && (s.sessions i).admitted).isSome
  let globalEnd :=
    if 0 < s.globalSessionEndTime ∧ s.globalSessionEndTime ≤ m.now then 0
    else s.globalSessionEndTime
  let authenticated := hasActiveSession || decide (m.now < globalEnd)
  let s := { s with globalSessionEndTime := globalEnd, portalAuthenticated := authenticated }
  if authenticated then s else maybeDisableNaptIfIdle p m.now s

/-- `refresh_portal_auth_state` (`http_server.c:471-507`). -/
def refreshPortalAuthState (p : Platform) (m : Moment) (s : Server) : Server :=
  settlePortalAuthState p m (sweep (expireSlot p m) s)

/-- `queue_supabase_session_update` (`http_server.c:1284-1307`) on a list. The queue has 8 places,
    and the code drops an update that finds it full; here it always has room. -/
def queueSupabaseSessionUpdate (token deviceHash : CString) (remainingSeconds : Nat)
    (mode : SupabaseUpdateMode) (s : Server) : Server :=
  { s with updates := s.updates ++
      [⟨strlcpy sessionTokenLen token, strlcpy deviceHashLen deviceHash, remainingSeconds, mode⟩] }

/-- The session in a slot checkpointed, off the ACL and inactive. -/
def closeSlot (p : Platform) (m : Moment) (i : Fin maxClients) (s : Server) : Server :=
  let s := checkpointSlot p m true i s
  { s with
    acl := revokeEntries (s.sessions i) s.acl
    sessions :=
      Function.update s.sessions i { s.sessions i with admitted := false, active := false } }

/-- `revoke_session` (`http_server.c:821-870`) on a slot. -/
def revokeSession (p : Platform) (m : Moment) (i : Fin maxClients) (disconnected : Bool)
    (s : Server) : Server :=
  if !(s.sessions i).active then s
  else
    let session := s.sessions i
    let remainingSeconds := (session.endTime - m.now) / secondUs
    let s := refreshPortalAuthState p m (closeSlot p m i s)
    if session.token = [] ∨ session.deviceHash = [] then s
    else
      queueSupabaseSessionUpdate session.token session.deviceHash remainingSeconds
        (if disconnected then .disconnected else .expired) s

/-! ## Starting and resuming sessions -/

/-- The arguments of `start_or_resume_session`. -/
structure StartRequest where
  ip : IpAddr
  mac : Option Mac
  token : Option CString
  deviceHash : Option CString
  grantedSeconds : Int

/-- `session_duration_sec`. -/
def StartRequest.duration (req : StartRequest) : Nat :=
  if 0 < req.grantedSeconds then req.grantedSeconds.toNat else sessionDurationSec

/-- A string field after `if (arg != NULL && arg[0] != '\0') strlcpy(field, arg, size);`. -/
def setString (size : Nat) (field : CString) : Option CString → CString
  | none => field
  | some arg => if arg ≠ [] then strlcpy size arg else field

/-- The writes of the reuse branch: the session gets the address, and the MAC, token and hash
    as far as they are given; a token it has stays. -/
def reusedSession (req : StartRequest) (session : ClientSession) : ClientSession :=
  { session with
    ipAddr := req.ip
    admitted := true
    mac := req.mac.getD session.mac
    token :=
      if session.token = [] then setString sessionTokenLen session.token req.token
      else session.token
    deviceHash := setString deviceHashLen session.deviceHash req.deviceHash }

/-- The writes of the resume and of the start branch: every field of the slot is set. -/
def startedSession (m : Moment) (dayId : Nat) (req : StartRequest) : ClientSession where
  ipAddr := req.ip
  mac := req.mac.getD 0
  token := setString sessionTokenLen [] req.token
  deviceHash := setString deviceHashLen [] req.deviceHash
  endTime := m.now + req.duration * secondUs
  startTime := m.now
  grantedSeconds := req.duration
  accountedSeconds := 0
  dayId := dayId
  admitted := true
  active := true

/-- The end of every branch: refresh, then `client_acl_admit`. -/
def admitRequest (p : Platform) (m : Moment) (req : StartRequest) (s : Server) : Server :=
  let s := refreshPortalAuthState p m s
  { s with acl := clientAclAdmit req.ip req.mac s.acl }

/-- The writes of the resume branch and the start branch (`http_server.c:733-799`), to their
    slot. -/
def writeSession (m : Moment) (req : StartRequest) (i : Fin maxClients) (s : Server) : Server :=
  let day := getCurrentDayId m.time s.quota
  { s with
    sessions := Function.update s.sessions i (startedSession m day.1 req)
    quota := day.2
    globalSessionEndTime := if req.ip ≠ 0 then 0 else s.globalSessionEndTime }

/-- The slot a session is written to when none is reused: the session of the MAC, or
    `previous` without a MAC; else the session of the token; else a free slot; else slot 0. -/
def slotToWrite (req : StartRequest) (previous : Option (Fin maxClients))
    (sessions : SessionTable) : Fin maxClients :=
  let index := if req.mac.isSome then findSessionIndexByMac sessions req.mac else previous
  match index.or (findSessionIndexByToken sessions req.token) with
  | some i => i
  | none => (findFreeSessionSlot sessions).getD ⟨0, maxClients_pos⟩

/-- `start_or_resume_session` from the lookup up to the last refresh (`http_server.c:704-799`): an
    unexpired session that was found is reused, an expired one is dropped and a session is
    written. -/
def acceptSession (m : Moment) (req : StartRequest) (found : Option (Fin maxClients))
    (s : Server) : Fin maxClients × Server :=
  match found with
  | some i =>
    if m.now < (s.sessions i).endTime then
      (i, { s with
        sessions := Function.update s.sessions i (reusedSession req (s.sessions i)) })
    else
      let s := { s with
        sessions := Function.update s.sessions i { s.sessions i with active := false } }
      let slot := slotToWrite req (some i) s.sessions
      (slot, writeSession m req slot s)
  | none =>
    let slot := slotToWrite req none s.sessions
    (slot, writeSession m req slot s)

/-- The session an address is looked up to: by MAC, then by IP. -/
def foundByClient (req : StartRequest) (sessions : SessionTable) : Option (Fin maxClients) :=
  (findSessionIndexByMac sessions req.mac).or (findSessionIndexByIp sessions req.ip)

/-- The first step of the branch without an address: the global session, and a refresh. -/
def openGlobalSession (p : Platform) (m : Clocks) (req : StartRequest) (s : Server) : Server :=
  refreshPortalAuthState p m.opening
    { s with globalSessionEndTime := m.now + req.duration * secondUs }

/-- `start_or_resume_session` (`http_server.c:674-799`): the slot it returns, `none` for
    `NULL`, and the state it leaves. -/
def startOrResumeSession (p : Platform) (m : Clocks) (req : StartRequest) (s : Server) :
    Option (Fin maxClients) × Server :=
  if req.ip = 0 then
    let s := openGlobalSession p m req s
    if req.token.getD [] = [] then (none, s)
    else
      let result := acceptSession m req (findSessionIndexByToken s.sessions req.token) s
      (some result.1, admitRequest p m.closing req result.2)
  else
    let result := acceptSession m req (foundByClient req s.sessions) s
    (some result.1, admitRequest p m.closing req result.2)

end SolarConnect.Session
