import SolarConnect.Misc.CText
import SolarConnect.Misc.CivilTime
import SolarConnect.Supabase.Rows

/-!
# Bodies of upserts

The JSON that `supabase_upsert_session` prints for a row. The tokens and hashes in it are
hexadecimal in every run, so that the body fits its buffer and reads back as the row. Its times are
there once the clock is set; the table has no default for one of them.
-/

namespace SolarConnect.Supabase

open Session FlatJson CText CivilTime Slots
open Bytes hiding CString

/-! ## `supabase_client.c` -/

/-- `get_valid_time` (`supabase_client.c:56-70`). -/
def getValidTime (time : Nat) : Option Nat :=
  if time < 1700000000 then none else some time

/-- `format_timestamp_utc` (`supabase_client.c:41-54`): the string in the buffer, `none` for
    `false`. -/
def formatTimestampUtc (time bufLen : Nat) : Option CString :=
  if bufLen < 21 then none
  else if (timestamp time).length < bufLen then some (timestamp time)
  else none

/-- The strings that are passed as `status`. -/
def RowStatus.text : RowStatus → CString
  | .active => ascii "active"
  | .disconnected => ascii "disconnected"
  | .expired => ascii "expired"

def boolText (b : Bool) : CString :=
  if b then ascii "true" else ascii "false"

/-- The body in `supabase_upsert_session` (`supabase_client.c:202-238`), when `time` is the clock.
    A buffer that could not be formatted is not initialised. -/
def upsertBody (uninitialised : CString) (time : Nat) (u : Upsert) : CString :=
  match getValidTime time with
  | some now =>
    let sessionEnd := (formatTimestampUtc (now + u.remainingSeconds) 32).getD uninitialised
    let heartbeat := (formatTimestampUtc now 32).getD uninitialised
    snprintf 768
      (ascii "\x7b\"token\":\"" ++ (u.sessionToken ++ (ascii "\",\"mac_hash\":\"" ++ (u.deviceHash ++
        (ascii "\",\"session_token\":\"" ++ (u.sessionToken ++
          (ascii "\",\"device_hash\":\"" ++ (u.deviceHash ++
            (ascii "\",\"session_end\":\"" ++ (sessionEnd ++
              (ascii "\",\"remaining_seconds\":" ++ (decimal u.remainingSeconds ++
                (ascii ",\"status\":\"" ++ (u.status.text ++
                  (ascii "\",\"ap_connected\":" ++ (boolText u.apConnected ++
                    (ascii ",\"last_heartbeat\":\"" ++ (heartbeat ++
                      ascii "\"\x7d"))))))))))))))))))
  | none =>
    snprintf 768
      (ascii "\x7b\"token\":\"" ++ (u.sessionToken ++ (ascii "\",\"mac_hash\":\"" ++ (u.deviceHash ++
        (ascii "\",\"session_token\":\"" ++ (u.sessionToken ++
          (ascii "\",\"device_hash\":\"" ++ (u.deviceHash ++
            (ascii "\",\"remaining_seconds\":" ++ (decimal u.remainingSeconds ++
              (ascii ",\"status\":\"" ++ (u.status.text ++
                (ascii "\",\"ap_connected\":" ++ (boolText u.apConnected ++
                  ascii "\x7d"))))))))))))))

/-! ## The body as an object -/

/-- The columns that a body names when the clock is set. -/
def timedRow (u : Upsert) (sessionEnd heartbeat : CString) : List Member :=
  [(ascii "token", .str u.sessionToken), (ascii "mac_hash", .str u.deviceHash),
    (ascii "session_token", .str u.sessionToken), (ascii "device_hash", .str u.deviceHash),
    (ascii "session_end", .str sessionEnd), (ascii "remaining_seconds", .int u.remainingSeconds),
    (ascii "status", .str u.status.text), (ascii "ap_connected", .bool u.apConnected),
    (ascii "last_heartbeat", .str heartbeat)]

/-- And when it is not. -/
def untimedRow (u : Upsert) : List Member :=
  [(ascii "token", .str u.sessionToken), (ascii "mac_hash", .str u.deviceHash),
    (ascii "session_token", .str u.sessionToken), (ascii "device_hash", .str u.deviceHash),
    (ascii "remaining_seconds", .int u.remainingSeconds), (ascii "status", .str u.status.text),
    (ascii "ap_connected", .bool u.apConnected)]

theorem upsertBody_timed {time : Nat} (set : 1700000000 ≤ time) (uninitialised : CString)
    (u : Upsert) :
    upsertBody uninitialised time u = snprintf 768 (writeObject (timedRow u
      ((formatTimestampUtc (time + u.remainingSeconds) 32).getD uninitialised)
      ((formatTimestampUtc time 32).getD uninitialised))) := by
  rw [upsertBody, getValidTime, if_neg (by omega)]
  obtain ⟨token, hash, remaining, connected, status⟩ := u
  cases connected <;> rfl

theorem upsertBody_untimed {time : Nat} (unset : time < 1700000000) (uninitialised : CString)
    (u : Upsert) :
    upsertBody uninitialised time u = snprintf 768 (writeObject (untimedRow u)) := by
  rw [upsertBody, getValidTime, if_pos unset]
  obtain ⟨token, hash, remaining, connected, status⟩ := u
  cases connected <;> rfl

/-! ## Hexadecimal names -/

/-- Nothing, or so many lower-case hexadecimal digits. -/
def Hex (length : Nat) (s : CString) : Prop :=
  s = [] ∨ s.length = length ∧ ∀ b ∈ s, ∃ n < 16, b = hexDigit n

/-- A session token with a device hash. -/
structure Named (token deviceHash : CString) : Prop where
  token : Hex 32 token
  deviceHash : Hex 64 deviceHash

/-- The names of the sessions that are active, and those on the queue. -/
structure NamesOk (s : Server) : Prop where
  sessions : ∀ i, (s.sessions i).active = true →
    Named (s.sessions i).token (s.sessions i).deviceHash
  updates : ∀ update ∈ s.updates, Named update.token update.deviceHash

theorem Hex.length_le {length : Nat} {s : CString} (hex : Hex length s) : s.length ≤ length := by
  rcases hex with rfl | ⟨same, -⟩
  · exact Nat.zero_le _
  · exact same.le

theorem Hex.clean {length : Nat} {s : CString} (hex : Hex length s) : Clean s := by
  have digit : ∀ n < 16, 0x20 ≤ hexDigit n ∧ hexDigit n ≠ quote ∧ hexDigit n ≠ backslash := by
    decide
  rcases hex with rfl | ⟨-, digits⟩
  · exact List.forall_mem_nil _
  · intro b member
    obtain ⟨n, small, rfl⟩ := digits b member
    exact digit n small

/-- A field with room for it keeps it. -/
theorem Hex.strlcpy {length size : Nat} {s : CString} (hex : Hex length s) (room : length < size) :
    strlcpy size s = s :=
  List.take_of_length_le (hex.length_le.trans (by omega))

theorem hex_bytesToHex (bytes : List (BitVec 8)) : Hex (2 * bytes.length) (bytesToHex bytes) := by
  refine Or.inr ⟨?_, ?_⟩
  · simp [bytesToHex, List.length_flatMap, Nat.mul_comm]
  · intro b member
    obtain ⟨byte, -, digit⟩ := List.mem_flatMap.mp member
    have small := byte.isLt
    rcases List.mem_cons.mp digit with rfl | last
    · exact ⟨byte.toNat / 16, by omega, rfl⟩
    · exact ⟨byte.toNat % 16, by omega, List.mem_singleton.mp last⟩

theorem hex_generateSessionToken (random : Fin 16 → BitVec 8) :
    Hex 32 (generateSessionToken random) := by
  have hex := hex_bytesToHex (List.ofFn random)
  rwa [List.length_ofFn] at hex

theorem hex_generateHashFromMac (p : Platform) (mac : Mac) :
    Hex 64 (generateHashFromMac p mac) := by
  have hex := hex_bytesToHex (List.ofFn (p.sha256 (macBytes mac)))
  rwa [List.length_ofFn] at hex

theorem hex_generateHashFromIp (p : Platform) (ip : IpAddr) :
    Hex 64 (generateHashFromIp p ip) := by
  have hex := hex_bytesToHex (List.ofFn (p.sha256 (ipBytes ip)))
  rwa [List.length_ofFn] at hex

/-- The strings that a request carries. -/
structure HexRequest (req : StartRequest) : Prop where
  token : ∀ token, req.token = some token → Hex 32 token
  deviceHash : ∀ hash, req.deviceHash = some hash → Hex 64 hash

theorem hexRequest_connect (p : Platform) (m : Clocks) (random : Fin 16 → BitVec 8) (mac : Mac)
    (s : Server) : HexRequest (connectRequest p m random mac s) := by
  refine ⟨?_, ?_⟩
  · rintro token ⟨⟩
    exact hex_generateSessionToken random
  · rintro hash ⟨⟩
    exact hex_generateHashFromMac p mac

theorem hexRequest_confirm (p : Platform) (mac : Option Mac) (ip : IpAddr)
    (random : Fin 16 → BitVec 8) (granted : Nat) :
    HexRequest (confirmRequest p mac ip random granted) := by
  refine ⟨?_, ?_⟩
  · rintro token ⟨⟩
    exact hex_generateSessionToken random
  · intro hash given
    cases mac with
    | some mac =>
      cases given
      exact hex_generateHashFromMac p mac
    | none =>
      obtain ⟨-, same⟩ := Option.ite_none_right_eq_some.mp given
      cases same
      exact hex_generateHashFromIp p ip

/-- A call of `start_or_resume_session` carries what its callers give it. -/
def CarriesHex : Operation → Prop
  | .startOrResume req => HexRequest req
  | _ => True

theorem hex_setString {length size : Nat} (room : length < size) {field : CString}
    (hex : Hex length field) {arg : Option CString} (given : ∀ s, arg = some s → Hex length s) :
    Hex length (setString size field arg) := by
  cases arg with
  | none => exact hex
  | some s =>
    rw [setString]
    split
    · rw [(given s rfl).strlcpy room]
      exact given s rfl
    · exact hex

theorem Named.of_same {a b : ClientSession} (named : Named a.token a.deviceHash)
    (same : SameSession a b) : Named b.token b.deviceHash := by
  rw [same]
  exact named

/-- The bound session has a name of the request, or the one it had. -/
theorem named_bound {m : Clocks} {req : StartRequest} {sessions : SessionTable}
    (hex : HexRequest req)
    (named : ∀ i, (sessions i).active = true →
      Named (sessions i).token (sessions i).deviceHash) :
    Named (boundToken req (requestBinding m req sessions))
      (boundHash req (requestBinding m req sessions)) := by
  have none : Hex 32 [] := Or.inl rfl
  have noHash : Hex 64 [] := Or.inl rfl
  unfold boundToken boundHash
  cases reuse : (requestBinding m req sessions).reuse with
  | false =>
    exact ⟨hex_setString (by decide) none hex.token,
      hex_setString (by decide) noHash hex.deviceHash⟩
  | true =>
    have active := (boundSession_running m 0 req sessions).1
    rw [boundSession, if_pos reuse] at active
    have same := (dropped_active active).2
    have before : Named (sessions (requestBinding m req sessions).slot).token
        (sessions (requestBinding m req sessions).slot).deviceHash :=
      named _ (by rw [← same]; exact active)
    rw [← same] at before
    rw [if_pos rfl, if_pos rfl]
    refine ⟨?_, hex_setString (by decide) before.deviceHash hex.deviceHash⟩
    rw [reusedSession]
    dsimp only
    split
    · exact hex_setString (by decide) before.token hex.token
    · exact before.token

/-- The slot that a start returns has a name, whether or not its session goes on. -/
theorem named_started (p : Platform) {m : Clocks} {req : StartRequest} (binds : Binds req)
    {s : Server} (hex : HexRequest req)
    (named : ∀ i, (s.sessions i).active = true →
      Named (s.sessions i).token (s.sessions i).deviceHash) {i : Fin maxClients}
    (slot : (startOrResumeSession p m req s).1 = some i) :
    Named ((startOrResumeSession p m req s).2.sessions i).token
      ((startOrResumeSession p m req s).2.sessions i).deviceHash := by
  obtain rfl := Option.some.inj (slot.symm.trans (startOrResume_effect p m binds s).1)
  obtain ⟨token, hash⟩ := Prod.mk.inj (startOrResume_rowNames p m binds s)
  rw [token, hash]
  exact named_bound hex named

/-! ## The names of a run -/

theorem NamesOk.ends {ended : Fin maxClients → Prop} {s s' : Server} (names : NamesOk s)
    (gone : Ends ended s.gate s'.gate) (updates : s'.updates = s.updates) : NamesOk s' := by
  refine ⟨fun i active => ?_, fun update queued => names.updates update (updates ▸ queued)⟩
  obtain ⟨-, before, same⟩ := gone.survivor active
  exact (names.sessions i before).of_same same

theorem NamesOk.queue {s : Server} (names : NamesOk s) {token deviceHash : CString}
    (named : Named token deviceHash) (remainingSeconds : Nat) (mode : SupabaseUpdateMode) :
    NamesOk (queueSupabaseSessionUpdate token deviceHash remainingSeconds mode s) := by
  refine ⟨names.sessions, fun update queued => ?_⟩
  rcases List.mem_append.mp queued with old | new
  · exact names.updates update old
  · rw [List.mem_singleton.mp new]
    dsimp only
    rw [named.token.strlcpy (by decide), named.deviceHash.strlcpy (by decide)]
    exact named

theorem NamesOk.refresh {s : Server} (names : NamesOk s) (p : Platform) (m : Moment) :
    NamesOk (refreshPortalAuthState p m s) :=
  names.ends (refresh_ends p m s) (refresh_updates p m s)

theorem NamesOk.revoke {s : Server} (names : NamesOk s) (p : Platform) (m : Moment)
    (i : Fin maxClients) (disconnected : Bool) : NamesOk (revokeSession p m i disconnected s) := by
  unfold revokeSession
  split
  · exact names
  rename_i active
  rw [Bool.not_eq_true, Bool.not_eq_false'] at active
  have closed : NamesOk (closeSlot p m i s) := names.ends (endSlot_ends p m active rfl) rfl
  have swept := closed.refresh p m
  dsimp only
  split
  · exact swept
  · exact swept.queue (names.sessions i active) _ _

theorem NamesOk.heartbeat {s : Server} (names : NamesOk s) (p : Platform) (m : Moment)
    (i : Fin maxClients) : NamesOk (heartbeatSlot p m i s) :=
  heartbeat_preserves NamesOk
    (fun i s before => before.ends (checkpointSlot_ends p m false i s) rfl)
    (fun i disconnected _ before => before.revoke p m i disconnected) i names

theorem NamesOk.disconnect {s : Server} (names : NamesOk s) (p : Platform) (m : Moment)
    (ap : ApView) (mac : Mac) : NamesOk (handleClientDisconnect p m ap mac s) :=
  disconnect_preserves NamesOk
    (fun i disconnected _ before => before.revoke p m i disconnected) ap mac names

theorem NamesOk.start {s : Server} (names : NamesOk s) (p : Platform) (m : Clocks)
    {req : StartRequest} (hex : HexRequest req) : NamesOk (startOrResumeSession p m req s).2 := by
  by_cases binds : Binds req
  · have effect := (startOrResume_effect p m binds s).2
    refine ⟨fun i active => ?_, ?_⟩
    · rcases eq_or_ne i (requestBinding m req s.sessions).slot with rfl | elsewhere
      · exact named_started p binds hex names.sessions (startOrResume_effect p m binds s).1
      · obtain ⟨-, kept, same⟩ := effect.other elsewhere active
        rw [gate_sessions] at kept same
        have before : (s.sessions i).active = true := by
          rw [← (dropped_active kept).2]
          exact kept
        exact (names.sessions i before).of_same same
    · rw [startOrResume_updates]
      exact names.updates
  · exact names.ends (startOrResume_unbound p m binds s) (startOrResume_updates p m req s)

/-- What is not in the tables of sessions and updates does not matter. -/
theorem NamesOk.of_same {s s' : Server} (names : NamesOk s) (sessions : s'.sessions = s.sessions)
    (updates : s'.updates = s.updates) : NamesOk s' :=
  ⟨by rw [sessions]; exact names.sessions, by rw [updates]; exact names.updates⟩

/-- A session is written that has the names of the one before. -/
theorem NamesOk.write {s s' : Server} (names : NamesOk s) {i : Fin maxClients}
    {session : ClientSession} (sessions : s'.sessions = Function.update s.sessions i session)
    (updates : s'.updates = s.updates)
    (same : session.active = true → (s.sessions i).active = true ∧
      session.token = (s.sessions i).token ∧ session.deviceHash = (s.sessions i).deviceHash) :
    NamesOk s' := by
  refine ⟨fun j active => ?_, by rw [updates]; exact names.updates⟩
  rw [sessions, Function.update_apply] at active ⊢
  split at active
  · rename_i here
    obtain ⟨before, token, hash⟩ := same active
    rw [if_pos here, token, hash]
    exact names.sessions i before
  · rename_i elsewhere
    rw [if_neg elsewhere]
    exact names.sessions j active

theorem NamesOk.napt {s : Server} (names : NamesOk s) (p : Platform) :
    NamesOk (ensureNaptEnabled p s).2 :=
  names.of_same (ensureNapt_sessions p s) (ensureNapt_updates p s)

theorem NamesOk.connect {s : Server} (names : NamesOk s) (p : Platform) (m : Clocks) (ap : ApView)
    (random : Fin 16 → BitVec 8) (mac : Mac) :
    NamesOk (handleClientConnect p m ap random mac s) := by
  have looked : NamesOk { s with quota := (getQuotaRemainingForMac m.asked mac s.quota).2 } :=
    names.of_same rfl rfl
  have hex := hexRequest_connect p m random mac s
  have binds : Binds (connectRequest p m random mac s) :=
    Or.inr (generateSessionToken_ne_nil random)
  have started := (looked.napt p).start p m hex
  unfold handleClientConnect
  dsimp only
  split
  · exact names
  split
  · exact names
  split
  · exact looked
  split
  · exact looked
  split
  · exact looked.napt p
  rw [connectRequest_eq]
  split
  · exact started
  · rename_i i slot
    split
    · exact started
    · exact started.queue (named_started p binds hex (looked.napt p).sessions slot) _ _

theorem NamesOk.getRemaining {s : Server} (names : NamesOk s) (p : Platform) (m : Moment)
    (ap : ApView) (ip : IpAddr) : NamesOk (getRemainingSeconds p m ap ip s).2 := by
  have lookup := getRemaining_lookup p m ap ip s
  generalize getRemainingSeconds p m ap ip s = result at lookup ⊢
  cases lookup with
  | misses | answers => exact names
  | revokes i => exact names.revoke p m i false
  | moves => exact names.write rfl rfl fun active => ⟨active, rfl, rfl⟩

theorem NamesOk.ipAssigned {s : Server} (names : NamesOk s) (p : Platform) (m : Clocks) (mac : Mac)
    (ipNet : IpAddr) : NamesOk (handleClientIpAssigned p m mac ipNet s) := by
  unfold handleClientIpAssigned
  split
  · exact names
  split
  · exact names
  dsimp only
  apply NamesOk.refresh
  exact names.write rfl rfl fun active => ⟨active, rfl, rfl⟩

theorem NamesOk.confirm {s : Server} (names : NamesOk s) (p : Platform) (m : Clocks) (ap : ApView)
    (random : Fin 16 → BitVec 8) (ip : IpAddr) :
    NamesOk (confirmHandler p m ap random ip s).2 := by
  have granted : NamesOk (confirmGrant m (confirmMac ap ip) s).2 := by
    rw [confirmGrant_server]
    exact names.of_same rfl rfl
  unfold confirmHandler
  dsimp only
  split
  · exact granted
  split
  · exact granted
  split
  · exact granted.napt p
  · exact ((granted.napt p).start p m (hexRequest_confirm p _ ip random _)).getRemaining p
      m.closing ap ip

theorem NamesOk.step {s : Server} (names : NamesOk s) (p : Platform) (m : Clocks)
    {op : Operation} (carries : CarriesHex op) : NamesOk (step p m op s) := by
  cases op with
  | startOrResume req => exact names.start p m carries
  | revoke i disconnected => exact names.revoke p m i disconnected
  | refresh => exact names.refresh p m
  | getRemaining ap ip => exact names.getRemaining p m ap ip
  | clientConnect ap random mac => exact names.connect p m ap random mac
  | clientIpAssigned mac ipNet => exact names.ipAssigned p m mac ipNet
  | clientDisconnect ap mac => exact names.disconnect p m ap mac
  | confirm ap random ip => exact names.confirm p m ap random ip
  | heartbeat i => exact names.heartbeat p m i

theorem hex_givenString {length : Nat} {field arg : Option CString}
    (held : ∀ s, field = some s → Hex length s) (given : ∀ s, arg = some s → Hex length s) :
    Hex length (givenString field arg) := by
  have present (o : Option CString) (hex : ∀ s, o = some s → Hex length s) :
      Hex length (o.getD []) := by
    cases o with
    | none => exact Or.inl rfl
    | some s => exact hex s rfl
  unfold givenString
  split
  · exact present field held
  · exact present arg given

/-- The row that `/confirm` sends has the names of the session, or of the request. -/
theorem confirm_named {p : Platform} {m : Clocks} {ap : ApView} {random : Fin 16 → BitVec 8}
    {ip : IpAddr} {s : Server} (timed : Timed s.sessions) (names : NamesOk s)
    {remainingSeconds : Nat} {dashboardToken : CString} {row : PendingSupabaseUpdate}
    (replies : (confirmHandler p m ap random ip s).1 =
      .connected remainingSeconds dashboardToken (some row)) :
    Named row.token row.deviceHash := by
  have granted : NamesOk (confirmGrant m (confirmMac ap ip) s).2 ∧
      (confirmGrant m (confirmMac ap ip) s).2.sessions = s.sessions := by
    rw [confirmGrant_server]
    exact ⟨names.of_same rfl rfl, rfl⟩
  have routed : NamesOk (ensureNaptEnabled p (confirmGrant m (confirmMac ap ip) s).2).2 ∧
      (ensureNaptEnabled p (confirmGrant m (confirmMac ap ip) s).2).2.sessions = s.sessions :=
    ⟨granted.1.napt p, (ensureNapt_sessions p _).trans granted.2⟩
  obtain ⟨amount, -, token, deviceHash⟩ := confirm_replies replies
  unfold repliedSession at token deviceHash
  generalize (ensureNaptEnabled p (confirmGrant m (confirmMac ap ip) s).2).2 = t
    at routed token deviceHash
  have hex := hexRequest_confirm p (confirmMac ap ip) ip random amount
  have binds : Binds (confirmRequest p (confirmMac ap ip) ip random amount) :=
    Or.inr (generateSessionToken_ne_nil random)
  obtain ⟨last, -⟩ := @getRemaining_afterStart p m ap
    (confirmRequest p (confirmMac ap ip) ip random amount)
    (fun mac resolved => confirmMac_resolved resolved) t (routed.2 ▸ timed)
  have session : ∀ i, (startOrResumeSession p m
      (confirmRequest p (confirmMac ap ip) ip random amount) t).1 = some i → _ :=
    fun i slot => named_started p binds hex routed.1.sessions slot
  rw [token, deviceHash]
  refine ⟨hex_givenString ?_ hex.token, hex_givenString ?_ hex.deviceHash⟩
  · simp only [Option.map_map, Option.map_eq_some_iff, Function.comp_apply]
    rintro token ⟨i, slot, rfl⟩
    exact (last.sameRow i).token ▸ (session i slot).token
  · simp only [Option.map_map, Option.map_eq_some_iff, Function.comp_apply]
    rintro hash ⟨i, slot, rfl⟩
    exact (last.sameRow i).deviceHash ▸ (session i slot).deviceHash

theorem named_upsert {token deviceHash : CString} {remainingSec : Int} {apConnected : Bool}
    {status : RowStatus} {upsert : Upsert} (named : Named token deviceHash)
    (sent : supabaseUpsertSession token deviceHash remainingSec apConnected status = some upsert) :
    Named upsert.sessionToken upsert.deviceHash := by
  unfold supabaseUpsertSession at sent
  split at sent
  · cases sent
  · cases sent
    exact named

theorem upsertOf_named {p : Platform} {m : Clocks} {op : Operation} {s : Server} {upsert : Upsert}
    (timed : Timed s.sessions) (names : NamesOk s) (made : upsertOf p m op s = some upsert) :
    Named upsert.sessionToken upsert.deviceHash := by
  cases op with
  | confirm ap random ip =>
    rw [upsertOf] at made
    split at made
    · rename_i replies
      exact named_upsert (confirm_named timed names replies) made
    · cases made
  | heartbeat i =>
    rw [upsertOf, heartbeatUpsert] at made
    split at made
    · cases made
    rename_i present
    rw [Bool.not_eq_true', not_or, Bool.not_eq_false] at present
    have named := names.sessions i present.1
    dsimp only at made
    split at made
    · split at made
      · exact named_upsert named made
      · exact named_upsert named made
    · cases made
  | _ => cases made

/-- The names at the server, and those of the upserts on their way. -/
structure CloudNames (c : Cloud) : Prop where
  timed : Timed c.server.sessions
  names : NamesOk c.server
  upserts : ∀ u ∈ c.unsent ++ c.inFlight, Named u.sessionToken u.deviceHash

/-- A step whose operation carries what its callers give it. -/
def HexAction : Action → Prop
  | .operate op => CarriesHex op
  | _ => True

theorem CloudNames.step {c : Cloud} (ok : CloudNames c) (p : Platform)
    {input : Clocks × Action} (carries : HexAction input.2) : CloudNames (cloudStep p input c) := by
  obtain ⟨m, action⟩ := input
  cases action with
  | operate op =>
    refine ⟨ok.timed.step, ok.names.step p m carries, ?_⟩
    intro u member
    change u ∈ (c.unsent ++ (upsertOf p m op c.server).toList) ++ c.inFlight at member
    rw [List.mem_append, List.mem_append] at member
    rcases member with (waiting | made) | flying
    · exact ok.upserts u (List.mem_append_left _ waiting)
    · exact upsertOf_named ok.timed ok.names (Option.mem_toList.mp made)
    · exact ok.upserts u (List.mem_append_right _ flying)
  | send k =>
    cases sent : c.unsent[k]? with
    | none =>
      simp only [cloudStep, sent]
      exact ok
    | some upsert =>
      simp only [cloudStep, sent]
      refine ⟨ok.timed, ok.names, fun u member => ok.upserts u ?_⟩
      simp only [List.mem_append, List.mem_singleton] at member ⊢
      rcases member with still | flying | rfl
      · exact Or.inl (List.mem_of_mem_eraseIdx still)
      · exact Or.inr flying
      · exact Or.inl (List.mem_of_getElem? sent)
  | dequeue =>
    cases next : c.server.updates[c.taken]? with
    | none =>
      simp only [cloudStep, next]
      exact ok
    | some update =>
      simp only [cloudStep, next]
      refine ⟨ok.timed, ok.names, fun u member => ?_⟩
      simp only [List.mem_append] at member
      rcases member with waiting | flying | made
      · exact ok.upserts u (List.mem_append_left _ waiting)
      · exact ok.upserts u (List.mem_append_right _ flying)
      · obtain ⟨_, _, _, -, same⟩ := performUpdate_upsert update
        have sent := same.symm.trans (Option.mem_toList.mp made)
        exact named_upsert (ok.names.updates update (List.mem_of_getElem? next)) sent
  | deliver k =>
    cases delivered : c.inFlight[k]? with
    | none =>
      simp only [cloudStep, delivered]
      exact ok
    | some upsert =>
      simp only [cloudStep, delivered]
      refine ⟨ok.timed, ok.names, fun u member => ok.upserts u ?_⟩
      simp only [List.mem_append] at member ⊢
      exact member.imp_right List.mem_of_mem_eraseIdx

theorem cloudNames_init (boot : Nat) : CloudNames (initCloud boot) := by
  refine ⟨timed_init boot, ⟨?_, ?_⟩, ?_⟩
  · intro i active
    cases active
  · intro update member
    cases member
  · intro u member
    cases member

/-- The cloud after a run. -/
def cloudAfter (p : Platform) (boot : Nat) (inputs : List (Clocks × Action)) : Cloud :=
  Runs.run (cloudStep p) (initCloud boot) inputs

theorem cloudNames_after (p : Platform) (boot : Nat) {inputs : List (Clocks × Action)}
    (carries : ∀ input ∈ inputs, HexAction input.2) : CloudNames (cloudAfter p boot inputs) := by
  have guarded : Runs.Guarded (cloudStep p) (fun input _ => HexAction input.2) (initCloud boot)
      inputs := Runs.guarded_of_forall carries
  exact Runs.run_invariant CloudNames (cloudNames_init boot)
    (fun _ _ ok carries => ok.step p carries) guarded

/-! ## What a row says -/

/-- The value of a column. -/
def column (row : List Member) (name : String) : Option Value :=
  row.lookup (ascii name)

/-- The columns of `public.sessions` that are not null and have no default
    (`supabase/001_schema.sql:37-65`). -/
def requiredColumns : List String := ["token", "mac_hash", "session_end"]

/-- The row is that of the upsert, at this time. -/
structure Describes (time : Nat) (u : Upsert) (row : List Member) : Prop where
  token : column row "token" = some (.str u.sessionToken) ∧
    column row "session_token" = some (.str u.sessionToken)
  deviceHash : column row "mac_hash" = some (.str u.deviceHash) ∧
    column row "device_hash" = some (.str u.deviceHash)
  remaining : column row "remaining_seconds" = some (.int u.remainingSeconds)
  status : column row "status" = some (.str u.status.text)
  connected : column row "ap_connected" = some (.bool u.apConnected)
  times : 1700000000 ≤ time → ∃ sessionEnd heartbeat,
    column row "session_end" = some (.str sessionEnd) ∧
      readTimestamp sessionEnd = some (time + u.remainingSeconds) ∧
      column row "last_heartbeat" = some (.str heartbeat) ∧ readTimestamp heartbeat = some time
  complete : (∀ name ∈ requiredColumns, (column row name).isSome = true) ↔ 1700000000 ≤ time

theorem status_text (status : RowStatus) : Clean status.text ∧ status.text.length ≤ 12 := by
  cases status <;> decide

section
variable {u : Upsert} (named : Named u.sessionToken u.deviceHash)
include named

theorem cleanMembers_timed {sessionEnd heartbeat : CString} (ends : Clean sessionEnd)
    (beats : Clean heartbeat) : CleanMembers (timedRow u sessionEnd heartbeat) := by
  have token := named.token.clean
  have hash := named.deviceHash.clean
  refine cleanMembers_cons (by decide) token (cleanMembers_cons (by decide) hash ?_)
  refine cleanMembers_cons (by decide) token (cleanMembers_cons (by decide) hash ?_)
  refine cleanMembers_cons (by decide) ends (cleanMembers_cons (by decide) trivial ?_)
  refine cleanMembers_cons (by decide) (status_text _).1 (cleanMembers_cons (by decide) trivial ?_)
  exact cleanMembers_cons (by decide) beats cleanMembers_nil

theorem cleanMembers_untimed : CleanMembers (untimedRow u) := by
  have token := named.token.clean
  have hash := named.deviceHash.clean
  refine cleanMembers_cons (by decide) token (cleanMembers_cons (by decide) hash ?_)
  refine cleanMembers_cons (by decide) token (cleanMembers_cons (by decide) hash ?_)
  refine cleanMembers_cons (by decide) trivial (cleanMembers_cons (by decide) (status_text _).1 ?_)
  exact cleanMembers_cons (by decide) trivial cleanMembers_nil

/-- A body with timestamps fits its buffer. -/
theorem timedRow_length {sessionEnd heartbeat : CString} (ends : sessionEnd.length ≤ 20)
    (beats : heartbeat.length ≤ 20) (fits : u.remainingSeconds < 2 ^ 31) :
    (writeObject (timedRow u sessionEnd heartbeat)).length ≤ 767 := by
  have token := named.token.length_le
  have hash := named.deviceHash.length_le
  have status := (status_text u.status).2
  have remaining : (decimal u.remainingSeconds).length ≤ 10 :=
    decimal_length_le (by decide) (by omega)
  have connected : (Value.bool u.apConnected).size ≤ 5 := by
    cases u.apConnected <;> decide
  rw [writeObject_length (by simp [timedRow])]
  change 1 + (5 + (u.sessionToken.length + 2) + 4 + (8 + (u.deviceHash.length + 2) + 4 +
    (13 + (u.sessionToken.length + 2) + 4 + (11 + (u.deviceHash.length + 2) + 4 +
      (11 + (sessionEnd.length + 2) + 4 + (17 + (decimal u.remainingSeconds).length + 4 +
        (6 + (u.status.text.length + 2) + 4 + (12 + (Value.bool u.apConnected).size + 4 +
          (14 + (heartbeat.length + 2) + 4 + 0))))))))) ≤ 767
  omega

theorem untimedRow_length (fits : u.remainingSeconds < 2 ^ 31) :
    (writeObject (untimedRow u)).length ≤ 767 := by
  have token := named.token.length_le
  have hash := named.deviceHash.length_le
  have status := (status_text u.status).2
  have remaining : (decimal u.remainingSeconds).length ≤ 10 :=
    decimal_length_le (by decide) (by omega)
  have connected : (Value.bool u.apConnected).size ≤ 5 := by
    cases u.apConnected <;> decide
  rw [writeObject_length (by simp [untimedRow])]
  change 1 + (5 + (u.sessionToken.length + 2) + 4 + (8 + (u.deviceHash.length + 2) + 4 +
    (13 + (u.sessionToken.length + 2) + 4 + (11 + (u.deviceHash.length + 2) + 4 +
      (17 + (decimal u.remainingSeconds).length + 4 + (6 + (u.status.text.length + 2) + 4 +
        (12 + (Value.bool u.apConnected).size + 4 + 0))))))) ≤ 767
  omega

/-- Before the year 10000 the body of an upsert is its row. -/
theorem upsertBody_reads (uninitialised : CString) {time : Nat}
    (fits : u.remainingSeconds < 2 ^ 31) (early : time + u.remainingSeconds < 253402300800) :
    ∃ row, readObject (upsertBody uninitialised time u) = some row ∧ Describes time u row := by
  have formats : ∀ t < 253402300800, formatTimestampUtc t 32 = some (timestamp t) := by
    intro t before
    have length := timestamp_length before
    rw [formatTimestampUtc, if_neg (by decide), if_pos (by omega)]
  by_cases set : 1700000000 ≤ time
  · have ends := timestamp_length early
    have beats := timestamp_length (show time < 253402300800 by omega)
    have whole := timedRow_length named ends beats fits
    refine ⟨timedRow u (timestamp (time + u.remainingSeconds)) (timestamp time), ?_, ?_⟩
    · rw [upsertBody_timed set, formats _ early, formats _ (by omega), Option.getD_some,
        Option.getD_some, snprintf, List.take_of_length_le whole]
      exact readObject_writeObject
        (cleanMembers_timed named (clean_timestamp _) (clean_timestamp _))
    · refine ⟨⟨rfl, rfl⟩, ⟨rfl, rfl⟩, rfl, rfl, rfl, fun _ => ?_, ?_⟩
      · exact ⟨_, _, rfl, readTimestamp_timestamp _, rfl, readTimestamp_timestamp _⟩
      · refine iff_of_true ?_ set
        intro name member
        simp only [requiredColumns, List.mem_cons, List.not_mem_nil, or_false] at member
        rcases member with rfl | rfl | rfl <;> rfl
  · have whole := untimedRow_length named fits
    refine ⟨untimedRow u, ?_, ?_⟩
    · rw [upsertBody_untimed (by omega), snprintf, List.take_of_length_le whole]
      exact readObject_writeObject (cleanMembers_untimed named)
    · refine ⟨⟨rfl, rfl⟩, ⟨rfl, rfl⟩, rfl, rfl, rfl, fun now => absurd now set, ?_⟩
      refine iff_of_false (fun all => ?_) set
      have missing : column (untimedRow u) "session_end" = none := rfl
      have present := all "session_end" (by decide)
      rw [missing] at present
      cases present

end

/-- Every upsert that a task is to send or has sent, in any run whose requests carry what their
    callers give them, and whenever its body is printed before the year 10000: the body fits its
    buffer and reads back as the row. The row has all the columns it needs exactly if the clock is
    set. -/
theorem session_rows_read_back (p : Platform) (boot : Nat) {inputs : List (Clocks × Action)}
    (carries : ∀ input ∈ inputs, HexAction input.2) :
    let c := cloudAfter p boot inputs
    ∀ u ∈ c.unsent ++ c.inFlight, u.remainingSeconds < 2 ^ 31 →
      ∀ uninitialised time, time + u.remainingSeconds < 253402300800 →
        ∃ row, readObject (upsertBody uninitialised time u) = some row ∧ Describes time u row := by
  intro c u member fits uninitialised time early
  have named := (cloudNames_after p boot carries).upserts u member
  exact upsertBody_reads named uninitialised fits early

/-- The row that a station's confirmation creates. -/
theorem session_rows_read_back_created :
    ∃ u row, readObject (upsertBody [] 1767225600 u) = some row ∧ Describes 1767225600 u row := by
  have carries : ∀ input ∈ rowCreated.take 1, HexAction input.2 := by
    intro input member
    rw [List.mem_singleton.mp member]
    trivial
  have waits : 0 < ((cloudAfter somePlatform 1 (rowCreated.take 1)).unsent ++
      (cloudAfter somePlatform 1 (rowCreated.take 1)).inFlight).length := by
    decide +kernel
  have fits : ∀ u ∈ (cloudAfter somePlatform 1 (rowCreated.take 1)).unsent ++
      (cloudAfter somePlatform 1 (rowCreated.take 1)).inFlight, u.remainingSeconds < 2 ^ 31 := by
    decide +kernel
  obtain ⟨u, member⟩ := List.exists_mem_of_length_pos waits
  have small := fits u member
  have early : 1767225600 + u.remainingSeconds < 253402300800 := by omega
  exact ⟨u, session_rows_read_back somePlatform 1 carries u member small [] 1767225600 early⟩

end SolarConnect.Supabase
