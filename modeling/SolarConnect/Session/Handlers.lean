import SolarConnect.Misc.Runs
import SolarConnect.Session.Server

/-!
# Session operations

The entry points that change the session table: the Wi-Fi event handlers, the lookup every
DNS and HTTP request makes, the `/confirm` flow and the heartbeat. What they ask the AP is an
`ApView`. `Operation` lists them, and `step` runs one.
-/

namespace SolarConnect.Session

open Slots ClientAcl

/-! ## Tokens and hashes -/

/-- A lower-case hexadecimal digit. -/
def hexDigit (n : Nat) : BitVec 8 :=
  if n < 10 then BitVec.ofNat 8 (0x30 + n) else BitVec.ofNat 8 (0x57 + n)

/-- `bytes_to_hex` (`http_server.c:549-560`). -/
def bytesToHex (bytes : List (BitVec 8)) : CString :=
  bytes.flatMap fun b => [hexDigit (b.toNat / 16), hexDigit (b.toNat % 16)]

/-- `generate_session_token` (`http_server.c:562-574`) for the bytes `esp_fill_random` gave. -/
def generateSessionToken (random : Fin 16 → BitVec 8) : CString :=
  bytesToHex (List.ofFn random)

/-- The six bytes of a MAC. -/
def macBytes (mac : Mac) : List (BitVec 8) :=
  [mac.extractLsb' 40 8, mac.extractLsb' 32 8, mac.extractLsb' 24 8, mac.extractLsb' 16 8,
    mac.extractLsb' 8 8, mac.extractLsb' 0 8]

/-- The four bytes of an address in memory. -/
def ipBytes (ip : IpAddr) : List (BitVec 8) :=
  [ip.extractLsb' 0 8, ip.extractLsb' 8 8, ip.extractLsb' 16 8, ip.extractLsb' 24 8]

/-- `generate_hash_from_mac` (`http_server.c:576-588`). -/
def generateHashFromMac (p : Platform) (mac : Mac) : CString :=
  bytesToHex (List.ofFn (p.sha256 (macBytes mac)))

/-- `generate_hash_from_ip` (`http_server.c:590-604`). -/
def generateHashFromIp (p : Platform) (ip : IpAddr) : CString :=
  bytesToHex (List.ofFn (p.sha256 (ipBytes ip)))

/-! ## The AP -/

/-- What the AP side answers during an operation: `esp_wifi_ap_get_sta_list`, the addresses
    `esp_netif_dhcps_get_clients_by_mac` maps stations to (`none` when they fail),
    `last_ap_client_mac` when it is valid, `ap_connect` and `connect_count`. -/
structure ApView where
  staList : Option (List Mac)
  dhcpsClients : Option (Mac → IpAddr)
  lastApClientMac : Option Mac
  apConnect : Bool
  connectCount : Nat

/-- `get_any_connected_client_mac` (`http_server.c:606-620`). -/
def getAnyConnectedClientMac (ap : ApView) : Option Mac :=
  ap.staList.bind List.head?

/-- `get_cached_ap_client_mac` (`http_server.c:622-630`). -/
def getCachedApClientMac (ap : ApView) : Option Mac :=
  ap.lastApClientMac

/-- `get_client_mac_for_ip` (`http_server.c:632-672`). -/
def getClientMacForIp (ap : ApView) (ip : IpAddr) : Option Mac :=
  if ip = 0 then none
  else
    match ap.staList with
    | none => none
    | some stations =>
      let pairs := stations.take maxClients
      if pairs = [] then none
      else
        match ap.dhcpsClients with
        | none => none
        | some lease => pairs.find? fun mac => lease mac == ip

/-! ## Lookups by requests -/

/-- `get_session_remaining_seconds` (`http_server.c:872-886`). -/
def getSessionRemainingSeconds (session : ClientSession) (now : Nat) : Int :=
  if !session.active then -1
  else if session.endTime ≤ now then -1
  else Int.ofNat ((session.endTime - now) / secondUs)

/-- `get_remaining_seconds` (`http_server.c:971-1023`). -/
def getRemainingSeconds (p : Platform) (m : Moment) (ap : ApView) (ip : IpAddr) (s : Server) :
    Int × Server :=
  if ip = 0 then (-1, s)
  else
    match firstSlot fun i =>
        (s.sessions i).active && (s.sessions i).admitted && (s.sessions i).ipAddr == ip with
    | some i =>
      if (s.sessions i).endTime ≤ m.now then (-1, revokeSession p m i false s)
      else (Int.ofNat (((s.sessions i).endTime - m.now) / secondUs), s)
    | none =>
      match getClientMacForIp ap ip with
      | none => (-1, s)
      | some mac =>
        match findSessionIndexByMac s.sessions (some mac) with
        | none => (-1, s)
        | some i =>
          if !(s.sessions i).admitted then (-1, s)
          else if (s.sessions i).endTime ≤ m.now then (-1, revokeSession p m i false s)
          else
            (Int.ofNat (((s.sessions i).endTime - m.now) / secondUs),
              { s with
                sessions := Function.update s.sessions i { s.sessions i with ipAddr := ip }
                acl := clientAclAdmit ip (some mac) s.acl })

/-! ## Wi-Fi events -/

/-- `ensure_napt_enabled` (`http_server.c:801-819`): whether NAPT is enabled afterwards. -/
def ensureNaptEnabled (p : Platform) (s : Server) : Bool × Server :=
  if s.naptEnabled then (true, s)
  else
    let ok := p.naptEnable s.naptCalls
    (ok, { s with naptEnabled := ok, naptCalls := s.naptCalls + 1 })

/-- `handle_client_connect` (`http_server.c:1034-1081`). -/
def handleClientConnect (p : Platform) (m : Clocks) (ap : ApView) (random : Fin 16 → BitVec 8)
    (mac : Mac) (s : Server) : Server :=
  if mac = 0 then s
  else if !ap.apConnect then s
  else
    let lookup := getQuotaRemainingForMac m.asked mac s.quota
    let remainingSeconds := lookup.1
    let s := { s with quota := lookup.2 }
    if remainingSeconds ≤ 0 then s
    else if dailyQuotaSec ≤ remainingSeconds then s
    else
      let napt := ensureNaptEnabled p s
      let s := napt.2
      if !napt.1 then s
      else
        let result := startOrResumeSession p m
          { ip := 0, mac := some mac, token := some (generateSessionToken random),
            deviceHash := some (generateHashFromMac p mac), grantedSeconds := remainingSeconds } s
        let s := result.2
        match result.1 with
        | none => s
        | some i =>
          if (s.sessions i).token = [] ∨ (s.sessions i).deviceHash = [] then s
          else
            queueSupabaseSessionUpdate (s.sessions i).token (s.sessions i).deviceHash
              remainingSeconds .active s

/-- `handle_client_ip_assigned` (`http_server.c:1093-1127`). -/
def handleClientIpAssigned (p : Platform) (m : Clocks) (mac : Mac) (ipNet : IpAddr)
    (s : Server) : Server :=
  if mac = 0 ∨ ipNet = 0 then s
  else
    match firstSlot fun i =>
        (s.sessions i).active && (s.sessions i).mac == mac &&
          !decide ((s.sessions i).endTime ≤ m.now) with
    | none => s
    | some i =>
      let session := s.sessions i
      let acl :=
        if session.ipAddr ≠ ipNet ∧ session.ipAddr ≠ 0 then
          clientAclRevokeByIp session.ipAddr s.acl
        else s.acl
      refreshPortalAuthState p m.closing { s with
        sessions := Function.update s.sessions i { session with ipAddr := ipNet, admitted := true }
        acl := clientAclAdmit ipNet (some mac) acl }

/-- The variables of the loop of `handle_client_disconnect`. -/
structure DisconnectScan where
  server : Server
  matched : Bool
  activeSessionCount : Nat
  fallbackSessionIndex : Option (Fin maxClients)

/-- The loop body of `handle_client_disconnect`. -/
def scanDisconnect (p : Platform) (m : Moment) (mac : Mac) (i : Fin maxClients)
    (scan : DisconnectScan) : DisconnectScan :=
  if !(scan.server.sessions i).active then scan
  else
    let scan := { scan with
      activeSessionCount := scan.activeSessionCount + 1
      fallbackSessionIndex := scan.fallbackSessionIndex.or (some i) }
    if (scan.server.sessions i).mac = mac then
      { scan with matched := true, server := revokeSession p m i true scan.server }
    else scan

/-- `handle_client_disconnect` (`http_server.c:1129-1170`). -/
def handleClientDisconnect (p : Platform) (m : Moment) (ap : ApView) (mac : Mac) (s : Server) :
    Server :=
  let scan := sweep (scanDisconnect p m mac) ⟨s, false, 0, none⟩
  if scan.matched then scan.server
  else if ap.connectCount = 0 ∧ scan.activeSessionCount = 1 then
    match scan.fallbackSessionIndex with
    | some i => revokeSession p m i true scan.server
    | none => scan.server
  else scan.server

/-! ## The `/confirm` flow -/

/-- The MAC `/confirm` takes for the client's: by its address, else the station that
    associated last, else the first one connected. -/
def confirmMac (ap : ApView) (ip : IpAddr) : Option Mac :=
  (getClientMacForIp ap ip).or ((getCachedApClientMac ap).or (getAnyConnectedClientMac ap))

/-- What `/confirm` answers, and the session row it sends to Supabase. -/
inductive ConfirmReply
  | quotaPage
  | waiting
  | routingError
  | connected (remainingSeconds : Nat) (dashboardToken : CString)
      (row : Option PendingSupabaseUpdate)
  deriving DecidableEq, Repr

/-- The quota lookup and midnight cap of `confirm_handler`: the seconds to grant, `none` when
    the quota is exhausted. Without a MAC the full duration is granted. -/
def confirmGrant (m : Clocks) (mac : Option Mac) (s : Server) : Option Nat × Server :=
  match mac with
  | none => (some sessionDurationSec, s)
  | some mac =>
    let lookup := getQuotaRemainingForMac m.asked mac s.quota
    let s := { s with quota := lookup.2 }
    if lookup.1 ≤ 0 then (none, s)
    else (some (min (getSecondsUntilNextDay m.capped) lookup.1), s)

/-- The arguments `confirm_handler` passes to `start_or_resume_session`. -/
def confirmRequest (p : Platform) (mac : Option Mac) (ip : IpAddr) (random : Fin 16 → BitVec 8)
    (granted : Nat) : StartRequest where
  ip := ip
  mac := mac
  token := some (generateSessionToken random)
  deviceHash :=
    match mac with
    | some mac => some (generateHashFromMac p mac)
    | none => if ip ≠ 0 then some (generateHashFromIp p ip) else none
  grantedSeconds := granted

/-- The string of the session if it has one, else the one made for the request. -/
def givenString (field arg : Option CString) : CString :=
  if field.getD [] ≠ [] then field.getD [] else arg.getD []

/-- `confirm_handler` (`http_server.c:1904-2015`), up to the page it renders. The lookup at its
    end reads the timer with the refresh before it. -/
def confirmHandler (p : Platform) (m : Clocks) (ap : ApView) (random : Fin 16 → BitVec 8)
    (ip : IpAddr) (s : Server) : ConfirmReply × Server :=
  let mac := confirmMac ap ip
  let grant := confirmGrant m mac s
  let s := grant.2
  match grant.1 with
  | none => (.quotaPage, s)
  | some granted =>
    if !ap.apConnect then (.waiting, s)
    else
      let napt := ensureNaptEnabled p s
      let s := napt.2
      if !napt.1 then (.routingError, s)
      else
        let req := confirmRequest p mac ip random granted
        let started := startOrResumeSession p m req s
        let remaining := getRemainingSeconds p m.closing ap ip started.2
        let s := remaining.2
        let remainingSeconds := remaining.1.toNat
        let session := started.1.map s.sessions
        let token := givenString (session.map ClientSession.token) req.token
        let deviceHash := givenString (session.map ClientSession.deviceHash) req.deviceHash
        let row :=
          if token ≠ [] ∧ deviceHash ≠ [] then
            some ⟨token, deviceHash, if 0 < remainingSeconds then remainingSeconds else granted,
              .active⟩
          else none
        (.connected remainingSeconds token row, s)

/-! ## The heartbeat -/

/-- The loop body of `supabase_heartbeat_task` (`http_server.c:1172-1214`) for a slot, less
    the upsert it sends for a session that goes on. -/
def heartbeatSlot (p : Platform) (m : Moment) (i : Fin maxClients) (s : Server) : Server :=
  if !(s.sessions i).active ∨ (s.sessions i).token = [] ∨ (s.sessions i).deviceHash = [] then s
  else
    let s := checkpointSlot p m false i s
    if 0 < getSessionRemainingSeconds (s.sessions i) m.now then s
    else revokeSession p m i (!(s.sessions i).admitted) s

/-! ## Runs -/

/-- A session operation and its arguments. A heartbeat pass is one `heartbeat` for each slot
    in order. -/
inductive Operation
  | startOrResume (req : StartRequest)
  | revoke (i : Fin maxClients) (disconnected : Bool)
  | refresh
  | getRemaining (ap : ApView) (ip : IpAddr)
  | clientConnect (ap : ApView) (random : Fin 16 → BitVec 8) (mac : Mac)
  | clientIpAssigned (mac : Mac) (ipNet : IpAddr)
  | clientDisconnect (ap : ApView) (mac : Mac)
  | confirm (ap : ApView) (random : Fin 16 → BitVec 8) (ip : IpAddr)
  | heartbeat (i : Fin maxClients)

/-- The state after an operation. -/
def step (p : Platform) (m : Clocks) (op : Operation) (s : Server) : Server :=
  match op with
  | .startOrResume req => (startOrResumeSession p m req s).2
  | .revoke i disconnected => revokeSession p m i disconnected s
  | .refresh => refreshPortalAuthState p m s
  | .getRemaining ap ip => (getRemainingSeconds p m ap ip s).2
  | .clientConnect ap random mac => handleClientConnect p m ap random mac s
  | .clientIpAssigned mac ipNet => handleClientIpAssigned p m mac ipNet s
  | .clientDisconnect ap mac => handleClientDisconnect p m ap mac s
  | .confirm ap random ip => (confirmHandler p m ap random ip s).2
  | .heartbeat i => heartbeatSlot p m i s

/-- An operation and the clocks it reads. -/
abbrev Input := Clocks × Operation

/-- `step` on an input. -/
def stepInput (p : Platform) (input : Input) (s : Server) : Server :=
  step p input.1 input.2 s

/-- The server after a run from boot at time `boot`. -/
def serverAfter (p : Platform) (boot : Nat) (inputs : List Input) : Server :=
  Runs.run (stepInput p) (initSessions boot) inputs

end SolarConnect.Session
