import SolarConnect.Config.AdminForm
import SolarConnect.Http.ConfigPage
import SolarConnect.Misc.AlikeStores
import SolarConnect.Misc.TwoRuns
import SolarConnect.Net.LwipHooks
import SolarConnect.Net.PortMap

/-!
# What the device prints

The console commands that store settings, `show`, the boot and the admin page, with the lines that
they print: the texts of `printf` and the messages of `ESP_LOGI`. Passwords are read like the other
settings and masked where they would be printed. The echo of what is typed is the line editor's,
which is not part of the repository.
-/

namespace SolarConnect.Config.Console

open Bytes FlatJson CText Nvs TwoRuns ClientAcl Logged
open Boot hiding Params getConfigParamStr getConfigParamBlob readStr readParams boot

/-- A line without its newline. -/
abbrev Line := List Byte

abbrev SettingStore := Store SettingKey SettingValue

/-- The settings, `config_page` if the web server was started, and `my_ap_ip`. -/
structure Device where
  flash : Settings
  page : Option (List Byte)
  myApIp : IpAddr

/-- What is called outside of the repository, and what memory from `malloc` holds:
    `arg_print_errors` says what is wrong with arguments that do not parse. -/
structure Machine extends Platform where
  setMac : List CString → Option SetMacArgs
  setApIp : List CString → Option CString
  argErrors : List CString → List Line
  aton : CString → IpAddr
  malloc : (n : Nat) → Vector Byte n
  octets : List Byte

def Machine.commandTables (m : Machine) : CommandTables :=
  { m.tables with setMac := m.setMac, setApIp := m.setApIp }

def Machine.garbage (m : Machine) : Garbage :=
  ⟨fun _ => m.uninitialised, m.octets⟩

/-- A program on the store in the device's flash. -/
def onStore (x : Talk Line SettingStore α) : Talk Line Device α :=
  x.on (fun d => d.flash.store) fun store d => { d with flash := { d.flash with store } }

/-- An operation on the flash. -/
def onFlash (f : Settings → α × Settings) : Talk Line Device α :=
  act fun d => ((f d.flash).1, { d with flash := (f d.flash).2 })

/-! ## Reading settings -/

/-- The name of a setting in NVS. -/
def keyName : SettingKey → List Byte
  | .param .apSsid => ascii "ap_ssid"
  | .param .apPasswd => ascii "ap_passwd"
  | .param .ssid => ascii "ssid"
  | .param .passwd => ascii "passwd"
  | .param .entUsername => ascii "ent_username"
  | .param .entIdentity => ascii "ent_identity"
  | .param .staticIp => ascii "static_ip"
  | .param .subnetMask => ascii "subnet_mask"
  | .param .gatewayAddr => ascii "gateway_addr"
  | .apIp => ascii "ap_ip"
  | .mac => ascii "mac"
  | .apMac => ascii "ap_mac"

/-- `is_sensitive_key` (`cmd_router.c:48-53`). -/
def isSensitiveKey (name : List Byte) : Bool :=
  name = ascii "passwd" ∨ name = ascii "ap_passwd"

/-- `mask_value` (`cmd_router.c:55-65`): what it leaves in a buffer of `outLen` bytes. -/
def maskValue (value : Option CString) (outLen : Nat) : List Byte :=
  match value with
  | none => (ascii "<empty>").take (outLen - 1)
  | some value =>
    if value = .empty then (ascii "<empty>").take (outLen - 1)
    else (ascii "********").take (outLen - 1)

/-- What `get_config_param_str` logs. -/
def paramLine (key : SettingKey) (param : CString) : Line :=
  if isSensitiveKey (keyName key) then keyName key ++ ascii " " ++ maskValue (some param) 16
  else keyName key ++ ascii " " ++ param.bytes

/-- `get_config_param_str` (`cmd_router.c:99-126`), `none` for an error. -/
def getConfigParamStr (m : Machine) (key : SettingKey) :
    Talk Line SettingStore (Option CString) := do
  let err ← act fun s => s.call id
  if err ≠ espOk then return none
  else
    let len ← act fun s => s.nvsGet key
    match len with
    | some (.str _) =>
      let param ← act fun s => s.nvsGet key
      match param with
      | some (.str param) =>
        say [paramLine key param]
        return some param
      | _ => return some m.uninitialised
    | _ => return none

/-- `get_config_param_blob` (`cmd_router.c:146-168`), which logs the length whatever the second
    read returns. -/
def getConfigParamBlob (m : Machine) (key : SettingKey) (blobLen : Nat) :
    Talk Line SettingStore (Option (List Byte)) := do
  let err ← act fun s => s.call id
  if err ≠ espOk then return none
  else
    let len ← act fun s => s.nvsGet key
    match len with
    | some (.blob octets) =>
      if octets.length ≠ blobLen then return none
      else
        let blob ← act fun s => s.nvsGet key
        say [keyName key ++ ascii ": " ++ decimal octets.length]
        match blob with
        | some (.blob octets) => return some octets
        | _ => return some m.octets
    | _ => return none

/-! ## Commands that store settings -/

/-- Arguments that do not parse. -/
def argError (m : Machine) (argv : List CString) : Talk Line Device Err := do
  say (m.argErrors argv)
  return 1

/-- Stores settings and logs a line if that went well. -/
def store (settings : List Setting) (line : Line) : Talk Line Device Err := do
  let err ← onFlash fun f => f.save (settings.map entry)
  say (if err = espOk then [line] else [])
  return err

/-- `set_sta` (`cmd_router.c:191-240`). -/
def setSta (m : Machine) (argv : List CString) : Talk Line Device Err :=
  match m.tables.setSta argv with
  | none => argError m argv
  | some args =>
    store (ofParams (setStaSettings args))
      (ascii "STA settings stored for SSID " ++ (preprocessString args.ssid).bytes ++ ascii ".")

/-- `set_sta_static` (`cmd_router.c:270-305`). -/
def setStaStatic (m : Machine) (argv : List CString) : Talk Line Device Err :=
  match m.tables.setStaStatic argv with
  | none => argError m argv
  | some args =>
    store (ofParams (setStaStaticSettings args))
      (ascii "STA Static IP settings " ++ (preprocessString args.staticIp).bytes ++ ascii "/" ++
        (preprocessString args.subnetMask).bytes ++ ascii "/" ++
        (preprocessString args.gatewayAddr).bytes ++ ascii " stored.")

/-- `%02X`. -/
def hexUpper (b : Byte) : List Byte :=
  let digit (n : Nat) : Byte := if n < 10 then 0x30 + BitVec.ofNat 8 n else 0x37 + BitVec.ofNat 8 n
  [digit (b.toNat / 16), digit (b.toNat % 16)]

/-- Octets with colons between them. -/
def macText (octets : List Byte) : List Byte :=
  [0x3A].intercalate (octets.map hexUpper)

/-- `set_mac` (`cmd_router.c:335-360`). -/
def setMac (key : List Byte → Setting) (interface : List Byte) (m : Machine)
    (argv : List CString) : Talk Line Device Err :=
  match m.setMac argv with
  | none => argError m argv
  | some args =>
    store [key args.mac]
      (interface ++ ascii " mac address " ++ macText args.mac ++ ascii " stored.")

/-- `set_sta_mac` (`cmd_router.c:362-364`). -/
def setStaMac : Machine → List CString → Talk Line Device Err :=
  setMac .mac (ascii "STA")

/-- `set_ap_mac` (`cmd_router.c:366-368`). -/
def setApMac : Machine → List CString → Talk Line Device Err :=
  setMac .apMac (ascii "AP")

/-- `set_ap` (`cmd_router.c:407-442`). -/
def setAp (m : Machine) (argv : List CString) : Talk Line Device Err :=
  match m.tables.setAp argv with
  | none => argError m argv
  | some args => do
    say (if (preprocessString args.password).length < 8 then
      [ascii "AP will be open (no passwd needed)."] else [])
    store (ofParams (setApSettings args))
      (ascii "AP settings stored for SSID " ++ (preprocessString args.ssid).bytes ++ ascii ".")

/-- `set_ap_ip` (`cmd_router.c:468-492`). -/
def setApIp (m : Machine) (argv : List CString) : Talk Line Device Err :=
  match m.setApIp argv with
  | none => argError m argv
  | some apIpStr => do
    let err ← onFlash fun f => f.setOnly [entry (.apIp (preprocessString apIpStr))]
    say (if err = espOk then
      [ascii "AP IP address " ++ (preprocessString apIpStr).bytes ++ ascii " stored."] else [])
    return err

/-- The command, with what it returns. -/
def command (m : Machine) : Command → List CString → Talk Line Device Err
  | .setSta => setSta m
  | .setStaStatic => setStaStatic m
  | .setStaMac => setStaMac m
  | .setApMac => setApMac m
  | .setAp => setAp m
  | .setApIp => setApIp m

/-! ## `show` -/

/-- `IPSTR` with `IP2STR`. -/
def ipstr (addr : IpAddr) : List Byte :=
  [0x2E].intercalate ((LwipHooks.addrBytes addr).map fun b => decimal b.toNat)

/-- What `show` prints beside the settings. -/
structure Status (n : Nat) where
  apConnect : Bool
  myIp : IpAddr
  connectCount : BitVec 16
  portmapTab : PortMap.Table n

/-- `print_portmap_tab` (`esp32_nat_router.c:177-188`). -/
def printPortmapTab (myIp : IpAddr) (tab : PortMap.Table n) : List Line :=
  ((List.finRange n).map tab |>.filter fun e => e.valid != 0).map fun e =>
    (if e.proto.toNat = LwipHooks.ipProtoTcp then ascii "TCP " else ascii "UDP ") ++
      ipstr myIp ++ ascii ":" ++ decimal e.mport.toNat ++ ascii " -> " ++
      ipstr e.daddr.toBitVec ++ ascii ":" ++ decimal e.dport.toNat

/-- The two lines of `show` about the networks. -/
def networkLines (ssid passwd entUsername entIdentity apSsid apPasswd : Option CString) :
    List Line :=
  let given (s : Option CString) : Bool := 0 < (s.getD .empty).length
  let textOf (s : Option CString) (default : List Byte) : List Byte :=
    (s.map CString.bytes).getD default
  [ascii "STA SSID: " ++ textOf ssid (ascii "<undef>") ++ ascii " Password: " ++
      maskValue passwd 16 ++ ascii " Enterprise: " ++
      (if given entUsername then textOf entUsername [] else ascii "<not active>") ++ ascii " " ++
      (if given entUsername ∧ given entIdentity then textOf entIdentity [] else []),
    ascii "AP SSID: " ++ textOf apSsid (ascii "<undef>") ++ ascii " Password: " ++
      maskValue apPasswd 16]

/-- `show` (`cmd_router.c:583-644`). -/
def showCommand (m : Machine) (status : Status n) : Talk Line Device Err := do
  let ssid ← onStore (getConfigParamStr m (.param .ssid))
  let entUsername ← onStore (getConfigParamStr m (.param .entUsername))
  let entIdentity ← onStore (getConfigParamStr m (.param .entIdentity))
  let passwd ← onStore (getConfigParamStr m (.param .passwd))
  let _ ← onStore (getConfigParamStr m (.param .staticIp))
  let _ ← onStore (getConfigParamStr m (.param .subnetMask))
  let _ ← onStore (getConfigParamStr m (.param .gatewayAddr))
  let apSsid ← onStore (getConfigParamStr m (.param .apSsid))
  let apPasswd ← onStore (getConfigParamStr m (.param .apPasswd))
  say (networkLines ssid passwd entUsername entIdentity apSsid apPasswd)
  let myApIp ← act fun d => (d.myApIp, d)
  say [ascii "AP IP address: " ++ ipstr myApIp]
  say (if status.apConnect then
    [ascii "Uplink AP connected", ascii "IP: " ++ ipstr status.myIp]
    else [ascii "Uplink AP not connected"])
  say [decimal status.connectCount.toNat ++ ascii " Stations connected"]
  say (printPortmapTab status.myIp status.portmapTab)
  return espOk

/-! ## The boot -/

/-- A string parameter of `app_main`, with `param_set_default` where there is none. -/
def readStr (m : Machine) (key : SettingKey) (default : CString) :
    Talk Line SettingStore CString := do
  let param ← getConfigParamStr m key
  return param.getD default

/-- The reads at the head of `app_main` (`esp32_nat_router.c:642-683`). -/
def readParams (m : Machine) : Talk Line SettingStore Boot.Params := do
  let mac ← getConfigParamBlob m .mac 6
  let ssid ← readStr m (.param .ssid) .empty
  let entUsername ← readStr m (.param .entUsername) .empty
  let entIdentity ← readStr m (.param .entIdentity) .empty
  let passwd ← readStr m (.param .passwd) .empty
  let staticIp ← readStr m (.param .staticIp) .empty
  let subnetMask ← readStr m (.param .subnetMask) .empty
  let gatewayAddr ← readStr m (.param .gatewayAddr) .empty
  let apMac ← getConfigParamBlob m .apMac 6
  let apSsid ← readStr m (.param .apSsid) defaultApSsid
  let apPasswd ← readStr m (.param .apPasswd) .empty
  let apIp ← readStr m .apIp defaultApIp
  return ⟨mac, ssid, entUsername, entIdentity, passwd, staticIp, subnetMask, gatewayAddr, apMac,
    apSsid, apPasswd, apIp⟩

/-- What `wifi_init` logs (`esp32_nat_router.c:553-613`). -/
def wifiInitLines (p : Boot.Params) : List Line :=
  let dns :=
    ascii "Setting AP DNS to self (" ++ p.apIp.bytes ++ ascii ") for captive portal hijack."
  (if 0 < p.ssid.length then
    (if p.entUsername.length = 0 then [ascii "STA regular connection"] else []) ++
      (if p.entUsername.length ≠ 0 ∧ p.entIdentity.length ≠ 0 then
        [ascii "STA enterprise connection"] else [])
    else []) ++
    [dns, dns] ++
    (if 0 < p.ssid.length then
      [ascii "wifi_init_apsta finished.", ascii "connect to ap SSID: " ++ p.ssid.bytes ++ ascii " "]
    else [ascii "wifi_init_ap with default finished."])

/-- The web server is started: there is no `lock`, or it is `"0"` (`esp32_nat_router.c:725-730`). -/
def unlocked (lock : Option CString) : Prop :=
  lock = none ∨ (lock.map CString.bytes) = some (ascii "0")

instance (lock : Option CString) : Decidable (unlocked lock) := by
  unfold unlocked
  infer_instance

/-- The banner in front of the console (`esp32_nat_router.c:750-760`). -/
def banner (p : Boot.Params) : List Line :=
  [[], ascii "ESP32 NAT ROUTER", ascii "Type 'help' to get the list of commands.",
      ascii "Use UP/DOWN arrows to navigate through command history.",
      ascii "Press TAB when typing command name to auto-complete."] ++
    if p.ssid.length = 0 then
      [[], ascii "Unconfigured WiFi", ascii "Configure using 'set_sta' and 'set_ap' and restart."]
    else []

/-- `app_main` as far as the settings go, after a loss of power. No command sets `lock`; it is what
    NVS has under that name. -/
def appMain (m : Machine) (lock : Option CString) (kept : SettingKey → Option Nat)
    (results : List Err) : Talk Line Device Unit := do
  onFlash fun f => ((), f.powerLoss kept results)
  let p ← onStore (readParams m)
  act fun d => ((), { d with myApIp := m.aton p.apIp })
  say (wifiInitLines p)
  say [ascii "NAT will be enabled after user accepts the captive portal"]
  say ((lock.map fun s => ascii "lock " ++ s.bytes).toList)
  say (if unlocked lock then [ascii "Starting config web server"] else [])
  act fun d => ((), { d with
    page := if unlocked lock then some (Http.ConfigPage.configPage m.malloc p) else none })
  say (banner p)

/-! ## The admin page -/

/-- `load_config_string_or_default` (`http_server.c:1452-1465`). -/
def loadConfigStringOrDefault (m : Machine) (key : ParamKey) (defaultValue : CString) :
    Talk Line Device CString := do
  let value ← onStore (getConfigParamStr m (.param key))
  return value.getD defaultValue

/-- The `save_ap` branch of `admin_config_post_handler` (`http_server.c:1542-1554`). -/
def saveAp (m : Machine) (body : CString) : Talk Line Device Err := do
  let stored ← loadConfigStringOrDefault m .apPasswd .empty
  let ssid := (getFormValue m.toPlatform body .apSsid credentialSize).2
  let password := (getFormValue m.toPlatform body .apPassword credentialSize).2
  setAp m [setApName, ssid, typedOrStored password stored]

/-- The `save_sta` branch of `admin_config_post_handler` (`http_server.c:1555-1585`). -/
def saveSta (m : Machine) (body : CString) : Talk Line Device Err := do
  let stored ← loadConfigStringOrDefault m .passwd .empty
  let ssid := (getFormValue m.toPlatform body .ssid credentialSize).2
  let password := (getFormValue m.toPlatform body .password credentialSize).2
  let username := (getFormValue m.toPlatform body .entUsername credentialSize).2
  let identity := (getFormValue m.toPlatform body .entIdentity credentialSize).2
  setSta m ([setStaName, ssid, typedOrStored password stored] ++
    optionalArg usernameFlag username ++ optionalArg identityFlag identity)

/-- The `save_static` branch of `admin_config_post_handler` (`http_server.c:1586-1595`). -/
def saveStatic (m : Machine) (body : CString) : Talk Line Device Err :=
  let staticIp := (getFormValue m.toPlatform body .staticip addressSize).2
  let subnetMask := (getFormValue m.toPlatform body .subnetmask addressSize).2
  let gateway := (getFormValue m.toPlatform body .gateway addressSize).2
  setStaStatic m [setStaStaticName, staticIp, subnetMask, gateway]

/-- The result of a handler, what it sends, and whether `restart_timer` was started. -/
structure Answer where
  ret : Err
  reply : AdminReply
  restart : Bool
  deriving DecidableEq

/-- The end of `admin_config_post_handler`, behind the branches that store. -/
def finish (err : Err) : Answer :=
  if err ≠ espOk then
    ⟨espOk, .result "Configuration Failed" "The requested settings could not be stored.", false⟩
  else
    ⟨espOk, .result "Settings Applied"
      "The device is rebooting to apply the new configuration.", true⟩

/-- `admin_config_post_handler` (`http_server.c:1515-1607`). -/
def adminConfigPostHandler (m : Machine) (req : Request) : Talk Line Device Answer :=
  if ¬req.authorized then return ⟨espOk, .authFailure, false⟩
  else
    match req.body with
    | none => return ⟨espFail, .serverError, false⟩
    | some body =>
      let (given, action) := getFormValue m.toPlatform body .action actionSize
      if ¬given then
        return ⟨espOk, .result "Invalid Request" "No config action was provided.", false⟩
      else if action = rebootAction then
        return ⟨espOk, .result "Rebooting" "The device is rebooting.", true⟩
      else if action = saveApAction then finish <$> saveAp m body
      else if action = saveStaAction then finish <$> saveSta m body
      else if action = saveStaticAction then finish <$> saveStatic m body
      else return ⟨espOk, .result "Unknown Action" "This config action is not supported.", false⟩

/-- `admin_config_get_handler` (`http_server.c:1502-1513`): the page, `none` for
    `send_admin_auth_failure`. -/
def adminConfigGetHandler (authorized : Bool) : Talk Line Device (Option (List Byte)) := do
  let page ← act fun d => (d.page, d)
  return if authorized then page else none

/-! ## Events -/

/-- What happens on the device: a command or `show` at the console, a request for the admin page
    or from its forms, or a loss of power. -/
inductive Event (n : Nat)
  | typed (c : Command) (argv : List CString)
  | shown (status : Status n)
  | posted (req : Request)
  | viewed (authorized : Bool)
  | rebooted (lock : Option CString) (kept : SettingKey → Option Nat) (results : List Err)

/-- What can be seen of an event beside the lines: the main loop prints what a command returned. -/
inductive Seen
  | returned (ret : Err)
  | answered (answer : Answer)
  | page (page : Option (List Byte))
  | booted

def step (m : Machine) : Event n → Talk Line Device Seen
  | .typed c argv => Seen.returned <$> command m c argv
  | .shown status => Seen.returned <$> showCommand m status
  | .posted req => Seen.answered <$> adminConfigPostHandler m req
  | .viewed authorized => Seen.page <$> adminConfigGetHandler authorized
  | .rebooted lock kept results => (fun _ => Seen.booted) <$> appMain m lock kept results

/-! ## The same without the lines -/

/-- Reading settings is what it is at `Boot`. -/
theorem getConfigParamStr_result (m : Machine) (key : SettingKey) (s : SettingStore) :
    (getConfigParamStr m key).result s = Boot.getConfigParamStr m.uninitialised key s := by
  unfold getConfigParamStr Boot.getConfigParamStr
  rw [result_bind, result_act]
  rcases s.call id with ⟨err, s⟩
  by_cases opens : err ≠ espOk
  · rw [result_ite, if_pos opens]
    simp only [if_pos opens, result_pure]
  · rw [result_ite, if_neg opens, result_bind, result_act]
    simp only [if_neg opens]
    rcases s.nvsGet key with ⟨_ | len, s⟩
    · rfl
    · cases len with
      | blob octets => rfl
      | str len =>
        simp only [result_bind, result_act]
        rcases s.nvsGet key with ⟨_ | param, s⟩
        · rfl
        · cases param with
          | str param => rfl
          | blob octets => rfl

theorem getConfigParamBlob_result (m : Machine) (key : SettingKey) (blobLen : Nat)
    (s : SettingStore) :
    (getConfigParamBlob m key blobLen).result s =
      Boot.getConfigParamBlob m.garbage.octets key blobLen s := by
  unfold getConfigParamBlob Boot.getConfigParamBlob
  rw [result_bind, result_act]
  rcases s.call id with ⟨err, s⟩
  by_cases opens : err ≠ espOk
  · rw [result_ite, if_pos opens]
    simp only [if_pos opens, result_pure]
  · rw [result_ite, if_neg opens, result_bind, result_act]
    simp only [if_neg opens]
    rcases s.nvsGet key with ⟨_ | len, s⟩
    · rfl
    · cases len with
      | str len => rfl
      | blob octets =>
        by_cases long : octets.length ≠ blobLen
        · simp only [if_pos long, result_pure]
        · simp only [if_neg long, result_bind, result_act]
          rcases s.nvsGet key with ⟨_ | blob, s⟩
          · rfl
          · cases blob with
            | str param => rfl
            | blob octets => rfl

theorem readStr_result (m : Machine) (key : SettingKey) (default : CString) (s : SettingStore) :
    (readStr m key default).result s = Boot.readStr m.garbage.str key default s := by
  unfold readStr Boot.readStr
  rw [result_bind, getConfigParamStr_result]
  rfl

theorem readParams_result (m : Machine) (s : SettingStore) :
    (readParams m).result s = Boot.readParams m.garbage.str m.garbage.octets s := by
  unfold readParams Boot.readParams
  rw [result_bind, getConfigParamBlob_result]
  rcases Boot.getConfigParamBlob m.garbage.octets .mac 6 s with ⟨mac, s⟩
  dsimp only
  rw [result_bind, readStr_result]
  rcases Boot.readStr m.garbage.str (.param .ssid) .empty s with ⟨ssid, s⟩
  dsimp only
  rw [result_bind, readStr_result]
  rcases Boot.readStr m.garbage.str (.param .entUsername) .empty s with ⟨entUsername, s⟩
  dsimp only
  rw [result_bind, readStr_result]
  rcases Boot.readStr m.garbage.str (.param .entIdentity) .empty s with ⟨entIdentity, s⟩
  dsimp only
  rw [result_bind, readStr_result]
  rcases Boot.readStr m.garbage.str (.param .passwd) .empty s with ⟨passwd, s⟩
  dsimp only
  rw [result_bind, readStr_result]
  rcases Boot.readStr m.garbage.str (.param .staticIp) .empty s with ⟨staticIp, s⟩
  dsimp only
  rw [result_bind, readStr_result]
  rcases Boot.readStr m.garbage.str (.param .subnetMask) .empty s with ⟨subnetMask, s⟩
  dsimp only
  rw [result_bind, readStr_result]
  rcases Boot.readStr m.garbage.str (.param .gatewayAddr) .empty s with ⟨gatewayAddr, s⟩
  dsimp only
  rw [result_bind, getConfigParamBlob_result]
  rcases Boot.getConfigParamBlob m.garbage.octets .apMac 6 s with ⟨apMac, s⟩
  dsimp only
  rw [result_bind, readStr_result]
  rcases Boot.readStr m.garbage.str (.param .apSsid) defaultApSsid s with ⟨apSsid, s⟩
  dsimp only
  rw [result_bind, readStr_result]
  rcases Boot.readStr m.garbage.str (.param .apPasswd) .empty s with ⟨apPasswd, s⟩
  dsimp only
  rw [result_bind, readStr_result]
  rfl

@[simp] theorem onStore_result (x : Talk Line SettingStore α) (d : Device) :
    (onStore x).result d =
      ((x.result d.flash.store).1,
        { d with flash := { d.flash with store := (x.result d.flash.store).2 } }) :=
  rfl

@[simp] theorem onFlash_result (f : Settings → α × Settings) (d : Device) :
    (onFlash f).result d = ((f d.flash).1, { d with flash := (f d.flash).2 }) :=
  rfl

/-- A command does to the flash what it does at `Boot`, and returns the same. -/
theorem command_result (m : Machine) (c : Command) (argv : List CString) (d : Device) :
    (command m c argv).result d =
      ((exec m.commandTables c argv d.flash).1,
        { d with flash := (exec m.commandTables c argv d.flash).2 }) := by
  cases c with
  | setSta =>
    simp only [command, setSta, exec, Command.settings, Machine.commandTables]
    cases m.tables.setSta argv with
    | none => rfl
    | some args => rfl
  | setStaStatic =>
    simp only [command, setStaStatic, exec, Command.settings, Machine.commandTables]
    cases m.tables.setStaStatic argv with
    | none => rfl
    | some args => rfl
  | setStaMac =>
    simp only [command, setStaMac, setMac, exec, Command.settings, Machine.commandTables]
    cases m.setMac argv with
    | none => rfl
    | some args => rfl
  | setApMac =>
    simp only [command, setApMac, setMac, exec, Command.settings, Machine.commandTables]
    cases m.setMac argv with
    | none => rfl
    | some args => rfl
  | setAp =>
    simp only [command, setAp, exec, Command.settings, Machine.commandTables]
    cases m.tables.setAp argv with
    | none => rfl
    | some args => rfl
  | setApIp =>
    simp only [command, setApIp, exec, Command.settings, Machine.commandTables]
    cases m.setApIp argv with
    | none => rfl
    | some args => rfl

/-- A boot reads what it reads at `Boot`. -/
theorem appMain_result (m : Machine) (lock : Option CString) (kept : SettingKey → Option Nat)
    (results : List Err) (d : Device) :
    ((appMain m lock kept results).result d).2 =
      { flash := Boot.step m.commandTables m.garbage (.reboot kept results) d.flash
        page := if unlocked lock then
          some (Http.ConfigPage.configPage m.malloc (Boot.boot m.garbage kept results d.flash))
          else none
        myApIp := m.aton (Boot.boot m.garbage kept results d.flash).apIp } := by
  have lost : (onFlash fun f => ((), f.powerLoss kept results)).result d =
      ((), { d with flash := d.flash.powerLoss kept results }) := rfl
  have reads := onStore_result (readParams m) { d with flash := d.flash.powerLoss kept results }
  rw [readParams_result] at reads
  have flash : Boot.step m.commandTables m.garbage (.reboot kept results) d.flash =
      { d.flash.powerLoss kept results with
        store := (Boot.readParams m.garbage.str m.garbage.octets
          (d.flash.powerLoss kept results).store).2 } := rfl
  rw [flash, appMain, result_bind_of lost, result_bind_of reads, Boot.boot]
  generalize Boot.readParams m.garbage.str m.garbage.octets
    (d.flash.powerLoss kept results).store = read
  rfl

/-! ## The admin page on the flash -/

/-- The string settings in the flash. -/
def onlyParams : Likeness ParamKey CString SettingKey SettingValue where
  key := .param
  injective := fun _ _ same => SettingKey.param.inj same
  value := fun _ s value => value = .str s

theorem alike_writes (writes : List (ParamKey × CString)) :
    List.Forall₂ onlyParams.Write writes ((ofParams writes).map entry) := by
  rw [ofParams, List.map_map, List.forall₂_map_right_iff]
  exact List.forall₂_same.mpr fun write _ => ⟨rfl, rfl⟩

section
variable {m : Machine} {nvs : Config.Params} {d : Device}

theorem getConfigParamStr_alike (alike : onlyParams.Stores nvs d.flash.store) (key : ParamKey) :
    ((onStore (getConfigParamStr m (.param key))).result d).1 =
        (Config.getConfigParamStr m.uninitialised key nvs).1 ∧
      onlyParams.Stores (Config.getConfigParamStr m.uninitialised key nvs).2
        ((onStore (getConfigParamStr m (.param key))).result d).2.flash.store := by
  rw [onStore_result, getConfigParamStr_result]
  obtain ⟨err, opened⟩ := alike.call id id id
  unfold Boot.getConfigParamStr Config.getConfigParamStr
  generalize nvs.call id = here at err opened ⊢
  generalize d.flash.store.call id = there at err opened ⊢
  obtain ⟨err', here⟩ := here
  obtain ⟨err'', there⟩ := there
  change err' = err'' at err
  subst err
  by_cases opens : err' ≠ espOk
  · simp only [if_pos opens]
    exact ⟨trivial, opened⟩
  · simp only [if_neg opens]
    obtain ⟨len, asked⟩ := opened.nvsGet key
    change Option.Rel _ _ (there.nvsGet (.param key)).1 at len
    change onlyParams.Stores _ (there.nvsGet (.param key)).2 at asked
    generalize here.nvsGet key = here at len asked ⊢
    generalize there.nvsGet (.param key) = there at len asked ⊢
    obtain ⟨len', here⟩ := here
    obtain ⟨len'', there⟩ := there
    cases len with
    | none => exact ⟨rfl, asked⟩
    | some same =>
      subst same
      dsimp only
      obtain ⟨param, read⟩ := Likeness.Stores.nvsGet asked key
      change Option.Rel _ _ (there.nvsGet (.param key)).1 at param
      change onlyParams.Stores _ (there.nvsGet (.param key)).2 at read
      dsimp only at param read
      generalize here.nvsGet key = here at param read ⊢
      generalize there.nvsGet (.param key) = there at param read ⊢
      obtain ⟨param', here⟩ := here
      obtain ⟨param'', there⟩ := there
      cases param with
      | none => exact ⟨rfl, read⟩
      | some same =>
        subst same
        exact ⟨rfl, read⟩

theorem store_alike (alike : onlyParams.Stores nvs d.flash.store)
    (writes : List (ParamKey × CString)) (line : Line) :
    ((store (ofParams writes) line).result d).1 = (nvs.saveAll writes).1 ∧
      onlyParams.Stores (nvs.saveAll writes).2
        ((store (ofParams writes) line).result d).2.flash.store := by
  obtain ⟨err, stores⟩ := alike.saveAll (alike_writes writes)
  exact ⟨err.symm, stores⟩

theorem setAp_alike (alike : onlyParams.Stores nvs d.flash.store) (argv : List CString) :
    ((setAp m argv).result d).1 = (Config.setAp m.tables argv nvs).1 ∧
      onlyParams.Stores (Config.setAp m.tables argv nvs).2
        ((setAp m argv).result d).2.flash.store := by
  unfold setAp Config.setAp
  cases m.tables.setAp argv with
  | none => exact ⟨rfl, alike⟩
  | some args => exact store_alike alike (setApSettings args) _

theorem setSta_alike (alike : onlyParams.Stores nvs d.flash.store) (argv : List CString) :
    ((setSta m argv).result d).1 = (Config.setSta m.tables argv nvs).1 ∧
      onlyParams.Stores (Config.setSta m.tables argv nvs).2
        ((setSta m argv).result d).2.flash.store := by
  unfold setSta Config.setSta
  cases m.tables.setSta argv with
  | none => exact ⟨rfl, alike⟩
  | some args => exact store_alike alike (setStaSettings args) _

theorem setStaStatic_alike (alike : onlyParams.Stores nvs d.flash.store) (argv : List CString) :
    ((setStaStatic m argv).result d).1 = (Config.setStaStatic m.tables argv nvs).1 ∧
      onlyParams.Stores (Config.setStaStatic m.tables argv nvs).2
        ((setStaStatic m argv).result d).2.flash.store := by
  unfold setStaStatic Config.setStaStatic
  cases m.tables.setStaStatic argv with
  | none => exact ⟨rfl, alike⟩
  | some args => exact store_alike alike (setStaStaticSettings args) _

theorem loadConfigStringOrDefault_alike (alike : onlyParams.Stores nvs d.flash.store)
    (key : ParamKey) (default : CString) :
    ((loadConfigStringOrDefault m key default).result d).1 =
        (Config.loadConfigStringOrDefault m.toPlatform key default nvs).1 ∧
      onlyParams.Stores (Config.loadConfigStringOrDefault m.toPlatform key default nvs).2
        ((loadConfigStringOrDefault m key default).result d).2.flash.store := by
  obtain ⟨value, read⟩ := getConfigParamStr_alike (m := m) alike key
  refine ⟨?_, read⟩
  change (((onStore (getConfigParamStr m (.param key))).result d).1).getD default = _
  rw [value]
  rfl

theorem saveAp_alike (alike : onlyParams.Stores nvs d.flash.store) (body : CString) :
    ((saveAp m body).result d).1 = (Config.saveAp m.toPlatform body nvs).1 ∧
      onlyParams.Stores (Config.saveAp m.toPlatform body nvs).2
        ((saveAp m body).result d).2.flash.store := by
  obtain ⟨value, read⟩ := loadConfigStringOrDefault_alike (m := m) alike .apPasswd .empty
  unfold saveAp Config.saveAp
  rw [result_bind, value]
  exact setAp_alike read _

theorem saveSta_alike (alike : onlyParams.Stores nvs d.flash.store) (body : CString) :
    ((saveSta m body).result d).1 = (Config.saveSta m.toPlatform body nvs).1 ∧
      onlyParams.Stores (Config.saveSta m.toPlatform body nvs).2
        ((saveSta m body).result d).2.flash.store := by
  obtain ⟨value, read⟩ := loadConfigStringOrDefault_alike (m := m) alike .passwd .empty
  unfold saveSta Config.saveSta
  rw [result_bind, value]
  exact setSta_alike read _

/-- The request is answered as on the store of string settings, which stays the view of the
    flash. -/
theorem adminConfigPostHandler_alike (alike : onlyParams.Stores nvs d.flash.store)
    (req : Request) :
    let outcome := Config.adminConfigPostHandler m.toPlatform req nvs
    let answered := (adminConfigPostHandler m req).result d
    answered.1 = ⟨outcome.ret, outcome.reply, outcome.restart⟩ ∧
      onlyParams.Stores outcome.nvs answered.2.flash.store := by
  have stored {saved : Err × Config.Params} {answered : Err × Device}
      (same : answered.1 = saved.1 ∧ onlyParams.Stores saved.2 answered.2.flash.store) :
      finish answered.1 = ⟨(Config.finish saved).ret, (Config.finish saved).reply,
          (Config.finish saved).restart⟩ ∧
        onlyParams.Stores (Config.finish saved).nvs answered.2.flash.store := by
    rw [same.1]
    unfold finish Config.finish
    split
    · exact ⟨rfl, same.2⟩
    · exact ⟨rfl, same.2⟩
  dsimp only
  unfold adminConfigPostHandler Config.adminConfigPostHandler
  by_cases authorized : req.authorized
  · rw [if_neg (by simpa using authorized), if_neg (by simpa using authorized)]
    cases req.body with
    | none => exact ⟨rfl, alike⟩
    | some body =>
      dsimp only
      generalize getFormValue m.toPlatform body .action actionSize = action
      obtain ⟨given, action⟩ := action
      cases given with
      | false => exact ⟨rfl, alike⟩
      | true =>
        have given : ¬¬true = true := not_not.mpr rfl
        dsimp only
        rw [if_neg given, if_neg given]
        by_cases reboot : action = rebootAction
        · rw [if_pos reboot, if_pos reboot]
          exact ⟨rfl, alike⟩
        · rw [if_neg reboot, if_neg reboot]
          by_cases ap : action = saveApAction
          · rw [if_pos ap, if_pos ap, result_map]
            exact stored (saveAp_alike alike body)
          · rw [if_neg ap, if_neg ap]
            by_cases sta : action = saveStaAction
            · rw [if_pos sta, if_pos sta, result_map]
              exact stored (saveSta_alike alike body)
            · rw [if_neg sta, if_neg sta]
              by_cases static : action = saveStaticAction
              · rw [if_pos static, if_pos static, result_map]
                exact stored (setStaStatic_alike alike _)
              · rw [if_neg static, if_neg static]
                exact ⟨rfl, alike⟩
  · rw [if_pos (by simpa using authorized), if_pos (by simpa using authorized)]
    exact ⟨rfl, alike⟩

end

/-- The tables of `somePlatform`, and nothing in the memory from `malloc`. -/
def someMachine : Machine where
  toPlatform := somePlatform
  setMac _ := none
  setApIp argv := argv[1]?
  argErrors argv := [decimal argv.length]
  aton _ := 0
  malloc n := Vector.replicate n 0
  octets := []

/-- A password with an escaped `@` is sent to a device with nothing stored. -/
theorem adminConfigPostHandler_alike_escaped :
    let req : Request := ⟨true, some (solarBody .sta rawSolarAtSun)⟩
    let outcome := Config.adminConfigPostHandler somePlatform req blankNvs
    let answered := (adminConfigPostHandler someMachine req).result ⟨shipped fun _ => none, none, 0⟩
    answered.1 = ⟨outcome.ret, outcome.reply, outcome.restart⟩ ∧
      onlyParams.Stores outcome.nvs answered.2.flash.store :=
  adminConfigPostHandler_alike (m := someMachine) ⟨fun _ => .none, .nil, rfl⟩
    ⟨true, some (solarBody .sta rawSolarAtSun)⟩

/-! ## Histories -/

/-- A history of `Boot` at the console, with what locks the page at each boot. -/
def atConsole : Option CString × Boot.Event → Event n
  | (_, .command c argv) => .typed c argv
  | (lock, .reboot kept results) => .rebooted lock kept results

/-- The device after a history. -/
def deviceAfter (m : Machine) (d : Device) (history : List (Event n)) : Device :=
  Runs.run (fun e d => (step m e d).state) d history

theorem atConsole_flash (m : Machine) (event : Option CString × Boot.Event) (d : Device) :
    (step m (atConsole event : Event n) d).state.flash =
      Boot.step m.commandTables m.garbage event.2 d.flash := by
  obtain ⟨lock, event⟩ := event
  cases event with
  | command c argv =>
    change ((command m c argv).result d).2.flash = _
    rw [command_result]
    rfl
  | reboot kept results =>
    change ((appMain m lock kept results).result d).2.flash = _
    rw [appMain_result]

theorem deviceAfter_flash (m : Machine) (history : List (Option CString × Boot.Event))
    (d : Device) :
    (deviceAfter m d (history.map atConsole : List (Event n))).flash =
      Boot.after m.commandTables m.garbage d.flash (history.map Prod.snd) := by
  induction history generalizing d with
  | nil => rfl
  | cons event history ih =>
    change (deviceAfter m (step m (atConsole event) d).state (history.map atConsole)).flash =
      Boot.after _ _ (Boot.step _ _ event.2 d.flash) (history.map Prod.snd)
    rw [ih, atConsole_flash]

/-- The lines aside, commands and boots do to the settings what they do at `Boot`, and the page
    after a boot that is not locked is that of the parameters read there. -/
theorem console_stores (m : Machine) (d : Device) (history : List (Option CString × Boot.Event))
    (lock : Option CString) (kept : SettingKey → Option Nat) (results : List Err) :
    let flash := Boot.after m.commandTables m.garbage d.flash (history.map Prod.snd)
    let events : List (Event n) := history.map atConsole
    (deviceAfter m d events).flash = flash ∧
      (deviceAfter m d (events ++ [.rebooted lock kept results])).page =
        if unlocked lock then
          some (Http.ConfigPage.configPage m.malloc (Boot.boot m.garbage kept results flash))
        else none := by
  intro flash events
  refine ⟨deviceAfter_flash m history d, ?_⟩
  rw [deviceAfter, Runs.run_append, ← deviceAfter]
  change ((appMain m lock kept results).result (deviceAfter m d events)).2.page = _
  rw [appMain_result, deviceAfter_flash]

end SolarConnect.Config.Console
