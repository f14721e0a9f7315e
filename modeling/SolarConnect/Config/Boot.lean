import SolarConnect.Config.SavedSettings
import SolarConnect.Misc.PowerLoss

/-!
# Settings at boot

What `app_main` reads from NVS and what `wifi_init` makes of it, for settings that were stored by
the configuration commands, with the power lost at any time. The access point and the station get
their names and passwords in arrays of 32 and 64 bytes that `strlcpy` fills.
-/

namespace SolarConnect.Config.Boot

open Bytes Nvs Logged

/-! ## Commands on the flash -/

/-- The NVS keys of the settings. -/
inductive SettingKey
  | param (key : ParamKey)
  | apIp
  | mac
  | apMac
  deriving DecidableEq

inductive SettingValue
  | str (value : CString)
  | blob (octets : List Byte)
  deriving DecidableEq

/-- What is set for a setting. -/
def entry : Setting → SettingKey × SettingValue
  | .param key value => (.param key, .str value)
  | .apIp value => (.apIp, .str value)
  | .mac octets => (.mac, .blob octets)
  | .apMac octets => (.apMac, .blob octets)

abbrev Settings := Flash SettingKey SettingValue

/-- A command on the flash: `set_ap_ip` sets its value without a commit. -/
def exec (tables : CommandTables) (c : Command) (argv : List CString) (f : Settings) :
    Err × Settings :=
  match c.settings tables argv with
  | none => (1, f)
  | some settings =>
    if c = .setApIp then f.setOnly (settings.map entry) else f.save (settings.map entry)

/-! ## Reading -/

/-- `get_config_param_str` (`cmd_router.c:99-126`), `none` for an error. -/
def getConfigParamStr (uninitialised : CString) (key : SettingKey)
    (store : Store SettingKey SettingValue) : Option CString × Store SettingKey SettingValue :=
  let (err, store) := store.call id
  if err ≠ espOk then (none, store)
  else
    let (len, store) := store.nvsGet key
    match len with
    | some (.str _) =>
      let (param, store) := store.nvsGet key
      match param with
      | some (.str param) => (some param, store)
      | _ => (some uninitialised, store)
    | _ => (none, store)

/-- `get_config_param_blob` (`cmd_router.c:146-168`), `none` for an error. -/
def getConfigParamBlob (uninitialised : List Byte) (key : SettingKey) (blobLen : Nat)
    (store : Store SettingKey SettingValue) :
    Option (List Byte) × Store SettingKey SettingValue :=
  let (err, store) := store.call id
  if err ≠ espOk then (none, store)
  else
    let (len, store) := store.nvsGet key
    match len with
    | some (.blob octets) =>
      if octets.length ≠ blobLen then (none, store)
      else
        let (blob, store) := store.nvsGet key
        match blob with
        | some (.blob octets) => (some octets, store)
        | _ => (some uninitialised, store)
    | _ => (none, store)

/-- A string parameter of `app_main`, with `param_set_default` where there is none. -/
def readStr (uninitialised : SettingKey → CString) (key : SettingKey) (default : CString)
    (store : Store SettingKey SettingValue) : CString × Store SettingKey SettingValue :=
  let (param, store) := getConfigParamStr (uninitialised key) key store
  (param.getD default, store)

/-- The configuration variables of `esp32_nat_router.c`. -/
structure Params where
  mac : Option (List Byte)
  ssid : CString
  entUsername : CString
  entIdentity : CString
  passwd : CString
  staticIp : CString
  subnetMask : CString
  gatewayAddr : CString
  apMac : Option (List Byte)
  apSsid : CString
  apPasswd : CString
  apIp : CString

/-- `"SOLAR CONNECT"`. -/
def defaultApSsid : CString where
  bytes := [0x53, 0x4F, 0x4C, 0x41, 0x52, 0x20, 0x43, 0x4F, 0x4E, 0x4E, 0x45, 0x43, 0x54]

/-- `DEFAULT_AP_IP`. -/
def defaultApIp : CString where
  bytes := [0x31, 0x39, 0x32, 0x2E, 0x31, 0x36, 0x38, 0x2E, 0x34, 0x2E, 0x31]

/-- The reads at the head of `app_main` (`esp32_nat_router.c:642-683`). -/
def readParams (uninitialised : SettingKey → CString) (octets : List Byte)
    (store : Store SettingKey SettingValue) : Params × Store SettingKey SettingValue :=
  let (mac, store) := getConfigParamBlob octets .mac 6 store
  let (ssid, store) := readStr uninitialised (.param .ssid) .empty store
  let (entUsername, store) := readStr uninitialised (.param .entUsername) .empty store
  let (entIdentity, store) := readStr uninitialised (.param .entIdentity) .empty store
  let (passwd, store) := readStr uninitialised (.param .passwd) .empty store
  let (staticIp, store) := readStr uninitialised (.param .staticIp) .empty store
  let (subnetMask, store) := readStr uninitialised (.param .subnetMask) .empty store
  let (gatewayAddr, store) := readStr uninitialised (.param .gatewayAddr) .empty store
  let (apMac, store) := getConfigParamBlob octets .apMac 6 store
  let (apSsid, store) := readStr uninitialised (.param .apSsid) defaultApSsid store
  let (apPasswd, store) := readStr uninitialised (.param .apPasswd) .empty store
  let (apIp, store) := readStr uninitialised .apIp defaultApIp store
  ({ mac, ssid, entUsername, entIdentity, passwd, staticIp, subnetMask, gatewayAddr, apMac, apSsid,
     apPasswd, apIp }, store)

/-! ## Wi-Fi configuration -/

/-- `strlcpy` of a string into an array of zeros. -/
def copyField (size : Nat) (s : CString) : List Byte :=
  s.bytes.take (size - 1) ++ List.replicate (size - min (size - 1) s.length) 0

/-- The fields of `ap_config.ap` that depend on the settings. -/
structure ApConfig where
  ssid : List Byte
  ssidLen : BitVec 8
  wpa : Bool
  password : List Byte
  deriving DecidableEq

/-- The fields of `wifi_config.sta`. -/
structure StaConfig where
  ssid : List Byte
  password : List Byte
  deriving DecidableEq

/-- The parts of the configuration of the access point in `wifi_init`
    (`esp32_nat_router.c:545-551`): `WIFI_AUTH_WPA2_WPA3_PSK`, or `WIFI_AUTH_OPEN` for a password
    shorter than 8 bytes. -/
def apConfig (p : Params) : ApConfig where
  ssid := copyField 32 p.apSsid
  ssidLen := BitVec.ofNat 8 p.apSsid.length
  wpa := !decide (p.apPasswd.length < 8)
  password := if p.apPasswd.length < 8 then List.replicate 64 0 else copyField 64 p.apPasswd

/-- Those of the station (`esp32_nat_router.c:553-563`), which there is if an SSID is
    configured. The password of an enterprise network goes another way. -/
def staConfig (p : Params) : Option StaConfig :=
  if 0 < p.ssid.length then
    some {
      ssid := copyField 32 p.ssid
      password :=
        if p.entUsername.length = 0 then copyField 64 p.passwd else List.replicate 64 0 }
  else none

/-- The name that the access point sends in its beacons: `ssid_len` bytes of the array, or the
    string in it if `ssid_len` is 0. -/
def ApConfig.network (ap : ApConfig) : List Byte :=
  if ap.ssidLen = 0 then (CString.ofBuffer ap.ssid).bytes else ap.ssid.take ap.ssidLen.toNat

theorem copyField_length {size : Nat} (positive : 0 < size) (s : CString) :
    (copyField size s).length = size := by
  simp only [copyField, List.length_append, List.length_take, List.length_replicate, CString.length]
  omega

/-- The string in the array. -/
theorem ofBuffer_copyField (size : Nat) (s : CString) :
    CString.ofBuffer (copyField size s) = s.take (size - 1) := by
  apply CString.ext
  have clean : ∀ b ∈ s.bytes.take (size - 1), (b != 0) = true := by
    intro b member
    have nonzero : b ≠ 0 := by
      rintro rfl
      exact s.noNul (List.mem_of_mem_take member)
    simpa using nonzero
  simp only [CString.ofBuffer, copyField, CString.take_bytes]
  rw [List.takeWhile_append_of_pos clean]
  cases size - min (size - 1) s.length with
  | zero => simp
  | succ k => simp [List.replicate_succ]

theorem take_eq_iff (s : CString) (n : Nat) : s.take n = s ↔ s.length ≤ n := by
  constructor
  · intro same
    have lengths := congrArg CString.length same
    simp only [CString.length, CString.take_bytes, List.length_take] at lengths
    simp only [CString.length]
    omega
  · intro short
    apply CString.ext
    rw [CString.take_bytes]
    exact List.take_of_length_le short

/-- The access point sends its configured name exactly if that has at most 31 bytes. -/
theorem network_eq_iff (p : Params) :
    (apConfig p).network = p.apSsid.bytes ↔ p.apSsid.length ≤ 31 := by
  unfold ApConfig.network apConfig
  dsimp only
  split
  · rw [ofBuffer_copyField, ← CString.ext_iff, take_eq_iff]
  · rename_i some
    rw [BitVec.toNat_ofNat]
    constructor
    · intro same
      by_contra long
      have bound : p.apSsid.bytes.length ≤ 32 := by
        rw [← same, List.length_take, copyField_length (by decide)]
        exact Nat.min_le_right _ _
      have full : p.apSsid.bytes.length = 32 := by
        simp only [CString.length] at long
        omega
      -- All 32 bytes are sent, and the last of them is the NUL.
      have nul : (0 : Byte) ∈ p.apSsid.bytes := by
        rw [← same, CString.length, full, List.take_of_length_le]
        · simp [copyField, CString.length, full]
        · rw [copyField_length (by decide)]
      exact p.apSsid.noNul nul
    · intro short
      have exact : p.apSsid.bytes.take 31 = p.apSsid.bytes := List.take_of_length_le short
      rw [Nat.mod_eq_of_lt (by omega), copyField, exact]
      exact List.take_left

theorem wpa_iff (p : Params) : (apConfig p).wpa = true ↔ 8 ≤ p.apPasswd.length := by
  simp [apConfig]

theorem apPassword_eq_iff (p : Params) :
    CString.ofBuffer (apConfig p).password = p.apPasswd ↔
      p.apPasswd.length = 0 ∨ (8 ≤ p.apPasswd.length ∧ p.apPasswd.length ≤ 63) := by
  unfold apConfig
  dsimp only
  split
  · rename_i short
    have none : CString.ofBuffer (List.replicate 64 0) = .empty := by decide
    rw [none]
    constructor
    · intro same
      exact Or.inl (same ▸ rfl)
    · rintro (nothing | ⟨long, -⟩)
      · exact CString.ext (List.eq_nil_of_length_eq_zero nothing).symm
      · omega
  · rw [ofBuffer_copyField, take_eq_iff]
    omega

/-! ## Histories -/

/-- A command, or a loss of power with what survives of that which is loose and the results of the
    calls to NVS from then on. -/
inductive Event
  | command (c : Command) (argv : List CString)
  | reboot (kept : SettingKey → Option Nat) (results : List Err)

/-- What uninitialised memory holds. -/
structure Garbage where
  str : SettingKey → CString
  octets : List Byte

/-- The flash after an event; a boot reads it. -/
def step (tables : CommandTables) (garbage : Garbage) : Event → Settings → Settings
  | .command c argv, f => (exec tables c argv f).2
  | .reboot kept results, f =>
    let f := f.powerLoss kept results
    { f with store := (readParams garbage.str garbage.octets f.store).2 }

/-- The flash after a history. -/
def after (tables : CommandTables) (garbage : Garbage) (f : Settings) (history : List Event) :
    Settings :=
  Runs.run (step tables garbage) f history

/-- The parameters of a boot after a loss of power. -/
def boot (garbage : Garbage) (kept : SettingKey → Option Nat) (results : List Err)
    (f : Settings) : Params :=
  (readParams garbage.str garbage.octets (f.powerLoss kept results).store).1

/-- What an event is to write. -/
def Event.writes (tables : CommandTables) : Event → List (SettingKey × SettingValue)
  | .command c argv => ((c.settings tables argv).getD []).map entry
  | .reboot _ _ => []

/-- What the commands of a history are to write. -/
def written (tables : CommandTables) (history : List Event) : List (SettingKey × SettingValue) :=
  history.flatMap (Event.writes tables)

/-- No call to NVS fails after the event. -/
def Event.Works : Event → Prop
  | .command _ _ => True
  | .reboot _ results => results = []

/-! ## Boots while NVS works -/

def SettingValue.str? : SettingValue → Option CString
  | .str value => some value
  | .blob _ => none

def SettingValue.blob? (blobLen : Nat) : SettingValue → Option (List Byte)
  | .str _ => none
  | .blob octets => if octets.length ≠ blobLen then none else some octets

section
variable {store : Store SettingKey SettingValue}

theorem getConfigParamStr_of_working (working : store.results = []) (uninitialised : CString)
    (key : SettingKey) :
    getConfigParamStr uninitialised key store =
      ((store.saved key).bind SettingValue.str?, store) := by
  unfold getConfigParamStr
  simp only [Store.call_of_working working, Store.nvsGet_of_working working, ne_eq,
    not_true_eq_false, if_false, id]
  rcases store.saved key with _ | value | octets <;> rfl

theorem getConfigParamBlob_of_working (working : store.results = []) (uninitialised : List Byte)
    (key : SettingKey) (blobLen : Nat) :
    getConfigParamBlob uninitialised key blobLen store =
      ((store.saved key).bind (SettingValue.blob? blobLen), store) := by
  unfold getConfigParamBlob
  simp only [Store.call_of_working working, Store.nvsGet_of_working working, ne_eq,
    not_true_eq_false, if_false, id]
  rcases store.saved key with _ | value | octets
  · rfl
  · rfl
  · simp only [Option.bind_some, SettingValue.blob?, ne_eq]
    split <;> rfl

/-- The string under a key. -/
def strAt (saved : SettingKey → Option SettingValue) (key : SettingKey) (default : CString) :
    CString :=
  ((saved key).bind SettingValue.str?).getD default

theorem readParams_of_working (store : Store SettingKey SettingValue)
    (working : store.results = []) (garbage : Garbage) :
    readParams garbage.str garbage.octets store =
      ({ mac := (store.saved .mac).bind (SettingValue.blob? 6)
         ssid := strAt store.saved (.param .ssid) .empty
         entUsername := strAt store.saved (.param .entUsername) .empty
         entIdentity := strAt store.saved (.param .entIdentity) .empty
         passwd := strAt store.saved (.param .passwd) .empty
         staticIp := strAt store.saved (.param .staticIp) .empty
         subnetMask := strAt store.saved (.param .subnetMask) .empty
         gatewayAddr := strAt store.saved (.param .gatewayAddr) .empty
         apMac := (store.saved .apMac).bind (SettingValue.blob? 6)
         apSsid := strAt store.saved (.param .apSsid) defaultApSsid
         apPasswd := strAt store.saved (.param .apPasswd) .empty
         apIp := strAt store.saved .apIp defaultApIp }, store) := by
  simp only [readParams, readStr, getConfigParamStr_of_working working,
    getConfigParamBlob_of_working working, strAt]

end

/-- NVS works, and nothing is loose under the key. -/
structure Durable (f : Settings) (key : SettingKey) : Prop where
  working : f.store.results = []
  settled : f.Settled key

/-- A command that commits saves its settings. -/
theorem Durable.save {f : Settings} {key : SettingKey} (durable : Durable f key)
    (writes : List (SettingKey × SettingValue)) :
    Durable (f.save writes).2 key ∧
      (f.save writes).2.store.saved = writeAll f.store.saved writes := by
  have saves := Store.saveAll_of_working durable.working writes
  have store : (f.save writes).2.store = (f.store.saveAll writes).2 := rfl
  have through : (f.save writes).1 = espOk := congrArg Prod.fst saves
  rw [saves] at store
  refine ⟨⟨by rw [store]; exact durable.working, ?_⟩, by rw [store]⟩
  by_cases written : key ∈ writes.map Prod.fst
  · exact Flash.settled_save through written
  · refine durable.settled.save fun w member same => ?_
    exact written (same ▸ List.mem_map_of_mem member)

/-- What is set without a commit does not touch the other keys. -/
theorem Durable.setOnly {f : Settings} {key : SettingKey} (durable : Durable f key)
    {writes : List (SettingKey × SettingValue)} (other : ∀ w ∈ writes, w.1 ≠ key) :
    Durable (f.setOnly writes).2 key := by
  refine ⟨?_, Flash.settled_setOnly durable.settled other⟩
  have opened : f.store.nvsOpen = (espOk, { f.store with unsaved := [] }) :=
    Store.call_of_working durable.working _
  unfold Flash.setOnly
  rw [opened]
  dsimp only
  rw [if_neg (by simp),
    Store.setAll_of_working (s := { f.store with unsaved := [] }) durable.working]
  exact durable.working

/-- An event writes what it is to write, but for the address of the access point. -/
theorem Durable.step (tables : CommandTables) (garbage : Garbage) {f : Settings}
    {key : SettingKey} (durable : Durable f key) (own : key ≠ .apIp) {e : Event}
    (works : e.Works) :
    Durable (step tables garbage e f) key ∧
      (step tables garbage e f).store.saved key =
        writeAll f.store.saved (e.writes tables) key := by
  cases e with
  | command c argv =>
    change Durable (exec tables c argv f).2 key ∧ (exec tables c argv f).2.store.saved key =
      writeAll f.store.saved (((c.settings tables argv).getD []).map entry) key
    unfold exec
    cases parsed : c.settings tables argv with
    | none => exact ⟨durable, rfl⟩
    | some settings =>
      dsimp only [Option.getD_some]
      split
      · rename_i ip
        have other : ∀ w ∈ settings.map entry, w.1 ≠ key := by
          subst ip
          simp only [Command.settings, Option.map_eq_some_iff] at parsed
          obtain ⟨value, -, rfl⟩ := parsed
          intro w member
          rw [List.mem_singleton.mp member]
          exact fun same => own same.symm
        refine ⟨durable.setOnly other, ?_⟩
        rw [Flash.setOnly_saved, writeAll_of_notMem _ other]
      · obtain ⟨kept, saved⟩ := durable.save (settings.map entry)
        exact ⟨kept, by rw [saved]⟩
  | reboot kept results =>
    have reads := readParams_of_working (f.powerLoss kept results).store works garbage
    have store : (Boot.step tables garbage (.reboot kept results) f).store =
        (f.powerLoss kept results).store := congrArg Prod.snd reads
    refine ⟨⟨by rw [store]; exact works, Flash.settled_powerLoss kept results f key⟩, ?_⟩
    rw [store]
    exact durable.settled.survivor kept

/-- After a history, each key but one holds what was written to it last. -/
theorem Durable.after (tables : CommandTables) (garbage : Garbage) {f : Settings}
    {key : SettingKey} (durable : Durable f key) (own : key ≠ .apIp) {history : List Event}
    (works : ∀ e ∈ history, e.Works) :
    Durable (Boot.after tables garbage f history) key ∧
      (Boot.after tables garbage f history).store.saved key =
        writeAll f.store.saved (written tables history) key := by
  induction history using List.reverseRecOn with
  | nil => exact ⟨durable, rfl⟩
  | append_singleton history e ih =>
    obtain ⟨before, saved⟩ := ih fun e member => works e (List.mem_append_left _ member)
    have last : Boot.after tables garbage f (history ++ [e]) =
        Boot.step tables garbage e (Boot.after tables garbage f history) :=
          Runs.run_append f history [e]
    obtain ⟨now, changed⟩ := before.step tables garbage own
      (works e (List.mem_append_right _ List.mem_cons_self))
    rw [last]
    refine ⟨now, changed.trans ?_⟩
    rw [written, List.flatMap_append, List.flatMap_cons, List.flatMap_nil, List.append_nil,
      writeAll_append]
    exact writeAll_congr saved _

/-! ## The last command -/

/-- The keys that a command writes. -/
def keys : Command → List SettingKey
  | .setSta => [.param .ssid, .param .passwd, .param .entUsername, .param .entIdentity]
  | .setStaStatic => [.param .staticIp, .param .subnetMask, .param .gatewayAddr]
  | .setStaMac => [.mac]
  | .setApMac => [.apMac]
  | .setAp => [.param .apSsid, .param .apPasswd]
  | .setApIp => [.apIp]

theorem settings_keys {tables : CommandTables} {c : Command} {argv : List CString}
    {settings : List Setting} (parsed : c.settings tables argv = some settings) :
    (settings.map entry).map Prod.fst = keys c := by
  cases c <;>
    · simp only [Command.settings, Option.map_eq_some_iff] at parsed
      obtain ⟨args, -, rfl⟩ := parsed
      rfl

theorem keys_nodup (c : Command) : (keys c).Nodup := by
  cases c <;> decide

/-- No two commands write the same key. -/
theorem keys_disjoint {c c' : Command} {key : SettingKey} (own : key ∈ keys c)
    (other : key ∈ keys c') : c = c' := by
  cases c <;> cases c' <;> first | rfl | (simp [keys] at own other; grind)

/-- What the last call of a command writes is what a boot finds. -/
theorem survivor_of_last (tables : CommandTables) (garbage : Garbage) {f : Settings}
    (durable : ∀ key, Durable f key) {before later : List Event} {c : Command}
    {argv : List CString} {settings : List Setting}
    (works : ∀ e ∈ before ++ .command c argv :: later, e.Works) (commits : c ≠ .setApIp)
    (parsed : c.settings tables argv = some settings)
    (last : ∀ argv', .command c argv' ∈ later → c.settings tables argv' = none)
    (kept : SettingKey → Option Nat) {s : Setting} (member : s ∈ settings) :
    (after tables garbage f (before ++ .command c argv :: later)).survivor kept (entry s).1 =
      some (entry s).2 := by
  have own : (entry s).1 ∈ keys c := by
    rw [← settings_keys parsed]
    exact List.mem_map_of_mem (List.mem_map_of_mem member)
  have committed : (entry s).1 ≠ .apIp := by
    intro ip
    exact commits (keys_disjoint own (by simp [ip, keys]))
  obtain ⟨end_, saved⟩ := (durable (entry s).1).after tables garbage committed works
  rw [end_.settled.survivor kept, saved]
  have split : written tables (before ++ .command c argv :: later) =
      written tables before ++ (settings.map entry ++ written tables later) := by
    simp [written, Event.writes, parsed]
  -- The commands after the last call write other keys.
  have untouched : ∀ w ∈ written tables later, w.1 ≠ (entry s).1 := by
    intro w found same
    obtain ⟨e, event, writes⟩ := List.mem_flatMap.mp found
    cases e with
    | command c' argv' =>
      change w ∈ ((c'.settings tables argv').getD []).map entry at writes
      cases other : c'.settings tables argv' with
      | none => simp [other] at writes
      | some settings' =>
        rw [other, Option.getD_some] at writes
        have key : w.1 ∈ keys c' := by
          rw [← settings_keys other]
          exact List.mem_map_of_mem writes
        cases keys_disjoint own (same ▸ key)
        rw [last argv' event] at other
        cases other
    | reboot kept results => cases writes
  rw [split, writeAll_append, writeAll_append, writeAll_of_notMem _ untouched]
  refine writeAll_of_mem _ ?_ (List.mem_map_of_mem member)
  rw [settings_keys parsed]
  exact keys_nodup c

/-- The flash as the device comes, with this content and NVS working. -/
def shipped (saved : SettingKey → Option SettingValue) : Settings :=
  ⟨⟨saved, [], []⟩, []⟩

theorem durable_shipped (saved : SettingKey → Option SettingValue) (key : SettingKey) :
    Durable (shipped saved) key :=
  ⟨rfl, fun _ => List.not_mem_nil⟩

/-- The parameters of a boot, where the flash still holds a value under their keys. -/
theorem boot_ap (garbage : Garbage) {kept : SettingKey → Option Nat} {f : Settings}
    {ssid passwd : CString} (name : f.survivor kept (.param .apSsid) = some (.str ssid))
    (secret : f.survivor kept (.param .apPasswd) = some (.str passwd)) :
    (boot garbage kept [] f).apSsid = ssid ∧ (boot garbage kept [] f).apPasswd = passwd := by
  have reads := congrArg Prod.fst
    (readParams_of_working (f.powerLoss kept []).store rfl garbage)
  rw [boot, reads]
  simp [strAt, Flash.powerLoss, name, secret, SettingValue.str?]

/-- However often the power was lost, as long as NVS works: the access point comes up under the
    name of the last `set_ap` exactly if that has at most 31 bytes, is protected exactly if the
    password has at least 8, and has that password in its array exactly if it is empty or has
    between 8 and 63. -/
theorem access_point_after_reboot (tables : CommandTables) (garbage : Garbage)
    (saved : SettingKey → Option SettingValue) {before later : List Event} {argv : List CString}
    {args : SetApArgs} (works : ∀ e ∈ before ++ .command .setAp argv :: later, e.Works)
    (parsed : tables.setAp argv = some args)
    (last : ∀ argv', .command .setAp argv' ∈ later → tables.setAp argv' = none) :
    ∀ kept,
      let ap := apConfig (boot garbage kept []
        (after tables garbage (shipped saved) (before ++ .command .setAp argv :: later)))
      let ssid := preprocessString args.ssid
      let password := preprocessString args.password
      (ap.network = ssid.bytes ↔ ssid.length ≤ 31) ∧
        (ap.wpa = true ↔ 8 ≤ password.length) ∧
        (CString.ofBuffer ap.password = password ↔
          password.length = 0 ∨ (8 ≤ password.length ∧ password.length ≤ 63)) := by
  intro kept ap ssid password
  have meant : Command.setAp.settings tables argv = some (ofParams (setApSettings args)) := by
    simp [Command.settings, parsed]
  have finds := fun s member => survivor_of_last (s := s) tables garbage
    (durable_shipped saved) works (by decide) meant
    (fun argv' found => by simp [Command.settings, last argv' found]) kept member
  obtain ⟨apSsid, apPasswd⟩ := boot_ap garbage
    (finds (.param .apSsid ssid) (by simp [ofParams, setApSettings, ssid]))
    (finds (.param .apPasswd password) (by simp [ofParams, setApSettings, password]))
  refine ⟨?_, ?_, ?_⟩
  · rw [← apSsid]
    exact network_eq_iff _
  · rw [← apPasswd]
    exact wpa_iff _
  · rw [← apPasswd]
    exact apPassword_eq_iff _

/-- `set_ap` and `set_sta` are given two arguments, which `arg_parse` takes as they are. -/
def twoArgTables : CommandTables where
  setAp argv := argv[1]?.bind fun ssid => argv[2]?.map fun password => ⟨ssid, password⟩
  setSta argv :=
    argv[1]?.bind fun ssid => argv[2]?.map fun password => ⟨ssid, password, none, none⟩
  setStaStatic _ := none
  setMac _ := none
  setApIp argv := argv[1]?

/-- A name and a password: `"solar"`, `"sunlight"`. -/
def solarArgv : List CString :=
  [.empty, .ofBuffer [0x73, 0x6F, 0x6C, 0x61, 0x72],
    .ofBuffer [0x73, 0x75, 0x6E, 0x6C, 0x69, 0x67, 0x68, 0x74]]

/-- A later change of the address, which may get lost. -/
def thenAddress : List Event :=
  [.reboot (fun _ => none) [], .command .setApIp apIpArgv, .reboot (fun _ => some 0) []]

theorem access_point_after_reboot_solar :
    let ap := apConfig (boot ⟨fun _ => .empty, []⟩ (fun _ => some 0) []
      (after twoArgTables ⟨fun _ => .empty, []⟩ (shipped fun _ => none)
        ([] ++ .command .setAp solarArgv :: thenAddress)))
    (ap.network = [0x73, 0x6F, 0x6C, 0x61, 0x72] ↔ 5 ≤ 31) ∧ (ap.wpa = true ↔ 8 ≤ 8) := by
  have works : ∀ e ∈ [] ++ .command .setAp solarArgv :: thenAddress, e.Works := by
    simp [thenAddress, Event.Works]
  have parsed : twoArgTables.setAp solarArgv = some ⟨solarArgv[1], solarArgv[2]⟩ := rfl
  have configured := access_point_after_reboot twoArgTables ⟨fun _ => .empty, []⟩ (fun _ => none)
    works parsed (by simp [thenAddress]) (fun _ => some 0)
  exact ⟨configured.1, configured.2.1⟩

/-! ## The station -/

/-- The station's array holds its name exactly if that has at most 31 bytes. -/
theorem staConfig_cases (p : Params) :
    (staConfig p = none ↔ p.ssid.length = 0) ∧
      ∀ sta, staConfig p = some sta →
        (CString.ofBuffer sta.ssid = p.ssid ↔ p.ssid.length ≤ 31) ∧
          (CString.ofBuffer sta.password = p.passwd ↔
            p.passwd.length = 0 ∨ (p.entUsername.length = 0 ∧ p.passwd.length ≤ 63)) := by
  unfold staConfig
  split
  · rename_i named
    refine ⟨by simp; omega, ?_⟩
    rintro sta ⟨⟩
    dsimp only
    refine ⟨by rw [ofBuffer_copyField, take_eq_iff], ?_⟩
    split
    · rename_i personal
      rw [ofBuffer_copyField, take_eq_iff]
      omega
    · rename_i enterprise
      have none : CString.ofBuffer (List.replicate 64 0) = .empty := by decide
      rw [none]
      constructor
      · intro same
        exact Or.inl (same ▸ rfl)
      · rintro (nothing | ⟨personal, -⟩)
        · exact CString.ext (List.eq_nil_of_length_eq_zero nothing).symm
        · exact absurd personal enterprise
  · rename_i unnamed
    exact ⟨by simp; omega, fun sta none => by cases none⟩

theorem boot_sta (garbage : Garbage) {kept : SettingKey → Option Nat} {f : Settings}
    {ssid passwd entUsername : CString}
    (name : f.survivor kept (.param .ssid) = some (.str ssid))
    (secret : f.survivor kept (.param .passwd) = some (.str passwd))
    (user : f.survivor kept (.param .entUsername) = some (.str entUsername)) :
    (boot garbage kept [] f).ssid = ssid ∧ (boot garbage kept [] f).passwd = passwd ∧
      (boot garbage kept [] f).entUsername = entUsername := by
  have reads := congrArg Prod.fst
    (readParams_of_working (f.powerLoss kept []).store rfl garbage)
  rw [boot, reads]
  simp [strAt, Flash.powerLoss, name, secret, user, SettingValue.str?]

/-- The station is configured exactly if the last `set_sta` had a name, has that name in its array
    exactly if it has at most 31 bytes, and has the password there exactly if it is empty or has at
    most 63 bytes and no enterprise user was given. -/
theorem station_after_reboot (tables : CommandTables) (garbage : Garbage)
    (saved : SettingKey → Option SettingValue) {before later : List Event} {argv : List CString}
    {args : SetStaArgs} (works : ∀ e ∈ before ++ .command .setSta argv :: later, e.Works)
    (parsed : tables.setSta argv = some args)
    (last : ∀ argv', .command .setSta argv' ∈ later → tables.setSta argv' = none) :
    ∀ kept,
      let sta := staConfig (boot garbage kept []
        (after tables garbage (shipped saved) (before ++ .command .setSta argv :: later)))
      let ssid := preprocessString args.ssid
      let password := preprocessString args.password
      (sta = none ↔ ssid.length = 0) ∧
        ∀ config, sta = some config →
          (CString.ofBuffer config.ssid = ssid ↔ ssid.length ≤ 31) ∧
            (CString.ofBuffer config.password = password ↔
              password.length = 0 ∨
                ((args.entUsername.getD .empty).length = 0 ∧ password.length ≤ 63)) := by
  intro kept sta ssid password
  have meant : Command.setSta.settings tables argv = some (ofParams (setStaSettings args)) := by
    simp [Command.settings, parsed]
  have finds := fun s member => survivor_of_last (s := s) tables garbage
    (durable_shipped saved) works (by decide) meant
    (fun argv' found => by simp [Command.settings, last argv' found]) kept member
  obtain ⟨name, secret, user⟩ := boot_sta garbage
    (finds (.param .ssid ssid) (by simp [ofParams, setStaSettings, ssid]))
    (finds (.param .passwd password) (by simp [ofParams, setStaSettings, password]))
    (finds (.param .entUsername (args.entUsername.getD .empty))
      (by simp [ofParams, setStaSettings]))
  rw [← name, ← secret, ← user]
  exact staConfig_cases _

theorem station_after_reboot_solar :
    let sta := staConfig (boot ⟨fun _ => .empty, []⟩ (fun _ => some 0) []
      (after twoArgTables ⟨fun _ => .empty, []⟩ (shipped fun _ => none)
        ([] ++ .command .setSta solarArgv :: thenAddress)))
    sta = none ↔ 5 = 0 := by
  have works : ∀ e ∈ [] ++ .command .setSta solarArgv :: thenAddress, e.Works := by
    simp [thenAddress, Event.Works]
  have parsed : twoArgTables.setSta solarArgv =
      some ⟨solarArgv[1], solarArgv[2], none, none⟩ := rfl
  exact (station_after_reboot twoArgTables ⟨fun _ => .empty, []⟩ (fun _ => none) works parsed
    (by simp [thenAddress]) (fun _ => some 0)).1

/-! ## Failures -/

theorem getConfigParamStr_saved (uninitialised : CString) (key : SettingKey)
    (store : Store SettingKey SettingValue) :
    (getConfigParamStr uninitialised key store).2.saved = store.saved := by
  have opened : (store.call id).2.saved = store.saved := by
    rw [Store.call_eq]
    dsimp only
    split <;> rfl
  unfold getConfigParamStr
  dsimp only
  split
  · exact opened
  split
  · split <;> exact (Store.nvsGet_saved _ key).trans ((Store.nvsGet_saved _ key).trans opened)
  · exact (Store.nvsGet_saved _ key).trans opened

theorem getConfigParamBlob_saved (uninitialised : List Byte) (key : SettingKey) (blobLen : Nat)
    (store : Store SettingKey SettingValue) :
    (getConfigParamBlob uninitialised key blobLen store).2.saved = store.saved := by
  have opened : (store.call id).2.saved = store.saved := by
    rw [Store.call_eq]
    dsimp only
    split <;> rfl
  unfold getConfigParamBlob
  dsimp only
  split
  · exact opened
  split
  · split
    · exact (Store.nvsGet_saved _ key).trans opened
    · split <;> exact (Store.nvsGet_saved _ key).trans ((Store.nvsGet_saved _ key).trans opened)
  · exact (Store.nvsGet_saved _ key).trans opened

theorem readStr_saved (uninitialised : SettingKey → CString) (key : SettingKey)
    (default : CString) (store : Store SettingKey SettingValue) :
    (readStr uninitialised key default store).2.saved = store.saved :=
  getConfigParamStr_saved _ _ _

theorem readParams_saved (uninitialised : SettingKey → CString) (octets : List Byte)
    (store : Store SettingKey SettingValue) :
    (readParams uninitialised octets store).2.saved = store.saved := by
  simp only [readParams, readStr_saved, getConfigParamBlob_saved]

/-- An event brings no value but those that it is to write. -/
theorem step_brings {tables : CommandTables} {garbage : Garbage} {e : Event} {f : Settings}
    {key : SettingKey} {value : SettingValue}
    (found : (step tables garbage e f).Holds key (some value)) :
    f.Holds key (some value) ∨ (key, value) ∈ e.writes tables := by
  cases e with
  | command c argv =>
    change (exec tables c argv f).2.Holds key (some value) at found
    change _ ∨ (key, value) ∈ ((c.settings tables argv).getD []).map entry
    unfold exec at found
    cases parsed : c.settings tables argv with
    | none =>
      rw [parsed] at found
      exact Or.inl found
    | some settings =>
      rw [parsed] at found
      dsimp only at found
      rw [Option.getD_some]
      have brought : f.Holds key (some value) ∨
          ∃ w ∈ settings.map entry, w.1 = key ∧ some w.2 = some value := by
        split at found
        · exact Flash.Holds.of_setOnly found
        · exact Flash.Holds.of_save found
      rcases brought with old | ⟨w, member, rfl, same⟩
      · exact Or.inl old
      · cases same
        exact Or.inr member
  | reboot kept results =>
    have before : (f.powerLoss kept results).Holds key (some value) :=
      found.imp_left (congrFun (readParams_saved _ _ _) key).symm.trans
    exact Or.inl before.of_powerLoss

/-- Any history of commands, failures and power losses: a setting that a boot finds was in the
    flash at first, or is what some command was given for it. -/
theorem settings_origin (tables : CommandTables) (garbage : Garbage)
    (saved : SettingKey → Option SettingValue) (results : List Err) (history : List Event) :
    ∀ kept key value,
      (after tables garbage ⟨⟨saved, [], results⟩, []⟩ history).survivor kept key = some value →
        saved key = some value ∨ (key, value) ∈ written tables history := by
  intro kept key value found
  have holds : (after tables garbage ⟨⟨saved, [], results⟩, []⟩ history).Holds key
      (some value) := found ▸ Flash.survivor_holds kept _ key
  clear found
  induction history using List.reverseRecOn with
  | nil =>
    rcases holds with initial | loose
    · exact Or.inl initial
    · cases loose
  | append_singleton history e ih =>
    have last : after tables garbage ⟨⟨saved, [], results⟩, []⟩ (history ++ [e]) =
        step tables garbage e (after tables garbage ⟨⟨saved, [], results⟩, []⟩ history) :=
      Runs.run_append _ history [e]
    rw [last] at holds
    have writes : written tables (history ++ [e]) = written tables history ++ e.writes tables := by
      simp [written]
    rw [writes, List.mem_append]
    rcases step_brings holds with old | new
    · exact (ih old).imp_right Or.inl
    · exact Or.inr (Or.inr new)

/-- An address that was not committed, found after the second boot. -/
theorem settings_origin_address :
    let history : List Event :=
      [.command .setApIp apIpArgv, .reboot (fun _ => some 0) [], .reboot (fun _ => none) []]
    (none : Option SettingValue) = some (.str apIpArgv[1]) ∨
      (SettingKey.apIp, SettingValue.str apIpArgv[1]) ∈ written twoArgTables history := by
  intro history
  have found : (after twoArgTables ⟨fun _ => .empty, []⟩ (shipped fun _ => none) history).survivor
      (fun _ => none) .apIp = some (.str apIpArgv[1]) := by
    decide +kernel
  exact settings_origin twoArgTables ⟨fun _ => .empty, []⟩ (fun _ => none) [] history
    (fun _ => none) .apIp _ found

end SolarConnect.Config.Boot
