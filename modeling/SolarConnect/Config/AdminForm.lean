import SolarConnect.Config.Commands

/-!
# The admin form

`admin_config_post_handler` of `http_server.c`. The sections of `/config` post their fields
form-encoded. The handler decodes each field into a fixed buffer and passes the buffers to a
configuration command, which decodes them once more. `httpd_query_key_value` is ESP-IDF's and
is a parameter. So the form stores what was typed only where the value survives the second
decoding.
-/

namespace SolarConnect.Config

open Bytes FormEncoding Nvs

/-! ## The handler -/

/-- The keys that the handler looks up in a form body. -/
inductive FormKey
  | action
  | apSsid
  | apPassword
  | ssid
  | password
  | entUsername
  | entIdentity
  | staticip
  | subnetmask
  | gateway
  deriving DecidableEq, Repr

/-- What `httpd_query_key_value` does to the buffer that it is given. -/
inductive QueryResult
  /-- `ESP_OK`: the buffer holds the value. -/
  | found (value : CString)
  /-- `ESP_ERR_HTTPD_RESULT_TRUNC`: the buffer holds what fits of the value. -/
  | truncated (value : CString)
  /-- Any other error: the buffer is untouched. -/
  | failed
  deriving DecidableEq

/-- What the handler calls outside of the repository. -/
structure Platform where
  queryKeyValue : CString → FormKey → Nat → QueryResult
  tables : ArgTables
  uninitialised : CString

/-- `sizeof(action)`. -/
def actionSize : Nat := 32

/-- The size of the buffers for an SSID, a password or a name. -/
def credentialSize : Nat := 64

/-- The size of the buffers for an address. -/
def addressSize : Nat := 32

/-- `get_form_value` (`http_server.c:1440-1450`) with a zeroed buffer: its result, and the
    string in the buffer. -/
def getFormValue (p : Platform) (body : CString) (key : FormKey) (outLen : Nat) :
    Bool × CString :=
  match p.queryKeyValue body key outLen with
  | .found value => (true, preprocessString value)
  | .truncated value => (false, value)
  | .failed => (false, .empty)

/-- `load_config_string_or_default` (`http_server.c:1452-1465`). -/
def loadConfigStringOrDefault (p : Platform) (key : ParamKey) (defaultValue : CString)
    (nvs : Params) : CString × Params :=
  let (value, nvs) := getConfigParamStr p.uninitialised key nvs
  (value.getD defaultValue, nvs)

/-- `"save_ap"`. -/
def saveApAction : CString where
  bytes := [0x73, 0x61, 0x76, 0x65, 0x5F, 0x61, 0x70]

/-- `"save_sta"`. -/
def saveStaAction : CString where
  bytes := [0x73, 0x61, 0x76, 0x65, 0x5F, 0x73, 0x74, 0x61]

/-- `"save_static"`. -/
def saveStaticAction : CString where
  bytes := [0x73, 0x61, 0x76, 0x65, 0x5F, 0x73, 0x74, 0x61, 0x74, 0x69, 0x63]

/-- `"reboot"`. -/
def rebootAction : CString where
  bytes := [0x72, 0x65, 0x62, 0x6F, 0x6F, 0x74]

/-- `"set_ap"`. -/
def setApName : CString where
  bytes := [0x73, 0x65, 0x74, 0x5F, 0x61, 0x70]

/-- `"set_sta"`. -/
def setStaName : CString where
  bytes := [0x73, 0x65, 0x74, 0x5F, 0x73, 0x74, 0x61]

/-- `"set_sta_static"`. -/
def setStaStaticName : CString where
  bytes := [0x73, 0x65, 0x74, 0x5F, 0x73, 0x74, 0x61, 0x5F, 0x73, 0x74, 0x61, 0x74, 0x69, 0x63]

/-- `"-u"`. -/
def usernameFlag : CString where
  bytes := [0x2D, 0x75]

/-- `"-a"`. -/
def identityFlag : CString where
  bytes := [0x2D, 0x61]

/-- The arguments for an optional field: none if it is left blank. -/
def optionalArg (flag value : CString) : List CString :=
  if value = .empty then [] else [flag, value]

/-- The password to store: the typed one, or the stored one if the field is blank. -/
def typedOrStored (typed stored : CString) : CString :=
  if typed = .empty then stored.take (credentialSize - 1) else typed

/-- The `save_ap` branch of `admin_config_post_handler` (`http_server.c:1542-1554`). -/
def saveAp (p : Platform) (body : CString) (nvs : Params) : Err × Params :=
  let (stored, nvs) := loadConfigStringOrDefault p .apPasswd .empty nvs
  let ssid := (getFormValue p body .apSsid credentialSize).2
  let password := (getFormValue p body .apPassword credentialSize).2
  setAp p.tables [setApName, ssid, typedOrStored password stored] nvs

/-- The `save_sta` branch of `admin_config_post_handler` (`http_server.c:1555-1585`). -/
def saveSta (p : Platform) (body : CString) (nvs : Params) : Err × Params :=
  let (stored, nvs) := loadConfigStringOrDefault p .passwd .empty nvs
  let ssid := (getFormValue p body .ssid credentialSize).2
  let password := (getFormValue p body .password credentialSize).2
  let username := (getFormValue p body .entUsername credentialSize).2
  let identity := (getFormValue p body .entIdentity credentialSize).2
  setSta p.tables
    ([setStaName, ssid, typedOrStored password stored] ++
      optionalArg usernameFlag username ++ optionalArg identityFlag identity) nvs

/-- The `save_static` branch of `admin_config_post_handler` (`http_server.c:1586-1595`). -/
def saveStatic (p : Platform) (body : CString) (nvs : Params) : Err × Params :=
  let staticIp := (getFormValue p body .staticip addressSize).2
  let subnetMask := (getFormValue p body .subnetmask addressSize).2
  let gateway := (getFormValue p body .gateway addressSize).2
  setStaStatic p.tables [setStaStaticName, staticIp, subnetMask, gateway] nvs

/-- A request: whether `check_auth` gives `AUTH_OK`, and what `receive_form_body` gives. -/
structure Request where
  authorized : Bool
  body : Option CString

/-- What is sent back. -/
inductive AdminReply
  /-- `send_admin_auth_failure`: 401 Unauthorized. -/
  | authFailure
  /-- `httpd_resp_send_500`. -/
  | serverError
  /-- `send_admin_result`. -/
  | result (title message : String)
  deriving DecidableEq, Repr

/-- The outcome of a request: the result of the handler, the reply, whether `restart_timer`
    was started, and NVS behind it. -/
structure Outcome where
  ret : Err
  reply : AdminReply
  restart : Bool
  nvs : Params

/-- The end of `admin_config_post_handler`, behind the branches that store. -/
def finish (saved : Err × Params) : Outcome :=
  if saved.1 ≠ espOk then
    ⟨espOk, .result "Configuration Failed" "The requested settings could not be stored.", false,
      saved.2⟩
  else
    ⟨espOk, .result "Settings Applied"
      "The device is rebooting to apply the new configuration.", true, saved.2⟩

/-- `ESP_FAIL`. -/
def espFail : Err := -1

/-- `admin_config_post_handler` (`http_server.c:1515-1607`). -/
def adminConfigPostHandler (p : Platform) (req : Request) (nvs : Params) : Outcome :=
  if ¬req.authorized then ⟨espOk, .authFailure, false, nvs⟩
  else
    match req.body with
    | none => ⟨espFail, .serverError, false, nvs⟩
    | some body =>
      let (given, action) := getFormValue p body .action actionSize
      if ¬given then
        ⟨espOk, .result "Invalid Request" "No config action was provided.", false, nvs⟩
      else if action = rebootAction then
        ⟨espOk, .result "Rebooting" "The device is rebooting.", true, nvs⟩
      else if action = saveApAction then finish (saveAp p body nvs)
      else if action = saveStaAction then finish (saveSta p body nvs)
      else if action = saveStaticAction then finish (saveStatic p body nvs)
      else ⟨espOk, .result "Unknown Action" "This config action is not supported.", false, nvs⟩

/-! ## A field in its buffer -/

/-- The body has `raw` under `key`, and the look-up yields it or reports truncation. -/
def Carries (p : Platform) (body : CString) (key : FormKey) (raw : CString) : Prop :=
  ∀ outLen, p.queryKeyValue body key outLen =
    if raw.length < outLen then .found raw else .truncated (raw.take (outLen - 1))

/-- What reaches the command for a value sent as `raw`: a truncated field is not decoded. -/
def fieldBuffer (value raw : CString) : CString :=
  if raw.length < credentialSize then value else raw.take (credentialSize - 1)

/-- The buffer ends inside the escape of a `%`, and the rest of the value reads like the part
    of the escape that it holds. -/
def CutsPercent (value raw : List Byte) : Prop :=
  ∃ head front cut, Encodes head front ∧ (cut = [percent] ∨ cut = [percent, 0x32]) ∧
    raw.take (credentialSize - 1) = front ++ cut ∧ value = head ++ cut

/-- A value sent as `raw` that gets through both decodings. -/
def FieldKept (value raw : CString) : Prop :=
  raw.length < credentialSize ∧ Plain value.bytes ∨
    credentialSize ≤ raw.length ∧ CutsPercent value.bytes raw.bytes

theorem getFormValue_of_carries {p : Platform} {body value raw : CString} {key : FormKey}
    (carried : Carries p body key raw) (sent : Encodes value.bytes raw.bytes) :
    (getFormValue p body key credentialSize).2 = fieldBuffer value raw := by
  unfold getFormValue fieldBuffer
  rw [carried]
  by_cases fits : raw.length < credentialSize
  · rw [if_pos fits, if_pos fits]
    exact preprocessString_of_encodes sent
  · rw [if_neg fits, if_neg fits]

theorem preprocessString_of_cutsPercent {value raw : CString}
    (cuts : CutsPercent value.bytes raw.bytes) :
    preprocessString (raw.take (credentialSize - 1)) = value := by
  obtain ⟨head, front, cut, sentHead, escape, held, valueSplit⟩ := cuts
  have kept : decode cut = cut := by
    rcases escape with rfl | rfl
    · decide
    · decide
  apply CString.ext
  rw [preprocessString, CString.take_bytes, held, decode_append sentHead, kept, ← valueSplit]
  exact CString.ofBuffer_of_noNul value.noNul

/-- A truncated field that is stored as typed: what the command decodes of it is the front of
    the value, so the bytes of the escape it cannot decode have to be the rest. -/
theorem cutsPercent_of_preprocessString {value raw : CString}
    (sent : Encodes value.bytes raw.bytes) (long : credentialSize ≤ raw.length)
    (stored : preprocessString (raw.take (credentialSize - 1)) = value) :
    CutsPercent value.bytes raw.bytes := by
  obtain ⟨head, tail, front, back, valueSplit, sentSplit, sentHead, sentTail, place⟩ :=
    sent.cut (credentialSize - 1) (Nat.le_trans (Nat.sub_le _ _) long)
  have rest (cut : List Byte) (held : raw.bytes.take (credentialSize - 1) = front ++ cut)
      (kept : decode cut = cut) : tail = cut := by
    have noNul : 0 ∉ head ++ cut := by
      rw [List.mem_append]
      rintro (nul | nul)
      · exact value.noNul (valueSplit ▸ List.mem_append_left tail nul)
      · exact raw.noNul (List.mem_of_mem_take (held ▸ List.mem_append_right front nul))
    have bytes := congrArg CString.bytes stored
    rw [preprocessString, CString.take_bytes, held, decode_append sentHead, kept,
      CString.ofBuffer_of_noNul noNul, valueSplit] at bytes
    exact (List.append_cancel_left bytes).symm
  rcases place with whole | ⟨high, low, behind, escape, place⟩
  · -- Cut between two bytes of the value: there is a rest, and it is lost.
    exfalso
    have held : raw.bytes.take (credentialSize - 1) = front ++ [] := by
      rw [sentSplit, List.append_nil, ← whole, List.take_left]
    rw [rest [] held rfl] at sentTail
    have lengths := congrArg List.length sentSplit
    rw [sentTail.eq_nil, List.append_nil, whole] at lengths
    exact absurd (long.trans_eq lengths) (by decide)
  · rw [escape] at sentTail sentSplit
    obtain ⟨h, l, value', highDigit, lowDigit, tailValue, -⟩ := sentTail.of_escape
    rcases place with one | two
    · have held : raw.bytes.take (credentialSize - 1) = front ++ [percent] := by
        rw [sentSplit, ← one, List.take_length_add_append]
        rfl
      have isCut := rest [percent] held (by decide)
      rw [isCut] at valueSplit
      exact ⟨head, front, _, sentHead, Or.inl rfl, held, valueSplit⟩
    · have held : raw.bytes.take (credentialSize - 1) = front ++ [percent, high] := by
        rw [sentSplit, ← two, List.take_length_add_append]
        rfl
      have kept : decode [percent, high] = [percent, high] := by
        change [unplus percent, unplus high] = _
        rw [unplus_of_ne (hexDigit_ne_plus highDigit), unplus_of_ne (by decide)]
      have isCut := rest [percent, high] held kept
      have isPercent : 16 * h + l = percent := (List.cons.inj (tailValue.symm.trans isCut)).1
      rw [isCut] at valueSplit
      rw [high_of_percent highDigit lowDigit isPercent] at held valueSplit
      exact ⟨head, front, _, sentHead, Or.inr rfl, held, valueSplit⟩

theorem preprocessString_fieldBuffer_iff {value raw : CString}
    (sent : Encodes value.bytes raw.bytes) :
    preprocessString (fieldBuffer value raw) = value ↔ FieldKept value raw := by
  unfold fieldBuffer FieldKept
  by_cases fits : raw.length < credentialSize
  · have short : ¬credentialSize ≤ raw.length := Nat.not_le.mpr fits
    rw [if_pos fits, preprocessString_eq_self_iff]
    simp only [fits, short, true_and, false_and, or_false]
  · have long : credentialSize ≤ raw.length := Nat.not_lt.mp fits
    rw [if_neg fits]
    simp only [fits, long, true_and, false_and, false_or]
    exact ⟨cutsPercent_of_preprocessString sent long, preprocessString_of_cutsPercent⟩

/-! ## Submitting a section -/

/-- The sections of `/config` that have an SSID and a password. -/
inductive WifiSection
  | ap
  | sta
  deriving DecidableEq, Repr

namespace WifiSection

/-- The action that the section submits. -/
def action : WifiSection → CString
  | ap => saveApAction
  | sta => saveStaAction

/-- The key of the SSID in the form. -/
def ssidKey : WifiSection → FormKey
  | ap => .apSsid
  | sta => .ssid

/-- The key of the password in the form. -/
def passwordKey : WifiSection → FormKey
  | ap => .apPassword
  | sta => .password

/-- The key of the SSID in NVS. -/
def ssidParam : WifiSection → ParamKey
  | ap => .apSsid
  | sta => .ssid

/-- The key of the password in NVS. -/
def passwordParam : WifiSection → ParamKey
  | ap => .apPasswd
  | sta => .passwd

/-- What the handler does for the section. -/
def save : WifiSection → Platform → CString → Params → Err × Params
  | ap => saveAp
  | sta => saveSta

end WifiSection

/-- An argument that does not start with `-`. -/
def Positional (arg : CString) : Prop :=
  arg.bytes.head? ≠ some 0x2D

instance (arg : CString) : Decidable (Positional arg) := by
  unfold Positional
  infer_instance

/-- The value of an optional argument, if it is given. -/
def givenArg (value : CString) : Option CString :=
  if value = .empty then none else some value

/-- `arg_parse` passes positional arguments, and the values of options, through. -/
structure PassesThrough (tables : ArgTables) : Prop where
  setAp (ssid password : CString) (_ : Positional ssid) (_ : Positional password) :
    tables.setAp [setApName, ssid, password] = some ⟨ssid, password⟩
  setSta (ssid password username identity : CString) (_ : Positional ssid)
      (_ : Positional password) :
    tables.setSta
        ([setStaName, ssid, password] ++
          optionalArg usernameFlag username ++ optionalArg identityFlag identity) =
      some ⟨ssid, password, givenArg username, givenArg identity⟩

/-- A section is submitted: its action, the SSID and the password are in the body, each in
    some encoding. -/
structure Submission (p : Platform) (body : CString) (sec : WifiSection)
    (ssid rawSsid password rawPassword : CString) : Prop where
  action : ∃ rawAction, Encodes sec.action.bytes rawAction.bytes ∧
    Carries p body .action rawAction
  ssidCarried : Carries p body sec.ssidKey rawSsid
  ssidSent : Encodes ssid.bytes rawSsid.bytes
  ssidPositional : Positional ssid
  passwordCarried : Carries p body sec.passwordKey rawPassword
  passwordSent : Encodes password.bytes rawPassword.bytes
  passwordPositional : Positional password

/-- Behind the request NVS holds the SSID, and the password if one was typed; a blank one
    leaves the stored password as it was. -/
structure StoredAsTyped (sec : WifiSection) (ssid password : CString)
    (before after : Params) : Prop where
  ssid : after.saved sec.ssidParam = some ssid
  typed (_ : password ≠ .empty) : after.saved sec.passwordParam = some password
  blank (_ : password = .empty) (stored : CString)
    (_ : before.saved sec.passwordParam = some stored) :
    after.saved sec.passwordParam = some stored

/-! ## What a submission stores -/

/-- A field of positional text stays positional in its buffer. -/
theorem fieldBuffer_positional {value raw : CString} (sent : Encodes value.bytes raw.bytes)
    (positional : Positional value) : Positional (fieldBuffer value raw) := by
  unfold fieldBuffer
  split
  · exact positional
  · intro dash
    rw [CString.take_bytes, List.head?_take, if_neg (by decide)] at dash
    rcases sent.head dash with first | isPlus | isPercent
    · exact positional first
    · exact absurd isPlus (by decide)
    · exact absurd isPercent (by decide)

/-- Only a blank field leaves its buffer empty. -/
theorem fieldBuffer_eq_empty_iff {value raw : CString} (sent : Encodes value.bytes raw.bytes) :
    fieldBuffer value raw = .empty ↔ value = .empty := by
  unfold fieldBuffer
  split
  · exact Iff.rfl
  · rename_i long
    have sentSome : raw.bytes ≠ [] := by
      intro nothing
      rw [CString.length, nothing] at long
      exact long (by decide)
    constructor
    · intro nothing
      have bytes := congrArg CString.bytes nothing
      rw [CString.take_bytes] at bytes
      exact absurd ((List.take_eq_nil_iff.mp bytes).resolve_left (by decide)) sentSome
    · rintro rfl
      exact absurd sent.eq_nil sentSome

theorem typedOrStored_positional {typed stored : CString} (typedPositional : Positional typed)
    (storedPositional : typed = .empty → Positional stored) :
    Positional (typedOrStored typed stored) := by
  unfold typedOrStored
  split
  · rename_i blank
    intro dash
    rw [CString.take_bytes, List.head?_take, if_neg (by decide)] at dash
    exact storedPositional blank dash
  · exact typedPositional

/-- The stored password is read back, or is empty if there is none. -/
theorem loadConfigStringOrDefault_of_working {p : Platform} {key : ParamKey} {nvs : Params}
    (working : nvs.results = []) (defaultValue : CString) :
    loadConfigStringOrDefault p key defaultValue nvs =
      ((nvs.saved key).getD defaultValue, nvs) := by
  unfold loadConfigStringOrDefault
  rw [getConfigParamStr_of_working working]

/-- The action of a section fits its buffer in every encoding. -/
theorem getFormValue_action {p : Platform} {body rawAction : CString} (sec : WifiSection)
    (sent : Encodes sec.action.bytes rawAction.bytes)
    (carried : Carries p body .action rawAction) :
    getFormValue p body .action actionSize = (true, sec.action) := by
  have short : rawAction.length < actionSize := by
    have bound := sent.length_le_three_mul
    have size : 3 * sec.action.bytes.length < actionSize := by
      cases sec with
      | ap => decide
      | sta => decide
    exact Nat.lt_of_le_of_lt bound size
  unfold getFormValue
  rw [carried, if_pos short]
  exact congrArg (Prod.mk true) (preprocessString_of_encodes sent)

@[simp] theorem finish_nvs (saved : Err × Params) : (finish saved).nvs = saved.2 := by
  unfold finish
  split
  · rfl
  · rfl

section Submitted

variable {p : Platform} {body ssid rawSsid password rawPassword : CString} {sec : WifiSection}
  {nvs : Params}

/-- The password that a submission passes to the command. -/
def passwordArg (sec : WifiSection) (password rawPassword : CString) (nvs : Params) : CString :=
  typedOrStored (fieldBuffer password rawPassword)
    ((nvs.saved sec.passwordParam).getD .empty)

/-- A submission reaches the branch of its section. -/
theorem adminConfigPostHandler_submitted
    (submitted : Submission p body sec ssid rawSsid password rawPassword) :
    adminConfigPostHandler p ⟨true, some body⟩ nvs = finish (sec.save p body nvs) := by
  obtain ⟨rawAction, actionSent, action⟩ := submitted.action
  unfold adminConfigPostHandler
  simp only [getFormValue_action sec actionSent action, not_true_eq_false, if_false]
  cases sec with
  | ap => rfl
  | sta => rfl

theorem saveAp_of_working {ssid typed : CString} (working : nvs.results = [])
    (ssidField : (getFormValue p body .apSsid credentialSize).2 = ssid)
    (passwordField : (getFormValue p body .apPassword credentialSize).2 = typed)
    {args : SetApArgs}
    (parsed : p.tables.setAp
      [setApName, ssid, typedOrStored typed ((nvs.saved .apPasswd).getD .empty)] = some args) :
    saveAp p body nvs =
      nvs.saveAll [
        (.apSsid, preprocessString args.ssid),
        (.apPasswd, preprocessString args.password)] := by
  unfold saveAp setAp
  simp only [loadConfigStringOrDefault_of_working working, ssidField, passwordField, parsed]

theorem saveSta_of_working {ssid typed : CString} (working : nvs.results = [])
    (ssidField : (getFormValue p body .ssid credentialSize).2 = ssid)
    (passwordField : (getFormValue p body .password credentialSize).2 = typed)
    {args : SetStaArgs}
    (parsed : p.tables.setSta
      ([setStaName, ssid, typedOrStored typed ((nvs.saved .passwd).getD .empty)] ++
        optionalArg usernameFlag (getFormValue p body .entUsername credentialSize).2 ++
        optionalArg identityFlag (getFormValue p body .entIdentity credentialSize).2) =
      some args) :
    saveSta p body nvs =
      nvs.saveAll [
        (.ssid, preprocessString args.ssid),
        (.passwd, preprocessString args.password),
        (.entUsername, args.entUsername.getD .empty),
        (.entIdentity, args.entIdentity.getD .empty)] := by
  unfold saveSta setSta
  simp only [loadConfigStringOrDefault_of_working working, ssidField, passwordField, parsed]

/-- What a submission saves: the SSID and the password, each decoded by the command. -/
theorem save_saved (submitted : Submission p body sec ssid rawSsid password rawPassword)
    (passes : PassesThrough p.tables) (working : nvs.results = [])
    (storedPositional : password = .empty →
      Positional ((nvs.saved sec.passwordParam).getD .empty)) :
    (sec.save p body nvs).2.saved sec.ssidParam =
        some (preprocessString (fieldBuffer ssid rawSsid)) ∧
      (sec.save p body nvs).2.saved sec.passwordParam =
        some (preprocessString (passwordArg sec password rawPassword nvs)) := by
  have ssidPositional := fieldBuffer_positional submitted.ssidSent submitted.ssidPositional
  have passwordPositional : Positional (passwordArg sec password rawPassword nvs) :=
    typedOrStored_positional
      (fieldBuffer_positional submitted.passwordSent submitted.passwordPositional)
      fun blank => storedPositional ((fieldBuffer_eq_empty_iff submitted.passwordSent).mp blank)
  have ssidField := getFormValue_of_carries submitted.ssidCarried submitted.ssidSent
  have passwordField := getFormValue_of_carries submitted.passwordCarried submitted.passwordSent
  cases sec with
  | ap =>
    have parsed := passes.setAp _ _ ssidPositional passwordPositional
    have saved := saveAp_of_working working ssidField passwordField parsed
    change (saveAp p body nvs).2.saved .apSsid = _ ∧ (saveAp p body nvs).2.saved .apPasswd = _
    rw [saved, Store.saveAll_of_working working]
    constructor
    · exact writeAll_of_last nvs.saved [] _ .apSsid _ (by simp)
    · exact writeAll_of_last nvs.saved
        [(.apSsid, preprocessString (fieldBuffer ssid rawSsid))] [] .apPasswd _ (by simp)
  | sta =>
    have parsed := passes.setSta _ _ (getFormValue p body .entUsername credentialSize).2
      (getFormValue p body .entIdentity credentialSize).2 ssidPositional passwordPositional
    have saved := saveSta_of_working working ssidField passwordField parsed
    change (saveSta p body nvs).2.saved .ssid = _ ∧ (saveSta p body nvs).2.saved .passwd = _
    rw [saved, Store.saveAll_of_working working]
    constructor
    · exact writeAll_of_last nvs.saved [] _ .ssid _ (by simp)
    · exact writeAll_of_last nvs.saved
        [(.ssid, preprocessString (fieldBuffer ssid rawSsid))] _ .passwd _ (by simp)

/-- A blank field stores the password again, decoded once more. -/
theorem passwordKept_iff (stored : CString) :
    preprocessString (stored.take (credentialSize - 1)) = stored ↔
      stored.length < credentialSize ∧ Plain stored.bytes := by
  constructor
  · intro kept
    have fits : stored.length ≤ credentialSize - 1 := by
      have lengths := congrArg CString.length kept
      have decoded := decode_length_le (stored.take (credentialSize - 1)).bytes
      have cut := CString.ofBuffer_length_le
        (decode (stored.take (credentialSize - 1)).bytes)
      have taken : (stored.take (credentialSize - 1)).bytes.length ≤ credentialSize - 1 :=
        List.length_take_le _ _
      have same : (preprocessString (stored.take (credentialSize - 1))).bytes.length =
          stored.length := lengths
      unfold preprocessString at same
      omega
    rw [CString.take_of_length_le fits, preprocessString_eq_self_iff] at kept
    exact ⟨Nat.lt_of_le_pred (by decide) fits, kept⟩
  · rintro ⟨fits, plain⟩
    have short : stored.length ≤ credentialSize - 1 := Nat.le_pred_of_lt fits
    rw [CString.take_of_length_le short]
    exact (preprocessString_eq_self_iff stored).mpr plain

/-- The form stores what was typed exactly when the SSID and a password that is typed get
    through both decodings and, if the password is left blank, the stored one fits the buffer
    and has nothing to decode. -/
theorem storedAsTyped_iff
    (submitted : Submission p body sec ssid rawSsid password rawPassword)
    (passes : PassesThrough p.tables) (working : nvs.results = [])
    (storedPositional : password = .empty →
      ∀ stored ∈ nvs.saved sec.passwordParam, Positional stored) :
    StoredAsTyped sec ssid password nvs (adminConfigPostHandler p ⟨true, some body⟩ nvs).nvs ↔
      FieldKept ssid rawSsid ∧
        (password ≠ .empty → FieldKept password rawPassword) ∧
        (password = .empty → ∀ stored ∈ nvs.saved sec.passwordParam,
          stored.length < credentialSize ∧ Plain stored.bytes) := by
  have positional (blank : password = .empty) :
      Positional ((nvs.saved sec.passwordParam).getD .empty) := by
    cases held : nvs.saved sec.passwordParam with
    | none => decide
    | some stored => exact storedPositional blank stored held
  obtain ⟨ssidSaved, passwordSaved⟩ := save_saved submitted passes working positional
  have typedArg (typed : password ≠ .empty) :
      passwordArg sec password rawPassword nvs = fieldBuffer password rawPassword :=
    if_neg fun nothing => typed ((fieldBuffer_eq_empty_iff submitted.passwordSent).mp nothing)
  have blankArg (blank : password = .empty) (stored : CString)
      (held : nvs.saved sec.passwordParam = some stored) :
      passwordArg sec password rawPassword nvs = stored.take (credentialSize - 1) := by
    unfold passwordArg typedOrStored
    rw [if_pos ((fieldBuffer_eq_empty_iff submitted.passwordSent).mpr blank), held]
    rfl
  rw [adminConfigPostHandler_submitted submitted, finish_nvs,
    ← preprocessString_fieldBuffer_iff submitted.ssidSent,
    ← preprocessString_fieldBuffer_iff submitted.passwordSent]
  constructor
  · intro kept
    refine ⟨Option.some.inj (ssidSaved.symm.trans kept.ssid), ?_, ?_⟩
    · intro typed
      rw [← typedArg typed]
      exact Option.some.inj (passwordSaved.symm.trans (kept.typed typed))
    · intro blank stored held
      rw [← passwordKept_iff, ← blankArg blank stored held]
      exact Option.some.inj (passwordSaved.symm.trans (kept.blank blank stored held))
  · rintro ⟨ssidKept, typedKept, blankKept⟩
    refine ⟨ssidSaved.trans (congrArg some ssidKept), ?_, ?_⟩
    · intro typed
      rw [passwordSaved, typedArg typed, typedKept typed]
    · intro blank stored held
      rw [passwordSaved, blankArg blank stored held,
        (passwordKept_iff stored).mpr (blankKept blank stored held)]

end Submitted

/-! ## Submissions of the two sections -/

/-- The name of a key in a form body. -/
def FormKey.name : FormKey → List Byte
  | .action => [0x61, 0x63, 0x74, 0x69, 0x6F, 0x6E]
  | .apSsid => [0x61, 0x70, 0x5F, 0x73, 0x73, 0x69, 0x64]
  | .apPassword => [0x61, 0x70, 0x5F, 0x70, 0x61, 0x73, 0x73, 0x77, 0x6F, 0x72, 0x64]
  | .ssid => [0x73, 0x73, 0x69, 0x64]
  | .password => [0x70, 0x61, 0x73, 0x73, 0x77, 0x6F, 0x72, 0x64]
  | .entUsername => [0x65, 0x6E, 0x74, 0x5F, 0x75, 0x73, 0x65, 0x72, 0x6E, 0x61, 0x6D, 0x65]
  | .entIdentity => [0x65, 0x6E, 0x74, 0x5F, 0x69, 0x64, 0x65, 0x6E, 0x74, 0x69, 0x74, 0x79]
  | .staticip => [0x73, 0x74, 0x61, 0x74, 0x69, 0x63, 0x69, 0x70]
  | .subnetmask => [0x73, 0x75, 0x62, 0x6E, 0x65, 0x74, 0x6D, 0x61, 0x73, 0x6B]
  | .gateway => [0x67, 0x61, 0x74, 0x65, 0x77, 0x61, 0x79]

/-- The raw value of the first field with a key, in a body of fields `name=value` with `&`
    between them. -/
def rawValue (body : CString) (key : FormKey) : Option CString :=
  (body.bytes.splitOn 0x26).findSome? fun field =>
    if key.name ++ [0x3D] <+: field then
      some (CString.ofBuffer (field.drop (key.name.length + 1)))
    else none

/-- Argument tables that take the arguments of the handler as they are. -/
def someTables : ArgTables where
  setAp
    | [_, ssid, password] => some ⟨ssid, password⟩
    | _ => none
  setSta
    | [_, ssid, password] => some ⟨ssid, password, none, none⟩
    | [_, ssid, password, flag, value] =>
      if flag = usernameFlag then some ⟨ssid, password, some value, none⟩
      else some ⟨ssid, password, none, some value⟩
    | [_, ssid, password, _, username, _, identity] =>
      some ⟨ssid, password, some username, some identity⟩
    | _ => none
  setStaStatic
    | [_, staticIp, subnetMask, gatewayAddr] => some ⟨staticIp, subnetMask, gatewayAddr⟩
    | _ => none

theorem someTables_passesThrough : PassesThrough someTables where
  setAp _ _ _ _ := rfl
  setSta ssid password username identity _ _ := by
    unfold optionalArg givenArg
    split
    · split
      · rfl
      · rfl
    · split
      · rfl
      · rfl

/-- A platform that reads the fields of a body. -/
def somePlatform : Platform where
  queryKeyValue body key outLen :=
    match rawValue body key with
    | none => .failed
    | some raw =>
      if raw.length < outLen then .found raw else .truncated (raw.take (outLen - 1))
  tables := someTables
  uninitialised := .empty

theorem somePlatform_carries {body raw : CString} {key : FormKey}
    (there : rawValue body key = some raw) : Carries somePlatform body key raw := by
  intro outLen
  change (match rawValue body key with
    | none => _
    | some raw => _) = _
  rw [there]

/-- NVS with nothing in it. -/
def blankNvs : Params where
  saved _ := none
  unsaved := []
  results := []

/-- `"solar"`. -/
def solar : CString where
  bytes := [0x73, 0x6F, 0x6C, 0x61, 0x72]

/-- `"sun"`. -/
def sun : CString where
  bytes := [0x73, 0x75, 0x6E]

/-- `"solar@sun"`. -/
def solarAtSun : CString where
  bytes := solar.bytes ++ 0x40 :: sun.bytes

/-- `"solar+sun"`. -/
def solarPlusSun : CString where
  bytes := solar.bytes ++ plus :: sun.bytes

/-- `"solar sun"`. -/
def solarSpaceSun : CString where
  bytes := solar.bytes ++ space :: sun.bytes

/-- `"solar%40sun"`, an encoding of `"solar@sun"`. -/
def rawSolarAtSun : CString where
  bytes := solar.bytes ++ percent :: 0x34 :: 0x30 :: sun.bytes

/-- `"solar%2Bsun"`, an encoding of `"solar+sun"`. -/
def rawSolarPlusSun : CString where
  bytes := solar.bytes ++ percent :: 0x32 :: 0x42 :: sun.bytes

/-- The body that submits the SSID `"solar"` and a password sent as `rawPassword`. -/
def solarBody (sec : WifiSection) (rawPassword : CString) : CString :=
  CString.ofBuffer
    (FormKey.action.name ++ 0x3D :: sec.action.bytes ++ 0x26 ::
      sec.ssidKey.name ++ 0x3D :: solar.bytes ++ 0x26 ::
      sec.passwordKey.name ++ 0x3D :: rawPassword.bytes)

theorem escape_encodes {high low h l : Byte} (highDigit : hexDigit? high = some h)
    (lowDigit : hexDigit? low = some l) :
    Encodes (solar.bytes ++ (16 * h + l) :: sun.bytes)
      (solar.bytes ++ percent :: high :: low :: sun.bytes) :=
  Encodes.append (.literals (by decide) (by decide))
    (.escape highDigit lowDigit (.literals (by decide) (by decide)))

theorem rawSolarAtSun_encodes : Encodes solarAtSun.bytes rawSolarAtSun.bytes :=
  escape_encodes (h := 4) (l := 0) rfl rfl

theorem rawSolarPlusSun_encodes : Encodes solarPlusSun.bytes rawSolarPlusSun.bytes :=
  escape_encodes (h := 2) (l := 11) rfl rfl

/-- `solar@sun` in the uplink section, its `@` escaped, is stored as typed. -/
theorem storedAsTyped_iff_escaped :
    StoredAsTyped .sta solar solarAtSun blankNvs
      (adminConfigPostHandler somePlatform ⟨true, some (solarBody .sta rawSolarAtSun)⟩
        blankNvs).nvs := by
  have submitted : Submission somePlatform (solarBody .sta rawSolarAtSun) .sta
      solar solar solarAtSun rawSolarAtSun := {
    action := ⟨saveStaAction, .literals (by decide) (by decide),
      somePlatform_carries (by decide +kernel)⟩
    ssidCarried := somePlatform_carries (by decide +kernel)
    ssidSent := .literals (by decide) (by decide)
    ssidPositional := by decide
    passwordCarried := somePlatform_carries (by decide +kernel)
    passwordSent := rawSolarAtSun_encodes
    passwordPositional := by decide }
  apply (storedAsTyped_iff submitted someTables_passesThrough rfl (by simp [blankNvs])).mpr
  refine ⟨Or.inl (by decide), fun _ => Or.inl (by decide), ?_⟩
  intro blank
  exact absurd blank (by decide)

/-- `solar+sun` in the access point section, its `+` escaped, is stored as `solar sun`. -/
theorem plus_stored_as_space :
    Submission somePlatform (solarBody .ap rawSolarPlusSun) .ap
        solar solar solarPlusSun rawSolarPlusSun ∧
      PassesThrough somePlatform.tables ∧ blankNvs.results = [] ∧
      ¬StoredAsTyped .ap solar solarPlusSun blankNvs
        (adminConfigPostHandler somePlatform ⟨true, some (solarBody .ap rawSolarPlusSun)⟩
          blankNvs).nvs := by
  refine ⟨?_, someTables_passesThrough, rfl, ?_⟩
  · exact {
      action := ⟨saveApAction, .literals (by decide) (by decide),
        somePlatform_carries (by decide +kernel)⟩
      ssidCarried := somePlatform_carries (by decide +kernel)
      ssidSent := .literals (by decide) (by decide)
      ssidPositional := by decide
      passwordCarried := somePlatform_carries (by decide +kernel)
      passwordSent := rawSolarPlusSun_encodes
      passwordPositional := by decide }
  · intro stored
    have saved := stored.typed (by decide)
    have decodedTwice :
        (adminConfigPostHandler somePlatform ⟨true, some (solarBody .ap rawSolarPlusSun)⟩
          blankNvs).nvs.saved .apPasswd = some solarSpaceSun := by
      decide +kernel
    exact absurd (decodedTwice.symm.trans saved) (by decide)

end SolarConnect.Config
