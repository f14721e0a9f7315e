import SolarConnect.Misc.FormFields
import SolarConnect.Http.HtmlEscape
import SolarConnect.Config.Boot

/-!
# The configuration page

The page that `start_webserver` prints once, from the settings of the boot. The names in it are
escaped and the room for it counts them, so their `value` attributes stand for the stored bytes;
the addresses are neither escaped nor counted, and long ones cut the page off.
-/

namespace SolarConnect.Http.ConfigPage

open Bytes FlatJson CText CharRefs FormFields Nvs Config Logged
open Config.Boot hiding Params

/-! ## `CONFIG_PAGE` of `pages.h`, in front of the `name=` of each field -/

def front0 : List Byte :=
  ascii "<html><head></head><meta name='viewport' content='width=device-width, " ++
  ascii "initial-scale=1'><style>body \x7bfont-family: apercu-pro, -apple-system, system-ui, " ++
  ascii "BlinkMacSystemFont, 'Helvetica Neue', sans-serif;padding: 1em;line-height: 2em;" ++
  ascii "font-weight: 100;\x7dtd \x7bfont-weight: 100;min-height: 24px;\x7dtd:first-child " ++
  ascii "\x7b text-align: right;min-width: 100px;padding-right: 10px;\x7dh1 \x7bfont-size: " ++
  ascii "1.5em;font-weight: 200;\x7dh2 \x7bfont-size: 1.2em;font-weight: 200;margin-left: " ++
  ascii "5px;\x7dinput \x7bborder: 1px solid rgb(196, 196, 196);color: rgb(76, 76, 76);" ++
  ascii "width: 240px;border-radius: 3px;height: 40px;margin: 3px 0px;padding: 0px 14px;" ++
  ascii "\x7dinput:focus \x7bborder:1px solid black;outline: none !important;box-shadow: 0 0 " ++
  ascii "10px #719ECE;\x7d#config \x7bwidth:400px; margin:0 auto;\x7d.ok-button " ++
  ascii "\x7bbackground-color: #0078e7;color: #fff;\x7d.red-button \x7bbackground-color: " ++
  ascii "#e72e00;color: #fff;\x7d</style><body><div id='config'>" ++
  ascii "<h1>ESP32 NAT Router Config</h1><h2>AP Settings (the new network)</h2>" ++
  ascii "<form action='/config' method='POST' autocomplete='off'>" ++
  ascii "<input type='hidden' name='action' value='save_ap'/><table><tr><td>SSID</td><td>" ++
  ascii "<input type='text' "

def front1 : List Byte :=
  ascii "' placeholder='SSID of the new network'/></td></tr><tr><td>Password</td><td>" ++
  ascii "<input type='password' name='ap_password' value='' placeholder='Leave blank to keep " ++
  ascii "current password' autocomplete='new-password'/></td></tr><tr><td></td><td>" ++
  ascii "<input type='submit' value='Set' class='ok-button'/></td></tr></table><small>" ++
  ascii "<i>Password </i>less than 8 chars = open. Leave blank to keep the stored " ++
  ascii "password.<br /></small></form><h2>STA Settings (uplink WiFi network)</h2>" ++
  ascii "<form action='/config' method='POST' autocomplete='off'>" ++
  ascii "<input type='hidden' name='action' value='save_sta'/><table><tr><td>SSID</td><td>" ++
  ascii "<input type='text' "

def front2 : List Byte :=
  ascii "' placeholder='SSID of existing network'/></td></tr><tr><td>Password</td><td>" ++
  ascii "<input type='password' name='password' value='' placeholder='Leave blank to keep " ++
  ascii "current password' autocomplete='new-password'/></td></tr><tr>" ++
  ascii "<td colspan='2'>WPA2 Enterprise settings. Leave blank for regular</td></tr><tr>" ++
  ascii "<td>Enterprise username</td><td><input type='text' "

def front3 : List Byte :=
  ascii "' placeholder='WPA2 Enterprise username'/></td></tr><tr>" ++
  ascii "<td>Enterprise identity</td><td><input type='text' "

def front4 : List Byte :=
  ascii "' placeholder='WPA2 Enterprise identity'/></td></tr><tr><td></td><td>" ++
  ascii "<input type='submit' value='Connect' class='ok-button'/></td></tr></table></form>" ++
  ascii "<h2>STA Static IP Settings</h2><form action='/config' method='POST'>" ++
  ascii "<input type='hidden' name='action' value='save_static'/><table><tr>" ++
  ascii "<td>Static IP</td><td><input type='text' "

def front5 : List Byte :=
  ascii "'/></td></tr><tr><td>Subnet Mask</td><td><input type='text' "

def front6 : List Byte :=
  ascii "'/></td></tr><tr><td>Gateway</td><td><input type='text' "

def pageEnd : List Byte :=
  ascii "'/></td></tr><tr><td></td><td>" ++
  ascii "<input type='submit' value='Connect' class='ok-button'/></td></tr></table><small>" ++
  ascii "<i>Leave it in blank if you want your ESP32 to get an IP using DHCP</i></small>" ++
  ascii "</form><h2>Device Management</h2><form action='/config' method='POST'>" ++
  ascii "<input type='hidden' name='action' value='reboot'/><table><tr><td>Device</td><td>" ++
  ascii "<input type='submit' value='Reboot' class='red-button'/></td></tr></table></form>" ++
  ascii "</div></body></html>"

/-! ## `start_webserver` -/

/-- The fields of the page, with what `snprintf` puts for each `%s`. -/
def fields (malloc : (n : Nat) → Vector Byte n) (p : Boot.Params) : List Field :=
  [⟨front0, ascii "ap_ssid", (escapedString malloc p.apSsid).bytes⟩,
    ⟨front1, ascii "ssid", (escapedString malloc p.ssid).bytes⟩,
    ⟨front2, ascii "ent_username", (escapedString malloc p.entUsername).bytes⟩,
    ⟨front3, ascii "ent_identity", (escapedString malloc p.entIdentity).bytes⟩,
    ⟨front4, ascii "staticip", p.staticIp.bytes⟩,
    ⟨front5, ascii "subnetmask", p.subnetMask.bytes⟩,
    ⟨front6, ascii "gateway", p.gatewayAddr.bytes⟩]

/-- `strlen(CONFIG_PAGE)`: its markup, and a `%s` for each of the seven fields. -/
def templateLen (malloc : (n : Nat) → Vector Byte n) (p : Boot.Params) : Nat :=
  markup (fields malloc p) + 2 * 7 + pageEnd.length

/-- `page_len`. -/
def pageLen (malloc : (n : Nat) → Vector Byte n) (p : Boot.Params) : Nat :=
  templateLen malloc p + (escapedString malloc p.apSsid).length +
    (escapedString malloc p.ssid).length + (escapedString malloc p.entUsername).length +
    (escapedString malloc p.entIdentity).length + 256

/-- `CONFIG_PAGE` with all its values. -/
def wholePage (malloc : (n : Nat) → Vector Byte n) (p : Boot.Params) : List Byte :=
  render (fields malloc p) pageEnd

/-- `config_page` (`http_server.c:2141-2153`), which `admin_config_get_handler` sends. -/
def configPage (malloc : (n : Nat) → Vector Byte n) (p : Boot.Params) : List Byte :=
  snprintf (pageLen malloc p) (wholePage malloc p)

/-! ## The markup -/

/-- The names of the fields. -/
def names : List (List Byte) :=
  ["ap_ssid", "ssid", "ent_username", "ent_identity", "staticip", "subnetmask", "gateway"].map ascii

def fronts : List (List Byte) :=
  [front0, front1, front2, front3, front4, front5, front6]

theorem apart_fronts : ∀ front ∈ fronts, ∀ name ∈ names, apart (opening name) front = true := by
  have front0 : ∀ name ∈ names, apart (opening name) front0 = true := by
    rw [front0]
    repeat rw [ascii_ofList]
    decide +kernel
  have front1 : ∀ name ∈ names, apart (opening name) front1 = true := by
    rw [front1]
    repeat rw [ascii_ofList]
    decide +kernel
  have front2 : ∀ name ∈ names, apart (opening name) front2 = true := by
    rw [front2]
    repeat rw [ascii_ofList]
    decide +kernel
  have front3 : ∀ name ∈ names, apart (opening name) front3 = true := by
    rw [front3]
    repeat rw [ascii_ofList]
    decide +kernel
  have front4 : ∀ name ∈ names, apart (opening name) front4 = true := by
    rw [front4]
    repeat rw [ascii_ofList]
    decide +kernel
  have front5 : ∀ name ∈ names, apart (opening name) front5 = true := by
    rw [front5]
    repeat rw [ascii_ofList]
    decide +kernel
  have front6 : ∀ name ∈ names, apart (opening name) front6 = true := by
    rw [front6]
    repeat rw [ascii_ofList]
    decide +kernel
  simp only [fronts, List.forall_mem_cons]
  exact ⟨front0, front1, front2, front3, front4, front5, front6, List.forall_mem_nil _⟩

theorem apart_tags :
    ∀ name ∈ names, ∀ other ∈ names,
      name = other ∨ apart (opening name) (opening other) = true := by
  decide +kernel

/-- The end of a tag. -/
def EndsTag (text : List Byte) : Prop :=
  ∃ c more, text = apostrophe :: c :: more ∧ c ∈ [(0x20 : Byte), 0x2F]

theorem EndsTag.append {text : List Byte} (ends : EndsTag text) (rest : List Byte) :
    EndsTag (text ++ rest) := by
  obtain ⟨c, more, rfl, known⟩ := ends
  exact ⟨c, more ++ rest, rfl, known⟩

theorem EndsTag.closes {text name : List Byte} (ends : EndsTag text) (known : name ∈ names) :
    Closes name text := by
  have heads : ∀ name ∈ names, ∀ c ∈ [(0x20 : Byte), 0x2F], name.head? ≠ some c := by
    decide +kernel
  obtain ⟨c, more, rfl, blank⟩ := ends
  exact ⟨c, more, rfl, heads name known c blank⟩

theorem endsTag_front1 : EndsTag front1 := by
  rw [front1]
  repeat rw [ascii_ofList]
  exact ⟨0x20, _, rfl, by decide⟩

theorem endsTag_front2 : EndsTag front2 := by
  rw [front2]
  repeat rw [ascii_ofList]
  exact ⟨0x20, _, rfl, by decide⟩

theorem endsTag_front3 : EndsTag front3 := by
  rw [front3]
  repeat rw [ascii_ofList]
  exact ⟨0x20, _, rfl, by decide⟩

theorem endsTag_front4 : EndsTag front4 := by
  rw [front4]
  repeat rw [ascii_ofList]
  exact ⟨0x20, _, rfl, by decide⟩

theorem endsTag_front5 : EndsTag front5 := by
  rw [front5]
  repeat rw [ascii_ofList]
  exact ⟨0x2F, _, rfl, by decide⟩

theorem endsTag_front6 : EndsTag front6 := by
  rw [front6]
  repeat rw [ascii_ofList]
  exact ⟨0x2F, _, rfl, by decide⟩

theorem endsTag_pageEnd : EndsTag pageEnd := by
  rw [pageEnd]
  repeat rw [ascii_ofList]
  exact ⟨0x2F, _, rfl, by decide⟩

/-! ## The fields of the page -/

section

variable (malloc : (n : Nat) → Vector Byte n) (p : Boot.Params)

theorem fields_names : (fields malloc p).map Field.name = names :=
  rfl

theorem fields_fronts : (fields malloc p).map Field.front = fronts := by
  simp only [fields, fronts, List.map_cons, List.map_nil]

theorem names_nodup : names.Nodup := by
  decide +kernel

theorem endsTag_render {fs : List Field} {rest : List Byte} (ends : EndsTag rest)
    (tags : ∀ f ∈ fs, EndsTag f.front) : EndsTag (render fs rest) := by
  cases fs with
  | nil => exact ends
  | cons f fs =>
    rw [render]
    exact (tags f List.mem_cons_self).append _

/-- Fields behind the first one, in front of the end of a tag. -/
theorem closed_of_endsTag {name : List Byte} (known : name ∈ names) {fs : List Field}
    {rest : List Byte} (ends : EndsTag rest) (tags : ∀ f ∈ fs, EndsTag f.front) :
    Closed name fs rest := by
  induction fs with
  | nil => trivial
  | cons f fs ih =>
    obtain ⟨-, tags⟩ := List.forall_mem_cons.mp tags
    exact ⟨(endsTag_render ends tags).closes known, ih tags⟩

/-- The fields behind the first one start with the end of a tag. -/
theorem endsTag_fields : ∀ f ∈ (fields malloc p).tail, EndsTag f.front := by
  simp only [fields, List.tail_cons, List.forall_mem_cons]
  exact ⟨endsTag_front1, endsTag_front2, endsTag_front3, endsTag_front4, endsTag_front5,
    endsTag_front6, List.forall_mem_nil _⟩

/-- A field of the page, or of a part of it, is read back. -/
theorem fieldValue_fields {n : Nat} {rest : List Byte} (ends : EndsTag rest)
    (quoted : ∀ f ∈ (fields malloc p).take n, apostrophe ∉ f.value) (before : List Field)
    {f : Field} {after : List Field} (split : (fields malloc p).take n = before ++ f :: after) :
    fieldValue f.name (render ((fields malloc p).take n) rest) = some (replaceRefs f.value) := by
  have inside : ∀ g ∈ before ++ f :: after, g ∈ fields malloc p := by
    intro g member
    rw [← split] at member
    exact List.mem_of_mem_take member
  have known : ∀ g ∈ before ++ f :: after, g.name ∈ names ∧ g.front ∈ fronts := by
    intro g member
    rw [← fields_names malloc p, ← fields_fronts malloc p]
    exact ⟨List.mem_map_of_mem (inside g member), List.mem_map_of_mem (inside g member)⟩
  have own := known f (by simp)
  have distinct : ∀ g ∈ before, g.name ≠ f.name := by
    have nodup : ((before ++ f :: after).map Field.name).Nodup := by
      rw [← split, List.map_take, fields_names]
      exact names_nodup.sublist (List.take_sublist _ _)
    rw [List.map_append, List.map_cons, List.nodup_append] at nodup
    intro g member
    exact nodup.2.2 g.name (List.mem_map_of_mem member) f.name List.mem_cons_self
  have given : f.name ≠ [] := by
    have some : ∀ name ∈ names, name ≠ [] := by decide +kernel
    exact some _ own.1
  have closed : Closed f.name (before ++ f :: after) rest := by
    rw [← split]
    cases n with
    | zero => trivial
    | succ n =>
      have tags : ∀ g ∈ ((fields malloc p).tail).take n, EndsTag g.front :=
        fun g member => endsTag_fields malloc p g (List.mem_of_mem_take member)
      exact ⟨(endsTag_render ends tags).closes own.1, closed_of_endsTag own.1 ends tags⟩
  have clear : ∀ g ∈ before, Clear f.name g := by
    intro g member
    obtain ⟨name, front⟩ := known g (List.mem_append_left _ member)
    refine ⟨apart_fronts _ front _ own.1, ?_, quoted g ?_⟩
    · exact (apart_tags _ own.1 _ name).resolve_left (Ne.symm (distinct g member))
    · rw [split]
      exact List.mem_append_left _ member
  rw [split]
  exact fieldValue_render given clear closed rfl (apart_fronts _ own.2 _ own.1)
    (quoted f (by rw [split]; simp))

/-! ## What is cut off -/

theorem EndsTag.take {text : List Byte} (ends : EndsTag text) {n : Nat} (two : 2 ≤ n) :
    EndsTag (text.take n) := by
  obtain ⟨c, more, rfl, known⟩ := ends
  obtain ⟨n, rfl⟩ := Nat.exists_eq_add_of_le' two
  exact ⟨c, more.take n, rfl, known⟩

/-- The bytes of the names, as they are written. -/
theorem names_length :
    (((fields malloc p).take 4).map fun f => f.value.length).sum =
      (escapedString malloc p.apSsid).length + (escapedString malloc p.ssid).length +
        (escapedString malloc p.entUsername).length +
        (escapedString malloc p.entIdentity).length := by
  simp only [fields, List.take_succ_cons, List.take_zero, List.map_cons, List.map_nil,
    List.sum_cons, List.sum_nil, CString.length]
  omega

theorem wholePage_length :
    (wholePage malloc p).length + 270 =
      pageLen malloc p + (p.staticIp.length + p.subnetMask.length + p.gatewayAddr.length) := by
  have values : ((fields malloc p).map fun f => f.value.length).sum =
      (((fields malloc p).take 4).map fun f => f.value.length).sum +
        (p.staticIp.length + p.subnetMask.length + p.gatewayAddr.length) := by
    simp only [fields, List.take_succ_cons, List.take_zero, List.map_cons, List.map_nil,
      List.sum_cons, List.sum_nil, CString.length]
    omega
  rw [wholePage, render_length, values, names_length, pageLen, templateLen]
  omega

/-- The page is whole exactly if the addresses have at most 269 bytes. -/
theorem configPage_whole_iff :
    configPage malloc p = wholePage malloc p ↔
      p.staticIp.length + p.subnetMask.length + p.gatewayAddr.length ≤ 269 := by
  have length := wholePage_length malloc p
  rw [configPage, snprintf, List.take_eq_self_iff]
  have room : 256 ≤ pageLen malloc p := Nat.le_add_left _ _
  omega

/-- The names are never cut off. -/
theorem configPage_names :
    ∃ rest, EndsTag rest ∧ configPage malloc p = render ((fields malloc p).take 4) rest := by
  have tags : EndsTag (render ((fields malloc p).drop 4) pageEnd) := by
    refine endsTag_render endsTag_pageEnd fun f member => endsTag_fields malloc p f ?_
    rw [← List.drop_one]
    exact List.mem_of_mem_drop (i := 3) (by rwa [List.drop_drop])
  have whole : wholePage malloc p =
      render ((fields malloc p).take 4) [] ++ render ((fields malloc p).drop 4) pageEnd := by
    rw [wholePage, ← render_eq, ← render_append, List.take_append_drop]
  have part : markup ((fields malloc p).take 4) ≤ markup (fields malloc p) := by
    have parts := markup_append ((fields malloc p).take 4) ((fields malloc p).drop 4)
    rw [List.take_append_drop] at parts
    omega
  have room : (render ((fields malloc p).take 4) []).length + 2 ≤ pageLen malloc p - 1 := by
    rw [render_length, names_length, pageLen, templateLen, List.length_nil]
    omega
  have cut := snprintf_append ((Nat.le_add_right _ 2).trans room)
    (render ((fields malloc p).drop 4) pageEnd)
  rw [← whole, ← render_eq] at cut
  exact ⟨_, tags.take (Nat.le_sub_of_add_le' room), cut⟩

theorem quoted_names : ∀ f ∈ (fields malloc p).take 4, apostrophe ∉ f.value := by
  have escaped : ∀ s : CString, apostrophe ∉ (escapedString malloc s).bytes := by
    intro s
    rw [escapedString_bytes]
    exact not_mem_escape s.bytes (Or.inr (Or.inl rfl))
  simp only [fields, List.take_succ_cons, List.take_zero, List.forall_mem_cons]
  exact ⟨escaped _, escaped _, escaped _, escaped _, List.forall_mem_nil _⟩

theorem replaceRefs_escaped (s : CString) :
    replaceRefs (escapedString malloc s).bytes = s.bytes := by
  rw [escapedString_bytes]
  exact replaceRefs_escape (by decide) two_digits s.bytes

/-- On the page of every boot the `value` attributes of the names, their character references
    replaced, are the names as they were stored, whatever bytes are in them and however long the
    addresses are. The page is whole exactly if the addresses have at most 269 bytes in all. -/
theorem config_page_fields :
    fieldValue (ascii "ap_ssid") (configPage malloc p) = some p.apSsid.bytes ∧
      fieldValue (ascii "ssid") (configPage malloc p) = some p.ssid.bytes ∧
      fieldValue (ascii "ent_username") (configPage malloc p) = some p.entUsername.bytes ∧
      fieldValue (ascii "ent_identity") (configPage malloc p) = some p.entIdentity.bytes ∧
      (configPage malloc p = wholePage malloc p ↔
        p.staticIp.length + p.subnetMask.length + p.gatewayAddr.length ≤ 269) := by
  obtain ⟨rest, ends, page⟩ := configPage_names malloc p
  have names : (fields malloc p).take 4 =
      [⟨front0, ascii "ap_ssid", (escapedString malloc p.apSsid).bytes⟩,
        ⟨front1, ascii "ssid", (escapedString malloc p.ssid).bytes⟩,
        ⟨front2, ascii "ent_username", (escapedString malloc p.entUsername).bytes⟩,
        ⟨front3, ascii "ent_identity", (escapedString malloc p.entIdentity).bytes⟩] := by
    simp only [fields, List.take_succ_cons, List.take_zero]
  have read := fieldValue_fields malloc p ends (quoted_names malloc p)
  rw [configPage_whole_iff, page]
  refine ⟨(read [] names).trans ?_, (read [_] names).trans ?_, (read [_, _] names).trans ?_,
    (read [_, _, _] names).trans ?_, Iff.rfl⟩ <;>
  exact congrArg some (replaceRefs_escaped malloc _)

/-! ## The page of a boot -/

/-- The settings that stand escaped on the page, with the names of their fields. -/
def shown : List (List Byte × ParamKey) :=
  [(ascii "ap_ssid", .apSsid), (ascii "ssid", .ssid), (ascii "ent_username", .entUsername),
    (ascii "ent_identity", .entIdentity)]

/-- However often the power was lost, as long as NVS works: the `value` attributes on the page of
    a boot, their references replaced, are what the last call of `set_ap` or `set_sta`
    configured, byte for byte. -/
theorem names_shown_after_reboot (tables : CommandTables) (garbage : Garbage)
    (saved : SettingKey → Option SettingValue) {before later : List Event} {c : Command}
    {argv : List CString} {settings : List Setting}
    (works : ∀ e ∈ before ++ .command c argv :: later, e.Works)
    (parsed : c.settings tables argv = some settings)
    (last : ∀ argv', .command c argv' ∈ later → c.settings tables argv' = none) :
    ∀ kept, ∀ field ∈ shown, ∀ value, Setting.param field.2 value ∈ settings →
      fieldValue field.1 (configPage malloc (boot garbage kept []
        (after tables garbage (shipped saved) (before ++ .command c argv :: later)))) =
          some value.bytes := by
  intro kept field known value member
  have commits : c ≠ .setApIp := by
    rintro rfl
    have key : SettingKey.param field.2 ∈ keys .setApIp := by
      rw [← settings_keys parsed]
      exact List.mem_map_of_mem (List.mem_map_of_mem member)
    simp [keys] at key
  have found := survivor_of_last tables garbage (durable_shipped saved) works commits parsed last
    kept member
  generalize after tables garbage (shipped saved) (before ++ .command c argv :: later) = f at found
  have reads := congrArg Prod.fst
    (readParams_of_working (f.powerLoss kept []).store rfl garbage)
  obtain ⟨apSsid, ssid, entUsername, entIdentity, -⟩ :=
    config_page_fields malloc (boot garbage kept [] f)
  have setting : ∀ default, strAt (f.powerLoss kept []).store.saved (.param field.2) default =
      value := by
    intro default
    change f.survivor kept (.param field.2) = some (.str value) at found
    simp [strAt, Flash.powerLoss, found, SettingValue.str?]
  simp only [shown, List.mem_cons, List.not_mem_nil, or_false] at known
  rcases known with rfl | rfl | rfl | rfl
  · rw [apSsid, boot, reads]
    exact congrArg (some ∘ CString.bytes) (setting _)
  · rw [ssid, boot, reads]
    exact congrArg (some ∘ CString.bytes) (setting _)
  · rw [entUsername, boot, reads]
    exact congrArg (some ∘ CString.bytes) (setting _)
  · rw [entIdentity, boot, reads]
    exact congrArg (some ∘ CString.bytes) (setting _)

/-- A name with a quote: `"O'Neil"`, `"sunlight"`. -/
def quotedArgv : List CString :=
  [.empty, .ofBuffer [0x4F, 0x27, 0x4E, 0x65, 0x69, 0x6C],
    .ofBuffer [0x73, 0x75, 0x6E, 0x6C, 0x69, 0x67, 0x68, 0x74]]

theorem names_shown_after_reboot_quoted :
    fieldValue (ascii "ap_ssid") (configPage (fun n => Vector.replicate n 0)
      (boot ⟨fun _ => .empty, []⟩ (fun _ => some 0) []
        (after twoArgTables ⟨fun _ => .empty, []⟩ (shipped fun _ => none)
          ([] ++ .command .setAp quotedArgv :: thenAddress)))) =
      some [0x4F, 0x27, 0x4E, 0x65, 0x69, 0x6C] := by
  have works : ∀ e ∈ [] ++ .command .setAp quotedArgv :: thenAddress, e.Works := by
    simp [thenAddress, Event.Works]
  have parsed : Command.setAp.settings twoArgTables quotedArgv =
      some (ofParams (setApSettings ⟨quotedArgv[1], quotedArgv[2]⟩)) := rfl
  have value : preprocessString quotedArgv[1] = quotedArgv[1] := by
    decide +kernel
  exact names_shown_after_reboot (fun n => Vector.replicate n 0) twoArgTables
    ⟨fun _ => .empty, []⟩ (fun _ => none) works parsed (by simp [thenAddress]) (fun _ => some 0)
    (ascii "ap_ssid", .apSsid) (by simp [shown]) quotedArgv[1]
    (by simp [ofParams, setApSettings, value])

end

end SolarConnect.Http.ConfigPage
