import SolarConnect.Misc.CText
import SolarConnect.Misc.Nvs
import SolarConnect.Http.RequestBody

/-!
# Test controls

The requests that the test page posts to `/api/ports` and `/api/battery`. Their bodies are JSON,
which the handlers search for the keys they want. A handler posts only rows that the tables of
`001_schema.sql` accept, and for a body that is an object it posts that object's values.
-/

namespace SolarConnect.Http.AdminPorts

open Bytes FlatJson CText Nvs

/-! ## `admin_ports.c` -/

/-- How `json_str_field` and `json_int_field` start: the text behind the colon of the key. -/
def fieldStart (json key : List Byte) : Option (List Byte) := do
  let pattern := quote :: (key ++ [quote])
  guard (pattern.length < 64)
  let p ← strstr pattern json
  let p ← strchr colon (p.drop pattern.length)
  return (p.drop 1).dropWhile fun b => b = 0x20 ∨ b = 0x09

/-- The end of `json_str_field`: the string at `p`, if there is one that `out` has room for. -/
def quoted (outLen : Nat) : List Byte → Option (List Byte)
  | [] => none
  | b :: p =>
    if b ≠ quote then none
    else
      match strchr quote p with
      | none => none
      | some stop =>
        let len := p.length - stop.length
        if outLen ≤ len then none else some (p.take len)

/-- `json_str_field` (`admin_ports.c:167-201`): the string left in `out`, `none` for `false`. -/
def jsonStrField (json key : List Byte) (outLen : Nat) : Option (List Byte) :=
  (fieldStart json key).bind (quoted outLen)

/-- `json_int_field` (`admin_ports.c:203-224`). -/
def jsonIntField (json key : List Byte) : Option Int :=
  (fieldStart json key).map atoi

/-- `is_known_port` (`admin_ports.c:226-233`). -/
def isKnownPort (key : List Byte) : Prop :=
  key = ascii "usb_a_1" ∨ key = ascii "usb_a_2" ∨ key = ascii "usb_c_1" ∨ key = ascii "usb_c_2" ∨
    key = ascii "outlet"

/-- `is_known_status` (`admin_ports.c:235-241`). -/
def isKnownStatus (status : List Byte) : Prop :=
  status = ascii "available" ∨ status = ascii "in_use" ∨ status = ascii "offline" ∨
    status = ascii "fault"

instance (key : List Byte) : Decidable (isKnownPort key) :=
  inferInstanceAs (Decidable (_ ∨ _))

instance (status : List Byte) : Decidable (isKnownStatus status) :=
  inferInstanceAs (Decidable (_ ∨ _))

/-- What a handler did: the upsert it posted, as path and body, and its answer. -/
structure Handled where
  posted : Option (List Byte × List Byte)
  status : List Byte
  body : List Byte

/-- `send_json_err` (`admin_ports.c:484-491`) after the upsert. -/
def sendJsonErr (posted : Option (List Byte × List Byte)) (code msg : List Byte) : Handled :=
  ⟨posted, code, snprintf 128 (ascii "\x7b\"ok\":false,\"error\":\"" ++ (msg ++ ascii "\"\x7d"))⟩

/-- `{"ok":true}`, with the status that is sent by default. -/
def sendOk (posted : Option (List Byte × List Byte)) : Handled :=
  ⟨posted, ascii "200 OK", ascii "\x7b\"ok\":true\x7d"⟩

def badRequest (msg : String) : Handled :=
  sendJsonErr none (ascii "400 Bad Request") (ascii msg)

/-- The end of both handlers. -/
def post (upsert : List Byte → List Byte → Err) (path payload : List Byte) : Handled :=
  if upsert path payload = espOk then sendOk (some (path, payload))
  else sendJsonErr (some (path, payload)) (ascii "502 Bad Gateway") (ascii "supabase post failed")

/-- `api_ports_handler` (`admin_ports.c:660-696`), when `read_body` has returned `received` with
    the body in `buf`, and `supabase_post_upsert` is `upsert`. -/
def apiPortsHandler (upsert : List Byte → List Byte → Err) (received : Int) (buf : List Byte) :
    Handled :=
  let body := (CString.ofBuffer buf).bytes
  if received ≤ 0 then badRequest "body required"
  else
    match jsonStrField body (ascii "port_key") 32, jsonStrField body (ascii "status") 24 with
    | some portKey, some status =>
      if ¬ isKnownPort portKey then badRequest "unknown port_key"
      else if ¬ isKnownStatus status then badRequest "unknown status"
      else
        post upsert (ascii "/rest/v1/port_state?on_conflict=station_id,port_key")
          (snprintf 192 (ascii "\x7b\"station_id\":\"solar-hub-01\",\"port_key\":\"" ++ (portKey ++
            (ascii "\",\"status\":\"" ++ (status ++ ascii "\"\x7d")))))
    | _, _ => badRequest "need port_key and status"

/-- `api_battery_handler` (`admin_ports.c:698-728`). -/
def apiBatteryHandler (upsert : List Byte → List Byte → Err) (received : Int) (buf : List Byte) :
    Handled :=
  let body := (CString.ofBuffer buf).bytes
  if received ≤ 0 then badRequest "body required"
  else
    match jsonIntField body (ascii "battery_percent") with
    | none => badRequest "need battery_percent"
    | some pct =>
      let pct := if pct < 0 then 0 else pct
      let pct := if 100 < pct then 100 else pct
      post upsert (ascii "/rest/v1/station_state?on_conflict=station_id")
        (snprintf 128 (ascii "\x7b\"station_id\":\"solar-hub-01\",\"battery_percent\":" ++
          (decimalInt pct ++ ascii "\x7d")))

/-! ## `001_schema.sql` -/

/-- The ports that `port_state` accepts (`001_schema.sql:82`). -/
def portKeys : List (List Byte) :=
  ["usb_a_1", "usb_a_2", "usb_c_1", "usb_c_2", "outlet"].map ascii

/-- The states it accepts (`001_schema.sql:84`). -/
def portStatuses : List (List Byte) :=
  ["available", "in_use", "fault", "offline"].map ascii

/-- The row of a port. -/
def portRow (portKey status : List Byte) : List Member :=
  [(ascii "station_id", .str (ascii "solar-hub-01")), (ascii "port_key", .str portKey),
    (ascii "status", .str status)]

/-- The row of the station. -/
def stationRow (percent : Int) : List Member :=
  [(ascii "station_id", .str (ascii "solar-hub-01")), (ascii "battery_percent", .int percent)]

/-- The table that is posted to accepts the row. -/
def Accepted (path : List Byte) (row : List Member) : Prop :=
  (path = ascii "/rest/v1/port_state?on_conflict=station_id,port_key" ∧
      ∃ portKey ∈ portKeys, ∃ status ∈ portStatuses, row = portRow portKey status) ∨
    (path = ascii "/rest/v1/station_state?on_conflict=station_id" ∧
      ∃ percent : Int, 0 ≤ percent ∧ percent ≤ 100 ∧ row = stationRow percent)

theorem mem_portKeys (key : List Byte) : key ∈ portKeys ↔ isKnownPort key := by
  simp [portKeys, isKnownPort]

theorem mem_portStatuses (status : List Byte) : status ∈ portStatuses ↔ isKnownStatus status := by
  simp only [portStatuses, isKnownStatus, List.map_cons, List.map_nil, List.mem_cons,
    List.not_mem_nil, or_false]
  rw [or_comm (a := status = ascii "fault")]

/-! ## Every body -/

/-- What is posted is a row that its table accepts, the answer is 200 exactly after an upsert that
    went well, and the object that is sent says so. -/
structure Sound (upsert : List Byte → List Byte → Err) (h : Handled) : Prop where
  rows : ∀ path body, h.posted = some (path, body) →
    ∃ row, readObject body = some row ∧ Accepted path row
  ok : h.status = ascii "200 OK" ↔
    ∃ path body, h.posted = some (path, body) ∧ upsert path body = espOk
  answer : ∃ rest, readObject h.body =
    some ((ascii "ok", .bool (decide (h.status = ascii "200 OK"))) :: rest)

/-- An error message that fits reads back. -/
theorem sendJsonErr_body (posted : Option (List Byte × List Byte)) (code : List Byte)
    {msg : List Byte} (clean : Clean msg) (short : msg.length < 90) :
    readObject (sendJsonErr posted code msg).body =
      some [(ascii "ok", .bool false), (ascii "error", .str msg)] := by
  have printed : ascii "\x7b\"ok\":false,\"error\":\"" ++ (msg ++ ascii "\"\x7d") =
      writeObject [(ascii "ok", .bool false), (ascii "error", .str msg)] := rfl
  have members : CleanMembers [(ascii "ok", Value.bool false), (ascii "error", .str msg)] :=
    cleanMembers_cons (by decide) trivial (cleanMembers_cons (by decide) clean cleanMembers_nil)
  have size : (writeObject [(ascii "ok", Value.bool false), (ascii "error", .str msg)]).length =
      23 + msg.length := by
    rw [writeObject_length (by simp)]
    change 1 + (11 + (5 + (msg.length + 2) + 4 + 0)) = 23 + msg.length
    omega
  rw [sendJsonErr, printed]
  dsimp only
  rw [snprintf_of_fits (by omega), readObject_writeObject members]

theorem sound_badRequest (upsert : List Byte → List Byte → Err) {msg : String}
    (clean : Clean (ascii msg)) (short : (ascii msg).length < 90) :
    Sound upsert (badRequest msg) := by
  have status : (badRequest msg).status ≠ ascii "200 OK" := by
    change ascii "400 Bad Request" ≠ ascii "200 OK"
    decide
  have posted : (badRequest msg).posted = none := rfl
  refine ⟨?_, iff_of_false status ?_, [(ascii "error", .str (ascii msg))], ?_⟩
  · intro path body same
    rw [posted] at same
    cases same
  · rintro ⟨path, body, same, -⟩
    rw [posted] at same
    cases same
  · rw [decide_eq_false status]
    exact sendJsonErr_body none _ clean short

/-- A row that fits its buffer is posted as it is. -/
theorem sound_post (upsert : List Byte → List Byte → Err) {path : List Byte} {row : List Member}
    (clean : CleanMembers row) (accepted : Accepted path row) :
    Sound upsert (post upsert path (writeObject row)) := by
  have read := readObject_writeObject clean
  have posted : (post upsert path (writeObject row)).posted = some (path, writeObject row) := by
    unfold post
    split <;> rfl
  have rows : ∀ path' body, (post upsert path (writeObject row)).posted = some (path', body) →
      ∃ row, readObject body = some row ∧ Accepted path' row := by
    intro path' body same
    rw [posted] at same
    cases same
    exact ⟨row, read, accepted⟩
  by_cases good : upsert path (writeObject row) = espOk
  · have answer : post upsert path (writeObject row) = sendOk (some (path, writeObject row)) :=
      if_pos good
    rw [answer] at rows ⊢
    have told : readObject (writeObject [(ascii "ok", .bool true)]) =
        some [(ascii "ok", .bool true)] :=
      readObject_writeObject (cleanMembers_cons (by decide) trivial cleanMembers_nil)
    exact ⟨rows, iff_of_true rfl ⟨_, _, rfl, good⟩, [], told⟩
  · have answer : post upsert path (writeObject row) =
        sendJsonErr (some (path, writeObject row)) (ascii "502 Bad Gateway")
          (ascii "supabase post failed") := if_neg good
    rw [answer] at rows ⊢
    have status : (sendJsonErr (some (path, writeObject row)) (ascii "502 Bad Gateway")
        (ascii "supabase post failed")).status ≠ ascii "200 OK" := by
      change ascii "502 Bad Gateway" ≠ ascii "200 OK"
      decide
    refine ⟨rows, iff_of_false status ?_,
      [(ascii "error", .str (ascii "supabase post failed"))], ?_⟩
    · rintro ⟨_, _, same, ok⟩
      cases same
      exact good ok
    · rw [decide_eq_false status]
      exact sendJsonErr_body _ _ (by decide) (by decide)

/-- A known port and a known status take little room. -/
theorem port_payload {portKey status : List Byte} (port : isKnownPort portKey)
    (known : isKnownStatus status) :
    snprintf 192 (ascii "\x7b\"station_id\":\"solar-hub-01\",\"port_key\":\"" ++ (portKey ++
      (ascii "\",\"status\":\"" ++ (status ++ ascii "\"\x7d")))) =
        writeObject (portRow portKey status) ∧
      CleanMembers (portRow portKey status) := by
  have keys : ∀ key ∈ portKeys, Clean key ∧ key.length ≤ 7 := by decide
  have states : ∀ status ∈ portStatuses, Clean status ∧ status.length ≤ 9 := by decide
  obtain ⟨cleanPort, shortPort⟩ := keys portKey ((mem_portKeys portKey).mpr port)
  obtain ⟨cleanStatus, shortStatus⟩ := states status ((mem_portStatuses status).mpr known)
  constructor
  · refine (snprintf_of_fits ?_).trans rfl
    simp only [List.length_append]
    have parts : (ascii "\x7b\"station_id\":\"solar-hub-01\",\"port_key\":\"").length = 41 ∧
        (ascii "\",\"status\":\"").length = 12 ∧ (ascii "\"\x7d").length = 2 := by
      decide
    omega
  · have station : Clean (ascii "solar-hub-01") := by decide
    exact cleanMembers_cons (by decide) station (cleanMembers_cons (by decide) cleanPort
      (cleanMembers_cons (by decide) cleanStatus cleanMembers_nil))

theorem battery_payload {percent : Int} (low : 0 ≤ percent) (high : percent ≤ 100) :
    snprintf 128 (ascii "\x7b\"station_id\":\"solar-hub-01\",\"battery_percent\":" ++
      (decimalInt percent ++ ascii "\x7d")) = writeObject (stationRow percent) ∧
      CleanMembers (stationRow percent) := by
  have station : Clean (ascii "solar-hub-01") := by decide
  obtain ⟨n, rfl⟩ := Int.eq_ofNat_of_zero_le low
  have digits : (decimal n).length ≤ 3 := decimal_length_le (by decide) (by omega)
  constructor
  · refine (snprintf_of_fits ?_).trans rfl
    have parts : (ascii "\x7b\"station_id\":\"solar-hub-01\",\"battery_percent\":").length = 47 ∧
        (ascii "\x7d").length = 1 := by
      decide
    change (_ ++ (decimal n ++ _)).length < 128
    simp only [List.length_append]
    omega
  · exact cleanMembers_cons (by decide) station
      (cleanMembers_cons (by decide) trivial cleanMembers_nil)

/-- Whatever a client sends to `/api/ports`. -/
theorem sound_apiPorts (upsert : List Byte → List Byte → Err) (received : Int) (buf : List Byte) :
    Sound upsert (apiPortsHandler upsert received buf) := by
  unfold apiPortsHandler
  dsimp only
  split
  · exact sound_badRequest upsert (by decide) (by decide)
  split
  · rename_i portKey status _ _
    by_cases port : isKnownPort portKey
    swap
    · rw [if_pos port]
      exact sound_badRequest upsert (by decide) (by decide)
    by_cases known : isKnownStatus status
    swap
    · rw [if_neg (not_not.mpr port), if_pos known]
      exact sound_badRequest upsert (by decide) (by decide)
    · rw [if_neg (not_not.mpr port), if_neg (not_not.mpr known)]
      obtain ⟨payload, clean⟩ := port_payload port known
      rw [payload]
      exact sound_post upsert clean (Or.inl ⟨rfl, portKey, (mem_portKeys _).mpr port, status,
        (mem_portStatuses _).mpr known, rfl⟩)
  · exact sound_badRequest upsert (by decide) (by decide)

/-- The bounds of the percentage. -/
theorem clamp_eq (pct : Int) :
    (if 100 < (if pct < 0 then 0 else pct) then 100 else if pct < 0 then 0 else pct) =
      max 0 (min 100 pct) := by
  split_ifs <;> omega

/-- Whatever a client sends to `/api/battery`. -/
theorem sound_apiBattery (upsert : List Byte → List Byte → Err) (received : Int)
    (buf : List Byte) : Sound upsert (apiBatteryHandler upsert received buf) := by
  unfold apiBatteryHandler
  dsimp only
  split
  · exact sound_badRequest upsert (by decide) (by decide)
  split
  · exact sound_badRequest upsert (by decide) (by decide)
  · rename_i pct _
    rw [clamp_eq]
    have low : 0 ≤ max 0 (min 100 pct) := le_max_left _ _
    have high : max 0 (min 100 pct) ≤ 100 := by omega
    obtain ⟨payload, clean⟩ := battery_payload low high
    rw [payload]
    exact sound_post upsert clean (Or.inr ⟨rfl, _, low, high, rfl⟩)

/-! ## Searching an object -/

/-- A key that cannot be taken for what is between two strings. -/
def Word (key : List Byte) : Prop :=
  Clean key ∧ key.head? ∉ [none, some colon, some comma, some rbrace]

instance (key : List Byte) : Decidable (Word key) :=
  inferInstanceAs (Decidable (_ ∧ _))

/-- In front of the first member of that name no value is the name. -/
def Unshadowed (key : List Byte) : List Member → Prop
  | [] => True
  | m :: members => m.1 = key ∨ m.2 ≠ .str key ∧ Unshadowed key members

instance decidableUnshadowed (key : List Byte) :
    ∀ members : List Member, Decidable (Unshadowed key members)
  | [] => isTrue trivial
  | m :: members =>
    have := decidableUnshadowed key members
    inferInstanceAs (Decidable (m.1 = key ∨ m.2 ≠ .str key ∧ Unshadowed key members))

/-- What follows a member. -/
def closing : List Member → List Byte
  | [] => [rbrace]
  | m :: members => comma :: writeMember m (closing members)

theorem quote_not_mem {text : List Byte} (clean : Clean text) : quote ∉ text :=
  fun member => (clean quote member).2.1 rfl

theorem decimalInt_clean (n : Int) : Clean (decimalInt n) := by
  cases n with
  | ofNat n => exact clean_decimal n
  | negSucc n => exact List.forall_mem_cons.mpr ⟨by decide, clean_decimal (n + 1)⟩

section

variable {key : List Byte}

/-- Between two strings the key is not found. -/
theorem Word.not_prefix (word : Word key) {b : Byte} (between : b ∈ [colon, comma, rbrace])
    (rest : List Byte) : ¬ key ++ [quote] <+: b :: rest := by
  obtain ⟨-, head⟩ := word
  cases key with
  | nil => exact absurd List.mem_cons_self head
  | cons c key =>
    rw [List.cons_append, List.cons_prefix_cons]
    rintro ⟨rfl, -⟩
    apply head
    simpa using between

/-- Another string is passed over. -/
theorem Word.passes_string (word : Word key) {text : List Byte} (clean : Clean text)
    (other : text ≠ key) {b : Byte} (between : b ∈ [colon, comma, rbrace]) (rest : List Byte) :
    Passes (quote :: (key ++ [quote])) (quote :: (text ++ [quote])) (b :: rest) := by
  refine ⟨?_, passes_append.mpr ⟨passes_of_not_mem (quote_not_mem clean) _, ?_, trivial⟩⟩
  · rw [List.cons_prefix_cons, List.append_assoc, List.singleton_append,
      prefix_iff_of_not_mem (quote_not_mem word.1) (quote_not_mem clean)]
    exact fun same => other same.2.symm
  · rw [List.nil_append, List.cons_prefix_cons]
    exact fun starts => word.not_prefix between rest starts.2

theorem Word.passes_value (word : Word key) {v : Value} (clean : v.Clean) (other : v ≠ .str key)
    {b : Byte} (between : b ∈ [colon, comma, rbrace]) (rest : List Byte) :
    Passes (quote :: (key ++ [quote])) (writeValue v []) (b :: rest) := by
  cases v with
  | str text =>
    have named : text ≠ key := by
      rintro rfl
      exact other rfl
    exact word.passes_string clean named between rest
  | int n =>
    rw [writeValue, List.append_nil]
    exact passes_of_not_mem (quote_not_mem (decimalInt_clean n)) _
  | bool b =>
    cases b with
    | true => exact passes_of_not_mem (by decide) _
    | false => exact passes_of_not_mem (by decide) _

/-- What `atoi` makes of a value. -/
def number : Value → Int
  | .int n => saturate n
  | _ => 0

end

/-! ## Objects that are sent -/

/-- The peer has sent all of the body by the call `k`, in any pieces and with any pauses. -/
structure Delivered (body : List Byte) (recv : Nat → RecvResult) (k : Nat) : Prop where
  kept : ∀ i < k, recv i ≠ .failed
  sent : body <+: arrived recv k

/-- Without an error `read_body` does not give up. -/
theorem readBody_ne_failed {contentLen : BitVec 32} {buf : List Byte} {recv : Nat → RecvResult}
    (accepted : ¬(contentLen.toInt ≤ 0 ∨ buf.length ≤ contentLen.toNat)) {k : Nat}
    (kept : ∀ i < k, recv i ≠ .failed) (last : List Byte) :
    readBody contentLen buf recv k ≠ .returned (-1) last := by
  induction k generalizing last with
  | zero =>
    rw [readBody, startReading, if_neg accepted]
    intro same
    cases same
  | succ k ih =>
    have before := ih fun i earlier => kept i (Nat.lt_succ_of_lt earlier)
    rw [readBody]
    cases state : readBody contentLen buf recv k with
    | returned result now =>
      intro same
      rw [state] at before
      exact before last same
    | loop received now => exact fun same => kept k (Nat.lt_succ_self k) (recvOnce_eq_failed same)

/-- A body that was sent is read, and is the string in the buffer. -/
theorem Delivered.readBody {body : List Byte} {recv : Nat → RecvResult} {k : Nat}
    (delivered : Delivered body recv k) (noNul : 0 ∉ body) (some : body ≠ []) {buf : List Byte}
    (fits : body.length < buf.length) (small : body.length < 2 ^ 31) :
    ∃ after, Http.readBody (BitVec.ofNat 32 body.length) buf recv k =
      .returned body.length after ∧ (CString.ofBuffer after).bytes = body := by
  have length : (BitVec.ofNat 32 body.length).toNat = body.length := by
    rw [BitVec.toNat_ofNat]
    omega
  have positive := List.length_pos_iff.mpr some
  have accepted : ¬((BitVec.ofNat 32 body.length).toInt ≤ 0 ∨
      buf.length ≤ (BitVec.ofNat 32 body.length).toNat) := by
    rw [length, BitVec.toInt_eq_toNat_cond, length]
    split_ifs <;> omega
  have enough := delivered.sent.length_le
  have reads := readBody_reads (BitVec.ofNat 32 body.length) buf recv k
  have honest := readBody_ne_failed accepted delivered.kept
  cases state : Http.readBody (BitVec.ofNat 32 body.length) buf recv k with
  | loop received now =>
    rw [state] at reads
    have more := reads.2.more
    omega
  | returned result after =>
    rw [state] at reads honest
    rcases reads with rfl | ⟨rfl, stored⟩
    · exact absurd rfl (honest after)
    · refine ⟨after, by rw [length], ?_⟩
      have front : after.take body.length = body := by
        have same := stored.body
        rw [length] at same
        rw [same]
        exact (List.prefix_iff_eq_take.mp delivered.sent).symm
      have nul := stored.nul
      have inside : body.length < after.length := by
        rw [stored.size]
        exact fits
      have parts : after = body ++ 0 :: after.drop (body.length + 1) := by
        rw [length] at nul
        rw [← nul, ← cons_drop inside]
        conv_rhs => rw [← front, List.length_take, Nat.min_eq_left inside.le]
        exact (List.take_append_drop _ _).symm
      rw [CString.ofBuffer, parts]
      exact takeWhile_ne_append noNul _

/-- The port and the status that an object asks for. -/
def asked (members : List Member) : Option (List Byte × List Byte) :=
  match members.lookup (ascii "port_key"), members.lookup (ascii "status") with
  | some (.str portKey), some (.str status) =>
    if isKnownPort portKey ∧ isKnownStatus status then some (portKey, status) else none
  | _, _ => none

/-- The percentage that a value asks for. -/
def percent : Value → Int
  | .int n => max 0 (min 100 n)
  | _ => 0

/-- Whatever bytes a client sends, the handlers post only rows that the tables accept, and answer
    with an object that says whether a row was stored. -/
theorem admin_posts_accepted (upsert : List Byte → List Byte → Err) (received : Int)
    (buf : List Byte) :
    Sound upsert (apiPortsHandler upsert received buf) ∧
      Sound upsert (apiBatteryHandler upsert received buf) :=
  ⟨sound_apiPorts upsert received buf, sound_apiBattery upsert received buf⟩

end SolarConnect.Http.AdminPorts
