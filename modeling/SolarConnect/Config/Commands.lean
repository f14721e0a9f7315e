import SolarConnect.Misc.Bytes
import SolarConnect.Misc.FormEncoding
import SolarConnect.Misc.Nvs

/-!
# Configuration commands

The commands of `cmd_router.c` that store string settings. Each parses its arguments, decodes
them with `preprocess_string` and saves them in NVS. `arg_parse` is ESP-IDF's, so what it
makes of an argument vector is a parameter.
-/

namespace SolarConnect.Config

open Bytes FormEncoding Nvs

/-! ## `preprocess_string` -/

/-- The digit arithmetic of `preprocess_string`: any byte up to `'9'` counts as a decimal
    digit and any other as a letter. -/
def digitOf (c : Byte) : Byte :=
  if c ≤ 0x39 then c - 0x30 else toUpper c - 0x41 + 10

/-- A byte outside of an escape. -/
def unplus (c : Byte) : Byte :=
  if c = plus then space else c

/-- The loop of `preprocess_string` (`cmd_router.c:67-97`), over the bytes in front of the
    NUL. A `%` with fewer than two bytes behind it stays. -/
def decode : List Byte → List Byte
  | c :: high :: low :: rest =>
    if c = percent then ((digitOf high <<< 4) + digitOf low) :: decode rest
    else unplus c :: decode (high :: low :: rest)
  | c :: rest => unplus c :: decode rest
  | [] => []

/-- `preprocess_string` (`cmd_router.c:67-97`): an escape can write a NUL, which ends the
    string. -/
def preprocessString (str : CString) : CString :=
  CString.ofBuffer (decode str.bytes)

theorem decode_cons_of_ne {c : Byte} (notPercent : c ≠ percent) (rest : List Byte) :
    decode (c :: rest) = unplus c :: decode rest := by
  rcases rest with _ | ⟨high, _ | ⟨low, rest⟩⟩
  · rfl
  · rfl
  · rw [decode, if_neg notPercent]

theorem decode_escape (high low : Byte) (rest : List Byte) :
    decode (percent :: high :: low :: rest) =
      ((digitOf high <<< 4) + digitOf low) :: decode rest := by
  rw [decode, if_pos rfl]

theorem unplus_of_ne {c : Byte} (notPlus : c ≠ plus) : unplus c = c :=
  if_neg notPlus

/-- On hexadecimal digits the digit arithmetic is right. -/
theorem digitOf_of_hexDigit {c h : Byte} (digit : hexDigit? c = some h) : digitOf c = h := by
  unfold digitOf toUpper
  rcases hexDigit_cases digit with ⟨low, high, rfl⟩ | ⟨low, high, rfl⟩ | ⟨low, high, rfl⟩
  · rw [if_pos high]
  · rw [if_neg (by bv_omega), if_neg (by bv_omega)]
  · rw [if_neg (by bv_omega), if_pos (by bv_omega)]
    bv_omega

theorem shift_eq_mul (h : Byte) : h <<< 4 = 16 * h := by
  rw [BitVec.shiftLeft_eq_mul_twoPow, BitVec.mul_comm]
  rfl

theorem decode_length_le (str : List Byte) : (decode str).length ≤ str.length := by
  fun_induction decode str with
  | case1 high low rest ih =>
    simp only [List.length_cons]
    omega
  | case2 c high low rest notPercent ih => exact Nat.succ_le_succ ih
  | case3 c rest short ih => exact Nat.succ_le_succ ih
  | case4 => exact Nat.le_refl 0

/-- Decoding goes through an encoding that other bytes follow. -/
theorem decode_append {value encoded : List Byte} (sent : Encodes value encoded)
    (rest : List Byte) : decode (encoded ++ rest) = value ++ decode rest := by
  induction sent with
  | nil => rfl
  | literal notPercent notPlus _ ih =>
    rw [List.cons_append, decode_cons_of_ne notPercent, unplus_of_ne notPlus, ih]
    rfl
  | space _ ih =>
    rw [List.cons_append, decode_cons_of_ne (by decide), ih]
    rfl
  | escape high low _ ih =>
    rw [List.cons_append, List.cons_append, List.cons_append, decode_escape,
      digitOf_of_hexDigit high, digitOf_of_hexDigit low, shift_eq_mul, ih]
    rfl

/-- `preprocess_string` undoes every encoding. -/
theorem preprocessString_of_encodes {value encoded : CString}
    (sent : Encodes value.bytes encoded.bytes) : preprocessString encoded = value := by
  have decoded := decode_append sent []
  rw [List.append_nil, decode, List.append_nil] at decoded
  apply CString.ext
  rw [preprocessString, decoded]
  exact CString.ofBuffer_of_noNul value.noNul

/-! ## Strings that `preprocess_string` leaves alone -/

/-- Nothing in the string reads as encoded: no `+`, and no `%` with two bytes behind it. -/
def Plain (str : List Byte) : Prop :=
  (∀ b ∈ str, b ≠ plus) ∧ ∀ b ∈ str.take (str.length - 2), b ≠ percent

instance (str : List Byte) : Decidable (Plain str) :=
  decidable_of_iff
    (str.all (· != plus) && (str.take (str.length - 2)).all (· != percent))
    (by simp [Plain])

theorem unplus_eq_iff (c : Byte) : unplus c = c ↔ c ≠ plus := by
  constructor
  · rintro same rfl
    exact absurd same (by decide)
  · exact unplus_of_ne

theorem plain_cons (c : Byte) (str : List Byte) :
    Plain (c :: str) ↔ c ≠ plus ∧ (2 ≤ str.length → c ≠ percent) ∧ Plain str := by
  unfold Plain
  rw [List.length_cons, List.forall_mem_cons]
  by_cases followed : 2 ≤ str.length
  · have front : (c :: str).take (str.length + 1 - 2) = c :: str.take (str.length - 2) := by
      rw [show str.length + 1 - 2 = str.length - 2 + 1 by omega, List.take_succ_cons]
    rw [front, List.forall_mem_cons]
    tauto
  · have none : str.length + 1 - 2 = 0 ∧ str.length - 2 = 0 := by omega
    rw [none.1, none.2, List.take_zero, List.take_zero]
    simp only [List.not_mem_nil, false_imp_iff, implies_true, and_true]
    tauto

theorem decode_eq_self_iff (str : List Byte) : decode str = str ↔ Plain str := by
  fun_induction decode str with
  | case1 high low rest ih =>
    have shorter := decode_length_le rest
    constructor
    · intro same
      have lengths := congrArg List.length same
      simp only [List.length_cons] at lengths
      omega
    · intro plain
      exact absurd rfl (plain.2 percent List.mem_cons_self)
  | case2 c high low rest notPercent ih =>
    rw [List.cons.injEq, unplus_eq_iff, ih, plain_cons c]
    tauto
  | case3 c rest short ih =>
    have few : ¬2 ≤ rest.length := by
      rcases rest with _ | ⟨high, _ | ⟨low, rest⟩⟩
      · simp
      · simp
      · exact absurd rfl (short high low rest)
    rw [List.cons.injEq, unplus_eq_iff, ih, plain_cons c]
    tauto
  | case4 => simp [Plain]

/-- `preprocess_string` keeps exactly the plain strings. -/
theorem preprocessString_eq_self_iff (str : CString) :
    preprocessString str = str ↔ Plain str.bytes := by
  rw [← decode_eq_self_iff]
  constructor
  · intro same
    -- No byte can have been lost to a NUL, as decoding never lengthens a string.
    have kept : (CString.ofBuffer (decode str.bytes)).bytes = str.bytes :=
      congrArg CString.bytes same
    have short := decode_length_le str.bytes
    have whole : (CString.ofBuffer (decode str.bytes)).bytes = decode str.bytes := by
      apply (List.takeWhile_sublist _).eq_of_length_le
      have lengths := congrArg List.length kept
      exact short.trans lengths.ge
    rw [← whole, kept]
  · intro same
    apply CString.ext
    rw [preprocessString, same]
    exact CString.ofBuffer_of_noNul str.noNul

/-! ## Commands -/

/-- The NVS keys of the string settings. -/
inductive ParamKey
  | apSsid
  | apPasswd
  | ssid
  | passwd
  | entUsername
  | entIdentity
  | staticIp
  | subnetMask
  | gatewayAddr
  deriving DecidableEq, Repr

/-- The string settings in NVS. -/
abbrev Params := Store ParamKey CString

/-- What `arg_parse` finds for `set_ap`. -/
structure SetApArgs where
  ssid : CString
  password : CString
  deriving DecidableEq

/-- What `arg_parse` finds for `set_sta`. -/
structure SetStaArgs where
  ssid : CString
  password : CString
  entUsername : Option CString
  entIdentity : Option CString
  deriving DecidableEq

/-- What `arg_parse` finds for `set_sta_static`. -/
structure SetStaStaticArgs where
  staticIp : CString
  subnetMask : CString
  gatewayAddr : CString
  deriving DecidableEq

/-- `arg_parse` on the argument tables of the commands, `none` for a count of errors that is
    not zero. -/
structure ArgTables where
  setAp : List CString → Option SetApArgs
  setSta : List CString → Option SetStaArgs
  setStaStatic : List CString → Option SetStaStaticArgs

/-- `set_ap` (`cmd_router.c:407-442`). -/
def setAp (tables : ArgTables) (argv : List CString) (nvs : Params) : Err × Params :=
  match tables.setAp argv with
  | none => (1, nvs)
  | some args =>
    nvs.saveAll [
      (.apSsid, preprocessString args.ssid),
      (.apPasswd, preprocessString args.password)]

/-- `set_sta` (`cmd_router.c:191-240`). -/
def setSta (tables : ArgTables) (argv : List CString) (nvs : Params) : Err × Params :=
  match tables.setSta argv with
  | none => (1, nvs)
  | some args =>
    nvs.saveAll [
      (.ssid, preprocessString args.ssid),
      (.passwd, preprocessString args.password),
      (.entUsername, args.entUsername.getD .empty),
      (.entIdentity, args.entIdentity.getD .empty)]

/-- `set_sta_static` (`cmd_router.c:270-305`). -/
def setStaStatic (tables : ArgTables) (argv : List CString) (nvs : Params) : Err × Params :=
  match tables.setStaStatic argv with
  | none => (1, nvs)
  | some args =>
    nvs.saveAll [
      (.staticIp, preprocessString args.staticIp),
      (.subnetMask, preprocessString args.subnetMask),
      (.gatewayAddr, preprocessString args.gatewayAddr)]

/-- `get_config_param_str` (`cmd_router.c:99-126`), `none` for an error. A second read that
    fails leaves the string in the memory that `malloc` returned. -/
def getConfigParamStr (uninitialised : CString) (name : ParamKey) (nvs : Params) :
    Option CString × Params :=
  let (err, nvs) := nvs.call id
  if err ≠ espOk then (none, nvs)
  else
    let (len, nvs) := nvs.nvsGet name
    match len with
    | none => (none, nvs)
    | some _ =>
      let (param, nvs) := nvs.nvsGet name
      (some (param.getD uninitialised), nvs)

theorem getConfigParamStr_of_working {nvs : Params} (working : nvs.results = [])
    (uninitialised : CString) (name : ParamKey) :
    getConfigParamStr uninitialised name nvs = (nvs.saved name, nvs) := by
  unfold getConfigParamStr
  simp only [Store.call_of_working working, Store.nvsGet_of_working working, ne_eq,
    not_true_eq_false, if_false, id]
  cases nvs.saved name with
  | none => rfl
  | some value => rfl

end SolarConnect.Config
