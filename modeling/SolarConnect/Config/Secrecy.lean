import SolarConnect.Config.Console

/-!
# Passwords at the console

Two devices whose settings and histories differ in passwords only. What they print and send is the
same, as long as the passwords agree in being empty, the access point's also in being too short, and
nothing in them reads as an option or as encoded.
-/

namespace SolarConnect.Config.Console

open Bytes FlatJson CText Nvs TwoRuns ClientAcl Logged
open Boot hiding Params getConfigParamStr getConfigParamBlob readStr readParams boot

/-! ## Passwords that are alike -/

/-- A password that stays what it is when it is read, given to a command and decoded there. -/
structure Ordinary (s : CString) : Prop where
  plain : Plain s.bytes
  short : s.length < credentialSize
  positional : Positional s

/-- What the second device can have under a key where the first one has the value. -/
inductive Hides : SettingKey → SettingValue → SettingValue → Prop
  | same (key : SettingKey) (value : SettingValue) : Hides key value value
  | passwd {s s' : CString} (ordinary : Ordinary s) (ordinary' : Ordinary s')
      (blank : s = .empty ↔ s' = .empty) : Hides (.param .passwd) (.str s) (.str s')
  | apPasswd {s s' : CString} (ordinary : Ordinary s) (ordinary' : Ordinary s')
      (blank : s = .empty ↔ s' = .empty) (weak : s.length < 8 ↔ s'.length < 8) :
      Hides (.param .apPasswd) (.str s) (.str s')

/-- A string under a key. -/
def HidesStr (key : SettingKey) (s s' : CString) : Prop :=
  Hides key (.str s) (.str s')

theorem HidesStr.blank {key : SettingKey} {s s' : CString} (hides : HidesStr key s s') :
    s = .empty ↔ s' = .empty := by
  cases hides with
  | same => exact Iff.rfl
  | passwd _ _ blank => exact blank
  | apPasswd _ _ blank _ => exact blank

/-- A string stays a string, and a blob the same blob. -/
theorem Hides.cases {key : SettingKey} {v v' : SettingValue} (hides : Hides key v v') :
    (∃ s s', v = .str s ∧ v' = .str s' ∧ HidesStr key s s') ∨
      ∃ octets, v = .blob octets ∧ v' = .blob octets := by
  cases hides with
  | same =>
    cases v with
    | str s => exact Or.inl ⟨s, s, rfl, rfl, .same _ _⟩
    | blob octets => exact Or.inr ⟨octets, rfl, rfl⟩
  | passwd ordinary ordinary' blank =>
    exact Or.inl ⟨_, _, rfl, rfl, .passwd ordinary ordinary' blank⟩
  | apPasswd ordinary ordinary' blank weak =>
    exact Or.inl ⟨_, _, rfl, rfl, .apPasswd ordinary ordinary' blank weak⟩

/-! ## Masks -/

section
variable {m : Machine}

/-- What `arg_parse` finds on the two devices. -/
structure SetApAlike (args args' : SetApArgs) : Prop where
  ssid : preprocessString args.ssid = preprocessString args'.ssid
  password : HidesStr (.param .apPasswd) (preprocessString args.password)
    (preprocessString args'.password)

structure SetStaAlike (args args' : SetStaArgs) : Prop where
  ssid : preprocessString args.ssid = preprocessString args'.ssid
  password : HidesStr (.param .passwd) (preprocessString args.password)
    (preprocessString args'.password)
  entUsername : args.entUsername = args'.entUsername
  entIdentity : args.entIdentity = args'.entIdentity

theorem SetApAlike.refl (args : SetApArgs) : SetApAlike args args :=
  ⟨rfl, .same _ _⟩

theorem SetStaAlike.refl (args : SetStaArgs) : SetStaAlike args args :=
  ⟨rfl, .same _ _, rfl, rfl⟩

theorem HidesStr.weak {s s' : CString} (hides : HidesStr (.param .apPasswd) s s') :
    s.length < 8 ↔ s'.length < 8 := by
  cases hides with
  | same => exact Iff.rfl
  | apPasswd _ _ _ weak => exact weak

/-- The fields of two forms, which differ in the passwords only. -/
structure FormsAlike (m : Machine) (body body' : CString) : Prop where
  others (key : FormKey) (outLen : Nat) (_ : key ≠ .apPassword) (_ : key ≠ .password) :
    getFormValue m.toPlatform body key outLen = getFormValue m.toPlatform body' key outLen
  apPassword : HidesStr (.param .apPasswd)
    (getFormValue m.toPlatform body .apPassword credentialSize).2
    (getFormValue m.toPlatform body' .apPassword credentialSize).2
  password : HidesStr (.param .passwd)
    (getFormValue m.toPlatform body .password credentialSize).2
    (getFormValue m.toPlatform body' .password credentialSize).2

theorem FormsAlike.refl (body : CString) : FormsAlike m body body :=
  ⟨fun _ _ _ _ => rfl, .same _ _, .same _ _⟩

theorem Ordinary.take {s : CString} (ordinary : Ordinary s) : s.take (credentialSize - 1) = s :=
  (take_eq_iff s _).mpr (Nat.le_sub_one_of_lt ordinary.short)

end

/-! ## Histories -/

end SolarConnect.Config.Console
