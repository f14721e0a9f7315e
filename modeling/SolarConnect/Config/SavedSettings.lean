import SolarConnect.Config.Commands
import SolarConnect.Misc.NvsLog

/-!
# Saved settings

All commands of `cmd_router.c` that store a setting, with the NVS calls that each of them makes.
Every one but `set_ap_ip` commits what it has set before it reports success.
-/

namespace SolarConnect.Config.Logged

open Bytes Nvs

/-! ## The commands -/

/-- A setting with its value. -/
inductive Setting
  | param (key : ParamKey) (value : CString)
  | apIp (value : CString)
  | mac (octets : List Byte)
  | apMac (octets : List Byte)
  deriving DecidableEq

/-- What `arg_parse` finds for `set_sta_mac` and `set_ap_mac`. -/
structure SetMacArgs where
  mac0 : Int
  mac1 : Int
  mac2 : Int
  mac3 : Int
  mac4 : Int
  mac5 : Int

/-- `arg_parse` on the argument tables of all commands. -/
structure CommandTables extends ArgTables where
  setMac : List CString → Option SetMacArgs
  setApIp : List CString → Option CString

/-- `uint8_t mac[]` of `set_mac`. -/
def SetMacArgs.mac (args : SetMacArgs) : List Byte :=
  [args.mac0, args.mac1, args.mac2, args.mac3, args.mac4, args.mac5].map (BitVec.ofInt 8)

def ofParams (writes : List (ParamKey × CString)) : List Setting :=
  writes.map fun write => .param write.1 write.2

def setStaSettings (args : SetStaArgs) : List (ParamKey × CString) :=
  [(.ssid, preprocessString args.ssid),
    (.passwd, preprocessString args.password),
    (.entUsername, args.entUsername.getD .empty),
    (.entIdentity, args.entIdentity.getD .empty)]

/-- `set_sta` (`cmd_router.c:191-240`). -/
def setSta (tables : CommandTables) (argv : List CString) (s : Log Setting) :
    Err × Log Setting :=
  match tables.setSta argv with
  | none => (1, s)
  | some args => s.saveAll (ofParams (setStaSettings args))

def setStaStaticSettings (args : SetStaStaticArgs) : List (ParamKey × CString) :=
  [(.staticIp, preprocessString args.staticIp),
    (.subnetMask, preprocessString args.subnetMask),
    (.gatewayAddr, preprocessString args.gatewayAddr)]

/-- `set_sta_static` (`cmd_router.c:270-305`). -/
def setStaStatic (tables : CommandTables) (argv : List CString) (s : Log Setting) :
    Err × Log Setting :=
  match tables.setStaStatic argv with
  | none => (1, s)
  | some args => s.saveAll (ofParams (setStaStaticSettings args))

/-- `set_mac` (`cmd_router.c:335-360`). -/
def setMac (key : List Byte → Setting) (tables : CommandTables) (argv : List CString)
    (s : Log Setting) : Err × Log Setting :=
  match tables.setMac argv with
  | none => (1, s)
  | some args => s.saveAll [key args.mac]

/-- `set_sta_mac` (`cmd_router.c:362-364`). -/
def setStaMac (tables : CommandTables) (argv : List CString) (s : Log Setting) :
    Err × Log Setting :=
  setMac .mac tables argv s

/-- `set_ap_mac` (`cmd_router.c:366-368`). -/
def setApMac (tables : CommandTables) (argv : List CString) (s : Log Setting) :
    Err × Log Setting :=
  setMac .apMac tables argv s

def setApSettings (args : SetApArgs) : List (ParamKey × CString) :=
  [(.apSsid, preprocessString args.ssid), (.apPasswd, preprocessString args.password)]

/-- `set_ap` (`cmd_router.c:407-442`). -/
def setAp (tables : CommandTables) (argv : List CString) (s : Log Setting) : Err × Log Setting :=
  match tables.setAp argv with
  | none => (1, s)
  | some args => s.saveAll (ofParams (setApSettings args))

/-- `set_ap_ip` (`cmd_router.c:468-492`), which closes the handle without a commit. -/
def setApIp (tables : CommandTables) (argv : List CString) (s : Log Setting) :
    Err × Log Setting :=
  match tables.setApIp argv with
  | none => (1, s)
  | some apIpStr =>
    let (err, nvs, s) := s.nvsOpen
    if err ≠ espOk then (err, s)
    else
      let (err, s) := s.nvsSet nvs (.apIp (preprocessString apIpStr))
      (err, s.nvsClose nvs)

/-- The commands that store settings. -/
inductive Command
  | setSta
  | setStaStatic
  | setStaMac
  | setApMac
  | setAp
  | setApIp
  deriving DecidableEq

namespace Command

/-- The command, with what it returns. -/
def run (tables : CommandTables) : Command → List CString → Log Setting → Err × Log Setting
  | .setSta => Logged.setSta tables
  | .setStaStatic => Logged.setStaStatic tables
  | .setStaMac => Logged.setStaMac tables
  | .setApMac => Logged.setApMac tables
  | .setAp => Logged.setAp tables
  | .setApIp => Logged.setApIp tables

/-- The settings that the command is meant to store, if its arguments parse. -/
def settings (tables : CommandTables) (argv : List CString) : Command → Option (List Setting)
  | .setSta => (tables.setSta argv).map fun args => ofParams (setStaSettings args)
  | .setStaStatic =>
    (tables.setStaStatic argv).map fun args => ofParams (setStaStaticSettings args)
  | .setStaMac => (tables.setMac argv).map fun args => [.mac args.mac]
  | .setApMac => (tables.setMac argv).map fun args => [.apMac args.mac]
  | .setAp => (tables.setAp argv).map fun args => ofParams (setApSettings args)
  | .setApIp => (tables.setApIp argv).map fun apIpStr => [.apIp (preprocessString apIpStr)]

/-- All commands but one save their settings in the same way. -/
theorem run_of_ne {c : Command} (commits : c ≠ .setApIp) (tables : CommandTables)
    (argv : List CString) (s : Log Setting) :
    c.run tables argv s =
      (c.settings tables argv).elim (1, s) fun writes => s.saveAll writes := by
  cases c with
  | setSta =>
    rw [run, Logged.setSta, settings]
    cases tables.setSta argv <;> rfl
  | setStaStatic =>
    rw [run, Logged.setStaStatic, settings]
    cases tables.setStaStatic argv <;> rfl
  | setStaMac =>
    rw [run, Logged.setStaMac, setMac, settings]
    cases tables.setMac argv <;> rfl
  | setApMac =>
    rw [run, Logged.setApMac, setMac, settings]
    cases tables.setMac argv <;> rfl
  | setAp =>
    rw [run, Logged.setAp, settings]
    cases tables.setAp argv <;> rfl
  | setApIp => exact absurd rfl commits

end Command

/-! ## Saved means committed -/

/-- What a command that reports success has set is committed afterwards on the same handle, and a
    command that reports an error has committed nothing that it had tried to set. -/
structure SavedMeansCommitted (meant : List Setting) (r : Err × Log Setting) : Prop where
  ok : r.1 = espOk → ∃ nvs before after,
    r.2.calls = before ++ (.commit nvs, espOk) :: after ∧
      ∀ write ∈ meant, (.set nvs write, espOk) ∈ before
  error : r.1 ≠ espOk → ∀ nvs before after,
    r.2.calls = before ++ (.commit nvs, espOk) :: after →
      ∀ nvs' write err, (.set nvs' write, err) ∉ before

/-- An error without a successful commit is honest. -/
theorem SavedMeansCommitted.of_error {meant : List Setting} {r : Err × Log Setting}
    (failed : r.1 ≠ espOk) (none : ∀ nvs, (.commit nvs, espOk) ∉ r.2.calls) :
    SavedMeansCommitted meant r := by
  refine ⟨fun ok => absurd ok failed, ?_⟩
  intro _ nvs before after calls
  have committed : (.commit nvs, espOk) ∈ r.2.calls := by
    rw [calls]
    simp
  exact absurd committed (none nvs)

/-- A command whose arguments do not parse makes no call. -/
theorem SavedMeansCommitted.unparsed (meant : List Setting) (results : List Err) (handle : Nat) :
    SavedMeansCommitted meant (1, ⟨results, handle, []⟩) := by
  refine .of_error ?_ (by simp)
  show (1 : Err) ≠ espOk
  decide

theorem commit_notMem_allSet (nvs nvs' : Nat) (writes : List Setting) :
    (.commit nvs, espOk) ∉ Log.allSet nvs' writes := by
  simp [Log.allSet]

/-- Saving commits what it sets. -/
theorem saveAll_committed (writes : List Setting) (results : List Err) (handle : Nat) :
    SavedMeansCommitted writes (Log.saveAll writes ⟨results, handle, []⟩) := by
  have effect := Log.saveAll_effect writes ⟨results, handle, []⟩
  generalize Log.saveAll writes ⟨results, handle, []⟩ = r at effect ⊢
  obtain ⟨err, s⟩ := r
  dsimp only [List.nil_append] at effect
  generalize made : s.calls = calls at effect
  cases effect with
  | unopened _ failed =>
    refine .of_error failed fun nvs => ?_
    rw [made]
    simp
  | unset done write _ failed =>
    refine .of_error failed fun nvs => ?_
    rw [made]
    simpa using commit_notMem_allSet nvs handle done
  | commits =>
    by_cases ok : err = espOk
    · refine ⟨fun _ => ?_, fun failed => absurd ok failed⟩
      refine ⟨handle, (.openHandle handle, espOk) :: Log.allSet handle writes,
        [(.close handle, espOk)], ?_, ?_⟩
      · rw [made, ok]
        rfl
      · intro write member
        simp [Log.allSet, member]
    · refine .of_error ok fun nvs => ?_
      rw [made]
      have other : espOk ≠ err := fun same => ok same.symm
      simpa [other] using commit_notMem_allSet nvs handle writes

/-! ## Every command -/

/-- The command is `set_ap_ip`, and it gets as far as a set that succeeds. -/
def SetsWithoutCommit (tables : CommandTables) (c : Command) (argv : List CString)
    (results : List Err) : Prop :=
  c = .setApIp ∧ (tables.setApIp argv).isSome = true ∧ ∀ err ∈ results.take 2, err = espOk

/-- The calls of `set_ap_ip`, none of which is a commit. -/
theorem setApIp_calls {tables : CommandTables} {argv : List CString} {apIpStr : CString}
    (parsed : tables.setApIp argv = some apIpStr) (results : List Err) (handle : Nat) :
    (∀ nvs, (.commit nvs, espOk) ∉ (setApIp tables argv ⟨results, handle, []⟩).2.calls) ∧
      ((setApIp tables argv ⟨results, handle, []⟩).1 = espOk ↔
        ∀ err ∈ results.take 2, err = espOk) := by
  rw [setApIp, parsed]
  dsimp only
  rw [Log.nvsOpen, Log.request]
  dsimp only
  cases results with
  | nil => simp [Log.nvsSet, Log.request, Log.nvsClose]
  | cons first results =>
    by_cases opened : first = espOk
    · cases results <;> simp [opened, Log.nvsSet, Log.request, Log.nvsClose]
    · simp [opened]

/-- A command is honest about what it has saved exactly if it does not set a value without a
    commit. -/
theorem saved_means_committed_iff (tables : CommandTables) (c : Command) (argv : List CString)
    (results : List Err) (handle : Nat) :
    SavedMeansCommitted ((c.settings tables argv).getD [])
        (c.run tables argv ⟨results, handle, []⟩) ↔
      ¬ SetsWithoutCommit tables c argv results := by
  by_cases ip : c = .setApIp
  · subst ip
    rw [Command.run, Command.settings, SetsWithoutCommit]
    cases parsed : tables.setApIp argv with
    | none =>
      have refused : setApIp tables argv ⟨results, handle, []⟩ = (1, ⟨results, handle, []⟩) := by
        rw [setApIp, parsed]
      rw [refused]
      simpa using SavedMeansCommitted.unparsed [] results handle
    | some apIpStr =>
      obtain ⟨none, ok⟩ := setApIp_calls parsed results handle
      constructor
      · rintro honest ⟨-, -, succeed⟩
        obtain ⟨nvs, before, after, calls, -⟩ := honest.ok (ok.mpr succeed)
        apply none nvs
        rw [calls]
        simp
      · intro honest
        apply SavedMeansCommitted.of_error _ none
        intro succeeds
        exact honest ⟨rfl, rfl, ok.mp succeeds⟩
  · have committed : ¬ SetsWithoutCommit tables c argv results := fun sets => ip sets.1
    rw [Command.run_of_ne ip]
    refine iff_of_true ?_ committed
    cases c.settings tables argv with
    | none => exact .unparsed [] results handle
    | some writes => exact saveAll_committed writes results handle

/-- Only `set_ap_ip` is given an argument, which `arg_parse` takes as it is. -/
def apIpTables : CommandTables where
  setAp _ := none
  setSta _ := none
  setStaStatic _ := none
  setMac _ := none
  setApIp argv := argv[1]?

/-- `set_ap_ip 10.0.0.1`. -/
def apIpArgv : List CString :=
  [.ofBuffer [0x73, 0x65, 0x74, 0x5F, 0x61, 0x70, 0x5F, 0x69, 0x70],
    .ofBuffer [0x31, 0x30, 0x2E, 0x30, 0x2E, 0x30, 0x2E, 0x31]]

/-- The new address is reported as stored and not committed. -/
theorem ap_ip_not_committed :
    ¬ ∀ (tables : CommandTables) (c : Command) (argv : List CString) (results : List Err)
      (handle : Nat), SavedMeansCommitted ((c.settings tables argv).getD [])
        (c.run tables argv ⟨results, handle, []⟩) := by
  intro claim
  have honest := claim apIpTables .setApIp apIpArgv [] 1
  obtain ⟨nvs, before, after, calls, -⟩ := honest.ok (by decide)
  have parsed : apIpTables.setApIp apIpArgv =
      some (.ofBuffer [0x31, 0x30, 0x2E, 0x30, 0x2E, 0x30, 0x2E, 0x31]) := rfl
  have committed : (.commit nvs, espOk) ∈
      (Command.setApIp.run apIpTables apIpArgv ⟨[], 1, []⟩).2.calls := by
    rw [calls]
    simp
  exact (setApIp_calls parsed [] 1).1 nvs committed

/-! ## What is in flash -/

/-- A command returns what its calls say, and what it leaves in flash are its settings if that is
    `ESP_OK`, and else what was there. -/
structure Stores (settings : List (ParamKey × CString)) (nvs : Params) (r : Err × Params)
    (logged : Err × Log Setting) : Prop where
  err : r.1 = logged.1
  saved : r.2.saved = if r.1 = espOk then writeAll nvs.saved settings else nvs.saved

end SolarConnect.Config.Logged
