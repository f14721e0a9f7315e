import Mathlib.Algebra.Order.Ring.Rat
import Mathlib.Tactic.NormNum

/-!
# Battery state machine

The sampling state machine of `battery_sensor.c`, with the two hooks it drives:
`set_user_ap_enabled` (`esp32_nat_router.c:461-478`) and
`rfid_reader_set_ports_allowed` (`rfid_reader.c:324-337`). A `float` voltage is the
rational it denotes, so the thresholds are the single-precision roundings of the
macros of `battery_sensor.h`. The compile-time switch
`BATTERY_SENSOR_ENFORCE_THRESHOLDS` is the argument `enforce`.
-/

namespace SolarConnect.Battery

/-- `battery_state_t` (`battery_sensor.h:146-152`). -/
inductive BatteryState where
  | normal
  | warning
  | critical
  | wakeUp
  | chargingOn
  deriving DecidableEq, Repr

/-- `BATTERY_V_WARNING_FALL`, the float `12.6f`. -/
def vWarningFall : ℚ := 13212058 / 2 ^ 20

/-- `BATTERY_V_CRITICAL_FALL`, the float `11.8f`. -/
def vCriticalFall : ℚ := 12373197 / 2 ^ 20

/-- `BATTERY_V_WAKEUP_BOOT_LOW`, the float `12.4f`. -/
def vWakeupBootLow : ℚ := 13002342 / 2 ^ 20

/-- `BATTERY_V_CHARGING_RISE`, the float `12.8f`. -/
def vChargingRise : ℚ := 13421773 / 2 ^ 20

/-- `BATTERY_V_NORMAL_RISE`, the float `13.2f`. -/
def vNormalRise : ℚ := 13841203 / 2 ^ 20

/-- `BATTERY_DEBOUNCE_SAMPLES`. -/
def debounceSamples : Nat := 6

theorem criticalFall_lt_warningFall : vCriticalFall < vWarningFall := by
  norm_num [vCriticalFall, vWarningFall]

theorem warningFall_lt_chargingRise : vWarningFall < vChargingRise := by
  norm_num [vWarningFall, vChargingRise]

theorem chargingRise_lt_normalRise : vChargingRise < vNormalRise := by
  norm_num [vChargingRise, vNormalRise]

/-- The bookkeeping of `battery_task`: `s_state`, the four debounce counters, and the
    two flags its actions set. `setModeResults` records the outcome of every
    `esp_wifi_set_mode` call, latest first. -/
structure Machine where
  state : BatteryState
  dbcToWarning : Nat
  dbcToCritical : Nat
  dbcToCharging : Nat
  dbcToNormal : Nat
  userApEnabled : Bool
  portsAllowed : Bool
  setModeResults : List Bool
  deriving DecidableEq, Repr

/-- The static initializers: `s_state = NORMAL`, counters at zero, the user AP on and the
    RFID reader free to power the ports. -/
def powerOn : Machine where
  state := .normal
  dbcToWarning := 0
  dbcToCritical := 0
  dbcToCharging := 0
  dbcToNormal := 0
  userApEnabled := true
  portsAllowed := true
  setModeResults := []

/-- One evaluated sample: the measured voltage, and whether `esp_wifi_set_mode` succeeds
    if this sample calls it. -/
structure Sample where
  voltage : ℚ
  setModeOk : Bool

/-- `set_user_ap_enabled` (`esp32_nat_router.c:461-478`): a failed mode switch leaves the
    flag as it was. -/
def setUserApEnabled (setModeOk enabled : Bool) (m : Machine) : Machine :=
  if m.userApEnabled = enabled then m
  else if setModeOk then
    { m with userApEnabled := enabled, setModeResults := true :: m.setModeResults }
  else { m with setModeResults := false :: m.setModeResults }

/-- `rfid_reader_set_ports_allowed` (`rfid_reader.c:324-337`), seen from the battery task:
    the flag the RFID task must obey. -/
def rfidReaderSetPortsAllowed (allowed : Bool) (m : Machine) : Machine :=
  { m with portsAllowed := allowed }

/-- `ap_on` of `apply_actions_for_state`. -/
def apOn (state : BatteryState) : Bool :=
  state == .normal

/-- `ports_on` of `apply_actions_for_state`. -/
def portsOn (state : BatteryState) : Bool :=
  state == .normal || state == .warning || state == .chargingOn

/-- `apply_actions_for_state` (`battery_sensor.c:135-151`). -/
def applyActionsForState (enforce setModeOk : Bool) (state : BatteryState) (m : Machine) :
    Machine :=
  if enforce then
    rfidReaderSetPortsAllowed (portsOn state) (setUserApEnabled setModeOk (apOn state) m)
  else m

/-- `transition_to` (`battery_sensor.c:153-168`). -/
def transitionTo (enforce setModeOk : Bool) (newState : BatteryState) (m : Machine) :
    Machine :=
  if newState = m.state then m
  else
    applyActionsForState enforce setModeOk newState
      { m with
        state := newState
        dbcToWarning := 0
        dbcToCritical := 0
        dbcToCharging := 0
        dbcToNormal := 0 }

/-- One debounce block of `evaluate_transitions`: `if (hit) { if (++counter >= N)
    transition_to(target) } else { counter = 0; }`, where `store` writes the counter. -/
def countTo (enforce setModeOk hit : Bool) (counter : Nat) (store : Nat → Machine → Machine)
    (target : BatteryState) (m : Machine) : Machine :=
  if hit then
    if debounceSamples ≤ counter + 1 then
      transitionTo enforce setModeOk target (store (counter + 1) m)
    else store (counter + 1) m
  else store 0 m

/-- The `below_warning` block of the `NORMAL` case. -/
def countToWarning (enforce : Bool) (s : Sample) (m : Machine) : Machine :=
  countTo enforce s.setModeOk (s.voltage < vWarningFall) m.dbcToWarning
    (fun n m => { m with dbcToWarning := n }) .warning m

/-- The `below_critical` block of the `WARNING` case. -/
def countToCritical (enforce : Bool) (s : Sample) (m : Machine) : Machine :=
  countTo enforce s.setModeOk (s.voltage < vCriticalFall) m.dbcToCritical
    (fun n m => { m with dbcToCritical := n }) .critical m

/-- The `above_charging` block shared by the `CRITICAL` and `WAKE_UP` cases. -/
def countToCharging (enforce : Bool) (s : Sample) (m : Machine) : Machine :=
  countTo enforce s.setModeOk (vChargingRise < s.voltage) m.dbcToCharging
    (fun n m => { m with dbcToCharging := n }) .chargingOn m

/-- The `above_normal` block shared by the `WARNING` and `CHARGING_ON` cases. -/
def countToNormal (enforce : Bool) (s : Sample) (m : Machine) : Machine :=
  countTo enforce s.setModeOk (vNormalRise < s.voltage) m.dbcToNormal
    (fun n m => { m with dbcToNormal := n }) .normal m

/-- `evaluate_transitions` (`battery_sensor.c:173-242`). The `WARNING` case runs both of
    its blocks on every sample, the second one also after the first has left `WARNING`. -/
def evaluateTransitions (enforce : Bool) (s : Sample) (m : Machine) : Machine :=
  match m.state with
  | .normal => countToWarning enforce s m
  | .warning => countToNormal enforce s (countToCritical enforce s m)
  | .critical => countToCharging enforce s m
  | .wakeUp => countToCharging enforce s m
  | .chargingOn => countToNormal enforce s m

/-- `determine_boot_state` (`battery_sensor.c:244-257`). -/
def determineBootState (voltage : ℚ) : BatteryState :=
  if vNormalRise < voltage then .normal
  else if vChargingRise < voltage then .chargingOn
  else if vWakeupBootLow < voltage then .wakeUp
  else if vCriticalFall < voltage then .warning
  else .critical

/-- The start of `battery_task` (`battery_sensor.c:259-281`): the boot state is taken from
    the averaged voltage and its actions are applied. -/
def boot (enforce : Bool) (average : Sample) : Machine :=
  let state := determineBootState average.voltage
  applyActionsForState enforce average.setModeOk state { powerOn with state := state }

/-- The evaluated samples of the `battery_task` loop, in order. A failed read evaluates
    nothing and is not listed. -/
def runSamples (enforce : Bool) (m : Machine) (samples : List Sample) : Machine :=
  samples.foldl (fun m s => evaluateTransitions enforce s m) m

/-- The states of the machine under enforcement reachable from a boot by any samples. -/
def Reachable (enforce : Bool) (m : Machine) : Prop :=
  ∃ average history, m = runSamples enforce (boot enforce average) history

/-! ## Effect of the actions -/

section Actions
variable (enforce setModeOk hit enabled : Bool) (state : BatteryState) (m : Machine)

@[simp] theorem setUserApEnabled_state :
    (setUserApEnabled setModeOk enabled m).state = m.state := by
  unfold setUserApEnabled
  split
  · rfl
  · split <;> rfl

@[simp] theorem setUserApEnabled_dbcToCritical :
    (setUserApEnabled setModeOk enabled m).dbcToCritical = m.dbcToCritical := by
  unfold setUserApEnabled
  split
  · rfl
  · split <;> rfl

@[simp] theorem applyActionsForState_state :
    (applyActionsForState enforce setModeOk state m).state = m.state := by
  cases enforce <;> simp [applyActionsForState, rfidReaderSetPortsAllowed]

@[simp] theorem applyActionsForState_dbcToCritical :
    (applyActionsForState enforce setModeOk state m).dbcToCritical = m.dbcToCritical := by
  cases enforce <;> simp [applyActionsForState, rfidReaderSetPortsAllowed]

theorem applyActionsForState_portsAllowed :
    (applyActionsForState true setModeOk state m).portsAllowed = portsOn state := rfl

@[simp] theorem transitionTo_state :
    (transitionTo enforce setModeOk state m).state = state := by
  unfold transitionTo
  split
  · rename_i same
    exact same.symm
  · simp

end Actions

end SolarConnect.Battery
