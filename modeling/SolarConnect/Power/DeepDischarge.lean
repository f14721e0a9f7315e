import SolarConnect.Power.Battery

/-!
# Deep-discharge protection

What a sustained voltage below `BATTERY_V_CRITICAL_FALL` does in each state. `NORMAL`
falls to `WARNING` and then to `CRITICAL`, `WARNING` falls to `CRITICAL`, and `CRITICAL`
and `WAKE_UP` already block the ports. `CHARGING_ON` has no falling edge at all.
-/

namespace SolarConnect.Battery

/-- Every sample is below `BATTERY_V_CRITICAL_FALL`. -/
def AllCritical (samples : List Sample) : Prop :=
  ∀ s ∈ samples, s.voltage < vCriticalFall

/-- The state's action blocks the ports and `rfid_reader_set_ports_allowed(false)` is in
    force. -/
def PortsBlocked (m : Machine) : Prop :=
  portsOn m.state = false ∧ m.portsAllowed = false

/-! ## The port gate follows the state -/

/-- The port gate holds what the actions of the current state set. -/
def ActionsApplied (m : Machine) : Prop :=
  m.portsAllowed = portsOn m.state

theorem transitionTo_actionsApplied (setModeOk : Bool) (state : BatteryState) (m : Machine)
    (applied : ActionsApplied m) : ActionsApplied (transitionTo true setModeOk state m) := by
  unfold transitionTo
  split
  · exact applied
  · rw [ActionsApplied, applyActionsForState_portsAllowed, applyActionsForState_state]

theorem countTo_actionsApplied (setModeOk hit : Bool) (counter : Nat)
    (store : Nat → Machine → Machine) (state : BatteryState) (m : Machine)
    (keeps : ∀ n, ActionsApplied (store n m)) :
    ActionsApplied (countTo true setModeOk hit counter store state m) := by
  unfold countTo
  split
  · split
    · exact transitionTo_actionsApplied setModeOk state _ (keeps _)
    · exact keeps _
  · exact keeps _

theorem evaluateTransitions_actionsApplied (s : Sample) (m : Machine)
    (applied : ActionsApplied m) : ActionsApplied (evaluateTransitions true s m) := by
  unfold evaluateTransitions
  split
  case h_2 =>
    exact countTo_actionsApplied _ _ _ _ _ _ fun _ =>
      countTo_actionsApplied _ _ _ _ _ m fun _ => applied
  all_goals exact countTo_actionsApplied _ _ _ _ _ m fun _ => applied

theorem runSamples_actionsApplied (samples : List Sample) (m : Machine)
    (applied : ActionsApplied m) : ActionsApplied (runSamples true m samples) := by
  induction samples generalizing m with
  | nil => exact applied
  | cons s samples ih => exact ih _ (evaluateTransitions_actionsApplied s m applied)

theorem reachable_actionsApplied {m : Machine} (reachable : Reachable true m) :
    ActionsApplied m := by
  obtain ⟨average, history, rfl⟩ := reachable
  apply runSamples_actionsApplied
  rw [ActionsApplied, boot, applyActionsForState_portsAllowed, applyActionsForState_state]

/-! ## Falling under critical samples -/

/-- How many further critical samples bring the machine to a port-off state. -/
def samplesToBlock (m : Machine) : Nat :=
  match m.state with
  | .normal => max 1 (debounceSamples - m.dbcToWarning) + debounceSamples
  | .warning => max 1 (debounceSamples - m.dbcToCritical)
  | .critical | .wakeUp | .chargingOn => 0

theorem samplesToBlock_le (m : Machine) : samplesToBlock m ≤ 2 * debounceSamples := by
  unfold samplesToBlock
  split <;> simp only [debounceSamples] <;> omega

/-- One critical sample: `CHARGING_ON` is neither entered nor left, and outside of it the
    machine is one sample closer to a port-off state. -/
theorem evaluateTransitions_critical (s : Sample) (m : Machine)
    (low : s.voltage < vCriticalFall) :
    ((evaluateTransitions true s m).state = .chargingOn ↔ m.state = .chargingOn) ∧
      samplesToBlock (evaluateTransitions true s m) ≤ samplesToBlock m - 1 := by
  have warn : s.voltage < vWarningFall := low.trans criticalFall_lt_warningFall
  have noCharge : ¬ vChargingRise < s.voltage :=
    (warn.trans warningFall_lt_chargingRise).not_gt
  have noNormal : ¬ vNormalRise < s.voltage :=
    ((warn.trans warningFall_lt_chargingRise).trans chargingRise_lt_normalRise).not_gt
  unfold evaluateTransitions
  split
  case h_1 st =>
    by_cases reached : debounceSamples ≤ m.dbcToWarning + 1
    · have state : (countToWarning true s m).state = .warning := by
        simp [countToWarning, countTo, warn, reached]
      have cleared : (countToWarning true s m).dbcToCritical = 0 := by
        simp [countToWarning, countTo, warn, reached, transitionTo, st]
      refine ⟨by simp [state, st], ?_⟩
      simp only [samplesToBlock, state, cleared, st, debounceSamples]
      omega
    · have counted : countToWarning true s m = { m with dbcToWarning := m.dbcToWarning + 1 } := by
        simp [countToWarning, countTo, warn, reached]
      rw [counted]
      refine ⟨Iff.rfl, ?_⟩
      simp only [samplesToBlock, st, debounceSamples] at reached ⊢
      omega
  case h_2 st =>
    by_cases reached : debounceSamples ≤ m.dbcToCritical + 1
    · simp [countToCritical, countToNormal, countTo, low, noNormal, reached, samplesToBlock, st]
    · have counted : countToNormal true s (countToCritical true s m) =
          { m with dbcToCritical := m.dbcToCritical + 1, dbcToNormal := 0 } := by
        simp [countToCritical, countToNormal, countTo, low, noNormal, reached]
      rw [counted]
      refine ⟨Iff.rfl, ?_⟩
      simp only [samplesToBlock, st, debounceSamples] at reached ⊢
      omega
  case h_3 st => simp [countToCharging, countTo, noCharge, samplesToBlock, st]
  case h_4 st => simp [countToCharging, countTo, noCharge, samplesToBlock, st]
  case h_5 st => simp [countToNormal, countTo, noNormal, samplesToBlock, st]

theorem runSamples_critical (samples : List Sample) (m : Machine) (low : AllCritical samples) :
    ((runSamples true m samples).state = .chargingOn ↔ m.state = .chargingOn) ∧
      samplesToBlock (runSamples true m samples) ≤ samplesToBlock m - samples.length := by
  induction samples generalizing m with
  | nil => simp [runSamples]
  | cons s samples ih =>
    have step := evaluateTransitions_critical s m (low s (by simp))
    have rest := ih (evaluateTransitions true s m) fun t member => low t (by simp [member])
    refine ⟨rest.1.trans step.1, ?_⟩
    have reaches : samplesToBlock (runSamples true m (s :: samples)) ≤
        samplesToBlock (evaluateTransitions true s m) - samples.length := rest.2
    simp only [List.length_cons]
    omega

/-- A machine with no sample left to fall through, other than in `CHARGING_ON`, is in a
    port-off state. -/
theorem portsOn_of_samplesToBlock_eq_zero {m : Machine} (fallen : samplesToBlock m = 0)
    (other : m.state ≠ .chargingOn) : portsOn m.state = false := by
  cases state : m.state <;> simp_all [samplesToBlock, portsOn]

/-- From every reachable state, two debounce windows of critical samples block the charging
    ports if and only if the state before them is not `CHARGING_ON`. -/
theorem deepDischarge_blocks_iff (m : Machine) (samples : List Sample)
    (reachable : Reachable true m) (length : samples.length = 2 * debounceSamples)
    (low : AllCritical samples) :
    PortsBlocked (runSamples true m samples) ↔ m.state ≠ .chargingOn := by
  have applied := runSamples_actionsApplied samples m (reachable_actionsApplied reachable)
  have fall := runSamples_critical samples m low
  have bound := samplesToBlock_le m
  constructor
  · rintro ⟨off, -⟩ charging
    rw [fall.1.mpr charging] at off
    simp [portsOn] at off
  · intro other
    have off : portsOn (runSamples true m samples).state = false :=
      portsOn_of_samplesToBlock_eq_zero (by omega) fun charging => other (fall.1.mp charging)
    exact ⟨off, applied.trans off⟩

/-- A boot at 13 V, then two debounce windows at 11 V. -/
def chargingBoot : Sample := ⟨13, true⟩

def deepSamples : List Sample := List.replicate (2 * debounceSamples) ⟨11, true⟩

theorem deepSamples_critical : AllCritical deepSamples := by
  intro s member
  obtain rfl := List.eq_of_mem_replicate member
  norm_num [vCriticalFall]

/-- Booted at 12.5 V the machine wakes up with the ports off, and keeps them off. -/
theorem deepDischarge_blocks_iff_wakeUp :
    PortsBlocked (runSamples true (boot true ⟨125 / 10, true⟩) deepSamples) ↔
      (boot true ⟨125 / 10, true⟩).state ≠ .chargingOn :=
  deepDischarge_blocks_iff _ deepSamples ⟨⟨125 / 10, true⟩, [], rfl⟩ rfl deepSamples_critical

/-- The protection fails: a station booted at 13 V starts in `CHARGING_ON` and keeps its
    ports on through any number of samples at 11 V. -/
theorem deepDischarge_not_protected :
    ¬ ∀ (m : Machine) (samples : List Sample), Reachable true m →
      samples.length = 2 * debounceSamples → AllCritical samples →
      PortsBlocked (runSamples true m samples) := by
  intro protects
  have blocked := protects (boot true chargingBoot) deepSamples ⟨chargingBoot, [], rfl⟩ rfl
    deepSamples_critical
  have charging : (boot true chargingBoot).state = .chargingOn := by
    norm_num [boot, chargingBoot, determineBootState, vNormalRise, vChargingRise]
  have off := blocked.1
  rw [(runSamples_critical deepSamples _ deepSamples_critical).1.mpr charging] at off
  simp [portsOn] at off

end SolarConnect.Battery
