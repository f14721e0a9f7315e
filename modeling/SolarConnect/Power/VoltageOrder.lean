import SolarConnect.Misc.Runs
import SolarConnect.Power.ApSwitch
import SolarConnect.Power.DeepDischarge

/-!
# More voltage and less service

Two stations side by side, the second never below the voltage of the first. The simulation
`Below` relates their states and, for the edges both can take, their counters: the second is
ahead on the way up and behind on the way down. It has two holes. The boot ladder puts
`WAKE_UP`, which blocks the ports, above `WARNING`, which does not; and `CHARGING_ON` has no
falling edge, so that a station in it keeps its ports where one in `WARNING` gives them up.
-/

namespace SolarConnect.Battery

open Runs

/-! ## Two books -/

/-- The states that are entered on a rise. -/
def climbs : BatteryState → Bool
  | .chargingOn | .normal => true
  | .warning | .critical | .wakeUp => false

/-- The second state serves at least what the first one does. -/
def Serves (state state' : BatteryState) : Prop :=
  (portsOn state = true → portsOn state' = true) ∧ (apOn state = true → apOn state' = true)

instance (state state' : BatteryState) : Decidable (Serves state state') :=
  inferInstanceAs (Decidable (_ ∧ _))

/-- The second book serves no less, and is ahead on the way up and behind on the way down. -/
structure Below (b b' : Book) : Prop where
  serves : Serves b.state b'.state
  rising : ∀ target passes, climbs target = true → Edge b.state target passes →
    Edge b'.state target passes → b.counter target ≤ b'.counter target
  falling : ∀ target passes, climbs target = false → Edge b.state target passes →
    Edge b'.state target passes → b'.counter target ≤ b.counter target

/-- The sample sends the second station from `WARNING` to `CRITICAL` while the first one is in
    `CHARGING_ON`. -/
def OnlySecondFalls (b b' : Book) (v' : ℚ) : Prop :=
  b.state = .chargingOn ∧ b'.state = .warning ∧
    debounceSamples ≤ b'.counter .critical + 1 ∧ v' < vCriticalFall

theorem serves_normal {state : BatteryState} : Serves .normal state ↔ state = .normal := by
  cases state <;> decide

theorem serves_warning {state : BatteryState} :
    Serves .warning state ↔ state = .normal ∨ state = .warning ∨ state = .chargingOn := by
  cases state <;> decide

theorem serves_chargingOn {state : BatteryState} :
    Serves .chargingOn state ↔ state = .normal ∨ state = .warning ∨ state = .chargingOn := by
  cases state <;> decide

theorem serves_of_blocked {state state' : BatteryState} (off : portsOn state = false) :
    Serves state state' := by
  cases state with
  | critical => exact ⟨by simp [portsOn], by simp [apOn]⟩
  | wakeUp => exact ⟨by simp [portsOn], by simp [apOn]⟩
  | normal => simp [portsOn] at off
  | warning => simp [portsOn] at off
  | chargingOn => simp [portsOn] at off

section Edges
variable {state target next : BatteryState} {passes passes' : ℚ → Prop} {v v' : ℚ}

theorem Edge.rises (edge : Edge state target passes) (up : climbs target = true)
    (higher : v ≤ v') (met : passes v) : passes v' := by
  cases edge with
  | normalWarning => cases up
  | warningCritical => cases up
  | warningNormal => exact lt_of_lt_of_le met higher
  | criticalCharging => exact lt_of_lt_of_le met higher
  | wakeUpCharging => exact lt_of_lt_of_le met higher
  | chargingNormal => exact lt_of_lt_of_le met higher

theorem Edge.falls (edge : Edge state target passes) (down : climbs target = false)
    (higher : v ≤ v') (met : passes v') : passes v := by
  cases edge with
  | normalWarning => exact lt_of_le_of_lt higher met
  | warningCritical => exact lt_of_le_of_lt higher met
  | warningNormal => cases down
  | criticalCharging => cases down
  | wakeUpCharging => cases down
  | chargingNormal => cases down

/-- Nothing above a sample that completed a rise meets the falling threshold of the state it
    led to. -/
theorem Edge.not_back_down (edge : Edge state target passes) (up : climbs target = true)
    (back : Edge target next passes') (down : climbs next = false) (higher : v ≤ v')
    (met : passes v) : ¬ passes' v' := by
  cases edge with
  | normalWarning => cases up
  | warningCritical => cases up
  | warningNormal =>
    cases back
    exact not_lt.mpr ((warningFall_lt_chargingRise.trans chargingRise_lt_normalRise).trans
      (lt_of_lt_of_le met higher)).le
  | chargingNormal =>
    cases back
    exact not_lt.mpr ((warningFall_lt_chargingRise.trans chargingRise_lt_normalRise).trans
      (lt_of_lt_of_le met higher)).le
  | criticalCharging =>
    cases back
    cases down
  | wakeUpCharging =>
    cases back
    cases down

/-- Nothing below a sample that completed a fall meets the rising threshold of the state it
    led to. -/
theorem Edge.not_back_up (edge : Edge state target passes) (down : climbs target = false)
    (back : Edge target next passes') (up : climbs next = true) (higher : v ≤ v')
    (met : passes v') : ¬ passes' v := by
  cases edge with
  | normalWarning =>
    cases back with
    | warningCritical => cases up
    | warningNormal =>
      exact not_lt.mpr ((lt_of_le_of_lt higher met).trans
        (warningFall_lt_chargingRise.trans chargingRise_lt_normalRise)).le
  | warningCritical =>
    cases back
    exact not_lt.mpr ((lt_of_le_of_lt higher met).trans
      (criticalFall_lt_warningFall.trans warningFall_lt_chargingRise)).le
  | warningNormal => cases down
  | criticalCharging => cases down
  | wakeUpCharging => cases down
  | chargingNormal => cases down

/-- The first station makes a transition, and the second makes none that it could share. -/
theorem Serves.first_moves {state' : BatteryState} (serves : Serves state state')
    (edge : Edge state target passes)
    (outpaced : ∀ passes', climbs target = true → ¬ Edge state' target passes') :
    Serves target state' := by
  cases edge with
  | normalWarning =>
    rw [serves_normal.mp serves]
    decide
  | warningCritical => exact serves_of_blocked rfl
  | warningNormal =>
    rcases serves_warning.mp serves with rfl | rfl | rfl
    · decide
    · exact absurd .warningNormal (outpaced _ rfl)
    · exact absurd .chargingNormal (outpaced _ rfl)
  | criticalCharging =>
    cases state' with
    | critical => exact absurd .criticalCharging (outpaced _ rfl)
    | wakeUp => exact absurd .wakeUpCharging (outpaced _ rfl)
    | normal => decide
    | warning => decide
    | chargingOn => decide
  | wakeUpCharging =>
    cases state' with
    | critical => exact absurd .criticalCharging (outpaced _ rfl)
    | wakeUp => exact absurd .wakeUpCharging (outpaced _ rfl)
    | normal => decide
    | warning => decide
    | chargingOn => decide
  | chargingNormal =>
    rcases serves_chargingOn.mp serves with rfl | rfl | rfl
    · decide
    · exact absurd .warningNormal (outpaced _ rfl)
    · exact absurd .chargingNormal (outpaced _ rfl)

/-- The second station makes a transition, and the first makes none that it could share. -/
theorem Serves.second_moves {state' : BatteryState} (serves : Serves state state')
    (edge : Edge state' target passes)
    (outlasted : ∀ passes', climbs target = false → ¬ Edge state target passes')
    (other : ¬ (state = .chargingOn ∧ state' = .warning ∧ target = .critical)) :
    Serves state target := by
  cases edge with
  | normalWarning =>
    cases state with
    | normal => exact absurd .normalWarning (outlasted _ rfl)
    | warning => decide
    | critical => decide
    | wakeUp => decide
    | chargingOn => decide
  | warningCritical =>
    cases state with
    | normal => cases serves_normal.mp serves
    | warning => exact absurd .warningCritical (outlasted _ rfl)
    | critical => decide
    | wakeUp => decide
    | chargingOn => exact absurd ⟨rfl, rfl, rfl⟩ other
  | warningNormal => cases state <;> decide
  | chargingNormal => cases state <;> decide
  | criticalCharging =>
    cases state with
    | normal => cases serves_normal.mp serves
    | warning => decide
    | critical => decide
    | wakeUp => decide
    | chargingOn => decide
  | wakeUpCharging =>
    cases state with
    | normal => cases serves_normal.mp serves
    | warning => decide
    | critical => decide
    | wakeUp => decide
    | chargingOn => decide

/-- After a fall of the first station the two have no falling edge to share. -/
theorem Serves.no_shared_fall {state' : BatteryState} (serves : Serves state state')
    (edge : Edge state target passes) (down : climbs target = false)
    (back : Edge target next passes') (down' : climbs next = false) {passes'' : ℚ → Prop} :
    ¬ Edge state' next passes'' := by
  intro edge'
  cases edge with
  | normalWarning =>
    obtain rfl := serves_normal.mp serves
    cases back with
    | warningCritical => cases edge'
    | warningNormal => cases down'
  | warningCritical =>
    cases back
    cases down'
  | warningNormal => cases down
  | criticalCharging => cases down
  | wakeUpCharging => cases down
  | chargingNormal => cases down

/-- After a rise of the second station the two have no rising edge to share. -/
theorem Serves.no_shared_rise {state' : BatteryState} (serves : Serves state state')
    (edge' : Edge state' target passes) (up : climbs target = true)
    (back : Edge target next passes') (up' : climbs next = true) {passes'' : ℚ → Prop} :
    ¬ Edge state next passes'' := by
  intro edge
  cases edge' with
  | normalWarning => cases up
  | warningCritical => cases up
  | warningNormal =>
    cases back
    cases up'
  | chargingNormal =>
    cases back
    cases up'
  | criticalCharging =>
    cases back
    cases edge with
    | warningNormal => simp [serves_warning] at serves
    | chargingNormal => simp [serves_chargingOn] at serves
  | wakeUpCharging =>
    cases back
    cases edge with
    | warningNormal => simp [serves_warning] at serves
    | chargingNormal => simp [serves_chargingOn] at serves

theorem not_below_of_above (above : vChargingRise < v) (higher : v ≤ v') :
    ¬ v' < vWarningFall :=
  not_lt.mpr (warningFall_lt_chargingRise.trans (lt_of_lt_of_le above higher)).le

/-- Both stations make a transition. -/
theorem Serves.both_move {state' target' : BatteryState} (serves : Serves state state')
    (edge : Edge state target passes) (edge' : Edge state' target' passes') (higher : v ≤ v')
    (met : passes v) (met' : passes' v') : Serves target target' := by
  have toNormal : vNormalRise < v → (state' = .normal ∨ state' = .warning ∨ state' = .chargingOn) →
      Serves .normal target' := by
    intro above serving
    have notBelow := not_below_of_above (chargingRise_lt_normalRise.trans above) higher
    cases edge' with
    | normalWarning => exact absurd met' notBelow
    | warningCritical => exact absurd (met'.trans criticalFall_lt_warningFall) notBelow
    | warningNormal => decide
    | chargingNormal => decide
    | criticalCharging => simp at serving
    | wakeUpCharging => simp at serving
  have toCharging : vChargingRise < v → Serves .chargingOn target' := by
    intro above
    have notBelow := not_below_of_above above higher
    cases edge' with
    | warningCritical => exact absurd (met'.trans criticalFall_lt_warningFall) notBelow
    | normalWarning => decide
    | warningNormal => decide
    | chargingNormal => decide
    | criticalCharging => decide
    | wakeUpCharging => decide
  cases edge with
  | normalWarning =>
    obtain rfl := serves_normal.mp serves
    cases edge'
    decide
  | warningCritical => exact serves_of_blocked rfl
  | warningNormal => exact toNormal met (serves_warning.mp serves)
  | criticalCharging => exact toCharging met
  | wakeUpCharging => exact toCharging met
  | chargingNormal => exact toNormal met (serves_chargingOn.mp serves)

end Edges

/-! ## One sample on each side -/

section Step
variable {b b' : Book} {v v' : ℚ} {target : BatteryState} {passes : ℚ → Prop}

/-- A sample that meets a threshold without a transition is counted. -/
theorem advance_counter_of_stays (stays : (advance v b).state = b.state)
    (edge : Edge b.state target passes) (met : passes v) :
    (advance v b).counter target = b.counter target + 1 := by
  by_cases reached : debounceSamples ≤ b.counter target + 1
  · have entered := congrArg Book.state (advance_completes edge met reached)
    exact absurd (entered.symm.trans stays) edge.leaves
  · exact (advance_counts edge met reached).2

/-- Where the first station completes a rise that the second could make too, so does the
    second. -/
theorem Below.rises (below : Below b b') (higher : v ≤ v') (up : climbs target = true)
    (edge : Edge b.state target passes) (edge' : Edge b'.state target passes) (met : passes v)
    (reached : debounceSamples ≤ b.counter target + 1) : (advance v' b').state = target := by
  have ahead := below.rising target passes up edge edge'
  rw [advance_completes edge' (edge.rises up higher met) (by omega)]
  rfl

/-- Where the second station completes a fall that the first could make too, so does the
    first. -/
theorem Below.falls (below : Below b b') (higher : v ≤ v') (down : climbs target = false)
    (edge : Edge b.state target passes) (edge' : Edge b'.state target passes)
    (met : passes v') (reached : debounceSamples ≤ b'.counter target + 1) :
    (advance v b).state = target := by
  have behind := below.falling target passes down edge edge'
  rw [advance_completes edge (edge.falls down higher met) (by omega)]
  rfl

theorem Below.both_stay (below : Below b b') (higher : v ≤ v')
    (stays : (advance v b).state = b.state) (stays' : (advance v' b').state = b'.state) :
    Below (advance v b) (advance v' b') := by
  constructor
  · rw [stays, stays']
    exact below.serves
  · intro target passes up edge edge'
    rw [stays] at edge
    rw [stays'] at edge'
    by_cases met : passes v
    · have behind := below.rising target passes up edge edge'
      rw [advance_counter_of_stays stays edge met,
        advance_counter_of_stays stays' edge' (edge.rises up higher met)]
      omega
    · rw [advance_clears edge met]
      exact Nat.zero_le _
  · intro target passes down edge edge'
    rw [stays] at edge
    rw [stays'] at edge'
    by_cases met : passes v'
    · have ahead := below.falling target passes down edge edge'
      rw [advance_counter_of_stays stays' edge' met,
        advance_counter_of_stays stays edge (edge.falls down higher met)]
      omega
    · rw [advance_clears edge' met]
      exact Nat.zero_le _

theorem Below.first_moves (below : Below b b') (higher : v ≤ v')
    (edge : Edge b.state target passes) (met : passes v)
    (reached : debounceSamples ≤ b.counter target + 1)
    (stays' : (advance v' b').state = b'.state) :
    Below (.enter target) (advance v' b') := by
  have outpaced : ∀ passes', climbs target = true → ¬ Edge b'.state target passes' := by
    intro passes' up edge'
    obtain rfl := edge.same_threshold edge'
    have rises := below.rises higher up edge edge' met reached
    exact edge'.leaves (rises.symm.trans stays')
  constructor
  · rw [stays']
    exact below.serves.first_moves edge outpaced
  · intro target' passes' up back back'
    exact Nat.zero_le _
  · intro target' passes' down back back'
    rw [stays'] at back'
    have failed : ¬ passes' v' := by
      cases up : climbs target with
      | true => exact edge.not_back_down up back down higher met
      | false => exact absurd back' (below.serves.no_shared_fall edge up back down)
    exact (advance_clears back' failed).le

theorem Below.second_moves (below : Below b b') (higher : v ≤ v')
    (edge' : Edge b'.state target passes) (met' : passes v')
    (reached' : debounceSamples ≤ b'.counter target + 1)
    (stays : (advance v b).state = b.state) (other : ¬ OnlySecondFalls b b' v') :
    Below (advance v b) (.enter target) := by
  have outlasted : ∀ passes', climbs target = false → ¬ Edge b.state target passes' := by
    intro passes' down edge
    obtain rfl := edge'.same_threshold edge
    have falls := below.falls higher down edge edge' met' reached'
    exact edge.leaves (falls.symm.trans stays)
  constructor
  · rw [stays]
    apply below.serves.second_moves edge' outlasted
    rintro ⟨charging, warning, rfl⟩
    refine other ⟨charging, warning, reached', ?_⟩
    rw [warning] at edge'
    cases edge'
    exact met'
  · intro target' passes' up back back'
    rw [stays] at back
    have failed : ¬ passes' v := by
      cases down : climbs target with
      | true => exact absurd back (below.serves.no_shared_rise edge' down back' up)
      | false => exact edge'.not_back_up down back' up higher met'
    exact (advance_clears back failed).le
  · intro target' passes' down back back'
    exact Nat.zero_le _

theorem Below.step (below : Below b b') (higher : v ≤ v') (other : ¬ OnlySecondFalls b b' v') :
    Below (advance v b) (advance v' b') := by
  cases advance_effect v b with
  | stays stays =>
    cases advance_effect v' b' with
    | stays stays' => exact below.both_stay higher stays stays'
    | moves target' passes' edge' met' reached' enters' =>
      rw [enters']
      exact below.second_moves higher edge' met' reached' stays other
  | moves target passes edge met reached enters =>
    rw [enters]
    cases advance_effect v' b' with
    | stays stays' => exact below.first_moves higher edge met reached stays'
    | moves target' passes' edge' met' reached' enters' =>
      rw [enters']
      constructor
      · exact below.serves.both_move edge edge' higher met met'
      · intro _ _ _ _ _
        exact le_rfl
      · intro _ _ _ _ _
        exact le_rfl

/-- A first station in `CHARGING_ON` keeps its ports on a sample that makes the second one
    give them up. -/
theorem OnlySecondFalls.breaks (falls : OnlySecondFalls b b' v') :
    portsOn (advance v b).state = true ∧ portsOn (advance v' b').state = false := by
  obtain ⟨charging, warning, reached, low⟩ := falls
  constructor
  · cases advance_effect v b with
    | stays stays =>
      rw [stays, charging]
      rfl
    | moves target passes edge met _ enters =>
      rw [enters]
      rw [charging] at edge
      cases edge
      rfl
  · have edge : Edge b'.state .critical fun v => v < vCriticalFall := warning ▸ .warningCritical
    rw [advance_completes edge low reached]
    rfl

end Step

/-! ## Two runs -/

/-- Both stations evaluate a sample. -/
def sideBySide (p : Sample × Sample) (m : Machine × Machine) : Machine × Machine :=
  (evaluateTransitions true p.1 m.1, evaluateTransitions true p.2 m.2)

/-- Where the first station allows its ports, so does the second. -/
def NoFewerPorts (m m' : Machine) : Prop :=
  m.portsAllowed = true → m'.portsAllowed = true

/-- What the first station allows, the second one allows. -/
def NoLessService (m m' : Machine) : Prop :=
  (m.portsAllowed = true → m'.portsAllowed = true) ∧
    (m.userApEnabled = true → m'.userApEnabled = true)

instance (m m' : Machine) : Decidable (NoLessService m m') :=
  inferInstanceAs (Decidable (_ ∧ _))

/-- Boot averages on the two sides of `BATTERY_V_WAKEUP_BOOT_LOW`: the ladder sends the lower one
    to `WARNING` and the higher one to `WAKE_UP`. -/
def BootInverted (v v' : ℚ) : Prop :=
  (vCriticalFall < v ∧ v ≤ vWakeupBootLow) ∧ vWakeupBootLow < v' ∧ v' ≤ vChargingRise

/-- The sample of the second station does not make it fall alone. -/
def FallsTogether (p : Sample × Sample) (m : Machine × Machine) : Prop :=
  ¬ OnlySecondFalls m.1.book m.2.book p.2.voltage

theorem run_sideBySide (samples : List (Sample × Sample)) (m m' : Machine) :
    run sideBySide (m, m') samples =
      (runSamples true m (samples.map Prod.fst), runSamples true m' (samples.map Prod.snd)) := by
  induction samples generalizing m m' with
  | nil => rfl
  | cons p samples ih => exact ih _ _

/-- The boot ladder keeps the order everywhere else. -/
theorem serves_boot_iff {v v' : ℚ} (higher : v ≤ v') :
    Serves (determineBootState v) (determineBootState v') ↔ ¬ BootInverted v v' := by
  rw [determineBootState, determineBootState, BootInverted]
  by_cases normal : vNormalRise < v
  · have normal' : vNormalRise < v' := lt_of_lt_of_le normal higher
    have notLow : ¬ v' ≤ vChargingRise := not_le.mpr (chargingRise_lt_normalRise.trans normal')
    simp [normal, normal', notLow, serves_normal]
  by_cases charging : vChargingRise < v
  · have charging' : vChargingRise < v' := lt_of_lt_of_le charging higher
    have notLow : ¬ v' ≤ vChargingRise := not_le.mpr charging'
    by_cases normal' : vNormalRise < v'
    · simp [normal, charging, normal', notLow, serves_chargingOn]
    · simp [normal, charging, normal', charging', notLow, serves_chargingOn]
  by_cases wakeUp : vWakeupBootLow < v
  · have notLow : ¬ v ≤ vWakeupBootLow := not_le.mpr wakeUp
    simp only [normal, charging, wakeUp, notLow, if_true, if_false, and_false, false_and,
      not_false_eq_true, iff_true]
    exact serves_of_blocked rfl
  by_cases critical : vCriticalFall < v
  · have critical' : vCriticalFall < v' := lt_of_lt_of_le critical higher
    have low : v ≤ vWakeupBootLow := not_lt.mp wakeUp
    simp only [normal, charging, wakeUp, critical, critical', low, if_true, if_false, and_self,
      true_and, serves_warning]
    by_cases normal' : vNormalRise < v'
    · have high : ¬ v' ≤ vChargingRise := not_le.mpr (chargingRise_lt_normalRise.trans normal')
      simp [normal', high]
    by_cases charging' : vChargingRise < v'
    · simp [normal', charging', not_le.mpr charging']
    by_cases wakeUp' : vWakeupBootLow < v'
    · simp [normal', charging', wakeUp', not_lt.mp charging']
    · simp [normal', charging', wakeUp']
  · simp only [normal, charging, wakeUp, critical, if_false, false_and, not_false_eq_true, iff_true]
    exact serves_of_blocked rfl

/-- An inverted boot has the ports of the lower station on and those of the higher one off. -/
theorem BootInverted.breaks {v v' : ℚ} (inverted : BootInverted v v') :
    portsOn (determineBootState v) = true ∧ portsOn (determineBootState v') = false := by
  obtain ⟨⟨above, low⟩, above', low'⟩ := inverted
  have lowRise : ¬ vChargingRise < v := not_lt.mpr (low.trans (above'.le.trans low'))
  have lowNormal : ¬ vNormalRise < v := fun high =>
    lowRise (chargingRise_lt_normalRise.trans high)
  have lowNormal' : ¬ vNormalRise < v' := fun high =>
    not_lt.mpr low' (chargingRise_lt_normalRise.trans high)
  constructor
  · rw [determineBootState, if_neg lowNormal, if_neg lowRise, if_neg (not_lt.mpr low),
      if_pos above]
    rfl
  · rw [determineBootState, if_neg lowNormal', if_neg (not_lt.mpr low'), if_pos above']
    rfl

/-- The two stations start in order where the ladder is not inverted. -/
theorem Below.boot {average average' : Sample} (higher : average.voltage ≤ average'.voltage)
    (ordered : ¬ BootInverted average.voltage average'.voltage) :
    Below (boot true average).book (boot true average').book := by
  have zero : ∀ a target, (Battery.boot true a).book.counter target = 0 := by
    intro a target
    rw [boot_book]
    rfl
  refine ⟨?_, ?_, ?_⟩
  · rw [boot_book, boot_book]
    exact (serves_boot_iff higher).mpr ordered
  · intro target passes _ _ _
    rw [zero, zero]
  · intro target passes _ _ _
    rw [zero, zero]

/-- The states of the two stations after the samples. -/
def statesAfter (average average' : Sample) (samples : List (Sample × Sample)) :
    BatteryState × BatteryState :=
  let m := run sideBySide (boot true average, boot true average') samples
  (m.1.state, m.2.state)

theorem statesAfter_eq (average average' : Sample) (samples : List (Sample × Sample)) :
    statesAfter average average' samples =
      ((runSamples true (boot true average) (samples.map Prod.fst)).state,
        (runSamples true (boot true average') (samples.map Prod.snd)).state) := by
  rw [statesAfter, run_sideBySide]

/-- An order of the states that the simulation keeps and that the ports alone can lose holds
    all along the samples exactly where they avoid the two holes. -/
theorem keeps_order_iff (order : BatteryState → BatteryState → Prop)
    (ofServes : ∀ state state', Serves state state' → order state state')
    (ports : ∀ state state', order state state' → portsOn state = true → portsOn state' = true)
    (average average' : Sample) (samples : List (Sample × Sample))
    (higherBoot : average.voltage ≤ average'.voltage)
    (higher : ∀ p ∈ samples, p.1.voltage ≤ p.2.voltage) :
    (∀ prior, prior <+: samples →
        order (statesAfter average average' prior).1 (statesAfter average average' prior).2) ↔
      ¬ BootInverted average.voltage average'.voltage ∧
        Guarded sideBySide FallsTogether (boot true average, boot true average') samples := by
  have afterBoot : ¬ BootInverted average.voltage average'.voltage →
      ((∀ prior, prior <+: samples →
          order (statesAfter average average' prior).1
            (statesAfter average average' prior).2) ↔
        Guarded sideBySide FallsTogether (boot true average, boot true average') samples) := by
    intro ordered
    apply always_iff_guarded (fun m : Machine × Machine => order m.1.state m.2.state)
      (fun m => Below m.1.book m.2.book) (Below.boot higherBoot ordered)
    · intro m below
      exact ofServes _ _ below.serves
    · exact guarded_of_forall higher
    · intro p m below higher together
      have next := below.step higher together
      rw [← evaluateTransitions_book true, ← evaluateTransitions_book true] at next
      exact next
    · intro p m below higher apart kept
      obtain ⟨on, off⟩ := (not_not.mp apart).breaks (v := p.1.voltage)
      rw [← evaluateTransitions_book true] at on off
      have still : portsOn (evaluateTransitions true p.2 m.2).state = true := ports _ _ kept on
      exact absurd still (by simpa using off)
  constructor
  · intro always
    have ordered : ¬ BootInverted average.voltage average'.voltage := by
      intro inverted
      obtain ⟨on, off⟩ := inverted.breaks
      have first := always [] List.nil_prefix
      have state : ∀ a, (boot true a).state = determineBootState a.voltage := fun a =>
        congrArg Book.state (boot_book true a)
      have kept := ports _ _ first (by
        rw [← state] at on
        exact on)
      rw [← state] at off
      exact absurd kept (by simpa [statesAfter, run] using off)
    exact ⟨ordered, (afterBoot ordered).mp always⟩
  · rintro ⟨ordered, together⟩
    exact (afterBoot ordered).mpr together

/-- Where no mode switch of a run fails, its flags are what its states command. -/
theorem runSamples_flags (average : Sample) (samples prior : List Sample)
    (before : prior <+: samples)
    (switched : false ∉ (runSamples true (boot true average) samples).setModeResults) :
    (runSamples true (boot true average) prior).portsAllowed =
        portsOn (runSamples true (boot true average) prior).state ∧
      (runSamples true (boot true average) prior).userApEnabled =
        apOn (runSamples true (boot true average) prior).state := by
  refine ⟨reachable_actionsApplied ⟨average, prior, rfl⟩, runSamples_inStep average prior ?_⟩
  intro failed
  apply switched
  obtain ⟨rest, rfl⟩ := before
  have longer := runSamples_results rest _ failed
  simpa [runSamples] using longer

/-- The ports of the station with the higher voltages are always on where those of the other one
    are, if and only if the boot averages are not inverted and no sample makes it fall to
    `CRITICAL` alone. Where no `esp_wifi_set_mode` of either run fails, that is also exactly when
    it always serves at least what the other one does. -/
theorem more_voltage_serves_iff (average average' : Sample) (samples : List (Sample × Sample))
    (higherBoot : average.voltage ≤ average'.voltage)
    (higher : ∀ p ∈ samples, p.1.voltage ≤ p.2.voltage) :
    ((∀ prior, prior <+: samples →
        NoFewerPorts (runSamples true (boot true average) (prior.map Prod.fst))
          (runSamples true (boot true average') (prior.map Prod.snd))) ↔
      ¬ BootInverted average.voltage average'.voltage ∧
        Guarded sideBySide FallsTogether (boot true average, boot true average') samples) ∧
    (false ∉ (runSamples true (boot true average) (samples.map Prod.fst)).setModeResults →
      false ∉ (runSamples true (boot true average') (samples.map Prod.snd)).setModeResults →
      ((∀ prior, prior <+: samples →
          NoLessService (runSamples true (boot true average) (prior.map Prod.fst))
            (runSamples true (boot true average') (prior.map Prod.snd))) ↔
        ¬ BootInverted average.voltage average'.voltage ∧
          Guarded sideBySide FallsTogether (boot true average, boot true average') samples)) := by
  constructor
  · rw [← keeps_order_iff (fun state state' => portsOn state = true → portsOn state' = true)
      (fun _ _ serves => serves.1) (fun _ _ ports => ports) average average' samples higherBoot
      higher]
    apply forall_congr'
    intro prior
    have ports := reachable_actionsApplied ⟨average, prior.map Prod.fst, rfl⟩
    have ports' := reachable_actionsApplied ⟨average', prior.map Prod.snd, rfl⟩
    rw [statesAfter_eq, NoFewerPorts, ports, ports']
  · intro switched switched'
    rw [← keeps_order_iff Serves (fun _ _ serves => serves) (fun _ _ serves => serves.1) average
      average' samples higherBoot higher]
    apply forall_congr'
    intro prior
    apply forall_congr'
    intro before
    obtain ⟨ports, ap⟩ := runSamples_flags average _ _ (before.map Prod.fst) switched
    obtain ⟨ports', ap'⟩ := runSamples_flags average' _ _ (before.map Prod.snd) switched'
    rw [statesAfter_eq, NoLessService, Serves, ports, ap, ports', ap']

/-- Booted at 12.3 V and at 12.5 V: the lower station has its ports on and the higher one off. -/
theorem more_voltage_less_service :
    ¬ ∀ (average average' : Sample) (samples : List (Sample × Sample)),
      average.voltage ≤ average'.voltage → (∀ p ∈ samples, p.1.voltage ≤ p.2.voltage) →
      NoLessService (runSamples true (boot true average) (samples.map Prod.fst))
        (runSamples true (boot true average') (samples.map Prod.snd)) := by
  intro serves
  have less : ¬ NoLessService (boot true ⟨123 / 10, true⟩) (boot true ⟨125 / 10, true⟩) := by
    decide +kernel
  exact less (serves ⟨123 / 10, true⟩ ⟨125 / 10, true⟩ [] (by decide +kernel) (by simp))

/-- A station that boots at 13.3 V against one at 13.5 V, through one sample each. -/
theorem more_voltage_serves_iff_sunny :
    ((∀ prior, prior <+: [((⟨11, true⟩ : Sample), (⟨12, true⟩ : Sample))] →
        NoFewerPorts (runSamples true (boot true ⟨133 / 10, true⟩) (prior.map Prod.fst))
          (runSamples true (boot true ⟨135 / 10, true⟩) (prior.map Prod.snd))) ↔
      ¬ BootInverted (133 / 10) (135 / 10) ∧
        Guarded sideBySide FallsTogether (boot true ⟨133 / 10, true⟩, boot true ⟨135 / 10, true⟩)
          [((⟨11, true⟩ : Sample), (⟨12, true⟩ : Sample))]) ∧
    ((∀ prior, prior <+: [((⟨11, true⟩ : Sample), (⟨12, true⟩ : Sample))] →
        NoLessService (runSamples true (boot true ⟨133 / 10, true⟩) (prior.map Prod.fst))
          (runSamples true (boot true ⟨135 / 10, true⟩) (prior.map Prod.snd))) ↔
      ¬ BootInverted (133 / 10) (135 / 10) ∧
        Guarded sideBySide FallsTogether (boot true ⟨133 / 10, true⟩, boot true ⟨135 / 10, true⟩)
          [((⟨11, true⟩ : Sample), (⟨12, true⟩ : Sample))]) := by
  obtain ⟨ports, service⟩ := more_voltage_serves_iff ⟨133 / 10, true⟩ ⟨135 / 10, true⟩
    [((⟨11, true⟩ : Sample), (⟨12, true⟩ : Sample))] (by norm_num) (by norm_num)
  exact ⟨ports, service (by decide +kernel) (by decide +kernel)⟩

end SolarConnect.Battery
