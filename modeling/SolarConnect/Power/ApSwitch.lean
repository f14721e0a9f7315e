import Mathlib.Data.List.Induction
import SolarConnect.Power.Bookkeeping

/-!
# The user AP switch

`transition_to` commits the state before `set_user_ap_enabled` runs, and a failed
`esp_wifi_set_mode` leaves the AP flag behind. The flag is only looked at again on the next
transition, so one failure is enough to let the two drift apart.
-/

namespace SolarConnect.Battery

/-- The user AP flag is on exactly in `NORMAL`. -/
def InStep (m : Machine) : Prop :=
  m.userApEnabled = apOn m.state

instance (m : Machine) : Decidable (InStep m) :=
  inferInstanceAs (Decidable (_ = _))

/-- After a call that led from `m` to `m'`, the AP flag fits the state, or `esp_wifi_set_mode`
    was attempted in the call and failed. -/
def Retried (m m' : Machine) : Prop :=
  InStep m' ∨ m'.setModeResults = false :: m.setModeResults

instance (m m' : Machine) : Decidable (Retried m m') :=
  inferInstanceAs (Decidable (_ ∨ _))

/-! ## The switch on its own -/

/-- The AP flag and the outcomes of the mode switches so far. -/
structure ApSwitch where
  enabled : Bool
  results : List Bool

/-- The switch of a machine. -/
def Machine.apSwitch (m : Machine) : ApSwitch :=
  ⟨m.userApEnabled, m.setModeResults⟩

/-- What `set_user_ap_enabled` does to the switch. -/
def ApSwitch.turn (setModeOk enabled : Bool) (a : ApSwitch) : ApSwitch :=
  if a.enabled = enabled then a
  else if setModeOk then ⟨enabled, true :: a.results⟩
  else ⟨a.enabled, false :: a.results⟩

variable {setModeOk : Bool} {m m' : Machine} {s : Sample} {target : BatteryState}

theorem switch_same (same : m'.apSwitch = m.apSwitch) :
    m'.userApEnabled = m.userApEnabled ∧ m'.setModeResults = m.setModeResults :=
  ⟨congrArg ApSwitch.enabled same, congrArg ApSwitch.results same⟩

theorem setUserApEnabled_apSwitch (enabled : Bool) (m : Machine) :
    (setUserApEnabled setModeOk enabled m).apSwitch = m.apSwitch.turn setModeOk enabled := by
  rw [setUserApEnabled, ApSwitch.turn]
  split
  · exact (if_pos ‹_›).symm
  · rw [if_neg (show ¬ m.apSwitch.enabled = enabled from ‹_›)]
    split <;> rfl

theorem transitionTo_apSwitch (changed : target ≠ m.state) :
    (transitionTo true setModeOk target m).apSwitch =
      m.apSwitch.turn setModeOk (apOn target) := by
  rw [transitionTo, if_neg changed]
  exact setUserApEnabled_apSwitch (apOn target) _

/-- A turn leaves the flag as asked, or it is a failed attempt that leaves the other value. -/
theorem ApSwitch.turn_cases (setModeOk enabled : Bool) (a : ApSwitch) :
    ((a.turn setModeOk enabled).enabled = enabled ∧
        (false ∈ (a.turn setModeOk enabled).results ↔ false ∈ a.results)) ∨
      ((a.turn setModeOk enabled).enabled ≠ enabled ∧
        (a.turn setModeOk enabled).results = false :: a.results) := by
  rw [turn]
  split
  · exact Or.inl ⟨‹_›, Iff.rfl⟩
  · cases setModeOk with
    | true => exact Or.inl ⟨rfl, by simp⟩
    | false => exact Or.inr ⟨‹_›, rfl⟩

/-! ## One call -/

/-- What a call does to the switch: nothing while the state stays, and on a transition one turn
    towards the state that is entered. -/
inductive SwitchEffect (setModeOk : Bool) (m m' : Machine) : Prop
  | stays (state : m'.state = m.state) (same : m'.apSwitch = m.apSwitch)
  | moves (changed : m'.state ≠ m.state)
    (turned : m'.apSwitch = m.apSwitch.turn setModeOk (apOn m'.state))

/-- A debounce block whose counter is not part of the switch. -/
theorem countTo_switch {hit : Bool} {counter : Nat} {store : Nat → Machine → Machine}
    (changed : target ≠ m.state)
    (keeps : ∀ n, (store n m).state = m.state ∧ (store n m).apSwitch = m.apSwitch) :
    SwitchEffect setModeOk m (countTo true setModeOk hit counter store target m) := by
  have stays : ∀ n, SwitchEffect setModeOk m (store n m) := by
    intro n
    exact .stays (keeps n).1 (keeps n).2
  rw [countTo]
  split
  · split
    · obtain ⟨state, same⟩ := keeps (counter + 1)
      have different : target ≠ (store (counter + 1) m).state := by
        rw [state]
        exact changed
      apply SwitchEffect.moves
      · rw [transitionTo_state]
        exact changed
      · rw [transitionTo_state, transitionTo_apSwitch different, same]
    · exact stays _
  · exact stays _

theorem evaluateTransitions_switch (s : Sample) (m : Machine) :
    SwitchEffect s.setModeOk m (evaluateTransitions true s m) := by
  rw [evaluateTransitions]
  cases here : m.state with
  | normal => exact countTo_switch (by simp [here]) fun _ => ⟨rfl, rfl⟩
  | critical => exact countTo_switch (by simp [here]) fun _ => ⟨rfl, rfl⟩
  | wakeUp => exact countTo_switch (by simp [here]) fun _ => ⟨rfl, rfl⟩
  | chargingOn => exact countTo_switch (by simp [here]) fun _ => ⟨rfl, rfl⟩
  | warning =>
    simp only
    by_cases low : s.voltage < vCriticalFall
    · -- The second block only clears its counter.
      have notHigh : ¬ vNormalRise < s.voltage :=
        not_lt.mpr (low.trans criticalFall_lt_normalRise).le
      have second : countToNormal true s (countToCritical true s m) =
          { countToCritical true s m with dbcToNormal := 0 } := by
        simp [countToNormal, countTo, notHigh]
      have first : SwitchEffect s.setModeOk m (countToCritical true s m) :=
        countTo_switch (by simp [here]) fun _ => ⟨rfl, rfl⟩
      rw [second]
      cases first with
      | stays state same => exact .stays state same
      | moves changed turned => exact .moves changed turned
    · have counted : countToCritical true s m = { m with dbcToCritical := 0 } := by
        simp [countToCritical, countTo, low]
      have second : SwitchEffect s.setModeOk { m with dbcToCritical := 0 }
          (countToNormal true s { m with dbcToCritical := 0 }) :=
        countTo_switch (by simp [here]) fun _ => ⟨rfl, rfl⟩
      rw [counted]
      cases second with
      | stays state same => exact .stays state same
      | moves changed turned => exact .moves changed turned

/-- A call meets the property exactly when the flag fitted before it, or it completes a
    debounce. -/
theorem retried_step_iff (s : Sample) (m : Machine) :
    Retried m (evaluateTransitions true s m) ↔ InStep m ∨ Completes s.voltage m.book := by
  have book : (evaluateTransitions true s m).state = (advance s.voltage m.book).state :=
    congrArg Book.state (evaluateTransitions_book true m s)
  rw [← changes_iff_completes, ← book, Machine.book_state]
  cases evaluateTransitions_switch s m with
  | stays state same =>
    obtain ⟨flag, results⟩ := switch_same same
    have noAttempt : (evaluateTransitions true s m).setModeResults ≠
        false :: m.setModeResults := by
      rw [results]
      exact (List.cons_ne_self _ _).symm
    simp only [Retried, InStep, flag, state, noAttempt, ne_eq, not_true_eq_false]
  | moves changed turned =>
    refine iff_of_true ?_ (Or.inr changed)
    rcases ApSwitch.turn_cases s.setModeOk (apOn (evaluateTransitions true s m).state)
      m.apSwitch with ⟨fits, -⟩ | ⟨-, failed⟩
    · rw [← turned] at fits
      exact Or.inl fits
    · rw [← turned] at failed
      exact Or.inr failed

/-! ## Whole runs -/

/-- A machine that has just entered its state: no debounce is under way. -/
def Fresh (m : Machine) : Prop :=
  m.book = .enter m.state

theorem Fresh.not_completes (fresh : Fresh m) (v : ℚ) : ¬ Completes v m.book := by
  rintro ⟨target, passes, -, -, reached⟩
  rw [fresh] at reached
  have atOnce : debounceSamples ≤ 0 + 1 := reached
  exact absurd atOnce (by decide)

/-- The flag fits as long as no switch fails, and the first failure leaves a fresh machine out of
    step. -/
structure FirstFailure (before after : List Bool) (m : Machine) : Prop where
  fits : false ∉ after → InStep m
  fails : false ∉ before → false ∈ after → ¬ InStep m ∧ Fresh m

/-- One turn from a machine that has seen no failure. -/
theorem firstFailure_of_turn {before : ApSwitch}
    (turned : m.apSwitch = before.turn setModeOk (apOn m.state)) (fresh : Fresh m) :
    FirstFailure before.results m.setModeResults m := by
  rcases before.turn_cases setModeOk (apOn m.state) with ⟨enabled, results⟩ | ⟨other, results⟩
  · rw [← turned] at enabled results
    exact ⟨fun _ => enabled, fun none some => absurd (results.mp some) none⟩
  · rw [← turned] at other results
    have failed : m.setModeResults = false :: before.results := results
    exact ⟨fun none => absurd (failed ▸ List.mem_cons_self) none, fun _ _ => ⟨other, fresh⟩⟩

theorem boot_firstFailure (average : Sample) :
    FirstFailure [] (boot true average).setModeResults (boot true average) := by
  have state : (boot true average).state = determineBootState average.voltage :=
    applyActionsForState_state _ _ _ _
  have turned : (boot true average).apSwitch =
      powerOn.apSwitch.turn average.setModeOk (apOn (boot true average).state) := by
    rw [state]
    exact setUserApEnabled_apSwitch _ _
  apply firstFailure_of_turn turned
  rw [Fresh, boot_book, state]

theorem evaluateTransitions_firstFailure (s : Sample) (m : Machine)
    (fits : false ∉ m.setModeResults → InStep m) :
    FirstFailure m.setModeResults (evaluateTransitions true s m).setModeResults
      (evaluateTransitions true s m) := by
  cases evaluateTransitions_switch s m with
  | stays state same =>
    obtain ⟨flag, results⟩ := switch_same same
    constructor
    · intro none
      rw [results] at none
      rw [InStep, flag, state]
      exact fits none
    · intro none some
      rw [results] at some
      exact absurd some none
  | moves changed turned =>
    apply firstFailure_of_turn turned
    have book := evaluateTransitions_book true m s
    cases advance_effect s.voltage m.book with
    | stays stays => exact absurd ((congrArg Book.state book).trans stays) changed
    | moves target passes edge met reached enters =>
      have entered : (evaluateTransitions true s m).state = target :=
        congrArg Book.state (book.trans enters)
      rw [Fresh, entered]
      exact book.trans enters

theorem runSamples_concat (enforce : Bool) (m : Machine) (history : List Sample) (s : Sample) :
    runSamples enforce m (history ++ [s]) =
      evaluateTransitions enforce s (runSamples enforce m history) := by
  simp [runSamples]

/-- Outcomes are only added. -/
theorem runSamples_results (samples : List Sample) (m : Machine)
    (failed : false ∈ m.setModeResults) : false ∈ (runSamples true m samples).setModeResults := by
  induction samples generalizing m with
  | nil => exact failed
  | cons s samples ih =>
    apply ih
    have first := evaluateTransitions_switch s m
    cases first with
    | stays state same =>
      have results : (evaluateTransitions true s m).setModeResults = m.setModeResults :=
        congrArg ApSwitch.results same
      rw [results]
      exact failed
    | moves changed turned =>
      have results : (evaluateTransitions true s m).setModeResults = _ :=
        congrArg ApSwitch.results turned
      rw [results]
      rcases ApSwitch.turn_cases s.setModeOk (apOn (evaluateTransitions true s m).state)
        m.apSwitch with ⟨-, kept⟩ | ⟨-, more⟩
      · exact kept.mpr failed
      · rw [more]
        exact List.mem_cons_self

theorem runSamples_inStep (average : Sample) (history : List Sample) :
    false ∉ (runSamples true (boot true average) history).setModeResults →
      InStep (runSamples true (boot true average) history) := by
  induction history using List.reverseRecOn with
  | nil => exact (boot_firstFailure average).fits
  | append_singleton history s ih =>
    rw [runSamples_concat]
    exact (evaluateTransitions_firstFailure s _ ih).fits

/-- The call after the first failure neither finds the flag in step nor tries again. -/
theorem not_retried_of_failure (average : Sample) (history : List Sample) (s : Sample)
    (failed : false ∈ (runSamples true (boot true average) history).setModeResults) :
    ∃ prior t, prior ++ [t] <+: history ++ [s] ∧
      ¬ Retried (runSamples true (boot true average) prior)
        (runSamples true (boot true average) (prior ++ [t])) := by
  have lost : ∀ m : Machine, ¬ InStep m ∧ Fresh m →
      ∀ t, ¬ Retried m (evaluateTransitions true t m) := by
    rintro m ⟨other, fresh⟩ t retried
    rcases (retried_step_iff t m).mp retried with fits | completes
    · exact other fits
    · exact fresh.not_completes t.voltage completes
  induction history using List.reverseRecOn generalizing s with
  | nil =>
    refine ⟨[], s, List.prefix_refl _, ?_⟩
    exact lost _ ((boot_firstFailure average).fails (by simp) failed) s
  | append_singleton history t ih =>
    by_cases earlier : false ∈ (runSamples true (boot true average) history).setModeResults
    · obtain ⟨prior, u, before, notRetried⟩ := ih t earlier
      exact ⟨prior, u, before.trans (List.prefix_append _ _), notRetried⟩
    · rw [runSamples_concat] at failed
      have first := evaluateTransitions_firstFailure t _ (runSamples_inStep average history)
      refine ⟨history ++ [t], s, List.prefix_refl _, ?_⟩
      rw [runSamples_concat true _ _ s, runSamples_concat true _ history t]
      exact lost _ (first.fails earlier failed) s

/-- Every call of a run leaves the AP flag in step or has just tried and failed, if and only if no
    `esp_wifi_set_mode` before the last call fails. -/
theorem retried_iff (average : Sample) (history : List Sample) (s : Sample) :
    (∀ prior t, prior ++ [t] <+: history ++ [s] →
        Retried (runSamples true (boot true average) prior)
          (runSamples true (boot true average) (prior ++ [t]))) ↔
      false ∉ (runSamples true (boot true average) history).setModeResults := by
  constructor
  · intro retried failed
    obtain ⟨prior, t, before, notRetried⟩ := not_retried_of_failure average history s failed
    exact notRetried (retried prior t before)
  · intro none prior t before
    have shorter : prior <+: history := by
      rcases List.prefix_concat_iff.mp before with whole | inside
      · obtain ⟨rfl, -⟩ := List.append_inj' whole rfl
        exact List.prefix_rfl
      · exact (List.prefix_append prior [t]).trans inside
    obtain ⟨rest, rfl⟩ := shorter
    rw [runSamples_concat, retried_step_iff]
    left
    apply runSamples_inStep
    intro failed
    apply none
    have longer := runSamples_results rest _ failed
    simpa [runSamples] using longer

/-- A boot at 12.2 V whose mode switch fails: the next sample leaves the AP on in `WARNING` and
    does not try again. -/
theorem ap_switch_not_retried :
    ¬ ∀ (average : Sample) (history : List Sample) (s : Sample),
      Retried (runSamples true (boot true average) history)
        (runSamples true (boot true average) (history ++ [s])) := by
  intro retried
  have fails : ¬ Retried (runSamples true (boot true ⟨122 / 10, false⟩) [])
      (runSamples true (boot true ⟨122 / 10, false⟩) [⟨122 / 10, true⟩]) := by
    decide +kernel
  exact fails (retried ⟨122 / 10, false⟩ [] ⟨122 / 10, true⟩)

end SolarConnect.Battery
