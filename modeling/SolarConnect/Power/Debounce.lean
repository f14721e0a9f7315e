import SolarConnect.Misc.Runs
import SolarConnect.Power.Bookkeeping

/-!
# Debounced transitions

A transition needs `BATTERY_DEBOUNCE_SAMPLES` samples in a row that were evaluated in its
state and met its threshold. The history invariant is `Counted`: a counter that is not zero
belongs to an edge of the current state, and counts the latest samples.
-/

namespace SolarConnect.Battery

open Runs

/-- The evaluated samples of a run, each with the state it was evaluated in. -/
def evaluations (enforce : Bool) (m : Machine) : List Sample → List (BatteryState × Sample)
  | [] => []
  | s :: samples => (m.state, s) :: evaluations enforce (evaluateTransitions enforce s m) samples

/-- The values of `s_state` during one call of `evaluate_transitions`: on entry and after each
    debounce block. `WARNING` has two blocks, every other state has one. -/
def statesDuring (enforce : Bool) (s : Sample) (m : Machine) : List BatteryState :=
  match m.state with
  | .warning =>
    [m.state, (countToCritical enforce s m).state, (evaluateTransitions enforce s m).state]
  | _ => [m.state, (evaluateTransitions enforce s m).state]

/-- How often neighbouring states differ. -/
def changes : List BatteryState → Nat
  | a :: b :: states => (if a = b then 0 else 1) + changes (b :: states)
  | _ => 0

/-- The sample was evaluated in the state and passed the threshold. -/
def Passed (state : BatteryState) (passes : ℚ → Prop) (e : BatteryState × Sample) : Prop :=
  e.1 = state ∧ passes e.2.voltage

/-- Every counter is zero or counts latest samples towards an edge of the current state. -/
def Counted (log : List (BatteryState × Sample)) (b : Book) : Prop :=
  ∀ target, b.counter target = 0 ∨
    ∃ passes, Edge b.state target passes ∧
      LastAll (b.counter target) (Passed b.state passes) log

theorem counted_enter (log : List (BatteryState × Sample)) (state : BatteryState) :
    Counted log (.enter state) := by
  intro target
  exact Or.inl rfl

/-- The counter of an edge counts latest samples, also when it is zero. -/
theorem Counted.streak {log : List (BatteryState × Sample)} {b : Book} (counted : Counted log b)
    {target : BatteryState} {passes : ℚ → Prop} (edge : Edge b.state target passes) :
    LastAll (b.counter target) (Passed b.state passes) log := by
  rcases counted target with zero | ⟨passes', edge', last⟩
  · rw [zero]
    exact LastAll.zero _ log
  · rw [edge.same_threshold edge']
    exact last

theorem Counted.step {log : List (BatteryState × Sample)} {b : Book} (counted : Counted log b)
    (s : Sample) : Counted (log ++ [(b.state, s)]) (advance s.voltage b) := by
  cases advance_effect s.voltage b with
  | moves target passes edge met reached enters =>
    rw [enters]
    exact counted_enter _ target
  | stays state counters =>
    intro target
    rcases counters target with zero | ⟨passes, edge, met, next⟩ | ⟨noEdge, same⟩
    · exact Or.inl zero
    · right
      rw [state, next]
      exact ⟨passes, edge, (counted.streak edge).concat ⟨rfl, met⟩⟩
    · -- A counter without an edge was zero and stays zero.
      rcases counted target with zero | ⟨passes, edge, -⟩
      · exact Or.inl (same.trans zero)
      · exact absurd edge (noEdge passes)

variable (enforce : Bool)

theorem runSamples_counted (samples : List Sample) (m : Machine)
    (log : List (BatteryState × Sample)) (counted : Counted log m.book) :
    Counted (log ++ evaluations enforce m samples) (runSamples enforce m samples).book := by
  induction samples generalizing m log with
  | nil =>
    rw [evaluations, List.append_nil]
    exact counted
  | cons s samples ih =>
    have next : Counted (log ++ [(m.state, s)]) (evaluateTransitions enforce s m).book := by
      rw [evaluateTransitions_book]
      exact counted.step s
    have rest := ih (evaluateTransitions enforce s m) (log ++ [(m.state, s)]) next
    rw [List.append_assoc] at rest
    exact rest

theorem evaluations_concat (samples : List Sample) (m : Machine) (s : Sample) :
    evaluations enforce m (samples ++ [s]) =
      evaluations enforce m samples ++ [((runSamples enforce m samples).state, s)] := by
  induction samples generalizing m with
  | nil => rfl
  | cons t samples ih =>
    have rest := ih (evaluateTransitions enforce t m)
    rw [List.cons_append, evaluations, evaluations, List.cons_append, rest]
    rfl

/-- The second block of `WARNING` finds a state that the first has left only on a sample that it
    does not count. -/
theorem changes_statesDuring (s : Sample) (m : Machine) :
    changes (statesDuring enforce s m) ≤ 1 := by
  have two : ∀ a b : BatteryState, changes [a, b] ≤ 1 := by
    intro a b
    by_cases same : a = b
    · simp [changes, same]
    · simp [changes, same]
  rw [statesDuring]
  cases here : m.state with
  | warning =>
    have second : evaluateTransitions enforce s m =
        countToNormal enforce s (countToCritical enforce s m) := by
      rw [evaluateTransitions, here]
    by_cases low : s.voltage < vCriticalFall
    · have notHigh : ¬ vNormalRise < s.voltage :=
        not_lt.mpr (low.trans criticalFall_lt_normalRise).le
      have keeps : (evaluateTransitions enforce s m).state =
          (countToCritical enforce s m).state := by
        rw [second]
        simp [countToNormal, countTo, notHigh]
      have last := two .warning (countToCritical enforce s m).state
      rw [keeps]
      simpa [changes] using last
    · have first : (countToCritical enforce s m).state = .warning := by
        simp [countToCritical, countTo, low, here]
      have last := two .warning (evaluateTransitions enforce s m).state
      rw [first]
      simpa [changes] using last
  | normal => exact two _ _
  | critical => exact two _ _
  | wakeUp => exact two _ _
  | chargingOn => exact two _ _

/-- At every sample of every run the state changes at most once, and only along an edge whose
    threshold the last `BATTERY_DEBOUNCE_SAMPLES` samples, this one included, all met in the
    state that is left. -/
theorem transitions_debounced (average : Sample) (history : List Sample) (s : Sample) :
    changes (statesDuring enforce s (runSamples enforce (boot enforce average) history)) ≤ 1 ∧
      ((runSamples enforce (boot enforce average) (history ++ [s])).state ≠
          (runSamples enforce (boot enforce average) history).state →
        ∃ passes,
          Edge (runSamples enforce (boot enforce average) history).state
            (runSamples enforce (boot enforce average) (history ++ [s])).state passes ∧
          LastAll debounceSamples
            (Passed (runSamples enforce (boot enforce average) history).state passes)
            (evaluations enforce (boot enforce average) (history ++ [s]))) := by
  refine ⟨changes_statesDuring enforce s _, ?_⟩
  intro changed
  have started : Counted [] (boot enforce average).book := by
    rw [boot_book]
    exact counted_enter _ _
  have counted := runSamples_counted enforce history _ _ started
  rw [List.nil_append] at counted
  have concat : runSamples enforce (boot enforce average) (history ++ [s]) =
      evaluateTransitions enforce s (runSamples enforce (boot enforce average) history) := by
    simp [runSamples]
  rw [evaluations_concat]
  rw [concat] at changed ⊢
  generalize runSamples enforce (boot enforce average) history = m at *
  have book := evaluateTransitions_book enforce m s
  cases advance_effect s.voltage m.book with
  | moves target passes edge met reached enters =>
    have entered : (evaluateTransitions enforce s m).state = target :=
      congrArg Book.state (book.trans enters)
    rw [entered]
    refine ⟨passes, edge, ?_⟩
    have streak := (counted.streak edge).concat (a := (m.state, s)) ⟨rfl, met⟩
    exact streak.mono reached
  | stays state counters =>
    have same : (evaluateTransitions enforce s m).state = m.state :=
      (congrArg Book.state book).trans state
    exact absurd same changed

/-- A boot at 13.3 V followed by samples at 12 V: the sixth one ends `NORMAL`. -/
def sag : List Sample := List.replicate 5 ⟨12, true⟩

theorem transitions_debounced_sag :
    ∃ passes, Edge .normal .warning passes ∧
      LastAll debounceSamples (Passed .normal passes)
        (evaluations true (boot true ⟨133 / 10, true⟩) (sag ++ [⟨12, true⟩])) := by
  have left : (runSamples true (boot true ⟨133 / 10, true⟩) sag).state = .normal := by
    decide +kernel
  have entered : (runSamples true (boot true ⟨133 / 10, true⟩) (sag ++ [⟨12, true⟩])).state =
      .warning := by
    decide +kernel
  have debounced := (transitions_debounced true ⟨133 / 10, true⟩ sag ⟨12, true⟩).2
  rw [left, entered] at debounced
  exact debounced (by decide)

end SolarConnect.Battery
