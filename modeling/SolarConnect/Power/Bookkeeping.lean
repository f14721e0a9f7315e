import SolarConnect.Power.Battery

/-!
# Bookkeeping of the battery states

The state and the debounce counters on their own, without the actions. There is one counter
for each state that can be entered. `advance` says what one sample does to them, `Edge` lists
the transitions with their thresholds, and `advance_effect` is the only fact about a sample
that the results about sequences of samples need.
-/

namespace SolarConnect.Battery

/-- `s_state`, and the debounce counters by the state they lead to. -/
structure Book where
  state : BatteryState
  counter : BatteryState → Nat

/-- The bookkeeping of a machine. -/
def Machine.book (m : Machine) : Book where
  state := m.state
  counter
    | .warning => m.dbcToWarning
    | .critical => m.dbcToCritical
    | .chargingOn => m.dbcToCharging
    | .normal => m.dbcToNormal
    | .wakeUp => 0

@[simp] theorem Machine.book_state (m : Machine) : m.book.state = m.state := rfl

/-- A state just entered. -/
def Book.enter (state : BatteryState) : Book := ⟨state, fun _ => 0⟩

/-- One counter written. -/
def Book.set (b : Book) (target : BatteryState) (n : Nat) : Book :=
  { b with counter := Function.update b.counter target n }

theorem Book.set_state (b : Book) (target : BatteryState) (n : Nat) :
    (b.set target n).state = b.state := rfl

theorem Book.set_own (b : Book) (target : BatteryState) (n : Nat) :
    (b.set target n).counter target = n := Function.update_self _ _ _

theorem Book.set_other {target other : BatteryState} (different : other ≠ target) (b : Book)
    (n : Nat) : (b.set target n).counter other = b.counter other :=
  Function.update_of_ne different _ _

/-- A debounce block. -/
def debounce (hit : Bool) (target : BatteryState) (b : Book) : Book :=
  if hit then
    if debounceSamples ≤ b.counter target + 1 then .enter target
    else b.set target (b.counter target + 1)
  else b.set target 0

/-- What a sample does to the bookkeeping. -/
def advance (v : ℚ) (b : Book) : Book :=
  match b.state with
  | .normal => debounce (v < vWarningFall) .warning b
  | .warning =>
    if v < vCriticalFall then debounce true .critical (b.set .normal 0)
    else debounce (vNormalRise < v) .normal (b.set .critical 0)
  | .critical => debounce (vChargingRise < v) .chargingOn b
  | .wakeUp => debounce (vChargingRise < v) .chargingOn b
  | .chargingOn => debounce (vNormalRise < v) .normal b

/-- The transitions and the threshold of each. -/
inductive Edge : BatteryState → BatteryState → (ℚ → Prop) → Prop
  | normalWarning : Edge .normal .warning fun v => v < vWarningFall
  | warningCritical : Edge .warning .critical fun v => v < vCriticalFall
  | warningNormal : Edge .warning .normal fun v => vNormalRise < v
  | criticalCharging : Edge .critical .chargingOn fun v => vChargingRise < v
  | wakeUpCharging : Edge .wakeUp .chargingOn fun v => vChargingRise < v
  | chargingNormal : Edge .chargingOn .normal fun v => vNormalRise < v

/-- The sample is the last one that a debounce of the current state needs. -/
def Completes (v : ℚ) (b : Book) : Prop :=
  ∃ target passes, Edge b.state target passes ∧ passes v ∧
    debounceSamples ≤ b.counter target + 1

theorem Edge.leaves {state target : BatteryState} {passes : ℚ → Prop}
    (edge : Edge state target passes) : target ≠ state := by
  cases edge <;> decide

/-- The threshold of an edge is that of its target. -/
theorem Edge.same_threshold {state state' target : BatteryState} {passes passes' : ℚ → Prop}
    (edge : Edge state target passes) (edge' : Edge state' target passes') :
    passes = passes' := by
  cases edge <;> cases edge' <;> rfl

theorem criticalFall_lt_normalRise : vCriticalFall < vNormalRise :=
  (criticalFall_lt_warningFall.trans warningFall_lt_chargingRise).trans chargingRise_lt_normalRise

/-! ## The machine keeps the book -/

section
variable (enforce setModeOk : Bool) (m : Machine)

@[simp] theorem setUserApEnabled_book (enabled : Bool) :
    (setUserApEnabled setModeOk enabled m).book = m.book := by
  unfold setUserApEnabled
  split
  · rfl
  · split <;> rfl

@[simp] theorem applyActionsForState_book (state : BatteryState) :
    (applyActionsForState enforce setModeOk state m).book = m.book := by
  cases enforce with
  | false => rfl
  | true => exact setUserApEnabled_book setModeOk m (apOn state)

theorem transitionTo_book {state : BatteryState} (different : state ≠ m.state) :
    (transitionTo enforce setModeOk state m).book = .enter state := by
  rw [transitionTo, if_neg different, applyActionsForState_book]
  refine congrArg (Book.mk state) (funext ?_)
  intro target
  cases target <;> rfl

/-- A debounce block writes its own counter, or enters its target. -/
theorem countTo_book (hit : Bool) {store : Nat → Machine → Machine} {target : BatteryState}
    (different : target ≠ m.state) (stores : ∀ n, (store n m).book = m.book.set target n) :
    (countTo enforce setModeOk hit (m.book.counter target) store target m).book =
      debounce hit target m.book := by
  rw [countTo, debounce]
  cases hit with
  | false => exact stores 0
  | true =>
    simp only [if_true]
    split
    · apply transitionTo_book
      have state : (store (m.book.counter target + 1) m).state = m.state :=
        congrArg Book.state (stores _)
      rw [state]
      exact different
    · exact stores _

theorem set_toWarning (n : Nat) :
    ({ m with dbcToWarning := n } : Machine).book = m.book.set .warning n := by
  refine congrArg (Book.mk m.state) (funext ?_)
  intro target
  cases target <;> rfl

theorem set_toCritical (n : Nat) :
    ({ m with dbcToCritical := n } : Machine).book = m.book.set .critical n := by
  refine congrArg (Book.mk m.state) (funext ?_)
  intro target
  cases target <;> rfl

theorem set_toCharging (n : Nat) :
    ({ m with dbcToCharging := n } : Machine).book = m.book.set .chargingOn n := by
  refine congrArg (Book.mk m.state) (funext ?_)
  intro target
  cases target <;> rfl

theorem set_toNormal (n : Nat) :
    ({ m with dbcToNormal := n } : Machine).book = m.book.set .normal n := by
  refine congrArg (Book.mk m.state) (funext ?_)
  intro target
  cases target <;> rfl

variable (s : Sample)

theorem countToWarning_book (here : BatteryState.warning ≠ m.state) :
    (countToWarning enforce s m).book = debounce (s.voltage < vWarningFall) .warning m.book :=
  countTo_book enforce s.setModeOk m _ here (set_toWarning m)

theorem countToCritical_book (here : BatteryState.critical ≠ m.state) :
    (countToCritical enforce s m).book = debounce (s.voltage < vCriticalFall) .critical m.book :=
  countTo_book enforce s.setModeOk m _ here (set_toCritical m)

theorem countToCharging_book (here : BatteryState.chargingOn ≠ m.state) :
    (countToCharging enforce s m).book =
      debounce (vChargingRise < s.voltage) .chargingOn m.book :=
  countTo_book enforce s.setModeOk m _ here (set_toCharging m)

theorem countToNormal_book (here : BatteryState.normal ≠ m.state) :
    (countToNormal enforce s m).book = debounce (vNormalRise < s.voltage) .normal m.book :=
  countTo_book enforce s.setModeOk m _ here (set_toNormal m)

/-- Clearing another counter before or after a block. -/
theorem debounce_clear {target other : BatteryState} (different : other ≠ target) (hit : Bool)
    (b : Book) : (debounce hit target b).set other 0 = debounce hit target (b.set other 0) := by
  have same : (b.set other 0).counter target = b.counter target := b.set_other different.symm 0
  have commute : ∀ n, (b.set target n).set other 0 = (b.set other 0).set target n := by
    intro n
    exact congrArg (Book.mk b.state) (Function.update_comm different.symm _ _ _)
  rw [debounce, debounce, same]
  cases hit with
  | false => exact commute 0
  | true =>
    simp only [if_true]
    split
    · exact congrArg (Book.mk target) (Function.update_eq_self other _)
    · exact commute _

/-- A sample does to the machine what `advance` does to its book. -/
theorem evaluateTransitions_book :
    (evaluateTransitions enforce s m).book = advance s.voltage m.book := by
  have book : m.book.state = m.state := rfl
  rw [evaluateTransitions, advance, book]
  cases here : m.state with
  | normal => exact countToWarning_book enforce m s (by simp [here])
  | critical => exact countToCharging_book enforce m s (by simp [here])
  | wakeUp => exact countToCharging_book enforce m s (by simp [here])
  | chargingOn => exact countToNormal_book enforce m s (by simp [here])
  | warning =>
    simp only
    by_cases low : s.voltage < vCriticalFall
    · -- The second block only clears its counter, also after the first has left `WARNING`.
      have notHigh : ¬ vNormalRise < s.voltage :=
        not_lt.mpr (low.trans criticalFall_lt_normalRise).le
      have second : countToNormal enforce s (countToCritical enforce s m) =
          { countToCritical enforce s m with dbcToNormal := 0 } := by
        simp [countToNormal, countTo, notHigh]
      rw [second, set_toNormal, countToCritical_book _ _ _ (by simp [here]), if_pos low,
        debounce_clear (by decide)]
      simp [low]
    · have counted : countToCritical enforce s m = { m with dbcToCritical := 0 } := by
        simp [countToCritical, countTo, low]
      rw [counted, if_neg low, countToNormal_book _ _ _ (by simp [here]), set_toCritical]

theorem boot_book (average : Sample) :
    (boot enforce average).book = .enter (determineBootState average.voltage) := by
  rw [boot, applyActionsForState_book]
  refine congrArg (Book.mk _) (funext ?_)
  intro target
  cases target <;> rfl

end

/-! ## One sample -/

theorem debounce_cases (hit : Bool) (target : BatteryState) (b : Book) :
    (hit = true ∧ debounceSamples ≤ b.counter target + 1 ∧
        debounce hit target b = .enter target) ∨
      ((debounce hit target b).state = b.state ∧
        (∀ other, other ≠ target →
          (debounce hit target b).counter other = b.counter other) ∧
        ((debounce hit target b).counter target = 0 ∨
          hit = true ∧ (debounce hit target b).counter target = b.counter target + 1)) := by
  have written : ∀ n, (b.set target n).state = b.state ∧
      (∀ other, other ≠ target → (b.set target n).counter other = b.counter other) ∧
      (b.set target n).counter target = n := by
    intro n
    refine ⟨b.set_state target n, ?_, b.set_own target n⟩
    intro other different
    exact b.set_other different n
  cases hit with
  | false =>
    right
    obtain ⟨state, others, own⟩ := written 0
    exact ⟨state, others, Or.inl own⟩
  | true =>
    by_cases reached : debounceSamples ≤ b.counter target + 1
    · exact Or.inl ⟨rfl, reached, if_pos reached⟩
    · right
      obtain ⟨state, others, own⟩ := written (b.counter target + 1)
      have stays : debounce true target b = b.set target (b.counter target + 1) := if_neg reached
      rw [stays]
      exact ⟨state, others, Or.inr ⟨rfl, own⟩⟩

/-- What a sample does: it makes a transition whose counter it completes, or it keeps the state;
    then every counter is cleared, counts the sample for its edge, or belongs to no edge of the
    state. -/
inductive SampleEffect (v : ℚ) (b b' : Book) : Prop
  | moves (target : BatteryState) (passes : ℚ → Prop) (edge : Edge b.state target passes)
    (met : passes v) (reached : debounceSamples ≤ b.counter target + 1)
    (enters : b' = .enter target)
  | stays (state : b'.state = b.state)
    (counters : ∀ target, b'.counter target = 0 ∨
      (∃ passes, Edge b.state target passes ∧ passes v ∧
        b'.counter target = b.counter target + 1) ∨
      ((∀ passes, ¬ Edge b.state target passes) ∧ b'.counter target = b.counter target))

/-- A debounce block of an edge, after the counters of the other edges have been cleared. -/
theorem SampleEffect.of_debounce {v : ℚ} {b cleared : Book} {hit : Bool} {target : BatteryState}
    {passes : ℚ → Prop} (edge : Edge b.state target passes) (met : hit = true → passes v)
    (state : cleared.state = b.state) (own : cleared.counter target = b.counter target)
    (others : ∀ other, other ≠ target → cleared.counter other = 0 ∨
      ((∀ passes, ¬ Edge b.state other passes) ∧ cleared.counter other = b.counter other)) :
    SampleEffect v b (debounce hit target cleared) := by
  rcases debounce_cases hit target cleared with ⟨hits, reached, enters⟩ | ⟨stays, kept, counted⟩
  · rw [own] at reached
    exact .moves target passes edge (met hits) reached enters
  · apply SampleEffect.stays (stays.trans state)
    intro other
    rcases eq_or_ne other target with rfl | different
    · rcases counted with zero | ⟨hits, next⟩
      · exact Or.inl zero
      · rw [own] at next
        exact Or.inr (Or.inl ⟨passes, edge, met hits, next⟩)
    · rw [kept other different]
      rcases others other different with zero | ⟨none, same⟩
      · exact Or.inl zero
      · exact Or.inr (Or.inr ⟨none, same⟩)

/-- A debounce block of the only edge that leaves the state. -/
theorem SampleEffect.of_onlyEdge {v : ℚ} {b : Book} {hit : Bool} {target : BatteryState}
    {passes : ℚ → Prop} (edge : Edge b.state target passes) (met : hit = true → passes v)
    (only : ∀ other passes', Edge b.state other passes' → other = target) :
    SampleEffect v b (debounce hit target b) := by
  apply SampleEffect.of_debounce edge met rfl rfl
  intro other different
  refine Or.inr ⟨?_, rfl⟩
  intro passes' edge'
  exact different (only other passes' edge')

theorem advance_effect (v : ℚ) (b : Book) : SampleEffect v b (advance v b) := by
  rw [advance]
  cases here : b.state with
  | normal =>
    have edge : Edge b.state .warning fun v => v < vWarningFall := here ▸ .normalWarning
    apply SampleEffect.of_onlyEdge edge (by simp)
    rw [here]
    intro other passes' edge'
    cases edge'
    rfl
  | critical =>
    have edge : Edge b.state .chargingOn fun v => vChargingRise < v := here ▸ .criticalCharging
    apply SampleEffect.of_onlyEdge edge (by simp)
    rw [here]
    intro other passes' edge'
    cases edge'
    rfl
  | wakeUp =>
    have edge : Edge b.state .chargingOn fun v => vChargingRise < v := here ▸ .wakeUpCharging
    apply SampleEffect.of_onlyEdge edge (by simp)
    rw [here]
    intro other passes' edge'
    cases edge'
    rfl
  | chargingOn =>
    have edge : Edge b.state .normal fun v => vNormalRise < v := here ▸ .chargingNormal
    apply SampleEffect.of_onlyEdge edge (by simp)
    rw [here]
    intro other passes' edge'
    cases edge'
    rfl
  | warning =>
    have toCritical : Edge b.state .critical fun v => v < vCriticalFall := here ▸ .warningCritical
    have toNormal : Edge b.state .normal fun v => vNormalRise < v := here ▸ .warningNormal
    -- One of the two edges has its counter cleared, and there is no third.
    have third : ∀ other, other ≠ .critical → other ≠ .normal →
        ∀ passes, ¬ Edge b.state other passes := by
      intro other notCritical notNormal passes edge
      rw [here] at edge
      cases edge with
      | warningCritical => exact notCritical rfl
      | warningNormal => exact notNormal rfl
    simp only
    by_cases low : v < vCriticalFall
    · have own : (b.set .normal 0).counter .critical = b.counter .critical :=
        b.set_other (by decide) 0
      rw [if_pos low]
      apply SampleEffect.of_debounce toCritical (fun _ => low) (b.set_state .normal 0) own
      intro other different
      rcases eq_or_ne other .normal with rfl | notNormal
      · exact Or.inl (b.set_own .normal 0)
      · exact Or.inr ⟨third other different notNormal, b.set_other notNormal 0⟩
    · have own : (b.set .critical 0).counter .normal = b.counter .normal :=
        b.set_other (by decide) 0
      rw [if_neg low]
      apply SampleEffect.of_debounce toNormal (by simp) (b.set_state .critical 0) own
      intro other different
      rcases eq_or_ne other .critical with rfl | notCritical
      · exact Or.inl (b.set_own .critical 0)
      · exact Or.inr ⟨third other notCritical different, b.set_other notCritical 0⟩

/-! ## One edge -/

theorem debounce_zero {hit : Bool} {target other : BatteryState} {b : Book}
    (zero : b.counter other = 0) (different : other ≠ target) :
    (debounce hit target b).counter other = 0 := by
  rcases debounce_cases hit target b with ⟨-, -, enters⟩ | ⟨-, kept, -⟩
  · rw [enters]
    rfl
  · exact (kept other different).trans zero

section
variable {v : ℚ} {b : Book} {target : BatteryState} {passes : ℚ → Prop}

theorem advance_met (edge : Edge b.state target passes) (met : passes v) :
    ∃ cleared : Book, cleared.state = b.state ∧ cleared.counter target = b.counter target ∧
      advance v b = debounce true target cleared := by
  rw [advance]
  generalize here : b.state = state at edge
  cases edge with
  | normalWarning => exact ⟨b, here, rfl, by rw [decide_eq_true met]⟩
  | criticalCharging => exact ⟨b, here, rfl, by rw [decide_eq_true met]⟩
  | wakeUpCharging => exact ⟨b, here, rfl, by rw [decide_eq_true met]⟩
  | chargingNormal => exact ⟨b, here, rfl, by rw [decide_eq_true met]⟩
  | warningCritical => exact ⟨b.set .normal 0, here, b.set_other (by decide) 0, if_pos met⟩
  | warningNormal =>
    have notLow : ¬ v < vCriticalFall := not_lt.mpr (criticalFall_lt_normalRise.trans met).le
    refine ⟨b.set .critical 0, here, b.set_other (by decide) 0, ?_⟩
    rw [if_neg notLow, decide_eq_true met]

/-- The sample that completes a debounce makes its transition. -/
theorem advance_completes (edge : Edge b.state target passes) (met : passes v)
    (reached : debounceSamples ≤ b.counter target + 1) : advance v b = .enter target := by
  obtain ⟨cleared, -, own, counts⟩ := advance_met edge met
  rw [counts, debounce, if_pos rfl, own, if_pos reached]

theorem changes_iff_completes : (advance v b).state ≠ b.state ↔ Completes v b := by
  constructor
  · intro changed
    cases advance_effect v b with
    | stays stays => exact absurd stays changed
    | moves target passes edge met reached => exact ⟨target, passes, edge, met, reached⟩
  · rintro ⟨target, passes, edge, met, reached⟩
    rw [advance_completes edge met reached]
    exact edge.leaves

/-- An earlier sample that meets the threshold is counted. -/
theorem advance_counts (edge : Edge b.state target passes) (met : passes v)
    (early : ¬ debounceSamples ≤ b.counter target + 1) :
    (advance v b).state = b.state ∧ (advance v b).counter target = b.counter target + 1 := by
  obtain ⟨cleared, state, own, counts⟩ := advance_met edge met
  rw [counts, debounce, if_pos rfl, own, if_neg early]
  exact ⟨state, cleared.set_own _ _⟩

/-- A sample that fails the threshold clears the counter. -/
theorem advance_clears (edge : Edge b.state target passes) (failed : ¬ passes v) :
    (advance v b).counter target = 0 := by
  rw [advance]
  generalize here : b.state = state at edge
  cases edge with
  | normalWarning =>
    rw [decide_eq_false failed]
    exact b.set_own _ _
  | criticalCharging =>
    rw [decide_eq_false failed]
    exact b.set_own _ _
  | wakeUpCharging =>
    rw [decide_eq_false failed]
    exact b.set_own _ _
  | chargingNormal =>
    rw [decide_eq_false failed]
    exact b.set_own _ _
  | warningCritical =>
    simp only
    rw [if_neg failed]
    exact debounce_zero (b.set_own _ _) (by decide)
  | warningNormal =>
    simp only
    by_cases low : v < vCriticalFall
    · rw [if_pos low]
      exact debounce_zero (b.set_own _ _) (by decide)
    · rw [if_neg low, decide_eq_false failed]
      exact (b.set .critical 0).set_own _ _

end

end SolarConnect.Battery
