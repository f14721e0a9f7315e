import SolarConnect.Misc.Runs
import SolarConnect.Power.Bookkeeping
import Mathlib.Data.List.Induction

/-!
# Recovery

Samples above `BATTERY_V_NORMAL_RISE` meet the threshold of every edge on the way up, so each of
them brings the machine one sample closer to `NORMAL`, whatever its counters hold. Once there,
only samples below `BATTERY_V_WARNING_FALL` in a row can end it.
-/

namespace SolarConnect.Battery

open Runs

/-- The sample meets the threshold of the edge out of `NORMAL`. -/
def Sagging (s : Sample) : Prop :=
  s.voltage < vWarningFall

/-- How many samples a debounce still needs. -/
def samplesLeft (b : Book) (target : BatteryState) : Nat :=
  debounceSamples - 1 - b.counter target + 1

/-- How many samples above `BATTERY_V_NORMAL_RISE` lead to `NORMAL`. -/
def samplesToNormal (b : Book) : Nat :=
  match b.state with
  | .normal => 0
  | .warning => samplesLeft b .normal
  | .chargingOn => samplesLeft b .normal
  | .critical => samplesLeft b .chargingOn + debounceSamples
  | .wakeUp => samplesLeft b .chargingOn + debounceSamples

theorem samplesToNormal_le (b : Book) : samplesToNormal b ≤ 2 * debounceSamples := by
  have left : ∀ target, samplesLeft b target ≤ debounceSamples := by
    intro target
    unfold samplesLeft debounceSamples
    omega
  have toNormal := left .normal
  have toCharging := left .chargingOn
  unfold samplesToNormal
  cases b.state with
  | normal => exact Nat.zero_le _
  | warning => simp only; omega
  | chargingOn => simp only; omega
  | critical => simp only; omega
  | wakeUp => simp only; omega

theorem samplesToNormal_eq_zero {b : Book} (done : samplesToNormal b = 0) : b.state = .normal := by
  unfold samplesToNormal samplesLeft at done
  cases here : b.state with
  | normal => rfl
  | warning => simp [here] at done
  | chargingOn => simp [here] at done
  | critical => simp [here] at done
  | wakeUp => simp [here] at done

theorem samplesToNormal_enter_normal : samplesToNormal (.enter .normal) = 0 :=
  rfl

theorem samplesToNormal_enter_chargingOn :
    samplesToNormal (.enter .chargingOn) = debounceSamples :=
  rfl

/-! ## One sample -/

section
variable {v : ℚ} {b : Book}

/-- A sample that an edge counts leaves one sample less to go on it, or makes its transition. -/
theorem advance_climbs {target : BatteryState} {passes : ℚ → Prop}
    (edge : Edge b.state target passes) (met : passes v) :
    advance v b = .enter target ∨
      (advance v b).state = b.state ∧
        samplesLeft (advance v b) target + 1 = samplesLeft b target := by
  by_cases reached : debounceSamples ≤ b.counter target + 1
  · exact Or.inl (advance_completes edge met reached)
  · obtain ⟨state, counter⟩ := advance_counts edge met reached
    refine Or.inr ⟨state, ?_⟩
    unfold samplesLeft
    rw [counter]
    omega

theorem normal_stays (high : ¬ v < vWarningFall) (normal : b.state = .normal) :
    (advance v b).state = .normal := by
  cases advance_effect v b with
  | stays state => exact state.trans normal
  | moves target passes edge met =>
    rw [normal] at edge
    cases edge
    exact absurd met high

/-- The last edge of the way. -/
theorem samplesToNormal_last (edge : Edge b.state .normal fun v => vNormalRise < v)
    (high : vNormalRise < v)
    (left : ∀ b', b'.state = b.state → samplesToNormal b' = samplesLeft b' .normal) :
    samplesToNormal (advance v b) ≤ samplesToNormal b - 1 := by
  rw [left b rfl]
  rcases advance_climbs edge high with enters | ⟨state, counted⟩
  · rw [enters, samplesToNormal_enter_normal]
    exact Nat.zero_le _
  · rw [left _ state]
    omega

/-- The edge before it. -/
theorem samplesToNormal_first (edge : Edge b.state .chargingOn fun v => vChargingRise < v)
    (high : vChargingRise < v)
    (left : ∀ b', b'.state = b.state →
      samplesToNormal b' = samplesLeft b' .chargingOn + debounceSamples) :
    samplesToNormal (advance v b) ≤ samplesToNormal b - 1 := by
  rw [left b rfl]
  rcases advance_climbs edge high with enters | ⟨state, counted⟩
  · have some : 1 ≤ samplesLeft b .chargingOn := Nat.le_add_left 1 _
    rw [enters, samplesToNormal_enter_chargingOn]
    omega
  · rw [left _ state]
    omega

theorem samplesToNormal_advance (high : vNormalRise < v) :
    samplesToNormal (advance v b) ≤ samplesToNormal b - 1 := by
  have charging : vChargingRise < v := chargingRise_lt_normalRise.trans high
  cases here : b.state with
  | normal =>
    have notLow : ¬ v < vWarningFall :=
      not_lt.mpr (warningFall_lt_chargingRise.trans charging).le
    rw [samplesToNormal, normal_stays notLow here]
    exact Nat.zero_le _
  | warning =>
    apply samplesToNormal_last (here ▸ .warningNormal) high
    intro b' state
    simp only [samplesToNormal, state, here]
  | chargingOn =>
    apply samplesToNormal_last (here ▸ .chargingNormal) high
    intro b' state
    simp only [samplesToNormal, state, here]
  | critical =>
    apply samplesToNormal_first (here ▸ .criticalCharging) charging
    intro b' state
    simp only [samplesToNormal, state, here]
  | wakeUp =>
    apply samplesToNormal_first (here ▸ .wakeUpCharging) charging
    intro b' state
    simp only [samplesToNormal, state, here]

/-- A sample above the threshold for `NORMAL` leaves nothing counted towards `WARNING`. -/
theorem warning_not_counted (high : ¬ v < vWarningFall) (normal : (advance v b).state = .normal) :
    (advance v b).counter .warning = 0 := by
  cases advance_effect v b with
  | moves target passes edge met reached enters =>
    rw [enters]
    rfl
  | stays state =>
    have edge : Edge b.state .warning fun v => v < vWarningFall :=
      (state.symm.trans normal) ▸ .normalWarning
    exact advance_clears edge high

end

/-! ## Runs -/

/-- One sample on the book. -/
def takeSample (s : Sample) (b : Book) : Book :=
  advance s.voltage b

/-- The machine's book goes through the samples on its own. -/
theorem runSamples_book (enforce : Bool) (m : Machine) (samples : List Sample) :
    (runSamples enforce m samples).book =
      run takeSample m.book samples := by
  induction samples generalizing m with
  | nil => rfl
  | cons s samples ih =>
    have rest := ih (evaluateTransitions enforce s m)
    rw [evaluateTransitions_book] at rest
    exact rest

/-- `BATTERY_DEBOUNCE_SAMPLES` samples in a row were below `BATTERY_V_WARNING_FALL`. -/
def Sagged (samples : List Sample) : Prop :=
  ∃ prior, prior <+: samples ∧ LastAll debounceSamples Sagging prior

theorem samplesToNormal_run {b : Book} {high : List Sample}
    (above : ∀ s ∈ high, vNormalRise < s.voltage) (enough : 2 * debounceSamples ≤ high.length) :
    (run takeSample b high).state = .normal := by
  apply samplesToNormal_eq_zero
  have falls : ∀ (s : Sample) (b : Book), vNormalRise < s.voltage →
      samplesToNormal (takeSample s b) ≤ samplesToNormal b - 1 :=
    fun s b => samplesToNormal_advance
  have used := run_exhausts samplesToNormal (s := b) falls above
  have most := samplesToNormal_le b
  omega

/-- `NORMAL` lasts, and its counter counts the latest sagging samples. -/
theorem normal_run {b : Book} {later : List Sample} (normal : b.state = .normal)
    (clear : b.counter .warning = 0) (steady : ¬ Sagged later) :
    (run takeSample b later).state = .normal ∧
      LastAll ((run takeSample b later).counter .warning) Sagging
        later := by
  induction later using List.reverseRecOn with
  | nil => exact ⟨normal, clear ▸ LastAll.zero _ _⟩
  | append_singleton later s ih =>
    have earlier : ¬ Sagged later := by
      rintro ⟨prior, before, last⟩
      exact steady ⟨prior, before.trans (List.prefix_append _ _), last⟩
    obtain ⟨here, counted⟩ := ih earlier
    have step : run takeSample b (later ++ [s]) = advance s.voltage (run takeSample b later) := by
      simp [run, takeSample]
    rw [step]
    generalize run takeSample b later = b' at here counted ⊢
    have edge : Edge b'.state .warning fun v => v < vWarningFall := here ▸ .normalWarning
    by_cases low : s.voltage < vWarningFall
    · have streak := counted.concat (a := s) low
      have early : ¬ debounceSamples ≤ b'.counter .warning + 1 := by
        intro reached
        exact steady ⟨_, List.prefix_rfl, streak.mono reached⟩
      obtain ⟨state, counter⟩ := advance_counts edge low early
      rw [state, counter]
      exact ⟨here, streak⟩
    · refine ⟨normal_stays low here, ?_⟩
      rw [advance_clears edge low]
      exact LastAll.zero _ _

/-- From every reachable state, `2 * BATTERY_DEBOUNCE_SAMPLES` samples above
    `BATTERY_V_NORMAL_RISE` lead to `NORMAL`, which lasts until `BATTERY_DEBOUNCE_SAMPLES`
    samples in a row are below `BATTERY_V_WARNING_FALL`. -/
theorem recovers (enforce : Bool) (average : Sample) (history high later : List Sample)
    (length : high.length = 2 * debounceSamples) (above : ∀ s ∈ high, vNormalRise < s.voltage)
    (steady : ¬ Sagged later) :
    (runSamples enforce (boot enforce average) (history ++ high ++ later)).state = .normal := by
  have parts : runSamples enforce (boot enforce average) (history ++ high ++ later) =
      runSamples enforce (runSamples enforce (runSamples enforce (boot enforce average) history)
        high) later := by
    simp [runSamples]
  rw [parts, ← Machine.book_state, runSamples_book, runSamples_book]
  generalize (runSamples enforce (boot enforce average) history).book = b
  have normal := samplesToNormal_run (b := b) above length.ge
  refine (normal_run normal ?_ steady).1
  -- The last of the high samples has cleared the counter.
  obtain ⟨front, s, rfl⟩ : ∃ front s, high = front ++ [s] := by
    refine ⟨high.dropLast, high.getLast ?_, (List.dropLast_concat_getLast _).symm⟩
    rintro rfl
    cases length
  have step : run takeSample b (front ++ [s]) = advance s.voltage (run takeSample b front) := by
    simp [run, takeSample]
  have high : vNormalRise < s.voltage := above s (by simp)
  rw [step] at normal ⊢
  apply warning_not_counted _ normal
  exact not_lt.mpr ((warningFall_lt_chargingRise.trans chargingRise_lt_normalRise).trans high).le

/-- A station that boots at 11 V and has half a debounce of charging behind it; after the high
    samples comes a short sag. -/
theorem recovers_critical :
    (runSamples true (boot true ⟨11, true⟩)
      (List.replicate 3 ⟨13, true⟩ ++ List.replicate 12 ⟨14, true⟩ ++
        List.replicate 5 ⟨12, true⟩)).state = .normal := by
  apply recovers
  · rfl
  · intro s member
    rw [List.eq_of_mem_replicate member]
    norm_num [vNormalRise]
  · rintro ⟨prior, before, older, recent, rfl, length, -⟩
    have short := before.length_le
    rw [List.length_append, length, List.length_replicate] at short
    exact absurd short (by simp [debounceSamples])

end SolarConnect.Battery
