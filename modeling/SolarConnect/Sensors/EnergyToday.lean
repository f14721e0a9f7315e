import SolarConnect.Sensors.Pzem
import SolarConnect.Misc.Runs
import Mathlib.Data.List.Chain
import Mathlib.Data.List.DropRight

/-!
# Energy of the day

`energy_wh_today` over whole sequences of calls. The anchor is the meter at the first call of
the UTC day, or a lower value that the meter fell back to later, so the difference it reports
is covered by what the meter has risen since the day began.
-/

namespace SolarConnect.Pzem

open Runs

/-- One call of `energy_wh_today`: `time(NULL)` and the meter. -/
structure EnergyCall where
  time : Nat
  cumulative : Nat
  deriving DecidableEq, Repr

/-- `day_now`; the cast to `int` changes nothing below day `2^31`. -/
def EnergyCall.dayNow (c : EnergyCall) : Nat :=
  c.time / 86400

/-- What the call returns, and the statics it leaves. -/
def EnergyCall.run (c : EnergyCall) (a : EnergyAnchor) : Nat × EnergyAnchor :=
  energyWhToday c.time c.cumulative a

/-- The statics after the calls since boot. -/
def anchorAfter (calls : List EnergyCall) : EnergyAnchor :=
  calls.foldl (fun a c => (c.run a).2) PzemState.init.energy

/-- The calls since the last change of the UTC day, up to and with `c`. -/
def sinceDayChange (calls : List EnergyCall) (c : EnergyCall) : List EnergyCall :=
  calls.rtakeWhile (fun b => b.dayNow = c.dayNow) ++ [c]

/-- The meter at each of the calls. -/
def meterOf (calls : List EnergyCall) : List Nat :=
  calls.map EnergyCall.cumulative

/-- The sum of the positive increments from each value to the next. -/
def risen : List Nat → Nat
  | a :: b :: l => (b - a) + risen (b :: l)
  | _ => 0

/-- No value is below the one in front of it. -/
def NeverDown (l : List Nat) : Prop :=
  l.IsChain (· ≤ ·)

/-! ## The positive increments -/

theorem risen_concat (l : List Nat) (a b : Nat) :
    risen (l ++ [a] ++ [b]) = risen (l ++ [a]) + (b - a) := by
  induction l with
  | nil => simp [risen]
  | cons c l ih =>
    cases l with
    | nil => simp [risen]
    | cons d l =>
      simp only [List.cons_append, risen] at ih ⊢
      rw [ih, Nat.add_assoc]

theorem neverDown_concat {l : List Nat} {a b : Nat} (never : NeverDown (l ++ [a] ++ [b])) :
    NeverDown (l ++ [a]) ∧ a ≤ b := by
  refine ⟨(List.isChain_append.1 never).1, ?_⟩
  exact (List.isChain_append.1 never).2.2 a (by simp) b (by simp)

theorem meterOf_sinceDayChange (calls : List EnergyCall) (c : EnergyCall) :
    meterOf (sinceDayChange calls c)
      = meterOf (calls.rtakeWhile fun b => b.dayNow = c.dayNow) ++ [c.cumulative] := by
  simp [meterOf, sinceDayChange]

/-- A call on the day of the one in front of it lengthens the stretch. -/
theorem sinceDayChange_same {calls : List EnergyCall} {b c : EnergyCall}
    (same : b.dayNow = c.dayNow) :
    sinceDayChange (calls ++ [b]) c = sinceDayChange calls b ++ [c] := by
  simp only [sinceDayChange]
  rw [List.rtakeWhile_concat_pos _ _ _ (by simpa using same), same]

/-- A call on another day starts a stretch of its own. -/
theorem sinceDayChange_other {calls : List EnergyCall} {b c : EnergyCall}
    (other : b.dayNow ≠ c.dayNow) : sinceDayChange (calls ++ [b]) c = [c] := by
  simp only [sinceDayChange]
  rw [List.rtakeWhile_concat_neg _ _ _ (by simpa using other), List.nil_append]

/-! ## One call -/

theorem anchorAfter_concat (calls : List EnergyCall) (c : EnergyCall) :
    anchorAfter (calls ++ [c]) = (c.run (anchorAfter calls)).2 := by
  simp [anchorAfter]

/-- What a call does to the anchor: the first of its day and one that finds the meter below the
    anchor take the meter, the others leave the anchor. -/
inductive CallEffect (c : EnergyCall) (a : EnergyAnchor) : Prop
  | anchors (other : a.utcDayAnchor ≠ c.dayNow)
    (result : c.run a = (0, ⟨c.cumulative, c.dayNow, true⟩))
  | falls (same : a.utcDayAnchor = c.dayNow) (below : c.cumulative < a.energyWhAtMidnight)
    (result : c.run a = (0, { a with energyWhAtMidnight := c.cumulative }))
  | counts (same : a.utcDayAnchor = c.dayNow) (atLeast : a.energyWhAtMidnight ≤ c.cumulative)
    (result : c.run a = (c.cumulative - a.energyWhAtMidnight, a))

theorem run_effect (c : EnergyCall) (a : EnergyAnchor) : CallEffect c a := by
  by_cases same : a.utcDayAnchor = c.dayNow
  · have now : ((c.time / 86400 : Nat) : Int) = a.utcDayAnchor := same.symm
    by_cases below : c.cumulative < a.energyWhAtMidnight
    · exact .falls same below (by simp [EnergyCall.run, energyWhToday, now, below])
    · exact .counts same (Nat.le_of_not_lt below)
        (by simp [EnergyCall.run, energyWhToday, now, below])
  · have other : ((c.time / 86400 : Nat) : Int) ≠ a.utcDayAnchor := fun h => same h.symm
    refine .anchors same ?_
    simp only [EnergyCall.run, energyWhToday, if_pos other, Nat.lt_irrefl, if_false, Nat.sub_self]
    rfl

/-- What is known of a call's result when the meter stood at the values of `stretch` since the
    day began, the call's own last. -/
structure Metered (c : EnergyCall) (stretch : List Nat) (r : Nat × EnergyAnchor) : Prop where
  day : r.2.utcDayAnchor = c.dayNow
  anchor : r.2.energyWhAtMidnight ≤ c.cumulative
  difference : r.1 = c.cumulative - r.2.energyWhAtMidnight
  le_risen : r.1 ≤ risen stretch
  eq_risen : NeverDown stretch → r.1 = risen stretch

/-- The first call of a day reports nothing. -/
theorem metered_first {c : EnergyCall} {a : EnergyAnchor} (other : a.utcDayAnchor ≠ c.dayNow) :
    Metered c [c.cumulative] (c.run a) := by
  cases run_effect c a with
  | anchors _ result =>
    rw [result]
    exact ⟨rfl, Nat.le_refl _, (Nat.sub_self _).symm, Nat.zero_le _, fun _ => rfl⟩
  | falls same _ _ => exact absurd same other
  | counts same _ _ => exact absurd same other

/-- A later call of the day adds at most what the meter has risen since the call before. -/
theorem metered_next {b c : EnergyCall} {l : List Nat} {r : Nat × EnergyAnchor}
    (earlier : Metered b (l ++ [b.cumulative]) r) (same : b.dayNow = c.dayNow) :
    Metered c (l ++ [b.cumulative] ++ [c.cumulative]) (c.run r.2) := by
  have day : r.2.utcDayAnchor = c.dayNow := by rw [earlier.day, same]
  have above := earlier.anchor
  have covered := earlier.le_risen
  rw [earlier.difference] at covered
  have sum := risen_concat l b.cumulative c.cumulative
  cases run_effect c r.2 with
  | anchors other _ => exact absurd day other
  | falls _ below result =>
    rw [result]
    refine ⟨day, Nat.le_refl _, (Nat.sub_self _).symm, Nat.zero_le _, fun never => ?_⟩
    -- The meter was at or above the anchor at the call before.
    have up := (neverDown_concat never).2
    omega
  | counts _ atLeast result =>
    rw [result]
    refine ⟨day, atLeast, rfl, ?_, fun never => ?_⟩
    · show c.cumulative - r.2.energyWhAtMidnight ≤ _
      omega
    · obtain ⟨before, up⟩ := neverDown_concat never
      have exactly := earlier.eq_risen before
      rw [earlier.difference] at exactly
      show c.cumulative - r.2.energyWhAtMidnight = _
      omega

/-! ## Every sequence of calls -/

theorem metered_calls (calls : List EnergyCall) (c : EnergyCall) :
    Metered c (meterOf (sinceDayChange calls c)) (c.run (anchorAfter calls)) := by
  induction calls using List.reverseRecOn generalizing c with
  | nil =>
    refine metered_first ?_
    show (-1 : Int) ≠ c.dayNow
    omega
  | append_singleton calls b ih =>
    rw [anchorAfter_concat]
    by_cases same : b.dayNow = c.dayNow
    · rw [sinceDayChange_same same]
      have earlier := ih b
      rw [meterOf_sinceDayChange] at earlier
      have step := metered_next earlier same
      rw [← meterOf_sinceDayChange] at step
      simpa [meterOf] using step
    · rw [sinceDayChange_other same]
      refine metered_first ?_
      rw [(ih b).day]
      exact fun h => same (by exact_mod_cast h)

/-- Energy today is covered by the energy metered since the day began: after every call of every
    sequence the result is at most the sum of the meter's positive increments over the calls of
    the day, and that sum if the meter never went down among them. Neither the result nor the
    anchor is ever above the meter. -/
theorem energyWhToday_metered (calls : List EnergyCall) (c : EnergyCall) :
    (energyWhToday c.time c.cumulative (anchorAfter calls)).1
        ≤ risen (meterOf (sinceDayChange calls c)) ∧
      (NeverDown (meterOf (sinceDayChange calls c)) →
        (energyWhToday c.time c.cumulative (anchorAfter calls)).1
          = risen (meterOf (sinceDayChange calls c))) ∧
      (energyWhToday c.time c.cumulative (anchorAfter calls)).1 ≤ c.cumulative ∧
      (energyWhToday c.time c.cumulative (anchorAfter calls)).2.energyWhAtMidnight
        ≤ c.cumulative := by
  have metered := metered_calls calls c
  refine ⟨metered.le_risen, metered.eq_risen, ?_, metered.anchor⟩
  exact metered.difference.trans_le (Nat.sub_le _ _)

end SolarConnect.Pzem
