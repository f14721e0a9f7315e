import SolarConnect.Sensors.Pzem
import SolarConnect.Misc.Runs
import Mathlib.Data.List.Induction

/-!
# Outlet status

The AC meter task together with the outlet's row of `port_state`. The task takes an outlet
status for sent whether or not its upsert succeeds. A lost update is made good only by a read
on the other side of `PZEM_OUTLET_IN_USE_W`, for which the row happens to be right.
-/

namespace SolarConnect.Pzem

open Runs

/-- The task, and the `status` column of the outlet's row. -/
structure Station where
  task : PzemState
  outletStatus : Option String

/-- The task at its start, in front of any row. -/
def Station.init (outletStatus : Option String) : Station :=
  ⟨.init, outletStatus⟩

/-- One iteration of the loop; an upsert that returns `ESP_OK` replaces the status. -/
def passStation (p : Pass) (st : Station) : Station where
  task := (pzemPass p st.task).1
  outletStatus :=
    match (pzemPass p st.task).2.2 with
    | some row => if p.outletOk then some row.status else st.outletStatus
    | none => st.outletStatus

/-- The station after a run of the task. -/
def stationAfter (outletStatus : Option String) (passes : List Pass) : Station :=
  run passStation (.init outletStatus) passes

/-- The row says `in_use`. -/
def ShowsInUse (st : Station) : Prop :=
  st.outletStatus = some "in_use"

instance (st : Station) : Decidable (ShowsInUse st) :=
  inferInstanceAs (Decidable (_ = _))

/-- The row says `in_use` exactly when the reading is above `PZEM_OUTLET_IN_USE_W`. -/
def Agrees (r : PzemReading) (st : Station) : Prop :=
  ShowsInUse st ↔ inUseNow r = true

/-- The iteration attempts an outlet upsert, and it fails. -/
def PushFails (p : Pass) (s : PzemState) : Prop :=
  (pzemPass p s).2.2.isSome = true ∧ p.outletOk = false

/-- After a successful read the row agrees with it, or the upsert has just failed. -/
def Converges (p : Pass) (st : Station) : Prop :=
  ∀ r, p.reading = some r → Agrees r (passStation p st) ∨ PushFails p st.task

/-- The iteration loses an update: its upsert fails and the row is wrong. -/
def LosesUpdate (p : Pass) (st : Station) : Prop :=
  PushFails p st.task ∧ ∃ r, p.reading = some r ∧ ¬ Agrees r st

/-- The next successful read after a lost update, if there is one, is on the other side of
    `PZEM_OUTLET_IN_USE_W`. -/
def LossesUndone (outletStatus : Option String) (passes : List Pass) : Prop :=
  ∀ prior lost skipped next, prior ++ lost :: skipped ++ [next] <+: passes →
    LosesUpdate lost (stationAfter outletStatus prior) → (∀ p ∈ skipped, p.reading = none) →
      ∀ r r', lost.reading = some r → next.reading = some r' → inUseNow r' ≠ inUseNow r

/-! ## One iteration -/

/-- What an iteration does to the row and to what the task takes for sent. -/
inductive PassEffect (p : Pass) (st : Station) : Prop
  | skips (failed : p.reading = none)
    (inUse : (passStation p st).task.lastOutletInUse = st.task.lastOutletInUse)
    (published : (passStation p st).task.lastOutletPublished = st.task.lastOutletPublished)
    (row : (passStation p st).outletStatus = st.outletStatus)
  | keeps (r : PzemReading) (read : p.reading = some r)
    (sent : st.task.lastOutletPublished = true ∧ st.task.lastOutletInUse = inUseNow r)
    (inUse : (passStation p st).task.lastOutletInUse = inUseNow r)
    (published : (passStation p st).task.lastOutletPublished = true)
    (row : (passStation p st).outletStatus = st.outletStatus)
    (silent : ¬ PushFails p st.task)
  | pushes (r : PzemReading) (read : p.reading = some r)
    (due : ¬ (st.task.lastOutletPublished = true ∧ st.task.lastOutletInUse = inUseNow r))
    (inUse : (passStation p st).task.lastOutletInUse = inUseNow r)
    (published : (passStation p st).task.lastOutletPublished = true)
    (row : (passStation p st).outletStatus =
      if p.outletOk then some (pzemSyncOutletStatus (inUseNow r)).status else st.outletStatus)
    (attempted : (pzemPass p st.task).2.2.isSome = true)

theorem passStation_effect (p : Pass) (st : Station) : PassEffect p st := by
  cases read : p.reading with
  | none =>
    have whole : pzemPass p st.task = (st.task, none, none) := by rw [pzemPass, read]
    apply PassEffect.skips read <;> simp [passStation, whole]
  | some r =>
    by_cases sent : st.task.lastOutletPublished = true ∧ st.task.lastOutletInUse = inUseNow r
    · apply PassEffect.keeps r read sent <;>
        simp [passStation, pzemPass, PushFails, read, sent]
    · have due :
        (!st.task.lastOutletPublished || inUseNow r != st.task.lastOutletInUse) = true := by
        rw [not_and_or] at sent
        rcases sent with unsent | other
        · simp [unsent]
        · simp [Ne.symm other]
      apply PassEffect.pushes r read sent <;> simp [passStation, pzemPass, read, due]

/-- The row is not what the task takes for sent. -/
def Stale (st : Station) : Prop :=
  st.task.lastOutletPublished = true ∧ ¬ (ShowsInUse st ↔ st.task.lastOutletInUse = true)

theorem showsInUse_of_row {st st' : Station} (row : st'.outletStatus = st.outletStatus) :
    ShowsInUse st' ↔ ShowsInUse st := by
  rw [ShowsInUse, ShowsInUse, row]

theorem showsInUse_pushed {st : Station} {inUse : Bool}
    (row : st.outletStatus = some (pzemSyncOutletStatus inUse).status) :
    ShowsInUse st ↔ inUse = true := by
  rw [ShowsInUse, row]
  cases inUse <;> decide

/-- An iteration fails to converge exactly when it reads once more what the task takes for
    sent while the row shows something else. -/
theorem converges_iff {p : Pass} {st : Station} :
    Converges p st ↔
      ¬ (Stale st ∧ ∃ r, p.reading = some r ∧ st.task.lastOutletInUse = inUseNow r) := by
  cases passStation_effect p st with
  | skips failed =>
    refine iff_of_true ?_ ?_
    · intro r read
      cases failed.symm.trans read
    · rintro ⟨-, r, read, -⟩
      cases failed.symm.trans read
  | keeps r read sent inUse published row silent =>
    have shown := showsInUse_of_row row
    constructor
    · rintro converges ⟨⟨-, wrong⟩, -⟩
      rcases converges r read with agrees | fails
      · rw [Agrees, shown, ← sent.2] at agrees
        exact wrong agrees
      · exact silent fails
    · intro right r' read'
      obtain rfl := Option.some.inj (read.symm.trans read')
      left
      rw [Agrees, shown, ← sent.2]
      apply Classical.byContradiction
      intro wrong
      exact right ⟨⟨sent.1, wrong⟩, r, read, sent.2⟩
  | pushes r read due inUse published row attempted =>
    refine iff_of_true ?_ ?_
    · intro r' read'
      obtain rfl := Option.some.inj (read.symm.trans read')
      cases ok : p.outletOk with
      | false => exact Or.inr ⟨attempted, ok⟩
      | true =>
        rw [if_pos ok] at row
        exact Or.inl (showsInUse_pushed row)
    · rintro ⟨stale, r', read', same⟩
      obtain rfl := Option.some.inj (read.symm.trans read')
      exact due ⟨stale.1, same⟩

/-- A lost update leaves the row stale. -/
theorem LosesUpdate.stale {p : Pass} {st : Station} (loses : LosesUpdate p st) {r : PzemReading}
    (read : p.reading = some r) :
    Stale (passStation p st) ∧ (passStation p st).task.lastOutletInUse = inUseNow r := by
  obtain ⟨fails, r', read', wrong⟩ := loses
  obtain rfl := Option.some.inj (read.symm.trans read')
  cases passStation_effect p st with
  | skips failed => cases failed.symm.trans read
  | keeps r' read' sent inUse published row silent => exact absurd fails silent
  | pushes r' read' due inUse published row attempted =>
    obtain rfl := Option.some.inj (read.symm.trans read')
    rw [fails.2] at row
    refine ⟨⟨published, ?_⟩, inUse⟩
    rw [inUse, showsInUse_of_row row]
    exact wrong

/-! ## Runs -/

theorem stationAfter_concat (outletStatus : Option String) (passes : List Pass) (p : Pass) :
    stationAfter outletStatus (passes ++ [p]) =
      passStation p (stationAfter outletStatus passes) := by
  simp [stationAfter, run]

/-- Failed reads change nothing that matters here. -/
theorem run_skipped {skipped : List Pass} (failed : ∀ p ∈ skipped, p.reading = none)
    (st : Station) :
    (Stale (run passStation st skipped) ↔ Stale st) ∧
      (run passStation st skipped).task.lastOutletInUse = st.task.lastOutletInUse := by
  induction skipped generalizing st with
  | nil => exact ⟨Iff.rfl, rfl⟩
  | cons p skipped ih =>
    have rest := ih (fun q member => failed q (List.mem_cons_of_mem p member)) (passStation p st)
    have whole : run passStation st (p :: skipped) = run passStation (passStation p st) skipped :=
      rfl
    have failure := failed p List.mem_cons_self
    rw [whole, rest.1, rest.2]
    cases passStation_effect p st with
    | skips failed inUse published row =>
      rw [Stale, Stale, inUse, published, showsInUse_of_row row]
      exact ⟨Iff.rfl, rfl⟩
    | keeps r read => cases failure.symm.trans read
    | pushes r read => cases failure.symm.trans read

/-- A stale row comes from a lost update with only failed reads behind it. -/
theorem stale_lost {outletStatus : Option String} {passes : List Pass}
    (undone : LossesUndone outletStatus passes) (stale : Stale (stationAfter outletStatus passes)) :
    ∃ prior lost skipped r, passes = prior ++ lost :: skipped ∧
      LosesUpdate lost (stationAfter outletStatus prior) ∧ (∀ p ∈ skipped, p.reading = none) ∧
        lost.reading = some r ∧
          (stationAfter outletStatus passes).task.lastOutletInUse = inUseNow r := by
  induction passes using List.reverseRecOn with
  | nil => cases stale.1
  | append_singleton passes p ih =>
    have earlier : LossesUndone outletStatus passes := by
      intro prior lost skipped next before
      exact undone prior lost skipped next (before.trans (List.prefix_append _ _))
    rw [stationAfter_concat] at stale ⊢
    cases passStation_effect p (stationAfter outletStatus passes) with
    | skips failed inUse published row =>
      rw [Stale, inUse, published, showsInUse_of_row row] at stale
      obtain ⟨prior, lost, skipped, r, rfl, loses, skips, read, sent⟩ := ih earlier stale
      refine ⟨prior, lost, skipped ++ [p], r, by simp, loses, ?_, read, inUse.trans sent⟩
      intro q member
      rcases List.mem_append.mp member with old | new
      · exact skips q old
      · rw [List.mem_singleton.mp new]
        exact failed
    | keeps r read sent inUse published row silent =>
      rw [Stale, inUse, showsInUse_of_row row, ← sent.2] at stale
      obtain ⟨prior, lost, skipped, r', rfl, loses, skips, read', sent'⟩ :=
        ih earlier ⟨sent.1, stale.2⟩
      have other := undone prior lost skipped p List.prefix_rfl loses skips r' r read' read
      exact absurd (sent.2.symm.trans sent') other
    | pushes r read due inUse published row attempted =>
      cases ok : p.outletOk with
      | true =>
        rw [if_pos ok] at row
        rw [Stale, inUse] at stale
        exact absurd (showsInUse_pushed row) stale.2
      | false =>
        rw [ok] at row
        rw [Stale, inUse, showsInUse_of_row row] at stale
        exact ⟨passes, p, [], r, rfl, ⟨⟨attempted, ok⟩, r, read, stale.2⟩, by simp, read, inUse⟩

/-- The outlet row converges after every iteration of a run if and only if every lost update
    is undone. -/
theorem outletStatus_converges_iff (outletStatus : Option String) (passes : List Pass) :
    (∀ prior p, prior ++ [p] <+: passes → Converges p (stationAfter outletStatus prior)) ↔
      LossesUndone outletStatus passes := by
  constructor
  · intro converges prior lost skipped next before loses skips r r' read read' same
    obtain ⟨stale, sent⟩ := loses.stale read
    obtain ⟨kept, last⟩ := run_skipped skips (passStation lost (stationAfter outletStatus prior))
    have there : stationAfter outletStatus (prior ++ lost :: skipped) =
        run passStation (passStation lost (stationAfter outletStatus prior)) skipped := by
      simp [stationAfter, run]
    apply converges_iff.mp (converges (prior ++ lost :: skipped) next before)
    rw [there, kept, last, sent]
    exact ⟨stale, r', read', same.symm⟩
  · intro undone prior p before
    rw [converges_iff]
    rintro ⟨stale, r, read, sent⟩
    have earlier : LossesUndone outletStatus prior := by
      intro prior' lost skipped next inside
      exact undone prior' lost skipped next
        (inside.trans ((List.prefix_append prior [p]).trans before))
    obtain ⟨prior', lost, skipped, r', rfl, loses, skips, read', sent'⟩ := stale_lost earlier stale
    exact undone prior' lost skipped p before loses skips r' r read' read (sent.symm.trans sent')

/-- A lamp is switched on while the uplink is down, and stays on. -/
def lampOn : Pass :=
  ⟨some ⟨230, 1 / 10, 23, 100⟩, 0, false⟩

/-- Its lost update is never made good. -/
theorem lost_update_not_retried :
    ¬ ∀ (outletStatus : Option String) (prior : List Pass) (p : Pass),
      Converges p (stationAfter outletStatus prior) := by
  intro claim
  rcases claim none [lampOn] lampOn _ rfl with agrees | fails
  · exact absurd (agrees.mpr (by decide +kernel)) (by decide +kernel)
  · exact absurd fails.1 (by decide +kernel)

end SolarConnect.Pzem
