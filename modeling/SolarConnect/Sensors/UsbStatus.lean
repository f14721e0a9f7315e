import SolarConnect.Sensors.PortSync
import SolarConnect.Misc.Runs
import Mathlib.Logic.Function.Basic

/-!
# USB port status

The sync task together with the `port_state` rows it writes. An upsert that returns `ESP_OK`
replaces the status of the row with its port key, any other leaves the rows alone, and nothing
else writes them. What the task remembers of a port is its last accepted push, and the row of
the port still shows that push.
-/

namespace SolarConnect.PortSync

open Runs

/-- `0 .. PORT_SENSOR_COUNT - 1`. -/
def portSensorIds : List PortSensorId := [.usbC1, .usbC2, .usbA1, .usbA2]

/-- An upsert that returned `ESP_OK`: the status it carried and when. -/
structure Push where
  status : PortSensorStatus
  tsMs : Int
  deriving DecidableEq, Repr

/-- The sync task, the `status` column of `port_state` by port key, and the accepted pushes of
    every port, latest first. -/
structure Station where
  task : SyncState
  rows : String → Option String
  pushes : PortSensorId → List Push

/-- The upsert of a poll for a port, if there is one and it returns `ESP_OK`. -/
def accepted (q : Poll) (s : SyncState) (i : PortSensorId) : Option Upsert :=
  if (q.port i).upsertOk then pollUpsert q s i else none

/-- The rows after the upsert of a port. -/
def storeRow (q : Poll) (s : SyncState) (rows : String → Option String) (i : PortSensorId) :
    String → Option String :=
  match accepted q s i with
  | some row => Function.update rows row.portKey (some row.status)
  | none => rows

/-- One iteration of the sync loop. -/
def pollStation (q : Poll) (st : Station) : Station where
  task := poll q st.task
  rows := portSensorIds.foldl (storeRow q st.task) st.rows
  pushes i :=
    if (accepted q st.task i).isSome then ⟨(q.port i).status, q.nowMs⟩ :: st.pushes i
    else st.pushes i

/-- The task at its start, in front of any rows. -/
def Station.init (rows : String → Option String) : Station where
  task := .init
  rows := rows
  pushes _ := []

/-! ## One poll -/

theorem portSensorsPortKey_injective {i j : PortSensorId}
    (same : portSensorsPortKey i = portSensorsPortKey j) : i = j := by
  revert same
  cases i <;> cases j <;> decide

/-- A reading that the loop does not skip. -/
def Read (p : PortPoll) : Prop :=
  p.present = true ∧ (p.status = .available ∨ p.status = .inUse)

/-- The static of the last accepted push. -/
def lastPushed (s : PortState) : Push :=
  ⟨s.lastPushedStatus, s.lastPushedTsMs⟩

/-- What an iteration does for a port: it attempts no upsert, and then none is due, or it
    attempts one that is due and remembers it if it is accepted. -/
inductive PortEffect (nowMs : Int) (id : PortSensorId) (p : PortPoll) (s : PortState) :
    PortState × Option Upsert → Prop
  | silent {s' : PortState} (quiet : Read p → pushDue nowMs p.status s = false)
    (kept : lastPushed s' = lastPushed s) : PortEffect nowMs id p s (s', none)
  | pushes {s' : PortState} {row : Upsert} (read : Read p)
    (due : pushDue nowMs p.status s = true) (key : row.portKey = portSensorsPortKey id)
    (status : row.status = portSensorsStatusString p.status)
    (remembered : lastPushed s' = if p.upsertOk then ⟨p.status, nowMs⟩ else lastPushed s) :
    PortEffect nowMs id p s (s', some row)

theorem pollPort_effect (nowMs : Int) (id : PortSensorId) (p : PortPoll) (s : PortState) :
    PortEffect nowMs id p s (pollPort nowMs id p s) := by
  have due : pushDue nowMs p.status (accumulate nowMs p.status s) = pushDue nowMs p.status s := rfl
  unfold pollPort
  by_cases present : p.present = true
  · by_cases live : p.status = .available ∨ p.status = .inUse
    · have skipped : ¬ (p.status ≠ .available ∧ p.status ≠ .inUse) := by
        rcases live with live | live <;> simp [live]
      simp only [present, Bool.not_true, Bool.false_eq_true, if_false, skipped, due]
      cases push : pushDue nowMs p.status s with
      | false => exact .silent (fun _ => push) rfl
      | true =>
        simp only [if_true]
        cases ok : p.upsertOk with
        | false => exact .pushes ⟨present, live⟩ push rfl rfl (by rw [ok]; rfl)
        | true => exact .pushes ⟨present, live⟩ push rfl rfl (by rw [ok]; rfl)
    · have skipped : p.status ≠ .available ∧ p.status ≠ .inUse := not_or.mp live
      simp only [present, Bool.not_true, Bool.false_eq_true, if_false, if_pos skipped]
      exact .silent (fun read => absurd read.2 live) rfl
  · simp only [present, Bool.not_false, if_true]
    exact .silent (fun read => absurd read.1 present) rfl

theorem lastPushed_newDay (time : Nat) (s : SyncState) (i : PortSensorId) :
    lastPushed ((updateDailyAnchorAndMaybeReset time s).port i) = lastPushed (s.port i) := by
  unfold updateDailyAnchorAndMaybeReset
  dsimp only
  split
  · rfl
  · split <;> rfl

/-- An upsert that is accepted carries the key of its port and the reading. -/
theorem accepted_row {q : Poll} {s : SyncState} {i : PortSensorId} {row : Upsert}
    (stored : accepted q s i = some row) :
    row.portKey = portSensorsPortKey i ∧
      row.status = portSensorsStatusString (q.port i).status := by
  unfold accepted pollUpsert at stored
  split at stored
  · have effect := pollPort_effect q.nowMs i (q.port i)
      ((updateDailyAnchorAndMaybeReset q.time s).port i)
    generalize pollPort q.nowMs i (q.port i)
      ((updateDailyAnchorAndMaybeReset q.time s).port i) = result at effect stored
    cases effect with
    | silent => cases stored
    | pushes read due key status =>
      obtain rfl := Option.some.inj stored
      exact ⟨key, status⟩
  · cases stored

/-! ## The rows -/

section
variable {q : Poll} {s : SyncState} {i j : PortSensorId}

theorem storeRow_own (rows : String → Option String) :
    storeRow q s rows i (portSensorsPortKey i) =
      if (accepted q s i).isSome then some (portSensorsStatusString (q.port i).status)
      else rows (portSensorsPortKey i) := by
  unfold storeRow
  cases stored : accepted q s i with
  | none => rfl
  | some row =>
    obtain ⟨key, status⟩ := accepted_row stored
    simp [← key, status]

theorem storeRow_other (different : i ≠ j) (rows : String → Option String) :
    storeRow q s rows j (portSensorsPortKey i) = rows (portSensorsPortKey i) := by
  unfold storeRow
  cases stored : accepted q s j with
  | none => rfl
  | some row =>
    apply Function.update_of_ne
    rw [(accepted_row stored).1]
    exact fun same => different (portSensorsPortKey_injective same)

theorem storeRows_other {ports : List PortSensorId} (other : i ∉ ports)
    (rows : String → Option String) :
    ports.foldl (storeRow q s) rows (portSensorsPortKey i) = rows (portSensorsPortKey i) := by
  induction ports generalizing rows with
  | nil => rfl
  | cons j ports ih =>
    rw [List.mem_cons, not_or] at other
    rw [List.foldl_cons, ih other.2, storeRow_other other.1]

/-- Every port of the loop has its own row. -/
theorem storeRows_own {ports : List PortSensorId} (distinct : ports.Nodup) (member : i ∈ ports)
    (rows : String → Option String) :
    ports.foldl (storeRow q s) rows (portSensorsPortKey i) =
      storeRow q s rows i (portSensorsPortKey i) := by
  induction ports generalizing rows with
  | nil => cases member
  | cons j ports ih =>
    obtain ⟨fresh, rest⟩ := List.nodup_cons.mp distinct
    rw [List.foldl_cons]
    rcases List.mem_cons.mp member with rfl | later
    · exact storeRows_other fresh _
    · have different : i ≠ j := by
        rintro rfl
        exact fresh later
      rw [ih rest later, storeRow_own, storeRow_own, storeRow_other different]

end

theorem pollStation_row (q : Poll) (st : Station) (i : PortSensorId) :
    (pollStation q st).rows (portSensorsPortKey i) =
      if (accepted q st.task i).isSome then some (portSensorsStatusString (q.port i).status)
      else st.rows (portSensorsPortKey i) := by
  have member : i ∈ portSensorIds := by cases i <;> decide
  rw [← storeRow_own]
  exact storeRows_own (by decide) member st.rows

/-! ## What the task remembers -/

/-- The task remembers the last accepted push of the port, and the row shows it. -/
structure InStep (st : Station) (i : PortSensorId) : Prop where
  remembered : lastPushed (st.task.port i) = (st.pushes i).head?.getD ⟨.notReady, 0⟩
  shown : ∀ push, (st.pushes i).head? = some push →
    st.rows (portSensorsPortKey i) = some (portSensorsStatusString push.status)

theorem inStep_init (rows : String → Option String) (i : PortSensorId) :
    InStep (.init rows) i := by
  refine ⟨rfl, ?_⟩
  intro push none
  cases none

/-- The outcome of a poll for a port. -/
theorem pollStation_effect (q : Poll) (st : Station) (i : PortSensorId) :
    PortEffect q.nowMs i (q.port i) ((updateDailyAnchorAndMaybeReset q.time st.task).port i)
      ((pollStation q st).task.port i, pollUpsert q st.task i) :=
  pollPort_effect _ _ _ _

theorem pollStation_pushed (q : Poll) (st : Station) (i : PortSensorId) :
    lastPushed ((pollStation q st).task.port i) =
      if (accepted q st.task i).isSome then ⟨(q.port i).status, q.nowMs⟩
      else lastPushed (st.task.port i) := by
  have effect := pollStation_effect q st i
  rw [accepted]
  generalize pollUpsert q st.task i = upsert at effect ⊢
  generalize (pollStation q st).task.port i = port at effect ⊢
  cases effect with
  | silent quiet kept =>
    rw [kept, lastPushed_newDay]
    cases (q.port i).upsertOk <;> rfl
  | pushes read due key status remembered =>
    rw [remembered, lastPushed_newDay]
    cases (q.port i).upsertOk <;> rfl

theorem InStep.poll {st : Station} {i : PortSensorId} (inStep : InStep st i) (q : Poll) :
    InStep (pollStation q st) i := by
  have pushes : (pollStation q st).pushes i =
      if (accepted q st.task i).isSome then ⟨(q.port i).status, q.nowMs⟩ :: st.pushes i
      else st.pushes i := rfl
  constructor
  · rw [pollStation_pushed, pushes, inStep.remembered]
    split <;> rfl
  · intro push latest
    rw [pushes] at latest
    rw [pollStation_row]
    by_cases stored : (accepted q st.task i).isSome = true
    · rw [if_pos stored] at latest ⊢
      obtain rfl := Option.some.inj latest
      rfl
    · rw [if_neg stored] at latest ⊢
      exact inStep.shown push latest

/-! ## Runs -/

/-- The station after a run of the task, from its start in front of any rows. -/
def stationAfter (rows : String → Option String) (history : List Poll) : Station :=
  run pollStation (.init rows) history

theorem stationAfter_inStep (rows : String → Option String) (history : List Poll)
    (i : PortSensorId) : InStep (stationAfter rows history) i :=
  run_invariant_always (fun st => InStep st i) history (inStep_init rows i)
    fun q _ inStep => inStep.poll q

/-- The row of the port shows the reading. -/
def Shows (q : Poll) (st : Station) (i : PortSensorId) : Prop :=
  st.rows (portSensorsPortKey i) = some (portSensorsStatusString (q.port i).status)

/-- The poll attempts an upsert for the port, and it fails. -/
def PushFails (q : Poll) (s : SyncState) (i : PortSensorId) : Prop :=
  (pollUpsert q s i).isSome = true ∧ (q.port i).upsertOk = false

/-- The reading differs from the last accepted push of the port, or that push is
    `PORT_SENSORS_HEARTBEAT_INTERVAL_MS` old; a port that was never pushed has nothing to
    differ from. -/
def PushNeeded (q : Poll) (st : Station) (i : PortSensorId) : Prop :=
  ∀ push, (st.pushes i).head? = some push →
    (q.port i).status ≠ push.status ∨ heartbeatIntervalMs ≤ q.nowMs - push.tsMs

/-- After every poll of every run, a port that reads available or in use shows that status or
    its upsert has just failed, and an upsert is attempted only if one is needed. -/
theorem usbStatus_converges (rows : String → Option String) (history : List Poll) (q : Poll)
    (i : PortSensorId) :
    (Read (q.port i) →
        Shows q (pollStation q (stationAfter rows history)) i ∨
          PushFails q (stationAfter rows history).task i) ∧
      ((pollUpsert q (stationAfter rows history).task i).isSome = true →
        PushNeeded q (stationAfter rows history) i) := by
  have inStep := stationAfter_inStep rows history i
  generalize stationAfter rows history = st at inStep ⊢
  have effect := pollStation_effect q st i
  have row := pollStation_row q st i
  have due : pushDue q.nowMs (q.port i).status
      ((updateDailyAnchorAndMaybeReset q.time st.task).port i) =
        ((q.port i).status != (lastPushed (st.task.port i)).status ||
          decide (heartbeatIntervalMs ≤ q.nowMs - (lastPushed (st.task.port i)).tsMs)) := by
    rw [← lastPushed_newDay q.time]
    rfl
  rw [inStep.remembered] at due
  rw [Shows, row, PushFails, PushNeeded, accepted]
  generalize pollUpsert q st.task i = upsert at effect ⊢
  generalize (pollStation q st).task.port i = port at effect
  cases effect with
  | silent quiet kept =>
    refine ⟨?_, by simp⟩
    intro read
    left
    -- Nothing is due, so the reading is the last accepted push, which the row shows.
    have same := due.symm.trans (quiet read)
    rw [Bool.or_eq_false_iff, bne_eq_false_iff_eq] at same
    cases latest : (st.pushes i).head? with
    | none =>
      rw [latest] at same
      rcases read.2 with live | live <;> cases live.symm.trans same.1
    | some push =>
      rw [latest] at same
      have reading : (q.port i).status = push.status := same.1
      rw [reading]
      simpa using inStep.shown push latest
  | pushes read wanted key status remembered =>
    constructor
    · intro _
      cases ok : (q.port i).upsertOk with
      | false => exact Or.inr ⟨rfl, rfl⟩
      | true => exact Or.inl rfl
    · intro _ push latest
      rw [latest, wanted] at due
      have needed := due.symm
      rw [Bool.or_eq_true, bne_iff_ne, decide_eq_true_iff] at needed
      exact needed

/-- A port goes into use, its upsert fails, and it is free again at the next poll. -/
def flicker : List Poll :=
  [⟨1000, 0, fun _ => ⟨true, .available, true⟩⟩, ⟨1500, 0, fun _ => ⟨true, .inUse, false⟩⟩]

theorem usbStatus_converges_flicker :
    let q : Poll := ⟨2000, 0, fun _ => ⟨true, .available, true⟩⟩
    Shows q (pollStation q (stationAfter (fun _ => none) flicker)) .usbC1 ∨
      PushFails q (stationAfter (fun _ => none) flicker).task .usbC1 :=
  (usbStatus_converges (fun _ => none) flicker ⟨2000, 0, fun _ => ⟨true, .available, true⟩⟩
    .usbC1).1 ⟨rfl, Or.inl rfl⟩

end SolarConnect.PortSync
