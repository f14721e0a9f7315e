import Mathlib.Algebra.Group.Nat.Defs
import Mathlib.Logic.Function.Basic

/-!
# Port sensor sync task

The polling loop `port_sensors_sync_task` (`port_sensors.c:403-478`): the daily in-use
accumulators and the event-driven upserts. A poll is given by what it reads from its
environment, namely the esp_timer milliseconds, `time(NULL)`, and for every port its
presence flag, its reading and whether an upsert for it would succeed. Clock values are
unbounded integers; the accumulators wrap at `2 ^ 32` as `uint32_t` does.
-/

namespace SolarConnect.PortSync

/-- `port_sensor_id_t` without its count. -/
inductive PortSensorId where
  | usbC1
  | usbC2
  | usbA1
  | usbA2
  deriving DecidableEq, Repr

/-- `port_sensor_status_t`. -/
inductive PortSensorStatus where
  | notReady
  | available
  | inUse
  | fault
  deriving DecidableEq, Repr

/-- The `port_key` column of `s_descriptors`. -/
def portSensorsPortKey : PortSensorId → String
  | .usbC1 => "usb_c_1"
  | .usbC2 => "usb_c_2"
  | .usbA1 => "usb_a_1"
  | .usbA2 => "usb_a_2"

/-- `port_sensors_status_string` (`port_sensors.c:772-785`). -/
def portSensorsStatusString : PortSensorStatus → String
  | .available => "available"
  | .inUse => "in_use"
  | .fault => "fault"
  | .notReady => "offline"

/-- `PORT_SENSORS_HEARTBEAT_INTERVAL_MS`. -/
def heartbeatIntervalMs : Int := 30000

/-- What one poll sees of one port: `s_sensor_present`, the status of its reading, and
    whether `supabase_post_upsert` succeeds if it is called for the port. -/
structure PortPoll where
  present : Bool
  status : PortSensorStatus
  upsertOk : Bool
  deriving DecidableEq, Repr

/-- One iteration of the loop: `esp_timer_get_time() / 1000`, `time(NULL)`, and the ports. -/
structure Poll where
  nowMs : Int
  time : Nat
  port : PortSensorId → PortPoll

/-- The per-port statics of the sync task. -/
structure PortState where
  lastPushedStatus : PortSensorStatus
  lastPushedTsMs : Int
  dailyInUseSeconds : Nat
  lastAccumTsMs : Int
  deriving DecidableEq, Repr

/-- The fields of the row `sync_reading_to_supabase` upserts. -/
structure Upsert where
  portKey : String
  status : String
  dailyInUseSeconds : Nat
  deriving DecidableEq, Repr

/-- The statics of the task; `utcDayAnchor` is `s_utc_day_anchor`, initially `-1`. -/
structure SyncState where
  port : PortSensorId → PortState
  utcDayAnchor : Int

/-- The initialization at the head of `port_sensors_sync_task`. -/
def SyncState.init : SyncState where
  port _ := ⟨.notReady, 0, 0, 0⟩
  utcDayAnchor := -1

/-- `update_daily_anchor_and_maybe_reset` (`port_sensors.c:383-401`). -/
def updateDailyAnchorAndMaybeReset (time : Nat) (s : SyncState) : SyncState :=
  let dayNow : Int := (time / 86400 : Nat)
  if dayNow = s.utcDayAnchor then s
  else if s.utcDayAnchor < 0 then { s with utcDayAnchor := dayNow }
  else
    { port := fun i => { s.port i with dailyInUseSeconds := 0 }
      utcDayAnchor := dayNow }

/-- The accumulation of one port (`port_sensors.c:447-454`). -/
def accumulate (nowMs : Int) (status : PortSensorStatus) (s : PortState) : PortState :=
  let dtMs := nowMs - s.lastAccumTsMs
  let seconds :=
    if status = .inUse ∧ s.lastAccumTsMs ≠ 0 ∧ 0 < dtMs ∧ dtMs < 60000 then
      (s.dailyInUseSeconds + (dtMs / 1000).toNat) % 2 ^ 32
    else s.dailyInUseSeconds
  { s with dailyInUseSeconds := seconds, lastAccumTsMs := nowMs }

/-- `changed || heartbeat_due`. -/
def pushDue (nowMs : Int) (status : PortSensorStatus) (s : PortState) : Bool :=
  status != s.lastPushedStatus || decide (heartbeatIntervalMs ≤ nowMs - s.lastPushedTsMs)

/-- The body of the port loop: the new statics of the port, and the upsert attempted. -/
def pollPort (nowMs : Int) (id : PortSensorId) (p : PortPoll) (s : PortState) :
    PortState × Option Upsert :=
  if !p.present then (s, none)
  else if p.status ≠ .available ∧ p.status ≠ .inUse then (s, none)
  else
    let s := accumulate nowMs p.status s
    if pushDue nowMs p.status s then
      let row : Upsert :=
        ⟨portSensorsPortKey id, portSensorsStatusString p.status, s.dailyInUseSeconds⟩
      if p.upsertOk then
        ({ s with lastPushedStatus := p.status, lastPushedTsMs := nowMs }, some row)
      else (s, some row)
    else (s, none)

/-- One iteration of the sync loop. The ports do not share statics, so the inner loop acts
    on each of them independently. -/
def poll (q : Poll) (s : SyncState) : SyncState :=
  let s := updateDailyAnchorAndMaybeReset q.time s
  { s with port := fun i => (pollPort q.nowMs i (q.port i) (s.port i)).1 }

/-- The upsert one iteration attempts for a port. -/
def pollUpsert (q : Poll) (s : SyncState) (i : PortSensorId) : Option Upsert :=
  (pollPort q.nowMs i (q.port i) ((updateDailyAnchorAndMaybeReset q.time s).port i)).2

/-- A run of the loop. -/
def runPolls (s : SyncState) (polls : List Poll) : SyncState :=
  polls.foldl (fun s q => poll q s) s

/-! ## What an iteration does to one port -/

theorem pollPort_accumulates (nowMs : Int) (id : PortSensorId) (p : PortPoll) (s : PortState)
    (present : p.present = true) (read : p.status = .available ∨ p.status = .inUse) :
    (pollPort nowMs id p s).1.dailyInUseSeconds =
        (accumulate nowMs p.status s).dailyInUseSeconds ∧
      (pollPort nowMs id p s).1.lastAccumTsMs = nowMs := by
  have live : ¬ (p.status ≠ .available ∧ p.status ≠ .inUse) := by
    rcases read with read | read <;> simp [read]
  unfold pollPort
  simp only [present, Bool.not_true, Bool.false_eq_true, if_false, live]
  split
  · split <;> exact ⟨rfl, rfl⟩
  · exact ⟨rfl, rfl⟩

theorem updateDailyAnchor_sameDay (time : Nat) (s : SyncState)
    (same : ((time / 86400 : Nat) : Int) = s.utcDayAnchor) :
    updateDailyAnchorAndMaybeReset time s = s := by
  simp [updateDailyAnchorAndMaybeReset, same]

@[simp] theorem updateDailyAnchor_anchor (time : Nat) (s : SyncState) :
    (updateDailyAnchorAndMaybeReset time s).utcDayAnchor = ((time / 86400 : Nat) : Int) := by
  unfold updateDailyAnchorAndMaybeReset
  by_cases same : ((time / 86400 : Nat) : Int) = s.utcDayAnchor
  · simp only [same, if_true]
  · simp only [same, if_false]
    split <;> rfl

@[simp] theorem poll_anchor (q : Poll) (s : SyncState) :
    (poll q s).utcDayAnchor = ((q.time / 86400 : Nat) : Int) :=
  updateDailyAnchor_anchor q.time s

end SolarConnect.PortSync
