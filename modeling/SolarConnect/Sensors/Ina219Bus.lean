import SolarConnect.Sensors.PortTasks

/-!
# INA219 sensors on the bus

The statics of `port_sensors.c` and the sensors behind the bus. A sensor computes its current from
the shunt and its calibration, which a reset clears; loads and resets come at any time. A row that
a task posts says whether the port drew more than 50 mA at the moment its current was read, unless
the sensor was reset between the task's own calibration and that moment: what the other tasks do
to the sensor in between does no harm.
-/

namespace SolarConnect.PortSync.Ina219

open Bytes FlatJson Nvs Calls

/-- A sensor: its calibration register, and the voltage at its shunt in units of 10 uV, which is
    the current in units of 0.1 mA. -/
structure Chip where
  calibration : BitVec 16
  shunt : BitVec 16

/-- The statics, and the sensors by address. -/
structure Memory where
  installed : Bool
  initialized : Bool
  present : PortSensorId → Bool
  dailyInUseSeconds : PortSensorId → BitVec 32
  chip : Byte → Chip

/-- What happens to a sensor by itself: a reset clears its calibration, a load changes. -/
inductive Change
  | reset (addr : Byte)
  | load (addr : Byte) (shunt : BitVec 16)

/-- A transfer written to a sensor. The first bit of the configuration is a reset. -/
def Chip.take (chip : Chip) : List Byte → Chip
  | [reg, high, low] =>
    if reg = regCalibration then { chip with calibration := high ++ low }
    else if reg = regConfig ∧ high.getMsbD 0 then { chip with calibration := 0 }
    else chip
  | _ => chip

/-- A sensor after a transfer to it. -/
def Memory.write (m : Memory) (addr : Byte) (tx : List Byte) : Memory :=
  { m with chip := Function.update m.chip addr ((m.chip addr).take tx) }

section
variable (current : BitVec 16 → BitVec 16 → BitVec 16)

/-- What a sensor sends back, `current` being how it computes that register from its calibration
    and its shunt. -/
def Chip.Sends (chip : Chip) (tx rx : List Byte) : Prop :=
  tx = [regCurrent] →
    rx = [(current chip.calibration chip.shunt >>> 8).setWidth 8,
      (current chip.calibration chip.shunt).setWidth 8]

/-- What a call finds and leaves. A transfer that fails may or may not have been taken. -/
def serves : (c : Call) → Memory → Reply c → Memory → Prop
  | .loadInstalled, m, r, m' => r = m.installed ∧ m' = m
  | .storeInstalled, m, _, m' => m' = { m with installed := true }
  | .loadInitialized, m, r, m' => r = m.initialized ∧ m' = m
  | .storeInitialized, m, _, m' => m' = { m with initialized := true }
  | .loadPresent i, m, r, m' => r = m.present i ∧ m' = m
  | .storePresent i present, m, _, m' =>
    m' = { m with present := Function.update m.present i present }
  | .loadDailyInUseSeconds i, m, r, m' => r = m.dailyInUseSeconds i ∧ m' = m
  | .storeDailyInUseSeconds i seconds, m, _, m' =>
    m' = { m with dailyInUseSeconds := Function.update m.dailyInUseSeconds i seconds }
  | .transfer addr tx _, m, .ok rx, m' =>
    (m.chip addr).Sends current tx rx.toList ∧ m' = m.write addr tx
  | .transfer addr tx _, m, .error _, m' => m' = m ∨ m' = m.write addr tx
  | .paramConfig, m, _, m' | .driverInstall, m, _, m' | .probe _, m, _, m' | .timer, m, _, m'
  | .time, m, _, m' | .upsert _ _, m, _, m' => m' = m

/-- The bus, the statics and the sensors. -/
def board : World Call Reply Memory Change where
  serves := serves current
  change
    | .reset addr, m =>
      { m with chip := Function.update m.chip addr { m.chip addr with calibration := 0 } }
    | .load addr shunt, m =>
      { m with chip := Function.update m.chip addr { m.chip addr with shunt := shunt } }

end

/-! ## Calibration -/

/-- Only a calibration is written to a sensor, or a configuration that does not reset it. -/
theorem take_gentle {chip : Chip} (set : chip.calibration = calibration) {tx : List Byte}
    (gentle : (∃ reg, tx = [reg]) ∨ tx = registerWrite regConfig config ∨
      tx = registerWrite regCalibration calibration) :
    (chip.take tx).calibration = calibration := by
  rcases gentle with ⟨reg, rfl⟩ | rfl | rfl
  · exact set
  · exact set
  · rfl

/-- The sensor at the address is calibrated. -/
def Calibrated (addr : Byte) (m : Memory) : Prop :=
  (m.chip addr).calibration = calibration

theorem Calibrated.write {addr : Byte} {m : Memory} (set : Calibrated addr m) (dest : Byte)
    {tx : List Byte} (gentle : (∃ reg, tx = [reg]) ∨ tx = registerWrite regConfig config ∨
      tx = registerWrite regCalibration calibration) : Calibrated addr (m.write dest tx) := by
  unfold Calibrated Memory.write
  dsimp only
  by_cases same : addr = dest
  · subst same
    rw [Function.update_self]
    exact take_gentle set gentle
  · rw [Function.update_of_ne same]
    exact set

variable {current : BitVec 16 → BitVec 16 → BitVec 16}

/-- No call of a task undoes a calibration. -/
theorem Calibrated.serves {addr : Byte} {m m' : Memory} {c : Call} {r : Reply c}
    (set : Calibrated addr m) (gentle : Gentle c) (served : serves current c m r m') :
    Calibrated addr m' := by
  cases c with
  | transfer dest tx rxLen =>
    have writes := gentle dest tx rxLen rfl
    cases r with
    | ok rx =>
      obtain ⟨-, rfl⟩ := served
      exact set.write dest writes
    | error err =>
      rcases served with rfl | rfl
      · exact set
      · exact set.write dest writes
  | loadInstalled | loadInitialized | loadPresent | loadDailyInUseSeconds =>
    obtain ⟨-, rfl⟩ := served
    exact set
  | storeInstalled | storeInitialized | storePresent | storeDailyInUseSeconds | paramConfig
  | driverInstall | probe | timer | time | upsert =>
    cases served
    exact set

theorem Calibrated.change {addr : Byte} {m : Memory} (set : Calibrated addr m) {change : Change}
    (kept : change ≠ .reset addr) : Calibrated addr ((board current).change change m) := by
  cases change with
  | reset other =>
    have different : addr ≠ other := fun same => kept (same ▸ rfl)
    change (Function.update m.chip other _ addr).calibration = calibration
    rw [Function.update_of_ne different]
    exact set
  | load other shunt =>
    change (Function.update m.chip other _ addr).calibration = calibration
    by_cases same : addr = other
    · subst same
      rw [Function.update_self]
      exact set
    · rw [Function.update_of_ne same]
      exact set

/-- The bytes of a register make up its value. -/
theorem word_of_toList {rx : Vector Byte 2} {value : BitVec 16}
    (sent : rx.toList = [(value >>> 8).setWidth 8, value.setWidth 8]) : word rx = value := by
  have high : rx[0] = (value >>> 8).setWidth 8 := by
    have first := congrArg (fun l => l[0]?) sent
    simpa using first
  have low : rx[1] = value.setWidth 8 := by
    have second := congrArg (fun l => l[1]?) sent
    simpa using second
  rw [word, high, low]
  ext k bound
  simp
  grind

/-! ## Posted rows -/

section
variable {Thread : Type}

/-- A task writes the calibration of the sensor of a port. -/
abbrev calibrates (t : Thread) (i : PortSensorId) (set : Vector Byte 0) :
    Event Thread Call Reply Change :=
  .called t ⟨.transfer (i2cAddress i) (registerWrite regCalibration calibration) 0, Except.ok set⟩

/-- A task reads its current. -/
abbrev reads (t : Thread) (i : PortSensorId) (sent : Vector Byte 2) :
    Event Thread Call Reply Change :=
  .called t ⟨.transfer (i2cAddress i) [regCurrent] 2, Except.ok sent⟩

variable [DecidableEq Thread]

/-- After a calibration the sensor stays calibrated, whatever the tasks do, until it is reset. -/
theorem calibrated_between {uninitialised : PortSensorId → Reading} {jobs : Thread → List Job}
    {m : Memory} {earlier between : List (Event Thread Call Reply Change)} {t : Thread}
    {i : PortSensorId} {set : Vector Byte 0} {s : System Thread Call Reply Unit Memory}
    (run : Run (board current) (started uninitialised jobs m)
      (earlier ++ calibrates t i set :: between) s)
    (kept : .changed (.reset (i2cAddress i)) ∉ between) : Calibrated (i2cAddress i) s.world := by
  have gentle : ∀ t' entry, .called t' entry ∈ between → Gentle entry.call := by
    intro t' entry member
    obtain ⟨front, back, rfl⟩ := List.append_of_mem member
    rw [← List.cons_append, ← List.append_assoc] at run
    exact calls_gentle run
  obtain ⟨start, -, rest⟩ := Run.append_iff.mp run
  cases rest with
  | step first rest =>
    refine Run.world_invariant (Calibrated (i2cAddress i)) ?_ ?_ ?_ rest
    · cases first with
      | called waits served =>
        obtain ⟨-, rfl⟩ := served
        change (Function.update start.world.chip (i2cAddress i) _ (i2cAddress i)).calibration =
          calibration
        rw [Function.update_self]
        rfl
    · exact fun t' entry member a b served set =>
        set.serves (gentle t' entry member) served
    · intro change member a set
      exact set.change fun same => kept (same ▸ member)

/-- The end of a history in which a task has made three calls in a row, and others since. -/
theorem own_three {x : Log} {events : List (Event Thread Call Reply Change)} {t : Thread}
    {one two three : Entry Call Reply} {rest : Log}
    (calls : own t events = x ++ one :: two :: three :: rest) :
    ∃ earlier between later, events =
        (earlier ++ .called t one :: between) ++ .called t three :: later ∧
      own t between = [two] ∧ own t later = rest := by
  obtain ⟨a, _, rfl, -, fromOne⟩ := own_eq_append calls
  obtain ⟨b, _, rfl, -, fromTwo⟩ := own_eq_cons fromOne
  obtain ⟨c, _, rfl, beforeTwo, fromThree⟩ := own_eq_cons fromTwo
  obtain ⟨d, later, rfl, beforeThree, last⟩ := own_eq_cons fromThree
  refine ⟨a ++ b, c ++ .called t two :: d, later, by simp, ?_, last⟩
  rw [own_append, own_cons, beforeTwo, beforeThree]
  rfl

/-- Whatever the tasks and the loads do and in whatever order: a posted row shows whether the port
    drew more than 50 mA when the task read its current, unless the sensor was reset after the task
    had calibrated it for this reading; and the task has not asked the sensor since. -/
theorem posted_rows_true (calibrated : ∀ shunt, current calibration shunt = shunt)
    (uninitialised : PortSensorId → Reading) (jobs : Thread → List Job) (m : Memory)
    {before after : List (Event Thread Call Reply Change)} {t : Thread} {path body : List Byte}
    {r : Reply (.upsert path body)} {s : System Thread Call Reply Unit Memory}
    (run : Run (board current) (started uninitialised jobs m)
      (before ++ .called t ⟨.upsert path body, r⟩ :: after) s) :
    ∃ i status seconds, readObject body = some (portStateRow i status seconds) ∧
      ∃ earlier set between bus sent later,
        before = (earlier ++ calibrates t i set :: between) ++ reads t i sent :: later ∧
          own t between = [⟨.transfer (i2cAddress i) [regBusVoltage] 2, Except.ok bus⟩] ∧
          Alone i (own t later) ∧
          ∃ reading : System Thread Call Reply Unit Memory,
            Run (board current) (started uninitialised jobs m)
                (earlier ++ calibrates t i set :: between) reading ∧
              (.changed (.reset (i2cAddress i)) ∉ between → status =
                if 500 < (reading.world.chip (i2cAddress i)).shunt.toInt then .inUse
                else .available) := by
  obtain ⟨-, i, status, seconds, backed, row⟩ :=
    posted_rows_measured (board current) uninitialised jobs m run
  refine ⟨i, status, seconds, row, ?_⟩
  obtain ⟨front, set, bus, sent, last, calls, alone, shows⟩ := backed
  obtain ⟨earlier, between, later, rfl, measuring, since⟩ := own_three calls
  refine ⟨earlier, set, between, bus, sent, later, rfl, measuring, since ▸ alone, ?_⟩
  rw [List.append_assoc] at run
  obtain ⟨reading, upTo, rest⟩ := Run.append_iff.mp run
  refine ⟨reading, upTo, fun kept => ?_⟩
  have set := calibrated_between upTo kept
  cases rest with
  | step first rest =>
    cases first with
    | called waits served =>
      obtain ⟨sends, -⟩ := served
      have value := word_of_toList (sends rfl)
      rw [show (reading.world.chip (i2cAddress i)).calibration = calibration from set,
        calibrated] at value
      rw [shows, value]

end

/-! ## A port in use -/

/-- The current register, for `calibration` and for a cleared one. -/
def scaled (calibration shunt : BitVec 16) : BitVec 16 :=
  BitVec.ofInt 16 (shunt.toInt * calibration.toNat / 4096)

/-- One sensor is there, it has lost its calibration, and 60 mA are drawn. -/
def drawing : Memory where
  installed := true
  initialized := true
  present i := i = .usbC1
  dailyInUseSeconds _ := 7
  chip _ := ⟨0, 600⟩

def noReading (i : PortSensorId) : Reading :=
  fillNotReadyReading i

/-- A sensor that does not answer is read. -/
def missing (i : PortSensorId) : List (Event Unit Call Reply Change) :=
  [.called () ⟨.loadInitialized, true⟩, .called () ⟨.loadPresent i, false⟩,
    .called () ⟨.probe (i2cAddress i), Except.error (-1)⟩]

/-- What `port_sensors_sync_once` does up to its upsert. -/
def sampled : List (Event Unit Call Reply Change) :=
  [.called () ⟨.loadInitialized, true⟩, .called () ⟨.loadPresent .usbC1, true⟩,
    calibrates () .usbC1 #v[],
    .called () ⟨.transfer 0x44 [regBusVoltage] 2, Except.ok #v[0x1F, 0x40]⟩,
    reads () .usbC1 #v[0x02, 0x58]] ++ missing .usbC2 ++ missing .usbA1 ++ missing .usbA2 ++
    [.called () ⟨.loadPresent .usbC1, true⟩, .called () ⟨.loadDailyInUseSeconds .usbC1, 7#32⟩]

/-- The body of its upsert. -/
def inUseBody : List Byte :=
  Body ⟨"usb_c_1", "in_use", 7⟩

theorem sampled_run : ∃ s, Run (board scaled) (started noReading (fun _ => [.syncOnce]) drawing)
    (sampled ++ .called () ⟨.upsert portStatePath inUseBody, Except.ok ()⟩ :: []) s := by
  refine ⟨_, .step (.called rfl ⟨rfl, rfl⟩) (.step (.called rfl ⟨rfl, rfl⟩)
    (.step (.called rfl ⟨fun same => ?_, rfl⟩) (.step (.called rfl ⟨fun same => ?_, rfl⟩)
      (.step (.called rfl ⟨fun same => ?_, rfl⟩) (.step (.called rfl ⟨rfl, rfl⟩)
        (.step (.called rfl ⟨rfl, rfl⟩) (.step (.called rfl rfl) (.step (.called rfl ⟨rfl, rfl⟩)
          (.step (.called rfl ⟨rfl, rfl⟩) (.step (.called rfl rfl) (.step (.called rfl ⟨rfl, rfl⟩)
            (.step (.called rfl ⟨rfl, rfl⟩) (.step (.called rfl rfl)
              (.step (.called rfl ⟨rfl, rfl⟩) (.step (.called rfl ⟨rfl, rfl⟩)
                (.step (.called rfl rfl) (.start _)))))))))))))))))⟩
  · cases same
  · cases same
  · decide

theorem posted_rows_measured_sampled :
    portStatePath = portStatePath ∧ ∃ i status seconds, Backed i status (own () sampled) ∧
      readObject inUseBody = some (portStateRow i status seconds) := by
  obtain ⟨s, run⟩ := sampled_run
  exact posted_rows_measured (board scaled) noReading (fun _ => [.syncOnce]) drawing run

theorem scaled_calibration (shunt : BitVec 16) : scaled calibration shunt = shunt := by
  have unit : (calibration.toNat : Int) = 4096 := rfl
  rw [scaled, unit, Int.mul_ediv_cancel _ (by decide), BitVec.ofInt_toInt]

theorem posted_rows_true_sampled :
    ∃ i status seconds, readObject inUseBody = some (portStateRow i status seconds) ∧
      ∃ earlier set between bus sent later,
        sampled = (earlier ++ calibrates () i set :: between) ++ reads () i sent :: later ∧
          own () between = [⟨.transfer (i2cAddress i) [regBusVoltage] 2, Except.ok bus⟩] ∧
          Alone i (own () later) ∧
          ∃ reading : System Unit Call Reply Unit Memory,
            Run (board scaled) (started noReading (fun _ => [.syncOnce]) drawing)
                (earlier ++ calibrates () i set :: between) reading ∧
              (.changed (.reset (i2cAddress i)) ∉ between → status =
                if 500 < (reading.world.chip (i2cAddress i)).shunt.toInt then .inUse
                else .available) := by
  obtain ⟨s, run⟩ := sampled_run
  exact posted_rows_true scaled_calibration noReading (fun _ => [.syncOnce]) drawing run

end SolarConnect.PortSync.Ina219
