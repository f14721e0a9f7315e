import SolarConnect.Sensors.UsbStatus
import SolarConnect.Misc.Binary32
import SolarConnect.Misc.Calls
import SolarConnect.Misc.CText
import SolarConnect.Misc.Nvs

/-!
# INA219 port sensors

The tasks that read the four sensors: the sync task, and the requests of the test page. They share
the I2C bus and the statics of `port_sensors.c`, and each goes from call to call: a transfer, an
access to a static that another task may have changed, a clock, or an upsert. Whatever the others
do in between, a row that a task posts shows what the sensor of that port last told it.
-/

namespace SolarConnect.PortSync.Ina219

open Bytes FlatJson CText Nvs Calls

/-- `ESP_ERR_INVALID_STATE`. -/
def espErrInvalidState : Err := 0x103

/-! ## Descriptors -/

/-- The `i2c_address` column of `s_descriptors`. -/
def i2cAddress : PortSensorId → Byte
  | .usbC1 => 0x44
  | .usbC2 => 0x41
  | .usbA1 => 0x40
  | .usbA2 => 0x45

def regConfig : Byte := 0x00
def regBusVoltage : Byte := 0x02
def regCurrent : Byte := 0x04
def regCalibration : Byte := 0x05

/-- `PORT_SENSORS_INA219_CONFIG`. -/
def config : BitVec 16 := 0x399F

/-- `PORT_SENSORS_INA219_CALIBRATION`. -/
def calibration : BitVec 16 := 4096

/-! ## Calls -/

/-- What a task calls. -/
inductive Call
  | loadInstalled
  | storeInstalled
  | paramConfig
  | driverInstall
  | probe (addr : Byte)
  | transfer (addr : Byte) (tx : List Byte) (rxLen : Nat)
  | loadInitialized
  | storeInitialized
  | loadPresent (i : PortSensorId)
  | storePresent (i : PortSensorId) (present : Bool)
  | loadDailyInUseSeconds (i : PortSensorId)
  | storeDailyInUseSeconds (i : PortSensorId) (seconds : BitVec 32)
  | timer
  | time
  | upsert (path body : List Byte)

/-- What it gets back. The errors are those other than `ESP_OK`. -/
def Reply : Call → Type
  | .loadInstalled | .loadInitialized | .loadPresent _ => Bool
  | .paramConfig | .driverInstall | .probe _ | .upsert _ _ => Except Err Unit
  | .transfer _ _ rxLen => Except Err (Vector Byte rxLen)
  | .loadDailyInUseSeconds _ => BitVec 32
  | .timer => Int
  | .time => Nat
  | .storeInstalled | .storeInitialized | .storePresent _ _ | .storeDailyInUseSeconds _ _ => Unit

abbrev Task := Prog Call Reply
abbrev Log := List (Entry Call Reply)

def ask (c : Call) : Task (Reply c) :=
  Prog.perform c

def loadInstalled : Task Bool := ask .loadInstalled
def storeInstalled : Task Unit := ask .storeInstalled
def paramConfig : Task (Except Err Unit) := ask .paramConfig
def driverInstall : Task (Except Err Unit) := ask .driverInstall
def loadInitialized : Task Bool := ask .loadInitialized
def storeInitialized : Task Unit := ask .storeInitialized
def loadPresent (i : PortSensorId) : Task Bool := ask (.loadPresent i)

def storePresent (i : PortSensorId) (present : Bool) : Task Unit :=
  ask (.storePresent i present)

def loadDailyInUseSeconds (i : PortSensorId) : Task (BitVec 32) :=
  ask (.loadDailyInUseSeconds i)

def storeDailyInUseSeconds (i : PortSensorId) (seconds : BitVec 32) : Task Unit :=
  ask (.storeDailyInUseSeconds i seconds)

def i2cTransfer (addr : Byte) (tx : List Byte) (rxLen : Nat) :
    Task (Except Err (Vector Byte rxLen)) :=
  ask (.transfer addr tx rxLen)

def espTimerMs : Task Int := ask .timer
def time : Task Nat := ask .time

def supabasePostUpsert (path body : List Byte) : Task (Except Err Unit) :=
  ask (.upsert path body)

/-- `if (err != ESP_OK) return err;` -/
def orReturn (first : Task (Except Err α)) (next : α → Task (Except Err β)) :
    Task (Except Err β) := do
  match ← first with
  | .error err => return .error err
  | .ok a => next a

/-! ## Driver -/

/-- `i2c_bus_install` (`port_sensors.c:161-202`), without the levels it logs. -/
def i2cBusInstall : Task (Except Err Unit) := do
  if ← loadInstalled then return .ok ()
  else
    orReturn paramConfig fun _ => do
      match ← driverInstall with
      | .error err =>
        if err = espErrInvalidState then
          storeInstalled
          return .ok ()
        else return .error err
      | .ok _ =>
        storeInstalled
        return .ok ()

/-- `i2c_probe_address` (`port_sensors.c:204-226`). -/
def i2cProbeAddress (addr : Byte) : Task (Except Err Unit) :=
  ask (.probe addr)

/-- The bytes of a register write. -/
def registerWrite (reg : Byte) (value : BitVec 16) : List Byte :=
  [reg, (value >>> 8).setWidth 8, value.setWidth 8]

/-- `ina219_write_u16` (`port_sensors.c:228-241`). -/
def ina219WriteU16 (addr reg : Byte) (value : BitVec 16) : Task (Except Err Unit) := do
  return (← i2cTransfer addr (registerWrite reg value) 0).map fun _ => ()

/-- The value of a register, as it is sent. -/
def word (rx : Vector Byte 2) : BitVec 16 :=
  rx[0] ++ rx[1]

/-- `ina219_read_u16` (`port_sensors.c:243-264`). -/
def ina219ReadU16 (addr reg : Byte) : Task (Except Err (BitVec 16)) := do
  return (← i2cTransfer addr [reg] 2).map word

/-- `ina219_configure` (`port_sensors.c:266-295`). -/
def ina219Configure (addr : Byte) : Task (Except Err Unit) :=
  orReturn (ina219WriteU16 addr regConfig config) fun _ =>
    orReturn (ina219WriteU16 addr regCalibration calibration) fun _ =>
      orReturn (ina219ReadU16 addr regConfig) fun _ => return .ok ()

/-- `ensure_sensor_ready` (`port_sensors.c:297-315`). -/
def ensureSensorReady (i : PortSensorId) : Task (Except Err Unit) := do
  if ← loadPresent i then return .ok ()
  else
    orReturn (i2cProbeAddress (i2cAddress i)) fun _ =>
      orReturn (ina219Configure (i2cAddress i)) fun _ => do
        storePresent i true
        return .ok ()

/-! ## Readings -/

/-- `port_sensor_reading_t`, the voltage in units of `2 ^ -31` V and the current in units of
    `2 ^ -27` mA. -/
structure Reading where
  id : PortSensorId
  busVoltageV : Int
  currentMa : Int
  status : PortSensorStatus

/-- `fill_not_ready_reading` (`port_sensors.c:44-61`). -/
def fillNotReadyReading (i : PortSensorId) : Reading :=
  ⟨i, 0, 0, .notReady⟩

/-- `(float)((bus_raw >> 3) & 0x1FFF) * 0.004f`. -/
def busVoltageV (busRaw : BitVec 16) : Int :=
  Binary32.round (((busRaw >>> 3) &&& 0x1FFF).toNat * 8589935 : Nat)

/-- `(float)((int16_t)current_raw) * 0.1f`. -/
def currentMa (currentRaw : BitVec 16) : Int :=
  Binary32.round (currentRaw.toInt * 13421773)

/-- `PORT_IN_USE_THRESHOLD_MA`. -/
def inUseThresholdMa : Int := 50 * 2 ^ 27

/-- The fields that a read fills in. -/
def measured (i : PortSensorId) (busRaw currentRaw : BitVec 16) : Reading where
  id := i
  busVoltageV := busVoltageV busRaw
  currentMa := currentMa currentRaw
  status := if inUseThresholdMa < currentMa currentRaw then .inUse else .available

/-- `if (err != ESP_OK) { s_sensor_present[id] = false; return err; }`, with the reading as it is
    then. -/
def orLose (i : PortSensorId) (out : Reading) (first : Task (Except Err α))
    (next : α → Task (Except Err Unit × Reading)) : Task (Except Err Unit × Reading) := do
  match ← first with
  | .error err =>
    storePresent i false
    return (.error err, out)
  | .ok a => next a

/-- `port_sensors_read` (`port_sensors.c:597-671`). -/
def portSensorsRead (i : PortSensorId) : Task (Except Err Unit × Reading) := do
  let out := fillNotReadyReading i
  if ← loadInitialized then
    let out := { out with status := .fault }
    match ← ensureSensorReady i with
    | .error err => return (.error err, out)
    | .ok _ =>
      orLose i out (ina219WriteU16 (i2cAddress i) regCalibration calibration) fun _ =>
        orLose i out (ina219ReadU16 (i2cAddress i) regBusVoltage) fun busRaw =>
          orLose i out (ina219ReadU16 (i2cAddress i) regCurrent) fun currentRaw =>
            return (.ok (), measured i busRaw currentRaw)
  else return (.error espErrInvalidState, out)

/-- `first_err`, and an array of readings. -/
structure ReadAll where
  firstErr : Except Err Unit
  readings : PortSensorId → Reading

/-- `if (err != ESP_OK && first_err == ESP_OK) first_err = err;` -/
def keepFirst : Except Err Unit → Except Err Unit → Except Err Unit
  | .ok _, err => err
  | .error first, _ => .error first

/-- The loop body of `port_sensors_read_all`. -/
def readInto (i : PortSensorId) (all : ReadAll) : Task ReadAll := do
  let (err, out) ← portSensorsRead i
  return ⟨keepFirst all.firstErr err, Function.update all.readings i out⟩

/-- `port_sensors_read_all` (`port_sensors.c:673-687`). -/
def portSensorsReadAll (uninitialised : PortSensorId → Reading) : Task ReadAll :=
  Prog.forEach readInto portSensorIds ⟨.ok (), uninitialised⟩

/-! ## Posting -/

/-- The path of the upserts. -/
def portStatePath : List Byte :=
  ascii "/rest/v1/port_state?on_conflict=station_id,port_key"

/-- `payload`. -/
def portPayload (portKey status : List Byte) (dailyInUseSeconds : Nat) : List Byte :=
  snprintf 224 (ascii "\x7b\"station_id\":\"solar-hub-01\",\"port_key\":\"" ++ (portKey ++
    (ascii "\",\"status\":\"" ++ (status ++ (ascii "\",\"daily_in_use_seconds\":" ++
      (decimal dailyInUseSeconds ++ ascii "\x7d"))))))

/-- The body for a row of the sync task. -/
def Body (row : Upsert) : List Byte :=
  portPayload (ascii row.portKey) (ascii row.status) row.dailyInUseSeconds

/-- `sync_reading_to_supabase` (`port_sensors.c:332-376`). -/
def syncReadingToSupabase (reading : Reading) (dailyInUseSeconds : Nat) :
    Task (Except Err Unit) :=
  supabasePostUpsert portStatePath (Body ⟨portSensorsPortKey reading.id,
    portSensorsStatusString reading.status, dailyInUseSeconds⟩)

/-- The loop body of `port_sensors_sync_once`. -/
def syncOncePort (readings : PortSensorId → Reading) (i : PortSensorId)
    (firstErr : Except Err Unit) : Task (Except Err Unit) := do
  if ← loadPresent i then
    if (readings i).status ≠ .available ∧ (readings i).status ≠ .inUse then return firstErr
    else
      let seconds ← loadDailyInUseSeconds i
      let err ← syncReadingToSupabase (readings i) seconds.toNat
      return keepFirst firstErr err
  else return firstErr

/-- `port_sensors_sync_once` (`port_sensors.c:689-728`). -/
def portSensorsSyncOnce (uninitialised : PortSensorId → Reading) : Task (Except Err Unit) := do
  let all ← portSensorsReadAll uninitialised
  Prog.forEach (syncOncePort all.readings) portSensorIds all.firstErr

/-! ## Start and scan -/

/-- The addresses that `port_sensors_scan_i2c` probes. -/
def scannedAddresses : List Byte :=
  (List.range' 0x03 0x75).map (BitVec.ofNat 8)

/-- `port_sensors_scan_i2c` (`port_sensors.c:549-595`): the addresses that answer, of which the
    caller is told the number and gets as many as it has room for. -/
def portSensorsScanI2c : Task (Except Err (List Byte)) :=
  orReturn i2cBusInstall fun _ => do
    let detected ← Prog.forEach (fun addr detected => do
      match ← i2cProbeAddress addr with
      | .ok _ => return detected ++ [addr]
      | .error _ => return detected) scannedAddresses []
    return .ok detected

/-- The loop body of `port_sensors_init`. -/
def initSensor (i : PortSensorId) : Task Unit := do
  match ← i2cProbeAddress (i2cAddress i) with
  | .error _ => storePresent i false
  | .ok _ =>
    match ← ina219Configure (i2cAddress i) with
    | .error _ => storePresent i false
    | .ok _ => storePresent i true

/-- `port_sensors_init` (`port_sensors.c:481-538`). -/
def portSensorsInit : Task (Except Err Unit) := do
  if ← loadInitialized then return .ok ()
  else
    orReturn i2cBusInstall fun _ => do
      let _ ← portSensorsScanI2c
      Prog.forEach (fun i _ => initSensor i) portSensorIds ()
      storeInitialized
      return .ok ()

/-! ## Sync task -/

/-- `s_daily_in_use_seconds` as the other tasks find it. -/
def publish (i : PortSensorId) (s : PortState) : Task Unit :=
  storeDailyInUseSeconds i (BitVec.ofNat 32 s.dailyInUseSeconds)

/-- The statics that a successful upsert sets. -/
def pushed (nowMs : Int) (status : PortSensorStatus) (s : PortState) : PortState :=
  { s with lastPushedStatus := status, lastPushedTsMs := nowMs }

/-- The loop body of a poll. -/
def syncPort (nowMs : Int) (readings : PortSensorId → Reading) (i : PortSensorId)
    (s : SyncState) : Task SyncState := do
  if ← loadPresent i then
    let status := (readings i).status
    if status ≠ .available ∧ status ≠ .inUse then return s
    else
      let port := accumulate nowMs status (s.port i)
      publish i port
      if pushDue nowMs status port then
        match ← syncReadingToSupabase (readings i) port.dailyInUseSeconds with
        | .ok _ => return { s with port := Function.update s.port i (pushed nowMs status port) }
        | .error _ => return { s with port := Function.update s.port i port }
      else return { s with port := Function.update s.port i port }
  else return s

/-- One iteration of the loop of `port_sensors_sync_task` (`port_sensors.c:430-477`). -/
def syncIteration (uninitialised : PortSensorId → Reading) (s : SyncState) : Task SyncState := do
  let all ← portSensorsReadAll uninitialised
  let nowMs ← espTimerMs
  let now ← time
  let s := updateDailyAnchorAndMaybeReset now s
  Prog.forEach (fun i _ => publish i (s.port i)) portSensorIds ()
  Prog.forEach (syncPort nowMs all.readings) portSensorIds s

/-- `port_sensors_sync_task`, for so many iterations. -/
def portSensorsSyncTask (uninitialised : PortSensorId → Reading) (iterations : Nat) :
    Task SyncState := do
  Prog.forEach (fun i _ => publish i (SyncState.init.port i)) portSensorIds ()
  Prog.forEach (fun _ s => syncIteration uninitialised s) (List.replicate iterations ()) .init

end SolarConnect.PortSync.Ina219
