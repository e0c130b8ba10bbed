import Mathlib.Data.Finset.Insert
import Greenhouse.Contract.Document
import Greenhouse.Controller.Rest

/-!
# Telemetry frames

Every tick publishes a frame for each trusted reading, one for each house actuator, one for
each fault that was not active before, and the retained frame with the whole system state.
A payload is the document that is written; its members are in the order of the source.

* `telemetryFrames`: the frames of a snapshot.
* `length_faultFrames`: there is one fault frame for each fault that was not active.
-/

namespace Greenhouse.Controller

open Greenhouse.Numeric Greenhouse.Contract Std

/-! ## Vocabulary -/

def schemaVersion : Nat := 1

/-- A ready-to-send frame. -/
structure PublishFrame where
  topic : String
  payload : Document
  retain : Bool

/-- The fixed epoch, 2026-01-01T00:00:00Z. -/
def epoch : Int := 1767225600

/-- The text of a simulated instant. -/
def ts [Rfc3339] (base : Int) (simSeconds : Nat) : String := Rfc3339.format (base + simSeconds)

def FaultType.wireName : FaultType → String
  | .stuck => "stuck"
  | .outOfRange => "out_of_range"
  | .sensorDisagreement => "sensor_disagreement"
  | .redundancyDegraded => "redundancy_degraded"
  | .temperatureUnavailable => "temperature_unavailable"
  | .criticalTemperature => "critical_temperature"
  | .co2Ceiling => "co2_ceiling"
  | .irrigationNoResponse => "irrigation_no_response"
  | .actuatorStuck => "actuator_stuck"
  | .actuatorNoResponse => "actuator_no_response"
  | .setpointUnreachable => "setpoint_unreachable"

def Severity.wireName : Severity → String
  | .warning => "warning"
  | .alarm => "alarm"

def Mode.wireName : Mode → String
  | .normal => "normal"
  | .degraded => "degraded"
  | .interlock => "interlock"

theorem FaultType.wireName_injective {a b : FaultType} (h : a.wireName = b.wireName) : a = b := by
  cases a <;> cases b <;> first | rfl | exact absurd h (by decide)

theorem Severity.wireName_injective {a b : Severity} (h : a.wireName = b.wireName) : a = b := by
  cases a <;> cases b <;> first | rfl | exact absurd h (by decide)

/-- The output of an actuator at a level. -/
def OutputState.new (actuator : Actuator) (level : F64) : OutputState where
  on := 0 < level
  levelPct := if isOnOff actuator then none else some level

def OutputState.document (s : OutputState) : Document :=
  .object [("on", .bool s.on), ("level_pct", .ofOption .ofF64 s.levelPct)]

/-- The verdict of the health monitor on an actuator, read off the active faults. -/
def healthStr (name : String) (faults : List Fault) : String :=
  let own := (faults.filter (·.component == name)).map (·.faultType)
  if .actuatorStuck ∈ own then "stuck"
  else if .actuatorNoResponse ∈ own ∨ .irrigationNoResponse ∈ own then "no_response"
  else "ok"

/-- What tells an active fault from another. -/
structure FaultKey where
  component : String
  zoneId : Option String
  faultType : FaultType
  deriving DecidableEq

def faultKey (fault : Fault) : FaultKey where
  component := fault.component
  zoneId := fault.zoneId.map Slug.asStr
  faultType := fault.faultType

/-- The faults active in a snapshot. -/
def activeFaultKeys (snapshot : Snapshot) : Finset FaultKey :=
  (snapshot.faults.map faultKey).toFinset

def Snapshot.healthy (s : Snapshot) : Bool := s.faults.isEmpty

/-! ## Frames -/

/-- The members that every message carries. -/
def envelope (greenhouseId : String) (zoneId : Option String) (ts : String) :
    List (String × Document) :=
  [("schema_version", .int schemaVersion), ("greenhouse_id", .string greenhouseId),
    ("zone_id", .ofOption .string zoneId), ("ts", .string ts)]

/-- A reading with its unit. -/
def readingVu (value : F64) (unit : String) : Document :=
  .object [("value", .ofF64 value), ("unit", .string unit)]

/-- The house metrics of a snapshot, with their units. -/
def houseReadings (trusted : TrustedState) : List (String × Option F64 × String) :=
  [("temperature", trusted.temperature, "°C"), ("humidity", trusted.humidity, "%RH"),
    ("co2", trusted.co2, "ppm"), ("par", trusted.par, "µmol·m⁻²·s⁻¹"),
    ("vpd", trusted.vpd, "kPa")]

def sensorReadingMsg (greenhouseId : String) (zoneId : Option String) (ts metric : String)
    (value : F64) (unit : String) : Document :=
  .object (envelope greenhouseId zoneId ts ++
    [("metric", .string metric), ("value", .ofF64 value), ("unit", .string unit)])

def houseFrames (snapshot : Snapshot) (greenhouseId ts : String) : List PublishFrame :=
  (houseReadings snapshot.trusted).filterMap fun (metric, value, unit) =>
    value.map fun value => {
      topic := "gh/" ++ greenhouseId ++ "/sensor/" ++ metric
      payload := sensorReadingMsg greenhouseId none ts metric value unit
      retain := false }

/-- The soil moisture of every zone where it is trusted. -/
def soilFrames (snapshot : Snapshot) (greenhouseId ts : String) : List PublishFrame :=
  snapshot.trusted.soilMoisture.toList.filterMap fun (zone, reading) =>
    reading.map fun value => {
      topic := "gh/" ++ greenhouseId ++ "/zone/" ++ zone.asStr ++ "/sensor/soil_moisture"
      payload := sensorReadingMsg greenhouseId (some zone.asStr) ts "soil_moisture" value "VWC"
      retain := false }

/-- What is told about an actuator, in its own frame and in the system state. -/
def actuatorEntry (snapshot : Snapshot) (actuator : Actuator) : List (String × Document) :=
  [("actuator", .string actuator.wireName),
    ("commanded", (OutputState.new actuator (snapshot.commanded.get (.house actuator))).document),
    ("observed", (OutputState.new actuator (snapshot.observed.get (.house actuator))).document),
    ("health", .string (healthStr actuator.wireName snapshot.faults)),
    ("overridden", .bool (snapshot.overrides.contains (.house actuator)))]

def actuatorFrames (snapshot : Snapshot) (greenhouseId ts : String) : List PublishFrame :=
  houseActuators.map fun actuator => {
    topic := "gh/" ++ greenhouseId ++ "/actuator/" ++ actuator.wireName ++ "/state"
    payload := .object (envelope greenhouseId none ts ++ actuatorEntry snapshot actuator)
    retain := false }

def faultEventMsg (greenhouseId ts : String) (fault : Fault) : Document :=
  .object (envelope greenhouseId (fault.zoneId.map Slug.asStr) ts ++
    [("component", .string fault.component), ("fault_type", .string fault.faultType.wireName),
      ("severity", .string fault.severity.wireName), ("message", .string fault.message),
      ("response", .string fault.response)])

def faultFrame (greenhouseId ts : String) (fault : Fault) : PublishFrame where
  topic := "gh/" ++ greenhouseId ++ "/fault"
  payload := faultEventMsg greenhouseId ts fault
  retain := false

/-- The events of the faults that were not active before. -/
def faultFrames (snapshot : Snapshot) (greenhouseId ts : String)
    (previouslyActive : Finset FaultKey) : List PublishFrame :=
  (snapshot.faults.filter fun fault => faultKey fault ∉ previouslyActive).map
    (faultFrame greenhouseId ts)

/-! ## The system state -/

def zoneEntry (snapshot : Snapshot) (zone : Slug) (reading : Option F64) : Document :=
  let valve := snapshot.commanded.get (.valve zone)
  let faulted := reading.isNone || snapshot.faults.any (·.zoneId == some zone)
  .object [("zone_id", .string zone.asStr),
    ("soil_moisture", .ofOption (readingVu · "VWC") reading),
    ("irrigation", (OutputState.new .irrigationValve valve).document),
    ("faulted", .bool faulted)]

def faultSummary (fault : Fault) : Document :=
  .object [("component", .string fault.component),
    ("zone_id", .ofOption .string (fault.zoneId.map Slug.asStr)),
    ("fault_type", .string fault.faultType.wireName),
    ("severity", .string fault.severity.wireName)]

/-- The actuator and the zone an override is for. -/
def overrideAddress : ActuatorId → Actuator × Option String
  | .house a => (a, none)
  | .valve z => (.irrigationValve, some z.asStr)

/-- Deadlines count ticks; `offset` is the simulated second of the first one. -/
def overrideEntry [Rfc3339] (offset : Nat) (id : ActuatorId) (ov : Override) : Document :=
  let (actuator, zoneId) := overrideAddress id
  .object [("actuator", .string actuator.wireName), ("zone_id", .ofOption .string zoneId),
    ("state", (OutputState.new actuator ov.level).document),
    ("expires_at", .string (ts epoch (offset + ov.expiresAtTick)))]

def systemState [Rfc3339] (snapshot : Snapshot) (greenhouseId ts : String) (timeScale : F64) :
    Document :=
  let sensor (name unit : String) (value : Option F64) : String × Document :=
    (name, .ofOption (readingVu · unit) value)
  let offset := snapshot.simSeconds - snapshot.tickIndex
  .object (envelope greenhouseId none ts ++
    [("controller", .object [("mode", .string snapshot.mode.wireName),
        ("healthy", .bool snapshot.healthy)]),
      ("sensors", .object ((houseReadings snapshot.trusted).map
        fun (metric, value, unit) => sensor metric unit value)),
      ("dli", readingVu snapshot.dliMol "mol·m⁻²·d⁻¹"),
      ("zones", .array (snapshot.trusted.soilMoisture.toList.map
        fun (zone, reading) => zoneEntry snapshot zone reading)),
      ("actuators", .array (houseActuators.map
        fun actuator => .object (actuatorEntry snapshot actuator))),
      ("faults", .array (snapshot.faults.map faultSummary)),
      ("overrides", .array (snapshot.overrides.toList.map
        fun (id, ov) => overrideEntry offset id ov)),
      ("simulation", .object [("time_scale", .ofF64 timeScale),
        ("tick_index", .int snapshot.tickIndex)])])

def stateFrame [Rfc3339] (snapshot : Snapshot) (greenhouseId ts : String) (timeScale : F64) :
    PublishFrame where
  topic := "gh/" ++ greenhouseId ++ "/state"
  payload := systemState snapshot greenhouseId ts timeScale
  retain := true

/-- Every frame of a tick. -/
def telemetryFrames [Rfc3339] (snapshot : Snapshot) (greenhouseId : String) (base : Int)
    (timeScale : F64) (previouslyActive : Finset FaultKey) : List PublishFrame :=
  let ts := ts base snapshot.simSeconds
  houseFrames snapshot greenhouseId ts ++ soilFrames snapshot greenhouseId ts
  ++ actuatorFrames snapshot greenhouseId ts
  ++ faultFrames snapshot greenhouseId ts previouslyActive
  ++ [stateFrame snapshot greenhouseId ts timeScale]

theorem length_faultFrames (snapshot : Snapshot) (greenhouseId ts : String)
    (previouslyActive : Finset FaultKey) :
    (faultFrames snapshot greenhouseId ts previouslyActive).length =
      snapshot.faults.countP fun fault => faultKey fault ∉ previouslyActive := by
  rw [faultFrames, List.length_map, List.countP_eq_length_filter]

theorem mem_activeFaultKeys {snapshot : Snapshot} {key : FaultKey} :
    key ∈ activeFaultKeys snapshot ↔ ∃ fault ∈ snapshot.faults, faultKey fault = key := by
  rw [activeFaultKeys, List.mem_toFinset, List.mem_map]

end Greenhouse.Controller
