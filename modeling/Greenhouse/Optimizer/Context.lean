import Greenhouse.Optimizer.Models

/-!
# The planning context

What the optimizer reads of a greenhouse for one cycle: the current setpoints with their
crop-safe bounds, the bucketed telemetry, the latest actuator states and the signals of the
data quality.
-/

namespace Greenhouse.Optimizer

open Greenhouse.Platform

/-! ## Enumerations -/

inductive Metric where
  | temperature
  | humidity
  | co2
  | par
  | vpd
  | soilMoisture
  deriving DecidableEq

def Metric.text : Metric → String
  | temperature => "temperature"
  | humidity => "humidity"
  | co2 => "co2"
  | par => "par"
  | vpd => "vpd"
  | soilMoisture => "soil_moisture"

inductive ActuatorName where
  | heater
  | fans
  | roofVents
  | misters
  | co2Injector
  | growLights
  | shadeScreen
  | irrigationValve
  deriving DecidableEq

def ActuatorName.text : ActuatorName → String
  | heater => "heater"
  | fans => "fans"
  | roofVents => "roof_vents"
  | misters => "misters"
  | co2Injector => "co2_injector"
  | growLights => "grow_lights"
  | shadeScreen => "shade_screen"
  | irrigationValve => "irrigation_valve"

inductive ControllerMode where
  | normal
  | degraded
  | interlock
  deriving DecidableEq

def ControllerMode.text : ControllerMode → String
  | normal => "normal"
  | degraded => "degraded"
  | interlock => "interlock"

inductive ActuatorHealth where
  | ok
  | stuck
  | noResponse
  deriving DecidableEq

def ActuatorHealth.text : ActuatorHealth → String
  | ok => "ok"
  | stuck => "stuck"
  | noResponse => "no_response"

inductive SensorFaultKind where
  | stuck
  | outOfRange
  | sensorDisagreement
  | temperatureUnavailable
  deriving DecidableEq

def SensorFaultKind.text : SensorFaultKind → String
  | stuck => "stuck"
  | outOfRange => "out_of_range"
  | sensorDisagreement => "sensor_disagreement"
  | temperatureUnavailable => "temperature_unavailable"

/-- Width of the summary buckets. -/
inductive Interval where
  | hourly
  | sixHourly
  | daily
  deriving DecidableEq

/-! ## Readings -/

/-- A zone id where there is one, else the whole greenhouse. -/
def SlugOrNull (zoneId : Option String) : Prop := ∀ id, zoneId = some id → validSlug id = true

theorem slugOrNull_none : SlugOrNull none := by simp [SlugOrNull]

/-- The current intended state with its provenance. -/
structure CurrentSetpoints where
  source : SetpointSource
  updatedAt : Instant
  targets : Setpoints
  bounds : Option StageBounds := none

/-- The aggregate of a metric over a bucket; an empty bucket is a gap. -/
structure SummaryBucket where
  bucketStart : Instant
  min : ℚ
  mean : ℚ
  max : ℚ
  count : Nat
  deriving DecidableEq

structure MetricSummarySeries where
  metric : Metric
  zoneId : Option String
  buckets : List SummaryBucket
  slug : SlugOrNull zoneId

structure ActuatorSnapshot where
  actuator : ActuatorName
  zoneId : Option String
  commanded : ℚ
  observed : Option ℚ
  health : ActuatorHealth
  ts : Instant
  slug : SlugOrNull zoneId
  commanded_range : Between 0 100 commanded
  observed_range : ∀ v, observed = some v → Between 0 100 v

/-- The age of the latest sample of a metric. -/
structure MetricFreshness where
  metric : Metric
  zoneId : Option String
  latestTs : Option Instant
  ageSeconds : Option ℚ
  sampleCount : Nat
  slug : SlugOrNull zoneId
  age_nonneg : ∀ v, ageSeconds = some v → 0 ≤ v

structure SensorFault where
  metric : Metric
  zoneId : Option String
  kind : SensorFaultKind
  since : Instant
  slug : SlugOrNull zoneId

structure DataQuality where
  controllerMode : ControllerMode
  timeScale : Option ℚ
  freshness : List MetricFreshness
  faults : List SensorFault
  timeScale_pos : ∀ v, timeScale = some v → 0 < v

/-- One read of a greenhouse for a cycle. -/
structure PlanningContext where
  greenhouseId : String
  schemaVersion : Int
  start : Instant
  stop : Instant
  interval : Interval
  setpoints : CurrentSetpoints
  telemetry : List MetricSummarySeries
  actuators : List ActuatorSnapshot
  dataQuality : DataQuality
  slug : validSlug greenhouseId = true
  version_pos : 1 ≤ schemaVersion

/-! ## A greenhouse to try things on -/

namespace Bench

/-- A humid day, without zones. -/
def targets : Setpoints where
  temperatureDayC := 24
  temperatureNightC := 18
  dayStart := "06:00"
  dayEnd := "20:00"
  humidityLowPct := 60
  humidityHighPct := 70
  humidityDeadbandPct := 5
  co2TargetPpm := 800
  co2VentInterlockThresholdPct := 20
  vpdTargetKpa := 1
  dliTargetMol := 20
  zones := []
  day := by decide
  night := by decide
  start := by decide
  stop := by decide
  low := by decide
  high := by decide
  deadband := by decide
  co2 := by decide
  interlock := by decide
  vpd := by decide
  dli := by decide

def bounds : StageBounds where
  temperatureDayC := some ⟨20, 28⟩
  humidityLowPct := some ⟨50, 85⟩

def context : PlanningContext where
  greenhouseId := "gh-a"
  schemaVersion := 1
  start := 0
  stop := hours 12
  interval := .hourly
  setpoints := { source := .profile, updatedAt := 0, targets := targets, bounds := some bounds }
  telemetry := []
  actuators := []
  dataQuality := {
    controllerMode := .normal
    timeScale := none
    freshness := []
    faults := []
    timeScale_pos := by simp }
  slug := by decide
  version_pos := le_rfl

def horizon : Horizon := ⟨hours 12, hours 24⟩

/-- An update of the day temperature. -/
def warmer : SetpointsPatch where
  temperatureDayC := some 26
  day v h := Option.some.inj h ▸ (by decide)
  night := by simp
  start := by simp
  stop := by simp
  low := by simp
  high := by simp
  deadband := by simp
  co2 := by simp
  interlock := by simp
  vpd := by simp
  dli := by simp
  nonempty := .inl (by decide)

/-- An update of the lower humidity limit, past the upper one. -/
def damper : SetpointsPatch where
  humidityLowPct := some 75
  day := by simp
  night := by simp
  start := by simp
  stop := by simp
  low v h := Option.some.inj h ▸ (by decide)
  high := by simp
  deadband := by simp
  co2 := by simp
  interlock := by simp
  vpd := by simp
  dli := by simp
  nonempty := .inl (by decide)

/-- An update of the CO2 target, to less than a house should have. -/
def starved : SetpointsPatch where
  co2TargetPpm := some 300
  day := by simp
  night := by simp
  start := by simp
  stop := by simp
  low := by simp
  high := by simp
  deadband := by simp
  co2 v h := Option.some.inj h ▸ (by decide)
  interlock := by simp
  vpd := by simp
  dli := by simp
  nonempty := .inl (by decide)

/-- A plan of one point. -/
def plan (patch : SetpointsPatch) : OptimizerPlan where
  trajectory := [⟨hours 12, patch⟩]
  immediateSetpoints := patch
  confidence := 9 / 10
  explanation := "steady"
  trajectory_nonempty := List.cons_ne_nil _ _
  confidence_range := by constructor <;> norm_num
  explanation_nonempty := by decide

end Bench

end Greenhouse.Optimizer
