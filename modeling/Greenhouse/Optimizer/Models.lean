import Greenhouse.Numeric.Decimal
import Greenhouse.Platform.SetpointWrite

/-!
# Models of the optimizer

The contract models: setpoint bundles and patches, the plan and its record, the crop-safe
context. What a model validates is a field of its structure, so an invalid one cannot be
built. Times are aware: microseconds since the epoch.

* `SetpointsPatch.toDTO`: a patch as it is submitted.
-/

namespace Greenhouse.Optimizer

open Greenhouse.Numeric Greenhouse.Platform

/-! ## Times -/

/-- An aware `datetime`. -/
abbrev Instant := Int

def second : Int := 1000000

/-- `timedelta(hours=n)`. -/
def hours (n : Int) : Int := n * (3600 * second)

/-- Year, month and day of a day counted from the epoch. -/
def civil (day : Int) : Int × Nat × Nat :=
  let z := day + 719468
  let era := z / 146097
  let doe := (z % 146097).toNat
  let yoe := (doe - doe / 1460 + doe / 36524 - doe / 146096) / 365
  let doy := doe - (365 * yoe + yoe / 4 - yoe / 100)
  let mp := (5 * doy + 2) / 153
  let month := if mp < 10 then mp + 3 else mp - 9
  (yoe + era * 400 + (if month ≤ 2 then 1 else 0), month, doy - (153 * mp + 2) / 5 + 1)

def pad (width n : Nat) : String := String.ofList (padded width n)

/-- `isoformat`. -/
def isoformat (t : Instant) : String :=
  let (year, month, day) := civil (t / (86400 * second))
  let secs := (t / second % 86400).toNat
  let micros := (t % second).toNat
  pad 4 year.toNat ++ "-" ++ pad 2 month ++ "-" ++ pad 2 day ++ "T" ++ pad 2 (secs / 3600) ++ ":"
    ++ pad 2 (secs / 60 % 60) ++ ":" ++ pad 2 (secs % 60)
    ++ (if micros = 0 then "" else "." ++ pad 6 micros) ++ "+00:00"

example : isoformat 1767268800000000 = "2026-01-01T12:00:00+00:00" := by decide

/-! ## Enumerations -/

/-- What the gates decided for a cycle. -/
inductive OutcomeStatus where
  | applied
  | unchanged
  | held
  | failed
  deriving DecidableEq

inductive ReasonCode where
  | inputStale
  | inputIncomplete
  | sensorFault
  | actuatorFault
  | clockModeUnsupported
  | contractDrift
  | twinDiverged
  | twinFidelityFault
  | constraintViolation
  | lowConfidence
  | boundsMismatch
  | writeUnauthorized
  | platformUnavailable
  | cycleTimeout
  | llmUnavailable
  | planUnparseable
  | internalError
  deriving DecidableEq

/-- Reasons of a cycle that could not produce or process a usable plan. -/
def failedReasonCodes : List ReasonCode :=
  [.contractDrift, .twinDiverged, .platformUnavailable, .writeUnauthorized, .cycleTimeout,
    .llmUnavailable, .planUnparseable, .internalError]

def outcomeStatusForReason (reasonCode : ReasonCode) : OutcomeStatus :=
  if reasonCode ∈ failedReasonCodes then .failed else .held

inductive Provider where
  | ollama
  | anthropic
  | openai
  deriving DecidableEq

inductive BackendRole where
  | primary
  | fallback
  deriving DecidableEq

/-! ## Setpoints -/

/-- `Field(ge=lo, le=hi)`. -/
def Between (lo hi v : ℚ) : Prop := lo ≤ v ∧ v ≤ hi

instance (lo hi v : ℚ) : Decidable (Between lo hi v) := inferInstanceAs (Decidable (_ ∧ _))

/-- One zone's targets. -/
structure ZoneTargets extends Platform.ZoneTargets where
  slug : validSlug zoneId = true
  low : Between 0 1 moistureLowThreshold
  high : Between 0 1 moistureHighThreshold
  drain : 0 ≤ drainPeriodSecs
  times : scheduleRe.matchString schedule = true

/-- A full bundle, in the ranges of its fields. -/
structure Setpoints extends GlobalSetpoints where
  zones : List ZoneTargets
  day : Between (-20) 60 temperatureDayC
  night : Between (-20) 60 temperatureNightC
  start : hhmmRe.matchString dayStart = true
  stop : hhmmRe.matchString dayEnd = true
  low : Between 0 100 humidityLowPct
  high : Between 0 100 humidityHighPct
  deadband : Between 0 50 humidityDeadbandPct
  co2 : 0 ≤ co2TargetPpm ∧ co2TargetPpm ≤ 5000
  interlock : Between 0 100 co2VentInterlockThresholdPct
  vpd : 0 ≤ vpdTargetKpa
  dli : 0 ≤ dliTargetMol

/-- The bundle as the platform holds it. -/
def Setpoints.toPlatform (s : Setpoints) : Platform.Setpoints where
  toGlobalSetpoints := s.toGlobalSetpoints
  zones := s.zones.map (·.toZoneTargets)

/-- A partial update: at least one field, each in its range. -/
structure SetpointsPatch extends GlobalPatch where
  zones : Option (List ZoneTargets) := none
  day : ∀ v, temperatureDayC = some v → Between (-20) 60 v
  night : ∀ v, temperatureNightC = some v → Between (-20) 60 v
  start : ∀ v, dayStart = some v → hhmmRe.matchString v = true
  stop : ∀ v, dayEnd = some v → hhmmRe.matchString v = true
  low : ∀ v, humidityLowPct = some v → Between 0 100 v
  high : ∀ v, humidityHighPct = some v → Between 0 100 v
  deadband : ∀ v, humidityDeadbandPct = some v → Between 0 50 v
  co2 : ∀ v, co2TargetPpm = some v → 0 ≤ v ∧ v ≤ 5000
  interlock : ∀ v, co2VentInterlockThresholdPct = some v → Between 0 100 v
  vpd : ∀ v, vpdTargetKpa = some v → 0 ≤ v
  dli : ∀ v, dliTargetMol = some v → 0 ≤ v
  nonempty : toGlobalPatch ≠ {} ∨ zones ≠ none

namespace SetpointsPatch

/-- The zones an update names. -/
def zoneTargets (p : SetpointsPatch) : List Platform.ZoneTargets :=
  (p.zones.getD []).map (·.toZoneTargets)

/-- A patch as it is submitted. -/
def toDTO (p : SetpointsPatch) : SetpointsPatchDTO where
  toGlobalPatch := p.toGlobalPatch
  zones := p.zones.map fun zones => zones.map (·.toZoneTargets.toDTO)

end SetpointsPatch

/-! ## Plans -/

structure TrajectoryPoint where
  time : Instant
  setpoints : SetpointsPatch

/-- A proposed plan. -/
structure OptimizerPlan where
  trajectory : List TrajectoryPoint
  immediateSetpoints : SetpointsPatch
  confidence : ℚ
  explanation : String
  trajectory_nonempty : trajectory ≠ []
  confidence_range : Between 0 1 confidence
  explanation_nonempty : explanation ≠ ""

/-- The first point of the trajectory: what is applied now. -/
def OptimizerPlan.head (p : OptimizerPlan) : TrajectoryPoint :=
  p.trajectory.head p.trajectory_nonempty

structure Horizon where
  start : Instant
  stop : Instant
  deriving DecidableEq

end Greenhouse.Optimizer
