import Greenhouse.Controller.Domain

/-!
# Faults and the controller mode

A `Fault` is produced fresh each tick; `Mode.fromFaults` summarizes the worst of them.
-/

namespace Greenhouse.Controller

/-- Why a fault was raised. -/
inductive FaultType where
  | stuck
  | outOfRange
  | sensorDisagreement
  | redundancyDegraded
  | temperatureUnavailable
  | criticalTemperature
  | co2Ceiling
  | irrigationNoResponse
  | actuatorStuck
  | actuatorNoResponse
  | setpointUnreachable
  deriving DecidableEq

/-- The fault represents a safety interlock holding a protective state. -/
def FaultType.isInterlock : FaultType → Bool
  | .criticalTemperature | .co2Ceiling | .temperatureUnavailable | .irrigationNoResponse => true
  | _ => false

inductive Severity where
  | warning
  | alarm
  deriving DecidableEq

/-- One active fault. -/
structure Fault where
  component : String
  zoneId : Option Slug := none
  faultType : FaultType
  severity : Severity
  message : String
  response : String
  deriving DecidableEq

/-- The controller's operating mode. -/
inductive Mode where
  | normal
  | degraded
  | interlock
  deriving DecidableEq

def Mode.fromFaults (faults : List Fault) : Mode :=
  if faults.any (·.faultType.isInterlock) then .interlock
  else if faults.isEmpty then .normal
  else .degraded

end Greenhouse.Controller
