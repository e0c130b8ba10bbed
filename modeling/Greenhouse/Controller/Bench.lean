import Greenhouse.Contract.Document
import Greenhouse.Controller.Pipeline

/-!
# A bench to run the model on

The example configuration of the repository, a backend that holds its readings and obeys
every command, and the mathematical functions to first order around `0` (where a witness
evaluates them). Results about a hypothesis are instantiated here.
-/

namespace Greenhouse.Controller.Bench

open Greenhouse.Numeric Std

/-- `exp` and `cos` to first order, exact at `0`. -/
@[reducible] def firstOrder : Libm where
  exp x := 1 + x
  cos _ := 1

/-- A backend with constant readings; its actuators do what they are told unless jammed. -/
structure Plant where
  readings : RawReadings
  jammed : Bool := false
  level : Commands := Commands.allOff []

instance : Hal Plant where
  read p := p.readings
  command p commands := if p.jammed then p else { p with level := commands }
  observed p := p.level
  step p _ := p

def time (hour minute : Nat) (h : hour ≤ 23 := by decide) (m : minute ≤ 59 := by decide) :
    TimeOfDay := ⟨hour, minute, h, m⟩

/-- The setpoints of the example configuration. -/
def setpoints : Setpoints where
  temperatureDayC := 24
  temperatureNightC := 18
  dayStart := time 6 0
  dayEnd := time 20 0
  humidityLowPct := 50
  humidityHighPct := 85
  humidityDeadbandPct := 5
  co2TargetPpm := 1000
  co2VentInterlockThresholdPct := 15
  vpdTargetKpa := 1
  dliTargetMol := 20
  expectedPeakPar := 800

def benchA : Zone where
  id := ⟨"bench-a", by decide⟩
  moistureLowThreshold := 0.35
  moistureHighThreshold := 0.55
  drainPeriodSecs := 300
  schedule := ⟨[time 6 0, time 8 0, time 10 0, time 12 0, time 14 0, time 16 0, time 18 0], by simp⟩

def seedlingTray : Zone where
  id := ⟨"seedling-tray", by decide⟩
  moistureLowThreshold := 0.5
  moistureHighThreshold := 0.7
  drainPeriodSecs := 600
  schedule := ⟨[time 7 0, time 9 0, time 11 0, time 13 0, time 15 0, time 17 0, time 19 0], by simp⟩

/-- The hardware model of the example configuration. -/
def hal : HalConfig where
  timeConstants := ⟨120, 60, 30, 10, 1800⟩
  disturbances := {
    outdoorTempC := 10, ambientHumidityPct := 50, heatLossCoeff := 0.002
    plantCo2UptakePpmPerS := 0.5, soilDryingRatePerS := 0.00002, soilResidualVwc := 0.15 }
  actuators := [
    { actuator := .heater, effects := [⟨.temperature, 22⟩]
      constraints := { minOnSecs := some 30, minOffSecs := some 30 } },
    { actuator := .fans, effects := [⟨.temperature, -10⟩, ⟨.humidity, -20⟩, ⟨.co2, -200⟩]
      constraints := { rampPctPerS := some 10 } },
    { actuator := .roofVents, effects := [⟨.temperature, -12⟩, ⟨.humidity, -30⟩, ⟨.co2, -300⟩]
      constraints := { slewPctPerS := some 5 } },
    { actuator := .misters, effects := [⟨.humidity, 40⟩, ⟨.temperature, -3⟩] },
    { actuator := .co2Injector, effects := [⟨.co2, 1200⟩]
      constraints := { minOnSecs := some 30, minOffSecs := some 30 } },
    { actuator := .growLights, effects := [⟨.par, 600⟩, ⟨.temperature, 2⟩] },
    { actuator := .shadeScreen, effects := [⟨.par, -900⟩, ⟨.temperature, -4⟩]
      constraints := { slewPctPerS := some 3 } },
    { actuator := .irrigationValve, effects := [⟨.soilMoisture, 1⟩]
      constraints := { minOpenSecs := some 10 } }]

/-- The example configuration, with the given safety section. -/
def config (safety : Safety) : Config where
  controllerId := ⟨"gh-a", by decide⟩
  setpoints := setpoints
  zones := [benchA, seedlingTray]
  hal := hal
  safety := safety

/-- The safety section of a house that must stay below `-5` °C. -/
def frost : Safety := { criticalTemperatureC := -5 }

theorem config_valid : (config {}).Valid := by
  decide +kernel

theorem frost_valid : (config frost).Valid := by
  decide +kernel

/-- Readings with the given temperature probes and CO₂, in the dark. -/
def readings (probes : List F64) (co2 : F64) : RawReadings where
  temperatureProbes := probes
  humidityPct := 60
  co2Ppm := co2
  par := 0
  soilMoisture := ∅

/-! ## Telemetry -/

/-- Days since 1970-01-01, in the proleptic Gregorian calendar. -/
def daysFromCivil (year month day : Int) : Int :=
  let y := if month ≤ 2 then year - 1 else year
  let yearOfEra := y - y / 400 * 400
  let dayOfYear := (153 * ((month + 9) % 12) + 2) / 5 + day - 1
  y / 400 * 146097 + yearOfEra * 365 + yearOfEra / 4 - yearOfEra / 100 + dayOfYear - 719468

/-- The year, the month and the day of a number of days since 1970-01-01. -/
def civilFromDays (days : Int) : Int × Int × Int :=
  let z := days + 719468
  let dayOfEra := z - z / 146097 * 146097
  let yearOfEra :=
    (dayOfEra - dayOfEra / 1460 + dayOfEra / 36524 - dayOfEra / 146096) / 365
  let dayOfYear := dayOfEra - (365 * yearOfEra + yearOfEra / 4 - yearOfEra / 100)
  let mp := (5 * dayOfYear + 2) / 153
  let month := if mp < 10 then mp + 3 else mp - 9
  let year := yearOfEra + z / 146097 * 400
  (if month ≤ 2 then year + 1 else year, month, dayOfYear - (153 * mp + 2) / 5 + 1)

def formatInstant (t : Int) : String :=
  let (year, month, day) := civilFromDays (t / 86400)
  let second := (t % 86400).toNat
  String.ofList (padded 4 year.toNat ++ '-' :: padded 2 month.toNat ++ '-' :: padded 2 day.toNat
    ++ 'T' :: padded 2 (second / 3600) ++ ':' :: padded 2 (second / 60 % 60)
    ++ ':' :: padded 2 (second % 60) ++ ['.', '0', '0', '0', 'Z'])

/-- Read a text of the shape that `formatInstant` writes. -/
def parseInstant (s : String) : Option Int := do
  let digits (start length : Nat) : Option Int :=
    (digitsValue 0 ((s.toList.drop start).take length)).map Int.ofNat
  let year ← digits 0 4
  let month ← digits 5 2
  let day ← digits 8 2
  let hour ← digits 11 2
  let minute ← digits 14 2
  let second ← digits 17 2
  return daysFromCivil year month day * 86400 + hour * 3600 + minute * 60 + second

/-- Timestamps of the years with four digits. -/
@[reducible] def gregorian : Contract.Rfc3339 := ⟨formatInstant, parseInstant⟩

example : formatInstant 1767225600 = "2026-01-01T00:00:00.000Z" := by decide

/-- A snapshot with the given faults, ten seconds into the run of a house that is off. -/
def snapshot (faults : List Fault) : Snapshot where
  tickIndex := 10
  simSeconds := 10
  trusted := ⟨some 20, some 60, some 420, some 0, some 1,
    (∅ : TreeMap Slug (Option F64)).insert benchA.id (some 0.5)⟩
  resolved := ⟨20, some 60, 50, 85, 5, 1000, 15, 20⟩
  commanded := Commands.allOff [benchA.id]
  observed := Commands.allOff [benchA.id]
  overrides := ∅
  faults := faults
  mode := Mode.fromFaults faults
  dliMol := 0

end Greenhouse.Controller.Bench
