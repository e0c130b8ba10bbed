import Mathlib.Data.List.Sort
import Greenhouse.Controller.Config
import Greenhouse.Controller.Faults
import Greenhouse.Controller.Hal

/-!
# Sensing, fusion and fault detection

Raw readings become the trusted state: `fuseTemperature` votes over the probes,
`classify` drops a channel that is out of range or frozen, and a faulted quantity is
`none`. A routine of the source that appends to the fault vector returns, as its last
component, the faults it appends.
-/

namespace Greenhouse.Controller

open Greenhouse.Numeric Std

/-- The conditioned readings; `none` is a quantity not currently trustworthy. -/
structure TrustedState where
  temperature : Option F64
  humidity : Option F64
  co2 : Option F64
  par : Option F64
  vpd : Option F64
  soilMoisture : TreeMap Slug (Option F64)

section Vpd

variable [Libm]

/-- Saturation vapor pressure over water, in kPa. -/
def saturationVaporPressureKpa (tempC : F64) : F64 :=
  0.61078 * Libm.exp ((17.27 * tempC) / (tempC + 237.3))

/-- Vapor-pressure deficit of the air, in kPa. -/
def vpdKpa (tempC rhPct : F64) : F64 :=
  saturationVaporPressureKpa tempC * (1 - rhPct / 100)

end Vpd

/-! ## Frozen channels -/

/-- How long the reading of a channel has been frozen. -/
structure StuckTracker where
  last : Option F64 := none
  unchanged : Nat := 0

/-- Record a reading; `unchanged` counts the consecutive ticks without a change. -/
def StuckTracker.observe (s : StuckTracker) (value : F64) : StuckTracker where
  last := some value
  unchanged :=
    match s.last with
    | some prev => if prev.feq value then s.unchanged + 1 else 0
    | none => 0

/-! ## Temperature fusion -/

/-- Median of a non-empty list, the mean of the two middle elements for an even length.
The order of incomparable (`nan`) readings, which the source leaves unspecified, is the
one of insertion sort. -/
def median (values : List F64) : F64 :=
  let v := values.insertionSort fun a b => ¬ b < a
  let n := v.length
  if n % 2 = 1 then v.getD (n / 2) 0
  else (v.getD (n / 2 - 1) 0 + v.getD (n / 2) 0) / 2

def mean (values : List F64) : F64 := values.foldl (· + ·) 0 / F64.ofNat values.length

/-- The probes within the disagreement limit of the median. -/
def goodProbes (probes : List F64) (cfg : Sensing) : List F64 :=
  let m := median probes
  probes.filter fun p => (p - m).abs ≤ cfg.probeDisagreementC

/-- Median-vote the probes; `none` when no two of them agree. -/
def fuseTemperature (probes : List F64) (cfg : Sensing) : Option F64 × List Fault :=
  match probes with
  | [] =>
    (none, [{
      component := "temperature", faultType := .temperatureUnavailable, severity := .alarm
      message := "no temperature probes configured", response := "holding safe state" }])
  | [p] =>
    (some p, [{
      component := "temperature", faultType := .redundancyDegraded, severity := .alarm
      message := "running on a single temperature probe — no fusion redundancy"
      response := "controlling on the sole probe; no single-fault tolerance" }])
  | probes =>
    let good := goodProbes probes cfg
    if 2 ≤ good.length then
      (some (mean good),
        if good.length < probes.length then [{
          component := "temperature", faultType := .sensorDisagreement, severity := .warning
          message := toString (probes.length - good.length) ++ " of " ++ toString probes.length
            ++ " temperature probes disagree with the median"
          response := "excluded the outlier probe(s); fusing the agreeing probes" }]
        else [])
    else
      (none, [{
        component := "temperature", faultType := .temperatureUnavailable, severity := .alarm
        message := "no two temperature probes agree"
        response := "treating temperature as unavailable; holding safe state" }])

/-! ## Single channels -/

/-- The trusted value of a non-temperature channel, or `none` with a fault when it is out
of range, or frozen strictly inside its range. -/
def classify (component : String) (zone : Option Slug) (value : F64) (bounds : Bounds)
    (unchanged stuckWindow : Nat) (response : String) : Option F64 × List Fault :=
  if ¬ bounds.contains value then
    (none, [{
      component := component, zoneId := zone, faultType := .outOfRange, severity := .alarm
      message := component ++ " reading " ++ value.display ++ " outside [" ++ bounds.min.display
        ++ ", " ++ bounds.max.display ++ "]"
      response := response }])
  else if stuckWindow ≤ unchanged ∧ bounds.min < value ∧ value < bounds.max then
    (none, [{
      component := component, zoneId := zone, faultType := .stuck, severity := .alarm
      message := component ++ " reading frozen at " ++ value.display ++ " for "
        ++ toString unchanged ++ " ticks"
      response := response }])
  else (some value, [])

/-- A trusted channel reads the raw value, inside its plausibility bounds. -/
theorem classify_eq_some {component : String} {zone : Option Slug} {value : F64} {bounds : Bounds}
    {unchanged stuckWindow : Nat} {response : String} {v : F64}
    (h : (classify component zone value bounds unchanged stuckWindow response).1 = some v) :
    v = value ∧ bounds.contains value = true := by
  unfold classify at h
  split at h
  case isTrue => cases h
  case isFalse hin =>
    split at h
    case isTrue => cases h
    case isFalse => exact ⟨(Option.some.inj h).symm, not_not.1 hin⟩

/-! ## The stage -/

/-- Across-tick state: a tracker for each channel but temperature. -/
structure SensingState where
  humidity : StuckTracker := {}
  co2 : StuckTracker := {}
  par : StuckTracker := {}
  soil : TreeMap Slug StuckTracker

namespace SensingState

def new (zoneIds : List Slug) : SensingState where
  soil := zoneIds.foldl (fun m z => m.insert z {}) ∅

/-- What conditioning the soil channels accumulates. -/
structure Soil where
  trackers : TreeMap Slug StuckTracker
  trusted : TreeMap Slug (Option F64)
  faults : List Fault

/-- Condition the soil channel of one zone. -/
def conditionSoil (cfg : Sensing) (acc : Soil) (reading : Slug × F64) : Soil :=
  let (zone, value) := reading
  let tracker := (acc.trackers.getD zone {}).observe value
  let (trusted, faults) := classify "soil_moisture" (some zone) value cfg.soilMoistureBounds
    tracker.unchanged cfg.stuckWindowSecs "disabled this zone's irrigation (fail-closed)"
  { trackers := acc.trackers.insert zone tracker
    trusted := acc.trusted.insert zone trusted
    faults := acc.faults ++ faults }

/-- Condition one tick of raw readings into trusted state. -/
def condition [Libm] (s : SensingState) (raw : RawReadings) (cfg : Sensing) :
    SensingState × TrustedState × List Fault :=
  let (temperature, temperatureFaults) := fuseTemperature raw.temperatureProbes cfg
  let humidityTracker := s.humidity.observe raw.humidityPct
  let (humidity, humidityFaults) := classify "humidity" none raw.humidityPct cfg.humidityBounds
    humidityTracker.unchanged cfg.stuckWindowSecs "disabled misters; suspended VPD feedforward"
  let co2Tracker := s.co2.observe raw.co2Ppm
  let (co2, co2Faults) := classify "co2" none raw.co2Ppm cfg.co2Bounds
    co2Tracker.unchanged cfg.stuckWindowSecs "disabled CO₂ injector (fail-closed)"
  let parTracker := s.par.observe raw.par
  let (par, parFaults) := classify "par" none raw.par cfg.parBounds
    parTracker.unchanged cfg.stuckWindowSecs "fell back to time-based lighting"
  let vpd := temperature.bind fun t => humidity.map fun h => vpdKpa t h
  let soil := raw.soilMoisture.toList.foldl (conditionSoil cfg) ⟨s.soil, ∅, []⟩
  ({ humidity := humidityTracker, co2 := co2Tracker, par := parTracker, soil := soil.trackers },
    { temperature := temperature, humidity := humidity, co2 := co2, par := par, vpd := vpd
      soilMoisture := soil.trusted },
    temperatureFaults ++ humidityFaults ++ co2Faults ++ parFaults ++ soil.faults)

end SensingState

end Greenhouse.Controller
