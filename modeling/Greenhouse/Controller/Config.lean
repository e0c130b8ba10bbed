import Greenhouse.Controller.Validation

/-!
# Controller configuration

The configuration record of one greenhouse, with the validation each of its parts
does on itself. The sections `[mqtt]` and `[api]` and the wall-clock start of the
simulation are left out: the tick pipeline and the runtime writes never read them.

* `Config.violations`: everything `Config::validate` collects from the sections kept.
* `Config.Valid`: the configuration is accepted. `Valid.rate` gives what the
  constraint stage rests on: a configured rate is a positive number.
-/

namespace Greenhouse.Controller

open Greenhouse.Numeric

/-! ## Setpoints -/

/-- The controller's global climate setpoints. -/
structure Setpoints where
  temperatureDayC : F64
  temperatureNightC : F64
  dayStart : TimeOfDay
  dayEnd : TimeOfDay
  humidityLowPct : F64
  humidityHighPct : F64
  humidityDeadbandPct : F64
  co2TargetPpm : Nat
  co2VentInterlockThresholdPct : F64
  vpdTargetKpa : F64
  dliTargetMol : F64
  expectedPeakPar : F64 := 0
  deriving DecidableEq

def Setpoints.validate (sp : Setpoints) : List FieldViolation :=
  checkRange "temperature_day_c" sp.temperatureDayC (-20) 60
  ++ checkRange "temperature_night_c" sp.temperatureNightC (-20) 60
  ++ checkRange "humidity_low_pct" sp.humidityLowPct 0 100
  ++ checkRange "humidity_high_pct" sp.humidityHighPct 0 100
  ++ checkRange "humidity_deadband_pct" sp.humidityDeadbandPct 0 50
  ++ checkRange "co2_target_ppm" sp.co2TargetPpm 0 5000
  ++ checkRange "co2_vent_interlock_threshold_pct" sp.co2VentInterlockThresholdPct 0 100
  ++ checkMin "vpd_target_kpa" sp.vpdTargetKpa 0
  ++ checkMin "dli_target_mol" sp.dliTargetMol 0
  ++ checkMin "expected_peak_par" sp.expectedPeakPar 0
  ++ violationIf (sp.humidityHighPct ≤ sp.humidityLowPct) "humidity_low_pct"
      "must be < humidity_high_pct" sp.humidityLowPct.toJson
  ++ violationIf (¬ sp.dayStart < sp.dayEnd) "day_start" "must be < day_end"
      (.string sp.dayStart.toString)

/-! ## Zones -/

/-- One irrigation zone. -/
structure Zone where
  id : Slug
  moistureLowThreshold : F64
  moistureHighThreshold : F64
  drainPeriodSecs : Nat
  schedule : Schedule
  deriving DecidableEq

def Zone.validate (z : Zone) : List FieldViolation :=
  let field name := "zones." ++ z.id.asStr ++ "." ++ name
  checkRange (field "moisture_low_threshold") z.moistureLowThreshold 0 1
  ++ checkRange (field "moisture_high_threshold") z.moistureHighThreshold 0 1
  ++ violationIf (z.moistureHighThreshold ≤ z.moistureLowThreshold) (field "moisture_low_threshold")
      "must be < moisture_high_threshold" z.moistureLowThreshold.toJson

/-! ## Hardware model -/

structure TimeConstants where
  temperatureS : F64
  humidityS : F64
  co2S : F64
  parS : F64
  soilMoistureS : F64
  deriving DecidableEq

/-- Time constants are strictly positive and finite. -/
def TimeConstants.validate (t : TimeConstants) : List FieldViolation :=
  [("temperature_s", t.temperatureS), ("humidity_s", t.humidityS), ("co2_s", t.co2S),
    ("par_s", t.parS), ("soil_moisture_s", t.soilMoistureS)].flatMap fun (name, value) =>
      violationIf (value ≤ 0 ∨ ¬ value.isFinite) ("hal.time_constants." ++ name) "> 0" value.toJson

structure Disturbances where
  outdoorTempC : F64
  ambientHumidityPct : F64
  heatLossCoeff : F64
  plantCo2UptakePpmPerS : F64
  soilDryingRatePerS : F64
  soilResidualVwc : F64 := 0.15
  deriving DecidableEq

def Disturbances.validate (d : Disturbances) : List FieldViolation :=
  violationIf (¬ d.soilResidualVwc.isFinite ∨ ¬ (0 ≤ d.soilResidualVwc ∧ d.soilResidualVwc ≤ 1))
    "hal.disturbances.soil_residual_vwc" "within [0.0, 1.0]" d.soilResidualVwc.toJson

/-- A coupling of an actuator to a climate variable. -/
structure Effect where
  climateVariable : ClimateVariable
  gain : F64
  deriving DecidableEq

/-- Hardware constraints of an actuator; each one is optional. -/
structure Constraints where
  slewPctPerS : Option F64 := none
  minOnSecs : Option Nat := none
  minOffSecs : Option Nat := none
  rampPctPerS : Option F64 := none
  minOpenSecs : Option Nat := none
  deriving DecidableEq

structure ActuatorModel where
  actuator : Actuator
  effects : List Effect
  constraints : Constraints := {}
  deriving DecidableEq

/-- The name an actuator is serialized under. -/
def Actuator.wireName : Actuator → String
  | .heater => "heater"
  | .fans => "fans"
  | .roofVents => "roof_vents"
  | .misters => "misters"
  | .co2Injector => "co2_injector"
  | .growLights => "grow_lights"
  | .shadeScreen => "shade_screen"
  | .irrigationValve => "irrigation_valve"

/-- The violation of one rate of one actuator: present, and not positive or not finite. -/
def rateViolation (path name : String) (rate : Option F64) : List FieldViolation :=
  match rate with
  | some v => violationIf (v ≤ 0 ∨ ¬ v.isFinite) (path ++ ".constraints." ++ name) "> 0" v.toJson
  | none => []

/-- The violations of the `i`-th actuator model; `seen` holds the actuators before it. -/
def ActuatorModel.validate (i : Nat) (seen : List Actuator) (m : ActuatorModel) :
    List FieldViolation :=
  let path := "hal.actuators[" ++ toString i ++ "]"
  violationIf (m.actuator ∈ seen) (path ++ ".actuator") "each actuator may be modeled at most once"
      (.string m.actuator.wireName)
  ++ violationIf (m.effects = []) (path ++ ".effects") "must declare at least one effect" .null
  ++ m.effects.zipIdx.flatMap (fun (e, j) =>
      violationIf (¬ e.gain.isFinite) (path ++ ".effects[" ++ toString j ++ "].gain")
        "must be finite" e.gain.toJson)
  ++ rateViolation path "slew_pct_per_s" m.constraints.slewPctPerS
  ++ rateViolation path "ramp_pct_per_s" m.constraints.rampPctPerS

/-- Walk over the actuator models, numbering them and collecting the actuators seen. -/
def validateModels : Nat → List Actuator → List ActuatorModel → List FieldViolation
  | _, _, [] => []
  | i, seen, m :: ms => m.validate i seen ++ validateModels (i + 1) (m.actuator :: seen) ms

structure HalConfig where
  timeConstants : TimeConstants
  disturbances : Disturbances
  actuators : List ActuatorModel
  deriving DecidableEq

def HalConfig.validate (h : HalConfig) : List FieldViolation :=
  h.timeConstants.validate ++ h.disturbances.validate ++ validateModels 0 [] h.actuators

/-! ## Control, safety and sensing -/

/-- Gains of the temperature loop, with the bound of its integral term. -/
structure PidConfig where
  kp : F64 := 18
  ki : F64 := 0.5
  kd : F64 := 0
  integralClamp : F64 := 100
  deriving DecidableEq

def PidConfig.validate (p : PidConfig) : List FieldViolation :=
  checkMin "control.temperature_pid.kp" p.kp 0
  ++ checkMin "control.temperature_pid.ki" p.ki 0
  ++ checkMin "control.temperature_pid.kd" p.kd 0
  ++ checkMin "control.temperature_pid.integral_clamp" p.integralClamp 0

structure Control where
  temperaturePid : PidConfig := {}
  saturationWindowSecs : Nat := 300
  deriving DecidableEq

def Control.validate (c : Control) : List FieldViolation :=
  c.temperaturePid.validate ++ checkMin "control.saturation_window_secs" c.saturationWindowSecs 1

/-- How far a reading must recover below its threshold before an interlock clears. -/
structure RearmHysteresis where
  temperatureC : F64 := 2
  co2Ppm : F64 := 200
  deriving DecidableEq

def RearmHysteresis.validate (r : RearmHysteresis) : List FieldViolation :=
  checkMin "safety.interlock_rearm_hysteresis.temperature_c" r.temperatureC 0
  ++ checkMin "safety.interlock_rearm_hysteresis.co2_ppm" r.co2Ppm 0

structure Safety where
  criticalTemperatureC : F64 := 40
  co2CeilingPpm : Nat := 5000
  interlockRearmHysteresis : RearmHysteresis := {}
  interlockMinHoldSecs : Nat := 60
  overrideTimeoutSecs : Nat := 1800
  deriving DecidableEq

def Safety.validate (s : Safety) : List FieldViolation :=
  checkRange "safety.critical_temperature_c" s.criticalTemperatureC (-20) 80
  ++ checkRange "safety.co2_ceiling_ppm" s.co2CeilingPpm 0 20000
  ++ s.interlockRearmHysteresis.validate
  ++ checkMin "safety.interlock_min_hold_secs" s.interlockMinHoldSecs 0
  ++ checkMin "safety.override_timeout_secs" s.overrideTimeoutSecs 1

/-- An inclusive plausibility interval. -/
structure Bounds where
  min : F64
  max : F64
  deriving DecidableEq

namespace Bounds

def contains (b : Bounds) (value : F64) : Bool := b.min ≤ value && value ≤ b.max

def validate (b : Bounds) (field : String) : List FieldViolation :=
  violationIf (b.max ≤ b.min) (field ++ ".min") "must be < max" b.min.toJson

end Bounds

structure Sensing where
  probeCount : Nat := 3
  probeDisagreementC : F64 := 2
  stuckWindowSecs : Nat := 5
  temperatureBounds : Bounds := ⟨-40, 100⟩
  humidityBounds : Bounds := ⟨0, 100⟩
  co2Bounds : Bounds := ⟨200, 6000⟩
  parBounds : Bounds := ⟨0, 2500⟩
  soilMoistureBounds : Bounds := ⟨0, 1⟩
  commandedVsObservedTol : F64 := 5
  noResponseWindowTicks : Nat := 5
  deriving DecidableEq

def Sensing.validate (s : Sensing) : List FieldViolation :=
  checkMin "sensing.probe_count" s.probeCount 1
  ++ checkMin "sensing.probe_disagreement_c" s.probeDisagreementC 0
  ++ checkMin "sensing.stuck_window_secs" s.stuckWindowSecs 1
  ++ s.temperatureBounds.validate "sensing.temperature_bounds"
  ++ s.humidityBounds.validate "sensing.humidity_bounds"
  ++ s.co2Bounds.validate "sensing.co2_bounds"
  ++ s.parBounds.validate "sensing.par_bounds"
  ++ s.soilMoistureBounds.validate "sensing.soil_moisture_bounds"
  ++ checkMin "sensing.commanded_vs_observed_tol" s.commandedVsObservedTol 0
  ++ checkMin "sensing.no_response_window_ticks" s.noResponseWindowTicks 1

/-! ## Simulation -/

structure Solar where
  sunrise : TimeOfDay := ⟨6, 0, by decide, by decide⟩
  sunset : TimeOfDay := ⟨20, 0, by decide, by decide⟩
  peakPar : F64 := 800
  peakHeatGainC : F64 := 6
  deriving DecidableEq

def Solar.validate (s : Solar) : List FieldViolation :=
  violationIf (¬ s.sunrise < s.sunset) "simulation.solar.sunrise" "must be < sunset"
    (.string s.sunrise.toString)
  ++ checkMin "simulation.solar.peak_par" s.peakPar 0
  ++ checkMin "simulation.solar.peak_heat_gain_c" s.peakHeatGainC 0

structure InitialState where
  temperatureC : F64 := 20
  humidityPct : F64 := 60
  co2Ppm : F64 := 420
  soilMoisture : F64 := 0.5
  deriving DecidableEq

def InitialState.validate (s : InitialState) : List FieldViolation :=
  checkRange "simulation.initial.temperature_c" s.temperatureC (-20) 60
  ++ checkRange "simulation.initial.humidity_pct" s.humidityPct 0 100
  ++ checkRange "simulation.initial.co2_ppm" s.co2Ppm 0 20000
  ++ checkRange "simulation.initial.soil_moisture" s.soilMoisture 0 1

structure Noise where
  temperatureC : F64 := 0.02
  humidityPct : F64 := 0.1
  co2Ppm : F64 := 1
  par : F64 := 1
  soilMoisture : F64 := 0.001
  deriving DecidableEq

def Noise.validate (n : Noise) : List FieldViolation :=
  [("temperature_c", n.temperatureC), ("humidity_pct", n.humidityPct), ("co2_ppm", n.co2Ppm),
    ("par", n.par), ("soil_moisture", n.soilMoisture)].flatMap fun (name, value) =>
      checkMin ("simulation.noise." ++ name) value 0

/-- Bounds of the cadence multiplier. -/
def minTimeScale : F64 := 0.25

def maxTimeScale : F64 := 32

structure Simulation where
  timeScale : F64 := 1
  seed : Nat := 0x5EED5EED5EED5EED
  sensorInjectionTimeoutSecs : Nat := 300
  solar : Solar := {}
  initial : InitialState := {}
  noise : Noise := {}
  deriving DecidableEq

def Simulation.validate (s : Simulation) : List FieldViolation :=
  checkRange "simulation.time_scale" s.timeScale minTimeScale maxTimeScale
  ++ checkMin "simulation.sensor_injection_timeout_secs" s.sensorInjectionTimeoutSecs 1
  ++ s.solar.validate ++ s.initial.validate ++ s.noise.validate

/-! ## The configuration -/

/-- The controller configuration of one greenhouse. -/
structure Config where
  controllerId : Slug
  setpoints : Setpoints
  zones : List Zone := []
  hal : HalConfig
  control : Control := {}
  safety : Safety := {}
  sensing : Sensing := {}
  simulation : Simulation := {}
  deriving DecidableEq

/-- Walk over the zones, collecting the ids seen. -/
def validateZones : List Slug → List Zone → List FieldViolation
  | _, [] => []
  | seen, z :: zs =>
    violationIf (z.id ∈ seen) ("zones." ++ z.id.asStr) "duplicate zone id" (.string z.id.asStr)
    ++ z.validate ++ validateZones (z.id :: seen) zs

namespace Config

/-- Every violation of the configuration, in the order they are found. -/
def violations (c : Config) : List FieldViolation :=
  c.setpoints.validate ++ c.hal.validate ++ c.control.validate ++ c.safety.validate
  ++ c.sensing.validate ++ c.simulation.validate ++ validateZones [] c.zones

/-- `Config::validate`: the configuration, or everything wrong with it. -/
def validate (c : Config) : Except (List FieldViolation) Unit :=
  if c.violations = [] then .ok () else .error c.violations

/-- The configuration is accepted. -/
def Valid (c : Config) : Prop := c.validate = .ok ()

theorem valid_iff {c : Config} : c.Valid ↔ c.violations = [] := by
  unfold Valid validate
  split <;> simp_all

instance (c : Config) : Decidable c.Valid :=
  decidable_of_iff (c.violations = []) valid_iff.symm

end Config

/-! ## What an accepted configuration gives -/

/-- The defaults of every optional section pass their own checks. -/
theorem defaults_validate :
    ({} : Control).validate ++ ({} : Safety).validate ++ ({} : Sensing).validate
      ++ ({} : Simulation).validate = [] := by
  decide +kernel

theorem rateViolation_eq_nil {path name : String} {rate : Option F64} {v : F64}
    (h : rateViolation path name rate = []) (hv : rate = some v) : ∃ q, v = .fin q ∧ 0 < q := by
  subst hv
  obtain ⟨hpos, hfin⟩ := not_or.1 (violationIf_eq_nil.1 h)
  obtain ⟨q, rfl⟩ := F64.isFinite_iff.1 (not_not.1 hfin)
  rw [F64.zero_eq, F64.fin_le_fin, not_le] at hpos
  exact ⟨q, rfl, hpos⟩

/-- The rate limit the constraint stage uses: the slew rate, else the ramp rate. -/
def Constraints.rate (c : Constraints) : Option F64 := c.slewPctPerS.or c.rampPctPerS

/-- Every rate of the constraints is a positive number. -/
def Constraints.RatesPositive (c : Constraints) : Prop :=
  ∀ v, c.rate = some v → ∃ q, v = .fin q ∧ 0 < q

theorem ratesPositive_default : ({} : Constraints).RatesPositive := by
  rintro v ⟨⟩

theorem ActuatorModel.ratesPositive {i : Nat} {seen : List Actuator} {m : ActuatorModel}
    (h : m.validate i seen = []) : m.constraints.RatesPositive := by
  obtain ⟨h, hramp⟩ := List.append_eq_nil_iff.1 h
  obtain ⟨-, hslew⟩ := List.append_eq_nil_iff.1 h
  intro v hv
  rcases Option.or_eq_some_iff.1 hv with hv | ⟨-, hv⟩
  · exact rateViolation_eq_nil hslew hv
  · exact rateViolation_eq_nil hramp hv

theorem ratesPositive_of_validateModels {ms : List ActuatorModel} :
    ∀ {i : Nat} {seen : List Actuator}, validateModels i seen ms = [] →
      ∀ m ∈ ms, m.constraints.RatesPositive := by
  induction ms with
  | nil =>
    intro i seen _ m hm
    cases hm
  | cons m₀ ms ih =>
    intro i seen h m hm
    obtain ⟨h₀, hrest⟩ := List.append_eq_nil_iff.1 h
    rcases List.mem_cons.1 hm with rfl | hm
    · exact ActuatorModel.ratesPositive h₀
    · exact ih hrest m hm

namespace Config.Valid

variable {c : Config}

/-- Every section of an accepted configuration passes its own check. -/
theorem sections (h : c.Valid) : c.setpoints.validate = [] ∧ c.hal.validate = [] ∧
    c.safety.validate = [] ∧ c.sensing.validate = [] := by
  have hnone := valid_iff.1 h
  simp only [violations, List.append_eq_nil_iff] at hnone
  obtain ⟨⟨⟨⟨⟨⟨hsetpoints, hhal⟩, -⟩, hsafety⟩, hsensing⟩, -⟩, -⟩ := hnone
  exact ⟨hsetpoints, hhal, hsafety, hsensing⟩

theorem setpoints (h : c.Valid) : c.setpoints.validate = [] := h.sections.1

theorem hal (h : c.Valid) : c.hal.validate = [] := h.sections.2.1

theorem safety (h : c.Valid) : c.safety.validate = [] := h.sections.2.2.1

theorem sensing (h : c.Valid) : c.sensing.validate = [] := h.sections.2.2.2

/-- A configured rate limit is a positive number. -/
theorem rates (h : c.Valid) : ∀ m ∈ c.hal.actuators, m.constraints.RatesPositive :=
  ratesPositive_of_validateModels (List.append_eq_nil_iff.1 h.hal).2

/-- The re-arm margins are not negative. -/
theorem rearm (h : c.Valid) :
    ¬ c.safety.interlockRearmHysteresis.temperatureC < 0 ∧
      ¬ c.safety.interlockRearmHysteresis.co2Ppm < 0 := by
  have h := h.safety
  simp only [Safety.validate, RearmHysteresis.validate, List.append_eq_nil_iff,
    checkMin_eq_nil] at h
  exact h.1.1.2

/-- The tolerance of the readback is not negative, and the window without a response has ticks. -/
theorem readback (h : c.Valid) :
    ¬ c.sensing.commandedVsObservedTol < 0 ∧ 1 ≤ c.sensing.noResponseWindowTicks := by
  have h := h.sensing
  simp only [Sensing.validate, List.append_eq_nil_iff, checkMin_eq_nil] at h
  exact ⟨h.1.2, by omega⟩

theorem tolerance (h : c.Valid) : ¬ c.sensing.commandedVsObservedTol < 0 := h.readback.1

theorem window_pos (h : c.Valid) : 1 ≤ c.sensing.noResponseWindowTicks := h.readback.2

end Config.Valid

end Greenhouse.Controller
