import Mathlib.Data.List.Nodup
import Greenhouse.Controller.Config
import Greenhouse.Controller.Hal

/-!
# The simulated backend

`SimulatedHal` is the plant behind the `Hal` interface: first-order lags towards targets that
the actuators and the hidden disturbances set, sensor noise from a seeded generator, and the
control surface of the simulation, through which a sensor channel is forced to a value or an
actuator made faulty, each for a number of ticks.

* `read_channel`: a channel reads the value it is forced to, and its sample otherwise.
* `step_injections`: how the forced values age with a step.
-/

namespace Greenhouse.Controller

open Greenhouse.Numeric Std

/-- The further functions of the mathematical library that the simulation calls. -/
class SimLibm extends Libm where
  sin : F64 → F64
  ln : F64 → F64
  sqrt : F64 → F64

/-! ## The generator -/

/-- A SplitMix64 generator. -/
structure Rng where
  state : UInt64

namespace Rng

def new (seed : Nat) : Rng := ⟨UInt64.ofNat seed⟩

/-- The next raw value. -/
def nextU64 : StateM Rng UInt64 := fun r =>
  let state := r.state + 0x9E3779B97F4A7C15
  let z := (state ^^^ (state >>> 30)) * 0xBF58476D1CE4E5B9
  let z := (z ^^^ (z >>> 27)) * 0x94D049BB133111EB
  (z ^^^ (z >>> 31), ⟨state⟩)

/-- The top 53 bits, as a number in `[0, 1)`. -/
def nextF64 : StateM Rng F64 := do
  let u ← nextU64
  return F64.ofNat (u >>> 11).toNat / F64.ofNat (2 ^ 53)

/-- `f64::MIN_POSITIVE`. -/
def minPositive : F64 := .fin (1 / 2 ^ 1022)

/-- A standard-normal sample, by the Box–Muller transform. -/
def nextGaussian [SimLibm] : StateM Rng F64 := do
  let u1 ← nextF64
  let u2 ← nextF64
  return SimLibm.sqrt (-2 * SimLibm.ln (u1.maxNum minPositive)) * Libm.cos (2 * F64.pi * u2)

end Rng

/-! ## Channels and faults -/

/-- A raw sensor channel. -/
inductive SensorChannel where
  | temperatureProbe (i : Nat)
  | humidity
  | co2
  | par
  | soilMoisture (zone : Slug)
  deriving DecidableEq

namespace SensorChannel

def rank : SensorChannel → Nat
  | temperatureProbe _ => 0
  | humidity => 1
  | co2 => 2
  | par => 3
  | soilMoisture _ => 4

def index : SensorChannel → Nat
  | temperatureProbe i => i
  | _ => 0

def zoneName : SensorChannel → String
  | soilMoisture z => z.asStr
  | _ => ""

/-- An order to keep maps by; the maps of the source are hashed. -/
def cmp : SensorChannel → SensorChannel → Ordering :=
  compareLex (compareOn rank) (compareLex (compareOn index) (compareOn zoneName))

instance : Ord SensorChannel := ⟨cmp⟩

instance : Std.TransOrd SensorChannel :=
  inferInstanceAs (Std.TransCmp
    (compareLex (compareOn rank) (compareLex (compareOn index) (compareOn zoneName))))

theorem ext_cmp {a b : SensorChannel} (hrank : a.rank = b.rank) (hindex : a.index = b.index)
    (hzone : a.zoneName = b.zoneName) : a = b := by
  cases a <;> cases b <;> cases hrank <;> try rfl
  case temperatureProbe.temperatureProbe i j => exact congrArg temperatureProbe hindex
  case soilMoisture.soilMoisture y z => exact congrArg soilMoisture (Slug.ext hzone)

instance : Std.LawfulEqOrd SensorChannel where
  compare_self := @Std.ReflCmp.compare_self _
    (compareLex (compareOn rank) (compareLex (compareOn index) (compareOn zoneName))) _
  eq_of_compare {a b} h := by
    have h' := compareLex_eq_eq.1 h
    have h'' := compareLex_eq_eq.1 h'.2
    exact ext_cmp (Std.LawfulEqOrd.eq_of_compare h'.1) (Std.LawfulEqOrd.eq_of_compare h''.1)
      (Std.LawfulEqOrd.eq_of_compare h''.2)

end SensorChannel

namespace RawReadings

/-- The reading of a channel, if there is such a sensor. -/
def channel (r : RawReadings) : SensorChannel → Option F64
  | .temperatureProbe i => r.temperatureProbes[i]?
  | .humidity => some r.humidityPct
  | .co2 => some r.co2Ppm
  | .par => some r.par
  | .soilMoisture z => r.soilMoisture[z]?

/-- Force the reading of a channel; without such a sensor there is nothing to force. -/
def force (r : RawReadings) (channel : SensorChannel) (value : F64) : RawReadings :=
  match channel with
  | .temperatureProbe i => { r with temperatureProbes := r.temperatureProbes.set i value }
  | .humidity => { r with humidityPct := value }
  | .co2 => { r with co2Ppm := value }
  | .par => { r with par := value }
  | .soilMoisture z => { r with soilMoisture := r.soilMoisture.modify z fun _ => value }

theorem force_channel_self (r : RawReadings) (c : SensorChannel) (value : F64) :
    (r.force c value).channel c = (r.channel c).map fun _ => value := by
  cases c with
  | temperatureProbe i => exact List.getElem?_set_self'
  | soilMoisture z => exact TreeMap.getElem?_modify_self
  | _ => rfl

theorem force_channel_of_ne (r : RawReadings) {c i : SensorChannel} (value : F64) (h : c ≠ i) :
    (r.force c value).channel i = r.channel i := by
  cases c with
  | temperatureProbe n =>
    cases i with
    | temperatureProbe m => exact List.getElem?_set_ne fun hnm => h (congrArg _ hnm)
    | _ => rfl
  | soilMoisture y =>
    cases i with
    | soilMoisture z =>
      refine TreeMap.getElem?_modify.trans (if_neg fun heq => h ?_)
      rw [LawfulEqOrd.eq_of_compare heq]
    | _ => rfl
  | _ => cases i <;> first | rfl | exact absurd rfl h

end RawReadings

/-- An injectable actuator fault. -/
inductive ActuatorFaultKind where
  | stuckOn
  | stuckOff
  | noEffect
  deriving DecidableEq

/-- A forced sensor value with its remaining lifetime in ticks. -/
structure SensorInjection where
  value : F64
  remaining : Nat

/-- A lifetime after a tick; `none` once it is over. -/
def tickDown (remaining : Nat) : Option Nat :=
  if 0 < remaining - 1 then some (remaining - 1) else none

def SensorInjection.age (inj : SensorInjection) : Option SensorInjection :=
  (tickDown inj.remaining).map fun n => { inj with remaining := n }

/-- An actuator fault with its remaining lifetime in ticks. -/
structure ActuatorFault where
  kind : ActuatorFaultKind
  remaining : Nat

def ActuatorFault.age (f : ActuatorFault) : Option ActuatorFault :=
  (tickDown f.remaining).map fun n => { f with remaining := n }

/-! ## The plant -/

/-- The simulated plant and actuators. -/
structure SimulatedHal where
  tau : TimeConstants
  disturbances : Disturbances
  actuators : List ActuatorModel
  valveSoilGain : F64
  solar : Solar
  noise : Noise
  zoneIds : List Slug
  probeCount : Nat
  injectionDefaultTtl : Nat
  temperature : F64
  humidity : F64
  co2 : F64
  par : F64
  soil : TreeMap Slug F64
  commanded : Commands
  observed : Observed
  currentReadings : RawReadings
  rng : Rng
  timeScale : F64
  sensorInjections : TreeMap SensorChannel SensorInjection := ∅
  actuatorFaults : TreeMap ActuatorId ActuatorFault := ∅

/-- Outdoor CO₂ concentration, in ppm. -/
def co2AmbientPpm : F64 := 420

namespace SimulatedHal

/-! ### Actuators -/

/-- The actuator obeys but does nothing. -/
def effectSuppressed (s : SimulatedHal) (id : ActuatorId) : Bool :=
  s.actuatorFaults[id]?.map ActuatorFault.kind == some .noEffect

/-- The sum of `gain * level / 100` over the house actuators' effects on a variable. -/
def houseActuatorSum (s : SimulatedHal) (var : ClimateVariable) : F64 :=
  s.actuators.foldl (fun sum model =>
    if model.actuator = .irrigationValve ∨ s.effectSuppressed (.house model.actuator) = true then
      sum
    else model.effects.foldl (fun sum effect =>
      if effect.climateVariable = var then
        sum + effect.gain * s.observed.get (.house model.actuator) / 100
      else sum) sum) 0

/-- A stuck actuator is frozen, any other follows its command. -/
def observeOne (s : SimulatedHal) (id : ActuatorId) : F64 :=
  match s.actuatorFaults[id]?.map ActuatorFault.kind with
  | some .stuckOn => 100
  | some .stuckOff => 0
  | _ => s.commanded.get id

def recomputeObserved (s : SimulatedHal) : SimulatedHal :=
  { s with
    observed := (houseActuators.map ActuatorId.house ++ s.zoneIds.map ActuatorId.valve).foldl
      (fun observed id => observed.set id (s.observeOne id)) (Commands.allOff s.zoneIds) }

section Plant

variable [SimLibm]

/-! ### Sensors -/

/-- Noise of the given standard deviation on a true value. -/
def noisy (value sigma : F64) : StateM Rng F64 := do
  let g ← Rng.nextGaussian
  return value + g * sigma

/-- Sample every sensor; the readings are clamped to what is physical. -/
def sampleReadings (s : SimulatedHal) : StateM Rng RawReadings := do
  let probes ← (List.replicate s.probeCount s.temperature).mapM (noisy · s.noise.temperatureC)
  let humidity ← noisy s.humidity s.noise.humidityPct
  let co2 ← noisy s.co2 s.noise.co2Ppm
  let par ← noisy s.par s.noise.par
  let soil ← s.zoneIds.mapM fun z => do
    let v ← noisy (s.soil.getD z 0) s.noise.soilMoisture
    return (z, F64.clampBody v 0 1)
  return {
    temperatureProbes := probes
    humidityPct := F64.clampBody humidity 0 100
    co2Ppm := co2.maxNum 0
    par := par.maxNum 0
    soilMoisture := soil.foldl (fun m p => m.insert p.1 p.2) ∅ }

def sample (s : SimulatedHal) : SimulatedHal :=
  let (readings, rng) := s.sampleReadings s.rng
  { s with currentReadings := readings, rng := rng }

/-! ### Dynamics -/

/-- The fraction of peak solar: a half-sine between sunrise and sunset. -/
def solarFraction (s : SimulatedHal) (clock : Clock) : F64 :=
  let t := F64.ofNat clock.secondOfDay
  let sr := F64.ofNat s.solar.sunrise.minutesSinceMidnight * 60
  let ss := F64.ofNat s.solar.sunset.minutesSinceMidnight * 60
  if ss ≤ sr ∨ t < sr ∨ ss ≤ t then 0
  else (SimLibm.sin (F64.pi * ((t - sr) / (ss - sr)))).maxNum 0

def isDaytime (s : SimulatedHal) (clock : Clock) : Bool :=
  clock.isWithin s.solar.sunrise s.solar.sunset

/-- `DT_SECS as f64`. -/
def dt : F64 := F64.ofNat dtSecs

/-- The soil moisture of a zone after a tick: filled by an open valve, else drying. -/
def soilStep (s : SimulatedHal) (z : Slug) (v : F64) : F64 :=
  let level := if s.effectSuppressed (.valve z) then 0 else s.observed.get (.valve z)
  let wettingTarget := s.valveSoilGain * level / 100
  let v :=
    if v < wettingTarget then v + (dt / s.tau.soilMoistureS) * (wettingTarget - v)
    else if s.disturbances.soilResidualVwc < v then
      (v - s.disturbances.soilDryingRatePerS * dt).maxNum s.disturbances.soilResidualVwc
    else v
  F64.clampBody v 0 1

/-- Advance the true state of the plant. -/
def integrate (s : SimulatedHal) (clock : Clock) : SimulatedHal :=
  let solar := s.solarFraction clock
  let lag (v tau target : F64) : F64 := v + (dt / tau) * (target - v)
  let targetT := s.disturbances.outdoorTempC + s.solar.peakHeatGainC * solar
    + s.houseActuatorSum .temperature
  let t := lag s.temperature s.tau.temperatureS targetT
  let t := t + s.disturbances.heatLossCoeff * (s.disturbances.outdoorTempC - t) * dt
  let h := lag s.humidity s.tau.humidityS
    (s.disturbances.ambientHumidityPct + s.houseActuatorSum .humidity)
  let c := lag s.co2 s.tau.co2S (co2AmbientPpm + s.houseActuatorSum .co2)
  let c := if s.isDaytime clock then c - s.disturbances.plantCo2UptakePpmPerS * dt else c
  let p := lag s.par s.tau.parS (s.solar.peakPar * solar + s.houseActuatorSum .par)
  { s with
    soil := s.zoneIds.foldl (fun soil z => soil.modify z (s.soilStep z)) s.soil
    temperature := F64.clampBody t (-50) 90
    humidity := F64.clampBody h 0 100
    co2 := F64.clampBody c 0 20000
    par := F64.clampBody p 0 5000 }

end Plant

/-! ### Lifetimes -/

/-- Decrement the lifetimes, dropping what has expired. -/
def expire (s : SimulatedHal) : SimulatedHal :=
  { s with
    sensorInjections := s.sensorInjections.filterMap fun _ inj => inj.age
    actuatorFaults := s.actuatorFaults.filterMap fun _ f => f.age }

/-! ### The interfaces -/

/-- The sampled readings under the forced values. -/
def readings (s : SimulatedHal) : RawReadings :=
  s.sensorInjections.toList.foldl (fun r p => r.force p.1 p.2.value) s.currentReadings

/-- Latch a command, clamping its levels. -/
def latch (s : SimulatedHal) (commands : Commands) : SimulatedHal :=
  { s with
    commanded := commands.ids.foldl (fun clamped id => clamped.set id (commands.get id))
      (Commands.allOff s.zoneIds) }

instance [SimLibm] : Hal SimulatedHal where
  read := readings
  command := latch
  observed := SimulatedHal.observed
  step s clock := ((s.recomputeObserved.integrate clock).sample).expire

def injectSensor (s : SimulatedHal) (channel : SensorChannel) (value : F64)
    (ttlTicks : Option Nat) : SimulatedHal :=
  { s with
    sensorInjections :=
      s.sensorInjections.insert channel ⟨value, max (ttlTicks.getD s.injectionDefaultTtl) 1⟩ }

def clearSensorInjection (s : SimulatedHal) (channel : SensorChannel) : SimulatedHal :=
  { s with sensorInjections := s.sensorInjections.erase channel }

def injectActuatorFault (s : SimulatedHal) (id : ActuatorId) (kind : ActuatorFaultKind)
    (ttlTicks : Option Nat) : SimulatedHal :=
  { s with
    actuatorFaults :=
      s.actuatorFaults.insert id ⟨kind, max (ttlTicks.getD s.injectionDefaultTtl) 1⟩ }

def clearActuatorFault (s : SimulatedHal) (id : ActuatorId) : SimulatedHal :=
  { s with actuatorFaults := s.actuatorFaults.erase id }

def setTimeScale (s : SimulatedHal) (scale : F64) : SimulatedHal :=
  { s with timeScale := F64.clampBody scale minTimeScale maxTimeScale }

/-- Build the simulator of a configuration. -/
def new [SimLibm] (config : Config) : SimulatedHal :=
  let zoneIds := config.zones.map (·.id)
  let init := config.simulation.initial
  let valve := config.hal.actuators.find? (·.actuator = .irrigationValve)
  let soilEffect := valve.bind fun m => m.effects.find? (·.climateVariable = .soilMoisture)
  let sim : SimulatedHal := {
    tau := config.hal.timeConstants
    disturbances := config.hal.disturbances
    actuators := config.hal.actuators
    valveSoilGain := (soilEffect.map (·.gain)).getD 0
    solar := config.simulation.solar
    noise := config.simulation.noise
    zoneIds := zoneIds
    probeCount := max config.sensing.probeCount 1
    injectionDefaultTtl := config.simulation.sensorInjectionTimeoutSecs
    temperature := init.temperatureC
    humidity := init.humidityPct
    co2 := init.co2Ppm
    par := 0
    soil := zoneIds.foldl (fun m z => m.insert z init.soilMoisture) ∅
    commanded := Commands.allOff zoneIds
    observed := Commands.allOff zoneIds
    currentReadings := ⟨[], 0, 0, 0, ∅⟩
    rng := Rng.new config.simulation.seed
    timeScale := config.simulation.timeScale }
  sim.sample

/-! ## What a channel reads -/

theorem foldl_force_of_not_mem {l : List (SensorChannel × SensorInjection)} {c : SensorChannel} :
    ∀ {r : RawReadings}, (∀ p ∈ l, p.1 ≠ c) →
      (l.foldl (fun r p => r.force p.1 p.2.value) r).channel c = r.channel c := by
  induction l with
  | nil => exact fun _ => rfl
  | cons p l ih =>
    intro r h
    rw [List.foldl_cons, ih fun q hq => h q (List.mem_cons_of_mem p hq)]
    exact r.force_channel_of_ne _ (h p List.mem_cons_self)

theorem foldl_force_of_mem {l : List (SensorChannel × SensorInjection)} {c : SensorChannel}
    {inj : SensorInjection} :
    ∀ {r : RawReadings}, (l.map Prod.fst).Nodup → (c, inj) ∈ l →
      (l.foldl (fun r p => r.force p.1 p.2.value) r).channel c =
        (r.channel c).map fun _ => inj.value := by
  induction l with
  | nil => exact fun _ h => absurd h List.not_mem_nil
  | cons p l ih =>
    intro r hnodup hmem
    obtain ⟨hp, hl⟩ := List.nodup_cons.1 hnodup
    rw [List.foldl_cons]
    rcases List.mem_cons.1 hmem with rfl | hmem
    · rw [foldl_force_of_not_mem, r.force_channel_self]
      intro q hq heq
      exact hp (List.mem_map.2 ⟨q, hq, heq⟩)
    · have hne : p.1 ≠ c := fun heq => hp (List.mem_map.2 ⟨(c, inj), hmem, heq.symm⟩)
      rw [ih hl hmem, r.force_channel_of_ne _ hne]

/-- **A channel reads the value it is forced to, and its sample otherwise.** -/
theorem read_channel [SimLibm] (s : SimulatedHal) (c : SensorChannel) :
    (Hal.read s).channel c =
      (s.currentReadings.channel c).map (s.sensorInjections[c]?.map (·.value)).getD := by
  change (s.readings).channel c = _
  cases hc : s.sensorInjections[c]? with
  | none =>
    rw [readings, foldl_force_of_not_mem]
    · exact Option.map_id'.symm
    · rintro p hp rfl
      rw [TreeMap.mem_toList_iff_getElem?_eq_some.1 hp] at hc
      cases hc
  | some inj =>
    refine foldl_force_of_mem ?_ (TreeMap.mem_toList_iff_getElem?_eq_some.2 hc)
    rw [TreeMap.map_fst_toList_eq_keys]
    exact s.sensorInjections.distinct_keys.imp fun h heq => by
      subst heq
      exact h ReflCmp.compare_self

section Frame

variable [SimLibm] (s : SimulatedHal) (commands : Commands) (clock : Clock)

@[simp] theorem command_ttl :
    (Hal.command s commands).injectionDefaultTtl = s.injectionDefaultTtl := rfl

@[simp] theorem command_injections :
    (Hal.command s commands).sensorInjections = s.sensorInjections := rfl

@[simp] theorem step_ttl :
    (Hal.step s clock).injectionDefaultTtl = s.injectionDefaultTtl := rfl

end Frame

/-- A step ages the forced values. -/
theorem step_injections [SimLibm] (s : SimulatedHal) (clock : Clock) (c : SensorChannel) :
    (Hal.step s clock).sensorInjections[c]? = s.sensorInjections[c]?.bind SensorInjection.age :=
  TreeMap.getElem?_filterMap'

end SimulatedHal

end Greenhouse.Controller
