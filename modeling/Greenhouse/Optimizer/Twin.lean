import Mathlib.Data.Fin.VecNotation
import Greenhouse.Optimizer.Gating
import Greenhouse.Optimizer.StateChange
import Greenhouse.Process.Rollout

/-!
# The digital twin

The forward climate model: first-order lags towards targets that a reduced controller sets,
advanced in fixed sub-steps and observed at the output interval. Times are exact, in seconds
since the epoch, and time constants positive; the functions of the math library are given.

* `seedStateFromContext`: the state a planning context stands for.
* `step`: one sub-step; an exception gives `none`, and `true` stands for a state that diverged.
* `simulate`: the predicted trajectory.
-/

namespace Greenhouse.Optimizer.Twin

open Greenhouse.Platform Greenhouse.Process

/-- The climate has rows. -/
theorem neZero_four : NeZero 4 := ⟨by decide⟩

attribute [local instance] neZero_four

/-! ## Parameters -/

/-- The house-level actuators: the columns of the coupling matrix. -/
inductive HouseActuator where
  | heater
  | fans
  | roofVents
  | misters
  | co2Injector
  | growLights
  | shadeScreen
  deriving DecidableEq

def houseActuators : List HouseActuator :=
  [.heater, .fans, .roofVents, .misters, .co2Injector, .growLights, .shadeScreen]

/-- The physics of a greenhouse. The rows are temperature, humidity, CO2 and PAR. -/
structure Params extends TwinParams where
  gains : Fin 4 → HouseActuator → ℚ
  tauSeconds : Fin 4 → ℚ
  outdoorTempC : ℚ
  ambientHumidityPct : ℚ
  ambientCo2Ppm : ℚ
  heatLossCoeff : ℚ
  plantCo2UptakePpmPerS : ℚ
  soilTauSeconds : ℚ
  soilDryingRatePerS : ℚ
  soilResidualVwc : ℚ
  soilEnvMin : ℚ
  soilEnvMax : ℚ
  sunriseSod : Int
  sunsetSod : Int
  peakPar : ℚ
  peakHeatGainC : ℚ
  controllerKp : ℚ := 25

/-- The math library: `math.exp`, which raises on an overflow, `np.exp`, which does not, and the
trigonometric functions. -/
structure Maths where
  exp : ℚ → Option ℚ
  npExp : ℚ → ℚ
  sin : ℚ → ℚ
  cos : ℚ → ℚ
  pi : ℚ

/-! ## Time -/

/-- Seconds since the epoch. -/
abbrev Moment := ℚ

def moment (t : Instant) : Moment := t / (second : Int)

/-- The day of an instant, counted from the epoch. -/
def dayOf (t : Moment) : Int := ⌊t / 86400⌋

/-- The whole second of the UTC day. -/
def secondOfDay (t : Moment) : Int := ⌊t⌋ % 86400

/-- A time of day of a valid bundle, as a second of the day. -/
def hhmmToSod (hhmm : String) : Int := ((minutesOfDay hhmm).getD 0 : Nat) * 60

/-! ## Vapour and light -/

def saturationVaporPressureKpa (m : Maths) (temperatureC : ℚ) : Option ℚ :=
  if temperatureC + 2373 / 10 = 0 then none
  else (m.exp (1727 / 100 * temperatureC / (temperatureC + 2373 / 10))).map (61078 / 100000 * ·)

def vaporPressureDeficitKpa (m : Maths) (temperatureC relativeHumidityPct : ℚ) : Option ℚ :=
  (saturationVaporPressureKpa m temperatureC).map (· * (1 - relativeHumidityPct / 100))

def rhTargetFromVpd (m : Maths) (temperatureC vpdTargetKpa : ℚ) : Option ℚ :=
  (saturationVaporPressureKpa m temperatureC).map fun svp =>
    if svp ≤ 0 then 0 else 100 * (1 - vpdTargetKpa / svp)

/-- The natural light, as a share of its peak. -/
def solarFraction (m : Maths) (params : Params) (sod : Int) : ℚ :=
  if sod < params.sunriseSod ∨ params.sunsetSod ≤ sod then 0
  else m.sin (m.pi * (sod - params.sunriseSod : Int) / (params.sunsetSod - params.sunriseSod : Int))

/-- The natural light that is still to come. -/
def projectedRemainingDli (m : Maths) (params : Params) (sod : Int) : Option ℚ :=
  if params.sunsetSod ≤ sod then some 0
  else
    let start := max sod params.sunriseSod
    let span := params.sunsetSod - params.sunriseSod
    if span = 0 then none
    else
      let theta := m.pi * (start - params.sunriseSod : Int) / span
      some (params.peakPar * span / m.pi * (m.cos theta + 1) / 10 ^ 6)

/-! ## State -/

/-- A `dict`, by its values. -/
abbrev Dict (α : Type) := String → Option α

structure State where
  climate : Fin 4 → ℚ
  soil : Dict ℚ
  dliMol : ℚ
  clock : Moment
  dayOrdinal : Int
  valveOpen : Dict Bool := fun _ => none
  lastCloseElapsedS : Dict ℚ := fun _ => none
  elapsedS : ℚ := 0

/-- One output point of the predicted trajectory. -/
structure PredictedPoint where
  time : Moment
  climate : Fin 4 → ℚ
  vpdKpa : ℚ
  dliMolM2Day : ℚ
  soilMoistureVwc : Dict ℚ

def point (m : Maths) (state : State) : Option PredictedPoint :=
  (vaporPressureDeficitKpa m (state.climate 0) (state.climate 1)).map fun vpdKpa =>
    { time := state.clock
      climate := state.climate
      vpdKpa := vpdKpa
      dliMolM2Day := state.dliMol
      soilMoistureVwc := state.soil }

/-! ## The state of a planning context -/

/-- The last bucket that is not empty, or else the last one. -/
def latestBucket (s : MetricSummarySeries) : Option SummaryBucket :=
  let nonEmpty := s.buckets.filter (·.count > 0)
  let buckets := if nonEmpty = [] then s.buckets else nonEmpty
  buckets.foldl (fun (best : Option SummaryBucket) b =>
    match best with
    | some best => if best.bucketStart < b.bucketStart then some b else some best
    | none => some b) none

def findSeriesMean (ctx : PlanningContext) (metric : Metric) (zoneId : Option String) : Option ℚ :=
  ctx.telemetry.findSome? fun s =>
    if s.metric = metric ∧ s.zoneId = zoneId then (latestBucket s).map (·.mean) else none

/-- The sunrise of the day of the context's end. -/
def sunrise (ctx : PlanningContext) (params : Params) : Instant :=
  ctx.stop - ctx.stop % (86400 * second) + params.sunriseSod * second

/-- The light of a day so far, from the history of PAR. -/
def rebuildDli (ctx : PlanningContext) (params : Params) : ℚ :=
  ctx.telemetry.foldl (fun dli s =>
    if s.metric ≠ .par then dli
    else s.buckets.foldl (fun dli b =>
      if b.count > 0 ∧ sunrise ctx params ≤ b.bucketStart ∧ b.bucketStart < ctx.stop then
        dli + b.mean * (ctx.interval.seconds : ℚ) / 10 ^ 6
      else dli) dli) 0

/-- A value for each of some keys. -/
def fromKeys {α : Type} (keys : List String) (value : α) : Dict α :=
  fun key => if key ∈ keys then some value else none

theorem fromKeys_eq_some {α : Type} {keys : List String} {value v : α} {key : String} :
    fromKeys keys value key = some v ↔ key ∈ keys ∧ v = value := by
  unfold fromKeys
  split
  · rename_i hkey
    simp [hkey, eq_comm]
  · rename_i hkey
    simp [hkey]

def seedStateFromContext (ctx : PlanningContext) (params : Params) : Option State := do
  let temperature ← findSeriesMean ctx .temperature none
  let humidity ← findSeriesMean ctx .humidity none
  let co2 ← findSeriesMean ctx .co2 none
  let par ← findSeriesMean ctx .par none
  let zones := ctx.setpoints.targets.zones.map (·.zoneId)
  if zones.all fun zoneId => (findSeriesMean ctx .soilMoisture (some zoneId)).isSome then
    some {
      climate := ![temperature, humidity, co2, par]
      soil := fun zoneId =>
        if zoneId ∈ zones then findSeriesMean ctx .soilMoisture (some zoneId) else none
      dliMol := rebuildDli ctx params
      clock := moment ctx.stop
      dayOrdinal := dayOf (moment ctx.stop)
      valveOpen := fromKeys zones false
      lastCloseElapsedS := fromKeys zones (-10 ^ 18) }
  else none

/-! ## The reduced controller -/

def isDay (sod : Int) (setpoints : Setpoints) : Bool :=
  hhmmToSod setpoints.dayStart ≤ sod && sod < hhmmToSod setpoints.dayEnd

/-- `np.clip`. -/
def clip (lo hi x : ℚ) : ℚ := min (max x lo) hi

/-- The levels the controller would command. -/
def houseLevels (m : Maths) (params : Params) (setpoints : Setpoints) (state : State) (sod : Int) :
    Option (HouseActuator → ℚ) := do
  let temperature := state.climate 0
  let tSet := if isDay sod setpoints then setpoints.temperatureDayC else setpoints.temperatureNightC
  let error := tSet - temperature
  let levels : HouseActuator → ℚ := fun _ => 0
  let levels :=
    if error > 0 then
      Function.update levels .heater (min (max (params.controllerKp * error) 0) 100)
    else if error < 0 then
      let cooling := min (max (params.controllerKp * -error) 0) 100
      Function.update (Function.update levels .fans cooling) .roofVents cooling
    else levels
  let rhTarget ← rhTargetFromVpd m temperature setpoints.vpdTargetKpa
  let rhTarget := min (max rhTarget setpoints.humidityLowPct) setpoints.humidityHighPct
  let levels := if state.climate 1 < rhTarget then Function.update levels .misters 100 else levels
  let levels ←
    if isDay sod setpoints then do
      let projected := state.dliMol + (← projectedRemainingDli m params sod)
      let levels :=
        if projected < setpoints.dliTargetMol then Function.update levels .growLights 100
        else levels
      some (if setpoints.dliTargetMol ≤ state.dliMol then
        Function.update levels .shadeScreen 100 else levels)
    else some levels
  if state.climate 2 < setpoints.co2TargetPpm ∧
      levels .roofVents ≤ setpoints.co2VentInterlockThresholdPct then
    some (Function.update levels .co2Injector 100)
  else some levels

/-- The valve of one zone: it opens when it is scheduled, dry and past the drain gap. -/
def updateValve (sod : Int) (state : State) (zone : ZoneTargets) : Option State :=
  match state.soil zone.zoneId with
  | none => some state
  | some soil =>
    if (state.valveOpen zone.zoneId).getD false then
      if zone.moistureHighThreshold ≤ soil then
        some { state with
          valveOpen := Function.update state.valveOpen zone.zoneId (some false)
          lastCloseElapsedS :=
            Function.update state.lastCloseElapsedS zone.zoneId (some state.elapsedS) }
      else some state
    else
      let triggers := (zone.schedule.toList.splitOn ',').map fun t => hhmmToSod (String.ofList t)
      let scheduleActive := decide (triggers.min?.getD 0 ≤ sod)
      match state.lastCloseElapsedS zone.zoneId with
      | none => none
      | some lastClose =>
        let drainOk := decide ((zone.drainPeriodSecs : ℚ) ≤ state.elapsedS - lastClose)
        if scheduleActive && drainOk && decide (soil < zone.moistureLowThreshold) then
          some { state with
            valveOpen := Function.update state.valveOpen zone.zoneId (some true) }
        else some state

def updateValves (setpoints : Setpoints) (sod : Int) (state : State) : Option State :=
  setpoints.zones.foldlM (updateValve sod) state

/-! ## Steps -/

/-- The rates at which the climate relaxes; the envelope conducts heat. -/
def rate (params : Params) (row : Fin 4) : ℚ :=
  1 / params.tauSeconds row + if row = 0 then params.heatLossCoeff else 0

/-- Relax the climate and the soil towards their targets. -/
def relax (m : Maths) (params : Params) (dtSeconds : ℚ) (levels : HouseActuator → ℚ) (solar : ℚ)
    (soilDecay : ℚ) (state : State) : State × Bool :=
  let ambient : Fin 4 → ℚ :=
    ![params.outdoorTempC + params.peakHeatGainC * solar, params.ambientHumidityPct,
      params.ambientCo2Ppm, params.peakPar * solar]
  let coupling (row : Fin 4) : ℚ :=
    (houseActuators.map fun a => params.gains row a * (levels a / 100)).sum
  let target (row : Fin 4) : ℚ :=
    clip (params.envMin row) (params.envMax row) (ambient row + coupling row)
  let steady (row : Fin 4) : ℚ :=
    if row = 0 then
      (target 0 * (1 / params.tauSeconds 0) + params.heatLossCoeff * params.outdoorTempC)
        / rate params 0
    else if row = 2 ∧ solar > 0 then
      target 2 - params.plantCo2UptakePpmPerS * params.tauSeconds 2
    else target row
  let climate (row : Fin 4) : ℚ :=
    clip (params.envMin row) (params.envMax row)
      (steady row + (state.climate row - steady row) * m.npExp (-rate params row * dtSeconds))
  let soil : Dict ℚ := fun zoneId => (state.soil zoneId).map fun soil =>
    let updated :=
      if (state.valveOpen zoneId).getD false then
        params.soilEnvMax + (soil - params.soilEnvMax) * soilDecay
      else max params.soilResidualVwc (soil - params.soilDryingRatePerS * dtSeconds)
    clip params.soilEnvMin params.soilEnvMax updated
  -- a division by zero leaves the temperature not finite
  if rate params 0 = 0 then ({ state with soil }, true)
  else
    let clock := state.clock + dtSeconds
    let newOrdinal := dayOf clock
    let dliMol := if newOrdinal ≠ state.dayOrdinal then 0 else state.dliMol
    ({ state with
        climate := climate
        soil := soil
        elapsedS := state.elapsedS + dtSeconds
        clock := clock
        dayOrdinal := newOrdinal
        dliMol := dliMol + climate 3 * dtSeconds / 10 ^ 6 }, false)

/-- Advance one sub-step. -/
def step (m : Maths) (params : Params) (setpoints : Setpoints) (dtSeconds : ℚ) (state : State) :
    Option (State × Bool) := do
  let sod := secondOfDay state.clock
  let state ← updateValves setpoints sod state
  let levels ← houseLevels m params setpoints state sod
  let soilDecay ← m.exp (-dtSeconds / params.soilTauSeconds)
  some (relax m params dtSeconds levels (solarFraction m params sod) soilDecay state)

/-! ## The trajectory -/

structure Result where
  points : List PredictedPoint
  diverged : Bool := false

/-- The cap on a sub-step that keeps the loop through the controller stable. -/
def controlStepCapSeconds : ℚ := 15

/-- The climate is inside its envelopes. -/
def climateInside (params : Params) (climate : Fin 4 → ℚ) : Bool :=
  decide (∀ row, params.envMin row ≤ climate row ∧ climate row ≤ params.envMax row)

/-- How many output intervals cover a horizon. -/
def blockCount (horizonSeconds outputDt : ℚ) : Nat := max 1 ⌈horizonSeconds / outputDt⌉.toNat

/-- How many sub-steps of at most a length make an output interval. -/
def subStepCount (outputDt targetSub : ℚ) : Nat := max 1 ⌈outputDt / targetSub⌉.toNat

/-- Roll forward from a state whose clock and climate are given, by a step of any length. -/
def rollForward {σ : Type} (step : ℚ → σ → Option (σ × Bool)) (observe : σ → Option PredictedPoint)
    (params : Params) (state : σ) (clock : Moment) (climate : Fin 4 → ℚ) (stop : Moment)
    (maxStepMinutes outputIntervalMinutes : ℚ) : Option (σ × Result) :=
  match observe state with
  | none => none
  | some first =>
    if !climateInside params climate then some (state, ⟨[first], true⟩)
    else
      let horizonSeconds := stop - clock
      let outputDt := outputIntervalMinutes * 60
      let targetSub := min (maxStepMinutes * 60) controlStepCapSeconds
      if outputDt = 0 ∨ targetSub = 0 then none
      else
        let nBlocks := blockCount horizonSeconds outputDt
        let nSub := subStepCount outputDt targetSub
        let subDt := outputDt / nSub
        ((Plant.mk (step subDt) observe).rollout nSub nBlocks state).map fun r =>
          (r.final, ⟨first :: r.points, r.halted⟩)

def simulate (m : Maths) (params : Params) (setpoints : Setpoints) (seed : State) (stop : Moment)
    (maxStepMinutes outputIntervalMinutes : ℚ) : Option Result :=
  (rollForward (step m params setpoints) (point m) params seed seed.clock seed.climate stop
    maxStepMinutes outputIntervalMinutes).map Prod.snd

end Greenhouse.Optimizer.Twin
