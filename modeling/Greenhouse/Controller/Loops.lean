import Greenhouse.Controller.Sensing

/-!
# Setpoint resolution and the control loops

Stages two and three of a tick: `resolve` picks the setpoints active on the tick, and
`ControlState.run` evaluates the loops in dependency order and returns the desired
actuator levels. A computation that clamps to configured bounds can panic, which is
`none`.
-/

namespace Greenhouse.Controller

open Greenhouse.Numeric Std

/-! ## Resolved setpoints -/

/-- The setpoints active on a tick. -/
structure ResolvedSetpoints where
  temperatureC : F64
  humidityTargetPct : Option F64
  humidityLowPct : F64
  humidityHighPct : F64
  humidityDeadbandPct : F64
  co2TargetPpm : F64
  ventInterlockThresholdPct : F64
  dliTargetMol : F64

/-- The humidity target at temperature `t`: the deficit inverted, clamped to the bounds. -/
def humidityTarget [Libm] (setpoints : Setpoints) (t : F64) : Option F64 :=
  let svp := saturationVaporPressureKpa t
  let target := 100 * (1 - setpoints.vpdTargetKpa / svp)
  target.clamp? setpoints.humidityLowPct setpoints.humidityHighPct

def resolve [Libm] (setpoints : Setpoints) (clock : Clock) (temperature : Option F64) :
    Option ResolvedSetpoints := do
  let humidityTargetPct ← match temperature with
    | none => some none
    | some t => (humidityTarget setpoints t).map some
  return {
    temperatureC :=
      if clock.isWithin setpoints.dayStart setpoints.dayEnd then setpoints.temperatureDayC
      else setpoints.temperatureNightC
    humidityTargetPct := humidityTargetPct
    humidityLowPct := setpoints.humidityLowPct
    humidityHighPct := setpoints.humidityHighPct
    humidityDeadbandPct := setpoints.humidityDeadbandPct
    co2TargetPpm := F64.ofNat setpoints.co2TargetPpm
    ventInterlockThresholdPct := setpoints.co2VentInterlockThresholdPct
    dliTargetMol := setpoints.dliTargetMol }

/-- The setpoints of a tick that no reading decides. -/
theorem resolve_fields [Libm] {setpoints : Setpoints} {clock : Clock} {temperature : Option F64}
    {resolved : ResolvedSetpoints} (h : resolve setpoints clock temperature = some resolved) :
    resolved.temperatureC = (if clock.isWithin setpoints.dayStart setpoints.dayEnd then
      setpoints.temperatureDayC else setpoints.temperatureNightC) ∧
    resolved.ventInterlockThresholdPct = setpoints.co2VentInterlockThresholdPct ∧
    resolved.co2TargetPpm = F64.ofNat setpoints.co2TargetPpm := by
  cases temperature with
  | none =>
    obtain rfl := Option.some.inj h
    exact ⟨rfl, rfl, rfl⟩
  | some t =>
    obtain ⟨target, -, h⟩ := Option.bind_eq_some_iff.1 h
    obtain rfl := Option.some.inj h
    exact ⟨rfl, rfl, rfl⟩

/-! ## Temperature -/

/-- A PID controller whose integral is clamped to `[-integralClamp, integralClamp]`. -/
structure Pid where
  kp : F64
  ki : F64
  kd : F64
  integralClamp : F64
  integral : F64 := 0
  prevError : Option F64 := none

namespace Pid

def fromConfig (cfg : PidConfig) : Pid where
  kp := cfg.kp
  ki := cfg.ki
  kd := cfg.kd
  integralClamp := cfg.integralClamp

def derivative (prevError : Option F64) (error dt : F64) : F64 :=
  match prevError with
  | some prev => if 0 < dt then (error - prev) / dt else 0
  | none => 0

/-- Advance one step with the current error; the second component is the output. -/
def update (p : Pid) (error dt : F64) : Option (Pid × F64) := do
  let integral ← (p.integral + error * dt).clamp? (-p.integralClamp) p.integralClamp
  let output := p.kp * error + p.ki * integral + p.kd * derivative p.prevError error dt
  return ({ p with integral := integral, prevError := some error }, output)

def reset (p : Pid) : Pid := { p with integral := 0, prevError := none }

end Pid

/-- Half-width of the no-action band around the setpoint. -/
def deadbandC : F64 := 0.5

/-- The largest `u64`. -/
def u64Max : Nat := 2 ^ 64 - 1

def saturatingAdd (a b : Nat) : Nat := min (a + b) u64Max

def saturatingMul (a b : Nat) : Nat := min (a * b) u64Max

structure TemperatureLoop where
  pid : Pid
  saturationTicks : Nat := 0

namespace TemperatureLoop

def new (cfg : Config) : TemperatureLoop where
  pid := Pid.fromConfig cfg.control.temperaturePid

/-- Track sustained saturation, raising a fault once it lasts for the window. -/
def noteSaturation (l : TemperatureLoop) (saturated : Bool) (cfg : Config) :
    TemperatureLoop × List Fault :=
  if saturated then
    let ticks := l.saturationTicks + 1
    let window := cfg.control.saturationWindowSecs
    ({ l with saturationTicks := ticks },
      if window ≤ ticks then [{
        component := "temperature", faultType := .setpointUnreachable
        severity := if saturatingMul window 2 ≤ ticks then .alarm else .warning
        message := "temperature setpoint unreachable: saturated for " ++ toString ticks ++ " ticks"
        response := "holding the actuator at its limit (keep controlling)" }]
      else [])
  else ({ l with saturationTicks := 0 }, [])

/-- The sign of the output selects heating or cooling. -/
def modeLevels (output : F64) : F64 × F64 :=
  if 0 < output then (output.clampPct, 0) else (0, (-output).clampPct)

/-- The heater and cooling levels of this tick. -/
def compute (l : TemperatureLoop) (trusted : TrustedState) (resolved : ResolvedSetpoints)
    (cfg : Config) : Option (TemperatureLoop × F64 × F64 × List Fault) :=
  match trusted.temperature with
  | none => some ({ pid := l.pid.reset, saturationTicks := 0 }, 0, 0, [])
  | some temperature => do
    let error := resolved.temperatureC - temperature
    let (pid, output) ← l.pid.update error (F64.ofNat dtSecs)
    let l := { l with pid := pid }
    if error.abs ≤ deadbandC then
      let (l, faults) := l.noteSaturation false cfg
      return (l, 0, 0, faults)
    else
      let (heater, cooling) := modeLevels output
      let railed := 100 ≤ heater || 100 ≤ cooling
      let (l, faults) := l.noteSaturation railed cfg
      return (l, heater, cooling, faults)

def run (l : TemperatureLoop) (trusted : TrustedState) (resolved : ResolvedSetpoints)
    (cfg : Config) (cmd : Commands) : Option (TemperatureLoop × Commands × List Fault) := do
  let (l, heater, cooling, faults) ← l.compute trusted resolved cfg
  return (l, ((cmd.set (.house .heater) heater).set (.house .fans) cooling).set
    (.house .roofVents) cooling, faults)

end TemperatureLoop

/-! ## Humidity -/

structure HumidityLoop where
  mistersOn : Bool := false

namespace HumidityLoop

/-- The misters ride a hysteresis band around the target; no reading, misters off. -/
def compute (l : HumidityLoop) (trusted : TrustedState) (resolved : ResolvedSetpoints) :
    HumidityLoop × F64 :=
  match trusted.humidity with
  | none => ({ mistersOn := false }, 0)
  | some humidity =>
    let target := resolved.humidityTargetPct.getD
      ((resolved.humidityLowPct + resolved.humidityHighPct) / 2)
    let half := resolved.humidityDeadbandPct / 2
    let mistersOn :=
      if humidity < target - half then true
      else if target + half < humidity then false
      else l.mistersOn
    ({ mistersOn := mistersOn }, if mistersOn then 100 else 0)

def run (l : HumidityLoop) (trusted : TrustedState) (resolved : ResolvedSetpoints)
    (cmd : Commands) : HumidityLoop × Commands :=
  let (l, level) := l.compute trusted resolved
  (l, cmd.set (.house .misters) level)

end HumidityLoop

/-! ## CO₂ -/

/-- The injector opens below the target, unless the vents stand above the threshold; with no
reading it fails closed. -/
def co2Run (trusted : TrustedState) (resolved : ResolvedSetpoints) (cmd : Commands)
    (failClosed : TreeSet ActuatorId) : Commands × TreeSet ActuatorId :=
  let vents := cmd.get (.house .roofVents)
  match trusted.co2 with
  | none => (cmd.set (.house .co2Injector) 0, failClosed.insert (.house .co2Injector))
  | some co2 =>
    let injector : F64 :=
      if resolved.ventInterlockThresholdPct < vents then 0
      else if co2 < resolved.co2TargetPpm then 100
      else 0
    (cmd.set (.house .co2Injector) injector, failClosed)

/-! ## Irrigation -/

structure IrrigationLoop where
  zoneId : Slug
  irrigating : Bool := false
  lastCycleEndTick : Option Nat := none

namespace IrrigationLoop

/-- A trigger of the schedule fires at the current second. -/
def scheduledNow (zone : Zone) (clock : Clock) : Bool :=
  zone.schedule.times.any fun t => t.minutesSinceMidnight * 60 == clock.secondOfDay

/-- The drain gap since the last cycle has not elapsed. -/
def draining (l : IrrigationLoop) (zone : Zone) (clock : Clock) : Bool :=
  match l.lastCycleEndTick with
  | some stop => clock.tickIndex - stop < zone.drainPeriodSecs
  | none => false

/-- The valve level of this tick; the last component says that the valve fails closed. -/
def compute (l : IrrigationLoop) (zone : Zone) (soil : Option F64) (clock : Clock) :
    IrrigationLoop × F64 × Bool :=
  match soil with
  | none => ({ l with irrigating := false }, 0, true)
  | some soil =>
    if l.irrigating then
      if zone.moistureHighThreshold ≤ soil then
        ({ l with irrigating := false, lastCycleEndTick := some clock.tickIndex }, 0, false)
      else (l, 100, false)
    else if l.draining zone clock then (l, 0, false)
    else if scheduledNow zone clock && soil < zone.moistureLowThreshold then
      ({ l with irrigating := true }, 100, false)
    else (l, 0, false)

def run (l : IrrigationLoop) (zone : Zone) (soil : Option F64) (clock : Clock) (cmd : Commands)
    (failClosed : TreeSet ActuatorId) : IrrigationLoop × Commands × TreeSet ActuatorId :=
  let (l', level, failed) := l.compute zone soil clock
  (l', cmd.set (.valve l.zoneId) level,
    if failed then failClosed.insert (.valve l.zoneId) else failClosed)

theorem compute_cases (l : IrrigationLoop) (zone : Zone) (soil : Option F64) (clock : Clock) :
    (l.compute zone soil clock).1.zoneId = l.zoneId ∧
      (l.compute zone soil clock).2.1.IsPct ∧
      (soil = none → (l.compute zone soil clock).2.1 = 0) ∧
      (l.compute zone soil clock).2.2 = soil.isNone := by
  cases soil with
  | none => exact ⟨rfl, F64.isPct_zero, fun _ => rfl, rfl⟩
  | some soil =>
    simp only [compute]
    repeat' split
    all_goals
      refine ⟨rfl, ?_, fun h => (Option.some_ne_none _ h).elim, rfl⟩
      first | exact F64.isPct_zero | exact F64.isPct_hundred

end IrrigationLoop

/-! ## Lighting -/

structure LightingLoop where
  dayIndex : Nat := 0
  accumulatedMol : F64 := 0

/-- The natural light integral still to come before sunset, under a half-sine of `peakPar`. -/
def expectedRemainingNaturalDli [Libm] (nowSecs sunriseSecs sunsetSecs peakPar : F64) :
    Option F64 :=
  let window := sunsetSecs - sunriseSecs
  if window ≤ 0 ∨ peakPar ≤ 0 ∨ sunsetSecs ≤ nowSecs then some 0
  else (nowSecs.clamp? sunriseSecs sunsetSecs).map fun t =>
    peakPar / 1000000 * (window / F64.pi)
      * (Libm.cos (F64.pi * (t - sunriseSecs) / window) + 1)

namespace LightingLoop

/-- Restart the integral at midnight, then add the light of this tick. -/
def accumulate (l : LightingLoop) (trusted : TrustedState) (clock : Clock) : LightingLoop :=
  let day := clock.simSeconds / Clock.daySecs
  let l := if day ≠ l.dayIndex then { dayIndex := day, accumulatedMol := 0 } else l
  match trusted.par with
  | some par => { l with accumulatedMol := l.accumulatedMol + par * F64.ofNat dtSecs / 1000000 }
  | none => l

/-- The grow-light and shade-screen levels. -/
def decide [Libm] (l : LightingLoop) (trusted : TrustedState) (resolved : ResolvedSetpoints)
    (clock : Clock) (cfg : Config) : Option (F64 × F64) :=
  let dayStart := cfg.setpoints.dayStart.minutesSinceMidnight
  let dayEnd := cfg.setpoints.dayEnd.minutesSinceMidnight
  let now := clock.minuteOfDay
  let inDay := dayStart ≤ now && now < dayEnd
  match trusted.par with
  | none => some (if inDay then 100 else 0, 0)
  | some _ =>
    (expectedRemainingNaturalDli (F64.ofNat clock.secondOfDay) (F64.ofNat dayStart * 60)
      (F64.ofNat dayEnd * 60) cfg.setpoints.expectedPeakPar).map fun remaining =>
        let target := resolved.dliTargetMol
        let projected := l.accumulatedMol + remaining
        (if projected < target ∧ inDay then 100 else 0,
          if target ≤ l.accumulatedMol ∧ inDay then 100 else 0)

def run [Libm] (l : LightingLoop) (trusted : TrustedState) (resolved : ResolvedSetpoints)
    (clock : Clock) (cfg : Config) (cmd : Commands) : Option (LightingLoop × Commands) := do
  let l := l.accumulate trusted clock
  let (lights, shade) ← l.decide trusted resolved clock cfg
  return (l, (cmd.set (.house .growLights) lights).set (.house .shadeScreen) shade)

end LightingLoop

/-! ## The control layer -/

/-- Across-tick state of the loops. -/
structure ControlState where
  temperature : TemperatureLoop
  humidity : HumidityLoop := {}
  lighting : LightingLoop := {}
  zones : TreeMap Slug IrrigationLoop

/-- What a run of the loops returns: the new state, the desired levels, the actuators a loop
failed closed, and the faults raised. -/
structure ControlOutput where
  state : ControlState
  cmd : Commands
  failClosed : TreeSet ActuatorId
  faults : List Fault

namespace ControlState

def new (config : Config) : ControlState where
  temperature := TemperatureLoop.new config
  zones := config.zones.foldl (fun m z => m.insert z.id { zoneId := z.id }) ∅

/-- What running the irrigation schedulers accumulates. -/
structure Irrigation where
  zones : TreeMap Slug IrrigationLoop
  cmd : Commands
  failClosed : TreeSet ActuatorId

/-- Run the scheduler of one configured zone, if there is one. -/
def irrigate (trusted : TrustedState) (clock : Clock) (acc : Irrigation) (zone : Zone) :
    Irrigation :=
  match acc.zones[zone.id]? with
  | none => acc
  | some l =>
    let (l, cmd, failClosed) := l.run zone (trusted.soilMoisture[zone.id]?).join clock acc.cmd
      acc.failClosed
    { zones := acc.zones.insert zone.id l, cmd := cmd, failClosed := failClosed }

/-- Run every loop in dependency order. -/
def run [Libm] (s : ControlState) (trusted : TrustedState) (resolved : ResolvedSetpoints)
    (config : Config) (clock : Clock) : Option ControlOutput := do
  let cmd := Commands.allOff (config.zones.map (·.id))
  let (temperature, cmd, faults) ← s.temperature.run trusted resolved config cmd
  let (humidity, cmd) := s.humidity.run trusted resolved cmd
  let (cmd, failClosed) := co2Run trusted resolved cmd ∅
  let irrigation := config.zones.foldl (irrigate trusted clock) ⟨s.zones, cmd, failClosed⟩
  let (lighting, cmd) ← s.lighting.run trusted resolved clock config irrigation.cmd
  return {
    state := { temperature := temperature, humidity := humidity, lighting := lighting
               zones := irrigation.zones }
    cmd := cmd
    failClosed := irrigation.failClosed
    faults := faults }

end ControlState

/-! ## What the loops command -/

theorem isPct_pctIf {p : Prop} [Decidable p] : (if p then 100 else 0 : F64).IsPct := by
  split
  · exact F64.isPct_hundred
  · exact F64.isPct_zero

/-- The heater level is a percentage, whatever the gains are. -/
theorem TemperatureLoop.compute_heater {l l' : TemperatureLoop} {trusted : TrustedState}
    {resolved : ResolvedSetpoints} {cfg : Config} {heater cooling : F64} {faults : List Fault}
    (h : l.compute trusted resolved cfg = some (l', heater, cooling, faults)) : heater.IsPct := by
  unfold compute at h
  split at h
  · cases h
    exact F64.isPct_zero
  · obtain ⟨⟨pid, output⟩, -, h⟩ := Option.bind_eq_some_iff.1 h
    dsimp only at h
    split at h
    · cases h
      exact F64.isPct_zero
    · cases h
      unfold modeLevels
      split
      case isTrue hout =>
        refine F64.isPct_clampPct fun hnan => ?_
        rw [hnan] at hout
        exact F64.not_lt_nan 0 hout
      case isFalse => exact F64.isPct_zero

/-- What the temperature loop writes. -/
theorem TemperatureLoop.run_cases {l l' : TemperatureLoop} {trusted : TrustedState}
    {resolved : ResolvedSetpoints} {cfg : Config} {cmd cmd' : Commands} {faults : List Fault}
    (h : l.run trusted resolved cfg cmd = some (l', cmd', faults)) :
    ∃ heater cooling : F64, heater.IsPct ∧
      cmd' = ((cmd.set (.house .heater) heater).set (.house .fans) cooling).set
        (.house .roofVents) cooling := by
  obtain ⟨⟨l₁, heater, cooling, fs⟩, hcompute, h⟩ := Option.bind_eq_some_iff.1 h
  cases h
  exact ⟨heater, cooling, compute_heater hcompute, rfl⟩

namespace ControlState

/-- The schedulers only move valves. -/
theorem irrigate_get_house {trusted : TrustedState} {clock : Clock} {a : Actuator}
    {zones : List Zone} : ∀ acc : Irrigation,
    (zones.foldl (irrigate trusted clock) acc).cmd.get (.house a) = acc.cmd.get (.house a) := by
  induction zones with
  | nil => exact fun acc => rfl
  | cons z zones ih =>
    intro acc
    rw [List.foldl_cons, ih]
    unfold irrigate
    split
    · rfl
    · simp only [IrrigationLoop.run]
      exact Commands.get_set_of_ne ActuatorId.noConfusion

theorem irrigate_mem_ids {trusted : TrustedState} {clock : Clock} {id : ActuatorId}
    {zones : List Zone} : ∀ acc : Irrigation, id ∈ acc.cmd.ids →
    id ∈ (zones.foldl (irrigate trusted clock) acc).cmd.ids := by
  induction zones with
  | nil => exact fun acc h => h
  | cons z zones ih =>
    intro acc h
    rw [List.foldl_cons]
    refine ih _ ?_
    unfold irrigate
    split
    · exact h
    · exact Commands.mem_ids_set.2 (Or.inr h)

/-- The soil moisture a zone is watered on. -/
def soilOf (trusted : TrustedState) (zone : Slug) : Option F64 :=
  (trusted.soilMoisture[zone]?).join

/-- The scheduler kept for a zone is the one of that zone. -/
def Keyed (zones : TreeMap Slug IrrigationLoop) (zone : Slug) : Prop :=
  ∃ l, zones[zone]? = some l ∧ l.zoneId = zone

theorem keyed_insert {zones : TreeMap Slug IrrigationLoop} {l : IrrigationLoop} {zone z : Slug}
    (hl : l.zoneId = zone) (h : z = zone ∨ Keyed zones z) : Keyed (zones.insert zone l) z := by
  by_cases heq : zone = z
  · subst heq
    exact ⟨l, TreeMap.getElem?_insert_self, hl⟩
  · obtain ⟨l', hget, hid⟩ := h.resolve_left (Ne.symm heq)
    refine ⟨l', ?_, hid⟩
    rw [TreeMap.getElem?_insert, if_neg (fun hcmp => heq (LawfulEqOrd.eq_of_compare hcmp)), hget]

theorem keyed_new {config : Config} {z : Zone} (hz : z ∈ config.zones) :
    Keyed (new config).zones z.id := by
  obtain ⟨l₁, l₂, hzones⟩ := List.append_of_mem hz
  change Keyed (config.zones.foldl _ ∅) z.id
  rw [hzones, List.foldl_append, List.foldl_cons]
  refine List.foldlRecOn l₂ _ (motive := fun m => Keyed m z.id) ?_ fun m hm y _ => ?_
  · exact keyed_insert rfl (Or.inl rfl)
  · exact keyed_insert rfl (Or.inr hm)

section Irrigate

variable {trusted : TrustedState} {clock : Clock}

/-- One scheduler moves the valve of its zone, and fails it closed exactly when the soil
moisture is unknown. -/
theorem irrigate_cases (trusted : TrustedState) (clock : Clock) {acc : Irrigation} {zone : Zone}
    (h : Keyed acc.zones zone.id) :
    ∃ (l : IrrigationLoop) (level : F64), l.zoneId = zone.id ∧ level.IsPct ∧
      (soilOf trusted zone.id = none → level = 0) ∧
      irrigate trusted clock acc zone =
        ⟨acc.zones.insert zone.id l, acc.cmd.set (.valve zone.id) level,
          if soilOf trusted zone.id = none then acc.failClosed.insert (.valve zone.id)
          else acc.failClosed⟩ := by
  obtain ⟨l, hget, hid⟩ := h
  obtain ⟨hzone, hpct, hshut, hfail⟩ := l.compute_cases zone (soilOf trusted zone.id) clock
  refine ⟨_, _, hzone.trans hid, hpct, hshut, ?_⟩
  unfold soilOf at *
  simp only [irrigate, hget, IrrigationLoop.run, hid, hfail, Option.isNone_iff_eq_none]

/-- The schedulers that have run so far keep every zone keyed. -/
theorem keyed_foldl {zones : List Zone} {acc : Irrigation}
    (h : ∀ z ∈ zones, Keyed acc.zones z.id) {zone : Slug} (hz : Keyed acc.zones zone) :
    Keyed (zones.foldl (irrigate trusted clock) acc).zones zone := by
  refine (List.foldlRecOn zones (irrigate trusted clock)
    (motive := fun acc => (∀ z ∈ zones, Keyed acc.zones z.id) ∧ Keyed acc.zones zone)
    ⟨h, hz⟩ fun acc hacc z hmem => ?_).2
  obtain ⟨l, level, hid, -, -, heq⟩ := irrigate_cases trusted clock (hacc.1 z hmem)
  rw [heq]
  exact ⟨fun y hy => keyed_insert hid (Or.inr (hacc.1 y hy)), keyed_insert hid (Or.inr hacc.2)⟩

theorem irrigate_isPct {zones : List Zone} {acc : Irrigation} {zone : Slug}
    (h : ∀ z ∈ zones, Keyed acc.zones z.id) (hc : (acc.cmd.get (.valve zone)).IsPct) :
    ((zones.foldl (irrigate trusted clock) acc).cmd.get (.valve zone)).IsPct := by
  refine (List.foldlRecOn zones (irrigate trusted clock)
    (motive := fun acc => (∀ z ∈ zones, Keyed acc.zones z.id) ∧
      (acc.cmd.get (.valve zone)).IsPct)
    ⟨h, hc⟩ fun acc hacc z hmem => ?_).2
  obtain ⟨l, level, hid, hpct, -, heq⟩ := irrigate_cases trusted clock (hacc.1 z hmem)
  rw [heq]
  refine ⟨fun y hy => keyed_insert hid (Or.inr (hacc.1 y hy)), ?_⟩
  dsimp only
  rw [Commands.get_set]
  split
  · rwa [hpct.clampPct_eq]
  · exact hacc.2

/-- The valve of a zone whose soil moisture is unknown is shut. -/
theorem irrigate_blind {zones : List Zone} {acc : Irrigation} {zone : Slug}
    (h : ∀ z ∈ zones, Keyed acc.zones z.id) (hsoil : soilOf trusted zone = none)
    (hzone : zone ∈ zones.map (·.id) ∨ acc.cmd.get (.valve zone) = 0) :
    (zones.foldl (irrigate trusted clock) acc).cmd.get (.valve zone) = 0 := by
  induction zones generalizing acc with
  | nil => exact hzone.resolve_left List.not_mem_nil
  | cons z zones ih =>
    obtain ⟨l, level, hid, -, hzero, heq⟩ := irrigate_cases trusted clock
      (h z List.mem_cons_self)
    rw [List.foldl_cons, heq]
    refine ih (fun y hy => keyed_insert hid (Or.inr (h y (List.mem_cons_of_mem z hy)))) ?_
    dsimp only
    rw [Commands.get_set]
    by_cases hz : z.id = zone
    · rw [if_pos (congrArg _ hz), hzero (hz ▸ hsoil)]
      exact Or.inr F64.clampPct_zero
    · rw [if_neg (fun heq => hz (ActuatorId.valve.inj heq))]
      refine hzone.imp_left fun hmem => ?_
      exact (List.mem_cons.1 hmem).resolve_left (Ne.symm hz)

/-- The schedulers fail closed exactly the valves of the zones whose soil moisture is unknown. -/
theorem mem_failClosed_irrigate {zones : List Zone} {acc : Irrigation} {id : ActuatorId}
    (h : ∀ z ∈ zones, Keyed acc.zones z.id) :
    id ∈ (zones.foldl (irrigate trusted clock) acc).failClosed ↔
      id ∈ acc.failClosed ∨ ∃ z ∈ zones, id = .valve z.id ∧ soilOf trusted z.id = none := by
  induction zones generalizing acc with
  | nil => simp
  | cons z zones ih =>
    obtain ⟨l, level, hid, -, -, heq⟩ := irrigate_cases trusted clock
      (h z List.mem_cons_self)
    rw [List.foldl_cons, heq,
      ih fun y hy => keyed_insert hid (Or.inr (h y (List.mem_cons_of_mem z hy)))]
    simp only [List.exists_mem_cons_iff]
    split
    case isTrue hsoil =>
      rw [TreeSet.mem_insert, LawfulEqOrd.compare_eq_iff_eq, eq_comm (a := ActuatorId.valve z.id)]
      tauto
    case isFalse hsoil => tauto

end Irrigate

theorem co2Run_cases (trusted : TrustedState) (resolved : ResolvedSetpoints) (cmd : Commands)
    (failClosed : TreeSet ActuatorId) :
    ∃ level : F64, level.IsPct ∧ (trusted.co2 = none → level = 0) ∧
      co2Run trusted resolved cmd failClosed = (cmd.set (.house .co2Injector) level,
        if trusted.co2 = none then failClosed.insert (.house .co2Injector) else failClosed) := by
  unfold co2Run
  cases trusted.co2 with
  | none => exact ⟨0, F64.isPct_zero, fun _ => rfl, rfl⟩
  | some c =>
    refine ⟨_, ?_, fun h => (Option.some_ne_none _ h).elim, rfl⟩
    split
    · exact F64.isPct_zero
    · exact isPct_pctIf

/-- What the control layer writes, loop after loop. -/
theorem run_cases [Libm] {s : ControlState} {trusted : TrustedState}
    {resolved : ResolvedSetpoints} {config : Config} {clock : Clock} {out : ControlOutput}
    (h : s.run trusted resolved config clock = some out) :
    ∃ (heater cooling misters injector lights shade : F64) (acc : Irrigation),
      heater.IsPct ∧ injector.IsPct ∧ (trusted.co2 = none → injector = 0) ∧
      acc.zones = s.zones ∧
      acc.cmd = (((((Commands.allOff (config.zones.map (·.id))).set (.house .heater) heater).set
        (.house .fans) cooling).set (.house .roofVents) cooling).set (.house .misters) misters).set
        (.house .co2Injector) injector ∧
      acc.failClosed = (if trusted.co2 = none then
        (∅ : TreeSet ActuatorId).insert (.house .co2Injector) else ∅) ∧
      out.cmd = ((config.zones.foldl (irrigate trusted clock) acc).cmd.set (.house .growLights)
        lights).set (.house .shadeScreen) shade ∧
      out.failClosed = (config.zones.foldl (irrigate trusted clock) acc).failClosed ∧
      out.state.zones = (config.zones.foldl (irrigate trusted clock) acc).zones := by
  obtain ⟨⟨temperature, cmd₁, faults⟩, htemp, h⟩ := Option.bind_eq_some_iff.1 h
  obtain ⟨⟨lighting, cmd₂⟩, hlight, h⟩ := Option.bind_eq_some_iff.1 h
  obtain ⟨heater, cooling, hheater, rfl⟩ := TemperatureLoop.run_cases htemp
  obtain ⟨⟨lights, shade⟩, -, hcmd⟩ := Option.bind_eq_some_iff.1 hlight
  cases hcmd
  cases h
  obtain ⟨injector, hinjector, hblind, hco2⟩ := co2Run_cases trusted resolved
    (s.humidity.run trusted resolved _).2 ∅
  exact ⟨heater, cooling, _, injector, lights, shade, ⟨s.zones, _, _⟩, hheater, hinjector, hblind,
    rfl, congrArg Prod.fst hco2, congrArg Prod.snd hco2, rfl, rfl, rfl⟩

section Commanded

variable [Libm] {s : ControlState} {trusted : TrustedState} {resolved : ResolvedSetpoints}
  {config : Config} {clock : Clock} {out : ControlOutput}

/-- The loops command a percentage on the heater. -/
theorem run_heater (h : s.run trusted resolved config clock = some out) :
    (out.cmd.get (.house .heater)).IsPct := by
  obtain ⟨heater, cooling, misters, injector, lights, shade, acc, hheater, -, -, -, hacc, -, hcmd,
    -⟩ := run_cases h
  rw [hcmd, Commands.get_set_of_ne (by decide), Commands.get_set_of_ne (by decide),
    irrigate_get_house, hacc, Commands.get_set_of_ne (by decide),
    Commands.get_set_of_ne (by decide), Commands.get_set_of_ne (by decide),
    Commands.get_set_of_ne (by decide), Commands.get_set_self, hheater.clampPct_eq]
  exact hheater

/-- The loops command a percentage on the injector, `0` when the CO₂ is unknown. -/
theorem run_injector (h : s.run trusted resolved config clock = some out) :
    (out.cmd.get (.house .co2Injector)).IsPct ∧
      (trusted.co2 = none → out.cmd.get (.house .co2Injector) = 0) := by
  obtain ⟨heater, cooling, misters, injector, lights, shade, acc, -, hinjector, hblind, -, hacc, -,
    hcmd, -⟩ := run_cases h
  rw [hcmd, Commands.get_set_of_ne (by decide), Commands.get_set_of_ne (by decide),
    irrigate_get_house, hacc, Commands.get_set_self, hinjector.clampPct_eq]
  exact ⟨hinjector, hblind⟩

/-- The loops command a percentage on every valve. -/
theorem run_valve (h : s.run trusted resolved config clock = some out)
    (hzones : ∀ z ∈ config.zones, Keyed s.zones z.id) (zone : Slug) :
    (out.cmd.get (.valve zone)).IsPct := by
  obtain ⟨heater, cooling, misters, injector, lights, shade, acc, -, -, -, hkeys, hacc, -, hcmd,
    -⟩ := run_cases h
  rw [hcmd, Commands.get_set_of_ne ActuatorId.noConfusion,
    Commands.get_set_of_ne ActuatorId.noConfusion]
  refine irrigate_isPct (by rwa [hkeys]) ?_
  rw [hacc]
  simp only [Commands.get_set_of_ne (ActuatorId.noConfusion : ActuatorId.house _ ≠ .valve _),
    Commands.get_allOff]
  exact F64.isPct_zero

/-- The loops shut the valve of a zone whose soil moisture is unknown. -/
theorem run_valve_blind (h : s.run trusted resolved config clock = some out)
    (hzones : ∀ z ∈ config.zones, Keyed s.zones z.id) {zone : Zone} (hz : zone ∈ config.zones)
    (hsoil : soilOf trusted zone.id = none) : out.cmd.get (.valve zone.id) = 0 := by
  obtain ⟨heater, cooling, misters, injector, lights, shade, acc, -, -, -, hkeys, -, -, hcmd, -⟩ :=
    run_cases h
  rw [hcmd, Commands.get_set_of_ne ActuatorId.noConfusion,
    Commands.get_set_of_ne ActuatorId.noConfusion]
  exact irrigate_blind (by rwa [hkeys]) hsoil (Or.inl (List.mem_map_of_mem hz))

/-- What the loops fail closed: the injector when the CO₂ is unknown, and the valve of every
zone whose soil moisture is. -/
theorem mem_failClosed (h : s.run trusted resolved config clock = some out)
    (hzones : ∀ z ∈ config.zones, Keyed s.zones z.id) {id : ActuatorId} :
    id ∈ out.failClosed ↔ (id = .house .co2Injector ∧ trusted.co2 = none) ∨
      ∃ z ∈ config.zones, id = .valve z.id ∧ soilOf trusted z.id = none := by
  obtain ⟨heater, cooling, misters, injector, lights, shade, acc, -, -, -, hkeys, -, hfail, -, hout,
    -⟩ := run_cases h
  rw [hout, mem_failClosed_irrigate (by rwa [hkeys]), hfail]
  refine or_congr_left ?_
  split
  case isTrue hco2 =>
    rw [TreeSet.mem_insert, LawfulEqOrd.compare_eq_iff_eq, eq_comm]
    simp [hco2, TreeSet.not_mem_emptyc]
  case isFalse hco2 => simp [hco2, TreeSet.not_mem_emptyc]

/-- The loops keep the scheduler of every zone. -/
theorem run_keyed (h : s.run trusted resolved config clock = some out)
    (hzones : ∀ z ∈ config.zones, Keyed s.zones z.id) {zone : Slug} (hz : Keyed s.zones zone) :
    Keyed out.state.zones zone := by
  obtain ⟨heater, cooling, misters, injector, lights, shade, acc, -, -, -, hkeys, -, -, -, -,
    hout⟩ := run_cases h
  rw [hout]
  exact keyed_foldl (by rwa [hkeys]) (by rwa [hkeys])

/-- The loops command a level for every house actuator. -/
theorem run_mem_ids (h : s.run trusted resolved config clock = some out) {a : Actuator}
    (ha : a ∈ houseActuators) : .house a ∈ out.cmd.ids := by
  obtain ⟨heater, cooling, misters, injector, lights, shade, acc, -, -, -, -, hacc, -, hcmd, -⟩ :=
    run_cases h
  rw [hcmd, Commands.mem_ids_set, Commands.mem_ids_set]
  by_cases hlate : a = .growLights ∨ a = .shadeScreen
  · rcases hlate with rfl | rfl
    · exact Or.inr (Or.inl rfl)
    · exact Or.inl rfl
  · refine Or.inr (Or.inr (irrigate_mem_ids acc ?_))
    rw [hacc]
    simp only [Commands.mem_ids_set]
    cases a <;> simp_all [houseActuators]

/-- The loops command a level for the valve of every zone. -/
theorem run_mem_ids_valve (h : s.run trusted resolved config clock = some out) {zone : Slug}
    (hz : zone ∈ config.zones.map (·.id)) : .valve zone ∈ out.cmd.ids := by
  obtain ⟨heater, cooling, misters, injector, lights, shade, acc, -, -, -, -, hacc, -, hcmd, -⟩ :=
    run_cases h
  rw [hcmd, Commands.mem_ids_set, Commands.mem_ids_set]
  refine Or.inr (Or.inr (irrigate_mem_ids acc ?_))
  rw [hacc]
  simp only [Commands.mem_ids_set, Commands.valve_mem_ids_allOff, hz, or_true]

end Commanded

end ControlState

end Greenhouse.Controller
