import Greenhouse.Controller.Overrides
import Greenhouse.Controller.Interlocks
import Greenhouse.Controller.Health
import Greenhouse.Controller.Constraints

/-!
# The tick pipeline

`Pipeline.tick` runs the six stages in order over a backend `H`, drives the backend and
returns the committed snapshot. `none` is a panic: a `clamp` whose bounds are out of
order or not numbers.

* `tick_cases`, `tick_advanced`: the inversion of a tick, through which every later result
  reads it.
* `applySetpoints`, `applyZone`: the runtime writes of the configuration.
-/

namespace Greenhouse.Controller

open Greenhouse.Numeric Std

/-- The consistent post-tick view of the controller. -/
structure Snapshot where
  tickIndex : Nat
  simSeconds : Nat
  trusted : TrustedState
  resolved : ResolvedSetpoints
  commanded : Commands
  observed : Observed
  overrides : TreeMap ActuatorId Override
  faults : List Fault
  mode : Mode
  dliMol : F64

/-- The controller pipeline over a backend, with all its across-tick state. -/
structure Pipeline (H : Type) where
  config : Config
  hal : H
  clock : Clock
  sensing : SensingState
  control : ControlState
  overrides : OverrideState := {}
  interlocks : InterlockState := {}
  constraints : ConstraintState
  health : HealthState := {}
  prevCommanded : Option Commands := none

/-- Force every actuator of the list off. -/
def forceOff (ids : List ActuatorId) (f : Forcing) : Forcing :=
  ids.foldl (fun f id => { cmd := f.cmd.set id 0, forced := f.forced.insert id }) f

theorem forceOff_get {ids : List ActuatorId} {id : ActuatorId} :
    ∀ f : Forcing, (forceOff ids f).cmd.get id = if id ∈ ids then 0 else f.cmd.get id := by
  induction ids with
  | nil => exact fun f => rfl
  | cons i ids ih =>
    intro f
    change (forceOff ids _).cmd.get id = _
    rw [ih, Commands.get_set, F64.clampPct_zero]
    by_cases hi : i = id
    · simp [hi]
    · simp [hi, Ne.symm hi]

theorem mem_forceOff_forced {ids : List ActuatorId} {id : ActuatorId} :
    ∀ f : Forcing, id ∈ (forceOff ids f).forced ↔ id ∈ ids ∨ id ∈ f.forced := by
  induction ids with
  | nil => simp [forceOff]
  | cons i ids ih =>
    intro f
    change id ∈ (forceOff ids _).forced ↔ _
    rw [ih, TreeSet.mem_insert, LawfulEqOrd.compare_eq_iff_eq, List.mem_cons, or_left_comm,
      or_assoc, eq_comm (a := i)]

theorem mem_ids_forceOff {ids : List ActuatorId} {id : ActuatorId} :
    ∀ {f : Forcing}, id ∈ f.cmd.ids → id ∈ (forceOff ids f).cmd.ids := by
  induction ids with
  | nil => exact fun h => h
  | cons i ids ih => exact fun h => ih (Commands.mem_ids_set.2 (Or.inr h))

namespace Pipeline

variable {H : Type}

/-- A pipeline with an explicit starting clock. -/
def withClock (config : Config) (hal : H) (clock : Clock) : Pipeline H where
  config := config
  hal := hal
  clock := clock
  sensing := SensingState.new (config.zones.map (·.id))
  control := ControlState.new config
  constraints := ConstraintState.new config

/-- A pipeline whose clock starts at midnight. -/
def new (config : Config) (hal : H) : Pipeline H := withClock config hal Clock.new

section Tick

variable [Libm] [Hal H]

/-- The sensor side of the first stage. -/
def conditioned (p : Pipeline H) : SensingState × TrustedState × List Fault :=
  p.sensing.condition (Hal.read p.hal) p.config.sensing

def trusted (p : Pipeline H) : TrustedState := p.conditioned.2.1

/-- The output side: the readback before this tick against the previous command. -/
def monitored (p : Pipeline H) (resolved : ResolvedSetpoints) : HealthState × List Fault :=
  p.health.monitor p.prevCommanded (Hal.observed p.hal) p.trusted resolved p.config.sensing

/-- Overrides, then interlocks, over the loops' output. -/
def locked (p : Pipeline H) (loops : ControlOutput) : InterlockState × Forcing × List Fault :=
  p.interlocks.apply p.trusted p.config p.clock ((p.overrides.expire p.clock).apply loops.cmd)

/-- The health disables, over the interlocked command. -/
def safe (p : Pipeline H) (resolved : ResolvedSetpoints) (loops : ControlOutput) : Forcing :=
  forceOff (p.monitored resolved).1.disabled.toList (p.locked loops).2.1

/-- The command the next tick's readback is judged against: the one sent, except that a
disabled actuator is judged against the one intended. -/
def baseline (disabled : TreeSet ActuatorId) (intended cmd : Commands) : Commands :=
  disabled.toList.foldl (fun prev id => prev.set id (intended.get id)) cmd

/-- Run one tick. -/
def tick (p : Pipeline H) : Option (Pipeline H × Snapshot) := do
  let resolved ← resolve p.config.setpoints p.clock p.trusted.temperature
  let (health, healthFaults) := p.monitored resolved
  let loops ← p.control.run p.trusted resolved p.config p.clock
  let overrides := p.overrides.expire p.clock
  let (interlocks, intended, interlockFaults) := p.locked loops
  let safe := p.safe resolved loops
  let (constraints, cmd) ← p.constraints.apply safe.cmd (safe.forced ∪ loops.failClosed)
  let hal := Hal.step (Hal.command p.hal cmd) p.clock
  let faults := p.conditioned.2.2 ++ healthFaults ++ loops.faults ++ interlockFaults
  let snapshot := {
    tickIndex := p.clock.tickIndex
    simSeconds := p.clock.simSeconds
    trusted := p.trusted
    resolved := resolved
    commanded := cmd
    observed := Hal.observed hal
    overrides := overrides.active
    faults := faults
    mode := Mode.fromFaults faults
    dliMol := loops.state.lighting.accumulatedMol }
  return ({
    config := p.config
    hal := hal
    clock := p.clock.advance
    sensing := p.conditioned.1
    control := loops.state
    overrides := overrides
    interlocks := interlocks
    constraints := constraints
    health := health
    prevCommanded := some (baseline health.disabled intended.cmd cmd) }, snapshot)

end Tick

/-! ## Runtime writes -/

def applySetpoints (p : Pipeline H) (setpoints : Setpoints) : Pipeline H :=
  { p with config := { p.config with setpoints := setpoints } }

/-- Replace the first zone with the id of the update. -/
def replaceZone (updated : Zone) : List Zone → List Zone
  | [] => []
  | z :: zs => if z.id = updated.id then updated :: zs else z :: replaceZone updated zs

/-- An update keeps the zones of the configuration. -/
theorem map_id_replaceZone (updated : Zone) (zones : List Zone) :
    (replaceZone updated zones).map (·.id) = zones.map (·.id) := by
  induction zones with
  | nil => rfl
  | cons zone zones ih =>
    rw [replaceZone]
    by_cases hid : zone.id = updated.id
    · rw [if_pos hid, List.map_cons, List.map_cons, hid]
    · rw [if_neg hid, List.map_cons, List.map_cons, ih]

def applyZone (p : Pipeline H) (updated : Zone) : Pipeline H :=
  { p with config := { p.config with zones := replaceZone updated p.config.zones } }

def setOverride (p : Pipeline H) (id : ActuatorId) (level : F64) (ttlSecs : Nat) : Pipeline H :=
  { p with overrides := p.overrides.set id level p.clock ttlSecs }

def clearOverride (p : Pipeline H) (id : ActuatorId) : Pipeline H :=
  { p with overrides := p.overrides.clear id }

/-- The baseline of an actuator: the level intended for it if it is disabled, else the level
sent. -/
theorem baseline_get (disabled : TreeSet ActuatorId) (intended cmd : Commands) (id : ActuatorId) :
    (baseline disabled intended cmd).get id =
      if id ∈ disabled then (intended.get id).clampPct else cmd.get id := by
  have step : ∀ (l : List ActuatorId) (c : Commands),
      (l.foldl (fun prev i => prev.set i (intended.get i)) c).get id =
        if id ∈ l then (intended.get id).clampPct else c.get id := by
    intro l
    induction l with
    | nil => exact fun c => rfl
    | cons i l ih =>
      intro c
      rw [List.foldl_cons, ih, Commands.get_set]
      by_cases hi : i = id
      · simp [hi]
      · simp [hi, Ne.symm hi]
  rw [baseline, step]
  simp only [TreeSet.mem_toList]

/-! ## The inversion of a tick -/

/-- What a tick from `p` to `p'` with snapshot `snap` has gone through. -/
structure Ticked [Libm] [Hal H] (p p' : Pipeline H) (snap : Snapshot) (loops : ControlOutput) :
    Prop where
  run : p.control.run p.trusted snap.resolved p.config p.clock = some loops
  shaped : p.constraints.apply (p.safe snap.resolved loops).cmd
    ((p.safe snap.resolved loops).forced ∪ loops.failClosed) =
      some (p'.constraints, snap.commanded)
  trusted : snap.trusted = p.trusted
  config : p'.config = p.config
  clock : p'.clock = p.clock.advance
  control : p'.control = loops.state
  active : snap.overrides = (p.overrides.expire p.clock).active
  overrides : p'.overrides = p.overrides.expire p.clock
  interlocks : p'.interlocks = (p.locked loops).1
  health : p'.health = (p.monitored snap.resolved).1

variable [Libm] [Hal H] {p p' : Pipeline H} {snap : Snapshot}

/-- **Inversion of a tick.** -/
theorem tick_cases (h : p.tick = some (p', snap)) : ∃ loops, Ticked p p' snap loops := by
  obtain ⟨resolved, -, h⟩ := Option.bind_eq_some_iff.1 h
  obtain ⟨loops, hloops, h⟩ := Option.bind_eq_some_iff.1 h
  obtain ⟨⟨constraints, cmd⟩, hshaped, h⟩ := Option.bind_eq_some_iff.1 h
  obtain ⟨rfl, rfl⟩ := Prod.mk.inj (Option.some.inj h)
  exact ⟨loops, hloops, hshaped, rfl, rfl, rfl, rfl, rfl, rfl, rfl, rfl⟩

/-- What a tick reports and hands on, besides what it has gone through: `snap` has its faults,
`p'` the baseline the next readback is judged against. -/
structure Advanced [Libm] [Hal H] (p p' : Pipeline H) (snap : Snapshot) (loops : ControlOutput) :
    Prop extends Ticked p p' snap loops where
  resolve : resolve p.config.setpoints p.clock p.trusted.temperature = some snap.resolved
  sensing : p'.sensing = p.conditioned.1
  hal : p'.hal = Hal.step (Hal.command p.hal snap.commanded) p.clock
  observed : snap.observed = Hal.observed p'.hal
  tickIndex : snap.tickIndex = p.clock.tickIndex
  simSeconds : snap.simSeconds = p.clock.simSeconds
  faults : snap.faults = p.conditioned.2.2 ++ (p.monitored snap.resolved).2 ++ loops.faults ++
    (p.locked loops).2.2
  mode : snap.mode = Mode.fromFaults snap.faults
  prevCommanded : p'.prevCommanded = some (baseline (p.monitored snap.resolved).1.disabled
    (p.locked loops).2.1.cmd snap.commanded)

/-- **Inversion of a tick**, with its report. -/
theorem tick_advanced (h : p.tick = some (p', snap)) : ∃ loops, Advanced p p' snap loops := by
  obtain ⟨resolved, hresolve, h⟩ := Option.bind_eq_some_iff.1 h
  obtain ⟨loops, hloops, h⟩ := Option.bind_eq_some_iff.1 h
  obtain ⟨⟨constraints, cmd⟩, hshaped, h⟩ := Option.bind_eq_some_iff.1 h
  obtain ⟨rfl, rfl⟩ := Prod.mk.inj (Option.some.inj h)
  exact ⟨loops, ⟨hloops, hshaped, rfl, rfl, rfl, rfl, rfl, rfl, rfl, rfl⟩, hresolve, rfl, rfl, rfl,
    rfl, rfl, rfl, rfl, rfl⟩

end Pipeline

end Greenhouse.Controller
