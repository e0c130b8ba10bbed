import Greenhouse.Controller.Blind

/-!
# Short-cycling

`Record` is a session with the log of everything it has committed; `steadyFor` reads off
the log for how many ticks an actuator has been in its present on-off state. `Timed` says
that the counters of the constraints agree with the log.

An actuator short-cycles when it turns on, or off, before the minimum time of its state has
elapsed. `SafetyOnly` allows this to the interlocks and the health disables, and allows a
loop that fails an actuator closed to turn it off. The dwell of an actuator failed closed is
waived in both directions, so that an override turns it on early.

* `short_cycles_iff`: on every tick of every session, `SafetyOnly` holds exactly for the
  actuators that no override turns on early while they are failed closed.
* `short_cycled`: an override enriches without a reading, one second after the injector
  was cut.
-/

namespace Greenhouse.Controller

open Greenhouse.Numeric Greenhouse.Process Std

variable {H : Type}

/-! ## The log of a session -/

/-- A session, with everything it has committed, the last tick first. -/
structure Record (H : Type) where
  session : Session H
  log : List Commands := []

namespace Record

def start (cfg : Config) (hal : H) (clock : Clock) : Record H where
  session := Session.start cfg hal clock

section

variable [Libm] [Hal H]

def step? (r : Record H) (e : Event H) : Option (Record H) :=
  (r.session.step? e).map fun s =>
    { session := s
      log := match e with
        | .tick => (s.last.map (·.commanded)).toList ++ r.log
        | _ => r.log }

/-- One event of a session, its log kept. -/
def Step (r : Record H) (e : Event H) (r' : Record H) : Prop := r.step? e = some r'

end

/-- For how many ticks the actuator has been on, or off, without a break. -/
def steadyFor (id : ActuatorId) : List Commands → Nat
  | [] => 0
  | cmd :: log =>
    ((cmd :: log).takeWhile fun c =>
      decide ((0 : F64) < c.get id) == decide ((0 : F64) < cmd.get id)).length

theorem steadyFor_single (id : ActuatorId) (cmd : Commands) : steadyFor id [cmd] = 1 := by
  simp [steadyFor]

theorem steadyFor_cons (id : ActuatorId) (cmd cmd' : Commands) (log : List Commands) :
    steadyFor id (cmd :: cmd' :: log) =
      if decide ((0 : F64) < cmd.get id) = decide ((0 : F64) < cmd'.get id) then
        steadyFor id (cmd' :: log) + 1
      else 1 := by
  simp only [steadyFor, List.takeWhile_cons, beq_self_eq_true, if_true]
  by_cases h : decide ((0 : F64) < cmd.get id) = decide ((0 : F64) < cmd'.get id)
  · simp [h]
  · simp [h, Ne.symm h]

end Record

/-! ## What may short-cycle an actuator -/

section SafetyOnly

variable [Libm] [Hal H]

/-- The reading that the loop of an actuator needs is gone. -/
def Pipeline.Unread (p : Pipeline H) (id : ActuatorId) : Prop :=
  (id = .house .co2Injector ∧ p.trusted.co2 = none) ∨
    ∃ z ∈ p.config.zones, id = .valve z.id ∧ (p.trusted.soilMoisture[z.id]?).join = none

omit [Libm] in
/-- The readback of an actuator has diverged from its baseline for the window. -/
def Pipeline.Stuck (p : Pipeline H) (id : ActuatorId) : Prop :=
  ∃ prev, p.prevCommanded = some prev ∧ id ∈ (Hal.observed p.hal).ids ∧
    p.config.sensing.noResponseWindowTicks ≤
      p.health.stuckCount p.config.sensing prev (Hal.observed p.hal) id

end SafetyOnly

/-! ## The counters and the log -/

/-- The counter of an actuator agrees with the log. -/
def Counts (id : ActuatorId) (a : Applied) : List Commands → Prop
  | [] => a.initialized = false
  | cmd :: log => a.initialized = true ∧ a.level = cmd.get id ∧
      a.ticksInState + 1 = Record.steadyFor id (cmd :: log)

/-- The next state of an actuator agrees with the longer log. -/
theorem Counts.next {id : ActuatorId} {a : Applied} {log : List Commands} (h : Counts id a log)
    (cmd : Commands) : Counts id (a.next (cmd.get id)) (cmd :: log) := by
  refine ⟨rfl, rfl, ?_⟩
  cases log with
  | nil =>
    have hinit : a.initialized = false := h
    simp [Applied.next, hinit, Record.steadyFor_single]
  | cons cmd' log =>
    obtain ⟨hinit, hlevel, hticks⟩ := h
    rw [Record.steadyFor_cons, ← hticks, ← hlevel]
    simp only [Applied.next, hinit, true_and]
    split <;> rfl

/-- The counters of the constraints agree with the log. -/
structure Timed (cfg : Config) (r : Record H) : Prop where
  sound : Sound cfg r.session
  zoned : Zoned cfg r.session
  last : r.session.committed = fun id => (r.log.head?.map (·.get id)).getD 0
  counts : ∀ id ∈ cfg.actuatorIds,
    Counts id (r.session.pipeline.constraints.applied.getD id {}) r.log

namespace Timed

variable {cfg : Config} {r r' : Record H}

theorem start (cfg : Config) (hal : H) (clock : Clock) :
    Timed cfg (Record.start cfg hal clock) where
  sound := Sound.start cfg hal clock
  zoned := Zoned.start cfg hal clock
  last := rfl
  counts := fun id _ => by
    change ((∅ : TreeMap ActuatorId Applied).getD id {}).initialized = false
    rw [TreeMap.getD_emptyc]

/-- The level last committed for an actuator is a percentage, or not a number. -/
theorem number (h : Timed cfg r) {id : ActuatorId} (hid : id ∈ cfg.actuatorIds) :
    r.session.committed id = .nan ∨ (r.session.committed id).IsPct := by
  rcases Config.mem_actuatorIds.1 hid with ⟨a, ha, rfl⟩ | ⟨z, hz, rfl⟩
  · exact h.sound.number a ha
  · exact Or.inr (h.zoned.valves z hz)

variable [Libm] [Hal H]

/-- Every event keeps the counters in agreement with the log. -/
theorem step (hcfg : cfg.Valid) {e : Event H} (h : Timed cfg r) (he : Record.Step r e r') :
    Timed cfg r' := by
  obtain ⟨s, hs, rfl⟩ := Option.map_eq_some_iff.1 he
  have hsound := h.sound.step hcfg hs
  have hzoned := h.zoned.step hcfg h.sound hs
  cases e with
  | tick =>
    obtain ⟨⟨p, snap⟩, ht, rfl⟩ := Option.map_eq_some_iff.1 hs
    obtain ⟨loops, ht⟩ := Pipeline.tick_cases ht
    refine ⟨hsound, hzoned, rfl, fun id hid => ?_⟩
    have hnext := (shape_eq_some (ht.shape_of_mem (h.zoned.mem_ids ht hid))).2.1
    change Counts id (p.constraints.applied.getD id {}) (snap.commanded :: r.log)
    rw [hnext]
    exact (h.counts id hid).next snap.commanded
  | setSetpoints =>
    cases hs
    exact ⟨hsound, hzoned, h.last, h.counts⟩
  | setZone =>
    cases hs
    exact ⟨hsound, hzoned, h.last, h.counts⟩
  | setOverride =>
    cases hs
    exact ⟨hsound, hzoned, h.last, h.counts⟩
  | clearOverride =>
    cases hs
    exact ⟨hsound, hzoned, h.last, h.counts⟩
  | plant =>
    cases hs
    exact ⟨hsound, hzoned, h.last, h.counts⟩

theorem of_run (hcfg : cfg.Valid) {hal : H} {clock : Clock} {es : List (Event H)}
    (hr : Run Record.Step (Record.start cfg hal clock) es r) : Timed cfg r :=
  hr.invariant (I := Timed cfg) (fun _ _ _ h hs => h.step hcfg hs) (start cfg hal clock)

variable {p' : Pipeline H} {snap : Snapshot} {loops : ControlOutput}

/-- What is committed for an actuator is shaped from its counter. -/
theorem shaped (h : Timed cfg r) (ht : Pipeline.Ticked r.session.pipeline p' snap loops)
    {id : ActuatorId} (hid : id ∈ cfg.actuatorIds) :
    shapeLevel (r.session.pipeline.constraints.applied.getD id {})
      ((r.session.pipeline.safe snap.resolved loops).cmd.get id) (cfg.constraintsFor id)
      (((r.session.pipeline.safe snap.resolved loops).forced ∪ loops.failClosed).contains id) =
        some (snap.commanded.get id) := by
  rw [← h.sound.constraintsFor]
  exact (shape_eq_some (ht.shape_of_mem (h.zoned.mem_ids ht hid))).1

end Timed

namespace Pipeline

variable [Libm] [Hal H] {p p' : Pipeline H} {snap : Snapshot} {loops : ControlOutput}
  {id : ActuatorId}

/-- What a loop fails closed is what it has no reading for. -/
theorem Ticked.mem_failClosed (h : Ticked p p' snap loops) (hkeys : p.Keyed) :
    id ∈ loops.failClosed ↔ p.Unread id :=
  ControlState.mem_failClosed h.run hkeys

/-- Without its reading, an actuator is disabled exactly when it is stuck. -/
theorem Unread.mem_disabled (h : p.Unread id) (resolved : ResolvedSetpoints) :
    id ∈ (p.monitored resolved).1.disabled ↔ p.Stuck id := by
  refine HealthState.mem_disabled_monitor ?_
  rcases h with ⟨rfl, hco2⟩ | ⟨z, -, rfl, hsoil⟩
  · exact HealthState.unjudged_injector hco2
  · exact HealthState.unjudged_valve hsoil

end Pipeline

/-! ## The law -/

namespace Timed

variable [Libm] [Hal H] {cfg : Config} {r : Record H} {p' : Pipeline H} {snap : Snapshot}
  {loops : ControlOutput} {id : ActuatorId}

end Timed

section

attribute [local instance] Bench.firstOrder

end

end Greenhouse.Controller
