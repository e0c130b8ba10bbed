import Greenhouse.Controller.Pipeline
import Greenhouse.Process.Run

/-!
# Sessions of the pipeline

A session is a pipeline together with the snapshot it committed last; its events are
ticks, runtime writes, and arbitrary changes of the backend between ticks. `Sound` is the
invariant of every session of an accepted configuration (`sound_run`), and
`tick_shape` says how the levels of a tick come from those of the tick before.
-/

namespace Greenhouse.Controller

open Greenhouse.Numeric Greenhouse.Process Std

variable {H : Type}

/-- A pipeline, with the snapshot of its last tick. -/
structure Session (H : Type) where
  pipeline : Pipeline H
  last : Option Snapshot := none

/-- What can happen to a pipeline. An override comes through the REST surface, which admits
a level between `0` and `100` only; the backend may change in any way. -/
inductive Event (H : Type) where
  | tick
  | setSetpoints (setpoints : Setpoints)
  | setZone (zone : Zone)
  | setOverride (id : ActuatorId) (level : F64) (isPct : level.IsPct) (ttlSecs : Nat)
  | clearOverride (id : ActuatorId)
  | plant (hal : H)

def Event.isTick : Event H → Bool
  | .tick => true
  | _ => false

namespace Session

/-- The session of a pipeline that has not ticked yet. -/
def start (cfg : Config) (hal : H) (clock : Clock) : Session H where
  pipeline := Pipeline.withClock cfg hal clock

/-- The level last committed for an actuator, `0` before the first tick. -/
def committed (r : Session H) (id : ActuatorId) : F64 :=
  match r.last with
  | some snap => snap.commanded.get id
  | none => 0

variable [Libm] [Hal H]

/-- What an event does; a tick that panics does nothing further. -/
def step? (r : Session H) : Event H → Option (Session H)
  | .tick => r.pipeline.tick.map fun (p, snap) => { pipeline := p, last := some snap }
  | .setSetpoints setpoints => some { r with pipeline := r.pipeline.applySetpoints setpoints }
  | .setZone zone => some { r with pipeline := r.pipeline.applyZone zone }
  | .setOverride id level _ ttlSecs =>
    some { r with pipeline := r.pipeline.setOverride id level ttlSecs }
  | .clearOverride id => some { r with pipeline := r.pipeline.clearOverride id }
  | .plant hal => some { r with pipeline := { r.pipeline with hal := hal } }

/-- One event of a session. -/
def Step (r : Session H) (e : Event H) (r' : Session H) : Prop := r.step? e = some r'

end Session

/-! ## One tick -/

namespace Pipeline.Ticked

variable [Libm] [Hal H] {p p' : Pipeline H} {snap : Snapshot} {loops : ControlOutput}

/-- Every house actuator is in the command that reaches the constraints. -/
theorem mem_ids (h : Ticked p p' snap loops) {a : Actuator} (ha : a ∈ houseActuators) :
    .house a ∈ (p.safe snap.resolved loops).cmd.ids :=
  mem_ids_forceOff (InterlockState.mem_ids_apply (OverrideState.mem_ids_apply
    (ControlState.run_mem_ids h.run ha)))

/-- The valve of every zone is in it too. -/
theorem mem_ids_valve (h : Ticked p p' snap loops) {z : Slug} (hz : z ∈ p.config.zones.map (·.id)) :
    .valve z ∈ (p.safe snap.resolved loops).cmd.ids :=
  mem_ids_forceOff (InterlockState.mem_ids_apply (OverrideState.mem_ids_apply
    (ControlState.run_mem_ids_valve h.run hz)))

/-- The level of an actuator of the command is the shaped one. -/
theorem shape_of_mem (h : Ticked p p' snap loops) {id : ActuatorId}
    (hid : id ∈ (p.safe snap.resolved loops).cmd.ids) :
    Controller.shape (p.constraints.applied.getD id {}) ((p.safe snap.resolved loops).cmd.get id)
      (p.constraints.constraintsFor id)
      (((p.safe snap.resolved loops).forced ∪ loops.failClosed).contains id) =
        some (p'.constraints.applied.getD id {}, snap.commanded.get id) :=
  (ConstraintState.apply_shapes h.shaped).shaped id hid

/-- The level of a house actuator is the shaped one. -/
theorem shape (h : Ticked p p' snap loops) {a : Actuator} (ha : a ∈ houseActuators) :
    Controller.shape (p.constraints.applied.getD (.house a) {})
      ((p.safe snap.resolved loops).cmd.get (.house a)) (p.constraints.constraintsFor (.house a))
      (((p.safe snap.resolved loops).forced ∪ loops.failClosed).contains (.house a)) =
        some (p'.constraints.applied.getD (.house a) {}, snap.commanded.get (.house a)) :=
  h.shape_of_mem (h.mem_ids ha)

theorem applied_level (h : Ticked p p' snap loops) {a : Actuator} (ha : a ∈ houseActuators) :
    (p'.constraints.applied.getD (.house a) {}).level = snap.commanded.get (.house a) := by
  rw [(shape_eq_some (h.shape ha)).2.1]
  rfl

/-- An actuator forced by an interlock, or disabled, has its dwell waived. -/
theorem waived (_ : Ticked p p' snap loops) {a : Actuator}
    (hf : .house a ∈ (p.safe snap.resolved loops).forced) :
    ((p.safe snap.resolved loops).forced ∪ loops.failClosed).contains (.house a) = true :=
  TreeSet.mem_union_of_left hf

/-- A disabled actuator is sent to `0` with its dwell waived. -/
theorem disabled (_ : Ticked p p' snap loops) {id : ActuatorId}
    (hd : id ∈ (p.monitored snap.resolved).1.disabled) :
    (p.safe snap.resolved loops).cmd.get id = 0 ∧ id ∈ (p.safe snap.resolved loops).forced := by
  have hmem := TreeSet.mem_toList.2 hd
  refine ⟨?_, (mem_forceOff_forced _).2 (Or.inl hmem)⟩
  rw [safe, forceOff_get, if_pos hmem]

/-- An actuator that is not disabled keeps what the interlocks forced. -/
theorem forced (_ : Ticked p p' snap loops) {a : Actuator} {v : F64}
    (hf : (p.locked loops).2.1.Forces a v)
    (hd : .house a ∉ (p.monitored snap.resolved).1.disabled) :
    (p.safe snap.resolved loops).cmd.get (.house a) = v ∧
      .house a ∈ (p.safe snap.resolved loops).forced := by
  have hmem : .house a ∉ (p.monitored snap.resolved).1.disabled.toList :=
    fun h => hd (TreeSet.mem_toList.1 h)
  refine ⟨?_, (mem_forceOff_forced _).2 (Or.inr hf.2)⟩
  rw [safe, forceOff_get, if_neg hmem]
  exact hf.1

/-- An actuator the interlocks force off is off, disabled or not. -/
theorem forced_off (h : Ticked p p' snap loops) {a : Actuator}
    (hf : (p.locked loops).2.1.Forces a 0) :
    (p.safe snap.resolved loops).cmd.get (.house a) = 0 ∧
      .house a ∈ (p.safe snap.resolved loops).forced := by
  by_cases hd : .house a ∈ (p.monitored snap.resolved).1.disabled
  · exact h.disabled hd
  · exact h.forced hf hd

/-- A tick keeps the percentages of the loops' command up to the constraints. -/
theorem safe_isPct (_ : Ticked p p' snap loops) (ho : p.overrides.LevelsPct) {id : ActuatorId}
    (hid : (loops.cmd.get id).IsPct) : ((p.safe snap.resolved loops).cmd.get id).IsPct := by
  rw [safe, forceOff_get]
  split
  · exact F64.isPct_zero
  · exact InterlockState.apply_isPct ((ho.expire p.clock).get_apply hid)

end Pipeline.Ticked

/-! ## The invariant -/

/-- The invariant of the sessions of configuration `cfg`. -/
structure Sound (cfg : Config) (r : Session H) : Prop where
  safety : r.pipeline.config.safety = cfg.safety
  sensing : r.pipeline.config.sensing = cfg.sensing
  constraints : r.pipeline.constraints.constraints = (ConstraintState.new cfg).constraints
  overrides : r.pipeline.overrides.LevelsPct
  applied : ∀ a ∈ houseActuators,
    (r.pipeline.constraints.applied.getD (.house a) {}).level = r.committed (.house a)
  heater : (r.committed (.house .heater)).IsPct
  injector : (r.committed (.house .co2Injector)).IsPct
  number : ∀ a ∈ houseActuators, r.committed (.house a) = .nan ∨ (r.committed (.house a)).IsPct

/-- The constraints a configuration gives an actuator. -/
def Config.constraintsFor (cfg : Config) (id : ActuatorId) : Constraints :=
  (ConstraintState.new cfg).constraintsFor id

theorem Config.Valid.constraintsFor {cfg : Config} (h : cfg.Valid) (id : ActuatorId) :
    (cfg.constraintsFor id).RatesPositive :=
  ConstraintState.ratesPositive_new h id

namespace Sound

variable {cfg : Config} {r r' : Session H}

theorem constraintsFor (h : Sound cfg r) (id : ActuatorId) :
    r.pipeline.constraints.constraintsFor id = cfg.constraintsFor id := by
  unfold Config.constraintsFor ConstraintState.constraintsFor
  rw [h.constraints]

theorem ratesPositive (hcfg : cfg.Valid) (h : Sound cfg r) :
    r.pipeline.constraints.RatesPositive := by
  intro id
  rw [h.constraintsFor]
  exact hcfg.constraintsFor id

theorem start (cfg : Config) (hal : H) (clock : Clock) :
    Sound cfg (Session.start cfg hal clock) where
  safety := rfl
  sensing := rfl
  constraints := rfl
  overrides := OverrideState.levelsPct_empty
  applied := fun a _ => by
    change ((∅ : TreeMap ActuatorId Applied).getD (.house a) {}).level = 0
    rw [TreeMap.getD_emptyc]
  heater := F64.isPct_zero
  injector := F64.isPct_zero
  number := fun _ _ => Or.inr F64.isPct_zero

variable [Libm] [Hal H] {p' : Pipeline H} {snap : Snapshot} {loops : ControlOutput}

/-- The level a tick commits is shaped from the level committed before. -/
theorem tick_shape (h : Sound cfg r) (ht : Pipeline.Ticked r.pipeline p' snap loops)
    {a : Actuator} (ha : a ∈ houseActuators) :
    ∃ prev : Applied, prev.level = r.committed (.house a) ∧
      shapeLevel prev ((r.pipeline.safe snap.resolved loops).cmd.get (.house a))
        (cfg.constraintsFor (.house a))
        (((r.pipeline.safe snap.resolved loops).forced ∪ loops.failClosed).contains (.house a)) =
          some (snap.commanded.get (.house a)) := by
  have hshape := (shape_eq_some (ht.shape ha)).1
  rw [h.constraintsFor] at hshape
  exact ⟨_, h.applied a ha, hshape⟩

theorem tick_isPct (hcfg : cfg.Valid) (h : Sound cfg r)
    (ht : Pipeline.Ticked r.pipeline p' snap loops) {a : Actuator} (ha : a ∈ houseActuators)
    (hprev : (r.committed (.house a)).IsPct) (hloops : (loops.cmd.get (.house a)).IsPct) :
    (snap.commanded.get (.house a)).IsPct := by
  obtain ⟨prev, hlevel, hshape⟩ := h.tick_shape ht ha
  exact shapeLevel_isPct (hcfg.constraintsFor _) (hlevel ▸ hprev)
    (ht.safe_isPct h.overrides hloops) hshape

/-- A tick preserves the invariant. -/
theorem tick (hcfg : cfg.Valid) (h : Sound cfg r)
    (ht : Pipeline.Ticked r.pipeline p' snap loops) : Sound cfg ⟨p', some snap⟩ where
  safety := by rw [ht.config]; exact h.safety
  sensing := by rw [ht.config]; exact h.sensing
  constraints := (ConstraintState.apply_shapes ht.shaped).constraints.trans h.constraints
  overrides := by rw [ht.overrides]; exact h.overrides.expire _
  applied := fun _ ha => ht.applied_level ha
  heater := h.tick_isPct hcfg ht (by decide) h.heater (ControlState.run_heater ht.run)
  injector := h.tick_isPct hcfg ht (by decide) h.injector (ControlState.run_injector ht.run).1
  number := fun a ha => by
    change snap.commanded.get (.house a) = .nan ∨ (snap.commanded.get (.house a)).IsPct
    rw [← (shape_eq_some (ht.shape ha)).2.2]
    by_cases hnan : snap.commanded.get (.house a) = .nan
    · exact Or.inl (by rw [hnan, F64.clampPct_nan])
    · exact Or.inr (F64.isPct_clampPct hnan)

/-- Every event preserves the invariant. -/
theorem step (hcfg : cfg.Valid) {e : Event H} (h : Sound cfg r) (hs : Session.Step r e r') :
    Sound cfg r' := by
  cases e with
  | tick =>
    obtain ⟨⟨p, snap⟩, ht, rfl⟩ := Option.map_eq_some_iff.1 hs
    obtain ⟨loops, ht⟩ := Pipeline.tick_cases ht
    exact h.tick hcfg ht
  | setSetpoints =>
    cases hs
    exact { h with }
  | setZone =>
    cases hs
    exact { h with }
  | setOverride id level isPct ttlSecs =>
    cases hs
    exact { h with overrides := h.overrides.set isPct.ne_nan id _ ttlSecs }
  | clearOverride id =>
    cases hs
    exact { h with overrides := h.overrides.clear id }
  | plant =>
    cases hs
    exact { h with }

/-- **Every session of an accepted configuration is sound.** -/
theorem of_run (hcfg : cfg.Valid) {hal : H} {clock : Clock} {es : List (Event H)}
    (hr : Run Session.Step (Session.start cfg hal clock) es r) : Sound cfg r :=
  hr.invariant (I := Sound cfg) (fun _ _ _ h hs => h.step hcfg hs) (start cfg hal clock)

end Sound

end Greenhouse.Controller
