import Greenhouse.Controller.Session
import Greenhouse.Controller.Bench

/-!
# Actuators whose reading is gone

The CO₂ loop and the irrigation schedulers fail their actuator closed when they have no
trusted reading. `Zoned` is the invariant of the sessions about the zones: their ids never
change, each has its scheduler, and the stage of the constraints has followed its valve.

* `Ticked.safe_failClosed`: the level that reaches the constraints for an actuator failed
  closed is that of its override, if it has one, and `0` otherwise.
* `committed_blind`: without an override, such an actuator goes off as fast as its rate
  allows, whatever its dwell.
-/

namespace Greenhouse.Controller

open Greenhouse.Numeric Greenhouse.Process Std

/-- The actuators of a configuration: those of the house, and the valves of its zones. -/
def Config.actuatorIds (cfg : Config) : List ActuatorId :=
  houseActuators.map .house ++ cfg.zones.map fun z => .valve z.id

theorem Config.mem_actuatorIds {cfg : Config} {id : ActuatorId} :
    id ∈ cfg.actuatorIds ↔ (∃ a ∈ houseActuators, id = .house a) ∨
      ∃ z ∈ cfg.zones.map (·.id), id = .valve z := by
  simp only [actuatorIds, List.mem_append, List.mem_map, exists_exists_and_eq_and,
    eq_comm (a := id)]

variable {H : Type}

/-! ## One tick -/

namespace Pipeline

/-- The override of an actuator on this tick. -/
def overriding (p : Pipeline H) (id : ActuatorId) : Option Override :=
  (p.overrides.expire p.clock).active[id]?

/-- Every zone has its scheduler. -/
def Keyed (p : Pipeline H) : Prop :=
  ∀ z ∈ p.config.zones, ControlState.Keyed p.control.zones z.id

namespace Ticked

variable [Libm] [Hal H] {p p' : Pipeline H} {snap : Snapshot} {loops : ControlOutput}

/-- The interlocks do not touch an actuator that a loop fails closed. -/
theorem not_forced_of_failClosed (h : Ticked p p' snap loops) (hkeys : p.Keyed) {id : ActuatorId}
    (hid : id ∈ loops.failClosed) : id ∉ (p.locked loops).2.1.forced := by
  intro hforced
  rcases InterlockState.apply_over.2 id hforced with hmem | ⟨rfl, hsome⟩
  · rcases (ControlState.mem_failClosed h.run hkeys).1 hid with ⟨rfl, -⟩ | ⟨z, -, rfl, -⟩
    · revert hmem
      decide
    · simp at hmem
  · rcases (ControlState.mem_failClosed h.run hkeys).1 hid with ⟨-, hnone⟩ | ⟨z, -, heq, -⟩
    · exact hsome hnone
    · cases heq

/-- A loop commands `0` to the actuators it fails closed. -/
theorem loops_failClosed (h : Ticked p p' snap loops) (hkeys : p.Keyed) {id : ActuatorId}
    (hid : id ∈ loops.failClosed) : loops.cmd.get id = 0 := by
  rcases (ControlState.mem_failClosed h.run hkeys).1 hid with ⟨rfl, hnone⟩ | ⟨z, hz, rfl, hsoil⟩
  · exact (ControlState.run_injector h.run).2 hnone
  · exact ControlState.run_valve_blind h.run hkeys hz hsoil

/-- **An actuator failed closed is at the level of its override, and off without one.** -/
theorem safe_failClosed (h : Ticked p p' snap loops) (hkeys : p.Keyed) {id : ActuatorId}
    (hid : id ∈ loops.failClosed) :
    (p.safe snap.resolved loops).cmd.get id =
      if id ∈ (p.monitored snap.resolved).1.disabled then 0
      else ((p.overriding id).map fun ov => ov.level.clampPct).getD 0 := by
  rw [safe, forceOff_get]
  simp only [TreeSet.mem_toList]
  refine if_congr Iff.rfl rfl ?_
  have hkept := InterlockState.apply_over.1.kept id (h.not_forced_of_failClosed hkeys hid)
  refine hkept.trans ?_
  rw [overriding]
  cases hov : (p.overrides.expire p.clock).active[id]? with
  | none =>
    have hmem : id ∉ (p.overrides.expire p.clock).active := by
      simp [TreeMap.mem_iff_isSome_getElem?, hov]
    rw [OverrideState.get_apply_of_not_mem hmem, h.loops_failClosed hkeys hid]
    rfl
  | some ov => exact OverrideState.get_apply_of_some hov

end Ticked

end Pipeline

/-! ## The invariant -/

/-- The invariant of the sessions of `cfg` about its zones. -/
structure Zoned (cfg : Config) (r : Session H) : Prop where
  ids : r.pipeline.config.zones.map (·.id) = cfg.zones.map (·.id)
  keyed : r.pipeline.Keyed
  applied : ∀ z ∈ cfg.zones.map (·.id),
    (r.pipeline.constraints.applied.getD (.valve z) {}).level = r.committed (.valve z)
  valves : ∀ z ∈ cfg.zones.map (·.id), (r.committed (.valve z)).IsPct

namespace Zoned

variable {cfg : Config} {r r' : Session H}

theorem start (cfg : Config) (hal : H) (clock : Clock) :
    Zoned cfg (Session.start cfg hal clock) where
  ids := rfl
  keyed := fun _ hz => ControlState.keyed_new hz
  applied := fun z _ => by
    change ((∅ : TreeMap ActuatorId Applied).getD (.valve z) {}).level = 0
    rw [TreeMap.getD_emptyc]
  valves := fun _ _ => F64.isPct_zero

theorem applied_level (hs : Sound cfg r) (h : Zoned cfg r) {id : ActuatorId}
    (hid : id ∈ cfg.actuatorIds) :
    (r.pipeline.constraints.applied.getD id {}).level = r.committed id := by
  rcases Config.mem_actuatorIds.1 hid with ⟨a, ha, rfl⟩ | ⟨z, hz, rfl⟩
  · exact hs.applied a ha
  · exact h.applied z hz

variable [Libm] [Hal H] {p' : Pipeline H} {snap : Snapshot} {loops : ControlOutput}

theorem tick (hcfg : cfg.Valid) (hs : Sound cfg r) (h : Zoned cfg r)
    (ht : Pipeline.Ticked r.pipeline p' snap loops) : Zoned cfg ⟨p', some snap⟩ where
  ids := by rw [ht.config]; exact h.ids
  keyed := fun z hz => by
    change z ∈ p'.config.zones at hz
    rw [ht.config] at hz
    change ControlState.Keyed p'.control.zones z.id
    rw [ht.control]
    exact ControlState.run_keyed ht.run h.keyed (h.keyed z hz)
  applied := fun z hz => by
    have hmem := ht.mem_ids_valve (h.ids ▸ hz)
    exact congrArg Applied.level (shape_eq_some (ht.shape_of_mem hmem)).2.1
  valves := fun z hz => by
    have hshape := (shape_eq_some (ht.shape_of_mem (ht.mem_ids_valve (h.ids ▸ hz)))).1
    rw [hs.constraintsFor] at hshape
    exact shapeLevel_isPct (hcfg.constraintsFor _) (h.applied z hz ▸ h.valves z hz)
      (ht.safe_isPct hs.overrides (ControlState.run_valve ht.run h.keyed z)) hshape

/-- Every event preserves the invariant. -/
theorem step (hcfg : cfg.Valid) {e : Event H} (hs : Sound cfg r) (h : Zoned cfg r)
    (he : Session.Step r e r') : Zoned cfg r' := by
  cases e with
  | tick =>
    obtain ⟨⟨p, snap⟩, ht, rfl⟩ := Option.map_eq_some_iff.1 he
    obtain ⟨loops, ht⟩ := Pipeline.tick_cases ht
    exact h.tick hcfg hs ht
  | setZone zone =>
    cases he
    have hids : (Pipeline.replaceZone zone r.pipeline.config.zones).map (·.id) =
        r.pipeline.config.zones.map (·.id) := Pipeline.map_id_replaceZone ..
    refine { h with ids := hids.trans h.ids, keyed := fun z hz => ?_ }
    have hmem : z.id ∈ r.pipeline.config.zones.map (·.id) := hids ▸ List.mem_map_of_mem hz
    obtain ⟨y, hy, heq⟩ := List.mem_map.1 hmem
    exact heq ▸ h.keyed y hy
  | setSetpoints =>
    cases he
    exact { h with }
  | setOverride =>
    cases he
    exact { h with }
  | clearOverride =>
    cases he
    exact { h with }
  | plant =>
    cases he
    exact { h with }

/-- **Every session of an accepted configuration keeps its zones.** -/
theorem of_run (hcfg : cfg.Valid) {hal : H} {clock : Clock} {es : List (Event H)}
    (hr : Run Session.Step (Session.start cfg hal clock) es r) : Sound cfg r ∧ Zoned cfg r :=
  hr.invariant (I := fun r => Sound cfg r ∧ Zoned cfg r)
    (fun _ _ _ h hs => ⟨h.1.step hcfg hs, h.2.step hcfg h.1 hs⟩)
    ⟨Sound.start cfg hal clock, start cfg hal clock⟩

theorem mem_ids (h : Zoned cfg r) (ht : Pipeline.Ticked r.pipeline p' snap loops)
    {id : ActuatorId} (hid : id ∈ cfg.actuatorIds) :
    id ∈ (r.pipeline.safe snap.resolved loops).cmd.ids := by
  rcases Config.mem_actuatorIds.1 hid with ⟨a, ha, rfl⟩ | ⟨z, hz, rfl⟩
  · exact ht.mem_ids ha
  · exact ht.mem_ids_valve (h.ids ▸ hz)

/-- What a loop fails closed is the injector or a valve, and at a percentage. -/
theorem failClosed_cases (hs : Sound cfg r) (h : Zoned cfg r)
    (ht : Pipeline.Ticked r.pipeline p' snap loops) {id : ActuatorId}
    (hid : id ∈ loops.failClosed) : id ∈ cfg.actuatorIds ∧ (r.committed id).IsPct := by
  rcases (ControlState.mem_failClosed ht.run h.keyed).1 hid with ⟨rfl, -⟩ | ⟨z, hz, rfl, -⟩
  · exact ⟨Config.mem_actuatorIds.2 (Or.inl ⟨_, by decide, rfl⟩), hs.injector⟩
  · have hmem : z.id ∈ cfg.zones.map (·.id) := h.ids ▸ List.mem_map_of_mem hz
    exact ⟨Config.mem_actuatorIds.2 (Or.inr ⟨_, hmem, rfl⟩), h.valves _ hmem⟩

/-- An actuator failed closed and not overridden goes off as fast as its rate allows. -/
theorem failClosed_off (hcfg : cfg.Valid) (hs : Sound cfg r) (h : Zoned cfg r)
    (ht : Pipeline.Ticked r.pipeline p' snap loops) {id : ActuatorId}
    (hid : id ∈ loops.failClosed) (hov : id ∉ snap.overrides) :
    snap.commanded.get id = (cfg.constraintsFor id).towardOff (r.committed id) := by
  obtain ⟨hmem, hpct⟩ := failClosed_cases hs h ht hid
  have hlevel := applied_level hs h hmem
  have hshape := (shape_eq_some (ht.shape_of_mem (h.mem_ids ht hmem))).1
  have hoff : (r.pipeline.safe snap.resolved loops).cmd.get id = 0 := by
    have hnone : r.pipeline.overriding id = none := by
      rw [Pipeline.overriding, ← ht.active]
      exact TreeMap.getElem?_eq_none hov
    rw [ht.safe_failClosed h.keyed hid, hnone]
    exact ite_self 0
  have hwaived : ((r.pipeline.safe snap.resolved loops).forced ∪ loops.failClosed).contains id =
      true := TreeSet.mem_union_of_right hid
  rw [hs.constraintsFor, hoff, hwaived, shapeLevel_off (hcfg.constraintsFor _)
    (Or.inl (hlevel ▸ hpct)), hlevel] at hshape
  exact (Option.some.inj hshape).symm

end Zoned

/-! ## Never enrich or water blind -/

section Blind

variable [Libm] [Hal H] {cfg : Config} {hal : H} {clock : Clock} {es : List (Event H)}
  {r : Session H} {p' : Pipeline H} {snap : Snapshot}

/-- **Never enrich or water blind.** Without a CO₂ reading the injector, and without a soil
moisture the valve of the zone, is off or on its way off at full rate, unless overridden. -/
theorem committed_blind (hcfg : cfg.Valid)
    (hr : Run Session.Step (Session.start cfg hal clock) es r)
    (ht : r.pipeline.tick = some (p', snap)) :
    (snap.trusted.co2 = none → .house .co2Injector ∉ snap.overrides →
      snap.commanded.get (.house .co2Injector) =
        (cfg.constraintsFor (.house .co2Injector)).towardOff
          (r.committed (.house .co2Injector))) ∧
    ∀ z ∈ r.pipeline.config.zones, (snap.trusted.soilMoisture[z.id]?).join = none →
      .valve z.id ∉ snap.overrides →
      snap.commanded.get (.valve z.id) =
        (cfg.constraintsFor (.valve z.id)).towardOff (r.committed (.valve z.id)) := by
  obtain ⟨hsound, hzoned⟩ := Zoned.of_run hcfg hr
  obtain ⟨loops, ht⟩ := Pipeline.tick_cases ht
  rw [ht.trusted]
  constructor
  · intro hnone hov
    refine hzoned.failClosed_off hcfg hsound ht ?_ hov
    exact (ControlState.mem_failClosed ht.run hzoned.keyed).2 (Or.inl ⟨rfl, hnone⟩)
  · intro z hz hnone hov
    refine hzoned.failClosed_off hcfg hsound ht ?_ hov
    exact (ControlState.mem_failClosed ht.run hzoned.keyed).2 (Or.inr ⟨z, hz, rfl, hnone⟩)

end Blind

section

attribute [local instance] Bench.firstOrder

/-- A house whose CO₂ reads `400` at first; it has no soil moisture reading. -/
def blindHouse : Session Bench.Plant :=
  Session.start (Bench.config {}) { readings := Bench.readings [0, 0, 0] 400 } Clock.new

/-- The CO₂ sensor reports no number from the third tick on. -/
def blindEvents : List (Event Bench.Plant) :=
  [.tick, .tick, .plant { readings := Bench.readings [0, 0, 0] .nan }]

/-- The injector has been on for two of its thirty seconds when its reading goes. -/
theorem committed_blind_bench :
    ∃ (r : Session Bench.Plant) (p' : Pipeline Bench.Plant) (snap : Snapshot),
      Run Session.Step blindHouse blindEvents r ∧ r.pipeline.tick = some (p', snap) ∧
      r.committed (.house .co2Injector) = 100 ∧
      snap.commanded.get (.house .co2Injector) = ((Bench.config {}).constraintsFor
        (.house .co2Injector)).towardOff (r.committed (.house .co2Injector)) ∧
      ∀ z ∈ r.pipeline.config.zones, snap.commanded.get (.valve z.id) =
        ((Bench.config {}).constraintsFor (.valve z.id)).towardOff (r.committed (.valve z.id)) := by
  have hrun : ((blindEvents.foldlM Session.step? blindHouse).bind fun r =>
      r.pipeline.tick.map fun t => decide (t.2.trusted.co2 = none ∧
        .house .co2Injector ∉ t.2.overrides ∧ r.committed (.house .co2Injector) = 100 ∧
        ∀ z ∈ r.pipeline.config.zones, (t.2.trusted.soilMoisture[z.id]?).join = none ∧
          .valve z.id ∉ t.2.overrides)) = some true := by
    decide +kernel
  obtain ⟨r, hr, h⟩ := Option.bind_eq_some_iff.1 hrun
  obtain ⟨⟨p', snap⟩, ht, h⟩ := Option.map_eq_some_iff.1 h
  obtain ⟨hco2, hov, hon, hzones⟩ := of_decide_eq_true h
  have hr := Run.of_foldlM hr
  have hboth := committed_blind Bench.config_valid hr ht
  exact ⟨r, p', snap, hr, ht, hon, hboth.1 hco2 hov,
    fun z hz => hboth.2 z hz (hzones z hz).1 (hzones z hz).2⟩

end

end Greenhouse.Controller
