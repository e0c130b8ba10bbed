import Greenhouse.Controller.Session
import Greenhouse.Controller.Bench

/-!
# What the back half of a tick guarantees

Results over every session of an accepted configuration: any readings and readbacks, any
runtime writes, any number of ticks.

* `committed_deenergized`: with no temperature or one above the critical limit the heater
  goes off as fast as its rate allows, and with CO₂ above the ceiling so does the
  injector.
* `committed_fullCooling`: while the critical-temperature interlock is asserted, fans and
  vents go to full as fast as their rate allows exactly when they are not disabled as
  jammed (and their level is a number); the same for the vents and the CO₂ ceiling.
  `fullCooling_loosened` is a session in which a jammed fan is turned down instead.
-/

namespace Greenhouse.Controller

open Greenhouse.Numeric Greenhouse.Process Std

/-- A house above its critical temperature of `-5` °C. -/
def frostHouse (co2 : F64) (jammed : Bool) : Session Bench.Plant :=
  Session.start (Bench.config Bench.frost)
    { readings := Bench.readings [0, 0, 0] co2, jammed := jammed } Clock.new

/-! ## De-energizing -/

section Deenergize

variable {H : Type} [Libm] [Hal H] {cfg : Config} {hal : H} {clock : Clock} {es : List (Event H)}
  {r : Session H} {p' : Pipeline H} {snap : Snapshot}

/-- An actuator the interlocks force off goes off as fast as its rate allows. -/
theorem Sound.forced_off (hcfg : cfg.Valid) (h : Sound cfg r) {loops : ControlOutput}
    (ht : Pipeline.Ticked r.pipeline p' snap loops) {a : Actuator} (ha : a ∈ houseActuators)
    (hprev : (r.committed (.house a)).IsPct)
    (hf : (r.pipeline.locked loops).2.1.Forces a 0) :
    snap.commanded.get (.house a) =
      (cfg.constraintsFor (.house a)).towardOff (r.committed (.house a)) := by
  obtain ⟨hzero, hforced⟩ := ht.forced_off hf
  obtain ⟨prev, hlevel, hshape⟩ := h.tick_shape ht ha
  rw [hzero, ht.waived hforced, shapeLevel_off (hcfg.constraintsFor _) (Or.inl (hlevel ▸ hprev)),
    hlevel] at hshape
  exact (Option.some.inj hshape).symm

/-- **De-energizing.** Without a temperature, or above the critical one, the heater is off or
on its way off at full rate; above the CO₂ ceiling the injector is. -/
theorem committed_deenergized (hcfg : cfg.Valid)
    (hr : Run Session.Step (Session.start cfg hal clock) es r)
    (ht : r.pipeline.tick = some (p', snap)) :
    ((snap.trusted.temperature = none ∨
        ∃ t, snap.trusted.temperature = some t ∧ cfg.safety.criticalTemperatureC < t) →
      snap.commanded.get (.house .heater) =
        (cfg.constraintsFor (.house .heater)).towardOff (r.committed (.house .heater))) ∧
    ((∃ c, snap.trusted.co2 = some c ∧ F64.ofNat cfg.safety.co2CeilingPpm < c) →
      snap.commanded.get (.house .co2Injector) =
        (cfg.constraintsFor (.house .co2Injector)).towardOff
          (r.committed (.house .co2Injector))) := by
  have hsound := Sound.of_run hcfg hr
  obtain ⟨loops, ht⟩ := Pipeline.tick_cases ht
  rw [ht.trusted]
  constructor
  · intro hunsafe
    refine hsound.forced_off hcfg ht (by decide) hsound.heater ?_
    rcases hunsafe with hnone | ⟨t, hsome, hover⟩
    · exact (InterlockState.apply_blind hnone).1
    · refine (InterlockState.apply_critical hsome ?_).1
      rw [InterlockState.apply_criticalTemperature, hsome]
      refine InterlockState.applyTemperature_over ?_ ?_
      · rw [hsound.safety]
        exact hcfg.rearm.1
      · rw [hsound.safety]
        exact hover
  · rintro ⟨c, hsome, hover⟩
    refine hsound.forced_off hcfg ht (by decide) hsound.injector ?_
    refine (InterlockState.apply_ceiling hsome ?_).2
    rw [InterlockState.apply_co2Ceiling, hsome]
    refine InterlockState.applyCo2_over ?_ ?_
    · rw [hsound.safety]
      exact hcfg.rearm.2
    · rw [InterlockState.ceilingPpm, hsound.safety]
      exact hover

end Deenergize

section

attribute [local instance] Bench.firstOrder

/-- A house above its critical temperature and its CO₂ ceiling, the heater overridden on. -/
theorem committed_deenergized_frost :
    ∃ (r : Session Bench.Plant) (p' : Pipeline Bench.Plant) (snap : Snapshot),
      Run Session.Step (frostHouse 6000 false)
        [.tick, .setOverride (.house .heater) 100 F64.isPct_hundred 60, .tick] r ∧
      r.pipeline.tick = some (p', snap) ∧
      snap.commanded.get (.house .heater) = ((Bench.config Bench.frost).constraintsFor
        (.house .heater)).towardOff (r.committed (.house .heater)) ∧
      snap.commanded.get (.house .co2Injector) = ((Bench.config Bench.frost).constraintsFor
        (.house .co2Injector)).towardOff (r.committed (.house .co2Injector)) := by
  have hrun : (([.tick, .setOverride (.house .heater) 100 F64.isPct_hundred 60,
      .tick].foldlM Session.step? (frostHouse 6000 false)).bind fun r =>
      r.pipeline.tick.map fun t => (t.2.trusted.temperature, t.2.trusted.co2)) =
        some (some 0, some 6000) := by
    decide +kernel
  obtain ⟨r, hr, h⟩ := Option.bind_eq_some_iff.1 hrun
  obtain ⟨⟨p', snap⟩, ht, h⟩ := Option.map_eq_some_iff.1 h
  obtain ⟨htemp, hco2⟩ := Prod.mk.inj h
  have hr := Run.of_foldlM hr
  have hboth := committed_deenergized Bench.frost_valid hr ht
  exact ⟨r, p', snap, hr, ht, hboth.1 (Or.inr ⟨0, htemp, by decide⟩),
    hboth.2 ⟨6000, hco2, by decide⟩⟩

end

/-! ## Full cooling -/

/-- The actuators of the cooling mode. -/
def coolingActuators : List Actuator := [.fans, .roofVents]

theorem cooling_mem_house {a : Actuator} (ha : a ∈ coolingActuators) : a ∈ houseActuators := by
  revert a
  decide

section FullCooling

variable {H : Type} [Libm] [Hal H] {cfg : Config} {hal : H} {clock : Clock} {es : List (Event H)}
  {r : Session H} {p' : Pipeline H} {snap : Snapshot}

/-- With this tick, the readback of the actuator has diverged from its baseline for the
no-response window. -/
def Jammed (cfg : Config) (r : Session H) (a : Actuator) : Prop :=
  ∃ prev ∈ r.pipeline.prevCommanded, .house a ∈ (Hal.observed r.pipeline.hal).ids ∧
    cfg.sensing.noResponseWindowTicks ≤
      r.pipeline.health.stuckCount cfg.sensing prev (Hal.observed r.pipeline.hal) (.house a)

instance (cfg : Config) (r : Session H) (a : Actuator) : Decidable (Jammed cfg r a) :=
  inferInstanceAs (Decidable (∃ prev ∈ r.pipeline.prevCommanded, _))

/-- A cooling actuator is disabled exactly when it is jammed. -/
theorem Sound.mem_disabled (h : Sound cfg r) {a : Actuator} (ha : a ∈ coolingActuators)
    (resolved : ResolvedSetpoints) :
    .house a ∈ (r.pipeline.monitored resolved).1.disabled ↔ Jammed cfg r a := by
  have hpush : HealthState.isPush (.house a) = false := by
    revert a
    decide
  rw [Pipeline.monitored,
    HealthState.mem_disabled_monitor (HealthState.unjudged_of_not_push hpush), h.sensing]
  rfl

/-- What the interlocks force to full is driven to full exactly when it is not jammed and its
level is a number, or it has no rate limit. -/
theorem Sound.forced_full (hcfg : cfg.Valid) (h : Sound cfg r) {loops : ControlOutput}
    (ht : Pipeline.Ticked r.pipeline p' snap loops) {a : Actuator} (ha : a ∈ coolingActuators)
    (hf : (r.pipeline.locked loops).2.1.Forces a 100) :
    snap.commanded.get (.house a) =
        (cfg.constraintsFor (.house a)).towardFull (r.committed (.house a)) ↔
      ¬ Jammed cfg r a ∧
        (r.committed (.house a) ≠ .nan ∨ (cfg.constraintsFor (.house a)).rate = none) := by
  have hhouse := cooling_mem_house ha
  have hrates := hcfg.constraintsFor (.house a)
  obtain ⟨prev, hlevel, hshape⟩ := h.tick_shape ht hhouse
  rw [← h.mem_disabled ha snap.resolved]
  by_cases hnum : r.committed (.house a) ≠ .nan ∨ (cfg.constraintsFor (.house a)).rate = none
  · have hpct : prev.level.IsPct ∨ (cfg.constraintsFor (.house a)).rate = none := by
      rw [hlevel]
      exact hnum.imp_left fun hne => (h.number a hhouse).resolve_left hne
    by_cases hd : .house a ∈ (r.pipeline.monitored snap.resolved).1.disabled
    · refine iff_of_false (fun heq => ?_) fun hn => hn.1 hd
      obtain ⟨hzero, hforced⟩ := ht.disabled hd
      rw [hzero, ht.waived hforced, heq, shapeLevel_off hrates hpct, hlevel] at hshape
      rw [hlevel] at hpct
      exact towardOff_ne_towardFull hrates hpct (Option.some.inj hshape)
    · refine iff_of_true ?_ ⟨hd, hnum⟩
      obtain ⟨hfull, hforced⟩ := ht.forced hf hd
      rw [hfull, ht.waived hforced, shapeLevel_full hrates hpct, hlevel] at hshape
      exact (Option.some.inj hshape).symm
  · refine iff_of_false (fun heq => ?_) fun hn => hnum hn.2
    obtain ⟨hnan, hrate⟩ := not_or.1 hnum
    have hnan := not_not.1 hnan
    obtain ⟨rate, hrate⟩ := Option.ne_none_iff_exists'.1 hrate
    have hout := shapeLevel_nan (hlevel.trans hnan) hrate hshape
    obtain ⟨q, rfl, -⟩ := hrates rate hrate
    rw [hout, hnan, Constraints.towardFull, hrate] at heq
    cases heq

/-- **Full cooling is kept exactly for the actuators that are not jammed.** -/
theorem committed_fullCooling (hcfg : cfg.Valid)
    (hr : Run Session.Step (Session.start cfg hal clock) es r)
    (ht : r.pipeline.tick = some (p', snap)) :
    (p'.interlocks.criticalTemperature.asserted = true → snap.trusted.temperature ≠ none →
      ∀ a ∈ coolingActuators,
        (snap.commanded.get (.house a) =
            (cfg.constraintsFor (.house a)).towardFull (r.committed (.house a)) ↔
          ¬ Jammed cfg r a ∧
            (r.committed (.house a) ≠ .nan ∨ (cfg.constraintsFor (.house a)).rate = none))) ∧
    (p'.interlocks.co2Ceiling.asserted = true → snap.trusted.co2 ≠ none →
      (snap.commanded.get (.house .roofVents) =
          (cfg.constraintsFor (.house .roofVents)).towardFull (r.committed (.house .roofVents)) ↔
        ¬ Jammed cfg r .roofVents ∧
          (r.committed (.house .roofVents) ≠ .nan ∨
            (cfg.constraintsFor (.house .roofVents)).rate = none))) := by
  have hsound := Sound.of_run hcfg hr
  obtain ⟨loops, ht⟩ := Pipeline.tick_cases ht
  rw [ht.trusted, ht.interlocks]
  constructor
  · intro hasserted hsome a ha
    obtain ⟨t, hsome⟩ := Option.ne_none_iff_exists'.1 hsome
    obtain ⟨-, hfans, hvents⟩ := InterlockState.apply_critical hsome hasserted
    refine hsound.forced_full hcfg ht ha ?_
    rcases List.mem_cons.1 ha with rfl | ha
    · exact hfans
    · obtain rfl := List.mem_singleton.1 ha
      exact hvents
  · intro hasserted hsome
    obtain ⟨c, hsome⟩ := Option.ne_none_iff_exists'.1 hsome
    exact hsound.forced_full hcfg ht (by decide)
      (InterlockState.apply_ceiling hsome hasserted).1

end FullCooling

section

attribute [local instance] Bench.firstOrder

/-- A house above its critical temperature and its CO₂ ceiling whose actuators obey. -/
theorem committed_fullCooling_frost :
    ∃ (r : Session Bench.Plant) (p' : Pipeline Bench.Plant) (snap : Snapshot),
      Run Session.Step (frostHouse 6000 false) [.tick, .tick] r ∧
      r.pipeline.tick = some (p', snap) ∧
      snap.commanded.get (.house .fans) = ((Bench.config Bench.frost).constraintsFor
        (.house .fans)).towardFull (r.committed (.house .fans)) ∧
      snap.commanded.get (.house .roofVents) = ((Bench.config Bench.frost).constraintsFor
        (.house .roofVents)).towardFull (r.committed (.house .roofVents)) := by
  have hrun : (([.tick, .tick].foldlM Session.step? (frostHouse 6000 false)).bind fun r =>
      r.pipeline.tick.map fun t => decide (t.1.interlocks.criticalTemperature.asserted = true ∧
        t.1.interlocks.co2Ceiling.asserted = true ∧ t.2.trusted.temperature ≠ none ∧
        t.2.trusted.co2 ≠ none ∧ ¬ Jammed (Bench.config Bench.frost) r .fans ∧
        ¬ Jammed (Bench.config Bench.frost) r .roofVents ∧
        r.committed (.house .fans) ≠ .nan ∧ r.committed (.house .roofVents) ≠ .nan)) =
        some true := by
    decide +kernel
  obtain ⟨r, hr, h⟩ := Option.bind_eq_some_iff.1 hrun
  obtain ⟨⟨p', snap⟩, ht, h⟩ := Option.map_eq_some_iff.1 h
  obtain ⟨hcrit, hceil, htemp, hco2, hfans, hvents, hlevel, hlevel'⟩ := of_decide_eq_true h
  have hr := Run.of_foldlM hr
  have hboth := committed_fullCooling Bench.frost_valid hr ht
  exact ⟨r, p', snap, hr, ht, (hboth.1 hcrit htemp .fans (by decide)).2 ⟨hfans, Or.inl hlevel⟩,
    (hboth.2 hceil hco2).2 ⟨hvents, Or.inl hlevel'⟩⟩

/-- **A jammed fan is turned down under full cooling.** Its readback stays at `0`; on the sixth
tick above the critical temperature it is at `50`, its rate would allow `60`, and the health
disable sends it to `40`. -/
theorem fullCooling_loosened :
    ∃ (r : Session Bench.Plant) (p' : Pipeline Bench.Plant) (snap : Snapshot),
      Run Session.Step (frostHouse 420 true) [.tick, .tick, .tick, .tick, .tick] r ∧
      r.pipeline.tick = some (p', snap) ∧
      p'.interlocks.criticalTemperature.asserted = true ∧ snap.trusted.temperature = some 0 ∧
      r.committed (.house .fans) = 50 ∧
      ((Bench.config Bench.frost).constraintsFor (.house .fans)).towardFull 50 = 60 ∧
      snap.commanded.get (.house .fans) = 40 := by
  have hrun : (([.tick, .tick, .tick, .tick, .tick].foldlM Session.step?
      (frostHouse 420 true)).bind fun r =>
      r.pipeline.tick.map fun t => (t.1.interlocks.criticalTemperature.asserted,
        t.2.trusted.temperature, r.committed (.house .fans), t.2.commanded.get (.house .fans))) =
        some (true, some 0, 50, 40) := by
    decide +kernel
  obtain ⟨r, hr, h⟩ := Option.bind_eq_some_iff.1 hrun
  obtain ⟨⟨p', snap⟩, ht, h⟩ := Option.map_eq_some_iff.1 h
  obtain ⟨hcrit, htemp, hlevel, hfans⟩ := by simpa only [Prod.mk.injEq] using h
  exact ⟨r, p', snap, Run.of_foldlM hr, ht, hcrit, htemp, hlevel, by decide +kernel, hfans⟩

end

end Greenhouse.Controller
