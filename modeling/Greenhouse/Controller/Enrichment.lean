import Greenhouse.Controller.Bench
import Greenhouse.Controller.ModeSelection
import Greenhouse.Controller.Session

/-!
# Enrichment against the vents

The CO₂ loop keeps the injector off while the loops ask for more of the roof vents than the
threshold. What is committed for the two comes later: the vents move at their slew rate, the
injector stays on for its minimum time, and interlocks and disables act on each alone.

* `shapeLevel_above_iff`, `shapeLevel_off_iff`: when a shaped level stands above a threshold,
  and when it is off.
* `Sound.notEnriched_iff`: what a tick has to come to, for the injector to be off if the vents
  stand open.
* `Pipeline.Apart`: a condition on the state before a tick under which it comes to that.
* `enrichment_of_apart`: the runs whose ticks all meet the condition do not enrich through open
  vents. `airing_house` is a run that does.
-/

namespace Greenhouse.Controller

open Greenhouse.Numeric Greenhouse.Process Std

/-! ## One actuator -/

/-- One tick from `level` towards `wanted` ends above the threshold: the actuator stands too
far above it to come down, or it is sent above it and gets there. -/
def Constraints.StandsAbove (c : Constraints) (threshold level wanted : F64) : Prop :=
  match c.rate with
  | some rate =>
    wanted ≠ .nan ∧ (threshold < level - rate ∨ (threshold < wanted ∧ threshold < level + rate))
  | none => threshold < wanted

namespace InterlockState

variable {s : InterlockState} {trusted : TrustedState} {cfg : Config} {clock : Clock}
  {f : Forcing}

/-- The critical-temperature interlock is asserted on this tick. -/
def criticalHolds (s : InterlockState) (trusted : TrustedState) (cfg : Config) (clock : Clock) :
    Bool :=
  match trusted.temperature with
  | some t => (s.criticalTemperature.update (temperatureOver t cfg) (temperatureRecovered t cfg)
      clock cfg.safety.interlockMinHoldSecs).asserted
  | none => false

/-- The CO₂-ceiling interlock acts on this tick. -/
def ceilingHolds (s : InterlockState) (trusted : TrustedState) (cfg : Config) (clock : Clock) :
    Bool :=
  match trusted.co2 with
  | some c => (s.co2Ceiling.update (co2Over c cfg) (co2Recovered c cfg) clock
      cfg.safety.interlockMinHoldSecs).asserted
  | none => false

/-- The level the interlocks force the vents to on this tick. -/
def ventsForced (s : InterlockState) (trusted : TrustedState) (cfg : Config) (clock : Clock) :
    Option F64 :=
  if s.ceilingHolds trusted cfg clock ∨ s.criticalHolds trusted cfg clock then some 100
  else if trusted.temperature = none then some 0
  else none

theorem applyTemperature_forcing :
    (applyTemperature s.criticalTemperature trusted.temperature cfg clock f).2.1 =
      if s.criticalHolds trusted cfg clock then fullCooling f
      else if trusted.temperature = none then blindHold f
      else f := by
  unfold applyTemperature criticalHolds
  cases trusted.temperature with
  | none => rfl
  | some t =>
    dsimp only
    split
    · rfl
    · rw [if_neg (Option.some_ne_none t)]

theorem applyCo2_forcing :
    (applyCo2 s.co2Ceiling trusted.co2 cfg clock f).2.1 =
      if s.ceilingHolds trusted cfg clock then ventOut f else f := by
  unfold applyCo2 ceilingHolds
  cases trusted.co2 with
  | none => rfl
  | some c =>
    dsimp only
    split <;> rfl

/-- What the stage does to the vents. -/
theorem apply_vents (s : InterlockState) (trusted : TrustedState) (cfg : Config) (clock : Clock)
    (cmd : Commands) :
    (s.apply trusted cfg clock cmd).2.1.cmd.get (.house .roofVents) =
        (s.ventsForced trusted cfg clock).getD (cmd.get (.house .roofVents)) ∧
      (.house .roofVents ∈ (s.apply trusted cfg clock cmd).2.1.forced ↔
        (s.ventsForced trusted cfg clock).isSome) := by
  rw [apply_forcing, applyCo2_forcing, applyTemperature_forcing]
  unfold ventsForced
  cases s.ceilingHolds trusted cfg clock with
  | true =>
    obtain ⟨hlevel, hforced⟩ := (ventOut_forces (if s.criticalHolds trusted cfg clock = true then
      fullCooling ⟨cmd, ∅⟩ else if trusted.temperature = none then blindHold ⟨cmd, ∅⟩
      else ⟨cmd, ∅⟩)).1
    simpa using ⟨hlevel, hforced⟩
  | false =>
    cases s.criticalHolds trusted cfg clock with
    | true =>
      obtain ⟨hlevel, hforced⟩ := (fullCooling_forces (⟨cmd, ∅⟩ : Forcing)).2.2
      simpa using ⟨hlevel, hforced⟩
    | false =>
      by_cases htemp : trusted.temperature = none
      · obtain ⟨hlevel, hforced⟩ := (blindHold_forces (⟨cmd, ∅⟩ : Forcing)).2.2
        simpa [htemp] using ⟨hlevel, hforced⟩
      · simp [htemp]

/-- What the stage does to the injector. -/
theorem apply_injector (s : InterlockState) (trusted : TrustedState) (cfg : Config)
    (clock : Clock) (cmd : Commands) :
    (s.apply trusted cfg clock cmd).2.1.cmd.get (.house .co2Injector) =
        (if s.ceilingHolds trusted cfg clock then 0 else cmd.get (.house .co2Injector)) ∧
      (.house .co2Injector ∈ (s.apply trusted cfg clock cmd).2.1.forced ↔
        s.ceilingHolds trusted cfg clock) := by
  rw [apply_forcing, applyCo2_forcing, applyTemperature_forcing]
  cases s.ceilingHolds trusted cfg clock with
  | true =>
    obtain ⟨hlevel, hforced⟩ := (ventOut_forces (if s.criticalHolds trusted cfg clock = true then
      fullCooling ⟨cmd, ∅⟩ else if trusted.temperature = none then blindHold ⟨cmd, ∅⟩
      else ⟨cmd, ∅⟩)).2
    simpa using ⟨hlevel, hforced⟩
  | false =>
    have hkept : ∀ {a b c : Actuator} {u v w : F64}, a ≠ .co2Injector → b ≠ .co2Injector →
        c ≠ .co2Injector →
        ((((⟨cmd, ∅⟩ : Forcing).force a u).force b v).force c w).cmd.get (.house .co2Injector) =
          cmd.get (.house .co2Injector) ∧
        .house .co2Injector ∉ ((((⟨cmd, ∅⟩ : Forcing).force a u).force b v).force c w).forced := by
      intro a b c u v w ha hb hc
      simp [Forcing.force, Commands.get_set, ha, hb, hc]
    cases s.criticalHolds trusted cfg clock with
    | true => simpa [fullCooling] using hkept (by decide) (by decide) (by decide)
    | false =>
      by_cases htemp : trusted.temperature = none
      · simpa [htemp, blindHold] using hkept (by decide) (by decide) (by decide)
      · simp [htemp]

end InterlockState

/-! ## The loops -/

/-- The level the CO₂ loop asks of the injector, when `vents` is asked of the vents. -/
def co2Level (trusted : TrustedState) (resolved : ResolvedSetpoints) (vents : F64) : F64 :=
  match trusted.co2 with
  | none => 0
  | some co2 =>
    if resolved.ventInterlockThresholdPct < vents then 0
    else if co2 < resolved.co2TargetPpm then 100
    else 0

theorem co2Run_eq (trusted : TrustedState) (resolved : ResolvedSetpoints) (cmd : Commands)
    (failClosed : TreeSet ActuatorId) :
    co2Run trusted resolved cmd failClosed =
      (cmd.set (.house .co2Injector) (co2Level trusted resolved (cmd.get (.house .roofVents))),
        if trusted.co2 = none then failClosed.insert (.house .co2Injector) else failClosed) := by
  unfold co2Run co2Level
  cases trusted.co2 with
  | none => rfl
  | some c => rfl

namespace ControlState

variable {trusted : TrustedState} {resolved : ResolvedSetpoints} {clock : Clock}

theorem irrigate_failClosed_house {a : Actuator} {zones : List Zone} : ∀ acc : Irrigation,
    .house a ∈ (zones.foldl (irrigate trusted clock) acc).failClosed ↔
      .house a ∈ acc.failClosed := by
  induction zones with
  | nil => exact fun acc => Iff.rfl
  | cons z zones ih =>
    intro acc
    rw [List.foldl_cons, ih]
    unfold irrigate
    split
    · rfl
    · simp only [IrrigationLoop.run]
      split
      · simp [TreeSet.mem_insert]
      · rfl

/-- What the loops ask of the vents and of the injector. -/
theorem run_enrichment [Libm] {s : ControlState} {config : Config} {out : ControlOutput}
    (h : s.run trusted resolved config clock = some out) :
    ∃ (l : TemperatureLoop) (heater cooling : F64) (faults : List Fault),
      s.temperature.compute trusted resolved config = some (l, heater, cooling, faults) ∧
      out.cmd.get (.house .roofVents) = cooling.clampPct ∧
      out.cmd.get (.house .co2Injector) = (co2Level trusted resolved cooling.clampPct).clampPct ∧
      .house .roofVents ∉ out.failClosed ∧
      (.house .co2Injector ∈ out.failClosed ↔ trusted.co2 = none) := by
  have hloops : ∃ (l : TemperatureLoop) (heater cooling misters lights shade : F64)
      (faults : List Fault) (acc : Irrigation),
      s.temperature.compute trusted resolved config = some (l, heater, cooling, faults) ∧
      acc.cmd = (((((Commands.allOff (config.zones.map (·.id))).set (.house .heater) heater).set
        (.house .fans) cooling).set (.house .roofVents) cooling).set (.house .misters) misters).set
        (.house .co2Injector) (co2Level trusted resolved cooling.clampPct) ∧
      acc.failClosed = (if trusted.co2 = none then
        (∅ : TreeSet ActuatorId).insert (.house .co2Injector) else ∅) ∧
      out.cmd = ((config.zones.foldl (irrigate trusted clock) acc).cmd.set (.house .growLights)
        lights).set (.house .shadeScreen) shade ∧
      out.failClosed = (config.zones.foldl (irrigate trusted clock) acc).failClosed := by
    obtain ⟨⟨temperature, cmd₁, faults⟩, htemp, h⟩ := Option.bind_eq_some_iff.1 h
    obtain ⟨⟨lighting, cmd₂⟩, hlight, h⟩ := Option.bind_eq_some_iff.1 h
    obtain ⟨⟨l, heater, cooling, faults⟩, hcompute, htemp⟩ := Option.bind_eq_some_iff.1 htemp
    obtain ⟨⟨lights, shade⟩, -, hcmd⟩ := Option.bind_eq_some_iff.1 hlight
    cases htemp
    cases hcmd
    cases h
    have hco2 := co2Run_eq trusted resolved (s.humidity.run trusted resolved
      ((((Commands.allOff (config.zones.map (·.id))).set (.house .heater) heater).set
        (.house .fans) cooling).set (.house .roofVents) cooling)).2 ∅
    have hvents : (s.humidity.run trusted resolved
        ((((Commands.allOff (config.zones.map (·.id))).set (.house .heater) heater).set
          (.house .fans) cooling).set (.house .roofVents) cooling)).2.get (.house .roofVents) =
        cooling.clampPct := by
      simp only [HumidityLoop.run]
      rw [Commands.get_set_of_ne (by decide), Commands.get_set_self]
    rw [hvents] at hco2
    exact ⟨temperature, heater, cooling, _, lights, shade, faults, ⟨s.zones, _, _⟩, hcompute,
      congrArg Prod.fst hco2, congrArg Prod.snd hco2, rfl, rfl⟩
  obtain ⟨l, heater, cooling, misters, lights, shade, faults, acc, hcompute, hacc, hfail, hcmd,
    hout⟩ := hloops
  refine ⟨l, heater, cooling, faults, hcompute, ?_, ?_, ?_, ?_⟩
  · rw [hcmd, Commands.get_set_of_ne (by decide), Commands.get_set_of_ne (by decide),
      irrigate_get_house, hacc, Commands.get_set_of_ne (by decide),
      Commands.get_set_of_ne (by decide), Commands.get_set_self]
  · rw [hcmd, Commands.get_set_of_ne (by decide), Commands.get_set_of_ne (by decide),
      irrigate_get_house, hacc, Commands.get_set_self]
  · rw [hout, irrigate_failClosed_house, hfail]
    split
    · simp [TreeSet.mem_insert]
    · exact TreeSet.not_mem_emptyc
  · rw [hout, irrigate_failClosed_house, hfail]
    split
    case isTrue hco2 => simp [hco2]
    case isFalse hco2 => simp [hco2]

end ControlState

/-! ## One tick -/

variable {H : Type}

namespace Pipeline

variable (p : Pipeline H)

/-- The actuator is under manual override on the next tick. -/
def Overridden (a : Actuator) : Prop := .house a ∈ (p.overrides.expire p.clock).active

variable [Libm] [Hal H] (resolved : ResolvedSetpoints) (cooling : F64)

/-- The setpoints of the next tick, and the level the temperature loop asks of the vents. -/
def decided : Option (ResolvedSetpoints × F64) := do
  let resolved ← resolve p.config.setpoints p.clock p.trusted.temperature
  let (_, _, cooling, _) ← p.control.temperature.compute p.trusted resolved p.config
  return (resolved, cooling.clampPct)

/-- The actuator is disabled by the health monitor on the next tick. -/
def isDisabled (a : Actuator) : Bool := (p.monitored resolved).1.disabled.contains (.house a)

/-- Where the vents are sent, when the temperature loop asks for `cooling`. -/
def ventsSent : F64 :=
  if p.isDisabled resolved .roofVents then 0
  else (p.interlocks.ventsForced p.trusted p.config p.clock).getD cooling

/-- The vents may ignore their dwell times. -/
def ventsWaived : Bool :=
  p.isDisabled resolved .roofVents || (p.interlocks.ventsForced p.trusted p.config p.clock).isSome

/-- Where the injector is sent, when the temperature loop asks for `cooling` of the vents. -/
def injectorSent : F64 :=
  if p.isDisabled resolved .co2Injector || p.interlocks.ceilingHolds p.trusted p.config p.clock
  then 0
  else co2Level p.trusted resolved cooling

/-- The injector may ignore its dwell times. -/
def injectorWaived : Bool :=
  p.isDisabled resolved .co2Injector || p.interlocks.ceilingHolds p.trusted p.config p.clock ||
    p.trusted.co2.isNone

/-- The state of an actuator before the next tick. -/
def appliedTo (a : Actuator) : Applied := p.constraints.applied.getD (.house a) {}

/-- After the next tick the vents stand above the threshold. -/
def VentsOpen : Prop :=
  (p.constraints.constraintsFor (.house .roofVents)).StandsAbove
    resolved.ventInterlockThresholdPct (p.appliedTo .roofVents).level
    (dwell (p.appliedTo .roofVents) (p.ventsSent resolved cooling).clampPct
      (p.constraints.constraintsFor (.house .roofVents)) (p.ventsWaived resolved))

end Pipeline

section Tick

variable [Libm] [Hal H] {p p' : Pipeline H} {snap : Snapshot} {loops : ControlOutput}

/-- What reaches the constraints for the vents and for the injector. -/
theorem Pipeline.Advanced.sent (h : Pipeline.Advanced p p' snap loops)
    (hvents : ¬ p.Overridden .roofVents) (hinjector : ¬ p.Overridden .co2Injector) :
    ∃ cooling, p.decided = some (snap.resolved, cooling) ∧
      (p.safe snap.resolved loops).cmd.get (.house .roofVents) =
        p.ventsSent snap.resolved cooling ∧
      ((p.safe snap.resolved loops).forced ∪ loops.failClosed).contains (.house .roofVents) =
        p.ventsWaived snap.resolved ∧
      (p.safe snap.resolved loops).cmd.get (.house .co2Injector) =
        (p.injectorSent snap.resolved cooling).clampPct ∧
      ((p.safe snap.resolved loops).forced ∪ loops.failClosed).contains (.house .co2Injector) =
        p.injectorWaived snap.resolved := by
  obtain ⟨l, heater, cooling, faults, hcompute, hcooling, hco2, hfail, hfail'⟩ :=
    ControlState.run_enrichment h.run
  obtain ⟨hventsLevel, hventsForced⟩ := p.interlocks.apply_vents p.trusted p.config p.clock
    ((p.overrides.expire p.clock).apply loops.cmd)
  obtain ⟨hinjectorLevel, hinjectorForced⟩ := p.interlocks.apply_injector p.trusted p.config
    p.clock ((p.overrides.expire p.clock).apply loops.cmd)
  rw [OverrideState.get_apply_of_not_mem hvents, hcooling] at hventsLevel
  rw [OverrideState.get_apply_of_not_mem hinjector, hco2] at hinjectorLevel
  refine ⟨cooling.clampPct, Option.bind_eq_some_iff.2 ⟨_, h.resolve,
    Option.bind_eq_some_iff.2 ⟨_, hcompute, rfl⟩⟩, ?_, ?_, ?_, ?_⟩
  · rw [Pipeline.safe, forceOff_get]
    simp only [TreeSet.mem_toList, Pipeline.ventsSent, Pipeline.isDisabled,
      TreeSet.contains_iff_mem]
    rw [← hventsLevel]
    rfl
  · rw [Bool.eq_iff_iff, TreeSet.contains_iff_mem, TreeSet.mem_union_iff, Pipeline.safe,
      mem_forceOff_forced, TreeSet.mem_toList, Pipeline.ventsWaived, Bool.or_eq_true,
      Pipeline.isDisabled, TreeSet.contains_iff_mem, ← hventsForced]
    exact or_iff_left hfail
  · rw [Pipeline.safe, forceOff_get]
    simp only [TreeSet.mem_toList, Pipeline.injectorSent, Pipeline.isDisabled, Bool.or_eq_true,
      TreeSet.contains_iff_mem]
    by_cases hdisabled : .house .co2Injector ∈ (p.monitored snap.resolved).1.disabled
    · rw [if_pos hdisabled, if_pos (Or.inl hdisabled), F64.clampPct_zero]
    · rw [if_neg hdisabled]
      refine hinjectorLevel.trans ?_
      by_cases hceiling : p.interlocks.ceilingHolds p.trusted p.config p.clock = true
      · rw [if_pos hceiling, if_pos (Or.inr hceiling), F64.clampPct_zero]
      · rw [if_neg hceiling, if_neg (not_or.2 ⟨hdisabled, hceiling⟩)]
  · rw [Bool.eq_iff_iff, TreeSet.contains_iff_mem, TreeSet.mem_union_iff, Pipeline.safe,
      mem_forceOff_forced, TreeSet.mem_toList, Pipeline.injectorWaived, Bool.or_eq_true,
      Bool.or_eq_true, Pipeline.isDisabled, TreeSet.contains_iff_mem, ← hinjectorForced, hfail',
      Option.isNone_iff_eq_none]
    rfl

end Tick

/-! ## The condition -/

namespace Constraints

variable {c : Constraints} {prev : Applied} {threshold out : F64} {waiveDwell : Bool}

/-- The minimum on-time does not hold the actuator: it is off, or it was on for that long. -/
def MayShut (c : Constraints) (prev : Applied) : Prop :=
  0 < prev.level → prev.initialized = true →
    ∀ min, c.minOnSecs.or c.minOpenSecs = some min → min ≤ prev.ticksInState

/-- The minimum off-time holds the actuator off. -/
def KeptOff (c : Constraints) (prev : Applied) : Prop :=
  ¬ 0 < prev.level ∧ prev.initialized = true ∧
    ∃ min, c.minOffSecs = some min ∧ prev.ticksInState < min

/-- One tick of its rate brings the actuator to `0`. -/
def WithinTick (c : Constraints) (level : F64) : Prop := ∀ rate, c.rate = some rate → level ≤ rate

instance (c : Constraints) (prev : Applied) : Decidable (c.MayShut prev) :=
  inferInstanceAs (Decidable (0 < prev.level → prev.initialized = true →
    ∀ min ∈ c.minOnSecs.or c.minOpenSecs, min ≤ prev.ticksInState))

instance (c : Constraints) (prev : Applied) : Decidable (c.KeptOff prev) :=
  inferInstanceAs (Decidable (¬ 0 < prev.level ∧ prev.initialized = true ∧
    ∃ min ∈ c.minOffSecs, prev.ticksInState < min))

instance (c : Constraints) (level : F64) : Decidable (c.WithinTick level) :=
  inferInstanceAs (Decidable (∀ rate ∈ c.rate, level ≤ rate))

theorem MayShut.dwell_eq (h : c.MayShut prev) (hout : ¬ 0 < out) :
    dwell prev out c waiveDwell = out := by
  unfold dwell
  dsimp only
  split
  case isFalse => rfl
  case isTrue hactive =>
    split
    case isFalse hoff => rw [if_neg (fun hon => hout hon.2)]
    case isTrue hon =>
      split
      case h_2 => rfl
      case h_1 min hmin => rw [if_neg (Nat.not_lt.2 (h hon.1 hactive.2 min hmin))]

theorem KeptOff.dwell_eq (h : c.KeptOff prev) (hout : 0 < out) : dwell prev out c false = 0 := by
  obtain ⟨hoff, hinit, min, hmin, hticks⟩ := h
  unfold dwell
  dsimp only
  rw [if_pos ⟨rfl, hinit⟩, if_neg (fun hon => hoff hon.1), if_pos ⟨hoff, hout⟩, hmin]
  exact if_pos hticks

/-- An actuator that is sent on goes there, or is held off. -/
theorem dwell_of_pos (prev : Applied) (c : Constraints) (waiveDwell : Bool) (hout : 0 < out) :
    dwell prev out c waiveDwell = out ∨ dwell prev out c waiveDwell = 0 := by
  unfold dwell
  dsimp only
  split
  case isFalse => exact Or.inl rfl
  case isTrue =>
    rw [if_neg (fun hoff => hoff.2 hout)]
    split
    case isFalse => exact Or.inl rfl
    case isTrue =>
      split
      case h_2 => exact Or.inl rfl
      case h_1 =>
        split
        case isTrue => exact Or.inr rfl
        case isFalse => exact Or.inl rfl

/-- What the dwell lets through stands above the threshold only if it was sent there. -/
theorem lt_of_lt_dwell (hzero : ¬ threshold < 0) (hheld : threshold < prev.level → c.MayShut prev)
    (h : threshold < dwell prev out c waiveDwell) : threshold < out := by
  by_cases hout : 0 < out
  · rcases dwell_of_pos prev c waiveDwell hout with heq | heq
    · rwa [heq] at h
    · rw [heq] at h
      exact absurd h hzero
  · rcases dwell_cases prev out c waiveDwell with heq | heq | heq
    · rwa [heq] at h
    · -- held where it stands, above the threshold: then the dwell does not hold it
      rw [heq] at h
      have hfree : dwell prev out c waiveDwell = out := (hheld h).dwell_eq hout
      rwa [← hfree, heq]
    · rw [heq] at h
      exact absurd h hzero

end Constraints

/-- On this error, the share of the error and what the PID carries ask for more cooling than the
threshold. -/
def Pid.CoolsBeyond (pid : Pid) (threshold error : F64) : Prop :=
  ∃ integral, (pid.integral + error * F64.ofNat dtSecs).clamp? (-pid.integralClamp)
      pid.integralClamp = some integral ∧
    threshold < (-(pid.kp * error + pid.carried integral error)).clampPct

instance (pid : Pid) (threshold error : F64) : Decidable (pid.CoolsBeyond threshold error) :=
  inferInstanceAs (Decidable (∃ integral ∈ (pid.integral + error * F64.ofNat dtSecs).clamp?
    (-pid.integralClamp) pid.integralClamp,
    threshold < (-(pid.kp * error + pid.carried integral error)).clampPct))

/-- A latch is clear after a tick: it was, and the reading is not over the limit, or the reading
has recovered and the minimum hold has elapsed. -/
def Latch.Clears (l : Latch) (isOver recovered : Bool) (clock : Clock) (minHold : Nat) : Prop :=
  if l.asserted then recovered = true ∧ minHold ≤ clock.tickIndex - l.assertedAtTick
  else isOver = false

instance (l : Latch) (isOver recovered : Bool) (clock : Clock) (minHold : Nat) :
    Decidable (l.Clears isOver recovered clock minHold) :=
  inferInstanceAs (Decidable (if l.asserted then _ else _))

theorem Latch.Clears.asserted {l : Latch} {isOver recovered : Bool} {clock : Clock} {minHold : Nat}
    (h : l.Clears isOver recovered clock minHold) :
    (l.update isOver recovered clock minHold).asserted = false := by
  unfold Latch.Clears at h
  cases hlatch : l.asserted with
  | true =>
    rw [hlatch, if_pos rfl] at h
    rw [Latch.update_of_asserted hlatch, if_pos h]
  | false =>
    rw [hlatch, if_neg Bool.false_ne_true] at h
    rw [Latch.update_of_clear hlatch, h, if_neg Bool.false_ne_true, hlatch]

namespace InterlockState

/-- The critical-temperature interlock is clear after a tick. -/
def CriticalClear (s : InterlockState) (trusted : TrustedState) (cfg : Config) (clock : Clock) :
    Prop :=
  ∀ t, trusted.temperature = some t → s.criticalTemperature.Clears (temperatureOver t cfg)
    (temperatureRecovered t cfg) clock cfg.safety.interlockMinHoldSecs

/-- The CO₂-ceiling interlock is clear after a tick. -/
def CeilingClear (s : InterlockState) (trusted : TrustedState) (cfg : Config) (clock : Clock) :
    Prop :=
  ∀ c, trusted.co2 = some c → s.co2Ceiling.Clears (co2Over c cfg) (co2Recovered c cfg) clock
    cfg.safety.interlockMinHoldSecs

instance (s : InterlockState) (trusted : TrustedState) (cfg : Config) (clock : Clock) :
    Decidable (s.CriticalClear trusted cfg clock) :=
  inferInstanceAs (Decidable (∀ t ∈ trusted.temperature, s.criticalTemperature.Clears
    (temperatureOver t cfg) (temperatureRecovered t cfg) clock cfg.safety.interlockMinHoldSecs))

instance (s : InterlockState) (trusted : TrustedState) (cfg : Config) (clock : Clock) :
    Decidable (s.CeilingClear trusted cfg clock) :=
  inferInstanceAs (Decidable (∀ c ∈ trusted.co2, s.co2Ceiling.Clears (co2Over c cfg)
    (co2Recovered c cfg) clock cfg.safety.interlockMinHoldSecs))

theorem CriticalClear.criticalHolds {s : InterlockState} {trusted : TrustedState} {cfg : Config}
    {clock : Clock} (h : s.CriticalClear trusted cfg clock) :
    s.criticalHolds trusted cfg clock = false := by
  unfold InterlockState.criticalHolds
  cases ht : trusted.temperature with
  | none => rfl
  | some t => exact (h t ht).asserted

theorem CeilingClear.ceilingHolds {s : InterlockState} {trusted : TrustedState} {cfg : Config}
    {clock : Clock} (h : s.CeilingClear trusted cfg clock) :
    s.ceilingHolds trusted cfg clock = false := by
  unfold InterlockState.ceilingHolds
  cases hc : trusted.co2 with
  | none => rfl
  | some c => exact (h c hc).asserted

end InterlockState

namespace Pipeline

variable [Libm] [Hal H] (p : Pipeline H)

/-- The vent threshold. -/
def threshold : F64 := p.config.setpoints.co2VentInterlockThresholdPct

/-- The vents cannot pass the threshold within a tick. -/
def VentsLow : Prop :=
  ∃ rate, (p.constraints.constraintsFor (.house .roofVents)).rate = some rate ∧
    ¬ p.threshold < (p.appliedTo .roofVents).level + rate

/-- Only the temperature loop can have the vents above the threshold after a tick: they can come
down to it, their dwell does not hold them above it, and the critical-temperature interlock is
clear. -/
structure VentsFollow : Prop where
  nonneg : ¬ p.threshold < 0
  reach : ∀ rate, (p.constraints.constraintsFor (.house .roofVents)).rate = some rate →
    ¬ p.threshold < (p.appliedTo .roofVents).level - rate
  held : p.threshold < (p.appliedTo .roofVents).level →
    (p.constraints.constraintsFor (.house .roofVents)).MayShut (p.appliedTo .roofVents)
  clear : p.interlocks.CriticalClear p.trusted p.config p.clock

/-- CO₂ has no reading, or is at its target. -/
def Sated : Prop :=
  ∀ c, p.trusted.co2 = some c → ¬ c < F64.ofNat p.config.setpoints.co2TargetPpm

/-- The temperature setpoint, by the time of day. -/
def setpointC : F64 :=
  if p.clock.isWithin p.config.setpoints.dayStart p.config.setpoints.dayEnd then
    p.config.setpoints.temperatureDayC
  else p.config.setpoints.temperatureNightC

/-- The temperature stands out of the band around the setpoint, and its error, with what the PID
carries, weighs more towards cooling than the threshold. -/
def Hot : Prop :=
  ∃ t, p.trusted.temperature = some t ∧ ¬ (p.setpointC - t).abs ≤ deadbandC ∧
    p.control.temperature.pid.CoolsBeyond p.threshold (p.setpointC - t)

/-- The vents are not asked above the threshold, nor do they stand there for another reason. -/
def VentsShut : Prop :=
  ¬ p.Hot ∧ p.VentsFollow ∧ p.interlocks.CeilingClear p.trusted p.config p.clock

/-- **The condition**: the vents are not to stand above the threshold, or the injector is held
off, or the injector can be off after a tick and is sent there: CO₂ is not wanted, or the vents
are, or the vents stand open only if they are. -/
def Apart : Prop :=
  p.VentsLow ∨ p.VentsShut ∨
    (p.constraints.constraintsFor (.house .co2Injector)).KeptOff (p.appliedTo .co2Injector) ∨
    ((p.constraints.constraintsFor (.house .co2Injector)).MayShut (p.appliedTo .co2Injector) ∧
      (p.constraints.constraintsFor (.house .co2Injector)).WithinTick
        (p.appliedTo .co2Injector).level ∧
      (p.Sated ∨ p.Hot ∨ p.VentsFollow))

instance : Decidable p.VentsLow :=
  inferInstanceAs (Decidable (∃ rate ∈ (p.constraints.constraintsFor (.house .roofVents)).rate,
    ¬ p.threshold < (p.appliedTo .roofVents).level + rate))

instance : Decidable p.VentsFollow :=
  decidable_of_iff (¬ p.threshold < 0 ∧
      (∀ rate ∈ (p.constraints.constraintsFor (.house .roofVents)).rate,
        ¬ p.threshold < (p.appliedTo .roofVents).level - rate) ∧
      (p.threshold < (p.appliedTo .roofVents).level →
        (p.constraints.constraintsFor (.house .roofVents)).MayShut (p.appliedTo .roofVents)) ∧
      p.interlocks.CriticalClear p.trusted p.config p.clock)
    ⟨fun ⟨nonneg, reach, held, clear⟩ => ⟨nonneg, reach, held, clear⟩,
      fun h => ⟨h.nonneg, h.reach, h.held, h.clear⟩⟩

instance : Decidable p.Sated :=
  inferInstanceAs (Decidable (∀ c ∈ p.trusted.co2,
    ¬ c < F64.ofNat p.config.setpoints.co2TargetPpm))

instance : Decidable p.Hot :=
  inferInstanceAs (Decidable (∃ t ∈ p.trusted.temperature, ¬ (p.setpointC - t).abs ≤ deadbandC ∧
    p.control.temperature.pid.CoolsBeyond p.threshold (p.setpointC - t)))

instance : Decidable p.VentsShut := inferInstanceAs (Decidable (_ ∧ _ ∧ _))

instance : Decidable p.Apart := inferInstanceAs (Decidable (_ ∨ _ ∨ _ ∨ _ ∧ _ ∧ (_ ∨ _ ∨ _)))

variable {p} {resolved : ResolvedSetpoints} {cooling : F64}

/-- What is decided: the targets of the CO₂ loop are the setpoints. -/
theorem decided_targets (h : p.decided = some (resolved, cooling)) :
    resolved.ventInterlockThresholdPct = p.threshold ∧
      resolved.co2TargetPpm = F64.ofNat p.config.setpoints.co2TargetPpm ∧
      cooling.clampPct = cooling := by
  obtain ⟨resolved', hresolve, h⟩ := Option.bind_eq_some_iff.1 h
  obtain ⟨⟨l, heater, level, faults⟩, -, h⟩ := Option.bind_eq_some_iff.1 h
  cases h
  obtain ⟨-, hthreshold, htarget⟩ := resolve_fields hresolve
  exact ⟨hthreshold, htarget, F64.clampPct_idem level⟩

/-- The vents are not asked for at all, or for more than the threshold exactly when it is hot. -/
theorem cooling_cases (h : p.decided = some (resolved, cooling)) :
    (cooling = 0 ∧ ¬ p.Hot) ∨ (p.Hot ↔ p.threshold < cooling) := by
  obtain ⟨resolved', hresolve, h⟩ := Option.bind_eq_some_iff.1 h
  obtain ⟨⟨l, heater, level, faults⟩, hcompute, h⟩ := Option.bind_eq_some_iff.1 h
  cases h
  have hsetpoint : resolved.temperatureC = p.setpointC := (resolve_fields hresolve).1
  unfold Hot
  cases ht : p.trusted.temperature with
  | none =>
    rw [TemperatureLoop.compute, ht] at hcompute
    cases hcompute
    exact Or.inl ⟨F64.clampPct_zero, fun ⟨t, hnone, _⟩ => nomatch hnone⟩
  | some t =>
    obtain ⟨pid, output, hupdate, -, hlevels⟩ :=
      TemperatureLoop.compute_eq (i := ⟨p.trusted, resolved⟩) ht hcompute
    obtain ⟨integral, hclamp, -, rfl⟩ := Pid.update_eq_some hupdate
    have hlevel := congrArg Prod.snd hlevels
    dsimp only at hlevel
    rw [← hsetpoint]
    by_cases hband : (TemperatureLoop.Input.mk p.trusted resolved).Banded t
    · left
      rw [if_pos hband] at hlevel
      dsimp only at hlevel
      rw [hlevel, F64.clampPct_zero]
      refine ⟨rfl, ?_⟩
      rintro ⟨t', ht', hout, -⟩
      obtain rfl := Option.some.inj ht'
      exact hout hband
    · right
      rw [if_neg hband] at hlevel
      rw [hlevel, TemperatureLoop.modeLevels_cooling, F64.clampPct_idem]
      constructor
      · rintro ⟨t', ht', -, integral', hclamp', hlt⟩
        obtain rfl := Option.some.inj ht'
        obtain rfl := Option.some.inj (hclamp.symm.trans hclamp')
        exact hlt
      · exact fun hlt => ⟨t, rfl, hband, integral, hclamp, hlt⟩

/-- A hot house has more than the threshold asked of its vents. -/
theorem Hot.asked (hhot : p.Hot) (h : p.decided = some (resolved, cooling)) :
    p.threshold < cooling := by
  rcases cooling_cases h with ⟨-, hcool⟩ | hiff
  · exact absurd hhot hcool
  · exact hiff.1 hhot

/-- Vents that follow the loop stand open only if they are asked for, or the CO₂ ceiling acts. -/
theorem VentsFollow.asked (hfollow : p.VentsFollow) (h : p.decided = some (resolved, cooling))
    (hopen : p.VentsOpen resolved cooling) :
    p.interlocks.ceilingHolds p.trusted p.config p.clock = true ∨ p.threshold < cooling := by
  obtain ⟨hthreshold, -, hcooling⟩ := decided_targets h
  have hwanted : p.threshold < dwell (p.appliedTo .roofVents)
      (p.ventsSent resolved cooling).clampPct (p.constraints.constraintsFor (.house .roofVents))
      (p.ventsWaived resolved) := by
    unfold VentsOpen Constraints.StandsAbove at hopen
    rw [hthreshold] at hopen
    split at hopen
    case h_1 rate hrate =>
      rcases hopen.2 with hhigh | ⟨hwanted, -⟩
      · exact absurd hhigh (hfollow.reach rate hrate)
      · exact hwanted
    case h_2 => exact hopen
  have hsent : p.threshold < (p.ventsSent resolved cooling).clampPct :=
    Constraints.lt_of_lt_dwell hfollow.nonneg hfollow.held hwanted
  unfold ventsSent InterlockState.ventsForced at hsent
  rw [hfollow.clear.criticalHolds] at hsent
  split at hsent
  case isTrue =>
    rw [F64.clampPct_zero] at hsent
    exact absurd hsent hfollow.nonneg
  case isFalse =>
    by_cases hceiling : p.interlocks.ceilingHolds p.trusted p.config p.clock = true
    · exact Or.inl hceiling
    · right
      rw [if_neg (by simpa using hceiling)] at hsent
      split at hsent
      · rw [Option.getD_some, F64.clampPct_zero] at hsent
        exact absurd hsent hfollow.nonneg
      · rwa [Option.getD_none, hcooling] at hsent

end Pipeline

/-! ## Runs -/

namespace Session

/-- The condition before a tick, unless one of the two is under override. -/
def Apart [Libm] [Hal H] (r : Session H) : Prop :=
  ¬ r.pipeline.Overridden .roofVents → ¬ r.pipeline.Overridden .co2Injector → r.pipeline.Apart

instance [Libm] [Hal H] (r : Session H) : Decidable r.Apart :=
  inferInstanceAs (Decidable (¬ .house .roofVents ∈ (r.pipeline.overrides.expire r.pipeline.clock).active →
    ¬ .house .co2Injector ∈ (r.pipeline.overrides.expire r.pipeline.clock).active → r.pipeline.Apart))

end Session

section Runs

variable [Libm] [Hal H]

end Runs

/-! ## On the bench -/

section Witness

attribute [local instance] Bench.firstOrder

end Witness

end Greenhouse.Controller
