import Greenhouse.Controller.Loops

/-!
# Safety interlocks

Stage five of a tick. A `Latch` asserts at once and clears only after recovery and a
minimum hold. `InterlockState.apply` runs the critical-temperature interlock and then
the CO₂-ceiling interlock over the command; each half is described by one case lemma.

* `applyTemperature_asserted`, `applyTemperature_released`, `applyTemperature_over`: the
  temperature half, and the same three for the CO₂ half.
* `apply_critical`, `apply_blind`, `apply_ceiling`: what the whole stage forces.
-/

namespace Greenhouse.Controller

open Greenhouse.Numeric Std

/-- An asymmetric assert/clear latch. -/
structure Latch where
  asserted : Bool := false
  assertedAtTick : Nat := 0
  deriving DecidableEq

namespace Latch

/-- `isOver` asserts; `recovered` permits the clear, once the minimum hold has elapsed. -/
def update (l : Latch) (isOver recovered : Bool) (clock : Clock) (minHold : Nat) : Latch :=
  if l.asserted then
    let held := minHold ≤ clock.tickIndex - l.assertedAtTick
    if recovered ∧ held then { l with asserted := false } else l
  else if isOver then { asserted := true, assertedAtTick := clock.tickIndex }
  else l

variable {l : Latch} {isOver recovered : Bool} {clock : Clock} {minHold : Nat}

theorem update_of_clear (h : l.asserted = false) :
    l.update isOver recovered clock minHold =
      if isOver then { asserted := true, assertedAtTick := clock.tickIndex } else l := by
  rw [update, h, if_neg Bool.false_ne_true]

theorem update_of_asserted (h : l.asserted = true) :
    l.update isOver recovered clock minHold =
      if recovered ∧ minHold ≤ clock.tickIndex - l.assertedAtTick then
        { l with asserted := false }
      else l := by
  rw [update, if_pos h]

/-- A reading over the threshold that is not also below the re-arm margin leaves the latch
asserted. -/
theorem asserted_update (hover : isOver = true) (hrec : recovered = false) :
    (l.update isOver recovered clock minHold).asserted = true := by
  cases h : l.asserted with
  | false => rw [update_of_clear h, if_pos hover]
  | true =>
    rw [update_of_asserted h, hrec, if_neg (fun h => Bool.false_ne_true h.1)]
    exact h

end Latch

/-! ## Forcing actuators -/

/-- A command on its way through the stage, with the actuators forced so far. -/
structure Forcing where
  cmd : Commands
  forced : TreeSet ActuatorId

namespace Forcing

def force (f : Forcing) (actuator : Actuator) (level : F64) : Forcing where
  cmd := f.cmd.set (.house actuator) level
  forced := f.forced.insert (.house actuator)

/-- The actuator is at `level` and is marked as forced. -/
def Forces (f : Forcing) (actuator : Actuator) (level : F64) : Prop :=
  f.cmd.get (.house actuator) = level ∧ .house actuator ∈ f.forced

theorem forces_force (f : Forcing) (actuator : Actuator) (level : F64) :
    (f.force actuator level).Forces actuator level.clampPct :=
  ⟨Commands.get_set_self f.cmd (.house actuator) level, TreeSet.mem_insert_self⟩

theorem Forces.force_of_ne {f : Forcing} {a b : Actuator} {v w : F64} (h : f.Forces a v)
    (hne : b ≠ a) : (f.force b w).Forces a v := by
  refine ⟨?_, TreeSet.mem_insert.2 (Or.inr h.2)⟩
  rw [force, Commands.get_set_of_ne fun heq => hne (ActuatorId.house.inj heq)]
  exact h.1

theorem get_force_of_ne {f : Forcing} {a : Actuator} {id : ActuatorId} {w : F64}
    (hne : .house a ≠ id) : (f.force a w).cmd.get id = f.cmd.get id :=
  Commands.get_set_of_ne hne

theorem mem_ids_force {f : Forcing} {a : Actuator} {id : ActuatorId} {w : F64}
    (h : id ∈ f.cmd.ids) : id ∈ (f.force a w).cmd.ids :=
  Commands.mem_ids_set.2 (Or.inr h)

/-- Forcing an actuator leaves the percentages of a command percentages. -/
theorem isPct_force {f : Forcing} {a : Actuator} {id : ActuatorId} {w : F64}
    (h : (f.cmd.get id).IsPct) (hw : w.IsPct) : ((f.force a w).cmd.get id).IsPct := by
  rw [force, Commands.get_set]
  split
  · rwa [hw.clampPct_eq]
  · exact h

/-- Over `cmd`, what is forced is at `0` or at `100`, and what is not keeps its level. -/
structure Over (f : Forcing) (cmd : Commands) : Prop where
  level : ∀ id ∈ f.forced, f.cmd.get id = 0 ∨ f.cmd.get id = 100
  kept : ∀ id ∉ f.forced, f.cmd.get id = cmd.get id

theorem over_self (cmd : Commands) : Over ⟨cmd, ∅⟩ cmd :=
  ⟨fun _ hid => absurd hid TreeSet.not_mem_emptyc, fun _ _ => rfl⟩

theorem mem_forced_force {f : Forcing} {a : Actuator} {id : ActuatorId} {w : F64} :
    id ∈ (f.force a w).forced ↔ .house a = id ∨ id ∈ f.forced := by
  rw [force, TreeSet.mem_insert, LawfulEqOrd.compare_eq_iff_eq]

theorem Over.force {f : Forcing} {cmd : Commands} (h : f.Over cmd) (a : Actuator) {w : F64}
    (hw : w = 0 ∨ w = 100) : (f.force a w).Over cmd := by
  constructor
  · intro id hid
    by_cases heq : .house a = id
    · subst heq
      rw [Forcing.force, Commands.get_set_self]
      rcases hw with rfl | rfl
      · exact Or.inl F64.clampPct_zero
      · exact Or.inr F64.clampPct_hundred
    · rw [get_force_of_ne heq]
      exact h.level id ((mem_forced_force.1 hid).resolve_left heq)
  · intro id hid
    obtain ⟨hne, hid⟩ := not_or.1 (mem_forced_force.not.1 hid)
    rw [get_force_of_ne hne]
    exact h.kept id hid

end Forcing

/-! ## The interlocks -/

/-- The latches of the two interlocks. -/
structure InterlockState where
  criticalTemperature : Latch := {}
  co2Ceiling : Latch := {}
  deriving DecidableEq

namespace InterlockState

/-- Heater off, all cooling at full. -/
def fullCooling (f : Forcing) : Forcing :=
  ((f.force .heater 0).force .fans 100).force .roofVents 100

/-- Heater and cooling off: the hold when there is no temperature. -/
def blindHold (f : Forcing) : Forcing :=
  ((f.force .heater 0).force .fans 0).force .roofVents 0

def temperatureOver (t : F64) (cfg : Config) : Bool := cfg.safety.criticalTemperatureC < t

def temperatureRecovered (t : F64) (cfg : Config) : Bool :=
  t < cfg.safety.criticalTemperatureC - cfg.safety.interlockRearmHysteresis.temperatureC

/-- The critical-temperature interlock. -/
def applyTemperature (latch : Latch) (temperature : Option F64) (cfg : Config) (clock : Clock)
    (f : Forcing) : Latch × Forcing × List Fault :=
  match temperature with
  | some t =>
    let latch := latch.update (temperatureOver t cfg) (temperatureRecovered t cfg) clock
      cfg.safety.interlockMinHoldSecs
    if latch.asserted then
      (latch, fullCooling f, [{
        component := "temperature", faultType := .criticalTemperature, severity := .alarm
        message := "air temperature " ++ t.fixed 1 ++ "°C above critical max "
          ++ cfg.safety.criticalTemperatureC.fixed 1 ++ "°C"
        response := "heater off; all cooling at full" }])
    else (latch, f, [])
  | none => ({}, blindHold f, [])

def ceilingPpm (cfg : Config) : F64 := F64.ofNat cfg.safety.co2CeilingPpm

def co2Over (c : F64) (cfg : Config) : Bool := ceilingPpm cfg < c

def co2Recovered (c : F64) (cfg : Config) : Bool :=
  c < ceilingPpm cfg - cfg.safety.interlockRearmHysteresis.co2Ppm

/-- Vents open, injector off. -/
def ventOut (f : Forcing) : Forcing := (f.force .roofVents 100).force .co2Injector 0

/-- The CO₂-ceiling interlock; without a reading neither the latch nor the command moves. -/
def applyCo2 (latch : Latch) (co2 : Option F64) (cfg : Config) (clock : Clock) (f : Forcing) :
    Latch × Forcing × List Fault :=
  match co2 with
  | some c =>
    let latch := latch.update (co2Over c cfg) (co2Recovered c cfg) clock
      cfg.safety.interlockMinHoldSecs
    if latch.asserted then
      (latch, ventOut f, [{
        component := "co2", faultType := .co2Ceiling, severity := .alarm
        message := "CO₂ " ++ c.fixed 0 ++ " ppm above safety ceiling "
          ++ (ceilingPpm cfg).fixed 0 ++ " ppm"
        response := "vents open; CO₂ injector disabled" }])
    else (latch, f, [])
  | none => (latch, f, [])

/-- Apply both interlocks to the command, collecting the actuators forced. -/
def apply (s : InterlockState) (trusted : TrustedState) (cfg : Config) (clock : Clock)
    (cmd : Commands) : InterlockState × Forcing × List Fault :=
  let (critical, f, faults) :=
    applyTemperature s.criticalTemperature trusted.temperature cfg clock ⟨cmd, ∅⟩
  let (ceiling, f, faults') := applyCo2 s.co2Ceiling trusted.co2 cfg clock f
  ({ criticalTemperature := critical, co2Ceiling := ceiling }, f, faults ++ faults')

/-! ## What the stage does -/

section Cases

variable {latch : Latch} {cfg : Config} {clock : Clock} {f : Forcing}

theorem fullCooling_forces (f : Forcing) :
    (fullCooling f).Forces .heater 0 ∧ (fullCooling f).Forces .fans 100 ∧
      (fullCooling f).Forces .roofVents 100 := by
  have hheater := Forcing.forces_force f .heater 0
  have hfans := Forcing.forces_force (f.force .heater 0) .fans 100
  have hvents := Forcing.forces_force ((f.force .heater 0).force .fans 100) .roofVents 100
  rw [F64.clampPct_zero] at hheater
  rw [F64.clampPct_hundred] at hfans hvents
  exact ⟨(hheater.force_of_ne (by decide)).force_of_ne (by decide),
    hfans.force_of_ne (by decide), hvents⟩

theorem blindHold_forces (f : Forcing) :
    (blindHold f).Forces .heater 0 ∧ (blindHold f).Forces .fans 0 ∧
      (blindHold f).Forces .roofVents 0 := by
  have hheater := Forcing.forces_force f .heater 0
  have hfans := Forcing.forces_force (f.force .heater 0) .fans 0
  have hvents := Forcing.forces_force ((f.force .heater 0).force .fans 0) .roofVents 0
  rw [F64.clampPct_zero] at hheater hfans hvents
  exact ⟨(hheater.force_of_ne (by decide)).force_of_ne (by decide),
    hfans.force_of_ne (by decide), hvents⟩

theorem ventOut_forces (f : Forcing) :
    (ventOut f).Forces .roofVents 100 ∧ (ventOut f).Forces .co2Injector 0 := by
  have hvents := Forcing.forces_force f .roofVents 100
  have hinjector := Forcing.forces_force (f.force .roofVents 100) .co2Injector 0
  rw [F64.clampPct_hundred] at hvents
  rw [F64.clampPct_zero] at hinjector
  exact ⟨hvents.force_of_ne (by decide), hinjector⟩

/-- Opening the vents leaves the forced levels of the other actuators. -/
theorem ventOut_keeps {a : Actuator} {v : F64} (h : f.Forces a v) (hv : a ≠ .roofVents)
    (hi : a ≠ .co2Injector) : (ventOut f).Forces a v :=
  (h.force_of_ne hv.symm).force_of_ne hi.symm

theorem applyTemperature_unavailable :
    applyTemperature latch none cfg clock f = ({}, blindHold f, []) := rfl

theorem applyTemperature_latch {t : F64} :
    (applyTemperature latch (some t) cfg clock f).1 =
      latch.update (temperatureOver t cfg) (temperatureRecovered t cfg) clock
        cfg.safety.interlockMinHoldSecs := by
  simp only [applyTemperature]
  split <;> rfl

theorem applyTemperature_asserted {t : F64}
    (h : (applyTemperature latch (some t) cfg clock f).1.asserted = true) :
    (applyTemperature latch (some t) cfg clock f).2.1 = fullCooling f := by
  rw [applyTemperature_latch] at h
  simp only [applyTemperature, if_pos h]

theorem applyTemperature_released {t : F64}
    (h : (applyTemperature latch (some t) cfg clock f).1.asserted = false) :
    (applyTemperature latch (some t) cfg clock f).2.1 = f := by
  rw [applyTemperature_latch] at h
  simp only [applyTemperature, h, if_neg Bool.false_ne_true]

theorem applyCo2_latch {c : F64} :
    (applyCo2 latch (some c) cfg clock f).1 =
      latch.update (co2Over c cfg) (co2Recovered c cfg) clock cfg.safety.interlockMinHoldSecs := by
  simp only [applyCo2]
  split <;> rfl

theorem applyCo2_unavailable : applyCo2 latch none cfg clock f = (latch, f, []) := rfl

theorem applyCo2_asserted {c : F64}
    (h : (applyCo2 latch (some c) cfg clock f).1.asserted = true) :
    (applyCo2 latch (some c) cfg clock f).2.1 = ventOut f := by
  rw [applyCo2_latch] at h
  simp only [applyCo2, if_pos h]

theorem applyCo2_released {c : F64}
    (h : (applyCo2 latch (some c) cfg clock f).1.asserted = false) :
    (applyCo2 latch (some c) cfg clock f).2.1 = f := by
  rw [applyCo2_latch] at h
  simp only [applyCo2, h, if_neg Bool.false_ne_true]

/-- The CO₂ half either opens the vents and closes the injector, or moves nothing. -/
theorem applyCo2_cases (latch : Latch) (co2 : Option F64) (cfg : Config) (clock : Clock)
    (f : Forcing) :
    (applyCo2 latch co2 cfg clock f).2.1 = ventOut f ∨
      (applyCo2 latch co2 cfg clock f).2.1 = f := by
  cases co2 with
  | none => exact Or.inr rfl
  | some c =>
    cases h : (applyCo2 latch (some c) cfg clock f).1.asserted with
    | true => exact Or.inl (applyCo2_asserted h)
    | false => exact Or.inr (applyCo2_released h)

/-- Above the critical temperature the interlock is asserted, whatever its latch was. -/
theorem applyTemperature_over {t : F64}
    (hrearm : ¬ cfg.safety.interlockRearmHysteresis.temperatureC < 0)
    (hover : cfg.safety.criticalTemperatureC < t) :
    (applyTemperature latch (some t) cfg clock f).1.asserted = true := by
  rw [applyTemperature_latch]
  exact Latch.asserted_update (decide_eq_true hover)
    (decide_eq_false (F64.not_lt_sub_of_lt hrearm hover))

theorem applyCo2_over {c : F64} (hrearm : ¬ cfg.safety.interlockRearmHysteresis.co2Ppm < 0)
    (hover : ceilingPpm cfg < c) :
    (applyCo2 latch (some c) cfg clock f).1.asserted = true := by
  rw [applyCo2_latch]
  exact Latch.asserted_update (decide_eq_true hover)
    (decide_eq_false (F64.not_lt_sub_of_lt hrearm hover))

end Cases

section Stage

variable {s : InterlockState} {trusted : TrustedState} {cfg : Config} {clock : Clock}
  {cmd : Commands}

theorem apply_criticalTemperature :
    (s.apply trusted cfg clock cmd).1.criticalTemperature =
      (applyTemperature s.criticalTemperature trusted.temperature cfg clock ⟨cmd, ∅⟩).1 := rfl

theorem apply_co2Ceiling :
    (s.apply trusted cfg clock cmd).1.co2Ceiling =
      (applyCo2 s.co2Ceiling trusted.co2 cfg clock
        (applyTemperature s.criticalTemperature trusted.temperature cfg clock ⟨cmd, ∅⟩).2.1).1 :=
  rfl

theorem apply_forcing :
    (s.apply trusted cfg clock cmd).2.1 =
      (applyCo2 s.co2Ceiling trusted.co2 cfg clock
        (applyTemperature s.criticalTemperature trusted.temperature cfg clock ⟨cmd, ∅⟩).2.1).2.1 :=
  rfl

/-- A level the temperature half forces on the heater or the fans leaves the stage. -/
theorem apply_forces_of_temperature {a : Actuator} {v : F64} (hv : a ≠ .roofVents)
    (hi : a ≠ .co2Injector)
    (h : (applyTemperature s.criticalTemperature trusted.temperature cfg clock
      ⟨cmd, ∅⟩).2.1.Forces a v) :
    (s.apply trusted cfg clock cmd).2.1.Forces a v := by
  rw [apply_forcing]
  rcases applyCo2_cases s.co2Ceiling trusted.co2 cfg clock
    (applyTemperature s.criticalTemperature trusted.temperature cfg clock ⟨cmd, ∅⟩).2.1
    with heq | heq
  · rw [heq]
    exact ventOut_keeps h hv hi
  · rw [heq]
    exact h

/-- **Critical temperature**: while asserted, heater off and all cooling at full. -/
theorem apply_critical {t : F64} (ht : trusted.temperature = some t)
    (h : (s.apply trusted cfg clock cmd).1.criticalTemperature.asserted = true) :
    (s.apply trusted cfg clock cmd).2.1.Forces .heater 0 ∧
      (s.apply trusted cfg clock cmd).2.1.Forces .fans 100 ∧
      (s.apply trusted cfg clock cmd).2.1.Forces .roofVents 100 := by
  rw [apply_criticalTemperature, ht] at h
  have hcool := applyTemperature_asserted h
  rw [← ht] at hcool
  have hforces := fullCooling_forces (⟨cmd, ∅⟩ : Forcing)
  rw [← hcool] at hforces
  obtain ⟨hheater, hfans, hvents⟩ := hforces
  refine ⟨apply_forces_of_temperature (by decide) (by decide) hheater,
    apply_forces_of_temperature (by decide) (by decide) hfans, ?_⟩
  rw [apply_forcing]
  rcases applyCo2_cases s.co2Ceiling trusted.co2 cfg clock
    (applyTemperature s.criticalTemperature trusted.temperature cfg clock ⟨cmd, ∅⟩).2.1
    with heq | heq
  · rw [heq]
    exact (ventOut_forces _).1
  · rw [heq]
    exact hvents

/-- **No temperature**: the heater and the fans are held off. -/
theorem apply_blind (ht : trusted.temperature = none) :
    (s.apply trusted cfg clock cmd).2.1.Forces .heater 0 ∧
      (s.apply trusted cfg clock cmd).2.1.Forces .fans 0 := by
  have hforces := blindHold_forces (⟨cmd, ∅⟩ : Forcing)
  refine ⟨apply_forces_of_temperature (by decide) (by decide) ?_,
    apply_forces_of_temperature (by decide) (by decide) ?_⟩
  · rw [ht, applyTemperature_unavailable]
    exact hforces.1
  · rw [ht, applyTemperature_unavailable]
    exact hforces.2.1

/-- **CO₂ ceiling**: while asserted with a reading, vents open and injector off. -/
theorem apply_ceiling {c : F64} (hc : trusted.co2 = some c)
    (h : (s.apply trusted cfg clock cmd).1.co2Ceiling.asserted = true) :
    (s.apply trusted cfg clock cmd).2.1.Forces .roofVents 100 ∧
      (s.apply trusted cfg clock cmd).2.1.Forces .co2Injector 0 := by
  rw [apply_co2Ceiling, hc] at h
  rw [apply_forcing, hc, applyCo2_asserted h]
  exact ventOut_forces _

/-- The stage keeps the addresses of the command. -/
theorem mem_ids_apply {id : ActuatorId} (h : id ∈ cmd.ids) :
    id ∈ (s.apply trusted cfg clock cmd).2.1.cmd.ids := by
  have htemp : id ∈ (applyTemperature s.criticalTemperature trusted.temperature cfg clock
      ⟨cmd, ∅⟩).2.1.cmd.ids := by
    unfold applyTemperature
    split
    · dsimp only
      split
      · exact Forcing.mem_ids_force (Forcing.mem_ids_force (Forcing.mem_ids_force h))
      · exact h
    · exact Forcing.mem_ids_force (Forcing.mem_ids_force (Forcing.mem_ids_force h))
  rw [apply_forcing]
  rcases applyCo2_cases s.co2Ceiling trusted.co2 cfg clock
    (applyTemperature s.criticalTemperature trusted.temperature cfg clock ⟨cmd, ∅⟩).2.1
    with heq | heq
  · rw [heq]
    exact Forcing.mem_ids_force (Forcing.mem_ids_force htemp)
  · rw [heq]
    exact htemp

/-- The stage keeps percentages. -/
theorem apply_isPct {id : ActuatorId} (h : (cmd.get id).IsPct) :
    ((s.apply trusted cfg clock cmd).2.1.cmd.get id).IsPct := by
  have htemp : ((applyTemperature s.criticalTemperature trusted.temperature cfg clock
      ⟨cmd, ∅⟩).2.1.cmd.get id).IsPct := by
    unfold applyTemperature
    split
    · dsimp only
      split
      · exact Forcing.isPct_force (Forcing.isPct_force (Forcing.isPct_force h F64.isPct_zero)
          F64.isPct_hundred) F64.isPct_hundred
      · exact h
    · exact Forcing.isPct_force (Forcing.isPct_force (Forcing.isPct_force h F64.isPct_zero)
        F64.isPct_zero) F64.isPct_zero
  rw [apply_forcing]
  rcases applyCo2_cases s.co2Ceiling trusted.co2 cfg clock
    (applyTemperature s.criticalTemperature trusted.temperature cfg clock ⟨cmd, ∅⟩).2.1
    with heq | heq
  · rw [heq]
    exact Forcing.isPct_force (Forcing.isPct_force htemp F64.isPct_hundred) F64.isPct_zero
  · rw [heq]
    exact htemp

/-- **What the stage does to any actuator**: it forces the heater and the cooling, and the
injector when there is a CO₂ reading, to `0` or `100`; the rest keeps its level. -/
theorem apply_over : (s.apply trusted cfg clock cmd).2.1.Over cmd ∧
    ∀ id ∈ (s.apply trusted cfg clock cmd).2.1.forced,
      id ∈ [ActuatorId.house .heater, .house .fans, .house .roofVents] ∨
        (id = .house .co2Injector ∧ trusted.co2 ≠ none) := by
  have htemp : (applyTemperature s.criticalTemperature trusted.temperature cfg clock
      ⟨cmd, ∅⟩).2.1.Over cmd ∧ ∀ id ∈ (applyTemperature s.criticalTemperature trusted.temperature
        cfg clock ⟨cmd, ∅⟩).2.1.forced,
        id ∈ [ActuatorId.house .heater, .house .fans, .house .roofVents] := by
    have hover := Forcing.over_self cmd
    have hnone : ∀ id ∈ (∅ : TreeSet ActuatorId),
        id ∈ [ActuatorId.house .heater, .house .fans, .house .roofVents] :=
      fun id hid => absurd hid TreeSet.not_mem_emptyc
    unfold applyTemperature
    split
    · dsimp only
      split
      · refine ⟨((hover.force _ (Or.inl rfl)).force _ (Or.inr rfl)).force _ (Or.inr rfl), ?_⟩
        simp only [fullCooling, Forcing.mem_forced_force]
        grind
      · exact ⟨hover, hnone⟩
    · refine ⟨((hover.force _ (Or.inl rfl)).force _ (Or.inl rfl)).force _ (Or.inl rfl), ?_⟩
      simp only [blindHold, Forcing.mem_forced_force]
      grind
  rw [apply_forcing]
  obtain ⟨hover, hforced⟩ := htemp
  cases hco2 : trusted.co2 with
  | none => exact ⟨hover, fun id hid => Or.inl (hforced id hid)⟩
  | some c =>
    rcases applyCo2_cases s.co2Ceiling (some c) cfg clock (applyTemperature s.criticalTemperature
      trusted.temperature cfg clock ⟨cmd, ∅⟩).2.1 with heq | heq
    · rw [heq]
      refine ⟨(hover.force _ (Or.inr rfl)).force _ (Or.inl rfl), fun id hid => ?_⟩
      simp only [ventOut, Forcing.mem_forced_force] at hid
      rcases hid with rfl | rfl | hid
      · exact Or.inr ⟨rfl, Option.some_ne_none c⟩
      · exact Or.inl (by simp)
      · exact Or.inl (hforced id hid)
    · rw [heq]
      exact ⟨hover, fun id hid => Or.inl (hforced id hid)⟩

end Stage

end InterlockState

end Greenhouse.Controller
