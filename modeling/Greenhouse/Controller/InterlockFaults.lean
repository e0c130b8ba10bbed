import Greenhouse.Controller.FaultSources

/-!
# The interlock faults of a tick

Three stages of a tick raise a fault that is an interlock: the sensor side when it has no
temperature, the health monitor for a flat valve, and the interlocks themselves, which come last.

* `Placed`: where these faults stand in the list of a tick.
* `Pipeline.Advanced.placed`: they stand so on every tick.
* `Pipeline.CeilingHeld`: the CO₂ ceiling holds with a tick.
-/

namespace Greenhouse.Controller

open Greenhouse.Numeric Std

/-! ## The sensor side -/

/-- A channel that is not trusted is no interlock. -/
theorem classify_quiet (component response : String) (zone : Option Slug) (value : F64)
    (bounds : Bounds) (unchanged stuckWindow : Nat) :
    ∀ f ∈ (classify component zone value bounds unchanged stuckWindow response).2,
      f.faultType.isInterlock = false := by
  unfold classify
  split
  · simp [FaultType.isInterlock]
  · split
    · simp [FaultType.isInterlock]
    · simp

namespace SensingState

theorem foldl_conditionSoil_quiet {cfg : Sensing} (l : List (Slug × F64)) {acc : Soil}
    (h : ∀ f ∈ acc.faults, f.faultType.isInterlock = false) :
    ∀ f ∈ (l.foldl (conditionSoil cfg) acc).faults, f.faultType.isInterlock = false := by
  induction l generalizing acc with
  | nil => exact h
  | cons r l ih =>
    refine ih fun f hf => ?_
    rcases List.mem_append.1 hf with hf | hf
    · exact h f hf
    · exact classify_quiet _ _ _ _ _ _ _ f hf

/-- **The sensor side raises an interlock fault exactly when it has no temperature**, and then it
is that one. -/
theorem condition_interlock [Libm] (s : SensingState) (raw : RawReadings) (cfg : Sensing) :
    (∀ f ∈ (s.condition raw cfg).2.2, f.faultType.isInterlock = true →
      f.faultType = .temperatureUnavailable) ∧
    ((∃ f ∈ (s.condition raw cfg).2.2, f.faultType = .temperatureUnavailable) ↔
      (s.condition raw cfg).2.1.temperature = none) := by
  obtain ⟨htypes, hnone⟩ := fuseTemperature_faults raw.temperatureProbes cfg
  have hcases : ∀ f ∈ (s.condition raw cfg).2.2,
      f ∈ (fuseTemperature raw.temperatureProbes cfg).2 ∨ f.faultType.isInterlock = false := by
    intro f hf
    simp only [condition, List.mem_append] at hf
    rcases hf with (((hf | hf) | hf) | hf) | hf
    · exact .inl hf
    · exact .inr (classify_quiet _ _ _ _ _ _ _ f hf)
    · exact .inr (classify_quiet _ _ _ _ _ _ _ f hf)
    · exact .inr (classify_quiet _ _ _ _ _ _ _ f hf)
    · exact .inr (foldl_conditionSoil_quiet _ (fun _ hmem => absurd hmem List.not_mem_nil) f hf)
  constructor
  · intro f hf hinterlock
    have hfused := (hcases f hf).resolve_right (by simp [hinterlock])
    have hmem := (htypes f hfused).2
    simp only [List.mem_cons, List.not_mem_nil, or_false] at hmem
    rcases hmem with htype | htype | htype
    · exact htype
    · rw [htype] at hinterlock
      cases hinterlock
    · rw [htype] at hinterlock
      cases hinterlock
  · show _ ↔ (fuseTemperature raw.temperatureProbes cfg).1 = none
    rw [← hnone]
    constructor
    · rintro ⟨f, hf, htype⟩
      refine ⟨f, (hcases f hf).resolve_right ?_, htype⟩
      rw [htype]
      decide
    · rintro ⟨f, hf, htype⟩
      refine ⟨f, ?_, htype⟩
      simp only [condition, List.append_assoc]
      exact List.mem_append_left _ hf

end SensingState

/-! ## The fault list -/

/-- The list of a tick: `sensed` is the sensor side with the stuck actuators, `flats` are the zones
of the flat valves, `quiet` is what the loops and the rest of the monitor raise, `critical` and
`ceiling` are the interlocks. -/
structure Placed (faults sensed : List Fault) (flats : List Slug) (quiet critical ceiling :
    List Fault) : Prop where
  faults_eq : faults = sensed ++ flats.map flatFault ++ quiet ++ critical ++ ceiling
  sensed_type : ∀ f ∈ sensed, f.faultType.isInterlock = true →
    f.faultType = .temperatureUnavailable
  quiet_type : ∀ f ∈ quiet, f.faultType.isInterlock = false
  critical_type : ∀ f ∈ critical, f.faultType = .criticalTemperature
  ceiling_type : ∀ f ∈ ceiling, f.faultType = .co2Ceiling
  house : ∀ f ∈ quiet ++ critical ++ ceiling, f.zoneId = none

namespace Pipeline

variable {H : Type} [Hal H] [Libm] {p p' : Pipeline H} {snap : Snapshot} {loops : ControlOutput}

/-- The CO₂ ceiling holds with this tick: there is a reading, and with it the latch is asserted. -/
def CeilingHeld (p : Pipeline H) : Prop :=
  ∃ c ∈ p.trusted.co2, (p.interlocks.co2Ceiling.update (InterlockState.co2Over c p.config)
    (InterlockState.co2Recovered c p.config) p.clock
    p.config.safety.interlockMinHoldSecs).asserted = true

instance (p : Pipeline H) : Decidable p.CeilingHeld :=
  inferInstanceAs (Decidable (∃ c ∈ p.trusted.co2, _ = true))

/-- **Where the interlock faults of a tick stand, and when each is raised.** -/
theorem Advanced.placed (h : Advanced p p' snap loops) :
    ∃ sensed flats quiet critical ceiling,
      Placed snap.faults sensed flats quiet critical ceiling ∧
        ((∃ f ∈ sensed, f.faultType = .temperatureUnavailable) ↔ p.trusted.temperature = none) ∧
        (∀ z, z ∈ flats ↔ p.flatValve z) ∧
        (critical ≠ [] → p.trusted.temperature ≠ none) ∧
        (ceiling ≠ [] ↔ p.CeilingHeld) := by
  obtain ⟨flats, fs, hmonitored, hflat, hfs⟩ := p.monitored_faults snap.resolved
  obtain ⟨hinterlock, hblind⟩ :=
    SensingState.condition_interlock p.sensing (Hal.read p.hal) p.config.sensing
  let cmd : Forcing := ⟨(p.overrides.expire p.clock).apply loops.cmd, ∅⟩
  have hcritical := InterlockState.applyTemperature_faults p.interlocks.criticalTemperature
    p.trusted.temperature p.config p.clock cmd
  obtain ⟨hceiling, hheld⟩ := InterlockState.applyCo2_faults p.interlocks.co2Ceiling p.trusted.co2
    p.config p.clock (InterlockState.applyTemperature p.interlocks.criticalTemperature
      p.trusted.temperature p.config p.clock cmd).2.1
  have hloops := ControlState.run_unreachable h.run
  have hstuck : ∀ f ∈ p.stuckIds.map stuckFault, f.faultType = .actuatorStuck := by
    intro f hf
    obtain ⟨id, -, rfl⟩ := List.mem_map.1 hf
    rfl
  refine ⟨p.conditioned.2.2 ++ p.stuckIds.map stuckFault, flats, fs ++ loops.faults, _, _,
    ⟨?_, ?_, ?_, fun f hf => (hcritical f hf).2.2, fun f hf => (hceiling f hf).2, ?_⟩, ?_, hflat,
    ?_, ?_⟩
  · rw [h.faults, hmonitored]
    simp only [List.append_assoc]
    rfl
  · intro f hf htype
    rcases List.mem_append.1 hf with hf | hf
    · exact hinterlock f hf htype
    · rw [hstuck f hf] at htype
      cases htype
  · intro f hf
    rcases List.mem_append.1 hf with hf | hf
    · rw [(hfs f hf).2]
      rfl
    · rw [(hloops f hf).2]
      rfl
  · intro f hf
    simp only [List.mem_append] at hf
    rcases hf with ((hf | hf) | hf) | hf
    · exact (hfs f hf).1
    · exact (hloops f hf).1
    · exact (hcritical f hf).2.1
    · exact (hceiling f hf).1
  · refine Iff.trans ?_ hblind
    constructor
    · rintro ⟨f, hf, htype⟩
      rcases List.mem_append.1 hf with hf | hf
      · exact ⟨f, hf, htype⟩
      · rw [hstuck f hf] at htype
        cases htype
    · rintro ⟨f, hf, htype⟩
      exact ⟨f, List.mem_append_left _ hf, htype⟩
  · intro hne
    obtain ⟨f, hf⟩ := List.exists_mem_of_ne_nil _ hne
    exact (hcritical f hf).1
  · rw [← List.length_pos_iff, List.length_pos_iff_exists_mem, hheld, CeilingHeld]
    cases p.trusted.co2 with
    | none => simp
    | some c =>
      rw [InterlockState.applyCo2_latch]
      simp

end Pipeline

end Greenhouse.Controller
