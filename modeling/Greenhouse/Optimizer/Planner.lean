import Mathlib.Algebra.Order.Group.Pointwise.Interval
import Greenhouse.Optimizer.Clamping
import Greenhouse.Optimizer.Cycle
import Greenhouse.Process.Drift

/-!
# From a decision to a plan

The model of the planner only says by how much each climate target should change. The planner
adds the changes to the current targets, holds each to the range of its field, clamps it to the
crop-safe envelope, and makes a plan of one point of the result.

* `assemble_verdict`: what becomes of a decision, up to the application gate.
* `targets_of_cycles`: whatever the model decides, cycle after cycle, no target leaves its
  envelope or moves by more than its cap a cycle.
-/

namespace Greenhouse.Optimizer

open Greenhouse.Numeric Greenhouse.Platform Greenhouse.Process

/-! ## Decisions -/

/-- A change for each climate target. -/
structure Deltas where
  temperatureDayC : Option ℚ := none
  temperatureNightC : Option ℚ := none
  humidityLowPct : Option ℚ := none
  humidityHighPct : Option ℚ := none
  humidityDeadbandPct : Option ℚ := none
  co2TargetPpm : Option Int := none
  co2VentInterlockThresholdPct : Option ℚ := none
  vpdTargetKpa : Option ℚ := none
  dliTargetMol : Option ℚ := none
  deriving DecidableEq

/-- The changes that a model can decide on. -/
structure SetpointAdjustments extends Deltas where
  day : ∀ v, temperatureDayC = some v → Between (-3) 3 v
  night : ∀ v, temperatureNightC = some v → Between (-3) 3 v
  low : ∀ v, humidityLowPct = some v → Between (-10) 10 v
  high : ∀ v, humidityHighPct = some v → Between (-10) 10 v
  deadband : ∀ v, humidityDeadbandPct = some v → Between (-5) 5 v
  co2 : ∀ v, co2TargetPpm = some v → -150 ≤ v ∧ v ≤ 150
  interlock : ∀ v, co2VentInterlockThresholdPct = some v → Between (-10) 10 v
  vpd : ∀ v, vpdTargetKpa = some v → Between (-3 / 10) (3 / 10) v
  dli : ∀ v, dliTargetMol = some v → Between (-3) 3 v

/-- All that the model gives. -/
structure SetpointDecision where
  situation : String
  reasoning : String
  adjustments : SetpointAdjustments
  confidence : ℚ
  confidence_range : Between 0 1 confidence

/-- A decision and who made it. -/
structure BackendDraft where
  decision : SetpointDecision
  provider : Provider
  model : String
  role : BackendRole

/-! ## Assembly -/

def atLeast (ge : Option ℚ) (target : ℚ) : ℚ :=
  match ge with
  | some lo => max target lo
  | none => target

def atMost (le : Option ℚ) (target : ℚ) : ℚ :=
  match le with
  | some hi => min target hi
  | none => target

/-- A target held to the range of its field, which may have one end only. -/
def held (ge le : Option ℚ) (target : ℚ) : ℚ := atMost le (atLeast ge target)

/-- The changes other than zero. -/
def Deltas.nonzero (d : Deltas) : Deltas where
  temperatureDayC := d.temperatureDayC.filter (· ≠ 0)
  temperatureNightC := d.temperatureNightC.filter (· ≠ 0)
  humidityLowPct := d.humidityLowPct.filter (· ≠ 0)
  humidityHighPct := d.humidityHighPct.filter (· ≠ 0)
  humidityDeadbandPct := d.humidityDeadbandPct.filter (· ≠ 0)
  co2TargetPpm := d.co2TargetPpm.filter (· ≠ 0)
  co2VentInterlockThresholdPct := d.co2VentInterlockThresholdPct.filter (· ≠ 0)
  vpdTargetKpa := d.vpdTargetKpa.filter (· ≠ 0)
  dliTargetMol := d.dliTargetMol.filter (· ≠ 0)

/-- The changed targets. -/
def adjusted (current : GlobalSetpoints) (d : Deltas) : GlobalPatch where
  temperatureDayC := d.temperatureDayC.map fun v =>
    held (some (-20)) (some 60) (current.temperatureDayC + v)
  temperatureNightC := d.temperatureNightC.map fun v =>
    held (some (-20)) (some 60) (current.temperatureNightC + v)
  humidityLowPct := d.humidityLowPct.map fun v =>
    held (some 0) (some 100) (current.humidityLowPct + v)
  humidityHighPct := d.humidityHighPct.map fun v =>
    held (some 0) (some 100) (current.humidityHighPct + v)
  humidityDeadbandPct := d.humidityDeadbandPct.map fun v =>
    held (some 0) (some 50) (current.humidityDeadbandPct + v)
  co2TargetPpm := d.co2TargetPpm.map fun v : Int =>
    roundHalfEven (held (some 0) (some 5000) (current.co2TargetPpm + v))
  co2VentInterlockThresholdPct := d.co2VentInterlockThresholdPct.map fun v =>
    held (some 0) (some 100) (current.co2VentInterlockThresholdPct + v)
  vpdTargetKpa := d.vpdTargetKpa.map fun v => held (some 0) none (current.vpdTargetKpa + v)
  dliTargetMol := d.dliTargetMol.map fun v => held (some 0) none (current.dliTargetMol + v)

/-- The changes as a patch; `none` when the result is not a valid one. -/
def applyAdjustments (current : Setpoints) (deltas : Deltas) : Option SetpointsPatch :=
  SetpointsPatch.build? (adjusted current.toGlobalSetpoints deltas) none

/-- `str.strip`. -/
def strip (text : String) : String :=
  String.ofList ((text.toList.dropWhile isSpace).reverse.dropWhile isSpace).reverse

/-- What the operator is told. -/
def explain (decision : SetpointDecision) (clampedFields : List String) : String :=
  let rationale := strip (decision.situation ++ " " ++ decision.reasoning)
  let explanation := if rationale = "" then "planner gave no rationale" else rationale
  if clampedFields = [] then explanation
  else explanation ++ " [clamped to crop-safe: " ++ ", ".intercalate clampedFields ++ "]"

theorem explain_ne_empty (decision : SetpointDecision) (clampedFields : List String) :
    explain decision clampedFields ≠ "" := by
  unfold explain
  dsimp only
  split
  · split
    · decide
    · assumption
  · intro h
    have hlength := congrArg String.length h
    simp only [String.length_append] at hlength
    have : (" [clamped to crop-safe: " : String).length = 24 := by decide
    rw [this] at hlength
    simp at hlength

/-- A plan of one point. -/
def planOf (decision : SetpointDecision) (clamp : ClampResult) (horizon : Horizon) :
    OptimizerPlan where
  trajectory := [⟨horizon.start, clamp.patch⟩]
  immediateSetpoints := clamp.patch
  confidence := decision.confidence
  explanation := explain decision clamp.clampedFields
  trajectory_nonempty := List.cons_ne_nil _ _
  confidence_range := decision.confidence_range
  explanation_nonempty := explain_ne_empty _ _

/-- What a decision comes to: no change, an error of a model, or a plan. -/
inductive Assembled where
  | noChange
  | invalid
  | plan (output : BackendOutput) (clampedFields : List String)

/-- Turn a decision into a plan. -/
def assemble (draft : BackendDraft) (current : CurrentSetpoints) (horizon : Horizon) :
    Assembled :=
  let deltas := draft.decision.adjustments.nonzero
  if deltas = {} then .noChange
  else
    match (applyAdjustments current.targets deltas).bind (clampToBounds · current.bounds) with
    | none => .invalid
    | some clamp =>
      .plan ⟨planOf draft.decision clamp horizon, draft.provider, draft.model, draft.role⟩
        clamp.clampedFields

/-! ## The adjusted targets -/

section Held

variable {ge le : Option ℚ} {x target : ℚ}

/-- A target is in a range. -/
def InRange (ge le : Option ℚ) (x : ℚ) : Prop := (∀ lo, ge = some lo → lo ≤ x) ∧
  ∀ hi, le = some hi → x ≤ hi

theorem held_inRange (ge le : Option ℚ) (target : ℚ)
    (h : ∀ lo hi, ge = some lo → le = some hi → lo ≤ hi) :
    InRange ge le (held ge le target) := by
  unfold held atLeast atMost InRange
  cases ge with
  | none =>
    cases le with
    | none => simp
    | some hi => simp
  | some lo =>
    cases le with
    | none => simp
    | some hi => simp [h lo hi rfl rfl]

/-- A target that starts in its range is stopped on its way. -/
theorem held_mem_uIcc (h : InRange ge le x) : held ge le target ∈ Set.uIcc x target := by
  have hlow : atLeast ge target ∈ Set.uIcc x target := by
    cases ge with
    | none => exact Set.right_mem_uIcc
    | some lo => exact max_mem_uIcc (h.1 lo rfl)
  have hhigh : atMost le (atLeast ge target) ∈ Set.uIcc x (atLeast ge target) := by
    cases le with
    | none => exact Set.right_mem_uIcc
    | some hi => exact min_mem_uIcc (h.2 hi rfl)
  exact Set.uIcc_subset_uIcc Set.left_mem_uIcc hlow hhigh

end Held

/-- A target between two integers is rounded to one between them. -/
theorem roundHalfEven_mem_uIcc {m n : Int} {q : ℚ} (h : q ∈ Set.uIcc (m : ℚ) n) :
    ((roundHalfEven q : Int) : ℚ) ∈ Set.uIcc (m : ℚ) n := by
  rw [Set.mem_uIcc] at h ⊢
  refine h.imp (fun hq => ?_) fun hq => ?_
  · exact ⟨Int.cast_le.2 (le_roundHalfEven hq.1), Int.cast_le.2 (roundHalfEven_le hq.2)⟩
  · exact ⟨Int.cast_le.2 (le_roundHalfEven hq.1), Int.cast_le.2 (roundHalfEven_le hq.2)⟩

/-! ## The targets by name -/

/-- How a target is changed: by how much at most, and within which range. -/
structure Adjustable where
  ofDeltas : Deltas → Option ℚ
  cap : ℚ
  ge : Option ℚ
  le : Option ℚ

/-- The climate targets that a decision can change, in the order of `boundedScalars`. -/
def adjustments : List Adjustable := [
  ⟨fun d => d.temperatureDayC, 3, some (-20), some 60⟩,
  ⟨fun d => d.temperatureNightC, 3, some (-20), some 60⟩,
  ⟨fun d => d.humidityLowPct, 10, some 0, some 100⟩,
  ⟨fun d => d.humidityHighPct, 10, some 0, some 100⟩,
  ⟨fun d => d.humidityDeadbandPct, 5, some 0, some 50⟩,
  ⟨fun d => d.co2TargetPpm.map fun v : Int => (v : ℚ), 150, some 0, some 5000⟩,
  ⟨fun d => d.co2VentInterlockThresholdPct, 10, some 0, some 100⟩,
  ⟨fun d => d.vpdTargetKpa, 3 / 10, some 0, none⟩,
  ⟨fun d => d.dliTargetMol, 3, some 0, none⟩]

def adjustables : List (BoundedScalar × Adjustable) := boundedScalars.zip adjustments

/-- The value of a target. -/
def BoundedScalar.value (f : BoundedScalar) (s : GlobalSetpoints) : ℚ :=
  (f.ofSetpoints s).toFloat

theorem cap_nonneg : ∀ x ∈ adjustables, 0 ≤ x.2.cap := by
  simp [adjustables, boundedScalars, adjustments]
  norm_num

/-- No change exceeds its cap. -/
theorem abs_le_cap (a : SetpointAdjustments) :
    ∀ x ∈ adjustables, ∀ v, x.2.ofDeltas a.nonzero = some v → |v| ≤ x.2.cap := by
  have hfloat : ∀ {o : Option ℚ} {c : ℚ}, (∀ v, o = some v → Between (-c) c v) →
      ∀ v, o.filter (· ≠ 0) = some v → |v| ≤ c := by
    intro o c h v hv
    exact abs_le.2 (h v (Option.eq_some_of_filter_eq_some hv))
  have hint : ∀ v, (a.co2TargetPpm.filter (· ≠ 0)).map (fun v : Int => (v : ℚ)) = some v →
      |v| ≤ 150 := by
    intro v hv
    obtain ⟨n, hn, rfl⟩ := Option.map_eq_some_iff.1 hv
    obtain ⟨hlo, hhi⟩ := a.co2 n (Option.eq_some_of_filter_eq_some hn)
    exact abs_le.2 ⟨by exact_mod_cast hlo, by exact_mod_cast hhi⟩
  have hvpd : ∀ v, a.vpdTargetKpa = some v → Between (-(3 / 10)) (3 / 10) v := by
    intro v hv
    have := a.vpd v hv
    rwa [neg_div] at this
  simp only [adjustables, boundedScalars, adjustments, List.zip_cons_cons, List.zip_nil_right,
    List.forall_mem_cons]
  exact ⟨hfloat a.day, hfloat a.night, hfloat a.low, hfloat a.high, hfloat a.deadband, hint,
    hfloat a.interlock, hfloat hvpd, hfloat a.dli, List.forall_mem_nil _⟩

/-- The current targets are in their ranges. -/
theorem inRange_value (s : Setpoints) :
    ∀ x ∈ adjustables, InRange x.2.ge x.2.le (x.1.value s.toGlobalSetpoints) := by
  have hboth : ∀ {lo hi v : ℚ}, Between lo hi v → InRange (some lo) (some hi) v := by
    rintro lo hi v ⟨hlo, hhi⟩
    exact ⟨fun _ h => Option.some.inj h ▸ hlo, fun _ h => Option.some.inj h ▸ hhi⟩
  have hlow : ∀ {lo v : ℚ}, lo ≤ v → InRange (some lo) none v := by
    intro lo v hlo
    exact ⟨fun _ h => Option.some.inj h ▸ hlo, fun _ h => by cases h⟩
  have hco2 : Between 0 5000 ((s.co2TargetPpm : Int) : ℚ) :=
    ⟨by exact_mod_cast s.co2.1, by exact_mod_cast s.co2.2⟩
  simp only [adjustables, boundedScalars, adjustments, List.zip_cons_cons, List.zip_nil_right,
    List.forall_mem_cons]
  exact ⟨hboth s.day, hboth s.night, hboth s.low, hboth s.high, hboth s.deadband, hboth hco2,
    hboth s.interlock, hlow s.vpd, hlow s.dli, List.forall_mem_nil _⟩

section Clamps

variable {bound : Option Bound} {ge le : Option ℚ}

/-- A target that starts in its envelope is stopped on its way. -/
theorem clampFloat_mem_uIcc {x value : ℚ} (h : InBound bound x) :
    clampFloat bound value ∈ Set.uIcc x value := by
  cases bound with
  | none => exact Set.right_mem_uIcc
  | some b =>
    obtain ⟨hmin, hmax⟩ := h b rfl
    simp only [clampFloat]
    split
    · exact Set.right_mem_uIcc
    · exact Set.uIcc_subset_uIcc Set.left_mem_uIcc (max_mem_uIcc hmin) (min_mem_uIcc hmax)

theorem clampInt_mem_uIcc {x value : Int} (h : InBound bound (x : ℚ)) :
    ((clampInt bound value : Int) : ℚ) ∈ Set.uIcc (x : ℚ) value := by
  have hclamped : clampFloat bound (value : ℚ) ∈ Set.uIcc (x : ℚ) value := clampFloat_mem_uIcc h
  cases bound with
  | none => exact Set.right_mem_uIcc
  | some b =>
    simp only [clampInt, clampFloat] at hclamped ⊢
    split
    · exact Set.right_mem_uIcc
    · rename_i hout
      rw [if_neg hout] at hclamped
      exact roundHalfEven_mem_uIcc hclamped

/-- A changed target that starts in its range and its envelope is stopped on its way. -/
theorem changed_float {x : ℚ} {o : Option ℚ} (hrange : InRange ge le x) (h : InBound bound x) :
    ∀ v, ((o.map fun d => held ge le (x + d)).map (clampFloat bound)).map Number.float = some v →
      ∃ d, o = some d ∧ v.toFloat ∈ Set.uIcc x (x + d) := by
  intro v hv
  cases o with
  | none => cases hv
  | some d =>
    obtain rfl := Option.some.inj hv
    exact ⟨d, rfl, Set.uIcc_subset_uIcc Set.left_mem_uIcc (held_mem_uIcc hrange)
      (clampFloat_mem_uIcc h)⟩

theorem changed_int {x : Int} {o : Option Int} (hrange : InRange ge le (x : ℚ))
    (h : InBound bound (x : ℚ)) :
    ∀ v, ((o.map fun d : Int => roundHalfEven (held ge le ((x : ℚ) + d))).map
      (clampInt bound)).map Number.int = some v →
      ∃ d, (o.map fun d : Int => (d : ℚ)) = some d ∧ v.toFloat ∈ Set.uIcc (x : ℚ) (x + d) := by
  intro v hv
  cases o with
  | none => cases hv
  | some d =>
    obtain rfl := Option.some.inj hv
    refine ⟨d, rfl, ?_⟩
    have hheld : held ge le ((x : ℚ) + d) ∈ Set.uIcc (x : ℚ) ((x + d : Int) : ℚ) := by
      rw [Int.cast_add]
      exact held_mem_uIcc hrange
    have hrounded := roundHalfEven_mem_uIcc hheld
    rw [Int.cast_add] at hrounded
    exact Set.uIcc_subset_uIcc Set.left_mem_uIcc hrounded (clampInt_mem_uIcc h)

end Clamps

/-- **A target in its envelope is moved towards where the decision wants it**, and no further. -/
theorem changed_mem_uIcc (s : Setpoints) (bounds : StageBounds) (d : Deltas) :
    ∀ x ∈ adjustables, InBound (x.1.ofBounds bounds) (x.1.value s.toGlobalSetpoints) →
      ∀ v, x.1.ofPatch (clampGlobals bounds (adjusted s.toGlobalSetpoints d)) = some v →
        ∃ change, x.2.ofDeltas d = some change ∧
          v.toFloat ∈ Set.uIcc (x.1.value s.toGlobalSetpoints)
            (x.1.value s.toGlobalSetpoints + change) := by
  have hrange := inRange_value s
  simp only [adjustables, boundedScalars, adjustments, List.zip_cons_cons, List.zip_nil_right,
    List.forall_mem_cons] at hrange ⊢
  obtain ⟨h₁, h₂, h₃, h₄, h₅, h₆, h₇, h₈, h₉, -⟩ := hrange
  exact ⟨changed_float h₁, changed_float h₂, changed_float h₃, changed_float h₄, changed_float h₅,
    changed_int h₆, changed_float h₇, changed_float h₈, changed_float h₉, List.forall_mem_nil _⟩

/-- A target of a patched bundle is the patch's, or what it was. -/
theorem value_applyTo (p : GlobalPatch) (s : GlobalSetpoints) : ∀ f ∈ boundedScalars,
    f.value (p.applyTo s) = ((f.ofPatch p).map Number.toFloat).getD (f.value s) := by
  have hfloat : ∀ (o : Option ℚ) (q : ℚ), o.getD q =
      (((o.map Number.float).map Number.toFloat).getD q) := by
    intro o q
    cases o <;> rfl
  have hint : ∀ (o : Option Int) (n : Int), ((o.getD n : Int) : ℚ) =
      (((o.map Number.int).map Number.toFloat).getD (n : ℚ)) := by
    intro o n
    cases o <;> rfl
  simp only [boundedScalars, List.forall_mem_cons]
  exact ⟨hfloat _ _, hfloat _ _, hfloat _ _, hfloat _ _, hfloat _ _, hint _ _, hfloat _ _,
    hfloat _ _, hfloat _ _, List.forall_mem_nil _⟩

/-! ## What becomes of a decision -/

theorem adjusted_eq_empty {s : GlobalSetpoints} {d : Deltas} (h : adjusted s d = {}) : d = {} := by
  simp only [adjusted, GlobalPatch.mk.injEq, Option.map_eq_none_iff] at h
  obtain ⟨h₁, h₂, -, -, h₃, h₄, h₅, h₆, h₇, h₈, h₉⟩ := h
  cases d
  simp only [Deltas.mk.injEq]
  exact ⟨h₁, h₂, h₃, h₄, h₅, h₆, h₇, h₈, h₉⟩

/-- Changed targets are in their ranges. -/
theorem validGlobals_adjusted (s : GlobalSetpoints) (d : Deltas) : ValidGlobals (adjusted s d) := by
  have hboth : ∀ {lo hi x : ℚ} {o : Option ℚ}, lo ≤ hi →
      ∀ v ∈ o.map fun d => held (some lo) (some hi) (x + d), Between lo hi v := by
    intro lo hi x o hle v hv
    obtain ⟨d, -, rfl⟩ := Option.map_eq_some_iff.1 hv
    have hin := held_inRange (some lo) (some hi) (x + d) fun _ _ hlo hhi =>
      Option.some.inj hlo ▸ Option.some.inj hhi ▸ hle
    exact ⟨hin.1 lo rfl, hin.2 hi rfl⟩
  have hlow : ∀ {lo x : ℚ} {o : Option ℚ},
      ∀ v ∈ o.map fun d => held (some lo) none (x + d), lo ≤ v := by
    intro lo x o v hv
    obtain ⟨d, -, rfl⟩ := Option.map_eq_some_iff.1 hv
    exact (held_inRange (some lo) none (x + d) fun _ _ _ hhi => by cases hhi).1 lo rfl
  have hnone : ∀ {P : String → Prop}, ∀ v ∈ (none : Option String), P v := by
    intro P v hv
    cases hv
  refine ⟨hboth (by norm_num), hboth (by norm_num), hnone, hnone, hboth (by norm_num),
    hboth (by norm_num), hboth (by norm_num), ?_, hboth (by norm_num), hlow, hlow⟩
  intro v hv
  obtain ⟨d, -, rfl⟩ := Option.map_eq_some_iff.1 hv
  have hin := held_inRange (some 0) (some 5000) ((s.co2TargetPpm : ℚ) + d) fun _ _ hlo hhi =>
    Option.some.inj hlo ▸ Option.some.inj hhi ▸ (by norm_num)
  exact ⟨le_roundHalfEven (by exact_mod_cast hin.1 0 rfl),
    roundHalfEven_le (by exact_mod_cast hin.2 5000 rfl)⟩

/-- **Changes make a patch**, of the changed targets. -/
theorem applyAdjustments_eq (current : Setpoints) {d : Deltas} (hd : d ≠ {}) :
    ∃ p, applyAdjustments current d = some p ∧
      p.toGlobalPatch = adjusted current.toGlobalSetpoints d ∧ p.zones = none := by
  have hne : adjusted current.toGlobalSetpoints d ≠ {} := fun h => hd (adjusted_eq_empty h)
  have hraw : ∀ zones, (none : Option (List Platform.ZoneTargets)) = some zones →
      ∃ valid : List ZoneTargets, valid.map (·.toZoneTargets) = zones := by
    intro zones h
    cases h
  obtain ⟨p, hp⟩ := SetpointsPatch.exists_build?
    (validGlobals_adjusted current.toGlobalSetpoints d) (.inl hne) hraw
  obtain ⟨hglobals, hzones⟩ := SetpointsPatch.build?_eq_some.1 hp
  exact ⟨p, hp, hglobals, Option.map_eq_none_iff.1 hzones⟩

/-- What clamping makes of a patch without zones, also in an envelope that is not crop-safe. -/
theorem globals_of_clampToBounds {patch : SetpointsPatch} {bounds : StageBounds} {r : ClampResult}
    (h : clampToBounds patch (some bounds) = some r) (hzones : patch.zones = none) :
    r.patch.toGlobalPatch = clampGlobals bounds patch.toGlobalPatch ∧ r.patch.zones = none := by
  unfold clampToBounds at h
  dsimp only at h
  split at h
  · rename_i hnil
    obtain rfl := Option.some.inj h
    exact ⟨(clamp_self (clampedFields_eq_nil.1 hnil)).1.symm, hzones⟩
  · obtain ⟨p, hp, rfl⟩ := Option.map_eq_some_iff.1 h
    obtain ⟨hglobals, hraw⟩ := SetpointsPatch.build?_eq_some.1 hp
    rw [hzones, Option.map_none] at hraw
    exact ⟨hglobals, Option.map_eq_none_iff.1 hraw⟩

section Verdict

variable {draft : BackendDraft} {current : CurrentSetpoints} {horizon : Horizon}
  {bounds : StageBounds} {output : BackendOutput} {fields : List String}

/-- **What a plan is made of**: one point, of the changed and clamped targets. -/
theorem plan_of_assemble (hbounds : current.bounds = some bounds)
    (h : assemble draft current horizon = .plan output fields) :
    output.plan.trajectory = [⟨horizon.start, output.plan.immediateSetpoints⟩] ∧
    output.plan.confidence = draft.decision.confidence ∧
    output.plan.immediateSetpoints.toGlobalPatch = clampGlobals bounds
      (adjusted current.targets.toGlobalSetpoints draft.decision.adjustments.nonzero) ∧
    output.plan.immediateSetpoints.zones = none := by
  unfold assemble at h
  dsimp only at h
  split at h
  · cases h
  · rename_i hne
    obtain ⟨p, hp, hglobals, hzones⟩ := applyAdjustments_eq current.targets hne
    rw [hp, Option.bind_some, hbounds] at h
    split at h
    · cases h
    · rename_i clamp hclamp
      cases h
      obtain ⟨hclamped, hnone⟩ := globals_of_clampToBounds hclamp hzones
      refine ⟨rfl, rfl, ?_, hnone⟩
      rw [← hglobals]
      exact hclamped

/-- A plan of one point at the start of its horizon is in time, and applies its point. -/
theorem onePoint_checks {plan : OptimizerPlan}
    (h : plan.trajectory = [⟨horizon.start, plan.immediateSetpoints⟩]) :
    (checkTrajectoryTiming plan horizon = none ↔ horizon.start ≤ horizon.stop) ∧
      checkImmediateMatchesTrajectory plan = none := by
  obtain ⟨trajectory, immediate, confidence, explanation, hne, hconfidence, hexplanation⟩ := plan
  obtain rfl : trajectory = [⟨horizon.start, immediate⟩] := h
  constructor
  · simp [checkTrajectoryTiming, OptimizerPlan.head, checkTimingFrom]
  · simp [checkImmediateMatchesTrajectory, OptimizerPlan.head, sameSignature, sameZones]

/-- What a changed and clamped patch needs for the gate to apply it: enough confidence, humidity
limits in order where both are changed, and a CO2 target that is rounded into its envelope. -/
def Applicable (bounds : StageBounds) (threshold confidence : ℚ) (changed : GlobalPatch) : Prop :=
  threshold ≤ confidence ∧
    (∀ low, (clampGlobals bounds changed).humidityLowPct = some low →
      ∀ high, (clampGlobals bounds changed).humidityHighPct = some high → low ≤ high) ∧
    ∀ n, changed.co2TargetPpm = some n → RoundsInside bounds.co2TargetPpm n

/-- **A decision to change something** makes a plan in a crop-safe envelope. -/
theorem plan_of_changes (draft : BackendDraft) (threshold : ℚ) (hsafe : CropSafe bounds)
    (hbounds : current.bounds = some bounds) (horder : horizon.start ≤ horizon.stop)
    (hne : draft.decision.adjustments.nonzero ≠ {}) :
    ∃ output fields, assemble draft current horizon = .plan output fields ∧
      ((evaluateApplication output.plan (some bounds) threshold horizon).status = .applied ↔
        Applicable bounds threshold draft.decision.confidence
          (adjusted current.targets.toGlobalSetpoints draft.decision.adjustments.nonzero)) := by
  obtain ⟨p, hp, hglobals, hzones⟩ := applyAdjustments_eq current.targets hne
  obtain ⟨clamp, hclamp, -, hclamped, -, hzoned⟩ := clampToBounds_spec hsafe p
  have hassemble : assemble draft current horizon = .plan
      ⟨planOf draft.decision clamp horizon, draft.provider, draft.model, draft.role⟩
      clamp.clampedFields := by
    simp only [assemble, if_neg hne, hp, Option.bind_some, hbounds, hclamp]
  obtain ⟨hone, hconfidence, hpatch, hnone⟩ := plan_of_assemble hbounds hassemble
  refine ⟨_, _, hassemble, ?_⟩
  obtain ⟨htiming, hmatches⟩ := onePoint_checks hone
  have hcrop : checkCropSafeRange clamp.patch (some bounds) = none ↔
      ∀ n, p.co2TargetPpm = some n → RoundsInside bounds.co2TargetPpm n := by
    rw [safe_iff hsafe hclamped hzoned, AllRoundInside]
    refine and_iff_left fun zb _ z hz => ?_
    rw [SetpointsPatch.zoneTargets, hzones] at hz
    cases hz
  have hempty : (planOf draft.decision clamp horizon).immediateSetpoints.zoneTargets = [] := by
    rw [SetpointsPatch.zoneTargets, hnone]
    rfl
  rw [evaluateApplication_applied, checkBundleConsistency_eq_none, hempty, hpatch, ← hglobals]
  simp only [hmatches, htiming, horder, ne_eq, reduceCtorEq, not_false_eq_true, true_and]
  constructor
  · rintro ⟨⟨hband, -⟩, hsafe', hthreshold⟩
    exact ⟨hthreshold, hband, hcrop.1 hsafe'⟩
  · rintro ⟨hthreshold, hband, hround⟩
    refine ⟨⟨hband, ?_, List.forall_mem_nil _⟩, hcrop.2 hround, hthreshold⟩
    intro start hstart
    rw [hglobals] at hstart
    cases hstart

/-- **What becomes of a decision** in a crop-safe envelope: where nothing is to be changed, no
plan; else a plan of one point, of the changed and clamped targets, which the gate applies exactly
when it is applicable. It is never an error of a model. -/
theorem assemble_verdict (draft : BackendDraft) (threshold : ℚ) (hsafe : CropSafe bounds)
    (hbounds : current.bounds = some bounds) (horder : horizon.start ≤ horizon.stop) :
    let changed := adjusted current.targets.toGlobalSetpoints
      draft.decision.adjustments.nonzero
    (draft.decision.adjustments.nonzero = {} ∧
      assemble draft current horizon = .noChange) ∨
    (draft.decision.adjustments.nonzero ≠ {} ∧ ∃ output fields,
      assemble draft current horizon = .plan output fields ∧
      output.plan.trajectory = [⟨horizon.start, output.plan.immediateSetpoints⟩] ∧
      output.plan.immediateSetpoints.toGlobalPatch = clampGlobals bounds changed ∧
      output.plan.immediateSetpoints.zones = none ∧
      ((evaluateApplication output.plan (some bounds) threshold horizon).status = .applied ↔
        Applicable bounds threshold draft.decision.confidence changed)) := by
  intro changed
  by_cases hne : draft.decision.adjustments.nonzero = {}
  · exact .inl ⟨hne, if_pos hne⟩
  · obtain ⟨output, fields, hassemble, hverdict⟩ :=
      plan_of_changes draft threshold hsafe hbounds horder hne
    obtain ⟨hone, -, hpatch, hzones⟩ := plan_of_assemble hbounds hassemble
    exact .inr ⟨hne, output, fields, hassemble, hone, hpatch, hzones, hverdict⟩

end Verdict

/-! ## Cycle after cycle -/

/-- What a cycle does to the targets of a greenhouse: nothing, or its plan passes the gate and the
platform merges the point that is applied now. -/
inductive Refined (bounds : StageBounds) (threshold : ℚ) (s : Setpoints) :
    BackendDraft × Horizon → Setpoints → Prop
  | kept (e : BackendDraft × Horizon) : Refined bounds threshold s e s
  | written {draft : BackendDraft} {horizon : Horizon} {current : CurrentSetpoints}
      {output : BackendOutput} {fields : List String} {s' : Setpoints} :
      current.targets = s → current.bounds = some bounds →
      assemble draft current horizon = .plan output fields →
      (evaluateApplication output.plan (some bounds) threshold horizon).status = .applied →
      applyPatch s.toPlatform output.plan.immediateSetpoints.toDTO = .ok s'.toPlatform →
      Refined bounds threshold s (draft, horizon) s'

section Cycles

variable {bounds : StageBounds} {threshold : ℚ} {s s' : Setpoints}

/-- What the platform makes of a patch without zones. -/
theorem applyPatch_of_zones_none {p : SetpointsPatch} (hzones : p.zones = none) :
    applyPatch s.toPlatform p.toDTO = .ok s'.toPlatform ↔
      s'.toGlobalSetpoints = p.toGlobalPatch.applyTo s.toGlobalSetpoints ∧
        s'.toPlatform.zones = s.toPlatform.zones := by
  simp only [applyPatch, SetpointsPatch.toDTO, hzones, Option.map_none, Except.ok.injEq]
  constructor
  · intro h
    exact ⟨(congrArg Platform.Setpoints.toGlobalSetpoints h).symm,
      (congrArg Platform.Setpoints.zones h).symm⟩
  · rintro ⟨hglobals, hzones⟩
    have hs' : s'.toPlatform = { s'.toGlobalSetpoints with zones := s'.toPlatform.zones } := rfl
    rw [hs', hglobals, hzones]
    rfl

/-- **What a cycle does to a target**: it keeps it, or puts it into its envelope; one that was
inside is moved by no more than its cap. -/
theorem Refined.target {e : BackendDraft × Horizon} (h : Refined bounds threshold s e s')
    {x : BoundedScalar × Adjustable} (hx : x ∈ adjustables) :
    x.1.value s'.toGlobalSetpoints = x.1.value s.toGlobalSetpoints ∨
    (InBound (x.1.ofBounds bounds) (x.1.value s'.toGlobalSetpoints) ∧
      (InBound (x.1.ofBounds bounds) (x.1.value s.toGlobalSetpoints) →
        |x.1.value s'.toGlobalSetpoints - x.1.value s.toGlobalSetpoints| ≤ x.2.cap)) := by
  obtain _ | ⟨rfl, hbounds, hassemble, happlied, hmerged⟩ := h
  · exact .inl rfl
  rename_i draft horizon current output fields
  have hscalar : x.1 ∈ boundedScalars := (List.of_mem_zip hx).1
  obtain ⟨-, -, hpatch, hzones⟩ := plan_of_assemble hbounds hassemble
  obtain ⟨-, -, -, -, hcrop, -⟩ := evaluateApplication_applied.1 happlied
  have hinside := (checkCropSafeRange_eq_none.1 hcrop).1 x.1 hscalar
  obtain ⟨hglobals, -⟩ := (applyPatch_of_zones_none hzones).1 hmerged
  have hvalue := value_applyTo output.plan.immediateSetpoints.toGlobalPatch
    current.targets.toGlobalSetpoints x.1 hscalar
  rw [← hglobals] at hvalue
  cases hset : x.1.ofPatch output.plan.immediateSetpoints.toGlobalPatch with
  | none =>
    left
    rw [hvalue, hset]
    rfl
  | some v =>
    right
    rw [hset] at hvalue
    have hvalue : x.1.value s'.toGlobalSetpoints = v.toFloat := hvalue
    rw [hvalue]
    refine ⟨hinside v hset, fun hin => ?_⟩
    rw [hpatch] at hset
    obtain ⟨change, hchange, hbetween⟩ := changed_mem_uIcc _ _ _ x hx hin v hset
    calc |v.toFloat - x.1.value current.targets.toGlobalSetpoints|
        ≤ |x.1.value current.targets.toGlobalSetpoints + change -
            x.1.value current.targets.toGlobalSetpoints| := Set.abs_sub_left_of_mem_uIcc hbetween
      _ = |change| := by rw [add_sub_cancel_left]
      _ ≤ x.2.cap := abs_le_cap draft.decision.adjustments x hx change hchange

/-- A cycle leaves the day window and the zones alone. -/
theorem Refined.window {e : BackendDraft × Horizon} (h : Refined bounds threshold s e s') :
    s'.dayStart = s.dayStart ∧ s'.dayEnd = s.dayEnd ∧
      s'.toPlatform.zones = s.toPlatform.zones := by
  obtain _ | ⟨rfl, hbounds, hassemble, -, hmerged⟩ := h
  · exact ⟨rfl, rfl, rfl⟩
  obtain ⟨-, -, hpatch, hzones⟩ := plan_of_assemble hbounds hassemble
  obtain ⟨hglobals, hsame⟩ := (applyPatch_of_zones_none hzones).1 hmerged
  rw [hglobals, hpatch]
  exact ⟨rfl, rfl, hsame⟩

/-- **Whatever the model decides, cycle after cycle**: a target that is not what it was lies in
its envelope; one that starts in its envelope does not leave it, and moves by no more than its
cap a cycle; the day window and the zones stay as they are. -/
theorem targets_of_cycles {es : List (BackendDraft × Horizon)}
    (hrun : Run (Refined bounds threshold) s es s') :
    (s'.dayStart = s.dayStart ∧ s'.dayEnd = s.dayEnd ∧
      s'.toPlatform.zones = s.toPlatform.zones) ∧
    ∀ x ∈ adjustables,
      (x.1.value s'.toGlobalSetpoints = x.1.value s.toGlobalSetpoints ∨
        InBound (x.1.ofBounds bounds) (x.1.value s'.toGlobalSetpoints)) ∧
      (InBound (x.1.ofBounds bounds) (x.1.value s.toGlobalSetpoints) →
        InBound (x.1.ofBounds bounds) (x.1.value s'.toGlobalSetpoints) ∧
        |x.1.value s'.toGlobalSetpoints - x.1.value s.toGlobalSetpoints| ≤
          es.length * x.2.cap) := by
  refine ⟨?_, fun x hx => ?_⟩
  · refine hrun.invariant (I := fun t : Setpoints => t.dayStart = s.dayStart ∧
      t.dayEnd = s.dayEnd ∧ t.toPlatform.zones = s.toPlatform.zones) ?_ ⟨rfl, rfl, rfl⟩
    rintro t e t' ⟨hstart, hstop, hzones⟩ hone
    obtain ⟨hstart', hstop', hzones'⟩ := hone.window
    exact ⟨hstart'.trans hstart, hstop'.trans hstop, hzones'.trans hzones⟩
  · have hdrift := hrun.drift (m := fun t : Setpoints => x.1.value t.toGlobalSetpoints)
      (c := x.2.cap) { v | InBound (x.1.ofBounds bounds) v }
      (cap_nonneg x hx) fun t e t' hone => hone.target hx
    simp only [nsmul_eq_mul, Set.mem_ofPred_eq] at hdrift
    exact hdrift

end Cycles

/-! ## A sample cycle -/

namespace Bench

/-- Two degrees more by day. -/
def twoMore : SetpointAdjustments where
  temperatureDayC := some 2
  day v h := Option.some.inj h ▸ (by decide)
  night := by simp
  low := by simp
  high := by simp
  deadband := by simp
  co2 := by simp
  interlock := by simp
  vpd := by simp
  dli := by simp

def draft : BackendDraft where
  decision := {
    situation := "The days are cool."
    reasoning := "Warmth is cheap this morning."
    adjustments := twoMore
    confidence := 17 / 20
    confidence_range := by constructor <;> norm_num }
  provider := .ollama
  model := "llama3"
  role := .primary

def current : CurrentSetpoints where
  source := .profile
  updatedAt := 0
  targets := targets
  bounds := some bounds

/-- The bench after the cycle. -/
def warmerTargets : Setpoints := { targets with temperatureDayC := 26, day := by decide }

theorem cropSafe_bounds : CropSafe bounds := by
  have hnone : ∀ P, Ranged P none := by
    intro P b hb
    cases hb
  have hint : HasInteger none := by
    intro b hb
    cases hb
  refine ⟨?_, hnone _, ?_, hnone _, hnone _, ⟨hnone _, hint⟩, hnone _, hnone _, hnone _, ?_⟩
  · rintro b ⟨⟩
    decide
  · rintro b ⟨⟩
    decide
  · intro zb hzb
    cases hzb

end Bench

namespace Bench

theorem horizon_ordered : horizon.start ≤ horizon.stop := by decide

theorem clamped_twoMore : clampGlobals bounds (adjusted current.targets.toGlobalSetpoints
    draft.decision.adjustments.nonzero) = { temperatureDayC := some 26 } := by
  norm_num [clampGlobals, adjusted, Deltas.nonzero, draft, twoMore, current, bounds, targets, held,
    atLeast, atMost, clampFloat, within, Option.filter]

theorem applicable_twoMore : Applicable bounds (1 / 2) draft.decision.confidence
    (adjusted current.targets.toGlobalSetpoints draft.decision.adjustments.nonzero) := by
  refine ⟨by norm_num [draft], fun low hlow => ?_, fun n hn => ?_⟩
  · cases hlow
  · cases hn

end Bench

/-- A confident decision that the gate applies. -/
theorem assemble_verdict_twoMore : ∃ output fields,
    assemble Bench.draft Bench.current Bench.horizon = .plan output fields ∧
    output.plan.immediateSetpoints.toGlobalPatch = { temperatureDayC := some 26 } ∧
    (evaluateApplication output.plan (some Bench.bounds) (1 / 2) Bench.horizon).status =
      .applied := by
  rcases assemble_verdict Bench.draft (1 / 2) Bench.cropSafe_bounds
    (rfl : Bench.current.bounds = some Bench.bounds) Bench.horizon_ordered with
    ⟨hnone, -⟩ | ⟨-, output, fields, hassemble, -, hpatch, -, hverdict⟩
  · exact absurd hnone (by decide)
  · exact ⟨output, fields, hassemble, hpatch.trans Bench.clamped_twoMore,
      hverdict.2 Bench.applicable_twoMore⟩

/-- A cycle that warms the bench, and one that leaves it. -/
theorem targets_of_cycles_twoMore : ∃ es,
    Run (Refined Bench.bounds (1 / 2)) Bench.targets es Bench.warmerTargets ∧
    ∀ x ∈ adjustables, x.1.value Bench.warmerTargets.toGlobalSetpoints =
        x.1.value Bench.targets.toGlobalSetpoints ∨
      InBound (x.1.ofBounds Bench.bounds) (x.1.value Bench.warmerTargets.toGlobalSetpoints) := by
  obtain ⟨output, fields, hassemble, hverdict⟩ := plan_of_changes Bench.draft (1 / 2)
    Bench.cropSafe_bounds (rfl : Bench.current.bounds = some Bench.bounds)
    Bench.horizon_ordered (by decide)
  obtain ⟨-, -, hpatch, hzones⟩ :=
    plan_of_assemble (rfl : Bench.current.bounds = some Bench.bounds) hassemble
  have hmerged : applyPatch Bench.targets.toPlatform output.plan.immediateSetpoints.toDTO =
      .ok Bench.warmerTargets.toPlatform := by
    rw [applyPatch_of_zones_none hzones, hpatch, Bench.clamped_twoMore]
    exact ⟨rfl, rfl⟩
  have hrun : Run (Refined Bench.bounds (1 / 2)) Bench.targets
      [(Bench.draft, Bench.horizon), (Bench.draft, Bench.horizon)] Bench.warmerTargets :=
    .cons (.written rfl rfl hassemble (hverdict.2 Bench.applicable_twoMore) hmerged)
      (.single (.kept _))
  exact ⟨_, hrun, fun x hx => ((targets_of_cycles hrun).2 x hx).1⟩

end Greenhouse.Optimizer
