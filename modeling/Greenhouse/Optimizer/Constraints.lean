import Greenhouse.Optimizer.Models

/-!
# The constraint engine and the application gate

The deterministic checks of a proposed plan and the decision they lead to. A check returns
the text of its violation, or `none`.

* `evaluateApplication_applied`: which plans the gate marks as applied.
* `evaluateApplication_reason`: one that it holds is held for a reason.
* `checkBundleConsistency_eq_none`, `checkCropSafeRange_eq_none`: what two of its checks ask.
-/

namespace Greenhouse.Optimizer

open Greenhouse.Numeric Greenhouse.Platform

/-! ## Bounded targets -/

/-- A number of a model: a `float` or an `int`. -/
inductive Number where
  | float (q : ℚ)
  | int (n : Int)
  deriving DecidableEq

def Number.toFloat : Number → ℚ
  | float q => q
  | int n => n

def Number.text : Number → String
  | float q => pyFloat q
  | int n => toString n

/-- A scalar target with an optional envelope, by its name. -/
structure BoundedScalar where
  name : String
  ofPatch : GlobalPatch → Option Number
  ofSetpoints : GlobalSetpoints → Number
  ofBounds : StageBounds → Option Bound

def boundedScalars : List BoundedScalar := [
  ⟨"temperature_day_c", fun p => p.temperatureDayC.map .float, fun s => .float s.temperatureDayC,
    fun b => b.temperatureDayC⟩,
  ⟨"temperature_night_c", fun p => p.temperatureNightC.map .float,
    fun s => .float s.temperatureNightC, fun b => b.temperatureNightC⟩,
  ⟨"humidity_low_pct", fun p => p.humidityLowPct.map .float, fun s => .float s.humidityLowPct,
    fun b => b.humidityLowPct⟩,
  ⟨"humidity_high_pct", fun p => p.humidityHighPct.map .float, fun s => .float s.humidityHighPct,
    fun b => b.humidityHighPct⟩,
  ⟨"humidity_deadband_pct", fun p => p.humidityDeadbandPct.map .float,
    fun s => .float s.humidityDeadbandPct, fun b => b.humidityDeadbandPct⟩,
  ⟨"co2_target_ppm", fun p => p.co2TargetPpm.map .int, fun s => .int s.co2TargetPpm,
    fun b => b.co2TargetPpm⟩,
  ⟨"co2_vent_interlock_threshold_pct", fun p => p.co2VentInterlockThresholdPct.map .float,
    fun s => .float s.co2VentInterlockThresholdPct, fun b => b.co2VentInterlockThresholdPct⟩,
  ⟨"vpd_target_kpa", fun p => p.vpdTargetKpa.map .float, fun s => .float s.vpdTargetKpa,
    fun b => b.vpdTargetKpa⟩,
  ⟨"dli_target_mol", fun p => p.dliTargetMol.map .float, fun s => .float s.dliTargetMol,
    fun b => b.dliTargetMol⟩]

/-- A zone target with an optional envelope, by its name. -/
structure ZoneBounded where
  name : String
  ofZone : Platform.ZoneTargets → Number
  ofBounds : ZoneBounds → Option Bound

def zoneBounded : List ZoneBounded := [
  ⟨"moisture_low_threshold", fun z => .float z.moistureLowThreshold,
    fun b => b.moistureLowThreshold⟩,
  ⟨"moisture_high_threshold", fun z => .float z.moistureHighThreshold,
    fun b => b.moistureHighThreshold⟩,
  ⟨"drain_period_secs", fun z => .int z.drainPeriodSecs, fun b => b.drainPeriodSecs⟩]

def within (value : ℚ) (bound : Bound) : Bool := bound.min ≤ value && value ≤ bound.max

@[simp] theorem within_eq_true {value : ℚ} {bound : Bound} :
    within value bound = true ↔ bound.min ≤ value ∧ value ≤ bound.max := by
  simp [within]

/-- The text of a value outside its envelope. -/
def outsideText (subject : String) (value : Number) (bound : Bound) : String :=
  subject ++ " " ++ value.text ++ " outside crop-safe [" ++ pyFloat bound.min ++ ", "
    ++ pyFloat bound.max ++ "]"

/-- A value, where there is one, against its envelope, where there is one. -/
def checkWithin (subject : String) (value : Option Number) (bound : Option Bound) :
    Option String :=
  value.bind fun v => bound.bind fun b =>
    if within v.toFloat b then none else some (outsideText subject v b)

theorem checkWithin_eq_none {subject : String} {value : Option Number} {bound : Option Bound} :
    checkWithin subject value bound = none ↔ ∀ v, value = some v → InBound bound v.toFloat := by
  cases value with
  | none => simp [checkWithin]
  | some v => cases bound <;> simp [checkWithin, InBound]

/-! ## Checks -/

/-- Zones as a mapping from their ids, in which a later zone replaces an earlier one. -/
def sameZones (a b : List Platform.ZoneTargets) : Bool :=
  (a ++ b).all fun z => lastZone a z.zoneId == lastZone b z.zoneId

/-- The same set fields, with the same values whatever the order of the zones. -/
def sameSignature (a b : SetpointsPatch) : Bool :=
  a.toGlobalPatch = b.toGlobalPatch && a.zones.isSome == b.zones.isSome
    && sameZones a.zoneTargets b.zoneTargets

def checkImmediateMatchesTrajectory (plan : OptimizerPlan) : Option String :=
  if sameSignature plan.immediateSetpoints plan.head.setpoints then none
  else some "immediate_setpoints does not equal trajectory[0].setpoints field-for-field"

def pointText (index : Nat) (point : TrajectoryPoint) : String :=
  "trajectory[" ++ toString index ++ "].at " ++ isoformat point.time

/-- The points after the first: in order, and on whole hours from the start. -/
def checkTimingFrom (horizon : Horizon) : Nat → Instant → List TrajectoryPoint → Option String
  | _, _, [] => none
  | index, previous, point :: points =>
    if point.time ≤ previous then some (pointText index point ++ " is not after the previous point")
    else if (point.time - horizon.start) % hours 1 ≠ 0 then
      some (pointText index point ++ " is not on a whole-hour offset from horizon.start "
        ++ isoformat horizon.start)
    else checkTimingFrom horizon (index + 1) point.time points

def checkTrajectoryTiming (plan : OptimizerPlan) (horizon : Horizon) : Option String :=
  if plan.head.time ≠ horizon.start then
    some (pointText 0 plan.head ++ " is not horizon.start " ++ isoformat horizon.start)
  else
    match checkTimingFrom horizon 1 plan.head.time plan.trajectory.tail with
    | some text => some text
    | none =>
      let last := plan.trajectory.getLast plan.trajectory_nonempty
      if last.time > horizon.stop then
        some (pointText (plan.trajectory.length - 1) last ++ " is past horizon.end "
          ++ isoformat horizon.stop)
      else none

/-- Two values that are both set and not in order. -/
def disordered {α : Type} (a b : Option α) (bad : α → α → Prop) [DecidableRel bad] : Bool :=
  match a, b with
  | some a, some b => bad a b
  | _, _ => false

def checkBundleConsistency (patch : SetpointsPatch) : Option String :=
  if disordered patch.humidityLowPct patch.humidityHighPct (· > ·) then
    some "humidity_low_pct exceeds humidity_high_pct"
  else if disordered patch.dayStart patch.dayEnd (fun start stop => stop ≤ start) then
    some "day_start is not before day_end"
  else patch.zoneTargets.findSome? fun zone =>
    if zone.moistureLowThreshold > zone.moistureHighThreshold then
      some ("zone " ++ zone.zoneId ++ " moisture_low_threshold exceeds moisture_high_threshold")
    else none

def checkCropSafeRange (patch : SetpointsPatch) : Option StageBounds → Option String
  | none => none
  | some bounds =>
    match boundedScalars.findSome? fun f =>
      checkWithin f.name (f.ofPatch patch.toGlobalPatch) (f.ofBounds bounds) with
    | some text => some text
    | none => bounds.zones.bind fun zb => patch.zoneTargets.findSome? fun zone =>
        zoneBounded.findSome? fun f =>
          checkWithin ("zone " ++ zone.zoneId ++ " " ++ f.name) (some (f.ofZone zone))
            (f.ofBounds zb)

/-! ## The gate -/

/-- Verdict of the constraint engine. -/
structure ConstraintResult where
  ok : Bool
  reasonCode : Option ReasonCode := none
  message : Option String := none
  deriving DecidableEq

def ConstraintResult.passed : ConstraintResult := { ok := true }

def ConstraintResult.violation (message : String) : ConstraintResult where
  ok := false
  reasonCode := some .constraintViolation
  message := some message

/-- The first violation wins. -/
def checkConstraints (plan : OptimizerPlan) (bounds : Option StageBounds) (horizon : Horizon) :
    ConstraintResult :=
  match [checkTrajectoryTiming plan horizon, checkImmediateMatchesTrajectory plan,
      checkBundleConsistency plan.immediateSetpoints,
      checkCropSafeRange plan.immediateSetpoints bounds].findSome? id with
  | some message => .violation message
  | none => .passed

/-- The application gate's decision for a cycle. -/
structure ApplicationDecision where
  status : OutcomeStatus
  reasonCode : Option ReasonCode := none
  message : Option String := none
  deriving DecidableEq

def evaluateApplication (plan : OptimizerPlan) (bounds : Option StageBounds)
    (confidenceThreshold : ℚ) (horizon : Horizon) : ApplicationDecision :=
  if bounds = none then
    { status := .unchanged, message := some "no crop-safe bounds present; holding baseline" }
  else
    let result := checkConstraints plan bounds horizon
    if !result.ok then ⟨.held, result.reasonCode, result.message⟩
    else if plan.confidence < confidenceThreshold then
      ⟨.held, some .lowConfidence, some ("confidence " ++ pyFloat plan.confidence
        ++ " < threshold " ++ pyFloat confidenceThreshold)⟩
    else { status := .applied }

/-! ## What the checks ask -/

theorem disordered_eq_false {α : Type} {a b : Option α} {bad : α → α → Prop}
    [DecidableRel bad] :
    disordered a b bad = false ↔ ∀ x, a = some x → ∀ y, b = some y → ¬ bad x y := by
  cases a <;> cases b <;> simp [disordered]

theorem checkBundleConsistency_eq_none {patch : SetpointsPatch} :
    checkBundleConsistency patch = none ↔
      (∀ low, patch.humidityLowPct = some low → ∀ high, patch.humidityHighPct = some high →
        low ≤ high) ∧
      (∀ start, patch.dayStart = some start → ∀ stop, patch.dayEnd = some stop →
        start < stop) ∧
      ∀ zone ∈ patch.zoneTargets, zone.moistureLowThreshold ≤ zone.moistureHighThreshold := by
  have hzones : (patch.zoneTargets.findSome? fun zone =>
      if zone.moistureLowThreshold > zone.moistureHighThreshold then
        some ("zone " ++ zone.zoneId ++ " moisture_low_threshold exceeds moisture_high_threshold")
      else none) = none ↔
        ∀ zone ∈ patch.zoneTargets, zone.moistureLowThreshold ≤ zone.moistureHighThreshold := by
    simp [List.findSome?_eq_none_iff]
  have hband := @disordered_eq_false ℚ patch.humidityLowPct patch.humidityHighPct (· > ·) _
  have hwindow := @disordered_eq_false String patch.dayStart patch.dayEnd
    (fun start stop => stop ≤ start) _
  simp only [gt_iff_lt, not_lt, String.not_le] at hband hwindow
  rw [← hband, ← hwindow, ← hzones, checkBundleConsistency]
  split
  · rename_i h
    simp [h]
  · rename_i h
    rw [Bool.not_eq_true] at h
    split
    · rename_i h'
      simp [h']
    · rename_i h'
      rw [Bool.not_eq_true] at h'
      exact ⟨fun hz => ⟨h, h', hz⟩, fun hz => hz.2.2⟩

theorem checkCropSafeRange_eq_none {patch : SetpointsPatch} {bounds : StageBounds} :
    checkCropSafeRange patch (some bounds) = none ↔
      (∀ f ∈ boundedScalars, ∀ v, f.ofPatch patch.toGlobalPatch = some v →
        InBound (f.ofBounds bounds) v.toFloat) ∧
      ∀ zb, bounds.zones = some zb → ∀ zone ∈ patch.zoneTargets, ∀ f ∈ zoneBounded,
        InBound (f.ofBounds zb) (f.ofZone zone).toFloat := by
  have hscalars : (boundedScalars.findSome? fun f =>
      checkWithin f.name (f.ofPatch patch.toGlobalPatch) (f.ofBounds bounds)) = none ↔
        ∀ f ∈ boundedScalars, ∀ v, f.ofPatch patch.toGlobalPatch = some v →
          InBound (f.ofBounds bounds) v.toFloat := by
    simp only [List.findSome?_eq_none_iff, checkWithin_eq_none]
  rw [← hscalars, checkCropSafeRange]
  split
  · rename_i text h
    simp [h]
  · rename_i h
    simp [h, Option.bind_eq_none_iff, List.findSome?_eq_none_iff, checkWithin_eq_none]

/-- **Which plans the gate marks as applied.** -/
theorem evaluateApplication_applied {plan : OptimizerPlan} {bounds : Option StageBounds}
    {threshold : ℚ} {horizon : Horizon} :
    (evaluateApplication plan bounds threshold horizon).status = .applied ↔
      bounds ≠ none ∧ checkTrajectoryTiming plan horizon = none ∧
      checkImmediateMatchesTrajectory plan = none ∧
      checkBundleConsistency plan.immediateSetpoints = none ∧
      checkCropSafeRange plan.immediateSetpoints bounds = none ∧
      threshold ≤ plan.confidence := by
  unfold evaluateApplication
  split
  · rename_i hbounds
    simp [hbounds]
  · rename_i hbounds
    unfold checkConstraints
    cases hfirst : [checkTrajectoryTiming plan horizon, checkImmediateMatchesTrajectory plan,
      checkBundleConsistency plan.immediateSetpoints,
      checkCropSafeRange plan.immediateSetpoints bounds].findSome? id with
    | some text =>
      simp only [ConstraintResult.violation, Bool.not_false, if_true, reduceCtorEq, false_iff,
        not_and]
      intro _ htiming hmatch hbundle hcrop
      simp [htiming, hmatch, hbundle, hcrop] at hfirst
    | none =>
      simp only [List.findSome?_eq_none_iff, id_eq, List.forall_mem_cons] at hfirst
      obtain ⟨htiming, hmatch, hbundle, hcrop, -⟩ := hfirst
      simp only [ConstraintResult.passed, Bool.not_true, Bool.false_eq_true, if_false]
      split
      · rename_i hlow
        simp [not_le.2 hlow]
      · rename_i hlow
        simp [hbounds, htiming, hmatch, hbundle, hcrop, not_lt.1 hlow]

/-- **A plan that the gate holds is held for a reason**, and the gate fails none. -/
theorem evaluateApplication_reason {plan : OptimizerPlan} {bounds : Option StageBounds}
    {threshold : ℚ} {horizon : Horizon} :
    let decision := evaluateApplication plan bounds threshold horizon
    decision.status = .held ∨ decision.status = .failed → decision.reasonCode ≠ none := by
  unfold evaluateApplication
  split
  · simp
  · unfold checkConstraints
    split
    · simp [ConstraintResult.violation]
    · simp only [ConstraintResult.passed, Bool.not_true, Bool.false_eq_true, if_false]
      split <;> simp

end Greenhouse.Optimizer
