import Greenhouse.Optimizer.Context

/-!
# The input gate

The checks of a planning context before the twin and the planner run. The first failing check
holds the cycle.

* `evaluateInputGate_trusted`: a context is trusted when every check passes.
* `evaluateInputGate_reason`: one that is not carries a reason.
* `greenhouseId_of_trusted`: a trusted context is of the greenhouse that was asked for.
-/

namespace Greenhouse.Optimizer

open Greenhouse.Numeric Greenhouse.Platform

/-! ## Outcomes -/

/-- Whether a fault may clear by the next cycle. -/
inductive ReasonClass where
  | transient
  | persistent
  deriving DecidableEq

def reasonClassOf : ReasonCode → ReasonClass
  | .contractDrift | .twinFidelityFault | .constraintViolation | .boundsMismatch
  | .writeUnauthorized => .persistent
  | _ => .transient

structure GateOutcome where
  trusted : Bool
  reasonCode : Option ReasonCode := none
  reasonClass : Option ReasonClass := none
  message : Option String := none
  deriving DecidableEq

def GateOutcome.ok : GateOutcome := { trusted := true }

def GateOutcome.hold (code : ReasonCode) (message : String) : GateOutcome where
  trusted := false
  reasonCode := some code
  reasonClass := some (reasonClassOf code)
  message := some message

/-- `[data_quality]`. -/
structure DataQualitySettings where
  maxTelemetryAgeMinutes : ℚ := 35
  requiredMetrics : List Metric := [.temperature, .humidity, .co2, .par]
  minHistoryCoverage : ℚ := 4 / 5
  deriving DecidableEq

/-! ## Checks -/

def knownSchemaVersions : List Int := [1]

/-- `repr` of an id. -/
def quoted (s : String) : String := "'" ++ s ++ "'"

def scope (zoneId : Option String) : String :=
  match zoneId with
  | some id => " zone " ++ id
  | none => ""

/-- The metrics a plan depends on, each for the house or for a zone. -/
def dependedOn (ctx : PlanningContext) (settings : DataQualitySettings) :
    List (Metric × Option String) :=
  settings.requiredMetrics.map (fun m => (m, none))
    ++ ctx.setpoints.targets.zones.map fun z => (.soilMoisture, some z.zoneId)

/-- A zone-scoped row needs a zone, any other has none. -/
def metricBad (metric : Metric) (zoneId : Option String) : Bool :=
  decide (metric = .soilMoisture) != zoneId.isSome

def checkZonePolarity (ctx : PlanningContext) : Option String :=
  let violation (what name : String) : String :=
    "zone_id polarity violation on " ++ what ++ " " ++ name
  [(ctx.telemetry.find? fun s => metricBad s.metric s.zoneId).map
      fun s => violation "telemetry metric" s.metric.text,
    (ctx.dataQuality.freshness.find? fun f => metricBad f.metric f.zoneId).map
      fun f => violation "freshness metric" f.metric.text,
    (ctx.dataQuality.faults.find? fun f => metricBad f.metric f.zoneId).map
      fun f => violation "fault metric" f.metric.text,
    (ctx.actuators.find? fun a => decide (a.actuator = .irrigationValve) != a.zoneId.isSome).map
      fun a => violation "actuator" a.actuator.text].findSome? id

def checkIdentity (ctx : PlanningContext) (expectedGreenhouseId : String) : Option GateOutcome :=
  if ctx.greenhouseId ≠ expectedGreenhouseId then
    some (.hold .contractDrift ("response greenhouse_id " ++ quoted ctx.greenhouseId
      ++ " != requested " ++ quoted expectedGreenhouseId))
  else if ctx.schemaVersion ∉ knownSchemaVersions then
    some (.hold .contractDrift ("unknown schema_version " ++ toString ctx.schemaVersion))
  else (checkZonePolarity ctx).map (.hold .contractDrift)

def checkClockMode (ctx : PlanningContext) : Option GateOutcome :=
  ctx.dataQuality.timeScale.bind fun timeScale =>
    if |timeScale - 1| > 1 / 10 ^ 9 then
      some (.hold .clockModeUnsupported ("simulation time_scale " ++ pyFloat timeScale
        ++ " != 1.0 (wall-clock cadence out of envelope)"))
    else none

def fixedText (places : Nat) (q : ℚ) : String := (F64.fin q).fixed places

/-- The last entry of a metric and scope. -/
def freshness (ctx : PlanningContext) (key : Metric × Option String) : Option MetricFreshness :=
  ctx.dataQuality.freshness.reverse.find? fun f => (f.metric, f.zoneId) = key

def checkFreshness (ctx : PlanningContext) (keys : List (Metric × Option String))
    (maxAgeSeconds : ℚ) : Option GateOutcome :=
  keys.findSome? fun key =>
    (freshness ctx key).bind fun entry =>
      match entry.ageSeconds, entry.latestTs with
      | some age, some _ =>
        if age > maxAgeSeconds then
          some (.hold .inputStale (key.1.text ++ scope key.2 ++ " latest reading "
            ++ fixedText 0 age ++ "s old > " ++ fixedText 0 maxAgeSeconds ++ "s"))
        else none
      | _, _ => none

/-- When the greenhouse's data begins: the earliest bucket that is not empty. -/
def dataOrigin (ctx : PlanningContext) : Option Instant :=
  (ctx.telemetry.flatMap fun s =>
    (s.buckets.filter (·.count > 0)).map (·.bucketStart)).min?

def Interval.seconds : Interval → Int
  | hourly => 3600
  | sixHourly => 21600
  | daily => 86400

/-- The buckets a series has at full coverage. -/
def expectedBuckets (ctx : PlanningContext) : Int :=
  let effectiveFrom := match dataOrigin ctx with
    | some origin => max ctx.start origin
    | none => ctx.start
  let windowSeconds : ℚ := (ctx.stop - effectiveFrom : Int) / (second : Int)
  max 1 (roundHalfEven (windowSeconds / (ctx.interval.seconds : ℚ)))

/-- The last series of a metric and scope. -/
def series (ctx : PlanningContext) (key : Metric × Option String) : Option MetricSummarySeries :=
  ctx.telemetry.reverse.find? fun s => (s.metric, s.zoneId) = key

def checkCompleteness (ctx : PlanningContext) (keys : List (Metric × Option String))
    (minCoverage : ℚ) : Option GateOutcome :=
  let expected := expectedBuckets ctx
  keys.findSome? fun key =>
    match series ctx key with
    | none => some (.hold .inputIncomplete
        ("required metric " ++ key.1.text ++ scope key.2 ++ " missing"))
    | some s =>
      let nonEmpty := s.buckets.countP (·.count > 0)
      let coverage : ℚ := nonEmpty / expected
      if coverage < minCoverage then
        some (.hold .inputIncomplete (key.1.text ++ scope key.2 ++ " coverage "
          ++ fixedText 2 coverage ++ " < " ++ fixedText 2 minCoverage ++ " ("
          ++ toString nonEmpty ++ "/" ++ toString expected ++ " buckets)"))
      else none

def checkHealth (ctx : PlanningContext) (keys : List (Metric × Option String)) :
    Option GateOutcome :=
  if ctx.dataQuality.controllerMode ≠ .normal then
    some (.hold .sensorFault ("controller mode " ++ ctx.dataQuality.controllerMode.text))
  else
    [(ctx.dataQuality.faults.find? fun f => (f.metric, f.zoneId) ∈ keys).map fun f =>
        .hold .sensorFault (f.metric.text ++ scope f.zoneId ++ " sensor fault: " ++ f.kind.text),
      (ctx.actuators.find? fun a => a.health ≠ .ok).map fun a =>
        .hold .actuatorFault (a.actuator.text ++ scope a.zoneId ++ " actuator " ++ a.health.text)]
      |>.findSome? id

/-- The checks in their order. -/
def inputChecks (ctx : PlanningContext) (settings : DataQualitySettings)
    (expectedGreenhouseId : String) : List (Option GateOutcome) :=
  let keys := dependedOn ctx settings
  [checkIdentity ctx expectedGreenhouseId, checkClockMode ctx,
    checkFreshness ctx keys (settings.maxTelemetryAgeMinutes * 60),
    checkCompleteness ctx keys settings.minHistoryCoverage, checkHealth ctx keys]

def evaluateInputGate (ctx : PlanningContext) (settings : DataQualitySettings)
    (expectedGreenhouseId : String) : GateOutcome :=
  ((inputChecks ctx settings expectedGreenhouseId).findSome? id).getD .ok

/-! ## What the gate gives -/

section

variable {ctx : PlanningContext} {settings : DataQualitySettings} {expected : String}

/-- A check that fails gives a hold with a reason. -/
def Holds (check : Option GateOutcome) : Prop := ∀ outcome ∈ check, ∃ code message,
  outcome = .hold code message

theorem holds_findSome {α : Type} {l : List α} {f : α → Option GateOutcome}
    (h : ∀ a ∈ l, Holds (f a)) : Holds (l.findSome? f) := by
  intro outcome ho
  obtain ⟨a, ha, hfa⟩ := List.exists_of_findSome?_eq_some ho
  exact h a ha outcome hfa

theorem holds_checks : ∀ check ∈ inputChecks ctx settings expected, Holds check := by
  have hmap : ∀ {α : Type} (o : Option α) (f : α → GateOutcome),
      (∀ a, ∃ code message, f a = .hold code message) → Holds (o.map f) := by
    intro α o f hf outcome ho
    obtain ⟨a, -, rfl⟩ := Option.map_eq_some_iff.1 ho
    exact hf a
  have hsome : ∀ code message, Holds (some (.hold code message)) := by
    intro code message outcome ho
    exact ⟨code, message, (Option.some.inj ho).symm⟩
  have hnone : Holds none := fun _ h => absurd h (Option.not_mem_none _)
  simp only [inputChecks, List.forall_mem_cons]
  refine ⟨?_, ?_, ?_, ?_, ?_, List.forall_mem_nil _⟩
  · unfold checkIdentity
    split
    · exact hsome _ _
    · split
      · exact hsome _ _
      · exact hmap _ _ fun message => ⟨_, message, rfl⟩
  · unfold checkClockMode
    cases ctx.dataQuality.timeScale with
    | none => exact hnone
    | some timeScale =>
      simp only [Option.bind_some]
      split
      · exact hsome _ _
      · exact hnone
  · refine holds_findSome fun key _ => ?_
    cases freshness ctx key with
    | none => exact hnone
    | some entry =>
      simp only [Option.bind_some]
      split
      · split
        · exact hsome _ _
        · exact hnone
      · exact hnone
  · refine holds_findSome fun key _ => ?_
    split
    · exact hsome _ _
    · simp only
      split
      · exact hsome _ _
      · exact hnone
  · unfold checkHealth
    split
    · exact hsome _ _
    · refine holds_findSome fun check hcheck => ?_
      simp only [List.mem_cons, List.not_mem_nil, or_false] at hcheck
      rcases hcheck with rfl | rfl
      · exact hmap _ _ fun f => ⟨_, _, rfl⟩
      · exact hmap _ _ fun a => ⟨_, _, rfl⟩

/-- **A context is trusted when every check passes.** -/
theorem evaluateInputGate_trusted :
    (evaluateInputGate ctx settings expected).trusted = true ↔
      ∀ check ∈ inputChecks ctx settings expected, check = none := by
  unfold evaluateInputGate
  cases h : (inputChecks ctx settings expected).findSome? id with
  | none => simpa [GateOutcome.ok, List.findSome?_eq_none_iff] using h
  | some outcome =>
    obtain ⟨check, hcheck, hid⟩ := List.exists_of_findSome?_eq_some h
    obtain ⟨code, message, rfl⟩ := holds_checks check hcheck outcome hid
    simp only [Option.getD_some, GateOutcome.hold, Bool.false_eq_true, false_iff, not_forall]
    exact ⟨check, hcheck, fun hnone => by simp [hnone] at hid⟩

/-- **A context that is not trusted is held for a reason.** -/
theorem evaluateInputGate_reason (h : (evaluateInputGate ctx settings expected).trusted = false) :
    ∃ code, (evaluateInputGate ctx settings expected).reasonCode = some code := by
  unfold evaluateInputGate at h ⊢
  cases hfirst : (inputChecks ctx settings expected).findSome? id with
  | none => simp [hfirst, GateOutcome.ok] at h
  | some outcome =>
    obtain ⟨check, hcheck, hid⟩ := List.exists_of_findSome?_eq_some hfirst
    obtain ⟨code, message, rfl⟩ := holds_checks check hcheck outcome hid
    exact ⟨code, rfl⟩

/-- A trusted context is of the greenhouse it was asked for. -/
theorem greenhouseId_of_trusted (h : (evaluateInputGate ctx settings expected).trusted = true) :
    ctx.greenhouseId = expected := by
  have hidentity := evaluateInputGate_trusted.1 h (checkIdentity ctx expected)
    (by simp [inputChecks])
  by_contra hne
  simp [checkIdentity, hne] at hidentity

end

end Greenhouse.Optimizer
