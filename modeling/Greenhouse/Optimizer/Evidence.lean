import Greenhouse.Optimizer.Gating

/-!
# What the input gate has seen

A trusted context against the evidence a plan should rest on. Everything but two readings is
there in full: a reading whose age is not reported is left to the completeness check, which
looks at the history alone, and a time scale counts as real time up to a tolerance.

* `evidence_of_trusted`: what a trusted context is known to hold.
* `trusted_without_evidence`: the two places where the gate asks for less.
-/

namespace Greenhouse.Optimizer

open Greenhouse.Numeric Greenhouse.Platform

/-! ## Evidence -/

/-- The share of the expected buckets in which a series has samples. -/
def coverage (ctx : PlanningContext) (s : MetricSummarySeries) : ℚ :=
  s.buckets.countP (·.count > 0) / expectedBuckets ctx

/-- A history of the metric and scope, with few enough gaps. -/
def Covered (ctx : PlanningContext) (minCoverage : ℚ) (key : Metric × Option String) : Prop :=
  ∃ s ∈ ctx.telemetry, (s.metric, s.zoneId) = key ∧ minCoverage ≤ coverage ctx s

/-- No sensor of the metric and scope is faulted. -/
def Unfaulted (ctx : PlanningContext) (key : Metric × Option String) : Prop :=
  ∀ f ∈ ctx.dataQuality.faults, (f.metric, f.zoneId) ≠ key

/-- The latest reading of the metric and scope is known to be recent. -/
def Recent (ctx : PlanningContext) (maxAgeSeconds : ℚ) (key : Metric × Option String) : Prop :=
  ∃ entry ∈ ctx.dataQuality.freshness, (entry.metric, entry.zoneId) = key ∧
    ∃ age, entry.ageSeconds = some age ∧ age ≤ maxAgeSeconds

/-- The latest reading of the metric and scope is not known to be old. -/
def NotStale (ctx : PlanningContext) (maxAgeSeconds : ℚ) (key : Metric × Option String) : Prop :=
  ∀ entry, freshness ctx key = some entry → entry.latestTs.isSome →
    ∀ age, entry.ageSeconds = some age → age ≤ maxAgeSeconds

/-- The evidence of a context, apart from the age of its readings and its clock. -/
structure Evidence (ctx : PlanningContext) (settings : DataQualitySettings)
    (expectedGreenhouseId : String) : Prop where
  identity : ctx.greenhouseId = expectedGreenhouseId
  version : ctx.schemaVersion ∈ knownSchemaVersions
  covered : ∀ key ∈ dependedOn ctx settings, Covered ctx settings.minHistoryCoverage key
  unfaulted : ∀ key ∈ dependedOn ctx settings, Unfaulted ctx key
  mode : ctx.dataQuality.controllerMode = .normal
  actuators : ∀ a ∈ ctx.actuators, a.health = .ok

/-- Everything a plan should rest on. -/
structure CompleteEvidence (ctx : PlanningContext) (settings : DataQualitySettings)
    (expectedGreenhouseId : String) : Prop extends Evidence ctx settings expectedGreenhouseId where
  recent : ∀ key ∈ dependedOn ctx settings, Recent ctx (settings.maxTelemetryAgeMinutes * 60) key
  realTime : ∀ timeScale, ctx.dataQuality.timeScale = some timeScale → timeScale = 1

/-! ## What each check asks -/

section

variable {ctx : PlanningContext} {settings : DataQualitySettings} {expected : String}
  {keys : List (Metric × Option String)}

theorem checkIdentity_eq_none :
    checkIdentity ctx expected = none ↔
      ctx.greenhouseId = expected ∧ ctx.schemaVersion ∈ knownSchemaVersions ∧
        checkZonePolarity ctx = none := by
  unfold checkIdentity
  split
  · rename_i hid
    simp [hid]
  · rename_i hid
    split
    · rename_i hversion
      simp [hversion]
    · rename_i hversion
      rw [Option.map_eq_none_iff]
      exact ⟨fun h => ⟨not_not.1 hid, not_not.1 hversion, h⟩, fun h => h.2.2⟩

theorem checkClockMode_eq_none :
    checkClockMode ctx = none ↔
      ∀ timeScale, ctx.dataQuality.timeScale = some timeScale →
        |timeScale - 1| ≤ 1 / 10 ^ 9 := by
  unfold checkClockMode
  cases ctx.dataQuality.timeScale with
  | none => simp
  | some timeScale => simp

theorem checkFreshness_eq_none {maxAgeSeconds : ℚ} :
    checkFreshness ctx keys maxAgeSeconds = none ↔
      ∀ key ∈ keys, NotStale ctx maxAgeSeconds key := by
  unfold checkFreshness NotStale
  rw [List.findSome?_eq_none_iff]
  refine forall₂_congr fun key _ => ?_
  cases freshness ctx key with
  | none => simp
  | some entry =>
    cases hage : entry.ageSeconds with
    | none => simp [hage]
    | some age => cases hts : entry.latestTs <;> simp [hage, hts]

theorem mem_of_series {key : Metric × Option String} {s : MetricSummarySeries}
    (h : series ctx key = some s) : s ∈ ctx.telemetry ∧ (s.metric, s.zoneId) = key :=
  ⟨List.mem_reverse.1 (List.mem_of_find?_eq_some h), by simpa using List.find?_some h⟩

theorem covered_of_checkCompleteness {minCoverage : ℚ}
    (h : checkCompleteness ctx keys minCoverage = none) :
    ∀ key ∈ keys, Covered ctx minCoverage key := by
  intro key hkey
  have hcheck := List.findSome?_eq_none_iff.1 h key hkey
  cases hs : series ctx key with
  | none => simp [hs] at hcheck
  | some s =>
    obtain ⟨hmem, heq⟩ := mem_of_series hs
    simp only [hs, ite_eq_right_iff, reduceCtorEq, imp_false, not_lt] at hcheck
    exact ⟨s, hmem, heq, hcheck⟩

theorem checkHealth_eq_none :
    checkHealth ctx keys = none ↔
      ctx.dataQuality.controllerMode = .normal ∧ (∀ key ∈ keys, Unfaulted ctx key) ∧
        ∀ a ∈ ctx.actuators, a.health = .ok := by
  unfold checkHealth Unfaulted
  split
  · rename_i hmode
    simp [hmode]
  · rename_i hmode
    have hfaults : (∀ f ∈ ctx.dataQuality.faults, (f.metric, f.zoneId) ∉ keys) ↔
        ∀ key ∈ keys, ∀ f ∈ ctx.dataQuality.faults, (f.metric, f.zoneId) ≠ key :=
      ⟨fun h key hkey f hf heq => h f hf (heq ▸ hkey), fun h f hf hkey => h _ hkey f hf rfl⟩
    simp [List.findSome?_eq_none_iff, not_not.1 hmode, hfaults]

/-! ## What a trusted context holds -/

/-- **What a trusted context holds**: all the evidence, no reading that is known to be old, and
a clock in real time up to the tolerance. -/
theorem evidence_of_trusted
    (h : (evaluateInputGate ctx settings expected).trusted = true) :
    Evidence ctx settings expected ∧
      (∀ key ∈ dependedOn ctx settings,
        NotStale ctx (settings.maxTelemetryAgeMinutes * 60) key) ∧
      ∀ timeScale, ctx.dataQuality.timeScale = some timeScale →
        |timeScale - 1| ≤ 1 / 10 ^ 9 := by
  have hchecks := evaluateInputGate_trusted.1 h
  simp only [inputChecks, List.forall_mem_cons] at hchecks
  obtain ⟨hidentity, hclock, hfresh, hcomplete, hhealth, -⟩ := hchecks
  obtain ⟨hid, hversion, -⟩ := checkIdentity_eq_none.1 hidentity
  obtain ⟨hmode, hunfaulted, hactuators⟩ := checkHealth_eq_none.1 hhealth
  refine ⟨⟨hid, hversion, covered_of_checkCompleteness hcomplete, hunfaulted, hmode,
    hactuators⟩, ?_, ?_⟩
  · exact checkFreshness_eq_none.1 hfresh
  · exact checkClockMode_eq_none.1 hclock

end

namespace Bench

/-- An hour of readings of a metric of the house. -/
def hourOf (metric : Metric) (mean : ℚ) : MetricSummarySeries where
  metric := metric
  zoneId := none
  buckets := [⟨0, mean, mean, mean, 60⟩]
  slug := slugOrNull_none

/-- The age of the latest reading of a metric of the house. -/
def aged (metric : Metric) (ageSeconds : Option ℚ) (h : ∀ v, ageSeconds = some v → 0 ≤ v) :
    MetricFreshness where
  metric := metric
  zoneId := none
  latestTs := ageSeconds.map fun _ => hours 1
  ageSeconds := ageSeconds
  sampleCount := 60
  slug := slugOrNull_none
  age_nonneg := h

/-- One hour in which every required metric was read, with what is said about the age of the
readings and the clock. -/
def hourContext (ageSeconds timeScale : Option ℚ) (hage : ∀ v, ageSeconds = some v → 0 ≤ v)
    (hscale : ∀ v, timeScale = some v → 0 < v) : PlanningContext :=
  { context with
    stop := hours 1
    telemetry := [hourOf .temperature 22, hourOf .humidity 65, hourOf .co2 600, hourOf .par 300]
    dataQuality := {
      controllerMode := .normal
      timeScale := timeScale
      freshness := [.temperature, .humidity, .co2, .par].map fun m => aged m ageSeconds hage
      faults := []
      timeScale_pos := hscale } }

theorem unreported_nonneg : ∀ v : ℚ, none = some v → 0 ≤ v := by simp

theorem unreported_pos : ∀ v : ℚ, none = some v → 0 < v := by simp

/-- Nobody knows how old the readings are. -/
def undated : PlanningContext := hourContext none none unreported_nonneg unreported_pos

/-- Fresh readings of a clock a little faster than real time. -/
def hasty : PlanningContext :=
  hourContext (some 30) (some (1 + 1 / (2 * 10 ^ 9))) (by simp) (by
    intro v h
    obtain rfl := Option.some.inj h
    norm_num)

end Bench

/-- **The gate asks for less**: it trusts readings whose age is not known, and a clock that is
not quite in real time. -/
theorem trusted_without_evidence :
    ((evaluateInputGate Bench.undated {} "gh-a").trusted = true ∧
      ¬ CompleteEvidence Bench.undated {} "gh-a") ∧
    (evaluateInputGate Bench.hasty {} "gh-a").trusted = true ∧
      ¬ CompleteEvidence Bench.hasty {} "gh-a" := by
  refine ⟨⟨by decide +kernel, fun h => ?_⟩, by decide +kernel, fun h => ?_⟩
  · obtain ⟨entry, hentry, -, age, hage, -⟩ := h.recent (.temperature, none) (by decide)
    simp only [Bench.undated, Bench.hourContext, List.mem_map] at hentry
    obtain ⟨m, -, rfl⟩ := hentry
    cases hage
  · have hone := h.realTime _ rfl
    norm_num at hone

/-- What is known of a trusted hour. -/
theorem evidence_of_trusted_hour :
    Evidence Bench.hasty {} "gh-a" ∧
      (∀ key ∈ dependedOn Bench.hasty {}, NotStale Bench.hasty (35 * 60) key) ∧
      ∀ timeScale, Bench.hasty.dataQuality.timeScale = some timeScale →
        |timeScale - 1| ≤ 1 / 10 ^ 9 :=
  evidence_of_trusted (by decide +kernel)

end Greenhouse.Optimizer
