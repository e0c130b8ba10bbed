import Greenhouse.Optimizer.Models

/-!
# The state-change gate

The distance of two forecasts on the whole hours they share, and the decision whether a cycle
calls the planner.

* `evaluateStateChange_suppressed`: when a cycle is suppressed.
* `forecastDistance_of_agree`: forecasts that agree on the hours they share.
-/

namespace Greenhouse.Optimizer

open Greenhouse.Numeric

/-- One point of a predicted climate. -/
structure PredictedPoint where
  time : Instant
  temperatureC : ℚ
  relativeHumidityPct : ℚ
  co2Ppm : ℚ
  parUmolM2S : ℚ
  deriving DecidableEq

abbrev Forecast := List PredictedPoint

/-- The plausibility envelopes of the climate variables, by row. -/
structure TwinParams where
  envMin : Fin 4 → ℚ
  envMax : Fin 4 → ℚ

/-- The width of an envelope. -/
def TwinParams.span (params : TwinParams) (i : Fin 4) : ℚ := params.envMax i - params.envMin i

/-- The gated metrics, with their rows in the envelopes. -/
def gatedMetrics : Fin 4 → (PredictedPoint → ℚ) × Fin 4
  | 0 => (fun p => p.temperatureC, 0)
  | 1 => (fun p => p.relativeHumidityPct, 1)
  | 2 => (fun p => p.co2Ppm, 2)
  | 3 => (fun p => p.parUmolM2S, 3)

/-- The gated metrics at an instant. -/
abbrev Sample := Fin 4 → ℚ

def lerp (earlier later : PredictedPoint) (time : Instant) : Sample := fun position =>
  let span := later.time - earlier.time
  let frac : ℚ := if span = 0 then 0 else (time - earlier.time : Int) / span
  let attr := (gatedMetrics position).1
  attr earlier + (attr later - attr earlier) * frac

/-- Drop points until the second one is not before the instant, keeping two. -/
def advanceTo (time : Instant) : Forecast → Forecast
  | a :: b :: c :: points =>
    if b.time < time then advanceTo time (b :: c :: points) else a :: b :: c :: points
  | points => points

/-- The samples at some instants an hour apart. -/
def samplesFrom : Nat → Instant → Forecast → List (Instant × Sample)
  | 0, _, _ => []
  | n + 1, cursor, points =>
    match advanceTo cursor points with
    | a :: b :: rest =>
      (cursor, lerp a b cursor) :: samplesFrom n (cursor + hours 1) (a :: b :: rest)
    | _ => []

/-- The first whole hour that is not before an instant. -/
def firstHour (start : Instant) : Instant :=
  let cursor := start - start % hours 1
  if cursor < start then cursor + hours 1 else cursor

/-- The gated metrics at the whole hours inside a forecast's span. -/
def hourlySamples (points : Forecast) : List (Instant × Sample) :=
  match points.head?, points.getLast? with
  | some first, some last =>
    if points.length < 2 then []
    else
      let cursor := firstHour first.time
      let count := if cursor ≤ last.time then ((last.time - cursor) / hours 1).toNat + 1 else 0
      samplesFrom count cursor points
  | _, _ => []

/-- The samples of two forecasts at the hours they share. -/
def shared (current reference : Forecast) : List (Sample × Sample) :=
  (hourlySamples current).filterMap fun (time, sample) =>
    ((hourlySamples reference).find? (·.1 = time)).map fun other => (sample, other.2)

/-- The deviations of a sample, metric by metric; one without a width is skipped. -/
def residuals (params : TwinParams) (sample other : Sample) : List ℚ :=
  (List.finRange 4).filterMap fun position =>
    let span := params.span (gatedMetrics position).2
    if span ≤ 0 then none else some (|sample position - other position| / span)

/-- The mean deviation of two forecasts; `none` when they do not overlap. -/
def forecastDistance (current reference : Forecast) (params : TwinParams) : Option ℚ :=
  let all := (shared current reference).flatMap fun (sample, other) =>
    residuals params sample other
  if all = [] then none else some (all.sum / all.length)

/-- Whether to call the planner, and why. -/
structure StateChangeDecision where
  invoke : Bool
  distance : Option ℚ
  reason : String
  deriving DecidableEq

def StateChangeDecision.suppressed (d : StateChangeDecision) : Bool := !d.invoke

def fixed4 (q : ℚ) : String := (F64.fin q).fixed 4

def evaluateStateChange (current : Forecast) (reference : Option Forecast) (threshold : ℚ)
    (params : TwinParams) : StateChangeDecision :=
  match reference with
  | none | some [] => ⟨true, none, "no reference forecast retained; planning fresh"⟩
  | some reference =>
    match forecastDistance current reference params with
    | none => ⟨true, none, "forecasts do not overlap; planning fresh"⟩
    | some distance =>
      if distance < threshold then
        ⟨false, some distance, "predicted climate moved " ++ fixed4 distance ++ " < "
          ++ pyFloat threshold ++ " since the last planned cycle"⟩
      else
        ⟨true, some distance, "predicted climate moved " ++ fixed4 distance ++ " >= "
          ++ pyFloat threshold⟩

/-! ## When a cycle is suppressed -/

section

variable {current reference : Forecast} {params : TwinParams} {threshold : ℚ}

theorem shared_nil : shared current [] = [] := by
  simp [shared, hourlySamples]

/-- **When a cycle is suppressed**: there is a reference, and the forecasts overlap and are
closer than the threshold. -/
theorem evaluateStateChange_suppressed {reference : Option Forecast} :
    (evaluateStateChange current reference threshold params).suppressed = true ↔
      ∃ r d, reference = some r ∧ forecastDistance current r params = some d ∧ d < threshold := by
  have hnil : forecastDistance current [] params = none := by
    simp [forecastDistance, shared_nil]
  unfold evaluateStateChange
  split
  · simp [StateChangeDecision.suppressed]
  · simp [StateChangeDecision.suppressed, hnil]
  · rename_i r hne
    cases hd : forecastDistance current r params with
    | none => simp [StateChangeDecision.suppressed, hd]
    | some d =>
      simp only
      split
      · rename_i hlt
        simp [StateChangeDecision.suppressed, hd, hlt]
      · rename_i hlt
        simp [StateChangeDecision.suppressed, hd, not_lt.1 hlt]

/-- The forecasts agree on the hours they share. -/
def Agree (current reference : Forecast) : Prop :=
  ∀ p ∈ shared current reference, p.1 = p.2

/-- The forecasts share an hour, and some metric has an envelope to be measured by. -/
def Comparable (current reference : Forecast) (params : TwinParams) : Prop :=
  shared current reference ≠ [] ∧ ∃ position, 0 < params.span (gatedMetrics position).2

theorem residuals_ne_nil {sample other : Sample} {position : Fin 4}
    (h : 0 < params.span (gatedMetrics position).2) : residuals params sample other ≠ [] := by
  apply List.ne_nil_of_mem (a := |sample position - other position| /
    params.span (gatedMetrics position).2)
  exact List.mem_filterMap.2 ⟨position, List.mem_finRange position, by simp [not_le.2 h]⟩

theorem eq_zero_of_mem_residuals {sample : Sample} {r : ℚ}
    (h : r ∈ residuals params sample sample) : r = 0 := by
  obtain ⟨position, -, hr⟩ := List.mem_filterMap.1 h
  simp only [sub_self, abs_zero, zero_div] at hr
  split at hr
  · cases hr
  · exact (Option.some.inj hr).symm

/-- **Comparable forecasts that agree on the hours they share have distance `0`.** -/
theorem forecastDistance_of_agree (hagree : Agree current reference)
    (hcomp : Comparable current reference params) :
    forecastDistance current reference params = some 0 := by
  obtain ⟨hshared, position, hspan⟩ := hcomp
  obtain ⟨p, hp⟩ := List.exists_mem_of_ne_nil _ hshared
  have hzero : ∀ r ∈ (shared current reference).flatMap fun (sample, other) =>
      residuals params sample other, r = 0 := by
    intro r hr
    obtain ⟨⟨sample, other⟩, hmem, hr⟩ := List.mem_flatMap.1 hr
    obtain rfl : sample = other := hagree _ hmem
    exact eq_zero_of_mem_residuals hr
  have hne : (shared current reference).flatMap (fun (sample, other) =>
      residuals params sample other) ≠ [] := by
    obtain ⟨r, hr⟩ := List.exists_mem_of_ne_nil _
      (@residuals_ne_nil params p.1 p.2 _ hspan)
    exact List.ne_nil_of_mem (List.mem_flatMap.2 ⟨p, hp, hr⟩)
  simp only [forecastDistance, if_neg hne, List.sum_eq_zero hzero, zero_div]

/-- A cycle is suppressed when its forecast agrees with the reference. -/
theorem suppressed_of_agree (hagree : Agree current reference)
    (hcomp : Comparable current reference params) (hthreshold : 0 < threshold) :
    (evaluateStateChange current (some reference) threshold params).suppressed = true :=
  evaluateStateChange_suppressed.2
    ⟨reference, 0, rfl, forecastDistance_of_agree hagree hcomp, hthreshold⟩

end

end Greenhouse.Optimizer
