import Greenhouse.Optimizer.Twin

/-!
# The rebuilt light of a day

The twin rebuilds the light of the day so far by counting every bucket of PAR that begins in the
day, for its whole width. A bucket that is still open at the end is counted past it, and one
that begins before sunrise is not counted at all.

* `rebuildDli_add_missedLight`: the rebuilt light against the light between sunrise and the end.
* `rebuildDli_iff`: when the two are the same.
-/

namespace Greenhouse.Optimizer.Twin

/-! ## The light of an interval -/

/-- The history of PAR, without its gaps. -/
def parBuckets (ctx : PlanningContext) : List SummaryBucket :=
  ((ctx.telemetry.filter (·.metric = .par)).flatMap (·.buckets)).filter (·.count > 0)

def bucketEnd (ctx : PlanningContext) (b : SummaryBucket) : Instant :=
  b.bucketStart + ctx.interval.seconds * second

/-- The light of a mean PAR over a time. -/
def light (mean : ℚ) (time : Instant) : ℚ := mean * ((time : ℚ) / (second : Int)) / 10 ^ 6

/-- The light of a bucket between two instants. -/
def lightBetween (ctx : PlanningContext) (start stop : Instant) (b : SummaryBucket) : ℚ :=
  light b.mean (max 0 (min (bucketEnd ctx b) stop - max b.bucketStart start))

/-- The light of the history between sunrise and the end of the context. -/
def daylight (ctx : PlanningContext) (params : Params) : ℚ :=
  ((parBuckets ctx).map (lightBetween ctx (sunrise ctx params) ctx.stop)).sum

/-- What is counted of a bucket. -/
def counted (ctx : PlanningContext) (params : Params) (b : SummaryBucket) : ℚ :=
  if sunrise ctx params ≤ b.bucketStart ∧ b.bucketStart < ctx.stop then
    b.mean * (ctx.interval.seconds : ℚ) / 10 ^ 6
  else 0

/-- What of it lies past the end: the bucket is open there. -/
def excess (ctx : PlanningContext) (params : Params) (b : SummaryBucket) : ℚ :=
  if sunrise ctx params ≤ b.bucketStart ∧ b.bucketStart < ctx.stop ∧ ctx.stop < bucketEnd ctx b then
    light b.mean (bucketEnd ctx b - ctx.stop)
  else 0

/-- What is missed of a bucket that begins before sunrise and ends after it. -/
def missed (ctx : PlanningContext) (params : Params) (b : SummaryBucket) : ℚ :=
  if b.bucketStart < sunrise ctx params ∧ sunrise ctx params < bucketEnd ctx b ∧
      sunrise ctx params < ctx.stop then
    light b.mean (min (bucketEnd ctx b) ctx.stop - sunrise ctx params)
  else 0

/-- The light that is counted past the end of the context. -/
def excessLight (ctx : PlanningContext) (params : Params) : ℚ :=
  ((parBuckets ctx).map (excess ctx params)).sum

/-- The light after sunrise that is not counted. -/
def missedLight (ctx : PlanningContext) (params : Params) : ℚ :=
  ((parBuckets ctx).map (missed ctx params)).sum

/-! ## The rebuilt light -/

section

variable (ctx : PlanningContext) (params : Params)

theorem foldl_add_if {α : Type} (p : α → Prop) [DecidablePred p] (f : α → ℚ) (l : List α) :
    ∀ total : ℚ, l.foldl (fun total a => if p a then total + f a else total) total =
      total + ((l.map fun a => if p a then f a else 0)).sum := by
  induction l with
  | nil => exact fun total => (add_zero total).symm
  | cons a l ih =>
    intro total
    rw [List.foldl_cons, ih, List.map_cons, List.sum_cons]
    split
    · exact add_assoc _ _ _
    · rw [zero_add]

theorem rebuildDli_eq :
    rebuildDli ctx params = ((parBuckets ctx).map (counted ctx params)).sum := by
  have hfilter : ∀ l : List SummaryBucket,
      (l.map fun b => if b.count > 0 ∧ sunrise ctx params ≤ b.bucketStart ∧
          b.bucketStart < ctx.stop then b.mean * (ctx.interval.seconds : ℚ) / 10 ^ 6 else 0).sum =
        ((l.filter (·.count > 0)).map (counted ctx params)).sum := by
    intro l
    induction l with
    | nil => rfl
    | cons b l ih =>
      rw [List.map_cons, List.sum_cons, ih]
      by_cases hcount : b.count > 0
      · rw [List.filter_cons_of_pos (by simpa using hcount), List.map_cons, List.sum_cons, counted]
        simp only [hcount, true_and]
      · rw [List.filter_cons_of_neg (by simpa using hcount), if_neg fun h => hcount h.1, zero_add]
  have hseries : ∀ (l : List MetricSummarySeries) (total : ℚ),
      l.foldl (fun dli s => if s.metric ≠ .par then dli
        else s.buckets.foldl (fun dli b =>
          if b.count > 0 ∧ sunrise ctx params ≤ b.bucketStart ∧ b.bucketStart < ctx.stop then
            dli + b.mean * (ctx.interval.seconds : ℚ) / 10 ^ 6
          else dli) dli) total =
      total + ((((l.filter (·.metric = .par)).flatMap (·.buckets)).filter (·.count > 0)).map
        (counted ctx params)).sum := by
    intro l
    induction l with
    | nil => exact fun total => (add_zero total).symm
    | cons s l ih =>
      intro total
      rw [List.foldl_cons, ih]
      by_cases hpar : s.metric = .par
      · rw [if_neg (not_not.2 hpar), foldl_add_if, hfilter,
          List.filter_cons_of_pos (by simpa using hpar), List.flatMap_cons, List.filter_append,
          List.map_append, List.sum_append, add_assoc]
      · rw [if_pos hpar, List.filter_cons_of_neg (by simpa using hpar)]
  exact (hseries ctx.telemetry 0).trans (zero_add _)

theorem second_ne_zero : ((second : Int) : ℚ) ≠ 0 := by
  unfold second
  norm_num

/-- A bucket counted whole: the part of the day, and what of it lies elsewhere. -/
theorem counted_add_missed (b : SummaryBucket) :
    counted ctx params b + missed ctx params b =
      lightBetween ctx (sunrise ctx params) ctx.stop b + excess ctx params b := by
  have hwidth : b.mean * (ctx.interval.seconds : ℚ) / 10 ^ 6 =
      light b.mean (bucketEnd ctx b - b.bucketStart) := by
    have hne := second_ne_zero
    simp only [light, bucketEnd]
    push_cast
    field_simp
    ring
  have hpos : 0 ≤ ctx.interval.seconds * second := by
    cases ctx.interval <;> decide
  have hend : b.bucketStart ≤ bucketEnd ctx b := le_add_of_nonneg_right hpos
  have hzero : light b.mean 0 = 0 := by simp [light]
  by_cases hday : sunrise ctx params ≤ b.bucketStart
  · have hmissed : missed ctx params b = 0 := if_neg fun h => absurd h.1 (not_lt.2 hday)
    rw [hmissed, add_zero, lightBetween, max_eq_left hday]
    unfold counted excess
    by_cases hstop : b.bucketStart < ctx.stop
    · rw [if_pos ⟨hday, hstop⟩, hwidth]
      by_cases hopen : ctx.stop < bucketEnd ctx b
      · rw [if_pos ⟨hday, hstop, hopen⟩, min_eq_right hopen.le,
          max_eq_right (sub_nonneg.2 hstop.le)]
        simp only [light]
        push_cast
        ring
      · rw [if_neg fun h => hopen h.2.2, min_eq_left (not_lt.1 hopen),
          max_eq_right (sub_nonneg.2 hend), add_zero]
    · have hnone : min (bucketEnd ctx b) ctx.stop - b.bucketStart ≤ 0 :=
        sub_nonpos.2 ((min_le_right _ _).trans (not_lt.1 hstop))
      rw [if_neg fun h => hstop h.2, if_neg fun h => hstop h.2.1, add_zero, max_eq_left hnone,
        hzero]
  · have hcounted : counted ctx params b = 0 := if_neg fun h => hday h.1
    have hexcess : excess ctx params b = 0 := if_neg fun h => hday h.1
    rw [hcounted, hexcess, zero_add, add_zero, lightBetween, max_eq_right (not_le.1 hday).le,
      missed]
    by_cases hafter : sunrise ctx params < bucketEnd ctx b ∧ sunrise ctx params < ctx.stop
    · rw [if_pos ⟨not_le.1 hday, hafter⟩, max_eq_right]
      exact sub_nonneg.2 (le_min hafter.1.le hafter.2.le)
    · have hnone : min (bucketEnd ctx b) ctx.stop - sunrise ctx params ≤ 0 := by
        rw [sub_nonpos, min_le_iff]
        rcases not_and_or.1 hafter with hnot | hnot
        · exact Or.inl (not_lt.1 hnot)
        · exact Or.inr (not_lt.1 hnot)
      rw [if_neg fun h => hafter h.2, max_eq_left hnone, hzero]

/-- **The rebuilt light** is the light between sunrise and the end, with what is counted past
the end, and without what is missed at its start. -/
theorem rebuildDli_add_missedLight :
    rebuildDli ctx params + missedLight ctx params =
      daylight ctx params + excessLight ctx params := by
  rw [rebuildDli_eq, missedLight, daylight, excessLight, ← List.sum_map_add, ← List.sum_map_add]
  exact congrArg List.sum (List.map_congr_left fun b _ => counted_add_missed ctx params b)

/-- **When the rebuilt light is the light between sunrise and the end**: what is counted past
the end makes up for what is missed after sunrise. -/
theorem rebuildDli_iff :
    rebuildDli ctx params = daylight ctx params ↔
      excessLight ctx params = missedLight ctx params := by
  have h := rebuildDli_add_missedLight ctx params
  constructor
  · intro heq
    rw [heq] at h
    exact (add_left_cancel h).symm
  · intro heq
    rw [heq] at h
    exact add_right_cancel h

/-- Where no bucket is open at either end, the rebuilt light is right. -/
theorem rebuildDli_of_closed
    (hclosed : ∀ b ∈ parBuckets ctx, (b.bucketStart < ctx.stop → bucketEnd ctx b ≤ ctx.stop) ∧
      (b.bucketStart < sunrise ctx params → bucketEnd ctx b ≤ sunrise ctx params)) :
    rebuildDli ctx params = daylight ctx params := by
  refine (rebuildDli_iff ctx params).2 ?_
  have hexcess : excessLight ctx params = 0 := by
    refine List.sum_eq_zero fun x hx => ?_
    obtain ⟨b, hb, rfl⟩ := List.mem_map.1 hx
    exact if_neg fun h => absurd ((hclosed b hb).1 h.2.1) (not_le.2 h.2.2)
  have hmissed : missedLight ctx params = 0 := by
    refine List.sum_eq_zero fun x hx => ?_
    obtain ⟨b, hb, rfl⟩ := List.mem_map.1 hx
    exact if_neg fun h => absurd ((hclosed b hb).2 h.1) (not_le.2 h.2.1)
  rw [hexcess, hmissed]

end

namespace Bench

/-- The defaults of the controller's simulated house. -/
def params : Params where
  envMin := ![-50, 0, 0, 0]
  envMax := ![90, 100, 20000, 5000]
  gains
    | 0, .heater => 22
    | 0, .fans => -10
    | 0, .roofVents => -12
    | 0, .misters => -3
    | 0, .growLights => 2
    | 0, .shadeScreen => -4
    | 1, .fans => -20
    | 1, .roofVents => -30
    | 1, .misters => 40
    | 2, .fans => -200
    | 2, .roofVents => -300
    | 2, .co2Injector => 1200
    | 3, .growLights => 600
    | 3, .shadeScreen => -900
    | _, _ => 0
  tauSeconds := ![120, 60, 30, 10]
  outdoorTempC := 10
  ambientHumidityPct := 50
  ambientCo2Ppm := 420
  heatLossCoeff := 2 / 1000
  plantCo2UptakePpmPerS := 1 / 2
  soilTauSeconds := 1800
  soilDryingRatePerS := 2 / 100000
  soilResidualVwc := 15 / 100
  soilEnvMin := 0
  soilEnvMax := 1
  sunriseSod := 6 * 3600
  sunsetSod := 20 * 3600
  peakPar := 800
  peakHeatGainC := 6

/-- Half past twelve, with the bucket of the current hour still open. -/
def halfPastNoon : PlanningContext :=
  { Optimizer.Bench.context with
    stop := hours 12 + 1800 * second
    telemetry := [⟨.par, none, [⟨hours 12, 380, 400, 420, 30⟩], slugOrNull_none⟩] }

end Bench

/-- **The rebuilt light counts an hour that is half over in full.** -/
theorem rebuilt_past_end : rebuildDli Bench.halfPastNoon Bench.params = 144 / 100 ∧
    daylight Bench.halfPastNoon Bench.params = 72 / 100 ∧
    rebuildDli Bench.halfPastNoon Bench.params ≠ daylight Bench.halfPastNoon Bench.params := by
  decide +kernel

end Greenhouse.Optimizer.Twin
