import Greenhouse.Optimizer.Gating
import Greenhouse.Platform.Summaries

/-!
# What a trusted context says of the stored readings

The platform summarises the stored readings and reports the age of each series; the optimizer's
input gate checks both. The summaries are read before the ages, so a series that is summarised
has an age that is checked, also when readings are stored in the meantime.

* `ReadsHistory`: the context that the optimizer reads is the history that was served.
* `series_of_reads`, `freshness_of_reads`: what the gate looks up, in terms of the readings.
* `trusted_readings`: **a trusted context stands for recent readings of all that a plan depends
  on.**
-/

namespace Greenhouse.Contract

open Greenhouse.Numeric Greenhouse.Platform Greenhouse.Process
open Greenhouse.Optimizer (PlanningContext Metric MetricSummarySeries SummaryBucket MetricFreshness
  DataQualitySettings dependedOn evaluateInputGate expectedBuckets)

/-! ## Reading the response -/

structure ReadsBucket (b : SummaryBucket) (d : SummaryBucketDto) : Prop where
  bucketStart : b.bucketStart = d.bucketStart
  min : F64.fin b.min = d.min
  mean : F64.fin b.mean = d.mean
  max : F64.fin b.max = d.max
  count : b.count = d.count

structure ReadsSeries (s : MetricSummarySeries) (d : MetricSummarySeriesDto) : Prop where
  scope : (s.metric.text, s.zoneId) = (d.metric, d.zoneId)
  buckets : List.Forall₂ ReadsBucket s.buckets d.buckets

structure ReadsFreshness (f : MetricFreshness) (d : MetricFreshnessDto) : Prop where
  scope : (f.metric.text, f.zoneId) = (d.metric, d.zoneId)
  latestTs : f.latestTs = d.latestTs
  ageSeconds : f.ageSeconds = d.ageSeconds
  sampleCount : f.sampleCount = d.sampleCount

/-- The context that the optimizer reads is the history that was served. -/
structure ReadsHistory (ctx : PlanningContext) (h : PlanningHistory) : Prop where
  start : ctx.start = h.start
  stop : ctx.stop = h.stop
  telemetry : List.Forall₂ ReadsSeries ctx.telemetry h.telemetry
  freshness : List.Forall₂ ReadsFreshness ctx.dataQuality.freshness h.freshness

/-- The width of the buckets of an interval. -/
def bucketWidth (interval : Optimizer.Interval) : Int := interval.seconds * 1000000

/-- The series of the platform that a key of the optimizer is about. -/
def scopeOf (key : Metric × Option String) : Scope := (key.1.text, key.2)

section Lists

variable {α β : Type*} {R : α → β → Prop} {l : List α} {l' : List β}

theorem exists_left (h : List.Forall₂ R l l') {b : β} (hb : b ∈ l') : ∃ a ∈ l, R a b := by
  induction h with
  | nil => exact absurd hb List.not_mem_nil
  | @cons a b' _ _ hab _ ih =>
    rcases List.mem_cons.1 hb with rfl | hb
    · exact ⟨a, List.mem_cons_self, hab⟩
    · obtain ⟨a', ha', hR⟩ := ih hb
      exact ⟨a', List.mem_cons_of_mem _ ha', hR⟩

theorem exists_right (h : List.Forall₂ R l l') {a : α} (ha : a ∈ l) : ∃ b ∈ l', R a b := by
  obtain ⟨b, hb, hR⟩ := exists_left (R := fun b a => R a b) h.flip ha
  exact ⟨b, hb, hR⟩

end Lists

theorem text_injective : ∀ a b : Metric, a.text = b.text → a = b := by
  intro a b
  cases a <;> cases b <;> decide

theorem scopeOf_injective : Function.Injective scopeOf := by
  intro a b h
  exact Prod.ext (text_injective _ _ (congrArg Prod.fst h))
    (congrArg Prod.snd h : (scopeOf a).2 = (scopeOf b).2)

section

variable {c : Collation} {anchored summarized checked : List SensorRow} {greenhouseId : String}
  {window : Int} {ctx : PlanningContext} {settings : DataQualitySettings}
  {key : Metric × Option String} {latest : Int}

/-- The readings of a greenhouse in the window that ends at an instant. -/
def windowRows (table : List SensorRow) (greenhouseId : String) (window latest : Int) :
    List SensorRow :=
  rowsIn table greenhouseId (latest - window) latest

/-- The history of a greenhouse with readings. -/
theorem history_of_latest {width : Int} (h : latestReadingTs anchored greenhouseId = some latest) :
    planningHistory c anchored summarized checked greenhouseId window width =
      { start := latest - window
        stop := latest
        telemetry := groupSummaries
          (analytics c summarized greenhouseId (latest - window) latest none width)
        freshness := mapFreshness
          (metricFreshness c checked greenhouseId (latest - window) latest) latest } := by
  simp only [planningHistory, anchorWindow, h, if_true]

/-- A greenhouse without readings has no summaries. -/
theorem history_of_none {width : Int} (h : latestReadingTs anchored greenhouseId = none) :
    (planningHistory c anchored summarized checked greenhouseId window width).telemetry = [] := by
  simp only [planningHistory, anchorWindow, h]
  rfl

/-- The age of a series is reported when it has readings in the window, and is the age of the
latest of them. -/
theorem mem_mapFreshness {d : MetricFreshnessDto} {start : Int}
    (h : d ∈ mapFreshness (metricFreshness c checked greenhouseId start latest) latest) :
    ∃ row ∈ ofScope (d.metric, d.zoneId) (rowsIn checked greenhouseId start latest),
      d.latestTs = some row.ts ∧ d.ageSeconds = some (((latest - row.ts : Int) : ℚ) / 1000000) := by
  obtain ⟨r, hr, rfl⟩ := List.mem_map.1 h
  obtain ⟨scope, hscope, rfl⟩ := List.mem_map.1 hr
  obtain ⟨row, hrow, hof⟩ := mem_groupKeys.1 hscope
  dsimp only
  have hmem : row.ts ∈ ((rowsIn checked greenhouseId start latest).filter
      fun row => row.scope = scope).map (·.ts) :=
    List.mem_map_of_mem (List.mem_filter.2 ⟨hrow, decide_eq_true hof⟩)
  obtain ⟨newest, hnewest⟩ := Option.isSome_iff_exists.1 (List.isSome_max?_of_mem hmem)
  obtain ⟨last, hlast, rfl⟩ := List.mem_map.1 (List.max?_mem hnewest)
  have hbefore := (mem_rowsIn.1 (mem_ofScope.1 hlast).1).2.2.2
  refine ⟨last, hlast, ?_, ?_⟩
  · rw [hnewest]
    rfl
  · rw [hnewest, Option.getD_some, if_neg]
    rw [not_lt]
    exact div_nonneg (by exact_mod_cast sub_nonneg.2 hbefore) (by norm_num)

/-- Every series with readings in the window has its age reported. -/
theorem freshness_of_row {start : Int} {row : SensorRow}
    (h : row ∈ rowsIn checked greenhouseId start latest) :
    ∃ d ∈ mapFreshness (metricFreshness c checked greenhouseId start latest) latest,
      (d.metric, d.zoneId) = row.scope :=
  ⟨_, List.mem_map_of_mem (List.mem_map_of_mem (mem_groupKeys.2 ⟨row, h, rfl⟩)), rfl⟩

/-- A zone of a stored reading whose age the optimizer has read has a name. -/
theorem zone_of_reads (hlatest : latestReadingTs anchored greenhouseId = some latest) {width : Int}
    (hreads : ReadsHistory ctx
      (planningHistory c anchored summarized checked greenhouseId window width))
    {row : SensorRow} (hrow : row ∈ windowRows checked greenhouseId window latest) :
    row.zoneId ≠ some "" := by
  intro hempty
  obtain ⟨d, hd, hscope⟩ := @freshness_of_row c _ _ _ _ _ hrow
  have hfresh := hreads.freshness
  rw [history_of_latest hlatest] at hfresh
  obtain ⟨f, -, hf⟩ := exists_left hfresh hd
  have hzone : f.zoneId = some "" :=
    (congrArg Prod.snd (hf.scope.trans hscope)).trans hempty
  have hslug := f.slug "" hzone
  revert hslug
  decide

/-- **What the gate looks up** is the series of the readings of its key. -/
theorem series_of_reads (hlatest : latestReadingTs anchored greenhouseId = some latest)
    {width : Int} (hreads : ReadsHistory ctx
      (planningHistory c anchored summarized checked greenhouseId window width))
    (hstored : ∀ row ∈ summarized, row ∈ checked) {s : MetricSummarySeries}
    (hs : Optimizer.series ctx key = some s) :
    ofScope (scopeOf key) (windowRows summarized greenhouseId window latest) ≠ [] ∧
      List.Forall₂ ReadsBucket s.buckets ((bucketStarts width (ofScope (scopeOf key)
        (windowRows summarized greenhouseId window latest))).map fun start => summaryBucket
          (bucketRow width (ofScope (scopeOf key)
            (windowRows summarized greenhouseId window latest)) (scopeOf key) start)) := by
  have hfind : (ctx.telemetry.reverse.find? fun s => (s.metric, s.zoneId) = key) = some s := hs
  have hkey : (s.metric, s.zoneId) = key := by simpa using List.find?_some hfind
  have hmem : s ∈ ctx.telemetry := List.mem_reverse.1 (List.mem_of_find?_eq_some hfind)
  obtain ⟨d, hd, hread⟩ := exists_right hreads.telemetry hmem
  rw [history_of_latest hlatest] at hd
  dsimp only at hd
  rw [groupSummaries_eq fun row hrow => ?_] at hd
  · obtain ⟨scope, hscope, rfl⟩ := List.mem_map.1 hd
    have hof : scope = scopeOf key := by
      rw [← hkey]
      exact hread.scope.symm
    rw [hof] at hscope hread
    obtain ⟨row, hrow, hrowscope⟩ := mem_groupKeys.1 hscope
    exact ⟨List.ne_nil_of_mem (mem_ofScope.2 ⟨hrow, hrowscope⟩), hread.buckets⟩
  · refine zone_of_reads hlatest hreads (mem_rowsIn.2 ?_)
    obtain ⟨hin, hwindow⟩ := mem_rowsIn.1 hrow
    exact ⟨hstored row hin, hwindow⟩

/-- **What the gate looks up** is the age of the latest reading of its key. -/
theorem freshness_of_reads (hlatest : latestReadingTs anchored greenhouseId = some latest)
    {width : Int} (hreads : ReadsHistory ctx
      (planningHistory c anchored summarized checked greenhouseId window width))
    (hrows : ofScope (scopeOf key) (windowRows checked greenhouseId window latest) ≠ []) :
    ∃ f, Optimizer.freshness ctx key = some f ∧
      ∃ row ∈ ofScope (scopeOf key) (windowRows checked greenhouseId window latest),
        f.latestTs = some row.ts ∧
          f.ageSeconds = some (((latest - row.ts : Int) : ℚ) / 1000000) := by
  have hfresh := hreads.freshness
  rw [history_of_latest hlatest] at hfresh
  obtain ⟨row, hrow⟩ := List.exists_mem_of_ne_nil _ hrows
  obtain ⟨hin, hscope⟩ := mem_ofScope.1 hrow
  obtain ⟨d, hd, hdscope⟩ := @freshness_of_row c _ _ _ _ _ hin
  obtain ⟨f, hf, hread⟩ := exists_left hfresh hd
  have hkey : (f.metric, f.zoneId) = key :=
    scopeOf_injective (hread.scope.trans (hdscope.trans hscope))
  have hsome : (Optimizer.freshness ctx key).isSome := by
    rw [Optimizer.freshness, List.find?_isSome]
    exact ⟨f, List.mem_reverse.2 hf, decide_eq_true hkey⟩
  obtain ⟨entry, hentry⟩ := Option.isSome_iff_exists.1 hsome
  have hfind : (ctx.dataQuality.freshness.reverse.find? fun f => (f.metric, f.zoneId) = key) =
      some entry := hentry
  have hentrykey : (entry.metric, entry.zoneId) = key := by simpa using List.find?_some hfind
  have hmem := List.mem_reverse.1 (List.mem_of_find?_eq_some hfind)
  obtain ⟨d', hd', hread'⟩ := exists_right hfresh hmem
  obtain ⟨newest, hnewest, hts, hage⟩ := mem_mapFreshness hd'
  have hof : (d'.metric, d'.zoneId) = scopeOf key := by
    rw [← hentrykey]
    exact hread'.scope.symm
  rw [hof] at hnewest
  exact ⟨entry, hentry, newest, hnewest, hread'.latestTs.trans hts, hread'.ageSeconds.trans hage⟩

/-- No bucket that is served is a gap. -/
theorem count_pos {rows : List SensorRow} {width start : Int} {scope : Scope}
    (h : start ∈ bucketStarts width rows) :
    0 < (summaryBucket (bucketRow width rows scope start)).count := by
  obtain ⟨row, hrow, hstart⟩ := mem_groupKeys.1 h
  exact List.length_pos_of_mem (List.mem_filter.2 ⟨hrow, decide_eq_true hstart⟩)

/-- The buckets that the gate counts are those that have a reading. -/
theorem countP_buckets {buckets : List SummaryBucket} {rows : List SensorRow} {width : Int}
    {scope : Scope}
    (h : List.Forall₂ ReadsBucket buckets ((bucketStarts width rows).map fun start =>
      summaryBucket (bucketRow width rows scope start))) :
    buckets.countP (·.count > 0) = (bucketStarts width rows).length := by
  rw [List.countP_eq_length.2, h.length_eq, List.length_map]
  intro b hb
  obtain ⟨d, hd, hread⟩ := exists_right h hb
  obtain ⟨start, hstart, rfl⟩ := List.mem_map.1 hd
  rw [hread.count]
  exact decide_eq_true (count_pos hstart)

theorem min?_congr {l l' : List Int} (h : ∀ x, x ∈ l ↔ x ∈ l') : l.min? = l'.min? := by
  cases hmin : l.min? with
  | none =>
    obtain rfl := List.min?_eq_none_iff.1 hmin
    rw [List.eq_nil_iff_forall_not_mem.2 fun x hx => List.not_mem_nil ((h x).2 hx)]
    rfl
  | some least =>
    obtain ⟨hmem, hle⟩ := List.min?_eq_some_iff.1 hmin
    exact (List.min?_eq_some_iff.2 ⟨(h least).1 hmem, fun x hx => hle x ((h x).2 hx)⟩).symm

/-- The origin of the data is the first bucket with a reading in it. -/
theorem dataOrigin_of_reads (hlatest : latestReadingTs anchored greenhouseId = some latest)
    {width : Int} (hreads : ReadsHistory ctx
      (planningHistory c anchored summarized checked greenhouseId window width))
    (hstored : ∀ row ∈ summarized, row ∈ checked) :
    Optimizer.dataOrigin ctx =
      ((windowRows summarized greenhouseId window latest).map fun row =>
        timeBucket width row.ts).min? := by
  have htelemetry := hreads.telemetry
  rw [history_of_latest hlatest] at htelemetry
  dsimp only at htelemetry
  rw [groupSummaries_eq fun row hrow => zone_of_reads hlatest hreads (mem_rowsIn.2
    ⟨hstored row (mem_rowsIn.1 hrow).1, (mem_rowsIn.1 hrow).2⟩)] at htelemetry
  refine min?_congr fun x => ?_
  rw [List.mem_flatMap, List.mem_map]
  constructor
  · rintro ⟨s, hs, hx⟩
    obtain ⟨b, hb, rfl⟩ := List.mem_map.1 hx
    obtain ⟨d, hd, hread⟩ := exists_right htelemetry hs
    obtain ⟨scope, -, rfl⟩ := List.mem_map.1 hd
    obtain ⟨e, he, hbucket⟩ := exists_right hread.buckets (List.mem_filter.1 hb).1
    obtain ⟨start, hstart, rfl⟩ := List.mem_map.1 he
    obtain ⟨row, hrow, heq⟩ := mem_groupKeys.1 hstart
    exact ⟨row, (mem_ofScope.1 hrow).1, heq.trans hbucket.bucketStart.symm⟩
  · rintro ⟨row, hrow, rfl⟩
    have hof : row ∈ ofScope row.scope (windowRows summarized greenhouseId window latest) :=
      mem_ofScope.2 ⟨hrow, rfl⟩
    have hstart : timeBucket width row.ts ∈ bucketStarts width
        (ofScope row.scope (windowRows summarized greenhouseId window latest)) :=
      mem_groupKeys.2 ⟨row, hof, rfl⟩
    obtain ⟨s, hs, hread⟩ := exists_left htelemetry
      (List.mem_map_of_mem (mem_groupKeys.2 ⟨row, hrow, rfl⟩))
    obtain ⟨b, hb, hbucket⟩ := exists_left hread.buckets (List.mem_map_of_mem hstart)
    refine ⟨s, hs, List.mem_map.2 ⟨b, List.mem_filter.2 ⟨hb, ?_⟩, hbucket.bucketStart⟩⟩
    rw [hbucket.count]
    exact decide_eq_true (count_pos hstart)

/-- **A trusted context stands for recent readings.** When the platform's answer is trusted, there
is a stored reading of everything that a plan depends on which is at most the configured age
older than the latest reading of the greenhouse, and the readings of it fall into enough of the
buckets: also when readings are stored while the answer is put together. -/
theorem trusted_readings (hstored : ∀ row ∈ summarized, row ∈ checked)
    (hreads : ReadsHistory ctx (planningHistory c anchored summarized checked greenhouseId window
      (bucketWidth ctx.interval)))
    (htrusted : (evaluateInputGate ctx settings greenhouseId).trusted = true)
    (hkey : key ∈ dependedOn ctx settings) :
    ∃ latest, latestReadingTs anchored greenhouseId = some latest ∧
      (∃ row ∈ ofScope (scopeOf key) (windowRows checked greenhouseId window latest),
        ((latest - row.ts : Int) : ℚ) / 1000000 ≤ settings.maxTelemetryAgeMinutes * 60) ∧
      settings.minHistoryCoverage ≤ ((bucketStarts (bucketWidth ctx.interval) (ofScope (scopeOf key)
        (windowRows summarized greenhouseId window latest))).length : ℚ) / expectedBuckets ctx ∧
      Optimizer.dataOrigin ctx = ((windowRows summarized greenhouseId window latest).map fun row =>
        timeBucket (bucketWidth ctx.interval) row.ts).min? := by
  have hchecks := Optimizer.evaluateInputGate_trusted.1 htrusted
  have hfresh := hchecks _ (List.mem_cons_of_mem _ (List.mem_cons_of_mem _ List.mem_cons_self))
  have hcomplete := hchecks _ (List.mem_cons_of_mem _ (List.mem_cons_of_mem _
    (List.mem_cons_of_mem _ List.mem_cons_self)))
  replace hfresh := List.findSome?_eq_none_iff.1 hfresh key hkey
  replace hcomplete := List.findSome?_eq_none_iff.1 hcomplete key hkey
  cases hseries : Optimizer.series ctx key with
  | none =>
    rw [hseries] at hcomplete
    cases hcomplete
  | some s =>
    cases hlatest : latestReadingTs anchored greenhouseId with
    | none =>
      have htelemetry := hreads.telemetry
      rw [history_of_none hlatest] at htelemetry
      rw [Optimizer.series, List.forall₂_nil_right_iff.1 htelemetry] at hseries
      cases hseries
    | some latest =>
      obtain ⟨hrows, hbuckets⟩ := series_of_reads hlatest hreads hstored hseries
      refine ⟨latest, rfl, ?_, ?_, dataOrigin_of_reads hlatest hreads hstored⟩
      · have hchecked : ofScope (scopeOf key) (windowRows checked greenhouseId window latest) ≠
            [] := by
          obtain ⟨row, hrow⟩ := List.exists_mem_of_ne_nil _ hrows
          obtain ⟨hin, hscope⟩ := mem_ofScope.1 hrow
          obtain ⟨hrow, hwindow⟩ := mem_rowsIn.1 hin
          exact List.ne_nil_of_mem (mem_ofScope.2
            ⟨mem_rowsIn.2 ⟨hstored row hrow, hwindow⟩, hscope⟩)
        obtain ⟨f, hf, row, hrow, hts, hage⟩ := freshness_of_reads hlatest hreads hchecked
        refine ⟨row, hrow, ?_⟩
        rw [hf, Option.bind_some, hage, hts] at hfresh
        dsimp only at hfresh
        by_contra hold
        rw [if_pos (not_le.1 hold)] at hfresh
        cases hfresh
      · rw [hseries] at hcomplete
        dsimp only at hcomplete
        rw [countP_buckets hbuckets] at hcomplete
        by_contra hgaps
        rw [if_pos (not_le.1 hgaps)] at hcomplete
        cases hcomplete

end

/-! ## A greenhouse with two readings -/

namespace Bench

def reading (seconds : Int) (value : ℚ) : SensorRow :=
  ⟨seconds * 1000000, "gh-a", none, "temperature", .fin value, "C"⟩

/-- Two readings within a minute, early in the third hour. -/
def twoReadings : List SensorRow := [reading 7200 20, reading 7260 22]

def trustedContext : PlanningContext :=
  { Optimizer.Bench.context with
    start := 7260 * 1000000 - 43200 * 1000000
    stop := 7260 * 1000000
    telemetry := [⟨.temperature, none, [⟨7200 * 1000000, 20, 21, 22, 2⟩],
      Optimizer.slugOrNull_none⟩]
    dataQuality := { Optimizer.Bench.context.dataQuality with
      freshness := [⟨.temperature, none, some (7260 * 1000000), some 0, 2,
        Optimizer.slugOrNull_none, fun _ h => (Option.some.inj h).le⟩] } }

def onlyTemperature : DataQualitySettings := { requiredMetrics := [.temperature] }

theorem rowsIn_twoReadings : rowsIn twoReadings "gh-a" (7260 * 1000000 - 43200 * 1000000)
    (7260 * 1000000) = twoReadings := by
  decide

theorem reads_trustedContext : ReadsHistory trustedContext
    (planningHistory Collation.codePoints twoReadings twoReadings twoReadings "gh-a"
      (43200 * 1000000) (bucketWidth trustedContext.interval)) := by
  have hlatest : latestReadingTs twoReadings "gh-a" = some (7260 * 1000000) := by decide
  rw [history_of_latest hlatest, groupSummaries_eq, metricFreshness, rowsIn_twoReadings]
  · have hscope : groupKeys Collation.codePoints.scopeLe SensorRow.scope twoReadings =
        [("temperature", none)] := groupKeys_eq_singleton (by decide)
    have hof : ofScope ("temperature", none) twoReadings = twoReadings := by decide
    have hbuckets : bucketStarts (bucketWidth trustedContext.interval) twoReadings =
        [7200 * 1000000] := groupKeys_eq_singleton (by decide)
    rw [hscope, List.map_singleton, List.map_singleton, hof, hbuckets, List.map_singleton]
    have hinside : (twoReadings.filter fun row =>
        timeBucket (bucketWidth trustedContext.interval) row.ts = 7200 * 1000000) =
      twoReadings := by decide
    have hrows : (twoReadings.filter fun row => row.scope = ("temperature", none)) =
      twoReadings := by decide
    have hvalues : twoReadings.map (·.value) = [.fin 20, .fin 22] := rfl
    have hnewest : ((twoReadings.map (·.ts)).max?).getD 0 = 7260 * 1000000 := by decide
    refine ⟨rfl, rfl, .cons ⟨rfl, .cons ⟨rfl, ?_, ?_, ?_, ?_⟩ .nil⟩ .nil,
      .cons ⟨rfl, ?_, ?_, ?_⟩ .nil⟩
    all_goals dsimp only [summaryBucket, bucketRow, aggregateRow]
    · rw [hinside, hvalues]
      decide
    · rw [hinside, hvalues]
      have hcount : F64.ofNat [F64.fin 20, F64.fin 22].length = .fin 2 := rfl
      rw [sqlAvg, hcount, List.foldl_cons, List.foldl_cons, List.foldl_nil, F64.zero_eq,
        F64.fin_add_fin, F64.fin_add_fin, F64.fin_div_fin (by norm_num)]
      norm_num
    · rw [hinside, hvalues]
      decide
    · rw [hinside]
      rfl
    · rw [hrows, hnewest]
    · simp only [hrows, hnewest]
      norm_num
    · rw [hrows]
      rfl
  · rw [rowsIn_twoReadings]
    decide

theorem trusted_trustedContext :
    (evaluateInputGate trustedContext onlyTemperature "gh-a").trusted = true := by
  decide +kernel

end Bench

/-- What the gate vouches for there. -/
theorem trusted_readings_twoReadings :
    ∃ latest, latestReadingTs Bench.twoReadings "gh-a" = some latest ∧
      ∃ row ∈ ofScope (scopeOf (.temperature, none))
          (windowRows Bench.twoReadings "gh-a" (43200 * 1000000) latest),
        ((latest - row.ts : Int) : ℚ) / 1000000 ≤
          Bench.onlyTemperature.maxTelemetryAgeMinutes * 60 := by
  obtain ⟨latest, hlatest, hrow, -, -⟩ := @trusted_readings Collation.codePoints _ _ _ _ _ _
    Bench.onlyTemperature (.temperature, none) (fun _ h => h) Bench.reads_trustedContext
    Bench.trusted_trustedContext (by decide)
  exact ⟨latest, hlatest, hrow⟩

end Greenhouse.Contract
