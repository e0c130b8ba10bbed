import Mathlib.Data.String.Basic
import Greenhouse.Platform.Ingest
import Greenhouse.Process.Collate

/-!
# Telemetry summaries

The history that the platform serves: queries over the stored readings, in a window that ends at
the latest reading of the greenhouse, and the loops that collapse their rows into series. The
database is read by one query after another, and readings may be stored in between.

* `analytics`, `metricFreshness`, `latestReadingTs`: the queries.
* `groupSummaries`, `groupAnalytics`, `groupSeries`: the loops.
* `planningHistory`: the history in the planning context of a greenhouse.
* `collapse_analytics`, `groupSummaries_eq`: the series of the summaries, one for each metric and
  zone.
-/

namespace Greenhouse.Platform

open Greenhouse.Numeric Greenhouse.Process

/-! ## The stored readings -/

/-- A row of `sensor_readings`. Timestamps are in microseconds. -/
structure SensorRow where
  ts : Int
  greenhouseId : String
  zoneId : Option String
  metric : String
  value : F64
  unit : String
  deriving DecidableEq

/-- What a series is about: a metric, of the house or of a zone. -/
abbrev Scope := String × Option String

def SensorRow.scope (row : SensorRow) : Scope := (row.metric, row.zoneId)

/-- How the database compares texts. -/
structure Collation where
  le : String → String → Bool
  order : TotalOrder le

/-- Texts by their code points. -/
def Collation.codePoints : Collation := ⟨fun a b => decide (a ≤ b), totalOrder_le⟩

/-- `ORDER BY metric, zone_id NULLS FIRST`. -/
def Collation.scopeLe (c : Collation) : Scope → Scope → Bool := lexLe c.le (nullsFirst c.le)

/-- The origin of the buckets, the third of January 2000. -/
def bucketOrigin : Int := 946857600 * 1000000

/-- `time_bucket`, for a width in microseconds. -/
def timeBucket (width ts : Int) : Int := bucketOrigin + (ts - bucketOrigin) / width * width

/-- `a < b`: a `NaN` is greater than any other number. -/
def sqlLt (a b : F64) : Bool := F64.lt a b || (decide (b = .nan) && decide (a ≠ .nan))

/-- The aggregates of a column; a group is not empty. -/
def sqlMin (values : List F64) : F64 :=
  values.tail.foldl (fun least v => if sqlLt v least then v else least) (values.headD .nan)

def sqlMax (values : List F64) : F64 :=
  values.tail.foldl (fun greatest v => if sqlLt greatest v then v else greatest)
    (values.headD .nan)

def sqlAvg (values : List F64) : F64 := values.foldl (· + ·) 0 / F64.ofNat values.length

/-! ## Queries -/

/-- The rows of a greenhouse in a window. -/
def rowsIn (table : List SensorRow) (greenhouseId : String) (start stop : Int) : List SensorRow :=
  table.filter fun row => row.greenhouseId = greenhouseId ∧ start ≤ row.ts ∧ row.ts ≤ stop

/-- One time-bucket aggregate of a series. -/
structure AnalyticsRow where
  metric : String
  zoneId : Option String
  bucketStart : Int
  min : F64
  max : F64
  avg : F64
  count : Nat

/-- The row of a group. -/
def aggregateRow (key : Scope × Int) (rows : List SensorRow) : AnalyticsRow where
  metric := key.1.1
  zoneId := key.1.2
  bucketStart := key.2
  min := sqlMin (rows.map (·.value))
  max := sqlMax (rows.map (·.value))
  avg := sqlAvg (rows.map (·.value))
  count := rows.length

/-- The group of a row: its series and its bucket. -/
def bucketKey (width : Int) (row : SensorRow) : Scope × Int := (row.scope, timeBucket width row.ts)

def Collation.bucketLe (c : Collation) : Scope × Int → Scope × Int → Bool :=
  lexLe c.scopeLe fun a b => decide (a ≤ b)

def analytics (c : Collation) (table : List SensorRow) (greenhouseId : String) (start stop : Int)
    (metric : Option String) (width : Int) : List AnalyticsRow :=
  let selected := (rowsIn table greenhouseId start stop).filter fun row =>
    metric.all (· = row.metric)
  (groupKeys c.bucketLe (bucketKey width) selected).map fun key =>
    aggregateRow key (selected.filter fun row => bucketKey width row = key)

/-- The recency of a series over a window. -/
structure FreshnessRow where
  metric : String
  zoneId : Option String
  latestTs : Int
  sampleCount : Nat

def metricFreshness (c : Collation) (table : List SensorRow) (greenhouseId : String)
    (start stop : Int) : List FreshnessRow :=
  let selected := rowsIn table greenhouseId start stop
  (groupKeys c.scopeLe SensorRow.scope selected).map fun key =>
    let rows := selected.filter fun row => row.scope = key
    { metric := key.1
      zoneId := key.2
      latestTs := ((rows.map (·.ts)).max?).getD 0
      sampleCount := rows.length }

/-- The latest timestamp of a greenhouse, when it has readings. -/
def latestReadingTs (table : List SensorRow) (greenhouseId : String) : Option Int :=
  ((table.filter fun row => row.greenhouseId = greenhouseId).map (·.ts)).max?

/-- The raw readings of a window, ordered for grouping. -/
def rangeReadings (c : Collation) (table : List SensorRow) (greenhouseId : String)
    (start stop : Int) : List SensorRow :=
  (rowsIn table greenhouseId start stop).mergeSort fun a b =>
    lexLe c.scopeLe (fun a b : Int => decide (a ≤ b)) (a.scope, a.ts) (b.scope, b.ts)

/-! ## Series -/

/-- The loop compares metrics, and zones with no zone as the empty text. -/
def sameScope (a b : Scope) : Bool := decide (a.1 = b.1) && decide (zoneKey a.2 = zoneKey b.2)

/-- An instant of a response; its text is in RFC 3339. -/
structure SummaryBucketDto where
  bucketStart : Int
  min : F64
  mean : F64
  max : F64
  count : Nat

structure MetricSummarySeriesDto where
  metric : String
  zoneId : Option String
  buckets : List SummaryBucketDto

def summaryBucket (row : AnalyticsRow) : SummaryBucketDto where
  bucketStart := row.bucketStart
  min := row.min
  mean := row.avg
  max := row.max
  count := row.count

def groupSummaries (rows : List AnalyticsRow) : List MetricSummarySeriesDto :=
  (collapse (fun row => (row.metric, row.zoneId)) summaryBucket sameScope rows).map fun s =>
    ⟨s.1.1, s.1.2, s.2⟩

structure AnalyticsBucketDto where
  bucketStart : Int
  min : F64
  max : F64
  avg : F64
  count : Nat

structure AnalyticsSeriesDto where
  metric : String
  zoneId : Option String
  buckets : List AnalyticsBucketDto

def analyticsBucket (row : AnalyticsRow) : AnalyticsBucketDto :=
  ⟨row.bucketStart, row.min, row.max, row.avg, row.count⟩

def groupAnalytics (rows : List AnalyticsRow) : List AnalyticsSeriesDto :=
  (collapse (fun row => (row.metric, row.zoneId)) analyticsBucket sameScope rows).map fun s =>
    ⟨s.1.1, s.1.2, s.2⟩

structure ReadingDto where
  value : F64
  ts : Int

structure TelemetrySeriesDto where
  metric : String
  zoneId : Option String
  readings : List ReadingDto

def readingDto (row : SensorRow) : ReadingDto := ⟨row.value, row.ts⟩

def groupSeries (readings : List SensorRow) : List TelemetrySeriesDto :=
  (collapse SensorRow.scope readingDto sameScope readings).map fun s => ⟨s.1.1, s.1.2, s.2⟩

/-! ## The history of a planning context -/

structure MetricFreshnessDto where
  metric : String
  zoneId : Option String
  latestTs : Option Int
  ageSeconds : Option ℚ
  sampleCount : Nat

/-- The age of each series at the end of the window. -/
def mapFreshness (rows : List FreshnessRow) (stop : Int) : List MetricFreshnessDto :=
  rows.map fun row =>
    let age : ℚ := (stop - row.latestTs : Int) / 1000000
    { metric := row.metric
      zoneId := row.zoneId
      latestTs := some row.latestTs
      ageSeconds := some (if age < 0 then 0 else age)
      sampleCount := row.sampleCount }

/-- The zero time. -/
def zeroTime : Int := -62135596800 * 1000000

/-- The window that ends at the latest reading, when there is one. -/
def anchorWindow (table : List SensorRow) (greenhouseId : String) (window : Int) :
    Int × Int × Bool :=
  match latestReadingTs table greenhouseId with
  | some latest => (latest - window, latest, true)
  | none => (zeroTime, zeroTime, false)

/-- What a planning context says of the stored readings. -/
structure PlanningHistory where
  start : Int
  stop : Int
  telemetry : List MetricSummarySeriesDto
  freshness : List MetricFreshnessDto

/-- The three queries of a planning context, each over the readings that are stored then. -/
def planningHistory (c : Collation) (anchored summarized checked : List SensorRow)
    (greenhouseId : String) (window width : Int) : PlanningHistory :=
  let (start, stop, hasData) := anchorWindow anchored greenhouseId window
  { start := start
    stop := stop
    telemetry := groupSummaries
      (if hasData then analytics c summarized greenhouseId start stop none width else [])
    freshness := mapFreshness
      (if hasData then metricFreshness c checked greenhouseId start stop else []) stop }

/-! ## What is served -/

/-- The instants at which the buckets of some rows start, in order. -/
def bucketStarts (width : Int) (rows : List SensorRow) : List Int :=
  groupKeys (fun a b => decide (a ≤ b)) (fun row => timeBucket width row.ts) rows

/-- The rows of a series. -/
def ofScope (scope : Scope) (rows : List SensorRow) : List SensorRow :=
  rows.filter fun row => row.scope = scope

section

variable {c : Collation} {table : List SensorRow} {greenhouseId : String} {start stop width : Int}
  {rows : List SensorRow} {scope : Scope}

theorem mem_rowsIn {row : SensorRow} : row ∈ rowsIn table greenhouseId start stop ↔
    row ∈ table ∧ row.greenhouseId = greenhouseId ∧ start ≤ row.ts ∧ row.ts ≤ stop := by
  rw [rowsIn, List.mem_filter, decide_eq_true_iff]

theorem mem_ofScope {row : SensorRow} :
    row ∈ ofScope scope rows ↔ row ∈ rows ∧ row.scope = scope := by
  rw [ofScope, List.mem_filter, decide_eq_true_iff]

theorem Collation.scope_order (c : Collation) : TotalOrder c.scopeLe := c.order.lex c.order.nulls

/-- Scopes without an empty zone are told apart. -/
theorem sameScope_eq {a b : Scope} (ha : a.2 ≠ some "") (hb : b.2 ≠ some "") :
    sameScope a b = decide (a = b) := by
  obtain ⟨metric, zone⟩ := a
  obtain ⟨metric', zone'⟩ := b
  have hzone : zoneKey zone = zoneKey zone' ↔ zone = zone' := by
    cases zone with
    | none =>
      cases zone' with
      | none => exact ⟨fun _ => rfl, fun _ => rfl⟩
      | some z => exact ⟨fun h => absurd (congrArg some h).symm hb, fun h => nomatch h⟩
    | some z =>
      cases zone' with
      | none => exact ⟨fun h => absurd (congrArg some h) ha, fun h => nomatch h⟩
      | some z' => exact ⟨fun h => congrArg some h, fun h => Option.some.inj h⟩
  rw [sameScope, ← Bool.decide_and]
  exact decide_eq_decide.2 ⟨fun h => Prod.ext h.1 (hzone.1 h.2), fun h =>
    ⟨congrArg Prod.fst h, hzone.2 (congrArg Prod.snd h)⟩⟩

/-- The row of a bucket of a series. -/
def bucketRow (width : Int) (rows : List SensorRow) (scope : Scope) (bucketStart : Int) :
    AnalyticsRow :=
  aggregateRow (scope, bucketStart)
    (rows.filter fun row => timeBucket width row.ts = bucketStart)

/-- **The analytics of some rows, collapsed**: a series for each metric and zone that they are
of, in the order of the database, with the buckets that they fall into. -/
theorem collapse_analytics {β : Type} (item : AnalyticsRow → β)
    (hzones : ∀ row ∈ rows, row.zoneId ≠ some "") :
    collapse (fun row => (row.metric, row.zoneId)) item sameScope
        ((groupKeys c.bucketLe (bucketKey width) rows).map fun key =>
          aggregateRow key (rows.filter fun row => bucketKey width row = key)) =
      (groupKeys c.scopeLe SensorRow.scope rows).map fun scope =>
        (scope, (bucketStarts width (ofScope scope rows)).map fun start =>
          item (bucketRow width (ofScope scope rows) scope start)) := by
  set keys := groupKeys c.bucketLe (bucketKey width) rows with hkeys
  set row := fun key => aggregateRow key (rows.filter fun r => bucketKey width r = key)
  have hzone : ∀ key ∈ keys, key.1.2 ≠ some "" := by
    intro key hkey
    obtain ⟨r, hr, rfl⟩ := mem_groupKeys.1 hkey
    exact hzones r hr
  have hscopes : groupKeys c.scopeLe (fun r : AnalyticsRow => (r.metric, r.zoneId)) (keys.map row) =
      groupKeys c.scopeLe SensorRow.scope rows := by
    refine eq_groupKeys c.scope_order nodup_groupKeys (pairwise_groupKeys c.scope_order) ?_
    intro scope
    rw [mem_groupKeys]
    constructor
    · rintro ⟨_, hr, rfl⟩
      obtain ⟨key, hkey, rfl⟩ := List.mem_map.1 hr
      obtain ⟨r', hr', rfl⟩ := mem_groupKeys.1 hkey
      exact ⟨r', hr', rfl⟩
    · rintro ⟨r, hr, rfl⟩
      exact ⟨_, List.mem_map_of_mem (mem_groupKeys.2 ⟨r, hr, rfl⟩), rfl⟩
  have hitems : ∀ scope, ((keys.map row).filter fun r => (r.metric, r.zoneId) = scope).map item =
      (bucketStarts width (ofScope scope rows)).map fun start =>
        item (bucketRow width (ofScope scope rows) scope start) := by
    intro scope
    rw [bucketStarts, ofScope, ← groupKeys_column c.scope_order totalOrder_le scope,
      List.filter_map, List.map_map, List.map_map]
    refine List.map_congr_left fun key hkey => ?_
    have hscope : key.1 = scope := of_decide_eq_true (List.mem_filter.1 hkey).2
    have hinside : (rows.filter fun r => bucketKey width r = key) =
        (rows.filter fun r => r.scope = scope).filter fun r => timeBucket width r.ts = key.2 := by
      rw [List.filter_filter]
      refine List.filter_congr fun r _ => ?_
      rw [← hscope, ← Bool.decide_and]
      exact decide_eq_decide.2 (Prod.ext_iff.trans and_comm)
    simp only [row, Function.comp_apply]
    rw [hinside, bucketRow, ← hscope]
  rw [collapse_eq ?_ c.scope_order ?_, hscopes]
  · exact List.map_congr_left fun scope _ => Prod.ext rfl (hitems scope)
  · intro a ha b hb
    obtain ⟨key, hkey, rfl⟩ := List.mem_map.1 ha
    obtain ⟨key', hkey', rfl⟩ := List.mem_map.1 hb
    exact sameScope_eq (hzone key hkey) (hzone key' hkey')
  · rw [List.pairwise_map]
    exact (pairwise_groupKeys (c.scope_order.lex totalOrder_le)).imp
      fun h => fst_of_lexLe c.scope_order h

theorem filter_all_none (rows : List SensorRow) :
    (rows.filter fun row => (none : Option String).all (· = row.metric)) = rows :=
  List.filter_eq_self.2 fun _ _ => rfl

/-- **The summaries of a window.** -/
theorem groupSummaries_eq
    (hzones : ∀ row ∈ rowsIn table greenhouseId start stop, row.zoneId ≠ some "") :
    groupSummaries (analytics c table greenhouseId start stop none width) =
      (groupKeys c.scopeLe SensorRow.scope (rowsIn table greenhouseId start stop)).map fun scope =>
        ⟨scope.1, scope.2, (bucketStarts width
          (ofScope scope (rowsIn table greenhouseId start stop))).map fun start' => summaryBucket
            (bucketRow width (ofScope scope (rowsIn table greenhouseId start stop)) scope
              start')⟩ := by
  rw [groupSummaries, analytics, filter_all_none, collapse_analytics summaryBucket hzones,
    List.map_map]
  rfl

end

end Greenhouse.Platform
