import Greenhouse.Platform.Summaries

/-!
# Charts and raw history

The dashboard reads a window of history in two ways: the raw readings, collapsed into series, and
the buckets that the database aggregates. The buckets are those of the raw series.

* `sqlMin_perm`, `sqlMax_perm`, `sqlAvg_perm`: an aggregate does not depend on the order of the
  readings.
* `groupSeries_eq`: the raw series of a window.
* `analytics_of_series`: **the aggregated series are the raw ones, bucket by bucket.**
-/

namespace Greenhouse.Platform

open Greenhouse.Numeric Greenhouse.Process

/-! ## Aggregates -/

section Aggregates

variable {a b : F64} {l l' : List F64}

/-- A strict total order, as a test. -/
structure StrictTotal (before : F64 → F64 → Bool) : Prop where
  trans : ∀ a b c, before a b = true → before b c = true → before a c = true
  asymm : ∀ a b, before a b = true → ¬ before b a = true
  total : ∀ a b, before a b = true ∨ a = b ∨ before b a = true

theorem strictTotal_sqlLt : StrictTotal sqlLt where
  trans a b c h h' := by
    cases a <;> cases b <;> cases c <;> simp_all [sqlLt, F64.lt]
    exact h.trans h'
  asymm a b h := by
    cases a <;> cases b <;> simp_all [sqlLt, F64.lt]
    exact h.le
  total a b := by
    cases a with
    | nan => cases b <;> simp [sqlLt]
    | negInf => cases b <;> simp [sqlLt, F64.lt]
    | posInf => cases b <;> simp [sqlLt, F64.lt]
    | fin p =>
      cases b with
      | fin q =>
        rcases lt_trichotomy p q with h | rfl | h
        · exact Or.inl (by simp [sqlLt, F64.lt, h])
        · exact Or.inr (Or.inl rfl)
        · exact Or.inr (Or.inr (by simp [sqlLt, F64.lt, h]))
      | _ => simp [sqlLt, F64.lt]

theorem StrictTotal.flip {before : F64 → F64 → Bool} (h : StrictTotal before) :
    StrictTotal fun a b => before b a where
  trans a b c hab hbc := h.trans c b a hbc hab
  asymm a b hab := h.asymm b a hab
  total a b := (h.total b a).imp_right (Or.imp_left Eq.symm)

variable {before : F64 → F64 → Bool}

/-- A number of the column that none is before. -/
def FirstOf (before : F64 → F64 → Bool) (values : List F64) (m : F64) : Prop :=
  m ∈ values ∧ ∀ v ∈ values, ¬ before v m = true

/-- A scan for a first number finds one. -/
theorem firstOf_scan (horder : StrictTotal before) (v : F64) (values : List F64) :
    FirstOf before (v :: values) (values.foldl (fun m v => if before v m then v else m) v) := by
  induction values using List.reverseRecOn with
  | nil =>
    refine ⟨List.mem_cons_self, fun u hu => ?_⟩
    obtain rfl := List.mem_singleton.1 hu
    exact fun h => horder.asymm _ _ h h
  | append_singleton values w ih =>
    rw [List.foldl_concat]
    generalize values.foldl (fun m v => if before v m then v else m) v = m at ih
    split
    case isTrue hlt =>
      refine ⟨by simp, fun u hu huw => ?_⟩
      rw [← List.cons_append] at hu
      rcases List.mem_append.1 hu with hu | hu
      · exact ih.2 u hu (horder.trans _ _ _ huw hlt)
      · obtain rfl := List.mem_singleton.1 hu
        exact horder.asymm _ _ huw huw
    case isFalse hge =>
      rw [← List.cons_append]
      refine ⟨List.mem_append_left _ ih.1, fun u hu hum => ?_⟩
      rcases List.mem_append.1 hu with hu | hu
      · exact ih.2 u hu hum
      · obtain rfl := List.mem_singleton.1 hu
        exact hge hum

theorem FirstOf.unique (horder : StrictTotal before) (h : l.Perm l') (ha : FirstOf before l a)
    (hb : FirstOf before l' b) : a = b := by
  rcases horder.total a b with hab | hab | hba
  · exact absurd hab (hb.2 a (h.mem_iff.1 ha.1))
  · exact hab
  · exact absurd hba (ha.2 b (h.mem_iff.2 hb.1))

/-- A scan does not depend on the order of a column. -/
theorem scan_perm (horder : StrictTotal before) (h : l.Perm l') :
    l.tail.foldl (fun m v => if before v m then v else m) (l.headD .nan) =
      l'.tail.foldl (fun m v => if before v m then v else m) (l'.headD .nan) := by
  cases l with
  | nil => rw [h.nil_eq]
  | cons v values =>
    cases l' with
    | nil => exact absurd h.symm.nil_eq (List.cons_ne_nil _ _).symm
    | cons v' values' =>
      exact FirstOf.unique horder h (firstOf_scan horder v values) (firstOf_scan horder v' values')

theorem sqlMin_perm (h : l.Perm l') : sqlMin l = sqlMin l' := scan_perm strictTotal_sqlLt h

theorem sqlMax_perm (h : l.Perm l') : sqlMax l = sqlMax l' := scan_perm strictTotal_sqlLt.flip h

theorem add_comm' (a b : F64) : a + b = b + a := by
  cases a <;> cases b <;> first | rfl | exact congrArg F64.fin (add_comm _ _)

theorem sqlAvg_perm (h : l.Perm l') : sqlAvg l = sqlAvg l' := by
  have hsum : ∀ s : F64, l.foldl (· + ·) s = l'.foldl (· + ·) s := by
    refine h.foldl_eq' fun x _ y _ z => ?_
    rw [F64.add_assoc, F64.add_assoc, add_comm' x]
  rw [sqlAvg, sqlAvg, hsum, h.length_eq]

end Aggregates

/-! ## Series -/

section

variable {c : Collation} {table : List SensorRow} {greenhouseId : String} {start stop width : Int}

theorem rangeReadings_perm :
    (rangeReadings c table greenhouseId start stop).Perm (rowsIn table greenhouseId start stop) :=
  List.mergeSort_perm _ _

/-- **The raw series of a window**: one for each metric and zone with readings in it. -/
theorem groupSeries_eq
    (hzones : ∀ row ∈ rowsIn table greenhouseId start stop, row.zoneId ≠ some "") :
    groupSeries (rangeReadings c table greenhouseId start stop) =
      (groupKeys c.scopeLe SensorRow.scope (rowsIn table greenhouseId start stop)).map fun scope =>
        ⟨scope.1, scope.2, (ofScope scope (rangeReadings c table greenhouseId start stop)).map
          readingDto⟩ := by
  have hperm := @rangeReadings_perm c table greenhouseId start stop
  have horder : TotalOrder (lexLe c.scopeLe fun a b : Int => decide (a ≤ b)) :=
    c.scope_order.lex totalOrder_le
  have hsorted : (rangeReadings c table greenhouseId start stop).Pairwise fun a b =>
      c.scopeLe a.scope b.scope = true := by
    have hpairs : (rangeReadings c table greenhouseId start stop).Pairwise fun a b =>
        lexLe c.scopeLe (fun a b : Int => decide (a ≤ b)) (a.scope, a.ts) (b.scope, b.ts) = true :=
      List.pairwise_mergeSort
        (fun a b d => horder.trans (a.scope, a.ts) (b.scope, b.ts) (d.scope, d.ts))
        (fun a b => horder.total (a.scope, a.ts) (b.scope, b.ts)) _
    exact hpairs.imp fun h => fst_of_lexLe c.scope_order h
  have hkeys : groupKeys c.scopeLe SensorRow.scope (rangeReadings c table greenhouseId start stop) =
      groupKeys c.scopeLe SensorRow.scope (rowsIn table greenhouseId start stop) := by
    refine groupKeys_congr c.scope_order fun k => ?_
    exact exists_congr fun row => and_congr_left fun _ => hperm.mem_iff
  rw [groupSeries, collapse_eq ?_ c.scope_order hsorted, hkeys, List.map_map]
  · rfl
  · intro a ha b hb
    exact sameScope_eq (hzones a (hperm.mem_iff.1 ha)) (hzones b (hperm.mem_iff.1 hb))

/-- The buckets of a raw series. -/
def bucketed (width : Int) (s : TelemetrySeriesDto) : AnalyticsSeriesDto where
  metric := s.metric
  zoneId := s.zoneId
  buckets := (groupKeys (fun a b => decide (a ≤ b)) (fun r => timeBucket width r.ts)
    s.readings).map fun start =>
      let inside := s.readings.filter fun r => timeBucket width r.ts = start
      { bucketStart := start
        min := sqlMin (inside.map (·.value))
        max := sqlMax (inside.map (·.value))
        avg := sqlAvg (inside.map (·.value))
        count := inside.length }

/-- The buckets of a raw series are the aggregates of its rows, in any order. -/
theorem bucketed_eq {rows rows' : List SensorRow} (h : rows'.Perm rows) (scope : Scope) :
    bucketed width ⟨scope.1, scope.2, rows'.map readingDto⟩ =
      ⟨scope.1, scope.2, (bucketStarts width rows).map fun start =>
        analyticsBucket (bucketRow width rows scope start)⟩ := by
  have hstarts : groupKeys (fun a b => decide (a ≤ b)) (fun r => timeBucket width r.ts)
      (rows'.map readingDto) = bucketStarts width rows := by
    refine groupKeys_congr totalOrder_le fun k => ?_
    simp only [List.mem_map, exists_exists_and_eq_and, h.mem_iff]
    rfl
  have hinside : ∀ start, (((rows'.map readingDto).filter fun r =>
      timeBucket width r.ts = start).map (·.value)).Perm
        ((rows.filter fun row => timeBucket width row.ts = start).map (·.value)) := by
    intro start
    rw [List.filter_map, List.map_map]
    exact (h.filter _).map _
  unfold bucketed
  rw [hstarts]
  congr 1
  refine List.map_congr_left fun start _ => ?_
  have hcount := (hinside start).length_eq
  rw [List.length_map, List.length_map] at hcount
  simp only [analyticsBucket, bucketRow, aggregateRow]
  rw [sqlMin_perm (hinside start), sqlMax_perm (hinside start), sqlAvg_perm (hinside start), hcount]

/-- **The charts agree with the raw history.** The aggregated series of a window are the raw
series of the window, for the metric that is asked for, bucket by bucket. The means agree because
exact addition does not depend on the order of the readings. -/
theorem analytics_of_series (metric : Option String)
    (hzones : ∀ row ∈ rowsIn table greenhouseId start stop, row.zoneId ≠ some "") :
    groupAnalytics (analytics c table greenhouseId start stop metric width) =
      ((groupSeries (rangeReadings c table greenhouseId start stop)).filter fun s =>
        metric.all (· = s.metric)).map (bucketed width) := by
  set rows := rowsIn table greenhouseId start stop with hrows
  have hkeys : groupKeys c.scopeLe SensorRow.scope (rows.filter fun row =>
      metric.all (· = row.metric)) = (groupKeys c.scopeLe SensorRow.scope rows).filter fun scope =>
        metric.all (· = scope.1) :=
    groupKeys_filter c.scope_order fun scope : Scope => metric.all (· = scope.1)
  have hgroup : groupAnalytics (analytics c table greenhouseId start stop metric width) =
      ((groupKeys c.scopeLe SensorRow.scope rows).filter fun scope =>
        metric.all (· = scope.1)).map fun scope => ⟨scope.1, scope.2,
          (bucketStarts width (ofScope scope (rows.filter fun row =>
            metric.all (· = row.metric)))).map fun start => analyticsBucket (bucketRow width
              (ofScope scope (rows.filter fun row => metric.all (· = row.metric))) scope
              start)⟩ := by
    rw [← hkeys, groupAnalytics, analytics, collapse_analytics analyticsBucket fun row hrow =>
      hzones row (List.mem_filter.1 hrow).1, List.map_map]
    rfl
  rw [hgroup, groupSeries_eq hzones, List.filter_map, List.map_map]
  refine List.map_congr_left fun scope hscope => ?_
  have hmetric : metric.all (· = scope.1) = true := (List.mem_filter.1 hscope).2
  have hof : ofScope scope (rows.filter fun row => metric.all (· = row.metric)) =
      ofScope scope rows := by
    rw [ofScope, ofScope, List.filter_filter]
    refine List.filter_congr fun row _ => ?_
    by_cases heq : row.scope = scope
    · have hrow : row.metric = scope.1 := congrArg Prod.fst heq
      rw [hrow, hmetric, Bool.and_true]
    · rw [decide_eq_false heq, Bool.false_and]
  rw [hof]
  exact (bucketed_eq (rangeReadings_perm.filter _) scope).symm

end

/-- The temperature of a house and the moisture of two benches. -/
def houseAndBenches : List SensorRow :=
  [⟨7200000000, "gh-a", none, "temperature", .fin 20, "C"⟩,
    ⟨7260000000, "gh-a", some "bench-a", "soil_moisture", .fin (3 / 10), "vwc"⟩,
    ⟨7260000000, "gh-a", some "bench-b", "soil_moisture", .fin (2 / 10), "vwc"⟩,
    ⟨7320000000, "gh-a", none, "temperature", .fin 22, "C"⟩]

theorem analytics_of_series_houseAndBenches :
    groupAnalytics (analytics .codePoints houseAndBenches "gh-a" 0 7320000000
        (some "temperature") 300000000) =
      ((groupSeries (rangeReadings .codePoints houseAndBenches "gh-a" 0 7320000000)).filter fun s =>
        (some "temperature").all (· = s.metric)).map (bucketed 300000000) :=
  analytics_of_series (some "temperature") (by decide)

end Greenhouse.Platform
