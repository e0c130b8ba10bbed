import Mathlib.Algebra.Order.Ring.Rat
import Mathlib.Data.List.Sort
import Mathlib.Tactic.Linarith
import Greenhouse.Numeric.F64
import Greenhouse.Process.InsertionMap

/-!
# Chart series

The points of a chart: the readings of the query cache and of the live buffer merged into one
ascending series, and several series aligned onto one axis.

* `mem_mergeReadings`: the points of a merged series, each told by the last reading of its instant.
* `ascending_mergeReadings`: they are in strict order.
* `merged_and_aligned`: with it, that the axis of several series is the union of their timestamps
  and each row without its gaps is its series.
-/

namespace Greenhouse.Dashboard

open Greenhouse.Numeric Greenhouse.Process

/-- A reading: its instant in milliseconds, and its value. -/
structure Reading where
  ts : ℤ
  value : F64
  deriving DecidableEq

/-- A chart point: `t` in seconds. -/
structure SeriesPoint where
  t : ℚ
  v : F64
  deriving DecidableEq

/-- Points of a chart, each before the next. -/
def Ascending (points : List SeriesPoint) : Prop := points.Pairwise fun a b => a.t < b.t

theorem Ascending.eq_of_mem_iff {points points' : List SeriesPoint} (h : Ascending points)
    (h' : Ascending points') (hmem : ∀ p, p ∈ points ↔ p ∈ points') : points = points' := by
  have hnodup : ∀ {l : List SeriesPoint}, Ascending l → l.Nodup := fun hl =>
    List.Pairwise.imp (fun hlt heq => absurd (congrArg SeriesPoint.t heq) hlt.ne) hl
  have hperm := (List.perm_ext_iff_of_nodup (hnodup h) (hnodup h')).2 hmem
  exact hperm.eq_of_pairwise (fun a b _ _ hab hba => absurd hab (lt_asymm hba)) h h'

/-- Sorting by the difference of a number. -/
theorem pairwise_sort_by {α : Type} (key : α → ℚ) (l : List α) :
    (l.insertionSort fun a b => key a - key b ≤ 0).Pairwise fun a b => key a ≤ key b := by
  have htotal : Std.Total fun a b : α => key a - key b ≤ 0 :=
    ⟨fun a b => (le_total (key a) (key b)).imp sub_nonpos.2 sub_nonpos.2⟩
  have htrans : IsTrans α fun a b => key a - key b ≤ 0 :=
    ⟨fun a b c hab hbc => sub_nonpos.2 ((sub_nonpos.1 hab).trans (sub_nonpos.1 hbc))⟩
  exact (List.pairwise_insertionSort _ l).imp fun h => sub_nonpos.1 h

/-! ## Merging -/

/-- The readings as bindings of a map by instant. -/
def byInstant (readings : List Reading) : List (ℤ × F64) := readings.map fun r => (r.ts, r.value)

/-- The points of both lists of readings, ascending. -/
def mergedPoints (historical live : List Reading) : List SeriesPoint :=
  let byMillis := (InsertionMap.empty.setAll (byInstant historical)).setAll (byInstant live)
  (byMillis.entries.map fun e => ⟨(e.1 : ℚ) / 1000, e.2⟩).insertionSort fun a b => a.t - b.t ≤ 0

/-- Merge the historical readings of a metric with its live ones, and drop the points that are
older than the window behind the newest. -/
def mergeReadings (historical live : List Reading) (windowMs : Option ℚ) : List SeriesPoint :=
  let points := mergedPoints historical live
  match windowMs, points.getLast? with
  | some windowMs, some newest => points.filter fun p => newest.t - windowMs / 1000 ≤ p.t
  | _, _ => points

/-- What the readings tell of an instant: the last live one, else the last historical one. -/
def toldAt (historical live : List Reading) (millis : ℤ) : Option F64 :=
  (lastValue (byInstant live) millis).or (lastValue (byInstant historical) millis)

/-- No reading is more than the window after the instant. -/
def InWindow (readings : List Reading) (windowMs : Option ℚ) (millis : ℤ) : Prop :=
  ∀ w, windowMs = some w → ∀ r ∈ readings, (r.ts : ℚ) - w ≤ millis

section Merge

variable {historical live : List Reading} {windowMs : Option ℚ}

theorem mem_mergedPoints {p : SeriesPoint} : p ∈ mergedPoints historical live ↔
    ∃ millis : ℤ, p.t = (millis : ℚ) / 1000 ∧ toldAt historical live millis = some p.v := by
  have htold : ∀ (k : ℤ) (v : F64),
      (k, v) ∈ ((InsertionMap.empty.setAll (byInstant historical)).setAll
        (byInstant live)).entries ↔ toldAt historical live k = some v := by
    intro k v
    rw [InsertionMap.mem_setAll, InsertionMap.mem_setAll, toldAt, Option.or_eq_some_iff]
    simp [InsertionMap.empty]
  rw [mergedPoints, List.mem_insertionSort, List.mem_map]
  constructor
  · rintro ⟨⟨k, v⟩, he, rfl⟩
    exact ⟨k, rfl, (htold k v).1 he⟩
  · rintro ⟨millis, ht, hv⟩
    refine ⟨(millis, p.v), (htold millis p.v).2 hv, ?_⟩
    rw [← ht]

/-- The merged points are ascending: no instant is listed twice. -/
theorem ascending_mergedPoints : Ascending (mergedPoints historical live) := by
  have hsorted : (mergedPoints historical live).Pairwise fun a b => a.t ≤ b.t :=
    pairwise_sort_by SeriesPoint.t _
  have hdistinct : (mergedPoints historical live).Pairwise fun a b => a.t ≠ b.t := by
    rw [mergedPoints, (List.perm_insertionSort _ _).pairwise_iff fun h => Ne.symm h, List.pairwise_map]
    refine (List.pairwise_map.1 (InsertionMap.nodup _)).imp fun hne heq => hne ?_
    exact Int.cast_injective ((div_left_inj' (by norm_num)).1 heq)
  exact hsorted.imp₂ (fun a b hle hne => lt_of_le_of_ne hle hne) hdistinct

theorem ascending_mergeReadings : Ascending (mergeReadings historical live windowMs) := by
  simp only [mergeReadings]
  split
  · exact ascending_mergedPoints.sublist List.filter_sublist
  · exact ascending_mergedPoints

/-- Every reading is told by its instant. -/
theorem exists_mem_mergedPoints {r : Reading} (hr : r ∈ historical ++ live) :
    ∃ p ∈ mergedPoints historical live, p.t = (r.ts : ℚ) / 1000 := by
  have hsome : (toldAt historical live r.ts).isSome := by
    rw [toldAt, Option.isSome_or, Bool.or_eq_true, InsertionMap.lastValue_isSome,
      InsertionMap.lastValue_isSome, byInstant, byInstant, List.map_map, List.map_map]
    rcases List.mem_append.1 hr with hr | hr
    · exact .inr (List.mem_map_of_mem hr)
    · exact .inl (List.mem_map_of_mem hr)
  obtain ⟨v, hv⟩ := Option.isSome_iff_exists.1 hsome
  exact ⟨⟨r.ts / 1000, v⟩, mem_mergedPoints.2 ⟨r.ts, rfl, hv⟩, rfl⟩

/-- What is told of an instant is the value of a reading at it. -/
theorem exists_reading {millis : ℤ} {v : F64} (h : toldAt historical live millis = some v) :
    ∃ r ∈ historical ++ live, r.ts = millis := by
  have hmem : ∀ {l : List Reading} {v : F64}, lastValue (byInstant l) millis = some v →
      ∃ r ∈ l, r.ts = millis := by
    intro l v hv
    obtain ⟨r, hr, heq⟩ := List.mem_map.1 (InsertionMap.mem_of_lastValue hv)
    exact ⟨r, hr, (Prod.mk.inj heq).1⟩
  rw [toldAt, Option.or_eq_some_iff] at h
  rcases h with hlive | ⟨-, hhistorical⟩
  · obtain ⟨r, hr, heq⟩ := hmem hlive
    exact ⟨r, List.mem_append_right _ hr, heq⟩
  · obtain ⟨r, hr, heq⟩ := hmem hhistorical
    exact ⟨r, List.mem_append_left _ hr, heq⟩

/-- The last merged point is not before any other. -/
theorem le_newest {newest p : SeriesPoint}
    (h : (mergedPoints historical live).getLast? = some newest)
    (hp : p ∈ mergedPoints historical live) : p.t ≤ newest.t := by
  obtain ⟨before, heq⟩ := List.getLast?_eq_some_iff.1 h
  have hascending := @ascending_mergedPoints historical live
  rw [heq] at hp hascending
  rcases List.mem_append.1 hp with hp | hp
  · exact ((List.pairwise_append.1 hascending).2.2 p hp newest List.mem_cons_self).le
  · exact (congrArg SeriesPoint.t (List.mem_singleton.1 hp)).le

/-- A merged point is within the window exactly when no reading is too far after it. -/
theorem within_iff {newest : SeriesPoint} {w : ℚ} {millis : ℤ}
    (h : (mergedPoints historical live).getLast? = some newest) :
    newest.t - w / 1000 ≤ (millis : ℚ) / 1000 ↔
      ∀ r ∈ historical ++ live, (r.ts : ℚ) - w ≤ millis := by
  constructor
  · intro hle r hr
    obtain ⟨p, hp, ht⟩ := exists_mem_mergedPoints hr
    have hnewest := le_newest h hp
    rw [ht] at hnewest
    linarith
  · intro hall
    obtain ⟨newestMillis, ht, htold⟩ := mem_mergedPoints.1 (List.mem_of_getLast? h)
    obtain ⟨r, hr, rfl⟩ := exists_reading htold
    have hle := hall r hr
    rw [ht]
    linarith

/-- **The points of a merged series**: one for each instant of a reading within the window behind
the newest, with what the readings tell of the instant. -/
theorem mem_mergeReadings {p : SeriesPoint} : p ∈ mergeReadings historical live windowMs ↔
    ∃ millis : ℤ, p.t = (millis : ℚ) / 1000 ∧ toldAt historical live millis = some p.v ∧
      InWindow (historical ++ live) windowMs millis := by
  simp only [mergeReadings]
  split
  case h_1 w newest hnewest =>
    rw [List.mem_filter, mem_mergedPoints, decide_eq_true_eq]
    constructor
    · rintro ⟨⟨millis, ht, hv⟩, hcut⟩
      rw [ht] at hcut
      refine ⟨millis, ht, hv, fun w' hw => ?_⟩
      obtain rfl := Option.some.inj hw
      exact (within_iff hnewest).1 hcut
    · rintro ⟨millis, ht, hv, hwindow⟩
      refine ⟨⟨millis, ht, hv⟩, ?_⟩
      rw [ht]
      exact (within_iff hnewest).2 (hwindow w rfl)
  case h_2 hnone =>
    rw [mem_mergedPoints]
    constructor
    · rintro ⟨millis, ht, hv⟩
      refine ⟨millis, ht, hv, fun w hw => ?_⟩
      have hmem : p ∈ mergedPoints historical live := mem_mergedPoints.2 ⟨millis, ht, hv⟩
      cases hlast : (mergedPoints historical live).getLast? with
      | none => exact absurd (List.getLast?_eq_none_iff.1 hlast ▸ hmem) List.not_mem_nil
      | some newest => exact absurd hlast (hnone w newest hw)
    · rintro ⟨millis, ht, hv, -⟩
      exact ⟨millis, ht, hv⟩

end Merge

/-! ## Aligning -/

/-- Series on one axis; a row has a gap where its series has no point. -/
structure Aligned where
  xs : List ℚ
  ys : List (List (Option F64))
  deriving DecidableEq

/-- The timestamps of several series, each listed where it first occurs. -/
def timestamps (seriesList : List (List SeriesPoint)) : InsertionMap ℚ Unit :=
  InsertionMap.empty.setAll ((seriesList.flatMap fun series => series.map (·.t)).map (·, ()))

/-- Where each of the values stands. -/
def indexByX (xs : List ℚ) : InsertionMap ℚ ℕ := InsertionMap.empty.setAll xs.zipIdx

/-- Put a point into a row. -/
def place (xs : List ℚ) (row : List (Option F64)) (p : SeriesPoint) : List (Option F64) :=
  match (indexByX xs).get? p.t with
  | some i => row.set i (some p.v)
  | none => row

def rowOf (xs : List ℚ) (series : List SeriesPoint) : List (Option F64) :=
  series.foldl (place xs) (List.replicate xs.length none)

/-- Align several series onto one ascending axis. -/
def alignSeries (seriesList : List (List SeriesPoint)) : Aligned :=
  let xs := ((timestamps seriesList).entries.map Prod.fst).insertionSort fun a b => a - b ≤ 0
  ⟨xs, seriesList.map (rowOf xs)⟩

/-- The points of a row, without its gaps. -/
def withoutGaps (xs : List ℚ) (row : List (Option F64)) : List SeriesPoint :=
  (xs.zip row).filterMap fun (x, v) => v.map (⟨x, ·⟩)

section Align

variable {seriesList : List (List SeriesPoint)} {xs : List ℚ} {series : List SeriesPoint}
  {row : List (Option F64)}

theorem mem_xs {x : ℚ} :
    x ∈ (alignSeries seriesList).xs ↔ ∃ series ∈ seriesList, ∃ p ∈ series, p.t = x := by
  rw [alignSeries, List.mem_insertionSort, timestamps, InsertionMap.mem_keys_setAll, List.map_map]
  simp [InsertionMap.empty]

theorem pairwise_xs : (alignSeries seriesList).xs.Pairwise (· < ·) := by
  have hsorted : (alignSeries seriesList).xs.Pairwise (· ≤ ·) := pairwise_sort_by (fun x => x) _
  have hdistinct : (alignSeries seriesList).xs.Nodup :=
    (List.perm_insertionSort _ _).nodup_iff.2 (InsertionMap.nodup _)
  exact hsorted.imp₂ (fun a b hle hne => lt_of_le_of_ne hle hne) hdistinct

theorem get?_indexByX (hxs : xs.Nodup) {x : ℚ} {i : ℕ} :
    (indexByX xs).get? x = some i ↔ xs[i]? = some x := by
  rw [indexByX, InsertionMap.get?_setAll_empty, InsertionMap.lastValue_eq_some,
    List.mem_zipIdx_iff_getElem?]
  rwa [List.zipIdx_map_fst]

/-- Putting a point into a row changes the row at its timestamp. -/
theorem getElem?_place (hxs : xs.Nodup) (hlen : row.length = xs.length) {p : SeriesPoint} {j : ℕ}
    {x : ℚ} (hx : xs[j]? = some x) :
    (place xs row p)[j]? = if p.t = x then some (some p.v) else row[j]? := by
  have hj : j < row.length := hlen ▸ (List.getElem?_eq_some_iff.1 hx).1
  rw [place]
  split
  case h_1 i hi =>
    have hi := (get?_indexByX hxs).1 hi
    rw [List.getElem?_set]
    by_cases hij : i = j
    · obtain rfl := hij
      have heq : p.t = x := Option.some.inj (hi.symm.trans hx)
      rw [if_pos rfl, if_pos hj, if_pos heq]
    · have hne : p.t ≠ x := fun heq => hij
        ((List.getElem?_inj (List.getElem?_eq_some_iff.1 hi).1 hxs).1 (by rw [hi, hx, heq]))
      rw [if_neg hij, if_neg hne]
  case h_2 hnone =>
    have hne : p.t ≠ x := fun heq =>
      Option.some_ne_none j (((get?_indexByX hxs).2 (heq ▸ hx)).symm.trans hnone)
    rw [if_neg hne]

theorem length_place (p : SeriesPoint) : (place xs row p).length = row.length := by
  rw [place]
  split
  · exact List.length_set
  · rfl

theorem length_foldl_place : (series.foldl (place xs) row).length = row.length := by
  induction series generalizing row with
  | nil => rfl
  | cons p series ih => rw [List.foldl_cons, ih, length_place]

/-- What a row holds after the points of a series: the last point of each timestamp. -/
theorem getElem?_foldl_place (hxs : xs.Nodup) (hlen : row.length = xs.length) {j : ℕ} {x : ℚ}
    (hx : xs[j]? = some x) : (series.foldl (place xs) row)[j]? =
      ((lastValue (series.map fun p => (p.t, p.v)) x).map some).or row[j]? := by
  induction series using List.reverseRecOn with
  | nil => rfl
  | append_singleton series p ih =>
    rw [List.foldl_concat, getElem?_place hxs (length_foldl_place.trans hlen) hx, ih,
      List.map_append, List.map_singleton, InsertionMap.lastValue_concat]
    by_cases heq : p.t = x
    · rw [if_pos heq, if_pos heq]
      rfl
    · rw [if_neg heq, if_neg heq]

theorem mem_withoutGaps {p : SeriesPoint} :
    p ∈ withoutGaps xs row ↔ ∃ j : ℕ, xs[j]? = some p.t ∧ row[j]? = some (some p.v) := by
  rw [withoutGaps, List.mem_filterMap]
  constructor
  · rintro ⟨⟨x, v⟩, hmem, hp⟩
    obtain ⟨w, rfl, rfl⟩ := Option.map_eq_some_iff.1 hp
    obtain ⟨j, hj⟩ := List.mem_iff_getElem?.1 hmem
    exact ⟨j, List.getElem?_zip_eq_some.1 hj⟩
  · rintro ⟨j, hx, hv⟩
    exact ⟨(p.t, some p.v), List.mem_iff_getElem?.2 ⟨j, List.getElem?_zip_eq_some.2 ⟨hx, hv⟩⟩, rfl⟩

theorem ascending_withoutGaps (hxs : xs.Pairwise (· < ·)) (hlen : xs.length ≤ row.length) :
    Ascending (withoutGaps xs row) := by
  have hzip : (xs.zip row).Pairwise fun a b => a.1 < b.1 := by
    refine List.pairwise_map.1 ?_
    rwa [List.map_fst_zip hlen]
  refine List.pairwise_filterMap.2 (hzip.imp fun {a b} hlt p hp q hq => ?_)
  obtain ⟨v, -, rfl⟩ := Option.map_eq_some_iff.1 hp
  obtain ⟨w, -, rfl⟩ := Option.map_eq_some_iff.1 hq
  exact hlt

theorem length_rowOf : (rowOf xs series).length = xs.length :=
  length_foldl_place.trans List.length_replicate

/-- The row of an ascending series whose timestamps are on the axis. -/
theorem withoutGaps_rowOf (hxs : xs.Pairwise (· < ·)) (hseries : Ascending series)
    (hon : ∀ p ∈ series, p.t ∈ xs) : withoutGaps xs (rowOf xs series) = series := by
  have hnodup : xs.Nodup := hxs.imp fun hlt => hlt.ne
  have hkeys : ((series.map fun p => (p.t, p.v)).map Prod.fst).Nodup := by
    rw [List.map_map]
    exact List.pairwise_map.2 (hseries.imp fun hlt => hlt.ne)
  refine (ascending_withoutGaps hxs length_rowOf.ge).eq_of_mem_iff hseries fun p => ?_
  have hlast : lastValue (series.map fun p => (p.t, p.v)) p.t = some p.v ↔ p ∈ series := by
    rw [InsertionMap.lastValue_eq_some hkeys, List.mem_map]
    constructor
    · rintro ⟨q, hq, heq⟩
      obtain ⟨ht, hv⟩ := Prod.mk.inj heq
      obtain rfl : q = p := by
        cases q
        cases p
        cases ht
        cases hv
        rfl
      exact hq
    · exact fun hp => ⟨p, hp, rfl⟩
  rw [mem_withoutGaps, ← hlast]
  have hrow : ∀ j : ℕ, xs[j]? = some p.t → ((rowOf xs series)[j]? = some (some p.v) ↔
      lastValue (series.map fun p => (p.t, p.v)) p.t = some p.v) := by
    intro j hj
    rw [rowOf, getElem?_foldl_place hnodup List.length_replicate hj]
    have hgap : ∀ w : F64, (List.replicate xs.length (none : Option F64))[j]? ≠ some (some w) := by
      intro w h
      rw [List.getElem?_replicate] at h
      split at h
      · cases h
      · cases h
    cases lastValue (series.map fun p => (p.t, p.v)) p.t with
    | none => exact ⟨fun h => absurd h (hgap _), fun h => by cases h⟩
    | some v =>
      simp only [Option.map_some, Option.some_or, Option.some.injEq]
  constructor
  · rintro ⟨j, hj, hv⟩
    exact (hrow j hj).1 hv
  · intro h
    obtain ⟨j, hj⟩ := List.mem_iff_getElem?.1 (hon p (hlast.1 h))
    exact ⟨j, hj, (hrow j hj).2 h⟩

/-- **The rows of aligned series** are as long as the axis, and each without its gaps is its
series. -/
theorem forall₂_ys (h : ∀ series ∈ seriesList, Ascending series) :
    List.Forall₂ (fun series row => row.length = (alignSeries seriesList).xs.length ∧
      withoutGaps (alignSeries seriesList).xs row = series) seriesList
      (alignSeries seriesList).ys := by
  show List.Forall₂ _ seriesList (seriesList.map (rowOf (alignSeries seriesList).xs))
  rw [List.forall₂_map_right_iff, List.forall₂_same]
  intro series hseries
  exact ⟨length_rowOf, withoutGaps_rowOf pairwise_xs (h series hseries) fun p hp =>
    mem_xs.2 ⟨series, hseries, p, hp, rfl⟩⟩

end Align

/-- **Merged and aligned series**: a merged series is ascending and has one point for each instant
of a reading within the window behind the newest, with the value of the last live reading of the
instant, else of the last historical one; the axis of ascending series is the ascending union of
their timestamps, and each row is as long as the axis and without its gaps its series. -/
theorem merged_and_aligned (historical live : List Reading) (windowMs : Option ℚ)
    (seriesList : List (List SeriesPoint)) (h : ∀ series ∈ seriesList, Ascending series) :
    (Ascending (mergeReadings historical live windowMs) ∧
      ∀ p, p ∈ mergeReadings historical live windowMs ↔
        ∃ millis : ℤ, p.t = (millis : ℚ) / 1000 ∧ toldAt historical live millis = some p.v ∧
          InWindow (historical ++ live) windowMs millis) ∧
    (alignSeries seriesList).xs.Pairwise (· < ·) ∧
    (∀ x, x ∈ (alignSeries seriesList).xs ↔ ∃ series ∈ seriesList, ∃ p ∈ series, p.t = x) ∧
    List.Forall₂ (fun series row => row.length = (alignSeries seriesList).xs.length ∧
      withoutGaps (alignSeries seriesList).xs row = series) seriesList
      (alignSeries seriesList).ys :=
  ⟨⟨ascending_mergeReadings, fun _ => mem_mergeReadings⟩, pairwise_xs, fun _ => mem_xs,
    forall₂_ys h⟩

/-- A live reading replaces the historical one of its instant; the two series share a second. -/
theorem merged_and_aligned_bench :
    mergeReadings [⟨3000, 20⟩, ⟨1000, 18⟩, ⟨2000, 19⟩] [⟨2000, 21⟩] (some 1000) =
      [⟨2, 21⟩, ⟨3, 20⟩] ∧
    List.Forall₂ (fun series row => row.length = 3 ∧ withoutGaps [1, 2, 3] row = series)
      [[⟨1, 18⟩, ⟨2, 19⟩], [⟨2, 60⟩, ⟨3, 61⟩]]
      [[some 18, some 19, none], [none, some 60, some (61 : F64)]] := by
  have haxis : alignSeries [[⟨1, 18⟩, ⟨2, 19⟩], [⟨2, 60⟩, ⟨3, 61⟩]] =
      ⟨[1, 2, 3], [[some 18, some 19, none], [none, some 60, some 61]]⟩ := by
    decide +kernel
  have hrows := (merged_and_aligned [] [] none [[⟨1, 18⟩, ⟨2, 19⟩], [⟨2, 60⟩, ⟨3, 61⟩]]
    (by norm_num [Ascending])).2.2.2
  rw [haxis] at hrows
  exact ⟨by decide +kernel, hrows⟩

end Greenhouse.Dashboard
