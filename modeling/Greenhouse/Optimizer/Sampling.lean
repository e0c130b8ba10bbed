import Mathlib.Algebra.Order.BigOperators.Group.List
import Mathlib.Data.List.Infix
import Greenhouse.Optimizer.StateChange
import Greenhouse.Process.InsertionMap

/-!
# Sampling a forecast on whole hours

* `times_hourlySamples`, `mem_times`: the sampled instants are the whole hours of the series.
* `interpolates_hourlySamples`: **each sample is the piecewise linear interpolation of the
  series.**
* `forecastDistance_comm`, `forecastDistance_eq_none`: the distance of two forecasts is symmetric,
  and there is one exactly when they share an hour.
-/

namespace Greenhouse.Optimizer

open Greenhouse.Process

/-! ## The whole hours -/

theorem hours_pos : 0 < hours 1 := by
  decide

/-- The first whole hour is a whole hour, and none lies between it and the start. -/
theorem firstHour_spec (start : Instant) : hours 1 ∣ firstHour start ∧ start ≤ firstHour start ∧
    firstHour start < start + hours 1 := by
  have hmod := Int.emod_nonneg start hours_pos.ne'
  have hlt := Int.emod_lt_of_pos start hours_pos
  have hdvd : hours 1 ∣ start - start % hours 1 := Int.dvd_self_sub_emod
  unfold firstHour
  simp only
  split
  case isTrue hbefore => exact ⟨dvd_add hdvd (dvd_refl _), by linarith, by linarith⟩
  case isFalse hafter => exact ⟨hdvd, not_lt.1 hafter, by linarith⟩

/-- A whole hour is not before the start exactly when it is the first one or a later one. -/
theorem firstHour_le {start t : Instant} (ht : hours 1 ∣ t) : firstHour start ≤ t ↔ start ≤ t := by
  obtain ⟨hdvd, hle, hlt⟩ := firstHour_spec start
  constructor
  · exact hle.trans
  · intro hstart
    by_contra hbefore
    have hgap : hours 1 ∣ firstHour start - t := dvd_sub hdvd ht
    have hsmall := Int.le_of_dvd (sub_pos.2 (not_le.1 hbefore)) hgap
    linarith

/-! ## The walk -/

/-- Dropping points leaves two consecutive ones. -/
theorem advanceTo_spec {time : Instant} {points : Forecast} (h : 2 ≤ points.length) :
    ∃ before a b rest, points = before ++ a :: b :: rest ∧ advanceTo time points = a :: b :: rest ∧
      (before ≠ [] → a.time < time) ∧ (rest ≠ [] → time ≤ b.time) := by
  induction points with
  | nil => simp at h
  | cons a points ih =>
    match points with
    | [] => simp at h
    | [b] => exact ⟨[], a, b, [], rfl, rfl, fun h => absurd rfl h, fun h => absurd rfl h⟩
    | b :: c :: points =>
      rw [advanceTo]
      split
      case isTrue hlt =>
        obtain ⟨before, a', b', rest, heq, hadvance, hbefore, hrest⟩ := ih (by simp)
        refine ⟨a :: before, a', b', rest, by rw [heq]; rfl, hadvance, fun _ => ?_, hrest⟩
        cases before with
        | nil =>
          obtain ⟨rfl, -⟩ := List.cons.inj heq
          exact hlt
        | cons => exact hbefore (List.cons_ne_nil _ _)
      case isFalse hge =>
        exact ⟨[], a, b, c :: points, rfl, rfl, fun h => absurd rfl h, fun _ => not_lt.1 hge⟩

/-- The sampled instants go on hour by hour. -/
theorem times_samplesFrom {n : ℕ} {cursor : Instant} {points : Forecast} (h : 2 ≤ points.length) :
    (samplesFrom n cursor points).map Prod.fst =
      (List.range n).map fun (i : ℕ) => cursor + i * hours 1 := by
  induction n generalizing cursor points with
  | zero => rfl
  | succ n ih =>
    obtain ⟨before, a, b, rest, -, hadvance, -, -⟩ := @advanceTo_spec cursor points h
    rw [samplesFrom, hadvance, List.map_cons, ih (by simp), List.range_succ_eq_map, List.map_cons,
      List.map_map]
    refine congrArg₂ List.cons (by simp) (List.map_congr_left fun i _ => ?_)
    simp only [Function.comp_apply, Nat.succ_eq_add_one]
    push_cast
    ring

/-- Each sample is taken on two consecutive points around its instant. -/
theorem mem_samplesFrom {n : ℕ} {cursor : Instant} {points : Forecast} {t : Instant} {s : Sample}
    (h : 2 ≤ points.length) (hstart : ∀ p, points.head? = some p → p.time ≤ cursor)
    (hstop : ∀ p, points.getLast? = some p → t ≤ p.time)
    (hmem : (t, s) ∈ samplesFrom n cursor points) :
    ∃ a b, [a, b] <:+: points ∧ a.time ≤ t ∧ t ≤ b.time ∧ s = lerp a b t := by
  induction n generalizing cursor points with
  | zero => cases hmem
  | succ n ih =>
    obtain ⟨before, a, b, rest, rfl, hadvance, hbefore, hrest⟩ := @advanceTo_spec cursor points h
    have ha : a.time ≤ cursor := by
      cases before with
      | nil => exact hstart a rfl
      | cons => exact (hbefore (List.cons_ne_nil _ _)).le
    rw [samplesFrom, hadvance] at hmem
    rcases List.mem_cons.1 hmem with heq | hmem
    · obtain ⟨rfl, rfl⟩ := Prod.mk.inj heq
      refine ⟨a, b, ⟨before, rest, by simp⟩, ha, ?_, rfl⟩
      cases rest with
      | nil => exact hstop b (by simp)
      | cons => exact hrest (List.cons_ne_nil _ _)
    · have hlast : (a :: b :: rest).getLast? = (before ++ a :: b :: rest).getLast? := by
        rw [List.getLast?_append_of_ne_nil _ (List.cons_ne_nil _ _)]
      have hpos := hours_pos
      obtain ⟨a', b', hinfix, hspec⟩ := @ih (cursor + hours 1) (a :: b :: rest) (by simp)
        (fun p hp => by
          obtain rfl := Option.some.inj hp
          exact ha.trans (le_add_of_nonneg_right hpos.le))
        (fun p hp => hstop p (hlast ▸ hp)) hmem
      exact ⟨a', b', hinfix.trans ⟨before, [], by simp⟩, hspec⟩

/-! ## The samples of a series -/

section Series

variable {points : Forecast} {first last : PredictedPoint}

/-- A series of two points has a first one and a last one. -/
theorem exists_ends (h : 2 ≤ points.length) :
    ∃ first last, points.head? = some first ∧ points.getLast? = some last := by
  have hne : points ≠ [] := List.ne_nil_of_length_pos (Nat.lt_of_lt_of_le Nat.zero_lt_two h)
  exact ⟨points.head hne, points.getLast hne, List.head?_eq_some_head hne,
    List.getLast?_eq_some_getLast hne⟩

theorem lt_toNat_succ {m : ℤ} (hm : 0 ≤ m) {i : ℕ} : i < m.toNat + 1 ↔ (i : ℤ) ≤ m := by
  omega

/-- How many whole hours are sampled. -/
def hourCount (start stop : Instant) : ℕ :=
  if firstHour start ≤ stop then ((stop - firstHour start) / hours 1).toNat + 1 else 0

theorem hourlySamples_eq (h : 2 ≤ points.length) (hfirst : points.head? = some first)
    (hlast : points.getLast? = some last) : hourlySamples points =
      samplesFrom (hourCount first.time last.time) (firstHour first.time) points := by
  rw [hourlySamples, hfirst, hlast]
  exact if_neg (not_lt.2 h)

/-- **The sampled instants are the whole hours from the first point to the last.** -/
theorem mem_times (h : 2 ≤ points.length) (hfirst : points.head? = some first)
    (hlast : points.getLast? = some last) {t : Instant} :
    t ∈ (hourlySamples points).map Prod.fst ↔
      hours 1 ∣ t ∧ first.time ≤ t ∧ t ≤ last.time := by
  have hpos := hours_pos
  obtain ⟨hdvd, -, -⟩ := firstHour_spec first.time
  rw [hourlySamples_eq h hfirst hlast, times_samplesFrom h, List.mem_map, hourCount]
  constructor
  · rintro ⟨i, hi, rfl⟩
    have ht : hours 1 ∣ firstHour first.time + i * hours 1 :=
      dvd_add hdvd (dvd_mul_left (hours 1) (i : ℤ))
    have hafter : firstHour first.time ≤ firstHour first.time + i * hours 1 :=
      le_add_of_nonneg_right (mul_nonneg (Int.natCast_nonneg i) hpos.le)
    refine ⟨ht, (firstHour_le ht).1 hafter, ?_⟩
    split at hi
    case isTrue hle =>
      have hnonneg := Int.ediv_nonneg (sub_nonneg.2 hle) hpos.le
      have hi := (lt_toNat_succ hnonneg).1 (List.mem_range.1 hi)
      have hmul := (Int.le_ediv_iff_mul_le hpos).1 hi
      linarith
    case isFalse => simp at hi
  · rintro ⟨ht, hstart, hstop⟩
    have hle := (firstHour_le ht).2 hstart
    have hstop' := hle.trans hstop
    rw [if_pos hstop']
    obtain ⟨k, hk⟩ := dvd_sub ht hdvd
    have hk0 : 0 ≤ k := by
      by_contra hneg
      have hbelow : hours 1 * k < 0 := mul_neg_of_pos_of_neg hpos (not_le.1 hneg)
      linarith
    have hkle : k ≤ (last.time - firstHour first.time) / hours 1 := by
      rw [Int.le_ediv_iff_mul_le hpos, mul_comm]
      linarith
    refine ⟨k.toNat, List.mem_range.2 ?_, ?_⟩
    · rw [lt_toNat_succ (Int.ediv_nonneg (sub_nonneg.2 hstop') hpos.le), Int.toNat_of_nonneg hk0]
      exact hkle
    · rw [Int.toNat_of_nonneg hk0, mul_comm]
      linarith

/-- The sampled instants are in order. -/
theorem pairwise_times (points : Forecast) :
    ((hourlySamples points).map Prod.fst).Pairwise (· < ·) := by
  rcases lt_or_ge points.length 2 with h | h
  · have hnone : hourlySamples points = [] := by
      rw [hourlySamples]
      split
      · exact if_pos h
      · rfl
    rw [hnone]
    exact List.Pairwise.nil
  · obtain ⟨first, hfirst⟩ : ∃ p, points.head? = some p := by
      cases points with
      | nil => simp at h
      | cons p => exact ⟨p, rfl⟩
    obtain ⟨last, hlast⟩ : ∃ p, points.getLast? = some p := by
      cases hl : points.getLast? with
      | none => simp [List.getLast?_eq_none_iff.1 hl] at h
      | some p => exact ⟨p, rfl⟩
    rw [hourlySamples_eq h hfirst hlast, times_samplesFrom h, List.pairwise_map]
    refine List.pairwise_lt_range.imp fun {i j} hij => ?_
    have hij : (i : ℤ) < j := by exact_mod_cast hij
    exact Int.add_lt_add_left (Int.mul_lt_mul_of_pos_right hij hours_pos) _

end Series

/-! ## Interpolation -/

/-- The sample is on the line through two points. -/
def OnLine (a b : PredictedPoint) (t : Instant) (s : Sample) : Prop :=
  ∀ i, s i * (b.time - a.time : ℤ) = (gatedMetrics i).1 a * (b.time - t : ℤ) +
    (gatedMetrics i).1 b * (t - a.time : ℤ)

/-- The sample is the value at the instant of the line that leads from point to point. -/
def Interpolates (points : Forecast) (t : Instant) (s : Sample) : Prop :=
  (∃ a b, [a, b] <:+: points ∧ a.time ≤ t ∧ t ≤ b.time) ∧
    ∀ a b, [a, b] <:+: points → a.time ≤ t → t ≤ b.time → OnLine a b t s

theorem lerp_left (a b : PredictedPoint) (i : Fin 4) : lerp a b a.time i = (gatedMetrics i).1 a := by
  simp [lerp]

theorem lerp_right {a b : PredictedPoint} (h : a.time < b.time) (i : Fin 4) :
    lerp a b b.time i = (gatedMetrics i).1 b := by
  have hspan : b.time - a.time ≠ 0 := sub_ne_zero.2 h.ne'
  have hspan' : ((b.time - a.time : ℤ) : ℚ) ≠ 0 := Int.cast_ne_zero.2 hspan
  simp only [lerp, if_neg hspan, div_self hspan']
  ring

theorem onLine_lerp {a b : PredictedPoint} (h : a.time < b.time) (t : Instant) :
    OnLine a b t (lerp a b t) := by
  intro i
  have hspan : b.time - a.time ≠ 0 := sub_ne_zero.2 h.ne'
  have hspan' : ((b.time : ℚ) - a.time) ≠ 0 := by exact_mod_cast hspan
  simp only [lerp, if_neg hspan]
  push_cast
  field_simp
  ring

/-- Two consecutive points of a series that starts with `x`, `y`. -/
theorem infix_cons_cons {x y a b : PredictedPoint} {rest : Forecast} :
    [a, b] <:+: x :: y :: rest ↔ (a = x ∧ b = y) ∨ [a, b] <:+: y :: rest := by
  rw [List.infix_cons_iff, List.cons_prefix_cons, List.cons_prefix_cons]
  simp

/-- **The lines of two segments agree** where both segments are: at a point they share. -/
theorem lerp_unique {points : Forecast} (hlater : points.Pairwise fun a b => a.time < b.time)
    {t : Instant} {a b a' b' : PredictedPoint} (h : [a, b] <:+: points) (ha : a.time ≤ t)
    (hb : t ≤ b.time) (h' : [a', b'] <:+: points) (ha' : a'.time ≤ t) (hb' : t ≤ b'.time) :
    lerp a b t = lerp a' b' t := by
  -- a segment after the second point meets the first segment in that point at most
  have meet : ∀ {x y : PredictedPoint} {rest : Forecast} {c d : PredictedPoint},
      (x :: y :: rest).Pairwise (fun a b => a.time < b.time) → [c, d] <:+: y :: rest →
        c.time ≤ t → t ≤ y.time → lerp x y t = lerp c d t := by
    intro x y rest c d hlater hinfix hc hy
    obtain ⟨hx, hrest⟩ := List.pairwise_cons.1 hlater
    have hcmem : c ∈ y :: rest := hinfix.subset List.mem_cons_self
    obtain rfl : c = y := by
      rcases List.mem_cons.1 hcmem with rfl | hcmem
      · rfl
      · exact absurd ((List.pairwise_cons.1 hrest).1 c hcmem) (not_lt.2 (hc.trans hy))
    obtain rfl : t = c.time := le_antisymm hy hc
    funext i
    rw [lerp_right (hx c List.mem_cons_self), lerp_left]
  induction points with
  | nil => exact absurd (h.subset List.mem_cons_self) List.not_mem_nil
  | cons x points ih =>
    cases points with
    | nil => simpa using h.length_le
    | cons y rest =>
      rcases infix_cons_cons.1 h with ⟨rfl, rfl⟩ | htail
      · rcases infix_cons_cons.1 h' with ⟨rfl, rfl⟩ | htail'
        · rfl
        · exact meet hlater htail' ha' hb
      · rcases infix_cons_cons.1 h' with ⟨rfl, rfl⟩ | htail'
        · exact (meet hlater htail ha hb').symm
        · exact ih (List.pairwise_cons.1 hlater).2 htail htail'

/-- **Each sample is the piecewise linear interpolation of the series** at its hour. -/
theorem interpolates_hourlySamples {points : Forecast} (h : 2 ≤ points.length)
    (hlater : points.Pairwise fun a b => a.time < b.time) {t : Instant} {s : Sample}
    (hmem : (t, s) ∈ hourlySamples points) : Interpolates points t s := by
  obtain ⟨first, last, hfirst, hlast⟩ := exists_ends h
  obtain ⟨-, hstart, hstop⟩ := (mem_times h hfirst hlast).1 (List.mem_map_of_mem hmem)
  rw [hourlySamples_eq h hfirst hlast] at hmem
  obtain ⟨a, b, hinfix, ha, hb, rfl⟩ := mem_samplesFrom h
    (fun p hp => by
      obtain rfl := Option.some.inj (hfirst.symm.trans hp)
      exact (firstHour_spec _).2.1)
    (fun p hp => by
      obtain rfl := Option.some.inj (hlast.symm.trans hp)
      exact hstop) hmem
  refine ⟨⟨a, b, hinfix, ha, hb⟩, fun a' b' hinfix' ha' hb' => ?_⟩
  have hlt : a'.time < b'.time := by
    have hpair := hlater.sublist hinfix'.sublist
    exact (List.pairwise_cons.1 hpair).1 b' List.mem_cons_self
  rw [lerp_unique hlater hinfix ha hb hinfix' ha' hb']
  exact onLine_lerp hlt t

/-! ## The distance -/

section Distance

variable {a b : Forecast} {params : TwinParams}

theorem nodup_times (points : Forecast) : ((hourlySamples points).map Prod.fst).Nodup :=
  (pairwise_times points).imp fun hlt => hlt.ne

theorem shared_eq (a b : Forecast) :
    shared a b = (joined (hourlySamples a) (hourlySamples b)).map Prod.snd := by
  rw [shared, joined, List.map_filterMap]
  refine List.filterMap_congr fun e _ => ?_
  rw [Option.map_map]
  rfl

/-- The forecasts share an hour. -/
def ShareHour (a b : Forecast) : Prop :=
  ∃ t, t ∈ (hourlySamples a).map Prod.fst ∧ t ∈ (hourlySamples b).map Prod.fst

/-- The forecasts agree on all the hours they share. -/
def AgreeOnHours (a b : Forecast) : Prop :=
  ∀ t s o, (t, s) ∈ hourlySamples a → (t, o) ∈ hourlySamples b → s = o

theorem mem_shared {s o : Sample} : (s, o) ∈ shared a b ↔
    ∃ t, (t, s) ∈ hourlySamples a ∧ (t, o) ∈ hourlySamples b := by
  rw [shared_eq, List.mem_map]
  constructor
  · rintro ⟨⟨t, s', o'⟩, hmem, heq⟩
    cases heq
    exact ⟨t, (mem_joined (nodup_times b)).1 hmem⟩
  · rintro ⟨t, hmem⟩
    exact ⟨(t, s, o), (mem_joined (nodup_times b)).2 hmem, rfl⟩

theorem shared_eq_nil : shared a b = [] ↔ ¬ ShareHour a b := by
  rw [List.eq_nil_iff_forall_not_mem]
  constructor
  · rintro hnone ⟨t, hs, ho⟩
    obtain ⟨⟨t₁, s⟩, hsample, ht₁⟩ := List.mem_map.1 hs
    obtain ⟨⟨t₂, o⟩, hother, ht₂⟩ := List.mem_map.1 ho
    obtain rfl : t₁ = t := ht₁
    obtain rfl : t₂ = t₁ := ht₂
    exact hnone (s, o) (mem_shared.2 ⟨t₂, hsample, hother⟩)
  · rintro hnone ⟨s, o⟩ hmem
    obtain ⟨t, hs, ho⟩ := mem_shared.1 hmem
    exact hnone ⟨t, List.mem_map_of_mem hs, List.mem_map_of_mem ho⟩

theorem shared_perm (a b : Forecast) : (shared a b).Perm ((shared b a).map Prod.swap) := by
  rw [shared_eq, shared_eq, List.map_map]
  have hperm := (joined_perm (nodup_times a) (nodup_times b)).map Prod.snd
  rwa [List.map_map] at hperm

theorem residuals_comm (s o : Sample) : residuals params s o = residuals params o s := by
  refine List.filterMap_congr fun i _ => ?_
  rw [abs_sub_comm]

/-- All the deviations of two forecasts. -/
def deviations (a b : Forecast) (params : TwinParams) : List ℚ :=
  (shared a b).flatMap fun p => residuals params p.1 p.2

theorem deviations_perm (a b : Forecast) :
    (deviations a b params).Perm (deviations b a params) := by
  have hswap : ((shared b a).map Prod.swap).flatMap (fun p => residuals params p.1 p.2) =
      deviations b a params := by
    rw [List.flatMap_map]
    exact List.flatMap_congr fun p _ => residuals_comm p.2 p.1
  rw [← hswap]
  exact (shared_perm a b).flatMap_right _

theorem forecastDistance_eq (a b : Forecast) : forecastDistance a b params =
    if deviations a b params = [] then none
    else some ((deviations a b params).sum / (deviations a b params).length) := rfl

/-- **The distance is symmetric.** -/
theorem forecastDistance_comm (a b : Forecast) :
    forecastDistance a b params = forecastDistance b a params := by
  have hperm := @deviations_perm params a b
  have hnil : deviations a b params = [] ↔ deviations b a params = [] :=
    ⟨fun h => List.nil_perm.1 (h ▸ hperm), fun h => List.perm_nil.1 (h ▸ hperm)⟩
  rw [forecastDistance_eq, forecastDistance_eq, hperm.sum_eq, hperm.length_eq]
  simp only [hnil]

theorem forecastDistance_nonneg {d : ℚ} (h : forecastDistance a b params = some d) : 0 ≤ d := by
  rw [forecastDistance_eq] at h
  split at h
  case isTrue => cases h
  case isFalse =>
    obtain rfl := Option.some.inj h
    refine div_nonneg (List.sum_nonneg fun r hr => ?_) (Nat.cast_nonneg _)
    obtain ⟨p, -, hr⟩ := List.mem_flatMap.1 hr
    obtain ⟨i, -, hr⟩ := List.mem_filterMap.1 hr
    simp only at hr
    split at hr
    case isTrue => cases hr
    case isFalse hspan =>
      obtain rfl := Option.some.inj hr
      exact div_nonneg (abs_nonneg _) (not_le.1 hspan).le

/-- **There is no distance exactly when no hour is shared.** -/
theorem forecastDistance_eq_none (hspan : ∀ i, 0 < params.span (gatedMetrics i).2) :
    forecastDistance a b params = none ↔ ¬ ShareHour a b := by
  rw [forecastDistance_eq, ← shared_eq_nil]
  have hnil : deviations a b params = [] ↔ shared a b = [] := by
    rw [deviations, List.flatMap_eq_nil_iff, List.eq_nil_iff_forall_not_mem]
    refine forall_congr' fun p => ⟨fun h hp => ?_, fun h hp => absurd hp h⟩
    exact residuals_ne_nil (hspan 0) (h hp)
  rw [← hnil]
  split
  case isTrue h => simp [h]
  case isFalse h => simp [h]

/-- Forecasts that agree on the hours they share. -/
theorem forecastDistance_of_agreeOnHours (hspan : ∀ i, 0 < params.span (gatedMetrics i).2)
    (hshare : ShareHour a b) (hagree : AgreeOnHours a b) :
    forecastDistance a b params = some 0 := by
  refine forecastDistance_of_agree (fun p hp => ?_) ⟨?_, 0, hspan 0⟩
  · obtain ⟨t, hs, ho⟩ := mem_shared.1 hp
    exact hagree t p.1 p.2 hs ho
  · exact fun hnil => shared_eq_nil.1 hnil hshare

end Distance

/-- **Sampling and distance.** The samples of a series are at its whole hours, in order, each the
piecewise linear interpolation at its hour; the distance of two forecasts is symmetric, not
negative, `0` if they share an hour and agree on all they share, and absent exactly if they share
none. -/
theorem hours_and_distance {points : Forecast} (h : 2 ≤ points.length)
    (hlater : points.Pairwise fun a b => a.time < b.time) (a b : Forecast) {params : TwinParams}
    (hspan : ∀ i, 0 < params.span (gatedMetrics i).2) :
    (∃ first last, points.head? = some first ∧ points.getLast? = some last ∧
      ((hourlySamples points).map Prod.fst).Pairwise (· < ·) ∧
      (∀ t, t ∈ (hourlySamples points).map Prod.fst ↔
        hours 1 ∣ t ∧ first.time ≤ t ∧ t ≤ last.time) ∧
      ∀ t s, (t, s) ∈ hourlySamples points → Interpolates points t s) ∧
    forecastDistance a b params = forecastDistance b a params ∧
    (∀ d, forecastDistance a b params = some d → 0 ≤ d) ∧
    (ShareHour a b → AgreeOnHours a b → forecastDistance a b params = some 0) ∧
    (forecastDistance a b params = none ↔ ¬ ShareHour a b) := by
  obtain ⟨first, last, hfirst, hlast⟩ := exists_ends h
  exact ⟨⟨first, last, hfirst, hlast, pairwise_times points, fun t => mem_times h hfirst hlast,
      fun t s hmem => interpolates_hourlySamples h hlater hmem⟩,
    forecastDistance_comm a b, fun d hd => forecastDistance_nonneg hd,
    forecastDistance_of_agreeOnHours hspan, forecastDistance_eq_none hspan⟩

/-- A point of a forecast that gets warmer. -/
def warming (minutes : ℤ) (celsius : ℚ) : PredictedPoint where
  time := minutes * (60 * second)
  temperatureC := celsius
  relativeHumidityPct := 60
  co2Ppm := 420
  parUmolM2S := 0

/-- Two points around an hour: the sample of the hour is between their values. -/
theorem hours_and_distance_bench :
    (hourlySamples [warming 30 18, warming 90 20]).map (fun e => (e.1, e.2 0)) =
      [(3600000000, 19)] ∧
    (∀ t s, (t, s) ∈ hourlySamples [warming 30 18, warming 90 20] →
      Interpolates [warming 30 18, warming 90 20] t s) ∧
    (forecastDistance [warming 30 18, warming 90 20] [warming 130 18, warming 150 20]
      ⟨fun _ => 0, fun _ => 1⟩ = none ↔
        ¬ ShareHour [warming 30 18, warming 90 20] [warming 130 18, warming 150 20]) := by
  have hall := @hours_and_distance [warming 30 18, warming 90 20] (by decide) (by decide)
    [warming 30 18, warming 90 20] [warming 130 18, warming 150 20]
    ⟨fun _ => 0, fun _ => 1⟩ (fun i => by norm_num [TwinParams.span])
  obtain ⟨⟨-, -, -, -, -, -, hinterpolates⟩, -, -, -, hnone⟩ := hall
  exact ⟨by decide +kernel, hinterpolates, hnone⟩

end Greenhouse.Optimizer
