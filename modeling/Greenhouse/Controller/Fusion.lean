import Mathlib.Data.List.GetD
import Greenhouse.Numeric.OrderStatistics
import Greenhouse.Controller.Sensing

/-!
# Temperature fusion under a faulty minority

The probes read numbers. `median` and `mean` are then the middle and the average of the
readings, and what a strict majority of the probes agrees on bounds the fused temperature.

* `median_fin`, `mean_fin`: fusion over numbers.
* `fuseTemperature_fin`: the fused value and its faults, when two probes stand near the median.
* `fuseTemperature_tolerates`: the readings of the minority do not matter.
-/

namespace Greenhouse.Controller

open Greenhouse.Numeric

variable {qs : List ℚ} {cfg : Sensing} {d lo hi : ℚ}

/-! ## Fusion over numbers -/

theorem insertionSort_fin (qs : List ℚ) :
    (qs.map F64.fin).insertionSort (fun a b => ¬ b < a) =
      (qs.insertionSort (· ≤ ·)).map F64.fin := by
  symm
  apply List.map_insertionSort
  intro a _ b _
  rw [F64.fin_lt_fin, not_lt]

theorem getD_map_fin (qs : List ℚ) (i : ℕ) : (qs.map F64.fin).getD i 0 = .fin (qs.getD i 0) := by
  rw [F64.zero_eq, List.getD_map]

/-- The median of numbers is their middle. -/
theorem median_fin (qs : List ℚ) : median (qs.map F64.fin) = .fin (middle qs) := by
  unfold median middle
  rw [insertionSort_fin]
  simp only [List.length_map, getD_map_fin]
  by_cases hodd : (qs.insertionSort (· ≤ ·)).length % 2 = 1
  · rw [if_pos hodd, if_pos hodd]
  · rw [if_neg hodd, if_neg hodd, F64.fin_add_fin, F64.ofNat_lit,
      F64.fin_div_fin (Nat.cast_ne_zero.2 two_ne_zero), Nat.cast_two]

theorem foldl_add_fin (qs : List ℚ) : ∀ s : ℚ,
    (qs.map F64.fin).foldl (· + ·) (.fin s) = .fin (s + qs.sum) := by
  induction qs with
  | nil => intro s; simp
  | cons q qs ih =>
    intro s
    rw [List.map_cons, List.foldl_cons, F64.fin_add_fin, ih, List.sum_cons, add_assoc]

/-- The mean of numbers is their average. -/
theorem mean_fin (h : qs ≠ []) : mean (qs.map F64.fin) = .fin (average qs) := by
  have hne : (qs.length : ℚ) ≠ 0 := Nat.cast_ne_zero.2 (List.length_pos_iff.2 h).ne'
  unfold mean average
  rw [F64.zero_eq, foldl_add_fin, zero_add, List.length_map, F64.ofNat, F64.fin_div_fin hne]

/-- The probes near the median of numbers. -/
def near (qs : List ℚ) (d : ℚ) : List ℚ := qs.filter fun q => |q - middle qs| ≤ d

theorem goodProbes_fin (hcfg : cfg.probeDisagreementC = .fin d) :
    goodProbes (qs.map F64.fin) cfg = (near qs d).map F64.fin := by
  unfold goodProbes near
  rw [List.filter_map, median_fin, hcfg]
  apply congrArg
  apply List.filter_congr
  intro q _
  simp only [Function.comp_apply, F64.fin_sub_fin, F64.abs_fin, F64.fin_le_fin]

/-- What fusion does with three or more numbers, two of them near the median. -/
theorem fuseTemperature_fin (hcfg : cfg.probeDisagreementC = .fin d) (hthree : 3 ≤ qs.length)
    (hnear : 2 ≤ (near qs d).length) :
    (fuseTemperature (qs.map F64.fin) cfg).1 = some (.fin (average (near qs d))) ∧
      (∀ f ∈ (fuseTemperature (qs.map F64.fin) cfg).2, f.faultType = .sensorDisagreement) ∧
      ((fuseTemperature (qs.map F64.fin) cfg).2 ≠ [] ↔ (near qs d).length < qs.length) := by
  have hne : near qs d ≠ [] := List.length_pos_iff.1 (by omega)
  have hgood : goodProbes (qs.map F64.fin) cfg = (near qs d).map F64.fin := goodProbes_fin hcfg
  rcases qs with - | ⟨a, - | ⟨b, rest⟩⟩
  · exact absurd hthree (by decide)
  · exact absurd hthree (by simp)
  · rw [List.map_cons, List.map_cons] at hgood ⊢
    simp only [fuseTemperature, hgood, List.length_map, if_pos hnear, mean_fin hne]
    refine ⟨trivial, ?_, ?_⟩
    · intro f hf
      split at hf
      · rw [List.mem_singleton.1 hf]
      · exact absurd hf List.not_mem_nil
    · simp

/-! ## A majority that agrees -/

/-- A probe reads within the interval. -/
abbrev Within (lo hi q : ℚ) : Prop := lo ≤ q ∧ q ≤ hi

/-- A strict majority of the probes agrees on the interval. -/
def Agreed (qs : List ℚ) (lo hi : ℚ) : Prop :=
  qs.length < 2 * qs.countP fun q => decide (Within lo hi q)

instance : Decidable (Agreed qs lo hi) :=
  inferInstanceAs (Decidable (qs.length < 2 * qs.countP fun q => decide (Within lo hi q)))

/-- The probes that agree are near the median. -/
theorem mem_near_of_within (h : Agreed qs lo hi) (hwidth : hi - lo ≤ d) {q : ℚ} (hq : q ∈ qs)
    (hin : Within lo hi q) : q ∈ near qs d := by
  obtain ⟨hlo, hhi⟩ := middle_mem h
  apply List.mem_filter.2
  refine ⟨hq, decide_eq_true ?_⟩
  rw [abs_le]
  constructor
  · linarith [hin.1]
  · linarith [hin.2]

theorem two_le_length_near (h : Agreed qs lo hi) (hwidth : hi - lo ≤ d) (hthree : 3 ≤ qs.length) :
    2 ≤ (near qs d).length := by
  have hle : qs.countP (fun q => decide (Within lo hi q)) ≤ (near qs d).length := by
    unfold near
    rw [← List.countP_eq_length_filter]
    apply List.countP_mono_left
    intro q hq hin
    exact (List.mem_filter.1 (mem_near_of_within h hwidth hq (of_decide_eq_true hin))).2
  have hmaj : qs.length < 2 * qs.countP fun q => decide (Within lo hi q) := h
  omega

/-- The probes near the median read no further than `d` from the interval. -/
theorem within_of_mem_near (h : Agreed qs lo hi) {q : ℚ} (hq : q ∈ near qs d) :
    lo - d ≤ q ∧ q ≤ hi + d := by
  obtain ⟨hlo, hhi⟩ := middle_mem h
  have hdist := abs_le.1 (of_decide_eq_true (List.mem_filter.1 hq).2)
  constructor
  · linarith [hdist.1]
  · linarith [hdist.2]

/-- The probes near the median are all of them, unless one is excluded. -/
theorem length_near_lt_iff : (near qs d).length < qs.length ↔ ∃ q ∈ qs, q ∉ near qs d := by
  unfold near
  rw [List.length_filter_lt_length_iff_exists]
  apply exists_congr
  intro q
  apply and_congr_right
  intro hq
  rw [List.mem_filter, not_and]
  exact ⟨fun h _ => h, fun h => h hq⟩

/-- **Fusion tolerates a faulty minority**: where a strict majority of three or more probes
agrees on an interval no wider than the disagreement limit, the fused temperature exists and lies
no further than the limit from the interval, in it when every probe outside is excluded; the
disagreement is raised exactly when a probe is excluded. -/
theorem fuseTemperature_tolerates (hcfg : cfg.probeDisagreementC = .fin d)
    (hthree : 3 ≤ qs.length) (hagreed : Agreed qs lo hi) (hwidth : hi - lo ≤ d) :
    (∃ t : ℚ, (fuseTemperature (qs.map F64.fin) cfg).1 = some (.fin t) ∧
      (lo - d ≤ t ∧ t ≤ hi + d) ∧
      ((∀ q ∈ qs, ¬ Within lo hi q → F64.fin q ∉ goodProbes (qs.map F64.fin) cfg) →
        lo ≤ t ∧ t ≤ hi)) ∧
      (∀ f ∈ (fuseTemperature (qs.map F64.fin) cfg).2, f.faultType ≠ .temperatureUnavailable) ∧
      ((∃ f ∈ (fuseTemperature (qs.map F64.fin) cfg).2, f.faultType = .sensorDisagreement) ↔
        ∃ q ∈ qs, F64.fin q ∉ goodProbes (qs.map F64.fin) cfg) := by
  have hnear := two_le_length_near hagreed hwidth hthree
  have hne : near qs d ≠ [] := List.length_pos_iff.1 (by omega)
  obtain ⟨hvalue, hkind, hraised⟩ := fuseTemperature_fin hcfg hthree hnear
  have hmem : ∀ q, F64.fin q ∈ goodProbes (qs.map F64.fin) cfg ↔ q ∈ near qs d := by
    intro q
    rw [goodProbes_fin hcfg, List.mem_map_of_injective fun _ _ => F64.fin.inj]
  simp only [hmem]
  refine ⟨⟨average (near qs d), hvalue, ?_, ?_⟩, ?_, ?_⟩
  · apply average_mem hne
    intro q hq
    exact within_of_mem_near hagreed hq
  · intro hout
    apply average_mem hne
    intro q hq
    by_contra hnot
    exact hout q (List.mem_filter.1 hq).1 hnot hq
  · intro f hf
    rw [hkind f hf]
    exact FaultType.noConfusion
  · rw [← length_near_lt_iff, ← hraised]
    constructor
    · rintro ⟨f, hf, -⟩
      exact List.ne_nil_of_mem hf
    · intro hsome
      obtain ⟨f, hf⟩ := List.exists_mem_of_ne_nil _ hsome
      exact ⟨f, hf, hkind f hf⟩

/-- Two probes that agree outvote a third that reads far off. -/
theorem fuseTemperature_tolerates_outlier :
    (∃ t : ℚ, (fuseTemperature ([20, 21, 80].map F64.fin) {}).1 = some (.fin t) ∧
      (20 - 2 ≤ t ∧ t ≤ 21 + 2) ∧
      ((∀ q ∈ [20, 21, 80], ¬ Within 20 21 q →
        F64.fin q ∉ goodProbes ([20, 21, 80].map F64.fin) {}) → 20 ≤ t ∧ t ≤ 21)) ∧
      (∀ f ∈ (fuseTemperature ([20, 21, 80].map F64.fin) {}).2,
        f.faultType ≠ .temperatureUnavailable) ∧
      ((∃ f ∈ (fuseTemperature ([20, 21, 80].map F64.fin) {}).2,
          f.faultType = .sensorDisagreement) ↔
        ∃ q ∈ [20, 21, 80], F64.fin q ∉ goodProbes ([20, 21, 80].map F64.fin) {}) :=
  fuseTemperature_tolerates (by decide) (by decide) (by decide) (by norm_num)

end Greenhouse.Controller
