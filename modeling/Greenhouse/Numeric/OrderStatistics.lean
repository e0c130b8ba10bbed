import Mathlib.Data.List.Sort
import Mathlib.Algebra.Order.BigOperators.Group.List
import Mathlib.Algebra.Order.Field.Basic
import Mathlib.Tactic.Linarith

/-!
# Order statistics

The middle of a list and the average of a list, over an ordered field.

* `le_getElem_of_countP_le`, `getElem_le_of_countP_le`: few smaller members bound an entry of
  a sorted list from below, few greater ones from above.
* `middle_mem`: the middle lies in every interval that holds a strict majority of the list.
* `average_mem`: the average lies in every interval that holds the list.
-/

namespace Greenhouse.Numeric

section Sorted

variable {α : Type*} [LinearOrder α] {l : List α}

/-- In a sorted list, the entry with at most `i` smaller members at index `i` is bounded below. -/
theorem le_getElem_of_countP_le (hl : l.Pairwise (· ≤ ·)) {a : α} {i : ℕ} (hi : i < l.length)
    (h : l.countP (fun x => decide (x < a)) ≤ i) : a ≤ l[i] := by
  induction l generalizing i with
  | nil => exact absurd hi (Nat.not_lt_zero i)
  | cons x xs ih =>
    obtain ⟨hx, hxs⟩ := List.pairwise_cons.1 hl
    rw [List.countP_cons] at h
    by_cases hxa : x < a
    · rw [if_pos (decide_eq_true hxa)] at h
      cases i with
      | zero => omega
      | succ i => exact ih hxs (by simpa using hi) (by omega)
    · have hax : a ≤ x := not_lt.1 hxa
      cases i with
      | zero => exact hax
      | succ i => exact hax.trans (hx _ (List.getElem_mem (by simpa using hi)))

/-- In a sorted list, the entry at index `i` is bounded above when the members greater than the
bound are too few to reach down to it. -/
theorem getElem_le_of_countP_le (hl : l.Pairwise (· ≤ ·)) {b : α} {i : ℕ} (hi : i < l.length)
    (h : l.countP (fun x => decide (b < x)) + i < l.length) : l[i] ≤ b := by
  induction l generalizing i with
  | nil => exact absurd hi (Nat.not_lt_zero i)
  | cons x xs ih =>
    obtain ⟨hx, hxs⟩ := List.pairwise_cons.1 hl
    rw [List.countP_cons, List.length_cons] at h
    cases i with
    | zero =>
      by_contra hb
      have hbx : b < x := not_le.1 hb
      have hall : xs.countP (fun x => decide (b < x)) = xs.length := by
        apply List.countP_eq_length.2
        intro y hy
        exact decide_eq_true (hbx.trans_le (hx y hy))
      rw [hall, if_pos (decide_eq_true hbx)] at h
      omega
    | succ i =>
      apply ih hxs (by simpa using hi)
      split at h <;> omega

end Sorted

section Middle

variable {K : Type*} [Field K] [LinearOrder K] {l : List K} {lo hi : K}

/-- The middle of the sorted list, the mean of the two middle entries for an even length. -/
def middle (l : List K) : K :=
  let v := l.insertionSort (· ≤ ·)
  let n := v.length
  if n % 2 = 1 then v.getD (n / 2) 0 else (v.getD (n / 2 - 1) 0 + v.getD (n / 2) 0) / 2

def average (l : List K) : K := l.sum / l.length

/-- An entry of the sorted list around its middle lies in an interval with a strict majority. -/
theorem insertionSort_mem (h : l.length < 2 * l.countP fun x => decide (lo ≤ x ∧ x ≤ hi)) {i : ℕ}
    (hlow : l.length ≤ 2 * i + 2) (hupp : 2 * i ≤ l.length) :
    lo ≤ (l.insertionSort (· ≤ ·)).getD i 0 ∧ (l.insertionSort (· ≤ ·)).getD i 0 ≤ hi := by
  have hlength : (l.insertionSort (· ≤ ·)).length = l.length := List.length_insertionSort _ l
  have hsorted : (l.insertionSort (· ≤ ·)).Pairwise (· ≤ ·) := List.pairwise_insertionSort _ l
  have hin : ∀ p : K → Bool, (l.insertionSort (· ≤ ·)).countP p = l.countP p :=
    fun p => (List.perm_insertionSort _ l).countP_eq p
  have hsplit : ∀ p : K → Bool, (∀ x, p x = true → ¬ (lo ≤ x ∧ x ≤ hi)) →
      l.countP p + l.countP (fun x => decide (lo ≤ x ∧ x ≤ hi)) ≤ l.length := by
    intro p hp
    rw [List.length_eq_countP_add_countP (fun x => decide (lo ≤ x ∧ x ≤ hi)) (l := l), Nat.add_comm]
    apply Nat.add_le_add_left
    apply List.countP_mono_left
    intro x _ hx
    simpa only [decide_eq_true_eq] using hp x hx
  have hle : l.countP (fun x => decide (lo ≤ x ∧ x ≤ hi)) ≤ l.length := List.countP_le_length
  have hi' : i < (l.insertionSort (· ≤ ·)).length := by omega
  rw [List.getD_eq_getElem?_getD, List.getElem?_eq_getElem hi', Option.getD_some]
  constructor
  · apply le_getElem_of_countP_le hsorted hi'
    have := hsplit (fun x => decide (x < lo)) fun x hx hmem =>
      absurd hmem.1 (not_le.2 (of_decide_eq_true hx))
    rw [hin]
    omega
  · apply getElem_le_of_countP_le hsorted hi'
    have := hsplit (fun x => decide (hi < x)) fun x hx hmem =>
      absurd hmem.2 (not_le.2 (of_decide_eq_true hx))
    rw [hin, hlength]
    omega

variable [IsStrictOrderedRing K]

/-- **The middle lies where a strict majority of the list does.** -/
theorem middle_mem (h : l.length < 2 * l.countP fun x => decide (lo ≤ x ∧ x ≤ hi)) :
    lo ≤ middle l ∧ middle l ≤ hi := by
  have hlength : (l.insertionSort (· ≤ ·)).length = l.length := List.length_insertionSort _ l
  have hle : l.countP (fun x => decide (lo ≤ x ∧ x ≤ hi)) ≤ l.length := List.countP_le_length
  unfold middle
  dsimp only
  rw [hlength]
  by_cases hodd : l.length % 2 = 1
  · rw [if_pos hodd]
    apply insertionSort_mem h <;> omega
  · rw [if_neg hodd]
    have hlow := insertionSort_mem h (i := l.length / 2 - 1) (by omega) (by omega)
    have hupp := insertionSort_mem h (i := l.length / 2) (by omega) (by omega)
    constructor <;> linarith

/-- **The average lies where the whole list does.** -/
theorem average_mem (hl : l ≠ []) (h : ∀ x ∈ l, lo ≤ x ∧ x ≤ hi) :
    lo ≤ average l ∧ average l ≤ hi := by
  have hpos : (0 : K) < l.length := Nat.cast_pos.2 (List.length_pos_iff.2 hl)
  have hlow := List.card_nsmul_le_sum l lo fun x hx => (h x hx).1
  have hupp := List.sum_le_card_nsmul l hi fun x hx => (h x hx).2
  rw [nsmul_eq_mul] at hlow hupp
  exact ⟨(le_div_iff₀ hpos).2 (by linarith), (div_le_iff₀ hpos).2 (by linarith)⟩

end Middle

end Greenhouse.Numeric
