import Mathlib.Algebra.Order.Group.Abs
import Mathlib.Order.Interval.Set.UnorderedInterval
import Greenhouse.Process.Run

/-!
# Quantities that drift into a band

A quantity that a step either keeps or puts into a band, and moves by no more than `c` inside
it, does not leave the band and drifts by no more than `c` a step.

* `Run.drift`: the band and the distance over a run.
* `max_mem_uIcc`, `min_mem_uIcc`: a bound of where a move starts stops it on its way.
-/

namespace Greenhouse.Process

section Stops

variable {α : Type*} [LinearOrder α] {x v bound : α}

/-- A lower bound of where a move starts stops it on its way. -/
theorem max_mem_uIcc (h : bound ≤ x) : max v bound ∈ Set.uIcc x v :=
  ⟨inf_le_right.trans le_sup_left, sup_le le_sup_right (h.trans le_sup_left)⟩

/-- An upper bound of where a move starts stops it on its way. -/
theorem min_mem_uIcc (h : x ≤ bound) : min v bound ∈ Set.uIcc x v :=
  ⟨le_inf inf_le_right (inf_le_left.trans h), inf_le_left.trans le_sup_right⟩

end Stops

variable {σ ε R : Type*} [AddCommGroup R] [LinearOrder R] [IsOrderedAddMonoid R]
  {step : σ → ε → σ → Prop} {s s' : σ} {es : List ε}

/-- **A quantity that drifts into a band** stays there, by no more than `c` a step. -/
theorem Run.drift {m : σ → R} {c : R} (band : Set R) (hc : 0 ≤ c)
    (hstep : ∀ s e s', step s e s' → m s' = m s ∨
      (m s' ∈ band ∧ (m s ∈ band → |m s' - m s| ≤ c)))
    (h : Run step s es s') :
    (m s' = m s ∨ m s' ∈ band) ∧
      (m s ∈ band → m s' ∈ band ∧ |m s' - m s| ≤ es.length • c) := by
  induction h with
  | nil s =>
    refine ⟨.inl rfl, fun hs => ⟨hs, ?_⟩⟩
    simp
  | @cons s t s' e es hone _ ih =>
    obtain ⟨hkept, hinside⟩ := ih
    have hsum : ∀ d : R, |m t - m s| ≤ d → |m s' - m t| ≤ es.length • c → d ≤ c →
        |m s' - m s| ≤ (e :: es).length • c := by
      intro d hd hrest hdc
      calc |m s' - m s| ≤ |m s' - m t| + |m t - m s| := abs_sub_le _ _ _
        _ ≤ es.length • c + c := add_le_add hrest (hd.trans hdc)
        _ = (e :: es).length • c := (succ_nsmul c es.length).symm
    rcases hstep _ _ _ hone with hsame | ⟨hband, hclose⟩
    · refine ⟨by rw [← hsame]; exact hkept, fun hs => ?_⟩
      obtain ⟨hin, hdist⟩ := hinside (hsame ▸ hs)
      refine ⟨hin, hsum 0 ?_ hdist hc⟩
      rw [hsame, sub_self, abs_zero]
    · obtain ⟨hin, hdist⟩ := hinside hband
      exact ⟨.inr hin, fun hs => ⟨hin, hsum c (hclose hs) hdist le_rfl⟩⟩

end Greenhouse.Process
