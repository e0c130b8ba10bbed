import Greenhouse.Numeric.F64

/-!
# Finite numbers

Sums and products of finite numbers are finite, and so is a quotient by a number that is not
zero; a clamp between finite bounds makes any number but `nan` finite.

* `Finite`: neither `nan` nor an infinity.
* `Within`: a finite number between two bounds; `within_clampBody` says that clamping gives one.
-/

namespace Greenhouse.Numeric.F64

/-- Neither `nan` nor an infinity. -/
def Finite (x : F64) : Prop := ∃ q, x = .fin q

theorem finite_iff {x : F64} : x.Finite ↔ x.isFinite = true := isFinite_iff.symm

instance (x : F64) : Decidable x.Finite := decidable_of_iff _ finite_iff.symm

theorem finite_fin (q : ℚ) : (F64.fin q).Finite := ⟨q, rfl⟩

theorem finite_lit (n : Nat) : (OfNat.ofNat n : F64).Finite := ⟨n, rfl⟩

theorem finite_ofNat (n : Nat) : (ofNat n).Finite := ⟨n, rfl⟩

theorem Finite.ne_nan {x : F64} (h : x.Finite) : x ≠ .nan := by
  obtain ⟨q, rfl⟩ := h
  exact F64.noConfusion

section Arithmetic

variable {a b : F64}

theorem Finite.neg (ha : a.Finite) : (-a).Finite := by
  obtain ⟨p, rfl⟩ := ha
  exact ⟨_, neg_fin p⟩

theorem Finite.add (ha : a.Finite) (hb : b.Finite) : (a + b).Finite := by
  obtain ⟨p, rfl⟩ := ha
  obtain ⟨q, rfl⟩ := hb
  exact ⟨_, fin_add_fin p q⟩

theorem Finite.sub (ha : a.Finite) (hb : b.Finite) : (a - b).Finite := by
  obtain ⟨p, rfl⟩ := ha
  obtain ⟨q, rfl⟩ := hb
  exact ⟨_, fin_sub_fin p q⟩

theorem Finite.mul (ha : a.Finite) (hb : b.Finite) : (a * b).Finite := by
  obtain ⟨p, rfl⟩ := ha
  obtain ⟨q, rfl⟩ := hb
  exact ⟨_, fin_mul_fin p q⟩

theorem Finite.div (ha : a.Finite) (hb : b.Finite) (hpos : 0 < b) : (a / b).Finite := by
  obtain ⟨p, rfl⟩ := ha
  obtain ⟨q, rfl⟩ := hb
  rw [zero_eq, fin_lt_fin] at hpos
  exact ⟨_, fin_div_fin hpos.ne'⟩

theorem Finite.maxNum (ha : a.Finite) (hb : b.Finite) : (a.maxNum b).Finite := by
  obtain ⟨p, rfl⟩ := ha
  obtain ⟨q, rfl⟩ := hb
  exact ⟨_, maxNum_fin p q⟩

end Arithmetic

/-- A finite number between `lo` and `hi`. -/
def Within (lo hi : ℚ) (x : F64) : Prop := ∃ q, x = .fin q ∧ lo ≤ q ∧ q ≤ hi

theorem Within.finite {lo hi : ℚ} {x : F64} (h : x.Within lo hi) : x.Finite := by
  obtain ⟨q, rfl, -⟩ := h
  exact finite_fin q

theorem IsPct.eq_zero {x : F64} (h : x.IsPct) (hoff : ¬ 0 < x) : x = 0 := by
  obtain ⟨q, rfl, hq0, -⟩ := h
  rw [zero_eq, fin_lt_fin, not_lt] at hoff
  rw [zero_eq, hoff.antisymm hq0]

theorem IsPct.finite {x : F64} (h : x.IsPct) : x.Finite := Within.finite h

/-- A finite number that passes a range check is between its bounds. -/
theorem Finite.within {x : F64} {lo hi : ℚ} (hx : x.Finite) (hlo : ¬ x < .fin lo)
    (hhi : ¬ .fin hi < x) : x.Within lo hi := by
  obtain ⟨q, rfl⟩ := hx
  rw [fin_lt_fin, not_lt] at hlo hhi
  exact ⟨q, rfl, hlo, hhi⟩

/-- **Clamping between finite bounds gives a finite number between them**, except on `nan`. -/
theorem within_clampBody {x lo hi : F64} {a b : ℚ} (hx : x ≠ .nan) (hlo : lo = .fin a)
    (hhi : hi = .fin b) (h : a ≤ b) : (clampBody x lo hi).Within a b := by
  subst hlo hhi
  cases x with
  | nan => exact absurd rfl hx
  | negInf =>
    refine ⟨a, ?_, le_rfl, h⟩
    rw [clampBody, if_pos (negInf_lt_fin a), if_neg (by rw [fin_lt_fin]; exact h.not_gt)]
  | posInf =>
    refine ⟨b, ?_, h, le_rfl⟩
    rw [clampBody, if_neg (not_posInf_lt _), if_pos (fin_lt_posInf b)]
  | fin q => exact ⟨_, clampBody_fin q a b, le_min (le_max_right _ _) h, min_le_right _ _⟩

/-- What passes `f64::clamp` with finite bounds is finite. -/
theorem Finite.clamp? {x lo hi y : F64} (hx : x.Finite) (hlo : lo.Finite) (hhi : hi.Finite)
    (h : F64.clamp? x lo hi = some y) : y.Finite := by
  obtain ⟨q, rfl⟩ := hx
  obtain ⟨a, rfl⟩ := hlo
  obtain ⟨b, rfl⟩ := hhi
  obtain ⟨-, rfl⟩ := clamp?_eq_some.1 h
  exact ⟨_, clampBody_fin q a b⟩

end Greenhouse.Numeric.F64
