import Mathlib.Data.Rat.Floor
import Mathlib.Algebra.Order.Field.Rat
import Mathlib.Tactic.Linarith
import Mathlib.Tactic.NormNum

/-!
# Floating-point numbers as extended rationals

`F64` is the rationals with `NaN` and the two infinities. Comparisons and special
values follow IEEE 754: every comparison with `nan` is false, `∞ - ∞`, `0 * ∞` and
`0 / 0` are `nan`. Finite arithmetic is exact: rounding, overflow and the sign of
zero are not represented.

* `lt`, `le`, `feq`: the comparisons `<`, `<=` and `==`.
* `clamp?`: `f64::clamp`, which panics (`none`) unless `lo ≤ hi`; `clampBody` is the
  value it returns otherwise (`clamp?_eq_some`).
* `IsPct`: a finite number between `0` and `100`; `isPct_clampPct` says that
  clamping to percent gives one, except on `nan`.
-/

namespace Greenhouse.Numeric

/-- A floating-point number: a rational, an infinity or `NaN`. -/
inductive F64 where
  | nan
  | negInf
  | fin (q : ℚ)
  | posInf
  deriving DecidableEq

namespace F64

instance instOfNat (n : Nat) : OfNat F64 n := ⟨.fin (n : ℚ)⟩

instance : OfScientific F64 := ⟨fun m s e => .fin (OfScientific.ofScientific m s e)⟩

instance : Inhabited F64 := ⟨0⟩

/-- Conversion of an unsigned integer. -/
def ofNat (n : Nat) : F64 := .fin (n : ℚ)

theorem ofNat_lit (n : Nat) : (OfNat.ofNat n : F64) = .fin (n : ℚ) := rfl

theorem zero_eq : (0 : F64) = .fin 0 := by
  rw [ofNat_lit]
  norm_num

theorem hundred_eq : (100 : F64) = .fin 100 := by
  rw [ofNat_lit]
  norm_num

theorem zero_ne_hundred : (0 : F64) ≠ 100 := by
  decide

/-! ## Comparisons -/

/-- `a < b`. -/
def lt : F64 → F64 → Bool
  | .fin a, .fin b => decide (a < b)
  | .fin _, .posInf => true
  | .negInf, .fin _ => true
  | .negInf, .posInf => true
  | _, _ => false

/-- `a == b`: `nan` differs from itself. -/
def feq : F64 → F64 → Bool
  | .nan, _ => false
  | a, b => decide (a = b)

/-- `a <= b`. -/
def le (a b : F64) : Bool := lt a b || feq a b

instance : LT F64 := ⟨fun a b => lt a b = true⟩

instance : LE F64 := ⟨fun a b => le a b = true⟩

instance instDecidableLt (a b : F64) : Decidable (a < b) :=
  inferInstanceAs (Decidable (lt a b = true))

instance instDecidableLe (a b : F64) : Decidable (a ≤ b) :=
  inferInstanceAs (Decidable (le a b = true))

@[simp] theorem fin_lt_fin {a b : ℚ} : (F64.fin a < .fin b) ↔ a < b := by
  change decide (a < b) = true ↔ _
  exact decide_eq_true_iff

@[simp] theorem fin_le_fin {a b : ℚ} : (F64.fin a ≤ .fin b) ↔ a ≤ b := by
  change (decide (a < b) || decide (F64.fin a = .fin b)) = true ↔ _
  rw [Bool.or_eq_true, decide_eq_true_iff, decide_eq_true_iff, F64.fin.injEq]
  exact le_iff_lt_or_eq.symm

@[simp] theorem not_lt_nan (a : F64) : ¬ a < .nan := by
  cases a <;> exact Bool.false_ne_true

@[simp] theorem not_nan_lt (a : F64) : ¬ F64.nan < a := by
  cases a <;> exact Bool.false_ne_true

@[simp] theorem not_le_nan (a : F64) : ¬ a ≤ .nan := by
  cases a <;> exact Bool.false_ne_true

@[simp] theorem not_nan_le (a : F64) : ¬ F64.nan ≤ a := by
  cases a <;> exact Bool.false_ne_true

@[simp] theorem not_lt_negInf (a : F64) : ¬ a < .negInf := by
  cases a <;> exact Bool.false_ne_true

@[simp] theorem not_posInf_lt (a : F64) : ¬ F64.posInf < a := by
  cases a <;> exact Bool.false_ne_true

@[simp] theorem fin_lt_posInf (a : ℚ) : F64.fin a < .posInf := rfl

@[simp] theorem negInf_lt_fin (a : ℚ) : F64.negInf < .fin a := rfl

@[simp] theorem negInf_lt_posInf : F64.negInf < .posInf := rfl

theorem le_iff {a b : F64} : a ≤ b ↔ a < b ∨ (a = b ∧ a ≠ .nan) := by
  change (lt a b || feq a b) = true ↔ lt a b = true ∨ _
  rw [Bool.or_eq_true]
  refine or_congr Iff.rfl ?_
  cases a <;> simp [feq]

theorem eq_of_feq {a b : F64} (h : a.feq b = true) : a = b := by
  cases a with
  | nan => cases h
  | _ => exact of_decide_eq_true h

theorem lt_asymm {a b : F64} (h : a < b) : ¬ b < a := by
  cases a <;> cases b <;> simp_all
  exact h.le

theorem zero_lt_hundred : (0 : F64) < 100 := by
  rw [zero_eq, hundred_eq, fin_lt_fin]
  norm_num

theorem not_lt_self (a : F64) : ¬ a < a := fun h => lt_asymm h h

theorem ne_nan_of_lt {a b : F64} (h : a < b) : a ≠ .nan := by
  rintro rfl
  exact not_nan_lt b h

theorem lt_or_le {a b : F64} (ha : a ≠ .nan) (hb : b ≠ .nan) : a < b ∨ b ≤ a := by
  by_cases hfin : ∃ p q, a = .fin p ∧ b = .fin q
  · obtain ⟨p, q, rfl, rfl⟩ := hfin
    rw [fin_lt_fin, fin_le_fin]
    exact lt_or_ge p q
  · cases a <;> cases b <;> simp_all [le_iff]

/-! ## Arithmetic -/

def neg : F64 → F64
  | .nan => .nan
  | .negInf => .posInf
  | .fin q => .fin (-q)
  | .posInf => .negInf

def add : F64 → F64 → F64
  | .fin a, .fin b => .fin (a + b)
  | .nan, _ => .nan
  | _, .nan => .nan
  | .posInf, .negInf => .nan
  | .negInf, .posInf => .nan
  | .posInf, _ => .posInf
  | _, .posInf => .posInf
  | .negInf, _ => .negInf
  | _, .negInf => .negInf

/-- An infinity of the sign of `q`, `nan` for `0`: the product of `q` and `∞`. -/
def infOfSign (q : ℚ) : F64 :=
  if q < 0 then .negInf else if 0 < q then .posInf else .nan

def mul : F64 → F64 → F64
  | .fin a, .fin b => .fin (a * b)
  | .nan, _ => .nan
  | _, .nan => .nan
  | .fin a, .posInf => infOfSign a
  | .posInf, .fin a => infOfSign a
  | .fin a, .negInf => neg (infOfSign a)
  | .negInf, .fin a => neg (infOfSign a)
  | .posInf, .posInf => .posInf
  | .negInf, .negInf => .posInf
  | .posInf, .negInf => .negInf
  | .negInf, .posInf => .negInf

def div : F64 → F64 → F64
  | .fin a, .fin b => if b = 0 then infOfSign a else .fin (a / b)
  | .nan, _ => .nan
  | _, .nan => .nan
  | .fin _, _ => .fin 0
  | .posInf, .fin b => if b < 0 then .negInf else .posInf
  | .negInf, .fin b => if b < 0 then .posInf else .negInf
  | _, _ => .nan

instance : Neg F64 := ⟨neg⟩
instance : Add F64 := ⟨add⟩
instance : Sub F64 := ⟨fun a b => add a (neg b)⟩
instance : Mul F64 := ⟨mul⟩
instance : Div F64 := ⟨div⟩

@[simp] theorem neg_fin (a : ℚ) : -F64.fin a = .fin (-a) := rfl

@[simp] theorem fin_add_fin (a b : ℚ) : F64.fin a + .fin b = .fin (a + b) := rfl

@[simp] theorem fin_sub_fin (a b : ℚ) : F64.fin a - .fin b = .fin (a - b) := by
  change F64.fin (a + -b) = _
  rw [sub_eq_add_neg]

@[simp] theorem fin_mul_fin (a b : ℚ) : F64.fin a * .fin b = .fin (a * b) := rfl

theorem fin_div_fin {a b : ℚ} (hb : b ≠ 0) : F64.fin a / .fin b = .fin (a / b) := if_neg hb

@[simp] theorem nan_sub (a : F64) : F64.nan - a = .nan := by
  cases a <;> rfl

@[simp] theorem sub_nan (a : F64) : a - F64.nan = .nan := by
  cases a <;> rfl

@[simp] theorem fin_sub_posInf (a : ℚ) : F64.fin a - .posInf = .negInf := rfl

@[simp] theorem negInf_sub_fin (a : ℚ) : F64.negInf - .fin a = .negInf := rfl

@[simp] theorem negInf_sub_posInf : F64.negInf - .posInf = .negInf := rfl

@[simp] theorem add_nan (a : F64) : a + F64.nan = .nan := by
  cases a <;> rfl

/-- Addition is associative: infinities of either sign meet in `nan` in any order. -/
theorem add_assoc (a b c : F64) : a + b + c = a + (b + c) := by
  cases a <;> cases b <;> cases c <;>
    first
    | rfl
    | exact congrArg F64.fin (Rat.add_assoc _ _ _)

theorem add_neg_iff {a b : F64} : a + b < 0 ↔ a < -b := by
  cases a <;> cases b <;>
    first
    | exact Iff.rfl
    | exact iff_of_false Bool.false_ne_true Bool.false_ne_true
    | exact iff_of_true rfl rfl
    | rw [fin_add_fin, neg_fin, zero_eq, fin_lt_fin, fin_lt_fin, lt_neg_iff_add_neg]

theorem add_pos_iff {a b : F64} : 0 < a + b ↔ -b < a := by
  cases a <;> cases b <;>
    first
    | exact Iff.rfl
    | exact iff_of_false Bool.false_ne_true Bool.false_ne_true
    | exact iff_of_true rfl rfl
    | rw [fin_add_fin, neg_fin, zero_eq, fin_lt_fin, fin_lt_fin, neg_lt_iff_pos_add]

theorem neg_pos_iff {a : F64} : 0 < -a ↔ a < 0 := by
  cases a <;>
    first
    | exact Iff.rfl
    | rw [neg_fin, zero_eq, fin_lt_fin, fin_lt_fin, neg_pos]

def abs : F64 → F64
  | .nan => .nan
  | .fin q => .fin |q|
  | _ => .posInf

@[simp] theorem abs_fin (a : ℚ) : (F64.fin a).abs = .fin |a| := rfl

/-- A value is no further from itself than a tolerance that is not negative. -/
theorem not_lt_abs_sub_self {tol : F64} (h : ¬ tol < 0) (x : F64) : ¬ tol < (x - x).abs := by
  cases x with
  | fin q =>
    rw [fin_sub_fin, sub_self, abs, abs_zero, ← zero_eq]
    exact h
  | _ => exact not_lt_nan tol

/-- `f64::is_finite`. -/
def isFinite : F64 → Bool
  | .fin _ => true
  | _ => false

theorem isFinite_iff {x : F64} : x.isFinite = true ↔ ∃ q, x = .fin q := by
  cases x <;> simp [isFinite]

theorem neg_le_self {v : F64} (hv : v ≠ .nan) (h : ¬ v < 0) : -v ≤ v := by
  cases v with
  | fin q =>
    rw [zero_eq, fin_lt_fin] at h
    rw [neg_fin, fin_le_fin]
    linarith
  | posInf => exact le_iff.2 (Or.inl negInf_lt_posInf)
  | negInf => exact absurd (negInf_lt_fin 0) h
  | nan => exact absurd rfl hv

/-- Subtracting a non-negative number does not increase a value. -/
theorem not_lt_sub_of_lt {a b d : F64} (hd : ¬ d < 0) (h : b < a) : ¬ a < b - d := by
  rw [zero_eq] at hd
  cases a <;> cases b <;> cases d <;> simp_all
  linarith

/-- `std::f64::consts::PI`. -/
def pi : F64 := .fin (884279719003555 / 281474976710656)

/-- `f64::max`: a `nan` argument is ignored. -/
def maxNum (a b : F64) : F64 :=
  if a = .nan then b else if b = .nan then a else if a < b then b else a

/-- `f64::min`: a `nan` argument is ignored. -/
def minNum (a b : F64) : F64 :=
  if a = .nan then b else if b = .nan then a else if b < a then b else a

theorem maxNum_fin (a b : ℚ) : maxNum (.fin a) (.fin b) = .fin (max a b) := by
  simp only [maxNum, reduceCtorEq, if_false, fin_lt_fin]
  split
  case isTrue h => rw [max_eq_right h.le]
  case isFalse h => rw [max_eq_left (not_lt.1 h)]

theorem minNum_fin (a b : ℚ) : minNum (.fin a) (.fin b) = .fin (min a b) := by
  simp only [minNum, reduceCtorEq, if_false, fin_lt_fin]
  split
  case isTrue h => rw [min_eq_right h.le]
  case isFalse h => rw [min_eq_left (not_lt.1 h)]

/-! ## Clamping -/

/-- The value of `x.clamp(lo, hi)` once its assertion has passed. -/
def clampBody (x lo hi : F64) : F64 :=
  let x := if x < lo then lo else x
  if hi < x then hi else x

/-- `f64::clamp`: panics (`none`) unless `lo <= hi`, in particular when a bound is `nan`. -/
def clamp? (x lo hi : F64) : Option F64 :=
  if lo ≤ hi then some (clampBody x lo hi) else none

/-- `x.clamp(0.0, 100.0)`; the bounds are in order, so it never panics. -/
def clampPct (x : F64) : F64 := clampBody x 0 100

theorem clamp?_eq_some {x lo hi y : F64} :
    clamp? x lo hi = some y ↔ lo ≤ hi ∧ clampBody x lo hi = y := by
  unfold clamp?
  split <;> simp_all

theorem clampBody_fin (x lo hi : ℚ) :
    clampBody (.fin x) (.fin lo) (.fin hi) = .fin (min (max x lo) hi) := by
  have hx : (if x < lo then F64.fin lo else .fin x) = .fin (max x lo) := by
    split
    case isTrue h => rw [max_eq_right h.le]
    case isFalse h => rw [max_eq_left (not_lt.1 h)]
  simp only [clampBody, fin_lt_fin, hx]
  split
  case isTrue h => rw [min_eq_right h.le]
  case isFalse h => rw [min_eq_left (not_lt.1 h)]

@[simp] theorem clampBody_nan (lo hi : F64) : clampBody .nan lo hi = .nan := by
  simp [clampBody]

theorem clampPct_fin (x : ℚ) : clampPct (.fin x) = .fin (min (max x 0) 100) := by
  rw [clampPct, zero_eq, hundred_eq, clampBody_fin]

@[simp] theorem clampPct_nan : clampPct .nan = .nan := clampBody_nan _ _

@[simp] theorem clampPct_zero : clampPct 0 = 0 := by
  rw [zero_eq, clampPct_fin]
  norm_num

@[simp] theorem clampPct_hundred : clampPct 100 = 100 := by
  rw [hundred_eq, clampPct_fin]
  norm_num

/-- A finite number between `0` and `100`. -/
def IsPct (x : F64) : Prop := ∃ q, x = .fin q ∧ 0 ≤ q ∧ q ≤ 100

theorem isPct_zero : IsPct 0 := ⟨0, zero_eq, le_rfl, by norm_num⟩

theorem isPct_hundred : IsPct 100 := ⟨100, hundred_eq, by norm_num, le_rfl⟩

theorem IsPct.ne_nan {x : F64} (h : IsPct x) : x ≠ .nan := by
  obtain ⟨q, rfl, -⟩ := h
  exact F64.noConfusion

theorem IsPct.clampPct_eq {x : F64} (h : IsPct x) : clampPct x = x := by
  obtain ⟨q, rfl, h0, h1⟩ := h
  rw [clampPct_fin, max_eq_left h0, min_eq_left h1]

/-- **Clamping to percent gives a percentage**, except on `nan`. -/
theorem isPct_clampPct {x : F64} (h : x ≠ .nan) : IsPct (clampPct x) := by
  cases x with
  | nan => exact absurd rfl h
  | negInf => exact ⟨0, by decide, le_rfl, by norm_num⟩
  | posInf => exact ⟨100, by decide, by norm_num, le_rfl⟩
  | fin q =>
    refine ⟨_, clampPct_fin q, le_min (le_max_right _ _) (by norm_num), min_le_right _ _⟩

/-- A percentage is on exactly when what it was clamped from is. -/
theorem clampPct_pos {x : F64} : 0 < x.clampPct ↔ 0 < x := by
  cases x with
  | fin q =>
    rw [clampPct_fin, zero_eq, fin_lt_fin, fin_lt_fin]
    simp
  | nan => rw [clampPct_nan]
  | _ => decide

@[simp] theorem clampPct_idem (x : F64) : clampPct (clampPct x) = clampPct x := by
  by_cases h : x = .nan
  · subst h
    simp
  · exact (isPct_clampPct h).clampPct_eq

end F64

/-- The transcendental functions of the platform's mathematical library. -/
class Libm where
  exp : F64 → F64
  cos : F64 → F64

end Greenhouse.Numeric
