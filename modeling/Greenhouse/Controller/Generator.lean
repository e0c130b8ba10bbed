import Mathlib.Order.Interval.Finset.Nat
import Greenhouse.Controller.Plant
import Greenhouse.Numeric.Mixing

/-!
# The generator of the simulation

The state of the generator is a counter that an odd number is added to, and a draw mixes the
counter one to one. So every generator runs through one and the same cycle of all the raw
values, from a place of its own, and a uniform draw is exactly uniform over the cycle.

* `sweeps_draw`: the raw values that a generator draws.
* `draw_cycle`: the cycle, and where two generators stand on it.
* `nextF64_uniform`: the numbers in `[0, 1)` that the raw values give.
-/

namespace Greenhouse.Controller.Rng

open Greenhouse.Numeric Function

/-- The generator after `n` draws. -/
def after (r : Rng) : Nat → Rng
  | 0 => r
  | n + 1 => (nextU64 (r.after n)).2

/-- The raw value that is drawn after `n` others. -/
def draw (r : Rng) (n : Nat) : UInt64 := (nextU64 (r.after n)).1

/-! ## The counter and its mixing -/

/-- What a draw adds to the counter. -/
def gamma : BitVec 64 := 0x9E3779B97F4A7C15#64

/-- What a draw makes of the counter. -/
def mix (z : BitVec 64) : BitVec 64 :=
  xorShift 31 (xorShift 27 (xorShift 30 z * 0xBF58476D1CE4E5B9#64) * 0x94D049BB133111EB#64)

theorem isUnit_gamma : IsUnit gamma := by
  have h : gamma * 0xF1DE83E19937733D#64 = 1 := by decide
  exact IsUnit.of_mul_eq_one _ h

theorem mix_bijective : Bijective mix := by
  have h₁ : (0xBF58476D1CE4E5B9#64) * 0x96DE1B173F119089#64 = 1 := by decide
  have h₂ : (0x94D049BB133111EB#64) * 0x319642B2D24D8EC3#64 = 1 := by decide
  have hfirst := (mul_bijective (.of_mul_eq_one _ h₁)).comp
    (xorShift_bijective (k := 30) (by decide))
  have hsecond := (mul_bijective (.of_mul_eq_one _ h₂)).comp
    (xorShift_bijective (k := 27) (by decide))
  exact (xorShift_bijective (by decide)).comp (hsecond.comp hfirst)

theorem nextU64_state (r : Rng) :
    (nextU64 r).2.state.toBitVec = r.state.toBitVec + gamma := rfl

theorem nextU64_value (r : Rng) :
    (nextU64 r).1 = UInt64.ofBitVec (mix (r.state.toBitVec + gamma)) := rfl

theorem after_state (r : Rng) (n : Nat) :
    (r.after n).state.toBitVec = r.state.toBitVec + n * gamma := by
  induction n with
  | zero => simp [after]
  | succ n ih =>
    rw [after, nextU64_state, ih, Nat.cast_succ, add_mul, one_mul, add_assoc]

theorem after_add (r : Rng) (m n : Nat) : r.after (m + n) = (r.after m).after n := by
  induction n with
  | zero => rfl
  | succ n ih => exact congrArg (fun s => (nextU64 s).2) ih

theorem ofBitVec_bijective : Bijective UInt64.ofBitVec :=
  ⟨fun _ _ h => congrArg UInt64.toBitVec h, fun u => ⟨u.toBitVec, rfl⟩⟩

/-- **The raw values of a generator**: each of them once in `2 ^ 64` draws. -/
theorem sweeps_draw (r : Rng) : Sweeps (2 ^ 64) r.draw := by
  have h := (sweeps_weyl isUnit_gamma (r.state.toBitVec + gamma)).comp
    (ofBitVec_bijective.comp mix_bijective)
  have hdraw : r.draw = fun n : Nat =>
      UInt64.ofBitVec (mix (r.state.toBitVec + gamma + n * gamma)) := by
    funext n
    rw [draw, nextU64_value, after_state, add_right_comm]
  rw [hdraw]
  exact h

theorem ext_state {r s : Rng} (h : r.state.toBitVec = s.state.toBitVec) : r = s :=
  congrArg Rng.mk (UInt64.toBitVec_inj.1 h)

/-- The raw value tells the counter. -/
theorem nextU64_inj {r s : Rng} (h : (nextU64 r).1 = (nextU64 s).1) : r = s := by
  rw [nextU64_value, nextU64_value] at h
  have hmix := mix_bijective.1 (ofBitVec_bijective.1 h)
  exact ext_state (add_right_cancel hmix)

theorem after_inj {r s : Rng} {n : Nat} (h : r.after n = s.after n) : r = s := by
  have hstate := congrArg (fun t : Rng => t.state.toBitVec) h
  simp only [after_state] at hstate
  exact ext_state (add_right_cancel hstate)

theorem draw_add (r : Rng) (m n : Nat) : r.draw (m + n) = (r.after m).draw n :=
  congrArg (fun t => (nextU64 t).1) (r.after_add m n)

/-- **One cycle for all seeds**: in `2 ^ 64` draws every raw value comes up once, and then the
draws repeat. Every other generator draws the same cycle, from one place of it, and never the
same value after as many draws. -/
theorem draw_cycle (r s : Rng) :
    (∀ v, ∃! n, n < 2 ^ 64 ∧ r.draw n = v) ∧
    (∀ m n, r.draw m = r.draw n ↔ m ≡ n [MOD 2 ^ 64]) ∧
    (∃! k, k < 2 ^ 64 ∧ ∀ n, s.draw n = r.draw (k + n)) ∧
    ∀ n, r.draw n = s.draw n ↔ r = s := by
  have hpos : 2 ^ 64 ≠ 0 := (Nat.two_pow_pos 64).ne'
  have hr := sweeps_draw r
  refine ⟨hr.existsUnique hpos, hr.again, ?_, fun n => ⟨?_, ?_⟩⟩
  · -- the place where `r` draws what `s` draws first
    obtain ⟨k, ⟨hk, hfirst⟩, hunique⟩ := hr.existsUnique hpos (s.draw 0)
    have hplace : r.after k = s := nextU64_inj hfirst
    refine ⟨k, ⟨hk, fun n => ?_⟩, ?_⟩
    · rw [draw_add, hplace]
    · rintro k' ⟨hk', hall⟩
      exact hunique k' ⟨hk', (hall 0).symm⟩
  · intro h
    exact after_inj (nextU64_inj h)
  · intro h
    rw [h]

/-! ## Uniform draws -/

/-- As many raw values as there are words of the dropped bits give the same top bits. -/
theorem ncard_topBits (k : Fin (2 ^ 53)) :
    {u : UInt64 | u.toNat / 2 ^ 11 = k}.ncard = 2 ^ 11 := by
  have hinj : Injective UInt64.toNat := fun _ _ => UInt64.toNat.inj
  have himage : UInt64.toNat '' {u : UInt64 | u.toNat / 2 ^ 11 = k} =
      Finset.Ico (k.val * 2 ^ 11) (k.val * 2 ^ 11 + 2 ^ 11) := by
    ext m
    rw [Finset.mem_coe, Finset.mem_Ico]
    constructor
    · rintro ⟨u, hu, rfl⟩
      have hdiv : u.toNat / 2 ^ 11 = k := hu
      omega
    · rintro ⟨hlow, hhigh⟩
      have hk := k.isLt
      have hm : m < 2 ^ 64 := by omega
      have hround : (UInt64.ofNat m).toNat = m := UInt64.toNat_ofNat_of_lt' hm
      refine ⟨UInt64.ofNat m, ?_, hround⟩
      change (UInt64.ofNat m).toNat / 2 ^ 11 = k
      rw [hround]
      omega
  rw [← Set.ncard_image_of_injective _ hinj, himage, Set.ncard_coe_finset, Nat.card_Ico,
    Nat.add_sub_cancel_left]

/-- **A uniform draw is uniform**: it is one of the `2 ^ 53` fractions of `2 ^ 53` below `1`, and
each of them comes up equally often in the `2 ^ 64` draws of the cycle. -/
theorem nextF64_uniform (r : Rng) :
    (∀ n, ∃ k : Fin (2 ^ 53), (nextF64 (r.after n)).1 = .fin (k.val / 2 ^ 53)) ∧
    ∀ k : Fin (2 ^ 53),
      {n | n < 2 ^ 64 ∧ (nextF64 (r.after n)).1 = .fin (k.val / 2 ^ 53)}.ncard = 2 ^ 11 := by
  constructor
  · intro n
    exact ⟨⟨_, toNat_div_lt _⟩, nextF64_value (r.after n)⟩
  · intro k
    have hsame : ∀ n, (nextF64 (r.after n)).1 = .fin (k.val / 2 ^ 53) ↔
        (r.draw n).toNat / 2 ^ 11 = k := by
      intro n
      rw [nextF64_value, F64.fin.injEq, div_left_inj' (by positivity), Nat.cast_inj]
      exact Iff.rfl
    simp only [hsame]
    calc _ = {u : UInt64 | u.toNat / 2 ^ 11 = k}.ncard :=
          (sweeps_draw r).ncard (Nat.two_pow_pos 64).ne' fun u => u.toNat / 2 ^ 11 = k
      _ = 2 ^ 11 := ncard_topBits k

end Greenhouse.Controller.Rng
