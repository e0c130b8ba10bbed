import Mathlib.Algebra.Group.Units.Basic
import Mathlib.Data.BitVec
import Mathlib.Data.Nat.ModEq
import Mathlib.Data.Set.Card

/-!
# Sequences of full period

A sequence that sweeps a type comes back to a value exactly after every period, and misses
none. The multiples of an invertible word sweep the words, and a mixing of the words that is
one to one keeps the sweep.

* `Sweeps.ncard`: within a period a property holds as often as there are values that have it.
* `sweeps_weyl`: a counter that an invertible word is added to.
* `xorShift_bijective`: a word mixed with its own higher bits.
-/

namespace Greenhouse.Numeric

/-! ## Sweeps -/

/-- The sequence takes every value, and two places agree just when they are whole periods
apart. -/
structure Sweeps {α : Type*} (N : ℕ) (f : ℕ → α) : Prop where
  hits : Function.Surjective f
  again : ∀ m n, f m = f n ↔ m ≡ n [MOD N]

namespace Sweeps

variable {α β : Type*} {N : ℕ} {f : ℕ → α}

theorem comp {g : α → β} (h : Sweeps N f) (hg : Function.Bijective g) :
    Sweeps N fun n => g (f n) where
  hits := hg.2.comp h.hits
  again m n := by rw [hg.1.eq_iff, h.again]

/-- Within a period each value comes up once. -/
theorem existsUnique (h : Sweeps N f) (hN : N ≠ 0) (v : α) : ∃! n, n < N ∧ f n = v := by
  obtain ⟨n, rfl⟩ := h.hits v
  refine ⟨n % N, ⟨Nat.mod_lt n (Nat.pos_of_ne_zero hN), (h.again _ _).2 (Nat.mod_modEq n N)⟩, ?_⟩
  rintro m ⟨hm, hmn⟩
  rw [← Nat.mod_eq_of_lt hm]
  exact (h.again m n).1 hmn

/-- Within a period a property holds as often as there are values that have it. -/
theorem ncard (h : Sweeps N f) (hN : N ≠ 0) (P : α → Prop) :
    {n | n < N ∧ P (f n)}.ncard = {v | P v}.ncard := by
  have himage : f '' {n | n < N ∧ P (f n)} = {v | P v} := by
    ext v
    constructor
    · rintro ⟨n, ⟨-, hn⟩, rfl⟩
      exact hn
    · intro hv
      obtain ⟨n, ⟨hn, rfl⟩, -⟩ := h.existsUnique hN v
      exact ⟨n, ⟨hn, hv⟩, rfl⟩
  rw [← himage]
  refine (Set.InjOn.ncard_image ?_).symm
  rintro m ⟨hm, -⟩ n ⟨hn, -⟩ hmn
  have hmod : m % N = n % N := (h.again m n).1 hmn
  rwa [Nat.mod_eq_of_lt hm, Nat.mod_eq_of_lt hn] at hmod

end Sweeps

/-! ## Words -/

section Words

variable {w : ℕ} {c : BitVec w}

theorem natCast_eq_iff {m n : ℕ} : (m : BitVec w) = n ↔ m ≡ n [MOD 2 ^ w] := by
  rw [← BitVec.toNat_inj]
  change (BitVec.ofNat w m).toNat = (BitVec.ofNat w n).toNat ↔ _
  rw [BitVec.toNat_ofNat, BitVec.toNat_ofNat]
  exact Iff.rfl

/-- A counter that an invertible word is added to sweeps the words. -/
theorem sweeps_weyl (hc : IsUnit c) (s : BitVec w) : Sweeps (2 ^ w) fun n => s + n * c where
  hits v := by
    obtain ⟨d, hd⟩ := hc.exists_left_inv
    refine ⟨((v - s) * d).toNat, ?_⟩
    have hcast : (((v - s) * d).toNat : BitVec w) = (v - s) * d :=
      (BitVec.ofNat_toNat w _).trans (BitVec.setWidth_eq _)
    change s + (((v - s) * d).toNat : BitVec w) * c = v
    rw [hcast, mul_assoc, hd, mul_one, add_sub_cancel]
  again m n := by
    rw [add_right_inj, hc.mul_left_inj, natCast_eq_iff]

theorem mul_bijective (hc : IsUnit c) : Function.Bijective fun x : BitVec w => x * c := by
  obtain ⟨d, hd⟩ := hc.exists_left_inv
  refine ⟨hc.mul_left_injective, fun v => ⟨v * d, ?_⟩⟩
  change v * d * c = v
  rw [mul_assoc, hd, mul_one]

/-- A word mixed with its own higher bits. -/
def xorShift (k : ℕ) (x : BitVec w) : BitVec w := x ^^^ (x >>> k)

/-- A word that its own higher bits do not change has no bits: shifting makes it smaller. -/
theorem eq_zero_of_ushiftRight {k : ℕ} (hk : k ≠ 0) {x : BitVec w} (h : x = x >>> k) :
    x = 0#w := by
  have hdiv : x.toNat = x.toNat / 2 ^ k := by
    have := congrArg BitVec.toNat h
    rwa [BitVec.toNat_ushiftRight, Nat.shiftRight_eq_div_pow] at this
  by_contra hne
  have hpos : 0 < x.toNat := Nat.pos_of_ne_zero fun h0 => hne (BitVec.eq_of_toNat_eq h0)
  have hlt : x.toNat / 2 ^ k < x.toNat := Nat.div_lt_self hpos (Nat.one_lt_two_pow hk)
  omega

theorem xorShift_bijective {k : ℕ} (hk : k ≠ 0) :
    Function.Bijective (xorShift k : BitVec w → BitVec w) := by
  have : Finite (BitVec w) := Finite.of_injective BitVec.toFin fun _ _ => BitVec.eq_of_toFin_eq
  refine Finite.injective_iff_bijective.1 fun x y hxy => ?_
  -- the difference of two words with one mixing is mixed to zero
  have hzero : (x ^^^ y) ^^^ ((x ^^^ y) >>> k) = 0#w := by
    rw [BitVec.ushiftRight_xor_distrib]
    calc x ^^^ y ^^^ (x >>> k ^^^ y >>> k)
        = xorShift k x ^^^ xorShift k y := by
          unfold xorShift
          ac_rfl
      _ = 0#w := BitVec.xor_eq_zero_iff.2 hxy
  exact BitVec.xor_eq_zero_iff.1 (eq_zero_of_ushiftRight hk (BitVec.xor_eq_zero_iff.1 hzero))

end Words

end Greenhouse.Numeric
