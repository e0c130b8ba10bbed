import Mathlib.Data.List.Nodup
import Mathlib.Logic.Function.Basic

/-!
# Exclusive holding

Keys held by threads, each thread holding one key or none.

* `Exclusive`: no key is held twice; `Exclusive.update`: when one thread changes what it holds.
* `Tallies`: a list names exactly the keys that are held; `Tallies.take`, `Tallies.drop`,
  `Tallies.keep`: when one thread takes a key, gives one up, or does neither.
-/

namespace Greenhouse.Process

variable {ι κ : Type*} {f : ι → Option κ} {l l' : List κ} {i : ι} {k : κ}

/-- No key is held twice. -/
def Exclusive (f : ι → Option κ) : Prop := ∀ i j k, f i = some k → f j = some k → i = j

/-- The list names the keys that are held. -/
def Tallies (l : List κ) (f : ι → Option κ) : Prop := ∀ k, k ∈ l ↔ ∃ i, f i = some k

variable [DecidableEq ι]

/-- A thread may hold any key that no other one holds. -/
theorem Exclusive.update (h : Exclusive f) {v : Option κ}
    (hv : ∀ k, v = some k → ∀ j, f j = some k → j = i) : Exclusive (Function.update f i v) := by
  intro a b k ha hb
  by_cases hai : a = i
  · subst hai
    rw [Function.update_self] at ha
    by_cases hba : b = a
    · exact hba.symm
    · rw [Function.update_of_ne hba] at hb
      exact (hv k ha b hb).symm
  · rw [Function.update_of_ne hai] at ha
    by_cases hbi : b = i
    · subst hbi
      rw [Function.update_self] at hb
      exact hv k hb a ha
    · rw [Function.update_of_ne hbi] at hb
      exact h a b k ha hb

/-- A thread that holds nothing takes a key. -/
theorem Tallies.take (h : Tallies l f) (hi : f i = none) (hl : ∀ x, x ∈ l' ↔ x = k ∨ x ∈ l) :
    Tallies l' (Function.update f i (some k)) := by
  intro x
  rw [hl, h x]
  constructor
  · rintro (rfl | ⟨j, hj⟩)
    · exact ⟨i, Function.update_self ..⟩
    · have hne : j ≠ i := fun heq => by simp [heq, hi] at hj
      exact ⟨j, by rw [Function.update_of_ne hne, hj]⟩
  · rintro ⟨j, hj⟩
    by_cases hji : j = i
    · subst hji
      rw [Function.update_self] at hj
      exact .inl (Option.some.inj hj).symm
    · rw [Function.update_of_ne hji] at hj
      exact .inr ⟨j, hj⟩

/-- A thread gives up the key it holds. -/
theorem Tallies.drop (h : Tallies l f) (hf : Exclusive f) (hi : f i = some k)
    (hl : ∀ x, x ∈ l' ↔ x ∈ l ∧ x ≠ k) : Tallies l' (Function.update f i none) := by
  intro x
  rw [hl, h x]
  constructor
  · rintro ⟨⟨j, hj⟩, hne⟩
    have hji : j ≠ i := fun heq => hne (Option.some.inj ((heq ▸ hj).symm.trans hi))
    exact ⟨j, by rw [Function.update_of_ne hji, hj]⟩
  · rintro ⟨j, hj⟩
    have hji : j ≠ i := fun heq => by simp [heq] at hj
    rw [Function.update_of_ne hji] at hj
    exact ⟨⟨j, hj⟩, fun heq => hji (hf j i k (heq ▸ hj) hi)⟩

/-- A thread goes on holding what it holds. -/
theorem Tallies.keep (h : Tallies l f) {v : Option κ} (hi : f i = v) :
    Tallies l (Function.update f i v) := by
  rwa [← hi, Function.update_eq_self]

end Greenhouse.Process
