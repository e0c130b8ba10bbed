import Mathlib.Data.List.Induction

/-!
# Observations in a row

A counter is raised by every observation with a property and reset by every other one.

* `EndsWith`: a list whose last observations, so many of them, all have the property.
* `inARow`: the counter after a list of observations.
* `le_inARow_iff`: it is at least a number when the list ends with that many.
-/

namespace Greenhouse.Process

section

variable {α : Type*} {p : α → Prop} {n : ℕ} {l : List α} {a : α}

/-- The list ends with a number of observations that all have the property. -/
def EndsWith (p : α → Prop) (n : ℕ) (l : List α) : Prop :=
  ∃ earlier last, l = earlier ++ last ∧ last.length = n ∧ ∀ a ∈ last, p a

theorem endsWith_zero : EndsWith p 0 l := ⟨l, [], by simp, rfl, List.forall_mem_nil _⟩

theorem not_endsWith_nil : ¬ EndsWith p (n + 1) ([] : List α) := by
  rintro ⟨earlier, last, heq, hlength, -⟩
  obtain ⟨-, rfl⟩ := List.append_eq_nil_iff.1 heq.symm
  cases hlength

theorem endsWith_concat : EndsWith p (n + 1) (l ++ [a]) ↔ p a ∧ EndsWith p n l := by
  constructor
  · rintro ⟨earlier, last, heq, hlength, hall⟩
    rcases last.eq_nil_or_concat with rfl | ⟨init, b, rfl⟩
    · cases hlength
    · rw [List.concat_eq_append] at heq hlength hall
      rw [← List.append_assoc] at heq
      obtain ⟨rfl, hlast⟩ := List.append_inj' heq rfl
      cases hlast
      rw [List.forall_mem_append] at hall
      refine ⟨hall.2 a List.mem_cons_self, earlier, init, rfl, ?_, hall.1⟩
      simpa using hlength
  · rintro ⟨ha, earlier, last, rfl, rfl, hall⟩
    refine ⟨earlier, last ++ [a], List.append_assoc _ _ _, by simp, ?_⟩
    rw [List.forall_mem_append]
    exact ⟨hall, by simpa using ha⟩

variable [DecidablePred p]

/-- The counter after one more observation. -/
def oneMore (p : α → Prop) [DecidablePred p] (n : ℕ) (a : α) : ℕ := if p a then n + 1 else 0

/-- The counter after a list of observations. -/
def inARow (p : α → Prop) [DecidablePred p] (n : ℕ) (l : List α) : ℕ := l.foldl (oneMore p) n

theorem inARow_append {m : List α} : inARow p n (l ++ m) = inARow p (inARow p n l) m :=
  List.foldl_append

/-- **The counter measures how many of the last observations in a row have the property.** -/
theorem le_inARow_iff : n ≤ inARow p 0 l ↔ EndsWith p n l := by
  induction l using List.reverseRecOn generalizing n with
  | nil =>
    cases n with
    | zero => exact iff_of_true (Nat.zero_le _) endsWith_zero
    | succ n => exact iff_of_false (Nat.not_succ_le_zero n) not_endsWith_nil
  | append_singleton l a ih =>
    cases n with
    | zero => exact iff_of_true (Nat.zero_le _) endsWith_zero
    | succ n =>
      rw [inARow_append, endsWith_concat, ← ih]
      by_cases ha : p a <;> simp [inARow, oneMore, ha]

end

end Greenhouse.Process
