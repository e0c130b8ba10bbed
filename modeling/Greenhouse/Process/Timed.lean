import Mathlib.Data.List.Induction

/-!
# Cells with a lifetime

A cell is set to a value for a number of ticks, or cleared. A tick takes one off what remains of
its lifetime and empties the cell once nothing does.

* `Timed.apply`: one operation on a cell.
* `Timed.Set`: the last operation that touched the cell set it, and so much of its lifetime
  remains after the ticks since.
* `Timed.foldl_eq_some_iff`: **a cell holds what was set last, for as long as its lifetime says.**
-/

namespace Greenhouse.Process.Timed

/-- What can happen to a cell. -/
inductive Op (α : Type*) where
  | set (value : α) (ttl : ℕ)
  | clear
  | tick
  | keep

variable {α : Type*}

/-- The operation leaves what the cell is set to. -/
def Op.leaves : Op α → Bool
  | .set _ _ => false
  | .clear => false
  | .tick => true
  | .keep => true

def Op.isTick : Op α → Bool
  | .tick => true
  | _ => false

/-- One operation on a cell: its value, and the ticks that remain. -/
def apply (cell : Option (α × ℕ)) : Op α → Option (α × ℕ)
  | .set value ttl => some (value, ttl)
  | .clear => none
  | .tick => cell.bind fun c => if 0 < c.2 - 1 then some (c.1, c.2 - 1) else none
  | .keep => cell

/-- The last operation that touched the cell set it to the value, and `k` ticks of its lifetime
remain. -/
def Set (ops : List (Op α)) (value : α) (k : ℕ) : Prop :=
  ∃ before ttl after, ops = before ++ .set value ttl :: after ∧ (∀ o ∈ after, o.leaves = true) ∧
    after.countP Op.isTick + k = ttl

variable {ops : List (Op α)} {value v : α} {k n : ℕ}

theorem not_set_nil : ¬ Set ([] : List (Op α)) value k := by
  rintro ⟨before, ttl, after, h, -⟩
  have hmem : Op.set value ttl ∈ before ++ .set value ttl :: after :=
    List.mem_append_right before List.mem_cons_self
  rw [← h] at hmem
  exact absurd hmem List.not_mem_nil

/-- What a further operation makes of what was set. -/
theorem set_concat {o : Op α} :
    Set (ops ++ [o]) value k ↔ o = .set value k ∨
      (o.leaves = true ∧ Set ops value (if o.isTick then k + 1 else k)) := by
  constructor
  · rintro ⟨before, ttl, after, h, hleaves, hcount⟩
    rcases after.eq_nil_or_concat with rfl | ⟨init, last, rfl⟩
    · obtain ⟨-, hlast⟩ := List.append_inj' h rfl
      obtain rfl : k = ttl := by simpa using hcount
      exact Or.inl (List.singleton_inj.1 hlast)
    · rw [List.concat_eq_append, ← List.cons_append, ← List.append_assoc] at h
      obtain ⟨rfl, hlast⟩ := List.append_inj' h rfl
      obtain rfl := List.singleton_inj.1 hlast
      rw [List.concat_eq_append] at hleaves hcount
      refine Or.inr ⟨hleaves o (by simp), before, ttl, init, rfl,
        fun o' ho' => hleaves o' (List.mem_append_left _ ho'), ?_⟩
      rw [List.countP_append, List.countP_singleton] at hcount
      cases htick : o.isTick <;> simp [htick] at hcount ⊢ <;> omega
  · rintro (rfl | ⟨hleaves, before, ttl, after, rfl, hafter, hcount⟩)
    · exact ⟨ops, k, [], rfl, List.forall_mem_nil _, by simp⟩
    · refine ⟨before, ttl, after ++ [o], by simp, fun o' ho' => ?_, ?_⟩
      · rcases List.mem_append.1 ho' with ho' | ho'
        · exact hafter o' ho'
        · rwa [List.mem_singleton.1 ho']
      · rw [List.countP_append, List.countP_singleton]
        cases htick : o.isTick <;> simp [htick] at hcount ⊢ <;> omega

/-- **A cell that starts empty holds what was set last, while its lifetime lasts.** -/
theorem foldl_eq_some_iff (hpos : ∀ v n, Op.set v n ∈ ops → 0 < n) :
    ops.foldl apply none = some (value, k) ↔ Set ops value k ∧ 0 < k := by
  induction ops using List.reverseRecOn generalizing value k with
  | nil => exact iff_of_false (Option.some_ne_none _).symm fun h => not_set_nil h.1
  | append_singleton ops o ih =>
    have ih := fun w m => @ih w m fun v n hmem => hpos v n (List.mem_append_left _ hmem)
    rw [List.foldl_append, List.foldl_cons, List.foldl_nil, set_concat]
    cases o with
    | set v n =>
      have hn := hpos v n (List.mem_append_right _ List.mem_cons_self)
      simp only [apply, Op.leaves, Option.some.injEq, Prod.mk.injEq, Op.set.injEq,
        Bool.false_eq_true, false_and, or_false]
      exact ⟨fun h => ⟨h, h.2 ▸ hn⟩, And.left⟩
    | clear => simp [apply, Op.leaves]
    | tick =>
      simp only [apply, Op.leaves, Op.isTick, reduceCtorEq, if_true, true_and, false_or]
      constructor
      · intro h
        obtain ⟨⟨v, m⟩, hcell, h⟩ := Option.bind_eq_some_iff.1 h
        dsimp only at h
        split at h
        case isTrue hm =>
          obtain ⟨rfl, rfl⟩ := Prod.mk.inj (Option.some.inj h)
          have hset := ((ih v m).1 hcell).1
          rw [show m - 1 + 1 = m by omega]
          exact ⟨hset, hm⟩
        case isFalse => cases h
      · rintro ⟨hset, hk⟩
        rw [(ih value (k + 1)).2 ⟨hset, Nat.succ_pos k⟩, Option.bind_some]
        exact if_pos hk
    | keep =>
      simp only [apply, Op.leaves, Op.isTick, reduceCtorEq, Bool.false_eq_true, if_false, true_and,
        false_or]
      exact ih value k

end Greenhouse.Process.Timed
