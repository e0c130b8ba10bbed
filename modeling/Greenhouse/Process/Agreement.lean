import Mathlib.Order.Basic
import Std.Data.TreeMap

/-!
# Agreement off a key

Two maps agree off `k` when they hold the same at every other key. A fold whose steps at `k`
leave a relation as it is, and whose other steps keep it, relates the folds over two lists
that are the same off `k`.

* `AgreeOff.insert`, `AgreeOff.erase`, `AgreeOff.filter`: the operations keep agreement.
* `foldl_agree`: the rule for folds; `foldl_toList_agree` is the rule for folds over two maps
  that agree.
-/

namespace Greenhouse.Process

open Std

/-! ## Folds -/

section Folds

variable {α σ τ : Type*} {f : σ → α → σ} {g : τ → α → τ} {R : σ → τ → Prop} {keep : α → Bool}

theorem foldl_left_agree (hleft : ∀ s t a, keep a = false → R s t → R (f s a) t) {l : List α} :
    ∀ {s : σ} {t : τ}, (∀ a ∈ l, keep a = false) → R s t → R (l.foldl f s) t := by
  induction l with
  | nil => exact fun _ h => h
  | cons a l ih =>
    intro s t hl h
    exact ih (fun b hb => hl b (List.mem_cons_of_mem a hb))
      (hleft s t a (hl a List.mem_cons_self) h)

/-- **Folds over two lists that are the same but for elements that do not count.** -/
theorem foldl_agree (hleft : ∀ s t a, keep a = false → R s t → R (f s a) t)
    (hright : ∀ s t a, keep a = false → R s t → R s (g t a))
    (hboth : ∀ s t a, keep a = true → R s t → R (f s a) (g t a)) {l l' : List α} :
    ∀ {s : σ} {t : τ}, l.filter keep = l'.filter keep → R s t →
      R (l.foldl f s) (l'.foldl g t) := by
  induction l generalizing l' with
  | nil =>
    intro s t hl h
    have hnone : ∀ a ∈ l', keep a = false := by
      intro a ha
      exact Bool.eq_false_iff.2 (List.filter_eq_nil_iff.1 hl.symm a ha)
    exact foldl_left_agree (R := fun t s => R s t) (fun t s a ha h => hright s t a ha h) hnone h
  | cons a l ih =>
    intro s t hl h
    cases hkeep : keep a with
    | false =>
      rw [List.filter_cons, hkeep] at hl
      exact ih hl (hleft s t a hkeep h)
    | true =>
      rw [List.filter_cons, hkeep] at hl
      obtain ⟨pre, suf, rfl, hpre, -, hsuf⟩ := List.filter_eq_cons_iff.1 hl.symm
      have hskip : R s (pre.foldl g t) :=
        foldl_left_agree (R := fun t s => R s t) (fun t s a ha h => hright s t a ha h)
          (fun b hb => Bool.eq_false_iff.2 (hpre b hb)) h
      rw [List.foldl_append]
      change R (l.foldl f (f s a)) (suf.foldl g (g (pre.foldl g t) a))
      exact ih hsuf.symm (hboth s _ a hkeep hskip)

end Folds

/-! ## Maps -/

section Maps

variable {κ ν : Type} [Ord κ] {k i : κ} {m m' : TreeMap κ ν}

/-- The maps hold the same at every key but `k`. -/
def AgreeOff (k : κ) (m m' : TreeMap κ ν) : Prop := ∀ i, i ≠ k → m[i]? = m'[i]?

theorem AgreeOff.refl (k : κ) (m : TreeMap κ ν) : AgreeOff k m m := fun _ _ => rfl

theorem AgreeOff.symm (h : AgreeOff k m m') : AgreeOff k m' m := fun i hi => (h i hi).symm

variable [TransOrd κ]

theorem AgreeOff.mem_iff (h : AgreeOff k m m') (hi : i ≠ k) : i ∈ m ↔ i ∈ m' := by
  rw [TreeMap.mem_iff_isSome_getElem?, TreeMap.mem_iff_isSome_getElem?, h i hi]

theorem AgreeOff.getD (h : AgreeOff k m m') (hi : i ≠ k) (v : ν) : m.getD i v = m'.getD i v := by
  rw [TreeMap.getD_eq_getD_getElem?, TreeMap.getD_eq_getD_getElem?, h i hi]

theorem AgreeOff.insert (h : AgreeOff k m m') (j : κ) (v : ν) :
    AgreeOff k (m.insert j v) (m'.insert j v) := by
  intro i hi
  rw [TreeMap.getElem?_insert, TreeMap.getElem?_insert, h i hi]

theorem AgreeOff.erase (h : AgreeOff k m m') (j : κ) : AgreeOff k (m.erase j) (m'.erase j) := by
  intro i hi
  rw [TreeMap.getElem?_erase, TreeMap.getElem?_erase, h i hi]

variable [LawfulEqOrd κ]

theorem AgreeOff.insert_left (h : AgreeOff k m m') (v : ν) : AgreeOff k (m.insert k v) m' := by
  intro i hi
  rw [TreeMap.getElem?_insert, if_neg fun heq => hi (LawfulEqOrd.eq_of_compare heq).symm]
  exact h i hi

theorem AgreeOff.insert_right (h : AgreeOff k m m') (v : ν) : AgreeOff k m (m'.insert k v) :=
  (h.symm.insert_left v).symm

theorem AgreeOff.erase_left (h : AgreeOff k m m') : AgreeOff k (m.erase k) m' := by
  intro i hi
  rw [TreeMap.getElem?_erase, if_neg fun heq => hi (LawfulEqOrd.eq_of_compare heq).symm]
  exact h i hi

theorem AgreeOff.filter (h : AgreeOff k m m') (p : κ → ν → Bool) :
    AgreeOff k (m.filter p) (m'.filter p) := by
  intro i hi
  rw [TreeMap.getElem?_filter', TreeMap.getElem?_filter', h i hi]

/-- Two maps that agree off `k` list the same entries but for the one at `k`. -/
theorem AgreeOff.toList [DecidableEq κ] (h : AgreeOff k m m') :
    m.toList.filter (fun p => decide (p.1 ≠ k)) = m'.toList.filter (fun p => decide (p.1 ≠ k)) := by
  have hfilter : ∀ m : TreeMap κ ν, m.toList.filter (fun p => decide (p.1 ≠ k)) =
      (m.filter fun i _ => decide (i ≠ k)).toList :=
    fun m => (TreeMap.toList_filter (f := fun i _ => decide (i ≠ k))).symm
  rw [hfilter, hfilter]
  refine TreeMap.Equiv.toList_eq (TreeMap.Equiv.of_forall_constGet?_eq fun i => ?_)
  rw [TreeMap.getElem?_filter', TreeMap.getElem?_filter']
  by_cases hi : i = k
  · simp [hi]
  · rw [h i hi]

/-- **Folds over two maps that agree off `k`**, when the entry at `k` does not count. -/
theorem foldl_toList_agree [DecidableEq κ] {σ τ : Type*} {f : σ → κ × ν → σ} {g : τ → κ × ν → τ}
    {R : σ → τ → Prop} (hleft : ∀ s t v, R s t → R (f s (k, v)) t)
    (hright : ∀ s t v, R s t → R s (g t (k, v)))
    (hboth : ∀ s t i v, i ≠ k → R s t → R (f s (i, v)) (g t (i, v))) {s : σ} {t : τ}
    (hm : AgreeOff k m m') (h : R s t) : R (m.toList.foldl f s) (m'.toList.foldl g t) := by
  refine foldl_agree ?_ ?_ ?_ hm.toList h
  · rintro s t ⟨i, v⟩ hi h
    obtain rfl := not_not.1 (of_decide_eq_false hi)
    exact hleft s t v h
  · rintro s t ⟨i, v⟩ hi h
    obtain rfl := not_not.1 (of_decide_eq_false hi)
    exact hright s t v h
  · rintro s t ⟨i, v⟩ hi h
    exact hboth s t i v (of_decide_eq_true hi) h

end Maps

end Greenhouse.Process
