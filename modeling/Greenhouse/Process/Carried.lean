import Mathlib.Data.List.Basic

/-!
# Values that keep the instant they were first shown

Bulletins arrive one after another; each shows all there is, a value under some of the keys. What
is recorded is the latest bulletin, with an instant for every value: a value that was recorded
already keeps its instant, another one gets that of the bulletin.

* `Dated.carry`: record a bulletin.
* `Uninterrupted`: the first of the elements that have had a property without a break.
* `kept_foldl`: **the instant of a value is that of the first bulletin of the current
  uninterrupted run that shows it.**
-/

namespace Greenhouse.Process

variable {κ γ τ ε : Type}

/-! ## The current run -/

/-- The first of the last elements of a history that all have the property. -/
def Uninterrupted (shows : ε → Prop) (history : List ε) (start : ε) : Prop :=
  ∃ before after, history = before ++ start :: after ∧ (∀ x ∈ start :: after, shows x) ∧
    ∀ x, before.getLast? = some x → ¬ shows x

section Uninterrupted

variable {shows : ε → Prop} {history : List ε} {start x : ε}

/-- The run goes on. -/
theorem Uninterrupted.more (h : Uninterrupted shows history start) (hx : shows x) :
    Uninterrupted shows (history ++ [x]) start := by
  obtain ⟨before, after, rfl, hall, hbefore⟩ := h
  refine ⟨before, after ++ [x], by simp, fun y hy => ?_, hbefore⟩
  rw [← List.cons_append] at hy
  rcases List.mem_append.1 hy with hy | hy
  · exact hall y hy
  · rw [List.mem_singleton.1 hy]
    exact hx

/-- A run starts. -/
theorem Uninterrupted.fresh (hlast : ∀ y, history.getLast? = some y → ¬ shows y) (hx : shows x) :
    Uninterrupted shows (history ++ [x]) x := by
  refine ⟨history, [], rfl, fun y hy => ?_, hlast⟩
  rw [List.mem_singleton.1 hy]
  exact hx

end Uninterrupted

/-! ## Carrying the instants -/

/-- What is shown, and when. -/
structure Bulletin (κ γ τ : Type) where
  shows : κ → Option γ
  ts : τ

/-- What is recorded under each key, and since when. -/
abbrev Dated (κ γ τ : Type) := κ → Option (γ × τ)

/-- The instant of a value: the recorded one if the same value was recorded. -/
def sinceOr [DecidableEq γ] (previous : Option (γ × τ)) (v : γ) (ts : τ) : τ :=
  match previous with
  | some (w, since) => if w = v then since else ts
  | none => ts

/-- Record a bulletin. -/
def Dated.carry [DecidableEq γ] (d : Dated κ γ τ) (x : Bulletin κ γ τ) : Dated κ γ τ := fun k =>
  (x.shows k).map fun v => (v, sinceOr (d k) v x.ts)

/-- What the latest bulletin shows under a key. -/
def latest (xs : List (Bulletin κ γ τ)) (k : κ) : Option γ := xs.getLast?.bind fun x => x.shows k

@[simp] theorem latest_append (xs : List (Bulletin κ γ τ)) (x : Bulletin κ γ τ) (k : κ) :
    latest (xs ++ [x]) k = x.shows k := by
  rw [latest, List.getLast?_append]
  rfl

/-- The record of some bulletins is right. -/
structure Kept (xs : List (Bulletin κ γ τ)) (d : Dated κ γ τ) : Prop where
  /-- It has the values of the latest bulletin. -/
  values : ∀ k, (d k).map Prod.fst = latest xs k
  /-- A value has the instant of the first bulletin of the current run that shows it. -/
  since : ∀ k v s, d k = some (v, s) →
    ∃ start, Uninterrupted (fun x => x.shows k = some v) xs start ∧ s = start.ts

theorem kept_nil : Kept [] (fun _ => none : Dated κ γ τ) where
  values _ := rfl
  since _ _ _ h := by cases h

section Kept

variable {xs : List (Bulletin κ γ τ)} {d : Dated κ γ τ}

/-- A value that is not recorded starts a run. -/
theorem Kept.fresh (h : Kept xs d) {k : κ} {v : γ} (hd : (d k).map Prod.fst ≠ some v)
    {x : Bulletin κ γ τ} (hx : x.shows k = some v) :
    Uninterrupted (fun x => x.shows k = some v) (xs ++ [x]) x := by
  refine Uninterrupted.fresh (fun y hy hshows => hd ?_) hx
  rw [h.values k, latest, hy]
  exact hshows

/-- **Recording a bulletin keeps the record right.** -/
theorem Kept.carry [DecidableEq γ] (h : Kept xs d) (x : Bulletin κ γ τ) :
    Kept (xs ++ [x]) (d.carry x) where
  values k := by
    rw [latest_append, Dated.carry, Option.map_map]
    exact Option.map_id'
  since k v s hrecorded := by
    obtain ⟨w, hshows, heq⟩ := Option.map_eq_some_iff.1 hrecorded
    obtain ⟨rfl, rfl⟩ := Prod.ext_iff.1 heq
    cases hd : d k with
    | none =>
      refine ⟨x, h.fresh ?_ hshows, rfl⟩
      rw [hd]
      exact (Option.some_ne_none w).symm
    | some recorded =>
      by_cases hsame : recorded.1 = w
      · obtain ⟨start, hrun, hstart⟩ := h.since k w recorded.2 (by rw [hd, ← hsame])
        exact ⟨start, hrun.more hshows, (if_pos hsame).trans hstart⟩
      · refine ⟨x, h.fresh ?_ hshows, if_neg hsame⟩
        rw [hd]
        intro hfst
        exact hsame (Option.some.inj hfst)

/-- **The record of every history is right.** -/
theorem kept_foldl [DecidableEq γ] (xs : List (Bulletin κ γ τ)) :
    Kept xs (xs.foldl Dated.carry fun _ => none) := by
  have hrest : ∀ (ys : List (Bulletin κ γ τ)) (zs : List (Bulletin κ γ τ)) (d : Dated κ γ τ),
      Kept zs d → Kept (zs ++ ys) (ys.foldl Dated.carry d) := by
    intro ys
    induction ys with
    | nil =>
      intro zs d h
      rw [List.append_nil]
      exact h
    | cons y ys ih =>
      intro zs d h
      rw [← List.singleton_append, ← List.append_assoc]
      exact ih (zs ++ [y]) (d.carry y) (h.carry y)
  exact hrest xs [] _ kept_nil

end Kept

end Greenhouse.Process
