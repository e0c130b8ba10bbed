import Mathlib.Data.List.Basic

/-!
# Runs sampled at intervals

A plant that advances in steps and is observed after every so many of them. A step may fail, or
end the run.

* `Sampled`: the observations of a run, one after every `n` steps.
* `sampled_of_rollout`: what a rollout that is not halted observes is sampled from its run.
* `rollout_total`: a plant that never leaves an invariant in which it can go on rolls out.
* `Rollout.andThen`, `rollout_add`: a longer rollout is a shorter one that goes on.
* `rollout_related`: related plants have the same rollouts.
-/

namespace Greenhouse.Process

variable {σ τ ρ : Type*}

/-! ## Sampled runs -/

/-- Some steps of a relation, counted. -/
inductive Steps (R : σ → σ → Prop) : Nat → σ → σ → Prop where
  | refl (s : σ) : Steps R 0 s s
  | head {n : Nat} {s t u : σ} : R s t → Steps R n t u → Steps R (n + 1) s u

/-- The observations of a run: of its first state, and then after every `n` steps. -/
inductive Sampled (R : σ → σ → Prop) (observe : σ → Option ρ) (n : Nat) : σ → List ρ → Prop where
  | last {s : σ} {p : ρ} : observe s = some p → Sampled R observe n s [p]
  | next {s t : σ} {p : ρ} {ps : List ρ} : observe s = some p → Steps R n s t →
      Sampled R observe n t ps → Sampled R observe n s (p :: ps)

section

variable {R S : σ → σ → Prop} {observe : σ → Option ρ} {n m : Nat} {s t u : σ} {ps : List ρ}

theorem Steps.trans (h : Steps R n s t) (h' : Steps R m t u) : Steps R (n + m) s u := by
  induction h with
  | refl s => rwa [Nat.zero_add]
  | @head k _ _ _ hstep _ ih =>
    rw [Nat.succ_add]
    exact .head hstep (ih h')

/-- What every step keeps holds after some steps. -/
theorem Steps.keeps {I : σ → Prop} (hI : ∀ s t, R s t → I s → I t) (h : Steps R n s t)
    (hs : I s) : I t := by
  induction h with
  | refl s => exact hs
  | head hstep _ ih => exact ih (hI _ _ hstep hs)

/-- The steps of a run that keeps an invariant are steps of any relation they are within it. -/
theorem Steps.mono {I : σ → Prop} (hI : ∀ s t, R s t → I s → I t)
    (hRS : ∀ s t, R s t → I s → S s t) (h : Steps R n s t) (hs : I s) : Steps S n s t := by
  induction h with
  | refl s => exact .refl s
  | head hstep _ ih => exact .head (hRS _ _ hstep hs) (ih (hI _ _ hstep hs))

theorem Sampled.mono {I : σ → Prop} (hI : ∀ s t, R s t → I s → I t)
    (hRS : ∀ s t, R s t → I s → S s t) (h : Sampled R observe n s ps) (hs : I s) :
    Sampled S observe n s ps := by
  induction h with
  | last hp => exact .last hp
  | next hp hsteps _ ih => exact .next hp (hsteps.mono hI hRS hs) (ih (hsteps.keeps hI hs))

/-- Every observation is of a state of the run. -/
theorem Sampled.reached (h : Sampled R observe n s ps) :
    ∀ p ∈ ps, ∃ k t, Steps R k s t ∧ observe t = some p := by
  induction h with
  | @last s p hp =>
    intro q hq
    obtain rfl := List.mem_singleton.1 hq
    exact ⟨0, s, .refl s, hp⟩
  | @next s t p ps hp hsteps _ ih =>
    intro q hq
    rcases List.mem_cons.1 hq with rfl | hq
    · exact ⟨0, s, .refl s, hp⟩
    · obtain ⟨k, u, hk, hu⟩ := ih q hq
      exact ⟨n + k, u, hsteps.trans hk, hu⟩

/-- A relation of a state to every later one orders the observations. -/
theorem Sampled.pairwise {Q : ρ → ρ → Prop}
    (hQ : ∀ k s t, Steps R k s t → ∀ p q, observe s = some p → observe t = some q → Q p q)
    (h : Sampled R observe n s ps) : ps.Pairwise Q := by
  induction h with
  | last => exact List.pairwise_singleton _ _
  | @next s t p ps hp hsteps hrest ih =>
    refine List.pairwise_cons.2 ⟨fun q hq => ?_, ih⟩
    obtain ⟨k, u, hk, hu⟩ := hrest.reached q hq
    exact hQ _ _ _ (hsteps.trans hk) p q hp hu

/-- The observations after the first: each is `n` steps after the one before it. -/
theorem Sampled.getElem? (h : Sampled R observe n s ps) :
    ∀ (i : Nat) (p : ρ), ps[i]? = some p → ∃ t, Steps R (i * n) s t ∧ observe t = some p := by
  induction h with
  | @last s p hp =>
    intro i q hq
    cases i with
    | zero =>
      obtain rfl := Option.some.inj hq
      exact ⟨s, by rw [Nat.zero_mul]; exact .refl s, hp⟩
    | succ i => simp at hq
  | @next s t p ps hp hsteps _ ih =>
    intro i q hq
    cases i with
    | zero =>
      obtain rfl := Option.some.inj hq
      exact ⟨s, by rw [Nat.zero_mul]; exact .refl s, hp⟩
    | succ i =>
      rw [List.getElem?_cons_succ] at hq
      obtain ⟨u, hu, hobs⟩ := ih i q hq
      refine ⟨u, ?_, hobs⟩
      rw [Nat.succ_mul, Nat.add_comm]
      exact hsteps.trans hu

end

/-! ## Rollouts -/

/-- A system that advances in steps; `true` ends the run. -/
structure Plant (σ ρ : Type*) where
  step : σ → Option (σ × Bool)
  observe : σ → Option ρ

/-- How a rollout ended, and what was observed on the way. -/
structure Rollout (σ ρ : Type*) where
  final : σ
  points : List ρ
  halted : Bool

/-- Go on from where a rollout ended, unless it halted. -/
def Rollout.andThen (r : Rollout σ ρ) (next : σ → Option (Rollout σ ρ)) :
    Option (Rollout σ ρ) :=
  if r.halted then some r
  else (next r.final).map fun r' => { r' with points := r.points ++ r'.points }

theorem Rollout.andThen_cons (r : Rollout σ ρ) (next : σ → Option (Rollout σ ρ)) (p : ρ) :
    Rollout.andThen { r with points := p :: r.points } next =
      (r.andThen next).map fun r' => { r' with points := p :: r'.points } := by
  unfold Rollout.andThen
  split
  · rfl
  · rw [Option.map_map]
    rfl

namespace Plant

variable (P : Plant σ ρ) (Q : Plant τ ρ)

/-- Some steps, up to one that ends the run. -/
def advance : Nat → σ → Option (σ × Bool)
  | 0, s => some (s, false)
  | n + 1, s =>
    match P.step s with
    | none => none
    | some (s, true) => some (s, true)
    | some (s, false) => advance n s

/-- Some blocks of `n` steps, with an observation after each. -/
def rollout (n : Nat) : Nat → σ → Option (Rollout σ ρ)
  | 0, s => some ⟨s, [], false⟩
  | k + 1, s =>
    match P.advance n s with
    | none => none
    | some (s, true) => some ⟨s, [], true⟩
    | some (s, false) =>
      match P.observe s with
      | none => none
      | some p => (rollout n k s).map fun r => { r with points := p :: r.points }

/-- A step that does not end the run. -/
def Moves (s t : σ) : Prop := P.step s = some (t, false)

variable {P Q}

theorem steps_of_advance {n : Nat} {s t : σ} (h : P.advance n s = some (t, false)) :
    Steps P.Moves n s t := by
  induction n generalizing s with
  | zero =>
    cases h
    exact .refl _
  | succ n ih =>
    rw [advance] at h
    split at h
    · cases h
    · cases h
    · rename_i hstep
      exact .head hstep (ih h)

/-- **What a rollout observes** is sampled from its run. -/
theorem sampled_of_rollout {n k : Nat} {s : σ} {p : ρ} {r : Rollout σ ρ}
    (hp : P.observe s = some p) (h : P.rollout n k s = some r) (hr : r.halted = false) :
    Sampled P.Moves P.observe n s (p :: r.points) ∧ r.points.length = k := by
  induction k generalizing s p r with
  | zero =>
    cases h
    exact ⟨.last hp, rfl⟩
  | succ k ih =>
    rw [rollout] at h
    split at h
    · cases h
    · cases h
      cases hr
    · rename_i t hadvance
      split at h
      · cases h
      · rename_i q hq
        obtain ⟨r', hr', rfl⟩ := Option.map_eq_some_iff.1 h
        obtain ⟨hsampled, hlength⟩ := ih hq hr' hr
        exact ⟨.next hp (steps_of_advance hadvance) hsampled, congrArg Nat.succ hlength⟩

/-- **A plant rolls out** when it keeps an invariant in which it can go on. -/
theorem rollout_total {I : σ → Prop} (hstep : ∀ s, I s → ∃ t, P.Moves s t ∧ I t)
    (hobserve : ∀ s, I s → ∃ p, P.observe s = some p) (n k : Nat) {s : σ} (hs : I s) :
    ∃ r, P.rollout n k s = some r ∧ r.halted = false := by
  have hadvance : ∀ (n : Nat) (s : σ), I s → ∃ t, P.advance n s = some (t, false) ∧ I t := by
    intro n
    induction n with
    | zero => exact fun s hs => ⟨s, rfl, hs⟩
    | succ n ih =>
      intro s hs
      obtain ⟨t, ht, hIt⟩ := hstep s hs
      obtain ⟨u, hu, hIu⟩ := ih t hIt
      refine ⟨u, ?_, hIu⟩
      rw [advance, show P.step s = some (t, false) from ht]
      exact hu
  induction k generalizing s with
  | zero => exact ⟨_, rfl, rfl⟩
  | succ k ih =>
    obtain ⟨t, ht, hIt⟩ := hadvance n s hs
    obtain ⟨p, hp⟩ := hobserve t hIt
    obtain ⟨r, hr, hhalted⟩ := ih hIt
    refine ⟨{ r with points := p :: r.points }, ?_, hhalted⟩
    rw [rollout, ht]
    dsimp only
    rw [hp]
    dsimp only
    rw [hr, Option.map_some]

/-- A rollout that returns is never halted where the plant cannot end the run. -/
theorem not_halted {I : σ → Prop} (hI : ∀ s t, P.Moves s t → I s → I t)
    (hnever : ∀ s t, I s → P.step s ≠ some (t, true)) {n k : Nat} {s : σ} {r : Rollout σ ρ}
    (h : P.rollout n k s = some r) (hs : I s) : r.halted = false := by
  have hadvance : ∀ (n : Nat) (s t : σ), I s → P.advance n s ≠ some (t, true) := by
    intro n
    induction n with
    | zero =>
      intro s t _ h
      cases h
    | succ n ih =>
      intro s t hs h
      rw [advance] at h
      split at h
      · cases h
      · rename_i hstep
        exact hnever s _ hs hstep
      · rename_i hstep
        exact ih _ t (hI _ _ hstep hs) h
  induction k generalizing s r with
  | zero =>
    cases h
    rfl
  | succ k ih =>
    rw [rollout] at h
    split at h
    · cases h
    · rename_i hend
      exact absurd hend (hadvance n s _ hs)
    · rename_i t ht
      split at h
      · cases h
      · obtain ⟨r', hr', rfl⟩ := Option.map_eq_some_iff.1 h
        exact @ih t r' hr' ((steps_of_advance ht).keeps hI hs)

/-! ## Longer rollouts -/

section

variable {n j k : Nat} {s : σ} {r : Rollout σ ρ}

/-- **A longer rollout is a shorter one that goes on.** -/
theorem rollout_add : P.rollout n (j + k) s =
    (P.rollout n j s).bind fun r => r.andThen (P.rollout n k) := by
  induction j generalizing s with
  | zero =>
    rw [Nat.zero_add]
    exact (congrFun Option.map_id _).symm
  | succ j ih =>
    rw [Nat.succ_add, rollout, rollout]
    cases P.advance n s with
    | none => rfl
    | some a =>
      obtain ⟨t, halted⟩ := a
      cases halted with
      | true => rfl
      | false =>
        dsimp only
        cases P.observe t with
        | none => rfl
        | some p =>
          dsimp only
          rw [ih]
          cases P.rollout n j t with
          | none => rfl
          | some r => exact (r.andThen_cons (P.rollout n k) p).symm

/-- A rollout that does not halt ends so many steps later. -/
theorem steps_of_rollout (h : P.rollout n k s = some r) (hr : r.halted = false) :
    Steps P.Moves (k * n) s r.final := by
  induction k generalizing s r with
  | zero =>
    cases h
    rw [Nat.zero_mul]
    exact .refl s
  | succ k ih =>
    rw [rollout] at h
    split at h
    · cases h
    · cases h
      cases hr
    · rename_i t hadvance
      split at h
      · cases h
      · obtain ⟨r', hr', rfl⟩ := Option.map_eq_some_iff.1 h
        rw [Nat.succ_mul, Nat.add_comm]
        exact (steps_of_advance hadvance).trans (@ih t r' hr' hr)

/-- The state that a rollout ends in has been observed. -/
theorem observe_final (h : P.rollout n k s = some r) (hr : r.halted = false) {p : ρ}
    (hp : P.observe s = some p) : ∃ q, P.observe r.final = some q := by
  induction k generalizing s r p with
  | zero =>
    cases h
    exact ⟨p, hp⟩
  | succ k ih =>
    rw [rollout] at h
    split at h
    · cases h
    · cases h
      cases hr
    · split at h
      · cases h
      · rename_i q hq
        obtain ⟨r', hr', rfl⟩ := Option.map_eq_some_iff.1 h
        exact @ih _ r' hr' hr q hq

end

/-! ## Related plants -/

/-- The plants go on in the same way from related states, and look the same there. -/
structure Related (R : σ → τ → Prop) (P : Plant σ ρ) (Q : Plant τ ρ) : Prop where
  step : ∀ s t, R s t →
    Option.Rel (fun a b => R a.1 b.1 ∧ a.2 = b.2) (P.step s) (Q.step t)
  observe : ∀ s t, R s t → P.observe s = Q.observe t

section

variable {R : σ → τ → Prop} {n k : Nat} {s : σ} {t : τ}

theorem Related.advance (h : Related R P Q) (hs : R s t) :
    Option.Rel (fun a b => R a.1 b.1 ∧ a.2 = b.2) (P.advance n s) (Q.advance n t) := by
  induction n generalizing s t with
  | zero => exact .some ⟨hs, rfl⟩
  | succ n ih =>
    have hone := h.step s t hs
    rw [Plant.advance, Plant.advance]
    cases hP : P.step s with
    | none =>
      cases hQ : Q.step t with
      | none => exact .none
      | some b =>
        rw [hP, hQ] at hone
        cases hone
    | some a =>
      cases hQ : Q.step t with
      | none =>
        rw [hP, hQ] at hone
        cases hone
      | some b =>
        rw [hP, hQ] at hone
        obtain ⟨s', halted⟩ := a
        obtain ⟨t', halted'⟩ := b
        obtain ⟨hR, rfl⟩ : R s' t' ∧ halted = halted' := by
          cases hone with
          | some h => exact h
        cases halted with
        | true => exact .some ⟨hR, rfl⟩
        | false => exact ih hR

/-- **Related plants have the same rollouts.** -/
theorem Related.rollout (h : Related R P Q) (hs : R s t) :
    Option.Rel (fun r r' => R r.final r'.final ∧ r.points = r'.points ∧ r.halted = r'.halted)
      (P.rollout n k s) (Q.rollout n k t) := by
  induction k generalizing s t with
  | zero => exact .some ⟨hs, rfl, rfl⟩
  | succ k ih =>
    have hmany := @Related.advance _ _ _ _ _ _ n _ _ h hs
    rw [Plant.rollout, Plant.rollout]
    cases hP : P.advance n s with
    | none =>
      cases hQ : Q.advance n t with
      | none => exact .none
      | some b =>
        rw [hP, hQ] at hmany
        cases hmany
    | some a =>
      cases hQ : Q.advance n t with
      | none =>
        rw [hP, hQ] at hmany
        cases hmany
      | some b =>
        rw [hP, hQ] at hmany
        obtain ⟨s', halted⟩ := a
        obtain ⟨t', halted'⟩ := b
        obtain ⟨hR, rfl⟩ : R s' t' ∧ halted = halted' := by
          cases hmany with
          | some h => exact h
        cases halted with
        | true => exact .some ⟨hR, rfl, rfl⟩
        | false =>
          dsimp only
          rw [h.observe s' t' hR]
          cases Q.observe t' with
          | none => exact .none
          | some p =>
            have hrest := ih hR
            dsimp only
            cases hP' : P.rollout n k s' with
            | none =>
              cases hQ' : Q.rollout n k t' with
              | none => exact .none
              | some r' =>
                rw [hP', hQ'] at hrest
                cases hrest
            | some r =>
              cases hQ' : Q.rollout n k t' with
              | none =>
                rw [hP', hQ'] at hrest
                cases hrest
              | some r' =>
                rw [hP', hQ'] at hrest
                cases hrest with
                | some hr => exact .some ⟨hr.1, congrArg (p :: ·) hr.2.1, hr.2.2⟩

end

end Plant

end Greenhouse.Process
