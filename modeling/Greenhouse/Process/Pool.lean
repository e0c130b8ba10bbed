import Mathlib.Logic.Function.Basic
import Greenhouse.Process.Prog
import Greenhouse.Process.Run

/-!
# Interleavings of programs

A pool is a world with one program for each thread, and the calls each thread has made so
far. A step lets one thread perform its next operation; the runs of `Pool.Step` are all
interleavings.

* `Pool.invariant`: if every thread obeys its protocol, an invariant of the world and the
  protocol states that every permitted operation preserves holds throughout a run.
* `Pool.performed`: a thread that has returned has performed its operations.
* `Pool.run_of_schedule`, `Pool.run_of_scheduleIf`: the run of a list of thread names in a
  deterministic environment.
-/

namespace Greenhouse.Process

/-- A world, with what each thread has left to do and the calls it has made. -/
structure Pool (ι : Type) (Op : Type) (Resp : Op → Type) (α σ : Type) where
  world : σ
  left : ι → Prog Op Resp α
  calls : ι → List (Call Op Resp) := fun _ => []

namespace Pool

variable {ι Op Q α σ : Type} {Resp : Op → Type} [DecidableEq ι]

/-- The pool after thread `i` has made a call. -/
def advance (p : Pool ι Op Resp α σ) (i : ι) (c : Call Op Resp) (rest : Prog Op Resp α)
    (world : σ) : Pool ι Op Resp α σ where
  world := world
  left := Function.update p.left i rest
  calls := Function.update p.calls i (p.calls i ++ [c])

/-- One thread performs its next operation. -/
inductive Step (env : Env Op Resp σ) (p : Pool ι Op Resp α σ) :
    ι × Call Op Resp → Pool ι Op Resp α σ → Prop
  | mk (i : ι) {o : Op} {k : Resp o → Prog Op Resp α} {r : Resp o} {w : σ} :
      p.left i = .op o k → env p.world o r w →
        Step env p (i, ⟨o, r⟩) (p.advance i ⟨o, r⟩ (k r) w)

/-! ## The invariant rule -/

/-- The protocol states of the threads, from the calls they have made. -/
def states (P : ι → Protocol Op Resp Q) (q₀ : ι → Q) (p : Pool ι Op Resp α σ) (i : ι) : Q :=
  (P i).after (q₀ i) (p.calls i)

/-- What every thread has left to do obeys its protocol. -/
def Tracks (P : ι → Protocol Op Resp Q) (q₀ : ι → Q) (post : ι → Q → α → Prop)
    (p : Pool ι Op Resp α σ) : Prop :=
  ∀ i, (p.left i).Obeys (P i) (p.states P q₀ i) (post i)

variable {P : ι → Protocol Op Resp Q} {q₀ : ι → Q} {post : ι → Q → α → Prop}
  {p p' : Pool ι Op Resp α σ} {i : ι} {o : Op} {r : Resp o}

theorem states_advance (p : Pool ι Op Resp α σ) (rest : Prog Op Resp α) (w : σ) :
    (p.advance i ⟨o, r⟩ rest w).states P q₀ =
      Function.update (p.states P q₀) i ((P i).next (p.states P q₀ i) o r) := by
  funext j
  by_cases hj : j = i
  · subst hj
    simp only [states, advance, Function.update_self, Protocol.after_append]
    rfl
  · simp only [states, advance, Function.update_of_ne hj]

theorem Tracks.advance (h : Tracks P q₀ post p) {k : Resp o → Prog Op Resp α} {w : σ}
    (hleft : p.left i = .op o k) (hr : (P i).answers (p.states P q₀ i) o r) :
    Tracks P q₀ post (p.advance i ⟨o, r⟩ (k r) w) := by
  intro j
  rw [states_advance]
  by_cases hj : j = i
  · subst hj
    have hi := h j
    rw [hleft] at hi
    simp only [Pool.advance, Function.update_self]
    exact hi.2 r hr
  · simp only [Pool.advance, Function.update_of_ne hj]
    exact h j

/-- A condition on the steps of a pool: on the pool before it, the thread and its call. -/
abbrev Condition (ι : Type) (Op : Type) (Resp : Op → Type) (α σ : Type) :=
  Pool ι Op Resp α σ → ι → Call Op Resp → Prop

/-- The steps that meet a condition. -/
def StepIf (env : Env Op Resp σ) (C : Condition ι Op Resp α σ) :
    Pool ι Op Resp α σ → ι × Call Op Resp → Pool ι Op Resp α σ → Prop :=
  Meeting (Step env) fun p e => C p e.1 e.2

/-- **The invariant rule.** Every permitted operation gets an expected answer and preserves
the invariant; then every run of threads that obey their protocols preserves it. -/
theorem invariant {env : Env Op Resp σ} {C : Condition ι Op Resp α σ}
    {I : σ → (ι → Q) → Prop} {es : List (ι × Call Op Resp)}
    (hstep : ∀ (p : Pool ι Op Resp α σ) i o r w', I p.world (p.states P q₀) →
      (P i).permits (p.states P q₀ i) o → C p i ⟨o, r⟩ → env p.world o r w' →
        (P i).answers (p.states P q₀ i) o r ∧
        I w' (Function.update (p.states P q₀) i ((P i).next (p.states P q₀ i) o r)))
    (hr : Run (StepIf env C) p es p') (ht : Tracks P q₀ post p)
    (hI : I p.world (p.states P q₀)) :
    Tracks P q₀ post p' ∧ I p'.world (p'.states P q₀) := by
  refine hr.invariant (I := fun p => Tracks P q₀ post p ∧ I p.world (p.states P q₀)) ?_ ⟨ht, hI⟩
  rintro p ⟨i, c⟩ p' ⟨htracks, hI⟩ ⟨⟨i, hleft, henv⟩, hC⟩
  have hobeys := htracks i
  rw [hleft] at hobeys
  obtain ⟨hanswers, hI'⟩ := hstep p i _ _ _ hI hobeys.1 hC henv
  exact ⟨htracks.advance hleft hanswers, by rw [states_advance]; exact hI'⟩

/-! ## The steps of a thread -/

/-- The other threads have what they had left to do. -/
theorem left_advance_of_ne {k : ι} {c : Call Op Resp} {rest : Prog Op Resp α}
    {w : σ} (h : k ≠ i) : (p.advance i c rest w).left k = p.left k :=
  Function.update_of_ne h _ _

/-- **A thread that has returned has performed the operation it was about to perform.** -/
theorem performed {env : Env Op Resp σ} {C : Condition ι Op Resp α σ}
    {es : List (ι × Call Op Resp)} {k : ι} {cont : Resp o → Prog Op Resp α} {a : α}
    (h : Run (StepIf env C) p es p') (hleft : p.left k = .op o cont)
    (hreturned : (p'.left k).returned? = some a) :
    ∃ es₁ r es₂ q q', es = es₁ ++ (k, ⟨o, r⟩) :: es₂ ∧ Run (StepIf env C) p es₁ q ∧
      StepIf env C q (k, ⟨o, r⟩) q' ∧ Run (StepIf env C) q' es₂ p' ∧ q'.left k = cont r := by
  induction h with
  | nil =>
    rw [hleft] at hreturned
    cases hreturned
  | @cons p q p' e es hone hrest ih =>
    obtain ⟨⟨i, hi, henv⟩, hC⟩ := hone
    by_cases hik : i = k
    · subst hik
      rw [hleft] at hi
      cases hi
      refine ⟨[], _, es, p, _, rfl, .nil p, ⟨.mk i hleft henv, hC⟩, hrest, ?_⟩
      exact Function.update_self _ _ _
    · obtain ⟨es₁, r, es₂, t, t', rfl, hbefore, hstep, hafter, hcont⟩ :=
        ih ((left_advance_of_ne (Ne.symm hik)).trans hleft) hreturned
      exact ⟨_ :: es₁, r, es₂, t, t', rfl, .cons ⟨.mk i hi henv, hC⟩ hbefore, hstep, hafter, hcont⟩

/-! ## Schedules -/

/-- Let a thread perform its next operation in a deterministic environment. -/
def step? (serve : σ → (o : Op) → Resp o × σ) (p : Pool ι Op Resp α σ) (i : ι) :
    Option (Call Op Resp × Pool ι Op Resp α σ) :=
  match p.left i with
  | .ret _ => none
  | .op o k =>
    let (r, w) := serve p.world o
    some (⟨o, r⟩, p.advance i ⟨o, r⟩ (k r) w)

/-- The events and the pool after letting some threads perform one operation each. -/
def schedule (serve : σ → (o : Op) → Resp o × σ) :
    List ι → Pool ι Op Resp α σ → Option (List (ι × Call Op Resp) × Pool ι Op Resp α σ)
  | [], p => some ([], p)
  | i :: is, p =>
    match p.step? serve i with
    | none => none
    | some (c, p') => (schedule serve is p').map fun (es, q) => ((i, c) :: es, q)

/-- **A schedule gives a run.** -/
theorem run_of_schedule {env : Env Op Resp σ} {serve : σ → (o : Op) → Resp o × σ}
    (henv : ∀ s o, env s o (serve s o).1 (serve s o).2) {is : List ι} :
    ∀ {p : Pool ι Op Resp α σ} {es : List (ι × Call Op Resp)} {p' : Pool ι Op Resp α σ},
      schedule serve is p = some (es, p') → Run (Step env) p es p' := by
  induction is with
  | nil =>
    rintro p es p' ⟨⟩
    exact .nil _
  | cons i is ih =>
    intro p es p' h
    simp only [schedule, step?] at h
    split at h
    · cases h
    · rename_i c t hstep
      split at hstep
      · cases hstep
      · rename_i o k hleft
        obtain ⟨rfl, rfl⟩ := Prod.mk.inj (Option.some.inj hstep)
        obtain ⟨⟨es', q⟩, hrest, hes⟩ := Option.map_eq_some_iff.1 h
        obtain ⟨rfl, rfl⟩ := Prod.mk.inj hes
        exact .cons (.mk i hleft (henv p.world o)) (ih hrest)

/-- A schedule that stops before the first step that a test refuses. -/
def scheduleIf (serve : σ → (o : Op) → Resp o × σ)
    (test : Pool ι Op Resp α σ → ι → Call Op Resp → Bool) :
    List ι → Pool ι Op Resp α σ → Option (List (ι × Call Op Resp) × Pool ι Op Resp α σ)
  | [], p => some ([], p)
  | i :: is, p =>
    match p.step? serve i with
    | none => none
    | some (c, p') =>
      if test p i c then (scheduleIf serve test is p').map fun r => ((i, c) :: r.1, r.2)
      else none

/-- **A tested schedule gives a run of steps that meet what the test is for.** -/
theorem run_of_scheduleIf {env : Env Op Resp σ} {serve : σ → (o : Op) → Resp o × σ}
    (henv : ∀ s o, env s o (serve s o).1 (serve s o).2)
    {test : Pool ι Op Resp α σ → ι → Call Op Resp → Bool} {C : Condition ι Op Resp α σ}
    (htest : ∀ p i c, test p i c = true → C p i c) {is : List ι} :
    ∀ {p : Pool ι Op Resp α σ} {es : List (ι × Call Op Resp)} {p' : Pool ι Op Resp α σ},
      scheduleIf serve test is p = some (es, p') → Run (StepIf env C) p es p' := by
  induction is with
  | nil =>
    rintro p es p' ⟨⟩
    exact .nil _
  | cons i is ih =>
    intro p es p' h
    simp only [scheduleIf] at h
    split at h
    · cases h
    · rename_i c t hstep
      split at h
      · rename_i hpasses
        obtain ⟨⟨es', q⟩, hrest, hes⟩ := Option.map_eq_some_iff.1 h
        obtain ⟨rfl, rfl⟩ := Prod.mk.inj hes
        have hone : schedule serve [i] p = some ([(i, c)], t) := by
          rw [schedule, hstep]
          rfl
        have hone := run_of_schedule henv hone
        cases hone with
        | cons hone hnil =>
          cases hnil
          exact .cons ⟨hone, htest p i c hpasses⟩ (ih hrest)
      · cases h

end Pool

end Greenhouse.Process
