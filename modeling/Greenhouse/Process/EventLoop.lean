import Greenhouse.Process.Pool

/-!
# Event loops

A pool of tasks that run one at a time: a task whose operation is answered goes on, undisturbed,
to the next operation that it awaits. The world may change by itself while no task runs.

* `Loop.invariant`: an invariant of the world, the protocol states and the running task that
  every permitted operation and every outside event preserves holds throughout a run.
* `Loop.step_cases`: what a step does.
* `Loop.run_of_schedule`: the run of a list of moves in a deterministic world.
-/

namespace Greenhouse.Process

/-- Which operations suspend a task, how the operations are answered, and what happens to the
world from outside. -/
structure Machine (Op : Type) (Resp : Op → Type) (σ ε : Type) where
  awaits : Op → Bool
  env : Env Op Resp σ
  outside : σ → ε → σ → Prop

/-- A pool with the task that is running. -/
structure Loop (ι : Type) (Op : Type) (Resp : Op → Type) (α σ : Type) extends
    Pool ι Op Resp α σ where
  turn : Option ι := none

/-- What happens in a step: an awaited operation is answered, the running task performs an
operation or gives up its turn, or something happens outside. -/
inductive Event (ι : Type) (Op : Type) (Resp : Op → Type) (ε : Type) where
  | resume (i : ι) (c : Call Op Resp)
  | perform (i : ι) (c : Call Op Resp)
  | suspend (i : ι)
  | outside (e : ε)

namespace Loop

variable {ι Op Q α σ ε : Type} {Resp : Op → Type} [DecidableEq ι]

/-- The loop after a task has made a call. -/
def answered (l : Loop ι Op Resp α σ) (i : ι) (c : Call Op Resp) (rest : Prog Op Resp α)
    (world : σ) : Loop ι Op Resp α σ where
  toPool := l.toPool.advance i c rest world
  turn := some i

/-- One step of an event loop. -/
inductive Step (M : Machine Op Resp σ ε) (l : Loop ι Op Resp α σ) :
    Event ι Op Resp ε → Loop ι Op Resp α σ → Prop
  | resume (i : ι) {o : Op} {k : Resp o → Prog Op Resp α} {r : Resp o} {w : σ} :
      l.turn = none → l.left i = .op o k → M.awaits o = true → M.env l.world o r w →
        Step M l (.resume i ⟨o, r⟩) (l.answered i ⟨o, r⟩ (k r) w)
  | perform (i : ι) {o : Op} {k : Resp o → Prog Op Resp α} {r : Resp o} {w : σ} :
      l.turn = some i → l.left i = .op o k → M.awaits o = false → M.env l.world o r w →
        Step M l (.perform i ⟨o, r⟩) (l.answered i ⟨o, r⟩ (k r) w)
  | suspend (i : ι) :
      l.turn = some i → (∀ o k, l.left i = .op o k → M.awaits o = true) →
        Step M l (.suspend i) { l with turn := none }
  | outside (e : ε) {w : σ} :
      l.turn = none → M.outside l.world e w → Step M l (.outside e) { l with world := w }

/-! ## The invariant rule -/

section Invariant

variable {M : Machine Op Resp σ ε} {P : ι → Protocol Op Resp Q} {q₀ : ι → Q}
  {post : ι → Q → α → Prop} {l l' : Loop ι Op Resp α σ}

/-- A condition on the steps of a loop. -/
abbrev Condition (ι : Type) (Op : Type) (Resp : Op → Type) (α σ ε : Type) :=
  Loop ι Op Resp α σ → Event ι Op Resp ε → Prop

/-- A task may give up its turn: it may perform an operation that is awaited, or return. -/
def Yields (M : Machine Op Resp σ ε) (P : ι → Protocol Op Resp Q) (post : ι → Q → α → Prop)
    (q : Q) (i : ι) : Prop :=
  (∃ o, M.awaits o = true ∧ (P i).permits q o) ∨ ∃ a, post i q a

/-- **The invariant rule.** `I` speaks of the world, the protocol states and the running task. -/
theorem invariant {C : Condition ι Op Resp α σ ε} {I : σ → (ι → Q) → Option ι → Prop}
    {es : List (Event ι Op Resp ε)}
    (hresume : ∀ (l : Loop ι Op Resp α σ) i o r w', I l.world (l.states P q₀) none →
      M.awaits o = true → (P i).permits (l.states P q₀ i) o → C l (.resume i ⟨o, r⟩) →
        M.env l.world o r w' → (P i).answers (l.states P q₀ i) o r ∧
        I w' (Function.update (l.states P q₀) i ((P i).next (l.states P q₀ i) o r)) (some i))
    (hperform : ∀ (l : Loop ι Op Resp α σ) i o r w', I l.world (l.states P q₀) (some i) →
      M.awaits o = false → (P i).permits (l.states P q₀ i) o → C l (.perform i ⟨o, r⟩) →
        M.env l.world o r w' → (P i).answers (l.states P q₀ i) o r ∧
        I w' (Function.update (l.states P q₀) i ((P i).next (l.states P q₀ i) o r)) (some i))
    (hsuspend : ∀ w qs i, I w qs (some i) → Yields M P post (qs i) i → I w qs none)
    (houtside : ∀ (l : Loop ι Op Resp α σ) e w', I l.world (l.states P q₀) none →
      C l (.outside e) → M.outside l.world e w' → I w' (l.states P q₀) none)
    (hr : Run (Meeting (Step M) C) l es l') (ht : Pool.Tracks P q₀ post l.toPool)
    (hI : I l.world (l.states P q₀) l.turn) :
    Pool.Tracks P q₀ post l'.toPool ∧ I l'.world (l'.states P q₀) l'.turn := by
  refine hr.invariant (I := fun l => Pool.Tracks P q₀ post l.toPool ∧
    I l.world (l.states P q₀) l.turn) ?_ ⟨ht, hI⟩
  rintro l e l' ⟨htracks, hI⟩ ⟨hstep, hC⟩
  cases hstep with
  | resume i hturn hleft hawaits henv =>
    rw [hturn] at hI
    have hobeys := htracks i
    rw [hleft] at hobeys
    obtain ⟨hanswers, hI'⟩ := hresume l i _ _ _ hI hawaits hobeys.1 hC henv
    refine ⟨htracks.advance hleft hanswers, ?_⟩
    rw [← Pool.states_advance] at hI'
    exact hI'
  | perform i hturn hleft hawaits henv =>
    rw [hturn] at hI
    have hobeys := htracks i
    rw [hleft] at hobeys
    obtain ⟨hanswers, hI'⟩ := hperform l i _ _ _ hI hawaits hobeys.1 hC henv
    refine ⟨htracks.advance hleft hanswers, ?_⟩
    rw [← Pool.states_advance] at hI'
    exact hI'
  | suspend i hturn hwaits =>
    rw [hturn] at hI
    refine ⟨htracks, hsuspend _ _ i hI ?_⟩
    have hobeys := htracks i
    cases hleft : l.left i with
    | ret a =>
      rw [hleft] at hobeys
      exact .inr ⟨a, hobeys⟩
    | op o k =>
      rw [hleft] at hobeys
      exact .inl ⟨o, hwaits o k hleft, hobeys.1⟩
  | outside e hturn hout =>
    rw [hturn] at hI
    refine ⟨htracks, ?_⟩
    show I _ (l.states P q₀) l.turn
    rw [hturn]
    exact houtside l e _ hI hC hout

end Invariant

/-! ## The steps -/

section Steps

variable {M : Machine Op Resp σ ε} {P : ι → Protocol Op Resp Q} {q₀ : ι → Q}
  {post : ι → Q → α → Prop} {l l' : Loop ι Op Resp α σ} {e : Event ι Op Resp ε}

/-- A task makes a call: it is awaited, or performed in the task's turn. -/
def Makes (M : Machine Op Resp σ ε) (e : Event ι Op Resp ε) (i : ι) (c : Call Op Resp) : Prop :=
  (M.awaits c.op = true ∧ e = .resume i c) ∨ (M.awaits c.op = false ∧ e = .perform i c)

/-- **What a step of a loop does**: a task makes a permitted call, a task gives up its turn, or
something happens outside. -/
theorem step_cases (h : Step M l e l') (ht : Pool.Tracks P q₀ post l.toPool) :
    (∃ i o, ∃ r : Resp o, Makes M e i ⟨o, r⟩ ∧ (P i).permits (l.states P q₀ i) o ∧
      M.env l.world o r l'.world ∧
      l'.calls = Function.update l.calls i (l.calls i ++ [⟨o, r⟩]) ∧
      l'.states P q₀ = Function.update (l.states P q₀) i ((P i).next (l.states P q₀ i) o r) ∧
      ((P i).answers (l.states P q₀ i) o r → Pool.Tracks P q₀ post l'.toPool)) ∨
    (l'.toPool = l.toPool ∧ ∃ i, e = .suspend i) ∨
    ∃ x w, e = .outside x ∧ M.outside l.world x w ∧ l' = { l with world := w } := by
  cases h with
  | @resume i o k r w hturn hleft hawaits henv =>
    have hobeys := ht i
    rw [hleft] at hobeys
    refine .inl ⟨i, o, r, .inl ⟨hawaits, rfl⟩, hobeys.1, henv, rfl, Pool.states_advance .., ?_⟩
    exact fun hanswers => ht.advance hleft hanswers
  | @perform i o k r w hturn hleft hawaits henv =>
    have hobeys := ht i
    rw [hleft] at hobeys
    refine .inl ⟨i, o, r, .inr ⟨hawaits, rfl⟩, hobeys.1, henv, rfl, Pool.states_advance .., ?_⟩
    exact fun hanswers => ht.advance hleft hanswers
  | suspend i hturn hwaits => exact .inr (.inl ⟨rfl, i, rfl⟩)
  | outside x hturn hout => exact .inr (.inr ⟨x, _, rfl, hout, rfl⟩)

end Steps

/-! ## Schedules -/

/-- A move of a schedule: a task makes its next step, or something happens outside. -/
inductive Move (ι ε : Type) where
  | task (i : ι)
  | outside (e : ε)

/-- A machine whose answers and outside events are functions. -/
structure Served (Op : Type) (Resp : Op → Type) (σ ε : Type) where
  awaits : Op → Bool
  serve : σ → (o : Op) → Option (Resp o × σ)
  outside : σ → ε → Option σ

/-- The step a move makes, if it can be made. -/
def step? (S : Served Op Resp σ ε) (l : Loop ι Op Resp α σ) :
    Move ι ε → Option (Event ι Op Resp ε × Loop ι Op Resp α σ)
  | .outside e =>
    if l.turn.isNone then (S.outside l.world e).map fun w => (.outside e, { l with world := w })
    else none
  | .task i =>
    match l.turn, l.left i with
    | none, .op o k =>
      if S.awaits o then (S.serve l.world o).map fun (r, w) =>
        (.resume i ⟨o, r⟩, l.answered i ⟨o, r⟩ (k r) w)
      else none
    | none, .ret _ => none
    | some j, .ret _ => if i = j then some (.suspend i, { l with turn := none }) else none
    | some j, .op o k =>
      if i = j then
        if S.awaits o then some (.suspend i, { l with turn := none })
        else (S.serve l.world o).map fun (r, w) =>
          (.perform i ⟨o, r⟩, l.answered i ⟨o, r⟩ (k r) w)
      else none

/-- The events and the loop after some moves that pass a check. -/
def schedule (S : Served Op Resp σ ε) (check : Loop ι Op Resp α σ → Event ι Op Resp ε → Bool) :
    List (Move ι ε) → Loop ι Op Resp α σ →
      Option (List (Event ι Op Resp ε) × Loop ι Op Resp α σ)
  | [], l => some ([], l)
  | m :: ms, l => do
    let (e, l') ← step? S l m
    if check l e then
      let (es, l'') ← schedule S check ms l'
      return (e :: es, l'')
    else none

/-- The machine allows what the functions compute. -/
structure Allows (M : Machine Op Resp σ ε) (S : Served Op Resp σ ε) : Prop where
  awaits : S.awaits = M.awaits
  serve : ∀ w o r w', S.serve w o = some (r, w') → M.env w o r w'
  outside : ∀ w e w', S.outside w e = some w' → M.outside w e w'

variable {M : Machine Op Resp σ ε} {S : Served Op Resp σ ε}

theorem step_of_step? (hM : Allows M S) {l l' : Loop ι Op Resp α σ} {m : Move ι ε}
    {e : Event ι Op Resp ε} (h : step? S l m = some (e, l')) : Step M l e l' := by
  cases m with
  | outside x =>
    simp only [step?] at h
    split at h
    · rename_i hturn
      obtain ⟨w, hw, heq⟩ := Option.map_eq_some_iff.1 h
      obtain ⟨rfl, rfl⟩ := Prod.mk.inj heq
      exact .outside x (Option.isNone_iff_eq_none.1 hturn) (hM.outside _ _ _ hw)
    · cases h
  | task i =>
    cases hturn : l.turn with
    | none =>
      cases hleft : l.left i with
      | ret a => simp [step?, hturn, hleft] at h
      | op o k =>
        simp only [step?, hturn, hleft] at h
        split at h
        · rename_i hawaits
          obtain ⟨⟨r, w⟩, hw, heq⟩ := Option.map_eq_some_iff.1 h
          obtain ⟨rfl, rfl⟩ := Prod.mk.inj heq
          exact .resume i hturn hleft (hM.awaits ▸ hawaits) (hM.serve _ _ _ _ hw)
        · cases h
    | some j =>
      cases hleft : l.left i with
      | ret a =>
        simp only [step?, hturn, hleft] at h
        split at h
        · rename_i hij
          obtain ⟨rfl, rfl⟩ := Prod.mk.inj (Option.some.inj h)
          refine .suspend i (hij ▸ hturn) fun o k hk => ?_
          rw [hleft] at hk
          cases hk
        · cases h
      | op o k =>
        simp only [step?, hturn, hleft] at h
        split at h
        · rename_i hij
          split at h
          · rename_i hawaits
            obtain ⟨rfl, rfl⟩ := Prod.mk.inj (Option.some.inj h)
            refine .suspend i (hij ▸ hturn) fun o' k' hk => ?_
            rw [hleft] at hk
            cases hk
            exact hM.awaits ▸ hawaits
          · rename_i hawaits
            obtain ⟨⟨r, w⟩, hw, heq⟩ := Option.map_eq_some_iff.1 h
            obtain ⟨rfl, rfl⟩ := Prod.mk.inj heq
            exact .perform i (hij ▸ hturn) hleft
              (hM.awaits ▸ Bool.eq_false_iff.2 hawaits) (hM.serve _ _ _ _ hw)
        · cases h

/-- **A schedule gives a run**, whose steps pass the check. -/
theorem run_of_schedule (hM : Allows M S)
    {check : Loop ι Op Resp α σ → Event ι Op Resp ε → Bool} {ms : List (Move ι ε)} :
    ∀ {l l' : Loop ι Op Resp α σ} {es : List (Event ι Op Resp ε)},
      schedule S check ms l = some (es, l') →
        Run (Meeting (Step M) fun l e => check l e = true) l es l' := by
  induction ms with
  | nil =>
    rintro l l' es ⟨⟩
    exact .nil _
  | cons m ms ih =>
    intro l l' es h
    simp only [schedule, Option.bind_eq_bind] at h
    obtain ⟨⟨e, t⟩, hone, h⟩ := Option.bind_eq_some_iff.1 h
    simp only at h
    split at h
    · rename_i hcheck
      obtain ⟨⟨es', t'⟩, hrest, h⟩ := Option.bind_eq_some_iff.1 h
      obtain ⟨rfl, rfl⟩ := Prod.mk.inj (Option.some.inj h)
      exact .cons ⟨step_of_step? hM hone, hcheck⟩ (ih hrest)
    · cases h

end Loop

end Greenhouse.Process
