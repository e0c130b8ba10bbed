import Greenhouse.Optimizer.Records

/-!
# The reference forecast

The change gate compares a forecast with the retained reference, which is to be the forecast of
the last cycle that ran the planner to a decision. It is replaced only when a plan is applied; a
cycle that runs the planner and holds its plan leaves it behind.

* `considered`: the forecast last considered, over a sequence of cycles.
* `Conclusive`: the cycles that do not leave the reference behind.
* `reference_of_run`: over sequences of such cycles the two agree.
-/

namespace Greenhouse.Optimizer

open Greenhouse.Process Prog

/-! ## Sequences of cycles -/

/-- A cycle that has run. -/
structure Completed where
  runId : Option RunId
  onDemand : Bool
  calls : List (Call Op Resp)
  res : Option PlanRecord

namespace Completed

/-- What its calls tell. -/
def progress (c : Completed) : Progress := Progress.ofCalls c.runId c.calls

/-- The planner was run to a decision: the cycle was not failed. -/
def decided (c : Completed) : Bool :=
  c.progress.proposal.isSome && c.res.any fun r => r.outcome.status = .applied
    ∨ r.outcome.status = .held ∨ r.outcome.status = .unchanged

end Completed

/-- The baseline forecast of the last cycle in which the planner was run to a decision. -/
def considered (initial : Option Forecast) (cs : List Completed) : Option Forecast :=
  cs.foldl (fun reference c => if c.decided then c.progress.forecast else reference) initial

/-- Others leave the memory of a greenhouse alone. -/
def Elsewhere (g : String) (w u : World) : Prop := u.states g = w.states g

/-- A cycle of a greenhouse runs some time after the one before. -/
def CycleStep (deps : Dependencies) (g : String) (w : World) (c : Completed) (w' : World) : Prop :=
  ∃ u, Elsewhere g w u ∧
    Exec (Sharing (Elsewhere g)) (runCycle deps g c.runId c.onDemand) u c.calls c.res w'

/-- If the planner is called, it does not answer that nothing is to be changed, its plan clears
the gates, the twin has no sustained drift, the greenhouse stays active, and the platform does
not reject the bounds. -/
structure Conclusive (deps : Dependencies) (g : String) (w : World) (c : Completed) : Prop where
  running : c.progress.proposal ≠ none → c.progress.paused = false
  change : c.progress.proposal ≠ some .noChange
  faithful : c.progress.proposal ≠ none → ∀ ctx, c.progress.context = some ctx → ∀ n,
    scoreFidelity deps (w.states g) ctx = .ok (some n) → fidelityFault deps (some n) = false
  cleared : ∀ output ctx, c.progress.proposal = some (.proposed output) →
    c.progress.context = some ctx → deps.validateOptimizerPlan output.plan = none →
      (evaluateApplication output.plan ctx.setpoints.bounds deps.settings.confidenceThreshold
        (Progress.horizonOf deps ctx)).status = .applied
  inBounds : ∀ body, c.progress.reply ≠ some (.ok ⟨422, body⟩)

/-! ## The memory while a cycle runs -/

/-- What a cycle has made of the memory that it started with. -/
structure Remembers (deps : Dependencies) (g : String) (onDemand : Bool) (w₀ w : World)
    (p : Progress) : Prop where
  untouched : p.forecast = none → p.breaches = none → w.states g = w₀.states g ∧
    ∀ m, p.memory = some m → m = w₀.states g
  breaches : ∀ n, p.breaches = some n → ∃ ctx, p.context = some ctx ∧
    scoreFidelity deps (w₀.states g) ctx = .ok (some n)
  reference : p.applied = none →
    (w.states g).referenceForecast = (w₀.states g).referenceForecast ∧
    ∀ m, p.memory = some m → m.referenceForecast = (w₀.states g).referenceForecast
  applied : p.applied ≠ none → p.proposal ≠ none ∧ (w.states g).referenceForecast = p.forecast
  changed : p.proposal ≠ none → onDemand = false → ∃ baseline, p.forecast = some baseline ∧
    (evaluateStateChange baseline (w₀.states g).referenceForecast
      deps.settings.stateChangeThreshold deps.params).suppressed = false

section

variable {deps : Dependencies} {g : String} {onDemand : Bool} {w₀ w u w' : World} {p : Progress}
  {o : Op} {r : Resp o}

/-- The invariant after an operation that is not about the memory. -/
theorem Remembers.keep (h : Remembers deps g onDemand w₀ w p) {q : Progress}
    (hstates : w'.states g = w.states g) (hmemory : q.memory = p.memory)
    (hbreaches : q.breaches = p.breaches) (hforecast : q.forecast = p.forecast)
    (happlied : q.applied = p.applied) (hproposal : q.proposal = p.proposal)
    (hcontext : ∀ ctx, p.context = some ctx → q.context = some ctx) :
    Remembers deps g onDemand w₀ w' q where
  untouched := by
    rw [hstates, hmemory, hbreaches, hforecast]
    exact h.untouched
  breaches n hn := by
    obtain ⟨ctx, hctx, hscore⟩ := h.breaches n (hbreaches ▸ hn)
    exact ⟨ctx, hcontext ctx hctx, hscore⟩
  reference := by
    rw [hstates, hmemory, happlied]
    exact h.reference
  applied := by
    rw [hstates, hforecast, happlied, hproposal]
    exact h.applied
  changed := by
    rw [hforecast, hproposal]
    exact h.changed

/-- A step of a cycle. -/
theorem Remembers.step (h : Remembers deps g onDemand w₀ w p)
    (hpermits : p.Permits deps g onDemand o) (he : Effect w o r w') :
    Remembers deps g onDemand w₀ w' (p.next o r) := by
  cases o with
  | getState g' =>
    obtain ⟨rfl, rfl⟩ := he
    obtain rfl := hpermits
    refine ⟨fun hforecast hbreaches => ?_, h.breaches, fun happlied => ?_, h.applied, h.changed⟩
    · have hstate := (h.untouched hforecast hbreaches).1
      refine ⟨hstate, fun m hm => ?_⟩
      cases hm
      exact hstate
    · have hreference := (h.reference happlied).1
      refine ⟨hreference, fun m hm => ?_⟩
      cases hm
      exact hreference
  | setBreaches g' n =>
    obtain rfl := he
    obtain ⟨rfl, hbreaches, hforecast, m, ctx, hm, hctx, hscore⟩ := hpermits
    obtain rfl := (h.untouched hforecast hbreaches).2 m hm
    refine ⟨fun _ hnone => ?_, fun n' hn => ?_, fun happlied => ?_, fun happlied => ?_, h.changed⟩
    · cases hnone
    · cases hn
      exact ⟨ctx, hctx, hscore⟩
    · simpa [World.after, World.modify, Progress.next] using h.reference happlied
    · simpa [World.after, World.modify, Progress.next] using h.applied happlied
  | setLastForecast g' points =>
    obtain rfl := he
    obtain ⟨rfl, hp, hnone, -⟩ := hpermits
    refine ⟨fun hforecast => ?_, h.breaches, fun happlied => ?_, fun happlied => ?_,
      fun hproposal => ?_⟩
    · cases hforecast
    · simpa [World.after, World.modify, Progress.next] using h.reference happlied
    · exact absurd hnone happlied
    · exact absurd hp hproposal
  | setApplied g' id plan reference =>
    obtain rfl := he
    obtain ⟨rfl, -, hforecast, hproposal, -⟩ := hpermits
    refine ⟨fun hnone => ?_, h.breaches, fun happlied => ?_, fun _ => ?_, h.changed⟩
    · exact absurd (hforecast.symm.trans hnone) (by simp)
    · cases happlied
    · exact ⟨hproposal, by simp [World.after, World.modify, Progress.next, hforecast]⟩
  | propose ctx baseline horizon model now =>
    obtain rfl := he
    obtain ⟨-, hforecast, -, happlied, hmemory⟩ := hpermits
    refine ⟨h.untouched, h.breaches, h.reference, fun hne => absurd happlied hne,
      fun _ hscheduled => ?_⟩
    obtain ⟨m, hm, hchanged⟩ := hmemory hscheduled
    rw [(h.reference happlied).2 m hm] at hchanged
    exact ⟨baseline, hforecast, hchanged⟩
  | getPlanningContext g' =>
    obtain rfl := he
    refine h.keep rfl rfl rfl rfl rfl rfl fun ctx hctx => ?_
    exact absurd (hpermits.2.symm.trans hctx) (by simp)
  | receive id =>
    cases r with
    | error failure =>
      obtain rfl := he
      exact h.keep rfl rfl rfl rfl rfl rfl fun _ hctx => hctx
    | ok reply =>
      obtain ⟨-, rfl⟩ := he
      exact h.keep rfl rfl rfl rfl rfl rfl fun _ hctx => hctx
  | _ =>
    first
      | exact hpermits.elim
      | obtain rfl := he
        exact h.keep rfl rfl rfl rfl rfl rfl fun _ hctx => hctx
      | obtain ⟨-, rfl⟩ := he
        exact h.keep rfl rfl rfl rfl rfl rfl fun _ hctx => hctx

/-- The same, when others used an await. -/
theorem Remembers.shared (h : Remembers deps g onDemand w₀ w p)
    (hpermits : p.Permits deps g onDemand o) (he : Sharing (Elsewhere g) w o r w') :
    Remembers deps g onDemand w₀ w' (p.next o r) := by
  obtain ⟨u, hmeanwhile, he⟩ := he
  split at hmeanwhile
  · exact (h.keep hmeanwhile rfl rfl rfl rfl rfl fun _ hctx => hctx).step hpermits he
  · subst hmeanwhile
    exact h.step hpermits he

end

/-! ## Over sequences of cycles -/

section

variable {deps : Dependencies} {g : String} {w w' w₀ : World} {c : Completed} {cs : List Completed}

/-- What a completed cycle has made of the memory before it. -/
theorem remembers_of_step (h : CycleStep deps g w c w') :
    Remembers deps g c.onDemand w w' c.progress := by
  obtain ⟨u, hstates, hexec⟩ := h
  have hinit : Remembers deps g c.onDemand w u { runId := c.runId } := by
    refine ⟨fun _ _ => ⟨hstates, fun m hm => ?_⟩, fun n hn => ?_, fun _ => ⟨?_, fun m hm => ?_⟩,
      fun happlied => absurd rfl happlied, fun hproposal => absurd rfl hproposal⟩
    · cases hm
    · cases hn
    · rw [hstates]
    · cases hm
  refine (hexec.invariant (I := Remembers deps g c.onDemand w) ?_ obeys_runCycle hinit).2
  intro s p o r s' hs hpermits he
  exact ⟨trivial, hs.shared hpermits he⟩

/-- Nothing keeps the plan of a conclusive cycle from being applied. -/
theorem Conclusive.decisive (h : Conclusive deps g w c)
    (hr : Remembers deps g c.onDemand w w' c.progress) (hproposal : c.progress.proposal ≠ none) :
    c.progress.Decisive deps where
  running := h.running hproposal
  change := h.change
  faithful := by
    cases hn : c.progress.breaches with
    | none => rfl
    | some n =>
      obtain ⟨ctx, hctx, hscore⟩ := hr.breaches n hn
      exact h.faithful hproposal ctx hctx n hscore
  cleared output houtput hvalid ctx hctx := ⟨ctx, hctx, h.cleared output ctx houtput hctx hvalid⟩
  inBounds := h.inBounds

/-- **A conclusive cycle retains its forecast if it ran the planner to a decision**, and
leaves the reference as it is otherwise. -/
theorem reference_of_step (h : CycleStep deps g w c w') (hc : Conclusive deps g w c) :
    (w'.states g).referenceForecast =
      if c.decided then c.progress.forecast else (w.states g).referenceForecast := by
  have hr := remembers_of_step h
  obtain ⟨u, -, hexec⟩ := h
  have hended : c.progress.Ended deps g c.res := (ended_of_exec hexec).1
  cases hres : c.res with
  | none =>
    rw [hres] at hended
    have hundecided : c.decided = false := by simp [Completed.decided, hres]
    rw [hundecided]
    exact (hr.reference hended.2).1
  | some r =>
    rw [hres] at hended
    obtain ⟨-, -, -, hagrees⟩ := hended
    by_cases happlied : r.outcome.status = .applied
    · obtain ⟨plan, -, hplan, -⟩ := hagrees.applied happlied
      obtain ⟨hproposal, hreference⟩ := hr.applied (by simp [hplan])
      have hdecided : c.decided = true := by
        simp [Completed.decided, hres, happlied, Option.isSome_iff_ne_none, hproposal]
      rw [hdecided]
      exact hreference
    · have hundecided : c.decided = false := by
        rw [Bool.eq_false_iff]
        intro hdecided
        simp only [Completed.decided, hres, Bool.and_eq_true, Option.any_some,
          Option.isSome_iff_ne_none, decide_eq_true_eq, happlied, false_or] at hdecided
        exact hagrees.excuse hdecided.1 hdecided.2 (hc.decisive hr hdecided.1)
      rw [hundecided]
      exact (hr.reference (hagrees.unapplied happlied).1).1

/-- A scheduled cycle does not call the planner if its forecast agrees with the reference. -/
theorem suppressed_of_step (h : CycleStep deps g w c w') (hscheduled : c.onDemand = false)
    {baseline reference : Forecast} (hbaseline : c.progress.forecast = some baseline)
    (hreference : (w.states g).referenceForecast = some reference)
    (hagree : Agree baseline reference) (hcomp : Comparable baseline reference deps.params)
    (hthreshold : 0 < deps.settings.stateChangeThreshold) : c.progress.proposal = none := by
  by_contra hproposal
  obtain ⟨points, hpoints, hchanged⟩ := (remembers_of_step h).changed hproposal hscheduled
  obtain rfl : baseline = points := Option.some.inj (hbaseline.symm.trans hpoints)
  rw [hreference, suppressed_of_agree hagree hcomp hthreshold] at hchanged
  cases hchanged

/-- **The change gate compares against what was last considered**, over every sequence of
conclusive cycles; a scheduled cycle whose forecast agrees with that is suppressed. -/
theorem reference_of_run (h : Run (Meeting (CycleStep deps g) (Conclusive deps g)) w₀ cs w) :
    (w.states g).referenceForecast = considered (w₀.states g).referenceForecast cs ∧
    ∀ c w', CycleStep deps g w c w' → c.onDemand = false → ∀ baseline reference,
      c.progress.forecast = some baseline →
      considered (w₀.states g).referenceForecast cs = some reference →
      Agree baseline reference → Comparable baseline reference deps.params →
      0 < deps.settings.stateChangeThreshold → c.progress.proposal = none := by
  have hreference : (w.states g).referenceForecast =
      considered (w₀.states g).referenceForecast cs := by
    induction h with
    | nil => rfl
    | cons hone _ ih => rw [ih, reference_of_step hone.1 hone.2, considered, considered,
        List.foldl_cons]
  refine ⟨hreference, fun c w' hstep hscheduled baseline reference hbaseline hconsidered => ?_⟩
  exact suppressed_of_step hstep hscheduled hbaseline (hreference.trans hconsidered)

end

namespace Bench

/-- A planner that is not confident of its plan. -/
def hesitant : Proposal :=
  .proposed ⟨{ plan warmer with
    confidence := 1 / 2
    confidence_range := by constructor <;> norm_num }, .ollama, "qwen2.5:7b", .primary⟩

/-- The baseline of every cycle. -/
def baseline : Forecast := steady (hours 12) (hours 24)

theorem agree_baseline : Agree baseline baseline := by
  have hall : (shared baseline baseline).all (fun p => ∀ i, p.1 i = p.2 i) = true := by
    decide +kernel
  intro p hp
  funext i
  exact of_decide_eq_true (List.all_eq_true.1 hall p hp) i

theorem comparable_baseline : Comparable baseline baseline deps.params :=
  ⟨by decide +kernel, 0, by decide +kernel⟩

/-- A scheduled cycle with a given run id, up to its end. -/
def scheduledCycle (answer : Proposal) (runId : RunId) (w : World) : Option (Completed × World) :=
  ((runCycle deps "gh-a" (some runId) false).run? (serve answer) w).map fun (cs, res, w') =>
    (⟨some runId, false, cs, res⟩, w')

theorem step_of_scheduledCycle {answer : Proposal} {runId : RunId} {w w' : World} {c : Completed}
    (h : scheduledCycle answer runId w = some (c, w')) :
    CycleStep deps "gh-a" w c w' ∧ c.onDemand = false := by
  obtain ⟨⟨cs, res, t⟩, hrun, heq⟩ := Option.map_eq_some_iff.1 h
  cases heq
  have hrefl : ∀ w, Elsewhere "gh-a" w w := fun _ => rfl
  exact ⟨⟨w, rfl, Exec.of_run? (sharing_serve hrefl) hrun⟩, rfl⟩

/-- The planner's plan clears the gates, and nothing comes in between. -/
def cleared (w : World) (c : Completed) : Bool :=
  match c.progress.proposal, c.progress.context with
  | some (.proposed output), some ctx =>
    (evaluateApplication output.plan ctx.setpoints.bounds deps.settings.confidenceThreshold
      (Progress.horizonOf deps ctx)).status = .applied &&
    !c.progress.paused &&
    (match scoreFidelity deps (w.states "gh-a") ctx with
      | .ok (some n) => !fidelityFault deps (some n)
      | _ => true) &&
    (match c.progress.reply with
      | some (.ok reply) => reply.status ≠ 422
      | _ => true)
  | _, _ => false

theorem conclusive_of_cleared {w : World} {c : Completed} (h : cleared w c = true) :
    Conclusive deps "gh-a" w c := by
  unfold cleared at h
  split at h
  · rename_i output ctx hproposal hctx
    simp only [Bool.and_eq_true, decide_eq_true_eq, Bool.not_eq_true'] at h
    obtain ⟨⟨⟨happlied, hpaused⟩, hfault⟩, hreply⟩ := h
    refine ⟨fun _ => hpaused, ?_, fun _ ctx' hctx' n hn => ?_, fun output' ctx' ho hctx' _ => ?_,
      fun body hbody => ?_⟩
    · simp [hproposal]
    · cases hctx.symm.trans hctx'
      simpa [hn] using hfault
    · cases hctx.symm.trans hctx'
      cases hproposal.symm.trans ho
      exact happlied
    · simp [hbody] at hreply
  · cases h

end Bench

/-- A plan is held for its low confidence, and the reference is not replaced: the next cycle, with
the same forecast, calls the planner again. -/
theorem forgotten_forecast : ∃ c d w w', CycleStep Bench.deps "gh-a" Bench.world c w ∧
    CycleStep Bench.deps "gh-a" w d w' ∧ (w.states "gh-a").referenceForecast ≠
      considered (Bench.world.states "gh-a").referenceForecast [c] ∧
    d.onDemand = false ∧ d.progress.proposal ≠ none ∧
    d.progress.forecast = considered (Bench.world.states "gh-a").referenceForecast [c] := by
  have hruns : ((Bench.scheduledCycle Bench.hesitant "run-0" Bench.world).bind fun x =>
      (Bench.scheduledCycle Bench.hesitant "run-1" x.2).map fun y =>
        decide ((x.2.states "gh-a").referenceForecast ≠ considered none [x.1] ∧
          y.1.progress.forecast = considered none [x.1] ∧
            y.1.progress.proposal.isSome = true)) = some true := by decide +kernel
  obtain ⟨⟨c, w⟩, hc, hrest⟩ := Option.bind_eq_some_iff.1 hruns
  obtain ⟨⟨d, w'⟩, hd, hend⟩ := Option.map_eq_some_iff.1 hrest
  obtain ⟨hreference, hforecast, hproposal⟩ := of_decide_eq_true hend
  obtain ⟨hfirst, -⟩ := Bench.step_of_scheduledCycle hc
  obtain ⟨hsecond, hscheduled⟩ := Bench.step_of_scheduledCycle hd
  exact ⟨c, d, w, w', hfirst, hsecond, hreference, hscheduled,
    Option.isSome_iff_ne_none.1 hproposal, hforecast⟩

/-- A plan is applied, and the next cycle, with the same forecast, is suppressed. -/
theorem reference_of_run_applied : ∃ c w d w',
    Run (Meeting (CycleStep Bench.deps "gh-a") (Conclusive Bench.deps "gh-a")) Bench.accepting [c]
      w ∧ CycleStep Bench.deps "gh-a" w d w' ∧
    (w.states "gh-a").referenceForecast =
      considered (Bench.accepting.states "gh-a").referenceForecast [c] ∧
    considered none [c] = some Bench.baseline ∧ d.progress.proposal = none := by
  have hruns : ((Bench.scheduledCycle Bench.proposed "run-0" Bench.accepting).bind fun x =>
      (Bench.scheduledCycle Bench.proposed "run-1" x.2).map fun y =>
        decide (Bench.cleared Bench.accepting x.1 = true ∧
          considered none [x.1] = some Bench.baseline ∧
            y.1.progress.forecast = some Bench.baseline)) = some true := by decide +kernel
  obtain ⟨⟨c, w⟩, hc, hrest⟩ := Option.bind_eq_some_iff.1 hruns
  obtain ⟨⟨d, w'⟩, hd, hend⟩ := Option.map_eq_some_iff.1 hrest
  obtain ⟨hcleared, hconsidered, hforecast⟩ := of_decide_eq_true hend
  obtain ⟨hfirst, -⟩ := Bench.step_of_scheduledCycle hc
  obtain ⟨hsecond, hscheduled⟩ := Bench.step_of_scheduledCycle hd
  have hrun : Run (Meeting (CycleStep Bench.deps "gh-a") (Conclusive Bench.deps "gh-a"))
      Bench.accepting [c] w := .single ⟨hfirst, Bench.conclusive_of_cleared hcleared⟩
  obtain ⟨hreference, hsuppressed⟩ := reference_of_run hrun
  refine ⟨c, w, d, w', hrun, hsecond, hreference, hconsidered, ?_⟩
  apply hsuppressed d w' hsecond hscheduled Bench.baseline Bench.baseline
  · exact hforecast
  · exact hconsidered
  · exact Bench.agree_baseline
  · exact Bench.comparable_baseline
  · norm_num [Bench.deps, Bench.settings]

end Greenhouse.Optimizer
