import Greenhouse.Optimizer.Reference
import Greenhouse.Process.InARow

/-!
# Sustained drift of the twin

A cycle that reads a context it may go on with scores the forecast that the last simulating cycle
retained, and counts the breaches in a row. When the count reaches the limit the twin has
drifted: no setpoints are submitted, and a plan that clears every gate is held under a reason
of its own.

* `scores`: what the cycles of a sequence have scored.
* `Progress.Assesses`: what a cycle may do, as far as the score is concerned.
* `drift_of_run`: **a cycle submits nothing once enough scores in a row were off**, and says so
  exactly when its plan had cleared every other gate.
-/

namespace Greenhouse.Optimizer

open Greenhouse.Process Prog

/-! ## Scores -/

/-- The residual exceeds the threshold. -/
def Breaches (deps : Dependencies) (residual : ℚ) : Prop :=
  deps.settings.divergenceThreshold < residual

instance (deps : Dependencies) : DecidablePred (Breaches deps) := fun _ =>
  inferInstanceAs (Decidable (_ < _))

namespace Progress

/-- The cycle goes on with a context: it was read, and it passes the input gate. -/
def Trusts (deps : Dependencies) (g : String) (p : Progress) (ctx : PlanningContext) : Prop :=
  p.context = some ctx ∧ (evaluateInputGate ctx deps.settings.dataQuality g).trusted = true

/-- The planner's plan clears every gate but the last. -/
def Clears (deps : Dependencies) (p : Progress) (plan : OptimizerPlan) : Prop :=
  ∃ output ctx, p.proposal = some (.proposed output) ∧ output.plan = plan ∧ output.model ≠ "" ∧
    deps.validateOptimizerPlan plan = none ∧ p.context = some ctx ∧
    (evaluateApplication plan ctx.setpoints.bounds deps.settings.confidenceThreshold
      (horizonOf deps ctx)).status = .applied

end Progress

/-- What a cycle scores of a retained forecast; nothing where it goes on with no context, or the
latest observations are outside the forecast. -/
def Completed.score (deps : Dependencies) (g : String) (retained : Option Forecast)
    (c : Completed) : Option ℚ :=
  c.progress.context.bind fun ctx =>
    if (evaluateInputGate ctx deps.settings.dataQuality g).trusted then
      (fidelityResidual (retained.getD []) (latestObservations ctx) ctx.stop
        deps.params).toOption.join
    else none

/-- The forecast that a sequence of cycles leaves retained. -/
def retained (initial : Option Forecast) (cs : List Completed) : Option Forecast :=
  cs.foldl (fun kept c => c.progress.forecast.or kept) initial

/-- The residuals that the cycles of a sequence score, the latest one last. -/
def scores (deps : Dependencies) (g : String) : Option Forecast → List Completed → List ℚ
  | _, [] => []
  | kept, c :: cs =>
    (c.score deps g kept).toList ++ scores deps g (c.progress.forecast.or kept) cs

/-- The last scores, as many as the limit says, are all off; the last one is of this cycle. -/
def Completed.Drifted (deps : Dependencies) (g : String) (kept : Option Forecast)
    (earlier : List ℚ) (c : Completed) : Prop :=
  ∃ r, c.score deps g kept = some r ∧
    EndsWith (Breaches deps) deps.settings.fidelityBreachCycles (earlier ++ [r])

/-- What a cycle says of the drift: it gives the reason exactly when it withholds a cleared plan,
and shows that plan. -/
structure ReportsDrift (deps : Dependencies) (p : Progress) (drifted : Prop)
    (status : OutcomeStatus) (reason : Option ReasonCode) (plan : Option OptimizerPlan) :
    Prop where
  reason_iff : reason = some .twinFidelityFault ↔ drifted ∧ ∃ cleared, p.Clears deps cleared
  withheld : reason = some .twinFidelityFault → status = .held ∧
    ∃ cleared, plan = some cleared ∧ p.Clears deps cleared

/-! ## What a cycle may do -/

namespace Progress

/-- What a cycle scores is the memory as it was before; what it submits has not drifted. -/
def Assesses (deps : Dependencies) (g : String) (p : Progress) : Op → Prop
  | .getPlanningContext _ => p.breaches = none ∧ p.forecast = none
  | .getState g' => g' = g ∧ (p.breaches = none ∨ p.forecast ≠ none)
  | .setBreaches g' n => g' = g ∧ p.forecast = none ∧ ∃ m ctx, p.memory = some m ∧
    p.Trusts deps g ctx ∧ p.breaches = none ∧ scoreFidelity deps m ctx = .ok (some n)
  | .setLastForecast g' _ => g' = g ∧ p.forecast = none ∧ ∃ m ctx, p.memory = some m ∧
    p.Trusts deps g ctx ∧ (scoreFidelity deps m ctx).toOption.join = p.breaches
  | .send _ => p.forecast ≠ none ∧ fidelityFault deps p.breaches = false
  | _ => True

/-- Every score that could be made has been made. -/
def Scored (deps : Dependencies) (g : String) (p : Progress) : Prop :=
  ∀ ctx, p.Trusts deps g ctx → p.forecast = none → ∃ m, p.memory = some m ∧
    (scoreFidelity deps m ctx).toOption.join = p.breaches

/-- The twin has drifted, and a plan clears every other gate. -/
def Withholds (deps : Dependencies) (p : Progress) : Prop :=
  fidelityFault deps p.breaches = true ∧ ∃ cleared, p.Clears deps cleared

/-- A cycle may stop: it has scored what it could, and tells of the drift. -/
structure Stops (deps : Dependencies) (g : String) (p : Progress) (stop : Stop) : Prop where
  scored : p.Scored deps g
  held : ∀ status reason message plan, stop = .held status reason message plan →
    ReportsDrift deps p (fidelityFault deps p.breaches = true) status reason plan
  raised : ∀ raised, stop = .raised raised → ¬ p.Withholds deps

section

variable {deps : Dependencies} {g : String} {p : Progress}

theorem not_withholds_of_proposal (h : ∀ output, p.proposal ≠ some (.proposed output)) :
    ¬ p.Withholds deps := by
  rintro ⟨-, plan, output, ctx, hproposal, -⟩
  exact h output hproposal

theorem not_withholds_of_faithful (h : fidelityFault deps p.breaches = false) :
    ¬ p.Withholds deps :=
  fun hw => Bool.false_ne_true (h.symm.trans hw.1)

theorem reportsDrift_of_not (h : ¬ p.Withholds deps) {status : OutcomeStatus}
    {reason : Option ReasonCode} {plan : Option OptimizerPlan}
    (hreason : reason ≠ some .twinFidelityFault) :
    ReportsDrift deps p (fidelityFault deps p.breaches = true) status reason plan :=
  ⟨iff_of_false hreason h, fun heq => absurd heq hreason⟩

theorem stops_of_raised (hscored : p.Scored deps g) (h : ¬ p.Withholds deps) (raised : Raised) :
    p.Stops deps g (.raised raised) where
  scored := hscored
  held _ _ _ _ heq := by cases heq
  raised _ _ := h

theorem stops_of_held (hscored : p.Scored deps g) (h : ¬ p.Withholds deps)
    {status : OutcomeStatus} {reason : Option ReasonCode} {message : String}
    {plan : Option OptimizerPlan} (hreason : reason ≠ some .twinFidelityFault) :
    p.Stops deps g (.held status reason message plan) where
  scored := hscored
  held _ _ _ _ heq := by
    cases heq
    exact reportsDrift_of_not h hreason
  raised _ heq := by cases heq

/-- With the forecast retained, nothing is left to score. -/
theorem scored_of_forecast (h : p.forecast ≠ none) : p.Scored deps g :=
  fun _ _ hnone => absurd hnone h

end

end Progress

/-- The protocol of the score. -/
def scoring (deps : Dependencies) (g : String) : Protocol Op Resp Progress where
  permits p o := p.Assesses deps g o
  answers _ _ _ := True
  next := Progress.next

/-! ## Other reasons -/

theorem hold_ne {code : ReasonCode} {message : String} (h : code ≠ .twinFidelityFault) :
    (GateOutcome.hold code message).reasonCode ≠ some .twinFidelityFault :=
  fun heq => h (Option.some.inj heq)

/-- The input gate has its own reasons. -/
theorem evaluateInputGate_ne {ctx : PlanningContext} {settings : DataQualitySettings}
    {expected : String} :
    (evaluateInputGate ctx settings expected).reasonCode ≠ some .twinFidelityFault := by
  unfold evaluateInputGate
  cases hfirst : (inputChecks ctx settings expected).findSome? id with
  | none => simp [GateOutcome.ok]
  | some outcome =>
    obtain ⟨check, hcheck, hid⟩ := List.exists_of_findSome?_eq_some hfirst
    rw [id_eq] at hid
    subst hid
    simp only [inputChecks, List.mem_cons, List.not_mem_nil, or_false] at hcheck
    rw [Option.getD_some]
    rcases hcheck with hcheck | hcheck | hcheck | hcheck | hcheck
    · unfold checkIdentity at hcheck
      split at hcheck
      · cases hcheck
        exact hold_ne (by decide)
      · split at hcheck
        · cases hcheck
          exact hold_ne (by decide)
        · obtain ⟨message, -, rfl⟩ := Option.map_eq_some_iff.1 hcheck.symm
          exact hold_ne (by decide)
    · obtain ⟨timeScale, -, hbad⟩ := Option.bind_eq_some_iff.1 hcheck.symm
      split at hbad
      · cases hbad
        exact hold_ne (by decide)
      · cases hbad
    · obtain ⟨key, -, hkey⟩ := List.exists_of_findSome?_eq_some hcheck.symm
      obtain ⟨entry, -, hbad⟩ := Option.bind_eq_some_iff.1 hkey
      split at hbad
      · split at hbad
        · cases hbad
          exact hold_ne (by decide)
        · cases hbad
      · cases hbad
    · obtain ⟨key, -, hkey⟩ := List.exists_of_findSome?_eq_some hcheck.symm
      split at hkey
      · cases hkey
        exact hold_ne (by decide)
      · dsimp only at hkey
        split at hkey
        · cases hkey
          exact hold_ne (by decide)
        · cases hkey
    · unfold checkHealth at hcheck
      split at hcheck
      · cases hcheck
        exact hold_ne (by decide)
      · obtain ⟨check, hmem, hcheck'⟩ := List.exists_of_findSome?_eq_some hcheck.symm
        rw [id_eq] at hcheck'
        subst hcheck'
        simp only [List.mem_cons, List.not_mem_nil, or_false] at hmem
        rcases hmem with hmem | hmem
        · obtain ⟨f, -, rfl⟩ := Option.map_eq_some_iff.1 hmem.symm
          exact hold_ne (by decide)
        · obtain ⟨a, -, rfl⟩ := Option.map_eq_some_iff.1 hmem.symm
          exact hold_ne (by decide)

/-- So has the reading of the context. -/
theorem readContext_ne {g : String}
    {answer : Except RequestFailure (HttpReply (Except String PlanningContext))}
    {code : ReasonCode} {message : String}
    (h : PlatformClient.readContext g answer = .error (.platform code message)) :
    code ≠ .twinFidelityFault := by
  unfold PlatformClient.readContext at h
  split at h
  · cases h
    decide
  · cases h
  · split at h
    · cases h
      decide
    · split at h
      · cases h
        decide
      · split at h
        · cases h
        · cases h
          decide

/-- So has the application gate. -/
theorem evaluateApplication_ne {plan : OptimizerPlan} {bounds : Option Platform.StageBounds}
    {threshold : ℚ} {horizon : Horizon} :
    (evaluateApplication plan bounds threshold horizon).reasonCode ≠ some .twinFidelityFault := by
  unfold evaluateApplication
  split
  · simp
  · dsimp only
    split
    · unfold checkConstraints
      split <;> simp [ConstraintResult.violation, ConstraintResult.passed]
    · split <;> simp

/-- So has the answer to a submission. -/
theorem writeOutcome_ne {g : String} {answer : Except RequestFailure (HttpReply String)}
    {write : PlatformClient.WriteOutcome}
    (h : PlatformClient.writeOutcome g answer = .ok write) :
    write.reasonCode.getD .internalError ≠ .twinFidelityFault := by
  unfold PlatformClient.writeOutcome at h
  split at h
  · cases h
    simp [PlatformClient.WriteOutcome.escalated]
  · cases h
  · repeat' split at h
    all_goals
      cases h
      simp [PlatformClient.WriteOutcome.appliedOk, PlatformClient.WriteOutcome.escalated]

/-! ## The steps of a cycle -/

section

variable {deps : Dependencies} {g : String} {onDemand : Bool} {p : Progress} {frame : CycleFrame}

theorem scoring_ingest (hgreenhouse : frame.greenhouseId = g) (hunread : p.Unread) :
    (ingest deps frame).run.Obeys (scoring deps g) p
      (onResult (fun q ctx => q = { p with active := false, context := some ctx } ∧
          q.Trusts deps g ctx)
        fun q e => q.Stops deps g e.2) := by
  subst hgreenhouse
  have hnot : ∀ context, ¬ ({ p with active := false, context } : Progress).Withholds deps := by
    intro context
    refine Progress.not_withholds_of_proposal fun output => ?_
    simp [hunread.proposal]
  simp only [ingest, obeys_bindE, obeys_perform, onResult_ok]
  refine ⟨trivial, fun _ _ => ⟨⟨hunread.breaches, hunread.forecast⟩, fun answer _ => ?_⟩⟩
  simp only [scoring, Progress.next_getPlanningContext, Progress.next_advanceStage]
  cases hread : PlatformClient.readContext frame.greenhouseId answer with
  | error failure =>
    have hscored : ({ p with active := false, context := none } : Progress).Scored deps
        frame.greenhouseId := by
      rintro ctx ⟨hctx, -⟩
      cases hctx
    cases failure with
    | raised raised => exact Progress.stops_of_raised hscored (hnot _) raised
    | platform reasonCode message =>
      refine Progress.stops_of_held hscored (hnot _) fun heq => readContext_ne hread ?_
      exact Option.some.inj heq
  | ok ctx =>
    simp only [obeys_bindE, obeys_perform, onResult_ok]
    refine ⟨trivial, fun _ _ => ?_⟩
    simp only [Except.toOption]
    split
    · rename_i htrusted
      exact ⟨rfl, rfl, htrusted⟩
    · rename_i huntrusted
      have hscored : ({ p with active := false, context := some ctx } : Progress).Scored deps
          frame.greenhouseId := by
        rintro ctx' ⟨hctx, htrusted⟩
        cases hctx
        exact absurd htrusted huntrusted
      split
      · exact Progress.stops_of_raised hscored (hnot _) _
      · rename_i reasonCode hreason
        refine Progress.stops_of_held hscored (hnot _) fun heq => ?_
        exact evaluateInputGate_ne (hreason.trans heq)

theorem scoring_updateFidelity {ctx : PlanningContext} (hctx : p.Trusts deps g ctx)
    (hgreenhouse : frame.greenhouseId = g) (hbreaches : p.breaches = none)
    (hforecast : p.forecast = none) :
    (updateFidelity deps frame ctx).run.Obeys (scoring deps g) p
      (onResult (fun q fault => ∃ m breaches, q = { p with memory := some m, breaches } ∧
          (scoreFidelity deps m ctx).toOption.join = breaches ∧
          fault = fidelityFault deps breaches)
        fun q e => ∃ m raised, q = { p with memory := some m } ∧ e.2 = .raised raised ∧
          (scoreFidelity deps m ctx).toOption.join = none) := by
  subst hgreenhouse
  simp only [updateFidelity, obeys_bindE, obeys_perform, onResult_ok]
  refine ⟨⟨rfl, .inl hbreaches⟩, fun m _ => ?_⟩
  simp only [scoring, Progress.next_getState]
  cases hscore : scoreFidelity deps m ctx with
  | error text => exact ⟨m, .error text, rfl, rfl, by rw [hscore]; rfl⟩
  | ok breaches =>
    cases breaches with
    | none => exact ⟨m, none, by rw [hbreaches], by rw [hscore]; rfl, rfl⟩
    | some n =>
      simp only [obeys_bindE, obeys_perform, onResult_ok]
      exact ⟨⟨rfl, hforecast, m, ctx, rfl, hctx, hbreaches, hscore⟩,
        fun _ _ => ⟨m, some n, rfl, by rw [hscore]; rfl, rfl⟩⟩

theorem scoring_forecast {ctx : PlanningContext} (hctx : p.Trusts deps g ctx)
    (hgreenhouse : frame.greenhouseId = g) (hbreaches : p.breaches = none)
    (hforecast : p.forecast = none) (hproposal : p.proposal = none) :
    (forecast deps frame ctx).run.Obeys (scoring deps g) p
      (onResult (fun q a => ∃ m breaches,
          q = { p with memory := some m, breaches, forecast := some a.1 } ∧
          a.2 = fidelityFault deps breaches)
        fun q e => q.Stops deps g e.2) := by
  have hnot : ∀ memory breaches forecast,
      ¬ ({ p with memory, breaches, forecast } : Progress).Withholds deps := by
    intro memory breaches forecast
    refine Progress.not_withholds_of_proposal fun output => ?_
    simp [hproposal]
  have hscored : ∀ m breaches, (scoreFidelity deps m ctx).toOption.join = breaches →
      ({ p with memory := some m, breaches } : Progress).Scored deps g := by
    rintro m breaches hscore ctx' ⟨hctx', -⟩ -
    obtain rfl : ctx = ctx' := Option.some.inj (hctx.1.symm.trans hctx')
    exact ⟨m, rfl, hscore⟩
  simp only [forecast, obeys_bindE, obeys_perform, onResult_ok]
  refine ⟨trivial, fun _ _ => ?_⟩
  refine (scoring_updateFidelity hctx hgreenhouse hbreaches hforecast).mono fun q r hr => ?_
  cases r with
  | error e =>
    obtain ⟨m, raised, rfl, hraised, hscore⟩ := hr
    simp only [onResult_error, hraised]
    refine Progress.stops_of_raised ?_ (hnot (some m) p.breaches p.forecast) raised
    exact hscored m p.breaches (hscore.trans hbreaches.symm)
  | ok fault =>
    obtain ⟨m, breaches, rfl, hscore, rfl⟩ := hr
    simp only [onResult_ok]
    cases hresult : deps.simulate ctx frame.horizon.stop with
    | error text =>
      exact Progress.stops_of_raised (hscored m breaches hscore) (hnot _ breaches p.forecast) _
    | ok result =>
      simp only [obeys_bindE, obeys_perform, onResult_ok]
      refine ⟨⟨hgreenhouse, hforecast, m, ctx, rfl, hctx, hscore⟩, fun _ _ => ?_⟩
      simp only [scoring, Progress.next_setLastForecast]
      split
      · refine Progress.stops_of_held ?_ (hnot _ breaches (some result.points)) (by simp)
        exact Progress.scored_of_forecast (by simp)
      · exact ⟨m, breaches, rfl, rfl⟩

theorem scoring_stopIfPaused {post : Progress → Except (CycleFrame × Stop) Unit → Prop}
    (hactive : post { p with active := true } (.ok ()))
    (hpaused : post { p with active := false, paused := true }
      (.error (frame, .held .unchanged none pausedText none))) :
    (stopIfPaused frame).run.Obeys (scoring deps g) p post := by
  simp only [stopIfPaused, obeys_bindE, obeys_perform, onResult_ok]
  refine ⟨trivial, fun active _ => ?_⟩
  cases active with
  | true => simpa [scoring] using hactive
  | false => simpa [scoring] using hpaused

theorem scoring_gatePlanning {ctx : PlanningContext} {points : Forecast}
    (hgreenhouse : frame.greenhouseId = g) (hforecast : p.forecast ≠ none)
    (hproposal : p.proposal = none) :
    (gatePlanning deps frame ctx points onDemand).run.Obeys (scoring deps g) p
      (onResult (fun q _ => ∃ memory, q = { p with memory, active := true })
        fun q e => q.Stops deps g e.2) := by
  have hheld : ∀ memory active paused message,
      ({ p with memory, active, paused } : Progress).Stops deps g
        (.held .unchanged none message none) := by
    intro memory active paused message
    have hscored : ({ p with memory, active, paused } : Progress).Scored deps g :=
      Progress.scored_of_forecast hforecast
    refine Progress.stops_of_held hscored ?_ (Option.some_ne_none _).symm
    refine Progress.not_withholds_of_proposal fun output => ?_
    simp [hproposal]
  simp only [gatePlanning]
  split
  · exact hheld _ _ _ _
  · simp only [obeys_bindE, obeys_perform, onResult_ok]
    refine ⟨trivial, fun _ _ => ?_⟩
    cases onDemand with
    | true =>
      simp only [Bool.not_true, Bool.false_eq_true, if_false]
      exact scoring_stopIfPaused ⟨p.memory, rfl⟩ (hheld _ _ _ _)
    | false =>
      simp only [Bool.not_false, if_true, obeys_bindE, obeys_perform, onResult_ok]
      refine ⟨⟨hgreenhouse, .inr hforecast⟩, fun state _ => ?_⟩
      split
      · exact hheld _ _ _ _
      · exact scoring_stopIfPaused ⟨some state, rfl⟩ (hheld _ _ _ _)

theorem scoring_plan {ctx : PlanningContext} {points : Forecast} (hforecast : p.forecast ≠ none) :
    (plan deps frame ctx points).run.Obeys (scoring deps g) p
      (onResult (fun q a => ∃ output,
          q = { p with active := false, proposal := some (.proposed output) } ∧
          output.plan = a.2 ∧ output.model ≠ "" ∧ deps.validateOptimizerPlan a.2 = none ∧
          a.1.horizon = frame.horizon)
        fun q e => q.Stops deps g e.2) := by
  have hscored : ∀ proposal, ({ p with active := false, proposal } : Progress).Scored deps g :=
    fun _ => Progress.scored_of_forecast hforecast
  simp only [plan, obeys_bindE, obeys_perform, onResult_ok]
  refine ⟨trivial, fun model _ => ⟨trivial, fun answer _ => ?_⟩⟩
  simp only [scoring, Progress.next_propose]
  cases hplanned : planned answer with
  | error stop =>
    have hother : ∀ output, answer ≠ .proposed output := by
      rintro output rfl
      cases hplanned
    have hnot : ¬ ({ p with active := false, proposal := some answer } : Progress).Withholds
        deps :=
      Progress.not_withholds_of_proposal fun output heq => hother output (Option.some.inj heq)
    cases answer with
    | proposed output => cases hplanned
    | other raised =>
      cases hplanned
      exact Progress.stops_of_raised (hscored _) hnot raised
    | _ =>
      cases hplanned
      exact Progress.stops_of_held (hscored _) hnot (by simp)
  | ok output =>
    obtain rfl : answer = .proposed output := by
      cases answer <;> cases hplanned
      rfl
    have hnot : ∀ h : output.model = "" ∨ deps.validateOptimizerPlan output.plan ≠ none,
        ¬ ({ p with active := false, proposal := some (.proposed output) } : Progress).Withholds
          deps := by
      rintro h ⟨-, cleared, output', ctx', hproposal, rfl, hmodel, hvalid, -⟩
      cases hproposal
      exact h.elim hmodel fun hinvalid => hinvalid hvalid
    dsimp only
    split
    · rename_i hmodel
      cases hvalid : deps.validateOptimizerPlan output.plan with
      | some text =>
        refine Progress.stops_of_held (hscored _) (hnot (.inr ?_)) ?_
        · simp [hvalid]
        · simp
      | none => exact ⟨output, rfl, rfl, hmodel, hvalid, rfl⟩
    · rename_i hmodel
      exact Progress.stops_of_raised (hscored _) (hnot (.inl (not_not.1 hmodel))) _

theorem scoring_constrain {ctx : PlanningContext} {output : BackendOutput} {fault : Bool}
    (hforecast : p.forecast ≠ none) (hctx : p.context = some ctx)
    (hhorizon : frame.horizon = Progress.horizonOf deps ctx)
    (hproposal : p.proposal = some (.proposed output)) (hmodel : output.model ≠ "")
    (hvalid : deps.validateOptimizerPlan output.plan = none)
    (hfault : fault = fidelityFault deps p.breaches) :
    (constrain deps frame ctx output.plan fault).run.Obeys (scoring deps g) p
      (onResult (fun q _ => q = p ∧ fidelityFault deps p.breaches = false)
        fun q e => q.Stops deps g e.2) := by
  subst hfault
  have hscored : p.Scored deps g := Progress.scored_of_forecast hforecast
  simp only [constrain, obeys_bindE, obeys_perform, onResult_ok]
  refine ⟨trivial, fun _ _ => ?_⟩
  simp only [scoring, Progress.next_advanceStage]
  split
  · rename_i hstatus
    refine Progress.stops_of_held hscored ?_ evaluateApplication_ne
    rintro ⟨-, cleared, output', ctx', hproposal', rfl, -, -, hctx', happlied⟩
    cases hproposal.symm.trans hproposal'
    obtain rfl : ctx = ctx' := Option.some.inj (hctx.symm.trans hctx')
    exact hstatus (hhorizon ▸ happlied)
  · rename_i hstatus
    have hclears : p.Clears deps output.plan :=
      ⟨output, ctx, hproposal, rfl, hmodel, hvalid, hctx, hhorizon ▸ not_not.1 hstatus⟩
    split
    · rename_i hdrift
      refine ⟨hscored, fun status reason message plan heq => ?_, fun raised heq => ?_⟩
      · cases heq
        exact ⟨iff_of_true rfl ⟨hdrift, output.plan, hclears⟩,
          fun _ => ⟨rfl, output.plan, rfl, hclears⟩⟩
      · cases heq
    · rename_i hdrift
      exact ⟨rfl, Bool.eq_false_iff.2 hdrift⟩

theorem scoring_deliberate (hgreenhouse : frame.greenhouseId = g) (hunread : p.Unread) :
    (deliberate deps frame onDemand).run.Obeys (scoring deps g) p
      (onResult (fun q _ => q.forecast ≠ none ∧ fidelityFault deps q.breaches = false)
        fun q e => q.Stops deps g e.2) := by
  refine (scoring_ingest hgreenhouse hunread).bindE ?_
  rintro q ctx ⟨rfl, htrusts⟩
  have hframe : ({ frame with horizon := Progress.horizonOf deps ctx } :
      CycleFrame).greenhouseId = g := hgreenhouse
  refine (scoring_forecast htrusts hframe hunread.breaches hunread.forecast
    hunread.proposal).bindE ?_
  rintro q ⟨points, fault⟩ ⟨m, breaches, rfl, hfault⟩
  have hproposal : ({ p with
      active := false
      context := some ctx
      memory := some m
      breaches
      forecast := some points } : Progress).proposal = none := hunread.proposal
  refine (scoring_gatePlanning hframe (Option.some_ne_none points) hproposal).bindE ?_
  rintro q - ⟨memory, rfl⟩
  refine (scoring_plan (Option.some_ne_none points)).bindE ?_
  rintro q ⟨frame', plan⟩ ⟨output, rfl, rfl, hmodel, hvalid, hhorizon⟩
  refine (scoring_constrain (Option.some_ne_none points) rfl hhorizon rfl hmodel hvalid
    hfault).bindE ?_
  rintro q - ⟨rfl, hfaithful⟩
  exact ⟨Option.some_ne_none points, hfaithful⟩

/-- What a cycle that ends with a record, or without one, has scored and told. -/
def Progress.Concludes (deps : Dependencies) (g : String) (p : Progress)
    (res : Option PlanRecord) : Prop :=
  p.Scored deps g ∧ ∀ r, res = some r →
    ReportsDrift deps p (fidelityFault deps p.breaches = true) r.outcome.status
      r.outcome.reasonCode r.plan

theorem concludes_of_buildRecord (hscored : p.Scored deps g) {status : OutcomeStatus}
    {reason : Option ReasonCode} {message : String} {plan : Option OptimizerPlan}
    (h : ReportsDrift deps p (fidelityFault deps p.breaches = true) status reason plan)
    {res : Option PlanRecord} (hres : res = buildRecord frame plan status reason message) :
    p.Concludes deps g res := by
  refine ⟨hscored, fun r hr => ?_⟩
  obtain ⟨-, -, -, rfl, rfl, rfl⟩ := of_buildRecord (hres.symm.trans hr)
  exact h

theorem concludes_of_stops {stop : Stop} (h : p.Stops deps g stop) :
    p.Concludes deps g (recordOf deps (.error (frame, stop))) := by
  cases stop with
  | held status reason message plan =>
    exact concludes_of_buildRecord h.scored (h.held _ _ _ _ rfl) rfl
  | raised raised =>
    have hreports : ∀ code : ReasonCode, code ≠ .twinFidelityFault →
        ReportsDrift deps p (fidelityFault deps p.breaches = true) .failed (some code) none :=
      fun code hcode => Progress.reportsDrift_of_not (h.raised raised rfl)
        fun heq => hcode (Option.some.inj heq)
    cases raised with
    | timeout => exact concludes_of_buildRecord h.scored (hreports _ (by decide)) rfl
    | error text => exact concludes_of_buildRecord h.scored (hreports _ (by decide)) rfl

theorem scoring_submitSetpoints {s : Submission} (hforecast : p.forecast ≠ none)
    (hfaithful : fidelityFault deps p.breaches = false)
    {post : Progress → Except Raised PlatformClient.WriteOutcome → Prop}
    (hraised : ∀ active paused sent reply raised,
      post { p with active, paused, sent, reply } (.error raised))
    (hwrite : ∀ active paused sent reply write,
      write.reasonCode.getD .internalError ≠ .twinFidelityFault →
      post { p with active, paused, sent, reply } (.ok write)) :
    (PlatformClient.submitSetpoints s).Obeys (scoring deps g) p post := by
  simp only [PlatformClient.submitSetpoints, obeys_bind, obeys_call]
  refine ⟨trivial, fun headers _ => ?_⟩
  cases headers with
  | error failure =>
    cases failure with
    | token text =>
      exact hwrite false p.paused p.sent p.reply _ (by simp [PlatformClient.WriteOutcome.escalated])
    | other raised => exact hraised false p.paused p.sent p.reply raised
  | ok =>
    simp only [obeys_bind, obeys_call]
    refine ⟨trivial, fun active _ => ?_⟩
    cases active with
    | false => exact hwrite false _ p.sent p.reply _ (by decide)
    | true =>
      simp only [if_true, obeys_bind, obeys_call, obeys_pure]
      refine ⟨⟨hforecast, hfaithful⟩, fun _ _ => ⟨trivial, fun answer _ => ?_⟩⟩
      cases hanswer : PlatformClient.writeOutcome s.greenhouseId answer with
      | error raised => exact hraised false _ (some s) (some answer) raised
      | ok write => exact hwrite false _ (some s) (some answer) write (writeOutcome_ne hanswer)

theorem scoring_commit {decision : CommitDecision} (hforecast : p.forecast ≠ none)
    (hfaithful : fidelityFault deps p.breaches = false) :
    (commit deps frame decision).run.Obeys (scoring deps g) p
      (onResult (fun q r => q.Concludes deps g (some r)) fun q e => q.Stops deps g e.2) := by
  have hscored : ∀ active paused sent reply applied,
      ({ p with active, paused, sent, reply, applied } : Progress).Scored deps g :=
    fun _ _ _ _ _ => Progress.scored_of_forecast hforecast
  have hnot : ∀ active paused sent reply applied,
      ¬ ({ p with active, paused, sent, reply, applied } : Progress).Withholds deps :=
    fun _ _ _ _ _ => Progress.not_withholds_of_faithful hfaithful
  simp only [commit, obeys_bindE, obeys_perform, onResult_ok]
  refine ⟨trivial, fun _ _ => scoring_stopIfPaused ?_ ?_⟩
  · simp only [onResult_ok, obeys_lift]
    refine scoring_submitSetpoints hforecast hfaithful ?_ ?_
    · intro active paused sent reply raised
      exact Progress.stops_of_raised (hscored _ _ _ _ p.applied) (hnot _ _ _ _ p.applied) raised
    · intro active paused sent reply write hwrite
      dsimp only
      split
      · exact Progress.stops_of_held (hscored _ _ _ _ p.applied) (hnot _ _ _ _ p.applied)
          (Option.some_ne_none _).symm
      · split
        · simp only [obeys_bindE, obeys_perform, onResult_ok]
          refine ⟨trivial, fun _ _ => ?_⟩
          cases hr : buildRecord frame (some decision.plan) .applied none write.message with
          | none =>
            exact Progress.stops_of_raised (hscored _ _ _ _ (some decision.plan))
              (hnot _ _ _ _ (some decision.plan)) _
          | some r =>
            refine concludes_of_buildRecord (hscored _ _ _ _ (some decision.plan)) ?_ hr.symm
            exact Progress.reportsDrift_of_not (hnot _ _ _ _ (some decision.plan))
              (Option.some_ne_none _).symm
        · refine Progress.stops_of_held (hscored _ _ _ _ p.applied) (hnot _ _ _ _ p.applied) ?_
          exact fun heq => hwrite (Option.some.inj heq)
  · exact Progress.stops_of_held (hscored _ _ p.sent p.reply p.applied)
      (hnot _ _ p.sent p.reply p.applied) (Option.some_ne_none _).symm

theorem scoring_settle {r : PlanRecord} {now : Instant} (h : p.Concludes deps g (some r)) :
    (do settle r now; reportEscalation r; return some r : Program (Option PlanRecord)).Obeys
      (scoring deps g) p fun q res => q.Concludes deps g res := by
  have hended : ∀ active records,
      ({ p with active, records } : Progress).Concludes deps g (some r) :=
    fun _ _ => ⟨h.1, fun r' hr' => ⟨(h.2 r' hr').reason_iff, (h.2 r' hr').withheld⟩⟩
  simp only [settle, reportEscalation, obeys_bind, obeys_call]
  refine ⟨trivial, fun _ _ => ?_⟩
  have hnext : (scoring deps g).next p (.record r) () =
      { p with records := p.records ++ [r] } := rfl
  rw [hnext]
  cases r.outcome.status <;> simp [scoring, Progress.Assesses, hended]

theorem scoring_runFrame (hgreenhouse : frame.greenhouseId = g) (hunread : p.Unread) :
    (runFrame deps frame onDemand).Obeys (scoring deps g) p fun q res =>
      q.Concludes deps g res := by
  have hpipeline : (pipeline deps frame onDemand).run.Obeys (scoring deps g) p
      (onResult (fun q r => q.Concludes deps g (some r)) fun q e => q.Stops deps g e.2) := by
    refine (scoring_deliberate hgreenhouse hunread).bindE ?_
    rintro q ⟨frame', decision⟩ ⟨hforecast, hfaithful⟩
    exact scoring_commit hforecast hfaithful
  simp only [runFrame, obeys_bind]
  refine hpipeline.mono fun q result hresult => ?_
  cases result with
  | ok r => exact scoring_settle hresult
  | error e =>
    obtain ⟨frame', stop⟩ := e
    have hconcludes : q.Concludes deps g (recordOf deps (.error (frame', stop))) :=
      concludes_of_stops hresult
    cases hr : recordOf deps (.error (frame', stop)) with
    | none =>
      rw [hr] at hconcludes
      exact hconcludes
    | some r =>
      rw [hr] at hconcludes
      exact scoring_settle hconcludes

/-- A new cycle has scored nothing. -/
theorem scoring_cycleFrame {runId : Option RunId} :
    (cycleFrame deps g runId).Obeys (scoring deps g) { runId := runId } fun q frame =>
      q.Unread ∧ ∀ frame', frame = some frame' → frame'.greenhouseId = g := by
  have hmint : ∀ state : GreenhouseState, (mintRunId runId).Obeys (scoring deps g)
      { runId := runId, memory := some state } fun q _ => q.Unread := by
    intro state
    cases runId with
    | none => exact ⟨trivial, fun id _ => ⟨rfl, rfl, rfl, rfl⟩⟩
    | some id => exact ⟨rfl, rfl, rfl, rfl⟩
  simp only [cycleFrame, obeys_bind, obeys_call]
  refine ⟨trivial, fun moment _ => ⟨⟨rfl, .inl rfl⟩, fun state _ => ?_⟩⟩
  refine (hmint state).mono fun q id hq => ⟨trivial, fun model _ => ?_⟩
  split
  · refine ⟨⟨hq.context, hq.breaches, hq.forecast, hq.proposal⟩, fun frame' hframe' => ?_⟩
    cases hframe'
    rfl
  · exact ⟨⟨hq.context, hq.breaches, hq.forecast, hq.proposal⟩, fun frame' hframe' => by
      cases hframe'⟩

/-- **A cycle scores what it can, and tells of the drift.** -/
theorem scoring_runCycle {runId : Option RunId} :
    (runCycle deps g runId onDemand).Obeys (scoring deps g) { runId := runId }
      fun q res => q.Concludes deps g res := by
  simp only [runCycle, obeys_bind]
  refine scoring_cycleFrame.mono ?_
  rintro q frame ⟨hunread, hframe⟩
  cases frame with
  | none =>
    refine ⟨?_, fun r hr => by cases hr⟩
    rintro ctx ⟨hctx, -⟩
    cases hunread.context.symm.trans hctx
  | some frame => exact scoring_runFrame (hframe frame rfl) hunread

end

/-! ## The memory while a cycle runs -/

/-- What a cycle has made of the retained forecast and of the count. -/
structure KeepsScore (deps : Dependencies) (g : String) (w₀ w : World) (p : Progress) : Prop where
  count : (w.states g).consecutiveFidelityBreaches =
    p.breaches.getD (w₀.states g).consecutiveFidelityBreaches
  forecast : (w.states g).lastForecast = p.forecast.or (w₀.states g).lastForecast
  memory : p.forecast = none → ∀ m, p.memory = some m →
    m.lastForecast = (w₀.states g).lastForecast ∧
    m.consecutiveFidelityBreaches = (w₀.states g).consecutiveFidelityBreaches
  score : p.breaches ≠ none ∨ p.forecast ≠ none → ∃ ctx, p.Trusts deps g ctx ∧
    (scoreFidelity deps (w₀.states g) ctx).toOption.join = p.breaches
  sent : p.sent ≠ none → p.forecast ≠ none ∧ fidelityFault deps p.breaches = false

theorem scoreFidelity_congr {deps : Dependencies} {s t : GreenhouseState} {ctx : PlanningContext}
    (h : s.lastForecast = t.lastForecast ∧
      s.consecutiveFidelityBreaches = t.consecutiveFidelityBreaches) :
    scoreFidelity deps s ctx = scoreFidelity deps t ctx := by
  unfold scoreFidelity
  rw [h.1, h.2]

section

variable {deps : Dependencies} {g : String} {w₀ w u w' : World} {p : Progress} {o : Op}
  {r : Resp o}

/-- The invariant after an operation that is not about the score. -/
theorem KeepsScore.keep (h : KeepsScore deps g w₀ w p) {q : Progress}
    (hlast : (w'.states g).lastForecast = (w.states g).lastForecast)
    (hcount : (w'.states g).consecutiveFidelityBreaches =
      (w.states g).consecutiveFidelityBreaches)
    (hmemory : q.memory = p.memory) (hbreaches : q.breaches = p.breaches)
    (hforecast : q.forecast = p.forecast) (hcontext : q.context = p.context)
    (hsent : q.sent = p.sent) : KeepsScore deps g w₀ w' q where
  count := by rw [hcount, hbreaches, h.count]
  forecast := by rw [hlast, hforecast, h.forecast]
  memory := by
    rw [hforecast, hmemory]
    exact h.memory
  score := by
    simp only [Progress.Trusts, hbreaches, hforecast, hcontext]
    exact h.score
  sent := by
    rw [hsent, hforecast, hbreaches]
    exact h.sent

/-- A step of a cycle. -/
theorem KeepsScore.step (h : KeepsScore deps g w₀ w p) (hpermits : p.Assesses deps g o)
    (he : Effect w o r w') : KeepsScore deps g w₀ w' (p.next o r) := by
  cases o with
  | getState g' =>
    obtain ⟨rfl, rfl⟩ := he
    obtain ⟨rfl, hwhen⟩ := hpermits
    refine ⟨h.count, h.forecast, fun hnone m hm => ?_, h.score, h.sent⟩
    have hbreaches := hwhen.resolve_right fun hne => hne hnone
    cases hm
    rw [h.forecast, h.count, hbreaches, show p.forecast = none from hnone]
    exact ⟨rfl, rfl⟩
  | setBreaches g' n =>
    obtain rfl := he
    obtain ⟨rfl, hforecast, m, ctx, hm, hctx, -, hscore⟩ := hpermits
    rw [scoreFidelity_congr (h.memory hforecast m hm)] at hscore
    refine ⟨?_, ?_, h.memory, fun _ => ⟨ctx, hctx, by rw [hscore]; rfl⟩, fun hsent => ?_⟩
    · simp [World.after, World.modify, Progress.next]
    · simpa [World.after, World.modify, Progress.next] using h.forecast
    · exact absurd hforecast (h.sent hsent).1
  | setLastForecast g' points =>
    obtain rfl := he
    obtain ⟨rfl, hforecast, m, ctx, hm, hctx, hscore⟩ := hpermits
    rw [scoreFidelity_congr (h.memory hforecast m hm)] at hscore
    refine ⟨?_, ?_, fun hnone => ?_, fun _ => ⟨ctx, hctx, hscore⟩, fun hsent => ?_⟩
    · simpa [World.after, World.modify, Progress.next] using h.count
    · simp [World.after, World.modify, Progress.next]
    · cases hnone
    · exact absurd hforecast (h.sent hsent).1
  | getPlanningContext g' =>
    obtain rfl := he
    obtain ⟨hbreaches, hforecast⟩ := hpermits
    refine ⟨h.count, h.forecast, h.memory, fun hwhen => ?_, h.sent⟩
    exact hwhen.elim (absurd hbreaches) (absurd hforecast)
  | send s =>
    obtain rfl := he
    exact ⟨h.count, h.forecast, h.memory, h.score, fun _ => hpermits⟩
  | setApplied g' id plan reference =>
    obtain rfl := he
    refine h.keep ?_ ?_ rfl rfl rfl rfl rfl
    all_goals
      simp only [World.after, World.modify, Function.update_apply]
      split
      · rename_i heq
        rw [heq]
      · rfl
  | receive id =>
    cases r with
    | error failure =>
      obtain rfl := he
      exact h.keep rfl rfl rfl rfl rfl rfl rfl
    | ok reply =>
      obtain ⟨-, rfl⟩ := he
      exact h.keep rfl rfl rfl rfl rfl rfl rfl
  | _ =>
    first
      | obtain rfl := he
        exact h.keep rfl rfl rfl rfl rfl rfl rfl
      | obtain ⟨-, rfl⟩ := he
        exact h.keep rfl rfl rfl rfl rfl rfl rfl

/-- The same, when others used an await. -/
theorem KeepsScore.shared (h : KeepsScore deps g w₀ w p) (hpermits : p.Assesses deps g o)
    (he : Sharing (Elsewhere g) w o r w') : KeepsScore deps g w₀ w' (p.next o r) := by
  obtain ⟨u, hmeanwhile, he⟩ := he
  split at hmeanwhile
  · have hstates : u.states g = w.states g := hmeanwhile
    have hu : KeepsScore deps g w₀ u p := h.keep (by rw [hstates]) (by rw [hstates]) rfl rfl rfl
      rfl rfl
    exact hu.step hpermits he
  · subst hmeanwhile
    exact h.step hpermits he

end

/-! ## Over sequences of cycles -/

section

variable {deps : Dependencies} {g : String} {w w' w₀ : World} {c : Completed} {cs : List Completed}

theorem keepsScore_of_step (h : CycleStep deps g w c w') :
    KeepsScore deps g w w' c.progress ∧ c.progress.Concludes deps g c.res := by
  obtain ⟨u, hstates, hexec⟩ := h
  have hstart : u.states g = w.states g := hstates
  have hinit : KeepsScore deps g w u { runId := c.runId } := by
    refine ⟨by rw [hstart]; rfl, by rw [hstart]; rfl, fun _ m hm => ?_, fun hwhen => ?_,
      fun hsent => absurd rfl hsent⟩
    · cases hm
    · exact hwhen.elim (absurd rfl) (absurd rfl)
  obtain ⟨hconcludes, hkeeps⟩ := hexec.invariant (I := KeepsScore deps g w)
    (fun s p o r s' hs hpermits he => ⟨trivial, hs.shared hpermits he⟩) scoring_runCycle hinit
  exact ⟨hkeeps, hconcludes⟩

/-- The count after a score. -/
theorem scoreFidelity_join {s : GreenhouseState} {ctx : PlanningContext} :
    (scoreFidelity deps s ctx).toOption.join =
      (fidelityResidual (s.lastForecast.getD []) (latestObservations ctx) ctx.stop
        deps.params).toOption.join.map
          (oneMore (Breaches deps) s.consecutiveFidelityBreaches) := by
  unfold scoreFidelity
  cases fidelityResidual (s.lastForecast.getD []) (latestObservations ctx) ctx.stop
    deps.params with
  | error text => rfl
  | ok residual => cases residual <;> rfl

/-- **What a cycle counts** is the score of the forecast retained before it. -/
theorem breaches_of_step (h : CycleStep deps g w c w') :
    c.progress.breaches = (c.score deps g (w.states g).lastForecast).map
      (oneMore (Breaches deps) (w.states g).consecutiveFidelityBreaches) := by
  obtain ⟨hkeeps, hscored, -⟩ := keepsScore_of_step h
  have huncounted : (∀ ctx, ¬ c.progress.Trusts deps g ctx) → c.progress.breaches = none := by
    intro hnone
    by_contra hbreaches
    obtain ⟨ctx, hctx, -⟩ := hkeeps.score (.inl hbreaches)
    exact hnone ctx hctx
  unfold Completed.score
  cases hctx : c.progress.context with
  | none =>
    refine huncounted fun ctx htrusts => ?_
    cases hctx.symm.trans htrusts.1
  | some ctx =>
    rw [Option.bind_some]
    split
    · rename_i htrusted
      have htrusts : c.progress.Trusts deps g ctx := ⟨hctx, htrusted⟩
      rw [← scoreFidelity_join]
      by_cases hforecast : c.progress.forecast = none
      · obtain ⟨m, hm, hscore⟩ := hscored ctx htrusts hforecast
        rw [← hscore, scoreFidelity_congr (hkeeps.memory hforecast m hm)]
      · obtain ⟨ctx', hctx', hscore⟩ := hkeeps.score (.inr hforecast)
        obtain rfl : ctx = ctx' := Option.some.inj (hctx.symm.trans hctx'.1)
        exact hscore.symm
    · rename_i huntrusted
      refine huncounted fun ctx' htrusts => ?_
      obtain rfl : ctx = ctx' := Option.some.inj (hctx.symm.trans htrusts.1)
      exact huntrusted htrusts.2

/-- What a cycle makes of the count. -/
theorem count_of_step (h : CycleStep deps g w c w') :
    (w'.states g).consecutiveFidelityBreaches =
      inARow (Breaches deps) (w.states g).consecutiveFidelityBreaches
        (c.score deps g (w.states g).lastForecast).toList := by
  rw [(keepsScore_of_step h).1.count, breaches_of_step h]
  cases c.score deps g (w.states g).lastForecast <;> rfl

/-- The retained forecast and the count after a sequence of cycles. -/
theorem count_of_run (h : Run (CycleStep deps g) w₀ cs w) :
    (w.states g).lastForecast = retained (w₀.states g).lastForecast cs ∧
    (w.states g).consecutiveFidelityBreaches =
      inARow (Breaches deps) (w₀.states g).consecutiveFidelityBreaches
        (scores deps g (w₀.states g).lastForecast cs) := by
  induction h with
  | nil => exact ⟨rfl, rfl⟩
  | cons hone _ ih =>
    have hforecast := (keepsScore_of_step hone).1.forecast
    rw [count_of_step hone, hforecast] at ih
    refine ⟨ih.1, ih.2.trans ?_⟩
    rw [scores, inARow_append]

/-- A cycle has drifted exactly when its count has reached the limit. -/
theorem drifted_iff (hrun : Run (CycleStep deps g) w₀ cs w)
    (hfresh : (w₀.states g).consecutiveFidelityBreaches = 0) (h : CycleStep deps g w c w') :
    fidelityFault deps c.progress.breaches = true ↔
      c.Drifted deps g (retained (w₀.states g).lastForecast cs)
        (scores deps g (w₀.states g).lastForecast cs) := by
  obtain ⟨hlast, hcount⟩ := count_of_run hrun
  rw [hfresh] at hcount
  rw [breaches_of_step h, hlast, Completed.Drifted]
  cases hscore : c.score deps g (retained (w₀.states g).lastForecast cs) with
  | none =>
    refine iff_of_false Bool.false_ne_true ?_
    rintro ⟨r, hr, -⟩
    cases hr
  | some residual =>
    have hfault : fidelityFault deps (some (oneMore (Breaches deps)
        (w.states g).consecutiveFidelityBreaches residual)) = true ↔
          EndsWith (Breaches deps) deps.settings.fidelityBreachCycles
            (scores deps g (w₀.states g).lastForecast cs ++ [residual]) := by
      rw [← le_inARow_iff, inARow_append, ← hcount]
      exact decide_eq_true_iff
    refine hfault.trans ⟨fun hends => ⟨residual, rfl, hends⟩, ?_⟩
    rintro ⟨r, hr, hends⟩
    cases hr
    exact hends

/-- **Sustained drift withholds every plan**, over every sequence of cycles of a greenhouse. When
the last scores, as many as the limit says and the last of them this cycle's own, were all off,
the cycle submits nothing; its record gives the drift as the reason exactly when a plan cleared
every other gate, and then is held and shows that plan. -/
theorem drift_of_run (hrun : Run (CycleStep deps g) w₀ cs w)
    (hfresh : (w₀.states g).consecutiveFidelityBreaches = 0) (h : CycleStep deps g w c w') :
    let drifted := c.Drifted deps g (retained (w₀.states g).lastForecast cs)
      (scores deps g (w₀.states g).lastForecast cs)
    (drifted → c.progress.sent = none) ∧ ∀ r, c.res = some r →
      ReportsDrift deps c.progress drifted r.outcome.status r.outcome.reasonCode r.plan := by
  intro drifted
  have hiff : fidelityFault deps c.progress.breaches = true ↔ drifted :=
    drifted_iff hrun hfresh h
  obtain ⟨hkeeps, -, hreports⟩ := keepsScore_of_step h
  refine ⟨fun hdrifted => ?_, fun r hr => ?_⟩
  · by_contra hsent
    exact Bool.false_ne_true ((hkeeps.sent hsent).2.symm.trans (hiff.2 hdrifted))
  · obtain ⟨hreason, hwithheld⟩ := hreports r hr
    exact ⟨hreason.trans (and_congr_left fun _ => hiff), hwithheld⟩

end

namespace Bench

/-- Two scores in a row that are off are enough. -/
def strict : Dependencies := { deps with settings := { settings with fidelityBreachCycles := 2 } }

/-- It is far warmer than the twin has it. -/
def sweltering : PlanningContext :=
  { context with
    telemetry := [{
      metric := .temperature
      zoneId := none
      buckets := [⟨hours 11, 90, 90, 90, 4⟩]
      slug := slugOrNull_none }] }

/-- The context that the platform serves in that heat, and a request it does not answer. -/
def heat : HttpReply (Except String PlanningContext) := ⟨200, .ok sweltering⟩

def outage : HttpReply (Except String PlanningContext) := ⟨503, .error "unavailable"⟩

/-- The answers of the fleet with that of the platform. -/
def serveContext (reply : HttpReply (Except String PlanningContext)) (w : World) :
    (o : Op) → Option (Resp o × World)
  | .getPlanningContext _ => some (.ok reply, w)
  | o => serve proposed w o

theorem sharing_serveContext (reply : HttpReply (Except String PlanningContext)) (w : World)
    (o : Op) (r : Resp o) (w' : World) (h : serveContext reply w o = some (r, w')) :
    Sharing (Elsewhere "gh-a") w o r w' := by
  have hrefl : ∀ w, Elsewhere "gh-a" w w := fun _ => rfl
  refine sharing_of_effect hrefl ?_
  cases o with
  | getPlanningContext g =>
    cases h
    rfl
  | _ => exact @effect_serve proposed w w' _ r h

/-- A scheduled cycle with that answer of the platform. -/
def hotCycle (reply : HttpReply (Except String PlanningContext)) (runId : RunId) (w : World) :
    Option (Completed × World) :=
  ((runCycle strict "gh-a" (some runId) false).run? (serveContext reply) w).map
    fun (cs, res, w') => (⟨some runId, false, cs, res⟩, w')

theorem step_of_hotCycle {reply : HttpReply (Except String PlanningContext)} {runId : RunId}
    {w w' : World} {c : Completed} (h : hotCycle reply runId w = some (c, w')) :
    CycleStep strict "gh-a" w c w' := by
  obtain ⟨⟨cs, res, t⟩, hrun, heq⟩ := Option.map_eq_some_iff.1 h
  cases heq
  exact ⟨w, rfl, Exec.of_run? (sharing_serveContext reply) hrun⟩

/-- Two cycles in the heat, and one that gets no context. -/
def hotCycles : Option ((Completed × Completed × Completed) × World) := do
  let (a, w) ← hotCycle heat "run-0" world
  let (b, w) ← hotCycle heat "run-1" w
  let (c, w) ← hotCycle outage "run-2" w
  return ((a, b, c), w)

theorem run_of_hotCycles {a b c : Completed} {w : World} (h : hotCycles = some ((a, b, c), w)) :
    Run (CycleStep strict "gh-a") world [a, b, c] w := by
  obtain ⟨⟨a, w₁⟩, ha, h⟩ := Option.bind_eq_some_iff.1 h
  obtain ⟨⟨b, w₂⟩, hb, h⟩ := Option.bind_eq_some_iff.1 h
  obtain ⟨⟨c, w₃⟩, hc, h⟩ := Option.bind_eq_some_iff.1 h
  cases h
  exact .cons (step_of_hotCycle ha) (.cons (step_of_hotCycle hb) (.single (step_of_hotCycle hc)))

end Bench
/-- The first cycle retains its forecast, the second one finds it off and plans on; the third one
scores nothing, and the fourth one withholds its plan. -/
theorem drift_of_run_heat : ∃ a b c w d w' r,
    Run (CycleStep Bench.strict "gh-a") Bench.world [a, b, c] w ∧
    CycleStep Bench.strict "gh-a" w d w' ∧ b.progress.sent ≠ none ∧ c.progress.context = none ∧
    d.progress.sent = none ∧ d.res = some r ∧ r.outcome.status = .held ∧ r.plan ≠ none := by
  have hruns : (Bench.hotCycles.bind fun x =>
      (Bench.hotCycle Bench.heat "run-3" x.2).map fun y =>
        (x.1.2.1.progress.sent.isSome && x.1.2.2.progress.context.isNone) &&
          (fidelityFault Bench.strict y.1.progress.breaches &&
            y.1.res.any fun r => r.outcome.reasonCode = some .twinFidelityFault)) = some true := by
    decide +kernel
  obtain ⟨⟨⟨a, b, c⟩, w⟩, hcycles, hrest⟩ := Option.bind_eq_some_iff.1 hruns
  obtain ⟨⟨d, w'⟩, hd, hend⟩ := Option.map_eq_some_iff.1 hrest
  obtain ⟨hearlier, hlast⟩ := Bool.and_eq_true_iff.1 hend
  obtain ⟨hplanned, hlost⟩ := Bool.and_eq_true_iff.1 hearlier
  obtain ⟨hfault, hreason⟩ := Bool.and_eq_true_iff.1 hlast
  obtain ⟨r, hr, hcode⟩ := (Option.any_eq_true _ _).1 hreason
  have hrun := Bench.run_of_hotCycles hcycles
  have hnext := Bench.step_of_hotCycle hd
  obtain ⟨hsent, hreports⟩ := drift_of_run hrun rfl hnext
  obtain ⟨hheld, plan, hplan, -⟩ := (hreports r hr).withheld (of_decide_eq_true hcode)
  refine ⟨a, b, c, w, d, w', r, hrun, hnext, ?_, Option.isNone_iff_eq_none.1 hlost, ?_, hr, hheld,
    by simp [hplan]⟩
  · exact Option.isSome_iff_ne_none.1 hplanned
  · exact hsent ((drifted_iff hrun rfl hnext).1 hfault)

end Greenhouse.Optimizer
