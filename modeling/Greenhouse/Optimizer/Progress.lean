import Greenhouse.Optimizer.Cycle

/-!
# What a cycle may do

The calls of a cycle tell how far it is. From that it follows what the cycle may do next: a
submission leaves only after the greenhouse was found active with no await since, the memory of
the applied plan is written only after the platform accepted it, and one record is stored, which
agrees with all that came before.

* `Progress.Permits`: the operations permitted.
* `obeys_runCycle`: a cycle performs no other operation.
-/

namespace Greenhouse.Optimizer

open Greenhouse.Process Prog

/-- What the calls of a cycle tell. `active` holds while the greenhouse was found active and
nothing was awaited since. -/
structure Progress where
  runId : Option RunId := none
  active : Bool := false
  paused : Bool := false
  memory : Option GreenhouseState := none
  breaches : Option Nat := none
  context : Option PlanningContext := none
  forecast : Option Forecast := none
  proposal : Option Proposal := none
  sent : Option Submission := none
  reply : Option (Except RequestFailure (HttpReply String)) := none
  applied : Option OptimizerPlan := none
  records : List PlanRecord := []

namespace Progress

/-- The progress after a call. -/
def next (p : Progress) : (o : Op) → Resp o → Progress
  | .uuid4, id => { p with runId := some id }
  | .isGreenhouseActive _, b => { p with active := b, paused := p.paused || !b }
  | .getState _, s => { p with memory := some s }
  | .setBreaches _ n, _ => { p with breaches := some n }
  | .setLastForecast _ points, _ => { p with forecast := some points }
  | .getPlanningContext g, a =>
    { p with active := false, context := (PlatformClient.readContext g a).toOption }
  | .propose .., a => { p with active := false, proposal := some a }
  | .authHeaders, _ => { p with active := false }
  | .send s, _ => { p with sent := some s }
  | .receive _, a => { p with active := false, reply := some a }
  | .setApplied _ _ plan _, _ => { p with applied := some plan }
  | .record r, _ => { p with records := p.records ++ [r] }
  | .reportOutcome _, _ => { p with active := false }
  | _, _ => p

section

variable (p : Progress) {g : String}

@[simp] theorem next_isGreenhouseActive (b : Bool) :
    p.next (.isGreenhouseActive g) b = { p with active := b, paused := p.paused || !b } := rfl

@[simp] theorem next_getState (s : GreenhouseState) :
    p.next (.getState g) s = { p with memory := some s } := rfl

@[simp] theorem next_setBreaches (n : Nat) (a : Unit) :
    p.next (.setBreaches g n) a = { p with breaches := some n } := rfl

@[simp] theorem next_setLastForecast (points : Forecast) (a : Unit) :
    p.next (.setLastForecast g points) a = { p with forecast := some points } := rfl

@[simp] theorem next_getPlanningContext (a : Resp (.getPlanningContext g)) :
    p.next (.getPlanningContext g) a =
      { p with active := false, context := (PlatformClient.readContext g a).toOption } := rfl

@[simp] theorem next_propose {ctx : PlanningContext} {baseline : Forecast} {horizon : Horizon}
    {model : String} {now : Instant} (a : Proposal) :
    p.next (.propose ctx baseline horizon model now) a =
      { p with active := false, proposal := some a } := rfl

@[simp] theorem next_authHeaders (a : Resp .authHeaders) :
    p.next .authHeaders a = { p with active := false } := rfl

@[simp] theorem next_send (s : Submission) (a : Unit) :
    p.next (.send s) a = { p with sent := some s } := rfl

@[simp] theorem next_receive {id : RunId} (a : Except RequestFailure (HttpReply String)) :
    p.next (.receive id) a = { p with active := false, reply := some a } := rfl

@[simp] theorem next_record (r : PlanRecord) (a : Unit) :
    p.next (.record r) a = { p with records := p.records ++ [r] } := rfl

@[simp] theorem next_reportOutcome (r : PlanRecord) (a : Except String Unit) :
    p.next (.reportOutcome r) a = { p with active := false } := rfl

@[simp] theorem next_setLastSuccessful (time : Instant) (a : Unit) :
    p.next (.setLastSuccessful time) a = p := rfl

@[simp] theorem next_advanceStage (stage : CycleStage) (a : Unit) :
    p.next (.advanceStage g stage) a = p := rfl

end

/-- The progress of a cycle with some calls, for a run id reserved up front or none. -/
def ofCalls (runId : Option RunId) (cs : List (Call Op Resp)) : Progress :=
  cs.foldl (fun p c => p.next c.op c.resp) { runId := runId }

/-! ## Gates -/

section

variable (deps : Dependencies) (p : Progress)

/-- The plan clears the constraint gate and the confidence gate, in the context that was read. -/
def Cleared (plan : OptimizerPlan) (horizon : Horizon) : Prop :=
  ∃ ctx, p.context = some ctx ∧ (evaluateApplication plan ctx.setpoints.bounds
    deps.settings.confidenceThreshold horizon).status = .applied

/-- The horizon of a context. -/
def horizonOf (ctx : PlanningContext) : Horizon :=
  chooseHorizon ctx.stop ctx.setpoints.targets.toGlobalSetpoints deps.settings

/-- The platform's answer to a submission is that it accepted it. -/
def Accepted : Except RequestFailure (HttpReply String) → Prop
  | .ok reply => reply.status = 202
  | .error _ => False

/-- Nothing keeps a plan of the planner from being applied, or else the cycle fails. -/
structure Decisive : Prop where
  running : p.paused = false
  change : p.proposal ≠ some .noChange
  faithful : fidelityFault deps p.breaches = false
  cleared : ∀ output, p.proposal = some (.proposed output) →
    deps.validateOptimizerPlan output.plan = none →
      ∀ ctx, p.context = some ctx → p.Cleared deps output.plan (horizonOf deps ctx)
  inBounds : ∀ body, p.reply ≠ some (.ok ⟨422, body⟩)

/-- A record agrees with what came before it. -/
structure Agrees (r : PlanRecord) : Prop where
  applied : r.outcome.status = .applied → ∃ plan, r.plan = some plan ∧ p.applied = some plan ∧
    p.Cleared deps plan r.horizon
  unapplied : r.outcome.status ≠ .applied → p.applied = none ∧
    (p.sent = none ∨ ∃ reply, p.reply = some reply ∧ ¬ Accepted reply)
  excuse : p.proposal ≠ none → r.outcome.status = .held ∨ r.outcome.status = .unchanged →
    ¬ p.Decisive deps

/-- The operations that a cycle of a greenhouse may perform next. -/
def Permits (g : String) (onDemand : Bool) : Op → Prop
  | .now | .model | .authHeaders => True
  | .uuid4 => p.runId = none
  | .getState g' | .isGreenhouseActive g' | .advanceStage g' _ => g' = g
  | .getPlanningContext g' => g' = g ∧ p.context = none
  | .setBreaches g' n => g' = g ∧ p.breaches = none ∧ p.forecast = none ∧ ∃ m ctx,
    p.memory = some m ∧ p.context = some ctx ∧ scoreFidelity deps m ctx = .ok (some n)
  | .setLastForecast g' points => g' = g ∧ p.proposal = none ∧ p.applied = none ∧ ∃ ctx result,
    p.context = some ctx ∧ deps.simulate ctx (horizonOf deps ctx).stop = .ok result ∧
    points = result.points
  | .propose ctx baseline _ _ _ => p.context = some ctx ∧ p.forecast = some baseline ∧
    p.proposal = none ∧ p.applied = none ∧ (onDemand = false → ∃ m, p.memory = some m ∧
      (evaluateStateChange baseline m.referenceForecast deps.settings.stateChangeThreshold
        deps.params).suppressed = false)
  | .send s => p.active = true ∧ s.greenhouseId = g ∧ p.runId = some s.runId ∧
    p.sent = none ∧ p.records = []
  | .receive id => p.runId = some id ∧ p.sent ≠ none ∧ p.reply = none
  | .setApplied g' id _ reference => g' = g ∧ p.runId = some id ∧
    p.forecast = some reference ∧ p.proposal ≠ none ∧ p.records = [] ∧
    ∃ reply, p.reply = some reply ∧ Accepted reply
  | .record r => r.greenhouseId = g ∧ p.runId = some r.optimizerRunId ∧ p.records = [] ∧
    p.Agrees deps r
  | .setLastSuccessful _ | .reportOutcome _ => p.records ≠ []
  | _ => False

end

end Progress

/-- What a cycle may do. -/
def cycleProtocol (deps : Dependencies) (g : String) (onDemand : Bool) :
    Protocol Op Resp Progress where
  permits p o := p.Permits deps g onDemand o
  answers _ _ _ := True
  next := Progress.next

/-! ## The steps of a cycle -/

namespace Progress

/-- The deliberation of a frame has not written anything. -/
structure Deliberating (g : String) (p : Progress) (frame : CycleFrame) : Prop where
  greenhouse : frame.greenhouseId = g
  runId : p.runId = some frame.runId
  unsent : p.sent = none
  unanswered : p.reply = none
  unapplied : p.applied = none
  unrecorded : p.records = []

/-- The cycle has not read its context. -/
structure Unread (p : Progress) : Prop where
  context : p.context = none
  breaches : p.breaches = none
  forecast : p.forecast = none
  proposal : p.proposal = none

/-- A cycle may end with a stop. -/
structure Halted (deps : Dependencies) (g : String) (p : Progress) (frame : CycleFrame)
    (stop : Stop) : Prop where
  greenhouse : frame.greenhouseId = g
  runId : p.runId = some frame.runId
  unapplied : p.applied = none
  unrecorded : p.records = []
  unwritten : p.sent = none ∨ ∃ reply, p.reply = some reply ∧ ¬ Accepted reply
  held : ∀ status reason message plan, stop = .held status reason message plan →
    status ≠ .applied ∧ (status = .held ∨ status = .failed → reason ≠ none) ∧
    (p.proposal ≠ none → status = .held ∨ status = .unchanged → ¬ p.Decisive deps)

section

variable {deps : Dependencies} {g : String} {p : Progress} {frame : CycleFrame}

theorem Deliberating.congr (h : p.Deliberating g frame) {q : Progress}
    (hrunId : q.runId = p.runId) (hsent : q.sent = p.sent) (hreply : q.reply = p.reply)
    (happlied : q.applied = p.applied) (hrecords : q.records = p.records) :
    q.Deliberating g frame :=
  ⟨h.greenhouse, hrunId ▸ h.runId, hsent ▸ h.unsent, hreply ▸ h.unanswered,
    happlied ▸ h.unapplied, hrecords ▸ h.unrecorded⟩

theorem Deliberating.raised (h : p.Deliberating g frame) (raised : Raised) :
    p.Halted deps g frame (.raised raised) where
  greenhouse := h.greenhouse
  runId := h.runId
  unapplied := h.unapplied
  unrecorded := h.unrecorded
  unwritten := .inl h.unsent
  held _ _ _ _ heq := by cases heq

/-- A deliberation may be held for a reason that stands. -/
theorem Deliberating.held (h : p.Deliberating g frame) {status : OutcomeStatus}
    {reason : Option ReasonCode} {message : String} {plan : Option OptimizerPlan}
    (hstatus : status ≠ .applied) (hreason : status = .held ∨ status = .failed → reason ≠ none)
    (hexcuse : p.proposal ≠ none → status = .held ∨ status = .unchanged → ¬ p.Decisive deps) :
    p.Halted deps g frame (.held status reason message plan) where
  greenhouse := h.greenhouse
  runId := h.runId
  unapplied := h.unapplied
  unrecorded := h.unrecorded
  unwritten := .inl h.unsent
  held _ _ _ _ heq := by
    cases heq
    exact ⟨hstatus, hreason, hexcuse⟩

end

end Progress

theorem outcomeStatusForReason_ne_applied (code : ReasonCode) :
    outcomeStatusForReason code ≠ .applied := by
  unfold outcomeStatusForReason
  split <;> decide

section

variable {deps : Dependencies} {g : String} {onDemand : Bool} {p : Progress} {frame : CycleFrame}

theorem obeys_ingest (h : p.Deliberating g frame) (hunread : p.Unread) :
    (ingest deps frame).run.Obeys (cycleProtocol deps g onDemand) p
      (onResult (fun q ctx => q = { p with active := false, context := some ctx } ∧
          ctx.greenhouseId = g)
        fun q e => q.Halted deps g e.1 e.2) := by
  obtain ⟨rfl, hrunId, hsent, hreply, happlied, hrecords⟩ := h
  simp only [ingest, obeys_bindE, obeys_perform, onResult_ok]
  refine ⟨rfl, fun _ _ => ⟨⟨rfl, hunread.context⟩, fun answer _ => ?_⟩⟩
  have hq : ∀ context, ({ p with active := false, context } : Progress).Deliberating
      frame.greenhouseId frame := fun _ => ⟨rfl, hrunId, hsent, hreply, happlied, hrecords⟩
  simp only [cycleProtocol, Progress.next_getPlanningContext]
  cases hread : PlatformClient.readContext frame.greenhouseId answer with
  | error failure =>
    cases failure with
    | raised raised => exact (hq _).raised raised
    | platform reasonCode message =>
      refine (hq _).held (outcomeStatusForReason_ne_applied _) (by simp) fun hproposal => ?_
      exact absurd hunread.proposal hproposal
  | ok ctx =>
    simp only [obeys_bindE, obeys_perform, onResult_ok]
    refine ⟨rfl, fun _ _ => ?_⟩
    simp only [Except.toOption]
    split
    · rename_i htrusted
      exact ⟨rfl, greenhouseId_of_trusted htrusted⟩
    · split
      · exact (hq _).raised _
      · refine (hq _).held (outcomeStatusForReason_ne_applied _) (by simp) fun hproposal => ?_
        exact absurd hunread.proposal hproposal

theorem obeys_updateFidelity (h : p.Deliberating g frame) {ctx : PlanningContext}
    (hctx : p.context = some ctx) (hbreaches : p.breaches = none) (hforecast : p.forecast = none) :
    (updateFidelity deps frame ctx).run.Obeys (cycleProtocol deps g onDemand) p
      (onResult (fun q fault => ∃ memory breaches, q = { p with memory, breaches } ∧
          (fault = true → fidelityFault deps breaches = true))
        fun q e => ∃ memory, q = { p with memory } ∧ ∃ raised, e = (frame, .raised raised)) := by
  obtain ⟨rfl, hrunId, hsent, hreply, happlied, hrecords⟩ := h
  simp only [updateFidelity, obeys_bindE, obeys_perform, onResult_ok]
  refine ⟨rfl, fun state _ => ?_⟩
  simp only [cycleProtocol, Progress.next_getState]
  cases hscore : scoreFidelity deps state ctx with
  | error text => exact ⟨some state, rfl, .error text, rfl⟩
  | ok breaches =>
    cases breaches with
    | none => exact ⟨some state, p.breaches, rfl, fun hfalse => by cases hfalse⟩
    | some breaches =>
      simp only [obeys_bindE, obeys_perform, onResult_ok]
      exact ⟨⟨rfl, hbreaches, hforecast, state, ctx, rfl, hctx, hscore⟩,
        fun _ _ => ⟨some state, some breaches, rfl, fun hfault => hfault⟩⟩

theorem obeys_forecast (h : p.Deliberating g frame) {ctx : PlanningContext}
    (hctx : p.context = some ctx) (hhorizon : frame.horizon = Progress.horizonOf deps ctx)
    (hbreaches : p.breaches = none) (hforecast : p.forecast = none) (hp : p.proposal = none) :
    (forecast deps frame ctx).run.Obeys (cycleProtocol deps g onDemand) p
      (onResult (fun q a => ∃ memory breaches,
          q = { p with memory, breaches, forecast := some a.1 } ∧
          (a.2 = true → fidelityFault deps breaches = true))
        fun q e => q.Halted deps g e.1 e.2) := by
  have hall := h
  obtain ⟨rfl, hrunId, hsent, hreply, happlied, hrecords⟩ := h
  have hq : ∀ memory breaches forecast,
      ({ p with memory, breaches, forecast } : Progress).Deliberating frame.greenhouseId frame :=
    fun _ _ _ => ⟨rfl, hrunId, hsent, hreply, happlied, hrecords⟩
  simp only [forecast, obeys_bindE, obeys_perform, onResult_ok]
  refine ⟨rfl, fun _ _ => ?_⟩
  refine (obeys_updateFidelity hall hctx hbreaches hforecast).mono fun q r hr => ?_
  cases r with
  | error e =>
    obtain ⟨memory, rfl, raised, rfl⟩ := hr
    exact (hq memory p.breaches p.forecast).raised raised
  | ok fault =>
    obtain ⟨memory, breaches, rfl, hfault⟩ := hr
    simp only [onResult_ok]
    cases hresult : deps.simulate ctx frame.horizon.stop with
    | error text => exact (hq memory breaches p.forecast).raised _
    | ok result =>
      simp only [obeys_bindE, obeys_perform, onResult_ok]
      refine ⟨⟨rfl, hp, happlied, ctx, result, hctx, hhorizon ▸ hresult, rfl⟩, fun _ _ => ?_⟩
      simp only [cycleProtocol, Progress.next_setLastForecast]
      split
      · refine (hq memory breaches _).held (by decide) (by simp) fun hproposal => ?_
        exact absurd hp hproposal
      · exact ⟨memory, breaches, rfl, hfault⟩

theorem obeys_stopIfPaused {post : Progress → Except (CycleFrame × Stop) Unit → Prop}
    (hgreenhouse : frame.greenhouseId = g) (hactive : post { p with active := true } (.ok ()))
    (hpaused : post { p with active := false, paused := true }
      (.error (frame, .held .unchanged none pausedText none))) :
    (stopIfPaused frame).run.Obeys (cycleProtocol deps g onDemand) p post := by
  subst hgreenhouse
  simp only [stopIfPaused, obeys_bindE, obeys_perform, onResult_ok]
  refine ⟨rfl, fun active _ => ?_⟩
  cases active with
  | true => simpa [cycleProtocol] using hactive
  | false => simpa [cycleProtocol] using hpaused

theorem obeys_gatePlanning (h : p.Deliberating g frame) {ctx : PlanningContext}
    {points : Forecast} (hp : p.proposal = none) :
    (gatePlanning deps frame ctx points onDemand).run.Obeys (cycleProtocol deps g onDemand) p
      (onResult (fun q _ => ∃ memory, q = { p with memory, active := true } ∧
          (onDemand = false → ∃ m, memory = some m ∧
            (evaluateStateChange points m.referenceForecast deps.settings.stateChangeThreshold
              deps.params).suppressed = false))
        fun q e => q.Halted deps g e.1 e.2) := by
  have hheld : ∀ memory active paused message,
      ({ p with memory, active, paused } : Progress).Halted deps g frame
        (.held .unchanged none message none) := by
    intro memory active paused message
    have hq : ({ p with memory, active, paused } : Progress).Deliberating g frame :=
      h.congr rfl rfl rfl rfl rfl
    exact hq.held (by decide) (by simp) fun hproposal => absurd hp hproposal
  have hgreenhouse := h.greenhouse
  simp only [gatePlanning]
  split
  · exact hheld _ _ _ _
  · simp only [obeys_bindE, obeys_perform, onResult_ok]
    refine ⟨hgreenhouse, fun _ _ => ?_⟩
    cases onDemand with
    | true =>
      simp only [Bool.not_true, Bool.false_eq_true, if_false]
      refine obeys_stopIfPaused hgreenhouse ⟨p.memory, rfl, ?_⟩ (hheld _ _ _ _)
      intro hfalse
      cases hfalse
    | false =>
      simp only [Bool.not_false, if_true, obeys_bindE, obeys_perform, onResult_ok]
      refine ⟨hgreenhouse, fun state _ => ?_⟩
      split
      · exact hheld _ _ _ _
      · rename_i hchanged
        refine obeys_stopIfPaused hgreenhouse ⟨some state, rfl, fun _ => ⟨state, rfl, ?_⟩⟩
          (hheld _ _ _ _)
        exact Bool.eq_false_iff.2 hchanged

theorem planned_stop {answer : Proposal} {stop : Stop} (h : planned answer = .error stop) :
    (∃ raised, stop = .raised raised) ∨
      ∃ status reason message, stop = .held status reason message none ∧ status ≠ .applied ∧
        (status = .held ∨ status = .failed → reason ≠ none) ∧
        (status = .held ∨ status = .unchanged → answer = .noChange) := by
  cases answer with
  | proposed output => cases h
  | noChange =>
    cases h
    exact .inr ⟨.unchanged, none, _, rfl, by decide, by simp, fun _ => rfl⟩
  | unparseable text =>
    cases h
    exact .inr ⟨.failed, _, _, rfl, by decide, by simp, by simp⟩
  | unavailable text =>
    cases h
    exact .inr ⟨.failed, _, _, rfl, by decide, by simp, by simp⟩
  | other raised =>
    cases h
    exact .inl ⟨raised, rfl⟩

/-- The planner has answered with a plan that keeps its contract. -/
def Progress.Proposed (deps : Dependencies) (p : Progress) (plan : OptimizerPlan) : Prop :=
  ∃ output, p.proposal = some (.proposed output) ∧ output.plan = plan ∧
    deps.validateOptimizerPlan plan = none

theorem obeys_plan (h : p.Deliberating g frame) {ctx : PlanningContext} {points : Forecast}
    (hctx : p.context = some ctx) (hpoints : p.forecast = some points) (hp : p.proposal = none)
    (hmemory : onDemand = false → ∃ m, p.memory = some m ∧
      (evaluateStateChange points m.referenceForecast deps.settings.stateChangeThreshold
        deps.params).suppressed = false) :
    (plan deps frame ctx points).run.Obeys (cycleProtocol deps g onDemand) p
      (onResult (fun q a => ∃ answer, q = { p with active := false, proposal := some answer } ∧
          q.Proposed deps a.2 ∧ q.Deliberating g a.1 ∧ a.1.horizon = frame.horizon)
        fun q e => q.Halted deps g e.1 e.2) := by
  have hq : ∀ answer backend, ({ p with active := false, proposal := some answer } :
      Progress).Deliberating g { frame with backend } :=
    fun _ _ => ⟨h.greenhouse, h.runId, h.unsent, h.unanswered, h.unapplied, h.unrecorded⟩
  simp only [plan, obeys_bindE, obeys_perform, onResult_ok]
  refine ⟨trivial, fun model _ => ⟨⟨hctx, hpoints, hp, h.unapplied, hmemory⟩, fun answer _ => ?_⟩⟩
  simp only [cycleProtocol, Progress.next_propose]
  cases hplanned : planned answer with
  | error stop =>
    rcases planned_stop hplanned with ⟨raised, rfl⟩ | ⟨status, reason, message, rfl, hstop⟩
    · exact (hq answer frame.backend).raised raised
    · refine (hq answer frame.backend).held hstop.1 hstop.2.1 fun _ hstatus hdecisive => ?_
      exact hdecisive.change (congrArg some (hstop.2.2 hstatus))
  | ok output =>
    have hanswer : answer = .proposed output := by
      cases answer <;> cases hplanned
      rfl
    simp only
    split
    · cases hvalid : deps.validateOptimizerPlan output.plan with
      | some text =>
        refine (hq answer _).held ?_ ?_ ?_
        · decide
        · simp
        · simp
      | none => exact ⟨answer, rfl, ⟨output, congrArg some hanswer, rfl, hvalid⟩, hq answer _, rfl⟩
    · exact (hq answer frame.backend).raised _

theorem obeys_constrain (h : p.Deliberating g frame) {ctx : PlanningContext}
    {plan : OptimizerPlan} {fault : Bool} (hctx : p.context = some ctx)
    (hplan : p.Proposed deps plan) (hhorizon : frame.horizon = Progress.horizonOf deps ctx)
    (hfault : fault = true → fidelityFault deps p.breaches = true) :
    (constrain deps frame ctx plan fault).run.Obeys (cycleProtocol deps g onDemand) p
      (onResult (fun q _ => q = p ∧ p.Cleared deps plan frame.horizon)
        fun q e => q.Halted deps g e.1 e.2) := by
  obtain ⟨output, hproposal, rfl, hvalid⟩ := hplan
  simp only [constrain, obeys_bindE, obeys_perform, onResult_ok]
  refine ⟨h.greenhouse, fun _ _ => ?_⟩
  simp only [cycleProtocol, Progress.next_advanceStage]
  split
  · rename_i hstatus
    refine h.held hstatus evaluateApplication_reason fun _ _ hdecisive => hstatus ?_
    obtain ⟨ctx', hctx', hcleared⟩ := hdecisive.cleared output hproposal hvalid ctx hctx
    obtain rfl : ctx = ctx' := Option.some.inj (hctx.symm.trans hctx')
    exact hhorizon ▸ hcleared
  · rename_i hstatus
    split
    · rename_i hdrift
      refine h.held (by decide) (by simp) fun _ _ hdecisive => ?_
      exact absurd (hfault hdrift) (Bool.eq_false_iff.1 hdecisive.faithful)
    · exact ⟨rfl, ctx, hctx, not_not.1 hstatus⟩

/-- The deliberation ends with a cleared plan and the baseline forecast it was made for. -/
theorem obeys_deliberate (h : p.Deliberating g frame) (hunread : p.Unread) :
    (deliberate deps frame onDemand).run.Obeys (cycleProtocol deps g onDemand) p
      (onResult (fun q a => q.Deliberating g a.1 ∧ q.Cleared deps a.2.plan a.1.horizon ∧
          q.forecast = some a.2.referencePoints ∧ q.proposal ≠ none ∧ Platform.validSlug g = true)
        fun q e => q.Halted deps g e.1 e.2) := by
  have hp := hunread.proposal
  refine (obeys_ingest h hunread).bindE ?_
  rintro q ctx ⟨rfl, hctx⟩
  have hq : ∀ active memory breaches forecast,
      ({ p with active, memory, breaches, forecast, context := some ctx } :
        Progress).Deliberating g { frame with horizon := Progress.horizonOf deps ctx } :=
    fun _ _ _ _ => ⟨h.greenhouse, h.runId, h.unsent, h.unanswered, h.unapplied, h.unrecorded⟩
  refine (obeys_forecast (hq false p.memory p.breaches p.forecast) rfl rfl hunread.breaches
    hunread.forecast hp).bindE ?_
  rintro q ⟨points, fault⟩ ⟨memory, breaches, rfl, hfault⟩
  refine (obeys_gatePlanning (hq false memory breaches (some points)) hp).bindE ?_
  rintro q - ⟨memory', rfl, hchanged⟩
  refine (obeys_plan (hq true memory' breaches (some points)) rfl rfl hp hchanged).bindE ?_
  rintro q ⟨frame', plan⟩ ⟨answer, rfl, hplan, hframe', hhorizon⟩
  refine (obeys_constrain hframe' rfl hplan hhorizon hfault).bindE ?_
  rintro q - ⟨rfl, hcleared⟩
  exact ⟨hframe', hcleared, rfl, by simp, hctx ▸ ctx.slug⟩

/-! ## The commit -/

/-- A cycle may be held for the reason of a refused submission. -/
theorem halted_of_refused (hgreenhouse : frame.greenhouseId = g)
    (hrunId : p.runId = some frame.runId) (happlied : p.applied = none)
    (hrecords : p.records = [])
    (hunwritten : p.sent = none ∨ ∃ reply, p.reply = some reply ∧ ¬ Progress.Accepted reply)
    {code : ReasonCode} {message : String} {plan : Option OptimizerPlan}
    (hexcuse : outcomeStatusForReason code = .failed ∨ ¬ p.Decisive deps) :
    p.Halted deps g frame (.held (outcomeStatusForReason code) (some code) message plan) where
  greenhouse := hgreenhouse
  runId := hrunId
  unapplied := happlied
  unrecorded := hrecords
  unwritten := hunwritten
  held _ _ _ _ heq := by
    cases heq
    refine ⟨outcomeStatusForReason_ne_applied code, by simp, fun _ hstatus => ?_⟩
    rcases hexcuse with hfailed | hindecisive
    · simp [hfailed] at hstatus
    · exact hindecisive

/-- What the platform's answer comes to: accepted, or refused for a reason that keeps the cycle
from being held unless the bounds disagree. -/
theorem writeOutcome_cases (answer : Except RequestFailure (HttpReply String)) :
    (∃ raised, PlatformClient.writeOutcome g answer = .error raised ∧
      ¬ Progress.Accepted answer) ∨
    (∃ message, PlatformClient.writeOutcome g answer = .ok (.appliedOk message) ∧
      Progress.Accepted answer) ∨
    ∃ code message, PlatformClient.writeOutcome g answer = .ok (.escalated code message) ∧
      ¬ Progress.Accepted answer ∧
      (outcomeStatusForReason code = .failed ∨ ∃ body, answer = .ok ⟨422, body⟩) := by
  cases answer with
  | error failure =>
    cases failure with
    | transport text => exact .inr (.inr ⟨_, _, rfl, fun h => h, .inl (by decide)⟩)
    | other raised => exact .inl ⟨raised, rfl, fun h => h⟩
  | ok reply =>
    obtain ⟨status, body⟩ := reply
    simp only [PlatformClient.writeOutcome, Progress.Accepted]
    by_cases h202 : status = 202
    · exact .inr (.inl ⟨_, if_pos h202, h202⟩)
    · refine .inr (.inr ?_)
      simp only [if_neg h202]
      by_cases h422 : status = 422
      · subst h422
        exact ⟨_, _, rfl, h202, .inr ⟨body, rfl⟩⟩
      · simp only [if_neg h422]
        split
        · exact ⟨_, _, rfl, h202, .inl (by decide)⟩
        · split
          · exact ⟨_, _, rfl, h202, .inl (by decide)⟩
          · split <;> exact ⟨_, _, rfl, h202, .inl (by decide)⟩

/-- What a submission may come to: nothing was sent, with a token missing or planning paused,
or the platform's answer is mapped. -/
theorem obeys_submitSetpoints (h : p.Deliberating g frame) {s : Submission}
    (hs : s.greenhouseId = g) (hid : s.runId = frame.runId)
    {post : Progress → Except Raised PlatformClient.WriteOutcome → Prop}
    (hraised : ∀ raised, post { p with active := false } (.error raised))
    (htoken : ∀ message, post { p with active := false }
      (.ok (.escalated .writeUnauthorized message)))
    (hpaused : ∀ message, post { p with active := false, paused := true }
      (.ok (.withheld message)))
    (hsent : ∀ answer,
      post { p with active := false, sent := some s, reply := some answer }
        (PlatformClient.writeOutcome g answer)) :
    (PlatformClient.submitSetpoints s).Obeys (cycleProtocol deps g onDemand) p post := by
  subst hs
  simp only [PlatformClient.submitSetpoints, obeys_bind, obeys_call]
  refine ⟨trivial, fun headers _ => ?_⟩
  cases headers with
  | error failure =>
    cases failure with
    | token text => exact htoken _
    | other raised => exact hraised raised
  | ok =>
    simp only [obeys_bind, obeys_call]
    refine ⟨rfl, fun active _ => ?_⟩
    cases active with
    | false => simpa [cycleProtocol] using hpaused _
    | true =>
      simp only [if_true, obeys_bind, obeys_call, obeys_pure]
      refine ⟨⟨rfl, rfl, hid ▸ h.runId, h.unsent, h.unrecorded⟩, fun _ _ => ?_⟩
      refine ⟨⟨hid ▸ h.runId, by simp [cycleProtocol], ?_⟩, fun answer _ => ?_⟩
      · exact h.unanswered
      · simpa [cycleProtocol] using hsent answer

/-- The commit ends with a record to store, or is held without a trace on the platform. -/
theorem obeys_commit (h : p.Deliberating g frame) {decision : CommitDecision}
    (hcleared : p.Cleared deps decision.plan frame.horizon)
    (hforecast : p.forecast = some decision.referencePoints) (hproposal : p.proposal ≠ none)
    (hslug : Platform.validSlug g = true) :
    (commit deps frame decision).run.Obeys (cycleProtocol deps g onDemand) p
      (onResult (fun q r => q.Permits deps g onDemand (.record r))
        fun q e => q.Halted deps g e.1 e.2) := by
  have hq : ∀ active paused, ({ p with active, paused } : Progress).Deliberating g frame :=
    fun _ _ => h.congr rfl rfl rfl rfl rfl
  have hunauthorized : outcomeStatusForReason .writeUnauthorized = .failed := by decide
  have hindecisive : ∀ active, ¬ ({ p with active, paused := true } : Progress).Decisive deps :=
    fun _ hdecisive => absurd hdecisive.running (by simp)
  simp only [commit, obeys_bindE, obeys_perform, onResult_ok]
  refine ⟨h.greenhouse, fun _ _ => ?_⟩
  refine obeys_stopIfPaused h.greenhouse ?_
    ((hq _ _).held (by decide) (by simp) fun _ _ => hindecisive _)
  simp only [onResult_ok, obeys_lift]
  refine obeys_submitSetpoints (hq true p.paused) h.greenhouse rfl ?_ ?_ ?_ ?_
  · intro raised
    exact (hq _ _).raised raised
  · intro message
    apply halted_of_refused h.greenhouse
    · exact h.runId
    · exact h.unapplied
    · exact h.unrecorded
    · exact .inl h.unsent
    · exact .inl hunauthorized
  · intro message
    exact (hq _ _).held (by decide) (by simp) fun _ _ => hindecisive _
  · intro answer
    rcases writeOutcome_cases answer with
      ⟨raised, hwrite, hrefused⟩ | ⟨message, hwrite, haccepted⟩ |
        ⟨code, message, hwrite, hrefused, hexcuse⟩
    · rw [hwrite]
      exact ⟨h.greenhouse, h.runId, h.unapplied, h.unrecorded, .inr ⟨answer, rfl, hrefused⟩,
        fun _ _ _ _ heq => by cases heq⟩
    · rw [hwrite]
      simp only [PlatformClient.WriteOutcome.appliedOk, Bool.false_eq_true, if_false, if_true,
        obeys_bindE, obeys_perform, onResult_ok]
      refine ⟨⟨h.greenhouse, h.runId, hforecast, hproposal, h.unrecorded, answer, rfl,
        haccepted⟩, fun _ _ => ?_⟩
      have hbuilt : (buildRecord frame (some decision.plan) .applied none message).isSome = true :=
        buildRecord_isSome.2 ⟨h.greenhouse ▸ hslug, by simp, by simp⟩
      obtain ⟨r, hr⟩ := Option.isSome_iff_exists.1 hbuilt
      obtain ⟨hgreenhouse, hrunId, hhorizon, hplan, hstatus, -⟩ := of_buildRecord hr
      rw [hr]
      refine ⟨hgreenhouse.trans h.greenhouse, hrunId ▸ h.runId, h.unrecorded, ?_, ?_, ?_⟩
      · exact fun _ => ⟨decision.plan, hplan, rfl, hhorizon ▸ hcleared⟩
      · exact fun hne => absurd hstatus hne
      · intro _ hother
        simp [hstatus] at hother
    · rw [hwrite]
      apply halted_of_refused h.greenhouse
      · exact h.runId
      · exact h.unapplied
      · exact h.unrecorded
      · exact .inr ⟨answer, rfl, hrefused⟩
      · refine hexcuse.imp_right ?_
        rintro ⟨body, rfl⟩ hdecisive
        exact hdecisive.inBounds body rfl

/-! ## The record -/

theorem permits_buildRecord {stop : Stop} (h : p.Halted deps g frame stop)
    {plan : Option OptimizerPlan} {status : OutcomeStatus} {reasonCode : Option ReasonCode}
    {message : String} {r : PlanRecord} (hstatus : status ≠ .applied)
    (hexcuse : p.proposal ≠ none → status = .held ∨ status = .unchanged → ¬ p.Decisive deps)
    (hr : buildRecord frame plan status reasonCode message = some r) :
    p.Permits deps g onDemand (.record r) := by
  obtain ⟨hgreenhouse, hrunId, -, -, rfl, -⟩ := of_buildRecord hr
  refine ⟨hgreenhouse.trans h.greenhouse, hrunId ▸ h.runId, h.unrecorded, ?_, ?_, hexcuse⟩
  · exact fun happlied => absurd happlied hstatus
  · exact fun _ => ⟨h.unapplied, h.unwritten⟩

/-- The record of a cycle that was stopped may be stored. -/
theorem permits_recordOf {stop : Stop} (h : p.Halted deps g frame stop) {r : PlanRecord}
    (hr : recordOf deps (.error (frame, stop)) = some r) :
    p.Permits deps g onDemand (.record r) := by
  cases stop with
  | held status reasonCode message plan =>
    obtain ⟨hstatus, -, hexcuse⟩ := h.held _ _ _ _ rfl
    exact permits_buildRecord h hstatus hexcuse hr
  | raised raised =>
    cases raised with
    | timeout => exact permits_buildRecord h (by decide) (by simp) hr
    | error text => exact permits_buildRecord h (by decide) (by simp) hr

/-- A cycle of a greenhouse whose id is well formed has a record. -/
theorem recordOf_isSome {stop : Stop} (h : p.Halted deps g frame stop) :
    (recordOf deps (.error (frame, stop))).isSome = true ↔ Platform.validSlug g = true := by
  have hgreenhouse := h.greenhouse
  cases stop with
  | held status reasonCode message plan =>
    obtain ⟨hstatus, hreason, -⟩ := h.held _ _ _ _ rfl
    simp only [recordOf, buildRecord_isSome, hgreenhouse]
    exact ⟨fun h => h.1, fun h => ⟨h, hreason, fun happlied => absurd happlied hstatus⟩⟩
  | raised raised =>
    cases raised <;> simp [recordOf, buildRecord_isSome, hgreenhouse]

/-- How a cycle of a greenhouse ends: with one record, which agrees with all that came before,
or with none, which leaves the applied plan alone. -/
def Progress.Ended (deps : Dependencies) (g : String) (p : Progress) :
    Option PlanRecord → Prop
  | some r => r.greenhouseId = g ∧ p.runId = some r.optimizerRunId ∧ p.records = [r] ∧
    p.Agrees deps r
  | none => p.records = [] ∧ p.applied = none

theorem Progress.Agrees.congr {q : Progress} {r : PlanRecord} (h : p.Agrees deps r)
    (heq : q = { p with active := q.active, records := q.records }) : q.Agrees deps r := by
  rw [heq]
  exact ⟨h.applied, h.unapplied, fun hp hs hd => h.excuse hp hs
    ⟨hd.running, hd.change, hd.faithful, hd.cleared, hd.inBounds⟩⟩

/-- Storing and reporting a record ends the cycle. -/
theorem obeys_settle {r : PlanRecord} {now : Instant}
    (h : p.Permits deps g onDemand (.record r)) :
    (do settle r now; reportEscalation r; return some r : Program (Option PlanRecord)).Obeys
      (cycleProtocol deps g onDemand) p fun q res => res = some r ∧ q.Ended deps g res := by
  obtain ⟨hgreenhouse, hrunId, hrecords, hagrees⟩ := h
  have hended : ∀ active, ({ p with active, records := [r] } : Progress).Ended deps g (some r) :=
    fun active => ⟨hgreenhouse, hrunId, rfl, hagrees.congr rfl⟩
  simp only [settle, reportEscalation, obeys_bind, obeys_call]
  refine ⟨⟨hgreenhouse, hrunId, hrecords, hagrees⟩, fun _ _ => ?_⟩
  have hnext : (cycleProtocol deps g onDemand).next p (.record r) () =
      { p with records := [r] } := by
    simp [cycleProtocol, hrecords]
  rw [hnext]
  cases r.outcome.status <;>
    simp [cycleProtocol, Progress.Permits, hended]

/-- The cycle of a frame performs what is permitted and ends with a record. -/
theorem obeys_runFrame (h : p.Deliberating g frame) (hunread : p.Unread) :
    (runFrame deps frame onDemand).Obeys (cycleProtocol deps g onDemand) p fun q res =>
      q.Ended deps g res ∧ (res.isSome = true ↔ Platform.validSlug g = true) := by
  have hpipeline : (pipeline deps frame onDemand).run.Obeys (cycleProtocol deps g onDemand) p
      (onResult (fun q r => q.Permits deps g onDemand (.record r))
        fun q e => q.Halted deps g e.1 e.2) := by
    refine (obeys_deliberate h hunread).bindE ?_
    rintro q ⟨frame', decision⟩ ⟨hframe', hcleared, hforecast, hproposal, hslug⟩
    exact obeys_commit hframe' hcleared hforecast hproposal hslug
  simp only [runFrame, obeys_bind]
  refine hpipeline.mono fun q result hresult => ?_
  cases result with
  | ok r =>
    simp only [recordOf]
    refine (obeys_settle hresult).mono ?_
    rintro q _ ⟨rfl, hended⟩
    exact ⟨hended, by simp [← hended.1, r.slug]⟩
  | error e =>
    obtain ⟨frame', stop⟩ := e
    have hsome := recordOf_isSome hresult
    cases hr : recordOf deps (.error (frame', stop)) with
    | none =>
      rw [hr] at hsome
      exact ⟨⟨hresult.unrecorded, hresult.unapplied⟩, hsome⟩
    | some r =>
      rw [hr] at hsome
      refine (obeys_settle (permits_recordOf hresult hr)).mono ?_
      rintro q _ ⟨rfl, hended⟩
      exact ⟨hended, hsome⟩

theorem obeys_mintRunId {runId : Option RunId} {post : Progress → RunId → Prop}
    (hp : p.runId = runId) (hpost : ∀ id, post { p with runId := some id } id) :
    (mintRunId runId).Obeys (cycleProtocol deps g onDemand) p post := by
  cases runId with
  | none => exact ⟨hp, fun id _ => hpost id⟩
  | some id =>
    have := hpost id
    rwa [← hp] at this

/-- A new cycle has written nothing. -/
theorem obeys_cycleFrame {runId : Option RunId} :
    (cycleFrame deps g runId).Obeys (cycleProtocol deps g onDemand) { runId := runId }
      fun q frame => q.records = [] ∧ q.applied = none ∧ q.Unread ∧
        ∀ frame', frame = some frame' → q.Deliberating g frame' := by
  simp only [cycleFrame, obeys_bind, obeys_call]
  refine ⟨trivial, fun moment _ => ⟨rfl, fun state _ => ?_⟩⟩
  refine obeys_mintRunId rfl fun id => ⟨trivial, fun model _ => ?_⟩
  split
  · refine ⟨rfl, rfl, ⟨rfl, rfl, rfl, rfl⟩, fun frame' hframe' => ?_⟩
    cases hframe'
    exact ⟨rfl, rfl, rfl, rfl, rfl, rfl⟩
  · exact ⟨rfl, rfl, ⟨rfl, rfl, rfl, rfl⟩, fun frame' hframe' => by cases hframe'⟩

/-- **A cycle performs only what is permitted**, and ends with a record or with none. -/
theorem obeys_runCycle {runId : Option RunId} :
    (runCycle deps g runId onDemand).Obeys (cycleProtocol deps g onDemand) { runId := runId }
      fun q res => q.Ended deps g res := by
  simp only [runCycle, obeys_bind]
  refine obeys_cycleFrame.mono ?_
  rintro q frame ⟨hrecords, happlied, hunread, hframe⟩
  cases frame with
  | none => exact ⟨hrecords, happlied⟩
  | some frame => exact (obeys_runFrame (hframe frame rfl) hunread).mono fun q res h => h.1

end

end Greenhouse.Optimizer
