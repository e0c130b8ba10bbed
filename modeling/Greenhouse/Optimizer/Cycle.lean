import Greenhouse.Optimizer.Service

/-!
# The planning cycle

One greenhouse, one pass through the pipeline. The deliberation reads, gates, simulates, plans
and validates, and gives a plan to apply or stops; the commit writes it. Whatever happened, the
record is built, stored and reported.
-/

namespace Greenhouse.Optimizer

open Greenhouse.Numeric Greenhouse.Platform Greenhouse.Process Prog

/-! ## Messages -/

def maxMessageChars : Nat := 300

/-- The characters that `rstrip` strips. -/
def isSpace (c : Char) : Bool :=
  let n := c.toNat
  (9 ≤ n && n ≤ 13) || (28 ≤ n && n ≤ 32) || n == 0x85 || n == 0xa0 || n == 0x1680
    || (0x2000 ≤ n && n ≤ 0x200a) || n == 0x2028 || n == 0x2029 || n == 0x202f || n == 0x205f
    || n == 0x3000

/-- Trim an operator-facing message to one length. -/
def bounded (message : String) : String :=
  let chars := message.toList
  if chars.length ≤ maxMessageChars then message
  else String.ofList
    (((chars.take (maxMessageChars - 1)).reverse.dropWhile isSpace).reverse ++ ['…'])

/-! ## The horizon -/

def dayBoundaryProximitySeconds : Int := 4 * 3600

/-- The configured horizon, doubled near a flip of the day schedule. -/
def chooseHorizon (now : Instant) (setpoints : GlobalSetpoints) (settings : Settings) :
    Horizon :=
  let secondOfDay := now / second % 86400
  let secondsUntil (hhmm : String) : Int :=
    (((minutesOfDay hhmm).getD 0 : Nat) * 60 - secondOfDay) % 86400
  let nearest := min (secondsUntil setpoints.dayStart) (secondsUntil setpoints.dayEnd)
  let base := settings.horizonHours
  ⟨now, now + hours (if nearest ≤ dayBoundaryProximitySeconds then base * 2 else base)⟩

/-! ## Fidelity of the twin -/

/-- The metrics that fidelity is measured over, with their rows in the envelopes. -/
def fidelityMetrics : List (Metric × Fin 4) :=
  [.temperature, .humidity, .co2, .par].zip (List.finRange 4)

/-- The mean of the latest bucket of a series that is not empty. -/
def latestMean (s : MetricSummarySeries) : Option ℚ :=
  let buckets := s.buckets.filter (·.count > 0)
  (buckets.foldl (fun (best : Option SummaryBucket) b =>
    match best with
    | some best => if best.bucketStart < b.bucketStart then some b else some best
    | none => some b) none).map (·.mean)

/-- The latest observation of each fidelity metric. -/
def latestObservations (ctx : PlanningContext) : List (Fin 4 × ℚ) :=
  fidelityMetrics.filterMap fun (metric, row) =>
    (ctx.telemetry.reverse.findSome? fun s =>
      if s.metric = metric ∧ s.zoneId = none then latestMean s else none).map fun v => (row, v)

/-- A forecast at an instant inside its span, by interpolation. -/
def interp (time : Instant) : Forecast → Sample
  | earlier :: later :: points =>
    if earlier.time ≤ time ∧ time ≤ later.time then lerp earlier later time
    else interp time (later :: points)
  | [last] => fun row => (gatedMetrics row).1 last
  | [] => fun _ => 0

/-- The normalized deviation of a prediction from what was observed; `none` outside its span. -/
def fidelityResidual (previous : Forecast) (observed : List (Fin 4 × ℚ)) (observedAt : Instant)
    (params : TwinParams) : Except String (Option ℚ) :=
  match previous.head?, previous.getLast? with
  | some first, some last =>
    if observedAt < first.time ∨ observedAt > last.time then .ok none
    else if observed.any fun (row, _) => params.span row = 0 then
      .error "ZeroDivisionError: float division by zero"
    else
      let residuals := observed.map fun (row, obs) =>
        |interp observedAt previous row - obs| / params.span row
      .ok (if residuals = [] then none else some (residuals.sum / residuals.length))
  | _, _ => .ok none

/-- The breaches in a row after scoring the retained forecast, where it can be scored. -/
def scoreFidelity (deps : Dependencies) (state : GreenhouseState) (ctx : PlanningContext) :
    Except String (Option Nat) :=
  match fidelityResidual (state.lastForecast.getD []) (latestObservations ctx) ctx.stop
      deps.params with
  | .error text => .error text
  | .ok none => .ok none
  | .ok (some residual) =>
    .ok (some (if residual > deps.settings.divergenceThreshold then
      state.consecutiveFidelityBreaches + 1 else 0))

/-- Sustained drift: enough breaches in a row. -/
def fidelityFault (deps : Dependencies) (breaches : Option Nat) : Bool :=
  match breaches with
  | some n => deps.settings.fidelityBreachCycles ≤ n
  | none => false

/-! ## Control flow -/

/-- Everything a record needs. -/
structure CycleFrame where
  greenhouseId : String
  runId : RunId
  now : Instant
  backend : Backend
  horizon : Horizon
  sourcePlanId : Option RunId

/-- What ends a cycle: a step decides to hold it, or an exception. -/
inductive Stop where
  | held (status : OutcomeStatus) (reasonCode : Option ReasonCode) (message : String)
      (plan : Option OptimizerPlan)
  | raised (raised : Raised)

/-- The steps of a cycle stop it with the frame as it then is. -/
abbrev Cycle := ExceptT (CycleFrame × Stop) (Prog Op Resp)

/-- A cleared plan, with the forecast to retain as the reference. -/
structure CommitDecision where
  plan : OptimizerPlan
  referencePoints : Forecast

/-- Assemble the cycle's record; `none` when a model does not accept a value. -/
def buildRecord (frame : CycleFrame) (plan : Option OptimizerPlan) (status : OutcomeStatus)
    (reasonCode : Option ReasonCode) (message : String) : Option PlanRecord :=
  if slug : validSlug frame.greenhouseId = true then
    if reason : status = .held ∨ status = .failed → reasonCode ≠ none then
      if applied : status = .applied → plan ≠ none then
        some {
          optimizerRunId := frame.runId
          greenhouseId := frame.greenhouseId
          createdAt := frame.now
          horizon := frame.horizon
          backend := frame.backend
          plan := plan
          sourcePlanId := if plan.isNone then frame.sourcePlanId else none
          outcome := ⟨status, reasonCode, some (bounded message), reason⟩
          slug := slug
          plan_of_applied := applied }
      else none
    else none
  else none

section

variable {frame : CycleFrame} {plan : Option OptimizerPlan} {status : OutcomeStatus}
  {reasonCode : Option ReasonCode} {message : String}

/-- When the models accept a record. -/
theorem buildRecord_isSome : (buildRecord frame plan status reasonCode message).isSome = true ↔
    validSlug frame.greenhouseId = true ∧
    (status = .held ∨ status = .failed → reasonCode ≠ none) ∧
    (status = .applied → plan ≠ none) := by
  unfold buildRecord
  split
  · split
    · split <;> simp_all
    · simp_all
  · simp_all

/-- The record is of the frame's greenhouse and run, with the given plan and outcome. -/
theorem of_buildRecord {r : PlanRecord}
    (h : buildRecord frame plan status reasonCode message = some r) :
    r.greenhouseId = frame.greenhouseId ∧ r.optimizerRunId = frame.runId ∧
    r.horizon = frame.horizon ∧ r.plan = plan ∧ r.outcome.status = status ∧
    r.outcome.reasonCode = reasonCode := by
  unfold buildRecord at h
  split at h
  · split at h
    · split at h
      · cases h
        exact ⟨rfl, rfl, rfl, rfl, rfl, rfl⟩
      · cases h
    · cases h
  · cases h

end

/-! ## The platform client -/

namespace PlatformClient

/-- Why a planning context cannot be read. -/
inductive ReadFailure where
  | platform (reasonCode : ReasonCode) (message : String)
  | raised (raised : Raised)

/-- The planning context in the platform's answer. -/
def readContext (greenhouseId : String) :
    Except RequestFailure (HttpReply (Except String PlanningContext)) →
      Except ReadFailure PlanningContext
  | .error (.transport text) =>
    .error (.platform .platformUnavailable ("planning-context read failed: " ++ text))
  | .error (.other raised) => .error (.raised raised)
  | .ok reply =>
    if reply.status = 404 then
      .error (.platform .contractDrift ("greenhouse " ++ greenhouseId ++ " not found (404)"))
    else if reply.status ≠ 200 then
      .error (.platform .platformUnavailable
        ("planning-context read returned " ++ toString reply.status))
    else
      match reply.body with
      | .ok ctx => .ok ctx
      | .error text =>
        .error (.platform .contractDrift ("planning-context response invalid: " ++ text))

/-- The outcome of a setpoint submission. -/
structure WriteOutcome where
  applied : Bool
  reasonCode : Option ReasonCode
  message : String
  held : Bool := false

def WriteOutcome.appliedOk (message : String) : WriteOutcome := ⟨true, none, message, false⟩

def WriteOutcome.escalated (reasonCode : ReasonCode) (message : String) : WriteOutcome :=
  ⟨false, some reasonCode, message, false⟩

/-- Planning paused before the request; nothing was sent. -/
def WriteOutcome.withheld (message : String) : WriteOutcome := ⟨false, none, message, true⟩

/-- Every response of the setpoint path is mapped to an outcome. -/
def writeOutcome (greenhouseId : String) :
    Except RequestFailure (HttpReply String) → Except Raised WriteOutcome
  | .error (.transport text) =>
    .ok (.escalated .platformUnavailable ("setpoint write failed to reach platform: " ++ text))
  | .error (.other raised) => .error raised
  | .ok reply =>
    if reply.status = 202 then .ok (.appliedOk "setpoints accepted (202)")
    else if reply.status = 503 then
      .ok (.escalated .platformUnavailable ("platform could not establish a baseline (503); "
        ++ "nothing recorded, retry next cadence"))
    else if reply.status = 422 then
      .ok (.escalated .boundsMismatch ("platform rejected bounds (422): " ++ reply.body))
    else if reply.status = 401 ∨ reply.status = 403 then
      .ok (.escalated .writeUnauthorized
        ("write not authorized (" ++ toString reply.status ++ ")"))
    else if reply.status = 404 then
      .ok (.escalated .contractDrift ("greenhouse " ++ greenhouseId ++ " not found (404)"))
    else
      .ok (.escalated .platformUnavailable
        ("unexpected setpoint-write status " ++ toString reply.status))

/-- Submit setpoints, unless planning is paused once the headers are there. -/
def submitSetpoints (s : Submission) : Program (Except Raised WriteOutcome) := do
  match ← call Op.authHeaders with
  | .error (.token text) =>
    return .ok (.escalated .writeUnauthorized ("could not acquire service token: " ++ text))
  | .error (.other raised) => return .error raised
  | .ok () =>
    if ← call (Op.isGreenhouseActive s.greenhouseId) then
      call (Op.send s)
      return writeOutcome s.greenhouseId (← call (Op.receive s.runId))
    else
      return .ok (.withheld
        "planning paused after service-token acquisition; setpoint write withheld")

end PlatformClient

/-! ## The deliberation -/

def pausedText : String := "planning paused mid-cycle; the last applied bundle stays in force"

/-- Read the enable gate again. -/
def stopIfPaused (frame : CycleFrame) : Cycle Unit := do
  if !(← perform (Op.isGreenhouseActive frame.greenhouseId)) then
    throw (frame, .held .unchanged none pausedText none)

/-- Read the planning context and gate its quality. -/
def ingest (deps : Dependencies) (frame : CycleFrame) : Cycle PlanningContext := do
  perform (Op.advanceStage frame.greenhouseId .ingest)
  match PlatformClient.readContext frame.greenhouseId
      (← perform (Op.getPlanningContext frame.greenhouseId)) with
  | .error (.raised raised) => throw (frame, .raised raised)
  | .error (.platform reasonCode message) =>
    throw (frame, .held (outcomeStatusForReason reasonCode) (some reasonCode) message none)
  | .ok ctx =>
    perform (Op.advanceStage frame.greenhouseId .qualityGate)
    let gate := evaluateInputGate ctx deps.settings.dataQuality frame.greenhouseId
    if gate.trusted then return ctx
    else
      match gate.reasonCode with
      | none => throw (frame, .raised (.error "AssertionError: "))
      | some reasonCode => throw (frame, .held (outcomeStatusForReason reasonCode)
          (some reasonCode) (gate.message.getD "input gate held") none)

/-- Score the previous prediction; whether drift is now sustained. -/
def updateFidelity (deps : Dependencies) (frame : CycleFrame) (ctx : PlanningContext) :
    Cycle Bool := do
  match scoreFidelity deps (← perform (Op.getState frame.greenhouseId)) ctx with
  | .error text => throw (frame, .raised (.error text))
  | .ok none => return false
  | .ok (some breaches) =>
    perform (Op.setBreaches frame.greenhouseId breaches)
    return fidelityFault deps (some breaches)

/-- Simulate the baseline forward; with it, whether the twin drifts. -/
def forecast (deps : Dependencies) (frame : CycleFrame) (ctx : PlanningContext) :
    Cycle (Forecast × Bool) := do
  perform (Op.advanceStage frame.greenhouseId .forecast)
  let fault ← updateFidelity deps frame ctx
  match deps.simulate ctx frame.horizon.stop with
  | .error text => throw (frame, .raised (.error text))
  | .ok result =>
    perform (Op.setLastForecast frame.greenhouseId result.points)
    if result.diverged then
      throw (frame, .held .failed (some .twinDiverged)
        "twin diverged (non-finite or out-of-envelope step)" none)
    else return (result.points, fault)

/-- The gates before the planner: bounds to refine within, a changed state, not paused. -/
def gatePlanning (deps : Dependencies) (frame : CycleFrame) (ctx : PlanningContext)
    (points : Forecast) (onDemand : Bool) : Cycle Unit := do
  if ctx.setpoints.bounds = none then
    throw (frame, .held .unchanged none
      "no crop-safe bounds present; holding the baseline" none)
  perform (Op.advanceStage frame.greenhouseId .plan)
  if !onDemand then
    let state ← perform (Op.getState frame.greenhouseId)
    let decision := evaluateStateChange points state.referenceForecast
      deps.settings.stateChangeThreshold deps.params
    if decision.suppressed then throw (frame, .held .unchanged none decision.reason none)
  stopIfPaused frame

/-- What the planner's answer comes to: a backend output, or why there is none. -/
def planned : Proposal → Except Stop BackendOutput
  | .proposed output => .ok output
  | .noChange => .error (.held .unchanged none
      "planner proposed no setpoint change; holding the baseline" none)
  | .unparseable text => .error (.held .failed (some .planUnparseable) text none)
  | .unavailable text => .error (.held .failed (some .llmUnavailable) text none)
  | .other raised => .error (.raised raised)

/-- Call the planner; the frame then names the backend that answered. -/
def plan (deps : Dependencies) (frame : CycleFrame) (ctx : PlanningContext) (points : Forecast) :
    Cycle (CycleFrame × OptimizerPlan) := do
  let model ← perform Op.model
  match planned (← perform (Op.propose ctx points frame.horizon model frame.now)) with
  | .error stop => throw (frame, stop)
  | .ok output =>
    if nonempty : output.model ≠ "" then
      let frame := { frame with
        backend := ⟨output.provider, output.model, deps.settings.promptVersion, output.role,
          nonempty, deps.settings.prompt_nonempty⟩ }
      match deps.validateOptimizerPlan output.plan with
      | some text => throw (frame, .held .failed (some .planUnparseable)
          ("plan failed contract validation: " ++ text) none)
      | none => return (frame, output.plan)
    else throw (frame, .raised (.error ("ValidationError: " ++ deps.validationError "Backend")))

/-- The guardrails, and no sustained drift. -/
def constrain (deps : Dependencies) (frame : CycleFrame) (ctx : PlanningContext)
    (plan : OptimizerPlan) (fault : Bool) : Cycle Unit := do
  perform (Op.advanceStage frame.greenhouseId .constrain)
  let gate := evaluateApplication plan ctx.setpoints.bounds deps.settings.confidenceThreshold
    frame.horizon
  if gate.status ≠ .applied then
    throw (frame, .held gate.status gate.reasonCode
      (gate.message.getD "application gate held the cycle") (some plan))
  if fault then
    throw (frame, .held .held (some .twinFidelityFault)
      "sustained twin parameter drift; confidence capped below the apply threshold" (some plan))

/-- Read, gate, simulate, plan, validate. Nothing is written to the platform. -/
def deliberate (deps : Dependencies) (frame : CycleFrame) (onDemand : Bool) :
    Cycle (CycleFrame × CommitDecision) := do
  let ctx ← ingest deps frame
  let frame := { frame with
    horizon := chooseHorizon ctx.stop ctx.setpoints.targets.toGlobalSetpoints deps.settings }
  let (points, fault) ← forecast deps frame ctx
  gatePlanning deps frame ctx points onDemand
  let (frame, plan) ← plan deps frame ctx points
  constrain deps frame ctx plan fault
  return (frame, ⟨plan, points⟩)

/-! ## The commit -/

/-- Apply the decided plan: the only setpoint write. -/
def commit (deps : Dependencies) (frame : CycleFrame) (decision : CommitDecision) :
    Cycle PlanRecord := do
  perform (Op.advanceStage frame.greenhouseId .publish)
  stopIfPaused frame
  match ← ExceptT.lift (PlatformClient.submitSetpoints
      ⟨frame.greenhouseId, decision.plan.immediateSetpoints, frame.runId⟩) with
  | .error raised => throw (frame, .raised raised)
  | .ok write =>
    if write.held then throw (frame, .held .unchanged none write.message none)
    else if write.applied then
      perform (Op.setApplied frame.greenhouseId frame.runId decision.plan decision.referencePoints)
      match buildRecord frame (some decision.plan) .applied none write.message with
      | none =>
        throw (frame, .raised (.error ("ValidationError: " ++ deps.validationError "PlanRecord")))
      | some record => return record
    else
      let reasonCode := write.reasonCode.getD .internalError
      throw (frame, .held (outcomeStatusForReason reasonCode) (some reasonCode) write.message
        (some decision.plan))

/-! ## The cycle -/

/-- The record of what a cycle came to. -/
def recordOf (deps : Dependencies) : Except (CycleFrame × Stop) PlanRecord → Option PlanRecord
  | .ok record => some record
  | .error (frame, .held status reasonCode message plan) =>
    buildRecord frame plan status reasonCode message
  | .error (frame, .raised .timeout) =>
    buildRecord frame none .failed (some .cycleTimeout) ("cycle exceeded cycle_timeout_seconds ("
      ++ pyGeneral deps.settings.cycleTimeoutSeconds ++ "s)")
  | .error (frame, .raised (.error text)) =>
    buildRecord frame none .failed (some .internalError) ("unexpected cycle error: " ++ text)

/-- Store the record. -/
def settle (record : PlanRecord) (now : Instant) : Program Unit := do
  call (Op.record record)
  if record.outcome.status = .applied ∨ record.outcome.status = .unchanged then
    call (Op.setLastSuccessful now)

/-- Report a held or failed cycle; a report that fails changes nothing. -/
def reportEscalation (record : PlanRecord) : Program Unit := do
  if record.outcome.status = .held ∨ record.outcome.status = .failed then
    let _ ← call (Op.reportOutcome record)

/-- The id of a run: reserved up front, or a new one. -/
def mintRunId : Option RunId → Program RunId
  | some runId => return runId
  | none => call Op.uuid4

/-- The pipeline of a cycle. -/
def pipeline (deps : Dependencies) (frame : CycleFrame) (onDemand : Bool) : Cycle PlanRecord := do
  let (frame, decision) ← deliberate deps frame onDemand
  commit deps frame decision

/-- The cycle of a frame: the pipeline, then the one record, whatever happened. -/
def runFrame (deps : Dependencies) (frame : CycleFrame) (onDemand : Bool) :
    Program (Option PlanRecord) := do
  match recordOf deps (← (pipeline deps frame onDemand).run) with
  | none => return none
  | some record =>
    settle record frame.now
    reportEscalation record
    return some record

/-- The frame of a new cycle; `none` when the backend is not a valid one. -/
def cycleFrame (deps : Dependencies) (greenhouseId : String) (runId : Option RunId) :
    Program (Option CycleFrame) := do
  let moment ← call Op.now
  let state ← call (Op.getState greenhouseId)
  let runId ← mintRunId runId
  let model ← call Op.model
  if nonempty : model ≠ "" then
    return some {
      greenhouseId := greenhouseId
      runId := runId
      now := moment
      backend := ⟨deps.settings.provider, model, deps.settings.promptVersion, .primary, nonempty,
        deps.settings.prompt_nonempty⟩
      horizon := ⟨moment, moment + hours deps.settings.horizonHours⟩
      sourcePlanId := state.lastAppliedPlanId }
  else return none

/-- Run one planning cycle; `none` when an exception escapes it. -/
def runCycle (deps : Dependencies) (greenhouseId : String) (runId : Option RunId)
    (onDemand : Bool) : Program (Option PlanRecord) := do
  match ← cycleFrame deps greenhouseId runId with
  | none => return none
  | some frame => runFrame deps frame onDemand

end Greenhouse.Optimizer
