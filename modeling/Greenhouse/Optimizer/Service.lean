import Greenhouse.Optimizer.Constraints
import Greenhouse.Optimizer.Gating
import Greenhouse.Optimizer.StateChange
import Greenhouse.Process.EventLoop

/-!
# The optimizer service

What the tasks of the service share and call: the operator's overrides, the records and the
memory of each greenhouse, the scheduler's guards, the clients of the platform and the planner.
The records' texts that come from a library's own exceptions are left open, and so are the
metrics, the log and the escalations, which no cycle raises any more.

* `Awaits`: the operations that suspend a task.
* `Effect`: how the operations are answered, and the world after them.
-/

namespace Greenhouse.Optimizer

open Greenhouse.Numeric Greenhouse.Platform Greenhouse.Process

/-! ## Settings -/

/-- The settings a cycle reads. -/
structure Settings where
  provider : Provider
  promptVersion : String
  horizonHours : Int := 12
  stateChangeThreshold : ℚ := 1 / 20
  confidenceThreshold : ℚ := 4 / 5
  dataQuality : DataQualitySettings := {}
  divergenceThreshold : ℚ := 3 / 20
  fidelityBreachCycles : Nat := 3
  maxConcurrentCycles : Nat := 4
  cycleTimeoutSeconds : ℚ := 90
  prompt_nonempty : promptVersion ≠ ""

/-- The predicted climate of a baseline. -/
structure TwinResult where
  points : Forecast
  diverged : Bool := false
  deriving DecidableEq

/-- The dependencies of a cycle: the twin from a context to an instant, which may raise, the
JSON schema of plans, which gives the text of a violation, and the text of the error that a
model of the given name raises for an invalid value. -/
structure Dependencies where
  settings : Settings
  params : TwinParams
  simulate : PlanningContext → Instant → Except String TwinResult
  validateOptimizerPlan : OptimizerPlan → Option String
  validationError : String → String

/-! ## Records -/

abbrev RunId := String

/-- Which model and prompt produced a plan. -/
structure Backend where
  provider : Provider
  model : String
  promptVersion : String
  role : BackendRole
  model_nonempty : model ≠ ""
  prompt_nonempty : promptVersion ≠ ""

/-- What a cycle decided; a held or failed one has a reason. -/
structure Outcome where
  status : OutcomeStatus
  reasonCode : Option ReasonCode
  message : Option String
  reason : status = .held ∨ status = .failed → reasonCode ≠ none

def planRecordSchemaVersion : Int := 1

/-- The envelope of a cycle's plan. -/
structure PlanRecord where
  optimizerRunId : RunId
  greenhouseId : String
  createdAt : Instant
  horizon : Horizon
  backend : Backend
  plan : Option OptimizerPlan
  sourcePlanId : Option RunId
  outcome : Outcome
  schemaVersion : Int := planRecordSchemaVersion
  slug : validSlug greenhouseId = true
  plan_of_applied : outcome.status = .applied → plan ≠ none

def maxHistoryPerGreenhouse : Nat := 64

/-- The latest record of each greenhouse, and a bounded history. -/
structure PlanStore where
  latest : String → Option PlanRecord := fun _ => none
  history : String → List PlanRecord := fun _ => []

/-- Store a completed cycle's record. -/
def PlanStore.record (s : PlanStore) (r : PlanRecord) : PlanStore where
  latest := Function.update s.latest r.greenhouseId (some r)
  history :=
    let h := s.history r.greenhouseId ++ [r]
    Function.update s.history r.greenhouseId (h.drop (h.length - maxHistoryPerGreenhouse))

/-- The planner's memory of a greenhouse from cycle to cycle. -/
structure GreenhouseState where
  lastAppliedPlanId : Option RunId := none
  lastAppliedSetpoints : Option SetpointsPatch := none
  retainedTrajectory : Option (List TrajectoryPoint) := none
  lastForecast : Option Forecast := none
  referenceForecast : Option Forecast := none
  consecutiveFidelityBreaches : Nat := 0

/-- The step a cycle is executing. -/
inductive CycleStage where
  | ingest
  | qualityGate
  | forecast
  | plan
  | constrain
  | publish
  deriving DecidableEq

/-! ## Calls -/

/-- A response of the platform, with its body as far as it decodes. -/
structure HttpReply (α : Type) where
  status : Nat
  body : α

/-- An exception that no step catches: a `TimeoutError`, which is also what the deadline of
the deliberation raises, or any other, with its type and text. -/
inductive Raised where
  | timeout
  | error (text : String)

/-- Why a request fails: the platform is not reached, or anything else is raised. -/
inductive RequestFailure where
  | transport (text : String)
  | other (raised : Raised)

/-- Why there are no headers: no service token, or anything else is raised. -/
inductive AuthFailure where
  | token (text : String)
  | other (raised : Raised)

/-- A plan with the backend that produced it. -/
structure BackendOutput where
  plan : OptimizerPlan
  provider : Provider
  model : String
  role : BackendRole

/-- How the planner answers; an over-budget context is among the unavailable. -/
inductive Proposal where
  | proposed (output : BackendOutput)
  | noChange
  | unparseable (text : String)
  | unavailable (text : String)
  | other (raised : Raised)

/-- A setpoint submission under its trace header. -/
structure Submission where
  greenhouseId : String
  patch : SetpointsPatch
  runId : RunId

structure FleetMember where
  greenhouseId : String
  online : Bool
  deriving DecidableEq

/-- The operations of the service's tasks. -/
inductive Op where
  -- clock and ids
  | now
  | uuid4
  -- operator overrides
  | enabled
  | isGreenhouseActive (greenhouseId : String)
  | model
  -- memory and records
  | getState (greenhouseId : String)
  | setLastForecast (greenhouseId : String) (points : Forecast)
  | setBreaches (greenhouseId : String) (breaches : Nat)
  | setApplied (greenhouseId : String) (runId : RunId) (plan : OptimizerPlan)
      (reference : Forecast)
  | advanceStage (greenhouseId : String) (stage : CycleStage)
  | record (r : PlanRecord)
  | setLastSuccessful (time : Instant)
  -- the scheduler's guards and tasks
  | isInFlight (greenhouseId : String)
  | claim (greenhouseId : String)
  | discard (greenhouseId : String)
  | release
  | createTask (greenhouseId : String)
  | discovered (greenhouseIds : List String)
  | enter (greenhouseId : String)
  | leave (greenhouseId : String)
  -- a request leaves
  | send (submission : Submission)
  -- operations that suspend the task
  | started
  | due
  | acquire
  | gather
  | listFleet
  | getPlanningContext (greenhouseId : String)
  | propose (ctx : PlanningContext) (baseline : Forecast) (horizon : Horizon) (model : String)
      (now : Instant)
  | authHeaders
  | receive (runId : RunId)
  | reportOutcome (r : PlanRecord)

/-- What an operation is answered. -/
abbrev Resp : Op → Type
  | .now => Instant
  | .uuid4 => RunId
  | .enabled | .isGreenhouseActive _ | .isInFlight _ => Bool
  | .model => String
  | .getState _ => GreenhouseState
  | .started => String
  | .listFleet => Except String (List FleetMember)
  | .getPlanningContext _ => Except RequestFailure (HttpReply (Except String PlanningContext))
  | .propose .. => Proposal
  | .authHeaders => Except AuthFailure Unit
  | .receive _ => Except RequestFailure (HttpReply String)
  | .reportOutcome _ => Except String Unit
  | _ => Unit

abbrev Program (α : Type) := Prog Op Resp α

/-- The operations that suspend a task. -/
def Awaits : Op → Bool
  | .started | .due | .acquire | .gather | .listFleet | .getPlanningContext _ | .propose ..
  | .authHeaders | .receive _ | .reportOutcome _ => true
  | _ => false

/-! ## The world -/

/-- The operator's overrides. -/
structure Runtime where
  enabled : Bool := true
  greenhouses : String → Option Bool := fun _ => none
  model : String

/-- A greenhouse is enabled by default. -/
def Runtime.greenhouseEnabled (r : Runtime) (greenhouseId : String) : Bool :=
  (r.greenhouses greenhouseId).getD true

def Runtime.isGreenhouseActive (r : Runtime) (greenhouseId : String) : Bool :=
  r.enabled && r.greenhouseEnabled greenhouseId

def Runtime.setEnabled (r : Runtime) (enabled : Bool) : Runtime := { r with enabled }

def Runtime.setGreenhouseEnabled (r : Runtime) (greenhouseId : String) (enabled : Bool) :
    Runtime :=
  { r with greenhouses := Function.update r.greenhouses greenhouseId (some enabled) }

/-- What the tasks share. Of the tasks created and not yet started, `spawned` holds the
greenhouses; `running` holds those of the cycles in flight. -/
structure World where
  runtime : Runtime
  states : String → GreenhouseState := fun _ => {}
  plans : PlanStore := {}
  progress : String → Option CycleStage := fun _ => none
  lastSuccessfulCycleAt : Option Instant := none
  knownGreenhouseIds : List String := []
  inFlight : List String := []
  permits : Nat
  spawned : List String := []
  running : List String := []
  runIds : List RunId := []
  requests : List Submission := []
  replies : List (RunId × HttpReply String) := []

namespace World

/-- Change the memory of a greenhouse. -/
def modify (w : World) (greenhouseId : String) (f : GreenhouseState → GreenhouseState) : World :=
  { w with states := Function.update w.states greenhouseId (f (w.states greenhouseId)) }

/-- The world after an operation that is not about tasks or messages. -/
def after (w : World) : (o : Op) → World
  | .setLastForecast g points => w.modify g fun s => { s with lastForecast := some points }
  | .setBreaches g n => w.modify g fun s => { s with consecutiveFidelityBreaches := n }
  | .setApplied g runId plan reference => w.modify g fun s => { s with
      lastAppliedPlanId := some runId
      lastAppliedSetpoints := some plan.immediateSetpoints
      retainedTrajectory := some plan.trajectory
      referenceForecast := some reference }
  | .advanceStage g stage => { w with progress := Function.update w.progress g (some stage) }
  | .record r => { w with plans := w.plans.record r }
  | .setLastSuccessful time => { w with lastSuccessfulCycleAt := some time }
  | .claim g => { w with inFlight := g :: w.inFlight }
  | .discard g => { w with inFlight := w.inFlight.filter (· ≠ g) }
  | .release => { w with permits := w.permits + 1 }
  | .createTask g => { w with spawned := g :: w.spawned }
  | .discovered ids => { w with knownGreenhouseIds := w.knownGreenhouseIds ++ ids }
  | .enter g => { w with running := g :: w.running }
  | .leave g => { w with running := w.running.erase g }
  | .send submission => { w with requests := submission :: w.requests }
  | _ => w

end World

/-- How the operations are answered, and the world after them. Ids are fresh; a started task
is one that was created; a reply is one that came, or none came. -/
def Effect : Env Op Resp World := fun w o r w' =>
  match o, r with
  | .uuid4, id => id ∉ w.runIds ∧ w' = { w with runIds := id :: w.runIds }
  | .enabled, b => b = w.runtime.enabled ∧ w' = w
  | .isGreenhouseActive g, b => b = w.runtime.isGreenhouseActive g ∧ w' = w
  | .model, m => m = w.runtime.model ∧ w' = w
  | .getState g, s => s = w.states g ∧ w' = w
  | .isInFlight g, b => b = decide (g ∈ w.inFlight) ∧ w' = w
  | .started, g => g ∈ w.spawned ∧ w' = { w with spawned := w.spawned.erase g }
  | .acquire, _ => 0 < w.permits ∧ w' = { w with permits := w.permits - 1 }
  | .receive _, .error _ => w' = w
  | .receive id, .ok reply => (id, reply) ∈ w.replies ∧
      w' = { w with replies := w.replies.filter fun x => x.1 ≠ id }
  | o, _ => w' = w.after o

end Greenhouse.Optimizer
