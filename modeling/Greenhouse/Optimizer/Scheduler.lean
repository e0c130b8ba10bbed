import Greenhouse.Optimizer.Cycle

/-!
# The scheduler

The planning loop dispatches a cycle for every eligible greenhouse; a request triggers a cycle
of one. At most `maxConcurrentCycles` run at once, and within one greenhouse a claim is to keep
a second one out.

* `program`: the tasks of the service, with as many ticks as one likes.
* `service`: the event loop, in which an operator may change an override at any await.
-/

namespace Greenhouse.Optimizer

open Greenhouse.Process Prog

namespace Scheduler

variable (deps : Dependencies)

/-! ## Cycles under the guards -/

/-- Run a cycle of a claimed greenhouse under the ceiling, then give up the claim. -/
def runClaimed (greenhouseId : String) (runId : Option RunId) (onDemand : Bool) :
    Program Unit := do
  call Op.acquire
  call (Op.enter greenhouseId)
  let _ ← runCycle deps greenhouseId runId onDemand
  call (Op.leave greenhouseId)
  call Op.release
  call (Op.discard greenhouseId)

/-- Run one scheduled cycle. -/
def dispatch (greenhouseId : String) : Program Unit := do
  call (Op.claim greenhouseId)
  runClaimed deps greenhouseId none false

/-- Execute a cycle that was reserved. -/
def runReserved (greenhouseId : String) (runId : RunId) : Program Unit :=
  runClaimed deps greenhouseId (some runId) true

/-- Reserve an on-demand cycle; refused while paused or already planning. -/
def reserve (greenhouseId : String) : Program (Option RunId) := do
  if ← call (Op.isGreenhouseActive greenhouseId) then
    if ← call (Op.isInFlight greenhouseId) then return none
    else
      let runId ← call Op.uuid4
      call (Op.claim greenhouseId)
      return some runId
  else return none

/-! ## Ticks -/

/-- The greenhouses to dispatch: online, active and not in flight. -/
def eligible : List FleetMember → Program (List String)
  | [] => return []
  | member :: fleet => do
    if !member.online then eligible fleet
    else if ← call (Op.isGreenhouseActive member.greenhouseId) then
      if ← call (Op.isInFlight member.greenhouseId) then eligible fleet
      else return member.greenhouseId :: (← eligible fleet)
    else eligible fleet

/-- Create a task for each greenhouse. -/
def createTasks : List String → Program Unit
  | [] => return ()
  | greenhouseId :: ids => do
    call (Op.createTask greenhouseId)
    createTasks ids

/-- One cadence tick: dispatch every eligible greenhouse concurrently. -/
def tick : Program Unit := do
  match ← call Op.listFleet with
  | .error _ => return ()
  | .ok fleet =>
    call (Op.discovered (fleet.map (·.greenhouseId)))
    if ← call Op.enabled then
      let ids ← eligible fleet
      if ids = [] then return ()
      else
        createTasks ids
        call Op.gather
    else return ()

/-- The planning loop: tick after tick. -/
def planningLoop : Nat → Program Unit
  | 0 => return ()
  | n + 1 => do
    call Op.due
    tick
    planningLoop n

/-! ## The tasks -/

/-- A task that was created for a greenhouse, once it starts. -/
def dispatched : Program Unit := do
  dispatch deps (← call Op.started)

/-- A request for a cycle; the cycle runs after the response. -/
def triggerCycle (greenhouseId : String) : Program Unit := do
  call Op.due
  match ← reserve greenhouseId with
  | none => return ()
  | some runId =>
    call Op.due
    runReserved deps greenhouseId runId

/-- The tasks: the planning loop, those it creates, and requests. -/
inductive Task where
  | planning
  | dispatched (n : Nat)
  | request (n : Nat)
  deriving DecidableEq

/-- What a task does, for a number of ticks and the greenhouses that requests name. -/
def program (ticks : Nat) (requested : Nat → String) : Task → Program Unit
  | .planning => planningLoop ticks
  | .dispatched _ => dispatched deps
  | .request n => triggerCycle deps (requested n)

end Scheduler

/-! ## The service -/

/-- What happens outside the tasks. -/
inductive Outside where
  | setEnabled (enabled : Bool)
  | setGreenhouseEnabled (greenhouseId : String) (enabled : Bool)
  | setModel (model : String)
  | prune (keep : PlanRecord → Bool)
  | delivered (submission : Submission)
  | replied (runId : RunId) (reply : HttpReply String)

/-- Drop old records; the latest of a greenhouse stays in force. -/
def PlanStore.prune (s : PlanStore) (keep : PlanRecord → Bool) : PlanStore :=
  { s with history := fun g => (s.history g).filter keep }

/-- The world after something happened outside: an override was changed, the sweep ran, a
request reached the platform, or a reply came. -/
def World.afterOutside (w : World) : Outside → World
  | .setEnabled enabled => { w with runtime := w.runtime.setEnabled enabled }
  | .setGreenhouseEnabled g enabled =>
    { w with runtime := w.runtime.setGreenhouseEnabled g enabled }
  | .setModel model => { w with runtime := { w.runtime with model } }
  | .prune keep => { w with plans := w.plans.prune keep }
  | .delivered submission =>
    { w with requests := w.requests.filter fun s => s.runId ≠ submission.runId }
  | .replied runId reply => { w with replies := (runId, reply) :: w.replies }

/-- The event loop of the service. -/
def service : Machine Op Resp World Outside where
  awaits := Awaits
  env := Effect
  outside w e w' := w' = w.afterOutside e

/-- The service as it starts, in a world without tasks. -/
def started (deps : Dependencies) (ticks : Nat) (requested : Nat → String) (world : World) :
    Loop Scheduler.Task Op Resp Unit World where
  world := world
  left := Scheduler.program deps ticks requested

/-! ## A service to try things on -/

namespace Bench

def settings : Settings where
  provider := .ollama
  promptVersion := "v5"
  dataQuality := { requiredMetrics := [] }
  prompt_nonempty := by decide

/-- A climate that stays as it is. -/
def steady (start stop : Instant) : Forecast :=
  [⟨start, 20, 60, 800, 0⟩, ⟨stop, 20, 60, 800, 0⟩]

def deps : Dependencies where
  settings := settings
  params := ⟨fun _ => 0, fun _ => 100⟩
  simulate ctx stop := .ok { points := steady ctx.stop stop }
  validateOptimizerPlan _ := none
  validationError _ := ""

def world : World where
  runtime := { model := "qwen2.5:7b" }
  permits := 4

/-- The first platform reply to a run, or none came. -/
def receive (w : World) (id : RunId) : Except RequestFailure (HttpReply String) × World :=
  match w.replies.find? (·.1 = id) with
  | some (_, reply) => (.ok reply, { w with replies := w.replies.filter fun x => x.1 ≠ id })
  | none => (.error (.transport "no response"), w)

/-- The answers of a fleet of one greenhouse, with a planner that always answers alike. -/
def serve (answer : Proposal) (w : World) : (o : Op) → Option (Resp o × World)
  | .now => some (0, w)
  | .uuid4 =>
    let id := "run-" ++ toString w.runIds.length
    if id ∈ w.runIds then none else some (id, { w with runIds := id :: w.runIds })
  | .enabled => some (w.runtime.enabled, w)
  | .isGreenhouseActive g => some (w.runtime.isGreenhouseActive g, w)
  | .model => some (w.runtime.model, w)
  | .getState g => some (w.states g, w)
  | .isInFlight g => some (decide (g ∈ w.inFlight), w)
  | .started => w.spawned.head?.map fun g => (g, { w with spawned := w.spawned.erase g })
  | .acquire => if 0 < w.permits then some ((), { w with permits := w.permits - 1 }) else none
  | .receive id => some (receive w id)
  | .listFleet => some (.ok [⟨"gh-a", true⟩], w)
  | .getPlanningContext _ => some (.ok ⟨200, .ok context⟩, w)
  | .propose .. => some (answer, w)
  | .authHeaders => some (.ok (), w)
  | .reportOutcome _ => some (.ok (), w)
  | .due => some ((), w)
  | .gather => some ((), w)
  | .setLastForecast g points => some ((), w.after (.setLastForecast g points))
  | .setBreaches g n => some ((), w.after (.setBreaches g n))
  | .setApplied g id plan reference => some ((), w.after (.setApplied g id plan reference))
  | .advanceStage g stage => some ((), w.after (.advanceStage g stage))
  | .record r => some ((), w.after (.record r))
  | .setLastSuccessful time => some ((), w.after (.setLastSuccessful time))
  | .claim g => some ((), w.after (.claim g))
  | .discard g => some ((), w.after (.discard g))
  | .release => some ((), w.after .release)
  | .createTask g => some ((), w.after (.createTask g))
  | .discovered ids => some ((), w.after (.discovered ids))
  | .enter g => some ((), w.after (.enter g))
  | .leave g => some ((), w.after (.leave g))
  | .send submission => some ((), w.after (.send submission))

theorem effect_serve {answer : Proposal} {w w' : World} {o : Op} {r : Resp o}
    (h : serve answer w o = some (r, w')) : Effect w o r w' := by
  cases o with
  | uuid4 =>
    simp only [serve] at h
    split at h
    · cases h
    · rename_i hfresh
      cases h
      exact ⟨hfresh, rfl⟩
  | started =>
    obtain ⟨g, hg, heq⟩ := Option.map_eq_some_iff.1 h
    cases heq
    exact ⟨List.mem_of_mem_head? hg, rfl⟩
  | acquire =>
    simp only [serve] at h
    split at h
    · rename_i hpermits
      cases h
      exact ⟨hpermits, rfl⟩
    · cases h
  | receive id =>
    simp only [serve, receive, Option.some.injEq] at h
    split at h
    · rename_i id' reply hfind
      cases h
      have hid : id' = id := by simpa using List.find?_some hfind
      exact ⟨hid ▸ List.mem_of_find?_eq_some hfind, rfl⟩
    · cases h
      rfl
  | _ =>
    cases h
    first
      | exact rfl
      | exact ⟨rfl, rfl⟩

/-- A service with one tick, and requests for the same greenhouse. -/
def start : Loop Scheduler.Task Op Resp Unit World := started deps 1 (fun _ => "gh-a") world

/-- A planner that always proposes the same update. -/
def proposed : Proposal := .proposed ⟨plan warmer, .ollama, "qwen2.5:7b", .primary⟩

def moves (task : Scheduler.Task) (n : Nat) : List (Loop.Move Scheduler.Task Outside) :=
  List.replicate n (.task task)

def served (answer : Proposal) : Loop.Served Op Resp World Outside where
  awaits := Awaits
  serve := serve answer
  outside w e := some (w.afterOutside e)

theorem allows_served (answer : Proposal) : Loop.Allows service (served answer) where
  awaits := rfl
  serve _ _ _ _ h := effect_serve h
  outside _ _ _ h := (Option.some.inj h).symm

end Bench

end Greenhouse.Optimizer
