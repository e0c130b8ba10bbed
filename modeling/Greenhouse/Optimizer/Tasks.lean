import Greenhouse.Optimizer.Progress
import Greenhouse.Optimizer.Scheduler

/-!
# What the tasks may do

Every task is free, or it holds a greenhouse: it has just been started for it, it has claimed
it, or it runs a cycle of it. A free task may claim a greenhouse, or create a task for one, only
if it found it not in flight and awaited nothing since.

* `TaskState.Permits`: the operations permitted.
* `tracks_started`: the tasks of the service perform no others.
-/

namespace Greenhouse.Optimizer

open Greenhouse.Process Prog

/-- What a task is about. A free one knows which greenhouses it found not in flight since it
last awaited something, and the run id it has minted. -/
inductive TaskState where
  | free (found : List String) (runId : Option RunId)
  | starting (greenhouseId : String)
  | claimed (greenhouseId : String) (runId : Option RunId)
  | running (greenhouseId : String) (onDemand : Bool) (progress : Progress)

namespace TaskState

def idle : TaskState := free [] none

/-- The greenhouse that a task holds. -/
def holder : TaskState → Option String
  | free _ _ => none
  | starting g | claimed g _ | running g _ _ => some g

/-- The greenhouse that a task has put in flight. -/
def claims : TaskState → Option String
  | free _ _ | starting _ => none
  | claimed g _ | running g _ _ => some g

/-- The greenhouse that a task runs a cycle of. -/
def runs : TaskState → Option String
  | running g _ _ => some g
  | _ => none

/-- The state after a call. -/
def next : TaskState → (o : Op) → Resp o → TaskState
  | free found runId, .isInFlight g, b => free (if b then found else g :: found) runId
  | free found _, .uuid4, id => free found (some id)
  | free _ runId, .claim g, _ => claimed g runId
  | free _ _, .started, g => starting g
  | free found runId, o, _ => if Awaits o then idle else free found runId
  | starting _, .claim g, _ => claimed g none
  | claimed _ runId, .enter g, _ => running g runId.isSome { runId := runId }
  | claimed _ _, .discard _, _ => idle
  | running _ _ _, .leave g, _ => claimed g none
  | running g onDemand p, o, r => running g onDemand (p.next o r)
  | q, _, _ => q

/-- The operations that a task may perform next. -/
def Permits (deps : Dependencies) : TaskState → Op → Prop
  | free found _, .createTask g | free found _, .claim g => g ∈ found
  | free _ _, .due | free _ _, .listFleet | free _ _, .gather | free _ _, .started
  | free _ _, .discovered _ | free _ _, .enabled | free _ _, .isGreenhouseActive _
  | free _ _, .isInFlight _ | free _ _, .uuid4 => True
  | starting g, .claim g' => g' = g
  | claimed g _, .enter g' | claimed g _, .discard g' => g' = g
  | claimed _ _, .due | claimed _ _, .acquire | claimed _ _, .release => True
  | running g _ _, .leave g' => g' = g
  | running g onDemand p, o => p.Permits deps g onDemand o
  | _, _ => False

end TaskState

/-- What a task may do. -/
def taskProtocol (deps : Dependencies) : Protocol Op Resp TaskState where
  permits q o := q.Permits deps o
  answers _ _ _ := True
  next := TaskState.next

section

variable {deps : Dependencies}

/-- A cycle keeps to its own operations. -/
theorem Progress.Permits.running {p : Progress} {g : String} {onDemand : Bool} {o : Op}
    (h : p.Permits deps g onDemand o) :
    (TaskState.running g onDemand p).Permits deps o ∧
      ∀ r, (TaskState.running g onDemand p).next o r = .running g onDemand (p.next o r) := by
  cases o <;> first | exact h.elim | exact ⟨h, fun _ => rfl⟩

/-- A task that runs a cycle has just entered it, or made one of its steps. -/
theorem TaskState.running_of_next {q : TaskState} {o : Op} {r : Resp o} {g : String}
    {onDemand : Bool} {p : Progress} (hpermits : q.Permits deps o)
    (h : q.next o r = .running g onDemand p) :
    (∃ runId, q = .claimed g runId ∧ p = { runId := runId } ∧ onDemand = runId.isSome) ∨
      ∃ p', q = .running g onDemand p' ∧ p'.Permits deps g onDemand o ∧ p = p'.next o r := by
  cases q with
  | free found runId => cases o <;> cases h
  | starting g' => cases o <;> cases h
  | claimed g' runId =>
    cases o <;> cases h
    exact .inl ⟨runId, by rw [hpermits], rfl, rfl⟩
  | running g' onDemand' p' =>
    cases o <;> cases h <;> exact .inr ⟨p', rfl, hpermits, rfl⟩

theorem obeys_cycle {g : String} {runId : Option RunId} {onDemand : Bool} :
    (runCycle deps g runId onDemand).Obeys (taskProtocol deps)
      (.running g onDemand { runId := runId }) fun q _ => ∃ p, q = .running g onDemand p := by
  have hcycle : (runCycle deps g runId onDemand).Obeys (cycleProtocol deps g onDemand)
      { runId := runId } fun q res => q.Ended deps g res := obeys_runCycle
  have hsimulate : (runCycle deps g runId onDemand).Obeys (taskProtocol deps)
      (.running g onDemand { runId := runId })
      fun q res => ∃ p, q = .running g onDemand p ∧ p.Ended deps g res := by
    refine hcycle.simulate ?_ rfl
    rintro p q o rfl hpermits
    exact ⟨hpermits.running.1, fun r _ => ⟨trivial, hpermits.running.2 r⟩⟩
  refine hsimulate.mono ?_
  rintro q _ ⟨p, rfl, -⟩
  exact ⟨p, rfl⟩

/-- A claimed greenhouse is given up after its cycle. -/
theorem obeys_runClaimed {g : String} {runId : Option RunId} :
    (Scheduler.runClaimed deps g runId runId.isSome).Obeys (taskProtocol deps)
      (.claimed g runId) fun q _ => q = .idle := by
  simp only [Scheduler.runClaimed, obeys_bind, obeys_call]
  refine ⟨trivial, fun _ _ => ⟨rfl, fun _ _ => ?_⟩⟩
  refine obeys_cycle.mono ?_
  rintro q _ ⟨p, rfl⟩
  exact ⟨rfl, fun _ _ => ⟨trivial, fun _ _ => ⟨rfl, fun _ _ => rfl⟩⟩⟩

/-- The greenhouses to dispatch were found not in flight. -/
theorem obeys_eligible {fleet : List FleetMember} {found : List String} :
    (Scheduler.eligible fleet).Obeys (taskProtocol deps) (.free found none) fun q ids =>
      ∃ found', q = .free found' none ∧ (∀ g ∈ found, g ∈ found') ∧ ∀ g ∈ ids, g ∈ found' := by
  induction fleet generalizing found with
  | nil => exact ⟨found, rfl, fun _ h => h, List.forall_mem_nil _⟩
  | cons member fleet ih =>
    simp only [Scheduler.eligible]
    split
    · exact ih
    · simp only [obeys_bind, obeys_call]
      refine ⟨trivial, fun active _ => ?_⟩
      cases active with
      | false => exact ih
      | true =>
        simp only [if_true, obeys_bind, obeys_call]
        refine ⟨trivial, fun inFlight _ => ?_⟩
        cases inFlight with
        | true => exact ih
        | false =>
          simp only [Bool.false_eq_true, if_false, obeys_bind, obeys_pure]
          refine (@ih (member.greenhouseId :: found)).mono ?_
          rintro q ids ⟨found', rfl, hfound, hids⟩
          obtain ⟨hmember, hfound⟩ := List.forall_mem_cons.1 hfound
          exact ⟨found', rfl, hfound, List.forall_mem_cons.2 ⟨hmember, hids⟩⟩

theorem obeys_createTasks {ids found : List String} (h : ∀ g ∈ ids, g ∈ found) :
    (Scheduler.createTasks ids).Obeys (taskProtocol deps) (.free found none) fun q _ =>
      q = .free found none := by
  induction ids with
  | nil => rfl
  | cons g ids ih =>
    obtain ⟨hg, hids⟩ := List.forall_mem_cons.1 h
    simp only [Scheduler.createTasks, obeys_bind, obeys_call]
    exact ⟨hg, fun _ _ => ih hids⟩

theorem obeys_tick : Scheduler.tick.Obeys (taskProtocol deps) .idle fun q _ =>
    ∃ found, q = .free found none := by
  simp only [Scheduler.tick, obeys_bind, obeys_call]
  refine ⟨trivial, fun listed _ => ?_⟩
  cases listed with
  | error text => exact ⟨_, rfl⟩
  | ok fleet =>
    simp only [obeys_bind, obeys_call]
    refine ⟨trivial, fun _ _ => ⟨trivial, fun enabled _ => ?_⟩⟩
    cases enabled with
    | false => exact ⟨_, rfl⟩
    | true =>
      simp only [if_true, obeys_bind]
      refine obeys_eligible.mono ?_
      rintro q ids ⟨found, rfl, -, hids⟩
      split
      · exact ⟨found, rfl⟩
      · simp only [obeys_bind, obeys_call]
        refine (obeys_createTasks hids).mono ?_
        rintro q _ rfl
        exact ⟨trivial, fun _ _ => ⟨_, rfl⟩⟩

theorem obeys_planningLoop {ticks : Nat} {found : List String} :
    (Scheduler.planningLoop ticks).Obeys (taskProtocol deps) (.free found none) fun q _ =>
      ∃ found, q = .free found none := by
  induction ticks generalizing found with
  | zero => exact ⟨found, rfl⟩
  | succ n ih =>
    simp only [Scheduler.planningLoop, obeys_bind, obeys_call]
    refine ⟨trivial, fun _ _ => obeys_tick.mono ?_⟩
    rintro q _ ⟨found, rfl⟩
    exact ih

theorem obeys_dispatched : (Scheduler.dispatched deps).Obeys (taskProtocol deps) .idle
    fun q _ => ∃ found, q = .free found none := by
  simp only [Scheduler.dispatched, Scheduler.dispatch, obeys_bind, obeys_call]
  refine ⟨trivial, fun g _ => ⟨rfl, fun _ _ => obeys_runClaimed.mono ?_⟩⟩
  rintro q _ rfl
  exact ⟨[], rfl⟩

theorem obeys_triggerCycle {g : String} : (Scheduler.triggerCycle deps g).Obeys
    (taskProtocol deps) .idle fun q _ => ∃ found runId, q = .free found runId := by
  simp only [Scheduler.triggerCycle, Scheduler.reserve, obeys_bind, obeys_call]
  refine ⟨trivial, fun _ _ => ⟨trivial, fun active _ => ?_⟩⟩
  cases active with
  | false => exact ⟨_, _, rfl⟩
  | true =>
    simp only [if_true, obeys_bind, obeys_call]
    refine ⟨trivial, fun inFlight _ => ?_⟩
    cases inFlight with
    | true => exact ⟨_, _, rfl⟩
    | false =>
      simp only [Bool.false_eq_true, if_false, obeys_bind, obeys_call]
      refine ⟨trivial, fun runId _ => ⟨List.mem_cons_self, fun _ _ => ⟨trivial, fun _ _ => ?_⟩⟩⟩
      refine (@obeys_runClaimed deps g (some runId)).mono ?_
      rintro q _ rfl
      exact ⟨_, _, rfl⟩

/-- **The tasks of the service perform only what is permitted**, and end free. -/
theorem tracks_started {ticks : Nat} {requested : Nat → String} {world : World} :
    Pool.Tracks (fun _ : Scheduler.Task => taskProtocol deps) (fun _ => .idle)
      (fun _ q _ => ∃ found runId, q = .free found runId)
      (started deps ticks requested world).toPool := by
  have hfree : ∀ {q : TaskState}, (∃ found, q = .free found none) →
      ∃ found runId, q = .free found runId := by
    rintro q ⟨found, h⟩
    exact ⟨found, none, h⟩
  intro task
  cases task with
  | planning => exact obeys_planningLoop.mono fun q _ h => hfree h
  | dispatched n => exact obeys_dispatched.mono fun q _ h => hfree h
  | request n => exact obeys_triggerCycle

end

end Greenhouse.Optimizer
