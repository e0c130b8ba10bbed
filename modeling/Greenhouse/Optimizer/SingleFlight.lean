import Greenhouse.Optimizer.Tasks
import Greenhouse.Process.Exclusive

/-!
# Single flight

Whether at most one cycle of a greenhouse is in flight. A claim is checked and taken without an
await in between, except that a tick checks it when it creates a task and the task takes it when
it starts: what comes in between is not seen.

* `Flight`: the invariant, over every interleaving that keeps a greenhouse whose task has not
  started from being claimed or given another task.
-/

namespace Greenhouse.Optimizer

open Greenhouse.Process

/-- The operations on the claims, the tasks created and the cycles in flight. -/
def Op.manages : Op → Bool
  | .claim _ | .discard _ | .createTask _ | .started | .enter _ | .leave _ => true
  | _ => false

/-- Any other operation leaves them alone. -/
theorem lists_of_effect {w w' : World} {o : Op} {r : Resp o} (h : Effect w o r w')
    (ho : o.manages = false) :
    w'.inFlight = w.inFlight ∧ w'.running = w.running ∧ w'.spawned = w.spawned := by
  cases o with
  | claim g => cases ho
  | discard g => cases ho
  | createTask g => cases ho
  | started => cases ho
  | enter g => cases ho
  | leave g => cases ho
  | receive id =>
    cases r with
    | error failure =>
      obtain rfl := h
      exact ⟨rfl, rfl, rfl⟩
    | ok reply =>
      obtain ⟨-, rfl⟩ := h
      exact ⟨rfl, rfl, rfl⟩
  | _ =>
    first
      | obtain rfl := h
        exact ⟨rfl, rfl, rfl⟩
      | obtain ⟨-, rfl⟩ := h
        exact ⟨rfl, rfl, rfl⟩

/-- Any other operation leaves what a task holds alone. -/
theorem TaskState.next_of_quiet {q : TaskState} {o : Op} (r : Resp o) (ho : o.manages = false) :
    (q.next o r).holder = q.holder ∧ (q.next o r).claims = q.claims ∧
      (q.next o r).runs = q.runs := by
  cases q <;> cases o <;> first | exact ⟨rfl, rfl, rfl⟩ | cases ho

/-- What a task has found, it found before or is told. -/
theorem TaskState.found_of_next {q : TaskState} {o : Op} {r : Resp o} {found : List String}
    {runId : Option RunId} (ho : o.manages = false) (h : q.next o r = .free found runId)
    {g : String} (hg : g ∈ found) :
    (∃ found' runId', q = .free found' runId' ∧ g ∈ found' ∧ Awaits o = false) ∨
      (⟨o, r⟩ : Call Op Resp) = ⟨.isInFlight g, false⟩ := by
  have hnil : g ∉ ([] : List String) := List.not_mem_nil
  cases q with
  | free found' runId' =>
    cases o with
    | isInFlight g' =>
      cases r with
      | true =>
        cases h
        exact .inl ⟨_, _, rfl, hg, rfl⟩
      | false =>
        cases h
        rcases List.mem_cons.1 hg with rfl | hg
        · exact .inr rfl
        · exact .inl ⟨_, _, rfl, hg, rfl⟩
    | _ =>
      cases h <;> first
        | exact absurd hg hnil
        | exact .inl ⟨_, _, rfl, hg, rfl⟩
  | starting g' => cases o <;> cases h
  | claimed g' runId' =>
    cases o <;> cases h
    exact absurd hg hnil
  | running g' onDemand p => cases o <;> cases h

abbrev States := Scheduler.Task → TaskState

/-- The claims name the greenhouses in flight, and nothing is held twice. -/
structure Flight (w : World) (qs : States) (turn : Option Scheduler.Task) : Prop where
  exclusive : Exclusive fun i => (qs i).holder
  inFlight : Tallies w.inFlight fun i => (qs i).claims
  running : Tallies w.running fun i => (qs i).runs
  nodup : w.running.Nodup
  spawned : w.spawned.Nodup
  waiting : ∀ g ∈ w.spawned, ∀ i, (qs i).holder ≠ some g
  starting : ∀ i g, qs i = .starting g → turn = some i
  found : ∀ i found runId, qs i = .free found runId → turn = some i →
    ∀ g ∈ found, g ∉ w.inFlight

theorem comp_update {α β : Type} (f : α → β) (qs : Scheduler.Task → α) (i : Scheduler.Task)
    (q : α) : (fun j => f (Function.update qs i q j)) =
      Function.update (fun j => f (qs j)) i (f q) := Function.comp_update f qs i q

section

variable {deps : Dependencies} {w w' : World} {qs : States} {turn : Option Scheduler.Task}
  {i : Scheduler.Task}

/-- The invariant after a step of a task, from what changed. -/
theorem Flight.step (h : Flight w qs turn) {q : TaskState} (hturn : turn = none ∨ turn = some i)
    (hholder : ∀ g, q.holder = some g → ∀ j, (qs j).holder = some g → j = i)
    (hinFlight : Tallies w'.inFlight (Function.update (fun j => (qs j).claims) i q.claims))
    (hrunning : Tallies w'.running (Function.update (fun j => (qs j).runs) i q.runs))
    (hnodup : w'.running.Nodup) (hspawned : w'.spawned.Nodup)
    (hwaiting : ∀ g ∈ w'.spawned, q.holder ≠ some g ∧ ∀ j, j ≠ i → (qs j).holder ≠ some g)
    (hfound : ∀ found runId, q = .free found runId → ∀ g ∈ found, g ∉ w'.inFlight) :
    Flight w' (Function.update qs i q) (some i) where
  exclusive := by
    rw [comp_update]
    exact h.exclusive.update hholder
  inFlight := by rwa [comp_update]
  running := by rwa [comp_update]
  nodup := hnodup
  spawned := hspawned
  waiting g hg j := by
    by_cases hj : j = i
    · subst hj
      rw [Function.update_self]
      exact (hwaiting g hg).1
    · rw [Function.update_of_ne hj]
      exact (hwaiting g hg).2 j hj
  starting j g hj := by
    by_cases hji : j = i
    · rw [hji]
    · rw [Function.update_of_ne hji] at hj
      have hother := h.starting j g hj
      rcases hturn with hnone | hsome
      · simp [hnone] at hother
      · exact hsome ▸ hother
  found j found runId hj heq := by
    cases Option.some.inj heq
    rw [Function.update_self] at hj
    exact hfound found runId hj

/-- A task runs what it has claimed, and holds it. -/
theorem TaskState.holder_of_claims {q : TaskState} {g : String} (h : q.claims = some g) :
    q.holder = some g := by
  cases q <;> first | exact h | cases h

theorem TaskState.claims_of_runs {q : TaskState} {g : String} (h : q.runs = some g) :
    q.claims = some g := by
  cases q <;> first | exact h | cases h

/-- Whoever holds a greenhouse that is not in flight has just been started for it. -/
theorem Flight.turn_of_holder (h : Flight w qs turn) {g : String} (hg : g ∉ w.inFlight)
    {j : Scheduler.Task} (hj : (qs j).holder = some g) : turn = some j := by
  cases hq : qs j with
  | free found runId =>
    rw [hq] at hj
    cases hj
  | starting g' => exact h.starting j g' hq
  | claimed g' runId =>
    rw [hq] at hj
    cases hj
    exact absurd ((h.inFlight g).2 ⟨j, by simp [hq, TaskState.claims]⟩) hg
  | running g' onDemand p =>
    rw [hq] at hj
    cases hj
    exact absurd ((h.inFlight g).2 ⟨j, by simp [hq, TaskState.claims]⟩) hg

/-- The operations that are not about claims, tasks or cycles in flight. -/
theorem Flight.quiet (h : Flight w qs turn) {o : Op} {r : Resp o} (ho : o.manages = false)
    (hturn : turn = none ∧ Awaits o = true ∨ turn = some i) (he : Effect w o r w') :
    Flight w' (Function.update qs i ((qs i).next o r)) (some i) := by
  obtain ⟨hin, hrun, hspawned⟩ := lists_of_effect he ho
  obtain ⟨hholder, hclaims, hruns⟩ := (qs i).next_of_quiet r ho
  refine h.step (hturn.imp_left And.left) ?_ ?_ ?_ ?_ ?_ ?_ ?_
  · intro g hg j hj
    exact h.exclusive j i g hj (hholder.symm.trans hg)
  · rw [hin]
    exact h.inFlight.keep hclaims.symm
  · rw [hrun]
    exact h.running.keep hruns.symm
  · rw [hrun]
    exact h.nodup
  · rw [hspawned]
    exact h.spawned
  · intro g hg
    rw [hspawned] at hg
    exact ⟨hholder ▸ h.waiting g hg i, fun j _ => h.waiting g hg j⟩
  · intro found runId hfree g hg
    rw [hin]
    rcases TaskState.found_of_next ho hfree hg with ⟨found', runId', hq, hg', hawaits⟩ | hcall
    · rcases hturn with ⟨-, hawaits'⟩ | hturn
      · simp [hawaits] at hawaits'
      · exact h.found i found' runId' hq hturn g hg'
    · cases hcall
      simpa using he.1.symm

/-- A task takes a greenhouse that no other one holds. -/
theorem Flight.claim (h : Flight w qs turn) {g : String} {runId : Option RunId}
    (hturn : turn = some i) (hclaims : (qs i).claims = none)
    (hfree : ∀ j, (qs j).holder = some g → j = i) (hspawned : g ∉ w.spawned) :
    Flight (w.after (.claim g)) (Function.update qs i (.claimed g runId)) (some i) := by
  have hruns : (qs i).runs = none := by
    by_contra hne
    obtain ⟨x, hx⟩ := Option.ne_none_iff_exists'.1 hne
    rw [TaskState.claims_of_runs hx] at hclaims
    cases hclaims
  refine h.step (.inr hturn) ?_ ?_ ?_ h.nodup h.spawned ?_ ?_
  · intro g' hg' j hj
    cases hg'
    exact hfree j hj
  · exact h.inFlight.take hclaims fun x => List.mem_cons
  · exact h.running.keep hruns
  · intro x hx
    refine ⟨fun heq => ?_, fun j _ => h.waiting x hx j⟩
    cases heq
    exact hspawned hx
  · intro found runId' heq
    cases heq

theorem Flight.createTask (h : Flight w qs turn) {g : String} {found : List String}
    {runId : Option RunId} (hturn : turn = some i) (hq : qs i = .free found runId)
    (hg : g ∈ found) (hspawned : g ∉ w.spawned) :
    Flight (w.after (.createTask g)) (Function.update qs i (.free found runId)) (some i) := by
  have hidle := h.found i found runId hq hturn g hg
  have hunheld : ∀ j, (qs j).holder ≠ some g := by
    intro j hj
    have hji := hturn.symm.trans (h.turn_of_holder hidle hj)
    cases hji
    rw [hq] at hj
    cases hj
  refine h.step (.inr hturn) ?_ ?_ ?_ h.nodup ?_ ?_ ?_
  · intro g' hg'
    cases hg'
  · exact h.inFlight.keep (by rw [hq])
  · exact h.running.keep (by rw [hq])
  · exact List.nodup_cons.2 ⟨hspawned, h.spawned⟩
  · intro x hx
    refine ⟨by simp [TaskState.holder], fun j _ => ?_⟩
    rcases List.mem_cons.1 hx with rfl | hx
    · exact hunheld j
    · exact h.waiting x hx j
  · intro found' runId' heq
    cases heq
    exact h.found i found runId hq hturn

theorem Flight.started (h : Flight w qs none) {g : String} (hq : (qs i).holder = none)
    (hg : g ∈ w.spawned) :
    Flight { w with spawned := w.spawned.erase g } (Function.update qs i (.starting g))
      (some i) := by
  have hclaims : (qs i).claims = none := by
    by_contra hne
    obtain ⟨x, hx⟩ := Option.ne_none_iff_exists'.1 hne
    rw [TaskState.holder_of_claims hx] at hq
    cases hq
  have hruns : (qs i).runs = none := by
    by_contra hne
    obtain ⟨x, hx⟩ := Option.ne_none_iff_exists'.1 hne
    rw [TaskState.claims_of_runs hx] at hclaims
    cases hclaims
  refine h.step (.inl rfl) ?_ (h.inFlight.keep hclaims) (h.running.keep hruns) h.nodup
    (h.spawned.erase g) ?_ ?_
  · intro g' hg' j hj
    cases hg'
    exact absurd hj (h.waiting g hg j)
  · intro x hx
    obtain ⟨hne, hx⟩ := (h.spawned.mem_erase_iff).1 hx
    refine ⟨fun heq => ?_, fun j _ => h.waiting x hx j⟩
    cases heq
    exact hne rfl
  · intro found runId heq
    cases heq

/-- A claimed greenhouse is entered by one cycle. -/
theorem Flight.enter (h : Flight w qs turn) {g : String} {runId : Option RunId}
    {onDemand : Bool} {p : Progress} (hturn : turn = some i) (hq : qs i = .claimed g runId) :
    Flight (w.after (.enter g)) (Function.update qs i (.running g onDemand p)) (some i) := by
  have hholds : ∀ j, (qs j).holder = some g → j = i := fun j hj =>
    h.exclusive j i g hj (by simp [hq, TaskState.holder])
  have hout : g ∉ w.running := by
    intro hg
    obtain ⟨j, hj⟩ := (h.running g).1 hg
    have hji := hholds j (TaskState.holder_of_claims (TaskState.claims_of_runs hj))
    simp [hji, hq, TaskState.runs] at hj
  refine h.step (.inr hturn) ?_ (h.inFlight.keep ?_) (h.running.take ?_ fun x => List.mem_cons)
    (List.nodup_cons.2 ⟨hout, h.nodup⟩) h.spawned ?_ ?_
  · intro g' hg'
    cases hg'
    exact hholds
  · simp [hq, TaskState.claims]
  · simp [hq, TaskState.runs]
  · intro x hx
    refine ⟨fun heq => h.waiting x hx i ?_, fun j _ => h.waiting x hx j⟩
    simpa [hq, TaskState.holder] using heq
  · intro found runId' heq
    cases heq

theorem Flight.leave (h : Flight w qs turn) {g : String} {onDemand : Bool} {p : Progress}
    (hturn : turn = some i) (hq : qs i = .running g onDemand p) :
    Flight (w.after (.leave g)) (Function.update qs i (.claimed g none)) (some i) := by
  have hholds : ∀ j, (qs j).holder = some g → j = i := fun j hj =>
    h.exclusive j i g hj (by simp [hq, TaskState.holder])
  have hruns : Exclusive fun j => (qs j).runs := fun a b x ha hb => h.exclusive a b x
    (TaskState.holder_of_claims (TaskState.claims_of_runs ha))
    (TaskState.holder_of_claims (TaskState.claims_of_runs hb))
  refine h.step (.inr hturn) ?_ (h.inFlight.keep ?_) (h.running.drop hruns (k := g) ?_ fun x => ?_)
    (h.nodup.erase g) h.spawned ?_ ?_
  · intro g' hg'
    cases hg'
    exact hholds
  · simp [hq, TaskState.claims]
  · simp [hq, TaskState.runs]
  · rw [World.after, h.nodup.mem_erase_iff, and_comm]
  · intro x hx
    refine ⟨fun heq => h.waiting x hx i ?_, fun j _ => h.waiting x hx j⟩
    simpa [hq, TaskState.holder] using heq
  · intro found runId' heq
    cases heq

theorem Flight.discard (h : Flight w qs turn) {g : String} {runId : Option RunId}
    (hturn : turn = some i) (hq : qs i = .claimed g runId) :
    Flight (w.after (.discard g)) (Function.update qs i .idle) (some i) := by
  have hclaims : Exclusive fun j => (qs j).claims := fun a b x ha hb => h.exclusive a b x
    (TaskState.holder_of_claims ha) (TaskState.holder_of_claims hb)
  refine h.step (.inr hturn) ?_ (h.inFlight.drop hclaims (k := g) ?_ fun x => ?_)
    (h.running.keep ?_) h.nodup h.spawned ?_ ?_
  · intro g' hg'
    cases hg'
  · simp [hq, TaskState.claims]
  · simp [World.after]
  · simp [hq, TaskState.runs, TaskState.idle]
  · exact fun x hx => ⟨by simp [TaskState.idle, TaskState.holder], fun j _ => h.waiting x hx j⟩
  · intro found runId' heq g' hg'
    cases heq
    exact absurd hg' List.not_mem_nil

/-- A step of the running task. -/
theorem Flight.perform (h : Flight w qs (some i)) {o : Op} {r : Resp o}
    (hawaits : Awaits o = false) (hpermits : (qs i).Permits deps o) (he : Effect w o r w')
    (hcreate : ∀ g, o = .createTask g → g ∉ w.spawned)
    (hclaim : ∀ g, o = .claim g → g ∉ w.spawned) :
    Flight w' (Function.update qs i ((qs i).next o r)) (some i) := by
  cases o with
  | claim g =>
    obtain rfl := he
    have hspawned := hclaim g rfl
    cases hq : qs i with
    | free found runId =>
      rw [hq] at hpermits
      refine h.claim rfl (by simp [hq, TaskState.claims]) (fun j hj => ?_) hspawned
      have hidle := h.found i found runId hq rfl g hpermits
      exact (Option.some.inj (h.turn_of_holder hidle hj)).symm
    | starting g' =>
      rw [hq] at hpermits
      obtain rfl := hpermits
      exact h.claim rfl (by simp [hq, TaskState.claims])
        (fun j hj => h.exclusive j i g hj (by simp [hq, TaskState.holder])) hspawned
    | claimed g' runId =>
      rw [hq] at hpermits
      exact hpermits.elim
    | running g' onDemand p =>
      rw [hq] at hpermits
      exact hpermits.elim
  | createTask g =>
    obtain rfl := he
    cases hq : qs i with
    | free found runId =>
      rw [hq] at hpermits
      exact h.createTask rfl hq hpermits (hcreate g rfl)
    | _ =>
      rw [hq] at hpermits
      exact hpermits.elim
  | enter g =>
    obtain rfl := he
    cases hq : qs i with
    | claimed g' runId =>
      rw [hq] at hpermits
      obtain rfl := hpermits
      exact h.enter rfl hq
    | _ =>
      rw [hq] at hpermits
      exact hpermits.elim
  | leave g =>
    obtain rfl := he
    cases hq : qs i with
    | running g' onDemand p =>
      rw [hq] at hpermits
      obtain rfl := hpermits
      exact h.leave rfl hq
    | _ =>
      rw [hq] at hpermits
      exact hpermits.elim
  | discard g =>
    obtain rfl := he
    cases hq : qs i with
    | claimed g' runId =>
      rw [hq] at hpermits
      obtain rfl := hpermits
      exact h.discard rfl hq
    | _ =>
      rw [hq] at hpermits
      exact hpermits.elim
  | started => cases hawaits
  | _ => exact h.quiet rfl (.inr rfl) he

/-- A step of a task that was suspended. -/
theorem Flight.resume (h : Flight w qs none) {o : Op} {r : Resp o} (hawaits : Awaits o = true)
    (hpermits : (qs i).Permits deps o) (he : Effect w o r w') :
    Flight w' (Function.update qs i ((qs i).next o r)) (some i) := by
  cases o with
  | started =>
    obtain ⟨hspawned, rfl⟩ := he
    cases hq : qs i with
    | free found runId => exact h.started (by simp [hq, TaskState.holder]) hspawned
    | _ =>
      rw [hq] at hpermits
      exact hpermits.elim
  | _ => first | exact h.quiet rfl (.inl ⟨rfl, rfl⟩) he | cases hawaits

/-- A task that gives up its turn is not one that was just started. -/
theorem Flight.suspend (h : Flight w qs (some i))
    (hyields : Loop.Yields service (fun _ : Scheduler.Task => taskProtocol deps)
      (fun _ q (_ : Unit) => ∃ found runId, q = .free found runId) (qs i) i) :
    Flight w qs none where
  exclusive := h.exclusive
  inFlight := h.inFlight
  running := h.running
  nodup := h.nodup
  spawned := h.spawned
  waiting := h.waiting
  starting j g hj := by
    cases h.starting j g hj
    rcases hyields with ⟨o, hawaits, hpermits⟩ | ⟨_, found, runId, hfree⟩
    · rw [hj] at hpermits
      cases o <;> first | exact hpermits.elim | cases hawaits
    · cases hfree.symm.trans hj
  found _ _ _ _ hturn := by cases hturn

theorem Flight.outside (h : Flight w qs none) (e : Outside) :
    Flight (w.afterOutside e) qs none := by
  cases e <;> exact ⟨h.exclusive, h.inFlight, h.running, h.nodup, h.spawned, h.waiting,
    h.starting, h.found⟩

end

/-! ## Runs of the service -/

/-- A world in which no task has been created or started. -/
structure World.Fresh (w : World) : Prop where
  inFlight : w.inFlight = []
  spawned : w.spawned = []
  running : w.running = []

/-- The greenhouse that a step creates a task for or claims. -/
def taken : Event Scheduler.Task Op Resp Outside → Option String
  | .perform _ ⟨.createTask g, _⟩ | .perform _ ⟨.claim g, _⟩ => some g
  | _ => none

/-- A greenhouse whose task has not started gets no other task, and no one claims it. -/
def Spaced (l : Loop Scheduler.Task Op Resp Unit World)
    (e : Event Scheduler.Task Op Resp Outside) : Prop :=
  ∀ g ∈ taken e, g ∉ l.world.spawned

instance (l : Loop Scheduler.Task Op Resp Unit World)
    (e : Event Scheduler.Task Op Resp Outside) : Decidable (Spaced l e) :=
  inferInstanceAs (Decidable (∀ g ∈ taken e, g ∉ l.world.spawned))

theorem flight_started {w : World} (h : w.Fresh) : Flight w (fun _ => .idle) none where
  exclusive _ _ _ ha := by cases ha
  inFlight g := by simp [h.inFlight, TaskState.claims, TaskState.idle]
  running g := by simp [h.running, TaskState.runs, TaskState.idle]
  nodup := by simp [h.running]
  spawned := by simp [h.spawned]
  waiting g hg := by simp [h.spawned] at hg
  starting _ _ hq := by cases hq
  found _ _ _ _ hturn := by cases hturn

section

variable {deps : Dependencies} {ticks : Nat} {requested : Nat → String} {world : World}
  {es : List (Event Scheduler.Task Op Resp Outside)} {l : Loop Scheduler.Task Op Resp Unit World}

/-- The invariant holds throughout a run. -/
theorem flight_of_run (hfresh : world.Fresh)
    (h : Run (Meeting (Loop.Step service) Spaced) (started deps ticks requested world) es l) :
    Flight l.world (l.states (fun _ => taskProtocol deps) fun _ => .idle) l.turn := by
  refine (Loop.invariant (I := Flight) ?_ ?_ ?_ ?_ h tracks_started (flight_started hfresh)).2
  · intro l i o r w' hI hawaits hpermits _ he
    exact ⟨trivial, hI.resume hawaits hpermits he⟩
  · intro l i o r w' hI hawaits hpermits hspaced he
    refine ⟨trivial, hI.perform hawaits hpermits he ?_ ?_⟩
    · rintro g rfl
      exact hspaced g rfl
    · rintro g rfl
      exact hspaced g rfl
  · intro w qs i hI hyields
    exact hI.suspend hyields
  · intro l e w' hI _ hout
    obtain rfl := hout
    exact hI.outside e

/-- **At most one cycle of a greenhouse is in flight**, in every run in which a greenhouse whose
task has not started gets no other task and is not claimed. -/
theorem one_cycle (hfresh : world.Fresh)
    (h : Run (Meeting (Loop.Step service) Spaced) (started deps ticks requested world) es l)
    (g : String) : l.world.running.count g ≤ 1 :=
  List.nodup_iff_count_le_one.1 (flight_of_run hfresh h).nodup g

end

namespace Bench

open Scheduler

/-- The task starts and enters its cycle. -/
def scheduled : List (Loop.Move Task Outside) :=
  moves .planning 9 ++ moves (.dispatched 0) 11

/-- The request claims the greenhouse before the task starts; both enter a cycle. -/
def raced : List (Loop.Move Task Outside) :=
  moves .planning 9 ++ moves (.request 0) 6 ++ moves (.dispatched 0) 11 ++ moves (.request 0) 4

end Bench

/-- Two cycles of one greenhouse in flight. -/
theorem two_cycles : ∃ es l, Run (Loop.Step service) Bench.start es l ∧
    l.world.running.count "gh-a" = 2 := by
  have hschedule : (Loop.schedule (Bench.served .noChange) (fun _ _ => true) Bench.raced
      Bench.start).map (fun x => x.2.world.running.count "gh-a") = some 2 := by decide
  obtain ⟨⟨es, l⟩, hrun, hcount⟩ := Option.map_eq_some_iff.1 hschedule
  have hmeets := Loop.run_of_schedule (Bench.allows_served _) hrun
  exact ⟨es, l, hmeets.mono fun _ _ _ h => h.1, hcount⟩

theorem one_cycle_scheduled : ∃ es l, Run (Meeting (Loop.Step service) Spaced) Bench.start es l ∧
    l.world.running = ["gh-a"] ∧ l.world.running.count "gh-a" ≤ 1 := by
  have hschedule : (Loop.schedule (Bench.served .noChange) (fun l e => decide (Spaced l e))
      Bench.scheduled Bench.start).map (fun x => x.2.world.running) = some ["gh-a"] := by
    decide
  obtain ⟨⟨es, l⟩, hrun, hrunning⟩ := Option.map_eq_some_iff.1 hschedule
  have hmeets := Loop.run_of_schedule (Bench.allows_served _) hrun
  have hspaced : Run (Meeting (Loop.Step service) Spaced) Bench.start es l :=
    hmeets.mono fun _ _ _ h => ⟨h.1, of_decide_eq_true h.2⟩
  exact ⟨es, l, hspaced, hrunning, one_cycle ⟨rfl, rfl, rfl⟩ hspaced "gh-a"⟩

end Greenhouse.Optimizer
