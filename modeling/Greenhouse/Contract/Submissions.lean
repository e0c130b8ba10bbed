import Greenhouse.Optimizer.RunIds
import Greenhouse.Platform.FailedWrites
import Greenhouse.Platform.Handling
import Greenhouse.Process.Exclusive

/-!
# Submissions between the optimizer and the platform

The optimizer's tasks, the threads of the platform and the network between them. A submission is
lost, or turned away before its handler, or handled; its response may be late or never come. The
`X-Optimizer-Run-Id` header of a run is a UUID, so the platform reads it back as it is.

* `Exchange`: one step of the parties; its runs are all interleavings.
* `Parties.Tells`: a revision that is appended is told to the cycle that asked for it.
* `Parties.Consistent`: what then holds throughout.
-/

namespace Greenhouse.Contract

open Greenhouse.Process Prog

/-! ## The parties -/

/-- The optimizer's event loop. -/
abbrev Service :=
  Loop Optimizer.Scheduler.Task Optimizer.Op Optimizer.Resp Unit Optimizer.World

abbrev ServiceCall := Call Optimizer.Op Optimizer.Resp

abbrev ServiceEvent :=
  Event Optimizer.Scheduler.Task Optimizer.Op Optimizer.Resp Optimizer.Outside

/-- The threads of the platform for a greenhouse: the handler of each submission, by its run
id, and others. -/
inductive Thread where
  | handler (runId : Optimizer.RunId)
  | other (n : Nat)
  deriving DecidableEq

/-- The threads of the platform for a greenhouse; only handlers return a reply. -/
abbrev Backend (C : Type) :=
  Pool Thread Platform.Op Platform.Resp (Option Platform.Reply) (Platform.World C)

/-- A thread goes on with a program. -/
def Backend.start {C : Type} (B : Backend C) (t : Thread)
    (p : Platform.Program (Option Platform.Reply)) : Backend C :=
  { B with left := Function.update B.left t p }

section Start

variable {C : Type} {B : Backend C} {t t' : Thread}
  {p : Platform.Program (Option Platform.Reply)}

@[simp] theorem Backend.left_start_self : (B.start t p).left t = p := Function.update_self ..

theorem Backend.left_start_of_ne (h : t' ≠ t) : (B.start t p).left t' = B.left t' :=
  Function.update_of_ne h ..

theorem Backend.tracks_start {Q : Type} {P : Thread → Protocol Platform.Op Platform.Resp Q}
    {q₀ : Thread → Q} {post : Thread → Q → Option Platform.Reply → Prop}
    (h : Pool.Tracks P q₀ post B) (hp : p.Obeys (P t) (B.states P q₀ t) (post t)) :
    Pool.Tracks P q₀ post (B.start t p) := by
  intro t'
  by_cases ht : t' = t
  · subst ht
    rw [left_start_self]
    exact hp
  · rw [left_start_of_ne ht]
    exact h t'

end Start

/-- The optimizer, the platform's part for each greenhouse, and the submissions that have
arrived there. -/
structure Parties (C : Type) where
  service : Service
  backend : String → Backend C
  arrived : List Optimizer.Submission := []

/-- What happens between the parties. -/
inductive Happening where
  | service (e : ServiceEvent)
  | lose (s : Optimizer.Submission)
  | turnAway (s : Optimizer.Submission) (reply : Optimizer.HttpReply String)
  | arrive (s : Optimizer.Submission) (actor : String)
  | backend (greenhouseId : String) (t : Thread) (c : Call Platform.Op Platform.Resp)
  | begin (greenhouseId : String) (n : Nat)
  | answer (greenhouseId : String) (runId : Optimizer.RunId) (body : String)

/-- The network's part of what happens outside the optimizer. -/
def OnNetwork : Optimizer.Outside → Prop
  | .delivered _ | .replied _ _ => True
  | _ => False

namespace Parties

variable {C : Type}

/-- Something happens outside the optimizer. -/
def tell (J : Parties C) (e : Optimizer.Outside) : Parties C :=
  { J with service := { J.service with world := J.service.world.afterOutside e } }

/-- The parties with another part of the platform for a greenhouse. -/
def host (J : Parties C) (g : String) (B : Backend C) : Parties C :=
  { J with backend := Function.update J.backend g B }

section Host

variable {J : Parties C} {g g' : String}

theorem host_self (B : Backend C) : (J.host g B).backend g = B := Function.update_self ..

theorem host_other (B : Backend C) (h : g' ≠ g) : (J.host g B).backend g' = J.backend g' :=
  Function.update_of_ne h ..

/-- What holds of every part of the platform still does, if it holds of the new one. -/
theorem forall_host {R : String → Backend C → Prop} {B : Backend C}
    (h : ∀ g', R g' (J.backend g')) (hB : R g B) (g' : String) :
    R g' ((J.host g B).backend g') := by
  by_cases hg : g' = g
  · subst hg
    rw [host_self]
    exact hB
  · rw [host_other _ hg]
    exact h g'

/-- A thread that begins changes no table. -/
theorem world_host_start {t : Thread} {p : Platform.Program (Option Platform.Reply)} :
    ((J.host g ((J.backend g).start t p)).backend g').world = (J.backend g').world :=
  forall_host (R := fun g' B => B.world = (J.backend g').world) (fun _ => rfl)
    (B := (J.backend g).start t p) rfl g'

end Host

/-- The platform takes up a submission. -/
def arrive (J : Parties C) (s : Optimizer.Submission) (actor : String) : Parties C :=
  let handler := do return some (← Platform.submitSetpoints actor (some s.runId) s.patch.toDTO)
  let backend := (J.backend s.greenhouseId).start (.handler s.runId) handler
  { (J.tell (.delivered s)).host s.greenhouseId backend with arrived := s :: J.arrived }

end Parties

open Optimizer in
/-- One step of the parties: of a task of the optimizer, of a thread of the platform, or of the
network between them. A request is lost, or turned away before its handler, or handled; the
answer of a handler may come at any time after it, or never. -/
inductive Exchange {C : Type} (D : Platform.Device C) (J : Parties C) :
    Happening → Parties C → Prop
  | service {e : ServiceEvent} {l : Service} :
      Loop.Step Optimizer.service J.service e l → (∀ x, e = .outside x → ¬ OnNetwork x) →
        Exchange D J (.service e) { J with service := l }
  | lose {s : Submission} :
      s ∈ J.service.world.requests → Exchange D J (.lose s) (J.tell (.delivered s))
  | turnAway {s : Submission} {reply : HttpReply String} :
      s ∈ J.service.world.requests → reply.status ≠ 202 →
        Exchange D J (.turnAway s reply) ((J.tell (.delivered s)).tell (.replied s.runId reply))
  | arrive {s : Submission} (actor : String) :
      s ∈ J.service.world.requests → Exchange D J (.arrive s actor) (J.arrive s actor)
  | backend (g : String) {t : Thread} {c : Call Platform.Op Platform.Resp} {p : Backend C} :
      Pool.Step (Platform.hosting Platform.anyhow D) (J.backend g) (t, c) p →
        Exchange D J (.backend g t c) (J.host g p)
  | begin (g : String) (n : Nat) {p : Platform.Program (Option Platform.Reply)}
      {res : Option Platform.Reply} :
      (J.backend g).left (.other n) = .ret res → Platform.Unattributed p →
        Exchange D J (.begin g n) (J.host g ((J.backend g).start (.other n) p))
  | answer (g : String) {id : RunId} {reply : Platform.Reply} (body : String) :
      (J.backend g).left (.handler id) = .ret (some reply) →
        Exchange D J (.answer g id body) (J.tell (.replied id ⟨reply.status, body⟩))

/-! ## What is told -/

/-- What a thread of the platform may do. -/
def threadProtocol : Thread → Protocol Platform.Op Platform.Resp Bool
  | .handler runId => Platform.handlerProtocol runId
  | .other _ => Platform.unattributed

namespace Parties

variable {C : Type}

/-- The handler of a run has appended its revision. -/
def Appended (J : Parties C) (g : String) (id : Optimizer.RunId) : Prop :=
  (J.backend g).states threadProtocol (fun _ => false) (.handler id) = true

/-- The optimizer has given up on the response to a run. -/
def GivenUp (J : Parties C) (id : Optimizer.RunId) : Prop :=
  ∃ i failure, (⟨.receive id, .error failure⟩ : ServiceCall) ∈ J.service.calls i

/-- A task of the optimizer has stored a record. -/
def Stored (J : Parties C) (r : Optimizer.PlanRecord) : Prop :=
  ∃ i, (⟨.record r, ()⟩ : ServiceCall) ∈ J.service.calls i

/-- A revision that is appended is told: the response to its run is not given up on, before it or
after it, and the row of the greenhouse is there for it. -/
def Tells (J : Parties C) : Happening → Prop
  | .service (.resume _ ⟨.receive id, .error _⟩) => ∀ g, ¬ J.Appended g id
  | .backend _ (.handler id) ⟨.appendRevision _, .ok _⟩ => ¬ J.GivenUp id
  | .backend g (.handler id) c => J.Appended g id → Platform.rowFails c.op c.resp = false
  | _ => True

end Parties

/-! ## The invariant -/

/-- What a thread of the platform returns: a reply that does not accept has appended nothing. -/
def threadPost (_ : Thread) (appended : Bool) (res : Option Platform.Reply) : Prop :=
  ∀ reply, res = some reply → reply.status ≠ 202 → appended = false

namespace Parties

variable {C : Type} (deps : Optimizer.Dependencies) (J : Parties C) (id : Optimizer.RunId)

/-- The states of the optimizer's tasks. -/
def tasks : Optimizer.Scheduler.Task → Optimizer.TaskState :=
  J.service.states (fun _ => Optimizer.taskProtocol deps) fun _ => .idle

/-- No message of a run is on its way, and none has arrived. -/
structure Untouched : Prop where
  requests : ∀ s ∈ J.service.world.requests, s.runId ≠ id
  arrived : ∀ s ∈ J.arrived, s.runId ≠ id
  replies : ∀ x ∈ J.service.world.replies, x.1 ≠ id

/-- The submission of a run is over, without a revision. -/
structure Dead : Prop where
  requests : ∀ s ∈ J.service.world.requests, s.runId ≠ id
  returned : ∀ g, ∃ res, (J.backend g).left (.handler id) = .ret res
  unappended : ∀ g, ¬ J.Appended g id

/-- A run leaves no revision, now or later. -/
def Settled : Prop := J.Dead id ∨ (J.GivenUp id ∧ ∀ g, ¬ J.Appended g id)

/-- The optimizer mints each run id once, and none of the given ones. -/
structure Minted (old : List Optimizer.RunId) : Prop where
  tracks : Pool.Tracks (fun _ => Optimizer.taskProtocol deps) (fun _ => .idle)
    (fun _ q _ => ∃ found runId, q = .free found runId) J.service.toPool
  exclusive : Exclusive fun i => (J.tasks deps i).runId
  minted : ∀ i id, (J.tasks deps i).runId = some id → id ∈ J.service.world.runIds ∧ id ∉ old
  old : ∀ id ∈ old, id ∈ J.service.world.runIds

/-- The platform's handlers are those of the submissions that have arrived, and the revisions of
a run are its handler's. -/
structure Attributed (old : List Optimizer.RunId) : Prop where
  tracks : ∀ g, Pool.Tracks threadProtocol (fun _ => false) threadPost (J.backend g)
  idle : ∀ g id, (∀ s ∈ J.arrived, s.runId = id → s.greenhouseId ≠ g) →
    (J.backend g).left (.handler id) = .ret none ∧ ¬ J.Appended g id
  once : ∀ s ∈ J.arrived, ∀ s' ∈ J.arrived, s.runId = s'.runId →
    s.greenhouseId = s'.greenhouseId
  revisions : ∀ g, ∀ rev ∈ (J.backend g).world.store.ledger.entries, ∀ id,
    rev.optimizerRunId = some id → id ∈ old ∨ J.Appended g id

/-- The messages of a run are at one place, and a refusal comes after the end. -/
structure Carried : Prop where
  pristine : ∀ id, (id ∉ J.service.world.runIds ∨ ∃ i, (J.tasks deps i).MaySend id) →
    J.Untouched id
  requests : ∀ s ∈ J.service.world.requests, (∀ s' ∈ J.arrived, s'.runId ≠ s.runId) ∧
    ∀ x ∈ J.service.world.replies, x.1 ≠ s.runId
  refused : ∀ x ∈ J.service.world.replies, x.2.status ≠ 202 → J.Dead x.1

/-- A refused run, and one that is recorded otherwise than as applied, leaves no revision. -/
structure Concluded (old : List Optimizer.RunId) : Prop where
  answered : ∀ i g onDemand p answer, J.tasks deps i = .running g onDemand p →
    p.reply = some answer → p.sent ≠ none ∧ ∃ id, p.runId = some id ∧
      (¬ Optimizer.Progress.Accepted answer → J.Settled id)
  recorded : ∀ r, J.Stored r → r.outcome.status ≠ .applied →
    r.optimizerRunId ∈ J.service.world.runIds ∧ r.optimizerRunId ∉ old ∧
      J.Settled r.optimizerRunId ∧ ∀ i, ¬ (J.tasks deps i).MaySend r.optimizerRunId

/-- What holds throughout the exchange. -/
structure Consistent (old : List Optimizer.RunId) : Prop where
  minted : J.Minted deps old
  attributed : J.Attributed old
  carried : J.Carried deps
  concluded : J.Concluded deps old

section

variable {deps J id} {J' : Parties C} {old : List Optimizer.RunId}

theorem Untouched.dead (h : J.Untouched id) (hattributed : J.Attributed old) : J.Dead id := by
  have hidle := fun g => hattributed.idle g id fun s hs hid => absurd hid (h.arrived s hs)
  exact ⟨h.requests, fun g => ⟨_, (hidle g).1⟩, fun g => (hidle g).2⟩

/-- A settled run is settled after a step that leaves its handlers as they are. -/
theorem Settled.keep (h : J.Settled id)
    (hrequests : ∀ s ∈ J'.service.world.requests, s.runId = id → s ∈ J.service.world.requests)
    (hgiven : J.GivenUp id → J'.GivenUp id)
    (hleft : J.Dead id → ∀ g,
      (J'.backend g).left (.handler id) = (J.backend g).left (.handler id))
    (happended : ∀ g, J'.Appended g id → J.Appended g id) : J'.Settled id := by
  rcases h with hdead | ⟨hup, hnone⟩
  · refine .inl ⟨fun s hs hid => hdead.requests s (hrequests s hs hid) hid, fun g => ?_, ?_⟩
    · rw [hleft hdead g]
      exact hdead.returned g
    · exact fun g happ => hdead.unappended g (happended g happ)
  · exact .inr ⟨hgiven hup, fun g happ => hnone g (happended g happ)⟩

theorem Dead.keep (h : J.Dead id)
    (hrequests : ∀ s ∈ J'.service.world.requests, s.runId = id → s ∈ J.service.world.requests)
    (hleft : ∀ g, (J'.backend g).left (.handler id) = (J.backend g).left (.handler id))
    (happended : ∀ g, J'.Appended g id → J.Appended g id) : J'.Dead id := by
  refine ⟨fun s hs hid => h.requests s (hrequests s hs hid) hid, fun g => ?_, ?_⟩
  · rw [hleft g]
    exact h.returned g
  · exact fun g happ => h.unappended g (happended g happ)

end

end Parties

end Greenhouse.Contract
