import Greenhouse.Contract.Exchanges

/-!
# Cycles that are not applied

A cycle that is recorded as held, failed or unchanged is to leave no revision on the platform. It
leaves one when the response to its submission is lost, or when the row of the greenhouse cannot
be read or written after the revision.

* `Parties.Consistent.step`: every step keeps the invariant of the exchange.
* `no_revision_of_unapplied`: the runs in which a revision that is appended is told.
* `revision_of_failed_cycle`: a response that is lost.
-/

namespace Greenhouse.Contract

open Greenhouse.Process Prog

namespace Parties

/-! ## Steps of the platform -/

section Backend

variable {C : Type} {deps : Optimizer.Dependencies} {J : Parties C} {D : Platform.Device C}
  {old : List Optimizer.RunId} {g g' : String} {t t' : Thread} {id : Optimizer.RunId}

theorem states_other (B : Backend C) (n : Nat) :
    B.states threadProtocol (fun _ => false) (.other n) = false := by
  show (threadProtocol (.other n)).after false (B.calls (.other n)) = false
  generalize B.calls (.other n) = cs
  induction cs with
  | nil => rfl
  | cons c cs ih => exact ih

/-- What a handler has left to do, and whether it has appended its revision, is as before. -/
def Leaves (J : Parties C) (g : String) (B : Backend C) (id : Optimizer.RunId) : Prop :=
  B.left (.handler id) = (J.backend g).left (.handler id) ∧
    B.calls (.handler id) = (J.backend g).calls (.handler id)

theorem Leaves.left {B : Backend C} (h : J.Leaves g B id) (g' : String) :
    ((J.host g B).backend g').left (.handler id) = (J.backend g').left (.handler id) := by
  by_cases hg : g' = g
  · subst hg
    rw [host_self]
    exact h.1
  · rw [host_other _ hg]

theorem Leaves.appended {B : Backend C} (h : J.Leaves g B id) (g' : String) :
    (J.host g B).Appended g' id ↔ J.Appended g' id := by
  unfold Appended Pool.states
  by_cases hg : g' = g
  · subst hg
    rw [host_self, h.2]
  · rw [host_other _ hg]

/-- A step of the platform that leaves the handlers of dead runs as they are, and the revisions
of settled ones. -/
theorem onward_host {B : Backend C}
    (hdead : ∀ id, J.Dead id → J.Leaves g B id)
    (hsettled : ∀ id, J.Settled id → ∀ g', (J.host g B).Appended g' id → J.Appended g' id) :
    Onward J (J.host g B) where
  calls := rfl
  runIds := rfl
  requests _ hs := hs
  replies _ hx := .inl hx
  arrived _ hs := .inl hs
  dead id h := h.keep (fun _ hs _ => hs) (hdead id h).left (hsettled id (.inl h))
  settled id h := h.keep (fun _ hs _ => hs) (fun hup => hup) (fun h => (hdead id h).left)
    (hsettled id h)

/-- Another thread begins. -/
theorem Consistent.begin (h : J.Consistent deps old) {n : Nat}
    {p : Platform.Program (Option Platform.Reply)} (hp : Platform.Unattributed p) :
    (J.host g ((J.backend g).start (.other n) p)).Consistent deps old := by
  have hleaves : ∀ id, J.Leaves g ((J.backend g).start (.other n) p) id :=
    fun id => ⟨Backend.left_start_of_ne (by simp), rfl⟩
  have ho : Onward J (J.host g ((J.backend g).start (.other n) p)) :=
    onward_host (fun id _ => hleaves id) fun id _ g' => ((hleaves id).appended g').1
  refine ⟨h.minted.onward ho rfl, ⟨?_, fun g' id hnone => ?_, h.attributed.once, ?_⟩,
    h.carried.onward ho, h.concluded.onward ho⟩
  · refine forall_host h.attributed.tracks (Backend.tracks_start (h.attributed.tracks g) ?_)
    rw [states_other]
    exact hp.mono fun appended res happended reply _ _ => happended
  · obtain ⟨hleft, hnot⟩ := h.attributed.idle g' id hnone
    exact ⟨((hleaves id).left g').trans hleft, fun happ => hnot (((hleaves id).appended g').1 happ)⟩
  · intro g' rev hrev id hid
    rw [world_host_start] at hrev
    exact (h.attributed.revisions g' rev hrev id hid).imp_right ((hleaves id).appended g').2

theorem next_handler {q : Bool} {o : Platform.Op} {r : Platform.Resp o} :
    (threadProtocol (.handler id)).next q o r = (q || Platform.revises o r) := by
  cases o with
  | appendRevision p =>
    cases r <;> simp [threadProtocol, Platform.handlerProtocol, Platform.revises]
  | _ => exact (Bool.or_false q).symm

theorem eq_of_revises {o : Platform.Op} {r : Platform.Resp o} (h : Platform.revises o r = true) :
    ∃ p n, (⟨o, r⟩ : Call Platform.Op Platform.Resp) = ⟨.appendRevision p, .ok n⟩ := by
  cases o with
  | appendRevision p =>
    cases r with
    | error text => cases h
    | ok n => exact ⟨p, n, rfl⟩
  | _ => cases h

/-- The row is there for a revision that is told. -/
theorem answers_of_tells {o : Platform.Op} {r : Platform.Resp o} {q : Bool}
    (hq : q = (J.backend g).states threadProtocol (fun _ => false) t)
    (h : J.Tells (.backend g t ⟨o, r⟩)) : (threadProtocol t).answers q o r := by
  subst hq
  cases t with
  | other n => trivial
  | handler id =>
    cases o with
    | getReconState =>
      intro happ
      cases r with
      | error text => cases h happ
      | ok recon => exact ⟨recon, rfl⟩
    | upsertReconState recon =>
      intro happ
      cases r with
      | error text => cases h happ
      | ok written => rfl
    | _ => trivial

/-- The revisions after an operation are those before it, or the one it appends. -/
theorem mem_ledger_next {s : Platform.Store} {o : Platform.Op} {r : Platform.Resp o}
    {rev : Platform.SetpointRevision} (h : rev ∈ (s.next o r).ledger.entries) :
    rev ∈ s.ledger.entries ∨ ∃ p, o = .appendRevision p ∧ Platform.revises o r = true ∧
      rev.optimizerRunId = p.optimizerRunId := by
  cases o with
  | appendRevision p =>
    cases r with
    | error text => exact .inl h
    | ok n =>
      rcases List.mem_cons.1 h with rfl | h
      · exact .inr ⟨p, rfl, rfl, rfl⟩
      · exact .inl h
  | upsertReconState recon => cases r <;> exact .inl h
  | _ => exact .inl h

/-- A thread of the platform performs an operation. -/
theorem Consistent.backend (h : J.Consistent deps old) {c : Call Platform.Op Platform.Resp}
    {p : Backend C} (hstep : Pool.Step (Platform.hosting Platform.anyhow D) (J.backend g) (t, c) p)
    (htold : J.Tells (.backend g t c)) : (J.host g p).Consistent deps old := by
  obtain ⟨t, hleft, henv⟩ := hstep
  rename_i o k r w
  obtain ⟨-, -, hstore, -⟩ := henv
  have hobeys := h.attributed.tracks g t
  rw [hleft] at hobeys
  have hkeeps : ∀ id, t ≠ .handler id →
      J.Leaves g ((J.backend g).advance t ⟨o, r⟩ (k r) w) id := fun id ht =>
    ⟨Pool.left_advance_of_ne (Ne.symm ht), Function.update_of_ne (Ne.symm ht) ..⟩
  have happended : ∀ id g', (J.host g ((J.backend g).advance t ⟨o, r⟩ (k r) w)).Appended g' id ↔
      J.Appended g' id ∨ (g' = g ∧ t = .handler id ∧ Platform.revises o r = true) := by
    intro id g'
    by_cases ht : t = .handler id
    · subst ht
      by_cases hg : g' = g
      · subst hg
        unfold Appended
        rw [host_self, Pool.states_advance, Function.update_self, next_handler, Bool.or_eq_true]
        simp
      · unfold Appended
        rw [host_other _ hg]
        simp [hg]
    · rw [(hkeeps id ht).appended g']
      simp [ht]
  have hdead : ∀ id, J.Dead id → t ≠ .handler id := by
    rintro id hid rfl
    obtain ⟨res, hres⟩ := hid.returned g
    cases hres.symm.trans hleft
  have ho : Onward J (J.host g ((J.backend g).advance t ⟨o, r⟩ (k r) w)) := by
    refine onward_host (fun id hid => hkeeps id (hdead id hid)) fun id hid g' happ => ?_
    refine ((happended id g').1 happ).resolve_right ?_
    rintro ⟨rfl, rfl, hrevises⟩
    rcases hid with hid | ⟨hup, -⟩
    · exact hdead id hid rfl
    · obtain ⟨p, n, heq⟩ := eq_of_revises hrevises
      rw [heq] at htold
      exact htold hup
  refine ⟨h.minted.onward ho rfl, ⟨?_, fun g' id hnone => ?_, h.attributed.once, ?_⟩,
    h.carried.onward ho, h.concluded.onward ho⟩
  · exact forall_host h.attributed.tracks
      ((h.attributed.tracks g).advance hleft (answers_of_tells rfl htold))
  · obtain ⟨hreturned, hnot⟩ := h.attributed.idle g' id hnone
    have ht : g' = g → t ≠ .handler id := by
      rintro rfl rfl
      cases hreturned.symm.trans hleft
    refine ⟨?_, fun happ => ?_⟩
    · by_cases hg : g' = g
      · exact ((hkeeps id (ht hg)).left g').trans hreturned
      · rw [host_other _ hg]
        exact hreturned
    · rcases (happended id g').1 happ with happ | ⟨hg, hth, -⟩
      · exact hnot happ
      · exact ht hg hth
  · intro g' rev hrev id hid
    by_cases hg : g' = g
    · subst hg
      rw [host_self] at hrev
      change rev ∈ w.store.ledger.entries at hrev
      rw [hstore] at hrev
      rcases mem_ledger_next hrev with hrev | ⟨p, rfl, hrevises, hp⟩
      · exact (h.attributed.revisions g' rev hrev id hid).imp_right fun happ =>
          (happended id g').2 (.inl happ)
      · rw [hid] at hp
        cases t with
        | other n => cases hp.trans (hobeys.1 p rfl)
        | handler id' =>
          obtain rfl := Option.some.inj (hp.trans hobeys.1.2)
          exact .inr ((happended id g').2 (.inr ⟨rfl, rfl, hrevises⟩))
    · rw [host_other _ hg] at hrev
      exact (h.attributed.revisions g' rev hrev id hid).imp_right fun happ =>
        (happended id g').2 (.inl happ)

end Backend

section Steps

variable {C : Type} {deps : Optimizer.Dependencies} {J J' : Parties C} {D : Platform.Device C}
  {old : List Optimizer.RunId} {g : String} {id : Optimizer.RunId}

/-! ## Requests and answers -/

/-- A submission that has arrived at a greenhouse. -/
theorem exists_arrived (h : J.Attributed old) {reply : Platform.Reply}
    (hleft : (J.backend g).left (.handler id) = .ret (some reply)) :
    ∃ s ∈ J.arrived, s.runId = id ∧ s.greenhouseId = g := by
  by_contra hnone
  have hidle := h.idle g id fun s hs hid hg => hnone ⟨s, hs, hid, hg⟩
  cases hidle.1.symm.trans hleft

/-- The answer of a handler comes. -/
theorem Consistent.answered (h : J.Consistent deps old) {reply : Platform.Reply} (body : String)
    (hleft : (J.backend g).left (.handler id) = .ret (some reply)) :
    (J.tell (.replied id ⟨reply.status, body⟩)).Consistent deps old := by
  obtain ⟨s, hs, hid, hg⟩ := exists_arrived h.attributed hleft
  have hgone : ∀ s' ∈ J.service.world.requests, s'.runId ≠ id := fun s' hs' heq =>
    (h.carried.requests s' hs').1 s hs (hid.trans heq.symm)
  refine h.replied hgone (fun hnone => hnone.arrived s hs hid) fun hstatus => ?_
  have hother : ∀ g', g' ≠ g → (J.backend g').left (.handler id) = .ret none ∧
      ¬ J.Appended g' id := fun g' hne => h.attributed.idle g' id fun s' hs' hid' hg' =>
    hne (hg'.symm.trans ((h.attributed.once s' hs' s hs (hid'.trans hid.symm)).trans hg))
  refine ⟨hgone, fun g' => ?_, fun g' happ => ?_⟩
  · by_cases hne : g' = g
    · exact ⟨_, hne ▸ hleft⟩
    · exact ⟨_, (hother g' hne).1⟩
  · by_cases hne : g' = g
    · subst hne
      have hpost := h.attributed.tracks g' (.handler id)
      rw [hleft] at hpost
      exact absurd happ (Bool.eq_false_iff.1 (hpost reply rfl hstatus))
    · exact (hother g' hne).2 happ

/-- A submission arrives, and its handler begins. -/
theorem Consistent.arrive (h : J.Consistent deps old) {s : Optimizer.Submission}
    (hs : s ∈ J.service.world.requests) (actor : String) :
    (J.arrive s actor).Consistent deps old := by
  have hnew := (h.carried.requests s hs).1
  have hidle := fun g => h.attributed.idle g s.runId fun s' hs' hid => absurd hid (hnew s' hs')
  have hleft : ∀ g id, (g = s.greenhouseId → id ≠ s.runId) →
      ((J.arrive s actor).backend g).left (.handler id) = (J.backend g).left (.handler id) := by
    intro g id hne
    by_cases hg : g = s.greenhouseId
    · subst hg
      show ((J.host s.greenhouseId _).backend s.greenhouseId).left _ = _
      rw [host_self]
      exact Backend.left_start_of_ne fun heq => hne rfl (by cases heq; rfl)
    · show ((J.host s.greenhouseId _).backend g).left _ = _
      rw [host_other _ hg]
  have happended : ∀ g id, (J.arrive s actor).Appended g id ↔ J.Appended g id := by
    intro g id
    by_cases hg : g = s.greenhouseId
    · subst hg
      show ((J.host s.greenhouseId _).backend s.greenhouseId).states _ _ _ = true ↔ _
      rw [host_self]
      exact Iff.rfl
    · show ((J.host s.greenhouseId _).backend g).states _ _ _ = true ↔ _
      rw [host_other _ hg]
      exact Iff.rfl
  have hrequests : ∀ s' ∈ (J.arrive s actor).service.world.requests,
      s' ∈ J.service.world.requests := fun s' hs' => List.mem_of_mem_filter hs'
  have ho : Onward J (J.arrive s actor) := by
    refine ⟨rfl, rfl, hrequests, fun _ hx => .inl hx, fun s' hs' => ?_, fun id hid => ?_, ?_⟩
    · rcases List.mem_cons.1 hs' with rfl | hs'
      · exact .inr ⟨hs, not_mem_requests_delivered s'⟩
      · exact .inl hs'
    · refine hid.keep (fun s' hs' _ => hrequests s' hs') (fun g => hleft g id fun _ => ?_)
        fun g => (happended g id).1
      exact fun heq => hid.requests s hs heq.symm
    · intro id hid
      refine hid.keep (fun s' hs' _ => hrequests s' hs') (fun hup => hup) (fun hdead g => ?_)
        fun g => (happended g id).1
      exact hleft g id fun _ heq => hdead.requests s hs heq.symm
  refine ⟨h.minted.onward ho rfl, ⟨?_, fun g id hnone => ?_, ?_, ?_⟩, h.carried.onward ho,
    h.concluded.onward ho⟩
  · refine forall_host h.attributed.tracks
      (Backend.tracks_start (h.attributed.tracks s.greenhouseId) ?_)
    have hfalse := Bool.eq_false_iff.2 (hidle s.greenhouseId).2
    rw [hfalse]
    simp only [obeys_bind]
    refine Platform.obeys_submitSetpoints.mono fun appended reply hreply => ?_
    rintro _ ⟨⟩ hstatus
    exact hreply hstatus
  · obtain ⟨hret, hnot⟩ := h.attributed.idle g id fun s' hs' =>
      hnone s' (List.mem_cons_of_mem _ hs')
    refine ⟨(hleft g id fun hg hid => ?_).trans hret, fun happ => hnot ((happended g id).1 happ)⟩
    exact hnone s List.mem_cons_self hid.symm hg.symm
  · intro a ha b hb hid
    rcases List.mem_cons.1 ha with rfl | hold
    · rcases List.mem_cons.1 hb with rfl | hold'
      · rfl
      · exact absurd hid.symm (hnew b hold')
    · rcases List.mem_cons.1 hb with rfl | hold'
      · exact absurd hid (hnew a hold)
      · exact h.attributed.once a hold b hold' hid
  · intro g rev hrev id hid
    have hworld : ((J.arrive s actor).backend g).world = (J.backend g).world := world_host_start
    rw [hworld] at hrev
    exact (h.attributed.revisions g rev hrev id hid).imp_right (happended g id).2

/-- **Every step keeps the invariant**, if it tells of the revision that is appended. -/
theorem Consistent.step (h : J.Consistent deps old) {e : Happening}
    (hstep : Exchange D J e J') (htold : J.Tells e) : J'.Consistent deps old := by
  cases hstep with
  | service hstep hinside => exact h.service hstep hinside htold
  | lose hs => exact h.delivered _
  | turnAway hs hstatus => exact h.turnedAway hs
  | arrive actor hs => exact h.arrive hs actor
  | backend g hstep => exact h.backend hstep htold
  | begin g n hreturned hp => exact h.begin hp
  | answer g body hleft => exact h.answered body hleft

end Steps

end Parties

/-! ## From the outset -/

/-- The parties before the exchange: no message is on its way, and the run ids of the revisions
there are have been minted. -/
structure Outset (C : Type) where
  world : Optimizer.World
  hosts : String → Platform.World C
  requests : world.requests = []
  replies : world.replies = []
  minted : ∀ g, ∀ rev ∈ (hosts g).store.ledger.entries, ∀ id,
    rev.optimizerRunId = some id → id ∈ world.runIds

/-- The parties as the optimizer starts. -/
def Outset.parties {C : Type} (S : Outset C) (deps : Optimizer.Dependencies) (ticks : Nat)
    (requested : Nat → String) : Parties C where
  service := Optimizer.started deps ticks requested S.world
  backend g := { world := S.hosts g, left := fun _ => .ret none }

section

variable {C : Type} {deps : Optimizer.Dependencies} {D : Platform.Device C} {S : Outset C}
  {ticks : Nat} {requested : Nat → String} {es : List Happening} {J : Parties C}

theorem Outset.consistent : (S.parties deps ticks requested).Consistent deps S.world.runIds := by
  have hnone : ∀ i, ((S.parties deps ticks requested).tasks deps i).runId = none := fun i => rfl
  refine ⟨⟨Optimizer.tracks_started, ?_, ?_, fun id hid => hid⟩, ⟨?_, ?_, ?_, ?_⟩, ⟨?_, ?_, ?_⟩,
    ⟨?_, ?_⟩⟩
  · intro i j id hi
    cases (hnone i).symm.trans hi
  · intro i id hi
    cases (hnone i).symm.trans hi
  · rintro g t reply ⟨⟩
  · exact fun g id _ => ⟨rfl, fun happ => by cases happ⟩
  · exact fun s hs => by cases hs
  · exact fun g rev hrev id hid => .inl (S.minted g rev hrev id hid)
  · intro id _
    refine ⟨fun s hs => ?_, fun s hs => ?_, fun x hx => ?_⟩
    · change s ∈ S.world.requests at hs
      rw [S.requests] at hs
      cases hs
    · cases hs
    · change x ∈ S.world.replies at hx
      rw [S.replies] at hx
      cases hx
  · intro s hs
    change s ∈ S.world.requests at hs
    rw [S.requests] at hs
    cases hs
  · intro x hx
    change x ∈ S.world.replies at hx
    rw [S.replies] at hx
    cases hx
  · intro i g onDemand p answer hq
    cases hq
  · rintro r ⟨i, hi⟩
    cases hi

/-- **A cycle that is not recorded as applied leaves no revision**, in every run in which the
revisions that are appended are told. -/
theorem no_revision_of_unapplied
    (h : Run (Meeting (Exchange D) Parties.Tells) (S.parties deps ticks requested) es J)
    {r : Optimizer.PlanRecord} (hstored : J.Stored r) (hstatus : r.outcome.status ≠ .applied) :
    ∀ g, ∀ rev ∈ (J.backend g).world.store.ledger.entries,
      rev.optimizerRunId ≠ some r.optimizerRunId := by
  have hconsistent := h.invariant (I := fun J => J.Consistent deps S.world.runIds)
    (fun J e J' hJ hstep => hJ.step hstep.1 hstep.2) Outset.consistent
  obtain ⟨-, hold, hsettled, -⟩ := hconsistent.concluded.recorded r hstored hstatus
  intro g rev hrev hid
  have happended := (hconsistent.attributed.revisions g rev hrev _ hid).resolve_left hold
  rcases hsettled with hdead | ⟨-, hnone⟩
  · exact hdead.unappended g happended
  · exact hnone g happended

end

/-! ## A cycle to try things on -/

namespace Bench

/-- The run id that the optimizer mints. -/
def runId : Optimizer.RunId := "3f2b8c1e-6d4a-4f0b-9c7e-2a5d8e1b4c60"

/-- The answers of a planner that proposes an update, with one run id. -/
def serve (w : Optimizer.World) : (o : Optimizer.Op) → Option (Optimizer.Resp o × Optimizer.World)
  | .uuid4 =>
    if runId ∈ w.runIds then none else some (runId, { w with runIds := runId :: w.runIds })
  | o => Optimizer.Bench.serve Optimizer.Bench.proposed w o

def served : Loop.Served Optimizer.Op Optimizer.Resp Optimizer.World Optimizer.Outside where
  awaits := Optimizer.Awaits
  serve := serve
  outside w e := some (w.afterOutside e)

/-- A controller that accepts every request. -/
def respond (c : Unit) (_ : Platform.Request) : Except String Platform.Response × Unit :=
  (.ok ⟨200, .text ""⟩, c)

def revision : Platform.Provenance where
  source := .profile
  actor := "operator"
  reason := "crop assignment"
  setpoints := Optimizer.Bench.targets.toPlatform

def host : Platform.World Unit := ⟨{ ledger := Platform.Ledger.empty.append revision }, ()⟩

/-- A move of the bench. -/
inductive Move where
  | task
  | arrive
  | lose
  | handle
  deriving DecidableEq

def task : Optimizer.Scheduler.Task := .request 0

/-- The step a move makes, if it can be made. -/
def step? (J : Parties Unit) : Move → Option (Happening × Parties Unit)
  | .task => (Loop.step? served J.service (.task task)).map fun (e, l) =>
      (.service e, { J with service := l })
  | .arrive => J.service.world.requests.head?.map fun s =>
      (.arrive s "optimizer", J.arrive s "optimizer")
  | .lose => J.service.world.requests.head?.map fun s => (.lose s, J.tell (.delivered s))
  | .handle =>
    (Pool.step? (Platform.serve .online respond) (J.backend "gh-a") (.handler runId)).map
      fun (c, p) => (.backend "gh-a" (.handler runId) c, J.host "gh-a" p)

def schedule : List Move → Parties Unit → Option (List Happening × Parties Unit)
  | [], J => some ([], J)
  | m :: ms, J => do
    let (e, J') ← step? J m
    let (es, J'') ← schedule ms J'
    return (e :: es, J'')

def outset : Outset Unit where
  world := Optimizer.Bench.world
  hosts _ := host
  requests := rfl
  replies := rfl
  minted := by
    intro g rev hrev id hid
    rcases List.mem_cons.1 hrev with rfl | hrev
    · cases hid
    · cases hrev

def start : Parties Unit := outset.parties Optimizer.Bench.deps 1 fun _ => "gh-a"

theorem effect_serve (w : Optimizer.World) (o : Optimizer.Op) (r : Optimizer.Resp o)
    (w' : Optimizer.World) (h : serve w o = some (r, w')) : Optimizer.Effect w o r w' := by
  cases o with
  | uuid4 =>
    simp only [serve] at h
    split at h
    · cases h
    · rename_i hfresh
      cases h
      exact ⟨hfresh, rfl⟩
  | _ => exact @Optimizer.Bench.effect_serve Optimizer.Bench.proposed w w' _ r h

theorem allows_served : Loop.Allows Optimizer.service served where
  awaits := rfl
  serve := effect_serve
  outside _ _ _ h := (Option.some.inj h).symm

/-- A task's move is no event of the outside. -/
theorem inside_of_step? {l l' : Service}
    {e : ServiceEvent}
    (h : Loop.step? served l (.task task) = some (e, l')) (x : Optimizer.Outside) :
    e ≠ .outside x := by
  rintro rfl
  simp only [Loop.step?] at h
  split at h
  · split at h
    · obtain ⟨⟨r, w⟩, -, heq⟩ := Option.map_eq_some_iff.1 h
      cases heq
    · cases h
  · cases h
  · split at h <;> cases h
  · split at h
    · split at h
      · cases h
      · obtain ⟨⟨r, w⟩, -, heq⟩ := Option.map_eq_some_iff.1 h
        cases heq
    · cases h

theorem exchange_of_step? {J J' : Parties Unit} {m : Move} {e : Happening}
    (h : step? J m = some (e, J')) : Exchange Platform.anything J e J' := by
  cases m with
  | task =>
    obtain ⟨⟨e, l⟩, hstep, heq⟩ := Option.map_eq_some_iff.1 h
    cases heq
    exact .service (Loop.step_of_step? allows_served hstep)
      fun x hx => absurd hx (inside_of_step? hstep x)
  | arrive =>
    obtain ⟨s, hs, heq⟩ := Option.map_eq_some_iff.1 h
    cases heq
    exact .arrive "optimizer" (List.mem_of_mem_head? hs)
  | lose =>
    obtain ⟨s, hs, heq⟩ := Option.map_eq_some_iff.1 h
    cases heq
    exact .lose (List.mem_of_mem_head? hs)
  | handle =>
    obtain ⟨⟨c, p⟩, hstep, heq⟩ := Option.map_eq_some_iff.1 h
    cases heq
    have hhosting := @Platform.hosting_serve Unit .online respond Platform.anyhow
      Platform.anything (fun _ _ => trivial) fun _ _ => trivial
    have hone : Pool.schedule (Platform.serve .online respond) [.handler runId]
        (J.backend "gh-a") = some ([(.handler runId, c)], p) := by
      rw [Pool.schedule, hstep]
      rfl
    have hrun := Pool.run_of_schedule hhosting hone
    cases hrun with
    | cons hone hnil =>
      cases hnil
      exact .backend "gh-a" hone

/-- A schedule whose steps meet a condition is a run that meets it. -/
theorem run_of_schedule {T : Parties Unit → Happening → Prop} {I : Parties Unit → Prop}
    {ms : List Move}
    (hkeep : ∀ J, ∀ m ∈ ms, ∀ e J', I J → step? J m = some (e, J') → T J e ∧ I J') :
    ∀ {J J' : Parties Unit} {es : List Happening}, I J → schedule ms J = some (es, J') →
      Run (Meeting (Exchange Platform.anything) T) J es J' := by
  induction ms with
  | nil =>
    rintro J J' es hJ ⟨⟩
    exact .nil _
  | cons m ms ih =>
    intro J J' es hJ h
    simp only [schedule, Option.bind_eq_bind] at h
    obtain ⟨⟨e, t⟩, hone, h⟩ := Option.bind_eq_some_iff.1 h
    obtain ⟨⟨es', t'⟩, hrest, h⟩ := Option.bind_eq_some_iff.1 h
    obtain ⟨rfl, rfl⟩ := Prod.mk.inj (Option.some.inj h)
    obtain ⟨htold, ht⟩ := hkeep J m List.mem_cons_self e t hJ hone
    refine .cons ⟨exchange_of_step? hone, htold⟩ (ih ?_ ht hrest)
    exact fun J m hm => hkeep J m (List.mem_cons_of_mem _ hm)

/-- The record of the cycle, if it failed. -/
def failed (J : Parties Unit) : Option Optimizer.PlanRecord :=
  (J.service.calls task).findSome? fun c =>
    match c with
    | ⟨.record r, _⟩ => if r.outcome.status = .failed then some r else none
    | _ => none

theorem stored_of_failed {J : Parties Unit} {r : Optimizer.PlanRecord} (h : failed J = some r) :
    J.Stored r ∧ r.outcome.status ≠ .applied := by
  obtain ⟨c, hc, hr⟩ := List.exists_of_findSome?_eq_some h
  split at hr
  · rename_i r' u
    split at hr
    · rename_i hfailed
      cases hr
      exact ⟨⟨task, hc⟩, by rw [hfailed]; decide⟩
    · cases hr
  · cases hr

end Bench

namespace Bench

/-- The platform has not been asked for anything. -/
def Unasked (J : Parties Unit) : Prop := ∀ g t, (J.backend g).calls t = []

theorem tells_of_unasked {J : Parties Unit} (h : Unasked J) {m : Move} (hm : m ≠ .handle)
    {e : Happening} {J' : Parties Unit} (hstep : step? J m = some (e, J')) :
    J.Tells e ∧ Unasked J' := by
  have hnone : ∀ g id, ¬ J.Appended g id := by
    intro g id happ
    unfold Parties.Appended Pool.states at happ
    rw [h g] at happ
    cases happ
  cases m with
  | task =>
    obtain ⟨⟨e, l⟩, hone, heq⟩ := Option.map_eq_some_iff.1 hstep
    cases heq
    refine ⟨?_, h⟩
    unfold Parties.Tells
    split
    · exact fun g => hnone g _
    · trivial
    · trivial
    · trivial
  | lose =>
    obtain ⟨s, hs, heq⟩ := Option.map_eq_some_iff.1 hstep
    cases heq
    exact ⟨trivial, h⟩
  | arrive =>
    obtain ⟨s, hs, heq⟩ := Option.map_eq_some_iff.1 hstep
    cases heq
    exact ⟨trivial, Parties.forall_host (R := fun _ B => ∀ t, B.calls t = []) h
      (h s.greenhouseId)⟩
  | handle => exact absurd rfl hm

end Bench

/-- A request that is lost: the cycle is recorded as failed, and there is no revision of it. -/
theorem no_revision_of_lost_request : ∃ es J r,
    Run (Meeting (Exchange Platform.anything) Parties.Tells) Bench.start es J ∧
    J.Stored r ∧ r.outcome.status ≠ .applied ∧
    ∀ g, ∀ rev ∈ (J.backend g).world.store.ledger.entries,
      rev.optimizerRunId ≠ some r.optimizerRunId := by
  have hrun : (Bench.schedule (List.replicate 33 .task ++ [.lose] ++ List.replicate 8 .task)
      Bench.start).map (fun x => (Bench.failed x.2).isSome) = some true := by decide +kernel
  obtain ⟨⟨es, J⟩, hrun, h⟩ := Option.map_eq_some_iff.1 hrun
  obtain ⟨r, hr⟩ := Option.isSome_iff_exists.1 h
  obtain ⟨hstored, hstatus⟩ := Bench.stored_of_failed hr
  have hmoves : ∀ m ∈ List.replicate 33 Bench.Move.task ++ [.lose] ++ List.replicate 8 .task,
      m ≠ .handle := by decide
  have htold := Bench.run_of_schedule (T := Parties.Tells) (I := Bench.Unasked)
    (fun J m hm e J' hJ hstep => Bench.tells_of_unasked hJ (hmoves m hm) hstep)
    (fun _ _ => rfl) hrun
  exact ⟨es, J, r, htold, hstored, hstatus, no_revision_of_unapplied htold hstored hstatus⟩

/-- A response that is lost: the cycle is recorded as failed, and its revision is in force. -/
theorem revision_of_failed_cycle : ∃ es J r, Run (Exchange Platform.anything) Bench.start es J ∧
    J.Stored r ∧ r.outcome.status ≠ .applied ∧
    ∃ rev, (J.backend "gh-a").world.store.ledger.current = some rev ∧
      rev.optimizerRunId = some r.optimizerRunId := by
  have hrun : (Bench.schedule (List.replicate 33 .task ++ [.arrive] ++ List.replicate 10 .handle ++
      List.replicate 8 .task) Bench.start).bind (fun x => (Bench.failed x.2).bind fun r =>
        (x.2.backend "gh-a").world.store.ledger.current.map fun rev =>
          decide (rev.optimizerRunId = some r.optimizerRunId)) = some true := by decide +kernel
  obtain ⟨⟨es, J⟩, hrun, h⟩ := Option.bind_eq_some_iff.1 hrun
  obtain ⟨r, hr, h⟩ := Option.bind_eq_some_iff.1 h
  obtain ⟨rev, hrev, h⟩ := Option.map_eq_some_iff.1 h
  obtain ⟨hstored, hstatus⟩ := Bench.stored_of_failed hr
  refine ⟨es, J, r, ?_, hstored, hstatus, rev, hrev, of_decide_eq_true h⟩
  exact (Bench.run_of_schedule (T := fun _ _ => True) (I := fun _ => True)
    (fun _ _ _ _ _ _ _ => ⟨trivial, trivial⟩) trivial hrun).forget

end Greenhouse.Contract
