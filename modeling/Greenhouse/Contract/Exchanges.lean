import Greenhouse.Contract.Submissions

/-!
# What the optimizer and the network do to a submission

A call of a task keeps the invariant of the exchange, unless it gives up on the response to a
run whose revision is there; so does everything that makes no call and leaves the platform alone.

* `Parties.Consistent.service`: a step of the optimizer.
* `Parties.Consistent.delivered`, `Parties.Consistent.turnedAway`: a request that is lost or
  turned away.
-/

namespace Greenhouse.Contract

open Greenhouse.Process Prog

namespace Parties

/-! ## A call of a task -/

section Call

variable {C : Type} {deps : Optimizer.Dependencies} {J : Parties C} {old : List Optimizer.RunId}
  {l : Service} {i j : Optimizer.Scheduler.Task} {o : Optimizer.Op} {r : Optimizer.Resp o}
  {id : Optimizer.RunId}

/-- A task has made a permitted call, and the loop is as it leaves it. -/
structure Called (deps : Optimizer.Dependencies) (J : Parties C) (l : Service)
    (i : Optimizer.Scheduler.Task) (o : Optimizer.Op) (r : Optimizer.Resp o) : Prop where
  permits : (J.tasks deps i).Permits deps o
  effect : Optimizer.Effect J.service.world o r l.world
  calls : l.calls = Function.update J.service.calls i (J.service.calls i ++ [⟨o, r⟩])
  states : ({ J with service := l } : Parties C).tasks deps =
    Function.update (J.tasks deps) i ((J.tasks deps i).next o r)
  tracks : Pool.Tracks (fun _ => Optimizer.taskProtocol deps) (fun _ => .idle)
    (fun _ q _ => ∃ found runId, q = .free found runId) l.toPool

theorem Called.self (h : Called deps J l i o r) :
    ({ J with service := l } : Parties C).tasks deps i = (J.tasks deps i).next o r := by
  rw [h.states, Function.update_self]

theorem Called.other (h : Called deps J l i o r) (hj : j ≠ i) :
    ({ J with service := l } : Parties C).tasks deps j = J.tasks deps j := by
  rw [h.states, Function.update_of_ne hj]

theorem Called.mem_calls (h : Called deps J l i o r) {c : ServiceCall} :
    (∃ j, c ∈ l.calls j) ↔ (∃ j, c ∈ J.service.calls j) ∨ c = ⟨o, r⟩ := by
  rw [h.calls]
  constructor
  · rintro ⟨j, hj⟩
    by_cases hji : j = i
    · subst hji
      rw [Function.update_self] at hj
      rcases List.mem_append.1 hj with hj | hj
      · exact .inl ⟨j, hj⟩
      · exact .inr (List.mem_singleton.1 hj)
    · rw [Function.update_of_ne hji] at hj
      exact .inl ⟨j, hj⟩
  · rintro (⟨j, hj⟩ | rfl)
    · by_cases hji : j = i
      · subst hji
        refine ⟨j, ?_⟩
        rw [Function.update_self]
        exact List.mem_append_left _ hj
      · refine ⟨j, ?_⟩
        rw [Function.update_of_ne hji]
        exact hj
    · refine ⟨i, ?_⟩
      rw [Function.update_self]
      exact List.mem_append_right _ List.mem_cons_self

theorem Called.runId (h : Called deps J l i o r)
    (hid : (({ J with service := l } : Parties C).tasks deps j).runId = some id) :
    (J.tasks deps j).runId = some id ∨
      j = i ∧ (⟨o, r⟩ : ServiceCall) = ⟨.uuid4, id⟩ := by
  by_cases hj : j = i
  · subst hj
    rw [h.self] at hid
    exact (Optimizer.TaskState.runId_of_next hid).imp_right fun heq => ⟨rfl, heq⟩
  · rw [h.other hj] at hid
    exact .inl hid

theorem Called.maySend (h : Called deps J l i o r)
    (hsend : (({ J with service := l } : Parties C).tasks deps j).MaySend id) :
    (J.tasks deps j).MaySend id ∨
      (⟨o, r⟩ : ServiceCall) = ⟨.uuid4, id⟩ := by
  by_cases hj : j = i
  · subst hj
    rw [h.self] at hsend
    exact Optimizer.TaskState.maySend_of_next h.permits hsend
  · rw [h.other hj] at hsend
    exact .inl hsend

/-- A run id is minted when it is not among the minted ones. -/
theorem Called.fresh (h : Called deps J l i o r)
    (heq : (⟨o, r⟩ : ServiceCall) = ⟨.uuid4, id⟩) :
    id ∉ J.service.world.runIds ∧ id ∈ l.world.runIds := by
  cases heq
  obtain ⟨hfresh, hworld⟩ := h.effect
  rw [hworld]
  exact ⟨hfresh, List.mem_cons_self⟩

theorem Minted.call (h : J.Minted deps old) (hc : Called deps J l i o r) :
    ({ J with service := l } : Parties C).Minted deps old := by
  obtain ⟨-, -, hkeep, -⟩ := Optimizer.wires_of_effect hc.effect
  have hfresh : ∀ id, (⟨o, r⟩ : ServiceCall) = ⟨.uuid4, id⟩ →
      ∀ j, (J.tasks deps j).runId ≠ some id := by
    intro id heq j hj
    exact (hc.fresh heq).1 (h.minted j id hj).1
  refine ⟨hc.tracks, ?_, fun j id hid => ?_, fun id hid => hkeep id (h.old id hid)⟩
  · intro a b id ha hb
    rcases hc.runId ha with ha | ⟨rfl, heq⟩
    · rcases hc.runId hb with hb | ⟨rfl, heq⟩
      · exact h.exclusive a b id ha hb
      · exact absurd ha (hfresh id heq a)
    · rcases hc.runId hb with hb | ⟨rfl, -⟩
      · exact absurd hb (hfresh id heq b)
      · rfl
  · rcases hc.runId hid with hid | ⟨-, heq⟩
    · obtain ⟨hmem, hold⟩ := h.minted j id hid
      exact ⟨hkeep id hmem, hold⟩
    · exact ⟨(hc.fresh heq).2, fun hid => (hc.fresh heq).1 (h.old id hid)⟩

/-- The platform does not see the call. -/
theorem Attributed.call (h : J.Attributed old) :
    ({ J with service := l } : Parties C).Attributed old :=
  ⟨h.tracks, h.idle, h.once, h.revisions⟩

/-- Nobody but the sender has the run id of a submission that leaves. -/
theorem Called.sender (h : Called deps J l i o r) (hminted : J.Minted deps old)
    {s : Optimizer.Submission}
    (heq : (⟨o, r⟩ : ServiceCall) = ⟨.send s, ()⟩) :
    (J.tasks deps i).MaySend s.runId ∧
      ∀ j, ¬ (({ J with service := l } : Parties C).tasks deps j).MaySend s.runId := by
  cases heq
  obtain ⟨hmay, hdone⟩ := Optimizer.TaskState.of_send h.permits
  refine ⟨hmay, fun j hj => ?_⟩
  by_cases hji : j = i
  · subst hji
    rw [h.self] at hj
    exact hdone hj
  · rw [h.other hji] at hj
    exact hji (hminted.exclusive j i s.runId hj.1 hmay.1)

/-- What is settled stays so, unless the run sends its submission. -/
theorem Settled.call (h : J.Settled id) (hc : Called deps J l i o r)
    (hsend : ∀ s, (⟨o, r⟩ : ServiceCall) = ⟨.send s, ()⟩ → s.runId ≠ id) :
    ({ J with service := l } : Parties C).Settled id := by
  obtain ⟨hrequests, -, -, -⟩ := Optimizer.wires_of_effect hc.effect
  refine h.keep (fun s hs hid => ?_) ?_ (fun _ _ => rfl) fun _ happ => happ
  · exact (hrequests s hs).resolve_right fun heq => hsend s heq hid
  · rintro ⟨j, failure, hj⟩
    obtain ⟨k, hk⟩ := hc.mem_calls.2 (.inl ⟨j, hj⟩)
    exact ⟨k, failure, hk⟩

theorem Carried.call (h : J.Carried deps) (hminted : J.Minted deps old)
    (hc : Called deps J l i o r) : ({ J with service := l } : Parties C).Carried deps := by
  obtain ⟨hrequests, hreplies, hkeep, -⟩ := Optimizer.wires_of_effect hc.effect
  refine ⟨fun id hid => ?_, fun s hs => ?_, fun x hx hstatus => ?_⟩
  · have hbefore : J.Untouched id := by
      refine h.pristine id ?_
      rcases hid with hid | ⟨j, hj⟩
      · exact .inl fun hmem => hid (hkeep id hmem)
      · rcases hc.maySend hj with hj | heq
        · exact .inr ⟨j, hj⟩
        · exact .inl (hc.fresh heq).1
    refine ⟨fun s hs hsid => ?_, hbefore.arrived, fun x hx => hbefore.replies x (hreplies x hx)⟩
    rcases hrequests s hs with hs | heq
    · exact hbefore.requests s hs hsid
    · obtain ⟨hmay, hnone⟩ := hc.sender hminted heq
      subst hsid
      rcases hid with hid | ⟨j, hj⟩
      · exact hid (hkeep _ (hminted.minted i _ hmay.1).1)
      · exact hnone j hj
  · have hplace : (∀ s' ∈ J.arrived, s'.runId ≠ s.runId) ∧
        ∀ x ∈ J.service.world.replies, x.1 ≠ s.runId := by
      rcases hrequests s hs with hs | heq
      · exact h.requests s hs
      · have huntouched := h.pristine _ (.inr ⟨i, (hc.sender hminted heq).1⟩)
        exact ⟨huntouched.arrived, huntouched.replies⟩
    exact ⟨hplace.1, fun x hx => hplace.2 x (hreplies x hx)⟩
  · refine (h.refused x (hreplies x hx) hstatus).keep (fun s hs hid => ?_) (fun _ => rfl)
      fun _ happ => happ
    refine (hrequests s hs).resolve_right fun heq => ?_
    have huntouched := h.pristine _ (.inr ⟨i, (hc.sender hminted heq).1⟩)
    exact huntouched.replies x (hreplies x hx) hid.symm

/-- The reply that a running cycle has, it had before, or it has just come. -/
theorem reply_of_next {p : Optimizer.Progress}
    {answer : Except Optimizer.RequestFailure (Optimizer.HttpReply String)}
    (h : (p.next o r).reply = some answer) :
    p.reply = some answer ∨
      ∃ id, (⟨o, r⟩ : ServiceCall) = ⟨.receive id, answer⟩ := by
  cases o with
  | receive id =>
    cases h
    exact .inr ⟨id, rfl⟩
  | _ => exact .inl h

theorem sent_of_next {p : Optimizer.Progress} (h : p.sent ≠ none) : (p.next o r).sent ≠ none := by
  cases o with
  | send s => exact Option.some_ne_none s
  | _ => exact h

/-- A response that has come is the end of its run, unless it is an acceptance. -/
theorem Called.received (hc : Called deps J l i o r) (h : J.Carried deps)
    (htold : ∀ id failure, (⟨o, r⟩ : ServiceCall) =
      ⟨.receive id, .error failure⟩ → ∀ g, ¬ J.Appended g id)
    {answer : Except Optimizer.RequestFailure (Optimizer.HttpReply String)}
    (heq : (⟨o, r⟩ : ServiceCall) = ⟨.receive id, answer⟩)
    (hrefused : ¬ Optimizer.Progress.Accepted answer) :
    ({ J with service := l } : Parties C).Settled id := by
  have hsettled : J.Settled id ∨ ∃ failure, answer = .error failure := by
    cases answer with
    | error failure => exact .inr ⟨failure, rfl⟩
    | ok reply =>
      cases heq
      exact .inl (.inl (h.refused (id, reply) hc.effect.1 hrefused))
  rcases hsettled with hsettled | ⟨failure, rfl⟩
  · refine hsettled.call hc fun s hsend => ?_
    rw [heq] at hsend
    cases hsend
  · obtain ⟨k, hk⟩ := hc.mem_calls.2 (.inr heq.symm)
    exact .inr ⟨⟨k, failure, hk⟩, htold id failure heq⟩

/-- A run that is recorded otherwise than as applied has sent nothing, or was refused. -/
theorem Called.stored (hc : Called deps J l i o r) (h : J.Concluded deps old)
    (hminted : J.Minted deps old) (hcarried : J.Carried deps) (hattributed : J.Attributed old)
    {record : Optimizer.PlanRecord}
    (heq : (⟨o, r⟩ : ServiceCall) = ⟨.record record, ()⟩)
    (hstatus : record.outcome.status ≠ .applied) :
    record.optimizerRunId ∈ l.world.runIds ∧ record.optimizerRunId ∉ old ∧
      ({ J with service := l } : Parties C).Settled record.optimizerRunId ∧
      ∀ j, ¬ (({ J with service := l } : Parties C).tasks deps j).MaySend
        record.optimizerRunId := by
  obtain ⟨-, -, hkeep, -⟩ := Optimizer.wires_of_effect hc.effect
  cases heq
  have hpermits := hc.permits
  have hself := hc.self
  cases hq : J.tasks deps i with
  | running g onDemand p =>
    rw [hq] at hpermits hself
    obtain ⟨-, hid, hrecords, hagrees⟩ := hpermits
    have hholds : (J.tasks deps i).runId = some record.optimizerRunId := by
      rw [hq]
      exact hid
    obtain ⟨hknown, hold⟩ := hminted.minted i _ hholds
    refine ⟨hkeep _ hknown, hold, ?_, fun j hj => ?_⟩
    · have hsettled : J.Settled record.optimizerRunId := by
        rcases (hagrees.unapplied hstatus).2 with hsent | ⟨answer, hreply, hrefused⟩
        · refine .inl ((hcarried.pristine _ (.inr ⟨i, hholds, ?_⟩)).dead hattributed)
          intro g' onDemand' p' hq'
          cases hq.symm.trans hq'
          exact ⟨hsent, hrecords⟩
        · obtain ⟨-, id, hid', hsettled⟩ := h.answered i g onDemand p answer hq hreply
          cases hid.symm.trans hid'
          exact hsettled hrefused
      exact hsettled.call hc fun s heq => by cases heq
    · by_cases hji : j = i
      · subst hji
        have hnone := (hj.2 g onDemand _ hself).2
        simp [Optimizer.Progress.next] at hnone
      · rw [hc.other hji] at hj
        exact hji (hminted.exclusive j i _ hj.1 hholds)
  | _ =>
    rw [hq] at hpermits
    exact hpermits.elim

theorem Concluded.call (h : J.Concluded deps old) (hminted : J.Minted deps old)
    (hcarried : J.Carried deps) (hattributed : J.Attributed old) (hc : Called deps J l i o r)
    (htold : ∀ id failure, (⟨o, r⟩ : ServiceCall) =
      ⟨.receive id, .error failure⟩ → ∀ g, ¬ J.Appended g id) :
    ({ J with service := l } : Parties C).Concluded deps old := by
  obtain ⟨-, -, hkeep, -⟩ := Optimizer.wires_of_effect hc.effect
  refine ⟨fun j g onDemand p answer hq hreply => ?_, fun record hstored hstatus => ?_⟩
  · by_cases hj : j = i
    · subst hj
      rw [hc.self] at hq
      rcases Optimizer.TaskState.running_of_next hc.permits hq with
        ⟨_, _, rfl, _⟩ | ⟨p', hq', hp', rfl⟩
      · cases hreply
      · rcases reply_of_next hreply with hbefore | ⟨id, heq⟩
        · obtain ⟨hsent, id, hid, hsettled⟩ := h.answered j g onDemand p' answer hq' hbefore
          refine ⟨sent_of_next hsent, id, Optimizer.Progress.runId_kept hp' hid, fun hrefused => ?_⟩
          refine (hsettled hrefused).call hc fun s heq _ => ?_
          cases heq
          exact hsent hp'.2.2.2.1
        · have hsettled := hc.received hcarried htold heq
          cases heq
          exact ⟨sent_of_next hp'.2.1, id, hp'.1, hsettled⟩
    · rw [hc.other hj] at hq
      obtain ⟨hsent, id, hid, hsettled⟩ := h.answered j g onDemand p answer hq hreply
      refine ⟨hsent, id, hid, fun hrefused => (hsettled hrefused).call hc fun s heq hsid => ?_⟩
      subst hsid
      have hholds : (J.tasks deps j).runId = some s.runId := by
        rw [hq]
        exact hid
      exact hj (hminted.exclusive j i s.runId hholds (hc.sender hminted heq).1.1)
  · rcases hc.mem_calls.1 hstored with hstored | heq
    · obtain ⟨hknown, hold, hsettled, hnone⟩ := h.recorded record hstored hstatus
      refine ⟨hkeep _ hknown, hold, hsettled.call hc fun s heq hsid => ?_, fun j hj => ?_⟩
      · exact hnone i (hsid ▸ (hc.sender hminted heq).1)
      · rcases hc.maySend hj with hj | heq
        · exact hnone j hj
        · exact (hc.fresh heq).1 hknown
    · exact hc.stored h hminted hcarried hattributed heq.symm hstatus

end Call

/-! ## Steps that no task makes -/

section Onward

variable {C : Type} {deps : Optimizer.Dependencies} {J J' : Parties C}
  {old : List Optimizer.RunId}

/-- What a step that no task makes may do: a message moves on, with its run untouched no more. -/
structure Onward (J J' : Parties C) : Prop where
  calls : J'.service.calls = J.service.calls
  runIds : J'.service.world.runIds = J.service.world.runIds
  requests : ∀ s ∈ J'.service.world.requests, s ∈ J.service.world.requests
  replies : ∀ x ∈ J'.service.world.replies, x ∈ J.service.world.replies ∨
    ((∀ s ∈ J'.service.world.requests, s.runId ≠ x.1) ∧ ¬ J.Untouched x.1 ∧
      (x.2.status ≠ 202 → J'.Dead x.1))
  arrived : ∀ s ∈ J'.arrived, s ∈ J.arrived ∨
    (s ∈ J.service.world.requests ∧ ∀ s' ∈ J'.service.world.requests, s'.runId ≠ s.runId)
  dead : ∀ id, J.Dead id → J'.Dead id
  settled : ∀ id, J.Settled id → J'.Settled id

theorem Onward.tasks (h : Onward J J') : J'.tasks deps = J.tasks deps := by
  funext i
  show (Optimizer.taskProtocol deps).after _ (J'.service.calls i) = _
  rw [h.calls]
  rfl

theorem Carried.onward (h : J.Carried deps) (ho : Onward J J') : J'.Carried deps := by
  refine ⟨fun id hid => ?_, fun s hs => ⟨fun s' hs' => ?_, fun x hx => ?_⟩, fun x hx hstatus => ?_⟩
  · rw [ho.runIds, ho.tasks] at hid
    have hbefore := h.pristine id hid
    refine ⟨fun s hs => hbefore.requests s (ho.requests s hs), fun s hs => ?_, fun x hx => ?_⟩
    · rcases ho.arrived s hs with hs | ⟨hs, -⟩
      · exact hbefore.arrived s hs
      · exact hbefore.requests s hs
    · rcases ho.replies x hx with hx | ⟨-, htouched, -⟩
      · exact hbefore.replies x hx
      · rintro rfl
        exact htouched hbefore
  · rcases ho.arrived s' hs' with hs' | ⟨-, hgone⟩
    · exact (h.requests s (ho.requests s hs)).1 s' hs'
    · exact fun heq => hgone s hs heq.symm
  · rcases ho.replies x hx with hx | ⟨hgone, -⟩
    · exact (h.requests s (ho.requests s hs)).2 x hx
    · exact fun heq => hgone s hs heq.symm
  · rcases ho.replies x hx with hx | ⟨-, -, hdead⟩
    · exact ho.dead _ (h.refused x hx hstatus)
    · exact hdead hstatus

theorem Concluded.onward (h : J.Concluded deps old) (ho : Onward J J') :
    J'.Concluded deps old := by
  refine ⟨fun i g onDemand p answer hq hreply => ?_, fun record hstored hstatus => ?_⟩
  · rw [ho.tasks] at hq
    obtain ⟨hsent, id, hid, hsettled⟩ := h.answered i g onDemand p answer hq hreply
    exact ⟨hsent, id, hid, fun hrefused => ho.settled id (hsettled hrefused)⟩
  · unfold Stored at hstored
    rw [ho.calls] at hstored
    obtain ⟨hknown, hold, hsettled, hnone⟩ := h.recorded record hstored hstatus
    rw [ho.runIds, ho.tasks]
    exact ⟨hknown, hold, ho.settled _ hsettled, hnone⟩

/-- A step that leaves the platform as it is. -/
theorem Onward.of_service
    (hbackend : J'.backend = J.backend) (harrived : J'.arrived = J.arrived)
    (hcalls : J'.service.calls = J.service.calls)
    (hrunIds : J'.service.world.runIds = J.service.world.runIds)
    (hrequests : ∀ s ∈ J'.service.world.requests, s ∈ J.service.world.requests)
    (hreplies : ∀ x ∈ J'.service.world.replies, x ∈ J.service.world.replies ∨
      ((∀ s ∈ J'.service.world.requests, s.runId ≠ x.1) ∧ ¬ J.Untouched x.1 ∧
        (x.2.status ≠ 202 → J'.Dead x.1))) : Onward J J' := by
  have happended : ∀ g id, J'.Appended g id → J.Appended g id := by
    intro g id h
    unfold Appended at h
    rwa [hbackend] at h
  refine ⟨hcalls, hrunIds, hrequests, hreplies, fun s hs => .inl (harrived ▸ hs), ?_, ?_⟩
  · exact fun id h => h.keep (fun s hs _ => hrequests s hs) (fun g => by rw [hbackend])
      fun g => happended g id
  · intro id h
    refine h.keep (fun s hs _ => hrequests s hs) ?_ (fun _ g => by rw [hbackend])
      fun g => happended g id
    rintro ⟨i, failure, hi⟩
    exact ⟨i, failure, hcalls ▸ hi⟩

/-- A step on the optimizer's side that makes no call. -/
theorem Minted.onward (h : J.Minted deps old) (ho : Onward J J')
    (hleft : J'.service.left = J.service.left) : J'.Minted deps old := by
  refine ⟨fun i => ?_, ?_, fun i id hid => ?_, fun id hid => ?_⟩
  · have hi := h.tracks i
    have hstates : J'.service.states (fun _ => Optimizer.taskProtocol deps) (fun _ => .idle) i =
      J.service.states (fun _ => Optimizer.taskProtocol deps) (fun _ => .idle) i :=
      congrFun (@Onward.tasks C deps J J' ho) i
    rw [hstates, hleft]
    exact hi
  · rw [ho.tasks]
    exact h.exclusive
  · rw [ho.tasks] at hid
    rw [ho.runIds]
    exact h.minted i id hid
  · rw [ho.runIds]
    exact h.old id hid

/-- A step on the optimizer's side leaves the platform's part of the invariant. -/
theorem Attributed.congr (h : J.Attributed old) (hbackend : J'.backend = J.backend)
    (harrived : J'.arrived = J.arrived) : J'.Attributed old := by
  obtain ⟨service', backend', arrived'⟩ := J'
  obtain rfl : backend' = J.backend := hbackend
  obtain rfl : arrived' = J.arrived := harrived
  exact ⟨h.tracks, h.idle, h.once, h.revisions⟩

/-- What happens outside the optimizer leaves the invariant as it is, if a new reply is that of
a run whose submission is no longer on its way, and over when it is a refusal. -/
theorem Consistent.of_service (h : J.Consistent deps old) (ho : Onward J J')
    (hleft : J'.service.left = J.service.left) (hbackend : J'.backend = J.backend)
    (harrived : J'.arrived = J.arrived) : J'.Consistent deps old :=
  ⟨h.minted.onward ho hleft, h.attributed.congr hbackend harrived, h.carried.onward ho,
    h.concluded.onward ho⟩

/-- A request is no longer on its way. -/
theorem onward_delivered (s : Optimizer.Submission) : Onward J (J.tell (.delivered s)) :=
  .of_service rfl rfl rfl rfl (fun _ hs => List.mem_of_mem_filter hs) fun _ hx => .inl hx

theorem Consistent.delivered (h : J.Consistent deps old) (s : Optimizer.Submission) :
    (J.tell (.delivered s)).Consistent deps old :=
  h.of_service (onward_delivered s) rfl rfl rfl

theorem not_mem_requests_delivered (s : Optimizer.Submission) :
    ∀ s' ∈ (J.tell (.delivered s)).service.world.requests, s'.runId ≠ s.runId := by
  intro s' hs'
  have hne := List.of_mem_filter hs'
  simpa using hne

/-- A reply comes for a run whose submission has left and is no longer on its way. -/
theorem Consistent.replied (h : J.Consistent deps old) {id : Optimizer.RunId}
    {reply : Optimizer.HttpReply String}
    (hrequests : ∀ s ∈ J.service.world.requests, s.runId ≠ id) (htouched : ¬ J.Untouched id)
    (hdead : reply.status ≠ 202 → J.Dead id) :
    (J.tell (.replied id reply)).Consistent deps old := by
  refine h.of_service (.of_service rfl rfl rfl rfl (fun _ hs => hs) fun x hx => ?_) rfl rfl rfl
  rcases List.mem_cons.1 hx with rfl | hx
  · exact .inr ⟨hrequests, htouched, fun hstatus => (hdead hstatus).keep (fun _ hs _ => hs)
      (fun _ => rfl) fun _ happ => happ⟩
  · exact .inl hx

/-- A request is turned away: its run is over. -/
theorem Consistent.turnedAway (h : J.Consistent deps old) {s : Optimizer.Submission}
    {reply : Optimizer.HttpReply String} (hs : s ∈ J.service.world.requests) :
    ((J.tell (.delivered s)).tell (.replied s.runId reply)).Consistent deps old := by
  have hgone := @not_mem_requests_delivered C J s
  have hdead : ((J.tell (.delivered s)).tell (.replied s.runId reply)).Dead s.runId := by
    have hidle := fun g => h.attributed.idle g s.runId fun s' hs' hid =>
      absurd hid ((h.carried.requests s hs).1 s' hs')
    exact ⟨hgone, fun g => ⟨_, (hidle g).1⟩, fun g => (hidle g).2⟩
  refine h.of_service (.of_service rfl rfl rfl rfl
    (fun _ hs' => List.mem_of_mem_filter hs') fun x hx => ?_) rfl rfl rfl
  rcases List.mem_cons.1 hx with rfl | hx
  · exact .inr ⟨hgone, fun hnone => hnone.requests s hs rfl, fun _ => hdead⟩
  · exact .inl hx

end Onward

/-! ## Steps of the optimizer -/

section Service

variable {C : Type} {deps : Optimizer.Dependencies} {J : Parties C} {old : List Optimizer.RunId}

theorem Consistent.call (h : J.Consistent deps old)
    {l : Service}
    {i : Optimizer.Scheduler.Task} {o : Optimizer.Op} {r : Optimizer.Resp o}
    (hc : Called deps J l i o r)
    (htold : ∀ id failure, (⟨o, r⟩ : ServiceCall) =
      ⟨.receive id, .error failure⟩ → ∀ g, ¬ J.Appended g id) :
    ({ J with service := l } : Parties C).Consistent deps old :=
  ⟨h.minted.call hc, h.attributed.call, h.carried.call h.minted hc,
    h.concluded.call h.minted h.carried h.attributed hc htold⟩

/-- A step of the optimizer that makes no call leaves the messages alone. -/
theorem Consistent.still (h : J.Consistent deps old)
    {l : Service}
    (hcalls : l.calls = J.service.calls) (hleft : l.left = J.service.left)
    (hrunIds : l.world.runIds = J.service.world.runIds)
    (hrequests : l.world.requests = J.service.world.requests)
    (hreplies : l.world.replies = J.service.world.replies) :
    ({ J with service := l } : Parties C).Consistent deps old :=
  h.of_service (.of_service rfl rfl hcalls hrunIds (fun _ hs => hrequests ▸ hs)
    fun _ hx => .inl (hreplies ▸ hx)) hleft rfl rfl

theorem Consistent.service (h : J.Consistent deps old)
    {e : ServiceEvent}
    {l : Service}
    (hstep : Loop.Step Optimizer.service J.service e l)
    (hinside : ∀ x, e = .outside x → ¬ OnNetwork x) (htold : J.Tells (.service e)) :
    ({ J with service := l } : Parties C).Consistent deps old := by
  rcases Loop.step_cases hstep h.minted.tracks with
    ⟨i, o, r, hmakes, hpermits, heffect, hcalls, hstates, htracks⟩ | ⟨hpool, -⟩ |
      ⟨x, w, rfl, rfl, rfl⟩
  · refine h.call ⟨hpermits, heffect, hcalls, hstates, htracks trivial⟩ fun id failure heq => ?_
    cases heq
    rcases hmakes with ⟨-, rfl⟩ | ⟨hawaits, -⟩
    · exact htold
    · cases hawaits
  · have hworld : l.world = J.service.world := congrArg Pool.world hpool
    exact h.still (congrArg Pool.calls hpool) (congrArg Pool.left hpool)
      (congrArg Optimizer.World.runIds hworld) (congrArg Optimizer.World.requests hworld)
      (congrArg Optimizer.World.replies hworld)
  · have hoff := hinside x rfl
    cases x with
    | delivered s => exact absurd trivial hoff
    | replied id reply => exact absurd trivial hoff
    | _ => exact h.still rfl rfl rfl rfl rfl

end Service

end Parties

end Greenhouse.Contract
