import Greenhouse.Optimizer.Tasks

/-!
# Run ids and messages

A task has the run id that it minted or was given, and sends at most one submission under it.

* `TaskState.MaySend`: a task has sent nothing yet under a run id.
* `wires_of_effect`: what an operation does to the messages and to the minted run ids.
-/

namespace Greenhouse.Optimizer

open Greenhouse.Process

namespace TaskState

/-- The run id that a task has. -/
def runId : TaskState → Option RunId
  | free _ id | claimed _ id => id
  | starting _ => none
  | running _ _ p => p.runId

/-- A task may still send a submission under a run id. -/
def MaySend (q : TaskState) (id : RunId) : Prop :=
  q.runId = some id ∧ ∀ g onDemand p, q = .running g onDemand p → p.sent = none ∧ p.records = []

end TaskState

section

variable {deps : Dependencies} {q : TaskState} {o : Op} {r : Resp o} {id : RunId}

theorem Progress.runId_of_next {p : Progress} (h : (p.next o r).runId = some id) :
    p.runId = some id ∨ (⟨o, r⟩ : Call Op Resp) = ⟨.uuid4, id⟩ := by
  cases o with
  | uuid4 =>
    cases h
    exact .inr rfl
  | _ => exact .inl h

theorem Progress.runId_kept {p : Progress} {g : String} {onDemand : Bool}
    (hpermits : p.Permits deps g onDemand o) (h : p.runId = some id) :
    (p.next o r).runId = some id := by
  cases o with
  | uuid4 => exact absurd (h.symm.trans hpermits) (Option.some_ne_none id)
  | _ => exact h

/-- What a cycle has sent and stored, it has sent and stored for good. -/
theorem Progress.unsent_of_next {p : Progress} (h : (p.next o r).sent = none)
    (h' : (p.next o r).records = []) : p.sent = none ∧ p.records = [] := by
  cases o with
  | send s => cases h
  | record record => simp [Progress.next] at h'
  | _ => exact ⟨h, h'⟩

/-- A task has the run id it had, or has just minted it. -/
theorem TaskState.runId_of_next (h : (q.next o r).runId = some id) :
    q.runId = some id ∨ (⟨o, r⟩ : Call Op Resp) = ⟨.uuid4, id⟩ := by
  cases q with
  | free found runId =>
    cases o with
    | uuid4 =>
      cases h
      exact .inr rfl
    | started => cases h
    | _ =>
      first
        | exact .inl h
        | cases h
  | starting g => cases o <;> cases h
  | claimed g runId =>
    cases o with
    | discard g' => cases h
    | _ => exact .inl h
  | running g onDemand p =>
    cases o with
    | leave g' => cases h
    | _ => exact Progress.runId_of_next h

/-- A task may send what it could send before, or under the run id it has just minted. -/
theorem TaskState.maySend_of_next (hpermits : q.Permits deps o) (h : (q.next o r).MaySend id) :
    q.MaySend id ∨ (⟨o, r⟩ : Call Op Resp) = ⟨.uuid4, id⟩ := by
  obtain ⟨hid, hunsent⟩ := h
  refine (TaskState.runId_of_next hid).imp_left fun hid' => ⟨hid', fun g onDemand p hq => ?_⟩
  subst hq
  have hstep : ∀ p', (running g onDemand p).next o r = running g onDemand p' → p' = p.next o r →
      p.sent = none ∧ p.records = [] := by
    rintro p' hnext rfl
    obtain ⟨hsent, hrecords⟩ := hunsent g onDemand _ hnext
    exact Progress.unsent_of_next hsent hrecords
  cases o with
  | leave g' => cases hid
  | _ => exact hstep _ rfl rfl

/-- A submission leaves under the run id of its task, which sends no other. -/
theorem TaskState.of_send {s : Submission} (hpermits : q.Permits deps (.send s)) :
    q.MaySend s.runId ∧ ¬ (q.next (.send s) ()).MaySend s.runId := by
  cases q with
  | running g onDemand p =>
    obtain ⟨-, -, hid, hsent, hrecords⟩ := hpermits
    refine ⟨⟨hid, fun g' onDemand' p' heq => ?_⟩, fun h => ?_⟩
    · cases heq
      exact ⟨hsent, hrecords⟩
    · cases (h.2 g onDemand _ rfl).1
  | _ => exact hpermits.elim

/-- The operations on the messages and the run ids. -/
def Op.messages : Op → Bool
  | .uuid4 | .send _ | .receive _ => true
  | _ => false

theorem messages_of_effect {w w' : World} (h : Effect w o r w') (ho : o.messages = false) :
    w'.requests = w.requests ∧ w'.replies = w.replies ∧ w'.runIds = w.runIds := by
  cases o with
  | uuid4 => cases ho
  | send s => cases ho
  | receive id => cases ho
  | _ =>
    first
      | obtain rfl := h
        exact ⟨rfl, rfl, rfl⟩
      | obtain ⟨-, rfl⟩ := h
        exact ⟨rfl, rfl, rfl⟩

/-- What an operation does to the messages and the run ids. -/
theorem wires_of_effect {w w' : World} (h : Effect w o r w') :
    (∀ s ∈ w'.requests, s ∈ w.requests ∨ (⟨o, r⟩ : Call Op Resp) = ⟨.send s, ()⟩) ∧
    (∀ x ∈ w'.replies, x ∈ w.replies) ∧ (∀ id ∈ w.runIds, id ∈ w'.runIds) ∧
    ∀ id ∈ w'.runIds, id ∈ w.runIds ∨ (⟨o, r⟩ : Call Op Resp) = ⟨.uuid4, id⟩ := by
  by_cases ho : o.messages = true
  · cases o with
    | uuid4 =>
      obtain ⟨-, rfl⟩ := h
      refine ⟨fun s hs => .inl hs, fun x hx => hx, fun id hid => List.mem_cons_of_mem _ hid, ?_⟩
      intro id hid
      rcases List.mem_cons.1 hid with rfl | hid
      · exact .inr rfl
      · exact .inl hid
    | send s =>
      obtain rfl := h
      refine ⟨fun s' hs => ?_, fun x hx => hx, fun id hid => hid, fun id hid => .inl hid⟩
      rcases List.mem_cons.1 hs with rfl | hs
      · exact .inr rfl
      · exact .inl hs
    | receive id =>
      cases r with
      | error failure =>
        obtain rfl := h
        exact ⟨fun s hs => .inl hs, fun x hx => hx, fun id hid => hid, fun id hid => .inl hid⟩
      | ok reply =>
        obtain ⟨-, rfl⟩ := h
        exact ⟨fun s hs => .inl hs, fun x hx => List.mem_of_mem_filter hx, fun id hid => hid,
          fun id hid => .inl hid⟩
    | _ => cases ho
  · obtain ⟨hrequests, hreplies, hrunIds⟩ := messages_of_effect h (Bool.eq_false_iff.2 ho)
    rw [hrequests, hreplies, hrunIds]
    exact ⟨fun s hs => .inl hs, fun x hx => hx, fun id hid => hid, fun id hid => .inl hid⟩

end

end Greenhouse.Optimizer
