import Greenhouse.Platform.Footprint

/-!
# Handling a submission

What the handler of an optimizer's submission does to the ledger: it appends at most one
revision, under the run id of the submission, and the reply is `202` if it did and the row of
the greenhouse could then be read and written.

* `obeys_submitSetpoints`: over every order of answers.
* `Unattributed`: a program that appends nothing under a run id, as operators' edits and passes.
-/

namespace Greenhouse.Platform

open Greenhouse.Process Prog Reconciler

/-- What the handler of a submission may do; the state tells whether it has appended its revision.
The row of the greenhouse is expected to be there after that. -/
def handlerProtocol (runId : String) : Protocol Op Resp Bool where
  permits appended
    | .appendRevision p => appended = false ∧ p.optimizerRunId = some runId
    | _ => True
  answers appended
    | .getReconState, r => appended = true → ∃ recon, r = .ok recon
    | .upsertReconState _, r => appended = true → r = .ok ()
    | _, _ => True
  next appended
    | .appendRevision _, .ok _ => true
    | _, _ => appended

section

variable {runId : String}

/-! ## The revision -/

/-- Reading the tables is permitted and appends nothing. -/
theorem idle_handlerProtocol (appended : Bool) :
    (handlerProtocol runId).Idle Op.Reads appended := by
  intro o ho
  cases o with
  | appendRevision p => exact ho.elim
  | upsertReconState recon => exact ho.elim
  | broadcastDrift drift => exact ho.elim
  | _ => exact ⟨trivial, fun _ _ => rfl⟩

/-- A result of `apply` that is not an accepted one has appended nothing. -/
def Unrevised (appended : Bool) (result : Except Failure ApplyOutcome) : Prop :=
  (replyTo 202 result).status ≠ 202 → appended = false

theorem unrevised_false (result : Except Failure ApplyOutcome) : Unrevised false result :=
  fun _ => rfl

theorem obeys_writeRecord {p : Provenance} {delivery : DeliveryStatus} {status : Nat}
    {body : Option Body} (hp : p.optimizerRunId = some runId)
    (hdelivery : delivery = .delivered ∨ delivery = .deferred) :
    (writeRecord p delivery status body).Obeys (handlerProtocol runId) false Unrevised := by
  simp only [writeRecord, obeys_bind, obeys_call]
  refine ⟨⟨rfl, hp⟩, fun revision _ => ?_⟩
  cases revision with
  | error text => exact unrevised_false _
  | ok revision =>
    simp only [obeys_bind, obeys_call]
    refine ⟨trivial, fun found hfound => ?_⟩
    obtain ⟨recon, rfl⟩ := hfound rfl
    simp only [obeys_bind, obeys_call]
    refine ⟨trivial, fun written hwritten => ?_⟩
    obtain rfl := hwritten rfl
    have hreply : ∀ appended : Bool, Unrevised appended (.ok {
        revision := revision
        setpoints := some p.setpoints
        delivered := delivery = .delivered
        deferred := delivery = .deferred
        controllerStatus := status
        controllerBody := body }) := by
      intro appended hstatus
      rcases hdelivery with rfl | rfl <;> simp [replyTo] at hstatus
    simp only [broadcastWhen, obeys_bind]
    split
    · exact ⟨trivial, fun _ _ => hreply _⟩
    · exact hreply _

/-- **The handler of a submission appends at most its own revision, and a reply that does not
accept the submission has appended none.** -/
theorem obeys_submitSetpoints {actor : String} {patch : SetpointsPatchDTO} :
    (submitSetpoints actor (some runId) patch).Obeys (handlerProtocol runId) false
      fun appended reply => reply.status ≠ 202 → appended = false := by
  have hidle : (handlerProtocol runId).Idle Op.Asks false :=
    (idle_handlerProtocol false).mono fun _ h => h.reads
  apply obeys_applySetpointWrite (fun _ => True) hidle (fun _ _ => rfl)
  · exact Obeys.of_uses hidle uses_gateBounds fun _ => ⟨rfl, fun _ _ => trivial⟩
  · intro candidate bounds _ _ _
    show (Reconciler.apply _).Obeys (handlerProtocol runId) false Unrevised
    apply obeys_apply hidle
    · exact fun _ => unrevised_false _
    · exact fun _ _ => unrevised_false _
    · exact fun _ _ _ hdelivery => obeys_writeRecord rfl hdelivery

end

/-! ## Programs that handle no submission -/

/-- What a thread may do that handles no submission: what it appends has no run id. -/
def unattributed : Protocol Op Resp Bool where
  permits _ o := ∀ p, o = .appendRevision p → p.optimizerRunId = none
  answers _ _ _ := True
  next appended _ _ := appended

/-- A program appends no revision under a run id. -/
def Unattributed {α : Type} (p : Program α) : Prop :=
  p.Obeys unattributed false fun appended _ => appended = false

section Unattributed

variable {maxRetries : Nat} {e : Endpoint} {c : SetpointRevision} {recon : ReconState}

theorem idle_unattributed (o : Op) (ho : ∀ p, o ≠ .appendRevision p) :
    unattributed.permits false o ∧ ∀ r, unattributed.answers false o r →
      unattributed.next false o r = false :=
  ⟨fun p hp => absurd hp (ho p), fun _ _ => rfl⟩

theorem idle_unattributed_asks : unattributed.Idle Op.Asks false := by
  intro o ho
  refine idle_unattributed o ?_
  rintro p rfl
  exact ho.elim

/-- An operation that is no append. -/
theorem unattributed_call {α : Type} {o : Op} {f : Resp o → Program α}
    (ho : ∀ p, o ≠ .appendRevision p) (h : ∀ r, Unattributed (f r)) :
    Unattributed (call o >>= f) :=
  obeys_bind.2 ⟨(idle_unattributed o ho).1, fun r _ => h r⟩

theorem unattributed_bind {α β : Type} {p : Program α} {f : α → Program β}
    (hp : p.Uses Op.Asks) (h : ∀ a, Unattributed (f a)) : Unattributed (p >>= f) :=
  obeys_bind.2 (Obeys.of_uses idle_unattributed_asks hp h)

theorem unattributed_pure {α : Type} (a : α) : Unattributed (pure a : Program α) := rfl

theorem unattributed_broadcastWhen {α : Type} {cond drift : Bool} (a : α) :
    Unattributed (broadcastWhen cond drift >>= fun _ => pure a) := by
  unfold broadcastWhen
  split
  · exact unattributed_call (fun _ h => by cases h) fun _ => unattributed_pure a
  · exact unattributed_pure a

theorem unattributed_upsert : Unattributed (upsert recon) :=
  ⟨fun _ h => (by cases h), fun _ _ => rfl⟩

/-- The row is written, and the clients are told of the flag. -/
theorem unattributed_written {cond drift : Bool} : Unattributed (do
    match ← upsert recon with
    | .error e => return .error e
    | .ok () =>
      broadcastWhen cond drift
      return .ok () : Program (Except String Unit)) := by
  refine unattributed_call (fun _ h => by cases h) fun written => ?_
  cases written with
  | error text => rfl
  | ok written => exact unattributed_broadcastWhen _

theorem unattributed_handleDrift : Unattributed (handleDrift maxRetries e c recon) := by
  unfold handleDrift
  split
  · exact unattributed_bind uses_deliver fun _ => unattributed_written
  · exact unattributed_written

theorem unattributed_markSynced : Unattributed (markSynced recon) := by
  unfold markSynced
  split
  · rfl
  · exact unattributed_written

theorem unattributed_checkDrift : Unattributed (checkDrift maxRetries e c recon) := by
  refine unattributed_bind uses_reported fun report => ?_
  cases report with
  | error text => rfl
  | ok shown =>
    dsimp only
    split
    · exact unattributed_markSynced
    · exact unattributed_handleDrift

theorem unattributed_reassert : Unattributed (reassert maxRetries e c recon) := by
  unfold reassert
  split
  · rfl
  · exact unattributed_bind uses_deliver fun _ => unattributed_upsert

/-- An operator's edit is no submission. -/
theorem unattributed_editSetpoints {patch : SetpointsPatchDTO} :
    Unattributed (editSetpoints patch) := by
  apply obeys_applySetpointWrite (fun _ => True) idle_unattributed_asks fun _ => rfl
  · exact Obeys.of_uses idle_unattributed_asks uses_gateBounds fun _ => ⟨rfl, fun _ _ => trivial⟩
  · intro candidate bounds _ _ _
    apply obeys_apply idle_unattributed_asks
    · exact fun _ => rfl
    · exact fun _ _ => rfl
    · intro delivery status body _
      simp only [writeRecord, obeys_bind, obeys_call]
      refine ⟨fun p hp => by cases hp; rfl, fun revision _ => ?_⟩
      cases revision with
      | error text => rfl
      | ok revision =>
        refine unattributed_call (fun _ h => by cases h) fun found => ?_
        cases found with
        | error text => rfl
        | ok found =>
          refine unattributed_call (fun _ h => by cases h) fun written => ?_
          cases written with
          | error text => rfl
          | ok written => exact unattributed_broadcastWhen _

/-- Neither is a pass. -/
theorem unattributed_reconcileGreenhouse : Unattributed (reconcileGreenhouse maxRetries) := by
  refine unattributed_call (fun _ h => by cases h) fun current => ?_
  rcases current with text | _ | c
  · rfl
  · rfl
  refine unattributed_call (fun _ h => by cases h) fun found => ?_
  rcases found with text | found
  · rfl
  refine unattributed_call (fun _ h => by cases h) fun endpoint => ?_
  rcases endpoint with text | _ | e
  · rfl
  · rfl
  refine unattributed_bind ((uses_call.2 trivial).bind fun _ => uses_pure) fun reach => ?_
  cases reach with
  | true =>
    simp only [if_true]
    split
    · exact unattributed_checkDrift
    · exact unattributed_reassert
  | false =>
    simp only [Bool.false_eq_true, if_false, defer]
    split
    · exact unattributed_upsert
    · rfl

end Unattributed

end Greenhouse.Platform
