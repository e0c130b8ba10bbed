import Greenhouse.Platform.Bookkeeping
import Greenhouse.Platform.Delivery

/-!
# Writes that fail half-way

`record` appends the revision, then reads and rewrites the reconciliation row, one statement
after another; `setAssignment` stores the assignment before all that. What an error leaves behind
depends on how far the call had got.

* `recording`: the order of the writes, as a protocol that remembers which failed.
* `apply_fails`: **an `apply` without a revision to show has failed on the row or changed nothing.**
* `setAssignment_fails`: the same of an assignment that is not answered with a 2xx.
-/

namespace Greenhouse.Platform

open Greenhouse.Process Prog Reconciler

/-- An operation on the reconciliation row fails. -/
def rowFails : (o : Op) → Resp o → Bool
  | .getReconState, .error _ => true
  | .upsertReconState _, .error _ => true
  | _, _ => false

/-- An operation appends a revision. -/
def revises : (o : Op) → Resp o → Bool
  | .appendRevision _, .ok _ => true
  | _, _ => false

/-- How far the writes of an `apply` have got. -/
structure Recording where
  appended : Bool := false
  failed : Bool := false

/-- One revision is appended, and the row is only looked at after that. -/
def recording : Protocol Op Resp Recording where
  permits q
    | .appendRevision _ => q.appended = false
    | .getReconState | .upsertReconState _ => q.appended = true
    | _ => True
  answers _ _ _ := True
  next q o r := ⟨q.appended || revises o r, q.failed || rowFails o r⟩

/-- An `apply` that has no revision to show for itself. -/
def Unsuccessful : Except Failure ApplyOutcome → Prop
  | .error _ => True
  | .ok outcome => outcome.delivered = false ∧ outcome.deferred = false

section Recording

variable {p : Provenance}

theorem idle_recording : recording.Idle Op.Asks {} := by
  intro o ho
  cases o with
  | appendRevision p => exact ho.elim
  | getReconState => exact ho.elim
  | upsertReconState recon => exact ho.elim
  | broadcastDrift drift => exact ho.elim
  | _ => exact ⟨trivial, fun _ _ => rfl⟩

/-- What an unsuccessful `apply` has appended, it has appended before a failure on the row. -/
def Explained (q : Recording) (result : Except Failure ApplyOutcome) : Prop :=
  Unsuccessful result → q.failed = q.appended

theorem obeys_writeRecord_recording {delivery : DeliveryStatus} {status : Nat}
    {body : Option Body} (hdelivery : delivery = .delivered ∨ delivery = .deferred) :
    (writeRecord p delivery status body).Obeys recording {} Explained := by
  simp only [writeRecord, obeys_bind, obeys_call]
  refine ⟨rfl, fun revision _ => ?_⟩
  cases revision with
  | error text => exact fun _ => rfl
  | ok revision =>
    simp only [obeys_bind, obeys_call]
    refine ⟨rfl, fun found _ => ?_⟩
    cases found with
    | error text => exact fun _ => rfl
    | ok found =>
      simp only [obeys_bind, obeys_call]
      refine ⟨rfl, fun written _ => ?_⟩
      cases written with
      | error text => exact fun _ => rfl
      | ok written =>
        have houtcome : ∀ q : Recording, Explained q (.ok {
            revision := revision
            setpoints := some p.setpoints
            delivered := delivery = .delivered
            deferred := delivery = .deferred
            controllerStatus := status
            controllerBody := body }) := by
          intro q hnone
          obtain ⟨hdelivered, hdeferred⟩ := hnone
          rcases hdelivery with rfl | rfl
          · exact absurd hdelivered (by simp)
          · exact absurd hdeferred (by simp)
        simp only [broadcastWhen, obeys_bind]
        split
        · exact ⟨trivial, fun _ _ => houtcome _⟩
        · exact houtcome _

/-- **The writes of an `apply` come in order.** -/
theorem obeys_apply_recording : (Reconciler.apply p).Obeys recording {} Explained := by
  apply obeys_apply idle_recording
  · exact fun _ _ => rfl
  · exact fun _ _ _ => rfl
  · exact fun _ _ _ hdelivery => obeys_writeRecord_recording hdelivery

/-- The calls of a run, as the protocol remembers them. -/
theorem failed_after (q : Recording) (cs : List (Call Op Resp)) :
    (recording.after q cs).failed = (q.failed || cs.any fun c => rowFails c.op c.resp) := by
  induction cs generalizing q with
  | nil => exact (Bool.or_false _).symm
  | cons c cs ih =>
    have hnext := ih (recording.next q c.op c.resp)
    rw [List.any_cons, ← Bool.or_assoc]
    exact hnext

end Recording

/-! ## An `apply` without a revision -/

section Apply

variable {C : Type} {D : Device C} {p : Provenance} {w w' w₀ : World C}
  {cs : List (Call Op Resp)}

/-- The tables as an `apply` has left them: unchanged, or with a newer revision. -/
structure Left (w₀ w : World C) (q : Recording) : Prop where
  unchanged : q.appended = false → w.store = w₀.store
  newer : q.appended = true → w₀.store.ledger.maxRevision < w.store.ledger.maxRevision

theorem Left.step {q : Recording} {o : Op} {r : Resp o} (h : Left w₀ w q)
    (hpermits : recording.permits q o) (hserve : hosting anyhow D w o r w') :
    Left w₀ w' (recording.next q o r) := by
  obtain ⟨-, -, hstore, -⟩ := hserve
  -- Of the operations that change the tables, the append comes first and the row after it.
  by_cases hwrites : revises o r = true
  · cases o with
    | appendRevision p =>
      cases r with
      | error text => cases hwrites
      | ok revision =>
        refine ⟨fun hnone => ?_, fun _ => ?_⟩
        · exact absurd hnone (by simp [recording, revises])
        · rw [hstore, ← h.unchanged hpermits]
          exact Nat.lt_succ_self _
    | _ => cases hwrites
  · have happended : (recording.next q o r).appended = q.appended := by
      simp [recording, hwrites]
    refine ⟨fun hnone => ?_, fun hsome => ?_⟩
    · rw [happended] at hnone
      rw [hstore, ← h.unchanged hnone]
      cases o with
      | appendRevision p =>
        cases r with
        | error text => rfl
        | ok revision => exact absurd rfl hwrites
      | upsertReconState recon => exact absurd (hnone.symm.trans hpermits) Bool.false_ne_true
      | _ => rfl
    · rw [happended] at hsome
      have hledger : w'.store.ledger.maxRevision = w.store.ledger.maxRevision := by
        rw [hstore]
        cases o with
        | appendRevision p =>
          cases r with
          | error text => rfl
          | ok revision => exact absurd rfl hwrites
        | upsertReconState recon => cases r <;> rfl
        | _ => rfl
      rw [hledger]
      exact h.newer hsome

/-- **An unsuccessful `apply` has failed on the row, after its revision was recorded, or it has
changed nothing.** -/
theorem apply_fails {result : Except Failure ApplyOutcome}
    (h : Exec (hosting anyhow D) (Reconciler.apply p) w cs result w')
    (hresult : Unsuccessful result) :
    (w'.store = w.store ∧ ∀ c ∈ cs, rowFails c.op c.resp = false) ∨
      (w.store.ledger.maxRevision < w'.store.ledger.maxRevision ∧
        ∃ c ∈ cs, rowFails c.op c.resp = true) := by
  have hstart : Left w w {} := ⟨fun _ => rfl, fun h => absurd h Bool.false_ne_true⟩
  obtain ⟨hexplained, hleft⟩ := h.invariant (I := Left w)
    (fun _ _ _ _ _ hI hpermits hserve => ⟨trivial, hI.step hpermits hserve⟩)
    obeys_apply_recording hstart
  have hfailed : (cs.any fun c => rowFails c.op c.resp) = (recording.after {} cs).appended := by
    rw [← hexplained hresult, failed_after, Bool.false_or]
  cases happended : (recording.after {} cs).appended with
  | false =>
    rw [happended, List.any_eq_false] at hfailed
    exact .inl ⟨hleft.unchanged happended, fun c hc => Bool.eq_false_iff.2 (hfailed c hc)⟩
  | true =>
    rw [happended, List.any_eq_true] at hfailed
    exact .inr ⟨hleft.newer happended, hfailed⟩

/-- **An `apply` that returns an error has changed nothing exactly when no operation on the row
failed.** -/
theorem apply_error_iff {failure : Failure}
    (h : Exec (hosting anyhow D) (Reconciler.apply p) w cs (.error failure) w') :
    w'.store = w.store ↔ ∀ c ∈ cs, rowFails c.op c.resp = false := by
  rcases apply_fails h trivial with ⟨hsame, hrow⟩ | ⟨hnewer, c, hc, hrow⟩
  · exact iff_of_true hsame hrow
  · refine iff_of_false (fun hsame => ?_) fun hall => ?_
    · rw [hsame] at hnewer
      exact lt_irrefl _ hnewer
    · rw [hall c hc] at hrow
      exact Bool.false_ne_true hrow

end Apply

/-- A working host whose reconciliation row cannot be read. -/
def rowLost (w : World Unit) : (o : Op) → Resp o × World Unit
  | .getReconState => (.error "timeout", w)
  | o => serve .online Estate.accepting w o

theorem hosting_rowLost (w : World Unit) (o : Op) :
    hosting anyhow anything w o (rowLost w o).1 (rowLost w o).2 := by
  have hserve : hosting anyhow anything w o (serve .online Estate.accepting w o).1
      (serve .online Estate.accepting w o).2 :=
    hosting_serve (fun _ _ => trivial) (fun _ _ => trivial) w o
  cases o with
  | getReconState => exact ⟨trivial, trivial, rfl, rfl⟩
  | _ => exact hserve

/-- The error comes after the revision is recorded. -/
theorem apply_error_iff_rowLost : ∃ cs failure w',
    Exec (hosting anyhow anything) (Reconciler.apply (edit benchBundle)) ⟨{}, ()⟩ cs
      (.error failure) w' ∧
    (w'.store = ({} : Store) ↔ ∀ c ∈ cs, rowFails c.op c.resp = false) ∧
    ∃ c ∈ cs, rowFails c.op c.resp = true := by
  have hexec : Exec (hosting anyhow anything) (Reconciler.apply (edit benchBundle)) ⟨{}, ()⟩ _
      (.error (.other "timeout")) _ :=
    Exec.of_eval hosting_rowLost _ _
  exact ⟨_, _, _, hexec, apply_error_iff hexec, by decide⟩

/-- An `apply` returns an error; applied again, the change is in the ledger twice. -/
theorem apply_error_recorded : ∃ cs failure w ds outcome w',
    Exec (hosting anyhow anything) (Reconciler.apply (edit benchBundle)) ⟨{}, ()⟩ cs
      (.error failure) w ∧
    w.store.ledger.entries ≠ [] ∧
    Exec (hosting anyhow anything) (Reconciler.apply (edit benchBundle)) w ds (.ok outcome) w' ∧
    w'.store.ledger.entries.map (·.setpoints) = [benchBundle, benchBundle] := by
  have hserve : ∀ (w : World Unit) o, hosting anyhow anything w o
      (serve .online Estate.accepting w o).1 (serve .online Estate.accepting w o).2 :=
    hosting_serve (fun _ _ => trivial) (fun _ _ => trivial)
  have hlost : Exec (hosting anyhow anything) (Reconciler.apply (edit benchBundle)) ⟨{}, ()⟩ _
      (.error (.other "timeout")) _ :=
    Exec.of_eval hosting_rowLost _ _
  have hretried : Exec (hosting anyhow anything) (Reconciler.apply (edit benchBundle)) _ _
      (.ok _) _ :=
    Exec.of_eval hserve (Reconciler.apply (edit benchBundle))
      ((Reconciler.apply (edit benchBundle)).eval rowLost ⟨{}, ()⟩).2
  exact ⟨_, _, _, _, _, _, hlost, by decide +kernel, hretried, by decide +kernel⟩

/-! ## An assignment that is not answered with a 2xx -/

section Assignment

variable {C : Type} {D : Device C} {greenhouse : String} {body : Decoded Assignment}
  {s s' : Estate C} {cs : List (Call ApiOp ApiResp)}

/-- A program on one greenhouse leaves the tables of the platform. -/
theorem exec_onHouse {α : Type} {p : Program α} {a : α}
    (h : Exec (serving D) (onHouse greenhouse p) s cs a s') :
    ∃ ds, Exec (hosting anyhow D) p (s.house greenhouse) ds a (s'.house greenhouse) ∧
      s'.catalog = s.catalog ∧
      cs = ds.map fun d => ⟨ApiOp.house greenhouse d.op, d.resp⟩ := by
  refine Exec.of_hoist (fun s => s.house greenhouse) Estate.catalog ?_ h
  rintro s o r s' ⟨-, hcatalog, hhouse, -⟩
  exact ⟨hhouse, hcatalog⟩

/-- The operation, if it stores an assignment, stores the one that was there; if it is on the
reconciliation row, it does not fail. -/
def Harmless (stored : Option Assignment) : (o : ApiOp) → ApiResp o → Prop
  | .setAssignment _ assignment, .ok _ => stored = some assignment
  | .house _ o, r => rowFails o r = false
  | _, _ => True

/-- What a handler of an assignment leaves: nothing stored, or the assignment, with the `apply`
of a bundle after it. -/
def Assigned (D : Device C) (greenhouse : String) (s : Estate C) (cs : List (Call ApiOp ApiResp))
    (reply : ApiReply) (s' : Estate C) : Prop :=
  (s'.catalog = s.catalog ∧ (s'.house greenhouse).store = (s.house greenhouse).store ∧
    ∀ c ∈ cs, Harmless (s.catalog.assignments greenhouse) c.op c.resp) ∨
  ∃ input p w ds result, Exec (hosting anyhow D) (Reconciler.apply p) w ds result
      (s'.house greenhouse) ∧ w.store = (s.house greenhouse).store ∧
    s'.catalog = s.catalog.assign greenhouse input ∧ reply = replyToAssignment input result ∧
    ((∀ c ∈ cs, Harmless (s.catalog.assignments greenhouse) c.op c.resp) ↔
      s.catalog.assignments greenhouse = some input ∧ ∀ d ∈ ds, rowFails d.op d.resp = false)

theorem setAssignment_ensures (s : Estate C) :
    Ensures (serving D) (setAssignment greenhouse body) s (Assigned D greenhouse s) := by
  unfold setAssignment
  split
  · exact ensures_pure.2 (.inl ⟨rfl, rfl, fun c hc => absurd hc List.not_mem_nil⟩)
  · rename_i input
    split
    · exact ensures_pure.2 (.inl ⟨rfl, rfl, fun c hc => absurd hc List.not_mem_nil⟩)
    simp only [ensures_bind, ensures_call]
    rintro found s₁ ⟨-, hcatalog₁, ⟨-, -, hstore₁, -⟩, -⟩
    have hfound : Harmless (s.catalog.assignments greenhouse)
        (.house greenhouse .greenhouseExists) found := rfl
    rcases found with text | _ | _
    · refine ensures_pure.2 (.inl ⟨hcatalog₁, hstore₁, ?_⟩)
      simpa using hfound
    · refine ensures_pure.2 (.inl ⟨hcatalog₁, hstore₁, ?_⟩)
      simpa using hfound
    simp only [ensures_bind, ensures_call]
    rintro profile s₂ ⟨-, hcatalog₂, hhouse₂⟩
    have hcatalog : s₂.catalog = s.catalog := hcatalog₂.trans hcatalog₁
    have hstore : (s₂.house greenhouse).store = (s.house greenhouse).store := by
      rw [show s₂.house = s₁.house from hhouse₂]
      exact hstore₁
    have hread : Harmless (s.catalog.assignments greenhouse) (.getProfile input.profileId)
        profile := trivial
    have hasked : ∀ c ∈ ([⟨.house greenhouse .greenhouseExists, .ok true⟩,
        ⟨.getProfile input.profileId, profile⟩] : List (Call ApiOp ApiResp)),
        Harmless (s.catalog.assignments greenhouse) c.op c.resp := by
      simp only [List.forall_mem_cons]
      exact ⟨hfound, hread, fun c hc => absurd hc List.not_mem_nil⟩
    rcases profile with text | _ | profile
    · exact ensures_pure.2 (.inl ⟨hcatalog, hstore, hasked⟩)
    · exact ensures_pure.2 (.inl ⟨hcatalog, hstore, hasked⟩)
    dsimp only
    split
    · exact ensures_pure.2 (.inl ⟨hcatalog, hstore, hasked⟩)
    rename_i stage _
    simp only [ensures_bind, ensures_call]
    rintro written s₃ ⟨-, hcatalog₃, hhouse₃⟩
    have hstore₃ : (s₃.house greenhouse).store = (s.house greenhouse).store := by
      rw [show s₃.house = s₂.house from hhouse₃]
      exact hstore
    rw [hcatalog] at hcatalog₃
    rcases written with text | _
    · refine ensures_pure.2 (.inl ⟨hcatalog₃, hstore₃, ?_⟩)
      have hwritten : Harmless (s.catalog.assignments greenhouse)
          (.setAssignment greenhouse input) (.error text) := trivial
      simp [hfound, hread, hwritten]
    · simp only [ensures_bind, ensures_pure]
      intro es result s₄ hes
      obtain ⟨ds, happly, hcatalog₄, rfl⟩ := exec_onHouse hes
      refine .inr ⟨input, _, _, ds, result, happly, hstore₃, hcatalog₄.trans hcatalog₃, rfl, ?_⟩
      have hwritten : Harmless (s.catalog.assignments greenhouse)
          (.setAssignment greenhouse input) (.ok ()) ↔
          s.catalog.assignments greenhouse = some input := Iff.rfl
      have hrow : ∀ d : Call Op Resp, Harmless (s.catalog.assignments greenhouse)
          (.house greenhouse d.op) d.resp ↔ rowFails d.op d.resp = false := fun _ => Iff.rfl
      simp only [List.append_nil, List.singleton_append, List.forall_mem_cons,
        List.forall_mem_map]
      simp only [hfound, hread, hwritten, hrow, true_and]

/-- A reply that is not a 2xx comes from an `apply` that has no revision to show. -/
theorem unsuccessful_of_reply {assignment : Assignment} {result : Except Failure ApplyOutcome}
    (hreply : ok2xx (replyToAssignment assignment result).status = false) :
    Unsuccessful result := by
  cases result with
  | error failure => trivial
  | ok outcome =>
    by_cases hrefused : outcome.controllerStatus ≠ 0 ∧ !outcome.delivered ∧ !outcome.deferred
    · obtain ⟨-, hdelivered, hdeferred⟩ := hrefused
      exact ⟨by simpa using hdelivered, by simpa using hdeferred⟩
    · have hstatus : (replyToAssignment assignment (.ok outcome)).status = 200 := by
        rw [replyToAssignment, if_neg hrefused]
      rw [hstatus] at hreply
      exact absurd hreply (by decide)

/-- **An assignment that is not answered with a 2xx has changed nothing exactly when it stored no
other assignment and no operation on the row failed.** -/
theorem setAssignment_unchanged_iff {reply : ApiReply}
    (h : Exec (serving D) (setAssignment greenhouse body) s cs reply s')
    (hreply : ok2xx reply.status = false) :
    (s'.catalog.assignments greenhouse = s.catalog.assignments greenhouse ∧
      (s'.house greenhouse).store.ledger.current = (s.house greenhouse).store.ledger.current) ↔
    ∀ c ∈ cs, Harmless (s.catalog.assignments greenhouse) c.op c.resp := by
  rcases setAssignment_ensures s cs reply s' h with
    ⟨hcatalog, hstore, hall⟩ | ⟨input, p, w, ds, result, happly, hstore, hcatalog, rfl, hharmless⟩
  · exact iff_of_true ⟨by rw [hcatalog], by rw [hstore]⟩ hall
  · have hassigned : s'.catalog.assignments greenhouse = some input := by
      rw [hcatalog]
      exact Function.update_self _ _ _
    rw [hharmless, hassigned, ← hstore]
    refine and_congr eq_comm ?_
    rcases apply_fails happly (unsuccessful_of_reply hreply) with
      ⟨hsame, hrow⟩ | ⟨hnewer, d, hd, hrow⟩
    · exact iff_of_true (by rw [hsame]) hrow
    · refine iff_of_false (fun hsame => ?_) fun hall => ?_
      · have hmax : (s'.house greenhouse).store.ledger.maxRevision =
            w.store.ledger.maxRevision := by
          rw [Ledger.maxRevision, Ledger.maxRevision, hsame]
        omega
      · rw [hall d hd] at hrow
        exact Bool.false_ne_true hrow

end Assignment

/-- A controller that refuses every request. -/
def refusing (c : Unit) (_ : Request) : Except String Response × Unit :=
  (.ok ⟨422, .text "refused"⟩, c)

/-- A stage of the starter library is assigned to a greenhouse whose controller refuses it. -/
def refusedAssignment : ApiProgram ApiReply :=
  setAssignment "gh-a" (.ok ⟨"tomato-standard", "vegetative"⟩)

theorem exec_refusedAssignment (s : Estate Unit) : Exec (serving anything) refusedAssignment s
    (refusedAssignment.trace (Estate.serve refusing) s)
    (refusedAssignment.eval (Estate.serve refusing) s).1
    (refusedAssignment.eval (Estate.serve refusing) s).2 :=
  Exec.of_eval (Estate.serving_serve refusing) refusedAssignment s

/-- A house without an assignment. -/
def unassigned : Estate Unit := Estate.deployed (fun greenhouse => greenhouse = "gh-a") fun _ => ()

theorem setAssignment_unchanged_iff_refused : ∃ cs reply s',
    Exec (serving anything) refusedAssignment unassigned cs reply s' ∧
    ((s'.catalog.assignments "gh-a" = unassigned.catalog.assignments "gh-a" ∧
      (s'.house "gh-a").store.ledger.current = (unassigned.house "gh-a").store.ledger.current) ↔
      ∀ c ∈ cs, Harmless (unassigned.catalog.assignments "gh-a") c.op c.resp) := by
  have hexec := exec_refusedAssignment unassigned
  exact ⟨_, _, _, hexec, setAssignment_unchanged_iff hexec (by decide)⟩

/-- The refusal is passed on, with the assignment changed. -/
theorem refused_assignment_stored : ∃ cs reply s',
    Exec (serving anything) refusedAssignment unassigned cs reply s' ∧ reply.status = 422 ∧
    s'.catalog.assignments "gh-a" ≠ unassigned.catalog.assignments "gh-a" :=
  ⟨_, _, _, exec_refusedAssignment unassigned, by decide, by decide⟩

end Greenhouse.Platform
