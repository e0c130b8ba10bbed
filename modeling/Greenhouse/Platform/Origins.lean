import Mathlib.Data.List.Induction
import Greenhouse.Platform.DriftCorrection
import Greenhouse.Platform.Footprint
import Greenhouse.Platform.PatchMerge
import Greenhouse.Platform.Phases
import Greenhouse.Process.Pool

/-!
# Where a recorded bundle comes from

Writers of one greenhouse under any interleaving: handlers of partial edits, `apply` calls
with a bundle of their own, and passes of the loop. A handler reads the bundle it merges onto,
and records long after: nothing keeps another writer from recording in between. `Hold` is
what a writer holds of the ledger meanwhile.

* `obeys_program`: every writer records only what it has made of what it has read.
* `origins_of_run`: every recorded revision is an edit merged onto an earlier revision, or onto
  what the controller reported to that writer, or a bundle given to `apply`.
-/

namespace Greenhouse.Platform

open Greenhouse.Process Prog Reconciler

/-! ## Writers -/

/-- A partial edit and who makes it. -/
structure Edit where
  source : SetpointSource
  actor : String
  description : String
  successStatus : Nat
  optimizerRunId : Option String
  patch : SetpointsPatchDTO
  deriving DecidableEq

/-- What a thread does. -/
inductive Job where
  | edit (e : Edit)
  | adopt (intended : Provenance)
  | passes (maxRetries n : Nat)

/-- The program of a thread; an edit is replied to. -/
def Job.program : Job → Program (Option Reply)
  | .edit e => do
    return some (← applySetpointWrite e.source e.actor e.description e.successStatus
      e.optimizerRunId e.patch)
  | .adopt intended => do
    let _ ← apply intended
    return none
  | .passes maxRetries n => do
    let _ ← Reconciler.passes maxRetries n
    return none

/-- What an edit is merged onto. -/
inductive Onto where
  | revision (r : SetpointRevision)
  | report (s : Setpoints)
  deriving DecidableEq

def Onto.bundle : Onto → Setpoints
  | .revision r => r.setpoints
  | .report s => s

/-- What a writer holds of the ledger. -/
inductive Hold where
  | unread
  | absent
  | half (global : Body)
  | based (onto : Onto)
  | recorded (onto : Option Onto) (revision : Nat)
  deriving DecidableEq

namespace Hold

/-- The current revision is read. -/
def look : Hold → Option SetpointRevision → Hold
  | .unread, some r => .based (.revision r)
  | .unread, none => .absent
  | q, _ => q

/-- The controller answers. -/
def hear : Hold → Request → Body → Hold
  | .absent, .getSetpoints, body => .half body
  | .half global, .getZones, zones =>
    match parseReported global zones with
    | .ok s => .based (.report s)
    | .error _ => .half global
  | q, _, _ => q

/-- A revision is appended. -/
def record : Hold → Nat → Hold
  | .unread, n => .recorded none n
  | .based onto, n => .recorded (some onto) n
  | q, _ => q

end Hold

/-- An edit as it is recorded, from what it is merged onto. -/
structure Edit.Makes (e : Edit) (onto : Onto) (p : Provenance) : Prop where
  merged : applyPatch onto.bundle e.patch = .ok p.setpoints
  valid : validateSetpoints p.setpoints = none
  signed : p = ⟨e.source, e.actor, e.description, p.setpoints, e.optimizerRunId⟩

/-- What a writer records. -/
def Job.Makes : Job → Option Onto → Provenance → Prop
  | .edit e, some onto, p => e.Makes onto p
  | .adopt intended, none, p => p = intended
  | _, _, _ => False

/-- Only an edit is made of what it reads. -/
def Job.reads : Job → Bool
  | .edit _ => true
  | _ => false

/-- What a writer may record as it stands. -/
def Job.MayRecord (j : Job) (p : Provenance) : Hold → Prop
  | .unread => j.Makes none p
  | .based onto => j.Makes (some onto) p
  | _ => False

def Job.next (j : Job) (q : Hold) : (o : Op) → Resp o → Hold
  | .currentRevision, .ok found => if j.reads then q.look found else q
  | .relay _ request, .ok resp => if j.reads then q.hear request resp.body else q
  | .appendRevision _, .ok n => q.record n
  | _, _ => q

/-- A writer may ask for anything, and records what it has made. -/
def Job.protocol (j : Job) : Protocol Op Resp Hold where
  permits q
    | .appendRevision p => j.MayRecord p q
    | _ => True
  answers _ _ _ := True
  next := j.next

/-! ## Every writer keeps to its protocol -/

section Obeys

variable {j : Job} {e : Edit} {q : Hold}

/-- Asking leaves a writer that has its base, or needs none, where it is. -/
theorem idle_of_hold (h : j.reads = false ∨ ∃ onto, q = .based onto) :
    j.protocol.Idle Op.Asks q := by
  have hlook : ∀ found, (if j.reads then q.look found else q) = q := by
    intro found
    rcases h with h | ⟨onto, rfl⟩
    · rw [h]
      rfl
    · exact ite_self _
  have hhear : ∀ request body, (if j.reads then q.hear request body else q) = q := by
    intro request body
    rcases h with h | ⟨onto, rfl⟩
    · rw [h]
      rfl
    · exact ite_self _
  intro o ho
  cases o with
  | appendRevision p => exact ho.elim
  | currentRevision =>
    refine ⟨trivial, fun r _ => ?_⟩
    cases r with
    | error text => rfl
    | ok found => exact hlook found
  | relay endpoint request =>
    refine ⟨trivial, fun r _ => ?_⟩
    cases r with
    | error text => rfl
    | ok resp => exact hhear request resp.body
  | _ => exact ⟨trivial, fun _ _ => rfl⟩

theorem reported_obeys {endpoint : Endpoint} :
    (reported endpoint).Obeys (Job.edit e).protocol .absent fun q r =>
      ∀ s, r = .ok s → q = .based (.report s) := by
  simp only [reported, obeys_bind, obeys_call]
  refine ⟨trivial, ?_⟩
  rintro (text | resp) _
  · exact fun s hs => absurd hs error_ne_ok
  dsimp only
  split
  · simp only [obeys_bind, obeys_call]
    refine ⟨trivial, ?_⟩
    rintro (text | zonesResp) _
    · exact fun s hs => absurd hs error_ne_ok
    dsimp only
    split
    · intro s hs
      simp only [Job.protocol, Job.next, Job.reads, if_true, Hold.hear, hs]
    · exact fun s hs => absurd hs error_ne_ok
  · exact fun s hs => absurd hs error_ne_ok

/-- A handler has read what it merges onto. -/
theorem baseline_obeys : Reconciler.baseline.Obeys (Job.edit e).protocol .unread fun q r =>
    ∀ s, r = .ok s → ∃ onto, q = .based onto ∧ onto.bundle = s := by
  simp only [Reconciler.baseline, obeys_bind, obeys_call]
  refine ⟨trivial, ?_⟩
  rintro (text | _ | current) _
  · exact fun s hs => absurd hs error_ne_ok
  · simp only [obeys_bind, obeys_call]
    refine ⟨trivial, ?_⟩
    rintro (text | _ | endpoint) _
    · exact fun s hs => absurd hs error_ne_ok
    · exact fun s hs => absurd hs error_ne_ok
    · simp only [obeys_bind]
      refine reported_obeys.mono fun q r hq => ?_
      cases r with
      | error text => exact fun s hs => absurd hs error_ne_ok
      | ok shown =>
        rintro s ⟨⟩
        exact ⟨_, hq shown rfl, rfl⟩
  · rintro s ⟨⟩
    exact ⟨_, rfl, rfl⟩

theorem broadcast_obeys {cond drift : Bool} {post : Hold → Unit → Prop} (h : post q ()) :
    (broadcastWhen cond drift).Obeys j.protocol q post := by
  unfold broadcastWhen
  split
  · exact ⟨trivial, fun _ _ => h⟩
  · exact h

/-- What is recorded is counted as such. -/
def Recorded (q : Hold) : Prop := ∃ onto n, q = .recorded onto n

theorem not_recorded (h : ∀ onto n, q ≠ .recorded onto n) : ¬ Recorded q := by
  rintro ⟨onto, n, heq⟩
  exact h onto n heq

theorem writeRecord_obeys_protocol {p : Provenance} {delivery : DeliveryStatus} {status : Nat}
    {body : Option Body} (hmay : j.MayRecord p q) :
    (writeRecord p delivery status body).Obeys j.protocol q
      fun q outcome => (∃ done, outcome = .ok done) → Recorded q := by
  have hrecord : ∀ n, Recorded (q.record n) := by
    intro n
    cases q with
    | unread => exact ⟨_, _, rfl⟩
    | based onto => exact ⟨_, _, rfl⟩
    | _ => exact hmay.elim
  simp only [writeRecord, obeys_bind, obeys_call]
  refine ⟨hmay, ?_⟩
  rintro (text | n) _
  · rintro ⟨done, hdone⟩
    exact absurd hdone error_ne_ok
  simp only [obeys_bind, obeys_call]
  refine ⟨trivial, ?_⟩
  rintro (text | found) _
  · exact fun _ => hrecord n
  simp only [obeys_bind, obeys_call]
  refine ⟨trivial, ?_⟩
  rintro (text | ⟨⟩) _
  · exact fun _ => hrecord n
  · exact obeys_bind.2 (broadcast_obeys fun _ => hrecord n)

/-- An outcome with the bundle that was recorded. -/
def ApplyOutcome.Shown (outcome : Except Failure ApplyOutcome) : Prop :=
  ∃ done s, outcome = .ok done ∧ done.setpoints = some s

/-- **An `apply` obeys the protocol** of a writer that may record its bundle. -/
theorem apply_obeys_protocol {p : Provenance} (hidle : j.protocol.Idle Op.Asks q)
    (hmay : j.MayRecord p q) :
    (Reconciler.apply p).Obeys j.protocol q
      fun q outcome => ApplyOutcome.Shown outcome → Recorded q := by
  refine obeys_apply hidle ?_ ?_ fun delivery status body _ => ?_
  · rintro failure ⟨done, s, hdone, -⟩
    exact absurd hdone error_ne_ok
  · rintro resp - ⟨done, s, hdone, hs⟩
    cases hdone
    cases hs
  · refine (writeRecord_obeys_protocol hmay).mono ?_
    rintro q outcome h ⟨done, s, hdone, -⟩
    exact h ⟨done, hdone⟩

/-- A reply that shows the recorded bundle. -/
def Reply.Accepted (reply : Reply) : Prop := ∃ s, reply.body = .setpoints (some s)

theorem shown_of_accepted {successStatus : Nat} {outcome : Except Failure ApplyOutcome}
    (h : (replyTo successStatus outcome).Accepted) : ApplyOutcome.Shown outcome := by
  obtain ⟨s, hs⟩ := h
  unfold replyTo at hs
  split at hs
  · cases hs
  · cases hs
  · split at hs
    · cases hs
    · rename_i done _
      exact ⟨done, s, rfl, ReplyBody.setpoints.inj hs⟩

theorem not_accepted_validation {v : ValError} : ¬ (respondValidation v).Accepted := by
  rintro ⟨s, hs⟩
  cases hs

theorem not_accepted_error {status : Nat} {text : String} :
    ¬ (respondError status text).Accepted := by
  rintro ⟨s, hs⟩
  cases hs

/-- **A handler obeys its protocol**: it reads what it merges onto, and records only its edit
of that. A reply that shows a bundle means that it has recorded. -/
theorem edit_obeys : (applySetpointWrite e.source e.actor e.description e.successStatus
    e.optimizerRunId e.patch).Obeys (Job.edit e).protocol .unread
      fun q reply => reply.Accepted → Recorded q := by
  simp only [applySetpointWrite, obeys_bind, obeys_call]
  refine ⟨trivial, ?_⟩
  rintro (text | _ | _) _
  · exact fun h => absurd h not_accepted_error
  · exact fun h => absurd h not_accepted_error
  dsimp only
  split
  · exact fun h => absurd h not_accepted_validation
  split
  · exact fun h => absurd h not_accepted_validation
  simp only [obeys_bind]
  refine baseline_obeys.mono fun q base hbase => ?_
  cases base with
  | error failure => cases failure <;> exact fun h => absurd h not_accepted_error
  | ok base =>
    obtain ⟨onto, rfl, rfl⟩ := hbase base rfl
    dsimp only
    split
    · exact fun h => absurd h not_accepted_validation
    rename_i candidate hmerged
    split
    · exact fun h => absurd h not_accepted_validation
    rename_i hvalid
    have hidle : (Job.edit e).protocol.Idle Op.Asks (.based onto) :=
      idle_of_hold (.inr ⟨onto, rfl⟩)
    simp only [obeys_bind]
    refine Obeys.of_uses hidle uses_gateBounds fun bounds => ?_
    cases bounds with
    | error text => exact fun h => absurd h not_accepted_error
    | ok bounds =>
      dsimp only
      split
      · exact fun h => absurd h not_accepted_validation
      simp only [obeys_bind]
      have hmakes : e.Makes onto
          ⟨e.source, e.actor, e.description, candidate, e.optimizerRunId⟩ :=
        ⟨hmerged, hvalid, rfl⟩
      refine (apply_obeys_protocol hidle hmakes).mono fun q outcome h => ?_
      exact fun haccepted => h (shown_of_accepted haccepted)

/-- The passes record nothing. -/
theorem passes_obey_protocol {maxRetries n : Nat} (h : j.reads = false) :
    (Reconciler.passes maxRetries n).Obeys j.protocol .unread fun q _ => q = .unread := by
  have hloop : (Reconciler.passes maxRetries n).Obeys (loopProtocol maxRetries) .idle
      fun _ _ => True := passes_obeys n
  refine (hloop.simulate (R := fun _ q => q = .unread) ?_ rfl).mono ?_
  · rintro ph q o rfl hpermits
    cases o with
    | appendRevision p => cases hpermits
    | currentRevision =>
      refine ⟨trivial, fun r _ => ⟨trivial, ?_⟩⟩
      cases r with
      | error text => rfl
      | ok found => simp [Job.protocol, Job.next, h]
    | relay endpoint request =>
      refine ⟨trivial, fun r _ => ⟨trivial, ?_⟩⟩
      cases r with
      | error text => rfl
      | ok resp => simp [Job.protocol, Job.next, h]
    | _ => exact ⟨trivial, fun _ _ => ⟨trivial, rfl⟩⟩
  · rintro q - ⟨ph, rfl, -⟩
    rfl

/-- A writer that has replied with a bundle has recorded. -/
def Replied (q : Hold) (reply : Option Reply) : Prop :=
  ∀ r, reply = some r → r.Accepted → Recorded q

/-- **Every writer obeys its protocol.** -/
theorem obeys_program (j : Job) : j.program.Obeys j.protocol .unread Replied := by
  cases j with
  | edit e =>
    refine obeys_bind.2 (edit_obeys.mono ?_)
    rintro q reply h r ⟨⟩
    exact h
  | adopt intended =>
    have hmay : (Job.adopt intended).MayRecord intended .unread := rfl
    refine obeys_bind.2 ((apply_obeys_protocol (idle_of_hold (.inl rfl)) hmay).mono ?_)
    rintro q outcome - r ⟨⟩
  | passes maxRetries n =>
    refine obeys_bind.2 ((passes_obey_protocol rfl).mono ?_)
    rintro q outcome - r ⟨⟩

end Obeys

/-! ## What a writer has read -/

section Read

/-- What the controller was heard to report. -/
def HeardOf (cs : List (Call Op Resp)) (s : Setpoints) : Prop :=
  ∃ e e' r r', (⟨.relay e .getSetpoints, .ok r⟩ : Call Op Resp) ∈ cs ∧
    (⟨.relay e' .getZones, .ok r'⟩ : Call Op Resp) ∈ cs ∧ parseReported r.body r'.body = .ok s

/-- The base was read by these calls. -/
def Onto.ReadIn (cs : List (Call Op Resp)) : Onto → Prop
  | .revision r => (⟨.currentRevision, .ok (some r)⟩ : Call Op Resp) ∈ cs
  | .report s => HeardOf cs s

/-- What the writer holds was read by these calls. -/
def Hold.From (cs : List (Call Op Resp)) : Hold → Prop
  | .half body => ∃ e r, (⟨.relay e .getSetpoints, .ok r⟩ : Call Op Resp) ∈ cs ∧ r.body = body
  | .based onto => onto.ReadIn cs
  | .recorded (some onto) _ => onto.ReadIn cs
  | _ => True

variable {cs ds : List (Call Op Resp)} {q : Hold}

theorem Onto.ReadIn.mono {onto : Onto} (h : onto.ReadIn cs) (hsub : cs ⊆ ds) :
    onto.ReadIn ds := by
  cases onto with
  | revision r => exact hsub h
  | report s =>
    obtain ⟨e, e', r, r', hglobal, hzones, hparse⟩ := h
    exact ⟨e, e', r, r', hsub hglobal, hsub hzones, hparse⟩

theorem Hold.From.mono (h : q.From cs) (hsub : cs ⊆ ds) : q.From ds := by
  cases q with
  | half body =>
    obtain ⟨e, r, hmem, hbody⟩ := h
    exact ⟨e, r, hsub hmem, hbody⟩
  | based onto => exact Onto.ReadIn.mono h hsub
  | recorded onto n =>
    cases onto with
    | none => trivial
    | some onto => exact Onto.ReadIn.mono h hsub
  | _ => trivial

theorem Hold.From.look (h : q.From cs) {found : Option SetpointRevision}
    (hin : (⟨.currentRevision, .ok found⟩ : Call Op Resp) ∈ cs) : (q.look found).From cs := by
  cases q with
  | unread =>
    cases found with
    | none => trivial
    | some r => exact hin
  | _ => exact h

theorem Hold.From.hear (h : q.From cs) {e : Endpoint} {request : Request} {r : Response}
    (hin : (⟨.relay e request, .ok r⟩ : Call Op Resp) ∈ cs) : (q.hear request r.body).From cs := by
  unfold Hold.hear
  split
  · exact ⟨e, r, hin, rfl⟩
  · split
    · rename_i s hparse
      obtain ⟨e', r', hglobal, rfl⟩ := h
      exact ⟨e', e, r', r, hglobal, hin, hparse⟩
    · exact h
  · exact h

theorem Hold.From.record (h : q.From cs) (n : Nat) : (q.record n).From cs := by
  cases q <;> exact h

/-- One more call, and the writer has still read what it holds. -/
theorem Hold.From.next {j : Job} (h : q.From cs) (c : Call Op Resp) :
    (j.next q c.op c.resp).From (cs ++ [c]) := by
  have hkeep : q.From (cs ++ [c]) := h.mono (List.subset_append_left cs [c])
  have hin : c ∈ cs ++ [c] := List.mem_append_right cs List.mem_cons_self
  obtain ⟨o, r⟩ := c
  cases o with
  | currentRevision =>
    cases r with
    | error text => exact hkeep
    | ok found =>
      simp only [Job.next]
      split
      · exact hkeep.look hin
      · exact hkeep
  | relay e request =>
    cases r with
    | error text => exact hkeep
    | ok resp =>
      simp only [Job.next]
      split
      · exact hkeep.hear hin
      · exact hkeep
  | appendRevision p =>
    cases r with
    | error text => exact hkeep
    | ok n => exact hkeep.record n
  | _ => exact hkeep

/-- **A writer has read what it holds.** -/
theorem from_after (j : Job) (cs : List (Call Op Resp)) :
    (j.protocol.after .unread cs).From cs := by
  induction cs using List.reverseRecOn with
  | nil => trivial
  | append_singleton cs c ih =>
    rw [Protocol.after_append]
    exact ih.next c

end Read

/-! ## All writers together -/

section Together

variable {ι C : Type}

/-- Nothing has been done yet. -/
def launch (jobs : ι → Job) (w : World C) : Pool ι Op Resp (Option Reply) (World C) where
  world := w
  left i := (jobs i).program

/-- What the writers of a pool hold. -/
abbrev holds [DecidableEq ι] (jobs : ι → Job) (q : Pool ι Op Resp (Option Reply) (World C)) :
    ι → Hold :=
  q.states (fun i => (jobs i).protocol) fun _ => .unread

theorem tracks_launch (jobs : ι → Job) (w : World C) :
    Pool.Tracks (fun i => (jobs i).protocol) (fun _ => .unread) (fun _ => Replied)
      (launch jobs w) :=
  fun i => obeys_program (jobs i)

/-- Who has recorded what, newest first, since the ledger was `l₀`. -/
structure Made (jobs : ι → Job) (l₀ l : Ledger) (q : ι → Hold)
    (made : List (ι × SetpointRevision)) : Prop where
  entries : l.entries = made.map Prod.snd ++ l₀.entries
  once : (made.map Prod.fst).Nodup
  held : ∀ i r, q i = .based (.revision r) → r ∈ l.entries
  own : ∀ i, Recorded (q i) → i ∈ made.map Prod.fst
  origin : ∀ x ∈ made, ∃ onto, q x.1 = .recorded onto x.2.revision ∧
    (jobs x.1).Makes onto x.2.toProvenance ∧
    ∀ r, onto = some (.revision r) → r ∈ l.entries ∧ r.revision < x.2.revision

variable {jobs : ι → Job} {l₀ l : Ledger} {q : ι → Hold} {made : List (ι × SetpointRevision)}
  {i : ι}

theorem made_nil : Made jobs l l (fun _ => .unread) [] where
  entries := rfl
  once := List.nodup_nil
  held i r h := by cases h
  own i h := by
    obtain ⟨onto, n, h⟩ := h
    cases h
  origin x h := by cases h

variable [DecidableEq ι]

/-- A writer that has not recorded reads on. -/
theorem Made.read (h : Made jobs l₀ l q made) {x : Hold} (hq : ¬ Recorded (q i))
    (hx : ¬ Recorded x) (hheld : ∀ r, x = .based (.revision r) → r ∈ l.entries) :
    Made jobs l₀ l (Function.update q i x) made where
  entries := h.entries
  once := h.once
  held k r := by
    by_cases hk : k = i
    · subst hk
      rw [Function.update_self]
      exact hheld r
    · rw [Function.update_of_ne hk]
      exact h.held k r
  own k := by
    by_cases hk : k = i
    · subst hk
      rw [Function.update_self]
      exact fun hrec => absurd hrec hx
    · rw [Function.update_of_ne hk]
      exact h.own k
  origin y hy := by
    obtain ⟨onto, hrec, hmakes⟩ := h.origin y hy
    have hne : y.1 ≠ i := fun heq => hq ⟨onto, _, heq ▸ hrec⟩
    rw [Function.update_of_ne hne]
    exact ⟨onto, hrec, hmakes⟩

/-- A writer records what it has made. -/
theorem Made.record (h : Made jobs l₀ l q made) {onto : Option Onto} {p : Provenance}
    (hq : ¬ Recorded (q i)) (hmakes : (jobs i).Makes onto p)
    (hheld : ∀ r, onto = some (.revision r) → r ∈ l.entries) :
    Made jobs l₀ (l.append p) (Function.update q i (.recorded onto (l.maxRevision + 1)))
      ((i, { p with revision := l.maxRevision + 1 }) :: made) where
  entries := congrArg (_ :: ·) h.entries
  once := by
    refine List.nodup_cons.2 ⟨fun hin => ?_, h.once⟩
    obtain ⟨y, hy, hyi⟩ := List.mem_map.1 hin
    obtain ⟨onto, hrec, -⟩ := h.origin y hy
    exact hq ⟨onto, _, hyi ▸ hrec⟩
  held k r := by
    by_cases hk : k = i
    · subst hk
      rw [Function.update_self]
      exact fun heq => by cases heq
    · rw [Function.update_of_ne hk]
      exact fun heq => List.mem_cons_of_mem _ (h.held k r heq)
  own k := by
    by_cases hk : k = i
    · subst hk
      exact fun _ => List.mem_cons_self
    · rw [Function.update_of_ne hk]
      exact fun hrec => List.mem_cons_of_mem _ (h.own k hrec)
  origin y hy := by
    rcases List.mem_cons.1 hy with rfl | hy
    · refine ⟨onto, Function.update_self _ _ _, hmakes, fun r heq => ?_⟩
      exact ⟨List.mem_cons_of_mem _ (hheld r heq),
        Nat.lt_succ_of_le (Ledger.le_maxRevision (hheld r heq))⟩
    · obtain ⟨onto', hrec, hmakes', hbefore⟩ := h.origin y hy
      have hne : y.1 ≠ i := fun heq => hq ⟨onto', _, heq ▸ hrec⟩
      rw [Function.update_of_ne hne]
      exact ⟨onto', hrec, hmakes', fun r heq =>
        ⟨List.mem_cons_of_mem _ (hbefore r heq).1, (hbefore r heq).2⟩⟩

/-- **What an operation changes of what a writer holds**, unless it appends a revision. -/
theorem next_cases {j : Job} {x : Hold} {o : Op} {r : Resp o}
    (hnot : ∀ p n, (⟨o, r⟩ : Call Op Resp) ≠ ⟨.appendRevision p, .ok n⟩) :
    j.next x o r = x ∨ (¬ Recorded x ∧ ¬ Recorded (j.next x o r) ∧
      ∀ b, j.next x o r = .based (.revision b) →
        (⟨o, r⟩ : Call Op Resp) = ⟨.currentRevision, .ok (some b)⟩) := by
  cases o with
  | currentRevision =>
    rcases r with text | found
    · exact .inl rfl
    · simp only [Job.next]
      split
      · rcases x with _ | _ | body | onto | onto
        · rcases found with _ | found
          · exact .inr ⟨not_recorded (by simp), not_recorded (by simp [Hold.look]), by
              simp [Hold.look]⟩
          · exact .inr ⟨not_recorded (by simp), not_recorded (by simp [Hold.look]), by
              simp [Hold.look]⟩
        all_goals exact .inl rfl
      · exact .inl rfl
  | relay e request =>
    rcases r with text | resp
    · exact .inl rfl
    · simp only [Job.next]
      split
      · unfold Hold.hear
        split
        · exact .inr ⟨not_recorded (by simp), not_recorded (by simp), by simp⟩
        · split
          · exact .inr ⟨not_recorded (by simp), not_recorded (by simp), by simp⟩
          · exact .inl rfl
        · exact .inl rfl
      · exact .inl rfl
  | appendRevision p =>
    rcases r with text | n
    · exact .inl rfl
    · exact absurd rfl (hnot p n)
  | _ => exact .inl rfl

/-- Nothing but an append changes the ledger. -/
theorem ledger_next {s : Store} {o : Op} {r : Resp o}
    (hnot : ∀ p n, (⟨o, r⟩ : Call Op Resp) ≠ ⟨.appendRevision p, .ok n⟩) :
    (s.next o r).ledger = s.ledger := by
  cases o with
  | appendRevision p =>
    rcases r with text | n
    · rfl
    · exact absurd rfl (hnot p n)
  | upsertReconState recon => cases r <;> rfl
  | _ => rfl

/-- The account after an operation of a writer. -/
def madeBy (i : ι) (made : List (ι × SetpointRevision)) :
    (o : Op) → Resp o → List (ι × SetpointRevision)
  | .appendRevision p, .ok n => (i, { p with revision := n }) :: made
  | _, _ => made

omit [DecidableEq ι] in
theorem madeBy_eq {o : Op} {r : Resp o}
    (hnot : ∀ p n, (⟨o, r⟩ : Call Op Resp) ≠ ⟨.appendRevision p, .ok n⟩) :
    madeBy i made o r = made := by
  cases o with
  | appendRevision p =>
    rcases r with text | n
    · rfl
    · exact absurd rfl (hnot p n)
  | _ => rfl

/-- **What an operation does to the ledger**: it appends, or it leaves it and reads it truly. -/
theorem hosting_cases {A : (o : Op) → Resp o → Prop} {D : Device C} {w w' : World C} {o : Op}
    {r : Resp o} (h : hosting A D w o r w') :
    (∃ p, (⟨o, r⟩ : Call Op Resp) = ⟨.appendRevision p, .ok (w.store.ledger.maxRevision + 1)⟩ ∧
      w'.store.ledger = w.store.ledger.append p) ∨
    ((∀ p n, (⟨o, r⟩ : Call Op Resp) ≠ ⟨.appendRevision p, .ok n⟩) ∧
      w'.store.ledger = w.store.ledger ∧
      ∀ found, (⟨o, r⟩ : Call Op Resp) = ⟨.currentRevision, .ok found⟩ →
        w.store.ledger.current = found) := by
  obtain ⟨-, htruthful, hstore, -⟩ := h
  by_cases happend : ∃ p n, (⟨o, r⟩ : Call Op Resp) = ⟨.appendRevision p, .ok n⟩
  · obtain ⟨p, n, heq⟩ := happend
    obtain ⟨rfl, hr⟩ := Call.mk.inj heq
    obtain rfl := eq_of_heq hr
    obtain rfl : n = w.store.ledger.maxRevision + 1 := htruthful
    exact .inl ⟨p, rfl, congrArg Store.ledger hstore⟩
  · have hnot : ∀ p n, (⟨o, r⟩ : Call Op Resp) ≠ ⟨.appendRevision p, .ok n⟩ :=
      fun p n heq => happend ⟨p, n, heq⟩
    refine .inr ⟨hnot, by rw [hstore, ledger_next hnot], fun found heq => ?_⟩
    obtain ⟨rfl, hr⟩ := Call.mk.inj heq
    obtain rfl := eq_of_heq hr
    exact htruthful.symm

/-- A writer that may record has not recorded, and has made what it records. -/
theorem makes_of_may {j : Job} {p : Provenance} {x : Hold} {n : Nat} (h : j.MayRecord p x) :
    ¬ Recorded x ∧ ∃ onto, j.Makes onto p ∧ x.record n = .recorded onto n ∧
      ∀ b, onto = some b → x = .based b := by
  cases x with
  | unread => exact ⟨not_recorded (by simp), none, h, rfl, by simp⟩
  | based onto =>
    refine ⟨not_recorded (by simp), some onto, h, rfl, fun b heq => ?_⟩
    rw [Option.some.inj heq]
  | _ => exact h.elim

/-- **Any operation of any writer** keeps the account of who has recorded what. -/
theorem Made.step {A : (o : Op) → Resp o → Prop} {D : Device C} {w w' : World C} {o : Op}
    {r : Resp o} (h : Made jobs l₀ w.store.ledger q made)
    (hmay : (jobs i).protocol.permits (q i) o) (henv : hosting A D w o r w') :
    Made jobs l₀ w'.store.ledger (Function.update q i ((jobs i).next (q i) o r))
      (madeBy i made o r) := by
  rcases hosting_cases henv with ⟨p, hcall, hledger⟩ | ⟨hnot, hledger, htruthful⟩
  · obtain ⟨rfl, hr⟩ := Call.mk.inj hcall
    obtain rfl := eq_of_heq hr
    obtain ⟨hfresh, onto, hmakes, hrecord, hbase⟩ :=
      makes_of_may (n := w.store.ledger.maxRevision + 1) hmay
    rw [hledger]
    simp only [Job.next, hrecord]
    exact h.record hfresh hmakes fun b heq => h.held i b (hbase _ heq)
  · rw [hledger, madeBy_eq hnot]
    rcases next_cases (j := jobs i) (x := q i) hnot with hsame | ⟨hfresh, hnew, hread⟩
    · rw [hsame, Function.update_eq_self]
      exact h
    · exact h.read hfresh hnew fun b heq => List.mem_of_head? (htruthful _ (hread b heq))

/-- Where a revision comes from: what its writer made it of, and how that was read. -/
def Job.Origin (cs : List (Call Op Resp)) (l : Ledger) (r : SetpointRevision) : Job → Prop
  | .edit e => ∃ onto : Onto, e.Makes onto r.toProvenance ∧ onto.ReadIn cs ∧
      ∀ b, onto = .revision b → b ∈ l.entries ∧ b.revision < r.revision
  | .adopt intended => r.toProvenance = intended
  | .passes _ _ => False

section Runs

variable {A : (o : Op) → Resp o → Prop} {D : Device C} {w : World C}
  {es : List (ι × Call Op Resp)} {p : Pool ι Op Resp (Option Reply) (World C)}

theorem Made.origins (h : Made jobs l₀ l (holds jobs p) made) :
    ∀ x ∈ made, (jobs x.1).Origin (p.calls x.1) l x.2 := by
  intro x hx
  obtain ⟨onto, hrec, hmakes, hbefore⟩ := h.origin x hx
  have hfrom : (holds jobs p x.1).From (p.calls x.1) := from_after (jobs x.1) (p.calls x.1)
  rw [hrec] at hfrom
  revert hmakes
  cases jobs x.1 with
  | edit e =>
    cases onto with
    | none => exact False.elim
    | some onto =>
      exact fun hmakes => ⟨onto, hmakes, hfrom, fun b hb => hbefore b (congrArg some hb)⟩
  | adopt intended =>
    cases onto with
    | none => exact id
    | some onto => exact False.elim
  | passes maxRetries n => cases onto <;> exact False.elim

/-- Whoever was shown a recorded bundle has recorded. -/
theorem Made.accepted (h : Made jobs l₀ l (holds jobs p) made)
    (ht : Pool.Tracks (fun i => (jobs i).protocol) (fun _ => .unread) (fun _ => Replied) p)
    {reply : Reply} (hreply : (p.left i).returned? = some (some reply))
    (haccepted : reply.Accepted) : i ∈ made.map Prod.fst := by
  have hi := ht i
  rw [Prog.eq_ret_of_returned hreply] at hi
  exact h.own i (hi reply rfl haccepted)

/-- **Where every recorded revision comes from**, in any interleaving of any number of writers,
whatever fails and whatever the controller answers. A writer records at most once: its edit
merged onto a bundle it has read, of an earlier revision or as the controller reported it, or
the bundle it was given; a pass records nothing, and an accepted edit is recorded. -/
theorem origins_of_run (hrun : Run (Pool.Step (hosting A D)) (launch jobs w) es p) :
    ∃ made : List (ι × SetpointRevision),
      p.world.store.ledger.entries = made.map Prod.snd ++ w.store.ledger.entries ∧
      (made.map Prod.fst).Nodup ∧
      (∀ x ∈ made, (jobs x.1).Origin (p.calls x.1) p.world.store.ledger x.2) ∧
      ∀ i reply, (p.left i).returned? = some (some reply) → reply.Accepted →
        i ∈ made.map Prod.fst := by
  have hrun' : Run (Pool.StepIf (hosting A D) fun _ _ _ => True) (launch jobs w) es p :=
    hrun.mono fun _ _ _ h => ⟨h, trivial⟩
  have hstep : ∀ (t : Pool ι Op Resp (Option Reply) (World C)) i o r v',
      (∃ made, Made jobs w.store.ledger t.world.store.ledger (holds jobs t) made) →
      (jobs i).protocol.permits (holds jobs t i) o → True → hosting A D t.world o r v' →
      (jobs i).protocol.answers (holds jobs t i) o r ∧
        ∃ made, Made jobs w.store.ledger v'.store.ledger (Function.update (holds jobs t) i
          ((jobs i).protocol.next (holds jobs t i) o r)) made := by
    rintro t i o r v' ⟨made, hmade⟩ hmay - henv
    exact ⟨trivial, _, hmade.step hmay henv⟩
  obtain ⟨ht, made, hmade⟩ := Pool.invariant
    (I := fun v q => ∃ made, Made jobs w.store.ledger v.store.ledger q made)
    hstep hrun' (tracks_launch jobs w) ⟨[], made_nil⟩
  exact ⟨made, hmade.entries, hmade.once, hmade.origins,
    fun i reply hreply haccepted => hmade.accepted ht hreply haccepted⟩

end Runs

end Together

/-! ## A sample run -/

/-- An operator warms the days, the optimizer enriches. -/
def benchJobs : Bool → Job
  | true => .edit ⟨.operatorEdit, "operator", "ad-hoc edit", 200, none,
      { temperatureDayC := some 26 }⟩
  | false => .edit ⟨.optimizer, "optimizer", "optimizer setpoint submission", 202, some "run-1",
      { co2TargetPpm := some 1000 }⟩

/-- The optimizer's request is in when the operator's is handled, and both end together. -/
def benchTurns : List Bool :=
  [true, false] ++ List.replicate 6 true ++ List.replicate 6 false ++ [true, false, true] ++
    List.replicate 3 false

def benchLaunch : Pool Bool Op Resp (Option Reply) (World Shown) :=
  launch benchJobs ⟨benchStore, shownBench⟩

/-- A thread was shown the bundle it has recorded. -/
def isAccepted {ι C : Type} (p : Pool ι Op Resp (Option Reply) (World C)) (i : ι) : Bool :=
  match (p.left i).returned? with
  | some (some ⟨_, .setpoints (some _)⟩) => true
  | _ => false

theorem exists_of_accepted {ι C : Type} {p : Pool ι Op Resp (Option Reply) (World C)} {i : ι}
    (h : isAccepted p i = true) :
    ∃ reply, (p.left i).returned? = some (some reply) ∧ reply.Accepted := by
  unfold isAccepted at h
  split at h
  · rename_i status s heq
    exact ⟨_, heq, s, rfl⟩
  · cases h

/-- Where the two edits of the bench come from. -/
theorem origins_of_run_bench : ∃ es p, ∃ made : List (Bool × SetpointRevision),
    Run (Pool.Step (hosting anyhow exact)) benchLaunch es p ∧
    p.world.store.ledger.entries = made.map Prod.snd ++ benchStore.ledger.entries ∧
    (∀ x ∈ made, (benchJobs x.1).Origin (p.calls x.1) p.world.store.ledger x.2) ∧
    ∀ i, i ∈ made.map Prod.fst := by
  have hsample : (Pool.schedule (serve .online respond) benchTurns benchLaunch).any
      (fun x => isAccepted x.2 true && isAccepted x.2 false) = true := by
    decide +kernel
  obtain ⟨⟨es, p⟩, hschedule, hboth⟩ := Option.any_eq_true _ _ |>.1 hsample
  obtain ⟨htrue, hfalse⟩ := Bool.and_eq_true_iff.1 hboth
  have hrun : Run (Pool.Step (hosting anyhow exact)) benchLaunch es p :=
    Pool.run_of_schedule (hosting_serve (fun _ _ => trivial) exact_respond) hschedule
  obtain ⟨made, hentries, -, horigin, haccepted⟩ := origins_of_run hrun
  refine ⟨es, p, made, hrun, hentries, horigin, ?_⟩
  rintro (_ | _)
  · obtain ⟨reply, hreply, hshown⟩ := exists_of_accepted hfalse
    exact haccepted false reply hreply hshown
  · obtain ⟨reply, hreply, hshown⟩ := exists_of_accepted htrue
    exact haccepted true reply hreply hshown

end Greenhouse.Platform
