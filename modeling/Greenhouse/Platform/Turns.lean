import Greenhouse.Platform.Origins

/-!
# Writers that take their turns

A handler that records onto the revision it has read has, as far as the ledger goes, run by
itself. If every handler does, the ledger is what the writers give one after another, in the
order in which they record.

* `Turned.carries`: in turns no edit is lost but to a later one of the same target or zone.
* `serial_of_run`: writers that record onto the current revision have taken their turns.
-/

namespace Greenhouse.Platform

open Greenhouse.Process Prog Reconciler

section Turns

variable {ι C : Type} {jobs : ι → Job} {i : ι}

/-! ## Turns -/

/-- What a writer makes of a bundle when it takes its turn. -/
def Job.turn (s : Setpoints) : Job → Except ValError Setpoints
  | .edit e => applyPatch s e.patch
  | .adopt intended => .ok intended.setpoints
  | .passes _ _ => .ok s

/-- The current revision, when `made` has been recorded, newest first, on top of `r₀`. -/
def latest (r₀ : SetpointRevision) (made : List (ι × SetpointRevision)) : SetpointRevision :=
  match made with
  | [] => r₀
  | x :: _ => x.2

/-- Each revision is what its writer makes of the one right before it. -/
def Turned (jobs : ι → Job) (r₀ : SetpointRevision) : List (ι × SetpointRevision) → Prop
  | [] => True
  | x :: older =>
    (jobs x.1).turn (latest r₀ older).setpoints = .ok x.2.setpoints ∧ Turned jobs r₀ older

theorem Turned.older {r₀ : SetpointRevision} {newer older : List (ι × SetpointRevision)}
    (h : Turned jobs r₀ (newer ++ older)) : Turned jobs r₀ older := by
  induction newer with
  | nil => exact h
  | cons y newer ih => exact ih h.2

/-- A bundle has every target and zone that an edit names. -/
structure Carries (patch : SetpointsPatchDTO) (s : Setpoints) : Prop where
  targets : ∀ (field : GlobalField) v, field.named patch.toGlobalPatch = some v →
    field.target s.toGlobalSetpoints = v
  zones : ∀ dto ∈ patch.entries, ∃ z ∈ s.zones, dto = z.toDTO

/-- What comes out of an edit, also where the zones of the bundle are not distinct. -/
theorem overlay_of_applyPatch {base s : Setpoints} {patch : SetpointsPatchDTO}
    (h : applyPatch base patch = .ok s) :
    ∃ zones : List ZoneTargets, patch.entries = zones.map (·.toDTO) ∧
      (∀ z ∈ zones, position base.zones z.zoneId ≠ none) ∧ DistinctZones zones ∧
      s = { patch.applyTo base.toGlobalSetpoints with zones := overlay zones base.zones } := by
  obtain ⟨globals, dtos⟩ := patch
  cases dtos with
  | none => exact ⟨[], rfl, (@applyPatch_iff base s globals none).1 h⟩
  | some dtos =>
    have hcomplete : ∀ dto ∈ dtos, ¬ dto.Incomplete := by
      unfold applyPatch mergeZonePatch at h
      dsimp only at h
      split at h
      · cases h
      · rename_i merged hmerged
        exact complete_of_mergeZonesFrom hmerged
    obtain ⟨zones, rfl⟩ := exists_zones.2 hcomplete
    exact ⟨zones, rfl, (@applyPatch_iff base s globals (some zones)).1 h⟩

theorem carries_of_applyPatch {base s : Setpoints} {patch : SetpointsPatchDTO}
    (h : applyPatch base patch = .ok s) : Carries patch s := by
  obtain ⟨zones, hentries, hknown, hd, rfl⟩ := overlay_of_applyPatch h
  refine ⟨fun field v hv => ?_, fun dto hdto => ?_⟩
  · exact (field.target_applyTo _ _).trans (by rw [hv, Option.getD_some])
  · rw [hentries] at hdto
    obtain ⟨z, hz, rfl⟩ := List.mem_map.1 hdto
    exact ⟨z, ((forall_overlay hd hknown (P := (· ∈ overlay zones base.zones))).1
      fun _ hy => hy).1 z hz, rfl⟩

theorem mem_untouched_of_unnamed {patch base : List ZoneTargets} {z : ZoneTargets} (hz : z ∈ base)
    (hnot : z.zoneId ∉ patch.map (·.zoneId)) : z ∈ untouched patch base := by
  induction base with
  | nil => cases hz
  | cons zone zones ih =>
    unfold untouched
    split
    · rename_i hgone
      rcases List.mem_cons.1 hz with rfl | hz
      · exact absurd hgone.2 hnot
      · exact ih hz
    · rcases List.mem_cons.1 hz with rfl | hz
      · exact List.mem_cons_self
      · exact List.mem_cons_of_mem _ (ih hz)

/-- An edit that names nothing in common leaves what another one has set. -/
theorem Carries.spared {base s : Setpoints} {patch other : SetpointsPatchDTO}
    (h : Carries patch base) (hapart : patch.Apart other) (hok : applyPatch base other = .ok s) :
    Carries patch s := by
  obtain ⟨zones, hentries, hknown, hd, rfl⟩ := overlay_of_applyPatch hok
  refine ⟨fun field v hv => ?_, fun dto hdto => ?_⟩
  · have hnone : field.named other.toGlobalPatch = none :=
      (hapart.1 field).resolve_left (by rw [hv]; exact Option.some_ne_none v)
    rw [← h.targets field v hv]
    exact (field.target_applyTo _ _).trans (by rw [hnone, Option.getD_none])
  · obtain ⟨z, hz, rfl⟩ := h.zones dto hdto
    have hunnamed : z.zoneId ∉ zones.map (·.zoneId) := by
      intro hin
      obtain ⟨y, hy, hid⟩ := List.mem_map.1 hin
      refine hapart.2 z.toDTO hdto y.toDTO ?_ z.zoneId rfl (congrArg some hid)
      rw [hentries]
      exact List.mem_map_of_mem hy
    exact ⟨z, ((forall_overlay hd hknown (P := (· ∈ overlay zones base.zones))).1
      fun _ hy => hy).2 z (mem_untouched_of_unnamed hz hunnamed), rfl⟩

/-- A writer that leaves the targets and zones of an edit alone. -/
def Job.Spares (patch : SetpointsPatchDTO) : Job → Prop
  | .edit e => patch.Apart e.patch
  | .adopt _ => False
  | .passes _ _ => True

theorem Carries.turn {j : Job} {s t : Setpoints} {patch : SetpointsPatchDTO}
    (h : Carries patch s) (hspare : j.Spares patch) (hok : j.turn s = .ok t) :
    Carries patch t := by
  cases j with
  | edit e => exact h.spared hspare hok
  | adopt intended => exact hspare.elim
  | passes maxRetries n =>
    cases hok
    exact h

/-- **No edit is lost but to a later one** of the same target or zone. -/
theorem Turned.carries {r₀ : SetpointRevision} {newer older : List (ι × SetpointRevision)}
    {x : ι × SetpointRevision} {e : Edit} (h : Turned jobs r₀ (newer ++ x :: older))
    (hx : jobs x.1 = .edit e) (hspare : ∀ y ∈ newer, (jobs y.1).Spares e.patch) :
    Carries e.patch (latest r₀ (newer ++ x :: older)).setpoints := by
  induction newer with
  | nil =>
    have hturn := h.1
    rw [hx] at hturn
    exact carries_of_applyPatch hturn
  | cons y newer ih =>
    have hbefore := ih h.2 fun z hz => hspare z (List.mem_cons_of_mem y hz)
    exact hbefore.turn (hspare y List.mem_cons_self) h.1

/-! ## Edits of the revision they have read -/

/-- The writer has read the ledger, if at all, where it has an entry. -/
def Hold.Revised : Hold → Prop
  | .absent => False
  | .half _ => False
  | .based (.report _) => False
  | _ => True

/-- The writers have taken their turns. -/
structure Serial (jobs : ι → Job) (r₀ : SetpointRevision) (l : Ledger) (q : ι → Hold)
    (made : List (ι × SetpointRevision)) : Prop where
  revised : ∀ i, (q i).Revised
  current : l.current = some (latest r₀ made)
  turned : Turned jobs r₀ made

theorem Hold.Revised.next {j : Job} {x : Hold} {o : Op} {r : Resp o} (h : x.Revised)
    (hfound : (⟨o, r⟩ : Call Op Resp) ≠ ⟨.currentRevision, .ok none⟩) : (j.next x o r).Revised := by
  cases o with
  | currentRevision =>
    rcases r with text | _ | found
    · exact h
    · exact absurd rfl hfound
    · simp only [Job.next]
      split
      · cases x <;> exact h
      · exact h
  | relay e request =>
    rcases r with text | resp
    · exact h
    · simp only [Job.next]
      split
      · unfold Hold.hear
        split
        · exact h.elim
        · exact h.elim
        · exact h
      · exact h
  | appendRevision p =>
    rcases r with text | n
    · exact h
    · simp only [Job.next]
      cases x <;> first | exact h | trivial
  | _ => exact h

/-- A writer that records onto the current revision takes its turn. -/
theorem turn_of_makes {j : Job} {onto : Option Onto} {p : Provenance} {s : Setpoints}
    (h : j.Makes onto p) (hs : ∀ b, onto = some b → b.bundle = s) :
    j.turn s = .ok p.setpoints := by
  cases j with
  | edit e =>
    cases onto with
    | none => exact h.elim
    | some onto =>
      rw [← hs onto rfl]
      exact h.merged
  | adopt intended =>
    cases onto with
    | none =>
      obtain rfl : p = intended := h
      rfl
    | some onto => exact h.elim
  | passes maxRetries n => cases onto <;> exact h.elim

/-- An edit is recorded while the revision it was merged onto is current. -/
def Isolated [DecidableEq ι] (jobs : ι → Job) :
    Pool.Condition ι Op Resp (Option Reply) (World C) :=
  fun p i c => ∀ intended b, c.op = .appendRevision intended →
    holds jobs p i = .based (.revision b) → p.world.store.ledger.current = some b

/-- **Any operation of any writer**: the one that records has taken its turn. -/
theorem Serial.step [DecidableEq ι] {A : (o : Op) → Resp o → Prop} {D : Device C}
    {w w' : World C} {o : Op} {r : Resp o} {r₀ : SetpointRevision} {q : ι → Hold}
    {made : List (ι × SetpointRevision)} (h : Serial jobs r₀ w.store.ledger q made)
    (hmay : (jobs i).protocol.permits (q i) o) (henv : hosting A D w o r w')
    (hisolated : ∀ intended b, o = .appendRevision intended → q i = .based (.revision b) →
      w.store.ledger.current = some b) :
    Serial jobs r₀ w'.store.ledger (Function.update q i ((jobs i).next (q i) o r))
      (madeBy i made o r) := by
  have hc := h.current
  have hfound : (⟨o, r⟩ : Call Op Resp) ≠ ⟨.currentRevision, .ok none⟩ := by
    intro hcall
    rcases hosting_cases henv with ⟨p, hcall', -⟩ | ⟨-, -, htruthful⟩
    · cases hcall.symm.trans hcall'
    · cases hc.symm.trans (htruthful none hcall)
  have hrevised : ∀ k, (Function.update q i ((jobs i).next (q i) o r) k).Revised := by
    intro k
    by_cases hk : k = i
    · subst hk
      rw [Function.update_self]
      exact (h.revised k).next hfound
    · rw [Function.update_of_ne hk]
      exact h.revised k
  rcases hosting_cases henv with ⟨p, hcall, hledger⟩ | ⟨hnot, hledger, -⟩
  · obtain ⟨rfl, hr⟩ := Call.mk.inj hcall
    obtain rfl := eq_of_heq hr
    obtain ⟨-, onto, hmakes, -, hbase⟩ := makes_of_may (n := w.store.ledger.maxRevision + 1) hmay
    have hturn : (jobs i).turn (latest r₀ made).setpoints = .ok p.setpoints := by
      refine turn_of_makes hmakes fun b hb => ?_
      have hread := hbase b hb
      have hheld := h.revised i
      rw [hread] at hheld
      cases b with
      | report s => exact hheld.elim
      | revision b =>
        have hsame := hisolated p b rfl hread
        rw [hc] at hsame
        rw [Option.some.inj hsame]
        rfl
    refine ⟨hrevised, ?_, hturn, h.turned⟩
    rw [hledger]
    exact Ledger.current_append _ _
  · rw [hledger, madeBy_eq hnot]
    exact ⟨hrevised, hc, h.turned⟩

/-- **No update is lost between writers that record onto the current revision.** In any
interleaving of any number of writers of a greenhouse with an intended state, if every edit is
recorded while the revision it was merged onto is current, then each new entry of the ledger is
what its writer makes of the entry right before it; no writer has two entries, every accepted
edit has one, and the current revision carries every recorded edit that no later entry's writer
names a target or zone of. -/
theorem serial_of_run [DecidableEq ι] {A : (o : Op) → Resp o → Prop} {D : Device C}
    {w : World C} {es : List (ι × Call Op Resp)}
    {p : Pool ι Op Resp (Option Reply) (World C)} {r₀ : SetpointRevision}
    (h₀ : w.store.ledger.current = some r₀)
    (hrun : Run (Pool.StepIf (hosting A D) (Isolated jobs)) (launch jobs w) es p) :
    ∃ made : List (ι × SetpointRevision),
      p.world.store.ledger.entries = made.map Prod.snd ++ w.store.ledger.entries ∧
      p.world.store.ledger.current = some (latest r₀ made) ∧
      (made.map Prod.fst).Nodup ∧
      (∀ newer x older, made = newer ++ x :: older →
        (jobs x.1).turn (latest r₀ older).setpoints = .ok x.2.setpoints) ∧
      (∀ i reply, (p.left i).returned? = some (some reply) → reply.Accepted →
        i ∈ made.map Prod.fst) ∧
      ∀ newer x older e, made = newer ++ x :: older → jobs x.1 = .edit e →
        (∀ y ∈ newer, (jobs y.1).Spares e.patch) → Carries e.patch (latest r₀ made).setpoints := by
  have hstep : ∀ (t : Pool ι Op Resp (Option Reply) (World C)) i o r v',
      (∃ made, Made jobs w.store.ledger t.world.store.ledger (holds jobs t) made ∧
        Serial jobs r₀ t.world.store.ledger (holds jobs t) made) →
      (jobs i).protocol.permits (holds jobs t i) o → Isolated jobs t i ⟨o, r⟩ →
      hosting A D t.world o r v' → (jobs i).protocol.answers (holds jobs t i) o r ∧
        ∃ made, Made jobs w.store.ledger v'.store.ledger (Function.update (holds jobs t) i
          ((jobs i).protocol.next (holds jobs t i) o r)) made ∧
          Serial jobs r₀ v'.store.ledger (Function.update (holds jobs t) i
            ((jobs i).protocol.next (holds jobs t i) o r)) made := by
    rintro t i o r v' ⟨made, hmade, hserial⟩ hmay hisolated henv
    exact ⟨trivial, _, hmade.step hmay henv, hserial.step hmay henv hisolated⟩
  obtain ⟨ht, made, hmade, hserial⟩ := Pool.invariant
    (I := fun v q => ∃ made, Made jobs w.store.ledger v.store.ledger q made ∧
      Serial jobs r₀ v.store.ledger q made)
    hstep hrun (tracks_launch jobs w) ⟨[], made_nil, fun _ => trivial, h₀, trivial⟩
  refine ⟨made, hmade.entries, hserial.current, hmade.once, ?_, ?_, ?_⟩
  · rintro newer x older rfl
    exact hserial.turned.older.1
  · intro i reply hreply haccepted
    exact hmade.accepted ht hreply haccepted
  · rintro newer x older e rfl hx hspare
    exact hserial.turned.carries hx hspare

/-! ## A sample run -/

/-- The test of a step for `Isolated`. -/
def isolated [DecidableEq ι] (jobs : ι → Job) (p : Pool ι Op Resp (Option Reply) (World C))
    (i : ι) (c : Call Op Resp) : Bool :=
  match c.op, holds jobs p i with
  | .appendRevision _, .based (.revision b) => p.world.store.ledger.current = some b
  | _, _ => true

theorem isolated_iff [DecidableEq ι] {p : Pool ι Op Resp (Option Reply) (World C)}
    {c : Call Op Resp} (h : isolated jobs p i c = true) : Isolated jobs p i c := by
  intro intended b hop hb
  simpa [isolated, hop, hb] using h

end Turns

/-- The two edits of the bench take their turns, though they are handled at once. -/
theorem serial_of_run_bench : ∃ es p, ∃ made : List (Bool × SetpointRevision),
    Run (Pool.StepIf (hosting anyhow exact) (Isolated benchJobs)) benchLaunch es p ∧
    p.world.store.ledger.current = some (latest ⟨edit benchBundle, 1⟩ made) ∧
    (∀ newer x older, made = newer ++ x :: older →
      (benchJobs x.1).turn (latest ⟨edit benchBundle, 1⟩ older).setpoints = .ok x.2.setpoints) ∧
    (made.map Prod.fst).Nodup ∧ ∀ i, i ∈ made.map Prod.fst := by
  have hsample : (Pool.scheduleIf (serve .online respond) (isolated benchJobs) benchTurns
      benchLaunch).any (fun x => isAccepted x.2 true && isAccepted x.2 false) = true := by
    decide +kernel
  obtain ⟨⟨es, p⟩, hschedule, hboth⟩ := Option.any_eq_true _ _ |>.1 hsample
  obtain ⟨htrue, hfalse⟩ := Bool.and_eq_true_iff.1 hboth
  have hrun : Run (Pool.StepIf (hosting anyhow exact) (Isolated benchJobs)) benchLaunch es p :=
    Pool.run_of_scheduleIf (hosting_serve (fun _ _ => trivial) exact_respond)
      (fun _ _ _ => isolated_iff) hschedule
  have h₀ : benchStore.ledger.current = some ⟨edit benchBundle, 1⟩ := rfl
  obtain ⟨made, -, hcurrent, honce, hturns, haccepted, -⟩ := serial_of_run h₀ hrun
  refine ⟨es, p, made, hrun, hcurrent, hturns, honce, ?_⟩
  rintro (_ | _)
  · obtain ⟨reply, hreply, hshown⟩ := exists_of_accepted hfalse
    exact haccepted false reply hreply hshown
  · obtain ⟨reply, hreply, hshown⟩ := exists_of_accepted htrue
    exact haccepted true reply hreply hshown

end Greenhouse.Platform
