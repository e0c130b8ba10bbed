import Greenhouse.Platform.Footprint
import Greenhouse.Platform.Passes
import Mathlib.Data.List.Chain

/-!
# Drift frames

The drift flag of the reconciliation row is set and cleared by the pass, and cleared by an
`apply`; each persists it and then, when it has changed, broadcasts it. Over any calls of these,
one after another, the frames alternate and the last one is the persisted flag, whatever fails.

* `telling`: a broadcast carries the persisted flag, and only when the clients have another.
* `obeys_apply_telling`, `obeys_reconcileGreenhouse_telling`: both keep to it.
* `drift_frames_tell`: **the frames of every run tell the persisted flag.**
-/

namespace Greenhouse.Platform

open Greenhouse.Process Prog Reconciler

/-- The flag the clients have after some frames. -/
def shownDrift (frames : List Bool) : Bool := frames.foldl (fun _ drift => drift) false

@[simp] theorem shownDrift_append (frames : List Bool) (drift : Bool) :
    shownDrift (frames ++ [drift]) = drift := by
  rw [shownDrift, List.foldl_append]
  rfl

/-- Frames that alternate, and another one that differs from the last. -/
theorem alternate_append {frames : List Bool} {drift : Bool}
    (h : (false :: frames).IsChain (· ≠ ·)) (hnew : shownDrift frames ≠ drift) :
    (false :: (frames ++ [drift])).IsChain (· ≠ ·) := by
  rcases List.eq_nil_or_concat frames with rfl | ⟨before, last, rfl⟩
  · exact List.isChain_cons_cons.2 ⟨hnew, List.isChain_singleton drift⟩
  · rw [List.concat_eq_append, shownDrift_append] at hnew
    rw [List.concat_eq_append] at h ⊢
    rw [List.append_assoc]
    exact List.isChain_cons_append_cons_cons.2 ⟨h, hnew, List.isChain_singleton drift⟩

/-- The frame an operation broadcasts. -/
def Op.driftFrame? : Op → Option Bool
  | .broadcastDrift drift => some drift
  | _ => none

/-- The drift frames among some calls. -/
def driftFrames (cs : List (Call Op Resp)) : List Bool := cs.filterMap fun c => c.op.driftFrame?

/-! ## The protocol -/

/-- The persisted flag, and the frames broadcast so far. -/
structure Telling where
  drift : Bool
  frames : List Bool

/-- The clients have the persisted flag. -/
def Telling.Told (q : Telling) : Prop := shownDrift q.frames = q.drift

/-- A broadcast carries the persisted flag, to clients that have another. -/
def telling : Protocol Op Resp Telling where
  permits q
    | .broadcastDrift drift => drift = q.drift ∧ shownDrift q.frames ≠ drift
    | _ => True
  answers q
    | .getReconState, .ok found => (found.getD {}).drift = q.drift
    | _, _ => True
  next q
    | .upsertReconState recon, .ok _ => { q with drift := recon.drift }
    | .broadcastDrift drift, _ => { q with frames := q.frames ++ [drift] }
    | _, _ => q

theorem idle_telling (q : Telling) : telling.Idle Op.Reads q := by
  intro o ho
  cases o with
  | appendRevision p => exact ho.elim
  | upsertReconState recon => exact ho.elim
  | broadcastDrift drift => exact ho.elim
  | _ => exact ⟨trivial, fun _ _ => rfl⟩

section Obeys

variable {q : Telling} {maxRetries : Nat} {e : Endpoint} {c : SetpointRevision} {ρ : ReconState}

theorem idle_telling_asks (q : Telling) : telling.Idle Op.Asks q :=
  (idle_telling q).mono fun _ h => h.reads

/-- A row that keeps the flag. -/
theorem obeys_upsert_telling (hdrift : ρ.drift = q.drift) (htold : q.Told) :
    (upsert ρ).Obeys telling q fun q' _ => q'.Told := by
  simp only [upsert, obeys_call]
  refine ⟨trivial, fun written _ => ?_⟩
  cases written with
  | error text => exact htold
  | ok written => exact htold.trans hdrift.symm

/-- **The flag is broadcast when it is not the one the clients have.** -/
theorem obeys_broadcastWhen {cond drift : Bool} (hdrift : q.drift = drift)
    (hcond : cond = true ↔ shownDrift q.frames ≠ drift) :
    (broadcastWhen cond drift).Obeys telling q fun q' _ => q'.Told := by
  unfold broadcastWhen
  split
  · rename_i hnew
    simp only [obeys_call]
    refine ⟨⟨hdrift.symm, hcond.1 hnew⟩, fun _ _ => ?_⟩
    exact (shownDrift_append q.frames drift).trans hdrift.symm
  · rename_i hold
    have hshown : shownDrift q.frames = drift := by
      by_contra hne
      exact hold (hcond.2 hne)
    exact hshown.trans hdrift.symm

/-- The row that carries the new flag has been written. -/
theorem obeys_broadcast_written {recon : ReconState} {cond drift : Bool} (htold : q.Told)
    (hdrift : recon.drift = drift) (hcond : cond = true ↔ q.drift ≠ drift) :
    (broadcastWhen cond drift).Obeys telling { q with drift := recon.drift }
      fun q' _ => q'.Told := by
  refine obeys_broadcastWhen hdrift ?_
  rw [hcond, ← htold]

theorem obeys_writeRecord_telling {p : Provenance} {delivery : DeliveryStatus} {status : Nat}
    {body : Option Body} (htold : q.Told) :
    (writeRecord p delivery status body).Obeys telling q fun q' _ => q'.Told := by
  simp only [writeRecord, obeys_bind, obeys_call]
  refine ⟨trivial, fun revision _ => ?_⟩
  cases revision with
  | error text => exact htold
  | ok revision =>
    simp only [obeys_bind, obeys_call]
    refine ⟨trivial, fun found hfound => ?_⟩
    cases found with
    | error text => exact htold
    | ok found =>
      have hrow : (found.getD {}).drift = q.drift := hfound
      simp only [obeys_bind, obeys_call]
      refine ⟨trivial, fun written _ => ?_⟩
      cases written with
      | error text => exact htold
      | ok written =>
        simp only [obeys_bind]
        by_cases hdelivery : delivery = .delivered
        · have hcleared : (recorded (found.getD {}) delivery revision).drift = false := by
            rw [recorded, if_pos hdelivery]
          have hcond : ((found.getD {}).drift && decide (delivery = .delivered)) = true ↔
              q.drift ≠ false := by simp [hdelivery, hrow]
          exact obeys_broadcast_written htold hcleared hcond
        · have hkept : (recorded (found.getD {}) delivery revision).drift = q.drift := by
            rw [recorded, if_neg hdelivery]
            exact hrow
          simp only [broadcastWhen, hdelivery, decide_false, Bool.and_false, Bool.false_eq_true,
            if_false, obeys_pure]
          exact htold.trans hkept.symm

/-- **An `apply` tells the clients the flag it clears.** -/
theorem obeys_apply_telling {p : Provenance} (htold : q.Told) :
    (Reconciler.apply p).Obeys telling q fun q' _ => q'.Told := by
  apply obeys_apply (idle_telling_asks q)
  · exact fun _ => htold
  · exact fun _ _ => htold
  · exact fun _ _ _ _ => obeys_writeRecord_telling htold

theorem obeys_recordDrift_telling {newly : Bool} (htold : q.Told) (hdrift : ρ.drift = true)
    (hnewly : newly = true ↔ q.drift ≠ true) :
    (recordDrift newly ρ).Obeys telling q fun q' _ => q'.Told := by
  simp only [recordDrift, upsert, obeys_bind, obeys_call]
  refine ⟨trivial, fun written _ => ?_⟩
  cases written with
  | error text => exact htold
  | ok written =>
    simp only [obeys_bind]
    exact obeys_broadcast_written htold hdrift hnewly

theorem obeys_handleDrift_telling (htold : q.Told) (hrow : ρ.drift = q.drift) :
    (handleDrift maxRetries e c ρ).Obeys telling q fun q' _ => q'.Told := by
  have hnewly : (!ρ.drift) = true ↔ q.drift ≠ true := by simp [hrow]
  unfold handleDrift
  split
  · simp only [obeys_bind]
    refine Obeys.of_uses (idle_telling_asks q) uses_deliver fun _ => ?_
    exact obeys_recordDrift_telling htold rfl hnewly
  · exact obeys_recordDrift_telling htold rfl hnewly

theorem obeys_markSynced_telling (htold : q.Told) (hrow : ρ.drift = q.drift) :
    (markSynced ρ).Obeys telling q fun q' _ => q'.Told := by
  unfold markSynced
  split
  · exact htold
  · simp only [upsert, obeys_bind, obeys_call]
    refine ⟨trivial, fun written _ => ?_⟩
    cases written with
    | error text => exact htold
    | ok written =>
      simp only [obeys_bind]
      have hcond : ρ.drift = true ↔ q.drift ≠ false := by simp [hrow]
      exact obeys_broadcast_written htold rfl hcond

/-- A re-assert keeps the flag. -/
theorem obeys_reassert_telling (htold : q.Told) (hrow : ρ.drift = q.drift) :
    (reassert maxRetries e c ρ).Obeys telling q fun q' _ => q'.Told := by
  unfold reassert
  split
  · exact htold
  · simp only [obeys_bind]
    refine Obeys.of_uses (idle_telling_asks q) uses_deliver fun result => ?_
    refine obeys_upsert_telling ?_ htold
    rw [reasserted]
    split <;> exact hrow

theorem obeys_checkDrift_telling (htold : q.Told) (hrow : ρ.drift = q.drift) :
    (checkDrift maxRetries e c ρ).Obeys telling q fun q' _ => q'.Told := by
  simp only [checkDrift, obeys_bind]
  refine Obeys.of_uses (idle_telling_asks q) uses_reported fun report => ?_
  cases report with
  | error text => exact htold
  | ok shown =>
    dsimp only
    split
    · exact obeys_markSynced_telling htold hrow
    · exact obeys_handleDrift_telling htold hrow

/-- **A pass tells the clients the flag it sets or clears.** -/
theorem obeys_reconcileGreenhouse_telling (htold : q.Told) :
    (reconcileGreenhouse maxRetries).Obeys telling q fun q' _ => q'.Told := by
  simp only [reconcileGreenhouse, obeys_bind]
  refine Obeys.of_uses (idle_telling q) (uses_call.2 trivial) fun current => ?_
  rcases current with text | _ | c
  · exact htold
  · exact htold
  simp only [obeys_bind, obeys_call]
  refine ⟨trivial, fun found hfound => ?_⟩
  rcases found with text | found
  · exact htold
  have hrow : (found.getD {}).drift = q.drift := hfound
  simp only [obeys_bind]
  refine Obeys.of_uses (idle_telling q) (uses_call.2 trivial) fun endpoint => ?_
  rcases endpoint with text | _ | e
  · exact htold
  · exact htold
  simp only [obeys_bind]
  refine Obeys.of_uses (idle_telling q) ((uses_call.2 trivial).bind fun _ => uses_pure)
    fun reach => ?_
  cases reach with
  | true =>
    simp only [if_true]
    split
    · exact obeys_checkDrift_telling htold hrow
    · exact obeys_reassert_telling htold hrow
  | false =>
    simp only [Bool.false_eq_true, if_false, defer]
    split
    · exact obeys_upsert_telling hrow htold
    · exact htold

end Obeys

/-! ## Runs -/

/-- A call on one greenhouse. -/
inductive Turn where
  | apply (intended : Provenance)
  | pass

/-- A call, with the operations it performed. -/
structure Taken where
  turn : Turn
  calls : List (Call Op Resp)

/-- The frames of some calls. -/
def framesOf (xs : List Taken) : List Bool := xs.flatMap fun x => driftFrames x.calls

section Runs

variable {C : Type} (D : Device C) (maxRetries : Nat)

/-- One call runs by itself. -/
def Taken.Step (w : World C) (x : Taken) (w' : World C) : Prop :=
  match x.turn with
  | .apply p => ∃ result, Exec (hosting anyhow D) (Reconciler.apply p) w x.calls result w'
  | .pass => Pass (hosting anyhow D) maxRetries w x.calls w'

variable {D maxRetries} {w w' : World C}

/-- The protocol state is the persisted flag, and the frames alternate. -/
structure Broadcasts (w : World C) (q : Telling) : Prop where
  flag : w.store.row.drift = q.drift
  alternate : (false :: q.frames).IsChain (· ≠ ·)

theorem Broadcasts.step {q : Telling} {o : Op} {r : Resp o} (h : Broadcasts w q)
    (hpermits : telling.permits q o) (hserve : hosting anyhow D w o r w') :
    telling.answers q o r ∧ Broadcasts w' (telling.next q o r) := by
  obtain ⟨-, htrue, hstore, -⟩ := hserve
  cases o with
  | upsertReconState recon =>
    cases r with
    | error text => exact ⟨trivial, by rw [hstore]; exact h.flag, h.alternate⟩
    | ok written => exact ⟨trivial, by rw [hstore]; rfl, h.alternate⟩
  | appendRevision p =>
    refine ⟨trivial, ?_, h.alternate⟩
    rw [hstore]
    cases r <;> exact h.flag
  | getReconState =>
    refine ⟨?_, by rw [hstore]; exact h.flag, h.alternate⟩
    cases r with
    | error text => trivial
    | ok found =>
      show (found.getD {}).drift = q.drift
      rw [show found = w.store.recon from htrue]
      exact h.flag
  | broadcastDrift drift =>
    obtain ⟨hdrift, hnew⟩ := hpermits
    refine ⟨trivial, by rw [hstore]; exact h.flag, ?_⟩
    exact alternate_append h.alternate hnew
  | _ => exact ⟨trivial, by rw [hstore]; exact h.flag, h.alternate⟩

/-- The calls of a run, as the protocol remembers them. -/
theorem frames_after (q : Telling) (cs : List (Call Op Resp)) :
    (telling.after q cs).frames = q.frames ++ driftFrames cs := by
  induction cs generalizing q with
  | nil => exact (List.append_nil _).symm
  | cons c cs ih =>
    have hnext := ih (telling.next q c.op c.resp)
    have hone : (telling.next q c.op c.resp).frames = q.frames ++ driftFrames [c] := by
      obtain ⟨o, r⟩ := c
      cases o with
      | upsertReconState recon => cases r <;> exact (List.append_nil _).symm
      | broadcastDrift drift => rfl
      | _ => exact (List.append_nil _).symm
    rw [show c :: cs = [c] ++ cs from rfl, driftFrames, List.filterMap_append,
      ← List.append_assoc]
    exact hnext.trans (congrArg (· ++ driftFrames cs) hone)

/-- The last of some frames is the persisted flag, and they alternate. -/
structure Tells (frames : List Bool) (w : World C) : Prop where
  flag : shownDrift frames = w.store.row.drift
  alternate : (false :: frames).IsChain (· ≠ ·)

/-- **A call keeps the clients in step with the row.** -/
theorem Tells.step {frames : List Bool} {x : Taken} (h : Tells frames w)
    (hstep : x.Step D maxRetries w w') : Tells (frames ++ driftFrames x.calls) w' := by
  have hstart : Broadcasts w ⟨w.store.row.drift, frames⟩ := ⟨rfl, h.alternate⟩
  have htold : Telling.Told ⟨w.store.row.drift, frames⟩ := h.flag
  have hend : (telling.after ⟨w.store.row.drift, frames⟩ x.calls).Told ∧
      Broadcasts w' (telling.after ⟨w.store.row.drift, frames⟩ x.calls) := by
    obtain ⟨turn, calls⟩ := x
    cases turn with
    | apply p =>
      obtain ⟨result, hexec⟩ := hstep
      exact hexec.invariant (fun _ _ _ _ _ hI hpermits hserve => hI.step hpermits hserve)
        (obeys_apply_telling htold) hstart
    | pass =>
      obtain ⟨result, hexec⟩ := hstep
      exact hexec.invariant (fun _ _ _ _ _ hI hpermits hserve => hI.step hpermits hserve)
        (obeys_reconcileGreenhouse_telling htold) hstart
  obtain ⟨htold', hflag, halternate⟩ := hend
  rw [Telling.Told, frames_after] at htold'
  rw [frames_after] at halternate
  exact ⟨htold'.trans hflag.symm, halternate⟩

/-- **The drift frames of every run tell the persisted flag**, and no two in a row are the
same. -/
theorem drift_frames_tell {xs : List Taken}
    (h : Run (fun w x w' => x.Step D maxRetries w w') w xs w')
    (hstart : w.store.row.drift = false) :
    shownDrift (framesOf xs) = w'.store.row.drift ∧ (framesOf xs).IsChain (· ≠ ·) := by
  have htells : ∀ frames, Tells frames w → Tells (frames ++ framesOf xs) w' := by
    clear hstart
    induction h with
    | nil w =>
      intro frames hframes
      rw [framesOf, List.flatMap_nil, List.append_nil]
      exact hframes
    | cons hone _ ih =>
      intro frames hframes
      rw [framesOf, List.flatMap_cons, ← List.append_assoc]
      exact ih _ (hframes.step hone)
  have hend := htells [] ⟨hstart.symm, List.isChain_singleton false⟩
  rw [List.nil_append] at hend
  exact ⟨hend.flag, hend.alternate.tail⟩

end Runs

/-! ### A drift that is seen and cleared -/

/-- A controller that accepts every request and reports another day temperature. -/
def drifting (c : Unit) (q : Request) : Except String Response × Unit :=
  match q with
  | .getSetpoints =>
    (.ok ⟨200, .setpoints { benchBundle.toGlobalSetpoints with temperatureDayC := 30 }⟩, c)
  | .getZones => (.ok ⟨200, .zones benchBundle.zones⟩, c)
  | _ => (.ok ⟨200, .text "accepted"⟩, c)

/-- The calls of a turn on a working host with that controller, and what it leaves. -/
def Turn.serve (turn : Turn) (w : World Unit) : Taken × World Unit :=
  match turn with
  | .apply p => (⟨turn, (Reconciler.apply p).trace (Platform.serve .online drifting) w⟩,
      ((Reconciler.apply p).eval (Platform.serve .online drifting) w).2)
  | .pass => (⟨turn, (reconcileGreenhouse 5).trace (Platform.serve .online drifting) w⟩,
      ((reconcileGreenhouse 5).eval (Platform.serve .online drifting) w).2)

theorem step_serve (turn : Turn) (w : World Unit) :
    (turn.serve w).1.Step anything 5 w (turn.serve w).2 := by
  have hserve : ∀ (w : World Unit) o, hosting anyhow anything w o
      (Platform.serve .online drifting w o).1 (Platform.serve .online drifting w o).2 :=
    hosting_serve (fun _ _ => trivial) (fun _ _ => trivial)
  cases turn with
  | apply p => exact ⟨_, Exec.of_eval hserve _ w⟩
  | pass => exact ⟨_, Exec.of_eval hserve _ w⟩

/-- Some turns, one after another. -/
def serveTurns : List Turn → World Unit → List Taken × World Unit
  | [], w => ([], w)
  | turn :: turns, w =>
    let taken := turn.serve w
    let rest := serveTurns turns taken.2
    (taken.1 :: rest.1, rest.2)

theorem run_serveTurns (turns : List Turn) (w : World Unit) :
    Run (fun w x w' => x.Step anything 5 w w') w (serveTurns turns w).1 (serveTurns turns w).2 := by
  induction turns generalizing w with
  | nil => exact .nil w
  | cons turn turns ih => exact .cons (step_serve turn w) (ih _)

/-- A bundle is applied, found drifted, and applied again. -/
theorem drift_frames_tell_drifting : ∃ xs w,
    Run (fun w x w' => x.Step anything 5 w w') ⟨{}, ()⟩ xs w ∧ framesOf xs = [true, false] ∧
    shownDrift (framesOf xs) = w.store.row.drift ∧ (framesOf xs).IsChain (· ≠ ·) := by
  have hrun := run_serveTurns [.apply (edit benchBundle), .pass, .apply (edit benchBundle)] ⟨{}, ()⟩
  exact ⟨_, _, hrun, by decide +kernel, drift_frames_tell hrun rfl⟩

end Greenhouse.Platform
