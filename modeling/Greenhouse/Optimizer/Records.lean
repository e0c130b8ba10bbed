import Greenhouse.Optimizer.Progress
import Greenhouse.Optimizer.Scheduler

/-!
# Cycle records

A cycle is to end in one well-formed record, whatever happened. A greenhouse id that is not a
slug, or an empty model name, makes a model raise outside the steps that are caught: there is no
record then, and only then.

* `Sharing`: the world of a cycle whose awaits others use.
* `WellRecorded`: what a cycle leaves behind.
* `recorded_iff`: the cycles that leave it behind.
-/

namespace Greenhouse.Optimizer

open Greenhouse.Platform Greenhouse.Process Prog

/-! ## The gates of an applied plan -/

theorem gates_of_applied {plan : OptimizerPlan} {bounds : Option StageBounds} {threshold : ℚ}
    {horizon : Horizon}
    (h : (evaluateApplication plan bounds threshold horizon).status = .applied) :
    (checkConstraints plan bounds horizon).ok = true ∧ threshold ≤ plan.confidence := by
  unfold evaluateApplication at h
  dsimp only at h
  split at h
  · cases h
  · split at h
    · cases h
    · rename_i hok
      split at h
      · cases h
      · rename_i hconfident
        exact ⟨by simpa using hok, not_lt.1 hconfident⟩

/-! ## What a cycle leaves behind -/

/-- The answers of a service that others share: while the cycle awaits something, what `rely`
allows may happen. -/
def Sharing (rely : World → World → Prop) : Env Op Resp World := fun w o r w' =>
  ∃ u, (if Awaits o then rely w u else u = w) ∧ Effect u o r w'

theorem sharing_of_effect {rely : World → World → Prop} (hrely : ∀ w, rely w w) {w w' : World}
    {o : Op} {r : Resp o} (h : Effect w o r w') : Sharing rely w o r w' := by
  refine ⟨w, ?_, h⟩
  split
  · exact hrely w
  · rfl

/-- Nothing of the plan in force is changed. -/
structure GreenhouseState.SamePlan (s t : GreenhouseState) : Prop where
  lastAppliedPlanId : t.lastAppliedPlanId = s.lastAppliedPlanId
  lastAppliedSetpoints : t.lastAppliedSetpoints = s.lastAppliedSetpoints
  retainedTrajectory : t.retainedTrajectory = s.retainedTrajectory
  referenceForecast : t.referenceForecast = s.referenceForecast

theorem GreenhouseState.SamePlan.trans {s t u : GreenhouseState} (h : s.SamePlan t)
    (h' : t.SamePlan u) : s.SamePlan u :=
  ⟨h'.lastAppliedPlanId.trans h.lastAppliedPlanId,
    h'.lastAppliedSetpoints.trans h.lastAppliedSetpoints,
    h'.retainedTrajectory.trans h.retainedTrajectory,
    h'.referenceForecast.trans h.referenceForecast⟩

/-- Others leave the latest record of a greenhouse and its plan in force alone. -/
def Spares (g : String) (rely : World → World → Prop) : Prop :=
  ∀ w u, rely w u → u.plans.latest g = w.plans.latest g ∧ (w.states g).SamePlan (u.states g)

/-- A cycle of a greenhouse has left one well-formed record. -/
structure WellRecorded (deps : Dependencies) (rely : World → World → Prop) (g : String)
    (runId : Option RunId) (cs : List (Call Op Resp)) (w w' : World) (r : PlanRecord) : Prop where
  stored : (Progress.ofCalls runId cs).records = [r]
  greenhouse : r.greenhouseId = g
  reason : r.outcome.status = .held ∨ r.outcome.status = .failed → r.outcome.reasonCode ≠ none
  cleared : r.outcome.status = .applied → ∃ plan ctx, r.plan = some plan ∧
    (Progress.ofCalls runId cs).context = some ctx ∧
    (checkConstraints plan ctx.setpoints.bounds r.horizon).ok = true ∧
    deps.settings.confidenceThreshold ≤ plan.confidence
  unapplied : r.outcome.status ≠ .applied → (Progress.ofCalls runId cs).applied = none
  latest : Spares g rely → w'.plans.latest g = some r
  kept : Spares g rely → r.outcome.status ≠ .applied → (w.states g).SamePlan (w'.states g)

/-! ## The memory and the records while a cycle runs -/

/-- What a cycle has stored and kept so far. -/
structure Stored (g : String) (w₀ w : World) (p : Progress) : Prop where
  latest : ∀ r, p.records = [r] → w.plans.latest g = some r
  kept : p.applied = none → (w₀.states g).SamePlan (w.states g)

section

variable {deps : Dependencies} {rely : World → World → Prop} {g : String} {onDemand : Bool}
  {w₀ w u w' : World} {p : Progress} {o : Op} {r : Resp o}

theorem Stored.meanwhile (h : Stored g w₀ w p) (hspares : Spares g rely) (hrely : rely w u) :
    Stored g w₀ u p where
  latest r hr := (hspares w u hrely).1.trans (h.latest r hr)
  kept happlied := (h.kept happlied).trans (hspares w u hrely).2

/-- The invariant after an operation that leaves the records and the plan in force alone. -/
theorem Stored.keep (h : Stored g w₀ w p) {q : Progress} (hlatest : w'.plans = w.plans)
    (hrecords : q.records = p.records) (happlied : q.applied = p.applied)
    (hstate : (w.states g).SamePlan (w'.states g)) : Stored g w₀ w' q where
  latest r hr := hlatest ▸ h.latest r (hrecords ▸ hr)
  kept hq := (h.kept (happlied ▸ hq)).trans hstate

/-- A step of a cycle stores what it records and keeps the plan in force. -/
theorem Stored.step (h : Stored g w₀ w p) (hpermits : p.Permits deps g onDemand o)
    (he : Effect w o r w') : Stored g w₀ w' (p.next o r) := by
  have hsame : (w.states g).SamePlan (w.states g) := ⟨rfl, rfl, rfl, rfl⟩
  cases o with
  | record record =>
    obtain rfl := he
    obtain ⟨rfl, -, hnone, -⟩ := hpermits
    refine ⟨fun r hr => ?_, h.kept⟩
    obtain rfl : record = r := by simpa [Progress.next, hnone] using hr
    simp [World.after, PlanStore.record]
  | setApplied g' id plan reference =>
    obtain rfl := he
    refine ⟨h.latest, fun happlied => ?_⟩
    cases happlied
  | setLastForecast g' points =>
    obtain rfl := he
    obtain ⟨rfl, -⟩ := hpermits
    exact h.keep rfl rfl rfl (by simpa [World.after, World.modify] using ⟨rfl, rfl, rfl, rfl⟩)
  | setBreaches g' n =>
    obtain rfl := he
    obtain ⟨rfl, -⟩ := hpermits
    exact h.keep rfl rfl rfl (by simpa [World.after, World.modify] using ⟨rfl, rfl, rfl, rfl⟩)
  | receive id =>
    cases r with
    | error failure =>
      obtain rfl := he
      exact h.keep rfl rfl rfl hsame
    | ok reply =>
      obtain ⟨-, rfl⟩ := he
      exact h.keep rfl rfl rfl hsame
  | _ =>
    first
      | exact hpermits.elim
      | obtain rfl := he
        exact h.keep rfl rfl rfl hsame
      | obtain ⟨-, rfl⟩ := he
        exact h.keep rfl rfl rfl hsame

/-- The same, when others used an await. -/
theorem Stored.shared (hspares : Spares g rely) (h : Stored g w₀ w p)
    (hpermits : p.Permits deps g onDemand o) (he : Sharing rely w o r w') :
    Stored g w₀ w' (p.next o r) := by
  obtain ⟨u, hmeanwhile, he⟩ := he
  split at hmeanwhile
  · exact (h.meanwhile hspares hmeanwhile).step hpermits he
  · subst hmeanwhile
    exact h.step hpermits he

end

/-! ## Which cycles are recorded -/

section

variable {deps : Dependencies} {rely : World → World → Prop} {g : String} {runId : Option RunId}
  {onDemand : Bool} {w w' : World} {cs : List (Call Op Resp)} {res : Option PlanRecord}

/-- Nothing is awaited before the frame of a cycle is there; it fails with an empty model. -/
theorem cycleFrame_model : Ensures (Sharing rely) (cycleFrame deps g runId) w
    fun _ frame _ => (frame = none ↔ w.runtime.model = "") := by
  have hmint : Ensures (Sharing rely) (mintRunId runId) w fun _ _ u => u.runtime = w.runtime := by
    cases runId with
    | some id => simp [mintRunId]
    | none =>
      simp only [mintRunId, ensures_call]
      rintro id u ⟨t, rfl, -, rfl⟩
      rfl
  simp only [cycleFrame, ensures_bind, ensures_call]
  rintro moment u ⟨t, rfl, rfl⟩ state u ⟨t, rfl, -, rfl⟩
  refine hmint.mono ?_
  rintro _ id u hruntime model u ⟨t, rfl, rfl, rfl⟩
  split
  · rename_i hmodel
    simpa [← hruntime] using hmodel
  · rename_i hmodel
    simpa [← hruntime] using hmodel

/-- How a cycle ends, by its calls. -/
theorem ended_of_exec (h : Exec (Sharing rely) (runCycle deps g runId onDemand) w cs res w') :
    (Progress.ofCalls runId cs).Ended deps g res ∧
      (res.isSome = true ↔ validSlug g = true ∧ w.runtime.model ≠ "") := by
  obtain ⟨frame, cs₁, cs₂, t, hframe, hrest, rfl⟩ := Exec.bind_iff.1 h
  have hmodel := cycleFrame_model cs₁ frame t hframe
  obtain ⟨⟨hrecords, happlied, hunread, hdeliberating⟩, -⟩ := hframe.invariant
    (I := fun _ _ => True) (fun _ _ _ _ _ _ _ _ => ⟨trivial, trivial⟩)
    (@obeys_cycleFrame deps g onDemand runId) trivial
  have hafter : Progress.ofCalls runId (cs₁ ++ cs₂) = (cycleProtocol deps g onDemand).after
      ((cycleProtocol deps g onDemand).after { runId := runId } cs₁) cs₂ :=
    Protocol.after_append (cycleProtocol deps g onDemand) _ cs₁ cs₂
  rw [hafter]
  cases frame with
  | none =>
    obtain ⟨rfl, rfl, rfl⟩ := Exec.pure_iff.1 hrest
    exact ⟨⟨hrecords, happlied⟩, by simp [hmodel.1 rfl]⟩
  | some frame =>
    obtain ⟨⟨hended, hsome⟩, -⟩ := hrest.invariant
      (I := fun _ _ => True) (fun _ _ _ _ _ _ _ _ => ⟨trivial, trivial⟩)
      (obeys_runFrame (hdeliberating frame rfl) hunread) trivial
    refine ⟨hended, hsome.trans ?_⟩
    have hne : w.runtime.model ≠ "" := fun heq => by simpa using hmodel.2 heq
    simp [hne]

/-- What a cycle stores and keeps, when others spare its greenhouse. -/
theorem stored_of_exec (hspares : Spares g rely)
    (h : Exec (Sharing rely) (runCycle deps g runId onDemand) w cs res w') :
    Stored g w w' (Progress.ofCalls runId cs) := by
  have hstored : Stored g w w { runId := runId } := by
    refine ⟨fun r hr => ?_, fun _ => ⟨rfl, rfl, rfl, rfl⟩⟩
    cases hr
  refine (h.invariant (I := Stored g w) ?_ obeys_runCycle hstored).2
  intro s p o r s' hs hpermits he
  exact ⟨trivial, hs.shared hspares hpermits he⟩

/-- **Which cycles end in one well-formed record**: those of a greenhouse whose id is a slug,
under a model with a name. -/
theorem recorded_iff (h : Exec (Sharing rely) (runCycle deps g runId onDemand) w cs res w') :
    (∃ r, WellRecorded deps rely g runId cs w w' r) ↔
      validSlug g = true ∧ w.runtime.model ≠ "" := by
  obtain ⟨hended, hsome⟩ := ended_of_exec h
  rw [← hsome]
  constructor
  · rintro ⟨r, hr⟩
    cases res with
    | none =>
      have hnil := hr.stored.symm.trans hended.1
      cases hnil
    | some r => rfl
  · intro hres
    obtain ⟨r, rfl⟩ := Option.isSome_iff_exists.1 hres
    obtain ⟨hgreenhouse, -, hrecords, hagrees⟩ := hended
    refine ⟨r, hrecords, hgreenhouse, r.outcome.reason, ?_, ?_, ?_, ?_⟩
    · intro happlied
      obtain ⟨plan, hplan, -, ctx, hctx, hcleared⟩ := hagrees.applied happlied
      exact ⟨plan, ctx, hplan, hctx, gates_of_applied hcleared⟩
    · exact fun hne => (hagrees.unapplied hne).1
    · exact fun hspares => (stored_of_exec hspares h).latest r hrecords
    · exact fun hspares hne => (stored_of_exec hspares h).kept (hagrees.unapplied hne).1

end

namespace Bench

/-- The platform does not know the greenhouse. -/
def unknown (w : World) : (o : Op) → Option (Resp o × World)
  | .getPlanningContext _ => some (.ok ⟨404, .error "not found"⟩, w)
  | o => serve .noChange w o

/-- A world in which the platform's answer to a run has come. -/
def accepting : World := { world with replies := [("run-0", ⟨202, ""⟩)] }

theorem sharing_serve {rely : World → World → Prop} (hrely : ∀ w, rely w w) {answer : Proposal}
    (w : World) (o : Op) (r : Resp o) (w' : World) (h : serve answer w o = some (r, w')) :
    Sharing rely w o r w' :=
  sharing_of_effect hrely (effect_serve h)

theorem sharing_unknown (w : World) (o : Op) (r : Resp o) (w' : World)
    (h : unknown w o = some (r, w')) : Sharing Eq w o r w' := by
  refine sharing_of_effect (fun _ => rfl) ?_
  cases o with
  | getPlanningContext g =>
    cases h
    rfl
  | _ => exact @effect_serve .noChange w w' _ r h

end Bench

/-- A cycle without a record: its greenhouse id is not a slug. -/
theorem unrecorded_cycle : ∃ cs w',
    Exec (Sharing Eq) (runCycle Bench.deps "Bad_ID" (some "run-0") true) Bench.world cs
      none w' ∧
    ¬ ∃ r, WellRecorded Bench.deps Eq "Bad_ID" (some "run-0") cs Bench.world w' r := by
  have hrun : ((runCycle Bench.deps "Bad_ID" (some "run-0") true).run? Bench.unknown
      Bench.world).map (fun x => (x.2.1.isNone,
        (Progress.ofCalls (some "run-0") x.1).records.length)) = some (true, 0) := by
    decide
  obtain ⟨⟨cs, res, w'⟩, hrun, hend⟩ := Option.map_eq_some_iff.1 hrun
  obtain ⟨hnone, hempty⟩ := Prod.mk.inj hend
  obtain rfl := Option.isNone_iff_eq_none.1 hnone
  have hexec := Exec.of_run? Bench.sharing_unknown hrun
  refine ⟨cs, w', hexec, ?_⟩
  rintro ⟨r, hr⟩
  rw [hr.stored] at hempty
  cases hempty

theorem recorded_iff_accepting : ∃ cs r w',
    Exec (Sharing Eq) (runCycle Bench.deps "gh-a" (some "run-0") true) Bench.accepting cs
      (some r) w' ∧ r.outcome.status = .applied ∧
    ∃ r, WellRecorded Bench.deps Eq "gh-a" (some "run-0") cs Bench.accepting w' r := by
  have hrun : ((runCycle Bench.deps "gh-a" (some "run-0") true).run?
      (Bench.serve Bench.proposed) Bench.accepting).bind (fun x => x.2.1.map fun r =>
        r.outcome.status) = some .applied := by decide +kernel
  obtain ⟨⟨cs, res, w'⟩, hrun, hend⟩ := Option.bind_eq_some_iff.1 hrun
  obtain ⟨r, rfl, hstatus⟩ := Option.map_eq_some_iff.1 hend
  have hexec := Exec.of_run? (Bench.sharing_serve fun _ => rfl) hrun
  exact ⟨cs, r, w', hexec, hstatus, (recorded_iff hexec).2 ⟨by decide, by decide⟩⟩

end Greenhouse.Optimizer
