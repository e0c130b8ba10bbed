import Greenhouse.Platform.Broadcast

/-!
# Retiring a greenhouse

The registry of known greenhouses and the live view have a lock each. A message handler checks
the registry once and then updates the view, several times, each update making the entry if there
is none; `Remove` deletes the greenhouse from the registry and then its entry. The handlers, the
liveness loop, registrations and removals run in any interleaving.

* `sparing`: what leaves a greenhouse without an entry, as long as it is not known.
* `spares_program`: a handler that has not passed its check spares a greenhouse, and so does
  everything else.
* `no_ghost`: **a removal that meets no handler past its check is final.**
* `ghost_of_handler`: a handler that has passed its check brings the greenhouse back.
-/

namespace Greenhouse.Platform.Ingester

open Greenhouse.Numeric Greenhouse.Contract Greenhouse.Process Prog Std

/-! ## Operations -/

/-- The operations on the registry and on the live view. -/
inductive MemberOp where
  | live (o : Op)
  | isKnown (id : String)
  | add (id : String)
  | forget (id : String)
  | drop (id : String)

abbrev MemberResp : MemberOp → Type
  | .live o => Resp o
  | .isKnown _ => Bool
  | _ => Unit

abbrev MemberProgram := Prog MemberOp MemberResp Unit

/-- The live view with the registry. -/
structure Site where
  world : World
  known : String → Bool

/-- What an operation on the registry or on the view does. -/
def Site.Effect (s : Site) : (o : MemberOp) → MemberResp o → Site → Prop
  | .live o, r, s' => Ingester.Effect s.world o r s'.world ∧ s'.known = s.known
  | .isKnown id, r, s' => r = s.known id ∧ s' = s
  | .add id, _, s' => s' = { s with known := Function.update s.known id true }
  | .forget id, _, s' => s' = { s with known := Function.update s.known id false }
  | .drop id, _, s' => s' = { s with world := s.world.on (s.world.fleet.remove id) }

/-! ## The goroutines -/

/-- The handler of a message: the check of the topic and of the registry, then the handler of a
known greenhouse. -/
def handleMessage [Rfc3339] (message : Message) : MemberProgram :=
  match parseTopic message.topic with
  | none => return ()
  | some info => do
    if ← call (MemberOp.isKnown info.greenhouseId) then
      (handle [info.greenhouseId] message).hoist MemberOp.live
    else return ()

/-- Retire a greenhouse. What the broker retains of it is not modelled. -/
def remove (id : String) : MemberProgram := do
  call (MemberOp.forget id)
  call (MemberOp.drop id)

/-- What runs beside a removal. -/
inductive Role where
  | handler (message : Message)
  | liveness (ticks : ℕ)
  | registration (id : String)
  | removal (id : String)

def Role.program [Rfc3339] : Role → MemberProgram
  | handler message => handleMessage message
  | liveness ticks => (runLiveness ticks).hoist MemberOp.live
  | registration id => call (MemberOp.add id)
  | removal id => remove id

/-! ## Sparing a greenhouse -/

/-- The greenhouse whose entry an operation makes, if there is none. -/
def Op.updates? : Op → Option String
  | .setTemperature id _ => some id
  | .setHumidity id _ => some id
  | .setCO2 id _ => some id
  | .setDLI id _ => some id
  | .setControllerMode id _ => some id
  | .setActuatorHealth id _ _ _ => some id
  | .setSensorFaults id _ _ => some id
  | .setActiveFaults id _ _ => some id
  | .observe id _ => some id
  | .setDegraded id _ _ => some id
  | .setTimeScale id _ => some id
  | _ => none

/-- The operation makes no entry of the greenhouse. -/
def Op.Spares (id : String) (o : Op) : Prop := o.updates? ≠ some id

/-- No entry of a greenhouse is made, as long as the registry does not have it. -/
def sparing (id : String) : Protocol MemberOp MemberResp Unit where
  permits _
    | .live o => o.Spares id
    | _ => True
  answers _
    | .isKnown g, found => g = id → found = false
    | _, _ => True
  next _ _ _ := ()

/-- What is left to do makes no entry of a greenhouse that the registry does not have. -/
def Spares (id : String) (p : MemberProgram) : Prop := p.Obeys (sparing id) () fun _ _ => True

section Spares

variable {id g : String}

theorem spares_hoist {p : Program} (h : p.Uses (Op.Spares id)) :
    Spares id (p.hoist MemberOp.live) := by
  rw [Spares, obeys_hoist]
  exact Obeys.of_uses (fun o ho => ⟨ho, fun _ _ => rfl⟩) h fun _ => trivial

theorem uses_onlyIf {c : Bool} {p : Program} (h : p.Uses (Op.Spares id)) :
    (onlyIf c p).Uses (Op.Spares id) := by
  cases c with
  | false => exact uses_pure
  | true => exact h

theorem spares_none {o : Op} (h : o.updates? = none) : o.Spares id := by
  rw [Op.Spares, h]
  exact (Option.some_ne_none id).symm

theorem spares_other {o : Op} (h : o.updates? = some g) (hne : g ≠ id) : o.Spares id := by
  rw [Op.Spares, h]
  exact fun hsome => hne (Option.some.inj hsome)

theorem uses_announce {changed : Bool} {ts : Int} {live : Live} :
    (announce changed g ts live).Uses (Op.Spares id) :=
  uses_onlyIf (uses_call.2 (spares_none rfl))

theorem uses_announceAll {now : Int} {changed : List (String × Live)} :
    (announceAll now changed).Uses (Op.Spares id) := by
  induction changed with
  | nil => exact uses_pure
  | cons live rest ih => exact (uses_call.2 (spares_none rfl)).bind fun _ => ih

theorem uses_runLiveness {ticks : ℕ} : (runLiveness ticks).Uses (Op.Spares id) := by
  induction ticks with
  | zero => exact uses_pure
  | succ n ih =>
    refine (uses_call.2 (spares_none rfl)).bind fun now => ?_
    refine Uses.bind ?_ fun _ => ih
    exact (uses_call.2 (spares_none rfl)).bind fun _ => uses_announceAll

section Handlers

variable [Rfc3339] {data : Document} {now : Int}

omit [Rfc3339] in
theorem uses_note {reading : Reading} (hne : reading.greenhouseId ≠ id) :
    (note reading).Uses (Op.Spares id) := by
  have hother : ∀ {o : Op}, o.updates? = some reading.greenhouseId →
      (call o : Prog Op Resp _).Uses (Op.Spares id) := fun ho =>
    uses_call.2 (spares_other ho hne)
  simp only [note]
  split
  · exact uses_pure
  · split
    · exact hother rfl
    · split
      · exact hother rfl
      · split
        · exact hother rfl
        · exact uses_pure

omit [Rfc3339] in
/-- What is kept is of the greenhouse of the topic. -/
theorem id_of_matched {α : Type} {decoded : Option α} {greenhouse : α → String} {a : α}
    (h : decoded.bind (matched g greenhouse) = some a) : greenhouse a = g := by
  obtain ⟨b, -, hb⟩ := Option.bind_eq_some_iff.1 h
  rw [matched] at hb
  split at hb
  · rename_i hg
    cases hb
    exact hg
  · cases hb

theorem uses_onReading (hne : g ≠ id) : (onReading data g now).Uses (Op.Spares id) := by
  unfold onReading
  split
  · exact uses_pure
  · rename_i reading hreading
    have hother : reading.greenhouseId ≠ id := by
      rw [id_of_matched hreading]
      exact hne
    refine (uses_call.2 (spares_none rfl)).bind fun _ => (uses_note hother).bind fun _ => ?_
    refine (uses_call.2 (spares_other rfl hother)).bind fun _ => ?_
    exact (uses_call.2 (spares_none rfl)).bind fun _ => uses_announce

theorem uses_onActuator (hne : g ≠ id) : (onActuator data g now).Uses (Op.Spares id) := by
  unfold onActuator
  split
  · exact uses_pure
  · rename_i sample hsample
    have hother : sample.greenhouseId ≠ id := by
      rw [id_of_matched hsample]
      exact hne
    refine (uses_call.2 (spares_none rfl)).bind fun _ => ?_
    refine (uses_onlyIf (uses_call.2 (spares_other rfl hother))).bind fun _ => ?_
    refine (uses_call.2 (spares_other rfl hother)).bind fun _ => ?_
    exact (uses_call.2 (spares_none rfl)).bind fun _ => uses_announce

theorem uses_onFault (hne : g ≠ id) : (onFault data g now).Uses (Op.Spares id) := by
  unfold onFault
  split
  · exact uses_pure
  · rename_i event hevent
    have hother : event.greenhouseId ≠ id := by
      rw [id_of_matched hevent]
      exact hne
    refine (uses_call.2 (spares_none rfl)).bind fun _ => ?_
    refine (uses_call.2 (spares_other rfl hother)).bind fun _ => ?_
    exact (uses_call.2 (spares_none rfl)).bind fun _ => uses_announce

omit [Rfc3339] in
theorem uses_applyState {payload : SystemStatePayload} {ts : Int}
    (hne : payload.env.greenhouseId ≠ id) : (applyState payload ts now).Uses (Op.Spares id) := by
  have hother : ∀ {o : Op}, o.updates? = some payload.env.greenhouseId →
      (call o : Prog Op Resp _).Uses (Op.Spares id) := fun ho =>
    uses_call.2 (spares_other ho hne)
  have hnote : (noteState payload.env.greenhouseId payload).Uses (Op.Spares id) := by
    refine (uses_onlyIf (hother rfl)).bind fun _ => (uses_onlyIf (hother rfl)).bind fun _ => ?_
    exact (uses_onlyIf (hother rfl)).bind fun _ => uses_onlyIf (hother rfl)
  have halerts : (announceAlerts payload.env.greenhouseId ts).Uses (Op.Spares id) :=
    (uses_call.2 (spares_none rfl)).bind fun _ => uses_call.2 (spares_none rfl)
  refine (hother rfl).bind fun _ => hnote.bind fun _ => (hother rfl).bind fun _ => ?_
  refine (hother rfl).bind fun _ => (hother rfl).bind fun _ => ?_
  exact (uses_onlyIf halerts).bind fun _ => (hother rfl).bind fun _ => uses_announce

theorem uses_onState (hne : g ≠ id) : (onState data g now).Uses (Op.Spares id) := by
  unfold onState
  split
  · exact uses_pure
  · rename_i payload ts _
    split
    · exact uses_pure
    · rename_i found hmatched
      rw [matched] at hmatched
      split at hmatched
      · rename_i hg
        cases hmatched
        exact uses_applyState (hg.symm ▸ hne)
      · cases hmatched

/-- The handler of a greenhouse makes no entry of another one. -/
theorem uses_handle {known : List String} {message : Message} {info : TopicInfo}
    (htopic : parseTopic message.topic = some info) (hne : info.greenhouseId ≠ id) :
    (handle known message).Uses (Op.Spares id) := by
  simp only [handle, htopic]
  split
  · cases info.kind with
    | sensorHouse => exact uses_onReading hne
    | sensorZone => exact uses_onReading hne
    | actuator => exact uses_onActuator hne
    | fault => exact uses_onFault hne
    | state => exact uses_onState hne
  · exact uses_pure

/-- **A handler that has not made its check spares a greenhouse that is not known.** -/
theorem spares_handleMessage (message : Message) : Spares id (handleMessage message) := by
  unfold handleMessage
  split
  · exact trivial
  · rename_i info htopic
    rw [Spares, obeys_bind, obeys_call]
    refine ⟨trivial, fun found hfound => ?_⟩
    cases found with
    | false => exact trivial
    | true =>
      have hne : info.greenhouseId ≠ id := fun hid => Bool.false_ne_true (hfound hid).symm
      exact spares_hoist (uses_handle htopic hne)

/-- **Whatever starts spares a greenhouse that is not known.** -/
theorem spares_program (role : Role) : Spares id role.program := by
  cases role with
  | handler message => exact spares_handleMessage message
  | liveness ticks => exact spares_hoist uses_runLiveness
  | registration g => exact ⟨trivial, fun _ _ => trivial⟩
  | removal g => exact ⟨trivial, fun _ _ => ⟨trivial, fun _ _ => trivial⟩⟩

end Handlers

end Spares

/-! ## The entry of a greenhouse -/

section Absent

variable {id g : String} {f : Fleet} {ent : Entry}

/-- The view has no entry for the greenhouse. -/
def Absent (f : Fleet) (id : String) : Prop := f.entries[id]? = none

theorem absent_put (h : Absent f id) (hne : g ≠ id) : Absent (f.put g ent) id := by
  have hne : compare g id ≠ .eq := fun heq => hne (LawfulEqOrd.eq_of_compare heq)
  rw [Absent, Fleet.put, TreeMap.getElem?_insert, if_neg hne]
  exact h

theorem absent_sweep (h : Absent f id) (now : Int) : Absent (f.sweep now).1 id := by
  show (f.entries.map _)[id]? = none
  rw [TreeMap.getElem?_map, h]
  rfl

theorem absent_remove (f : Fleet) (id : String) : Absent (f.remove id) id := by
  rw [Absent, Fleet.remove, TreeMap.getElem?_erase_self]

theorem absent_remove_other (h : Absent f id) (g : String) : Absent (f.remove g) id := by
  rw [Absent, Fleet.remove, TreeMap.getElem?_erase]
  split
  · rfl
  · exact h

/-- **An operation that spares a greenhouse leaves it without an entry.** -/
theorem absent_effect {w w' : World} {o : Op} {r : Resp o} (heffect : Ingester.Effect w o r w')
    (h : Absent w.fleet id) (hspares : o.Spares id) : Absent w'.fleet id := by
  have hput : ∀ {g : String} {ent : Entry}, o.updates? = some g → Absent (w.fleet.put g ent) id :=
    fun {g} _ hg => absent_put h fun heq => hspares (by rw [hg, heq])
  cases o with
  | receive =>
    obtain rfl : w' = w := heffect
    exact h
  | tick =>
    obtain rfl : w' = w := heffect
    exact h
  | sweep now =>
    obtain ⟨-, rfl⟩ := heffect
    exact absent_sweep h now
  | push record =>
    obtain ⟨_, heq⟩ := heffect
    cases heq
    exact h
  | snapshot id =>
    obtain ⟨_, heq⟩ := heffect
    cases heq
    exact h
  | broadcast frame =>
    obtain ⟨_, heq⟩ := heffect
    cases heq
    exact h
  | _ =>
    obtain ⟨_, heq⟩ := heffect
    cases heq
    exact hput rfl

end Absent

/-! ## Interleavings -/

section Interleavings

variable {ι : Type} [DecidableEq ι] {id : String}

abbrev MemberPool (ι : Type) := Pool ι MemberOp MemberResp Unit Site

/-- Some goroutines that are about to start. -/
def begin [Rfc3339] (s : Site) (role : ι → Role) : MemberPool ι where
  world := s
  left i := (role i).program

/-- When the goroutine `k` drops the entry of the greenhouse, no handler that has passed its check
has an update of it still to come. -/
def Unhurried (k : ι) (id : String) (p : MemberPool ι) (i : ι)
    (c : Call MemberOp MemberResp) : Prop :=
  i = k → c.op = .drop id → ∀ j, j ≠ k → Spares id (p.left j)

/-- The registration of the greenhouse. -/
def Registers (id : String) (e : ι × Call MemberOp MemberResp) : Prop := e.2.op = .add id

/-- A greenhouse that is neither known nor in the view. -/
def Gone (id : String) (s : Site) : Prop := s.known id = false ∧ Absent s.world.fleet id

variable {s s' : Site} {o : MemberOp} {r : MemberResp o}

/-- Nothing but a registration makes a greenhouse known. -/
theorem unknown_step (heffect : s.Effect o r s') (h : s.known id = false) (ho : o ≠ .add id) :
    s'.known id = false := by
  cases o with
  | live o =>
    obtain ⟨-, hknown⟩ := heffect
    rw [hknown]
    exact h
  | isKnown g =>
    obtain ⟨-, rfl⟩ := heffect
    exact h
  | add g =>
    obtain rfl := heffect
    have hne : id ≠ g := fun heq => ho (by rw [heq])
    exact (Function.update_of_ne hne _ _).trans h
  | forget g =>
    obtain rfl := heffect
    by_cases hg : id = g
    · subst hg
      exact Function.update_self _ _ _
    · exact (Function.update_of_ne hg _ _).trans h
  | drop g =>
    obtain rfl := heffect
    exact h

/-- **A greenhouse that is gone stays so** under what spares it. -/
theorem gone_step (heffect : s.Effect o r s') (h : Gone id s)
    (hpermits : (sparing id).permits () o) (ho : o ≠ .add id) :
    (sparing id).answers () o r ∧ Gone id s' := by
  have hunknown := unknown_step heffect h.1 ho
  cases o with
  | live o => exact ⟨trivial, hunknown, absent_effect heffect.1 h.2 hpermits⟩
  | isKnown g =>
    obtain ⟨rfl, rfl⟩ := heffect
    refine ⟨fun hg => ?_, h⟩
    rw [hg]
    exact h.1
  | add g =>
    obtain rfl := heffect
    exact ⟨trivial, hunknown, h.2⟩
  | forget g =>
    obtain rfl := heffect
    exact ⟨trivial, hunknown, h.2⟩
  | drop g =>
    obtain rfl := heffect
    exact ⟨trivial, hunknown, absent_remove_other h.2 g⟩

section Runs

variable {C : Pool.Condition ι MemberOp MemberResp Unit Site} {p p' : MemberPool ι}
  {es : List (ι × Call MemberOp MemberResp)}

/-- Without a registration an unknown greenhouse stays unknown. -/
theorem unknown_run (h : Run (Pool.StepIf Site.Effect C) p es p')
    (hadd : ∀ e ∈ es, ¬ Registers id e) (hunknown : p.world.known id = false) :
    p'.world.known id = false := by
  have hmeeting := h.meeting_of_forall (C := fun _ e => ¬ Registers id e) (fun _ _ he => he) hadd
  refine hmeeting.invariant_of_meeting (I := fun p => p.world.known id = false) ?_ hunknown
  rintro p ⟨i, c⟩ p' hunknown ⟨⟨i, hleft, heffect⟩, -⟩ hother
  exact unknown_step heffect hunknown hother

/-- **What is gone stays gone**, if all that is left to do spares it and nothing registers it. -/
theorem gone_run (h : Run (Pool.StepIf Site.Effect C) p es p')
    (hadd : ∀ e ∈ es, ¬ Registers id e) (hspares : ∀ j, Spares id (p.left j))
    (hgone : Gone id p.world) : Gone id p'.world := by
  have hmeeting := h.meeting_of_forall (C := fun _ e => ¬ Registers id e) (fun _ _ he => he) hadd
  have hrun : Run (Pool.StepIf Site.Effect fun _ i c => ¬ Registers id (i, c)) p es p' :=
    hmeeting.mono fun _ _ _ hone => ⟨hone.1.1, hone.2⟩
  have htracks : Pool.Tracks (fun _ => sparing id) (fun _ => ()) (fun _ _ _ => True) p := hspares
  have hend := Pool.invariant (I := fun s _ => Gone id s)
    (fun p i o r s' hI hpermits hC heffect => gone_step heffect hI hpermits hC) hrun htracks hgone
  exact hend.2

end Runs

/-- **A removal that meets no handler past its check is final.** Once it has returned, with no
registration after it, the view has no entry for the greenhouse. -/
theorem no_ghost [Rfc3339] (s : Site) (role : ι → Role) {k : ι} (hk : role k = .removal id)
    {es : List (ι × Call MemberOp MemberResp)} {p : MemberPool ι}
    (h : Run (Pool.StepIf Site.Effect (Unhurried k id)) (begin s role) es p)
    (hreturned : (p.left k).returned? = some ())
    (hadd : ∀ before r after, es = before ++ (k, ⟨.forget id, r⟩) :: after →
      ∀ e ∈ after, ¬ Registers id e) :
    Absent p.world.world.fleet id := by
  have hleft : (begin s role).left k = .op (.forget id) fun _ => call (MemberOp.drop id) := by
    show (role k).program = _
    rw [hk]
    rfl
  obtain ⟨before, r, after, q, q', rfl, -, ⟨hforget, -⟩, hafter, hdrop⟩ :=
    Pool.performed h hleft hreturned
  have hadd := hadd before r after rfl
  have hunknown : q'.world.known id = false := by
    obtain ⟨_, _, rfl⟩ := hforget
    exact Function.update_self _ _ _
  obtain ⟨between, r', last, t, t', rfl, hbetween, ⟨hstep, hC⟩, hlast, hret⟩ :=
    Pool.performed hafter hdrop hreturned
  have hunknown := unknown_run hbetween (fun e he => hadd e (List.mem_append_left _ he)) hunknown
  have hspares := hC rfl rfl
  obtain ⟨hleft', hgone⟩ : (∀ j, j ≠ k → t'.left j = t.left j) ∧ Gone id t'.world := by
    obtain ⟨_, _, rfl⟩ := hstep
    exact ⟨fun j hj => Pool.left_advance_of_ne hj, hunknown, absent_remove _ id⟩
  have hspares' : ∀ j, Spares id (t'.left j) := by
    intro j
    by_cases hj : j = k
    · rw [hj, hret]
      exact trivial
    · rw [hleft' j hj]
      exact hspares j hj
  have hlater : ∀ e ∈ last, ¬ Registers id e := fun e he =>
    hadd e (List.mem_append_right _ (List.mem_cons_of_mem _ he))
  exact (gone_run hlast hlater hspares' hgone).2

end Interleavings

/-! ## Two runs -/

/-- Serve an operation, with the messages and ticks that arrive. -/
def Site.serve (arrivals : World → Message × Int) (s : Site) : (o : MemberOp) → MemberResp o × Site
  | .live o => ((s.world.serve arrivals o).1, { s with world := (s.world.serve arrivals o).2 })
  | .isKnown id => (s.known id, s)
  | .add id => ((), { s with known := Function.update s.known id true })
  | .forget id => ((), { s with known := Function.update s.known id false })
  | .drop id => ((), { s with world := s.world.on (s.world.fleet.remove id) })

theorem effect_siteServe (arrivals : World → Message × Int) (s : Site) (o : MemberOp) :
    s.Effect o (s.serve arrivals o).1 (s.serve arrivals o).2 := by
  cases o with
  | live o => exact ⟨effect_serve arrivals s.world o, rfl⟩
  | isKnown id => exact ⟨rfl, rfl⟩
  | _ => exact rfl

section Bench

attribute [local instance] Controller.Bench.gregorian

/-- A handler and a removal. -/
inductive Party where
  | handler
  | remover
deriving DecidableEq

/-- A reading of `gh-a` arrives, and `gh-a` is retired. -/
def benchRetirement : MemberPool Party :=
  begin { world := { fleet := { offlineAfter := 30000000000 } }, known := (· = "gh-a") }
    fun
    | .handler => .handler (benchReading 0)
    | .remover => .removal "gh-a"

/-- No message arrives beside the one that is handled. -/
def benchSilence (_ : World) : Message × Int := (benchReading 0, 0)

/-- The handler has returned before the entry is dropped. -/
def afterHandler (p : MemberPool Party) (_ : Party) (c : Call MemberOp MemberResp) : Bool :=
  match c.op with
  | .drop _ => (p.left .handler).returned?.isSome
  | _ => true

theorem unhurried_of_afterHandler (p : MemberPool Party) (i : Party)
    (c : Call MemberOp MemberResp) (h : afterHandler p i c = true) :
    Unhurried .remover "gh-a" p i c := by
  intro _ hdrop j hj
  rw [afterHandler, hdrop] at h
  cases j with
  | remover => exact absurd rfl hj
  | handler =>
    cases hleft : p.left .handler with
    | ret a => exact trivial
    | op o k =>
      simp only [hleft] at h
      cases h

/-- The calls of a schedule have no registration. -/
def unregistered (es : List (Party × Call MemberOp MemberResp)) : Bool :=
  es.all fun e => match e.2.op with
    | .add _ => false
    | _ => true

theorem not_registers {es : List (Party × Call MemberOp MemberResp)} (h : unregistered es = true) :
    ∀ e ∈ es, ¬ Registers "gh-a" e := by
  intro e he hadd
  have hno := List.all_eq_true.1 h e he
  rw [Registers] at hadd
  simp only [hadd] at hno
  cases hno

/-- Both have returned, and nothing has registered the greenhouse. -/
def ended (x : List (Party × Call MemberOp MemberResp) × MemberPool Party) : Bool :=
  unregistered x.1 && decide (x.2.left .handler).returned?.isSome &&
    decide ((x.2.left .remover).returned? = some ())

/-- The handler returns, and then the greenhouse is retired. -/
def handledFirst : List Party := List.replicate 6 .handler ++ List.replicate 2 .remover

/-- **The entry is gone** if the removal comes after the handler. -/
theorem no_ghost_handledFirst : ∃ es p,
    Run (Pool.StepIf Site.Effect (Unhurried .remover "gh-a")) benchRetirement es p ∧
      es.length = 8 ∧ Absent p.world.world.fleet "gh-a" := by
  have hsample : (Pool.scheduleIf (Site.serve benchSilence) afterHandler handledFirst
      benchRetirement).any (fun x => ended x && decide (x.1.length = 8)) = true := by
    decide +kernel
  obtain ⟨⟨es, p⟩, hschedule, hends⟩ := Option.any_eq_true _ _ |>.1 hsample
  obtain ⟨hended, hlength⟩ := Bool.and_eq_true_iff.1 hends
  obtain ⟨hlive, hreturned⟩ := Bool.and_eq_true_iff.1 hended
  have hnone := not_registers (Bool.and_eq_true_iff.1 hlive).1
  have hreturned : (p.left .remover).returned? = some () := of_decide_eq_true hreturned
  have hr := Pool.run_of_scheduleIf (effect_siteServe benchSilence) unhurried_of_afterHandler
    hschedule
  refine ⟨es, p, hr, of_decide_eq_true hlength, ?_⟩
  refine no_ghost _ _ ?_ hr hreturned fun before r after hes e he => ?_
  · rfl
  · exact hnone e (hes ▸ List.mem_append_right before (List.mem_cons_of_mem _ he))

/-- The greenhouse is retired after the check of the handler. -/
def retiredMeanwhile : List Party :=
  [.handler, .remover, .remover] ++ List.replicate 5 .handler

/-- **A greenhouse that is retired has an entry**, when the handler and the removal have returned
and nothing has registered it again. -/
theorem ghost_of_handler : ∃ es p, Run (Pool.Step Site.Effect) benchRetirement es p ∧
    (∀ j, (p.left j).returned?.isSome) ∧ (∀ e ∈ es, ¬ Registers "gh-a" e) ∧
      p.world.known "gh-a" = false ∧ ¬ Absent p.world.world.fleet "gh-a" := by
  have hsample : (Pool.schedule (Site.serve benchSilence) retiredMeanwhile benchRetirement).any
      (fun x => ended x && !x.2.world.known "gh-a" &&
        (x.2.world.world.fleet.entries["gh-a"]?).isSome) = true := by
    decide +kernel
  obtain ⟨⟨es, p⟩, hschedule, hends⟩ := Option.any_eq_true _ _ |>.1 hsample
  obtain ⟨hends, hentry⟩ := Bool.and_eq_true_iff.1 hends
  obtain ⟨hended, hunknown⟩ := Bool.and_eq_true_iff.1 hends
  obtain ⟨hlive, hreturned⟩ := Bool.and_eq_true_iff.1 hended
  obtain ⟨hnone, hhandler⟩ := Bool.and_eq_true_iff.1 hlive
  refine ⟨es, p, Pool.run_of_schedule (effect_siteServe benchSilence) hschedule, ?_,
    not_registers hnone, by simpa using hunknown, ?_⟩
  · intro j
    cases j with
    | handler => exact of_decide_eq_true hhandler
    | remover =>
      have hret : (p.left .remover).returned? = some () := of_decide_eq_true hreturned
      rw [hret]
      rfl
  · intro habsent
    have habsent : p.world.world.fleet.entries["gh-a"]? = none := habsent
    simp only [habsent] at hentry
    cases hentry

end Bench

end Greenhouse.Platform.Ingester
