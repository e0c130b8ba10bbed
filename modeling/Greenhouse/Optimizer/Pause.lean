import Greenhouse.Optimizer.Tasks

/-!
# Pausing

A paused greenhouse is never written to. A task that is about to send has found the greenhouse
active and has awaited nothing since, so no override can have changed in between.

* `Unpaused`: the greenhouse of a submission is active when it leaves.
* `resumes`: an override that may end a pause.
* `sends_unpaused`: over every interleaving of the tasks with the operator's overrides.
-/

namespace Greenhouse.Optimizer

open Greenhouse.Process

/-- What a step sends. -/
def sends : Event Scheduler.Task Op Resp Outside → Option Submission
  | .perform _ ⟨.send s, _⟩ | .resume _ ⟨.send s, _⟩ => some s
  | _ => none

/-- The greenhouse of a submission is active when it leaves. -/
def Unpaused (l : Loop Scheduler.Task Op Resp Unit World)
    (e : Event Scheduler.Task Op Resp Outside) : Prop :=
  ∀ s ∈ sends e, l.world.runtime.isGreenhouseActive s.greenhouseId = true

/-- What the running task knows of its greenhouse is so. -/
def Current (w : World) (qs : Scheduler.Task → TaskState) (turn : Option Scheduler.Task) : Prop :=
  ∀ i g onDemand p, turn = some i → qs i = .running g onDemand p → p.active = true →
    w.runtime.isGreenhouseActive g = true

/-- No task changes an override. -/
theorem runtime_of_effect {w w' : World} {o : Op} {r : Resp o} (h : Effect w o r w') :
    w'.runtime = w.runtime := by
  cases o with
  | receive id =>
    cases r with
    | error failure =>
      obtain rfl := h
      rfl
    | ok reply =>
      obtain ⟨-, rfl⟩ := h
      rfl
  | _ =>
    first
      | obtain rfl := h
        rfl
      | obtain ⟨-, rfl⟩ := h
        rfl

section

variable {deps : Dependencies} {w w' : World} {qs : Scheduler.Task → TaskState}
  {i : Scheduler.Task} {o : Op} {r : Resp o}

/-- A cycle that awaited something no longer knows whether its greenhouse is active. -/
theorem Progress.active_of_awaits {p : Progress} {g : String} {onDemand : Bool}
    (hpermits : p.Permits deps g onDemand o) (h : Awaits o = true) :
    (p.next o r).active = false := by
  cases o <;> first | rfl | exact hpermits.elim | cases h

/-- A cycle knows that its greenhouse is active from asking, or knew it before. -/
theorem Progress.active_of_next {p : Progress} {g : String} {onDemand : Bool}
    (hpermits : p.Permits deps g onDemand o) (he : Effect w o r w')
    (h : (p.next o r).active = true) :
    w.runtime.isGreenhouseActive g = true ∨ p.active = true := by
  cases o with
  | isGreenhouseActive g' =>
    obtain rfl := hpermits
    exact .inl (he.1 ▸ h)
  | _ => first | exact .inr h | cases h

/-- A task that may send runs a cycle whose greenhouse it found active. -/
theorem TaskState.running_of_send {q : TaskState} {s : Submission}
    (hpermits : q.Permits deps (.send s)) : ∃ g onDemand p, q = .running g onDemand p ∧
      p.active = true ∧ s.greenhouseId = g := by
  cases q with
  | running g onDemand p => exact ⟨g, onDemand, p, rfl, hpermits.1, hpermits.2.1⟩
  | _ => exact hpermits.elim

/-- The invariant after a step of a task. -/
theorem Current.step {turn : Option Scheduler.Task} (h : Current w qs turn)
    (hturn : Awaits o = true ∨ turn = some i) (hpermits : (qs i).Permits deps o)
    (he : Effect w o r w') : Current w' (Function.update qs i ((qs i).next o r)) (some i) := by
  intro j g onDemand p hj hq hactive
  cases hj
  rw [Function.update_self] at hq
  rw [runtime_of_effect he]
  rcases TaskState.running_of_next hpermits hq with ⟨_, _, rfl, _⟩ | ⟨p', hq', hp', rfl⟩
  · cases hactive
  · rcases hturn with hawaits | hturn
    · rw [Progress.active_of_awaits hp' hawaits] at hactive
      cases hactive
    · rcases Progress.active_of_next hp' he hactive with hfound | hknown
      · exact hfound
      · exact h i g onDemand p' hturn hq' hknown

end

section

variable {deps : Dependencies} {ticks : Nat} {requested : Nat → String} {world : World}
  {es : List (Event Scheduler.Task Op Resp Outside)} {l : Loop Scheduler.Task Op Resp Unit World}

/-- What the running task knows is so, throughout a run. -/
theorem current_of_run (h : Run (Loop.Step service) (started deps ticks requested world) es l) :
    Pool.Tracks (fun _ : Scheduler.Task => taskProtocol deps) (fun _ => .idle)
        (fun _ q _ => ∃ found runId, q = .free found runId) l.toPool ∧
      Current l.world (l.states (fun _ => taskProtocol deps) fun _ => .idle) l.turn := by
  have hmeets : Run (Meeting (Loop.Step service) fun _ _ => True)
      (started deps ticks requested world) es l := h.mono fun _ _ _ hstep => ⟨hstep, trivial⟩
  refine Loop.invariant (I := Current) ?_ ?_ ?_ ?_ hmeets tracks_started ?_
  · intro l i o r w' hI hawaits hpermits _ he
    exact ⟨trivial, hI.step (.inl hawaits) hpermits he⟩
  · intro l i o r w' hI _ hpermits _ he
    exact ⟨trivial, hI.step (.inr rfl) hpermits he⟩
  · intro w qs i _ _ j g onDemand p hj
    cases hj
  · intro l e w' _ _ _ j g onDemand p hj
    cases hj
  · intro j g onDemand p hj
    cases hj

/-- A submission leaves while its greenhouse is active. -/
theorem unpaused_of_step {e : Event Scheduler.Task Op Resp Outside}
    {l' : Loop Scheduler.Task Op Resp Unit World}
    (h : Run (Loop.Step service) (started deps ticks requested world) es l)
    (hstep : Loop.Step service l e l') : Unpaused l e := by
  intro s hs
  obtain ⟨htracks, hcurrent⟩ := current_of_run h
  cases hstep with
  | @resume i o k r w hturn hleft hawaits henv =>
    obtain rfl : o = .send s := by
      cases o <;> cases hs
      rfl
    cases hawaits
  | @perform i o k r w hturn hleft hawaits henv =>
    obtain rfl : o = .send s := by
      cases o <;> cases hs
      rfl
    have hobeys := htracks i
    rw [hleft] at hobeys
    obtain ⟨g, onDemand, p, hq, hactive, rfl⟩ := TaskState.running_of_send hobeys.1
    exact hcurrent i _ onDemand p hturn hq hactive
  | suspend i hturn hwaits => cases hs
  | outside e hturn hout => cases hs

end

/-! ## After a pause -/

/-- An override that may make a greenhouse active again. -/
def resumes (g : String) : Event Scheduler.Task Op Resp Outside → Bool
  | .outside (.setEnabled enabled) => enabled
  | .outside (.setGreenhouseEnabled g' enabled) => decide (g' = g) && enabled
  | _ => false

/-- A greenhouse stays paused until it is resumed. -/
theorem paused_of_afterOutside {w : World} {g : String} {e : Outside}
    (h : w.runtime.isGreenhouseActive g = false) (hpaused : resumes g (.outside e) = false) :
    (w.afterOutside e).runtime.isGreenhouseActive g = false := by
  cases e with
  | setEnabled enabled =>
    obtain rfl := hpaused
    rfl
  | setGreenhouseEnabled g' enabled =>
    by_cases hg : g' = g
    · subst hg
      obtain rfl : enabled = false := by simpa [resumes] using hpaused
      simp [World.afterOutside, Runtime.setGreenhouseEnabled, Runtime.isGreenhouseActive,
        Runtime.greenhouseEnabled]
    · simpa [World.afterOutside, Runtime.setGreenhouseEnabled, Runtime.isGreenhouseActive,
        Runtime.greenhouseEnabled, Function.update_of_ne (Ne.symm hg)] using h
  | _ => exact h

/-- A step keeps a greenhouse paused that it does not resume. -/
theorem paused_of_step {l l' : Loop Scheduler.Task Op Resp Unit World} {g : String}
    {e : Event Scheduler.Task Op Resp Outside} (hstep : Loop.Step service l e l')
    (h : l.world.runtime.isGreenhouseActive g = false) (hpaused : resumes g e = false) :
    l'.world.runtime.isGreenhouseActive g = false := by
  cases hstep with
  | resume i hturn hleft hawaits henv => exact runtime_of_effect henv ▸ h
  | perform i hturn hleft hawaits henv => exact runtime_of_effect henv ▸ h
  | suspend i hturn hwaits => exact h
  | outside e hturn hout =>
    obtain rfl := hout
    exact paused_of_afterOutside h hpaused

/-- Until a paused greenhouse is resumed, nothing is sent for it. -/
theorem sends_nothing {l l' : Loop Scheduler.Task Op Resp Unit World} {g : String}
    {es : List (Event Scheduler.Task Op Resp Outside)}
    (h : Run (Meeting (Loop.Step service) Unpaused) l es l')
    (hl : l.world.runtime.isGreenhouseActive g = false) (hpaused : ∀ e ∈ es, resumes g e = false) :
    ∀ e ∈ es, ∀ s ∈ sends e, s.greenhouseId ≠ g := by
  induction h with
  | nil => exact List.forall_mem_nil _
  | @cons l t l' e es hone _ ih =>
    obtain ⟨hstep, hunpaused⟩ := hone
    obtain ⟨he, hes⟩ := List.forall_mem_cons.1 hpaused
    refine List.forall_mem_cons.2 ⟨fun s hs hg => ?_, ih (paused_of_step hstep hl he) hes⟩
    have hactive := hunpaused s hs
    rw [hg, hl] at hactive
    cases hactive

/-- **A paused greenhouse is never written to**: whatever overrides are changed at whatever
awaits, every submission leaves while its greenhouse is active, and from a pause until the
greenhouse is resumed nothing is sent for it, whatever was started before. -/
theorem sends_unpaused {deps : Dependencies} {ticks : Nat} {requested : Nat → String}
    {world : World} {es fs : List (Event Scheduler.Task Op Resp Outside)}
    {l l' : Loop Scheduler.Task Op Resp Unit World}
    (h : Run (Loop.Step service) (started deps ticks requested world) es l)
    (h' : Run (Loop.Step service) l fs l') :
    Run (Meeting (Loop.Step service) Unpaused) (started deps ticks requested world) (es ++ fs)
        l' ∧
      ∀ g, l.world.runtime.isGreenhouseActive g = false → (∀ e ∈ fs, resumes g e = false) →
        ∀ e ∈ fs, ∀ s ∈ sends e, s.greenhouseId ≠ g := by
  refine ⟨(h.append h').meeting_of_reached fun _ _ _ _ => unpaused_of_step, ?_⟩
  intro g hpaused hfs
  have hrest : Run (Meeting (Loop.Step service) Unpaused) l fs l' :=
    h'.meeting_of_reached fun _ _ _ _ hreached => unpaused_of_step (h.append hreached)
  exact sends_nothing hrest hpaused hfs

namespace Bench

/-- A scheduled cycle, up to the moment its submission has left; then planning is paused. -/
def sending : List (Loop.Move Scheduler.Task Outside) :=
  moves .planning 9 ++ moves (.dispatched 0) 30 ++ [.outside (.setGreenhouseEnabled "gh-a" false)]

end Bench

theorem sends_unpaused_sending : ∃ es l fs l', Run (Loop.Step service) Bench.start es l ∧
    Run (Loop.Step service) l fs l' ∧ l'.world.requests.length = 1 ∧
    Run (Meeting (Loop.Step service) Unpaused) Bench.start (es ++ fs) l' ∧
    ∀ e ∈ fs, ∀ s ∈ sends e, s.greenhouseId ≠ "gh-a" := by
  have hschedule : ((Loop.schedule (Bench.served Bench.proposed) (fun _ _ => true) Bench.sending
      Bench.start).bind fun x => (Loop.schedule (Bench.served Bench.proposed)
        (fun _ e => decide (resumes "gh-a" e = false)) (Bench.moves (.dispatched 0) 3) x.2).map
          fun y => (x.2.world.runtime.isGreenhouseActive "gh-a", y.2.world.requests.length)) =
      some (false, 1) := by decide +kernel
  obtain ⟨⟨es, l⟩, hsending, hrest⟩ := Option.bind_eq_some_iff.1 hschedule
  obtain ⟨⟨fs, l'⟩, hlater, hend⟩ := Option.map_eq_some_iff.1 hrest
  obtain ⟨hpaused, hrequests⟩ := Prod.mk.inj hend
  have h := (Loop.run_of_schedule (Bench.allows_served _) hsending).mono fun _ _ _ h => h.1
  have hmeets := Loop.run_of_schedule (Bench.allows_served _) hlater
  have hfs : ∀ e ∈ fs, resumes "gh-a" e = false := fun e he =>
    of_decide_eq_true (hmeets.forall_of_meeting e he)
  obtain ⟨hunpaused, hnothing⟩ := sends_unpaused h (hmeets.mono fun _ _ _ h => h.1)
  exact ⟨es, l, fs, l', h, hmeets.mono fun _ _ _ h => h.1, hrequests, hunpaused,
    hnothing "gh-a" hpaused hfs⟩

end Greenhouse.Optimizer
