import Greenhouse.Controller.Bench
import Greenhouse.Controller.RunLoop

/-!
# The clamps of a tick

A `clamp` panics unless its lower bound is at most the upper one, which fails for bounds
that are not numbers. Of the bounds a tick clamps to, three come from the configuration
through checks that let a NaN pass: the humidity bounds and the clamp of the integral.

* `Pipeline.tick_isSome_iff`: a tick panics on these bounds and on nothing else.
* `neverPanics_iff`: no tick of any run panics exactly when the three are numbers.
-/

namespace Greenhouse.Controller

open Greenhouse.Numeric Greenhouse.Process Std

/-! ## The sites -/

theorem isSome_clamp?_iff (x lo hi : F64) : (x.clamp? lo hi).isSome ↔ lo ≤ hi := by
  unfold F64.clamp?
  split
  case isTrue h => exact iff_of_true rfl h
  case isFalse h => exact iff_of_false Bool.false_ne_true h

/-- The setpoints resolve unless a temperature meets humidity bounds out of order. -/
theorem isSome_resolve_iff [Libm] {setpoints : Setpoints} {clock : Clock}
    {temperature : Option F64} :
    (resolve setpoints clock temperature).isSome ↔
      temperature = none ∨ setpoints.humidityLowPct ≤ setpoints.humidityHighPct := by
  cases temperature with
  | none => exact iff_of_true rfl (Or.inl rfl)
  | some t =>
    have hclamp := isSome_clamp?_iff
      (100 * (1 - setpoints.vpdTargetKpa / saturationVaporPressureKpa t))
      setpoints.humidityLowPct setpoints.humidityHighPct
    rw [or_iff_right (Option.some_ne_none t), ← hclamp]
    change ((humidityTarget setpoints t).map some >>= _).isSome ↔
      (humidityTarget setpoints t).isSome
    cases humidityTarget setpoints t with
    | none => exact Iff.rfl
    | some target => exact Iff.rfl

/-- The temperature loop runs unless a temperature meets a clamp out of order. -/
theorem TemperatureLoop.isSome_compute_iff (l : TemperatureLoop) (trusted : TrustedState)
    (resolved : ResolvedSetpoints) (cfg : Config) :
    (l.compute trusted resolved cfg).isSome ↔
      trusted.temperature = none ∨ -l.pid.integralClamp ≤ l.pid.integralClamp := by
  unfold compute
  cases trusted.temperature with
  | none => exact iff_of_true rfl (Or.inl rfl)
  | some t =>
    have hclamp := isSome_clamp?_iff
      (l.pid.integral + (resolved.temperatureC - t) * F64.ofNat dtSecs)
      (-l.pid.integralClamp) l.pid.integralClamp
    rw [or_iff_right (Option.some_ne_none t), ← hclamp]
    dsimp only [Pid.update]
    cases (l.pid.integral + (resolved.temperatureC - t) * F64.ofNat dtSecs).clamp?
      (-l.pid.integralClamp) l.pid.integralClamp with
    | none => exact Iff.rfl
    | some integral =>
      refine iff_of_true ?_ rfl
      dsimp only [Option.bind_eq_bind, Option.bind_some]
      split <;> rfl

/-- The loop keeps the clamp of its integral. -/
theorem TemperatureLoop.compute_integralClamp {l l' : TemperatureLoop} {trusted : TrustedState}
    {resolved : ResolvedSetpoints} {cfg : Config} {heater cooling : F64} {faults : List Fault}
    (h : l.compute trusted resolved cfg = some (l', heater, cooling, faults)) :
    l'.pid.integralClamp = l.pid.integralClamp := by
  have hnote : ∀ (l : TemperatureLoop) (saturated : Bool),
      (l.noteSaturation saturated cfg).1.pid = l.pid := by
    intro l saturated
    unfold noteSaturation
    split <;> rfl
  unfold compute at h
  split at h
  · cases h
    rfl
  · obtain ⟨⟨pid, output⟩, hpid, h⟩ := Option.bind_eq_some_iff.1 h
    obtain ⟨integral, -, hpid⟩ := Option.bind_eq_some_iff.1 hpid
    cases hpid
    dsimp only at h
    split at h
    · cases h
      rw [hnote]
    · cases h
      rw [hnote]

/-- The light loop never panics: it clamps between sunrise and sunset, when the one is before
the other. -/
theorem LightingLoop.isSome_decide [Libm] (l : LightingLoop) (trusted : TrustedState)
    (resolved : ResolvedSetpoints) (clock : Clock) (cfg : Config) :
    (l.decide trusted resolved clock cfg).isSome := by
  unfold LightingLoop.decide
  dsimp only
  split
  · rfl
  · rw [Option.isSome_map]
    unfold expectedRemainingNaturalDli
    dsimp only
    split
    case isTrue => rfl
    case isFalse h =>
      rw [Option.isSome_map, isSome_clamp?_iff]
      obtain ⟨hwindow, -⟩ := not_or.1 h
      rw [F64.zero_eq] at hwindow
      simp only [F64.ofNat, F64.ofNat_lit, F64.fin_mul_fin, F64.fin_sub_fin,
        F64.fin_le_fin] at hwindow ⊢
      linarith

/-! ## One tick -/

/-- The clamp of the integral in force. -/
def ControlState.integralClamp (s : ControlState) : F64 := s.temperature.pid.integralClamp

/-- The loops run unless a temperature meets a clamp of the integral out of order. -/
theorem ControlState.isSome_run_iff [Libm] {s : ControlState} {trusted : TrustedState}
    {resolved : ResolvedSetpoints} {cfg : Config} {clock : Clock} :
    (s.run trusted resolved cfg clock).isSome ↔
      trusted.temperature = none ∨ -s.integralClamp ≤ s.integralClamp := by
  unfold integralClamp
  rw [← s.temperature.isSome_compute_iff trusted resolved cfg]
  constructor
  · intro h
    obtain ⟨out, h⟩ := Option.isSome_iff_exists.1 h
    obtain ⟨_, htemp, _⟩ := Option.bind_eq_some_iff.1 h
    obtain ⟨_, hcompute, _⟩ := Option.bind_eq_some_iff.1 htemp
    exact Option.isSome_of_eq_some hcompute
  · intro h
    obtain ⟨⟨l, heater, cooling, faults⟩, hcompute⟩ := Option.isSome_iff_exists.1 h
    obtain ⟨⟨lights, shade⟩, hdecide⟩ := Option.isSome_iff_exists.1
      ((s.lighting.accumulate trusted clock).isSome_decide trusted resolved clock cfg)
    exact Option.isSome_of_eq_some (Option.bind_eq_some_iff.2
      ⟨_, Option.bind_eq_some_iff.2 ⟨_, hcompute, rfl⟩, Option.bind_eq_some_iff.2
        ⟨_, Option.bind_eq_some_iff.2 ⟨_, hdecide, rfl⟩, rfl⟩⟩)

section Tick

variable {H : Type} [Libm] [Hal H] {p p' : Pipeline H} {snap : Snapshot}

/-- **What a tick panics on**: a temperature, and bounds out of order. -/
theorem Pipeline.tick_isSome_iff (hrates : p.constraints.RatesPositive) :
    p.tick.isSome ↔ p.trusted.temperature = none ∨
      (p.config.setpoints.humidityLowPct ≤ p.config.setpoints.humidityHighPct ∧
        -p.control.integralClamp ≤ p.control.integralClamp) := by
  have hstages : p.tick.isSome ↔ ∃ resolved,
      resolve p.config.setpoints p.clock p.trusted.temperature = some resolved ∧
        (p.control.run p.trusted resolved p.config p.clock).isSome := by
    constructor
    · intro h
      obtain ⟨⟨p', snap⟩, h⟩ := Option.isSome_iff_exists.1 h
      obtain ⟨loops, h⟩ := tick_advanced h
      exact ⟨snap.resolved, h.resolve, Option.isSome_of_eq_some h.run⟩
    · rintro ⟨resolved, hresolve, hrun⟩
      obtain ⟨loops, hloops⟩ := Option.isSome_iff_exists.1 hrun
      obtain ⟨⟨constraints, cmd⟩, hshaped⟩ := Option.isSome_iff_exists.1
        (ConstraintState.apply_isSome hrates ((p.safe resolved loops).forced ∪ loops.failClosed))
      exact Option.isSome_of_eq_some (Option.bind_eq_some_iff.2 ⟨_, hresolve,
        Option.bind_eq_some_iff.2 ⟨_, hloops, Option.bind_eq_some_iff.2 ⟨_, hshaped, rfl⟩⟩⟩)
  rw [hstages]
  simp only [ControlState.isSome_run_iff]
  rw [exists_and_right, ← Option.isSome_iff_exists, isSome_resolve_iff, or_and_left]

/-- A tick keeps the clamp of the integral. -/
theorem Pipeline.tick_integralClamp (h : p.tick = some (p', snap)) :
    p'.control.integralClamp = p.control.integralClamp := by
  obtain ⟨loops, h⟩ := tick_cases h
  rw [h.control]
  obtain ⟨⟨temperature, cmd₁, faults⟩, htemp, hrun⟩ := Option.bind_eq_some_iff.1 h.run
  obtain ⟨⟨lighting, cmd₂⟩, -, hrun⟩ := Option.bind_eq_some_iff.1 hrun
  obtain ⟨⟨l, heater, cooling, faults⟩, hcompute, htemp⟩ := Option.bind_eq_some_iff.1 htemp
  cases htemp
  obtain rfl := Option.some.inj hrun
  exact TemperatureLoop.compute_integralClamp hcompute

end Tick

/-! ## The writes -/

/-- The humidity bounds are numbers, in order. -/
def Setpoints.Ordered (sp : Setpoints) : Prop := sp.humidityLowPct < sp.humidityHighPct

/-- Accepted setpoints have their humidity bounds in order, if these are numbers. -/
theorem Setpoints.ordered_iff {sp : Setpoints} (h : sp.validate = []) :
    sp.Ordered ↔ sp.humidityLowPct ≠ .nan ∧ sp.humidityHighPct ≠ .nan := by
  have hnot : ¬ sp.humidityHighPct ≤ sp.humidityLowPct := by
    simp only [Setpoints.validate, List.append_eq_nil_iff, violationIf_eq_nil] at h
    exact h.1.2
  constructor
  · intro h
    refine ⟨F64.ne_nan_of_lt h, fun hnan => ?_⟩
    rw [Ordered, hnan] at h
    exact F64.not_lt_nan _ h
  · rintro ⟨hlow, hhigh⟩
    exact (F64.lt_or_le hlow hhigh).resolve_right hnot

/-- The numbers of a patch; a body in JSON holds finite ones only. -/
def SetpointsPatch.numbers (p : SetpointsPatch) : List F64 :=
  [p.temperatureDayC, p.temperatureNightC, p.humidityLowPct, p.humidityHighPct,
    p.humidityDeadbandPct, p.co2VentInterlockThresholdPct, p.vpdTargetKpa, p.dliTargetMol,
    p.expectedPeakPar].filterMap id

/-- The numbers of a request. -/
def Request.numbers : Request → List F64
  | .patchSetpoints _ patch => patch.numbers
  | .patchZone _ _ patch => [patch.moistureLowThreshold, patch.moistureHighThreshold].filterMap id
  | .putOverride _ _ body => [body.state.levelPct].filterMap id
  | .deleteOverride _ _ _ => []

/-- An event whose request, if it is one, could be read from JSON. -/
def LoopEvent.IsJson {H : Type} : LoopEvent H → Prop
  | .request r => ∀ v ∈ r.numbers, v.isFinite
  | _ => True

/-- The setpoints of a command have their humidity bounds in order. -/
def Command.Ordered : Command → Prop
  | .setSetpoints sp => sp.Ordered
  | _ => True

theorem isFinite_ne_nan {v : F64} (h : v.isFinite = true) : v ≠ .nan := by
  obtain ⟨q, rfl⟩ := F64.isFinite_iff.1 h
  exact F64.noConfusion

/-- An accepted patch with numbers keeps the humidity bounds in order. -/
theorem patchSetpoints_ordered {greenhouseId gh : String} {view : RuntimeView}
    {patch : SetpointsPatch} {sp : Setpoints}
    (h : patchSetpoints greenhouseId gh view patch = .ok sp) (hview : view.setpoints.Ordered)
    (hpatch : ∀ v ∈ patch.numbers, v.isFinite) : sp.Ordered := by
  have hvalid : sp = patch.overwrite view.setpoints ∧ sp.validate = [] := by
    unfold patchSetpoints at h
    split at h
    · cases h
    · split at h
      · cases h
      · split at h
        case h_1 candidate hc =>
          cases h
          exact applySetpointsPatch_eq_ok hc
        case h_2 => cases h
  obtain ⟨rfl, hvalid⟩ := hvalid
  have hnumber : ∀ {field : Option F64} {v : F64}, field ∈ [patch.humidityLowPct,
      patch.humidityHighPct] → v ≠ .nan → field.getD v ≠ .nan := by
    intro field v hfield hv
    cases field with
    | none => exact hv
    | some w =>
      refine isFinite_ne_nan (hpatch w (List.mem_filterMap.2 ⟨some w, ?_, rfl⟩))
      simp only [List.mem_cons, List.not_mem_nil, or_false] at hfield ⊢
      rcases hfield with hfield | hfield
      · exact Or.inr (Or.inr (Or.inl hfield))
      · exact Or.inr (Or.inr (Or.inr (Or.inl hfield)))
  obtain ⟨hlow, hhigh⟩ : view.setpoints.humidityLowPct ≠ .nan ∧
      view.setpoints.humidityHighPct ≠ .nan := by
    refine ⟨F64.ne_nan_of_lt hview, fun hnan => ?_⟩
    rw [Setpoints.Ordered, hnan] at hview
    exact F64.not_lt_nan _ hview
  exact (Setpoints.ordered_iff hvalid).2 ⟨hnumber (by simp) hlow, hnumber (by simp) hhigh⟩

/-- What a handler accepts keeps the humidity bounds in order. -/
theorem Request.respond_ordered {me : String} {view : RuntimeView} {request : Request}
    {command : Command} (h : request.respond me view = .ok command)
    (hview : view.setpoints.Ordered) (hrequest : ∀ v ∈ request.numbers, v.isFinite) :
    command.Ordered := by
  cases command with
  | setSetpoints sp =>
    cases request with
    | patchSetpoints gh patch =>
      rw [respond] at h
      cases hp : Controller.patchSetpoints me gh view patch with
      | error refusal =>
        rw [hp] at h
        cases h
      | ok candidate =>
        rw [hp] at h
        cases h
        exact patchSetpoints_ordered hp hview hrequest
    | patchZone gh zoneId patch =>
      rw [respond] at h
      cases hp : Controller.patchZone me gh zoneId view patch <;> rw [hp] at h <;> cases h
    | putOverride gh actuator body =>
      rw [respond] at h
      unfold Controller.putOverride at h
      split at h
      · cases h
      · split at h
        · cases h
        · split at h <;> cases h
    | deleteOverride gh actuator zoneId =>
      rw [respond] at h
      unfold Controller.deleteOverride at h
      split at h
      · cases h
      · split at h
        · cases h
        · split at h <;> cases h
        · cases h
  | setZone zone => trivial
  | setOverride id level ttlSecs => trivial
  | clearOverride id => trivial

/-! ## Runs -/

namespace RunLoop

variable {me : String} {H : Type} {s s' : RunLoop me H} {clamp : F64}

/-- The bounds in force, published, on their way and still being decided are in order; the clamp
of the integral stays what it was. -/
structure Bounded (clamp : F64) (s : RunLoop me H) : Prop where
  setpoints : s.pipeline.config.setpoints.Ordered
  view : s.view.setpoints.Ordered
  inFlight : ∀ h ∈ s.inFlight, h.command.Ordered
  queue : ∀ command ∈ s.queue, command.Ordered
  integralClamp : s.pipeline.control.integralClamp = clamp

theorem Bounded.recv {command : Command} {queue : List Command} (h : Bounded clamp s)
    (hq : s.queue = command :: queue) :
    Bounded clamp { s with pipeline := command.apply s.pipeline, queue := queue } := by
  have hcommand := h.queue command (hq ▸ List.mem_cons_self)
  have hqueue : ∀ c ∈ queue, c.Ordered := fun c hc => h.queue c (hq ▸ List.mem_cons_of_mem _ hc)
  cases command with
  | setSetpoints sp => exact { h with setpoints := hcommand, queue := hqueue }
  | setZone zone => exact { h with queue := hqueue }
  | setOverride id level ttlSecs => exact { h with queue := hqueue }
  | clearOverride id => exact { h with queue := hqueue }

variable [Libm] [Hal H]

/-- A step keeps the bounds in order, when what it reads comes from JSON. -/
theorem Bounded.step {e : LoopEvent H} (h : Bounded clamp s) (he : e.IsJson)
    (hs : Step s e s') : Bounded clamp s' := by
  cases e with
  | request request =>
    obtain rfl := Option.some.inj hs
    rcases receive_cases s request with heq | ⟨handler, hrequest, hview, heq⟩ <;> rw [heq]
    · exact h
    · refine { h with inFlight := fun handler' hmem => ?_ }
      rcases List.mem_append.1 hmem with hmem | hmem
      · exact h.inFlight handler' hmem
      · obtain rfl := List.mem_singleton.1 hmem
        refine Request.respond_ordered handler'.accepted ?_ ?_
        · rw [hview]
          exact h.view
        · rw [hrequest]
          exact he
  | send i =>
    obtain ⟨handler, hi, -, rfl⟩ := send_cases hs
    have hhandler := h.inFlight handler (List.mem_of_getElem? hi)
    refine { h with inFlight := fun handler' hmem => ?_, queue := fun command hmem => ?_ }
    · exact h.inFlight handler' (List.mem_of_mem_eraseIdx hmem)
    · rcases List.mem_append.1 hmem with hmem | hmem
      · exact h.queue command hmem
      · exact List.mem_singleton.1 hmem ▸ hhandler
  | abandon i =>
    obtain rfl := Option.some.inj hs
    exact { h with
      inFlight := fun handler hmem => h.inFlight handler (List.mem_of_mem_eraseIdx hmem) }
  | recv =>
    obtain ⟨command, queue, hq, rfl⟩ := recv_cases hs
    exact h.recv hq
  | tick =>
    obtain ⟨p, snapshot, ht, rfl⟩ := loopTick_cases hs
    obtain ⟨loops, hticked⟩ := Pipeline.tick_cases ht
    refine { h with
      setpoints := ?_
      integralClamp := (Pipeline.tick_integralClamp ht).trans h.integralClamp }
    rw [hticked.config]
    exact h.setpoints
  | publish =>
    obtain ⟨snapshot, -, rfl⟩ := publish_cases hs
    exact { h with view := h.setpoints }
  | plant hal =>
    obtain rfl := Option.some.inj hs
    exact { h with }

end RunLoop

/-- No tick of any run of a controller of this configuration panics, on any backend. -/
def Config.NeverPanics [Libm] (cfg : Config) : Prop :=
  ∀ (H : Type) [Hal H] (hal : H) (clock : Clock),
    ∃ s₀, RunLoop.start? cfg hal clock = some s₀ ∧
      ∀ (es : List (LoopEvent H)) (s : RunLoop cfg.controllerId.asStr H),
        (∀ e ∈ es, e.IsJson) → Run RunLoop.Step s₀ es s → s.pipeline.tick.isSome

/-- The bounds a tick clamps to are numbers. -/
structure Config.ClampsToNumbers (cfg : Config) : Prop where
  integralClamp : cfg.control.temperaturePid.integralClamp ≠ .nan
  humidityLowPct : cfg.setpoints.humidityLowPct ≠ .nan
  humidityHighPct : cfg.setpoints.humidityHighPct ≠ .nan

theorem Config.Valid.integralClamp {cfg : Config} (h : cfg.Valid) :
    ¬ cfg.control.temperaturePid.integralClamp < 0 := by
  have h := Config.valid_iff.1 h
  simp only [Config.violations, Control.validate, PidConfig.validate, List.append_eq_nil_iff,
    checkMin_eq_nil] at h
  exact h.1.1.1.1.2.1.2

/-- The bounds of an accepted configuration are in order exactly when they are numbers. -/
theorem Config.Valid.inOrder_iff {cfg : Config} (h : cfg.Valid) :
    (cfg.setpoints.humidityLowPct ≤ cfg.setpoints.humidityHighPct ∧
      -cfg.control.temperaturePid.integralClamp ≤ cfg.control.temperaturePid.integralClamp) ↔
        cfg.ClampsToNumbers := by
  constructor
  · rintro ⟨hhumidity, hclamp⟩
    refine ⟨fun hnan => ?_, fun hnan => ?_, fun hnan => ?_⟩
    · rw [hnan] at hclamp
      exact F64.not_le_nan _ hclamp
    · rw [hnan] at hhumidity
      exact F64.not_nan_le _ hhumidity
    · rw [hnan] at hhumidity
      exact F64.not_le_nan _ hhumidity
  · rintro ⟨hclamp, hlow, hhigh⟩
    have hordered := (Setpoints.ordered_iff h.setpoints).2 ⟨hlow, hhigh⟩
    exact ⟨F64.le_iff.2 (Or.inl hordered), F64.neg_le_self hclamp h.integralClamp⟩

section Runs

variable [Libm]

/-- A plant with one temperature probe. -/
def oneProbe : Bench.Plant where
  readings := Bench.readings [20] 420

/-- **No tick panics on a clamp exactly when the bounds are numbers.** -/
theorem neverPanics_iff {cfg : Config} (hcfg : cfg.Valid) :
    cfg.NeverPanics ↔ cfg.ClampsToNumbers := by
  rw [← hcfg.inOrder_iff]
  have hrates : (ConstraintState.new cfg).RatesPositive := ConstraintState.ratesPositive_new hcfg
  constructor
  · intro h
    obtain ⟨s₀, hstart, -⟩ := h Bench.Plant oneProbe Clock.new
    obtain ⟨⟨p, snap⟩, htick, -⟩ := Option.map_eq_some_iff.1 hstart
    have hbounds := (Pipeline.tick_isSome_iff (p := Pipeline.withClock cfg oneProbe Clock.new)
      hrates).1 (Option.isSome_of_eq_some htick)
    exact hbounds.resolve_left (Option.some_ne_none (20 : F64))
  · intro h H _ hal clock
    have hfirst : (Pipeline.withClock cfg hal clock).tick.isSome :=
      (Pipeline.tick_isSome_iff hrates).2 (Or.inr h)
    obtain ⟨⟨p, snap⟩, htick⟩ := Option.isSome_iff_exists.1 hfirst
    have hstart : RunLoop.start? cfg hal clock =
        some { pipeline := p, view := buildView p snap } := by
      rw [RunLoop.start?, htick]
      rfl
    refine ⟨_, hstart, fun es s hes hr => ?_⟩
    have hordered : cfg.setpoints.Ordered :=
      (Setpoints.ordered_iff hcfg.setpoints).2 ⟨(hcfg.inOrder_iff.1 h).2, (hcfg.inOrder_iff.1 h).3⟩
    obtain ⟨loops, hticked⟩ := Pipeline.tick_cases htick
    have hsetpoints : p.config.setpoints.Ordered := by
      rw [hticked.config]
      exact hordered
    have hbase : RunLoop.Bounded cfg.control.temperaturePid.integralClamp
        ({ pipeline := p, view := buildView p snap } : RunLoop cfg.controllerId.asStr H) :=
      ⟨hsetpoints, hsetpoints, fun _ hmem => absurd hmem List.not_mem_nil,
        fun _ hmem => absurd hmem List.not_mem_nil, Pipeline.tick_integralClamp htick⟩
    have hmeets : Run (Meeting RunLoop.Step fun _ e => e.IsJson) _ es s :=
      hr.meeting_of_forall (fun _ _ he => he) hes
    have hbounded := hmeets.invariant_of_meeting
      (fun _ _ _ hs hstep he => RunLoop.Bounded.step hs he hstep) hbase
    obtain ⟨r, hsound, hpipeline⟩ := RunLoop.sound hcfg hstart hr
    refine (Pipeline.tick_isSome_iff ?_).2 (Or.inr ⟨F64.le_iff.2 (Or.inl hbounded.setpoints), ?_⟩)
    · rw [← hpipeline]
      exact hsound.ratesPositive hcfg
    · rw [hbounded.integralClamp]
      exact h.2

end Runs

/-! ## On the bench -/

section Witness

attribute [local instance] Bench.firstOrder

/-- The example configuration, with `nan` for the clamp of the integral. -/
def nanClamp : Config :=
  { Bench.config {} with control := { temperaturePid := { integralClamp := .nan } } }

/-- **A panic on an accepted configuration.** The check on the clamp of the integral lets `nan`
pass; the first tick with a temperature panics. -/
theorem nanClamp_panics :
    nanClamp.Valid ∧ (Pipeline.withClock nanClamp oneProbe Clock.new).tick = none := by
  refine ⟨by decide +kernel, Option.isNone_iff_eq_none.1 ?_⟩
  decide

/-- The example configuration never panics. -/
theorem neverPanics_iff_bench : (Bench.config {}).NeverPanics :=
  (neverPanics_iff Bench.config_valid).2 ⟨by decide, by decide, by decide⟩

end Witness

end Greenhouse.Controller
