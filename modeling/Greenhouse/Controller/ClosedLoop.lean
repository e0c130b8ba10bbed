import Greenhouse.Controller.Clamps
import Greenhouse.Controller.Injections
import Greenhouse.Controller.Plant

/-!
# The closed loop stays bounded

The pipeline drives the simulated plant, and the plant is what it reads. Over any run of the tick
task of an accepted configuration whose numbers are finite, no tick panics, the plant stays
between its physical limits and every committed level is a percentage, whatever is written,
overridden or forced on the sensors in the meantime. This is about the algorithm in exact
arithmetic: that no product or quotient of extreme numbers overflows is not part of it.

* `ControlState.run_allPct`: finite readings make the loops command percentages.
* `Runtime.Bounded`: the invariant; `Runtime.Bounded.tick` is what a tick preserves of it.
* `Runtime.bounded_of_run`: the closed loop.
-/

namespace Greenhouse.Controller

open Greenhouse.Numeric Greenhouse.Process Std

/-! ## The loops on finite readings -/

/-- What the temperature loop carries from tick to tick is finite. -/
structure Pid.Regular (p : Pid) : Prop where
  kp : p.kp.Finite
  ki : p.ki.Finite
  kd : p.kd.Finite
  integralClamp : p.integralClamp.Finite
  integral : p.integral.Finite
  prevError : ∀ e, p.prevError = some e → e.Finite

theorem Pid.Regular.reset {p : Pid} (h : p.Regular) : p.reset.Regular :=
  { h with
    integral := F64.finite_lit 0
    prevError := fun _ he => absurd he.symm (Option.some_ne_none _) }

theorem Pid.finite_derivative {prevError : Option F64} (h : ∀ e, prevError = some e → e.Finite)
    {error dt : F64} (he : error.Finite) (hdt : dt.Finite) :
    (Pid.derivative prevError error dt).Finite := by
  unfold Pid.derivative
  split
  case h_1 prev =>
    split
    case isTrue hpos => exact (he.sub (h prev rfl)).div hdt hpos
    case isFalse => exact F64.finite_lit 0
  case h_2 => exact F64.finite_lit 0

theorem Pid.Regular.update {p p' : Pid} (h : p.Regular) {error dt output : F64}
    (he : error.Finite) (hdt : dt.Finite) (hu : p.update error dt = some (p', output)) :
    p'.Regular ∧ output.Finite := by
  obtain ⟨integral, hintegral, hu⟩ := Option.bind_eq_some_iff.1 hu
  obtain ⟨rfl, rfl⟩ := Prod.mk.inj (Option.some.inj hu)
  have hfinite := (h.integral.add (he.mul hdt)).clamp? h.integralClamp.neg h.integralClamp hintegral
  refine ⟨{ h with integral := hfinite, prevError := fun e heq => ?_ }, ?_⟩
  · obtain rfl := Option.some.inj heq
    exact he
  · exact ((h.kp.mul he).add (h.ki.mul hfinite)).add
      (h.kd.mul (Pid.finite_derivative h.prevError he hdt))

theorem TemperatureLoop.modeLevels_isPct {output : F64} (h : output.Finite) :
    (modeLevels output).1.IsPct ∧ (modeLevels output).2.IsPct := by
  unfold modeLevels
  split
  · exact ⟨F64.isPct_clampPct h.ne_nan, F64.isPct_zero⟩
  · exact ⟨F64.isPct_zero, F64.isPct_clampPct h.neg.ne_nan⟩

theorem TemperatureLoop.noteSaturation_pid (l : TemperatureLoop) (saturated : Bool)
    (cfg : Config) : (l.noteSaturation saturated cfg).1.pid = l.pid := by
  unfold noteSaturation
  split <;> rfl

/-- The temperature loop commands percentages on finite readings. -/
theorem TemperatureLoop.compute_regular {l l' : TemperatureLoop} {trusted : TrustedState}
    {resolved : ResolvedSetpoints} {cfg : Config} {heater cooling : F64} {faults : List Fault}
    (hl : l.pid.Regular) (ht : ∀ t, trusted.temperature = some t → t.Finite)
    (hr : resolved.temperatureC.Finite)
    (h : l.compute trusted resolved cfg = some (l', heater, cooling, faults)) :
    l'.pid.Regular ∧ heater.IsPct ∧ cooling.IsPct := by
  unfold compute at h
  split at h
  · cases h
    exact ⟨hl.reset, F64.isPct_zero, F64.isPct_zero⟩
  case h_2 t htemp =>
    obtain ⟨⟨pid, output⟩, hpid, h⟩ := Option.bind_eq_some_iff.1 h
    obtain ⟨hpid, houtput⟩ := hl.update (hr.sub (ht t htemp)) (F64.finite_ofNat _) hpid
    dsimp only at h
    split at h
    · cases h
      rw [noteSaturation_pid]
      exact ⟨hpid, F64.isPct_zero, F64.isPct_zero⟩
    · cases h
      rw [noteSaturation_pid]
      exact ⟨hpid, modeLevels_isPct houtput⟩

theorem HumidityLoop.compute_isPct (l : HumidityLoop) (trusted : TrustedState)
    (resolved : ResolvedSetpoints) : (l.compute trusted resolved).2.IsPct := by
  unfold compute
  split
  · exact F64.isPct_zero
  · exact isPct_pctIf

theorem LightingLoop.decide_isPct [Libm] {l : LightingLoop} {trusted : TrustedState}
    {resolved : ResolvedSetpoints} {clock : Clock} {cfg : Config} {lights shade : F64}
    (h : l.decide trusted resolved clock cfg = some (lights, shade)) :
    lights.IsPct ∧ shade.IsPct := by
  unfold LightingLoop.decide at h
  dsimp only at h
  split at h
  · obtain ⟨rfl, rfl⟩ := Prod.mk.inj (Option.some.inj h)
    exact ⟨isPct_pctIf, F64.isPct_zero⟩
  · obtain ⟨remaining, -, h⟩ := Option.map_eq_some_iff.1 h
    obtain ⟨rfl, rfl⟩ := Prod.mk.inj h
    exact ⟨isPct_pctIf, isPct_pctIf⟩

namespace ControlState

theorem co2Run_allPct {trusted : TrustedState} {resolved : ResolvedSetpoints} {cmd : Commands}
    {failClosed : TreeSet ActuatorId} (h : cmd.AllPct) :
    (co2Run trusted resolved cmd failClosed).1.AllPct := by
  obtain ⟨injector, hinjector, -, heq⟩ := co2Run_cases trusted resolved cmd failClosed
  rw [heq]
  exact h.set _ hinjector

theorem irrigate_allPct {trusted : TrustedState} {clock : Clock} {zones : List Zone}
    {acc : Irrigation} (h : acc.cmd.AllPct) :
    (zones.foldl (irrigate trusted clock) acc).cmd.AllPct := by
  refine List.foldlRecOn zones _ (motive := fun acc : Irrigation => acc.cmd.AllPct) h
    fun acc hacc zone _ => ?_
  unfold irrigate
  split
  · exact hacc
  case h_2 l _ => exact hacc.set _ (l.compute_cases zone _ clock).2.1

/-- **On finite readings the loops command percentages.** -/
theorem run_allPct [Libm] {s : ControlState} {trusted : TrustedState}
    {resolved : ResolvedSetpoints} {config : Config} {clock : Clock} {out : ControlOutput}
    (hpid : s.temperature.pid.Regular) (ht : ∀ t, trusted.temperature = some t → t.Finite)
    (hr : resolved.temperatureC.Finite) (h : s.run trusted resolved config clock = some out) :
    out.cmd.AllPct ∧ out.state.temperature.pid.Regular := by
  obtain ⟨⟨temperature, cmd₁, faults⟩, htemp, h⟩ := Option.bind_eq_some_iff.1 h
  obtain ⟨⟨l, heater, cooling, faults'⟩, hcompute, htemp⟩ := Option.bind_eq_some_iff.1 htemp
  obtain ⟨⟨lighting, cmd₂⟩, hlight, h⟩ := Option.bind_eq_some_iff.1 h
  obtain ⟨⟨lights, shade⟩, hdecide, hlight⟩ := Option.bind_eq_some_iff.1 hlight
  cases htemp
  cases hlight
  cases h
  obtain ⟨hregular, hheater, hcooling⟩ :=
    TemperatureLoop.compute_regular hpid ht hr hcompute
  obtain ⟨hlights, hshade⟩ := LightingLoop.decide_isPct hdecide
  have hloops := (((Commands.allPct_allOff (config.zones.map (·.id))).set (.house .heater)
    hheater).set (.house .fans) hcooling).set (.house .roofVents) hcooling
  have hmisters := hloops.set (.house .misters) (s.humidity.compute_isPct trusted resolved)
  exact ⟨((irrigate_allPct (co2Run_allPct hmisters)).set _ hlights).set _ hshade, hregular⟩

end ControlState

/-! ## The fused temperature -/

theorem finite_mean {values : List F64} (h : ∀ v ∈ values, v.Finite) (hne : 0 < values.length) :
    (mean values).Finite := by
  have hsum : (values.foldl (· + ·) 0).Finite :=
    List.foldlRecOn values _ (motive := F64.Finite) (F64.finite_lit 0)
      fun _ hsum v hv => hsum.add (h v hv)
  refine hsum.div (F64.finite_ofNat _) ?_
  rw [F64.ofNat, F64.zero_eq, F64.fin_lt_fin]
  exact_mod_cast hne

/-- A temperature fused from finite readings is finite. -/
theorem finite_fuseTemperature {probes : List F64} {cfg : Sensing} {t : F64}
    (h : ∀ p ∈ probes, p.Finite) (ht : (fuseTemperature probes cfg).1 = some t) : t.Finite := by
  unfold fuseTemperature at ht
  split at ht
  · cases ht
  · obtain rfl := Option.some.inj ht
    exact h _ List.mem_cons_self
  · dsimp only at ht
    split at ht
    case isTrue htwo =>
      obtain rfl := Option.some.inj ht
      refine finite_mean (fun p hp => h p ?_) (by omega)
      exact (List.mem_filter.1 hp).1
    case isFalse => cases ht

/-! ## The numbers that come in -/

def Setpoints.numbers (sp : Setpoints) : List F64 :=
  [sp.temperatureDayC, sp.temperatureNightC, sp.humidityLowPct, sp.humidityHighPct,
    sp.humidityDeadbandPct, sp.co2VentInterlockThresholdPct, sp.vpdTargetKpa, sp.dliTargetMol,
    sp.expectedPeakPar]

def PidConfig.numbers (p : PidConfig) : List F64 := [p.kp, p.ki, p.kd, p.integralClamp]

/-- The setpoints are accepted, and their numbers are finite. -/
structure Setpoints.Sane (sp : Setpoints) : Prop where
  accepted : sp.validate = []
  finite : ∀ x ∈ sp.numbers, x.Finite

/-- The numbers of the plant, of the temperature loop and of the setpoints are finite. A
configuration file can also hold `nan` and `inf`. -/
structure Config.Finite (cfg : Config) : Prop where
  plant : ∀ x ∈ cfg.plantNumbers, x.Finite
  pid : ∀ x ∈ cfg.control.temperaturePid.numbers, x.Finite
  setpoints : ∀ x ∈ cfg.setpoints.numbers, x.Finite

/-- What the handlers let through: setpoints that validate, and finite numbers, since JSON has no
others. -/
def RuntimeEvent.IsFinite {probeCount : Nat} : RuntimeEvent probeCount → Prop
  | .write (.setSetpoints sp) _ => sp.Sane
  | .inject spec _ => spec.value.Finite
  | _ => True

theorem Setpoints.Sane.ordered {sp : Setpoints} (h : sp.Sane) : sp.Ordered :=
  (Setpoints.ordered_iff h.accepted).2
    ⟨(h.finite _ (by simp [Setpoints.numbers])).ne_nan,
      (h.finite _ (by simp [Setpoints.numbers])).ne_nan⟩

/-- The temperature setpoint of a tick is finite. -/
theorem Setpoints.Sane.temperatureC [Libm] {sp : Setpoints} (h : sp.Sane) {clock : Clock}
    {temperature : Option F64} {resolved : ResolvedSetpoints}
    (hr : resolve sp clock temperature = some resolved) : resolved.temperatureC.Finite := by
  rw [(resolve_fields hr).1]
  split
  · exact h.finite _ (by simp [Setpoints.numbers])
  · exact h.finite _ (by simp [Setpoints.numbers])

/-! ## A tick -/

/-- What the closed loop keeps: the plant is physical, and what the controller remembers is
finite, in order and between `0` and `100`. -/
structure Pipeline.Bounded (p : Pipeline SimulatedHal) : Prop where
  regular : p.hal.Regular
  physical : p.hal.Physical
  setpoints : p.config.setpoints.Sane
  pid : p.control.temperature.pid.Regular
  clamp : ¬ p.control.integralClamp < 0
  overrides : p.overrides.LevelsPct
  rates : p.constraints.RatesPositive
  applied : ∀ id, (p.constraints.applied.getD id {}).level.IsPct

theorem forceOff_allPct {ids : List ActuatorId} {f : Forcing} (h : f.cmd.AllPct) :
    (forceOff ids f).cmd.AllPct := by
  intro id
  rw [forceOff_get]
  split
  · exact F64.isPct_zero
  · exact h id

/-- The constraints shape percentages into percentages. -/
theorem ConstraintState.apply_allPct {s s' : ConstraintState} {cmd cmd' : Commands}
    {waiveDwell : TreeSet ActuatorId} (hrates : s.RatesPositive)
    (happlied : ∀ id, (s.applied.getD id {}).level.IsPct) (hcmd : cmd.AllPct)
    (h : s.apply cmd waiveDwell = some (s', cmd')) :
    cmd'.AllPct ∧ s'.RatesPositive ∧ ∀ id, (s'.applied.getD id {}).level.IsPct := by
  have hshapes := apply_shapes h
  have hrates' : s'.RatesPositive := by
    intro id
    have hconstraints : s'.constraints = s.constraints := hshapes.constraints
    unfold constraintsFor
    rw [hconstraints]
    exact hrates id
  have hone : ∀ id, (cmd'.get id).IsPct ∧ (s'.applied.getD id {}).level.IsPct := by
    intro id
    by_cases hid : id ∈ cmd.ids
    · obtain ⟨hlevel, hnext, -⟩ := shape_eq_some (hshapes.shaped id hid)
      have hpct := shapeLevel_isPct (hrates id) (happlied id) (hcmd id) hlevel
      have happlied' : s'.applied.getD id {} = (s.applied.getD id {}).next (cmd'.get id) := hnext
      rw [happlied']
      exact ⟨hpct, hpct⟩
    · obtain ⟨hkept, hget⟩ := hshapes.kept id hid
      have hget' : cmd'.get id = cmd.get id := hget
      have hkept' : s'.applied.getD id {} = s.applied.getD id {} := hkept
      rw [hget', hkept']
      exact ⟨hcmd id, happlied id⟩
  exact ⟨fun id => (hone id).1, hrates', fun id => (hone id).2⟩

namespace Pipeline.Bounded

variable [SimLibm] {p p' : Pipeline SimulatedHal} {snap : Snapshot}

theorem trusted_finite (h : p.Bounded) {t : F64} (ht : p.trusted.temperature = some t) :
    t.Finite := by
  refine finite_fuseTemperature (fun v hv => ?_) ht
  obtain ⟨i, hi⟩ := List.mem_iff_getElem?.1 hv
  exact h.physical.reads (c := .temperatureProbe i) hi

/-- **A tick of the closed loop does not panic.** -/
theorem tick_isSome (h : p.Bounded) : p.tick.isSome :=
  (Pipeline.tick_isSome_iff h.rates).2 (Or.inr ⟨F64.le_iff.2 (Or.inl h.setpoints.ordered),
    F64.neg_le_self h.pid.integralClamp.ne_nan h.clamp⟩)

/-- **What a tick of the closed loop keeps.** -/
theorem tick (hlibm : SimLibm.Regular) (h : p.Bounded) (ht : p.tick = some (p', snap)) :
    p'.Bounded ∧ snap.commanded.AllPct := by
  have hclamp := Pipeline.tick_integralClamp ht
  obtain ⟨loops, ht⟩ := tick_advanced ht
  obtain ⟨hloops, hpid⟩ := ControlState.run_allPct h.pid (fun _ => h.trusted_finite)
    (h.setpoints.temperatureC ht.resolve) ht.run
  have hlocked : (p.locked loops).2.1.cmd.AllPct := fun id =>
    InterlockState.apply_isPct ((h.overrides.expire p.clock).get_apply (hloops id))
  obtain ⟨hcmd, hrates, happlied⟩ := ConstraintState.apply_allPct h.rates h.applied
    (forceOff_allPct hlocked) ht.shaped
  have hregular : (Hal.command p.hal snap.commanded : SimulatedHal).Regular := { h.regular with }
  have hphysical : (Hal.command p.hal snap.commanded : SimulatedHal).Physical :=
    h.physical.latch hcmd
  refine ⟨?_, hcmd⟩
  exact {
    regular := by rw [ht.hal]; exact hregular.step p.clock
    physical := by rw [ht.hal]; exact hphysical.step hlibm hregular p.clock
    setpoints := by rw [ht.config]; exact h.setpoints
    pid := by rw [ht.control]; exact hpid
    clamp := by rw [hclamp]; exact h.clamp
    overrides := by rw [ht.overrides]; exact h.overrides.expire p.clock
    rates := hrates
    applied := happlied }

end Pipeline.Bounded

/-! ## Runs -/

namespace Runtime

/-- The invariant of the closed loop. -/
structure Bounded (s : Runtime) : Prop where
  pipeline : s.pipeline.Bounded
  committed : ∀ snap, s.last = some snap → snap.commanded.AllPct

section Operations

variable {s : Runtime}

theorem Bounded.mapHal (h : s.Bounded) {f : SimulatedHal → SimulatedHal}
    (hr : (f s.pipeline.hal).Regular) (hp : (f s.pipeline.hal).Physical) :
    (s.mapHal f).Bounded :=
  ⟨{ h.pipeline with regular := hr, physical := hp }, h.committed⟩

theorem regular_foldl {α : Type} {f : SimulatedHal → α → SimulatedHal}
    (hf : ∀ hal a, hal.Regular → (f hal a).Regular) (l : List α) {hal : SimulatedHal}
    (h : hal.Regular) : (l.foldl f hal).Regular :=
  List.foldlRecOn l f (motive := SimulatedHal.Regular) h fun hal hhal a _ => hf hal a hhal

theorem physical_foldl {α : Type} {f : SimulatedHal → α → SimulatedHal}
    (hf : ∀ hal a, hal.Physical → (f hal a).Physical) (l : List α) {hal : SimulatedHal}
    (h : hal.Physical) : (l.foldl f hal).Physical :=
  List.foldlRecOn l f (motive := SimulatedHal.Physical) h fun hal hhal a _ => hf hal a hhal

/-- Clearing the channels of a key. -/
theorem Bounded.clearChannels (h : s.Bounded) (channels : List SensorChannel) :
    (s.mapHal fun hal => channels.foldl SimulatedHal.clearSensorInjection hal).Bounded :=
  h.mapHal (regular_foldl (fun _ c hhal => hhal.clearSensorInjection c) channels h.pipeline.regular)
    (physical_foldl (fun _ c hhal => hhal.clearSensorInjection c) channels h.pipeline.physical)

theorem Bounded.inject (h : s.Bounded) (ttl probeCount : Nat) {spec : InjectionSpec}
    (hv : spec.value.Finite) :
    (s.applyCommand ttl probeCount (.injectSensor spec)).Bounded := by
  have hmapped := h.mapHal
    (f := fun hal => (channelsFor spec.key probeCount).foldl
      (fun hal channel => hal.injectSensor channel spec.value spec.ttlSecs) hal)
    (regular_foldl (fun _ c hhal => hhal.injectSensor c _ _) _ h.pipeline.regular)
    (physical_foldl (fun _ c hhal => hhal.injectSensor c hv spec.ttlSecs) _ h.pipeline.physical)
  exact ⟨hmapped.pipeline, hmapped.committed⟩

theorem Bounded.prune (h : s.Bounded) (probeCount : Nat) :
    (s.pruneInjections probeCount).Bounded := by
  unfold pruneInjections
  refine List.foldlRecOn _ (drop probeCount) (motive := Bounded) h fun s hs key _ => ?_
  have hcleared := hs.clearChannels (channelsFor key probeCount)
  exact ⟨hcleared.pipeline, hcleared.committed⟩

/-- A runtime write. -/
theorem Bounded.write (h : s.Bounded) {command : Command} (hadmitted : command.Admitted)
    (hsane : ∀ sp, command = .setSetpoints sp → sp.Sane) :
    Bounded { s with pipeline := command.apply s.pipeline } := by
  refine ⟨?_, h.committed⟩
  cases command with
  | setSetpoints sp => exact { h.pipeline with setpoints := hsane sp rfl }
  | setZone zone => exact { h.pipeline with }
  | setOverride id level ttlSecs =>
    exact { h.pipeline with
      overrides := h.pipeline.overrides.set (F64.IsPct.ne_nan hadmitted) id _ ttlSecs }
  | clearOverride id => exact { h.pipeline with overrides := h.pipeline.overrides.clear id }

end Operations

section Closed

variable [SimLibm] {cfg : Config} {s s' : Runtime}

/-- **What an event keeps.** -/
theorem Bounded.step (hlibm : SimLibm.Regular) (h : s.Bounded) {e : RuntimeEvent cfg.probeCount}
    (hs : Step cfg s e s') (he : e.IsFinite) : s'.Bounded := by
  cases e with
  | tick =>
    obtain ⟨⟨p, snap⟩, ht, rfl⟩ := Option.map_eq_some_iff.1 hs
    obtain ⟨hp, hcommitted⟩ := (h.prune cfg.probeCount).pipeline.tick hlibm ht
    refine ⟨hp, fun snap' hsnap => ?_⟩
    obtain rfl := Option.some.inj hsnap
    exact hcommitted
  | write command admitted =>
    obtain rfl := Option.some.inj hs
    refine h.write admitted fun sp heq => ?_
    subst heq
    exact he
  | inject spec admitted =>
    obtain rfl := Option.some.inj hs
    exact h.inject _ _ he
  | clear key admitted whole =>
    obtain rfl := Option.some.inj hs
    have hcleared := h.clearChannels (channelsFor key cfg.probeCount)
    exact ⟨hcleared.pipeline, hcleared.committed⟩
  | setTimeScale scale =>
    obtain rfl := Option.some.inj hs
    have hscaled := h.mapHal (f := fun hal => hal.setTimeScale scale)
      { h.pipeline.regular with } { h.pipeline.physical with }
    exact ⟨hscaled.pipeline, hscaled.committed⟩

theorem Bounded.start (hlibm : SimLibm.Regular) (hcfg : cfg.Valid) (hfinite : cfg.Finite)
    (clock : Clock) : (Runtime.start cfg clock).Bounded := by
  refine ⟨?_, fun _ hsnap => absurd hsnap.symm (Option.some_ne_none _)⟩
  obtain ⟨hkp, hki, hkd, hclamp⟩ : cfg.control.temperaturePid.kp.Finite ∧
      cfg.control.temperaturePid.ki.Finite ∧ cfg.control.temperaturePid.kd.Finite ∧
      cfg.control.temperaturePid.integralClamp.Finite := by
    simpa [PidConfig.numbers] using hfinite.pid
  exact {
    regular := SimulatedHal.regular_of_valid hcfg hfinite.plant
    physical := SimulatedHal.physical_of_valid hlibm hcfg hfinite.plant
    setpoints := ⟨hcfg.setpoints, hfinite.setpoints⟩
    pid := ⟨hkp, hki, hkd, hclamp, F64.finite_lit 0,
      fun _ heq => absurd heq.symm (Option.some_ne_none _)⟩
    clamp := hcfg.integralClamp
    overrides := OverrideState.levelsPct_empty
    rates := ConstraintState.ratesPositive_new hcfg
    applied := fun id => by
      change ((∅ : TreeMap ActuatorId Applied).getD id {}).level.IsPct
      rw [TreeMap.getD_emptyc]
      exact F64.isPct_zero }

/-- The closed loop is in its bounds: the plant is physical, every sensor reads a finite number,
every committed level is a percentage, and the next tick does not panic. -/
structure InBounds (cfg : Config) (s : Runtime) : Prop where
  physical : s.pipeline.hal.Physical
  reads : ∀ c v, (Hal.read s.pipeline.hal).channel c = some v → v.Finite
  committed : ∀ snap, s.last = some snap → ∀ id, (snap.commanded.get id).IsPct
  ticks : (s.step? cfg .tick).isSome

/-- **The closed loop stays in its bounds**, whatever finite values are written and forced, as
long as arithmetic is exact: `F64` neither rounds nor overflows. -/
theorem bounded_of_run (hlibm : SimLibm.Regular) (hcfg : cfg.Valid) (hfinite : cfg.Finite)
    {clock : Clock} {es : List (RuntimeEvent cfg.probeCount)} (hes : ∀ e ∈ es, e.IsFinite)
    (hr : Run (Step cfg) (Runtime.start cfg clock) es s) : s.InBounds cfg := by
  have hmeeting : Run (Meeting (Step cfg) fun _ e => e.IsFinite) (Runtime.start cfg clock) es s :=
    hr.meeting_of_forall (fun _ _ he => he) hes
  have hbounded : s.Bounded := hmeeting.invariant_of_meeting
    (fun s e s' hs hstep he => Bounded.step (e := e) hlibm hs hstep he)
    (Bounded.start hlibm hcfg hfinite clock)
  refine ⟨hbounded.pipeline.physical, fun c v => hbounded.pipeline.physical.reads,
    hbounded.committed, ?_⟩
  unfold step?
  rw [Option.isSome_map]
  exact (hbounded.prune cfg.probeCount).pipeline.tick_isSome

end Closed

end Runtime

/-! ## On the bench -/

section Witness

attribute [local instance] noiseless

theorem noiseless_regular : SimLibm.Regular where
  cos := fun _ _ => F64.finite_lit 1
  sin := fun _ hx => hx
  ln := fun q _ hq => ⟨q - 1, by linarith, F64.fin_sub_fin q 1⟩
  sqrt := fun _ _ => F64.finite_lit 0

theorem quietHouse_finite : quietHouse.Finite :=
  ⟨by decide, by decide, by decide⟩

/-- Force a probe to `90` for five seconds. -/
def hotProbe : RuntimeEvent quietHouse.probeCount :=
  .inject ⟨probes (some 0), 90, some 5⟩ ⟨probes_admitted (by decide), by decide⟩

/-- The example house stays in its bounds while a probe is forced to `90`. -/
theorem bounded_of_run_probe :
    ∃ s, Run (Runtime.Step quietHouse) (Runtime.start quietHouse Clock.new) [hotProbe, .tick] s ∧
      s.InBounds quietHouse := by
  have hfinite : hotProbe.IsFinite := F64.finite_lit 90
  have hboth : ∀ e ∈ [hotProbe, .tick], e.IsFinite :=
    List.forall_mem_cons.2 ⟨hfinite, List.forall_mem_singleton.2 trivial⟩
  have hforced : Run (Runtime.Step quietHouse) (Runtime.start quietHouse Clock.new) [hotProbe]
      ((Runtime.start quietHouse Clock.new).applyCommand
        quietHouse.simulation.sensorInjectionTimeoutSecs quietHouse.probeCount
        (.injectSensor ⟨probes (some 0), 90, some 5⟩)) := Run.single rfl
  obtain ⟨s, htick⟩ := Option.isSome_iff_exists.1 (Runtime.bounded_of_run noiseless_regular
    quietHouse_valid quietHouse_finite (List.forall_mem_singleton.2 hfinite) hforced).ticks
  have hrun := hforced.append (Run.single htick)
  exact ⟨s, hrun, Runtime.bounded_of_run noiseless_regular quietHouse_valid quietHouse_finite
    hboth hrun⟩

end Witness

end Greenhouse.Controller
