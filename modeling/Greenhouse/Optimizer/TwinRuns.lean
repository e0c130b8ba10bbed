import Greenhouse.Optimizer.Twin

/-!
# Runs of the twin

What a predicted trajectory looks like, whatever the baseline and the physics: it stays in the
plausibility envelopes, covers the horizon, and counts the light of each day from its midnight.

* `step_inside`, `step_accrues`: what one sub-step does.
* `simulate_spec`: what a trajectory looks like.
* `simulate_total`: when there is one.
-/

namespace Greenhouse.Optimizer.Twin

open Greenhouse.Platform Greenhouse.Process

/-! ## Parameters and states -/

/-- Physics that make sense: the envelopes are in order, and every relaxation has a rate. -/
structure Params.Sound (params : Params) : Prop where
  envelope : ∀ row, params.envMin row ≤ params.envMax row
  par : 0 ≤ params.envMin 3
  soilEnvelope : params.soilEnvMin ≤ params.soilEnvMax
  tau : ∀ row, 0 < params.tauSeconds row
  soilTau : 0 < params.soilTauSeconds
  relaxes : rate params 0 ≠ 0

/-- Climate values within their envelopes. -/
def ClimateInside (params : Params) (climate : Fin 4 → ℚ) : Prop :=
  ∀ row, params.envMin row ≤ climate row ∧ climate row ≤ params.envMax row

/-- The moisture of every zone within its envelope. -/
def SoilInside (params : Params) (soil : Dict ℚ) : Prop :=
  ∀ zoneId v, soil zoneId = some v → params.soilEnvMin ≤ v ∧ v ≤ params.soilEnvMax

structure Inside (params : Params) (state : State) : Prop where
  climate : ClimateInside params state.climate
  soil : SoilInside params state.soil

/-- The ordinal of a state is that of its clock. -/
def Dated (state : State) : Prop := state.dayOrdinal = dayOf state.clock

/-- One sub-step of the clock and the light: the light restarts at midnight, and otherwise
grows by what falls in the sub-step. -/
structure Accrues (dtSeconds : ℚ) (s t : State) : Prop where
  clock : t.clock = s.clock + dtSeconds
  par : 0 ≤ t.climate 3
  light : t.dliMol = (if dayOf t.clock = dayOf s.clock then s.dliMol else 0)
    + t.climate 3 * dtSeconds / 10 ^ 6

/-! ## One step -/

section Step

variable {m : Maths} {params : Params} {setpoints : Setpoints} {dt : ℚ} {s t : State}

theorem clip_mem {lo hi x : ℚ} (h : lo ≤ hi) : lo ≤ clip lo hi x ∧ clip lo hi x ≤ hi :=
  ⟨le_min (le_max_right x lo) h, min_le_right _ _⟩

/-- The valves are all that a round of irrigation changes. -/
def OnlyValves (s t : State) : Prop :=
  t = { s with valveOpen := t.valveOpen, lastCloseElapsedS := t.lastCloseElapsedS }

theorem OnlyValves.trans {u : State} (h : OnlyValves s t) (h' : OnlyValves t u) :
    OnlyValves s u := by
  unfold OnlyValves at h h' ⊢
  rw [h'] at *
  rw [h]

theorem updateValve_only {sod : Int} {zone : ZoneTargets}
    (h : updateValve sod s zone = some t) : OnlyValves s t := by
  unfold updateValve at h
  split at h
  · cases h
    rfl
  · split at h
    · split at h
      · cases h
        rfl
      · cases h
        rfl
    · dsimp only at h
      split at h
      · cases h
      · split at h
        · cases h
          rfl
        · cases h
          rfl

theorem updateValves_only {sod : Int} (h : updateValves setpoints sod s = some t) :
    OnlyValves s t := by
  unfold updateValves at h
  generalize setpoints.zones = zones at h
  induction zones generalizing s with
  | nil =>
    cases h
    rfl
  | cons zone zones ih =>
    rw [List.foldlM_cons, Option.bind_eq_bind, Option.bind_eq_some_iff] at h
    obtain ⟨u, hu, h⟩ := h
    exact (updateValve_only hu).trans (ih h)

/-- A step is a round of irrigation and a relaxation. -/
theorem step_eq_some {result : State × Bool}
    (h : step m params setpoints dt s = some result) :
    ∃ (u : State) (levels : HouseActuator → ℚ) (solar soilDecay : ℚ), OnlyValves s u ∧
      result = relax m params dt levels solar soilDecay u := by
  unfold step at h
  simp only [Option.bind_eq_bind, Option.bind_eq_some_iff] at h
  obtain ⟨u, hu, levels, -, soilDecay, -, h⟩ := h
  exact ⟨u, levels, _, soilDecay, updateValves_only hu, (Option.some.inj h).symm⟩

theorem relax_inside (hparams : params.Sound) {levels : HouseActuator → ℚ} {solar decay : ℚ}
    {u : State} {ended : Bool} (h : relax m params dt levels solar decay u = (t, ended)) :
    Inside params t ∧ ended = false := by
  unfold relax at h
  dsimp only at h
  rw [if_neg hparams.relaxes] at h
  cases h
  refine ⟨⟨fun row => clip_mem (hparams.envelope row), ?_⟩, rfl⟩
  intro zoneId v hv
  obtain ⟨soil, -, rfl⟩ := Option.map_eq_some_iff.1 hv
  exact clip_mem hparams.soilEnvelope

/-- A sub-step stays in the envelopes, and does not end the run. -/
theorem step_inside (hparams : params.Sound) {ended : Bool}
    (h : step m params setpoints dt s = some (t, ended)) : Inside params t ∧ ended = false := by
  obtain ⟨u, levels, solar, soilDecay, -, hrelax⟩ := step_eq_some h
  exact relax_inside hparams hrelax.symm

theorem step_clock (hparams : params.Sound) {ended : Bool}
    (h : step m params setpoints dt s = some (t, ended)) : t.clock = s.clock + dt := by
  obtain ⟨u, levels, solar, soilDecay, hu, hrelax⟩ := step_eq_some h
  unfold relax at hrelax
  dsimp only at hrelax
  rw [if_neg hparams.relaxes] at hrelax
  have hclock : u.clock = s.clock := by rw [hu]
  cases hrelax
  exact congrArg (· + dt) hclock

/-- A sub-step of a dated state. -/
theorem step_accrues (hparams : params.Sound) (hs : Dated s) {ended : Bool}
    (h : step m params setpoints dt s = some (t, ended)) : Accrues dt s t ∧ Dated t := by
  have hinside := (step_inside hparams h).1
  have hclock := step_clock hparams h
  obtain ⟨u, levels, solar, soilDecay, hu, hrelax⟩ := step_eq_some h
  unfold relax at hrelax
  dsimp only at hrelax
  rw [if_neg hparams.relaxes] at hrelax
  have hdli : u.dliMol = s.dliMol := by rw [hu]
  have hday : u.dayOrdinal = dayOf s.clock := by
    rw [hu]
    exact hs
  cases hrelax
  refine ⟨⟨hclock, hparams.par.trans (hinside.climate 3).1, ?_⟩, rfl⟩
  dsimp only
  rw [hdli, hday, ite_not]

end Step

/-! ## Runs -/

section Runs

variable {dt : ℚ} {k : Nat} {s t : State}

theorem clock_of_steps {R : State → State → Prop} (hR : ∀ s t, R s t → t.clock = s.clock + dt)
    (h : Steps R k s t) : t.clock = s.clock + k * dt := by
  induction h with
  | refl s => simp
  | @head n _ _ _ hstep _ ih =>
    rw [ih, hR _ _ hstep]
    push_cast
    ring

theorem dayOf_mono {a b : Moment} (h : a ≤ b) : dayOf a ≤ dayOf b :=
  Int.floor_le_floor (div_le_div_of_nonneg_right h (by norm_num))

/-- Within a day the light never shrinks. -/
theorem light_of_steps (hdt : 0 ≤ dt) (h : Steps (Accrues dt) k s t)
    (hday : dayOf t.clock = dayOf s.clock) : s.dliMol ≤ t.dliMol := by
  induction h with
  | refl s => exact le_rfl
  | @head n s u t hstep hrest ih =>
    have hfirst : dayOf s.clock ≤ dayOf u.clock := by
      rw [hstep.clock]
      exact dayOf_mono (le_add_of_nonneg_right hdt)
    have hlater : dayOf u.clock ≤ dayOf t.clock := by
      rw [clock_of_steps (fun _ _ h => h.clock) hrest]
      exact dayOf_mono (le_add_of_nonneg_right (mul_nonneg (Nat.cast_nonneg n) hdt))
    have hsame : dayOf u.clock = dayOf s.clock := le_antisymm (hlater.trans hday.le) hfirst
    have hlight : s.dliMol ≤ u.dliMol := by
      rw [hstep.light, if_pos hsame]
      have hpar := mul_nonneg hstep.par hdt
      exact le_add_of_nonneg_right (div_nonneg hpar (by norm_num))
    exact hlight.trans (ih (hday.trans hsame.symm))

theorem point_eq_some {m : Maths} {p : PredictedPoint} (h : point m s = some p) :
    p.time = s.clock ∧ p.climate = s.climate ∧ p.dliMolM2Day = s.dliMol ∧
      p.soilMoistureVwc = s.soil := by
  obtain ⟨v, -, rfl⟩ := Option.map_eq_some_iff.1 h
  exact ⟨rfl, rfl, rfl, rfl⟩

/-! ## The horizon -/

theorem blockCount_pos (horizon outputDt : ℚ) : 1 ≤ blockCount horizon outputDt := le_max_left 1 _

/-- The output intervals cover the horizon. -/
theorem horizon_le {horizon outputDt : ℚ} (hdt : 0 < outputDt) :
    horizon ≤ blockCount horizon outputDt * outputDt := by
  have hceil : horizon / outputDt ≤ (blockCount horizon outputDt : ℚ) :=
    calc horizon / outputDt ≤ ⌈horizon / outputDt⌉ := Int.le_ceil _
      _ ≤ (⌈horizon / outputDt⌉.toNat : ℚ) := by exact_mod_cast Int.self_le_toNat _
      _ ≤ (blockCount horizon outputDt : ℚ) := by exact_mod_cast le_max_right 1 _
  exact (div_le_iff₀ hdt).1 hceil

/-- All but the last of the output intervals end inside the horizon. -/
theorem lt_horizon {horizon outputDt : ℚ} (hhorizon : 0 < horizon) (hdt : 0 < outputDt) {i : Nat}
    (hi : i < blockCount horizon outputDt) : i * outputDt < horizon := by
  have hpos : 0 < horizon / outputDt := div_pos hhorizon hdt
  rw [← lt_div_iff₀ hdt]
  rcases Nat.eq_zero_or_pos i with rfl | hipos
  · exact_mod_cast hpos
  · have hlt : i < ⌈horizon / outputDt⌉.toNat := by
      unfold blockCount at hi
      omega
    have hceil : ((i : Int) : ℚ) < horizon / outputDt := Int.lt_ceil.1 (by omega)
    exact_mod_cast hceil

theorem subStepCount_pos (outputDt targetSub : ℚ) : 0 < subStepCount outputDt targetSub :=
  Nat.lt_of_lt_of_le Nat.zero_lt_one (le_max_left 1 _)

end Runs

/-! ## Trajectories -/

/-- A trajectory inside the envelopes. -/
def StaysInside (params : Params) (result : Result) : Prop :=
  ∀ p ∈ result.points, ClimateInside params p.climate ∧ SoilInside params p.soilMoistureVwc

/-- The last point is the first one at or after the end. -/
def Covers (stop : Moment) (result : Result) : Prop :=
  (∃ last, result.points.getLast? = some last ∧ stop ≤ last.time) ∧
    ∀ p ∈ result.points.dropLast, p.time < stop

/-- The light of a trajectory grows over each day, and restarts at each midnight: the points are
sampled from a run of sub-steps that accrue light so. -/
def CountsLight (m : Maths) (seed : State) (outputDt : ℚ) (result : Result) : Prop :=
  (result.points.Pairwise fun p q =>
    dayOf p.time = dayOf q.time → p.dliMolM2Day ≤ q.dliMolM2Day) ∧
  ∃ (n : Nat) (dt : ℚ), 0 < dt ∧ n * dt = outputDt ∧
    Sampled (Accrues dt) (point m) n seed result.points

section Trajectories

variable {m : Maths} {params : Params} {setpoints : Setpoints} {seed : State} {stop : Moment}
  {maxStep output : ℚ} {result : Result}

/-- What a trajectory that is returned is made of. -/
theorem simulate_eq_some (hmax : 0 < maxStep) (hout : 0 < output)
    (hseed : Inside params seed)
    (h : simulate m params setpoints seed stop maxStep output = some result) :
    ∃ (first : PredictedPoint) (n : Nat) (dt : ℚ) (r : Rollout State PredictedPoint),
      point m seed = some first ∧ 0 < dt ∧ n * dt = output * 60 ∧
      (Plant.mk (step m params setpoints dt) (point m)).rollout n
        (blockCount (stop - seed.clock) (output * 60)) seed = some r ∧
      result = ⟨first :: r.points, r.halted⟩ := by
  have hinside : climateInside params seed.climate = true := decide_eq_true hseed.climate
  have houtput : 0 < output * 60 := mul_pos hout (by norm_num)
  have htarget : 0 < min (maxStep * 60) controlStepCapSeconds :=
    lt_min (mul_pos hmax (by norm_num)) (by norm_num [controlStepCapSeconds])
  unfold simulate rollForward at h
  obtain ⟨⟨final, traced⟩, hforward, hsnd⟩ := Option.map_eq_some_iff.1 h
  obtain rfl : traced = result := hsnd
  split at hforward
  · cases hforward
  · rename_i first hfirst
    dsimp only at hforward
    rw [hinside, Bool.not_true, if_neg Bool.false_ne_true,
      if_neg (not_or.2 ⟨houtput.ne', htarget.ne'⟩)] at hforward
    obtain ⟨r, hr, hresult⟩ := Option.map_eq_some_iff.1 hforward
    cases hresult
    have hn := subStepCount_pos (output * 60) (min (maxStep * 60) controlStepCapSeconds)
    have hcast : (0 : ℚ) <
        (subStepCount (output * 60) (min (maxStep * 60) controlStepCapSeconds) : ℚ) := by
      exact_mod_cast hn
    exact ⟨first, _, _, r, hfirst, div_pos houtput hcast, mul_div_cancel₀ _ hcast.ne', hr, rfl⟩

/-- **What a trajectory looks like.** It does not diverge, stays in the envelopes, covers the
horizon and no more, and counts the light of each day. -/
theorem simulate_spec (hparams : params.Sound) (hmax : 0 < maxStep) (hout : 0 < output)
    (hstop : seed.clock < stop) (hseed : Inside params seed)
    (h : simulate m params setpoints seed stop maxStep output = some result) :
    result.diverged = false ∧ StaysInside params result ∧ Covers stop result ∧
      (Dated seed → CountsLight m seed (output * 60) result) := by
  obtain ⟨first, n, dt, r, hfirst, hdt, hndt, hr, rfl⟩ :=
    simulate_eq_some hmax hout hseed h
  have hhalted : r.halted = false := by
    refine Plant.not_halted (I := Inside params) ?_ ?_ hr hseed
    · exact fun s t hst _ => (step_inside hparams hst).1
    · intro s t _ hst
      exact Bool.noConfusion (step_inside hparams hst).2
  obtain ⟨hsampled, hlength⟩ := Plant.sampled_of_rollout hfirst hr hhalted
  refine ⟨hhalted, ?_, ?_, fun hdated => ?_⟩
  · intro p hp
    obtain ⟨k, t, hsteps, hpoint⟩ := hsampled.reached p hp
    have hinside := hsteps.keeps (I := Inside params)
      (fun s t hst _ => (step_inside hparams hst).1) hseed
    obtain ⟨-, hclimate, -, hsoil⟩ := point_eq_some hpoint
    rw [hclimate, hsoil]
    exact ⟨hinside.climate, hinside.soil⟩
  · have htime : ∀ (i : Nat) (p : PredictedPoint), (first :: r.points)[i]? = some p →
        p.time = seed.clock + i * (output * 60) := by
      intro i p hp
      obtain ⟨t, hsteps, hpoint⟩ := hsampled.getElem? i p hp
      rw [(point_eq_some hpoint).1, clock_of_steps (fun s t hst => step_clock hparams hst) hsteps,
        ← hndt]
      push_cast
      ring
    have houtput : 0 < output * 60 := mul_pos hout (by norm_num)
    constructor
    · have hlast : (first :: r.points).getLast? = (first :: r.points)[r.points.length]? := by
        rw [List.getLast?_eq_getElem?, List.length_cons, Nat.add_sub_cancel]
      have hlt : r.points.length < (first :: r.points).length := Nat.lt_succ_self _
      rw [List.getElem?_eq_getElem hlt] at hlast
      refine ⟨_, hlast, ?_⟩
      rw [htime _ _ (List.getElem?_eq_getElem hlt), hlength]
      have hcover := @horizon_le (stop - seed.clock) _ houtput
      linarith
    · intro p hp
      obtain ⟨i, hi, rfl⟩ := List.mem_iff_getElem.1 hp
      have hcount : i < blockCount (stop - seed.clock) (output * 60) := by
        rw [List.length_dropLast, List.length_cons, Nat.add_sub_cancel, hlength] at hi
        exact hi
      have hget : (first :: r.points)[i]? = some (first :: r.points).dropLast[i] := by
        rw [List.getElem_dropLast, List.getElem?_eq_getElem]
      rw [htime i _ hget]
      have hinner := lt_horizon (sub_pos.2 hstop) houtput hcount
      linarith
  · have haccrues : Sampled (Accrues dt) (point m) n seed (first :: r.points) := by
      refine hsampled.mono (I := Dated) ?_ ?_ hdated
      · exact fun s t hst hs => (step_accrues hparams hs hst).2
      · exact fun s t hst hs => (step_accrues hparams hs hst).1
    refine ⟨?_, n, dt, hdt, hndt, haccrues⟩
    refine haccrues.pairwise fun k s t hsteps p q hp hq => ?_
    obtain ⟨hptime, -, hplight, -⟩ := point_eq_some hp
    obtain ⟨hqtime, -, hqlight, -⟩ := point_eq_some hq
    rw [hptime, hqtime, hplight, hqlight]
    exact fun hday => light_of_steps hdt.le hsteps hday.symm

end Trajectories

/-! ## When a trajectory is returned -/

/-- `math.exp` raises for large arguments only. -/
def Maths.Returns (m : Maths) : Prop := ∀ x, x ≤ 709 → ∃ y, m.exp x = some y

/-- Physics without a division by zero: the saturation pressure has a value at every plausible
temperature, and the sun does not set as it rises. -/
structure Params.Regular (params : Params) : Prop where
  temperature : -2373 / 10 < params.envMin 0
  span : params.sunsetSod - params.sunriseSod ≠ 0

/-- Every zone whose valve is not open has a last close. -/
def Ready (state : State) : Prop :=
  ∀ zoneId v, state.soil zoneId = some v →
    (state.valveOpen zoneId).getD false = true ∨ ∃ e, state.lastCloseElapsedS zoneId = some e

section Total

variable {m : Maths} {params : Params} {setpoints : Setpoints} {dt : ℚ} {s t : State} {sod : Int}

theorem saturation_some (hm : m.Returns) {temperature : ℚ} (h : -2373 / 10 < temperature) :
    ∃ svp, saturationVaporPressureKpa m temperature = some svp := by
  have hpos : 0 < temperature + 2373 / 10 := by linarith
  have hexponent : 1727 / 100 * temperature / (temperature + 2373 / 10) ≤ 709 := by
    rw [div_le_iff₀ hpos]
    linarith
  obtain ⟨y, hy⟩ := hm _ hexponent
  refine ⟨61078 / 100000 * y, ?_⟩
  rw [saturationVaporPressureKpa, if_neg hpos.ne', hy, Option.map_some]

theorem projected_some (hparams : params.Regular) :
    ∃ light, projectedRemainingDli m params sod = some light := by
  unfold projectedRemainingDli
  split
  · exact ⟨_, rfl⟩
  · dsimp only
    rw [if_neg hparams.span]
    exact ⟨_, rfl⟩

theorem exists_ite_some {α : Type} {c : Prop} [Decidable c] (a b : α) :
    ∃ x, (if c then some a else some b) = some x := by
  split
  · exact ⟨a, rfl⟩
  · exact ⟨b, rfl⟩

theorem houseLevels_some (hm : m.Returns) (hparams : params.Regular)
    (hs : -2373 / 10 < s.climate 0) :
    ∃ levels, houseLevels m params setpoints s sod = some levels := by
  obtain ⟨svp, hsvp⟩ := saturation_some hm hs
  obtain ⟨light, hlight⟩ := @projected_some m params sod hparams
  unfold houseLevels rhTargetFromVpd
  dsimp only
  rw [hsvp, hlight]
  cases isDay sod setpoints with
  | true =>
    simp only [Option.map_some, Option.bind_eq_bind, Option.bind_some, if_true]
    exact exists_ite_some _ _
  | false =>
    simp only [Option.map_some, Option.bind_eq_bind, Option.bind_some, Bool.false_eq_true, if_false]
    exact exists_ite_some _ _

/-- The valve of a zone can be updated, and is ready again. -/
theorem updateValve_some (hs : Ready s) (zone : ZoneTargets) :
    ∃ t, updateValve sod s zone = some t ∧ Ready t := by
  unfold updateValve
  split
  · exact ⟨s, rfl, hs⟩
  · rename_i soil hsoil
    split
    · split
      · refine ⟨_, rfl, fun zoneId v hv => ?_⟩
        dsimp only at hv ⊢
        by_cases hzone : zoneId = zone.zoneId
        · subst hzone
          exact Or.inr ⟨s.elapsedS, Function.update_self _ _ _⟩
        · rw [Function.update_of_ne hzone, Function.update_of_ne hzone]
          exact hs zoneId v hv
      · exact ⟨s, rfl, hs⟩
    · rename_i hclosed
      obtain ⟨lastClose, hlast⟩ := (hs _ _ hsoil).resolve_left hclosed
      rw [hlast]
      dsimp only
      split
      · refine ⟨_, rfl, fun zoneId v hv => ?_⟩
        dsimp only at hv ⊢
        by_cases hzone : zoneId = zone.zoneId
        · subst hzone
          exact Or.inl (by rw [Function.update_self]; rfl)
        · rw [Function.update_of_ne hzone]
          exact hs zoneId v hv
      · exact ⟨s, rfl, hs⟩

theorem updateValves_some (hs : Ready s) :
    ∃ t, updateValves setpoints sod s = some t ∧ Ready t := by
  unfold updateValves
  generalize setpoints.zones = zones
  induction zones generalizing s with
  | nil => exact ⟨s, rfl, hs⟩
  | cons zone zones ih =>
    obtain ⟨u, hu, hready⟩ := @updateValve_some s sod hs zone
    obtain ⟨t, ht, hreadyt⟩ := ih hready
    refine ⟨t, ?_, hreadyt⟩
    rw [List.foldlM_cons, hu]
    exact ht

theorem relax_ready {levels : HouseActuator → ℚ} {solar decay : ℚ} {ended : Bool}
    (hs : Ready s) (h : relax m params dt levels solar decay s = (t, ended)) : Ready t := by
  have hkeys : ∀ zoneId v, t.soil zoneId = some v → ∃ v', s.soil zoneId = some v' := by
    intro zoneId v hv
    unfold relax at h
    dsimp only at h
    split at h
    all_goals
      cases h
      obtain ⟨v', hv', -⟩ := Option.map_eq_some_iff.1 hv
      exact ⟨v', hv'⟩
  have hvalves : t.valveOpen = s.valveOpen ∧ t.lastCloseElapsedS = s.lastCloseElapsedS := by
    unfold relax at h
    dsimp only at h
    split at h
    all_goals
      cases h
      exact ⟨rfl, rfl⟩
  intro zoneId v hv
  obtain ⟨v', hv'⟩ := hkeys zoneId v hv
  rw [hvalves.1, hvalves.2]
  exact hs zoneId v' hv'

/-- A step of a state that is ready and plausible. -/
theorem step_some (hm : m.Returns) (hparams : params.Sound) (hregular : params.Regular)
    (hdt : 0 ≤ dt) (hs : Inside params s ∧ Ready s) :
    ∃ t, step m params setpoints dt s = some (t, false) ∧ Inside params t ∧ Ready t := by
  obtain ⟨u, hu, hready⟩ := @updateValves_some setpoints s (secondOfDay s.clock) hs.2
  have hclimate : u.climate = s.climate := by rw [updateValves_only hu]
  have htemperature : -2373 / 10 < u.climate 0 := by
    rw [hclimate]
    exact hregular.temperature.trans_le (hs.1.climate 0).1
  obtain ⟨levels, hlevels⟩ := @houseLevels_some m params setpoints u (secondOfDay s.clock) hm
    hregular htemperature
  obtain ⟨decay, hdecay⟩ := hm (-dt / params.soilTauSeconds)
    ((div_nonpos_of_nonpos_of_nonneg (neg_nonpos.2 hdt) hparams.soilTau.le).trans (by norm_num))
  have hstep : step m params setpoints dt s = some (relax m params dt levels
      (solarFraction m params (secondOfDay s.clock)) decay u) := by
    unfold step
    simp only [Option.bind_eq_bind, hu, hlevels, hdecay, Option.bind_some]
  cases hrelax : relax m params dt levels (solarFraction m params (secondOfDay s.clock)) decay
    u with
  | mk t ended =>
    obtain ⟨hinside, rfl⟩ := relax_inside hparams hrelax
    exact ⟨t, hstep.trans (congrArg some hrelax), hinside, relax_ready hready hrelax⟩

/-- **When a trajectory is returned.** -/
theorem simulate_total (hm : m.Returns) (hparams : params.Sound) (hregular : params.Regular)
    {stop : Moment} {maxStep output : ℚ} (hmax : 0 < maxStep) (hout : 0 < output)
    (hs : Inside params s) (hready : Ready s) :
    ∃ result, simulate m params setpoints s stop maxStep output = some result := by
  have hpoint : ∀ s, Inside params s ∧ Ready s → ∃ p, point m s = some p := by
    intro s hs
    obtain ⟨svp, hsvp⟩ := saturation_some hm (hregular.temperature.trans_le (hs.1.climate 0).1)
    refine Option.isSome_iff_exists.1 ?_
    rw [point, vaporPressureDeficitKpa, hsvp]
    rfl
  obtain ⟨first, hfirst⟩ := hpoint s ⟨hs, hready⟩
  have hinside : climateInside params s.climate = true := decide_eq_true hs.climate
  have houtput : 0 < output * 60 := mul_pos hout (by norm_num)
  have htarget : 0 < min (maxStep * 60) controlStepCapSeconds :=
    lt_min (mul_pos hmax (by norm_num)) (by norm_num [controlStepCapSeconds])
  have hdt : 0 ≤ output * 60 / (subStepCount (output * 60)
      (min (maxStep * 60) controlStepCapSeconds) : ℚ) :=
    div_nonneg houtput.le (Nat.cast_nonneg _)
  obtain ⟨r, hr, -⟩ := Plant.rollout_total
    (P := Plant.mk (step m params setpoints _) (point m)) (I := fun s => Inside params s ∧ Ready s)
    (fun s hs => step_some hm hparams hregular hdt hs) hpoint
    (subStepCount (output * 60) (min (maxStep * 60) controlStepCapSeconds))
    (blockCount (stop - s.clock) (output * 60)) ⟨hs, hready⟩
  unfold simulate rollForward
  rw [hfirst]
  dsimp only
  rw [hinside, Bool.not_true, if_neg Bool.false_ne_true,
    if_neg (not_or.2 ⟨houtput.ne', htarget.ne'⟩), hr]
  exact ⟨_, rfl⟩

end Total

/-! ## Seeds -/

/-- **The seed of a planning context** is dated and ready. -/
theorem seed_ready {ctx : PlanningContext} {params : Params} {seed : State}
    (h : seedStateFromContext ctx params = some seed) : Dated seed ∧ Ready seed := by
  unfold seedStateFromContext at h
  simp only [Option.bind_eq_bind, Option.bind_eq_some_iff] at h
  obtain ⟨temperature, -, humidity, -, co2, -, par, -, h⟩ := h
  split at h
  · cases h
    refine ⟨rfl, fun zoneId v hv => Or.inr ⟨-10 ^ 18, ?_⟩⟩
    dsimp only at hv
    split at hv
    · rename_i hzone
      exact fromKeys_eq_some.2 ⟨hzone, rfl⟩
    · cases hv
  · cases h

end Greenhouse.Optimizer.Twin
