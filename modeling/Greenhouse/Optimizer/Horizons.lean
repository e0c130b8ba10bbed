import Greenhouse.Optimizer.SeedCopies

/-!
# Forecasts over two horizons

A forecast is rolled forward in whole output intervals, so where it ends does not show in what
comes before: a forecast over a longer horizon is the one over the shorter horizon, and then the
one that starts from the state the shorter one ended in. Time is exact: a clock that rounds its
sub-steps drifts from the horizon it is measured against, and may then go on by an interval more.

* `blockCount_add`: the intervals of a longer horizon are those of the shorter one, and then those
  of the rest.
* `simulate_longer`: a longer forecast is a shorter one that goes on.
-/

namespace Greenhouse.Optimizer.Twin

open Greenhouse.Process

/-! ## Blocks -/

section Blocks

variable {horizon longer outputDt : ℚ}

theorem blockCount_mono (hdt : 0 < outputDt) (h : horizon ≤ longer) :
    blockCount horizon outputDt ≤ blockCount longer outputDt := by
  have hceil : ⌈horizon / outputDt⌉ ≤ ⌈longer / outputDt⌉ :=
    Int.ceil_le_ceil (div_le_div_of_nonneg_right h hdt.le)
  exact max_le_max le_rfl (Int.toNat_le_toNat hceil)

/-- A horizon that ends in the last interval of another has the intervals of the other. -/
theorem blockCount_eq (hdt : 0 < outputDt) (h : horizon ≤ longer)
    (hend : longer ≤ blockCount horizon outputDt * outputDt) :
    blockCount longer outputDt = blockCount horizon outputDt := by
  refine le_antisymm (max_le (blockCount_pos _ _) ?_) (blockCount_mono hdt h)
  have hceil : ⌈longer / outputDt⌉ ≤ (blockCount horizon outputDt : Int) := by
    rw [Int.ceil_le, div_le_iff₀ hdt]
    exact_mod_cast hend
  omega

/-- **The intervals of a longer horizon**, beyond the last interval of a shorter one. -/
theorem blockCount_add (hdt : 0 < outputDt)
    (hend : blockCount horizon outputDt * outputDt < longer) :
    blockCount longer outputDt = blockCount horizon outputDt
      + blockCount (longer - blockCount horizon outputDt * outputDt) outputDt := by
  have hrest : (longer - blockCount horizon outputDt * outputDt) / outputDt =
      longer / outputDt - (blockCount horizon outputDt : ℕ) := by
    rw [sub_div, mul_div_cancel_right₀ _ hdt.ne']
  have hlt : ((blockCount horizon outputDt : Int) : ℚ) < longer / outputDt := by
    rw [lt_div_iff₀ hdt]
    exact_mod_cast hend
  have hceil : (blockCount horizon outputDt : Int) < ⌈longer / outputDt⌉ := Int.lt_ceil.2 hlt
  have hpos := blockCount_pos horizon outputDt
  generalize blockCount horizon outputDt = k at *
  unfold blockCount
  rw [hrest, Int.ceil_sub_natCast]
  omega

end Blocks

/-! ## Going on -/

/-- Go on with a forecast, from the state it ended in, to the end of a horizon that it does not
cover. -/
def goOn (m : Maths) (params : Params) (setpoints : Setpoints) (stop : Moment)
    (maxStepMinutes outputIntervalMinutes : ℚ) (ended : State × Result) : Option Result :=
  if ended.2.diverged = true ∨ stop ≤ ended.1.clock then some ended.2
  else
    (simulate m params setpoints ended.1 stop maxStepMinutes outputIntervalMinutes).map fun rest =>
      ⟨ended.2.points ++ rest.points.tail, rest.diverged⟩

section

variable {m : Maths} {params : Params} {setpoints : Setpoints} {seed : State}
  {stop longer : Moment} {maxStep output : ℚ}

theorem goOn_ended {ended : State × Result}
    (h : ended.2.diverged = true ∨ stop ≤ ended.1.clock) :
    goOn m params setpoints stop maxStep output ended = some ended.2 := if_pos h

/-- The sub-steps of an output interval. -/
def subSteps (maxStep output : ℚ) : Nat :=
  subStepCount (output * 60) (min (maxStep * 60) controlStepCapSeconds)

/-- The plant that is rolled forward. -/
def plant (m : Maths) (params : Params) (setpoints : Setpoints) (maxStep output : ℚ) :
    Plant State PredictedPoint :=
  Plant.mk (step m params setpoints (output * 60 / subSteps maxStep output)) (point m)

/-- A forecast from a plausible state. -/
theorem rollForward_inside (hmax : 0 < maxStep) (hout : 0 < output)
    (hseed : ClimateInside params seed.climate) {first : PredictedPoint}
    (hfirst : point m seed = some first) :
    rollForward (step m params setpoints) (point m) params seed seed.clock seed.climate stop maxStep
        output =
      ((plant m params setpoints maxStep output).rollout (subSteps maxStep output)
        (blockCount (stop - seed.clock) (output * 60)) seed).map fun r =>
          (r.final, ⟨first :: r.points, r.halted⟩) := by
  have hinside : climateInside params seed.climate = true := decide_eq_true hseed
  have houtput : 0 < output * 60 := mul_pos hout (by norm_num)
  have htarget : 0 < min (maxStep * 60) controlStepCapSeconds :=
    lt_min (mul_pos hmax (by norm_num)) (by norm_num [controlStepCapSeconds])
  unfold rollForward
  rw [hfirst]
  dsimp only
  rw [hinside, Bool.not_true, if_neg Bool.false_ne_true,
    if_neg (not_or.2 ⟨houtput.ne', htarget.ne'⟩)]
  rfl

/-- Where a rollout that does not halt ends. -/
theorem final_of_rollout (hparams : params.Sound)
    (hseed : ClimateInside params seed.climate) {k : Nat} {r : Rollout State PredictedPoint}
    (h : (plant m params setpoints maxStep output).rollout (subSteps maxStep output) k seed =
      some r)
    (hr : r.halted = false) :
    r.final.clock = seed.clock + k * (output * 60) ∧ ClimateInside params r.final.climate := by
  have hsteps := Plant.steps_of_rollout h hr
  constructor
  · have hn : (subSteps maxStep output : ℚ) ≠ 0 :=
      Nat.cast_ne_zero.2 (subStepCount_pos _ _).ne'
    rw [clock_of_steps (fun s t hst => step_clock hparams hst) hsteps]
    push_cast
    rw [mul_assoc, mul_div_cancel₀ _ hn]
  · exact hsteps.keeps (I := fun s => ClimateInside params s.climate)
      (fun s t hst _ => (step_inside hparams hst).1.climate) hseed

/-- A longer forecast is the shorter one, gone on with. -/
theorem simulate_eq_bind (hparams : params.Sound) (hmax : 0 < maxStep) (hout : 0 < output)
    (hstop : stop ≤ longer) :
    simulate m params setpoints seed longer maxStep output =
      (rollForward (step m params setpoints) (point m) params seed seed.clock seed.climate stop
        maxStep output).bind (goOn m params setpoints longer maxStep output) := by
  have houtput : 0 < output * 60 := mul_pos hout (by norm_num)
  cases hfirst : point m seed with
  | none =>
    unfold simulate rollForward
    rw [hfirst]
    rfl
  | some first =>
    by_cases hseed : ClimateInside params seed.climate
    case neg =>
      have hinside : climateInside params seed.climate = false := decide_eq_false hseed
      unfold simulate rollForward
      rw [hfirst]
      dsimp only
      rw [hinside, Bool.not_false, if_pos rfl, if_pos rfl, Option.map_some, Option.bind_some,
        goOn_ended (Or.inl rfl)]
    case pos =>
      rw [simulate, rollForward_inside hmax hout hseed hfirst,
        rollForward_inside hmax hout hseed hfirst]
      set k := blockCount (stop - seed.clock) (output * 60)
      by_cases hend : longer - seed.clock ≤ k * (output * 60)
      case pos =>
        rw [blockCount_eq houtput (sub_le_sub_right hstop _) hend]
        cases hr : (plant m params setpoints maxStep output).rollout (subSteps maxStep output) k
          seed with
        | none => rfl
        | some r =>
          have hdone : r.halted = true ∨ longer ≤ r.final.clock := by
            cases hhalted : r.halted with
            | true => exact Or.inl rfl
            | false =>
              rw [(final_of_rollout hparams hseed hr hhalted).1]
              exact Or.inr (by linarith)
          exact (goOn_ended hdone).symm
      case neg =>
        rw [blockCount_add houtput (not_le.1 hend), Plant.rollout_add]
        cases hr : (plant m params setpoints maxStep output).rollout (subSteps maxStep output) k
          seed with
        | none => rfl
        | some r =>
          rw [Option.bind_some, Option.map_some, Option.bind_some]
          by_cases hhalted : r.halted = true
          case pos =>
            rw [Rollout.andThen, if_pos hhalted, goOn_ended (Or.inl hhalted)]
            rfl
          case neg =>
            replace hhalted : r.halted = false := Bool.eq_false_iff.2 hhalted
            obtain ⟨hclock, hinside⟩ := final_of_rollout hparams hseed hr hhalted
            obtain ⟨mid, hmid⟩ := Plant.observe_final hr hhalted hfirst
            have hbefore : ¬ longer ≤ r.final.clock := by
              rw [hclock]
              linarith
            have hrest : longer - r.final.clock = longer - seed.clock - k * (output * 60) := by
              rw [hclock]
              ring
            rw [Rollout.andThen, if_neg (by simp [hhalted]), goOn,
              if_neg (by simp [hhalted, hbefore]), simulate,
              rollForward_inside hmax hout hinside hmid, hrest, Option.map_map, Option.map_map,
              Option.map_map, Option.map_map]
            rfl

/-- Going on keeps the points that are there. -/
theorem prefix_of_goOn {ended : State × Result} {result : Result}
    (h : goOn m params setpoints stop maxStep output ended = some result) :
    ended.2.points <+: result.points := by
  unfold goOn at h
  split at h
  · cases h
    exact List.prefix_rfl
  · obtain ⟨rest, -, rfl⟩ := Option.map_eq_some_iff.1 h
    exact List.prefix_append _ _

/-- **A longer forecast is a shorter one that goes on**, in exact time, as where a sub-step is a
whole number of microseconds. It raises an exception or diverges
where the shorter one does; it is the shorter one where the last output interval of that covers
the longer horizon; and otherwise it is the points of the shorter one, and then those of the
forecast that starts from the state which the shorter one ended in. So the points of the shorter
one are the first ones of the longer one. -/
theorem simulate_longer (hparams : params.Sound) (hmax : 0 < maxStep) (hout : 0 < output)
    (hstop : stop ≤ longer) :
    simulate m params setpoints seed longer maxStep output =
      (rollForward (step m params setpoints) (point m) params seed seed.clock seed.climate stop
        maxStep output).bind (goOn m params setpoints longer maxStep output) ∧
    ∀ shorter result, simulate m params setpoints seed stop maxStep output = some shorter →
      simulate m params setpoints seed longer maxStep output = some result →
      shorter.points <+: result.points := by
  have hbind := @simulate_eq_bind m params setpoints seed stop longer maxStep output hparams hmax
    hout hstop
  refine ⟨hbind, fun shorter result hshorter hresult => ?_⟩
  obtain ⟨ended, hended, rfl⟩ := Option.map_eq_some_iff.1 hshorter
  rw [hbind, hended, Option.bind_some] at hresult
  exact prefix_of_goOn hresult

end

/-- A night's forecast over two hours and over four. -/
theorem simulate_longer_night :
    simulate Bench.maths Bench.params Bench.targets Bench.night
        (Bench.night.clock + 14400) 1 60 =
      (rollForward (step Bench.maths Bench.params Bench.targets) (point Bench.maths)
        Bench.params Bench.night Bench.night.clock Bench.night.climate
        (Bench.night.clock + 7200) 1 60).bind
        (goOn Bench.maths Bench.params Bench.targets (Bench.night.clock + 14400) 1 60) :=
  (simulate_longer Bench.sound_params (by norm_num) (by norm_num)
    (add_le_add le_rfl (by norm_num))).1

end Greenhouse.Optimizer.Twin
