import Greenhouse.Controller.Bench
import Greenhouse.Process.Run

/-!
# The lighting loop over whole days

A run of the lighting loop: tick after tick it gets the trusted readings and the setpoints of the
tick, and the clock goes on.

* `Lit.Kept`: what the loop keeps: the light of the day of its last tick.
* `decide_spec`: the levels of a tick, which no setpoints make both positive.
* `lit_days`: **the integral is the light of the day so far, one of the two actuators rests, and
  outside the photoperiod both do.**
* `ControlState.run_lighting`: the control layer runs the loop.
-/

namespace Greenhouse.Controller

open Greenhouse.Numeric Greenhouse.Process

/-! ## Runs of the loop -/

/-- What the loop gets on a tick. The setpoints in the configuration may be any. -/
structure LightTick where
  trusted : TrustedState
  resolved : ResolvedSetpoints
  cfg : Config
  cmd : Commands

/-- The loop, the clock of its next tick and the command of its last one. -/
structure Lit where
  loop : LightingLoop := {}
  clock : Clock
  cmd : Commands := Commands.allOff []

namespace Lit

/-- A loop that has not run yet, whose clock starts at a second of some day. -/
def start (offset : ℕ) : Lit where
  clock := Clock.startingAtSeconds offset

/-- One tick; `none` is a panic. -/
def step? [Libm] (s : Lit) (e : LightTick) : Option Lit :=
  (s.loop.run e.trusted e.resolved s.clock e.cfg e.cmd).map fun (loop, cmd) =>
    { loop := loop, clock := s.clock.advance, cmd := cmd }

def Step [Libm] (s : Lit) (e : LightTick) (s' : Lit) : Prop := s.step? e = some s'

/-- The day of a second. -/
def dayOf (seconds : ℕ) : ℕ := seconds / Clock.daySecs

/-- The light of a tick, in mol. -/
def light (par : F64) : F64 := par * F64.ofNat dtSecs / 1000000

/-- The readings of a day among those of the ticks since the clock stood at `offset`. -/
def parsOf (offset day : ℕ) (es : List LightTick) : List F64 :=
  es.zipIdx.filterMap fun (e, i) =>
    if dayOf (offset + i * dtSecs) = day then e.trusted.par else none

/-- The light of a day. -/
def dayLight (offset day : ℕ) (es : List LightTick) : F64 :=
  ((parsOf offset day es).map light).foldl (· + ·) 0

/-- The photoperiod is on. -/
def InPhotoperiod (cfg : Config) (clock : Clock) : Prop :=
  cfg.setpoints.dayStart.minutesSinceMidnight ≤ clock.minuteOfDay ∧
    clock.minuteOfDay < cfg.setpoints.dayEnd.minutesSinceMidnight

instance (cfg : Config) (clock : Clock) : Decidable (InPhotoperiod cfg clock) :=
  inferInstanceAs (Decidable (_ ∧ _))

/-! ## The integral -/

/-- The light of a day after one more tick. -/
theorem dayLight_concat (offset day : ℕ) (es : List LightTick) (e : LightTick) :
    dayLight offset day (es ++ [e]) =
      match (if dayOf (offset + es.length * dtSecs) = day then e.trusted.par else none) with
      | some par => dayLight offset day es + light par
      | none => dayLight offset day es := by
  have hpars : parsOf offset day (es ++ [e]) = parsOf offset day es ++
      (if dayOf (offset + es.length * dtSecs) = day then e.trusted.par else none).toList := by
    rw [parsOf, parsOf, List.zipIdx_append, List.filterMap_append, Nat.zero_add]
    rfl
  rw [dayLight, hpars]
  cases (if dayOf (offset + es.length * dtSecs) = day then e.trusted.par else none) with
  | none => rw [Option.toList_none, List.append_nil]; rfl
  | some par =>
    rw [Option.toList_some, List.map_append, List.map_singleton, List.foldl_concat]
    rfl

/-- A day after every tick so far has no light yet. -/
theorem dayLight_of_lt {offset day : ℕ} {es : List LightTick}
    (h : ∀ i < es.length, dayOf (offset + i * dtSecs) < day) : dayLight offset day es = 0 := by
  have hnone : parsOf offset day es = [] := by
    rw [parsOf, List.filterMap_eq_nil_iff]
    rintro ⟨e, i⟩ hmem
    have hi : i < es.length := by simpa using List.snd_lt_of_mem_zipIdx hmem
    exact if_neg (h i hi).ne
  rw [dayLight, hnone]
  rfl

/-- What the loop keeps over the ticks so far: the light of the day it is in. -/
structure Kept (offset : ℕ) (es : List LightTick) (s : Lit) : Prop where
  clock : s.clock.simSeconds = offset + es.length * dtSecs
  past : ∀ i < es.length, dayOf (offset + i * dtSecs) ≤ s.loop.dayIndex
  today : s.loop.dayIndex ≤ dayOf s.clock.simSeconds
  light : s.loop.accumulatedMol = dayLight offset s.loop.dayIndex es

theorem kept_start (offset : ℕ) : Kept offset [] (start offset) where
  clock := rfl
  past := fun _ hi => absurd hi (Nat.not_lt_zero _)
  today := Nat.zero_le _
  light := rfl

/-- The loop restarts its integral when the day of the tick is another one. -/
theorem accumulate_eq (l : LightingLoop) (trusted : TrustedState) (clock : Clock) :
    (l.accumulate trusted clock).dayIndex = dayOf clock.simSeconds ∧
      (l.accumulate trusted clock).accumulatedMol =
        match trusted.par with
        | some par => (if dayOf clock.simSeconds = l.dayIndex then l.accumulatedMol else 0)
            + Lit.light par
        | none => if dayOf clock.simSeconds = l.dayIndex then l.accumulatedMol else 0 := by
  unfold LightingLoop.accumulate
  by_cases hday : dayOf clock.simSeconds = l.dayIndex
  · have hday' : clock.simSeconds / Clock.daySecs = l.dayIndex := hday
    simp only [hday', ne_eq, not_true_eq_false, if_false, hday, if_true]
    cases trusted.par <;> exact ⟨rfl, rfl⟩
  · have hday' : ¬ clock.simSeconds / Clock.daySecs = l.dayIndex := hday
    simp only [ne_eq, hday', not_false_eq_true, if_true, hday, if_false]
    cases trusted.par <;> exact ⟨rfl, rfl⟩

variable [Libm] {s s' : Lit} {e : LightTick} {es : List LightTick} {offset : ℕ}

/-- What a tick of the loop does. -/
theorem step_cases (h : Step s e s') : ∃ lights shade,
    (s.loop.accumulate e.trusted s.clock).decide e.trusted e.resolved s.clock e.cfg =
      some (lights, shade) ∧
    s' = { loop := s.loop.accumulate e.trusted s.clock
           clock := s.clock.advance
           cmd := (e.cmd.set (.house .growLights) lights).set (.house .shadeScreen) shade } := by
  obtain ⟨⟨loop, cmd⟩, hrun, rfl⟩ := Option.map_eq_some_iff.1 h
  obtain ⟨⟨lights, shade⟩, hdecide, hout⟩ := Option.bind_eq_some_iff.1 hrun
  cases hout
  exact ⟨lights, shade, hdecide, rfl⟩

theorem Kept.step (h : Kept offset es s) (hstep : Step s e s') :
    Kept offset (es ++ [e]) s' ∧ s'.loop.dayIndex = dayOf s.clock.simSeconds := by
  obtain ⟨lights, shade, -, rfl⟩ := step_cases hstep
  obtain ⟨hday, hlight⟩ := accumulate_eq s.loop e.trusted s.clock
  refine ⟨⟨?_, fun i hi => ?_, ?_, ?_⟩, hday⟩
  · change s.clock.simSeconds + dtSecs = _
    rw [h.clock, List.length_append, List.length_singleton, Nat.add_mul, Nat.one_mul, Nat.add_assoc]
  · rw [List.length_append, List.length_singleton] at hi
    change _ ≤ (s.loop.accumulate e.trusted s.clock).dayIndex
    rw [hday, h.clock]
    exact Nat.div_le_div_right (Nat.add_le_add_left (Nat.mul_le_mul_right _ (by omega)) _)
  · change (s.loop.accumulate e.trusted s.clock).dayIndex ≤ _
    rw [hday]
    exact Nat.div_le_div_right (Nat.le_add_right _ _)
  · change (s.loop.accumulate e.trusted s.clock).accumulatedMol =
      dayLight offset (s.loop.accumulate e.trusted s.clock).dayIndex _
    -- the light of the day of this tick, before the tick
    have hbefore : (if dayOf s.clock.simSeconds = s.loop.dayIndex then s.loop.accumulatedMol
        else 0) = dayLight offset (dayOf s.clock.simSeconds) es := by
      split
      case isTrue hsame => rw [hsame, h.light]
      case isFalse hother =>
        have hlater : s.loop.dayIndex < dayOf s.clock.simSeconds :=
          h.today.lt_of_ne (Ne.symm hother)
        exact (dayLight_of_lt fun i hi => (h.past i hi).trans_lt hlater).symm
    rw [hlight, hday, dayLight_concat, ← h.clock, if_pos rfl, hbefore]

theorem kept_of_run (hr : Run Step (start offset) es s) : Kept offset es s :=
  hr.history (P := Kept offset) (fun _ _ _ _ h hstep => (h.step hstep).1) (kept_start offset)

end Lit

/-! ## The levels -/

/-- What is not negative does not make a sum less than a summand. -/
theorem not_add_lt {a r t : F64} (hr : ¬ r < 0) (h : t ≤ a) : ¬ a + r < t := by
  rw [F64.zero_eq] at hr
  cases r with
  | fin r =>
    rw [F64.fin_lt_fin, not_lt] at hr
    cases a with
    | fin a =>
      cases t with
      | fin t =>
        rw [F64.fin_add_fin, F64.fin_lt_fin, not_lt]
        exact (F64.fin_le_fin.1 h).trans (le_add_of_nonneg_right hr)
      | posInf => exact absurd h Bool.false_ne_true
      | _ => simp
    | nan => exact absurd h (F64.not_le_nan t)
    | posInf => exact F64.not_posInf_lt t
    | negInf =>
      cases t with
      | negInf => exact F64.not_lt_self _
      | nan => exact F64.not_lt_nan _
      | _ => exact absurd h Bool.false_ne_true
  | nan =>
    rw [F64.add_nan]
    exact F64.not_nan_lt t
  | posInf =>
    cases a with
    | negInf => exact F64.not_nan_lt t
    | nan => exact F64.not_nan_lt t
    | _ => exact F64.not_posInf_lt t
  | negInf => exact absurd (F64.negInf_lt_fin 0) hr

section Levels

variable [Libm]

/-- The light to come is not negative, and its computation does not panic. -/
theorem expectedRemainingNaturalDli_spec
    (hcos : ∀ x : ℚ, ∃ c : ℚ, Libm.cos (.fin x) = .fin c ∧ -1 ≤ c ∧ c ≤ 1) (now sunrise sunset : ℚ)
    (peakPar : F64) : ∃ remaining, expectedRemainingNaturalDli (.fin now) (.fin sunrise)
      (.fin sunset) peakPar = some remaining ∧ ¬ remaining < 0 := by
  unfold expectedRemainingNaturalDli
  simp only [F64.fin_sub_fin, F64.zero_eq, F64.fin_le_fin]
  split
  case isTrue => exact ⟨.fin 0, rfl, F64.not_lt_self _⟩
  case isFalse h =>
    obtain ⟨hwindow, hpeak, -⟩ : ¬ sunset - sunrise ≤ 0 ∧ ¬ peakPar ≤ .fin 0 ∧ ¬ sunset ≤ now := by
      simpa only [not_or] using h
    have hpos : 0 < sunset - sunrise := not_le.1 hwindow
    have hclamp : (F64.fin now).clamp? (.fin sunrise) (.fin sunset) =
        some (.fin (min (max now sunrise) sunset)) := by
      rw [F64.clamp?_eq_some, F64.fin_le_fin, F64.clampBody_fin]
      exact ⟨(sub_pos.1 hpos).le, rfl⟩
    have hpi : (0 : ℚ) < 884279719003555 / 281474976710656 := by norm_num
    have hmillion : (1000000 : F64) = .fin 1000000 := by
      rw [F64.ofNat_lit]
      norm_num
    have hone : (1 : F64) = .fin 1 := by
      rw [F64.ofNat_lit]
      norm_num
    obtain ⟨c, hc, hlow, -⟩ := hcos (884279719003555 / 281474976710656 *
      (min (max now sunrise) sunset - sunrise) / (sunset - sunrise))
    rw [hclamp, Option.map_some, F64.pi, F64.fin_sub_fin, F64.fin_mul_fin, F64.fin_div_fin hpos.ne',
      F64.fin_div_fin hpi.ne', hc, hone, F64.fin_add_fin, hmillion]
    refine ⟨_, rfl, ?_⟩
    have hfactor := div_pos hpos hpi
    have hlight : 0 ≤ c + 1 := by linarith
    cases peakPar with
    | nan => exact F64.not_nan_lt _
    | negInf => exact absurd (F64.le_iff.2 (.inl (F64.negInf_lt_fin 0))) hpeak
    | fin p =>
      have hp : 0 < p := not_le.1 fun hle => hpeak (F64.fin_le_fin.2 hle)
      rw [F64.fin_div_fin (by norm_num), F64.fin_mul_fin, F64.fin_mul_fin, F64.fin_lt_fin, not_lt]
      exact mul_nonneg (mul_nonneg (div_nonneg hp.le (by norm_num)) hfactor.le) hlight
    | posInf =>
      have hinf : (F64.posInf / .fin 1000000 : F64) = .posInf := by
        decide
      have hscaled : (F64.posInf * .fin ((sunset - sunrise) /
          (884279719003555 / 281474976710656)) : F64) = .posInf :=
        (if_neg (not_lt.2 hfactor.le)).trans (if_pos hfactor)
      have hproduct : (F64.posInf * .fin (c + 1) : F64) = F64.infOfSign (c + 1) := rfl
      rw [hinf, hscaled, hproduct, F64.infOfSign, if_neg (not_lt.2 hlight)]
      split
      · exact F64.not_posInf_lt _
      · exact F64.not_nan_lt _

/-- **The levels of a tick**: each is on or off, they are not both on, and outside the photoperiod
both are off. -/
theorem decide_spec (hcos : ∀ x : ℚ, ∃ c : ℚ, Libm.cos (.fin x) = .fin c ∧ -1 ≤ c ∧ c ≤ 1)
    (l : LightingLoop) (trusted : TrustedState) (resolved : ResolvedSetpoints) (clock : Clock)
    (cfg : Config) : ∃ lights shade, l.decide trusted resolved clock cfg = some (lights, shade) ∧
      lights.IsPct ∧ shade.IsPct ∧ ¬ (0 < lights ∧ 0 < shade) ∧
      (¬ Lit.InPhotoperiod cfg clock → lights = 0 ∧ shade = 0) := by
  have hperiod : (cfg.setpoints.dayStart.minutesSinceMidnight ≤ clock.minuteOfDay &&
      clock.minuteOfDay < cfg.setpoints.dayEnd.minutesSinceMidnight) =
        decide (Lit.InPhotoperiod cfg clock) := (Bool.decide_and _ _).symm
  unfold LightingLoop.decide
  simp only [hperiod]
  split
  case h_1 =>
    refine ⟨_, 0, rfl, isPct_pctIf, F64.isPct_zero, fun h => F64.not_lt_self 0 h.2, fun hout => ?_⟩
    rw [if_neg (by simpa using hout)]
    exact ⟨rfl, rfl⟩
  case h_2 =>
    have hsixty : (60 : F64) = .fin 60 := by
      rw [F64.ofNat_lit]
      norm_num
    obtain ⟨remaining, heq, hremaining⟩ := expectedRemainingNaturalDli_spec hcos
      (clock.secondOfDay : ℚ) (cfg.setpoints.dayStart.minutesSinceMidnight * 60)
      (cfg.setpoints.dayEnd.minutesSinceMidnight * 60) cfg.setpoints.expectedPeakPar
    rw [hsixty, F64.ofNat, F64.ofNat, F64.ofNat, F64.fin_mul_fin, F64.fin_mul_fin, heq,
      Option.map_some]
    refine ⟨_, _, rfl, isPct_pctIf, isPct_pctIf, ?_, fun hout => ?_⟩
    · -- where the shade sheds light the target is met, and no projection falls short of it
      rintro ⟨hlights, hshade⟩
      split at hlights
      case isTrue hshort =>
        split at hshade
        case isTrue hmet => exact not_add_lt hremaining hmet.1 hshort.1
        case isFalse => exact F64.not_lt_self 0 hshade
      case isFalse => exact F64.not_lt_self 0 hlights
    · have hoff : decide (Lit.InPhotoperiod cfg clock) = false := decide_eq_false hout
      simp only [hoff, Bool.false_eq_true, and_false, if_false, and_self]

end Levels

/-! ## Whole days -/

/-- **The lighting loop over whole days.** On every tick of a run the accumulated light is that of
the trusted readings of the tick's day so far, the grow lights and the shade screen are not both
on, and outside the photoperiod both are off. -/
theorem lit_days [Libm]
    (hcos : ∀ x : ℚ, ∃ c : ℚ, Libm.cos (.fin x) = .fin c ∧ -1 ≤ c ∧ c ≤ 1) (offset : ℕ)
    {es : List LightTick} {s s' : Lit} {e : LightTick} (hr : Run Lit.Step (Lit.start offset) es s)
    (hstep : Lit.Step s e s') :
    s.clock.simSeconds = offset + es.length * dtSecs ∧
      s'.loop.accumulatedMol =
        Lit.dayLight offset (Lit.dayOf s.clock.simSeconds) (es ++ [e]) ∧
      ¬ (0 < s'.cmd.get (.house .growLights) ∧ 0 < s'.cmd.get (.house .shadeScreen)) ∧
      (¬ Lit.InPhotoperiod e.cfg s.clock → s'.cmd.get (.house .growLights) = 0 ∧
        s'.cmd.get (.house .shadeScreen) = 0) := by
  have hkept := Lit.kept_of_run hr
  obtain ⟨hnext, hday⟩ := hkept.step hstep
  refine ⟨hkept.clock, by rw [← hday, hnext.light], ?_⟩
  obtain ⟨lights, shade, hdecide, rfl⟩ := Lit.step_cases hstep
  obtain ⟨lights', shade', hdecide', hlights, hshade, hboth, hout⟩ := decide_spec hcos
    (s.loop.accumulate e.trusted s.clock) e.trusted e.resolved s.clock e.cfg
  cases hdecide.symm.trans hdecide'
  have hgetShade : ((e.cmd.set (.house .growLights) lights).set (.house .shadeScreen) shade).get
      (.house .shadeScreen) = shade := by
    rw [Commands.get_set_self, hshade.clampPct_eq]
  have hgetLights : ((e.cmd.set (.house .growLights) lights).set (.house .shadeScreen) shade).get
      (.house .growLights) = lights := by
    rw [Commands.get_set_of_ne (by decide), Commands.get_set_self, hlights.clampPct_eq]
  dsimp only
  rw [hgetLights, hgetShade]
  exact ⟨hboth, hout⟩

/-- The loop never panics: every run can go on with any tick. -/
theorem Lit.exists_step [Libm]
    (hcos : ∀ x : ℚ, ∃ c : ℚ, Libm.cos (.fin x) = .fin c ∧ -1 ≤ c ∧ c ≤ 1) (s : Lit)
    (e : LightTick) : ∃ s', Lit.Step s e s' := by
  obtain ⟨lights, shade, hdecide, -⟩ := decide_spec hcos (s.loop.accumulate e.trusted s.clock)
    e.trusted e.resolved s.clock e.cfg
  refine ⟨_, Option.map_eq_some_iff.2 ⟨(s.loop.accumulate e.trusted s.clock,
    (e.cmd.set (.house .growLights) lights).set (.house .shadeScreen) shade), ?_, rfl⟩⟩
  rw [LightingLoop.run, hdecide]
  rfl

/-- **The control layer runs the lighting loop**, on the command of the loops before it. -/
theorem ControlState.run_lighting [Libm] {s : ControlState} {trusted : TrustedState}
    {resolved : ResolvedSetpoints} {config : Config} {clock : Clock} {out : ControlOutput}
    (h : s.run trusted resolved config clock = some out) : ∃ cmd,
      Lit.Step ⟨s.lighting, clock, cmd⟩ ⟨trusted, resolved, config, cmd⟩
        ⟨out.state.lighting, clock.advance, out.cmd⟩ := by
  obtain ⟨⟨temperature, cmd₁, faults⟩, -, h⟩ := Option.bind_eq_some_iff.1 h
  obtain ⟨⟨lighting, cmd₂⟩, hlight, h⟩ := Option.bind_eq_some_iff.1 h
  cases h
  exact ⟨_, Option.map_eq_some_iff.2 ⟨(lighting, cmd₂), hlight, rfl⟩⟩

section Bench

attribute [local instance] Bench.firstOrder

/-- A bright tick of the bench. -/
def brightTick : LightTick where
  trusted := ⟨some 20, some 60, some 420, some 1000, some 1, ∅⟩
  resolved := ⟨20, some 60, 50, 85, 5, 1000, 15, 20⟩
  cfg := Bench.config {}
  cmd := Commands.allOff []

/-- Two bright ticks, the first of them the last one of its day: the second starts a new day. -/
theorem lit_days_bench : ∃ s s' : Lit, Run Lit.Step (Lit.start 86399) [brightTick] s ∧
    Lit.Step s brightTick s' ∧ s'.loop.accumulatedMol = 1e-3 ∧
      s'.cmd.get (.house .growLights) = 0 ∧ s'.cmd.get (.house .shadeScreen) = 0 := by
  have hcos : ∀ x : ℚ, ∃ c : ℚ, Libm.cos (.fin x) = .fin c ∧ -1 ≤ c ∧ c ≤ 1 :=
    fun _ => ⟨1, rfl, by norm_num, le_rfl⟩
  obtain ⟨s, hs⟩ := Lit.exists_step hcos (Lit.start 86399) brightTick
  obtain ⟨s', hs'⟩ := Lit.exists_step hcos s brightTick
  obtain ⟨hclock, hlight, -, hout⟩ := lit_days hcos 86399 (.single hs) hs'
  have hmidnight : s.clock.simSeconds = 86400 := hclock
  have hnight : ¬ Lit.InPhotoperiod brightTick.cfg s.clock := by
    rw [Lit.InPhotoperiod, Clock.minuteOfDay, Clock.secondOfDay, hmidnight]
    decide
  rw [hmidnight] at hlight
  refine ⟨s, s', .single hs, hs', hlight.trans ?_, hout hnight⟩
  decide +kernel

end Bench

end Greenhouse.Controller
