import Greenhouse.Controller.Bench
import Greenhouse.Numeric.Finite
import Greenhouse.Process.Run

/-!
# Heating, cooling and the sign of the error

The temperature loop is to heat below the setpoint and to cool above it. It selects its mode by
the sign of the PID output, and the output adds the clamped integral and the derivative of past
errors to the share of the error itself.

* `compute_eq`: the levels of a tick.
* `mode_iff`: the runs in which the sign of the error selects the mode are those in which the
  integral and the derivative never outweigh it.
* `signed_of_tame`: gains under which they never do.
-/

namespace Greenhouse.Controller

open Greenhouse.Numeric Greenhouse.Process

/-! ## One tick -/

namespace Pid

/-- What an update adds to the share of the error: the clamped integral and the derivative. -/
def carried (p : Pid) (integral error : F64) : F64 :=
  p.ki * integral + p.kd * derivative p.prevError error (F64.ofNat dtSecs)

theorem update_eq_some {p p' : Pid} {error output : F64}
    (h : p.update error (F64.ofNat dtSecs) = some (p', output)) :
    ∃ integral, (p.integral + error * F64.ofNat dtSecs).clamp? (-p.integralClamp) p.integralClamp =
        some integral ∧ p' = { p with integral := integral, prevError := some error } ∧
      output = p.kp * error + p.carried integral error := by
  obtain ⟨integral, hclamp, heq⟩ := Option.bind_eq_some_iff.1 h
  obtain ⟨rfl, rfl⟩ := Prod.mk.inj (Option.some.inj heq)
  exact ⟨integral, hclamp, rfl, F64.add_assoc ..⟩

end Pid

namespace TemperatureLoop

/-- What the loop reads on a tick: the trusted state and the setpoints. -/
structure Input where
  trusted : TrustedState
  resolved : ResolvedSetpoints

namespace Input

/-- The temperature stands within the band around the setpoint. -/
def Banded (i : Input) (temperature : F64) : Prop :=
  (i.resolved.temperatureC - temperature).abs ≤ deadbandC

instance (i : Input) (temperature : F64) : Decidable (i.Banded temperature) :=
  inferInstanceAs (Decidable ((i.resolved.temperatureC - temperature).abs ≤ deadbandC))

/-- The sign of the error selects the mode: no cooling below the setpoint, no heating above it,
neither in the band around it, and never both. -/
def Selects (i : Input) (heater cooling : F64) : Prop :=
  ¬ (0 < heater ∧ 0 < cooling) ∧ ∀ temperature, i.trusted.temperature = some temperature →
    (i.Banded temperature → heater = 0 ∧ cooling = 0) ∧
    (¬ i.Banded temperature → (temperature < i.resolved.temperatureC → ¬ 0 < cooling) ∧
      (i.resolved.temperatureC < temperature → ¬ 0 < heater))

end Input

/-- A loop and the levels of its last tick. -/
structure Driven where
  loop : TemperatureLoop
  last : Option (Input × F64 × F64) := none

namespace Driven

def start (cfg : Config) : Driven := { loop := new cfg }

/-- A tick of the loop; the faults it raises are left out. -/
def step? (cfg : Config) (d : Driven) (i : Input) : Option Driven :=
  (d.loop.compute i.trusted i.resolved cfg).map fun r => ⟨r.1, some (i, r.2.1, r.2.2.1)⟩

def Step (cfg : Config) (d : Driven) (i : Input) (d' : Driven) : Prop := d.step? cfg i = some d'

/-- The sign of the error selected the mode of the last tick. -/
def Signed (d : Driven) : Prop :=
  ∀ i heater cooling, d.last = some (i, heater, cooling) → i.Selects heater cooling

/-- Outside the band, what the PID carries does not outweigh the share of the error. -/
def Unopposed (d : Driven) (i : Input) : Prop :=
  ∀ temperature integral, i.trusted.temperature = some temperature → ¬ i.Banded temperature →
    let p := d.loop.pid
    let error := i.resolved.temperatureC - temperature
    (p.integral + error * F64.ofNat dtSecs).clamp? (-p.integralClamp) p.integralClamp =
      some integral →
    (temperature < i.resolved.temperatureC → ¬ p.kp * error < -p.carried integral error) ∧
      (i.resolved.temperatureC < temperature → ¬ -p.carried integral error < p.kp * error)

end Driven

theorem modeLevels_pos (output : F64) : (0 < (modeLevels output).1 ↔ 0 < output) ∧
    (0 < (modeLevels output).2 ↔ output < 0) := by
  unfold modeLevels
  by_cases hout : 0 < output
  · rw [if_pos hout]
    exact ⟨F64.clampPct_pos, iff_of_false (F64.not_lt_self 0) (F64.lt_asymm hout)⟩
  · rw [if_neg hout]
    refine ⟨iff_of_false (F64.not_lt_self 0) hout, ?_⟩
    exact F64.clampPct_pos.trans F64.neg_pos_iff

/-- The cooling level is the negated output as a percentage. -/
theorem modeLevels_cooling (output : F64) : (modeLevels output).2 = (-output).clampPct := by
  unfold modeLevels
  split
  case isFalse => rfl
  case isTrue hpos =>
    have hnan : -output ≠ .nan := by
      cases output with
      | nan => exact absurd hpos (F64.not_lt_nan 0)
      | _ => exact F64.noConfusion
    have hoff : ¬ 0 < (-output).clampPct := by
      rw [F64.clampPct_pos, F64.neg_pos_iff]
      exact F64.lt_asymm hpos
    exact ((F64.isPct_clampPct hnan).eq_zero hoff).symm

/-- The levels of a tick on which the temperature is known. -/
theorem compute_eq {l l' : TemperatureLoop} {i : Input} {cfg : Config} {heater cooling : F64}
    {faults : List Fault} {temperature : F64} (ht : i.trusted.temperature = some temperature)
    (h : l.compute i.trusted i.resolved cfg = some (l', heater, cooling, faults)) :
    ∃ pid output, l.pid.update (i.resolved.temperatureC - temperature) (F64.ofNat dtSecs) =
        some (pid, output) ∧ l'.pid = pid ∧
      (heater, cooling) = if i.Banded temperature then (0, 0) else modeLevels output := by
  unfold compute at h
  rw [ht] at h
  obtain ⟨⟨pid, output⟩, hupdate, h⟩ := Option.bind_eq_some_iff.1 h
  refine ⟨pid, output, hupdate, ?_⟩
  by_cases hband : i.Banded temperature
  · have hin : (i.resolved.temperatureC - temperature).abs ≤ deadbandC := hband
    rw [if_pos hband]
    dsimp only at h
    rw [if_pos hin] at h
    cases h
    exact ⟨rfl, rfl⟩
  · have hout : ¬ (i.resolved.temperatureC - temperature).abs ≤ deadbandC := hband
    rw [if_neg hband]
    dsimp only at h
    rw [if_neg hout] at h
    cases h
    refine ⟨?_, rfl⟩
    unfold noteSaturation
    split <;> rfl

/-! ## Runs -/

namespace Driven

variable {cfg : Config} {d d' : Driven} {i : Input} {es : List Input}

/-- **The mode of a tick** is selected by the sign of the error exactly when the loop carries
nothing that outweighs it. -/
theorem signed_iff (h : Step cfg d i d') : d'.Signed ↔ d.Unopposed i := by
  obtain ⟨⟨l, heater, cooling, faults⟩, hcompute, rfl⟩ := Option.map_eq_some_iff.1 h
  have hsigned : Driven.Signed ⟨l, some (i, heater, cooling)⟩ ↔ i.Selects heater cooling := by
    constructor
    · intro h
      exact h i heater cooling rfl
    · rintro h _ _ _ ⟨⟩
      exact h
  rw [hsigned]
  cases ht : i.trusted.temperature with
  | none =>
    unfold compute at hcompute
    rw [ht] at hcompute
    cases hcompute
    refine iff_of_true ⟨fun h => F64.not_lt_self 0 h.1, fun t hsome => ?_⟩ fun t _ hsome => ?_
    · exact (Option.some_ne_none t (hsome.symm.trans ht)).elim
    · exact (Option.some_ne_none t (hsome.symm.trans ht)).elim
  | some t =>
    obtain ⟨pid, output, hupdate, -, hlevels⟩ := compute_eq ht hcompute
    obtain ⟨integral, hclamp, -, rfl⟩ := Pid.update_eq_some hupdate
    obtain ⟨hheats, hcools⟩ := modeLevels_pos
      (d.loop.pid.kp * (i.resolved.temperatureC - t) +
        d.loop.pid.carried integral (i.resolved.temperatureC - t))
    by_cases hband : i.Banded t
    · rw [if_pos hband] at hlevels
      obtain ⟨rfl, rfl⟩ := Prod.mk.inj hlevels
      refine iff_of_true ⟨fun h => F64.not_lt_self 0 h.1, fun t' ht' => ?_⟩ fun t' _ ht' hout => ?_
      · refine ⟨fun _ => ⟨rfl, rfl⟩, fun hout => absurd ?_ hout⟩
        rwa [← Option.some.inj (ht.symm.trans ht')]
      · exact absurd (Option.some.inj (ht.symm.trans ht') ▸ hband) hout
    · rw [if_neg hband] at hlevels
      rw [← hlevels] at hheats hcools
      rw [F64.add_pos_iff] at hheats
      rw [F64.add_neg_iff] at hcools
      constructor
      · rintro ⟨-, hselects⟩ t' integral' ht' hout p error hclamp'
        obtain rfl := Option.some.inj (ht.symm.trans ht')
        obtain rfl := Option.some.inj (hclamp.symm.trans hclamp')
        obtain ⟨hbelow, habove⟩ := (hselects t ht).2 hout
        exact ⟨fun hlt => hcools.not.1 (hbelow hlt), fun hlt => hheats.not.1 (habove hlt)⟩
      · intro hunopposed
        obtain ⟨hbelow, habove⟩ := hunopposed t integral ht hband hclamp
        refine ⟨fun h => ?_, fun t' ht' => ?_⟩
        · exact F64.lt_asymm (hheats.1 h.1) (hcools.1 h.2)
        · obtain rfl := Option.some.inj (ht.symm.trans ht')
          refine ⟨fun h => absurd h hband, fun _ => ⟨fun hlt => ?_, fun hlt => ?_⟩⟩
          · exact hcools.not.2 (hbelow hlt)
          · exact hheats.not.2 (habove hlt)

/-- A reading of the given temperature, with the setpoint at 24 °C. -/
def reading (temperature : F64) : Input where
  trusted := ⟨some temperature, none, none, none, none, ∅⟩
  resolved := ⟨24, none, 50, 85, 5, 1000, 15, 20⟩

/-- Gains that are numbers, with no derivative and an integral that stays behind the error. -/
structure Tame (gains : PidConfig) (kp ki c : ℚ) : Prop where
  eq : gains = ⟨.fin kp, .fin ki, 0, .fin c⟩
  kp_nonneg : 0 ≤ kp
  ki_nonneg : 0 ≤ ki
  clamp_nonneg : 0 ≤ c
  weak : ki * (2 * c - 1) ≤ kp

/-- The integral and the last error are numbers, the integral within its clamp. -/
def Clamped (cfg : Config) (c : ℚ) (d : Driven) : Prop :=
  ∃ (q : ℚ) (prev : Option ℚ), |q| ≤ c ∧
    d.loop.pid = { Pid.fromConfig cfg.control.temperaturePid with
      integral := .fin q, prevError := prev.map F64.fin }

/-- The setpoint, and the temperature if it is known, are numbers. -/
def Measured (i : Input) : Prop :=
  (∃ s, i.resolved.temperatureC = .fin s) ∧
    ∀ t, i.trusted.temperature = some t → ∃ q, t = .fin q

variable {kp ki c : ℚ}

theorem clamp?_fin {x lo hi : ℚ} (h : lo ≤ hi) :
    (F64.fin x).clamp? (.fin lo) (.fin hi) = some (.fin (min (max x lo) hi)) :=
  F64.clamp?_eq_some.2 ⟨F64.fin_le_fin.2 h, F64.clampBody_fin ..⟩

theorem deadbandC_eq : deadbandC = .fin (1 / 2) := by decide +kernel

theorem fin_mul_dt (q : ℚ) : F64.fin q * F64.ofNat dtSecs = .fin q := by
  rw [F64.ofNat, F64.fin_mul_fin]
  norm_num [dtSecs]

theorem derivative_fin (prev : Option ℚ) (e : ℚ) :
    ∃ q : ℚ, Pid.derivative (prev.map F64.fin) (.fin e) (F64.ofNat dtSecs) = .fin q := by
  cases prev with
  | none => exact ⟨0, F64.zero_eq⟩
  | some prev =>
    refine ⟨(e - prev) / (dtSecs : ℚ), ?_⟩
    have hdt : (0 : F64) < F64.ofNat dtSecs := by decide
    simp only [Option.map_some, Pid.derivative, if_pos hdt]
    rw [F64.fin_sub_fin, F64.ofNat, F64.fin_div_fin (by decide)]

/-- An integral on the side of the error, or behind it by the clamp at most, is outweighed. -/
theorem Tame.outweighs {gains : PidConfig} (h : Tame gains kp ki c) {x q : ℚ}
    (hx : 1 / 2 ≤ x) (hintegral : x - c ≤ q ∨ 0 ≤ q) : -(ki * q) ≤ kp * x := by
  have hkp := h.kp_nonneg
  have hki := h.ki_nonneg
  have hweak := h.weak
  rcases hintegral with hbehind | hside
  · have hlag : ki * (c - x) ≤ ki * (c - 1 / 2) := by gcongr
    have hcarried : ki * -q ≤ ki * (c - x) := by
      gcongr
      linarith
    have hshare : kp * (1 / 2) ≤ kp * x := by gcongr
    linarith
  · have hcarried : 0 ≤ ki * q := mul_nonneg hki hside
    have hshare : 0 ≤ kp * x := mul_nonneg hkp (by linarith)
    linarith

/-- Tame gains carry nothing that outweighs the error. -/
theorem unopposed_of_tame (hgains : Tame cfg.control.temperaturePid kp ki c)
    (hd : Clamped cfg c d) (hi : Measured i) : d.Unopposed i := by
  obtain ⟨q, prev, hq, hpid⟩ := hd
  obtain ⟨⟨s, hs⟩, hknown⟩ := hi
  intro temperature integral ht hout p error hclamp
  obtain ⟨t, rfl⟩ := hknown temperature ht
  obtain ⟨hqlow, hqupp⟩ := abs_le.1 hq
  have hnonneg := hgains.clamp_nonneg
  have herror : error = .fin (s - t) := by
    change i.resolved.temperatureC - F64.fin t = _
    rw [hs, F64.fin_sub_fin]
  have hp : p = { kp := .fin kp, ki := .fin ki, kd := 0, integralClamp := .fin c,
                  integral := .fin q, prevError := prev.map F64.fin } := by
    change d.loop.pid = _
    rw [hpid, hgains.eq]
    rfl
  obtain ⟨slope, hslope⟩ := derivative_fin prev (s - t)
  have hintegral : integral = .fin (min (max (q + (s - t)) (-c)) c) := by
    rw [hp, herror, fin_mul_dt, F64.fin_add_fin, F64.neg_fin, clamp?_fin (by linarith)] at hclamp
    exact (Option.some.inj hclamp).symm
  have hcarried : p.carried integral error = .fin (ki * min (max (q + (s - t)) (-c)) c) := by
    rw [hp, herror, hintegral, Pid.carried, hslope, F64.zero_eq, F64.fin_mul_fin, F64.fin_mul_fin,
      F64.fin_add_fin, zero_mul, add_zero]
  have hshare : p.kp * error = .fin (kp * (s - t)) := by
    rw [hp, herror, F64.fin_mul_fin]
  rw [hcarried, hshare, hs, F64.neg_fin]
  simp only [F64.fin_lt_fin, not_lt]
  have hfar : 1 / 2 < |s - t| := by
    by_contra hband
    apply hout
    unfold Input.Banded
    rw [hs, F64.fin_sub_fin, F64.abs_fin, deadbandC_eq, F64.fin_le_fin]
    exact not_lt.1 hband
  constructor
  · intro hbelow
    rw [abs_of_pos (by linarith)] at hfar
    apply hgains.outweighs hfar.le
    by_cases hside : q + (s - t) ≤ c
    · left
      exact le_min ((by linarith : s - t - c ≤ q + (s - t)).trans (le_max_left _ _))
        (by linarith)
    · right
      rw [min_eq_right (le_max_of_le_left (not_le.1 hside).le)]
      exact hnonneg
  · intro habove
    rw [abs_of_neg (by linarith)] at hfar
    have hbound := hgains.outweighs (x := -(s - t))
      (q := -min (max (q + (s - t)) (-c)) c) hfar.le ?_
    · linarith
    · by_cases hside : -c ≤ q + (s - t)
      · left
        rw [max_eq_left hside]
        have := min_le_left (q + (s - t)) c
        linarith
      · right
        rw [max_eq_right (not_le.1 hside).le]
        have := min_le_left (-c) c
        linarith

theorem clamped_start (hgains : Tame cfg.control.temperaturePid kp ki c) :
    Clamped cfg c (start cfg) :=
  ⟨0, none, by rw [abs_zero]; exact hgains.clamp_nonneg, rfl⟩

theorem clamped_step (hgains : Tame cfg.control.temperaturePid kp ki c) (hd : Clamped cfg c d)
    (hi : Measured i) (h : Step cfg d i d') : Clamped cfg c d' := by
  obtain ⟨⟨l, heater, cooling, faults⟩, hcompute, rfl⟩ := Option.map_eq_some_iff.1 h
  obtain ⟨q, prev, hq, hpid⟩ := hd
  have hnonneg := hgains.clamp_nonneg
  cases ht : i.trusted.temperature with
  | none =>
    unfold compute at hcompute
    rw [ht] at hcompute
    cases hcompute
    refine ⟨0, none, by rwa [abs_zero], ?_⟩
    change d.loop.pid.reset = _
    rw [hpid]
    rfl
  | some temperature =>
    obtain ⟨s, hs⟩ := hi.1
    obtain ⟨t, rfl⟩ := hi.2 temperature ht
    obtain ⟨pid, output, hupdate, hl, -⟩ := compute_eq ht hcompute
    obtain ⟨integral, hclamp, rfl, -⟩ := Pid.update_eq_some hupdate
    have hp : d.loop.pid.integralClamp = .fin c := by
      rw [hpid, hgains.eq]
      rfl
    have hintegral : integral = .fin (min (max (q + (s - t)) (-c)) c) := by
      rw [hp, hpid, hs, F64.fin_sub_fin, fin_mul_dt, F64.fin_add_fin, F64.neg_fin,
        clamp?_fin (by linarith)] at hclamp
      exact (Option.some.inj hclamp).symm
    refine ⟨min (max (q + (s - t)) (-c)) c, some (s - t), ?_, ?_⟩
    · rw [abs_le]
      exact ⟨le_min (le_max_right (q + (s - t)) (-c)) (by linarith), min_le_right _ _⟩
    · change l.pid = _
      rw [hl, hintegral, hs, F64.fin_sub_fin, hpid]
      rfl

/-- **With tame gains the sign of the error always selects the mode.** -/
theorem signed_of_tame (hgains : Tame cfg.control.temperaturePid kp ki c)
    (h : Run (Step cfg) (start cfg) es d) (hes : ∀ i ∈ es, Measured i) : d.Signed := by
  have hrun : Run (Meeting (Step cfg) fun _ i => Measured i) (start cfg) es d :=
    h.meeting_of_forall (fun _ _ hi => hi) hes
  refine (hrun.invariant_of_meeting (I := fun d => Clamped cfg c d ∧ d.Signed) ?_
    ⟨clamped_start hgains, ?_⟩).2
  · intro d i d' hd hstep hi
    exact ⟨clamped_step hgains hd.1 hi hstep,
      (signed_iff hstep).2 (unopposed_of_tame hgains hd.1 hi)⟩
  · intro i heater cooling hlast
    exact (Option.some_ne_none _ hlast.symm).elim

end Driven

end TemperatureLoop

end Greenhouse.Controller
