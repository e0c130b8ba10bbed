import Greenhouse.Controller.Simulation
import Greenhouse.Numeric.Finite

/-!
# The plant stays physical

Every number the simulated plant computes is finite, and its true state stays between the
physical limits it is clamped to, as long as its parameters are finite numbers, its commands are
percentages and the values forced on its sensors are finite.

* `Yields`: what a computation that draws from the generator returns, from any seed.
* `Regular`: the parameters; `regular_of_valid` is what validation gives of it.
* `Physical`: the state; `Physical.step` is what a tick of the plant preserves.
-/

namespace Greenhouse.Controller

open Greenhouse.Numeric Std

/-! ## Draws -/

/-- From any seed the computation returns a value with the property. -/
def Yields {α : Type} (m : StateM Rng α) (P : α → Prop) : Prop := ∀ r, P (m r).1

namespace Yields

variable {α β : Type} {P : α → Prop} {Q : β → Prop}

theorem pure {a : α} (h : P a) : Yields (Pure.pure a) P := fun _ => h

theorem bind {m : StateM Rng α} {f : α → StateM Rng β} (hm : Yields m P)
    (hf : ∀ a, P a → Yields (f a) Q) : Yields (m >>= f) Q :=
  fun r => hf _ (hm r) (m r).2

theorem mapM {l : List α} {f : α → StateM Rng β} (hf : ∀ a ∈ l, Yields (f a) Q) :
    Yields (l.mapM f) fun bs => ∀ b ∈ bs, Q b := by
  induction l with
  | nil => exact pure (List.forall_mem_nil Q)
  | cons a l ih =>
    rw [List.mapM_cons]
    refine (hf a List.mem_cons_self).bind fun b hb => ?_
    refine (ih fun a' ha' => hf a' (List.mem_cons_of_mem a ha')).bind fun bs hbs => ?_
    exact pure (List.forall_mem_cons.2 ⟨hb, hbs⟩)

end Yields

/-- What the functions of the library return on finite numbers. -/
structure SimLibm.Regular [SimLibm] : Prop where
  cos : ∀ x : F64, x.Finite → (Libm.cos x).Finite
  sin : ∀ x : F64, x.Finite → (SimLibm.sin x).Finite
  ln : ∀ q : ℚ, 0 < q → q ≤ 1 → ∃ r ≤ 0, SimLibm.ln (.fin q) = .fin r
  sqrt : ∀ q : ℚ, 0 ≤ q → (SimLibm.sqrt (.fin q)).Finite

namespace Rng

/-- A draw is the number that the top 53 bits of the raw value stand for. -/
theorem nextF64_value (r : Rng) :
    (nextF64 r).1 = .fin (((nextU64 r).1.toNat / 2 ^ 11 : Nat) / 2 ^ 53 : ℚ) := by
  change F64.ofNat ((nextU64 r).1 >>> 11).toNat / F64.ofNat (2 ^ 53) = _
  have hshift : ((nextU64 r).1 >>> 11).toNat = (nextU64 r).1.toNat / 2 ^ 11 := by
    rw [UInt64.toNat_shiftRight, Nat.shiftRight_eq_div_pow]
    rfl
  have hpow : ((2 ^ 53 : Nat) : ℚ) = 2 ^ 53 := by norm_num
  rw [hshift, ← hpow]
  exact F64.fin_div_fin (by norm_num)

theorem toNat_div_lt (u : UInt64) : u.toNat / 2 ^ 11 < 2 ^ 53 := by
  have hu := u.toNat_lt
  omega

/-- A draw lies in `[0, 1)`. -/
theorem nextF64_unit : Yields nextF64 fun u => ∃ q : ℚ, u = .fin q ∧ 0 ≤ q ∧ q < 1 := by
  intro r
  refine ⟨_, nextF64_value r, by positivity, ?_⟩
  rw [div_lt_one (by positivity)]
  exact_mod_cast toNat_div_lt _

/-- A normal sample is finite: the logarithm is taken of a number in `(0, 1]`. -/
theorem nextGaussian_finite [SimLibm] (h : SimLibm.Regular) :
    Yields nextGaussian F64.Finite := by
  refine nextF64_unit.bind fun u₁ hu₁ => nextF64_unit.bind fun u₂ hu₂ => .pure ?_
  obtain ⟨q, rfl, hq, hq1⟩ := hu₁
  obtain ⟨q', rfl, -, -⟩ := hu₂
  have hmin : minPositive = .fin (1 / 2 ^ 1022) := rfl
  have hsmall : (0 : ℚ) < 1 / 2 ^ 1022 := by positivity
  have hone : (1 : ℚ) / 2 ^ 1022 ≤ 1 := by
    rw [div_le_one (by positivity)]
    exact one_le_pow₀ (by norm_num)
  obtain ⟨r, hr, hln⟩ := h.ln (max q (1 / 2 ^ 1022)) (lt_max_of_lt_right hsmall)
    (max_le hq1.le hone)
  have htwo : (-2 : F64) = .fin (-2) := rfl
  rw [hmin, F64.maxNum_fin, hln, htwo, F64.fin_mul_fin]
  refine (h.sqrt _ (by linarith)).mul (h.cos _ ?_)
  exact ((F64.finite_lit 2).mul (F64.finite_fin _)).mul (F64.finite_fin q')

end Rng

/-! ## Parameters -/

/-- The time constants are finite and positive. -/
def TimeConstants.Positive (t : TimeConstants) : Prop :=
  ∀ v ∈ [t.temperatureS, t.humidityS, t.co2S, t.parS, t.soilMoistureS], v.Finite ∧ 0 < v

def Disturbances.numbers (d : Disturbances) : List F64 :=
  [d.outdoorTempC, d.ambientHumidityPct, d.heatLossCoeff, d.plantCo2UptakePpmPerS,
    d.soilDryingRatePerS, d.soilResidualVwc]

def Solar.numbers (s : Solar) : List F64 := [s.peakPar, s.peakHeatGainC]

def InitialState.numbers (s : InitialState) : List F64 :=
  [s.temperatureC, s.humidityPct, s.co2Ppm, s.soilMoisture]

def Noise.numbers (n : Noise) : List F64 :=
  [n.temperatureC, n.humidityPct, n.co2Ppm, n.par, n.soilMoisture]

/-- The numbers of a configuration that the plant computes with and no check bounds on both
sides, or that a check lets be `nan`. -/
def Config.plantNumbers (cfg : Config) : List F64 :=
  cfg.hal.disturbances.numbers ++ cfg.simulation.solar.numbers ++
    cfg.simulation.initial.numbers ++ cfg.simulation.noise.numbers

/-- What the check on a time constant says. -/
theorem positive_of_check {v : F64} (h : ¬ (v ≤ 0 ∨ ¬ v.isFinite = true)) : v.Finite ∧ 0 < v := by
  obtain ⟨hpos, hfin⟩ := not_or.1 h
  obtain ⟨q, rfl⟩ := F64.finite_iff.2 (not_not.1 hfin)
  rw [F64.zero_eq, F64.fin_le_fin] at hpos
  refine ⟨F64.finite_fin q, ?_⟩
  rw [F64.zero_eq, F64.fin_lt_fin]
  exact lt_of_not_ge hpos

theorem TimeConstants.positive_of_validate {t : TimeConstants} (h : t.validate = []) :
    t.Positive := by
  simp only [validate, List.flatMap_cons, List.flatMap_nil, List.append_eq_nil_iff,
    violationIf_eq_nil] at h
  obtain ⟨h₁, h₂, h₃, h₄, h₅, -⟩ := h
  simp only [Positive, List.forall_mem_cons, List.not_mem_nil, false_implies, implies_true,
    and_true]
  exact ⟨positive_of_check h₁, positive_of_check h₂, positive_of_check h₃, positive_of_check h₄,
    positive_of_check h₅⟩

/-- The gains of an accepted model are finite. -/
theorem ActuatorModel.gains_of_validate {i : Nat} {seen : List Actuator} {m : ActuatorModel}
    (h : m.validate i seen = []) : ∀ e ∈ m.effects, e.gain.Finite := by
  obtain ⟨h, -⟩ := List.append_eq_nil_iff.1 h
  obtain ⟨h, -⟩ := List.append_eq_nil_iff.1 h
  obtain ⟨-, h⟩ := List.append_eq_nil_iff.1 h
  intro e he
  obtain ⟨j, hj, rfl⟩ := List.getElem_of_mem he
  have hmem : (m.effects[j], j) ∈ m.effects.zipIdx := by
    rw [List.mk_mem_zipIdx_iff_getElem?, List.getElem?_eq_getElem hj]
  have hone := violationIf_eq_nil.1 (List.flatMap_eq_nil_iff.1 h _ hmem)
  exact F64.finite_iff.2 (not_not.1 hone)

theorem gains_of_validateModels {ms : List ActuatorModel} :
    ∀ {i : Nat} {seen : List Actuator}, validateModels i seen ms = [] →
      ∀ m ∈ ms, ∀ e ∈ m.effects, e.gain.Finite := by
  induction ms with
  | nil =>
    intro i seen _ m hm
    cases hm
  | cons m₀ ms ih =>
    intro i seen h m hm
    obtain ⟨h₀, hrest⟩ := List.append_eq_nil_iff.1 h
    rcases List.mem_cons.1 hm with rfl | hm
    · exact ActuatorModel.gains_of_validate h₀
    · exact ih hrest m hm

/-! ## The state -/

/-- Every level of the command is a percentage. -/
def Commands.AllPct (c : Commands) : Prop := ∀ id, (c.get id).IsPct

theorem Commands.AllPct.set {c : Commands} (h : c.AllPct) (id : ActuatorId) {level : F64}
    (hl : level.IsPct) : (c.set id level).AllPct := by
  intro i
  rw [Commands.get_set]
  split
  · rwa [hl.clampPct_eq]
  · exact h i

/-- Setting a list of actuators to percentages. -/
theorem Commands.AllPct.foldl_set {c : Commands} (h : c.AllPct) (ids : List ActuatorId)
    {level : ActuatorId → F64} (hl : ∀ id, (level id).IsPct) :
    (ids.foldl (fun c id => c.set id (level id)) c).AllPct :=
  List.foldlRecOn ids _ (motive := Commands.AllPct) h fun _ hc id _ => hc.set id (hl id)

theorem Commands.allPct_allOff (zoneIds : List Slug) : (Commands.allOff zoneIds).AllPct := by
  intro id
  rw [Commands.get_allOff]
  exact F64.isPct_zero

namespace SimulatedHal

/-- The parameters of the plant are finite, and its time constants are positive. -/
structure Regular (s : SimulatedHal) : Prop where
  tau : s.tau.Positive
  disturbances : ∀ x ∈ s.disturbances.numbers, x.Finite
  solar : ∀ x ∈ s.solar.numbers, x.Finite
  noise : ∀ x ∈ s.noise.numbers, x.Finite
  gains : ∀ m ∈ s.actuators, ∀ e ∈ m.effects, e.gain.Finite
  valve : s.valveSoilGain.Finite

/-- The true state lies between its physical limits, the levels of the actuators are
percentages, and what the sensors read is finite. -/
structure Physical (s : SimulatedHal) : Prop where
  temperature : s.temperature.Within (-50) 90
  humidity : s.humidity.Within 0 100
  co2 : s.co2.Within 0 20000
  par : s.par.Within 0 5000
  soil : ∀ (z : Slug) (v : F64), s.soil[z]? = some v → v.Within 0 1
  commanded : s.commanded.AllPct
  observed : s.observed.AllPct
  sampled : ∀ c v, s.currentReadings.channel c = some v → v.Finite
  forced : ∀ (c : SensorChannel) (inj : SensorInjection),
    s.sensorInjections[c]? = some inj → inj.value.Finite

section Numbers

variable {s : SimulatedHal}

theorem finite_dt : dt.Finite := F64.finite_ofNat _

/-- A first-order lag of finite numbers is finite. -/
theorem finite_lag {v tau target : F64} (hv : v.Finite) (htau : tau.Finite ∧ 0 < tau)
    (htarget : target.Finite) : (v + (dt / tau) * (target - v)).Finite :=
  hv.add ((finite_dt.div htau.1 htau.2).mul (htarget.sub hv))

theorem finite_scaled {gain level : F64} (hgain : gain.Finite) (hlevel : level.IsPct) :
    (gain * level / 100).Finite :=
  (hgain.mul hlevel.finite).div (F64.finite_lit 100) F64.zero_lt_hundred

theorem finite_houseActuatorSum (hr : s.Regular) (ho : s.observed.AllPct)
    (var : ClimateVariable) : (s.houseActuatorSum var).Finite := by
  unfold houseActuatorSum
  refine List.foldlRecOn s.actuators _ (motive := F64.Finite) (F64.finite_lit 0)
    fun sum hsum model hmodel => ?_
  split
  · exact hsum
  · refine List.foldlRecOn model.effects _ (motive := F64.Finite) hsum
      fun sum hsum effect heffect => ?_
    split
    · exact hsum.add (finite_scaled (hr.gains model hmodel effect heffect) (ho _))
    · exact hsum

theorem observeOne_isPct (hc : s.commanded.AllPct) (id : ActuatorId) :
    (s.observeOne id).IsPct := by
  unfold observeOne
  split
  · exact F64.isPct_hundred
  · exact F64.isPct_zero
  · exact hc id

theorem recomputeObserved_allPct (hc : s.commanded.AllPct) :
    s.recomputeObserved.observed.AllPct := by
  unfold recomputeObserved
  dsimp only
  exact (Commands.allPct_allOff s.zoneIds).foldl_set _ (observeOne_isPct hc)

theorem latch_allPct (s : SimulatedHal) {commands : Commands} (h : commands.AllPct) :
    (s.latch commands).commanded.AllPct := by
  unfold latch
  dsimp only
  exact (Commands.allPct_allOff s.zoneIds).foldl_set _ h

/-- The soil moisture of a zone after a tick lies between `0` and `1`. -/
theorem soilStep_within (hr : s.Regular) (ho : s.observed.AllPct) (z : Slug) {v : F64}
    (hv : v.Finite) : (s.soilStep z v).Within 0 1 := by
  have hresidual := hr.disturbances s.disturbances.soilResidualVwc (by simp [Disturbances.numbers])
  have hdrying := hr.disturbances s.disturbances.soilDryingRatePerS
    (by simp [Disturbances.numbers])
  have htau := hr.tau s.tau.soilMoistureS (by simp)
  have htarget : (s.valveSoilGain * (if s.effectSuppressed (.valve z) = true then 0
      else s.observed.get (.valve z)) / 100).Finite := by
    refine finite_scaled hr.valve ?_
    split
    · exact F64.isPct_zero
    · exact ho _
  unfold soilStep
  dsimp only
  generalize s.valveSoilGain * _ / 100 = target at htarget ⊢
  refine F64.within_clampBody (F64.Finite.ne_nan ?_) F64.zero_eq rfl zero_le_one
  split
  · exact finite_lag hv htau htarget
  · split
    · exact (hv.sub (hdrying.mul finite_dt)).maxNum hresidual
    · exact hv

variable [SimLibm]

theorem finite_solarFraction (hlibm : SimLibm.Regular) (clock : Clock) :
    (s.solarFraction clock).Finite := by
  unfold solarFraction
  dsimp only
  split
  · exact F64.finite_lit 0
  case isFalse hday =>
    simp only [not_or] at hday
    have hminutes : ∀ n : Nat, (F64.ofNat n * 60).Finite := fun n =>
      (F64.finite_ofNat n).mul (F64.finite_lit 60)
    generalize hsr : F64.ofNat s.solar.sunrise.minutesSinceMidnight * 60 = sr at hday ⊢
    generalize hss : F64.ofNat s.solar.sunset.minutesSinceMidnight * 60 = ss at hday ⊢
    obtain ⟨a, ha⟩ := hsr ▸ hminutes s.solar.sunrise.minutesSinceMidnight
    obtain ⟨b, hb⟩ := hss ▸ hminutes s.solar.sunset.minutesSinceMidnight
    subst ha hb
    refine (hlibm.sin _ ?_).maxNum (F64.finite_lit 0)
    refine (F64.finite_fin _).mul (((F64.finite_ofNat _).sub (F64.finite_fin a)).div
      ((F64.finite_fin b).sub (F64.finite_fin a)) ?_)
    have hab := hday.1
    rw [F64.fin_le_fin] at hab
    rw [F64.fin_sub_fin, F64.zero_eq, F64.fin_lt_fin]
    exact sub_pos.2 (lt_of_not_ge hab)

end Numbers

/-! ## What the operations preserve -/

section Operations

variable {s : SimulatedHal}

theorem Physical.soil_finite (h : s.Physical) (z : Slug) : (s.soil.getD z 0).Finite := by
  rw [TreeMap.getD_eq_getD_getElem?]
  cases hz : s.soil[z]? with
  | none => exact F64.finite_lit 0
  | some v => exact (h.soil z v hz).finite

theorem Physical.latch (h : s.Physical) {commands : Commands} (hc : commands.AllPct) :
    (s.latch commands).Physical :=
  { h with commanded := latch_allPct s hc }

theorem Physical.injectSensor (h : s.Physical) (channel : SensorChannel) {value : F64}
    (hv : value.Finite) (ttlTicks : Option Nat) :
    (s.injectSensor channel value ttlTicks).Physical := by
  refine { h with forced := fun c inj hinj => ?_ }
  rw [SimulatedHal.injectSensor, TreeMap.getElem?_insert] at hinj
  split at hinj
  · obtain rfl := Option.some.inj hinj
    exact hv
  · exact h.forced c inj hinj

theorem Physical.clearSensorInjection (h : s.Physical) (channel : SensorChannel) :
    (s.clearSensorInjection channel).Physical := by
  refine { h with forced := fun c inj hinj => ?_ }
  rw [SimulatedHal.clearSensorInjection, TreeMap.getElem?_erase] at hinj
  split at hinj
  · cases hinj
  · exact h.forced c inj hinj

theorem Regular.injectSensor (h : s.Regular) (channel : SensorChannel) (value : F64)
    (ttlTicks : Option Nat) : (s.injectSensor channel value ttlTicks).Regular := { h with }

theorem Regular.clearSensorInjection (h : s.Regular) (channel : SensorChannel) :
    (s.clearSensorInjection channel).Regular := { h with }

theorem Regular.recomputeObserved (h : s.Regular) : s.recomputeObserved.Regular := { h with }

theorem Regular.expire (h : s.Regular) : s.expire.Regular := { h with }

theorem Physical.recomputeObserved (h : s.Physical) : s.recomputeObserved.Physical :=
  { h with observed := recomputeObserved_allPct h.commanded }

theorem Physical.expire (h : s.Physical) : s.expire.Physical := by
  refine { h with forced := fun c inj hinj => ?_ }
  have hage : s.sensorInjections[c]?.bind SensorInjection.age = some inj :=
    TreeMap.getElem?_filterMap'.symm.trans hinj
  obtain ⟨inj', hget, hage⟩ := Option.bind_eq_some_iff.1 hage
  obtain ⟨n, -, rfl⟩ := Option.map_eq_some_iff.1 hage
  exact h.forced c inj' hget

variable [SimLibm]

/-- The plant stays between its limits. -/
theorem Physical.integrate (hlibm : SimLibm.Regular) (hr : s.Regular) (h : s.Physical)
    (clock : Clock) : (s.integrate clock).Physical := by
  have hsolar := finite_solarFraction (s := s) hlibm clock
  have hsum := finite_houseActuatorSum hr h.observed
  obtain ⟨houtdoor, hambient, hloss, huptake, -, -⟩ :
      s.disturbances.outdoorTempC.Finite ∧ s.disturbances.ambientHumidityPct.Finite ∧
        s.disturbances.heatLossCoeff.Finite ∧ s.disturbances.plantCo2UptakePpmPerS.Finite ∧
        s.disturbances.soilDryingRatePerS.Finite ∧ s.disturbances.soilResidualVwc.Finite := by
    simpa [Disturbances.numbers] using hr.disturbances
  obtain ⟨hpar, hheat⟩ : s.solar.peakPar.Finite ∧ s.solar.peakHeatGainC.Finite := by
    simpa [Solar.numbers] using hr.solar
  have htau := hr.tau
  have htemperature := finite_lag h.temperature.finite (htau s.tau.temperatureS (by simp))
    ((houtdoor.add (hheat.mul hsolar)).add (hsum .temperature))
  have hco2 := finite_lag h.co2.finite (htau s.tau.co2S (by simp))
    ((F64.finite_lit 420).add (hsum .co2))
  refine { h with temperature := ?_, humidity := ?_, co2 := ?_, par := ?_, soil := ?_ }
  · exact F64.within_clampBody (htemperature.add ((hloss.mul (houtdoor.sub htemperature)).mul
      finite_dt)).ne_nan rfl rfl (by norm_num)
  · exact F64.within_clampBody (finite_lag h.humidity.finite (htau s.tau.humidityS (by simp))
      (hambient.add (hsum .humidity))).ne_nan F64.zero_eq F64.hundred_eq (by norm_num)
  · refine F64.within_clampBody (F64.Finite.ne_nan ?_) F64.zero_eq rfl (by norm_num)
    split
    · exact hco2.sub (huptake.mul finite_dt)
    · exact hco2
  · exact F64.within_clampBody (finite_lag h.par.finite (htau s.tau.parS (by simp))
      ((hpar.mul hsolar).add (hsum .par))).ne_nan F64.zero_eq rfl (by norm_num)
  · refine List.foldlRecOn s.zoneIds _ (motive := fun m : TreeMap Slug F64 =>
      ∀ (z : Slug) (v : F64), m[z]? = some v → v.Within 0 1) h.soil fun m hm y _ z v hv => ?_
    rw [TreeMap.getElem?_modify] at hv
    split at hv
    · obtain ⟨w, hw, rfl⟩ := Option.map_eq_some_iff.1 hv
      exact soilStep_within hr h.observed y (hm y w hw).finite
    · exact hm z v hv

theorem finite_noisy (hlibm : SimLibm.Regular) {value sigma : F64} (hv : value.Finite)
    (hsigma : sigma.Finite) : Yields (noisy value sigma) F64.Finite :=
  (Rng.nextGaussian_finite hlibm).bind fun _ hg => .pure (hv.add (hg.mul hsigma))

/-- What is sampled is finite on every channel. -/
theorem finite_sampleReadings (hlibm : SimLibm.Regular) (hr : s.Regular)
    (ht : s.temperature.Finite) (hh : s.humidity.Finite) (hc : s.co2.Finite) (hp : s.par.Finite)
    (hsoil : ∀ z, (s.soil.getD z 0).Finite) :
    Yields s.sampleReadings fun r => ∀ c v, r.channel c = some v → v.Finite := by
  obtain ⟨hσt, hσh, hσc, hσp, hσs⟩ : s.noise.temperatureC.Finite ∧ s.noise.humidityPct.Finite ∧
      s.noise.co2Ppm.Finite ∧ s.noise.par.Finite ∧ s.noise.soilMoisture.Finite := by
    simpa [Noise.numbers] using hr.noise
  refine (Yields.mapM (Q := F64.Finite) fun t ht' => ?_).bind fun probes hprobes => ?_
  · rw [List.eq_of_mem_replicate ht']
    exact finite_noisy hlibm ht hσt
  refine (finite_noisy hlibm hh hσh).bind fun humidity hhumidity => ?_
  refine (finite_noisy hlibm hc hσc).bind fun co2 hco2 => ?_
  refine (finite_noisy hlibm hp hσp).bind fun par hpar => ?_
  refine (Yields.mapM (Q := fun p : Slug × F64 => p.2.Finite) fun z _ => ?_).bind
    fun soil hsoil' => .pure ?_
  · refine (finite_noisy hlibm (hsoil z) hσs).bind fun v hv => .pure ?_
    exact (F64.within_clampBody hv.ne_nan F64.zero_eq rfl zero_le_one).finite
  intro c v hv
  cases c with
  | temperatureProbe i => exact hprobes v (List.mem_of_getElem? hv)
  | humidity =>
    obtain rfl := Option.some.inj hv
    exact (F64.within_clampBody hhumidity.ne_nan F64.zero_eq F64.hundred_eq
      (by norm_num)).finite
  | co2 =>
    obtain rfl := Option.some.inj hv
    exact hco2.maxNum (F64.finite_lit 0)
  | par =>
    obtain rfl := Option.some.inj hv
    exact hpar.maxNum (F64.finite_lit 0)
  | soilMoisture z =>
    have hmap : ∀ (z : Slug) (v : F64),
        (soil.foldl (fun m p => m.insert p.1 p.2) (∅ : TreeMap Slug F64))[z]? = some v →
          v.Finite := by
      refine List.foldlRecOn soil _ (motive := fun m : TreeMap Slug F64 =>
        ∀ (z : Slug) (v : F64), m[z]? = some v → v.Finite) (fun z v hv => ?_)
        fun m hm p hp z v hv => ?_
      · rw [TreeMap.getElem?_emptyc] at hv
        cases hv
      · rw [TreeMap.getElem?_insert] at hv
        split at hv
        · obtain rfl := Option.some.inj hv
          exact hsoil' p hp
        · exact hm z v hv
    exact hmap z v hv

theorem Physical.sample (hlibm : SimLibm.Regular) (hr : s.Regular) (h : s.Physical) :
    s.sample.Physical :=
  { h with
    sampled := finite_sampleReadings hlibm hr h.temperature.finite h.humidity.finite h.co2.finite
      h.par.finite h.soil_finite s.rng }

theorem Regular.integrate (h : s.Regular) (clock : Clock) : (s.integrate clock).Regular :=
  { h with }

theorem Regular.sample (h : s.Regular) : s.sample.Regular := { h with }

theorem Regular.step (h : s.Regular) (clock : Clock) :
    (Hal.step s clock : SimulatedHal).Regular :=
  (h.recomputeObserved.integrate clock).sample.expire

/-- **A tick of the plant keeps it physical.** -/
theorem Physical.step (hlibm : SimLibm.Regular) (hr : s.Regular) (h : s.Physical)
    (clock : Clock) : (Hal.step s clock : SimulatedHal).Physical :=
  ((h.recomputeObserved.integrate hlibm hr.recomputeObserved clock).sample hlibm
    (hr.recomputeObserved.integrate clock)).expire

/-- What a sensor reads is finite. -/
theorem Physical.reads (h : s.Physical) {c : SensorChannel} {v : F64}
    (hv : (Hal.read s).channel c = some v) : v.Finite := by
  rw [read_channel] at hv
  obtain ⟨w, hw, rfl⟩ := Option.map_eq_some_iff.1 hv
  cases hc : s.sensorInjections[c]? with
  | none => exact h.sampled c w hw
  | some inj => exact h.forced c inj hc

end Operations

/-! ## The start -/

section Start

variable [SimLibm] {cfg : Config}

/-- The gain of the valve on soil moisture is one of the gains of the model. -/
theorem new_valveSoilGain (cfg : Config) : (new cfg).valveSoilGain = 0 ∨
    ∃ m ∈ cfg.hal.actuators, ∃ e ∈ m.effects, (new cfg).valveSoilGain = e.gain := by
  change (((cfg.hal.actuators.find? fun m => m.actuator = .irrigationValve).bind fun m =>
    m.effects.find? fun e => e.climateVariable = .soilMoisture).map (·.gain)).getD 0 = 0 ∨ _
  change _ ∨ ∃ m ∈ cfg.hal.actuators, ∃ e ∈ m.effects,
    (((cfg.hal.actuators.find? fun m => m.actuator = .irrigationValve).bind fun m =>
      m.effects.find? fun e => e.climateVariable = .soilMoisture).map (·.gain)).getD 0 = e.gain
  cases hm : cfg.hal.actuators.find? fun m => m.actuator = .irrigationValve with
  | none => exact Or.inl rfl
  | some m =>
    cases he : m.effects.find? fun e => e.climateVariable = .soilMoisture with
    | none =>
      rw [Option.bind_some, he]
      exact Or.inl rfl
    | some e =>
      rw [Option.bind_some, he]
      exact Or.inr ⟨m, List.mem_of_find?_eq_some hm, e, List.mem_of_find?_eq_some he, rfl⟩

/-- The parameters of an accepted configuration with finite numbers are regular. -/
theorem regular_of_valid (hcfg : cfg.Valid) (hnumbers : ∀ x ∈ cfg.plantNumbers, x.Finite) :
    (new cfg).Regular := by
  have hgains := gains_of_validateModels (List.append_eq_nil_iff.1 hcfg.hal).2
  have htau := (List.append_eq_nil_iff.1 (List.append_eq_nil_iff.1 hcfg.hal).1).1
  simp only [Config.plantNumbers, List.forall_mem_append] at hnumbers
  obtain ⟨⟨⟨hdisturbances, hsolar⟩, -⟩, hnoise⟩ := hnumbers
  refine ⟨TimeConstants.positive_of_validate htau, hdisturbances, hsolar, hnoise, hgains, ?_⟩
  rcases new_valveSoilGain cfg with hzero | ⟨m, hm, e, he, hgain⟩
  · rw [hzero]
    exact F64.finite_lit 0
  · rw [hgain]
    exact hgains m hm e he

/-- The plant starts physical. -/
theorem physical_of_valid (hlibm : SimLibm.Regular) (hcfg : cfg.Valid)
    (hnumbers : ∀ x ∈ cfg.plantNumbers, x.Finite) : (new cfg).Physical := by
  have hregular := regular_of_valid hcfg hnumbers
  have hinit : cfg.simulation.initial.validate = [] := by
    have hnone := Config.valid_iff.1 hcfg
    simp only [Config.violations, Simulation.validate, List.append_eq_nil_iff] at hnone
    exact hnone.1.2.1.2
  simp only [InitialState.validate, List.append_eq_nil_iff, checkRange_eq_nil] at hinit
  obtain ⟨⟨⟨ht, hh⟩, hc⟩, hs⟩ := hinit
  obtain ⟨hft, hfh, hfc, hfs⟩ : cfg.simulation.initial.temperatureC.Finite ∧
      cfg.simulation.initial.humidityPct.Finite ∧ cfg.simulation.initial.co2Ppm.Finite ∧
      cfg.simulation.initial.soilMoisture.Finite := by
    simp only [Config.plantNumbers, List.forall_mem_append] at hnumbers
    simpa [InitialState.numbers] using hnumbers.1.2
  have hsoil : ∀ (z : Slug) (v : F64), (new cfg).soil[z]? = some v → v.Within 0 1 := by
    refine List.foldlRecOn (cfg.zones.map (·.id)) _ (motive := fun m : TreeMap Slug F64 =>
      ∀ (z : Slug) (v : F64), m[z]? = some v → v.Within 0 1) (fun z v hv => ?_)
      fun m hm y _ z v hv => ?_
    · rw [TreeMap.getElem?_emptyc] at hv
      cases hv
    · rw [TreeMap.getElem?_insert] at hv
      split at hv
      · obtain rfl := Option.some.inj hv
        exact hfs.within (F64.zero_eq ▸ hs.1) hs.2
      · exact hm z v hv
  have hsoilAll : ∀ z, ((new cfg).soil.getD z 0).Finite := by
    intro z
    rw [TreeMap.getD_eq_getD_getElem?]
    cases hz : (new cfg).soil[z]? with
    | none => exact F64.finite_lit 0
    | some v => exact (hsoil z v hz).finite
  refine {
    temperature := ?_
    humidity := hfh.within (F64.zero_eq ▸ hh.1) (F64.hundred_eq ▸ hh.2)
    co2 := hfc.within (F64.zero_eq ▸ hc.1) hc.2
    par := ⟨0, F64.zero_eq, le_rfl, by norm_num⟩
    soil := hsoil
    commanded := Commands.allPct_allOff _
    observed := Commands.allPct_allOff _
    sampled := ?_
    forced := fun c inj hinj => ?_ }
  · have hrange : cfg.simulation.initial.temperatureC.Within (-20) 60 := hft.within ht.1 ht.2
    obtain ⟨q, hq, hlo, hhi⟩ := hrange
    exact ⟨q, hq, by linarith, by linarith⟩
  · exact finite_sampleReadings hlibm hregular hft hfh hfc (F64.finite_lit 0) hsoilAll _
  · change (∅ : TreeMap SensorChannel SensorInjection)[c]? = some inj at hinj
    rw [TreeMap.getElem?_emptyc] at hinj
    cases hinj

end Start

end SimulatedHal

end Greenhouse.Controller
