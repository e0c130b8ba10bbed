import Greenhouse.Controller.Interlocks
import Greenhouse.Controller.Bench

/-!
# The interlock stage over whole runs

A `Feed` is a configuration with a sequence of trusted readings and of commands entering
the stage, one for each tick. The two latches follow one law (`Latch.Driven.hold`,
`Latch.Driven.release`): from the tick it asserts, a latch stays asserted up to the first
tick that permits the clear, and clears on that tick.

* `interlock_runs`: what the command leaving the stage is forced to over the run. For the
  critical temperature this holds over available readings; for the CO₂ ceiling the
  outputs are forced exactly on the ticks with a reading.
* `ceiling_dropped`: with the CO₂ reading gone, an asserted interlock forces nothing.
-/

namespace Greenhouse.Controller

open Greenhouse.Numeric Std

/-! ## One latch -/

namespace Latch

/-- From tick `a` to tick `b`, each latch is the one before it, updated. -/
def Driven (latch : Nat → Latch) (isOver recovered : Nat → Bool) (clock : Nat → Clock)
    (minHold a b : Nat) : Prop :=
  ∀ k, a ≤ k → k ≤ b →
    latch (k + 1) = (latch k).update (isOver k) (recovered k) (clock k) minHold

variable {latch : Nat → Latch} {isOver recovered : Nat → Bool} {clock : Nat → Clock}
  {minHold a b : Nat}

/-- From the tick it asserts, a latch keeps its assert tick while nothing permits the clear. -/
theorem Driven.hold (h : Driven latch isOver recovered clock minHold a b)
    (hclock : ∀ n, (clock n).tickIndex = (clock 0).tickIndex + n)
    (hclear : (latch a).asserted = false) (hover : isOver a = true) :
    ∀ n, a + n ≤ b → (∀ k, a < k → k ≤ a + n → ¬ (recovered k = true ∧ minHold ≤ k - a)) →
      latch (a + n + 1) = { asserted := true, assertedAtTick := (clock a).tickIndex } := by
  intro n
  induction n with
  | zero =>
    intro hb _
    rw [Nat.add_zero, h a le_rfl hb, update_of_clear hclear, if_pos hover]
  | succ n ih =>
    intro hb hno
    have hprev := ih (by omega) fun k hk hle => hno k hk (by omega)
    have hstay := hno (a + (n + 1)) (by omega) le_rfl
    rw [h (a + (n + 1)) (by omega) hb, ← Nat.add_assoc, hprev, update_of_asserted rfl, if_neg]
    dsimp only
    rw [hclock (a + n + 1), hclock a]
    exact fun hrec => hstay ⟨hrec.1, by omega⟩

/-- On the first tick that permits it, the latch clears. -/
theorem Driven.release {r : Nat} (h : Driven latch isOver recovered clock minHold a r)
    (hclock : ∀ n, (clock n).tickIndex = (clock 0).tickIndex + n)
    (hclear : (latch a).asserted = false) (hover : isOver a = true) (har : a < r)
    (hno : ∀ k, a < k → k < r → ¬ (recovered k = true ∧ minHold ≤ k - a))
    (hrec : recovered r = true) (hheld : minHold ≤ r - a) :
    (latch (r + 1)).asserted = false := by
  obtain ⟨n, rfl⟩ : ∃ n, r = a + n + 1 := ⟨r - a - 1, by omega⟩
  have hprev := h.hold hclock hclear hover n (by omega) fun k hk hle => hno k hk (by omega)
  rw [h (a + n + 1) (by omega) le_rfl, hprev, update_of_asserted rfl, if_pos]
  dsimp only
  rw [hclock (a + n + 1), hclock a]
  exact ⟨hrec, by omega⟩

end Latch

/-! ## Feeds of the stage -/

/-- A configuration, and what enters the interlock stage on each tick. -/
structure Feed where
  cfg : Config
  clock : Clock
  trusted : Nat → TrustedState
  cmd : Nat → Commands

namespace Feed

variable {F : Feed} {a n r : Nat}

/-- The clock of tick `n`. -/
def clockAt (F : Feed) : Nat → Clock
  | 0 => F.clock
  | n + 1 => (F.clockAt n).advance

/-- The interlock state before tick `n`. -/
def state (F : Feed) : Nat → InterlockState
  | 0 => {}
  | n + 1 => ((F.state n).apply (F.trusted n) F.cfg (F.clockAt n) (F.cmd n)).1

/-- The command leaving the stage on tick `n`, with the actuators it forces. -/
def out (F : Feed) (n : Nat) : Forcing :=
  ((F.state n).apply (F.trusted n) F.cfg (F.clockAt n) (F.cmd n)).2.1

theorem clockAt_tickIndex (F : Feed) (n : Nat) :
    (F.clockAt n).tickIndex = (F.clockAt 0).tickIndex + n := by
  induction n with
  | zero => rfl
  | succ n ih =>
    change (F.clockAt n).advance.tickIndex = _
    rw [Clock.advance_tickIndex, ih, Nat.add_assoc]

/-! ### The CO₂ ceiling -/

/-- The ceiling interlock asserts on tick `a`: it was clear, and the reading is above. -/
def AssertsCeiling (F : Feed) (a : Nat) : Prop :=
  (F.state a).co2Ceiling.asserted = false ∧
    ∃ c, (F.trusted a).co2 = some c ∧ F64.ofNat F.cfg.safety.co2CeilingPpm < c

/-- Tick `n` permits the clear of a ceiling interlock asserted on tick `a`. -/
def ClearsCeiling (F : Feed) (a n : Nat) : Prop :=
  (∃ c, (F.trusted n).co2 = some c ∧ c < F64.ofNat F.cfg.safety.co2CeilingPpm
    - F.cfg.safety.interlockRearmHysteresis.co2Ppm) ∧
  F.cfg.safety.interlockMinHoldSecs ≤ n - a

/-- The outputs of the ceiling interlock are forced on tick `n`. -/
def ForcesCeiling (F : Feed) (n : Nat) : Prop :=
  (F.out n).Forces .roofVents 100 ∧ (F.out n).Forces .co2Injector 0

/-- The ceiling interlock is clear after tick `n`, and does not force the injector on it. -/
def ReleasesCeiling (F : Feed) (n : Nat) : Prop :=
  (F.state (n + 1)).co2Ceiling.asserted = false ∧ .house .co2Injector ∉ (F.out n).forced

def ceilingOver (F : Feed) (n : Nat) : Bool :=
  (F.trusted n).co2.any fun c => InterlockState.co2Over c F.cfg

def ceilingRecovered (F : Feed) (n : Nat) : Bool :=
  (F.trusted n).co2.any fun c => InterlockState.co2Recovered c F.cfg

/-- A tick without a reading moves the latch like one that is neither over nor recovered. -/
theorem ceiling_driven (F : Feed) (a b : Nat) :
    Latch.Driven (fun n => (F.state n).co2Ceiling) F.ceilingOver F.ceilingRecovered F.clockAt
      F.cfg.safety.interlockMinHoldSecs a b := by
  intro k _ _
  change ((F.state k).apply _ _ _ _).1.co2Ceiling = _
  rw [InterlockState.apply_co2Ceiling, ceilingOver, ceilingRecovered]
  cases (F.trusted k).co2 with
  | none =>
    rw [InterlockState.applyCo2_unavailable]
    simp [Latch.update]
  | some c => exact InterlockState.applyCo2_latch

theorem clearsCeiling_iff :
    F.ClearsCeiling a n ↔
      F.ceilingRecovered n = true ∧ F.cfg.safety.interlockMinHoldSecs ≤ n - a := by
  rw [ceilingRecovered, Option.any_eq_true]
  simp only [InterlockState.co2Recovered, decide_eq_true_eq]
  rfl

theorem AssertsCeiling.isOver (h : F.AssertsCeiling a) : F.ceilingOver a = true := by
  obtain ⟨-, c, hc, hover⟩ := h
  exact (Option.any_eq_true _ _).2 ⟨c, hc, decide_eq_true hover⟩

/-- While nothing clears it, the interlock is asserted after every tick. -/
theorem AssertsCeiling.asserted (h : F.AssertsCeiling a) (han : a ≤ n)
    (hno : ∀ k, a < k → k ≤ n → ¬ F.ClearsCeiling a k) :
    (F.state (n + 1)).co2Ceiling.asserted = true := by
  obtain ⟨m, rfl⟩ := Nat.exists_eq_add_of_le han
  have hlatch := (F.ceiling_driven a (a + m)).hold F.clockAt_tickIndex h.1 h.isOver m le_rfl
    fun k hk hle hrec => hno k hk hle (clearsCeiling_iff.2 hrec)
  exact congrArg Latch.asserted hlatch

/-- The temperature half never forces the injector. -/
theorem injector_not_forced (latch : Latch) (temperature : Option F64) (cfg : Config)
    (clock : Clock) (cmd : Commands) :
    .house .co2Injector ∉
      (InterlockState.applyTemperature latch temperature cfg clock ⟨cmd, ∅⟩).2.1.forced := by
  intro h
  unfold InterlockState.applyTemperature at h
  split at h
  · dsimp only at h
    split at h
    · simp [InterlockState.fullCooling, Forcing.force, TreeSet.mem_insert] at h
    · exact absurd h TreeSet.not_mem_emptyc
  · simp [InterlockState.blindHold, Forcing.force, TreeSet.mem_insert] at h

/-- **An asserted ceiling interlock forces its outputs exactly when there is a reading.** -/
theorem forcesCeiling_iff (h : (F.state (n + 1)).co2Ceiling.asserted = true) :
    F.ForcesCeiling n ↔ (F.trusted n).co2 ≠ none := by
  cases hco2 : (F.trusted n).co2 with
  | none =>
    refine iff_of_false (fun hf => ?_) fun hn => hn rfl
    have hmem := hf.2.2
    rw [out, InterlockState.apply_forcing, hco2, InterlockState.applyCo2_unavailable] at hmem
    exact injector_not_forced _ _ _ _ _ hmem
  | some c => exact iff_of_true (InterlockState.apply_ceiling hco2 h) (Option.some_ne_none c)

/-- The interlock is released on the first tick that permits the clear. -/
theorem AssertsCeiling.releases (h : F.AssertsCeiling a) (har : a < r)
    (hno : ∀ k, a < k → k < r → ¬ F.ClearsCeiling a k) (hr : F.ClearsCeiling a r) :
    F.ReleasesCeiling r := by
  obtain ⟨hrec, hheld⟩ := clearsCeiling_iff.1 hr
  have hclear : (F.state (r + 1)).co2Ceiling.asserted = false :=
    (F.ceiling_driven a r).release F.clockAt_tickIndex h.1 h.isOver har
      (fun k hk hlt hk' => hno k hk hlt (clearsCeiling_iff.2 hk')) hrec hheld
  refine ⟨hclear, fun hmem => ?_⟩
  obtain ⟨⟨c, hc, -⟩, -⟩ := hr
  change ((F.state r).apply _ _ _ _).1.co2Ceiling.asserted = false at hclear
  rw [InterlockState.apply_co2Ceiling, hc] at hclear
  rw [out, InterlockState.apply_forcing, hc, InterlockState.applyCo2_released hclear] at hmem
  exact injector_not_forced _ _ _ _ _ hmem

/-! ### The critical temperature -/

/-- The critical-temperature interlock asserts on tick `a`. -/
def AssertsCritical (F : Feed) (a : Nat) : Prop :=
  (F.state a).criticalTemperature.asserted = false ∧
    ∃ t, (F.trusted a).temperature = some t ∧ F.cfg.safety.criticalTemperatureC < t

/-- Tick `n` permits the clear of a critical-temperature interlock asserted on tick `a`. -/
def ClearsCritical (F : Feed) (a n : Nat) : Prop :=
  (∃ t, (F.trusted n).temperature = some t ∧ t < F.cfg.safety.criticalTemperatureC
    - F.cfg.safety.interlockRearmHysteresis.temperatureC) ∧
  F.cfg.safety.interlockMinHoldSecs ≤ n - a

/-- The outputs of the critical-temperature interlock are forced on tick `n`. -/
def ForcesCritical (F : Feed) (n : Nat) : Prop :=
  (F.out n).Forces .heater 0 ∧ (F.out n).Forces .fans 100 ∧ (F.out n).Forces .roofVents 100

/-- The critical-temperature interlock is clear after tick `n`, and forces nothing on it. -/
def ReleasesCritical (F : Feed) (n : Nat) : Prop :=
  (F.state (n + 1)).criticalTemperature.asserted = false ∧
    .house .heater ∉ (F.out n).forced ∧ .house .fans ∉ (F.out n).forced

/-- A temperature is trusted on every tick from `a` to `n`. -/
def Sighted (F : Feed) (a n : Nat) : Prop :=
  ∀ k, a ≤ k → k ≤ n → (F.trusted k).temperature ≠ none

def criticalOver (F : Feed) (n : Nat) : Bool :=
  (F.trusted n).temperature.any fun t => InterlockState.temperatureOver t F.cfg

def criticalRecovered (F : Feed) (n : Nat) : Bool :=
  (F.trusted n).temperature.any fun t => InterlockState.temperatureRecovered t F.cfg

theorem Sighted.driven (h : F.Sighted a n) :
    Latch.Driven (fun n => (F.state n).criticalTemperature) F.criticalOver F.criticalRecovered
      F.clockAt F.cfg.safety.interlockMinHoldSecs a n := by
  intro k hk hkn
  obtain ⟨t, ht⟩ := Option.ne_none_iff_exists'.1 (h k hk hkn)
  change ((F.state k).apply _ _ _ _).1.criticalTemperature = _
  rw [InterlockState.apply_criticalTemperature, criticalOver, criticalRecovered, ht]
  exact InterlockState.applyTemperature_latch

theorem clearsCritical_iff :
    F.ClearsCritical a n ↔
      F.criticalRecovered n = true ∧ F.cfg.safety.interlockMinHoldSecs ≤ n - a := by
  rw [criticalRecovered, Option.any_eq_true]
  simp only [InterlockState.temperatureRecovered, decide_eq_true_eq]
  rfl

theorem AssertsCritical.isOver (h : F.AssertsCritical a) : F.criticalOver a = true := by
  obtain ⟨-, t, ht, hover⟩ := h
  exact (Option.any_eq_true _ _).2 ⟨t, ht, decide_eq_true hover⟩

/-- While nothing clears it and there are readings, the interlock forces full cooling. -/
theorem AssertsCritical.forces (h : F.AssertsCritical a) (han : a ≤ n) (hsight : F.Sighted a n)
    (hno : ∀ k, a < k → k ≤ n → ¬ F.ClearsCritical a k) : F.ForcesCritical n := by
  obtain ⟨t, ht⟩ := Option.ne_none_iff_exists'.1 (hsight n han le_rfl)
  refine InterlockState.apply_critical ht ?_
  obtain ⟨m, rfl⟩ := Nat.exists_eq_add_of_le han
  have hlatch := hsight.driven.hold F.clockAt_tickIndex h.1 h.isOver m le_rfl
    fun k hk hle hrec => hno k hk hle (clearsCritical_iff.2 hrec)
  exact congrArg Latch.asserted hlatch

/-- What the CO₂ half forces beyond what it is given. -/
theorem mem_ceiling_forced {latch : Latch} {co2 : Option F64} {cfg : Config} {clock : Clock}
    {f : Forcing} {a : Actuator} (hv : a ≠ .roofVents) (hi : a ≠ .co2Injector)
    (h : .house a ∈ (InterlockState.applyCo2 latch co2 cfg clock f).2.1.forced) :
    .house a ∈ f.forced := by
  rcases InterlockState.applyCo2_cases latch co2 cfg clock f with heq | heq
  · rw [heq] at h
    simp only [InterlockState.ventOut, Forcing.force, TreeSet.mem_insert,
      LawfulEqOrd.compare_eq_iff_eq, ActuatorId.house.injEq] at h
    exact (h.resolve_left hi.symm).resolve_left hv.symm
  · rwa [heq] at h

theorem AssertsCritical.releases (h : F.AssertsCritical a) (har : a < r)
    (hsight : F.Sighted a r) (hno : ∀ k, a < k → k < r → ¬ F.ClearsCritical a k)
    (hr : F.ClearsCritical a r) : F.ReleasesCritical r := by
  obtain ⟨hrec, hheld⟩ := clearsCritical_iff.1 hr
  have hclear : (F.state (r + 1)).criticalTemperature.asserted = false :=
    hsight.driven.release F.clockAt_tickIndex h.1 h.isOver har
      (fun k hk hlt hk' => hno k hk hlt (clearsCritical_iff.2 hk')) hrec hheld
  have hfree : ∀ b : Actuator, b ≠ .roofVents → b ≠ .co2Injector →
      .house b ∉ (F.out r).forced := by
    intro b hv hi hmem
    rw [out, InterlockState.apply_forcing] at hmem
    have hmem := mem_ceiling_forced hv hi hmem
    obtain ⟨⟨t, ht, -⟩, -⟩ := hr
    change ((F.state r).apply _ _ _ _).1.criticalTemperature.asserted = false at hclear
    rw [InterlockState.apply_criticalTemperature, ht] at hclear
    rw [ht, InterlockState.applyTemperature_released hclear] at hmem
    exact TreeSet.not_mem_emptyc hmem
  exact ⟨hclear, hfree _ (by decide) (by decide), hfree _ (by decide) (by decide)⟩

/-- Where the ceiling interlock holds nothing open, its half moves nothing. -/
theorem ceiling_idle
    (h : ¬ ((F.state (n + 1)).co2Ceiling.asserted = true ∧ (F.trusted n).co2 ≠ none)) :
    F.out n = (InterlockState.applyTemperature (F.state n).criticalTemperature
      (F.trusted n).temperature F.cfg (F.clockAt n) ⟨F.cmd n, ∅⟩).2.1 := by
  rw [out, InterlockState.apply_forcing]
  cases hco2 : (F.trusted n).co2 with
  | none => rw [InterlockState.applyCo2_unavailable]
  | some c =>
    refine InterlockState.applyCo2_released (Bool.eq_false_iff.2 fun hasserted => h ⟨?_, ?_⟩)
    · change ((F.state n).apply _ _ _ _).1.co2Ceiling.asserted = true
      rw [InterlockState.apply_co2Ceiling, hco2]
      exact hasserted
    · exact hco2 ▸ Option.some_ne_none c

/-- What a tick without a temperature forces on the vents: open while the ceiling interlock,
with a reading, holds them open. -/
def blindVents (F : Feed) (n : Nat) : F64 :=
  if (F.state (n + 1)).co2Ceiling.asserted = true ∧ (F.trusted n).co2 ≠ none then 100 else 0

/-- **A tick without a temperature** holds heater, fans and vents, and resets the latch. -/
theorem blind (hn : (F.trusted n).temperature = none) :
    (F.out n).Forces .heater 0 ∧ (F.out n).Forces .fans 0 ∧
      (F.out n).Forces .roofVents (F.blindVents n) ∧
      (F.state (n + 1)).criticalTemperature = {} := by
  obtain ⟨hheater, hfans⟩ : (F.out n).Forces .heater 0 ∧ (F.out n).Forces .fans 0 :=
    InterlockState.apply_blind hn
  refine ⟨hheater, hfans, ?_, ?_⟩
  · rw [blindVents]
    split
    case isTrue h => exact ((forcesCeiling_iff h.1).2 h.2).1
    case isFalse h =>
      rw [ceiling_idle h, hn, InterlockState.applyTemperature_unavailable]
      exact (InterlockState.blindHold_forces _).2.2
  · change ((F.state n).apply _ _ _ _).1.criticalTemperature = _
    rw [InterlockState.apply_criticalTemperature, hn, InterlockState.applyTemperature_unavailable]

end Feed

/-! ## The run results -/

/-- **The interlock stage over whole runs.** The critical-temperature interlock forces full
cooling from the tick it asserts, over available readings, up to the first tick that permits
the clear, and is released on that tick; a tick without a temperature holds everything off.
The CO₂-ceiling interlock is asserted and released in the same way over all readings, and
forces its outputs throughout exactly when there is a reading throughout. -/
theorem interlock_runs (F : Feed) :
    (∀ a n, F.AssertsCritical a → a ≤ n → F.Sighted a n →
      (∀ k, a < k → k ≤ n → ¬ F.ClearsCritical a k) → F.ForcesCritical n) ∧
    (∀ a r, F.AssertsCritical a → a < r → F.Sighted a r →
      (∀ k, a < k → k < r → ¬ F.ClearsCritical a k) → F.ClearsCritical a r →
      F.ReleasesCritical r) ∧
    (∀ n, (F.trusted n).temperature = none →
      (F.out n).Forces .heater 0 ∧ (F.out n).Forces .fans 0 ∧
        (F.out n).Forces .roofVents (F.blindVents n) ∧
        (F.state (n + 1)).criticalTemperature = {}) ∧
    (∀ a n, F.AssertsCeiling a → a ≤ n → (∀ k, a < k → k ≤ n → ¬ F.ClearsCeiling a k) →
      ((∀ k, a ≤ k → k ≤ n → F.ForcesCeiling k) ↔
        ∀ k, a ≤ k → k ≤ n → (F.trusted k).co2 ≠ none)) ∧
    (∀ a r, F.AssertsCeiling a → a < r → (∀ k, a < k → k < r → ¬ F.ClearsCeiling a k) →
      F.ClearsCeiling a r → F.ReleasesCeiling r) := by
  refine ⟨fun a n h => h.forces, fun a r h => h.releases, fun n => Feed.blind, ?_,
    fun a r h => h.releases⟩
  intro a n h _ hno
  refine forall_congr' fun k => forall_congr' fun hak => forall_congr' fun hkn => ?_
  exact Feed.forcesCeiling_iff (h.asserted hak fun j haj hjk => hno j haj (hjk.trans hkn))

/-- Trusted readings with the given temperature and CO₂. -/
def airReadings (temperature co2 : Option F64) : TrustedState where
  temperature := temperature
  humidity := none
  co2 := co2
  par := none
  vpd := none
  soilMoisture := ∅

/-- The command of an operator who holds the injector on. -/
def injectorOn : Commands := (Commands.allOff []).set (.house .co2Injector) 100

/-- A house that is too hot and too rich in CO₂ on the first tick, and fine from then on. -/
def briefAlarm : Feed where
  cfg := Bench.config { interlockMinHoldSecs := 2 }
  clock := Clock.new
  trusted n := if n = 0 then airReadings (some 50) (some 6000) else airReadings (some 20) (some 400)
  cmd _ := injectorOn

/-- Both interlocks of the brief alarm hold for two ticks and are then released. -/
theorem interlock_runs_briefAlarm :
    briefAlarm.ForcesCritical 1 ∧ briefAlarm.ReleasesCritical 2 ∧
      briefAlarm.ForcesCeiling 1 ∧ briefAlarm.ReleasesCeiling 2 := by
  obtain ⟨hforces, hreleases, -, hceiling, hopens⟩ := interlock_runs briefAlarm
  have hcrit : briefAlarm.AssertsCritical 0 := ⟨rfl, 50, rfl, by decide⟩
  have hceil : briefAlarm.AssertsCeiling 0 := ⟨rfl, 6000, rfl, by decide⟩
  have hheld : ∀ k, 0 < k → k < 2 → ¬ briefAlarm.cfg.safety.interlockMinHoldSecs ≤ k - 0 := by
    intro k _ hk
    change ¬ 2 ≤ k - 0
    omega
  refine ⟨hforces 0 1 hcrit (by decide) ?_ fun k hk hle hc => hheld k hk (by omega) hc.2,
    hreleases 0 2 hcrit (by decide) ?_ (fun k hk hlt hc => hheld k hk hlt hc.2)
      ⟨⟨20, rfl, by decide +kernel⟩, le_rfl⟩,
    (hceiling 0 1 hceil (by decide) fun k hk hle hc => hheld k hk (by omega) hc.2).2 ?_ 1
      (by decide) le_rfl,
    hopens 0 2 hceil (by decide) (fun k hk hlt hc => hheld k hk hlt hc.2)
      ⟨⟨400, rfl, by decide +kernel⟩, le_rfl⟩⟩
  all_goals
    intro k _ _
    simp only [briefAlarm]
    split <;> exact Option.some_ne_none _

/-- The brief alarm, with the CO₂ reading gone from the second tick on. -/
def dropout : Feed :=
  { briefAlarm with
    trusted := fun n => airReadings (some 20) (if n = 0 then some 6000 else none) }

/-- **A dropout opens an asserted ceiling interlock.** The interlock asserts on the first tick
and nothing clears it, but on the second tick the injector leaves the stage at `100`. -/
theorem ceiling_dropped :
    dropout.AssertsCeiling 0 ∧ (∀ k, 0 < k → k ≤ 1 → ¬ dropout.ClearsCeiling 0 k) ∧
      (dropout.state 2).co2Ceiling.asserted = true ∧ ¬ dropout.ForcesCeiling 1 ∧
      (dropout.out 1).cmd.get (.house .co2Injector) = 100 := by
  have hon : (dropout.out 1).cmd.get (.house .co2Injector) = 100 := by decide
  refine ⟨⟨rfl, 6000, rfl, by decide⟩, ?_, by decide, fun hf => ?_, hon⟩
  · rintro k hk hle ⟨⟨c, hc, -⟩, -⟩
    obtain rfl : k = 1 := by omega
    cases hc
  · rw [hf.2.1] at hon
    exact F64.zero_ne_hundred hon

end Greenhouse.Controller
