import Greenhouse.Contract.Acceptance
import Greenhouse.Optimizer.Constraints
import Greenhouse.Optimizer.Context

/-!
# The optimizer's gate and the platform's

A plan that the application gate lets through, merged onto the setpoints of its context, and
the checks the platform makes of the merged bundle.

* `lt_iff_minutes`: the two sides order times of day alike, one by text and one by minutes.
* `gate_implies_iff`: when a plan that was let through passes the platform's checks.
-/

namespace Greenhouse.Contract

open Greenhouse.Numeric Greenhouse.Platform

/-! ## Times of day as texts -/

theorem DigitOf.toNat {c : Char} {d : Nat} (h : DigitOf c d) : c.toNat = 48 + d := by
  have hvalue := h.value
  unfold Controller.digitValue at hvalue
  split at hvalue
  · rename_i hrange
    have hlo : 48 ≤ c.toNat := hrange.1
    have hd : c.toNat - 48 = d := Option.some.inj hvalue
    omega
  · cases hvalue

theorem DigitOf.lt_iff {c c' : Char} {d d' : Nat} (h : DigitOf c d) (h' : DigitOf c' d') :
    c < c' ↔ d < d' := by
  have hlt : c < c' ↔ c.toNat < c'.toNat := Iff.rfl
  rw [hlt, h.toNat, h'.toNat]
  omega

theorem DigitOf.eq_iff {c c' : Char} {d d' : Nat} (h : DigitOf c d) (h' : DigitOf c' d') :
    c = c' ↔ d = d' := by
  constructor
  · rintro rfl
    have := h.toNat
    have := h'.toNat
    omega
  · rintro rfl
    exact Char.toNat_inj.1 (h.toNat.trans h'.toNat.symm)

/-- **Both sides order times of day alike.** -/
theorem lt_iff_minutes {s t : String} (hs : hhmmRe.matchString s = true)
    (ht : hhmmRe.matchString t = true) :
    s < t ↔ (minutesOfDay s).getD 0 < (minutesOfDay t).getD 0 := by
  obtain ⟨h₁, h₂, m₁, m₂, a, b, c, d, hcs, ha, hb, hc, hd, hhour, hc5⟩ := digits_of_isHhmm hs
  obtain ⟨h₁', h₂', m₁', m₂', a', b', c', d', hcs', ha', hb', hc', hd', hhour', hc5'⟩ :=
    digits_of_isHhmm ht
  have hmin := minutes_of_digits ha hb hc hd (hcs ▸ hs)
  have hmin' := minutes_of_digits ha' hb' hc' hd' (hcs' ▸ ht)
  rw [← hcs, String.ofList_toList] at hmin
  rw [← hcs', String.ofList_toList] at hmin'
  rw [hmin, hmin', String.lt_iff, hcs, hcs']
  simp only [List.cons_lt_cons_iff, ha.lt_iff ha', hb.lt_iff hb', hc.lt_iff hc', hd.lt_iff hd',
    ha.eq_iff ha', hb.eq_iff hb', hc.eq_iff hc', hd.eq_iff hd', List.lt_irrefl, Option.getD_some]
  have := hb.le_nine
  have := hb'.le_nine
  have := hd.le_nine
  have := hd'.le_nine
  have hcolon : ¬ ':' < ':' := by decide
  simp only [hcolon, false_or, true_and, and_false, or_false]
  omega

/-! ## What the gate leaves to the platform -/

/-- The platform takes an edit of a bundle, with an envelope. -/
def MergeAccepted (current : Platform.Setpoints) (patch : SetpointsPatchDTO)
    (bounds : StageBounds) : Prop :=
  ∃ candidate, applyPatch current patch = .ok candidate ∧ validateSetpoints candidate = none ∧
    validateSetpointsWithinBounds candidate bounds = none

/-- The conditions on an update that the gate does not check: the order of humidity limits and
of zone thresholds is strict, and what is left alone is in order and in its envelope too. -/
structure Compatible (current : Optimizer.Setpoints) (patch : Optimizer.SetpointsPatch)
    (bounds : StageBounds) : Prop where
  distinct : DistinctZones patch.zoneTargets
  known : ∀ z ∈ patch.zoneTargets, z.zoneId ∈ current.zones.map (·.zoneId)
  band : patch.humidityLowPct.getD current.humidityLowPct <
    patch.humidityHighPct.getD current.humidityHighPct
  window : patch.dayStart = none ∨ patch.dayEnd = none →
    patch.dayStart.getD current.dayStart < patch.dayEnd.getD current.dayEnd
  patched : ∀ z ∈ patch.zoneTargets,
    z.moistureLowThreshold < z.moistureHighThreshold ∧ z.drainPeriodSecs ≤ 2 ^ 31
  kept : ∀ z ∈ untouched patch.zoneTargets current.toPlatform.zones,
    z.moistureLowThreshold < z.moistureHighThreshold ∧ z.drainPeriodSecs ≤ 2 ^ 31
  targets : ∀ f ∈ Optimizer.boundedScalars, f.ofPatch patch.toGlobalPatch = none →
    InBound (f.ofBounds bounds) (f.ofSetpoints current.toGlobalSetpoints).toFloat
  zoneTargets : ∀ zb, bounds.zones = some zb →
    ∀ z ∈ untouched patch.zoneTargets current.toPlatform.zones, ∀ f ∈ Optimizer.zoneBounded,
      InBound (f.ofBounds zb) (f.ofZone z).toFloat

section

variable {current : Optimizer.Setpoints} {patch : Optimizer.SetpointsPatch}
  {bounds : StageBounds}

theorem zone_valid_iff {z : Optimizer.ZoneTargets} :
    z.toZoneTargets.Valid ↔
      z.moistureLowThreshold < z.moistureHighThreshold ∧ z.drainPeriodSecs ≤ 2 ^ 31 := by
  constructor
  · intro h
    exact ⟨h.band, h.drain.2⟩
  · rintro ⟨hband, hdrain⟩
    exact ⟨z.slug, z.low, z.high, hband, ⟨z.drain, hdrain⟩, z.times⟩

theorem zones_valid_iff {zones : List Optimizer.ZoneTargets} {l : List Platform.ZoneTargets}
    (hsub : ∀ z ∈ l, z ∈ zones.map (·.toZoneTargets)) :
    (∀ z ∈ l, z.Valid) ↔
      ∀ z ∈ l, z.moistureLowThreshold < z.moistureHighThreshold ∧ z.drainPeriodSecs ≤ 2 ^ 31 := by
  refine forall₂_congr fun z hz => ?_
  obtain ⟨y, -, rfl⟩ := List.mem_map.1 (hsub z hz)
  exact zone_valid_iff

@[simp] theorem toFloat_getD_float {o : Option ℚ} {d : ℚ} :
    ((o.map Optimizer.Number.float).getD (.float d)).toFloat = o.getD d := by
  cases o <;> rfl

@[simp] theorem toFloat_getD_int {o : Option Int} {d : Int} :
    ((o.map Optimizer.Number.int).getD (.int d)).toFloat = ((o.getD d : Int) : ℚ) := by
  cases o <;> rfl

/-- The climate targets of a merged bundle, by the names of the optimizer. -/
theorem climate_inBound_iff {zones : List Platform.ZoneTargets} {base : GlobalSetpoints}
    {globals : GlobalPatch} :
    (∀ f ∈ climateBoundFields,
        InBound (f.bound bounds) (f.value { globals.applyTo base with zones })) ↔
      ∀ f ∈ Optimizer.boundedScalars,
        InBound (f.ofBounds bounds) ((f.ofPatch globals).getD (f.ofSetpoints base)).toFloat := by
  simp only [climateBoundFields, Optimizer.boundedScalars, List.forall_mem_cons, toFloat_getD_float,
    toFloat_getD_int, GlobalPatch.applyTo, List.not_mem_nil, false_implies, implies_true, and_true]

theorem zone_inBound_iff {zb : ZoneBounds} {z : Platform.ZoneTargets} :
    (∀ f ∈ zoneBoundFields, InBound (f.bound zb) (f.value z)) ↔
      ∀ f ∈ Optimizer.zoneBounded, InBound (f.ofBounds zb) (f.ofZone z).toFloat := by
  simp only [zoneBoundFields, Optimizer.zoneBounded, List.forall_mem_cons, Optimizer.Number.toFloat,
    List.not_mem_nil, false_implies, implies_true, and_true]

/-- A value that may be patched is in its bound when the patched or else the current one is. -/
theorem getD_inBound_iff {bound : Option Bound} {o : Option Optimizer.Number}
    {d : Optimizer.Number} :
    InBound bound (o.getD d).toFloat ↔
      (∀ v, o = some v → InBound bound v.toFloat) ∧ (o = none → InBound bound d.toFloat) := by
  cases o <;> simp

/-- The update as the platform merges it. -/
theorem applyPatch_toDTO_iff {base s : Platform.Setpoints} :
    applyPatch base patch.toDTO = .ok s ↔
      (∀ z ∈ patch.zoneTargets, position base.zones z.zoneId ≠ none) ∧
      DistinctZones patch.zoneTargets ∧
      s = { patch.toGlobalPatch.applyTo base.toGlobalSetpoints with
            zones := overlay patch.zoneTargets base.zones } := by
  have hdto : patch.toDTO =
      ⟨patch.toGlobalPatch, (patch.zones.map (·.map (·.toZoneTargets))).map (·.map (·.toDTO))⟩ := by
    simp [Optimizer.SetpointsPatch.toDTO, Function.comp_def]
  have hzones : (patch.zones.map (·.map (·.toZoneTargets))).getD [] = patch.zoneTargets := by
    cases h : patch.zones <;> simp [Optimizer.SetpointsPatch.zoneTargets, h]
  rw [hdto, applyPatch_iff, hzones]

/-- A value of a valid bundle or a valid update. -/
theorem getD_of {α : Type} {P : α → Prop} {o : Option α} {d : α} (ho : ∀ v, o = some v → P v)
    (hd : P d) : P (o.getD d) := by
  cases o with
  | none => exact hd
  | some v => exact ho v rfl

/-- The merged bundle passes the checks of its fields one by one. -/
theorem merged_valid_iff {zones : List Platform.ZoneTargets} :
    ({ patch.toGlobalPatch.applyTo current.toGlobalSetpoints with zones } :
        Platform.Setpoints).Valid ↔
      patch.dayStart.getD current.dayStart < patch.dayEnd.getD current.dayEnd ∧
      patch.humidityLowPct.getD current.humidityLowPct <
        patch.humidityHighPct.getD current.humidityHighPct ∧
      ∀ z ∈ zones, z.Valid := by
  have hstart : hhmmRe.matchString (patch.dayStart.getD current.dayStart) = true :=
    getD_of patch.start current.start
  have hstop : hhmmRe.matchString (patch.dayEnd.getD current.dayEnd) = true :=
    getD_of patch.stop current.stop
  rw [lt_iff_minutes hstart hstop]
  constructor
  · intro h
    exact ⟨h.window, h.band, h.zones⟩
  · rintro ⟨hwindow, hband, hzones⟩
    exact ⟨getD_of patch.day current.day, getD_of patch.night current.night,
      getD_of patch.low current.low, getD_of patch.high current.high,
      getD_of patch.deadband current.deadband, getD_of patch.co2 current.co2,
      getD_of patch.interlock current.interlock, getD_of patch.vpd current.vpd,
      getD_of patch.dli current.dli, hstart, hstop, hwindow, hband, hzones⟩

/-- **When a plan that the gate lets through passes the platform's checks.** -/
theorem gate_implies_iff {ctx : Optimizer.PlanningContext} {plan : Optimizer.OptimizerPlan}
    {threshold : ℚ} {horizon : Optimizer.Horizon} (hbounds : ctx.setpoints.bounds = some bounds)
    (happlied : (Optimizer.evaluateApplication plan ctx.setpoints.bounds threshold
      horizon).status = .applied) :
    MergeAccepted ctx.setpoints.targets.toPlatform plan.immediateSetpoints.toDTO bounds ↔
      Compatible ctx.setpoints.targets plan.immediateSetpoints bounds := by
  obtain ⟨-, -, -, hbundle, hcrop, -⟩ := Optimizer.evaluateApplication_applied.1 happlied
  rw [hbounds] at hcrop
  obtain ⟨-, hwindow, -⟩ := Optimizer.checkBundleConsistency_eq_none.1 hbundle
  obtain ⟨hscalars, hzones⟩ := Optimizer.checkCropSafeRange_eq_none.1 hcrop
  generalize plan.immediateSetpoints = patch at *
  generalize ctx.setpoints.targets = current at *
  have hbase : ∀ z ∈ untouched patch.zoneTargets current.toPlatform.zones,
      z ∈ current.zones.map (·.toZoneTargets) := fun z hz => mem_of_mem_untouched hz
  have hpatch : ∀ z ∈ patch.zoneTargets,
      z ∈ (patch.zones.getD []).map (·.toZoneTargets) := fun z hz => hz
  have hknown : (∀ z ∈ patch.zoneTargets, position current.toPlatform.zones z.zoneId ≠ none) ↔
      ∀ z ∈ patch.zoneTargets, z.zoneId ∈ current.zones.map (·.zoneId) := by
    refine forall₂_congr fun z _ => ?_
    simp [position_eq_none, Optimizer.Setpoints.toPlatform]
  constructor
  · rintro ⟨candidate, hmerge, hvalid, hwithin⟩
    obtain ⟨hpos, hdistinct, rfl⟩ := applyPatch_toDTO_iff.1 hmerge
    obtain ⟨hordered, hband, hall⟩ := merged_valid_iff.1 (validateSetpoints_eq_none.1 hvalid)
    obtain ⟨hclimate, hzb⟩ := validateSetpointsWithinBounds_eq_none.1 hwithin
    obtain ⟨hpatched, hkept⟩ := (forall_overlay hdistinct hpos).1 hall
    exact {
      distinct := hdistinct
      known := hknown.1 hpos
      band := hband
      window := fun _ => hordered
      patched := (zones_valid_iff hpatch).1 hpatched
      kept := (zones_valid_iff hbase).1 hkept
      targets := fun f hf => (getD_inBound_iff.1 (climate_inBound_iff.1 hclimate f hf)).2
      zoneTargets := fun zb h z hz => zone_inBound_iff.1
        (((forall_overlay hdistinct hpos).1 (hzb zb h)).2 z hz) }
  · intro h
    have hpos := hknown.2 h.known
    refine ⟨_, applyPatch_toDTO_iff.2 ⟨hpos, h.distinct, rfl⟩, ?_, ?_⟩
    · refine validateSetpoints_eq_none.2 (merged_valid_iff.2 ⟨?_, h.band, ?_⟩)
      · cases hstart : patch.dayStart with
        | none => simpa [hstart] using h.window (.inl hstart)
        | some start =>
          cases hstop : patch.dayEnd with
          | none => simpa [hstart, hstop] using h.window (.inr hstop)
          | some stop => exact hwindow start hstart stop hstop
      · exact (forall_overlay h.distinct hpos).2
          ⟨(zones_valid_iff hpatch).2 h.patched, (zones_valid_iff hbase).2 h.kept⟩
    · refine validateSetpointsWithinBounds_eq_none.2 ⟨climate_inBound_iff.2 fun f hf =>
        getD_inBound_iff.2 ⟨hscalars f hf, h.targets f hf⟩, fun zb hzb => ?_⟩
      exact (forall_overlay h.distinct hpos).2 ⟨fun z hz => zone_inBound_iff.2 (hzones zb hzb z hz),
        fun z hz => zone_inBound_iff.2 (h.zoneTargets zb hzb z hz)⟩

end

theorem gate_implies_iff_bench :
    MergeAccepted Optimizer.Bench.targets.toPlatform Optimizer.Bench.warmer.toDTO
      Optimizer.Bench.bounds := by
  refine (@gate_implies_iff Optimizer.Bench.bounds Optimizer.Bench.context
    (Optimizer.Bench.plan Optimizer.Bench.warmer) (4 / 5) Optimizer.Bench.horizon rfl
      (by decide +kernel)).2 ?_
  exact {
    distinct := List.nodup_nil
    known := fun _ h => absurd h List.not_mem_nil
    band := by decide
    window := fun _ => by decide
    patched := fun _ h => absurd h List.not_mem_nil
    kept := fun _ h => absurd h List.not_mem_nil
    targets := by
      simp [Optimizer.boundedScalars, Optimizer.Bench.plan, Optimizer.Bench.warmer,
        Optimizer.Bench.bounds, InBound, Optimizer.Bench.targets, Optimizer.Bench.context,
        Optimizer.Number.toFloat]
      norm_num
    zoneTargets := fun _ _ _ h => absurd h List.not_mem_nil }

/-- **The gate's checks do not imply the platform's**: an update that names the lower humidity
limit alone is not compared with the upper one. -/
theorem gate_not_implies : ¬ ∀ (ctx : Optimizer.PlanningContext) (plan : Optimizer.OptimizerPlan)
    (threshold : ℚ) (horizon : Optimizer.Horizon) (bounds : StageBounds),
    ctx.setpoints.bounds = some bounds →
    (Optimizer.evaluateApplication plan ctx.setpoints.bounds threshold horizon).status = .applied →
    MergeAccepted ctx.setpoints.targets.toPlatform plan.immediateSetpoints.toDTO bounds := by
  intro h
  obtain ⟨candidate, hmerge, hvalid, -⟩ := h Optimizer.Bench.context
    (Optimizer.Bench.plan Optimizer.Bench.damper) (4 / 5) Optimizer.Bench.horizon
    Optimizer.Bench.bounds rfl (by decide +kernel)
  obtain ⟨-, -, rfl⟩ := applyPatch_toDTO_iff.1 hmerge
  have hband : (75 : ℚ) < 70 := (merged_valid_iff.1 (validateSetpoints_eq_none.1 hvalid)).2.1
  norm_num at hband

end Greenhouse.Contract
