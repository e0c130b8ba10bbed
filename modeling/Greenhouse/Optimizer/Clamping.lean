import Greenhouse.Optimizer.Constraints
import Greenhouse.Optimizer.Context

/-!
# Clamping to the crop-safe envelope

A plan's targets pulled back to the edges of their envelopes before the gate looks at them. An
integer target goes to its edge rounded to an integer, which may lie outside again.

* `build?_eq_some`: which data make a patch.
* `clampToBounds_spec`: what clamping does to each target.
* `clamped_iff`: when a clamped patch is safe.
-/

namespace Greenhouse.Optimizer

open Greenhouse.Numeric Greenhouse.Platform

/-! ## Clamping -/

/-- A value pulled to the nearest edge. -/
def clamp (value : ℚ) (bound : Bound) : ℚ := min (max value bound.min) bound.max

/-- A target outside its envelope goes to the edge. -/
def clampFloat (bound : Option Bound) (value : ℚ) : ℚ :=
  match bound with
  | none => value
  | some b => if within value b then value else clamp value b

/-- An integer target outside its envelope goes to the edge, rounded. -/
def clampInt (bound : Option Bound) (value : Int) : Int :=
  match bound with
  | none => value
  | some b => if within value b then value else roundHalfEven (clamp value b)

def clampNumber (bound : Option Bound) : Number → Number
  | .float q => .float (clampFloat bound q)
  | .int n => .int (clampInt bound n)

/-- A target, where there is one, is outside its envelope, where there is one. -/
def moved (bound : Option Bound) (value : Option Number) : Bool :=
  value.any fun v => bound.any fun b => !within v.toFloat b

def clampGlobals (bounds : StageBounds) (p : GlobalPatch) : GlobalPatch where
  temperatureDayC := p.temperatureDayC.map (clampFloat bounds.temperatureDayC)
  temperatureNightC := p.temperatureNightC.map (clampFloat bounds.temperatureNightC)
  dayStart := p.dayStart
  dayEnd := p.dayEnd
  humidityLowPct := p.humidityLowPct.map (clampFloat bounds.humidityLowPct)
  humidityHighPct := p.humidityHighPct.map (clampFloat bounds.humidityHighPct)
  humidityDeadbandPct := p.humidityDeadbandPct.map (clampFloat bounds.humidityDeadbandPct)
  co2TargetPpm := p.co2TargetPpm.map (clampInt bounds.co2TargetPpm)
  co2VentInterlockThresholdPct :=
    p.co2VentInterlockThresholdPct.map (clampFloat bounds.co2VentInterlockThresholdPct)
  vpdTargetKpa := p.vpdTargetKpa.map (clampFloat bounds.vpdTargetKpa)
  dliTargetMol := p.dliTargetMol.map (clampFloat bounds.dliTargetMol)

def clampZone (zb : ZoneBounds) (z : Platform.ZoneTargets) : Platform.ZoneTargets where
  zoneId := z.zoneId
  moistureLowThreshold := clampFloat zb.moistureLowThreshold z.moistureLowThreshold
  moistureHighThreshold := clampFloat zb.moistureHighThreshold z.moistureHighThreshold
  drainPeriodSecs := clampInt zb.drainPeriodSecs z.drainPeriodSecs
  schedule := z.schedule

def clampZones (bounds : StageBounds) (zones : List Platform.ZoneTargets) :
    List Platform.ZoneTargets :=
  match bounds.zones with
  | none => zones
  | some zb => zones.map (clampZone zb)

/-- The name under which a zone's target is reported. -/
def zoneFieldName (z : Platform.ZoneTargets) (f : ZoneBounded) : String :=
  "zones[" ++ z.zoneId ++ "]." ++ f.name

/-- The names of the targets outside their envelopes. -/
def clampedFields (bounds : StageBounds) (patch : SetpointsPatch) : List String :=
  ((boundedScalars.filter fun f =>
      moved (f.ofBounds bounds) (f.ofPatch patch.toGlobalPatch)).map (·.name))
    ++ match bounds.zones with
      | none => []
      | some zb => patch.zoneTargets.flatMap fun z =>
          (zoneBounded.filter fun f => moved (f.ofBounds zb) (some (f.ofZone z))).map
            (zoneFieldName z)

/-! ## Patches from data -/

/-- The ranges of the fields of a patch. -/
structure ValidGlobals (p : GlobalPatch) : Prop where
  day : ∀ v ∈ p.temperatureDayC, Between (-20) 60 v
  night : ∀ v ∈ p.temperatureNightC, Between (-20) 60 v
  start : ∀ v ∈ p.dayStart, hhmmRe.matchString v = true
  stop : ∀ v ∈ p.dayEnd, hhmmRe.matchString v = true
  low : ∀ v ∈ p.humidityLowPct, Between 0 100 v
  high : ∀ v ∈ p.humidityHighPct, Between 0 100 v
  deadband : ∀ v ∈ p.humidityDeadbandPct, Between 0 50 v
  co2 : ∀ v ∈ p.co2TargetPpm, 0 ≤ v ∧ v ≤ 5000
  interlock : ∀ v ∈ p.co2VentInterlockThresholdPct, Between 0 100 v
  vpd : ∀ v ∈ p.vpdTargetKpa, 0 ≤ v
  dli : ∀ v ∈ p.dliTargetMol, 0 ≤ v

theorem validGlobals_iff {p : GlobalPatch} :
    ((∀ v ∈ p.temperatureDayC, Between (-20) 60 v) ∧
      (∀ v ∈ p.temperatureNightC, Between (-20) 60 v) ∧
      (∀ v ∈ p.dayStart, hhmmRe.matchString v = true) ∧
      (∀ v ∈ p.dayEnd, hhmmRe.matchString v = true) ∧
      (∀ v ∈ p.humidityLowPct, Between 0 100 v) ∧ (∀ v ∈ p.humidityHighPct, Between 0 100 v) ∧
      (∀ v ∈ p.humidityDeadbandPct, Between 0 50 v) ∧
      (∀ v ∈ p.co2TargetPpm, 0 ≤ v ∧ v ≤ 5000) ∧
      (∀ v ∈ p.co2VentInterlockThresholdPct, Between 0 100 v) ∧
      (∀ v ∈ p.vpdTargetKpa, 0 ≤ v) ∧ ∀ v ∈ p.dliTargetMol, 0 ≤ v) ↔ ValidGlobals p := by
  constructor
  · rintro ⟨day, night, start, stop, low, high, deadband, co2, interlock, vpd, dli⟩
    exact ⟨day, night, start, stop, low, high, deadband, co2, interlock, vpd, dli⟩
  · exact fun h => ⟨h.day, h.night, h.start, h.stop, h.low, h.high, h.deadband, h.co2,
      h.interlock, h.vpd, h.dli⟩

instance (p : GlobalPatch) : Decidable (ValidGlobals p) := decidable_of_iff _ validGlobals_iff

/-- A zone from its data. -/
def ZoneTargets.build? (z : Platform.ZoneTargets) : Option ZoneTargets :=
  if h : validSlug z.zoneId = true ∧ Between 0 1 z.moistureLowThreshold ∧
      Between 0 1 z.moistureHighThreshold ∧ 0 ≤ z.drainPeriodSecs ∧
      scheduleRe.matchString z.schedule = true then
    some { z with slug := h.1, low := h.2.1, high := h.2.2.1, drain := h.2.2.2.1,
                  times := h.2.2.2.2 }
  else none

/-- A patch from its data; `none` when the data are not valid. -/
def SetpointsPatch.build? (p : GlobalPatch) (zones : Option (List Platform.ZoneTargets)) :
    Option SetpointsPatch :=
  if h : ValidGlobals p then
    match zones with
    | none =>
      if hne : p ≠ {} then
        some { p with zones := none, day := h.day, night := h.night, start := h.start,
                      stop := h.stop, low := h.low, high := h.high, deadband := h.deadband,
                      co2 := h.co2, interlock := h.interlock, vpd := h.vpd, dli := h.dli,
                      nonempty := .inl hne }
      else none
    | some raw => (raw.mapM ZoneTargets.build?).map fun zones =>
      { p with zones := some zones, day := h.day, night := h.night, start := h.start,
               stop := h.stop, low := h.low, high := h.high, deadband := h.deadband,
               co2 := h.co2, interlock := h.interlock, vpd := h.vpd, dli := h.dli,
               nonempty := .inr (Option.some_ne_none _) }
  else none

/-- A patch inside the envelope, and which fields moved. -/
structure ClampResult where
  patch : SetpointsPatch
  clampedFields : List String

/-- Every target outside its envelope pulled to its edge; `none` when the result is not a valid
patch. -/
def clampToBounds (patch : SetpointsPatch) : Option StageBounds → Option ClampResult
  | none => some ⟨patch, []⟩
  | some bounds =>
    if clampedFields bounds patch = [] then some ⟨patch, []⟩
    else (SetpointsPatch.build? (clampGlobals bounds patch.toGlobalPatch)
      (patch.zones.map fun zones => clampZones bounds (zones.map (·.toZoneTargets)))).map
        fun p => ⟨p, clampedFields bounds patch⟩

theorem ZoneTargets.eq_of_toZoneTargets {a b : ZoneTargets}
    (h : a.toZoneTargets = b.toZoneTargets) : a = b := by
  cases a
  cases b
  cases h
  rfl

theorem ZoneTargets.build?_eq_some {raw : Platform.ZoneTargets} {z : ZoneTargets} :
    build? raw = some z ↔ z.toZoneTargets = raw := by
  unfold build?
  split
  · rw [Option.some.injEq]
    refine ⟨fun h => h ▸ rfl, fun h => ?_⟩
    exact (ZoneTargets.eq_of_toZoneTargets h).symm
  · rename_i hnot
    refine ⟨fun h => (by cases h), fun h => absurd ?_ hnot⟩
    subst h
    exact ⟨z.slug, z.low, z.high, z.drain, z.times⟩

theorem mapM_build?_eq_some {raw : List Platform.ZoneTargets} {zones : List ZoneTargets} :
    raw.mapM ZoneTargets.build? = some zones ↔ zones.map (·.toZoneTargets) = raw := by
  induction raw generalizing zones with
  | nil =>
    rw [List.mapM_nil, List.map_eq_nil_iff]
    constructor
    · intro h
      exact (Option.some.inj h).symm
    · rintro rfl
      rfl
  | cons z raw ih =>
    rw [List.mapM_cons, Option.bind_eq_bind, Option.bind_eq_some_iff]
    constructor
    · rintro ⟨y, hy, h⟩
      rw [Option.bind_eq_bind, Option.bind_eq_some_iff] at h
      obtain ⟨ys, hys, h⟩ := h
      obtain rfl := Option.some.inj h
      rw [List.map_cons, ZoneTargets.build?_eq_some.1 hy, ih.1 hys]
    · intro h
      obtain ⟨y, ys, rfl, hy, hys⟩ := List.map_eq_cons_iff.1 h
      exact ⟨y, ZoneTargets.build?_eq_some.2 hy, by rw [ih.2 hys]; rfl⟩

/-- **Which data make a patch**: those of the patch. -/
theorem SetpointsPatch.build?_eq_some {g : GlobalPatch} {raw : Option (List Platform.ZoneTargets)}
    {p : SetpointsPatch} :
    build? g raw = some p ↔
      p.toGlobalPatch = g ∧ p.zones.map (fun zones => zones.map (·.toZoneTargets)) = raw := by
  have hvalid : p.toGlobalPatch = g → ValidGlobals g := by
    rintro rfl
    exact ⟨p.day, p.night, p.start, p.stop, p.low, p.high, p.deadband, p.co2, p.interlock, p.vpd,
      p.dli⟩
  unfold build?
  split
  · rename_i h
    cases raw with
    | none =>
      dsimp only
      split
      · rw [Option.some.injEq]
        constructor
        · rintro rfl
          exact ⟨rfl, rfl⟩
        · rintro ⟨hg, hzones⟩
          obtain ⟨q, zones⟩ := p
          subst hg
          obtain rfl := Option.map_eq_none_iff.1 hzones
          rfl
      · rename_i hempty
        refine ⟨fun h => (by cases h), ?_⟩
        rintro ⟨rfl, hzones⟩
        have hnone := Option.map_eq_none_iff.1 hzones
        exact absurd (p.nonempty.resolve_right (not_not.2 hnone)) hempty
    | some raw =>
      dsimp only
      rw [Option.map_eq_some_iff]
      constructor
      · rintro ⟨zones, hzones, rfl⟩
        exact ⟨rfl, congrArg some (mapM_build?_eq_some.1 hzones)⟩
      · rintro ⟨hg, hzones⟩
        obtain ⟨zones, hp, hraw⟩ := Option.map_eq_some_iff.1 hzones
        refine ⟨zones, mapM_build?_eq_some.2 hraw, ?_⟩
        obtain ⟨q, ps⟩ := p
        subst hg
        obtain rfl : ps = some zones := hp
        rfl
  · rename_i hnot
    exact ⟨fun h => (by cases h), fun h => absurd (hvalid h.1) hnot⟩

/-- Valid data make a patch. -/
theorem SetpointsPatch.exists_build? {g : GlobalPatch}
    {raw : Option (List Platform.ZoneTargets)} (hg : ValidGlobals g) (hne : g ≠ {} ∨ raw ≠ none)
    (hraw : ∀ zones, raw = some zones → ∃ valid : List ZoneTargets,
      valid.map (·.toZoneTargets) = zones) : ∃ p, build? g raw = some p := by
  unfold build?
  rw [dif_pos hg]
  cases raw with
  | none =>
    dsimp only
    rw [dif_pos (hne.resolve_right fun h => h rfl)]
    exact ⟨_, rfl⟩
  | some zones =>
    obtain ⟨valid, hvalid⟩ := hraw zones rfl
    dsimp only
    rw [mapM_build?_eq_some.2 hvalid]
    exact ⟨_, rfl⟩

/-! ## What clamping does -/

section

variable {bounds : StageBounds} {patch : SetpointsPatch} {bound : Option Bound}

/-- Every edge of a bound is in a range, and they are in order. -/
def Ranged (P : ℚ → Prop) (bound : Option Bound) : Prop :=
  ∀ b, bound = some b → b.min ≤ b.max ∧ P b.min ∧ P b.max

/-- A bound contains an integer. -/
def HasInteger (bound : Option Bound) : Prop :=
  ∀ b, bound = some b → ∃ n : Int, b.min ≤ n ∧ n ≤ b.max

/-- An envelope within the ranges of its targets, in which every integer target has a value. -/
structure CropSafe (bounds : StageBounds) : Prop where
  day : Ranged (Between (-20) 60) bounds.temperatureDayC
  night : Ranged (Between (-20) 60) bounds.temperatureNightC
  low : Ranged (Between 0 100) bounds.humidityLowPct
  high : Ranged (Between 0 100) bounds.humidityHighPct
  deadband : Ranged (Between 0 50) bounds.humidityDeadbandPct
  co2 : Ranged (Between 0 5000) bounds.co2TargetPpm ∧ HasInteger bounds.co2TargetPpm
  interlock : Ranged (Between 0 100) bounds.co2VentInterlockThresholdPct
  vpd : Ranged (fun v => 0 ≤ v) bounds.vpdTargetKpa
  dli : Ranged (fun v => 0 ≤ v) bounds.dliTargetMol
  zones : ∀ zb, bounds.zones = some zb →
    Ranged (Between 0 1) zb.moistureLowThreshold ∧ Ranged (Between 0 1) zb.moistureHighThreshold ∧
      Ranged (fun v => 0 ≤ v) zb.drainPeriodSecs ∧ HasInteger zb.drainPeriodSecs

/-- The edge that an integer target outside its envelope goes to has its rounding inside. -/
def RoundsInside (bound : Option Bound) (value : Int) : Prop :=
  ∀ b, bound = some b →
    (value < b.min → within (roundHalfEven b.min) b = true) ∧
      (b.max < value → within (roundHalfEven b.max) b = true)

theorem clamp_of_lt {value : ℚ} {b : Bound} (hb : b.min ≤ b.max) (h : value < b.min) :
    clamp value b = b.min := by
  rw [clamp, max_eq_right h.le, min_eq_left hb]

theorem clamp_of_gt {value : ℚ} {b : Bound} (hb : b.min ≤ b.max) (h : b.max < value) :
    clamp value b = b.max := by
  rw [clamp, max_eq_left (hb.trans h.le), min_eq_right h.le]

theorem outside_of_not_within {value : ℚ} {b : Bound} (h : ¬ within value b = true) :
    value < b.min ∨ b.max < value := by
  rw [within_eq_true, not_and_or, not_le, not_le] at h
  exact h

theorem le_roundHalfEven {n : Int} {q : ℚ} (h : (n : ℚ) ≤ q) : n ≤ roundHalfEven q := by
  have hfloor : n ≤ ⌊q⌋ := Int.le_floor.2 h
  unfold roundHalfEven
  dsimp only
  split_ifs <;> omega

theorem roundHalfEven_le {n : Int} {q : ℚ} (h : q ≤ n) : roundHalfEven q ≤ n := by
  have hfloor : ⌊q⌋ ≤ n := Int.cast_le.1 ((Int.floor_le q).trans h)
  rcases hfloor.lt_or_eq with hlt | heq
  · unfold roundHalfEven
    dsimp only
    split_ifs <;> omega
  · -- the value is the integer itself
    have hq : q - ((⌊q⌋ : Int) : ℚ) < 1 / 2 := by
      rw [heq]
      linarith
    unfold roundHalfEven
    dsimp only
    rw [if_pos hq]
    exact heq.le

theorem clampFloat_valid {P : ℚ → Prop} (hb : Ranged P bound) {value : ℚ} (hv : P value) :
    P (clampFloat bound value) := by
  unfold clampFloat
  split
  · exact hv
  · rename_i b
    obtain ⟨horder, hmin, hmax⟩ := hb b rfl
    split
    · exact hv
    · rename_i hout
      rcases outside_of_not_within hout with hlt | hgt
      · rw [clamp_of_lt horder hlt]
        exact hmin
      · rw [clamp_of_gt horder hgt]
        exact hmax

theorem clampInt_valid {P : ℚ → Prop} {Q : Int → Prop} (hb : Ranged P bound)
    (hround : ∀ q, P q → Q (roundHalfEven q)) {value : Int} (hv : Q value) :
    Q (clampInt bound value) := by
  unfold clampInt
  split
  · exact hv
  · rename_i b
    obtain ⟨horder, hmin, hmax⟩ := hb b rfl
    split
    · exact hv
    · rename_i hout
      rcases outside_of_not_within hout with hlt | hgt
      · rw [clamp_of_lt horder hlt]
        exact hround _ hmin
      · rw [clamp_of_gt horder hgt]
        exact hround _ hmax

/-- A clamped target is inside its envelope. -/
theorem inBound_clampFloat {P : ℚ → Prop} (hb : Ranged P bound) (value : ℚ) :
    InBound bound (clampFloat bound value) := by
  rintro b rfl
  have horder := (hb b rfl).1
  unfold clampFloat
  dsimp only
  split
  · rename_i hin
    exact within_eq_true.1 hin
  · rename_i hout
    rcases outside_of_not_within hout with hlt | hgt
    · rw [clamp_of_lt horder hlt]
      exact ⟨le_rfl, horder⟩
    · rw [clamp_of_gt horder hgt]
      exact ⟨horder, le_rfl⟩

/-- A clamped integer target is inside its envelope when its edge rounds to the inside. -/
theorem inBound_clampInt {P : ℚ → Prop} (hb : Ranged P bound) {value : Int} :
    InBound bound (clampInt bound value) ↔ RoundsInside bound value := by
  unfold InBound RoundsInside
  refine forall₂_congr fun b hbound => ?_
  obtain rfl := hbound
  have horder := (hb b rfl).1
  unfold clampInt
  dsimp only
  split
  · rename_i hin
    rw [within_eq_true] at hin
    exact iff_of_true hin
      ⟨fun hlt => absurd hin.1 (not_le.2 hlt), fun hgt => absurd hin.2 (not_le.2 hgt)⟩
  · rename_i hout
    rcases outside_of_not_within hout with hlt | hgt
    · rw [clamp_of_lt horder hlt, ← within_eq_true]
      refine ⟨fun h => ⟨fun _ => h, fun hgt => ?_⟩, fun h => h.1 hlt⟩
      exact absurd (hlt.trans_le horder) (not_lt.2 hgt.le)
    · rw [clamp_of_gt horder hgt, ← within_eq_true]
      refine ⟨fun h => ⟨fun hlt => ?_, fun _ => h⟩, fun h => h.2 hgt⟩
      exact absurd (horder.trans_lt hgt) (not_lt.2 hlt.le)

/-! ## The clamped patch -/

theorem clampNumber_of_inBound {v : Number} (h : InBound bound v.toFloat) :
    clampNumber bound v = v := by
  cases bound with
  | none => cases v <;> rfl
  | some b =>
    have hin := within_eq_true.2 (h b rfl)
    cases v with
    | float q => exact congrArg Number.float (if_pos hin)
    | int n => exact congrArg Number.int (if_pos hin)

theorem moved_eq_false {value : Option Number} :
    moved bound value = false ↔ ∀ v, value = some v → InBound bound v.toFloat := by
  cases value with
  | none => simp [moved]
  | some v => cases bound <;> simp [moved, InBound]

theorem ofPatch_clampGlobals (bounds : StageBounds) (p : GlobalPatch) :
    ∀ f ∈ boundedScalars, f.ofPatch (clampGlobals bounds p) =
      (f.ofPatch p).map (clampNumber (f.ofBounds bounds)) := by
  have hfloat : ∀ (b : Option Bound) (o : Option ℚ),
      (o.map (clampFloat b)).map Number.float = (o.map Number.float).map (clampNumber b) := by
    intro b o
    cases o <;> rfl
  have hint : ∀ (b : Option Bound) (o : Option Int),
      (o.map (clampInt b)).map Number.int = (o.map Number.int).map (clampNumber b) := by
    intro b o
    cases o <;> rfl
  simp only [boundedScalars, List.forall_mem_cons]
  exact ⟨hfloat _ _, hfloat _ _, hfloat _ _, hfloat _ _, hfloat _ _, hint _ _, hfloat _ _,
    hfloat _ _, hfloat _ _, List.forall_mem_nil _⟩

theorem ofZone_clampZone (zb : ZoneBounds) (z : Platform.ZoneTargets) :
    ∀ f ∈ zoneBounded, f.ofZone (clampZone zb z) = clampNumber (f.ofBounds zb) (f.ofZone z) := by
  simp only [zoneBounded, List.forall_mem_cons]
  exact ⟨rfl, rfl, rfl, List.forall_mem_nil _⟩

/-- A patch is its bounded targets and its day window. -/
theorem globals_ext {a b : GlobalPatch} (h : ∀ f ∈ boundedScalars, f.ofPatch a = f.ofPatch b)
    (hstart : a.dayStart = b.dayStart) (hstop : a.dayEnd = b.dayEnd) : a = b := by
  have hfloat : Function.Injective (Option.map Number.float) :=
    Option.map_injective fun _ _ h => Number.float.inj h
  have hint : Function.Injective (Option.map Number.int) :=
    Option.map_injective fun _ _ h => Number.int.inj h
  simp only [boundedScalars, List.forall_mem_cons, hfloat.eq_iff, hint.eq_iff] at h
  obtain ⟨h₁, h₂, h₃, h₄, h₅, h₆, h₇, h₈, h₉, -⟩ := h
  cases a
  cases b
  simp only [GlobalPatch.mk.injEq]
  exact ⟨h₁, h₂, hstart, hstop, h₃, h₄, h₅, h₆, h₇, h₈, h₉⟩

/-- Nothing is reported when every target is inside its envelope. -/
theorem clampedFields_eq_nil :
    clampedFields bounds patch = [] ↔ checkCropSafeRange patch (some bounds) = none := by
  rw [checkCropSafeRange_eq_none, clampedFields, List.append_eq_nil_iff, List.map_eq_nil_iff,
    List.filter_eq_nil_iff]
  simp only [Bool.not_eq_true, moved_eq_false]
  refine and_congr_right fun _ => ?_
  cases bounds.zones with
  | none => simp
  | some zb =>
    simp only [List.flatMap_eq_nil_iff, List.map_eq_nil_iff, List.filter_eq_nil_iff,
      Bool.not_eq_true, moved_eq_false, Option.some.injEq, forall_eq']

theorem clampGlobals_eq_empty {p : GlobalPatch} (h : clampGlobals bounds p = {}) : p = {} := by
  cases p
  simpa [clampGlobals] using h

theorem validGlobals_clampGlobals (h : CropSafe bounds) (patch : SetpointsPatch) :
    ValidGlobals (clampGlobals bounds patch.toGlobalPatch) := by
  have hfloat : ∀ {P : ℚ → Prop} {b : Option Bound} {o : Option ℚ}, Ranged P b →
      (∀ v, o = some v → P v) → ∀ v ∈ o.map (clampFloat b), P v := by
    intro P b o hb ho v hv
    obtain ⟨q, hq, rfl⟩ := Option.map_eq_some_iff.1 hv
    exact clampFloat_valid hb (ho q hq)
  have hround : ∀ q : ℚ, Between 0 5000 q → 0 ≤ roundHalfEven q ∧ roundHalfEven q ≤ 5000 := by
    intro q hq
    exact ⟨le_roundHalfEven (by exact_mod_cast hq.1), roundHalfEven_le (by exact_mod_cast hq.2)⟩
  refine ⟨hfloat h.day patch.day, hfloat h.night patch.night, patch.start, patch.stop,
    hfloat h.low patch.low, hfloat h.high patch.high, hfloat h.deadband patch.deadband, ?_,
    hfloat h.interlock patch.interlock, hfloat h.vpd patch.vpd, hfloat h.dli patch.dli⟩
  intro v hv
  obtain ⟨n, hn, rfl⟩ := Option.map_eq_some_iff.1 hv
  exact @clampInt_valid _ _ (fun n => 0 ≤ n ∧ n ≤ 5000) h.co2.1 hround n (patch.co2 n hn)

/-- A clamped zone is in the ranges of its targets. -/
theorem exists_clampZone {zb : ZoneBounds} (hlow : Ranged (Between 0 1) zb.moistureLowThreshold)
    (hhigh : Ranged (Between 0 1) zb.moistureHighThreshold)
    (hdrain : Ranged (fun v => 0 ≤ v) zb.drainPeriodSecs) (z : ZoneTargets) :
    ∃ valid : ZoneTargets, valid.toZoneTargets = clampZone zb z.toZoneTargets := by
  have hround : ∀ q : ℚ, 0 ≤ q → 0 ≤ roundHalfEven q := fun q hq =>
    le_roundHalfEven (by exact_mod_cast hq)
  refine ⟨⟨clampZone zb z.toZoneTargets, z.slug, ?_, ?_, ?_, z.times⟩, rfl⟩
  · exact clampFloat_valid hlow z.low
  · exact clampFloat_valid hhigh z.high
  · exact @clampInt_valid _ _ (fun n => 0 ≤ n) hdrain hround _ z.drain

theorem exists_clampZones (h : CropSafe bounds) (zones : List ZoneTargets) :
    ∃ valid : List ZoneTargets,
      valid.map (·.toZoneTargets) = clampZones bounds (zones.map (·.toZoneTargets)) := by
  unfold clampZones
  cases hzb : bounds.zones with
  | none => exact ⟨zones, rfl⟩
  | some zb =>
    obtain ⟨hlow, hhigh, hdrain, -⟩ := h.zones zb hzb
    dsimp only
    induction zones with
    | nil => exact ⟨[], rfl⟩
    | cons z zones ih =>
      obtain ⟨valid, hvalid⟩ := exists_clampZone hlow hhigh hdrain z
      obtain ⟨rest, hrest⟩ := ih
      refine ⟨valid :: rest, ?_⟩
      rw [List.map_cons, hvalid, hrest, List.map_cons, List.map_cons]

/-- A safe patch is what clamping makes of it. -/
theorem clamp_self (hsafe : checkCropSafeRange patch (some bounds) = none) :
    clampGlobals bounds patch.toGlobalPatch = patch.toGlobalPatch ∧
      clampZones bounds patch.zoneTargets = patch.zoneTargets := by
  obtain ⟨hscalars, hzones⟩ := checkCropSafeRange_eq_none.1 hsafe
  constructor
  · refine globals_ext (fun f hf => ?_) rfl rfl
    rw [ofPatch_clampGlobals bounds _ f hf]
    refine (Option.map_congr fun v hv => ?_).trans (congrFun Option.map_id _)
    exact clampNumber_of_inBound (hscalars f hf v hv)
  · unfold clampZones
    cases hzb : bounds.zones with
    | none => rfl
    | some zb =>
      refine (List.map_congr_left fun z hz => ?_).trans (List.map_id _)
      have hfield := fun f hf => clampNumber_of_inBound (hzones zb hzb z hz f hf)
      simp only [zoneBounded, List.forall_mem_cons] at hfield
      obtain ⟨hlow, hhigh, hdrain, -⟩ := hfield
      cases z
      simp only [clampZone, id_eq, Platform.ZoneTargets.mk.injEq, true_and, and_true]
      exact ⟨Number.float.inj hlow, Number.float.inj hhigh, Number.int.inj hdrain⟩

/-- **What clamping does to a patch**: every target is clamped, and the ones that were outside
are reported. -/
theorem clampToBounds_spec (h : CropSafe bounds) (patch : SetpointsPatch) :
    ∃ r, clampToBounds patch (some bounds) = some r ∧
      r.clampedFields = clampedFields bounds patch ∧
      r.patch.toGlobalPatch = clampGlobals bounds patch.toGlobalPatch ∧
      r.patch.zones.isSome = patch.zones.isSome ∧
      r.patch.zoneTargets = clampZones bounds patch.zoneTargets := by
  unfold clampToBounds
  dsimp only
  split
  · rename_i hnil
    obtain ⟨hglobals, hzones⟩ := clamp_self (clampedFields_eq_nil.1 hnil)
    exact ⟨_, rfl, hnil.symm, hglobals.symm, rfl, hzones.symm⟩
  · have hne : clampGlobals bounds patch.toGlobalPatch ≠ {} ∨
        (patch.zones.map fun zones => clampZones bounds (zones.map (·.toZoneTargets))) ≠ none := by
      refine patch.nonempty.imp (fun hp hempty => hp (clampGlobals_eq_empty hempty)) ?_
      exact fun hp hnone => hp (Option.map_eq_none_iff.1 hnone)
    obtain ⟨p, hp⟩ := SetpointsPatch.exists_build? (validGlobals_clampGlobals h patch) hne
      (by
        intro zones hzones
        obtain ⟨raw, -, rfl⟩ := Option.map_eq_some_iff.1 hzones
        exact exists_clampZones h raw)
    obtain ⟨hglobals, hzones⟩ := SetpointsPatch.build?_eq_some.1 hp
    refine ⟨⟨p, clampedFields bounds patch⟩, by rw [hp]; rfl, rfl, hglobals, ?_, ?_⟩
    · have := congrArg Option.isSome hzones
      simpa only [Option.isSome_map] using this
    · unfold SetpointsPatch.zoneTargets
      cases hraw : patch.zones with
      | none =>
        rw [hraw] at hzones
        rw [Option.map_eq_none_iff.1 hzones]
        unfold clampZones
        cases bounds.zones <;> rfl
      | some raw =>
        rw [hraw] at hzones
        obtain ⟨zones, hpz, heq⟩ := Option.map_eq_some_iff.1 hzones
        rw [hpz]
        exact heq

/-! ## When a clamped patch is safe -/

/-- What clamping promises: the patch is safe, what is not reported is as it was, and clamping
again finds nothing to do. -/
structure Clamped (bounds : StageBounds) (patch : SetpointsPatch) (r : ClampResult) : Prop where
  safe : checkCropSafeRange r.patch (some bounds) = none
  scalars : ∀ f ∈ boundedScalars, f.name ∉ r.clampedFields →
    f.ofPatch r.patch.toGlobalPatch = f.ofPatch patch.toGlobalPatch
  window : r.patch.dayStart = patch.dayStart ∧ r.patch.dayEnd = patch.dayEnd
  zones : r.patch.zones.isSome = patch.zones.isSome ∧
    List.Forall₂ (fun z z' : Platform.ZoneTargets => z'.zoneId = z.zoneId ∧
      z'.schedule = z.schedule ∧ ∀ f ∈ zoneBounded, zoneFieldName z f ∉ r.clampedFields →
        f.ofZone z' = f.ofZone z) patch.zoneTargets r.patch.zoneTargets
  again : clampToBounds r.patch (some bounds) = some ⟨r.patch, []⟩

/-- Every integer target outside its envelope goes to an edge whose rounding is inside. -/
def AllRoundInside (bounds : StageBounds) (patch : SetpointsPatch) : Prop :=
  (∀ n, patch.co2TargetPpm = some n → RoundsInside bounds.co2TargetPpm n) ∧
    ∀ zb, bounds.zones = some zb → ∀ z ∈ patch.zoneTargets,
      RoundsInside zb.drainPeriodSecs z.drainPeriodSecs

/-- The clamped targets of a patch are inside their envelopes when the integer ones are. -/
theorem safe_iff (h : CropSafe bounds) {r : ClampResult}
    (hglobals : r.patch.toGlobalPatch = clampGlobals bounds patch.toGlobalPatch)
    (hzones : r.patch.zoneTargets = clampZones bounds patch.zoneTargets) :
    checkCropSafeRange r.patch (some bounds) = none ↔ AllRoundInside bounds patch := by
  rw [checkCropSafeRange_eq_none, hglobals, hzones]
  have hfloat : ∀ {P : ℚ → Prop} {b : Option Bound} {o : Option ℚ}, Ranged P b →
      ∀ v, (o.map (clampFloat b)).map Number.float = some v → InBound b v.toFloat := by
    intro P b o hb v hv
    rw [Option.map_map] at hv
    obtain ⟨q, -, rfl⟩ := Option.map_eq_some_iff.1 hv
    exact inBound_clampFloat hb q
  have hint : (∀ v, ((patch.co2TargetPpm.map (clampInt bounds.co2TargetPpm)).map Number.int) =
      some v → InBound bounds.co2TargetPpm v.toFloat) ↔
      ∀ n, patch.co2TargetPpm = some n → RoundsInside bounds.co2TargetPpm n := by
    rw [Option.map_map]
    simp only [Option.map_eq_some_iff, forall_exists_index, and_imp]
    constructor
    · exact fun hall n hn => (inBound_clampInt h.co2.1).1 (hall _ n hn rfl)
    · rintro hall v n hn rfl
      exact (inBound_clampInt h.co2.1).2 (hall n hn)
  refine and_congr ?_ ?_
  · rw [← hint]
    simp only [boundedScalars, List.forall_mem_cons]
    constructor
    · exact fun hall => hall.2.2.2.2.2.1
    · exact fun hco2 => ⟨hfloat h.day, hfloat h.night, hfloat h.low, hfloat h.high,
        hfloat h.deadband, hco2, hfloat h.interlock, hfloat h.vpd, hfloat h.dli,
        List.forall_mem_nil _⟩
  · refine forall₂_congr fun zb hzb => ?_
    obtain ⟨hlow, hhigh, hdrain, -⟩ := h.zones zb hzb
    unfold clampZones
    rw [hzb, List.forall_mem_map]
    refine forall₂_congr fun z _ => ?_
    simp only [zoneBounded, List.forall_mem_cons]
    constructor
    · exact fun hall => (inBound_clampInt hdrain).1 hall.2.2.1
    · exact fun hround => ⟨inBound_clampFloat hlow _, inBound_clampFloat hhigh _,
        (inBound_clampInt hdrain).2 hround, List.forall_mem_nil _⟩

/-- A scalar that is not reported is as it was. -/
theorem clampGlobals_unreported {f : BoundedScalar} (hf : f ∈ boundedScalars)
    (hnot : f.name ∉ clampedFields bounds patch) :
    f.ofPatch (clampGlobals bounds patch.toGlobalPatch) = f.ofPatch patch.toGlobalPatch := by
  have hmoved : moved (f.ofBounds bounds) (f.ofPatch patch.toGlobalPatch) = false := by
    refine Bool.eq_false_iff.2 fun hmoved => hnot ?_
    exact List.mem_append_left _ (List.mem_map_of_mem (List.mem_filter.2 ⟨hf, hmoved⟩))
  rw [ofPatch_clampGlobals bounds _ f hf]
  refine (Option.map_congr fun v hv => ?_).trans (congrFun Option.map_id _)
  exact clampNumber_of_inBound (moved_eq_false.1 hmoved v hv)

/-- A zone's target that is not reported is as it was. -/
theorem clampZone_unreported {zb : ZoneBounds} (hzb : bounds.zones = some zb)
    {z : Platform.ZoneTargets} (hz : z ∈ patch.zoneTargets) {f : ZoneBounded}
    (hf : f ∈ zoneBounded) (hnot : zoneFieldName z f ∉ clampedFields bounds patch) :
    f.ofZone (clampZone zb z) = f.ofZone z := by
  have hmoved : moved (f.ofBounds zb) (some (f.ofZone z)) = false := by
    refine Bool.eq_false_iff.2 fun hmoved => hnot ?_
    refine List.mem_append_right _ ?_
    rw [hzb]
    exact List.mem_flatMap.2 ⟨z, hz, List.mem_map_of_mem (List.mem_filter.2 ⟨hf, hmoved⟩)⟩
  rw [ofZone_clampZone zb z f hf]
  exact clampNumber_of_inBound (moved_eq_false.1 hmoved _ rfl)

theorem forall₂_clampZones {R : Platform.ZoneTargets → Platform.ZoneTargets → Prop}
    (hsame : ∀ z, R z z)
    (hclamp : ∀ zb, bounds.zones = some zb → ∀ z ∈ patch.zoneTargets, R z (clampZone zb z)) :
    List.Forall₂ R patch.zoneTargets (clampZones bounds patch.zoneTargets) := by
  unfold clampZones
  cases hzb : bounds.zones with
  | none => exact List.forall₂_same.2 fun z _ => hsame z
  | some zb =>
    rw [List.forall₂_map_right_iff]
    exact List.forall₂_same.2 fun z hz => hclamp zb hzb z hz

/-- **When clamping keeps its promise**: exactly when every integer target outside its envelope
goes to an edge whose rounding is inside. -/
theorem clamped_iff (h : CropSafe bounds) (patch : SetpointsPatch) :
    (∃ r, clampToBounds patch (some bounds) = some r ∧ Clamped bounds patch r) ↔
      AllRoundInside bounds patch := by
  obtain ⟨r, hr, hfields, hglobals, hsome, hzones⟩ := clampToBounds_spec h patch
  constructor
  · rintro ⟨r', hr', hclamped⟩
    obtain rfl := Option.some.inj (hr.symm.trans hr')
    exact (safe_iff h hglobals hzones).1 hclamped.safe
  · intro hround
    have hsafe := (safe_iff h hglobals hzones).2 hround
    refine ⟨r, hr, hsafe, ?_, ?_, ⟨hsome, ?_⟩, ?_⟩
    · intro f hf hnot
      rw [hfields] at hnot
      rw [hglobals]
      exact clampGlobals_unreported hf hnot
    · rw [hglobals]
      exact ⟨rfl, rfl⟩
    · rw [hzones, hfields]
      refine forall₂_clampZones (fun z => ⟨rfl, rfl, fun _ _ _ => rfl⟩) fun zb hzb z hz => ?_
      exact ⟨rfl, rfl, fun f hf hnot => clampZone_unreported hzb hz hf hnot⟩
    · exact if_pos (clampedFields_eq_nil.2 hsafe)

end

namespace Bench

/-- An envelope of the CO2 target alone. -/
def co2Bounds (min max : ℚ) : StageBounds where
  co2TargetPpm := some ⟨min, max⟩

theorem cropSafe_co2Bounds {min max : ℚ} (h : min ≤ max) (hmin : 0 ≤ min) (hmax : max ≤ 5000)
    (n : Int) (hn : min ≤ n ∧ n ≤ max) : CropSafe (co2Bounds min max) := by
  have hnone : ∀ P, Ranged P none := by
    intro P b hb
    cases hb
  refine ⟨hnone _, hnone _, hnone _, hnone _, hnone _, ⟨?_, ?_⟩, hnone _, hnone _, hnone _, ?_⟩
  · rintro b ⟨⟩
    exact ⟨h, ⟨hmin, h.trans hmax⟩, hmin.trans h, hmax⟩
  · rintro b ⟨⟩
    exact ⟨n, hn⟩
  · intro zb hzb
    cases hzb

end Bench

/-- **A clamped target can be outside its envelope**: the lower edge 400.4 rounds to 400. -/
theorem clamped_outside : CropSafe (Bench.co2Bounds (4004 / 10) (4013 / 10)) ∧
    ¬ ∃ r, clampToBounds Bench.starved (some (Bench.co2Bounds (4004 / 10) (4013 / 10))) = some r ∧
      Clamped (Bench.co2Bounds (4004 / 10) (4013 / 10)) Bench.starved r := by
  constructor
  · exact Bench.cropSafe_co2Bounds (by norm_num) (by norm_num) (by norm_num) 401 (by norm_num)
  · rintro ⟨r, hr, hclamped⟩
    have hcheck : (clampToBounds Bench.starved (some (Bench.co2Bounds (4004 / 10) (4013 / 10)))).map
        (fun r => (checkCropSafeRange r.patch
          (some (Bench.co2Bounds (4004 / 10) (4013 / 10)))).isSome) = some true := by
      decide +kernel
    rw [hr, Option.map_some, hclamped.safe] at hcheck
    cases hcheck

/-- A target below an envelope with whole edges. -/
theorem clamped_iff_starved :
    ∃ r, clampToBounds Bench.starved (some (Bench.co2Bounds 400 1200)) = some r ∧
      Clamped (Bench.co2Bounds 400 1200) Bench.starved r := by
  refine (clamped_iff (Bench.cropSafe_co2Bounds (by norm_num) (by norm_num) (by norm_num) 400
    (by norm_num)) Bench.starved).2 ⟨?_, ?_⟩
  · rintro n - b ⟨⟩
    exact ⟨fun _ => by decide +kernel, fun _ => by decide +kernel⟩
  · intro zb hzb
    cases hzb

end Greenhouse.Optimizer
