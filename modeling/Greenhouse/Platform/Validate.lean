import Greenhouse.Numeric.Decimal
import Greenhouse.Platform.Domain

/-!
# The platform's validators

The checks of setpoint bundles, crop-safe envelopes and profile stages. A validator returns
the first violation it finds, or `none`.

* `validateSetpoints_eq_none`: the bundles `validateSetpoints` accepts.
* `validateSetpointsWithinBounds_eq_none`: the bundles within an envelope.
* `validateSetpoints_of_stage`: the targets of an accepted stage are an accepted bundle.
-/

namespace Greenhouse.Platform

open Greenhouse.Numeric

/-! ## Violations -/

/-- The rejected value. -/
inductive Value where
  | nothing
  | float (q : ℚ)
  | int (n : Int)
  | text (s : String)
  deriving DecidableEq

/-- A single failed validation. -/
structure ValError where
  field : String
  bound : String
  value : Value := .nothing
  deriving DecidableEq

/-- The first violation of some checks. -/
def firstError (checks : List (Option ValError)) : Option ValError := checks.findSome? id

theorem firstError_eq_none {checks : List (Option ValError)} :
    firstError checks = none ↔ ∀ c ∈ checks, c = none := by
  simp [firstError, List.findSome?_eq_none_iff]

/-- The first violation among the elements of a list, each checked under its index. -/
def firstErrorAt {α : Type} (check : Nat → α → Option ValError) (l : List α) : Option ValError :=
  l.zipIdx.findSome? fun (a, i) => check i a

theorem firstErrorAt_eq_none {α : Type} {check : Nat → α → Option ValError} {l : List α}
    {P : α → Prop} (h : ∀ i a, check i a = none ↔ P a) :
    firstErrorAt check l = none ↔ ∀ a ∈ l, P a := by
  simp only [firstErrorAt, List.findSome?_eq_none_iff, h]
  constructor
  · intro hall a ha
    obtain ⟨i, hi, rfl⟩ := List.mem_iff_getElem.1 ha
    exact hall (l[i], i) (List.mem_zipIdx_iff_getElem?.2 (List.getElem?_eq_getElem hi))
  · rintro hall ⟨a, i⟩ ha
    exact hall a (List.fst_mem_of_mem_zipIdx ha)

/-- A violation when the condition holds. -/
def errorIf (bad : Prop) [Decidable bad] (error : ValError) : Option ValError :=
  if bad then some error else none

@[simp] theorem errorIf_eq_none {bad : Prop} [Decidable bad] {error : ValError} :
    errorIf bad error = none ↔ ¬ bad := by
  simp [errorIf]

def rangeF (field : String) (value : Option ℚ) (lo hi : ℚ) : Option ValError :=
  value.bind fun v =>
    errorIf (v < lo ∨ v > hi) ⟨field, formatG lo ++ ".." ++ formatG hi, .float v⟩

def rangeI (field : String) (value : Option Int) (lo hi : Int) : Option ValError :=
  value.bind fun v =>
    errorIf (v < lo ∨ v > hi) ⟨field, toString lo ++ ".." ++ toString hi, .int v⟩

def minF (field : String) (value : Option ℚ) (lo : ℚ) : Option ValError :=
  value.bind fun v => errorIf (v < lo) ⟨field, ">= " ++ formatG lo, .float v⟩

section

variable {field : String} {lo hi : ℚ}

@[simp] theorem rangeF_some {v : ℚ} : rangeF field (some v) lo hi = none ↔ lo ≤ v ∧ v ≤ hi := by
  simp [rangeF]

@[simp] theorem rangeI_some {v lo hi : Int} :
    rangeI field (some v) lo hi = none ↔ lo ≤ v ∧ v ≤ hi := by
  simp [rangeI]

@[simp] theorem minF_some {v : ℚ} : minF field (some v) lo = none ↔ lo ≤ v := by
  simp [minF]

end

/-! ## Patterns -/

/-- A regular expression with its text. -/
structure Pattern where
  re : String
  matchString : String → Bool

def isDigit (c : Char) : Bool := '0' ≤ c && c ≤ '9'

/-- `([01][0-9]|2[0-3]):[0-5][0-9]`. -/
def isHhmm : List Char → Bool
  | [h, h', ':', m, m'] =>
    (((h == '0' || h == '1') && isDigit h') || (h == '2' && '0' ≤ h' && h' ≤ '3'))
    && ('0' ≤ m && m ≤ '5') && isDigit m'
  | _ => false

def hhmmRe : Pattern where
  re := "^([01][0-9]|2[0-3]):[0-5][0-9]$"
  matchString s := isHhmm s.toList

def scheduleRe : Pattern where
  re := "^([01][0-9]|2[0-3]):[0-5][0-9](,([01][0-9]|2[0-3]):[0-5][0-9])*$"
  matchString s := (s.toList.splitOn ',').all isHhmm

def isSlugChar (c : Char) : Bool := ('a' ≤ c && c ≤ 'z') || isDigit c

/-- `^[a-z0-9]+(-[a-z0-9]+)*$`. -/
def validSlug (s : String) : Bool :=
  (s.toList.splitOn '-').all fun seg => !seg.isEmpty && seg.all isSlugChar

/-- The value of a decimal digit. -/
def digit (c : Char) : Nat := c.toNat - '0'.toNat

/-- The minutes of a time of day; `none` for a text that is not one. -/
def minutesOfDay (hhmm : String) : Option Nat :=
  if hhmmRe.matchString hhmm then
    match hhmm.toList with
    | [h, h', _, m, m'] => some ((10 * digit h + digit h') * 60 + (10 * digit m + digit m'))
    | _ => none
  else none

def pattern (field value : String) (re : Pattern) : Option ValError :=
  errorIf (re.matchString value = false) ⟨field, "format " ++ re.re, .text value⟩

@[simp] theorem pattern_eq_none {field value : String} {re : Pattern} :
    pattern field value re = none ↔ re.matchString value = true := by
  simp [pattern]

/-! ## Bundles -/

def physTempMinC : Int := -20
def physTempMaxC : Int := 60
def physPctMin : Int := 0
def physPctMax : Int := 100
def physDeadbandMaxPct : Int := 50
def physCO2MinPpm : Int := 0
def physCO2MaxPpm : Int := 5000
def physMoistureMin : Int := 0
def physMoistureMax : Int := 1
def physDrainMinSecs : Int := 0
def physDrainMaxSecs : Int := 2 ^ 31

def validateZoneTargets (index : Nat) (zone : ZoneTargets) : Option ValError :=
  let pre := "zones[" ++ toString index ++ "]."
  firstError [
    errorIf (validSlug zone.zoneId = false)
      ⟨pre ++ "zone_id", "lowercase kebab slug", .text zone.zoneId⟩,
    rangeF (pre ++ "moisture_low_threshold") (some zone.moistureLowThreshold) 0 1,
    rangeF (pre ++ "moisture_high_threshold") (some zone.moistureHighThreshold) 0 1,
    errorIf (zone.moistureLowThreshold ≥ zone.moistureHighThreshold)
      ⟨pre ++ "moisture_low_threshold", "must be < moisture_high_threshold",
        .float zone.moistureLowThreshold⟩,
    rangeI (pre ++ "drain_period_secs") (some zone.drainPeriodSecs) 0 (2 ^ 31),
    pattern (pre ++ "schedule") zone.schedule scheduleRe]

def validateSetpoints (setpoints : Setpoints) : Option ValError :=
  firstError [
    rangeF "temperature_day_c" (some setpoints.temperatureDayC) physTempMinC physTempMaxC,
    rangeF "temperature_night_c" (some setpoints.temperatureNightC) physTempMinC physTempMaxC,
    rangeF "humidity_low_pct" (some setpoints.humidityLowPct) physPctMin physPctMax,
    rangeF "humidity_high_pct" (some setpoints.humidityHighPct) physPctMin physPctMax,
    rangeF "humidity_deadband_pct" (some setpoints.humidityDeadbandPct) physPctMin
      physDeadbandMaxPct,
    rangeI "co2_target_ppm" (some setpoints.co2TargetPpm) physCO2MinPpm physCO2MaxPpm,
    rangeF "co2_vent_interlock_threshold_pct" (some setpoints.co2VentInterlockThresholdPct)
      physPctMin physPctMax,
    minF "vpd_target_kpa" (some setpoints.vpdTargetKpa) 0,
    minF "dli_target_mol" (some setpoints.dliTargetMol) 0,
    pattern "day_start" setpoints.dayStart hhmmRe,
    pattern "day_end" setpoints.dayEnd hhmmRe,
    errorIf ((minutesOfDay setpoints.dayEnd).getD 0 ≤ (minutesOfDay setpoints.dayStart).getD 0)
      ⟨"day_end", "must be after day_start", .text setpoints.dayEnd⟩,
    errorIf (setpoints.humidityLowPct ≥ setpoints.humidityHighPct)
      ⟨"humidity_low_pct", "must be < humidity_high_pct", .float setpoints.humidityLowPct⟩,
    firstErrorAt validateZoneTargets setpoints.zones]

/-- The zones that `validateZoneTargets` accepts. -/
structure ZoneTargets.Valid (z : ZoneTargets) : Prop where
  zoneId : validSlug z.zoneId = true
  low : 0 ≤ z.moistureLowThreshold ∧ z.moistureLowThreshold ≤ 1
  high : 0 ≤ z.moistureHighThreshold ∧ z.moistureHighThreshold ≤ 1
  band : z.moistureLowThreshold < z.moistureHighThreshold
  drain : 0 ≤ z.drainPeriodSecs ∧ z.drainPeriodSecs ≤ 2 ^ 31
  schedule : scheduleRe.matchString z.schedule = true

/-- The bundles that `validateSetpoints` accepts. -/
structure Setpoints.Valid (s : Setpoints) : Prop where
  day : -20 ≤ s.temperatureDayC ∧ s.temperatureDayC ≤ 60
  night : -20 ≤ s.temperatureNightC ∧ s.temperatureNightC ≤ 60
  low : 0 ≤ s.humidityLowPct ∧ s.humidityLowPct ≤ 100
  high : 0 ≤ s.humidityHighPct ∧ s.humidityHighPct ≤ 100
  deadband : 0 ≤ s.humidityDeadbandPct ∧ s.humidityDeadbandPct ≤ 50
  co2 : 0 ≤ s.co2TargetPpm ∧ s.co2TargetPpm ≤ 5000
  interlock : 0 ≤ s.co2VentInterlockThresholdPct ∧ s.co2VentInterlockThresholdPct ≤ 100
  vpd : 0 ≤ s.vpdTargetKpa
  dli : 0 ≤ s.dliTargetMol
  dayStart : hhmmRe.matchString s.dayStart = true
  dayEnd : hhmmRe.matchString s.dayEnd = true
  window : (minutesOfDay s.dayStart).getD 0 < (minutesOfDay s.dayEnd).getD 0
  band : s.humidityLowPct < s.humidityHighPct
  zones : ∀ z ∈ s.zones, z.Valid

theorem validateZoneTargets_eq_none {index : Nat} {z : ZoneTargets} :
    validateZoneTargets index z = none ↔ z.Valid := by
  simp only [validateZoneTargets, firstError_eq_none, List.forall_mem_cons, errorIf_eq_none,
    rangeF_some, rangeI_some, pattern_eq_none, Bool.not_eq_false, ge_iff_le, not_le]
  constructor
  · rintro ⟨hid, hlow, hhigh, hband, hdrain, hschedule, -⟩
    exact ⟨hid, hlow, hhigh, hband, hdrain, hschedule⟩
  · rintro ⟨hid, hlow, hhigh, hband, hdrain, hschedule⟩
    exact ⟨hid, hlow, hhigh, hband, hdrain, hschedule, fun _ h => nomatch h⟩

theorem validateZones_eq_none {zones : List ZoneTargets} :
    firstErrorAt validateZoneTargets zones = none ↔ ∀ z ∈ zones, z.Valid :=
  firstErrorAt_eq_none fun _ _ => validateZoneTargets_eq_none

/-- **The bundles `validateSetpoints` accepts.** -/
theorem validateSetpoints_eq_none {s : Setpoints} : validateSetpoints s = none ↔ s.Valid := by
  simp only [validateSetpoints, firstError_eq_none, List.forall_mem_cons, errorIf_eq_none,
    rangeF_some, rangeI_some, minF_some, pattern_eq_none, ge_iff_le, not_le,
    validateZones_eq_none]
  constructor
  · rintro ⟨hday, hnight, hlow, hhigh, hdead, hco2, hlock, hvpd, hdli, hstart, hend, hwindow,
      hband, hzones, -⟩
    exact ⟨by simpa [physTempMinC, physTempMaxC] using hday,
      by simpa [physTempMinC, physTempMaxC] using hnight,
      by simpa [physPctMin, physPctMax] using hlow,
      by simpa [physPctMin, physPctMax] using hhigh,
      by simpa [physPctMin, physDeadbandMaxPct] using hdead, hco2,
      by simpa [physPctMin, physPctMax] using hlock, hvpd, hdli, hstart, hend, hwindow, hband,
      hzones⟩
  · intro h
    refine ⟨by simpa [physTempMinC, physTempMaxC] using h.day,
      by simpa [physTempMinC, physTempMaxC] using h.night,
      by simpa [physPctMin, physPctMax] using h.low,
      by simpa [physPctMin, physPctMax] using h.high,
      by simpa [physPctMin, physDeadbandMaxPct] using h.deadband, h.co2,
      by simpa [physPctMin, physPctMax] using h.interlock, h.vpd, h.dli, h.dayStart, h.dayEnd,
      h.window, h.band, h.zones, fun _ hx => nomatch hx⟩

/-! ## Crop-safe envelopes -/

/-- A target that an envelope can bound: its wire name, its physical range, its value in `T`
and its bound in `B`. -/
structure BoundField (T B : Type) where
  name : String
  lo : ℚ
  hi : ℚ
  value : T → ℚ
  bound : B → Option Bound

/-- `math.MaxFloat64`. -/
def maxFloat64 : ℚ := (2 ^ 53 - 1) * 2 ^ 971

def climateBoundFields : List (BoundField Setpoints StageBounds) := [
  ⟨"temperature_day_c", physTempMinC, physTempMaxC,
    fun s => s.temperatureDayC, fun b => b.temperatureDayC⟩,
  ⟨"temperature_night_c", physTempMinC, physTempMaxC,
    fun s => s.temperatureNightC, fun b => b.temperatureNightC⟩,
  ⟨"humidity_low_pct", physPctMin, physPctMax,
    fun s => s.humidityLowPct, fun b => b.humidityLowPct⟩,
  ⟨"humidity_high_pct", physPctMin, physPctMax,
    fun s => s.humidityHighPct, fun b => b.humidityHighPct⟩,
  ⟨"humidity_deadband_pct", physPctMin, physDeadbandMaxPct,
    fun s => s.humidityDeadbandPct, fun b => b.humidityDeadbandPct⟩,
  ⟨"co2_target_ppm", physCO2MinPpm, physCO2MaxPpm,
    fun s => s.co2TargetPpm, fun b => b.co2TargetPpm⟩,
  ⟨"co2_vent_interlock_threshold_pct", physPctMin, physPctMax,
    fun s => s.co2VentInterlockThresholdPct, fun b => b.co2VentInterlockThresholdPct⟩,
  ⟨"vpd_target_kpa", 0, maxFloat64, fun s => s.vpdTargetKpa, fun b => b.vpdTargetKpa⟩,
  ⟨"dli_target_mol", 0, maxFloat64, fun s => s.dliTargetMol, fun b => b.dliTargetMol⟩]

def zoneBoundFields : List (BoundField ZoneTargets ZoneBounds) := [
  ⟨"moisture_low_threshold", physMoistureMin, physMoistureMax,
    fun z => z.moistureLowThreshold, fun b => b.moistureLowThreshold⟩,
  ⟨"moisture_high_threshold", physMoistureMin, physMoistureMax,
    fun z => z.moistureHighThreshold, fun b => b.moistureHighThreshold⟩,
  ⟨"drain_period_secs", physDrainMinSecs, physDrainMaxSecs,
    fun z => z.drainPeriodSecs, fun b => b.drainPeriodSecs⟩]

/-- The text of a physical range; only climate targets are unbounded above. -/
def BoundField.rangeLabel {T B : Type} (f : BoundField T B) : String :=
  if f.hi = maxFloat64 then ">= " ++ formatG f.lo else formatG f.lo ++ ".." ++ formatG f.hi

/-- A bound has an order and lies in the physical range, and each target is inside it. -/
def BoundField.check {T B : Type} (f : BoundField T B) (path : String) (b : B)
    (targets : List T) : Option ValError :=
  (f.bound b).bind fun bound =>
    let field := path ++ f.name
    firstError ([
      errorIf (bound.min > bound.max) ⟨field, "min <= max", .float bound.min⟩,
      errorIf (bound.min < f.lo) ⟨field, f.rangeLabel, .float bound.min⟩,
      errorIf (bound.max > f.hi) ⟨field, f.rangeLabel, .float bound.max⟩]
      ++ targets.map fun t => errorIf (f.value t < bound.min ∨ f.value t > bound.max)
        ⟨field, "must contain target " ++ formatG (f.value t), .float (f.value t)⟩)

def validateZoneStageBounds (zones : List ZoneTargets) (bounds : Option ZoneBounds) :
    Option ValError :=
  bounds.bind fun bounds =>
    firstError (zoneBoundFields.map fun f => f.check "bounds.zones." bounds zones)

def validateStageBounds (targets : Setpoints) (bounds : Option StageBounds) : Option ValError :=
  bounds.bind fun bounds =>
    firstError ((climateBoundFields.map fun f => f.check "bounds." bounds [targets])
      ++ [validateZoneStageBounds targets.zones bounds.zones])

/-- The violation of a bound by a value. -/
def BoundField.outside {T B : Type} (f : BoundField T B) (path : String) (b : B) (t : T) :
    Option ValError :=
  (f.bound b).bind fun bound =>
    errorIf (f.value t < bound.min ∨ f.value t > bound.max)
      ⟨path ++ f.name, "crop-safe " ++ formatG bound.min ++ ".." ++ formatG bound.max,
        .float (f.value t)⟩

def validateSetpointsWithinBounds (setpoints : Setpoints) (bounds : StageBounds) :
    Option ValError :=
  firstError ((climateBoundFields.map fun f => f.outside "" bounds setpoints)
    ++ [bounds.zones.bind fun zb => firstErrorAt (fun index zone =>
      firstError (zoneBoundFields.map fun f =>
        f.outside ("zones[" ++ toString index ++ "].") zb zone)) setpoints.zones])

/-- The bound, if there is one, contains the value. -/
def InBound (b : Option Bound) (v : ℚ) : Prop :=
  ∀ bound, b = some bound → bound.min ≤ v ∧ v ≤ bound.max

theorem BoundField.outside_eq_none {T B : Type} {f : BoundField T B} {path : String} {b : B}
    {t : T} : f.outside path b t = none ↔ InBound (f.bound b) (f.value t) := by
  cases h : f.bound b <;> simp [outside, InBound, h]

/-- **The bundles within an envelope**: every climate target, and every target of every zone,
lies in its bound. -/
theorem validateSetpointsWithinBounds_eq_none {s : Setpoints} {b : StageBounds} :
    validateSetpointsWithinBounds s b = none ↔
      (∀ f ∈ climateBoundFields, InBound (f.bound b) (f.value s)) ∧
      ∀ zb, b.zones = some zb → ∀ z ∈ s.zones, ∀ f ∈ zoneBoundFields,
        InBound (f.bound zb) (f.value z) := by
  have hzone : ∀ (zb : ZoneBounds) (i : Nat) (z : ZoneTargets),
      firstError (zoneBoundFields.map fun f => f.outside ("zones[" ++ toString i ++ "].") zb z) =
        none ↔ ∀ f ∈ zoneBoundFields, InBound (f.bound zb) (f.value z) := fun zb i z => by
    simp only [firstError_eq_none, List.forall_mem_map, BoundField.outside_eq_none]
  simp only [validateSetpointsWithinBounds, firstError_eq_none, List.forall_mem_append,
    List.forall_mem_map, List.forall_mem_singleton, BoundField.outside_eq_none,
    Option.bind_eq_none_iff, firstErrorAt_eq_none (hzone _)]

/-! ## Profiles -/

/-- `unicode.IsSpace`. -/
def isSpace (c : Char) : Bool :=
  c.toNat ∈ [0x09, 0x0a, 0x0b, 0x0c, 0x0d, 0x20, 0x85, 0xa0, 0x1680, 0x2028, 0x2029, 0x202f, 0x205f,
    0x3000] || (0x2000 ≤ c.toNat && c.toNat ≤ 0x200a)

/-- Nothing is left of the text by `strings.TrimSpace`. -/
def isBlank (s : String) : Bool := s.toList.all isSpace

/-- Put a path in front of the field of a violation. -/
def ValError.under (path : String) (e : ValError) : ValError := { e with field := path ++ e.field }

/-- One stage of a profile; `seen` holds the labels of the stages before it. -/
def validateStage (seen : List String) (index : Nat) (stage : ProfileStage) : Option ValError :=
  let path := "stages[" ++ toString index ++ "]."
  firstError [
    errorIf (isBlank stage.stage) ⟨path ++ "stage", "non-empty", .text stage.stage⟩,
    errorIf (stage.stage ∈ seen) ⟨path ++ "stage", "unique", .text stage.stage⟩,
    (validateSetpoints stage.targets).map (.under (path ++ "targets.")),
    (validateStageBounds stage.targets stage.bounds).map (.under path)]

/-- Walk over the stages, collecting the labels seen. -/
def validateStagesFrom : Nat → List String → List ProfileStage → Option ValError
  | _, _, [] => none
  | index, seen, stage :: stages =>
    match validateStage seen index stage with
    | some e => some e
    | none => validateStagesFrom (index + 1) (stage.stage :: seen) stages

def validateStages (stages : List ProfileStage) : Option ValError :=
  if stages = [] then some ⟨"stages", "at least one stage", .nothing⟩
  else validateStagesFrom 0 [] stages

theorem validateSetpoints_of_stagesFrom {stages : List ProfileStage} :
    ∀ {index : Nat} {seen : List String}, validateStagesFrom index seen stages = none →
      ∀ stage ∈ stages, validateSetpoints stage.targets = none := by
  induction stages with
  | nil =>
    intro index seen _ stage hstage
    cases hstage
  | cons first stages ih =>
    intro index seen h stage hstage
    unfold validateStagesFrom at h
    split at h
    · cases h
    · rename_i hfirst
      rcases List.mem_cons.1 hstage with rfl | hstage
      · simp only [validateStage, firstError_eq_none, List.forall_mem_cons,
          Option.map_eq_none_iff] at hfirst
        exact hfirst.2.2.1
      · exact ih h stage hstage

/-- **The targets of an accepted stage are an accepted bundle.** -/
theorem validateSetpoints_of_stage {stages : List ProfileStage} {stage : ProfileStage}
    (h : validateStages stages = none) (hstage : stage ∈ stages) :
    validateSetpoints stage.targets = none := by
  unfold validateStages at h
  split at h
  · cases h
  · exact validateSetpoints_of_stagesFrom h stage hstage

end Greenhouse.Platform
