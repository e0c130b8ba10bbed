import Greenhouse.Platform.Reconcile
import Greenhouse.Platform.Validate

/-!
# The setpoint write path

A partial edit of a greenhouse's setpoints: its checks, its merge onto the baseline bundle,
and the handler that operators and the optimizer share. The JSON body is given decoded.

* `mergeZonePatch_iff`: which zone patches are merged, and what comes out.
* `forall_overlay`: the zones of the merged bundle are the patched ones and those left alone.
* `applyPatch_iff`: which edits are merged.
-/

namespace Greenhouse.Platform

open Greenhouse.Process Prog

/-! ## Edits -/

/-- The global part of a partial edit; an absent field leaves its target. -/
structure GlobalPatch where
  temperatureDayC : Option ℚ := none
  temperatureNightC : Option ℚ := none
  dayStart : Option String := none
  dayEnd : Option String := none
  humidityLowPct : Option ℚ := none
  humidityHighPct : Option ℚ := none
  humidityDeadbandPct : Option ℚ := none
  co2TargetPpm : Option Int := none
  co2VentInterlockThresholdPct : Option ℚ := none
  vpdTargetKpa : Option ℚ := none
  dliTargetMol : Option ℚ := none
  deriving DecidableEq

structure ZoneTargetsDTO where
  zoneId : Option String
  moistureLowThreshold : Option ℚ
  moistureHighThreshold : Option ℚ
  drainPeriodSecs : Option Int
  schedule : Option String
  deriving DecidableEq

structure SetpointsPatchDTO extends GlobalPatch where
  zones : Option (List ZoneTargetsDTO) := none
  deriving DecidableEq

/-- A zone with every field present. -/
def ZoneTargets.toDTO (z : ZoneTargets) : ZoneTargetsDTO where
  zoneId := some z.zoneId
  moistureLowThreshold := some z.moistureLowThreshold
  moistureHighThreshold := some z.moistureHighThreshold
  drainPeriodSecs := some z.drainPeriodSecs
  schedule := some z.schedule

def patchIsEmpty (patch : SetpointsPatchDTO) : Bool := patch = {}

/-! ## Checks of an edit -/

/-- A violation of a condition on two values that are both present. -/
def errorIfBoth {α : Type} (a b : Option α) (bad : α → α → Prop) [DecidableRel bad]
    (error : α → α → ValError) : Option ValError :=
  a.bind fun a => b.bind fun b => errorIf (bad a b) (error a b)

def validateZone (index : Nat) (zone : ZoneTargetsDTO) : Option ValError :=
  let pre := "zones[" ++ toString index ++ "]."
  firstError [
    zone.zoneId.bind fun id =>
      errorIf (validSlug id = false) ⟨pre ++ "zone_id", "lowercase kebab slug", .text id⟩,
    rangeF (pre ++ "moisture_low_threshold") zone.moistureLowThreshold 0 1,
    rangeF (pre ++ "moisture_high_threshold") zone.moistureHighThreshold 0 1,
    errorIfBoth zone.moistureLowThreshold zone.moistureHighThreshold (· ≥ ·) fun low _ =>
      ⟨pre ++ "moisture_low_threshold", "must be < moisture_high_threshold", .float low⟩,
    rangeI (pre ++ "drain_period_secs") zone.drainPeriodSecs 0 (2 ^ 31),
    zone.schedule.bind fun schedule => pattern (pre ++ "schedule") schedule scheduleRe]

def validateSetpointsPatch (patch : SetpointsPatchDTO) : Option ValError :=
  firstError [
    rangeF "temperature_day_c" patch.temperatureDayC physTempMinC physTempMaxC,
    rangeF "temperature_night_c" patch.temperatureNightC physTempMinC physTempMaxC,
    rangeF "humidity_low_pct" patch.humidityLowPct physPctMin physPctMax,
    rangeF "humidity_high_pct" patch.humidityHighPct physPctMin physPctMax,
    rangeF "humidity_deadband_pct" patch.humidityDeadbandPct physPctMin physDeadbandMaxPct,
    rangeI "co2_target_ppm" patch.co2TargetPpm physCO2MinPpm physCO2MaxPpm,
    rangeF "co2_vent_interlock_threshold_pct" patch.co2VentInterlockThresholdPct
      physPctMin physPctMax,
    minF "vpd_target_kpa" patch.vpdTargetKpa 0,
    minF "dli_target_mol" patch.dliTargetMol 0,
    patch.dayStart.bind fun dayStart => pattern "day_start" dayStart hhmmRe,
    patch.dayEnd.bind fun dayEnd => pattern "day_end" dayEnd hhmmRe,
    errorIfBoth patch.dayStart patch.dayEnd
      (fun start stop => (minutesOfDay stop).getD 0 ≤ (minutesOfDay start).getD 0)
      fun _ stop => ⟨"day_end", "must be after day_start", .text stop⟩,
    errorIfBoth patch.humidityLowPct patch.humidityHighPct (· ≥ ·) fun low _ =>
      ⟨"humidity_low_pct", "must be < humidity_high_pct", .float low⟩,
    firstErrorAt validateZone (patch.zones.getD [])]

/-! ## Merging -/

/-- A zone write needs every target field. -/
def zoneFromDTO (field : String) (dto : ZoneTargetsDTO) : Except ValError ZoneTargets :=
  let required (name : String) : ValError := ⟨field ++ "." ++ name, "required", .nothing⟩
  match dto.zoneId, dto.moistureLowThreshold, dto.moistureHighThreshold, dto.drainPeriodSecs,
      dto.schedule with
  | none, _, _, _, _ => .error (required "zone_id")
  | _, none, _, _, _ => .error (required "moisture_low_threshold")
  | _, _, none, _, _ => .error (required "moisture_high_threshold")
  | _, _, _, none, _ => .error (required "drain_period_secs")
  | _, _, _, _, none => .error (required "schedule")
  | some zoneId, some low, some high, some drain, some schedule =>
    .ok ⟨zoneId, low, high, drain, schedule⟩

@[simp] theorem zoneFromDTO_toDTO (field : String) (z : ZoneTargets) :
    zoneFromDTO field z.toDTO = .ok z := rfl

/-- The index of a zone id in the baseline: a later zone replaces an earlier one. -/
def position : List ZoneTargets → String → Option Nat
  | [], _ => none
  | zone :: zones, zoneId =>
    match position zones zoneId with
    | some i => some (i + 1)
    | none => if zone.zoneId = zoneId then some 0 else none

/-- The loop over the entries of a zone patch, with the ids seen and the zones so far. -/
def mergeZonesFrom (base : List ZoneTargets) :
    Nat → List String → List ZoneTargets → List ZoneTargetsDTO →
      Except ValError (List ZoneTargets)
  | _, _, merged, [] => .ok merged
  | index, seen, merged, dto :: dtos =>
    let field := "zones[" ++ toString index ++ "]"
    match zoneFromDTO field dto with
    | .error e => .error e
    | .ok zone =>
      match position base zone.zoneId with
      | none => .error ⟨field ++ ".zone_id", "unknown zone", .text zone.zoneId⟩
      | some pos =>
        if zone.zoneId ∈ seen then .error ⟨field ++ ".zone_id", "duplicate", .text zone.zoneId⟩
        else mergeZonesFrom base (index + 1) (zone.zoneId :: seen) (merged.set pos zone) dtos

def mergeZonePatch (base : List ZoneTargets) (patch : List ZoneTargetsDTO) :
    Except ValError (List ZoneTargets) :=
  mergeZonesFrom base 0 [] base patch

/-- The global targets after an edit. -/
def GlobalPatch.applyTo (patch : GlobalPatch) (base : GlobalSetpoints) : GlobalSetpoints where
  temperatureDayC := patch.temperatureDayC.getD base.temperatureDayC
  temperatureNightC := patch.temperatureNightC.getD base.temperatureNightC
  dayStart := patch.dayStart.getD base.dayStart
  dayEnd := patch.dayEnd.getD base.dayEnd
  humidityLowPct := patch.humidityLowPct.getD base.humidityLowPct
  humidityHighPct := patch.humidityHighPct.getD base.humidityHighPct
  humidityDeadbandPct := patch.humidityDeadbandPct.getD base.humidityDeadbandPct
  co2TargetPpm := patch.co2TargetPpm.getD base.co2TargetPpm
  co2VentInterlockThresholdPct :=
    patch.co2VentInterlockThresholdPct.getD base.co2VentInterlockThresholdPct
  vpdTargetKpa := patch.vpdTargetKpa.getD base.vpdTargetKpa
  dliTargetMol := patch.dliTargetMol.getD base.dliTargetMol

/-- Merge a partial edit onto a bundle. -/
def applyPatch (base : Setpoints) (patch : SetpointsPatchDTO) : Except ValError Setpoints :=
  let globals := patch.toGlobalPatch.applyTo base.toGlobalSetpoints
  match patch.zones with
  | none => .ok { globals with zones := base.zones }
  | some dtos =>
    match mergeZonePatch base.zones dtos with
    | .error e => .error e
    | .ok zones => .ok { globals with zones }

/-! ## What a merge gives -/

/-- Zones with some of them replaced, each at the last position of its id. -/
def overlay (patch : List ZoneTargets) : List ZoneTargets → List ZoneTargets
  | [] => []
  | zone :: zones =>
    (if position zones zone.zoneId = none then
      (patch.find? (·.zoneId == zone.zoneId)).getD zone
    else zone) :: overlay patch zones

@[simp] theorem overlay_nil (base : List ZoneTargets) : overlay [] base = base := by
  induction base with
  | nil => rfl
  | cons zone zones ih => simp [overlay, ih]

/-- Replacing one more zone. -/
theorem set_overlay {patch : List ZoneTargets} {z : ZoneTargets}
    (hnew : z.zoneId ∉ patch.map (·.zoneId)) {base : List ZoneTargets} :
    ∀ {pos : Nat}, position base z.zoneId = some pos →
      (overlay patch base).set pos z = overlay (patch ++ [z]) base := by
  have hkeep : ∀ (base : List ZoneTargets), position base z.zoneId = none →
      overlay (patch ++ [z]) base = overlay patch base := by
    intro base
    induction base with
    | nil => exact fun _ => rfl
    | cons zone zones ih =>
      intro hpos
      simp only [position] at hpos
      split at hpos
      · cases hpos
      · rename_i hrest
        have hne : ¬ zone.zoneId = z.zoneId := by
          intro h
          simp [h] at hpos
        simp [overlay, ih hrest, List.find?_append, beq_false_of_ne (Ne.symm hne)]
  induction base with
  | nil =>
    intro pos h
    cases h
  | cons zone zones ih =>
    intro pos h
    simp only [position] at h
    split at h
    · rename_i i hi
      obtain rfl := Option.some.inj h
      have hne : position zones zone.zoneId = none → ¬ z.zoneId = zone.zoneId := by
        intro hnone heq
        rw [heq, hnone] at hi
        cases hi
      simp only [overlay, List.set_cons_succ, ih hi, List.cons.injEq, and_true]
      by_cases hnone : position zones zone.zoneId = none
      · simp [hnone, List.find?_append, beq_false_of_ne (hne hnone)]
      · simp [hnone]
    · rename_i hi
      split at h
      · rename_i heq
        obtain rfl := Option.some.inj h
        have hfind : patch.find? (fun p => p.zoneId == z.zoneId) = none := by
          simp only [List.find?_eq_none, beq_iff_eq]
          exact fun p hp hid => hnew (hid ▸ List.mem_map_of_mem hp)
        simp [overlay, heq, hi, hkeep zones hi, List.find?_append, hfind]
      · cases h

theorem mergeZonesFrom_iff {base : List ZoneTargets} {zones : List ZoneTargets} :
    ∀ {index : Nat} {seen : List String} {done merged : List ZoneTargets},
      (∀ id, id ∈ seen ↔ id ∈ done.map (·.zoneId)) →
      (mergeZonesFrom base index seen (overlay done base) (zones.map (·.toDTO)) = .ok merged ↔
        (∀ z ∈ zones, position base z.zoneId ≠ none ∧ z.zoneId ∉ seen) ∧ DistinctZones zones ∧
          merged = overlay (done ++ zones) base) := by
  induction zones with
  | nil =>
    intro index seen done merged _
    simp [mergeZonesFrom, DistinctZones, eq_comm]
  | cons z zones ih =>
    intro index seen done merged hseen
    simp only [List.map_cons, mergeZonesFrom, zoneFromDTO_toDTO, List.forall_mem_cons,
      DistinctZones, List.nodup_cons]
    cases hpos : position base z.zoneId with
    | none => simp
    | some pos =>
      by_cases hz : z.zoneId ∈ seen
      · simp [hz]
      · have hnew : z.zoneId ∉ done.map (·.zoneId) := fun h => hz ((hseen _).2 h)
        have hseen' : ∀ id, id ∈ z.zoneId :: seen ↔ id ∈ (done ++ [z]).map (·.zoneId) := by
          intro id
          simp [hseen, or_comm]
        simp only [hz, if_false, set_overlay hnew hpos]
        rw [ih hseen', List.append_assoc]
        simp only [List.mem_cons, not_or, ne_eq, reduceCtorEq, not_false_eq_true, and_self,
          true_and, List.mem_map, not_exists, not_and, List.singleton_append]
        constructor
        · rintro ⟨hall, hd, hm⟩
          exact ⟨fun y hy => ⟨(hall y hy).1, (hall y hy).2.2⟩,
            ⟨fun y hy hid => (hall y hy).2.1 hid, hd⟩, hm⟩
        · rintro ⟨hall, ⟨hne, hd⟩, hm⟩
          exact ⟨fun y hy => ⟨(hall y hy).1, hne y hy, (hall y hy).2⟩, hd, hm⟩

/-- **Which zone patches are merged**: those of distinct known zones, each at its position. -/
theorem mergeZonePatch_iff {base zones merged : List ZoneTargets} :
    mergeZonePatch base (zones.map (·.toDTO)) = .ok merged ↔
      (∀ z ∈ zones, position base z.zoneId ≠ none) ∧ DistinctZones zones ∧
        merged = overlay zones base := by
  have h := @mergeZonesFrom_iff base zones 0 [] [] merged (by simp)
  simpa [mergeZonePatch] using h

/-- The zones of a bundle that a patch leaves alone. -/
def untouched (patch : List ZoneTargets) : List ZoneTargets → List ZoneTargets
  | [] => []
  | zone :: zones =>
    if position zones zone.zoneId = none ∧ zone.zoneId ∈ patch.map (·.zoneId) then
      untouched patch zones
    else zone :: untouched patch zones

@[simp] theorem untouched_nil (base : List ZoneTargets) : untouched [] base = base := by
  induction base with
  | nil => rfl
  | cons zone zones ih => simp [untouched, ih]

theorem position_eq_none {base : List ZoneTargets} {zoneId : String} :
    position base zoneId = none ↔ zoneId ∉ base.map (·.zoneId) := by
  induction base with
  | nil => simp [position]
  | cons zone zones ih =>
    simp only [position, List.map_cons, List.mem_cons, not_or]
    cases h : position zones zoneId with
    | none =>
      rw [h] at ih
      simp [ih.1 rfl, eq_comm]
    | some i =>
      rw [h] at ih
      have : ¬ zoneId ∉ zones.map (·.zoneId) := fun hn => by simpa using ih.2 hn
      simp only [reduceCtorEq, false_iff, not_and]
      exact fun _ => this

theorem find_zone {patch : List ZoneTargets} (hd : DistinctZones patch) {z : ZoneTargets}
    (hz : z ∈ patch) : patch.find? (·.zoneId == z.zoneId) = some z := by
  cases h : patch.find? (·.zoneId == z.zoneId) with
  | none =>
    have := List.find?_eq_none.1 h z hz
    simp at this
  | some y =>
    have hid : (y.zoneId == z.zoneId) = true :=
      List.find?_some (p := fun y : ZoneTargets => y.zoneId == z.zoneId) h
    rw [List.inj_on_of_nodup_map hd (List.mem_of_find?_eq_some h) hz (beq_iff_eq.1 hid)]

theorem find_zone_eq_none {patch : List ZoneTargets} {zoneId : String}
    (h : zoneId ∉ patch.map (·.zoneId)) : patch.find? (·.zoneId == zoneId) = none := by
  rw [List.find?_eq_none]
  intro z hz hid
  exact h (beq_iff_eq.1 hid ▸ List.mem_map_of_mem hz)

section Cons

variable {patch zones : List ZoneTargets} {zone : ZoneTargets}

/-- An entry with a later one of its id stays. -/
theorem overlay_cons_shadowed (h : zone.zoneId ∈ zones.map (·.zoneId)) :
    overlay patch (zone :: zones) = zone :: overlay patch zones ∧
      untouched patch (zone :: zones) = zone :: untouched patch zones := by
  have hpos : ¬ position zones zone.zoneId = none := fun heq => position_eq_none.1 heq h
  rw [overlay, if_neg hpos, untouched, if_neg fun hboth => hpos hboth.1]
  exact ⟨rfl, rfl⟩

/-- The last entry of an id that the patch names is replaced. -/
theorem overlay_cons_named (hd : DistinctZones patch) (h : zone.zoneId ∉ zones.map (·.zoneId))
    {y : ZoneTargets} (hy : y ∈ patch) (hid : y.zoneId = zone.zoneId) :
    overlay patch (zone :: zones) = y :: overlay patch zones ∧
      untouched patch (zone :: zones) = untouched patch zones := by
  have hpos := position_eq_none.2 h
  have hfind : patch.find? (·.zoneId == zone.zoneId) = some y := by
    rw [← hid]
    exact find_zone hd hy
  have hin : zone.zoneId ∈ patch.map (·.zoneId) := hid ▸ List.mem_map_of_mem hy
  rw [overlay, if_pos hpos, hfind, untouched, if_pos ⟨hpos, hin⟩]
  exact ⟨rfl, rfl⟩

/-- The last entry of an id that the patch does not name stays. -/
theorem overlay_cons_kept (h : zone.zoneId ∉ zones.map (·.zoneId))
    (hin : zone.zoneId ∉ patch.map (·.zoneId)) :
    overlay patch (zone :: zones) = zone :: overlay patch zones ∧
      untouched patch (zone :: zones) = zone :: untouched patch zones := by
  rw [overlay, if_pos (position_eq_none.2 h), find_zone_eq_none hin, untouched,
    if_neg fun hboth => hin hboth.2]
  exact ⟨rfl, rfl⟩

end Cons

/-- The zones of an overlay are the patched ones that the bundle has and those left alone. -/
theorem forall_overlay_named {patch : List ZoneTargets} (hd : DistinctZones patch)
    {P : ZoneTargets → Prop} (base : List ZoneTargets) :
    (∀ z ∈ overlay patch base, P z) ↔
      (∀ z ∈ patch, z.zoneId ∈ base.map (·.zoneId) → P z) ∧ ∀ z ∈ untouched patch base, P z := by
  induction base with
  | nil => simp [overlay, untouched]
  | cons zone zones ih =>
    simp only [List.map_cons, List.mem_cons]
    by_cases hlast : zone.zoneId ∈ zones.map (·.zoneId)
    · have hids : ∀ id, id = zone.zoneId ∨ id ∈ zones.map (·.zoneId) ↔
          id ∈ zones.map (·.zoneId) := fun id => or_iff_right_of_imp fun heq => heq ▸ hlast
      obtain ⟨hoverlay, huntouched⟩ := @overlay_cons_shadowed patch zones zone hlast
      simp only [hids]
      rw [hoverlay, huntouched, List.forall_mem_cons, List.forall_mem_cons, ih]
      exact and_left_comm
    · by_cases hin : zone.zoneId ∈ patch.map (·.zoneId)
      · obtain ⟨y, hy, hid⟩ := List.mem_map.1 hin
        obtain ⟨hoverlay, huntouched⟩ := overlay_cons_named hd hlast hy hid
        rw [hoverlay, huntouched, List.forall_mem_cons, ih, ← and_assoc]
        refine and_congr_left fun _ => ?_
        constructor
        · intro hall z hz hzid
          rcases hzid with heq | hrest
          · rw [List.inj_on_of_nodup_map hd hz hy (heq.trans hid.symm)]
            exact hall.1
          · exact hall.2 z hz hrest
        · intro hall
          exact ⟨hall y hy (Or.inl hid), fun z hz hrest => hall z hz (Or.inr hrest)⟩
      · have hids : ∀ z ∈ patch, (z.zoneId = zone.zoneId ∨ z.zoneId ∈ zones.map (·.zoneId) ↔
            z.zoneId ∈ zones.map (·.zoneId)) := by
          intro z hz
          exact or_iff_right fun heq => hin (heq ▸ List.mem_map_of_mem hz)
        obtain ⟨hoverlay, huntouched⟩ := overlay_cons_kept hlast hin
        rw [hoverlay, huntouched, List.forall_mem_cons, List.forall_mem_cons, ih,
          forall₂_congr fun z hz => imp_congr_left (hids z hz)]
        exact and_left_comm

/-- **The zones of a merged bundle** are the patched ones and those left alone. -/
theorem forall_overlay {patch base : List ZoneTargets} (hd : DistinctZones patch)
    (hknown : ∀ z ∈ patch, position base z.zoneId ≠ none) {P : ZoneTargets → Prop} :
    (∀ z ∈ overlay patch base, P z) ↔ (∀ z ∈ patch, P z) ∧ ∀ z ∈ untouched patch base, P z := by
  rw [forall_overlay_named hd]
  refine and_congr_left fun _ => forall₂_congr fun z hz => ?_
  have hmem : z.zoneId ∈ base.map (·.zoneId) := by
    by_contra hnone
    exact hknown z hz (position_eq_none.2 hnone)
  exact ⟨fun h => h hmem, fun h _ => h⟩

theorem mem_of_mem_untouched {patch base : List ZoneTargets} {z : ZoneTargets}
    (h : z ∈ untouched patch base) : z ∈ base := by
  induction base with
  | nil => cases h
  | cons zone zones ih =>
    unfold untouched at h
    split at h
    · exact List.mem_cons_of_mem _ (ih h)
    · rcases List.mem_cons.1 h with rfl | h
      · exact List.mem_cons_self
      · exact List.mem_cons_of_mem _ (ih h)

/-- **Which edits are merged**, of those that give every zone in full, and what comes out. -/
theorem applyPatch_iff {base s : Setpoints} {patch : GlobalPatch}
    {zones : Option (List ZoneTargets)} :
    applyPatch base ⟨patch, zones.map (·.map (·.toDTO))⟩ = .ok s ↔
      (∀ z ∈ zones.getD [], position base.zones z.zoneId ≠ none) ∧
      DistinctZones (zones.getD []) ∧
      s = { patch.applyTo base.toGlobalSetpoints with
            zones := overlay (zones.getD []) base.zones } := by
  cases zones with
  | none => simp [applyPatch, DistinctZones, eq_comm]
  | some zones =>
    simp only [applyPatch, Option.map_some, Option.getD_some]
    cases h : mergeZonePatch base.zones (zones.map (·.toDTO)) with
    | error e =>
      simp only [reduceCtorEq, false_iff]
      rintro ⟨hknown, hd, -⟩
      rw [mergeZonePatch_iff.2 ⟨hknown, hd, rfl⟩] at h
      cases h
    | ok merged =>
      obtain ⟨hknown, hd, rfl⟩ := mergeZonePatch_iff.1 h
      simp only [Except.ok.injEq, eq_comm (b := s)]
      exact ⟨fun hs => ⟨hknown, hd, hs⟩, fun hs => hs.2.2⟩

/-! ## The handler -/

inductive ReplyBody where
  | error (text : String)
  | validation (text : String) (violation : ValError)
  | controller (body : Option Body)
  | setpoints (setpoints : Option Setpoints)
  deriving DecidableEq

structure Reply where
  status : Nat
  body : ReplyBody
  deriving DecidableEq

def respondValidation (e : ValError) : Reply :=
  ⟨422, .validation (e.field ++ " violates " ++ e.bound) e⟩

def respondNotFound (text : String) : Reply := ⟨404, .error text⟩

def respondError (status : Nat) (text : String) : Reply := ⟨status, .error text⟩

/-- An error of the store. -/
def fail : Reply := respondError 500 "internal error"

/-- The envelope of the greenhouse's active stage, if it has one. -/
def resolveStageBounds : Program (Except String (Option StageBounds)) := do
  match ← call Op.getAssignment with
  | .error e => return .error e
  | .ok none => return .ok none
  | .ok (some assignment) =>
    match ← call (Op.getProfile assignment.profileId) with
    | .error e => return .error e
    | .ok none => return .ok none
    | .ok (some profile) => return .ok ((profile.stage? assignment.stage).bind (·.bounds))

/-- Only optimizer writes are held to the envelope. -/
def gateBounds (source : SetpointSource) : Program (Except String (Option StageBounds)) :=
  if source = .optimizer then resolveStageBounds else return .ok none

/-- The reply to an outcome of the reconciler. -/
def replyTo (successStatus : Nat) : Except Failure ApplyOutcome → Reply
  | .error .unknownGreenhouse => respondNotFound "greenhouse not found"
  | .error (.other _) => fail
  | .ok outcome =>
    if outcome.controllerStatus ≠ 0 ∧ !outcome.delivered ∧ !outcome.deferred then
      ⟨outcome.controllerStatus, .controller outcome.controllerBody⟩
    else ⟨successStatus, .setpoints outcome.setpoints⟩

/-- The handler of a partial edit. -/
def applySetpointWrite (source : SetpointSource) (actor description : String)
    (successStatus : Nat) (optimizerRunId : Option String) (patch : SetpointsPatchDTO) :
    Program Reply := do
  match ← call Op.greenhouseExists with
  | .error _ => return fail
  | .ok false => return respondNotFound "greenhouse not found"
  | .ok true =>
    if patchIsEmpty patch then
      return respondValidation ⟨"(body)", "at least one setpoint field", .nothing⟩
    match validateSetpointsPatch patch with
    | some e => return respondValidation e
    | none =>
      match ← Reconciler.baseline with
      | .error .unknownGreenhouse => return respondNotFound "greenhouse not found"
      | .error (.other _) => return respondError 503 "controller unreachable"
      | .ok base =>
        match applyPatch base patch with
        | .error e => return respondValidation e
        | .ok candidate =>
          match validateSetpoints candidate with
          | some e => return respondValidation e
          | none =>
            match ← gateBounds source with
            | .error _ => return fail
            | .ok bounds =>
              match bounds.bind (validateSetpointsWithinBounds candidate) with
              | some e => return respondValidation e
              | none =>
                return replyTo successStatus (← Reconciler.apply {
                  source := source
                  actor := actor
                  reason := description
                  setpoints := candidate
                  optimizerRunId := optimizerRunId })

/-- An operator's edit. -/
def editSetpoints (patch : SetpointsPatchDTO) : Program Reply :=
  applySetpointWrite .operatorEdit "operator" "ad-hoc edit" 200 none patch

/-- The optimizer's write path. -/
def submitSetpoints (actor : String) (optimizerRunId : Option String)
    (patch : SetpointsPatchDTO) : Program Reply :=
  applySetpointWrite .optimizer actor "optimizer setpoint submission" 202 optimizerRunId patch

end Greenhouse.Platform
