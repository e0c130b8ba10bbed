import Mathlib.Data.List.Nodup
import Mathlib.Data.Rat.Floor

/-!
# Domain types of the platform

The setpoint bundle, the comparison of an intended bundle with a reported one, the crop
profiles and the revisions of the intended-state ledger. The platform reads its floats from
JSON, so they are finite: a rational number here.

* `lastZone_of_mem`: with distinct zone ids, the zone map of a bundle holds its zones.
* `Setpoints.consistent_of_distinct`: a bundle with distinct zone ids is reconciled with itself.
-/

namespace Greenhouse.Platform

/-- Tolerance for comparing the floats of two bundles. -/
def setpointEpsilon : ℚ := 1 / 1000000

/-- The targets of one irrigation zone. -/
structure ZoneTargets where
  zoneId : String
  moistureLowThreshold : ℚ
  moistureHighThreshold : ℚ
  drainPeriodSecs : Int
  schedule : String
  deriving DecidableEq

/-- The global climate setpoints: a bundle without its zones. -/
structure GlobalSetpoints where
  temperatureDayC : ℚ
  temperatureNightC : ℚ
  dayStart : String
  dayEnd : String
  humidityLowPct : ℚ
  humidityHighPct : ℚ
  humidityDeadbandPct : ℚ
  co2TargetPpm : Int
  co2VentInterlockThresholdPct : ℚ
  vpdTargetKpa : ℚ
  dliTargetMol : ℚ
  deriving DecidableEq

/-- A greenhouse's full target bundle. -/
structure Setpoints extends GlobalSetpoints where
  zones : List ZoneTargets
  deriving DecidableEq

/-! ## Comparison -/

def floatsEqual (a b : ℚ) : Bool :=
  let diff := a - b
  let diff := if diff < 0 then -diff else diff
  diff ≤ setpointEpsilon

@[simp] theorem floatsEqual_self (a : ℚ) : floatsEqual a a = true := by
  simp [floatsEqual, setpointEpsilon]

def ZoneTargets.equal (z other : ZoneTargets) : Bool :=
  z.zoneId == other.zoneId && z.schedule == other.schedule
  && z.drainPeriodSecs == other.drainPeriodSecs
  && floatsEqual z.moistureLowThreshold other.moistureLowThreshold
  && floatsEqual z.moistureHighThreshold other.moistureHighThreshold

@[simp] theorem ZoneTargets.equal_self (z : ZoneTargets) : z.equal z = true := by
  simp [ZoneTargets.equal]

def GlobalSetpoints.globalEqual (s other : GlobalSetpoints) : Bool :=
  s.dayStart == other.dayStart && s.dayEnd == other.dayEnd && s.co2TargetPpm == other.co2TargetPpm
  && floatsEqual s.temperatureDayC other.temperatureDayC
  && floatsEqual s.temperatureNightC other.temperatureNightC
  && floatsEqual s.humidityLowPct other.humidityLowPct
  && floatsEqual s.humidityHighPct other.humidityHighPct
  && floatsEqual s.humidityDeadbandPct other.humidityDeadbandPct
  && floatsEqual s.co2VentInterlockThresholdPct other.co2VentInterlockThresholdPct
  && floatsEqual s.vpdTargetKpa other.vpdTargetKpa
  && floatsEqual s.dliTargetMol other.dliTargetMol

@[simp] theorem GlobalSetpoints.globalEqual_self (s : GlobalSetpoints) :
    s.globalEqual s = true := by
  simp [GlobalSetpoints.globalEqual]

/-- The entry of a zone in the map built from a list: a later zone replaces an earlier one. -/
def lastZone (zones : List ZoneTargets) (zoneId : String) : Option ZoneTargets :=
  zones.reverse.find? (·.zoneId == zoneId)

/-- Every zone has an equal counterpart among the others. -/
def zonesCoveredBy (zones others : List ZoneTargets) : Bool :=
  zones.all fun zone =>
    match lastZone others zone.zoneId with
    | some other => zone.equal other
    | none => false

/-- The reported setpoints satisfy the intended bundle `s`; zones it does not govern are
ignored. -/
def Setpoints.reconciled (s reported : Setpoints) : Bool :=
  s.globalEqual reported.toGlobalSetpoints && zonesCoveredBy s.zones reported.zones

/-- The zone ids of a bundle are distinct. -/
def DistinctZones (zones : List ZoneTargets) : Prop := (zones.map (·.zoneId)).Nodup

instance (zones : List ZoneTargets) : Decidable (DistinctZones zones) :=
  inferInstanceAs (Decidable (List.Nodup _))

theorem lastZone_zoneId {zones : List ZoneTargets} {zoneId : String} {z : ZoneTargets}
    (h : lastZone zones zoneId = some z) : z ∈ zones ∧ z.zoneId = zoneId := by
  have hid : (z.zoneId == zoneId) = true :=
    List.find?_some (p := fun z : ZoneTargets => z.zoneId == zoneId) h
  exact ⟨List.mem_reverse.1 (List.mem_of_find?_eq_some h), beq_iff_eq.1 hid⟩

/-- With distinct ids the map holds every zone of the list. -/
theorem lastZone_of_mem {zones : List ZoneTargets} (hd : DistinctZones zones) {z : ZoneTargets}
    (hz : z ∈ zones) : lastZone zones z.zoneId = some z := by
  cases h : lastZone zones z.zoneId with
  | none =>
    have hne := List.find?_eq_none.1 h z (List.mem_reverse.2 hz)
    simp at hne
  | some y =>
    obtain ⟨hy, hid⟩ := lastZone_zoneId h
    rw [List.inj_on_of_nodup_map hd hy hz hid]

theorem lastZone_append (zones : List ZoneTargets) (z : ZoneTargets) (zoneId : String) :
    lastZone (zones ++ [z]) zoneId =
      if z.zoneId = zoneId then some z else lastZone zones zoneId := by
  simp only [lastZone, List.reverse_append, List.reverse_singleton, List.singleton_append,
    List.find?_cons]
  by_cases h : z.zoneId = zoneId
  · simp [h]
  · rw [if_neg h, beq_false_of_ne h]

theorem zonesCoveredBy_iff {zones others : List ZoneTargets} :
    zonesCoveredBy zones others = true ↔
      ∀ z ∈ zones, ∃ other, lastZone others z.zoneId = some other ∧ z.equal other = true := by
  simp only [zonesCoveredBy, List.all_eq_true]
  refine forall₂_congr fun z _ => ?_
  cases lastZone others z.zoneId <;> simp

/-- Zones of the bundle with the same id agree: a controller can satisfy it. -/
def Setpoints.Consistent (s : Setpoints) : Prop := s.reconciled s = true

theorem Setpoints.consistent_of_distinct {s : Setpoints} (h : DistinctZones s.zones) :
    s.Consistent := by
  simp only [Consistent, reconciled, GlobalSetpoints.globalEqual_self, Bool.true_and]
  exact zonesCoveredBy_iff.2 fun z hz => ⟨z, lastZone_of_mem h hz, z.equal_self⟩

/-! ## Crop profiles -/

/-- A crop-safe envelope of one target. -/
structure Bound where
  min : ℚ
  max : ℚ
  deriving DecidableEq

/-- The envelopes of the numeric zone targets, for all zones of a stage. -/
structure ZoneBounds where
  moistureLowThreshold : Option Bound := none
  moistureHighThreshold : Option Bound := none
  drainPeriodSecs : Option Bound := none
  deriving DecidableEq

/-- The crop-safe envelope of a growth stage. -/
structure StageBounds where
  temperatureDayC : Option Bound := none
  temperatureNightC : Option Bound := none
  humidityLowPct : Option Bound := none
  humidityHighPct : Option Bound := none
  humidityDeadbandPct : Option Bound := none
  co2TargetPpm : Option Bound := none
  co2VentInterlockThresholdPct : Option Bound := none
  vpdTargetKpa : Option Bound := none
  dliTargetMol : Option Bound := none
  zones : Option ZoneBounds := none
  deriving DecidableEq

structure ProfileStage where
  stage : String
  targets : Setpoints
  bounds : Option StageBounds := none
  deriving DecidableEq

structure CropProfile where
  id : String
  name : String
  crop : String
  stages : List ProfileStage
  deriving DecidableEq

/-- The named stage of a profile. -/
def CropProfile.stage? (p : CropProfile) (name : String) : Option ProfileStage :=
  p.stages.find? (·.stage == name)

/-- Which profile and stage a greenhouse has. -/
structure Assignment where
  profileId : String
  stage : String
  deriving DecidableEq

/-! ## The ledger -/

/-- Where an intended-state revision comes from. -/
inductive SetpointSource where
  | profile
  | operatorEdit
  | optimizer
  deriving DecidableEq

/-- What is recorded of an intended state. -/
structure Provenance where
  source : SetpointSource
  actor : String
  reason : String
  setpoints : Setpoints
  optimizerRunId : Option String := none
  deriving DecidableEq

/-- One entry of the ledger of a greenhouse. -/
structure SetpointRevision extends Provenance where
  revision : Nat
  deriving DecidableEq

end Greenhouse.Platform
