import Greenhouse.Platform.Delivery
import Greenhouse.Platform.SetpointWrite
import Greenhouse.Process.Heap

/-!
# What a merge replaces

The merge of a partial edit as a whole. A merged bundle is the baseline with the named targets
and zones replaced, whatever the order of the zone entries; edits that name nothing in common
can be merged in either order. The zones live in the backing array of a slice: the merge copies
the baseline's array and writes to the copy.

* `applyPatch_eq_ok`: which edits are merged onto a bundle with distinct zones.
* `applyPatchIn_spec`: the merge on slices is the merge of their contents, and keeps every array.
* `merge_exact`: what a merge replaces, when edits commute, and which edits are rejected.
-/

namespace Greenhouse.Platform

open Greenhouse.Process

/-! ## Targets by name -/

/-- The name of a global target. -/
inductive GlobalField where
  | temperatureDayC
  | temperatureNightC
  | dayStart
  | dayEnd
  | humidityLowPct
  | humidityHighPct
  | humidityDeadbandPct
  | co2TargetPpm
  | co2VentInterlockThresholdPct
  | vpdTargetKpa
  | dliTargetMol
  deriving DecidableEq

namespace GlobalField

def Value : GlobalField → Type
  | dayStart | dayEnd => String
  | co2TargetPpm => Int
  | _ => ℚ

/-- The target of a bundle. -/
def target : (field : GlobalField) → GlobalSetpoints → field.Value
  | temperatureDayC, s => s.temperatureDayC
  | temperatureNightC, s => s.temperatureNightC
  | dayStart, s => s.dayStart
  | dayEnd, s => s.dayEnd
  | humidityLowPct, s => s.humidityLowPct
  | humidityHighPct, s => s.humidityHighPct
  | humidityDeadbandPct, s => s.humidityDeadbandPct
  | co2TargetPpm, s => s.co2TargetPpm
  | co2VentInterlockThresholdPct, s => s.co2VentInterlockThresholdPct
  | vpdTargetKpa, s => s.vpdTargetKpa
  | dliTargetMol, s => s.dliTargetMol

/-- The target an edit gives, if it names the field. -/
def named : (field : GlobalField) → GlobalPatch → Option field.Value
  | temperatureDayC, p => p.temperatureDayC
  | temperatureNightC, p => p.temperatureNightC
  | dayStart, p => p.dayStart
  | dayEnd, p => p.dayEnd
  | humidityLowPct, p => p.humidityLowPct
  | humidityHighPct, p => p.humidityHighPct
  | humidityDeadbandPct, p => p.humidityDeadbandPct
  | co2TargetPpm, p => p.co2TargetPpm
  | co2VentInterlockThresholdPct, p => p.co2VentInterlockThresholdPct
  | vpdTargetKpa, p => p.vpdTargetKpa
  | dliTargetMol, p => p.dliTargetMol

theorem target_applyTo (field : GlobalField) (patch : GlobalPatch) (base : GlobalSetpoints) :
    field.target (patch.applyTo base) = (field.named patch).getD (field.target base) := by
  cases field <;> rfl

/-- A bundle is its targets. -/
theorem ext {a b : GlobalSetpoints} (h : ∀ field : GlobalField, field.target a = field.target b) :
    a = b := by
  obtain ⟨⟩ := a
  obtain ⟨⟩ := b
  simp only [GlobalSetpoints.mk.injEq]
  exact ⟨h temperatureDayC, h temperatureNightC, h dayStart, h dayEnd, h humidityLowPct,
    h humidityHighPct, h humidityDeadbandPct, h co2TargetPpm, h co2VentInterlockThresholdPct,
    h vpdTargetKpa, h dliTargetMol⟩

end GlobalField

/-- No global target is named by both edits. -/
def GlobalPatch.Apart (p q : GlobalPatch) : Prop :=
  ∀ field : GlobalField, field.named p = none ∨ field.named q = none

theorem GlobalPatch.Apart.symm {p q : GlobalPatch} (h : p.Apart q) : q.Apart p :=
  fun field => (h field).symm

theorem GlobalPatch.Apart.applyTo_comm {p q : GlobalPatch} (h : p.Apart q)
    (base : GlobalSetpoints) : q.applyTo (p.applyTo base) = p.applyTo (q.applyTo base) := by
  refine GlobalField.ext fun field => ?_
  simp only [GlobalField.target_applyTo]
  rcases h field with hnone | hnone
  · rw [hnone, Option.getD_none, Option.getD_none]
  · rw [hnone, Option.getD_none, Option.getD_none]

/-! ## Entries of a zone patch -/

namespace ZoneTargetsDTO

/-- A required field is missing. -/
def Incomplete (dto : ZoneTargetsDTO) : Prop :=
  dto.zoneId = none ∨ dto.moistureLowThreshold = none ∨ dto.moistureHighThreshold = none ∨
    dto.drainPeriodSecs = none ∨ dto.schedule = none

theorem incomplete_or_full (dto : ZoneTargetsDTO) :
    dto.Incomplete ∨ ∃ z : ZoneTargets, dto = z.toDTO := by
  obtain ⟨zoneId, low, high, drain, schedule⟩ := dto
  unfold Incomplete
  cases zoneId with
  | none => exact Or.inl (Or.inl rfl)
  | some zoneId =>
    cases low with
    | none => exact Or.inl (Or.inr (Or.inl rfl))
    | some low =>
      cases high with
      | none => exact Or.inl (Or.inr (Or.inr (Or.inl rfl)))
      | some high =>
        cases drain with
        | none => exact Or.inl (Or.inr (Or.inr (Or.inr (Or.inl rfl))))
        | some drain =>
          cases schedule with
          | none => exact Or.inl (Or.inr (Or.inr (Or.inr (Or.inr rfl))))
          | some schedule => exact Or.inr ⟨⟨zoneId, low, high, drain, schedule⟩, rfl⟩

theorem not_incomplete_toDTO (z : ZoneTargets) : ¬ z.toDTO.Incomplete := by
  simp [Incomplete, ZoneTargets.toDTO]

theorem eq_toDTO_of_zoneFromDTO {field : String} {dto : ZoneTargetsDTO} {z : ZoneTargets}
    (h : zoneFromDTO field dto = .ok z) : dto = z.toDTO := by
  obtain ⟨zoneId, low, high, drain, schedule⟩ := dto
  unfold zoneFromDTO at h
  dsimp only at h
  split at h
  · cases h
  · cases h
  · cases h
  · cases h
  · cases h
  · cases h
    rfl

end ZoneTargetsDTO

/-- Entries without a missing field are zones. -/
theorem exists_zones {dtos : List ZoneTargetsDTO} :
    (∃ zones : List ZoneTargets, dtos = zones.map (·.toDTO)) ↔
      ∀ dto ∈ dtos, ¬ dto.Incomplete := by
  constructor
  · rintro ⟨zones, rfl⟩ dto hdto
    obtain ⟨z, -, rfl⟩ := List.mem_map.1 hdto
    exact ZoneTargetsDTO.not_incomplete_toDTO z
  · intro h
    induction dtos with
    | nil => exact ⟨[], rfl⟩
    | cons dto dtos ih =>
      obtain ⟨hdto, hrest⟩ := List.forall_mem_cons.1 h
      obtain ⟨zones, rfl⟩ := ih hrest
      obtain ⟨z, rfl⟩ := dto.incomplete_or_full.resolve_left hdto
      exact ⟨z :: zones, rfl⟩

theorem complete_of_mergeZonesFrom {base : List ZoneTargets} {dtos : List ZoneTargetsDTO} :
    ∀ {index : Nat} {seen : List String} {merged zones : List ZoneTargets},
      mergeZonesFrom base index seen merged dtos = .ok zones →
        ∀ dto ∈ dtos, ¬ dto.Incomplete := by
  induction dtos with
  | nil => exact fun _ => List.forall_mem_nil _
  | cons dto dtos ih =>
    intro index seen merged zones h
    rw [List.forall_mem_cons]
    unfold mergeZonesFrom at h
    dsimp only at h
    split at h
    · cases h
    · rename_i zone hzone
      split at h
      · cases h
      · split at h
        · cases h
        · obtain rfl := ZoneTargetsDTO.eq_toDTO_of_zoneFromDTO hzone
          exact ⟨ZoneTargetsDTO.not_incomplete_toDTO zone, ih h⟩

/-! ## Merged bundles -/

/-- A bundle's zones with the given ones in their places. -/
def withZones (zones base : List ZoneTargets) : List ZoneTargets :=
  base.map fun z => (zones.find? (·.zoneId == z.zoneId)).getD z

section Zones

variable {zones others base : List ZoneTargets} {z : ZoneTargets}

theorem overlay_eq_withZones (hd : DistinctZones base) :
    overlay zones base = withZones zones base := by
  induction base with
  | nil => rfl
  | cons zone base ih =>
    obtain ⟨hnew, hd⟩ := List.nodup_cons.1 hd
    rw [overlay, if_pos (position_eq_none.2 hnew), ih hd]
    rfl

theorem zoneId_find : ((zones.find? (·.zoneId == z.zoneId)).getD z).zoneId = z.zoneId := by
  cases h : zones.find? (·.zoneId == z.zoneId) with
  | none => rfl
  | some y =>
    have hid : (y.zoneId == z.zoneId) = true :=
      List.find?_some (p := fun y : ZoneTargets => y.zoneId == z.zoneId) h
    exact beq_iff_eq.1 hid

@[simp] theorem map_zoneId_withZones :
    (withZones zones base).map (·.zoneId) = base.map (·.zoneId) := by
  rw [withZones, List.map_map]
  exact List.map_congr_left fun z _ => zoneId_find

/-- The order of the zones that replace others does not matter. -/
theorem withZones_perm (hd : DistinctZones zones) (hp : zones.Perm others) :
    withZones zones base = withZones others base := by
  have hd' : DistinctZones others := (hp.map fun z : ZoneTargets => z.zoneId).nodup_iff.1 hd
  refine List.map_congr_left fun z _ => ?_
  by_cases hnamed : z.zoneId ∈ zones.map (·.zoneId)
  · obtain ⟨y, hy, hid⟩ := List.mem_map.1 hnamed
    rw [← hid, find_zone hd hy, find_zone hd' (hp.mem_iff.1 hy)]
  · rw [find_zone_eq_none hnamed,
      find_zone_eq_none fun h => hnamed ((hp.map fun z : ZoneTargets => z.zoneId).mem_iff.2 h)]

/-- Zones that share no id can be put in place in either order. -/
theorem withZones_comm (h : ∀ z ∈ zones, z.zoneId ∉ others.map (·.zoneId)) :
    withZones others (withZones zones base) = withZones zones (withZones others base) := by
  simp only [withZones, List.map_map]
  refine List.map_congr_left fun z _ => ?_
  simp only [Function.comp_apply, zoneId_find]
  by_cases hnamed : z.zoneId ∈ zones.map (·.zoneId)
  · obtain ⟨y, hy, hid⟩ := List.mem_map.1 hnamed
    have hother : others.find? (·.zoneId == z.zoneId) = none :=
      find_zone_eq_none (hid ▸ h y hy)
    rw [hother, Option.getD_none, Option.getD_none]
  · rw [find_zone_eq_none hnamed, Option.getD_none, Option.getD_none]

end Zones

/-- The zone entries of an edit. -/
def SetpointsPatchDTO.entries (patch : SetpointsPatchDTO) : List ZoneTargetsDTO :=
  patch.zones.getD []

/-- A bundle with targets and zones replaced. -/
def Setpoints.replaced (base : Setpoints) (patch : GlobalPatch) (zones : List ZoneTargets) :
    Setpoints :=
  { patch.applyTo base.toGlobalSetpoints with zones := withZones zones base.zones }

/-- **Which edits are merged** onto a bundle with distinct zones, and what comes out. -/
theorem applyPatch_eq_ok {base s : Setpoints} (hd : DistinctZones base.zones)
    {patch : SetpointsPatchDTO} :
    applyPatch base patch = .ok s ↔
      ∃ zones : List ZoneTargets, patch.entries = zones.map (·.toDTO) ∧
        (∀ z ∈ zones, z.zoneId ∈ base.zones.map (·.zoneId)) ∧ DistinctZones zones ∧
        s = base.replaced patch.toGlobalPatch zones := by
  have hknown : ∀ z : ZoneTargets, position base.zones z.zoneId ≠ none ↔
      z.zoneId ∈ base.zones.map (·.zoneId) := by
    intro z
    rw [ne_eq, position_eq_none, not_not]
  obtain ⟨globals, dtos⟩ := patch
  cases dtos with
  | none =>
    have h := @applyPatch_iff base s globals none
    simp only [Option.map_none, Option.getD_none, overlay_eq_withZones hd] at h
    rw [h]
    constructor
    · rintro ⟨-, hdistinct, rfl⟩
      exact ⟨[], rfl, List.forall_mem_nil _, hdistinct, rfl⟩
    · rintro ⟨zones, hmap, -, hdistinct, rfl⟩
      obtain rfl := List.map_eq_nil_iff.1 hmap.symm
      exact ⟨List.forall_mem_nil _, hdistinct, rfl⟩
  | some dtos =>
    have h := fun zones => @applyPatch_iff base s globals (some zones)
    simp only [Option.map_some, Option.getD_some, hknown, overlay_eq_withZones hd] at h
    constructor
    · intro hok
      have hcomplete : ∀ dto ∈ dtos, ¬ dto.Incomplete := by
        unfold applyPatch mergeZonePatch at hok
        dsimp only at hok
        split at hok
        · cases hok
        · rename_i merged hmerged
          exact complete_of_mergeZonesFrom hmerged
      obtain ⟨zones, rfl⟩ := exists_zones.2 hcomplete
      exact ⟨zones, rfl, (h zones).1 hok⟩
    · rintro ⟨zones, hmap, hrest⟩
      obtain rfl : dtos = zones.map (·.toDTO) := hmap
      exact (h zones).2 hrest

theorem toDTO_injective : Function.Injective ZoneTargets.toDTO := by
  rintro ⟨⟩ ⟨⟩ h
  cases h
  rfl

theorem map_zoneId_toDTO (zones : List ZoneTargets) :
    (zones.map (·.toDTO)).map (·.zoneId) = (zones.map (·.zoneId)).map some := by
  rw [List.map_map, List.map_map]
  rfl

/-- What a merge replaces: the targets and the zones that the edit names, and no others. -/
structure Merged (base : Setpoints) (patch : SetpointsPatchDTO) (s : Setpoints) : Prop where
  targets : ∀ field : GlobalField, field.target s.toGlobalSetpoints =
    (field.named patch.toGlobalPatch).getD (field.target base.toGlobalSetpoints)
  ids : s.zones.map (·.zoneId) = base.zones.map (·.zoneId)
  named : ∀ dto ∈ patch.entries, ∃ z ∈ s.zones, dto = z.toDTO
  kept : ∀ z ∈ base.zones, (∀ dto ∈ patch.entries, dto.zoneId ≠ some z.zoneId) → z ∈ s.zones

/-- No target and no zone is named by both edits. -/
def SetpointsPatchDTO.Apart (p q : SetpointsPatchDTO) : Prop :=
  p.toGlobalPatch.Apart q.toGlobalPatch ∧
    ∀ a ∈ p.entries, ∀ b ∈ q.entries, ∀ zoneId, a.zoneId = some zoneId → b.zoneId ≠ some zoneId

theorem SetpointsPatchDTO.Apart.symm {p q : SetpointsPatchDTO} (h : p.Apart q) : q.Apart p :=
  ⟨h.1.symm, fun b hb a ha zoneId hid haid => h.2 a ha b hb zoneId haid hid⟩

/-- Two edits, one after the other. -/
def applyInTurn (base : Setpoints) (p q : SetpointsPatchDTO) : Except ValError Setpoints :=
  applyPatch base p >>= fun s => applyPatch s q

/-- Some entry is incomplete or of an unknown zone, or two are of the same one. -/
def SetpointsPatchDTO.Rejected (base : Setpoints) (patch : SetpointsPatchDTO) : Prop :=
  (∃ dto ∈ patch.entries, dto.Incomplete) ∨
    (∃ dto ∈ patch.entries, ∃ zoneId, dto.zoneId = some zoneId ∧
      zoneId ∉ base.zones.map (·.zoneId)) ∨
    ¬ (patch.entries.map (·.zoneId)).Nodup

section Merge

variable {base s : Setpoints} {patch p q : SetpointsPatchDTO}

theorem applyInTurn_eq_ok : applyInTurn base p q = .ok s ↔
    ∃ m, applyPatch base p = .ok m ∧ applyPatch m q = .ok s := by
  unfold applyInTurn
  cases applyPatch base p with
  | error e =>
    constructor
    · intro h
      cases h
    · rintro ⟨m, hm, -⟩
      cases hm
  | ok m =>
    constructor
    · exact fun h => ⟨m, rfl, h⟩
    · rintro ⟨m', hm, h⟩
      cases hm
      exact h

theorem merged_of_applyPatch (hd : DistinctZones base.zones) (h : applyPatch base patch = .ok s) :
    Merged base patch s := by
  obtain ⟨zones, hentries, hknown, hdistinct, rfl⟩ := (applyPatch_eq_ok hd).1 h
  refine ⟨?_, map_zoneId_withZones, ?_, ?_⟩
  · exact fun field => field.target_applyTo patch.toGlobalPatch base.toGlobalSetpoints
  · intro dto hdto
    rw [hentries] at hdto
    obtain ⟨y, hy, rfl⟩ := List.mem_map.1 hdto
    obtain ⟨z, hz, hid⟩ := List.mem_map.1 (hknown y hy)
    refine ⟨y, List.mem_map.2 ⟨z, hz, ?_⟩, rfl⟩
    rw [hid, find_zone hdistinct hy, Option.getD_some]
  · intro z hz hnot
    refine List.mem_map.2 ⟨z, hz, ?_⟩
    rw [find_zone_eq_none, Option.getD_none]
    intro hin
    obtain ⟨y, hy, hid⟩ := List.mem_map.1 hin
    refine hnot y.toDTO ?_ (congrArg some hid)
    rw [hentries]
    exact List.mem_map_of_mem hy

/-- The zone entries can come in any order. -/
theorem applyPatch_perm (hd : DistinctZones base.zones) (h : applyPatch base patch = .ok s)
    {dtos : List ZoneTargetsDTO} (hp : dtos.Perm patch.entries) :
    applyPatch base { patch with zones := some dtos } = .ok s := by
  obtain ⟨zones, hentries, hknown, hdistinct, rfl⟩ := (applyPatch_eq_ok hd).1 h
  rw [hentries] at hp
  obtain ⟨others, rfl⟩ := exists_zones.2 fun dto hdto =>
    exists_zones.1 ⟨zones, rfl⟩ dto (hp.mem_iff.1 hdto)
  have hperm : zones.Perm others := ((List.map_perm_map_iff toDTO_injective).1 hp).symm
  refine (applyPatch_eq_ok hd).2 ⟨others, rfl, ?_, ?_, ?_⟩
  · exact fun z hz => hknown z (hperm.mem_iff.2 hz)
  · exact (hperm.map fun z : ZoneTargets => z.zoneId).nodup_iff.1 hdistinct
  · rw [Setpoints.replaced, withZones_perm hdistinct hperm, Setpoints.replaced]

/-- Edits that name nothing in common can be merged the other way round. -/
theorem applyInTurn_swap (hd : DistinctZones base.zones) (hapart : p.Apart q)
    (h : applyInTurn base p q = .ok s) : applyInTurn base q p = .ok s := by
  obtain ⟨m, hm, hs⟩ := applyInTurn_eq_ok.1 h
  obtain ⟨zones, hp, hknown, hdistinct, rfl⟩ := (applyPatch_eq_ok hd).1 hm
  have hd' : DistinctZones (base.replaced p.toGlobalPatch zones).zones := by
    rw [DistinctZones, Setpoints.replaced, map_zoneId_withZones]
    exact hd
  obtain ⟨others, hq, hknown', hdistinct', rfl⟩ := (applyPatch_eq_ok hd').1 hs
  have hids : ∀ z ∈ zones, z.zoneId ∉ others.map (·.zoneId) := by
    intro z hz hin
    obtain ⟨y, hy, hid⟩ := List.mem_map.1 hin
    refine hapart.2 z.toDTO ?_ y.toDTO ?_ z.zoneId rfl (congrArg some hid)
    · exact hp ▸ List.mem_map_of_mem hz
    · exact hq ▸ List.mem_map_of_mem hy
  refine applyInTurn_eq_ok.2 ⟨base.replaced q.toGlobalPatch others, ?_, ?_⟩
  · refine (applyPatch_eq_ok hd).2 ⟨others, hq, fun z hz => ?_, hdistinct', rfl⟩
    rw [← @map_zoneId_withZones zones base.zones]
    exact hknown' z hz
  · refine (applyPatch_eq_ok ?_).2 ⟨zones, hp, fun z hz => ?_, hdistinct, ?_⟩
    · rw [DistinctZones, Setpoints.replaced, map_zoneId_withZones]
      exact hd
    · rw [Setpoints.replaced, map_zoneId_withZones]
      exact hknown z hz
    · rw [Setpoints.replaced, Setpoints.replaced, Setpoints.replaced, Setpoints.replaced,
        hapart.1.applyTo_comm, withZones_comm hids]

/-- **Which edits are rejected.** -/
theorem applyPatch_error_iff (hd : DistinctZones base.zones) :
    (∃ e, applyPatch base patch = .error e) ↔ patch.Rejected base := by
  have hok : (∃ s, applyPatch base patch = .ok s) ↔ ¬ patch.Rejected base := by
    constructor
    · rintro ⟨s, hs⟩ hrejected
      obtain ⟨zones, hentries, hknown, hdistinct, -⟩ := (applyPatch_eq_ok hd).1 hs
      rcases hrejected with ⟨dto, hdto, hincomplete⟩ | ⟨dto, hdto, zoneId, hid, hunknown⟩ | hdup
      · exact exists_zones.1 ⟨zones, hentries⟩ dto hdto hincomplete
      · rw [hentries] at hdto
        obtain ⟨z, hz, rfl⟩ := List.mem_map.1 hdto
        cases hid
        exact hunknown (hknown z hz)
      · refine hdup ?_
        rw [hentries, map_zoneId_toDTO]
        exact (List.nodup_map_iff (Option.some_injective String)).2 hdistinct
    · intro hnot
      obtain ⟨hcomplete, hrest⟩ := not_or.1 hnot
      obtain ⟨hknown, hdistinct⟩ := not_or.1 hrest
      obtain ⟨zones, hentries⟩ := exists_zones.2 fun dto hdto hincomplete =>
        hcomplete ⟨dto, hdto, hincomplete⟩
      refine ⟨_, (applyPatch_eq_ok hd).2 ⟨zones, hentries, ?_, ?_, rfl⟩⟩
      · intro z hz
        by_contra hunknown
        refine hknown ⟨z.toDTO, ?_, z.zoneId, rfl, hunknown⟩
        exact hentries ▸ List.mem_map_of_mem hz
      · have hnodup := not_not.1 hdistinct
        rw [hentries, map_zoneId_toDTO] at hnodup
        exact List.Nodup.of_map some hnodup
  cases h : applyPatch base patch with
  | error e =>
    rw [h] at hok
    refine ⟨fun _ => ?_, fun _ => ⟨e, rfl⟩⟩
    by_contra hnot
    obtain ⟨s, hs⟩ := hok.2 hnot
    cases hs
  | ok s =>
    rw [h] at hok
    constructor
    · rintro ⟨e, he⟩
      cases he
    · exact fun hrejected => absurd hrejected (hok.1 ⟨s, rfl⟩)

end Merge

/-! ## Slices -/

/-- The backing arrays of zone slices. -/
abbrev Arrays := Heap (List ZoneTargets)

/-- A bundle whose zones are a slice. -/
structure SetpointsRef extends GlobalSetpoints where
  zones : Addr

/-- The bundle a reference stands for. -/
def SetpointsRef.read (h : Arrays) (r : SetpointsRef) : Option Setpoints :=
  (h.get? r.zones).map fun zones => { r.toGlobalSetpoints with zones }

/-- The loop over the entries, which writes to the array of the merged slice. -/
def mergeLoop (base : List ZoneTargets) (merged : Addr) :
    Nat → List String → Arrays → List ZoneTargetsDTO → Arrays × Option ValError
  | _, _, h, [] => (h, none)
  | index, seen, h, dto :: dtos =>
    let field := "zones[" ++ toString index ++ "]"
    match zoneFromDTO field dto with
    | .error e => (h, some e)
    | .ok zone =>
      match position base zone.zoneId with
      | none => (h, some ⟨field ++ ".zone_id", "unknown zone", .text zone.zoneId⟩)
      | some pos =>
        if zone.zoneId ∈ seen then
          (h, some ⟨field ++ ".zone_id", "duplicate", .text zone.zoneId⟩)
        else
          mergeLoop base merged (index + 1) (zone.zoneId :: seen)
            (h.set merged (((h.get? merged).getD []).set pos zone)) dtos

def mergeZonePatchIn (h : Arrays) (base : Addr) (patch : List ZoneTargetsDTO) :
    Arrays × Except ValError Addr :=
  let zones := (h.get? base).getD []
  -- `make` and `copy`: the merged slice has an array of its own
  let merged := h.size
  match mergeLoop zones merged 0 [] (h.alloc zones) patch with
  | (h, some e) => (h, .error e)
  | (h, none) => (h, .ok merged)

def applyPatchIn (h : Arrays) (base : SetpointsRef) (patch : SetpointsPatchDTO) :
    Arrays × Except ValError SetpointsRef :=
  let globals := patch.toGlobalPatch.applyTo base.toGlobalSetpoints
  match patch.zones with
  | none => (h, .ok { globals with zones := base.zones })
  | some dtos =>
    match mergeZonePatchIn h base.zones dtos with
    | (h, .error e) => (h, .error e)
    | (h, .ok zones) => (h, .ok { globals with zones })

/-- The loop writes to the merged array only, and leaves in it what the merge gives. -/
theorem mergeLoop_spec {base : List ZoneTargets} {merged : Addr} {dtos : List ZoneTargetsDTO} :
    ∀ {index : Nat} {seen : List String} {h h' : Arrays} {zones : List ZoneTargets}
      {error : Option ValError}, h.get? merged = some zones →
        mergeLoop base merged index seen h dtos = (h', error) →
        Heap.Keeps merged h h' ∧
          (∀ e, error = some e → mergeZonesFrom base index seen zones dtos = .error e) ∧
          (error = none → ∃ out, h'.get? merged = some out ∧
            mergeZonesFrom base index seen zones dtos = .ok out) := by
  induction dtos with
  | nil =>
    intro index seen h h' zones error hzones hloop
    cases hloop
    exact ⟨Heap.Keeps.refl _ _, by simp, fun _ => ⟨zones, hzones, rfl⟩⟩
  | cons dto dtos ih =>
    intro index seen h h' zones error hzones hloop
    unfold mergeLoop at hloop
    unfold mergeZonesFrom
    dsimp only at hloop ⊢
    -- the exits of one turn: a bad delta, an unknown zone, a zone named twice, the next turn
    cases hzone : zoneFromDTO ("zones[" ++ toString index ++ "]") dto with
    | error e =>
      rw [hzone] at hloop
      cases hloop
      exact ⟨Heap.Keeps.refl _ _, by rintro e' ⟨rfl⟩; rfl, by simp⟩
    | ok zone =>
      rw [hzone] at hloop
      dsimp only at hloop ⊢
      cases hpos : position base zone.zoneId with
      | none =>
        rw [hpos] at hloop
        cases hloop
        exact ⟨Heap.Keeps.refl _ _, by rintro e' ⟨rfl⟩; rfl, by simp⟩
      | some pos =>
        rw [hpos] at hloop
        dsimp only at hloop ⊢
        by_cases hseen : zone.zoneId ∈ seen
        · rw [if_pos hseen] at hloop ⊢
          cases hloop
          exact ⟨Heap.Keeps.refl _ _, by rintro e' ⟨rfl⟩; rfl, by simp⟩
        · rw [if_neg hseen] at hloop ⊢
          rw [hzones, Option.getD_some] at hloop
          obtain ⟨hkeeps, hrest⟩ := ih (Heap.get?_set_self (Heap.lt_size hzones)) hloop
          exact ⟨((Heap.Keeps.refl _ _).set le_rfl _).trans hkeeps, hrest⟩

/-- **The merge on slices** is the merge of their contents, and keeps every array that was there. -/
theorem applyPatchIn_spec {h h' : Arrays} {base : SetpointsRef} {b : Setpoints}
    {patch : SetpointsPatchDTO} {result : Except ValError SetpointsRef}
    (hread : base.read h = some b) (happly : applyPatchIn h base patch = (h', result)) :
    Heap.Keeps h.size h h' ∧ result.map (·.read h') = (applyPatch b patch).map some := by
  obtain ⟨zones, hzones, rfl⟩ := Option.map_eq_some_iff.1 hread
  unfold applyPatchIn at happly
  unfold applyPatch
  dsimp only at happly ⊢
  cases hpatch : patch.zones with
  | none =>
    rw [hpatch] at happly
    cases happly
    refine ⟨Heap.Keeps.refl _ _, congrArg Except.ok ?_⟩
    exact congrArg (Option.map _) hzones
  | some dtos =>
    rw [hpatch] at happly
    dsimp only at happly ⊢
    unfold mergeZonePatchIn at happly
    rw [hzones, Option.getD_some] at happly
    dsimp only at happly
    cases hloop : mergeLoop zones h.size 0 [] (h.alloc zones) dtos with
    | mk arrays error =>
      rw [hloop] at happly
      obtain ⟨hkeeps, herror, hmerged⟩ := mergeLoop_spec Heap.get?_alloc_self hloop
      have hall : Heap.Keeps h.size h arrays :=
        ((Heap.Keeps.refl _ _).alloc le_rfl _).trans hkeeps
      cases error with
      | some e =>
        cases happly
        refine ⟨hall, ?_⟩
        rw [mergeZonePatch, herror e rfl]
        rfl
      | none =>
        cases happly
        obtain ⟨out, hout, hmerge⟩ := hmerged rfl
        refine ⟨hall, ?_⟩
        rw [mergeZonePatch, hmerge]
        exact congrArg Except.ok (congrArg (Option.map _) hout)

/-! ## The merge as a whole -/

/-- **The merge is exact**: it replaces what the edit names and nothing else, in any order of the
zone entries; edits that name nothing in common commute; it fails exactly when an entry is
incomplete, unknown or repeated; and the baseline stays as it was. -/
theorem merge_exact {base : Setpoints} (hd : DistinctZones base.zones)
    (patch : SetpointsPatchDTO) :
    (∀ s, applyPatch base patch = .ok s → Merged base patch s ∧
      ∀ dtos : List ZoneTargetsDTO, dtos.Perm patch.entries →
        applyPatch base { patch with zones := some dtos } = .ok s) ∧
    (∀ other : SetpointsPatchDTO, patch.Apart other → ∀ s,
      applyInTurn base patch other = .ok s ↔ applyInTurn base other patch = .ok s) ∧
    ((∃ e, applyPatch base patch = .error e) ↔ patch.Rejected base) ∧
    ∀ (h h' : Arrays) (r : SetpointsRef) (result : Except ValError SetpointsRef),
      r.read h = some base → applyPatchIn h r patch = (h', result) →
      Heap.Keeps h.size h h' ∧ r.read h' = some base ∧
        result.map (·.read h') = (applyPatch base patch).map some := by
  refine ⟨fun s hs => ⟨merged_of_applyPatch hd hs, fun dtos => applyPatch_perm hd hs⟩, ?_,
    applyPatch_error_iff hd, ?_⟩
  · intro other hapart s
    exact ⟨applyInTurn_swap hd hapart, applyInTurn_swap hd hapart.symm⟩
  · intro h h' r result hread happly
    obtain ⟨hkeeps, hresult⟩ := applyPatchIn_spec hread happly
    refine ⟨hkeeps, ?_, hresult⟩
    obtain ⟨zones, hzones, rfl⟩ := Option.map_eq_some_iff.1 hread
    rw [SetpointsRef.read, hkeeps _ (Heap.lt_size hzones), hzones, Option.map_some]

/-- An edit of the day's temperature and of the bench. -/
def benchPatch : SetpointsPatchDTO where
  temperatureDayC := some 26
  zones := some [(⟨"bench-a", 2 / 10, 5 / 10, 300, "07:00"⟩ : ZoneTargets).toDTO]

/-- What the edit makes of a house with one bench. -/
theorem merge_exact_bench : Merged benchBundle benchPatch (benchBundle.replaced
    benchPatch.toGlobalPatch [⟨"bench-a", 2 / 10, 5 / 10, 300, "07:00"⟩]) :=
  ((merge_exact (by decide) benchPatch).1 _ (by decide +kernel)).1

end Greenhouse.Platform
