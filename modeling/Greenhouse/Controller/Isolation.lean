import Greenhouse.Controller.Bench
import Greenhouse.Controller.Session
import Greenhouse.Process.Agreement

/-!
# Independence of the zones

Two pipelines that differ only in what concerns one zone `A`: its soil readings, its
configuration, the override and the readback of its valve. Each stage of a tick keeps the
agreement off `A`, so the runs of the two stay alike for every other zone.

* `Pipeline.Alike.tick`: a tick of the one is matched by a tick of the other.
* `zones_independent`: in two runs side by side every other zone fares the same.
-/

namespace Greenhouse.Controller

open Greenhouse.Numeric Greenhouse.Process Std

/-! ## Commands -/

/-- The commands are the same but for one actuator. -/
def Commands.AgreeOff (k : ActuatorId) (c c' : Commands) : Prop :=
  ∀ id, id ≠ k → c.get id = c'.get id ∧ (id ∈ c.ids ↔ id ∈ c'.ids)

namespace Commands.AgreeOff

variable {k : ActuatorId} {c c' : Commands}

theorem refl (k : ActuatorId) (c : Commands) : c.AgreeOff k c := fun _ _ => ⟨rfl, Iff.rfl⟩

theorem symm (h : c.AgreeOff k c') : c'.AgreeOff k c :=
  fun id hid => ⟨(h id hid).1.symm, (h id hid).2.symm⟩

theorem set (h : c.AgreeOff k c') (i : ActuatorId) (level : F64) :
    (c.set i level).AgreeOff k (c'.set i level) := by
  intro id hid
  rw [get_set, get_set, mem_ids_set, mem_ids_set, (h id hid).1, (h id hid).2]
  exact ⟨rfl, Iff.rfl⟩

theorem set_left (h : c.AgreeOff k c') (level : F64) : (c.set k level).AgreeOff k c' := by
  intro id hid
  rw [get_set_of_ne (Ne.symm hid), mem_ids_set, or_iff_right (Ne.symm hid)]
  exact h id hid

end Commands.AgreeOff

/-- Two sets of actuators are the same but for one. -/
def SameOff (k : ActuatorId) (s s' : TreeSet ActuatorId) : Prop := ∀ id, id ≠ k → (id ∈ s ↔ id ∈ s')

namespace SameOff

variable {k : ActuatorId} {s s' : TreeSet ActuatorId}

theorem symm (h : SameOff k s s') : SameOff k s' s := fun id hid => (h id hid).symm

theorem insert (h : SameOff k s s') (i : ActuatorId) : SameOff k (s.insert i) (s'.insert i) := by
  intro id hid
  rw [TreeSet.mem_insert, TreeSet.mem_insert, h id hid]

theorem insert_left (h : SameOff k s s') : SameOff k (s.insert k) s' := by
  intro id hid
  rw [TreeSet.mem_insert, LawfulEqOrd.compare_eq_iff_eq, or_iff_right (Ne.symm hid)]
  exact h id hid

theorem insert_right (h : SameOff k s s') : SameOff k s (s'.insert k) := h.symm.insert_left.symm

theorem contains (h : SameOff k s s') {id : ActuatorId} (hid : id ≠ k) :
    s.contains id = s'.contains id := by
  rw [Bool.eq_iff_iff, TreeSet.contains_iff_mem, TreeSet.contains_iff_mem]
  exact h id hid

theorem union {t t' : TreeSet ActuatorId} (h : SameOff k s s') (ht : SameOff k t t') :
    SameOff k (s ∪ t) (s' ∪ t') := by
  intro id hid
  rw [TreeSet.mem_union_iff, TreeSet.mem_union_iff, h id hid, ht id hid]

end SameOff

/-- A command on its way through the back half is the same, as far as another actuator goes. -/
structure Forcing.AgreeOff (k : ActuatorId) (f f' : Forcing) : Prop where
  cmd : f.cmd.AgreeOff k f'.cmd
  forced : SameOff k f.forced f'.forced

namespace Forcing.AgreeOff

variable {k : ActuatorId} {f f' : Forcing}

theorem force (h : f.AgreeOff k f') (a : Actuator) (level : F64) :
    (f.force a level).AgreeOff k (f'.force a level) :=
  ⟨h.cmd.set _ _, h.forced.insert _⟩

theorem mem_ids_forceOff_iff {ids : List ActuatorId} {id : ActuatorId} :
    ∀ {f : Forcing}, id ∈ (Controller.forceOff ids f).cmd.ids ↔ id ∈ ids ∨ id ∈ f.cmd.ids := by
  induction ids with
  | nil => simp [Controller.forceOff]
  | cons i ids ih =>
    intro f
    change id ∈ (Controller.forceOff ids _).cmd.ids ↔ _
    rw [ih, Commands.mem_ids_set, List.mem_cons, or_left_comm, or_assoc, eq_comm (a := i)]

theorem forceOff (h : f.AgreeOff k f') {s s' : TreeSet ActuatorId} (hs : SameOff k s s') :
    (Controller.forceOff s.toList f).AgreeOff k (Controller.forceOff s'.toList f') := by
  constructor
  · intro id hid
    simp only [forceOff_get, mem_ids_forceOff_iff, TreeSet.mem_toList, hs id hid,
      (h.cmd id hid).1, (h.cmd id hid).2, and_self]
  · intro id hid
    simp only [mem_forceOff_forced, TreeSet.mem_toList, hs id hid, h.forced id hid]

end Forcing.AgreeOff

/-! ## The stages -/

variable {A : Slug}

/-- Trusted readings that differ at most in the soil moisture of `A`. -/
structure TrustedState.Alike (A : Slug) (t t' : TrustedState) : Prop where
  temperature : t.temperature = t'.temperature
  humidity : t.humidity = t'.humidity
  co2 : t.co2 = t'.co2
  par : t.par = t'.par
  vpd : t.vpd = t'.vpd
  soil : AgreeOff A t.soilMoisture t'.soilMoisture

/-- Raw readings that differ at most in the soil moisture of `A`. -/
structure RawReadings.Alike (A : Slug) (raw raw' : RawReadings) : Prop where
  temperatureProbes : raw.temperatureProbes = raw'.temperatureProbes
  humidityPct : raw.humidityPct = raw'.humidityPct
  co2Ppm : raw.co2Ppm = raw'.co2Ppm
  par : raw.par = raw'.par
  soil : AgreeOff A raw.soilMoisture raw'.soilMoisture

structure SensingState.Alike (A : Slug) (s s' : SensingState) : Prop where
  humidity : s.humidity = s'.humidity
  co2 : s.co2 = s'.co2
  par : s.par = s'.par
  soil : AgreeOff A s.soil s'.soil

/-- The sensor side keeps the agreement. -/
theorem SensingState.Alike.condition [Libm] {s s' : SensingState} {raw raw' : RawReadings}
    (h : s.Alike A s') (hraw : raw.Alike A raw') (cfg : Sensing) :
    (s.condition raw cfg).1.Alike A (s'.condition raw' cfg).1 ∧
      (s.condition raw cfg).2.1.Alike A (s'.condition raw' cfg).2.1 := by
  have hsoil : AgreeOff A
        (raw.soilMoisture.toList.foldl (conditionSoil cfg) ⟨s.soil, ∅, []⟩).trackers
        (raw'.soilMoisture.toList.foldl (conditionSoil cfg) ⟨s'.soil, ∅, []⟩).trackers ∧
      AgreeOff A (raw.soilMoisture.toList.foldl (conditionSoil cfg) ⟨s.soil, ∅, []⟩).trusted
        (raw'.soilMoisture.toList.foldl (conditionSoil cfg) ⟨s'.soil, ∅, []⟩).trusted := by
    refine foldl_toList_agree (R := fun acc acc' : Soil => AgreeOff A acc.trackers acc'.trackers ∧
      AgreeOff A acc.trusted acc'.trusted) ?_ ?_ ?_ hraw.soil ⟨h.soil, AgreeOff.refl A _⟩
    · intro acc acc' v hacc
      exact ⟨hacc.1.insert_left _, hacc.2.insert_left _⟩
    · intro acc acc' v hacc
      exact ⟨hacc.1.insert_right _, hacc.2.insert_right _⟩
    · intro acc acc' i v hi hacc
      have htracker : acc.trackers.getD i {} = acc'.trackers.getD i {} := hacc.1.getD hi {}
      unfold conditionSoil
      dsimp only
      rw [htracker]
      exact ⟨hacc.1.insert _ _, hacc.2.insert _ _⟩
  unfold SensingState.condition
  dsimp only
  rw [hraw.temperatureProbes, hraw.humidityPct, hraw.co2Ppm, hraw.par, h.humidity, h.co2, h.par]
  exact ⟨⟨rfl, rfl, rfl, hsoil.1⟩, ⟨rfl, rfl, rfl, rfl, rfl, hsoil.2⟩⟩

/-! ### The health monitor -/

/-- Readbacks that differ at most in the valve of `A`. -/
structure Commands.Alike (A : Slug) (c c' : Commands) : Prop where
  house : ∀ a : Actuator, c.house[a]? = c'.house[a]?
  valves : Process.AgreeOff A c.valves c'.valves

theorem Commands.Alike.get {c c' : Commands} (h : c.Alike A c') {id : ActuatorId}
    (hid : id ≠ .valve A) : c.get id = c'.get id := by
  cases id with
  | house a =>
    change c.house.getD a 0 = c'.house.getD a 0
    rw [TreeMap.getD_eq_getD_getElem?, TreeMap.getD_eq_getD_getElem?, h.house a]
  | valve z => exact h.valves.getD (fun heq => hid (congrArg _ heq)) 0

/-- Such readbacks list the same actuators but for the valve of `A`. -/
theorem Commands.Alike.ids {c c' : Commands} (h : c.Alike A c') :
    c.ids.filter (fun i => decide (i ≠ .valve A)) =
      c'.ids.filter (fun i => decide (i ≠ .valve A)) := by
  have hhouse : c.house.keys = c'.house.keys :=
    TreeMap.Equiv.keys_eq (TreeMap.Equiv.of_forall_constGet?_eq h.house)
  have hvalves : c.valves.keys.filter (fun z => decide (z ≠ A)) =
      c'.valves.keys.filter (fun z => decide (z ≠ A)) := by
    have hkeys : ∀ m : TreeMap Slug F64, m.keys.filter (fun z => decide (z ≠ A)) =
        (m.toList.filter (fun p => decide (p.1 ≠ A))).map Prod.fst := by
      intro m
      rw [← TreeMap.map_fst_toList_eq_keys, List.filter_map]
      rfl
    rw [hkeys, hkeys, h.valves.toList]
  have hcomp : (fun i => decide (i ≠ ActuatorId.valve A)) ∘ ActuatorId.valve =
      fun z => decide (z ≠ A) := by
    funext z
    simp
  simp only [Commands.ids, List.filter_append, List.filter_map, hcomp, hhouse, hvalves]

structure HealthState.Alike (A : Slug) (s s' : HealthState) : Prop where
  stuckTicks : AgreeOff (.valve A) s.stuckTicks s'.stuckTicks
  valveFlatTicks : AgreeOff A s.valveFlatTicks s'.valveFlatTicks
  valveLastSoil : AgreeOff A s.valveLastSoil s'.valveLastSoil
  houseNoRespTicks : s.houseNoRespTicks = s'.houseNoRespTicks
  houseNoRespBaseline : s.houseNoRespBaseline = s'.houseNoRespBaseline
  disabled : SameOff (.valve A) s.disabled s'.disabled

/-- Baselines that differ at most for the valve of `A`. -/
def SameLevels (A : Slug) (c c' : Commands) : Prop :=
  ∀ id, id ≠ .valve A → c.get id = c'.get id

theorem sameBaseline_symm {c c' : Option Commands} (h : Option.Rel (SameLevels A) c c') :
    Option.Rel (SameLevels A) c' c := by
  cases h with
  | none => exact .none
  | some h => exact .some fun id hid => (h id hid).symm

namespace HealthState

variable {cfg : Sensing} {prev prev' : Commands} {observed observed' : Observed} {m m' : Monitored}

theorem Alike.monitorStuck_left (h : m.state.Alike A m'.state) :
    (monitorStuck cfg prev observed m (.valve A)).state.Alike A m'.state := by
  unfold monitorStuck
  dsimp only
  split
  · exact { h with
      stuckTicks := h.stuckTicks.insert_left _
      disabled := h.disabled.insert_left }
  · exact { h with stuckTicks := h.stuckTicks.insert_left _ }

theorem Alike.symm {s s' : HealthState} (h : s.Alike A s') : s'.Alike A s where
  stuckTicks := h.stuckTicks.symm
  valveFlatTicks := h.valveFlatTicks.symm
  valveLastSoil := h.valveLastSoil.symm
  houseNoRespTicks := h.houseNoRespTicks.symm
  houseNoRespBaseline := h.houseNoRespBaseline.symm
  disabled := h.disabled.symm

theorem Alike.monitorStuck (h : m.state.Alike A m'.state) (hprev : SameLevels A prev prev')
    (hobs : observed.Alike A observed') {id : ActuatorId} (hid : id ≠ .valve A) :
    (HealthState.monitorStuck cfg prev observed m id).state.Alike A
      (HealthState.monitorStuck cfg prev' observed' m' id).state := by
  have hcount : m.state.stuckCount cfg prev observed id =
      m'.state.stuckCount cfg prev' observed' id := by
    have hticks : m.state.stuckTicks.getD id 0 = m'.state.stuckTicks.getD id 0 :=
      h.stuckTicks.getD hid 0
    unfold stuckCount diverged
    rw [hobs.get hid, hprev id hid, hticks]
  unfold HealthState.monitorStuck
  dsimp only
  rw [hcount]
  split
  · exact { h with
      stuckTicks := h.stuckTicks.insert _ _
      disabled := h.disabled.insert _ }
  · exact { h with stuckTicks := h.stuckTicks.insert _ _ }

theorem Alike.monitorValve_left (h : m.state.Alike A m'.state) (soil : Option F64) :
    (monitorValve cfg prev m (A, soil)).state.Alike A m'.state := by
  unfold monitorValve
  cases soil with
  | none => exact { h with valveFlatTicks := h.valveFlatTicks.insert_left _ }
  | some soil =>
    dsimp only
    split
    · exact { h with
        valveFlatTicks := h.valveFlatTicks.insert_left _
        valveLastSoil := h.valveLastSoil.insert_left _
        disabled := h.disabled.insert_left }
    · exact { h with
        valveFlatTicks := h.valveFlatTicks.insert_left _
        valveLastSoil := h.valveLastSoil.insert_left _ }

theorem Alike.monitorValve (h : m.state.Alike A m'.state) (hprev : SameLevels A prev prev')
    {z : Slug} (hz : z ≠ A) (soil : Option F64) :
    (HealthState.monitorValve cfg prev m (z, soil)).state.Alike A
      (HealthState.monitorValve cfg prev' m' (z, soil)).state := by
  unfold HealthState.monitorValve
  cases soil with
  | none => exact { h with valveFlatTicks := h.valveFlatTicks.insert _ _ }
  | some soil =>
    have hcount : m.state.valveFlatCount prev z soil = m'.state.valveFlatCount prev' z soil := by
      have hticks : m.state.valveFlatTicks.getD z 0 = m'.state.valveFlatTicks.getD z 0 :=
        h.valveFlatTicks.getD hz 0
      have hlevel : prev.get (.valve z) = prev'.get (.valve z) :=
        hprev _ fun heq => hz (ActuatorId.valve.inj heq)
      unfold valveFlatCount soilRose
      rw [h.valveLastSoil z hz, hticks, hlevel]
    dsimp only
    rw [hcount]
    split
    · exact { h with
        valveFlatTicks := h.valveFlatTicks.insert _ _
        valveLastSoil := h.valveLastSoil.insert _ _
        disabled := h.disabled.insert _ }
    · exact { h with
        valveFlatTicks := h.valveFlatTicks.insert _ _
        valveLastSoil := h.valveLastSoil.insert _ _ }

theorem Alike.monitorHouse (h : m.state.Alike A m'.state) (hprev : SameLevels A prev prev')
    (desc : HouseNoResponse) :
    (HealthState.monitorHouse cfg prev m desc).state.Alike A
      (HealthState.monitorHouse cfg prev' m' desc).state := by
  have hlevel : prev.get (.house desc.actuator) = prev'.get (.house desc.actuator) :=
    hprev _ ActuatorId.noConfusion
  unfold HealthState.monitorHouse
  dsimp only
  rw [h.houseNoRespBaseline, h.houseNoRespTicks, hlevel]
  split
  · split
    · split
      · exact { h with houseNoRespTicks := rfl, houseNoRespBaseline := rfl }
      · split
        · exact { h with houseNoRespTicks := rfl, houseNoRespBaseline := rfl }
        · split
          · exact { h with
              houseNoRespTicks := rfl
              houseNoRespBaseline := rfl
              disabled := h.disabled.insert _ }
          · exact { h with houseNoRespTicks := rfl, houseNoRespBaseline := rfl }
    · exact { h with houseNoRespTicks := rfl, houseNoRespBaseline := rfl }
  · exact { h with houseNoRespTicks := rfl, houseNoRespBaseline := rfl }

/-- **The health monitor keeps the agreement.** -/
theorem Alike.monitor {s s' : HealthState} {trusted trusted' : TrustedState}
    {resolved : ResolvedSetpoints} {prevCommanded prevCommanded' : Option Commands}
    (h : s.Alike A s') (hprev : Option.Rel (SameLevels A) prevCommanded prevCommanded')
    (hobs : observed.Alike A observed') (htrusted : trusted.Alike A trusted') :
    (s.monitor prevCommanded observed trusted resolved cfg).1.Alike A
      (s'.monitor prevCommanded' observed' trusted' resolved cfg).1 := by
  have hcleared : ({ s with disabled := ∅ } : HealthState).Alike A { s' with disabled := ∅ } :=
    { h with disabled := fun _ _ => Iff.rfl }
  cases hprev with
  | none => exact hcleared
  | some hprev =>
    have hhouse : houseNoResponses trusted resolved = houseNoResponses trusted' resolved := by
      simp only [houseNoResponses, htrusted.temperature, htrusted.humidity, htrusted.co2,
        htrusted.par]
    simp only [HealthState.monitor, hhouse]
    refine List.foldl_rel (r := fun m m' : Monitored => m.state.Alike A m'.state) ?_
      fun desc _ m m' h => h.monitorHouse hprev desc
    refine foldl_toList_agree (R := fun m m' : Monitored => m.state.Alike A m'.state)
      (fun m m' v h => h.monitorValve_left v) (fun m m' v h => (h.symm.monitorValve_left v).symm)
      (fun m m' z v hz h => h.monitorValve hprev hz v) htrusted.soil ?_
    refine foldl_agree (R := fun m m' : Monitored => m.state.Alike A m'.state)
      (fun m m' i hi h => ?_) (fun m m' i hi h => ?_) (fun m m' i hi h => ?_) hobs.ids hcleared
    · obtain rfl := not_not.1 (of_decide_eq_false hi)
      exact h.monitorStuck_left
    · obtain rfl := not_not.1 (of_decide_eq_false hi)
      exact h.symm.monitorStuck_left.symm
    · exact h.monitorStuck hprev hobs (of_decide_eq_true hi)

end HealthState

/-! ### The loops -/

/-- Zone lists with the same ids, the same but for the configuration of `A`. -/
def SameZones (A : Slug) (zones zones' : List Zone) : Prop :=
  List.Forall₂ (fun z y => z.id = y.id ∧ (z.id ≠ A → z = y)) zones zones'

theorem SameZones.ids {zones zones' : List Zone} (h : SameZones A zones zones') :
    zones.map (·.id) = zones'.map (·.id) := by
  induction h with
  | nil => rfl
  | cons hz _ ih => rw [List.map_cons, List.map_cons, hz.1, ih]

/-- Configurations that differ at most in the zone `A`. -/
structure Config.Alike (A : Slug) (cfg cfg' : Config) : Prop where
  setpoints : cfg.setpoints = cfg'.setpoints
  control : cfg.control = cfg'.control
  safety : cfg.safety = cfg'.safety
  sensing : cfg.sensing = cfg'.sensing
  zones : SameZones A cfg.zones cfg'.zones

/-- Every scheduler is kept under the zone it is named for. -/
def Named (zones : TreeMap Slug IrrigationLoop) : Prop :=
  ∀ (z : Slug) (l : IrrigationLoop), zones[z]? = some l → l.zoneId = z

theorem Named.insert {zones : TreeMap Slug IrrigationLoop} (h : Named zones) {l : IrrigationLoop}
    {zone : Slug} (hl : l.zoneId = zone) : Named (zones.insert zone l) := by
  intro z l' hget
  rw [TreeMap.getElem?_insert] at hget
  split at hget
  case isTrue hcmp =>
    obtain rfl := Option.some.inj hget
    rw [hl, LawfulEqOrd.eq_of_compare hcmp]
  case isFalse => exact h z l' hget

structure ControlState.Alike (A : Slug) (s s' : ControlState) : Prop where
  temperature : s.temperature = s'.temperature
  humidity : s.humidity = s'.humidity
  lighting : s.lighting = s'.lighting
  zones : AgreeOff A s.zones s'.zones
  named : Named s.zones
  named' : Named s'.zones

/-- What two runs of the loops return, up to zone `A`. -/
structure ControlOutput.Alike (A : Slug) (out out' : ControlOutput) : Prop where
  state : out.state.Alike A out'.state
  cmd : out.cmd.AgreeOff (.valve A) out'.cmd
  failClosed : SameOff (.valve A) out.failClosed out'.failClosed

section Loops

variable {cfg cfg' : Config} {trusted trusted' : TrustedState} {resolved : ResolvedSetpoints}
  {clock : Clock}

theorem TemperatureLoop.run_congr (l : TemperatureLoop) (htrusted : trusted.Alike A trusted')
    (hcfg : cfg.control = cfg'.control) (cmd : Commands) :
    l.run trusted resolved cfg cmd = l.run trusted' resolved cfg' cmd := by
  have hnote : ∀ (l : TemperatureLoop) (saturated : Bool),
      l.noteSaturation saturated cfg = l.noteSaturation saturated cfg' := by
    intro l saturated
    unfold noteSaturation
    rw [hcfg]
  unfold TemperatureLoop.run compute
  rw [htrusted.temperature]
  simp only [hnote]

theorem HumidityLoop.run_congr (l : HumidityLoop) (htrusted : trusted.Alike A trusted')
    (cmd : Commands) : l.run trusted resolved cmd = l.run trusted' resolved cmd := by
  unfold HumidityLoop.run compute
  rw [htrusted.humidity]

theorem co2Run_congr (htrusted : trusted.Alike A trusted') (cmd : Commands)
    (failClosed : TreeSet ActuatorId) :
    co2Run trusted resolved cmd failClosed = co2Run trusted' resolved cmd failClosed := by
  unfold co2Run
  rw [htrusted.co2]

theorem LightingLoop.run_agree [Libm] {l l' : LightingLoop} {cmd cmd' out : Commands}
    (htrusted : trusted.Alike A trusted') (hcfg : cfg.setpoints = cfg'.setpoints)
    (hcmd : cmd.AgreeOff (.valve A) cmd')
    (h : l.run trusted resolved clock cfg cmd = some (l', out)) :
    ∃ out', l.run trusted' resolved clock cfg' cmd' = some (l', out') ∧
      out.AgreeOff (.valve A) out' := by
  have hacc : l.accumulate trusted clock = l.accumulate trusted' clock := by
    unfold accumulate
    rw [htrusted.par]
  have hdecide : (l.accumulate trusted clock).decide trusted resolved clock cfg =
      (l.accumulate trusted' clock).decide trusted' resolved clock cfg' := by
    unfold LightingLoop.decide
    rw [htrusted.par, hcfg, hacc]
  obtain ⟨⟨lights, shade⟩, hlevels, h⟩ := Option.bind_eq_some_iff.1 h
  obtain ⟨rfl, rfl⟩ := Prod.mk.inj (Option.some.inj h)
  refine ⟨_, ?_, (hcmd.set (.house .growLights) lights).set (.house .shadeScreen) shade⟩
  unfold LightingLoop.run
  dsimp only
  rw [← hdecide, hlevels, hacc]
  rfl

end Loops

namespace ControlState

/-- What two runs of the schedulers have accumulated, up to zone `A`. -/
structure Irrigation.Alike (A : Slug) (acc acc' : Irrigation) : Prop where
  zones : AgreeOff A acc.zones acc'.zones
  cmd : acc.cmd.AgreeOff (.valve A) acc'.cmd
  failClosed : SameOff (.valve A) acc.failClosed acc'.failClosed
  named : Named acc.zones
  named' : Named acc'.zones

namespace Irrigation.Alike

variable {acc acc' : Irrigation} {trusted trusted' : TrustedState} {clock : Clock}

theorem symm (h : acc.Alike A acc') : acc'.Alike A acc where
  zones := h.zones.symm
  cmd := h.cmd.symm
  failClosed := h.failClosed.symm
  named := h.named'
  named' := h.named

/-- The scheduler of `A` moves only what belongs to `A`. -/
theorem irrigate_left (h : acc.Alike A acc') (trusted : TrustedState) (clock : Clock) {zone : Zone}
    (hzone : zone.id = A) : (irrigate trusted clock acc zone).Alike A acc' := by
  cases hget : acc.zones[zone.id]? with
  | none =>
    simp only [irrigate, hget]
    exact h
  | some l =>
    have hid : l.zoneId = A := (h.named _ l hget).trans hzone
    have hstep := (l.compute_cases zone (trusted.soilMoisture[A]?).join clock).1
    rw [hzone] at hget
    simp only [irrigate, hzone, hget, IrrigationLoop.run, hid]
    refine ⟨h.zones.insert_left _, h.cmd.set_left _, ?_, h.named.insert (hstep.trans hid), h.named'⟩
    dsimp only
    split
    · exact h.failClosed.insert_left
    · exact h.failClosed

/-- The scheduler of another zone moves the same on both sides. -/
theorem irrigate (h : acc.Alike A acc') (htrusted : trusted.Alike A trusted') {zone : Zone}
    (hzone : zone.id ≠ A) :
    (ControlState.irrigate trusted clock acc zone).Alike A
      (ControlState.irrigate trusted' clock acc' zone) := by
  have hget : acc.zones[zone.id]? = acc'.zones[zone.id]? := h.zones _ hzone
  have hsoil : trusted.soilMoisture[zone.id]? = trusted'.soilMoisture[zone.id]? :=
    htrusted.soil _ hzone
  unfold ControlState.irrigate
  rw [hget, hsoil]
  cases hl : acc'.zones[zone.id]? with
  | none => exact h
  | some l =>
    have hid : l.zoneId = zone.id := h.named' _ l hl
    have hstep := (l.compute_cases zone (trusted'.soilMoisture[zone.id]?).join clock).1
    simp only [IrrigationLoop.run]
    refine ⟨h.zones.insert _ _, h.cmd.set _ _, ?_, h.named.insert (hstep.trans hid),
      h.named'.insert (hstep.trans hid)⟩
    split
    · exact h.failClosed.insert _
    · exact h.failClosed

theorem foldl (h : acc.Alike A acc') (htrusted : trusted.Alike A trusted')
    {zones zones' : List Zone} (hzones : SameZones A zones zones') :
    (zones.foldl (ControlState.irrigate trusted clock) acc).Alike A
      (zones'.foldl (ControlState.irrigate trusted' clock) acc') := by
  induction hzones generalizing acc acc' with
  | nil => exact h
  | @cons z y _ _ hz _ ih =>
    refine ih ?_
    by_cases hA : z.id = A
    · have hy : y.id = A := hz.1 ▸ hA
      exact ((h.irrigate_left trusted clock hA).symm.irrigate_left trusted' clock hy).symm
    · obtain rfl := hz.2 hA
      exact h.irrigate htrusted hA

end Irrigation.Alike

/-- **The loops keep the agreement.** -/
theorem Alike.run [Libm] {s s' : ControlState} {cfg cfg' : Config}
    {trusted trusted' : TrustedState} {resolved : ResolvedSetpoints} {clock : Clock}
    {out : ControlOutput} (h : s.Alike A s') (htrusted : trusted.Alike A trusted')
    (hcfg : cfg.Alike A cfg') (hrun : s.run trusted resolved cfg clock = some out) :
    ∃ out', s'.run trusted' resolved cfg' clock = some out' ∧ out.Alike A out' := by
  obtain ⟨⟨temperature, cmd₁, faults⟩, htemp, hrun⟩ := Option.bind_eq_some_iff.1 hrun
  obtain ⟨⟨lighting, cmd₂⟩, hlight, hrun⟩ := Option.bind_eq_some_iff.1 hrun
  obtain rfl := Option.some.inj hrun
  rw [TemperatureLoop.run_congr _ htrusted hcfg.control, hcfg.zones.ids, h.temperature] at htemp
  have hhumidity : s.humidity.run trusted resolved cmd₁ =
      s'.humidity.run trusted' resolved cmd₁ := by
    rw [HumidityLoop.run_congr _ htrusted, h.humidity]
  have hstate : (s.humidity.run trusted resolved cmd₁).1 =
      (s'.humidity.run trusted' resolved cmd₁).1 := congrArg Prod.fst hhumidity
  have hirrigation : Irrigation.Alike A
      (cfg.zones.foldl (irrigate trusted clock) ⟨s.zones,
        (co2Run trusted resolved (s.humidity.run trusted resolved cmd₁).2 ∅).1,
        (co2Run trusted resolved (s.humidity.run trusted resolved cmd₁).2 ∅).2⟩)
      (cfg'.zones.foldl (irrigate trusted' clock) ⟨s'.zones,
        (co2Run trusted' resolved (s'.humidity.run trusted' resolved cmd₁).2 ∅).1,
        (co2Run trusted' resolved (s'.humidity.run trusted' resolved cmd₁).2 ∅).2⟩) := by
    refine Irrigation.Alike.foldl ?_ htrusted hcfg.zones
    rw [hhumidity, co2Run_congr htrusted]
    exact ⟨h.zones, Commands.AgreeOff.refl _ _, fun _ _ => Iff.rfl, h.named, h.named'⟩
  rw [h.lighting] at hlight
  obtain ⟨cmd₂', hlight', hcmd⟩ := LightingLoop.run_agree htrusted hcfg.setpoints hirrigation.cmd
    hlight
  refine ⟨_, Option.bind_eq_some_iff.2 ⟨_, htemp, Option.bind_eq_some_iff.2 ⟨_, hlight', rfl⟩⟩,
    ⟨rfl, hstate, rfl, hirrigation.zones, hirrigation.named,
      hirrigation.named'⟩, hcmd, hirrigation.failClosed⟩

end ControlState

/-! ### The back half -/

section BackHalf

variable {cmd cmd' : Commands}

theorem OverrideState.mem_ids_apply_iff {s : OverrideState} {id : ActuatorId} :
    id ∈ (s.apply cmd).ids ↔ id ∈ s.active ∨ id ∈ cmd.ids := by
  have step : ∀ (l : List (ActuatorId × Override)) (c : Commands),
      id ∈ (l.foldl (fun cmd p => cmd.set p.1 p.2.level) c).ids ↔
        id ∈ l.map Prod.fst ∨ id ∈ c.ids := by
    intro l
    induction l with
    | nil => simp
    | cons p l ih =>
      intro c
      rw [List.foldl_cons, ih, Commands.mem_ids_set, List.map_cons, List.mem_cons, or_left_comm,
        or_assoc, eq_comm (a := p.1)]
  change id ∈ (s.active.toList.foldl (fun cmd p => cmd.set p.1 p.2.level) cmd).ids ↔ _
  rw [step, TreeMap.map_fst_toList_eq_keys, TreeMap.mem_keys]

/-- Applying overrides keeps the agreement. -/
theorem Commands.AgreeOff.apply {s s' : OverrideState}
    (hs : Process.AgreeOff (.valve A) s.active s'.active) (h : cmd.AgreeOff (.valve A) cmd') :
    (s.apply cmd).AgreeOff (.valve A) (s'.apply cmd') := by
  intro id hid
  constructor
  · cases hov : s.active[id]? with
    | some ov =>
      rw [OverrideState.get_apply_of_some hov, OverrideState.get_apply_of_some
        ((hs id hid).symm.trans hov)]
    | none =>
      have hmem : id ∉ s.active := by
        rw [TreeMap.mem_iff_isSome_getElem?, hov]
        exact Bool.false_ne_true
      rw [OverrideState.get_apply_of_not_mem hmem,
        OverrideState.get_apply_of_not_mem ((hs.mem_iff hid).not.1 hmem)]
      exact (h id hid).1
  · rw [OverrideState.mem_ids_apply_iff, OverrideState.mem_ids_apply_iff, hs.mem_iff hid,
      (h id hid).2]

/-- The interlocks keep the agreement, and latch the same. -/
theorem InterlockState.apply_agree (s : InterlockState) (clock : Clock) {cfg cfg' : Config}
    {trusted trusted' : TrustedState} (hcfg : cfg.safety = cfg'.safety)
    (htrusted : trusted.Alike A trusted') (h : cmd.AgreeOff (.valve A) cmd') :
    (s.apply trusted cfg clock cmd).1 = (s.apply trusted' cfg' clock cmd').1 ∧
      (s.apply trusted cfg clock cmd).2.1.AgreeOff (.valve A)
        (s.apply trusted' cfg' clock cmd').2.1 := by
  have hstart : Forcing.AgreeOff (.valve A) ⟨cmd, ∅⟩ ⟨cmd', ∅⟩ := ⟨h, fun _ _ => Iff.rfl⟩
  have htemp : ∀ {f f' : Forcing}, f.AgreeOff (.valve A) f' →
      (applyTemperature s.criticalTemperature trusted.temperature cfg clock f).1 =
        (applyTemperature s.criticalTemperature trusted'.temperature cfg' clock f').1 ∧
      (applyTemperature s.criticalTemperature trusted.temperature cfg clock f).2.1.AgreeOff
        (.valve A) (applyTemperature s.criticalTemperature trusted'.temperature cfg' clock
          f').2.1 := by
    intro f f' hf
    unfold applyTemperature
    rw [htrusted.temperature]
    cases trusted'.temperature with
    | none => exact ⟨rfl, ((hf.force _ _).force _ _).force _ _⟩
    | some t =>
      have hover : temperatureOver t cfg = temperatureOver t cfg' := by
        unfold temperatureOver
        rw [hcfg]
      have hrecovered : temperatureRecovered t cfg = temperatureRecovered t cfg' := by
        unfold temperatureRecovered
        rw [hcfg]
      dsimp only
      rw [hover, hrecovered, hcfg]
      generalize s.criticalTemperature.update _ _ _ _ = latch
      cases latch.asserted with
      | false => exact ⟨rfl, hf⟩
      | true => exact ⟨rfl, ((hf.force _ _).force _ _).force _ _⟩
  have hco2 : ∀ {f f' : Forcing}, f.AgreeOff (.valve A) f' →
      (applyCo2 s.co2Ceiling trusted.co2 cfg clock f).1 =
        (applyCo2 s.co2Ceiling trusted'.co2 cfg' clock f').1 ∧
      (applyCo2 s.co2Ceiling trusted.co2 cfg clock f).2.1.AgreeOff (.valve A)
        (applyCo2 s.co2Ceiling trusted'.co2 cfg' clock f').2.1 := by
    intro f f' hf
    unfold applyCo2
    rw [htrusted.co2]
    cases trusted'.co2 with
    | none => exact ⟨rfl, hf⟩
    | some c =>
      have hceiling : ceilingPpm cfg = ceilingPpm cfg' := by
        unfold ceilingPpm
        rw [hcfg]
      have hover : co2Over c cfg = co2Over c cfg' := by
        unfold co2Over
        rw [hceiling]
      have hrecovered : co2Recovered c cfg = co2Recovered c cfg' := by
        unfold co2Recovered
        rw [hceiling, hcfg]
      dsimp only
      rw [hover, hrecovered, hcfg]
      generalize s.co2Ceiling.update _ _ _ _ = latch
      cases latch.asserted with
      | false => exact ⟨rfl, hf⟩
      | true => exact ⟨rfl, (hf.force _ _).force _ _⟩
  obtain ⟨hcritical, hforcing⟩ := htemp hstart
  obtain ⟨hceiling, hforcing⟩ := hco2 hforcing
  exact ⟨congrArg₂ InterlockState.mk hcritical hceiling, hforcing⟩

/-- Constraint states that differ at most in what was applied to the valve of `A`. -/
structure ConstraintState.Alike (A : Slug) (s s' : ConstraintState) : Prop where
  constraints : s.constraints = s'.constraints
  applied : ∀ id, id ≠ .valve A → s.applied.getD id {} = s'.applied.getD id {}

/-- The constraints keep the agreement. -/
theorem ConstraintState.Alike.apply {s s' t : ConstraintState} {out : Commands}
    {waive waive' : TreeSet ActuatorId} (h : s.Alike A s') (hrates : s'.RatesPositive)
    (hcmd : cmd.AgreeOff (.valve A) cmd') (hwaive : SameOff (.valve A) waive waive')
    (happly : s.apply cmd waive = some (t, out)) :
    ∃ t' out', s'.apply cmd' waive' = some (t', out') ∧ t.Alike A t' ∧
      SameLevels A out out' := by
  obtain ⟨⟨t', out'⟩, happly'⟩ := Option.isSome_iff_exists.1 (apply_isSome hrates waive')
  have hshapes := apply_shapes happly
  have hshapes' := apply_shapes happly'
  have hfor : ∀ id, s.constraintsFor id = s'.constraintsFor id := by
    intro id
    simp only [constraintsFor, h.constraints]
  have hsame : ∀ id, id ≠ .valve A → t.applied.getD id {} = t'.applied.getD id {} ∧
      out.get id = out'.get id := by
    intro id hid
    by_cases hmem : id ∈ cmd.ids
    · have hshape := hshapes.shaped id hmem
      have hshape' := hshapes'.shaped id ((hcmd id hid).2.1 hmem)
      rw [h.applied id hid, (hcmd id hid).1, hfor, hwaive.contains hid] at hshape
      exact Prod.mk.inj (Option.some.inj (hshape.symm.trans hshape'))
    · obtain ⟨happlied, hget⟩ := hshapes.kept id hmem
      obtain ⟨happlied', hget'⟩ := hshapes'.kept id ((hcmd id hid).2.not.1 hmem)
      exact ⟨happlied.trans ((h.applied id hid).trans happlied'.symm),
        hget.trans ((hcmd id hid).1.trans hget'.symm)⟩
  refine ⟨t', out', happly', ⟨?_, fun id hid => (hsame id hid).1⟩, fun id hid => (hsame id hid).2⟩
  rw [hshapes.constraints, hshapes'.constraints]
  exact h.constraints

/-- Baselines of commands that agree. -/
theorem SameLevels.baseline {disabled disabled' : TreeSet ActuatorId} {out out' : Commands}
    (hdisabled : SameOff (.valve A) disabled disabled') (hcmd : cmd.AgreeOff (.valve A) cmd')
    (hout : SameLevels A out out') :
    SameLevels A (Pipeline.baseline disabled cmd out) (Pipeline.baseline disabled' cmd' out') := by
  intro id hid
  simp only [Pipeline.baseline_get, hdisabled id hid, (hcmd id hid).1, hout id hid]

end BackHalf

/-! ## One tick -/

/-- Pipelines that differ at most in what concerns zone `A`, and in the backend. -/
structure Pipeline.Alike {H : Type} (A : Slug) (p p' : Pipeline H) : Prop where
  config : p.config.Alike A p'.config
  clock : p.clock = p'.clock
  sensing : p.sensing.Alike A p'.sensing
  control : p.control.Alike A p'.control
  overrides : Process.AgreeOff (.valve A) p.overrides.active p'.overrides.active
  interlocks : p.interlocks = p'.interlocks
  constraints : p.constraints.Alike A p'.constraints
  health : p.health.Alike A p'.health
  prevCommanded : Option.Rel (SameLevels A) p.prevCommanded p'.prevCommanded

/-- What two snapshots say of the zones other than `A` is the same. -/
structure Snapshot.Alike (A : Slug) (snap snap' : Snapshot) : Prop where
  commanded : SameLevels A snap.commanded snap'.commanded
  soil : AgreeOff A snap.trusted.soilMoisture snap'.trusted.soilMoisture

/-- The readings and the readbacks are the same but for the soil and the valve of `A`. -/
structure SameInputs {H : Type} [Hal H] (A : Slug) (hal hal' : H) : Prop where
  readings : (Hal.read hal).Alike A (Hal.read hal')
  observed : (Hal.observed hal).Alike A (Hal.observed hal')

theorem SameInputs.symm {H : Type} [Hal H] {hal hal' : H} (h : SameInputs A hal hal') :
    SameInputs A hal' hal where
  readings := ⟨h.readings.temperatureProbes.symm, h.readings.humidityPct.symm,
    h.readings.co2Ppm.symm, h.readings.par.symm, h.readings.soil.symm⟩
  observed := ⟨fun a => (h.observed.house a).symm, h.observed.valves.symm⟩

namespace Pipeline.Alike

variable {H : Type} [Libm] [Hal H] {p p' q : Pipeline H} {snap : Snapshot}

/-- **A tick is matched by a tick of the other pipeline.** -/
theorem tick (h : p.Alike A p') (hinputs : SameInputs A p.hal p'.hal)
    (hrates : p'.constraints.RatesPositive) (ht : p.tick = some (q, snap)) :
    ∃ q' snap', p'.tick = some (q', snap') ∧ q.Alike A q' ∧ snap.Alike A snap' := by
  obtain ⟨hsensing, htrusted⟩ : p.conditioned.1.Alike A p'.conditioned.1 ∧
      p.trusted.Alike A p'.trusted := by
    unfold Pipeline.trusted Pipeline.conditioned
    rw [← h.config.sensing]
    exact h.sensing.condition hinputs.readings _
  obtain ⟨resolved, hresolve, ht⟩ := Option.bind_eq_some_iff.1 ht
  obtain ⟨loops, hloops, ht⟩ := Option.bind_eq_some_iff.1 ht
  obtain ⟨⟨constraints, cmd⟩, hshaped, ht⟩ := Option.bind_eq_some_iff.1 ht
  obtain ⟨rfl, rfl⟩ := Prod.mk.inj (Option.some.inj ht)
  have hresolve' : resolve p'.config.setpoints p'.clock p'.trusted.temperature = some resolved := by
    rw [← h.config.setpoints, ← h.clock, ← htrusted.temperature]
    exact hresolve
  obtain ⟨loops', hloops', halike⟩ := h.control.run htrusted h.config hloops
  have hhealth : (p.monitored resolved).1.Alike A (p'.monitored resolved).1 := by
    unfold Pipeline.monitored
    rw [← h.config.sensing]
    exact h.health.monitor h.prevCommanded hinputs.observed htrusted
  have hoverrides : Process.AgreeOff (.valve A) (p.overrides.expire p.clock).active
      (p'.overrides.expire p.clock).active := h.overrides.filter _
  have hlocked := p'.interlocks.apply_agree p.clock h.config.safety htrusted
    (halike.cmd.apply hoverrides)
  have hforcing : (p.locked loops).1 = (p'.locked loops').1 ∧
      (p.locked loops).2.1.AgreeOff (.valve A) (p'.locked loops').2.1 := by
    unfold Pipeline.locked
    rw [h.interlocks, ← h.clock]
    exact hlocked
  have hsafe : (p.safe resolved loops).AgreeOff (.valve A) (p'.safe resolved loops') :=
    hforcing.2.forceOff hhealth.disabled
  obtain ⟨constraints', cmd', hshaped', hconstraints, hcmd⟩ :=
    h.constraints.apply hrates hsafe.cmd (hsafe.forced.union halike.failClosed) hshaped
  rw [h.clock] at hloops'
  refine ⟨_, _, Option.bind_eq_some_iff.2 ⟨_, hresolve', Option.bind_eq_some_iff.2 ⟨_, hloops',
    Option.bind_eq_some_iff.2 ⟨_, hshaped', rfl⟩⟩⟩, ?_, hcmd, htrusted.soil⟩
  exact {
    config := h.config
    clock := congrArg Clock.advance h.clock
    sensing := hsensing
    control := halike.state
    overrides := by
      rw [← h.clock]
      exact hoverrides
    interlocks := hforcing.1
    constraints := hconstraints
    health := hhealth
    prevCommanded := .some (SameLevels.baseline hhealth.disabled hforcing.2.cmd hcmd) }

end Pipeline.Alike

/-! ## The writes -/

namespace SameZones

variable {zones zones' : List Zone}

theorem refl (zones : List Zone) : SameZones A zones zones :=
  List.forall₂_same.2 fun _ _ => ⟨rfl, fun _ => rfl⟩

theorem symm (h : SameZones A zones zones') : SameZones A zones' zones :=
  List.Forall₂.flip (h.imp fun _ _ hz => ⟨hz.1.symm, fun hy => (hz.2 (hz.1 ▸ hy)).symm⟩)

theorem replace (h : SameZones A zones zones') (updated : Zone) :
    SameZones A (Pipeline.replaceZone updated zones) (Pipeline.replaceZone updated zones') := by
  induction h with
  | nil => exact List.Forall₂.nil
  | @cons z y zones zones' hz htail ih =>
    unfold Pipeline.replaceZone
    rw [← hz.1]
    by_cases hid : z.id = updated.id
    · rw [if_pos hid, if_pos hid]
      exact List.Forall₂.cons ⟨rfl, fun _ => rfl⟩ htail
    · rw [if_neg hid, if_neg hid]
      exact List.Forall₂.cons hz ih

theorem replace_left (h : SameZones A zones zones') {updated : Zone} (hid : updated.id = A) :
    SameZones A (Pipeline.replaceZone updated zones) zones' := by
  induction h with
  | nil => exact List.Forall₂.nil
  | @cons z y zones zones' hz htail ih =>
    unfold Pipeline.replaceZone
    by_cases heq : z.id = updated.id
    · rw [if_pos heq]
      exact List.Forall₂.cons ⟨heq.symm.trans hz.1, fun hne => absurd hid hne⟩ htail
    · rw [if_neg heq]
      exact List.Forall₂.cons hz ih

end SameZones

theorem HealthState.Alike.refl (s : HealthState) : s.Alike A s :=
  ⟨AgreeOff.refl _ _, AgreeOff.refl _ _, AgreeOff.refl _ _, rfl, rfl, fun _ _ => Iff.rfl⟩

theorem named_new (cfg : Config) : Named (ControlState.new cfg).zones := by
  refine List.foldlRecOn cfg.zones _ (motive := Named) (fun z l h => ?_) fun m hm z _ => ?_
  · rw [TreeMap.getElem?_emptyc] at h
    cases h
  · exact hm.insert rfl

namespace Pipeline.Alike

variable {H : Type} {p p' : Pipeline H}

theorem symm (h : p.Alike A p') : p'.Alike A p where
  config := ⟨h.config.setpoints.symm, h.config.control.symm, h.config.safety.symm,
    h.config.sensing.symm, h.config.zones.symm⟩
  clock := h.clock.symm
  sensing := ⟨h.sensing.humidity.symm, h.sensing.co2.symm, h.sensing.par.symm, h.sensing.soil.symm⟩
  control := ⟨h.control.temperature.symm, h.control.humidity.symm, h.control.lighting.symm,
    h.control.zones.symm, h.control.named', h.control.named⟩
  overrides := h.overrides.symm
  interlocks := h.interlocks.symm
  constraints := ⟨h.constraints.constraints.symm, fun id hid => (h.constraints.applied id hid).symm⟩
  health := h.health.symm
  prevCommanded := sameBaseline_symm h.prevCommanded

/-- Two pipelines of one configuration start alike. -/
theorem withClock (A : Slug) (cfg : Config) (hal hal' : H) (clock : Clock) :
    (Pipeline.withClock cfg hal clock).Alike A (Pipeline.withClock cfg hal' clock) where
  config := ⟨rfl, rfl, rfl, rfl, SameZones.refl _⟩
  clock := rfl
  sensing := ⟨rfl, rfl, rfl, AgreeOff.refl _ _⟩
  control := ⟨rfl, rfl, rfl, AgreeOff.refl _ _, named_new cfg, named_new cfg⟩
  overrides := AgreeOff.refl _ _
  interlocks := rfl
  constraints := ⟨rfl, fun _ _ => rfl⟩
  health := HealthState.Alike.refl _
  prevCommanded := .none

theorem applySetpoints (h : p.Alike A p') (setpoints : Setpoints) :
    (p.applySetpoints setpoints).Alike A (p'.applySetpoints setpoints) :=
  { h with config := { h.config with setpoints := rfl } }

theorem applyZone (h : p.Alike A p') (zone : Zone) :
    (p.applyZone zone).Alike A (p'.applyZone zone) :=
  { h with config := { h.config with zones := h.config.zones.replace zone } }

theorem applyZone_left (h : p.Alike A p') {zone : Zone} (hzone : zone.id = A) :
    (p.applyZone zone).Alike A p' :=
  { h with config := { h.config with zones := h.config.zones.replace_left hzone } }

theorem setOverride (h : p.Alike A p') (id : ActuatorId) (level : F64) (ttlSecs : Nat) :
    (p.setOverride id level ttlSecs).Alike A (p'.setOverride id level ttlSecs) := by
  refine { h with overrides := ?_ }
  unfold Pipeline.setOverride OverrideState.set
  rw [h.clock]
  exact h.overrides.insert _ _

theorem setOverride_left (h : p.Alike A p') (level : F64) (ttlSecs : Nat) :
    (p.setOverride (.valve A) level ttlSecs).Alike A p' :=
  { h with overrides := h.overrides.insert_left _ }

theorem clearOverride (h : p.Alike A p') (id : ActuatorId) :
    (p.clearOverride id).Alike A (p'.clearOverride id) :=
  { h with overrides := h.overrides.erase _ }

theorem clearOverride_left (h : p.Alike A p') : (p.clearOverride (.valve A)).Alike A p' :=
  { h with overrides := h.overrides.erase_left }

end Pipeline.Alike

/-! ## Two sessions side by side -/

/-- Sessions that differ at most in what concerns zone `A`. -/
structure Session.Alike {H : Type} (A : Slug) (r r' : Session H) : Prop where
  pipeline : r.pipeline.Alike A r'.pipeline
  last : Option.Rel (Snapshot.Alike A) r.last r'.last

/-- What two sessions show of zone `B`: the level committed for its valve, its trusted soil
moisture, whether its valve is disabled, and its scheduler. -/
structure SameZone {H : Type} (B : Slug) (r r' : Session H) : Prop where
  committed : r.committed (.valve B) = r'.committed (.valve B)
  soil : r.last.map (fun snap => snap.trusted.soilMoisture[B]?) =
    r'.last.map fun snap => snap.trusted.soilMoisture[B]?
  disabled : .valve B ∈ r.pipeline.health.disabled ↔ .valve B ∈ r'.pipeline.health.disabled
  scheduler : r.pipeline.control.zones[B]? = r'.pipeline.control.zones[B]?

/-- An event at both sessions, or at one of them. -/
inductive Paired (H : Type) where
  | both (e : Event H)
  | left (e : Event H)
  | right (e : Event H)

/-- The event concerns nothing but zone `A` and the backend. -/
def Event.OnlyOf {H : Type} (A : Slug) : Event H → Prop
  | .setZone zone => zone.id = A
  | .setOverride id _ _ _ => id = .valve A
  | .clearOverride id => id = .valve A
  | .plant _ => True
  | .tick => False
  | .setSetpoints _ => False

section Pairs

variable {H : Type}

namespace Session.Alike

variable {r r' : Session H}

theorem symm (h : r.Alike A r') : r'.Alike A r := by
  obtain ⟨p, last⟩ := r
  obtain ⟨p', last'⟩ := r'
  obtain ⟨hpipeline, hlast⟩ := h
  refine ⟨hpipeline.symm, ?_⟩
  cases hlast with
  | none => exact .none
  | some h => exact .some ⟨fun id hid => (h.commanded id hid).symm, h.soil.symm⟩

/-- Sessions that are alike show the same of every other zone. -/
theorem sameZone (h : r.Alike A r') {B : Slug} (hB : B ≠ A) : SameZone B r r' := by
  have hvalve : ActuatorId.valve B ≠ .valve A := fun heq => hB (ActuatorId.valve.inj heq)
  obtain ⟨p, last⟩ := r
  obtain ⟨p', last'⟩ := r'
  obtain ⟨hpipeline, hlast⟩ := h
  refine ⟨?_, ?_, hpipeline.health.disabled _ hvalve, hpipeline.control.zones B hB⟩
  · cases hlast with
    | none => rfl
    | some hsnap => exact hsnap.commanded _ hvalve
  · cases hlast with
    | none => rfl
    | some hsnap => exact congrArg some (hsnap.soil B hB)

end Session.Alike

variable [Libm] [Hal H]

/-- One step of two sessions: they tick and are written to together, except for what concerns
zone `A`; on a tick their inputs are the same but for those of `A`. -/
def Paired.Step (A : Slug) (r : Session H × Session H) : Paired H → Session H × Session H → Prop
  | .both e, s => Session.Step r.1 e s.1 ∧ Session.Step r.2 e s.2 ∧
    (e.isTick = true → SameInputs A r.1.pipeline.hal r.2.pipeline.hal)
  | .left e, s => e.OnlyOf A ∧ Session.Step r.1 e s.1 ∧ s.2 = r.2
  | .right e, s => e.OnlyOf A ∧ Session.Step r.2 e s.2 ∧ s.1 = r.1

namespace Session.Alike

variable {r r' s s' : Session H}

/-- An event at both sessions keeps them alike. -/
theorem both (h : r.Alike A r') (hrates : r'.pipeline.constraints.RatesPositive) {e : Event H}
    (hs : Step r e s) (hs' : Step r' e s')
    (hinputs : e.isTick = true → SameInputs A r.pipeline.hal r'.pipeline.hal) : s.Alike A s' := by
  cases e with
  | tick =>
    obtain ⟨⟨p, snap⟩, ht, rfl⟩ := Option.map_eq_some_iff.1 hs
    obtain ⟨q, snap', ht', hpipeline, hsnap⟩ := h.pipeline.tick (hinputs rfl) hrates ht
    obtain ⟨⟨p', snap''⟩, ht'', rfl⟩ := Option.map_eq_some_iff.1 hs'
    obtain ⟨rfl, rfl⟩ := Prod.mk.inj (Option.some.inj (ht'.symm.trans ht''))
    exact ⟨hpipeline, .some hsnap⟩
  | setSetpoints setpoints =>
    cases hs
    cases hs'
    exact ⟨h.pipeline.applySetpoints setpoints, h.last⟩
  | setZone zone =>
    cases hs
    cases hs'
    exact ⟨h.pipeline.applyZone zone, h.last⟩
  | setOverride id level isPct ttlSecs =>
    cases hs
    cases hs'
    exact ⟨h.pipeline.setOverride id level ttlSecs, h.last⟩
  | clearOverride id =>
    cases hs
    cases hs'
    exact ⟨h.pipeline.clearOverride id, h.last⟩
  | plant hal =>
    cases hs
    cases hs'
    exact ⟨{ h.pipeline with }, h.last⟩

/-- An event that concerns `A` alone keeps them alike, though it is at one of them. -/
theorem left (h : r.Alike A r') {e : Event H} (he : e.OnlyOf A) (hs : Step r e s) :
    s.Alike A r' := by
  cases e with
  | setZone zone =>
    cases hs
    exact ⟨h.pipeline.applyZone_left he, h.last⟩
  | setOverride id level isPct ttlSecs =>
    cases hs
    obtain rfl : id = .valve A := he
    exact ⟨h.pipeline.setOverride_left level ttlSecs, h.last⟩
  | clearOverride id =>
    cases hs
    obtain rfl : id = .valve A := he
    exact ⟨h.pipeline.clearOverride_left, h.last⟩
  | plant hal =>
    cases hs
    exact ⟨{ h.pipeline with }, h.last⟩
  | tick => exact he.elim
  | setSetpoints => exact he.elim

end Session.Alike

/-- Two sessions of configuration `cfg` that are alike. -/
structure SideBySide (A : Slug) (cfg : Config) (r : Session H × Session H) : Prop where
  alike : r.1.Alike A r.2
  left : Sound cfg r.1
  right : Sound cfg r.2

/-- A step of the two keeps them alike. -/
theorem SideBySide.step {cfg : Config} (hcfg : cfg.Valid) {r s : Session H × Session H}
    {e : Paired H} (h : SideBySide A cfg r) (hs : Paired.Step A r e s) : SideBySide A cfg s := by
  obtain ⟨r, r'⟩ := r
  obtain ⟨s, s'⟩ := s
  cases e with
  | both e =>
    obtain ⟨hs, hs', hinputs⟩ := hs
    exact ⟨h.alike.both (h.right.ratesPositive hcfg) hs hs' hinputs, h.left.step hcfg hs,
      h.right.step hcfg hs'⟩
  | left e =>
    obtain ⟨he, hs, rfl⟩ := hs
    exact ⟨h.alike.left he hs, h.left.step hcfg hs, h.right⟩
  | right e =>
    obtain ⟨he, hs, rfl⟩ := hs
    exact ⟨(h.alike.symm.left he hs).symm, h.left, h.right.step hcfg hs⟩

theorem SideBySide.of_run {cfg : Config} (hcfg : cfg.Valid) {hal hal' : H} {clock : Clock}
    {es : List (Paired H)} {r : Session H × Session H}
    (hr : Run (Paired.Step A) (Session.start cfg hal clock, Session.start cfg hal' clock) es r) :
    SideBySide A cfg r :=
  hr.invariant (I := SideBySide A cfg) (fun _ _ _ h hs => h.step hcfg hs)
    ⟨⟨Pipeline.Alike.withClock A cfg hal hal' clock, .none⟩, Sound.start cfg hal clock,
      Sound.start cfg hal' clock⟩

/-- **The zones are independent.** However two sessions run side by side, every zone but `A`
fares the same in both; and where their inputs are the same, one can tick if the other can. -/
theorem zones_independent {cfg : Config} (hcfg : cfg.Valid) {hal hal' : H} {clock : Clock}
    {es : List (Paired H)} {r : Session H × Session H}
    (hr : Run (Paired.Step A) (Session.start cfg hal clock, Session.start cfg hal' clock) es r) :
    (∀ B, B ≠ A → SameZone B r.1 r.2) ∧
      (SameInputs A r.1.pipeline.hal r.2.pipeline.hal →
        (r.1.pipeline.tick.isSome ↔ r.2.pipeline.tick.isSome)) := by
  have h := SideBySide.of_run hcfg hr
  refine ⟨fun B hB => h.alike.sameZone hB, fun hinputs => ?_⟩
  have hforth : ∀ {r r' : Session H}, r.Alike A r' →
      SameInputs A r.pipeline.hal r'.pipeline.hal → Sound cfg r' →
      r.pipeline.tick.isSome → r'.pipeline.tick.isSome := by
    intro r r' halike hinputs hsound htick
    obtain ⟨⟨q, snap⟩, ht⟩ := Option.isSome_iff_exists.1 htick
    obtain ⟨q', snap', ht', -⟩ := halike.pipeline.tick hinputs (hsound.ratesPositive hcfg) ht
    exact Option.isSome_of_eq_some ht'
  exact ⟨hforth h.alike hinputs h.right, hforth h.alike.symm hinputs.symm h.left⟩

end Pairs

/-! ## On the bench -/

section Witness

attribute [local instance] Bench.firstOrder

/-- A dark house with the soil of the tray wet, and that of the bench at `soil`. -/
def benchAt (soil : F64) : Bench.Plant where
  readings := { Bench.readings [20, 20, 20] 420 with
    soilMoisture :=
      ((∅ : TreeMap Slug F64).insert Bench.seedlingTray.id 0.6).insert Bench.benchA.id soil }

/-- Two houses, one with a dry bench and one with a wet one, tick: the tray fares the same. -/
theorem zones_independent_tray :
    ∃ r : Session Bench.Plant × Session Bench.Plant,
      r.1.last.map (fun snap => snap.trusted.soilMoisture[Bench.benchA.id]?) ≠
        r.2.last.map (fun snap => snap.trusted.soilMoisture[Bench.benchA.id]?) ∧
      SameZone Bench.seedlingTray.id r.1 r.2 := by
  have hrun : ((Session.start (Bench.config {}) (benchAt 0.2) Clock.new).step? .tick).bind
      (fun r => ((Session.start (Bench.config {}) (benchAt 0.5) Clock.new).step? .tick).map
        fun r' => decide (r.last.map (fun snap => snap.trusted.soilMoisture[Bench.benchA.id]?) ≠
          r'.last.map (fun snap => snap.trusted.soilMoisture[Bench.benchA.id]?))) = some true := by
    decide +kernel
  obtain ⟨r, hr, h⟩ := Option.bind_eq_some_iff.1 hrun
  obtain ⟨r', hr', h⟩ := Option.map_eq_some_iff.1 h
  have hinputs : SameInputs Bench.benchA.id (benchAt 0.2) (benchAt 0.5) :=
    ⟨⟨rfl, rfl, rfl, rfl, ((AgreeOff.refl _ _).insert_left _).insert_right _⟩,
      ⟨fun _ => rfl, AgreeOff.refl _ _⟩⟩
  have hpair : Run (Paired.Step Bench.benchA.id)
      (Session.start (Bench.config {}) (benchAt 0.2) Clock.new,
        Session.start (Bench.config {}) (benchAt 0.5) Clock.new) [.both .tick] (r, r') :=
    Run.single ⟨hr, hr', fun _ => hinputs⟩
  refine ⟨(r, r'), of_decide_eq_true h, ?_⟩
  exact (zones_independent Bench.config_valid hpair).1 Bench.seedlingTray.id (by decide)

end Witness

end Greenhouse.Controller
