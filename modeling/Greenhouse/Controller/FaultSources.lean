import Greenhouse.Controller.Pipeline

/-!
# Where the faults of a tick come from

The fault list of a tick is what its stages raise, in order. Only the health monitor raises
`actuatorStuck`, and only it and the soil channels raise a fault in a zone.

* `HealthState.monitor_faults`: the faults of the health monitor, detector after detector.
* `HealthState.mem_disabled_valve`: when a valve is disabled.
* `Pipeline.Advanced.stuck_faults`: the stuck faults of a tick are those of `stuckIds`.
* `Pipeline.Advanced.zone_fault_iff`: when a tick has a fault in a zone.
-/

namespace Greenhouse.Controller

open Greenhouse.Numeric Std

/-! ## The sensor side -/

/-- A fault that no health detector raised, about the house. -/
def Fault.OfHouse (f : Fault) : Prop := f.zoneId = none ∧ f.faultType ≠ .actuatorStuck

/-- Fusion raises faults about the house; one of them is an interlock exactly when there is no
temperature. -/
theorem fuseTemperature_faults (probes : List F64) (cfg : Sensing) :
    (∀ f ∈ (fuseTemperature probes cfg).2, f.zoneId = none ∧
      f.faultType ∈ [.temperatureUnavailable, .redundancyDegraded, .sensorDisagreement]) ∧
    ((∃ f ∈ (fuseTemperature probes cfg).2, f.faultType = .temperatureUnavailable) ↔
      (fuseTemperature probes cfg).1 = none) := by
  unfold fuseTemperature
  split
  · simp
  · simp
  · dsimp only
    split
    · split <;> simp
    · simp

theorem fuseTemperature_ofHouse {probes : List F64} {cfg : Sensing} {f : Fault}
    (h : f ∈ (fuseTemperature probes cfg).2) : f.OfHouse := by
  obtain ⟨hzone, htype⟩ := (fuseTemperature_faults probes cfg).1 f h
  refine ⟨hzone, fun heq => ?_⟩
  rw [heq] at htype
  exact absurd htype (by decide)

/-- A channel raises a fault, in its own zone, exactly when it is not trusted. -/
theorem classify_faults (component response : String) (zone : Option Slug) (value : F64)
    (bounds : Bounds) (unchanged stuckWindow : Nat) :
    (∀ f ∈ (classify component zone value bounds unchanged stuckWindow response).2,
      f.zoneId = zone ∧ f.faultType ≠ .actuatorStuck) ∧
    ((classify component zone value bounds unchanged stuckWindow response).2 = [] ↔
      (classify component zone value bounds unchanged stuckWindow response).1 ≠ none) := by
  unfold classify
  split
  · exact ⟨by simp, by simp⟩
  · split
    · exact ⟨by simp, by simp⟩
    · exact ⟨by simp, by simp⟩

namespace SensingState

/-- The soil channels conditioned so far have a fault in a zone exactly when it is not trusted. -/
structure Soil.Attributed (acc : Soil) : Prop where
  faultType : ∀ f ∈ acc.faults, f.faultType ≠ .actuatorStuck
  zone_iff : ∀ z, (∃ f ∈ acc.faults, f.zoneId = some z) ↔ acc.trusted[z]? = some none

theorem conditionSoil_attributed {cfg : Sensing} {acc : Soil} {r : Slug × F64}
    (h : acc.Attributed) (hnew : r.1 ∉ acc.trusted) : (conditionSoil cfg acc r).Attributed := by
  obtain ⟨hmem, hnil⟩ := classify_faults "soil_moisture"
    "disabled this zone's irrigation (fail-closed)" (some r.1) r.2 cfg.soilMoistureBounds
    ((acc.trackers.getD r.1 {}).observe r.2).unchanged cfg.stuckWindowSecs
  unfold conditionSoil
  dsimp only
  generalize classify "soil_moisture" (some r.1) r.2 cfg.soilMoistureBounds _ cfg.stuckWindowSecs
    "disabled this zone's irrigation (fail-closed)" = verdict at hmem hnil
  constructor
  · intro f hf
    rcases List.mem_append.1 hf with hf | hf
    · exact h.faultType f hf
    · exact (hmem f hf).2
  · intro z
    simp only [List.mem_append, or_and_right, exists_or]
    rw [h.zone_iff, TreeMap.getElem?_insert]
    by_cases hz : r.1 = z
    · subst hz
      have hnone : acc.trusted[r.1]? = none := TreeMap.getElem?_eq_none hnew
      rw [hnone, if_pos ReflCmp.compare_self, Option.some.injEq]
      have hexists : (∃ f ∈ verdict.2, f.zoneId = some r.1) ↔ verdict.2 ≠ [] := by
        constructor
        · rintro ⟨f, hf, -⟩ hempty
          rw [hempty] at hf
          cases hf
        · intro hne
          obtain ⟨f, hf⟩ := List.exists_mem_of_ne_nil _ hne
          exact ⟨f, hf, (hmem f hf).1⟩
      rw [hexists, Ne, hnil, not_not]
      simp
    · rw [if_neg fun heq => hz (LawfulEqOrd.eq_of_compare heq)]
      refine or_iff_left ?_
      rintro ⟨f, hf, hfz⟩
      exact hz (Option.some.inj ((hmem f hf).1.symm.trans hfz))

theorem foldl_conditionSoil_attributed {cfg : Sensing} {l : List (Slug × F64)} :
    ∀ {acc : Soil}, (l.map Prod.fst).Nodup → (∀ r ∈ l, r.1 ∉ acc.trusted) → acc.Attributed →
      (l.foldl (conditionSoil cfg) acc).Attributed := by
  induction l with
  | nil => exact fun _ _ h => h
  | cons r l ih =>
    intro acc hl hnew h
    obtain ⟨hr, hl⟩ := List.nodup_cons.1 hl
    refine ih hl (fun q hq hmem => ?_) (conditionSoil_attributed h (hnew r List.mem_cons_self))
    rcases TreeMap.mem_insert.1 hmem with heq | hmem
    · exact hr (LawfulEqOrd.eq_of_compare heq ▸ List.mem_map_of_mem hq)
    · exact hnew q (List.mem_cons_of_mem r hq) hmem

/-- **The sensor side raises a fault in a zone exactly when its soil moisture is not trusted.** -/
theorem condition_faults [Libm] (s : SensingState) (raw : RawReadings) (cfg : Sensing) :
    (∀ f ∈ (s.condition raw cfg).2.2, f.faultType ≠ .actuatorStuck) ∧
    ∀ z, (∃ f ∈ (s.condition raw cfg).2.2, f.zoneId = some z) ↔
      (s.condition raw cfg).2.1.soilMoisture[z]? = some none := by
  have hkeys : (raw.soilMoisture.toList.map Prod.fst).Nodup := by
    rw [TreeMap.map_fst_toList_eq_keys]
    exact raw.soilMoisture.nodup_keys
  have hsoil : (raw.soilMoisture.toList.foldl (conditionSoil cfg) ⟨s.soil, ∅, []⟩).Attributed :=
    foldl_conditionSoil_attributed hkeys (fun _ _ => TreeMap.not_mem_emptyc)
      ⟨by simp, fun z => by simp⟩
  have hchannel : ∀ {component response : String} {value : F64} {bounds : Bounds} {n w : Nat}
      {f : Fault}, f ∈ (classify component none value bounds n w response).2 → f.OfHouse :=
    fun hf => (classify_faults _ _ _ _ _ _ _).1 _ hf
  have hcases : ∀ f ∈ (s.condition raw cfg).2.2, f.OfHouse ∨
      f ∈ (raw.soilMoisture.toList.foldl (conditionSoil cfg) ⟨s.soil, ∅, []⟩).faults := by
    intro f hf
    simp only [condition, List.mem_append] at hf
    rcases hf with (((hf | hf) | hf) | hf) | hf
    · exact Or.inl (fuseTemperature_ofHouse hf)
    · exact Or.inl (hchannel hf)
    · exact Or.inl (hchannel hf)
    · exact Or.inl (hchannel hf)
    · exact Or.inr hf
  refine ⟨fun f hf => ?_, fun z => ⟨?_, fun hz => ?_⟩⟩
  · rcases hcases f hf with hhouse | hsoilf
    · exact hhouse.2
    · exact hsoil.faultType f hsoilf
  · rintro ⟨f, hf, hz⟩
    rcases hcases f hf with hhouse | hsoilf
    · exact absurd (hhouse.1.symm.trans hz) (Option.some_ne_none z).symm
    · exact (hsoil.zone_iff z).1 ⟨f, hsoilf, hz⟩
  · obtain ⟨f, hf, hzone⟩ := (hsoil.zone_iff z).2 hz
    exact ⟨f, List.mem_append_right _ hf, hzone⟩

end SensingState

/-! ## The health monitor -/

/-- What the stuck check raises for an actuator; for a valve it names no zone. -/
def stuckFault (id : ActuatorId) : Fault where
  component := componentName id
  faultType := .actuatorStuck
  severity := .alarm
  message := componentName id ++ " observed state diverges from command"
  response := "disabled the actuator"

/-- What the no-response check raises for the valve of a zone. -/
def flatFault (zone : Slug) : Fault where
  component := "irrigation_valve"
  zoneId := some zone
  faultType := .irrigationNoResponse
  severity := .alarm
  message := "valve open but soil moisture not responding"
  response := "disabled this zone's irrigation"

/-- What the no-response check raises for a device of the house. -/
def Fault.Unresponsive (f : Fault) : Prop :=
  f.zoneId = none ∧ f.faultType = .actuatorNoResponse

theorem Fault.Unresponsive.ofHouse {f : Fault} (h : f.Unresponsive) : f.OfHouse := by
  refine ⟨h.1, ?_⟩
  rw [h.2]
  exact FaultType.noConfusion

namespace HealthState

/-- The valve of a zone has been open for the window while its soil moisture did not rise. -/
def flat (cfg : Sensing) (prev : Commands) (s : HealthState) (reading : Slug × Option F64) : Bool :=
  match reading.2 with
  | some soil => decide (cfg.noResponseWindowTicks ≤ s.valveFlatCount prev reading.1 soil)
  | none => false

/-- The actuator is stuck with this tick. -/
def stuck (cfg : Sensing) (prev : Commands) (observed : Observed) (s : HealthState)
    (id : ActuatorId) : Bool :=
  decide (cfg.noResponseWindowTicks ≤ s.stuckCount cfg prev observed id)

variable {cfg : Sensing} {prev : Commands} {observed : Observed}

/-- Whether a valve is flat depends on what is kept for its own zone. -/
theorem flat_congr {s s' : HealthState} {r : Slug × Option F64}
    (hticks : s'.valveFlatTicks.getD r.1 0 = s.valveFlatTicks.getD r.1 0)
    (hsoil : s'.valveLastSoil[r.1]? = s.valveLastSoil[r.1]?) :
    flat cfg prev s' r = flat cfg prev s r := by
  obtain ⟨z, _ | soil⟩ := r
  · rfl
  · have hrose : s'.soilRose z soil = s.soilRose z soil := by
      unfold soilRose
      rw [hsoil]
    simp only [flat, valveFlatCount, hrose, hticks]

theorem monitorStuck_eq (m : Monitored) (id : ActuatorId) :
    monitorStuck cfg prev observed m id =
      let m' := { m with state := { m.state with
        stuckTicks := m.state.stuckTicks.insert id (m.state.stuckCount cfg prev observed id) } }
      if stuck cfg prev observed m.state id then m'.disable id (stuckFault id) else m' := by
  simp only [monitorStuck, stuck, decide_eq_true_eq]
  rfl

/-- One stuck check. -/
theorem monitorStuck_spec (m : Monitored) (id : ActuatorId) :
    (monitorStuck cfg prev observed m id).faults =
        m.faults ++ (if stuck cfg prev observed m.state id then [stuckFault id] else []) ∧
      (monitorStuck cfg prev observed m id).state.valveFlatTicks = m.state.valveFlatTicks ∧
      (monitorStuck cfg prev observed m id).state.valveLastSoil = m.state.valveLastSoil := by
  rw [monitorStuck_eq]
  dsimp only
  split
  · exact ⟨rfl, rfl, rfl⟩
  · exact ⟨(List.append_nil _).symm, rfl, rfl⟩

/-- The stuck checks over distinct actuators raise one fault for each that is stuck. -/
theorem foldl_monitorStuck_spec {l : List ActuatorId} :
    ∀ {m : Monitored}, l.Nodup →
      (l.foldl (monitorStuck cfg prev observed) m).faults =
          m.faults ++ (l.filter (stuck cfg prev observed m.state)).map stuckFault ∧
        (l.foldl (monitorStuck cfg prev observed) m).state.valveFlatTicks =
          m.state.valveFlatTicks ∧
        (l.foldl (monitorStuck cfg prev observed) m).state.valveLastSoil =
          m.state.valveLastSoil := by
  induction l with
  | nil => exact fun _ => ⟨(List.append_nil _).symm, rfl, rfl⟩
  | cons i l ih =>
    intro m hl
    obtain ⟨hi, hl⟩ := List.nodup_cons.1 hl
    obtain ⟨hfaults, hflat, hsoil⟩ := @monitorStuck_spec cfg prev observed m i
    obtain ⟨ihfaults, ihflat, ihsoil⟩ := @ih (monitorStuck cfg prev observed m i) hl
    have hfilter : l.filter (stuck cfg prev observed (monitorStuck cfg prev observed m i).state) =
        l.filter (stuck cfg prev observed m.state) := by
      refine List.filter_congr fun id hid => ?_
      have hne : i ≠ id := fun heq => hi (heq ▸ hid)
      rw [stuck, stuck, stuckCount_monitorStuck hne]
    refine ⟨?_, ihflat.trans hflat, ihsoil.trans hsoil⟩
    rw [List.foldl_cons, ihfaults, hfaults, hfilter, List.append_assoc, List.filter_cons]
    split <;> rfl

theorem monitorValve_eq (m : Monitored) (zone : Slug) (soil : F64) :
    monitorValve cfg prev m (zone, some soil) =
      let m' := { m with state := { m.state with
        valveLastSoil := m.state.valveLastSoil.insert zone soil
        valveFlatTicks := m.state.valveFlatTicks.insert zone
          (m.state.valveFlatCount prev zone soil) } }
      if flat cfg prev m.state (zone, some soil) then m'.disable (.valve zone) (flatFault zone)
      else m' := by
  simp only [monitorValve, flat, decide_eq_true_eq]
  rfl

/-- One no-response check of a valve. -/
theorem monitorValve_spec (m : Monitored) (reading : Slug × Option F64) :
    (monitorValve cfg prev m reading).faults =
        m.faults ++ (if flat cfg prev m.state reading then [flatFault reading.1] else []) ∧
      (∀ id, id ∈ (monitorValve cfg prev m reading).state.disabled ↔
        id ∈ m.state.disabled ∨ (flat cfg prev m.state reading = true ∧ id = .valve reading.1)) ∧
      ∀ other, other.1 ≠ reading.1 →
        flat cfg prev (monitorValve cfg prev m reading).state other =
          flat cfg prev m.state other := by
  obtain ⟨zone, _ | soil⟩ := reading
  · refine ⟨(List.append_nil _).symm, fun id => by simp [monitorValve, flat], fun other hne => ?_⟩
    refine flat_congr ?_ rfl
    exact TreeMap.getD_insert.trans (if_neg fun heq => hne (LawfulEqOrd.eq_of_compare heq).symm)
  · have hcount : ∀ other : Slug × Option F64, other.1 ≠ zone →
        ∀ m' : Monitored,
          m'.state.valveFlatTicks = m.state.valveFlatTicks.insert zone
            (m.state.valveFlatCount prev zone soil) →
          m'.state.valveLastSoil = m.state.valveLastSoil.insert zone soil →
          flat cfg prev m'.state other = flat cfg prev m.state other := by
      intro other hne m' hticks hsoil
      have hneq : ¬ compare zone other.1 = .eq := fun heq =>
        hne (LawfulEqOrd.eq_of_compare heq).symm
      refine flat_congr ?_ ?_
      · rw [hticks, TreeMap.getD_insert, if_neg hneq]
      · rw [hsoil, TreeMap.getElem?_insert, if_neg hneq]
    rw [monitorValve_eq]
    dsimp only
    split
    case isTrue hflat =>
      refine ⟨rfl, fun id => ?_, fun other hne => hcount other hne _ rfl rfl⟩
      rw [mem_disable, eq_comm, or_comm]
      simp [hflat]
    case isFalse hflat =>
      refine ⟨(List.append_nil _).symm, fun id => ?_, fun other hne => hcount other hne _ rfl rfl⟩
      simp [hflat]

/-- The no-response checks over distinct zones raise one fault for each flat valve, in its
zone, and disable that valve. -/
theorem foldl_monitorValve_spec {l : List (Slug × Option F64)} :
    ∀ {m : Monitored}, (l.map Prod.fst).Nodup →
      (l.foldl (monitorValve cfg prev) m).faults =
          m.faults ++ (l.filter (flat cfg prev m.state)).map (fun r => flatFault r.1) ∧
        ∀ id, id ∈ (l.foldl (monitorValve cfg prev) m).state.disabled ↔
          id ∈ m.state.disabled ∨ ∃ r ∈ l, flat cfg prev m.state r = true ∧ id = .valve r.1 := by
  induction l with
  | nil => exact fun _ => ⟨(List.append_nil _).symm, by simp⟩
  | cons r l ih =>
    intro m hl
    obtain ⟨hr, hl⟩ := List.nodup_cons.1 hl
    obtain ⟨hfaults, hdisabled, hother⟩ := @monitorValve_spec cfg prev m r
    obtain ⟨ihfaults, ihdisabled⟩ := @ih (monitorValve cfg prev m r) hl
    have hsame : ∀ q ∈ l, flat cfg prev (monitorValve cfg prev m r).state q =
        flat cfg prev m.state q := by
      intro q hq
      exact hother q fun heq => hr (heq ▸ List.mem_map_of_mem hq)
    constructor
    · rw [List.foldl_cons, ihfaults, hfaults, List.filter_congr hsame, List.append_assoc,
        List.filter_cons]
      split <;> rfl
    · intro id
      have hrest : (∃ q ∈ l, flat cfg prev (monitorValve cfg prev m r).state q = true ∧
          id = .valve q.1) ↔ ∃ q ∈ l, flat cfg prev m.state q = true ∧ id = .valve q.1 :=
        exists_congr fun q => and_congr_right fun hq => by rw [hsame q hq]
      rw [List.foldl_cons, ihdisabled, hdisabled, hrest, List.exists_mem_cons_iff, or_assoc]

/-- One check of a push actuator concerns the house only. -/
theorem monitorHouse_spec (m : Monitored) (desc : HouseNoResponse) :
    (∃ fs, (monitorHouse cfg prev m desc).faults = m.faults ++ fs ∧ ∀ f ∈ fs, f.Unresponsive) ∧
      ∀ z, .valve z ∈ (monitorHouse cfg prev m desc).state.disabled ↔
        .valve z ∈ m.state.disabled := by
  have hkept : ∃ fs, m.faults = m.faults ++ fs ∧ ∀ f ∈ fs, f.Unresponsive :=
    ⟨[], (List.append_nil _).symm, by simp⟩
  unfold monitorHouse
  dsimp only
  split
  · split
    · split
      · exact ⟨hkept, fun z => Iff.rfl⟩
      · split
        · exact ⟨hkept, fun z => Iff.rfl⟩
        · split
          · refine ⟨⟨_, rfl, fun f hf => ?_⟩, fun z => ?_⟩
            · rw [List.mem_singleton.1 hf]
              exact ⟨rfl, rfl⟩
            · rw [mem_disable]
              simp
          · exact ⟨hkept, fun z => Iff.rfl⟩
    · exact ⟨hkept, fun z => Iff.rfl⟩
  · exact ⟨hkept, fun z => Iff.rfl⟩

theorem foldl_monitorHouse_spec {l : List HouseNoResponse} :
    ∀ {m : Monitored},
      (∃ fs, (l.foldl (monitorHouse cfg prev) m).faults = m.faults ++ fs ∧
          ∀ f ∈ fs, f.Unresponsive) ∧
        ∀ z, .valve z ∈ (l.foldl (monitorHouse cfg prev) m).state.disabled ↔
          .valve z ∈ m.state.disabled := by
  induction l with
  | nil => exact fun {m} => ⟨⟨[], (List.append_nil _).symm, by simp⟩, fun z => Iff.rfl⟩
  | cons desc l ih =>
    intro m
    obtain ⟨⟨fs, hfs, hhouse⟩, hvalve⟩ := @monitorHouse_spec cfg prev m desc
    obtain ⟨⟨gs, hgs, hhouse'⟩, hvalve'⟩ := @ih (monitorHouse cfg prev m desc)
    refine ⟨⟨fs ++ gs, ?_, fun f hf => ?_⟩, fun z => (hvalve' z).trans (hvalve z)⟩
    · rw [List.foldl_cons, hgs, hfs, List.append_assoc]
    · exact (List.mem_append.1 hf).elim (hhouse f) (hhouse' f)

variable {s : HealthState} {trusted : TrustedState} {resolved : ResolvedSetpoints}

/-- **The faults of the monitor**: one for each stuck actuator, one in the zone of each flat
valve, and faults of unresponsive devices of the house. -/
theorem monitor_faults :
    ∃ fs, (s.monitor (some prev) observed trusted resolved cfg).2 =
        (observed.ids.filter (stuck cfg prev observed s)).map stuckFault ++
          (trusted.soilMoisture.toList.filter (flat cfg prev s)).map (fun r => flatFault r.1) ++
            fs ∧
      ∀ f ∈ fs, f.Unresponsive := by
  have hkeys : (trusted.soilMoisture.toList.map Prod.fst).Nodup := by
    rw [TreeMap.map_fst_toList_eq_keys]
    exact trusted.soilMoisture.nodup_keys
  obtain ⟨hstuck, hflat, hsoil⟩ :=
    @foldl_monitorStuck_spec cfg prev observed _ ⟨{ s with disabled := ∅ }, []⟩ observed.nodup_ids
  obtain ⟨hvalves, -⟩ := @foldl_monitorValve_spec cfg prev _
    (observed.ids.foldl (monitorStuck cfg prev observed) ⟨{ s with disabled := ∅ }, []⟩) hkeys
  obtain ⟨⟨fs, hfs, hhouse⟩, -⟩ := @foldl_monitorHouse_spec cfg prev
    (houseNoResponses trusted resolved) (trusted.soilMoisture.toList.foldl (monitorValve cfg prev)
      (observed.ids.foldl (monitorStuck cfg prev observed) ⟨{ s with disabled := ∅ }, []⟩))
  refine ⟨fs, ?_, hhouse⟩
  have hsame : flat cfg prev (observed.ids.foldl (monitorStuck cfg prev observed)
      ⟨{ s with disabled := ∅ }, []⟩).state = flat cfg prev s := by
    funext r
    exact flat_congr (by rw [hflat]) (by rw [hsoil])
  rw [hsame] at hvalves
  simp only [monitor]
  rw [hfs, hvalves, hstuck]
  rfl

/-- **When a valve is disabled**: it is stuck, or flat. -/
theorem mem_disabled_valve {z : Slug} :
    .valve z ∈ (s.monitor (some prev) observed trusted resolved cfg).1.disabled ↔
      (.valve z ∈ observed.ids ∧ stuck cfg prev observed s (.valve z) = true) ∨
        ∃ soil, trusted.soilMoisture[z]? = some soil ∧ flat cfg prev s (z, soil) = true := by
  have hkeys : (trusted.soilMoisture.toList.map Prod.fst).Nodup := by
    rw [TreeMap.map_fst_toList_eq_keys]
    exact trusted.soilMoisture.nodup_keys
  obtain ⟨-, hflat, hsoil⟩ :=
    @foldl_monitorStuck_spec cfg prev observed _ ⟨{ s with disabled := ∅ }, []⟩ observed.nodup_ids
  have hsame : flat cfg prev (observed.ids.foldl (monitorStuck cfg prev observed)
      ⟨{ s with disabled := ∅ }, []⟩).state = flat cfg prev s := by
    funext r
    exact flat_congr (by rw [hflat]) (by rw [hsoil])
  simp only [monitor]
  rw [foldl_monitorHouse_spec.2, (foldl_monitorValve_spec hkeys).2, hsame,
    mem_disabled_foldl_monitorStuck observed.nodup_ids]
  refine or_congr ?_ ?_
  · rw [stuck, decide_eq_true_iff]
    simp [stuckCount]
  · constructor
    · rintro ⟨⟨y, soil⟩, hmem, hflat, heq⟩
      obtain rfl := ActuatorId.valve.inj heq
      exact ⟨soil, TreeMap.mem_toList_iff_getElem?_eq_some.1 hmem, hflat⟩
    · rintro ⟨soil, hget, hflat⟩
      exact ⟨(z, soil), TreeMap.mem_toList_iff_getElem?_eq_some.2 hget, hflat, rfl⟩

end HealthState

/-! ## The loops and the interlocks -/

/-- The temperature loop raises no fault but that its setpoint is not reached. -/
theorem TemperatureLoop.run_unreachable {l l' : TemperatureLoop} {trusted : TrustedState}
    {resolved : ResolvedSetpoints} {cfg : Config} {cmd cmd' : Commands} {faults : List Fault}
    (h : l.run trusted resolved cfg cmd = some (l', cmd', faults)) :
    ∀ f ∈ faults, f.zoneId = none ∧ f.faultType = .setpointUnreachable := by
  obtain ⟨⟨l₁, heater, cooling, fs⟩, hcompute, h⟩ := Option.bind_eq_some_iff.1 h
  cases h
  have hnote : ∀ (l : TemperatureLoop) (b : Bool), ∀ f ∈ (l.noteSaturation b cfg).2,
      f.zoneId = none ∧ f.faultType = .setpointUnreachable := by
    intro l b f hf
    unfold noteSaturation at hf
    split at hf
    · dsimp only at hf
      split at hf
      · rw [List.mem_singleton.1 hf]
        exact ⟨rfl, rfl⟩
      · cases hf
    · cases hf
  unfold compute at hcompute
  split at hcompute
  · cases hcompute
    simp
  · obtain ⟨⟨pid, output⟩, -, hcompute⟩ := Option.bind_eq_some_iff.1 hcompute
    dsimp only at hcompute
    split at hcompute
    · cases hcompute
      exact hnote _ _
    · cases hcompute
      exact hnote _ _

theorem ControlState.run_unreachable [Libm] {s : ControlState} {trusted : TrustedState}
    {resolved : ResolvedSetpoints} {config : Config} {clock : Clock} {out : ControlOutput}
    (h : s.run trusted resolved config clock = some out) :
    ∀ f ∈ out.faults, f.zoneId = none ∧ f.faultType = .setpointUnreachable := by
  obtain ⟨⟨temperature, cmd₁, faults⟩, htemp, h⟩ := Option.bind_eq_some_iff.1 h
  obtain ⟨⟨lighting, cmd₂⟩, -, h⟩ := Option.bind_eq_some_iff.1 h
  cases h
  exact TemperatureLoop.run_unreachable htemp

theorem ControlState.run_faults [Libm] {s : ControlState} {trusted : TrustedState}
    {resolved : ResolvedSetpoints} {config : Config} {clock : Clock} {out : ControlOutput}
    (h : s.run trusted resolved config clock = some out) : ∀ f ∈ out.faults, f.OfHouse := by
  intro f hf
  obtain ⟨hzone, htype⟩ := run_unreachable h f hf
  refine ⟨hzone, ?_⟩
  rw [htype]
  exact FaultType.noConfusion

namespace InterlockState

/-- The critical-temperature interlock raises its own fault only, and only with a temperature. -/
theorem applyTemperature_faults (latch : Latch) (t : Option F64) (cfg : Config) (clock : Clock)
    (f₀ : Forcing) : ∀ f ∈ (applyTemperature latch t cfg clock f₀).2.2,
      t ≠ none ∧ f.zoneId = none ∧ f.faultType = .criticalTemperature := by
  intro f hf
  unfold applyTemperature at hf
  split at hf
  · dsimp only at hf
    split at hf
    · rw [List.mem_singleton.1 hf]
      exact ⟨Option.some_ne_none _, rfl, rfl⟩
    · cases hf
  · cases hf

/-- The CO₂-ceiling interlock raises its own fault only, and does so when it has a reading and its
latch is asserted. -/
theorem applyCo2_faults (latch : Latch) (c : Option F64) (cfg : Config) (clock : Clock)
    (f₀ : Forcing) : (∀ f ∈ (applyCo2 latch c cfg clock f₀).2.2,
      f.zoneId = none ∧ f.faultType = .co2Ceiling) ∧
    ((∃ f, f ∈ (applyCo2 latch c cfg clock f₀).2.2) ↔
      c ≠ none ∧ (applyCo2 latch c cfg clock f₀).1.asserted = true) := by
  unfold applyCo2
  split
  · dsimp only
    split
    case isTrue h => simp [h]
    case isFalse h => simp [h]
  · simp

theorem apply_faults {s : InterlockState} {trusted : TrustedState} {cfg : Config}
    {clock : Clock} {cmd : Commands} : ∀ f ∈ (s.apply trusted cfg clock cmd).2.2, f.OfHouse := by
  intro f hf
  rcases List.mem_append.1 hf with hf | hf
  · obtain ⟨-, hzone, htype⟩ := applyTemperature_faults _ _ _ _ _ f hf
    refine ⟨hzone, ?_⟩
    rw [htype]
    exact FaultType.noConfusion
  · obtain ⟨hzone, htype⟩ := (applyCo2_faults _ _ _ _ _).1 f hf
    refine ⟨hzone, ?_⟩
    rw [htype]
    exact FaultType.noConfusion

end InterlockState

/-! ## The fault list of a tick -/

namespace Pipeline

variable {H : Type} [Hal H]

/-- The actuators that are stuck with this tick, by the readback before it. -/
def stuckIds (p : Pipeline H) : List ActuatorId :=
  match p.prevCommanded with
  | some prev => (Hal.observed p.hal).ids.filter
      (HealthState.stuck p.config.sensing prev (Hal.observed p.hal) p.health)
  | none => []

/-- The valve of a zone is flat with this tick. -/
def flatValve [Libm] (p : Pipeline H) (z : Slug) : Prop :=
  ∃ prev ∈ p.prevCommanded, ∃ soil, p.trusted.soilMoisture[z]? = some soil ∧
    HealthState.flat p.config.sensing prev p.health (z, soil) = true

variable [Libm] {p p' : Pipeline H} {snap : Snapshot} {loops : ControlOutput}

/-- The faults of the health monitor on a tick. -/
theorem monitored_faults (p : Pipeline H) (resolved : ResolvedSetpoints) :
    ∃ (flats : List Slug) (fs : List Fault), (p.monitored resolved).2 = 
        p.stuckIds.map stuckFault ++ flats.map flatFault ++ fs ∧
      (∀ z, z ∈ flats ↔ p.flatValve z) ∧ ∀ f ∈ fs, f.Unresponsive := by
  unfold monitored stuckIds flatValve
  cases p.prevCommanded with
  | none => exact ⟨[], [], rfl, by simp, by simp⟩
  | some prev =>
    obtain ⟨fs, hfs, hhouse⟩ := @HealthState.monitor_faults p.config.sensing prev
      (Hal.observed p.hal) p.health p.trusted resolved
    refine ⟨(p.trusted.soilMoisture.toList.filter
      (HealthState.flat p.config.sensing prev p.health)).map Prod.fst, fs, ?_, fun z => ?_, hhouse⟩
    · rw [hfs, List.map_map]
      rfl
    · simp only [List.mem_map, List.mem_filter, Option.mem_def, Option.some.injEq,
        exists_eq_left', Prod.exists, exists_and_right, exists_eq_right,
        TreeMap.mem_toList_iff_getElem?_eq_some]

theorem mem_disabled_valve (p : Pipeline H) (resolved : ResolvedSetpoints) (z : Slug) :
    .valve z ∈ (p.monitored resolved).1.disabled ↔ .valve z ∈ p.stuckIds ∨ p.flatValve z := by
  unfold monitored stuckIds flatValve
  cases p.prevCommanded with
  | none => simp [HealthState.monitor]
  | some prev =>
    rw [HealthState.mem_disabled_valve, List.mem_filter]
    simp

namespace Advanced

/-- **The stuck faults of a tick are those of the actuators that are stuck**, in order. -/
theorem stuck_faults (h : Advanced p p' snap loops) :
    snap.faults.filter (·.faultType = .actuatorStuck) = p.stuckIds.map stuckFault := by
  have hnone : ∀ fs : List Fault, (∀ f ∈ fs, f.faultType ≠ .actuatorStuck) →
      fs.filter (·.faultType = .actuatorStuck) = [] := by
    intro fs hfs
    exact List.filter_eq_nil_iff.2 fun f hf => by simpa using hfs f hf
  obtain ⟨flats, fs, hmonitored, -, hhouse⟩ := p.monitored_faults snap.resolved
  have hall : (p.stuckIds.map stuckFault).filter (·.faultType = .actuatorStuck) =
      p.stuckIds.map stuckFault := by
    refine List.filter_eq_self.2 fun f hf => ?_
    obtain ⟨id, -, rfl⟩ := List.mem_map.1 hf
    rfl
  have hflats : (flats.map flatFault).filter (·.faultType = .actuatorStuck) = [] := by
    refine hnone _ fun f hf => ?_
    obtain ⟨z, -, rfl⟩ := List.mem_map.1 hf
    simp [flatFault]
  have hsensed := hnone p.conditioned.2.2
    (SensingState.condition_faults p.sensing (Hal.read p.hal) p.config.sensing).1
  rw [h.faults, hmonitored]
  simp only [List.filter_append, hall, hflats, hsensed,
    hnone fs fun f hf => (hhouse f hf).ofHouse.2,
    hnone loops.faults fun f hf => (ControlState.run_faults h.run f hf).2,
    hnone (p.locked loops).2.2 fun f hf => (InterlockState.apply_faults f hf).2,
    List.append_nil, List.nil_append]

/-- **When a tick has a fault in a zone**: its soil moisture is not trusted, or its valve is
flat. -/
theorem zone_fault_iff (h : Advanced p p' snap loops) (z : Slug) :
    (∃ f ∈ snap.faults, f.zoneId = some z) ↔
      snap.trusted.soilMoisture[z]? = some none ∨ p.flatValve z := by
  have hnone : ∀ fs : List Fault, (∀ f ∈ fs, f.OfHouse) → ¬ ∃ f ∈ fs, f.zoneId = some z := by
    rintro fs hfs ⟨f, hf, hz⟩
    exact Option.some_ne_none z (hz.symm.trans (hfs f hf).1)
  obtain ⟨flats, fs, hmonitored, hflat, hhouse⟩ := p.monitored_faults snap.resolved
  have hstuck : ¬ ∃ f ∈ p.stuckIds.map stuckFault, f.zoneId = some z := by
    rintro ⟨f, hf, hz⟩
    obtain ⟨id, -, rfl⟩ := List.mem_map.1 hf
    cases hz
  have hflats : (∃ f ∈ flats.map flatFault, f.zoneId = some z) ↔ p.flatValve z := by
    rw [← hflat]
    constructor
    · rintro ⟨f, hf, hz⟩
      obtain ⟨y, hy, rfl⟩ := List.mem_map.1 hf
      rwa [← Option.some.inj hz]
    · intro hz
      exact ⟨flatFault z, List.mem_map_of_mem hz, rfl⟩
  have hsensed := (SensingState.condition_faults p.sensing (Hal.read p.hal) p.config.sensing).2 z
  have hfs := hnone fs fun f hf => (hhouse f hf).ofHouse
  have hloops := hnone loops.faults (ControlState.run_faults h.run)
  have hlocked := hnone (p.locked loops).2.2 InterlockState.apply_faults
  rw [h.faults, hmonitored, h.trusted]
  simp only [List.mem_append, or_and_right, exists_or, hstuck, hflats, hfs, hloops,
    hlocked, or_false, false_or]
  exact or_congr_left hsensed

end Advanced

end Pipeline

end Greenhouse.Controller
