import Greenhouse.Controller.Loops

/-!
# Actuator health

The output-side fault detector: it compares the command of the previous tick with the
readback of this one and disables an actuator that is stuck, or that is obeyed without
effect. Bidirectional actuators (fans, roof vents) can only be disabled as stuck:
`mem_disabled_monitor` says exactly when.
-/

namespace Greenhouse.Controller

open Greenhouse.Numeric Std

/-- A house actuator counts as commanded on from this level. -/
def houseOnThreshold : F64 := 50

/-- Across-tick health state; `disabled` is rebuilt each tick. -/
structure HealthState where
  stuckTicks : TreeMap ActuatorId Nat := ∅
  valveFlatTicks : TreeMap Slug Nat := ∅
  valveLastSoil : TreeMap Slug F64 := ∅
  houseNoRespTicks : TreeMap Actuator Nat := ∅
  houseNoRespBaseline : TreeMap Actuator F64 := ∅
  disabled : TreeSet ActuatorId := ∅

/-- Component label of a fault. -/
def componentName : ActuatorId → String
  | .house a => a.wireName
  | .valve _ => "irrigation_valve"

/-- The least change that counts as a response of the driven variable. -/
def noResponseMargin : Actuator → F64
  | .heater => 0.2
  | .misters => 1
  | .co2Injector => 10
  | .growLights => 10
  | _ => 0

/-- Label of the variable a push actuator drives. -/
def drivenVariable : Actuator → String
  | .heater => "air temperature"
  | .misters => "humidity"
  | .co2Injector => "CO₂"
  | .growLights => "PAR"
  | _ => "its driven variable"

/-- One push actuator on one tick: the trusted value of its variable, whether a response is
expected, and whether the variable rests on a floor. -/
structure HouseNoResponse where
  actuator : Actuator
  value : Option F64
  expected : Option Bool
  floored : Bool

def houseNoResponses (trusted : TrustedState) (resolved : ResolvedSetpoints) :
    List HouseNoResponse :=
  [⟨.heater, trusted.temperature, trusted.temperature.map (· < resolved.temperatureC), false⟩,
    ⟨.misters, trusted.humidity,
      trusted.humidity.map (· < resolved.humidityTargetPct.getD resolved.humidityLowPct), false⟩,
    ⟨.co2Injector, trusted.co2, trusted.co2.map (· < resolved.co2TargetPpm), false⟩,
    ⟨.growLights, trusted.par, trusted.par.map fun _ => true, true⟩]

namespace HealthState

/-- The state on its way through a tick, with the faults raised so far. -/
structure Monitored where
  state : HealthState
  faults : List Fault

def Monitored.disable (m : Monitored) (id : ActuatorId) (fault : Fault) : Monitored where
  state := { m.state with disabled := m.state.disabled.insert id }
  faults := m.faults ++ [fault]

/-- The readback diverges from the previous command beyond the tolerance. -/
def diverged (cfg : Sensing) (prev : Commands) (observed : Observed) (id : ActuatorId) : Bool :=
  cfg.commandedVsObservedTol < (observed.get id - prev.get id).abs

/-- The consecutive ticks of divergence, this one included. -/
def stuckCount (s : HealthState) (cfg : Sensing) (prev : Commands) (observed : Observed)
    (id : ActuatorId) : Nat :=
  if diverged cfg prev observed id then s.stuckTicks.getD id 0 + 1 else 0

/-- Stuck detection for one actuator. -/
def monitorStuck (cfg : Sensing) (prev : Commands) (observed : Observed) (m : Monitored)
    (id : ActuatorId) : Monitored :=
  let count := m.state.stuckCount cfg prev observed id
  let m := { m with state := { m.state with stuckTicks := m.state.stuckTicks.insert id count } }
  if cfg.noResponseWindowTicks ≤ count then
    m.disable id {
      component := componentName id, faultType := .actuatorStuck, severity := .alarm
      message := componentName id ++ " observed state diverges from command"
      response := "disabled the actuator" }
  else m

/-- The soil reading is above the previous one; the first reading of a zone is not. -/
def soilRose (s : HealthState) (zone : Slug) (soil : F64) : Bool :=
  match s.valveLastSoil[zone]? with
  | some last => last + 1e-6 < soil
  | none => false

/-- The consecutive ticks the valve has been open without a rise, this one included. -/
def valveFlatCount (s : HealthState) (prev : Commands) (zone : Slug) (soil : F64) : Nat :=
  if (1 : F64) < prev.get (.valve zone) ∧ ¬ s.soilRose zone soil then
    s.valveFlatTicks.getD zone 0 + 1
  else 0

/-- No-response detection for the valve of one zone: open, but the soil is not rising. -/
def monitorValve (cfg : Sensing) (prev : Commands) (m : Monitored)
    (reading : Slug × Option F64) : Monitored :=
  let (zone, soilOpt) := reading
  match soilOpt with
  | some soil =>
    let count := m.state.valveFlatCount prev zone soil
    let m := { m with state := { m.state with
      valveLastSoil := m.state.valveLastSoil.insert zone soil
      valveFlatTicks := m.state.valveFlatTicks.insert zone count } }
    if cfg.noResponseWindowTicks ≤ count then
      m.disable (.valve zone) {
        component := "irrigation_valve", zoneId := some zone
        faultType := .irrigationNoResponse, severity := .alarm
        message := "valve open but soil moisture not responding"
        response := "disabled this zone's irrigation" }
    else m
  | none =>
    { m with state := { m.state with valveFlatTicks := m.state.valveFlatTicks.insert zone 0 } }

/-- The variable holds (or, above a floor, climbs) against the baseline. -/
def responded (desc : HouseNoResponse) (v baseline : F64) : Bool :=
  let margin := noResponseMargin desc.actuator
  if desc.floored then baseline + margin < v else baseline - margin ≤ v

/-- No-response detection for one push actuator. -/
def monitorHouse (cfg : Sensing) (prev : Commands) (m : Monitored) (desc : HouseNoResponse) :
    Monitored :=
  let a := desc.actuator
  let id := ActuatorId.house a
  let s := m.state
  let eligible := houseOnThreshold ≤ prev.get id ∧ desc.expected = some true
  match desc.value with
  | some v =>
    if eligible then
      match s.houseNoRespBaseline[a]? with
      -- A challenge starts: record the level to beat.
      | none =>
        { m with state := { s with
          houseNoRespBaseline := s.houseNoRespBaseline.insert a v
          houseNoRespTicks := s.houseNoRespTicks.insert a 0 } }
      | some baseline =>
        if responded desc v baseline then
          { m with state := { s with
            houseNoRespBaseline :=
              if ¬ desc.floored ∧ baseline < v then s.houseNoRespBaseline.insert a v
              else s.houseNoRespBaseline
            houseNoRespTicks := s.houseNoRespTicks.insert a 0 } }
        else
          let count := s.houseNoRespTicks.getD a 0 + 1
          let m := { m with state := { s with
            houseNoRespTicks := s.houseNoRespTicks.insert a count } }
          if cfg.noResponseWindowTicks ≤ count then
            m.disable id {
              component := componentName id, faultType := .actuatorNoResponse, severity := .alarm
              message := componentName id ++ " commanded on but " ++ drivenVariable a
                ++ " is not responding"
              response := "disabled the actuator" }
          else m
    else
      { m with state := { s with
        houseNoRespBaseline := s.houseNoRespBaseline.erase a
        houseNoRespTicks := s.houseNoRespTicks.erase a } }
  | none =>
    { m with state := { s with
      houseNoRespBaseline := s.houseNoRespBaseline.erase a
      houseNoRespTicks := s.houseNoRespTicks.erase a } }

/-- Update health from the previous command, this tick's readback and the trusted readings. -/
def monitor (s : HealthState) (prevCommanded : Option Commands) (observed : Observed)
    (trusted : TrustedState) (resolved : ResolvedSetpoints) (cfg : Sensing) :
    HealthState × List Fault :=
  let s := { s with disabled := ∅ }
  match prevCommanded with
  | none => (s, [])
  | some prev =>
    let m := observed.ids.foldl (monitorStuck cfg prev observed) ⟨s, []⟩
    let m := trusted.soilMoisture.toList.foldl (monitorValve cfg prev) m
    let m := (houseNoResponses trusted resolved).foldl (monitorHouse cfg prev) m
    (m.state, m.faults)

/-! ## Who can be disabled -/

/-- No effect of the actuator is judged on this tick: it has none, or its reading is gone. -/
def Unjudged (trusted : TrustedState) (id : ActuatorId) : Prop :=
  (∀ z, id = .valve z → (trusted.soilMoisture[z]?).join = none) ∧
    ∀ resolved, ∀ desc ∈ houseNoResponses trusted resolved,
      id = .house desc.actuator → desc.value = none

/-- The actuators whose climate effect is monitored. -/
def isPush : ActuatorId → Bool
  | .valve _ => true
  | .house .heater => true
  | .house .misters => true
  | .house .co2Injector => true
  | .house .growLights => true
  | .house _ => false

theorem mem_disable {m : Monitored} {id i : ActuatorId} {fault : Fault} :
    i ∈ (m.disable id fault).state.disabled ↔ id = i ∨ i ∈ m.state.disabled := by
  rw [Monitored.disable, TreeSet.mem_insert, LawfulEqOrd.compare_eq_iff_eq]

theorem stuckCount_monitorStuck {cfg : Sensing} {prev : Commands} {observed : Observed}
    {m : Monitored} {id i : ActuatorId} (h : i ≠ id) :
    (monitorStuck cfg prev observed m i).state.stuckCount cfg prev observed id =
      m.state.stuckCount cfg prev observed id := by
  unfold monitorStuck Monitored.disable
  generalize m.state.stuckCount cfg prev observed i = count
  have hget : (m.state.stuckTicks.insert i count).getD id 0 = m.state.stuckTicks.getD id 0 := by
    rw [TreeMap.getD_insert, if_neg fun heq => h (LawfulEqOrd.compare_eq_iff_eq.1 heq)]
  dsimp only
  split <;> simp only [stuckCount, hget]

theorem mem_disabled_monitorStuck {cfg : Sensing} {prev : Commands} {observed : Observed}
    {m : Monitored} {id i : ActuatorId} :
    id ∈ (monitorStuck cfg prev observed m i).state.disabled ↔
      id ∈ m.state.disabled ∨
        (i = id ∧ cfg.noResponseWindowTicks ≤ m.state.stuckCount cfg prev observed id) := by
  unfold monitorStuck
  dsimp only
  split
  case isTrue h =>
    rw [mem_disable]
    constructor
    · rintro (rfl | hm)
      · exact Or.inr ⟨rfl, h⟩
      · exact Or.inl hm
    · rintro (hm | ⟨rfl, -⟩)
      · exact Or.inr hm
      · exact Or.inl rfl
  case isFalse h =>
    constructor
    · exact Or.inl
    · rintro (hm | ⟨rfl, hle⟩)
      · exact hm
      · exact absurd hle h

/-- Stuck detection over distinct actuators judges each of them on its own count. -/
theorem mem_disabled_foldl_monitorStuck {cfg : Sensing} {prev : Commands} {observed : Observed}
    {id : ActuatorId} {l : List ActuatorId} :
    ∀ {m : Monitored}, l.Nodup →
      (id ∈ (l.foldl (monitorStuck cfg prev observed) m).state.disabled ↔
        id ∈ m.state.disabled ∨
          (id ∈ l ∧ cfg.noResponseWindowTicks ≤ m.state.stuckCount cfg prev observed id)) := by
  induction l with
  | nil => simp
  | cons i l ih =>
    intro m hl
    obtain ⟨hi, hl⟩ := List.nodup_cons.1 hl
    rw [List.foldl_cons, ih hl, mem_disabled_monitorStuck]
    by_cases h : i = id
    · subst h
      simp [hi]
    · rw [stuckCount_monitorStuck h]
      simp [h, Ne.symm h]

theorem mem_disabled_monitorValve {cfg : Sensing} {prev : Commands} {m : Monitored}
    {reading : Slug × Option F64} {id : ActuatorId}
    (h : id = .valve reading.1 → reading.2 = none) :
    id ∈ (monitorValve cfg prev m reading).state.disabled ↔ id ∈ m.state.disabled := by
  unfold monitorValve
  dsimp only
  split
  case h_1 soil hsoil =>
    have hne : ActuatorId.valve reading.1 ≠ id := fun heq =>
      Option.some_ne_none soil (hsoil.symm.trans (h heq.symm))
    split
    · rw [mem_disable]
      simp [hne]
    · rfl
  case h_2 => rfl

theorem mem_disabled_monitorHouse {cfg : Sensing} {prev : Commands} {m : Monitored}
    {desc : HouseNoResponse} {id : ActuatorId} (h : id = .house desc.actuator → desc.value = none) :
    id ∈ (monitorHouse cfg prev m desc).state.disabled ↔ id ∈ m.state.disabled := by
  unfold monitorHouse
  dsimp only
  split
  case h_1 v hv =>
    have hne : ActuatorId.house desc.actuator ≠ id := fun heq =>
      Option.some_ne_none v (hv.symm.trans (h heq.symm))
    split
    · split
      · rfl
      · split
        · rfl
        · split
          · rw [mem_disable]
            simp [hne]
          · rfl
    · rfl
  case h_2 => rfl

theorem unjudged_of_not_push {trusted : TrustedState} {id : ActuatorId} (h : isPush id = false) :
    Unjudged trusted id := by
  constructor
  · rintro z rfl
    cases h
  · rintro resolved desc hdesc rfl
    simp only [houseNoResponses, List.mem_cons, List.not_mem_nil, or_false] at hdesc
    rcases hdesc with rfl | rfl | rfl | rfl <;> cases h

theorem unjudged_injector {trusted : TrustedState} (h : trusted.co2 = none) :
    Unjudged trusted (.house .co2Injector) := by
  constructor
  · intro z heq
    cases heq
  · intro resolved desc hdesc heq
    simp only [houseNoResponses, List.mem_cons, List.not_mem_nil, or_false] at hdesc
    rcases hdesc with rfl | rfl | rfl | rfl
    · cases heq
    · cases heq
    · exact h
    · cases heq

theorem unjudged_valve {trusted : TrustedState} {z : Slug}
    (h : (trusted.soilMoisture[z]?).join = none) : Unjudged trusted (.valve z) := by
  constructor
  · intro y heq
    rwa [← ActuatorId.valve.inj heq]
  · intro resolved desc _ heq
    cases heq

/-- **An actuator that is not judged by its effect is disabled exactly when its readback has
diverged for the window.** -/
theorem mem_disabled_monitor {s : HealthState} {prevCommanded : Option Commands}
    {observed : Observed} {trusted : TrustedState} {resolved : ResolvedSetpoints} {cfg : Sensing}
    {id : ActuatorId} (h : Unjudged trusted id) :
    id ∈ (s.monitor prevCommanded observed trusted resolved cfg).1.disabled ↔
      ∃ prev, prevCommanded = some prev ∧ id ∈ observed.ids ∧
        cfg.noResponseWindowTicks ≤ s.stuckCount cfg prev observed id := by
  cases prevCommanded with
  | none => simp [monitor]
  | some prev =>
    have hvalves : ∀ m : Monitored,
        id ∈ (trusted.soilMoisture.toList.foldl (monitorValve cfg prev) m).state.disabled ↔
          id ∈ m.state.disabled := by
      intro m
      refine List.foldlRecOn trusted.soilMoisture.toList (monitorValve cfg prev)
        (motive := fun m' : Monitored => id ∈ m'.state.disabled ↔ id ∈ m.state.disabled)
        Iff.rfl fun m' hm r hr => ?_
      refine (mem_disabled_monitorValve fun heq => ?_).trans hm
      have hjoin := h.1 r.1 heq
      rw [TreeMap.mem_toList_iff_getElem?_eq_some.1 hr] at hjoin
      exact hjoin
    have hhouse : ∀ m : Monitored,
        id ∈ ((houseNoResponses trusted resolved).foldl (monitorHouse cfg prev) m).state.disabled ↔
          id ∈ m.state.disabled := by
      intro m
      refine List.foldlRecOn (houseNoResponses trusted resolved) (monitorHouse cfg prev)
        (motive := fun m' : Monitored => id ∈ m'.state.disabled ↔ id ∈ m.state.disabled)
        Iff.rfl fun m' hm desc hdesc => ?_
      exact (mem_disabled_monitorHouse (h.2 resolved desc hdesc)).trans hm
    simp only [monitor]
    rw [hhouse, hvalves, mem_disabled_foldl_monitorStuck observed.nodup_ids]
    simp [stuckCount]

end HealthState

end Greenhouse.Controller
