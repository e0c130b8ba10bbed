import Mathlib.Data.List.Nodup
import Greenhouse.Controller.Domain

/-!
# The hardware seam

`Commands` are actuator levels by address, kept in `[0, 100]` by `set`; `Hal` is the
interface the pipeline drives. Everything about a backend is a parameter: a result
over every `[Hal H]` holds whatever the sensors read and whatever the actuators report.

* `get_set_self`, `get_set_of_ne`: reading back a command.
* `mem_ids_set`, `nodup_ids`: the addresses of a command.
-/

namespace Greenhouse.Controller

open Greenhouse.Numeric Std

/-- The seven house-level actuators in canonical order. -/
def houseActuators : List Actuator :=
  [.heater, .fans, .roofVents, .misters, .co2Injector, .growLights, .shadeScreen]

/-- Raw sensor readings, before fusion and fault detection. -/
structure RawReadings where
  temperatureProbes : List F64
  humidityPct : F64
  co2Ppm : F64
  par : F64
  soilMoisture : TreeMap Slug F64

/-- Actuator levels between `0` and `100`. -/
structure Commands where
  house : TreeMap Actuator F64
  valves : TreeMap Slug F64

namespace Commands

/-- All actuators off, with a valve for each of the zones. -/
def allOff (zoneIds : List Slug) : Commands where
  house := houseActuators.foldl (fun m a => m.insert a 0) ∅
  valves := zoneIds.foldl (fun m z => m.insert z 0) ∅

/-- The level commanded for an address, `0` if there is none. -/
def get (c : Commands) : ActuatorId → F64
  | .house a => c.house.getD a 0
  | .valve z => c.valves.getD z 0

/-- Set a level, clamped to `[0, 100]`. -/
def set (c : Commands) (id : ActuatorId) (level : F64) : Commands :=
  match id with
  | .house a => { c with house := c.house.insert a level.clampPct }
  | .valve z => { c with valves := c.valves.insert z level.clampPct }

/-- Every address, the house actuators first. -/
def ids (c : Commands) : List ActuatorId :=
  c.house.keys.map .house ++ c.valves.keys.map .valve

@[simp] theorem get_set_self (c : Commands) (id : ActuatorId) (level : F64) :
    (c.set id level).get id = level.clampPct := by
  cases id <;> simp only [set, get, TreeMap.getD_insert_self]

theorem get_set (c : Commands) (id i : ActuatorId) (level : F64) :
    (c.set id level).get i = if id = i then level.clampPct else c.get i := by
  cases id <;> cases i <;> simp [set, get, TreeMap.getD_insert]

theorem get_set_of_ne {c : Commands} {id i : ActuatorId} {level : F64} (h : id ≠ i) :
    (c.set id level).get i = c.get i := by
  rw [get_set, if_neg h]

theorem mem_ids_house {c : Commands} {a : Actuator} : .house a ∈ c.ids ↔ a ∈ c.house := by
  simp [ids, TreeMap.mem_keys]

theorem mem_ids_valve {c : Commands} {z : Slug} : .valve z ∈ c.ids ↔ z ∈ c.valves := by
  simp [ids, TreeMap.mem_keys]

theorem mem_ids_set {c : Commands} {id i : ActuatorId} {level : F64} :
    i ∈ (c.set id level).ids ↔ id = i ∨ i ∈ c.ids := by
  cases id <;> cases i <;>
    simp [mem_ids_house, mem_ids_valve, set, TreeMap.mem_insert]

theorem valve_mem_ids_allOff {zoneIds : List Slug} {z : Slug} :
    .valve z ∈ (allOff zoneIds).ids ↔ z ∈ zoneIds := by
  have step : ∀ (l : List Slug) (m : TreeMap Slug F64),
      z ∈ l.foldl (fun m z => m.insert z 0) m ↔ z ∈ l ∨ z ∈ m := by
    intro l
    induction l with
    | nil => simp
    | cons y l ih =>
      intro m
      rw [List.foldl_cons, ih, TreeMap.mem_insert, LawfulEqOrd.compare_eq_iff_eq, List.mem_cons,
        eq_comm (a := y), or_left_comm, or_assoc]
  rw [mem_ids_valve, allOff, step]
  simp [TreeMap.not_mem_emptyc]

/-- Everything of `allOff` is at `0`. -/
theorem get_allOff (zoneIds : List Slug) (id : ActuatorId) : (allOff zoneIds).get id = 0 := by
  cases id with
  | house a => cases a <;> rfl
  | valve z =>
    change (zoneIds.foldl (fun m z => m.insert z 0) ∅ : TreeMap Slug F64).getD z 0 = 0
    refine List.foldlRecOn zoneIds _ (motive := fun m : TreeMap Slug F64 => m.getD z 0 = 0)
      TreeMap.getD_emptyc fun m hm y _ => ?_
    rw [TreeMap.getD_insert]
    split
    · rfl
    · exact hm

theorem nodup_ids (c : Commands) : c.ids.Nodup := by
  have hhouse : c.house.keys.Nodup := c.house.distinct_keys.imp fun h heq => by
    subst heq
    exact h ReflCmp.compare_self
  have hvalves : c.valves.keys.Nodup := c.valves.distinct_keys.imp fun h heq => by
    subst heq
    exact h ReflCmp.compare_self
  refine List.Nodup.append (hhouse.map fun _ _ h => ActuatorId.house.inj h)
    (hvalves.map fun _ _ h => ActuatorId.valve.inj h) fun i hi hi' => ?_
  obtain ⟨a, -, rfl⟩ := List.mem_map.1 hi
  obtain ⟨z, -, hz⟩ := List.mem_map.1 hi'
  cases hz

end Commands

/-- What the actuators report they are doing. -/
abbrev Observed := Commands

/-- A backend: read the sensors, command the actuators, read back the actuators, and
advance the plant by a tick. -/
class Hal (H : Type) where
  read : H → RawReadings
  command : H → Commands → H
  observed : H → Observed
  step : H → Clock → H

end Greenhouse.Controller
