import Std.Data.TreeMap.Lemmas
import Greenhouse.Numeric.F64
import Greenhouse.Platform.Store

/-!
# The live fleet view

What the platform holds in memory of every greenhouse: its connectivity, its latest values
and the controller's snapshot. The clock of the platform counts nanoseconds; the timestamp of
a frame is the second it names.

* `Fleet.setActiveFaults`, `Fleet.setSensorFaults`: a state frame replaces the whole set of
  active faults; a fault that was active already keeps the instant it was first seen.
* `Fleet.activeFaults_setActiveFaults`: the keys recorded are those of the frame.
-/

namespace Greenhouse.Platform

open Greenhouse.Numeric Std

/-! ## The entry of a greenhouse -/

/-- A component and the zone it is scoped to, `""` for the house. -/
structure ScopedKey where
  component : String
  zoneId : String
  deriving DecidableEq

namespace ScopedKey

def cmp : ScopedKey → ScopedKey → Ordering := compareLex (compareOn component) (compareOn zoneId)

instance : Ord ScopedKey := ⟨cmp⟩

instance : Std.TransOrd ScopedKey :=
  inferInstanceAs (Std.TransCmp (compareLex (compareOn component) (compareOn zoneId)))

theorem ext {a b : ScopedKey} (h : a.component = b.component) (hz : a.zoneId = b.zoneId) :
    a = b := by
  cases a
  cases b
  cases h
  cases hz
  rfl

instance : Std.LawfulEqOrd ScopedKey where
  compare_self :=
    @Std.ReflCmp.compare_self _ (compareLex (compareOn component) (compareOn zoneId)) _
  eq_of_compare {a b} h := by
    have h' := compareLex_eq_eq.1 h
    exact ext (Std.LawfulEqOrd.eq_of_compare h'.1) (Std.LawfulEqOrd.eq_of_compare h'.2)

end ScopedKey

/-- Identifies the readback health of one actuator. -/
abbrev ActuatorKey := ScopedKey

/-- Identifies one active fault. -/
abbrev FaultKey := ScopedKey

/-- One active sensor fault, and when the platform first saw it. -/
structure SensorFault where
  kind : String
  since : Int
  deriving DecidableEq

/-- One fault of the controller's retained fault set; the instant is filled in when the set is
applied. -/
structure ActiveFault where
  faultType : String
  severity : String
  since : Int := 0
  deriving DecidableEq

/-- The current derived live state of a greenhouse. -/
structure Live where
  status : Connectivity
  timeScale : Option F64
  temperature : Option F64
  humidity : Option F64
  co2 : Option F64
  dli : Option F64
  lastSeen : Option Int

/-- The entry of a greenhouse; `lastSeen` is `none` for the zero time. -/
structure Entry where
  lastSeen : Option Int := none
  timeScale : Option F64 := none
  temperature : Option F64 := none
  humidity : Option F64 := none
  co2 : Option F64 := none
  dli : Option F64 := none
  degraded : Bool := false
  status : Connectivity := .offline
  controllerMode : String := ""
  actuatorHealth : TreeMap ActuatorKey String := ∅
  sensorFaults : TreeMap FaultKey SensorFault := ∅
  activeFaults : TreeMap FaultKey ActiveFault := ∅

/-- A greenhouse's last-observed controller state. -/
structure ControllerSnapshot where
  mode : String
  actuatorHealth : TreeMap ActuatorKey String
  sensorFaults : TreeMap FaultKey SensorFault
  activeFaults : TreeMap FaultKey ActiveFault

namespace Entry

def snapshot (ent : Entry) : Live where
  status := ent.status
  timeScale := ent.timeScale
  temperature := ent.temperature
  humidity := ent.humidity
  co2 := ent.co2
  dli := ent.dli
  lastSeen := ent.lastSeen

def controller (ent : Entry) : ControllerSnapshot where
  mode := ent.controllerMode
  actuatorHealth := ent.actuatorHealth
  sensorFaults := ent.sensorFaults
  activeFaults := ent.activeFaults

end Entry

/-! ## Liveness -/

def minTimeScale : F64 := 0.25

/-- A duration from a number of nanoseconds: the fraction is dropped. -/
def toDuration : F64 → Int
  | .fin q => q.num.tdiv q.den
  | _ => 0

/-- The live view, keyed by greenhouse id; `offlineAfter` is the no-contact horizon at time-scale
one. -/
structure Fleet where
  entries : TreeMap String Entry := ∅
  offlineAfter : Int

namespace Fleet

/-- The entry of a greenhouse, a fresh one if it has none. -/
def ensure (f : Fleet) (id : String) : Entry := f.entries.getD id {}

/-- The view with the entry of a greenhouse replaced. -/
def put (f : Fleet) (id : String) (ent : Entry) : Fleet :=
  { f with entries := f.entries.insert id ent }

/-- The horizon of a greenhouse, stretched for a slow simulated clock. -/
def effectiveOffline (f : Fleet) (ent : Entry) : Int :=
  let scale := match ent.timeScale with
    | some scale => if 0 < scale then scale else 1
    | none => 1
  let scale := if scale < minTimeScale then minTimeScale else scale
  toDuration (.fin f.offlineAfter / scale)

def deriveLocked (f : Fleet) (ent : Entry) (now : Int) : Connectivity :=
  match ent.lastSeen with
  | none => .offline
  | some lastSeen =>
    if f.effectiveOffline ent < now - lastSeen then .offline
    else if ent.degraded then .degraded
    else .online

/-- Recompute the status of an entry and tell whether it changed. -/
def applyLocked (f : Fleet) (id : String) (ent : Entry) (now : Int) : Fleet × Live × Bool :=
  let ent' := { ent with status := f.deriveLocked ent now }
  (f.put id ent', ent'.snapshot, decide (ent'.status ≠ ent.status))

/-- The entry seen at an instant; the clock of an entry does not go back. -/
def seen (ent : Entry) (ts : Int) : Entry :=
  match ent.lastSeen with
  | none => { ent with lastSeen := some ts }
  | some lastSeen => if lastSeen < ts then { ent with lastSeen := some ts } else ent

/-- A message arrived for a greenhouse. -/
def observe (f : Fleet) (id : String) (ts : Int) : Fleet × Live × Bool :=
  f.applyLocked id (seen (f.ensure id) ts) ts

def setDegraded (f : Fleet) (id : String) (degraded : Bool) (ts : Int) : Fleet × Live × Bool :=
  f.applyLocked id { seen (f.ensure id) ts with degraded } ts

/-- Update the simulation time-scale and tell whether it changed. -/
def setTimeScale (f : Fleet) (id : String) (scale : Option F64) : Fleet × Live × Bool :=
  let ent := f.ensure id
  let ent' := { ent with timeScale := scale }
  let changed := match ent.timeScale, scale with
    | none, none => false
    | some a, some b => !a.feq b
    | _, _ => true
  (f.put id ent', ent'.snapshot, changed)

def setTemperature (f : Fleet) (id : String) (temperature : Option F64) : Fleet :=
  f.put id { f.ensure id with temperature }

def setHumidity (f : Fleet) (id : String) (humidity : Option F64) : Fleet :=
  f.put id { f.ensure id with humidity }

def setCO2 (f : Fleet) (id : String) (co2 : Option F64) : Fleet :=
  f.put id { f.ensure id with co2 }

def setDLI (f : Fleet) (id : String) (dli : Option F64) : Fleet :=
  f.put id { f.ensure id with dli }

/-! ## The controller's snapshot -/

def setControllerMode (f : Fleet) (id mode : String) : Fleet :=
  f.put id { f.ensure id with controllerMode := mode }

def setActuatorHealth (f : Fleet) (id actuator zoneId health : String) : Fleet :=
  let ent := f.ensure id
  f.put id { ent with actuatorHealth := ent.actuatorHealth.insert ⟨actuator, zoneId⟩ health }

/-- Replace the active sensor faults. A fault keeps its instant only while it keeps its kind. -/
def setSensorFaults (f : Fleet) (id : String) (faults : TreeMap FaultKey String) (ts : Int) :
    Fleet :=
  let ent := f.ensure id
  let active := faults.map fun key kind =>
    match ent.sensorFaults[key]? with
    | some previous => ⟨kind, if previous.kind = kind then previous.since else ts⟩
    | none => ⟨kind, ts⟩
  f.put id { ent with sensorFaults := active }

/-- The recorded fault is the same as the one reported. -/
def sameFault (previous : Option ActiveFault) (fault : ActiveFault) : Bool :=
  match previous with
  | some previous => previous.faultType == fault.faultType && previous.severity == fault.severity
  | none => false

/-- A reported fault as it is recorded: one that was active already keeps its instant. -/
def stamp (previous : Option ActiveFault) (fault : ActiveFault) (ts : Int) : ActiveFault :=
  match previous with
  | some p => { fault with since := if sameFault previous fault then p.since else ts }
  | none => { fault with since := ts }

/-- Replace the active faults and tell whether one was raised, cleared or changed. -/
def setActiveFaults (f : Fleet) (id : String) (faults : TreeMap FaultKey ActiveFault) (ts : Int) :
    Fleet × Bool :=
  let ent := f.ensure id
  let active := faults.map fun key fault => stamp ent.activeFaults[key]? fault ts
  let changed := ent.activeFaults.size != faults.size ||
    faults.any fun key fault => !sameFault ent.activeFaults[key]? fault
  (f.put id { ent with activeFaults := active }, changed)

/-- The controller's snapshot of a greenhouse. -/
def snapshot (f : Fleet) (id : String) : Option ControllerSnapshot :=
  f.entries[id]?.map Entry.controller

/-- Recompute the status of every greenhouse; the ones that changed are returned. -/
def sweep (f : Fleet) (now : Int) : Fleet × List (String × Live) :=
  let derived (ent : Entry) : Entry := { ent with status := f.deriveLocked ent now }
  ({ f with entries := f.entries.map fun _ ent => derived ent },
    f.entries.toList.filterMap fun (id, ent) =>
      if f.deriveLocked ent now = ent.status then none else some (id, (derived ent).snapshot))

def remove (f : Fleet) (id : String) : Fleet := { f with entries := f.entries.erase id }

/-! ## What an update leaves -/

@[simp] theorem ensure_put (f : Fleet) (id : String) (ent : Entry) :
    (f.put id ent).ensure id = ent :=
  TreeMap.getD_insert_self

@[simp] theorem snapshot_put (f : Fleet) (id : String) (ent : Entry) :
    (f.put id ent).snapshot id = some ent.controller := by
  rw [snapshot, put, TreeMap.getElem?_insert_self]
  rfl

@[simp] theorem stamp_faultType (previous : Option ActiveFault) (fault : ActiveFault) (ts : Int) :
    (stamp previous fault ts).faultType = fault.faultType := by
  cases previous <;> rfl

@[simp] theorem stamp_severity (previous : Option ActiveFault) (fault : ActiveFault) (ts : Int) :
    (stamp previous fault ts).severity = fault.severity := by
  cases previous <;> rfl

/-- The faults recorded are those of the frame, each with its instant. -/
theorem activeFaults_setActiveFaults (f : Fleet) (id : String)
    (faults : TreeMap FaultKey ActiveFault) (ts : Int) (key : FaultKey) :
    ((f.setActiveFaults id faults ts).1.ensure id).activeFaults[key]? =
      faults[key]?.map fun fault => stamp (f.ensure id).activeFaults[key]? fault ts := by
  rw [setActiveFaults, ensure_put]
  exact TreeMap.getElem?_map

/-- An observation leaves the controller's snapshot as it is. -/
theorem controller_seen (ent : Entry) (ts : Int) : (seen ent ts).controller = ent.controller := by
  rw [seen]
  split
  · rfl
  · split <;> rfl

theorem snapshot_setDegraded (f : Fleet) (id : String) (degraded : Bool) (ts : Int) :
    (f.setDegraded id degraded ts).1.snapshot id = some (f.ensure id).controller := by
  rw [setDegraded, applyLocked, snapshot_put, ← controller_seen (f.ensure id) ts]
  rfl

end Fleet

end Greenhouse.Platform
