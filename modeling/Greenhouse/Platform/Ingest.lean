import Greenhouse.Contract.Document
import Greenhouse.Platform.Fleet

/-!
# Ingestion of telemetry

A message from the broker is routed by its topic, decoded, checked against the greenhouse of
the topic and applied to the live view. A message that fails on the way is dropped.

* `parseTopic`: the topics that are recognised.
* `decodeReading`, `decodeActuator`, `decodeFault`, `decodeSystemState`: one decoder for each
  kind of payload.
* `handleMessage`: the effect of a message.
* `activeFaults_of_mem`, `mem_of_activeFaults`: the active faults of a payload, by their keys.
* `snapshot_applyState`: the controller's snapshot after a state frame.
-/

namespace Greenhouse.Platform

open Greenhouse.Numeric Greenhouse.Contract Std

/-! ## Vocabulary -/

/-- The closed set of measured and derived quantities. -/
def metrics : List String := ["temperature", "humidity", "co2", "par", "vpd", "soil_moisture"]

def actuators : List String :=
  ["heater", "fans", "roof_vents", "misters", "co2_injector", "grow_lights", "shade_screen",
    "irrigation_valve"]

/-- The faults surfaced as the distinct interlock kind. -/
def interlockFaults : List String :=
  ["critical_temperature", "co2_ceiling", "irrigation_no_response"]

def actuatorHealth : List String := ["ok", "stuck", "no_response"]

def sensorFaultKinds : List String :=
  ["stuck", "out_of_range", "sensor_disagreement", "temperature_unavailable"]

/-- One time-stamped sensor sample. -/
structure Reading where
  greenhouseId : String
  zoneId : Option String
  metric : String
  value : F64
  unit : String
  ts : Int
  deriving DecidableEq

/-- One time-stamped actuator sample, with the output flattened to a position. -/
structure ActuatorSample where
  greenhouseId : String
  zoneId : Option String
  actuator : String
  commanded : F64
  observed : Option F64
  health : String
  ts : Int
  deriving DecidableEq

/-- One entry of the activity feed. -/
structure Event where
  greenhouseId : String
  ts : Int
  kind : String
  severity : String
  message : String
  source : String
  deriving DecidableEq

/-! ## Topics -/

inductive TopicKind where
  | sensorHouse
  | sensorZone
  | actuator
  | fault
  | state
  deriving DecidableEq

/-- A parsed telemetry topic. -/
structure TopicInfo where
  greenhouseId : String
  kind : TopicKind
  zoneId : String := ""
  metric : String := ""
  actuator : String := ""
  deriving DecidableEq

/-- `strings.Split` at the slashes. -/
def splitTopic (topic : String) : List String := (topic.toList.splitOn '/').map String.ofList

/-- What is recognised of the levels of a topic. -/
def parseParts : List String → Option TopicInfo
  | [root, id, "sensor", metric] =>
    if root = "gh" ∧ id ≠ "" then some { greenhouseId := id, kind := .sensorHouse, metric }
    else none
  | [root, id, "zone", zoneId, "sensor", metric] =>
    if root = "gh" ∧ id ≠ "" then some { greenhouseId := id, kind := .sensorZone, zoneId, metric }
    else none
  | [root, id, "actuator", actuator, "state"] =>
    if root = "gh" ∧ id ≠ "" then some { greenhouseId := id, kind := .actuator, actuator } else none
  | [root, id, "fault"] =>
    if root = "gh" ∧ id ≠ "" then some { greenhouseId := id, kind := .fault } else none
  | [root, id, "state"] =>
    if root = "gh" ∧ id ≠ "" then some { greenhouseId := id, kind := .state } else none
  | _ => none

def parseTopic (topic : String) : Option TopicInfo := parseParts (splitTopic topic)

/-- The first level of a topic is what stands before its first slash. -/
theorem splitTopic_cons {part rest : String} (h : '/' ∉ part.toList) :
    splitTopic (part ++ "/" ++ rest) = part :: splitTopic rest := by
  have hlist : (part ++ "/" ++ rest).toList = part.toList ++ '/' :: rest.toList := by
    simp
  rw [splitTopic, hlist, List.splitOn_append_cons_self_of_not_mem h, List.map_cons,
    String.ofList_toList]
  rfl

theorem splitTopic_single {part : String} (h : '/' ∉ part.toList) : splitTopic part = [part] := by
  rw [splitTopic, List.splitOn_eq_singleton h, List.map_singleton, String.ofList_toList]

/-! ## Payloads -/

/-- The members every message carries. -/
structure EnvelopePayload where
  schemaVersion : Int
  greenhouseId : String
  zoneId : Option String
  ts : String

def EnvelopePayload.decode (members : List (String × Document)) : Option EnvelopePayload := do
  let schemaVersion ← (Document.member members "schema_version").int64
  let greenhouseId ← (Document.member members "greenhouse_id").text
  let zoneId ← (Document.member members "zone_id").optional Document.text
  let ts ← (Document.member members "ts").text
  some { schemaVersion, greenhouseId, zoneId, ts }

def EnvelopePayload.time [Rfc3339] (e : EnvelopePayload) : Option Int := Rfc3339.parse e.ts

def decodeReading [Rfc3339] (data : Document) : Option Reading := do
  let members ← data.members?
  let env ← EnvelopePayload.decode members
  let metric ← (Document.member members "metric").text
  let value ← (Document.member members "value").number
  let unit ← (Document.member members "unit").text
  let ts ← env.time
  if metric ∈ metrics then
    some { greenhouseId := env.greenhouseId, zoneId := env.zoneId, metric, value, unit, ts }
  else none

structure ActuatorOutput where
  on : Bool
  levelPct : Option F64

/-- An output flattened to a number: an on/off device reports 0 or 100. -/
def ActuatorOutput.position (o : ActuatorOutput) : F64 :=
  if !o.on then 0
  else match o.levelPct with
    | some level => level
    | none => 100

def ActuatorOutput.decode (data : Document) : Option ActuatorOutput := do
  let members ← data.members?
  let on ← (Document.member members "on").flag
  let levelPct ← (Document.member members "level_pct").optional Document.number
  some { on, levelPct }

def decodeActuator [Rfc3339] (data : Document) : Option ActuatorSample := do
  let members ← data.members?
  let env ← EnvelopePayload.decode members
  let actuator ← (Document.member members "actuator").text
  let commanded ← ActuatorOutput.decode (Document.member members "commanded")
  let observed ← ActuatorOutput.decode (Document.member members "observed")
  let health ← (Document.member members "health").text
  let ts ← env.time
  if actuator ∈ actuators then
    some { greenhouseId := env.greenhouseId, zoneId := env.zoneId, actuator,
           commanded := commanded.position, observed := some observed.position, health, ts }
  else none

/-- An absent zone is the key of the house. -/
def zoneKey (zoneId : Option String) : String := zoneId.getD ""

/-- The kind a fault is surfaced as. -/
def eventKind (faultType : String) : String :=
  if faultType ∈ interlockFaults then "interlock" else "fault"

/-- The dashboard's grading of the controller's severity. -/
def eventSeverity (severity : String) : String :=
  if severity = "alarm" then "critical" else "warning"

def decodeFault [Rfc3339] (data : Document) : Option Event := do
  let members ← data.members?
  let env ← EnvelopePayload.decode members
  let component ← (Document.member members "component").text
  let faultType ← (Document.member members "fault_type").text
  let severity ← (Document.member members "severity").text
  let message ← (Document.member members "message").text
  let ts ← env.time
  some { greenhouseId := env.greenhouseId, ts, kind := eventKind faultType,
         severity := eventSeverity severity,
         message := if message = "" then faultType else message,
         source := if component = "" then "controller" else component }

/-! ## The system state -/

def decodeStateReading (data : Document) : Option F64 := do
  let members ← data.members?
  (Document.member members "value").number

/-- One fault of the set a state frame carries. -/
structure StateFault where
  component : String
  zoneId : Option String
  faultType : String
  severity : String
  deriving DecidableEq

def StateFault.decode (data : Document) : Option StateFault := do
  let members ← data.members?
  let component ← (Document.member members "component").text
  let zoneId ← (Document.member members "zone_id").optional Document.text
  let faultType ← (Document.member members "fault_type").text
  let severity ← (Document.member members "severity").text
  some { component, zoneId, faultType, severity }

structure SimulationPayload where
  timeScale : F64
  tickIndex : Int

def SimulationPayload.decode (data : Document) : Option SimulationPayload := do
  let members ← data.members?
  let timeScale ← (Document.member members "time_scale").number
  let tickIndex ← (Document.member members "tick_index").int64
  some { timeScale, tickIndex }

structure SystemStatePayload where
  env : EnvelopePayload
  mode : String
  healthy : Bool
  temperature : Option F64
  humidity : Option F64
  co2 : Option F64
  dli : Option F64
  faults : List StateFault
  simulation : Option SimulationPayload

def SystemStatePayload.decode (data : Document) : Option SystemStatePayload := do
  let members ← data.members?
  let env ← EnvelopePayload.decode members
  let controller ← (Document.member members "controller").members?
  let mode ← (Document.member controller "mode").text
  let healthy ← (Document.member controller "healthy").flag
  let sensors ← (Document.member members "sensors").members?
  let temperature ← (Document.member sensors "temperature").optional decodeStateReading
  let humidity ← (Document.member sensors "humidity").optional decodeStateReading
  let co2 ← (Document.member sensors "co2").optional decodeStateReading
  let dli ← (Document.member members "dli").optional decodeStateReading
  let faults ← (Document.member members "faults").list StateFault.decode
  let simulation ← (Document.member members "simulation").optional SimulationPayload.decode
  some { env, mode, healthy, temperature, humidity, co2, dli, faults, simulation }

/-- The envelope and the faults of a payload that decodes are those of its members. -/
theorem SystemStatePayload.of_decode {data : Document} {p : SystemStatePayload}
    (h : decode data = some p) :
    ∃ members, data.members? = some members ∧ EnvelopePayload.decode members = some p.env ∧
      (Document.member members "faults").list StateFault.decode = some p.faults := by
  simp only [decode, Option.bind_eq_bind, Option.bind_eq_some_iff] at h
  obtain ⟨members, hmembers, env, henv, controller, -, mode, -, healthy, -, sensors, -,
    temperature, -, humidity, -, co2, -, dli, -, faults, hfaults, simulation, -, hp⟩ := h
  cases hp
  exact ⟨members, hmembers, henv, hfaults⟩

/-- A system state with the instant of its frame. -/
def decodeSystemState [Rfc3339] (data : Document) : Option (SystemStatePayload × Int) := do
  let payload ← SystemStatePayload.decode data
  let ts ← payload.env.time
  some (payload, ts)

def StateFault.key (fault : StateFault) : FaultKey := ⟨fault.component, zoneKey fault.zoneId⟩

/-- The faults of sensors, by component and zone. -/
def sensorFaults (payload : SystemStatePayload) : TreeMap FaultKey String :=
  .ofList ((payload.faults.filter fun fault =>
    fault.component ∈ metrics && fault.faultType ∈ sensorFaultKinds).map
      fun fault => (fault.key, fault.faultType))

/-- All faults, by component and zone. -/
def activeFaults (payload : SystemStatePayload) : TreeMap FaultKey ActiveFault :=
  .ofList (payload.faults.map fun fault =>
    (fault.key, ({ faultType := fault.faultType, severity := fault.severity } : ActiveFault)))

/-! ## Messages -/

/-- One item queued for the database. -/
inductive Record where
  | reading (reading : Reading)
  | actuator (sample : ActuatorSample)
  | event (event : Event)

/-- One active fault as the dashboard shows it. -/
structure ActiveAlert where
  component : String
  zoneId : Option String
  faultType : String
  kind : String
  severity : String
  since : Int

/-- What is broadcast to the dashboards. -/
inductive Frame where
  | reading (reading : Reading)
  | actuator (sample : ActuatorSample)
  | status (greenhouseId : String) (ts : Int) (status : Connectivity) (timeScale : Option F64)
  | event (event : Event)
  | activeAlerts (greenhouseId : String) (ts : Int) (alerts : List ActiveAlert)

/-- The alerts of a set of active faults; the order of a map is not defined. -/
def activeAlerts (faults : TreeMap FaultKey ActiveFault) : List ActiveAlert :=
  faults.toList.map fun ((key, fault) : FaultKey × ActiveFault) => {
    component := key.component
    zoneId := if key.zoneId = "" then none else some key.zoneId
    faultType := fault.faultType
    kind := eventKind fault.faultType
    severity := eventSeverity fault.severity
    since := fault.since }

/-- The live view after a message, the record it queues and the frames it broadcasts. -/
structure Handled where
  fleet : Fleet
  pushed : Option Record := none
  broadcast : List Frame := []

/-- The frame of a change of status. -/
def statusFrame (changed : Bool) (greenhouseId : String) (ts : Int) (live : Live) : List Frame :=
  if changed then [.status greenhouseId ts live.status live.timeScale] else []

/-- The house values a reading updates. -/
def noteReading (fleet : Fleet) (reading : Reading) : Fleet :=
  if reading.zoneId ≠ none then fleet
  else if reading.metric = "temperature" then
    fleet.setTemperature reading.greenhouseId (some reading.value)
  else if reading.metric = "humidity" then
    fleet.setHumidity reading.greenhouseId (some reading.value)
  else if reading.metric = "co2" then fleet.setCO2 reading.greenhouseId (some reading.value)
  else fleet

/-- Keep a value only if its greenhouse is the one of the topic. -/
def matched {α : Type} (topicId : String) (id : α → String) (a : α) : Option α :=
  if id a = topicId then some a else none

def onReading [Rfc3339] (fleet : Fleet) (data : Document) (topicId : String) (now : Int) :
    Option Handled := do
  let reading ← decodeReading data
  let reading ← matched topicId Reading.greenhouseId reading
  let (fleet, live, changed) := (noteReading fleet reading).observe reading.greenhouseId now
  some { fleet, pushed := some (.reading reading),
         broadcast := .reading reading :: statusFrame changed reading.greenhouseId reading.ts live }

def onActuator [Rfc3339] (fleet : Fleet) (data : Document) (topicId : String) (now : Int) :
    Option Handled := do
  let sample ← decodeActuator data
  let sample ← matched topicId ActuatorSample.greenhouseId sample
  let fleet := if sample.health ∈ actuatorHealth then
      fleet.setActuatorHealth sample.greenhouseId sample.actuator (zoneKey sample.zoneId)
        sample.health
    else fleet
  let (fleet, live, changed) := fleet.observe sample.greenhouseId now
  some { fleet, pushed := some (.actuator sample),
         broadcast := .actuator sample :: statusFrame changed sample.greenhouseId sample.ts live }

def onFault [Rfc3339] (fleet : Fleet) (data : Document) (topicId : String) (now : Int) :
    Option Handled := do
  let event ← decodeFault data
  let event ← matched topicId Event.greenhouseId event
  let (fleet, live, changed) := fleet.setDegraded event.greenhouseId true now
  some { fleet, pushed := some (.event event),
         broadcast := .event event :: statusFrame changed event.greenhouseId event.ts live }

/-- The values of a state frame that are present; the others stay as they are. -/
def noteState (fleet : Fleet) (id : String) (payload : SystemStatePayload) : Fleet :=
  let keep (value : Option F64) (set : Fleet → String → Option F64 → Fleet) (fleet : Fleet) :=
    if value.isSome then set fleet id value else fleet
  let fleet := keep payload.temperature Fleet.setTemperature fleet
  let fleet := keep payload.humidity Fleet.setHumidity fleet
  let fleet := keep payload.co2 Fleet.setCO2 fleet
  keep payload.dli Fleet.setDLI fleet

/-- What a state frame does to the live view. -/
def applyState (fleet : Fleet) (payload : SystemStatePayload) (ts now : Int) : Handled :=
  let id := payload.env.greenhouseId
  let (fleet, _, scaleChanged) :=
    fleet.setTimeScale id (payload.simulation.map SimulationPayload.timeScale)
  let fleet := noteState fleet id payload
  let fleet := fleet.setControllerMode id payload.mode
  let fleet := fleet.setSensorFaults id (sensorFaults payload) ts
  let (fleet, alertsChanged) := fleet.setActiveFaults id (activeFaults payload) ts
  let alerts := if alertsChanged then
      [Frame.activeAlerts id ts (activeAlerts (fleet.ensure id).activeFaults)]
    else []
  let degraded := !payload.healthy || payload.mode != "normal"
  let (fleet, live, statusChanged) := fleet.setDegraded id degraded now
  { fleet, broadcast := alerts ++ statusFrame (statusChanged || scaleChanged) id ts live }

section Applied

variable {payload : SystemStatePayload}

/-- Every fault of the payload leaves an entry at its key. -/
theorem activeFaults_of_mem {fault : StateFault} (h : fault ∈ payload.faults) :
    ∃ v, (activeFaults payload)[fault.key]? = some v := by
  have hmem : fault.key ∈ activeFaults payload := by
    rw [activeFaults, TreeMap.mem_ofList, List.contains_iff_mem, List.map_map]
    exact List.mem_map_of_mem h
  exact ⟨_, TreeMap.getElem?_eq_some_getElem hmem⟩

/-- Every entry is of the last fault of the payload with its key. -/
theorem last_of_activeFaults {key : FaultKey} {v : ActiveFault}
    (h : (activeFaults payload)[key]? = some v) :
    ∃ before fault after, payload.faults = before ++ fault :: after ∧ fault.key = key ∧
      (∀ g ∈ after, g.key ≠ key) ∧
        v = { faultType := fault.faultType, severity := fault.severity } := by
  rw [activeFaults, TreeMap.ofList_eq_insertMany_empty, TreeMap.getElem?_insertMany_list,
    TreeMap.getElem?_emptyc, Option.or_none, List.findSomeRev?_eq_findSome?_reverse,
    ← List.map_reverse, List.findSome?_map] at h
  obtain ⟨after, fault, before, hfaults, hentry, hafter⟩ := List.findSome?_eq_some_iff.1 h
  obtain ⟨hkey, hv⟩ := Option.ite_none_right_eq_some.1 hentry
  refine ⟨before.reverse, fault, after.reverse, ?_, LawfulEqOrd.eq_of_compare hkey, ?_,
    (Option.some.inj hv).symm⟩
  · rw [← List.reverse_reverse payload.faults, hfaults]
    simp
  · intro g hg heq
    have hskipped := hafter g (List.mem_reverse.1 hg)
    simp [heq] at hskipped

/-- Every entry is of a fault of the payload. -/
theorem mem_of_activeFaults {key : FaultKey} {v : ActiveFault}
    (h : (activeFaults payload)[key]? = some v) :
    ∃ fault ∈ payload.faults, fault.key = key ∧
      v = { faultType := fault.faultType, severity := fault.severity } := by
  obtain ⟨before, fault, after, hfaults, hkey, -, hv⟩ := last_of_activeFaults h
  refine ⟨fault, ?_, hkey, hv⟩
  rw [hfaults]
  exact List.mem_append_right _ List.mem_cons_self

/-- The values of a state frame leave the active faults as they are. -/
theorem noteState_activeFaults (fleet : Fleet) (id : String) :
    ((noteState fleet id payload).ensure id).activeFaults = (fleet.ensure id).activeFaults := by
  have hkeep : ∀ (fleet : Fleet) (value : Option F64) (set : Fleet → String → Option F64 → Fleet),
      (∀ f : Fleet, ((set f id value).ensure id).activeFaults = (f.ensure id).activeFaults) →
        ((if value.isSome then set fleet id value else fleet).ensure id).activeFaults =
          (fleet.ensure id).activeFaults := by
    intro fleet value set hset
    split
    · exact hset fleet
    · rfl
  rw [noteState]
  dsimp only
  rw [hkeep _ _ _ fun f => by rw [Fleet.setDLI, Fleet.ensure_put],
    hkeep _ _ _ fun f => by rw [Fleet.setCO2, Fleet.ensure_put],
    hkeep _ _ _ fun f => by rw [Fleet.setHumidity, Fleet.ensure_put],
    hkeep _ _ _ fun f => by rw [Fleet.setTemperature, Fleet.ensure_put]]

/-- The controller's snapshot after a state frame holds the faults of the frame, each with the
instant it was first seen. -/
theorem snapshot_applyState (fleet : Fleet) (payload : SystemStatePayload) (ts now : Int) :
    ∃ s : ControllerSnapshot,
      (applyState fleet payload ts now).fleet.snapshot payload.env.greenhouseId = some s ∧
        s.mode = payload.mode ∧ ∀ key : FaultKey, s.activeFaults[key]? =
          (activeFaults payload)[key]?.map fun fault =>
            Fleet.stamp (fleet.ensure payload.env.greenhouseId).activeFaults[key]? fault ts := by
  let id := payload.env.greenhouseId
  let scaled := (fleet.setTimeScale id (payload.simulation.map SimulationPayload.timeScale)).1
  let sensed := ((noteState scaled id payload).setControllerMode id payload.mode).setSensorFaults id
    (sensorFaults payload) ts
  let faulted := (sensed.setActiveFaults id (activeFaults payload) ts).1
  have hsame : (sensed.ensure id).activeFaults = (fleet.ensure id).activeFaults := by
    simp only [sensed, scaled, Fleet.setSensorFaults, Fleet.setControllerMode, Fleet.setTimeScale,
      Fleet.ensure_put, noteState_activeFaults]
  have hmode : (faulted.ensure id).controllerMode = payload.mode := by
    simp only [faulted, sensed, Fleet.setActiveFaults, Fleet.setSensorFaults,
      Fleet.setControllerMode, Fleet.ensure_put]
  refine ⟨(faulted.ensure id).controller, Fleet.snapshot_setDegraded faulted id _ now, hmode, ?_⟩
  intro key
  have hactive := Fleet.activeFaults_setActiveFaults sensed id (activeFaults payload) ts key
  rw [hsame] at hactive
  exact hactive

end Applied

def onState [Rfc3339] (fleet : Fleet) (data : Document) (topicId : String) (now : Int) :
    Option Handled := do
  let (payload, ts) ← decodeSystemState data
  let payload ← matched topicId (fun p => p.env.greenhouseId) payload
  some (applyState fleet payload ts now)

/-- The effect of a message; `none` if it is dropped. `known` are the registered greenhouses. -/
def handleMessage [Rfc3339] (known : List String) (fleet : Fleet) (topic : String)
    (data : Document) (now : Int) : Option Handled := do
  let info ← parseTopic topic
  if info.greenhouseId ∈ known then
    match info.kind with
    | .sensorHouse | .sensorZone => onReading fleet data info.greenhouseId now
    | .actuator => onActuator fleet data info.greenhouseId now
    | .fault => onFault fleet data info.greenhouseId now
    | .state => onState fleet data info.greenhouseId now
  else none

end Greenhouse.Platform
