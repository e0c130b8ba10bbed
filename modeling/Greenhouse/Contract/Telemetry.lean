import Greenhouse.Controller.Publisher
import Greenhouse.Platform.Ingest

/-!
# The telemetry round trip

What the controller publishes in a tick is what the platform takes from it. Numbers that are
printed are read back exactly, and so is the timestamp of the frame.

* `items`: what a tick has to tell, one item for each frame.
* `Conveys`: the platform recognises the frame and decodes it to the item.
* `frames_convey`: every frame of a tick conveys its item and is accepted.
-/

namespace Greenhouse.Contract

open Greenhouse.Numeric Greenhouse.Controller Greenhouse.Platform Std

/-! ## Topics -/

theorem splitTopic_root (gh : Slug) (rest : String) :
    splitTopic ("gh/" ++ gh.asStr ++ "/" ++ rest) = "gh" :: gh.asStr :: splitTopic rest := by
  have hroot : "gh/" ++ gh.asStr ++ "/" ++ rest = "gh" ++ "/" ++ (gh.asStr ++ "/" ++ rest) := by
    rw [← String.toList_inj]
    simp
  rw [hroot, splitTopic_cons (by decide), splitTopic_cons gh.slash_notMem]

theorem parseTopic_house (gh : Slug) {metric : String} (h : '/' ∉ metric.toList) :
    parseTopic ("gh/" ++ gh.asStr ++ "/sensor/" ++ metric) =
      some { greenhouseId := gh.asStr, kind := .sensorHouse, metric } := by
  have hrest : "gh/" ++ gh.asStr ++ "/sensor/" ++ metric =
      "gh/" ++ gh.asStr ++ "/" ++ ("sensor" ++ "/" ++ metric) := by
    rw [← String.toList_inj]
    simp
  rw [parseTopic, hrest, splitTopic_root, splitTopic_cons (by decide), splitTopic_single h]
  exact if_pos ⟨rfl, gh.asStr_ne_empty⟩

theorem parseTopic_zone (gh zone : Slug) :
    parseTopic ("gh/" ++ gh.asStr ++ "/zone/" ++ zone.asStr ++ "/sensor/soil_moisture") =
      some { greenhouseId := gh.asStr, kind := .sensorZone, zoneId := zone.asStr,
             metric := "soil_moisture" } := by
  have hrest : "gh/" ++ gh.asStr ++ "/zone/" ++ zone.asStr ++ "/sensor/soil_moisture" =
      "gh/" ++ gh.asStr ++ "/" ++ ("zone" ++ "/" ++ (zone.asStr ++ "/" ++
        ("sensor" ++ "/" ++ "soil_moisture"))) := by
    rw [← String.toList_inj]
    simp
  rw [parseTopic, hrest, splitTopic_root, splitTopic_cons (by decide),
    splitTopic_cons zone.slash_notMem, splitTopic_cons (by decide), splitTopic_single (by decide)]
  exact if_pos ⟨rfl, gh.asStr_ne_empty⟩

theorem parseTopic_actuator (gh : Slug) (a : Actuator) :
    parseTopic ("gh/" ++ gh.asStr ++ "/actuator/" ++ a.wireName ++ "/state") =
      some { greenhouseId := gh.asStr, kind := .actuator, actuator := a.wireName } := by
  have hrest : "gh/" ++ gh.asStr ++ "/actuator/" ++ a.wireName ++ "/state" =
      "gh/" ++ gh.asStr ++ "/" ++ ("actuator" ++ "/" ++ (a.wireName ++ "/" ++ "state")) := by
    rw [← String.toList_inj]
    simp
  have hname : '/' ∉ a.wireName.toList := by
    cases a <;> decide
  rw [parseTopic, hrest, splitTopic_root, splitTopic_cons (by decide), splitTopic_cons hname,
    splitTopic_single (by decide)]
  exact if_pos ⟨rfl, gh.asStr_ne_empty⟩

theorem parseTopic_fault (gh : Slug) :
    parseTopic ("gh/" ++ gh.asStr ++ "/fault") =
      some { greenhouseId := gh.asStr, kind := .fault } := by
  have hrest : "gh/" ++ gh.asStr ++ "/fault" = "gh/" ++ gh.asStr ++ "/" ++ "fault" := by
    rw [← String.toList_inj]
    simp
  rw [parseTopic, hrest, splitTopic_root, splitTopic_single (by decide)]
  exact if_pos ⟨rfl, gh.asStr_ne_empty⟩

theorem parseTopic_state (gh : Slug) :
    parseTopic ("gh/" ++ gh.asStr ++ "/state") =
      some { greenhouseId := gh.asStr, kind := .state } := by
  have hrest : "gh/" ++ gh.asStr ++ "/state" = "gh/" ++ gh.asStr ++ "/" ++ "state" := by
    rw [← String.toList_inj]
    simp
  rw [parseTopic, hrest, splitTopic_root, splitTopic_single (by decide)]
  exact if_pos ⟨rfl, gh.asStr_ne_empty⟩

/-! ## Payloads -/

/-- The envelope of a payload is read from its members. -/
theorem decode_envelope {members : List (String × Document)} {gh ts : String}
    {zone : Option String}
    (hversion : Document.member members "schema_version" = .int schemaVersion)
    (hgh : Document.member members "greenhouse_id" = .string gh)
    (hzone : Document.member members "zone_id" = .ofOption .string zone)
    (hts : Document.member members "ts" = .string ts) :
    EnvelopePayload.decode members = some ⟨schemaVersion, gh, zone, ts⟩ := by
  rw [EnvelopePayload.decode, hversion, hgh, hzone, hts, Document.text_ofOption]
  rfl

section Decoders

variable {members : List (String × Document)}

theorem decodeReading_object [Rfc3339] {env : EnvelopePayload} {metric unit : String} {value : F64}
    {instant : Int} (henv : EnvelopePayload.decode members = some env)
    (hmetric : Document.member members "metric" = .string metric)
    (hvalue : (Document.member members "value").number = some value)
    (hunit : Document.member members "unit" = .string unit)
    (htime : env.time = some instant) (hknown : metric ∈ metrics) :
    decodeReading (.object members) =
      some { greenhouseId := env.greenhouseId, zoneId := env.zoneId, metric, value, unit,
             ts := instant } := by
  simp only [decodeReading, Document.members?, Option.bind_eq_bind, Option.bind_some, henv, hmetric,
    hvalue, hunit, htime, Document.text_string, if_pos hknown]

theorem decodeOutput_object {on : Bool} {levelPct : Option F64}
    (hon : Document.member members "on" = .bool on)
    (hlevel : (Document.member members "level_pct").optional Document.number = some levelPct) :
    ActuatorOutput.decode (.object members) = some ⟨on, levelPct⟩ := by
  simp only [ActuatorOutput.decode, Document.members?, Option.bind_eq_bind, Option.bind_some, hon,
    hlevel, Document.flag_bool]

theorem decodeActuator_object [Rfc3339] {env : EnvelopePayload} {actuator health : String}
    {commanded observed : ActuatorOutput} {instant : Int}
    (henv : EnvelopePayload.decode members = some env)
    (hactuator : Document.member members "actuator" = .string actuator)
    (hcommanded : ActuatorOutput.decode (Document.member members "commanded") = some commanded)
    (hobserved : ActuatorOutput.decode (Document.member members "observed") = some observed)
    (hhealth : Document.member members "health" = .string health)
    (htime : env.time = some instant) (hknown : actuator ∈ actuators) :
    decodeActuator (.object members) =
      some { greenhouseId := env.greenhouseId, zoneId := env.zoneId, actuator,
             commanded := commanded.position, observed := some observed.position, health,
             ts := instant } := by
  simp only [decodeActuator, Document.members?, Option.bind_eq_bind, Option.bind_some, henv,
    hactuator, hcommanded, hobserved, hhealth, htime, Document.text_string, if_pos hknown]

theorem decodeFault_object [Rfc3339] {env : EnvelopePayload}
    {component faultType severity message : String} {instant : Int}
    (henv : EnvelopePayload.decode members = some env)
    (hcomponent : Document.member members "component" = .string component)
    (htype : Document.member members "fault_type" = .string faultType)
    (hseverity : Document.member members "severity" = .string severity)
    (hmessage : Document.member members "message" = .string message)
    (htime : env.time = some instant) :
    decodeFault (.object members) =
      some { greenhouseId := env.greenhouseId, ts := instant, kind := eventKind faultType,
             severity := eventSeverity severity,
             message := if message = "" then faultType else message,
             source := if component = "" then "controller" else component } := by
  simp only [decodeFault, Document.members?, Option.bind_eq_bind, Option.bind_some, henv,
    hcomponent, htype, hseverity, hmessage, htime, Document.text_string]

theorem decodeSystemState_object {controller sensors : List (String × Document)}
    {p : SystemStatePayload} (henv : EnvelopePayload.decode members = some p.env)
    (hcontroller : Document.member members "controller" = .object controller)
    (hmode : Document.member controller "mode" = .string p.mode)
    (hhealthy : Document.member controller "healthy" = .bool p.healthy)
    (hsensors : Document.member members "sensors" = .object sensors)
    (htemperature : (Document.member sensors "temperature").optional decodeStateReading =
      some p.temperature)
    (hhumidity : (Document.member sensors "humidity").optional decodeStateReading =
      some p.humidity)
    (hco2 : (Document.member sensors "co2").optional decodeStateReading = some p.co2)
    (hdli : (Document.member members "dli").optional decodeStateReading = some p.dli)
    (hfaults : (Document.member members "faults").list StateFault.decode = some p.faults)
    (hsimulation : (Document.member members "simulation").optional SimulationPayload.decode =
      some p.simulation) :
    SystemStatePayload.decode (.object members) = some p := by
  simp only [SystemStatePayload.decode, Document.members?, Option.bind_eq_bind, Option.bind_some,
    henv, hcontroller, hmode, hhealthy, hsensors, htemperature, hhumidity, hco2, hdli, hfaults,
    hsimulation, Document.text_string, Document.flag_bool]

end Decoders

/-! ## Messages -/

/-- An output is read back with its level. -/
theorem decode_outputState (a : Actuator) {level : F64} (h : level.isFinite = true) :
    ActuatorOutput.decode (OutputState.new a level).document =
      some ⟨decide (0 < level), if isOnOff a then none else some level⟩ := by
  refine decodeOutput_object rfl ?_
  change Document.optional Document.number
    (.ofOption .ofF64 (if isOnOff a then none else some level)) = _
  cases isOnOff a with
  | true => rfl
  | false => exact Document.optional_number_ofF64 h

/-- What is told of an actuator: the level of a variable device, `100` or `0` for an on/off one. -/
def Reports (a : Actuator) (level position : F64) : Prop :=
  (isOnOff a = true → position = if 0 < level then 100 else 0) ∧
    (isOnOff a = false → 0 ≤ level → position = level)

theorem reports_position (a : Actuator) (level : F64) :
    Reports a level
      (ActuatorOutput.position ⟨decide (0 < level), if isOnOff a then none else some level⟩) := by
  constructor
  · intro honOff
    rw [honOff]
    by_cases hlevel : 0 < level <;> simp [ActuatorOutput.position, hlevel]
  · intro hvariable hlevel
    rw [hvariable]
    rcases F64.le_iff.1 hlevel with hpos | ⟨hzero, -⟩
    · simp [ActuatorOutput.position, hpos]
    · subst hzero
      simp [ActuatorOutput.position, F64.not_lt_self]

/-- The dashboard's grading is critical for the alarms. -/
theorem eventSeverity_critical (s : Controller.Severity) :
    eventSeverity s.wireName = "critical" ↔ s = .alarm := by
  cases s <;> decide

section Messages

variable [Rfc3339] {gh ts : String} {instant : Int}

/-- **A reading is read back.** -/
theorem decodeReading_sensorReadingMsg (hts : Rfc3339.parse ts = some instant)
    {zone : Option String} {metric unit : String} {value : F64} (hmetric : metric ∈ metrics)
    (hvalue : value.isFinite = true) :
    decodeReading (sensorReadingMsg gh zone ts metric value unit) =
      some { greenhouseId := gh, zoneId := zone, metric, value, unit, ts := instant } :=
  decodeReading_object (decode_envelope rfl rfl rfl rfl) rfl (Document.number_ofF64 hvalue) rfl hts
    hmetric

/-- **A fault event is read back.** -/
theorem decodeFault_faultEventMsg (hts : Rfc3339.parse ts = some instant) (fault : Fault) :
    decodeFault (faultEventMsg gh ts fault) =
      some { greenhouseId := gh, ts := instant, kind := eventKind fault.faultType.wireName,
             severity := eventSeverity fault.severity.wireName,
             message := if fault.message = "" then fault.faultType.wireName else fault.message,
             source := if fault.component = "" then "controller" else fault.component } :=
  decodeFault_object (decode_envelope rfl rfl rfl rfl) rfl rfl rfl rfl hts

end Messages

/-! ## The system state -/

theorem decodeStateReading_readingVu {value : F64} (unit : String) (h : value.isFinite = true) :
    decodeStateReading (readingVu value unit) = some value :=
  Document.number_ofF64 h

/-- A sensor of the state is read back when it is trusted. -/
theorem optional_decodeStateReading {value : Option F64} (unit : String)
    (h : ∀ v, value = some v → v.isFinite = true) :
    Document.optional decodeStateReading (.ofOption (readingVu · unit) value) = some value := by
  cases value with
  | none => rfl
  | some v =>
    change (decodeStateReading (readingVu v unit)).map some = _
    rw [decodeStateReading_readingVu unit (h v rfl)]
    rfl

/-- A fault as the state frame carries it. -/
def stateFault (fault : Fault) : StateFault where
  component := fault.component
  zoneId := fault.zoneId.map Slug.asStr
  faultType := fault.faultType.wireName
  severity := fault.severity.wireName

theorem decode_faultSummary (fault : Fault) :
    StateFault.decode (faultSummary fault) = some (stateFault fault) := by
  have hzone := Document.text_ofOption (fault.zoneId.map Slug.asStr)
  change (Document.optional Document.text
    (.ofOption .string (fault.zoneId.map Slug.asStr))).bind _ = _
  rw [hzone]
  rfl

/-- The faults of a state frame are read back, all of them and in their order. -/
theorem decode_faults (faults : List Fault) :
    Document.list StateFault.decode (.array (faults.map faultSummary)) =
      some (faults.map stateFault) :=
  Document.list_map fun fault _ => decode_faultSummary fault

theorem decode_simulation {timeScale : F64} {tickIndex : Nat} (hscale : timeScale.isFinite = true)
    (htick : tickIndex < 2 ^ 63) :
    Document.optional SimulationPayload.decode
      (.object [("time_scale", .ofF64 timeScale), ("tick_index", .int tickIndex)]) =
        some (some ⟨timeScale, tickIndex⟩) := by
  have hnumber := Document.number_ofF64 hscale
  have hint := Document.int64_nat htick
  change ((Document.ofF64 timeScale).number.bind fun t =>
    (Document.int (tickIndex : Int)).int64.bind fun i =>
      some (SimulationPayload.mk t i)).map some = _
  rw [hnumber, hint]
  rfl

/-- The numbers of a snapshot that are printed are finite and its tick index is a signed word. -/
structure Printable (snapshot : Snapshot) : Prop where
  house : ∀ r ∈ houseReadings snapshot.trusted, ∀ v ∈ r.2.1, v.isFinite = true
  soil : ∀ r ∈ snapshot.trusted.soilMoisture.toList, ∀ v ∈ r.2, v.isFinite = true
  commanded : ∀ a ∈ houseActuators, (snapshot.commanded.get (.house a)).isFinite = true
  observed : ∀ a ∈ houseActuators, (snapshot.observed.get (.house a)).isFinite = true
  dli : snapshot.dliMol.isFinite = true
  tickIndex : snapshot.tickIndex < 2 ^ 63

theorem printable_iff {snapshot : Snapshot} :
    Printable snapshot ↔
      (∀ r ∈ houseReadings snapshot.trusted, ∀ v ∈ r.2.1, v.isFinite = true) ∧
      (∀ r ∈ snapshot.trusted.soilMoisture.toList, ∀ v ∈ r.2, v.isFinite = true) ∧
      (∀ a ∈ houseActuators, (snapshot.commanded.get (.house a)).isFinite = true ∧
        (snapshot.observed.get (.house a)).isFinite = true) ∧
      snapshot.dliMol.isFinite = true ∧ snapshot.tickIndex < 2 ^ 63 := by
  constructor
  · intro h
    exact ⟨h.house, h.soil, fun a ha => ⟨h.commanded a ha, h.observed a ha⟩, h.dli, h.tickIndex⟩
  · rintro ⟨hhouse, hsoil, hactuators, hdli, htick⟩
    exact ⟨hhouse, hsoil, fun a ha => (hactuators a ha).1, fun a ha => (hactuators a ha).2, hdli,
      htick⟩

instance (snapshot : Snapshot) : Decidable (Printable snapshot) :=
  decidable_of_iff' _ printable_iff

/-- What the platform reads from a state frame. -/
def statePayload (snapshot : Snapshot) (gh ts : String) (timeScale : F64) : SystemStatePayload where
  env := ⟨schemaVersion, gh, none, ts⟩
  mode := snapshot.mode.wireName
  healthy := snapshot.healthy
  temperature := snapshot.trusted.temperature
  humidity := snapshot.trusted.humidity
  co2 := snapshot.trusted.co2
  dli := some snapshot.dliMol
  faults := snapshot.faults.map stateFault
  simulation := some ⟨timeScale, snapshot.tickIndex⟩

/-- **The system state is read back.** -/
theorem decode_systemState [Rfc3339] {snapshot : Snapshot} (hp : Printable snapshot)
    {timeScale : F64} (hscale : timeScale.isFinite = true) (gh ts : String) :
    SystemStatePayload.decode (systemState snapshot gh ts timeScale) =
      some (statePayload snapshot gh ts timeScale) := by
  have hsensor : ∀ (metric unit : String) (value : Option F64),
      (metric, value, unit) ∈ houseReadings snapshot.trusted →
        Document.optional decodeStateReading (.ofOption (readingVu · unit) value) = some value :=
    fun _ unit _ hmem => optional_decodeStateReading unit (hp.house _ hmem)
  refine decodeSystemState_object (decode_envelope rfl rfl rfl rfl) rfl rfl rfl rfl ?_ ?_ ?_ ?_
    (decode_faults snapshot.faults) (decode_simulation hscale hp.tickIndex)
  · exact hsensor "temperature" "°C" snapshot.trusted.temperature (by simp [houseReadings])
  · exact hsensor "humidity" "%RH" snapshot.trusted.humidity (by simp [houseReadings])
  · exact hsensor "co2" "ppm" snapshot.trusted.co2 (by simp [houseReadings])
  · change (decodeStateReading (readingVu snapshot.dliMol "mol·m⁻²·d⁻¹")).map some = _
    rw [decodeStateReading_readingVu _ hp.dli]
    rfl

/-! ## Frames -/

/-- One thing a tick has to tell; a reading without a zone is of the house. -/
inductive Item where
  | reading (zone : Option Slug) (metric : String) (value : F64) (unit : String)
  | actuator (a : Actuator)
  | fault (f : Fault)
  | state

/-- The readings of the house that are trusted. -/
def houseItems (snapshot : Snapshot) : List Item :=
  (houseReadings snapshot.trusted).filterMap fun r =>
    r.2.1.map fun value => .reading none r.1 value r.2.2

/-- The soil readings that are trusted. -/
def soilItems (snapshot : Snapshot) : List Item :=
  snapshot.trusted.soilMoisture.toList.filterMap fun r =>
    r.2.map fun value => .reading (some r.1) "soil_moisture" value "VWC"

/-- All a tick has to tell; a fault that was active before is told in the state only. -/
def items (snapshot : Snapshot) (previouslyActive : Finset Controller.FaultKey) : List Item :=
  houseItems snapshot ++ soilItems snapshot ++ houseActuators.map .actuator
  ++ (snapshot.faults.filter fun f => faultKey f ∉ previouslyActive).map .fault ++ [.state]

/-- The topic of a reading, as it is parsed. -/
def readingTopic (gh : Slug) (metric : String) : Option Slug → TopicInfo
  | none => { greenhouseId := gh.asStr, kind := .sensorHouse, metric }
  | some zone => { greenhouseId := gh.asStr, kind := .sensorZone, zoneId := zone.asStr, metric }

/-- A list filtered in two ways, side by side. -/
theorem forall₂_filterMap {α β γ : Type} {R : β → γ → Prop} {f : α → Option β} {g : α → Option γ}
    {l : List α} (h : ∀ a ∈ l, Option.Rel R (f a) (g a)) :
    List.Forall₂ R (l.filterMap f) (l.filterMap g) := by
  have hsame : List.Forall₂ (fun a b => a = b ∧ a ∈ l) l l :=
    List.forall₂_same.2 fun a ha => ⟨rfl, ha⟩
  refine List.rel_filterMap (fun a b hab => ?_) hsame
  obtain ⟨rfl, ha⟩ := hab
  exact h a ha

section Frames

variable [Rfc3339]

/-- The frame is recognised as one of the greenhouse, its payload decodes to the item, and the
payload names the greenhouse of the topic. -/
def Conveys (snapshot : Snapshot) (gh : Slug) (instant : Int) (timeScale : F64)
    (frame : PublishFrame) : Item → Prop
  | .reading zone metric value unit =>
    parseTopic frame.topic = some (readingTopic gh metric zone) ∧
      decodeReading frame.payload = some { greenhouseId := gh.asStr, zoneId := zone.map Slug.asStr,
                                           metric, value, unit, ts := instant }
  | .actuator a =>
    parseTopic frame.topic =
        some { greenhouseId := gh.asStr, kind := .actuator, actuator := a.wireName } ∧
      ∃ commanded observed, Reports a (snapshot.commanded.get (.house a)) commanded ∧
        Reports a (snapshot.observed.get (.house a)) observed ∧
        decodeActuator frame.payload =
          some { greenhouseId := gh.asStr, zoneId := none, actuator := a.wireName, commanded,
                 observed := some observed, health := healthStr a.wireName snapshot.faults,
                 ts := instant }
  | .fault f =>
    parseTopic frame.topic = some { greenhouseId := gh.asStr, kind := .fault } ∧
      ∃ event, decodeFault frame.payload = some event ∧ event.greenhouseId = gh.asStr ∧
        event.ts = instant ∧ (f.component ≠ "" → event.source = f.component) ∧
        (f.message ≠ "" → event.message = f.message) ∧
        (event.severity = "critical" ↔ f.severity = .alarm)
  | .state =>
    parseTopic frame.topic = some { greenhouseId := gh.asStr, kind := .state } ∧
      decodeSystemState frame.payload =
        some (statePayload snapshot gh.asStr (Rfc3339.format instant) timeScale, instant)

/-- A frame that conveys an item is not dropped where the greenhouse is registered. -/
theorem Conveys.accepted {snapshot : Snapshot} {gh : Slug} {instant : Int} {timeScale : F64}
    {frame : PublishFrame} {item : Item} (h : Conveys snapshot gh instant timeScale frame item)
    {known : List String} (hknown : gh.asStr ∈ known) (fleet : Fleet) (now : Int) :
    (handleMessage known fleet frame.topic frame.payload now).isSome = true := by
  cases item with
  | reading zone metric value unit =>
    cases zone with
    | none =>
      simp [handleMessage, h.1, readingTopic, hknown, onReading, h.2, matched]
    | some zone =>
      simp [handleMessage, h.1, readingTopic, hknown, onReading, h.2, matched]
  | actuator a =>
    obtain ⟨htopic, commanded, observed, -, -, hdecode⟩ := h
    simp [handleMessage, htopic, hknown, onActuator, hdecode, matched]
  | fault f =>
    obtain ⟨htopic, event, hdecode, hid, -⟩ := h
    simp [handleMessage, htopic, hknown, onFault, hdecode, hid, matched]
  | state =>
    simp [handleMessage, h.1, hknown, onState, h.2, matched, statePayload]

variable {snapshot : Snapshot} {gh : Slug} {instant : Int} {timeScale : F64}

theorem houseFrames_convey (hp : Printable snapshot) (hts : Rfc3339.Exact instant) :
    List.Forall₂ (Conveys snapshot gh instant timeScale)
      (houseFrames snapshot gh.asStr (Rfc3339.format instant)) (houseItems snapshot) := by
  have hnames : ∀ r ∈ houseReadings snapshot.trusted, r.1 ∈ metrics ∧ '/' ∉ r.1.toList := by
    simp [houseReadings, metrics]
  refine forall₂_filterMap fun r hr => ?_
  obtain ⟨metric, value, unit⟩ := r
  obtain ⟨hmetric, hslash⟩ := hnames _ hr
  cases value with
  | none => exact .none
  | some v =>
    have hfinite : v.isFinite = true := hp.house _ hr v rfl
    exact .some ⟨parseTopic_house gh hslash, decodeReading_sensorReadingMsg hts hmetric hfinite⟩

theorem soilFrames_convey (hp : Printable snapshot) (hts : Rfc3339.Exact instant) :
    List.Forall₂ (Conveys snapshot gh instant timeScale)
      (soilFrames snapshot gh.asStr (Rfc3339.format instant)) (soilItems snapshot) := by
  refine forall₂_filterMap fun r hr => ?_
  obtain ⟨zone, reading⟩ := r
  cases reading with
  | none => exact .none
  | some v =>
    have hfinite : v.isFinite = true := hp.soil _ hr v rfl
    exact .some ⟨parseTopic_zone gh zone,
      decodeReading_sensorReadingMsg hts (by decide) hfinite⟩

theorem actuatorFrames_convey (hp : Printable snapshot) (hts : Rfc3339.Exact instant) :
    List.Forall₂ (Conveys snapshot gh instant timeScale)
      (actuatorFrames snapshot gh.asStr (Rfc3339.format instant))
      (houseActuators.map .actuator) := by
  rw [actuatorFrames, List.forall₂_map_left_iff, List.forall₂_map_right_iff, List.forall₂_same]
  intro a ha
  have hname : a.wireName ∈ actuators := by
    cases a <;> decide
  exact ⟨parseTopic_actuator gh a, _, _, reports_position a _, reports_position a _,
    decodeActuator_object (decode_envelope rfl rfl rfl rfl) rfl
      (decode_outputState a (hp.commanded a ha)) (decode_outputState a (hp.observed a ha)) rfl hts
      hname⟩

theorem faultFrames_convey (hts : Rfc3339.Exact instant)
    (previouslyActive : Finset Controller.FaultKey) :
    List.Forall₂ (Conveys snapshot gh instant timeScale)
      (faultFrames snapshot gh.asStr (Rfc3339.format instant) previouslyActive)
      ((snapshot.faults.filter fun f => faultKey f ∉ previouslyActive).map .fault) := by
  rw [faultFrames, List.forall₂_map_left_iff, List.forall₂_map_right_iff, List.forall₂_same]
  intro f _
  exact ⟨parseTopic_fault gh, _, decodeFault_faultEventMsg hts f, rfl, rfl, fun h => if_neg h,
    fun h => if_neg h, eventSeverity_critical f.severity⟩

theorem stateFrame_conveys (hp : Printable snapshot) (hscale : timeScale.isFinite = true)
    (hts : Rfc3339.Exact instant) :
    Conveys snapshot gh instant timeScale
      (stateFrame snapshot gh.asStr (Rfc3339.format instant) timeScale) .state := by
  refine ⟨parseTopic_state gh, ?_⟩
  have htime : (statePayload snapshot gh.asStr (Rfc3339.format instant) timeScale).env.time =
      some instant := hts
  change (SystemStatePayload.decode (systemState snapshot gh.asStr (Rfc3339.format instant)
    timeScale)).bind _ = _
  rw [decode_systemState hp hscale, Option.bind_some, htime]
  rfl

/-- **Every frame conveys its item.** The frames of a tick are one for each trusted reading, one
for each actuator, one for each fault that was not active before and one for the state; each is
recognised and read back as what it tells, and is accepted where the greenhouse is registered. -/
theorem frames_convey (gh : Slug) (base : Int) {snapshot : Snapshot} (hp : Printable snapshot)
    {timeScale : F64} (hscale : timeScale.isFinite = true)
    (hts : Rfc3339.Exact (base + snapshot.simSeconds))
    (previouslyActive : Finset Controller.FaultKey) :
    List.Forall₂ (Conveys snapshot gh (base + snapshot.simSeconds) timeScale)
        (telemetryFrames snapshot gh.asStr base timeScale previouslyActive)
        (items snapshot previouslyActive) ∧
      (∀ frame ∈ telemetryFrames snapshot gh.asStr base timeScale previouslyActive,
        ∀ (known : List String) (fleet : Fleet) (now : Int), gh.asStr ∈ known →
          (handleMessage known fleet frame.topic frame.payload now).isSome = true) ∧
      ((telemetryFrames snapshot gh.asStr base timeScale previouslyActive).filter
        (·.topic == faultTopic gh.asStr)).length =
          snapshot.faults.countP fun f => faultKey f ∉ previouslyActive := by
  have hconvey : List.Forall₂ (Conveys snapshot gh (base + snapshot.simSeconds) timeScale)
      (telemetryFrames snapshot gh.asStr base timeScale previouslyActive)
      (items snapshot previouslyActive) :=
    List.rel_append (List.rel_append (List.rel_append (List.rel_append
      (houseFrames_convey hp hts) (soilFrames_convey hp hts)) (actuatorFrames_convey hp hts))
        (faultFrames_convey hts previouslyActive)) (.cons (stateFrame_conveys hp hscale hts) .nil)
  refine ⟨hconvey, ?_, ?_⟩
  · have haccepted := hconvey.imp fun frame item h =>
      And.intro (fun (known : List String) (fleet : Fleet) (now : Int)
        (hknown : gh.asStr ∈ known) => h.accepted hknown fleet now) h
    exact ((List.forall₂_and_left _ _).1 haccepted).1
  · rw [faultFrames_of_topic, length_faultFrames]

end Frames

/-! ## On the bench -/

section Bench

attribute [local instance] Bench.gregorian

theorem slugValid_benchHouse : slugValid "gh-a" = true := by decide

/-- The greenhouse of the bench. -/
def benchHouse : Slug := ⟨"gh-a", slugValid_benchHouse⟩

theorem printable_snapshot (faults : List Fault) : Printable (Bench.snapshot faults) where
  house := by
    change ∀ r ∈ houseReadings (Bench.snapshot []).trusted, ∀ v ∈ r.2.1, v.isFinite = true
    decide
  soil := by
    change ∀ r ∈ (Bench.snapshot []).trusted.soilMoisture.toList, ∀ v ∈ r.2, v.isFinite = true
    decide
  commanded := by
    change ∀ a ∈ houseActuators, ((Bench.snapshot []).commanded.get (.house a)).isFinite = true
    decide
  observed := by
    change ∀ a ∈ houseActuators, ((Bench.snapshot []).observed.get (.house a)).isFinite = true
    decide
  dli := rfl
  tickIndex := by
    change 10 < 2 ^ 63
    decide

/-- Ten seconds into a run, with a jammed heater. -/
theorem frames_convey_jammed :
    List.Forall₂ (Conveys (Bench.snapshot [jammedHeater]) benchHouse (epoch + 10) 1)
      (telemetryFrames (Bench.snapshot [jammedHeater]) benchHouse.asStr epoch 1 ∅)
      (items (Bench.snapshot [jammedHeater]) ∅) := by
  have hscale : (1 : F64).isFinite = true := rfl
  have hts : Rfc3339.Exact (epoch + 10) := by
    change Bench.parseInstant _ = _
    decide
  exact (frames_convey benchHouse epoch (printable_snapshot [jammedHeater]) hscale hts ∅).1

end Bench

end Greenhouse.Contract
