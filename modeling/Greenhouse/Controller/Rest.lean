import Greenhouse.Controller.Pipeline

/-!
# The REST surface

What the handlers of the inbound write path decide from the published view: a request is
either refused with a response, or accepted with a latched command for the tick task.
Only the endpoints of setpoints, zones and overrides are embedded; timestamps in their
responses, authentication and the simulation endpoints are left out.

* `applySetpointsPatch_eq_ok`, `applyZonePatch_eq_ok`: an accepted patch overwrites the
  fields it names and leaves the others.
* `overwrite_eq_iff`: two objects become equal under a patch exactly when they agree off
  its fields.
* `putOverride_isPct`: an admitted override level is a percentage.
-/

namespace Greenhouse.Controller

open Greenhouse.Numeric Std

/-! ## The read model -/

/-- A zone's configuration with its live state. -/
structure ZoneStatus where
  zoneId : String
  moistureLowThreshold : F64
  moistureHighThreshold : F64
  drainPeriodSecs : Nat
  schedule : String
  soilMoistureVwc : Option F64
  irrigating : Bool
  faulted : Bool
  deriving DecidableEq

/-- The view the handlers answer from, published by the tick task. -/
structure RuntimeView where
  setpoints : Setpoints
  zoneConfigs : List Zone
  zones : List ZoneStatus
  overrideTimeoutSecs : Nat
  deriving DecidableEq

def zoneStatus (snapshot : Snapshot) (zone : Zone) : ZoneStatus :=
  let soil := (snapshot.trusted.soilMoisture[zone.id]?).join
  { zoneId := zone.id.asStr
    moistureLowThreshold := zone.moistureLowThreshold
    moistureHighThreshold := zone.moistureHighThreshold
    drainPeriodSecs := zone.drainPeriodSecs
    schedule := zone.schedule.toString
    soilMoistureVwc := soil
    irrigating := 0 < snapshot.commanded.get (.valve zone.id)
    faulted := soil.isNone || snapshot.faults.any (·.zoneId == some zone.id) }

/-- Build the view from the committed snapshot and the pipeline. -/
def buildView {H : Type} (pipeline : Pipeline H) (snapshot : Snapshot) : RuntimeView where
  setpoints := pipeline.config.setpoints
  zoneConfigs := pipeline.config.zones
  zones := pipeline.config.zones.map (zoneStatus snapshot)
  overrideTimeoutSecs := pipeline.config.safety.overrideTimeoutSecs

/-! ## Responses and commands -/

/-- A refusal: `404` with a message, or `422` with the violated field. -/
inductive Refusal where
  | notFound (message : String)
  | unprocessable (violation : FieldViolation)
  deriving DecidableEq

/-- A latched mutation the tick task applies between ticks. -/
inductive Command where
  | setSetpoints (setpoints : Setpoints)
  | setZone (zone : Zone)
  | setOverride (id : ActuatorId) (level : F64) (ttlSecs : Nat)
  | clearOverride (id : ActuatorId)
  deriving DecidableEq

/-- The first violation a validator reports. -/
def firstViolation (violations : List FieldViolation) : Option FieldViolation := violations.head?

theorem firstViolation_eq_none {violations : List FieldViolation} :
    firstViolation violations = none ↔ violations = [] := List.head?_eq_none_iff

def unknownGreenhouse : Refusal := .notFound "unknown greenhouse"

def emptyBody : Refusal := .unprocessable (.new "body" "at least one field required" .null)

/-! ## Setpoints -/

/-- A partial update of the setpoints. -/
structure SetpointsPatch where
  temperatureDayC : Option F64 := none
  temperatureNightC : Option F64 := none
  dayStart : Option String := none
  dayEnd : Option String := none
  humidityLowPct : Option F64 := none
  humidityHighPct : Option F64 := none
  humidityDeadbandPct : Option F64 := none
  co2TargetPpm : Option Nat := none
  co2VentInterlockThresholdPct : Option F64 := none
  vpdTargetKpa : Option F64 := none
  dliTargetMol : Option F64 := none
  expectedPeakPar : Option F64 := none
  deriving DecidableEq

def SetpointsPatch.isEmpty (p : SetpointsPatch) : Bool :=
  p.temperatureDayC.isNone && p.temperatureNightC.isNone && p.dayStart.isNone
  && p.dayEnd.isNone && p.humidityLowPct.isNone && p.humidityHighPct.isNone
  && p.humidityDeadbandPct.isNone && p.co2TargetPpm.isNone
  && p.co2VentInterlockThresholdPct.isNone && p.vpdTargetKpa.isNone && p.dliTargetMol.isNone
  && p.expectedPeakPar.isNone

def parseTime (value field : String) : Except FieldViolation TimeOfDay :=
  match TimeOfDay.fromStr value with
  | some t => .ok t
  | none => .error (.new field "HH:MM" (.string value))

/-- The time a patch names, or else the current one. -/
def patchTime (current : TimeOfDay) (value : Option String) (field : String) :
    Except FieldViolation TimeOfDay :=
  match value with
  | some value => parseTime value field
  | none => .ok current

def applySetpointsPatch (sp : Setpoints) (patch : SetpointsPatch) :
    Except FieldViolation Setpoints := do
  let dayStart ← patchTime sp.dayStart patch.dayStart "day_start"
  let dayEnd ← patchTime sp.dayEnd patch.dayEnd "day_end"
  let sp := {
    temperatureDayC := patch.temperatureDayC.getD sp.temperatureDayC
    temperatureNightC := patch.temperatureNightC.getD sp.temperatureNightC
    dayStart := dayStart
    dayEnd := dayEnd
    humidityLowPct := patch.humidityLowPct.getD sp.humidityLowPct
    humidityHighPct := patch.humidityHighPct.getD sp.humidityHighPct
    humidityDeadbandPct := patch.humidityDeadbandPct.getD sp.humidityDeadbandPct
    co2TargetPpm := patch.co2TargetPpm.getD sp.co2TargetPpm
    co2VentInterlockThresholdPct :=
      patch.co2VentInterlockThresholdPct.getD sp.co2VentInterlockThresholdPct
    vpdTargetKpa := patch.vpdTargetKpa.getD sp.vpdTargetKpa
    dliTargetMol := patch.dliTargetMol.getD sp.dliTargetMol
    expectedPeakPar := patch.expectedPeakPar.getD sp.expectedPeakPar }
  match firstViolation sp.validate with
  | some v => .error v
  | none => .ok sp

/-- The patched setpoints are the command and the response body. -/
def patchSetpoints (greenhouseId gh : String) (view : RuntimeView) (patch : SetpointsPatch) :
    Except Refusal Setpoints :=
  if gh ≠ greenhouseId then .error unknownGreenhouse
  else if patch.isEmpty then .error emptyBody
  else
    match applySetpointsPatch view.setpoints patch with
    | .ok candidate => .ok candidate
    | .error v => .error (.unprocessable v)

/-! ## Zones -/

/-- A partial update of a zone. -/
structure ZoneConfigPatch where
  moistureLowThreshold : Option F64 := none
  moistureHighThreshold : Option F64 := none
  drainPeriodSecs : Option Nat := none
  schedule : Option String := none
  deriving DecidableEq

def ZoneConfigPatch.isEmpty (p : ZoneConfigPatch) : Bool :=
  p.moistureLowThreshold.isNone && p.moistureHighThreshold.isNone && p.drainPeriodSecs.isNone
  && p.schedule.isNone

/-- The schedule a patch names, or else the current one. -/
def patchSchedule (current : Schedule) (value : Option String) : Except FieldViolation Schedule :=
  match value with
  | some value =>
    match Schedule.fromStr value with
    | some s => .ok s
    | none => .error (.new "schedule" "comma-separated HH:MM" (.string value))
  | none => .ok current

def applyZonePatch (zone : Zone) (patch : ZoneConfigPatch) : Except FieldViolation Zone := do
  let schedule ← patchSchedule zone.schedule patch.schedule
  let zone := {
    id := zone.id
    moistureLowThreshold := patch.moistureLowThreshold.getD zone.moistureLowThreshold
    moistureHighThreshold := patch.moistureHighThreshold.getD zone.moistureHighThreshold
    drainPeriodSecs := patch.drainPeriodSecs.getD zone.drainPeriodSecs
    schedule := schedule }
  match firstViolation zone.validate with
  | some v => .error v
  | none => .ok zone

/-- The status a zone patch is answered with: the accepted configuration, the live fields. -/
def ZoneStatus.accepting (status : ZoneStatus) (zone : Zone) : ZoneStatus :=
  { status with
    moistureLowThreshold := zone.moistureLowThreshold
    moistureHighThreshold := zone.moistureHighThreshold
    drainPeriodSecs := zone.drainPeriodSecs
    schedule := zone.schedule.toString }

/-- The patched zone is the command, the status the response body. -/
def patchZone (greenhouseId gh zoneId : String) (view : RuntimeView) (patch : ZoneConfigPatch) :
    Except Refusal (Zone × ZoneStatus) :=
  if gh ≠ greenhouseId then .error unknownGreenhouse
  else if patch.isEmpty then .error emptyBody
  else
    match view.zoneConfigs.find? (·.id.asStr == zoneId),
      view.zones.find? (·.zoneId == zoneId) with
    | some zone, some status =>
      match applyZonePatch zone patch with
      | .ok zone => .ok (zone, status.accepting zone)
      | .error v => .error (.unprocessable v)
    | _, _ => .error (.notFound "unknown zone")

/-! ## Overrides -/

/-- Pure on/off actuators take no level. -/
def isOnOff : Actuator → Bool
  | .misters | .co2Injector | .irrigationValve => true
  | _ => false

def parseActuator : String → Option Actuator
  | "heater" => some .heater
  | "fans" => some .fans
  | "roof_vents" => some .roofVents
  | "misters" => some .misters
  | "co2_injector" => some .co2Injector
  | "grow_lights" => some .growLights
  | "shade_screen" => some .shadeScreen
  | "irrigation_valve" => some .irrigationValve
  | _ => none

structure OutputState where
  on : Bool
  levelPct : Option F64
  deriving DecidableEq

/-- A request to force an actuator. -/
structure OverridePut where
  state : OutputState
  ttlSecs : Option Nat := none
  zoneId : Option String := none
  deriving DecidableEq

/-- An explicit zero deadline is refused. -/
def ttlViolation (ttl : Option Nat) : Option FieldViolation :=
  if ttl = some 0 then some (.new "ttl_secs" "minimum 1" (.number 0)) else none

def overrideLevel (actuator : Actuator) (state : OutputState) : F64 :=
  if !state.on then 0
  else if isOnOff actuator then 100
  else (state.levelPct.getD 100).clampPct

/-- The level violates its bound for the actuator. -/
def levelViolation (actuator : Actuator) (level : Option F64) : Option FieldViolation :=
  match level with
  | some level =>
    if isOnOff actuator then
      some (.new "level_pct" "must be null for an on/off actuator" level.toJson)
    else if ¬ (0 ≤ level ∧ level ≤ 100) then some (.new "level_pct" "0..=100" level.toJson)
    else none
  | none => none

/-- The valve needs a zone, the house actuators forbid one. -/
def overrideZoneSelector (actuator : Actuator) (zoneId : Option String) :
    Except FieldViolation (Option Slug) :=
  match actuator with
  | .irrigationValve =>
    match zoneId.bind Slug.fromStr with
    | some zone => .ok (some zone)
    | none => .error (.new "zone_id" "required for irrigation_valve" .null)
  | _ =>
    match zoneId with
    | some zone => .error (.new "zone_id" "must be null for a house-level actuator" (.string zone))
    | none => .ok none

/-- The address an override is for. -/
def overrideTarget (view : RuntimeView) (actuator : Actuator) (zoneId : Option String) :
    Except FieldViolation ActuatorId :=
  match overrideZoneSelector actuator zoneId with
  | .ok (some zone) =>
    if view.zones.any (·.zoneId == zone.asStr) then .ok (.valve zone)
    else .error (.new "zone_id" "unknown zone" (.string zone.asStr))
  | .ok none => .ok (.house actuator)
  | .error v => .error v

/-- The checks are made in this order: deadline, level, zone. -/
def putOverride (greenhouseId gh actuator : String) (view : RuntimeView) (body : OverridePut) :
    Except Refusal Command :=
  if gh ≠ greenhouseId then .error unknownGreenhouse
  else
    match parseActuator actuator with
    | none => .error (.notFound "unknown actuator")
    | some act =>
      match ttlViolation body.ttlSecs, levelViolation act body.state.levelPct,
        overrideTarget view act body.zoneId with
      | some v, _, _ => .error (.unprocessable v)
      | none, some v, _ => .error (.unprocessable v)
      | none, none, .error v => .error (.unprocessable v)
      | none, none, .ok id =>
        .ok (.setOverride id (overrideLevel act body.state)
          (body.ttlSecs.getD view.overrideTimeoutSecs))

def deleteOverride (greenhouseId gh actuator : String) (zoneId : Option String) :
    Except Refusal Command :=
  if gh ≠ greenhouseId then .error unknownGreenhouse
  else
    match parseActuator actuator with
    | none => .error (.notFound "unknown actuator")
    | some .irrigationValve =>
      match zoneId.bind Slug.fromStr with
      | some zone => .ok (.clearOverride (.valve zone))
      | none => .error (.notFound "zone_id required for irrigation_valve")
    | some act => .ok (.clearOverride (.house act))

/-! ## What an accepted patch does -/

theorem Except.bind_eq_ok {ε α β : Type} {x : Except ε α} {f : α → Except ε β} {b : β}
    (h : (x >>= f) = .ok b) : ∃ a, x = .ok a ∧ f a = .ok b := by
  cases x with
  | error e => cases h
  | ok a => exact ⟨a, rfl, h⟩

/-- A named value takes the place of both, an unnamed one of neither. -/
theorem getD_eq_getD_iff {α : Type} {o : Option α} {x y : α} :
    o.getD x = o.getD y ↔ (o = none → x = y) := by
  cases o <;> simp

namespace SetpointsPatch

/-- The setpoints with the fields of the patch in place of their own. -/
def overwrite (p : SetpointsPatch) (sp : Setpoints) : Setpoints where
  temperatureDayC := p.temperatureDayC.getD sp.temperatureDayC
  temperatureNightC := p.temperatureNightC.getD sp.temperatureNightC
  dayStart := (p.dayStart.bind TimeOfDay.fromStr).getD sp.dayStart
  dayEnd := (p.dayEnd.bind TimeOfDay.fromStr).getD sp.dayEnd
  humidityLowPct := p.humidityLowPct.getD sp.humidityLowPct
  humidityHighPct := p.humidityHighPct.getD sp.humidityHighPct
  humidityDeadbandPct := p.humidityDeadbandPct.getD sp.humidityDeadbandPct
  co2TargetPpm := p.co2TargetPpm.getD sp.co2TargetPpm
  co2VentInterlockThresholdPct :=
    p.co2VentInterlockThresholdPct.getD sp.co2VentInterlockThresholdPct
  vpdTargetKpa := p.vpdTargetKpa.getD sp.vpdTargetKpa
  dliTargetMol := p.dliTargetMol.getD sp.dliTargetMol
  expectedPeakPar := p.expectedPeakPar.getD sp.expectedPeakPar

/-- Two setpoints agree on the fields the patch does not name. -/
structure AgreeOff (p : SetpointsPatch) (a b : Setpoints) : Prop where
  temperatureDayC : p.temperatureDayC = none → a.temperatureDayC = b.temperatureDayC
  temperatureNightC : p.temperatureNightC = none → a.temperatureNightC = b.temperatureNightC
  dayStart : p.dayStart.bind TimeOfDay.fromStr = none → a.dayStart = b.dayStart
  dayEnd : p.dayEnd.bind TimeOfDay.fromStr = none → a.dayEnd = b.dayEnd
  humidityLowPct : p.humidityLowPct = none → a.humidityLowPct = b.humidityLowPct
  humidityHighPct : p.humidityHighPct = none → a.humidityHighPct = b.humidityHighPct
  humidityDeadbandPct : p.humidityDeadbandPct = none →
    a.humidityDeadbandPct = b.humidityDeadbandPct
  co2TargetPpm : p.co2TargetPpm = none → a.co2TargetPpm = b.co2TargetPpm
  co2VentInterlockThresholdPct : p.co2VentInterlockThresholdPct = none →
    a.co2VentInterlockThresholdPct = b.co2VentInterlockThresholdPct
  vpdTargetKpa : p.vpdTargetKpa = none → a.vpdTargetKpa = b.vpdTargetKpa
  dliTargetMol : p.dliTargetMol = none → a.dliTargetMol = b.dliTargetMol
  expectedPeakPar : p.expectedPeakPar = none → a.expectedPeakPar = b.expectedPeakPar

theorem overwrite_eq_iff {p : SetpointsPatch} {a b : Setpoints} :
    p.overwrite a = p.overwrite b ↔ p.AgreeOff a b := by
  simp only [overwrite, Setpoints.mk.injEq, getD_eq_getD_iff]
  constructor
  · rintro ⟨h₁, h₂, h₃, h₄, h₅, h₆, h₇, h₈, h₉, h₁₀, h₁₁, h₁₂⟩
    exact ⟨h₁, h₂, h₃, h₄, h₅, h₆, h₇, h₈, h₉, h₁₀, h₁₁, h₁₂⟩
  · rintro ⟨h₁, h₂, h₃, h₄, h₅, h₆, h₇, h₈, h₉, h₁₀, h₁₁, h₁₂⟩
    exact ⟨h₁, h₂, h₃, h₄, h₅, h₆, h₇, h₈, h₉, h₁₀, h₁₁, h₁₂⟩

end SetpointsPatch

theorem patchTime_eq_ok {current t : TimeOfDay} {value : Option String} {field : String}
    (h : patchTime current value field = .ok t) :
    t = (value.bind TimeOfDay.fromStr).getD current := by
  unfold patchTime parseTime at h
  split at h
  · split at h
    case h_1 value t' ht =>
      cases h
      rw [Option.bind_some, ht]
      rfl
    case h_2 => cases h
  · cases h
    rfl

/-- **An accepted patch overwrites its fields**, and the result is valid. -/
theorem applySetpointsPatch_eq_ok {sp sp' : Setpoints} {patch : SetpointsPatch}
    (h : applySetpointsPatch sp patch = .ok sp') :
    sp' = patch.overwrite sp ∧ sp'.validate = [] := by
  obtain ⟨dayStart, hstart, h⟩ := Except.bind_eq_ok h
  obtain ⟨dayEnd, hend, h⟩ := Except.bind_eq_ok h
  dsimp only at h
  split at h
  case h_1 => cases h
  case h_2 hvalid =>
    cases h
    rw [patchTime_eq_ok hstart, patchTime_eq_ok hend] at hvalid ⊢
    exact ⟨rfl, firstViolation_eq_none.1 hvalid⟩

/-- A patch whose times parse and whose result is valid is accepted. -/
theorem applySetpointsPatch_of_valid {sp : Setpoints} {patch : SetpointsPatch}
    {dayStart dayEnd : TimeOfDay}
    (hstart : patchTime sp.dayStart patch.dayStart "day_start" = .ok dayStart)
    (hend : patchTime sp.dayEnd patch.dayEnd "day_end" = .ok dayEnd)
    (hvalid : (patch.overwrite sp).validate = []) :
    applySetpointsPatch sp patch = .ok (patch.overwrite sp) := by
  have hfirst := firstViolation_eq_none.2 hvalid
  unfold SetpointsPatch.overwrite at hfirst ⊢
  rw [← patchTime_eq_ok hstart, ← patchTime_eq_ok hend] at hfirst ⊢
  unfold applySetpointsPatch
  rw [hstart, hend]
  dsimp only [bind, Except.bind]
  rw [hfirst]

namespace ZoneConfigPatch

/-- The zone with the fields of the patch in place of its own. -/
def overwrite (p : ZoneConfigPatch) (z : Zone) : Zone where
  id := z.id
  moistureLowThreshold := p.moistureLowThreshold.getD z.moistureLowThreshold
  moistureHighThreshold := p.moistureHighThreshold.getD z.moistureHighThreshold
  drainPeriodSecs := p.drainPeriodSecs.getD z.drainPeriodSecs
  schedule := (p.schedule.bind Schedule.fromStr).getD z.schedule

/-- Two zones agree on the fields the patch does not name. -/
structure AgreeOff (p : ZoneConfigPatch) (a b : Zone) : Prop where
  moistureLowThreshold : p.moistureLowThreshold = none →
    a.moistureLowThreshold = b.moistureLowThreshold
  moistureHighThreshold : p.moistureHighThreshold = none →
    a.moistureHighThreshold = b.moistureHighThreshold
  drainPeriodSecs : p.drainPeriodSecs = none → a.drainPeriodSecs = b.drainPeriodSecs
  schedule : p.schedule.bind Schedule.fromStr = none → a.schedule = b.schedule

theorem overwrite_eq_iff {p : ZoneConfigPatch} {a b : Zone} (hid : a.id = b.id) :
    p.overwrite a = p.overwrite b ↔ p.AgreeOff a b := by
  simp only [overwrite, Zone.mk.injEq, getD_eq_getD_iff]
  constructor
  · rintro ⟨-, h₁, h₂, h₃, h₄⟩
    exact ⟨h₁, h₂, h₃, h₄⟩
  · rintro ⟨h₁, h₂, h₃, h₄⟩
    exact ⟨hid, h₁, h₂, h₃, h₄⟩

end ZoneConfigPatch

theorem patchSchedule_eq_ok {current s : Schedule} {value : Option String}
    (h : patchSchedule current value = .ok s) :
    s = (value.bind Schedule.fromStr).getD current := by
  unfold patchSchedule at h
  split at h
  · split at h
    case h_1 value s' hs =>
      cases h
      rw [Option.bind_some, hs]
      rfl
    case h_2 => cases h
  · cases h
    rfl

theorem applyZonePatch_eq_ok {z z' : Zone} {patch : ZoneConfigPatch}
    (h : applyZonePatch z patch = .ok z') : z' = patch.overwrite z ∧ z'.validate = [] := by
  obtain ⟨schedule, hsched, h⟩ := Except.bind_eq_ok h
  dsimp only at h
  split at h
  case h_1 => cases h
  case h_2 hvalid =>
    cases h
    rw [patchSchedule_eq_ok hsched] at hvalid ⊢
    exact ⟨rfl, firstViolation_eq_none.1 hvalid⟩

/-- A patch whose schedule parses and whose result is valid is accepted. -/
theorem applyZonePatch_of_valid {z : Zone} {patch : ZoneConfigPatch} {schedule : Schedule}
    (hsched : patchSchedule z.schedule patch.schedule = .ok schedule)
    (hvalid : (patch.overwrite z).validate = []) :
    applyZonePatch z patch = .ok (patch.overwrite z) := by
  have hfirst := firstViolation_eq_none.2 hvalid
  unfold ZoneConfigPatch.overwrite at hfirst ⊢
  rw [← patchSchedule_eq_ok hsched] at hfirst ⊢
  unfold applyZonePatch
  rw [hsched]
  dsimp only [bind, Except.bind]
  rw [hfirst]

section Accepted

variable {greenhouseId gh : String} {view : RuntimeView}

theorem patchSetpoints_eq_ok {patch : SetpointsPatch} {sp : Setpoints}
    (h : patchSetpoints greenhouseId gh view patch = .ok sp) :
    sp = patch.overwrite view.setpoints := by
  unfold patchSetpoints at h
  split at h
  · cases h
  · split at h
    · cases h
    · split at h
      case h_1 candidate hc =>
        cases h
        exact (applySetpointsPatch_eq_ok hc).1
      case h_2 => cases h

theorem patchZone_eq_ok {zoneId : String} {patch : ZoneConfigPatch} {z : Zone}
    {status : ZoneStatus} (h : patchZone greenhouseId gh zoneId view patch = .ok (z, status)) :
    ∃ z₀, view.zoneConfigs.find? (·.id.asStr == zoneId) = some z₀ ∧ z = patch.overwrite z₀ := by
  unfold patchZone at h
  split at h
  · cases h
  · split at h
    · cases h
    · split at h
      case h_1 z₀ status₀ hz₀ hstatus =>
        split at h
        case h_1 z' hz' =>
          cases h
          exact ⟨z₀, hz₀, (applyZonePatch_eq_ok hz').1⟩
        case h_2 => cases h
      case h_2 => cases h

theorem levelViolation_eq_none {actuator : Actuator} {state : OutputState}
    (h : levelViolation actuator state.levelPct = none) :
    (overrideLevel actuator state).IsPct := by
  unfold overrideLevel
  split
  · exact F64.isPct_zero
  · split
    · exact F64.isPct_hundred
    · refine F64.isPct_clampPct fun hnan => ?_
      cases hlevel : state.levelPct with
      | none =>
        rw [hlevel] at hnan
        cases hnan
      | some level =>
        rw [hlevel] at hnan h
        obtain rfl : level = .nan := hnan
        unfold levelViolation at h
        dsimp only at h
        split at h
        · cases h
        · rw [if_pos (by decide)] at h
          cases h

/-- **An admitted override level is a percentage.** -/
theorem putOverride_isPct {actuator : String} {body : OverridePut} {id : ActuatorId}
    {level : F64} {ttlSecs : Nat}
    (h : putOverride greenhouseId gh actuator view body = .ok (.setOverride id level ttlSecs)) :
    level.IsPct := by
  unfold putOverride at h
  split at h
  · cases h
  · split at h
    · cases h
    · split at h
      case h_4 hlevel _ =>
        cases h
        exact levelViolation_eq_none hlevel
      all_goals cases h

end Accepted

end Greenhouse.Controller
