import Greenhouse.Process.Overlay
import Greenhouse.Controller.Bench
import Greenhouse.Controller.RunLoop
import Greenhouse.Controller.Simulation

/-!
# The registry of sensor injections

The runtime keeps a listing of the injections it has been asked for, next to the simulated
backend, which keeps the values its channels are forced to. A command sets or clears both;
each has expiry code of its own.

* `putInjection_admitted`, `deleteInjection_admitted`: what the handlers let through.
* `Runtime.Sound`: the two tables agree, but for the records that have become due.
* `Runtime.mirrored_iff`: in which runs the listing mirrors the plant on every tick.
-/

namespace Greenhouse.Controller

open Greenhouse.Numeric Greenhouse.Process Std

/-! ## Requests -/

/-- What an injection is listed under: a metric, with a probe or a zone. -/
structure InjectionKey where
  metric : String
  probeIndex : Option Nat
  zoneId : Option Slug
  deriving DecidableEq

structure InjectionSpec where
  key : InjectionKey
  value : F64
  ttlSecs : Option Nat
  deriving DecidableEq

/-- The latched mutations of the simulation endpoints. -/
inductive SimulationCommand where
  | injectSensor (spec : InjectionSpec)
  | clearInjection (key : InjectionKey)
  | setTimeScale (scale : F64)
  deriving DecidableEq

structure SensorInjectionPut where
  value : F64
  probeIndex : Option Nat := none
  zoneId : Option String := none
  ttlSecs : Option Nat := none

/-- An injection as it is listed; its instants are simulated seconds. -/
structure SensorInjectionDto where
  metric : String
  value : F64
  probeIndex : Option Nat
  zoneId : Option String
  createdAt : Nat
  expiresAt : Nat
  deriving DecidableEq

/-- The view with what the simulation endpoints answer from. -/
structure SimulationView extends RuntimeView where
  injections : List SensorInjectionDto
  timeScale : F64
  injectionDefaultTtlSecs : Nat
  probeCount : Nat

structure PlausibilityBounds where
  temperature : Bounds
  humidity : Bounds
  co2 : Bounds
  par : Bounds
  soilMoisture : Bounds

def PlausibilityBounds.forMetric (b : PlausibilityBounds) : String → Option Bounds
  | "temperature" => some b.temperature
  | "humidity" => some b.humidity
  | "co2" => some b.co2
  | "par" => some b.par
  | "soil_moisture" => some b.soilMoisture
  | _ => none

def isInjectableMetric (metric : String) : Bool :=
  metric ∈ ["temperature", "humidity", "co2", "par", "soil_moisture"]

def injectionValueViolation (metric : String) (value : F64) (bounds : PlausibilityBounds) :
    Option FieldViolation :=
  if ¬ value.isFinite then some (.new "value" "must be finite" .null)
  else
    match bounds.forMetric metric with
    | some b =>
      if b.contains value then none
      else some (.new "value" ("[" ++ b.min.display ++ ", " ++ b.max.display ++ "]") value.toJson)
    | none => none

/-- Soil moisture needs a zone, every other metric forbids one. -/
def injectionZoneSelector (metric : String) (zoneId : Option String) :
    Except FieldViolation (Option Slug) :=
  if metric = "soil_moisture" then
    match zoneId.bind Slug.fromStr with
    | some zone => .ok (some zone)
    | none => .error (.new "zone_id" "required for soil_moisture" .null)
  else
    match zoneId with
    | some zone => .error (.new "zone_id" "only valid for soil_moisture" (.string zone))
    | none => .ok none

/-- The zone an injection is for. -/
def injectionZone (view : RuntimeView) (metric : String) (zoneId : Option String) :
    Except FieldViolation (Option Slug) :=
  match injectionZoneSelector metric zoneId with
  | .ok (some zone) =>
    if view.zones.any (·.zoneId == zone.asStr) then .ok (some zone)
    else .error (.new "zone_id" "unknown zone" (.string zone.asStr))
  | .ok none => .ok none
  | .error v => .error v

/-- A probe is for temperature only, and one of those there are. -/
def probeViolation (metric : String) (probeIndex : Option Nat) (probeCount : Nat) :
    Option FieldViolation :=
  match probeIndex with
  | some p =>
    if metric ≠ "temperature" then
      some (.new "probe_index" "only valid for temperature" (.number p))
    else if probeCount ≤ p then
      some (.new "probe_index" ("0.." ++ toString probeCount) (.number p))
    else none
  | none => none

def unknownMetric : Refusal := .notFound "unknown metric"

/-- The checks are made in this order: deadline, value, probe, zone. -/
def putInjection (greenhouseId gh metric : String) (bounds : PlausibilityBounds)
    (view : SimulationView) (body : SensorInjectionPut) : Except Refusal InjectionSpec :=
  if gh ≠ greenhouseId then .error unknownGreenhouse
  else if ¬ isInjectableMetric metric then .error unknownMetric
  else
    match ttlViolation body.ttlSecs, injectionValueViolation metric body.value bounds,
      probeViolation metric body.probeIndex view.probeCount,
      injectionZone view.toRuntimeView metric body.zoneId with
    | some v, _, _, _ => .error (.unprocessable v)
    | none, some v, _, _ => .error (.unprocessable v)
    | none, none, some v, _ => .error (.unprocessable v)
    | none, none, none, .error v => .error (.unprocessable v)
    | none, none, none, .ok zoneId =>
      .ok ⟨⟨metric, body.probeIndex, zoneId⟩, body.value, body.ttlSecs⟩

def deleteInjection (greenhouseId gh metric : String) (zoneId : Option String) :
    Except Refusal InjectionKey :=
  if gh ≠ greenhouseId then .error unknownGreenhouse
  else if ¬ isInjectableMetric metric then .error unknownMetric
  else
    match injectionZoneSelector metric zoneId with
    | .ok zoneId => .ok ⟨metric, none, zoneId⟩
    | .error v => .error (.unprocessable v)

/-- The key addresses sensors of a house with so many probes. -/
structure InjectionKey.Admitted (probeCount : Nat) (key : InjectionKey) : Prop where
  metric : isInjectableMetric key.metric = true
  probe : ∀ i, key.probeIndex = some i → key.metric = "temperature" ∧ i < probeCount
  zone : key.zoneId.isSome = true ↔ key.metric = "soil_moisture"

structure InjectionSpec.Admitted (probeCount : Nat) (spec : InjectionSpec) : Prop where
  key : spec.key.Admitted probeCount
  ttl : spec.ttlSecs ≠ some 0

theorem injectionZoneSelector_eq_ok {metric : String} {zoneId : Option String}
    {zone : Option Slug} (h : injectionZoneSelector metric zoneId = .ok zone) :
    zone.isSome = true ↔ metric = "soil_moisture" := by
  unfold injectionZoneSelector at h
  split at h
  case isTrue hm =>
    split at h
    · cases h
      exact iff_of_true rfl hm
    · cases h
  case isFalse hm =>
    split at h
    · cases h
    · cases h
      exact iff_of_false Bool.false_ne_true hm

theorem injectionZone_eq_ok {view : RuntimeView} {metric : String} {zoneId : Option String}
    {zone : Option Slug} (h : injectionZone view metric zoneId = .ok zone) :
    injectionZoneSelector metric zoneId = .ok zone := by
  unfold injectionZone at h
  split at h
  case h_1 z hz =>
    split at h
    · cases h
      exact hz
    · cases h
  case h_2 hz =>
    cases h
    exact hz
  case h_3 => cases h

theorem probeViolation_eq_none {metric : String} {probeIndex : Option Nat} {probeCount i : Nat}
    (h : probeViolation metric probeIndex probeCount = none) (hi : probeIndex = some i) :
    metric = "temperature" ∧ i < probeCount := by
  subst hi
  unfold probeViolation at h
  dsimp only at h
  split at h
  · cases h
  · split at h
    · cases h
    case isFalse hm hlt => exact ⟨not_not.1 hm, Nat.lt_of_not_le hlt⟩

/-- **An accepted request is admitted.** -/
theorem putInjection_admitted {greenhouseId gh metric : String} {bounds : PlausibilityBounds}
    {view : SimulationView} {body : SensorInjectionPut} {spec : InjectionSpec}
    (h : putInjection greenhouseId gh metric bounds view body = .ok spec) :
    spec.Admitted view.probeCount := by
  unfold putInjection at h
  split at h
  · cases h
  · split at h
    · cases h
    case isFalse hmetric =>
      split at h
      case h_5 zoneId httl hvalue hprobe hzone =>
        cases h
        refine ⟨⟨not_not.1 hmetric, fun i hi => probeViolation_eq_none hprobe hi,
          injectionZoneSelector_eq_ok (injectionZone_eq_ok hzone)⟩, fun hzero => ?_⟩
        rw [ttlViolation, if_pos hzero] at httl
        cases httl
      all_goals cases h

theorem deleteInjection_admitted {greenhouseId gh metric : String} {zoneId : Option String}
    {key : InjectionKey} (probeCount : Nat)
    (h : deleteInjection greenhouseId gh metric zoneId = .ok key) :
    key.Admitted probeCount ∧ key.probeIndex = none := by
  unfold deleteInjection at h
  split at h
  · cases h
  · split at h
    · cases h
    case isFalse hmetric =>
      split at h
      case h_1 zone hzone =>
        cases h
        exact ⟨⟨not_not.1 hmetric, fun _ hi => absurd hi (Option.some_ne_none _).symm,
          injectionZoneSelector_eq_ok hzone⟩, rfl⟩
      case h_2 => cases h

/-! ## The channels of a key -/

/-- The channels a key maps to; a temperature without a probe is all of them. -/
def channelsFor (key : InjectionKey) (probeCount : Nat) : List SensorChannel :=
  match key.metric with
  | "temperature" =>
    match key.probeIndex with
    | some i => [.temperatureProbe i]
    | none => (List.range probeCount).map .temperatureProbe
  | "humidity" => [.humidity]
  | "co2" => [.co2]
  | "par" => [.par]
  | "soil_moisture" => (key.zoneId.map fun z => [.soilMoisture z]).getD []
  | _ => []

/-- The key covers the channel. -/
def covers (probeCount : Nat) (key : InjectionKey) (c : SensorChannel) : Bool :=
  c ∈ channelsFor key probeCount

/-- The metric a channel measures. -/
def SensorChannel.metric : SensorChannel → String
  | temperatureProbe _ => "temperature"
  | humidity => "humidity"
  | co2 => "co2"
  | par => "par"
  | soilMoisture _ => "soil_moisture"

/-- The zone a channel measures in. -/
def SensorChannel.zone : SensorChannel → Option Slug
  | soilMoisture z => some z
  | _ => none

theorem injectable_cases {metric : String} (h : isInjectableMetric metric = true) :
    metric = "temperature" ∨ metric = "humidity" ∨ metric = "co2" ∨ metric = "par" ∨
      metric = "soil_moisture" := by
  simpa [isInjectableMetric] using h

/-- **What an admitted key covers**: the channels of its metric and zone, and its probe. -/
theorem InjectionKey.Admitted.covers_iff {probeCount : Nat} {key : InjectionKey}
    (h : key.Admitted probeCount) {c : SensorChannel} :
    covers probeCount key c = true ↔ key.metric = c.metric ∧ key.zoneId = c.zone ∧
      ∀ i, c = .temperatureProbe i →
        i < probeCount ∧ (key.probeIndex = none ∨ key.probeIndex = some i) := by
  obtain ⟨metric, probe, zone⟩ := key
  obtain ⟨hmetric, hprobe, hzone⟩ := h
  dsimp only at hmetric hprobe hzone ⊢
  rw [covers, decide_eq_true_iff]
  rcases injectable_cases hmetric with rfl | rfl | rfl | rfl | rfl
  · obtain rfl : zone = none := by simpa using hzone
    cases probe with
    | none => cases c <;> simp [channelsFor, SensorChannel.metric, SensorChannel.zone]
    | some i =>
      have hi := (hprobe i rfl).2
      cases c <;> simp [channelsFor, SensorChannel.metric, SensorChannel.zone]
      omega
  · obtain rfl : zone = none := by simpa using hzone
    cases c <;> simp [channelsFor, SensorChannel.metric, SensorChannel.zone]
  · obtain rfl : zone = none := by simpa using hzone
    cases c <;> simp [channelsFor, SensorChannel.metric, SensorChannel.zone]
  · obtain rfl : zone = none := by simpa using hzone
    cases c <;> simp [channelsFor, SensorChannel.metric, SensorChannel.zone]
  · obtain ⟨z, rfl⟩ : ∃ z, zone = some z := Option.isSome_iff_exists.1 (hzone.2 rfl)
    cases c <;> simp [channelsFor, SensorChannel.metric, SensorChannel.zone, eq_comm]

/-- Among the keys that cover a channel, those of the metric and the zone of a key without a
probe are those it covers the channel with. -/
theorem InjectionKey.Admitted.covers_whole {probeCount : Nat} {key k : InjectionKey}
    (hkey : key.Admitted probeCount) (hwhole : key.probeIndex = none)
    (hk : k.Admitted probeCount) {c : SensorChannel} (hc : covers probeCount k c = true) :
    covers probeCount key c = true ↔ k.metric = key.metric ∧ k.zoneId = key.zoneId := by
  obtain ⟨hmetric, hzone, hprobe⟩ := hk.covers_iff.1 hc
  rw [hkey.covers_iff, hmetric, hzone, eq_comm (a := c.metric), eq_comm (a := c.zone)]
  refine and_congr_right fun _ => and_iff_left fun i hi => ?_
  exact ⟨(hprobe i hi).1, Or.inl hwhole⟩

/-! ## The runtime -/

/-- Bookkeeping of an injection, for the listing. -/
structure InjectionRecord where
  value : F64
  createdAtSeconds : Nat
  expiresAtSeconds : Nat

/-- The tick task between two ticks. -/
structure Runtime where
  pipeline : Pipeline SimulatedHal
  injections : Listing InjectionKey InjectionRecord := .empty
  timeScale : F64
  timeScaleUpdatedAtSeconds : Nat
  last : Option Snapshot := none

namespace Runtime

def mapHal (s : Runtime) (f : SimulatedHal → SimulatedHal) : Runtime :=
  { s with pipeline := { s.pipeline with hal := f s.pipeline.hal } }

/-- Apply a latched command to the backend and the registry. -/
def applyCommand (s : Runtime) (injectionDefaultTtl probeCount : Nat) :
    SimulationCommand → Runtime
  | .injectSensor spec =>
    let now := s.pipeline.clock.simSeconds
    let ttl := spec.ttlSecs.getD injectionDefaultTtl
    { s.mapHal fun hal => (channelsFor spec.key probeCount).foldl
        (fun hal channel => hal.injectSensor channel spec.value spec.ttlSecs) hal with
      injections := s.injections.insert spec.key ⟨spec.value, now, saturatingAdd now ttl⟩ }
  | .clearInjection key =>
    { s.mapHal fun hal =>
        (channelsFor key probeCount).foldl SimulatedHal.clearSensorInjection hal with
      injections := s.injections.retain fun k _ =>
        !(k.metric == key.metric && k.zoneId == key.zoneId) }
  | .setTimeScale scale =>
    { s.mapHal fun hal => hal.setTimeScale scale with
      timeScale := scale
      timeScaleUpdatedAtSeconds := s.pipeline.clock.simSeconds }

/-- The deadline of the record has passed. -/
def due (now : Nat) (rec : InjectionRecord) : Bool := rec.expiresAtSeconds ≤ now

/-- Drop one injection, clearing its channels. -/
def drop (probeCount : Nat) (s : Runtime) (key : InjectionKey) : Runtime :=
  { s.mapHal fun hal =>
      (channelsFor key probeCount).foldl SimulatedHal.clearSensorInjection hal with
    injections := s.injections.retain fun k _ => k != key }

/-- Drop the injections whose deadline has passed. -/
def pruneInjections (s : Runtime) (probeCount : Nat) : Runtime :=
  let now := s.pipeline.clock.simSeconds
  let expired := (s.injections.entries.filter fun e => due now e.2).map Prod.fst
  expired.foldl (drop probeCount) s

/-- The injections as they are listed. -/
def listing (s : Runtime) : List SensorInjectionDto :=
  s.injections.entries.map fun (key, rec) => {
    metric := key.metric
    value := rec.value
    probeIndex := key.probeIndex
    zoneId := key.zoneId.map Slug.asStr
    createdAt := rec.createdAtSeconds
    expiresAt := rec.expiresAtSeconds }

/-- The view the simulation endpoints answer from. -/
def simulationView (s : Runtime) (injectionDefaultTtl probeCount : Nat) (snapshot : Snapshot) :
    SimulationView :=
  { buildView s.pipeline snapshot with
    injections := s.listing
    timeScale := s.timeScale
    injectionDefaultTtlSecs := injectionDefaultTtl
    probeCount := probeCount }

/-! ### What the operations do to the tables -/

/-- The value a channel is forced to, with its lifetime. -/
def effect (s : Runtime) (c : SensorChannel) : Option SensorInjection :=
  s.pipeline.hal.sensorInjections[c]?

/-- The latest listed injection that covers a channel. -/
def latest (s : Runtime) (probeCount : Nat) (c : SensorChannel) :
    Option (InjectionKey × InjectionRecord) :=
  s.injections.inForce (covers probeCount) c

theorem foldl_injectSensor {value : F64} {ttl : Option Nat} {channels : List SensorChannel} :
    ∀ hal : SimulatedHal,
      (channels.foldl (fun hal c => hal.injectSensor c value ttl) hal) =
        { hal with
          sensorInjections := channels.foldl (fun m c =>
            m.insert c ⟨value, max (ttl.getD hal.injectionDefaultTtl) 1⟩)
              hal.sensorInjections } := by
  induction channels with
  | nil => exact fun hal => rfl
  | cons c channels ih =>
    intro hal
    rw [List.foldl_cons, ih]
    rfl

theorem foldl_clear {channels : List SensorChannel} :
    ∀ hal : SimulatedHal, channels.foldl SimulatedHal.clearSensorInjection hal =
      { hal with sensorInjections := channels.foldl (·.erase ·) hal.sensorInjections } := by
  induction channels with
  | nil => exact fun hal => rfl
  | cons c channels ih =>
    intro hal
    rw [List.foldl_cons, ih]
    rfl

theorem foldl_insert_getElem? {ν : Type} {v : ν} {c : SensorChannel}
    {channels : List SensorChannel} :
    ∀ m : TreeMap SensorChannel ν, (channels.foldl (fun m c => m.insert c v) m)[c]? =
      if c ∈ channels then some v else m[c]? := by
  induction channels with
  | nil => exact fun m => rfl
  | cons i channels ih =>
    intro m
    rw [List.foldl_cons, ih, TreeMap.getElem?_insert]
    by_cases hi : i = c
    · simp [hi]
    · simp [Ne.symm hi, hi]

theorem foldl_erase_getElem? {ν : Type} {c : SensorChannel} {channels : List SensorChannel} :
    ∀ m : TreeMap SensorChannel ν, (channels.foldl (·.erase ·) m)[c]? =
      if c ∈ channels then none else m[c]? := by
  induction channels with
  | nil => exact fun m => rfl
  | cons i channels ih =>
    intro m
    rw [List.foldl_cons, ih, TreeMap.getElem?_erase]
    by_cases hi : i = c
    · simp [hi]
    · simp [Ne.symm hi, hi]

/-- The frame of the operations on the two tables. -/
structure Frame (s s' : Runtime) : Prop where
  clock : s'.pipeline.clock = s.pipeline.clock
  ttl : s'.pipeline.hal.injectionDefaultTtl = s.pipeline.hal.injectionDefaultTtl

section Operations

variable (s : Runtime) (probeCount ttl : Nat)

theorem inject_effect (spec : InjectionSpec) :
    (s.applyCommand ttl probeCount (.injectSensor spec)).effect = fun c =>
      if covers probeCount spec.key c then
        some ⟨spec.value, max (spec.ttlSecs.getD s.pipeline.hal.injectionDefaultTtl) 1⟩
      else s.effect c := by
  funext c
  change ((channelsFor spec.key probeCount).foldl _ s.pipeline.hal).sensorInjections[c]? = _
  rw [foldl_injectSensor, foldl_insert_getElem?]
  exact if_congr decide_eq_true_iff.symm rfl rfl

theorem clear_effect (key : InjectionKey) :
    (s.applyCommand ttl probeCount (.clearInjection key)).effect = fun c =>
      if covers probeCount key c then none else s.effect c := by
  funext c
  change ((channelsFor key probeCount).foldl _ s.pipeline.hal).sensorInjections[c]? = _
  rw [foldl_clear, foldl_erase_getElem?]
  exact if_congr decide_eq_true_iff.symm rfl rfl

theorem drop_effect (key : InjectionKey) (c : SensorChannel) :
    (drop probeCount s key).effect c = if covers probeCount key c then none else s.effect c := by
  change ((channelsFor key probeCount).foldl _ s.pipeline.hal).sensorInjections[c]? = _
  rw [foldl_clear, foldl_erase_getElem?]
  exact if_congr decide_eq_true_iff.symm rfl rfl

theorem applyCommand_frame (command : SimulationCommand) :
    Frame s (s.applyCommand ttl probeCount command) := by
  cases command with
  | injectSensor spec =>
    refine ⟨rfl, ?_⟩
    change ((channelsFor spec.key probeCount).foldl _ s.pipeline.hal).injectionDefaultTtl = _
    rw [foldl_injectSensor]
  | clearInjection key =>
    refine ⟨rfl, ?_⟩
    change ((channelsFor key probeCount).foldl _ s.pipeline.hal).injectionDefaultTtl = _
    rw [foldl_clear]
  | setTimeScale scale => exact ⟨rfl, rfl⟩

theorem drop_frame (key : InjectionKey) : Frame s (drop probeCount s key) := by
  refine ⟨rfl, ?_⟩
  change ((channelsFor key probeCount).foldl _ s.pipeline.hal).injectionDefaultTtl = _
  rw [foldl_clear]

end Operations

/-- What dropping a list of injections does. -/
theorem foldl_drop (probeCount : Nat) (keys : List InjectionKey) :
    ∀ s : Runtime,
      (keys.foldl (drop probeCount) s).injections.entries =
          s.injections.entries.filter (fun e => decide (e.1 ∉ keys)) ∧
        (∀ c, (keys.foldl (drop probeCount) s).effect c =
          if keys.any fun key => covers probeCount key c then none else s.effect c) ∧
        Frame s (keys.foldl (drop probeCount) s) := by
  induction keys with
  | nil =>
    intro s
    refine ⟨?_, fun c => rfl, rfl, rfl⟩
    simp
  | cons key keys ih =>
    intro s
    obtain ⟨hentries, heffect, hframe⟩ := ih (drop probeCount s key)
    have hone := drop_frame s probeCount key
    rw [List.foldl_cons]
    refine ⟨?_, fun c => ?_, hframe.clock.trans hone.clock, hframe.ttl.trans hone.ttl⟩
    · rw [hentries]
      change (s.injections.entries.filter _).filter _ = _
      rw [List.filter_filter]
      refine List.filter_congr fun e _ => ?_
      by_cases he : e.1 = key <;> simp [he]
    · rw [heffect c, drop_effect, List.any_cons]
      cases covers probeCount key c <;> simp

/-- **What pruning does**: the records that are due go, with the effects on their channels. -/
theorem prune_spec (s : Runtime) (probeCount : Nat) :
    (s.pruneInjections probeCount).injections =
        s.injections.retain (fun _ r => !due s.pipeline.clock.simSeconds r) ∧
      (s.pruneInjections probeCount).effect =
        clearDue (covers probeCount) (due s.pipeline.clock.simSeconds) s.injections s.effect ∧
      Frame s (s.pruneInjections probeCount) := by
  obtain ⟨hentries, heffect, hframe⟩ := foldl_drop probeCount
    ((s.injections.entries.filter fun e => due s.pipeline.clock.simSeconds e.2).map Prod.fst) s
  refine ⟨Listing.ext (hentries.trans (List.filter_congr fun e he => ?_)),
    funext fun c => (heffect c).trans ?_, hframe⟩
  · rw [Bool.eq_iff_iff, decide_eq_true_iff, Bool.not_eq_true', ← Bool.not_eq_true, not_iff_not]
    constructor
    · intro hk
      obtain ⟨e', he', hk⟩ := List.mem_map.1 hk
      obtain ⟨hmem, hdue⟩ := List.mem_filter.1 he'
      rwa [← Listing.eq_of_key hmem he hk]
    · intro hdue
      exact List.mem_map.2 ⟨e, List.mem_filter.2 ⟨he, hdue⟩, rfl⟩
  · rw [List.any_map, List.any_filter]
    rfl

end Runtime

/-! ## Runs -/

/-- The number of probes of the configuration. -/
def Config.probeCount (cfg : Config) : Nat := max cfg.sensing.probeCount 1

/-- What can happen to the tick task: a tick, or a command the handlers let through. -/
inductive RuntimeEvent (probeCount : Nat) where
  | tick
  | write (command : Command) (admitted : command.Admitted)
  | inject (spec : InjectionSpec) (admitted : spec.Admitted probeCount)
  | clear (key : InjectionKey) (admitted : key.Admitted probeCount)
      (whole : key.probeIndex = none)
  | setTimeScale (scale : F64)

def RuntimeEvent.isTick {probeCount : Nat} : RuntimeEvent probeCount → Bool
  | .tick => true
  | _ => false

namespace Runtime

/-- The tick task before its first tick. -/
def start [SimLibm] (cfg : Config) (clock : Clock) : Runtime where
  pipeline := Pipeline.withClock cfg (SimulatedHal.new cfg) clock
  timeScale := cfg.simulation.timeScale
  timeScaleUpdatedAtSeconds := clock.simSeconds

/-- One event. The registry is pruned before every tick; before the first it is empty. -/
def step? [SimLibm] (cfg : Config) (s : Runtime) : RuntimeEvent cfg.probeCount → Option Runtime
  | .tick =>
    let s := s.pruneInjections cfg.probeCount
    s.pipeline.tick.map fun (p, snapshot) => { s with pipeline := p, last := some snapshot }
  | .write command _ => some { s with pipeline := command.apply s.pipeline }
  | .inject spec _ =>
    some (s.applyCommand cfg.simulation.sensorInjectionTimeoutSecs cfg.probeCount
      (.injectSensor spec))
  | .clear key _ _ =>
    some (s.applyCommand cfg.simulation.sensorInjectionTimeoutSecs cfg.probeCount
      (.clearInjection key))
  | .setTimeScale scale =>
    some (s.applyCommand cfg.simulation.sensorInjectionTimeoutSecs cfg.probeCount
      (.setTimeScale scale))

def Step [SimLibm] (cfg : Config) (s : Runtime) (e : RuntimeEvent cfg.probeCount)
    (s' : Runtime) : Prop := s.step? cfg e = some s'

/-- The listing of a tick mirrors its plant. -/
structure Mirrored [SimLibm] (cfg : Config) (s : Runtime) : Prop where
  /-- A channel is forced exactly when a listed injection covers it, to the value of the latest. -/
  effect : ∀ c, ((s.pruneInjections cfg.probeCount).effect c).map (·.value) =
    ((s.pruneInjections cfg.probeCount).latest cfg.probeCount c).map (·.2.value)
  /-- It reads that value, and its sample otherwise. -/
  reads : ∀ c, (Hal.read (s.pruneInjections cfg.probeCount).pipeline.hal).channel c =
    ((s.pruneInjections cfg.probeCount).pipeline.hal.currentReadings.channel c).map
      (((s.pruneInjections cfg.probeCount).latest cfg.probeCount c).map (·.2.value)).getD
  /-- The injection in force on a channel stays listed exactly while its effect lasts. -/
  ends : ∀ c e, s.latest cfg.probeCount c = some e →
    (e.1 ∈ (s.pruneInjections cfg.probeCount).injections.entries.map Prod.fst ↔
      ((s.pruneInjections cfg.probeCount).effect c).isSome = true)

/-- No injection that is due covers a channel of one that is not. -/
def DueApart (cfg : Config) (s : Runtime) : Prop :=
  ∀ e ∈ s.injections.entries, ∀ e' ∈ s.injections.entries,
    e.2.expiresAtSeconds ≤ s.pipeline.clock.simSeconds →
    s.pipeline.clock.simSeconds < e'.2.expiresAtSeconds →
    ∀ c ∈ channelsFor e.1 cfg.probeCount, c ∉ channelsFor e'.1 cfg.probeCount

instance (cfg : Config) (s : Runtime) : Decidable (DueApart cfg s) :=
  inferInstanceAs (Decidable (∀ e ∈ s.injections.entries, ∀ e' ∈ s.injections.entries,
    e.2.expiresAtSeconds ≤ s.pipeline.clock.simSeconds →
    s.pipeline.clock.simSeconds < e'.2.expiresAtSeconds →
    ∀ c ∈ channelsFor e.1 cfg.probeCount, c ∉ channelsFor e'.1 cfg.probeCount))

/-- The record and the forced value agree: the value, and the tick on which they end. -/
structure Holds (now : Nat) (rec : InjectionRecord) (inj : SensorInjection) : Prop where
  value : inj.value = rec.value
  deadline : rec.expiresAtSeconds = saturatingAdd now inj.remaining
  alive : 0 < inj.remaining

/-- A tick takes a second off the lifetime, and brings the deadline a second closer. -/
theorem Holds.age {now : Nat} {rec : InjectionRecord} {inj : SensorInjection}
    (h : Holds now rec inj) (hdue : due (now + 1) rec = false) :
    ∃ inj', inj.age = some inj' ∧ Holds (now + 1) rec inj' := by
  have hlater : now + 1 < rec.expiresAtSeconds := by
    simpa [due] using hdue
  have hdeadline := h.deadline
  rw [saturatingAdd] at hdeadline
  have hremaining : 0 < inj.remaining - 1 := by omega
  refine ⟨{ inj with remaining := inj.remaining - 1 }, ?_, h.value, ?_, hremaining⟩
  · rw [SensorInjection.age, tickDown, if_pos hremaining]
    rfl
  · rw [saturatingAdd]
    dsimp only
    omega

/-- The two tables agree, but for the records that have become due. -/
structure Sound (cfg : Config) (s : Runtime) : Prop where
  ttl : s.pipeline.hal.injectionDefaultTtl = cfg.simulation.sensorInjectionTimeoutSecs
  keys : ∀ e ∈ s.injections.entries, e.1.Admitted cfg.probeCount
  pending : Pending (covers cfg.probeCount) (Holds s.pipeline.clock.simSeconds)
    (due s.pipeline.clock.simSeconds) s.injections s.effect

theorem dueApart_iff {cfg : Config} {s : Runtime} :
    DueApart cfg s ↔
      Apart (covers cfg.probeCount) (due s.pipeline.clock.simSeconds) s.injections := by
  simp [DueApart, Apart, covers, due]

/-- **On one tick**, the listing mirrors the plant exactly when what is due is apart. -/
theorem Sound.mirrors_iff [SimLibm] {cfg : Config} {s : Runtime} (h : Sound cfg s) :
    Mirrored cfg s ↔ DueApart cfg s := by
  obtain ⟨hlisted, heffect, -⟩ := prune_spec s cfg.probeCount
  have hagree : (∀ c, ((s.pruneInjections cfg.probeCount).effect c).map (·.value) =
      ((s.pruneInjections cfg.probeCount).latest cfg.probeCount c).map (·.2.value)) ↔
      Agree (covers cfg.probeCount) (fun rec inj => inj.value = rec.value)
        (s.injections.retain fun _ r => !due s.pipeline.clock.simSeconds r)
        (clearDue (covers cfg.probeCount) (due s.pipeline.clock.simSeconds) s.injections
          s.effect) := by
    refine forall_congr' fun c => ?_
    rw [latest, heffect, hlisted]
    generalize clearDue _ _ _ _ c = x
    generalize Listing.inForce _ _ c = e
    cases x <;> cases e <;> simp
  rw [dueApart_iff, ← h.pending.agree_prune_iff fun _ _ hholds => hholds.value, ← hagree]
  refine ⟨Mirrored.effect, fun hvalues => ⟨hvalues, fun c => ?_, fun c e he => ?_⟩⟩
  · rw [SimulatedHal.read_channel, ← hvalues c]
    rfl
  · have hapart := (h.pending.agree_prune_iff fun _ _ hholds => hholds.value).1 (hagree.1 hvalues)
    rw [hlisted, heffect]
    exact h.pending.listed_iff hapart he

/-! ### What an event preserves -/

section Steps

variable {cfg : Config} {s s' : Runtime}

/-- The default lifetime of an accepted configuration is positive. -/
theorem injectionTtl_pos (h : cfg.Valid) :
    1 ≤ cfg.simulation.sensorInjectionTimeoutSecs := by
  have h := Config.valid_iff.1 h
  simp only [Config.violations, Simulation.validate, List.append_eq_nil_iff, checkMin_eq_nil] at h
  omega

theorem Sound.inject (hcfg : cfg.Valid) (h : Sound cfg s) {spec : InjectionSpec}
    (hspec : spec.Admitted cfg.probeCount) :
    Sound cfg (s.applyCommand cfg.simulation.sensorInjectionTimeoutSecs cfg.probeCount
      (.injectSensor spec)) := by
  have hframe := s.applyCommand_frame cfg.probeCount
    cfg.simulation.sensorInjectionTimeoutSecs (.injectSensor spec)
  refine ⟨hframe.ttl.trans h.ttl, fun e he => ?_, ?_⟩
  · rcases Listing.mem_insert he with rfl | he
    · exact hspec.key
    · exact h.keys e he
  · rw [hframe.clock, inject_effect, h.ttl]
    refine h.pending.insert spec.key fun _ => ⟨rfl, ?_, ?_⟩
    · have hpos : 1 ≤ spec.ttlSecs.getD cfg.simulation.sensorInjectionTimeoutSecs := by
        cases httl : spec.ttlSecs with
        | none => exact injectionTtl_pos hcfg
        | some ttl =>
          have hne : ttl ≠ 0 := fun hzero => hspec.ttl (httl.trans (congrArg some hzero))
          exact Nat.one_le_iff_ne_zero.2 hne
      dsimp only
      rw [max_eq_left hpos]
    · exact Nat.lt_of_lt_of_le Nat.one_pos (le_max_right _ _)

theorem Sound.clear (h : Sound cfg s) {key : InjectionKey} (hkey : key.Admitted cfg.probeCount)
    (hwhole : key.probeIndex = none) :
    Sound cfg (s.applyCommand cfg.simulation.sensorInjectionTimeoutSecs cfg.probeCount
      (.clearInjection key)) := by
  have hframe := s.applyCommand_frame cfg.probeCount
    cfg.simulation.sensorInjectionTimeoutSecs (.clearInjection key)
  refine ⟨hframe.ttl.trans h.ttl, fun e he => h.keys e (Listing.mem_retain.1 he).1, ?_⟩
  rw [hframe.clock, clear_effect]
  refine h.pending.retain fun e he c hc => ?_
  rw [Bool.not_not, Bool.eq_iff_iff, Bool.and_eq_true_iff, beq_iff_eq, beq_iff_eq]
  exact hkey.covers_whole hwhole (h.keys e he) hc

variable [SimLibm]

/-- A tick, where what it drops is apart from what it keeps. -/
theorem Sound.tick (h : Sound cfg s) (hapart : DueApart cfg s)
    {p : Pipeline SimulatedHal} {snap : Snapshot}
    (ht : (s.pruneInjections cfg.probeCount).pipeline.tick = some (p, snap)) :
    Sound cfg { s.pruneInjections cfg.probeCount with pipeline := p, last := some snap } := by
  obtain ⟨hlisted, heffect, hframe⟩ := prune_spec s cfg.probeCount
  obtain ⟨loops, ht⟩ := Pipeline.tick_advanced ht
  have hagree := (h.pending.agree_prune_iff fun _ _ hholds => hholds).2 (dueApart_iff.1 hapart)
  rw [← hlisted, ← heffect] at hagree
  refine ⟨?_, fun e he => ?_, ?_⟩
  · change p.hal.injectionDefaultTtl = _
    rw [ht.hal, SimulatedHal.step_ttl, SimulatedHal.command_ttl]
    exact hframe.ttl.trans h.ttl
  · change e ∈ (s.pruneInjections cfg.probeCount).injections.entries at he
    rw [hlisted] at he
    exact h.keys e (Listing.mem_retain.1 he).1
  · have hnow : p.clock.simSeconds = s.pipeline.clock.simSeconds + 1 := by
      rw [ht.clock, hframe.clock]
      rfl
    have haged : Runtime.effect { s.pruneInjections cfg.probeCount with
        pipeline := p, last := some snap } =
          fun c => ((s.pruneInjections cfg.probeCount).effect c).bind
            SensorInjection.age := by
      funext c
      change p.hal.sensorInjections[c]? = _
      rw [ht.hal, SimulatedHal.step_injections, SimulatedHal.command_injections]
      rfl
    rw [haged]
    change Pending _ (Holds p.clock.simSeconds) (due p.clock.simSeconds) _ _
    rw [hnow]
    exact hagree.age fun _ _ hholds hdue => hholds.age hdue

/-- **What an event preserves**, a tick where what it drops is apart from what it keeps. -/
theorem Sound.step (hcfg : cfg.Valid) (h : Sound cfg s) {e : RuntimeEvent cfg.probeCount}
    (hs : Step cfg s e s') (hapart : OnTick RuntimeEvent.isTick (DueApart cfg) s e) :
    Sound cfg s' := by
  cases e with
  | tick =>
    obtain ⟨⟨p, snap⟩, ht, rfl⟩ := Option.map_eq_some_iff.1 hs
    exact h.tick (hapart rfl) ht
  | write command admitted =>
    obtain rfl := Option.some.inj hs
    cases command <;> exact ⟨h.ttl, h.keys, h.pending⟩
  | inject spec admitted =>
    obtain rfl := Option.some.inj hs
    exact h.inject hcfg admitted
  | clear key admitted whole =>
    obtain rfl := Option.some.inj hs
    exact h.clear admitted whole
  | setTimeScale scale =>
    obtain rfl := Option.some.inj hs
    exact ⟨h.ttl, h.keys, h.pending⟩

theorem Sound.start (cfg : Config) (clock : Clock) : Sound cfg (Runtime.start cfg clock) := by
  refine ⟨rfl, List.forall_mem_nil _, ?_⟩
  have hnone : (Runtime.start cfg clock).effect = fun _ => none := by
    funext c
    exact TreeMap.getElem?_emptyc
  rw [hnone]
  exact pending_empty

/-- **The listing mirrors the plant on every tick of a run exactly when, on every tick, what it
drops is apart from what it keeps.** -/
theorem mirrored_iff (hcfg : cfg.Valid) {clock : Clock} {es : List (RuntimeEvent cfg.probeCount)} :
    Run (Meeting (Step cfg) (OnTick RuntimeEvent.isTick (Mirrored cfg)))
        (Runtime.start cfg clock) es s ↔
      Run (Meeting (Step cfg) (OnTick RuntimeEvent.isTick (DueApart cfg)))
        (Runtime.start cfg clock) es s := by
  symm
  refine Run.meeting_congr (J := Sound cfg) (fun s e s' h hs hapart => ?_) (fun s e h => ?_)
    (Sound.start cfg clock)
  · exact h.step hcfg hs hapart
  · exact forall_congr' fun _ => h.mirrors_iff.symm

end Steps

end Runtime

/-! ## On the bench -/

section Witness

/-- The functions of the bench; the noise they shape has no deviation. -/
@[reducible] def noiseless : SimLibm where
  toLibm := Bench.firstOrder
  sin x := x
  ln x := x - 1
  sqrt _ := 0

attribute [local instance] noiseless

/-- The example configuration, without noise. -/
def quietHouse : Config :=
  { Bench.config {} with
    simulation := { (Bench.config {}).simulation with noise := ⟨0, 0, 0, 0, 0⟩ } }

theorem quietHouse_valid : quietHouse.Valid := by
  decide +kernel

/-- All temperature probes, or one of them. -/
def probes (i : Option Nat) : InjectionKey := ⟨"temperature", i, none⟩

theorem probes_admitted {i : Option Nat} (h : ∀ n, i = some n → n < 3) :
    (probes i).Admitted quietHouse.probeCount where
  metric := rfl
  probe := fun n hn => ⟨rfl, h n hn⟩
  zone := by simp [probes]

/-- Force every probe for ten seconds, then the first one for a second. -/
def forcedProbes : List (RuntimeEvent quietHouse.probeCount) :=
  [.inject ⟨probes none, 25, some 10⟩ ⟨probes_admitted (by decide), by decide⟩,
    .inject ⟨probes (some 0), 30, some 1⟩ ⟨probes_admitted (by decide), by decide⟩,
    .tick]

/-- **An effect that ends before its record.** When the injection into the first probe expires,
the probe reads its sample, though the injection into every probe is still listed. -/
theorem forcedProbes_dropped :
    ∃ s s', Run (Runtime.Step quietHouse) (Runtime.start quietHouse Clock.new) forcedProbes s ∧
      Runtime.Step quietHouse s .tick s' ∧
      (s'.latest quietHouse.probeCount (.temperatureProbe 0)).map (·.2.value) = some 25 ∧
      (Hal.read (s.pruneInjections quietHouse.probeCount).pipeline.hal).channel
        (.temperatureProbe 0) ≠ some 25 ∧
      ¬ Runtime.Mirrored quietHouse s := by
  have hrun : ((forcedProbes.foldlM (Runtime.step? quietHouse)
      (Runtime.start quietHouse Clock.new)).bind fun s =>
        (s.step? quietHouse .tick).map fun s' => decide (
          (s'.latest quietHouse.probeCount (.temperatureProbe 0)).map (·.2.value) = some 25 ∧
          (Hal.read (s.pruneInjections quietHouse.probeCount).pipeline.hal).channel
            (.temperatureProbe 0) ≠ some 25 ∧
          ((s.pruneInjections quietHouse.probeCount).latest quietHouse.probeCount
            (.temperatureProbe 0)).map (·.2.value) = some 25 ∧
          ((s.pruneInjections quietHouse.probeCount).effect
            (.temperatureProbe 0)).map (·.value) = none)) = some true := by
    decide +kernel
  obtain ⟨s, hs, h⟩ := Option.bind_eq_some_iff.1 hrun
  obtain ⟨s', hs', h⟩ := Option.map_eq_some_iff.1 h
  obtain ⟨hlisted, hread, hlatest, heffect⟩ := of_decide_eq_true h
  refine ⟨s, s', Run.of_foldlM hs, hs', hlisted, hread, fun hmirrored => ?_⟩
  have hboth := hmirrored.effect (.temperatureProbe 0)
  rw [heffect, hlatest] at hboth
  cases hboth

/-- An injection into every probe that nothing overlaps is mirrored until it has expired. -/
theorem mirrored_iff_probes :
    ∃ s, Run (Meeting (Runtime.Step quietHouse)
      (OnTick RuntimeEvent.isTick (Runtime.Mirrored quietHouse)))
      (Runtime.start quietHouse Clock.new)
      [.inject ⟨probes none, 25, some 1⟩ ⟨probes_admitted (by decide), by decide⟩,
        .tick, .tick] s := by
  have hrun : (([RuntimeEvent.inject ⟨probes none, 25, some 1⟩
      ⟨probes_admitted (by decide), by decide⟩, .tick, .tick].foldlM (fun s e =>
        if OnTick RuntimeEvent.isTick (Runtime.DueApart quietHouse) s e then
          s.step? quietHouse e
        else none) (Runtime.start quietHouse Clock.new)).isSome) = true := by
    decide +kernel
  obtain ⟨s, hs⟩ := Option.isSome_iff_exists.1 hrun
  exact ⟨s, (Runtime.mirrored_iff quietHouse_valid).2 (Run.of_foldlM_meeting hs)⟩

end Witness

end Greenhouse.Controller
