import Greenhouse.Contract.Telemetry

/-!
# The fault set on the platform

The state frame carries every active fault of the controller, which tells faults apart by
component, zone and type. The platform keeps them under component and zone only, so of two
types on one component and zone the last one is kept.

* `Survives`: the platform's set is the controller's.
* `survives_iff`: it is when no component and zone has two types, or two severities, of fault.
-/

namespace Greenhouse.Contract

open Greenhouse.Numeric Greenhouse.Controller Greenhouse.Platform Std

/-- The key a fault has on the platform. -/
def platformKey (f : Fault) : Platform.FaultKey := (stateFault f).key

/-- The entry tells the type and the severity of the fault. -/
def ActiveFault.Tells (v : ActiveFault) (f : Fault) : Prop :=
  v.faultType = f.faultType.wireName ∧ v.severity = f.severity.wireName

/-- The recorded set is the list of faults: each fault has its entry, each entry is of a fault,
and faults that the controller tells apart are not merged. -/
structure Survives (faults : List Fault) (active : TreeMap Platform.FaultKey ActiveFault) :
    Prop where
  all : ∀ f ∈ faults, ∃ v, active[platformKey f]? = some v ∧ ActiveFault.Tells v f
  only : ∀ key v, active[key]? = some v →
    ∃ f ∈ faults, platformKey f = key ∧ ActiveFault.Tells v f
  apart : ∀ f ∈ faults, ∀ g ∈ faults, faultKey f ≠ faultKey g → platformKey f ≠ platformKey g

/-- No component has two types, or two severities, of fault in one zone. -/
def Single (faults : List Fault) : Prop :=
  ∀ f ∈ faults, ∀ g ∈ faults, f.component = g.component → f.zoneId = g.zoneId →
    f.faultType = g.faultType ∧ f.severity = g.severity

instance (faults : List Fault) : Decidable (Single faults) :=
  inferInstanceAs (Decidable (∀ f ∈ faults, ∀ g ∈ faults, f.component = g.component →
    f.zoneId = g.zoneId → f.faultType = g.faultType ∧ f.severity = g.severity))

theorem platformKey_eq_iff {f g : Fault} :
    platformKey f = platformKey g ↔ f.component = g.component ∧ f.zoneId = g.zoneId := by
  have hzone : ∀ z z' : Option Slug,
      zoneKey (z.map Slug.asStr) = zoneKey (z'.map Slug.asStr) → z = z' := by
    intro z z' h
    cases z with
    | none =>
      cases z' with
      | none => rfl
      | some z' => exact absurd h.symm z'.asStr_ne_empty
    | some z =>
      cases z' with
      | none => exact absurd h z.asStr_ne_empty
      | some z' => rw [Slug.ext h]
  constructor
  · intro h
    exact ⟨congrArg ScopedKey.component h, hzone _ _ (congrArg ScopedKey.zoneId h)⟩
  · intro h
    rw [platformKey, platformKey, stateFault, stateFault, StateFault.key, StateFault.key, h.1, h.2]

/-- Entries made of the faults of a list, one by one, are the list exactly if each component has
one fault in each zone. -/
theorem survives_of_entries {faults : List Fault}
    {active : TreeMap Platform.FaultKey ActiveFault}
    (hall : ∀ f ∈ faults, ∃ v, active[platformKey f]? = some v)
    (honly : ∀ key v, active[key]? = some v →
      ∃ f ∈ faults, platformKey f = key ∧ ActiveFault.Tells v f) :
    Survives faults active ↔ Single faults := by
  constructor
  · intro h f hf g hg hcomponent hzone
    have hkey := platformKey_eq_iff.2 ⟨hcomponent, hzone⟩
    obtain ⟨v, hv, htells⟩ := h.all f hf
    obtain ⟨w, hw, htells'⟩ := h.all g hg
    rw [hkey, hw] at hv
    obtain rfl := Option.some.inj hv
    exact ⟨FaultType.wireName_injective (htells.1.symm.trans htells'.1),
      Severity.wireName_injective (htells.2.symm.trans htells'.2)⟩
  · intro h
    refine ⟨fun f hf => ?_, honly, fun f hf g hg hne heq => ?_⟩
    · obtain ⟨v, hv⟩ := hall f hf
      obtain ⟨g, hg, hkey, htells⟩ := honly _ v hv
      obtain ⟨hcomponent, hzone⟩ := platformKey_eq_iff.1 hkey
      obtain ⟨htype, hseverity⟩ := h g hg f hf hcomponent hzone
      exact ⟨v, hv, htells.1.trans (congrArg FaultType.wireName htype),
        htells.2.trans (congrArg Severity.wireName hseverity)⟩
    · obtain ⟨hcomponent, hzone⟩ := platformKey_eq_iff.1 heq
      apply hne
      rw [faultKey, faultKey, hcomponent, hzone, (h f hf g hg hcomponent hzone).1]

section Frames

variable [Rfc3339]

/-- The payload of a state frame that decodes has the faults of the snapshot. -/
theorem faults_of_decode {snapshot : Snapshot} {gh ts : String} {timeScale : F64}
    {payload : SystemStatePayload} {instant : Int}
    (h : decodeSystemState (systemState snapshot gh ts timeScale) = some (payload, instant)) :
    payload.env.greenhouseId = gh ∧ payload.faults = snapshot.faults.map stateFault := by
  obtain ⟨p, hp, htime⟩ := Option.bind_eq_some_iff.1 h
  obtain ⟨t, -, hpair⟩ := Option.bind_eq_some_iff.1 htime
  obtain rfl : p = payload := congrArg Prod.fst (Option.some.inj hpair)
  obtain ⟨members, hmembers, henv, hfaults⟩ := SystemStatePayload.of_decode hp
  obtain rfl := Option.some.inj hmembers
  have hgh : EnvelopePayload.decode _ = some ⟨schemaVersion, gh, none, ts⟩ →
      p.env.greenhouseId = gh := fun hread => by
    rw [Option.some.inj (henv.symm.trans hread)]
  constructor
  · exact hgh (decode_envelope rfl rfl rfl rfl)
  · exact Option.some.inj (hfaults.symm.trans (decode_faults snapshot.faults))

/-- A state frame that is taken is decoded and applied. -/
theorem applied_of_handled (gh : Slug) {snapshot : Snapshot} {ts : String} {timeScale : F64}
    {known : List String} {fleet : Fleet} {now : Int} {handled : Handled}
    (h : handleMessage known fleet (stateFrame snapshot gh.asStr ts timeScale).topic
      (stateFrame snapshot gh.asStr ts timeScale).payload now = some handled) :
    ∃ payload instant,
      decodeSystemState (systemState snapshot gh.asStr ts timeScale) = some (payload, instant) ∧
        handled = applyState fleet payload instant now := by
  change (parseTopic ("gh/" ++ gh.asStr ++ "/state")).bind _ = _ at h
  rw [parseTopic_state, Option.bind_some] at h
  obtain ⟨-, hstate⟩ := Option.ite_none_right_eq_some.1 h
  obtain ⟨⟨payload, instant⟩, hdecode, hmatch⟩ := Option.bind_eq_some_iff.1 hstate
  obtain ⟨p, hp, hdone⟩ := Option.bind_eq_some_iff.1 hmatch
  obtain ⟨-, hsame⟩ := Option.ite_none_right_eq_some.1 hp
  obtain rfl := Option.some.inj hsame
  exact ⟨payload, instant, hdecode, (Option.some.inj hdone).symm⟩

/-- After a state frame that is taken, the active faults are made of those of the snapshot. -/
theorem entries_of_handled (gh : Slug) {snapshot : Snapshot} {ts : String} {timeScale : F64}
    {known : List String} {fleet : Fleet} {now : Int} {handled : Handled}
    (h : handleMessage known fleet (stateFrame snapshot gh.asStr ts timeScale).topic
      (stateFrame snapshot gh.asStr ts timeScale).payload now = some handled) :
    ∃ s, handled.fleet.snapshot gh.asStr = some s ∧
      (∀ f ∈ snapshot.faults, ∃ v, s.activeFaults[platformKey f]? = some v) ∧
      ∀ key v, s.activeFaults[key]? = some v →
        ∃ f ∈ snapshot.faults, platformKey f = key ∧ ActiveFault.Tells v f := by
  obtain ⟨payload, instant, hdecode, rfl⟩ := applied_of_handled gh h
  obtain ⟨hgh, hfaults⟩ := faults_of_decode hdecode
  obtain ⟨s, hs, -, hactive⟩ := snapshot_applyState fleet payload instant now
  rw [hgh] at hs
  refine ⟨s, hs, ?_, ?_⟩
  · intro f hf
    have hmem : stateFault f ∈ payload.faults := hfaults ▸ List.mem_map_of_mem hf
    obtain ⟨v, hv⟩ := activeFaults_of_mem hmem
    rw [platformKey, hactive, hv]
    exact ⟨_, rfl⟩
  · intro key v hv
    rw [hactive] at hv
    obtain ⟨w, hw, rfl⟩ := Option.map_eq_some_iff.1 hv
    obtain ⟨fault, hmem, hkey, rfl⟩ := mem_of_activeFaults hw
    rw [hfaults] at hmem
    obtain ⟨f, hf, rfl⟩ := List.mem_map.1 hmem
    exact ⟨f, hf, hkey, Fleet.stamp_faultType _ _ _, Fleet.stamp_severity _ _ _⟩

/-- **The faults survive the trip exactly when each component has one in each zone.** Whatever the
platform knew before, after a state frame that is taken its active faults are those of the
snapshot if and only if no component has two types, or two severities, of fault in one zone. -/
theorem survives_iff (gh : Slug) {snapshot : Snapshot} {ts : String} {timeScale : F64}
    {known : List String} {fleet : Fleet} {now : Int} {handled : Handled}
    (h : handleMessage known fleet (stateFrame snapshot gh.asStr ts timeScale).topic
      (stateFrame snapshot gh.asStr ts timeScale).payload now = some handled) :
    ∃ s, handled.fleet.snapshot gh.asStr = some s ∧
      (Survives snapshot.faults s.activeFaults ↔ Single snapshot.faults) := by
  obtain ⟨s, hs, hall, honly⟩ := entries_of_handled gh h
  exact ⟨s, hs, survives_of_entries hall honly⟩

end Frames

/-! ## On the bench -/

section Bench

attribute [local instance] Bench.gregorian

/-- The platform before any message; a greenhouse is offline after thirty seconds. -/
def benchFleet : Fleet := ⟨∅, 30000000000⟩

/-- The state frame of the bench with the given faults, sent to the platform. -/
def benchHandled (faults : List Fault) : Option Handled :=
  handleMessage ["gh-a"] benchFleet
    (stateFrame (Bench.snapshot faults) benchHouse.asStr (ts epoch 10) 1).topic
    (stateFrame (Bench.snapshot faults) benchHouse.asStr (ts epoch 10) 1).payload 0

theorem benchHandled_isSome (faults : List Fault) : (benchHandled faults).isSome = true := by
  have hts : Rfc3339.Exact (epoch + 10) := by
    change Bench.parseInstant _ = _
    decide
  have hconveys : Conveys (Bench.snapshot faults) benchHouse (epoch + 10) 1
      (stateFrame (Bench.snapshot faults) benchHouse.asStr (ts epoch 10) 1) .state :=
    stateFrame_conveys (printable_snapshot faults) rfl hts
  exact hconveys.accepted (List.mem_singleton.2 rfl) benchFleet 0

/-- One temperature probe is off and the house is too hot. -/
def temperatureFaults : List Fault :=
  [{ component := "temperature", faultType := .sensorDisagreement, severity := .warning,
     message := "1 of 3 temperature probes disagree with the median",
     response := "excluded the outlier probe(s); fusing the agreeing probes" },
   { component := "temperature", faultType := .criticalTemperature, severity := .alarm,
     message := "air temperature 46.0°C above critical max 40.0°C",
     response := "heater off; all cooling at full" }]

/-- **Two faults of the temperature are merged.** -/
theorem temperatureFaults_merged :
    ∃ handled s, benchHandled temperatureFaults = some handled ∧
      handled.fleet.snapshot "gh-a" = some s ∧ ¬ Survives temperatureFaults s.activeFaults := by
  obtain ⟨handled, hhandled⟩ := Option.isSome_iff_exists.1 (benchHandled_isSome temperatureFaults)
  obtain ⟨s, hs, hall, honly⟩ := entries_of_handled benchHouse hhandled
  refine ⟨handled, s, hhandled, hs, fun hsurvives => ?_⟩
  have hsingle : Single temperatureFaults := (survives_of_entries hall honly).1 hsurvives
  exact absurd hsingle (by decide)

/-- A single fault survives. -/
theorem survives_jammedHeater :
    ∃ handled s, benchHandled [jammedHeater] = some handled ∧
      handled.fleet.snapshot "gh-a" = some s ∧ Survives [jammedHeater] s.activeFaults := by
  obtain ⟨handled, hhandled⟩ := Option.isSome_iff_exists.1 (benchHandled_isSome [jammedHeater])
  obtain ⟨s, hs, hiff⟩ := survives_iff benchHouse hhandled
  exact ⟨handled, s, hhandled, hs, hiff.2 (by decide)⟩

end Bench

end Greenhouse.Contract
