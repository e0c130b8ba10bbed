import Greenhouse.Contract.FaultSet
import Greenhouse.Controller.InterlockFaults
import Greenhouse.Controller.Session
import Greenhouse.Dashboard.AlertFrames

/-!
# Interlocks on the dashboard

The controller is in interlock mode when one of its faults is an interlock. The platform tells by
the name of a fault whether its alert is one, and it does not know the name of a temperature that
is unavailable.

* `Named`: the fault types that are shown as interlocks.
* `Trailing`: no interlock of a list is replaced by what comes after it.
* `Pipeline.Legible`: the tick is in interlock mode for a reason that is shown, if it is at all.
* `House`: a controller and the platform it reports to.
* `House.interlock_shown_iff`: when a tick is shown in the mode it is in.
-/

namespace Greenhouse.Dashboard

open Greenhouse.Numeric Greenhouse.Contract Greenhouse.Controller Greenhouse.Platform
open Greenhouse.Process Std

/-! ## The two classifications -/

/-- The platform shows a fault of the type as an interlock. -/
def Named (faultType : FaultType) : Prop := eventKind faultType.wireName = "interlock"

instance (faultType : FaultType) : Decidable (Named faultType) :=
  inferInstanceAs (Decidable (_ = _))

/-- **The platform shows the interlocks of the controller but one.** -/
theorem named_iff (faultType : FaultType) :
    Named faultType ↔ faultType.isInterlock = true ∧ faultType ≠ .temperatureUnavailable := by
  cases faultType <;> decide

/-- The mode is interlock when a fault is. -/
theorem fromFaults_interlock (faults : List Fault) :
    Mode.fromFaults faults = .interlock ↔ ∃ f ∈ faults, f.faultType.isInterlock = true := by
  rw [← List.any_eq_true, Mode.fromFaults]
  cases faults.any fun f => f.faultType.isInterlock with
  | true => simp
  | false => cases faults.isEmpty <;> simp

/-! ## What the keys of the platform leave -/

/-- What follows an interlock with the same key on the platform is an interlock too. -/
def Trailing (faults : List Fault) : Prop :=
  faults.Pairwise fun f g => Named f.faultType → platformKey f = platformKey g → Named g.faultType

section Lists

variable {faults sensed quiet critical ceiling : List Fault} {flats : List Slug}

theorem trailing_of_unnamed (h : ∀ f ∈ faults, ¬ Named f.faultType) : Trailing faults :=
  List.pairwise_of_forall_mem_list fun f hf _ _ hnamed => absurd hnamed (h f hf)

theorem trailing_of_named (h : ∀ f ∈ faults, Named f.faultType) : Trailing faults :=
  List.pairwise_of_forall_mem_list fun _ _ g hg _ _ => h g hg

/-! ### The list of a tick -/

theorem named_flatFault (z : Slug) : Named (flatFault z).faultType := by
  show Named .irrigationNoResponse
  decide

variable (h : Placed faults sensed flats quiet critical ceiling)

include h

theorem not_named_of_sensed : ∀ f ∈ sensed, ¬ Named f.faultType := by
  intro f hf hnamed
  obtain ⟨hinterlock, hne⟩ := (named_iff _).1 hnamed
  exact hne (h.sensed_type f hf hinterlock)

theorem not_named_of_quiet : ∀ f ∈ quiet, ¬ Named f.faultType := by
  intro f hf hnamed
  have hinterlock := ((named_iff _).1 hnamed).1
  rw [h.quiet_type f hf] at hinterlock
  cases hinterlock

theorem named_of_last : ∀ f ∈ critical ++ ceiling, Named f.faultType := by
  intro f hf
  rcases List.mem_append.1 hf with hf | hf
  · rw [h.critical_type f hf]
    decide
  · rw [h.ceiling_type f hf]
    decide

/-- A flat valve is in its zone, and what comes after it is about the house. -/
theorem platformKey_flatFault_ne (z : Slug) :
    ∀ g ∈ quiet ++ (critical ++ ceiling), platformKey (flatFault z) ≠ platformKey g := by
  intro g hg hkey
  have hzone := (platformKey_eq_iff.1 hkey).2
  rw [← List.append_assoc] at hg
  rw [h.house g hg] at hzone
  cases hzone

/-- **The platform replaces no interlock of a tick by anything else.** -/
theorem trailing_of_placed : Trailing faults := by
  have hflats : ∀ f ∈ flats.map flatFault, Named f.faultType := by
    intro f hf
    obtain ⟨z, -, rfl⟩ := List.mem_map.1 hf
    exact named_flatFault z
  have hlast : Trailing (quiet ++ (critical ++ ceiling)) :=
    List.pairwise_append.2 ⟨trailing_of_unnamed (not_named_of_quiet h),
      trailing_of_named (named_of_last h),
      fun f hf _ _ hnamed => absurd hnamed (not_named_of_quiet h f hf)⟩
  have hvalves : Trailing (flats.map flatFault ++ (quiet ++ (critical ++ ceiling))) := by
    refine List.pairwise_append.2 ⟨trailing_of_named hflats, hlast, ?_⟩
    intro f hf g hg _ hkey
    obtain ⟨z, -, rfl⟩ := List.mem_map.1 hf
    exact absurd hkey (platformKey_flatFault_ne h z g hg)
  rw [h.faults_eq]
  simp only [List.append_assoc]
  exact List.pairwise_append.2 ⟨trailing_of_unnamed (not_named_of_sensed h), hvalves,
    fun f hf _ _ hnamed => absurd hnamed (not_named_of_sensed h f hf)⟩

/-- A tick has a fault that is shown as an interlock when a valve is flat or one of the interlocks
is asserted. -/
theorem exists_named_iff :
    (∃ f ∈ faults, Named f.faultType) ↔ flats ≠ [] ∨ critical ++ ceiling ≠ [] := by
  have hfaults : faults = sensed ++ (flats.map flatFault ++ (quiet ++ (critical ++ ceiling))) := by
    rw [h.faults_eq]
    simp only [List.append_assoc]
  constructor
  · rintro ⟨f, hf, hnamed⟩
    rw [hfaults] at hf
    rcases List.mem_append.1 hf with hf | hf
    · exact absurd hnamed (not_named_of_sensed h f hf)
    · rcases List.mem_append.1 hf with hf | hf
      · obtain ⟨z, hz, -⟩ := List.mem_map.1 hf
        exact .inl (List.ne_nil_of_mem hz)
      · rcases List.mem_append.1 hf with hf | hf
        · exact absurd hnamed (not_named_of_quiet h f hf)
        · exact .inr (List.ne_nil_of_mem hf)
  · rw [hfaults]
    rintro (hne | hne)
    · obtain ⟨z, hz⟩ := List.exists_mem_of_ne_nil _ hne
      refine ⟨flatFault z, ?_, named_flatFault z⟩
      exact List.mem_append_right _ (List.mem_append_left _ (List.mem_map_of_mem hz))
    · obtain ⟨f, hf⟩ := List.exists_mem_of_ne_nil _ hne
      refine ⟨f, ?_, named_of_last h f hf⟩
      exact List.mem_append_right _ (List.mem_append_right _ (List.mem_append_right _ hf))

/-- A tick has an interlock fault when it has no temperature or one that is shown. -/
theorem exists_interlock_iff :
    (∃ f ∈ faults, f.faultType.isInterlock = true) ↔
      (∃ f ∈ sensed, f.faultType = .temperatureUnavailable) ∨ ∃ f ∈ faults, Named f.faultType := by
  constructor
  · rintro ⟨f, hf, hinterlock⟩
    by_cases hnamed : Named f.faultType
    · exact .inr ⟨f, hf, hnamed⟩
    · have htype : f.faultType = .temperatureUnavailable := by
        by_contra hne
        exact hnamed ((named_iff _).2 ⟨hinterlock, hne⟩)
      refine .inl ⟨f, ?_, htype⟩
      rw [h.faults_eq] at hf
      simp only [List.append_assoc, List.mem_append] at hf
      rcases hf with hf | hf | hf | hf | hf
      · exact hf
      · obtain ⟨z, -, rfl⟩ := List.mem_map.1 hf
        exact absurd (named_flatFault z) hnamed
      · rw [h.quiet_type f hf] at hinterlock
        cases hinterlock
      · exact absurd (named_of_last h f (List.mem_append_left _ hf)) hnamed
      · exact absurd (named_of_last h f (List.mem_append_right _ hf)) hnamed
  · rintro (⟨f, hf, htype⟩ | ⟨f, hf, hnamed⟩)
    · refine ⟨f, ?_, by rw [htype]; rfl⟩
      rw [h.faults_eq]
      simp only [List.append_assoc]
      exact List.mem_append_left _ hf
    · exact ⟨f, hf, ((named_iff _).1 hnamed).1⟩

end Lists

/-! ## One tick -/

section Tick

variable {H : Type} [Hal H] [Libm] {p p' : Pipeline H} {snap : Snapshot} {loops : ControlOutput}

/-- The tick has a temperature, or an interlock besides that the platform knows by name: a flat
valve or the CO₂ ceiling. -/
def Legible (p : Pipeline H) : Prop :=
  p.trusted.temperature ≠ none ∨ (∃ z, p.flatValve z) ∨ p.CeilingHeld

/-- **The mode of a tick agrees with the faults that are shown as interlocks exactly when the tick
is legible.** -/
theorem named_agrees_iff (h : Pipeline.Advanced p p' snap loops) :
    ((snap.mode = .interlock ↔ ∃ f ∈ snap.faults, Named f.faultType) ↔ Legible p) ∧
      Trailing snap.faults := by
  obtain ⟨sensed, flats, quiet, critical, ceiling, hplaced, hblind, hflat, hcritical, hceiling⟩ :=
    h.placed
  refine ⟨?_, trailing_of_placed hplaced⟩
  have hflats : flats ≠ [] ↔ ∃ z, p.flatValve z := by
    rw [← exists_congr hflat]
    exact List.length_pos_iff.symm.trans List.length_pos_iff_exists_mem
  have hlast : critical ++ ceiling ≠ [] ↔ critical ≠ [] ∨ p.CeilingHeld := by
    rw [← hceiling, Ne, List.append_eq_nil_iff, not_and_or]
  rw [h.mode, fromFaults_interlock, exists_interlock_iff hplaced, exists_named_iff hplaced, hblind,
    hflats, hlast, Legible]
  by_cases hnone : p.trusted.temperature = none
  · have hnocritical : ¬ critical ≠ [] := fun hne => hcritical hne hnone
    simp [hnone, hnocritical]
  · simp [hnone]

end Tick

/-! ## One state frame -/

/-- The alerts of a greenhouse have an interlock when one of its recorded faults is named so. -/
theorem exists_alert_iff (faults : TreeMap Platform.FaultKey ActiveFault) :
    (∃ alert ∈ activeAlerts faults, alert.kind = "interlock") ↔
      ∃ (key : Platform.FaultKey) (v : ActiveFault), faults[key]? = some v ∧
        eventKind v.faultType = "interlock" := by
  constructor
  · rintro ⟨alert, hmem, hkind⟩
    obtain ⟨⟨key, v⟩, hv, rfl⟩ := List.mem_map.1 hmem
    exact ⟨key, v, TreeMap.mem_toList_iff_getElem?_eq_some.1 hv, hkind⟩
  · rintro ⟨key, v, hv, hkind⟩
    exact ⟨_, List.mem_map_of_mem (TreeMap.mem_toList_iff_getElem?_eq_some.2 hv), hkind⟩

/-- The list that a request without a filter answers. -/
theorem exists_listed_iff {known : List String} {fleet : Fleet} {g kind : String} :
    (∃ alert ∈ listActiveAlerts known fleet (EventScope.query {}),
        alert.greenhouseId = g ∧ alert.kind = kind) ↔
      g ∈ known ∧ ∃ alert ∈ alertsOf fleet g, alert.kind = kind := by
  have hrequested : ∀ h, requestedAlerts fleet (EventScope.query {}) h =
      (alertsOf fleet h).map fun alert => { alert with greenhouseId := h } := by
    intro h
    have hall : (alertsOf fleet h).filter (showsAlert {}) = alertsOf fleet h :=
      List.filter_eq_self.2 fun _ _ => rfl
    rw [requestedAlerts_query, hall]
    rfl
  rw [listActiveAlerts]
  simp only [List.mem_mergeSort, List.mem_flatMap, hrequested, List.mem_map]
  constructor
  · rintro ⟨alert, ⟨h, hh, a, ha, rfl⟩, rfl, hkind⟩
    exact ⟨hh, a, ha, hkind⟩
  · rintro ⟨hg, a, ha, hkind⟩
    exact ⟨_, ⟨g, hg, a, ha, rfl⟩, rfl, hkind⟩

section Handled

variable [Rfc3339] {gh : Slug} {snapshot : Snapshot} {ts : String} {timeScale : F64}
  {known : List String} {fleet : Fleet} {now : Int} {handled : Handled}

/-- A state frame is taken of a registered greenhouse only. -/
theorem known_of_handled
    (h : handleMessage known fleet (stateFrame snapshot gh.asStr ts timeScale).topic
      (stateFrame snapshot gh.asStr ts timeScale).payload now = some handled) :
    gh.asStr ∈ known := by
  change (parseTopic ("gh/" ++ gh.asStr ++ "/state")).bind _ = _ at h
  rw [parseTopic_state, Option.bind_some] at h
  exact (Option.ite_none_right_eq_some.1 h).1

/-- **After a state frame that is taken** the greenhouse has an interlock alert when the frame has
a fault that is named so, where its list is one of a tick. -/
theorem alerts_of_handled (htrailing : Trailing snapshot.faults)
    (h : handleMessage known fleet (stateFrame snapshot gh.asStr ts timeScale).topic
      (stateFrame snapshot gh.asStr ts timeScale).payload now = some handled) :
    (∃ alert ∈ alertsOf handled.fleet gh.asStr, alert.kind = "interlock") ↔
      ∃ f ∈ snapshot.faults, Named f.faultType := by
  obtain ⟨payload, instant, hdecode, rfl⟩ := applied_of_handled gh h
  obtain ⟨hgh, hfaults⟩ := faults_of_decode hdecode
  obtain ⟨s, hs, -, hactive⟩ := snapshot_applyState fleet payload instant now
  rw [hgh] at hs hactive
  have halerts : alertsOf (applyState fleet payload instant now).fleet gh.asStr =
      activeAlerts s.activeFaults := by
    rw [alertsOf, hs]
  rw [halerts, exists_alert_iff]
  constructor
  · rintro ⟨key, v, hv, hkind⟩
    rw [hactive] at hv
    obtain ⟨w, hw, rfl⟩ := Option.map_eq_some_iff.1 hv
    obtain ⟨fault, hmem, -, rfl⟩ := mem_of_activeFaults hw
    rw [hfaults] at hmem
    obtain ⟨f, hf, rfl⟩ := List.mem_map.1 hmem
    rw [Fleet.stamp_faultType] at hkind
    exact ⟨f, hf, hkind⟩
  · rintro ⟨f, hf, hnamed⟩
    have hmem : stateFault f ∈ payload.faults := hfaults ▸ List.mem_map_of_mem hf
    obtain ⟨w, hw⟩ := activeFaults_of_mem hmem
    obtain ⟨before, fault, after, hsplit, hkey, hafter, rfl⟩ := last_of_activeFaults hw
    rw [hfaults, List.map_eq_append_iff] at hsplit
    obtain ⟨before', rest, hlist, rfl, hrest⟩ := hsplit
    obtain ⟨g, after', rfl, rfl, rfl⟩ := List.map_eq_cons_iff.1 hrest
    refine ⟨platformKey f, _, (hactive _).trans (congrArg _ hw), ?_⟩
    rw [Fleet.stamp_faultType]
    show Named g.faultType
    rw [Trailing, hlist] at htrailing
    rw [hlist] at hf
    rcases List.mem_append.1 hf with hf | hf
    · exact (List.pairwise_append.1 htrailing).2.2 f hf g List.mem_cons_self hnamed hkey.symm
    · rcases List.mem_cons.1 hf with rfl | hf
      · exact hnamed
      · exact absurd rfl (hafter _ (List.mem_map_of_mem hf))

end Handled

/-! ## Runs -/

/-- A controller, with the live view of the platform it reports to and what that has broadcast. -/
structure House (H : Type) where
  session : Session H
  fleet : Fleet
  sent : List Frame := []

/-- What happens. In a report the controller ticks and the platform takes the state frame of the
tick; a tick whose frame is lost is one of the `controller` only, and `message` is any other
message that the platform takes, of this greenhouse or of another. -/
inductive HouseEvent (H : Type) where
  | report (ts : String) (timeScale : F64) (now : Int)
  | controller (event : Controller.Event H)
  | message (topic : String) (data : Document) (now : Int)
  | sweep (now : Int)

namespace House

variable {H : Type}

/-- A controller that has not ticked yet, and a platform that has just started. -/
def start (cfg : Config) (hal : H) (clock : Clock) (offlineAfter : Int) : House H where
  session := Session.start cfg hal clock
  fleet := { offlineAfter }

/-- The platform after a message. -/
def take (s : House H) (handled : Handled) : House H :=
  { s with fleet := handled.fleet, sent := s.sent ++ handled.broadcast }

section Steps

variable [Rfc3339] [Libm] [Hal H]

def step? (known : List String) (gh : Slug) (s : House H) : HouseEvent H → Option (House H)
  | .report ts timeScale now => do
    let session ← s.session.step? .tick
    let snapshot ← session.last
    let frame := stateFrame snapshot gh.asStr ts timeScale
    let handled ← handleMessage known s.fleet frame.topic frame.payload now
    some ({ s with session }.take handled)
  | .controller event => do
    let session ← s.session.step? event
    some { s with session }
  | .message topic data now => do
    let handled ← handleMessage known s.fleet topic data now
    some (s.take handled)
  | .sweep now =>
    some { s with
      fleet := (s.fleet.sweep now).1
      sent := s.sent ++ (s.fleet.sweep now).2.map (sweepFrame now) }

def Step (known : List String) (gh : Slug) (s : House H) (e : HouseEvent H) (s' : House H) : Prop :=
  s.step? known gh e = some s'

/-- The mode of a tick is interlock exactly when an interlock is shown: in the latest frame of the
active alerts, and in the list of all active alerts. -/
structure Shows (known : List String) (gh : Slug) (s : House H) (mode : Mode) : Prop where
  frame : mode = .interlock ↔ ∃ alert ∈ lastAlerts s.sent gh.asStr, alert.kind = "interlock"
  list : mode = .interlock ↔ ∃ alert ∈ listActiveAlerts known s.fleet (EventScope.query {}),
    alert.greenhouseId = gh.asStr ∧ alert.kind = "interlock"

variable {known : List String} {gh : Slug} {s s' : House H}

/-- **The latest frames have the alerts of the live view** throughout. -/
theorem told_step {e : HouseEvent H} (h : Told s.fleet s.sent) (hs : Step known gh s e s') :
    Told s'.fleet s'.sent := by
  cases e with
  | report ts timeScale now =>
    simp only [Step, step?, Option.bind_eq_bind, Option.bind_eq_some_iff] at hs
    obtain ⟨session, -, snapshot, -, handled, hhandled, hs⟩ := hs
    cases hs
    exact told_handleMessage h hhandled
  | controller event =>
    simp only [Step, step?, Option.bind_eq_bind, Option.bind_eq_some_iff] at hs
    obtain ⟨session, -, hs⟩ := hs
    cases hs
    exact h
  | message topic data now =>
    simp only [Step, step?, Option.bind_eq_bind, Option.bind_eq_some_iff] at hs
    obtain ⟨handled, hhandled, hs⟩ := hs
    cases hs
    exact told_handleMessage h hhandled
  | sweep now =>
    cases hs
    exact told_sweep h now

/-- What is shown after a report: an interlock, in the latest frame and in the list, when the tick
has a fault that is named so. -/
theorem shown_report {ts : String} {timeScale : F64} {now : Int} (h : Told s.fleet s.sent)
    (hs : Step known gh s (.report ts timeScale now) s') :
    ∃ p' snapshot loops, s'.session.last = some snapshot ∧
      Pipeline.Advanced s.session.pipeline p' snapshot loops ∧
      ((∃ alert ∈ lastAlerts s'.sent gh.asStr, alert.kind = "interlock") ↔
        ∃ f ∈ snapshot.faults, Named f.faultType) ∧
      ((∃ alert ∈ listActiveAlerts known s'.fleet (EventScope.query {}),
          alert.greenhouseId = gh.asStr ∧ alert.kind = "interlock") ↔
        ∃ f ∈ snapshot.faults, Named f.faultType) := by
  simp only [Step, step?, Option.bind_eq_bind, Option.bind_eq_some_iff] at hs
  obtain ⟨session, hsession, snapshot, hlast, handled, hhandled, hs⟩ := hs
  cases hs
  obtain ⟨⟨p', snap⟩, htick, rfl⟩ := Option.map_eq_some_iff.1 hsession
  obtain rfl := Option.some.inj hlast
  obtain ⟨loops, hadvanced⟩ := Pipeline.tick_advanced htick
  have halerts := alerts_of_handled (named_agrees_iff hadvanced).2 hhandled
  refine ⟨p', snap, loops, rfl, hadvanced, ?_, ?_⟩
  · show (∃ alert ∈ lastAlerts (s.sent ++ handled.broadcast) gh.asStr, _) ↔ _
    rw [told_handleMessage h hhandled gh.asStr]
    exact halerts
  · rw [exists_listed_iff, and_iff_right (known_of_handled hhandled)]
    exact halerts

/-- A report is shown in the mode of its tick exactly when the tick is legible. -/
theorem shows_report {ts : String} {timeScale : F64} {now : Int} (h : Told s.fleet s.sent)
    (hs : Step known gh s (.report ts timeScale now) s') :
    ∃ snapshot, s'.session.last = some snapshot ∧
      (Shows known gh s' snapshot.mode ↔ Legible s.session.pipeline) := by
  obtain ⟨p', snapshot, loops, hlast, hadvanced, hframe, hlist⟩ := shown_report h hs
  refine ⟨snapshot, hlast, ?_⟩
  rw [← (named_agrees_iff hadvanced).1]
  constructor
  · intro hshows
    rw [← hframe]
    exact hshows.frame
  · intro hmode
    constructor
    · rw [hframe]
      exact hmode
    · rw [hlist]
      exact hmode

/-- A tick whose numbers are printed can be reported. -/
theorem exists_report {p' : Pipeline H} {snapshot : Snapshot} {timeScale : F64} {instant : Int}
    (htick : s.session.pipeline.tick = some (p', snapshot)) (hp : Printable snapshot)
    (hscale : timeScale.isFinite = true) (hts : Rfc3339.Exact instant) (hknown : gh.asStr ∈ known)
    (now : Int) :
    ∃ s', Step known gh s (.report (Rfc3339.format instant) timeScale now) s' ∧
      s'.session.last = some snapshot := by
  have hconveys : Conveys snapshot gh instant timeScale
      (stateFrame snapshot gh.asStr (Rfc3339.format instant) timeScale) .state :=
    stateFrame_conveys hp hscale hts
  obtain ⟨handled, hhandled⟩ :=
    Option.isSome_iff_exists.1 (hconveys.accepted hknown s.fleet now)
  refine ⟨{ s with session := ⟨p', some snapshot⟩ }.take handled, ?_, rfl⟩
  simp only [Step, step?, Session.step?, htick, Option.map_some, Option.bind_eq_bind,
    Option.bind_some, hhandled]

/-- **When a tick is shown in the mode it is in.** In every run, and whatever else the platform
takes, a tick whose state frame it takes is in interlock mode exactly when an interlock alert of
the greenhouse is shown, in the latest frame as in the list, if and only if the tick has a
temperature or its interlock is also a flat valve or the CO₂ ceiling. -/
theorem interlock_shown_iff (known : List String) (gh : Slug) (cfg : Config) (hal : H)
    (clock : Clock) (offlineAfter : Int) {es : List (HouseEvent H)} {s s' : House H} {ts : String}
    {timeScale : F64} {now : Int}
    (hr : Run (Step known gh) (start cfg hal clock offlineAfter) es s)
    (ht : Step known gh s (.report ts timeScale now) s') :
    ∃ snapshot, s'.session.last = some snapshot ∧
      (Shows known gh s' snapshot.mode ↔ Legible s.session.pipeline) := by
  have htold : Told s.fleet s.sent :=
    hr.invariant (I := fun s => Told s.fleet s.sent) (fun _ _ _ h hs => told_step h hs)
      (told_empty offlineAfter)
  exact shows_report htold ht

end Steps

/-! ### On the bench -/

section Bench

attribute [local instance] Bench.gregorian Bench.firstOrder

/-- A house with the given probes, and a platform that has just started. -/
def bench (safety : Safety) (probes : List F64) : House Bench.Plant :=
  start (Bench.config safety) { readings := Bench.readings probes 420 } Clock.new 30000000000

/-- The first report of a house. -/
def firstReport : HouseEvent Bench.Plant := .report (Rfc3339.format epoch) 1 0

/-- A tick of the bench can be reported. -/
theorem bench_reports {s : House Bench.Plant} {p' : Pipeline Bench.Plant} {snapshot : Snapshot}
    (htick : s.session.pipeline.tick = some (p', snapshot)) (hp : Printable snapshot) :
    ∃ s', Step ["gh-a"] benchHouse s firstReport s' ∧ s'.session.last = some snapshot := by
  have hts : Rfc3339.Exact epoch := by decide
  exact exists_report htick hp rfl hts (List.mem_singleton.2 rfl) 0

/-- **No two probes agree.** The controller is in interlock mode, and neither the frame nor the list
of the alerts has an interlock. -/
theorem unnamed_interlock :
    ∃ s' snapshot, Step ["gh-a"] benchHouse (bench {} [0, 20, 40]) firstReport s' ∧
      s'.session.last = some snapshot ∧ snapshot.mode = .interlock ∧
      (¬ ∃ alert ∈ lastAlerts s'.sent "gh-a", alert.kind = "interlock") ∧
      ¬ ∃ alert ∈ listActiveAlerts ["gh-a"] s'.fleet (EventScope.query {}),
        alert.greenhouseId = "gh-a" ∧ alert.kind = "interlock" := by
  have htick : ((bench {} [0, 20, 40]).session.pipeline.tick.map fun t =>
      decide (Printable t.2 ∧ t.2.mode = .interlock ∧ ∀ f ∈ t.2.faults, ¬ Named f.faultType)) =
        some true := by
    decide +kernel
  obtain ⟨⟨p', snapshot⟩, htick, hfacts⟩ := Option.map_eq_some_iff.1 htick
  obtain ⟨hprintable, hmode, hunnamed⟩ := of_decide_eq_true hfacts
  obtain ⟨s', hreport, hlast⟩ := bench_reports htick hprintable
  obtain ⟨p'', snapshot', loops, hlast', -, hframe, hlist⟩ :=
    shown_report (told_empty 30000000000) hreport
  obtain rfl := Option.some.inj (hlast.symm.trans hlast')
  have hnone : ¬ ∃ f ∈ snapshot.faults, Named f.faultType := fun hsome =>
    hsome.elim fun f hf => hunnamed f hf.1 hf.2
  exact ⟨s', snapshot, hreport, hlast, hmode, fun hshown => hnone (hframe.1 hshown),
    fun hshown => hnone (hlist.1 hshown)⟩

/-- A house that must stay below `-5` °C is at `0` °C: the interlock is shown. -/
theorem interlock_shown_frost :
    ∃ s' snapshot, Step ["gh-a"] benchHouse (bench Bench.frost [0, 0, 0]) firstReport s' ∧
      s'.session.last = some snapshot ∧ snapshot.mode = .interlock ∧
      Shows ["gh-a"] benchHouse s' snapshot.mode := by
  have htick : ((bench Bench.frost [0, 0, 0]).session.pipeline.tick.map fun t =>
      decide (Printable t.2 ∧ t.2.mode = .interlock)) = some true := by
    decide +kernel
  obtain ⟨⟨p', snapshot⟩, htick, hfacts⟩ := Option.map_eq_some_iff.1 htick
  obtain ⟨hprintable, hmode⟩ := of_decide_eq_true hfacts
  obtain ⟨s', hreport, hlast⟩ := bench_reports htick hprintable
  have htemperature :
      (bench Bench.frost [0, 0, 0]).session.pipeline.trusted.temperature ≠ none := by
    decide +kernel
  have hrun : Run (Step ["gh-a"] benchHouse) (bench Bench.frost [0, 0, 0]) []
      (bench Bench.frost [0, 0, 0]) := .nil _
  obtain ⟨snapshot', hlast', hshows⟩ := interlock_shown_iff ["gh-a"] benchHouse
    (Bench.config Bench.frost) { readings := Bench.readings [0, 0, 0] 420 } Clock.new 30000000000
    hrun hreport
  obtain rfl := Option.some.inj (hlast.symm.trans hlast')
  exact ⟨s', snapshot, hreport, hlast, hmode, hshows.2 (.inl htemperature)⟩

end Bench

end House

end Greenhouse.Dashboard
