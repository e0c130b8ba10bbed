import Greenhouse.Platform.Standing
import Greenhouse.Process.Grouped
import Greenhouse.Process.Run

/-!
# The activity feed and the active alerts

A dashboard fetches both lists for a scope and keeps them up to date with the frames that follow.
The platform and the alerts of the dashboard take a severity as a minimum; the feed of the
dashboard takes it literally.

* `listEvents`, `listActiveAlerts`: the lists as the platform answers a fetch.
* `eventMatchesScope`, `applyEventFrame`, `applyActiveAlertsFrame`: what a frame does to them.
* `alertsOf_of_unchanged`: an update that is not announced leaves the alerts as they are.
* `Feed.alerts_of_run`: the alerts of a dashboard equal a fetch throughout every run.
* `Feed.feed_fresh_iff`: the runs in which both lists are throughout those a fetch would answer.
-/

namespace Greenhouse.Dashboard

open Greenhouse.Platform Greenhouse.Process Std

/-! ## Scopes -/

inductive EventKind where
  | fault
  | interlock
  | profileApplied
  | setpointEdit
  | drift
  | optimizerPlanApplied
  | optimizerPlanEscalated
  | optimizerPlanHeld
  | optimizerResolved
  | optimizerRunFailed
  deriving DecidableEq

def EventKind.asStr : EventKind → String
  | fault => "fault"
  | interlock => "interlock"
  | profileApplied => "profile_applied"
  | setpointEdit => "setpoint_edit"
  | drift => "drift"
  | optimizerPlanApplied => "optimizer_plan_applied"
  | optimizerPlanEscalated => "optimizer_plan_escalated"
  | optimizerPlanHeld => "optimizer_plan_held"
  | optimizerResolved => "optimizer_resolved"
  | optimizerRunFailed => "optimizer_run_failed"

inductive EventSeverity where
  | info
  | warning
  | critical
  deriving DecidableEq

def EventSeverity.asStr : EventSeverity → String
  | info => "info"
  | warning => "warning"
  | critical => "critical"

/-- The filter of a page; every field is optional. -/
structure EventScope where
  greenhouseId : Option String := none
  kind : Option EventKind := none
  severity : Option EventSeverity := none

/-- The parameters of a request, `""` for one that is absent. -/
structure QueryParams where
  greenhouseId : String
  kind : String
  severity : String

def EventScope.query (scope : EventScope) : QueryParams where
  greenhouseId := scope.greenhouseId.getD ""
  kind := (scope.kind.map EventKind.asStr).getD ""
  severity := (scope.severity.map EventSeverity.asStr).getD ""

/-! ## The platform -/

def eventKinds : List String :=
  ["fault", "interlock", "profile_applied", "setpoint_edit", "drift", "optimizer_plan_applied",
    "optimizer_plan_held", "optimizer_plan_escalated", "optimizer_resolved",
    "optimizer_run_failed"]

def eventSeverities : List String := ["info", "warning", "critical"]

/-- The grading of a severity; one that is unknown is the lowest. -/
def severityLevel (severity : String) : ℕ :=
  if severity = "critical" then 2 else if severity = "warning" then 1 else 0

/-- What narrows the activity feed; `minSeverity` is a minimum. -/
structure EventFilter where
  greenhouseId : Option String
  kind : Option String
  minSeverity : Option String

/-- Unknown values of a parameter are ignored. -/
def eventFilter (params : QueryParams) : EventFilter where
  greenhouseId := if params.greenhouseId ≠ "" then some params.greenhouseId else none
  kind := if params.kind ∈ eventKinds then some params.kind else none
  minSeverity := if params.severity ∈ eventSeverities then some params.severity else none

def EventFilter.admits (filter : EventFilter) (event : Event) : Bool :=
  filter.greenhouseId.all (fun id => event.greenhouseId == id) &&
    filter.kind.all (fun kind => event.kind == kind) &&
    filter.minSeverity.all fun min => decide (severityLevel min ≤ severityLevel event.severity)

/-- The recent events that a filter admits, the newest first. -/
def storeListEvents (stored : List Event) (filter : EventFilter) : List Event :=
  ((stored.filter filter.admits).mergeSort fun a b => decide (b.ts ≤ a.ts)).take 500

def listEvents (stored : List Event) (params : QueryParams) : List Event :=
  storeListEvents stored (eventFilter params)

/-- An active alert with its greenhouse. -/
structure Alert extends ActiveAlert where
  greenhouseId : String

def meetsMinimumSeverity (severity min : String) : Bool :=
  min = "" || decide (severityLevel min ≤ severityLevel severity)

/-- The alerts of a greenhouse. -/
def alertsOf (fleet : Fleet) (greenhouseId : String) : List ActiveAlert :=
  match fleet.snapshot greenhouseId with
  | none => []
  | some snapshot => activeAlerts snapshot.activeFaults

/-- The alerts of one greenhouse that a request asks for. -/
def requestedAlerts (fleet : Fleet) (params : QueryParams) (greenhouseId : String) : List Alert :=
  let kind := if params.kind ∈ eventKinds then params.kind else ""
  let min := if params.severity ∈ eventSeverities then params.severity else ""
  if params.greenhouseId ≠ "" ∧ greenhouseId ≠ params.greenhouseId then []
  else ((alertsOf fleet greenhouseId).filter fun alert =>
    (kind = "" || alert.kind = kind) && meetsMinimumSeverity alert.severity min).map
      fun alert => { alert with greenhouseId }

/-- The alerts of the registered greenhouses, the oldest first. -/
def listActiveAlerts (registry : List String) (fleet : Fleet) (params : QueryParams) : List Alert :=
  (registry.flatMap (requestedAlerts fleet params)).mergeSort fun a b => decide (a.since ≤ b.since)

/-! ## The dashboard -/

/-- A part of the scope that is set and is not the empty text. -/
def truthy (id : Option String) : Option String := id.filter fun id => id ≠ ""

/-- Whether a live event belongs in a feed opened with a scope. -/
def eventMatchesScope (entry : Event) (scope : EventScope) : Bool :=
  (truthy scope.greenhouseId).all (fun id => entry.greenhouseId == id) &&
    scope.kind.all (fun kind => entry.kind == kind.asStr) &&
    scope.severity.all fun severity => entry.severity == severity.asStr

/-- An event is put in front of the feed it belongs in. -/
def applyEventFrame (scope : EventScope) (list : List Event) (entry : Event) : List Event :=
  if eventMatchesScope entry scope then entry :: list else list

/-- The alerts of one greenhouse are replaced, if the scope shows the greenhouse. -/
def applyActiveAlertsFrame (scope : EventScope) (current : List Alert) (greenhouseId : String)
    (frame : List ActiveAlert) : List Alert :=
  if (truthy scope.greenhouseId).all fun id => id == greenhouseId then
    let alerts := frame.map fun alert : ActiveAlert => ({ alert with greenhouseId } : Alert)
    let matching := alerts.filter fun alert =>
      scope.kind.all (fun kind => alert.kind == kind.asStr) &&
        scope.severity.all fun severity =>
          decide (severityLevel severity.asStr ≤ severityLevel alert.severity)
    current.filter (fun alert => alert.greenhouseId ≠ greenhouseId) ++ matching
  else current

/-! ## The same filter on both sides -/

section Filter

variable {scope : EventScope}

theorem query_greenhouseId (scope : EventScope) :
    (if scope.query.greenhouseId ≠ "" then some scope.query.greenhouseId else none) =
      truthy scope.greenhouseId := by
  rw [EventScope.query, truthy]
  cases scope.greenhouseId with
  | none => rfl
  | some id =>
    rw [Option.getD_some, Option.filter_some]
    by_cases hid : id = ""
    · simp [hid]
    · simp [hid]

/-- The platform knows the kinds of the dashboard. -/
theorem EventKind.asStr_mem (kind : EventKind) : kind.asStr ∈ eventKinds := by
  cases kind <;> decide

theorem EventSeverity.asStr_mem (severity : EventSeverity) :
    severity.asStr ∈ eventSeverities := by
  cases severity <;> decide

theorem query_kind (scope : EventScope) :
    (if scope.query.kind ∈ eventKinds then some scope.query.kind else none) =
      scope.kind.map EventKind.asStr := by
  rw [EventScope.query]
  cases scope.kind with
  | none =>
    show (if "" ∈ eventKinds then some "" else none) = none
    decide
  | some kind => exact if_pos kind.asStr_mem

theorem query_severity (scope : EventScope) :
    (if scope.query.severity ∈ eventSeverities then some scope.query.severity else none) =
      scope.severity.map EventSeverity.asStr := by
  rw [EventScope.query]
  cases scope.severity with
  | none =>
    show (if "" ∈ eventSeverities then some "" else none) = none
    decide
  | some severity => exact if_pos severity.asStr_mem

/-- The greenhouse and the kind of an event are those of the scope. -/
def inScope (scope : EventScope) (event : Event) : Bool :=
  (truthy scope.greenhouseId).all (fun id => event.greenhouseId == id) &&
    scope.kind.all fun kind => event.kind == kind.asStr

/-- The platform admits the events of the scope whose severity is high enough. -/
theorem admits_query (scope : EventScope) (event : Event) :
    (eventFilter scope.query).admits event = (inScope scope event && scope.severity.all
      fun severity => decide (severityLevel severity.asStr ≤ severityLevel event.severity)) := by
  rw [EventFilter.admits, eventFilter, query_greenhouseId, query_kind, query_severity, inScope,
    Option.all_map, Option.all_map]

theorem eventMatchesScope_eq (scope : EventScope) (event : Event) :
    eventMatchesScope event scope = (inScope scope event && scope.severity.all
      fun severity => event.severity == severity.asStr) := rfl

/-- An event of the scope that is severe enough has the severity of the scope itself. -/
def NoMoreSevere (scope : EventScope) (event : Event) : Prop :=
  ∀ severity, scope.severity = some severity → inScope scope event = true →
    severityLevel severity.asStr ≤ severityLevel event.severity →
      event.severity = severity.asStr

/-- The two sides agree on an event exactly if it is not more severe than the scope. -/
theorem admits_eq_matches_iff (scope : EventScope) (event : Event) :
    (eventFilter scope.query).admits event = eventMatchesScope event scope ↔
      NoMoreSevere scope event := by
  rw [admits_query, eventMatchesScope_eq, NoMoreSevere]
  cases hscope : inScope scope event with
  | false => simp
  | true =>
    cases scope.severity with
    | none => simp
    | some severity =>
      simp only [Bool.true_and, Option.all_some, Option.some.injEq, forall_eq', forall_const]
      by_cases heq : event.severity = severity.asStr
      · simp [heq]
      · rw [beq_eq_false_iff_ne.2 heq]
        simp [heq]

end Filter

/-! ## The alerts of a greenhouse -/

theorem alertsOf_eq (fleet : Fleet) (g : String) :
    alertsOf fleet g = activeAlerts (fleet.ensure g).activeFaults := by
  rw [alertsOf, Fleet.snapshot, Fleet.ensure, TreeMap.getD_eq_getD_getElem?]
  cases fleet.entries[g]? <;> rfl

section Alerts

variable {fleet : Fleet} {g h : String} {faults : TreeMap FaultKey ActiveFault} {ts : Int}

theorem alertsOf_setActiveFaults_of_ne (hne : h ≠ g) :
    alertsOf (fleet.setActiveFaults g faults ts).1 h = alertsOf fleet h := by
  rw [alertsOf_eq, alertsOf_eq, Fleet.setActiveFaults, Fleet.ensure_put_of_ne hne]

/-- A fault that is reported again is recorded as it was. -/
theorem stamp_of_sameFault {previous : Option ActiveFault} {fault : ActiveFault} (ts : Int)
    (hsame : Fleet.sameFault previous fault = true) :
    ∃ p, previous = some p ∧ Fleet.stamp previous fault ts = p := by
  cases previous with
  | none => cases hsame
  | some p =>
    refine ⟨p, rfl, ?_⟩
    have hstamp : Fleet.stamp (some p) fault ts = { fault with since := p.since } := by
      rw [Fleet.stamp]
      simp only [hsame, if_true]
    obtain ⟨htype, hseverity⟩ := Bool.and_eq_true_iff.1 hsame
    rw [hstamp, ← eq_of_beq htype, ← eq_of_beq hseverity]

/-- **An update that is not announced** leaves the alerts, and when they were first seen. -/
theorem alertsOf_of_unchanged (hchanged : (fleet.setActiveFaults g faults ts).2 = false) :
    alertsOf (fleet.setActiveFaults g faults ts).1 g = alertsOf fleet g := by
  let old := (fleet.ensure g).activeFaults
  have hactive := fleet.activeFaults_setActiveFaults g faults ts
  obtain ⟨hsize, hsame⟩ := Bool.or_eq_false_iff.1 hchanged
  have hsize : old.size = faults.size := by simpa using hsize
  have hfault : ∀ (key : FaultKey) (fault : ActiveFault), faults[key]? = some fault →
      Fleet.sameFault old[key]? fault = true := by
    intro key fault hfault
    rw [any_toList, List.any_eq_false] at hsame
    have hmem := TreeMap.mem_toList_iff_getElem?_eq_some.2 hfault
    simpa using hsame (key, fault) hmem
  rw [alertsOf_eq, alertsOf_eq, activeAlerts, activeAlerts]
  have hlist : ((fleet.setActiveFaults g faults ts).1.ensure g).activeFaults.toList =
      old.toList := by
    apply toList_eq_of_entries
    · rw [Fleet.setActiveFaults, Fleet.ensure_put]
      exact TreeMap.size_map.trans hsize.symm
    · intro key recorded hrecorded
      rw [hactive] at hrecorded
      obtain ⟨fault, hget, rfl⟩ := Option.map_eq_some_iff.1 hrecorded
      obtain ⟨previous, hprevious, hstamp⟩ := stamp_of_sameFault ts (hfault key fault hget)
      rw [hstamp]
      exact hprevious
  rw [hlist]

/-- Whether the dashboard shows an alert of a greenhouse that its scope shows. -/
def showsAlert (scope : EventScope) (alert : ActiveAlert) : Bool :=
  scope.kind.all (fun kind => alert.kind == kind.asStr) &&
    scope.severity.all fun severity =>
      decide (severityLevel severity.asStr ≤ severityLevel alert.severity)

/-- A parameter that is not known is taken for an absent one. -/
theorem known_param {known : List String} {x : String} {y : Option String}
    (h : (if x ∈ known then some x else none) = y) : (if x ∈ known then x else "") = y.getD "" := by
  rw [← h]
  split <;> rfl

theorem shows_kind (scope : EventScope) (kind : String) :
    (decide ((scope.kind.map EventKind.asStr).getD "" = "") ||
        decide (kind = (scope.kind.map EventKind.asStr).getD "")) =
      scope.kind.all fun k => kind == k.asStr := by
  cases scope.kind with
  | none => rfl
  | some k =>
    have hne : k.asStr ≠ "" := by
      cases k <;> decide
    rw [Option.map_some, Option.getD_some, decide_eq_false hne]
    rfl

theorem shows_severity (scope : EventScope) (severity : String) :
    meetsMinimumSeverity severity ((scope.severity.map EventSeverity.asStr).getD "") =
      scope.severity.all fun min => decide (severityLevel min.asStr ≤ severityLevel severity) := by
  rw [meetsMinimumSeverity]
  cases scope.severity with
  | none => rfl
  | some min =>
    have hne : min.asStr ≠ "" := by
      cases min <;> decide
    rw [Option.map_some, Option.getD_some, decide_eq_false hne]
    rfl

theorem query_shows (scope : EventScope) (g : String) :
    (scope.query.greenhouseId ≠ "" ∧ g ≠ scope.query.greenhouseId) ↔
      ¬ (truthy scope.greenhouseId).all (fun id => id == g) = true := by
  rw [← query_greenhouseId]
  by_cases hid : scope.query.greenhouseId = ""
  · simp [hid]
  · rw [if_pos hid, Option.all_some, beq_iff_eq]
    exact ⟨fun h heq => h.2 heq.symm, fun h => ⟨hid, fun heq => h heq.symm⟩⟩

/-- The alerts that the platform answers are those that the dashboard shows. -/
theorem requestedAlerts_query (scope : EventScope) (fleet : Fleet) (greenhouseId : String) :
    requestedAlerts fleet scope.query greenhouseId =
      if (truthy scope.greenhouseId).all fun id => id == greenhouseId then
        ((alertsOf fleet greenhouseId).filter (showsAlert scope)).map
          fun alert => { alert with greenhouseId }
      else [] := by
  rw [requestedAlerts, known_param (query_kind scope), known_param (query_severity scope)]
  simp only [shows_kind, shows_severity, query_shows, ite_not]
  rfl

theorem requestedAlerts_congr {fleet fleet' : Fleet} {params : QueryParams}
    (halerts : alertsOf fleet' g = alertsOf fleet g) :
    requestedAlerts fleet' params g = requestedAlerts fleet params g := by
  rw [requestedAlerts, requestedAlerts, halerts]

/-- The alerts of the dashboard after a frame of a greenhouse. -/
theorem applyActiveAlertsFrame_eq (scope : EventScope) (current : List Alert) (g : String)
    (frame : List ActiveAlert) :
    applyActiveAlertsFrame scope current g frame =
      if (truthy scope.greenhouseId).all fun id => id == g then
        current.filter (fun alert => alert.greenhouseId ≠ g) ++
          (frame.filter (showsAlert scope)).map fun alert => { alert with greenhouseId := g }
      else current := by
  rw [applyActiveAlertsFrame]
  simp only [List.filter_map]
  rfl

theorem greenhouseId_requestedAlerts {params : QueryParams} {alert : Alert}
    (hmem : alert ∈ requestedAlerts fleet params g) : alert.greenhouseId = g := by
  rw [requestedAlerts] at hmem
  split at hmem
  · cases hmem
  · obtain ⟨a, -, rfl⟩ := List.mem_map.1 hmem
    rfl

end Alerts

/-! ## The lists of a dashboard -/

/-- The registered greenhouses. -/
structure Registry where
  ids : List String
  nodup : ids.Nodup

/-- What the platform has stored and what it holds live, with the two lists of a dashboard. -/
structure Feed where
  stored : List Event
  fleet : Fleet
  events : List Event
  alerts : List Alert

/-- An event is stored, or a state frame of a greenhouse is applied. -/
inductive Change where
  | event (event : Event)
  | faults (greenhouseId : String) (faults : TreeMap FaultKey ActiveFault) (ts : Int)

namespace Feed

/-- The dashboard after a fetch. -/
def fetch (registry : Registry) (scope : EventScope) (stored : List Event) (fleet : Fleet) :
    Feed where
  stored := stored
  fleet := fleet
  events := listEvents stored scope.query
  alerts := listActiveAlerts registry.ids fleet scope.query

/-- A change, and its frame at the dashboard. The platform answers with at most 500 events, so
fewer match; the faults of a frame come in any order. -/
def Step (registry : Registry) (scope : EventScope) (s : Feed) (change : Change) (s' : Feed) :
    Prop :=
  match change with
  | .event event =>
    s' = { s with
      stored := s.stored ++ [event]
      events := applyEventFrame scope s.events event } ∧
      (s'.stored.filter (eventFilter scope.query).admits).length < 500
  | .faults g faults ts =>
    g ∈ registry.ids ∧
      if (s.fleet.setActiveFaults g faults ts).2 then
        ∃ frame : List ActiveAlert,
          frame.Perm (alertsOf (s.fleet.setActiveFaults g faults ts).1 g) ∧
            s' = { s with
              fleet := (s.fleet.setActiveFaults g faults ts).1
              alerts := applyActiveAlertsFrame scope s.alerts g frame }
      else s' = { s with fleet := (s.fleet.setActiveFaults g faults ts).1 }

/-- Both lists have the entries that a fetch would answer. -/
def Fresh (registry : Registry) (scope : EventScope) (s : Feed) : Prop :=
  s.events.Perm (listEvents s.stored scope.query) ∧
    s.alerts.Perm (listActiveAlerts registry.ids s.fleet scope.query)

/-- An event of the scope is not more severe than the scope. -/
def Graded (scope : EventScope) (_ : Feed) (change : Change) : Prop :=
  ∀ event, change = .event event → NoMoreSevere scope event

variable {registry : Registry} {scope : EventScope} {s s' : Feed}

/-- While fewer than 500 events match, all of them are listed. -/
theorem listEvents_perm {stored : List Event}
    (hfew : (stored.filter (eventFilter scope.query).admits).length < 500) :
    (listEvents stored scope.query).Perm (stored.filter (eventFilter scope.query).admits) := by
  have hsorted := List.mergeSort_perm (stored.filter (eventFilter scope.query).admits)
    fun a b => decide (b.ts ≤ a.ts)
  rw [listEvents, storeListEvents, List.take_of_length_le]
  · exact hsorted
  · rw [hsorted.length_eq]
    exact hfew.le

/-- The feed after an event. -/
theorem events_step {event : Event} (hs : s.events.Perm (listEvents s.stored scope.query))
    (hfew : ((s.stored ++ [event]).filter (eventFilter scope.query).admits).length < 500) :
    (applyEventFrame scope s.events event).Perm
        (listEvents (s.stored ++ [event]) scope.query) ↔ NoMoreSevere scope event := by
  have hbefore : (s.stored.filter (eventFilter scope.query).admits).length < 500 := by
    rw [List.filter_append, List.length_append] at hfew
    omega
  have hs := hs.trans (listEvents_perm hbefore)
  have hafter := listEvents_perm hfew
  rw [List.filter_append] at hafter
  rw [← admits_eq_matches_iff]
  constructor
  · intro hperm
    have hlength := (hperm.trans hafter).length_eq
    rw [List.length_append, ← hs.length_eq, applyEventFrame] at hlength
    cases hmatches : eventMatchesScope event scope <;>
      cases hadmits : (eventFilter scope.query).admits event <;>
      simp [hmatches, hadmits] at hlength ⊢
  · intro hsame
    refine List.Perm.trans ?_ hafter.symm
    rw [applyEventFrame, ← hsame]
    cases hadmits : (eventFilter scope.query).admits event with
    | false => simpa [hadmits] using hs
    | true =>
      simp only [if_true, List.filter_cons, hadmits, List.filter_nil]
      exact (hs.cons event).trans (List.perm_append_singleton event _).symm

/-- An event leaves the alerts, and what the platform would answer for them. -/
theorem alerts_event {event : Event} (h : Step registry scope s (.event event) s') :
    s'.alerts = s.alerts ∧ s'.fleet = s.fleet := by
  obtain ⟨rfl, -⟩ := h
  exact ⟨rfl, rfl⟩

/-- A state frame leaves the events. -/
theorem events_faults {g : String} {faults : TreeMap FaultKey ActiveFault} {ts : Int}
    (h : Step registry scope s (.faults g faults ts) s') :
    s'.events = s.events ∧ s'.stored = s.stored := by
  obtain ⟨-, h⟩ := h
  split at h
  · obtain ⟨frame, -, rfl⟩ := h
    exact ⟨rfl, rfl⟩
  · obtain rfl := h
    exact ⟨rfl, rfl⟩

/-- The alerts after a state frame of a greenhouse. -/
theorem alerts_step {g : String} {faults : TreeMap FaultKey ActiveFault} {ts : Int}
    (hs : s.alerts.Perm (listActiveAlerts registry.ids s.fleet scope.query))
    (hstep : Step registry scope s (.faults g faults ts) s') :
    s'.alerts.Perm (listActiveAlerts registry.ids s'.fleet scope.query) := by
  obtain ⟨hg, hstep⟩ := hstep
  let fleet := (s.fleet.setActiveFaults g faults ts).1
  have hothers : ∀ h, h ≠ g → requestedAlerts fleet scope.query h =
      requestedAlerts s.fleet scope.query h := fun h hne =>
    requestedAlerts_congr (alertsOf_setActiveFaults_of_ne hne)
  have hbefore := hs.trans (List.mergeSort_perm _ _)
  have hsuffices : ∀ alerts : List Alert,
      alerts.Perm (registry.ids.flatMap (requestedAlerts fleet scope.query)) →
        alerts.Perm (listActiveAlerts registry.ids fleet scope.query) := fun alerts hperm =>
    hperm.trans (List.mergeSort_perm _ _).symm
  split at hstep
  · obtain ⟨frame, hframe, rfl⟩ := hstep
    apply hsuffices
    rw [applyActiveAlertsFrame_eq]
    split
    · rename_i hshown
      refine replace_perm registry.nodup hg (fun h a => greenhouseId_requestedAlerts) hothers ?_
        hbefore
      rw [requestedAlerts_query, if_pos hshown]
      exact (hframe.filter _).map _
    · rename_i hhidden
      have hsame : requestedAlerts fleet scope.query = requestedAlerts s.fleet scope.query := by
        funext h
        by_cases hne : h = g
        · rw [hne, requestedAlerts_query, requestedAlerts_query, if_neg hhidden, if_neg hhidden]
        · exact hothers h hne
      rw [hsame]
      exact hbefore
  · rename_i hunchanged
    obtain rfl := hstep
    apply hsuffices
    have hsame : requestedAlerts fleet scope.query = requestedAlerts s.fleet scope.query := by
      funext h
      by_cases hne : h = g
      · rw [hne]
        exact requestedAlerts_congr (alertsOf_of_unchanged (Bool.eq_false_iff.2 hunchanged))
      · exact hothers h hne
    rw [hsame]
    exact hbefore

/-- **The alerts equal a fetch throughout every run**, whatever its events are. -/
theorem alerts_of_run {stored : List Event} {fleet : Fleet} {changes : List Change}
    (h : Run (Step registry scope) (fetch registry scope stored fleet) changes s) :
    s.alerts.Perm (listActiveAlerts registry.ids s.fleet scope.query) := by
  refine h.invariant (I := fun s => s.alerts.Perm
    (listActiveAlerts registry.ids s.fleet scope.query)) (fun s change s' hs hstep => ?_)
    (List.Perm.refl _)
  cases change with
  | event event =>
    obtain ⟨halerts, hfleet⟩ := alerts_event hstep
    rw [halerts, hfleet]
    exact hs
  | faults g faults ts => exact alerts_step hs hstep

/-- **The runs in which both lists equal a fetch throughout** are those in which no event of the
scope is more severe than the scope. -/
theorem feed_fresh_iff (registry : Registry) (scope : EventScope) (stored : List Event)
    (fleet : Fleet) (changes : List Change) (s : Feed) :
    Run (Keeping (Step registry scope) (Fresh registry scope)) (fetch registry scope stored fleet)
        changes s ↔
      Run (Meeting (Step registry scope) (Graded scope)) (fetch registry scope stored fleet)
        changes s := by
  refine Run.keeping_iff (fun s change s' hs hstep => ?_) ⟨List.Perm.refl _, List.Perm.refl _⟩
  cases change with
  | event event =>
    obtain ⟨rfl, hfew⟩ := hstep
    have hiff := events_step hs.1 hfew
    constructor
    · rintro ⟨hevents, -⟩ event' heq
      cases heq
      exact hiff.1 hevents
    · intro hgraded
      exact ⟨hiff.2 (hgraded event rfl), hs.2⟩
  | faults g faults ts =>
    refine ⟨fun _ event heq => ?_, fun _ => ⟨?_, alerts_step hs.2 hstep⟩⟩
    · cases heq
    · obtain ⟨hevents, hstored⟩ := events_faults hstep
      rw [hevents, hstored]
      exact hs.1

end Feed

/-! ### A severe event -/

section Bench

def benchRegistry : Registry := ⟨["gh-a"], List.nodup_singleton "gh-a"⟩

/-- A feed of warnings, and of what is more severe. -/
def warnings : EventScope := { severity := some .warning }

/-- The house is too hot. -/
def overheated : Event where
  greenhouseId := "gh-a"
  ts := 1780840980
  kind := "interlock"
  severity := "critical"
  message := "air temperature above critical max"
  source := "temperature"

/-- **A feed of warnings misses an event that a fetch would list.** -/
theorem feed_misses_critical :
    ∃ s, Run (Feed.Step benchRegistry warnings)
      (Feed.fetch benchRegistry warnings [] { offlineAfter := 30000000000 }) [.event overheated] s ∧
        ¬ Feed.Fresh benchRegistry warnings s := by
  let fetched := Feed.fetch benchRegistry warnings [] { offlineAfter := 30000000000 }
  refine ⟨{ fetched with
    stored := [overheated]
    events := applyEventFrame warnings fetched.events overheated }, .single ⟨rfl, ?_⟩, ?_⟩
  · decide
  · intro hfresh
    have hlength := hfresh.1.length_eq
    revert hlength
    decide +kernel

end Bench

end Greenhouse.Dashboard
