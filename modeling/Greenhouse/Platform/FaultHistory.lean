import Greenhouse.Platform.Standing
import Greenhouse.Process.Carried
import Greenhouse.Process.Grouped

/-!
# The history of the recorded faults

Every state frame replaces the active faults and the sensor faults of its greenhouse. The view
records what the latest frame reports, and for every fault when the current uninterrupted run of
frames that report it began.

* `Fleet.activeDates`, `Fleet.sensorDates`: what is recorded, without its representation.
* `activeDates_setActiveFaults`, `sensorDates_setSensorFaults`: an update records a bulletin.
* `setActiveFaults_changed_iff`: an update reports a change when the bulletin differs.
* `fault_bookkeeping`: **the record of every history is right.**
-/

namespace Greenhouse.Platform

open Greenhouse.Process Std

/-! ## What a frame reports -/

/-- The active faults of a frame. -/
def activeBulletin (faults : TreeMap FaultKey ActiveFault) (ts : Int) :
    Bulletin FaultKey (String × String) Int where
  shows key := faults[key]?.map fun fault => (fault.faultType, fault.severity)
  ts := ts

/-- The sensor faults of a frame. -/
def sensorBulletin (faults : TreeMap FaultKey String) (ts : Int) :
    Bulletin FaultKey String Int where
  shows key := faults[key]?
  ts := ts

namespace Fleet

variable {f : Fleet} {id other : String} {ts : Int}

/-- The active faults recorded, and since when. -/
def activeDates (f : Fleet) (id : String) : Dated FaultKey (String × String) Int := fun key =>
  (f.ensure id).activeFaults[key]?.map fun fault =>
    ((fault.faultType, fault.severity), fault.since)

/-- The sensor faults recorded, and since when. -/
def sensorDates (f : Fleet) (id : String) : Dated FaultKey String Int := fun key =>
  (f.ensure id).sensorFaults[key]?.map fun fault => (fault.kind, fault.since)

/-! ## An update -/

section Active

variable {faults : TreeMap FaultKey ActiveFault}

/-- A fault is the same if it has the type and the severity of the recorded one. -/
theorem sameFault_iff {previous : Option ActiveFault} {fault : ActiveFault} :
    sameFault previous fault = true ↔
      previous.map (fun p => (p.faultType, p.severity)) =
        some (fault.faultType, fault.severity) := by
  cases previous with
  | none => exact ⟨fun h => (by cases h), fun h => (by cases h)⟩
  | some p => simp [sameFault]

theorem since_stamp (previous : Option ActiveFault) (fault : ActiveFault) (ts : Int) :
    (stamp previous fault ts).since =
      sinceOr (previous.map fun p => ((p.faultType, p.severity), p.since))
        (fault.faultType, fault.severity) ts := by
  cases previous with
  | none => rfl
  | some p =>
    have hsame : sameFault (some p) fault = true ↔
        (p.faultType, p.severity) = (fault.faultType, fault.severity) := by
      rw [sameFault_iff, Option.map_some, Option.some.injEq]
    by_cases h : sameFault (some p) fault = true
    · have hrecorded : (stamp (some p) fault ts).since = p.since := by
        simp only [stamp, h, if_true]
      rw [hrecorded]
      exact (if_pos (hsame.1 h)).symm
    · have hnew : (stamp (some p) fault ts).since = ts := by
        simp only [stamp, h, if_false, Bool.false_eq_true]
      rw [hnew]
      exact (if_neg fun heq => h (hsame.2 heq)).symm

/-- **An update of the active faults records the bulletin.** -/
theorem activeDates_setActiveFaults :
    (f.setActiveFaults id faults ts).1.activeDates id =
      (f.activeDates id).carry (activeBulletin faults ts) := by
  funext key
  rw [activeDates, activeFaults_setActiveFaults, Dated.carry, activeBulletin, Option.map_map,
    Option.map_map]
  cases faults[key]? with
  | none => rfl
  | some fault =>
    simp only [Option.map_some, Function.comp_apply, stamp_faultType, stamp_severity, since_stamp]
    rfl

theorem ensure_setActiveFaults_of_ne (hne : other ≠ id) :
    (f.setActiveFaults id faults ts).1.ensure other = f.ensure other :=
  ensure_put_of_ne hne

theorem sensorFaults_setActiveFaults :
    ((f.setActiveFaults id faults ts).1.ensure id).sensorFaults = (f.ensure id).sensorFaults := by
  rw [setActiveFaults, ensure_put]

/-- The type and the severity of each fault. -/
def grades (faults : TreeMap FaultKey ActiveFault) : TreeMap FaultKey (String × String) :=
  faults.map fun _ fault => (fault.faultType, fault.severity)

theorem grades_getElem? (key : FaultKey) :
    (grades faults)[key]? = faults[key]?.map fun fault => (fault.faultType, fault.severity) :=
  TreeMap.getElem?_map

/-- No change is reported when there are as many faults and each is recorded. -/
theorem changed_eq_false_iff :
    (f.setActiveFaults id faults ts).2 = false ↔
      (grades faults).size = (grades (f.ensure id).activeFaults).size ∧
        ∀ (key : FaultKey) (grade : String × String), (grades faults)[key]? = some grade →
          (grades (f.ensure id).activeFaults)[key]? = some grade := by
  have hsize : ∀ m : TreeMap FaultKey ActiveFault, (grades m).size = m.size := fun m =>
    TreeMap.size_map
  rw [setActiveFaults, Bool.or_eq_false_iff, any_toList, List.any_eq_false, hsize, hsize]
  refine and_congr ?_ ?_
  · rw [bne_eq_false_iff_eq]
    exact eq_comm
  · constructor
    · intro h key grade hgrade
      rw [grades_getElem?] at hgrade ⊢
      obtain ⟨fault, hfault, rfl⟩ := Option.map_eq_some_iff.1 hgrade
      have hmem := TreeMap.mem_toList_iff_getElem?_eq_some.2 hfault
      rw [← sameFault_iff]
      simpa using h (key, fault) hmem
    · intro h x hx
      have hfault := TreeMap.mem_toList_iff_getElem?_eq_some.1 hx
      have hgrade := h x.1 (x.2.faultType, x.2.severity) (by rw [grades_getElem?, hfault]; rfl)
      rw [grades_getElem?, ← sameFault_iff] at hgrade
      simp [hgrade]

/-- **An update reports a change when what it reports differs from what is recorded.** -/
theorem setActiveFaults_changed_iff :
    (f.setActiveFaults id faults ts).2 = true ↔
      ∃ key, (f.activeDates id key).map Prod.fst ≠ (activeBulletin faults ts).shows key := by
  have hrecorded : ∀ key, (f.activeDates id key).map Prod.fst =
      (grades (f.ensure id).activeFaults)[key]? := by
    intro key
    rw [activeDates, Option.map_map, grades_getElem?]
    rfl
  have hshown : ∀ key, (activeBulletin faults ts).shows key = (grades faults)[key]? := fun key =>
    (grades_getElem? key).symm
  have hsame : (f.setActiveFaults id faults ts).2 = false ↔
      (grades faults).toList = (grades (f.ensure id).activeFaults).toList := by
    rw [changed_eq_false_iff]
    constructor
    · rintro ⟨hsize, hentries⟩
      exact toList_eq_of_entries hsize hentries
    · intro hlist
      refine ⟨?_, fun key grade hgrade => ?_⟩
      · rw [← TreeMap.length_toList, hlist, TreeMap.length_toList]
      · rw [← toList_eq_iff.1 hlist key]
        exact hgrade
  rw [← Bool.not_eq_false, hsame, toList_eq_iff, not_forall]
  refine exists_congr fun key => ?_
  rw [hrecorded, hshown]
  exact ne_comm

end Active

section Sensor

variable {faults : TreeMap FaultKey String}

/-- **An update of the sensor faults records the bulletin.** -/
theorem sensorDates_setSensorFaults :
    (f.setSensorFaults id faults ts).sensorDates id =
      (f.sensorDates id).carry (sensorBulletin faults ts) := by
  funext key
  rw [sensorDates, setSensorFaults, ensure_put, TreeMap.getElem?_map, Option.map_map]
  show _ = faults[key]?.map fun kind => (kind, sinceOr (f.sensorDates id key) kind ts)
  rw [sensorDates]
  cases faults[key]? with
  | none => rfl
  | some kind => cases (f.ensure id).sensorFaults[key]? <;> rfl

theorem ensure_setSensorFaults_of_ne (hne : other ≠ id) :
    (f.setSensorFaults id faults ts).ensure other = f.ensure other :=
  ensure_put_of_ne hne

theorem activeFaults_setSensorFaults :
    ((f.setSensorFaults id faults ts).ensure id).activeFaults = (f.ensure id).activeFaults := by
  rw [setSensorFaults, ensure_put]

end Sensor

end Fleet

/-! ## Histories -/

/-- A call that replaces the faults of a greenhouse. -/
inductive FaultCall where
  | setActiveFaults (id : String) (faults : TreeMap FaultKey ActiveFault) (ts : Int)
  | setSensorFaults (id : String) (faults : TreeMap FaultKey String) (ts : Int)

namespace FaultCall

def apply (f : Fleet) : FaultCall → Fleet
  | setActiveFaults id faults ts => (f.setActiveFaults id faults ts).1
  | setSensorFaults id faults ts => f.setSensorFaults id faults ts

/-- The active faults the call reports for a greenhouse. -/
def active? (id : String) : FaultCall → Option (Bulletin FaultKey (String × String) Int)
  | setActiveFaults g faults ts => if g = id then some (activeBulletin faults ts) else none
  | setSensorFaults _ _ _ => none

/-- The sensor faults the call reports for a greenhouse. -/
def sensor? (id : String) : FaultCall → Option (Bulletin FaultKey String Int)
  | setActiveFaults _ _ _ => none
  | setSensorFaults g faults ts => if g = id then some (sensorBulletin faults ts) else none

variable {f : Fleet} {id : String}

theorem activeDates_apply (x : FaultCall) :
    (apply f x).activeDates id = ((x.active? id).toList).foldl Dated.carry (f.activeDates id) := by
  cases x with
  | setActiveFaults g faults ts =>
    by_cases hg : g = id
    · subst hg
      rw [active?, if_pos rfl]
      exact Fleet.activeDates_setActiveFaults
    · rw [active?, if_neg hg]
      funext key
      show ((f.setActiveFaults g faults ts).1.ensure id).activeFaults[key]?.map _ = _
      rw [Fleet.ensure_setActiveFaults_of_ne (Ne.symm hg)]
      rfl
  | setSensorFaults g faults ts =>
    funext key
    show ((f.setSensorFaults g faults ts).ensure id).activeFaults[key]?.map _ = _
    by_cases hg : g = id
    · subst hg
      rw [Fleet.activeFaults_setSensorFaults]
      rfl
    · rw [Fleet.ensure_setSensorFaults_of_ne (Ne.symm hg)]
      rfl

theorem sensorDates_apply (x : FaultCall) :
    (apply f x).sensorDates id = ((x.sensor? id).toList).foldl Dated.carry (f.sensorDates id) := by
  cases x with
  | setActiveFaults g faults ts =>
    funext key
    show ((f.setActiveFaults g faults ts).1.ensure id).sensorFaults[key]?.map _ = _
    by_cases hg : g = id
    · subst hg
      rw [Fleet.sensorFaults_setActiveFaults]
      rfl
    · rw [Fleet.ensure_setActiveFaults_of_ne (Ne.symm hg)]
      rfl
  | setSensorFaults g faults ts =>
    by_cases hg : g = id
    · subst hg
      rw [sensor?, if_pos rfl]
      exact Fleet.sensorDates_setSensorFaults
    · rw [sensor?, if_neg hg]
      funext key
      show ((f.setSensorFaults g faults ts).ensure id).sensorFaults[key]?.map _ = _
      rw [Fleet.ensure_setSensorFaults_of_ne (Ne.symm hg)]
      rfl

end FaultCall

/-- The frames a greenhouse has sent its active faults with. -/
def activeHistory (id : String) (calls : List FaultCall) :
    List (Bulletin FaultKey (String × String) Int) := calls.filterMap (FaultCall.active? id)

/-- The frames a greenhouse has sent its sensor faults with. -/
def sensorHistory (id : String) (calls : List FaultCall) : List (Bulletin FaultKey String Int) :=
  calls.filterMap (FaultCall.sensor? id)

/-- A view that has been given some calls. -/
def afterCalls (offlineAfter : Int) (calls : List FaultCall) : Fleet :=
  calls.foldl FaultCall.apply { offlineAfter }

/-- What is recorded is what the calls for the greenhouse record, one after another. -/
theorem dates_afterCalls (id : String) (calls : List FaultCall) (f : Fleet) :
    (calls.foldl FaultCall.apply f).activeDates id =
        (activeHistory id calls).foldl Dated.carry (f.activeDates id) ∧
      (calls.foldl FaultCall.apply f).sensorDates id =
        (sensorHistory id calls).foldl Dated.carry (f.sensorDates id) := by
  induction calls generalizing f with
  | nil => exact ⟨rfl, rfl⟩
  | cons x calls ih =>
    obtain ⟨hactive, hsensor⟩ := ih (FaultCall.apply f x)
    constructor
    · rw [List.foldl_cons, hactive, FaultCall.activeDates_apply, activeHistory, activeHistory,
        List.filterMap_cons]
      cases x.active? id <;> rfl
    · rw [List.foldl_cons, hsensor, FaultCall.sensorDates_apply, sensorHistory, sensorHistory,
        List.filterMap_cons]
      cases x.sensor? id <;> rfl

/-- **The record of every history is right.** After any calls, the active faults and the sensor
faults recorded of a greenhouse are those of its latest map, each since the first map of the
current uninterrupted run that has it; the next map of active faults is reported as a change when
it differs from the latest one; and a call for a greenhouse leaves the others. -/
theorem fault_bookkeeping (offlineAfter : Int) (calls : List FaultCall) (id : String) :
    Kept (activeHistory id calls) ((afterCalls offlineAfter calls).activeDates id) ∧
    Kept (sensorHistory id calls) ((afterCalls offlineAfter calls).sensorDates id) ∧
    (∀ faults ts, ((afterCalls offlineAfter calls).setActiveFaults id faults ts).2 = true ↔
      ∃ key, latest (activeHistory id calls) key ≠ (activeBulletin faults ts).shows key) ∧
    ∀ other, other ≠ id →
      (∀ faults ts, ((afterCalls offlineAfter calls).setActiveFaults id faults ts).1.ensure other =
        (afterCalls offlineAfter calls).ensure other) ∧
      ∀ faults ts, ((afterCalls offlineAfter calls).setSensorFaults id faults ts).ensure other =
        (afterCalls offlineAfter calls).ensure other := by
  obtain ⟨hactive, hsensor⟩ := dates_afterCalls id calls { offlineAfter }
  have hkept : Kept (activeHistory id calls) ((afterCalls offlineAfter calls).activeDates id) := by
    rw [afterCalls, hactive]
    exact kept_foldl (activeHistory id calls)
  refine ⟨hkept, ?_, fun faults ts => ?_,
    fun other hne => ⟨fun faults ts => ?_, fun faults ts => ?_⟩⟩
  · rw [afterCalls, hsensor]
    exact kept_foldl (sensorHistory id calls)
  · rw [Fleet.setActiveFaults_changed_iff]
    refine exists_congr fun key => ?_
    rw [hkept.values key]
  · exact Fleet.ensure_setActiveFaults_of_ne hne
  · exact Fleet.ensure_setSensorFaults_of_ne hne

end Greenhouse.Platform
