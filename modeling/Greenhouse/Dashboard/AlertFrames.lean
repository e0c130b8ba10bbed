import Greenhouse.Dashboard.Activity

/-!
# The frames of the active alerts

The active alerts of a greenhouse are broadcast only when they have changed. The latest frame
nevertheless has the alerts of the live view, whatever messages came in between.

* `lastAlerts`: the alerts of the latest frame of a greenhouse.
* `KeepsFaults`: an update that leaves the active faults of every greenhouse.
* `Told`: the latest frame of every greenhouse has its alerts.
* `told_handleMessage`, `told_sweep`: a message and a sweep of the live view preserve it.
-/

namespace Greenhouse.Dashboard

open Greenhouse.Numeric Greenhouse.Contract Greenhouse.Platform Std

/-- The alerts that a frame tells of a greenhouse. -/
def alertsTold (g : String) : Frame → Option (List ActiveAlert)
  | .activeAlerts id _ alerts => if id = g then some alerts else none
  | _ => none

/-- The alerts of the latest frame of a greenhouse, none before the first. -/
def lastAlerts (sent : List Frame) (g : String) : List ActiveAlert :=
  ((sent.filterMap (alertsTold g)).getLast?).getD []

/-- The latest frame of every greenhouse has the alerts of the live view. -/
def Told (fleet : Fleet) (sent : List Frame) : Prop :=
  ∀ g, lastAlerts sent g = alertsOf fleet g

theorem told_empty (offlineAfter : Int) : Told { offlineAfter } [] := by
  intro g
  rw [alertsOf, Fleet.snapshot, TreeMap.getElem?_emptyc]
  rfl

theorem lastAlerts_silent {sent frames : List Frame} {g : String}
    (h : frames.filterMap (alertsTold g) = []) : lastAlerts (sent ++ frames) g =
      lastAlerts sent g := by
  rw [lastAlerts, List.filterMap_append, h, List.append_nil]
  rfl

theorem lastAlerts_told {sent frames : List Frame} {g : String} {alerts : List ActiveAlert}
    (h : frames.filterMap (alertsTold g) = [alerts]) : lastAlerts (sent ++ frames) g = alerts := by
  rw [lastAlerts, List.filterMap_append, h, List.getLast?_concat]
  rfl

/-! ## Updates that leave the active faults -/

/-- The active faults of every greenhouse are as they were. -/
def KeepsFaults (f f' : Fleet) : Prop :=
  ∀ g, (f'.ensure g).activeFaults = (f.ensure g).activeFaults

section Kept

variable {f f' f'' : Fleet} {id : String} {ent : Entry}

theorem KeepsFaults.trans (h : KeepsFaults f f') (h' : KeepsFaults f' f'') : KeepsFaults f f'' :=
  fun g => (h' g).trans (h g)

theorem KeepsFaults.alertsOf (h : KeepsFaults f f') (g : String) :
    alertsOf f' g = alertsOf f g := by
  rw [alertsOf_eq, alertsOf_eq, h g]

theorem keepsFaults_put (h : ent.activeFaults = (f.ensure id).activeFaults) :
    KeepsFaults f (f.put id ent) := by
  intro g
  by_cases hg : g = id
  · rw [hg, Fleet.ensure_put]
    exact h
  · rw [Fleet.ensure_put_of_ne hg]

theorem activeFaults_seen (ent : Entry) (ts : Int) :
    (Fleet.seen ent ts).activeFaults = ent.activeFaults :=
  congrArg ControllerSnapshot.activeFaults (Fleet.controller_seen ent ts)

theorem keepsFaults_observe (f : Fleet) (id : String) (ts : Int) :
    KeepsFaults f (f.observe id ts).1 :=
  keepsFaults_put (activeFaults_seen (f.ensure id) ts)

theorem keepsFaults_setDegraded (f : Fleet) (id : String) (degraded : Bool) (ts : Int) :
    KeepsFaults f (f.setDegraded id degraded ts).1 :=
  keepsFaults_put (activeFaults_seen (f.ensure id) ts)

theorem keepsFaults_noteReading (f : Fleet) (reading : Platform.Reading) :
    KeepsFaults f (noteReading f reading) := by
  unfold noteReading
  split
  · exact fun g => rfl
  · split
    · exact keepsFaults_put rfl
    · split
      · exact keepsFaults_put rfl
      · split
        · exact keepsFaults_put rfl
        · exact fun g => rfl

theorem keepsFaults_noteState (f : Fleet) (id : String) (payload : SystemStatePayload) :
    KeepsFaults f (noteState f id payload) := by
  have hkeep : ∀ (value : Option F64) (set : Fleet → String → Option F64 → Fleet),
      (∀ f : Fleet, KeepsFaults f (set f id value)) →
        ∀ f : Fleet, KeepsFaults f (if value.isSome then set f id value else f) := by
    intro value set hset f
    split
    · exact hset f
    · exact fun g => rfl
  have htemperature := hkeep payload.temperature Fleet.setTemperature fun f => keepsFaults_put rfl
  have hhumidity := hkeep payload.humidity Fleet.setHumidity fun f => keepsFaults_put rfl
  have hco2 := hkeep payload.co2 Fleet.setCO2 fun f => keepsFaults_put rfl
  have hdli := hkeep payload.dli Fleet.setDLI fun f => keepsFaults_put rfl
  exact (((htemperature f).trans (hhumidity _)).trans (hco2 _)).trans (hdli _)

/-- The live view when a state frame comes to replace the active faults. -/
def sensed (f : Fleet) (payload : SystemStatePayload) (ts : Int) : Fleet :=
  let id := payload.env.greenhouseId
  let scaled := (f.setTimeScale id (payload.simulation.map SimulationPayload.timeScale)).1
  ((noteState scaled id payload).setControllerMode id payload.mode).setSensorFaults id
    (sensorFaults payload) ts

theorem keepsFaults_sensed (f : Fleet) (payload : SystemStatePayload) (ts : Int) :
    KeepsFaults f (sensed f payload ts) := by
  let id := payload.env.greenhouseId
  let scaled := (f.setTimeScale id (payload.simulation.map SimulationPayload.timeScale)).1
  have hscaled : KeepsFaults f scaled := keepsFaults_put rfl
  have hnoted := hscaled.trans (keepsFaults_noteState scaled id payload)
  have hmoded : KeepsFaults (noteState scaled id payload)
      ((noteState scaled id payload).setControllerMode id payload.mode) := keepsFaults_put rfl
  exact (hnoted.trans hmoded).trans (keepsFaults_put rfl)

theorem keepsFaults_sweep (f : Fleet) (now : Int) : KeepsFaults f (f.sweep now).1 := by
  intro g
  rw [Fleet.sweep, Fleet.ensure, Fleet.ensure, TreeMap.getD_eq_getD_getElem?,
    TreeMap.getD_eq_getD_getElem?, TreeMap.getElem?_map]
  cases f.entries[g]? <;> rfl

end Kept

/-! ## Messages -/

section Messages

variable {f : Fleet} {sent : List Frame} {now : Int} {handled : Handled}

theorem told_silent {f' : Fleet} {frames : List Frame} (ht : Told f sent) (hf : KeepsFaults f f')
    (hframes : ∀ g, frames.filterMap (alertsTold g) = []) : Told f' (sent ++ frames) := by
  intro g
  rw [lastAlerts_silent (hframes g), hf.alertsOf g]
  exact ht g

theorem alertsTold_statusFrame (changed : Bool) (id : String) (ts : Int) (live : Live)
    (g : String) : (statusFrame changed id ts live).filterMap (alertsTold g) = [] := by
  cases changed <;> rfl

/-- The frame of an update of the active faults, if it is announced. -/
def updateFrames (f : Fleet) (id : String) (faults : TreeMap FaultKey ActiveFault) (ts : Int) :
    List Frame :=
  if (f.setActiveFaults id faults ts).2 then
    [.activeAlerts id ts (activeAlerts ((f.setActiveFaults id faults ts).1.ensure id).activeFaults)]
  else []

/-- **An update of the active faults** tells the alerts when they changed, and leaves them when it
does not. -/
theorem told_setActiveFaults (ht : Told f sent) (id : String)
    (faults : TreeMap FaultKey ActiveFault) (ts : Int) :
    Told (f.setActiveFaults id faults ts).1 (sent ++ updateFrames f id faults ts) := by
  intro g
  by_cases hid : g = id
  · subst hid
    cases hchanged : (f.setActiveFaults g faults ts).2 with
    | true =>
      rw [updateFrames, if_pos hchanged, alertsOf_eq]
      apply lastAlerts_told
      simp [alertsTold]
    | false =>
      rw [updateFrames, if_neg (Bool.eq_false_iff.1 hchanged), List.append_nil, ht g,
        alertsOf_of_unchanged hchanged]
  · rw [alertsOf_setActiveFaults_of_ne hid, ← ht g]
    apply lastAlerts_silent
    rw [updateFrames]
    split
    · simp [alertsTold, Ne.symm hid]
    · rfl

/-- A state frame tells the alerts, then the status. -/
theorem told_applyState (ht : Told f sent) (payload : SystemStatePayload) (ts now : Int) :
    Told (applyState f payload ts now).fleet (sent ++ (applyState f payload ts now).broadcast) := by
  let id := payload.env.greenhouseId
  have hsensed : Told (sensed f payload ts) sent := fun g =>
    (ht g).trans ((keepsFaults_sensed f payload ts).alertsOf g).symm
  have hfaulted := told_setActiveFaults hsensed id (activeFaults payload) ts
  have hbroadcast : ∃ status : List Frame, (∀ g, status.filterMap (alertsTold g) = []) ∧
      (applyState f payload ts now).broadcast =
        updateFrames (sensed f payload ts) id (activeFaults payload) ts ++ status :=
    ⟨_, fun g => alertsTold_statusFrame _ id ts _ g, rfl⟩
  obtain ⟨status, hstatus, hbroadcast⟩ := hbroadcast
  rw [hbroadcast, ← List.append_assoc]
  exact told_silent hfaulted (keepsFaults_setDegraded _ id _ now) hstatus

/-- A sweep of the live view tells of connectivity only. -/
theorem told_sweep (ht : Told f sent) (now : Int) :
    Told (f.sweep now).1 (sent ++ (f.sweep now).2.map (sweepFrame now)) := by
  refine told_silent ht (keepsFaults_sweep f now) fun g => ?_
  rw [List.filterMap_map, List.filterMap_eq_nil_iff]
  intro changed _
  rfl

variable [Rfc3339] {data : Document} {known : List String} {topic topicId : String}

theorem told_onReading (ht : Told f sent) (h : onReading f data topicId now = some handled) :
    Told handled.fleet (sent ++ handled.broadcast) := by
  simp only [onReading, Option.bind_eq_bind, Option.bind_eq_some_iff] at h
  obtain ⟨-, -, reading, -, h⟩ := h
  cases h
  exact told_silent ht ((keepsFaults_noteReading f reading).trans (keepsFaults_observe _ _ now))
    fun g => alertsTold_statusFrame _ _ reading.ts _ g

theorem told_onActuator (ht : Told f sent) (h : onActuator f data topicId now = some handled) :
    Told handled.fleet (sent ++ handled.broadcast) := by
  simp only [onActuator, Option.bind_eq_bind, Option.bind_eq_some_iff] at h
  obtain ⟨-, -, sample, -, h⟩ := h
  cases h
  refine told_silent ht (KeepsFaults.trans ?_ (keepsFaults_observe _ _ now))
    fun g => alertsTold_statusFrame _ _ sample.ts _ g
  split
  · exact keepsFaults_put rfl
  · exact fun g => rfl

theorem told_onFault (ht : Told f sent) (h : onFault f data topicId now = some handled) :
    Told handled.fleet (sent ++ handled.broadcast) := by
  simp only [onFault, Option.bind_eq_bind, Option.bind_eq_some_iff] at h
  obtain ⟨-, -, event, -, h⟩ := h
  cases h
  exact told_silent ht (keepsFaults_setDegraded f _ true now)
    fun g => alertsTold_statusFrame _ _ event.ts _ g

theorem told_onState (ht : Told f sent) (h : onState f data topicId now = some handled) :
    Told handled.fleet (sent ++ handled.broadcast) := by
  simp only [onState, Option.bind_eq_bind, Option.bind_eq_some_iff] at h
  obtain ⟨⟨decoded, ts⟩, -, payload, -, h⟩ := h
  cases h
  exact told_applyState ht payload ts now

/-- **Every message that is taken** leaves the latest frames with the alerts of the live view. -/
theorem told_handleMessage (ht : Told f sent)
    (h : handleMessage known f topic data now = some handled) :
    Told handled.fleet (sent ++ handled.broadcast) := by
  simp only [handleMessage, Option.bind_eq_bind, Option.bind_eq_some_iff] at h
  obtain ⟨info, -, h⟩ := h
  obtain ⟨-, h⟩ := Option.ite_none_right_eq_some.1 h
  cases hkind : info.kind with
  | sensorHouse =>
    rw [hkind] at h
    exact told_onReading ht h
  | sensorZone =>
    rw [hkind] at h
    exact told_onReading ht h
  | actuator =>
    rw [hkind] at h
    exact told_onActuator ht h
  | fault =>
    rw [hkind] at h
    exact told_onFault ht h
  | state =>
    rw [hkind] at h
    exact told_onState ht h

end Messages

end Greenhouse.Dashboard
