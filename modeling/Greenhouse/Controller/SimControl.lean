import Greenhouse.Controller.Injections
import Greenhouse.Process.Timed

/-!
# The control surface of the simulation

Through it a sensor is forced to a value, an actuator made faulty and the cadence changed. What is
forced on a sensor overlays what the controller sees and never reaches the plant; a fault lasts
exactly as long as it was injected for; the cadence is not seen by the simulation at all.

* `SimulatedHal.overlaid`: a backend and the one without the sensor controls.
* `SimulatedHal.readback_step`: what an actuator reports, from the history of faults and commands.
* `Pipeline.tick_mapHal`: a tick sees of its backend what it reads and reports.
* `Runtime.timeScale_unseen`: a run of the tick task and the one without changes of cadence.
-/

namespace Greenhouse.Controller

open Greenhouse.Numeric Greenhouse.Process Std

/-! ## Events of the backend -/

/-- What can happen to the simulated backend. -/
inductive PlantEvent where
  | command (commands : Commands)
  | step (clock : Clock)
  | injectSensor (channel : SensorChannel) (value : F64) (ttlTicks : Option Nat)
  | clearSensorInjection (channel : SensorChannel)
  | injectActuatorFault (id : ActuatorId) (kind : ActuatorFaultKind) (ttlTicks : Option Nat)
  | clearActuatorFault (id : ActuatorId)
  | setTimeScale (scale : F64)

namespace PlantEvent

/-- The event is about what the sensors are forced to, or about the cadence. -/
def isOverlay : PlantEvent → Bool
  | injectSensor _ _ _ => true
  | clearSensorInjection _ => true
  | setTimeScale _ => true
  | _ => false

/-- What the event does to the value forced on a channel. -/
def onSensor (defaultTtl : Nat) (c : SensorChannel) : PlantEvent → Timed.Op F64
  | injectSensor channel value ttlTicks =>
    if channel = c then .set value (max (ttlTicks.getD defaultTtl) 1) else .keep
  | clearSensorInjection channel => if channel = c then .clear else .keep
  | step _ => .tick
  | _ => .keep

/-- What the event does to the fault of an actuator. -/
def onFault (defaultTtl : Nat) (i : ActuatorId) : PlantEvent → Timed.Op ActuatorFaultKind
  | injectActuatorFault id kind ttlTicks =>
    if id = i then .set kind (max (ttlTicks.getD defaultTtl) 1) else .keep
  | clearActuatorFault id => if id = i then .clear else .keep
  | step _ => .tick
  | _ => .keep

end PlantEvent

/-- The channel is forced to the value: it was set to it last, and its lifetime lasts. -/
def Forced (defaultTtl : Nat) (es : List PlantEvent) (c : SensorChannel) (value : F64) : Prop :=
  ∃ k, 0 < k ∧ Timed.Set (es.map (PlantEvent.onSensor defaultTtl c)) value k

/-- The actuator has a fault: it was injected last, and its lifetime lasts. -/
def Faulty (defaultTtl : Nat) (es : List PlantEvent) (id : ActuatorId)
    (kind : ActuatorFaultKind) : Prop :=
  ∃ k, 0 < k ∧ Timed.Set (es.map (PlantEvent.onFault defaultTtl id)) kind k

/-- The level an actuator was last told. -/
def told (es : List PlantEvent) (id : ActuatorId) : F64 :=
  es.foldl (fun level e =>
    match e with
    | .command commands => (commands.get id).clampPct
    | _ => level) 0

theorem told_concat (es : List PlantEvent) (e : PlantEvent) (id : ActuatorId) :
    told (es ++ [e]) id = match e with
    | .command commands => (commands.get id).clampPct
    | _ => told es id := by
  unfold told
  rw [List.foldl_append]
  rfl

theorem clampPct_told (es : List PlantEvent) (id : ActuatorId) :
    (told es id).clampPct = told es id := by
  induction es using List.reverseRecOn with
  | nil => exact F64.clampPct_zero
  | append_singleton es e ih =>
    rw [told_concat]
    cases e with
    | command commands => exact F64.clampPct_idem _
    | _ => exact ih

theorem Commands.get_foldl_set {level : ActuatorId → F64} {id : ActuatorId}
    {ids : List ActuatorId} : ∀ c : Commands,
      (ids.foldl (fun c i => c.set i (level i)) c).get id =
        if id ∈ ids then (level id).clampPct else c.get id := by
  induction ids with
  | nil => exact fun c => rfl
  | cons i ids ih =>
    intro c
    rw [List.foldl_cons, ih, Commands.get_set]
    by_cases hi : i = id
    · simp [hi]
    · simp [hi, Ne.symm hi]

/-- What is not among the addresses of a command is at `0`. -/
theorem Commands.get_of_not_mem_ids {c : Commands} {id : ActuatorId} (h : id ∉ c.ids) :
    c.get id = 0 := by
  cases id with
  | house a =>
    rw [Commands.mem_ids_house] at h
    exact TreeMap.getD_eq_fallback h
  | valve z =>
    rw [Commands.mem_ids_valve] at h
    exact TreeMap.getD_eq_fallback h

namespace SimulatedHal

/-! ## Lifetimes -/

section Cells

variable (s : SimulatedHal)

/-- The value a channel is forced to, with the ticks that remain. -/
def sensorCell (c : SensorChannel) : Option (F64 × Nat) :=
  s.sensorInjections[c]?.map fun inj => (inj.value, inj.remaining)

/-- The fault of an actuator, with the ticks that remain. -/
def faultCell (id : ActuatorId) : Option (ActuatorFaultKind × Nat) :=
  s.actuatorFaults[id]?.map fun f => (f.kind, f.remaining)

variable [SimLibm]

def apply (s : SimulatedHal) : PlantEvent → SimulatedHal
  | .command commands => Hal.command s commands
  | .step clock => Hal.step s clock
  | .injectSensor channel value ttlTicks => s.injectSensor channel value ttlTicks
  | .clearSensorInjection channel => s.clearSensorInjection channel
  | .injectActuatorFault id kind ttlTicks => s.injectActuatorFault id kind ttlTicks
  | .clearActuatorFault id => s.clearActuatorFault id
  | .setTimeScale scale => s.setTimeScale scale

/-- The backend after a list of events. -/
def after (s : SimulatedHal) (es : List PlantEvent) : SimulatedHal := es.foldl apply s

theorem step_eq (clock : Clock) :
    (Hal.step s clock : SimulatedHal) = (s.recomputeObserved.integrate clock).sample.expire := rfl

/-- What a step takes over from the backend before it, and from its readback. -/
theorem step_frame (clock : Clock) : (Hal.step s clock : SimulatedHal).zoneIds = s.zoneIds ∧
    (Hal.step s clock : SimulatedHal).commanded = s.commanded ∧
    (Hal.step s clock : SimulatedHal).observed = s.recomputeObserved.observed := by
  have hzones : s.recomputeObserved.zoneIds = s.zoneIds := rfl
  have hcommanded : s.recomputeObserved.commanded = s.commanded := rfl
  rw [step_eq, ← hzones, ← hcommanded]
  generalize s.recomputeObserved = r
  unfold sample
  exact ⟨rfl, rfl, rfl⟩

/-- The parameters that no event changes. -/
theorem apply_frame (e : PlantEvent) : (s.apply e).injectionDefaultTtl = s.injectionDefaultTtl ∧
    (s.apply e).zoneIds = s.zoneIds := by
  cases e with
  | step clock => exact ⟨step_ttl s clock, (s.step_frame clock).1⟩
  | _ => exact ⟨rfl, rfl⟩

theorem after_concat (es : List PlantEvent) (e : PlantEvent) :
    s.after (es ++ [e]) = (s.after es).apply e := List.foldl_append

theorem after_frame (es : List PlantEvent) :
    (s.after es).injectionDefaultTtl = s.injectionDefaultTtl ∧ (s.after es).zoneIds = s.zoneIds :=
  List.foldlRecOn es apply
    (motive := fun t => t.injectionDefaultTtl = s.injectionDefaultTtl ∧ t.zoneIds = s.zoneIds)
    ⟨rfl, rfl⟩ fun t h e _ => ⟨(t.apply_frame e).1.trans h.1, (t.apply_frame e).2.trans h.2⟩

theorem sensorCell_apply (e : PlantEvent) (c : SensorChannel) :
    (s.apply e).sensorCell c =
      Timed.apply (s.sensorCell c) (e.onSensor s.injectionDefaultTtl c) := by
  cases e with
  | step clock =>
    change ((Hal.step s clock : SimulatedHal).sensorInjections[c]?).map _ = _
    rw [step_injections, sensorCell, PlantEvent.onSensor, Timed.apply]
    cases s.sensorInjections[c]? with
    | none => rfl
    | some inj =>
      simp only [Option.bind_some, Option.map_some, SensorInjection.age, tickDown]
      split <;> rfl
  | injectSensor channel value ttlTicks =>
    change ((s.sensorInjections.insert channel _)[c]?).map _ = _
    rw [TreeMap.getElem?_insert, PlantEvent.onSensor]
    by_cases hc : channel = c
    · simp [hc, Timed.apply]
    · simp [hc, Timed.apply, sensorCell]
  | clearSensorInjection channel =>
    change ((s.sensorInjections.erase channel)[c]?).map _ = _
    rw [TreeMap.getElem?_erase, PlantEvent.onSensor]
    by_cases hc : channel = c
    · simp [hc, Timed.apply]
    · simp [hc, Timed.apply, sensorCell]
  | _ => rfl

theorem faultCell_apply (e : PlantEvent) (id : ActuatorId) :
    (s.apply e).faultCell id =
      Timed.apply (s.faultCell id) (e.onFault s.injectionDefaultTtl id) := by
  cases e with
  | step clock =>
    change ((s.actuatorFaults.filterMap fun _ f => f.age)[id]?).map _ = _
    rw [TreeMap.getElem?_filterMap', faultCell, PlantEvent.onFault, Timed.apply]
    cases s.actuatorFaults[id]? with
    | none => rfl
    | some f =>
      simp only [Option.bind_some, Option.map_some, ActuatorFault.age, tickDown]
      split <;> rfl
  | injectActuatorFault i kind ttlTicks =>
    change ((s.actuatorFaults.insert i _)[id]?).map _ = _
    rw [TreeMap.getElem?_insert, PlantEvent.onFault]
    by_cases hi : i = id
    · simp [hi, Timed.apply]
    · simp [hi, Timed.apply, faultCell]
  | clearActuatorFault i =>
    change ((s.actuatorFaults.erase i)[id]?).map _ = _
    rw [TreeMap.getElem?_erase, PlantEvent.onFault]
    by_cases hi : i = id
    · simp [hi, Timed.apply]
    · simp [hi, Timed.apply, faultCell]
  | _ => rfl

theorem sensorCell_after (es : List PlantEvent) (c : SensorChannel) :
    (s.after es).sensorCell c = (es.map (PlantEvent.onSensor s.injectionDefaultTtl c)).foldl
      Timed.apply (s.sensorCell c) := by
  induction es using List.reverseRecOn with
  | nil => rfl
  | append_singleton es e ih =>
    rw [after_concat, List.map_append, List.foldl_append, ← ih, sensorCell_apply,
      (s.after_frame es).1]
    rfl

theorem faultCell_after (es : List PlantEvent) (id : ActuatorId) :
    (s.after es).faultCell id = (es.map (PlantEvent.onFault s.injectionDefaultTtl id)).foldl
      Timed.apply (s.faultCell id) := by
  induction es using List.reverseRecOn with
  | nil => rfl
  | append_singleton es e ih =>
    rw [after_concat, List.map_append, List.foldl_append, ← ih, faultCell_apply,
      (s.after_frame es).1]
    rfl

end Cells

/-- Every lifetime that is injected is positive. -/
theorem onSensor_pos {defaultTtl n : Nat} {c : SensorChannel} {es : List PlantEvent} {v : F64}
    (h : Timed.Op.set v n ∈ es.map (PlantEvent.onSensor defaultTtl c)) : 0 < n := by
  obtain ⟨e, -, he⟩ := List.mem_map.1 h
  cases e with
  | injectSensor channel value ttlTicks =>
    rw [PlantEvent.onSensor] at he
    split at he
    · cases he
      omega
    · cases he
  | clearSensorInjection channel =>
    rw [PlantEvent.onSensor] at he
    split at he <;> cases he
  | _ => cases he

theorem onFault_pos {defaultTtl n : Nat} {id : ActuatorId} {es : List PlantEvent}
    {v : ActuatorFaultKind}
    (h : Timed.Op.set v n ∈ es.map (PlantEvent.onFault defaultTtl id)) : 0 < n := by
  obtain ⟨e, -, he⟩ := List.mem_map.1 h
  cases e with
  | injectActuatorFault i kind ttlTicks =>
    rw [PlantEvent.onFault] at he
    split at he
    · cases he
      omega
    · cases he
  | clearActuatorFault i =>
    rw [PlantEvent.onFault] at he
    split at he <;> cases he
  | _ => cases he

/-! ## What the overlay leaves -/

/-- The backend without what is forced on its sensors and without its cadence. -/
def bare (s : SimulatedHal) : SimulatedHal := { s with sensorInjections := ∅, timeScale := 0 }

theorem bare_recomputeObserved (s : SimulatedHal) :
    s.bare.recomputeObserved = s.recomputeObserved.bare := by
  have hobserved : s.bare.observeOne = s.observeOne := rfl
  have hzones : s.bare.zoneIds = s.zoneIds := rfl
  unfold recomputeObserved
  rw [hobserved, hzones]
  generalize List.foldl _ _ _ = observed
  rfl

theorem bare_expire (s : SimulatedHal) : s.bare.expire.bare = s.expire.bare := rfl

section Overlay

variable [SimLibm]

theorem bare_integrate (s : SimulatedHal) (clock : Clock) :
    s.bare.integrate clock = (s.integrate clock).bare := rfl

theorem bare_sample (s : SimulatedHal) : s.bare.sample = s.sample.bare := by
  have hsampled : s.bare.sampleReadings = s.sampleReadings := rfl
  unfold sample
  rw [hsampled]
  rfl

theorem bare_step (s : SimulatedHal) (clock : Clock) :
    (Hal.step s.bare clock : SimulatedHal).bare = (Hal.step s clock : SimulatedHal).bare := by
  rw [step_eq, step_eq, bare_recomputeObserved, bare_integrate, bare_sample, bare_expire]

/-- An event of the overlay is not felt by the rest, and the others do not feel the overlay. -/
theorem bare_apply {s t : SimulatedHal} (h : s.bare = t.bare) (e : PlantEvent) :
    (s.apply e).bare = if e.isOverlay then t.bare else (t.apply e).bare := by
  cases e with
  | command commands =>
    change (s.bare.latch commands).bare = (t.bare.latch commands).bare
    rw [h]
  | step clock =>
    change (Hal.step s clock : SimulatedHal).bare = (Hal.step t clock : SimulatedHal).bare
    rw [← bare_step s, h, bare_step t]
  | injectActuatorFault id kind ttlTicks =>
    change (s.bare.injectActuatorFault id kind ttlTicks).bare =
      (t.bare.injectActuatorFault id kind ttlTicks).bare
    rw [h]
  | clearActuatorFault id =>
    change (s.bare.clearActuatorFault id).bare = (t.bare.clearActuatorFault id).bare
    rw [h]
  | _ => exact h

theorem bare_after (es : List PlantEvent) : ∀ {s t : SimulatedHal}, s.bare = t.bare →
    (s.after es).bare = (t.after (es.filter fun e => !e.isOverlay)).bare := by
  induction es with
  | nil => exact fun {s t} h => h
  | cons e es ih =>
    intro s t h
    have hone := bare_apply h e
    cases he : e.isOverlay with
    | true =>
      rw [he, if_pos rfl] at hone
      rw [List.filter_cons_of_neg (by simp [he])]
      exact ih hone
    | false =>
      rw [he, if_neg Bool.false_ne_true] at hone
      rw [List.filter_cons_of_pos (by simp [he])]
      exact ih hone

end Overlay

/-! ## Histories -/

section Histories

variable [SimLibm] (cfg : Config) (es : List PlantEvent)

/-- What is forced on a channel, from the history. -/
theorem forced_iff (c : SensorChannel) (v : F64) :
    (∃ k, ((new cfg).after es).sensorCell c = some (v, k)) ↔
      Forced cfg.simulation.sensorInjectionTimeoutSecs es c v := by
  have hempty : (new cfg).sensorCell c = none := by
    change ((∅ : TreeMap SensorChannel SensorInjection)[c]?).map _ = none
    rw [TreeMap.getElem?_emptyc]
    rfl
  have httl : (new cfg).injectionDefaultTtl = cfg.simulation.sensorInjectionTimeoutSecs := rfl
  unfold Forced
  refine exists_congr fun k => ?_
  rw [sensorCell_after, hempty, httl, Timed.foldl_eq_some_iff fun _ _ => onSensor_pos, and_comm]

/-- The fault of an actuator, from the history. -/
theorem faulty_iff (id : ActuatorId) (kind : ActuatorFaultKind) :
    (∃ k, ((new cfg).after es).faultCell id = some (kind, k)) ↔
      Faulty cfg.simulation.sensorInjectionTimeoutSecs es id kind := by
  have hempty : (new cfg).faultCell id = none := by
    change ((∅ : TreeMap ActuatorId ActuatorFault)[id]?).map _ = none
    rw [TreeMap.getElem?_emptyc]
    rfl
  have httl : (new cfg).injectionDefaultTtl = cfg.simulation.sensorInjectionTimeoutSecs := rfl
  unfold Faulty
  refine exists_congr fun k => ?_
  rw [faultCell_after, hempty, httl, Timed.foldl_eq_some_iff fun _ _ => onFault_pos, and_comm]

/-- Without events of the overlay nothing is forced. -/
theorem free_of_filter (c : SensorChannel) :
    ((new cfg).after (es.filter fun e => !e.isOverlay)).sensorInjections[c]? = none := by
  by_contra hne
  obtain ⟨inj, hinj⟩ := Option.ne_none_iff_exists'.1 hne
  have hcell : ((new cfg).after (es.filter fun e => !e.isOverlay)).sensorCell c =
      some (inj.value, inj.remaining) := by
    rw [sensorCell, hinj]
    rfl
  obtain ⟨k, -, before, ttl, after, hops, -⟩ := (forced_iff cfg _ c _).1 ⟨_, hcell⟩
  have hmem : Timed.Op.set inj.value ttl ∈ (es.filter fun e => !e.isOverlay).map
      (PlantEvent.onSensor cfg.simulation.sensorInjectionTimeoutSecs c) := by
    rw [hops]
    exact List.mem_append_right before List.mem_cons_self
  obtain ⟨e, he, hset⟩ := List.mem_map.1 hmem
  have hnot := (List.mem_filter.1 he).2
  cases e with
  | injectSensor => cases hnot
  | clearSensorInjection => cases hnot
  | _ => cases hset

/-- A backend after some events, and the one that the sensor controls and the cadence never
touched. -/
structure Overlaid (defaultTtl : Nat) (es : List PlantEvent) (t u : SimulatedHal) : Prop where
  /-- But for the overlay the two are the same: the plant, the samples, the generator, the
  commands and the readback. -/
  plant : t = { u with sensorInjections := t.sensorInjections, timeScale := t.timeScale }
  /-- A forced channel reads what it is forced to. -/
  forced : ∀ c v, Forced defaultTtl es c v →
    (Hal.read t).channel c = ((Hal.read u).channel c).map fun _ => v
  /-- Every other channel reads what it would have read. -/
  free : ∀ c, (∀ v, ¬ Forced defaultTtl es c v) → (Hal.read t).channel c = (Hal.read u).channel c

/-- **What is forced on the sensors overlays the readings and leaves the plant alone.** -/
theorem overlaid : Overlaid cfg.simulation.sensorInjectionTimeoutSecs es ((new cfg).after es)
    ((new cfg).after (es.filter fun e => !e.isOverlay)) := by
  have hbare := bare_after es (s := new cfg) (t := new cfg) rfl
  have hplant : (new cfg).after es = { (new cfg).after (es.filter fun e => !e.isOverlay) with
      sensorInjections := ((new cfg).after es).sensorInjections
      timeScale := ((new cfg).after es).timeScale } := by
    change _ = { ((new cfg).after (es.filter fun e => !e.isOverlay)).bare with
      sensorInjections := ((new cfg).after es).sensorInjections
      timeScale := ((new cfg).after es).timeScale }
    rw [← hbare]
    rfl
  have hsample : ∀ c, (Hal.read ((new cfg).after (es.filter fun e => !e.isOverlay))).channel c =
      ((new cfg).after es).currentReadings.channel c := by
    intro c
    rw [read_channel, free_of_filter, hplant]
    exact Option.map_id'
  refine ⟨hplant, fun c v hforced => ?_, fun c hfree => ?_⟩
  · obtain ⟨k, hcell⟩ := (forced_iff cfg es c v).2 hforced
    obtain ⟨inj, hinj, hpair⟩ := Option.map_eq_some_iff.1 hcell
    rw [read_channel, hinj, hsample, ← (Prod.mk.inj hpair).1]
    rfl
  · have hnone : ((new cfg).after es).sensorInjections[c]? = none := by
      by_contra hne
      obtain ⟨inj, hinj⟩ := Option.ne_none_iff_exists'.1 hne
      refine hfree inj.value ((forced_iff cfg es c inj.value).1 ⟨inj.remaining, ?_⟩)
      rw [sensorCell, hinj]
      rfl
    rw [read_channel, hnone, hsample]
    exact Option.map_id'

/-! ## The readback -/

/-- The command in force is the last one, with its levels clamped. -/
theorem commanded_after (id : ActuatorId) :
    ((new cfg).after es).commanded.get id = told es id := by
  induction es using List.reverseRecOn with
  | nil => exact Commands.get_allOff _ id
  | append_singleton es e ih =>
    rw [told_concat, after_concat]
    cases e with
    | step clock => exact (congrArg (Commands.get · id) (step_frame _ clock).2.1).trans ih
    | command commands =>
      change (commands.ids.foldl (fun clamped id => clamped.set id (commands.get id))
        (Commands.allOff _)).get id = _
      rw [Commands.get_foldl_set]
      split
      · rfl
      case isFalse hid =>
        have hzero := Commands.get_of_not_mem_ids hid
        dsimp only
        rw [Commands.get_allOff, hzero, F64.clampPct_zero]
    | _ => exact ih

/-- What an actuator reports after a step, from the faults and the commands before it. -/
structure ReadsBack (defaultTtl : Nat) (es : List PlantEvent) (id : ActuatorId) (level : F64) :
    Prop where
  stuckOn : Faulty defaultTtl es id .stuckOn → level = 100
  stuckOff : Faulty defaultTtl es id .stuckOff → level = 0
  obeys : ¬ Faulty defaultTtl es id .stuckOn → ¬ Faulty defaultTtl es id .stuckOff →
    level = told es id

/-- **An actuator reports its command, or is frozen while a fault it was injected lasts.** -/
theorem readback_step (clock : Clock) {id : ActuatorId}
    (hid : id ∈ houseActuators.map .house ++ cfg.zones.map fun z => ActuatorId.valve z.id) :
    ReadsBack cfg.simulation.sensorInjectionTimeoutSecs es id
      ((Hal.observed ((new cfg).after (es ++ [.step clock]))).get id) := by
  have hids : id ∈ houseActuators.map ActuatorId.house ++
      ((new cfg).after es).zoneIds.map ActuatorId.valve := by
    rw [((new cfg).after_frame es).2]
    change id ∈ _ ++ (cfg.zones.map (·.id)).map ActuatorId.valve
    rwa [List.map_map]
  have hlevel : (Hal.observed ((new cfg).after (es ++ [.step clock]))).get id =
      (((new cfg).after es).observeOne id).clampPct := by
    rw [after_concat]
    change (Hal.step ((new cfg).after es) clock : SimulatedHal).observed.get id = _
    rw [(step_frame _ clock).2.2, recomputeObserved]
    dsimp only
    rw [Commands.get_foldl_set, if_pos hids]
  have hkind : ∀ kind, ((new cfg).after es).actuatorFaults[id]?.map ActuatorFault.kind = some kind ↔
      Faulty cfg.simulation.sensorInjectionTimeoutSecs es id kind := by
    intro kind
    rw [← faulty_iff, faultCell]
    cases ((new cfg).after es).actuatorFaults[id]? with
    | none => simp
    | some f => simp
  rw [hlevel, observeOne]
  refine ⟨fun hon => ?_, fun hoff => ?_, fun hon hoff => ?_⟩
  · rw [(hkind _).2 hon]
    exact F64.clampPct_hundred
  · rw [(hkind _).2 hoff]
    exact F64.clampPct_zero
  · rw [← hkind] at hon hoff
    rw [← clampPct_told, ← commanded_after cfg es id]
    split
    · exact absurd ‹_› hon
    · exact absurd ‹_› hoff
    · rfl

end Histories

end SimulatedHal

/-! ## The cadence -/

namespace Pipeline

variable {H : Type}

def mapHal (p : Pipeline H) (f : H → H) : Pipeline H := { p with hal := f p.hal }

/-- **A tick sees of its backend what it reads and what it reports.** -/
theorem tick_mapHal [Libm] [Hal H] {f : H → H} (hread : ∀ h, Hal.read (f h) = Hal.read h)
    (hobserved : ∀ h : H, Hal.observed (f h) = Hal.observed h)
    (hnext : ∀ (h : H) (c : Commands) (clock : Clock),
      Hal.step (Hal.command (f h) c) clock = f (Hal.step (Hal.command h c) clock))
    (p : Pipeline H) : (p.mapHal f).tick = p.tick.map fun r => (r.1.mapHal f, r.2) := by
  have hconditioned : (p.mapHal f).conditioned = p.conditioned := by
    unfold conditioned
    rw [mapHal, hread]
  have htrusted : (p.mapHal f).trusted = p.trusted := by
    unfold trusted
    rw [hconditioned]
  have hmonitored : ∀ r, (p.mapHal f).monitored r = p.monitored r := by
    intro r
    unfold monitored
    rw [htrusted, mapHal, hobserved]
  have hlocked : ∀ loops, (p.mapHal f).locked loops = p.locked loops := by
    intro loops
    unfold locked
    rw [htrusted]
    rfl
  have hsafe : ∀ r loops, (p.mapHal f).safe r loops = p.safe r loops := by
    intro r loops
    unfold safe
    rw [hmonitored, hlocked]
  unfold tick
  simp only [hconditioned, htrusted, hmonitored, hlocked, hsafe]
  simp only [mapHal, hnext, hobserved]
  cases resolve p.config.setpoints p.clock p.trusted.temperature with
  | none => rfl
  | some resolved =>
    simp only [Option.bind_eq_bind, Option.bind_some]
    cases p.control.run p.trusted resolved p.config p.clock with
    | none => rfl
    | some loops =>
      simp only [Option.bind_some]
      cases p.constraints.apply (p.safe resolved loops).cmd
          ((p.safe resolved loops).forced ∪ loops.failClosed) with
      | none => rfl
      | some r => rfl

end Pipeline

/-- The simulated backend without its cadence. -/
def SimulatedHal.unpaced (hal : SimulatedHal) : SimulatedHal := { hal with timeScale := 0 }

theorem SimulatedHal.unpaced_step [SimLibm] (hal : SimulatedHal) (clock : Clock) :
    (Hal.step hal.unpaced clock : SimulatedHal) = (Hal.step hal clock : SimulatedHal).unpaced := by
  have hobserved : hal.unpaced.recomputeObserved = hal.recomputeObserved.unpaced := by
    have hone : hal.unpaced.observeOne = hal.observeOne := rfl
    have hzones : hal.unpaced.zoneIds = hal.zoneIds := rfl
    unfold recomputeObserved
    rw [hone, hzones]
    generalize List.foldl _ _ _ = observed
    rfl
  have hsample : ∀ s : SimulatedHal, s.unpaced.sample = s.sample.unpaced := by
    intro s
    have hsampled : s.unpaced.sampleReadings = s.sampleReadings := rfl
    unfold sample
    rw [hsampled]
    rfl
  have hintegrate : ∀ s : SimulatedHal, s.unpaced.integrate clock = (s.integrate clock).unpaced :=
    fun s => rfl
  have hexpire : ∀ s : SimulatedHal, s.unpaced.expire = s.expire.unpaced := fun s => rfl
  rw [step_eq, step_eq, hobserved, hintegrate, hsample, hexpire]

/-- The event changes the cadence. -/
def RuntimeEvent.isCadence {probeCount : Nat} : RuntimeEvent probeCount → Bool
  | .setTimeScale _ => true
  | _ => false

namespace Runtime

/-- The tick task without its cadence: what remains has the plant, the controller, the listing of
the injections and the snapshot committed last. -/
def unpaced (s : Runtime) : Runtime :=
  { s with
    pipeline := s.pipeline.mapHal SimulatedHal.unpaced
    timeScale := 0
    timeScaleUpdatedAtSeconds := 0 }

section Unpaced

variable (s : Runtime) (probeCount ttl : Nat)

theorem unpaced_drop (key : InjectionKey) :
    drop probeCount s.unpaced key = (drop probeCount s key).unpaced := by
  unfold drop mapHal unpaced Pipeline.mapHal SimulatedHal.unpaced
  simp only [foldl_clear]

theorem unpaced_prune :
    s.unpaced.pruneInjections probeCount = (s.pruneInjections probeCount).unpaced := by
  have hfold : ∀ (keys : List InjectionKey) (t : Runtime),
      keys.foldl (drop probeCount) t.unpaced = (keys.foldl (drop probeCount) t).unpaced := by
    intro keys
    induction keys with
    | nil => exact fun t => rfl
    | cons key keys ih =>
      intro t
      rw [List.foldl_cons, unpaced_drop, ih]
      rfl
  exact hfold _ s

theorem unpaced_applyCommand {command : SimulationCommand}
    (h : ∀ scale, command ≠ .setTimeScale scale) :
    s.unpaced.applyCommand ttl probeCount command =
      (s.applyCommand ttl probeCount command).unpaced := by
  cases command with
  | injectSensor spec =>
    unfold applyCommand mapHal unpaced Pipeline.mapHal SimulatedHal.unpaced
    simp only [foldl_injectSensor]
  | clearInjection key =>
    unfold applyCommand mapHal unpaced Pipeline.mapHal SimulatedHal.unpaced
    simp only [foldl_clear]
  | setTimeScale scale => exact absurd rfl (h scale)

variable [SimLibm] {s} {cfg : Config}

/-- An event that does not change the cadence does not depend on it. -/
theorem unpaced_step? {e : RuntimeEvent cfg.probeCount} (he : ∀ scale, e ≠ .setTimeScale scale) :
    s.unpaced.step? cfg e = (s.step? cfg e).map unpaced := by
  cases e with
  | tick =>
    have htick := Pipeline.tick_mapHal (f := SimulatedHal.unpaced) (fun _ => rfl) (fun _ => rfl)
      (fun hal c clock => SimulatedHal.unpaced_step (Hal.command hal c) clock)
      (s.pruneInjections cfg.probeCount).pipeline
    unfold step?
    dsimp only
    rw [unpaced_prune]
    change ((s.pruneInjections cfg.probeCount).pipeline.mapHal SimulatedHal.unpaced).tick.map _ = _
    rw [htick, Option.map_map, Option.map_map]
    rfl
  | write command admitted => cases command <;> rfl
  | inject spec admitted => exact congrArg some (unpaced_applyCommand s _ _ fun _ => nofun)
  | clear key admitted whole => exact congrArg some (unpaced_applyCommand s _ _ fun _ => nofun)
  | setTimeScale scale => exact absurd rfl (he scale)

end Unpaced

section Runs

variable [SimLibm] {cfg : Config} {clock : Clock} {es : List (RuntimeEvent cfg.probeCount)}

theorem lift_unpaced {s s' t : Runtime} {e : RuntimeEvent cfg.probeCount}
    (he : e.isCadence = false) (hs : Step cfg s e s') (ht : t.unpaced = s.unpaced) :
    ∃ t', Step cfg t e t' ∧ t'.unpaced = s'.unpaced := by
  have hne : ∀ scale, e ≠ .setTimeScale scale := by
    rintro scale rfl
    cases he
  have hmap : (t.step? cfg e).map unpaced = some s'.unpaced := by
    rw [← unpaced_step? hne, ht, unpaced_step? hne, hs]
    rfl
  exact Option.map_eq_some_iff.1 hmap

/-- **The cadence is not seen by the simulation.** What a run of the tick task comes to, but for
the cadence itself, is what the run without its changes comes to: the same events are possible,
and they leave the same plant, controller, listing and snapshot. -/
theorem timeScale_unseen {u : Runtime} :
    (∃ s, Run (Step cfg) (start cfg clock) es s ∧ s.unpaced = u) ↔
      ∃ s, Run (Step cfg) (start cfg clock) (es.filter fun e => !e.isCadence) s ∧
        s.unpaced = u := by
  constructor
  · have hskip : ∀ s e s', e.isCadence = true → Step cfg s e s' → s'.unpaced = s.unpaced := by
      intro s e s' he hs
      cases e with
      | setTimeScale scale =>
        obtain rfl := Option.some.inj hs
        rfl
      | _ => cases he
    rintro ⟨s, hr, rfl⟩
    exact hr.erase hskip (fun s e s' t he hs ht => lift_unpaced he hs ht) rfl
  · have hcan : ∀ s e, e.isCadence = true → ∃ s', Step cfg s e s' ∧ s'.unpaced = s.unpaced := by
      intro s e he
      cases e with
      | setTimeScale scale => exact ⟨_, rfl, rfl⟩
      | _ => cases he
    rintro ⟨s, hr, rfl⟩
    exact Run.restore hcan (fun s e s' t he hs ht => lift_unpaced he hs ht) hr rfl

end Runs

end Runtime

/-! ## On the bench -/

section Witness

attribute [local instance] noiseless

/-- Jam the heater for five ticks, then command it on. -/
def frozenHeater : List PlantEvent :=
  [.injectActuatorFault (.house .heater) .stuckOff (some 5),
    .command ((Commands.allOff []).set (.house .heater) 100)]

/-- A jammed heater reports `0`, though it is told `100`. -/
theorem readback_step_heater :
    told frozenHeater (.house .heater) = 100 ∧
      (Hal.observed ((SimulatedHal.new quietHouse).after
        (frozenHeater ++ [.step Clock.new]))).get (.house .heater) = 0 := by
  refine ⟨by decide, (SimulatedHal.readback_step quietHouse frozenHeater Clock.new
    (by decide)).stuckOff ⟨5, by decide, [], 5, [.keep], rfl, ?_, rfl⟩⟩
  exact List.forall_mem_singleton.2 rfl

end Witness

end Greenhouse.Controller
