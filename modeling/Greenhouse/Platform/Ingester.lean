import Greenhouse.Platform.Standing
import Greenhouse.Process.Prog

/-!
# The goroutines of the ingester

Messages are handled by one goroutine and the liveness loop is another. Each updates the live
view under its lock and broadcasts the change after it has let go of the lock.

* `handle`, `consume`, `runLiveness`: the goroutines, one operation after the other.
* `Effect`: what an operation does.
* `eval_handle`, `eval_sweepOnce`: by themselves they do what `handleMessage` and `Fleet.sweep`
  do.
-/

namespace Greenhouse.Platform.Ingester

open Greenhouse.Numeric Greenhouse.Contract Greenhouse.Process Prog Std

/-! ## Operations -/

/-- The operations of the two goroutines. Each update of the live view is one operation, as it is
made under the lock. -/
inductive Op where
  | receive
  | tick
  | push (record : Record)
  | setTemperature (id : String) (temperature : Option F64)
  | setHumidity (id : String) (humidity : Option F64)
  | setCO2 (id : String) (co2 : Option F64)
  | setDLI (id : String) (dli : Option F64)
  | setControllerMode (id mode : String)
  | setActuatorHealth (id actuator zoneId health : String)
  | setSensorFaults (id : String) (faults : TreeMap FaultKey String) (ts : Int)
  | setActiveFaults (id : String) (faults : TreeMap FaultKey ActiveFault) (ts : Int)
  | snapshot (id : String)
  | observe (id : String) (ts : Int)
  | setDegraded (id : String) (degraded : Bool) (ts : Int)
  | setTimeScale (id : String) (scale : Option F64)
  | sweep (now : Int)
  | broadcast (frame : Frame)

/-- A message: its topic, its payload and when it came. -/
structure Message where
  topic : String
  data : Document
  now : Int

abbrev Resp : Op → Type
  | .receive => Message
  | .tick => Int
  | .setActiveFaults _ _ _ => Bool
  | .snapshot _ => Option ControllerSnapshot
  | .observe _ _ => Live × Bool
  | .setDegraded _ _ _ => Live × Bool
  | .setTimeScale _ _ => Live × Bool
  | .sweep _ => List (String × Live)
  | _ => Unit

/-- The live view, what was queued for the database, and the frames broadcast, newest first. -/
structure World where
  fleet : Fleet
  pushed : List Record := []
  sent : List Frame := []

namespace World

/-- The world with the live view replaced. -/
def on (w : World) (fleet : Fleet) : World := { w with fleet }

@[simp] theorem on_fleet (w : World) (f : Fleet) : (w.on f).fleet = f := rfl

@[simp] theorem on_on (w : World) (f f' : Fleet) : (w.on f).on f' = w.on f' := rfl

/-- The answer to an operation, the arrivals given by a function. -/
def serve (arrivals : World → Message × Int) (w : World) : (o : Op) → Resp o × World
  | .receive => ((arrivals w).1, w)
  | .tick => ((arrivals w).2, w)
  | .push record => ((), { w with pushed := w.pushed ++ [record] })
  | .setTemperature id temperature => ((), w.on (w.fleet.setTemperature id temperature))
  | .setHumidity id humidity => ((), w.on (w.fleet.setHumidity id humidity))
  | .setCO2 id co2 => ((), w.on (w.fleet.setCO2 id co2))
  | .setDLI id dli => ((), w.on (w.fleet.setDLI id dli))
  | .setControllerMode id mode => ((), w.on (w.fleet.setControllerMode id mode))
  | .setActuatorHealth id actuator zoneId health =>
    ((), w.on (w.fleet.setActuatorHealth id actuator zoneId health))
  | .setSensorFaults id faults ts => ((), w.on (w.fleet.setSensorFaults id faults ts))
  | .setActiveFaults id faults ts =>
    let recorded := w.fleet.setActiveFaults id faults ts
    (recorded.2, w.on recorded.1)
  | .snapshot id => (w.fleet.snapshot id, w)
  | .observe id ts => ((w.fleet.observe id ts).2, w.on (w.fleet.observe id ts).1)
  | .setDegraded id degraded ts =>
    ((w.fleet.setDegraded id degraded ts).2, w.on (w.fleet.setDegraded id degraded ts).1)
  | .setTimeScale id scale =>
    ((w.fleet.setTimeScale id scale).2, w.on (w.fleet.setTimeScale id scale).1)
  | .sweep now => ((w.fleet.sweep now).2, w.on (w.fleet.sweep now).1)
  | .broadcast frame => ((), { w with sent := frame :: w.sent })

end World

/-- How the platform answers: any message may arrive at any time, and the changes of a sweep come
in any order. -/
def Effect (w : World) (o : Op) (r : Resp o) (w' : World) : Prop :=
  match o, r with
  | .receive, _ => w' = w
  | .tick, _ => w' = w
  | .sweep now, r => r.Perm (w.fleet.sweep now).2 ∧ w' = w.on (w.fleet.sweep now).1
  | o, r => ∃ arrivals, (r, w') = w.serve arrivals o

theorem effect_serve (arrivals : World → Message × Int) (w : World) (o : Op) :
    Effect w o (w.serve arrivals o).1 (w.serve arrivals o).2 := by
  cases o with
  | receive => rfl
  | tick => rfl
  | sweep now => exact ⟨List.Perm.refl _, rfl⟩
  | _ => exact ⟨arrivals, rfl⟩

/-! ## The goroutines -/

abbrev Program := Prog Op Resp Unit

/-- A conditional without an alternative. -/
def onlyIf (c : Bool) (p : Program) : Program := if c then p else return ()

def announce (changed : Bool) (id : String) (ts : Int) (live : Live) : Program :=
  onlyIf changed (call (Op.broadcast (.status id ts live.status live.timeScale)))

/-- The house values a reading updates. -/
def note (reading : Reading) : Program :=
  if reading.zoneId ≠ none then return ()
  else if reading.metric = "temperature" then
    call (Op.setTemperature reading.greenhouseId (some reading.value))
  else if reading.metric = "humidity" then
    call (Op.setHumidity reading.greenhouseId (some reading.value))
  else if reading.metric = "co2" then call (Op.setCO2 reading.greenhouseId (some reading.value))
  else return ()

def onReading [Rfc3339] (data : Document) (topicId : String) (now : Int) : Program :=
  match (decodeReading data).bind (matched topicId Reading.greenhouseId) with
  | none => return ()
  | some reading => do
    call (Op.push (.reading reading))
    note reading
    let live ← call (Op.observe reading.greenhouseId now)
    call (Op.broadcast (.reading reading))
    announce live.2 reading.greenhouseId reading.ts live.1

def onActuator [Rfc3339] (data : Document) (topicId : String) (now : Int) : Program :=
  match (decodeActuator data).bind (matched topicId ActuatorSample.greenhouseId) with
  | none => return ()
  | some sample => do
    call (Op.push (.actuator sample))
    onlyIf (sample.health ∈ actuatorHealth)
      (call (Op.setActuatorHealth sample.greenhouseId sample.actuator (zoneKey sample.zoneId)
        sample.health))
    let live ← call (Op.observe sample.greenhouseId now)
    call (Op.broadcast (.actuator sample))
    announce live.2 sample.greenhouseId sample.ts live.1

def onFault [Rfc3339] (data : Document) (topicId : String) (now : Int) : Program :=
  match (decodeFault data).bind (matched topicId Event.greenhouseId) with
  | none => return ()
  | some event => do
    call (Op.push (.event event))
    let live ← call (Op.setDegraded event.greenhouseId true now)
    call (Op.broadcast (.event event))
    announce live.2 event.greenhouseId event.ts live.1

/-- The values of a state frame that are present. -/
def noteState (id : String) (payload : SystemStatePayload) : Program := do
  onlyIf payload.temperature.isSome (call (Op.setTemperature id payload.temperature))
  onlyIf payload.humidity.isSome (call (Op.setHumidity id payload.humidity))
  onlyIf payload.co2.isSome (call (Op.setCO2 id payload.co2))
  onlyIf payload.dli.isSome (call (Op.setDLI id payload.dli))

/-- Broadcast the active faults as the view now holds them. -/
def announceAlerts (id : String) (ts : Int) : Program := do
  let snapshot ← call (Op.snapshot id)
  let faults := (snapshot.map ControllerSnapshot.activeFaults).getD ∅
  call (Op.broadcast (.activeAlerts id ts (activeAlerts faults)))

def applyState (payload : SystemStatePayload) (ts now : Int) : Program := do
  let id := payload.env.greenhouseId
  let scaled ← call (Op.setTimeScale id (payload.simulation.map SimulationPayload.timeScale))
  noteState id payload
  call (Op.setControllerMode id payload.mode)
  call (Op.setSensorFaults id (sensorFaults payload) ts)
  let alertsChanged ← call (Op.setActiveFaults id (activeFaults payload) ts)
  onlyIf alertsChanged (announceAlerts id ts)
  let degraded := !payload.healthy || payload.mode != "normal"
  let live ← call (Op.setDegraded id degraded now)
  announce (live.2 || scaled.2) id ts live.1

def onState [Rfc3339] (data : Document) (topicId : String) (now : Int) : Program :=
  match decodeSystemState data with
  | none => return ()
  | some (payload, ts) =>
    match matched topicId (fun p => p.env.greenhouseId) payload with
    | none => return ()
    | some payload => applyState payload ts now

/-- The handler of a message. -/
def handle [Rfc3339] (known : List String) (message : Message) : Program :=
  match parseTopic message.topic with
  | none => return ()
  | some info =>
    if info.greenhouseId ∈ known then
      match info.kind with
      | .sensorHouse | .sensorZone => onReading message.data info.greenhouseId message.now
      | .actuator => onActuator message.data info.greenhouseId message.now
      | .fault => onFault message.data info.greenhouseId message.now
      | .state => onState message.data info.greenhouseId message.now
    else return ()

/-- The broker's goroutine, for a number of messages. -/
def consume [Rfc3339] (known : List String) : ℕ → Program
  | 0 => return ()
  | n + 1 => do
    let message ← call Op.receive
    handle known message
    consume known n

def announceAll (now : Int) : List (String × Live) → Program
  | [] => return ()
  | changed :: rest => do
    call (Op.broadcast (sweepFrame now changed))
    announceAll now rest

def sweepOnce (now : Int) : Program := do
  let changed ← call (Op.sweep now)
  announceAll now changed

/-- The liveness loop, for a number of ticks. -/
def runLiveness : ℕ → Program
  | 0 => return ()
  | n + 1 => do
    let now ← call Op.tick
    sweepOnce now
    runLiveness n

/-! ## By themselves -/

section Alone

variable [Rfc3339] {arrivals : World → Message × Int}

/-- The world after a message that is handled by itself. -/
def World.after (w : World) : Option Handled → World
  | none => w
  | some handled => {
      fleet := handled.fleet
      pushed := w.pushed ++ handled.pushed.toList
      sent := handled.broadcast.reverse ++ w.sent }

omit [Rfc3339] in
theorem eval_announce (changed : Bool) (id : String) (ts : Int) (live : Live) (w : World) :
    (announce changed id ts live).eval (World.serve arrivals) w =
      ((), { w with sent := (statusFrame changed id ts live).reverse ++ w.sent }) := by
  cases changed <;> rfl

omit [Rfc3339] in
theorem eval_note (reading : Reading) (w : World) :
    (note reading).eval (World.serve arrivals) w = ((), w.on (noteReading w.fleet reading)) := by
  simp only [note, noteReading]
  split
  · rfl
  · split
    · rfl
    · split
      · rfl
      · split <;> rfl

omit [Rfc3339] in
theorem eval_onlyIf (c : Bool) (p : Program) (w : World) :
    (onlyIf c p).eval (World.serve arrivals) w =
      if c then p.eval (World.serve arrivals) w else ((), w) := by
  cases c <;> rfl

omit [Rfc3339] in
theorem eval_noteState (id : String) (payload : SystemStatePayload) (w : World) :
    (noteState id payload).eval (World.serve arrivals) w =
      ((), w.on (Platform.noteState w.fleet id payload)) := by
  have hkeep : ∀ (value : Option F64) (set : Fleet → String → Option F64 → Fleet) (p : Program),
      (∀ w, p.eval (World.serve arrivals) w = ((), w.on (set w.fleet id value))) →
        ∀ w, (onlyIf value.isSome p).eval (World.serve arrivals) w =
          ((), w.on (if value.isSome then set w.fleet id value else w.fleet)) := by
    intro value set p hp w
    rw [eval_onlyIf, hp]
    split <;> rfl
  simp only [noteState, eval_bind]
  rw [hkeep payload.temperature Fleet.setTemperature _ fun _ => rfl,
    hkeep payload.humidity Fleet.setHumidity _ fun _ => rfl,
    hkeep payload.co2 Fleet.setCO2 _ fun _ => rfl, hkeep payload.dli Fleet.setDLI _ fun _ => rfl]
  rfl

/-- The frame of the active faults, if they changed. -/
def alertsFrame (id : String) (ts : Int) (recorded : Fleet × Bool) : List Frame :=
  if recorded.2 then [.activeAlerts id ts (activeAlerts (recorded.1.ensure id).activeFaults)]
  else []

omit [Rfc3339] in
/-- The alerts broadcast are those just recorded. -/
theorem eval_announceAlerts (f : Fleet) (id : String) (faults : TreeMap FaultKey ActiveFault)
    (ts : Int) (w : World) :
    (onlyIf (f.setActiveFaults id faults ts).2 (announceAlerts id ts)).eval (World.serve arrivals)
        (w.on (f.setActiveFaults id faults ts).1) =
      ((), { w with
        fleet := (f.setActiveFaults id faults ts).1
        sent := (alertsFrame id ts (f.setActiveFaults id faults ts)).reverse ++ w.sent }) := by
  rw [eval_onlyIf, alertsFrame]
  cases (f.setActiveFaults id faults ts).2 with
  | false => rfl
  | true =>
    simp only [if_true, announceAlerts, eval_bind, eval_call, World.serve, World.on,
      Fleet.setActiveFaults, Fleet.snapshot_put, Fleet.ensure_put]
    rfl

theorem eval_onReading (data : Document) (topicId : String) (now : Int) (w : World) :
    (onReading data topicId now).eval (World.serve arrivals) w =
      ((), w.after (Platform.onReading w.fleet data topicId now)) := by
  simp only [onReading, Platform.onReading, Option.bind_eq_bind]
  rw [← Option.bind_assoc]
  cases (decodeReading data).bind (matched topicId Reading.greenhouseId) with
  | none => rfl
  | some reading =>
    simp only [eval_bind, eval_call, eval_note, eval_announce, Option.bind_some, World.after,
      World.serve, World.on, List.reverse_cons, List.append_assoc]
    rfl

theorem eval_onActuator (data : Document) (topicId : String) (now : Int) (w : World) :
    (onActuator data topicId now).eval (World.serve arrivals) w =
      ((), w.after (Platform.onActuator w.fleet data topicId now)) := by
  simp only [onActuator, Platform.onActuator, Option.bind_eq_bind]
  rw [← Option.bind_assoc]
  cases (decodeActuator data).bind (matched topicId ActuatorSample.greenhouseId) with
  | none => rfl
  | some sample =>
    simp only [eval_bind, eval_call, eval_onlyIf, eval_announce, Option.bind_some, World.after,
      World.serve, World.on, List.reverse_cons, List.append_assoc, decide_eq_true_eq]
    by_cases hhealth : sample.health ∈ actuatorHealth
    · simp only [if_pos hhealth]
      rfl
    · simp only [if_neg hhealth]
      rfl

theorem eval_onFault (data : Document) (topicId : String) (now : Int) (w : World) :
    (onFault data topicId now).eval (World.serve arrivals) w =
      ((), w.after (Platform.onFault w.fleet data topicId now)) := by
  simp only [onFault, Platform.onFault, Option.bind_eq_bind]
  rw [← Option.bind_assoc]
  cases (decodeFault data).bind (matched topicId Event.greenhouseId) with
  | none => rfl
  | some event =>
    simp only [eval_bind, eval_call, eval_announce, Option.bind_some, World.after, World.serve,
      World.on, List.reverse_cons, List.append_assoc]
    rfl

omit [Rfc3339] in
theorem eval_applyState (payload : SystemStatePayload) (ts now : Int) (w : World) :
    (applyState payload ts now).eval (World.serve arrivals) w =
      ((), w.after (some (Platform.applyState w.fleet payload ts now))) := by
  simp only [applyState, eval_bind, eval_call, eval_noteState, eval_announce, World.serve,
    World.on_on, World.on_fleet, eval_announceAlerts]
  simp only [World.after, Platform.applyState, World.on, List.reverse_append, List.append_assoc,
    Option.toList_none, List.append_nil]
  rfl

theorem eval_onState (data : Document) (topicId : String) (now : Int) (w : World) :
    (onState data topicId now).eval (World.serve arrivals) w =
      ((), w.after (Platform.onState w.fleet data topicId now)) := by
  simp only [onState, Platform.onState, Option.bind_eq_bind]
  cases decodeSystemState data with
  | none => rfl
  | some decoded =>
    obtain ⟨payload, ts⟩ := decoded
    simp only [Option.bind_some]
    cases matched topicId (fun p : SystemStatePayload => p.env.greenhouseId) payload with
    | none => rfl
    | some payload => exact eval_applyState payload ts now w

/-- **The handler by itself**: the view, the queue and the frames are those of `handleMessage`. -/
theorem eval_handle (known : List String) (message : Message) (w : World) :
    (handle known message).eval (World.serve arrivals) w =
      ((), w.after (handleMessage known w.fleet message.topic message.data message.now)) := by
  simp only [handle, handleMessage, Option.bind_eq_bind]
  cases parseTopic message.topic with
  | none => rfl
  | some info =>
    simp only [Option.bind_some]
    by_cases hknown : info.greenhouseId ∈ known
    · simp only [if_pos hknown]
      cases info.kind with
      | sensorHouse => exact eval_onReading _ _ _ w
      | sensorZone => exact eval_onReading _ _ _ w
      | actuator => exact eval_onActuator _ _ _ w
      | fault => exact eval_onFault _ _ _ w
      | state => exact eval_onState _ _ _ w
    · simp only [if_neg hknown]
      rfl

omit [Rfc3339] in
theorem eval_announceAll (now : Int) (changed : List (String × Live)) (w : World) :
    (announceAll now changed).eval (World.serve arrivals) w =
      ((), { w with sent := (changed.map (sweepFrame now)).reverse ++ w.sent }) := by
  induction changed generalizing w with
  | nil => rfl
  | cons c changed ih =>
    rw [announceAll, eval_bind, ih, List.map_cons, List.reverse_cons, List.append_assoc]
    rfl

omit [Rfc3339] in
/-- **A sweep by itself** broadcasts one frame for each change. -/
theorem eval_sweepOnce (now : Int) (w : World) :
    (sweepOnce now).eval (World.serve arrivals) w =
      ((), { w with
        fleet := (w.fleet.sweep now).1
        sent := ((w.fleet.sweep now).2.map (sweepFrame now)).reverse ++ w.sent }) := by
  rw [sweepOnce, eval_bind, eval_announceAll]
  rfl

end Alone

end Greenhouse.Platform.Ingester
