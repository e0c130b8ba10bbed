import Greenhouse.Controller.Bench
import Greenhouse.Controller.Telemetry
import Greenhouse.Process.Run

/-!
# The telemetry publisher

The publisher offers every frame of a snapshot to the outbound buffer of its client, which
takes it or does not; a frame that is not taken is dropped. The faults active in the snapshot
are carried to the next one, whatever became of their events.

* `faultFrames_of_topic`: the frames on the fault topic are the fault events.
* `Publisher.edges`: a fault event is attempted once, on the tick its fault rises.
-/

namespace Greenhouse.Controller

open Greenhouse.Numeric Greenhouse.Contract Greenhouse.Process Std

/-! ## The model -/

/-- A frame offered to the client, and whether it was enqueued. -/
structure Attempt where
  frame : PublishFrame
  enqueued : Bool

structure PublishStats where
  published : Nat
  dropped : Nat

/-- The tally of a number of attempts. -/
def PublishStats.ofAttempts (attempts : List Attempt) : PublishStats where
  published := attempts.countP (·.enqueued)
  dropped := attempts.countP (!·.enqueued)

/-- Publishes the telemetry of one greenhouse. -/
structure Publisher where
  greenhouseId : String
  base : Int
  prevFaults : Finset FaultKey := ∅

/-- A snapshot to publish; `accepts` tells which of its frames the client enqueues. -/
structure Publish where
  snapshot : Snapshot
  timeScale : F64
  accepts : Nat → Bool

namespace Publisher

def connect (greenhouseId : String) (base : Int) : Publisher := ⟨greenhouseId, base, ∅⟩

variable [Rfc3339]

/-- The attempts a publish makes. -/
def attempts (p : Publisher) (t : Publish) : List Attempt :=
  (telemetryFrames t.snapshot p.greenhouseId p.base t.timeScale p.prevFaults).zipIdx.map
    fun (frame, i) => ⟨frame, t.accepts i⟩

/-- Publish a snapshot. -/
def publishSnapshot (p : Publisher) (t : Publish) : Publisher × PublishStats :=
  ({ p with prevFaults := activeFaultKeys t.snapshot }, .ofAttempts (p.attempts t))

/-- One publish after another. -/
def Step (p : Publisher) (t : Publish) (p' : Publisher) : Prop := (p.publishSnapshot t).1 = p'

end Publisher

/-! ## The fault topic -/

/-- The topic of the fault events. -/
def faultTopic (greenhouseId : String) : String := "gh/" ++ greenhouseId ++ "/fault"

theorem append_ne_fault {greenhouseId suffix : String} (h : suffix.toList[1]? ≠ some 'f') :
    "gh/" ++ greenhouseId ++ suffix ≠ faultTopic greenhouseId := by
  intro heq
  have hlist := congrArg String.toList heq
  rw [faultTopic, String.toList_append, String.toList_append (t := "/fault")] at hlist
  rw [List.append_cancel_left hlist] at h
  exact h rfl

section Topics

variable {snapshot : Snapshot} {greenhouseId ts : String} {frame : PublishFrame}

theorem houseFrames_topic (h : frame ∈ houseFrames snapshot greenhouseId ts) :
    frame.topic ≠ faultTopic greenhouseId := by
  obtain ⟨⟨metric, value, unit⟩, -, hframe⟩ := List.mem_filterMap.1 h
  obtain ⟨v, -, rfl⟩ := Option.map_eq_some_iff.1 hframe
  dsimp only
  rw [String.append_assoc]
  apply append_ne_fault
  simp

theorem soilFrames_topic (h : frame ∈ soilFrames snapshot greenhouseId ts) :
    frame.topic ≠ faultTopic greenhouseId := by
  obtain ⟨⟨zone, reading⟩, -, hframe⟩ := List.mem_filterMap.1 h
  obtain ⟨v, -, rfl⟩ := Option.map_eq_some_iff.1 hframe
  dsimp only
  rw [String.append_assoc, String.append_assoc]
  apply append_ne_fault
  simp

theorem actuatorFrames_topic (h : frame ∈ actuatorFrames snapshot greenhouseId ts) :
    frame.topic ≠ faultTopic greenhouseId := by
  obtain ⟨actuator, -, rfl⟩ := List.mem_map.1 h
  dsimp only
  rw [String.append_assoc, String.append_assoc]
  apply append_ne_fault
  simp

theorem stateFrame_topic [Rfc3339] (timeScale : F64) :
    (stateFrame snapshot greenhouseId ts timeScale).topic ≠ faultTopic greenhouseId := by
  apply append_ne_fault
  decide

theorem faultFrames_topic {previouslyActive : Finset FaultKey}
    (h : frame ∈ faultFrames snapshot greenhouseId ts previouslyActive) :
    frame.topic = faultTopic greenhouseId := by
  obtain ⟨fault, -, rfl⟩ := List.mem_map.1 h
  rfl

end Topics

/-- The frames on the fault topic are the events of the faults that rise. -/
theorem faultFrames_of_topic [Rfc3339] (snapshot : Snapshot) (greenhouseId : String) (base : Int)
    (timeScale : F64) (previouslyActive : Finset FaultKey) :
    (telemetryFrames snapshot greenhouseId base timeScale previouslyActive).filter
        (·.topic == faultTopic greenhouseId) =
      faultFrames snapshot greenhouseId (ts base snapshot.simSeconds) previouslyActive := by
  have hnone : ∀ l : List PublishFrame, (∀ frame ∈ l, frame.topic ≠ faultTopic greenhouseId) →
      l.filter (·.topic == faultTopic greenhouseId) = [] := by
    intro l hl
    exact List.filter_eq_nil_iff.2 fun frame hmem => by
      rw [beq_iff_eq]
      exact hl frame hmem
  have hfault : (faultFrames snapshot greenhouseId (ts base snapshot.simSeconds)
      previouslyActive).filter (·.topic == faultTopic greenhouseId) =
        faultFrames snapshot greenhouseId (ts base snapshot.simSeconds) previouslyActive :=
    List.filter_eq_self.2 fun frame hmem => beq_iff_eq.2 (faultFrames_topic hmem)
  rw [telemetryFrames]
  simp only [List.filter_append]
  rw [hnone _ fun _ => houseFrames_topic, hnone _ fun _ => soilFrames_topic,
    hnone _ fun _ => actuatorFrames_topic, hfault, hnone _ fun frame hmem => ?_]
  · simp
  · rw [List.mem_singleton.1 hmem]
    exact stateFrame_topic timeScale

/-! ## Rising edges -/

namespace Publisher

/-- The faults active in the snapshot published last. -/
def lastActive (ticks : List Publish) : Finset FaultKey :=
  match ticks.getLast? with
  | some t => activeFaultKeys t.snapshot
  | none => ∅

/-- The faults of a snapshot that were not active before. -/
def rising (previouslyActive : Finset FaultKey) (snapshot : Snapshot) : List Fault :=
  snapshot.faults.filter fun fault => faultKey fault ∉ previouslyActive

@[simp] theorem lastActive_concat (ticks : List Publish) (t : Publish) :
    lastActive (ticks ++ [t]) = activeFaultKeys t.snapshot := by
  rw [lastActive, List.getLast?_concat]

/-- No fault rises from a snapshot to itself. -/
theorem rising_self (snapshot : Snapshot) : rising (activeFaultKeys snapshot) snapshot = [] := by
  refine List.filter_eq_nil_iff.2 fun fault hmem => ?_
  have hactive := mem_activeFaultKeys.2 ⟨fault, hmem, rfl⟩
  simpa using hactive

/-- The event of a fault tells its key. -/
theorem faultKey_of_faultFrame {greenhouseId ts : String} {f g : Fault}
    (h : faultFrame greenhouseId ts f = faultFrame greenhouseId ts g) :
    faultKey f = faultKey g := by
  have hpayload := congrArg PublishFrame.payload h
  simp only [faultFrame, faultEventMsg, envelope, Document.object.injEq, List.cons_append,
    List.nil_append, List.cons.injEq, Prod.mk.injEq, Document.string.injEq, true_and] at hpayload
  obtain ⟨hzone, hcomponent, htype, -⟩ := hpayload
  have hzone' := congrArg (Document.optional Document.text) hzone
  rw [Document.text_ofOption, Document.text_ofOption] at hzone'
  rw [faultKey, faultKey, hcomponent, FaultType.wireName_injective htype, Option.some.inj hzone']

variable [Rfc3339]

/-- The attempts on the fault topic. -/
def events (p : Publisher) (t : Publish) : List Attempt :=
  (p.attempts t).filter (·.frame.topic == faultTopic p.greenhouseId)

/-- A publisher remembers the faults of the snapshot published last. -/
theorem run_spec {greenhouseId : String} {base : Int} {ticks : List Publish} {p : Publisher}
    (hr : Run Step (connect greenhouseId base) ticks p) :
    p = ⟨greenhouseId, base, lastActive ticks⟩ := by
  induction ticks using List.reverseRecOn generalizing p with
  | nil =>
    cases hr
    rfl
  | append_singleton ticks t ih =>
    obtain ⟨q, hq, hone⟩ := hr.split
    obtain rfl := ih hq
    cases hone with
    | cons hstep hnil =>
      cases hnil
      obtain rfl : _ = p := hstep
      rw [lastActive_concat]
      rfl

/-- The events attempted in a publish are those of the faults that rise, one for each. -/
theorem events_frames (p : Publisher) (t : Publish) :
    (p.events t).map (·.frame) = (rising p.prevFaults t.snapshot).map
      (faultFrame p.greenhouseId (ts p.base t.snapshot.simSeconds)) := by
  have hmap : ∀ (l : List (PublishFrame × Nat)),
      ((l.map fun (frame, i) => (⟨frame, t.accepts i⟩ : Attempt)).filter
        (·.frame.topic == faultTopic p.greenhouseId)).map (·.frame) =
          (l.map Prod.fst).filter (·.topic == faultTopic p.greenhouseId) := by
    intro l
    rw [List.filter_map, List.map_map, List.filter_map]
    rfl
  rw [events, attempts, hmap, List.zipIdx_map_fst, faultFrames_of_topic]
  rfl

/-- **A fault event is attempted once, on the tick its fault rises.** On a tick of any run, the
events attempted are those of the faults that were not active on the tick before, one for each,
whatever became of the attempts so far; a fault that persists has none. The system state, which
lists every fault, is attempted on every tick. -/
theorem edges {greenhouseId : String} {base : Int} {ticks : List Publish} {p : Publisher}
    (hr : Run Step (connect greenhouseId base) ticks p) (t : Publish) :
    (p.events t).map (·.frame) = (rising (lastActive ticks) t.snapshot).map
        (faultFrame greenhouseId (ts base t.snapshot.simSeconds)) ∧
      (∀ f ∈ t.snapshot.faults, faultKey f ∈ lastActive ticks → ∀ a ∈ p.attempts t,
        a.frame ≠ faultFrame greenhouseId (ts base t.snapshot.simSeconds) f) ∧
      ∃ a ∈ p.attempts t, a.frame =
        stateFrame t.snapshot greenhouseId (ts base t.snapshot.simSeconds) t.timeScale := by
  obtain rfl := run_spec hr
  have hevents := events_frames ⟨greenhouseId, base, lastActive ticks⟩ t
  refine ⟨hevents, fun f _ hactive a ha heq => ?_, ?_⟩
  · have hmem : a ∈ events ⟨greenhouseId, base, lastActive ticks⟩ t :=
      List.mem_filter.2 ⟨ha, beq_iff_eq.2 (congrArg PublishFrame.topic heq)⟩
    have hframe := List.mem_map_of_mem (f := fun a : Attempt => a.frame) hmem
    rw [hevents] at hframe
    obtain ⟨g, hg, hgframe⟩ := List.mem_map.1 hframe
    have hrises := of_decide_eq_true (List.mem_filter.1 hg).2
    rw [faultKey_of_faultFrame (hgframe.trans heq)] at hrises
    exact hrises hactive
  · have hframe : stateFrame t.snapshot greenhouseId (ts base t.snapshot.simSeconds) t.timeScale ∈
        telemetryFrames t.snapshot greenhouseId base t.timeScale (lastActive ticks) :=
      List.mem_append_right _ (List.mem_singleton.2 rfl)
    obtain ⟨i, hi, heq⟩ := List.getElem_of_mem hframe
    refine ⟨⟨_, t.accepts i⟩, List.mem_map.2 ⟨(_, i), ?_, rfl⟩, rfl⟩
    rw [List.mem_zipIdx_iff_getElem?, List.getElem?_eq_getElem hi, heq]
    rfl

end Publisher

/-! ## On the bench -/

section Witness

attribute [local instance] Bench.gregorian

/-- A heater that does not follow its commands. -/
def jammedHeater : Fault where
  component := "heater"
  faultType := .actuatorStuck
  severity := .alarm
  message := "observed 0% vs commanded 100%"
  response := "disabled heater"

/-- A tick with the fault. -/
def jammedTick (accepts : Bool) : Publish := ⟨Bench.snapshot [jammedHeater], 1, fun _ => accepts⟩

/-- **A lost edge.** The buffer is full on the tick the fault rises; the event is not attempted
again on any tick after it, though the fault persists and the buffer has room. -/
theorem jammedHeater_lost :
    (∃ a ∈ (Publisher.connect "gh-a" epoch).events (jammedTick false), a.enqueued = false) ∧
      ∀ (n : Nat) (p : Publisher), Run Publisher.Step (Publisher.connect "gh-a" epoch)
        (jammedTick false :: List.replicate n (jammedTick true)) p →
          p.events (jammedTick true) = [] := by
  constructor
  · decide
  · intro n p hr
    have hlast : Publisher.lastActive (jammedTick false :: List.replicate n (jammedTick true)) =
        activeFaultKeys (Bench.snapshot [jammedHeater]) := by
      cases n with
      | zero => rfl
      | succ n =>
        rw [List.replicate_succ', ← List.cons_append]
        exact Publisher.lastActive_concat _ _
    have hframes := p.events_frames (jammedTick true)
    rw [Publisher.run_spec hr, hlast] at hframes
    rw [Publisher.run_spec hr, hlast]
    exact List.map_eq_nil_iff.1 (hframes.trans (congrArg _ (Publisher.rising_self _)))

/-- On a second tick with the fault there is no event. -/
theorem edges_jammedHeater :
    ((Publisher.publishSnapshot (Publisher.connect "gh-a" epoch) (jammedTick true)).1.events
      (jammedTick true)).map (·.frame) = [] := by
  have hr : Run Publisher.Step (Publisher.connect "gh-a" epoch) [jammedTick true]
      ((Publisher.connect "gh-a" epoch).publishSnapshot (jammedTick true)).1 := Run.single rfl
  rw [(Publisher.edges hr (jammedTick true)).1]
  rfl

end Witness

end Greenhouse.Controller
