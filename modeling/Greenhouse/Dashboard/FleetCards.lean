import Greenhouse.Controller.Bench
import Greenhouse.Platform.Standing
import Greenhouse.Process.Run

/-!
# The fleet cards

A dashboard fetches a summary of every greenhouse and patches it with the status frames that
follow. A status frame without a time scale leaves the one of the summary, and the frame of a
greenhouse whose time scale was cleared has none.

* `summaryOf`, `liveFields`: a summary, as the platform answers a fetch.
* `applyStatusFrame`: what a status frame does to the summaries.
* `standing_fold`: a summary after the frames of one update.
* `Cards.cards_fresh_iff`: the runs in which the summaries are throughout what a fetch would answer.
-/

namespace Greenhouse.Dashboard

open Greenhouse.Numeric Greenhouse.Contract Greenhouse.Platform Greenhouse.Process

/-! ## Summaries -/

structure Climate where
  temperature : Option F64
  humidity : Option F64
  co2 : Option F64
  dli : Option F64

/-- One greenhouse as the fleet page shows it. -/
structure GreenhouseSummary where
  id : String
  displayName : String
  crop : Option String
  status : Connectivity
  drift : Bool
  timeScale : Option F64
  climate : Climate

/-- A row of the registry. -/
structure RegisteredGreenhouse where
  id : String
  displayName : String
  crop : Option String

/-- The live state a summary reads. -/
structure LiveSummary where
  status : Connectivity
  timeScale : Option F64 := none
  temperature : Option F64 := none
  humidity : Option F64 := none
  co2 : Option F64 := none
  dli : Option F64 := none

/-- A greenhouse of which nothing has been heard is offline. -/
def liveFields (fleet : Fleet) (id : String) : LiveSummary :=
  match fleet.get id with
  | none => { status := .offline }
  | some live => {
      status := live.status
      timeScale := live.timeScale
      temperature := live.temperature
      humidity := live.humidity
      co2 := live.co2
      dli := live.dli }

/-- A row of the registry with the live state and the drift flag. -/
def summaryOf (fleet : Fleet) (greenhouse : RegisteredGreenhouse) (drift : Bool) :
    GreenhouseSummary :=
  let live := liveFields fleet greenhouse.id
  { id := greenhouse.id
    displayName := greenhouse.displayName
    crop := greenhouse.crop
    status := live.status
    drift
    timeScale := live.timeScale
    climate := ⟨live.temperature, live.humidity, live.co2, live.dli⟩ }

/-- What a fetch shows of a greenhouse. -/
theorem liveFields_shown (fleet : Fleet) (id : String) :
    (⟨(liveFields fleet id).status, (liveFields fleet id).timeScale⟩ : Standing) =
      fleet.shown id := by
  rw [Fleet.shown_eq, Fleet.standing, liveFields]
  cases fleet.get id <;> rfl

/-! ## Status frames -/

def GreenhouseSummary.standing (summary : GreenhouseSummary) : Standing :=
  ⟨summary.status, summary.timeScale⟩

def applyStatusToSummary (summary : GreenhouseSummary) (frame : Standing) : GreenhouseSummary :=
  let timeScale := frame.timeScale.or summary.timeScale
  if summary.status = frame.status ∧ summary.timeScale = timeScale then summary
  else { summary with status := frame.status, timeScale }

/-- Patch the summary of a greenhouse. -/
def patchFleetSummary (fleet : List GreenhouseSummary) (greenhouseId : String)
    (patch : GreenhouseSummary → GreenhouseSummary) : List GreenhouseSummary :=
  fleet.map fun summary => if summary.id ≠ greenhouseId then summary else patch summary

/-- The summaries after a frame; only a status frame concerns them. -/
def applyStatusFrame (fleet : List GreenhouseSummary) : Frame → List GreenhouseSummary
  | .status id _ status timeScale =>
    patchFleetSummary fleet id fun summary => applyStatusToSummary summary ⟨status, timeScale⟩
  | _ => fleet

/-- A standing put onto an earlier one: a missing time scale is the earlier one. -/
def onto (s prev : Standing) : Standing := ⟨s.status, s.timeScale.or prev.timeScale⟩

theorem onto_onto (s prev : Standing) : onto s (onto s prev) = onto s prev := by
  simp only [onto]
  cases s.timeScale <;> rfl

theorem onto_eq_iff {s prev : Standing} :
    onto s prev = s ↔ (s.timeScale = none → prev.timeScale = none) := by
  obtain ⟨status, scale⟩ := s
  cases scale with
  | none => simp [onto]
  | some x => simp [onto]

theorem standing_applyStatusToSummary (summary : GreenhouseSummary) (frame : Standing) :
    (applyStatusToSummary summary frame).standing = onto frame summary.standing := by
  rw [applyStatusToSummary]
  split
  · rename_i h
    show (⟨summary.status, summary.timeScale⟩ : Standing) =
      ⟨frame.status, frame.timeScale.or summary.timeScale⟩
    rw [← h.2, h.1]
  · rfl

/-- What one frame does to one summary. -/
def patched (summary : GreenhouseSummary) (frame : Frame) : GreenhouseSummary :=
  match frame.standing? with
  | some (id, s) => if summary.id ≠ id then summary else applyStatusToSummary summary s
  | none => summary

theorem applyStatusFrame_eq (fleet : List GreenhouseSummary) (frame : Frame) :
    applyStatusFrame fleet frame = fleet.map fun summary => patched summary frame := by
  cases frame with
  | status id ts status timeScale => rfl
  | _ => exact (List.map_id' fleet).symm

theorem foldl_applyStatusFrame (fleet : List GreenhouseSummary) (frames : List Frame) :
    frames.foldl applyStatusFrame fleet =
      fleet.map fun summary => frames.foldl patched summary := by
  induction frames generalizing fleet with
  | nil => exact (List.map_id' fleet).symm
  | cons frame frames ih =>
    rw [List.foldl_cons, ih, applyStatusFrame_eq, List.map_map]
    rfl

theorem id_patched (summary : GreenhouseSummary) (frame : Frame) :
    (patched summary frame).id = summary.id := by
  rw [patched]
  split
  · split
    · rfl
    · rw [applyStatusToSummary]
      split <;> rfl
  · rfl

theorem id_foldl_patched (summary : GreenhouseSummary) (frames : List Frame) :
    (frames.foldl patched summary).id = summary.id := by
  induction frames generalizing summary with
  | nil => rfl
  | cons frame frames ih => rw [List.foldl_cons, ih, id_patched]

/-- **A summary after the frames of one update**, if all that concern it carry one standing. -/
theorem standing_fold {summary : GreenhouseSummary} {frames : List Frame} {s : Standing}
    (hall : ∀ t, (summary.id, t) ∈ frames.filterMap Frame.standing? → t = s) :
    (frames.foldl patched summary).standing =
      if (summary.id, s) ∈ frames.filterMap Frame.standing? then onto s summary.standing
      else summary.standing := by
  induction frames generalizing summary with
  | nil => rfl
  | cons frame frames ih =>
    rw [List.foldl_cons]
    cases hframe : frame.standing? with
    | none =>
      have hpatched : patched summary frame = summary := by rw [patched, hframe]
      rw [List.filterMap_cons_none hframe] at hall ⊢
      rw [hpatched]
      exact ih hall
    | some told =>
      obtain ⟨id, t⟩ := told
      rw [List.filterMap_cons_some hframe] at hall ⊢
      have hrest := fun t ht => hall t (List.mem_cons_of_mem _ ht)
      by_cases hid : summary.id = id
      · subst hid
        obtain rfl : t = s := hall t List.mem_cons_self
        have hpatched : (patched summary frame).standing = onto t summary.standing := by
          rw [patched, hframe]
          dsimp only
          rw [if_neg (not_not.2 rfl), standing_applyStatusToSummary]
        have hafter : ∀ t', ((patched summary frame).id, t') ∈ frames.filterMap Frame.standing? →
            t' = t := by rwa [id_patched]
        rw [ih hafter, id_patched, hpatched, onto_onto, ite_self, if_pos List.mem_cons_self]
      · have hpatched : patched summary frame = summary := by
          rw [patched, hframe]
          exact if_pos hid
        have hmem : (summary.id, s) ∈ (id, t) :: frames.filterMap Frame.standing? ↔
            (summary.id, s) ∈ frames.filterMap Frame.standing? := by
          rw [List.mem_cons, or_iff_right]
          intro h
          exact hid (Prod.mk.inj h).1
        rw [hpatched, ih hrest]
        simp only [hmem]

/-! ## Updates of the live view -/

/-- What reaches the platform: a message, or a tick of the liveness loop. -/
inductive Arrival where
  | message (topic : String) (data : Document) (now : Int)
  | sweep (now : Int)

section Arrivals

variable [Rfc3339] {known : List String} {fleet fleet' : Fleet} {frames : List Frame}

/-- An arrival handled by itself: the live view after it and the frames it broadcasts. The changes
of a sweep come in any order. -/
def Processed (known : List String) (fleet : Fleet) (arrival : Arrival) (fleet' : Fleet)
    (frames : List Frame) : Prop :=
  match arrival with
  | .message topic data now =>
    match handleMessage known fleet topic data now with
    | some handled => fleet' = handled.fleet ∧ frames = handled.broadcast
    | none => fleet' = fleet ∧ frames = []
  | .sweep now =>
    fleet' = (fleet.sweep now).1 ∧
      ∃ changed : List (String × Live), changed.Perm (fleet.sweep now).2 ∧
        frames = changed.map (sweepFrame now)

theorem announced_processed {arrival : Arrival}
    (h : Processed known fleet arrival fleet' frames) :
    Announced fleet fleet' (frames.filterMap Frame.standing?) := by
  cases arrival with
  | message topic data now =>
    simp only [Processed] at h
    split at h
    · rename_i handled hhandled
      obtain ⟨rfl, rfl⟩ := h
      exact announced_handleMessage hhandled
    · obtain ⟨rfl, rfl⟩ := h
      exact announced_refl _
  | sweep now =>
    obtain ⟨rfl, changed, hperm, rfl⟩ := h
    rw [standing_sweepFrame]
    exact (fleet.announced_sweep now).perm (hperm.map _)

/-- The time scale that an arrival sets for a greenhouse, if it sets it. -/
def rescaled (known : List String) (arrival : Arrival) (g : String) : Option (Option F64) :=
  match arrival with
  | .message topic data _ => do
    let payload ← stateOf known topic data
    if payload.env.greenhouseId = g then
      some (payload.simulation.map SimulationPayload.timeScale)
    else none
  | .sweep _ => none

/-- **Only a state frame changes a time scale.** -/
theorem timeScale_processed {arrival : Arrival} (h : Processed known fleet arrival fleet' frames)
    (g : String) : (fleet'.shown g).timeScale =
      (rescaled known arrival g).getD (fleet.shown g).timeScale := by
  cases arrival with
  | message topic data now =>
    simp only [Processed] at h
    simp only [rescaled, Option.bind_eq_bind]
    split at h
    · rename_i handled hhandled
      obtain ⟨rfl, -⟩ := h
      rcases handleMessage_cases hhandled with ⟨hnone, hobserved⟩ | ⟨payload, ts, hsome, rfl⟩
      · rw [hnone, hobserved.timeScale]
        rfl
      · rw [hsome, timeScale_applyState, Option.bind_some]
        split <;> rfl
    · rename_i hdropped
      obtain ⟨rfl, -⟩ := h
      rw [stateOf_of_dropped hdropped]
      rfl
  | sweep now =>
    obtain ⟨rfl, -⟩ := h
    exact fleet.timeScale_sweep now g

end Arrivals

/-! ## The summaries of a dashboard -/

/-- The live view of the platform and the summaries a dashboard holds. -/
structure Cards where
  fleet : Fleet
  summaries : List GreenhouseSummary

namespace Cards

/-- The dashboard after a fetch. -/
def fetch (fleet : Fleet) (registry : List RegisteredGreenhouse) (drift : String → Bool) :
    Cards where
  fleet := fleet
  summaries := registry.map fun greenhouse => summaryOf fleet greenhouse (drift greenhouse.id)

/-- An arrival is handled and its frames reach the dashboard. -/
def Step [Rfc3339] (known : List String) (s : Cards) (arrival : Arrival) (s' : Cards) : Prop :=
  ∃ frames, Processed known s.fleet arrival s'.fleet frames ∧
    s'.summaries = frames.foldl applyStatusFrame s.summaries

/-- Every summary has the status and the time scale that a fetch would answer. -/
def Fresh (s : Cards) : Prop :=
  ∀ summary ∈ s.summaries, summary.status = (liveFields s.fleet summary.id).status ∧
    summary.timeScale = (liveFields s.fleet summary.id).timeScale

/-- The arrival takes away the time scale of no greenhouse that has one and is shown. -/
def NoneCleared [Rfc3339] (known : List String) (s : Cards) (arrival : Arrival) : Prop :=
  ∀ summary ∈ s.summaries, rescaled known arrival summary.id = some none →
    (liveFields s.fleet summary.id).timeScale = none

variable {s s' : Cards}

theorem fresh_iff_standing :
    Fresh s ↔ ∀ summary ∈ s.summaries, summary.standing = s.fleet.shown summary.id := by
  refine forall₂_congr fun summary _ => ?_
  rw [← liveFields_shown, GreenhouseSummary.standing, Standing.mk.injEq]

theorem fresh_fetch (fleet : Fleet) (registry : List RegisteredGreenhouse)
    (drift : String → Bool) : Fresh (fetch fleet registry drift) := by
  intro summary hmem
  obtain ⟨greenhouse, -, rfl⟩ := List.mem_map.1 hmem
  exact ⟨rfl, rfl⟩

variable [Rfc3339] {known : List String} {arrival : Arrival}

/-- A fresh summary stays fresh exactly if its time scale is not taken away. -/
theorem fresh_summary {frames : List Frame} {fleet' : Fleet} {summary : GreenhouseSummary}
    (h : Processed known s.fleet arrival fleet' frames)
    (hbefore : summary.standing = s.fleet.shown summary.id) :
    (frames.foldl patched summary).standing = fleet'.shown summary.id ↔
      (rescaled known arrival summary.id = some none →
        (s.fleet.shown summary.id).timeScale = none) := by
  have hannounced := announced_processed h
  have hscale := timeScale_processed h summary.id
  have hall : ∀ t, (summary.id, t) ∈ frames.filterMap Frame.standing? →
      t = fleet'.shown summary.id := fun t ht => (hannounced.shown ht).symm
  rw [standing_fold hall]
  by_cases htold : (summary.id, fleet'.shown summary.id) ∈ frames.filterMap Frame.standing?
  · rw [if_pos htold, hbefore, onto_eq_iff, hscale]
    cases rescaled known arrival summary.id with
    | none => simp
    | some scale => cases scale <;> simp
  · have hunmoved : Unmoved s.fleet fleet' summary.id := by
      apply hannounced.unmoved
      intro t ht
      rw [hall t ht] at ht
      exact htold ht
    rw [if_neg htold, hbefore, hunmoved.shown]
    refine ⟨fun _ hcleared => ?_, fun _ => rfl⟩
    rw [← hunmoved.shown, hscale, hcleared]
    rfl

theorem fresh_step (hs : Fresh s) (h : Step known s arrival s') :
    Fresh s' ↔ NoneCleared known s arrival := by
  obtain ⟨frames, hprocessed, hsummaries⟩ := h
  rw [fresh_iff_standing] at hs ⊢
  rw [hsummaries, foldl_applyStatusFrame, List.forall_mem_map]
  refine forall₂_congr fun summary hmem => ?_
  have hlive : (liveFields s.fleet summary.id).timeScale =
      (s.fleet.shown summary.id).timeScale := by
    rw [← liveFields_shown]
  rw [id_foldl_patched, hlive]
  exact fresh_summary hprocessed (hs summary hmem)

variable (known)

/-- **The runs in which the fleet cards equal a fetch throughout** are those in which no shown time
scale is taken away. -/
theorem cards_fresh_iff (fleet : Fleet) (registry : List RegisteredGreenhouse)
    (drift : String → Bool) (arrivals : List Arrival) (s : Cards) :
    Run (Keeping (Step known) Fresh) (fetch fleet registry drift) arrivals s ↔
      Run (Meeting (Step known) (NoneCleared known)) (fetch fleet registry drift) arrivals s :=
  Run.keeping_iff (fun _ _ _ => fresh_step) (fresh_fetch fleet registry drift)

/-! ### A cleared time scale -/

/-- The dashboard after a message and its frames. -/
def receive (s : Cards) (topic : String) (data : Document) (now : Int) : Cards :=
  match handleMessage known s.fleet topic data now with
  | some handled => ⟨handled.fleet, handled.broadcast.foldl applyStatusFrame s.summaries⟩
  | none => s

theorem step_receive (s : Cards) (topic : String) (data : Document) (now : Int) :
    Step known s (.message topic data now) (s.receive known topic data now) := by
  simp only [Step, Processed, receive]
  split
  · rename_i handled _
    exact ⟨handled.broadcast, ⟨rfl, rfl⟩, rfl⟩
  · exact ⟨[], ⟨rfl, rfl⟩, rfl⟩

instance (s : Cards) : Decidable (Fresh s) :=
  inferInstanceAs (Decidable (∀ summary ∈ s.summaries,
    summary.status = (liveFields s.fleet summary.id).status ∧
      summary.timeScale = (liveFields s.fleet summary.id).timeScale))

end Cards

section Bench

attribute [local instance] Controller.Bench.gregorian

/-- A healthy state frame of `gh-a`, with further members. -/
def stateDocument (members : List (String × Document)) : Document :=
  .object ([("schema_version", .int 1), ("greenhouse_id", .string "gh-a"), ("zone_id", .null),
    ("ts", .string "2026-06-07T14:03:00.000Z"),
    ("controller", .object [("mode", .string "normal"), ("healthy", .bool true)]),
    ("sensors", .object []), ("zones", .array []), ("actuators", .array []),
    ("faults", .array [])] ++ members)

/-- The member of a simulated clock that runs at twice the speed. -/
def doubled : String × Document :=
  ("simulation", .object [("time_scale", .float 2), ("tick_index", .int 1234)])

/-- A dashboard that knows `gh-a`, before any message. -/
def benchCards : Cards :=
  Cards.fetch { offlineAfter := 30000000000 } [⟨"gh-a", "House A", none⟩] fun _ => false

/-- **A card keeps a time scale that was cleared.** -/
theorem card_keeps_scale :
    ∃ s, Run (Cards.Step ["gh-a"]) benchCards
      [.message "gh/gh-a/state" (stateDocument [doubled]) 0,
        .message "gh/gh-a/state" (stateDocument []) 1000000000] s ∧ ¬ s.Fresh := by
  let known := ["gh-a"]
  let set := benchCards.receive known "gh/gh-a/state" (stateDocument [doubled]) 0
  let cleared := set.receive known "gh/gh-a/state" (stateDocument []) 1000000000
  have hset := Cards.step_receive known benchCards "gh/gh-a/state" (stateDocument [doubled]) 0
  have hcleared := Cards.step_receive known set "gh/gh-a/state" (stateDocument []) 1000000000
  exact ⟨cleared, .cons hset (.single hcleared), by decide +kernel⟩

end Bench

end Greenhouse.Dashboard
