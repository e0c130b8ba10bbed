import Mathlib.Data.List.Chain
import Greenhouse.Controller.Bench
import Greenhouse.Process.Run

/-!
# The drain gap between irrigation cycles

A scheduler is watched over any run of ticks, with the ticks on which its cycles started and
ended. A cycle ends when the soil is wet enough, or when the reading is lost; only the first
records the tick that the drain gap is measured from.

* `tick_cases`: what a tick does to a scheduler.
* `watched_tick`: what the recorded tick says of the last cycle, kept by every tick.
* `drain_gap_iff`: the runs that keep the drain gap are those in which no cycle is due within
  the gap after one that was cut short.
-/

namespace Greenhouse.Controller

open Greenhouse.Numeric Greenhouse.Process

namespace IrrigationLoop

/-- The start of a cycle, or its end; `cut` says that the reading was lost in the middle. -/
inductive Edge
  | opened (tick : Nat)
  | closed (tick : Nat) (cut : Bool)
  deriving DecidableEq

/-- The zone as it is configured on a tick, and its trusted reading. -/
structure Input where
  zone : Zone
  soil : Option F64

/-- A scheduler, its clock, and the starts and ends of its cycles, newest first. -/
structure Watch where
  loop : IrrigationLoop
  clock : Clock
  edges : List Edge

namespace Watch

variable {w w' : Watch} {e : Input} {es : List Input} {drain : Nat}

def start (zoneId : Slug) (clock : Clock) : Watch := ⟨{ zoneId }, clock, []⟩

/-- What a tick adds to the starts and ends. -/
def edge (before after : Bool) (tick : Nat) (cut : Bool) : List Edge :=
  match before, after with
  | false, true => [.opened tick]
  | true, false => [.closed tick cut]
  | _, _ => []

def tick (w : Watch) (e : Input) : Watch :=
  let loop := (w.loop.compute e.zone e.soil w.clock).1
  { loop := loop
    clock := w.clock.advance
    edges := edge w.loop.irrigating loop.irrigating w.clock.tickIndex e.soil.isNone ++ w.edges }

/-- A tick on a validated zone with the given drain period. -/
def Step (drain : Nat) (w : Watch) (e : Input) (w' : Watch) : Prop :=
  e.zone.validate = [] ∧ e.zone.drainPeriodSecs = drain ∧ w' = w.tick e

/-- The drain gap lies between the end of a cycle and the start of the next. -/
def Gap (drain : Nat) : Edge → Edge → Prop
  | .opened next, .closed last _ => last + drain ≤ next
  | _, _ => True

instance : DecidableRel (Gap drain)
  | .opened next, .closed last _ => inferInstanceAs (Decidable (last + drain ≤ next))
  | .opened _, .opened _ => isTrue trivial
  | .closed _ _, .opened _ => isTrue trivial
  | .closed _ _, .closed _ _ => isTrue trivial

/-- Every cycle so far has kept the drain gap. -/
def Drained (drain : Nat) (w : Watch) : Prop := w.edges.IsChain (Gap drain)

instance : DecidablePred (Drained drain) :=
  fun w => inferInstanceAs (Decidable (w.edges.IsChain (Gap drain)))

/-- The scheduler is idle, and a trigger finds the soil dry after the recorded drain gap. -/
def Due (w : Watch) (e : Input) : Prop :=
  w.loop.irrigating = false ∧ w.loop.draining e.zone w.clock = false ∧
    scheduledNow e.zone w.clock = true ∧ ∃ soil, e.soil = some soil ∧
      soil < e.zone.moistureLowThreshold

/-- No cycle is due within the drain gap after one that was cut short. -/
def Unhurried (w : Watch) (e : Input) : Prop :=
  ∀ last, w.edges.head? = some (.closed last true) → w.Due e →
    last + e.zone.drainPeriodSecs ≤ w.clock.tickIndex

/-! ## One tick -/

/-- What a tick does to a scheduler: it starts a cycle that is due, ends one, or does neither. -/
theorem tick_cases (w : Watch) (e : Input) :
    (w.Due e ∧ (w.tick e).loop = { w.loop with irrigating := true } ∧
        (w.tick e).edges = .opened w.clock.tickIndex :: w.edges) ∨
      (¬ w.Due e ∧ w.loop.irrigating = true ∧ (w.tick e).loop =
          { w.loop with irrigating := false, lastCycleEndTick := some w.clock.tickIndex } ∧
        (w.tick e).edges = .closed w.clock.tickIndex false :: w.edges) ∨
      (¬ w.Due e ∧ w.loop.irrigating = true ∧
        (w.tick e).loop = { w.loop with irrigating := false } ∧
        (w.tick e).edges = .closed w.clock.tickIndex true :: w.edges) ∨
      (¬ w.Due e ∧ (w.tick e).loop = w.loop ∧ (w.tick e).edges = w.edges) := by
  obtain ⟨loop, clock, edges⟩ := w
  obtain ⟨zone, soil⟩ := e
  by_cases hirr : loop.irrigating = true
  · have hdue : ¬ Due ⟨loop, clock, edges⟩ ⟨zone, soil⟩ := by
      intro h
      exact Bool.false_ne_true (h.1.symm.trans hirr)
    right
    cases soil with
    | none =>
      right; left
      refine ⟨hdue, hirr, rfl, ?_⟩
      simp only [tick, compute, hirr, edge, Option.isNone_none, List.singleton_append]
    | some soil =>
      by_cases hwet : zone.moistureHighThreshold ≤ soil
      · left
        refine ⟨hdue, hirr, ?_, ?_⟩
        · simp only [tick, compute, hirr, if_true, if_pos hwet]
        · simp only [tick, compute, hirr, if_true, if_pos hwet, edge, Option.isNone_some,
            List.singleton_append]
      · right; right
        refine ⟨hdue, ?_, ?_⟩
        · simp only [tick, compute, hirr, if_true, if_neg hwet]
        · simp only [tick, compute, hirr, if_true, if_neg hwet, edge, List.nil_append]
  · rw [Bool.not_eq_true] at hirr
    cases soil with
    | none =>
      have hdue : ¬ Due ⟨loop, clock, edges⟩ ⟨zone, none⟩ := by
        rintro ⟨-, -, -, soil, hsoil, -⟩
        exact Option.some_ne_none soil hsoil.symm
      right; right; right
      refine ⟨hdue, ?_, ?_⟩
      · simp only [tick, compute, ← hirr]
      · simp only [tick, compute, hirr, edge, List.nil_append]
    | some soil =>
      have hdue : Due ⟨loop, clock, edges⟩ ⟨zone, some soil⟩ ↔
          loop.draining zone clock = false ∧
            (scheduledNow zone clock && decide (soil < zone.moistureLowThreshold)) = true := by
        unfold Due
        simp [hirr]
      by_cases hdrain : loop.draining zone clock = true
      · right; right; right
        rw [hdue]
        refine ⟨by simp [hdrain], ?_, ?_⟩
        · simp only [tick, compute, hirr, Bool.false_eq_true, if_false, if_pos hdrain]
        · simp only [tick, compute, hirr, Bool.false_eq_true, if_false, if_pos hdrain, edge,
            List.nil_append]
      · by_cases hdry : (scheduledNow zone clock &&
            decide (soil < zone.moistureLowThreshold)) = true
        · left
          refine ⟨hdue.2 ⟨Bool.eq_false_iff.2 hdrain, hdry⟩, ?_, ?_⟩
          · simp only [tick, compute, hirr, Bool.false_eq_true, if_false, if_neg hdrain,
              if_pos hdry]
          · simp only [tick, compute, hirr, Bool.false_eq_true, if_false, if_neg hdrain,
              if_pos hdry, edge, List.singleton_append]
        · right; right; right
          rw [hdue]
          refine ⟨fun h => hdry h.2, ?_, ?_⟩
          · simp only [tick, compute, hirr, Bool.false_eq_true, if_false, if_neg hdrain,
              if_neg hdry]
          · simp only [tick, compute, hirr, Bool.false_eq_true, if_false, if_neg hdrain,
              if_neg hdry, edge, List.nil_append]

/-! ## What the recorded tick says -/

/-- The last start or end agrees with the scheduler; an end that was not cut short is the tick
recorded. -/
def Watched (w : Watch) : Prop :=
  match w.edges.head? with
  | none => w.loop.irrigating = false
  | some (.opened _) => w.loop.irrigating = true
  | some (.closed last cut) => w.loop.irrigating = false ∧ last < w.clock.tickIndex ∧
      (cut = false → w.loop.lastCycleEndTick = some last)

theorem watched_start (zoneId : Slug) (clock : Clock) : (start zoneId clock).Watched := rfl

theorem watched_tick (h : w.Watched) (e : Input) : (w.tick e).Watched := by
  have hclock : (w.tick e).clock.tickIndex = w.clock.tickIndex + 1 := rfl
  unfold Watched
  rcases w.tick_cases e with ⟨-, hloop, hedges⟩ | ⟨-, hirr, hloop, hedges⟩ |
    ⟨-, hirr, hloop, hedges⟩ | ⟨-, hloop, hedges⟩
  · rw [hedges, hloop]
    rfl
  · rw [hedges, hloop]
    exact ⟨rfl, by omega, fun _ => rfl⟩
  · rw [hedges, hloop]
    exact ⟨rfl, by omega, fun hcut => Bool.noConfusion hcut⟩
  · rw [hedges, hloop]
    unfold Watched at h
    split at h
    · exact h
    · exact h
    · exact ⟨h.1, by omega, h.2.2⟩

/-- A cycle that is due keeps the gap after one whose end was recorded. -/
theorem gap_of_recorded (h : w.Watched) (hdue : w.Due e) {last : Nat}
    (hlast : w.edges.head? = some (.closed last false)) :
    last + e.zone.drainPeriodSecs ≤ w.clock.tickIndex := by
  unfold Watched at h
  rw [hlast] at h
  obtain ⟨-, hlt, hrecorded⟩ := h
  have hdrained : w.loop.draining e.zone w.clock = false := hdue.2.1
  unfold draining at hdrained
  rw [hrecorded rfl] at hdrained
  have hgap : ¬ w.clock.tickIndex - last < e.zone.drainPeriodSecs := of_decide_eq_false hdrained
  omega

/-- A tick keeps the drain gap exactly when it is not hurried. -/
theorem drained_tick_iff (h : w.Watched) (hw : w.Drained drain)
    (hdrain : e.zone.drainPeriodSecs = drain) : (w.tick e).Drained drain ↔ w.Unhurried e := by
  unfold Drained at hw ⊢
  have hidle : ¬ w.Due e → w.Unhurried e := fun hdue last _ h => absurd h hdue
  rcases w.tick_cases e with ⟨hdue, -, hedges⟩ | ⟨hdue, hirr, -, hedges⟩ |
    ⟨hdue, hirr, -, hedges⟩ | ⟨hdue, -, hedges⟩
  · rw [hedges, List.isChain_cons]
    constructor
    · intro hchain last hlast _
      rw [hdrain]
      exact hchain.1 _ hlast
    · intro hunhurried
      refine ⟨fun newer hnewer => ?_, hw⟩
      cases newer with
      | opened tick => exact trivial
      | closed last cut =>
        change last + drain ≤ w.clock.tickIndex
        rw [← hdrain]
        cases cut with
        | false => exact gap_of_recorded h hdue hnewer
        | true => exact hunhurried last hnewer hdue
  · rw [hedges, List.isChain_cons]
    exact ⟨fun _ => hidle hdue, fun _ => ⟨fun newer _ => by cases newer <;> trivial, hw⟩⟩
  · rw [hedges, List.isChain_cons]
    exact ⟨fun _ => hidle hdue, fun _ => ⟨fun newer _ => by cases newer <;> trivial, hw⟩⟩
  · rw [hedges]
    exact ⟨fun _ => hidle hdue, fun _ => hw⟩

/-! ## Runs -/

/-- **The drain gap** is kept throughout a run exactly when, on no tick of it, a cycle is due
within the gap after one that was cut short by the loss of its reading. -/
theorem drain_gap_iff {zoneId : Slug} {clock : Clock} :
    Run (Keeping (Step drain) (Drained drain)) (start zoneId clock) es w ↔
      Run (Meeting (Step drain) Unhurried) (start zoneId clock) es w := by
  apply Run.keeping_iff_of_invariant (J := Watched)
  · rintro s e s' hs ⟨-, -, rfl⟩
    exact watched_tick hs e
  · rintro s e s' hs hdrained ⟨-, hdrain, rfl⟩
    exact drained_tick_iff hs hdrained hdrain
  · exact watched_start zoneId clock
  · exact List.isChain_nil

/-- The run of a scheduler over inputs on validated zones with the given drain period. -/
theorem run_foldl (h : ∀ e ∈ es, e.zone.validate = [] ∧ e.zone.drainPeriodSecs = drain) :
    Run (Step drain) w es (es.foldl tick w) := by
  induction es generalizing w with
  | nil => exact Run.nil w
  | cons e es ih =>
    obtain ⟨hvalid, hdrain⟩ := h e List.mem_cons_self
    exact Run.cons ⟨hvalid, hdrain, rfl⟩ (ih fun e he => h e (List.mem_cons_of_mem _ he))

theorem one_le_minutes : 1 ≤ 59 := by decide

/-- The example zone with a trigger at six and one a minute later. -/
def twice : Zone :=
  { Bench.benchA with
    schedule := ⟨[Bench.setpoints.dayStart,
      { Bench.setpoints.dayStart with minute := 1, minute_le := one_le_minutes }],
      List.cons_ne_nil _ _⟩ }

/-- A dry reading, the loss of the reading, and dry readings for a minute. -/
def flapping : List Input :=
  ⟨twice, some 0.2⟩ :: ⟨twice, none⟩ :: List.replicate 59 ⟨twice, some 0.2⟩

/-- **The drain gap is not always kept**: the cycle of six o'clock loses its reading after a
second, and the next starts a minute later, with a drain period of five. -/
theorem drain_gap_broken :
    ∃ w, Run (Step 300) (start twice.id (.startingAtSeconds 21600)) flapping w ∧
      ¬ w.Drained 300 ∧ w.edges = [.opened 60, .closed 1 true, .opened 0] := by
  have hvalid : ∀ e ∈ flapping, e.zone.validate = [] ∧ e.zone.drainPeriodSecs = 300 := by
    have htwice : twice.validate = [] ∧ twice.drainPeriodSecs = 300 := by decide +kernel
    intro e he
    simp only [flapping, List.mem_cons, List.mem_replicate] at he
    rcases he with rfl | rfl | ⟨-, rfl⟩ <;> exact htwice
  refine ⟨_, run_foldl hvalid, ?_⟩
  decide +kernel

end Watch

end IrrigationLoop

end Greenhouse.Controller
