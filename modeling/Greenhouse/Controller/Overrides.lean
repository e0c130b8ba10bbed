import Greenhouse.Controller.Loops

/-!
# Manual override

Stage four of a tick: an active override replaces the loops' output for its actuator,
until it expires or is cleared. `LevelsPct` is the invariant of the active overrides,
kept by every operation.
-/

namespace Greenhouse.Controller

open Greenhouse.Numeric Std

/-- One active override. -/
structure Override where
  level : F64
  createdAtTick : Nat
  expiresAtTick : Nat
  deriving DecidableEq

/-- All active overrides, by actuator. -/
structure OverrideState where
  active : TreeMap ActuatorId Override := ∅

namespace OverrideState

/-- Force an actuator to `level` for `timeoutSecs` simulated seconds. -/
def set (s : OverrideState) (id : ActuatorId) (level : F64) (clock : Clock) (timeoutSecs : Nat) :
    OverrideState where
  active := s.active.insert id {
    level := level.clampPct
    createdAtTick := clock.tickIndex
    expiresAtTick := saturatingAdd clock.tickIndex timeoutSecs }

def clear (s : OverrideState) (id : ActuatorId) : OverrideState := ⟨s.active.erase id⟩

/-- Drop the overrides whose deadline has passed. -/
def expire (s : OverrideState) (clock : Clock) : OverrideState :=
  ⟨s.active.filter fun _ ov => clock.tickIndex < ov.expiresAtTick⟩

/-- Replace the level of every overridden actuator. -/
def apply (s : OverrideState) (cmd : Commands) : Commands :=
  s.active.toList.foldl (fun cmd (id, ov) => cmd.set id ov.level) cmd

/-- Every active level is a percentage. -/
def LevelsPct (s : OverrideState) : Prop :=
  ∀ (id : ActuatorId) (ov : Override), s.active[id]? = some ov → ov.level.IsPct

theorem levelsPct_empty : LevelsPct {} := by
  intro id ov h
  rw [TreeMap.getElem?_emptyc] at h
  cases h

theorem LevelsPct.set {s : OverrideState} (hs : s.LevelsPct) {level : F64} (hl : level ≠ .nan)
    (id : ActuatorId) (clock : Clock) (timeoutSecs : Nat) :
    (s.set id level clock timeoutSecs).LevelsPct := by
  intro i ov h
  rw [OverrideState.set, TreeMap.getElem?_insert] at h
  split at h
  · obtain rfl := Option.some.inj h
    exact F64.isPct_clampPct hl
  · exact hs i ov h

theorem LevelsPct.clear {s : OverrideState} (hs : s.LevelsPct) (id : ActuatorId) :
    (s.clear id).LevelsPct := by
  intro i ov h
  rw [OverrideState.clear, TreeMap.getElem?_erase] at h
  split at h
  · cases h
  · exact hs i ov h

theorem LevelsPct.expire {s : OverrideState} (hs : s.LevelsPct) (clock : Clock) :
    (s.expire clock).LevelsPct := by
  intro i ov h
  rw [OverrideState.expire, TreeMap.getElem?_filter', Option.filter_eq_some_iff] at h
  exact hs i ov h.1

/-- Applying overrides leaves a level a percentage. -/
theorem LevelsPct.get_apply {s : OverrideState} (hs : s.LevelsPct) {cmd : Commands}
    {id : ActuatorId} (hc : (cmd.get id).IsPct) : ((s.apply cmd).get id).IsPct := by
  have step : ∀ (l : List (ActuatorId × Override)) (c : Commands),
      (∀ p ∈ l, p.2.level.IsPct) → (c.get id).IsPct →
        ((l.foldl (fun cmd (id, ov) => cmd.set id ov.level) c).get id).IsPct := by
    intro l
    induction l with
    | nil =>
      intro c _ hc
      exact hc
    | cons p l ih =>
      intro c hl hc
      refine ih _ (fun q hq => hl q (List.mem_cons_of_mem p hq)) ?_
      change ((c.set p.1 p.2.level).get id).IsPct
      rw [Commands.get_set]
      split
      · have hp := hl p (List.mem_cons_self ..)
        rwa [hp.clampPct_eq]
      · exact hc
  refine step _ _ (fun p hp => hs p.1 p.2 ?_) hc
  exact TreeMap.mem_toList_iff_getElem?_eq_some.1 hp

/-- An actuator without an override keeps its level. -/
theorem get_apply_of_not_mem {s : OverrideState} {cmd : Commands} {id : ActuatorId}
    (h : id ∉ s.active) : (s.apply cmd).get id = cmd.get id := by
  refine List.foldlRecOn s.active.toList _
    (motive := fun c : Commands => c.get id = cmd.get id) rfl fun c hc p hp => ?_
  have hmem : p.1 ∈ s.active := TreeMap.mem_keys.1 (TreeMap.map_fst_toList_eq_keys ▸
    List.mem_map_of_mem hp)
  have hne : p.1 ≠ id := fun heq => h (heq ▸ hmem)
  exact (Commands.get_set_of_ne hne).trans hc

/-- An override replaces the level of its actuator. -/
theorem get_apply_of_some {s : OverrideState} {cmd : Commands} {id : ActuatorId} {ov : Override}
    (h : s.active[id]? = some ov) : (s.apply cmd).get id = ov.level.clampPct := by
  have step : ∀ (l : List (ActuatorId × Override)) (c : Commands),
      (∀ p ∈ l, p.1 = id → p.2 = ov) →
      ((id, ov) ∈ l ∨ c.get id = ov.level.clampPct) →
        (l.foldl (fun cmd (id, ov) => cmd.set id ov.level) c).get id = ov.level.clampPct := by
    intro l
    induction l with
    | nil => exact fun c _ hc => hc.resolve_left List.not_mem_nil
    | cons p l ih =>
      intro c hl hc
      refine ih _ (fun q hq => hl q (List.mem_cons_of_mem p hq)) ?_
      change _ ∨ (c.set p.1 p.2.level).get id = _
      by_cases hp : p.1 = id
      · rw [hp, Commands.get_set_self, hl p List.mem_cons_self hp]
        exact Or.inr rfl
      · rw [Commands.get_set_of_ne hp]
        refine hc.imp_left fun hmem => (List.mem_cons.1 hmem).resolve_left ?_
        rintro rfl
        exact hp rfl
  refine step _ _ (fun p hp hid => ?_) (Or.inl (TreeMap.mem_toList_iff_getElem?_eq_some.2 h))
  have hget := TreeMap.mem_toList_iff_getElem?_eq_some.1 hp
  rw [hid, h] at hget
  exact (Option.some.inj hget).symm

/-- Applying overrides keeps the addresses of a command. -/
theorem mem_ids_apply {s : OverrideState} {cmd : Commands} {id : ActuatorId} (h : id ∈ cmd.ids) :
    id ∈ (s.apply cmd).ids := by
  unfold apply
  generalize s.active.toList = l
  induction l generalizing cmd with
  | nil => exact h
  | cons p l ih => exact ih (Commands.mem_ids_set.2 (Or.inr h))

end OverrideState

end Greenhouse.Controller
