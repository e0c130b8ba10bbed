import Greenhouse.Controller.Loops

/-!
# Actuator constraints

Stage six of a tick: `shape` bends the command of one actuator to its dwell times and its
rate limit, and `ConstraintState.apply` shapes every actuator of a command. The rate
limit always applies; the dwell is waived for an actuator on a safe move.

* `shapeLevel_off`, `shapeLevel_full`: a waived move to `0` or `100` goes as far as the
  rate allows.
* `shapeLevel_isPct`: shaping keeps percentages.
* `apply_shapes`: the stage shapes each actuator on its own.
-/

namespace Greenhouse.Controller

open Greenhouse.Numeric Std

/-- The last applied level of an actuator and how long it has been on, or off. -/
structure Applied where
  level : F64 := 0
  ticksInState : Nat := 0
  initialized : Bool := false

/-- Hold the previous state while its minimum time has not elapsed. -/
def dwell (prev : Applied) (out : F64) (c : Constraints) (waiveDwell : Bool) : F64 :=
  let prevOn := (0 : F64) < prev.level
  let wantOn := (0 : F64) < out
  if waiveDwell = false ∧ prev.initialized = true then
    if prevOn ∧ ¬ wantOn then
      match c.minOnSecs.or c.minOpenSecs with
      | some min => if prev.ticksInState < min then prev.level else out
      | none => out
    else if ¬ prevOn ∧ wantOn then
      match c.minOffSecs with
      | some min => if prev.ticksInState < min then 0 else out
      | none => out
    else out
  else out

/-- Move from the previous level towards `out`, by at most the rate. -/
def rateLimit (prev out : F64) (rate : Option F64) : Option F64 :=
  match rate with
  | some rate =>
    let maxStep := rate * F64.ofNat dtSecs
    ((out - prev).clamp? (-maxStep) maxStep).map fun delta => prev + delta
  | none => some out

/-- The level an actuator is shaped to. -/
def shapeLevel (prev : Applied) (desired : F64) (c : Constraints) (waiveDwell : Bool) :
    Option F64 :=
  (rateLimit prev.level (dwell prev desired.clampPct c waiveDwell) c.rate).map F64.clampPct

/-- The state an actuator is in after a tick at level `out`. -/
def Applied.next (prev : Applied) (out : F64) : Applied where
  level := out
  ticksInState :=
    if prev.initialized ∧ decide ((0 : F64) < out) = decide ((0 : F64) < prev.level) then
      prev.ticksInState + 1
    else 0
  initialized := true

/-- Shape one actuator's command, updating its applied state. -/
def shape (prev : Applied) (desired : F64) (c : Constraints) (waiveDwell : Bool) :
    Option (Applied × F64) :=
  (shapeLevel prev desired c waiveDwell).map fun out => (prev.next out, out)

structure ConstraintState where
  applied : TreeMap ActuatorId Applied := ∅
  constraints : TreeMap Actuator Constraints

namespace ConstraintState

def new (config : Config) : ConstraintState where
  constraints := config.hal.actuators.foldl (fun m a => m.insert a.actuator a.constraints) ∅

def constraintsFor (s : ConstraintState) (id : ActuatorId) : Constraints :=
  let actuator := match id with
    | .house a => a
    | .valve _ => .irrigationValve
  s.constraints.getD actuator {}

/-- Shape the command of one actuator, in place. -/
def applyOne (waiveDwell : TreeSet ActuatorId) (acc : ConstraintState × Commands)
    (id : ActuatorId) : Option (ConstraintState × Commands) := do
  let (s, cmd) := acc
  let (applied, out) ← shape (s.applied.getD id {}) (cmd.get id) (s.constraintsFor id)
    (waiveDwell.contains id)
  return ({ s with applied := s.applied.insert id applied }, cmd.set id out)

/-- Shape every command; the dwell is waived for the actuators in `waiveDwell`. -/
def apply (s : ConstraintState) (cmd : Commands) (waiveDwell : TreeSet ActuatorId) :
    Option (ConstraintState × Commands) :=
  cmd.ids.foldlM (applyOne waiveDwell) (s, cmd)

end ConstraintState

/-! ## One actuator -/

theorem dwell_waived (prev : Applied) (out : F64) (c : Constraints) :
    dwell prev out c true = out := by
  simp [dwell]

/-- The dwell picks the wanted level, the previous one, or `0`. -/
theorem dwell_cases (prev : Applied) (out : F64) (c : Constraints) (waiveDwell : Bool) :
    dwell prev out c waiveDwell = out ∨ dwell prev out c waiveDwell = prev.level ∨
      dwell prev out c waiveDwell = 0 := by
  unfold dwell
  dsimp only
  repeat' split
  all_goals simp

theorem rateLimit_fin {p o r : ℚ} (hr : 0 < r) :
    rateLimit (.fin p) (.fin o) (some (.fin r)) =
      some (.fin (p + min (max (o - p) (-r)) r)) := by
  have hstep : F64.fin r * F64.ofNat dtSecs = .fin r := by
    rw [F64.ofNat, F64.fin_mul_fin]
    norm_num [dtSecs]
  simp only [rateLimit, hstep, F64.fin_sub_fin, F64.neg_fin]
  rw [F64.clamp?_eq_some.2 ⟨F64.fin_le_fin.2 (by linarith), F64.clampBody_fin ..⟩]
  rfl

theorem step_off {p r : ℚ} (h0 : 0 ≤ p) (h1 : p ≤ 100) (hr : 0 < r) :
    min (max (p + min (max (0 - p) (-r)) r) 0) 100 = max 0 (p - r) := by
  simp only [min_def, max_def]
  split_ifs <;> linarith

theorem step_full {p r : ℚ} (h0 : 0 ≤ p) (h1 : p ≤ 100) (hr : 0 < r) :
    min (max (p + min (max (100 - p) (-r)) r) 0) 100 = min 100 (p + r) := by
  simp only [min_def, max_def]
  split_ifs <;> linarith

/-- The level one tick towards off reaches. -/
def Constraints.towardOff (c : Constraints) (prev : F64) : F64 :=
  match c.rate with
  | some rate => F64.maxNum 0 (prev - rate)
  | none => 0

/-- The level one tick towards full reaches. -/
def Constraints.towardFull (c : Constraints) (prev : F64) : F64 :=
  match c.rate with
  | some rate => F64.minNum 100 (prev + rate)
  | none => 100

/-- **A waived move to off goes as far as the rate allows.** -/
theorem shapeLevel_off {prev : Applied} {c : Constraints} (hc : c.RatesPositive)
    (hp : prev.level.IsPct ∨ c.rate = none) :
    shapeLevel prev 0 c true = some (c.towardOff prev.level) := by
  rw [shapeLevel, F64.clampPct_zero, dwell_waived, Constraints.towardOff]
  cases hrate : c.rate with
  | none => simp [rateLimit]
  | some rate =>
    obtain ⟨r, rfl, hr⟩ := hc rate hrate
    obtain ⟨p, hlevel, h0, h1⟩ := hp.resolve_right (by rw [hrate]; exact Option.some_ne_none _)
    rw [hlevel, F64.zero_eq, rateLimit_fin hr, Option.map_some, F64.clampPct_fin,
      step_off h0 h1 hr]
    simp only [F64.fin_sub_fin, F64.maxNum_fin]

/-- **A waived move to full goes as far as the rate allows.** -/
theorem shapeLevel_full {prev : Applied} {c : Constraints} (hc : c.RatesPositive)
    (hp : prev.level.IsPct ∨ c.rate = none) :
    shapeLevel prev 100 c true = some (c.towardFull prev.level) := by
  rw [shapeLevel, F64.clampPct_hundred, dwell_waived, Constraints.towardFull]
  cases hrate : c.rate with
  | none => simp [rateLimit]
  | some rate =>
    obtain ⟨r, rfl, hr⟩ := hc rate hrate
    obtain ⟨p, hlevel, h0, h1⟩ := hp.resolve_right (by rw [hrate]; exact Option.some_ne_none _)
    rw [hlevel, F64.hundred_eq, rateLimit_fin hr, Option.map_some, F64.clampPct_fin,
      step_full h0 h1 hr]
    simp only [F64.fin_add_fin, F64.minNum_fin]

/-- In one tick, off and full are told apart. -/
theorem towardOff_ne_towardFull {c : Constraints} (hc : c.RatesPositive) {v : F64}
    (hv : v.IsPct ∨ c.rate = none) : c.towardOff v ≠ c.towardFull v := by
  unfold Constraints.towardOff Constraints.towardFull
  cases hrate : c.rate with
  | none => exact F64.zero_ne_hundred
  | some rate =>
    obtain ⟨q, rfl, hq⟩ := hc rate hrate
    obtain ⟨p, rfl, h0, h1⟩ := hv.resolve_right (by rw [hrate]; exact Option.some_ne_none _)
    simp only [F64.zero_eq, F64.hundred_eq, F64.fin_sub_fin, F64.fin_add_fin, F64.maxNum_fin,
      F64.minNum_fin]
    intro heq
    have hlt : max 0 (p - q) < min 100 (p + q) :=
      max_lt (lt_min (by norm_num) (by linarith)) (lt_min (by linarith) (by linarith))
    exact hlt.ne (F64.fin.inj heq)

/-- A rate-limited actuator whose level is not a number stays so. -/
theorem shapeLevel_nan {prev : Applied} {desired out : F64} {c : Constraints} {rate : F64}
    {waiveDwell : Bool} (hp : prev.level = .nan) (hrate : c.rate = some rate)
    (h : shapeLevel prev desired c waiveDwell = some out) : out = .nan := by
  rw [shapeLevel, hp, hrate, rateLimit] at h
  simp only [F64.sub_nan, F64.clamp?, F64.clampBody_nan] at h
  split at h
  · simpa using h.symm
  · cases h

/-- A positive rate limit never panics on numbers. -/
theorem rateLimit_isSome {prev out : F64} {c : Constraints} (hc : c.RatesPositive) :
    (rateLimit prev out c.rate).isSome = true := by
  cases hrate : c.rate with
  | none => rfl
  | some rate =>
    obtain ⟨r, rfl, hr⟩ := hc rate hrate
    have hle : -(F64.fin r * F64.ofNat dtSecs) ≤ F64.fin r * F64.ofNat dtSecs := by
      rw [F64.ofNat, F64.fin_mul_fin, F64.neg_fin, F64.fin_le_fin]
      norm_num [dtSecs]
      linarith
    simp only [rateLimit, F64.clamp?, if_pos hle, Option.map_some, Option.isSome_some]

theorem shape_isSome {prev : Applied} {desired : F64} {c : Constraints} {waiveDwell : Bool}
    (hc : c.RatesPositive) : (shape prev desired c waiveDwell).isSome = true := by
  simp only [shape, shapeLevel, Option.isSome_map, rateLimit_isSome hc]

/-- **Shaping keeps percentages.** -/
theorem shapeLevel_isPct {prev : Applied} {desired : F64} {c : Constraints} {waiveDwell : Bool}
    {out : F64} (hc : c.RatesPositive) (hp : prev.level.IsPct) (hd : desired.IsPct)
    (h : shapeLevel prev desired c waiveDwell = some out) : out.IsPct := by
  have hdwell : (dwell prev desired.clampPct c waiveDwell).IsPct := by
    rcases dwell_cases prev desired.clampPct c waiveDwell with heq | heq | heq <;> rw [heq]
    · rwa [hd.clampPct_eq]
    · exact hp
    · exact F64.isPct_zero
  obtain ⟨lim, hlim, rfl⟩ := Option.map_eq_some_iff.1 h
  refine F64.isPct_clampPct ?_
  obtain ⟨o, ho, -⟩ := hdwell
  obtain ⟨p, hlevel, -⟩ := hp
  rw [ho, hlevel] at hlim
  cases hrate : c.rate with
  | none =>
    rw [hrate] at hlim
    obtain rfl := Option.some.inj hlim
    exact F64.noConfusion
  | some rate =>
    obtain ⟨r, rfl, hr⟩ := hc rate hrate
    rw [hrate, rateLimit_fin hr] at hlim
    obtain rfl := Option.some.inj hlim
    exact F64.noConfusion

theorem shape_eq_some {prev next : Applied} {desired out : F64} {c : Constraints}
    {waiveDwell : Bool} (h : shape prev desired c waiveDwell = some (next, out)) :
    shapeLevel prev desired c waiveDwell = some out ∧ next = prev.next out ∧
      out.clampPct = out := by
  obtain ⟨o, ho, heq⟩ := Option.map_eq_some_iff.1 h
  obtain ⟨rfl, rfl⟩ := Prod.mk.inj heq
  refine ⟨ho, rfl, ?_⟩
  obtain ⟨lim, -, rfl⟩ := Option.map_eq_some_iff.1 ho
  exact F64.clampPct_idem lim

/-! ## The stage -/

namespace ConstraintState

/-- Every rate of the stage is a positive number. -/
def RatesPositive (s : ConstraintState) : Prop := ∀ id, (s.constraintsFor id).RatesPositive

/-- The constraints of an accepted configuration have positive rates. -/
theorem ratesPositive_new {cfg : Config} (h : cfg.Valid) : (new cfg).RatesPositive := by
  have step : ∀ (l : List ActuatorModel) (m : TreeMap Actuator Constraints),
      (∀ a ∈ l, a.constraints.RatesPositive) →
      (∀ a : Actuator, (m.getD a {}).RatesPositive) →
      ∀ a : Actuator, ((l.foldl (fun m a => m.insert a.actuator a.constraints) m).getD a
        {}).RatesPositive := by
    intro l
    induction l with
    | nil => exact fun m _ hm => hm
    | cons b l ih =>
      intro m hl hm
      refine ih _ (fun a ha => hl a (List.mem_cons_of_mem b ha)) fun a => ?_
      rw [TreeMap.getD_insert]
      split
      · exact hl b (List.mem_cons_self ..)
      · exact hm a
  intro id
  refine step _ _ h.rates (fun a => ?_) _
  rw [TreeMap.getD_emptyc]
  exact ratesPositive_default

/-- `acc'` comes from `acc` by shaping the actuators of `l`, each on its own. -/
structure Shapes (waiveDwell : TreeSet ActuatorId) (l : List ActuatorId)
    (acc acc' : ConstraintState × Commands) : Prop where
  constraints : acc'.1.constraints = acc.1.constraints
  shaped : ∀ id ∈ l,
    shape (acc.1.applied.getD id {}) (acc.2.get id) (acc.1.constraintsFor id)
      (waiveDwell.contains id) = some (acc'.1.applied.getD id {}, acc'.2.get id)
  kept : ∀ id ∉ l,
    acc'.1.applied.getD id {} = acc.1.applied.getD id {} ∧ acc'.2.get id = acc.2.get id

theorem getD_insert_applied {m : TreeMap ActuatorId Applied} {i id : ActuatorId} {a : Applied} :
    (m.insert i a).getD id {} = if i = id then a else m.getD id {} := by
  rw [TreeMap.getD_insert]
  simp only [LawfulEqOrd.compare_eq_iff_eq]

theorem applyOne_shapes {waiveDwell : TreeSet ActuatorId} {acc acc' : ConstraintState × Commands}
    {i : ActuatorId} (h : applyOne waiveDwell acc i = some acc') :
    Shapes waiveDwell [i] acc acc' := by
  obtain ⟨⟨next, out⟩, hshape, heq⟩ := Option.bind_eq_some_iff.1 h
  obtain rfl := Option.some.inj heq
  have hclamp := (shape_eq_some hshape).2.2
  refine ⟨rfl, fun id hid => ?_, fun id hid => ?_⟩
  · obtain rfl := List.mem_singleton.1 hid
    rw [hshape, getD_insert_applied, if_pos rfl, Commands.get_set_self, hclamp]
  · have hne : i ≠ id := fun heq => hid (List.mem_singleton.2 heq.symm)
    exact ⟨getD_insert_applied.trans (if_neg hne), Commands.get_set_of_ne hne⟩

theorem Shapes.cons {waiveDwell : TreeSet ActuatorId} {acc acc' acc'' : ConstraintState × Commands}
    {i : ActuatorId} {l : List ActuatorId} (hi : i ∉ l) (h : Shapes waiveDwell [i] acc acc')
    (hl : Shapes waiveDwell l acc' acc'') : Shapes waiveDwell (i :: l) acc acc'' := by
  have hfor : ∀ id, acc'.1.constraintsFor id = acc.1.constraintsFor id := by
    intro id
    simp only [constraintsFor, h.constraints]
  refine ⟨hl.constraints.trans h.constraints, fun id hid => ?_, fun id hid => ?_⟩
  · rcases List.mem_cons.1 hid with rfl | hid
    · rw [(hl.kept id hi).1, (hl.kept id hi).2]
      exact h.shaped id (List.mem_singleton_self id)
    · have hne : id ∉ [i] := fun hmem => hi (List.mem_singleton.1 hmem ▸ hid)
      rw [← (h.kept id hne).1, ← (h.kept id hne).2, ← hfor id]
      exact hl.shaped id hid
  · have hnot := not_or.1 (List.mem_cons.not.1 hid)
    have hne : id ∉ [i] := fun hmem => hnot.1 (List.mem_singleton.1 hmem)
    exact ⟨(hl.kept id hnot.2).1.trans (h.kept id hne).1,
      (hl.kept id hnot.2).2.trans (h.kept id hne).2⟩

theorem foldlM_applyOne_shapes {waiveDwell : TreeSet ActuatorId} {l : List ActuatorId} :
    ∀ {acc acc' : ConstraintState × Commands}, l.Nodup →
      l.foldlM (applyOne waiveDwell) acc = some acc' → Shapes waiveDwell l acc acc' := by
  induction l with
  | nil =>
    intro acc acc' _ h
    obtain rfl := Option.some.inj h
    exact ⟨rfl, fun id hid => absurd hid List.not_mem_nil, fun id _ => ⟨rfl, rfl⟩⟩
  | cons i l ih =>
    intro acc acc'' hl h
    obtain ⟨hi, hl⟩ := List.nodup_cons.1 hl
    rw [List.foldlM_cons] at h
    obtain ⟨acc', hone, hrest⟩ := Option.bind_eq_some_iff.1 h
    exact (applyOne_shapes hone).cons hi (ih hl hrest)

/-- **The stage shapes each actuator of the command on its own.** -/
theorem apply_shapes {s s' : ConstraintState} {cmd cmd' : Commands}
    {waiveDwell : TreeSet ActuatorId} (h : s.apply cmd waiveDwell = some (s', cmd')) :
    Shapes waiveDwell cmd.ids (s, cmd) (s', cmd') :=
  foldlM_applyOne_shapes cmd.nodup_ids h

/-- The constraints let every command through. -/
theorem apply_isSome {s : ConstraintState} {cmd : Commands} (h : s.RatesPositive)
    (waiveDwell : TreeSet ActuatorId) : (s.apply cmd waiveDwell).isSome = true := by
  have step : ∀ (l : List ActuatorId) (acc : ConstraintState × Commands),
      acc.1.RatesPositive → (l.foldlM (applyOne waiveDwell) acc).isSome = true := by
    intro l
    induction l with
    | nil => exact fun acc _ => rfl
    | cons i l ih =>
      intro acc hacc
      have hsome : (shape (acc.1.applied.getD i {}) (acc.2.get i) (acc.1.constraintsFor i)
          (waiveDwell.contains i)).isSome = true := shape_isSome (hacc i)
      obtain ⟨⟨next, out⟩, hshape⟩ := Option.isSome_iff_exists.1 hsome
      have hone : applyOne waiveDwell acc i =
          some ({ acc.1 with applied := acc.1.applied.insert i next }, acc.2.set i out) :=
        Option.bind_eq_some_iff.2 ⟨_, hshape, rfl⟩
      rw [List.foldlM_cons, hone]
      exact ih _ hacc
  exact step _ _ h

end ConstraintState

end Greenhouse.Controller
