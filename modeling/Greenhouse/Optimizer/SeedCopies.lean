import Greenhouse.Optimizer.RebuiltLight
import Greenhouse.Optimizer.TwinRuns
import Greenhouse.Process.Heap

/-!
# The seed and its copies

A twin state is an object whose climate, soil and valves are objects too, and the sub-steps write
to the dictionaries in place. `simulate` copies its seed first, so what it writes to is its own.

* `stepIn_owned`: a sub-step writes to the copies, and is the sub-step of their contents.
* `simulateIn_spec`: the simulation of objects is that of their contents, and keeps every object.
* `twin_stays`: what a trajectory looks like, when there is one, and what becomes of the seed.
-/

namespace Greenhouse.Optimizer.Twin

open Greenhouse.Platform Greenhouse.Process

/-! ## Objects -/

/-- The object of a state: it refers to its climate, soil and valves. -/
structure Refs where
  climate : Addr
  soil : Addr
  valveOpen : Addr
  lastCloseElapsedS : Addr
  dliMol : ℚ
  clock : Moment
  dayOrdinal : Int
  elapsedS : ℚ

inductive Obj where
  | state (refs : Refs)
  | climate (values : Fin 4 → ℚ)
  | numbers (values : Dict ℚ)
  | flags (values : Dict Bool)

/-- The state that an object stands for. -/
def load (h : Heap Obj) (a : Addr) : Option State :=
  match h.get? a with
  | some (.state r) =>
    match h.get? r.climate, h.get? r.soil, h.get? r.valveOpen, h.get? r.lastCloseElapsedS with
    | some (.climate climate), some (.numbers soil), some (.flags valveOpen),
        some (.numbers lastClose) =>
      some ⟨climate, soil, r.dliMol, r.clock, r.dayOrdinal, valveOpen, lastClose, r.elapsedS⟩
    | _, _, _, _ => none
  | _ => none

/-- The objects of a state: its own, and those it refers to. -/
structure Shows (h : Heap Obj) (a : Addr) (r : Refs) (s : State) : Prop where
  state : h.get? a = some (.state r)
  climate : h.get? r.climate = some (.climate s.climate)
  soil : h.get? r.soil = some (.numbers s.soil)
  valveOpen : h.get? r.valveOpen = some (.flags s.valveOpen)
  lastClose : h.get? r.lastCloseElapsedS = some (.numbers s.lastCloseElapsedS)
  scalars : r.dliMol = s.dliMol ∧ r.clock = s.clock ∧ r.dayOrdinal = s.dayOrdinal ∧
    r.elapsedS = s.elapsedS

theorem load_eq_some {h : Heap Obj} {a : Addr} {s : State} :
    load h a = some s ↔ ∃ r, Shows h a r s := by
  constructor
  · intro hload
    unfold load at hload
    split at hload
    · rename_i r hstate
      split at hload
      · rename_i climate soil valveOpen lastClose hclimate hsoil hvalve hlast
        cases hload
        exact ⟨r, hstate, hclimate, hsoil, hvalve, hlast, rfl, rfl, rfl, rfl⟩
      · cases hload
    · cases hload
  · rintro ⟨r, h⟩
    obtain ⟨hdli, hclock, hday, helapsed⟩ := h.scalars
    unfold load
    rw [h.state]
    dsimp only
    rw [h.climate, h.soil, h.valveOpen, h.lastClose]
    dsimp only
    rw [hdli, hclock, hday, helapsed]

/-- What was loaded is there as long as the objects are. -/
theorem load_of_keeps {h h' : Heap Obj} {a : Addr} {s : State} (hload : load h a = some s)
    (hkeeps : Heap.Keeps h.size h h') : load h' a = some s := by
  obtain ⟨r, hr⟩ := load_eq_some.1 hload
  refine load_eq_some.2 ⟨r, ?_, ?_, ?_, ?_, ?_, hr.scalars⟩
  · rw [hkeeps _ (Heap.lt_size hr.state), hr.state]
  · rw [hkeeps _ (Heap.lt_size hr.climate), hr.climate]
  · rw [hkeeps _ (Heap.lt_size hr.soil), hr.soil]
  · rw [hkeeps _ (Heap.lt_size hr.valveOpen), hr.valveOpen]
  · rw [hkeeps _ (Heap.lt_size hr.lastClose), hr.lastClose]

/-! ## The simulation of objects -/

/-- The object of a state, with the addresses of its parts. -/
def State.refs (s : State) (climate soil valveOpen lastCloseElapsedS : Addr) : Refs where
  climate := climate
  soil := soil
  valveOpen := valveOpen
  lastCloseElapsedS := lastCloseElapsedS
  dliMol := s.dliMol
  clock := s.clock
  dayOrdinal := s.dayOrdinal
  elapsedS := s.elapsedS

/-- A state copied with all it refers to, and the address of the copy. -/
def copyState (h : Heap Obj) (s : State) : Heap Obj × Addr :=
  let first := h.size
  (((((h.alloc (.climate s.climate)).alloc (.numbers s.soil)).alloc (.flags s.valveOpen)).alloc
      (.numbers s.lastCloseElapsedS)).alloc
        (.state (s.refs first (first + 1) (first + 2) (first + 3))),
    first + 4)

/-- A state written to an object: its dictionaries in place, and its climate as a new array. -/
def writeState (h : Heap Obj) (a : Addr) (r : Refs) (t : State) : Heap Obj :=
  let written := ((h.set r.soil (.numbers t.soil)).set r.valveOpen (.flags t.valveOpen)).set
    r.lastCloseElapsedS (.numbers t.lastCloseElapsedS)
  (written.alloc (.climate t.climate)).set a
    (.state (t.refs h.size r.soil r.valveOpen r.lastCloseElapsedS))

/-- One sub-step of an object. -/
def stepIn (m : Maths) (params : Params) (setpoints : Setpoints) (a : Addr) (dtSeconds : ℚ)
    (h : Heap Obj) : Option (Heap Obj × Bool) :=
  match h.get? a, load h a with
  | some (.state r), some s =>
    match step m params setpoints dtSeconds s with
    | none => none
    | some (t, ended) => some (writeState h a r t, ended)
  | _, _ => none

def pointIn (m : Maths) (a : Addr) (h : Heap Obj) : Option PredictedPoint :=
  (load h a).bind (point m)

def simulateIn (m : Maths) (params : Params) (setpoints : Setpoints) (h : Heap Obj) (seed : Addr)
    (stop : Moment) (maxStepMinutes outputIntervalMinutes : ℚ) : Option (Heap Obj × Result) :=
  match load h seed with
  | none => none
  | some s =>
    let (copied, a) := copyState h s
    rollForward (stepIn m params setpoints a) (pointIn m a) params copied s.clock s.climate stop
      maxStepMinutes outputIntervalMinutes

/-! ## What is written -/

/-- The object at an address shows a state, and so do parts that are its own: none of them is
below the limit, and the heap below it is as it was. -/
structure Owned (limit : Addr) (before : Heap Obj) (a : Addr) (h : Heap Obj) (s : State) : Prop where
  kept : Heap.Keeps limit before h
  own : ∃ r, Shows h a r s ∧ limit ≤ a ∧ limit ≤ r.soil ∧ limit ≤ r.valveOpen ∧
    limit ≤ r.lastCloseElapsedS ∧
    [r.climate, r.soil, r.valveOpen, r.lastCloseElapsedS, a].Nodup

section

variable {m : Maths} {params : Params} {setpoints : Setpoints} {dt : ℚ} {h before : Heap Obj}
  {a limit : Addr} {s : State}

theorem owned_copyState (h : Heap Obj) (s : State) :
    Owned h.size h (copyState h s).2 (copyState h s).1 s := by
  constructor
  · have hsize : ∀ n, h.size ≤ h.size + n := fun n => Nat.le_add_right _ n
    refine Heap.Keeps.alloc (Heap.Keeps.alloc (Heap.Keeps.alloc (Heap.Keeps.alloc
      (Heap.Keeps.alloc (Heap.Keeps.refl _ _) ?_ _) ?_ _) ?_ _) ?_ _) ?_ _
    all_goals simp [Nat.add_assoc]
  · refine ⟨s.refs h.size (h.size + 1) (h.size + 2) (h.size + 3),
      ⟨?_, ?_, ?_, ?_, ?_, rfl, rfl, rfl, rfl⟩, ?_⟩
    all_goals simp [copyState, State.refs, Heap.get?_alloc, Nat.add_assoc]

/-- A state written to an object is shown by it, and nothing that is not its own is written. -/
theorem owned_writeState {r : Refs} (hkept : Heap.Keeps limit before h) (hshows : Shows h a r s)
    (hla : limit ≤ a) (hlsoil : limit ≤ r.soil) (hlvalve : limit ≤ r.valveOpen)
    (hllast : limit ≤ r.lastCloseElapsedS)
    (hnodup : [r.climate, r.soil, r.valveOpen, r.lastCloseElapsedS, a].Nodup) (t : State) :
    Owned limit before a (writeState h a r t) t := by
  have hsize := Heap.lt_size hshows.state
  have hsoil := Heap.lt_size hshows.soil
  have hvalve := Heap.lt_size hshows.valveOpen
  have hlast := Heap.lt_size hshows.lastClose
  simp only [List.nodup_cons, List.mem_cons, List.not_mem_nil, or_false, not_or,
    not_false_eq_true, List.nodup_nil, and_true] at hnodup
  obtain ⟨-, ⟨hsv, hsl, hsa⟩, ⟨hvl, hva⟩, hl⟩ := hnodup
  have hshown : Shows (writeState h a r t) a
      (t.refs h.size r.soil r.valveOpen r.lastCloseElapsedS) t := by
    unfold writeState
    refine ⟨?_, ?_, ?_, ?_, ?_, rfl, rfl, rfl, rfl⟩
    · refine Heap.get?_set_self ?_
      simp only [Heap.size_alloc, Heap.size_set]
      exact Nat.lt_succ_of_lt hsize
    · change Heap.get? _ h.size = _
      rw [Heap.get?_set_of_ne hsize.ne, Heap.get?_alloc, if_pos (by simp)]
    · change Heap.get? _ r.soil = _
      rw [Heap.get?_set_of_ne (Ne.symm hsa), Heap.get?_alloc_of_lt (by simpa using hsoil),
        Heap.get?_set_of_ne (Ne.symm hsl), Heap.get?_set_of_ne (Ne.symm hsv)]
      exact Heap.get?_set_self hsoil
    · change Heap.get? _ r.valveOpen = _
      rw [Heap.get?_set_of_ne (Ne.symm hva), Heap.get?_alloc_of_lt (by simpa using hvalve),
        Heap.get?_set_of_ne (Ne.symm hvl)]
      exact Heap.get?_set_self (by simpa using hvalve)
    · change Heap.get? _ r.lastCloseElapsedS = _
      rw [Heap.get?_set_of_ne (Ne.symm hl), Heap.get?_alloc_of_lt (by simpa using hlast)]
      exact Heap.get?_set_self (by simpa using hlast)
  refine ⟨?_, _, hshown, hla, hlsoil, hlvalve, hllast, ?_⟩
  · refine Heap.Keeps.set (Heap.Keeps.alloc (Heap.Keeps.set (Heap.Keeps.set
      (hkept.set hlsoil _) hlvalve _) hllast _) ?_ _) hla _
    simpa using hla.trans hsize.le
  · simp only [List.nodup_cons, List.mem_cons, List.not_mem_nil, or_false, not_or,
      not_false_eq_true, List.nodup_nil, and_true, State.refs]
    exact ⟨⟨hsoil.ne', hvalve.ne', hlast.ne', hsize.ne'⟩, ⟨hsv, hsl, hsa⟩, ⟨hvl, hva⟩, hl⟩

/-- **A sub-step writes to the copies**, and does to them what it does to their contents. -/
theorem stepIn_owned (hown : Owned limit before a h s) :
    Option.Rel (fun x y => Owned limit before a x.1 y.1 ∧ x.2 = y.2)
      (stepIn m params setpoints a dt h) (step m params setpoints dt s) := by
  obtain ⟨hkept, r, hshows, hla, hlsoil, hlvalve, hllast, hnodup⟩ := hown
  unfold stepIn
  rw [hshows.state, load_eq_some.2 ⟨r, hshows⟩]
  dsimp only
  cases step m params setpoints dt s with
  | none => exact .none
  | some y =>
    exact .some ⟨owned_writeState hkept hshows hla hlsoil hlvalve hllast hnodup y.1, rfl⟩

theorem pointIn_owned (hown : Owned limit before a h s) : pointIn m a h = point m s := by
  obtain ⟨-, r, hshows, -⟩ := hown
  rw [pointIn, load_eq_some.2 ⟨r, hshows⟩, Option.bind_some]

/-- Related steps roll forward to related states and the same trajectory. -/
theorem rollForward_related {σ τ : Type} {R : σ → τ → Prop}
    {step : ℚ → σ → Option (σ × Bool)} {step' : ℚ → τ → Option (τ × Bool)}
    {observe : σ → Option PredictedPoint} {observe' : τ → Option PredictedPoint}
    (hR : ∀ dt, Plant.Related R (Plant.mk (step dt) observe) (Plant.mk (step' dt) observe'))
    {state : σ} {state' : τ} (hs : R state state') (clock : Moment) (climate : Fin 4 → ℚ)
    (stop : Moment) (maxStep output : ℚ) :
    Option.Rel (fun x y => R x.1 y.1 ∧ x.2 = y.2)
      (rollForward step observe params state clock climate stop maxStep output)
      (rollForward step' observe' params state' clock climate stop maxStep output) := by
  unfold rollForward
  rw [show observe state = observe' state' from (hR 0).observe state state' hs]
  cases observe' state' with
  | none => exact .none
  | some first =>
    dsimp only
    split
    · exact .some ⟨hs, rfl⟩
    · split
      · exact .none
      · have hroll := Plant.Related.rollout
          (n := subStepCount (output * 60) (min (maxStep * 60) controlStepCapSeconds))
          (k := blockCount (stop - clock) (output * 60))
          (hR (output * 60 / (subStepCount (output * 60)
            (min (maxStep * 60) controlStepCapSeconds) : ℚ))) hs
        revert hroll
        generalize Plant.rollout (Plant.mk (step _) observe) _ _ _ = x
        generalize Plant.rollout (Plant.mk (step' _) observe') _ _ _ = y
        intro hroll
        cases hroll with
        | none => exact .none
        | some h =>
          obtain ⟨hfinal, hpoints, hhalted⟩ := h
          refine .some ⟨hfinal, ?_⟩
          dsimp only
          rw [hpoints, hhalted]

/-- **The simulation of objects** is that of their contents, and every object that was there
stays as it was. -/
theorem simulateIn_spec {seed : Addr} (hload : load h seed = some s) (stop : Moment)
    (maxStep output : ℚ) :
    Option.Rel (fun x result => Heap.Keeps h.size h x.1 ∧ x.2 = result)
      (simulateIn m params setpoints h seed stop maxStep output)
      (simulate m params setpoints s stop maxStep output) := by
  have hrelated : ∀ dt, Plant.Related (Owned h.size h (copyState h s).2)
      (Plant.mk (stepIn m params setpoints (copyState h s).2 dt) (pointIn m (copyState h s).2))
      (Plant.mk (step m params setpoints dt) (point m)) := fun dt =>
    ⟨fun _ _ hown => stepIn_owned hown, fun _ _ hown => pointIn_owned hown⟩
  have hroll := @rollForward_related params _ _ _ _ _ _ _ hrelated _ _ (owned_copyState h s)
    s.clock s.climate stop maxStep output
  unfold simulateIn simulate
  rw [hload]
  dsimp only
  revert hroll
  generalize rollForward (stepIn m params setpoints _) _ _ _ _ _ _ _ _ = x
  generalize rollForward (step m params setpoints) _ _ _ _ _ _ _ _ = y
  intro hroll
  cases hroll with
  | none => exact .none
  | some h => exact .some ⟨h.1.kept, h.2⟩

/-! ## The twin as a whole -/

/-- **The twin stays in its envelopes.** A trajectory does not diverge, stays inside, covers the
horizon and no more, and counts the light of each day from its midnight; there is one for every
seed whose zones are ready; and the seed, with all it refers to, is as it was. -/
theorem twin_stays (hparams : params.Sound) {stop : Moment} {maxStep output : ℚ}
    (hmax : 0 < maxStep) (hout : 0 < output) (hstop : s.clock < stop) (hs : Inside params s) :
    (∀ result, simulate m params setpoints s stop maxStep output = some result →
      result.diverged = false ∧ StaysInside params result ∧ Covers stop result ∧
        (Dated s → CountsLight m s (output * 60) result)) ∧
    (m.Returns → params.Regular → Ready s →
      ∃ result, simulate m params setpoints s stop maxStep output = some result) ∧
    ∀ (h : Heap Obj) (seed : Addr), load h seed = some s →
      Option.Rel (fun x result => Heap.Keeps h.size h x.1 ∧ load x.1 seed = some s ∧ x.2 = result)
        (simulateIn m params setpoints h seed stop maxStep output)
        (simulate m params setpoints s stop maxStep output) := by
  refine ⟨fun result => simulate_spec hparams hmax hout hstop hs, ?_, ?_⟩
  · exact fun hm hregular hready => simulate_total hm hparams hregular hmax hout hs hready
  · intro h seed hload
    have hspec := @simulateIn_spec m params setpoints h s seed hload stop maxStep output
    revert hspec
    generalize simulateIn m params setpoints h seed stop maxStep output = x
    generalize simulate m params setpoints s stop maxStep output = y
    intro hspec
    cases hspec with
    | none => exact .none
    | some h => exact .some ⟨h.1, load_of_keeps hload h.1, h.2⟩

end

namespace Bench

/-- The functions of the math library near zero. -/
def maths : Maths where
  exp x := some ((1 + x / 1024) ^ 1024)
  npExp x := (1 + x / 1024) ^ 1024
  sin x := x - x ^ 3 / 6 + x ^ 5 / 120 - x ^ 7 / 5040
  cos x := 1 - x ^ 2 / 2 + x ^ 4 / 24 - x ^ 6 / 720
  pi := 355 / 113

/-- A bench that is watered when it is dry. -/
def bench : ZoneTargets where
  zoneId := "bench-a"
  moistureLowThreshold := 1 / 4
  moistureHighThreshold := 2 / 5
  drainPeriodSecs := 600
  schedule := "06:00,18:00"
  slug := by decide
  low := by decide +kernel
  high := by decide +kernel
  drain := by decide
  times := by decide

def targets : Setpoints :=
  { Optimizer.Bench.targets with zones := [bench] }

/-- A cool night, half an hour before midnight, with the bench dry and its valve shut. -/
def night : State where
  climate := ![17, 70, 450, 0]
  soil := fromKeys [bench.zoneId] (1 / 5)
  dliMol := 15
  clock := 86400 - 1800
  dayOrdinal := 0
  valveOpen := fromKeys [bench.zoneId] false
  lastCloseElapsedS := fromKeys [bench.zoneId] (-10 ^ 18)

theorem sound_params : params.Sound where
  envelope := by decide
  par := by decide
  soilEnvelope := by decide
  tau := by decide
  soilTau := by decide
  relaxes := by decide +kernel

end Bench

/-- Two hours across midnight, with a dry bench. -/
theorem twin_stays_night :
    ∃ result, simulate Bench.maths Bench.params Bench.targets Bench.night
      (Bench.night.clock + 7200) 1 60 = some result ∧ result.diverged = false ∧
        StaysInside Bench.params result ∧ Covers (Bench.night.clock + 7200) result ∧
        CountsLight Bench.maths Bench.night (60 * 60) result := by
  have hclimate : ∀ row, Bench.params.envMin row ≤ Bench.night.climate row ∧
      Bench.night.climate row ≤ Bench.params.envMax row := by decide
  have hsoil : SoilInside Bench.params Bench.night.soil := by
    intro zoneId v hv
    obtain ⟨-, rfl⟩ := fromKeys_eq_some.1 hv
    decide +kernel
  have hready : Ready Bench.night := by
    intro zoneId v hv
    obtain ⟨hzone, -⟩ := fromKeys_eq_some.1 hv
    exact .inr ⟨-10 ^ 18, fromKeys_eq_some.2 ⟨hzone, rfl⟩⟩
  obtain ⟨hspec, htotal, -⟩ := @twin_stays Bench.maths Bench.params Bench.targets
    Bench.night Bench.sound_params (Bench.night.clock + 7200) 1 60 (by norm_num) (by norm_num)
    (lt_add_of_pos_right _ (by norm_num)) ⟨hclimate, hsoil⟩
  obtain ⟨result, hresult⟩ := htotal (fun x _ => ⟨_, rfl⟩)
    ⟨by decide +kernel, by decide +kernel⟩ hready
  obtain ⟨hdiverged, hstays, hcovers, hlight⟩ := hspec result hresult
  exact ⟨result, hresult, hdiverged, hstays, hcovers, hlight (by unfold Dated; decide +kernel)⟩

end Greenhouse.Optimizer.Twin
