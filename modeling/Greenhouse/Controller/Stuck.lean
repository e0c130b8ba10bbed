import Greenhouse.Controller.FaultSources
import Greenhouse.Controller.Session
import Greenhouse.Controller.Bench

/-!
# The stuck flag over whole runs

A disabled actuator is sent `0` but judged against the level intended for it. On a tick on
which it is disabled and its readback is away from that level it is `Withheld`; its stuck
count goes up although it does what it is told.

* `stuck_iff`: an actuator whose readback tracks what is committed for it is reported stuck
  exactly after the window of withheld ticks. `false_alarm` is such a run.
* `recovered_iff`: an actuator disabled as stuck whose readback tracks for the window is
  disabled as stuck no longer exactly when it was not withheld throughout. `locked_out` is a
  run in which it was.
-/

namespace Greenhouse.Controller

open Greenhouse.Numeric Greenhouse.Process Std

variable {H : Type}

/-! ## The stuck count of one tick -/

namespace HealthState

variable {cfg : Sensing} {prev : Commands} {observed : Observed} {id : ActuatorId}

theorem stuckTicks_foldl_monitorStuck {l : List ActuatorId} :
    ∀ {m : Monitored}, l.Nodup →
      (l.foldl (monitorStuck cfg prev observed) m).state.stuckTicks.getD id 0 =
        if id ∈ l then m.state.stuckCount cfg prev observed id
        else m.state.stuckTicks.getD id 0 := by
  induction l with
  | nil => exact fun _ => rfl
  | cons i l ih =>
    intro m hl
    obtain ⟨hi, hl⟩ := List.nodup_cons.1 hl
    have hself : (monitorStuck cfg prev observed m i).state.stuckTicks.getD id 0 =
        if i = id then m.state.stuckCount cfg prev observed i
        else m.state.stuckTicks.getD id 0 := by
      have hget : (m.state.stuckTicks.insert i (m.state.stuckCount cfg prev observed i)).getD id 0 =
          if i = id then m.state.stuckCount cfg prev observed i
          else m.state.stuckTicks.getD id 0 := by
        rw [TreeMap.getD_insert]
        simp only [LawfulEqOrd.compare_eq_iff_eq]
      rw [monitorStuck_eq]
      dsimp only
      split <;> exact hget
    rw [List.foldl_cons, ih hl, hself]
    by_cases h : i = id
    · subst h
      simp [hi]
    · rw [stuckCount_monitorStuck h]
      simp [h, Ne.symm h]

theorem stuckTicks_monitorValve (m : Monitored) (reading : Slug × Option F64) :
    (monitorValve cfg prev m reading).state.stuckTicks = m.state.stuckTicks := by
  obtain ⟨zone, _ | soil⟩ := reading
  · rfl
  · rw [monitorValve_eq]
    dsimp only
    split <;> rfl

/-- The check of a push actuator keeps the stuck counts, and what is disabled already. -/
theorem monitorHouse_keeps (m : Monitored) (desc : HouseNoResponse) :
    (monitorHouse cfg prev m desc).state.stuckTicks = m.state.stuckTicks ∧
      (id ∈ m.state.disabled → id ∈ (monitorHouse cfg prev m desc).state.disabled) := by
  unfold monitorHouse
  dsimp only
  split
  · split
    · split
      · exact ⟨rfl, fun h => h⟩
      · split
        · exact ⟨rfl, fun h => h⟩
        · split
          · exact ⟨rfl, fun h => mem_disable.2 (Or.inr h)⟩
          · exact ⟨rfl, fun h => h⟩
    · exact ⟨rfl, fun h => h⟩
  · exact ⟨rfl, fun h => h⟩

variable {s : HealthState} {trusted : TrustedState} {resolved : ResolvedSetpoints}

/-- The stuck count after a tick: counted on for an actuator of the readback, else kept. -/
theorem stuckTicks_monitor :
    (s.monitor (some prev) observed trusted resolved cfg).1.stuckTicks.getD id 0 =
      if id ∈ observed.ids then s.stuckCount cfg prev observed id
      else s.stuckTicks.getD id 0 := by
  have hvalves : ∀ m : Monitored,
      (trusted.soilMoisture.toList.foldl (monitorValve cfg prev) m).state.stuckTicks =
        m.state.stuckTicks := by
    intro m
    exact List.foldlRecOn trusted.soilMoisture.toList (monitorValve cfg prev)
      (motive := fun m' : Monitored => m'.state.stuckTicks = m.state.stuckTicks) rfl
      fun m' hm r _ => (stuckTicks_monitorValve m' r).trans hm
  have hhouse : ∀ m : Monitored,
      ((houseNoResponses trusted resolved).foldl (monitorHouse cfg prev) m).state.stuckTicks =
        m.state.stuckTicks := by
    intro m
    exact List.foldlRecOn (houseNoResponses trusted resolved) (monitorHouse cfg prev)
      (motive := fun m' : Monitored => m'.state.stuckTicks = m.state.stuckTicks) rfl
      fun m' hm desc _ => (@monitorHouse_keeps cfg prev (.house .heater) m' desc).1.trans hm
  simp only [monitor]
  rw [hhouse, hvalves, stuckTicks_foldl_monitorStuck observed.nodup_ids]
  rfl

/-- A stuck actuator is disabled. -/
theorem mem_disabled_of_stuck (hid : id ∈ observed.ids)
    (h : stuck cfg prev observed s id = true) :
    id ∈ (s.monitor (some prev) observed trusted resolved cfg).1.disabled := by
  have hvalves : ∀ m : Monitored, id ∈ m.state.disabled →
      id ∈ (trusted.soilMoisture.toList.foldl (monitorValve cfg prev) m).state.disabled := by
    intro m hm
    exact List.foldlRecOn trusted.soilMoisture.toList (monitorValve cfg prev)
      (motive := fun m' : Monitored => id ∈ m'.state.disabled) hm
      fun m' hm r _ => ((monitorValve_spec m' r).2.1 id).2 (Or.inl hm)
  have hhouse : ∀ m : Monitored, id ∈ m.state.disabled →
      id ∈ ((houseNoResponses trusted resolved).foldl
        (monitorHouse cfg prev) m).state.disabled := by
    intro m hm
    exact List.foldlRecOn (houseNoResponses trusted resolved) (monitorHouse cfg prev)
      (motive := fun m' : Monitored => id ∈ m'.state.disabled) hm
      fun m' hm desc _ => (monitorHouse_keeps m' desc).2 hm
  simp only [monitor]
  refine hhouse _ (hvalves _ ?_)
  rw [mem_disabled_foldl_monitorStuck observed.nodup_ids]
  exact Or.inr ⟨hid, of_decide_eq_true h⟩

end HealthState

/-! ## Sessions -/

namespace Session

variable {r r' : Session H} {id : ActuatorId}

/-- The stuck count kept for the actuator. -/
def stuckTicks (id : ActuatorId) (r : Session H) : Nat :=
  r.pipeline.health.stuckTicks.getD id 0

/-- Until the first tick nothing is counted; from then on the baseline of an actuator that is
not disabled is the level committed for it. -/
structure Based (r : Session H) : Prop where
  fresh : r.pipeline.prevCommanded = none → ∀ id, stuckTicks id r = 0
  sent : ∀ prev ∈ r.pipeline.prevCommanded, ∃ snap ∈ r.last,
    ∀ id ∉ r.pipeline.health.disabled, prev.get id = snap.commanded.get id

theorem Based.start (cfg : Config) (hal : H) (clock : Clock) :
    Based (Session.start cfg hal clock) where
  fresh := fun _ _ => TreeMap.getD_emptyc
  sent := fun _ h => by cases h

variable [Hal H]

/-- The readback of the actuator is where the level committed for it last is, within the
tolerance. -/
def Tracks (id : ActuatorId) (r : Session H) : Prop :=
  id ∈ (Hal.observed r.pipeline.hal).ids ∧ ∀ snap ∈ r.last,
    HealthState.diverged r.pipeline.config.sensing snap.commanded (Hal.observed r.pipeline.hal) id =
      false

instance (id : ActuatorId) (r : Session H) : Decidable (Tracks id r) :=
  inferInstanceAs (Decidable (_ ∧ ∀ snap ∈ r.last, _))

/-- A readback that equals the level committed last tracks it. -/
theorem tracks_of_eq {cfg : Config} (hcfg : cfg.Valid)
    (hcfgr : r.pipeline.config.sensing = cfg.sensing) (hid : id ∈ (Hal.observed r.pipeline.hal).ids)
    (h : ∀ snap ∈ r.last, (Hal.observed r.pipeline.hal).get id = snap.commanded.get id) :
    Tracks id r := by
  refine ⟨hid, fun snap hsnap => ?_⟩
  rw [HealthState.diverged, h snap hsnap, hcfgr, decide_eq_false_iff_not]
  exact F64.not_lt_abs_sub_self hcfg.tolerance _

/-- The readback is away from the baseline the actuator is judged against. -/
def Strays (id : ActuatorId) (r : Session H) : Prop :=
  id ∈ (Hal.observed r.pipeline.hal).ids ∧ ∃ prev ∈ r.pipeline.prevCommanded,
    HealthState.diverged r.pipeline.config.sensing prev (Hal.observed r.pipeline.hal) id = true

/-- The actuator is disabled, and its readback is away from the level intended for it. -/
def Withheld (id : ActuatorId) (r : Session H) : Prop :=
  id ∈ r.pipeline.health.disabled ∧ Strays id r

/-- The actuator is disabled as stuck. -/
def DisabledStuck (id : ActuatorId) (r : Session H) : Prop :=
  id ∈ r.pipeline.health.disabled ∧
    r.pipeline.config.sensing.noResponseWindowTicks ≤ stuckTicks id r

instance (id : ActuatorId) (r : Session H) : Decidable (DisabledStuck id r) :=
  inferInstanceAs (Decidable (_ ∧ _))

/-- **What tracks and strays is withheld.** -/
theorem Based.withheld_of_strays (h : Based r) (htrack : Tracks id r) (hstray : Strays id r) :
    Withheld id r := by
  refine ⟨?_, hstray⟩
  by_contra hnot
  obtain ⟨-, prev, hprev, hdiv⟩ := hstray
  obtain ⟨snap, hlast, hsent⟩ := h.sent prev hprev
  have hsame := htrack.2 snap hlast
  unfold HealthState.diverged at hsame hdiv
  rw [hsent id hnot] at hdiv
  exact Bool.false_ne_true (hsame.symm.trans hdiv)

variable [Libm]

/-- Every event preserves the invariant. -/
theorem Based.step {e : Event H} (h : Based r) (hs : Step r e r') : Based r' := by
  cases e with
  | tick =>
    obtain ⟨⟨p, snap⟩, ht, rfl⟩ := Option.map_eq_some_iff.1 hs
    obtain ⟨loops, ht⟩ := Pipeline.tick_advanced ht
    constructor
    · intro hnone
      exact absurd (ht.prevCommanded.symm.trans hnone) (Option.some_ne_none _)
    · intro prev hprev
      obtain rfl := Option.some.inj (ht.prevCommanded.symm.trans hprev)
      refine ⟨snap, rfl, fun id hid => ?_⟩
      rw [ht.health] at hid
      rw [Pipeline.baseline_get, if_neg hid]
  | setSetpoints =>
    cases hs
    exact ⟨h.fresh, h.sent⟩
  | setZone =>
    cases hs
    exact ⟨h.fresh, h.sent⟩
  | setOverride =>
    cases hs
    exact ⟨h.fresh, h.sent⟩
  | clearOverride =>
    cases hs
    exact ⟨h.fresh, h.sent⟩
  | plant =>
    cases hs
    exact ⟨h.fresh, h.sent⟩

/-- The configured sensing of a session never changes. -/
theorem sensing_step {e : Event H} (hs : Step r e r') :
    r'.pipeline.config.sensing = r.pipeline.config.sensing := by
  cases e with
  | tick =>
    obtain ⟨⟨p, snap⟩, ht, rfl⟩ := Option.map_eq_some_iff.1 hs
    obtain ⟨loops, ht⟩ := Pipeline.tick_cases ht
    exact congrArg Config.sensing ht.config
  | setSetpoints =>
    cases hs
    rfl
  | setZone =>
    cases hs
    rfl
  | setOverride =>
    cases hs
    rfl
  | clearOverride =>
    cases hs
    rfl
  | plant =>
    cases hs
    rfl

/-! ### The stuck count of a session -/

/-- What a tick does to the stuck count and the disables, from the baseline it judges by. -/
theorem tick_health {prev : Commands} (hs : Step r .tick r')
    (hprev : r.pipeline.prevCommanded = some prev)
    (hid : id ∈ (Hal.observed r.pipeline.hal).ids) :
    stuckTicks id r' = r.pipeline.health.stuckCount r.pipeline.config.sensing prev
        (Hal.observed r.pipeline.hal) id ∧
      (r.pipeline.config.sensing.noResponseWindowTicks ≤ stuckTicks id r' →
        id ∈ r'.pipeline.health.disabled) := by
  obtain ⟨⟨p, snap⟩, ht, rfl⟩ := Option.map_eq_some_iff.1 hs
  obtain ⟨loops, ht⟩ := Pipeline.tick_cases ht
  have hcount : stuckTicks id ⟨p, some snap⟩ = r.pipeline.health.stuckCount
      r.pipeline.config.sensing prev (Hal.observed r.pipeline.hal) id := by
    unfold stuckTicks
    rw [ht.health, Pipeline.monitored, hprev, HealthState.stuckTicks_monitor, if_pos hid]
  refine ⟨hcount, fun hle => ?_⟩
  change id ∈ p.health.disabled
  rw [ht.health, Pipeline.monitored, hprev]
  rw [hcount] at hle
  exact HealthState.mem_disabled_of_stuck hid (decide_eq_true hle)

theorem stuckTicks_up {e : Event H} (hs : Step r e r') (he : e.isTick = true)
    (h : Strays id r) : stuckTicks id r' = stuckTicks id r + 1 := by
  cases e with
  | tick =>
    obtain ⟨hid, prev, hprev, hdiv⟩ := h
    rw [(tick_health hs hprev hid).1, HealthState.stuckCount, if_pos hdiv]
    rfl
  | _ => cases he

theorem stuckTicks_reset {e : Event H} (hb : Based r) (hs : Step r e r') (he : e.isTick = true)
    (hid : id ∈ (Hal.observed r.pipeline.hal).ids) (h : ¬ Strays id r) : stuckTicks id r' = 0 := by
  cases e with
  | tick =>
    cases hprev : r.pipeline.prevCommanded with
    | none =>
      obtain ⟨⟨p, snap⟩, ht, rfl⟩ := Option.map_eq_some_iff.1 hs
      obtain ⟨loops, ht⟩ := Pipeline.tick_cases ht
      change p.health.stuckTicks.getD id 0 = 0
      rw [ht.health, Pipeline.monitored, hprev]
      exact hb.fresh hprev id
    | some prev =>
      have hdiv : HealthState.diverged r.pipeline.config.sensing prev
          (Hal.observed r.pipeline.hal) id = false :=
        Bool.eq_false_iff.2 fun hdiv => h ⟨hid, prev, hprev, hdiv⟩
      rw [(tick_health hs hprev hid).1, HealthState.stuckCount, hdiv,
        if_neg Bool.false_ne_true]
  | _ => cases he

theorem stuckTicks_idle {e : Event H} (hs : Step r e r') (he : e.isTick = false) :
    stuckTicks id r' = stuckTicks id r := by
  cases e with
  | tick => cases he
  | _ =>
    cases hs
    rfl

/-- While the readback tracks, only withheld ticks are counted. -/
theorem stuckTicks_reset_of_tracks (r : Session H) (e : Event H) (r' : Session H) (hb : Based r)
    (hs : Step r e r') (htracks : OnTick Event.isTick (Tracks id) r e) (he : e.isTick = true)
    (hnot : ¬ Withheld id r) : stuckTicks id r' = 0 :=
  stuckTicks_reset hb hs he (htracks he).1 fun hstray =>
    hnot (hb.withheld_of_strays (htracks he) hstray)

/-! ## The two results -/

section Results

variable {cfg : Config} {hal : H} {clock : Clock} {es : List (Event H)} {p' : Pipeline H}
  {snap : Snapshot}

theorem based_of_run (hr : Run Step (Session.start cfg hal clock) es r) :
    Based r ∧ r.pipeline.config.sensing = cfg.sensing :=
  hr.invariant (I := fun r => Based r ∧ r.pipeline.config.sensing = cfg.sensing)
    (fun _ _ _ h hs => ⟨h.1.step hs, (sensing_step hs).trans h.2⟩)
    ⟨Based.start cfg hal clock, rfl⟩

theorem mem_stuckIds (hid : id ∈ (Hal.observed r.pipeline.hal).ids)
    (hwin : 1 ≤ r.pipeline.config.sensing.noResponseWindowTicks) (hb : Based r)
    (hs : Step r .tick r') :
    id ∈ r.pipeline.stuckIds ↔
      r.pipeline.config.sensing.noResponseWindowTicks ≤ stuckTicks id r' := by
  cases hprev : r.pipeline.prevCommanded with
  | none =>
    have hstray : ¬ Strays id r := by
      rintro ⟨-, prev, hmem, -⟩
      rw [hprev] at hmem
      cases hmem
    rw [stuckTicks_reset hb hs rfl hid hstray, Pipeline.stuckIds, hprev]
    simp only [List.not_mem_nil, false_iff]
    omega
  | some prev =>
    rw [(tick_health hs hprev hid).1, Pipeline.stuckIds, hprev]
    simp only [List.mem_filter, hid, true_and, HealthState.stuck, decide_eq_true_iff]

/-- **Who is reported stuck while tracking.** In a run in which the readback of an actuator
tracks what is committed for it on every tick, a tick reports it stuck exactly when it ends a
streak of withheld ticks as long as the window. -/
theorem stuck_iff (hcfg : cfg.Valid)
    (hr : Run (Meeting Step (OnTick Event.isTick (Tracks id))) (Session.start cfg hal clock) es r)
    (htrack : Tracks id r) (ht : r.pipeline.tick = some (p', snap)) :
    snap.faults.filter (·.faultType = .actuatorStuck) = r.pipeline.stuckIds.map stuckFault ∧
    (id ∈ r.pipeline.stuckIds ↔ Streak Step Event.isTick (Withheld id)
      cfg.sensing.noResponseWindowTicks (Session.start cfg hal clock) (es ++ [.tick])
      ⟨p', some snap⟩) := by
  have hstep : Step r .tick ⟨p', some snap⟩ := by
    change (r.pipeline.tick.map _) = _
    rw [ht]
    rfl
  obtain ⟨hb, hsensing⟩ := based_of_run hr.forget
  have hall := hr.append (Run.single ⟨hstep, fun _ => htrack⟩)
  have hwin := hcfg.window_pos
  rw [← hsensing] at hwin ⊢
  obtain ⟨loops, hadv⟩ := Pipeline.tick_advanced ht
  refine ⟨hadv.stuck_faults, (mem_stuckIds htrack.1 hwin hb hstep).trans ?_⟩
  have hkeep : ∀ (s : Session H) (e : Event H) (s' : Session H), Based s → Step s e s' → Based s' :=
    fun _ _ _ h hs => h.step hs
  have hup : ∀ (s : Session H) (e : Event H) (s' : Session H), Step s e s' → e.isTick = true →
      Withheld id s → stuckTicks id s' = stuckTicks id s + 1 :=
    fun _ _ _ hs he h => stuckTicks_up hs he h.2
  exact Run.le_counter_iff hkeep hup stuckTicks_reset_of_tracks
    (fun _ _ _ hs he => stuckTicks_idle hs he) hall (Based.start cfg hal clock)
    TreeMap.getD_emptyc

/-- A withheld actuator that is disabled as stuck stays so. -/
theorem disabledStuck_step {e : Event H} (h : DisabledStuck id r) (hs : Step r e r')
    (hheld : OnTick Event.isTick (Withheld id) r e) : DisabledStuck id r' := by
  unfold DisabledStuck at *
  rw [sensing_step hs]
  cases he : e.isTick with
  | false =>
    rw [stuckTicks_idle hs he]
    refine ⟨?_, h.2⟩
    cases e with
    | tick => cases he
    | _ =>
      cases hs
      exact h.1
  | true =>
    obtain ⟨-, hstray⟩ := hheld he
    have hup := stuckTicks_up hs he hstray
    obtain ⟨hid, prev, hprev, -⟩ := hstray
    cases e with
    | tick =>
      have hle : r.pipeline.config.sensing.noResponseWindowTicks ≤ stuckTicks id r' := by omega
      exact ⟨(tick_health hs hprev hid).2 hle, hle⟩
    | _ => cases he

/-- **When a stuck disable is lifted.** From a state in which an actuator is disabled as stuck,
after as many ticks as the window on which its readback tracks what is committed for it, it is
disabled as stuck no longer exactly when it was not withheld on all of them. -/
theorem recovered_iff (hr : Run Step (Session.start cfg hal clock) es r)
    (hstuck : DisabledStuck id r) {fs : List (Event H)}
    (hfs : Run (Meeting Step (OnTick Event.isTick (Tracks id))) r fs r')
    (hwin : fs.countP Event.isTick = cfg.sensing.noResponseWindowTicks) :
    ¬ DisabledStuck id r' ↔ ¬ Run (Meeting Step (OnTick Event.isTick (Withheld id))) r fs r' := by
  obtain ⟨hb, -⟩ := based_of_run hr
  obtain ⟨-, hsensing⟩ := based_of_run (hr.append hfs.forget)
  refine not_congr ⟨fun h => ?_, fun h => ?_⟩
  · have hle := h.2
    rw [hsensing, ← hwin] at hle
    have hkeep : ∀ (s : Session H) (e : Event H) (s' : Session H), Based s → Step s e s' →
        Based s' := fun _ _ _ h hs => h.step hs
    have hup : ∀ (s : Session H) (e : Event H) (s' : Session H), Step s e s' → e.isTick = true →
        Withheld id s → stuckTicks id s' = stuckTicks id s + 1 :=
      fun _ _ _ hs he h => stuckTicks_up hs he h.2
    rcases Run.streak_of_le_counter hkeep hup stuckTicks_reset_of_tracks
      (fun _ _ _ hs he => stuckTicks_idle hs he) hfs hb hle with hmeets | hstreak
    · exact hmeets.1
    · exact Run.meeting_of_streak hstreak le_rfl
  · have hheld : ∀ (s : Session H) (e : Event H) (s' : Session H), DisabledStuck id s →
        Step s e s' → OnTick Event.isTick (Withheld id) s e → DisabledStuck id s' :=
      fun _ _ _ h hs hheld => disabledStuck_step h hs hheld
    exact h.invariant_of_meeting hheld hstuck

end Results

end Session

/-! ## On the bench -/

section

attribute [local instance] Bench.firstOrder

/-- A house in the dark whose actuators obey. -/
def darkHouse : Session Bench.Plant :=
  Session.start (Bench.config {}) { readings := Bench.readings [0, 0, 0] 420 } Clock.new

/-- The lights are overridden on, and no light is measured. -/
def darkEvents : List (Event Bench.Plant) :=
  .setOverride (.house .growLights) 100 F64.isPct_hundred 600 :: List.replicate 11 .tick

theorem darkHouse_run :
    ∃ (r : Session Bench.Plant) (p' : Pipeline Bench.Plant) (snap : Snapshot),
      Run (Meeting Session.Step (OnTick Event.isTick (Session.Tracks (.house .growLights))))
        darkHouse darkEvents r ∧
      Session.Tracks (.house .growLights) r ∧ r.pipeline.tick = some (p', snap) ∧
      .house .growLights ∈ r.pipeline.stuckIds ∧
      stuckFault (.house .growLights) ∈ snap.faults := by
  have hrun : ((darkEvents.foldlM (fun r e =>
      if OnTick Event.isTick (Session.Tracks (.house .growLights)) r e then r.step? e else none)
      darkHouse).bind fun r => r.pipeline.tick.map fun t =>
        decide (Session.Tracks (.house .growLights) r ∧
          .house .growLights ∈ r.pipeline.stuckIds ∧
          stuckFault (.house .growLights) ∈ t.2.faults)) = some true := by
    decide +kernel
  obtain ⟨r, hr, h⟩ := Option.bind_eq_some_iff.1 hrun
  obtain ⟨⟨p', snap⟩, ht, h⟩ := Option.map_eq_some_iff.1 h
  obtain ⟨htrack, hstuck, hfault⟩ := of_decide_eq_true h
  exact ⟨r, p', snap, Run.of_foldlM_meeting hr, htrack, ht, hstuck, hfault⟩

/-- **A false stuck alarm.** The lights give no light and are disabled for it; switched off, as
they are told, they are reported stuck. -/
theorem false_alarm :
    ∃ (r : Session Bench.Plant) (p' : Pipeline Bench.Plant) (snap : Snapshot),
      Run (Meeting Session.Step (OnTick Event.isTick (Session.Tracks (.house .growLights))))
        darkHouse darkEvents r ∧
      Session.Tracks (.house .growLights) r ∧ r.pipeline.tick = some (p', snap) ∧
      stuckFault (.house .growLights) ∈ snap.faults := by
  obtain ⟨r, p', snap, hr, htrack, ht, -, hfault⟩ := darkHouse_run
  exact ⟨r, p', snap, hr, htrack, ht, hfault⟩

/-- The lights are reported stuck after a streak of withheld ticks. -/
theorem stuck_iff_lights :
    ∃ (r : Session Bench.Plant) (p' : Pipeline Bench.Plant) (snap : Snapshot),
      r.pipeline.tick = some (p', snap) ∧ .house .growLights ∈ r.pipeline.stuckIds ∧
      Streak Session.Step Event.isTick (Session.Withheld (.house .growLights)) 5 darkHouse
        (darkEvents ++ [.tick]) ⟨p', some snap⟩ := by
  obtain ⟨r, p', snap, hr, htrack, ht, hstuck, -⟩ := darkHouse_run
  have hiff := (Session.stuck_iff Bench.config_valid hr htrack ht).2
  exact ⟨r, p', snap, ht, hstuck, hiff.1 hstuck⟩

/-- A house above its critical temperature whose fans are jammed for seven ticks. -/
def repairedEvents : List (Event Bench.Plant) :=
  List.replicate 6 .tick ++ [.plant { readings := Bench.readings [0, 0, 0] 420 }, .tick]

/-- The readback of the fans is the level committed for them last. -/
def FansObey (r : Session Bench.Plant) : Prop :=
  (Hal.observed r.pipeline.hal).get (.house .fans) = r.committed (.house .fans)

instance : DecidablePred FansObey := fun r =>
  inferInstanceAs (Decidable ((Hal.observed r.pipeline.hal).get (.house .fans) = _))

/-- The fans of a house above its critical temperature are jammed at first. -/
def jammedHouse : Session Bench.Plant :=
  Session.start (Bench.config Bench.frost)
    { readings := Bench.readings [0, 0, 0] 420, jammed := true } Clock.new

theorem jammedHouse_run :
    ∃ r r' : Session Bench.Plant, Run Session.Step jammedHouse repairedEvents r ∧
      Session.DisabledStuck (.house .fans) r ∧
      Run (Meeting Session.Step fun r e => OnTick Event.isTick FansObey r e ∧
        OnTick Event.isTick (Session.Tracks (.house .fans)) r e) r (List.replicate 5 .tick) r' ∧
      Session.DisabledStuck (.house .fans) r' := by
  have hrun : ((repairedEvents.foldlM Session.step? jammedHouse).bind fun r =>
      ((List.replicate 5 .tick).foldlM (fun r e =>
        if OnTick Event.isTick FansObey r e ∧
          OnTick Event.isTick (Session.Tracks (.house .fans)) r e then r.step? e else none) r).map
        fun r' => decide (Session.DisabledStuck (.house .fans) r ∧
          Session.DisabledStuck (.house .fans) r')) = some true := by
    decide +kernel
  obtain ⟨r, hr, h⟩ := Option.bind_eq_some_iff.1 hrun
  obtain ⟨r', hr', h⟩ := Option.map_eq_some_iff.1 h
  obtain ⟨hbefore, hafter⟩ := of_decide_eq_true h
  exact ⟨r, r', Run.of_foldlM hr, hbefore, Run.of_foldlM_meeting hr', hafter⟩

/-- **The fans are locked out.** Repaired, they do what they are told for the whole window;
they are still disabled, since full cooling is asked of them. -/
theorem locked_out :
    ∃ r r' : Session Bench.Plant, Run Session.Step jammedHouse repairedEvents r ∧
      Session.DisabledStuck (.house .fans) r ∧
      Run (Meeting Session.Step (OnTick Event.isTick FansObey)) r (List.replicate 5 .tick) r' ∧
      Session.DisabledStuck (.house .fans) r' := by
  obtain ⟨r, r', hr, hbefore, hr', hafter⟩ := jammedHouse_run
  exact ⟨r, r', hr, hbefore, hr'.mono fun _ _ _ h => ⟨h.1, h.2.1⟩, hafter⟩

/-- The fans of the locked-out house were withheld on every tick of the window. -/
theorem recovered_iff_fans :
    ∃ r r' : Session Bench.Plant, Session.DisabledStuck (.house .fans) r ∧
      Run (Meeting Session.Step (OnTick Event.isTick (Session.Withheld (.house .fans)))) r
        (List.replicate 5 .tick) r' := by
  obtain ⟨r, r', hr, hbefore, hr', hafter⟩ := jammedHouse_run
  have hiff := Session.recovered_iff hr hbefore (hr'.mono fun _ _ _ h => ⟨h.1, h.2.2⟩) rfl
  exact ⟨r, r', hbefore, not_not.1 (mt hiff.2 (not_not.2 hafter))⟩

end

end Greenhouse.Controller
