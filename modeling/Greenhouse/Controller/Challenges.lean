import Greenhouse.Controller.Stuck

/-!
# Challenges of the push actuators

While a push actuator is commanded on and its variable is trusted and below target, the variable is
challenged: its values are compared with those seen earlier in the challenge.

* `Track`: what the monitor keeps of a challenge; `track_monitor`, `flagged_iff` say what one tick
  does to it and when it flags.
* `challenge`: the values of the challenge in progress, from the ticks alone.
* `Tracked.of_run`: the baseline is one of these values, and the counter counts ticks without a
  response.
* `no_response_runs`: **a variable that holds its best value is never taken for unresponsive, and
  whoever is flagged has not responded for the whole window.**
-/

namespace Greenhouse.Controller

open Greenhouse.Numeric Greenhouse.Process Std

namespace HealthState

/-! ## One challenge -/

/-- What is kept of the challenge of a push actuator. -/
structure Track where
  baseline : Option F64
  ticks : ℕ

def track (s : HealthState) (a : Actuator) : Track where
  baseline := s.houseNoRespBaseline[a]?
  ticks := s.houseNoRespTicks.getD a 0

/-- The value by which the actuator is judged on a tick: there is none unless it is commanded on
and its variable is trusted and below target. -/
def challengeValue (prev : Commands) (desc : HouseNoResponse) : Option F64 :=
  if houseOnThreshold ≤ prev.get (.house desc.actuator) ∧ desc.expected = some true then desc.value
  else none

/-- The challenged variable has not responded. -/
def Track.unresponsive (t : Track) (prev : Commands) (desc : HouseNoResponse) : Bool :=
  match challengeValue prev desc, t.baseline with
  | some v, some baseline => !responded desc v baseline
  | _, _ => false

/-- What is kept after a tick. -/
def Track.next (t : Track) (prev : Commands) (desc : HouseNoResponse) : Track :=
  match challengeValue prev desc, t.baseline with
  | none, _ => ⟨none, 0⟩
  | some v, none => ⟨some v, 0⟩
  | some v, some baseline =>
    if responded desc v baseline then
      ⟨some (if ¬ desc.floored ∧ baseline < v then v else baseline), 0⟩
    else ⟨some baseline, t.ticks + 1⟩

/-- The actuator is flagged on a tick. -/
def Track.flags (cfg : Sensing) (t : Track) (prev : Commands) (desc : HouseNoResponse) : Bool :=
  t.unresponsive prev desc && cfg.noResponseWindowTicks ≤ t.ticks + 1

/-- What the no-response check raises for a push actuator. -/
def noResponseFault (a : Actuator) : Fault where
  component := componentName (.house a)
  faultType := .actuatorNoResponse
  severity := .alarm
  message := componentName (.house a) ++ " commanded on but " ++ drivenVariable a
    ++ " is not responding"
  response := "disabled the actuator"

variable {cfg : Sensing} {prev : Commands} {observed : Observed} {m : Monitored}
  {desc : HouseNoResponse} {a : Actuator}

/-- Without a value to judge by the challenge is over. -/
theorem monitorHouse_of_none (h : challengeValue prev desc = none) :
    monitorHouse cfg prev m desc = { m with state := { m.state with
      houseNoRespBaseline := m.state.houseNoRespBaseline.erase desc.actuator
      houseNoRespTicks := m.state.houseNoRespTicks.erase desc.actuator } } := by
  unfold monitorHouse
  dsimp only
  split
  case h_1 v hv =>
    split
    case isTrue heligible =>
      rw [challengeValue, if_pos heligible, hv] at h
      cases h
    case isFalse => rfl
  case h_2 => rfl

/-- The check of a value. -/
theorem monitorHouse_of_some {v : F64} (h : challengeValue prev desc = some v) :
    monitorHouse cfg prev m desc =
      match m.state.houseNoRespBaseline[desc.actuator]? with
      | none => { m with state := { m.state with
          houseNoRespBaseline := m.state.houseNoRespBaseline.insert desc.actuator v
          houseNoRespTicks := m.state.houseNoRespTicks.insert desc.actuator 0 } }
      | some baseline =>
        if responded desc v baseline then
          { m with state := { m.state with
            houseNoRespBaseline :=
              if ¬ desc.floored ∧ baseline < v then
                m.state.houseNoRespBaseline.insert desc.actuator v
              else m.state.houseNoRespBaseline
            houseNoRespTicks := m.state.houseNoRespTicks.insert desc.actuator 0 } }
        else
          let count := m.state.houseNoRespTicks.getD desc.actuator 0 + 1
          let m' := { m with state := { m.state with
            houseNoRespTicks := m.state.houseNoRespTicks.insert desc.actuator count } }
          if cfg.noResponseWindowTicks ≤ count then
            m'.disable (.house desc.actuator) (noResponseFault desc.actuator)
          else m' := by
  have heligible : houseOnThreshold ≤ prev.get (.house desc.actuator) ∧
      desc.expected = some true := by
    by_contra hne
    rw [challengeValue, if_neg hne] at h
    cases h
  have hv : desc.value = some v := by
    rwa [challengeValue, if_pos heligible] at h
  unfold monitorHouse
  simp only [hv, if_pos heligible]
  rfl

/-- **One check of a push actuator**: what it keeps for its own actuator, what it raises and whom
it disables. -/
theorem monitorHouse_track (m : Monitored) (desc : HouseNoResponse) :
    (monitorHouse cfg prev m desc).state.track desc.actuator =
        (m.state.track desc.actuator).next prev desc ∧
      (monitorHouse cfg prev m desc).faults = m.faults ++
        (if (m.state.track desc.actuator).flags cfg prev desc then [noResponseFault desc.actuator]
          else []) ∧
      ∀ id, id ∈ (monitorHouse cfg prev m desc).state.disabled ↔ id ∈ m.state.disabled ∨
        ((m.state.track desc.actuator).flags cfg prev desc = true ∧ id = .house desc.actuator) := by
  cases hvalue : challengeValue prev desc with
  | none =>
    have hquiet : (m.state.track desc.actuator).flags cfg prev desc = false := by
      rw [Track.flags, Track.unresponsive, hvalue]
      rfl
    rw [monitorHouse_of_none hvalue, hquiet, Track.next, hvalue]
    refine ⟨?_, (List.append_nil _).symm, fun id => by simp⟩
    simp [track]
  | some v =>
    rw [monitorHouse_of_some hvalue]
    cases hbaseline : m.state.houseNoRespBaseline[desc.actuator]? with
    | none =>
      have htrack : (m.state.track desc.actuator).baseline = none := hbaseline
      have hquiet : (m.state.track desc.actuator).flags cfg prev desc = false := by
        rw [Track.flags, Track.unresponsive, hvalue, htrack]
        rfl
      rw [hquiet, Track.next, hvalue, htrack]
      refine ⟨?_, (List.append_nil _).symm, fun id => by simp⟩
      simp [track]
    | some baseline =>
      have htrack : (m.state.track desc.actuator).baseline = some baseline := hbaseline
      dsimp only
      split
      case isTrue hresponded =>
        have hquiet : (m.state.track desc.actuator).flags cfg prev desc = false := by
          rw [Track.flags, Track.unresponsive, hvalue, htrack]
          simp [hresponded]
        rw [hquiet, Track.next, hvalue, htrack]
        refine ⟨?_, (List.append_nil _).symm, fun id => by simp⟩
        simp only [if_pos hresponded, track]
        split
        case isTrue => simp
        case isFalse => simp [hbaseline]
      case isFalse hresponded =>
        have hflags : (m.state.track desc.actuator).flags cfg prev desc =
            decide (cfg.noResponseWindowTicks ≤
              m.state.houseNoRespTicks.getD desc.actuator 0 + 1) := by
          have hfalse : responded desc v baseline = false := Bool.eq_false_iff.2 hresponded
          rw [Track.flags, Track.unresponsive, hvalue, htrack]
          simp only [hfalse]
          rfl
        have hnext : (m.state.track desc.actuator).next prev desc =
            ⟨some baseline, m.state.houseNoRespTicks.getD desc.actuator 0 + 1⟩ := by
          rw [Track.next, hvalue, htrack]
          exact if_neg hresponded
        rw [hflags, hnext]
        split
        case isTrue hwindow =>
          refine ⟨?_, ?_, fun id => ?_⟩
          · simp [track, Monitored.disable, hbaseline]
          · rw [if_pos (decide_eq_true hwindow)]
            rfl
          · rw [mem_disable, or_comm, decide_eq_true hwindow, eq_comm]
            simp
        case isFalse hwindow =>
          refine ⟨?_, ?_, fun id => ?_⟩
          · simp [track, hbaseline]
          · rw [if_neg (by simpa using hwindow), List.append_nil]
          · rw [decide_eq_false hwindow]
            simp

/-- The check of another push actuator. -/
theorem track_monitorHouse_of_ne (m : Monitored) (h : desc.actuator ≠ a) :
    (monitorHouse cfg prev m desc).state.track a = m.state.track a := by
  have hne : ¬ compare desc.actuator a = .eq := fun heq => h (LawfulEqOrd.eq_of_compare heq)
  cases hvalue : challengeValue prev desc with
  | none =>
    rw [monitorHouse_of_none hvalue]
    simp [track, TreeMap.getElem?_erase, TreeMap.getD_erase, hne]
  | some v =>
    rw [monitorHouse_of_some hvalue]
    cases m.state.houseNoRespBaseline[desc.actuator]? with
    | none => simp [track, TreeMap.getElem?_insert, TreeMap.getD_insert, hne]
    | some baseline =>
      dsimp only
      split
      · by_cases hrise : ¬ desc.floored ∧ baseline < v
        · simp only [track, if_pos hrise]
          simp [TreeMap.getElem?_insert, TreeMap.getD_insert, hne]
        · simp only [track, if_neg hrise]
          simp [TreeMap.getD_insert, hne]
      · split
        · simp [track, Monitored.disable, TreeMap.getD_insert, hne]
        · simp [track, TreeMap.getD_insert, hne]

/-- The checks of distinct push actuators. -/
theorem foldl_monitorHouse_track {l : List HouseNoResponse} :
    ∀ {m : Monitored}, (l.map (·.actuator)).Nodup →
      (∀ desc ∈ l, (l.foldl (monitorHouse cfg prev) m).state.track desc.actuator =
        (m.state.track desc.actuator).next prev desc) ∧
      (l.foldl (monitorHouse cfg prev) m).faults = m.faults ++
        (l.filter fun desc => (m.state.track desc.actuator).flags cfg prev desc).map
          (fun desc => noResponseFault desc.actuator) ∧
      ∀ id, id ∈ (l.foldl (monitorHouse cfg prev) m).state.disabled ↔ id ∈ m.state.disabled ∨
        ∃ desc ∈ l, (m.state.track desc.actuator).flags cfg prev desc = true ∧
          id = .house desc.actuator := by
  induction l with
  | nil => exact fun _ => ⟨List.forall_mem_nil _, (List.append_nil _).symm, by simp⟩
  | cons desc l ih =>
    intro m hl
    obtain ⟨hfresh, hl⟩ := List.nodup_cons.1 hl
    obtain ⟨htrack, hfaults, hdisabled⟩ := @monitorHouse_track cfg prev m desc
    obtain ⟨ihtrack, ihfaults, ihdisabled⟩ := @ih (monitorHouse cfg prev m desc) hl
    have hother : ∀ a, a ≠ desc.actuator →
        (monitorHouse cfg prev m desc).state.track a = m.state.track a :=
      fun a hne => track_monitorHouse_of_ne m hne.symm
    have hsame : ∀ d ∈ l, (monitorHouse cfg prev m desc).state.track d.actuator =
        m.state.track d.actuator :=
      fun d hd => hother _ fun heq => hfresh (List.mem_map.2 ⟨d, hd, heq⟩)
    have hrest : ∀ a, a ∉ l.map (·.actuator) → ∀ m' : Monitored,
        (l.foldl (monitorHouse cfg prev) m').state.track a = m'.state.track a := by
      intro a ha m'
      refine List.foldlRecOn l (monitorHouse cfg prev)
        (motive := fun m'' : Monitored => m''.state.track a = m'.state.track a) rfl
        fun m'' hm d hd => ?_
      have hne : d.actuator ≠ a := fun heq => ha (heq ▸ List.mem_map_of_mem hd)
      exact (track_monitorHouse_of_ne m'' hne).trans hm
    refine ⟨List.forall_mem_cons.2 ⟨?_, fun d hd => ?_⟩, ?_, fun id => ?_⟩
    · exact (hrest _ hfresh _).trans htrack
    · exact (ihtrack d hd).trans (by rw [hsame d hd])
    · have hfilter : l.filter (fun d => ((monitorHouse cfg prev m desc).state.track
          d.actuator).flags cfg prev d) =
          l.filter fun d => (m.state.track d.actuator).flags cfg prev d :=
        List.filter_congr fun d hd => by rw [hsame d hd]
      rw [List.foldl_cons, ihfaults, hfaults, hfilter, List.append_assoc, List.filter_cons]
      split <;> rfl
    · have hflags : (∃ d ∈ l, ((monitorHouse cfg prev m desc).state.track d.actuator).flags cfg
          prev d = true ∧ id = .house d.actuator) ↔
            ∃ d ∈ l, (m.state.track d.actuator).flags cfg prev d = true ∧ id = .house d.actuator :=
        exists_congr fun d => and_congr_right fun hd => by rw [hsame d hd]
      rw [List.foldl_cons, ihdisabled, hdisabled, hflags, List.exists_mem_cons_iff, or_assoc]

variable {s : HealthState} {trusted : TrustedState} {resolved : ResolvedSetpoints}

theorem nodup_houseNoResponses :
    ((houseNoResponses trusted resolved).map (·.actuator)).Nodup := by
  change [Actuator.heater, .misters, .co2Injector, .growLights].Nodup
  decide

/-- The checks before those of the push actuators keep the challenges. -/
theorem track_before (a : Actuator) :
    (trusted.soilMoisture.toList.foldl (monitorValve cfg prev)
      (observed.ids.foldl (monitorStuck cfg prev observed)
        ⟨{ s with disabled := ∅ }, []⟩)).state.track a = s.track a := by
  refine List.foldlRecOn trusted.soilMoisture.toList (monitorValve cfg prev)
    (motive := fun m' : Monitored => m'.state.track a = s.track a) ?_ fun m' hm r _ => ?_
  · refine List.foldlRecOn observed.ids (monitorStuck cfg prev observed)
      (motive := fun m' : Monitored => m'.state.track a = s.track a) rfl fun m' hm id _ => ?_
    rw [← hm, monitorStuck_eq]
    dsimp only
    split <;> rfl
  · obtain ⟨zone, _ | soil⟩ := r
    · exact hm
    · rw [← hm, monitorValve_eq]
      dsimp only
      split <;> rfl

/-- **What a tick keeps of a challenge.** -/
theorem track_monitor (hdesc : desc ∈ houseNoResponses trusted resolved) :
    (s.monitor (some prev) observed trusted resolved cfg).1.track desc.actuator =
      (s.track desc.actuator).next prev desc := by
  have htrack := (@foldl_monitorHouse_track cfg prev _
    (trusted.soilMoisture.toList.foldl (monitorValve cfg prev)
      (observed.ids.foldl (monitorStuck cfg prev observed) ⟨{ s with disabled := ∅ }, []⟩))
    (@nodup_houseNoResponses trusted resolved)).1 desc hdesc
  rw [track_before] at htrack
  exact htrack

/-- The faults raised before those of the push actuators are of other types. -/
theorem faults_before : ∀ f ∈ (trusted.soilMoisture.toList.foldl (monitorValve cfg prev)
    (observed.ids.foldl (monitorStuck cfg prev observed) ⟨{ s with disabled := ∅ }, []⟩)).faults,
      f.faultType ≠ .actuatorNoResponse := by
  have hkeys : (trusted.soilMoisture.toList.map Prod.fst).Nodup := by
    rw [TreeMap.map_fst_toList_eq_keys]
    exact trusted.soilMoisture.nodup_keys
  obtain ⟨hstuck, -, -⟩ :=
    @foldl_monitorStuck_spec cfg prev observed _ ⟨{ s with disabled := ∅ }, []⟩ observed.nodup_ids
  obtain ⟨hvalves, -⟩ := @foldl_monitorValve_spec cfg prev _
    (observed.ids.foldl (monitorStuck cfg prev observed) ⟨{ s with disabled := ∅ }, []⟩) hkeys
  intro f hf
  rw [hvalves, hstuck, List.nil_append] at hf
  rcases List.mem_append.1 hf with hf | hf
  · obtain ⟨id, -, rfl⟩ := List.mem_map.1 hf
    exact FaultType.noConfusion
  · obtain ⟨r, -, rfl⟩ := List.mem_map.1 hf
    exact FaultType.noConfusion

/-- The actuator is flagged for no response. -/
def Flagged (a : Actuator) (faults : List Fault) : Prop :=
  ∃ f ∈ faults, f.faultType = .actuatorNoResponse ∧ f.component = componentName (.house a)

theorem componentName_house_injective {a b : Actuator}
    (h : componentName (.house a) = componentName (.house b)) : a = b := by
  cases a <;> cases b <;> first | rfl | exact absurd h (by decide)

/-- **When a push actuator is flagged for no response.** -/
theorem flagged_iff (hdesc : desc ∈ houseNoResponses trusted resolved) :
    Flagged desc.actuator (s.monitor (some prev) observed trusted resolved cfg).2 ↔
      (s.track desc.actuator).flags cfg prev desc = true := by
  have hfaults := (@foldl_monitorHouse_track cfg prev _
    (trusted.soilMoisture.toList.foldl (monitorValve cfg prev)
      (observed.ids.foldl (monitorStuck cfg prev observed) ⟨{ s with disabled := ∅ }, []⟩))
    (@nodup_houseNoResponses trusted resolved)).2.1
  simp only [track_before] at hfaults
  simp only [Flagged, monitor, hfaults, List.mem_append]
  constructor
  · rintro ⟨f, hf | hf, htype, hcomponent⟩
    · exact absurd htype (faults_before f hf)
    · obtain ⟨d, hd, rfl⟩ := List.mem_map.1 hf
      obtain ⟨hd, hflags⟩ := List.mem_filter.1 hd
      have hsame := List.inj_on_of_nodup_map nodup_houseNoResponses hd hdesc
        (componentName_house_injective hcomponent)
      exact hsame ▸ hflags
  · intro hflags
    exact ⟨noResponseFault desc.actuator,
      .inr (List.mem_map_of_mem (List.mem_filter.2 ⟨hdesc, hflags⟩)), rfl, rfl⟩

/-- **When a push actuator is disabled**: it is stuck, or flagged. -/
theorem mem_disabled_push (hdesc : desc ∈ houseNoResponses trusted resolved) :
    .house desc.actuator ∈ (s.monitor (some prev) observed trusted resolved cfg).1.disabled ↔
      (.house desc.actuator ∈ observed.ids ∧
        stuck cfg prev observed s (.house desc.actuator) = true) ∨
      (s.track desc.actuator).flags cfg prev desc = true := by
  have hkeys : (trusted.soilMoisture.toList.map Prod.fst).Nodup := by
    rw [TreeMap.map_fst_toList_eq_keys]
    exact trusted.soilMoisture.nodup_keys
  have hdisabled := (@foldl_monitorHouse_track cfg prev _
    (trusted.soilMoisture.toList.foldl (monitorValve cfg prev)
      (observed.ids.foldl (monitorStuck cfg prev observed) ⟨{ s with disabled := ∅ }, []⟩))
    (@nodup_houseNoResponses trusted resolved)).2.2 (.house desc.actuator)
  simp only [track_before] at hdisabled
  simp only [monitor]
  rw [hdisabled, (foldl_monitorValve_spec hkeys).2, mem_disabled_foldl_monitorStuck
    observed.nodup_ids]
  have hvalve : ¬ ∃ r ∈ trusted.soilMoisture.toList, flat cfg prev
      (observed.ids.foldl (monitorStuck cfg prev observed) ⟨{ s with disabled := ∅ }, []⟩).state
        r = true ∧ ActuatorId.house desc.actuator = .valve r.1 := by
    rintro ⟨r, -, -, heq⟩
    cases heq
  have hpush : (∃ d ∈ houseNoResponses trusted resolved, (s.track d.actuator).flags cfg prev d =
      true ∧ ActuatorId.house desc.actuator = .house d.actuator) ↔
        (s.track desc.actuator).flags cfg prev desc = true := by
    constructor
    · rintro ⟨d, hd, hflags, heq⟩
      have hsame := List.inj_on_of_nodup_map nodup_houseNoResponses hd hdesc
        (ActuatorId.house.inj heq).symm
      exact hsame ▸ hflags
    · exact fun hflags => ⟨desc, hdesc, hflags, rfl⟩
  rw [hpush, or_iff_left hvalve, stuck, decide_eq_true_iff]
  refine or_congr_left ?_
  simp [stuckCount]

end HealthState

/-! ## The challenge in progress -/

/-- What the monitor gets on a tick. -/
structure Check where
  prev : Option Commands
  observed : Observed
  trusted : TrustedState
  resolved : ResolvedSetpoints

namespace Check

/-- There is a previous command to compare with: there is none on the first tick. -/
def compares (c : Check) : Bool := c.prev.isSome

/-- The value of a push actuator's variable, if it is challenged on the tick: the actuator is
commanded on, and the variable is trusted and below target. -/
def value (c : Check) (a : Actuator) : Option F64 :=
  c.prev.bind fun prev =>
    ((houseNoResponses c.trusted c.resolved).find? fun desc => desc.actuator = a).bind
      (HealthState.challengeValue prev)

end Check

/-- The values of the challenge in progress after some ticks. -/
def challenge (a : Actuator) (cs : List Check) : List F64 :=
  cs.foldl (fun values c =>
    if c.compares then ((c.value a).map fun v => values ++ [v]).getD [] else values) []

/-- The variable is not below any value seen earlier in the challenge, minus the margin. -/
def Holding (a : Actuator) (before : List Check) (c : Check) : Prop :=
  ∀ v, c.value a = some v → ∀ w ∈ challenge a before, w - noResponseMargin a ≤ v

/-- The variable does not respond to the challenge: it is below a value seen earlier in the
challenge, minus the margin; light, which rests on a floor, has not risen above the first. -/
def Unresponsive (a : Actuator) (before : List Check) (c : Check) : Prop :=
  ∃ v, c.value a = some v ∧
    if a = .growLights then ∃ w, (challenge a before).head? = some w ∧ ¬ w + noResponseMargin a < v
    else ∃ w ∈ challenge a before, ¬ w - noResponseMargin a ≤ v

/-- On every tick the variable holds its best value of the challenge. -/
def Sustained (a : Actuator) (cs : List Check) : Prop :=
  ∀ before c after, cs = before ++ c :: after → Holding a before c

/-- The last `n` ticks all went without a response. -/
def LastUnresponsive (a : Actuator) (n : ℕ) (cs : List Check) : Prop :=
  ∃ cs₁ cs₂, cs = cs₁ ++ cs₂ ∧ n ≤ cs₂.countP Check.compares ∧
    ∀ before c after, cs₂ = before ++ c :: after → c.compares = true →
      Unresponsive a (cs₁ ++ before) c

section Histories

variable {a : Actuator} {cs : List Check} {c : Check} {n : ℕ}

theorem challenge_concat : challenge a (cs ++ [c]) =
    if c.compares then ((c.value a).map fun v => challenge a cs ++ [v]).getD []
    else challenge a cs := List.foldl_concat ..

theorem LastUnresponsive.zero : LastUnresponsive a 0 cs :=
  ⟨cs, [], (List.append_nil cs).symm, Nat.zero_le _, fun before c after h => by simp at h⟩

/-- The last ticks and one more that is of their kind. -/
theorem LastUnresponsive.concat (h : LastUnresponsive a n cs)
    (hc : c.compares = true → Unresponsive a cs c) :
    LastUnresponsive a (if c.compares then n + 1 else n) (cs ++ [c]) := by
  obtain ⟨cs₁, cs₂, rfl, hn, hall⟩ := h
  refine ⟨cs₁, cs₂ ++ [c], List.append_assoc .., ?_, fun before d after heq hd => ?_⟩
  · rw [List.countP_append, List.countP_singleton]
    split
    · exact Nat.add_le_add_right hn 1
    · exact hn
  · rcases after.eq_nil_or_concat with rfl | ⟨init, last, rfl⟩
    · obtain ⟨rfl, hlast⟩ := List.append_inj' heq rfl
      cases hlast
      exact hc hd
    · rw [List.concat_eq_append, ← List.cons_append, ← List.append_assoc] at heq
      obtain ⟨rfl, -⟩ := List.append_inj' heq rfl
      exact hall before d init rfl hd

end Histories

/-! ## Runs of the monitor -/

namespace HealthState

/-- One tick of the monitor. -/
def watch (cfg : Sensing) (s : HealthState) (c : Check) : HealthState × List Fault :=
  s.monitor c.prev c.observed c.trusted c.resolved cfg

def Step (cfg : Sensing) (s : HealthState) (c : Check) (s' : HealthState) : Prop :=
  (s.watch cfg c).1 = s'

/-- The actuators whose variables have no floor. -/
def climbing : List Actuator := [.heater, .misters, .co2Injector]

/-- The push actuators of the house. -/
def pushing : List Actuator := climbing ++ [.growLights]

theorem exists_desc {a : Actuator} (ha : a ∈ pushing) (trusted : TrustedState)
    (resolved : ResolvedSetpoints) : ∃ desc ∈ houseNoResponses trusted resolved,
      desc.actuator = a ∧ desc.floored = decide (a = .growLights) ∧
        (houseNoResponses trusted resolved).find? (fun desc => desc.actuator = a) = some desc := by
  simp only [pushing, climbing, List.cons_append, List.nil_append, List.mem_cons,
    List.not_mem_nil, or_false] at ha
  rcases ha with rfl | rfl | rfl | rfl
  · exact ⟨_, List.mem_cons_self, rfl, rfl, rfl⟩
  · exact ⟨_, List.mem_cons_of_mem _ List.mem_cons_self, rfl, rfl, rfl⟩
  · exact ⟨_, List.mem_cons_of_mem _ (List.mem_cons_of_mem _ List.mem_cons_self), rfl, rfl, rfl⟩
  · exact ⟨_, List.mem_cons_of_mem _ (List.mem_cons_of_mem _ (List.mem_cons_of_mem _
      List.mem_cons_self)), rfl, rfl, rfl⟩

/-- What the monitor keeps of the challenge in progress: the baseline is the first of its values,
or one of them where there is no floor, and the counted ticks went without a response. -/
structure Tracked (a : Actuator) (cs : List Check) (s : HealthState) : Prop where
  fresh : (s.track a).baseline = none → challenge a cs = []
  baseline : ∀ b, (s.track a).baseline = some b →
    if a = .growLights then (challenge a cs).head? = some b else b ∈ challenge a cs
  ticks : LastUnresponsive a (s.track a).ticks cs

namespace Tracked

variable {cfg : Sensing} {a : Actuator} {cs : List Check} {s s' : HealthState} {c : Check}

theorem start (a : Actuator) : Tracked a [] {} where
  fresh := fun _ => rfl
  baseline := fun b h => by simp [track] at h
  ticks := by
    have hzero : (track {} a).ticks = 0 := by simp [track]
    rw [hzero]
    exact .zero

variable {desc : HouseNoResponse} {prev : Commands}

/-- A tick that the monitor counts is one without a response. -/
theorem unresponsive (h : Tracked a cs s) (hfloored : desc.floored = decide (a = .growLights))
    (hactuator : desc.actuator = a) (hvalue : c.value a = challengeValue prev desc)
    (hcount : (s.track a).unresponsive prev desc = true) : Unresponsive a cs c := by
  unfold Track.unresponsive at hcount
  split at hcount
  case h_1 v b hv hb =>
    refine ⟨v, hvalue.trans hv, ?_⟩
    have hbaseline := h.baseline b hb
    rw [responded, hfloored, hactuator] at hcount
    by_cases ha : a = .growLights
    · rw [if_pos ha] at hbaseline ⊢
      exact ⟨b, hbaseline, by simpa [ha] using hcount⟩
    · rw [if_neg ha] at hbaseline ⊢
      exact ⟨b, hbaseline, by simpa [ha] using hcount⟩
  case h_2 => cases hcount

/-- A tick that challenges no value ends the challenge. -/
theorem ended (hconcat : challenge a (cs ++ [c]) = []) (hnext : s'.track a = ⟨none, 0⟩) :
    Tracked a (cs ++ [c]) s' := by
  refine ⟨fun _ => hconcat, fun b hb => ?_, ?_⟩
  · rw [hnext] at hb
    cases hb
  · rw [hnext]
    exact .zero

variable {v b b' : F64}

/-- The first value of a challenge is its baseline. -/
theorem begun (hconcat : challenge a (cs ++ [c]) = [v]) (hnext : s'.track a = ⟨some v, 0⟩) :
    Tracked a (cs ++ [c]) s' := by
  refine ⟨fun hnone => ?_, fun b hb => ?_, ?_⟩
  · rw [hnext] at hnone
    cases hnone
  · rw [hnext] at hb
    cases hb
    rw [hconcat]
    split
    · rfl
    · exact List.mem_cons_self
  · rw [hnext]
    exact .zero

/-- A challenge that goes on keeps its baseline, or takes the new value where there is no
floor. -/
theorem continued (h : Tracked a cs s) (hb : (s.track a).baseline = some b)
    (hconcat : challenge a (cs ++ [c]) = challenge a cs ++ [v])
    (hbase : b' = b ∨ a ≠ .growLights ∧ b' = v) (hb' : (s'.track a).baseline = some b')
    (hticks : LastUnresponsive a (s'.track a).ticks (cs ++ [c])) : Tracked a (cs ++ [c]) s' := by
  have hbaseline := h.baseline b hb
  refine ⟨fun hnone => ?_, fun x hx => ?_, hticks⟩
  · rw [hb'] at hnone
    cases hnone
  · obtain rfl : b' = x := Option.some.inj (hb'.symm.trans hx)
    rw [hconcat]
    by_cases ha : a = .growLights
    · obtain rfl := hbase.resolve_right fun hrisen => hrisen.1 ha
      rw [if_pos ha] at hbaseline ⊢
      rw [List.head?_append, hbaseline, Option.some_or]
    · rw [if_neg ha] at hbaseline ⊢
      rcases hbase with rfl | ⟨-, rfl⟩
      · exact List.mem_append_left _ hbaseline
      · exact List.mem_append_right _ List.mem_cons_self

/-- A tick that compares keeps the invariant. -/
theorem compared (h : Tracked a cs s) (hfloored : desc.floored = decide (a = .growLights))
    (hactuator : desc.actuator = a) (hcompares : c.compares = true)
    (hvalue : c.value a = challengeValue prev desc)
    (htrack : s'.track a = (s.track a).next prev desc) : Tracked a (cs ++ [c]) s' := by
  have hconcat : challenge a (cs ++ [c]) =
      ((challengeValue prev desc).map fun v => challenge a cs ++ [v]).getD [] := by
    rw [challenge_concat, if_pos hcompares, hvalue]
  cases hv : challengeValue prev desc with
  | none =>
    rw [hv] at hconcat
    exact ended hconcat (by rw [htrack, Track.next, hv])
  | some v =>
    rw [hv] at hconcat
    have hconcat : challenge a (cs ++ [c]) = challenge a cs ++ [v] := hconcat
    cases hb : (s.track a).baseline with
    | none =>
      rw [h.fresh hb, List.nil_append] at hconcat
      exact begun hconcat (by rw [htrack, Track.next, hv, hb])
    | some b =>
      cases hresponded : responded desc v b with
      | true =>
        have hnext : s'.track a = ⟨some (if ¬ desc.floored ∧ b < v then v else b), 0⟩ := by
          rw [htrack, Track.next, hv, hb]
          exact if_pos hresponded
        refine h.continued hb hconcat ?_ (congrArg Track.baseline hnext)
          (by rw [hnext]; exact .zero)
        split
        case isTrue hrisen =>
          exact .inr ⟨fun ha => hrisen.1 (hfloored.trans (decide_eq_true ha)), rfl⟩
        case isFalse => exact .inl rfl
      | false =>
        have hnext : s'.track a = ⟨some b, (s.track a).ticks + 1⟩ := by
          rw [htrack, Track.next, hv, hb]
          simp [hresponded]
        have hcount : (s.track a).unresponsive prev desc = true := by
          rw [Track.unresponsive, hv, hb]
          simp [hresponded]
        have hlast := h.ticks.concat fun _ => h.unresponsive hfloored hactuator hvalue hcount
        rw [if_pos hcompares] at hlast
        exact h.continued hb hconcat (.inl rfl) (congrArg Track.baseline hnext)
          (by rw [hnext]; exact hlast)

theorem step (ha : a ∈ pushing) (h : Tracked a cs s) (hstep : Step cfg s c s') :
    Tracked a (cs ++ [c]) s' := by
  obtain ⟨desc, hdesc, hactuator, hfloored, hfind⟩ := exists_desc ha c.trusted c.resolved
  subst hactuator
  cases hprev : c.prev with
  | some prev =>
    have hvalue : c.value desc.actuator = challengeValue prev desc := by
      rw [Check.value, hprev, hfind]
      rfl
    have hcompares : c.compares = true := congrArg Option.isSome hprev
    refine h.compared hfloored rfl hcompares hvalue ?_
    rw [← hstep, watch, hprev]
    exact track_monitor hdesc
  | none =>
    have hcompares : c.compares = false := congrArg Option.isSome hprev
    have htrack : s'.track desc.actuator = s.track desc.actuator := by
      rw [← hstep, watch, hprev]
      rfl
    have hchallenge : challenge desc.actuator (cs ++ [c]) = challenge desc.actuator cs := by
      rw [challenge_concat, hcompares]
      rfl
    refine ⟨fun hnone => ?_, fun b hb => ?_, ?_⟩
    · rw [hchallenge]
      exact h.fresh (htrack ▸ hnone)
    · rw [hchallenge]
      exact h.baseline b (htrack ▸ hb)
    · have hlast := h.ticks.concat (c := c) fun hc =>
        absurd (hcompares.symm.trans hc) Bool.false_ne_true
      rw [htrack]
      rwa [hcompares] at hlast

/-- **What the monitor keeps in every run.** -/
theorem of_run (ha : a ∈ pushing) (hr : Run (Step cfg) {} cs s) : Tracked a cs s :=
  hr.history (P := Tracked a) (fun _ _ _ _ h hstep => h.step ha hstep) (start a)

/-- Whoever is flagged has not responded for the window. -/
theorem of_flagged (ha : a ∈ pushing) (h : Tracked a cs s)
    (hflagged : Flagged a (s.watch cfg c).2) :
    LastUnresponsive a cfg.noResponseWindowTicks (cs ++ [c]) ∧ Unresponsive a cs c := by
  obtain ⟨desc, hdesc, hactuator, hfloored, hfind⟩ := exists_desc ha c.trusted c.resolved
  subst hactuator
  cases hprev : c.prev with
  | some prev =>
    have hvalue : c.value desc.actuator = challengeValue prev desc := by
      rw [Check.value, hprev, hfind]
      rfl
    have hcompares : c.compares = true := congrArg Option.isSome hprev
    rw [watch, hprev, flagged_iff hdesc, Track.flags, Bool.and_eq_true, decide_eq_true_iff]
      at hflagged
    have hunresponsive := h.unresponsive hfloored rfl hvalue hflagged.1
    obtain ⟨cs₁, cs₂, heq, hn, hall⟩ := h.ticks.concat fun _ => hunresponsive
    rw [if_pos hcompares] at hn
    exact ⟨⟨cs₁, cs₂, heq, hflagged.2.trans hn, hall⟩, hunresponsive⟩
  | none =>
    rw [watch, hprev] at hflagged
    obtain ⟨f, hf, -⟩ := hflagged
    exact absurd hf List.not_mem_nil

end Tracked

/-- **Saturation is never taken for no response**: while its variable holds the best value of every
challenge, an actuator without a floor is not flagged, and disabled only if it is stuck; and a push
actuator that is flagged has not responded on the whole last window of ticks, all of one challenge. -/
theorem no_response_runs (cfg : Sensing) {cs : List Check} {s : HealthState}
    (hr : Run (Step cfg) {} cs s) (c : Check) :
    (∀ a ∈ climbing, Sustained a (cs ++ [c]) → ¬ Flagged a (s.watch cfg c).2 ∧
      (.house a ∈ (s.watch cfg c).1.disabled → ∃ prev, c.prev = some prev ∧
        stuck cfg prev c.observed s (.house a) = true)) ∧
    ∀ a ∈ pushing, Flagged a (s.watch cfg c).2 →
      LastUnresponsive a cfg.noResponseWindowTicks (cs ++ [c]) := by
  refine ⟨fun a ha hsustained => ?_, fun a ha hflagged =>
    ((Tracked.of_run ha hr).of_flagged ha hflagged).1⟩
  have hpush : a ∈ pushing := List.mem_append_left _ ha
  have hquiet : ¬ Flagged a (s.watch cfg c).2 := by
    intro hflagged
    obtain ⟨-, v, hv, hbelow⟩ := (Tracked.of_run hpush hr).of_flagged hpush hflagged
    have hnot : a ≠ .growLights := by
      rintro rfl
      revert ha
      decide
    rw [if_neg hnot] at hbelow
    obtain ⟨w, hw, hbelow⟩ := hbelow
    exact hbelow (hsustained cs c [] rfl v hv w hw)
  refine ⟨hquiet, fun hdisabled => ?_⟩
  obtain ⟨desc, hdesc, rfl, -, -⟩ := exists_desc hpush c.trusted c.resolved
  cases hprev : c.prev with
  | some prev =>
    rw [watch, hprev] at hdisabled hquiet
    rcases (mem_disabled_push hdesc).1 hdisabled with hstuck | hflags
    · exact ⟨prev, rfl, hstuck.2⟩
    · exact absurd ((flagged_iff hdesc).2 hflags) hquiet
  | none =>
    rw [watch, hprev] at hdisabled
    exact absurd hdisabled TreeSet.not_mem_emptyc

end HealthState

/-- **The health state of a session goes through a run of the monitor**, tick by tick; only the
first tick has no command to compare with. -/
theorem Session.checks {H : Type} [Libm] [Hal H] {cfg : Config} (hcfg : cfg.Valid) {hal : H}
    {clock : Clock} {es : List (Event H)} {r : Session H}
    (hr : Run Session.Step (Session.start cfg hal clock) es r) :
    ∃ cs, Run (HealthState.Step cfg.sensing) {} cs r.pipeline.health ∧
      cs.length = es.countP Event.isTick ∧ ∀ c ∈ cs.tail, c.compares = true := by
  suffices h : Sound cfg r ∧ ∃ cs, Run (HealthState.Step cfg.sensing) {} cs r.pipeline.health ∧
      cs.length = es.countP Event.isTick ∧ (∀ c ∈ cs.tail, c.compares = true) ∧
        (cs ≠ [] → r.pipeline.prevCommanded.isSome = true) by
    obtain ⟨-, cs, hrun, hlen, htail, -⟩ := h
    exact ⟨cs, hrun, hlen, htail⟩
  refine hr.history (P := fun es r => Sound cfg r ∧ ∃ cs,
    Run (HealthState.Step cfg.sensing) {} cs r.pipeline.health ∧
      cs.length = es.countP Event.isTick ∧ (∀ c ∈ cs.tail, c.compares = true) ∧
        (cs ≠ [] → r.pipeline.prevCommanded.isSome = true)) ?_
    ⟨.start cfg hal clock, [], .nil _, rfl, List.forall_mem_nil _, fun h => absurd rfl h⟩
  rintro es r e r' ⟨hsound, cs, hrun, hlen, htail, hprev⟩ hstep
  refine ⟨hsound.step hcfg hstep, ?_⟩
  have hcount : (es ++ [e]).countP Event.isTick =
      es.countP Event.isTick + if e.isTick then 1 else 0 := by
    rw [List.countP_append, List.countP_singleton]
  cases e with
  | tick =>
    obtain ⟨⟨p, snap⟩, ht, rfl⟩ := Option.map_eq_some_iff.1 hstep
    obtain ⟨loops, hadvanced⟩ := Pipeline.tick_advanced ht
    refine ⟨cs ++ [⟨r.pipeline.prevCommanded, Hal.observed r.pipeline.hal, r.pipeline.trusted,
      snap.resolved⟩], hrun.append (.single ?_), ?_, ?_, fun _ => ?_⟩
    · change _ = p.health
      rw [hadvanced.health, Pipeline.monitored, hsound.sensing]
      rfl
    · rw [List.length_append, List.length_singleton, hlen, hcount]
      rfl
    · cases cs with
      | nil => exact List.forall_mem_nil _
      | cons c cs =>
        rw [List.cons_append, List.tail_cons, List.forall_mem_append]
        exact ⟨htail, List.forall_mem_singleton.2 (hprev (List.cons_ne_nil _ _))⟩
    · change p.prevCommanded.isSome = true
      rw [hadvanced.prevCommanded]
      rfl
  | _ =>
    cases hstep
    exact ⟨cs, hrun, by rw [hlen, hcount]; rfl, htail, hprev⟩

section Bench

/-- A heater that is commanded on while it gets colder. -/
def coldTick (celsius : F64) : Check where
  prev := some ((Commands.allOff []).set (.house .heater) 100)
  observed := Commands.allOff []
  trusted := ⟨some celsius, none, none, none, none, ∅⟩
  resolved := ⟨24, some 60, 50, 85, 5, 1000, 15, 20⟩

/-- Two ticks without a response flag the heater. -/
def twoTicks : Sensing := { noResponseWindowTicks := 2, commandedVsObservedTol := 100 }

theorem no_response_bench : ∃ s, Run (HealthState.Step twoTicks) {} [coldTick 22, coldTick 21] s ∧
    HealthState.Flagged .heater (s.watch twoTicks (coldTick 20)).2 ∧
      LastUnresponsive .heater 2 [coldTick 22, coldTick 21, coldTick 20] := by
  have hr : Run (HealthState.Step twoTicks) {} [coldTick 22, coldTick 21]
      ((HealthState.watch twoTicks {} (coldTick 22)).1.watch twoTicks (coldTick 21)).1 :=
    .cons rfl (.single rfl)
  have hfaults : ((((HealthState.watch twoTicks {} (coldTick 22)).1.watch twoTicks
      (coldTick 21)).1.watch twoTicks (coldTick 20)).2.map fun f => (f.component, f.faultType)) =
        [("heater", .actuatorNoResponse)] := by
    decide +kernel
  obtain ⟨f, hf, htells⟩ := List.mem_map.1 (hfaults ▸ List.mem_cons_self)
  obtain ⟨hcomponent, htype⟩ := Prod.mk.inj htells
  have hflagged : HealthState.Flagged .heater
      (((HealthState.watch twoTicks {} (coldTick 22)).1.watch twoTicks
        (coldTick 21)).1.watch twoTicks (coldTick 20)).2 := ⟨f, hf, htype, hcomponent⟩
  exact ⟨_, hr, hflagged,
    (HealthState.no_response_runs twoTicks hr (coldTick 20)).2 .heater (by decide) hflagged⟩

end Bench

end Greenhouse.Controller
