import Greenhouse.Platform.Ingest

/-!
# What a status frame announces

The standing of a greenhouse is its connectivity with its time scale: what the live view returns
of it and what a status frame carries. An update of the view changes the standing of some
greenhouses and is followed by status frames.

* `Announced`: every greenhouse whose standing changed is announced as it now stands.
* `Fleet.announced_observe`, `Fleet.announced_setDegraded`, `Fleet.announced_setTimeScale`,
  `Fleet.announced_sweep`: the updates, with the changes they report.
* `announced_handleMessage`: a message, with the frames it broadcasts.
* `timeScale_handleMessage`: only a state frame changes the time scale.
-/

namespace Greenhouse.Platform

open Greenhouse.Numeric Greenhouse.Contract Std

/-- The connectivity of a greenhouse and its time scale. -/
structure Standing where
  status : Connectivity
  timeScale : Option F64
  deriving DecidableEq

def Live.standing (live : Live) : Standing := ⟨live.status, live.timeScale⟩

/-- The standing a status frame carries, and of which greenhouse. -/
def Frame.standing? : Frame → Option (String × Standing)
  | .status id _ connectivity timeScale => some (id, ⟨connectivity, timeScale⟩)
  | _ => none

/-- The second of an instant. -/
def second (now : Int) : Int := now / 1000000000

/-- The frame of a change that a sweep reports. -/
def sweepFrame (now : Int) (changed : String × Live) : Frame :=
  .status changed.1 (second now) changed.2.status changed.2.timeScale

namespace Fleet

/-- The live state of a greenhouse. -/
def get (f : Fleet) (id : String) : Option Live := f.entries[id]?.map Entry.snapshot

def standing (f : Fleet) (id : String) : Option Standing := (f.get id).map Live.standing

/-- The standing of a greenhouse; one that was never heard of is offline. -/
def shown (f : Fleet) (id : String) : Standing := (f.ensure id).snapshot.standing

variable {f f' f'' : Fleet} {id g : String} {ent : Entry}

theorem standing_put (f : Fleet) (id : String) (ent : Entry) :
    (f.put id ent).standing id = some ent.snapshot.standing := by
  rw [standing, get, put, TreeMap.getElem?_insert_self]
  rfl

theorem standing_put_of_ne (h : g ≠ id) : (f.put id ent).standing g = f.standing g := by
  have hne : compare id g ≠ .eq := fun heq => h (LawfulEqOrd.eq_of_compare heq).symm
  rw [standing, get, put, TreeMap.getElem?_insert, if_neg hne]
  rfl

theorem ensure_put_of_ne (h : g ≠ id) : (f.put id ent).ensure g = f.ensure g := by
  have hne : compare id g ≠ .eq := fun heq => h (LawfulEqOrd.eq_of_compare heq).symm
  rw [ensure, put, TreeMap.getD_insert, if_neg hne]
  rfl

/-- What the live view shows of a greenhouse, from what it has. -/
theorem shown_eq (f : Fleet) (id : String) :
    f.shown id = (f.standing id).getD ⟨.offline, none⟩ := by
  rw [shown, ensure, TreeMap.getD_eq_getD_getElem?, standing, get]
  cases f.entries[id]? <;> rfl

end Fleet

/-! ## Announcements -/

section Announced

variable {f f' f'' : Fleet} {id g : String} {ent : Entry} {told told' : List (String × Standing)}

/-- The standing of a greenhouse is what it was; one that was never heard of may have become
known, as offline. -/
def Unmoved (f f' : Fleet) (g : String) : Prop :=
  f'.standing g = f.standing g ∨ f.standing g = none ∧ f'.standing g = some ⟨.offline, none⟩

/-- After an update, the greenhouses that are told of stand as told, and the others as before. -/
structure Announced (f f' : Fleet) (told : List (String × Standing)) : Prop where
  stands : ∀ g s, (g, s) ∈ told → f'.standing g = some s
  unmoved : ∀ g, (∀ s, (g, s) ∉ told) → Unmoved f f' g

theorem Unmoved.trans (h : Unmoved f f' g) (h' : Unmoved f' f'' g) : Unmoved f f'' g := by
  rcases h with h | ⟨hnone, h⟩
  · rw [Unmoved, ← h]
    exact h'
  · rcases h' with h' | ⟨hnone', -⟩
    · exact .inr ⟨hnone, h'.trans h⟩
    · rw [h] at hnone'
      cases hnone'

theorem Unmoved.shown (h : Unmoved f f' g) : f'.shown g = f.shown g := by
  rw [Fleet.shown_eq, Fleet.shown_eq]
  rcases h with h | ⟨hnone, h⟩
  · rw [h]
  · rw [h, hnone]
    rfl

theorem Announced.shown (h : Announced f f' told) {s : Standing} (hs : (g, s) ∈ told) :
    f'.shown g = s := by
  rw [Fleet.shown_eq, h.stands g s hs]
  rfl

/-- An update that tells nothing. -/
theorem announced_nil : Announced f f' [] ↔ ∀ g, Unmoved f f' g := by
  constructor
  · intro h g
    exact h.unmoved g fun s => List.not_mem_nil
  · intro h
    exact ⟨fun g s hs => absurd hs List.not_mem_nil, fun g _ => h g⟩

theorem announced_refl (f : Fleet) : Announced f f [] := announced_nil.2 fun _ => .inl rfl

/-- The order of what is told does not matter. -/
theorem Announced.perm (h : Announced f f' told) (hperm : told'.Perm told) :
    Announced f f' told' := by
  constructor
  · intro g s hs
    exact h.stands g s (hperm.mem_iff.1 hs)
  · intro g hg
    exact h.unmoved g fun s hs => hg s (hperm.mem_iff.2 hs)

/-- An update before one that tells of the same greenhouses. -/
theorem Announced.join (h : Announced f f' told) (h' : Announced f' f'' told')
    (hsub : ∀ g s, (g, s) ∈ told → ∃ s', (g, s') ∈ told') : Announced f f'' told' := by
  refine ⟨h'.stands, fun g hg => ?_⟩
  have hbefore : Unmoved f f' g := by
    apply h.unmoved
    intro s hs
    obtain ⟨s', hs'⟩ := hsub g s hs
    exact hg s' hs'
  exact hbefore.trans (h'.unmoved g hg)

/-- A silent update before another one. -/
theorem Announced.after (h : Announced f f' []) (h' : Announced f' f'' told) :
    Announced f f'' told :=
  h.join h' fun _ _ hs => absurd hs List.not_mem_nil

/-- Replacing the entry of a greenhouse, told or left as it was. -/
theorem announced_put {s : Standing} (changed : Bool) (hs : ent.snapshot.standing = s)
    (hsame : changed = false → s = f.shown id) :
    Announced f (f.put id ent) (if changed then [(id, s)] else []) := by
  constructor
  · intro g t hg
    cases changed with
    | false => cases hg
    | true =>
      obtain ⟨rfl, rfl⟩ := Prod.mk.inj (List.mem_singleton.1 hg)
      rw [Fleet.standing_put, hs]
  · intro g hg
    by_cases hid : g = id
    · subst hid
      cases changed with
      | true => exact absurd (List.mem_singleton.2 rfl) (hg s)
      | false =>
        have hnow : (f.put g ent).standing g = some (f.shown g) := by
          rw [Fleet.standing_put, hs, hsame rfl]
        rw [Fleet.shown_eq] at hnow
        rw [Unmoved, hnow]
        cases f.standing g with
        | none => exact .inr ⟨rfl, rfl⟩
        | some s => exact .inl rfl
    · exact .inl (Fleet.standing_put_of_ne hid)

/-- Replacing the entry of a greenhouse by one of the same standing. -/
theorem announced_put_same (h : ent.snapshot.standing = f.shown id) :
    Announced f (f.put id ent) [] :=
  announced_put false h fun _ => rfl

end Announced

namespace Fleet

variable (f : Fleet) (id : String)

/-! ## The updates -/

theorem announced_setTemperature (x : Option F64) : Announced f (f.setTemperature id x) [] :=
  announced_put_same rfl

theorem announced_setHumidity (x : Option F64) : Announced f (f.setHumidity id x) [] :=
  announced_put_same rfl

theorem announced_setCO2 (x : Option F64) : Announced f (f.setCO2 id x) [] :=
  announced_put_same rfl

theorem announced_setDLI (x : Option F64) : Announced f (f.setDLI id x) [] :=
  announced_put_same rfl

theorem announced_setControllerMode (mode : String) :
    Announced f (f.setControllerMode id mode) [] :=
  announced_put_same rfl

theorem announced_setActuatorHealth (actuator zoneId health : String) :
    Announced f (f.setActuatorHealth id actuator zoneId health) [] :=
  announced_put_same rfl

theorem announced_setSensorFaults (faults : TreeMap FaultKey String) (ts : Int) :
    Announced f (f.setSensorFaults id faults ts) [] :=
  announced_put_same rfl

theorem announced_setActiveFaults (faults : TreeMap FaultKey ActiveFault) (ts : Int) :
    Announced f (f.setActiveFaults id faults ts).1 [] :=
  announced_put_same rfl

theorem standing_seen (ent : Entry) (ts : Int) :
    (seen ent ts).snapshot.standing = ent.snapshot.standing := by
  rw [seen]
  split
  · rfl
  · split <;> rfl

/-- Recomputing the status of an entry that differs from the recorded one in other fields. It may
be told of in any case. -/
theorem announced_applyLocked (ent : Entry) {now : Int} {told : Bool}
    (h : ent.snapshot.standing = f.shown id)
    (htold : (f.applyLocked id ent now).2.2 = true → told = true) :
    Announced f (f.applyLocked id ent now).1
      (if told then [(id, (f.applyLocked id ent now).2.1.standing)] else []) := by
  refine announced_put _ rfl fun hfalse => ?_
  have hstatus : f.deriveLocked ent now = ent.status := by
    by_contra hne
    rw [htold (decide_eq_true hne)] at hfalse
    cases hfalse
  rw [← h]
  show (⟨f.deriveLocked ent now, ent.timeScale⟩ : Standing) = ⟨ent.status, ent.timeScale⟩
  rw [hstatus]

/-- The time scales are left alone. -/
theorem timeScale_applyLocked (ent : Entry) {now : Int} (h : ent.snapshot.standing = f.shown id)
    (g : String) :
    ((f.applyLocked id ent now).1.shown g).timeScale = (f.shown g).timeScale := by
  by_cases hg : g = id
  · subst hg
    rw [← h, shown, applyLocked, ensure_put]
    rfl
  · rw [shown, applyLocked, ensure_put_of_ne hg]
    rfl

theorem timeScale_setDegraded (degraded : Bool) (ts : Int) (g : String) :
    ((f.setDegraded id degraded ts).1.shown g).timeScale = (f.shown g).timeScale :=
  timeScale_applyLocked f id { seen (f.ensure id) ts with degraded }
    (standing_seen (f.ensure id) ts) g

theorem announced_observe (ts : Int) :
    Announced f (f.observe id ts).1
      (if (f.observe id ts).2.2 then [(id, (f.observe id ts).2.1.standing)] else []) :=
  announced_applyLocked f id _ (standing_seen (f.ensure id) ts) fun h => h

theorem announced_setDegraded (degraded : Bool) (ts : Int) (told : Bool)
    (htold : (f.setDegraded id degraded ts).2.2 = true → told = true) :
    Announced f (f.setDegraded id degraded ts).1
      (if told then [(id, (f.setDegraded id degraded ts).2.1.standing)] else []) :=
  announced_applyLocked f id { seen (f.ensure id) ts with degraded }
    (standing_seen (f.ensure id) ts) htold

theorem announced_setTimeScale (scale : Option F64) :
    Announced f (f.setTimeScale id scale).1
      (if (f.setTimeScale id scale).2.2 then
        [(id, (f.setTimeScale id scale).2.1.standing)] else []) := by
  refine announced_put _ rfl fun hsame => ?_
  have hscale : scale = (f.ensure id).timeScale := by
    simp only [setTimeScale] at hsame
    split at hsame
    · rename_i hnone
      exact hnone.symm
    · rename_i a b hsome
      rw [hsome, F64.eq_of_feq ((Bool.not_eq_false' _).mp hsame)]
    · cases hsame
  rw [hscale]
  rfl

theorem timeScale_sweep (now : Int) (g : String) :
    ((f.sweep now).1.shown g).timeScale = (f.shown g).timeScale := by
  rw [shown_eq, shown_eq, standing, standing, get, get]
  show (((f.entries.map _)[g]?.map Entry.snapshot).map Live.standing |>.getD _).timeScale = _
  rw [TreeMap.getElem?_map]
  cases f.entries[g]? <;> rfl

theorem timeScale_setTimeScale (scale : Option F64) (g : String) :
    ((f.setTimeScale id scale).1.shown g).timeScale =
      if id = g then scale else (f.shown g).timeScale := by
  show ((f.put id { f.ensure id with timeScale := scale }).shown g).timeScale = _
  by_cases hg : id = g
  · subst hg
    rw [if_pos rfl, shown, ensure_put]
    rfl
  · rw [if_neg hg, shown, ensure_put_of_ne (Ne.symm hg)]
    rfl

/-- The greenhouses a sweep returns. -/
theorem mem_sweep {now : Int} {g : String} {live : Live} :
    (g, live) ∈ (f.sweep now).2 ↔ ∃ ent, f.entries[g]? = some ent ∧
      f.deriveLocked ent now ≠ ent.status ∧
      ({ ent with status := f.deriveLocked ent now } : Entry).snapshot = live := by
  constructor
  · intro h
    obtain ⟨⟨id, ent⟩, hent, hsome⟩ := List.mem_filterMap.1 h
    have hget := TreeMap.mem_toList_iff_getElem?_eq_some.1 hent
    dsimp only at hsome
    by_cases hsame : f.deriveLocked ent now = ent.status
    · rw [if_pos hsame] at hsome
      cases hsome
    · rw [if_neg hsame] at hsome
      cases hsome
      exact ⟨ent, hget, hsame, rfl⟩
  · rintro ⟨ent, hent, hne, rfl⟩
    have hmem := TreeMap.mem_toList_iff_getElem?_eq_some.2 hent
    exact List.mem_filterMap.2 ⟨(g, ent), hmem, if_neg hne⟩

/-- A sweep tells of every greenhouse whose status changed. -/
theorem announced_sweep (now : Int) :
    Announced f (f.sweep now).1 ((f.sweep now).2.map fun p => (p.1, p.2.standing)) := by
  let derived (ent : Entry) : Entry := { ent with status := f.deriveLocked ent now }
  have hafter : ∀ g, (f.sweep now).1.standing g =
      f.entries[g]?.map fun ent => (derived ent).snapshot.standing := by
    intro g
    show ((f.entries.map fun _ ent => derived ent)[g]?.map Entry.snapshot).map Live.standing = _
    rw [TreeMap.getElem?_map]
    cases f.entries[g]? <;> rfl
  have htold : ∀ g s, (g, s) ∈ (f.sweep now).2.map (fun p => (p.1, p.2.standing)) ↔
      ∃ ent, f.entries[g]? = some ent ∧ f.deriveLocked ent now ≠ ent.status ∧
        (derived ent).snapshot.standing = s := by
    intro g s
    constructor
    · intro h
      obtain ⟨p, hp, heq⟩ := List.mem_map.1 h
      obtain ⟨rfl, rfl⟩ := Prod.mk.inj heq
      obtain ⟨ent, hent, hne, hlive⟩ := (mem_sweep f).1 hp
      exact ⟨ent, hent, hne, congrArg Live.standing hlive⟩
    · rintro ⟨ent, hent, hne, rfl⟩
      exact List.mem_map.2 ⟨(g, (derived ent).snapshot), (mem_sweep f).2 ⟨ent, hent, hne, rfl⟩, rfl⟩
  constructor
  · intro g s hs
    obtain ⟨ent, hent, -, rfl⟩ := (htold g s).1 hs
    rw [hafter, hent]
    rfl
  · intro g hg
    refine .inl ?_
    rw [hafter, standing, get]
    cases hent : f.entries[g]? with
    | none => rfl
    | some ent =>
      have hsame : f.deriveLocked ent now = ent.status := by
        by_contra hne
        exact hg _ ((htold g _).2 ⟨ent, hent, hne, rfl⟩)
      show some (⟨f.deriveLocked ent now, ent.timeScale⟩ : Standing) = _
      rw [hsame]
      rfl

end Fleet

/-! ## Messages -/

section Messages

variable {f : Fleet}

theorem standing_statusFrame (changed : Bool) (id : String) (ts : Int) (live : Live) :
    (statusFrame changed id ts live).filterMap Frame.standing? =
      if changed then [(id, live.standing)] else [] := by
  cases changed <;> rfl

theorem announced_noteReading (f : Fleet) (reading : Reading) :
    Announced f (noteReading f reading) [] := by
  rw [noteReading]
  split
  · exact announced_refl f
  · split
    · exact f.announced_setTemperature _ _
    · split
      · exact f.announced_setHumidity _ _
      · split
        · exact f.announced_setCO2 _ _
        · exact announced_refl f

theorem announced_noteState (f : Fleet) (id : String) (payload : SystemStatePayload) :
    Announced f (noteState f id payload) [] := by
  have hkeep : ∀ (value : Option F64) (set : Fleet → String → Option F64 → Fleet),
      (∀ f, Announced f (set f id value) []) →
        ∀ f, Announced f (if value.isSome then set f id value else f) [] := by
    intro value set hset f
    split
    · exact hset f
    · exact announced_refl f
  have htemperature := hkeep payload.temperature _ fun f => f.announced_setTemperature id _
  have hhumidity := hkeep payload.humidity _ fun f => f.announced_setHumidity id _
  have hco2 := hkeep payload.co2 _ fun f => f.announced_setCO2 id _
  have hdli := hkeep payload.dli _ fun f => f.announced_setDLI id _
  exact (((htemperature f).after (hhumidity _)).after (hco2 _)).after (hdli _)

/-- The live view after a state frame, before the status is recomputed. -/
def faulted (f : Fleet) (payload : SystemStatePayload) (ts : Int) : Fleet :=
  let id := payload.env.greenhouseId
  let scaled := (f.setTimeScale id (payload.simulation.map SimulationPayload.timeScale)).1
  let moded := (noteState scaled id payload).setControllerMode id payload.mode
  let sensed := moded.setSensorFaults id (sensorFaults payload) ts
  (sensed.setActiveFaults id (activeFaults payload) ts).1

/-- Between the time scale and the status nothing is announced. -/
theorem announced_faulted (f : Fleet) (payload : SystemStatePayload) (ts : Int) :
    Announced (f.setTimeScale payload.env.greenhouseId
      (payload.simulation.map SimulationPayload.timeScale)).1 (faulted f payload ts) [] := by
  let id := payload.env.greenhouseId
  let scaled := (f.setTimeScale id (payload.simulation.map SimulationPayload.timeScale)).1
  have hmoded := (announced_noteState scaled id payload).after
    (Fleet.announced_setControllerMode _ id payload.mode)
  have hsensed := hmoded.after (Fleet.announced_setSensorFaults _ id (sensorFaults payload) ts)
  exact hsensed.after (Fleet.announced_setActiveFaults _ id (activeFaults payload) ts)

/-- A state frame is announced when the time scale or the status changed. -/
theorem announced_applyState (f : Fleet) (payload : SystemStatePayload) (ts now : Int) :
    Announced f (applyState f payload ts now).fleet
      ((applyState f payload ts now).broadcast.filterMap Frame.standing?) := by
  let id := payload.env.greenhouseId
  let scale := payload.simulation.map SimulationPayload.timeScale
  let degraded := !payload.healthy || payload.mode != "normal"
  let told := ((faulted f payload ts).setDegraded id degraded now).2.2 ||
    (f.setTimeScale id scale).2.2
  have hdegraded := (faulted f payload ts).announced_setDegraded id degraded now told
    fun h => (Bool.or_eq_true _ _).mpr (.inl h)
  have hframes : (applyState f payload ts now).broadcast.filterMap Frame.standing? =
      if told then [(id, ((faulted f payload ts).setDegraded id degraded now).2.1.standing)]
      else [] := by
    show (_ ++ statusFrame told id ts _).filterMap Frame.standing? = _
    rw [List.filterMap_append, standing_statusFrame]
    split <;> rfl
  rw [hframes]
  refine (f.announced_setTimeScale id scale).join
    ((announced_faulted f payload ts).after hdegraded) fun g s hs => ?_
  cases hscale : (f.setTimeScale id scale).2.2 with
  | false =>
    rw [hscale] at hs
    cases hs
  | true =>
    rw [hscale] at hs
    obtain ⟨rfl, -⟩ := Prod.mk.inj (List.mem_singleton.1 hs)
    have htold : told = true := (Bool.or_eq_true _ _).mpr (.inr hscale)
    rw [htold]
    exact ⟨_, List.mem_singleton.2 rfl⟩

/-- A state frame sets the time scale of its greenhouse. -/
theorem timeScale_applyState (f : Fleet) (payload : SystemStatePayload) (ts now : Int)
    (g : String) : ((applyState f payload ts now).fleet.shown g).timeScale =
      if payload.env.greenhouseId = g then payload.simulation.map SimulationPayload.timeScale
      else (f.shown g).timeScale := by
  let id := payload.env.greenhouseId
  have hsilent := announced_faulted f payload ts
  let degraded := !payload.healthy || payload.mode != "normal"
  have hfleet : (applyState f payload ts now).fleet =
      ((faulted f payload ts).setDegraded id degraded now).1 := rfl
  rw [hfleet, Fleet.timeScale_setDegraded, (announced_nil.1 hsilent g).shown,
    Fleet.timeScale_setTimeScale]

theorem standing_sweepFrame (now : Int) (changed : List (String × Live)) :
    (changed.map (sweepFrame now)).filterMap Frame.standing? =
      changed.map fun p => (p.1, p.2.standing) := by
  rw [List.filterMap_map, ← List.filterMap_eq_map]
  rfl

section Handlers

variable {now : Int} {handled : Handled}

/-- A message that tells nothing but that its greenhouse is alive: the status is recomputed and
announced if it changed. -/
def Observed (f : Fleet) (now : Int) (handled : Handled) : Prop :=
  ∃ (noted : Fleet) (id : String) (ent : Entry),
    Announced f noted [] ∧ ent.snapshot.standing = noted.shown id ∧
      handled.fleet = (noted.applyLocked id ent now).1 ∧
        handled.broadcast.filterMap Frame.standing? =
          if (noted.applyLocked id ent now).2.2 then
            [(id, (noted.applyLocked id ent now).2.1.standing)] else []

theorem Observed.announced (h : Observed f now handled) :
    Announced f handled.fleet (handled.broadcast.filterMap Frame.standing?) := by
  obtain ⟨noted, id, ent, hnoted, hent, hfleet, hframes⟩ := h
  rw [hfleet, hframes]
  exact hnoted.after (noted.announced_applyLocked id ent hent fun h => h)

theorem Observed.timeScale (h : Observed f now handled) (g : String) :
    (handled.fleet.shown g).timeScale = (f.shown g).timeScale := by
  obtain ⟨noted, id, ent, hnoted, hent, hfleet, -⟩ := h
  rw [hfleet, noted.timeScale_applyLocked id ent hent, (announced_nil.1 hnoted g).shown]

variable [Rfc3339] {data : Document} {topicId : String}

theorem observed_onReading (h : onReading f data topicId now = some handled) :
    Observed f now handled := by
  simp only [onReading, Option.bind_eq_bind, Option.bind_eq_some_iff] at h
  obtain ⟨-, -, reading, -, h⟩ := h
  cases h
  exact ⟨_, _, _, announced_noteReading f reading, Fleet.standing_seen _ now, rfl,
    standing_statusFrame _ _ reading.ts _⟩

theorem observed_onActuator (h : onActuator f data topicId now = some handled) :
    Observed f now handled := by
  simp only [onActuator, Option.bind_eq_bind, Option.bind_eq_some_iff] at h
  obtain ⟨-, -, sample, -, h⟩ := h
  cases h
  refine ⟨_, _, _, ?_, Fleet.standing_seen _ now, rfl, standing_statusFrame _ _ sample.ts _⟩
  split
  · exact f.announced_setActuatorHealth _ _ _ _
  · exact announced_refl f

theorem observed_onFault (h : onFault f data topicId now = some handled) :
    Observed f now handled := by
  simp only [onFault, Option.bind_eq_bind, Option.bind_eq_some_iff] at h
  obtain ⟨-, -, event, -, h⟩ := h
  cases h
  exact ⟨f, _, { Fleet.seen (f.ensure event.greenhouseId) now with degraded := true },
    announced_refl f, Fleet.standing_seen _ now, rfl, standing_statusFrame _ _ event.ts _⟩

/-- The state frame that a message is taken for. -/
def stateOf (known : List String) (topic : String) (data : Document) :
    Option SystemStatePayload := do
  let info ← parseTopic topic
  if info.greenhouseId ∈ known ∧ info.kind = .state then
    let decoded ← decodeSystemState data
    matched info.greenhouseId (fun p => p.env.greenhouseId) decoded.1
  else none

variable {known : List String} {topic : String}

/-- A message that is not dropped is a state frame or an observation. -/
theorem handleMessage_cases (h : handleMessage known f topic data now = some handled) :
    stateOf known topic data = none ∧ Observed f now handled ∨
      ∃ payload ts, stateOf known topic data = some payload ∧
        handled = applyState f payload ts now := by
  simp only [handleMessage, Option.bind_eq_bind, Option.bind_eq_some_iff] at h
  obtain ⟨info, hinfo, h⟩ := h
  simp only [stateOf, hinfo, Option.bind_eq_bind, Option.bind_some]
  by_cases hknown : info.greenhouseId ∈ known
  · rw [if_pos hknown] at h
    cases hkind : info.kind with
    | state =>
      rw [hkind] at h
      simp only [onState, Option.bind_eq_bind, Option.bind_eq_some_iff] at h
      obtain ⟨⟨decoded, ts⟩, hdecoded, payload, hpayload, h⟩ := h
      refine .inr ⟨payload, ts, ?_, (Option.some.inj h).symm⟩
      rw [if_pos ⟨hknown, rfl⟩, hdecoded]
      exact hpayload
    | _ =>
      rw [hkind] at h
      refine .inl ⟨if_neg ?_, ?_⟩
      · rintro ⟨-, hstate⟩
        cases hstate
      · first
          | exact observed_onReading h
          | exact observed_onActuator h
          | exact observed_onFault h
  · rw [if_neg hknown] at h
    cases h

/-- A message that is dropped is not taken for a state frame. -/
theorem stateOf_of_dropped (h : handleMessage known f topic data now = none) :
    stateOf known topic data = none := by
  by_contra hne
  obtain ⟨payload, hpayload⟩ := Option.ne_none_iff_exists'.1 hne
  simp only [stateOf, Option.bind_eq_bind, Option.bind_eq_some_iff] at hpayload
  obtain ⟨info, hinfo, hpayload⟩ := hpayload
  split at hpayload
  · rename_i hstate
    obtain ⟨⟨decoded, ts⟩, hdecoded, hmatched⟩ := Option.bind_eq_some_iff.1 hpayload
    simp only [handleMessage, hinfo, Option.bind_eq_bind, Option.bind_some, if_pos hstate.1,
      hstate.2, onState, hdecoded] at h
    rw [hmatched] at h
    cases h
  · cases hpayload

/-- **A message is announced**: the standings it changed are those its frames carry. -/
theorem announced_handleMessage (h : handleMessage known f topic data now = some handled) :
    Announced f handled.fleet (handled.broadcast.filterMap Frame.standing?) := by
  rcases handleMessage_cases h with ⟨-, hobserved⟩ | ⟨payload, ts, -, rfl⟩
  · exact hobserved.announced
  · exact announced_applyState f payload ts now

end Handlers

end Messages

end Greenhouse.Platform
