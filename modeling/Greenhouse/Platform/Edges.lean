import Greenhouse.Platform.Standing

/-!
# Connectivity edges

The status of a greenhouse is derived from the last contact, the time scale and the degraded flag,
by the calls that observe it and by the sweep of the liveness loop. Each reports the greenhouses
whose status it changed.

* `Reported`: what a call reports is what it changed.
* `LiveCall.reported_serve`: **every call but a change of the time scale reports so.**
* `LiveCall.facts`: the last contact and the time scale are those of the calls.
* `connectivity_edges`: **the reports of every history give the status, and a sweep finds offline
  exactly the greenhouses that have been quiet for longer than their horizon.**
-/

namespace Greenhouse.Platform

open Greenhouse.Numeric Std

/-! ## One call -/

/-- A call that may change a status. -/
inductive LiveCall where
  | observe (id : String) (ts : Int)
  | setDegraded (id : String) (degraded : Bool) (ts : Int)
  | setTimeScale (id : String) (scale : Option ℚ)
  | sweep (now : Int)

/-- The report of a call for one greenhouse. -/
def reportOf (id : String) (result : Fleet × Live × Bool) : Fleet × List (String × Live) :=
  (result.1, if result.2.2 then [(id, result.2.1)] else [])

/-- The view after a call, and the changes it reports. -/
def LiveCall.serve (f : Fleet) : LiveCall → Fleet × List (String × Live)
  | observe id ts => reportOf id (f.observe id ts)
  | setDegraded id degraded ts => reportOf id (f.setDegraded id degraded ts)
  | setTimeScale id scale => reportOf id (f.setTimeScale id (scale.map .fin))
  | sweep now => f.sweep now

/-- The greenhouses told of are those whose status changed, each with its status. -/
structure Reported (f f' : Fleet) (told : List (String × Live)) : Prop where
  changed : ∀ g, (∃ live, (g, live) ∈ told) ↔ (f'.shown g).status ≠ (f.shown g).status
  status : ∀ g live, (g, live) ∈ told → live.status = (f'.shown g).status

namespace Fleet

variable {f : Fleet} {id g : String}

theorem shown_put (f : Fleet) (id : String) (ent : Entry) :
    (f.put id ent).shown id = ent.snapshot.standing := by
  rw [shown, ensure_put]

theorem shown_put_of_ne (f : Fleet) (ent : Entry) (h : g ≠ id) :
    (f.put id ent).shown g = f.shown g := by
  rw [shown, ensure_put_of_ne h]
  rfl

/-- Recomputing the status of an entry that has the recorded one. -/
theorem reported_applyLocked {ent : Entry} {now : Int} (h : ent.status = (f.shown id).status) :
    Reported f (f.applyLocked id ent now).1 (reportOf id (f.applyLocked id ent now)).2 := by
  have hstatus : ((f.applyLocked id ent now).1.shown id).status = f.deriveLocked ent now := by
    rw [applyLocked, shown_put]
    rfl
  have hchanged : (f.applyLocked id ent now).2.2 = true ↔
      ((f.applyLocked id ent now).1.shown id).status ≠ (f.shown id).status := by
    rw [hstatus, ← h]
    exact decide_eq_true_iff
  have htold : ∀ g live, (g, live) ∈ (reportOf id (f.applyLocked id ent now)).2 ↔
      (g = id ∧ live = (f.applyLocked id ent now).2.1) ∧ (f.applyLocked id ent now).2.2 = true := by
    intro g live
    rw [reportOf]
    split
    · rename_i hyes
      simp [hyes]
    · rename_i hno
      simp [hno]
  constructor
  · intro g
    by_cases hg : g = id
    · subst hg
      rw [← hchanged]
      constructor
      · intro hex
        obtain ⟨live, hlive⟩ := hex
        exact ((htold g live).1 hlive).2
      · intro hyes
        exact ⟨_, (htold g _).2 ⟨⟨rfl, rfl⟩, hyes⟩⟩
    · refine iff_of_false ?_ ?_
      · intro hex
        obtain ⟨live, hlive⟩ := hex
        exact hg ((htold g live).1 hlive).1.1
      · rw [applyLocked, shown_put_of_ne _ _ hg]
        exact fun hne => hne rfl
  · intro g live hlive
    obtain ⟨⟨rfl, rfl⟩, -⟩ := (htold g live).1 hlive
    rw [hstatus]
    rfl

/-- A sweep recomputes the status of every greenhouse; one that is not known stays offline. -/
theorem ensure_sweep (f : Fleet) (now : Int) (id : String) :
    (f.sweep now).1.ensure id =
      { f.ensure id with status := f.deriveLocked (f.ensure id) now } := by
  show (f.entries.map fun _ ent => { ent with status := f.deriveLocked ent now }).getD id
    ({} : Entry) = _
  rw [ensure, TreeMap.getD_eq_getD_getElem?, TreeMap.getD_eq_getD_getElem?, TreeMap.getElem?_map]
  cases f.entries[id]? <;> rfl

theorem reported_sweep (f : Fleet) (now : Int) : Reported f (f.sweep now).1 (f.sweep now).2 := by
  have hstatus : ∀ g, ((f.sweep now).1.shown g).status = f.deriveLocked (f.ensure g) now := by
    intro g
    rw [shown, ensure_sweep]
    rfl
  have hensure : ∀ {g : String} {ent : Entry}, f.entries[g]? = some ent → f.ensure g = ent := by
    intro g ent hent
    rw [ensure, TreeMap.getD_eq_getD_getElem?, hent]
    rfl
  constructor
  · intro g
    rw [hstatus]
    constructor
    · intro hex
      obtain ⟨live, hlive⟩ := hex
      obtain ⟨ent, hent, hne, -⟩ := (mem_sweep f).1 hlive
      rw [shown, hensure hent]
      exact hne
    · intro hne
      cases hent : f.entries[g]? with
      | none =>
        have hfresh : f.ensure g = {} := by
          rw [ensure, TreeMap.getD_eq_getD_getElem?, hent]
          rfl
        rw [shown, hfresh] at hne
        exact absurd rfl hne
      | some ent =>
        rw [shown, hensure hent] at hne
        exact ⟨_, (mem_sweep f).2 ⟨ent, hent, hne, rfl⟩⟩
  · intro g live hlive
    obtain ⟨ent, hent, -, rfl⟩ := (mem_sweep f).1 hlive
    rw [hstatus, hensure hent]
    rfl

theorem status_seen (ent : Entry) (ts : Int) : (seen ent ts).status = ent.status :=
  congrArg Standing.status (standing_seen ent ts)

end Fleet

namespace LiveCall

variable {f : Fleet} {id : String}

/-- The call is a change of a time scale. -/
def IsScale : LiveCall → Prop
  | setTimeScale _ _ => True
  | _ => False

/-- **Every call but a change of the time scale reports the statuses it changed.** -/
theorem reported_serve {x : LiveCall} (hx : ¬ x.IsScale) :
    Reported f (x.serve f).1 (x.serve f).2 := by
  cases x with
  | observe id ts => exact Fleet.reported_applyLocked (Fleet.status_seen (f.ensure id) ts)
  | setDegraded id degraded ts =>
    exact Fleet.reported_applyLocked (Fleet.status_seen (f.ensure id) ts)
  | setTimeScale id scale => exact absurd trivial hx
  | sweep now => exact Fleet.reported_sweep f now

/-- A change of the time scale changes no status. -/
theorem status_setTimeScale (scale : Option ℚ) (g : String) :
    (((setTimeScale id scale).serve f).1.shown g).status = (f.shown g).status := by
  show ((f.put id { f.ensure id with timeScale := scale.map .fin }).shown g).status = _
  by_cases hg : g = id
  · subst hg
    rw [Fleet.shown_put]
    rfl
  · rw [Fleet.shown_put_of_ne _ _ hg]

/-- **It is reported when the time scale is another one.** -/
theorem setTimeScale_changed_iff (scale : Option ℚ) :
    (f.setTimeScale id (scale.map .fin)).2.2 = true ↔
      scale.map F64.fin ≠ (f.shown id).timeScale := by
  have hfeq : ∀ (a : F64) (q : ℚ), (!a.feq (.fin q)) = true ↔ F64.fin q ≠ a := by
    intro a q
    cases a with
    | fin p =>
      show (!decide (F64.fin p = .fin q)) = true ↔ _
      rw [Bool.not_eq_true', decide_eq_false_iff_not]
      exact ne_comm
    | _ => exact iff_of_true rfl fun h => by cases h
  show (f.setTimeScale id (scale.map .fin)).2.2 = true ↔
    scale.map F64.fin ≠ (f.ensure id).timeScale
  cases hold : (f.ensure id).timeScale with
  | none => cases scale <;> simp [Fleet.setTimeScale, hold]
  | some a =>
    cases scale with
    | none => simp [Fleet.setTimeScale, hold]
    | some q =>
      simp only [Fleet.setTimeScale, hold, Option.map_some, ne_eq, Option.some.injEq]
      exact hfeq a q

/-- Whatever is reported carries the status of the greenhouse, and a status that changed is
reported. -/
theorem status_serve (x : LiveCall) (g : String) :
    (∀ live, (g, live) ∈ (x.serve f).2 → live.status = ((x.serve f).1.shown g).status) ∧
      ((∀ live, (g, live) ∉ (x.serve f).2) →
        ((x.serve f).1.shown g).status = (f.shown g).status) := by
  by_cases hx : x.IsScale
  · cases x with
    | setTimeScale id scale =>
      refine ⟨fun live hlive => ?_, fun _ => status_setTimeScale scale g⟩
      have hone : (g, live) = (id, (f.setTimeScale id (scale.map .fin)).2.1) := by
        simp only [serve, reportOf] at hlive
        split at hlive
        · exact List.mem_singleton.1 hlive
        · cases hlive
      obtain ⟨rfl, rfl⟩ := Prod.mk.inj hone
      rw [status_setTimeScale]
      rfl
    | _ => exact hx.elim
  · have hreported := reported_serve (f := f) hx
    refine ⟨hreported.status g, fun hnone => ?_⟩
    by_contra hne
    obtain ⟨live, hlive⟩ := (hreported.changed g).2 hne
    exact hnone live hlive

end LiveCall

/-! ## Histories -/

/-- The status of a greenhouse after some reports; it is offline until there is one. -/
def statusAfter (id : String) (start : Connectivity) (told : List (String × Live)) :
    Connectivity :=
  told.foldl (fun status report => if report.1 = id then report.2.status else status) start

/-- Reports that agree. -/
theorem statusAfter_of_agree {id : String} {start status : Connectivity}
    {told : List (String × Live)} (hagree : ∀ live, (id, live) ∈ told → live.status = status)
    (hnone : (∀ live, (id, live) ∉ told) → start = status) :
    statusAfter id start told = status := by
  induction told generalizing start with
  | nil => exact hnone fun live => List.not_mem_nil
  | cons report told ih =>
    obtain ⟨g, live⟩ := report
    refine ih (fun live hlive => hagree live (List.mem_cons_of_mem _ hlive)) fun hrest => ?_
    dsimp only
    split
    · rename_i hg
      subst hg
      exact hagree live List.mem_cons_self
    · rename_i hg
      refine hnone fun other hother => ?_
      rcases List.mem_cons.1 hother with heq | hother
      · exact hg (Prod.mk.inj heq).1.symm
      · exact hrest other hother

theorem statusAfter_append (id : String) (start : Connectivity)
    (told told' : List (String × Live)) :
    statusAfter id start (told ++ told') = statusAfter id (statusAfter id start told) told' :=
  List.foldl_append

/-- The view after some calls, and all they reported. -/
def serveCalls (f : Fleet) : List LiveCall → Fleet × List (String × Live)
  | [] => (f, [])
  | x :: calls =>
    let rest := serveCalls (x.serve f).1 calls
    (rest.1, (x.serve f).2 ++ rest.2)

/-- **Folding the reports gives the status.** -/
theorem statusAfter_serveCalls (id : String) (calls : List LiveCall) (f : Fleet) :
    statusAfter id (f.shown id).status (serveCalls f calls).2 =
      ((serveCalls f calls).1.shown id).status := by
  induction calls generalizing f with
  | nil => rfl
  | cons x calls ih =>
    obtain ⟨htold, huntold⟩ := LiveCall.status_serve (f := f) x id
    have hone : statusAfter id (f.shown id).status (x.serve f).2 =
        ((x.serve f).1.shown id).status :=
      statusAfter_of_agree htold fun hnone => (huntold hnone).symm
    show statusAfter id (f.shown id).status
      ((x.serve f).2 ++ (serveCalls (x.serve f).1 calls).2) = _
    rw [statusAfter_append, hone]
    exact ih (x.serve f).1

/-- When a call sees a greenhouse. -/
def LiveCall.seenAt? (id : String) : LiveCall → Option Int
  | observe g ts => if g = id then some ts else none
  | setDegraded g _ ts => if g = id then some ts else none
  | _ => none

/-- The time scale a call reports of a greenhouse. -/
def LiveCall.scale? (id : String) : LiveCall → Option (Option ℚ)
  | setTimeScale g scale => if g = id then some scale else none
  | _ => none

/-- The latest instant at which a greenhouse was seen. -/
def lastSeen? (id : String) (calls : List LiveCall) : Option Int :=
  (calls.filterMap (LiveCall.seenAt? id)).max?

/-- The last time scale reported of a greenhouse. -/
def lastScale? (id : String) (calls : List LiveCall) : Option ℚ :=
  (calls.filterMap (LiveCall.scale? id)).getLast?.join

/-- The latest instant, with another one. -/
def later (last : Option Int) (ts : Int) : Int :=
  match last with
  | some seen => max seen ts
  | none => ts

/-- The scale of the horizon: one unless a positive time scale is reported. -/
def scaleOf : Option ℚ → ℚ
  | some scale => if 0 < scale then scale else 1
  | none => 1

/-- The entry of a greenhouse has what the calls reported. -/
structure Facts (f : Fleet) (offlineAfter : Int) (id : String) (calls : List LiveCall) : Prop where
  lastSeen : (f.ensure id).lastSeen = lastSeen? id calls
  timeScale : (f.ensure id).timeScale = (lastScale? id calls).map .fin
  offlineAfter : f.offlineAfter = offlineAfter

section Facts

variable {f : Fleet} {offlineAfter : Int} {id : String} {calls : List LiveCall}

theorem lastSeen?_append_seen {x : LiveCall} {ts : Int} (hx : x.seenAt? id = some ts) :
    lastSeen? id (calls ++ [x]) = some (later (lastSeen? id calls) ts) := by
  rw [lastSeen?, lastSeen?, List.filterMap_append, List.filterMap_cons, hx]
  cases calls.filterMap (LiveCall.seenAt? id) with
  | nil => rfl
  | cons y ys =>
    show (y :: (ys ++ [ts])).max? = some _
    rw [List.max?_cons', List.max?_cons', List.foldl_append]
    rfl

theorem lastSeen?_append_unseen {x : LiveCall} (hx : x.seenAt? id = none) :
    lastSeen? id (calls ++ [x]) = lastSeen? id calls := by
  rw [lastSeen?, lastSeen?, List.filterMap_append, List.filterMap_cons, hx, List.filterMap_nil,
    List.append_nil]

theorem lastScale?_append {x : LiveCall} :
    lastScale? id (calls ++ [x]) = (x.scale? id).elim (lastScale? id calls) fun scale => scale := by
  rw [lastScale?, lastScale?, List.filterMap_append, List.filterMap_cons]
  cases x.scale? id with
  | none => rw [List.filterMap_nil, List.append_nil]; rfl
  | some scale =>
    rw [List.filterMap_nil, List.getLast?_append]
    rfl

/-- A contact moves the clock of an entry forward. -/
theorem lastSeen_seen (ent : Entry) (ts : Int) :
    (Fleet.seen ent ts).lastSeen = some (later ent.lastSeen ts) := by
  rw [Fleet.seen]
  cases hseen : ent.lastSeen with
  | none => rfl
  | some lastSeen =>
    dsimp only
    split
    · rename_i hlt
      rw [later, max_eq_right hlt.le]
    · rename_i hle
      rw [later, max_eq_left (Int.not_lt.1 hle), hseen]

/-- What another call leaves. -/
theorem Facts.other (h : Facts f offlineAfter id calls) {x : LiveCall} {f' : Fleet}
    (hensure : f'.ensure id = f.ensure id) (hoffline : f'.offlineAfter = f.offlineAfter)
    (hseen : x.seenAt? id = none) (hscale : x.scale? id = none) :
    Facts f' offlineAfter id (calls ++ [x]) where
  lastSeen := by rw [hensure, h.lastSeen, lastSeen?_append_unseen hseen]
  timeScale := by rw [hensure, h.timeScale, lastScale?_append, hscale]; rfl
  offlineAfter := hoffline.trans h.offlineAfter

/-- A contact. -/
theorem Facts.seen (h : Facts f offlineAfter id calls) {x : LiveCall} {ts : Int} {ent : Entry}
    (hlast : ent.lastSeen = (Fleet.seen (f.ensure id) ts).lastSeen)
    (htime : ent.timeScale = (f.ensure id).timeScale) (hseen : x.seenAt? id = some ts)
    (hscale : x.scale? id = none) : Facts (f.put id ent) offlineAfter id (calls ++ [x]) where
  lastSeen := by
    rw [Fleet.ensure_put, hlast, lastSeen_seen, h.lastSeen, lastSeen?_append_seen hseen]
  timeScale := by
    rw [Fleet.ensure_put, htime, h.timeScale, lastScale?_append, hscale]
    rfl
  offlineAfter := h.offlineAfter

theorem timeScale_seen (ent : Entry) (ts : Int) :
    (Fleet.seen ent ts).timeScale = ent.timeScale :=
  congrArg Standing.timeScale (Fleet.standing_seen ent ts)

/-- **A call keeps the facts.** -/
theorem Facts.step (h : Facts f offlineAfter id calls) (x : LiveCall) :
    Facts (x.serve f).1 offlineAfter id (calls ++ [x]) := by
  cases x with
  | observe g ts =>
    by_cases hg : g = id
    · subst hg
      exact h.seen rfl (timeScale_seen _ ts) (if_pos rfl) rfl
    · exact h.other (Fleet.ensure_put_of_ne (Ne.symm hg)) rfl (if_neg hg) rfl
  | setDegraded g degraded ts =>
    by_cases hg : g = id
    · subst hg
      exact h.seen rfl (timeScale_seen _ ts) (if_pos rfl) rfl
    · exact h.other (Fleet.ensure_put_of_ne (Ne.symm hg)) rfl (if_neg hg) rfl
  | setTimeScale g scale =>
    by_cases hg : g = id
    · subst hg
      have hscale : (LiveCall.setTimeScale g scale).scale? g = some scale := if_pos rfl
      have hensure : ((LiveCall.setTimeScale g scale).serve f).1.ensure g =
          { f.ensure g with timeScale := scale.map .fin } := Fleet.ensure_put _ _ _
      refine ⟨?_, ?_, h.offlineAfter⟩
      · rw [hensure, lastSeen?_append_unseen rfl]
        exact h.lastSeen
      · rw [hensure, lastScale?_append, hscale]
        rfl
    · exact h.other (Fleet.ensure_put_of_ne (Ne.symm hg)) rfl rfl (if_neg hg)
  | sweep now =>
    have hensure : ((LiveCall.sweep now).serve f).1.ensure id =
        { f.ensure id with status := f.deriveLocked (f.ensure id) now } :=
      Fleet.ensure_sweep f now id
    refine ⟨?_, ?_, h.offlineAfter⟩
    · rw [hensure, lastSeen?_append_unseen rfl]
      exact h.lastSeen
    · rw [hensure, lastScale?_append, show (LiveCall.sweep now).scale? id = none from rfl]
      exact h.timeScale

/-- **The facts of every history.** -/
theorem Facts.serveCalls (h : Facts f offlineAfter id calls) (more : List LiveCall) :
    Facts (serveCalls f more).1 offlineAfter id (calls ++ more) := by
  induction more generalizing f calls with
  | nil =>
    rw [List.append_nil]
    exact h
  | cons x more ih =>
    rw [← List.singleton_append, ← List.append_assoc]
    exact ih (h.step x)

theorem facts_new (offlineAfter : Int) (id : String) :
    Facts { offlineAfter } offlineAfter id [] where
  lastSeen := rfl
  timeScale := rfl
  offlineAfter := rfl

end Facts

/-! ## The horizon -/

/-- Nanoseconds past an exact duration. -/
theorem toDuration_lt_iff {q : ℚ} (hq : 0 ≤ q) (n : Int) : toDuration (.fin q) < n ↔ q < n := by
  have hfloor : toDuration (.fin q) = ⌊q⌋ := by
    rw [Rat.floor_def']
    exact Int.tdiv_eq_ediv_of_nonneg (Rat.num_nonneg.2 hq)
  rw [hfloor]
  exact Int.floor_lt

/-- The horizon is the exact quotient, up to a nanosecond. -/
theorem effectiveOffline_eq {f : Fleet} {ent : Entry} {scale : Option ℚ}
    (h : ent.timeScale = scale.map .fin) :
    f.effectiveOffline ent =
      toDuration (.fin (f.offlineAfter / max (scaleOf scale) (1 / 4))) := by
  have hmin : minTimeScale = .fin (1 / 4) := by
    show F64.fin (OfScientific.ofScientific 25 true 2) = _
    norm_num
  have hpos : ∀ q : ℚ, (0 : F64) < .fin q ↔ 0 < q := by
    intro q
    rw [F64.zero_eq]
    exact F64.fin_lt_fin
  have hone : (1 : F64) = .fin 1 := by
    rw [F64.ofNat_lit]
    norm_num
  have hfloored : ∀ q : ℚ, (if F64.fin q < minTimeScale then minTimeScale else F64.fin q) =
      .fin (max q (1 / 4)) := by
    intro q
    rw [hmin]
    by_cases hlt : q < 1 / 4
    · rw [if_pos (F64.fin_lt_fin.2 hlt), max_eq_right hlt.le]
    · rw [if_neg (mt F64.fin_lt_fin.1 hlt), max_eq_left (le_of_not_gt hlt)]
  have hnonzero : ∀ q : ℚ, max q (1 / 4) ≠ 0 := by
    intro q hzero
    have hle := le_max_right q (1 / 4)
    rw [hzero] at hle
    norm_num at hle
  have hquotient : ∀ q : ℚ, toDuration (.fin f.offlineAfter /
      (if F64.fin q < minTimeScale then minTimeScale else F64.fin q)) =
      toDuration (.fin (f.offlineAfter / max q (1 / 4))) := by
    intro q
    rw [hfloored, F64.fin_div_fin (hnonzero q)]
  cases scale with
  | none =>
    simp only [Fleet.effectiveOffline, h, Option.map_none, hone]
    exact hquotient 1
  | some q =>
    simp only [Fleet.effectiveOffline, h, Option.map_some, scaleOf]
    by_cases hq : 0 < q
    · rw [if_pos ((hpos q).2 hq), if_pos hq]
      exact hquotient q
    · rw [if_neg (mt (hpos q).1 hq), if_neg hq, hone]
      exact hquotient 1

/-- **A sweep finds a greenhouse offline when it was never seen, or not within its horizon.** -/
theorem offline_sweep_iff {f : Fleet} {offlineAfter : Int} {id : String} {calls : List LiveCall}
    (h : Facts f offlineAfter id calls) (hoffline : 0 ≤ offlineAfter) (now : Int) :
    ((f.sweep now).1.shown id).status = .offline ↔ ∀ seen, lastSeen? id calls = some seen →
      (offlineAfter : ℚ) / max (scaleOf (lastScale? id calls)) (1 / 4) < (now - seen : Int) := by
  have hstatus : ((f.sweep now).1.shown id).status = f.deriveLocked (f.ensure id) now := by
    rw [Fleet.shown, Fleet.ensure_sweep]
    rfl
  rw [hstatus, Fleet.deriveLocked, h.lastSeen]
  cases hseen : lastSeen? id calls with
  | none => exact iff_of_true rfl fun seen hsome => by cases hsome
  | some seen =>
    have hhorizon : 0 ≤ (offlineAfter : ℚ) / max (scaleOf (lastScale? id calls)) (1 / 4) := by
      have hle := le_max_right (scaleOf (lastScale? id calls)) (1 / 4)
      exact div_nonneg (Int.cast_nonneg hoffline) (by linarith)
    have hiff : f.effectiveOffline (f.ensure id) < now - seen ↔
        (offlineAfter : ℚ) / max (scaleOf (lastScale? id calls)) (1 / 4) < (now - seen : Int) := by
      rw [effectiveOffline_eq h.timeScale, h.offlineAfter, toDuration_lt_iff hhorizon]
    dsimp only
    constructor
    · intro hoff other hother
      obtain rfl := Option.some.inj hother
      by_contra hnot
      rw [if_neg (mt hiff.1 hnot)] at hoff
      split at hoff <;> cases hoff
    · intro hall
      rw [if_pos (hiff.2 (hall seen rfl))]

/-- **The edges of every history.** After any calls on a new view, a call that may change a status
reports the greenhouses whose status it changes, with the status they get; a change of the time
scale changes no status and is reported when the time scale is another one; folding all reports
gives the status; and a sweep finds offline exactly what was never seen, or not within its
horizon. -/
theorem connectivity_edges (offlineAfter : Int) (hoffline : 0 ≤ offlineAfter)
    (calls : List LiveCall) :
    let f := (serveCalls { offlineAfter } calls).1
    (∀ x : LiveCall, ¬ x.IsScale → Reported f (x.serve f).1 (x.serve f).2) ∧
    (∀ id scale, (∀ g, (((LiveCall.setTimeScale id scale).serve f).1.shown g).status =
        (f.shown g).status) ∧
      ((f.setTimeScale id (scale.map .fin)).2.2 = true ↔
        scale.map F64.fin ≠ (f.shown id).timeScale)) ∧
    (∀ id, statusAfter id .offline (serveCalls { offlineAfter } calls).2 = (f.shown id).status) ∧
    ∀ id now, ((f.sweep now).1.shown id).status = .offline ↔
      ∀ seen, lastSeen? id calls = some seen →
        (offlineAfter : ℚ) / max (scaleOf (lastScale? id calls)) (1 / 4) < (now - seen : Int) := by
  intro f
  refine ⟨fun x hx => LiveCall.reported_serve hx, fun id scale => ⟨?_, ?_⟩, fun id => ?_,
    fun id now => ?_⟩
  · exact LiveCall.status_setTimeScale scale
  · exact LiveCall.setTimeScale_changed_iff scale
  · exact statusAfter_serveCalls id calls { offlineAfter }
  · exact offline_sweep_iff ((facts_new offlineAfter id).serveCalls calls) hoffline now

/-- A greenhouse at half speed is heard of and then quiet. -/
def quietCalls : List LiveCall :=
  [.observe "gh-a" 0, .setTimeScale "gh-a" (some (1 / 2)), .setDegraded "gh-a" false 0]

/-- Ten seconds at half speed are twenty. -/
theorem connectivity_edges_quiet :
    let f := (serveCalls { offlineAfter := 10000000000 } quietCalls).1
    ((f.sweep 20000000000).1.shown "gh-a").status ≠ .offline ∧
      ((f.sweep 20000000001).1.shown "gh-a").status = .offline := by
  obtain ⟨-, -, -, hsweep⟩ := connectivity_edges 10000000000 (by omega) quietCalls
  have hseen : lastSeen? "gh-a" quietCalls = some 0 := by decide
  have hscale : lastScale? "gh-a" quietCalls = some (1 / 2) := by decide +kernel
  have hhorizon : max (scaleOf (some (1 / 2))) (1 / 4) = 1 / 2 := by decide +kernel
  intro f
  constructor
  · intro hoff
    have hquiet := (hsweep "gh-a" 20000000000).1 hoff 0 hseen
    rw [hscale, hhorizon] at hquiet
    norm_num at hquiet
  · rw [hsweep "gh-a" 20000000001]
    intro seen hsome
    obtain rfl := Option.some.inj (hseen.symm.trans hsome)
    rw [hscale, hhorizon]
    norm_num

end Greenhouse.Platform
