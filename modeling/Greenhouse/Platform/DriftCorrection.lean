import Greenhouse.Platform.Passes

/-!
# Drift correction

Passes over a reachable greenhouse with an exact controller settle after at most two, and
then change nothing. Whatever the controller does, the corrections between two syncs are
bounded by the retries.

* `settles`: from a settling state two passes lead to a synced one.
* `Synced.pass`: a pass leaves a synced state as it is.
* `corrections_le`: the bound on the corrections.
-/

namespace Greenhouse.Platform

open Greenhouse.Process Prog Reconciler

/-! ## Convergence with an exact controller -/

theorem exact_of_report {t : List Exchange} {out : Except String Setpoints} {d d' : Shown}
    (h : Report t out) (hr : Run exact.Step d t d') : out = .ok d.report ∧ d' = d := by
  cases h with
  | refused href =>
    obtain _ | ⟨⟨⟨st, hok, rfl⟩, -⟩, -⟩ := hr
    exact absurd hok (by simpa [accepted] using href)
  | refusedZones _ href =>
    obtain _ | ⟨-, _ | ⟨⟨⟨st, hok, rfl⟩, -⟩, -⟩⟩ := hr
    exact absurd hok (by simpa [accepted] using href)
  | read _ _ =>
    obtain _ | ⟨⟨⟨st, hok, heq⟩, rfl⟩, _ | ⟨⟨⟨st', hok', heq'⟩, rfl⟩, ⟨⟩⟩⟩ := hr
    obtain rfl := Except.ok.inj heq
    obtain rfl := Except.ok.inj heq'
    exact ⟨rfl, rfl⟩

/-- The revision is current and has been delivered. -/
def Store.IsDelivered (s : Store) (c : SetpointRevision) : Prop :=
  s.ledger.current = some c ∧ s.row.lastDeliveredRevision = some c.revision

/-- The controller reports a bundle reconciled with the revision. -/
def Matches (d : Shown) (c : SetpointRevision) : Prop :=
  c.setpoints.reconciled d.report = true

/-- The current revision is delivered, shown, and nothing is left to do. -/
structure Synced (w : World Shown) (c : SetpointRevision) : Prop where
  delivered : w.store.IsDelivered c
  status : w.store.row.deliveryStatus = .delivered
  noDrift : w.store.row.drift = false
  noFails : w.store.row.failCount = 0
  shown : Matches w.device c

/-- The current revision can be shown by the controller, and the reconciler has not given up
on it unless the controller shows it already. -/
structure Settling (maxRetries : Nat) (w : World Shown) (c : SetpointRevision) : Prop where
  current : w.store.ledger.current = some c
  consistent : c.setpoints.Consistent
  known : w.device.HasZones c.setpoints.zones
  retries : w.store.row.failCount < maxRetries ∨ (w.store.IsDelivered c ∧ Matches w.device c)

section Exact

variable {maxRetries : Nat} {w w' : World Shown} {c : SetpointRevision}
  {cs : List (Call Op Resp)}

theorem matches_of_delivery {out : Except String Response} {sent : List Exchange} {d d' : Shown}
    (hs : c.setpoints.Consistent) (hknown : d.HasZones c.setpoints.zones)
    (hd : Delivery (requests c.setpoints) sent out) (hr : Run exact.Step d sent d') :
    accepted out = true ∧ Matches d' c ∧ d'.HasZones c.setpoints.zones := by
  obtain ⟨hok, hshows, hids⟩ := exact_of_delivery hd hr hknown
  exact ⟨hok, reconciled_of_shows hs hshows, fun z hz => hids ▸ hknown z hz⟩

/-- A pass over a delivered revision that the controller shows. -/
theorem pass_of_matches (hdel : w.store.IsDelivered c) (hmatch : Matches w.device c)
    (hpass : Pass (hosting Works exact) maxRetries w cs w') :
    w'.store = w.store.write (synced w.store.row) ∧ w'.device = w.device := by
  obtain ⟨hcases, htraffic⟩ := hpass.worked hdel.1
  generalize w'.store = s' at hcases ⊢
  cases hcases with
  | backedOff hheld _ _ => exact absurd hdel.2 hheld
  | reasserted hheld _ _ => exact absurd hdel.2 hheld
  | unread _ hreport =>
    obtain ⟨⟨⟩, -⟩ := exact_of_report hreport htraffic
  | synced _ hreport _ => exact ⟨rfl, (exact_of_report hreport htraffic).2⟩
  | corrected _ ht hreport hne _ _ =>
    rw [ht] at htraffic
    obtain ⟨d, hreads, -⟩ := htraffic.split
    obtain ⟨hshown, -⟩ := exact_of_report hreport hreads
    rw [Except.ok.inj hshown] at hne
    exact absurd hmatch (by simp [Matches, hne])
  | exhausted _ hreport hne _ =>
    obtain ⟨hshown, -⟩ := exact_of_report hreport htraffic
    rw [Except.ok.inj hshown] at hne
    exact absurd hmatch (by simp [Matches, hne])

theorem synced_of_matches (hdel : w.store.IsDelivered c) (hmatch : Matches w.device c)
    (hpass : Pass (hosting Works exact) maxRetries w cs w') : Synced w' c := by
  obtain ⟨hstore, hdevice⟩ := pass_of_matches hdel hmatch hpass
  refine ⟨⟨?_, ?_⟩, ?_, ?_, ?_, hdevice ▸ hmatch⟩
  · rw [hstore]; exact hdel.1
  · rw [hstore]; exact hdel.2
  all_goals rw [hstore]; rfl

/-- **A pass leaves a synced state as it is.** -/
theorem Synced.pass (h : Synced w c) (hpass : Pass (hosting Works exact) maxRetries w cs w') :
    w' = w := by
  obtain ⟨hstore, hdevice⟩ := pass_of_matches h.delivered h.shown hpass
  have hrow : synced w.store.row = w.store.row := by
    rw [synced, ← h.status, ← h.noDrift, ← h.noFails]
  rw [hrow, Store.write_row (by rw [h.delivered.2]; simp)] at hstore
  exact World.eq_of hstore hdevice

theorem Synced.run (h : Synced w c) {css : List (List (Call Op Resp))}
    (hr : Run (Pass (hosting Works exact) maxRetries) w css w') : w' = w :=
  hr.invariant (I := fun v => v = w) (fun _ _ _ hv hpass => by
    rw [hv] at hpass
    exact h.pass hpass) rfl

/-- One pass from a settling state: the revision is delivered and shown. -/
theorem Settling.pass (h : Settling maxRetries w c)
    (hpass : Pass (hosting Works exact) maxRetries w cs w') :
    w'.store.IsDelivered c ∧ Matches w'.device c := by
  by_cases hdone : w.store.IsDelivered c ∧ Matches w.device c
  · have hsynced := synced_of_matches hdone.1 hdone.2 hpass
    exact ⟨hsynced.delivered, hsynced.shown⟩
  have hretries : w.store.row.failCount < maxRetries := h.retries.resolve_right hdone
  obtain ⟨hcases, htraffic⟩ := hpass.worked h.current
  generalize w'.store = s' at hcases ⊢
  cases hcases with
  | backedOff _ hback _ => exact absurd hretries (not_lt.2 hback)
  | reasserted _ _ hd =>
    obtain ⟨hok, hmatch, -⟩ := matches_of_delivery h.consistent h.known hd htraffic
    exact ⟨⟨h.current, by simp [reasserted, hok]⟩, hmatch⟩
  | unread _ hreport =>
    obtain ⟨⟨⟩, -⟩ := exact_of_report hreport htraffic
  | synced hdel hreport hmatch =>
    obtain ⟨hshown, -⟩ := exact_of_report hreport htraffic
    rw [Except.ok.inj hshown] at hmatch
    exact absurd ⟨⟨h.current, hdel⟩, hmatch⟩ hdone
  | corrected hdel ht hreport _ _ hd =>
    rw [ht] at htraffic
    obtain ⟨d, hreads, hsent⟩ := htraffic.split
    obtain ⟨-, rfl⟩ := exact_of_report hreport hreads
    obtain ⟨-, hmatch, -⟩ := matches_of_delivery h.consistent h.known hd hsent
    exact ⟨⟨h.current, hdel⟩, hmatch⟩
  | exhausted _ _ _ hback => exact absurd hretries (not_lt.2 hback)

/-- **Two passes from a settling state lead to a synced one, and further passes stay.** -/
theorem settles (h : Settling maxRetries w c) {css : List (List (Call Op Resp))}
    (hlen : 2 ≤ css.length) (hr : Run (Pass (hosting Works exact) maxRetries) w css w') :
    Synced w' c := by
  match css, hlen, hr with
  | _ :: _ :: _, _, .cons hone (.cons htwo hrest) =>
    obtain ⟨hdel, hmatch⟩ := h.pass hone
    have hsynced := synced_of_matches hdel hmatch htwo
    rw [hsynced.run hrest]
    exact hsynced

end Exact

/-! ## The rate limit -/

/-- A request that changes the global setpoints: the first of every delivery. -/
def Request.startsDelivery : Request → Bool
  | .patchSetpoints _ => true
  | _ => false

/-- The exchanges of a pass compare and then push: a drift correction. -/
def corrects (t : List Exchange) : Bool :=
  t.any (·.1 == .getSetpoints) && t.any (·.1.startsDelivery)

/-- The bundle the first exchanges of a pass report. -/
def shownIn : List Exchange → Option Setpoints
  | (.getSetpoints, .ok r) :: (.getZones, .ok s) :: _ =>
    if ok2xx r.status && ok2xx s.status then (parseReported r.body s.body).toOption else none
  | _ => none

/-- A pass over the greenhouse reads a report that is reconciled with the current revision. -/
def syncs (s : Store) (t : List Exchange) : Bool :=
  match s.ledger.current, shownIn t with
  | some c, some shown => c.setpoints.reconciled shown
  | _, _ => false

theorem shownIn_of_report {t : List Exchange} {shown : Setpoints} (h : Report t (.ok shown)) :
    shownIn t = some shown := by
  generalize hout : Except.ok shown = out at h
  cases h with
  | refused _ => cases hout
  | refusedZones _ _ => cases hout
  | read hok hok' => simp [shownIn, hok, hok', ← hout, Except.toOption]

theorem Delivery.mem {qs : List Request} {sent : List Exchange} {out : Except String Response}
    (h : Delivery qs sent out) : ∀ x ∈ sent, x.1 ∈ qs := by
  induction h with
  | done _ => intro x hx; cases hx
  | stopped _ =>
    intro x hx
    rw [List.mem_singleton.1 hx]
    exact List.mem_cons_self
  | more _ _ ih =>
    intro x hx
    rcases List.mem_cons.1 hx with rfl | hx
    · exact List.mem_cons_self
    · exact List.mem_cons_of_mem _ (ih x hx)

theorem corrects_of_delivery {s : Setpoints} {t : List Exchange} {out : Except String Response}
    (h : Delivery (requests s) t out) : corrects t = false := by
  have hget : t.any (·.1 == .getSetpoints) = false := by
    rw [List.any_eq_false]
    intro x hx
    have := h.mem x hx
    rcases List.mem_cons.1 this with hq | hq
    · simp [hq]
    · obtain ⟨z, -, hz⟩ := List.mem_map.1 hq
      simp [← hz]
  rw [corrects, hget, Bool.false_and]

theorem corrects_of_report {t : List Exchange} {out : Except String Setpoints}
    (h : Report t out) : corrects t = false := by
  cases h <;> rfl

/-- The corrections left until the next sync or the next intended state. -/
def correctionsLeft (maxRetries : Nat) (s : Store) : Nat :=
  match s.ledger.current with
  | some c =>
    if s.row.lastDeliveredRevision = some c.revision then maxRetries - s.row.failCount
    else maxRetries
  | none => maxRetries

theorem correctionsLeft_le (maxRetries : Nat) (s : Store) :
    correctionsLeft maxRetries s ≤ maxRetries := by
  unfold correctionsLeft
  split
  · split
    · exact Nat.sub_le _ _
    · exact le_rfl
  · exact le_rfl

/-- A pass that does not sync uses up the corrections it makes. -/
theorem correctionsLeft_pass {C : Type} {D : Device C} {maxRetries : Nat} {w w' : World C}
    {cs : List (Call Op Resp)} (hpass : Pass (hosting Writes D) maxRetries w cs w')
    (hsync : syncs w.store (traffic cs) = false) :
    (if corrects (traffic cs) then 1 else 0) + correctionsLeft maxRetries w'.store ≤
      correctionsLeft maxRetries w.store := by
  obtain ⟨a, hpass⟩ := hpass
  have hcases : Passed maxRetries w.store cs w'.store :=
    pass_ensures (fun _ _ hr => hr) w cs a w' hpass
  generalize w'.store = s' at hcases ⊢
  cases hcases with
  | stopped _ _ ht => simp [ht, corrects]
  | deferred _ _ ht =>
    rw [ht]
    exact (Nat.zero_add _).le
  | idle _ ht => simp [ht, corrects]
  | @worked c _ hc h =>
    cases h with
    | backedOff _ _ ht => simp [ht, corrects]
    | @reasserted out hheld _ hd =>
      rw [corrects_of_delivery hd]
      have hleft : correctionsLeft maxRetries w.store = maxRetries := by
        simp [correctionsLeft, hc, hheld]
      simpa [hleft] using correctionsLeft_le maxRetries _
    | unread _ hreport => simp [corrects_of_report hreport]
    | synced _ hreport hmatch =>
      rw [syncs, hc, shownIn_of_report hreport] at hsync
      exact absurd hmatch (by simpa using hsync)
    | corrected hdel _ _ _ hleft _ =>
      have hone : (if corrects (traffic cs) then 1 else 0) ≤ 1 := by split <;> decide
      simp only [correctionsLeft, hc, hdel, Store.ledger_write, Store.row_write, if_true]
      omega
    | exhausted hdel hreport _ _ =>
      simp [corrects_of_report hreport, correctionsLeft, hc, hdel]

/-! ## Over the fleet -/

/-- **Drift correction converges and is rate limited.** With an exact controller that has the
zones of the delivered current revision, at least two passes over the fleet lead the greenhouse
to a synced state that further passes leave. With any controller, passes none of which syncs
make at most `maxRetries` corrections. -/
theorem drift_corrected {C : Type} {D : Device C} {E : String → Env Op Resp (World Shown)}
    {G : String → Env Op Resp (World C)} {id : String} {maxRetries : Nat}
    (hE : E id = hosting Works exact) (hG : G id = hosting Writes D) :
    (∀ F F' F'' c css dss, id ∈ F.keys → (F.member id).store.IsDelivered c →
      DistinctZones c.setpoints.zones → (F.member id).device.HasZones c.setpoints.zones →
      (F.member id).store.row.failCount < maxRetries →
      2 ≤ css.length → Run (FleetPass E maxRetries) F css F' →
      Run (FleetPass E maxRetries) F' dss F'' →
        Synced (F'.member id) c ∧ F''.member id = F'.member id) ∧
    (∀ F F' css, id ∈ F.keys →
      Run (Meeting (FleetPass G maxRetries) fun F cs =>
        syncs (F.member id).store (traffic (callsOn id cs)) = false) F css F' →
      css.countP (fun cs => corrects (traffic (callsOn id cs))) ≤ maxRetries) := by
  constructor
  · intro F F' F'' c css dss hid hdel hdistinct hknown hretries hlen hr hr'
    have hsettling : Settling maxRetries (F.member id) c :=
      ⟨hdel.1, Setpoints.consistent_of_distinct hdistinct, hknown, .inl hretries⟩
    have hkeys : F'.keys = F.keys :=
      hr.invariant (I := fun H => H.keys = F.keys) (fun _ _ _ h hone => hone.pass.1.trans h) rfl
    have hruns := runs_of_fleet hr hid
    have hruns' := runs_of_fleet hr' (hkeys ▸ hid)
    rw [hE] at hruns hruns'
    have hsynced := settles hsettling (by simpa using hlen) hruns
    exact ⟨hsynced, hsynced.run hruns'⟩
  · intro F F' css hid hr
    have hruns := meeting_of_fleet (P := fun w cs => syncs w.store (traffic cs) = false) hr hid
    rw [hG] at hruns
    have hcount := hruns.countP_le (m := fun w => correctionsLeft maxRetries w.store)
      (p := fun cs => corrects (traffic cs)) fun w cs w' h => correctionsLeft_pass h.1 h.2
    rw [List.countP_map] at hcount
    have hbound := correctionsLeft_le maxRetries (F.member id).store
    exact le_trans (le_of_add_le_left hcount) hbound

/-! ## Samples -/

/-- The bench with its day temperature changed at the controller. -/
def driftedBench : Shown where
  global := { benchBundle.toGlobalSetpoints with temperatureDayC := 30 }
  zones := benchBundle.zones
  distinct := List.nodup_singleton _

/-- The tables after the bundle of the bench was delivered. -/
def benchStore : Store where
  ledger := Ledger.empty.append (edit benchBundle)
  recon := some { lastDeliveredRevision := some 1, deliveryStatus := .delivered }

/-- The fleet of the bench under a controller. -/
def benchFleet {C : Type} (device : C) : Family String (World C) where
  keys := ["gh-a"]
  nodup := by decide
  member _ := ⟨benchStore, device⟩

/-- One pass over a fleet whose controllers are functions. -/
def fleetPass {C : Type} (answer : C → Request → Except String Response × C)
    (F : Family String (World C)) : Family String (World C) :=
  ((reconcileOnce 3).eval (Family.serve fun _ => serve .online answer) F).2

theorem fleetPass_exact (F : Family String (World Shown)) :
    FleetPass (fun _ => hosting Works exact) 3 F
      ((reconcileOnce 3).trace (Family.serve fun _ => serve .online respond) F)
      (fleetPass respond F) :=
  Exec.of_eval (family_serve fun _ : String =>
    hosting_serve (works_serve online_ne_offline) exact_respond) _ F

/-- A controller that accepts everything and keeps its setpoints. -/
def stubborn (c : Shown) (q : Request) : Except String Response × Shown := ((respond c q).1, c)

theorem fleetPass_stubborn (F : Family String (World Shown)) :
    FleetPass (fun _ => hosting Writes (anything (C := Shown))) 3 F
      ((reconcileOnce 3).trace (Family.serve fun _ => serve .online stubborn) F)
      (fleetPass stubborn F) :=
  Exec.of_eval (family_serve fun _ : String =>
    hosting_serve (fun w o => writes_of_works (works_serve online_ne_offline w o))
      fun _ _ => trivial) _ F

/-- The calls of one pass over a fleet whose controllers are functions. -/
def fleetCalls {C : Type} (answer : C → Request → Except String Response × C)
    (F : Family String (World C)) : List (Call (FamilyOp String Op) (FamilyResp String Resp)) :=
  (reconcileOnce 3).trace (Family.serve fun _ => serve .online answer) F

/-- The calls of some passes over a fleet with a stubborn controller. -/
def stubbornCalls : Nat → Family String (World Shown) →
    List (List (Call (FamilyOp String Op) (FamilyResp String Resp)))
  | 0, _ => []
  | n + 1, F => fleetCalls stubborn F :: stubbornCalls n (fleetPass stubborn F)

/-- Two passes correct the drift of the bench; a controller that keeps its setpoints gets three
corrections in four passes. -/
theorem drift_corrected_bench :
    Synced ((fleetPass respond (fleetPass respond (benchFleet driftedBench))).member "gh-a")
      { edit benchBundle with revision := 1 } ∧
    (stubbornCalls 4 (benchFleet driftedBench)).countP
      (fun cs => corrects (traffic (callsOn "gh-a" cs))) = 3 ∧
    (stubbornCalls 4 (benchFleet driftedBench)).countP
      (fun cs => corrects (traffic (callsOn "gh-a" cs))) ≤ 3 := by
  have hboth := @drift_corrected Shown anything (fun _ => hosting Works exact)
    (fun _ => hosting Writes anything) "gh-a" 3 rfl rfl
  refine ⟨?_, by decide +kernel, ?_⟩
  · have hr := Run.cons (fleetPass_exact (benchFleet driftedBench))
      (.single (fleetPass_exact (fleetPass respond (benchFleet driftedBench))))
    exact (hboth.1 _ _ _ _ _ [] (by decide) ⟨rfl, rfl⟩ (by decide) (by decide) (by decide)
      (by decide) hr (.nil _)).1
  · have hpass := fun F (h : syncs (F.member "gh-a").store
        (traffic (callsOn "gh-a" (fleetCalls stubborn F))) = false) =>
      (⟨fleetPass_stubborn F, h⟩ : Meeting (FleetPass (fun _ => hosting Writes anything) 3)
        (fun F cs => syncs (F.member "gh-a").store (traffic (callsOn "gh-a" cs)) = false)
        F (fleetCalls stubborn F) (fleetPass stubborn F))
    refine hboth.2 (benchFleet driftedBench) _ _ (by decide)
      (.cons (hpass _ ?_) (.cons (hpass _ ?_) (.cons (hpass _ ?_) (.single (hpass _ ?_))))) <;>
    decide +kernel

end Greenhouse.Platform
