import Greenhouse.Platform.Delivery
import Greenhouse.Platform.Validate

/-!
# Deliveries to an obedient controller

An obedient controller may refuse a PATCH, and a response may get lost; what it accepts it
has applied exactly, and what it refuses has changed nothing.

* `reconciled_iff_same_zones`: what it reports after an accepted delivery is reconciled with
  the bundle exactly when the zones of the bundle with the same id agree.
* `apply_unrecorded`: an `apply` that records nothing leaves a prefix of its delivery.
-/

namespace Greenhouse.Platform

open Greenhouse.Process Prog Reconciler

/-- The controller that has applied what it accepts, and shows what it has applied. -/
def obedient : Device Shown where
  answer c q r c' :=
    match q with
    | .getSetpoints => (∀ resp, r = .ok resp → ok2xx resp.status →
        resp.body = .setpoints c.global) ∧ c' = c
    | .getZones => (∀ resp, r = .ok resp → ok2xx resp.status → resp.body = .zones c.zones) ∧ c' = c
    | q =>
      match r with
      | .ok resp => if ok2xx resp.status then c.knows q ∧ c' = c.patch q else c' = c
      | .error _ => c' = c ∨ (c.knows q ∧ c' = c.patch q)

/-- A request that changes the setpoints or a zone. -/
def Request.IsPatch : Request → Prop
  | .patchSetpoints _ => True
  | .patchZone _ => True
  | _ => False

theorem isPatch_of_requests {s : Setpoints} : ∀ q ∈ requests s, q.IsPatch := by
  simp [requests, Request.IsPatch]

section Device

variable {c c' : Shown} {q : Request} {r : Except String Response}

/-- What an accepted PATCH does. -/
theorem obedient_accepted (hq : q.IsPatch) (hr : accepted r = true)
    (h : obedient.answer c q r c') : c.knows q = true ∧ c' = c.patch q := by
  cases r with
  | error e => cases hr
  | ok resp =>
    have hok : ok2xx resp.status = true := hr
    cases q with
    | getSetpoints => exact hq.elim
    | getZones => exact hq.elim
    | _ => simpa [obedient, hok] using h

/-- What a PATCH that is not accepted does. -/
theorem obedient_refused (hq : q.IsPatch) (hr : accepted r = false)
    (h : obedient.answer c q r c') : c' = c ∨ (∃ e, r = .error e) ∧ c' = c.patch q := by
  cases r with
  | error e =>
    cases q with
    | getSetpoints => exact hq.elim
    | getZones => exact hq.elim
    | _ =>
      rcases h with rfl | ⟨-, rfl⟩
      · exact .inl rfl
      · exact .inr ⟨⟨e, rfl⟩, rfl⟩
  | ok resp =>
    have hok : ok2xx resp.status = false := hr
    refine .inl ?_
    cases q with
    | getSetpoints => exact hq.elim
    | getZones => exact hq.elim
    | _ => simpa [obedient, hok] using h

/-- A function that serves an exact controller serves an obedient one. -/
theorem obedient_respond (c : Shown) (q : Request) :
    obedient.answer c q (respond c q).1 (respond c q).2 := by
  cases q with
  | getSetpoints =>
    refine ⟨?_, rfl⟩
    rintro resp ⟨⟩ -
    rfl
  | getZones =>
    refine ⟨?_, rfl⟩
    rintro resp ⟨⟩ -
    rfl
  | patchSetpoints g => exact ⟨rfl, rfl⟩
  | patchZone z =>
    by_cases h : c.knows (.patchZone z) = true <;> simp [obedient, respond, h, ok2xx]

end Device

/-! ## Deliver, then compare -/

/-- An obedient controller that accepted a delivery shows the bundle. -/
theorem shows_of_zones {zones shown : List ZoneTargets} {global : GlobalSetpoints}
    {sent : List Exchange} {out : Except String Response} {c c' : Shown}
    (hd : Delivery (zones.map .patchZone) sent out) (hout : accepted out = true)
    (hr : Run obedient.Step c sent c') (hshows : c.Shows global shown) :
    c'.Shows global (shown ++ zones) := by
  induction zones generalizing shown sent c with
  | nil =>
    cases hd with
    | done _ =>
      cases hr
      simpa using hshows
  | cons zone zones ih =>
    cases hd with
    | stopped hrefused =>
      rw [hout] at hrefused
      cases hrefused
    | more hacc hd =>
      obtain _ | ⟨hstep, hr⟩ := hr
      obtain ⟨hknown, rfl⟩ := obedient_accepted (q := .patchZone zone) trivial hacc hstep
      have hrest := ih hd hr (hshows.patchZone (by simpa [Shown.knows] using hknown))
      simpa using hrest

theorem shows_of_accepted {s : Setpoints} {sent : List Exchange} {out : Except String Response}
    {c c' : Shown} (hd : Delivery (requests s) sent out) (hout : accepted out = true)
    (hr : Run obedient.Step c sent c') : c'.Shows s.toGlobalSetpoints s.zones := by
  cases hd with
  | stopped hrefused =>
    rw [hout] at hrefused
    cases hrefused
  | more hacc hd =>
    obtain _ | ⟨hstep, hr⟩ := hr
    obtain ⟨-, rfl⟩ := obedient_accepted (q := .patchSetpoints _) trivial hacc hstep
    have hrest := shows_of_zones hd hout hr (c.shows_patchSetpoints _)
    simpa using hrest

/-- An obedient controller reports what it shows. -/
theorem report_of_obedient {t : List Exchange} {shown : Setpoints} {c c' : Shown}
    (h : Report t (.ok shown)) (hr : Run obedient.Step c t c') : shown = c.report := by
  generalize hout : Except.ok shown = out at h
  cases h with
  | refused _ => cases hout
  | refusedZones _ _ => cases hout
  | @read r s hok hok' =>
    obtain _ | ⟨⟨hset, rfl⟩, _ | ⟨⟨hzones, rfl⟩, -⟩⟩ := hr
    rw [hset r rfl hok, hzones s rfl hok'] at hout
    exact Except.ok.inj hout

/-- The zones of a bundle with the same id agree. -/
def SameZones (zones : List ZoneTargets) : Prop :=
  ∀ z ∈ zones, ∀ y, lastZone zones z.zoneId = some y → z.equal y = true

instance (zones : List ZoneTargets) : Decidable (SameZones zones) :=
  decidable_of_iff (∀ z ∈ zones, (lastZone zones z.zoneId).all z.equal = true) (by
    simp only [SameZones, Option.all_eq_true])

/-- **Deliver, then compare.** What an obedient controller reports after it accepted the
delivery of a bundle is reconciled with it exactly when its zones with the same id agree. -/
theorem reconciled_iff_same_zones {A : (o : Op) → Resp o → Prop} {s shown : Setpoints}
    {e e' : Endpoint} {w w₁ w₂ : World Shown} {cs ds : List (Call Op Resp)}
    {out : Except String Response} (hdeliver : Exec (hosting A obedient) (deliver e s) w cs out w₁)
    (hout : accepted out = true)
    (hread : Exec (hosting A obedient) (reported e') w₁ ds (.ok shown) w₂) :
    s.reconciled shown = true ↔ SameZones s.zones := by
  have hshows := shows_of_accepted (deliver_ensures e s w cs out w₁ hdeliver).2 hout
    (traffic_of_exec hdeliver)
  obtain rfl := report_of_obedient (reported_ensures e' w₁ ds _ w₂ hread).2 (traffic_of_exec hread)
  constructor
  · intro hmatch z hz y hlast
    obtain ⟨other, hother, hequal⟩ :=
      zonesCoveredBy_iff.1 (Bool.and_eq_true_iff.1 hmatch).2 z hz
    have hid : y.zoneId = z.zoneId := (lastZone_zoneId hlast).2
    have hy : y ∈ w₁.device.zones := hshows.2 y (hid ▸ hlast)
    have hy' : lastZone w₁.device.zones z.zoneId = some y :=
      hid ▸ lastZone_of_mem w₁.device.distinct hy
    rwa [Option.some.inj (hy'.symm.trans hother)]
  · intro hsame
    refine reconciled_of_shows ?_ hshows
    simp only [Setpoints.Consistent, Setpoints.reconciled, GlobalSetpoints.globalEqual_self,
      Bool.true_and]
    refine zonesCoveredBy_iff.2 fun z hz => ?_
    cases hlast : lastZone s.zones z.zoneId with
    | some y => exact ⟨y, rfl, hsame z hz y hlast⟩
    | none =>
      have hne := List.find?_eq_none.1 hlast z (List.mem_reverse.2 hz)
      simp at hne

/-! ### Samples -/

/-- A stage whose profile lists the bench twice, with different thresholds. -/
def twiceBench : ProfileStage where
  stage := "vegetative"
  targets := { benchBundle with
    zones := benchBundle.zones ++ [⟨"bench-a", 4 / 10, 7 / 10, 600, "06:00,14:00"⟩] }

/-- The delivery of a bundle to the bench. -/
def benchDelivery (s : Setpoints) : Except String Response × World Shown :=
  (deliver ⟨"http://controller", none⟩ s).eval (serve .online respond) ⟨{}, shownBench⟩

/-- What the bench reports after the delivery of a bundle. -/
def benchReport (s : Setpoints) : Except String Setpoints :=
  ((reported ⟨"http://controller", none⟩).eval (serve .online respond) (benchDelivery s).2).1

theorem delivered_and_read (s : Setpoints) : ∃ cs ds w,
    Exec (hosting Works obedient) (deliver ⟨"http://controller", none⟩ s) ⟨{}, shownBench⟩ cs
      (benchDelivery s).1 (benchDelivery s).2 ∧
    Exec (hosting Works obedient) (reported ⟨"http://controller", none⟩) (benchDelivery s).2 ds
      (benchReport s) w := by
  have hserve := hosting_serve (A := Works) (D := obedient) (works_serve online_ne_offline)
    obedient_respond
  exact ⟨_, _, _, Exec.of_eval hserve _ _, Exec.of_eval hserve _ _⟩

/-- The bench is reconciled after its bundle was delivered. -/
theorem reconciled_iff_same_zones_bench : benchBundle.reconciled shownBench.report = true := by
  obtain ⟨cs, ds, w, hdeliver, hread⟩ := delivered_and_read benchBundle
  exact (reconciled_iff_same_zones hdeliver (by decide +kernel) hread).2 (by decide +kernel)

/-- An accepted stage with a duplicate zone: its delivery is accepted, and what the controller
reports is not reconciled. -/
theorem duplicate_zone_drifts : validateStages [twiceBench] = none ∧
    ∃ cs ds w w' out shown,
      Exec (hosting Works obedient) (deliver ⟨"http://controller", none⟩ twiceBench.targets)
        ⟨{}, shownBench⟩ cs out w ∧ accepted out = true ∧
      Exec (hosting Works obedient) (reported ⟨"http://controller", none⟩) w ds (.ok shown) w' ∧
      twiceBench.targets.reconciled shown = false := by
  obtain ⟨cs, ds, w, hdeliver, hread⟩ := delivered_and_read twiceBench.targets
  refine ⟨by decide +kernel, cs, ds, _, w, _, _, hdeliver, by decide +kernel, hread, ?_⟩
  decide +kernel

/-! ## An `apply` that records nothing -/

/-- The requests among some exchanges that were accepted. -/
def acceptedCount (t : List Exchange) : Nat := t.countP fun x => accepted x.2

/-- The controller after the first `n` requests of a list. -/
def afterRequests (qs : List Request) (n : Nat) (c : Shown) : Shown :=
  (qs.take n).foldl Shown.patch c

/-- **A delivery leaves a prefix of its requests.** It has the requests that were accepted, and
perhaps one whose response was lost. -/
theorem prefix_of_delivery {qs : List Request} {sent : List Exchange}
    {out : Except String Response} {c c' : Shown} (hd : Delivery qs sent out)
    (hqs : ∀ q ∈ qs, q.IsPatch) (hr : Run obedient.Step c sent c') :
    ∃ n, n ≤ qs.length ∧ c' = afterRequests qs n c ∧
      (n = acceptedCount sent ∨ n = acceptedCount sent + 1 ∧ ∃ e, out = .error e) ∧
      (accepted out = false → acceptedCount sent < qs.length) ∧
      (accepted out = true → acceptedCount sent = qs.length) := by
  induction hd generalizing c with
  | done hok =>
    cases hr
    exact ⟨0, le_rfl, rfl, .inl rfl, fun h => absurd h (by simp [accepted, hok]), fun _ => rfl⟩
  | @stopped q qs r hrefused =>
    obtain _ | ⟨hstep, ⟨⟩⟩ := hr
    have hcount : acceptedCount [(q, r)] = 0 := by simp [acceptedCount, hrefused]
    rw [hcount]
    rcases obedient_refused (hqs q List.mem_cons_self) hrefused hstep with rfl | ⟨he, rfl⟩
    · exact ⟨0, by simp, rfl, .inl rfl, fun _ => by simp, fun h => by simp [hrefused] at h⟩
    · exact ⟨1, by simp, rfl, .inr ⟨rfl, he⟩, fun _ => by simp, fun h => by simp [hrefused] at h⟩
  | @more q qs r out sent hacc _ ih =>
    obtain _ | ⟨hstep, hr⟩ := hr
    obtain ⟨-, rfl⟩ := obedient_accepted (hqs q List.mem_cons_self) hacc hstep
    obtain ⟨n, hn, rfl, hcount, hrefused, hall⟩ :=
      ih (fun q hq => hqs q (List.mem_cons_of_mem _ hq)) hr
    have hmore : acceptedCount ((q, r) :: sent) = acceptedCount sent + 1 := by
      simp [acceptedCount, hacc]
    rw [hmore]
    refine ⟨n + 1, by simpa using hn, rfl, ?_, fun h => by simpa using hrefused h,
      fun h => by simpa using hall h⟩
    rcases hcount with rfl | ⟨rfl, he⟩
    · exact .inl rfl
    · exact .inr ⟨rfl, he⟩

section Apply

variable {C : Type} {D : Device C} {p : Provenance}

/-- Recording sends nothing; when it succeeds the ledger has one revision more. -/
theorem record_ensures (delivery : DeliveryStatus) (status : Nat) (body : Option Body)
    (w : World C) :
    Ensures (hosting anyhow D) (record p delivery status body) w fun cs a w' =>
      traffic cs = [] ∧ w'.device = w.device ∧
        ∀ o, a = .ok o → w'.store.ledger.maxRevision = w.store.ledger.maxRevision + 1 := by
  have hwrite : ∀ w : World C, Ensures (hosting anyhow D) (writeRecord p delivery status body) w
      fun cs a w' => traffic cs = [] ∧ w'.device = w.device ∧
        ∀ o, a = .ok o → w'.store.ledger.maxRevision = w.store.ledger.maxRevision + 1 := by
    intro w
    simp only [writeRecord, ensures_bind, ensures_call]
    rintro (e | n) w₁ ⟨-, -, hstore₁, hdevice₁⟩
    · exact ensures_pure.2 ⟨rfl, hdevice₁, fun _ h => absurd h error_ne_ok⟩
    have hmore : w₁.store.ledger.maxRevision = w.store.ledger.maxRevision + 1 := by
      rw [hstore₁]
      rfl
    simp only [ensures_bind, ensures_call]
    rintro (e | found) w₂ ⟨-, -, hstore₂, hdevice₂⟩
    · exact ensures_pure.2 ⟨rfl, hdevice₂.trans hdevice₁, fun _ h => absurd h error_ne_ok⟩
    simp only [ensures_bind, ensures_call]
    rintro (e | _) w₃ ⟨-, -, hstore₃, hdevice₃⟩
    · exact ensures_pure.2 ⟨rfl, hdevice₃.trans (hdevice₂.trans hdevice₁),
        fun _ h => absurd h error_ne_ok⟩
    have hledger : w₃.store.ledger.maxRevision = w.store.ledger.maxRevision + 1 := by
      rw [hstore₃, hstore₂]
      exact hmore
    have hdevice := hdevice₃.trans (hdevice₂.trans hdevice₁)
    simp only [ensures_bind, broadcastWhen]
    split
    · simp only [ensures_call, ensures_pure]
      rintro r w₄ ⟨-, -, hstore₄, hdevice₄⟩
      refine ⟨rfl, hdevice₄.trans hdevice, fun _ _ => ?_⟩
      rw [hstore₄]
      exact hledger
    · simp only [ensures_pure]
      exact ⟨rfl, hdevice, fun _ _ => hledger⟩
  simp only [record, previous]
  split
  · simp only [ensures_bind, ensures_call]
    rintro (e | found) w₁ ⟨-, -, hstore₁, hdevice₁⟩
    · exact ensures_pure.2 ⟨rfl, hdevice₁, fun _ h => absurd h error_ne_ok⟩
    · refine (hwrite w₁).mono ?_
      rintro cs a w' ⟨ht, hdevice, hledger⟩
      refine ⟨ht, hdevice.trans hdevice₁, fun o ho => ?_⟩
      rw [hledger o ho, hstore₁]
      rfl
  · simp only [ensures_bind, ensures_pure]
    exact hwrite w

/-- **What an `apply` sends**: nothing, or a delivery; and when it returns without an error and
without a revision, the controller refused the delivery with the status returned. -/
theorem apply_ensures (w : World C) :
    Ensures (hosting anyhow D) (apply p) w fun cs a w' =>
      (traffic cs = [] ∧ ∀ o, a = .ok o →
        w'.store.ledger.maxRevision = w.store.ledger.maxRevision + 1) ∨
      ∃ out, Delivery (requests p.setpoints) (traffic cs) out ∧ ∀ o, a = .ok o →
        w'.store.ledger.maxRevision = w.store.ledger.maxRevision + 1 ∨
        ∃ resp, out = .ok resp ∧ accepted out = false ∧ o.controllerStatus = resp.status := by
  simp only [apply, reachable, ensures_bind, ensures_call]
  rintro (e | _ | e) w₁ ⟨-, -, hstore₁, -⟩
  · exact ensures_pure.2 (.inl ⟨rfl, fun _ h => absurd h error_ne_ok⟩)
  · exact ensures_pure.2 (.inl ⟨rfl, fun _ h => absurd h error_ne_ok⟩)
  simp only [ensures_bind, ensures_call, ensures_pure]
  rintro live w₂ ⟨-, -, hstore₂, -⟩
  have hledger₂ : w₂.store.ledger = w.store.ledger := by
    rw [hstore₂, hstore₁]
    rfl
  split
  · simp only [ensures_bind]
    refine (deliver_ensures e p.setpoints w₂).mono ?_
    rintro cs out w₃ ⟨hstore₃, hd⟩
    have hrecord : ∀ delivery status body, Ensures (hosting anyhow D)
        (record p delivery status body) w₃ fun ds a w' =>
          traffic ([⟨.getEndpoint, .ok (some e)⟩] ++ ([⟨.fleetGet, live⟩] ++ (cs ++ ds))) =
            traffic cs ∧
          ∀ o, a = .ok o → w'.store.ledger.maxRevision = w.store.ledger.maxRevision + 1 := by
      intro delivery status body
      refine (record_ensures delivery status body w₃).mono ?_
      rintro ds a w' ⟨ht, -, hledger⟩
      refine ⟨?_, fun o ho => ?_⟩
      · simp only [traffic_append, ht, List.append_nil]
        rfl
      · rw [hledger o ho, hstore₃, hledger₂]
    rcases out with err | resp
    · refine (hrecord _ _ _).mono ?_
      rintro ds a w' ⟨ht, hledger⟩
      exact .inr ⟨_, by rw [← ht] at hd; exact hd, fun o ho => .inl (hledger o ho)⟩
    · dsimp only
      split
      · refine (hrecord _ _ _).mono ?_
        rintro ds a w' ⟨ht, hledger⟩
        exact .inr ⟨_, by rw [← ht] at hd; exact hd, fun o ho => .inl (hledger o ho)⟩
      · rename_i hrefused
        refine ensures_pure.2 (.inr ⟨.ok resp, ?_, ?_⟩)
        · simpa using hd
        · rintro o ⟨⟩
          exact .inr ⟨resp, rfl, by simpa [accepted] using hrefused, rfl⟩
  · refine (record_ensures _ _ _ w₂).mono ?_
    rintro ds a w' ⟨ht, -, hledger⟩
    refine .inl ⟨?_, fun o ho => ?_⟩
    · simp only [traffic_append, ht, List.append_nil]
      rfl
    · rw [hledger o ho, hledger₂]

/-- **An `apply` that records nothing leaves a prefix of its delivery.** The controller has the
requests it accepted, in order, and perhaps one whose response was lost; when the `apply`
returns a refusal, these are the requests before the refused one. -/
theorem apply_unrecorded {w w' : World Shown} {cs : List (Call Op Resp)}
    {a : Except Failure ApplyOutcome} (h : Exec (hosting anyhow obedient) (apply p) w cs a w')
    (hno : w'.store.ledger = w.store.ledger) :
    ∃ n, n ≤ (requests p.setpoints).length ∧
      w'.device = afterRequests (requests p.setpoints) n w.device ∧
      (n = acceptedCount (traffic cs) ∨ n = acceptedCount (traffic cs) + 1 ∧ ∃ e, a = .error e) ∧
      ∀ o, a = .ok o → n = acceptedCount (traffic cs) ∧ n < (requests p.setpoints).length ∧
        ok2xx o.controllerStatus = false := by
  have hunrecorded : ¬ w'.store.ledger.maxRevision = w.store.ledger.maxRevision + 1 := by
    rw [hno]
    omega
  have htraffic := traffic_of_exec h
  rcases apply_ensures w cs a w' h with ⟨hnone, hledger⟩ | ⟨out, hd, hcases⟩
  · rw [hnone] at htraffic ⊢
    generalize w'.device = c' at htraffic ⊢
    cases htraffic
    exact ⟨0, Nat.zero_le _, rfl, .inl rfl, fun o ho => absurd (hledger o ho) hunrecorded⟩
  · obtain ⟨n, hn, hdevice, hcount, hrefused, -⟩ :=
      prefix_of_delivery hd isPatch_of_requests htraffic
    have hok : ∀ o, a = .ok o → ∃ resp, out = .ok resp ∧ accepted out = false ∧
        o.controllerStatus = resp.status := fun o ho =>
      (hcases o ho).resolve_left hunrecorded
    refine ⟨n, hn, hdevice, hcount.imp_right ?_, ?_⟩
    · rintro ⟨hlost, e, rfl⟩
      refine ⟨hlost, ?_⟩
      cases a with
      | error f => exact ⟨f, rfl⟩
      | ok o =>
        obtain ⟨resp, hresp, -⟩ := hok o rfl
        cases hresp
    · intro o ho
      obtain ⟨resp, rfl, hout, hstatus⟩ := hok o ho
      obtain rfl | ⟨-, e, he⟩ := hcount
      · exact ⟨rfl, hrefused hout, hstatus ▸ hout⟩
      · cases he

end Apply

/-! ### Samples -/

/-- A bundle for the bench and a second one that its controller does not have. -/
def secondBench : Provenance :=
  edit { benchBundle with
    temperatureDayC := 26
    zones := benchBundle.zones ++ [⟨"bench-b", 3 / 10, 6 / 10, 600, "06:00,14:00"⟩] }

theorem Ledger.eq_of_entries {l l' : Ledger} (h : l.entries = l'.entries) : l = l' := by
  cases l
  cases l'
  cases h
  rfl

/-- The `apply` of the bundle for two benches, refused at the second one. -/
theorem apply_secondBench : ∃ cs a w, Exec (hosting anyhow obedient) (apply secondBench)
    ⟨{}, shownBench⟩ cs a w ∧ w.store.ledger = Ledger.empty ∧
    acceptedCount (traffic cs) = 2 ∧ w.device.global.temperatureDayC = 26 := by
  have hany : ∀ w o, anyhow o (serve .online respond w o).1 := fun _ _ => trivial
  have hserve := hosting_serve (D := obedient) hany obedient_respond
  refine ⟨_, _, _, Exec.of_eval hserve (apply secondBench) ⟨{}, shownBench⟩,
    Ledger.eq_of_entries ?_, ?_, ?_⟩ <;> decide

/-- The controller has the two requests before the refused one. -/
theorem apply_unrecorded_secondBench : ∃ cs a w,
    Exec (hosting anyhow obedient) (apply secondBench) ⟨{}, shownBench⟩ cs a w ∧
    ∃ n, w.device = afterRequests (requests secondBench.setpoints) n shownBench ∧ 2 ≤ n := by
  obtain ⟨cs, a, w, hexec, hno, hcount, -⟩ := apply_secondBench
  obtain ⟨n, -, hdevice, hn, -⟩ := apply_unrecorded hexec hno
  exact ⟨cs, a, w, hexec, n, hdevice, by omega⟩

/-- The refused `apply` has changed the day temperature of the controller. -/
theorem unrecorded_changed : ∃ cs a w,
    Exec (hosting anyhow obedient) (apply secondBench) ⟨{}, shownBench⟩ cs a w ∧
    w.store.ledger = Ledger.empty ∧ w.device ≠ shownBench := by
  obtain ⟨cs, a, w, hexec, hno, -, hday⟩ := apply_secondBench
  refine ⟨cs, a, w, hexec, hno, ?_⟩
  intro hsame
  rw [hsame] at hday
  revert hday
  decide

end Greenhouse.Platform
