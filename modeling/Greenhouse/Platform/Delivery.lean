import Greenhouse.Platform.Reconcile
import Greenhouse.Process.Run

/-!
# Deliveries

What a delivery and a report put on the wire, and what an exact controller makes of it.

* `deliver_ensures`: a delivery sends its requests one by one until one is not accepted.
* `reported_ensures`: a report reads the setpoints, then the zones.
* `exact_of_delivery`: an exact controller that has the zones accepts a delivery and shows it.
* `reconciled_of_shows`: a bundle a controller shows is reconciled with its report.
-/

namespace Greenhouse.Platform

open Greenhouse.Process Prog Reconciler

/-- A request and what the relay answered. -/
abbrev Exchange := Request × Except String Response

/-- The exchanges with the controller among some calls. -/
def traffic (cs : List (Call Op Resp)) : List Exchange :=
  cs.filterMap fun c =>
    match c with
    | ⟨.relay _ request, r⟩ => some (request, r)
    | _ => none

@[simp] theorem traffic_nil : traffic [] = [] := rfl

@[simp] theorem traffic_append (cs ds : List (Call Op Resp)) :
    traffic (cs ++ ds) = traffic cs ++ traffic ds := List.filterMap_append

@[simp] theorem traffic_relay (e : Endpoint) (q : Request) (r : Resp (.relay e q))
    (cs : List (Call Op Resp)) : traffic (⟨.relay e q, r⟩ :: cs) = (q, r) :: traffic cs := rfl

@[simp] theorem traffic_currentRevision (r : Resp .currentRevision) (cs : List (Call Op Resp)) :
    traffic (⟨.currentRevision, r⟩ :: cs) = traffic cs := rfl

@[simp] theorem traffic_getReconState (r : Resp .getReconState) (cs : List (Call Op Resp)) :
    traffic (⟨.getReconState, r⟩ :: cs) = traffic cs := rfl

@[simp] theorem traffic_fleetGet (r : Resp .fleetGet) (cs : List (Call Op Resp)) :
    traffic (⟨.fleetGet, r⟩ :: cs) = traffic cs := rfl

@[simp] theorem traffic_getEndpoint (r : Resp .getEndpoint) (cs : List (Call Op Resp)) :
    traffic (⟨.getEndpoint, r⟩ :: cs) = traffic cs := rfl

/-- One exchange with a device. -/
def Device.Step {C : Type} (D : Device C) (c : C) (x : Exchange) (c' : C) : Prop :=
  D.answer c x.1 x.2 c'

section Hosting

variable {C α : Type} {A : (o : Op) → Resp o → Prop} {D : Device C} {w w' : World C}

/-- The calls of a run are answered as the host allows. -/
theorem answers_of_exec {p : Program α} {cs : List (Call Op Resp)} {a : α}
    (h : Exec (hosting A D) p w cs a w') : ∀ c ∈ cs, A c.op c.resp := by
  induction h with
  | ret => intro c hc; cases hc
  | op henv _ ih =>
    intro c hc
    rcases List.mem_cons.1 hc with rfl | hc
    · exact henv.1
    · exact ih c hc

/-- The device sees the traffic of a run. -/
theorem traffic_of_exec {p : Program α} {cs : List (Call Op Resp)} {a : α}
    (h : Exec (hosting A D) p w cs a w') : Run D.Step w.device (traffic cs) w'.device := by
  induction h with
  | ret => exact .nil _
  | @op o k s s' s'' r cs a henv _ ih =>
    obtain ⟨_, _, _, hserves⟩ := henv
    cases o with
    | relay e q => exact .cons hserves ih
    | _ =>
      have hdevice : s'.device = s.device := hserves
      rw [← hdevice]
      exact ih

/-! ## What is sent -/

/-- The exchanges of a delivery and how it ends: every request is accepted, or one is not and
is the last. -/
inductive Delivery : List Request → List Exchange → Except String Response → Prop
  | done {resp : Response} : ok2xx resp.status → Delivery [] [] (.ok resp)
  | stopped {q : Request} {qs : List Request} {r : Except String Response} :
      accepted r = false → Delivery (q :: qs) [(q, r)] r
  | more {q : Request} {qs : List Request} {r out : Except String Response}
      {sent : List Exchange} :
      accepted r = true → Delivery qs sent out → Delivery (q :: qs) ((q, r) :: sent) out

theorem deliverZones_ensures (e : Endpoint) {resp : Response} (hresp : ok2xx resp.status)
    (zones : List ZoneTargets) (w : World C) :
    Ensures (hosting A D) (deliverZones e resp zones) w fun cs out w' =>
      w'.store = w.store ∧ Delivery (zones.map .patchZone) (traffic cs) out := by
  induction zones generalizing w with
  | nil => exact ensures_pure.2 ⟨rfl, .done hresp⟩
  | cons zone zones ih =>
    simp only [deliverZones, ensures_bind, ensures_call]
    rintro (err | zoneResp) w₁ ⟨_, _, hstore, _⟩
    · exact ensures_pure.2 ⟨hstore, .stopped rfl⟩
    · dsimp only
      split
      · rename_i hok
        refine (ih w₁).mono fun cs out w' h => ⟨h.1.trans hstore, ?_⟩
        exact .more hok h.2
      · rename_i hok
        exact ensures_pure.2 ⟨hstore, .stopped (by simpa [accepted] using hok)⟩

/-- **A delivery sends its requests until one is not accepted.** -/
theorem deliver_ensures (e : Endpoint) (s : Setpoints) (w : World C) :
    Ensures (hosting A D) (deliver e s) w fun cs out w' =>
      w'.store = w.store ∧ Delivery (requests s) (traffic cs) out := by
  simp only [deliver, ensures_bind, ensures_call]
  rintro (err | resp) w₁ ⟨_, _, hstore, _⟩
  · exact ensures_pure.2 ⟨hstore, .stopped rfl⟩
  · dsimp only
    split
    · rename_i hok
      refine (deliverZones_ensures e hok s.zones w₁).mono fun cs out w' h =>
        ⟨h.1.trans hstore, ?_⟩
      exact .more hok h.2
    · rename_i hok
      exact ensures_pure.2 ⟨hstore, .stopped (by simpa [accepted] using hok)⟩

/-- The exchanges of a report and what it gives. -/
inductive Report : List Exchange → Except String Setpoints → Prop
  | refused {r : Except String Response} {e : String} :
      accepted r = false → Report [(.getSetpoints, r)] (.error e)
  | refusedZones {r s : Except String Response} {e : String} :
      accepted r = true → accepted s = false →
        Report [(.getSetpoints, r), (.getZones, s)] (.error e)
  | read {r s : Response} :
      ok2xx r.status → ok2xx s.status →
        Report [(.getSetpoints, .ok r), (.getZones, .ok s)] (parseReported r.body s.body)

/-- **A report reads the setpoints, then the zones.** -/
theorem reported_ensures (e : Endpoint) (w : World C) :
    Ensures (hosting A D) (reported e) w fun cs out w' =>
      w'.store = w.store ∧ Report (traffic cs) out := by
  simp only [reported, ensures_bind, ensures_call]
  rintro (err | resp) w₁ ⟨_, _, hstore, _⟩
  · exact ensures_pure.2 ⟨hstore, .refused rfl⟩
  · dsimp only
    split
    · rename_i hok
      simp only [ensures_bind, ensures_call]
      rintro (err | zonesResp) w₂ ⟨_, _, hstore', _⟩
      · exact ensures_pure.2 ⟨hstore'.trans hstore, .refusedZones hok rfl⟩
      · dsimp only
        split
        · rename_i hok'
          exact ensures_pure.2 ⟨hstore'.trans hstore, .read hok hok'⟩
        · rename_i hok'
          exact ensures_pure.2 ⟨hstore'.trans hstore,
            .refusedZones hok (by simpa [accepted] using hok')⟩
    · rename_i hok
      exact ensures_pure.2 ⟨hstore, .refused (by simpa [accepted] using hok)⟩

end Hosting

/-! ## The exact controller -/

/-- The setpoints and the zones a controller shows. Its configuration has distinct zone ids. -/
structure Shown where
  global : GlobalSetpoints
  zones : List ZoneTargets
  distinct : DistinctZones zones

/-- Give a zone new targets. -/
def replaceZone (zone : ZoneTargets) (zones : List ZoneTargets) : List ZoneTargets :=
  zones.map fun z => if z.zoneId = zone.zoneId then zone else z

@[simp] theorem map_zoneId_replaceZone (zone : ZoneTargets) (zones : List ZoneTargets) :
    (replaceZone zone zones).map (·.zoneId) = zones.map (·.zoneId) := by
  simp only [replaceZone, List.map_map]
  refine List.map_congr_left fun z _ => ?_
  by_cases h : z.zoneId = zone.zoneId <;> simp [h]

namespace Shown

/-- The bundle the controller reports. -/
def report (c : Shown) : Setpoints := { c.global with zones := c.zones }

def zoneIds (c : Shown) : List String := c.zones.map (·.zoneId)

/-- The controller has the zone a request is for. -/
def knows (c : Shown) : Request → Bool
  | .patchZone zone => decide (zone.zoneId ∈ c.zoneIds)
  | _ => true

def patch (c : Shown) : Request → Shown
  | .patchSetpoints global => { c with global }
  | .patchZone zone =>
    { c with zones := replaceZone zone c.zones
             distinct := by rw [DistinctZones, map_zoneId_replaceZone]; exact c.distinct }
  | _ => c

@[simp] theorem zoneIds_patch (c : Shown) (q : Request) : (c.patch q).zoneIds = c.zoneIds := by
  cases q <;> simp [patch, zoneIds]

/-- The controller shows the global setpoints, and the last targets given for each zone. -/
def Shows (c : Shown) (global : GlobalSetpoints) (zones : List ZoneTargets) : Prop :=
  c.global = global ∧ ∀ z, lastZone zones z.zoneId = some z → z ∈ c.zones

theorem shows_patchSetpoints (c : Shown) (global : GlobalSetpoints) :
    (c.patch (.patchSetpoints global)).Shows global [] :=
  ⟨rfl, fun _ h => absurd h.symm (Option.some_ne_none _)⟩

theorem Shows.patchZone {c : Shown} {global : GlobalSetpoints} {zones : List ZoneTargets}
    (h : c.Shows global zones) {zone : ZoneTargets} (hknown : zone.zoneId ∈ c.zoneIds) :
    (c.patch (.patchZone zone)).Shows global (zones ++ [zone]) := by
  refine ⟨h.1, fun z hz => List.mem_map.2 ?_⟩
  rw [lastZone_append] at hz
  split at hz
  · obtain rfl := Option.some.inj hz
    obtain ⟨y, hy, hid⟩ := List.mem_map.1 hknown
    exact ⟨y, hy, if_pos hid⟩
  · rename_i hne
    exact ⟨z, h.2 z hz, if_neg (Ne.symm hne)⟩

end Shown

/-- **A bundle a controller shows is reconciled with its report.** -/
theorem reconciled_of_shows {c : Shown} {s : Setpoints} (hs : s.Consistent)
    (h : c.Shows s.toGlobalSetpoints s.zones) : s.reconciled c.report = true := by
  simp only [Setpoints.Consistent, Setpoints.reconciled, Bool.and_eq_true] at hs ⊢
  refine ⟨?_, zonesCoveredBy_iff.2 fun z hz => ?_⟩
  · simp [Shown.report, h.1]
  · obtain ⟨y, hlast, hequal⟩ := zonesCoveredBy_iff.1 hs.2 z hz
    have hid : y.zoneId = z.zoneId := (lastZone_zoneId hlast).2
    have hy : y ∈ c.zones := h.2 y (hid ▸ hlast)
    exact ⟨y, hid ▸ lastZone_of_mem c.distinct hy, hequal⟩

/-- The controller that applies every request for zones it has, and shows what it applied. -/
def exact : Device Shown where
  answer c q r c' :=
    match q with
    | .getSetpoints => (∃ st, ok2xx st ∧ r = .ok ⟨st, .setpoints c.global⟩) ∧ c' = c
    | .getZones => (∃ st, ok2xx st ∧ r = .ok ⟨st, .zones c.zones⟩) ∧ c' = c
    | q => (∃ resp, r = .ok resp ∧ ok2xx resp.status = c.knows q) ∧
        c' = if c.knows q then c.patch q else c

/-- The controller has every zone of the bundle. -/
def Shown.HasZones (c : Shown) (zones : List ZoneTargets) : Prop :=
  ∀ z ∈ zones, z.zoneId ∈ c.zoneIds

instance (c : Shown) (zones : List ZoneTargets) : Decidable (c.HasZones zones) :=
  inferInstanceAs (Decidable (∀ z ∈ zones, z.zoneId ∈ c.zoneIds))

/-- A zone request to an exact controller that has the zone. -/
theorem exact_patchZone {c c' : Shown} {zone : ZoneTargets} {r : Except String Response}
    (hknown : zone.zoneId ∈ c.zoneIds) (h : exact.answer c (.patchZone zone) r c') :
    accepted r = true ∧ c' = c.patch (.patchZone zone) := by
  obtain ⟨⟨resp, rfl, hok⟩, rfl⟩ := h
  have hknows : c.knows (.patchZone zone) = true := by simpa [Shown.knows] using hknown
  rw [hknows] at hok
  exact ⟨hok, by rw [if_pos hknows]⟩

theorem exact_patchSetpoints {c c' : Shown} {global : GlobalSetpoints}
    {r : Except String Response} (h : exact.answer c (.patchSetpoints global) r c') :
    accepted r = true ∧ c' = c.patch (.patchSetpoints global) := by
  obtain ⟨⟨resp, rfl, hok⟩, rfl⟩ := h
  exact ⟨hok, rfl⟩

theorem exact_of_zones {zones shown : List ZoneTargets} {global : GlobalSetpoints}
    {sent : List Exchange} {out : Except String Response} {c c' : Shown}
    (hd : Delivery (zones.map .patchZone) sent out) (hr : Run exact.Step c sent c')
    (hknown : c.HasZones zones) (hshows : c.Shows global shown) :
    accepted out = true ∧ c'.Shows global (shown ++ zones) ∧ c'.zoneIds = c.zoneIds := by
  induction zones generalizing shown sent c with
  | nil =>
    cases hd with
    | done hok =>
      cases hr
      exact ⟨hok, by simpa using hshows, rfl⟩
  | cons zone zones ih =>
    have hzone : zone.zoneId ∈ c.zoneIds := hknown zone List.mem_cons_self
    cases hd with
    | stopped hrefused =>
      obtain _ | ⟨hstep, -⟩ := hr
      rw [(exact_patchZone hzone hstep).1] at hrefused
      cases hrefused
    | more _ hd =>
      obtain _ | ⟨hstep, hr⟩ := hr
      obtain ⟨-, rfl⟩ := exact_patchZone hzone hstep
      have hrest := ih hd hr
        (fun z hz => by rw [Shown.zoneIds_patch]; exact hknown z (List.mem_cons_of_mem _ hz))
        (hshows.patchZone hzone)
      simpa using hrest

/-- **An exact controller that has the zones accepts a delivery and shows it.** -/
theorem exact_of_delivery {s : Setpoints} {sent : List Exchange} {out : Except String Response}
    {c c' : Shown} (hd : Delivery (requests s) sent out) (hr : Run exact.Step c sent c')
    (hknown : c.HasZones s.zones) :
    accepted out = true ∧ c'.Shows s.toGlobalSetpoints s.zones ∧ c'.zoneIds = c.zoneIds := by
  cases hd with
  | stopped hrefused =>
    obtain _ | ⟨hstep, -⟩ := hr
    rw [(exact_patchSetpoints hstep).1] at hrefused
    cases hrefused
  | more _ hd =>
    obtain _ | ⟨hstep, hr⟩ := hr
    obtain ⟨-, rfl⟩ := exact_patchSetpoints hstep
    have hrest := exact_of_zones hd hr hknown (c.shows_patchSetpoints _)
    simpa using hrest

/-! ## Samples -/

/-- A bundle for a house with one bench. -/
def benchBundle : Setpoints where
  temperatureDayC := 24
  temperatureNightC := 18
  dayStart := "06:00"
  dayEnd := "20:00"
  humidityLowPct := 55
  humidityHighPct := 80
  humidityDeadbandPct := 5
  co2TargetPpm := 900
  co2VentInterlockThresholdPct := 20
  vpdTargetKpa := 1
  dliTargetMol := 17
  zones := [⟨"bench-a", 3 / 10, 6 / 10, 600, "06:00,14:00"⟩]

/-- The bench as it was delivered. -/
def shownBench : Shown where
  global := benchBundle.toGlobalSetpoints
  zones := benchBundle.zones
  distinct := by decide

/-- An exact controller as a function. -/
def respond (c : Shown) (q : Request) : Except String Response × Shown :=
  match q with
  | .getSetpoints => (.ok ⟨200, .setpoints c.global⟩, c)
  | .getZones => (.ok ⟨200, .zones c.zones⟩, c)
  | q => if c.knows q then (.ok ⟨200, .text "{}"⟩, c.patch q) else (.ok ⟨404, .text "{}"⟩, c)

theorem exact_respond (c : Shown) (q : Request) :
    exact.answer c q (respond c q).1 (respond c q).2 := by
  cases q with
  | getSetpoints => exact ⟨⟨200, rfl, rfl⟩, rfl⟩
  | getZones => exact ⟨⟨200, rfl, rfl⟩, rfl⟩
  | patchSetpoints g => exact ⟨⟨_, rfl, rfl⟩, rfl⟩
  | patchZone z =>
    simp only [exact, respond]
    split
    · rename_i h
      exact ⟨⟨_, rfl, by rw [h]; rfl⟩, rfl⟩
    · rename_i h
      rw [Bool.not_eq_true] at h
      exact ⟨⟨_, rfl, by rw [h]; rfl⟩, rfl⟩

/-- An operator's edit that leads to a bundle. -/
def edit (setpoints : Setpoints) : Provenance where
  source := .operatorEdit
  actor := "operator"
  reason := "ad-hoc edit"
  setpoints := setpoints

end Greenhouse.Platform
