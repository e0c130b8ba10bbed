import Greenhouse.Platform.Passes

/-!
# Re-asserting on reconnect

A greenhouse that is reachable again, with a controller that accepts every PATCH, gets one
pass. `reconnect_iff` says from which states the pass leaves the current revision delivered;
`reconnect_skipped` is a run to a state from which it does not.
-/

namespace Greenhouse.Platform

open Greenhouse.Process Prog Reconciler

/-- The row says that the revision is the one delivered. -/
def Store.Delivered (s : Store) (c : SetpointRevision) : Prop :=
  s.row.lastDeliveredRevision = some c.revision ∧ s.row.deliveryStatus = .delivered

/-- A controller that answers reads from its state and accepts every PATCH. -/
def accepting {C : Type} (read : C → Request → Except String Response) : Device C where
  answer c q r c' :=
    match q with
    | .getSetpoints => r = read c .getSetpoints ∧ c' = c
    | .getZones => r = read c .getZones ∧ c' = c
    | _ => accepted r

/-- The bundle a controller reports in a state. -/
def Reads {C : Type} (read : C → Request → Except String Response) (d : C)
    (shown : Setpoints) : Prop :=
  ∃ r s, read d .getSetpoints = .ok r ∧ ok2xx r.status ∧ read d .getZones = .ok s ∧
    ok2xx s.status ∧ parseReported r.body s.body = .ok shown

section

variable {C : Type} {read : C → Request → Except String Response} {d d' : C}

/-- What a report reads from an accepting controller. -/
theorem reads_of_report {t : List Exchange} {out : Except String Setpoints} (h : Report t out)
    (hr : Run (accepting read).Step d t d') (shown : Setpoints) :
    Reads read d shown ↔ out = .ok shown := by
  cases h with
  | refused href =>
    obtain _ | ⟨⟨rfl, rfl⟩, -⟩ := hr
    constructor
    · rintro ⟨r, s, hr, hok, -⟩
      rw [hr] at href
      exact absurd hok (by simpa [accepted] using href)
    · rintro ⟨⟩
  | refusedZones _ href =>
    obtain _ | ⟨⟨rfl, rfl⟩, _ | ⟨⟨rfl, rfl⟩, -⟩⟩ := hr
    constructor
    · rintro ⟨r, s, -, -, hs, hok, -⟩
      rw [hs] at href
      exact absurd hok (by simpa [accepted] using href)
    · rintro ⟨⟩
  | @read r s hok hok' =>
    obtain _ | ⟨⟨hread, rfl⟩, _ | ⟨⟨hread', rfl⟩, -⟩⟩ := hr
    constructor
    · rintro ⟨r', s', hr, -, hs, -, hparse⟩
      obtain rfl := Except.ok.inj (hread.trans hr)
      obtain rfl := Except.ok.inj (hread'.trans hs)
      exact hparse
    · intro hparse
      exact ⟨r, s, hread.symm, hok, hread'.symm, hok', hparse⟩

/-- An accepting controller accepts a delivery. -/
theorem accepted_of_delivery {qs : List Request} {sent : List Exchange}
    {out : Except String Response} (hd : Delivery qs sent out)
    (hqs : ∀ q ∈ qs, q ≠ .getSetpoints ∧ q ≠ .getZones)
    (hr : Run (accepting read).Step d sent d') : accepted out = true := by
  induction hd generalizing d with
  | done hok => exact hok
  | @stopped q qs r hrefused =>
    obtain _ | ⟨hstep, -⟩ := hr
    obtain ⟨hset, hzones⟩ := hqs q List.mem_cons_self
    cases q <;> first | contradiction | exact hstep
  | more _ _ ih =>
    obtain _ | ⟨-, hr⟩ := hr
    exact ih (fun q hq => hqs q (List.mem_cons_of_mem _ hq)) hr

theorem requests_ne_get {s : Setpoints} :
    ∀ q ∈ requests s, q ≠ .getSetpoints ∧ q ≠ .getZones := by
  simp [requests]

/-- A pass over a reachable greenhouse whose controller accepts every PATCH leaves the current
revision delivered exactly from these states. -/
theorem delivered_of_pass_iff {maxRetries : Nat} {w w' : World C} {c : SetpointRevision}
    {cs : List (Call Op Resp)} (hc : w.store.ledger.current = some c)
    (hpass : Pass (hosting Works (accepting read)) maxRetries w cs w') :
    w'.store.Delivered c ↔
      (w.store.row.lastDeliveredRevision ≠ some c.revision ∧ w.store.row.failCount < maxRetries) ∨
      (w.store.row.lastDeliveredRevision = some c.revision ∧
        (w.store.row.deliveryStatus = .delivered ∨
          ∃ shown, Reads read w.device shown ∧ c.setpoints.reconciled shown)) := by
  obtain ⟨hcases, htraffic⟩ := hpass.worked hc
  generalize w'.store = s' at hcases ⊢
  cases hcases with
  | backedOff hheld hback _ => simp [Store.Delivered, hheld, not_lt.2 hback]
  | reasserted hheld hleft hd =>
    have hok := accepted_of_delivery hd requests_ne_get htraffic
    simp [Store.Delivered, hok, reasserted, hheld, hleft]
  | unread hdel hreport =>
    have hreads := reads_of_report hreport htraffic
    simp [Store.Delivered, hdel, hreads]
  | synced hdel hreport hmatch =>
    have hreads := reads_of_report hreport htraffic
    simp [Store.Delivered, synced, hdel, hreads, hmatch]
  | corrected hdel ht hreport hmatch _ _ =>
    rw [ht] at htraffic
    obtain ⟨d₁, hreads, -⟩ := htraffic.split
    have hreads := reads_of_report hreport hreads
    simp [Store.Delivered, hdel, hreads, hmatch]
  | exhausted hdel hreport hmatch _ =>
    have hreads := reads_of_report hreport htraffic
    simp [Store.Delivered, hdel, hreads, hmatch]

/-- **The reconnect pass over the fleet.** A reachable greenhouse whose controller accepts
every PATCH has its current revision delivered by the next pass exactly when it was not
delivered before and retries were left, or it was, and the row says so already or the
controller reports it. -/
theorem reconnect_iff {E : String → Env Op Resp (World C)} {maxRetries : Nat}
    {F F' : Family String (World C)} {id : String} {c : SetpointRevision}
    {cs : List (Call (FamilyOp String Op) (FamilyResp String Resp))}
    (hE : E id = hosting Works (accepting read)) (hid : id ∈ F.keys)
    (hc : (F.member id).store.ledger.current = some c)
    (hpass : FleetPass E maxRetries F cs F') :
    (F'.member id).store.Delivered c ↔
      ((F.member id).store.row.lastDeliveredRevision ≠ some c.revision ∧
        (F.member id).store.row.failCount < maxRetries) ∨
      ((F.member id).store.row.lastDeliveredRevision = some c.revision ∧
        ((F.member id).store.row.deliveryStatus = .delivered ∨
          ∃ shown, Reads read (F.member id).device shown ∧ c.setpoints.reconciled shown)) := by
  have hone := hpass.pass.2 id hid
  rw [hE] at hone
  exact delivered_of_pass_iff hc hone

end

/-! ## Sample runs -/

/-- A controller with the bundle that accepts every request. -/
def obliging (_ : Unit) : Request → Except String Response × Unit
  | .getSetpoints => (.ok ⟨200, .setpoints benchBundle.toGlobalSetpoints⟩, ())
  | .getZones => (.ok ⟨200, .zones benchBundle.zones⟩, ())
  | _ => (.ok ⟨200, .text "{}"⟩, ())

theorem accepting_obliging (d : Unit) (q : Request) :
    (accepting fun d q => (obliging d q).1).answer d q (obliging d q).1 (obliging d q).2 := by
  cases q with
  | getSetpoints => exact ⟨rfl, rfl⟩
  | getZones => exact ⟨rfl, rfl⟩
  | _ => exact rfl

/-- A fleet of one greenhouse, with an edit made while it was offline. -/
def heldFleet : Family String (World Unit) where
  keys := ["gh-a"]
  nodup := List.nodup_singleton _
  member _ := ((apply (edit benchBundle)).eval (serve .offline obliging) ⟨{}, ()⟩).2

/-- The held edit is delivered on reconnect. -/
theorem reconnect_iff_held : ∃ cs F',
    FleetPass (fun _ => hosting Works (accepting fun d q => (obliging d q).1)) 3 heldFleet cs F' ∧
    (F'.member "gh-a").store.Delivered { edit benchBundle with revision := 1 } := by
  have hexec := Exec.of_eval
    (family_serve fun _ : String => hosting_serve (works_serve online_ne_offline)
      accepting_obliging) (reconcileOnce 3) heldFleet
  refine ⟨_, _, hexec, ?_⟩
  rw [reconnect_iff rfl (by decide) (by decide +kernel) hexec]
  exact .inl ⟨by decide, by decide⟩

/-- The states of a greenhouse after any number of intended states and passes, under any
conditions. -/
inductive Reached (maxRetries : Nat) : World Unit → Prop
  | init : Reached maxRetries ⟨{}, ()⟩
  | apply {w w' : World Unit} {p : Provenance} {cs : List (Call Op Resp)}
      {a : Except Failure ApplyOutcome} :
      Reached maxRetries w → Exec (hosting anyhow anything) (apply p) w cs a w' →
        Reached maxRetries w'
  | passes {w w' : World Unit} {n : Nat} {cs : List (Call Op Resp)} :
      Reached maxRetries w → Exec (hosting anyhow anything) (passes maxRetries n) w cs () w' →
        Reached maxRetries w'

/-- A controller that answers every request with a status. -/
def always (status : Nat) (_ : Unit) (_ : Request) : Except String Response × Unit :=
  (.ok ⟨status, .text ""⟩, ())

/-- An edit made while the greenhouse is offline, then three refused re-asserts. -/
def givenUp : World Unit :=
  ((passes 3 3).eval (serve .online (always 503))
    ((apply (edit benchBundle)).eval (serve .offline (always 503)) ⟨{}, ()⟩).2).2

theorem reached_givenUp : Reached 3 givenUp := by
  have henv : ∀ live (w : World Unit) o, hosting anyhow anything w o
      (serve live (always 503) w o).1 (serve live (always 503) w o).2 := fun live =>
    hosting_serve (fun _ _ => trivial) fun _ _ => trivial
  exact .passes (.apply .init (Exec.of_eval (henv .offline) _ _)) (Exec.of_eval (henv .online) _ _)

/-- The greenhouse goes offline for a pass and comes back, its controller accepting
everything: the next pass delivers nothing. -/
theorem reconnect_skipped :
    ∃ (w w' : World Unit) (cs ds : List (Call Op Resp)) (c : SetpointRevision),
      Reached 3 givenUp ∧ Pass (hosting Away anything) 3 givenUp cs w ∧
      Pass (hosting Works (accepting fun d q => (obliging d q).1)) 3 w ds w' ∧
      w.store.ledger.current = some c ∧ ¬ w'.store.Delivered c := by
  have haway : ∀ (w : World Unit) o, Away o (serve .offline obliging w o).1 := by
    intro w o
    cases o with
    | fleetGet => exact rfl
    | upsertReconState recon => exact rfl
    | appendRevision p => exact ⟨_, rfl⟩
    | currentRevision => exact ⟨_, rfl⟩
    | getReconState => exact ⟨_, rfl⟩
    | getEndpoint => exact ⟨_, rfl⟩
    | _ => trivial
  have hoff := Exec.of_eval (hosting_serve (D := anything) haway fun _ _ => trivial)
    (reconcileGreenhouse 3) givenUp
  have hon := Exec.of_eval (hosting_serve (works_serve online_ne_offline) accepting_obliging)
    (reconcileGreenhouse 3) ((reconcileGreenhouse 3).eval (serve .offline obliging) givenUp).2
  refine ⟨_, _, _, _, { edit benchBundle with revision := 1 }, reached_givenUp, ⟨_, hoff⟩,
    ⟨_, hon⟩, ?_, ?_⟩
  · decide +kernel
  · unfold Store.Delivered
    decide

end Greenhouse.Platform
