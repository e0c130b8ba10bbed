import Greenhouse.Platform.Reconcile

/-!
# The phases of the reconciler

What the loop and the `apply` calls can do next depends on what they have read and sent. The
phases carry it; `LoopPermits` and `ApplyPermits` list the operations of each phase, and
`loopNext` and `applyNext` say where a response leads.

* `passes_obeys`, `apply_obeys`: the programs keep to their phases, whatever is answered.
-/

namespace Greenhouse.Platform

open Greenhouse.Process Prog Reconciler

/-- Where a thread of the reconciler is. -/
inductive Phase where
  /-- Between two passes. -/
  | idle
  /-- A pass has read the current revision, and then the row. -/
  | intent (c : SetpointRevision)
  | row (c : SetpointRevision) (recon : ReconState)
  | away (recon : ReconState)
  | reached (c : SetpointRevision) (recon : ReconState)
  /-- A pass compares: it has read the setpoints, and then the zones. -/
  | half (c : SetpointRevision) (recon : ReconState) (resp : Response)
  | judged (c : SetpointRevision) (recon : ReconState) (same : Bool)
  /-- A pass delivers, to correct drift or to re-assert. -/
  | pushing (c : SetpointRevision) (recon : ReconState) (drift : Bool) (todo : List Request)
  | refused (c : SetpointRevision) (recon : ReconState) (drift : Bool)
  /-- An apply has sent nothing, has requests to send, or is done with the controller. -/
  | asked
  | sending (todo : List Request)
  | settled (delivery : DeliveryStatus)
  /-- An apply has appended its revision, and then read the row. -/
  | appended (delivery : DeliveryStatus) (revision : Nat)
  | holding (delivery : DeliveryStatus) (revision : Nat) (recon : ReconState)
  | over

/-! ## The rule for deliveries -/

section

variable {P : Protocol Op Resp Phase} {J : List Request → Phase → Prop}
  {post : Phase → Except String Response → Prop} {e : Endpoint}

/-- What sending the next request must satisfy for a delivery to obey a protocol. -/
def SendsOk (P : Protocol Op Resp Phase) (e : Endpoint) (J : List Request → Phase → Prop)
    (post : Phase → Except String Response → Prop) : Prop :=
  ∀ q todo ph, J (q :: todo) ph → P.permits ph (.relay e q) ∧
    ∀ r, P.answers ph (.relay e q) r →
      if accepted r then J todo (P.next ph (.relay e q) r) else post (P.next ph (.relay e q) r) r

theorem deliverZones_obeys (hsend : SendsOk P e J post)
    (hdone : ∀ ph resp, J [] ph → ok2xx resp.status → post ph (.ok resp))
    {resp : Response} (hresp : ok2xx resp.status) {zones : List ZoneTargets} {ph : Phase}
    (h : J (zones.map .patchZone) ph) : (deliverZones e resp zones).Obeys P ph post := by
  induction zones generalizing ph with
  | nil => exact hdone ph resp h hresp
  | cons zone zones ih =>
    obtain ⟨hpermits, hnext⟩ := hsend _ _ _ h
    simp only [deliverZones, obeys_bind, obeys_call]
    refine ⟨hpermits, ?_⟩
    rintro (err | zoneResp) hr
    · exact hnext (.error err) hr
    · have hnext := hnext (.ok zoneResp) hr
      by_cases hok : ok2xx zoneResp.status = true
      · simp only [accepted, hok, if_true] at hnext ⊢
        exact ih hnext
      · simp only [accepted, hok] at hnext ⊢
        exact hnext

/-- **A delivery obeys a protocol if each of its requests does.** -/
theorem deliver_obeys (hsend : SendsOk P e J post)
    (hdone : ∀ ph resp, J [] ph → ok2xx resp.status → post ph (.ok resp))
    {s : Setpoints} {ph : Phase} (h : J (requests s) ph) : (deliver e s).Obeys P ph post := by
  obtain ⟨hpermits, hnext⟩ := hsend _ _ _ h
  simp only [deliver, obeys_bind, obeys_call]
  refine ⟨hpermits, ?_⟩
  rintro (err | resp) hr
  · exact hnext (.error err) hr
  · have hnext := hnext (.ok resp) hr
    by_cases hok : ok2xx resp.status = true
    · simp only [accepted, hok, if_true] at hnext ⊢
      exact deliverZones_obeys hsend hdone hok hnext
    · simp only [accepted, hok] at hnext ⊢
      exact hnext

end

/-! ## The loop -/

/-- The row a pass writes after a delivery. -/
def pushedRow (c : SetpointRevision) (recon : ReconState) (drift ok : Bool) : ReconState :=
  if drift then { recon with drift := true, failCount := recon.failCount + 1 }
  else reasserted recon c.revision ok

/-- The operations of the loop. -/
inductive LoopPermits (maxRetries : Nat) : Phase → Op → Prop
  | current {ph : Phase} : LoopPermits maxRetries ph .currentRevision
  | broadcast {ph : Phase} {drift : Bool} : LoopPermits maxRetries ph (.broadcastDrift drift)
  | row {c : SetpointRevision} : LoopPermits maxRetries (.intent c) .getReconState
  | endpoint {c : SetpointRevision} {ρ : ReconState} :
      LoopPermits maxRetries (.row c ρ) .getEndpoint
  | fleet {c : SetpointRevision} {ρ : ReconState} : LoopPermits maxRetries (.row c ρ) .fleetGet
  | defer {ρ : ReconState} :
      LoopPermits maxRetries (.away ρ) (.upsertReconState { ρ with deliveryStatus := .deferred })
  | getSetpoints {c : SetpointRevision} {ρ : ReconState} {e : Endpoint} :
      ρ.lastDeliveredRevision = some c.revision →
      LoopPermits maxRetries (.reached c ρ) (.relay e .getSetpoints)
  | getZones {c : SetpointRevision} {ρ : ReconState} {resp : Response} {e : Endpoint} :
      LoopPermits maxRetries (.half c ρ resp) (.relay e .getZones)
  | synced {c : SetpointRevision} {ρ : ReconState} :
      LoopPermits maxRetries (.judged c ρ true) (.upsertReconState (synced ρ))
  | exhausted {c : SetpointRevision} {ρ : ReconState} : maxRetries ≤ ρ.failCount →
      LoopPermits maxRetries (.judged c ρ false) (.upsertReconState { ρ with drift := true })
  | correct {c : SetpointRevision} {ρ : ReconState} {e : Endpoint} : ρ.failCount < maxRetries →
      LoopPermits maxRetries (.judged c ρ false)
        (.relay e (.patchSetpoints c.setpoints.toGlobalSetpoints))
  | reassert {c : SetpointRevision} {ρ : ReconState} {e : Endpoint} :
      ρ.lastDeliveredRevision ≠ some c.revision → ρ.failCount < maxRetries →
      LoopPermits maxRetries (.reached c ρ)
        (.relay e (.patchSetpoints c.setpoints.toGlobalSetpoints))
  | push {c : SetpointRevision} {ρ : ReconState} {drift : Bool} {q : Request}
      {todo : List Request} {e : Endpoint} :
      LoopPermits maxRetries (.pushing c ρ drift (q :: todo)) (.relay e q)
  | pushed {c : SetpointRevision} {ρ : ReconState} {drift : Bool} :
      LoopPermits maxRetries (.pushing c ρ drift [])
        (.upsertReconState (pushedRow c ρ drift true))
  | refused {c : SetpointRevision} {ρ : ReconState} {drift : Bool} :
      LoopPermits maxRetries (.refused c ρ drift)
        (.upsertReconState (pushedRow c ρ drift false))

/-- The phase after a request of a delivery of the loop. -/
def afterPush (c : SetpointRevision) (recon : ReconState) (drift : Bool) (todo : List Request)
    (r : Except String Response) : Phase :=
  if accepted r then .pushing c recon drift todo else .refused c recon drift

/-- The phase after a read of the controller's zones. -/
def afterRead (c : SetpointRevision) (recon : ReconState) (resp zonesResp : Response) : Phase :=
  if ok2xx zonesResp.status then
    match parseReported resp.body zonesResp.body with
    | .ok shown => .judged c recon (c.setpoints.reconciled shown)
    | .error _ => .idle
  else .idle

def loopNext : Phase → (o : Op) → Resp o → Phase
  | _, .currentRevision, .ok (some c) => .intent c
  | .intent c, .getReconState, .ok found => .row c (found.getD {})
  | .row c ρ, .getEndpoint, .ok (some _) => .row c ρ
  | .row c ρ, .fleetGet, live => if isReachable live then .reached c ρ else .away ρ
  | .reached c ρ, .relay _ .getSetpoints, .ok resp =>
    if ok2xx resp.status then .half c ρ resp else .idle
  | .half c ρ resp, .relay _ .getZones, .ok zonesResp => afterRead c ρ resp zonesResp
  | .judged c ρ _, .relay _ (.patchSetpoints _), r =>
    afterPush c ρ true (c.setpoints.zones.map .patchZone) r
  | .reached c ρ, .relay _ (.patchSetpoints _), r =>
    afterPush c ρ false (c.setpoints.zones.map .patchZone) r
  | .pushing c ρ drift (_ :: todo), .relay _ _, r => afterPush c ρ drift todo r
  | ph, .broadcastDrift _, _ => ph
  | _, _, _ => .idle

/-- The protocol of the loop. -/
def loopProtocol (maxRetries : Nat) : Protocol Op Resp Phase where
  permits := LoopPermits maxRetries
  answers _ _ _ := True
  next := loopNext

section Loop

variable {maxRetries : Nat} {c : SetpointRevision} {ρ : ReconState} {e : Endpoint} {ph : Phase}

theorem broadcastWhen_obeys (cond drift : Bool) {post : Phase → Unit → Prop} (h : post ph ()) :
    (broadcastWhen cond drift).Obeys (loopProtocol maxRetries) ph post := by
  unfold broadcastWhen
  split
  · exact ⟨.broadcast, fun _ _ => h⟩
  · exact h

/-- A delivery of the loop, from a phase in which it may start. -/
theorem push_obeys (drift : Bool)
    (hstart : LoopPermits maxRetries ph (.relay e (.patchSetpoints c.setpoints.toGlobalSetpoints)))
    (hnext : ∀ r, loopNext ph (.relay e (.patchSetpoints c.setpoints.toGlobalSetpoints)) r =
      afterPush c ρ drift (c.setpoints.zones.map .patchZone) r) :
    (deliver e c.setpoints).Obeys (loopProtocol maxRetries) ph fun ph' out =>
      ph' = if accepted out then .pushing c ρ drift [] else .refused c ρ drift := by
  refine deliver_obeys (J := fun todo ph' =>
    (todo = requests c.setpoints ∧ ph' = ph) ∨ ph' = .pushing c ρ drift todo) ?_ ?_
    (.inl ⟨rfl, rfl⟩)
  · rintro q todo ph' (⟨htodo, rfl⟩ | rfl)
    · obtain ⟨rfl, rfl⟩ := List.cons.inj htodo
      refine ⟨hstart, fun r _ => ?_⟩
      simp only [loopProtocol, hnext, afterPush]
      split
      · exact .inr rfl
      · rfl
    · refine ⟨.push, fun r _ => ?_⟩
      simp only [loopProtocol, loopNext, afterPush]
      split
      · exact .inr rfl
      · rfl
  · rintro ph' resp (⟨htodo, -⟩ | rfl) hok
    · cases htodo
    · simp [accepted, hok]

/-- A write of the loop that its phase permits. -/
theorem recordDrift_obeys {newly : Bool} (h : LoopPermits maxRetries ph (.upsertReconState ρ)) :
    (recordDrift newly ρ).Obeys (loopProtocol maxRetries) ph fun _ _ => True := by
  simp only [recordDrift, upsert, obeys_bind, obeys_call]
  refine ⟨h, ?_⟩
  rintro (err | ⟨⟩) _
  · exact trivial
  · exact obeys_bind.2 (broadcastWhen_obeys _ _ trivial)

theorem reassert_obeys (hheld : ρ.lastDeliveredRevision ≠ some c.revision) :
    (reassert maxRetries e c ρ).Obeys (loopProtocol maxRetries) (.reached c ρ)
      fun _ _ => True := by
  unfold reassert
  split
  · exact trivial
  · rename_i hleft
    refine obeys_bind.2 ((push_obeys (ρ := ρ) false
      (.reassert hheld (not_le.1 hleft)) fun _ => rfl).mono ?_)
    rintro ph' out rfl
    cases hout : accepted out
    · exact ⟨.refused, fun _ _ => trivial⟩
    · exact ⟨.pushed, fun _ _ => trivial⟩

theorem handleDrift_obeys :
    (handleDrift maxRetries e c ρ).Obeys (loopProtocol maxRetries) (.judged c ρ false)
      fun _ _ => True := by
  unfold handleDrift
  split
  · rename_i hleft
    refine obeys_bind.2 ((push_obeys (ρ := ρ) true (.correct hleft) fun _ => rfl).mono
      ?_)
    rintro ph' out rfl
    cases hout : accepted out
    · exact recordDrift_obeys .refused
    · exact recordDrift_obeys .pushed
  · rename_i hback
    exact recordDrift_obeys (.exhausted (not_lt.1 hback))

theorem markSynced_obeys :
    (markSynced ρ).Obeys (loopProtocol maxRetries) (.judged c ρ true) fun _ _ => True := by
  unfold markSynced
  split
  · exact trivial
  · simp only [upsert, obeys_bind, obeys_call]
    refine ⟨.synced, ?_⟩
    rintro (err | ⟨⟩) _
    · exact trivial
    · exact obeys_bind.2 (broadcastWhen_obeys _ _ trivial)

theorem checkDrift_obeys (hdel : ρ.lastDeliveredRevision = some c.revision) :
    (checkDrift maxRetries e c ρ).Obeys (loopProtocol maxRetries) (.reached c ρ)
      fun _ _ => True := by
  simp only [checkDrift, reported, obeys_bind, obeys_call]
  refine ⟨.getSetpoints hdel, ?_⟩
  rintro (err | resp) _
  · exact trivial
  dsimp only
  split
  · rename_i hok
    simp only [obeys_bind, obeys_call]
    have hhalf : loopNext (.reached c ρ) (.relay e .getSetpoints) (.ok resp) = .half c ρ resp := by
      simp [loopNext, hok]
    simp only [loopProtocol, hhalf]
    refine ⟨.getZones, ?_⟩
    rintro (err | zonesResp) _
    · exact trivial
    dsimp only
    split
    · rename_i hok'
      simp only [obeys_pure, loopNext, afterRead, hok', if_true]
      cases hparse : parseReported resp.body zonesResp.body with
      | error err => exact trivial
      | ok shown =>
        dsimp only
        cases hsame : c.setpoints.reconciled shown
        · exact handleDrift_obeys
        · exact markSynced_obeys
    · exact trivial
  · exact trivial

theorem reconcileGreenhouse_obeys :
    (reconcileGreenhouse maxRetries).Obeys (loopProtocol maxRetries) ph fun _ _ => True := by
  simp only [reconcileGreenhouse, obeys_bind, obeys_call]
  refine ⟨.current, ?_⟩
  rintro (err | _ | c) _
  · exact trivial
  · exact trivial
  simp only [obeys_bind, obeys_call]
  refine ⟨.row, ?_⟩
  rintro (err | found) _
  · exact trivial
  simp only [obeys_bind, obeys_call]
  refine ⟨.endpoint, ?_⟩
  rintro (err | _ | e) _
  · exact trivial
  · exact trivial
  simp only [reachable, obeys_bind, obeys_call, obeys_pure]
  refine ⟨.fleet, fun live _ => ?_⟩
  cases hlive : isReachable live with
  | true =>
    have hreached : loopNext (.row c (found.getD {})) .fleetGet live =
        .reached c (found.getD {}) := by simp [loopNext, hlive]
    simp only [loopProtocol, loopNext, if_true] at hreached ⊢
    rw [hreached]
    split
    · rename_i hdel
      exact checkDrift_obeys hdel
    · rename_i hheld
      exact reassert_obeys hheld
  | false =>
    have haway : loopNext (.row c (found.getD {})) .fleetGet live = .away (found.getD {}) := by
      simp [loopNext, hlive]
    simp only [loopProtocol, loopNext, Bool.false_eq_true, if_false] at haway ⊢
    rw [haway]
    unfold defer
    split
    · exact ⟨.defer, fun _ _ => trivial⟩
    · exact trivial

/-- **The loop keeps to its phases.** -/
theorem passes_obeys (n : Nat) :
    (passes maxRetries n).Obeys (loopProtocol maxRetries) ph fun _ _ => True := by
  induction n generalizing ph with
  | zero => exact trivial
  | succ n ih => exact obeys_bind.2 (reconcileGreenhouse_obeys.mono fun _ _ _ => ih)

end Loop

/-! ## An apply call -/

/-- The operations of an `apply` call. -/
inductive ApplyPermits (p : Provenance) : Phase → Op → Prop
  | endpoint : ApplyPermits p .asked .getEndpoint
  | fleet : ApplyPermits p .asked .fleetGet
  | send {q : Request} {todo : List Request} {e : Endpoint} :
      ApplyPermits p (.sending (q :: todo)) (.relay e q)
  | previous {d : DeliveryStatus} : ApplyPermits p (.settled d) .currentRevision
  | append {d : DeliveryStatus} : ApplyPermits p (.settled d) (.appendRevision p)
  | row {d : DeliveryStatus} {n : Nat} : ApplyPermits p (.appended d n) .getReconState
  | upsert {d : DeliveryStatus} {n : Nat} {ρ : ReconState} :
      ApplyPermits p (.holding d n ρ) (.upsertReconState (recorded ρ d n))
  | broadcast {drift : Bool} : ApplyPermits p .over (.broadcastDrift drift)

/-- The phase of an `apply` call with requests left to send. -/
def toSend : List Request → Phase
  | [] => .settled .delivered
  | q :: todo => .sending (q :: todo)

def applyNext (p : Provenance) : Phase → (o : Op) → Resp o → Phase
  | .asked, .getEndpoint, .ok (some _) => .asked
  | .asked, .fleetGet, live =>
    if isReachable live then toSend (requests p.setpoints) else .settled .deferred
  | .sending (_ :: todo), .relay _ _, .ok resp => if ok2xx resp.status then toSend todo else .over
  | .sending _, .relay _ _, .error _ => .settled .deferred
  | .settled d, .currentRevision, .ok _ => .settled d
  | .settled d, .appendRevision _, .ok n => .appended d n
  | .appended d n, .getReconState, .ok found => .holding d n (found.getD {})
  | _, _, _ => .over

/-- The protocol of an `apply` call. -/
def applyProtocol (p : Provenance) : Protocol Op Resp Phase where
  permits := ApplyPermits p
  answers _ _ _ := True
  next := applyNext p

section Apply

variable {p : Provenance}

theorem writeRecord_obeys (d : DeliveryStatus) (status : Nat) (body : Option Body) :
    (writeRecord p d status body).Obeys (applyProtocol p) (.settled d) fun ph _ => ph = .over := by
  simp only [writeRecord, obeys_bind, obeys_call]
  refine ⟨.append, ?_⟩
  rintro (err | n) _
  · exact rfl
  simp only [obeys_bind, obeys_call]
  refine ⟨.row, ?_⟩
  rintro (err | found) _
  · exact rfl
  simp only [obeys_bind, obeys_call]
  refine ⟨.upsert, ?_⟩
  rintro (err | ⟨⟩) _
  · exact rfl
  simp only [broadcastWhen, obeys_bind]
  split
  · exact ⟨.broadcast, fun _ _ => rfl⟩
  · exact rfl

theorem record_obeys (d : DeliveryStatus) (status : Nat) (body : Option Body) :
    (record p d status body).Obeys (applyProtocol p) (.settled d) fun ph _ => ph = .over := by
  simp only [record, previous, obeys_bind]
  split
  · refine ⟨.previous, ?_⟩
    rintro (err | found) _
    · exact rfl
    · exact writeRecord_obeys d status body
  · exact writeRecord_obeys d status body

/-- Where a delivery leaves an `apply`. -/
def afterDelivery : Except String Response → Phase
  | .ok resp => if ok2xx resp.status then .settled .delivered else .over
  | .error _ => .settled .deferred

/-- **An apply call keeps to its phases.** -/
theorem apply_obeys :
    (apply p).Obeys (applyProtocol p) .asked fun ph _ => ph = .over := by
  simp only [apply, obeys_bind, obeys_call]
  refine ⟨.endpoint, ?_⟩
  rintro (err | _ | e) _
  · exact rfl
  · exact rfl
  simp only [reachable, obeys_bind, obeys_call, obeys_pure]
  refine ⟨.fleet, fun live _ => ?_⟩
  cases hlive : isReachable live with
  | false =>
    have hdeferred : applyNext p .asked .fleetGet live = .settled .deferred := by
      simp [applyNext, hlive]
    simp only [applyProtocol, applyNext, Bool.false_eq_true, if_false] at hdeferred ⊢
    rw [hdeferred]
    exact record_obeys _ _ _
  | true =>
    have hsend : applyNext p .asked .fleetGet live = toSend (requests p.setpoints) := by
      simp [applyNext, hlive]
    simp only [applyProtocol, applyNext, if_true] at hsend ⊢
    rw [hsend, obeys_bind]
    have hsent : (deliver e p.setpoints).Obeys (applyProtocol p) (toSend (requests p.setpoints))
        fun ph out => ph = afterDelivery out := by
      refine deliver_obeys (J := fun todo ph => ph = toSend todo) ?_ ?_ rfl
      · rintro q todo ph rfl
        refine ⟨.send, ?_⟩
        rintro (err | resp) _
        · exact rfl
        · by_cases hok : ok2xx resp.status = true <;>
            simp [applyProtocol, toSend, applyNext, accepted, afterDelivery, hok]
      · rintro ph resp rfl hok
        simp [toSend, afterDelivery, hok]
    refine hsent.mono ?_
    · rintro ph (err | resp) rfl
      · exact record_obeys _ _ _
      · simp only [afterDelivery]
        split
        · exact record_obeys _ _ _
        · exact rfl

end Apply

end Greenhouse.Platform
