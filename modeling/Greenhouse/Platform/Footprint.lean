import Greenhouse.Platform.SetpointWrite

/-!
# What the write path touches

The programs of the reconciler and of the setpoint handler up to the revision they record: they
read the tables, except the reconciliation row, and talk to the controller, so they obey every
protocol that leaves these operations alone.

* `uses_deliver`, `uses_reported`, `uses_baseline`: programs that only ask.
* `obeys_apply`: an `apply` obeys a protocol when what it records does.
* `obeys_applySetpointWrite`: a handler obeys a protocol when its `apply` does.
-/

namespace Greenhouse.Platform

open Greenhouse.Process Prog Reconciler

/-- The operations that change no table. -/
def Op.Reads : Op → Prop
  | .appendRevision _ => False
  | .upsertReconState _ => False
  | .broadcastDrift _ => False
  | _ => True

/-- The operations that change no table and leave the reconciliation row alone. -/
def Op.Asks : Op → Prop
  | .getReconState => False
  | o => o.Reads

theorem Op.Asks.reads {o : Op} (h : o.Asks) : o.Reads := by
  cases o with
  | getReconState => exact h.elim
  | _ => exact h

section Uses

variable {e : Endpoint}

theorem uses_deliverZones {resp : Response} {zones : List ZoneTargets} :
    (deliverZones e resp zones).Uses Op.Asks := by
  induction zones with
  | nil => exact uses_pure
  | cons zone zones ih =>
    refine (uses_call.2 trivial).bind fun r => ?_
    cases r with
    | error text => exact uses_pure
    | ok zoneResp =>
      dsimp only
      split
      · exact ih
      · exact uses_pure

theorem uses_deliver {s : Setpoints} : (deliver e s).Uses Op.Asks := by
  refine (uses_call.2 trivial).bind fun r => ?_
  cases r with
  | error text => exact uses_pure
  | ok resp =>
    dsimp only
    split
    · exact uses_deliverZones
    · exact uses_pure

theorem uses_reported : (reported e).Uses Op.Asks := by
  refine (uses_call.2 trivial).bind fun r => ?_
  cases r with
  | error text => exact uses_pure
  | ok resp =>
    dsimp only
    split
    · refine (uses_call.2 trivial).bind fun r => ?_
      cases r with
      | error text => exact uses_pure
      | ok zonesResp =>
        dsimp only
        split <;> exact uses_pure
    · exact uses_pure

theorem uses_baseline : Reconciler.baseline.Uses Op.Asks := by
  refine (uses_call.2 trivial).bind fun found => ?_
  cases found with
  | error text => exact uses_pure
  | ok current =>
    cases current with
    | some current => exact uses_pure
    | none =>
      refine (uses_call.2 trivial).bind fun endpoint => ?_
      cases endpoint with
      | error text => exact uses_pure
      | ok endpoint =>
        cases endpoint with
        | none => exact uses_pure
        | some endpoint =>
          refine uses_reported.bind fun r => ?_
          cases r <;> exact uses_pure

theorem uses_gateBounds {source : SetpointSource} : (gateBounds source).Uses Op.Asks := by
  unfold gateBounds
  split
  · refine (uses_call.2 trivial).bind fun assignment => ?_
    cases assignment with
    | error text => exact uses_pure
    | ok assignment =>
      cases assignment with
      | none => exact uses_pure
      | some assignment =>
        refine (uses_call.2 trivial).bind fun profile => ?_
        cases profile with
        | error text => exact uses_pure
        | ok profile => cases profile <;> exact uses_pure
  · exact uses_pure

end Uses

section Obeys

variable {Q : Type} {P : Protocol Op Resp Q} {q : Q}

/-- The operations of `record` that come before the revision. -/
theorem obeys_record {p : Provenance} {delivery : DeliveryStatus} {status : Nat}
    {body : Option Body} {post : Q → Except Failure ApplyOutcome → Prop}
    (hasks : P.Idle Op.Asks q) (herror : ∀ text, post q (.error (.other text)))
    (hwrite : (writeRecord p delivery status body).Obeys P q post) :
    (record p delivery status body).Obeys P q post := by
  have hprevious : (previous p.source).Uses Op.Asks := by
    unfold previous
    split
    · exact uses_call.2 trivial
    · exact uses_pure
  simp only [record, obeys_bind]
  refine Obeys.of_uses hasks hprevious fun found => ?_
  cases found with
  | error text => exact herror text
  | ok current => exact hwrite

/-- **An `apply` obeys a protocol when what it records does**, and what it returns without a
revision is as it should be: an error, or a status that is not 2xx. -/
theorem obeys_apply {p : Provenance} {post : Q → Except Failure ApplyOutcome → Prop}
    (hasks : P.Idle Op.Asks q) (herror : ∀ failure, post q (.error failure))
    (hrefused : ∀ resp : Response, ok2xx resp.status = false →
      post q (.ok { controllerStatus := resp.status, controllerBody := some resp.body }))
    (hwrite : ∀ delivery status body, delivery = .delivered ∨ delivery = .deferred →
      (writeRecord p delivery status body).Obeys P q post) :
    (Reconciler.apply p).Obeys P q post := by
  have hrecord : ∀ delivery status body, delivery = .delivered ∨ delivery = .deferred →
      (record p delivery status body).Obeys P q post := fun delivery status body hdelivery =>
    obeys_record hasks (fun text => herror (.other text)) (hwrite delivery status body hdelivery)
  simp only [Reconciler.apply, obeys_bind]
  refine Obeys.of_uses hasks (uses_call.2 trivial) fun endpoint => ?_
  cases endpoint with
  | error text => exact herror _
  | ok endpoint =>
    cases endpoint with
    | none => exact herror _
    | some endpoint =>
      simp only [obeys_bind]
      refine Obeys.of_uses hasks ((uses_call.2 trivial).bind fun _ => uses_pure) fun live => ?_
      split
      · simp only [obeys_bind]
        refine Obeys.of_uses hasks uses_deliver fun r => ?_
        cases r with
        | error text => exact hrecord _ _ _ (.inr rfl)
        | ok resp =>
          dsimp only
          split
          · exact hrecord _ _ _ (.inl rfl)
          · rename_i hrefuse
            exact hrefused resp (Bool.eq_false_iff.2 hrefuse)
      · exact hrecord _ _ _ (.inr rfl)

/-- **A handler obeys a protocol when its `apply` does**, of a candidate that passed the checks
and lies within the envelope that the gate returned. -/
theorem obeys_applySetpointWrite {source : SetpointSource} {actor description : String}
    {successStatus : Nat} {runId : Option String} {patch : SetpointsPatchDTO}
    {post : Q → Reply → Prop} (gate : Option StageBounds → Prop)
    (hasks : P.Idle Op.Asks q) (hreply : ∀ reply, post q reply)
    (hgate : (gateBounds source).Obeys P q fun q' bounds => q' = q ∧ ∀ b, bounds = .ok b → gate b)
    (happly : ∀ candidate bounds, validateSetpoints candidate = none → gate bounds →
      bounds.bind (validateSetpointsWithinBounds candidate) = none →
      (Reconciler.apply ⟨source, actor, description, candidate, runId⟩).Obeys P q
        fun q' outcome => post q' (replyTo successStatus outcome)) :
    (applySetpointWrite source actor description successStatus runId patch).Obeys P q post := by
  simp only [applySetpointWrite, obeys_bind]
  refine Obeys.of_uses hasks (uses_call.2 trivial) fun found => ?_
  cases found with
  | error text => exact hreply _
  | ok found =>
    cases found with
    | false => exact hreply _
    | true =>
      dsimp only
      split
      · exact hreply _
      · split
        · exact hreply _
        · simp only [obeys_bind]
          refine Obeys.of_uses hasks uses_baseline fun base => ?_
          cases base with
          | error failure => cases failure <;> exact hreply _
          | ok base =>
            dsimp only
            split
            · exact hreply _
            · split
              · exact hreply _
              · rename_i candidate _ _ hvalid
                simp only [obeys_bind]
                refine hgate.mono ?_
                rintro q' bounds ⟨rfl, hbounds⟩
                cases bounds with
                | error text => exact hreply _
                | ok bounds =>
                  dsimp only
                  split
                  · exact hreply _
                  · rename_i hwithin
                    simp only [obeys_bind]
                    exact happly candidate bounds hvalid (hbounds _ rfl) hwithin

end Obeys

end Greenhouse.Platform
