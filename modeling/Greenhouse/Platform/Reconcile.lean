import Greenhouse.Platform.Store
import Greenhouse.Process.Family

/-!
# The reconciler

The control-down engine of the platform as programs on one greenhouse: `deliver` and
`reported` talk to the controller, `apply` records and delivers a new intended state,
`reconcileGreenhouse` is the pass of the background loop over a greenhouse, `reconcileOnce`
the pass over the fleet.
-/

namespace Greenhouse.Platform

open Greenhouse.Process Prog

/-- Why a reconciler call fails. -/
inductive Failure where
  | unknownGreenhouse
  | other (text : String)
  deriving DecidableEq

/-- How an intended-state change was delivered. -/
structure ApplyOutcome where
  revision : Nat := 0
  setpoints : Option Setpoints := none
  delivered : Bool := false
  deferred : Bool := false
  controllerStatus : Nat := 0
  controllerBody : Option Body := none
  deriving DecidableEq

namespace Reconciler

/-! ## The controller -/

def ok2xx (status : Nat) : Bool := 200 ≤ status && status < 300

/-- The requests of a delivery: the global setpoints, then zone by zone. -/
def requests (setpoints : Setpoints) : List Request :=
  .patchSetpoints setpoints.toGlobalSetpoints :: setpoints.zones.map .patchZone

/-- The rest of a delivery whose global setpoints were accepted with `resp`. -/
def deliverZones (endpoint : Endpoint) (resp : Response) :
    List ZoneTargets → Program (Except String Response)
  | [] => return .ok resp
  | zone :: zones => do
    match ← call (Op.relay endpoint (.patchZone zone)) with
    | .error e => return .error e
    | .ok zoneResp =>
      if ok2xx zoneResp.status then deliverZones endpoint resp zones
      else return .ok zoneResp

/-- Push a bundle to the controller. The first response that is not 2xx is returned. -/
def deliver (endpoint : Endpoint) (setpoints : Setpoints) :
    Program (Except String Response) := do
  match ← call (Op.relay endpoint (.patchSetpoints setpoints.toGlobalSetpoints)) with
  | .error e => return .error e
  | .ok resp =>
    if ok2xx resp.status then deliverZones endpoint resp setpoints.zones
    else return .ok resp

/-- The bundle a controller reports. -/
def parseReported : Body → Body → Except String Setpoints
  | .setpoints setpoints, .zones zones => .ok { setpoints with zones }
  | .setpoints _, .setpoints _ => .error ("decode controller zones: " ++
      "json: cannot unmarshal object into Go value of type []domain.ZoneTargets")
  | .setpoints _, .text raw => .error s!"decode controller zones: {raw}"
  | .zones _, _ => .error ("decode controller setpoints: " ++
      "json: cannot unmarshal array into Go value of type domain.Setpoints")
  | .text raw, _ => .error s!"decode controller setpoints: {raw}"

/-- Read the controller's setpoints and zones. -/
def reported (endpoint : Endpoint) : Program (Except String Setpoints) := do
  match ← call (Op.relay endpoint .getSetpoints) with
  | .error e => return .error e
  | .ok setpointsResp =>
    if ok2xx setpointsResp.status then
      match ← call (Op.relay endpoint .getZones) with
      | .error e => return .error e
      | .ok zonesResp =>
        if ok2xx zonesResp.status then return parseReported setpointsResp.body zonesResp.body
        else return .error s!"controller zones status {zonesResp.status}"
    else return .error s!"controller setpoints status {setpointsResp.status}"

/-- A greenhouse of which nothing is known is not reachable. -/
def isReachable : Option Connectivity → Bool
  | none => false
  | some live => live ≠ .offline

def reachable : Program Bool := do
  return isReachable (← call Op.fleetGet)

/-! ## Applying a new intended state -/

/-- The row `record` writes for a revision delivered or held. -/
def recorded (recon : ReconState) (delivery : DeliveryStatus) (revision : Nat) : ReconState :=
  if delivery = .delivered then
    { recon with deliveryStatus := delivery, failCount := 0, drift := false,
                 lastDeliveredRevision := some revision }
  else { recon with deliveryStatus := delivery, failCount := 0 }

/-- Tell the clients about the drift flag. -/
def broadcastWhen (cond : Bool) (drift : Bool) : Program Unit :=
  if cond then call (Op.broadcastDrift drift) else return ()

/-- The incumbent bundle, which the activity event of an optimizer write is about. -/
def previous (source : SetpointSource) : Program (Except String (Option SetpointRevision)) :=
  if source = .optimizer then call Op.currentRevision else return .ok none

/-- The part of `record` that writes. -/
def writeRecord (intended : Provenance) (delivery : DeliveryStatus) (status : Nat)
    (body : Option Body) : Program (Except Failure ApplyOutcome) := do
  match ← call (Op.appendRevision intended) with
  | .error e => return .error (.other e)
  | .ok revision =>
    match ← call Op.getReconState with
    | .error e => return .error (.other e)
    | .ok found =>
      let recon := found.getD {}
      match ← call (Op.upsertReconState (recorded recon delivery revision)) with
      | .error e => return .error (.other e)
      | .ok () =>
        broadcastWhen (recon.drift && delivery = .delivered) false
        return .ok {
          revision := revision
          setpoints := some intended.setpoints
          delivered := delivery = .delivered
          deferred := delivery = .deferred
          controllerStatus := status
          controllerBody := body }

/-- Append the revision and update the row. -/
def record (intended : Provenance) (delivery : DeliveryStatus) (status : Nat)
    (body : Option Body) : Program (Except Failure ApplyOutcome) := do
  match ← previous intended.source with
  | .error e => return .error (.other e)
  | .ok _ => writeRecord intended delivery status body

/-- Deliver a new intended state and record it. A refused one is not recorded; one that does
not reach the controller is recorded and held. -/
def apply (intended : Provenance) : Program (Except Failure ApplyOutcome) := do
  match ← call Op.getEndpoint with
  | .error e => return .error (.other e)
  | .ok none => return .error .unknownGreenhouse
  | .ok (some endpoint) =>
    if ← reachable then
      match ← deliver endpoint intended.setpoints with
      | .error _ => record intended .deferred 0 none
      | .ok resp =>
        if ok2xx resp.status then record intended .delivered resp.status (some resp.body)
        else return .ok { controllerStatus := resp.status, controllerBody := some resp.body }
    else record intended .deferred 0 none

/-- The bundle a partial edit is merged onto: the current intended state, or what the
controller reports if there is none. -/
def baseline : Program (Except Failure Setpoints) := do
  match ← call Op.currentRevision with
  | .error e => return .error (.other e)
  | .ok (some current) => return .ok current.setpoints
  | .ok none =>
    match ← call Op.getEndpoint with
    | .error e => return .error (.other e)
    | .ok none => return .error .unknownGreenhouse
    | .ok (some endpoint) =>
      match ← reported endpoint with
      | .error e => return .error (.other e)
      | .ok setpoints => return .ok setpoints

/-! ## The reconciliation pass -/

/-- Write the row. -/
def upsert (recon : ReconState) : Program (Except String Unit) := call (Op.upsertReconState recon)

/-- The result of a delivery is an accepted one. -/
def accepted : Except String Response → Bool
  | .ok resp => ok2xx resp.status
  | .error _ => false

/-- The row after a re-assert of a revision. -/
def reasserted (recon : ReconState) (revision : Nat) (ok : Bool) : ReconState :=
  if ok then { recon with lastDeliveredRevision := some revision, deliveryStatus := .delivered,
                          failCount := 0 }
  else { recon with failCount := recon.failCount + 1, deliveryStatus := .rejected }

/-- Deliver the current revision again; after `maxRetries` failures in a row do nothing. -/
def reassert (maxRetries : Nat) (endpoint : Endpoint) (current : SetpointRevision)
    (recon : ReconState) : Program (Except String Unit) := do
  if recon.failCount ≥ maxRetries then return .ok ()
  else
    let result ← deliver endpoint current.setpoints
    upsert (reasserted recon current.revision (accepted result))

/-- Write the row of a drifted greenhouse, and tell the clients when it is newly so. -/
def recordDrift (newlyDrifted : Bool) (recon : ReconState) : Program (Except String Unit) := do
  match ← upsert recon with
  | .error e => return .error e
  | .ok () =>
    broadcastWhen newlyDrifted true
    return .ok ()

/-- Flag the drift and, with retries left, correct it. Every attempt is counted. -/
def handleDrift (maxRetries : Nat) (endpoint : Endpoint) (current : SetpointRevision)
    (recon : ReconState) : Program (Except String Unit) := do
  if recon.failCount < maxRetries then
    let _ ← deliver endpoint current.setpoints
    recordDrift (!recon.drift) { recon with drift := true, failCount := recon.failCount + 1 }
  else recordDrift (!recon.drift) { recon with drift := true }

/-- The row of a greenhouse that matches its intended state. -/
def synced (recon : ReconState) : ReconState :=
  { recon with deliveryStatus := .delivered, failCount := 0, drift := false }

/-- Clear the bookkeeping of a greenhouse that matches its intended state again. -/
def markSynced (recon : ReconState) : Program (Except String Unit) := do
  if synced recon = recon then return .ok ()
  else
    match ← upsert (synced recon) with
    | .error e => return .error e
    | .ok () =>
      broadcastWhen recon.drift false
      return .ok ()

/-- Hold the intended state of an offline greenhouse, marking it deferred once. -/
def defer (recon : ReconState) : Program (Except String Unit) :=
  if recon.deliveryStatus ≠ .deferred then upsert { recon with deliveryStatus := .deferred }
  else return .ok ()

/-- Compare what the controller reports with the intended state. -/
def checkDrift (maxRetries : Nat) (endpoint : Endpoint) (current : SetpointRevision)
    (recon : ReconState) : Program (Except String Unit) := do
  match ← reported endpoint with
  | .error _ => return .ok ()
  | .ok shown =>
    if current.setpoints.reconciled shown then markSynced recon
    else handleDrift maxRetries endpoint current recon

/-- One pass over a greenhouse. -/
def reconcileGreenhouse (maxRetries : Nat) : Program (Except String Unit) := do
  match ← call Op.currentRevision with
  | .error e => return .error e
  | .ok none => return .ok ()
  | .ok (some current) =>
    match ← call Op.getReconState with
    | .error e => return .error e
    | .ok found =>
      let recon := found.getD {}
      match ← call Op.getEndpoint with
      | .error e => return .error e
      | .ok none => return .ok ()
      | .ok (some endpoint) =>
        if ← reachable then
          if recon.lastDeliveredRevision = some current.revision then
            checkDrift maxRetries endpoint current recon
          else reassert maxRetries endpoint current recon
        else defer recon

/-- One pass over the fleet, greenhouse by greenhouse. -/
def reconcileOnce (maxRetries : Nat) : Prog (FamilyOp String Op) (FamilyResp String Resp) Unit := do
  match ← keys with
  | .error _ => return ()
  | .ok greenhouses => visit (reconcileGreenhouse maxRetries) greenhouses

/-- The passes of the background loop over a greenhouse, one after another. -/
def passes (maxRetries : Nat) : Nat → Program Unit
  | 0 => return ()
  | n + 1 => do
    let _ ← reconcileGreenhouse maxRetries
    passes maxRetries n

end Reconciler

end Greenhouse.Platform
