import Greenhouse.Platform.SetpointWrite

/-!
# Crop profiles and their assignment

The profile library and the handlers of the API on it: create, update and delete a profile, assign
a stage of one to a greenhouse, which applies the stage's targets. A request body is given decoded,
or with the reason why it does not decode.

* `ApiOp`: what the handlers call, on a greenhouse, on the library and on the assignments.
* `Catalog`: the greenhouses, the library and the assignments.
* `ApiRequest.handle`: the handlers of the profile, assignment and setpoint endpoints.
* `standardProfiles`: the library of a new deployment.
-/

namespace Greenhouse.Platform

open Greenhouse.Process Prog

/-! ## Validation -/

/-- A partial update of a profile; a list of stages replaces the stages. -/
structure CropProfilePatchDTO where
  name : Option String := none
  crop : Option String := none
  stages : Option (List ProfileStage) := none

def validateProfile (profile : CropProfile) : Option ValError :=
  firstError [
    errorIf (validSlug profile.id = false) ⟨"id", "lowercase kebab slug", .text profile.id⟩,
    errorIf (isBlank profile.name) ⟨"name", "non-empty", .text profile.name⟩,
    errorIf (isBlank profile.crop) ⟨"crop", "non-empty", .text profile.crop⟩,
    validateStages profile.stages]

def validateProfilePatch (patch : CropProfilePatchDTO) : Option ValError :=
  firstError [
    errorIf (patch.name = none ∧ patch.crop = none ∧ patch.stages = none)
      ⟨"(body)", "at least one of name/crop/stages", .nothing⟩,
    patch.name.bind fun name => errorIf (isBlank name) ⟨"name", "non-empty", .text name⟩,
    patch.crop.bind fun crop => errorIf (isBlank crop) ⟨"crop", "non-empty", .text crop⟩,
    patch.stages.bind validateStages]

/-- The shape of an assignment; the handler looks the profile and the stage up. -/
def validateAssignmentInput (input : Assignment) : Option ValError :=
  firstError [
    errorIf (validSlug input.profileId = false)
      ⟨"profile_id", "lowercase kebab slug", .text input.profileId⟩,
    errorIf (isBlank input.stage) ⟨"stage", "non-empty", .text input.stage⟩]

theorem validateStages_of_profile {profile : CropProfile} (h : validateProfile profile = none) :
    validateStages profile.stages = none := by
  simp only [validateProfile, firstError_eq_none, List.forall_mem_cons] at h
  exact h.2.2.2.1

theorem validateStages_of_patch {patch : CropProfilePatchDTO} {stages : List ProfileStage}
    (h : validateProfilePatch patch = none) (hstages : patch.stages = some stages) :
    validateStages stages = none := by
  simp only [validateProfilePatch, firstError_eq_none, List.forall_mem_cons, hstages] at h
  exact h.2.2.2.1

/-! ## Operations -/

/-- Why the store refuses a change of the library. -/
inductive StoreError where
  | alreadyExists
  | profileInUse
  | other (text : String)

inductive ApiOp where
  | house (greenhouse : String) (o : Op)
  | createProfile (profile : CropProfile)
  | getProfile (id : String)
  | updateProfile (profile : CropProfile)
  | deleteProfile (id : String)
  | setAssignment (greenhouse : String) (assignment : Assignment)

abbrev ApiResp : ApiOp → Type
  | .house _ o => Resp o
  | .createProfile _ => Except StoreError Unit
  | .getProfile _ => Except String (Option CropProfile)
  | .updateProfile _ => Except String Bool
  | .deleteProfile _ => Except StoreError Bool
  | .setAssignment _ _ => Except String Unit

abbrev ApiProgram (α : Type) := Prog ApiOp ApiResp α

/-- A program on one greenhouse. -/
def onHouse {α : Type} (greenhouse : String) (p : Program α) : ApiProgram α :=
  p.hoist (ApiOp.house greenhouse)

/-! ## The tables -/

/-- The tables that the greenhouses share, and the assignment of each greenhouse. -/
structure Catalog where
  greenhouses : String → Bool
  profiles : String → Option CropProfile
  assignments : String → Option Assignment

namespace Catalog

def putProfile (c : Catalog) (profile : CropProfile) : Catalog :=
  { c with profiles := Function.update c.profiles profile.id (some profile) }

def dropProfile (c : Catalog) (id : String) : Catalog :=
  { c with profiles := Function.update c.profiles id none }

def assign (c : Catalog) (greenhouse : String) (assignment : Assignment) : Catalog :=
  { c with assignments := Function.update c.assignments greenhouse (some assignment) }

theorem profiles_putProfile (c : Catalog) (profile : CropProfile) :
    (c.putProfile profile).profiles = Function.update c.profiles profile.id (some profile) := rfl

theorem profiles_dropProfile (c : Catalog) (id : String) :
    (c.dropProfile id).profiles = Function.update c.profiles id none := rfl

/-- The envelope of the stage assigned to a greenhouse, if it has one. -/
def envelope (c : Catalog) (greenhouse : String) : Option StageBounds :=
  (c.assignments greenhouse).bind fun assignment =>
    (c.profiles assignment.profileId).bind fun profile =>
      (profile.stage? assignment.stage).bind (·.bounds)

/-- The answer, if it is one and not an error, is what the tables hold. -/
def Truthful (c : Catalog) (greenhouse : String) : (o : Op) → Resp o → Prop
  | .greenhouseExists, .ok found => found = c.greenhouses greenhouse
  | .getAssignment, .ok assignment => assignment = c.assignments greenhouse
  | .getProfile id, .ok profile => profile = c.profiles id
  | _, _ => True

/-- Every profile of the library passed the checks of its stages. -/
def Valid (c : Catalog) : Prop :=
  ∀ id profile, c.profiles id = some profile → validateStages profile.stages = none

end Catalog

/-! ## Handlers -/

/-- Why a request body does not decode. -/
inductive DecodeFailure where
  | unreadable
  | unknownField (field : String)
  | malformed

abbrev Decoded (α : Type) := Except DecodeFailure α

inductive ApiBody where
  | reply (body : ReplyBody)
  | profile (profile : CropProfile)
  | assignment (assignment : Assignment)
  | empty

structure ApiReply where
  status : Nat
  body : ApiBody

/-- A reply of the setpoint handlers. -/
def ApiReply.of (reply : Reply) : ApiReply := ⟨reply.status, .reply reply.body⟩

/-- A violation with a text of its own. -/
def respondValidationMsg (e : ValError) (msg : String) : Reply := ⟨422, .validation msg e⟩

/-- The reply to a body that `decodeBody` rejects. -/
def respondUndecoded : DecodeFailure → Reply
  | .unknownField field => respondValidation ⟨field, "unknown field not permitted", .nothing⟩
  | .unreadable | .malformed => respondError 400 "invalid JSON body"

def createProfile (body : Decoded CropProfile) : ApiProgram ApiReply :=
  match body with
  | .error failure => return .of (respondUndecoded failure)
  | .ok profile =>
    match validateProfile profile with
    | some e => return .of (respondValidation e)
    | none => do
      match ← call (ApiOp.createProfile profile) with
      | .error .alreadyExists =>
        return .of (respondValidationMsg ⟨"id", "unique", .text profile.id⟩
          "profile already exists")
      | .error _ => return .of fail
      | .ok () => return ⟨201, .profile profile⟩

/-- The profile after a partial update. -/
def CropProfilePatchDTO.applyTo (patch : CropProfilePatchDTO) (profile : CropProfile) :
    CropProfile :=
  { profile with
    name := patch.name.getD profile.name
    crop := patch.crop.getD profile.crop
    stages := patch.stages.getD profile.stages }

def updateProfile (id : String) (body : Decoded CropProfilePatchDTO) : ApiProgram ApiReply :=
  match body with
  | .error failure => return .of (respondUndecoded failure)
  | .ok patch =>
    match validateProfilePatch patch with
    | some e => return .of (respondValidation e)
    | none => do
      match ← call (ApiOp.getProfile id) with
      | .error _ => return .of fail
      | .ok none => return .of (respondNotFound "profile not found")
      | .ok (some profile) =>
        match ← call (ApiOp.updateProfile (patch.applyTo profile)) with
        | .error _ => return .of fail
        | .ok _ => return ⟨200, .profile (patch.applyTo profile)⟩

def deleteProfile (id : String) : ApiProgram ApiReply := do
  match ← call (ApiOp.deleteProfile id) with
  | .error .profileInUse =>
    return .of (respondValidationMsg ⟨"id", "not in use", .text id⟩
      "profile is assigned to a greenhouse")
  | .error _ => return .of fail
  | .ok false => return .of (respondNotFound "profile not found")
  | .ok true => return ⟨204, .empty⟩

/-- The reply to the outcome of an assignment. -/
def replyToAssignment (assignment : Assignment) : Except Failure ApplyOutcome → ApiReply
  | .error .unknownGreenhouse => .of (respondNotFound "greenhouse not found")
  | .error (.other _) => .of fail
  | .ok outcome =>
    if outcome.controllerStatus ≠ 0 ∧ !outcome.delivered ∧ !outcome.deferred then
      ⟨outcome.controllerStatus, .reply (.controller outcome.controllerBody)⟩
    else ⟨200, .assignment assignment⟩

/-- Assign a stage and apply its targets. -/
def setAssignment (greenhouse : String) (body : Decoded Assignment) : ApiProgram ApiReply :=
  match body with
  | .error failure => return .of (respondUndecoded failure)
  | .ok input =>
    match validateAssignmentInput input with
    | some e => return .of (respondValidation e)
    | none => do
      match ← call (ApiOp.house greenhouse .greenhouseExists) with
      | .error _ => return .of fail
      | .ok false => return .of (respondNotFound "greenhouse not found")
      | .ok true =>
        match ← call (ApiOp.getProfile input.profileId) with
        | .error _ => return .of fail
        | .ok none => return .of (respondValidation
            ⟨"profile_id", "existing profile", .text input.profileId⟩)
        | .ok (some profile) =>
          match profile.stage? input.stage with
          | none => return .of (respondValidation
              ⟨"stage", "a stage of the profile", .text input.stage⟩)
          | some stage =>
            match ← call (ApiOp.setAssignment greenhouse input) with
            | .error _ => return .of fail
            | .ok () =>
              let outcome ← onHouse greenhouse (Reconciler.apply {
                source := .profile
                actor := "operator"
                reason := "profile " ++ input.profileId ++ " stage " ++ input.stage
                setpoints := stage.targets })
              return replyToAssignment input outcome

/-- The reply of the setpoint handlers to a body that does not decode. -/
def undecodedWrite (failure : DecodeFailure) : Program Reply := do
  match ← call Op.greenhouseExists with
  | .error _ => return fail
  | .ok false => return respondNotFound "greenhouse not found"
  | .ok true =>
    match failure with
    | .unreadable => return respondError 400 "could not read body"
    | .unknownField field =>
      return respondValidation ⟨field, "unknown field not permitted", .nothing⟩
    | .malformed => return respondError 400 "invalid JSON body"

/-- A setpoint handler, for a body that may not decode. -/
def setpointWrite (greenhouse : String) (body : Decoded SetpointsPatchDTO)
    (write : SetpointsPatchDTO → Program Reply) : ApiProgram ApiReply := do
  match body with
  | .error failure => return .of (← onHouse greenhouse (undecodedWrite failure))
  | .ok patch => return .of (← onHouse greenhouse (write patch))

/-- A request to the endpoints of the profiles, the assignments and the setpoints. The optimizer's
actor is who its token names, or `optimizer`. -/
inductive ApiRequest where
  | createProfile (body : Decoded CropProfile)
  | updateProfile (id : String) (body : Decoded CropProfilePatchDTO)
  | deleteProfile (id : String)
  | setAssignment (greenhouse : String) (body : Decoded Assignment)
  | editSetpoints (greenhouse : String) (body : Decoded SetpointsPatchDTO)
  | submitSetpoints (greenhouse actor : String) (optimizerRunId : Option String)
      (body : Decoded SetpointsPatchDTO)

def ApiRequest.handle : ApiRequest → ApiProgram ApiReply
  | createProfile body => Platform.createProfile body
  | updateProfile id body => Platform.updateProfile id body
  | deleteProfile id => Platform.deleteProfile id
  | setAssignment greenhouse body => Platform.setAssignment greenhouse body
  | editSetpoints greenhouse body =>
    setpointWrite greenhouse body Platform.editSetpoints
  | submitSetpoints greenhouse actor optimizerRunId body =>
    setpointWrite greenhouse body (Platform.submitSetpoints actor optimizerRunId)

/-! ## The library of a new deployment -/

/-- A target plus or minus a margin. -/
def around (target margin : ℚ) : Bound := ⟨target - margin, target + margin⟩

/-- A stage of the starter library; its envelope is its targets plus or minus a margin each. -/
def standardStage (stage : String) (day night low high : ℚ) (co2 : Int) (vpd dli : ℚ)
    (zone : ZoneTargets) : ProfileStage where
  stage
  targets := {
    temperatureDayC := day
    temperatureNightC := night
    dayStart := "06:00"
    dayEnd := "20:00"
    humidityLowPct := low
    humidityHighPct := high
    humidityDeadbandPct := 5
    co2TargetPpm := co2
    co2VentInterlockThresholdPct := 15
    vpdTargetKpa := vpd
    dliTargetMol := dli
    zones := [zone] }
  bounds := some {
    temperatureDayC := some (around day 3)
    temperatureNightC := some (around night 3)
    humidityLowPct := some (around low 5)
    humidityHighPct := some (around high 5)
    humidityDeadbandPct := some (around 5 2)
    co2TargetPpm := some (around co2 150)
    co2VentInterlockThresholdPct := some (around 15 5)
    vpdTargetKpa := some (around vpd (1 / 5))
    dliTargetMol := some (around dli 3)
    zones := some {
      moistureLowThreshold := some (around zone.moistureLowThreshold (1 / 10))
      moistureHighThreshold := some (around zone.moistureHighThreshold (1 / 10))
      drainPeriodSecs := some (around zone.drainPeriodSecs 120) } }

def seedlingTray : ZoneTargets := ⟨"seedling-tray", 1 / 2, 7 / 10, 600, "07:00,11:00,15:00"⟩

def benchA (low high : ℚ) (drain : Int) : ZoneTargets :=
  ⟨"bench-a", low, high, drain, "06:00,10:00,14:00,18:00"⟩

def standardProfiles : List CropProfile := [
  ⟨"tomato-standard", "Tomato — standard", "tomato", [
    standardStage "propagation" 24 20 65 75 700 (4 / 5) 12 seedlingTray,
    standardStage "vegetative" 24 18 60 75 900 (9 / 10) 18 (benchA (2 / 5) (3 / 5) 300),
    standardStage "flowering-fruit-set" 23 18 55 70 1000 1 20 (benchA (2 / 5) (3 / 5) 360),
    standardStage "fruit-development-ripening" 22 17 55 65 1000 (11 / 10) 22
      (benchA (7 / 20) (11 / 20) 360)]⟩,
  ⟨"cucumber-standard", "Cucumber — standard", "cucumber", [
    standardStage "propagation" 26 22 70 80 700 (7 / 10) 12 seedlingTray,
    standardStage "vegetative-vine-development" 25 20 65 75 900 (9 / 10) 18
      (benchA (9 / 20) (13 / 20) 300),
    standardStage "flowering-fruit-set" 25 20 60 70 1000 1 22 (benchA (9 / 20) (13 / 20) 360),
    standardStage "production-harvest" 24 19 60 70 1000 (11 / 10) 24
      (benchA (9 / 20) (13 / 20) 360)]⟩,
  ⟨"lettuce-standard", "Lettuce — standard", "lettuce", [
    standardStage "propagation" 21 18 70 80 650 (3 / 5) 10 seedlingTray,
    standardStage "vegetative" 20 17 60 70 800 (4 / 5) 14 (benchA (2 / 5) (3 / 5) 300),
    standardStage "finishing-harvest" 18 16 55 65 800 (9 / 10) 15
      (benchA (2 / 5) (3 / 5) 360)]⟩]

/-- Every profile of the starter library passes the check of a created one. -/
theorem validateProfile_standard :
    ∀ profile ∈ standardProfiles, validateProfile profile = none := by
  decide +kernel

end Greenhouse.Platform
