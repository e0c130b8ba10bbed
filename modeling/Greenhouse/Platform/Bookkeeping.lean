import Greenhouse.Platform.Footprint
import Greenhouse.Platform.Profiles
import Greenhouse.Process.Run

/-!
# The soundness of the ledger

A revision is recorded by an assignment, an operator's edit or the optimizer's, each through
checks of its own. Over any requests, handled one after another, every revision passes
`validateSetpoints`, and one of the optimizer lies within the envelope of the stage that was
assigned when it was recorded.

* `serving`: the tables answer truthfully, any operation may fail, a controller is a device.
* `bookkeeping`: what a handler may write, as a protocol.
* `obeys_handle`: every handler obeys it, and a refused request appends nothing.
* `Estate.ledger_sound`: **the ledger of every run is sound.**
-/

namespace Greenhouse.Platform

open Greenhouse.Process Prog Reconciler

/-! ## The environment -/

/-- The tables of the platform and the greenhouses, with their controllers. -/
structure Estate (C : Type) where
  catalog : Catalog
  house : String → World C

/-- The operation stores, if it stores a profile, one that passed the checks. -/
def ApiOp.Checked : ApiOp → Prop
  | .createProfile profile | .updateProfile profile => validateStages profile.stages = none
  | _ => True

namespace Catalog

/-- The answer, if it is not an unexplained error, is what the tables give: keys are unique, an
assigned profile is not deleted, an assignment names a greenhouse and a profile. -/
def Answers (c : Catalog) : (o : ApiOp) → ApiResp o → Prop
  | .house greenhouse o, r => c.Truthful greenhouse o r
  | .createProfile profile, .ok () => c.profiles profile.id = none
  | .createProfile profile, .error .alreadyExists => c.profiles profile.id ≠ none
  | .getProfile id, .ok profile => profile = c.profiles id
  | .updateProfile profile, .ok found => found = (c.profiles profile.id).isSome
  | .deleteProfile id, .ok found => found = (c.profiles id).isSome ∧
      ∀ greenhouse assignment, c.assignments greenhouse = some assignment →
        assignment.profileId ≠ id
  | .deleteProfile id, .error .profileInUse =>
      ∃ greenhouse assignment, c.assignments greenhouse = some assignment ∧
        assignment.profileId = id
  | .setAssignment greenhouse assignment, .ok () =>
      c.greenhouses greenhouse = true ∧ c.profiles assignment.profileId ≠ none
  | _, _ => True

/-- The tables after an operation; a failed write leaves them. -/
def next (c : Catalog) : (o : ApiOp) → ApiResp o → Catalog
  | .createProfile profile, .ok () => c.putProfile profile
  | .updateProfile profile, .ok true => c.putProfile profile
  | .deleteProfile id, .ok true => c.dropProfile id
  | .setAssignment greenhouse assignment, .ok () => c.assign greenhouse assignment
  | _, _ => c

theorem valid_putProfile {c : Catalog} (h : c.Valid) {profile : CropProfile}
    (hprofile : validateStages profile.stages = none) : (c.putProfile profile).Valid := by
  intro id found hfound
  by_cases hid : id = profile.id
  · subst hid
    rw [profiles_putProfile, Function.update_self] at hfound
    rw [← Option.some.inj hfound]
    exact hprofile
  · rw [profiles_putProfile, Function.update_of_ne hid] at hfound
    exact h id found hfound

theorem valid_dropProfile {c : Catalog} (h : c.Valid) (dropped : String) :
    (c.dropProfile dropped).Valid := by
  intro id found hfound
  by_cases hid : id = dropped
  · subst hid
    rw [profiles_dropProfile, Function.update_self] at hfound
    cases hfound
  · rw [profiles_dropProfile, Function.update_of_ne hid] at hfound
    exact h id found hfound

theorem Valid.next {c : Catalog} (h : c.Valid) {o : ApiOp} (r : ApiResp o) (ho : o.Checked) :
    (c.next o r).Valid := by
  cases o with
  | house greenhouse o => exact h
  | createProfile profile =>
    cases r with
    | error e => exact h
    | ok r => exact valid_putProfile h ho
  | getProfile id => exact h
  | updateProfile profile =>
    cases r with
    | error e => exact h
    | ok found =>
      cases found with
      | false => exact h
      | true => exact valid_putProfile h ho
  | deleteProfile id =>
    cases r with
    | error e => exact h
    | ok found =>
      cases found with
      | false => exact h
      | true => exact valid_dropProfile h id
  | setAssignment greenhouse assignment => cases r <;> exact h

/-- The answer of a working store to a query of these tables; other answers are as given. -/
def answer (c : Catalog) (greenhouse : String) : (o : Op) → Resp o → Resp o
  | .greenhouseExists, _ => .ok (c.greenhouses greenhouse)
  | .getAssignment, _ => .ok (c.assignments greenhouse)
  | .getProfile id, _ => .ok (c.profiles id)
  | _, r => r

theorem truthful_answer (c : Catalog) (greenhouse : String) (o : Op) (r : Resp o) :
    c.Truthful greenhouse o (c.answer greenhouse o r) := by
  cases o with
  | greenhouseExists => exact rfl
  | getAssignment => exact rfl
  | getProfile id => exact rfl
  | _ => trivial

/-- The envelope of the assigned stage, if it has one, holds the bundle. -/
def Admits (c : Catalog) (greenhouse : String) (setpoints : Setpoints) : Prop :=
  ∀ bounds, c.envelope greenhouse = some bounds →
    validateSetpointsWithinBounds setpoints bounds = none

end Catalog

/-- The greenhouses after an operation: one that is on a greenhouse leaves the others. -/
def Device.Houses {C : Type} (D : Device C) (house : String → World C) :
    (o : ApiOp) → ApiResp o → (String → World C) → Prop
  | .house greenhouse o, r, house' =>
      hosting anyhow D (house greenhouse) o r (house' greenhouse) ∧
        ∀ other, other ≠ greenhouse → house' other = house other
  | _, _, house' => house' = house

/-- The platform's store and its controllers. -/
def serving {C : Type} (D : Device C) : Env ApiOp ApiResp (Estate C) := fun s o r s' =>
  s.catalog.Answers o r ∧ s'.catalog = s.catalog.next o r ∧ D.Houses s.house o r s'.house

/-! ## What a handler may write -/

/-- The tables as a handler has left them, and whether it has appended a revision. -/
structure Books where
  catalog : Catalog
  appended : Bool := false

/-- The operation appends a revision. -/
def appends : (o : ApiOp) → ApiResp o → Bool
  | .house _ (.appendRevision _), .ok _ => true
  | _, _ => false

/-- A revision that may be recorded where the tables were `c₀` when the request came in. -/
def Entitled (c₀ c : Catalog) (greenhouse : String) (p : Provenance) : Prop :=
  validateSetpoints p.setpoints = none ∧
    (p.source = .optimizer → c = c₀ ∧ c₀.Admits greenhouse p.setpoints)

/-- A handler stores profiles that passed the checks, records revisions that may be recorded, and
leaves the tables alone once it has recorded one. -/
def bookkeeping (c₀ : Catalog) : Protocol ApiOp ApiResp Books where
  permits q
    | .house greenhouse (.appendRevision p) => Entitled c₀ q.catalog greenhouse p
    | .house _ _ | .getProfile _ => True
    | .createProfile profile | .updateProfile profile =>
      q.appended = false ∧ validateStages profile.stages = none
    | .deleteProfile _ | .setAssignment _ _ => q.appended = false
  answers q o r := q.catalog.Answers o r ∧ q.catalog.Valid
  next q o r := ⟨q.catalog.next o r, q.appended || appends o r⟩

/-- The protocol of a program on one greenhouse. -/
def houseBooks (c₀ : Catalog) (greenhouse : String) : Protocol Op Resp Books :=
  (bookkeeping c₀).along (ApiOp.house greenhouse)

theorem obeys_onHouse {c₀ : Catalog} {greenhouse : String} {α : Type} {p : Program α} {q : Books}
    {post : Books → α → Prop} :
    (onHouse greenhouse p).Obeys (bookkeeping c₀) q post ↔
      p.Obeys (houseBooks c₀ greenhouse) q post :=
  obeys_hoist

/-- A client error: the status is a 4xx. -/
def Refusal (status : Nat) : Prop := 400 ≤ status ∧ status < 500

section Handlers

variable {c₀ : Catalog} {greenhouse : String} {q : Books}

theorem idle_houseBooks (q : Books) : (houseBooks c₀ greenhouse).Idle Op.Reads q := by
  intro o ho
  cases o with
  | appendRevision p => exact ho.elim
  | upsertReconState recon => exact ho.elim
  | broadcastDrift drift => exact ho.elim
  | _ => exact ⟨trivial, fun _ _ => congrArg (Books.mk q.catalog) (Bool.or_false _)⟩

theorem idle_houseBooks_asks (q : Books) : (houseBooks c₀ greenhouse).Idle Op.Asks q :=
  (idle_houseBooks q).mono fun _ h => h.reads

/-- Once a revision has been appended the status is not a client error. -/
def Kept (status : ℕ) (q : Books) : Prop := Refusal status → q.appended = false

theorem kept_of_unappended {status : ℕ} (h : q.appended = false) : Kept status q := fun _ => h

theorem kept_fail : Kept 500 q := by
  rintro ⟨-, hlt⟩
  omega

theorem obeys_writeRecord_books {p : Provenance} {delivery : DeliveryStatus} {status : ℕ}
    {body : Option Body} {success : ℕ} (hp : Entitled c₀ q.catalog greenhouse p)
    (hsuccess : ¬ Refusal success) (hdelivery : delivery = .delivered ∨ delivery = .deferred) :
    (writeRecord p delivery status body).Obeys (houseBooks c₀ greenhouse) q
      fun q' outcome => Kept (replyTo success outcome).status q' := by
  simp only [writeRecord, obeys_bind, obeys_call]
  refine ⟨hp, fun revision _ => ?_⟩
  cases revision with
  | error text => exact kept_fail
  | ok revision =>
    simp only [obeys_bind, obeys_call]
    refine ⟨trivial, fun found _ => ?_⟩
    cases found with
    | error text => exact kept_fail
    | ok found =>
      simp only [obeys_bind, obeys_call]
      refine ⟨trivial, fun written _ => ?_⟩
      cases written with
      | error text => exact kept_fail
      | ok written =>
        have hreply : ∀ q' : Books, Kept (replyTo success (.ok {
            revision := revision
            setpoints := some p.setpoints
            delivered := delivery = .delivered
            deferred := delivery = .deferred
            controllerStatus := status
            controllerBody := body })).status q' := by
          intro q' hrefusal
          rcases hdelivery with rfl | rfl <;>
            exact absurd (by simpa [replyTo] using hrefusal) hsuccess
        simp only [broadcastWhen, obeys_bind]
        split
        · exact ⟨trivial, fun _ _ => hreply _⟩
        · exact hreply _

/-- **An `apply` of a bundle that may be recorded obeys the protocol.** -/
theorem obeys_apply_books {p : Provenance} {success : ℕ} (happended : q.appended = false)
    (hp : Entitled c₀ q.catalog greenhouse p) (hsuccess : ¬ Refusal success) :
    (Reconciler.apply p).Obeys (houseBooks c₀ greenhouse) q
      fun q' outcome => Kept (replyTo success outcome).status q' := by
  apply obeys_apply (idle_houseBooks_asks q)
  · exact fun _ => kept_of_unappended happended
  · exact fun _ _ => kept_of_unappended happended
  · exact fun _ _ _ => obeys_writeRecord_books hp hsuccess

/-- The gate of an optimizer's write is the envelope of the assigned stage. -/
theorem obeys_gateBounds_books {source : SetpointSource} :
    (gateBounds source).Obeys (houseBooks c₀ greenhouse) q fun q' bounds => q' = q ∧
      ∀ b, bounds = .ok b → source = .optimizer → b = q.catalog.envelope greenhouse := by
  have hidle : (houseBooks c₀ greenhouse).Idle Op.Reads q := idle_houseBooks q
  unfold gateBounds
  split
  · simp only [resolveStageBounds, obeys_bind, obeys_call]
    refine ⟨trivial, fun assignment hassignment => ?_⟩
    rw [(hidle .getAssignment trivial).2 assignment hassignment]
    cases assignment with
    | error text => exact ⟨rfl, fun b hb => absurd hb error_ne_ok⟩
    | ok assignment =>
      obtain ⟨hassignment, -⟩ := hassignment
      cases assignment with
      | none =>
        refine ⟨rfl, fun b hb _ => ?_⟩
        rw [← Except.ok.inj hb, Catalog.envelope, ← hassignment, Option.bind_none]
      | some assignment =>
        simp only [obeys_bind, obeys_call]
        refine ⟨trivial, fun profile hprofile => ?_⟩
        rw [(hidle (.getProfile assignment.profileId) trivial).2 profile hprofile]
        cases profile with
        | error text => exact ⟨rfl, fun b hb => absurd hb error_ne_ok⟩
        | ok profile =>
          obtain ⟨hprofile, -⟩ := hprofile
          cases profile with
          | none =>
            refine ⟨rfl, fun b hb _ => ?_⟩
            rw [← Except.ok.inj hb, Catalog.envelope, ← hassignment, Option.bind_some, ← hprofile,
              Option.bind_none]
          | some profile =>
            refine ⟨rfl, fun b hb _ => ?_⟩
            rw [← Except.ok.inj hb, Catalog.envelope, ← hassignment, Option.bind_some, ← hprofile,
              Option.bind_some]
  · rename_i hsource
    exact ⟨rfl, fun _ _ h => absurd h hsource⟩

/-- **Both setpoint handlers obey the protocol.** -/
theorem obeys_setpointWrite {source : SetpointSource} {actor description : String} {success : ℕ}
    {runId : Option String} {body : Decoded SetpointsPatchDTO} (happended : q.appended = false)
    (hcatalog : q.catalog = c₀) (hsuccess : ¬ Refusal success) :
    (setpointWrite greenhouse body
      (applySetpointWrite source actor description success runId)).Obeys (bookkeeping c₀) q
        fun q' reply => Kept reply.status q' := by
  cases body with
  | error failure =>
    simp only [setpointWrite, obeys_bind, obeys_onHouse, undecodedWrite]
    refine Obeys.of_uses (idle_houseBooks q) (uses_call.2 trivial) fun found => ?_
    cases found with
    | error text => exact kept_of_unappended happended
    | ok found =>
      cases found with
      | false => exact kept_of_unappended happended
      | true => cases failure <;> exact kept_of_unappended happended
  | ok patch =>
    simp only [setpointWrite, obeys_bind, obeys_onHouse]
    apply obeys_applySetpointWrite
      (fun b => source = .optimizer → b = q.catalog.envelope greenhouse) (idle_houseBooks_asks q)
    · exact fun _ => kept_of_unappended happended
    · exact obeys_gateBounds_books
    · intro candidate bounds hvalid hgate hwithin
      refine obeys_apply_books happended ⟨hvalid, fun hsource => ⟨hcatalog, ?_⟩⟩ hsuccess
      intro b hb
      rw [← hcatalog, ← hgate hsource] at hb
      rw [hb] at hwithin
      exact hwithin

/-- An operation that appends no revision. -/
theorem kept_next {o : ApiOp} {r : ApiResp o} {status : ℕ} (happended : q.appended = false)
    (ho : appends o r = false) : Kept status ((bookkeeping c₀).next q o r) :=
  kept_of_unappended (by simp [bookkeeping, happended, ho])

theorem obeys_createProfile {body : Decoded CropProfile} (happended : q.appended = false) :
    (createProfile body).Obeys (bookkeeping c₀) q fun q' reply => Kept reply.status q' := by
  unfold createProfile
  split
  · exact kept_of_unappended happended
  · split
    · exact kept_of_unappended happended
    · rename_i profile _ hvalid
      simp only [obeys_bind, obeys_call]
      refine ⟨⟨happended, validateStages_of_profile hvalid⟩, fun r _ => ?_⟩
      cases r with
      | error e => cases e <;> exact kept_next happended rfl
      | ok r => exact kept_next happended rfl

theorem validateStages_applyTo {patch : CropProfilePatchDTO} {profile : CropProfile}
    (hpatch : validateProfilePatch patch = none) (hprofile : validateStages profile.stages = none) :
    validateStages (patch.applyTo profile).stages = none := by
  cases hstages : patch.stages with
  | none => simpa [CropProfilePatchDTO.applyTo, hstages] using hprofile
  | some stages =>
    simpa [CropProfilePatchDTO.applyTo, hstages] using validateStages_of_patch hpatch hstages

theorem obeys_updateProfile {id : String} {body : Decoded CropProfilePatchDTO}
    (happended : q.appended = false) :
    (updateProfile id body).Obeys (bookkeeping c₀) q fun q' reply => Kept reply.status q' := by
  unfold updateProfile
  split
  · exact kept_of_unappended happended
  · split
    · exact kept_of_unappended happended
    · rename_i patch _ hpatch
      simp only [obeys_bind, obeys_call]
      refine ⟨trivial, fun found hfound => ?_⟩
      cases found with
      | error text => exact kept_next happended rfl
      | ok found =>
        cases found with
        | none => exact kept_next happended rfl
        | some profile =>
          have hprofile := hfound.2 id profile hfound.1.symm
          have hnext : (q.appended || false) = false := by rw [happended, Bool.or_false]
          simp only [obeys_bind, obeys_call]
          refine ⟨⟨hnext, validateStages_applyTo hpatch hprofile⟩, fun r _ => ?_⟩
          cases r <;> exact kept_next hnext rfl

theorem obeys_deleteProfile {id : String} (happended : q.appended = false) :
    (deleteProfile id).Obeys (bookkeeping c₀) q fun q' reply => Kept reply.status q' := by
  simp only [deleteProfile, obeys_bind, obeys_call]
  refine ⟨happended, fun r _ => ?_⟩
  cases r with
  | error e => cases e <;> exact kept_next happended rfl
  | ok found => cases found <;> exact kept_next happended rfl

theorem status_replyToAssignment (assignment : Assignment)
    (outcome : Except Failure ApplyOutcome) :
    (replyToAssignment assignment outcome).status = (replyTo 200 outcome).status := by
  cases outcome with
  | error failure => cases failure <;> rfl
  | ok outcome =>
    simp only [replyToAssignment, replyTo]
    split <;> rfl

theorem obeys_setAssignment {body : Decoded Assignment} (happended : q.appended = false) :
    (setAssignment greenhouse body).Obeys (bookkeeping c₀) q
      fun q' reply => Kept reply.status q' := by
  have hnext : (q.appended || false) = false := by rw [happended, Bool.or_false]
  unfold setAssignment
  split
  · exact kept_of_unappended happended
  · split
    · exact kept_of_unappended happended
    · rename_i input _ _
      simp only [obeys_bind, obeys_call]
      refine ⟨trivial, fun found _ => ?_⟩
      cases found with
      | error text => exact kept_next happended rfl
      | ok found =>
        cases found with
        | false => exact kept_next happended rfl
        | true =>
          simp only [obeys_bind, obeys_call]
          refine ⟨trivial, fun profile hprofile => ?_⟩
          cases profile with
          | error text => exact kept_next hnext rfl
          | ok profile =>
            cases profile with
            | none => exact kept_next hnext rfl
            | some profile =>
              have hstages := hprofile.2 input.profileId profile hprofile.1.symm
              have hnext' : ((q.appended || false) || false) = false := by rw [hnext, Bool.or_false]
              dsimp only
              split
              · exact kept_next hnext rfl
              · rename_i stage hstage
                simp only [obeys_bind, obeys_call]
                refine ⟨hnext', fun assigned _ => ?_⟩
                cases assigned with
                | error text => exact kept_next hnext' rfl
                | ok assigned =>
                  simp only [obeys_bind, obeys_pure, obeys_onHouse, status_replyToAssignment]
                  apply obeys_apply_books
                  · rw [bookkeeping]
                    exact (Bool.or_false _).trans hnext'
                  · have hmem := List.mem_of_find?_eq_some hstage
                    refine ⟨validateSetpoints_of_stage hstages hmem, fun hsource => ?_⟩
                    cases hsource
                  · exact fun hrefusal => absurd hrefusal.1 (by omega)

/-- **Every handler obeys the protocol**, and a refused request appends nothing. -/
theorem obeys_handle (request : ApiRequest) (happended : q.appended = false)
    (hcatalog : q.catalog = c₀) :
    request.handle.Obeys (bookkeeping c₀) q fun q' reply => Kept reply.status q' := by
  cases request with
  | createProfile body => exact obeys_createProfile happended
  | updateProfile id body => exact obeys_updateProfile happended
  | deleteProfile id => exact obeys_deleteProfile happended
  | setAssignment greenhouse body => exact obeys_setAssignment happended
  | editSetpoints greenhouse body =>
    exact obeys_setpointWrite happended hcatalog fun hrefusal => absurd hrefusal.1 (by omega)
  | submitSetpoints greenhouse actor runId body =>
    exact obeys_setpointWrite happended hcatalog fun hrefusal => absurd hrefusal.1 (by omega)

end Handlers

/-! ## The ledgers -/

namespace Estate

variable {C : Type}

def entries (s : Estate C) (greenhouse : String) : List SetpointRevision :=
  (s.house greenhouse).store.ledger.entries

/-- The books of a handler are right: the tables, and in each ledger revisions that may be
recorded on top of those that were there. -/
structure Accounts (s₀ s : Estate C) (q : Books) : Prop where
  catalog : s.catalog = q.catalog
  valid : q.catalog.Valid
  ledgers : ∀ greenhouse, ∃ new, s.entries greenhouse = new ++ s₀.entries greenhouse ∧
    (∀ r ∈ new, Entitled s₀.catalog q.catalog greenhouse r.toProvenance) ∧
    (q.appended = false → new = [])

variable {D : Device C} {s₀ s s' : Estate C} {q : Books}

theorem entries_of_house (h : s'.house = s.house) (greenhouse : String) :
    s'.entries greenhouse = s.entries greenhouse := by
  rw [entries, entries, h]

/-- An operation that changes the library or an assignment comes before any revision. -/
theorem Accounts.catalog_step (h : Accounts s₀ s q) {q' : Books}
    (hcatalog : s'.catalog = q'.catalog) (hhouse : s'.house = s.house)
    (hvalid : q'.catalog.Valid) (hnone : q.appended = false) : Accounts s₀ s' q' where
  catalog := hcatalog
  valid := hvalid
  ledgers greenhouse := by
    obtain ⟨new, hnew, -, hnil⟩ := h.ledgers greenhouse
    rw [hnil hnone] at hnew
    refine ⟨[], ?_, fun r hr => absurd hr List.not_mem_nil, fun _ => rfl⟩
    rw [entries_of_house hhouse, hnew]

/-- What an operation adds to a ledger: the revision it appends, or nothing. -/
theorem added_next (store : Store) (greenhouse : String) (o : Op) (r : Resp o) :
    ∃ added, (store.next o r).ledger.entries = added ++ store.ledger.entries ∧
      (∀ x ∈ added, o = .appendRevision x.toProvenance) ∧
      (appends (.house greenhouse o) r = false → added = []) := by
  cases o with
  | appendRevision p =>
    cases r with
    | error text => exact ⟨[], rfl, fun x hx => absurd hx List.not_mem_nil, fun _ => rfl⟩
    | ok revision =>
      refine ⟨[{ p with revision := store.ledger.maxRevision + 1 }], rfl, fun x hx => ?_, ?_⟩
      · rw [List.mem_singleton.1 hx]
      · exact fun h => absurd h.symm Bool.false_ne_true
  | upsertReconState recon =>
    cases r <;> exact ⟨[], rfl, fun x hx => absurd hx List.not_mem_nil, fun _ => rfl⟩
  | _ => exact ⟨[], rfl, fun x hx => absurd hx List.not_mem_nil, fun _ => rfl⟩

/-- An operation on a greenhouse appends what it may, to that ledger. -/
theorem Accounts.house_step (h : Accounts s₀ s q) {greenhouse : String} {o : Op} {r : Resp o}
    (hpermits : (bookkeeping s₀.catalog).permits q (.house greenhouse o))
    (hserve : serving D s (.house greenhouse o) r s') :
    Accounts s₀ s' ((bookkeeping s₀.catalog).next q (.house greenhouse o) r) := by
  obtain ⟨-, hcatalog, ⟨-, -, hstore, -⟩, hothers⟩ := hserve
  refine ⟨hcatalog.trans h.catalog, h.valid, fun other => ?_⟩
  obtain ⟨new, hnew, hentitled, hnil⟩ := h.ledgers other
  by_cases hother : other = greenhouse
  · subst hother
    obtain ⟨added, hadded, hrevision, hnone⟩ := added_next (s.house other).store other o r
    refine ⟨added ++ new, ?_, fun x hx => ?_, fun happended => ?_⟩
    · rw [entries, hstore, hadded, List.append_assoc, ← hnew]
      rfl
    · rcases List.mem_append.1 hx with hx | hx
      · have ho := hrevision x hx
        subst ho
        exact hpermits
      · exact hentitled x hx
    · obtain ⟨hbefore, hnow⟩ := Bool.or_eq_false_iff.1 happended
      rw [hnone hnow, hnil hbefore, List.append_nil]
  · refine ⟨new, ?_, hentitled, fun happended => hnil (Bool.or_eq_false_iff.1 happended).1⟩
    rw [entries, hothers other hother]
    exact hnew

/-- **Every permitted operation keeps the books right.** -/
theorem Accounts.step (h : Accounts s₀ s q) {o : ApiOp} {r : ApiResp o}
    (hpermits : (bookkeeping s₀.catalog).permits q o) (hserve : serving D s o r s') :
    (bookkeeping s₀.catalog).answers q o r ∧
      Accounts s₀ s' ((bookkeeping s₀.catalog).next q o r) := by
  have hbooks := hserve
  obtain ⟨hanswers, hcatalog, hhouse⟩ := hserve
  rw [h.catalog] at hanswers hcatalog
  refine ⟨⟨hanswers, h.valid⟩, ?_⟩
  cases o with
  | house greenhouse o => exact h.house_step hpermits hbooks
  | createProfile profile =>
    exact h.catalog_step hcatalog hhouse (h.valid.next r hpermits.2) hpermits.1
  | getProfile id =>
    have hq : (bookkeeping s₀.catalog).next q (.getProfile id) r = q :=
      congrArg (Books.mk q.catalog) (Bool.or_false _)
    rw [hq]
    refine ⟨hcatalog, h.valid, fun greenhouse => ?_⟩
    rw [entries_of_house hhouse]
    exact h.ledgers greenhouse
  | updateProfile profile =>
    exact h.catalog_step hcatalog hhouse (h.valid.next r hpermits.2) hpermits.1
  | deleteProfile id =>
    exact h.catalog_step hcatalog hhouse (h.valid.next r trivial) hpermits
  | setAssignment greenhouse assignment =>
    exact h.catalog_step hcatalog hhouse (h.valid.next r trivial) hpermits

/-! ## Runs -/

/-- A request that has been handled, with its reply. -/
structure Handled where
  request : ApiRequest
  reply : ApiReply

variable (D) in
/-- One request is handled. -/
def Step (s : Estate C) (x : Handled) (s' : Estate C) : Prop :=
  ∃ cs, Exec (serving D) x.request.handle s cs x.reply s'

/-- What a handler promises of a ledger: it adds revisions that pass the checks, none if the reply
is a client error, and those of the optimizer lie within the envelope of the stage that is
assigned, which the handler does not change. -/
def Lawful (s : Estate C) (x : Handled) (s' : Estate C) : Prop :=
  ∀ greenhouse, ∃ new, s'.entries greenhouse = new ++ s.entries greenhouse ∧
    (Refusal x.reply.status → new = []) ∧ ∀ r ∈ new, validateSetpoints r.setpoints = none ∧
      (r.source = .optimizer → s'.catalog = s.catalog ∧ s.catalog.Admits greenhouse r.setpoints)

/-- The library and the ledgers hold only bundles that passed the checks. -/
structure Sound (s : Estate C) : Prop where
  catalog : s.catalog.Valid
  ledgers : ∀ greenhouse, ∀ r ∈ s.entries greenhouse, validateSetpoints r.setpoints = none

/-- **A handler keeps the platform sound, lawfully.** -/
theorem Sound.step {x : Handled} (h : Sound s) (hstep : Step D s x s') :
    Sound s' ∧ Lawful s x s' := by
  obtain ⟨cs, hexec⟩ := hstep
  have hstart : Accounts s s ⟨s.catalog, false⟩ :=
    ⟨rfl, h.catalog, fun greenhouse => ⟨[], rfl, fun r hr => absurd hr List.not_mem_nil,
      fun _ => rfl⟩⟩
  obtain ⟨hkept, hbooks⟩ := hexec.invariant (I := Accounts s)
    (fun _ _ _ _ _ hI hpermits hserve => hI.step hpermits hserve)
    (obeys_handle x.request (q := ⟨s.catalog, false⟩) rfl rfl) hstart
  refine ⟨⟨hbooks.catalog ▸ hbooks.valid, fun greenhouse r hr => ?_⟩, fun greenhouse => ?_⟩
  · obtain ⟨new, hnew, hentitled, -⟩ := hbooks.ledgers greenhouse
    rw [hnew] at hr
    rcases List.mem_append.1 hr with hr | hr
    · exact (hentitled r hr).1
    · exact h.ledgers greenhouse r hr
  · obtain ⟨new, hnew, hentitled, hnil⟩ := hbooks.ledgers greenhouse
    refine ⟨new, hnew, fun hrefusal => hnil (hkept hrefusal), fun r hr => ?_⟩
    obtain ⟨hvalid, hwithin⟩ := hentitled r hr
    refine ⟨hvalid, fun hsource => ?_⟩
    obtain ⟨hsame, hadmits⟩ := hwithin hsource
    exact ⟨hbooks.catalog.trans hsame, hadmits⟩

/-- A new deployment: the starter library, no assignment and no revision. -/
def deployed (greenhouses : String → Bool) (devices : String → C) : Estate C where
  catalog := ⟨greenhouses, fun id => standardProfiles.find? (·.id == id), fun _ => none⟩
  house greenhouse := ⟨{}, devices greenhouse⟩

theorem sound_deployed (greenhouses : String → Bool) (devices : String → C) :
    Sound (deployed greenhouses devices) where
  catalog id profile hprofile := by
    have hmem := List.mem_of_find?_eq_some hprofile
    exact validateStages_of_profile (validateProfile_standard profile hmem)
  ledgers greenhouse r hr := absurd hr List.not_mem_nil

/-- **The ledger of every run is sound.** -/
theorem ledger_sound {greenhouses : String → Bool} {devices : String → C} {xs : List Handled}
    (h : Run (Step D) (deployed greenhouses devices) xs s) :
    Run (fun s x s' => Step D s x s' ∧ Lawful s x s') (deployed greenhouses devices) xs s ∧
      ∀ greenhouse, ∀ r ∈ s.entries greenhouse, validateSetpoints r.setpoints = none := by
  have hsound := sound_deployed greenhouses devices
  constructor
  · refine h.mono_of_invariant (I := Sound) (fun _ _ _ hs hstep => ?_) hsound
    obtain ⟨hs', hlawful⟩ := hs.step hstep
    exact ⟨hs', hstep, hlawful⟩
  · exact (h.invariant (fun _ _ _ hs hstep => (hs.step hstep).1) hsound).ledgers

/-! ### A working platform -/

section Serve

variable (respond : C → Request → Except String Response × C)

/-- A working platform as a function; its greenhouses are online, and it does not get around to
deleting a profile. -/
def serve (s : Estate C) : (o : ApiOp) → ApiResp o × Estate C
  | .house greenhouse o =>
    let served := Platform.serve .online respond (s.house greenhouse) o
    (s.catalog.answer greenhouse o served.1,
      { s with house := Function.update s.house greenhouse served.2 })
  | .createProfile profile =>
    match s.catalog.profiles profile.id with
    | none => (.ok (), { s with catalog := s.catalog.putProfile profile })
    | some _ => (.error .alreadyExists, s)
  | .getProfile id => (.ok (s.catalog.profiles id), s)
  | .updateProfile profile =>
    match s.catalog.profiles profile.id with
    | none => (.ok false, s)
    | some _ => (.ok true, { s with catalog := s.catalog.putProfile profile })
  | .deleteProfile _ => (.error (.other "timeout"), s)
  | .setAssignment greenhouse assignment =>
    match s.catalog.greenhouses greenhouse, s.catalog.profiles assignment.profileId with
    | true, some _ => (.ok (), { s with catalog := s.catalog.assign greenhouse assignment })
    | _, _ => (.error "violates foreign key constraint", s)

theorem hosting_answer (c : Catalog) (greenhouse : String) (w : World C) (o : Op) :
    hosting anyhow anything w o (c.answer greenhouse o (Platform.serve .online respond w o).1)
      (Platform.serve .online respond w o).2 := by
  have hserve : hosting anyhow anything w o (Platform.serve .online respond w o).1
      (Platform.serve .online respond w o).2 :=
    hosting_serve (fun _ _ => trivial) (fun _ _ => trivial) w o
  cases o with
  | greenhouseExists => exact ⟨trivial, trivial, rfl, rfl⟩
  | getAssignment => exact ⟨trivial, trivial, rfl, rfl⟩
  | getProfile id => exact ⟨trivial, trivial, rfl, rfl⟩
  | _ => exact hserve

theorem serving_serve (s : Estate C) (o : ApiOp) :
    serving anything s o (s.serve respond o).1 (s.serve respond o).2 := by
  cases o with
  | house greenhouse o =>
    refine ⟨s.catalog.truthful_answer greenhouse o _, rfl, ?_, fun other hother => ?_⟩
    · simp only [serve, Function.update_self]
      exact hosting_answer respond s.catalog greenhouse (s.house greenhouse) o
    · exact Function.update_of_ne hother _ _
  | createProfile profile =>
    cases hprofile : s.catalog.profiles profile.id with
    | none =>
      simp only [serve, hprofile]
      exact ⟨hprofile, rfl, rfl⟩
    | some found =>
      simp only [serve, hprofile]
      refine ⟨fun hnone => ?_, rfl, rfl⟩
      rw [hprofile] at hnone
      cases hnone
  | getProfile id => exact ⟨rfl, rfl, rfl⟩
  | updateProfile profile =>
    cases hprofile : s.catalog.profiles profile.id with
    | none =>
      simp only [serve, hprofile]
      exact ⟨by rw [Catalog.Answers, hprofile]; rfl, rfl, rfl⟩
    | some found =>
      simp only [serve, hprofile]
      exact ⟨by rw [Catalog.Answers, hprofile]; rfl, rfl, rfl⟩
  | deleteProfile id => exact ⟨trivial, rfl, rfl⟩
  | setAssignment greenhouse assignment =>
    cases hgreenhouse : s.catalog.greenhouses greenhouse with
    | false =>
      simp only [serve, hgreenhouse]
      exact ⟨trivial, rfl, rfl⟩
    | true =>
      cases hprofile : s.catalog.profiles assignment.profileId with
      | none =>
        simp only [serve, hgreenhouse, hprofile]
        exact ⟨trivial, rfl, rfl⟩
      | some found =>
        simp only [serve, hgreenhouse, hprofile]
        refine ⟨⟨hgreenhouse, fun hnone => ?_⟩, rfl, rfl⟩
        cases hprofile.symm.trans hnone

/-- The replies to some requests, and the platform after them. -/
def serveAll : List ApiRequest → Estate C → List Handled × Estate C
  | [], s => ([], s)
  | request :: requests, s =>
    let handled := request.handle.eval (serve respond) s
    let rest := serveAll requests handled.2
    (⟨request, handled.1⟩ :: rest.1, rest.2)

theorem run_serveAll (requests : List ApiRequest) (s : Estate C) :
    Run (Step anything) s (serveAll respond requests s).1 (serveAll respond requests s).2 := by
  induction requests generalizing s with
  | nil => exact .nil s
  | cons request requests ih =>
    exact .cons ⟨_, Exec.of_eval (serving_serve respond) request.handle s⟩ (ih _)

end Serve

/-- A controller that accepts every request. -/
def accepting (c : Unit) (_ : Request) : Except String Response × Unit :=
  (.ok ⟨200, .text "accepted"⟩, c)

/-- A stage is assigned; the optimizer stays within its envelope, then leaves it; an operator
leaves it too. -/
def benchRequests : List ApiRequest := [
  .setAssignment "gh-a" (.ok ⟨"tomato-standard", "vegetative"⟩),
  .submitSetpoints "gh-a" "optimizer" none (.ok { temperatureDayC := some 26 }),
  .submitSetpoints "gh-a" "optimizer" none (.ok { temperatureDayC := some 30 }),
  .editSetpoints "gh-a" (.ok { temperatureDayC := some 30 })]

theorem ledger_sound_bench : ∃ xs, ∃ s : Estate Unit,
    (Run (fun s x s' => Step anything s x s' ∧ Lawful s x s')
        (deployed (fun greenhouse => greenhouse = "gh-a") fun _ => ()) xs s ∧
      ∀ greenhouse, ∀ r ∈ s.entries greenhouse, validateSetpoints r.setpoints = none) ∧
    xs.map (·.reply.status) = [200, 202, 422, 200] ∧
    (s.entries "gh-a").map (·.source) = [.operatorEdit, .optimizer, .profile] := by
  have hrun := run_serveAll accepting benchRequests
    (deployed (fun greenhouse => greenhouse = "gh-a") fun _ => ())
  exact ⟨_, _, ledger_sound hrun, by decide +kernel, by decide +kernel⟩

end Estate

end Greenhouse.Platform
