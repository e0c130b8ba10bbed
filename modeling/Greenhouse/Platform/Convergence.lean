import Greenhouse.Platform.DriftCorrection
import Greenhouse.Platform.Phases
import Greenhouse.Process.Pool

/-!
# Apply and the passes under any interleaving

One thread runs the passes of the loop, others one `apply` each, over a store whose writes
succeed and an exact controller. Both sides read the row, deliver and write the whole row
back, without a lock. `Inv` is what holds between any two operations; it allows a row without
retries only while the controller shows the current revision, or while some `apply` is going
to reset it.

* `inv_loop`, `inv_writer`: every operation preserves it.
* `converges_iff`: the runs after which two passes lead to a synced state are those whose every
  write of a row without retries is fresh. `stale_exhausted` is a run that is not.
-/

namespace Greenhouse.Platform

open Greenhouse.Process Prog Reconciler

/-- The thread of the loop, and one for each `apply`. -/
inductive Thread (κ : Type) where
  | loop
  | writer (k : κ)
  deriving DecidableEq

section

variable {κ : Type}

/-- The protocol of each thread. -/
def protocols (maxRetries : Nat) (p : κ → Provenance) : Thread κ → Protocol Op Resp Phase
  | .loop => loopProtocol maxRetries
  | .writer k => applyProtocol (p k)

def firstPhase : Thread κ → Phase
  | .loop => .idle
  | .writer _ => .asked

/-- The program of each thread: `n` passes, or an `apply`. -/
def programs (maxRetries n : Nat) (p : κ → Provenance) : Thread κ → Program Unit
  | .loop => passes maxRetries n
  | .writer k => do
    let _ ← apply (p k)
    return ()

/-- Nothing has been done yet. -/
def start {C : Type} (maxRetries n : Nat) (p : κ → Provenance) (w : World C) :
    Pool (Thread κ) Op Resp Unit (World C) where
  world := w
  left := programs maxRetries n p

/-- The phases of the threads of a pool. -/
abbrev phases {C : Type} (maxRetries : Nat) (p : κ → Provenance)
    (q : Pool (Thread κ) Op Resp Unit (World C)) : Thread κ → Phase :=
  q.states (protocols maxRetries p) firstPhase

/-- An `apply` that has returned is over. -/
def finished : Thread κ → Phase → Unit → Prop
  | .loop, _, _ => True
  | .writer _, ph, _ => ph = .over

theorem tracks_start {C : Type} (maxRetries n : Nat) (p : κ → Provenance) (w : World C) :
    Pool.Tracks (protocols maxRetries p) firstPhase finished (start maxRetries n p w) := by
  rintro (_ | k)
  · exact passes_obeys n
  · exact obeys_bind.2 (apply_obeys.mono fun ph a hover => hover)

/-! ## What holds between any two operations -/

/-- The `apply` has not appended its revision. -/
def Phase.unrecorded : Phase → Prop
  | .asked => True
  | .sending _ => True
  | .settled _ => True
  | _ => False

/-- The `apply` has not written its row. -/
def Phase.pending : Phase → Prop
  | .asked => True
  | .sending _ => True
  | .settled _ => True
  | .appended _ _ => True
  | .holding _ _ _ => True
  | _ => False

theorem Phase.pending_of_unrecorded {ph : Phase} (h : ph.unrecorded) : ph.pending := by
  cases ph <;> first | exact h.elim | trivial

/-- Some `apply` has not appended its revision. -/
def Unrecorded (ph : Thread κ → Phase) : Prop := ∃ k, (ph (.writer k)).unrecorded

/-- Some `apply` has not written its row. -/
def Pending (ph : Thread κ → Phase) : Prop := ∃ k, (ph (.writer k)).pending

/-- The zones of a bundle are among those of the controller. -/
def Covers (ids : List String) (s : Setpoints) : Prop := ∀ z ∈ s.zones, z.zoneId ∈ ids

/-- A request that the controller accepts. -/
def Sendable (ids : List String) : Request → Prop
  | .patchSetpoints _ => True
  | .patchZone zone => zone.zoneId ∈ ids
  | _ => False

section

variable (maxRetries : Nat) (ids : List String) (w : World Shown) (U : Prop)

/-- A later revision has been appended. -/
def Stale (c : SetpointRevision) : Prop := c.revision < w.store.ledger.maxRevision

/-- The revision has been current. -/
def Seen (c : SetpointRevision) : Prop :=
  Covers ids c.setpoints ∧ (w.store.ledger.current = some c ∨ Stale w c)

/-- The row is the one a pass has read, or an `apply` has reset the retries since. -/
def Held (ρ : ReconState) : Prop := w.store.row = ρ ∨ w.store.row.failCount = 0

/-- The controller is in a state with `X`, unless the revision is stale or some `apply` has
not recorded its own. -/
def Excused (c : SetpointRevision) (X : Shown → Prop) : Prop := Stale w c ∨ U ∨ X w.device

/-- What holds in each phase of the loop. -/
def LoopOk : Phase → Prop
  | .intent c => Seen ids w c
  | .row c ρ | .reached c ρ => Seen ids w c ∧ Held w ρ ∧
      (maxRetries ≤ ρ.failCount → ρ.lastDeliveredRevision = some c.revision →
        Excused w U c fun d => Matches d c)
  | .half c ρ resp => Seen ids w c ∧ Held w ρ ∧ ρ.lastDeliveredRevision = some c.revision ∧
      (maxRetries ≤ ρ.failCount →
        Excused w U c fun d => Matches d c ∧ resp.body = .setpoints d.global)
  | .judged c ρ same => Seen ids w c ∧ Held w ρ ∧ ρ.lastDeliveredRevision = some c.revision ∧
      (same = false → maxRetries ≤ ρ.failCount → Excused w U c fun _ => False)
  | .pushing c ρ drift todo => Seen ids w c ∧ Held w ρ ∧ ρ.failCount < maxRetries ∧
      (drift = true → ρ.lastDeliveredRevision = some c.revision) ∧
      ∃ done zones, c.setpoints.zones = done ++ zones ∧ todo = zones.map .patchZone ∧
        Excused w U c fun d => d.Shows c.setpoints.toGlobalSetpoints done
  | .refused _ _ _ | .away _ => False
  | _ => True

/-- What holds of the row. -/
def RowOk (Pd : Prop) : Prop :=
  w.store.row.failCount < maxRetries ∨ ∃ c, w.store.ledger.current = some c ∧
    ((w.store.row.lastDeliveredRevision = some c.revision ∧ (U ∨ Matches w.device c)) ∨
      ∃ l, w.store.row.lastDeliveredRevision = some l ∧ l < c.revision ∧ Pd)

end

/-- What holds between any two operations. -/
structure Inv (maxRetries : Nat) (ids : List String) (w : World Shown) (ph : Thread κ → Phase) :
    Prop where
  zoneIds : w.device.zoneIds = ids
  known : ∀ c, w.store.ledger.current = some c → Covers ids c.setpoints
  recorded : (∀ k, (ph (.writer k)).unrecorded) ∨
    ∃ c, w.store.ledger.current = some c ∧ c.setpoints.Consistent
  sendable : ∀ k todo, ph (.writer k) = .sending todo → ∀ q ∈ todo, Sendable ids q
  loop : LoopOk maxRetries ids w (Unrecorded ph) (ph .loop)
  row : RowOk maxRetries w (Unrecorded ph) (Pending ph)

/-! ## Monotonicity -/

section

variable {maxRetries : Nat} {ids : List String} {w w' : World Shown} {U U' : Prop}

/-- The facts about the loop survive what keeps the revisions seen, the rows held and the
excuses. -/
theorem LoopOk.mono {ph : Phase} (h : LoopOk maxRetries ids w U ph)
    (hseen : ∀ c, Seen ids w c → Seen ids w' c) (hheld : ∀ ρ, Held w ρ → Held w' ρ)
    (hexcused : ∀ c X, Seen ids w c → Excused w U c X → Excused w' U' c X) :
    LoopOk maxRetries ids w' U' ph := by
  cases ph with
  | intent c => exact hseen c h
  | row c ρ =>
    exact ⟨hseen c h.1, hheld ρ h.2.1, fun hm hl => hexcused c _ h.1 (h.2.2 hm hl)⟩
  | reached c ρ =>
    exact ⟨hseen c h.1, hheld ρ h.2.1, fun hm hl => hexcused c _ h.1 (h.2.2 hm hl)⟩
  | half c ρ resp =>
    exact ⟨hseen c h.1, hheld ρ h.2.1, h.2.2.1, fun hm => hexcused c _ h.1 (h.2.2.2 hm)⟩
  | judged c ρ same =>
    exact ⟨hseen c h.1, hheld ρ h.2.1, h.2.2.1, fun hs hm => hexcused c _ h.1 (h.2.2.2 hs hm)⟩
  | pushing c ρ drift todo =>
    obtain ⟨hc, hρ, hleft, hdel, done, zones, hzones, htodo, hex⟩ := h
    exact ⟨hseen c hc, hheld ρ hρ, hleft, hdel, done, zones, hzones, htodo, hexcused c _ hc hex⟩
  | refused c ρ drift => exact h.elim
  | away ρ => exact h.elim
  | _ => trivial

/-- The revision number of what has been seen. -/
theorem Seen.le {c : SetpointRevision} (h : Seen ids w c) :
    c.revision ≤ w.store.ledger.maxRevision := by
  rcases h.2 with hc | hc
  · exact (Ledger.maxRevision_of_current hc).ge
  · exact hc.le

/-- While the loop delivers, the row has retries. -/
theorem Held.retries {ρ : ReconState} (h : Held w ρ) (hleft : ρ.failCount < maxRetries) :
    w.store.row.failCount < maxRetries := by
  rcases h with h | h
  · rw [h]; exact hleft
  · rw [h]; exact Nat.zero_lt_of_lt hleft

theorem Ledger.exists_current {l : Ledger} {n : Nat} (h : n < l.maxRevision) :
    ∃ c, l.current = some c ∧ n < c.revision := by
  cases hc : l.current with
  | none =>
    rw [Ledger.maxRevision, hc] at h
    exact absurd h (Nat.not_lt_zero n)
  | some c =>
    rw [Ledger.maxRevision_of_current hc] at h
    exact ⟨c, rfl, h⟩

/-- A write of a row without retries: the controller shows the revision it calls delivered,
or some `apply` is going to reset it. -/
theorem rowOk_of_exhausted {ρ : ReconState} {c : SetpointRevision} {Pd : Prop}
    (hseen : Seen ids w c) (hdel : ρ.lastDeliveredRevision = some c.revision)
    (hfresh : ρ.lastDeliveredRevision = w.store.ledger.current.map (·.revision) ∨ Pd)
    (hex : Excused w U c fun d => Matches d c)
    (hledger : w'.store.ledger = w.store.ledger) (hrow : w'.store.row = ρ)
    (hdevice : w'.device = w.device) : RowOk maxRetries w' U Pd := by
  rw [RowOk, hledger, hrow, hdevice]
  refine .inr ?_
  rcases hseen.2 with hcurrent | hstale
  · refine ⟨c, hcurrent, .inl ⟨hdel, ?_⟩⟩
    rcases hex with hstale | hex
    · exact absurd hstale (by rw [Stale, Ledger.maxRevision_of_current hcurrent]; exact lt_irrefl _)
    · exact hex
  · obtain ⟨c', hcurrent, hlt⟩ := Ledger.exists_current hstale
    refine ⟨c', hcurrent, .inr ⟨c.revision, hdel, hlt, hfresh.resolve_left ?_⟩⟩
    rw [hdel, hcurrent]
    intro h
    exact absurd (Option.some.inj h) hlt.ne

/-- The row as a pass reads it, with the revision it has read. -/
theorem excused_of_rowOk {c : SetpointRevision} {Pd : Prop} (hrow : RowOk maxRetries w U Pd)
    (hseen : Seen ids w c) (hback : maxRetries ≤ w.store.row.failCount)
    (hdel : w.store.row.lastDeliveredRevision = some c.revision) :
    Excused w U c fun d => Matches d c := by
  obtain hlt | ⟨c', hcurrent, h⟩ := hrow
  · exact absurd hlt (not_lt.2 hback)
  rw [hdel] at h
  rcases hseen.2 with hc | hstale
  · obtain rfl := Option.some.inj (hc.symm.trans hcurrent)
    rcases h with ⟨-, h⟩ | ⟨l, hl, hlt, -⟩
    · exact .inr h
    · exact absurd (Option.some.inj hl) hlt.ne'
  · exact .inl hstale

/-- The row is what the invariant says of it. -/
theorem loopOk_row {κ : Type} {ph : Thread κ → Phase} (h : Inv maxRetries ids w ph)
    {c : SetpointRevision} (hloop : LoopOk maxRetries ids w (Unrecorded ph) (.intent c)) :
    LoopOk maxRetries ids w (Unrecorded ph) (.row c w.store.row) :=
  ⟨hloop, .inl rfl, excused_of_rowOk h.row hloop⟩

/-- The setpoints are those of the controller. -/
theorem loopOk_half {c : SetpointRevision} {ρ : ReconState}
    (hloop : LoopOk maxRetries ids w U (.reached c ρ))
    (hdel : ρ.lastDeliveredRevision = some c.revision) (st : Nat) :
    LoopOk maxRetries ids w U (.half c ρ ⟨st, .setpoints w.device.global⟩) := by
  obtain ⟨hseen, hheld, hex⟩ := hloop
  exact ⟨hseen, hheld, hdel, fun hback =>
    (hex hback hdel).imp_right (Or.imp_right fun hmatch => ⟨hmatch, rfl⟩)⟩

/-- With the zones, the pass judges what the controller shows: a row without retries sees a
difference only where it is excused. -/
theorem loopOk_judged {c : SetpointRevision} {ρ : ReconState} {resp : Response}
    (hloop : LoopOk maxRetries ids w U (.half c ρ resp)) {st : Nat} (hok : ok2xx st = true) :
    LoopOk maxRetries ids w U (afterRead c ρ resp ⟨st, .zones w.device.zones⟩) := by
  obtain ⟨hseen, hheld, hdel, hex⟩ := hloop
  simp only [afterRead, hok, if_true]
  cases hparse : parseReported resp.body (.zones w.device.zones) with
  | error err => exact trivial
  | ok shown =>
    refine ⟨hseen, hheld, hdel, fun hsame hback => ?_⟩
    refine (hex hback).imp_right (Or.imp_right ?_)
    rintro ⟨hmatch, hbody⟩
    rw [hbody] at hparse
    obtain rfl := Except.ok.inj hparse
    exact absurd hmatch (by rw [Matches]; exact hsame ▸ Bool.false_ne_true)

end

/-- A controller that shows a delivered bundle reports it, unless the bundle is one that no
`apply` has recorded. -/
theorem Inv.excused_of_shows [Nonempty κ] {maxRetries : Nat} {ids : List String}
    {w : World Shown} {ph : Thread κ → Phase} (h : Inv maxRetries ids w ph) {c : SetpointRevision}
    {zones : List ZoneTargets} (hseen : Seen ids w c)
    (hex : Excused w (Unrecorded ph) c fun d => d.Shows c.setpoints.toGlobalSetpoints zones)
    (hzones : c.setpoints.zones = zones) :
    Excused w (Unrecorded ph) c fun d => Matches d c := by
  rcases hex with hex | hex | hshows
  · exact .inl hex
  · exact .inr (.inl hex)
  rcases hseen.2 with hcurrent | hstale
  · rcases h.recorded with hnone | ⟨c', hcurrent', hconsistent⟩
    · obtain ⟨k⟩ := ‹Nonempty κ›
      exact .inr (.inl ⟨k, hnone k⟩)
    · obtain rfl := Option.some.inj (hcurrent'.symm.trans hcurrent)
      exact .inr (.inr (reconciled_of_shows hconsistent (hzones ▸ hshows)))
  · exact .inl hstale

section Loop

variable [DecidableEq κ] {maxRetries : Nat} {ids : List String} {w w' : World Shown}
  {ph : Thread κ → Phase}

@[simp] theorem update_loop_writer (x : Phase) (k : κ) :
    Function.update ph .loop x (.writer k) = ph (.writer k) :=
  Function.update_of_ne (by simp) _ _

/-- A step of the loop leaves the writers where they are. -/
theorem Inv.loop_step (h : Inv maxRetries ids w ph) {x : Phase}
    (hids : w'.device.zoneIds = w.device.zoneIds) (hledger : w'.store.ledger = w.store.ledger)
    (hloop : LoopOk maxRetries ids w' (Unrecorded ph) x)
    (hrow : RowOk maxRetries w' (Unrecorded ph) (Pending ph)) :
    Inv maxRetries ids w' (Function.update ph .loop x) where
  zoneIds := hids.trans h.zoneIds
  known := by rw [hledger]; exact h.known
  recorded := by simpa [hledger] using h.recorded
  sendable k todo hk := h.sendable k todo (by simpa using hk)
  loop := by simpa [Unrecorded] using hloop
  row := by simpa [Unrecorded, Pending] using hrow

/-- A row without retries is written back while the revision it calls delivered is current, or
some `apply` has yet to write its own row. -/
def FreshWrite (maxRetries : Nat) (w : World Shown) (ph : Thread κ → Phase) (ρ : ReconState) :
    Prop :=
  maxRetries ≤ ρ.failCount →
    ρ.lastDeliveredRevision = w.store.ledger.current.map (·.revision) ∨ Pending ph

/-- An operation of the loop that changes neither the tables nor the controller. -/
theorem inv_quiet (h : Inv maxRetries ids w ph) (hw : w' = w) {x : Phase}
    (hloop : LoopOk maxRetries ids w (Unrecorded ph) x) :
    Inv maxRetries ids w' (Function.update ph .loop x) := by
  subst hw
  exact h.loop_step rfl rfl hloop h.row

/-- A request of a delivery that the loop makes to an exact controller. -/
theorem inv_push (h : Inv maxRetries ids w ph) {c : SetpointRevision}
    {ρ : ReconState} {drift : Bool} {todo : List Request} (done : List ZoneTargets)
    {zones : List ZoneTargets}
    (hseen : Seen ids w c) (hheld : Held w ρ) (hleft : ρ.failCount < maxRetries)
    (hdel : drift = true → ρ.lastDeliveredRevision = some c.revision)
    (hzones : c.setpoints.zones = done ++ zones) (htodo : todo = zones.map .patchZone)
    (hstore : w'.store = w.store) (hids : w'.device.zoneIds = w.device.zoneIds)
    (hex : Excused w' (Unrecorded ph) c fun d => d.Shows c.setpoints.toGlobalSetpoints done) :
    Inv maxRetries ids w' (Function.update ph .loop (.pushing c ρ drift todo)) := by
  refine h.loop_step hids (by rw [hstore]) ⟨?_, ?_, hleft, hdel, done, zones, hzones, htodo, hex⟩
    (.inl ?_)
  · rw [Seen, Stale, hstore]; exact hseen
  · rw [Held, hstore]; exact hheld
  · rw [hstore]; exact hheld.retries hleft

/-- The first request patches the setpoints, and leaves the zones to be sent. -/
theorem inv_patchSetpoints (h : Inv maxRetries ids w ph) {c : SetpointRevision} {ρ : ReconState}
    {drift : Bool} (hseen : Seen ids w c) (hheld : Held w ρ) (hleft : ρ.failCount < maxRetries)
    (hdel : drift = true → ρ.lastDeliveredRevision = some c.revision)
    (hstore : w'.store = w.store) {r : Except String Response}
    (hserves : exact.answer w.device (.patchSetpoints c.setpoints.toGlobalSetpoints) r w'.device) :
    Inv maxRetries ids w' (Function.update ph .loop
      (afterPush c ρ drift (c.setpoints.zones.map .patchZone) r)) := by
  obtain ⟨hok, hdevice⟩ := exact_patchSetpoints hserves
  simp only [afterPush, hok, if_true]
  exact inv_push h [] hseen hheld hleft hdel rfl rfl hstore
    (by rw [hdevice, Shown.zoneIds_patch])
    (.inr (.inr (hdevice ▸ w.device.shows_patchSetpoints _)))

/-- Every further request patches the next zone. -/
theorem inv_patchZone (h : Inv maxRetries ids w ph) {c : SetpointRevision} {ρ : ReconState}
    {drift : Bool} {q : Request} {todo : List Request}
    (hloop : LoopOk maxRetries ids w (Unrecorded ph) (.pushing c ρ drift (q :: todo)))
    (hstore : w'.store = w.store) {r : Except String Response}
    (hserves : exact.answer w.device q r w'.device) :
    Inv maxRetries ids w' (Function.update ph .loop (afterPush c ρ drift todo r)) := by
  obtain ⟨hseen, hheld, hleft, hdel, done, zones, hzones, htodo, hex⟩ := hloop
  obtain _ | ⟨zone, zones⟩ := zones
  · cases htodo
  obtain ⟨rfl, rfl⟩ := List.cons.inj htodo
  have hknown : zone.zoneId ∈ w.device.zoneIds := by
    rw [h.zoneIds]
    exact hseen.1 zone (by rw [hzones]; simp)
  obtain ⟨hok, hdevice⟩ := exact_patchZone hknown hserves
  simp only [afterPush, hok, if_true]
  refine inv_push h (done ++ [zone]) hseen hheld hleft hdel (by simp [hzones]) rfl hstore
    (by rw [hdevice, Shown.zoneIds_patch]) ?_
  rw [Excused, Stale, hstore, hdevice]
  exact hex.imp_right (Or.imp_right fun hshows => hshows.patchZone hknown)

/-- A pass that gives up writes a row without retries. -/
theorem inv_exhausted (h : Inv maxRetries ids w ph) {c : SetpointRevision} {ρ : ReconState}
    (hloop : LoopOk maxRetries ids w (Unrecorded ph) (.judged c ρ false))
    (hback : maxRetries ≤ ρ.failCount)
    (hfresh : FreshWrite maxRetries w ph { ρ with drift := true })
    (hstore : w'.store = w.store.next (.upsertReconState { ρ with drift := true }) (.ok ()))
    (hdevice : w'.device = w.device) :
    Inv maxRetries ids w' (Function.update ph .loop .idle) := by
  obtain ⟨hseen, -, hdel, hex⟩ := hloop
  refine h.loop_step (by rw [hdevice]) (by rw [hstore]; rfl) trivial ?_
  exact rowOk_of_exhausted (ρ := { ρ with drift := true }) hseen hdel (hfresh hback)
    ((hex rfl hback).imp_right (Or.imp_right False.elim)) (by rw [hstore]; rfl)
    (by rw [hstore]; rfl) hdevice

/-- A delivery that is over writes its row: without retries only as a correction, after which
the controller shows the revision. -/
theorem inv_pushed [Nonempty κ] (h : Inv maxRetries ids w ph) (hmax : 0 < maxRetries)
    {c : SetpointRevision} {ρ : ReconState} {drift : Bool}
    (hloop : LoopOk maxRetries ids w (Unrecorded ph) (.pushing c ρ drift []))
    (hfresh : FreshWrite maxRetries w ph (pushedRow c ρ drift true))
    (hstore : w'.store = w.store.next (.upsertReconState (pushedRow c ρ drift true)) (.ok ()))
    (hdevice : w'.device = w.device) :
    Inv maxRetries ids w' (Function.update ph .loop .idle) := by
  obtain ⟨hseen, -, hleft, hdel, done, zones, hzones, htodo, hex⟩ := hloop
  obtain rfl : zones = [] := List.map_eq_nil_iff.1 htodo.symm
  rw [List.append_nil] at hzones
  refine h.loop_step (by rw [hdevice]) (by rw [hstore]; rfl) trivial ?_
  by_cases hback : maxRetries ≤ (pushedRow c ρ drift true).failCount
  · cases drift with
    | false => exact absurd hback (not_le.2 hmax)
    | true =>
      refine rowOk_of_exhausted (ρ := pushedRow c ρ true true) hseen (hdel rfl)
        (hfresh hback) (h.excused_of_shows hseen hex hzones) (by rw [hstore]; rfl)
        (by rw [hstore]; rfl) hdevice
  · exact .inl (by rw [hstore]; exact not_le.1 hback)

/-- **Every operation of the loop preserves the invariant**, if its writes are fresh. -/
theorem inv_loop [Nonempty κ] (h : Inv maxRetries ids w ph) (hmax : 0 < maxRetries) {o : Op}
    {r : Resp o} (hpermits : LoopPermits maxRetries (ph .loop) o)
    (hfresh : ∀ ρ, o = .upsertReconState ρ → FreshWrite maxRetries w ph ρ)
    (henv : hosting Reaches exact w o r w') :
    Inv maxRetries ids w' (Function.update ph .loop (loopNext (ph .loop) o r)) := by
  have hloop := h.loop
  generalize ph .loop = x at hpermits hloop
  obtain ⟨hreaches, htrue, hstore, hserves⟩ := henv
  cases hpermits with
  | current =>
    have hw : w' = w := World.eq_of hstore hserves
    obtain e | _ | c := r
    · exact inv_quiet h hw trivial
    · exact inv_quiet h hw trivial
    · exact inv_quiet h hw ⟨h.known c htrue.symm, .inl htrue.symm⟩
  | broadcast => exact inv_quiet h (World.eq_of hstore hserves) (by cases x <;> exact hloop)
  | row =>
    have hw : w' = w := World.eq_of hstore hserves
    obtain e | found := r
    · exact inv_quiet h hw trivial
    · rw [show found = w.store.recon from htrue]
      exact inv_quiet h hw (loopOk_row h hloop)
  | endpoint =>
    have hw : w' = w := World.eq_of hstore hserves
    obtain e | _ | e := r
    · exact inv_quiet h hw trivial
    · exact inv_quiet h hw trivial
    · exact inv_quiet h hw hloop
  | fleet =>
    obtain ⟨live, rfl, hlive⟩ := hreaches
    refine inv_quiet h (World.eq_of hstore hserves) ?_
    simp only [loopNext, isReachable, hlive, ne_eq, not_false_iff, decide_true, if_true]
    exact hloop
  | defer => exact hloop.elim
  | getSetpoints hdel =>
    obtain ⟨⟨st, hok, rfl⟩, hdevice⟩ := hserves
    simp only [loopNext, hok, if_true]
    exact inv_quiet h (World.eq_of hstore hdevice) (loopOk_half hloop hdel st)
  | getZones =>
    obtain ⟨⟨st, hok, rfl⟩, hdevice⟩ := hserves
    exact inv_quiet h (World.eq_of hstore hdevice) (loopOk_judged hloop hok)
  | synced =>
    obtain rfl : r = .ok () := hreaches
    exact h.loop_step (by rw [hserves]) (by rw [hstore]; rfl) trivial
      (.inl (by rw [hstore]; exact hmax))
  | exhausted hback =>
    obtain rfl : r = .ok () := hreaches
    exact inv_exhausted h hloop hback (hfresh _ rfl) hstore hserves
  | correct hleft =>
    obtain ⟨hseen, hheld, hdel, -⟩ := hloop
    exact inv_patchSetpoints h hseen hheld hleft (fun _ => hdel) hstore hserves
  | reassert hdel hleft =>
    obtain ⟨hseen, hheld, -⟩ := hloop
    exact inv_patchSetpoints h hseen hheld hleft (fun hd => absurd hd (by decide)) hstore hserves
  | push =>
    simp only [loopNext]
    exact inv_patchZone h hloop hstore hserves
  | pushed =>
    obtain rfl : r = .ok () := hreaches
    exact inv_pushed h hmax hloop (hfresh _ rfl) hstore hserves
  | refused => exact hloop.elim

end Loop

section Writer

variable [DecidableEq κ] {maxRetries : Nat} {ids : List String} {w w' : World Shown}
  {ph : Thread κ → Phase} {k : κ} {x : Phase}

theorem writer_cases {P : Phase → Prop} (hx : P x) (h : ∀ j, j ≠ k → P (ph (.writer j))) (j : κ) :
    P (Function.update ph (.writer k) x (.writer j)) := by
  by_cases hj : j = k
  · subst hj
    rw [Function.update_self]
    exact hx
  · rw [Function.update_of_ne (by simpa using hj)]
    exact h j hj

@[simp] theorem update_writer_loop : Function.update ph (.writer k) x .loop = ph .loop :=
  Function.update_of_ne (by simp) _ _

theorem unrecorded_update (hx : x.unrecorded) : Unrecorded (Function.update ph (.writer k) x) :=
  ⟨k, by rw [Function.update_self]; exact hx⟩

theorem pending_update (hx : x.pending) : Pending (Function.update ph (.writer k) x) :=
  ⟨k, by rw [Function.update_self]; exact hx⟩

/-- An `apply` that has recorded its revision does not count for those that have not. -/
theorem unrecorded_of_recorded (hk : ¬ (ph (.writer k)).unrecorded) (h : Unrecorded ph) :
    Unrecorded (Function.update ph (.writer k) x) := by
  obtain ⟨j, hj⟩ := h
  have hne : j ≠ k := by rintro rfl; exact hk hj
  exact ⟨j, by rw [Function.update_of_ne (by simpa using hne)]; exact hj⟩

/-- A step of an `apply` that has not recorded its revision: whatever it does to the
controller is excused. -/
theorem inv_unrecorded (h : Inv maxRetries ids w ph) (hx : x.unrecorded)
    (hsend : ∀ todo, x = .sending todo → ∀ q ∈ todo, Sendable ids q)
    (hstore : w'.store = w.store) (hids : w'.device.zoneIds = w.device.zoneIds) :
    Inv maxRetries ids w' (Function.update ph (.writer k) x) where
  zoneIds := hids.trans h.zoneIds
  known := by rw [hstore]; exact h.known
  recorded := by
    rw [hstore]
    exact h.recorded.imp_left fun hall => writer_cases hx fun j _ => hall j
  sendable j todo := writer_cases (P := fun y => y = .sending todo → ∀ q ∈ todo, Sendable ids q)
    (hsend todo) (fun j _ => h.sendable j todo) j
  loop := by
    rw [update_writer_loop]
    refine h.loop.mono (fun c hc => ?_) (fun ρ hρ => ?_)
      fun c X _ _ => .inr (.inl (unrecorded_update hx))
    · rw [Seen, Stale, hstore]; exact hc
    · rw [Held, hstore]; exact hρ
  row := by
    rw [RowOk, hstore]
    rcases h.row with hlt | ⟨c, hc, ⟨hdel, -⟩ | ⟨l, hdel, hlt, -⟩⟩
    · exact .inl hlt
    · exact .inr ⟨c, hc, .inl ⟨hdel, .inl (unrecorded_update hx)⟩⟩
    · exact .inr ⟨c, hc, .inr ⟨l, hdel, hlt, pending_update (Phase.pending_of_unrecorded hx)⟩⟩

/-- A step of an `apply` that has recorded its revision, towards its write of the row. -/
theorem inv_recorded (h : Inv maxRetries ids w ph) (hk : ¬ (ph (.writer k)).unrecorded)
    (hx : ∀ todo, x ≠ .sending todo) (hledger : w'.store.ledger = w.store.ledger)
    (hdevice : w'.device = w.device) (hheld : ∀ ρ, Held w ρ → Held w' ρ)
    (hrow : RowOk maxRetries w' (Unrecorded (Function.update ph (.writer k) x))
      (Pending (Function.update ph (.writer k) x))) :
    Inv maxRetries ids w' (Function.update ph (.writer k) x) where
  zoneIds := by rw [hdevice]; exact h.zoneIds
  known := by rw [hledger]; exact h.known
  recorded := by
    rw [hledger]
    exact .inr (h.recorded.resolve_left fun hall => hk (hall k))
  sendable j todo := writer_cases (P := fun y => y = .sending todo → ∀ q ∈ todo, Sendable ids q)
    (fun hsending => absurd hsending (hx todo)) (fun j _ => h.sendable j todo) j
  loop := by
    rw [update_writer_loop]
    refine h.loop.mono (fun c hc => ?_) hheld fun c X _ hex => ?_
    · rw [Seen, Stale, hledger]; exact hc
    · rw [Excused, Stale, hledger, hdevice]
      exact hex.imp_right (Or.imp_left (unrecorded_of_recorded hk))
  row := hrow

/-- An `apply` appends its revision. -/
theorem inv_append {p : Provenance} (h : Inv maxRetries ids w ph) (hx : x.pending)
    (hsend : ∀ todo, x ≠ .sending todo) (hp : Covers ids p.setpoints)
    (hconsistent : p.setpoints.Consistent)
    (hledger : w'.store.ledger = w.store.ledger.append p) (hrecon : w'.store.row = w.store.row)
    (hdevice : w'.device = w.device) :
    Inv maxRetries ids w' (Function.update ph (.writer k) x) := by
  have hcurrent : w'.store.ledger.current =
      some { p with revision := w.store.ledger.maxRevision + 1 } := by
    rw [hledger, Ledger.current_append]
  have hstale : ∀ c, Seen ids w c → Stale w' c := fun c hc => by
    rw [Stale, hledger, Ledger.maxRevision_append]
    exact Nat.lt_succ_of_le hc.le
  refine ⟨?_, ?_, .inr ⟨_, hcurrent, hconsistent⟩, ?_, ?_, ?_⟩
  · rw [hdevice]
    exact h.zoneIds
  · intro c hc
    obtain rfl := Option.some.inj (hcurrent.symm.trans hc)
    exact hp
  · exact fun j todo => writer_cases
      (P := fun y => y = .sending todo → ∀ q ∈ todo, Sendable ids q)
      (fun hsending => absurd hsending (hsend todo)) (fun j _ => h.sendable j todo) j
  · rw [update_writer_loop]
    refine h.loop.mono (fun c hc => ⟨hc.1, .inr (hstale c hc)⟩) (fun ρ hρ => ?_)
      fun c X hc _ => .inl (hstale c hc)
    rw [Held, hrecon]
    exact hρ
  · rw [RowOk, hrecon]
    rcases h.row with hlt | ⟨c, hc, hrow⟩
    · exact .inl hlt
    have hnew : c.revision < w.store.ledger.maxRevision + 1 := by
      rw [Ledger.maxRevision_of_current hc]
      exact Nat.lt_succ_self _
    refine .inr ⟨_, hcurrent, .inr ?_⟩
    rcases hrow with ⟨hdel, -⟩ | ⟨l, hdel, hlt, -⟩
    · exact ⟨c.revision, hdel, hnew, pending_update hx⟩
    · exact ⟨l, hdel, hlt.trans hnew, pending_update hx⟩

theorem sendable_requests {s : Setpoints} (hs : Covers ids s) :
    ∀ q ∈ requests s, Sendable ids q := by
  intro q hq
  rcases List.mem_cons.1 hq with rfl | hq
  · trivial
  · obtain ⟨z, hz, rfl⟩ := List.mem_map.1 hq
    exact hs z hz

theorem exact_of_sendable {d d' : Shown} {q : Request} {r : Except String Response}
    (hq : Sendable d.zoneIds q) (h : exact.answer d q r d') :
    accepted r = true ∧ d'.zoneIds = d.zoneIds := by
  cases q with
  | patchSetpoints global =>
    obtain ⟨hok, rfl⟩ := exact_patchSetpoints h
    exact ⟨hok, d.zoneIds_patch _⟩
  | patchZone zone =>
    obtain ⟨hok, rfl⟩ := exact_patchZone hq h
    exact ⟨hok, d.zoneIds_patch _⟩
  | getSetpoints => exact hq.elim
  | getZones => exact hq.elim

/-- **Every operation of an `apply` preserves the invariant**, if the store answers it. -/
theorem inv_writer (h : Inv maxRetries ids w ph) (hmax : 0 < maxRetries) {p : Provenance}
    (hp : Covers ids p.setpoints) (hconsistent : p.setpoints.Consistent) {o : Op} {r : Resp o}
    (hpermits : ApplyPermits p (ph (.writer k)) o) (hworks : Works o r)
    (henv : hosting Reaches exact w o r w') :
    Inv maxRetries ids w' (Function.update ph (.writer k) (applyNext p (ph (.writer k)) o r)) := by
  generalize hk : ph (.writer k) = y at hpermits
  obtain ⟨-, htrue, hstore, hserves⟩ := henv
  cases hpermits with
  | endpoint =>
    obtain ⟨e, rfl⟩ := hworks
    exact inv_unrecorded h trivial (fun _ hs => Phase.noConfusion hs) hstore (by rw [hserves])
  | fleet =>
    obtain ⟨live, rfl, hlive⟩ := hworks
    have hnext : applyNext p .asked .fleetGet (some live) = .sending (requests p.setpoints) := by
      simp [applyNext, isReachable, hlive, requests, toSend]
    rw [hnext]
    refine inv_unrecorded h trivial (fun todo hs => ?_) hstore (by rw [hserves])
    obtain rfl := Phase.sending.inj hs
    exact sendable_requests hp
  | @send q todo e =>
    have hq := h.sendable k _ hk
    obtain ⟨hok, hids⟩ := exact_of_sendable (h.zoneIds.symm ▸ hq q List.mem_cons_self) hserves
    obtain err | resp := r
    · cases hok
    have hnext : applyNext p (.sending (q :: todo)) (.relay e q) (.ok resp) = toSend todo := by
      simp only [applyNext, show ok2xx resp.status = true from hok, if_true]
    rw [hnext]
    refine inv_unrecorded h (by cases todo <;> trivial) (fun todo' hs => ?_) hstore hids
    cases todo with
    | nil => cases hs
    | cons q' todo =>
      obtain rfl := Phase.sending.inj hs
      exact fun q hq' => hq q (List.mem_cons_of_mem _ hq')
  | previous =>
    obtain ⟨c, rfl⟩ := hworks
    exact inv_unrecorded h trivial (fun _ hs => Phase.noConfusion hs) hstore (by rw [hserves])
  | append =>
    obtain ⟨n, rfl⟩ := hworks
    exact inv_append h trivial (fun _ hs => Phase.noConfusion hs) hp hconsistent
      (by rw [hstore]; rfl) (by rw [hstore]; rfl) hserves
  | row =>
    obtain ⟨found, rfl⟩ := hworks
    have hquiet : w' = w := World.eq_of hstore hserves
    have hnot : ¬ (ph (.writer k)).unrecorded := by rw [hk]; exact id
    refine inv_recorded h hnot (fun _ hs => Phase.noConfusion hs) (by rw [hquiet]) hserves
      (fun ρ hρ => by rw [hquiet]; exact hρ) ?_
    rw [hquiet]
    rcases h.row with hlt | ⟨c, hc, ⟨hdel, hU⟩ | ⟨l, hdel, hlt, -⟩⟩
    · exact .inl hlt
    · exact .inr ⟨c, hc, .inl ⟨hdel, hU.imp_left (unrecorded_of_recorded hnot)⟩⟩
    · exact .inr ⟨c, hc, .inr ⟨l, hdel, hlt, pending_update trivial⟩⟩
  | @upsert d n ρ =>
    obtain rfl : r = .ok () := hworks
    have hnot : ¬ (ph (.writer k)).unrecorded := by rw [hk]; exact id
    have hreset : w'.store.row.failCount = 0 := by
      rw [hstore]
      cases d <;> rfl
    exact inv_recorded h hnot (fun _ hs => Phase.noConfusion hs) (by rw [hstore]; rfl) hserves
      (fun _ _ => .inr hreset) (.inl (by rw [hreset]; exact hmax))
  | broadcast =>
    have hnext : applyNext p .over (.broadcastDrift _) r = ph (.writer k) := hk.symm
    rw [hnext, Function.update_eq_self, World.eq_of hstore hserves]
    exact h

end Writer

/-! ## Over whole runs -/

/-- The store answers every `apply`. -/
def Answered {C : Type} : Pool.Condition (Thread κ) Op Resp Unit (World C) :=
  fun _ i c => ∀ k, i = .writer k → Works c.op c.resp

/-- The loop writes rows without retries back fresh. -/
def Fresh (maxRetries : Nat) (p : κ → Provenance) :
    Pool.Condition (Thread κ) Op Resp Unit (World Shown) :=
  fun q i c => i = .loop → ∀ ρ, c.op = .upsertReconState ρ →
    FreshWrite maxRetries q.world (phases maxRetries p q) ρ

/-- Two passes lead to a synced state of the current revision, and further ones stay. -/
def Converges (maxRetries : Nat) (w : World Shown) : Prop :=
  ∃ c, w.store.ledger.current = some c ∧ ∀ css w', 2 ≤ css.length →
    Run (Pass (hosting Works exact) maxRetries) w css w' → Synced w' c

theorem inv_start {maxRetries : Nat} {w : World Shown}
    (hretries : w.store.row.failCount < maxRetries)
    (hcurrent : ∀ c, w.store.ledger.current = some c → w.device.HasZones c.setpoints.zones) :
    Inv maxRetries w.device.zoneIds w (firstPhase : Thread κ → Phase) where
  zoneIds := rfl
  known c hc := hcurrent c hc
  recorded := .inl fun _ => trivial
  sendable _ _ h := Phase.noConfusion h
  loop := trivial
  row := .inl hretries

/-- Once every `apply` is over, the state settles. -/
theorem Inv.converges [Nonempty κ] {maxRetries : Nat} {ids : List String} {w : World Shown}
    {ph : Thread κ → Phase} (h : Inv maxRetries ids w ph)
    (hover : ∀ k, ph (.writer k) = .over) : Converges maxRetries w := by
  have hU : ¬ Unrecorded ph := by
    rintro ⟨k, hk⟩
    rw [hover k] at hk
    exact hk
  have hPd : ¬ Pending ph := by
    rintro ⟨k, hk⟩
    rw [hover k] at hk
    exact hk
  obtain ⟨k⟩ := ‹Nonempty κ›
  obtain ⟨c, hcurrent, hconsistent⟩ := h.recorded.resolve_left fun hall => hU ⟨k, hall k⟩
  have hretries : w.store.row.failCount < maxRetries ∨
      (w.store.IsDelivered c ∧ Matches w.device c) := by
    rcases h.row with hlt | ⟨c', hc', ⟨hdel, hmatch⟩ | ⟨_, _, _, hpending⟩⟩
    · exact .inl hlt
    · obtain rfl := Option.some.inj (hc'.symm.trans hcurrent)
      exact .inr ⟨⟨hcurrent, hdel⟩, hmatch.resolve_left hU⟩
    · exact absurd hpending hPd
  have hknown : w.device.HasZones c.setpoints.zones := fun z hz =>
    h.zoneIds ▸ h.known c hcurrent z hz
  exact ⟨c, hcurrent, fun css w' hlen hr =>
    settles ⟨hcurrent, hconsistent, hknown, hretries⟩ hlen hr⟩

section Runs

variable [DecidableEq κ] [Nonempty κ] {maxRetries n : Nat} {p : κ → Provenance}
  {w : World Shown} {es : List (Thread κ × Call Op Resp)}
  {q q' : Pool (Thread κ) Op Resp Unit (World Shown)}

/-- **The invariant holds throughout a run** whose writes are fresh. -/
theorem inv_run (hretries : w.store.row.failCount < maxRetries)
    (hcurrent : ∀ c, w.store.ledger.current = some c → w.device.HasZones c.setpoints.zones)
    (hp : ∀ k, (p k).setpoints.Consistent ∧ w.device.HasZones (p k).setpoints.zones)
    (hr : Run (Pool.StepIf (hosting Reaches exact)
      fun q i c => Answered q i c ∧ Fresh maxRetries p q i c) (start maxRetries n p w) es q) :
    Pool.Tracks (protocols maxRetries p) firstPhase finished q ∧
      Inv maxRetries w.device.zoneIds q.world (phases maxRetries p q) := by
  refine Pool.invariant (I := Inv maxRetries w.device.zoneIds) ?_ hr (tracks_start _ _ _ _)
    (inv_start hretries hcurrent)
  rintro q (_ | k) o r w' hinv hpermits ⟨hanswered, hfresh⟩ henv
  · exact ⟨trivial, inv_loop hinv (Nat.zero_lt_of_lt hretries) hpermits (hfresh rfl) henv⟩
  · exact ⟨trivial, inv_writer hinv (Nat.zero_lt_of_lt hretries) (hp k).2 (hp k).1 hpermits
      (hanswered k rfl) henv⟩

end Runs

/-! ## A greenhouse that is given up on -/

/-- The row has no retries and calls delivered what is not the current revision. -/
def Store.GivenUp (maxRetries : Nat) (s : Store) (c : SetpointRevision) : Prop :=
  s.ledger.current = some c ∧ s.row.lastDeliveredRevision ≠ some c.revision ∧
    maxRetries ≤ s.row.failCount

theorem not_converges_of_givenUp {maxRetries : Nat} {w : World Shown} {c : SetpointRevision}
    (h : w.store.GivenUp maxRetries c) : ¬ Converges maxRetries w := by
  rintro ⟨c', hc', hall⟩
  obtain rfl := Option.some.inj (hc'.symm.trans h.1)
  have hexec := fun v => Exec.of_eval
    (hosting_serve (works_serve online_ne_offline) exact_respond) (reconcileGreenhouse maxRetries) v
  have hpass : ∀ {v v' : World Shown} {cs}, v.store = w.store →
      Pass (hosting Works exact) maxRetries v cs v' → v'.store = w.store := by
    intro v v' cs hv hpass
    have hworked := (hpass.worked (hv ▸ h.1)).1
    rw [hv] at hworked
    generalize v'.store = s' at hworked ⊢
    cases hworked with
    | backedOff _ _ _ => rfl
    | reasserted _ hleft _ => exact absurd hleft (not_lt.2 h.2.2)
    | unread _ _ => rfl
    | synced hdel _ _ => exact absurd hdel h.2.1
    | corrected hdel _ _ _ _ _ => exact absurd hdel h.2.1
    | exhausted hdel _ _ _ => exact absurd hdel h.2.1
  have hsynced := hall _ _ le_rfl (.cons ⟨_, hexec w⟩ (.single ⟨_, hexec _⟩))
  have hstore := hpass (hpass rfl ⟨_, hexec w⟩) ⟨_, hexec _⟩
  exact h.2.1 (hstore ▸ hsynced.delivered.2)

/-- The loop has read the current revision and the row, or has not. -/
def LoopStuck (c : SetpointRevision) (w : World Shown) : Phase → Prop
  | .idle => True
  | .intent c' => c' = c
  | .row c' ρ | .reached c' ρ => c' = c ∧ ρ = w.store.row
  | _ => False

/-- A greenhouse given up on, with the loop about to find out. -/
structure Stuck (maxRetries : Nat) (c : SetpointRevision) (w : World Shown)
    (ph : Thread κ → Phase) : Prop where
  givenUp : w.store.GivenUp maxRetries c
  noPending : ¬ Pending ph
  loop : LoopStuck c w (ph .loop)

section Stuck

variable [DecidableEq κ] {maxRetries : Nat} {c : SetpointRevision} {w w' : World Shown}
  {ph : Thread κ → Phase}

/-- Nothing gets a greenhouse that is given up on out of that state. -/
theorem Stuck.step (h : Stuck maxRetries c w ph) {p : κ → Provenance} {i : Thread κ} {o : Op}
    {r : Resp o} (hpermits : (protocols maxRetries p i).permits (ph i) o)
    (henv : hosting Reaches exact w o r w') :
    Stuck maxRetries c w' (Function.update ph i ((protocols maxRetries p i).next (ph i) o r)) := by
  obtain ⟨hreaches, htrue, hstore, hserves⟩ := henv
  cases i with
  | writer k =>
    have hnot : ¬ (ph (.writer k)).pending := fun hk => h.noPending ⟨k, hk⟩
    generalize hk : ph (.writer k) = y at hpermits hnot
    cases hpermits with
    | broadcast =>
      have hnext : (protocols maxRetries p (.writer k)).next .over (.broadcastDrift _) r =
          ph (.writer k) := hk.symm
      rw [hnext, Function.update_eq_self, World.eq_of hstore hserves]
      exact h
    | _ => exact absurd trivial hnot
  | loop =>
    have hloop := h.loop
    change LoopPermits maxRetries (ph .loop) o at hpermits
    simp only [protocols, loopProtocol]
    generalize ph .loop = x at hpermits hloop
    have hquiet : ∀ y, w' = w → LoopStuck c w y →
        Stuck maxRetries c w' (Function.update ph .loop y) := by
      rintro y rfl hy
      exact ⟨h.givenUp, by simpa [Pending] using h.noPending,
        by rw [Function.update_self]; exact hy⟩
    cases hpermits with
    | current =>
      have hw : w' = w := World.eq_of hstore hserves
      obtain e | _ | c' := r
      · exact hquiet _ hw trivial
      · exact hquiet _ hw trivial
      · exact hquiet _ hw (Option.some.inj (htrue.trans h.givenUp.1))
    | broadcast => exact hquiet _ (World.eq_of hstore hserves) (by cases x <;> exact hloop)
    | row =>
      have hw : w' = w := World.eq_of hstore hserves
      obtain e | found := r
      · exact hquiet _ hw trivial
      · refine hquiet _ hw ⟨hloop, ?_⟩
        rw [show found = w.store.recon from htrue]
        rfl
    | endpoint =>
      have hw : w' = w := World.eq_of hstore hserves
      obtain e | _ | e := r
      · exact hquiet _ hw trivial
      · exact hquiet _ hw trivial
      · exact hquiet _ hw hloop
    | fleet =>
      obtain ⟨live, rfl, hlive⟩ := hreaches
      refine hquiet _ (World.eq_of hstore hserves) ?_
      simp only [loopNext, isReachable, hlive, ne_eq, not_false_iff, decide_true, if_true]
      exact hloop
    | getSetpoints hdel =>
      obtain ⟨rfl, rfl⟩ := hloop
      exact absurd hdel h.givenUp.2.1
    | reassert _ hleft =>
      obtain ⟨rfl, rfl⟩ := hloop
      exact absurd hleft (not_lt.2 h.givenUp.2.2)
    | _ => exact hloop.elim

/-- A stale write of a row without retries gives the greenhouse up. -/
theorem stuck_of_stale [Nonempty κ] {ids : List String} (h : Inv maxRetries ids w ph)
    {ρ : ReconState} {r : Resp (.upsertReconState ρ)} (hstale : ¬ FreshWrite maxRetries w ph ρ)
    (henv : hosting Reaches exact w (.upsertReconState ρ) r w') :
    ∃ c, Stuck maxRetries c w'
      (Function.update ph .loop (loopNext (ph .loop) (.upsertReconState ρ) r)) := by
  obtain ⟨hreaches, -, hstore, -⟩ := henv
  obtain rfl : r = .ok () := hreaches
  rw [FreshWrite, Classical.not_imp, not_or] at hstale
  obtain ⟨hback, hdel, hPd⟩ := hstale
  obtain ⟨k⟩ := ‹Nonempty κ›
  obtain ⟨c, hcurrent, -⟩ := h.recorded.resolve_left fun hall =>
    hPd ⟨k, Phase.pending_of_unrecorded (hall k)⟩
  refine ⟨c, ⟨?_, ?_, ?_⟩, by simpa [Pending] using hPd, ?_⟩
  · rw [hstore]
    exact hcurrent
  · rw [hstore]
    rw [hcurrent] at hdel
    exact hdel
  · rw [hstore]
    exact hback
  · rw [Function.update_self]
    cases ph .loop <;> trivial

end Stuck

/-! ## The runs that converge -/

section Main

variable [DecidableEq κ] [Nonempty κ] {maxRetries n : Nat} {p : κ → Provenance}
  {w : World Shown} {es : List (Thread κ × Call Op Resp)}
  {q : Pool (Thread κ) Op Resp Unit (World Shown)}

/-- **Apply and the passes converge exactly when the stale rows keep retries.** From a row with
retries left, with an exact controller that has the zones of the bundles, in any interleaving
of the loop with the `apply` calls: once these have returned, two passes lead to a synced state
if and only if every row without retries that the loop wrote was fresh. -/
theorem converges_iff (hretries : w.store.row.failCount < maxRetries)
    (hcurrent : ∀ c, w.store.ledger.current = some c → w.device.HasZones c.setpoints.zones)
    (hp : ∀ k, (p k).setpoints.Consistent ∧ w.device.HasZones (p k).setpoints.zones)
    (hr : Run (Pool.StepIf (hosting Reaches exact) Answered) (start maxRetries n p w) es q)
    (hreturned : ∀ k, ∃ a, q.left (.writer k) = .ret a) :
    Converges maxRetries q.world ↔
      Run (Pool.StepIf (hosting Reaches exact)
        fun q i c => Answered q i c ∧ Fresh maxRetries p q i c) (start maxRetries n p w) es q := by
  constructor
  · intro hconverges
    rcases Run.meets_or_breaks (B := fun q e => Fresh maxRetries p q e.1 e.2) hr with
      hmeets | ⟨es₁, ⟨i, x⟩, es₂, t, u, hmeets, ⟨hstep, -⟩, hbreaks, hrest⟩
    · exact hmeets
    exfalso
    obtain ⟨htracks, hinv⟩ := inv_run hretries hcurrent hp hmeets
    obtain ⟨rfl, ρ, hop, hstale⟩ : i = .loop ∧ ∃ ρ, x.op = .upsertReconState ρ ∧
        ¬ FreshWrite maxRetries t.world (phases maxRetries p t) ρ := by
      simpa [Fresh] using hbreaks
    obtain ⟨_, hleft, henv⟩ := hstep
    obtain rfl := hop
    obtain ⟨c, hstuck⟩ := stuck_of_stale hinv hstale henv
    obtain ⟨-, hstuck⟩ := Pool.invariant (I := Stuck maxRetries c)
      (fun _ _ _ _ _ hI hpermits _ henv => ⟨by cases ‹Thread κ› <;> trivial, hI.step hpermits henv⟩)
      hrest (htracks.advance hleft trivial) (by rw [Pool.states_advance]; exact hstuck)
    exact not_converges_of_givenUp hstuck.givenUp hconverges
  · intro hfresh
    obtain ⟨htracks, hinv⟩ := inv_run hretries hcurrent hp hfresh
    refine hinv.converges fun k => ?_
    obtain ⟨a, hleft⟩ := hreturned k
    have hover := htracks (.writer k)
    rw [hleft] at hover
    exact hover

end Main

end

/-! ## Sample runs -/

/-- An edit of the day temperature. -/
def warmer : Provenance := edit { benchBundle with temperatureDayC := 26 }

/-- The bench under an exact controller, after some failed corrections. -/
def benchWorld (failCount : Nat) : World Shown :=
  ⟨benchStore.write { benchStore.row with failCount }, shownBench⟩

/-- A pass of the loop and an `apply` over the bench. -/
def benchStart (failCount : Nat) : Pool (Thread Unit) Op Resp Unit (World Shown) :=
  start 5 1 (fun _ => warmer) (benchWorld failCount)

/-- The `apply` delivers its bundle while the loop is about to compare; the loop takes it for
drift and delivers the old one; the `apply` records its revision; the loop writes its row. -/
def overlap : List (Thread Unit) :=
  List.replicate 4 .loop ++ List.replicate 4 (.writer ()) ++ List.replicate 4 .loop ++
    List.replicate 3 (.writer ()) ++ List.replicate 2 .loop

theorem stepIf_of_works {κ C : Type} [DecidableEq κ] {D : Device C}
    {q q' : Pool (Thread κ) Op Resp Unit (World C)} {e : Thread κ × Call Op Resp}
    (h : Pool.Step (hosting Works D) q e q') :
    Pool.StepIf (hosting Reaches D) Answered q e q' := by
  obtain ⟨i, hleft, hanswers, henv⟩ := h
  exact ⟨.mk i hleft ⟨reaches_of_works hanswers, henv⟩, fun _ _ => hanswers⟩

/-- The run of the overlap. -/
theorem overlap_run {failCount : Nat} {es : List (Thread Unit × Call Op Resp)}
    {q : Pool (Thread Unit) Op Resp Unit (World Shown)}
    (h : Pool.schedule (serve .online respond) overlap (benchStart failCount) = some (es, q)) :
    Run (Pool.StepIf (hosting Reaches exact) Answered) (benchStart failCount) es q :=
  (Pool.run_of_schedule (hosting_serve (works_serve online_ne_offline) exact_respond) h).mono
    fun _ _ _ => stepIf_of_works

/-- Every row that the loop writes in an event has retries left. -/
def keepsRetries : Thread Unit × Call Op Resp → Bool
  | (.loop, ⟨.upsertReconState ρ, _⟩) => ρ.failCount < 5
  | _ => true

theorem fresh_of_keepsRetries {p : Unit → Provenance}
    {q : Pool (Thread Unit) Op Resp Unit (World Shown)} {e : Thread Unit × Call Op Resp}
    (h : keepsRetries e = true) : Fresh 5 p q e.1 e.2 := by
  obtain ⟨i, o, r⟩ := e
  rintro rfl ρ rfl hback
  have hleft : ρ.failCount < 5 := by simpa [keepsRetries] using h
  exact absurd hleft (not_lt.2 hback)

/-- With retries to spare the overlap converges. -/
theorem converges_iff_overlap : ∃ es q,
    Run (Pool.StepIf (hosting Reaches exact) Answered) (benchStart 0) es q ∧
    Converges 5 q.world := by
  have hsample : (Pool.schedule (serve .online respond) overlap (benchStart 0)).any
      (fun x => x.1.all keepsRetries && (x.2.left (.writer ())).returned?.isSome) = true := by
    decide +kernel
  obtain ⟨⟨es, q⟩, hschedule, hboth⟩ := Option.any_eq_true _ _ |>.1 hsample
  obtain ⟨hkeeps, hreturned⟩ := Bool.and_eq_true_iff.1 hboth
  obtain ⟨a, hleft⟩ := Option.isSome_iff_exists.1 hreturned
  have hr := overlap_run hschedule
  refine ⟨es, q, hr, (converges_iff (by decide) ?_ ?_ hr ?_).2 ?_⟩
  · rintro c ⟨⟩
    decide
  · exact fun _ => ⟨Setpoints.consistent_of_distinct (by decide), by decide⟩
  · exact fun _ => ⟨a, Prog.eq_ret_of_returned hleft⟩
  · have hfresh := hr.meeting_of_forall (P := fun e => keepsRetries e = true)
      (C := fun q e => Fresh 5 (fun _ => warmer) q e.1 e.2)
      (fun _ _ => fresh_of_keepsRetries) (List.all_eq_true.1 hkeeps)
    exact hfresh.mono fun _ _ _ h => ⟨h.1.1, h.1.2, h.2⟩

/-- The loop's last attempt overlaps the `apply`: its stale row undoes the one just recorded,
and the greenhouse is given up on with the old bundle at its controller. -/
theorem stale_exhausted :
    (benchWorld 4).store.row.failCount < 5 ∧ (benchWorld 4).device.HasZones benchBundle.zones ∧
    warmer.setpoints.Consistent ∧ ∃ es q,
      Run (Pool.StepIf (hosting Reaches exact) Answered) (benchStart 4) es q ∧
      (∀ i, ∃ a, q.left i = .ret a) ∧ ¬ Converges 5 q.world := by
  have hsample : (Pool.schedule (serve .online respond) overlap (benchStart 4)).any
      (fun x => (x.2.left .loop).returned?.isSome && (x.2.left (.writer ())).returned?.isSome &&
        decide (x.2.world.store.ledger.current = some { warmer with revision := 2 } ∧
          x.2.world.store.row.lastDeliveredRevision ≠ some 2 ∧
          5 ≤ x.2.world.store.row.failCount)) = true := by
    decide +kernel
  obtain ⟨⟨es, q⟩, hschedule, hboth⟩ := Option.any_eq_true _ _ |>.1 hsample
  simp only [Bool.and_eq_true, decide_eq_true_eq] at hboth
  obtain ⟨⟨hloop, hwriter⟩, hgivenUp⟩ := hboth
  obtain ⟨a, hloop⟩ := Option.isSome_iff_exists.1 hloop
  obtain ⟨b, hwriter⟩ := Option.isSome_iff_exists.1 hwriter
  refine ⟨by decide, by decide, Setpoints.consistent_of_distinct (by decide), es, q,
    overlap_run hschedule, ?_, not_converges_of_givenUp hgivenUp⟩
  rintro (_ | _)
  · exact ⟨a, Prog.eq_ret_of_returned hloop⟩
  · exact ⟨b, Prog.eq_ret_of_returned hwriter⟩

end Greenhouse.Platform
