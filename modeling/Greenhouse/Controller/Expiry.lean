import Greenhouse.Controller.Bench
import Greenhouse.Controller.Session
import Greenhouse.Controller.Telemetry

/-!
# When an override expires

An override is reported in two places: in the retained frame with the system state and in the
listing of the REST surface. Its deadline counts ticks; both turn it into the text of an instant,
the frame from the fixed epoch and the listing from the instant at which the clock was started.

* `reportedOverrides`, `overrideListing`: what the two places say.
* `Session.lapsesAt`: the deadline is the first tick on which the override no longer applies.
* `expiry_told_iff`: **the two agree exactly when the clock starts from the epoch.**
-/

namespace Greenhouse.Controller

open Greenhouse.Numeric Greenhouse.Contract Greenhouse.Process Std

/-! ## The two reports -/

/-- The midnight the simulated clock counts from, and the second of the day it starts at. -/
def simClockStart : Option Int → Int × Nat
  | some start =>
    let midnight := start - start % Clock.daySecs
    (midnight, (start - midnight).toNat)
  | none => (epoch, 0)

/-- An override of the REST listing. -/
structure OverrideDto where
  actuator : String
  zoneId : Option String
  state : OutputState
  createdAt : String
  expiresAt : Option String

def overrideDto [Rfc3339] (base : Int) (offset : Nat) (id : ActuatorId) (ov : Override) :
    OverrideDto where
  actuator := (overrideAddress id).1.wireName
  zoneId := (overrideAddress id).2
  state := OutputState.new (overrideAddress id).1 ov.level
  createdAt := ts base (offset + ov.createdAtTick)
  expiresAt := some (ts base (offset + ov.expiresAtTick))

/-- The overrides of the view, which `GET` lists. -/
def overrideListing [Rfc3339] (base : Int) (snapshot : Snapshot) : List OverrideDto :=
  let offset := snapshot.simSeconds - snapshot.tickIndex
  snapshot.overrides.toList.map fun p => overrideDto base offset p.1 p.2

/-- What either place says of the deadline of an override. -/
structure ExpiryReport where
  actuator : String
  zoneId : Option String
  expiresAt : Option String
  deriving DecidableEq

def OverrideDto.report (dto : OverrideDto) : ExpiryReport :=
  ⟨dto.actuator, dto.zoneId, dto.expiresAt⟩

/-- The report in an entry of the frame. -/
def ExpiryReport.decode (entry : Document) : Option ExpiryReport := do
  let members ← entry.members?
  return {
    actuator := ← (Document.member members "actuator").text
    zoneId := ← Document.optional Document.text (Document.member members "zone_id")
    expiresAt := ← Document.optional Document.text (Document.member members "expires_at") }

/-- The overrides that a frame with the system state reports. -/
def reportedOverrides (payload : Document) : Option (List ExpiryReport) := do
  let members ← payload.members?
  Document.list ExpiryReport.decode (Document.member members "overrides")

/-- The report of an override whose deadline is told from `base`. -/
def expiryReport [Rfc3339] (base : Int) (offset : Nat) (id : ActuatorId) (ov : Override) :
    ExpiryReport where
  actuator := (overrideAddress id).1.wireName
  zoneId := (overrideAddress id).2
  expiresAt := some (ts base (offset + ov.expiresAtTick))

section Reports

variable [Rfc3339] (snapshot : Snapshot)

/-- The reports of a snapshot, told from `base`. -/
def expiryReports (base : Int) : List ExpiryReport :=
  snapshot.overrides.toList.map fun p =>
    expiryReport base (snapshot.simSeconds - snapshot.tickIndex) p.1 p.2

/-- **The listing tells the deadlines from the base.** -/
theorem report_overrideListing (base : Int) :
    (overrideListing base snapshot).map OverrideDto.report = expiryReports snapshot base :=
  List.map_map

/-- **The frame tells the deadlines from the epoch.** -/
theorem reportedOverrides_stateFrame (greenhouseId time : String) (timeScale : F64) :
    reportedOverrides (stateFrame snapshot greenhouseId time timeScale).payload =
      some (expiryReports snapshot epoch) := by
  refine Document.list_map fun p _ => ?_
  obtain ⟨id, ov⟩ := p
  cases id <;> rfl

end Reports

/-! ## The deadline -/

section Deadline

variable {H : Type} {r r' : Session H} {id : ActuatorId} {ov : Override}

/-- The event sets or clears the override of an actuator. -/
def Event.writes (id : ActuatorId) : Event H → Prop
  | .setOverride i _ _ _ => i = id
  | .clearOverride i => i = id
  | _ => False

/-- From here on, and as long as nothing is written for its actuator, the override applies on the
ticks before `n` and on no others. -/
def Session.LapsesAt [Libm] [Hal H] (r : Session H) (id : ActuatorId) (ov : Override) (n : Nat) :
    Prop :=
  ∀ {es : List (Event H)} {r' : Session H} {p : Pipeline H} {snap : Snapshot},
    Run Session.Step r es r' → (∀ e ∈ es, ¬ e.writes id) → r'.pipeline.tick = some (p, snap) →
      (snap.overrides[id]? = some ov ↔ snap.tickIndex < n)

/-- The override is active, or has lapsed. -/
def Session.Holding (id : ActuatorId) (ov : Override) (r : Session H) : Prop :=
  r.pipeline.overrides.active[id]? = some ov ∨
    r.pipeline.overrides.active[id]? = none ∧ ov.expiresAtTick ≤ r.pipeline.clock.tickIndex

theorem OverrideState.getElem?_expire (s : OverrideState) (clock : Clock) (id : ActuatorId) :
    (s.expire clock).active[id]? =
      (s.active[id]?).filter fun ov => clock.tickIndex < ov.expiresAtTick :=
  TreeMap.getElem?_filter'

/-- What is active on a tick. -/
theorem Session.Holding.tick (h : r.Holding id ov) :
    (r.pipeline.overrides.expire r.pipeline.clock).active[id]? =
      if r.pipeline.clock.tickIndex < ov.expiresAtTick then some ov else none := by
  rw [OverrideState.getElem?_expire]
  rcases h with hactive | ⟨hnone, hlapsed⟩
  · rw [hactive, Option.filter_some]
    simp only [decide_eq_true_eq]
  · rw [hnone, if_neg (Nat.not_lt.2 hlapsed)]
    rfl

variable [Libm] [Hal H]

/-- Between ticks an override changes by the writes for its actuator only. -/
theorem Session.active_step {e : Event H} (hstep : Session.Step r e r') (hwrites : ¬ e.writes id)
    (htick : e.isTick = false) :
    r'.pipeline.overrides.active[id]? = r.pipeline.overrides.active[id]? := by
  cases e with
  | tick => cases htick
  | setOverride i level hlevel ttl =>
    cases hstep
    have hne : compare i id ≠ .eq := fun heq => hwrites (LawfulEqOrd.eq_of_compare heq)
    rw [Pipeline.setOverride, OverrideState.set, TreeMap.getElem?_insert, if_neg hne]
  | clearOverride i =>
    cases hstep
    have hne : compare i id ≠ .eq := fun heq => hwrites (LawfulEqOrd.eq_of_compare heq)
    rw [Pipeline.clearOverride, OverrideState.clear, TreeMap.getElem?_erase, if_neg hne]
  | _ =>
    cases hstep
    rfl

/-- The clock moves on ticks only. -/
theorem Session.clock_step {e : Event H} (hstep : Session.Step r e r') :
    r'.pipeline.clock = if e.isTick then r.pipeline.clock.advance else r.pipeline.clock := by
  cases e with
  | tick =>
    obtain ⟨⟨p, snap⟩, ht, rfl⟩ := Option.map_eq_some_iff.1 hstep
    obtain ⟨loops, hticked⟩ := Pipeline.tick_cases ht
    exact hticked.clock
  | _ =>
    cases hstep
    rfl

theorem Session.Holding.step {e : Event H} (h : r.Holding id ov) (hstep : Session.Step r e r')
    (hwrites : ¬ e.writes id) : r'.Holding id ov := by
  cases htick : e.isTick with
  | false =>
    rw [Holding, active_step hstep hwrites htick, clock_step hstep, htick]
    exact h
  | true =>
    cases e with
    | tick =>
      obtain ⟨⟨p, snap⟩, ht, rfl⟩ := Option.map_eq_some_iff.1 hstep
      obtain ⟨loops, hticked⟩ := Pipeline.tick_cases ht
      rw [Holding, hticked.overrides, hticked.clock, h.tick]
      by_cases hlapsed : r.pipeline.clock.tickIndex < ov.expiresAtTick
      · rw [if_pos hlapsed]
        exact .inl rfl
      · rw [if_neg hlapsed]
        exact .inr ⟨rfl, (Nat.not_lt.1 hlapsed).trans (Nat.le_succ _)⟩
    | _ => cases htick

theorem Session.Holding.lapsesAt (h : r.Holding id ov) : r.LapsesAt id ov ov.expiresAtTick := by
  intro es r' p snap hr hwrites ht
  have hmeeting := hr.meeting_of_forall (C := fun _ e => ¬ e.writes id) (fun _ _ he => he) hwrites
  have hkeep : ∀ (s : Session H) (e : Event H) (s' : Session H), s.Holding id ov →
      Session.Step s e s' → ¬ e.writes id → s'.Holding id ov := fun _ _ _ h hstep => h.step hstep
  have hholding := hmeeting.invariant_of_meeting hkeep h
  obtain ⟨loops, hadvanced⟩ := Pipeline.tick_advanced ht
  rw [hadvanced.active, hholding.tick, hadvanced.tickIndex]
  split <;> simp [*]

/-- The clock has counted as many seconds as ticks from its start. -/
theorem Session.clock_run {cfg : Config} {hal : H} {offset : Nat} {es : List (Event H)}
    (hr : Run Session.Step (Session.start cfg hal (Clock.startingAtSeconds offset)) es r) :
    r.pipeline.clock.simSeconds = offset + r.pipeline.clock.tickIndex := by
  refine hr.invariant (I := fun r => r.pipeline.clock.simSeconds =
    offset + r.pipeline.clock.tickIndex) ?_ rfl
  intro r e r' hclock hstep
  rw [clock_step hstep]
  split
  · rw [Clock.advance, hclock, dtSecs, Nat.add_assoc]
  · exact hclock

/-- Reports of the overrides of a snapshot, each with the instant of the first tick on which the
override no longer applies. -/
def TellsExpiry [Rfc3339] (base : Int) (offset : Nat) (r : Session H) (snapshot : Snapshot)
    (reports : List ExpiryReport) : Prop :=
  List.Forall₂ (fun (x : ActuatorId × Override) report => ∃ n, r.LapsesAt x.1 x.2 n ∧
    report.actuator = (overrideAddress x.1).1.wireName ∧ report.zoneId = (overrideAddress x.1).2 ∧
      report.expiresAt = some (ts base (offset + n))) snapshot.overrides.toList reports

theorem tellsExpiry_expiryReports [Rfc3339] {base : Int} {offset : Nat} {p : Pipeline H}
    {snap : Snapshot} (ht : r.pipeline.tick = some (p, snap))
    (hoffset : snap.simSeconds - snap.tickIndex = offset) :
    TellsExpiry base offset ⟨p, some snap⟩ snap (expiryReports snap base) := by
  obtain ⟨loops, hadvanced⟩ := Pipeline.tick_advanced ht
  rw [TellsExpiry, expiryReports, List.forall₂_map_right_iff, List.forall₂_same]
  rintro ⟨id, ov⟩ hmem
  have hactive : p.overrides.active[id]? = some ov := by
    rw [hadvanced.overrides, ← hadvanced.active]
    exact TreeMap.mem_toList_iff_getElem?_eq_some.1 hmem
  have hholding : Session.Holding id ov ⟨p, some snap⟩ := .inl hactive
  refine ⟨ov.expiresAtTick, hholding.lapsesAt, rfl, rfl, ?_⟩
  rw [hoffset]
  rfl

/-- **The frame and the listing agree on when an override expires, and tell the first tick on
which it no longer applies, exactly when the clock starts from the epoch** or nothing is
overridden. -/
theorem expiry_told_iff [Rfc3339] (cfg : Config) (hal : H) (base : Int) (offset : Nat)
    {es : List (Event H)} {p : Pipeline H} {snap : Snapshot}
    (hr : Run Session.Step (Session.start cfg hal (Clock.startingAtSeconds offset)) es r)
    (ht : r.pipeline.tick = some (p, snap)) (greenhouseId : String) (timeScale : F64)
    (hexact : ∀ (id : ActuatorId) (ov : Override), snap.overrides[id]? = some ov →
      Rfc3339.Exact (epoch + (offset + ov.expiresAtTick : Nat)) ∧
        Rfc3339.Exact (base + (offset + ov.expiresAtTick : Nat))) :
    (∃ reports, reportedOverrides
        (stateFrame snap greenhouseId (ts base snap.simSeconds) timeScale).payload = some reports ∧
      reports = (overrideListing base snap).map OverrideDto.report ∧
      TellsExpiry base offset ⟨p, some snap⟩ snap reports) ↔
    base = epoch ∨ snap.overrides.toList = [] := by
  have hoffset : snap.simSeconds - snap.tickIndex = offset := by
    obtain ⟨loops, hadvanced⟩ := Pipeline.tick_advanced ht
    rw [hadvanced.simSeconds, hadvanced.tickIndex, Session.clock_run hr, Nat.add_sub_cancel]
  rw [report_overrideListing, reportedOverrides_stateFrame]
  constructor
  · rintro ⟨reports, hframe, rfl, -⟩
    have hsame : expiryReports snap epoch = expiryReports snap base := Option.some.inj hframe
    cases hlist : snap.overrides.toList with
    | nil => exact .inr rfl
    | cons x xs =>
      obtain ⟨hepoch, hbase⟩ := hexact x.1 x.2 (TreeMap.mem_toList_iff_getElem?_eq_some.1 (by
        rw [hlist]
        exact List.mem_cons_self))
      rw [expiryReports, expiryReports, hlist, hoffset] at hsame
      have htext := congrArg ExpiryReport.expiresAt (List.cons.inj hsame).1
      have htext : ts epoch (offset + x.2.expiresAtTick) = ts base (offset + x.2.expiresAtTick) :=
        Option.some.inj htext
      have hinstant : epoch + (offset + x.2.expiresAtTick : Nat) =
          base + (offset + x.2.expiresAtTick : Nat) := by
        rw [ts, ts] at htext
        rw [Rfc3339.Exact, htext, hbase] at hepoch
        exact (Option.some.inj hepoch).symm
      exact .inl (by omega)
  · rintro (rfl | hnone)
    · exact ⟨_, rfl, rfl, tellsExpiry_expiryReports ht hoffset⟩
    · have hnil (b : Int) : expiryReports snap b = [] := by
        rw [expiryReports, hnone]
        rfl
      refine ⟨[], by rw [hnil], (hnil base).symm, ?_⟩
      rw [TellsExpiry, hnone]
      exact .nil

end Deadline

/-! ## On the bench -/

section Bench

attribute [local instance] Bench.firstOrder Bench.gregorian

/-- The heater of the bench is overridden for ten minutes, and there is a tick. -/
def heaterEvents : List (Event Bench.Plant) :=
  [.setOverride (.house .heater) 100 F64.isPct_hundred 600]

/-- The bench, with a clock that starts at a second of the day. -/
def clockedHouse (offset : Nat) : Session Bench.Plant :=
  Session.start (Bench.config {}) { readings := Bench.readings [20, 20, 20] 420 }
    (Clock.startingAtSeconds offset)

/-- What the frame and the listing say on the next tick. -/
def expiriesTold (base : Int) (snap : Snapshot) : Option (List ExpiryReport) × List ExpiryReport :=
  (reportedOverrides (stateFrame snap "gh-a" (ts base snap.simSeconds) 1).payload,
    (overrideListing base snap).map OverrideDto.report)

/-- The texts of the deadlines read back. -/
def expiriesExact (base : Int) (offset : Nat) (snap : Snapshot) : Bool :=
  snap.overrides.toList.all fun x =>
    decide (Rfc3339.Exact (epoch + (offset + x.2.expiresAtTick : Nat)) ∧
      Rfc3339.Exact (base + (offset + x.2.expiresAtTick : Nat)))

/-- **A clock that starts from the epoch** tells the same deadline twice. -/
theorem expiry_told_epoch : ∃ (r : Session Bench.Plant) (p : Pipeline Bench.Plant)
    (snap : Snapshot) (reports : List ExpiryReport),
    Run Session.Step (clockedHouse 0) heaterEvents r ∧ r.pipeline.tick = some (p, snap) ∧
      reportedOverrides (stateFrame snap "gh-a" (ts epoch snap.simSeconds) 1).payload =
        some reports ∧ reports.map ExpiryReport.expiresAt = [some "2026-01-01T00:10:00.000Z"] ∧
      TellsExpiry epoch 0 ⟨p, some snap⟩ snap reports := by
  have hrun : ((heaterEvents.foldlM Session.step? (clockedHouse 0)).bind fun r =>
      r.pipeline.tick.map fun t => (expiriesExact epoch 0 t.2,
        (expiriesTold epoch t.2).2.map ExpiryReport.expiresAt)) =
      some (true, [some "2026-01-01T00:10:00.000Z"]) := by
    decide +kernel
  obtain ⟨r, hr, h⟩ := Option.bind_eq_some_iff.1 hrun
  obtain ⟨⟨p, snap⟩, ht, h⟩ := Option.map_eq_some_iff.1 h
  obtain ⟨hexact, htexts⟩ := Prod.mk.inj h
  have hr : Run Session.Step (clockedHouse 0) heaterEvents r := Run.of_foldlM hr
  have htold := (expiry_told_iff (Bench.config {}) _ epoch 0 hr ht "gh-a" 1 fun id ov hov => by
    have hmem := TreeMap.mem_toList_iff_getElem?_eq_some.2 hov
    exact of_decide_eq_true (List.all_eq_true.1 hexact (id, ov) hmem)).2 (.inl rfl)
  obtain ⟨reports, hframe, rfl, htells⟩ := htold
  exact ⟨r, p, snap, _, hr, ht, hframe, htexts, htells⟩

/-- **Two deadlines for one override**, if the clock starts on another day. -/
theorem expiry_told_twice : simClockStart (some 1783605600) = (1783555200, 50400) ∧
    ∃ (r : Session Bench.Plant) (p : Pipeline Bench.Plant) (snap : Snapshot),
      Run Session.Step (clockedHouse 50400) heaterEvents r ∧ r.pipeline.tick = some (p, snap) ∧
        expiriesTold 1783555200 snap =
          (some [⟨"heater", none, some "2026-01-01T14:10:00.000Z"⟩],
            [⟨"heater", none, some "2026-07-09T14:10:00.000Z"⟩]) := by
  have hrun : ((heaterEvents.foldlM Session.step? (clockedHouse 50400)).bind fun r =>
      r.pipeline.tick.map fun t => expiriesTold 1783555200 t.2) =
      some (some [⟨"heater", none, some "2026-01-01T14:10:00.000Z"⟩],
        [⟨"heater", none, some "2026-07-09T14:10:00.000Z"⟩]) := by
    decide +kernel
  obtain ⟨r, hr, h⟩ := Option.bind_eq_some_iff.1 hrun
  obtain ⟨⟨p, snap⟩, ht, h⟩ := Option.map_eq_some_iff.1 h
  exact ⟨by decide, r, p, snap, Run.of_foldlM hr, ht, h⟩

end Bench

end Greenhouse.Controller
