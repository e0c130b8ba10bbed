import Greenhouse.Controller.Bench
import Greenhouse.Controller.FaultSources
import Greenhouse.Controller.Session
import Greenhouse.Controller.Telemetry

/-!
# Which zone a valve fault is attributed to

Two encoders report a zone as faulted, the system state and the REST view. Both look for a fault
that names the zone; the fault of a stuck valve names none.

* `stateFaulted_iff`, `viewFaulted_iff`: when each encoder reports a zone.
* `Pipeline.Advanced.attributed_iff`: a tick attributes the faults of its valves exactly when each
  stuck valve has another fault in its zone and the readings are those of the configured zones.
* `Pipeline.attributable_iff_of_covered`: the condition where every configured zone is read.
* `Session.attributes_run_iff`: the runs that attribute them throughout.
-/

namespace Greenhouse.Controller

open Greenhouse.Numeric Greenhouse.Contract Greenhouse.Process Std

/-! ## The two encoders -/

/-- Some fault of the list is scoped to the zone. -/
def Scoped (faults : List Fault) (z : Slug) : Prop := ∃ f ∈ faults, f.zoneId = some z

instance (faults : List Fault) (z : Slug) : Decidable (Scoped faults z) :=
  inferInstanceAs (Decidable (∃ f ∈ faults, f.zoneId = some z))

/-- The system state reports the zone as faulted. -/
def StateFaulted (state : Document) (z : Slug) : Prop :=
  ∃ members zones entry, state = .object members ∧
    Document.member members "zones" = .array zones ∧ .object entry ∈ zones ∧
    Document.member entry "zone_id" = .string z.asStr ∧
    Document.member entry "faulted" = .bool true

/-- The view reports the zone as faulted. -/
def ViewFaulted (view : RuntimeView) (z : Slug) : Prop :=
  ∃ status ∈ view.zones, status.zoneId = z.asStr ∧ status.faulted = true

theorem any_scoped (faults : List Fault) (z : Slug) :
    faults.any (·.zoneId == some z) = true ↔ Scoped faults z := by
  simp only [List.any_eq_true, beq_iff_eq, Scoped]

/-- The system state reports the zones it has a channel for. -/
theorem stateFaulted_iff [Rfc3339] {snap : Snapshot} {gh ts : String} {timeScale : F64} {z : Slug} :
    StateFaulted (systemState snap gh ts timeScale) z ↔
      ∃ reading, snap.trusted.soilMoisture[z]? = some reading ∧
        (reading = none ∨ Scoped snap.faults z) := by
  have hflag : ∀ (zone : Slug) (reading : Option F64),
      (reading.isNone || snap.faults.any (·.zoneId == some zone)) = true ↔
        reading = none ∨ Scoped snap.faults zone := by
    intro zone reading
    rw [Bool.or_eq_true, Option.isNone_iff_eq_none, any_scoped]
  constructor
  · rintro ⟨members, zones, entry, hstate, hzones, hentry, hid, hfaulted⟩
    cases hstate
    cases hzones
    obtain ⟨⟨zone, reading⟩, hmem, heq⟩ := List.mem_map.1 hentry
    cases heq
    have hzone : zone = z := Slug.ext (Document.string.inj hid)
    have hflagged := (hflag zone reading).1 (Document.bool.inj hfaulted)
    rw [hzone] at hmem hflagged
    exact ⟨reading, TreeMap.mem_toList_iff_getElem?_eq_some.1 hmem, hflagged⟩
  · rintro ⟨reading, hget, hflagged⟩
    have hmem := TreeMap.mem_toList_iff_getElem?_eq_some.2 hget
    refine ⟨_, _, _, rfl, rfl, List.mem_map.2 ⟨(z, reading), hmem, rfl⟩, rfl, ?_⟩
    exact congrArg Document.bool ((hflag z reading).2 hflagged)

/-- The view reports the zones of the configuration. -/
theorem viewFaulted_iff {H : Type} {p : Pipeline H} {snap : Snapshot} {z : Slug} :
    ViewFaulted (buildView p snap) z ↔ z ∈ p.config.zones.map (·.id) ∧
      ((snap.trusted.soilMoisture[z]?).join = none ∨ Scoped snap.faults z) := by
  have hflag : ∀ zone : Zone, (zoneStatus snap zone).faulted = true ↔
      (snap.trusted.soilMoisture[zone.id]?).join = none ∨ Scoped snap.faults zone.id := by
    intro zone
    rw [← any_scoped, ← Option.isNone_iff_eq_none]
    exact Bool.or_eq_true_iff
  constructor
  · rintro ⟨status, hstatus, hid, hfaulted⟩
    obtain ⟨zone, hzone, rfl⟩ := List.mem_map.1 hstatus
    obtain rfl : zone.id = z := Slug.ext hid
    exact ⟨List.mem_map_of_mem hzone, (hflag zone).1 hfaulted⟩
  · rintro ⟨hz, hfaulted⟩
    obtain ⟨zone, hzone, rfl⟩ := List.mem_map.1 hz
    exact ⟨zoneStatus snap zone, List.mem_map_of_mem hzone, rfl, (hflag zone).2 hfaulted⟩

/-! ## One tick -/

/-- The faults of the valves are attributed: a disabled valve has a fault in its zone, which both
encoders report; they report a zone only with a reason, and they agree. -/
structure Attributed (disabled : TreeSet ActuatorId) (snap : Snapshot) (view : RuntimeView)
    (state : Document) : Prop where
  named : ∀ z, .valve z ∈ disabled →
    Scoped snap.faults z ∧ StateFaulted state z ∧ ViewFaulted view z
  reason : ∀ z, StateFaulted state z ∨ ViewFaulted view z →
    (snap.trusted.soilMoisture[z]?).join = none ∨ Scoped snap.faults z
  agree : ∀ z, StateFaulted state z ↔ ViewFaulted view z

namespace Pipeline

variable {H : Type} [Libm] [Hal H]

/-- The coming tick has a reason other than a stuck valve to report the zone: its soil moisture is
not trusted, or its valve is flat. -/
def Reported (p : Pipeline H) (z : Slug) : Prop :=
  p.trusted.soilMoisture[z]? = some none ∨ p.flatValve z

/-- The condition for the coming tick: a valve that is stuck is of a zone that is reported anyway,
every configured zone has a reading, and the zones reported are configured. -/
structure Attributable (p : Pipeline H) : Prop where
  stuck : ∀ z, .valve z ∈ p.stuckIds → p.Reported z
  read : ∀ z ∈ p.config.zones.map (·.id), z ∈ p.trusted.soilMoisture
  configured : ∀ z, p.Reported z → z ∈ p.config.zones.map (·.id)

/-- A zone that is reported has a channel. -/
theorem Reported.exists_reading {p : Pipeline H} {z : Slug} (h : p.Reported z) :
    ∃ reading, p.trusted.soilMoisture[z]? = some reading := by
  rcases h with hnone | hflat
  · exact ⟨none, hnone⟩
  · obtain ⟨prev, -, soil, hsoil, -⟩ := hflat
    exact ⟨soil, hsoil⟩

/-- With a reading for each configured zone and for no other, only stuck valves are in the way. -/
theorem attributable_iff_of_covered {p : Pipeline H}
    (h : ∀ z, z ∈ p.trusted.soilMoisture ↔ z ∈ p.config.zones.map (·.id)) :
    p.Attributable ↔ ∀ z, .valve z ∈ p.stuckIds → p.Reported z := by
  constructor
  · intro hcond
    exact hcond.stuck
  · intro hstuck
    refine ⟨hstuck, fun z hz => (h z).2 hz, fun z hz => (h z).1 ?_⟩
    obtain ⟨reading, hget⟩ := hz.exists_reading
    rw [TreeMap.mem_iff_isSome_getElem?, hget]
    rfl

namespace Advanced

variable {p p' : Pipeline H} {snap : Snapshot} {loops : ControlOutput}

theorem scoped_iff (h : Advanced p p' snap loops) (z : Slug) :
    Scoped snap.faults z ↔ p.Reported z := by
  have hzone := h.zone_fault_iff z
  rw [h.trusted] at hzone
  exact hzone

/-- The system state reports the zones that have a reason other than a stuck valve. -/
theorem stateFaulted_iff [Rfc3339] (h : Advanced p p' snap loops) (gh ts : String)
    (timeScale : F64) (z : Slug) :
    StateFaulted (systemState snap gh ts timeScale) z ↔ p.Reported z := by
  rw [Controller.stateFaulted_iff, h.trusted]
  constructor
  · intro hreading
    obtain ⟨reading, hget, rfl | hfault⟩ := hreading
    · exact Or.inl hget
    · exact (h.scoped_iff z).1 hfault
  · intro hreported
    obtain ⟨reading, hget⟩ := hreported.exists_reading
    exact ⟨reading, hget, Or.inr ((h.scoped_iff z).2 hreported)⟩

/-- The view reports those of them that are configured, and the configured zones without a
reading. -/
theorem viewFaulted_iff (h : Advanced p p' snap loops) (z : Slug) :
    ViewFaulted (buildView p' snap) z ↔ z ∈ p.config.zones.map (·.id) ∧
      (z ∉ p.trusted.soilMoisture ∨ p.Reported z) := by
  rw [Controller.viewFaulted_iff, h.config, h.trusted, h.scoped_iff]
  refine and_congr_right fun _ => ?_
  by_cases hmem : z ∈ p.trusted.soilMoisture
  · have hget := TreeMap.getElem?_eq_some_getElem hmem
    have hjoin : (p.trusted.soilMoisture[z]?).join = none ↔
        p.trusted.soilMoisture[z]? = some none := by
      rw [hget, Option.some.injEq]
      exact Iff.rfl
    rw [hjoin]
    constructor
    · intro hreason
      exact Or.inr (hreason.elim Or.inl id)
    · intro hreason
      exact Or.inr (hreason.resolve_left (not_not.2 hmem))
  · rw [TreeMap.getElem?_eq_none hmem]
    exact ⟨fun _ => Or.inl hmem, fun _ => Or.inl rfl⟩

/-- **A tick attributes the faults of its valves exactly when it meets the condition.** -/
theorem attributed_iff [Rfc3339] (h : Advanced p p' snap loops) (gh ts : String)
    (timeScale : F64) :
    Attributed p'.health.disabled snap (buildView p' snap) (systemState snap gh ts timeScale) ↔
      p.Attributable := by
  have hstate := h.stateFaulted_iff gh ts timeScale
  have hdisabled : ∀ z, .valve z ∈ p'.health.disabled ↔ .valve z ∈ p.stuckIds ∨ p.flatValve z := by
    intro z
    rw [h.health, mem_disabled_valve]
  constructor
  · intro hatt
    refine ⟨fun z hz => ?_, fun z hz => ?_, fun z hz => ?_⟩
    · have hscoped := (hatt.named z ((hdisabled z).2 (Or.inl hz))).1
      exact (h.scoped_iff z).1 hscoped
    · by_contra hmem
      have hview := (h.viewFaulted_iff z).2 ⟨hz, Or.inl hmem⟩
      obtain ⟨reading, hget⟩ := ((hstate z).1 ((hatt.agree z).2 hview)).exists_reading
      rw [TreeMap.getElem?_eq_none hmem] at hget
      cases hget
    · have hview := (hatt.agree z).1 ((hstate z).2 hz)
      exact ((h.viewFaulted_iff z).1 hview).1
  · intro hcond
    have hagree : ∀ z, StateFaulted (systemState snap gh ts timeScale) z ↔
        ViewFaulted (buildView p' snap) z := by
      intro z
      rw [hstate, h.viewFaulted_iff]
      constructor
      · intro hreported
        exact ⟨hcond.configured z hreported, Or.inr hreported⟩
      · intro hview
        exact hview.2.resolve_left (not_not.2 (hcond.read z hview.1))
    refine ⟨fun z hz => ?_, fun z hz => ?_, hagree⟩
    · have hreported : p.Reported z := ((hdisabled z).1 hz).elim (hcond.stuck z) Or.inr
      have hstated := (hstate z).2 hreported
      exact ⟨(h.scoped_iff z).2 hreported, hstated, (hagree z).1 hstated⟩
    · have hstated := hz.elim id (hagree z).2
      exact Or.inr ((h.scoped_iff z).2 ((hstate z).1 hstated))

end Advanced

end Pipeline

/-! ## Runs -/

namespace Session

variable {H : Type} [Rfc3339]

/-- The snapshot committed last, as it is published, has its valve faults attributed. -/
def Attributes (r : Session H) : Prop :=
  ∀ snap ∈ r.last, ∀ (gh ts : String) (timeScale : F64),
    Attributed r.pipeline.health.disabled snap (buildView r.pipeline snap)
      (systemState snap gh ts timeScale)

/-- What is published of a snapshot depends on the zones, the snapshot and who is disabled. -/
theorem attributes_of_same {r r' : Session H} (h : r.Attributes) (hlast : r'.last = r.last)
    (hhealth : r'.pipeline.health = r.pipeline.health)
    (hzones : r'.pipeline.config.zones.map (·.id) = r.pipeline.config.zones.map (·.id)) :
    r'.Attributes := by
  intro snap hsnap gh ts timeScale
  rw [hlast] at hsnap
  have hatt := h snap hsnap gh ts timeScale
  have hview : ∀ z, ViewFaulted (buildView r'.pipeline snap) z ↔
      ViewFaulted (buildView r.pipeline snap) z := by
    intro z
    rw [viewFaulted_iff, viewFaulted_iff, hzones]
  refine ⟨fun z hz => ?_, fun z hz => ?_, fun z => (hatt.agree z).trans (hview z).symm⟩
  · rw [hhealth] at hz
    rw [hview]
    exact hatt.named z hz
  · rw [hview] at hz
    exact hatt.reason z hz

variable [Libm] [Hal H]

/-- The coming tick meets the condition. -/
def Attributable (r : Session H) : Prop := r.pipeline.Attributable

/-- One event: a tick attributes its faults exactly when it meets the condition, and nothing else
changes what was attributed. -/
theorem attributes_step {r r' : Session H} {e : Event H} (h : r.Attributes) (hs : Step r e r') :
    r'.Attributes ↔ OnTick Event.isTick Attributable r e := by
  have hidle : e.isTick = false → r'.last = r.last →
      r'.pipeline.health = r.pipeline.health →
      r'.pipeline.config.zones.map (·.id) = r.pipeline.config.zones.map (·.id) →
        (r'.Attributes ↔ OnTick Event.isTick Attributable r e) := by
    intro he hlast hhealth hzones
    have hvacuous : OnTick Event.isTick Attributable r e := fun htick =>
      absurd (he.symm.trans htick) Bool.false_ne_true
    exact ⟨fun _ => hvacuous, fun _ => attributes_of_same h hlast hhealth hzones⟩
  cases e with
  | tick =>
    obtain ⟨⟨p', snap⟩, ht, rfl⟩ := Option.map_eq_some_iff.1 hs
    obtain ⟨loops, hadv⟩ := Pipeline.tick_advanced ht
    constructor
    · intro hatt _
      exact (hadv.attributed_iff "" "" 0).1 (hatt snap rfl "" "" 0)
    · intro hcond snap' hsnap gh ts timeScale
      obtain rfl := Option.some.inj hsnap
      exact (hadv.attributed_iff gh ts timeScale).2 (hcond rfl)
  | setZone zone =>
    cases hs
    exact hidle rfl rfl rfl (Pipeline.map_id_replaceZone zone _)
  | setSetpoints setpoints =>
    cases hs
    exact hidle rfl rfl rfl rfl
  | setOverride id level isPct ttlSecs =>
    cases hs
    exact hidle rfl rfl rfl rfl
  | clearOverride id =>
    cases hs
    exact hidle rfl rfl rfl rfl
  | plant hal =>
    cases hs
    exact hidle rfl rfl rfl rfl

/-- **When the faults of the valves are attributed**: the runs on every tick of which they are, are
those on every tick of which each stuck valve is of a zone that is reported anyway and the
readings are those of the configured zones. -/
theorem attributes_run_iff (cfg : Config) (hal : H) (clock : Clock) (es : List (Event H))
    (r : Session H) :
    Run (Keeping Step Attributes) (Session.start cfg hal clock) es r ↔
      Run (Meeting Step (OnTick Event.isTick Attributable)) (Session.start cfg hal clock) es r := by
  have hstart : (Session.start cfg hal clock).Attributes := by
    intro snap hsnap
    cases hsnap
  exact Run.keeping_iff (fun _ _ _ h hs => attributes_step h hs) hstart

end Session

/-! ## On the bench -/

section Bench

attribute [local instance] Bench.firstOrder

/-- A house with moist soil whose first valve is jammed open. -/
def floodedPlant (soil : F64) : Bench.Plant where
  readings := { Bench.readings [0, 0, 0] 420 with
    soilMoisture := ((∅ : TreeMap Slug F64).insert Bench.benchA.id soil).insert
      Bench.seedlingTray.id 0.8 }
  jammed := true
  level := { Commands.allOff [] with valves := (∅ : TreeMap Slug F64).insert Bench.benchA.id 100 }

def floodedHouse : Session Bench.Plant :=
  Session.start (Bench.config {}) (floodedPlant 0.6) Clock.new

/-- Six ticks; the soil gets a little wetter on the way. -/
def floodedEvents : List (Event Bench.Plant) :=
  [.tick, .tick, .tick, .plant (floodedPlant 0.61), .tick, .tick, .tick]

/-- **A disabled valve no zone is reported for.** The valve of the first zone is disabled as stuck;
no fault of the tick is scoped to the zone, and the zone is not reported. -/
theorem floodedHouse_unattributed :
    ∃ r snap, Run Session.Step floodedHouse floodedEvents r ∧ r.last = some snap ∧
      .valve Bench.benchA.id ∈ r.pipeline.health.disabled ∧
      ¬ Scoped snap.faults Bench.benchA.id ∧
      ¬ ViewFaulted (buildView r.pipeline snap) Bench.benchA.id := by
  have hrun : ((floodedEvents.foldlM Session.step? floodedHouse).bind fun r =>
      r.last.map fun snap => decide (.valve Bench.benchA.id ∈ r.pipeline.health.disabled ∧
        ¬ Scoped snap.faults Bench.benchA.id ∧
        (snap.trusted.soilMoisture[Bench.benchA.id]?).join ≠ none)) = some true := by
    decide +kernel
  obtain ⟨r, hr, h⟩ := Option.bind_eq_some_iff.1 hrun
  obtain ⟨snap, hlast, h⟩ := Option.map_eq_some_iff.1 h
  obtain ⟨hdisabled, hscoped, hsoil⟩ := of_decide_eq_true h
  refine ⟨r, snap, Run.of_foldlM hr, hlast, hdisabled, hscoped, ?_⟩
  rw [viewFaulted_iff]
  exact fun hview => hview.2.elim hsoil hscoped

end Bench

end Greenhouse.Controller
