import Greenhouse.Controller.RunLoop
import Greenhouse.Controller.Bench

/-!
# Latched writes

A handler merges its patch onto the published view and enqueues the whole merged object.
`RunLoop.settled` is what the settings become once the queue is drained, and
`Settings.applied` is what they should become: the fields of every accepted patch, one
after another in the order of the queue.

* `Handler.fresh_iff`: enqueueing a command amounts to overwriting the fields its patch
  names exactly when the view agrees with the settled settings off these fields.
* `patches_kept_iff`: the runs that lose no accepted patch are those whose every enqueued
  patch is fresh. `patch_lost` is a run that loses one.
-/

namespace Greenhouse.Controller

open Greenhouse.Numeric Greenhouse.Process Std

/-! ## Settings -/

/-- The part of the configuration the patches write. -/
structure Settings where
  setpoints : Setpoints
  zones : List Zone
  deriving DecidableEq

def Config.settings (c : Config) : Settings := ⟨c.setpoints, c.zones⟩

/-- What a command does to the settings. -/
def Command.onSettings (σ : Settings) : Command → Settings
  | .setSetpoints sp => { σ with setpoints := sp }
  | .setZone zone => { σ with zones := Pipeline.replaceZone zone σ.zones }
  | .setOverride .. => σ
  | .clearOverride _ => σ

/-- Overwrite the fields of a patch in the first zone with the given id. -/
def overwriteZone (zoneId : String) (patch : ZoneConfigPatch) : List Zone → List Zone
  | [] => []
  | z :: zs =>
    if z.id.asStr = zoneId then patch.overwrite z :: zs else z :: overwriteZone zoneId patch zs

/-- Overwrite the fields the patch of a request names. -/
def Request.overwrite (σ : Settings) : Request → Settings
  | .patchSetpoints _ patch => { σ with setpoints := patch.overwrite σ.setpoints }
  | .patchZone _ zoneId patch => { σ with zones := overwriteZone zoneId patch σ.zones }
  | .putOverride .. => σ
  | .deleteOverride .. => σ

/-- The fields of every request, one after another. -/
def Settings.applied {me : String} (σ : Settings) (sent : List (Handler me)) : Settings :=
  sent.foldl (fun σ h => h.request.overwrite σ) σ

theorem Command.apply_settings {H : Type} (p : Pipeline H) (command : Command) :
    (command.apply p).config.settings = command.onSettings p.config.settings := by
  cases command <;> rfl

/-! ## Fresh handlers -/

/-- Replacing a zone by a patched copy overwrites the patched fields exactly when the copy
agrees with the zone off these fields. -/
theorem replaceZone_eq_iff {zoneId : String} {patch : ZoneConfigPatch} {z₀ : Zone}
    (hid : z₀.id.asStr = zoneId) :
    ∀ zs : List Zone, Pipeline.replaceZone (patch.overwrite z₀) zs = overwriteZone zoneId patch zs ↔
      ∀ z, zs.find? (·.id.asStr == zoneId) = some z → patch.AgreeOff z₀ z := by
  intro zs
  induction zs with
  | nil => simp [Pipeline.replaceZone, overwriteZone]
  | cons z zs ih =>
    unfold Pipeline.replaceZone overwriteZone
    by_cases hz : z.id = z₀.id
    · have hzid : z.id.asStr = zoneId := by rw [hz, hid]
      have hz' : z.id = (patch.overwrite z₀).id := hz
      rw [if_pos hz', if_pos hzid,
        List.find?_cons_of_pos (p := fun z : Zone => z.id.asStr == zoneId) (beq_iff_eq.2 hzid)]
      simp only [List.cons.injEq, and_true, Option.some.injEq, forall_eq']
      exact ZoneConfigPatch.overwrite_eq_iff hz.symm
    · have hzid : z.id.asStr ≠ zoneId := fun h => hz (Slug.ext (h.trans hid.symm))
      have hz' : z.id ≠ (patch.overwrite z₀).id := hz
      rw [if_neg hz', if_neg hzid, List.find?_cons_of_neg
        (p := fun z : Zone => z.id.asStr == zoneId) fun h => hzid (beq_iff_eq.1 h)]
      simp only [List.cons.injEq, true_and]
      exact ih

namespace Handler

variable {me : String}

/-- The view the handler has read agrees with the settings on every field of the object it
writes that its patch does not name. -/
def Fresh (h : Handler me) (σ : Settings) : Prop :=
  match h.request with
  | .patchSetpoints _ patch => patch.AgreeOff h.view.setpoints σ.setpoints
  | .patchZone _ zoneId patch =>
    ∀ z₀, h.view.zoneConfigs.find? (·.id.asStr == zoneId) = some z₀ →
      ∀ z, σ.zones.find? (·.id.asStr == zoneId) = some z → patch.AgreeOff z₀ z
  | .putOverride .. => True
  | .deleteOverride .. => True

/-- An override command leaves the settings. -/
theorem onSettings_of_override {h : Handler me} {σ : Settings}
    (hset : ∀ sp, h.command ≠ .setSetpoints sp) (hzone : ∀ z, h.command ≠ .setZone z) :
    h.command.onSettings σ = σ := by
  cases hc : h.command with
  | setSetpoints sp => exact absurd hc (hset sp)
  | setZone z => exact absurd hc (hzone z)
  | setOverride id level ttlSecs => rfl
  | clearOverride id => rfl

/-- **The fields of a patch are overwritten exactly when the handler is fresh.** -/
theorem fresh_iff (h : Handler me) (σ : Settings) :
    h.command.onSettings σ = h.request.overwrite σ ↔ h.Fresh σ := by
  obtain ⟨request, view, command, accepted⟩ := h
  cases request with
  | patchSetpoints gh patch =>
    cases hp : patchSetpoints me gh view patch with
    | error r =>
      rw [Request.respond, hp] at accepted
      cases accepted
    | ok sp =>
      rw [Request.respond, hp] at accepted
      cases accepted
      obtain rfl := patchSetpoints_eq_ok hp
      simp only [Command.onSettings, Request.overwrite, Settings.mk.injEq, and_true, Fresh]
      exact SetpointsPatch.overwrite_eq_iff
  | patchZone gh zoneId patch =>
    cases hp : patchZone me gh zoneId view patch with
    | error r =>
      rw [Request.respond, hp] at accepted
      cases accepted
    | ok reply =>
      rw [Request.respond, hp] at accepted
      cases accepted
      obtain ⟨z₀, hz₀, hz⟩ := patchZone_eq_ok hp
      have hid : (z₀.id.asStr == zoneId) = true :=
        List.find?_some (p := fun z : Zone => z.id.asStr == zoneId) hz₀
      simp only [Command.onSettings, Request.overwrite, Settings.mk.injEq, true_and, Fresh, hz₀,
        Option.some.injEq, forall_eq', hz]
      exact replaceZone_eq_iff (beq_iff_eq.1 hid) σ.zones
  | putOverride gh actuator body =>
    refine iff_of_true (onSettings_of_override ?_ ?_) trivial
    all_goals
      rintro x rfl
      simp only [Request.respond, putOverride] at accepted
      repeat' split at accepted
      all_goals cases accepted
  | deleteOverride gh actuator zoneId =>
    refine iff_of_true (onSettings_of_override ?_ ?_) trivial
    all_goals
      rintro x rfl
      simp only [Request.respond, deleteOverride] at accepted
      repeat' split at accepted
      all_goals cases accepted

instance (h : Handler me) (σ : Settings) : Decidable (h.Fresh σ) :=
  decidable_of_iff (h.command.onSettings σ = h.request.overwrite σ) (h.fresh_iff σ)

end Handler

/-! ## Runs of the loop -/

namespace RunLoop

variable {me : String} {H : Type}

/-- The settings once the queue is drained. -/
def settled (s : RunLoop me H) : Settings :=
  s.queue.foldl Command.onSettings s.pipeline.config.settings

/-- The handler that enqueues its command, if any, is fresh. -/
def SendsFresh (s : RunLoop me H) : LoopEvent H → Prop
  | .send i => ∀ h ∈ s.inFlight[i]?, h.Fresh s.settled
  | _ => True

instance (s : RunLoop me H) (e : LoopEvent H) : Decidable (s.SendsFresh e) := by
  cases e <;> unfold SendsFresh <;> infer_instance

/-- Draining leads to the settings of the accepted requests applied to `σ` in queue order. -/
def Keeps (σ : Settings) (s : RunLoop me H) : Prop := s.settled = σ.applied s.sent

theorem Keeps.drained {σ : Settings} {s : RunLoop me H} (h : s.Keeps σ) (hq : s.queue = []) :
    s.pipeline.config.settings = σ.applied s.sent := by
  rw [Keeps, settled, hq] at h
  exact h

theorem settled_send (s : RunLoop me H) (command : Command) :
    (s.queue ++ [command]).foldl Command.onSettings s.pipeline.config.settings =
      command.onSettings s.settled := by
  rw [List.foldl_append]
  rfl

variable [Libm] [Hal H]

/-- A step that enqueues nothing leaves the settled settings and the history. -/
theorem settled_step {s s' : RunLoop me H} {e : LoopEvent H} (hs : Step s e s')
    (he : ∀ i, e ≠ .send i) : s'.settled = s.settled ∧ s'.sent = s.sent := by
  cases e with
  | request r =>
    obtain rfl := Option.some.inj hs
    rcases receive_cases s r with heq | ⟨handler, -, -, heq⟩ <;> rw [heq] <;> exact ⟨rfl, rfl⟩
  | send i => exact absurd rfl (he i)
  | abandon i =>
    obtain rfl := Option.some.inj hs
    exact ⟨rfl, rfl⟩
  | recv =>
    obtain ⟨command, queue, hq, rfl⟩ := recv_cases hs
    refine ⟨?_, rfl⟩
    rw [settled, settled, hq, List.foldl_cons, Command.apply_settings]
  | tick =>
    obtain ⟨p, snapshot, ht, rfl⟩ := loopTick_cases hs
    obtain ⟨loops, ht⟩ := Pipeline.tick_cases ht
    refine ⟨?_, rfl⟩
    rw [settled, settled, ht.config]
  | publish =>
    obtain ⟨snapshot, -, rfl⟩ := publish_cases hs
    exact ⟨rfl, rfl⟩
  | plant hal =>
    obtain rfl := Option.some.inj hs
    exact ⟨rfl, rfl⟩

/-- **One step**: what is settled stays right exactly when a handler that enqueues is fresh. -/
theorem keeps_step {σ : Settings} (s : RunLoop me H) (e : LoopEvent H) (s' : RunLoop me H)
    (h : s.Keeps σ) (hs : Step s e s') : s'.Keeps σ ↔ s.SendsFresh e := by
  by_cases he : ∃ i, e = .send i
  · obtain ⟨i, rfl⟩ := he
    obtain ⟨handler, hi, -, rfl⟩ := send_cases hs
    have hfresh : s.SendsFresh (.send i) ↔ handler.Fresh s.settled := by
      simp only [SendsFresh, hi, Option.mem_some_iff, forall_eq']
    have happlied : σ.applied (s.sent ++ [handler]) = handler.request.overwrite s.settled := by
      rw [Settings.applied, List.foldl_append, h]
      rfl
    have hsettled : settled { s with
        queue := s.queue ++ [handler.command]
        inFlight := s.inFlight.eraseIdx i
        sent := s.sent ++ [handler] } = handler.command.onSettings s.settled :=
      settled_send s handler.command
    rw [hfresh, ← handler.fresh_iff, Keeps, hsettled, happlied]
  · obtain ⟨hsettled, hsent⟩ := settled_step hs fun i hi => he ⟨i, hi⟩
    refine iff_of_true ?_ ?_
    · rw [Keeps, hsettled, hsent]
      exact h
    · cases e with
      | send i => exact absurd ⟨i, rfl⟩ he
      | _ => trivial

theorem keeps_start {cfg : Config} {hal : H} {clock : Clock}
    {s₀ : RunLoop cfg.controllerId.asStr H} (h₀ : start? cfg hal clock = some s₀) :
    s₀.Keeps cfg.settings := by
  obtain ⟨⟨p, snapshot⟩, ht, rfl⟩ := Option.map_eq_some_iff.1 h₀
  obtain ⟨loops, ht⟩ := Pipeline.tick_cases ht
  change p.config.settings = cfg.settings
  rw [ht.config]
  rfl

end RunLoop

/-- **No accepted patch is lost exactly when each was fresh as it was enqueued.** In such a run
the drained settings are those of the accepted patches in queue order. -/
theorem patches_kept_iff {H : Type} [Libm] [Hal H] {cfg : Config} {hal : H} {clock : Clock}
    {es : List (LoopEvent H)} {s₀ s : RunLoop cfg.controllerId.asStr H}
    (h₀ : RunLoop.start? cfg hal clock = some s₀) :
    (Run (Keeping RunLoop.Step (RunLoop.Keeps cfg.settings)) s₀ es s ↔
      Run (Meeting RunLoop.Step RunLoop.SendsFresh) s₀ es s) ∧
    (Run (Meeting RunLoop.Step RunLoop.SendsFresh) s₀ es s → s.queue = [] →
      s.pipeline.config.settings = cfg.settings.applied s.sent) := by
  have hstart := RunLoop.keeps_start h₀
  refine ⟨Run.keeping_iff RunLoop.keeps_step hstart, fun hr hq => ?_⟩
  have hkeeps : s.Keeps cfg.settings :=
    hr.invariant_of_meeting (fun t e t' h hs => (RunLoop.keeps_step t e t' h hs).2) hstart
  exact hkeeps.drained hq

section

attribute [local instance] Bench.firstOrder

/-- The bench controller after its first tick. -/
def benchLoop : Option (RunLoop "gh-a" Bench.Plant) :=
  RunLoop.start? (Bench.config {}) { readings := Bench.readings [20, 20, 20] 420 } Clock.new

/-- Two operators: a warmer day, and a warmer night. -/
def warmerDay : Request := .patchSetpoints "gh-a" { temperatureDayC := some 26 }

def warmerNight : Request := .patchSetpoints "gh-a" { temperatureNightC := some 19 }

/-- One operator after the other: the first patch is published before the second is read. -/
def inTurn : List (LoopEvent Bench.Plant) :=
  [.request warmerDay, .send 0, .recv, .tick, .publish, .request warmerNight, .send 0, .recv]

/-- Both operators at once: both patches are read before either is applied. -/
def atOnce : List (LoopEvent Bench.Plant) :=
  [.request warmerDay, .request warmerNight, .send 0, .send 0, .recv, .recv]

/-- A step of the bench controller, unless a handler that is not fresh enqueues. -/
def freshStep? (s : RunLoop "gh-a" Bench.Plant) (e : LoopEvent Bench.Plant) :
    Option (RunLoop "gh-a" Bench.Plant) :=
  if s.SendsFresh e then s.step? e else none

/-- In turn, both patches are kept. -/
theorem patches_kept_bench :
    ∃ s₀ s : RunLoop "gh-a" Bench.Plant, benchLoop = some s₀ ∧
      Run (Keeping RunLoop.Step (RunLoop.Keeps (Bench.config {}).settings)) s₀ inTurn s ∧
      s.pipeline.config.settings = (Bench.config {}).settings.applied s.sent := by
  have hrun : (benchLoop.bind fun s₀ => (inTurn.foldlM freshStep? s₀).map (·.queue)) =
      some [] := by
    decide +kernel
  obtain ⟨s₀, h₀, h⟩ := Option.bind_eq_some_iff.1 hrun
  obtain ⟨s, hr, hq⟩ := Option.map_eq_some_iff.1 h
  have hr : Run (Meeting RunLoop.Step RunLoop.SendsFresh) s₀ inTurn s :=
    (Run.of_foldlM hr).mono fun t e t' ht => by
      unfold freshStep? at ht
      split at ht
      case isTrue hfresh => exact ⟨ht, hfresh⟩
      case isFalse => cases ht
  exact ⟨s₀, s, h₀, (patches_kept_iff h₀).1.2 hr, (patches_kept_iff h₀).2 hr hq⟩

/-- **A lost patch.** At once, the day temperature the first patch has set is back at its old
value when the queue is drained. -/
theorem patch_lost :
    ∃ s₀ s : RunLoop "gh-a" Bench.Plant, benchLoop = some s₀ ∧
      Run RunLoop.Step s₀ atOnce s ∧
      s.queue = [] ∧ s.sent.map (·.request) = [warmerDay, warmerNight] ∧
      s.pipeline.config.setpoints.temperatureDayC = 24 ∧
      ((Bench.config {}).settings.applied s.sent).setpoints.temperatureDayC = 26 := by
  have hrun : (benchLoop.bind fun s₀ =>
      (atOnce.foldlM RunLoop.step? s₀).map fun s => (s.queue, s.sent.map (·.request),
          s.pipeline.config.setpoints.temperatureDayC,
          ((Bench.config {}).settings.applied s.sent).setpoints.temperatureDayC)) =
        some ([], [warmerDay, warmerNight], 24, 26) := by
    decide +kernel
  obtain ⟨s₀, h₀, h⟩ := Option.bind_eq_some_iff.1 hrun
  obtain ⟨s, hr, h⟩ := Option.map_eq_some_iff.1 h
  obtain ⟨hq, hsent, hday, happlied⟩ := by simpa only [Prod.mk.injEq] using h
  exact ⟨s₀, s, h₀, Run.of_foldlM hr, hq, hsent, hday, happlied⟩

end

end Greenhouse.Controller
