import Mathlib.Tactic.IntervalCases
import Greenhouse.Controller.Bench
import Greenhouse.Controller.Rest
import Greenhouse.Platform.Delivery
import Greenhouse.Platform.Validate

/-!
# What the platform validates, as the controller sees it

The bodies of a delivery as the controller decodes them, and its PATCH handlers on the view
of a valid configuration. The two sides check the same bounds, but the decoder may read two
numbers as one, and then a band that the platform found in order is empty for the controller.

* `parse_of_isHhmm`, `fromStr_of_schedule`: the texts the platform's patterns match are the
  times and schedules the controller parses.
* `handlers_accept_iff`: when the requests of the delivery of an accepted bundle are accepted.
-/

namespace Greenhouse.Contract

open Greenhouse.Numeric

/-! ## Times and schedules -/

/-- What the two parsers read from a decimal digit. -/
structure DigitOf (c : Char) (d : Nat) : Prop where
  le_nine : d ≤ 9
  value : Controller.digitValue c = some d
  digit : Platform.digit c = d
  size : c.utf8Size = 1
  ne_colon : c ≠ ':'
  ne_plus : c ≠ '+'

theorem digitOf_ofNat {d : Nat} (hd : d < 10) : DigitOf (Char.ofNat (48 + d)) d := by
  interval_cases d <;> exact ⟨by decide, by decide, by decide, by decide, by decide, by decide⟩

theorem exists_digit {c lo hi : Char} (hlo : lo ≤ c) (hhi : c ≤ hi) (h0 : '0' ≤ lo)
    (h9 : hi ≤ '9') : ∃ d, DigitOf c d ∧ lo.toNat ≤ 48 + d ∧ 48 + d ≤ hi.toNat := by
  have hlo' : lo.toNat ≤ c.toNat := hlo
  have hhi' : c.toNat ≤ hi.toNat := hhi
  have h0' : 48 ≤ lo.toNat := h0
  have h9' : hi.toNat ≤ 57 := h9
  have hc : Char.ofNat (48 + (c.toNat - 48)) = c := by
    rw [Nat.add_sub_cancel' (by omega), Char.ofNat_toNat]
  refine ⟨c.toNat - 48, ?_, by omega, by omega⟩
  have hdigit := digitOf_ofNat (d := c.toNat - 48) (by omega)
  rwa [hc] at hdigit

theorem parseU8_digits {x y : Char} {a b : Nat} (hx : DigitOf x a) (hy : DigitOf y b) :
    Controller.parseU8 [x, y] = some (10 * a + b) := by
  have ha := hx.le_nine
  have hb := hy.le_nine
  have hdigits : Controller.digitsValue 0 [x, y] = some (10 * a + b) := by
    simp [Controller.digitsValue, hx.value, hy.value]
  have hbound : 10 * a + b ≤ 255 := by omega
  simp [Controller.parseU8, hx.ne_plus, hdigits, hbound]

/-- Four digits around a colon are a time of day when they are in range. -/
theorem parse_digits {h₁ h₂ m₁ m₂ : Char} {a b c d : Nat} (ha : DigitOf h₁ a)
    (hb : DigitOf h₂ b) (hc : DigitOf m₁ c) (hd : DigitOf m₂ d) (hhour : 10 * a + b ≤ 23)
    (hminute : 10 * c + d ≤ 59) :
    Controller.TimeOfDay.parse [h₁, h₂, ':', m₁, m₂] =
      some ⟨10 * a + b, 10 * c + d, hhour, hminute⟩ := by
  have hsplit : Controller.splitOnce ':' [h₁, h₂, ':', m₁, m₂] = some ([h₁, h₂], [m₁, m₂]) := by
    simp [Controller.splitOnce, ha.ne_colon, hb.ne_colon]
  have hlen : ∀ {x y : Char} {i j : Nat}, DigitOf x i → DigitOf y j →
      Controller.byteLen [x, y] = 2 := fun hx hy => by
    simp [Controller.byteLen, hx.size, hy.size]
  simp [Controller.TimeOfDay.parse, hsplit, hlen ha hb, hlen hc hd, parseU8_digits ha hb,
    parseU8_digits hc hd, hhour, hminute]

/-- The digits of a text that the pattern of times matches. -/
theorem digits_of_isHhmm {cs : List Char} (h : Platform.isHhmm cs = true) :
    ∃ h₁ h₂ m₁ m₂ a b c d, cs = [h₁, h₂, ':', m₁, m₂] ∧ DigitOf h₁ a ∧ DigitOf h₂ b ∧
      DigitOf m₁ c ∧ DigitOf m₂ d ∧ 10 * a + b ≤ 23 ∧ c ≤ 5 := by
  unfold Platform.isHhmm at h
  split at h
  · rename_i h₁ h₂ m₁ m₂
    simp only [Platform.isDigit, Bool.and_eq_true, Bool.or_eq_true, beq_iff_eq,
      decide_eq_true_eq] at h
    obtain ⟨⟨hhour, hm₁, hm₁'⟩, hm₂, hm₂'⟩ := h
    obtain ⟨c, hc, -, hc5⟩ := exists_digit hm₁ hm₁' (by decide) (by decide)
    obtain ⟨d, hd, -, -⟩ := exists_digit hm₂ hm₂' (by decide) (by decide)
    have hc5 : 48 + c ≤ 53 := hc5
    obtain ⟨a, b, ha, hb, hhour⟩ : ∃ a b, DigitOf h₁ a ∧ DigitOf h₂ b ∧ 10 * a + b ≤ 23 := by
      rcases hhour with ⟨rfl | rfl, hb, hb'⟩ | ⟨⟨rfl, hb⟩, hb'⟩
      · obtain ⟨b, hb, -, -⟩ := exists_digit hb hb' (by decide) (by decide)
        have hb9 := hb.le_nine
        exact ⟨0, b, digitOf_ofNat (show 0 < 10 by decide), hb, by omega⟩
      · obtain ⟨b, hb, -, -⟩ := exists_digit hb hb' (by decide) (by decide)
        have hb9 := hb.le_nine
        exact ⟨1, b, digitOf_ofNat (show 1 < 10 by decide), hb, by omega⟩
      · obtain ⟨b, hb, -, hb3⟩ := exists_digit hb hb' (by decide) (by decide)
        have hb3 : 48 + b ≤ 51 := hb3
        exact ⟨2, b, digitOf_ofNat (show 2 < 10 by decide), hb, by omega⟩
    exact ⟨_, _, _, _, a, b, c, d, rfl, ha, hb, hc, hd, hhour, by omega⟩
  · cases h

/-- The minutes of a time of day by its digits. -/
theorem minutes_of_digits {h₁ h₂ m₁ m₂ : Char} {a b c d : Nat} (ha : DigitOf h₁ a)
    (hb : DigitOf h₂ b) (hc : DigitOf m₁ c) (hd : DigitOf m₂ d)
    (h : Platform.isHhmm [h₁, h₂, ':', m₁, m₂] = true) :
    Platform.minutesOfDay (String.ofList [h₁, h₂, ':', m₁, m₂]) =
      some ((10 * a + b) * 60 + (10 * c + d)) := by
  simp only [Platform.minutesOfDay, Platform.hhmmRe, String.toList_ofList, h, if_true,
    ha.digit, hb.digit, hc.digit, hd.digit]

/-- **A text that the pattern of times matches is a time of day**, and both sides count its
minutes alike. -/
theorem parse_of_isHhmm {cs : List Char} (h : Platform.isHhmm cs = true) :
    ∃ t, Controller.TimeOfDay.parse cs = some t ∧
      Platform.minutesOfDay (String.ofList cs) = some t.minutesSinceMidnight := by
  obtain ⟨h₁, h₂, m₁, m₂, a, b, c, d, rfl, ha, hb, hc, hd, hhour, hc5⟩ := digits_of_isHhmm h
  have hd9 := hd.le_nine
  exact ⟨_, parse_digits ha hb hc hd hhour (by omega), minutes_of_digits ha hb hc hd h⟩

/-- The time of a text the platform accepts as one. -/
theorem fromStr_of_hhmm {s : String} (h : Platform.hhmmRe.matchString s = true) :
    ∃ t, Controller.TimeOfDay.fromStr s = some t ∧
      Platform.minutesOfDay s = some t.minutesSinceMidnight := by
  obtain ⟨t, hparse, hminutes⟩ := parse_of_isHhmm h
  rw [String.ofList_toList] at hminutes
  exact ⟨t, hparse, hminutes⟩

/-- A function that has a value on every element of a list maps it. -/
theorem exists_mapM {α β : Type} {f : α → Option β} {l : List α}
    (h : ∀ a ∈ l, ∃ b, f a = some b) : ∃ bs, l.mapM f = some bs ∧ bs.length = l.length := by
  induction l with
  | nil => exact ⟨[], rfl, rfl⟩
  | cons a l ih =>
    obtain ⟨b, hb⟩ := h a List.mem_cons_self
    obtain ⟨bs, hbs, hlen⟩ := ih fun x hx => h x (List.mem_cons_of_mem _ hx)
    exact ⟨b :: bs, by simp [hb, hbs], by simp [hlen]⟩

/-- A text whose parts are times is a schedule. -/
theorem fromStr_of_parts {s : String}
    (h : ∀ part ∈ s.toList.splitOn ',', ∃ t, Controller.TimeOfDay.parse part = some t) :
    ∃ t, Controller.Schedule.fromStr s = some t := by
  have hempty : s.toList ≠ [] := by
    intro hnil
    rw [hnil] at h
    obtain ⟨t, ht⟩ := h [] List.mem_cons_self
    cases ht
  obtain ⟨ts, hts, hlen⟩ := exists_mapM h
  have hne : ts ≠ [] := by
    rintro rfl
    exact List.splitOn_ne_nil ',' s.toList (List.length_eq_zero_iff.1 hlen.symm)
  obtain ⟨t, ts, rfl⟩ := List.exists_cons_of_ne_nil hne
  exact ⟨⟨t :: ts, List.cons_ne_nil t ts⟩, by simp [Controller.Schedule.fromStr, hempty, hts]⟩

/-- **A text that the pattern of schedules matches is a schedule.** -/
theorem fromStr_of_schedule {s : String} (h : Platform.scheduleRe.matchString s = true) :
    ∃ t, Controller.Schedule.fromStr s = some t := by
  apply fromStr_of_parts
  intro part hpart
  obtain ⟨t, ht, -⟩ := parse_of_isHhmm (List.all_eq_true.1 h part hpart)
  exact ⟨t, ht⟩

/-! ## The bodies of a delivery -/

/-- How the controller's JSON decoder reads the numbers the platform writes: `float` for a field
of type `f64`, `unsigned` for an unsigned integer of so many bits, `none` where it rejects it. -/
structure Decoder where
  float : ℚ → ℚ
  unsigned : Nat → Int → Option Nat

/-- What is known of the decoder. An integer is read exactly where its type has it. Another
number may be rounded, so that two of them are read as one, but not past a small integer. -/
structure Decoder.Reads (d : Decoder) : Prop where
  unsigned : ∀ {bits : Nat} {n : Int}, 0 ≤ n → n < 2 ^ bits → d.unsigned bits n = some n.toNat
  le_float : ∀ {n : Int} {q : ℚ}, |n| ≤ 100 → n ≤ q → n ≤ d.float q
  float_le : ∀ {n : Int} {q : ℚ}, |n| ≤ 100 → q ≤ n → d.float q ≤ n

variable {d : Decoder}

/-- The global settings as a partial update, which names everything but the expected peak. -/
def settingsPatch (d : Decoder) (g : Platform.GlobalSetpoints) (co2TargetPpm : Nat) :
    Controller.SetpointsPatch where
  temperatureDayC := some (.fin (d.float g.temperatureDayC))
  temperatureNightC := some (.fin (d.float g.temperatureNightC))
  dayStart := some g.dayStart
  dayEnd := some g.dayEnd
  humidityLowPct := some (.fin (d.float g.humidityLowPct))
  humidityHighPct := some (.fin (d.float g.humidityHighPct))
  humidityDeadbandPct := some (.fin (d.float g.humidityDeadbandPct))
  co2TargetPpm := some co2TargetPpm
  co2VentInterlockThresholdPct := some (.fin (d.float g.co2VentInterlockThresholdPct))
  vpdTargetKpa := some (.fin (d.float g.vpdTargetKpa))
  dliTargetMol := some (.fin (d.float g.dliTargetMol))

@[simp] theorem settingsPatch_isEmpty (g : Platform.GlobalSetpoints) (co2TargetPpm : Nat) :
    (settingsPatch d g co2TargetPpm).isEmpty = false := rfl

/-- The body of `PATCH /setpoints`, decoded; `none` where the decoder rejects it. -/
def globalSetpointsBody (d : Decoder) (g : Platform.GlobalSetpoints) :
    Option Controller.SetpointsPatch :=
  (d.unsigned 32 g.co2TargetPpm).map (settingsPatch d g)

/-- The targets of a zone as a partial update. -/
def zonePatch (d : Decoder) (z : Platform.ZoneTargets) (drainPeriodSecs : Nat) :
    Controller.ZoneConfigPatch where
  moistureLowThreshold := some (.fin (d.float z.moistureLowThreshold))
  moistureHighThreshold := some (.fin (d.float z.moistureHighThreshold))
  drainPeriodSecs := some drainPeriodSecs
  schedule := some z.schedule

@[simp] theorem zonePatch_isEmpty (z : Platform.ZoneTargets) (drainPeriodSecs : Nat) :
    (zonePatch d z drainPeriodSecs).isEmpty = false := rfl

/-- The body of `PATCH /zones/{zone_id}`, decoded. -/
def zoneBody (d : Decoder) (z : Platform.ZoneTargets) : Option Controller.ZoneConfigPatch :=
  (d.unsigned 64 z.drainPeriodSecs).map (zonePatch d z)

/-! ## Acceptance -/

/-- The settings that a delivery makes current, with the expected peak that was there. -/
def settings (d : Decoder) (g : Platform.GlobalSetpoints)
    (dayStart dayEnd : Controller.TimeOfDay) (expectedPeakPar : F64) : Controller.Setpoints where
  temperatureDayC := .fin (d.float g.temperatureDayC)
  temperatureNightC := .fin (d.float g.temperatureNightC)
  dayStart := dayStart
  dayEnd := dayEnd
  humidityLowPct := .fin (d.float g.humidityLowPct)
  humidityHighPct := .fin (d.float g.humidityHighPct)
  humidityDeadbandPct := .fin (d.float g.humidityDeadbandPct)
  co2TargetPpm := g.co2TargetPpm.toNat
  co2VentInterlockThresholdPct := .fin (d.float g.co2VentInterlockThresholdPct)
  vpdTargetKpa := .fin (d.float g.vpdTargetKpa)
  dliTargetMol := .fin (d.float g.dliTargetMol)
  expectedPeakPar := expectedPeakPar

/-- The zone that a delivery makes current. -/
def targets (d : Decoder) (z : Platform.ZoneTargets) (id : Controller.Slug)
    (schedule : Controller.Schedule) : Controller.Zone where
  id := id
  moistureLowThreshold := .fin (d.float z.moistureLowThreshold)
  moistureHighThreshold := .fin (d.float z.moistureHighThreshold)
  drainPeriodSecs := z.drainPeriodSecs.toNat
  schedule := schedule

/-- The handler of a PATCH accepts its body: the current values with the fields of the request
in place are what it answers with, and they are valid. -/
def Accepts (d : Decoder) (gh : String) (view : Controller.RuntimeView) :
    Platform.Request → Prop
  | .patchSetpoints g => ∃ body dayStart dayEnd, globalSetpointsBody d g = some body ∧
      Controller.TimeOfDay.fromStr g.dayStart = some dayStart ∧
      Controller.TimeOfDay.fromStr g.dayEnd = some dayEnd ∧
      Controller.patchSetpoints gh gh view body =
        .ok (settings d g dayStart dayEnd view.setpoints.expectedPeakPar) ∧
      (settings d g dayStart dayEnd view.setpoints.expectedPeakPar).validate = []
  | .patchZone z => ∃ body zone schedule status, zoneBody d z = some body ∧
      view.zoneConfigs.find? (·.id.asStr == z.zoneId) = some zone ∧
      Controller.Schedule.fromStr z.schedule = some schedule ∧
      Controller.patchZone gh gh z.zoneId view body = .ok (targets d z zone.id schedule, status) ∧
      (targets d z zone.id schedule).validate = []
  | _ => True

/-- The decoder keeps the limits of every band of a bundle apart. -/
structure Decoder.KeepsApart (d : Decoder) (s : Platform.Setpoints) : Prop where
  humidity : d.float s.humidityLowPct < d.float s.humidityHighPct
  moisture : ∀ z ∈ s.zones, d.float z.moistureLowThreshold < d.float z.moistureHighThreshold

/-- A decoder that never reads two numbers as one keeps the bands of a valid bundle. -/
theorem Decoder.keepsApart_of_strictMono (hd : StrictMono d.float) {s : Platform.Setpoints}
    (hs : s.Valid) : d.KeepsApart s where
  humidity := hd hs.band
  moisture z hz := hd (hs.zones z hz).band

/-! ## The handlers -/

theorem checkRange_float (hd : d.Reads) {field : String} {q : ℚ} {lo hi : Int} (hlo : |lo| ≤ 100)
    (hhi : |hi| ≤ 100) (h : lo ≤ q ∧ q ≤ hi) :
    Controller.checkRange field (F64.fin (d.float q)) (.fin lo) (.fin hi) = [] := by
  rw [Controller.checkRange_eq_nil, F64.fin_lt_fin, F64.fin_lt_fin]
  exact ⟨not_lt.2 (hd.le_float hlo h.1), not_lt.2 (hd.float_le hhi h.2)⟩

theorem checkMin_float (hd : d.Reads) {field : String} {q : ℚ} (h : 0 ≤ q) :
    Controller.checkMin field (F64.fin (d.float q)) 0 = [] := by
  have hle : (0 : Int) ≤ d.float q := hd.le_float (by decide) (by exact_mod_cast h)
  rw [Controller.checkMin_eq_nil, F64.zero_eq, F64.fin_lt_fin]
  exact not_lt.2 (by exact_mod_cast hle)

/-- The settings of a valid bundle pass the controller's checks when the decoder keeps the
humidity band. -/
theorem validate_settings {s : Platform.Setpoints} (hs : s.Valid) (hd : d.Reads)
    {dayStart dayEnd : Controller.TimeOfDay} {peak : F64} (hwindow : dayStart < dayEnd)
    (hpeak : ¬ peak < 0) (hapart : d.float s.humidityLowPct < d.float s.humidityHighPct) :
    (settings d s.toGlobalSetpoints dayStart dayEnd peak).validate = [] := by
  have hco2 : ¬ s.co2TargetPpm.toNat < 0 ∧ ¬ 5000 < s.co2TargetPpm.toNat := by
    have h := hs.co2
    omega
  have hband : ¬ (F64.fin (d.float s.humidityHighPct) ≤ .fin (d.float s.humidityLowPct)) := by
    rw [F64.fin_le_fin]
    exact not_le.2 hapart
  have hrange : ∀ {field : String} {q : ℚ} (lo hi : Int), |lo| ≤ 100 → |hi| ≤ 100 →
      (lo : ℚ) ≤ q ∧ q ≤ hi → Controller.checkRange field (F64.fin (d.float q))
        (.fin lo) (.fin hi) = [] := fun _ _ hlo hhi h => checkRange_float hd hlo hhi h
  simp only [Controller.Setpoints.validate, List.append_eq_nil_iff]
  exact ⟨⟨⟨⟨⟨⟨⟨⟨⟨⟨⟨hrange (-20) 60 (by decide) (by decide) (by exact_mod_cast hs.day),
      hrange (-20) 60 (by decide) (by decide) (by exact_mod_cast hs.night)⟩,
    hrange 0 100 (by decide) (by decide) (by exact_mod_cast hs.low)⟩,
    hrange 0 100 (by decide) (by decide) (by exact_mod_cast hs.high)⟩,
    hrange 0 50 (by decide) (by decide) (by exact_mod_cast hs.deadband)⟩,
    Controller.checkRange_eq_nil.2 hco2⟩,
    hrange 0 100 (by decide) (by decide) (by exact_mod_cast hs.interlock)⟩,
    checkMin_float hd hs.vpd⟩, checkMin_float hd hs.dli⟩,
    Controller.checkMin_eq_nil.2 hpeak⟩,
    Controller.violationIf_eq_nil.2 hband⟩, Controller.violationIf_eq_nil.2 (not_not.2 hwindow)⟩

/-- Valid settings have their humidity limits apart. -/
theorem apart_of_settings {g : Platform.GlobalSetpoints} {dayStart dayEnd : Controller.TimeOfDay}
    {peak : F64} (h : (settings d g dayStart dayEnd peak).validate = []) :
    d.float g.humidityLowPct < d.float g.humidityHighPct := by
  simp only [Controller.Setpoints.validate, List.append_eq_nil_iff] at h
  have hband := Controller.violationIf_eq_nil.1 h.1.2
  change ¬ (F64.fin (d.float g.humidityHighPct) ≤ .fin (d.float g.humidityLowPct)) at hband
  rw [F64.fin_le_fin] at hband
  exact not_le.1 hband

/-- The handler of the global settings accepts those of a valid bundle exactly when the decoder
keeps the humidity band. -/
theorem patchSetpoints_accepts_iff {s : Platform.Setpoints} (hs : s.Valid) (hd : d.Reads)
    (gh : String) {view : Controller.RuntimeView} (hview : view.setpoints.validate = []) :
    Accepts d gh view (.patchSetpoints s.toGlobalSetpoints) ↔
      d.float s.humidityLowPct < d.float s.humidityHighPct := by
  constructor
  · rintro ⟨-, dayStart, dayEnd, -, -, -, -, hvalid⟩
    exact apart_of_settings hvalid
  intro hapart
  obtain ⟨start, hstart, hstartMinutes⟩ := fromStr_of_hhmm hs.dayStart
  obtain ⟨stop, hstop, hstopMinutes⟩ := fromStr_of_hhmm hs.dayEnd
  have hwindow : start < stop := by
    have h := hs.window
    rw [hstartMinutes, hstopMinutes] at h
    exact Controller.TimeOfDay.lt_iff_minutes.2 h
  have hpeak : ¬ view.setpoints.expectedPeakPar < 0 := by
    simp only [Controller.Setpoints.validate, List.append_eq_nil_iff] at hview
    exact Controller.checkMin_eq_nil.1 hview.1.1.2
  have hbody : globalSetpointsBody d s.toGlobalSetpoints =
      some (settingsPatch d s.toGlobalSetpoints s.co2TargetPpm.toNat) := by
    rw [globalSetpointsBody, hd.unsigned hs.co2.1 (lt_of_le_of_lt hs.co2.2 (by norm_num))]
    rfl
  have hover : (settingsPatch d s.toGlobalSetpoints s.co2TargetPpm.toNat).overwrite
      view.setpoints =
        settings d s.toGlobalSetpoints start stop view.setpoints.expectedPeakPar := by
    simp [Controller.SetpointsPatch.overwrite, settingsPatch, settings, hstart, hstop]
  have hvalid := validate_settings hs hd hwindow hpeak hapart
  refine ⟨_, start, stop, hbody, hstart, hstop, ?_, hvalid⟩
  rw [← hover] at hvalid ⊢
  have happly := Controller.applySetpointsPatch_of_valid
    (show Controller.patchTime _ (some s.dayStart) _ = .ok start by
      simp [Controller.patchTime, Controller.parseTime, hstart])
    (show Controller.patchTime _ (some s.dayEnd) _ = .ok stop by
      simp [Controller.patchTime, Controller.parseTime, hstop]) hvalid
  rw [Controller.patchSetpoints, if_neg (not_not.2 rfl), settingsPatch_isEmpty,
    if_neg Bool.false_ne_true, happly]

/-- The handler of a zone accepts the targets of a valid bundle exactly when the decoder keeps
their moisture band. -/
theorem patchZone_accepts_iff {z : Platform.ZoneTargets} (hz : z.Valid) (hd : d.Reads)
    (gh : String) {view : Controller.RuntimeView} {zone : Controller.Zone}
    {status : Controller.ZoneStatus}
    (hzone : view.zoneConfigs.find? (·.id.asStr == z.zoneId) = some zone)
    (hstatus : view.zones.find? (·.zoneId == z.zoneId) = some status) :
    Accepts d gh view (.patchZone z) ↔
      d.float z.moistureLowThreshold < d.float z.moistureHighThreshold := by
  constructor
  · rintro ⟨-, zone, schedule, -, -, -, -, -, hvalid⟩
    simp only [Controller.Zone.validate, List.append_eq_nil_iff] at hvalid
    have hband := Controller.violationIf_eq_nil.1 hvalid.2
    change ¬ (F64.fin (d.float z.moistureHighThreshold) ≤
      .fin (d.float z.moistureLowThreshold)) at hband
    rw [F64.fin_le_fin] at hband
    exact not_le.1 hband
  intro hapart
  obtain ⟨schedule, hschedule⟩ := fromStr_of_schedule hz.schedule
  have hbody : zoneBody d z = some (zonePatch d z z.drainPeriodSecs.toNat) := by
    rw [zoneBody, hd.unsigned hz.drain.1 (lt_of_le_of_lt hz.drain.2 (by norm_num))]
    rfl
  have hover : (zonePatch d z z.drainPeriodSecs.toNat).overwrite zone =
      targets d z zone.id schedule := by
    simp [Controller.ZoneConfigPatch.overwrite, zonePatch, targets, hschedule]
  have hband : ¬ (F64.fin (d.float z.moistureHighThreshold) ≤
      .fin (d.float z.moistureLowThreshold)) := by
    rw [F64.fin_le_fin]
    exact not_le.2 hapart
  have hlow : (0 : Int) ≤ z.moistureLowThreshold ∧ z.moistureLowThreshold ≤ (1 : Int) := by
    exact_mod_cast hz.low
  have hhigh : (0 : Int) ≤ z.moistureHighThreshold ∧ z.moistureHighThreshold ≤ (1 : Int) := by
    exact_mod_cast hz.high
  have hvalid : (targets d z zone.id schedule).validate = [] := by
    simp only [Controller.Zone.validate, List.append_eq_nil_iff]
    exact ⟨⟨checkRange_float hd (by decide) (by decide) hlow,
      checkRange_float hd (by decide) (by decide) hhigh⟩, Controller.violationIf_eq_nil.2 hband⟩
  refine ⟨_, zone, schedule, status.accepting (targets d z zone.id schedule), hbody, hzone,
    hschedule, ?_, hvalid⟩
  rw [← hover] at hvalid ⊢
  have happly := Controller.applyZonePatch_of_valid
    (show Controller.patchSchedule _ (some z.schedule) = .ok schedule by
      simp [Controller.patchSchedule, hschedule]) hvalid
  rw [Controller.patchZone, if_neg (not_not.2 rfl), zonePatch_isEmpty, if_neg Bool.false_ne_true,
    hzone, hstatus]
  dsimp only
  rw [happly]

/-- **What the platform validates, as the controller sees it.** Whatever the valid configuration
of the controller and its readings are, if it has the zones of an accepted bundle, its handlers
accept every request of the delivery exactly when the decoder keeps the bands of the bundle. -/
theorem handlers_accept_iff {s : Platform.Setpoints} (hs : Platform.validateSetpoints s = none)
    {d : Decoder} (hd : d.Reads) (gh : String) {H : Type} {pipeline : Controller.Pipeline H}
    (hc : pipeline.config.Valid) (snapshot : Controller.Snapshot)
    (hzones : ∀ z ∈ s.zones, ∃ zone ∈ pipeline.config.zones, zone.id.asStr = z.zoneId) :
    (∀ q ∈ Platform.Reconciler.requests s,
      Accepts d gh (Controller.buildView pipeline snapshot) q) ↔ d.KeepsApart s := by
  have hvalid := Platform.validateSetpoints_eq_none.1 hs
  have hglobal : Accepts d gh (Controller.buildView pipeline snapshot)
      (.patchSetpoints s.toGlobalSetpoints) ↔
        d.float s.humidityLowPct < d.float s.humidityHighPct :=
    patchSetpoints_accepts_iff hvalid hd gh hc.setpoints
  have hzone : ∀ z ∈ s.zones, Accepts d gh (Controller.buildView pipeline snapshot)
      (.patchZone z) ↔ d.float z.moistureLowThreshold < d.float z.moistureHighThreshold := by
    intro z hz
    obtain ⟨zone, hzone, hid⟩ := hzones z hz
    have hsome : (pipeline.config.zones.find? (·.id.asStr == z.zoneId)).isSome := by
      rw [List.find?_isSome]
      exact ⟨zone, hzone, by simpa using hid⟩
    obtain ⟨zone, hfound⟩ := Option.isSome_iff_exists.1 hsome
    have hstatus : (Controller.buildView pipeline snapshot).zones.find? (·.zoneId == z.zoneId) =
        some (Controller.zoneStatus snapshot zone) := by
      simp only [Controller.buildView, List.find?_map]
      exact Option.map_eq_some_iff.2 ⟨zone, hfound, rfl⟩
    exact patchZone_accepts_iff (hvalid.zones z hz) hd gh hfound hstatus
  constructor
  · intro h
    refine ⟨hglobal.1 (h _ List.mem_cons_self), fun z hz => (hzone z hz).1 (h _ ?_)⟩
    exact List.mem_cons_of_mem _ (List.mem_map_of_mem hz)
  · rintro h q hq
    rcases List.mem_cons.1 hq with rfl | hq
    · exact hglobal.2 h.humidity
    · obtain ⟨z, hz, rfl⟩ := List.mem_map.1 hq
      exact (hzone z hz).2 (h.moisture z hz)

/-! ## Samples -/

/-- A snapshot without readings, everything off. -/
def idleSnapshot : Controller.Snapshot where
  tickIndex := 0
  simSeconds := 0
  trusted := ⟨none, none, none, none, none, ∅⟩
  resolved := ⟨24, none, 50, 85, 5, 1000, 15, 20⟩
  commanded := .allOff []
  observed := .allOff []
  overrides := ∅
  faults := []
  mode := .normal
  dliMol := 0

/-- The example configuration, just loaded. -/
def benchPipeline : Controller.Pipeline Unit :=
  .withClock (Controller.Bench.config {}) () .new

theorem benchPipeline_config : benchPipeline.config = Controller.Bench.config {} := rfl

/-- A decoder that rounds nothing. -/
def exactDecoder : Decoder := ⟨id, fun bits n => if n < 2 ^ bits then some n.toNat else none⟩

theorem exactDecoder_reads : exactDecoder.Reads where
  unsigned _ h := if_pos h
  le_float _ h := h
  float_le _ h := h

/-- The handlers of the example configuration accept the bundle of the bench, whose numbers have
few digits. -/
theorem handlers_accept_iff_bench :
    List.Forall (Accepts exactDecoder "gh-a" (Controller.buildView benchPipeline idleSnapshot))
      (Platform.Reconciler.requests Platform.benchBundle) := by
  have hvalid : Platform.validateSetpoints Platform.benchBundle = none := by decide +kernel
  refine List.forall_iff_forall_mem.2 ((handlers_accept_iff hvalid exactDecoder_reads "gh-a" ?_
    idleSnapshot fun z hz => ?_).2 ?_)
  · rw [benchPipeline_config]
    exact Controller.Bench.config_valid
  · obtain rfl := List.mem_singleton.1 hz
    exact ⟨Controller.Bench.benchA, List.mem_cons_self, rfl⟩
  · exact Decoder.keepsApart_of_strictMono strictMono_id
      (Platform.validateSetpoints_eq_none.1 hvalid)

/-- The bench with a humidity band of two neighbouring numbers. -/
def narrowBundle : Platform.Setpoints :=
  { Platform.benchBundle with
    humidityLowPct := 95.48755172
    humidityHighPct := 95.48755172000001 }

/-- A decoder that reads the longer of the two as the other: its sixteen digits are an integer
above `2 ^ 53`, which is rounded before it is divided by a power of ten. -/
def roundingDecoder : Decoder :=
  { exactDecoder with
    float := fun q => if q = 95.48755172000001 then 95.48755172 else q }

theorem roundingDecoder_reads : roundingDecoder.Reads where
  unsigned := exactDecoder_reads.unsigned
  le_float {n q} _ h := by
    change (n : ℚ) ≤ if q = 95.48755172000001 then 95.48755172 else q
    split
    case isTrue hq =>
      have hn : n ≤ 95 := by
        have hlt : (n : ℚ) < 96 := lt_of_le_of_lt h (by rw [hq]; norm_num)
        have : n < 96 := by exact_mod_cast hlt
        omega
      have hcast : (n : ℚ) ≤ 95 := by exact_mod_cast hn
      exact hcast.trans (by norm_num)
    case isFalse => exact h
  float_le {n q} _ h := by
    change (if q = 95.48755172000001 then 95.48755172 else q) ≤ (n : ℚ)
    split
    case isTrue hq => exact le_trans (by rw [hq]; norm_num) h
    case isFalse => exact h

/-- The platform accepts a band that the controller reads as empty and refuses. -/
theorem narrow_refused :
    Platform.validateSetpoints narrowBundle = none ∧ roundingDecoder.Reads ∧
      benchPipeline.config.Valid ∧
      (∀ z ∈ narrowBundle.zones, ∃ zone ∈ benchPipeline.config.zones, zone.id.asStr = z.zoneId) ∧
      (globalSetpointsBody roundingDecoder narrowBundle.toGlobalSetpoints).map
          (Controller.patchSetpoints "gh-a" "gh-a"
            (Controller.buildView benchPipeline idleSnapshot)) =
        some (.error (.unprocessable
          (.new "humidity_low_pct" "must be < humidity_high_pct" (.number 95.48755172)))) ∧
      ¬ ∀ q ∈ Platform.Reconciler.requests narrowBundle,
        Accepts roundingDecoder "gh-a" (Controller.buildView benchPipeline idleSnapshot) q := by
  refine ⟨by decide +kernel, roundingDecoder_reads, ?_, fun z hz => ?_, by decide +kernel,
    fun h => ?_⟩
  · rw [benchPipeline_config]
    exact Controller.Bench.config_valid
  · obtain rfl := List.mem_singleton.1 hz
    exact ⟨Controller.Bench.benchA, List.mem_cons_self, rfl⟩
  · obtain ⟨-, dayStart, dayEnd, -, -, -, -, hvalid⟩ := h _ List.mem_cons_self
    have hapart := apart_of_settings hvalid
    revert hapart
    decide +kernel

end Greenhouse.Contract
