import Std.Data.TreeMap
import Std.Data.TreeSet
import Greenhouse.Numeric.Decimal

/-!
# Domain types of the controller

`Actuator` and `ClimateVariable` are the closed enumerations of `domain.rs`; `Slug`,
`TimeOfDay` and `Schedule` are its parsed strings, each carrying what its parser has
checked; `Clock` is the simulated clock of `clock.rs`.

A parser returns `none` where the source returns an error: the text of these errors is
only printed by the configuration loader.
-/

namespace Greenhouse.Controller

open Greenhouse.Numeric

/-- The eight controllable actuators. -/
inductive Actuator where
  | heater
  | fans
  | roofVents
  | misters
  | co2Injector
  | growLights
  | shadeScreen
  | irrigationValve
  deriving DecidableEq

/-- A climate state variable an actuator can affect. -/
inductive ClimateVariable where
  | temperature
  | humidity
  | co2
  | par
  | soilMoisture
  deriving DecidableEq

/-! ## Identifiers -/

/-- `b.is_ascii_lowercase() || b.is_ascii_digit()`. -/
def isSlugChar (c : Char) : Bool := ('a' ≤ c && c ≤ 'z') || ('0' ≤ c && c ≤ '9')

/-- Every hyphen-separated segment is non-empty and made of slug characters. -/
def slugValid (s : String) : Bool :=
  !s.toList.isEmpty && (s.toList.splitOn '-').all fun seg => !seg.isEmpty && seg.all isSlugChar

/-- A lowercase kebab-case identifier. -/
structure Slug where
  asStr : String
  valid : slugValid asStr = true
  deriving DecidableEq

theorem Slug.ext {a b : Slug} (h : a.asStr = b.asStr) : a = b := by
  cases a
  cases b
  cases h
  rfl

def Slug.fromStr (s : String) : Option Slug :=
  if h : slugValid s = true then some ⟨s, h⟩ else none

theorem Slug.fromStr_eq_some {s : String} {z : Slug} : Slug.fromStr s = some z ↔ z.asStr = s := by
  unfold Slug.fromStr
  constructor
  · intro h
    split at h
    case isTrue hs =>
      cases h
      rfl
    case isFalse => cases h
  · rintro rfl
    rw [dif_pos z.valid]

/-- A member of a list that is not the separator is in one of the segments. -/
theorem exists_mem_splitOn {α : Type} [DecidableEq α] {a c : α} {l : List α} (h : c ∈ l)
    (hne : c ≠ a) : ∃ seg ∈ l.splitOn a, c ∈ seg := by
  induction l with
  | nil => cases h
  | cons d l ih =>
    rw [List.splitOn_cons_eq_if_modifyHead]
    by_cases hd : d = a
    · rw [if_pos (beq_iff_eq.2 hd)]
      rcases List.mem_cons.1 h with heq | hmem
      · exact absurd (heq.trans hd) hne
      · obtain ⟨seg, hseg, hc⟩ := ih hmem
        exact ⟨seg, List.mem_cons_of_mem _ hseg, hc⟩
    · rw [if_neg fun heq => hd (beq_iff_eq.1 heq)]
      obtain ⟨first, rest, hsplit⟩ := List.exists_cons_of_ne_nil (List.splitOn_ne_nil a l)
      rw [hsplit] at ih ⊢
      rw [List.modifyHead_cons]
      rcases List.mem_cons.1 h with heq | hmem
      · exact ⟨d :: first, List.mem_cons_self, heq ▸ List.mem_cons_self⟩
      · obtain ⟨seg, hseg, hc⟩ := ih hmem
        rcases List.mem_cons.1 hseg with hfirst | hrest
        · exact ⟨d :: first, List.mem_cons_self, List.mem_cons_of_mem d (hfirst ▸ hc)⟩
        · exact ⟨seg, List.mem_cons_of_mem _ hrest, hc⟩

/-- An identifier is made of slug characters and hyphens. -/
theorem Slug.forall_mem (s : Slug) {c : Char} (h : c ∈ s.asStr.toList) (hne : c ≠ '-') :
    isSlugChar c = true := by
  have hall := (Bool.and_eq_true_iff.1 s.valid).2
  obtain ⟨seg, hseg, hc⟩ := exists_mem_splitOn h hne
  have hone := List.all_eq_true.1 hall seg hseg
  exact List.all_eq_true.1 (Bool.and_eq_true_iff.1 hone).2 c hc

theorem Slug.slash_notMem (s : Slug) : '/' ∉ s.asStr.toList := by
  intro h
  have hslug := s.forall_mem h (by decide)
  exact absurd hslug (by decide)

theorem Slug.asStr_ne_empty (s : Slug) : s.asStr ≠ "" := by
  intro h
  have hvalid := (Bool.and_eq_true_iff.1 s.valid).1
  rw [h] at hvalid
  exact absurd hvalid (by decide)

/-! ## Times of day -/

def digitValue (c : Char) : Option Nat :=
  if '0' ≤ c ∧ c ≤ '9' then some (c.toNat - '0'.toNat) else none

/-- The value of a string of decimal digits, read from the left onto `acc`. -/
def digitsValue : Nat → List Char → Option Nat
  | acc, [] => some acc
  | acc, c :: cs => (digitValue c).bind fun d => digitsValue (10 * acc + d) cs

/-- `str::parse::<u8>`: digits with an optional leading plus sign, up to `255`. -/
def parseU8 (cs : List Char) : Option Nat :=
  let digits := match cs with
    | '+' :: rest => rest
    | _ => cs
  if digits = [] then none
  else (digitsValue 0 digits).filter (· ≤ 255)

/-- `str::len` counts bytes. -/
def byteLen (cs : List Char) : Nat := (cs.map Char.utf8Size).sum

/-- `str::split_once`. -/
def splitOnce (sep : Char) (cs : List Char) : Option (List Char × List Char) :=
  match cs.dropWhile (· != sep) with
  | [] => none
  | _ :: rest => some (cs.takeWhile (· != sep), rest)

/-- A local time of day, `HH:MM`. -/
structure TimeOfDay where
  hour : Nat
  minute : Nat
  hour_le : hour ≤ 23
  minute_le : minute ≤ 59
  deriving DecidableEq

namespace TimeOfDay

def minutesSinceMidnight (t : TimeOfDay) : Nat := t.hour * 60 + t.minute

/-- The derived order: by hour, then by minute. -/
instance : LT TimeOfDay := ⟨fun a b => a.hour < b.hour ∨ (a.hour = b.hour ∧ a.minute < b.minute)⟩

instance (a b : TimeOfDay) : Decidable (a < b) :=
  inferInstanceAs (Decidable (a.hour < b.hour ∨ (a.hour = b.hour ∧ a.minute < b.minute)))

theorem lt_iff_minutes {a b : TimeOfDay} :
    a < b ↔ a.minutesSinceMidnight < b.minutesSinceMidnight := by
  change a.hour < b.hour ∨ (a.hour = b.hour ∧ a.minute < b.minute) ↔ _
  have ha := a.minute_le
  have hb := b.minute_le
  unfold minutesSinceMidnight
  omega

theorem minutesSinceMidnight_lt (t : TimeOfDay) : t.minutesSinceMidnight < 1440 := by
  have h := t.hour_le
  have h' := t.minute_le
  unfold minutesSinceMidnight
  omega

def parse (cs : List Char) : Option TimeOfDay := do
  let (h, m) ← splitOnce ':' cs
  if byteLen h ≠ 2 ∨ byteLen m ≠ 2 then none
  else
    let hour ← parseU8 h
    let minute ← parseU8 m
    if hh : hour ≤ 23 ∧ minute ≤ 59 then some ⟨hour, minute, hh.1, hh.2⟩ else none

def fromStr (s : String) : Option TimeOfDay := parse s.toList

/-- `{:02}:{:02}`. -/
def toString (t : TimeOfDay) : String :=
  String.ofList (padded 2 t.hour ++ ':' :: padded 2 t.minute)

example : (fromStr "06:30").map minutesSinceMidnight = some 390 := by decide

end TimeOfDay

/-- One or more times of day. -/
structure Schedule where
  times : List TimeOfDay
  nonempty : times ≠ []
  deriving DecidableEq

namespace Schedule

/-- Parse a comma-separated list; the empty string is refused. -/
def fromStr (s : String) : Option Schedule :=
  if s.toList = [] then none
  else
    match (s.toList.splitOn ',').mapM TimeOfDay.parse with
    | some (t :: ts) => some ⟨t :: ts, List.cons_ne_nil t ts⟩
    | _ => none

def toString (s : Schedule) : String := ",".intercalate (s.times.map TimeOfDay.toString)

end Schedule

/-! ## The clock -/

/-- Simulated seconds per tick. -/
def dtSecs : Nat := 1

/-- A tick counter plus simulated seconds since a day-aligned epoch. -/
structure Clock where
  tickIndex : Nat
  simSeconds : Nat
  deriving DecidableEq

namespace Clock

def daySecs : Nat := 86400

def startingAtSeconds (simSeconds : Nat) : Clock := ⟨0, simSeconds⟩

/-- A clock starting at midnight. -/
def new : Clock := startingAtSeconds 0

def advance (c : Clock) : Clock := ⟨c.tickIndex + 1, c.simSeconds + dtSecs⟩

@[simp] theorem advance_tickIndex (c : Clock) : c.advance.tickIndex = c.tickIndex + 1 := rfl

def secondOfDay (c : Clock) : Nat := c.simSeconds % daySecs

def minuteOfDay (c : Clock) : Nat := c.secondOfDay / 60

/-- The time of day lies in `[start, end)`. -/
def isWithin (c : Clock) (start stop : TimeOfDay) : Bool :=
  start.minutesSinceMidnight ≤ c.minuteOfDay && c.minuteOfDay < stop.minutesSinceMidnight

end Clock

/-! ## Addresses of actuators -/

/-- A house-level actuator, or the irrigation valve of a zone. -/
inductive ActuatorId where
  | house (a : Actuator)
  | valve (zone : Slug)
  deriving DecidableEq

/-- The position of an actuator in declaration order. -/
def Actuator.rank : Actuator → Nat
  | .heater => 0
  | .fans => 1
  | .roofVents => 2
  | .misters => 3
  | .co2Injector => 4
  | .growLights => 5
  | .shadeScreen => 6
  | .irrigationValve => 7

theorem Actuator.rank_injective {a b : Actuator} (h : a.rank = b.rank) : a = b := by
  cases a <;> cases b <;> first | rfl | cases h

instance : Ord Actuator := ⟨compareOn Actuator.rank⟩

instance : Std.TransOrd Actuator := inferInstanceAs (Std.TransCmp (compareOn Actuator.rank))

instance : Std.LawfulEqOrd Actuator where
  compare_self := @Std.ReflCmp.compare_self _ (compareOn Actuator.rank) _
  eq_of_compare h := Actuator.rank_injective (Std.LawfulEqOrd.eq_of_compare h)

instance : Ord Slug := ⟨compareOn Slug.asStr⟩

instance : Std.TransOrd Slug := inferInstanceAs (Std.TransCmp (compareOn Slug.asStr))

instance : Std.LawfulEqOrd Slug where
  compare_self := @Std.ReflCmp.compare_self _ (compareOn Slug.asStr) _
  eq_of_compare h := Slug.ext (Std.LawfulEqOrd.eq_of_compare h)

namespace ActuatorId

/-- The rank of the actuator addressed; every valve comes after the house actuators. -/
def rank : ActuatorId → Nat
  | house a => a.rank
  | valve _ => 8

def zoneName : ActuatorId → String
  | house _ => ""
  | valve z => z.asStr

/-- The derived order: house actuators in declaration order, then the valves by zone. -/
def cmp : ActuatorId → ActuatorId → Ordering := compareLex (compareOn rank) (compareOn zoneName)

instance : Ord ActuatorId := ⟨cmp⟩

instance : Std.TransOrd ActuatorId :=
  inferInstanceAs (Std.TransCmp (compareLex (compareOn rank) (compareOn zoneName)))

theorem ext_rank_zoneName {a b : ActuatorId} (h : a.rank = b.rank) (hz : a.zoneName = b.zoneName) :
    a = b := by
  cases a with
  | house a =>
    cases b with
    | house b => rw [Actuator.rank_injective h]
    | valve z => cases a <;> cases h
  | valve y =>
    cases b with
    | house b => cases b <;> cases h
    | valve z => rw [Slug.ext hz]

instance : Std.LawfulEqOrd ActuatorId where
  compare_self := @Std.ReflCmp.compare_self _ (compareLex (compareOn rank) (compareOn zoneName)) _
  eq_of_compare {a b} h := by
    have h' := compareLex_eq_eq.1 h
    exact ext_rank_zoneName (Std.LawfulEqOrd.eq_of_compare h'.1)
      (Std.LawfulEqOrd.eq_of_compare h'.2)

end ActuatorId

end Greenhouse.Controller
