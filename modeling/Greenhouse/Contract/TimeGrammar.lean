import Mathlib.Data.List.TakeWhile
import Greenhouse.Text.Separated
import Greenhouse.Contract.Acceptance

/-!
# The grammar of times and schedules

A time of day is `([01][0-9]|2[0-3]):[0-5][0-9]`, and a schedule is a list of such times with
commas between them. The platform matches a text against the pattern. The controller splits it
at the colon and parses two fields of two bytes as numbers; the parser of numbers also reads a
plus sign.

* `isHhmm_iff`, `scheduleRe_iff`: the platform's checks are the patterns.
* `parse_isSome_iff`, `fromStr_isSome_iff`: the texts the controller accepts.
* `toString_of_parse`: a time that is accepted without a plus sign is formatted as it was written.
* `oneGrammar_iff`: both sides agree on a text, and formatting gives it back, exactly when it is
  not a list of times one of which has a plus sign.
-/

namespace Greenhouse.Contract

open Greenhouse.Text RegularExpression

/-! ## The grammar -/

/-- The digits up to `n`. -/
def digitsTo (n : ℕ) : List Char := (List.range (n + 1)).map fun d => Char.ofNat (48 + d)

/-- `([01][0-9]|2[0-3]):[0-5][0-9]`. -/
def hhmm : RegularExpression Char :=
  (oneOf (digitsTo 1) * oneOf (digitsTo 9) + char '2' * oneOf (digitsTo 3)) *
    (char ':' * (oneOf (digitsTo 5) * oneOf (digitsTo 9)))

/-- `([01][0-9]|2[0-3]):[0-5][0-9](,([01][0-9]|2[0-3]):[0-5][0-9])*`. -/
def schedule : RegularExpression Char := separated ',' hhmm

/-! ## Digits -/

theorem DigitOf.toNat_eq {c : Char} {d : ℕ} (h : DigitOf c d) : c.toNat = 48 + d := by
  have hvalue := h.value
  unfold Controller.digitValue at hvalue
  split at hvalue
  · rename_i hrange
    have hlow : 48 ≤ c.toNat := hrange.1
    have hd : c.toNat - 48 = d := Option.some.inj hvalue
    omega
  · cases hvalue

theorem DigitOf.eq_ofNat {c : Char} {d : ℕ} (h : DigitOf c d) : c = Char.ofNat (48 + d) := by
  rw [← h.toNat_eq, Char.ofNat_toNat]

theorem digitOf_of_value {c : Char} {d : ℕ} (h : Controller.digitValue c = some d) :
    DigitOf c d := by
  have hvalue := h
  unfold Controller.digitValue at hvalue
  split at hvalue
  · rename_i hrange
    obtain ⟨d', hd', -, -⟩ := exists_digit hrange.1 hrange.2 (by decide) (by decide)
    obtain rfl : d' = d := Option.some.inj (hd'.value.symm.trans h)
    exact hd'
  · cases hvalue

theorem mem_digitsTo {c : Char} {n : ℕ} (hn : n ≤ 9) : c ∈ digitsTo n ↔ ∃ d ≤ n, DigitOf c d := by
  unfold digitsTo
  constructor
  · intro h
    obtain ⟨d, hd, rfl⟩ := List.mem_map.1 h
    have hle : d ≤ n := Nat.lt_succ_iff.1 (List.mem_range.1 hd)
    exact ⟨d, hle, digitOf_ofNat (by omega)⟩
  · rintro ⟨d, hd, h⟩
    exact List.mem_map.2 ⟨d, List.mem_range.2 (by omega), h.eq_ofNat.symm⟩

theorem between_iff {c : Char} {n : ℕ} (hn : n ≤ 9) :
    '0' ≤ c ∧ c ≤ Char.ofNat (48 + n) ↔ ∃ d ≤ n, DigitOf c d := by
  have hupp : (Char.ofNat (48 + n)).toNat = 48 + n := (digitOf_ofNat (by omega)).toNat_eq
  constructor
  · rintro ⟨hlo, hhi⟩
    have hhi' : c.toNat ≤ (Char.ofNat (48 + n)).toNat := hhi
    have h9 : Char.ofNat (48 + n) ≤ '9' := by
      change (Char.ofNat (48 + n)).toNat ≤ 57
      omega
    obtain ⟨d, hd, -, hle⟩ := exists_digit hlo hhi (by decide) h9
    exact ⟨d, by omega, hd⟩
  · rintro ⟨d, hd, h⟩
    have hc := h.toNat_eq
    constructor
    · change 48 ≤ c.toNat
      omega
    · change c.toNat ≤ (Char.ofNat (48 + n)).toNat
      omega

theorem DigitOf.ne_comma {c : Char} {d : ℕ} (h : DigitOf c d) : ',' ≠ c := by
  rintro rfl
  have hnat := h.toNat_eq
  have hcomma : ','.toNat = 44 := rfl
  omega

/-- The digits of a time of day. -/
def TimeDigits (cs : List Char) : Prop :=
  ∃ h₁ h₂ m₁ m₂ a b c d, cs = [h₁, h₂, ':', m₁, m₂] ∧ DigitOf h₁ a ∧ DigitOf h₂ b ∧
    DigitOf m₁ c ∧ DigitOf m₂ d ∧ 10 * a + b ≤ 23 ∧ c ≤ 5

theorem mem_hhmm {cs : List Char} : cs ∈ hhmm.matches' ↔ TimeDigits cs := by
  simp only [hhmm, matches'_mul, matches'_add, Language.mem_mul, Language.mem_add, mem_oneOf,
    mem_char, mem_digitsTo (by decide : 1 ≤ 9), mem_digitsTo (by decide : 9 ≤ 9),
    mem_digitsTo (by decide : 3 ≤ 9), mem_digitsTo (by decide : 5 ≤ 9)]
  constructor
  · rintro ⟨_, hour, _, ⟨_, rfl, _, ⟨_, ⟨m₁, ⟨c, hc5, hc⟩, rfl⟩, _, ⟨m₂, ⟨d, -, hd⟩, rfl⟩, rfl⟩,
      rfl⟩, rfl⟩
    rcases hour with ⟨_, ⟨h₁, ⟨a, ha1, ha⟩, rfl⟩, _, ⟨h₂, ⟨b, hb9, hb⟩, rfl⟩, rfl⟩ |
      ⟨_, rfl, _, ⟨h₂, ⟨b, hb3, hb⟩, rfl⟩, rfl⟩
    · exact ⟨h₁, h₂, m₁, m₂, a, b, c, d, rfl, ha, hb, hc, hd, by omega, hc5⟩
    · exact ⟨'2', h₂, m₁, m₂, 2, b, c, d, rfl, digitOf_ofNat (by decide : 2 < 10), hb, hc, hd,
        by omega, hc5⟩
  · rintro ⟨h₁, h₂, m₁, m₂, a, b, c, d, rfl, ha, hb, hc, hd, hhour, hc5⟩
    refine ⟨[h₁, h₂], ?_, [':', m₁, m₂], ⟨[':'], rfl, [m₁, m₂], ⟨[m₁], ⟨m₁, ⟨c, hc5, hc⟩, rfl⟩,
      [m₂], ⟨m₂, ⟨d, hd.le_nine, hd⟩, rfl⟩, rfl⟩, rfl⟩, rfl⟩
    by_cases htwo : a ≤ 1
    · left
      exact ⟨[h₁], ⟨h₁, ⟨a, htwo, ha⟩, rfl⟩, [h₂], ⟨h₂, ⟨b, hb.le_nine, hb⟩, rfl⟩, rfl⟩
    · right
      obtain rfl : a = 2 := by omega
      exact ⟨[h₁], congrArg (fun x => [x]) ha.eq_ofNat, [h₂], ⟨h₂, ⟨b, by omega, hb⟩, rfl⟩, rfl⟩

theorem DigitOf.isDigit {c : Char} {d : ℕ} (h : DigitOf c d) : Platform.isDigit c = true := by
  obtain ⟨hlo, hhi⟩ := (between_iff (by decide : 9 ≤ 9)).2 ⟨d, h.le_nine, h⟩
  exact Bool.and_eq_true_iff.2 ⟨decide_eq_true hlo, decide_eq_true hhi⟩

theorem exists_digitOf {c : Char} (h : Platform.isDigit c = true) : ∃ d, DigitOf c d := by
  obtain ⟨hlo, hhi⟩ := Bool.and_eq_true_iff.1 h
  obtain ⟨d, hd, -⟩ := exists_digit (of_decide_eq_true hlo) (of_decide_eq_true hhi) (by decide)
    (by decide)
  exact ⟨d, hd⟩

/-- **The platform's check of a time is its pattern.** -/
theorem isHhmm_iff {cs : List Char} : Platform.isHhmm cs = true ↔ cs ∈ hhmm.matches' := by
  rw [mem_hhmm]
  constructor
  · exact digits_of_isHhmm
  · rintro ⟨h₁, h₂, m₁, m₂, a, b, c, d, rfl, ha, hb, hc, hd, hhour, hc5⟩
    obtain ⟨hlo, hhi⟩ := (between_iff (by decide : 5 ≤ 9)).2 ⟨c, hc5, hc⟩
    have hhi' : m₁ ≤ '5' := hhi
    have hfields : (h₁ = '0' ∨ h₁ = '1') ∨ h₁ = '2' ∧ '0' ≤ h₂ ∧ h₂ ≤ '3' := by
      have ha' := ha.eq_ofNat
      obtain rfl | rfl | rfl : a = 0 ∨ a = 1 ∨ a = 2 := by omega
      · exact Or.inl (Or.inl ha')
      · exact Or.inl (Or.inr ha')
      · exact Or.inr ⟨ha', (between_iff (by decide : 3 ≤ 9)).2 ⟨b, by omega, hb⟩⟩
    simp only [Platform.isHhmm, hb.isDigit, hd.isDigit, hlo, hhi', decide_true, Bool.and_true,
      Bool.or_eq_true, Bool.and_eq_true, beq_iff_eq, decide_eq_true_eq]
    exact hfields.imp_right fun h => ⟨⟨h.1, h.2.1⟩, h.2.2⟩

theorem comma_notMem {cs : List Char} (h : cs ∈ hhmm.matches') : ',' ∉ cs := by
  obtain ⟨h₁, h₂, m₁, m₂, a, b, c, d, rfl, ha, hb, hc, hd, -, -⟩ := mem_hhmm.1 h
  simp only [List.mem_cons, List.not_mem_nil, or_false, not_or]
  exact ⟨ha.ne_comma, hb.ne_comma, by decide, hc.ne_comma, hd.ne_comma⟩

theorem hhmmRe_iff {s : String} :
    Platform.hhmmRe.matchString s = true ↔ s.toList ∈ hhmm.matches' := isHhmm_iff

/-- **The platform's check of a schedule is its pattern.** -/
theorem scheduleRe_iff {s : String} :
    Platform.scheduleRe.matchString s = true ↔ s.toList ∈ schedule.matches' := by
  rw [schedule, mem_separated fun w => comma_notMem]
  simp only [← isHhmm_iff]
  exact List.all_eq_true

/-! ## The controller's parsers -/

/-- A field of the controller's grammar: two digits up to `max`, or a plus sign and a digit. -/
def looseField (max : ℕ) (x y : Char) : Bool :=
  (Platform.isDigit x && Platform.isDigit y &&
    decide (10 * Platform.digit x + Platform.digit y ≤ max)) || (x == '+' && Platform.isDigit y)

/-- A time of the controller's grammar. -/
def isLoose : List Char → Bool
  | [h, h', ':', m, m'] => looseField 23 h h' && looseField 59 m m'
  | _ => false

/-- The value of a field of two characters. -/
def FieldOf (x y : Char) (v : ℕ) : Prop :=
  (∃ a b, DigitOf x a ∧ DigitOf y b ∧ v = 10 * a + b) ∨ (x = '+' ∧ DigitOf y v)

theorem looseField_iff {max : ℕ} {x y : Char} (hmax : 9 ≤ max) :
    looseField max x y = true ↔ ∃ v ≤ max, FieldOf x y v := by
  simp only [looseField, Bool.or_eq_true, Bool.and_eq_true, decide_eq_true_eq, beq_iff_eq]
  constructor
  · rintro (⟨⟨hx, hy⟩, hle⟩ | ⟨rfl, hy⟩)
    · obtain ⟨a, ha⟩ := exists_digitOf hx
      obtain ⟨b, hb⟩ := exists_digitOf hy
      rw [ha.digit, hb.digit] at hle
      exact ⟨_, hle, Or.inl ⟨a, b, ha, hb, rfl⟩⟩
    · obtain ⟨b, hb⟩ := exists_digitOf hy
      exact ⟨b, hb.le_nine.trans hmax, Or.inr ⟨rfl, hb⟩⟩
  · rintro ⟨v, hv, ⟨a, b, ha, hb, rfl⟩ | ⟨rfl, hb⟩⟩
    · left
      rw [ha.digit, hb.digit]
      exact ⟨⟨ha.isDigit, hb.isDigit⟩, hv⟩
    · exact Or.inr ⟨rfl, hb.isDigit⟩

theorem forall_digitOf {cs : List Char} : ∀ {acc v : ℕ},
    Controller.digitsValue acc cs = some v → ∀ c ∈ cs, ∃ d, DigitOf c d := by
  induction cs with
  | nil => intro acc v _; exact List.forall_mem_nil _
  | cons c cs ih =>
    intro acc v h
    obtain ⟨d, hd, hrest⟩ := Option.bind_eq_some_iff.1 h
    exact List.forall_mem_cons.2 ⟨⟨d, digitOf_of_value hd⟩, ih hrest⟩

theorem byteLen_of_digits {cs : List Char} (h : ∀ c ∈ cs, ∃ d, DigitOf c d) :
    Controller.byteLen cs = cs.length := by
  induction cs with
  | nil => rfl
  | cons c cs ih =>
    obtain ⟨⟨d, hd⟩, hcs⟩ := List.forall_mem_cons.1 h
    have hrest := ih hcs
    unfold Controller.byteLen at hrest ⊢
    rw [List.map_cons, List.sum_cons, hrest, hd.size, List.length_cons, Nat.add_comm]

theorem parseU8_plus {rest : List Char} {v : ℕ} (h : Controller.parseU8 ('+' :: rest) = some v) :
    rest ≠ [] ∧ Controller.digitsValue 0 rest = some v := by
  change (if rest = [] then none else (Controller.digitsValue 0 rest).filter _) = some v at h
  by_cases hrest : rest = []
  · rw [if_pos hrest] at h
    cases h
  · rw [if_neg hrest] at h
    exact ⟨hrest, Option.eq_some_of_filter_eq_some h⟩

theorem parseU8_unsigned {x : Char} {rest : List Char} {v : ℕ} (hx : x ≠ '+')
    (h : Controller.parseU8 (x :: rest) = some v) :
    Controller.digitsValue 0 (x :: rest) = some v := by
  have heq : Controller.parseU8 (x :: rest) =
      (Controller.digitsValue 0 (x :: rest)).filter (· ≤ 255) := by
    simp [Controller.parseU8, hx]
  exact Option.eq_some_of_filter_eq_some (heq.symm.trans h)

/-- **What the parser of numbers reads from two bytes**: a field. -/
theorem parseU8_iff {cs : List Char} {v : ℕ} (hlen : Controller.byteLen cs = 2) :
    Controller.parseU8 cs = some v ↔ ∃ x y, cs = [x, y] ∧ FieldOf x y v := by
  constructor
  · intro h
    rcases cs with - | ⟨x, rest⟩
    · exact absurd hlen (by decide)
    · by_cases hplus : x = '+'
      · subst hplus
        obtain ⟨-, hvalue⟩ := parseU8_plus h
        have hdigits := forall_digitOf hvalue
        have hrest : Controller.byteLen rest = 1 := by
          change 1 + Controller.byteLen rest = 2 at hlen
          omega
        rw [byteLen_of_digits hdigits] at hrest
        obtain ⟨y, rfl⟩ := List.length_eq_one_iff.1 hrest
        obtain ⟨d, hd⟩ := hdigits y List.mem_cons_self
        have hv : d = v := by
          simpa [Controller.digitsValue, hd.value] using hvalue
        exact ⟨'+', y, rfl, Or.inr ⟨rfl, hv ▸ hd⟩⟩
      · have hvalue := parseU8_unsigned hplus h
        have hdigits := forall_digitOf hvalue
        rw [byteLen_of_digits hdigits] at hlen
        obtain ⟨y, rfl⟩ := List.length_eq_one_iff.1 (Nat.succ.inj hlen)
        obtain ⟨a, ha⟩ := hdigits x List.mem_cons_self
        obtain ⟨b, hb⟩ := hdigits y (by simp)
        have hv : 10 * a + b = v := by
          simpa [Controller.digitsValue, ha.value, hb.value] using hvalue
        exact ⟨x, y, rfl, Or.inl ⟨a, b, ha, hb, hv.symm⟩⟩
  · rintro ⟨x, y, rfl, ⟨a, b, ha, hb, rfl⟩ | ⟨rfl, hb⟩⟩
    · exact parseU8_digits ha hb
    · have hle := hb.le_nine
      have hbound : v ≤ 255 := by omega
      simp [Controller.parseU8, Controller.digitsValue, hb.value, hbound]

theorem FieldOf.byteLen {x y : Char} {v : ℕ} (h : FieldOf x y v) :
    Controller.byteLen [x, y] = 2 ∧ x ≠ ':' := by
  rcases h with ⟨a, b, ha, hb, -⟩ | ⟨rfl, hb⟩
  · exact ⟨by simp [Controller.byteLen, ha.size, hb.size], ha.ne_colon⟩
  · refine ⟨?_, by decide⟩
    have hplus : '+'.utf8Size = 1 := by decide
    simp [Controller.byteLen, hplus, hb.size]

theorem FieldOf.ne_colon {x y : Char} {v : ℕ} (h : FieldOf x y v) : y ≠ ':' := by
  rcases h with ⟨a, b, -, hb, -⟩ | ⟨-, hb⟩ <;> exact hb.ne_colon

theorem splitOnce_eq_some {sep : Char} {cs first rest : List Char} :
    Controller.splitOnce sep cs = some (first, rest) ↔
      cs = first ++ sep :: rest ∧ sep ∉ first := by
  unfold Controller.splitOnce
  constructor
  · intro h
    have hcs := List.takeWhile_append_dropWhile (p := (· != sep)) (l := cs)
    cases hdrop : cs.dropWhile (· != sep) with
    | nil =>
      rw [hdrop] at h
      cases h
    | cons d tail =>
      rw [hdrop] at h hcs
      cases h
      have hsep : d = sep := by
        have hhead := List.head?_dropWhile_not (· != sep) cs
        rw [hdrop] at hhead
        simpa using hhead
      constructor
      · rw [hsep] at hcs
        exact hcs.symm
      · intro hmem
        have := List.mem_takeWhile_imp hmem
        simp at this
  · rintro ⟨rfl, hfirst⟩
    have hall : ∀ c ∈ first, (c != sep) = true := by
      intro c hc
      exact bne_iff_ne.2 fun heq => hfirst (heq ▸ hc)
    rw [List.dropWhile_append_of_pos hall, List.takeWhile_append_of_pos hall]
    simp

/-- **What the controller reads as a time**: two fields in range around a colon. -/
theorem parse_eq_some {cs : List Char} {t : Controller.TimeOfDay} :
    Controller.TimeOfDay.parse cs = some t ↔ ∃ h h' m m', cs = [h, h', ':', m, m'] ∧
      FieldOf h h' t.hour ∧ FieldOf m m' t.minute := by
  constructor
  · intro hread
    obtain ⟨⟨first, rest⟩, hsplit, hparse⟩ := Option.bind_eq_some_iff.1 hread
    obtain ⟨hcs, -⟩ := splitOnce_eq_some.1 hsplit
    dsimp only at hparse
    by_cases hlen : Controller.byteLen first ≠ 2 ∨ Controller.byteLen rest ≠ 2
    · rw [if_pos hlen] at hparse
      cases hparse
    · rw [if_neg hlen] at hparse
      rw [not_or, not_not, not_not] at hlen
      obtain ⟨hour, hhour, hrest⟩ := Option.bind_eq_some_iff.1 hparse
      obtain ⟨minute, hminute, hlast⟩ := Option.bind_eq_some_iff.1 hrest
      obtain ⟨h, h', rfl, hfield⟩ := (parseU8_iff hlen.1).1 hhour
      obtain ⟨m, m', rfl, hfield'⟩ := (parseU8_iff hlen.2).1 hminute
      split at hlast
      · cases hlast
        exact ⟨h, h', m, m', hcs, hfield, hfield'⟩
      · cases hlast
  · rintro ⟨h, h', m, m', rfl, hhour, hminute⟩
    obtain ⟨hlen, hcolon⟩ := hhour.byteLen
    obtain ⟨hlen', -⟩ := hminute.byteLen
    have hsplit : Controller.splitOnce ':' [h, h', ':', m, m'] = some ([h, h'], [m, m']) := by
      apply splitOnce_eq_some.2
      refine ⟨rfl, ?_⟩
      simp only [List.mem_cons, List.not_mem_nil, or_false, not_or]
      exact ⟨hcolon.symm, hhour.ne_colon.symm⟩
    have hread := (parseU8_iff hlen).2 ⟨h, h', rfl, hhour⟩
    have hread' := (parseU8_iff hlen').2 ⟨m, m', rfl, hminute⟩
    have hrange : t.hour ≤ 23 ∧ t.minute ≤ 59 := ⟨t.hour_le, t.minute_le⟩
    simp [Controller.TimeOfDay.parse, hsplit, hlen, hlen', hread, hread', hrange]

/-- The texts the controller accepts as a time. -/
theorem parse_isSome_iff {cs : List Char} :
    (Controller.TimeOfDay.parse cs).isSome = true ↔ isLoose cs = true := by
  rw [Option.isSome_iff_exists]
  constructor
  · rintro ⟨t, ht⟩
    obtain ⟨h, h', m, m', rfl, hhour, hminute⟩ := parse_eq_some.1 ht
    apply Bool.and_eq_true_iff.2
    exact ⟨(looseField_iff (by decide)).2 ⟨_, t.hour_le, hhour⟩,
      (looseField_iff (by decide)).2 ⟨_, t.minute_le, hminute⟩⟩
  · intro hloose
    unfold isLoose at hloose
    split at hloose
    · rename_i h h' m m'
      obtain ⟨hhour, hminute⟩ := Bool.and_eq_true_iff.1 hloose
      obtain ⟨hour, hle, hhour⟩ := (looseField_iff (by decide)).1 hhour
      obtain ⟨minute, hle', hminute⟩ := (looseField_iff (by decide)).1 hminute
      exact ⟨⟨hour, minute, hle, hle'⟩, parse_eq_some.2 ⟨h, h', m, m', rfl, hhour, hminute⟩⟩
    · cases hloose

/-! ## The two grammars -/

/-- A field without a plus sign is two digits. -/
theorem FieldOf.digits {x y : Char} {v : ℕ} (h : FieldOf x y v) (hplus : x ≠ '+') :
    ∃ a b, DigitOf x a ∧ DigitOf y b ∧ v = 10 * a + b :=
  h.resolve_right fun hsigned => hplus hsigned.1

theorem padded_digits {x y : Char} {a b : ℕ} (ha : DigitOf x a) (hb : DigitOf y b) :
    Numeric.padded 2 (10 * a + b) = [x, y] := by
  have hall : ∀ a < 10, ∀ b < 10,
      Numeric.padded 2 (10 * a + b) = [Char.ofNat (48 + a), Char.ofNat (48 + b)] := by
    decide
  have ha9 := ha.le_nine
  have hb9 := hb.le_nine
  rw [hall a (by omega) b (by omega), ha.eq_ofNat, hb.eq_ofNat]

/-- The pattern is what the controller accepts without a plus sign. -/
theorem mem_hhmm_iff_loose {cs : List Char} :
    cs ∈ hhmm.matches' ↔ isLoose cs = true ∧ '+' ∉ cs := by
  rw [mem_hhmm, ← parse_isSome_iff, Option.isSome_iff_exists]
  constructor
  · rintro ⟨h₁, h₂, m₁, m₂, a, b, c, d, rfl, ha, hb, hc, hd, hhour, hc5⟩
    have hd9 := hd.le_nine
    refine ⟨⟨⟨10 * a + b, 10 * c + d, hhour, by omega⟩, ?_⟩, ?_⟩
    · exact parse_eq_some.2 ⟨h₁, h₂, m₁, m₂, rfl, Or.inl ⟨a, b, ha, hb, rfl⟩,
        Or.inl ⟨c, d, hc, hd, rfl⟩⟩
    · simp only [List.mem_cons, List.not_mem_nil, or_false, not_or]
      exact ⟨ha.ne_plus.symm, hb.ne_plus.symm, by decide, hc.ne_plus.symm, hd.ne_plus.symm⟩
  · rintro ⟨⟨t, ht⟩, hplus⟩
    obtain ⟨h₁, h₂, m₁, m₂, rfl, hhour, hminute⟩ := parse_eq_some.1 ht
    simp only [List.mem_cons, List.not_mem_nil, or_false, not_or] at hplus
    obtain ⟨a, b, ha, hb, hab⟩ := hhour.digits (Ne.symm hplus.1)
    obtain ⟨c, d, hc, hd, hcd⟩ := hminute.digits (Ne.symm hplus.2.2.2.1)
    have hhour_le := t.hour_le
    have hminute_le := t.minute_le
    exact ⟨h₁, h₂, m₁, m₂, a, b, c, d, rfl, ha, hb, hc, hd, by omega, by omega⟩

/-- **Formatting gives back what was parsed**, unless it has a plus sign. -/
theorem toString_of_parse {cs : List Char} {t : Controller.TimeOfDay}
    (h : Controller.TimeOfDay.parse cs = some t) (hplus : '+' ∉ cs) : t.toString.toList = cs := by
  obtain ⟨h₁, h₂, m₁, m₂, rfl, hhour, hminute⟩ := parse_eq_some.1 h
  simp only [List.mem_cons, List.not_mem_nil, or_false, not_or] at hplus
  obtain ⟨a, b, ha, hb, hab⟩ := hhour.digits (Ne.symm hplus.1)
  obtain ⟨c, d, hc, hd, hcd⟩ := hminute.digits (Ne.symm hplus.2.2.2.1)
  rw [Controller.TimeOfDay.toString, String.toList_ofList, hab, hcd, padded_digits ha hb,
    padded_digits hc hd]
  rfl

/-! ## Schedules -/

theorem mapM_eq_some_iff {α β : Type} {f : α → Option β} {l : List α} : ∀ {bs : List β},
    l.mapM f = some bs ↔ List.Forall₂ (fun a b => f a = some b) l bs := by
  induction l with
  | nil => intro bs; simp [eq_comm]
  | cons a l ih =>
    intro bs
    rw [List.mapM_cons, List.forall₂_cons_left_iff]
    constructor
    · intro h
      obtain ⟨b, hb, hrest⟩ := Option.bind_eq_some_iff.1 h
      obtain ⟨bs', hbs, heq⟩ := Option.bind_eq_some_iff.1 hrest
      exact ⟨b, bs', hb, ih.1 hbs, (Option.some.inj heq).symm⟩
    · rintro ⟨b, bs', hb, hbs, rfl⟩
      rw [hb, ih.2 hbs]
      rfl

/-- The times of a schedule are those of the parts of its text. -/
theorem schedule_eq_some {s : String} {times : Controller.Schedule}
    (h : Controller.Schedule.fromStr s = some times) :
    List.Forall₂ (fun part t => Controller.TimeOfDay.parse part = some t)
      (s.toList.splitOn ',') times.times := by
  unfold Controller.Schedule.fromStr at h
  split at h
  · cases h
  · split at h
    · rename_i t ts hparts
      cases h
      exact mapM_eq_some_iff.1 hparts
    · cases h

/-- The texts the controller accepts as a schedule. -/
theorem fromStr_isSome_iff {s : String} : (Controller.Schedule.fromStr s).isSome = true ↔
    ∀ part ∈ s.toList.splitOn ',', isLoose part = true := by
  constructor
  · intro h
    obtain ⟨times, htimes⟩ := Option.isSome_iff_exists.1 h
    have hparts := (schedule_eq_some htimes).imp
      (S := fun part t => isLoose part = true ∧ Controller.TimeOfDay.parse part = some t)
      fun part t ht => ⟨parse_isSome_iff.1 (Option.isSome_of_eq_some ht), ht⟩
    exact ((List.forall₂_and_left _ _).1 hparts).1
  · intro h
    apply Option.isSome_iff_exists.2
    apply fromStr_of_parts
    intro part hpart
    exact Option.isSome_iff_exists.1 (parse_isSome_iff.2 (h part hpart))

/-- The pattern is what the controller accepts without a plus sign. -/
theorem mem_schedule_iff_loose {s : String} : s.toList ∈ schedule.matches' ↔
    (Controller.Schedule.fromStr s).isSome = true ∧ '+' ∉ s.toList := by
  rw [schedule, mem_separated fun w => comma_notMem, fromStr_isSome_iff]
  simp only [mem_hhmm_iff_loose]
  constructor
  · intro h
    refine ⟨fun part hpart => (h part hpart).1, fun hplus => ?_⟩
    obtain ⟨part, hpart, hmem⟩ := Controller.exists_mem_splitOn hplus (by decide : '+' ≠ ',')
    exact (h part hpart).2 hmem
  · rintro ⟨hloose, hplus⟩ part hpart
    exact ⟨hloose part hpart, fun hmem => hplus (mem_of_mem_splitOn hpart hmem)⟩

/-- **Formatting gives back a schedule that was parsed**, unless it has a plus sign. -/
theorem toString_of_schedule {s : String} {times : Controller.Schedule}
    (h : Controller.Schedule.fromStr s = some times) (hplus : '+' ∉ s.toList) :
    times.toString = s := by
  have hparts : ∀ part ∈ s.toList.splitOn ',', '+' ∉ part :=
    fun part hpart hmem => hplus (mem_of_mem_splitOn hpart hmem)
  have hformat : List.Forall₂ (fun part (t : Controller.TimeOfDay) => part = t.toString.toList)
      (s.toList.splitOn ',') times.times := by
    refine ((List.forall₂_and_left _ _).2 ⟨hparts, schedule_eq_some h⟩).imp ?_
    rintro part t ⟨hpart, ht⟩
    exact (toString_of_parse ht hpart).symm
  have hmap : s.toList.splitOn ',' = times.times.map fun t => t.toString.toList := by
    rw [← List.forall₂_map_right_iff (R := (· = ·)), List.forall₂_eq_eq_eq] at hformat
    exact hformat
  apply String.toList_injective
  rw [Controller.Schedule.toString, String.toList_intercalate, List.map_map]
  change [','].intercalate (times.times.map fun t => t.toString.toList) = s.toList
  rw [← hmap, List.intercalate_splitOn]

/-! ## One grammar -/

/-- Both sides accept the pattern's texts and no others, and formatting gives them back. -/
structure OneGrammar (s : String) : Prop where
  time : (Controller.TimeOfDay.fromStr s).isSome = true ↔ s.toList ∈ hhmm.matches'
  times : (Controller.Schedule.fromStr s).isSome = true ↔ s.toList ∈ schedule.matches'
  format : ∀ t, Controller.TimeOfDay.fromStr s = some t → t.toString = s
  formats : ∀ t, Controller.Schedule.fromStr s = some t → t.toString = s
  hhmmRe : (Controller.TimeOfDay.fromStr s).isSome = true ↔ Platform.hhmmRe.matchString s = true
  scheduleRe :
    (Controller.Schedule.fromStr s).isSome = true ↔ Platform.scheduleRe.matchString s = true

/-- A list of times of the controller's grammar, one of them with a plus sign. -/
def Plussed (s : String) : Prop :=
  '+' ∈ s.toList ∧ ∀ part ∈ s.toList.splitOn ',', isLoose part = true

instance : DecidablePred Plussed := fun s =>
  inferInstanceAs (Decidable ('+' ∈ s.toList ∧ ∀ part ∈ s.toList.splitOn ',', isLoose part = true))

/-- A time that is accepted is a schedule of one part. -/
theorem splitOn_of_parse {cs : List Char} {t : Controller.TimeOfDay}
    (h : Controller.TimeOfDay.parse cs = some t) : cs.splitOn ',' = [cs] := by
  obtain ⟨x, x', y, y', rfl, hhour, hminute⟩ := parse_eq_some.1 h
  have hcomma : ∀ {x y : Char} {v : ℕ}, FieldOf x y v → ',' ≠ x ∧ ',' ≠ y := by
    rintro x y v (⟨a, b, ha, hb, -⟩ | ⟨rfl, hb⟩)
    · exact ⟨ha.ne_comma, hb.ne_comma⟩
    · exact ⟨by decide, hb.ne_comma⟩
  apply List.splitOn_eq_singleton
  simp only [List.mem_cons, List.not_mem_nil, or_false, not_or]
  exact ⟨(hcomma hhour).1, (hcomma hhour).2, by decide, (hcomma hminute).1, (hcomma hminute).2⟩

/-- **One grammar on both sides**: a text is read alike by the controller and the platform, by
the pattern, and formatted as it was written, exactly when it is not a list of times of which
one has a plus sign. -/
theorem oneGrammar_iff (s : String) : OneGrammar s ↔ ¬ Plussed s := by
  constructor
  · rintro h ⟨hplus, hloose⟩
    exact (mem_schedule_iff_loose.1 (h.times.1 (fromStr_isSome_iff.2 hloose))).2 hplus
  · intro h
    have hschedule : (Controller.Schedule.fromStr s).isSome = true → '+' ∉ s.toList :=
      fun hsome hplus => h ⟨hplus, fromStr_isSome_iff.1 hsome⟩
    have htime : ∀ t, Controller.TimeOfDay.fromStr s = some t → '+' ∉ s.toList := by
      intro t ht
      apply hschedule
      apply fromStr_isSome_iff.2
      intro part hpart
      rw [splitOn_of_parse ht] at hpart
      rw [List.mem_singleton.1 hpart]
      exact parse_isSome_iff.1 (Option.isSome_of_eq_some ht)
    have hone : (Controller.TimeOfDay.fromStr s).isSome = true ↔ s.toList ∈ hhmm.matches' := by
      rw [mem_hhmm_iff_loose, ← parse_isSome_iff]
      refine ⟨fun hsome => ⟨hsome, ?_⟩, fun hmem => hmem.1⟩
      obtain ⟨t, ht⟩ := Option.isSome_iff_exists.1 hsome
      exact htime t ht
    have hmany : (Controller.Schedule.fromStr s).isSome = true ↔
        s.toList ∈ schedule.matches' := by
      rw [mem_schedule_iff_loose]
      exact ⟨fun hsome => ⟨hsome, hschedule hsome⟩, fun hmem => hmem.1⟩
    refine ⟨hone, hmany, ?_, ?_, hone.trans hhmmRe_iff.symm, hmany.trans scheduleRe_iff.symm⟩
    · intro t ht
      exact String.toList_injective (toString_of_parse ht (htime t ht))
    · intro t ht
      exact toString_of_schedule ht (hschedule (Option.isSome_of_eq_some ht))

/-- The controller reads `+6:30` as half past six; the platform refuses it. -/
theorem not_oneGrammar : ¬ OneGrammar "+6:30" := by
  intro h
  have hreads : (Controller.TimeOfDay.fromStr "+6:30").isSome = true := by decide
  have hrefuses : Platform.hhmmRe.matchString "+6:30" = false := by decide
  exact Bool.false_ne_true (hrefuses.symm.trans (h.hhmmRe.1 hreads))

end Greenhouse.Contract
