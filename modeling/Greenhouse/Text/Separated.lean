import Mathlib.Computability.RegularExpressions

/-!
# Regular expressions of separated lists

* `mem_oneOf`: a character class matches its members.
* `mem_separated`: what `r(,r)*` matches, for words of `r` without the separator, is told by
  splitting at the separator.
-/

namespace Greenhouse.Text

open RegularExpression

variable {α : Type*}

/-- A character class. -/
def oneOf : List α → RegularExpression α
  | [] => 0
  | a :: as => char a + oneOf as

theorem mem_oneOf {as w : List α} : w ∈ (oneOf as).matches' ↔ ∃ a ∈ as, w = [a] := by
  induction as with
  | nil => simp [oneOf, Language.notMem_zero]
  | cons a as ih =>
    rw [oneOf, matches'_add, Language.mem_add, ih, List.exists_mem_cons_iff]
    rfl

theorem mem_char {a : α} {w : List α} : w ∈ (char a).matches' ↔ w = [a] := Iff.rfl

/-- One or more words of `r`, with a separator between them: `r(,r)*`. -/
def separated (sep : α) (r : RegularExpression α) : RegularExpression α :=
  r * star (char sep * r)

theorem intercalate_cons {sep : α} (parts : List (List α)) : ∀ part,
    [sep].intercalate (part :: parts) = part ++ (parts.map (sep :: ·)).flatten := by
  induction parts with
  | nil => intro part; simp
  | cons next parts ih =>
    intro part
    rw [List.intercalate_cons_cons, ih, List.map_cons, List.flatten_cons]
    simp

/-- A member of a part is a member of the whole list. -/
theorem mem_of_mem_splitOn [DecidableEq α] {sep c : α} {w part : List α}
    (hpart : part ∈ w.splitOn sep) (hc : c ∈ part) : c ∈ w := by
  induction w generalizing part with
  | nil =>
    rw [List.splitOn_nil] at hpart
    rwa [List.mem_singleton.1 hpart] at hc
  | cons a w ih =>
    rw [List.splitOn_cons_eq_if_modifyHead] at hpart
    by_cases ha : a = sep
    · rw [if_pos (beq_iff_eq.2 ha)] at hpart
      rcases List.mem_cons.1 hpart with rfl | hpart
      · cases hc
      · exact List.mem_cons_of_mem a (ih hpart hc)
    · rw [if_neg fun heq => ha (beq_iff_eq.1 heq)] at hpart
      obtain ⟨first, rest, hsplit⟩ := List.exists_cons_of_ne_nil (List.splitOn_ne_nil sep w)
      rw [hsplit] at hpart ih
      rcases List.mem_cons.1 hpart with rfl | hpart
      · rcases List.mem_cons.1 hc with rfl | hc
        · exact List.mem_cons_self
        · exact List.mem_cons_of_mem a (ih List.mem_cons_self hc)
      · exact List.mem_cons_of_mem a (ih (List.mem_cons_of_mem first hpart) hc)

/-- **A separated list is matched exactly when each of its parts is.** -/
theorem mem_separated [DecidableEq α] {sep : α} {r : RegularExpression α}
    (hr : ∀ w ∈ r.matches', sep ∉ w) {w : List α} :
    w ∈ (separated sep r).matches' ↔ ∀ part ∈ w.splitOn sep, part ∈ r.matches' := by
  rw [separated, matches'_mul, Language.mem_mul, matches'_star, matches'_mul]
  constructor
  · rintro ⟨first, hfirst, rest, hrest, rfl⟩
    obtain ⟨words, rfl, hwords⟩ := Language.mem_kstar.1 hrest
    obtain ⟨parts, rfl, hparts⟩ : ∃ parts : List (List α), words = parts.map (sep :: ·) ∧
        ∀ part ∈ parts, part ∈ r.matches' := by
      clear hrest
      induction words with
      | nil => exact ⟨[], rfl, List.forall_mem_nil _⟩
      | cons word words ih =>
        obtain ⟨parts, rfl, hparts⟩ := ih fun y hy => hwords y (List.mem_cons_of_mem _ hy)
        obtain ⟨_, rfl, part, hpart, rfl⟩ := Language.mem_mul.1 (hwords word List.mem_cons_self)
        exact ⟨part :: parts, rfl, List.forall_mem_cons.2 ⟨hpart, hparts⟩⟩
    have hall : ∀ part ∈ first :: parts, part ∈ r.matches' :=
      List.forall_mem_cons.2 ⟨hfirst, hparts⟩
    rw [← intercalate_cons, List.splitOn_intercalate sep
      (fun part hpart => hr part (hall part hpart)) (List.cons_ne_nil first parts)]
    exact hall
  · intro hall
    obtain ⟨first, parts, hsplit⟩ := List.exists_cons_of_ne_nil (List.splitOn_ne_nil sep w)
    have hw : w = first ++ (parts.map (sep :: ·)).flatten := by
      rw [← intercalate_cons, ← hsplit, List.intercalate_splitOn]
    rw [hsplit] at hall
    obtain ⟨hfirst, hparts⟩ := List.forall_mem_cons.1 hall
    refine ⟨first, hfirst, (parts.map (sep :: ·)).flatten, ?_, hw.symm⟩
    apply Language.mem_kstar.2
    refine ⟨parts.map (sep :: ·), rfl, ?_⟩
    intro word hword
    obtain ⟨part, hpart, rfl⟩ := List.mem_map.1 hword
    exact Language.mem_mul.2 ⟨[sep], rfl, part, hparts part hpart, rfl⟩

end Greenhouse.Text
