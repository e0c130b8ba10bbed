import Mathlib.Data.List.Find
import Mathlib.Data.List.Nodup

/-!
# Overlays with deadlines

Records are listed under keys, and a key covers some cells. The record in force on a cell is
the newest one that covers it. A second table holds, cell by cell, the effect of the records;
it is set and cleared over all the cells of a key at once, and its effects age on their own.

* `Agree`: every cell has the effect of the record in force on it, or none if there is none.
* `Pending`: the same, but for the records that are due: the state of the tables between two
  removals of what is due.
* `Pending.insert`, `Pending.retain`, `Agree.age`: the operations keep `Pending`.
* `Pending.agree_prune_iff`: removing the records that are due, with the effects on all their
  cells, leads to `Agree` exactly when no record that stays covers one of these cells.
-/

namespace Greenhouse.Process

variable {κ γ ρ χ : Type*}

/-! ## Listings -/

/-- A map that keeps its entries in the order they were made, the newest first. -/
structure Listing (κ ρ : Type*) where
  entries : List (κ × ρ)
  nodup : (entries.map Prod.fst).Nodup

namespace Listing

theorem ext {l l' : Listing κ ρ} (h : l.entries = l'.entries) : l = l' := by
  cases l
  cases l'
  cases h
  rfl

/-- The listing without entries. -/
def empty : Listing κ ρ := ⟨[], List.nodup_nil⟩

/-- Keep the entries that satisfy a predicate. -/
def retain (l : Listing κ ρ) (p : κ → ρ → Bool) : Listing κ ρ where
  entries := l.entries.filter fun e => p e.1 e.2
  nodup := l.nodup.sublist (List.filter_sublist.map _)

/-- Enter a record under a key, in place of the one that is there. -/
def insert [DecidableEq κ] (l : Listing κ ρ) (k : κ) (r : ρ) : Listing κ ρ where
  entries := (k, r) :: (l.retain fun i _ => decide (i ≠ k)).entries
  nodup := by
    refine List.nodup_cons.2 ⟨fun hmem => ?_, (l.retain _).nodup⟩
    obtain ⟨e, he, hk⟩ := List.mem_map.1 hmem
    exact of_decide_eq_true (List.mem_filter.1 he).2 hk

theorem mem_retain {l : Listing κ ρ} {p : κ → ρ → Bool} {e : κ × ρ} :
    e ∈ (l.retain p).entries ↔ e ∈ l.entries ∧ p e.1 e.2 = true := List.mem_filter

theorem mem_insert [DecidableEq κ] {l : Listing κ ρ} {k : κ} {r : ρ} {e : κ × ρ}
    (h : e ∈ (l.insert k r).entries) : e = (k, r) ∨ e ∈ l.entries := by
  rcases List.mem_cons.1 h with h | h
  · exact Or.inl h
  · exact Or.inr (mem_retain.1 h).1

/-- A key has one entry. -/
theorem eq_of_key {l : Listing κ ρ} {e e' : κ × ρ} (he : e ∈ l.entries) (he' : e' ∈ l.entries)
    (hk : e.1 = e'.1) : e = e' := List.inj_on_of_nodup_map l.nodup he he' hk

/-- The newest entry that covers the cell. -/
def inForce (l : Listing κ ρ) (covers : κ → γ → Bool) (c : γ) : Option (κ × ρ) :=
  l.entries.find? fun e => covers e.1 c

variable {l : Listing κ ρ} {covers : κ → γ → Bool} {c : γ}

theorem inForce_eq_none : l.inForce covers c = none ↔ ∀ e ∈ l.entries, covers e.1 c = false := by
  rw [inForce, List.find?_eq_none]
  exact forall₂_congr fun _ _ => Bool.not_eq_true _ ▸ Iff.rfl

theorem mem_of_inForce {e : κ × ρ} (h : l.inForce covers c = some e) : e ∈ l.entries :=
  List.mem_of_find?_eq_some h

theorem covers_of_inForce {e : κ × ρ} (h : l.inForce covers c = some e) :
    covers e.1 c = true := List.find?_some (p := fun e : κ × ρ => covers e.1 c) h

/-- What is in force on a cell none of whose records is removed stays in force. -/
theorem inForce_retain {p : κ → ρ → Bool}
    (h : ∀ e ∈ l.entries, covers e.1 c = true → p e.1 e.2 = true) :
    (l.retain p).inForce covers c = l.inForce covers c := by
  change (l.entries.filter _).find? _ = l.entries.find? _
  rw [List.find?_filter]
  refine List.find?_congr fun e he => ?_
  cases hc : covers e.1 c with
  | false => exact decide_eq_false fun h => Bool.false_ne_true h.2
  | true => exact decide_eq_true ⟨h e he hc, rfl⟩

theorem inForce_insert [DecidableEq κ] (k : κ) (r : ρ) :
    (l.insert k r).inForce covers c = if covers k c then some (k, r) else l.inForce covers c := by
  change ((k, r) :: _).find? _ = _
  rw [List.find?_cons]
  cases hc : covers k c with
  | true => rfl
  | false =>
    refine inForce_retain fun e _ he => decide_eq_true fun hk => ?_
    rw [hk, hc] at he
    cases he

end Listing

/-! ## A listing and a table of effects -/

section Tables

variable {covers : κ → γ → Bool} {l : Listing κ ρ} {t : γ → Option χ} {R S : ρ → χ → Prop}
  {due : ρ → Bool}

/-- Every cell has the effect of the record in force on it. -/
def Agree (covers : κ → γ → Bool) (R : ρ → χ → Prop) (l : Listing κ ρ) (t : γ → Option χ) : Prop :=
  ∀ c, Option.Rel (fun e x => R e.2 x) (l.inForce covers c) (t c)

/-- Every cell has the effect of the record in force on it, unless that record is due. -/
def Pending (covers : κ → γ → Bool) (R : ρ → χ → Prop) (due : ρ → Bool) (l : Listing κ ρ)
    (t : γ → Option χ) : Prop :=
  ∀ c, (l.inForce covers c = none → t c = none) ∧
    ∀ e, l.inForce covers c = some e → due e.2 = false → ∃ x, t c = some x ∧ R e.2 x

/-- No record that is due covers a cell of one that is not. -/
def Apart (covers : κ → γ → Bool) (due : ρ → Bool) (l : Listing κ ρ) : Prop :=
  ∀ e ∈ l.entries, ∀ e' ∈ l.entries, due e.2 = true → due e'.2 = false →
    ∀ c, covers e.1 c = true → covers e'.1 c = false

/-- The table without the effects on the cells of the records that are due. -/
def clearDue (covers : κ → γ → Bool) (due : ρ → Bool) (l : Listing κ ρ) (t : γ → Option χ)
    (c : γ) : Option χ :=
  if l.entries.any fun e => due e.2 && covers e.1 c then none else t c

theorem pending_empty : Pending covers R due .empty (fun _ : γ => (none : Option χ)) :=
  fun _ => ⟨fun _ => rfl, fun _ h => absurd h (Option.some_ne_none _).symm⟩

/-- Enter a record, with its effect on all the cells of its key. -/
theorem Pending.insert [DecidableEq κ] (h : Pending covers R due l t) (k : κ) {r : ρ} {x : χ}
    (hR : due r = false → R r x) :
    Pending covers R due (l.insert k r) fun c => if covers k c then some x else t c := by
  intro c
  rw [Listing.inForce_insert]
  dsimp only
  split
  · refine ⟨fun hnone => absurd hnone (Option.some_ne_none _), fun e he hdue => ?_⟩
    obtain rfl := Option.some.inj he
    exact ⟨x, rfl, hR hdue⟩
  · exact h c

/-- Remove records with the effects on their cells, where the others cover none of these. -/
theorem Pending.retain (h : Pending covers R due l t) {p : κ → ρ → Bool} {gone : γ → Bool}
    (hgone : ∀ e ∈ l.entries, ∀ c, covers e.1 c = true → gone c = !p e.1 e.2) :
    Pending covers R due (l.retain p) fun c => if gone c then none else t c := by
  intro c
  dsimp only
  cases hc : gone c with
  | true =>
    have hnone : (l.retain p).inForce covers c = none := by
      refine Listing.inForce_eq_none.2 fun e he => Bool.eq_false_iff.2 fun hcov => ?_
      obtain ⟨hmem, hp⟩ := Listing.mem_retain.1 he
      have hkept := hgone e hmem c hcov
      rw [hp, hc] at hkept
      cases hkept
    refine ⟨fun _ => rfl, fun e he => ?_⟩
    rw [hnone] at he
    cases he
  | false =>
    have hsame : (l.retain p).inForce covers c = l.inForce covers c := by
      refine Listing.inForce_retain fun e he hcov => ?_
      have hkept := hgone e he c hcov
      rw [hc] at hkept
      simpa using hkept.symm
    rw [hsame]
    exact h c

/-- When the effects age, only the records that have become due may lose theirs. -/
theorem Agree.age (h : Agree covers R l t) {age : χ → Option χ}
    (hage : ∀ r x, R r x → due r = false → ∃ x', age x = some x' ∧ S r x') :
    Pending covers S due l fun c => (t c).bind age := by
  intro c
  have hc := h c
  dsimp only
  constructor
  · intro hnone
    rw [hnone] at hc
    cases ht : t c with
    | none => rfl
    | some x =>
      rw [ht] at hc
      cases hc
  · intro e he hdue
    rw [he] at hc
    cases ht : t c with
    | none =>
      rw [ht] at hc
      cases hc
    | some x =>
      rw [ht] at hc
      cases hc with
      | some hR =>
        obtain ⟨x', hx', hS⟩ := hage e.2 x hR hdue
        exact ⟨x', by rw [Option.bind_some, hx'], hS⟩

theorem clearDue_of_covers {e : κ × ρ} (he : e ∈ l.entries) (hdue : due e.2 = true) {c : γ}
    (hc : covers e.1 c = true) : clearDue covers due l t c = none := by
  refine if_pos (List.any_eq_true.2 ⟨e, he, ?_⟩)
  rw [hdue, hc]
  rfl

/-- **Removing what is due leads to agreement exactly when it is apart from what stays.** -/
theorem Pending.agree_prune_iff (h : Pending covers R due l t) (hS : ∀ r x, R r x → S r x) :
    Agree covers S (l.retain fun _ r => !due r) (clearDue covers due l t) ↔
      Apart covers due l := by
  constructor
  · intro hagree e he e' he' hdue hkept c hc
    refine Bool.eq_false_iff.2 fun hc' => ?_
    have hrel := hagree c
    rw [clearDue_of_covers he hdue hc] at hrel
    have hmem : e' ∈ (l.retain fun _ r => !due r).entries :=
      Listing.mem_retain.2 ⟨he', by rw [hkept]; rfl⟩
    cases hforce : (l.retain fun _ r => !due r).inForce covers c with
    | none =>
      have := Listing.inForce_eq_none.1 hforce e' hmem
      rw [hc'] at this
      cases this
    | some e =>
      rw [hforce] at hrel
      cases hrel
  · intro hapart c
    by_cases hcleared : ∃ e ∈ l.entries, due e.2 = true ∧ covers e.1 c = true
    · obtain ⟨e, he, hdue, hc⟩ := hcleared
      have hnone : (l.retain fun _ r => !due r).inForce covers c = none := by
        refine Listing.inForce_eq_none.2 fun e' he' => ?_
        obtain ⟨hmem, hkept⟩ := Listing.mem_retain.1 he'
        exact hapart e he e' hmem hdue (by simpa using hkept) c hc
      rw [hnone, clearDue_of_covers he hdue hc]
      exact .none
    · have hstay : ∀ e ∈ l.entries, covers e.1 c = true → due e.2 = false :=
        fun e he hc => Bool.eq_false_iff.2 fun hdue => hcleared ⟨e, he, hdue, hc⟩
      have hsame : (l.retain fun _ r => !due r).inForce covers c = l.inForce covers c :=
        Listing.inForce_retain fun e he hc => by rw [hstay e he hc]; rfl
      have htable : clearDue covers due l t c = t c := by
        refine if_neg fun hany => ?_
        obtain ⟨e, he, hboth⟩ := List.any_eq_true.1 hany
        obtain ⟨hdue, hc⟩ := (Bool.and_eq_true_iff).1 hboth
        exact hcleared ⟨e, he, hdue, hc⟩
      rw [hsame, htable]
      cases hforce : l.inForce covers c with
      | none =>
        rw [(h c).1 hforce]
        exact .none
      | some e =>
        have hdue := hstay e (Listing.mem_of_inForce hforce) (Listing.covers_of_inForce hforce)
        obtain ⟨x, hx, hR⟩ := (h c).2 e hforce hdue
        rw [hx]
        exact .some (hS e.2 x hR)

/-- A record in force leaves the listing with its effect, where what is due is apart. -/
theorem Pending.listed_iff (h : Pending covers R due l t) (hapart : Apart covers due l) {c : γ}
    {e : κ × ρ} (he : l.inForce covers c = some e) :
    e.1 ∈ (l.retain fun _ r => !due r).entries.map Prod.fst ↔
      (clearDue covers due l t c).isSome = true := by
  have hmem := Listing.mem_of_inForce he
  have hcov := Listing.covers_of_inForce he
  cases hdue : due e.2 with
  | true =>
    rw [clearDue_of_covers hmem hdue hcov]
    refine ⟨fun hk => ?_, fun hsome => absurd hsome Bool.false_ne_true⟩
    obtain ⟨e', he', hk⟩ := List.mem_map.1 hk
    obtain ⟨hmem', hkept⟩ := Listing.mem_retain.1 he'
    obtain rfl := Listing.eq_of_key hmem' hmem hk
    rw [hdue] at hkept
    cases hkept
  | false =>
    obtain ⟨x, hx, -⟩ := (h c).2 e he hdue
    have htable : clearDue covers due l t c = some x := by
      refine (if_neg fun hany => ?_).trans hx
      obtain ⟨e', he', hboth⟩ := List.any_eq_true.1 hany
      obtain ⟨hdue', hc⟩ := (Bool.and_eq_true_iff).1 hboth
      have := hapart e' he' e hmem hdue' hdue c hc
      rw [hcov] at this
      cases this
    rw [htable]
    exact iff_of_true (List.mem_map.2 ⟨e, Listing.mem_retain.2 ⟨hmem, by rw [hdue]; rfl⟩, rfl⟩) rfl

end Tables

end Greenhouse.Process
