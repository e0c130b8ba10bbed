import Mathlib.Data.List.Flatten
import Mathlib.Data.List.Perm.Lattice
import Mathlib.Data.List.Nodup
import Mathlib.Data.List.Perm.Subperm
import Std.Data.TreeMap.Lemmas

/-!
# Records in groups

Records are listed group by group. A copy of the list, kept in any order, follows a change of one
group by replacing the records of that group.

* `replace_perm`: the copy after the change of a group.
* `perm_of_filter_eq`: two lists with the same groups.
* `toList_eq_of_entries`: a finite map is known by its size and the entries found in it.
-/

namespace Greenhouse.Process

section Groups

variable {γ α : Type*} [DecidableEq γ] {owner : α → γ} {groups : List γ} {part part' : γ → List α}
  {g : γ} {l new : List α}

/-- The records of one group first. -/
theorem flatMap_perm_cons (hg : g ∈ groups) :
    (groups.flatMap part).Perm (part g ++ (groups.erase g).flatMap part) :=
  (List.perm_cons_erase hg).flatMap_right part

/-- The records of the other groups are the same after a change of one group. -/
theorem flatMap_erase_congr (hnodup : groups.Nodup) (hsame : ∀ h, h ≠ g → part' h = part h) :
    (groups.erase g).flatMap part' = (groups.erase g).flatMap part := by
  apply List.flatMap_congr
  intro h hh
  have hne : h ≠ g := by
    rintro rfl
    exact hnodup.not_mem_erase hh
  exact hsame h hne

/-- **Replacing the records of a group** in a copy of the list. -/
theorem replace_perm (hnodup : groups.Nodup) (hg : g ∈ groups)
    (howner : ∀ h, ∀ a ∈ part h, owner a = h) (hsame : ∀ h, h ≠ g → part' h = part h)
    (hnew : new.Perm (part' g)) (hl : l.Perm (groups.flatMap part)) :
    (l.filter (fun a => owner a ≠ g) ++ new).Perm (groups.flatMap part') := by
  have hgone : (part g).filter (fun a => owner a ≠ g) = [] := by
    rw [List.filter_eq_nil_iff]
    intro a ha
    simpa using howner g a ha
  have hothers : ((groups.erase g).flatMap part).filter (fun a => owner a ≠ g) =
      (groups.erase g).flatMap part := by
    rw [List.filter_eq_self]
    intro a ha
    obtain ⟨h, hh, hmem⟩ := List.mem_flatMap.1 ha
    have hne : h ≠ g := by
      rintro rfl
      exact hnodup.not_mem_erase hh
    simpa [howner h a hmem] using hne
  have hfilter := (hl.trans (flatMap_perm_cons hg)).filter fun a => decide (owner a ≠ g)
  rw [List.filter_append, hgone, List.nil_append, hothers] at hfilter
  have hjoined := (hfilter.append hnew).trans List.perm_append_comm
  rw [← flatMap_erase_congr hnodup hsame] at hjoined
  exact hjoined.trans (flatMap_perm_cons hg).symm

/-- Lists with the same records in each group have the same records. -/
theorem perm_of_filter_eq (owner : α → γ) {l l' : List α}
    (h : ∀ g, l.filter (fun a => owner a = g) = l'.filter fun a => owner a = g) : l.Perm l' := by
  classical
  rw [List.perm_iff_count]
  intro a
  have hown (l : List α) : (l.filter fun b => owner b = owner a).count a = l.count a :=
    List.count_filter (decide_eq_true rfl)
  rw [← hown l, h, hown l']

omit [DecidableEq γ] in
/-- Lists put together from smaller parts are equal exactly when all the parts are. -/
theorem flatMap_eq_iff_of_sublist {β : Type*} {f f' : γ → List β}
    (hpart : ∀ g, (f g).Sublist (f' g)) :
    groups.flatMap f = groups.flatMap f' ↔ ∀ g ∈ groups, f g = f' g := by
  refine ⟨fun h => ?_, fun h => List.flatMap_congr h⟩
  induction groups with
  | nil => exact List.forall_mem_nil _
  | cons g groups ih =>
    rw [List.flatMap_cons, List.flatMap_cons] at h
    have hrest := (List.Sublist.flatMap_right groups fun g _ => hpart g).length_le
    have hlength : (f g ++ groups.flatMap f).length = (f' g ++ groups.flatMap f').length := by
      rw [h]
    rw [List.length_append, List.length_append] at hlength
    have hg := (hpart g).eq_of_length_le (by omega)
    rw [hg] at h
    exact List.forall_mem_cons.2 ⟨hg, ih (List.append_cancel_left h)⟩

end Groups

/-! ## Finite maps -/

section Maps

open Std

variable {α β : Type} {cmp : α → α → Ordering} [TransCmp cmp] [LawfulEqCmp cmp]
  {t t' : TreeMap α β cmp}

omit [TransCmp cmp] [LawfulEqCmp cmp] in
theorem any_toList (t : TreeMap α β cmp) (p : α → β → Bool) :
    t.any p = t.toList.any fun x => p x.1 x.2 := by
  have hloop : t.any p = Id.run (do
      for x in t do
        if p x.1 x.2 then return true
      return false) := rfl
  rw [hloop]
  simp only [TreeMap.forIn_eq_forIn_toList]
  induction t.toList with
  | nil => rfl
  | cons x xs ih =>
    simp only [List.forIn_cons, List.any_cons]
    cases hx : p x.1 x.2 with
    | true => simp
    | false => simpa using ih

theorem nodup_toList (t : TreeMap α β cmp) : t.toList.Nodup := by
  refine t.distinct_keys_toList.imp fun {a b} hne heq => hne ?_
  rw [heq]
  exact ReflCmp.compare_self

/-- A map whose entries are all found in one of the same size is that map. -/
theorem toList_eq_of_entries (hsize : t'.size = t.size)
    (hentries : ∀ (k : α) (v : β), t'[k]? = some v → t[k]? = some v) : t'.toList = t.toList := by
  have hsubset : t'.toList ⊆ t.toList := by
    intro x hx
    have hget := TreeMap.mem_toList_iff_getElem?_eq_some.1 hx
    exact TreeMap.mem_toList_iff_getElem?_eq_some.2 (hentries x.1 x.2 hget)
  have hlength : t.toList.length ≤ t'.toList.length := by
    rw [TreeMap.length_toList, TreeMap.length_toList]
    exact Nat.le_of_eq hsize.symm
  have hperm := (List.subperm_of_subset (nodup_toList t') hsubset).perm_of_length_le hlength
  exact TreeMap.equiv_iff_toList_eq.1 (TreeMap.Equiv.of_toList_perm hperm)

/-- Two maps have the same list of entries when they have the same lookups. -/
theorem toList_eq_iff : t'.toList = t.toList ↔ ∀ k : α, t'[k]? = t[k]? := by
  constructor
  · intro h k
    apply Option.ext
    intro v
    rw [← TreeMap.mem_toList_iff_getElem?_eq_some, h, TreeMap.mem_toList_iff_getElem?_eq_some]
  · intro h
    have hperm : t'.toList.Perm t.toList := by
      rw [List.perm_ext_iff_of_nodup (nodup_toList t') (nodup_toList t)]
      intro x
      rw [TreeMap.mem_toList_iff_getElem?_eq_some, TreeMap.mem_toList_iff_getElem?_eq_some, h]
    exact TreeMap.equiv_iff_toList_eq.1 (TreeMap.Equiv.of_toList_perm hperm)

end Maps

end Greenhouse.Process
