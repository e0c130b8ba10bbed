import Mathlib.Data.List.Dedup
import Mathlib.Data.List.Induction
import Mathlib.Order.Lattice

/-!
# Grouping and collapsing rows

A query groups the rows of a table by a key and gives the groups in the order of their keys. Rows
that come in such an order are collapsed into series, by comparing each row with the series that
the row before it went to.

* `groupKeys`: the keys of the groups, in order.
* `TotalOrder.lex`, `TotalOrder.nulls`: orders of keys with several columns.
* `collapse`: the loop that collapses rows.
* `collapses_collapse`: **each series has the rows of its key**, when rows of a key stand together.
-/

namespace Greenhouse.Process

variable {α β κ η : Type*}

/-! ## Groups -/

/-- The keys of some rows, in an order. -/
def groupKeys [DecidableEq κ] (le : κ → κ → Bool) (key : α → κ) (rows : List α) : List κ :=
  ((rows.map key).dedup).mergeSort le

/-- A total order, as a test. -/
structure TotalOrder (le : κ → κ → Bool) : Prop where
  trans : ∀ a b c, le a b = true → le b c = true → le a c = true
  total : ∀ a b, (le a b || le b a) = true
  antisymm : ∀ a b, le a b = true → le b a = true → a = b

section Orders

variable {κ' : Type*} {le : κ → κ → Bool} {le' : κ' → κ' → Bool}

/-- Order pairs by the first component, and then by the second. -/
def lexLe [DecidableEq κ] (le : κ → κ → Bool) (le' : κ' → κ' → Bool) (a b : κ × κ') : Bool :=
  if a.1 = b.1 then le' a.2 b.2 else le a.1 b.1

theorem TotalOrder.refl (h : TotalOrder le) (a : κ) : le a a = true := by
  simpa using h.total a a

theorem fst_of_lexLe [DecidableEq κ] (h : TotalOrder le) {a b : κ × κ'}
    (hab : lexLe le le' a b = true) : le a.1 b.1 = true := by
  unfold lexLe at hab
  split at hab
  case isTrue heq =>
    rw [heq]
    exact h.refl _
  case isFalse => exact hab

theorem TotalOrder.lex [DecidableEq κ] (h : TotalOrder le) (h' : TotalOrder le') :
    TotalOrder (lexLe le le') where
  trans a b c hab hbc := by
    unfold lexLe at *
    split at hab
    case isTrue heq =>
      rw [heq]
      split at hbc
      case isTrue heq' =>
        rw [if_pos heq']
        exact h'.trans _ _ _ hab hbc
      case isFalse hne =>
        rw [if_neg hne]
        exact hbc
    case isFalse hne =>
      split at hbc
      case isTrue heq' =>
        rw [← heq', if_neg hne]
        exact hab
      case isFalse hne' =>
        split
        case isTrue heq =>
          rw [← heq] at hbc
          exact absurd (h.antisymm _ _ hab hbc) hne
        case isFalse => exact h.trans _ _ _ hab hbc
  total a b := by
    unfold lexLe
    by_cases heq : a.1 = b.1
    · rw [if_pos heq, if_pos heq.symm]
      exact h'.total _ _
    · rw [if_neg heq, if_neg (Ne.symm heq)]
      exact h.total _ _
  antisymm a b hab hba := by
    unfold lexLe at *
    by_cases heq : a.1 = b.1
    · rw [if_pos heq] at hab
      rw [if_pos heq.symm] at hba
      exact Prod.ext heq (h'.antisymm _ _ hab hba)
    · rw [if_neg heq] at hab
      rw [if_neg (Ne.symm heq)] at hba
      exact absurd (h.antisymm _ _ hab hba) heq

/-- Nulls come first. -/
def nullsFirst (le : κ → κ → Bool) : Option κ → Option κ → Bool
  | none, _ => true
  | some _, none => false
  | some a, some b => le a b

theorem TotalOrder.nulls (h : TotalOrder le) : TotalOrder (nullsFirst le) where
  trans a b c hab hbc := by
    cases a with
    | none => rfl
    | some a =>
      cases b with
      | none => cases hab
      | some b =>
        cases c with
        | none => cases hbc
        | some c => exact h.trans a b c hab hbc
  total a b := by
    cases a with
    | none => rfl
    | some a =>
      cases b with
      | none => rfl
      | some b => exact h.total a b
  antisymm a b hab hba := by
    cases a with
    | none =>
      cases b with
      | none => rfl
      | some b => cases hba
    | some a =>
      cases b with
      | none => cases hab
      | some b => exact congrArg some (h.antisymm a b hab hba)

theorem totalOrder_le {α : Type*} [LinearOrder α] :
    TotalOrder fun a b : α => decide (a ≤ b) where
  trans a b c hab hbc := decide_eq_true (le_trans (of_decide_eq_true hab) (of_decide_eq_true hbc))
  total a b := by simpa using le_total a b
  antisymm a b hab hba := le_antisymm (of_decide_eq_true hab) (of_decide_eq_true hba)

end Orders

section Groups

variable [DecidableEq κ] {le : κ → κ → Bool} {key : α → κ} {rows : List α}

theorem mem_groupKeys {k : κ} : k ∈ groupKeys le key rows ↔ ∃ row ∈ rows, key row = k := by
  rw [groupKeys, List.mem_mergeSort, List.mem_dedup, List.mem_map]

/-- Rows of one group. -/
theorem groupKeys_eq_singleton {k : κ} (h : (rows.map key).dedup = [k]) :
    groupKeys le key rows = [k] := by
  rw [groupKeys, h, List.mergeSort_singleton]

theorem nodup_groupKeys : (groupKeys le key rows).Nodup :=
  (List.mergeSort_perm _ _).nodup_iff.2 (List.nodup_dedup _)

theorem pairwise_groupKeys (hle : TotalOrder le) :
    (groupKeys le key rows).Pairwise fun a b => le a b = true :=
  List.pairwise_mergeSort hle.trans hle.total _

/-- A list of the same keys in the same order is the list of the keys. -/
theorem eq_groupKeys (hle : TotalOrder le) {keys : List κ} (hnodup : keys.Nodup)
    (hsorted : keys.Pairwise fun a b => le a b = true)
    (hmem : ∀ k, k ∈ keys ↔ ∃ row ∈ rows, key row = k) : keys = groupKeys le key rows := by
  have hperm : keys.Perm (groupKeys le key rows) :=
    (List.perm_ext_iff_of_nodup hnodup nodup_groupKeys).2 fun k => (hmem k).trans mem_groupKeys.symm
  exact hperm.eq_of_pairwise (fun a b _ _ hab hba => hle.antisymm a b hab hba) hsorted
    (pairwise_groupKeys hle)

/-- The keys by their second column, of the rows that have the first. -/
theorem groupKeys_column {κ' : Type*} [DecidableEq κ'] {le' : κ' → κ' → Bool} {key' : α → κ'}
    (hle : TotalOrder le) (hle' : TotalOrder le') (k : κ) :
    ((groupKeys (lexLe le le') (fun row => (key row, key' row)) rows).filter
        fun pair => pair.1 = k).map Prod.snd =
      groupKeys le' key' (rows.filter fun row => key row = k) := by
  refine eq_groupKeys hle' ?_ ?_ fun k' => ?_
  · refine (List.nodup_map_iff_inj_on (nodup_groupKeys.filter _)).2 ?_
    intro a ha b hb hab
    have hka : a.1 = k := of_decide_eq_true (List.mem_filter.1 ha).2
    have hkb : b.1 = k := of_decide_eq_true (List.mem_filter.1 hb).2
    exact Prod.ext (hka.trans hkb.symm) hab
  · rw [List.pairwise_map]
    refine ((pairwise_groupKeys (hle.lex hle')).filter _).imp_of_mem ?_
    intro a b ha hb hab
    have hka : a.1 = k := of_decide_eq_true (List.mem_filter.1 ha).2
    have hkb : b.1 = k := of_decide_eq_true (List.mem_filter.1 hb).2
    rwa [lexLe, if_pos (hka.trans hkb.symm)] at hab
  · rw [List.mem_map]
    constructor
    · rintro ⟨pair, hpair, rfl⟩
      obtain ⟨hmem, hk⟩ := List.mem_filter.1 hpair
      obtain ⟨row, hrow, rfl⟩ := mem_groupKeys.1 hmem
      exact ⟨row, List.mem_filter.2 ⟨hrow, hk⟩, rfl⟩
    · rintro ⟨row, hrow, rfl⟩
      obtain ⟨hmem, hk⟩ := List.mem_filter.1 hrow
      exact ⟨(key row, key' row), List.mem_filter.2 ⟨mem_groupKeys.2 ⟨row, hmem, rfl⟩, hk⟩, rfl⟩

/-- The keys of the rows whose keys pass a test. -/
theorem groupKeys_filter (hle : TotalOrder le) (p : κ → Bool) :
    groupKeys le key (rows.filter fun row => p (key row)) = (groupKeys le key rows).filter p := by
  symm
  refine eq_groupKeys hle (nodup_groupKeys.filter _) ((pairwise_groupKeys hle).filter _) fun k => ?_
  rw [List.mem_filter, mem_groupKeys]
  constructor
  · rintro ⟨⟨row, hrow, rfl⟩, hp⟩
    exact ⟨row, List.mem_filter.2 ⟨hrow, hp⟩, rfl⟩
  · rintro ⟨row, hrow, rfl⟩
    obtain ⟨hmem, hp⟩ := List.mem_filter.1 hrow
    exact ⟨⟨row, hmem, rfl⟩, hp⟩

/-- The keys of other rows with the same keys. -/
theorem groupKeys_congr {α' : Type*} {key' : α' → κ} {rows' : List α'} (hle : TotalOrder le)
    (h : ∀ k, (∃ row ∈ rows, key row = k) ↔ ∃ row ∈ rows', key' row = k) :
    groupKeys le key rows = groupKeys le key' rows' :=
  eq_groupKeys hle nodup_groupKeys (pairwise_groupKeys hle) fun k => mem_groupKeys.trans (h k)

end Groups

/-! ## Series -/

/-- Collapse rows into series: a row goes to the last series when it has the same head. -/
def collapse (head : α → η) (item : α → β) (same : η → η → Bool) (rows : List α) :
    List (η × List β) :=
  rows.foldl (fun series row =>
    match series.getLast? with
    | some (h, items) =>
      if same h (head row) then series.dropLast ++ [(h, items ++ [item row])]
      else series ++ [(head row, [item row])]
    | none => [(head row, [item row])]) []

section Series

variable [DecidableEq κ] {head : α → η} {item : α → β} {same : η → η → Bool} {key : η → κ}
  {rows : List α} {series : List (η × List β)}

/-- Series of some rows: one for each key, with the rows of the key in their order, headed by the
first of them. -/
structure Collapses (head : α → η) (item : α → β) (key : η → κ) (rows : List α)
    (series : List (η × List β)) : Prop where
  nodup : (series.map fun s => key s.1).Nodup
  covers : ∀ row ∈ rows, ∃ s ∈ series, key s.1 = key (head row)
  heads : ∀ s ∈ series, ∃ row ∈ rows, s.1 = head row
  items : ∀ s ∈ series, s.2 = (rows.filter fun row => key (head row) = key s.1).map item
  last : (series.getLast?.map fun s => key s.1) = rows.getLast?.map fun row => key (head row)
  order : (series.map fun s => key s.1).Sublist (rows.map fun row => key (head row))

/-- The keys of the series are those of the rows. -/
theorem Collapses.mem_keys (h : Collapses head item key rows series) {k : κ} :
    k ∈ series.map (fun s => key s.1) ↔ ∃ row ∈ rows, key (head row) = k := by
  rw [List.mem_map]
  constructor
  · rintro ⟨s, hs, rfl⟩
    obtain ⟨row, hrow, heq⟩ := h.heads s hs
    exact ⟨row, hrow, congrArg key heq.symm⟩
  · rintro ⟨row, hrow, rfl⟩
    exact h.covers row hrow

/-- A row of the key of the last series. -/
theorem Collapses.extend {before : List (η × List β)} {h : η} {items : List β} {row : α}
    (hold : Collapses head item key rows (before ++ [(h, items)]))
    (hkey : key h = key (head row)) :
    Collapses head item key (rows ++ [row]) (before ++ [(h, items ++ [item row])]) := by
  have hnodup := hold.nodup
  rw [List.map_append, List.nodup_append] at hnodup
  have hother : ∀ s ∈ before, key s.1 ≠ key (head row) := by
    intro s hs heq
    exact hnodup.2.2 _ (List.mem_map_of_mem hs) _ List.mem_cons_self (heq.trans hkey.symm)
  refine ⟨?_, ?_, ?_, ?_, ?_, ?_⟩
  · have hmap := hold.nodup
    rw [List.map_append] at hmap ⊢
    exact hmap
  · intro r hr
    rcases List.mem_append.1 hr with hr | hr
    · obtain ⟨s, hs, heq⟩ := hold.covers r hr
      rcases List.mem_append.1 hs with hs | hs
      · exact ⟨s, List.mem_append_left _ hs, heq⟩
      · obtain rfl := List.mem_singleton.1 hs
        exact ⟨_, List.mem_append_right _ List.mem_cons_self, heq⟩
    · obtain rfl := List.mem_singleton.1 hr
      exact ⟨_, List.mem_append_right _ List.mem_cons_self, hkey⟩
  · intro s hs
    rcases List.mem_append.1 hs with hs | hs
    · obtain ⟨r, hr, heq⟩ := hold.heads s (List.mem_append_left _ hs)
      exact ⟨r, List.mem_append_left _ hr, heq⟩
    · obtain rfl := List.mem_singleton.1 hs
      obtain ⟨r, hr, heq⟩ := hold.heads (h, items) (List.mem_append_right _ List.mem_cons_self)
      exact ⟨r, List.mem_append_left _ hr, heq⟩
  · intro s hs
    rw [List.filter_append, List.map_append]
    rcases List.mem_append.1 hs with hs | hs
    · have hne : (decide (key (head row) = key s.1)) = false :=
        decide_eq_false fun heq => hother s hs heq.symm
      rw [List.filter_singleton, hne, hold.items s (List.mem_append_left _ hs)]
      exact (List.append_nil _).symm
    · obtain rfl := List.mem_singleton.1 hs
      have hitems := hold.items (h, items) (List.mem_append_right _ List.mem_cons_self)
      dsimp only at hitems ⊢
      rw [List.filter_singleton, decide_eq_true hkey.symm, hitems]
      rfl
  · rw [List.getLast?_concat, List.getLast?_concat]
    exact congrArg some hkey
  · have horder := hold.order
    rw [List.map_append] at horder ⊢
    rw [List.map_append]
    exact horder.trans (List.sublist_append_left _ _)

/-- A row of a new key. -/
theorem Collapses.add {row : α} (hold : Collapses head item key rows series)
    (hnew : ∀ r ∈ rows, key (head r) ≠ key (head row)) :
    Collapses head item key (rows ++ [row]) (series ++ [(head row, [item row])]) := by
  have hother : ∀ s ∈ series, key s.1 ≠ key (head row) := by
    intro s hs heq
    obtain ⟨r, hr, hhead⟩ := hold.heads s hs
    exact hnew r hr ((congrArg key hhead).symm.trans heq)
  refine ⟨?_, ?_, ?_, ?_, ?_, ?_⟩
  · rw [List.map_append, List.nodup_append]
    refine ⟨hold.nodup, List.nodup_singleton _, fun a ha b hb => ?_⟩
    obtain ⟨s, hs, rfl⟩ := List.mem_map.1 ha
    obtain rfl := List.mem_singleton.1 hb
    exact hother s hs
  · intro r hr
    rcases List.mem_append.1 hr with hr | hr
    · obtain ⟨s, hs, heq⟩ := hold.covers r hr
      exact ⟨s, List.mem_append_left _ hs, heq⟩
    · obtain rfl := List.mem_singleton.1 hr
      exact ⟨_, List.mem_append_right _ List.mem_cons_self, rfl⟩
  · intro s hs
    rcases List.mem_append.1 hs with hs | hs
    · obtain ⟨r, hr, heq⟩ := hold.heads s hs
      exact ⟨r, List.mem_append_left _ hr, heq⟩
    · obtain rfl := List.mem_singleton.1 hs
      exact ⟨row, List.mem_append_right _ List.mem_cons_self, rfl⟩
  · intro s hs
    rw [List.filter_append, List.map_append]
    rcases List.mem_append.1 hs with hs | hs
    · have hne : (decide (key (head row) = key s.1)) = false :=
        decide_eq_false fun heq => hother s hs heq.symm
      rw [List.filter_singleton, hne, hold.items s hs]
      exact (List.append_nil _).symm
    · obtain rfl := List.mem_singleton.1 hs
      have hnone : (rows.filter fun r => key (head r) = key (head row)) = [] :=
        List.filter_eq_nil_iff.2 fun r hr => by simpa using hnew r hr
      rw [hnone, List.filter_singleton, decide_eq_true rfl]
      rfl
  · rw [List.getLast?_concat, List.getLast?_concat]
    rfl
  · rw [List.map_append, List.map_append]
    exact hold.order.append (List.Sublist.refl _)

/-- **Each series has the rows of its key**, when the rows come in an order of their keys. -/
theorem collapses_collapse
    (hsame : ∀ a ∈ rows, ∀ b ∈ rows,
      same (head a) (head b) = decide (key (head a) = key (head b)))
    {le : κ → κ → Bool} (hle : ∀ a b, le a b = true → le b a = true → a = b)
    (hsorted : rows.Pairwise fun a b => le (key (head a)) (key (head b)) = true) :
    Collapses head item key rows (collapse head item same rows) := by
  induction rows using List.reverseRecOn with
  | nil =>
    exact ⟨List.nodup_nil, by simp, by simp [collapse], by simp [collapse], rfl, .slnil⟩
  | append_singleton rows row ih =>
    rw [List.pairwise_append] at hsorted
    have hold := ih (fun a ha b hb => hsame a (List.mem_append_left _ ha) b
      (List.mem_append_left _ hb)) hsorted.1
    have hbefore : ∀ r ∈ rows, le (key (head r)) (key (head row)) = true :=
      fun r hr => hsorted.2.2 r hr row List.mem_cons_self
    rw [collapse, List.foldl_concat]
    change Collapses head item key _ (match (collapse head item same rows).getLast? with
      | some (h, items) =>
        if same h (head row) then
          (collapse head item same rows).dropLast ++ [(h, items ++ [item row])]
        else collapse head item same rows ++ [(head row, [item row])]
      | none => [(head row, [item row])])
    generalize collapse head item same rows = series at hold
    rcases List.eq_nil_or_concat series with rfl | ⟨before, ⟨h, items⟩, rfl⟩
    · refine hold.add fun r hr => ?_
      obtain ⟨s, hs, -⟩ := hold.covers r hr
      exact absurd hs List.not_mem_nil
    · rw [List.concat_eq_append] at hold ⊢
      rw [List.getLast?_concat, List.dropLast_concat]
      dsimp only
      obtain ⟨r, hr, hhead⟩ := hold.heads (h, items) (List.mem_append_right _ List.mem_cons_self)
      obtain rfl : h = head r := hhead
      rw [hsame r (List.mem_append_left _ hr) row (List.mem_append_right _ List.mem_cons_self)]
      by_cases hkey : key (head r) = key (head row)
      · rw [if_pos (decide_eq_true hkey)]
        exact hold.extend hkey
      · rw [if_neg (by simpa using hkey)]
        refine hold.add fun r' hr heq => hkey ?_
        -- the last row has the key of the last series, and comes between two rows of one key
        have hlast := hold.last
        rw [List.getLast?_concat, Option.map_some] at hlast
        obtain ⟨z, hz, hzkey⟩ := Option.map_eq_some_iff.1 hlast.symm
        rcases List.eq_nil_or_concat rows with rfl | ⟨front, z', rfl⟩
        · exact absurd hr List.not_mem_nil
        · rw [List.concat_eq_append] at hz hr hsorted hbefore
          rw [List.getLast?_concat] at hz
          obtain rfl := Option.some.inj hz
          rw [← hzkey]
          rcases List.mem_append.1 hr with hr | hr
          · have hrz := (List.pairwise_append.1 hsorted.1).2.2 r' hr z' List.mem_cons_self
            rw [heq] at hrz
            exact hle _ _ (hbefore z' (List.mem_append_right _ List.mem_cons_self)) hrz
          · obtain rfl := List.mem_singleton.1 hr
            exact heq

/-- **Rows in the order of their heads collapse to one series for each head.** -/
theorem collapse_eq [DecidableEq η]
    (hsame : ∀ a ∈ rows, ∀ b ∈ rows, same (head a) (head b) = decide (head a = head b))
    {le : η → η → Bool} (hle : TotalOrder le)
    (hsorted : rows.Pairwise fun a b => le (head a) (head b) = true) :
    collapse head item same rows = (groupKeys le head rows).map fun h =>
      (h, (rows.filter fun row => head row = h).map item) := by
  have hcollapses : Collapses head item id rows (collapse head item same rows) :=
    collapses_collapse hsame hle.antisymm hsorted
  have hkeys : (collapse head item same rows).map Prod.fst = groupKeys le head rows := by
    refine eq_groupKeys hle hcollapses.nodup ?_ fun k => hcollapses.mem_keys
    exact (List.pairwise_map.2 hsorted).sublist hcollapses.order
  rw [← hkeys, List.map_map]
  conv_lhs => rw [← List.map_id (collapse head item same rows)]
  refine List.map_congr_left fun s hs => ?_
  exact Prod.ext rfl (hcollapses.items s hs)

end Series

end Greenhouse.Process
