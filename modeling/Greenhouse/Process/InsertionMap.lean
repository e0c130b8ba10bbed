import Mathlib.Data.List.Induction
import Mathlib.Data.List.Nodup
import Mathlib.Data.List.Perm.Lattice

/-!
# Maps in insertion order

A map that lists its entries in the order in which their keys were first bound. Binding a key that
is bound replaces the value where it stands.

* `mem_setAll`: after a list of bindings a key has the last value of the list, or its old one.
* `get?_setAll_empty`: a map made of a list of bindings.
* `get?_eq_some`: a key is looked up where it is listed.
* `joined_perm`: the values of two lists under the keys they share.
-/

namespace Greenhouse.Process

/-- The last value that a list of bindings gives a key. -/
def lastValue {κ β : Type*} [DecidableEq κ] (l : List (κ × β)) (k : κ) : Option β :=
  (l.reverse.find? fun e => e.1 = k).map Prod.snd

/-- A map that lists its entries in the order of their first binding. -/
structure InsertionMap (κ β : Type*) where
  entries : List (κ × β)
  nodup : (entries.map Prod.fst).Nodup

namespace InsertionMap

variable {κ β : Type*}

/-- The map without entries. -/
def empty : InsertionMap κ β := ⟨[], List.nodup_nil⟩

/-- A key has one value. -/
theorem eq_of_key {m : InsertionMap κ β} {e e' : κ × β} (he : e ∈ m.entries) (he' : e' ∈ m.entries)
    (hk : e.1 = e'.1) : e = e' := List.inj_on_of_nodup_map m.nodup he he' hk

variable [DecidableEq κ]

/-- Bind a key in a list of entries. -/
def put (k : κ) (v : β) : List (κ × β) → List (κ × β)
  | [] => [(k, v)]
  | e :: l => if e.1 = k then (k, v) :: l else e :: put k v l

theorem mem_keys_put {k i : κ} {v : β} {l : List (κ × β)} :
    i ∈ (put k v l).map Prod.fst ↔ i = k ∨ i ∈ l.map Prod.fst := by
  induction l with
  | nil => simp [put]
  | cons e l ih =>
    rw [put]
    split
    case isTrue h => simp [h]
    case isFalse h => rw [List.map_cons, List.mem_cons, ih, List.map_cons, List.mem_cons, or_left_comm]

theorem nodup_put {k : κ} {v : β} {l : List (κ × β)} (h : (l.map Prod.fst).Nodup) :
    ((put k v l).map Prod.fst).Nodup := by
  induction l with
  | nil => exact List.nodup_singleton k
  | cons e l ih =>
    obtain ⟨hfresh, hl⟩ := List.nodup_cons.1 h
    rw [put]
    split
    case isTrue heq => exact List.nodup_cons.2 ⟨heq ▸ hfresh, hl⟩
    case isFalse hne =>
      refine List.nodup_cons.2 ⟨fun hmem => ?_, ih hl⟩
      rcases mem_keys_put.1 hmem with heq | hmem
      · exact hne heq
      · exact hfresh hmem

theorem mem_put {k : κ} {v : β} {l : List (κ × β)} (h : (l.map Prod.fst).Nodup) {e : κ × β} :
    e ∈ put k v l ↔ e = (k, v) ∨ e ∈ l ∧ e.1 ≠ k := by
  induction l with
  | nil => simp [put]
  | cons i l ih =>
    obtain ⟨hfresh, hl⟩ := List.nodup_cons.1 h
    rw [put]
    split
    case isTrue heq =>
      have hother : ∀ e ∈ l, e.1 ≠ k := fun e he hk =>
        hfresh (heq.trans hk.symm ▸ List.mem_map_of_mem he)
      rw [List.mem_cons, List.mem_cons]
      constructor
      · rintro (rfl | he)
        · exact .inl rfl
        · exact .inr ⟨.inr he, hother e he⟩
      · rintro (rfl | ⟨rfl | he, hk⟩)
        · exact .inl rfl
        · exact absurd heq hk
        · exact .inr he
    case isFalse hne =>
      rw [List.mem_cons, ih hl, List.mem_cons]
      constructor
      · rintro (rfl | rfl | ⟨he, hk⟩)
        · exact .inr ⟨.inl rfl, hne⟩
        · exact .inl rfl
        · exact .inr ⟨.inr he, hk⟩
      · rintro (rfl | ⟨rfl | he, hk⟩)
        · exact .inr (.inl rfl)
        · exact .inl rfl
        · exact .inr (.inr ⟨he, hk⟩)

/-- Bind a key. -/
def set (m : InsertionMap κ β) (k : κ) (v : β) : InsertionMap κ β where
  entries := put k v m.entries
  nodup := nodup_put m.nodup

/-- Bind keys one after the other. -/
def setAll (m : InsertionMap κ β) (l : List (κ × β)) : InsertionMap κ β :=
  l.foldl (fun m e => m.set e.1 e.2) m

/-- The value of a key. -/
def get? (m : InsertionMap κ β) (k : κ) : Option β :=
  (m.entries.find? fun e => e.1 = k).map Prod.snd

variable {m : InsertionMap κ β} {l : List (κ × β)} {k : κ} {v : β}

theorem mem_set {e : κ × β} : e ∈ (m.set k v).entries ↔ e = (k, v) ∨ e ∈ m.entries ∧ e.1 ≠ k :=
  mem_put m.nodup

theorem get?_eq_some : m.get? k = some v ↔ (k, v) ∈ m.entries := by
  rw [get?, Option.map_eq_some_iff]
  constructor
  · rintro ⟨e, he, rfl⟩
    have hk : e.1 = k := by simpa using List.find?_some he
    exact hk ▸ List.mem_of_find?_eq_some he
  · intro hmem
    cases hfind : m.entries.find? fun e => e.1 = k with
    | none =>
      have hnot := List.find?_eq_none.1 hfind (k, v) hmem
      exact absurd (decide_eq_true rfl) hnot
    | some e =>
      have hk : e.1 = k := by simpa using List.find?_some hfind
      exact ⟨e, rfl, congrArg Prod.snd (eq_of_key (List.mem_of_find?_eq_some hfind) hmem hk)⟩

theorem lastValue_concat (e : κ × β) :
    lastValue (l ++ [e]) k = if e.1 = k then some e.2 else lastValue l k := by
  rw [lastValue, List.reverse_concat, List.find?_cons]
  by_cases h : e.1 = k
  · simp [h]
  · simp [h, lastValue]

/-- The last value of a key is one that it is given. -/
theorem mem_of_lastValue (h : lastValue l k = some v) : (k, v) ∈ l := by
  obtain ⟨e, he, rfl⟩ := Option.map_eq_some_iff.1 h
  have hk : e.1 = k := by simpa using List.find?_some he
  exact hk ▸ List.mem_reverse.1 (List.mem_of_find?_eq_some he)

theorem lastValue_isSome : (lastValue l k).isSome ↔ k ∈ l.map Prod.fst := by
  rw [lastValue, Option.isSome_map, List.find?_isSome]
  simp

/-- Where the keys are distinct, every value is the last one of its key. -/
theorem lastValue_eq_some (h : (l.map Prod.fst).Nodup) : lastValue l k = some v ↔ (k, v) ∈ l := by
  refine ⟨mem_of_lastValue, fun hmem => ?_⟩
  obtain ⟨w, hw⟩ := Option.isSome_iff_exists.1 (lastValue_isSome.2 (List.mem_map_of_mem hmem))
  have heq := List.inj_on_of_nodup_map h (mem_of_lastValue hw) hmem rfl
  exact hw.trans (congrArg some (congrArg Prod.snd heq))

/-- **After a list of bindings** a key has the last value of the list, or else its old one. -/
theorem mem_setAll : (k, v) ∈ (m.setAll l).entries ↔
    lastValue l k = some v ∨ lastValue l k = none ∧ (k, v) ∈ m.entries := by
  induction l using List.reverseRecOn with
  | nil => simp [setAll, lastValue]
  | append_singleton l e ih =>
    have hone : m.setAll (l ++ [e]) = (m.setAll l).set e.1 e.2 := List.foldl_concat ..
    rw [hone, mem_set, ih, lastValue_concat]
    by_cases hk : e.1 = k
    · simp [hk, Prod.ext_iff, eq_comm]
    · have hpair : ¬ (k, v) = (e.1, e.2) := fun h => hk (congrArg Prod.fst h).symm
      simp [hk, hpair, Ne.symm hk]

/-- The keys after a list of bindings. -/
theorem mem_keys_setAll : k ∈ (m.setAll l).entries.map Prod.fst ↔
    k ∈ l.map Prod.fst ∨ k ∈ m.entries.map Prod.fst := by
  have hkeys : ∀ {n : InsertionMap κ β}, k ∈ n.entries.map Prod.fst ↔ ∃ v, (k, v) ∈ n.entries := by
    intro n
    rw [List.mem_map]
    constructor
    · rintro ⟨e, he, rfl⟩
      exact ⟨e.2, he⟩
    · rintro ⟨v, hv⟩
      exact ⟨(k, v), hv, rfl⟩
  rw [hkeys, hkeys, ← lastValue_isSome, Option.isSome_iff_exists]
  simp only [mem_setAll, exists_or, exists_and_left]
  constructor
  · rintro (h | ⟨-, h⟩)
    · exact .inl h
    · exact .inr h
  · rintro (h | h)
    · exact .inl h
    · cases hl : lastValue l k with
      | none => exact .inr ⟨rfl, h⟩
      | some v => exact .inl ⟨v, rfl⟩

/-- A map made of a list of bindings looks a key up as the list does. -/
theorem get?_setAll_empty : (empty.setAll l).get? k = lastValue l k := by
  refine Option.ext fun v => ?_
  rw [get?_eq_some, mem_setAll]
  simp [empty]

end InsertionMap

/-! ## Entries under shared keys -/

section Join

variable {κ β γ : Type*} [DecidableEq κ] {l : List (κ × β)} {l' : List (κ × γ)}

/-- The keys of the first list that are in the second one, with both values. -/
def joined (l : List (κ × β)) (l' : List (κ × γ)) : List (κ × β × γ) :=
  l.filterMap fun e => (l'.find? fun e' => e'.1 = e.1).map fun e' => (e.1, e.2, e'.2)

theorem mem_joined (h' : (l'.map Prod.fst).Nodup) {k : κ} {v : β} {w : γ} :
    (k, v, w) ∈ joined l l' ↔ (k, v) ∈ l ∧ (k, w) ∈ l' := by
  have hfind : ∀ {k : κ} {e : κ × γ}, (l'.find? fun e' => e'.1 = k) = some e ↔ e ∈ l' ∧ e.1 = k := by
    intro k e
    constructor
    · intro he
      exact ⟨List.mem_of_find?_eq_some he, by simpa using List.find?_some he⟩
    · rintro ⟨he, rfl⟩
      cases hfound : l'.find? fun e' => e'.1 = e.1 with
      | none => exact absurd (decide_eq_true rfl) (List.find?_eq_none.1 hfound e he)
      | some e' =>
        have hk : e'.1 = e.1 := by simpa using List.find?_some hfound
        exact congrArg some
          (List.inj_on_of_nodup_map h' (List.mem_of_find?_eq_some hfound) he hk)
  rw [joined, List.mem_filterMap]
  constructor
  · rintro ⟨e, he, heq⟩
    obtain ⟨e', he', heq⟩ := Option.map_eq_some_iff.1 heq
    obtain ⟨he', hk⟩ := hfind.1 he'
    cases heq
    exact ⟨he, hk ▸ he'⟩
  · rintro ⟨he, he'⟩
    exact ⟨(k, v), he, Option.map_eq_some_iff.2 ⟨(k, w), hfind.2 ⟨he', rfl⟩, rfl⟩⟩

theorem nodup_joined (h : (l.map Prod.fst).Nodup) : (joined l l').Nodup := by
  refine List.pairwise_filterMap.2 ((List.pairwise_map.1 h).imp fun hne b hb c hc heq => hne ?_)
  obtain ⟨e, -, rfl⟩ := Option.map_eq_some_iff.1 hb
  obtain ⟨e', -, rfl⟩ := Option.map_eq_some_iff.1 hc
  exact (Prod.mk.inj heq).1

/-- **The join of two lists with distinct keys** is the same either way round. -/
theorem joined_perm (h : (l.map Prod.fst).Nodup) (h' : (l'.map Prod.fst).Nodup) :
    (joined l l').Perm ((joined l' l).map fun e => (e.1, e.2.2, e.2.1)) := by
  have hswap : Function.Injective fun e : κ × γ × β => (e.1, e.2.2, e.2.1) := by
    rintro ⟨k, w, v⟩ ⟨k', w', v'⟩ heq
    cases heq
    rfl
  refine (List.perm_ext_iff_of_nodup (nodup_joined h) ((nodup_joined h').map hswap)).2 ?_
  rintro ⟨k, v, w⟩
  rw [mem_joined h', List.mem_map]
  constructor
  · rintro ⟨he, he'⟩
    exact ⟨(k, w, v), (mem_joined h).2 ⟨he', he⟩, rfl⟩
  · rintro ⟨⟨k', w', v'⟩, hmem, heq⟩
    cases heq
    exact ((mem_joined h).1 hmem).symm

end Join

end Greenhouse.Process
