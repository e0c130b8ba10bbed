import Mathlib.Data.List.Basic

/-!
# Heaps

Objects at addresses, which are given out in order. Code that copies what it is handed and
writes only to its copies leaves every address below its first one as it was.

* `Keeps`: two heaps hold the same objects below an address.
* `Keeps.alloc`, `Keeps.set`: what a new object and a write above the address keep.
-/

namespace Greenhouse.Process

/-- An address of a heap. -/
abbrev Addr := Nat

/-- The objects of a heap, in the order of their allocation. -/
structure Heap (ω : Type*) where
  objects : List ω

namespace Heap

variable {ω : Type*}

/-- The first address that is free. -/
def size (h : Heap ω) : Addr := h.objects.length

/-- The object at an address. -/
def get? (h : Heap ω) (a : Addr) : Option ω := h.objects[a]?

/-- Put a new object at the first free address. -/
def alloc (h : Heap ω) (o : ω) : Heap ω := ⟨h.objects ++ [o]⟩

/-- Overwrite the object at an address. -/
def set (h : Heap ω) (a : Addr) (o : ω) : Heap ω := ⟨h.objects.set a o⟩

variable {h h' h'' : Heap ω} {a b n : Addr} {o : ω}

theorem lt_size (ha : h.get? a = some o) : a < h.size := by
  rw [get?, List.getElem?_eq_some_iff] at ha
  exact ha.1

@[simp] theorem size_alloc : (h.alloc o).size = h.size + 1 := by
  simp [alloc, size]

@[simp] theorem size_set : (h.set a o).size = h.size := by
  simp [set, size]

@[simp] theorem get?_alloc_self : (h.alloc o).get? h.size = some o := by
  simp [alloc, size, get?]

theorem get?_alloc : (h.alloc o).get? a = if a = h.size then some o else h.get? a := by
  rcases Nat.lt_trichotomy a h.size with hlt | rfl | hgt
  · rw [if_neg (Nat.ne_of_lt hlt)]
    exact List.getElem?_append_left hlt
  · rw [if_pos rfl, get?_alloc_self]
  · have hout : (h.alloc o).size ≤ a := by
      rw [size_alloc]
      exact hgt
    rw [if_neg (Nat.ne_of_gt hgt), get?, List.getElem?_eq_none hout, get?,
      List.getElem?_eq_none (Nat.le_of_lt hgt)]

theorem get?_alloc_of_lt (ha : a < h.size) : (h.alloc o).get? a = h.get? a :=
  List.getElem?_append_left ha

theorem get?_set_self (ha : a < h.size) : (h.set a o).get? a = some o :=
  List.getElem?_set_self ha

theorem get?_set_of_ne (hne : a ≠ b) : (h.set a o).get? b = h.get? b :=
  List.getElem?_set_ne hne

/-! ## What stays -/

/-- Below an address the second heap holds what the first one does. -/
def Keeps (n : Addr) (h h' : Heap ω) : Prop := ∀ a < n, h'.get? a = h.get? a

theorem Keeps.refl (n : Addr) (h : Heap ω) : Keeps n h h := fun _ _ => rfl

theorem Keeps.trans (hk : Keeps n h h') (hk' : Keeps n h' h'') : Keeps n h h'' :=
  fun a ha => (hk' a ha).trans (hk a ha)

theorem Keeps.alloc (hk : Keeps n h h') (hn : n ≤ h'.size) (o : ω) : Keeps n h (h'.alloc o) :=
  fun a ha => (get?_alloc_of_lt (Nat.lt_of_lt_of_le ha hn)).trans (hk a ha)

theorem Keeps.set (hk : Keeps n h h') (hn : n ≤ a) (o : ω) : Keeps n h (h'.set a o) :=
  fun _ hb => (get?_set_of_ne (Nat.ne_of_gt (Nat.lt_of_lt_of_le hb hn))).trans (hk _ hb)

end Heap

end Greenhouse.Process
