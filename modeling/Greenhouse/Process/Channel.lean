import Mathlib.Data.List.Basic
import Mathlib.Order.Basic

/-!
# Bounded channels

A channel has room for a number of items and hands them on in the order in which they came. Both
ends may try without waiting: a send fails if there is no room, a receive if there is nothing.

* `Channel.send?_eq_none_iff`: a send fails exactly when the channel is full.
* `Channel.Carries`: what was sent is what was received and then what is queued.
-/

namespace Greenhouse.Process

/-- A channel with room for `size` items, the oldest first. -/
@[ext]
structure Channel (α : Type) (size : ℕ) where
  items : List α
  bounded : items.length ≤ size

namespace Channel

variable {α : Type} {size : ℕ} {c c' : Channel α size} {a : α} {sent received : List α}

def empty : Channel α size := ⟨[], Nat.zero_le size⟩

def Full (c : Channel α size) : Prop := c.items.length = size

theorem room (h : c.items.length < size) : (c.items ++ [a]).length ≤ size := by
  rw [List.length_append]
  exact h

theorem tail_bounded (c : Channel α size) : c.items.tail.length ≤ size := by
  rw [List.length_tail]
  exact Nat.le_trans (Nat.sub_le _ 1) c.bounded

/-- Send an item, if there is room. -/
def send? (c : Channel α size) (a : α) : Option (Channel α size) :=
  if h : c.items.length < size then some ⟨c.items ++ [a], room h⟩ else none

/-- Receive the oldest item, if there is one. -/
def receive? (c : Channel α size) : Option (α × Channel α size) :=
  c.items.head?.map fun a => (a, ⟨c.items.tail, c.tail_bounded⟩)

theorem items_of_send? (h : c.send? a = some c') : c'.items = c.items ++ [a] := by
  by_cases hroom : c.items.length < size
  · rw [send?, dif_pos hroom] at h
    cases h
    rfl
  · rw [send?, dif_neg hroom] at h
    cases h

/-- **A send fails exactly when the channel is full.** -/
theorem send?_eq_none_iff : c.send? a = none ↔ c.Full := by
  by_cases hroom : c.items.length < size
  · rw [send?, dif_pos hroom, Full]
    exact ⟨fun h => (Option.some_ne_none _ h).elim, fun h => absurd h (Nat.ne_of_lt hroom)⟩
  · rw [send?, dif_neg hroom, Full]
    exact ⟨fun _ => Nat.le_antisymm c.bounded (Nat.le_of_not_lt hroom), fun _ => rfl⟩

theorem exists_send? (h : ¬ c.Full) (a : α) : ∃ c', c.send? a = some c' :=
  Option.ne_none_iff_exists'.1 fun hnone => h (send?_eq_none_iff.1 hnone)

theorem exists_receive? {items : List α} (h : c.items = a :: items) :
    ∃ c', c.receive? = some (a, c') ∧ c'.items = items := by
  have hhead : c.items.head? = some a := by
    rw [h]
    rfl
  refine ⟨⟨c.items.tail, c.tail_bounded⟩, ?_, congrArg List.tail h⟩
  rw [receive?, hhead]
  rfl

/-- A receive takes the oldest item. -/
theorem items_of_receive? (h : c.receive? = some (a, c')) : c.items = a :: c'.items := by
  obtain ⟨b, hb, hpair⟩ := Option.map_eq_some_iff.1 h
  cases hpair
  exact (List.cons_head?_tail hb).symm

/-- What has been sent is what has been received and then what is queued. -/
def Carries (c : Channel α size) (sent received : List α) : Prop := sent = received ++ c.items

theorem Carries.send (h : c.Carries sent received) (hsend : c.send? a = some c') :
    c'.Carries (sent ++ [a]) received := by
  rw [Carries, items_of_send? hsend, h, List.append_assoc]

theorem Carries.receive (h : c.Carries sent received) (hreceive : c.receive? = some (a, c')) :
    c'.Carries sent (received ++ [a]) := by
  rw [Carries, h, items_of_receive? hreceive, List.append_assoc]
  rfl

end Channel

end Greenhouse.Process
