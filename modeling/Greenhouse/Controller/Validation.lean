import Greenhouse.Controller.Domain

/-!
# Field violations and the shared checks

`FieldViolation` is the one rejection shape of the controller: configuration loading
and the REST handlers both report it. A `validate` routine of the source pushes its
violations onto a vector; here it returns the list of what it pushes, in order.
-/

namespace Greenhouse.Controller

open Greenhouse.Numeric

/-- A single rejected field. -/
structure FieldViolation where
  error : String
  field : String
  bound : String
  value : Json
  deriving DecidableEq

/-- Build a violation, deriving the readable error from the field and the bound. -/
def FieldViolation.new (field bound : String) (value : Json) : FieldViolation where
  error := "`" ++ field ++ "` violates constraint: " ++ bound
  field := field
  bound := bound
  value := value

@[simp] theorem FieldViolation.new_field (field bound : String) (value : Json) :
    (FieldViolation.new field bound value).field = field := rfl

/-- The numbers a check ranges over: how they print and how they serialize. -/
class Scalar (α : Type) where
  display : α → String
  toJson : α → Json

instance : Scalar F64 := ⟨F64.display, F64.toJson⟩

instance : Scalar Nat := ⟨toString, fun n => .number n⟩

section Checks

variable {α : Type} [LT α] [DecidableLT α] [Scalar α]

/-- A violation unless `value` lies within `[min, max]`. -/
def checkRange (field : String) (value min max : α) : List FieldViolation :=
  if value < min ∨ max < value then
    [.new field (Scalar.display min ++ "..=" ++ Scalar.display max) (Scalar.toJson value)]
  else []

/-- A violation unless `value >= min`. -/
def checkMin (field : String) (value min : α) : List FieldViolation :=
  if value < min then [.new field (">= " ++ Scalar.display min) (Scalar.toJson value)] else []

theorem checkRange_eq_nil {field : String} {value min max : α} :
    checkRange field value min max = [] ↔ ¬ value < min ∧ ¬ max < value := by
  rw [← not_or]
  unfold checkRange
  split <;> simp_all

theorem checkMin_eq_nil {field : String} {value min : α} :
    checkMin field value min = [] ↔ ¬ value < min := by
  unfold checkMin
  split <;> simp_all

/-- A check names the field it checks. -/
theorem checkRange_field {field : String} {value min max : α} {v : FieldViolation}
    (h : v ∈ checkRange field value min max) : v.field = field := by
  unfold checkRange at h
  split at h
  · rw [List.mem_singleton.1 h, FieldViolation.new_field]
  · cases h

theorem checkMin_field {field : String} {value min : α} {v : FieldViolation}
    (h : v ∈ checkMin field value min) : v.field = field := by
  unfold checkMin at h
  split at h
  · rw [List.mem_singleton.1 h, FieldViolation.new_field]
  · cases h

end Checks

/-- A violation when the condition holds. -/
def violationIf (bad : Prop) [Decidable bad] (field bound : String) (value : Json) :
    List FieldViolation :=
  if bad then [.new field bound value] else []

theorem violationIf_eq_nil {bad : Prop} [Decidable bad] {field bound : String} {value : Json} :
    violationIf bad field bound value = [] ↔ ¬ bad := by
  unfold violationIf
  split <;> simp_all

end Greenhouse.Controller
