import Greenhouse.Numeric.F64

/-!
# Documents

JSON as a tree, and the way a decoder fills a record from it: an absent member and `null`
leave the zero value, a member of another kind is an error (`none`), members it does not know
are ignored. An integer and a number with a fraction are told apart, as their texts are.
Names of members are matched exactly.
-/

namespace Greenhouse.Contract

open Greenhouse.Numeric

/-- A JSON document. -/
inductive Document where
  | null
  | bool (b : Bool)
  | int (n : Int)
  | float (q : ℚ)
  | string (s : String)
  | array (items : List Document)
  | object (members : List (String × Document))

namespace Document

/-! ## Encoding -/

/-- A number as it is written; a non-finite one is written as `null`. -/
def ofF64 : F64 → Document
  | .fin q => .float q
  | _ => .null

def ofOption {α : Type} (f : α → Document) : Option α → Document
  | some a => f a
  | none => .null

/-! ## Decoding -/

/-- The members of an object; `null` has none. -/
def members? : Document → Option (List (String × Document))
  | .object members => some members
  | .null => some []
  | _ => none

/-- The last member of the name, `null` if there is none. -/
def member (members : List (String × Document)) (name : String) : Document :=
  ((members.reverse.find? fun m => m.1 == name).map Prod.snd).getD .null

def text : Document → Option String
  | .string s => some s
  | .null => some ""
  | _ => none

def flag : Document → Option Bool
  | .bool b => some b
  | .null => some false
  | _ => none

def number : Document → Option F64
  | .int n => some (.fin n)
  | .float q => some (.fin q)
  | .null => some 0
  | _ => none

/-- A signed integer of 64 bits. -/
def int64 : Document → Option Int
  | .int n => if -2 ^ 63 ≤ n ∧ n < 2 ^ 63 then some n else none
  | .null => some 0
  | _ => none

/-- A value that `null` stands for the absence of. -/
def optional {α : Type} (f : Document → Option α) : Document → Option (Option α)
  | .null => some none
  | d => (f d).map some

def list {α : Type} (f : Document → Option α) : Document → Option (List α)
  | .array items => items.mapM f
  | .null => some []
  | _ => none

@[simp] theorem text_string (s : String) : (string s).text = some s := rfl

@[simp] theorem flag_bool (b : Bool) : (bool b).flag = some b := rfl

@[simp] theorem text_ofOption (s : Option String) :
    optional text (ofOption string s) = some s := by
  cases s <;> rfl

theorem int64_nat {n : Nat} (h : n < 2 ^ 63) : (int n).int64 = some (n : Int) := by
  have hrange : -2 ^ 63 ≤ (n : Int) ∧ (n : Int) < 2 ^ 63 := by omega
  rw [int64, if_pos hrange]

theorem number_ofF64 {x : F64} (h : x.isFinite = true) : (ofF64 x).number = some x := by
  obtain ⟨q, rfl⟩ := F64.isFinite_iff.1 h
  rfl

theorem optional_number_ofF64 {x : F64} (h : x.isFinite = true) :
    optional number (ofF64 x) = some (some x) := by
  obtain ⟨q, rfl⟩ := F64.isFinite_iff.1 h
  rfl

/-- A list of documents decodes when each of them does. -/
theorem list_map {α β : Type} {f : Document → Option β} {g : α → Document} {h : α → β}
    {items : List α} (hone : ∀ a ∈ items, f (g a) = some (h a)) :
    list f (array (items.map g)) = some (items.map h) := by
  change (items.map g).mapM f = _
  induction items with
  | nil => rfl
  | cons a items ih =>
    rw [List.map_cons, List.mapM_cons, hone a List.mem_cons_self,
      ih fun b hb => hone b (List.mem_cons_of_mem a hb)]
    rfl

end Document

/-! ## Timestamps -/

/-- The RFC 3339 text of an instant, in seconds since 1970, as the controller writes it, and the
reading of such a text on the platform. -/
class Rfc3339 where
  format : Int → String
  parse : String → Option Int

/-- The text of the instant reads back as the instant. -/
def Rfc3339.Exact [Rfc3339] (instant : Int) : Prop := parse (format instant) = some instant

instance [Rfc3339] (instant : Int) : Decidable (Rfc3339.Exact instant) :=
  inferInstanceAs (Decidable (_ = _))

end Greenhouse.Contract
