import Mathlib.Logic.Function.Basic
import Greenhouse.Process.Prog

/-!
# Families of worlds

A family has one world for each of its keys. A program for one world runs on a member of
the family, and a program can visit the members one after another.

* `on_ensures`: a program on a member runs as it does by itself, and changes no other member.
* `visit_ensures`: visiting distinct keys runs the program once on each of their members.
-/

namespace Greenhouse.Process

/-- Operations on a family: list the keys, or act on the member at a key. -/
inductive FamilyOp (ι Op : Type) where
  | keys
  | on (i : ι) (o : Op)

abbrev FamilyResp (ι : Type) {Op : Type} (Resp : Op → Type) : FamilyOp ι Op → Type
  | .keys => Except String (List ι)
  | .on _ o => Resp o

/-- Worlds under distinct keys. -/
structure Family (ι σ : Type) where
  keys : List ι
  nodup : keys.Nodup
  member : ι → σ

variable {ι Op α σ : Type} {Resp : Op → Type}

/-- Every member has its own environment, and listing the keys gives them all. -/
def family (E : ι → Env Op Resp σ) : Env (FamilyOp ι Op) (FamilyResp ι Resp) (Family ι σ) :=
  fun F o r F' =>
    match o, r with
    | .keys, r => r = .ok F.keys ∧ F' = F
    | .on i o, r => F'.keys = F.keys ∧ E i (F.member i) o r (F'.member i) ∧
        ∀ j, j ≠ i → F'.member j = F.member j

/-- A family whose members are served by functions. -/
def Family.serve [DecidableEq ι] (serve : ι → σ → (o : Op) → Resp o × σ) (F : Family ι σ) :
    (o : FamilyOp ι Op) → FamilyResp ι Resp o × Family ι σ
  | .keys => (.ok F.keys, F)
  | .on i o =>
    ((serve i (F.member i) o).1,
      { F with member := Function.update F.member i (serve i (F.member i) o).2 })

theorem family_serve [DecidableEq ι] {E : ι → Env Op Resp σ}
    {serve : ι → σ → (o : Op) → Resp o × σ} (hE : ∀ i s o, E i s o (serve i s o).1 (serve i s o).2)
    (F : Family ι σ) (o : FamilyOp ι Op) :
    family E F o (F.serve serve o).1 (F.serve serve o).2 := by
  cases o with
  | keys => exact ⟨rfl, rfl⟩
  | on i o =>
    refine ⟨rfl, ?_, fun j hj => Function.update_of_ne hj _ _⟩
    simp only [Family.serve, Function.update_self]
    exact hE i (F.member i) o

namespace Prog

/-- List the keys. -/
def keys : Prog (FamilyOp ι Op) (FamilyResp ι Resp) (Except String (List ι)) :=
  op .keys ret

/-- Run a program on the member at a key. -/
def on (i : ι) : Prog Op Resp α → Prog (FamilyOp ι Op) (FamilyResp ι Resp) α
  | ret a => ret a
  | op o k => op (.on i o) fun r => (k r).on i

/-- Run a program on the members at some keys, one after another. -/
def visit (p : Prog Op Resp α) : List ι → Prog (FamilyOp ι Op) (FamilyResp ι Resp) Unit
  | [] => return ()
  | i :: is => do
    let _ ← p.on i
    p.visit is

variable {E : ι → Env Op Resp σ} {p : Prog Op Resp α}

theorem keys_ensures (F : Family ι σ) :
    Ensures (family E) (keys : Prog _ (FamilyResp ι Resp) _) F fun cs a F' =>
      cs = [⟨.keys, .ok F.keys⟩] ∧ a = .ok F.keys ∧ F' = F :=
  (ensures_call (o := FamilyOp.keys)).2 fun r _ h => ⟨by rw [h.1], h⟩

section CallsOn

variable [DecidableEq ι]

/-- The calls that act on a member. -/
def callsOn (i : ι) : List (Call (FamilyOp ι Op) (FamilyResp ι Resp)) → List (Call Op Resp)
  | [] => []
  | ⟨.keys, _⟩ :: cs => callsOn i cs
  | ⟨.on j o, r⟩ :: cs => if j = i then ⟨o, r⟩ :: callsOn i cs else callsOn i cs

theorem callsOn_append (i : ι) (cs ds : List (Call (FamilyOp ι Op) (FamilyResp ι Resp))) :
    callsOn i (cs ++ ds) = callsOn i cs ++ callsOn i ds := by
  induction cs with
  | nil => rfl
  | cons c cs ih =>
    obtain ⟨_ | ⟨j, o⟩, r⟩ := c
    · exact ih
    · by_cases h : j = i <;> simp [callsOn, h, ih]

/-- **A program on a member runs as it does by itself.** -/
theorem on_ensures (i : ι) (p : Prog Op Resp α) (F : Family ι σ) :
    Ensures (family E) (p.on i) F fun cs a F' => F'.keys = F.keys ∧
      Exec (E i) p (F.member i) (callsOn i cs) a (F'.member i) ∧
      ∀ j, j ≠ i → F'.member j = F.member j ∧ callsOn j cs = [] := by
  intro cs a F' h
  induction p generalizing F cs with
  | ret b =>
    obtain ⟨rfl, rfl, rfl⟩ := Exec.pure_iff.1 h
    exact ⟨rfl, .ret, fun _ _ => ⟨rfl, rfl⟩⟩
  | op o k ih =>
    obtain _ | ⟨⟨hkeys, henv, hrest⟩, h⟩ := h
    obtain ⟨hkeys', hexec, hrest'⟩ := ih _ _ _ h
    refine ⟨hkeys'.trans hkeys, ?_, fun j hj => ⟨(hrest' j hj).1.trans (hrest j hj), ?_⟩⟩
    · simp only [callsOn, if_true]
      exact .op henv hexec
    · simp only [callsOn, if_neg (Ne.symm hj)]
      exact (hrest' j hj).2

/-- **Visiting distinct keys runs the program once on each of their members.** -/
theorem visit_ensures {is : List ι} (hnodup : is.Nodup) (F : Family ι σ) :
    Ensures (family E) (p.visit is) F fun cs _ F' => F'.keys = F.keys ∧
      (∀ i ∈ is, ∃ a, Exec (E i) p (F.member i) (callsOn i cs) a (F'.member i)) ∧
      ∀ j, j ∉ is → F'.member j = F.member j ∧ callsOn j cs = [] := by
  induction is generalizing F with
  | nil =>
    refine ensures_pure.2 ⟨rfl, ?_, fun _ _ => ⟨rfl, rfl⟩⟩
    intro i hi
    cases hi
  | cons i is ih =>
    obtain ⟨hi, hnodup⟩ := List.nodup_cons.1 hnodup
    simp only [visit, ensures_bind]
    refine (on_ensures i p F).mono ?_
    rintro cs a F₁ ⟨hkeys, hexec, hrest⟩
    refine (ih hnodup F₁).mono ?_
    rintro ds _ F₂ ⟨hkeys', hvisited, hrest'⟩
    simp only [callsOn_append]
    refine ⟨hkeys'.trans hkeys, ?_, ?_⟩
    · intro j hj
      rcases List.mem_cons.1 hj with rfl | hj
      · obtain ⟨hmember, hcalls⟩ := hrest' j hi
        rw [hcalls, List.append_nil, hmember]
        exact ⟨a, hexec⟩
      · obtain ⟨hmember, hcalls⟩ := hrest j fun h => hi (h ▸ hj)
        rw [hcalls, List.nil_append, ← hmember]
        exact hvisited j hj
    · intro j hj
      obtain ⟨hne, hj⟩ := not_or.1 (mt List.mem_cons.2 hj)
      obtain ⟨hmember, hcalls⟩ := hrest j hne
      obtain ⟨hmember', hcalls'⟩ := hrest' j hj
      exact ⟨hmember'.trans hmember, by rw [hcalls, hcalls', List.append_nil]⟩

end CallsOn

end Prog

end Greenhouse.Process
