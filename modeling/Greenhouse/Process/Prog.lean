import Mathlib.Order.Basic

/-!
# Programs that call an environment

A program over a signature `Op`, `Resp` either returns or performs an operation and goes on
with the response. An environment says how a world may answer; a protocol says which
operations are permitted from a state of its own, whatever the answers.

* `Exec.bind_iff`, `Exec.call_iff`, `Exec.pure_iff`: running a program by itself.
* `ensures_bind`, `ensures_call`, `ensures_pure`: what a program ensures when it runs by
  itself. These rules execute a program symbolically.
* `obeys_bind`, `obeys_call`, `obeys_pure`: a program obeys a protocol, by the same rules.
* `Obeys.simulate`: what obeys a protocol obeys one that allows as much.
* `Obeys.of_uses`: a program of operations that leave the protocol state obeys the protocol.
* `obeys_hoist`, `Exec.of_hoist`: a program of a smaller signature.
* `obeys_bindE`, `obeys_perform`, `obeys_throw`: the rules for programs that raise.
* `Exec.invariant`: what every permitted operation preserves, a run by itself preserves.
* `Exec.of_eval`, `Exec.of_run?`: the run of a deterministic environment; `eval_bind`,
  `eval_call`, `eval_pure` compute its result.
-/

namespace Greenhouse.Process

theorem error_ne_ok {ε α : Type*} {e : ε} {a : α} : (Except.error e : Except ε α) ≠ .ok a := by
  intro h
  cases h

/-- Programs with operations in `Op`, answered in `Resp`, that return a value of type `α`. -/
inductive Prog (Op : Type) (Resp : Op → Type) (α : Type) where
  | ret (a : α)
  | op (o : Op) (k : Resp o → Prog Op Resp α)

/-- An operation with its response. -/
structure Call (Op : Type) (Resp : Op → Type) where
  op : Op
  resp : Resp op

/-- How a world may answer an operation, and the world after it. -/
abbrev Env (Op : Type) (Resp : Op → Type) (σ : Type) := σ → (o : Op) → Resp o → σ → Prop

/-- The operations permitted from each protocol state, the responses expected, and the state
each response leads to. -/
structure Protocol (Op : Type) (Resp : Op → Type) (Q : Type) where
  permits : Q → Op → Prop
  answers : Q → (o : Op) → Resp o → Prop
  next : Q → (o : Op) → Resp o → Q

/-- The protocol state after a list of calls. -/
def Protocol.after {Op : Type} {Resp : Op → Type} {Q : Type} (P : Protocol Op Resp Q) (q : Q)
    (cs : List (Call Op Resp)) : Q :=
  cs.foldl (fun q c => P.next q c.op c.resp) q

theorem Protocol.after_append {Op : Type} {Resp : Op → Type} {Q : Type} (P : Protocol Op Resp Q)
    (q : Q) (cs ds : List (Call Op Resp)) : P.after q (cs ++ ds) = P.after (P.after q cs) ds :=
  List.foldl_append

/-- The operations of a kind are permitted, and the protocol state stays as it is. -/
def Protocol.Idle {Op : Type} {Resp : Op → Type} {Q : Type} (P : Protocol Op Resp Q)
    (S : Op → Prop) (q : Q) : Prop :=
  ∀ o, S o → P.permits q o ∧ ∀ r, P.answers q o r → P.next q o r = q

theorem Protocol.Idle.mono {Op : Type} {Resp : Op → Type} {Q : Type} {P : Protocol Op Resp Q}
    {S T : Op → Prop} {q : Q} (h : P.Idle S q) (hle : ∀ o, T o → S o) : P.Idle T q :=
  fun o ho => h o (hle o ho)

/-- What a protocol says of the operations of a smaller signature. -/
def Protocol.along {Op Op' : Type} {Resp : Op' → Type} {Q : Type} (P : Protocol Op' Resp Q)
    (f : Op → Op') : Protocol Op (fun o => Resp (f o)) Q where
  permits q o := P.permits q (f o)
  answers q o r := P.answers q (f o) r
  next q o r := P.next q (f o) r

namespace Prog

variable {Op : Type} {Resp : Op → Type} {α β σ Q : Type}

def bind : Prog Op Resp α → (α → Prog Op Resp β) → Prog Op Resp β
  | ret a, f => f a
  | op o k, f => op o fun r => (k r).bind f

instance : Monad (Prog Op Resp) where
  pure := ret
  bind := bind

/-- What a program that has returned gives. -/
def returned? : Prog Op Resp α → Option α
  | ret a => some a
  | op _ _ => none

theorem eq_ret_of_returned {p : Prog Op Resp α} {a : α} (h : p.returned? = some a) :
    p = ret a := by
  cases p with
  | ret b => rw [Option.some.inj h]
  | op o k => cases h

/-- Perform one operation. -/
def call (o : Op) : Prog Op Resp (Resp o) := op o ret

/-! ## Running by itself -/

/-- The program runs from a world to a world, with the calls it makes on the way. -/
inductive Exec (env : Env Op Resp σ) : Prog Op Resp α → σ → List (Call Op Resp) → α → σ → Prop
  | ret {a : α} {s : σ} : Exec env (ret a) s [] a s
  | op {o : Op} {k : Resp o → Prog Op Resp α} {s s' s'' : σ} {r : Resp o}
      {cs : List (Call Op Resp)} {a : α} :
      env s o r s' → Exec env (k r) s' cs a s'' → Exec env (op o k) s (⟨o, r⟩ :: cs) a s''

section Exec

variable {env : Env Op Resp σ} {s s' : σ} {cs : List (Call Op Resp)} {b : β}

theorem Exec.pure_iff {a b : α} :
    Exec env (pure a) s cs b s' ↔ b = a ∧ cs = [] ∧ s' = s := by
  constructor
  · rintro ⟨⟩
    exact ⟨rfl, rfl, rfl⟩
  · rintro ⟨rfl, rfl, rfl⟩
    exact .ret

theorem Exec.call_iff {o : Op} {r : Resp o} :
    Exec env (call o) s cs r s' ↔ cs = [⟨o, r⟩] ∧ env s o r s' := by
  constructor
  · rintro (_ | ⟨henv, ⟨⟩⟩)
    exact ⟨rfl, henv⟩
  · rintro ⟨rfl, henv⟩
    exact .op henv .ret

theorem Exec.bind_iff {p : Prog Op Resp α} {f : α → Prog Op Resp β} :
    Exec env (p >>= f) s cs b s' ↔
      ∃ a cs₁ cs₂ t, Exec env p s cs₁ a t ∧ Exec env (f a) t cs₂ b s' ∧ cs = cs₁ ++ cs₂ := by
  induction p generalizing s cs with
  | ret a =>
    constructor
    · intro h
      exact ⟨a, [], cs, s, .ret, h, rfl⟩
    · rintro ⟨a, cs₁, cs₂, t, ⟨⟩, h, rfl⟩
      exact h
  | op o k ih =>
    constructor
    · rintro (_ | ⟨henv, h⟩)
      obtain ⟨a, cs₁, cs₂, t, h₁, h₂, rfl⟩ := (ih _).1 h
      exact ⟨a, _ :: cs₁, cs₂, t, .op henv h₁, h₂, rfl⟩
    · rintro ⟨a, cs₁, cs₂, t, _ | ⟨henv, h₁⟩, h₂, rfl⟩
      exact .op henv ((ih _).2 ⟨a, _, cs₂, t, h₁, h₂, rfl⟩)

/-- Whatever the environment answers, the run satisfies `post`. -/
def Ensures (env : Env Op Resp σ) (p : Prog Op Resp α) (s : σ)
    (post : List (Call Op Resp) → α → σ → Prop) : Prop :=
  ∀ cs a s', Exec env p s cs a s' → post cs a s'

@[simp] theorem ensures_pure {a : α} {post : List (Call Op Resp) → α → σ → Prop} :
    Ensures env (pure a) s post ↔ post [] a s := by
  simp only [Ensures, Exec.pure_iff]
  constructor
  · intro h
    exact h [] a s ⟨rfl, rfl, rfl⟩
  · rintro h _ _ _ ⟨rfl, rfl, rfl⟩
    exact h

@[simp] theorem ensures_call {o : Op} {post : List (Call Op Resp) → Resp o → σ → Prop} :
    Ensures env (call o) s post ↔ ∀ r s', env s o r s' → post [⟨o, r⟩] r s' := by
  simp only [Ensures, Exec.call_iff]
  constructor
  · intro h r s' henv
    exact h _ r s' ⟨rfl, henv⟩
  · rintro h _ r s' ⟨rfl, henv⟩
    exact h r s' henv

@[simp] theorem ensures_bind {p : Prog Op Resp α} {f : α → Prog Op Resp β}
    {post : List (Call Op Resp) → β → σ → Prop} :
    Ensures env (p >>= f) s post ↔
      Ensures env p s fun cs a t => Ensures env (f a) t fun ds b s' => post (cs ++ ds) b s' := by
  simp only [Ensures, Exec.bind_iff]
  constructor
  · intro h cs a t hp ds b s' hf
    exact h _ b s' ⟨a, cs, ds, t, hp, hf, rfl⟩
  · rintro h _ b s' ⟨a, cs, ds, t, hp, hf, rfl⟩
    exact h cs a t hp ds b s' hf

theorem Ensures.mono {p : Prog Op Resp α} {post post' : List (Call Op Resp) → α → σ → Prop}
    (h : Ensures env p s post) (hpost : ∀ cs a s', post cs a s' → post' cs a s') :
    Ensures env p s post' := fun cs a s' he => hpost cs a s' (h cs a s' he)

/-- The value and the world a deterministic environment leads to. -/
def eval (serve : σ → (o : Op) → Resp o × σ) : Prog Op Resp α → σ → α × σ
  | ret a, s => (a, s)
  | op o k, s => eval serve (k (serve s o).1) (serve s o).2

/-- The calls of the run in a deterministic environment. -/
def trace (serve : σ → (o : Op) → Resp o × σ) : Prog Op Resp α → σ → List (Call Op Resp)
  | ret _, _ => []
  | op o k, s => ⟨o, (serve s o).1⟩ :: trace serve (k (serve s o).1) (serve s o).2

@[simp] theorem eval_pure (serve : σ → (o : Op) → Resp o × σ) (a : α) (s : σ) :
    (pure a : Prog Op Resp α).eval serve s = (a, s) := rfl

@[simp] theorem eval_call (serve : σ → (o : Op) → Resp o × σ) (o : Op) (s : σ) :
    (call o).eval serve s = serve s o := rfl

@[simp] theorem eval_bind (serve : σ → (o : Op) → Resp o × σ) (p : Prog Op Resp α)
    (f : α → Prog Op Resp β) (s : σ) :
    (p >>= f).eval serve s = (f (p.eval serve s).1).eval serve (p.eval serve s).2 := by
  induction p generalizing s with
  | ret a => rfl
  | op o k ih => exact ih (serve s o).1 (serve s o).2

theorem Exec.of_eval {serve : σ → (o : Op) → Resp o × σ}
    (henv : ∀ s o, env s o (serve s o).1 (serve s o).2) (p : Prog Op Resp α) (s : σ) :
    Exec env p s (p.trace serve s) (p.eval serve s).1 (p.eval serve s).2 := by
  induction p generalizing s with
  | ret a => exact .ret
  | op o k ih => exact .op (henv s o) (ih (serve s o).1 (serve s o).2)

/-- The calls, the value and the world of a run whose answers are a function, where it has
them. -/
def run? (serve : σ → (o : Op) → Option (Resp o × σ)) :
    Prog Op Resp α → σ → Option (List (Call Op Resp) × α × σ)
  | ret a, s => some ([], a, s)
  | op o k, s => (serve s o).bind fun (r, t) =>
    (run? serve (k r) t).map fun (cs, a, u) => (⟨o, r⟩ :: cs, a, u)

theorem Exec.of_run? {serve : σ → (o : Op) → Option (Resp o × σ)}
    (henv : ∀ s o r t, serve s o = some (r, t) → env s o r t) {p : Prog Op Resp α} {a : α} :
    p.run? serve s = some (cs, a, s') → Exec env p s cs a s' := by
  induction p generalizing s cs with
  | ret b =>
    intro h
    cases h
    exact .ret
  | op o k ih =>
    intro h
    obtain ⟨⟨r, t⟩, hserve, h⟩ := Option.bind_eq_some_iff.1 h
    obtain ⟨⟨ds, b, u⟩, hrest, heq⟩ := Option.map_eq_some_iff.1 h
    cases heq
    exact .op (henv _ _ _ _ hserve) (ih r hrest)

end Exec

/-! ## Obeying a protocol -/

/-- Every operation the program performs is permitted, as long as the responses are expected
ones, and what it returns satisfies `post` in the protocol state reached. -/
def Obeys (P : Protocol Op Resp Q) : Prog Op Resp α → Q → (Q → α → Prop) → Prop
  | ret a, q, post => post q a
  | op o k, q, post =>
    P.permits q o ∧ ∀ r, P.answers q o r → (k r).Obeys P (P.next q o r) post

variable {P : Protocol Op Resp Q} {q : Q}

@[simp] theorem obeys_pure {a : α} {post : Q → α → Prop} :
    (pure a : Prog Op Resp α).Obeys P q post ↔ post q a := Iff.rfl

@[simp] theorem obeys_call {o : Op} {post : Q → Resp o → Prop} :
    (call o).Obeys P q post ↔
      P.permits q o ∧ ∀ r, P.answers q o r → post (P.next q o r) r := Iff.rfl

@[simp] theorem obeys_bind {p : Prog Op Resp α} {f : α → Prog Op Resp β}
    {post : Q → β → Prop} :
    (p >>= f).Obeys P q post ↔ p.Obeys P q fun q' a => (f a).Obeys P q' post := by
  induction p generalizing q with
  | ret a => exact Iff.rfl
  | op o k ih => exact and_congr_right fun _ => forall₂_congr fun r _ => ih r

theorem Obeys.mono {p : Prog Op Resp α} {post post' : Q → α → Prop}
    (h : p.Obeys P q post) (hpost : ∀ q a, post q a → post' q a) : p.Obeys P q post' := by
  induction p generalizing q with
  | ret a => exact hpost q a h
  | op o k ih => exact ⟨h.1, fun r hr => ih r (h.2 r hr)⟩

/-- **A protocol that allows what another one does**, along a relation of their states. -/
theorem Obeys.simulate {Q' : Type} {P' : Protocol Op Resp Q'} {R : Q → Q' → Prop} {q' : Q'}
    {p : Prog Op Resp α} {post : Q → α → Prop}
    (hsim : ∀ q q' o, R q q' → P.permits q o → P'.permits q' o ∧
      ∀ r, P'.answers q' o r → P.answers q o r ∧ R (P.next q o r) (P'.next q' o r))
    (h : p.Obeys P q post) (hR : R q q') :
    p.Obeys P' q' fun q' a => ∃ q, R q q' ∧ post q a := by
  induction p generalizing q q' with
  | ret a => exact ⟨q, hR, h⟩
  | op o k ih =>
    obtain ⟨hpermits, hnext⟩ := hsim q q' o hR h.1
    refine ⟨hpermits, fun r hr => ?_⟩
    obtain ⟨hanswers, hR'⟩ := hnext r hr
    exact ih r (h.2 r hanswers) hR'

/-! ## Programs of some operations -/

/-- The program performs only operations of a kind. -/
def Uses (S : Op → Prop) : Prog Op Resp α → Prop
  | ret _ => True
  | op o k => S o ∧ ∀ r, (k r).Uses S

section Uses

variable {S : Op → Prop}

@[simp] theorem uses_pure {a : α} : (pure a : Prog Op Resp α).Uses S := trivial

@[simp] theorem uses_call {o : Op} : (call o : Prog Op Resp (Resp o)).Uses S ↔ S o :=
  and_iff_left fun _ => trivial

theorem Uses.bind {p : Prog Op Resp α} {f : α → Prog Op Resp β} (hp : p.Uses S)
    (hf : ∀ a, (f a).Uses S) : (p >>= f).Uses S := by
  induction p with
  | ret a => exact hf a
  | op o k ih => exact ⟨hp.1, fun r => ih r (hp.2 r)⟩

/-- A program of such operations obeys the protocol. -/
theorem Obeys.of_uses {p : Prog Op Resp α} {post : Q → α → Prop} (hidle : P.Idle S q)
    (h : p.Uses S) (hpost : ∀ a, post q a) : p.Obeys P q post := by
  induction p with
  | ret a => exact hpost a
  | op o k ih =>
    refine ⟨(hidle o h.1).1, fun r hr => ?_⟩
    rw [(hidle o h.1).2 r hr]
    exact ih r (h.2 r)

end Uses

/-! ## Programs of another signature -/

/-- A program whose operations are operations of a larger signature. -/
def hoist {Op' : Type} {Resp' : Op' → Type} (f : Op → Op') :
    Prog Op (fun o => Resp' (f o)) α → Prog Op' Resp' α
  | ret a => ret a
  | op o k => op (f o) fun r => (k r).hoist f

theorem obeys_hoist {Op' : Type} {Resp' : Op' → Type} {P : Protocol Op' Resp' Q} {f : Op → Op'}
    {p : Prog Op (fun o => Resp' (f o)) α} {post : Q → α → Prop} :
    (p.hoist f).Obeys P q post ↔ p.Obeys (P.along f) q post := by
  induction p generalizing q with
  | ret a => exact Iff.rfl
  | op o k ih => exact and_congr_right fun _ => forall₂_congr fun r _ => ih r

/-- A run of it is a run in the part of the world that its operations reach; they leave the
rest. -/
theorem Exec.of_hoist {Op' τ υ : Type} {Resp' : Op' → Type} {f : Op → Op'} {env : Env Op' Resp' σ}
    {env' : Env Op (fun o => Resp' (f o)) τ} (part : σ → τ) (rest : σ → υ)
    (hstep : ∀ s o r s', env s (f o) r s' →
      env' (part s) o r (part s') ∧ rest s' = rest s)
    {p : Prog Op (fun o => Resp' (f o)) α} {s s' : σ} {cs : List (Call Op' Resp')} {a : α}
    (h : Exec env (p.hoist f) s cs a s') :
    ∃ ds : List (Call Op fun o => Resp' (f o)), Exec env' p (part s) ds a (part s') ∧
      rest s' = rest s ∧ cs = ds.map fun d => ⟨f d.op, d.resp⟩ := by
  induction p generalizing s cs with
  | ret b =>
    cases h
    exact ⟨[], .ret, rfl, rfl⟩
  | op o k ih =>
    obtain _ | ⟨henv, h⟩ := h
    obtain ⟨hpart, hrest⟩ := hstep _ _ _ _ henv
    obtain ⟨ds, hexec, hrest', rfl⟩ := ih _ h
    exact ⟨_ :: ds, .op hpart hexec, hrest'.trans hrest, rfl⟩

/-! ## Programs that raise -/

section Raising

variable {ε : Type}

/-- Perform one operation in a program that may raise. -/
def perform (o : Op) : ExceptT ε (Prog Op Resp) (Resp o) := ExceptT.lift (call o)

/-- What holds of a result, by whether it is raised. -/
def onResult (ok : Q → α → Prop) (raised : Q → ε → Prop) (q : Q) : Except ε α → Prop
  | .ok a => ok q a
  | .error e => raised q e

@[simp] theorem onResult_ok {ok : Q → α → Prop} {raised : Q → ε → Prop} {a : α} :
    onResult ok raised q (.ok a) = ok q a := rfl

@[simp] theorem onResult_error {ok : Q → α → Prop} {raised : Q → ε → Prop} {e : ε} :
    onResult ok raised q (.error e) = raised q e := rfl

variable {post : Q → Except ε β → Prop}

@[simp] theorem obeys_bindE {x : ExceptT ε (Prog Op Resp) α}
    {f : α → ExceptT ε (Prog Op Resp) β} :
    (x >>= f).run.Obeys P q post ↔
      x.run.Obeys P q (onResult (fun q a => (f a).run.Obeys P q post)
        fun q e => post q (.error e)) := by
  have hbind : (x >>= f).run = x.run >>= fun r => ExceptT.bindCont f r := rfl
  have hcont : (fun q (r : Except ε α) => (ExceptT.bindCont f r).Obeys P q post) =
      onResult (fun q a => (f a).run.Obeys P q post) fun q e => post q (.error e) := by
    funext q r
    cases r <;> rfl
  rw [hbind, obeys_bind, hcont]

/-- Step by step: what a program that may raise gives is what the rest starts from. -/
theorem Obeys.bindE {x : ExceptT ε (Prog Op Resp) α} {f : α → ExceptT ε (Prog Op Resp) β}
    {ok : Q → α → Prop}
    (hx : x.run.Obeys P q (onResult ok fun q e => post q (.error e)))
    (hf : ∀ q a, ok q a → (f a).run.Obeys P q post) : (x >>= f).run.Obeys P q post := by
  rw [obeys_bindE]
  refine hx.mono fun q r hr => ?_
  cases r with
  | ok a => exact hf q a hr
  | error e => exact hr

@[simp] theorem obeys_pureE {a : β} :
    (pure a : ExceptT ε (Prog Op Resp) β).run.Obeys P q post ↔ post q (.ok a) := Iff.rfl

@[simp] theorem obeys_throw {e : ε} :
    (throw e : ExceptT ε (Prog Op Resp) β).run.Obeys P q post ↔ post q (.error e) := Iff.rfl

@[simp] theorem obeys_perform {o : Op} {post : Q → Except ε (Resp o) → Prop} :
    (perform o : ExceptT ε (Prog Op Resp) (Resp o)).run.Obeys P q post ↔
      P.permits q o ∧ ∀ r, P.answers q o r → post (P.next q o r) (.ok r) := Iff.rfl

@[simp] theorem obeys_lift {p : Prog Op Resp β} :
    (ExceptT.lift p : ExceptT ε (Prog Op Resp) β).run.Obeys P q post ↔
      p.Obeys P q fun q a => post q (.ok a) := by
  show (p >>= fun a => pure (.ok a)).Obeys P q post ↔ _
  simp only [obeys_bind, obeys_pure]

end Raising

/-! ## Invariants of a run -/

/-- **What every permitted operation preserves, a run by itself preserves.** -/
theorem Exec.invariant {env : Env Op Resp σ} {p : Prog Op Resp α} {I : σ → Q → Prop}
    {post : Q → α → Prop} {cs : List (Call Op Resp)} {a : α} {s s' : σ}
    (hstep : ∀ s q o r s', I s q → P.permits q o → env s o r s' →
      P.answers q o r ∧ I s' (P.next q o r))
    (h : Exec env p s cs a s') (hp : p.Obeys P q post) (hI : I s q) :
    post (P.after q cs) a ∧ I s' (P.after q cs) := by
  induction h generalizing q with
  | ret => exact ⟨hp, hI⟩
  | op henv _ ih =>
    obtain ⟨hanswers, hI⟩ := hstep _ _ _ _ _ hI hp.1 henv
    exact ih (hp.2 _ hanswers) hI

end Prog

end Greenhouse.Process
