import Mathlib.Order.Basic

/-!
# Runs of labelled transition systems

A transition system is a relation `step s e s'` between states, labelled by events.
`Run step s es s'` is a run over the list `es` of events.

* `Run.invariant`, `Run.history`: what every step preserves, of the state alone or of the events
  so far too, every run preserves.
* `Run.append`, `Run.split`: runs over a concatenation.
* `Occurs`, `Latest`: an event with a property of it and of the events before it; the last one of
  a kind.
* `Run.mono`, `Run.mono_of_invariant`: a run of a system is a run of any system that allows its
  steps, or its steps from the states with an invariant.
* `Run.erase`, `Run.restore`: events that keep an observation can be left out of a run and put back.
* `Run.countP_le`: a measure that every counted step decreases bounds the count.
* `Streak`: a run that ends with a number of ticks on all of which a condition held;
  `Run.le_counter_iff` says that a counter with a reset measures it.
* `Run.meets_or_breaks`: the first step that breaks a condition.
* `Run.meeting_of_reached`: a run whose every step from a reached state meets a condition.
* `Run.meeting_congr`: two conditions that agree under an invariant are met by the same runs.
* `Run.keeping_iff`: where a step keeps an invariant exactly when it meets a condition,
  the runs that keep it throughout are those whose steps all meet the condition.
-/

namespace Greenhouse.Process

variable {σ ε : Type*}

/-- Among the events there is one with a property of it and of the events before it. -/
def Occurs (P : List ε → ε → Prop) (es : List ε) : Prop :=
  ∃ before e after, es = before ++ e :: after ∧ P before e

theorem not_occurs_nil {P : List ε → ε → Prop} : ¬ Occurs P [] := by
  rintro ⟨before, e, after, h, -⟩
  have hmem : e ∈ before ++ e :: after := List.mem_append_right before List.mem_cons_self
  rw [← h] at hmem
  exact absurd hmem List.not_mem_nil

theorem occurs_concat {P : List ε → ε → Prop} {es : List ε} {e : ε} :
    Occurs P (es ++ [e]) ↔ Occurs P es ∨ P es e := by
  constructor
  · rintro ⟨before, b, after, h, hP⟩
    rcases after.eq_nil_or_concat with rfl | ⟨init, last, rfl⟩
    · obtain ⟨rfl, hlast⟩ := List.append_inj' h rfl
      cases hlast
      exact .inr hP
    · rw [List.concat_eq_append, ← List.cons_append, ← List.append_assoc] at h
      obtain ⟨rfl, -⟩ := List.append_inj' h rfl
      exact .inl ⟨before, b, init, rfl, hP⟩
  · rintro (⟨before, b, after, rfl, hP⟩ | hP)
    · exact ⟨before, b, after ++ [e], by simp, hP⟩
    · exact ⟨es, e, [], rfl, hP⟩

/-- The last of the events that write has a property of it and of the events before it. -/
def Latest (writes : ε → Prop) (P : List ε → ε → Prop) (es : List ε) : Prop :=
  ∃ before e after, es = before ++ e :: after ∧ P before e ∧ ∀ e' ∈ after, ¬ writes e'

theorem not_latest_nil {writes : ε → Prop} {P : List ε → ε → Prop} : ¬ Latest writes P [] := by
  rintro ⟨before, e, after, h, -, -⟩
  exact not_occurs_nil (P := fun _ _ => True) ⟨before, e, after, h, trivial⟩

theorem latest_concat {writes : ε → Prop} {P : List ε → ε → Prop} {es : List ε} {e : ε} :
    Latest writes P (es ++ [e]) ↔ P es e ∨ Latest writes P es ∧ ¬ writes e := by
  constructor
  · rintro ⟨before, b, after, h, hP, hafter⟩
    rcases after.eq_nil_or_concat with rfl | ⟨init, last, rfl⟩
    · obtain ⟨rfl, hlast⟩ := List.append_inj' h rfl
      cases hlast
      exact .inl hP
    · rw [List.concat_eq_append, ← List.cons_append, ← List.append_assoc] at h
      obtain ⟨rfl, hlast⟩ := List.append_inj' h rfl
      cases hlast
      rw [List.concat_eq_append, List.forall_mem_append] at hafter
      exact .inr ⟨⟨before, b, init, rfl, hP, hafter.1⟩, hafter.2 e List.mem_cons_self⟩
  · rintro (hP | ⟨⟨before, b, after, rfl, hP, hafter⟩, he⟩)
    · exact ⟨es, e, [], rfl, hP, List.forall_mem_nil _⟩
    · refine ⟨before, b, after ++ [e], by simp, hP, ?_⟩
      rw [List.forall_mem_append]
      exact ⟨hafter, List.forall_mem_singleton.2 he⟩

/-- A run from a state to a state over a list of events. -/
inductive Run (step : σ → ε → σ → Prop) : σ → List ε → σ → Prop
  | nil (s : σ) : Run step s [] s
  | cons {s s' s'' : σ} {e : ε} {es : List ε} :
      step s e s' → Run step s' es s'' → Run step s (e :: es) s''

/-- The steps that meet a condition on the state before and the event. -/
def Meeting (step : σ → ε → σ → Prop) (C : σ → ε → Prop) (s : σ) (e : ε) (s' : σ) : Prop :=
  step s e s' ∧ C s e

/-- The steps that lead to a state with a property. -/
def Keeping (step : σ → ε → σ → Prop) (I : σ → Prop) (s : σ) (e : ε) (s' : σ) : Prop :=
  step s e s' ∧ I s'

namespace Run

variable {step : σ → ε → σ → Prop} {s s' s'' : σ} {es fs : List ε}

theorem single {e : ε} (h : step s e s') : Run step s [e] s' := cons h (nil s')

theorem append (h : Run step s es s') (h' : Run step s' fs s'') : Run step s (es ++ fs) s'' := by
  induction h with
  | nil => exact h'
  | cons hstep _ ih => exact cons hstep (ih h')

theorem split (h : Run step s (es ++ fs) s'') : ∃ s', Run step s es s' ∧ Run step s' fs s'' := by
  induction es generalizing s with
  | nil => exact ⟨s, nil s, h⟩
  | cons e es ih =>
    cases h with
    | cons hstep h =>
      obtain ⟨t, hes, hfs⟩ := ih h
      exact ⟨t, cons hstep hes, hfs⟩

/-- **What every step preserves, every run preserves.** -/
theorem invariant {I : σ → Prop} (hstep : ∀ s e s', I s → step s e s' → I s')
    (h : Run step s es s') (hs : I s) : I s' := by
  induction h with
  | nil => exact hs
  | cons hone _ ih => exact ih (hstep _ _ _ hs hone)

theorem mono {step' : σ → ε → σ → Prop} (hstep : ∀ s e s', step s e s' → step' s e s')
    (h : Run step s es s') : Run step' s es s' := by
  induction h with
  | nil => exact nil _
  | cons hone _ ih => exact cons (hstep _ _ _ hone) ih

/-- **What every step preserves of the events so far and the state**, every run preserves. -/
theorem history {P : List ε → σ → Prop}
    (hstep : ∀ es s e s', P es s → step s e s' → P (es ++ [e]) s') (h : Run step s es s')
    (hs : P [] s) : P es s' := by
  suffices hfrom : ∀ {before : List ε}, P before s → P (before ++ es) s' from hfrom hs
  clear hs
  induction h with
  | nil =>
    intro before hs
    rw [List.append_nil]
    exact hs
  | cons hone _ ih =>
    intro before hs
    have hrest := ih (hstep _ _ _ _ hs hone)
    rw [List.append_assoc] at hrest
    exact hrest

/-- What every step that meets a condition preserves, every run of such steps preserves. -/
theorem invariant_of_meeting {I : σ → Prop} {C : σ → ε → Prop}
    (hstep : ∀ s e s', I s → step s e s' → C s e → I s') (h : Run (Meeting step C) s es s')
    (hs : I s) : I s' :=
  h.invariant (fun s e s' hI hone => hstep s e s' hI hone.1 hone.2) hs

/-- The steps of a run are what an invariant makes of the steps that preserve it. -/
theorem mono_of_invariant {I : σ → Prop} {step' : σ → ε → σ → Prop}
    (hstep : ∀ s e s', I s → step s e s' → I s' ∧ step' s e s') (h : Run step s es s') (hs : I s) :
    Run step' s es s' := by
  induction h with
  | nil => exact nil _
  | cons hone _ ih =>
    obtain ⟨hI, hone'⟩ := hstep _ _ _ hs hone
    exact cons hone' (ih hI)

/-- **Silent events can be left out.** When silent events keep an observation, and it determines
what the other events make of it, the run without the silent ones ends with the same. -/
theorem erase {ω : Type*} {obs : σ → ω} {silent : ε → Bool}
    (hskip : ∀ s e s', silent e = true → step s e s' → obs s' = obs s)
    (hlift : ∀ s e s' t, silent e = false → step s e s' → obs t = obs s →
      ∃ t', step t e t' ∧ obs t' = obs s')
    (h : Run step s es s') : ∀ {t : σ}, obs t = obs s →
      ∃ t', Run step t (es.filter fun e => !silent e) t' ∧ obs t' = obs s' := by
  induction h with
  | nil => exact fun {t} ht => ⟨t, nil t, ht⟩
  | @cons s u s' e es hone _ ih =>
    intro t ht
    cases he : silent e with
    | true =>
      rw [List.filter_cons_of_neg (by simp [he])]
      exact ih (ht.trans (hskip s e u he hone).symm)
    | false =>
      obtain ⟨t₁, hstep, hobs⟩ := hlift s e u t he hone ht
      obtain ⟨t', hrun, hobs'⟩ := ih hobs
      rw [List.filter_cons_of_pos (by simp [he])]
      exact ⟨t', cons hstep hrun, hobs'⟩

/-- **Silent events can be put back**, when they are always possible. -/
theorem restore {ω : Type*} {obs : σ → ω} {silent : ε → Bool}
    (hcan : ∀ s e, silent e = true → ∃ s', step s e s' ∧ obs s' = obs s)
    (hlift : ∀ s e s' t, silent e = false → step s e s' → obs t = obs s →
      ∃ t', step t e t' ∧ obs t' = obs s') :
    ∀ {es : List ε} {s s' t : σ}, Run step s (es.filter fun e => !silent e) s' → obs t = obs s →
      ∃ t', Run step t es t' ∧ obs t' = obs s' := by
  intro es
  induction es with
  | nil =>
    intro s s' t h ht
    cases h
    exact ⟨t, nil t, ht⟩
  | cons e es ih =>
    intro s s' t h ht
    cases he : silent e with
    | true =>
      rw [List.filter_cons_of_neg (by simp [he])] at h
      obtain ⟨t₁, hstep, hobs⟩ := hcan t e he
      obtain ⟨t', hrun, hobs'⟩ := ih h (hobs.trans ht)
      exact ⟨t', cons hstep hrun, hobs'⟩
    | false =>
      rw [List.filter_cons_of_pos (by simp [he])] at h
      cases h with
      | cons hone hrest =>
        obtain ⟨t₁, hstep, hobs⟩ := hlift _ e _ t he hone ht
        obtain ⟨t', hrun, hobs'⟩ := ih hrest hobs
        exact ⟨t', cons hstep hrun, hobs'⟩

/-- A run over events that all satisfy a predicate. -/
theorem meeting_of_forall {P : ε → Prop} {C : σ → ε → Prop} (hC : ∀ s e, P e → C s e)
    (h : Run step s es s') (hes : ∀ e ∈ es, P e) : Run (Meeting step C) s es s' := by
  induction h with
  | nil => exact nil _
  | cons hone _ ih =>
    exact cons ⟨hone, hC _ _ (hes _ List.mem_cons_self)⟩
      (ih fun e he => hes e (List.mem_cons_of_mem _ he))

theorem forall_of_meeting {P : ε → Prop} (h : Run (Meeting step fun _ e => P e) s es s') :
    ∀ e ∈ es, P e := by
  induction h with
  | nil => exact List.forall_mem_nil _
  | cons hone _ ih => exact List.forall_mem_cons.2 ⟨hone.2, ih⟩

/-- A run meets a further condition throughout, or there is a first step that does not. -/
theorem meets_or_breaks {A B : σ → ε → Prop} (h : Run (Meeting step A) s es s') :
    Run (Meeting step fun s e => A s e ∧ B s e) s es s' ∨
      ∃ es₁ e es₂ t u, Run (Meeting step fun s e => A s e ∧ B s e) s es₁ t ∧
        Meeting step A t e u ∧ ¬ B t e ∧ Run (Meeting step A) u es₂ s' := by
  induction h with
  | nil => exact .inl (nil _)
  | @cons s t s' e es hone hrest ih =>
    by_cases hB : B s e
    · rcases ih with hmeets | ⟨es₁, e', es₂, t', u, hmeets, hbreak⟩
      · exact .inl (cons ⟨hone.1, hone.2, hB⟩ hmeets)
      · exact .inr ⟨e :: es₁, e', es₂, t', u, cons ⟨hone.1, hone.2, hB⟩ hmeets, hbreak⟩
    · exact .inr ⟨[], e, es, s, t, nil s, hone, hB, hrest⟩

/-- **A run meets a condition throughout** when every step from a state it reaches does. -/
theorem meeting_of_reached {C : σ → ε → Prop} (h : Run step s es s')
    (hC : ∀ es t e u, Run step s es t → step t e u → C t e) : Run (Meeting step C) s es s' := by
  induction h with
  | nil => exact nil _
  | cons hone _ ih =>
    refine cons ⟨hone, hC [] _ _ _ (nil _) hone⟩ (ih fun es t e u hes hstep => ?_)
    exact hC _ t e u (cons hone hes) hstep

/-- **The runs that keep an invariant are those whose steps meet the condition for it**, where
that is the condition at states with a further invariant. -/
theorem keeping_iff_of_invariant {I J : σ → Prop} {C : σ → ε → Prop}
    (hJ : ∀ s e s', J s → step s e s' → J s')
    (hstep : ∀ s e s', J s → I s → step s e s' → (I s' ↔ C s e)) (hj : J s) (hs : I s) :
    Run (Keeping step I) s es s' ↔ Run (Meeting step C) s es s' := by
  constructor
  · intro h
    induction h with
    | nil => exact nil _
    | cons hone _ ih =>
      have hC := (hstep _ _ _ hj hs hone.1).1 hone.2
      exact cons ⟨hone.1, hC⟩ (ih (hJ _ _ _ hj hone.1) hone.2)
  · intro h
    induction h with
    | nil => exact nil _
    | cons hone _ ih =>
      have hI := (hstep _ _ _ hj hs hone.1).2 hone.2
      exact cons ⟨hone.1, hI⟩ (ih (hJ _ _ _ hj hone.1) hI)

/-- **The runs that keep an invariant are those whose steps meet the condition for it.** -/
theorem keeping_iff {I : σ → Prop} {C : σ → ε → Prop}
    (hstep : ∀ s e s', I s → step s e s' → (I s' ↔ C s e)) (hs : I s) :
    Run (Keeping step I) s es s' ↔ Run (Meeting step C) s es s' :=
  keeping_iff_of_invariant (J := fun _ => True) (fun _ _ _ _ _ => trivial)
    (fun s e s' _ => hstep s e s') trivial hs

/-- Two conditions that agree on the states with an invariant are met by the same runs, where
the steps that meet them keep the invariant. -/
theorem meeting_congr {J : σ → Prop} {A B : σ → ε → Prop}
    (hkeep : ∀ s e s', J s → step s e s' → A s e → J s') (hiff : ∀ s e, J s → (A s e ↔ B s e))
    (hs : J s) : Run (Meeting step A) s es s' ↔ Run (Meeting step B) s es s' := by
  constructor
  · intro h
    induction h with
    | nil => exact nil _
    | cons hone _ ih =>
      exact cons ⟨hone.1, (hiff _ _ hs).1 hone.2⟩ (ih (hkeep _ _ _ hs hone.1 hone.2))
  · intro h
    induction h with
    | nil => exact nil _
    | cons hone _ ih =>
      have hA := (hiff _ _ hs).2 hone.2
      exact cons ⟨hone.1, hA⟩ (ih (hkeep _ _ _ hs hone.1 hA))

/-- **A measure that every counted step decreases bounds the count.** -/
theorem countP_le {m : σ → ℕ} {p : ε → Bool}
    (hstep : ∀ s e s', step s e s' → (if p e then 1 else 0) + m s' ≤ m s)
    (h : Run step s es s') : es.countP p + m s' ≤ m s := by
  induction h with
  | nil => simp
  | cons hone _ ih =>
    have := hstep _ _ _ hone
    rw [List.countP_cons]
    omega

theorem forget {C : σ → ε → Prop} (h : Run (Meeting step C) s es s') : Run step s es s' :=
  h.mono fun _ _ _ hone => hone.1

/-- The run an executable step computes. -/
theorem of_foldlM {f : σ → ε → Option σ} {es : List ε} :
    ∀ {s s' : σ}, es.foldlM f s = some s' → Run (fun s e s' => f s e = some s') s es s' := by
  induction es with
  | nil =>
    intro s s' h
    cases h
    exact nil _
  | cons e es ih =>
    intro s s' h
    rw [List.foldlM_cons] at h
    obtain ⟨t, hone, hrest⟩ := Option.bind_eq_some_iff.1 h
    exact cons hone (ih hrest)

/-- The run an executable step computes while it meets a decidable condition. -/
theorem of_foldlM_meeting {f : σ → ε → Option σ} {C : σ → ε → Prop} [∀ s e, Decidable (C s e)]
    {es : List ε} (h : es.foldlM (fun s e => if C s e then f s e else none) s = some s') :
    Run (Meeting (fun s e s' => f s e = some s') C) s es s' := by
  refine (of_foldlM h).mono fun s e s' hone => ?_
  by_cases hC : C s e
  · rw [if_pos hC] at hone
    exact ⟨hone, hC⟩
  · rw [if_neg hC] at hone
    cases hone

end Run

/-! ## Counters with a reset -/

/-- `P` holds before the step, if the step is a tick. -/
def OnTick (tick : ε → Bool) (P : σ → Prop) (s : σ) (e : ε) : Prop := tick e = true → P s

instance (tick : ε → Bool) (P : σ → Prop) [DecidablePred P] (s : σ) (e : ε) :
    Decidable (OnTick tick P s e) :=
  inferInstanceAs (Decidable (tick e = true → P s))

/-- A run that ends with at least `n` ticks before each of which `P` held. -/
def Streak (step : σ → ε → σ → Prop) (tick : ε → Bool) (P : σ → Prop) (n : ℕ) (s : σ)
    (es : List ε) (s' : σ) : Prop :=
  ∃ es₁ es₂ t, es = es₁ ++ es₂ ∧ Run step s es₁ t ∧
    Run (Meeting step (OnTick tick P)) t es₂ s' ∧ n ≤ es₂.countP tick

namespace Run

variable {step : σ → ε → σ → Prop} {s s' : σ} {es : List ε} {tick : ε → Bool} {P : σ → Prop}
  {I : σ → Prop} {c : σ → ℕ} {n : ℕ}

/-- Through ticks on which `P` holds the counter goes up by one each. -/
theorem counter_of_meeting (hup : ∀ s e s', step s e s' → tick e = true → P s → c s' = c s + 1)
    (hidle : ∀ s e s', step s e s' → tick e = false → c s' = c s)
    (h : Run (Meeting step (OnTick tick P)) s es s') : c s' = c s + es.countP tick := by
  induction h with
  | nil => simp
  | @cons s t s' e es hone _ ih =>
    rw [ih, List.countP_cons]
    cases htick : tick e with
    | false => simp [hidle _ _ _ hone.1 htick]
    | true =>
      rw [hup _ _ _ hone.1 htick (hone.2 htick)]
      simp only [if_true]
      omega

/-- **What a counter with a reset has counted**: the ticks of the whole run, or a streak. The
reset is only known of the steps that meet `C`, as those of the run do. -/
theorem streak_of_le_counter {C : σ → ε → Prop} (hkeep : ∀ s e s', I s → step s e s' → I s')
    (hup : ∀ s e s', step s e s' → tick e = true → P s → c s' = c s + 1)
    (hreset : ∀ s e s', I s → step s e s' → C s e → tick e = true → ¬ P s → c s' = 0)
    (hidle : ∀ s e s', step s e s' → tick e = false → c s' = c s)
    (h : Run (Meeting step C) s es s') (hs : I s) (hn : n ≤ c s') :
    (Run (Meeting step (OnTick tick P)) s es s' ∧ n ≤ c s + es.countP tick) ∨
      Streak step tick P n s es s' := by
  induction h with
  | nil => exact Or.inl ⟨nil _, by simpa using hn⟩
  | @cons s t s' e es hone hrest ih =>
    rcases ih (hkeep _ _ _ hs hone.1) hn with ⟨hmeets, hle⟩ | ⟨es₁, es₂, u, rfl, hes, hstreak, hle⟩
    · cases htick : tick e with
      | false =>
        rw [hidle _ _ _ hone.1 htick] at hle
        have hvacuous : OnTick tick P s e := fun h =>
          absurd (htick.symm.trans h) Bool.false_ne_true
        refine Or.inl ⟨cons ⟨hone.1, hvacuous⟩ hmeets, ?_⟩
        simpa [List.countP_cons, htick] using hle
      | true =>
        by_cases hP : P s
        · rw [hup _ _ _ hone.1 htick hP] at hle
          refine Or.inl ⟨cons ⟨hone.1, fun _ => hP⟩ hmeets, ?_⟩
          rw [List.countP_cons, htick]
          simp only [if_true]
          omega
        · rw [hreset _ _ _ hs hone.1 hone.2 htick hP] at hle
          exact Or.inr ⟨[e], es, t, rfl, single hone.1, hmeets, by omega⟩
    · exact Or.inr ⟨e :: es₁, es₂, u, rfl, cons hone.1 hes, hstreak, hle⟩

/-- **A counter that starts at `0` stands at `n` or more exactly after a streak of `n`.** -/
theorem le_counter_iff {C : σ → ε → Prop} (hkeep : ∀ s e s', I s → step s e s' → I s')
    (hup : ∀ s e s', step s e s' → tick e = true → P s → c s' = c s + 1)
    (hreset : ∀ s e s', I s → step s e s' → C s e → tick e = true → ¬ P s → c s' = 0)
    (hidle : ∀ s e s', step s e s' → tick e = false → c s' = c s)
    (h : Run (Meeting step C) s es s') (hs : I s) (hzero : c s = 0) :
    n ≤ c s' ↔ Streak step tick P n s es s' := by
  constructor
  · intro hn
    rcases streak_of_le_counter hkeep hup hreset hidle h hs hn with ⟨hmeets, hle⟩ | hstreak
    · exact ⟨[], es, s, rfl, nil s, hmeets, by omega⟩
    · exact hstreak
  · rintro ⟨es₁, es₂, t, rfl, -, hmeets, hle⟩
    rw [counter_of_meeting hup hidle hmeets]
    omega

/-- A streak as long as the ticks of its run covers the whole run. -/
theorem meeting_of_streak (h : Streak step tick P n s es s') (hn : es.countP tick ≤ n) :
    Run (Meeting step (OnTick tick P)) s es s' := by
  obtain ⟨es₁, es₂, t, rfl, hes, hmeets, hle⟩ := h
  rw [List.countP_append] at hn
  have hnone : es₁.countP tick = 0 := by omega
  refine append (meeting_of_forall (P := fun e => tick e = false) ?_ hes fun e he => ?_) hmeets
  · intro s e he htick
    exact absurd (he.symm.trans htick) Bool.false_ne_true
  · exact Bool.eq_false_iff.2 (List.countP_eq_zero.1 hnone e he)

end Run

end Greenhouse.Process
