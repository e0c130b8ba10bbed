import Mathlib.Data.Finset.Basic
import Greenhouse.Process.Channel
import Greenhouse.Process.Grouped
import Greenhouse.Process.Run

/-!
# The hub

The hub sends every frame to every connected dashboard. Each connection has a bounded queue that
a goroutine of its own empties; a broadcast never waits, and a queue that is full does not get the
frame. Broadcasts share the lock of the subscribers, so that several may be under way, each in an
order of its own; a connection comes and goes only when there is none.

* `Hub.Step`: the steps of the broadcasts, the connections and the receivers.
* `FanOut`: what a subscriber has been offered, has got and has received.
* `fan_out`: **a subscriber misses a frame exactly when its queue is full.**
* `newest_lost`: a subscriber that has fallen behind and caught up has not got the last frame.
-/

namespace Greenhouse.Platform

open Greenhouse.Process

/-! ## Broadcasts and subscribers -/

namespace Hub

def subscriberBuffer : ℕ := 128

/-- A call of `Broadcast`, by the subscribers it still has to visit. -/
inductive Stage (κ B : Type) where
  | idle
  | sending (data : B) (left : Finset κ)
  | returned

end Hub

/-- The subscribers, those that have gone, their queues, and the calls of `Broadcast`. A frame in a
queue is told from others by the call that has sent it. -/
structure Hub (κ ι B : Type) where
  subscribers : Finset κ := ∅
  gone : Finset κ := ∅
  send : κ → Channel (ι × B) Hub.subscriberBuffer := fun _ => .empty
  stage : ι → Hub.Stage κ B := fun _ => .idle

namespace Hub

variable {κ ι B : Type} [DecidableEq κ] [DecidableEq ι]

/-- What happens at the hub. -/
inductive Action (κ ι B : Type) where
  | add (k : κ)
  | remove (k : κ)
  | unmarshalled (i : ι)
  | start (i : ι) (data : B)
  | sent (i : ι) (data : B) (k : κ)
  | shed (i : ι) (data : B) (k : κ)
  | finish (i : ι)
  | received (k : κ) (frame : ι × B)

/-- Nobody holds the lock for reading. -/
def Unlocked (h : Hub κ ι B) : Prop := ∀ i data left, h.stage i ≠ .sending data left

def goesOn (h : Hub κ ι B) (i : ι) (stage : Stage κ B) : Hub κ ι B :=
  { h with stage := Function.update h.stage i stage }

def queue (h : Hub κ ι B) (k : κ) (ch : Channel (ι × B) subscriberBuffer) : Hub κ ι B :=
  { h with send := Function.update h.send k ch }

/-- One step of a broadcast, a connection or a receiver. -/
inductive Step {F : Type} (marshal : F → Option B) (h : Hub κ ι B) :
    Action κ ι B → Hub κ ι B → Prop
  | add {k : κ} (hunlocked : h.Unlocked) (hk : k ∉ h.subscribers) (hgone : k ∉ h.gone) :
      Step marshal h (.add k) { h with subscribers := insert k h.subscribers }
  | remove {k : κ} (hunlocked : h.Unlocked) (hk : k ∈ h.subscribers) :
      Step marshal h (.remove k)
        { h with subscribers := h.subscribers.erase k, gone := insert k h.gone }
  | unmarshalled {i : ι} (frame : F) (hi : h.stage i = .idle) (hdata : marshal frame = none) :
      Step marshal h (.unmarshalled i) (h.goesOn i .returned)
  | start {i : ι} {data : B} (frame : F) (hi : h.stage i = .idle)
      (hdata : marshal frame = some data) :
      Step marshal h (.start i data) (h.goesOn i (.sending data h.subscribers))
  | sent {i : ι} {data : B} {k : κ} {left : Finset κ} {ch : Channel (ι × B) subscriberBuffer}
      (hi : h.stage i = .sending data left) (hk : k ∈ left)
      (hsend : (h.send k).send? (i, data) = some ch) :
      Step marshal h (.sent i data k) ((h.queue k ch).goesOn i (.sending data (left.erase k)))
  | shed {i : ι} {data : B} {k : κ} {left : Finset κ} (hi : h.stage i = .sending data left)
      (hk : k ∈ left) (hsend : (h.send k).send? (i, data) = none) :
      Step marshal h (.shed i data k) (h.goesOn i (.sending data (left.erase k)))
  | finish {i : ι} {data : B} (hi : h.stage i = .sending data ∅) :
      Step marshal h (.finish i) (h.goesOn i .returned)
  | received {k : κ} {frame : ι × B} {ch : Channel (ι × B) subscriberBuffer}
      (hk : k ∈ h.subscribers) (hreceive : (h.send k).receive? = some (frame, ch)) :
      Step marshal h (.received k frame) (h.queue k ch)

/-! ## What a subscriber gets -/

namespace Action

/-- The frame that a broadcast tries to send to the subscriber. -/
def offers (k : κ) : Action κ ι B → List (ι × B)
  | sent i data k' => if k' = k then [(i, data)] else []
  | shed i data k' => if k' = k then [(i, data)] else []
  | _ => []

/-- The frame that the queue of the subscriber takes. -/
def accepts (k : κ) : Action κ ι B → List (ι × B)
  | sent i data k' => if k' = k then [(i, data)] else []
  | _ => []

def receives (k : κ) : Action κ ι B → List (ι × B)
  | received k' frame => if k' = k then [frame] else []
  | _ => []

end Action

/-- A call has begun while the subscriber was connected. -/
def StartedFor (k : κ) (frame : ι × B) : List (Action κ ι B) → Prop :=
  Occurs fun before a => a = .start frame.1 frame.2 ∧ .add k ∈ before ∧ .remove k ∉ before

/-- The call `j` had returned when the call `i` began. -/
def Precedes (j i : ι) : List (Action κ ι B) → Prop :=
  Occurs fun before a => (∃ data, a = .start i data) ∧ .finish j ∈ before

/-- The step offers the subscriber no frame while its queue is full. -/
def Roomy (k : κ) (h : Hub κ ι B) (a : Action κ ι B) : Prop := a.offers k ≠ [] → ¬ (h.send k).Full

/-- What a subscriber has been offered, has got and has received. -/
structure FanOut {F : Type} (marshal : F → Option B) (es : List (Action κ ι B)) (h : Hub κ ι B)
    (k : κ) : Prop where
  /-- It is offered frames that were broadcast while it was subscribed. -/
  broadcast : ∀ frame ∈ es.flatMap (Action.offers k), StartedFor k frame es
  /-- It is offered all of them. -/
  offered : ∀ frame, StartedFor k frame es → .finish frame.1 ∈ es →
    frame ∈ es.flatMap (Action.offers k)
  /-- No broadcast offers it a frame twice. -/
  nodup : ((es.flatMap (Action.offers k)).map Prod.fst).Nodup
  /-- A call that begins after another one has returned is not before it. -/
  ordered : (es.flatMap (Action.offers k)).Pairwise fun frame frame' =>
    ¬ Precedes frame'.1 frame.1 es
  /-- It gets some of them in this order, and receives them in this order. -/
  sublist : (es.flatMap (Action.accepts k)).Sublist (es.flatMap (Action.offers k))
  fifo : (h.send k).Carries (es.flatMap (Action.accepts k)) (es.flatMap (Action.receives k))
  bounded : (h.send k).items.length ≤ subscriberBuffer
  /-- It misses none if there always is room in its queue, and only then. -/
  kept : Run (Meeting (Step marshal) (Roomy k)) {} es h ↔
    es.flatMap (Action.offers k) = es.flatMap (Action.receives k) ++ (h.send k).items
  /-- It has received the most recent frame when it has emptied its queue. -/
  latest : Run (Meeting (Step marshal) (Roomy k)) {} es h → (h.send k).items = [] →
    (es.flatMap (Action.receives k)).getLast? = (es.flatMap (Action.offers k)).getLast?

/-! ## One step -/

section Steps

variable {F : Type} {marshal : F → Option B} {h h' : Hub κ ι B} {a : Action κ ι B} {k : κ}
  {es : List (Action κ ι B)}

omit [DecidableEq κ] in
@[simp] theorem stage_goesOn (h : Hub κ ι B) (i j : ι) (stage : Stage κ B) :
    (h.goesOn i stage).stage j = if j = i then stage else h.stage j :=
  Function.update_apply _ _ _ _

omit [DecidableEq ι] in
@[simp] theorem send_queue (h : Hub κ ι B) (k k' : κ)
    (ch : Channel (ι × B) subscriberBuffer) :
    (h.queue k ch).send k' = if k' = k then ch else h.send k' :=
  Function.update_apply _ _ _ _

theorem carries_step {sent received : List (ι × B)} (hstep : h.Step marshal a h')
    (hcarries : (h.send k).Carries sent received) :
    (h'.send k).Carries (sent ++ a.accepts k) (received ++ a.receives k) := by
  have hsame : (h.send k).Carries (sent ++ []) (received ++ []) := by
    rw [List.append_nil, List.append_nil]
    exact hcarries
  cases hstep with
  | @sent i data k' left ch hi hk hsend =>
    by_cases hkk : k' = k
    · subst hkk
      have hsent := hcarries.send hsend
      rw [← List.append_nil received] at hsent
      simpa [Action.accepts, Action.receives, goesOn] using hsent
    · simpa [Action.accepts, Action.receives, goesOn, hkk, Ne.symm hkk] using hsame
  | @received k' frame ch hk hreceive =>
    by_cases hkk : k' = k
    · subst hkk
      have hreceived := hcarries.receive hreceive
      rw [← List.append_nil sent] at hreceived
      simpa [Action.accepts, Action.receives] using hreceived
    · simpa [Action.accepts, Action.receives, hkk, Ne.symm hkk] using hsame
  | _ => exact hsame

/-- A step leaves room for a subscriber exactly when it gets what it is offered. -/
theorem roomy_iff (hstep : h.Step marshal a h') : Roomy k h a ↔ a.accepts k = a.offers k := by
  cases hstep with
  | @sent i data k' left ch hi hk hsend =>
    refine ⟨fun _ => rfl, fun _ hoffers hfull => ?_⟩
    by_cases hkk : k' = k
    · subst hkk
      rw [Channel.send?_eq_none_iff.2 hfull] at hsend
      cases hsend
    · exact hoffers (if_neg hkk)
  | @shed i data k' left hi hk hsend =>
    have hfull := Channel.send?_eq_none_iff.1 hsend
    by_cases hkk : k' = k
    · subst hkk
      simp [Roomy, Action.offers, Action.accepts, hfull]
    · simp [Roomy, Action.offers, Action.accepts, hkk]
  | _ => exact ⟨fun _ => rfl, fun _ hoffers => absurd rfl hoffers⟩

theorem not_idle_step {i : ι} (hstep : h.Step marshal a h') (hi : h.stage i ≠ .idle) :
    h'.stage i ≠ .idle := by
  cases hstep with
  | @unmarshalled j frame hj hdata | @start j data frame hj hdata | @sent j data k left ch hj hk hs
  | @shed j data k left hj hk hs | @finish j data hj =>
    rw [stage_goesOn]
    split
    · exact fun hidle => by cases hidle
    · exact hi
  | _ => exact hi

theorem not_idle_of_start {i : ι} {data : B} (hstep : h.Step marshal (.start i data) h') :
    h'.stage i ≠ .idle := by
  cases hstep with
  | start frame hi hdata =>
    rw [stage_goesOn, if_pos rfl]
    exact fun hidle => by cases hidle

theorem returned_step {i : ι} (hstep : h.Step marshal a h') (hi : h.stage i = .returned) :
    h'.stage i = .returned := by
  have hother {j : ι} {stage : Stage κ B} (hj : h.stage j = stage) (hne : stage ≠ .returned) :
      i ≠ j := by
    rintro rfl
    exact hne (hj.symm.trans hi)
  cases hstep with
  | @unmarshalled j frame hj hdata | @start j data frame hj hdata | @sent j data k left ch hj hk hs
  | @shed j data k left hj hk hs | @finish j data hj =>
    rw [stage_goesOn, if_neg (hother hj fun h => by cases h)]
    exact hi
  | _ => exact hi

theorem returned_of_finish {i : ι} (hstep : h.Step marshal (.finish i) h') :
    h'.stage i = .returned := by
  cases hstep with
  | finish hi => rw [stage_goesOn, if_pos rfl]

/-- A broadcast under way still has to offer its frame to the subscriber. -/
def Pending (k : κ) (frame : ι × B) (h : Hub κ ι B) : Prop :=
  ∃ left, h.stage frame.1 = .sending frame.2 left ∧ k ∈ left

omit [DecidableEq κ] [DecidableEq ι] in
theorem pending_iff {i : ι} {data : B} {left : Finset κ} (hi : h.stage i = .sending data left)
    (d : B) : h.Pending k (i, d) ↔ d = data ∧ k ∈ left := by
  constructor
  · rintro ⟨left', hleft, hk⟩
    rw [hi] at hleft
    cases hleft
    exact ⟨rfl, hk⟩
  · rintro ⟨rfl, hk⟩
    exact ⟨left, hi, hk⟩

omit [DecidableEq κ] [DecidableEq ι] in
theorem not_pending {i : ι} (hi : ∀ data left, h.stage i ≠ .sending data left) (d : B) :
    ¬ h.Pending k (i, d) :=
  fun ⟨left, hleft, _⟩ => hi d left hleft

omit [DecidableEq κ] in
/-- The stage of one call tells whether its frame is pending. -/
theorem pending_goesOn_of_ne {i : ι} {stage : Stage κ B} {frame : ι × B} (hne : frame.1 ≠ i) :
    (h.goesOn i stage).Pending k frame ↔ h.Pending k frame := by
  rw [Pending, stage_goesOn, if_neg hne]
  rfl

theorem offer_step {i : ι} {data : B} {k' : κ} {left : Finset κ} {frame : ι × B}
    (hi : h.stage i = .sending data left) (hk : k' ∈ left) :
    (frame ∈ if k' = k then [(i, data)] else []) ∨
        (h.goesOn i (.sending data (left.erase k'))).Pending k frame ↔ h.Pending k frame := by
  obtain ⟨j, d⟩ := frame
  by_cases hj : j = i
  · subst hj
    have hi' : (h.goesOn j (.sending data (left.erase k'))).stage j =
        .sending data (left.erase k') := by
      rw [stage_goesOn, if_pos rfl]
    rw [pending_iff hi, pending_iff hi', Finset.mem_erase]
    by_cases hkk : k' = k
    · subst hkk
      simp [hk]
    · simp [hkk, Ne.symm hkk]
  · rw [pending_goesOn_of_ne hj]
    have hno : (j, d) ∉ if k' = k then [(i, data)] else [] := by
      split <;> simp [hj]
    exact or_iff_right hno

/-- What is offered was pending, and what is pending has been started for the subscriber. -/
theorem pending_step (hstep : h.Step marshal a h') (i : ι) (data : B) :
    (i, data) ∈ a.offers k ∨ h'.Pending k (i, data) ↔
      h.Pending k (i, data) ∨ a = .start i data ∧ k ∈ h.subscribers := by
  have hoffer (hoffers : a.offers k = []) : (i, data) ∈ a.offers k ∨ h'.Pending k (i, data) ↔
      h'.Pending k (i, data) := by
    rw [hoffers]
    exact or_iff_right List.not_mem_nil
  have hstart (hne : a ≠ .start i data) :
      h.Pending k (i, data) ∨ a = .start i data ∧ k ∈ h.subscribers ↔ h.Pending k (i, data) :=
    or_iff_left fun hstart => hne hstart.1
  cases hstep with
  | @unmarshalled j frame hj hdata =>
    refine (hoffer rfl).trans (Iff.trans ?_ (hstart fun h => by cases h).symm)
    by_cases hij : i = j
    · subst hij
      exact iff_of_false (not_pending (by simp) data) (not_pending (by simp [hj]) data)
    · exact pending_goesOn_of_ne hij
  | @start j data' frame hj hdata =>
    refine (hoffer rfl).trans ?_
    by_cases hij : i = j
    · subst hij
      have hsending : (h.goesOn i (.sending data' h.subscribers)).stage i =
          .sending data' h.subscribers := by
        rw [stage_goesOn, if_pos rfl]
      rw [pending_iff hsending, or_iff_right (not_pending (by simp [hj]) data)]
      simp [eq_comm]
    · rw [pending_goesOn_of_ne hij, hstart fun h => hij (by cases h; rfl)]
  | sent hj hk hsend =>
    rw [hstart fun h => by cases h]
    exact offer_step (h := h.queue _ _) hj hk
  | shed hj hk hsend =>
    rw [hstart fun h => by cases h]
    exact offer_step hj hk
  | @finish j data' hj =>
    refine (hoffer rfl).trans (Iff.trans ?_ (hstart fun h => by cases h).symm)
    by_cases hij : i = j
    · subst hij
      exact iff_of_false (not_pending (by simp) data) (by simp [pending_iff hj])
    · exact pending_goesOn_of_ne hij
  | _ => exact (hoffer rfl).trans (hstart fun h => by cases h).symm

/-- A step offers a subscriber nothing, or one frame that was pending and is not any more. -/
theorem offers_step (hstep : h.Step marshal a h') : a.offers k = [] ∨ ∃ i data,
    a.offers k = [(i, data)] ∧ h.Pending k (i, data) ∧ ∀ data', ¬ h'.Pending k (i, data') := by
  have hgone {h : Hub κ ι B} {i : ι} {data : B} {left : Finset κ} (data' : B) :
      ¬ (h.goesOn i (.sending data (left.erase k))).Pending k (i, data') := by
    have hsending : (h.goesOn i (.sending data (left.erase k))).stage i =
        .sending data (left.erase k) := by
      rw [stage_goesOn, if_pos rfl]
    rw [pending_iff hsending]
    exact fun hpending => Finset.notMem_erase k left hpending.2
  cases hstep with
  | @sent i data k' left ch hi hk hsend | @shed i data k' left hi hk hsend =>
    by_cases hkk : k' = k
    · subst hkk
      exact .inr ⟨i, data, if_pos rfl, ⟨left, hi, hk⟩, hgone⟩
    · exact .inl (if_neg hkk)
  | _ => exact .inl rfl

/-! ### The books of a subscriber -/

/-- What the events so far say about a subscriber and the calls. -/
structure Booked (k : κ) (es : List (Action κ ι B)) (h : Hub κ ι B) : Prop where
  member : k ∈ h.subscribers ↔ .add k ∈ es ∧ .remove k ∉ es
  gone : .remove k ∈ es → k ∈ h.gone
  started : ∀ i data, .start i data ∈ es → h.stage i ≠ .idle
  finished : ∀ i, .finish i ∈ es → h.stage i = .returned
  accounted : ∀ i data, StartedFor k (i, data) es ↔
    (i, data) ∈ es.flatMap (Action.offers k) ∨ h.Pending k (i, data)
  fresh : ∀ i data data', h.Pending k (i, data) → (i, data') ∉ es.flatMap (Action.offers k)
  nodup : ((es.flatMap (Action.offers k)).map Prod.fst).Nodup
  ordered : (es.flatMap (Action.offers k)).Pairwise fun frame frame' =>
    ¬ Precedes frame'.1 frame.1 es

namespace Booked

omit [DecidableEq ι] in
theorem started_of_offers (hb : Booked k es h) {i : ι} {data : B}
    (hoffers : (i, data) ∈ es.flatMap (Action.offers k)) : h.stage i ≠ .idle := by
  obtain ⟨before, b, after, rfl, rfl, -⟩ := (hb.accounted i data).2 (.inl hoffers)
  exact hb.started i data (List.mem_append_right _ List.mem_cons_self)

theorem member_step (hb : Booked k es h) (hstep : h.Step marshal a h') :
    (k ∈ h'.subscribers ↔ .add k ∈ es ++ [a] ∧ .remove k ∉ es ++ [a]) ∧
      (.remove k ∈ es ++ [a] → k ∈ h'.gone) := by
  have hmember := hb.member
  have hgone := hb.gone
  cases hstep with
  | @add k' hunlocked hk hnew =>
    by_cases hkk : k = k'
    · subst hkk
      have hremove : .remove k ∉ es := fun hremove => hnew (hgone hremove)
      simp [hremove]
    · simpa [hkk] using ⟨hmember, hgone⟩
  | @remove k' hunlocked hk =>
    by_cases hkk : k = k'
    · subst hkk
      simp
    · simpa [hkk] using ⟨hmember, hgone⟩
  | _ => simpa [goesOn, queue] using ⟨hmember, hgone⟩

/-- **Every step keeps the books.** -/
theorem step (hb : Booked k es h) (hstep : h.Step marshal a h') : Booked k (es ++ [a]) h' where
  member := (hb.member_step hstep).1
  gone := (hb.member_step hstep).2
  started := by
    intro i data hmem
    rcases List.mem_append.1 hmem with hmem | hmem
    · exact not_idle_step hstep (hb.started i data hmem)
    · obtain rfl := List.mem_singleton.1 hmem
      exact not_idle_of_start hstep
  finished := by
    intro i hmem
    rcases List.mem_append.1 hmem with hmem | hmem
    · exact returned_step hstep (hb.finished i hmem)
    · obtain rfl := List.mem_singleton.1 hmem
      exact returned_of_finish hstep
  accounted := by
    intro i data
    rw [List.flatMap_append, List.flatMap_singleton, List.mem_append, or_assoc,
      pending_step hstep, ← or_assoc, ← hb.accounted, hb.member]
    exact occurs_concat
  fresh := by
    intro i data data' hpending hmem
    rw [List.flatMap_append, List.flatMap_singleton, List.mem_append] at hmem
    rcases hmem with hmem | hmem
    · rcases (pending_step hstep i data).1 (.inr hpending) with hbefore | ⟨rfl, -⟩
      · exact hb.fresh i data data' hbefore hmem
      · cases hstep with
        | start frame hidle hdata => exact hb.started_of_offers hmem hidle
    · rcases offers_step (k := k) hstep with hnone | ⟨j, d, hone, -, hgone⟩
      · rw [hnone] at hmem
        exact absurd hmem List.not_mem_nil
      · rw [hone] at hmem
        cases List.mem_singleton.1 hmem
        exact hgone data hpending
  nodup := by
    rw [List.flatMap_append, List.flatMap_singleton, List.map_append]
    rcases offers_step (k := k) hstep with hnone | ⟨i, d, hone, hpending, -⟩
    · rw [hnone, List.map_nil, List.append_nil]
      exact hb.nodup
    · have hnew : i ∉ (es.flatMap (Action.offers k)).map Prod.fst := by
        intro hmem
        obtain ⟨⟨j, d'⟩, hoffers, rfl⟩ := List.mem_map.1 hmem
        exact hb.fresh j d d' hpending hoffers
      rw [hone]
      exact List.nodup_append'.2 ⟨hb.nodup, List.nodup_singleton i,
        List.disjoint_singleton.2 hnew⟩
  ordered := by
    have hold {frame : ι × B} (hframe : frame ∈ es.flatMap (Action.offers k)) {j : ι}
        (hbefore : ¬ Precedes j frame.1 es) : ¬ Precedes j frame.1 (es ++ [a]) := by
      rintro hprecedes
      rcases occurs_concat.1 hprecedes with hprecedes | ⟨⟨d, rfl⟩, -⟩
      · exact hbefore hprecedes
      · cases hstep with
        | start frame' hidle hdata => exact hb.started_of_offers hframe hidle
    rw [List.flatMap_append, List.flatMap_singleton, List.pairwise_append]
    refine ⟨?_, ?_, ?_⟩
    · exact hb.ordered.imp_of_mem fun hframe _ hbefore => hold hframe hbefore
    · rcases offers_step (k := k) hstep with hnone | ⟨i, d, hone, -, -⟩
      · rw [hnone]
        exact .nil
      · rw [hone]
        exact List.pairwise_singleton _ _
    · intro frame hframe frame' hframe'
      refine hold hframe ?_
      rcases offers_step (k := k) hstep with hnone | ⟨i, d, hone, ⟨left, hleft, -⟩, -⟩
      · rw [hnone] at hframe'
        exact absurd hframe' List.not_mem_nil
      · rw [hone] at hframe'
        cases List.mem_singleton.1 hframe'
        rintro ⟨before, b, after, rfl, -, hfinish⟩
        rw [hb.finished i (List.mem_append_left _ hfinish)] at hleft
        cases hleft

end Booked

end Steps

/-! ## Every interleaving -/

section Runs

variable {F : Type} {marshal : F → Option B} {h : Hub κ ι B} {k : κ} {es : List (Action κ ι B)}

omit [DecidableEq ι] in
theorem booked_start (k : κ) : Booked k [] ({} : Hub κ ι B) where
  member := by simp
  gone := by simp
  started := by simp
  finished := by simp
  accounted := by simp [Pending, StartedFor, not_occurs_nil]
  fresh := by simp
  nodup := by simp
  ordered := by simp

theorem booked_run (hr : Run (Step marshal) {} es h) (k : κ) : Booked k es h :=
  hr.history (P := Booked k) (fun _ _ _ _ hb hstep => hb.step hstep) (booked_start k)

theorem carries_run (hr : Run (Step marshal) {} es h) (k : κ) :
    (h.send k).Carries (es.flatMap (Action.accepts k)) (es.flatMap (Action.receives k)) := by
  refine hr.history (P := fun es h => (h.send k).Carries (es.flatMap (Action.accepts k))
    (es.flatMap (Action.receives k))) ?_ rfl
  intro es h a h' hcarries hstep
  rw [List.flatMap_append, List.flatMap_append, List.flatMap_singleton, List.flatMap_singleton]
  exact carries_step hstep hcarries

omit [DecidableEq ι] in
theorem accepts_sublist (k : κ) (a : Action κ ι B) : (a.accepts k).Sublist (a.offers k) := by
  cases a with
  | sent i data k' => exact .refl _
  | _ => exact List.nil_sublist _

/-- The subscriber has got all it was offered exactly when there was room in every step. -/
theorem roomy_run_iff (hr : Run (Step marshal) {} es h) (k : κ) :
    Run (Meeting (Step marshal) (Roomy k)) {} es h ↔
      es.flatMap (Action.accepts k) = es.flatMap (Action.offers k) := by
  rw [flatMap_eq_iff_of_sublist fun a : Action κ ι B => accepts_sublist k a]
  constructor
  · intro hroomy
    have hall : Run (Meeting (Step marshal) fun _ a => a.accepts k = a.offers k) {} es h :=
      hroomy.mono fun h a h' hstep => ⟨hstep.1, (roomy_iff hstep.1).1 hstep.2⟩
    exact hall.forall_of_meeting
  · intro hall
    have hmeeting := hr.meeting_of_forall (C := fun _ a => a.accepts k = a.offers k)
      (fun _ _ h => h) hall
    exact hmeeting.mono fun h a h' hstep => ⟨hstep.1, (roomy_iff hstep.1).2 hstep.2⟩

/-- **A subscriber gets the frames in order, each once, and misses one exactly when its queue is
full**, in any interleaving. -/
theorem fan_out (hr : Run (Step marshal) {} es h) (k : κ) : FanOut marshal es h k := by
  have hb := booked_run hr k
  have hcarries : es.flatMap (Action.accepts k) =
      es.flatMap (Action.receives k) ++ (h.send k).items := carries_run hr k
  have hkept : Run (Meeting (Step marshal) (Roomy k)) {} es h ↔
      es.flatMap (Action.offers k) = es.flatMap (Action.receives k) ++ (h.send k).items := by
    rw [roomy_run_iff hr, hcarries]
    exact eq_comm
  refine ⟨?_, ?_, hb.nodup, hb.ordered, ?_, hcarries, (h.send k).bounded, hkept, ?_⟩
  · intro frame hframe
    exact (hb.accounted frame.1 frame.2).2 (.inl hframe)
  · intro frame hstarted hfinish
    rcases (hb.accounted frame.1 frame.2).1 hstarted with hoffered | ⟨left, hleft, -⟩
    · exact hoffered
    · rw [hb.finished frame.1 hfinish] at hleft
      cases hleft
  · exact List.Sublist.flatMap_right es fun a _ => accepts_sublist k a
  · intro hroomy hempty
    rw [hkept.1 hroomy, hempty, List.append_nil]

end Runs

/-! ## Two runs -/

section Bench

/-- One connection; the frames are numbers, and so are the broadcasts. -/
abbrev BenchHub := Hub Unit ℕ ℕ

/-- A connection, one broadcast, and the receipt of its frame. -/
def benchActions : List (Action Unit ℕ ℕ) :=
  [.add (), .start 0 7, .sent 0 7 (), .finish 0, .received () (0, 7)]

/-- **A frame is received** by a subscriber with room in its queue. -/
theorem fan_out_one : ∃ h : BenchHub, Run (Meeting (Step some) (Roomy ())) {} benchActions h ∧
    benchActions.flatMap (Action.receives ()) = [(0, 7)] ∧ FanOut some benchActions h () := by
  have hunlocked : ({} : BenchHub).Unlocked := fun i data left h => by cases h
  have hr : ∃ h : BenchHub, Run (Step some) {} benchActions h :=
    ⟨_, .cons (.add hunlocked (by decide) (by decide)) <| .cons (.start 7 rfl rfl) <|
      .cons (.sent rfl (by decide) rfl) <| .cons (.finish rfl) <|
      .cons (.received (by decide) rfl) <| .nil _⟩
  obtain ⟨h, hr⟩ := hr
  exact ⟨h, (roomy_run_iff hr ()).2 rfl, rfl, fan_out hr ()⟩

/-- The broadcasts that a queue has room for. -/
def burst (n : ℕ) : List (Action Unit ℕ ℕ) :=
  (List.range n).flatMap fun i => [.start i i, .sent i i (), .finish i]

/-- One more broadcast, if there is room. -/
theorem broadcast_run {h : BenchHub} {i : ℕ} (hsubscribers : h.subscribers = {()})
    (hidle : h.stage i = .idle) (hroom : ¬ (h.send ()).Full) : ∃ h' : BenchHub,
      Run (Step some) h [.start i i, .sent i i (), .finish i] h' ∧ h'.subscribers = {()} ∧
        (h'.send ()).items = (h.send ()).items ++ [(i, i)] ∧
          ∀ j, j ≠ i → h'.stage j = h.stage j := by
  obtain ⟨ch, hsend⟩ := Channel.exists_send? hroom (i, i)
  let h₁ : BenchHub := h.goesOn i (.sending i h.subscribers)
  let h₂ : BenchHub := (h₁.queue () ch).goesOn i (.sending i (h.subscribers.erase ()))
  have hone : h₁.stage i = .sending i h.subscribers := by simp [h₁]
  have htwo : h₂.stage i = .sending i ∅ := by simp [h₂, hsubscribers]
  have hmem : () ∈ h.subscribers := by simp [hsubscribers]
  refine ⟨h₂.goesOn i .returned, .cons (.start i hidle rfl) <| .cons (.sent hone hmem hsend) <|
    .cons (.finish htwo) <| .nil _, hsubscribers, ?_, ?_⟩
  · rw [← Channel.items_of_send? hsend]
    rfl
  · intro j hj
    simp [h₂, h₁, goesOn, queue, hj]

theorem burst_run {n : ℕ} (hn : n ≤ subscriberBuffer) : ∃ h : BenchHub,
    Run (Step some) {} (.add () :: burst n) h ∧ h.subscribers = {()} ∧
      (h.send ()).items = (List.range n).map (fun i => (i, i)) ∧
        ∀ i, n ≤ i → h.stage i = .idle := by
  induction n with
  | zero =>
    have hunlocked : ({} : BenchHub).Unlocked := fun i data left h => by cases h
    exact ⟨_, .cons (.add hunlocked (by decide) (by decide)) (.nil _), rfl, rfl, fun _ _ => rfl⟩
  | succ n ih =>
    obtain ⟨h, hr, hsubscribers, hitems, hidle⟩ := ih (by omega)
    have hroom : ¬ (h.send ()).Full := by
      rw [Channel.Full, hitems, List.length_map, List.length_range]
      omega
    obtain ⟨h', hnext, hsubscribers', hitems', hothers⟩ :=
      broadcast_run hsubscribers (hidle n le_rfl) hroom
    refine ⟨h', ?_, hsubscribers', ?_, ?_⟩
    · have happend := hr.append hnext
      rw [burst, List.range_succ, List.flatMap_append, List.flatMap_singleton]
      exact happend
    · rw [hitems', hitems, List.range_succ, List.map_append]
      rfl
    · intro i hi
      rw [hothers i (by omega)]
      exact hidle i (by omega)

/-- A queue can be emptied. -/
theorem drain_run {items : List (ℕ × ℕ)} {h : BenchHub} (hitems : (h.send ()).items = items)
    (hsubscribers : h.subscribers = {()}) : ∃ h' : BenchHub,
      Run (Step some) h (items.map (.received ())) h' ∧ (h'.send ()).items = [] := by
  induction items generalizing h with
  | nil => exact ⟨h, .nil h, hitems⟩
  | cons frame items ih =>
    obtain ⟨ch, hreceive, hch⟩ := Channel.exists_receive? hitems
    have hmem : () ∈ h.subscribers := by simp [hsubscribers]
    obtain ⟨h', hr, hempty⟩ := ih (h := h.queue () ch) (by simpa using hch) hsubscribers
    exact ⟨h', .cons (.received hmem hreceive) hr, hempty⟩

/-- One broadcast more than a queue has room for, and the receipt of all that is queued. -/
def fallenBehind : List (Action Unit ℕ ℕ) :=
  .add () :: burst subscriberBuffer ++ [.start 128 128, .shed 128 128 (), .finish 128] ++
    ((List.range subscriberBuffer).map fun i => (i, i)).map (.received ())

/-- **The most recent frame is lost** by a subscriber that falls behind by a full queue and then
empties it. -/
theorem newest_lost : ∃ h : BenchHub, Run (Step some) {} fallenBehind h ∧
    (h.send ()).items = [] ∧
      (fallenBehind.flatMap (Action.offers ())).getLast? = some (128, 128) ∧
        (128, 128) ∉ fallenBehind.flatMap (Action.receives ()) := by
  obtain ⟨h, hr, hsubscribers, hitems, hidle⟩ := burst_run le_rfl
  have hfull : (h.send ()).Full := by
    rw [Channel.Full, hitems, List.length_map, List.length_range]
  let h₁ : BenchHub := h.goesOn 128 (.sending 128 h.subscribers)
  let h₂ : BenchHub := h₁.goesOn 128 (.sending 128 (h.subscribers.erase ()))
  have hone : h₁.stage 128 = .sending 128 h.subscribers := by simp [h₁]
  have htwo : h₂.stage 128 = .sending 128 ∅ := by simp [h₂, hsubscribers]
  have hmem : () ∈ h.subscribers := by simp [hsubscribers]
  have hlast : Run (Step some) h [.start 128 128, .shed 128 128 (), .finish 128]
      (h₂.goesOn 128 .returned) :=
    .cons (.start 128 (hidle 128 le_rfl) rfl) <|
      .cons (.shed hone hmem (Channel.send?_eq_none_iff.2 hfull)) <| .cons (.finish htwo) <| .nil _
  obtain ⟨h', hdrained, hempty⟩ := drain_run (h := h₂.goesOn 128 .returned) hitems hsubscribers
  refine ⟨h', (hr.append hlast).append hdrained, hempty, ?_, ?_⟩
  · have hnone (items : List (ℕ × ℕ)) : (items.map (Action.received (ι := ℕ) ())).flatMap
        (Action.offers ()) = [] := by
      simp [List.flatMap_map, Action.offers]
    rw [fallenBehind, List.flatMap_append, hnone, List.append_nil, List.flatMap_append]
    exact List.getLast?_concat
  · intro hreceived
    obtain ⟨a, ha, hframe⟩ := List.mem_flatMap.1 hreceived
    obtain rfl : a = .received () (128, 128) := by
      cases a with
      | received k frame =>
        rw [List.mem_singleton.1 hframe]
      | _ => exact absurd hframe List.not_mem_nil
    simp [fallenBehind, burst, subscriberBuffer] at ha

end Bench

end Hub

end Greenhouse.Platform
