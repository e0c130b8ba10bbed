import Greenhouse.Controller.Bench
import Greenhouse.Platform.Ingester
import Greenhouse.Process.Pool

/-!
# The order of the status frames

The handler of messages and the liveness loop change the live view under its lock and broadcast
without it, so the frames of two changes may go out in the other order.

* `announcements`: what a goroutine still has to tell, from the calls it has made.
* `Heard`: the invariant, over every interleaving in which no frame is overtaken.
* `lastFramesTell_of_inOrder`: once nothing is pending, the last frames are those of the view.
* `last_frame_overtaken`: a frame of the liveness loop that a message overtakes.
-/

namespace Greenhouse.Platform.Ingester

open Greenhouse.Numeric Greenhouse.Contract Greenhouse.Process Prog Std

/-! ## What is still to be told -/

/-- What a goroutine has changed and not told yet: the greenhouse whose time scale it has set, and
the standings for which it has the frames at hand. -/
structure Owing where
  rescaled : Option String := none
  owed : List (String × Standing) := []

/-- The calls of the goroutines: nothing new is started while something is owed, and the frames go
out in the order in which they are owed. -/
def announcements : Protocol Op Resp Owing where
  permits q
    | .receive | .tick | .sweep _ | .observe _ _ | .setTimeScale _ _ => q = {}
    | .setDegraded id _ _ => q.owed = [] ∧ ∀ g, q.rescaled = some g → g = id
    | .broadcast frame => ∀ told, frame.standing? = some told → q.owed.head? = some told
    | _ => True
  answers _ _ _ := True
  next q
    | .setTimeScale id _, (_, changed) => if changed then { q with rescaled := some id } else q
    | .observe id _, (live, changed) => if changed then ⟨none, [(id, live.standing)]⟩ else q
    | .setDegraded id _ _, (live, changed) =>
      if changed || q.rescaled.isSome then ⟨none, [(id, live.standing)]⟩ else q
    | .sweep _, changed => { q with owed := changed.map fun p => (p.1, p.2.standing) }
    | .broadcast frame, _ =>
      if frame.standing?.isSome then { q with owed := q.owed.tail } else q
    | _, _ => q

/-- Nothing is owed. -/
def Settled (q : Owing) (_ : Unit) : Prop := q = {}

section Obeys

variable {q : Owing} {post : Owing → Unit → Prop}

theorem obeys_onlyIf {c : Bool} {p : Program} (h : p.Obeys announcements q post)
    (hpost : post q ()) : (onlyIf c p).Obeys announcements q post := by
  cases c with
  | false => exact hpost
  | true => exact h

/-- A frame that is no status frame tells nothing. -/
theorem obeys_broadcast {frame : Frame} (hframe : frame.standing? = none) (h : post q ()) :
    (call (Op.broadcast frame)).Obeys announcements q post := by
  rw [obeys_call]
  constructor
  · intro told htold
    rw [hframe] at htold
    cases htold
  · intro _ _
    have hnext : announcements.next q (.broadcast frame) () = q := by
      show (if frame.standing?.isSome then _ else q) = q
      rw [hframe]
      rfl
    rw [hnext]
    exact h

theorem obeys_announce (changed : Bool) (id : String) (ts : Int) (live : Live) :
    (announce changed id ts live).Obeys announcements
      (if changed then ⟨none, [(id, live.standing)]⟩ else {}) Settled := by
  cases changed with
  | false => exact rfl
  | true =>
    refine ⟨?_, fun _ _ => rfl⟩
    intro told htold
    exact htold

theorem obeys_note {reading : Reading} (h : post q ()) :
    (note reading).Obeys announcements q post := by
  rw [note]
  split
  · exact h
  · split
    · exact ⟨trivial, fun _ _ => h⟩
    · split
      · exact ⟨trivial, fun _ _ => h⟩
      · split
        · exact ⟨trivial, fun _ _ => h⟩
        · exact h

theorem obeys_noteState {id : String} {payload : SystemStatePayload} (h : post q ()) :
    (noteState id payload).Obeys announcements q post := by
  have hset : ∀ {c : Bool} {p : Program} {post : Owing → Unit → Prop},
      (∀ post : Owing → Unit → Prop, post q () → p.Obeys announcements q post) → post q () →
        (onlyIf c p).Obeys announcements q post := fun hp h => obeys_onlyIf (hp _ h) h
  simp only [noteState, obeys_bind]
  refine hset (fun _ h => ⟨trivial, fun _ _ => h⟩) ?_
  refine hset (fun _ h => ⟨trivial, fun _ _ => h⟩) ?_
  refine hset (fun _ h => ⟨trivial, fun _ _ => h⟩) ?_
  exact hset (fun _ h => ⟨trivial, fun _ _ => h⟩) h

theorem obeys_announceAlerts {id : String} {ts : Int} (h : post q ()) :
    (announceAlerts id ts).Obeys announcements q post := by
  rw [announceAlerts, obeys_bind, obeys_call]
  exact ⟨trivial, fun _ _ => obeys_broadcast rfl h⟩

variable [Rfc3339] {data : Document} {topicId : String} {now : Int}

theorem obeys_onReading : (onReading data topicId now).Obeys announcements {} Settled := by
  rw [onReading]
  split
  · exact rfl
  · rename_i reading _
    simp only [obeys_bind]
    refine ⟨trivial, fun _ _ => obeys_note ⟨rfl, fun r _ => obeys_broadcast rfl ?_⟩⟩
    exact obeys_announce r.2 reading.greenhouseId reading.ts r.1

theorem obeys_onActuator : (onActuator data topicId now).Obeys announcements {} Settled := by
  rw [onActuator]
  split
  · exact rfl
  · rename_i sample _
    simp only [obeys_bind]
    have hobserve : (call (Op.observe sample.greenhouseId now)).Obeys announcements {} fun q r =>
        (call (Op.broadcast (.actuator sample))).Obeys announcements q fun q _ =>
          (announce r.2 sample.greenhouseId sample.ts r.1).Obeys announcements q Settled :=
      ⟨rfl, fun r _ => obeys_broadcast rfl (obeys_announce r.2 _ sample.ts r.1)⟩
    exact ⟨trivial, fun _ _ => obeys_onlyIf ⟨trivial, fun _ _ => hobserve⟩ hobserve⟩

theorem obeys_onFault : (onFault data topicId now).Obeys announcements {} Settled := by
  rw [onFault]
  split
  · exact rfl
  · rename_i event _
    simp only [obeys_bind]
    refine ⟨trivial, fun _ _ => ⟨⟨rfl, fun g hg => ?_⟩, fun r _ => obeys_broadcast rfl ?_⟩⟩
    · cases hg
    · have hnext : announcements.next {} (.setDegraded event.greenhouseId true now) r =
          if r.2 then ⟨none, [(event.greenhouseId, r.1.standing)]⟩ else {} := by
        show (if r.2 || false then _ else _) = _
        rw [Bool.or_false]
      have hannounce := obeys_announce r.2 event.greenhouseId event.ts r.1
      rw [← hnext] at hannounce
      exact hannounce

omit [Rfc3339] in
/-- The status is told of if it changed or a time scale is owed. -/
theorem obeys_setDegraded {q : Owing} {id : String} {degraded : Bool} {ts : Int}
    (howed : q.owed = []) (hid : ∀ g, q.rescaled = some g → g = id) :
    (call (Op.setDegraded id degraded now)).Obeys announcements q fun q' r =>
      (announce (r.2 || q.rescaled.isSome) id ts r.1).Obeys announcements q' Settled := by
  refine ⟨⟨howed, hid⟩, fun r _ => ?_⟩
  have hnext : announcements.next q (.setDegraded id degraded now) r =
      if r.2 || q.rescaled.isSome then ⟨none, [(id, r.1.standing)]⟩ else {} := by
    show (if r.2 || q.rescaled.isSome then _ else q) = _
    cases htold : r.2 || q.rescaled.isSome with
    | true => rfl
    | false =>
      obtain ⟨rescaled, owed⟩ := q
      have hsome : rescaled.isSome = false := (Bool.or_eq_false_iff.1 htold).2
      have hnone : rescaled = none := Option.not_isSome_iff_eq_none.1 (Bool.eq_false_iff.1 hsome)
      subst hnone
      subst howed
      rfl
  have hannounce := obeys_announce (r.2 || q.rescaled.isSome) id ts r.1
  rw [← hnext] at hannounce
  exact hannounce

omit [Rfc3339] in
/-- A time scale that changed is told of with the status. -/
theorem obeys_applyState (payload : SystemStatePayload) (ts now : Int) :
    (applyState payload ts now).Obeys announcements {} Settled := by
  simp only [applyState, obeys_bind]
  refine ⟨rfl, fun scaled _ => obeys_noteState ⟨trivial, fun _ _ => ⟨trivial, fun _ _ => ?_⟩⟩⟩
  refine ⟨trivial, fun alertsChanged _ => ?_⟩
  let id := payload.env.greenhouseId
  let degraded := !payload.healthy || payload.mode != "normal"
  have htell : ∀ changed : Bool,
      (call (Op.setDegraded id degraded now)).Obeys announcements
        (if changed then { rescaled := some id } else {}) fun q r =>
          (announce (r.2 || changed) id ts r.1).Obeys announcements q Settled := by
    intro changed
    cases changed with
    | false => exact obeys_setDegraded rfl fun g hg => absurd hg.symm (Option.some_ne_none g)
    | true => exact obeys_setDegraded rfl fun g hg => (Option.some.inj hg).symm
  exact obeys_onlyIf (obeys_announceAlerts (htell scaled.2)) (htell scaled.2)

theorem obeys_onState : (onState data topicId now).Obeys announcements {} Settled := by
  rw [onState]
  split
  · exact rfl
  · split
    · exact rfl
    · exact obeys_applyState _ _ _

theorem obeys_handle (known : List String) (message : Message) :
    (handle known message).Obeys announcements {} Settled := by
  rw [handle]
  split
  · exact rfl
  · split
    · split
      · exact obeys_onReading
      · exact obeys_onReading
      · exact obeys_onActuator
      · exact obeys_onFault
      · exact obeys_onState
    · exact rfl

theorem obeys_consume (known : List String) (n : ℕ) :
    (consume known n).Obeys announcements {} Settled := by
  induction n with
  | zero => exact rfl
  | succ n ih =>
    simp only [consume, obeys_bind]
    refine ⟨rfl, fun message _ => (obeys_handle known message).mono fun q _ hq => ?_⟩
    obtain rfl : q = {} := hq
    exact ih

omit [Rfc3339] in
theorem obeys_announceAll (changed : List (String × Live)) :
    (announceAll now changed).Obeys announcements
      ⟨none, changed.map fun p => (p.1, p.2.standing)⟩ Settled := by
  induction changed with
  | nil => exact rfl
  | cons c changed ih =>
    rw [announceAll, obeys_bind]
    refine ⟨?_, fun _ _ => ih⟩
    intro told htold
    exact htold

omit [Rfc3339] in
theorem obeys_runLiveness (n : ℕ) : (runLiveness n).Obeys announcements {} Settled := by
  induction n with
  | zero => exact rfl
  | succ n ih =>
    simp only [runLiveness, sweepOnce, obeys_bind]
    refine ⟨rfl, fun now _ => ⟨rfl, fun changed _ => (obeys_announceAll changed).mono ?_⟩⟩
    intro q _ hq
    obtain rfl : q = {} := hq
    exact ih

end Obeys

/-! ## The last frames -/

/-- The standing of a frame, if it is a status frame of the greenhouse. -/
def tells (g : String) (frame : Frame) : Option Standing :=
  match frame.standing? with
  | some (id, s) => if id = g then some s else none
  | none => none

/-- What the last status frame of a greenhouse carried; the newest frame is the first. -/
def lastStatus (sent : List Frame) (g : String) : Option Standing := sent.findSome? (tells g)

/-- The last status frame of every greenhouse that had one carries what the live view returns. -/
def LastFramesTell (w : World) : Prop :=
  ∀ g s, lastStatus w.sent g = some s →
    ∃ live, w.fleet.get g = some live ∧ s.status = live.status ∧ s.timeScale = live.timeScale

/-- A goroutine will yet tell how the greenhouse stands. -/
def Ahead (f : Fleet) (q : Owing) (g : String) : Prop :=
  q.rescaled = some g ∨ ∃ s, (g, s) ∈ q.owed ∧ f.standing g = some s

/-- The two goroutines. -/
inductive Goroutine where
  | broker
  | liveness
  deriving DecidableEq

/-- The invariant: the last frame of a greenhouse tells how it stands, or a goroutine will. -/
def Heard (w : World) (qs : Goroutine → Owing) : Prop :=
  ∀ g, (lastStatus w.sent g = none ∨ lastStatus w.sent g = w.fleet.standing g) ∨
    ∃ i, Ahead w.fleet (qs i) g

section Heard

variable {f f' : Fleet} {w : World} {q : Owing} {qs : Goroutine → Owing} {i : Goroutine}
  {g : String}

theorem ahead_of_unmoved (h : Unmoved f f' g) (ha : Ahead f q g) : Ahead f' q g := by
  rcases ha with hrescaled | ⟨s, hs, hstands⟩
  · exact .inl hrescaled
  · rcases h with h | ⟨hnone, -⟩
    · exact .inr ⟨s, hs, h.trans hstands⟩
    · rw [hnone] at hstands
      cases hstands

/-- An update of the live view: what it changes, the goroutine owes. -/
theorem Heard.update (h : Heard w qs) {told : List (String × Standing)}
    (hann : Announced w.fleet f' told) (htold : ∀ g s, (g, s) ∈ told → Ahead f' q g)
    (hkeep : ∀ g, Ahead w.fleet (qs i) g → Ahead f' q g) :
    Heard (w.on f') (Function.update qs i q) := by
  intro g
  by_cases hg : ∃ s, (g, s) ∈ told
  · obtain ⟨s, hs⟩ := hg
    refine .inr ⟨i, ?_⟩
    rw [Function.update_self]
    exact htold g s hs
  · have hunmoved := hann.unmoved g fun s hs => hg ⟨s, hs⟩
    rcases h g with (hlast | hlast) | ⟨j, hj⟩
    · exact .inl (.inl hlast)
    · refine .inl ?_
      rcases hunmoved with hsame | ⟨hnone, -⟩
      · exact .inr (hlast.trans hsame.symm)
      · exact .inl (hlast.trans hnone)
    · refine .inr ⟨j, ?_⟩
      by_cases hji : j = i
      · subst hji
        rw [Function.update_self]
        exact hkeep g hj
      · rw [Function.update_of_ne hji]
        exact ahead_of_unmoved hunmoved hj

/-- An update that tells nothing. -/
theorem Heard.silent (h : Heard w qs) (hann : Announced w.fleet f' []) :
    Heard (w.on f') (Function.update qs i (qs i)) :=
  h.update hann (fun _ _ hs => absurd hs List.not_mem_nil) fun g =>
    ahead_of_unmoved (announced_nil.1 hann g)

/-- A frame goes out: it is up to date, or another goroutine has a later one. -/
theorem Heard.send (h : Heard w qs) {frame : Frame}
    (hhead : ∀ told, frame.standing? = some told → (qs i).owed.head? = some told)
    (horder : ∀ g s, frame.standing? = some (g, s) →
      w.fleet.standing g = some s ∨ ∃ j, j ≠ i ∧ Ahead w.fleet (qs j) g) :
    Heard { w with sent := frame :: w.sent }
      (Function.update qs i (announcements.next (qs i) (.broadcast frame) ())) := by
  intro g
  cases hframe : frame.standing? with
  | none =>
    have hnext : announcements.next (qs i) (.broadcast frame) () = qs i := by
      show (if frame.standing?.isSome then _ else qs i) = qs i
      rw [hframe]
      rfl
    have hlast : lastStatus (frame :: w.sent) g = lastStatus w.sent g := by
      rw [lastStatus, List.findSome?_cons, tells, hframe]
      rfl
    rw [hnext, Function.update_eq_self, hlast]
    exact h g
  | some told =>
    obtain ⟨id, s⟩ := told
    have hnext : announcements.next (qs i) (.broadcast frame) () =
        { qs i with owed := (qs i).owed.tail } := by
      show (if frame.standing?.isSome then _ else qs i) = _
      rw [hframe]
      rfl
    by_cases hg : id = g
    · subst hg
      have hlast : lastStatus (frame :: w.sent) id = some s := by
        rw [lastStatus, List.findSome?_cons, tells, hframe]
        simp only [if_true]
      rcases horder id s hframe with hstands | ⟨j, hj, hahead⟩
      · exact .inl (.inr (hlast.trans hstands.symm))
      · refine .inr ⟨j, ?_⟩
        rw [Function.update_of_ne hj]
        exact hahead
    · have hlast : lastStatus (frame :: w.sent) g = lastStatus w.sent g := by
        rw [lastStatus, List.findSome?_cons, tells, hframe]
        simp only [if_neg hg]
        rfl
      rw [hlast]
      refine (h g).imp_right fun hother => ?_
      obtain ⟨j, hj⟩ := hother
      refine ⟨j, ?_⟩
      by_cases hji : j = i
      · subst hji
        rw [Function.update_self, hnext]
        refine hj.imp_right fun howed => ?_
        obtain ⟨t, ht, hstands⟩ := howed
        refine ⟨t, ?_, hstands⟩
        obtain ⟨rest, hrest⟩ := List.head?_eq_some_iff.1 (hhead _ hframe)
        rw [hrest] at ht ⊢
        rcases List.mem_cons.1 ht with heq | ht
        · exact absurd (Prod.mk.inj heq).1.symm hg
        · exact ht
      · rw [Function.update_of_ne hji]
        exact hj

/-! ### One operation -/

/-- A frame that is broadcast is up to date, or another goroutine will tell of a later change. -/
def Timely (f : Fleet) (qs : Goroutine → Owing) (i : Goroutine) (o : Op) : Prop :=
  ∀ frame g s, o = .broadcast frame → frame.standing? = some (g, s) →
    f.standing g = some s ∨ ∃ j, j ≠ i ∧ Ahead f (qs j) g

theorem not_ahead (h : q = {}) : ¬ Ahead f q g := by
  subst h
  rintro (hrescaled | ⟨s, hs, -⟩)
  · cases hrescaled
  · cases hs

/-- An update by a goroutine that owes nothing, of one greenhouse. -/
theorem Heard.told (h : Heard w qs) {id : String} {s : Standing} {changed : Bool}
    (howing : qs i = {}) (hann : Announced w.fleet f' (if changed then [(id, s)] else []))
    (hq : changed = true → f'.standing id = some s → Ahead f' q id) :
    Heard (w.on f') (Function.update qs i q) := by
  refine h.update hann ?_ fun g hahead => absurd hahead (not_ahead howing)
  intro g t ht
  cases changed with
  | false => cases ht
  | true =>
    have hstands := hann.stands g t ht
    obtain ⟨rfl, rfl⟩ := Prod.mk.inj (List.mem_singleton.1 ht)
    exact hq rfl hstands

theorem Heard.observe (h : Heard w qs) {id : String} {ts : Int}
    (hpermits : announcements.permits (qs i) (.observe id ts)) :
    Heard (w.on (w.fleet.observe id ts).1) (Function.update qs i
      (announcements.next (qs i) (.observe id ts) (w.fleet.observe id ts).2)) := by
  refine h.told hpermits (w.fleet.announced_observe id ts) fun hchanged hstands => ?_
  have hnext : announcements.next (qs i) (.observe id ts) (w.fleet.observe id ts).2 =
      ⟨none, [(id, (w.fleet.observe id ts).2.1.standing)]⟩ := if_pos hchanged
  rw [hnext]
  exact .inr ⟨_, List.mem_singleton.2 rfl, hstands⟩

theorem Heard.setTimeScale (h : Heard w qs) {id : String} {scale : Option F64}
    (hpermits : announcements.permits (qs i) (.setTimeScale id scale)) :
    Heard (w.on (w.fleet.setTimeScale id scale).1) (Function.update qs i
      (announcements.next (qs i) (.setTimeScale id scale) (w.fleet.setTimeScale id scale).2)) := by
  refine h.told hpermits (w.fleet.announced_setTimeScale id scale) fun hchanged _ => ?_
  have hnext : announcements.next (qs i) (.setTimeScale id scale)
      (w.fleet.setTimeScale id scale).2 = { qs i with rescaled := some id } := if_pos hchanged
  rw [hnext]
  exact .inl rfl

theorem Heard.setDegraded (h : Heard w qs) {id : String} {degraded : Bool} {ts : Int}
    (hpermits : announcements.permits (qs i) (.setDegraded id degraded ts)) :
    Heard (w.on (w.fleet.setDegraded id degraded ts).1) (Function.update qs i
      (announcements.next (qs i) (.setDegraded id degraded ts)
        (w.fleet.setDegraded id degraded ts).2)) := by
  obtain ⟨howed, hid⟩ := hpermits
  let told := (w.fleet.setDegraded id degraded ts).2.2 || (qs i).rescaled.isSome
  have hann := w.fleet.announced_setDegraded id degraded ts told
    fun h => (Bool.or_eq_true _ _).mpr (.inl h)
  have hstands := (w.fleet.announced_setDegraded id degraded ts true fun _ => rfl).stands id _
    (List.mem_singleton.2 rfl)
  have hahead : told = true → Ahead (w.fleet.setDegraded id degraded ts).1
      (announcements.next (qs i) (.setDegraded id degraded ts)
        (w.fleet.setDegraded id degraded ts).2) id := by
    intro htold
    have hnext : announcements.next (qs i) (.setDegraded id degraded ts)
        (w.fleet.setDegraded id degraded ts).2 =
          ⟨none, [(id, (w.fleet.setDegraded id degraded ts).2.1.standing)]⟩ := if_pos htold
    rw [hnext]
    exact .inr ⟨_, List.mem_singleton.2 rfl, hstands⟩
  refine h.update hann ?_ ?_
  · intro g s hs
    cases htold : told with
    | false =>
      rw [htold] at hs
      cases hs
    | true =>
      rw [htold] at hs
      obtain ⟨rfl, -⟩ := Prod.mk.inj (List.mem_singleton.1 hs)
      exact hahead htold
  · rintro g (hrescaled | ⟨s, hs, -⟩)
    · obtain rfl := hid g hrescaled
      have hsome : (qs i).rescaled.isSome = true := by rw [hrescaled, Option.isSome_some]
      exact hahead ((Bool.or_eq_true _ _).mpr (.inr hsome))
    · rw [howed] at hs
      cases hs

/-- **One operation.** -/
theorem heard_step {o : Op} {r : Resp o} {w' : World} (h : Heard w qs)
    (hpermits : announcements.permits (qs i) o) (htimely : Timely w.fleet qs i o)
    (he : Effect w o r w') :
    Heard w' (Function.update qs i (announcements.next (qs i) o r)) := by
  cases o with
  | receive =>
    obtain rfl : w' = w := he
    exact h.silent (announced_refl w'.fleet)
  | tick =>
    obtain rfl : w' = w := he
    exact h.silent (announced_refl w'.fleet)
  | push record =>
    obtain ⟨_, heq⟩ := he
    cases heq
    exact h.silent (announced_refl w.fleet)
  | snapshot id =>
    obtain ⟨_, heq⟩ := he
    cases heq
    exact h.silent (announced_refl w.fleet)
  | observe id ts =>
    obtain ⟨_, heq⟩ := he
    cases heq
    exact h.observe hpermits
  | setDegraded id degraded ts =>
    obtain ⟨_, heq⟩ := he
    cases heq
    exact h.setDegraded hpermits
  | setTimeScale id scale =>
    obtain ⟨_, heq⟩ := he
    cases heq
    exact h.setTimeScale hpermits
  | sweep now =>
    obtain ⟨hperm, rfl⟩ := he
    have hann := (w.fleet.announced_sweep now).perm (hperm.map _)
    refine h.update hann ?_ fun g hahead => absurd hahead (not_ahead hpermits)
    intro g s hs
    exact .inr ⟨s, hs, hann.stands g s hs⟩
  | broadcast frame =>
    obtain ⟨_, heq⟩ := he
    cases heq
    exact h.send hpermits fun g s => htimely frame g s rfl
  | _ =>
    -- the setters of values that no status frame carries
    obtain ⟨_, heq⟩ := he
    cases heq
    exact h.silent (announced_put_same rfl)

end Heard

/-! ### Every interleaving -/

/-- The two goroutines, for a number of messages and a number of ticks. -/
def start [Rfc3339] (known : List String) (messages ticks : ℕ) (fleet : Fleet) :
    Pool Goroutine Op Resp Unit World where
  world := { fleet }
  left
    | .broker => consume known messages
    | .liveness => runLiveness ticks

/-- What a goroutine owes, from the calls it has made. -/
def owing (p : Pool Goroutine Op Resp Unit World) : Goroutine → Owing :=
  p.states (fun _ => announcements) fun _ => {}

/-- No frame is overtaken: when a goroutine broadcasts a status frame, the greenhouse has not
changed since the frame was made, or the other goroutine still has to tell of the change. -/
def InOrder (p : Pool Goroutine Op Resp Unit World) (i : Goroutine) (c : Call Op Resp) : Prop :=
  Timely p.world.fleet (owing p) i c.op

def Op.arrives : Op → Bool
  | .receive | .tick => true
  | _ => false

/-- The goroutine waits for its next message or tick, or has returned. -/
def Waiting : Program → Prop
  | .ret _ => True
  | .op o _ => o.arrives = true

instance : DecidablePred Waiting
  | .ret _ => inferInstanceAs (Decidable True)
  | .op o _ => inferInstanceAs (Decidable (o.arrives = true))

theorem settled_of_waiting {p : Program} {q : Owing} (h : Waiting p)
    (hobeys : p.Obeys announcements q Settled) : q = {} := by
  cases p with
  | ret a => exact hobeys
  | op o k =>
    cases o with
    | receive => exact hobeys.1
    | tick => exact hobeys.1
    | _ => cases h

section Interleavings

variable [Rfc3339]

/-- **The last status frame tells the live status**, in every interleaving in which no frame is
overtaken, whenever both goroutines wait. -/
theorem lastFramesTell_of_inOrder (known : List String) (messages ticks : ℕ) (fleet : Fleet)
    {es : List (Goroutine × Call Op Resp)} {p : Pool Goroutine Op Resp Unit World}
    (h : Run (Pool.StepIf Effect InOrder) (start known messages ticks fleet) es p)
    (hwaiting : ∀ i, Waiting (p.left i)) : LastFramesTell p.world := by
  let P : Goroutine → Protocol Op Resp Owing := fun _ => announcements
  have hstart : Pool.Tracks P (fun _ => {}) (fun _ => Settled)
      (start known messages ticks fleet) := by
    intro i
    cases i with
    | broker => exact obeys_consume known messages
    | liveness => exact obeys_runLiveness ticks
  have hnone : Heard (start known messages ticks fleet).world
      ((start known messages ticks fleet).states P fun _ => {}) := fun g => .inl (.inl rfl)
  obtain ⟨htracks, hheard⟩ := Pool.invariant (I := Heard)
    (fun p i o r w' hI hpermits hC he => ⟨trivial, heard_step hI hpermits hC he⟩) h hstart hnone
  intro g s hs
  rcases hheard g with (hlast | hlast) | ⟨i, hahead⟩
  · rw [hs] at hlast
    cases hlast
  · rw [hs] at hlast
    obtain ⟨live, hlive, hstanding⟩ := Option.map_eq_some_iff.1 hlast.symm
    cases hstanding
    exact ⟨live, hlive, rfl, rfl⟩
  · exact absurd hahead (not_ahead (settled_of_waiting (hwaiting i) (htracks i)))

end Interleavings

/-! ### Two runs -/

/-- What a status frame carries is what the view holds. -/
def upToDate (p : Pool Goroutine Op Resp Unit World) (_ : Goroutine) (c : Call Op Resp) : Bool :=
  match c.op with
  | .broadcast frame =>
    match frame.standing? with
    | some (g, s) => decide (p.world.fleet.standing g = some s)
    | none => true
  | _ => true

theorem inOrder_of_upToDate (p : Pool Goroutine Op Resp Unit World) (i : Goroutine)
    (c : Call Op Resp) (h : upToDate p i c = true) : InOrder p i c := by
  intro frame g s ho hframe
  rw [upToDate, ho] at h
  simp only [hframe] at h
  exact .inl (of_decide_eq_true h)

section Bench

attribute [local instance] Controller.Bench.gregorian

/-- A reading of the temperature of `gh-a`. -/
def benchReading (now : Int) : Message where
  topic := "gh/gh-a/sensor/temperature"
  data := .object [("schema_version", .int 1), ("greenhouse_id", .string "gh-a"),
    ("zone_id", .null), ("ts", .string "2026-06-07T14:03:00.000Z"),
    ("metric", .string "temperature"), ("value", .float 22), ("unit", .string "°C")]
  now := now

/-- A first reading at once; a second one, and a tick, after a silence of a hundred seconds. -/
def benchArrivals (w : World) : Message × Int :=
  (if w.sent.isEmpty then benchReading 0 else benchReading 100000000000, 100000000000)

/-- The platform before any message; a greenhouse is offline after thirty seconds. -/
def benchStart : Pool Goroutine Op Resp Unit World :=
  start ["gh-a"] 2 1 { offlineAfter := 30000000000 }

/-- Each goroutine broadcasts before the other one changes the view. -/
def inTurn : List Goroutine :=
  List.replicate 6 .broker ++ List.replicate 3 .liveness ++ List.replicate 6 .broker

/-- **The last frame tells**, if the second reading comes after the frame of the sweep. -/
theorem lastFramesTell_inTurn : ∃ es p,
    Run (Pool.StepIf Effect InOrder) benchStart es p ∧ lastStatus p.world.sent "gh-a" ≠ none ∧
      LastFramesTell p.world := by
  have hsample : (Pool.scheduleIf (World.serve benchArrivals) upToDate inTurn benchStart).any
      (fun x => decide (lastStatus x.2.world.sent "gh-a" ≠ none ∧ Waiting (x.2.left .broker) ∧
        Waiting (x.2.left .liveness))) = true := by
    decide +kernel
  obtain ⟨⟨es, p⟩, hschedule, hends⟩ := Option.any_eq_true _ _ |>.1 hsample
  obtain ⟨hsome, hbroker, hliveness⟩ := of_decide_eq_true hends
  have hr := Pool.run_of_scheduleIf (effect_serve benchArrivals) inOrder_of_upToDate hschedule
  refine ⟨es, p, hr, hsome, lastFramesTell_of_inOrder ["gh-a"] 2 1 _ hr fun i => ?_⟩
  cases i with
  | broker => exact hbroker
  | liveness => exact hliveness

/-- The second reading is handled between the sweep and its frame. -/
def overtaken : List Goroutine :=
  List.replicate 6 .broker ++ List.replicate 2 .liveness ++ List.replicate 6 .broker ++ [.liveness]

/-- **A greenhouse that is online was last announced as offline.** -/
theorem last_frame_overtaken : ∃ es p, Run (Pool.Step Effect) benchStart es p ∧
    (∀ i, Waiting (p.left i)) ∧ ¬ LastFramesTell p.world := by
  have hsample : (Pool.schedule (World.serve benchArrivals) overtaken benchStart).any
      (fun x => decide (lastStatus x.2.world.sent "gh-a" = some ⟨.offline, none⟩ ∧
        (x.2.world.fleet.get "gh-a").map Live.status = some .online ∧
          Waiting (x.2.left .broker) ∧ Waiting (x.2.left .liveness))) = true := by
    decide +kernel
  obtain ⟨⟨es, p⟩, hschedule, hends⟩ := Option.any_eq_true _ _ |>.1 hsample
  obtain ⟨hlast, honline, hbroker, hliveness⟩ := of_decide_eq_true hends
  refine ⟨es, p, Pool.run_of_schedule (effect_serve benchArrivals) hschedule, ?_, ?_⟩
  · intro i
    cases i with
    | broker => exact hbroker
    | liveness => exact hliveness
  · intro htell
    obtain ⟨live, hlive, hstatus, -⟩ := htell "gh-a" _ hlast
    rw [hlive] at honline
    have hlive : live.status = .online := Option.some.inj honline
    rw [hlive] at hstatus
    cases hstatus

end Bench

end Greenhouse.Platform.Ingester
