import Mathlib.Data.List.Flatten
import Greenhouse.Platform.Ingest
import Greenhouse.Process.Channel
import Greenhouse.Process.Grouped
import Greenhouse.Process.Run

/-!
# The write buffer

Between the receipt of a message and the database stands a bounded queue. A producer that finds it
full takes the oldest record out, counts it and tries again; the writer collects readings and
actuator samples in a batch and hands it to the sink when it is large enough, on a tick, and at
the end. Every operation on the queue and on the counter is a step of its own, so that producers
and the writer meet between them.

* `Writer.Step`: the steps of any number of producers and of the writer.
* `Conserved`: where the records are that have been pushed.
* `buffer_conserves`: **nothing is lost or handed over twice**, in any interleaving.
-/

namespace Greenhouse.Platform

open Greenhouse.Process

/-! ## The producers and the writer -/

namespace Writer

/-- What a producer inside `push` does next. -/
inductive Attempt where
  | sending
  | shedding
  | counting

structure Push where
  record : Record
  attempt : Attempt := .sending

/-- Where the writer is: at its `select`, before an insertion, or through. -/
inductive Turn where
  | selecting
  | inserting (event : Event)
  | flushing (stop : Bool)
  | flushingActuators (stop : Bool)
  | returned

end Writer

/-- The buffer, the producers inside `push`, and the variables of `run`. -/
structure Writer (ι : Type) (size : ℕ) where
  ch : Channel Record size := Channel.empty
  dropped : ℕ := 0
  pushing : ι → Option Writer.Push := fun _ => none
  readings : List Reading := []
  actuators : List ActuatorSample := []
  turn : Writer.Turn := .selecting

def maxBatch : ℕ := 256

/-- The room of a new buffer. -/
def capacity (size : ℤ) : ℕ := if size < 1 then 1 else size.toNat

def newWriter (ι : Type) (size : ℤ) : Writer ι (capacity size) := {}

namespace Writer

/-- What happens to the buffer. An insertion into the sink is an event also when the batch is
empty and the sink is not called. -/
inductive Action (ι : Type) where
  | push (i : ι) (record : Record)
  | sent (i : ι) (record : Record)
  | full (i : ι)
  | shed (i : ι) (record : Record)
  | empty (i : ι)
  | counted (i : ι)
  | stop
  | tick
  | received (record : Record)
  | insertEvent (event : Event)
  | insertReadings (readings : List Reading)
  | insertActuators (samples : List ActuatorSample)

section Steps

variable {ι : Type} {size : ℕ}

def batched (w : Writer ι size) : ℕ := w.readings.length + w.actuators.length

/-- The end of the branch of a record: flush if the batch is large enough. -/
def afterRecord (w : Writer ι size) : Writer ι size :=
  { w with turn := if maxBatch ≤ w.batched then .flushing false else .selecting }

/-- The branch of a record. -/
def accept (w : Writer ι size) : Record → Writer ι size
  | .reading reading => { w with readings := w.readings ++ [reading] }.afterRecord
  | .actuator sample => { w with actuators := w.actuators ++ [sample] }.afterRecord
  | .event event => { w with turn := .inserting event }

@[simp] theorem ch_accept (w : Writer ι size) (record : Record) :
    (w.accept record).ch = w.ch := by
  cases record <;> rfl

@[simp] theorem dropped_accept (w : Writer ι size) (record : Record) :
    (w.accept record).dropped = w.dropped := by
  cases record <;> rfl

@[simp] theorem pushing_accept (w : Writer ι size) (record : Record) :
    (w.accept record).pushing = w.pushing := by
  cases record <;> rfl

variable [DecidableEq ι]

/-- The producer `i` goes on with `push`, or returns from it. -/
def goesOn (w : Writer ι size) (i : ι) (push : Option Push) : Writer ι size :=
  { w with pushing := Function.update w.pushing i push }

@[simp] theorem pushing_goesOn (w : Writer ι size) (i j : ι) (push : Option Push) :
    (w.goesOn i push).pushing j = if i = j then push else w.pushing j := by
  show Function.update w.pushing i push j = _
  rw [Function.update_apply]
  simp only [eq_comm]

/-- One step of a producer or of the writer. -/
inductive Step (w : Writer ι size) : Action ι → Writer ι size → Prop
  | push (i : ι) (record : Record) (h : w.pushing i = none) :
      Step w (.push i record) (w.goesOn i (some { record }))
  | sent {i : ι} {record : Record} {ch : Channel Record size}
      (h : w.pushing i = some ⟨record, .sending⟩) (hsend : w.ch.send? record = some ch) :
      Step w (.sent i record) ({ w with ch }.goesOn i none)
  | full {i : ι} {record : Record} (h : w.pushing i = some ⟨record, .sending⟩)
      (hsend : w.ch.send? record = none) :
      Step w (.full i) (w.goesOn i (some ⟨record, .shedding⟩))
  | shed {i : ι} {record old : Record} {ch : Channel Record size}
      (h : w.pushing i = some ⟨record, .shedding⟩) (hreceive : w.ch.receive? = some (old, ch)) :
      Step w (.shed i old) ({ w with ch }.goesOn i (some ⟨record, .counting⟩))
  | empty {i : ι} {record : Record} (h : w.pushing i = some ⟨record, .shedding⟩)
      (hreceive : w.ch.receive? = none) :
      Step w (.empty i) (w.goesOn i (some ⟨record, .sending⟩))
  | counted {i : ι} {record : Record} (h : w.pushing i = some ⟨record, .counting⟩) :
      Step w (.counted i)
        ({ w with dropped := w.dropped + 1 }.goesOn i (some ⟨record, .sending⟩))
  | stop (h : w.turn = .selecting) : Step w .stop { w with turn := .flushing true }
  | tick (h : w.turn = .selecting) : Step w .tick { w with turn := .flushing false }
  | received {record : Record} {ch : Channel Record size} (h : w.turn = .selecting)
      (hreceive : w.ch.receive? = some (record, ch)) :
      Step w (.received record) ({ w with ch }.accept record)
  | insertEvent {event : Event} (h : w.turn = .inserting event) :
      Step w (.insertEvent event) w.afterRecord
  | insertReadings {stop : Bool} (h : w.turn = .flushing stop) :
      Step w (.insertReadings w.readings)
        { w with readings := [], turn := .flushingActuators stop }
  | insertActuators {stop : Bool} (h : w.turn = .flushingActuators stop) :
      Step w (.insertActuators w.actuators)
        { w with actuators := [], turn := if stop then .returned else .selecting }

end Steps

/-! ## Where the records are -/

inductive Kind where
  | reading
  | actuator
  | event
deriving DecidableEq

end Writer

def Record.kind : Record → Writer.Kind
  | .reading _ => .reading
  | .actuator _ => .actuator
  | .event _ => .event

namespace Writer

def Turn.held : Turn → List Record
  | inserting event => [.event event]
  | _ => []

def ofKind (k : Kind) (records : List Record) : List Record := records.filter (·.kind = k)

namespace Action

variable {ι : Type}

/-- The record whose push succeeds. -/
def pushes : Action ι → List Record
  | sent _ record => [record]
  | _ => []

/-- The record that a producer takes out of the queue. -/
def sheds : Action ι → List Record
  | shed _ record => [record]
  | _ => []

/-- The record that the writer takes out of the queue. -/
def receives : Action ι → List Record
  | received record => [record]
  | _ => []

/-- The record that leaves the queue. -/
def takes (a : Action ι) : List Record := a.sheds ++ a.receives

/-- The records that the sink is given. -/
def hands : Action ι → List Record
  | insertEvent event => [.event event]
  | insertReadings readings => readings.map .reading
  | insertActuators samples => samples.map .actuator
  | _ => []

/-- The record with which the producer `i` calls `push`. -/
def callsOf [DecidableEq ι] (i : ι) : Action ι → List Record
  | push j record => if j = i then [record] else []
  | _ => []

/-- The record with which the producer `i` returns from `push`. -/
def returnsOf [DecidableEq ι] (i : ι) : Action ι → List Record
  | sent j record => if j = i then [record] else []
  | _ => []

end Action

variable {ι : Type} {size : ℕ}

/-- The records of one kind in the hands of the writer: of the batch, or an event that it is about
to insert. -/
def part (w : Writer ι size) : Kind → List Record
  | .reading => w.readings.map .reading
  | .actuator => w.actuators.map .actuator
  | .event => w.turn.held

def batch (w : Writer ι size) : List Record := w.part .reading ++ w.part .actuator ++ w.part .event

/-- The producer `i` has taken a record out of the queue and not counted it yet. -/
def Counting (w : Writer ι size) (i : ι) : Prop :=
  ∃ record, w.pushing i = some ⟨record, .counting⟩

/-- Where the records are, after some steps from a new buffer. -/
structure Conserved [DecidableEq ι] (es : List (Action ι)) (w : Writer ι size) : Prop where
  /-- A record is pushed once by a call that has returned, and not yet by one that has not. -/
  once : ∀ i, es.flatMap (Action.callsOf i) =
    es.flatMap (Action.returnsOf i) ++ (w.pushing i).toList.map Push.record
  /-- The queue hands on in the order of the pushes. -/
  fifo : w.ch.Carries (es.flatMap Action.pushes) (es.flatMap Action.takes)
  /-- Shed, handed over, in the batch or queued. -/
  placed : (es.flatMap Action.pushes).Perm
    (es.flatMap Action.sheds ++ (es.flatMap Action.hands ++ w.batch) ++ w.ch.items)
  /-- The counter falls behind by the producers that are about to count. -/
  counted : ∃ behind : List ι, behind.Nodup ∧ (∀ i, i ∈ behind ↔ w.Counting i) ∧
    w.dropped + behind.length = (es.flatMap Action.sheds).length
  /-- The records of one kind are handed over in the order of the pushes. -/
  ordered : ∀ k, (ofKind k (es.flatMap Action.hands ++ w.batch) ++ ofKind k w.ch.items).Sublist
    (es.flatMap Action.pushes)
  /-- What a producer takes out is the oldest record in the queue. -/
  oldest : ∀ before i record after, es = before ++ .shed i record :: after →
    ∃ queue, before.flatMap Action.pushes = before.flatMap Action.takes ++ record :: queue
  bounded : w.ch.items.length ≤ size
  /-- The batch is small whenever the writer has ended a turn. -/
  flushed : w.turn = .selecting ∨ w.turn = .returned → w.batched < maxBatch

/-! ## The hands of the writer -/

section Hands

variable {w : Writer ι size}

theorem ofKind_part (w : Writer ι size) (k k' : Kind) :
    ofKind k (w.part k') = if k' = k then w.part k' else [] := by
  have hkind : ∀ record ∈ w.part k', record.kind = k' := by
    intro record hrecord
    cases k' with
    | reading =>
      obtain ⟨_, -, rfl⟩ := List.mem_map.1 hrecord
      rfl
    | actuator =>
      obtain ⟨_, -, rfl⟩ := List.mem_map.1 hrecord
      rfl
    | event =>
      have hheld : record ∈ w.turn.held := hrecord
      cases hturn : w.turn with
      | inserting event =>
        rw [hturn] at hheld
        rw [List.mem_singleton.1 hheld]
        rfl
      | _ =>
        rw [hturn] at hheld
        exact absurd hheld List.not_mem_nil
  by_cases hk : k' = k
  · rw [if_pos hk, ofKind, List.filter_eq_self]
    intro record hrecord
    exact decide_eq_true ((hkind record hrecord).trans hk)
  · rw [if_neg hk, ofKind, List.filter_eq_nil_iff]
    intro record hrecord
    simpa [hkind record hrecord] using hk

theorem ofKind_batch (w : Writer ι size) (k : Kind) : ofKind k w.batch = w.part k := by
  rw [batch, ofKind, List.filter_append, List.filter_append]
  show ofKind k _ ++ ofKind k _ ++ ofKind k _ = _
  rw [ofKind_part, ofKind_part, ofKind_part]
  cases k <;> simp

theorem held_afterRecord (w : Writer ι size) : w.afterRecord.turn.held = [] := by
  rw [afterRecord]
  split <;> rfl

/-- The writer takes a record to the others of its kind. -/
theorem part_accept (h : w.turn = .selecting) (record : Record) (k : Kind) :
    (w.accept record).part k = w.part k ++ ofKind k [record] := by
  cases record with
  | reading reading =>
    cases k with
    | reading => exact List.map_append
    | actuator => exact (List.append_nil _).symm
    | event =>
      show _ = w.turn.held ++ []
      rw [h]
      exact held_afterRecord _
  | actuator sample =>
    cases k with
    | reading => exact (List.append_nil _).symm
    | actuator => exact List.map_append
    | event =>
      show _ = w.turn.held ++ []
      rw [h]
      exact held_afterRecord _
  | event event =>
    cases k with
    | reading => exact (List.append_nil _).symm
    | actuator => exact (List.append_nil _).symm
    | event =>
      show _ = w.turn.held ++ [.event event]
      rw [h]
      rfl

/-- The batch is below the size of a flush, or about to be handed over. -/
def Small (w : Writer ι size) : Prop :=
  match w.turn with
  | .selecting | .inserting _ | .returned => w.batched < maxBatch
  | .flushing _ => True
  | .flushingActuators _ => w.readings = []

theorem small_afterRecord (w : Writer ι size) : w.afterRecord.Small := by
  by_cases hfull : maxBatch ≤ w.batched
  · rw [afterRecord, if_pos hfull]
    exact trivial
  · rw [afterRecord, if_neg hfull]
    exact Nat.lt_of_not_le hfull

end Hands

/-! ## One step -/

section Steps

variable [DecidableEq ι] {w w' : Writer ι size} {a : Action ι} {i j : ι}

/-- The queue gets what is pushed and loses what is taken. -/
theorem carries_step {pushed taken : List Record} (h : w.Step a w')
    (hcarries : w.ch.Carries pushed taken) :
    w'.ch.Carries (pushed ++ a.pushes) (taken ++ a.takes) := by
  have hsame : w.ch.Carries (pushed ++ []) (taken ++ []) := by
    rw [List.append_nil, List.append_nil]
    exact hcarries
  cases h with
  | sent h hsend =>
    have hsent := hcarries.send hsend
    rw [← List.append_nil taken] at hsent
    exact hsent
  | shed h hreceive =>
    have hshed := hcarries.receive hreceive
    rw [← List.append_nil pushed] at hshed
    exact hshed
  | received h hreceive =>
    have hreceived := hcarries.receive hreceive
    rw [← List.append_nil pushed] at hreceived
    rw [ch_accept]
    exact hreceived
  | _ => exact hsame

/-- The record with which the producer `i` is inside `push`. -/
def inHand (w : Writer ι size) (i : ι) : List Record := (w.pushing i).toList.map Push.record

/-- A producer keeps its record from the call of `push` until it has sent it. -/
theorem inHand_step (h : w.Step a w') :
    w.inHand i ++ a.callsOf i = a.returnsOf i ++ w'.inHand i := by
  cases h with
  | @push j record h | @sent j record ch h hsend | @full j record h hsend
  | @shed j record old ch h hreceive | @empty j record h hreceive | @counted j record h =>
    by_cases hij : j = i
    · subst hij
      simp [inHand, Action.callsOf, Action.returnsOf, h]
    · simp [inHand, Action.callsOf, Action.returnsOf, hij]
  | _ => simp [inHand, Action.callsOf, Action.returnsOf, afterRecord]

@[simp] theorem ofKind_append (k : Kind) (l l' : List Record) :
    ofKind k (l ++ l') = ofKind k l ++ ofKind k l' :=
  List.filter_append ..

/-- The records of one kind go through the hands of the writer in order. -/
theorem part_step (k : Kind) (h : w.Step a w') :
    w.part k ++ ofKind k a.receives = ofKind k a.hands ++ w'.part k := by
  have hsame (hreceives : a.receives = []) (hhands : a.hands = [])
      (hpart : w'.part k = w.part k) :
      w.part k ++ ofKind k a.receives = ofKind k a.hands ++ w'.part k := by
    rw [hreceives, hhands, hpart]
    exact List.append_nil _
  have hhanded (k' : Kind) (hreceives : a.receives = []) (hhands : a.hands = w.part k')
      (hgone : w'.part k' = []) (hothers : ∀ k, k' ≠ k → w'.part k = w.part k) :
      w.part k ++ ofKind k a.receives = ofKind k a.hands ++ w'.part k := by
    rw [hreceives, hhands, ofKind_part]
    by_cases hk : k' = k
    · subst hk
      rw [if_pos rfl, hgone]
      rfl
    · rw [if_neg hk, hothers k hk]
      exact List.append_nil _
  cases h with
  | @received record ch h hreceive => exact (part_accept (w := { w with ch }) h record k).symm
  | @insertEvent event h =>
    have hpart : w.part .event = [.event event] := by
      rw [part, h]
      rfl
    refine hhanded .event rfl hpart.symm (held_afterRecord w) ?_
    rintro (_ | _ | _) hne
    exacts [rfl, rfl, absurd rfl hne]
  | insertReadings h =>
    refine hhanded .reading rfl rfl rfl ?_
    rintro (_ | _ | _) hne
    · exact absurd rfl hne
    · rfl
    · rw [part, part, h]
      rfl
  | @insertActuators stop h =>
    refine hhanded .actuator rfl rfl rfl ?_
    rintro (_ | _ | _) hne
    · rfl
    · exact absurd rfl hne
    · rw [part, part, h]
      cases stop <;> rfl
  | stop h | tick h =>
    refine hsame rfl rfl ?_
    cases k with
    | event =>
      show _ = w.turn.held
      rw [h]
      rfl
    | _ => rfl
  | _ => exact hsame rfl rfl (by cases k <;> rfl)

theorem small_step (h : w.Step a w') (hsmall : w.Small) : w'.Small := by
  cases h with
  | stop h | tick h => exact trivial
  | @received record ch h hreceive =>
    cases record with
    | reading reading => exact small_afterRecord _
    | actuator sample => exact small_afterRecord _
    | event event =>
      rw [Small, h] at hsmall
      exact hsmall
  | insertEvent h => exact small_afterRecord w
  | insertReadings h => exact rfl
  | @insertActuators stop h =>
    rw [Small, h] at hsmall
    have hnone : w.readings.length + 0 < maxBatch := by
      rw [hsmall]
      decide
    cases stop with
    | false => exact hnone
    | true => exact hnone
  | _ => exact hsmall

/-! ### The counter -/

/-- A list of the producers that have taken out a record and not counted it. -/
def Behind (w : Writer ι size) (behind : List ι) : Prop :=
  behind.Nodup ∧ ∀ i, i ∈ behind ↔ w.Counting i

theorem counting_goesOn (w : Writer ι size) (push : Option Push) :
    (w.goesOn i push).Counting j ↔
      if i = j then ∃ record, push = some ⟨record, .counting⟩ else w.Counting j := by
  rw [Counting, pushing_goesOn]
  split <;> rfl

/-- A producer is behind from the moment it has taken out a record until it has counted it. -/
theorem behind_step {behind : List ι} (h : w.Step a w') (hbehind : w.Behind behind) :
    ∃ behind', w'.Behind behind' ∧
      w'.dropped + behind'.length = w.dropped + behind.length + a.sheds.length := by
  obtain ⟨hnodup, hmem⟩ := hbehind
  -- a producer that counts neither before nor after the step
  have hsame {i : ι} {push push' : Option Push} (hi : w.pushing i = push)
      (hpush : ∀ record, push ≠ some ⟨record, .counting⟩)
      (hpush' : ∀ record, push' ≠ some ⟨record, .counting⟩) :
      (w.goesOn i push').Behind behind := by
    refine ⟨hnodup, fun j => (hmem j).trans ?_⟩
    rw [counting_goesOn]
    split
    · rename_i hij
      subst hij
      have hbefore : ¬ w.Counting i := fun hcounting =>
        hcounting.elim fun record hrecord => hpush record (hi.symm.trans hrecord)
      exact ⟨fun h => absurd h hbefore, fun h => h.elim fun record h => absurd h (hpush' record)⟩
    · rfl
  cases h with
  | push i record h => exact ⟨behind, hsame h (by simp) (by simp), rfl⟩
  | sent h hsend => exact ⟨behind, hsame h (by simp) (by simp), rfl⟩
  | full h hsend => exact ⟨behind, hsame h (by simp) (by simp), rfl⟩
  | empty h hreceive => exact ⟨behind, hsame h (by simp) (by simp), rfl⟩
  | @shed i record old ch h hreceive =>
    have hnew : i ∉ behind := by
      rw [hmem]
      rintro ⟨record', hrecord⟩
      rw [h] at hrecord
      cases hrecord
    refine ⟨i :: behind, ⟨hnodup.cons hnew, fun j => ?_⟩, ?_⟩
    · rw [counting_goesOn, List.mem_cons]
      by_cases hij : i = j
      · simp [hij]
      · rw [if_neg hij]
        exact ⟨fun h => (hmem j).1 (h.resolve_left (Ne.symm hij)), fun h => .inr ((hmem j).2 h)⟩
    · show w.dropped + (behind.length + 1) = w.dropped + behind.length + 1
      omega
  | @counted i record h =>
    have hin : i ∈ behind := (hmem i).2 ⟨record, h⟩
    refine ⟨behind.erase i, ⟨hnodup.erase i, fun j => ?_⟩, ?_⟩
    · rw [counting_goesOn, hnodup.mem_erase_iff]
      by_cases hij : i = j
      · simp [hij]
      · rw [if_neg hij]
        exact ⟨fun h => (hmem j).1 h.2, fun h => ⟨Ne.symm hij, (hmem j).2 h⟩⟩
    · have hlength := List.length_erase_of_mem hin
      have hpos := List.length_pos_of_mem hin
      show w.dropped + 1 + (behind.erase i).length = w.dropped + behind.length + 0
      omega
  | received h hreceive =>
    refine ⟨behind, ⟨hnodup, fun j => ?_⟩, ?_⟩
    · rw [Counting, pushing_accept]
      exact hmem j
    · rw [dropped_accept]
      rfl
  | _ => exact ⟨behind, ⟨hnodup, hmem⟩, rfl⟩

end Steps

/-! ## Every interleaving -/

section Runs

variable [DecidableEq ι] {w : Writer ι size} {es : List (Action ι)}

omit [DecidableEq ι] in
theorem flatMap_concat (f : Action ι → List Record) (es : List (Action ι)) (a : Action ι) :
    (es ++ [a]).flatMap f = es.flatMap f ++ f a := by
  rw [List.flatMap_append, List.flatMap_singleton]

theorem once_run (h : Run Step ({} : Writer ι size) es w) (i : ι) :
    es.flatMap (Action.callsOf i) = es.flatMap (Action.returnsOf i) ++ w.inHand i := by
  refine h.history (P := fun es w => es.flatMap (Action.callsOf i) =
    es.flatMap (Action.returnsOf i) ++ w.inHand i) ?_ rfl
  intro es w a w' honce hstep
  rw [flatMap_concat, flatMap_concat, honce, List.append_assoc, inHand_step hstep,
    List.append_assoc]

theorem carries_run (h : Run Step ({} : Writer ι size) es w) :
    w.ch.Carries (es.flatMap Action.pushes) (es.flatMap Action.takes) := by
  refine h.history (P := fun es w => w.ch.Carries (es.flatMap Action.pushes)
    (es.flatMap Action.takes)) ?_ rfl
  intro es w a w' hcarries hstep
  rw [flatMap_concat, flatMap_concat]
  exact carries_step hstep hcarries

theorem parts_run (h : Run Step ({} : Writer ι size) es w) (k : Kind) :
    ofKind k (es.flatMap Action.receives) = ofKind k (es.flatMap Action.hands) ++ w.part k := by
  refine h.history (P := fun es w => ofKind k (es.flatMap Action.receives) =
    ofKind k (es.flatMap Action.hands) ++ w.part k) ?_ (by cases k <;> rfl)
  intro es w a w' hparts hstep
  rw [flatMap_concat, flatMap_concat, ofKind_append, ofKind_append, hparts, List.append_assoc,
    part_step k hstep, List.append_assoc]

theorem behind_run (h : Run Step ({} : Writer ι size) es w) :
    ∃ behind, w.Behind behind ∧
      w.dropped + behind.length = (es.flatMap Action.sheds).length := by
  refine h.history (P := fun es w => ∃ behind, w.Behind behind ∧
    w.dropped + behind.length = (es.flatMap Action.sheds).length) ?_ ⟨[], ⟨List.nodup_nil, ?_⟩, rfl⟩
  · rintro es w a w' ⟨behind, hbehind, hlength⟩ hstep
    obtain ⟨behind', hbehind', hlength'⟩ := behind_step hstep hbehind
    refine ⟨behind', hbehind', ?_⟩
    rw [flatMap_concat, List.length_append, hlength', hlength]
  · intro i
    refine ⟨fun h => absurd h List.not_mem_nil, ?_⟩
    rintro ⟨record, hrecord⟩
    cases hrecord

theorem small_run (h : Run Step ({} : Writer ι size) es w) : w.Small :=
  h.invariant (I := Small) (fun _ _ _ hsmall hstep => small_step hstep hsmall) (Nat.zero_lt_succ _)

/-- What the writer has received has been handed over or is in its hands. -/
theorem received_run (h : Run Step ({} : Writer ι size) es w) (k : Kind) :
    ofKind k (es.flatMap Action.receives) = ofKind k (es.flatMap Action.hands ++ w.batch) := by
  rw [ofKind_append, ofKind_batch]
  exact parts_run h k

/-- **The write buffer loses nothing and hands nothing over twice**: in any interleaving of any
number of producers with the writer. -/
theorem buffer_conserves (size : ℤ) {w : Writer ι (capacity size)}
    (h : Run Step (newWriter ι size) es w) : w.Conserved es where
  once := once_run h
  fifo := carries_run h
  placed := by
    have hfifo : es.flatMap Action.pushes = es.flatMap Action.takes ++ w.ch.items := carries_run h
    have htakes := List.flatMap_append_perm es Action.sheds Action.receives
    have hreceived := perm_of_filter_eq Record.kind (received_run h)
    rw [hfifo]
    exact (htakes.symm.trans (hreceived.append_left _)).append_right _
  counted := by
    obtain ⟨behind, ⟨hnodup, hmem⟩, hlength⟩ := behind_run h
    exact ⟨behind, hnodup, hmem, hlength⟩
  ordered := by
    intro k
    have hfifo : es.flatMap Action.pushes = es.flatMap Action.takes ++ w.ch.items := carries_run h
    rw [← received_run h k, hfifo, ← ofKind_append]
    have hreceives := List.Sublist.flatMap_right es fun (a : Action ι) _ =>
      List.sublist_append_right a.sheds a.receives
    exact List.filter_sublist.trans (hreceives.append_right _)
  oldest := by
    rintro before i record after rfl
    obtain ⟨q, hbefore, hrest⟩ := h.split
    cases hrest with
    | cons hstep hafter =>
      cases hstep with
      | shed hshedding hreceive =>
        have hfifo : before.flatMap Action.pushes = before.flatMap Action.takes ++ q.ch.items :=
          carries_run hbefore
        rw [Channel.items_of_receive? hreceive] at hfifo
        exact ⟨_, hfifo⟩
  bounded := w.ch.bounded
  flushed := by
    have hsmall := small_run h
    rintro (hturn | hturn)
    · rw [Small, hturn] at hsmall
      exact hsmall
    · rw [Small, hturn] at hsmall
      exact hsmall

end Runs

/-- An event, to be told from others by its message. -/
def benchEvent (message : String) : Event :=
  ⟨"gh-a", 0, "fault", "warning", message, "controller"⟩

/-- Two pushes into a buffer with room for one, and a writer that comes too late for the first. -/
def benchActions : List (Action Unit) :=
  [.push () (.event (benchEvent "first")), .sent () (.event (benchEvent "first")),
    .push () (.event (benchEvent "second")), .full (), .shed () (.event (benchEvent "first")),
    .counted (), .sent () (.event (benchEvent "second")),
    .received (.event (benchEvent "second")), .insertEvent (benchEvent "second")]

/-- **The first record is shed and the second one is handed over.** -/
theorem buffer_conserves_late : ∃ w, Run Step (newWriter Unit 1) benchActions w ∧
    w.dropped = 1 ∧ w.Conserved benchActions := by
  have hr : ∃ w, Run Step (newWriter Unit 1) benchActions w ∧ w.dropped = 1 := by
    refine ⟨_, .cons (.push () _ rfl) <| .cons (.sent rfl rfl) <| .cons (.push () _ rfl) <|
      .cons (.full rfl rfl) <| .cons (.shed rfl rfl) <| .cons (.counted rfl) <|
      .cons (.sent rfl rfl) <| .cons (.received rfl rfl) <| .cons (.insertEvent rfl) <|
      .nil _, rfl⟩
  obtain ⟨w, hr, hdropped⟩ := hr
  exact ⟨w, hr, hdropped, buffer_conserves 1 hr⟩

end Writer

end Greenhouse.Platform
