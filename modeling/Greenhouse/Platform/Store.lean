import Greenhouse.Platform.Domain
import Greenhouse.Process.Prog

/-!
# What the platform calls

The operations of the reconciler and of the setpoint API on one greenhouse: the tables of
the store, the fleet view, and the relay to the controller. Every query of the source is
keyed by the greenhouse id, so one greenhouse has a ledger and a reconciliation row of its
own. The timestamps of the row, the activity feed, the metrics and the log are left out.

* `Ledger`: the append-only revisions, newest first, with their order as a field.
* `hosting`: the store is truthful when it answers, the controller is a device.
* `anyhow`, `Writes`, `Reaches`, `Works`: which operations may fail.
-/

namespace Greenhouse.Platform

open Greenhouse.Process

/-! ## Operations -/

/-- How a greenhouse's controller is connected. -/
inductive Connectivity where
  | online
  | degraded
  | offline
  deriving DecidableEq

/-- Where a controller is registered. -/
structure Endpoint where
  restBaseUrl : String
  bearerToken : Option String := none
  deriving DecidableEq

/-- A request to the controller's REST API. -/
inductive Request where
  | getSetpoints
  | getZones
  | patchSetpoints (body : GlobalSetpoints)
  | patchZone (zone : ZoneTargets)
  deriving DecidableEq

/-- A response body, as far as it decodes. -/
inductive Body where
  | setpoints (setpoints : GlobalSetpoints)
  | zones (zones : List ZoneTargets)
  | text (raw : String)
  deriving DecidableEq

structure Response where
  status : Nat
  body : Body
  deriving DecidableEq

/-- Whether the current revision has reached the controller; `unset` is the zero value. -/
inductive DeliveryStatus where
  | unset
  | pending
  | delivered
  | deferred
  | rejected
  deriving DecidableEq

/-- The reconciliation row of a greenhouse. -/
structure ReconState where
  lastDeliveredRevision : Option Nat := none
  deliveryStatus : DeliveryStatus := .unset
  drift : Bool := false
  failCount : Nat := 0
  deriving DecidableEq

/-- The operations on one greenhouse. -/
inductive Op where
  | greenhouseExists
  | getAssignment
  | getProfile (id : String)
  | getEndpoint
  | fleetGet
  | relay (endpoint : Endpoint) (request : Request)
  | currentRevision
  | appendRevision (provenance : Provenance)
  | getReconState
  | upsertReconState (recon : ReconState)
  | broadcastDrift (drift : Bool)
  deriving DecidableEq

/-- What an operation is answered; a failing one gives the text of its error. -/
abbrev Resp : Op → Type
  | .greenhouseExists => Except String Bool
  | .getAssignment => Except String (Option Assignment)
  | .getProfile _ => Except String (Option CropProfile)
  | .getEndpoint => Except String (Option Endpoint)
  | .fleetGet => Option Connectivity
  | .relay _ _ => Except String Response
  | .currentRevision => Except String (Option SetpointRevision)
  | .appendRevision _ => Except String Nat
  | .getReconState => Except String (Option ReconState)
  | .upsertReconState _ => Except String Unit
  | .broadcastDrift _ => Unit

abbrev Program (α : Type) := Prog Op Resp α

/-! ## The tables -/

/-- The revisions of a greenhouse, newest first. -/
structure Ledger where
  entries : List SetpointRevision
  sorted : entries.Pairwise fun a b => b.revision < a.revision

namespace Ledger

def empty : Ledger := ⟨[], .nil⟩

/-- The latest revision. -/
def current (l : Ledger) : Option SetpointRevision := l.entries.head?

/-- `COALESCE(MAX(revision), 0)`. -/
def maxRevision (l : Ledger) : Nat :=
  match l.current with
  | some r => r.revision
  | none => 0

theorem le_maxRevision {l : Ledger} {r : SetpointRevision} (h : r ∈ l.entries) :
    r.revision ≤ l.maxRevision := by
  obtain ⟨entries, sorted⟩ := l
  cases entries with
  | nil => cases h
  | cons a rs =>
    rcases List.mem_cons.1 h with rfl | h
    · exact le_rfl
    · exact (List.rel_of_pairwise_cons sorted h).le

/-- Append a revision under the next number. -/
def append (l : Ledger) (p : Provenance) : Ledger where
  entries := { p with revision := l.maxRevision + 1 } :: l.entries
  sorted := List.pairwise_cons.2 ⟨fun _ h => Nat.lt_succ_of_le (le_maxRevision h), l.sorted⟩

@[simp] theorem current_append (l : Ledger) (p : Provenance) :
    (l.append p).current = some { p with revision := l.maxRevision + 1 } := rfl

@[simp] theorem maxRevision_append (l : Ledger) (p : Provenance) :
    (l.append p).maxRevision = l.maxRevision + 1 := rfl

theorem maxRevision_of_current {l : Ledger} {r : SetpointRevision} (h : l.current = some r) :
    l.maxRevision = r.revision := by
  rw [maxRevision, h]

end Ledger

/-- The ledger and the reconciliation row of a greenhouse. -/
structure Store where
  ledger : Ledger := .empty
  recon : Option ReconState := none

namespace Store

/-- The row, or the zero value where there is none. -/
def row (s : Store) : ReconState := s.recon.getD {}

/-- Write the row. -/
def write (s : Store) (recon : ReconState) : Store := { s with recon := some recon }

@[simp] theorem ledger_write (s : Store) (recon : ReconState) :
    (s.write recon).ledger = s.ledger := rfl

@[simp] theorem row_write (s : Store) (recon : ReconState) : (s.write recon).row = recon := rfl

/-- Writing a row that is there changes nothing. -/
theorem write_row {s : Store} (h : s.row.lastDeliveredRevision ≠ none) : s.write s.row = s := by
  obtain ⟨ledger, _ | recon⟩ := s
  · exact absurd rfl h
  · rfl

/-- The answer, if it is one and not an error, is what the tables hold. -/
def Truthful (s : Store) : (o : Op) → Resp o → Prop
  | .currentRevision, .ok r => r = s.ledger.current
  | .getReconState, .ok r => r = s.recon
  | .appendRevision _, .ok n => n = s.ledger.maxRevision + 1
  | _, _ => True

/-- The tables after an operation; a failed write leaves them. -/
def next (s : Store) : (o : Op) → Resp o → Store
  | .appendRevision p, .ok _ => { s with ledger := s.ledger.append p }
  | .upsertReconState recon, .ok _ => s.write recon
  | _, _ => s

end Store

/-! ## Devices -/

/-- A controller as the relay sees it: how it may answer a request, and its state after. -/
structure Device (C : Type) where
  answer : C → Request → Except String Response → C → Prop

/-- The controller after an operation; only the relay reaches it. -/
def Device.Serves {C : Type} (D : Device C) (c : C) : (o : Op) → Resp o → C → Prop
  | .relay _ request, r, c' => D.answer c request r c'
  | _, _, c' => c' = c

/-- A greenhouse: its tables and its controller. -/
structure World (C : Type) where
  store : Store
  device : C

theorem World.eq_of {C : Type} {w w' : World C} (hstore : w'.store = w.store)
    (hdevice : w'.device = w.device) : w' = w := by
  obtain ⟨store, device⟩ := w
  obtain ⟨store', device'⟩ := w'
  obtain rfl : store' = store := hstore
  obtain rfl : device' = device := hdevice
  rfl

/-- A controller that may answer anything. -/
def anything {C : Type} : Device C where
  answer _ _ _ _ := True

/-- The operations answer as `A` allows, the store truthfully, the controller as a device. -/
def hosting {C : Type} (A : (o : Op) → Resp o → Prop) (D : Device C) : Env Op Resp (World C) :=
  fun w o r w' => A o r ∧ w.store.Truthful o r ∧ w'.store = w.store.next o r ∧
    D.Serves w.device o r w'.device

/-- Any operation may fail. -/
def anyhow (o : Op) (_ : Resp o) : Prop := True

/-- The writes of the store succeed. -/
def Writes : (o : Op) → Resp o → Prop
  | .appendRevision _, r => ∃ n, r = .ok n
  | .upsertReconState _, r => r = .ok ()
  | _, _ => True

/-- The writes succeed, and the greenhouse is registered and reachable. -/
def Reaches : (o : Op) → Resp o → Prop
  | .getEndpoint, .ok e => e.isSome
  | .fleetGet, live => ∃ l, live = some l ∧ l ≠ .offline
  | o, r => Writes o r

/-- The store works, and the greenhouse is registered and reachable. -/
def Works : (o : Op) → Resp o → Prop
  | .currentRevision, r => ∃ c, r = .ok c
  | .getReconState, r => ∃ ρ, r = .ok ρ
  | .getEndpoint, r => ∃ e, r = .ok (some e)
  | o, r => Reaches o r

theorem reaches_of_works {o : Op} {r : Resp o} (h : Works o r) : Reaches o r := by
  cases o with
  | getEndpoint =>
    obtain ⟨e, rfl⟩ := h
    rfl
  | _ => first | exact h | trivial

theorem writes_of_works {o : Op} {r : Resp o} (h : Works o r) : Writes o r := by
  cases o <;> first | exact h | trivial

/-- The store works and the greenhouse is offline. -/
def Away : (o : Op) → Resp o → Prop
  | .fleetGet, live => live = some .offline
  | o, r => Works o r

/-- A working host as a function, for a device that is one; the greenhouse has no assignment
and the given connectivity. -/
def serve {C : Type} (live : Connectivity) (respond : C → Request → Except String Response × C)
    (w : World C) : (o : Op) → Resp o × World C
  | .greenhouseExists => (.ok true, w)
  | .getAssignment => (.ok none, w)
  | .getProfile _ => (.ok none, w)
  | .getEndpoint => (.ok (some ⟨"http://controller", none⟩), w)
  | .fleetGet => (some live, w)
  | .relay _ request =>
    ((respond w.device request).1, { w with device := (respond w.device request).2 })
  | .currentRevision => (.ok w.store.ledger.current, w)
  | .appendRevision p =>
    (.ok (w.store.ledger.maxRevision + 1),
      { w with store := { w.store with ledger := w.store.ledger.append p } })
  | .getReconState => (.ok w.store.recon, w)
  | .upsertReconState recon => (.ok (), { w with store := w.store.write recon })
  | .broadcastDrift _ => ((), w)

theorem online_ne_offline : Connectivity.online ≠ .offline := by decide

section Serve

variable {C : Type} {live : Connectivity} {respond : C → Request → Except String Response × C}

theorem works_serve (hlive : live ≠ .offline) (w : World C) (o : Op) :
    Works o (serve live respond w o).1 := by
  cases o with
  | fleetGet => exact ⟨live, rfl, hlive⟩
  | upsertReconState recon => exact rfl
  | greenhouseExists => trivial
  | getAssignment => trivial
  | getProfile id => trivial
  | relay e q => trivial
  | broadcastDrift drift => trivial
  | _ => exact ⟨_, rfl⟩

theorem hosting_serve {A : (o : Op) → Resp o → Prop} {D : Device C}
    (hA : ∀ w o, A o (serve live respond w o).1)
    (hD : ∀ c q, D.answer c q (respond c q).1 (respond c q).2) (w : World C) (o : Op) :
    hosting A D w o (serve live respond w o).1 (serve live respond w o).2 := by
  refine ⟨hA w o, ?_⟩
  cases o with
  | relay e q => exact ⟨trivial, rfl, hD w.device q⟩
  | currentRevision => exact ⟨rfl, rfl, rfl⟩
  | appendRevision p => exact ⟨rfl, rfl, rfl⟩
  | getReconState => exact ⟨rfl, rfl, rfl⟩
  | _ => exact ⟨trivial, rfl, rfl⟩

end Serve

end Greenhouse.Platform
