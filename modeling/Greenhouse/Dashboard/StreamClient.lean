import Mathlib.Data.Rat.Floor
import Greenhouse.Process.Run

/-!
# The stream client

The dashboard holds one socket to the platform. The client opens it, hands the frames it receives
to the handlers, and opens another after a delay when it is closed. The callbacks of a socket do
not say which socket they belong to, and the reconnect timer does not look for a socket.

* `Browser`: the sockets and the timers a client has asked for.
* `handleMessage`: what a received frame makes the handlers hear.
* `connect`, `close`, `onclose`, `onReconnect`: the client.
* `Lawful`: a step after which there is one live socket and one timer at most, that opens none
  unasked and hands over nothing of an earlier connection.
* `InTurn`: no socket is closed but the client's own, no timer fires over a socket.
* `one_live_socket`: **every run of steps in turn is lawful.**
-/

namespace Greenhouse.Dashboard

open Greenhouse.Process

/-! ## The browser -/

/-- The ready state of a socket. -/
inductive Phase where
  | connecting
  | opened
  | closing
  | closed
  deriving DecidableEq

/-- A socket that is open, or will be, and that nobody has closed. -/
def Phase.live : Phase → Bool
  | connecting | opened => true
  | closing | closed => false

/-- A socket, with the number of times the client had been closed when it was created. -/
structure Socket where
  phase : Phase := .connecting
  era : ℕ

/-- `close` of a socket: no effect on one that is closed or about to be. -/
def Socket.close (socket : Socket) : Socket :=
  if socket.phase.live then { socket with phase := .closing } else socket

theorem Socket.live_close (socket : Socket) : socket.close.phase.live = false := by
  unfold Socket.close
  split
  · rfl
  · rename_i hdead
    exact Bool.eq_false_iff.2 hdead

structure Timer where
  id : ℕ
  delay : ℕ

/-- The sockets created so far, by number, and the timers that are pending. -/
structure Browser where
  sockets : List Socket := []
  timers : List Timer := []
  scheduled : ℕ := 0

namespace Browser

variable {b : Browser} {i j : ℕ}

def phase? (b : Browser) (i : ℕ) : Option Phase := b.sockets[i]?.map Socket.phase

def Live (b : Browser) (i : ℕ) : Prop := ∃ socket, b.sockets[i]? = some socket ∧ socket.phase.live

def modify (b : Browser) (i : ℕ) (f : Socket → Socket) : Browser :=
  { b with sockets := b.sockets.modify i f }

def setPhase (b : Browser) (i : ℕ) (phase : Phase) : Browser := b.modify i ({ · with phase })

/-- `new WebSocket`; the new socket has the number `b.sockets.length`. -/
def socketFactory (b : Browser) (era : ℕ) : Browser := { b with sockets := b.sockets ++ [{ era }] }

/-- The new timer has the number `b.scheduled`. -/
def setTimeout (b : Browser) (delay : ℕ) : Browser :=
  { b with timers := b.timers ++ [⟨b.scheduled, delay⟩], scheduled := b.scheduled + 1 }

def clearTimeout (b : Browser) (id : ℕ) : Browser :=
  { b with timers := b.timers.filter fun timer => timer.id ≠ id }

def pending (b : Browser) : List ℕ := b.timers.map Timer.id

@[simp] theorem sockets_setTimeout (delay : ℕ) : (b.setTimeout delay).sockets = b.sockets := rfl

@[simp] theorem pending_modify (f : Socket → Socket) : (b.modify i f).pending = b.pending := rfl

@[simp] theorem pending_setTimeout (delay : ℕ) :
    (b.setTimeout delay).pending = b.pending ++ [b.scheduled] := by
  simp [pending, setTimeout]

theorem pending_clearTimeout (id : ℕ) :
    (b.clearTimeout id).pending = b.pending.filter (· ≠ id) := by
  rw [pending, pending, List.filter_map]
  rfl

@[simp] theorem length_modify (f : Socket → Socket) :
    (b.modify i f).sockets.length = b.sockets.length :=
  List.length_modify ..

theorem socket_modify (f : Socket → Socket) (j : ℕ) :
    (b.modify i f).sockets[j]? = if i = j then b.sockets[j]?.map f else b.sockets[j]? := by
  rw [modify, List.getElem?_modify]
  split <;> simp

theorem live_modify (f : Socket → Socket) :
    (b.modify i f).Live j ↔
      if i = j then ∃ socket, b.sockets[j]? = some socket ∧ (f socket).phase.live
      else b.Live j := by
  simp only [Live, socket_modify]
  split
  · simp [Option.map_eq_some_iff]
  · rfl

/-- A change after which a socket is not live. -/
theorem live_modify_of_dead {f : Socket → Socket} (hf : ∀ socket, (f socket).phase.live = false) :
    (b.modify i f).Live j ↔ b.Live j ∧ i ≠ j := by
  rw [live_modify]
  split
  · rename_i heq
    simp [hf, heq]
  · rename_i hne
    simp [hne]

/-- A change that leaves a socket live or dead. -/
theorem live_modify_of_same {f : Socket → Socket}
    (hf : ∀ socket, b.sockets[i]? = some socket → (f socket).phase.live = socket.phase.live) :
    (b.modify i f).Live j ↔ b.Live j := by
  rw [live_modify]
  split
  · rename_i heq
    subst heq
    constructor
    · rintro ⟨socket, hsocket, hlive⟩
      exact ⟨socket, hsocket, (hf socket hsocket).symm.trans hlive⟩
    · rintro ⟨socket, hsocket, hlive⟩
      exact ⟨socket, hsocket, (hf socket hsocket).trans hlive⟩
  · rfl

theorem live_socketFactory {era : ℕ} :
    (b.socketFactory era).Live j ↔ b.Live j ∨ j = b.sockets.length := by
  simp only [Live, socketFactory]
  rcases Nat.lt_trichotomy j b.sockets.length with hlt | heq | hgt
  · rw [List.getElem?_append_left hlt]
    have hne : j ≠ b.sockets.length := by omega
    simp [hne]
  · subst heq
    simp [Phase.live]
  · have hnone : (b.sockets ++ [({ era } : Socket)])[j]? = none := by
      rw [List.getElem?_eq_none_iff, List.length_append, List.length_singleton]
      omega
    have hnone' : b.sockets[j]? = none := by
      rw [List.getElem?_eq_none_iff]
      omega
    have hne : j ≠ b.sockets.length := by omega
    simp [hnone, hnone', hne]

/-- Every live socket was created after the client was closed `era` times. -/
def Current (b : Browser) (era : ℕ) : Prop :=
  ∀ (i : ℕ) (socket : Socket), b.sockets[i]? = some socket → socket.phase.live → socket.era = era

theorem Current.modify {era : ℕ} (h : b.Current era) {f : Socket → Socket}
    (hf : ∀ socket, b.sockets[i]? = some socket →
      (f socket).era = socket.era ∧ ((f socket).phase.live → socket.phase.live)) :
    (b.modify i f).Current era := by
  intro j socket hsocket hlive
  rw [socket_modify] at hsocket
  split at hsocket
  · rename_i heq
    subst heq
    obtain ⟨old, hold, rfl⟩ := Option.map_eq_some_iff.1 hsocket
    obtain ⟨hera, hwas⟩ := hf old hold
    rw [hera]
    exact h i old hold (hwas hlive)
  · exact h j socket hsocket hlive

theorem Current.socketFactory {era : ℕ} (h : b.Current era) :
    (b.socketFactory era).Current era := by
  intro j socket hsocket hlive
  rw [Browser.socketFactory, List.getElem?_append] at hsocket
  split at hsocket
  · exact h j socket hsocket hlive
  · have hnew := List.mem_of_getElem? hsocket
    rw [List.mem_singleton] at hnew
    rw [hnew]

/-- Where nothing is live. -/
theorem Current.of_dead {era : ℕ} (h : ∀ i, ¬ b.Live i) : b.Current era :=
  fun i socket hsocket hlive => absurd ⟨socket, hsocket, hlive⟩ (h i)

theorem live_of_phase {phase : Phase} (h : b.phase? i = some phase) (hlive : phase.live) :
    ∃ socket, b.sockets[i]? = some socket ∧ socket.phase = phase ∧ b.Live i := by
  obtain ⟨socket, hsocket, rfl⟩ := Option.map_eq_some_iff.1 h
  exact ⟨socket, hsocket, rfl, socket, hsocket, hlive⟩

end Browser

/-! ## Frames -/

inductive FrameType where
  | telemetry
  | status
  | drift
  | event
  | activeAlerts
  deriving DecidableEq

def FrameType.ofName : String → Option FrameType
  | "telemetry" => some telemetry
  | "status" => some status
  | "drift" => some drift
  | "event" => some event
  | "active_alerts" => some activeAlerts
  | _ => none

/-- How the payload of a message is read: `parse` is `JSON.parse` of a text and the payload itself
otherwise, `type` the member of that name, `safeParse` the schema of a known type. -/
structure Wire (δ ρ φ : Type*) where
  parse : δ → Option ρ
  type : ρ → Option String
  safeParse : FrameType → ρ → Option φ

/-- A call of one of the handlers. -/
inductive Call (ρ φ : Type*) where
  | onFrame (type : FrameType) (frame : φ)
  | onFrameRejected (type : FrameType)
  | onUnknown (raw : ρ)

variable {δ ρ φ : Type*}

/-- A payload that is not JSON is ignored. A frame of a known type that does not validate is
dropped and reported; one of an unknown type is handed over as it is. -/
def Wire.handleMessage (W : Wire δ ρ φ) (data : δ) : List (Call ρ φ) :=
  match W.parse data with
  | none => []
  | some raw =>
    match (W.type raw).bind FrameType.ofName with
    | none => [.onUnknown raw]
    | some type =>
      match W.safeParse type raw with
      | some frame => [.onFrame type frame]
      | none => [.onFrameRejected type]

/-! ## The client -/

inductive WsConnectionState where
  | connecting
  | opened
  | reconnecting
  | closed
  deriving DecidableEq

structure StreamClientOptions where
  baseDelayMs : ℕ := 500
  maxDelayMs : ℕ := 5000

/-- The fields of the client; a socket and a timer are held by their numbers. -/
structure StreamClient where
  socket : Option ℕ := none
  state : WsConnectionState := .closed
  attempts : ℕ := 0
  reconnectTimer : Option ℕ := none
  stopped : Bool := false

/-- The client in its page. `closes` counts the calls of `close`, `asked` says whether the last
call was one of `connect`, `notified` and `handled` list what the callbacks were told, the latter
with the socket it came from. -/
structure World (ρ φ : Type*) where
  client : StreamClient := {}
  browser : Browser := {}
  closes : ℕ := 0
  asked : Bool := false
  notified : List WsConnectionState := []
  handled : List (ℕ × Call ρ φ) := []

namespace World

variable (W : Wire δ ρ φ) (options : StreamClientOptions)

def setState (w : World ρ φ) (state : WsConnectionState) : World ρ φ :=
  if state = w.client.state then w
  else { w with client.state := state, notified := w.notified ++ [state] }

/-- `open` of the client. -/
def openSocket (w : World ρ φ) : World ρ φ :=
  { w with
    browser := w.browser.socketFactory w.closes
    client.socket := some w.browser.sockets.length }

def connect (w : World ρ φ) : World ρ φ :=
  let w := { w with client.stopped := false }
  if w.client.socket.isSome then w else (w.setState .connecting).openSocket

def clearReconnect (w : World ρ φ) : World ρ φ :=
  match w.client.reconnectTimer with
  | none => w
  | some id => { w with browser := w.browser.clearTimeout id, client.reconnectTimer := none }

def closeSocket (w : World ρ φ) : World ρ φ :=
  match w.client.socket with
  | none => w
  | some i => { w with browser := w.browser.modify i Socket.close }

def close (w : World ρ φ) : World ρ φ :=
  let w := { w with client.stopped := true }.clearReconnect.closeSocket
  { w with client.socket := none }.setState .closed

def onopen (w : World ρ φ) : World ρ φ :=
  { w with client.attempts := 0 }.setState .opened

/-- A timer that is pending already is no longer held, and goes on. -/
def scheduleReconnect (w : World ρ φ) : World ρ φ :=
  let w := w.setState .reconnecting
  let delay := min options.maxDelayMs (options.baseDelayMs * 2 ^ w.client.attempts)
  { w with
    browser := w.browser.setTimeout delay
    client.attempts := w.client.attempts + 1
    client.reconnectTimer := some w.browser.scheduled }

/-- The callback of whichever socket was closed. -/
def onclose (w : World ρ φ) : World ρ φ :=
  let w := { w with client.socket := none }
  if w.client.stopped then w else w.scheduleReconnect options

/-- The callback of the reconnect timer. -/
def onReconnect (w : World ρ φ) : World ρ φ :=
  let w := { w with client.reconnectTimer := none }
  if w.client.stopped then w else w.openSocket

def onmessage (w : World ρ φ) (i : ℕ) (data : δ) : World ρ φ :=
  { w with handled := w.handled ++ (W.handleMessage data).map (i, ·) }

end World

/-! ## Runs -/

/-- What happens to a client: it is called, one of its sockets has news, or a timer fires. -/
inductive StreamEvent (δ : Type*) where
  | connect
  | close
  | opened (i : ℕ)
  | message (i : ℕ) (data : δ)
  | closed (i : ℕ)
  | fired (id : ℕ)

namespace World

variable (W : Wire δ ρ φ) (options : StreamClientOptions)

/-- The state after an event, `none` if it cannot happen: a connection is established for a
socket that is connecting, a socket reports once that it is closed, a timer that is pending fires.
The browser drops the messages of a socket that is not open. -/
def step? (w : World ρ φ) : StreamEvent δ → Option (World ρ φ)
  | .connect => some { w.connect with asked := true }
  | .close => some { w.close with closes := w.closes + 1, asked := false }
  | .opened i =>
    if w.browser.phase? i = some .connecting then
      some { w with browser := w.browser.setPhase i .opened }.onopen
    else none
  | .message i data =>
    if w.browser.phase? i = some .opened then some (w.onmessage W i data)
    else some w
  | .closed i =>
    if w.browser.phase? i ∈ [none, some .closed] then none
    else some ({ w with browser := w.browser.setPhase i .closed }.onclose options)
  | .fired id =>
    if id ∈ w.browser.pending then
      some { w with browser := w.browser.clearTimeout id }.onReconnect
    else none

def Step (w : World ρ φ) (e : StreamEvent δ) (w' : World ρ φ) : Prop :=
  w.step? W options e = some w'

/-- What the client promises of a step: at most one of its sockets is live after it and at most
one timer pending, it opens no socket while the last call was `close`, and what it hands to the
handlers is of a socket created since. -/
structure Lawful (w : World ρ φ) (e : StreamEvent δ) (w' : World ρ φ) : Prop where
  one_socket : ∀ i j, w'.browser.Live i → w'.browser.Live j → i = j
  one_timer : w'.browser.timers.length ≤ 1
  unasked : w.asked = false → e ≠ .connect → w'.browser.sockets.length = w.browser.sockets.length
  handed : ∃ calls, w'.handled = w.handled ++ calls ∧
    ∀ call ∈ calls, ∃ socket, w.browser.sockets[call.1]? = some socket ∧ socket.era = w.closes

/-- The reconnect timer fires when the client has no socket, and unless the client was closed, a
socket that is closed is the one it has, with no timer pending. -/
def InTurn (w : World ρ φ) : StreamEvent δ → Prop
  | .fired _ => w.client.socket = none
  | .closed i => w.client.stopped = false →
      w.client.socket = some i ∧ w.client.reconnectTimer = none
  | _ => True

/-- The state of a client whose steps were in turn: what is live or pending is what it holds. -/
structure Tidy (w : World ρ φ) : Prop where
  holds : ∀ i, w.browser.Live i ↔ w.client.socket = some i
  pending : w.browser.pending = w.client.reconnectTimer.toList
  current : w.browser.Current w.closes
  quiet : w.client.stopped = true → w.client.socket = none ∧ w.client.reconnectTimer = none
  unasked : w.asked = false → w.client.reconnectTimer = none ∧
    (w.client.stopped = true ∨ w.browser.sockets = [])

theorem tidy_initial : Tidy ({} : World ρ φ) where
  holds i := by simp [Browser.Live]
  pending := rfl
  current i socket h := by simp at h
  quiet _ := ⟨rfl, rfl⟩
  unasked _ := ⟨rfl, .inr rfl⟩

/-! ### What a call leaves as it was -/

section Calls

variable {w : World ρ φ}

theorem setState_eq (w : World ρ φ) (state : WsConnectionState) :
    ∃ notified, w.setState state = { w with client.state := state, notified } := by
  by_cases h : state = w.client.state
  · refine ⟨w.notified, ?_⟩
    rw [setState, if_pos h, h]
  · exact ⟨_, if_neg h⟩

@[simp] theorem browser_setState (state : WsConnectionState) :
    (w.setState state).browser = w.browser := by
  obtain ⟨notified, hstate⟩ := setState_eq w state
  rw [hstate]

@[simp] theorem handled_setState (state : WsConnectionState) :
    (w.setState state).handled = w.handled := by
  obtain ⟨notified, hstate⟩ := setState_eq w state
  rw [hstate]

@[simp] theorem handled_openSocket : w.openSocket.handled = w.handled := rfl

@[simp] theorem handled_connect : w.connect.handled = w.handled := by
  simp only [connect]
  split <;> simp

@[simp] theorem handled_clearReconnect : w.clearReconnect.handled = w.handled := by
  unfold clearReconnect
  split <;> rfl

@[simp] theorem handled_closeSocket : w.closeSocket.handled = w.handled := by
  unfold closeSocket
  split <;> rfl

@[simp] theorem handled_close : w.close.handled = w.handled := by
  simp [close]

@[simp] theorem handled_onopen : w.onopen.handled = w.handled := by
  simp [onopen]

@[simp] theorem handled_onclose (options : StreamClientOptions) :
    (w.onclose options).handled = w.handled := by
  simp only [onclose]
  split <;> simp [scheduleReconnect]

@[simp] theorem handled_onReconnect : w.onReconnect.handled = w.handled := by
  simp only [onReconnect]
  split <;> rfl

@[simp] theorem sockets_clearReconnect : w.clearReconnect.browser.sockets = w.browser.sockets := by
  unfold clearReconnect
  split <;> rfl

@[simp] theorem length_closeSocket :
    w.closeSocket.browser.sockets.length = w.browser.sockets.length := by
  unfold closeSocket
  split <;> simp

@[simp] theorem length_close : w.close.browser.sockets.length = w.browser.sockets.length := by
  simp [close]

@[simp] theorem browser_onopen : w.onopen.browser = w.browser := by
  simp [onopen]

@[simp] theorem sockets_onclose (options : StreamClientOptions) :
    (w.onclose options).browser.sockets = w.browser.sockets := by
  simp only [onclose]
  split <;> simp [scheduleReconnect]

theorem client_clearReconnect :
    w.clearReconnect.client = { w.client with reconnectTimer := none } := by
  unfold clearReconnect
  split
  · rename_i hnone
    rw [← hnone]
  · rfl

theorem client_closeSocket : w.closeSocket.client = w.client := by
  unfold closeSocket
  split <;> rfl

theorem pending_closeSocket : w.closeSocket.browser.pending = w.browser.pending := by
  unfold closeSocket
  split <;> simp

/-- `close` leaves no timer that the client holds. -/
theorem pending_clearReconnect (h : w.browser.pending = w.client.reconnectTimer.toList) :
    w.clearReconnect.browser.pending = [] := by
  unfold clearReconnect
  split
  · rename_i hnone
    rw [h, hnone, Option.toList_none]
  · rename_i id hsome
    rw [Browser.pending_clearTimeout, h, hsome]
    simp

/-- `close` leaves no socket live that the client holds. -/
theorem dead_closeSocket (h : ∀ i, w.browser.Live i → w.client.socket = some i) (i : ℕ) :
    ¬ w.closeSocket.browser.Live i := by
  intro hlive
  unfold closeSocket at hlive
  split at hlive
  · rename_i hnone
    cases (h i hlive).symm.trans hnone
  · rename_i j hsome
    obtain ⟨hwas, hne⟩ := (Browser.live_modify_of_dead Socket.live_close).1 hlive
    have hsame := hsome.symm.trans (h i hwas)
    exact hne (Option.some.inj hsame)

end Calls

namespace Tidy

variable {w : World ρ φ} {i id : ℕ}

theorem one_socket (h : Tidy w) (i j : ℕ) (hi : w.browser.Live i) (hj : w.browser.Live j) :
    i = j := by
  have hsame := ((h.holds i).1 hi).symm.trans ((h.holds j).1 hj)
  exact Option.some.inj hsame

theorem one_timer (h : Tidy w) : w.browser.timers.length ≤ 1 := by
  have hlength := congrArg List.length h.pending
  rw [Browser.pending, List.length_map] at hlength
  rw [hlength]
  exact Option.length_toList_le

theorem dead (h : Tidy w) (hsocket : w.client.socket = none) (i : ℕ) : ¬ w.browser.Live i := by
  rw [h.holds, hsocket]
  exact Option.some_ne_none i ∘ Eq.symm

theorem setState (h : Tidy w) (state : WsConnectionState) : Tidy (w.setState state) := by
  obtain ⟨notified, hstate⟩ := setState_eq w state
  rw [hstate]
  exact ⟨h.holds, h.pending, h.current, h.quiet, h.unasked⟩

/-- A client that has no socket opens one. -/
theorem openSocket (h : Tidy w) (hsocket : w.client.socket = none)
    (hstopped : w.client.stopped = false) (hasked : w.asked = true) : Tidy w.openSocket where
  holds j := by
    have hdead := h.dead hsocket j
    simp [World.openSocket, Browser.live_socketFactory, hdead, eq_comm]
  pending := h.pending
  current := h.current.socketFactory
  quiet hquiet := absurd hquiet (by simp [World.openSocket, hstopped])
  unasked hunasked := absurd hunasked (by simp [World.openSocket, hasked])

theorem connect (h : Tidy w) : Tidy { w.connect with asked := true } := by
  let started : World ρ φ := { w with client.stopped := false, asked := true }
  have hstarted : Tidy started :=
    ⟨h.holds, h.pending, h.current, fun h => absurd h Bool.false_ne_true,
      fun h => absurd h.symm Bool.false_ne_true⟩
  cases hsocket : w.client.socket with
  | some i =>
    have hconnect : ({ w.connect with asked := true } : World ρ φ) = started := by
      simp [World.connect, hsocket, started]
    rw [hconnect]
    exact hstarted
  | none =>
    obtain ⟨notified, hstate⟩ := setState_eq started .connecting
    have hconnect : ({ w.connect with asked := true } : World ρ φ) =
        (started.setState .connecting).openSocket := by
      simp only [World.connect, hsocket, Option.isSome_none, Bool.false_eq_true, if_false]
      simp only [World.setState, started]
      split <;> rfl
    rw [hconnect]
    apply openSocket (hstarted.setState _) <;> rw [hstate]
    exact hsocket

theorem close (h : Tidy w) : Tidy { w.close with closes := w.closes + 1, asked := false } := by
  let cleared : World ρ φ := { w with client.stopped := true }.clearReconnect
  have hsockets : ∀ j, cleared.browser.Live j ↔ w.browser.Live j := fun j => by
    simp only [Browser.Live, cleared, sockets_clearReconnect]
  have hclient : cleared.closeSocket.client =
      { w.client with stopped := true, reconnectTimer := none } := by
    rw [client_closeSocket, client_clearReconnect]
  have hdead : ∀ j, ¬ cleared.closeSocket.browser.Live j := dead_closeSocket fun j hlive => by
    rw [client_clearReconnect]
    exact (h.holds j).1 ((hsockets j).1 hlive)
  have hpending : cleared.closeSocket.browser.pending = [] := by
    rw [pending_closeSocket]
    exact pending_clearReconnect h.pending
  obtain ⟨notified, hstate⟩ :=
    setState_eq { cleared.closeSocket with client.socket := none } .closed
  rw [World.close, hstate]
  refine ⟨fun j => ?_, ?_, Browser.Current.of_dead hdead, fun _ => ?_, fun _ => ?_⟩
  · simp [hdead j]
  · simp [hpending, hclient]
  · simp [hclient]
  · simp [hclient]

theorem onopen (h : Tidy w) (hphase : w.browser.phase? i = some .connecting) :
    Tidy { w with browser := w.browser.setPhase i .opened }.onopen := by
  obtain ⟨socket, hsocket, hconnecting, -⟩ := Browser.live_of_phase hphase rfl
  have hlive : ∀ s, w.browser.sockets[i]? = some s → s.phase.live = true := by
    intro s hs
    rw [Option.some.inj (hs.symm.trans hsocket), hconnecting]
    rfl
  apply setState
  refine ⟨fun j => ?_, h.pending, ?_, h.quiet, fun hunasked => ?_⟩
  · rw [← h.holds j]
    exact Browser.live_modify_of_same fun s hs => (hlive s hs).symm
  · exact h.current.modify fun s hs => ⟨rfl, fun _ => hlive s hs⟩
  · obtain ⟨htimer, hidle⟩ := h.unasked hunasked
    refine ⟨htimer, hidle.imp_right fun hempty => ?_⟩
    rw [hempty] at hsocket
    cases hsocket

/-- A client that has no timer pending schedules one. -/
theorem scheduleReconnect (options : StreamClientOptions) (h : Tidy w)
    (htimer : w.client.reconnectTimer = none) (hstopped : w.client.stopped = false)
    (hasked : w.asked = true) : Tidy (w.scheduleReconnect options) := by
  obtain ⟨notified, hstate⟩ := setState_eq w .reconnecting
  simp only [World.scheduleReconnect, hstate]
  refine ⟨h.holds, ?_, h.current, fun hquiet => ?_, fun hunasked => ?_⟩
  · simp [h.pending, htimer]
  · exact absurd (hstopped.symm.trans hquiet) Bool.false_ne_true
  · exact absurd (hunasked.symm.trans hasked) Bool.false_ne_true

/-- The socket that is closed is the one the client holds, or the client was closed. -/
theorem onclose (options : StreamClientOptions) (h : Tidy w)
    (hphase : w.browser.phase? i ∉ [none, some .closed])
    (hturn : w.client.stopped = false → w.client.socket = some i ∧ w.client.reconnectTimer = none) :
    Tidy ({ w with browser := w.browser.setPhase i .closed }.onclose options) := by
  let shut : World ρ φ :=
    { w with browser := w.browser.setPhase i .closed, client.socket := none }
  have hopened : w.browser.sockets ≠ [] := by
    intro hempty
    simp [Browser.phase?, hempty] at hphase
  have hdead : ∀ j, ¬ (w.browser.setPhase i .closed).Live j := by
    intro j hlive
    obtain ⟨hwas, hne⟩ := (Browser.live_modify_of_dead fun _ => rfl).1 hlive
    rw [h.holds] at hwas
    cases hstopped : w.client.stopped with
    | true => cases hwas.symm.trans (h.quiet hstopped).1
    | false => exact hne (Option.some.inj ((hturn hstopped).1.symm.trans hwas))
  have hshut : Tidy shut := by
    refine ⟨fun j => ?_, h.pending, Browser.Current.of_dead hdead, fun hquiet => ?_,
      fun hunasked => ?_⟩
    · simp [shut, hdead j]
    · exact ⟨rfl, (h.quiet hquiet).2⟩
    · obtain ⟨htimer, hidle⟩ := h.unasked hunasked
      exact ⟨htimer, .inl (hidle.resolve_right hopened)⟩
  simp only [World.onclose]
  split
  · exact hshut
  · rename_i hstopped
    have hstopped : w.client.stopped = false := Bool.eq_false_iff.2 hstopped
    apply hshut.scheduleReconnect options (hturn hstopped).2 hstopped
    by_contra hunasked
    rcases (h.unasked (Bool.eq_false_iff.2 hunasked)).2 with hquiet | hempty
    · exact Bool.false_ne_true (hstopped.symm.trans hquiet)
    · exact hopened hempty

/-- The timer that fires is the one the client holds. -/
theorem onReconnect (h : Tidy w) (hid : id ∈ w.browser.pending) (hturn : w.client.socket = none) :
    Tidy { w with browser := w.browser.clearTimeout id }.onReconnect := by
  have htimer : w.client.reconnectTimer = some id := by
    rw [h.pending, Option.mem_toList] at hid
    exact hid
  have hasked : w.asked = true := by
    by_contra hunasked
    cases htimer.symm.trans (h.unasked (Bool.eq_false_iff.2 hunasked)).1
  let idle : World ρ φ :=
    { w with browser := w.browser.clearTimeout id, client.reconnectTimer := none }
  have hidle : Tidy idle := by
    refine ⟨h.holds, ?_, h.current, fun _ => ⟨hturn, rfl⟩, fun hunasked => ?_⟩
    · simp [idle, Browser.pending_clearTimeout, h.pending, htimer]
    · exact absurd (hunasked.symm.trans hasked) Bool.false_ne_true
  simp only [World.onReconnect]
  split
  · exact hidle
  · rename_i hstopped
    exact hidle.openSocket hturn (Bool.eq_false_iff.2 hstopped) hasked

variable {W : Wire δ ρ φ} {options : StreamClientOptions} {e : StreamEvent δ} {w' : World ρ φ}

/-- **A step in turn keeps the client tidy.** -/
theorem step (h : Tidy w) (hstep : Step W options w e w') (hturn : InTurn w e) : Tidy w' := by
  cases e with
  | connect =>
    cases hstep
    exact h.connect
  | close =>
    cases hstep
    exact h.close
  | opened i =>
    obtain ⟨hphase, hstep⟩ := Option.ite_none_right_eq_some.1 hstep
    rw [← Option.some.inj hstep]
    exact h.onopen hphase
  | message i data =>
    simp only [Step, step?] at hstep
    split at hstep <;> cases hstep
    · exact ⟨h.holds, h.pending, h.current, h.quiet, h.unasked⟩
    · exact h
  | closed i =>
    obtain ⟨hphase, hstep⟩ := Option.ite_none_left_eq_some.1 hstep
    rw [← Option.some.inj hstep]
    exact h.onclose options hphase hturn
  | fired id =>
    obtain ⟨hid, hstep⟩ := Option.ite_none_right_eq_some.1 hstep
    rw [← Option.some.inj hstep]
    exact h.onReconnect hid hturn

end Tidy

variable {W : Wire δ ρ φ} {options : StreamClientOptions} {w w' : World ρ φ} {e : StreamEvent δ}

/-- Only a call of `connect` and the reconnect timer open a socket. -/
theorem length_sockets (hstep : Step W options w e w') (hconnect : e ≠ .connect)
    (hfired : ∀ id, e ≠ .fired id) :
    w'.browser.sockets.length = w.browser.sockets.length := by
  cases e with
  | connect => exact absurd rfl hconnect
  | close =>
    cases hstep
    exact length_close
  | opened i =>
    obtain ⟨hphase, hstep⟩ := Option.ite_none_right_eq_some.1 hstep
    simp [← Option.some.inj hstep, Browser.setPhase]
  | message i data =>
    simp only [Step, step?] at hstep
    split at hstep <;> cases hstep <;> rfl
  | closed i =>
    obtain ⟨hphase, hstep⟩ := Option.ite_none_left_eq_some.1 hstep
    simp [← Option.some.inj hstep, Browser.setPhase]
  | fired id => exact absurd rfl (hfired id)

/-- Only a message to an open socket is handed over. -/
theorem handled_step (hstep : Step W options w e w') :
    w'.handled = w.handled ∨ ∃ i data, e = .message i data ∧
      w.browser.phase? i = some .opened ∧
      w'.handled = w.handled ++ (W.handleMessage data).map (i, ·) := by
  cases e with
  | connect =>
    cases hstep
    exact .inl handled_connect
  | close =>
    cases hstep
    exact .inl handled_close
  | opened i =>
    obtain ⟨hphase, hstep⟩ := Option.ite_none_right_eq_some.1 hstep
    exact .inl (by simp [← Option.some.inj hstep])
  | message i data =>
    simp only [Step, step?] at hstep
    split at hstep
    · rename_i hphase
      cases hstep
      exact .inr ⟨i, data, rfl, hphase, rfl⟩
    · cases hstep
      exact .inl rfl
  | closed i =>
    obtain ⟨hphase, hstep⟩ := Option.ite_none_left_eq_some.1 hstep
    exact .inl (by simp [← Option.some.inj hstep])
  | fired id =>
    obtain ⟨hid, hstep⟩ := Option.ite_none_right_eq_some.1 hstep
    exact .inl (by simp [← Option.some.inj hstep])

/-- **A step in turn of a tidy client is lawful.** -/
theorem Tidy.lawful (h : Tidy w) (hstep : Step W options w e w') (hturn : InTurn w e) :
    Lawful w e w' where
  one_socket := (h.step hstep hturn).one_socket
  one_timer := (h.step hstep hturn).one_timer
  unasked hunasked hconnect := by
    apply length_sockets hstep hconnect
    intro id heq
    subst heq
    obtain ⟨hid, -⟩ := Option.ite_none_right_eq_some.1 hstep
    rw [h.pending, (h.unasked hunasked).1] at hid
    cases hid
  handed := by
    rcases handled_step hstep with hsame | ⟨i, data, -, hphase, hhandled⟩
    · exact ⟨[], by rw [hsame, List.append_nil], List.forall_mem_nil _⟩
    · refine ⟨_, hhandled, fun call hcall => ?_⟩
      obtain ⟨call, -, rfl⟩ := List.mem_map.1 hcall
      obtain ⟨socket, hsocket, hopened, -⟩ := Browser.live_of_phase hphase rfl
      exact ⟨socket, hsocket, h.current i socket hsocket (by rw [hopened]; rfl)⟩

/-- **In every run of steps in turn the client has one live socket.** -/
theorem one_live_socket {es : List (StreamEvent δ)}
    (h : Run (Meeting (Step W options) InTurn) {} es w) :
    Run (fun w e w' => Step W options w e w' ∧ Lawful w e w') {} es w :=
  h.mono_of_invariant (fun _ _ _ htidy hone => ⟨htidy.step hone.1 hone.2, hone.1,
    htidy.lawful hone.1 hone.2⟩) tidy_initial

end World

/-- The payload of a message is the name of its type, and every frame validates. -/
def plainWire : Wire String String Unit where
  parse := some
  type := some
  safeParse _ _ := some ()

instance (w : World ρ φ) : (e : StreamEvent δ) → Decidable (w.InTurn e)
  | .connect | .close | .opened _ | .message _ _ => isTrue trivial
  | .closed _ => inferInstanceAs (Decidable (_ = _ → _ ∧ _))
  | .fired _ => inferInstanceAs (Decidable (_ = _))

/-- A connection that is lost, found again and closed, and one that follows it. -/
theorem one_live_socket_reconnected :
    ∃ w : World String Unit, Run (fun w e w' => w.Step plainWire {} e w' ∧ w.Lawful e w') {}
      [.connect, .opened 0, .message 0 "status", .closed 0, .fired 0, .opened 1, .close, .closed 1,
        .connect] w ∧ w.browser.sockets.length = 3 :=
  ⟨_, World.one_live_socket (Run.of_foldlM_meeting rfl), rfl⟩

/-- **A reconnect timer opens a second socket**, which a call of `connect` has made redundant; the
first is never closed and is heard after `close`. -/
theorem two_live_sockets :
    ∃ w w' : World String Unit, Run (World.Step plainWire {}) {}
        [.connect, .closed 0, .connect, .fired 0] w ∧ w.browser.Live 1 ∧ w.browser.Live 2 ∧
      Run (World.Step plainWire {}) w [.opened 1, .close, .message 1 "status"] w' ∧
      w'.handled.map Prod.fst = [1] :=
  ⟨_, _, Run.of_foldlM rfl, ⟨_, rfl, rfl⟩, ⟨_, rfl, rfl⟩, Run.of_foldlM rfl, rfl⟩

end Greenhouse.Dashboard
