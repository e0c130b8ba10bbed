import Mathlib.Data.List.Induction
import Greenhouse.Optimizer.Service
import Greenhouse.Process.EventLoop

/-!
# Service tokens

The token of the setpoint write is cached, with the time until which it is used. Any number of
writes ask for it, and while one of them waits for the token endpoint others run. The token and
its time are stored one after the other, but nothing is awaited in between.

* `token`: the token source.
* `Paired`: the cached token is one that was granted, with its own time.
* `tokens_of_run`: **a token from the cache is used well before it expires**, over every
  interleaving.
-/

namespace Greenhouse.Optimizer

open Greenhouse.Numeric Greenhouse.Process Prog

/-! ## The token source -/

/-- What a token response grants. -/
structure Grant where
  accessToken : String
  expiresIn : F64
  deriving DecidableEq

/-- The body of a token response: a grant, one of the errors that are caught, or any other. -/
inductive TokenBody where
  | grant (g : Grant)
  | malformed
  | raised (raised : Raised)

/-- What the token source does: it starts when its caller awaits it, reads and writes its
attributes, reads the monotonic clock and posts to the token endpoint. -/
inductive TokenOp where
  | start
  | getToken
  | getExpiresAt
  | monotonic
  | post
  | setToken (token : String)
  | setExpiresAt (time : F64)

abbrev TokenResp : TokenOp → Type
  | .getToken => Option String
  | .getExpiresAt => F64
  | .monotonic => ℚ
  | .post => Except RequestFailure (HttpReply TokenBody)
  | _ => Unit

def expiryMarginSeconds : F64 := 30

/-- `max`: the first of the greatest. -/
def pyMax (a b : F64) : F64 := if a < b then b else a

/-- How long a grant is used. -/
def Grant.lifetime (g : Grant) : F64 := pyMax (g.expiresIn - expiryMarginSeconds) 0

def fetch : Prog TokenOp TokenResp (Except AuthFailure String) := do
  match ← call TokenOp.post with
  | .error (.transport text) => return .error (.token ("token endpoint unreachable: " ++ text))
  | .error (.other raised) => return .error (.other raised)
  | .ok reply =>
    if reply.status ≠ 200 then
      return .error (.token ("token endpoint returned " ++ toString reply.status))
    else
      match reply.body with
      | .malformed => return .error (.token "token response missing access_token")
      | .raised raised => return .error (.other raised)
      | .grant g =>
        call (TokenOp.setToken g.accessToken)
        let now ← call TokenOp.monotonic
        call (TokenOp.setExpiresAt (F64.fin now + g.lifetime))
        return .ok g.accessToken

/-- A bearer token, or none on the trusted network. -/
def token (oidc : Bool) : Prog TokenOp TokenResp (Except AuthFailure (Option String)) := do
  if oidc then
    match ← call TokenOp.getToken with
    | some _ =>
      let now ← call TokenOp.monotonic
      let expiresAt ← call TokenOp.getExpiresAt
      if F64.fin now < expiresAt then
        let cached ← call TokenOp.getToken
        return .ok cached
      else return (← fetch).map some
    | none => return (← fetch).map some
  else return .ok none

/-- A caller that awaits a token. -/
def caller (oidc : Bool) : Prog TokenOp TokenResp (Except AuthFailure (Option String)) := do
  call TokenOp.start
  token oidc

/-! ## The world -/

/-- The attributes of the source, the clock, and the grants that have arrived, each with the
time at which it did. -/
structure TokenWorld where
  token : Option String := none
  expiresAt : F64 := 0
  clock : ℚ
  grants : List (Grant × ℚ) := []

/-- The grant in an answer of the token endpoint. -/
def grantOf : Except RequestFailure (HttpReply TokenBody) → Option Grant
  | .ok reply =>
    if reply.status ≠ 200 then none
    else match reply.body with
      | .grant g => some g
      | _ => none
  | .error _ => none

/-- How the operations are answered. Time passes at every reading of the clock. -/
def TokenEffect : Env TokenOp TokenResp TokenWorld := fun w o r w' =>
  match o, r with
  | .start, _ => w' = w
  | .getToken, t => t = w.token ∧ w' = w
  | .getExpiresAt, t => t = w.expiresAt ∧ w' = w
  | .monotonic, t => w.clock ≤ t ∧ w' = { w with clock := t }
  | .post, reply => w' = { w with
      grants := ((grantOf reply).map fun g => (g, w.clock)).toList ++ w.grants }
  | .setToken t, _ => w' = { w with token := some t }
  | .setExpiresAt t, _ => w' = { w with expiresAt := t }

/-- The token source of a service: starting and posting suspend a caller, and time passes. -/
def tokenMachine : Machine TokenOp TokenResp TokenWorld ℚ where
  awaits o := match o with
    | .start | .post => true
    | _ => false
  env := TokenEffect
  outside w t w' := w.clock ≤ t ∧ w' = { w with clock := t }

/-! ## The protocol of a caller -/

/-- How far a caller is, with what it has read. -/
inductive TokenPhase where
  | idle
  | begun
  | seen (token : String)
  | timed (token : String) (now : ℚ)
  | fresh (token : String) (now : ℚ)
  | handed (token : String) (now : ℚ)
  | fetching
  | failed (reply : Except RequestFailure (HttpReply TokenBody))
  | granted (g : Grant)
  | storing (g : Grant)
  | clocked (g : Grant) (now : ℚ)
  | stored (g : Grant)

namespace TokenPhase

def Permits : TokenPhase → TokenOp → Prop
  | idle, .start => True
  | begun, .getToken => True
  | seen _, .monotonic => True
  | timed _ _, .getExpiresAt => True
  | fresh _ _, .getToken => True
  | fetching, .post => True
  | granted g, .setToken t => t = g.accessToken
  | storing _, .monotonic => True
  | clocked g now, .setExpiresAt t => t = F64.fin now + g.lifetime
  | _, _ => False

/-- The token is read twice, with nothing in between. -/
def Answers : (q : TokenPhase) → (o : TokenOp) → TokenResp o → Prop
  | fresh token _, .getToken, t => t = some token
  | _, _, _ => True

def next (q : TokenPhase) (o : TokenOp) (r : TokenResp o) : TokenPhase :=
  match q, o, r with
  | idle, .start, _ => begun
  | begun, .getToken, none => fetching
  | begun, .getToken, some token => seen token
  | seen token, .monotonic, now => timed token now
  | timed token now, .getExpiresAt, t => if F64.fin now < t then fresh token now else fetching
  | fresh token now, .getToken, _ => handed token now
  | fetching, .post, reply =>
    match grantOf reply with
    | some g => granted g
    | none => failed reply
  | granted g, .setToken _, _ => storing g
  | storing g, .monotonic, now => clocked g now
  | clocked g _, .setExpiresAt _, _ => stored g
  | q, _, _ => q

end TokenPhase

def tokenProtocol : Protocol TokenOp TokenResp TokenPhase where
  permits := TokenPhase.Permits
  answers := TokenPhase.Answers
  next := TokenPhase.next

/-- What a caller has been given. -/
def TokenResult (oidc : Bool) : TokenPhase → Except AuthFailure (Option String) → Prop
  | .begun, a => oidc = false ∧ a = .ok none
  | .handed token _, a => a = .ok (some token)
  | .failed _, a => ∃ e, a = .error e
  | .stored g, a => a = .ok (some g.accessToken)
  | _, _ => False

section

variable {oidc : Bool}

/-- A fetch gives a token that was granted, or raises. -/
theorem obeys_fetch : (fetch >>= fun r => pure (r.map some)).Obeys tokenProtocol .fetching
    (TokenResult oidc) := by
  unfold fetch
  rw [obeys_bind, obeys_bind, obeys_call]
  refine ⟨trivial, fun reply _ => ?_⟩
  have hnext : tokenProtocol.next .fetching .post reply =
      match grantOf reply with
      | some g => .granted g
      | none => .failed reply := rfl
  rw [hnext]
  cases reply with
  | error failure => cases failure <;> exact ⟨_, rfl⟩
  | ok reply =>
    by_cases hstatus : reply.status ≠ 200
    · have hnone : grantOf (.ok reply) = none := if_pos hstatus
      dsimp only
      rw [if_pos hstatus, hnone]
      exact ⟨_, rfl⟩
    · have hbody : grantOf (.ok reply) = match reply.body with
        | .grant g => some g
        | _ => none := if_neg hstatus
      dsimp only
      rw [if_neg hstatus, hbody]
      cases reply.body with
      | malformed => exact ⟨_, rfl⟩
      | raised raised => exact ⟨_, rfl⟩
      | grant g => exact ⟨rfl, fun _ _ => ⟨trivial, fun now _ => ⟨rfl, fun _ _ => rfl⟩⟩⟩

theorem obeys_caller : (caller oidc).Obeys tokenProtocol .idle (TokenResult oidc) := by
  refine ⟨trivial, fun _ _ => ?_⟩
  cases oidc with
  | false => exact ⟨rfl, rfl⟩
  | true =>
    refine ⟨trivial, fun t _ => ?_⟩
    cases t with
    | none => exact obeys_fetch
    | some t =>
      refine ⟨trivial, fun now _ => ⟨trivial, fun expiresAt _ => ?_⟩⟩
      have hnext : tokenProtocol.next (.timed t now) .getExpiresAt expiresAt =
          if F64.fin now < expiresAt then .fresh t now else .fetching := rfl
      change Obeys _ (if F64.fin now < expiresAt then _ else _)
        (tokenProtocol.next (.timed t now) .getExpiresAt expiresAt) _
      rw [hnext]
      by_cases hfresh : F64.fin now < expiresAt
      · rw [if_pos hfresh, if_pos hfresh]
        exact ⟨trivial, fun cached hcached => congrArg Except.ok hcached⟩
      · rw [if_neg hfresh, if_neg hfresh]
        exact obeys_fetch

end

/-! ## The invariant -/

/-- The token is one that was granted, and its time is that of its own grant. -/
def Paired (w : TokenWorld) : Prop :=
  ∀ t, w.token = some t → ∃ g arrived stored, (g, arrived) ∈ w.grants ∧ g.accessToken = t ∧
    arrived ≤ stored ∧ stored ≤ w.clock ∧ w.expiresAt = F64.fin stored + g.lifetime

/-- The token was cached, and its time had not come, when it was handed out. -/
def HandedOut (w : TokenWorld) (t : String) (now : ℚ) : Prop :=
  ∃ g arrived stored, (g, arrived) ∈ w.grants ∧ g.accessToken = t ∧ arrived ≤ stored ∧
    stored ≤ now ∧ F64.fin now < F64.fin stored + g.lifetime

/-- The grant has arrived. -/
def Arrived (w : TokenWorld) (g : Grant) : Prop :=
  ∃ arrived, (g, arrived) ∈ w.grants ∧ arrived ≤ w.clock

/-- What a caller knows at any time. -/
def Known (w : TokenWorld) : TokenPhase → Prop
  | .fresh t now | .handed t now => HandedOut w t now
  | .granted g | .storing g | .clocked g _ | .stored g => Arrived w g
  | _ => True

/-- What is so while a caller runs. -/
def Running (w : TokenWorld) : TokenPhase → Prop
  | .seen t => Paired w ∧ w.token = some t
  | .timed t now => Paired w ∧ w.token = some t ∧ w.clock = now
  | .fresh t _ => Paired w ∧ w.token = some t
  | .storing g => w.token = some g.accessToken
  | .clocked g now => w.token = some g.accessToken ∧ w.clock = now
  | _ => Paired w

/-- Time has passed, and grants have arrived. -/
structure Later (w w' : TokenWorld) : Prop where
  clock : w.clock ≤ w'.clock
  grants : ∀ x ∈ w.grants, x ∈ w'.grants

section

variable {w w' : TokenWorld} {q : TokenPhase} {o : TokenOp} {r : TokenResp o}

theorem Later.refl (w : TokenWorld) : Later w w := ⟨le_rfl, fun _ h => h⟩

theorem Later.tick {t : ℚ} (h : w.clock ≤ t) : Later w { w with clock := t } :=
  ⟨h, fun _ hx => hx⟩

theorem Known.later (hw : Later w w') (h : Known w q) : Known w' q := by
  have hhanded : ∀ t now, HandedOut w t now → HandedOut w' t now := by
    rintro t now ⟨g, arrived, stored, hmem, hrest⟩
    exact ⟨g, arrived, stored, hw.grants _ hmem, hrest⟩
  have harrived : ∀ g, Arrived w g → Arrived w' g := by
    rintro g ⟨arrived, hmem, hbefore⟩
    exact ⟨arrived, hw.grants _ hmem, hbefore.trans hw.clock⟩
  cases q with
  | fresh t now => exact hhanded t now h
  | handed t now => exact hhanded t now h
  | granted g => exact harrived g h
  | storing g => exact harrived g h
  | clocked g now => exact harrived g h
  | stored g => exact harrived g h
  | _ => trivial

theorem later_of_effect (h : TokenEffect w o r w') : Later w w' := by
  cases o with
  | start =>
    obtain rfl := h
    exact .refl _
  | getToken =>
    obtain ⟨-, rfl⟩ := h
    exact .refl _
  | getExpiresAt =>
    obtain ⟨-, rfl⟩ := h
    exact .refl _
  | monotonic =>
    obtain ⟨hle, rfl⟩ := h
    exact .tick hle
  | post =>
    obtain rfl := h
    exact ⟨le_rfl, fun x hx => List.mem_append_right _ hx⟩
  | setToken t =>
    obtain rfl := h
    exact ⟨le_rfl, fun _ hx => hx⟩
  | setExpiresAt t =>
    obtain rfl := h
    exact ⟨le_rfl, fun _ hx => hx⟩

theorem Paired.later (hw : Later w w') (htoken : w'.token = w.token)
    (htime : w'.expiresAt = w.expiresAt) (h : Paired w) : Paired w' := by
  intro t ht
  obtain ⟨g, arrived, stored, hmem, hg, hstored, hclock, hexpires⟩ := h t (htoken ▸ ht)
  exact ⟨g, arrived, stored, hw.grants _ hmem, hg, hstored, hclock.trans hw.clock,
    htime.trans hexpires⟩

/-- A caller that reads the expiry has the token it saw while its time has not come, and goes on
to fetch one when it has. -/
theorem running_timed {t : String} {now : ℚ} (hrunning : Running w (.timed t now)) :
    Known w (TokenPhase.next (.timed t now) .getExpiresAt w.expiresAt) ∧
      Running w (TokenPhase.next (.timed t now) .getExpiresAt w.expiresAt) := by
  obtain ⟨hpaired, ht, hclock⟩ := hrunning
  obtain ⟨g, arrived, stored, hmem, hg, hstored, hbefore, hexpires⟩ := hpaired t ht
  have hnext : TokenPhase.next (.timed t now) .getExpiresAt w.expiresAt =
      if F64.fin now < w.expiresAt then .fresh t now else .fetching := rfl
  rw [hnext]
  split
  case isTrue hfresh =>
    rw [hexpires] at hfresh
    exact ⟨⟨g, arrived, stored, hmem, hg, hstored, hclock ▸ hbefore, hfresh⟩, hpaired, ht⟩
  case isFalse => exact ⟨trivial, hpaired⟩

/-- The reply to a fetch leaves the cached token as it is, and a grant in it has arrived. -/
theorem running_fetching {r : TokenResp .post} (hpaired : Paired w)
    (he : TokenEffect w .post r w') :
    Known w' (TokenPhase.next .fetching .post r) ∧
      Running w' (TokenPhase.next .fetching .post r) := by
  have hlater := later_of_effect he
  have hworld : w' = { w with
      grants := ((grantOf r).map fun g => (g, w.clock)).toList ++ w.grants } := he
  have hpaired : Paired w' := hpaired.later hlater (by rw [hworld]) (by rw [hworld])
  have hnext : TokenPhase.next .fetching .post r = match grantOf r with
    | some g => .granted g
    | none => .failed r := rfl
  rw [hnext]
  cases hg : grantOf r with
  | none => exact ⟨trivial, hpaired⟩
  | some g =>
    refine ⟨⟨w.clock, ?_, hlater.clock⟩, hpaired⟩
    rw [hworld, hg]
    exact List.mem_cons_self

/-- Once its expiry is stored, the token of a grant has the time of that grant. -/
theorem paired_of_clocked {g : Grant} {now : ℚ} (harrived : Arrived w g)
    (hrunning : Running w (.clocked g now)) :
    Paired { w with expiresAt := F64.fin now + g.lifetime } := by
  obtain ⟨arrived, hmem, hbefore⟩ := harrived
  intro t ht
  obtain rfl : g.accessToken = t := Option.some.inj (hrunning.1.symm.trans ht)
  exact ⟨g, arrived, now, hmem, rfl, hrunning.2 ▸ hbefore, hrunning.2.ge, rfl⟩

/-- **One step of a caller**: it goes on from what is so to what is so then. -/
theorem running_next (hpermits : q.Permits o) (hknown : Known w q) (hrunning : Running w q)
    (he : TokenEffect w o r w') :
    q.Answers o r ∧ Known w' (q.next o r) ∧ Running w' (q.next o r) := by
  cases q with
  | idle =>
    cases o with
    | start =>
      obtain rfl := he
      exact ⟨trivial, trivial, hrunning⟩
    | _ => exact hpermits.elim
  | begun =>
    cases o with
    | getToken =>
      obtain ⟨rfl, rfl⟩ := he
      cases ht : w'.token with
      | none => exact ⟨trivial, trivial, hrunning⟩
      | some t => exact ⟨trivial, trivial, hrunning, ht⟩
    | _ => exact hpermits.elim
  | seen t =>
    cases o with
    | monotonic =>
      obtain ⟨hle, rfl⟩ := he
      exact ⟨trivial, trivial, hrunning.1.later (.tick hle) rfl rfl, hrunning.2, rfl⟩
    | _ => exact hpermits.elim
  | timed t now =>
    cases o with
    | getExpiresAt =>
      obtain ⟨rfl, rfl⟩ := he
      exact ⟨trivial, running_timed hrunning⟩
    | _ => exact hpermits.elim
  | fresh t now =>
    cases o with
    | getToken =>
      obtain ⟨rfl, rfl⟩ := he
      exact ⟨hrunning.2, hknown, hrunning.1⟩
    | _ => exact hpermits.elim
  | fetching =>
    cases o with
    | post => exact ⟨trivial, running_fetching hrunning he⟩
    | _ => exact hpermits.elim
  | granted g =>
    cases o with
    | setToken t =>
      obtain rfl := he
      obtain rfl := hpermits
      exact ⟨trivial, hknown, rfl⟩
    | _ => exact hpermits.elim
  | storing g =>
    cases o with
    | monotonic =>
      obtain ⟨hle, rfl⟩ := he
      exact ⟨trivial, Known.later (q := .storing g) (.tick hle) hknown, hrunning, rfl⟩
    | _ => exact hpermits.elim
  | clocked g now =>
    cases o with
    | setExpiresAt t =>
      obtain rfl := he
      obtain rfl := hpermits
      exact ⟨trivial, hknown, paired_of_clocked hknown hrunning⟩
    | _ => exact hpermits.elim
  | _ => exact hpermits.elim

end

/-- What is so throughout a run: every caller knows what it knows, and between turns the token is
with its own time. -/
def TokenInvariant {ι : Type} (w : TokenWorld) (qs : ι → TokenPhase) (turn : Option ι) : Prop :=
  (∀ i, Known w (qs i)) ∧
    match turn with
    | some i => Running w (qs i)
    | none => Paired w

section

variable {ι : Type} [DecidableEq ι] {w w' : TokenWorld} {qs : ι → TokenPhase} {i : ι}
  {o : TokenOp} {r : TokenResp o} {oidc : Bool}

theorem TokenInvariant.step (hknown : ∀ i, Known w (qs i)) (hrunning : Running w (qs i))
    (hpermits : (qs i).Permits o) (he : TokenEffect w o r w') :
    (qs i).Answers o r ∧
      TokenInvariant w' (Function.update qs i ((qs i).next o r)) (some i) := by
  obtain ⟨hanswers, hknown', hrunning'⟩ := running_next hpermits (hknown i) hrunning he
  refine ⟨hanswers, fun j => ?_, ?_⟩
  · by_cases hj : j = i
    · subst hj
      rw [Function.update_self]
      exact hknown'
    · rw [Function.update_of_ne hj]
      exact (hknown j).later (later_of_effect he)
  · dsimp only
    rw [Function.update_self]
    exact hrunning'

/-- A caller that waits or has returned has stored the time of its token. -/
theorem paired_of_yields {q : TokenPhase} (h : Running w q)
    (hyields : (∃ o, tokenMachine.awaits o = true ∧ q.Permits o) ∨ ∃ a, TokenResult oidc q a) :
    Paired w := by
  cases q with
  | seen t => exact h.1
  | timed t now => exact h.1
  | fresh t now => exact h.1
  | storing g =>
    rcases hyields with ⟨o, hawaits, hpermits⟩ | ⟨a, ha⟩
    · cases o <;> first | exact hpermits.elim | cases hawaits
    · exact ha.elim
  | clocked g now =>
    rcases hyields with ⟨o, hawaits, hpermits⟩ | ⟨a, ha⟩
    · cases o <;> first | exact hpermits.elim | cases hawaits
    · exact ha.elim
  | _ => exact h

end

section Runs

variable {ι : Type} [DecidableEq ι] {oidc : Bool}
  {l₀ l : Loop ι TokenOp TokenResp (Except AuthFailure (Option String)) TokenWorld}
  {es : List (Event ι TokenOp TokenResp ℚ)}

/-- A new token source, and its callers. -/
structure FreshSource (oidc : Bool)
    (l : Loop ι TokenOp TokenResp (Except AuthFailure (Option String)) TokenWorld) : Prop where
  token : l.world.token = none
  left : ∀ i, l.left i = caller oidc
  calls : ∀ i, l.calls i = []
  turn : l.turn = none

theorem invariant_of_run (hfresh : FreshSource oidc l₀) (h : Run (Loop.Step tokenMachine) l₀ es l) :
    Pool.Tracks (fun _ : ι => tokenProtocol) (fun _ => .idle) (fun _ => TokenResult oidc)
        l.toPool ∧
      TokenInvariant l.world (l.states (fun _ => tokenProtocol) fun _ => .idle) l.turn := by
  have hmeets : Run (Meeting (Loop.Step tokenMachine) fun _ _ => True) l₀ es l :=
    h.mono fun _ _ _ hstep => ⟨hstep, trivial⟩
  have hstates : ∀ i, l₀.states (fun _ => tokenProtocol) (fun _ => .idle) i = .idle := by
    intro i
    rw [Pool.states, hfresh.calls i]
    rfl
  refine Loop.invariant (I := TokenInvariant) ?_ ?_ ?_ ?_ hmeets ?_ ?_
  · intro l i o r w' hI hawaits hpermits _ he
    refine TokenInvariant.step hI.1 ?_ hpermits he
    -- a caller that waits has nothing half done
    have hpaired : Paired l.world := hI.2
    cases hq : l.states (fun _ => tokenProtocol) (fun _ => .idle) i with
    | idle => exact hpaired
    | fetching => exact hpaired
    | _ =>
      have hphase : TokenPhase.Permits _ o := hpermits
      rw [hq] at hphase
      cases o <;> first | exact hphase.elim | cases hawaits
  · intro l i o r w' hI _ hpermits _ he
    exact TokenInvariant.step hI.1 hI.2 hpermits he
  · intro w qs i hI hyields
    exact ⟨hI.1, paired_of_yields hI.2 hyields⟩
  · rintro l t w' hI _ ⟨hle, rfl⟩
    exact ⟨fun i => (hI.1 i).later (.tick hle), Paired.later (.tick hle) rfl rfl hI.2⟩
  · intro i
    rw [hfresh.left i, hstates i]
    exact obeys_caller
  · rw [hfresh.turn]
    refine ⟨fun i => ?_, fun t ht => ?_⟩
    · rw [hstates i]
      trivial
    · rw [hfresh.token] at ht
      cases ht

end Runs

/-! ## What callers are given -/

/-- What the calls of a caller show of how far it is. -/
def Recorded (cs : List (Call TokenOp TokenResp)) : TokenPhase → Prop
  | .timed _ now | .fresh _ now | .handed _ now => ⟨.monotonic, now⟩ ∈ cs
  | .granted g | .storing g | .clocked g _ | .stored g =>
    ∃ reply, ⟨.post, reply⟩ ∈ cs ∧ grantOf reply = some g
  | .failed reply => ⟨.post, reply⟩ ∈ cs ∧ grantOf reply = none
  | _ => True

section

variable {cs : List (Call TokenOp TokenResp)} {q : TokenPhase} {g : Grant}

theorem Recorded.append (h : Recorded cs q) (c : Call TokenOp TokenResp) :
    Recorded (cs ++ [c]) q := by
  have hmem : ∀ d, d ∈ cs → d ∈ cs ++ [c] := fun _ hd => List.mem_append_left _ hd
  have hgranted : ∀ g, (∃ reply, ⟨.post, reply⟩ ∈ cs ∧ grantOf reply = some g) →
      ∃ reply, ⟨.post, reply⟩ ∈ cs ++ [c] ∧ grantOf reply = some g := by
    rintro g ⟨reply, hreply, hg⟩
    exact ⟨reply, hmem _ hreply, hg⟩
  cases q with
  | timed t now => exact hmem _ h
  | fresh t now => exact hmem _ h
  | handed t now => exact hmem _ h
  | failed reply => exact ⟨hmem _ h.1, h.2⟩
  | granted g => exact hgranted g h
  | storing g => exact hgranted g h
  | clocked g now => exact hgranted g h
  | stored g => exact hgranted g h
  | _ => trivial

theorem Recorded.next (h : Recorded cs q) (c : Call TokenOp TokenResp) :
    Recorded (cs ++ [c]) (q.next c.op c.resp) := by
  have hsame := h.append c
  have hlast : c ∈ cs ++ [c] := List.mem_append_right _ List.mem_cons_self
  obtain ⟨o, r⟩ := c
  cases q with
  | begun =>
    cases o with
    | getToken => cases r <;> trivial
    | _ => trivial
  | seen t =>
    cases o with
    | monotonic => exact hlast
    | _ => trivial
  | timed t now =>
    cases o with
    | getExpiresAt =>
      have hnext : TokenPhase.next (.timed t now) .getExpiresAt r =
          if F64.fin now < r then .fresh t now else .fetching := rfl
      dsimp only
      rw [hnext]
      split
      · exact hsame
      · trivial
    | _ => exact hsame
  | fetching =>
    cases o with
    | post =>
      have hnext : TokenPhase.next .fetching .post r = match grantOf r with
        | some g => .granted g
        | none => .failed r := rfl
      dsimp only
      rw [hnext]
      cases hg : grantOf r with
      | none => exact ⟨hlast, hg⟩
      | some g => exact ⟨r, hlast, hg⟩
    | _ => trivial
  | _ => cases o <;> exact hsame

theorem recorded_after (cs : List (Call TokenOp TokenResp)) :
    Recorded cs (tokenProtocol.after .idle cs) := by
  induction cs using List.reverseRecOn with
  | nil => trivial
  | append_singleton cs c ih =>
    rw [Protocol.after_append]
    exact ih.next c

/-- A time that has not come leaves more than the margin of a grant. -/
theorem lt_expiresIn {stored now : ℚ} (hle : stored ≤ now)
    (h : F64.fin now < F64.fin stored + g.lifetime) :
    F64.fin (now - stored + 30) < g.expiresIn := by
  have hmargin : expiryMarginSeconds = .fin 30 := F64.ofNat_lit 30
  have hzero : ¬ F64.fin now < F64.fin stored + 0 := by
    rw [F64.zero_eq, F64.fin_add_fin, F64.fin_lt_fin]
    linarith
  rw [Grant.lifetime, pyMax, hmargin] at h
  split at h
  · exact absurd h hzero
  · rename_i hpositive
    cases hexpires : g.expiresIn with
    | nan =>
      rw [hexpires, F64.nan_sub, F64.add_nan] at h
      exact absurd h (F64.not_lt_nan _)
    | negInf =>
      rw [hexpires, F64.negInf_sub_fin, F64.zero_eq] at hpositive
      exact absurd (F64.negInf_lt_fin 0) hpositive
    | fin e =>
      rw [hexpires, F64.fin_sub_fin, F64.fin_add_fin, F64.fin_lt_fin] at h
      rw [F64.fin_lt_fin]
      linarith
    | posInf => exact F64.fin_lt_posInf _

end

section Results

variable {ι : Type} [DecidableEq ι] {oidc : Bool}
  {l₀ l : Loop ι TokenOp TokenResp (Except AuthFailure (Option String)) TokenWorld}
  {es : List (Event ι TokenOp TokenResp ℚ)} {i : ι}

/-- **A token from the cache is used well before it expires**, whatever callers run in between. A
caller gets the token of a grant that it has fetched itself, or one from the cache: then the
token is that of a grant which had arrived, and when the caller read the clock, the lifetime of
the grant, counted from when its time was stored, had more than the margin left. A caller gets no
token only where none is used, and an error only where its own request was not granted. -/
theorem tokens_of_run (hfresh : FreshSource oidc l₀) (h : Run (Loop.Step tokenMachine) l₀ es l) :
    (∀ t, l.left i = .ret (.ok (some t)) →
      (∃ g reply, ⟨.post, reply⟩ ∈ l.calls i ∧ grantOf reply = some g ∧ g.accessToken = t) ∨
      ∃ g arrived stored now, (g, arrived) ∈ l.world.grants ∧ g.accessToken = t ∧
        arrived ≤ stored ∧ stored ≤ now ∧ ⟨.monotonic, now⟩ ∈ l.calls i ∧
        F64.fin (now - stored + 30) < g.expiresIn) ∧
    (l.left i = .ret (.ok none) → oidc = false) ∧
    ∀ e, l.left i = .ret (.error e) →
      ∃ reply, ⟨.post, reply⟩ ∈ l.calls i ∧ grantOf reply = none := by
  obtain ⟨htracks, hinvariant⟩ := invariant_of_run hfresh h
  have hknown := hinvariant.1 i
  have hrecorded := recorded_after (l.calls i)
  have hobeys := htracks i
  change Known l.world (tokenProtocol.after .idle (l.calls i)) at hknown
  change Obeys tokenProtocol (l.left i) (tokenProtocol.after .idle (l.calls i)) _ at hobeys
  generalize tokenProtocol.after .idle (l.calls i) = q at hknown hrecorded hobeys
  refine ⟨fun t ht => ?_, fun hnone => ?_, fun e he => ?_⟩
  · rw [ht] at hobeys
    cases q with
    | begun => cases hobeys.2
    | handed t' now =>
      obtain rfl : t = t' := Option.some.inj (Except.ok.inj hobeys)
      obtain ⟨g, arrived, stored, hmem, hg, hstored, hnow, hlt⟩ := hknown
      exact .inr ⟨g, arrived, stored, now, hmem, hg, hstored, hnow, hrecorded,
        lt_expiresIn hnow hlt⟩
    | failed reply =>
      obtain ⟨e, he⟩ := hobeys
      cases he
    | stored g =>
      obtain rfl : t = g.accessToken := Option.some.inj (Except.ok.inj hobeys)
      obtain ⟨reply, hreply, hg⟩ := hrecorded
      exact .inl ⟨g, reply, hreply, hg, rfl⟩
    | _ => exact hobeys.elim
  · rw [hnone] at hobeys
    cases q with
    | begun => exact hobeys.1
    | handed t' now => cases hobeys
    | failed reply =>
      obtain ⟨e, he⟩ := hobeys
      cases he
    | stored g => cases hobeys
    | _ => exact hobeys.elim
  · rw [he] at hobeys
    cases q with
    | begun => cases hobeys.2
    | handed t' now => cases hobeys
    | failed reply => exact ⟨reply, hrecorded⟩
    | stored g => cases hobeys
    | _ => exact hobeys.elim

end Results

/-! ## Two callers -/

namespace Bench

/-- A token endpoint that grants a token for five minutes. -/
def servedTokens : Loop.Served TokenOp TokenResp TokenWorld ℚ where
  awaits := tokenMachine.awaits
  serve w o := match o with
    | .start => some ((), w)
    | .getToken => some (w.token, w)
    | .getExpiresAt => some (w.expiresAt, w)
    | .monotonic => some (w.clock, w)
    | .post => some (.ok ⟨200, .grant ⟨"tok-1", 300⟩⟩,
        { w with grants := (⟨"tok-1", 300⟩, w.clock) :: w.grants })
    | .setToken t => some ((), { w with token := some t })
    | .setExpiresAt t => some ((), { w with expiresAt := t })
  outside w t := if w.clock ≤ t then some { w with clock := t } else none

theorem allows_servedTokens : Loop.Allows tokenMachine servedTokens where
  awaits := rfl
  serve w o r w' h := by
    cases o with
    | post =>
      cases h
      rfl
    | monotonic =>
      cases h
      exact ⟨le_rfl, rfl⟩
    | getToken =>
      cases h
      exact ⟨rfl, rfl⟩
    | getExpiresAt =>
      cases h
      exact ⟨rfl, rfl⟩
    | _ =>
      cases h
      rfl
  outside w t w' h := by
    dsimp only [servedTokens] at h
    split at h
    · cases h
      exact ⟨‹_›, rfl⟩
    · cases h

def twoCallers :
    Loop (Fin 2) TokenOp TokenResp (Except AuthFailure (Option String)) TokenWorld where
  world := { clock := 100 }
  left _ := caller true

/-- The second caller asks four minutes after the first. -/
def fourMinutes : List (Loop.Move (Fin 2) ℚ) :=
  List.replicate 8 (.task 0) ++ [.outside 340] ++ List.replicate 6 (.task 1)

/-- The token that a caller has been given. -/
def given (p : Prog TokenOp TokenResp (Except AuthFailure (Option String))) : Option String :=
  match p.returned? with
  | some (.ok t) => t
  | _ => none

theorem eq_of_given {p : Prog TokenOp TokenResp (Except AuthFailure (Option String))} {t : String}
    (h : given p = some t) : p = .ret (.ok (some t)) := by
  cases p with
  | ret a =>
    cases a with
    | error e => cases h
    | ok a =>
      obtain rfl : a = some t := h
      rfl
  | op o k => cases h

theorem freshSource_twoCallers : FreshSource true twoCallers :=
  ⟨rfl, fun _ => rfl, fun _ => rfl, rfl⟩

end Bench

theorem tokens_of_run_fourMinutes : ∃ es l, Run (Loop.Step tokenMachine) Bench.twoCallers es l ∧
    l.left 1 = .ret (.ok (some "tok-1")) ∧
    ((∃ g reply, ⟨.post, reply⟩ ∈ l.calls 1 ∧ grantOf reply = some g ∧ g.accessToken = "tok-1") ∨
      ∃ g arrived stored now, (g, arrived) ∈ l.world.grants ∧ g.accessToken = "tok-1" ∧
        arrived ≤ stored ∧ stored ≤ now ∧ ⟨.monotonic, now⟩ ∈ l.calls 1 ∧
        F64.fin (now - stored + 30) < g.expiresIn) := by
  have hschedule : ((Loop.schedule Bench.servedTokens (fun _ _ => true) Bench.fourMinutes
      Bench.twoCallers).map fun x => Bench.given (x.2.left 1)) = some (some "tok-1") := by
    decide +kernel
  obtain ⟨⟨es, l⟩, hrun, hgiven⟩ := Option.map_eq_some_iff.1 hschedule
  have h := (Loop.run_of_schedule Bench.allows_servedTokens hrun).mono fun _ _ _ h => h.1
  have hleft := Bench.eq_of_given hgiven
  exact ⟨es, l, h, hleft, (tokens_of_run Bench.freshSource_twoCallers h).1 "tok-1" hleft⟩

end Greenhouse.Optimizer
