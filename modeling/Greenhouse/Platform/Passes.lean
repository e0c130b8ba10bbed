import Greenhouse.Platform.Delivery

/-!
# What a pass does

`Passed` lists everything a reconciliation pass can do to a greenhouse while the writes of
the store succeed, `Worked` what it does about the current revision of a reachable one.

* `pass_ensures`: a pass does one of these.
* `Pass.worked`: when everything works, it does what `Worked` says.
* `FleetPass.pass`: a pass over the fleet makes one pass over each greenhouse.
-/

namespace Greenhouse.Platform

open Greenhouse.Process Prog Reconciler

/-- What a pass does about the current revision `c` of a reachable greenhouse, exchanging `t`
with its controller. -/
inductive Worked (maxRetries : Nat) (s : Store) (c : SetpointRevision) (t : List Exchange) :
    Store → Prop
  | backedOff : s.row.lastDeliveredRevision ≠ some c.revision →
      maxRetries ≤ s.row.failCount → t = [] → Worked maxRetries s c t s
  | reasserted {out : Except String Response} :
      s.row.lastDeliveredRevision ≠ some c.revision → s.row.failCount < maxRetries →
      Delivery (requests c.setpoints) t out →
      Worked maxRetries s c t (s.write (reasserted s.row c.revision (accepted out)))
  | unread {e : String} : s.row.lastDeliveredRevision = some c.revision →
      Report t (.error e) → Worked maxRetries s c t s
  | synced {shown : Setpoints} : s.row.lastDeliveredRevision = some c.revision →
      Report t (.ok shown) → c.setpoints.reconciled shown →
      Worked maxRetries s c t (s.write (synced s.row))
  | corrected {shown : Setpoints} {reads sent : List Exchange} {out : Except String Response} :
      s.row.lastDeliveredRevision = some c.revision → t = reads ++ sent →
      Report reads (.ok shown) → c.setpoints.reconciled shown = false →
      s.row.failCount < maxRetries → Delivery (requests c.setpoints) sent out →
      Worked maxRetries s c t
        (s.write { s.row with drift := true, failCount := s.row.failCount + 1 })
  | exhausted {shown : Setpoints} : s.row.lastDeliveredRevision = some c.revision →
      Report t (.ok shown) → c.setpoints.reconciled shown = false →
      maxRetries ≤ s.row.failCount → Worked maxRetries s c t (s.write { s.row with drift := true })

/-- What a pass that made the calls `cs` does to the tables. -/
inductive Passed (maxRetries : Nat) (s : Store) (cs : List (Call Op Resp)) : Store → Prop
  /-- Something did not work, or the greenhouse is offline and held already. -/
  | stopped {c : Call Op Resp} : c ∈ cs → ¬ Works c.op c.resp → traffic cs = [] →
      Passed maxRetries s cs s
  | deferred {c : Call Op Resp} : c ∈ cs → ¬ Works c.op c.resp → traffic cs = [] →
      Passed maxRetries s cs (s.write { s.row with deliveryStatus := .deferred })
  | idle : s.ledger.current = none → traffic cs = [] → Passed maxRetries s cs s
  | worked {c : SetpointRevision} {s' : Store} : s.ledger.current = some c →
      Worked maxRetries s c (traffic cs) s' → Passed maxRetries s cs s'

/-- Calls that exchange nothing with the controller do not matter. -/
theorem Passed.of_subset {maxRetries : Nat} {s s' : Store} {cs ds : List (Call Op Resp)}
    (h : Passed maxRetries s cs s') (hsub : cs ⊆ ds) (ht : traffic ds = traffic cs) :
    Passed maxRetries s ds s' := by
  cases h with
  | stopped hc hw h => exact .stopped (hsub hc) hw (ht.trans h)
  | deferred hc hw h => exact .deferred (hsub hc) hw (ht.trans h)
  | idle hc h => exact .idle hc (ht.trans h)
  | worked hc h => exact .worked hc (ht ▸ h)

section

variable {C : Type} {A : (o : Op) → Resp o → Prop} {D : Device C} {w : World C} {maxRetries : Nat}

theorem upsert_ensures (hA : ∀ ρ r, A (.upsertReconState ρ) r → r = .ok ()) (ρ : ReconState) :
    Ensures (hosting A D) (upsert ρ) w fun cs out w' =>
      out = .ok () ∧ traffic cs = [] ∧ w'.store = w.store.write ρ := by
  simp only [upsert, ensures_call]
  rintro r w' ⟨hr, _, hstore, _⟩
  obtain rfl := hA ρ r hr
  exact ⟨rfl, rfl, hstore⟩

theorem broadcastWhen_ensures (cond drift : Bool) :
    Ensures (hosting A D) (broadcastWhen cond drift) w fun cs _ w' =>
      traffic cs = [] ∧ w'.store = w.store := by
  unfold broadcastWhen
  split
  · simp only [ensures_call]
    rintro r w' ⟨_, _, hstore, _⟩
    exact ⟨rfl, hstore⟩
  · exact ensures_pure.2 ⟨rfl, rfl⟩

theorem recordDrift_ensures (hA : ∀ ρ r, A (.upsertReconState ρ) r → r = .ok ())
    (newly : Bool) (ρ : ReconState) :
    Ensures (hosting A D) (recordDrift newly ρ) w fun cs _ w' =>
      traffic cs = [] ∧ w'.store = w.store.write ρ := by
  simp only [recordDrift, ensures_bind]
  refine (upsert_ensures hA ρ).mono ?_
  rintro cs _ w₁ ⟨rfl, htraffic, hstore⟩
  simp only [ensures_bind, ensures_pure]
  refine (broadcastWhen_ensures newly true).mono ?_
  rintro ds _ w₂ ⟨htraffic', hstore'⟩
  exact ⟨by simp [htraffic, htraffic'], hstore'.trans hstore⟩

theorem markSynced_ensures (hA : ∀ ρ r, A (.upsertReconState ρ) r → r = .ok ())
    {ρ : ReconState} (hρ : ρ = w.store.row) (hdelivered : ρ.lastDeliveredRevision ≠ none) :
    Ensures (hosting A D) (markSynced ρ) w fun cs _ w' =>
      traffic cs = [] ∧ w'.store = w.store.write (synced ρ) := by
  unfold markSynced
  split
  · rename_i hsame
    rw [hsame, hρ, Store.write_row (hρ ▸ hdelivered)]
    exact ensures_pure.2 ⟨rfl, rfl⟩
  · simp only [ensures_bind]
    refine (upsert_ensures hA _).mono ?_
    rintro cs _ w₁ ⟨rfl, htraffic, hstore⟩
    simp only [ensures_bind, ensures_pure]
    refine (broadcastWhen_ensures _ false).mono ?_
    rintro ds _ w₂ ⟨htraffic', hstore'⟩
    exact ⟨by simp [htraffic, htraffic'], hstore'.trans hstore⟩

theorem reassert_ensures (hA : ∀ ρ r, A (.upsertReconState ρ) r → r = .ok ())
    (e : Endpoint) {c : SetpointRevision}
    (hheld : w.store.row.lastDeliveredRevision ≠ some c.revision) :
    Ensures (hosting A D) (reassert maxRetries e c w.store.row) w fun cs _ w' =>
      Worked maxRetries w.store c (traffic cs) w'.store := by
  unfold reassert
  split
  · rename_i hback
    exact ensures_pure.2 (.backedOff hheld hback rfl)
  · rename_i hleft
    simp only [ensures_bind]
    refine (deliver_ensures e c.setpoints w).mono ?_
    rintro cs out w₁ ⟨hstore, hdelivery⟩
    refine (upsert_ensures hA _).mono ?_
    rintro ds _ w₂ ⟨-, htraffic, hstore'⟩
    rw [hstore', hstore]
    exact .reasserted hheld (not_le.1 hleft) (by simpa [htraffic] using hdelivery)

theorem checkDrift_ensures (hA : ∀ ρ r, A (.upsertReconState ρ) r → r = .ok ())
    (e : Endpoint) {c : SetpointRevision}
    (hdel : w.store.row.lastDeliveredRevision = some c.revision) :
    Ensures (hosting A D) (checkDrift maxRetries e c w.store.row) w fun cs _ w' =>
      Worked maxRetries w.store c (traffic cs) w'.store := by
  simp only [checkDrift, ensures_bind]
  refine (reported_ensures e w).mono ?_
  rintro cs (err | shown) w₁ ⟨hstore, hreport⟩
  · refine ensures_pure.2 ?_
    rw [hstore, List.append_nil]
    exact .unread hdel hreport
  dsimp only
  split
  · rename_i hmatch
    refine (markSynced_ensures hA (by rw [hstore]) (by simp [hdel])).mono ?_
    rintro ds _ w₂ ⟨htraffic, hstore'⟩
    rw [hstore', hstore]
    exact .synced hdel (by simpa [htraffic] using hreport) hmatch
  rename_i hmatch
  rw [Bool.not_eq_true] at hmatch
  unfold handleDrift
  split
  · rename_i hleft
    simp only [ensures_bind]
    refine (deliver_ensures e c.setpoints w₁).mono ?_
    rintro ds out w₂ ⟨hstore', hdelivery⟩
    refine (recordDrift_ensures hA _ _).mono ?_
    rintro es _ w₃ ⟨htraffic, hstore''⟩
    rw [hstore'', hstore', hstore]
    exact .corrected hdel (by simp [htraffic]) hreport hmatch hleft hdelivery
  · rename_i hback
    refine (recordDrift_ensures hA _ _).mono ?_
    rintro ds _ w₂ ⟨htraffic, hstore'⟩
    rw [hstore', hstore]
    exact .exhausted hdel (by simpa [htraffic] using hreport) hmatch (not_lt.1 hback)

theorem reachable_ensures (w : World C) :
    Ensures (hosting A D) reachable w fun cs out w' =>
      traffic cs = [] ∧ w'.store = w.store ∧ (out = false → ∃ c ∈ cs, ¬ Works c.op c.resp) := by
  simp only [reachable, ensures_bind, ensures_call, ensures_pure]
  rintro live w₁ ⟨_, _, hstore, _⟩
  refine ⟨rfl, hstore, fun hout => ⟨_, List.mem_cons_self, ?_⟩⟩
  rintro ⟨l, rfl, hne⟩
  simp [isReachable, hne] at hout

/-- **What a pass does.** -/
theorem pass_ensures (hA : ∀ ρ r, A (.upsertReconState ρ) r → r = .ok ()) (w : World C) :
    Ensures (hosting A D) (reconcileGreenhouse maxRetries) w fun cs _ w' =>
      Passed maxRetries w.store cs w'.store := by
  simp only [reconcileGreenhouse, ensures_bind, ensures_call]
  rintro (err | current) w₁ ⟨_, htrue, hstore₁, _⟩
  · refine ensures_pure.2 ?_
    rw [hstore₁]
    exact .stopped List.mem_cons_self (not_exists.2 fun _ h => absurd h error_ne_ok) rfl
  obtain rfl : current = w.store.ledger.current := htrue
  replace hstore₁ : w₁.store = w.store := hstore₁
  cases hcurrent : w.store.ledger.current with
  | none =>
    refine ensures_pure.2 ?_
    rw [hstore₁]
    exact .idle hcurrent rfl
  | some c =>
    simp only [ensures_bind, ensures_call]
    rintro (err | found) w₂ ⟨_, htrue, hstore₂, _⟩
    · refine ensures_pure.2 ?_
      rw [show w₂.store = w.store from hstore₂.trans hstore₁]
      exact .stopped (List.mem_append_right _ List.mem_cons_self)
        (not_exists.2 fun _ h => absurd h error_ne_ok) rfl
    obtain rfl : found = w.store.recon := by rw [← hstore₁]; exact htrue
    replace hstore₂ : w₂.store = w.store := hstore₂.trans hstore₁
    simp only [ensures_bind, ensures_call]
    rintro (err | _ | e) w₃ ⟨_, _, hstore₃, _⟩ <;>
      replace hstore₃ : w₃.store = w.store := hstore₃.trans hstore₂
    · refine ensures_pure.2 ?_
      rw [hstore₃]
      exact .stopped (List.mem_append_right _ (List.mem_append_right _ List.mem_cons_self))
        (not_exists.2 fun _ h => absurd h error_ne_ok) rfl
    · refine ensures_pure.2 ?_
      rw [hstore₃]
      exact .stopped (List.mem_append_right _ (List.mem_append_right _ List.mem_cons_self))
        (not_exists.2 fun _ h => Option.some_ne_none _ (Except.ok.inj h).symm) rfl
    simp only [ensures_bind]
    refine (reachable_ensures w₃).mono ?_
    rintro rs reach w₄ ⟨htraffic, hstore₄, hreach⟩
    replace hstore₄ : w₄.store = w.store := hstore₄.trans hstore₃
    have hrow : w.store.recon.getD {} = w₄.store.row := by rw [hstore₄, Store.row]
    have hpass : ∀ ds s, Passed maxRetries w₄.store (rs ++ ds) s →
        Passed maxRetries w.store ([⟨Op.currentRevision, .ok (some c)⟩] ++
          ([⟨Op.getReconState, .ok w.store.recon⟩] ++
            ([⟨Op.getEndpoint, .ok (some e)⟩] ++ (rs ++ ds)))) s := by
      intro ds s h
      rw [hstore₄] at h
      exact h.of_subset (fun x hx => by simp at hx ⊢; tauto) (by simp)
    rw [hrow]
    cases reach with
    | false =>
      obtain ⟨x, hx, hworks⟩ := hreach rfl
      simp only [Bool.false_eq_true, if_false, defer]
      split
      · refine (upsert_ensures hA _).mono ?_
        rintro ds _ w₅ ⟨-, htraffic', hstore₅⟩
        rw [hstore₅]
        exact hpass ds _ (.deferred (List.mem_append_left _ hx) hworks
          (by simp [htraffic, htraffic']))
      · exact ensures_pure.2 (hpass [] _ (.stopped (List.mem_append_left _ hx) hworks
          (by simp [htraffic])))
    | true =>
      have hskip : ∀ ds s, Passed maxRetries w₄.store ds s →
          Passed maxRetries w₄.store (rs ++ ds) s := fun ds s h =>
        h.of_subset (List.subset_append_right _ _) (by simp [htraffic])
      have hcurrent' : w₄.store.ledger.current = some c := hstore₄ ▸ hcurrent
      simp only [if_true]
      split
      · rename_i hdelivered
        refine (checkDrift_ensures hA e hdelivered).mono ?_
        exact fun ds _ w₅ h => hpass ds _ (hskip ds _ (.worked hcurrent' h))
      · rename_i hheld
        refine (reassert_ensures hA e hheld).mono ?_
        exact fun ds _ w₅ h => hpass ds _ (hskip ds _ (.worked hcurrent' h))

end

/-- A pass over a greenhouse, with its calls. -/
def Pass {σ : Type} (env : Env Op Resp σ) (maxRetries : Nat) (w : σ)
    (cs : List (Call Op Resp)) (w' : σ) : Prop :=
  ∃ a, Exec env (reconcileGreenhouse maxRetries) w cs a w'

/-- What a pass over a working, reachable greenhouse does about its current revision. -/
theorem Pass.worked {C : Type} {D : Device C} {maxRetries : Nat} {w w' : World C}
    {cs : List (Call Op Resp)} {c : SetpointRevision}
    (h : Pass (hosting Works D) maxRetries w cs w') (hc : w.store.ledger.current = some c) :
    Worked maxRetries w.store c (traffic cs) w'.store ∧
      Run D.Step w.device (traffic cs) w'.device := by
  obtain ⟨a, h⟩ := h
  have hworks := answers_of_exec h
  refine ⟨?_, traffic_of_exec h⟩
  have hcases : Passed maxRetries w.store cs w'.store :=
    pass_ensures (fun _ _ hr => hr) w cs a w' h
  generalize w'.store = s' at hcases ⊢
  cases hcases with
  | stopped hmem hnot _ => exact absurd (hworks _ hmem) hnot
  | deferred hmem hnot _ => exact absurd (hworks _ hmem) hnot
  | idle hnone _ => rw [hnone] at hc; cases hc
  | worked hc' h => exact Option.some.inj (hc'.symm.trans hc) ▸ h

/-- A pass over the fleet, with its calls. -/
def FleetPass {σ : Type} (E : String → Env Op Resp σ) (maxRetries : Nat) (F : Family String σ)
    (cs : List (Call (FamilyOp String Op) (FamilyResp String Resp))) (F' : Family String σ) :
    Prop :=
  Exec (family E) (reconcileOnce maxRetries) F cs () F'

section Fleet

variable {σ : Type} {E : String → Env Op Resp σ} {maxRetries : Nat} {F F' : Family String σ}

/-- **One pass over the fleet makes one pass over each of its greenhouses.** -/
theorem FleetPass.pass {cs : List (Call (FamilyOp String Op) (FamilyResp String Resp))}
    (h : FleetPass E maxRetries F cs F') :
    F'.keys = F.keys ∧ ∀ id ∈ F.keys,
      Pass (E id) maxRetries (F.member id) (callsOn id cs) (F'.member id) := by
  have hensures : Ensures (family E) (reconcileOnce maxRetries) F fun cs _ F' =>
      F'.keys = F.keys ∧ ∀ id ∈ F.keys,
        Pass (E id) maxRetries (F.member id) (callsOn id cs) (F'.member id) := by
    simp only [reconcileOnce, ensures_bind]
    refine (keys_ensures F).mono ?_
    rintro _ _ F₁ ⟨rfl, rfl, hF⟩
    rw [hF]
    exact (visit_ensures F.nodup F).mono fun _ _ F' h => ⟨h.1, h.2.1⟩
  exact hensures cs () F' h

/-- The passes over the fleet that meet a condition on a greenhouse make as many passes over
it that meet the condition. -/
theorem meeting_of_fleet {css : List (List (Call (FamilyOp String Op) (FamilyResp String Resp)))}
    {id : String} {P : σ → List (Call Op Resp) → Prop}
    (h : Run (Meeting (FleetPass E maxRetries) fun F cs => P (F.member id) (callsOn id cs))
      F css F') (hid : id ∈ F.keys) :
    Run (Meeting (Pass (E id) maxRetries) P) (F.member id) (css.map (callsOn id))
      (F'.member id) := by
  induction h with
  | nil => exact .nil _
  | cons hone _ ih =>
    obtain ⟨hkeys, hpass⟩ := hone.1.pass
    exact .cons ⟨hpass id hid, hone.2⟩ (ih (hkeys ▸ hid))

/-- The passes over the fleet make as many passes over each of its greenhouses. -/
theorem runs_of_fleet {css : List (List (Call (FamilyOp String Op) (FamilyResp String Resp)))}
    {id : String} (h : Run (FleetPass E maxRetries) F css F') (hid : id ∈ F.keys) :
    Run (Pass (E id) maxRetries) (F.member id) (css.map (callsOn id)) (F'.member id) :=
  (meeting_of_fleet (P := fun _ _ => True) (h.mono fun _ _ _ hone => ⟨hone, trivial⟩) hid).mono
    fun _ _ _ hone => hone.1

end Fleet

end Greenhouse.Platform
