import Ansible.Issuer.Governance
import Ansible.Issuer.MemoryStore
import Ansible.Lib.Run
import Mathlib.Data.Int.Order.Basic
import Mathlib.Data.List.Induction

/-!
# The lifecycle of a delegation

A delegation is proposed, approved by administrators one by one, activated once a
threshold of them has approved it, and revoked or superseded by the next one.
A delegation of a tenant is known by its sequence number, which no later one
repeats; an id may be proposed again.

## Main definitions

* `Action`, `perform`, `step` — the operations of a run.
* `Governed` — what a run of the operations promises.

## Main results

* `delegation_lifecycle` — **proper runs keep the whole promise**.
* `sequence_identifies` — **a sequence number names one document**.
-/

namespace Ansible.Hosted

namespace Lifecycle

/-! ### Runs -/

/-- An operation on the store. -/
inductive Action where
  | bootstrapTenant (tenant : Tenant) (owner : Administrator)
  | createTenant (tenant : Tenant)
  | putAdministrator (tenantID : String) (administrator : Administrator)
  | propose (tenantID : String) (delegation : Delegation)
  | approve (tenantID delegationID adminDID : String) (payload signature : Binary)
  | activate (tenantID delegationID : String) (now : Time)
  | revoke (tenantID delegationID : String) (now : Time)

variable (C : Crypto)

/-- What an operation answers, and the store after it. -/
def perform (s : MemoryStore) : Action → Out MemoryStore Unit
  | .bootstrapTenant tenant owner => s.bootstrapTenant tenant owner
  | .createTenant tenant => s.createTenant tenant
  | .putAdministrator tenantID administrator => s.putAdministrator tenantID administrator
  | .propose tenantID delegation => s.proposeDelegation tenantID delegation
  | .approve tenantID delegationID adminDID payload signature =>
      Governance.approveDelegation C MemoryStore.ops tenantID delegationID adminDID payload
        signature s
  | .activate tenantID delegationID now => s.activateDelegation tenantID delegationID now
  | .revoke tenantID delegationID now => s.revokeDelegation tenantID delegationID now

def step (s : MemoryStore) (a : Action) : MemoryStore := (perform C s a).2

/-- The delegation of a tenant under an id. -/
def delegationOf (s : MemoryStore) (tenantID id : String) : Option Delegation :=
  (s.delegations tenantID).lookup id

/-- The delegation can be activated: enough administrators approved it, in its time. -/
def Ready (tenant : Tenant) (d : Delegation) (now : Time) : Prop :=
  tenant.threshold ≤ d.approvals.keys.length ∧ d.notBefore ≤ now ∧ now < d.expiresAt

/-- The delegation was revoked or superseded. -/
def Retired (d : Delegation) : Prop := d.state = "revoked" ∨ d.state = "superseded"

/-- **A retired delegation is not activated, and an approval presents the delegation's own
document.** -/
def Proper (s : MemoryStore) : Action → Prop
  | .activate tenantID id now => ∀ tenant d, s.tenants tenantID = some tenant →
      delegationOf s tenantID id = some d → Ready tenant d now → ¬ Retired d
  | .approve tenantID id adminDID payload signature => ∀ d admin,
      delegationOf s tenantID id = some d →
      activeAdministrator (s.admins tenantID).values adminDID = some admin →
      verifyAdministratorSignature C admin payload signature = .ok () → payload = d.canonicalJSON
  | _ => True

/-! ### What an operation does -/

/-- What an operation does to the delegations of a tenant. -/
inductive Effect (s : MemoryStore) (a : Action) (tenantID : String) (m : Assoc String Delegation) :
    Prop where
  | same (h : m = s.delegations tenantID)
  | proposed (d : Delegation) (ha : a = .propose tenantID d)
      (hseq : ∀ x ∈ (s.delegations tenantID).values, x.sequence < d.sequence)
      (h : m = (s.delegations tenantID).insert d.id
        { d with tenantID := tenantID, state := "proposed", approvals := ∅ })
  | approved (id adminDID : String) (payload signature : Binary) (d : Delegation)
      (admin : Administrator) (ha : a = .approve tenantID id adminDID payload signature)
      (hd : delegationOf s tenantID id = some d)
      (hadmin : activeAdministrator (s.admins tenantID).values adminDID = some admin)
      (hverify : verifyAdministratorSignature C admin payload signature = .ok ())
      (hok : perform C s a = (.ok (), step C s a))
      (h : m = (s.delegations tenantID).insert id
        { d with approvals := d.approvals.insert adminDID signature })
  | activated (id : String) (now : Time) (tenant : Tenant) (d : Delegation)
      (ha : a = .activate tenantID id now) (htenant : s.tenants tenantID = some tenant)
      (hd : delegationOf s tenantID id = some d) (hready : Ready tenant d now)
      (h : m = ((s.delegations tenantID).mapValues fun _ x => MemoryStore.superseded x).insert id
        { d with state := "active" })
  | revoked (id : String) (now : Time) (d : Delegation) (ha : a = .revoke tenantID id now)
      (hd : delegationOf s tenantID id = some d)
      (h : m = (s.delegations tenantID).insert id { d with state := "revoked" })

theorem delegations_putDelegation_of_ne {s : MemoryStore} {tid tid' id : String} {d : Delegation}
    (h : tid' ≠ tid) : (s.putDelegation tid id d).delegations tid' = s.delegations tid' :=
  Function.update_of_ne h ..

@[simp] theorem delegations_putDelegation {s : MemoryStore} {tid id : String} {d : Delegation} :
    (s.putDelegation tid id d).delegations tid = (s.delegations tid).insert id d :=
  Function.update_self ..

theorem administrators_eq_ok {s : MemoryStore} {tid : String} {admins : List Administrator}
    (h : MemoryStore.ops.administrators tid s = .ok admins) : admins = (s.admins tid).values := by
  simp only [MemoryStore.ops, MemoryStore.administrators] at h
  split at h
  · exact (Except.ok.inj h).symm
  · cases h

/-- **What one operation does**, for each tenant. -/
theorem effect (s : MemoryStore) (a : Action) (tid : String) :
    Effect C s a tid ((step C s a).delegations tid) := by
  cases a with
  | bootstrapTenant tenant owner =>
    refine .same ?_
    simp only [step, perform, MemoryStore.bootstrapTenant]
    split
    · rfl
    · split <;> rfl
  | createTenant tenant =>
    refine .same ?_
    simp only [step, perform, MemoryStore.createTenant]
    split
    · rfl
    · split <;> rfl
  | putAdministrator tenantID administrator =>
    refine .same ?_
    simp only [step, perform, MemoryStore.putAdministrator]
    split
    · rfl
    · split
      · rfl
      · split <;> rfl
  | propose tenantID d =>
    simp only [step, perform, MemoryStore.proposeDelegation]
    -- each refusal leaves the store as it is
    iterate 4
      split
      · exact .same rfl
    · rename_i hseq
      by_cases htid : tid = tenantID
      · subst htid
        refine .proposed d rfl ?_ delegations_putDelegation
        intro x hx
        simp only [List.any_eq_true, not_exists, not_and, decide_eq_true_eq] at hseq
        have := hseq x hx
        omega
      · exact .same (delegations_putDelegation_of_ne htid)
  | approve tenantID id adminDID payload signature =>
    rcases Governance.approveDelegation_cases C MemoryStore.ops tenantID id adminDID payload
        signature s with hsame | ⟨admins, admin, hadmins, hadmin, hverify, heq⟩
    · exact .same (congrArg (fun t => MemoryStore.delegations t tid) hsame)
    · -- the signature was verified, and the store counts the approval
      replace heq : perform C s (.approve tenantID id adminDID payload signature) =
          s.approveDelegation tenantID id adminDID signature := heq
      obtain rfl := administrators_eq_ok hadmins
      unfold MemoryStore.approveDelegation at heq
      split at heq
      · exact .same (by rw [step, heq])
      rename_i d hd
      iterate 2
        split at heq
        · exact .same (by rw [step, heq])
      · by_cases htid : tid = tenantID
        · subst htid
          refine .approved id adminDID payload signature d admin rfl hd hadmin hverify ?_ ?_
          · rw [step, heq]
          · rw [step, heq, delegations_putDelegation]
        · exact .same (by rw [step, heq, delegations_putDelegation_of_ne htid])
  | activate tenantID id now =>
    simp only [step, perform, MemoryStore.activateDelegation]
    split
    · exact .same rfl
    rename_i tenant htenant
    split
    · exact .same rfl
    rename_i d hd
    split
    · exact .same rfl
    -- enough approvals, and the window is open
    rename_i hthreshold
    split
    · exact .same rfl
    · rename_i hwindow
      by_cases htid : tid = tenantID
      · subst htid
        refine .activated id now tenant d rfl htenant hd ?_ ?_
        · refine ⟨Int.not_lt.1 hthreshold, ?_, ?_⟩
          · exact Int.not_lt.1 fun hn => hwindow (.inl hn)
          · exact not_not.1 fun hn => hwindow (.inr hn)
        · simp [MemoryStore.setStatus, MemoryStore.putDelegation]
      · refine .same ?_
        simp [MemoryStore.setStatus, MemoryStore.putDelegation, Function.update_of_ne htid]
  | revoke tenantID id now =>
    simp only [step, perform, MemoryStore.revokeDelegation]
    split
    · exact .same rfl
    split
    · exact .same rfl
    rename_i d hd
    split
    · exact .same rfl
    · by_cases htid : tid = tenantID
      · subst htid
        refine .revoked id now d rfl hd ?_
        split <;> simp [MemoryStore.setStatus]
      · refine .same ?_
        split <;> simp [MemoryStore.setStatus, delegations_putDelegation_of_ne htid]

/-! ### What becomes of a delegation -/

/-- Where the delegation that an operation leaves under an id comes from. -/
inductive Origin (s : MemoryStore) (a : Action) (tid i : String) (d' : Delegation) : Prop where
  | kept (h : delegationOf s tid i = some d')
  | proposed (d : Delegation) (ha : a = .propose tid d) (hi : i = d.id)
      (hseq : ∀ x ∈ (s.delegations tid).values, x.sequence < d.sequence)
      (h : d' = { d with tenantID := tid, state := "proposed", approvals := ∅ })
  | approved (adminDID : String) (payload signature : Binary) (d : Delegation)
      (admin : Administrator) (ha : a = .approve tid i adminDID payload signature)
      (hd : delegationOf s tid i = some d)
      (hadmin : activeAdministrator (s.admins tid).values adminDID = some admin)
      (hverify : verifyAdministratorSignature C admin payload signature = .ok ())
      (hok : perform C s a = (.ok (), step C s a))
      (h : d' = { d with approvals := d.approvals.insert adminDID signature })
  | activated (now : Time) (tenant : Tenant) (d : Delegation) (ha : a = .activate tid i now)
      (htenant : s.tenants tid = some tenant) (hd : delegationOf s tid i = some d)
      (hready : Ready tenant d now) (h : d' = { d with state := "active" })
  | retired (d : Delegation) (state : String) (hd : delegationOf s tid i = some d)
      (hstate : state = "revoked" ∨ state = "superseded") (h : d' = { d with state })

variable {C} {s : MemoryStore} {a : Action} {tid i j : String} {d d' : Delegation}

theorem origin (h : delegationOf (step C s a) tid i = some d') : Origin C s a tid i d' := by
  rw [delegationOf] at h
  cases effect C s a tid with
  | same hm => exact .kept (by rwa [hm] at h)
  | proposed d ha hseq hm =>
    rw [hm, Assoc.lookup_insert'] at h
    split at h
    · rename_i hi
      exact .proposed d ha hi hseq (Option.some.inj h).symm
    · exact .kept h
  | approved id adminDID payload signature d admin ha hd hadmin hverify hok hm =>
    rw [hm, Assoc.lookup_insert'] at h
    split at h
    · rename_i hi
      subst hi
      exact .approved adminDID payload signature d admin ha hd hadmin hverify hok
        (Option.some.inj h).symm
    · exact .kept h
  | activated id now tenant d ha htenant hd hready hm =>
    rw [hm, Assoc.lookup_insert'] at h
    split at h
    · rename_i hi
      subst hi
      exact .activated now tenant d ha htenant hd hready (Option.some.inj h).symm
    · rw [Assoc.lookup_mapValues, Option.map_eq_some_iff] at h
      obtain ⟨x, hx, rfl⟩ := h
      unfold MemoryStore.superseded
      split
      · exact .retired x "superseded" hx (.inr rfl) rfl
      · exact .kept hx
  | revoked id now d ha hd hm =>
    rw [hm, Assoc.lookup_insert'] at h
    split at h
    · rename_i hi
      subst hi
      exact .retired d "revoked" hd (.inl rfl) (Option.some.inj h).symm
    · exact .kept h

/-- A delegation was there with its sequence number, or is proposed under a new one. -/
theorem Origin.sequence (h : Origin C s a tid i d') :
    (∃ d, delegationOf s tid i = some d ∧ d.sequence = d'.sequence ∧
      d.canonicalJSON = d'.canonicalJSON) ∨
    (∃ d, a = .propose tid d ∧ i = d.id) ∧ d'.state = "proposed" ∧ d'.approvals = ∅ ∧
      ∀ x ∈ (s.delegations tid).values, x.sequence < d'.sequence := by
  cases h with
  | kept h => exact .inl ⟨d', h, rfl, rfl⟩
  | proposed d ha hi hseq h =>
    subst h
    exact .inr ⟨⟨d, ha, hi⟩, rfl, rfl, hseq⟩
  | approved _ _ _ d _ _ hd _ _ _ h => exact .inl ⟨d, hd, by rw [h], by rw [h]⟩
  | activated _ _ d _ _ hd _ h => exact .inl ⟨d, hd, by rw [h], by rw [h]⟩
  | retired d _ hd _ h => exact .inl ⟨d, hd, by rw [h], by rw [h]⟩

/-- Every delegation of a tenant is still there after an operation, or a later one. -/
theorem exists_of_step (h : delegationOf s tid i = some d) :
    ∃ j d', delegationOf (step C s a) tid j = some d' ∧ d.sequence ≤ d'.sequence := by
  simp only [delegationOf]
  cases effect C s a tid with
  | same hm => exact ⟨i, d, hm ▸ h, le_rfl⟩
  | proposed x ha hseq hm =>
    refine ⟨x.id, _, by rw [hm, AList.lookup_insert], ?_⟩
    exact (hseq d (Assoc.mem_values.2 ⟨i, h⟩)).le
  | approved id adminDID payload signature x admin ha hx hadmin hverify hok hm =>
    rw [hm]
    by_cases hi : i = id
    · subst hi
      obtain rfl := Option.some.inj (h.symm.trans hx)
      exact ⟨i, _, AList.lookup_insert _, le_rfl⟩
    · exact ⟨i, d, (AList.lookup_insert_ne hi).trans h, le_rfl⟩
  | activated id now tenant x ha htenant hx hready hm =>
    rw [hm]
    by_cases hi : i = id
    · subst hi
      obtain rfl := Option.some.inj (h.symm.trans hx)
      exact ⟨i, _, AList.lookup_insert _, le_rfl⟩
    · refine ⟨i, MemoryStore.superseded d, ?_, ?_⟩
      · rw [AList.lookup_insert_ne hi, Assoc.lookup_mapValues]
        exact congrArg _ h
      · unfold MemoryStore.superseded
        split <;> exact le_rfl
  | revoked id now x ha hx hm =>
    rw [hm]
    by_cases hi : i = id
    · subst hi
      obtain rfl := Option.some.inj (h.symm.trans hx)
      exact ⟨i, _, AList.lookup_insert _, le_rfl⟩
    · exact ⟨i, d, (AList.lookup_insert_ne hi).trans h, le_rfl⟩

/-! ### Invariants -/

/-- A tenant has one active delegation at most. -/
def OneActive (s : MemoryStore) (tid : String) : Prop :=
  ∀ i j d d', delegationOf s tid i = some d → d.state = "active" →
    delegationOf s tid j = some d' → d'.state = "active" → i = j

/-- No two delegations of a tenant have one sequence number. -/
def Sequenced (s : MemoryStore) (tid : String) : Prop :=
  ∀ i j d d', delegationOf s tid i = some d → delegationOf s tid j = some d' →
    d.sequence = d'.sequence → i = j

/-- The delegation of the tenant with the number is retired, and so is the number. -/
def Dead (s : MemoryStore) (tid : String) (n : ℤ) : Prop :=
  (∃ i d, delegationOf s tid i = some d ∧ n ≤ d.sequence) ∧
  ∀ i d, delegationOf s tid i = some d → d.sequence = n → Retired d

theorem active_before (h : delegationOf (step C s a) tid i = some d') (hs : d'.state = "active")
    (hne : ∀ now, a ≠ .activate tid i now) :
    ∃ d, delegationOf s tid i = some d ∧ d.state = "active" := by
  cases origin h with
  | kept h => exact ⟨d', h, hs⟩
  | proposed d ha hi hseq h =>
    subst h
    exact absurd (show "proposed" = "active" from hs) (by decide)
  | approved _ _ _ d _ _ hd _ _ _ h =>
    subst h
    exact ⟨d, hd, hs⟩
  | activated now tenant d ha htenant hd hready h => exact absurd ha (hne now)
  | retired d state hd hstate h =>
    subst h
    replace hs : state = "active" := hs
    subst hs
    exact absurd hstate (by decide)

theorem OneActive.step (h : OneActive s tid) : OneActive (step C s a) tid := by
  intro i j d d' hi hid hj hjd
  have hkeep : (∀ k now, a ≠ .activate tid k now) → i = j := by
    intro hne
    obtain ⟨x, hx, hxd⟩ := active_before hi hid (hne i)
    obtain ⟨y, hy, hyd⟩ := active_before hj hjd (hne j)
    exact h i j x y hx hxd hy hyd
  cases effect C s a tid with
  | same hm =>
    rw [delegationOf, hm] at hi hj
    exact h i j d d' hi hid hj hjd
  | proposed x ha hseq hm => exact hkeep fun k now hk => nomatch ha.symm.trans hk
  | approved id adminDID payload signature x admin ha hx hadmin hverify hok hm =>
    exact hkeep fun k now hk => nomatch ha.symm.trans hk
  | revoked id now x ha hx hm => exact hkeep fun k now hk => nomatch ha.symm.trans hk
  | activated id now tenant x ha htenant hx hready hm =>
    -- whatever else was active has been superseded
    have honly : ∀ k y, delegationOf (Lifecycle.step C s a) tid k = some y → y.state = "active" →
        k = id := by
      intro k y hk hy
      by_contra hne
      rw [delegationOf, hm, AList.lookup_insert_ne hne, Assoc.lookup_mapValues,
        Option.map_eq_some_iff] at hk
      obtain ⟨z, -, rfl⟩ := hk
      unfold MemoryStore.superseded at hy
      split at hy
      · exact absurd (show "superseded" = "active" from hy) (by decide)
      · contradiction
    exact (honly i d hi hid).trans (honly j d' hj hjd).symm

theorem Sequenced.step (h : Sequenced s tid) : Sequenced (step C s a) tid := by
  intro i j d d' hi hj hseq
  rcases (origin hi).sequence with ⟨x, hx, hxs, -⟩ | ⟨⟨p, hp, hpi⟩, -, -, hnew⟩
  · rcases (origin hj).sequence with ⟨y, hy, hys, -⟩ | ⟨-, -, -, hnew⟩
    · exact h i j x y hx hy (hxs.trans (hseq.trans hys.symm))
    · have := hnew x (Assoc.mem_values.2 ⟨i, hx⟩)
      omega
  · rcases (origin hj).sequence with ⟨y, hy, hys, -⟩ | ⟨⟨q, hq, hqj⟩, -, -, -⟩
    · have := hnew y (Assoc.mem_values.2 ⟨j, hy⟩)
      omega
    · obtain ⟨-, rfl⟩ := Action.propose.inj (hp.symm.trans hq)
      exact hpi.trans hqj.symm

/-- Proper operations do not bring a number back. -/
theorem Dead.step {n : ℤ} (h : Dead s tid n) (hok : Proper C s a) : Dead (step C s a) tid n := by
  obtain ⟨⟨i, d, hd, hn⟩, hdead⟩ := h
  constructor
  · obtain ⟨j, d', hd', hle⟩ := exists_of_step hd
    exact ⟨j, d', hd', hn.trans hle⟩
  · intro j d' hd' hn'
    cases origin hd' with
    | kept h => exact hdead j d' h hn'
    | proposed x ha hi hseq h =>
      have := hseq d (Assoc.mem_values.2 ⟨i, hd⟩)
      subst h
      replace hn' : x.sequence = n := hn'
      omega
    | approved _ _ _ x _ _ hx _ _ _ h =>
      subst h
      exact hdead j x hx hn'
    | activated now tenant x ha htenant hx hready h =>
      subst h ha
      exact absurd (hdead j x hx hn') (hok tenant x htenant hx hready)
    | retired x state hx hstate h =>
      subst h
      exact hstate

theorem dead_of_retired (hseq : Sequenced s tid) (hd : delegationOf s tid i = some d)
    (hr : Retired d) : Dead s tid d.sequence := by
  refine ⟨⟨i, d, hd, le_rfl⟩, fun j d' hd' hn => ?_⟩
  obtain rfl := hseq i j d d' hd hd' hn.symm
  obtain rfl := Option.some.inj (hd.symm.trans hd')
  exact hr

/-! ### The promise -/

variable (C) in
/-- The store after a run from the empty one. -/
def run (es : List Action) : MemoryStore := exec (step C) {} es

variable (C) in
/-- The run has an approval of the delegation by the administrator, active when it was made,
whose signature is over the delegation's document. -/
def ApprovedBy (es : List Action) (tid id : String) (d : Delegation) (adminDID : String) : Prop :=
  ∃ pre payload signature post d₀ admin,
    es = pre ++ .approve tid id adminDID payload signature :: post ∧
    (perform C (run C pre) (.approve tid id adminDID payload signature)).1 = .ok () ∧
    delegationOf (run C pre) tid id = some d₀ ∧ d₀.sequence = d.sequence ∧
    admin ∈ ((run C pre).admins tid).values ∧ admin.did = adminDID ∧ admin.state = "active" ∧
    verifyAdministratorSignature C admin d.canonicalJSON signature = .ok ()

variable (C) in
/-- **The lifecycle of delegations**, of a run. -/
structure Governed (es : List Action) : Prop where
  /-- A tenant has one active delegation at most. -/
  one_active : ∀ tid, OneActive (run C es) tid
  /-- What was revoked or superseded is never active again. -/
  never_again : ∀ pre post, es = pre ++ post → ∀ tid i j d d',
    delegationOf (run C pre) tid i = some d → Retired d →
    delegationOf (run C es) tid j = some d' → d'.sequence = d.sequence → d'.state ≠ "active"
  /-- An activation follows approvals by a threshold of administrators. -/
  approved : ∀ pre post tid id now, es = pre ++ .activate tid id now :: post →
    (perform C (run C pre) (.activate tid id now)).1 = .ok () → ∀ tenant d,
    (run C pre).tenants tid = some tenant → delegationOf (run C pre) tid id = some d →
    ∃ approvers : List String, approvers.Nodup ∧ tenant.threshold ≤ approvers.length ∧
      ∀ adminDID ∈ approvers, ApprovedBy C pre tid id d adminDID

theorem run_append (pre post : List Action) :
    run C (pre ++ post) = exec (step C) (run C pre) post := exec_append ..

theorem run_concat (es : List Action) (a : Action) : run C (es ++ [a]) = step C (run C es) a :=
  run_append ..

/-- **In every run, a tenant has one active delegation at most.** -/
theorem one_active_delegation (es : List Action) (tid : String) : OneActive (run C es) tid := by
  refine exec_invariant (I := fun s => OneActive s tid) (fun _ _ h => h.step) ?_ es
  intro i j d d' hi
  cases hi

theorem dead_run {n : ℤ} {pre post : List Action} (h : Dead (run C pre) tid n)
    (hok : Along (step C) (Proper C) (run C pre) post) : Dead (run C (pre ++ post)) tid n := by
  rw [run_append]
  exact hok.invariant (I := fun s => Dead s tid n) (fun _ _ hI ha => hI.step ha) h

variable {es : List Action} {adminDID : String}

theorem ApprovedBy.mono (h : ApprovedBy C es tid i d adminDID) (post : List Action) :
    ApprovedBy C (es ++ post) tid i d adminDID := by
  obtain ⟨pre, payload, signature, rest, d₀, admin, rfl, h⟩ := h
  exact ⟨pre, payload, signature, rest ++ post, d₀, admin, by simp, h⟩

theorem ApprovedBy.congr (h : ApprovedBy C es tid i d adminDID) (hs : d.sequence = d'.sequence)
    (hj : d.canonicalJSON = d'.canonicalJSON) : ApprovedBy C es tid i d' adminDID := by
  obtain ⟨pre, payload, signature, rest, d₀, admin, hes, hok, hd, hseq, hm, hdid, hstate, hv⟩ := h
  exact ⟨pre, payload, signature, rest, d₀, admin, hes, hok, hd, hseq.trans hs, hm, hdid, hstate,
    hj ▸ hv⟩

/-- **Every stored approval was made in the run**, by induction on the run from its end. -/
theorem approvedBy_of_mem (hok : Along (step C) (Proper C) {} es)
    (hd : delegationOf (run C es) tid i = some d) (hmem : adminDID ∈ d.approvals.keys) :
    ApprovedBy C es tid i d adminDID := by
  induction es using List.reverseRecOn generalizing d with
  | nil => cases hd
  | append_singleton es a ih =>
    obtain ⟨hes, ha, -⟩ := along_append.1 hok
    rw [run_concat] at hd
    have hold : ∀ x, delegationOf (run C es) tid i = some x → adminDID ∈ x.approvals.keys →
        x.sequence = d.sequence → x.canonicalJSON = d.canonicalJSON →
        ApprovedBy C (es ++ [a]) tid i d adminDID := by
      intro x hx hmem hs hj
      exact ((ih hes hx hmem).congr hs hj).mono [a]
    cases origin hd with
    | kept h => exact hold d h hmem rfl rfl
    | proposed x hx hi hseq h =>
      subst h
      cases hmem
    | approved did payload signature x admin hx hxd hadmin hverify hperform h =>
      by_cases hdid : adminDID = did
      · -- this is the approval: what was signed is the delegation's document
        subst hx h hdid
        have hpayload := ha x admin hxd hadmin hverify
        obtain ⟨hm, hdid, hstate⟩ := of_activeAdministrator hadmin
        refine ⟨es, payload, signature, [], x, admin, rfl, ?_, hxd, rfl, hm, hdid, hstate, ?_⟩
        · exact congrArg Prod.fst hperform
        · exact hpayload ▸ hverify
      · subst h
        refine hold x hxd ?_ rfl rfl
        rw [AList.keys_insert] at hmem
        exact (List.mem_cons.1 hmem).resolve_left hdid |> List.mem_of_mem_erase
    | activated now tenant x hx htenant hxd hready h =>
      subst h
      exact hold x hxd hmem rfl rfl
    | retired x state hxd hstate h =>
      subst h
      exact hold x hxd hmem rfl rfl

theorem sequenced (es : List Action) (tid : String) : Sequenced (run C es) tid := by
  refine exec_invariant (I := fun s => Sequenced s tid) (fun _ _ h => h.step) ?_ es
  intro i j d d' hi
  cases hi

variable (C) in
/-- At any two moments of the run a sequence number stands for one id and one document. -/
def Identified (es : List Action) : Prop :=
  ∀ pre post, es = pre ++ post → ∀ tid i j d d', delegationOf (run C pre) tid i = some d →
    delegationOf (run C es) tid j = some d' → d'.sequence = d.sequence →
    j = i ∧ d'.canonicalJSON = d.canonicalJSON

/-- **A sequence number names one document of the tenant, in every run.** -/
theorem sequence_identifies (es : List Action) : Identified C es := by
  rintro pre post rfl tid i j d d' hd hd' hs
  rw [run_append] at hd'
  -- a number that is not below `d`'s stays, so none is proposed at it
  refine (exec_invariant (I := fun s =>
    (∃ k y, delegationOf s tid k = some y ∧ d.sequence ≤ y.sequence) ∧
    ∀ j x, delegationOf s tid j = some x → x.sequence = d.sequence →
      j = i ∧ x.canonicalJSON = d.canonicalJSON) ?_ ⟨⟨i, d, hd, le_rfl⟩, ?_⟩ post).2 j d' hd' hs
  · rintro s a ⟨⟨k, y, hk, hle⟩, hI⟩
    obtain ⟨k', y', hk', hle'⟩ := exists_of_step hk
    refine ⟨⟨k', y', hk', hle.trans hle'⟩, fun j x hj hx => ?_⟩
    rcases (origin hj).sequence with ⟨z, hz, hseq, hjson⟩ | ⟨-, -, -, hseq⟩
    · exact (hI j z hz (hseq.trans hx)).imp_right hjson.symm.trans
    · have := hseq y (Assoc.mem_values.2 ⟨k, hk⟩)
      omega
  · intro j x hj hx
    obtain rfl := sequenced pre tid j i x d hj hd hx
    exact ⟨rfl, congrArg _ (Option.some.inj (hj.symm.trans hd))⟩

theorem ready_of_activate {now : Time} {tenant : Tenant}
    (h : (perform C s (.activate tid i now)).1 = .ok ()) (htenant : s.tenants tid = some tenant)
    (hd : delegationOf s tid i = some d) : Ready tenant d now := by
  rw [delegationOf] at hd
  simp only [perform, MemoryStore.activateDelegation, htenant, hd] at h
  split at h
  · cases h
  rename_i hthreshold
  split at h
  · cases h
  rename_i hwindow
  rw [not_or, not_not] at hwindow
  exact ⟨Int.not_lt.1 hthreshold, Int.not_lt.1 hwindow.1, hwindow.2⟩

/-- **Proper runs keep the whole promise.**  A retired delegation is dead with its sequence
number, and no proper step revives a dead number; approvals are counted by the signatures that put
them there. -/
theorem delegation_lifecycle (es : List Action) (hok : Along (step C) (Proper C) {} es) :
    Governed C es where
  one_active := one_active_delegation es
  never_again := by
    intro pre post hes tid i j d d' hd hr hd' hs hactive
    subst hes
    have hdead := dead_run (dead_of_retired (sequenced pre tid) hd hr) (along_append.1 hok).2
    rcases hdead.2 j d' hd' hs with h | h
    · exact absurd (hactive.symm.trans h) (by decide)
    · exact absurd (hactive.symm.trans h) (by decide)
  approved := by
    intro pre post tid id now hes haccepted tenant d htenant hd
    subst hes
    have hpre := (along_append.1 hok).1
    refine ⟨d.approvals.keys, d.approvals.nodupKeys, ?_, ?_⟩
    · exact (ready_of_activate haccepted htenant hd).1
    · intro adminDID hmem
      exact approvedBy_of_mem hpre hd hmem

/-! ### Worked examples -/

def toyTenant : Tenant :=
  { id := "t", organizationDID := "did:web:o", serviceSlug := "o", status := "setup",
    threshold := 1, administratorCount := 1, policyVersion := 1, createdAt := 0 }

def toyDelegation : Delegation :=
  { id := "d", signingKeyID := "k", sequence := 1, canonicalJSON := [123, 125], payloadHash := "h",
    credentialTypes := some [], notBefore := 0, expiresAt := 10 }

/-- A tenant with one administrator, whose delegation is proposed, approved and activated. -/
def toyRun : List Action :=
  [.bootstrapTenant toyTenant (toyAdministrator "a" 1),
    .propose "t" toyDelegation,
    .approve "t" "d" "a" [123, 125] (toyRoot 1 ++ [123, 125]),
    .activate "t" "d" 5]

theorem delegation_lifecycle_toy : Governed Crypto.toy toyRun := by
  refine delegation_lifecycle toyRun ⟨trivial, trivial, ?_, ?_, trivial⟩
  · intro d admin hd _ _
    have h : (delegationOf (run Crypto.toy (toyRun.take 2)) "t" "d").map (·.canonicalJSON) =
        some [123, 125] := by decide +kernel
    rw [show delegationOf (run Crypto.toy (toyRun.take 2)) "t" "d" = some d from hd] at h
    exact (Option.some.inj h).symm
  · intro tenant d _ hd _
    have h : (delegationOf (run Crypto.toy (toyRun.take 3)) "t" "d").map (·.state) =
        some "proposed" := by decide +kernel
    rw [show delegationOf (run Crypto.toy (toyRun.take 3)) "t" "d" = some d from hd] at h
    rw [Retired, show d.state = "proposed" from Option.some.inj h]
    decide

/-- **A revoked delegation is activated again**: activation does not look at its state. -/
theorem lifecycle_broken :
    ¬ Governed Crypto.toy (toyRun ++ [.revoke "t" "d" 6] ++ [.activate "t" "d" 7]) := by
  intro h
  have hpre : ∃ d, delegationOf (run Crypto.toy (toyRun ++ [.revoke "t" "d" 6])) "t" "d" = some d ∧
      (d.state, d.sequence) = ("revoked", 1) := Option.map_eq_some_iff.1 (by decide +kernel)
  have hend : ∃ d, delegationOf (run Crypto.toy
      (toyRun ++ [.revoke "t" "d" 6] ++ [.activate "t" "d" 7])) "t" "d" = some d ∧
      (d.state, d.sequence) = ("active", 1) := Option.map_eq_some_iff.1 (by decide +kernel)
  obtain ⟨d, hd, hdeq⟩ := hpre
  obtain ⟨d', hd', hdeq'⟩ := hend
  obtain ⟨hrevoked, hseq⟩ := Prod.mk.inj hdeq
  obtain ⟨hactive, hseq'⟩ := Prod.mk.inj hdeq'
  exact h.never_again _ _ rfl "t" "d" "d" d d' hd (.inl hrevoked) hd'
    (hseq'.trans hseq.symm) hactive

end Lifecycle

end Ansible.Hosted
