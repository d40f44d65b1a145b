import Ansible.Issuer.MemoryStore
import Ansible.Issuer.PostgresStore
import Ansible.Issuer.Registry
import Mathlib.Data.Int.Order.Basic

/-!
# Both stores obey the laws

The registry of the store in memory is its maps; that of the store over PostgreSQL
is what the tables hold for each tenant.

## Main definitions

* `MemoryStore.registry`, `PostgresStore.registry` — the registries.

## Main results

* `MemoryStore.laws` — **the store in memory obeys the laws**, and gives every
  document back as it came.
* `PostgresStore.laws` — **the store over PostgreSQL obeys the laws**, and gives
  documents back in the text of the server.
-/

namespace Ansible.Hosted

variable {tid id did i : String} {t : Tenant} {o a : Administrator} {k : SigningKey}
  {q : IssuanceRequest} {d : Delegation} {sig : Binary} {now : Time} {threshold : ℤ}
  {order : List String} {r : Except StoreError Unit}

/-! ### The store in memory -/

namespace MemoryStore

variable {s s' : MemoryStore}

/-- What governance rests on, in memory. -/
def registry (s : MemoryStore) : Registry where
  tenants := s.tenants
  admins := s.admins
  delegations tid i := (s.delegations tid).lookup i
  templates tid t := t ∈ (s.templates tid).values
  requests tid i := (s.requests tid).lookup i
  decisions := s.approvals
  signingKeys tid i := (s.signingKeys tid).lookup i

/-- A write to a map of maps, as the registry sees it. -/
theorem lookup_update {α : Type} (f : String → Assoc String α) (a b : String) (v : α) :
    (fun tid i => (Function.update f a ((f a).insert b v) tid).lookup i) =
      set₂ (fun tid i => (f tid).lookup i) a b v := by
  funext tid i
  rw [set₂_eq]
  by_cases ha : tid = a
  · subst ha
    rw [Function.update_self, Assoc.lookup_insert']
    simp
  · rw [Function.update_of_ne ha]
    simp [ha]

@[simp] theorem registry_putDelegation (s : MemoryStore) (tid i : String) (d : Delegation) :
    (s.putDelegation tid i d).registry =
      { s.registry with delegations := set₂ s.registry.delegations tid i d } := by
  simp only [registry, putDelegation, lookup_update]

@[simp] theorem registry_setRequest (s : MemoryStore) (tid : String) (q : IssuanceRequest) :
    (s.setRequest tid q).registry =
      { s.registry with requests := set₂ s.registry.requests tid q.id q } := by
  simp only [registry, setRequest, lookup_update]

theorem approved_setApproval (s : MemoryStore) (tid rid : String) (a : IssuanceApproval) :
    (s.setApproval tid rid a).approved tid rid =
      approving ((s.approvals tid rid).insert a.approverDID a) := by
  simp only [approved, setApproval, Function.update_self, approving]

theorem law_bootstrapTenant (h : s.bootstrapTenant t o = (r, s')) :
    Bootstrapped s.registry s'.registry t o r := by
  have hid := withDefaults_id t
  have hthreshold := withDefaults_threshold t
  have hcount := withDefaults_administratorCount (t := t)
  unfold bootstrapTenant at h
  generalize withDefaults t = t' at h hid hthreshold hcount
  dsimp only at h
  iterate 2
    split at h
    · cases h
      exact .inl rfl
  · rename_i hnew
    cases h
    refine .inr ⟨t', ∅, rfl, ?_, hthreshold, hcount, .inl rfl, ?_⟩
    · rw [← hid]
      exact Option.not_isSome_iff_eq_none.1 hnew
    · rw [← hid]
      rfl

theorem law_putAdministrator (h : s.putAdministrator tid a = (r, s')) :
    Appointed s.registry s'.registry tid a r := by
  unfold putAdministrator at h
  split at h
  · cases h
    exact .inl rfl
  rename_i t ht
  iterate 2
    split at h
    · cases h
      exact .inl rfl
  · rename_i hroom
    cases h
    refine .inr ⟨t, rfl, ht, ?_, rfl⟩
    by_cases hmem : a.did ∈ s.admins tid
    · exact .inl hmem
    · rw [not_and, not_and] at hroom
      by_cases hpos : t.administratorCount > 0
      · exact .inr (.inr (Int.not_le.1 (hroom hmem hpos)))
      · exact .inr (.inl (Int.not_lt.1 hpos))

theorem law_putSigningKey (h : s.putSigningKey tid k = (r, s')) :
    KeyAdded s.registry s'.registry tid k := by
  unfold putSigningKey at h
  iterate 3
    split at h
    · cases h
      exact .inl rfl
  · rename_i hnew
    cases h
    refine .inr ⟨k.createdAt, AList.lookup_eq_none.2 hnew, ?_⟩
    simp only [registry, setSigningKey, lookup_update]

theorem registry_supersede (tid : String) (t : CredentialTemplate) (keys : List String)
    (s : MemoryStore) : ∃ templates, (∀ tid' x, templates tid' x →
        ∃ y, s.registry.templates tid' y ∧ x = { y with active := x.active }) ∧
      (supersede tid t keys s).2.registry = { s.registry with templates } := by
  induction keys generalizing s with
  | nil => exact ⟨_, fun tid' x hx => ⟨x, hx, rfl⟩, rfl⟩
  | cons key keys ih =>
    rw [supersede]
    split
    · exact ih s
    rename_i current hcurrent
    split
    · split
      · exact ⟨_, fun tid' x hx => ⟨x, hx, rfl⟩, rfl⟩
      split
      · obtain ⟨templates, hfrom, heq⟩ :=
          ih (s.setTemplate tid key { current with active := false })
        refine ⟨templates, ?_, heq⟩
        intro tid' x hx
        obtain ⟨y, hy, hxy⟩ := hfrom tid' x hx
        -- the template that was written differs from the one before in one field
        by_cases htid : tid' = tid
        · subst htid
          obtain ⟨k, hk⟩ := Assoc.mem_values.1 hy
          simp only [setTemplate, Function.update_self] at hk
          rw [Assoc.lookup_insert'] at hk
          split at hk
          · cases hk
            exact ⟨current, Assoc.mem_values.2 ⟨key, hcurrent⟩, hxy⟩
          · exact ⟨y, Assoc.mem_values.2 ⟨k, hk⟩, hxy⟩
        · simp only [registry, setTemplate, Function.update_of_ne htid] at hy
          exact ⟨y, hy, hxy⟩
      · exact ih s
    · exact ih s

theorem law_putCredentialTemplate {t : CredentialTemplate}
    (h : s.putCredentialTemplate tid t order = (r, s')) :
    TemplatePut s.registry s'.registry tid t := by
  have hsame : s' = s → TemplatePut s.registry s'.registry tid t :=
    fun h => .of_eq (congrArg registry h) tid t
  unfold putCredentialTemplate at h
  iterate 3
    split at h
    · exact hsame (Prod.mk.inj h).2.symm
  obtain ⟨templates, hfrom, heq⟩ :=
    registry_supersede tid t (walk (s.templates tid) order) s
  split at h
  · rename_i hloop
    rw [hloop] at heq
    cases h
    exact ⟨templates, fun tid' x hx => .inl (hfrom tid' x hx), heq⟩
  · rename_i s₁ hloop
    rw [hloop] at heq
    cases h
    refine ⟨(s₁.setTemplate tid (templateKey t) { t with tenantID := tid }).registry.templates,
      ?_, ?_⟩
    · intro tid' x hx
      have hold : s₁.registry.templates tid' x →
          ∃ y, s.registry.templates tid' y ∧ x = { y with active := x.active } := by
        intro hx
        refine hfrom tid' x ?_
        have := congrFun (congrFun (congrArg Registry.templates heq) tid') x
        exact this.mp hx
      by_cases htid : tid' = tid
      · subst htid
        obtain ⟨k, hk⟩ := Assoc.mem_values.1 hx
        simp only [setTemplate, Function.update_self] at hk
        rw [Assoc.lookup_insert'] at hk
        split at hk
        · exact .inr ⟨rfl, (Option.some.inj hk).symm⟩
        · exact .inl (hold (Assoc.mem_values.2 ⟨k, hk⟩))
      · simp only [registry, setTemplate, Function.update_of_ne htid] at hx
        exact .inl (hold hx)
    · have hrest : (s₁.setTemplate tid (templateKey t) { t with tenantID := tid }).registry =
          { s₁.registry with
            templates := (s₁.setTemplate tid (templateKey t)
              { t with tenantID := tid }).registry.templates } := rfl
      rw [hrest, heq]

theorem law_putIssuanceRequest (h : s.putIssuanceRequest tid q = (r, s')) :
    RequestPut s.registry s'.registry tid q := by
  unfold putIssuanceRequest at h
  iterate 3
    split at h
    · cases h
      exact .inl rfl
  · rename_i hnew
    cases h
    exact .inr ⟨{ q with tenantID := tid, state := "pending" }, AList.lookup_eq_none.2 hnew, rfl,
      rfl, registry_setRequest ..⟩

theorem law_decideIssuanceRequest {a : IssuanceApproval} {r : Except StoreError IssuanceRequest}
    (h : s.decideIssuanceRequest tid a threshold = (r, s')) :
    Decided s.registry s'.registry tid a threshold := by
  unfold decideIssuanceRequest at h
  split at h
  · rename_i q admin hq hadmin
    split at h
    · cases h
      exact .inl rfl
    rename_i hok
    rw [not_or, not_not] at hok
    split at h
    · split at h <;> obtain ⟨-, rfl⟩ := Prod.mk.inj h <;> exact .inl rfl
    · cases h
      have hnext : ∃ state, (state = "approved" → q.state = "approved" ∨
            threshold ≤ approving ((s.approvals tid q.id).insert a.approverDID
              { a with tenantID := tid })) ∧
          (if a.decision = "deny" then { q with state := "denied" }
            else if threshold ≤ approving ((s.approvals tid q.id).insert a.approverDID
              { a with tenantID := tid }) then { q with state := "approved" }
            else q) = { q with state } := by
        split
        · exact ⟨"denied", fun h => absurd h (by decide), rfl⟩
        · split
          · rename_i hthreshold
            exact ⟨"approved", fun _ => .inr hthreshold, rfl⟩
          · exact ⟨q.state, .inl, rfl⟩
      obtain ⟨state, happroved, hstate⟩ := hnext
      refine .inr ⟨q, q.id, admin, state, a.createdAt, hq, .inr rfl, hadmin, hok.1, happroved, ?_⟩
      rw [approved_setApproval, hstate, registry_setRequest]
      rfl
  · cases h
    exact .inl rfl

theorem law_consumeApprovedIssuanceRequest {r : Except StoreError IssuanceRequest}
    (h : s.consumeApprovedIssuanceRequest tid id now = (r, s')) :
    Offered s.registry s'.registry tid id := by
  unfold consumeApprovedIssuanceRequest at h
  split at h
  · cases h
    exact .inl rfl
  rename_i q hq
  split at h
  · cases h
    exact .inl rfl
  · rename_i hok
    rw [not_or, not_not] at hok
    cases h
    refine .inr ⟨q, hq, hok.1, ?_⟩
    simp only [registry, lookup_update]

theorem law_proposeDelegation (h : s.proposeDelegation tid d = (r, s')) :
    Proposed s.registry s'.registry tid some d r := by
  unfold proposeDelegation at h
  iterate 4
    split at h
    · cases h
      exact .inl rfl
  · cases h
    exact .inr ⟨d.canonicalJSON, d.notBefore, d.expiresAt, rfl, rfl, registry_putDelegation ..⟩

theorem law_approveDelegation (h : s.approveDelegation tid id did sig = (r, s')) :
    Approved s.registry s'.registry tid id did sig r := by
  unfold approveDelegation at h
  split at h
  · cases h
    exact .inl rfl
  rename_i d hd
  split at h
  · cases h
    exact .inl rfl
  rename_i admin hadmin
  split at h
  · cases h
    exact .inl rfl
  · rename_i hok
    rw [not_or, not_not] at hok
    cases h
    exact .inr ⟨d, admin, rfl, hd, hadmin, hok.1, registry_putDelegation ..⟩

/-- Only the state of one delegation differs. -/
theorem restated_putDelegation (hd : s.registry.delegations tid id = some d) (state : String) :
    s.registry.Restated (s.putDelegation tid id { d with state }).registry where
  tenants _ t' h := ⟨t', t'.status, h, rfl⟩
  kept _ h := h
  admins := rfl
  delegations := by
    intro tid' i d' h
    rw [registry_putDelegation] at h
    rcases of_set₂ h with ⟨rfl, rfl, rfl⟩ | h
    · exact ⟨d, state, hd, rfl⟩
    · exact ⟨d', d'.state, h, rfl⟩
  templates := rfl
  requests := rfl
  decisions := rfl
  signingKeys := rfl

/-- Only the status of a tenant differs. -/
theorem restated_setStatus (s : MemoryStore) (ht : s.tenants tid = some t) (status : String) :
    s.registry.Restated (s.setStatus t tid status).registry where
  tenants := by
    intro tid' t' h
    by_cases htid : tid' = tid
    · subst htid
      simp only [registry, setStatus, Function.update_self] at h
      exact ⟨t, status, ht, (Option.some.inj h).symm⟩
    · simp only [registry, setStatus, Function.update_of_ne htid] at h
      exact ⟨t', t'.status, h, rfl⟩
  kept := by
    intro tid' h
    by_cases htid : tid' = tid
    · subst htid
      simp [registry, setStatus]
    · simpa only [registry, setStatus, Function.update_of_ne htid] using h
  admins := rfl
  delegations _ _ d' h := ⟨d', d'.state, h, rfl⟩
  templates := rfl
  requests := rfl
  decisions := rfl
  signingKeys := rfl

/-- Only states differ when the active delegations of a tenant are superseded. -/
theorem restated_superseded (s : MemoryStore) (tid : String) :
    s.registry.Restated (registry { s with
      delegations := Function.update s.delegations tid
        ((s.delegations tid).mapValues fun _ current => superseded current) }) where
  tenants _ t' h := ⟨t', t'.status, h, rfl⟩
  kept _ h := h
  admins := rfl
  delegations := by
    intro tid' i d' h
    by_cases htid : tid' = tid
    · subst htid
      simp only [registry, Function.update_self] at h
      rw [Assoc.lookup_mapValues, Option.map_eq_some_iff] at h
      obtain ⟨d, hd, rfl⟩ := h
      unfold superseded
      split
      · exact ⟨d, "superseded", hd, rfl⟩
      · exact ⟨d, d.state, hd, rfl⟩
    · simp only [registry, Function.update_of_ne htid] at h
      exact ⟨d', d'.state, h, rfl⟩
  templates := rfl
  requests := rfl
  decisions := rfl
  signingKeys := rfl

theorem law_activateDelegation (h : s.activateDelegation tid id now = (r, s')) :
    Activated s.registry s'.registry tid id r := by
  unfold activateDelegation at h
  split at h
  · cases h
    exact ⟨.refl _, nofun⟩
  rename_i t ht
  split at h
  · cases h
    exact ⟨.refl _, nofun⟩
  rename_i d hd
  split at h
  · cases h
    exact ⟨.refl _, nofun⟩
  rename_i hthreshold
  split at h
  · cases h
    exact ⟨.refl _, nofun⟩
  · cases h
    refine ⟨?_, fun _ => ⟨t, d, ht, hd, Int.not_lt.1 hthreshold⟩⟩
    generalize hs₁ : ({ s with
      delegations := Function.update s.delegations tid
        ((s.delegations tid).mapValues fun _ current => superseded current) } : MemoryStore) = s₁
    have hd' : s₁.registry.delegations tid id = some (superseded d) := by
      subst hs₁
      simp only [registry, Function.update_self]
      rw [Assoc.lookup_mapValues, hd]
      rfl
    have ht' : s₁.tenants tid = some t := by rw [← hs₁, ht]
    have hactive : { superseded d with state := "active" } = { d with state := "active" } := by
      unfold superseded
      split <;> rfl
    have hput := restated_putDelegation hd' "active"
    rw [hactive] at hput
    have hsuperseded : s.registry.Restated s₁.registry := hs₁ ▸ restated_superseded s tid
    exact (hsuperseded.trans hput).trans
      (restated_setStatus (s₁.putDelegation tid id _) ht' "active")

theorem law_revokeDelegation (now : Time) (h : s.revokeDelegation tid id now = (r, s')) :
    s.registry.Restated s'.registry := by
  unfold revokeDelegation at h
  split at h
  · cases h
    exact .refl _
  rename_i t ht
  split at h
  · cases h
    exact .refl _
  rename_i d hd
  split at h
  · cases h
    exact .refl _
  · have hput := restated_putDelegation (s := s) hd "revoked"
    split at h
    · cases h
      exact hput.trans (restated_setStatus (s.putDelegation tid id _) ht "paused")
    · cases h
      exact hput

/-- **The store in memory obeys the laws.** -/
theorem laws : Laws ops registry some where
  bootstrapTenant := law_bootstrapTenant
  tenant := by
    intro _ _ _ h
    simp only [ops, tenant] at h
    split at h
    · rename_i ht
      exact Except.ok.inj h ▸ ht
    · cases h
  putAdministrator := law_putAdministrator
  administrators := by
    intro _ _ _ h
    simp only [ops, administrators] at h
    split at h
    · exact (Except.ok.inj h).symm
    · cases h
  putSigningKey := law_putSigningKey
  signingKey := by
    intro _ _ _ _ h
    simp only [ops, signingKey] at h
    split at h
    · rename_i hk
      exact Except.ok.inj h ▸ hk
    · cases h
  putCredentialTemplate := law_putCredentialTemplate
  activeCredentialTemplate := by
    intro _ _ _ _ h
    simp only [ops, activeCredentialTemplate] at h
    split at h
    · rename_i ht
      exact Except.ok.inj h ▸ List.mem_of_find?_eq_some ht
    · cases h
  putIssuanceRequest := law_putIssuanceRequest
  issuanceRequest := by
    intro _ _ _ _ h
    simp only [ops, issuanceRequest] at h
    split at h
    · rename_i q' hq
      exact ⟨q', hq, Except.ok.inj h ▸ rfl, Except.ok.inj h ▸ rfl⟩
    · cases h
  decideIssuanceRequest := law_decideIssuanceRequest
  consumeApprovedIssuanceRequest := law_consumeApprovedIssuanceRequest
  proposeDelegation := law_proposeDelegation
  approveDelegation := law_approveDelegation
  activateDelegation := law_activateDelegation
  revokeDelegation := @fun _ _ now _ _ _ => law_revokeDelegation now
  activeDelegation := by
    intro _ _ _ _ h
    simp only [ops, activeDelegation] at h
    split at h
    · cases h
    split at h
    · rename_i hfind
      cases h
      obtain ⟨i, hi⟩ := Assoc.mem_values.1 (List.mem_of_find?_eq_some hfind)
      have hforce := List.find?_some hfind
      rw [inForce, Bool.and_eq_true, Bool.and_eq_true, beq_iff_eq] at hforce
      exact ⟨i, hi, hforce.1.1⟩
    · cases h
  appendAudit := by
    intro _ _ _ _ _ h
    simp only [ops, appendAudit] at h
    split at h
    · cases h
      rfl
    split at h <;> obtain ⟨-, rfl⟩ := Prod.mk.inj h <;> rfl

end MemoryStore

/-! ### The store over PostgreSQL -/

namespace PostgresStore

/-- What governance rests on, in the tables. -/
def registry (s : PostgresStore) : Registry where
  tenants tid := s.tenants.lookup tid
  admins := s.admins
  delegations tid i := s.delegationRow tid i
  templates tid t := t ∈ (s.templates tid).values
  requests tid i := s.requestRow tid i
  decisions := s.approvals
  signingKeys tid i := (s.signingKeys.lookup i).filter fun k => k.tenantID == tid

variable {s s' : PostgresStore}

/-- A row of a tenant in a table whose key is unique across tenants: setting it, when the key
is new or belongs to the tenant. -/
theorem lookup_insert_filter {α : Type} (tenantOf : α → String) (m : Assoc String α) (i : String)
    (v : α) (hv : tenantOf v = tid) (hi : ∀ w, m.lookup i = some w → tenantOf w = tid) :
    (fun tid' i' => ((m.insert i v).lookup i').filter fun x => tenantOf x == tid') =
      set₂ (fun tid' i' => (m.lookup i').filter fun x => tenantOf x == tid') tid i v := by
  funext tid' i'
  rw [set₂_eq, Assoc.lookup_insert']
  by_cases hi' : i' = i
  · subst hi'
    by_cases htid : tid' = tid
    · subst htid
      simp [hv]
    · have hold : (m.lookup i').filter (fun x => tenantOf x == tid') = none := by
        cases hm : m.lookup i' with
        | none => rfl
        | some w =>
          have := hi w hm
          simp [this, Ne.symm htid]
      simp [htid, hold, hv, Ne.symm htid]
  · simp [hi']

theorem of_delegationRow (h : s.delegationRow tid i = some d) :
    s.delegations.lookup i = some d ∧ d.tenantID = tid := by
  rw [delegationRow, Option.filter_eq_some_iff, beq_iff_eq] at h
  exact h

theorem of_requestRow (h : s.requestRow tid i = some q) :
    s.requests.lookup i = some q ∧ q.tenantID = tid := by
  rw [requestRow, Option.filter_eq_some_iff, beq_iff_eq] at h
  exact h

theorem registry_putDelegation (hd : d.tenantID = tid)
    (hi : ∀ w, s.delegations.lookup i = some w → w.tenantID = tid) :
    (s.putDelegation i d).registry =
      { s.registry with delegations := set₂ s.registry.delegations tid i d } := by
  have := lookup_insert_filter Delegation.tenantID s.delegations i d hd hi
  simp only [registry, putDelegation, delegationRow, this]
  rfl

theorem registry_setRequests (hq : q.tenantID = tid)
    (hi : ∀ w, s.requests.lookup i = some w → w.tenantID = tid) :
    registry { s with requests := s.requests.insert i q } =
      { s.registry with requests := set₂ s.registry.requests tid i q } := by
  have := lookup_insert_filter IssuanceRequest.tenantID s.requests i q hq hi
  simp only [registry, requestRow, this]
  rfl

theorem law_bootstrapTenant (h : s.bootstrapTenant t o = (r, s')) :
    Bootstrapped s.registry s'.registry t o r := by
  have hid := withDefaults_id t
  have hthreshold := withDefaults_threshold t
  have hcount := withDefaults_administratorCount (t := t)
  unfold bootstrapTenant at h
  generalize withDefaults t = t' at h hid hthreshold hcount
  dsimp only at h
  iterate 2
    split at h
    · cases h
      exact .inl rfl
  rename_i s₁ hs₁
  split at h
  · cases h
    exact .inl rfl
  cases h
  unfold insertTenant at hs₁
  split at hs₁
  · cases hs₁
  rename_i createdAt _
  split at hs₁
  · cases hs₁
  rename_i hok
  cases hs₁
  simp only [not_or] at hok
  refine .inr ⟨{ t' with createdAt }, s.admins t.id, rfl, ?_, hthreshold, hcount, .inr rfl, ?_⟩
  · rw [← hid]
    exact AList.lookup_eq_none.2 hok.2.2.2.2.2.2.1
  · have htenants : (fun tid => (s.tenants.insert t'.id { t' with createdAt }).lookup tid) =
        Function.update (fun tid => s.tenants.lookup tid) t'.id (some { t' with createdAt }) := by
      funext tid
      rw [Assoc.lookup_insert', Function.update_apply]
    rw [← hid]
    simp only [registry, setAdmin, htenants, Registry.setAdmin]
    rfl

theorem law_putAdministrator (h : s.putAdministrator tid a = (r, s')) :
    Appointed s.registry s'.registry tid a r := by
  unfold putAdministrator at h
  iterate 3
    split at h
    · cases h
      exact .inl rfl
  rename_i t ht
  iterate 2
    split at h
    · cases h
      exact .inl rfl
  rename_i hroom
  split at h
  · cases h
    exact .inl rfl
  · cases h
    refine .inr ⟨t, rfl, ht, ?_, rfl⟩
    by_cases hmem : a.did ∈ s.admins tid
    · exact .inl hmem
    · exact .inr (.inr (Int.not_le.1 fun hle => hroom ⟨hmem, hle⟩))

theorem law_putSigningKey (h : s.putSigningKey tid k = (r, s')) :
    KeyAdded s.registry s'.registry tid k := by
  unfold putSigningKey at h
  iterate 2
    split at h
    · cases h
      exact .inl rfl
  rename_i createdAt _
  split at h
  · cases h
    exact .inl rfl
  · rename_i hok
    simp only [not_or] at hok
    have hnew := AList.lookup_eq_none.2 hok.2.2.1
    cases h
    refine .inr ⟨createdAt, ?_, ?_⟩
    · simp only [registry, hnew, Option.filter_none]
    · have := lookup_insert_filter SigningKey.tenantID s.signingKeys k.id
        { k with tenantID := tid, createdAt } rfl (by simp [hnew])
      simp only [registry, this]
      rfl

theorem law_putCredentialTemplate (order : List String) {t : CredentialTemplate}
    (h : s.putCredentialTemplate tid t order = (r, s')) :
    TemplatePut s.registry s'.registry tid t := by
  have hsame : s' = s → TemplatePut s.registry s'.registry tid t :=
    fun h => .of_eq (congrArg registry h) tid t
  unfold putCredentialTemplate at h
  iterate 5
    split at h
    · exact hsame (Prod.mk.inj h).2.symm
  cases h
  refine ⟨_, ?_, rfl⟩
  intro tid' x hx
  by_cases htid : tid' = tid
  · subst htid
    obtain ⟨k, hk⟩ := Assoc.mem_values.1 hx
    simp only [Function.update_self] at hk
    rw [Assoc.lookup_insert'] at hk
    split at hk
    · exact .inr ⟨rfl, (Option.some.inj hk).symm⟩
    left
    split at hk
    · -- the rows of the template have been deactivated
      rw [Assoc.lookup_mapValues, Option.map_eq_some_iff] at hk
      obtain ⟨y, hy, rfl⟩ := hk
      refine ⟨y, Assoc.mem_values.2 ⟨k, hy⟩, ?_⟩
      unfold deactivate
      split <;> rfl
    · exact ⟨x, Assoc.mem_values.2 ⟨k, hk⟩, rfl⟩
  · simp only [Function.update_of_ne htid] at hx
    exact .inl ⟨x, hx, rfl⟩

theorem law_putIssuanceRequest (h : s.putIssuanceRequest tid q = (r, s')) :
    RequestPut s.registry s'.registry tid q := by
  unfold putIssuanceRequest at h
  split at h
  · cases h
    exact .inl rfl
  split at h
  · rename_i expiresAt createdAt snapshot _ _
    iterate 2
      split at h
      · cases h
        exact .inl rfl
    rename_i hnew
    split at h
    · cases h
      exact .inl rfl
    · cases h
      rw [not_or] at hnew
      have hnone := AList.lookup_eq_none.2 hnew.1
      refine .inr ⟨{ q with tenantID := tid, state := "pending", expiresAt, createdAt }, ?_, rfl,
        rfl, registry_setRequests rfl (by simp [hnone])⟩
      simp only [registry, requestRow, hnone, Option.filter_none]
  · cases h
    exact .inl rfl

theorem law_decideIssuanceRequest {a : IssuanceApproval} {r : Except StoreError IssuanceRequest}
    (h : s.decideIssuanceRequest tid a threshold = (r, s')) :
    Decided s.registry s'.registry tid a threshold := by
  unfold decideIssuanceRequest at h
  iterate 3
    split at h
    · cases h
      exact .inl rfl
  rename_i q hq
  iterate 2
    split at h
    · cases h
      exact .inl rfl
  rename_i createdAt _
  split at h
  · cases h
    exact .inl rfl
  rename_i hok
  simp only [not_or, not_not] at hok
  obtain ⟨admin, hadmin, hactive⟩ := Option.any_eq_true _ _ |>.1 hok.2.1
  cases h
  obtain ⟨hrow, htid⟩ := of_requestRow hq
  refine .inr ⟨q, a.requestID, admin, _, createdAt, hq, .inl rfl, hadmin, beq_iff_eq.1 hactive, ?_,
    registry_setRequests (s := { s with approvals := _ }) htid (by simp [hrow, htid])⟩
  intro hstate
  right
  split at hstate
  · exact absurd hstate (by decide)
  split at hstate
  · rename_i hthreshold
    simpa only [approved, Function.update_self, approving, registry] using hthreshold
  · exact absurd hstate (by decide)

theorem law_consumeApprovedIssuanceRequest {r : Except StoreError IssuanceRequest}
    (h : s.consumeApprovedIssuanceRequest tid id now = (r, s')) :
    Offered s.registry s'.registry tid id := by
  unfold consumeApprovedIssuanceRequest at h
  iterate 3
    split at h
    · cases h
      exact .inl rfl
  rename_i q hq
  split at h
  · rename_i hok
    cases h
    obtain ⟨hrow, htid⟩ := of_requestRow hq
    exact .inr ⟨q, hq, hok.1, registry_setRequests htid (by simp [hrow, htid])⟩
  · cases h
    exact .inl rfl

theorem law_proposeDelegation (S : Server) (h : s.proposeDelegation S tid d = (r, s')) :
    Proposed s.registry s'.registry tid S.jsonbText d r := by
  unfold proposeDelegation at h
  split at h
  · cases h
    exact .inl rfl
  split at h
  · rename_i notBefore expiresAt canonicalJSON types _ hjson _
    iterate 2
      split at h
      · cases h
        exact .inl rfl
    rename_i hnew
    split at h
    · cases h
      exact .inl rfl
    · cases h
      rw [not_or] at hnew
      exact .inr ⟨canonicalJSON, notBefore, expiresAt, rfl, hjson,
        registry_putDelegation (s := s) rfl (by simp [AList.lookup_eq_none.2 hnew.1])⟩
  · cases h
    exact .inl rfl

theorem law_approveDelegation (h : s.approveDelegation tid id did sig = (r, s')) :
    Approved s.registry s'.registry tid id did sig r := by
  unfold approveDelegation at h
  iterate 2
    split at h
    · cases h
      exact .inl rfl
  rename_i d hd
  split at h
  · cases h
    exact .inl rfl
  · rename_i hok
    rw [not_or, not_not, not_not] at hok
    obtain ⟨admin, hadmin, hactive⟩ := Option.any_eq_true _ _ |>.1 hok.2
    cases h
    obtain ⟨hrow, htid⟩ := of_delegationRow hd
    exact .inr ⟨d, admin, rfl, hd, hadmin, beq_iff_eq.1 hactive,
      registry_putDelegation htid (by simp [hrow, htid])⟩

theorem restated_putDelegation (hd : s.delegationRow tid id = some d) (state : String) :
    s.registry.Restated (s.putDelegation id { d with state }).registry := by
  obtain ⟨hrow, htid⟩ := of_delegationRow hd
  rw [registry_putDelegation (d := { d with state }) htid (by simp [hrow, htid])]
  refine ⟨fun _ t' h => ⟨t', t'.status, h, rfl⟩, fun _ h => h, rfl, ?_, rfl, rfl, rfl, rfl⟩
  intro tid' i d' h
  rcases of_set₂ h with ⟨rfl, rfl, rfl⟩ | h
  · exact ⟨d, state, hd, rfl⟩
  · exact ⟨d', d'.state, h, rfl⟩

theorem restated_setStatus (s : PostgresStore) (tid status : String) :
    s.registry.Restated (s.setStatus tid status).registry := by
  unfold setStatus
  split
  · rename_i t ht
    refine ⟨?_, ?_, rfl, fun _ _ d' h => ⟨d', d'.state, h, rfl⟩, rfl, rfl, rfl, rfl⟩
    · intro tid' t' h
      simp only [registry] at h
      rw [Assoc.lookup_insert'] at h
      split at h
      · rename_i htid
        subst htid
        exact ⟨t, status, ht, (Option.some.inj h).symm⟩
      · exact ⟨t', t'.status, h, rfl⟩
    · intro tid' h
      simp only [registry]
      rw [Assoc.lookup_insert']
      split
      · rfl
      · exact h
  · exact .refl _

/-- Only states differ when the active delegations of a tenant are superseded. -/
theorem restated_superseded (s : PostgresStore) (tid : String) :
    s.registry.Restated (registry { s with
      delegations := s.delegations.mapValues fun _ x => supersededRow tid x }) := by
  refine ⟨fun _ t' h => ⟨t', t'.status, h, rfl⟩, fun _ h => h, rfl, ?_, rfl, rfl, rfl, rfl⟩
  intro tid' i d' h
  obtain ⟨hlookup, htid⟩ := of_delegationRow h
  rw [Assoc.lookup_mapValues, Option.map_eq_some_iff] at hlookup
  obtain ⟨d, hd, rfl⟩ := hlookup
  have hsame : (supersededRow tid d).tenantID = d.tenantID := by
    unfold supersededRow
    split <;> rfl
  refine ⟨d, (supersededRow tid d).state, ?_, ?_⟩
  · exact Option.filter_eq_some_iff.2 ⟨hd, beq_iff_eq.2 (hsame.symm.trans htid)⟩
  · unfold supersededRow
    split <;> rfl

theorem law_activateDelegation (S : Server) (h : s.activateDelegation S tid id now = (r, s')) :
    Activated s.registry s'.registry tid id r := by
  unfold activateDelegation at h
  iterate 3
    split at h
    · cases h
      exact ⟨.refl _, nofun⟩
  split at h
  · rename_i d t hd ht
    split at h
    · cases h
      exact ⟨.refl _, nofun⟩
    rename_i hwindow
    rw [not_or, not_not] at hwindow
    split at h
    · cases h
      exact ⟨.refl _, nofun⟩
    rename_i hthreshold
    cases h
    refine ⟨?_, fun _ => ⟨t, d, ht, hd, Int.not_lt.1 hthreshold⟩⟩
    have hsuperseded := restated_superseded s tid
    generalize hs₁ : ({ s with
      delegations := s.delegations.mapValues fun _ x => supersededRow tid x } : PostgresStore) = s₁
      at hsuperseded
    -- what is activated was proposed, so that it was not superseded
    have hd' : s₁.delegationRow tid id = some d := by
      obtain ⟨hrow, htid⟩ := of_delegationRow hd
      have hsame : supersededRow tid d = d := by
        rw [supersededRow, if_neg]
        rw [hwindow.1]
        exact fun h => absurd h.2 (by decide)
      rw [← hs₁, delegationRow, Assoc.lookup_mapValues, hrow, Option.map_some, hsame]
      exact Option.filter_eq_some_iff.2 ⟨rfl, beq_iff_eq.2 htid⟩
    exact (hsuperseded.trans (restated_putDelegation hd' "active")).trans
      (restated_setStatus (s₁.putDelegation id _) tid "active")
  · cases h
    exact ⟨.refl _, nofun⟩

theorem law_revokeDelegation (now : Time) (h : s.revokeDelegation tid id now = (r, s')) :
    s.registry.Restated s'.registry := by
  unfold revokeDelegation at h
  iterate 2
    split at h
    · cases h
      exact .refl _
  rename_i d hd
  have hput := restated_putDelegation hd "revoked"
  dsimp only at h
  split at h
  · cases h
    exact hput.trans (restated_setStatus (s.putDelegation id _) tid "paused")
  · cases h
    exact hput

theorem mem_of_newest {l : List CredentialTemplate} {t : CredentialTemplate}
    (h : newest l = some t) : t ∈ l := by
  refine List.foldlRecOn (motive := fun best => ∀ t, best = some t → t ∈ l) l _ ?_ ?_ t h
  · intro t ht
    cases ht
  · intro best hbest x hx t ht
    cases best with
    | none => exact Option.some.inj ht ▸ hx
    | some b =>
      dsimp only at ht
      split at ht
      · exact Option.some.inj ht ▸ hx
      · exact hbest t ht

/-- **The store over PostgreSQL obeys the laws.** -/
theorem laws (S : Server) : Laws (ops S) registry S.jsonbText where
  bootstrapTenant := law_bootstrapTenant
  tenant := by
    intro _ _ _ h
    simp only [ops, tenant] at h
    split at h
    · cases h
    split at h
    · rename_i ht
      exact Except.ok.inj h ▸ ht
    · cases h
  putAdministrator := law_putAdministrator
  administrators := by
    intro _ _ _ h
    simp only [ops, administrators] at h
    split at h
    · cases h
    · exact (Except.ok.inj h).symm
  putSigningKey := law_putSigningKey
  signingKey := by
    intro _ _ _ _ h
    simp only [ops, signingKey] at h
    split at h
    · cases h
    split at h
    · rename_i k' hk
      split at h
      · rename_i htid
        cases h
        exact Option.filter_eq_some_iff.2 ⟨hk, beq_iff_eq.2 htid⟩
      · cases h
    · cases h
  putCredentialTemplate := @fun _ _ order _ _ _ => law_putCredentialTemplate order
  activeCredentialTemplate := by
    intro _ _ _ _ h
    simp only [ops, activeCredentialTemplate] at h
    split at h
    · cases h
    split at h
    · rename_i ht
      exact Except.ok.inj h ▸ List.mem_of_mem_filter (mem_of_newest ht)
    · cases h
  putIssuanceRequest := law_putIssuanceRequest
  issuanceRequest := by
    intro _ _ _ _ h
    simp only [ops, issuanceRequest] at h
    split at h
    · cases h
    split at h
    · rename_i q' hq
      exact ⟨q', hq, Except.ok.inj h ▸ rfl, Except.ok.inj h ▸ rfl⟩
    · cases h
  decideIssuanceRequest := law_decideIssuanceRequest
  consumeApprovedIssuanceRequest := law_consumeApprovedIssuanceRequest
  proposeDelegation := law_proposeDelegation S
  approveDelegation := law_approveDelegation
  activateDelegation := law_activateDelegation S
  revokeDelegation := @fun _ _ now _ _ _ => law_revokeDelegation now
  activeDelegation := by
    intro _ _ _ _ h
    simp only [ops, activeDelegation] at h
    split at h
    · cases h
    split at h
    · cases h
    split at h
    · rename_i hfind
      cases h
      obtain ⟨i, hi⟩ := Assoc.mem_values.1 (List.mem_of_find?_eq_some hfind)
      have hforce := List.find?_some hfind
      simp only [Bool.and_eq_true, beq_iff_eq] at hforce
      exact ⟨i, Option.filter_eq_some_iff.2 ⟨hi, beq_iff_eq.2 hforce.1.1.1⟩, hforce.1.1.2⟩
    · cases h
  appendAudit := by
    intro _ _ _ _ _ h
    simp only [ops, appendAudit] at h
    iterate 2
      split at h
      · cases h
        rfl
    split at h <;> obtain ⟨-, rfl⟩ := Prod.mk.inj h <;> rfl

end PostgresStore

end Ansible.Hosted
