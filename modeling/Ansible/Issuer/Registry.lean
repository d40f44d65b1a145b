import Ansible.Issuer.HostedModel

/-!
# What a store does for governance

The registry of a store is what governance rests on: tenants, administrators,
delegations with their approvals, templates, issuance requests with the decisions
on them, and signing keys, each found by tenant.  A store obeys the laws when every
operation does to its registry what the operation is for; how the records are kept
is left open, and so is the text in which a document is given back.

## Main definitions

* `Registry` — the records, by tenant.
* `Bootstrapped`, `Decided`, … — what a write does to the registry.
-/

namespace Ansible.Hosted

/-- A table of records found by tenant and id, with one of them set. -/
def set₂ {α : Type} (f : String → String → Option α) (a b : String) (v : α) :
    String → String → Option α :=
  Function.update f a (Function.update (f a) b (some v))

theorem set₂_eq {α : Type} {f : String → String → Option α} {a b : String} {v : α}
    (a' b' : String) :
    set₂ f a b v a' b' = if a' = a ∧ b' = b then some v else f a' b' := by
  unfold set₂
  by_cases ha : a' = a
  · subst ha
    by_cases hb : b' = b
    · subst hb
      simp
    · simp [hb]
  · simp [ha]

theorem of_set₂ {α : Type} {f : String → String → Option α} {a b a' b' : String} {v w : α}
    (h : set₂ f a b v a' b' = some w) : (a' = a ∧ b' = b ∧ w = v) ∨ f a' b' = some w := by
  rw [set₂_eq] at h
  split at h
  · rename_i hab
    exact .inl ⟨hab.1, hab.2, (Option.some.inj h).symm⟩
  · exact .inr h

/-- The records that governance rests on. -/
structure Registry where
  tenants : String → Option Tenant
  /-- By tenant, then by DID. -/
  admins : String → Assoc String Administrator
  delegations : String → String → Option Delegation
  templates : String → CredentialTemplate → Prop
  requests : String → String → Option IssuanceRequest
  /-- By tenant and request, then by approver. -/
  decisions : String → String → Assoc String IssuanceApproval
  signingKeys : String → String → Option SigningKey

/-- The number of decisions that approve. -/
def approving (m : Assoc String IssuanceApproval) : ℕ :=
  m.values.countP fun a => a.decision == "approve"

namespace Registry

/-- Only states of delegations and of tenants differ. -/
structure Restated (c c' : Registry) : Prop where
  tenants : ∀ tid t', c'.tenants tid = some t' →
    ∃ t status, c.tenants tid = some t ∧ t' = { t with status }
  kept : ∀ tid, (c.tenants tid).isSome → (c'.tenants tid).isSome
  admins : c'.admins = c.admins
  delegations : ∀ tid i d', c'.delegations tid i = some d' →
    ∃ d state, c.delegations tid i = some d ∧ d' = { d with state }
  templates : c'.templates = c.templates
  requests : c'.requests = c.requests
  decisions : c'.decisions = c.decisions
  signingKeys : c'.signingKeys = c.signingKeys

theorem Restated.refl (c : Registry) : Restated c c where
  tenants _ t' h := ⟨t', t'.status, h, rfl⟩
  kept _ h := h
  admins := rfl
  delegations _ _ d' h := ⟨d', d'.state, h, rfl⟩
  templates := rfl
  requests := rfl
  decisions := rfl
  signingKeys := rfl

theorem Restated.trans {c c' c'' : Registry} (h : c.Restated c') (h' : c'.Restated c'') :
    c.Restated c'' where
  tenants := by
    intro tid t'' ht''
    obtain ⟨t', status, ht', rfl⟩ := h'.tenants tid t'' ht''
    obtain ⟨t, _, ht, rfl⟩ := h.tenants tid t' ht'
    exact ⟨t, status, ht, rfl⟩
  kept tid ht := h'.kept tid (h.kept tid ht)
  admins := h'.admins.trans h.admins
  delegations := by
    intro tid i d'' hd''
    obtain ⟨d', state, hd', rfl⟩ := h'.delegations tid i d'' hd''
    obtain ⟨d, _, hd, rfl⟩ := h.delegations tid i d' hd'
    exact ⟨d, state, hd, rfl⟩
  templates := h'.templates.trans h.templates
  requests := h'.requests.trans h.requests
  decisions := h'.decisions.trans h.decisions
  signingKeys := h'.signingKeys.trans h.signingKeys

/-- The administrators of a tenant, with one of them set. -/
def setAdmin (c : Registry) (tid : String) (m : Assoc String Administrator) (a : Administrator) :
    Registry :=
  { c with admins := Function.update c.admins tid (m.insert a.did a) }

end Registry

/-! ### The laws -/

section Written

variable (c c' : Registry) (tid : String)

/-- The tenant is new, and its owner its administrator. -/
def Bootstrapped (t : Tenant) (o : Administrator) (r : Except StoreError Unit) : Prop :=
  c' = c ∨ ∃ t' m, r = .ok () ∧ c.tenants t.id = none ∧ t'.threshold = t.threshold ∧
    (t.administratorCount ≠ 0 → t'.administratorCount = t.administratorCount) ∧
    (m = ∅ ∨ m = c.admins t.id) ∧
    c' = { c.setAdmin t.id m { o with tenantID := t.id, role := "owner", state := "active" } with
      tenants := Function.update c.tenants t.id (some t') }

/-- There is room for the administrator. -/
def Appointed (a : Administrator) (r : Except StoreError Unit) : Prop :=
  c' = c ∨ ∃ t, r = .ok () ∧ c.tenants tid = some t ∧
    (a.did ∈ c.admins tid ∨ t.administratorCount ≤ 0 ∨
      ((c.admins tid).keys.length : ℤ) < t.administratorCount) ∧
    c' = c.setAdmin tid (c.admins tid) { a with tenantID := tid }

/-- The signing key is new. -/
def KeyAdded (k : SigningKey) : Prop :=
  c' = c ∨ ∃ createdAt, c.signingKeys tid k.id = none ∧
    c' = { c with
      signingKeys := set₂ c.signingKeys tid k.id { k with tenantID := tid, createdAt } }

/-- The template is there, and others may have been deactivated. -/
def TemplatePut (t : CredentialTemplate) : Prop :=
  ∃ templates, (∀ tid' x, templates tid' x →
      (∃ y, c.templates tid' y ∧ x = { y with active := x.active }) ∨
      (tid' = tid ∧ x = { t with tenantID := tid })) ∧
    c' = { c with templates }

theorem TemplatePut.of_eq {c c' : Registry} (h : c' = c) (tid : String) (t : CredentialTemplate) :
    TemplatePut c c' tid t := by
  subst h
  exact ⟨_, fun tid' x hx => .inl ⟨x, hx, rfl⟩, rfl⟩

/-- The request is new and pending. -/
def RequestPut (q : IssuanceRequest) : Prop :=
  c' = c ∨ ∃ q', c.requests tid q.id = none ∧ q'.id = q.id ∧ q'.state = "pending" ∧
    c' = { c with requests := set₂ c.requests tid q.id q' }

/-- An active administrator has decided, and a request that is approved has its threshold. -/
def Decided (a : IssuanceApproval) (threshold : ℤ) : Prop :=
  c' = c ∨ ∃ q rid admin state createdAt,
    c.requests tid a.requestID = some q ∧ (rid = a.requestID ∨ rid = q.id) ∧
    (c.admins tid).lookup a.approverDID = some admin ∧ admin.state = "active" ∧
    (state = "approved" → q.state = "approved" ∨
      threshold ≤ approving ((c.decisions tid rid).insert a.approverDID
        { a with tenantID := tid, createdAt })) ∧
    c' = { c with
      requests := set₂ c.requests tid rid { q with state }
      decisions := Function.update c.decisions tid (Function.update (c.decisions tid) rid
        ((c.decisions tid rid).insert a.approverDID { a with tenantID := tid, createdAt })) }

/-- An approved request is offered. -/
def Offered (id : String) : Prop :=
  c' = c ∨ ∃ q, c.requests tid id = some q ∧ q.state = "approved" ∧
    c' = { c with requests := set₂ c.requests tid id { q with state := "offered" } }

/-- The delegation is proposed, with the document as it is served. -/
def Proposed (serve : Binary → Option Binary) (d : Delegation) (r : Except StoreError Unit) :
    Prop :=
  c' = c ∨ ∃ canonicalJSON notBefore expiresAt, r = .ok () ∧
    serve d.canonicalJSON = some canonicalJSON ∧
    c' = { c with
      delegations := set₂ c.delegations tid d.id
        { d with
          tenantID := tid, canonicalJSON, notBefore, expiresAt, state := "proposed"
          approvals := ∅ } }

/-- An active administrator has approved the delegation. -/
def Approved (id did : String) (sig : Binary) (r : Except StoreError Unit) : Prop :=
  c' = c ∨ ∃ d admin, r = .ok () ∧ c.delegations tid id = some d ∧
    (c.admins tid).lookup did = some admin ∧ admin.state = "active" ∧
    c' = { c with
      delegations := set₂ c.delegations tid id { d with approvals := d.approvals.insert did sig } }

/-- What is activated has its threshold of approvals. -/
def Activated (id : String) (r : Except StoreError Unit) : Prop :=
  c.Restated c' ∧ (r = .ok () → ∃ t d, c.tenants tid = some t ∧
    c.delegations tid id = some d ∧ t.threshold ≤ d.approvals.keys.length)

end Written

/-- **What each operation of a store does to its registry.**  `serve` is the text in which a
document is given back. -/
structure Laws {σ : Type} (S : StoreOps σ) (reg : σ → Registry)
    (serve : Binary → Option Binary) : Prop where
  bootstrapTenant : ∀ {t o s r s'}, S.bootstrapTenant t o s = (r, s') →
    Bootstrapped (reg s) (reg s') t o r
  tenant : ∀ {tid s t}, S.tenant tid s = .ok t → (reg s).tenants tid = some t
  putAdministrator : ∀ {tid a s r s'}, S.putAdministrator tid a s = (r, s') →
    Appointed (reg s) (reg s') tid a r
  administrators : ∀ {tid s l}, S.administrators tid s = .ok l → l = ((reg s).admins tid).values
  putSigningKey : ∀ {tid k s r s'}, S.putSigningKey tid k s = (r, s') →
    KeyAdded (reg s) (reg s') tid k
  signingKey : ∀ {tid kid s k}, S.signingKey tid kid s = .ok k →
    (reg s).signingKeys tid kid = some k
  putCredentialTemplate : ∀ {tid t order s r s'}, S.putCredentialTemplate tid t order s = (r, s') →
    TemplatePut (reg s) (reg s') tid t
  activeCredentialTemplate : ∀ {tid id s t}, S.activeCredentialTemplate tid id s = .ok t →
    (reg s).templates tid t
  putIssuanceRequest : ∀ {tid q s r s'}, S.putIssuanceRequest tid q s = (r, s') →
    RequestPut (reg s) (reg s') tid q
  issuanceRequest : ∀ {tid id s q}, S.issuanceRequest tid id s = .ok q →
    ∃ q', (reg s).requests tid id = some q' ∧ q.templateID = q'.templateID ∧
      q.templateVersion = q'.templateVersion
  decideIssuanceRequest : ∀ {tid a threshold s r s'},
    S.decideIssuanceRequest tid a threshold s = (r, s') →
    Decided (reg s) (reg s') tid a threshold
  consumeApprovedIssuanceRequest : ∀ {tid id now s r s'},
    S.consumeApprovedIssuanceRequest tid id now s = (r, s') → Offered (reg s) (reg s') tid id
  proposeDelegation : ∀ {tid d s r s'}, S.proposeDelegation tid d s = (r, s') →
    Proposed (reg s) (reg s') tid serve d r
  approveDelegation : ∀ {tid id did sig s r s'}, S.approveDelegation tid id did sig s = (r, s') →
    Approved (reg s) (reg s') tid id did sig r
  activateDelegation : ∀ {tid id now s r s'}, S.activateDelegation tid id now s = (r, s') →
    Activated (reg s) (reg s') tid id r
  revokeDelegation : ∀ {tid id now s r s'}, S.revokeDelegation tid id now s = (r, s') →
    (reg s).Restated (reg s')
  activeDelegation : ∀ {tid now s d}, S.activeDelegation tid now s = .ok d →
    ∃ i, (reg s).delegations tid i = some d ∧ d.state = "active"
  appendAudit : ∀ {tid e s r s'}, S.appendAudit tid e s = (r, s') → reg s' = reg s

end Ansible.Hosted
