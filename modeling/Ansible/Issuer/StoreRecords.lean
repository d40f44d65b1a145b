import Ansible.Issuer.MemoryStore
import Ansible.Issuer.PostgresStore
import Ansible.Issuer.Registry
import Ansible.Lib.JsonParse

/-!
# The records of both stores

The store in memory keeps a map of maps by tenant, the tables of PostgreSQL keep the
tenant in the row.  Seen by tenant and id, both hold the same kind of records.

## Main definitions

* `Records` — the records of a store, by tenant and id.
* `MemoryStore.records`, `PostgresStore.records` — the records of both stores.
* `Records.setTenant`, `Records.setAdmin`, … — a write, as the records see it.

## Main results

* `versionKey_injective` — a key leads to one version of one template.
* `Records.Kept.setTenant`, `Records.Kept.setRequest`, … — what each write keeps.
-/

namespace Ansible.Hosted

/-- The records of a store. -/
@[ext]
structure Records where
  tenants : String → Option Tenant
  /-- By tenant, then by DID. -/
  admins : String → Assoc String Administrator
  signingKeys : String → String → Option SigningKey
  credentials : String → String → Option CredentialRecord
  /-- By tenant, id and version. -/
  templates : String → String → ℤ → Option CredentialTemplate
  /-- As they are read. -/
  requests : String → String → Option IssuanceRequest
  /-- By tenant, request and approver. -/
  decisions : String → String → String → Option String
  delegations : String → String → Option Delegation
  statusIndexes : String → List ℤ
  auditLog : String → List AuditEvent

/-- The decisions on a request, without what no caller is told of them. -/
def decisionsOf (m : Assoc String IssuanceApproval) (did : String) : Option String :=
  (m.lookup did).map IssuanceApproval.decision

def versionKey (id : String) (version : ℤ) : String := id ++ ":" ++ toString version

/-- The records of the store in memory. -/
def MemoryStore.records (s : MemoryStore) : Records where
  tenants := s.tenants
  admins := s.admins
  signingKeys tid i := (s.signingKeys tid).lookup i
  credentials tid i := (s.credentials tid).lookup i
  templates tid i v := (s.templates tid).lookup (versionKey i v)
  requests tid i := (s.requests tid).lookup i
  decisions tid i := decisionsOf (s.approvals tid i)
  delegations tid i := (s.delegations tid).lookup i
  statusIndexes := s.statusIndexes
  auditLog := s.auditLog

/-- The records of the store over PostgreSQL. -/
def PostgresStore.records (s : PostgresStore) : Records where
  tenants tid := s.tenants.lookup tid
  admins := s.admins
  signingKeys tid i := (s.signingKeys.lookup i).filter fun k => k.tenantID == tid
  credentials tid i := (s.credentials.lookup i).filter fun r => r.tenantID == tid
  templates tid i v := (s.templates tid).lookup (i, v)
  requests tid i := (s.requestRow tid i).map PostgresStore.scanIssuanceRequest
  decisions tid i := decisionsOf (s.approvals tid i)
  delegations tid i := s.delegationRow tid i
  statusIndexes := s.statusIndexes
  auditLog tid := s.auditLog.filter fun e => e.tenantID == tid

/-! ### Keys of templates -/

theorem split_last {α : Type} {c : α} {l l' a a' : List α} (h : l ++ c :: a = l' ++ c :: a')
    (ha : c ∉ a) (ha' : c ∉ a') : l = l' ∧ a = a' := by
  rcases List.append_eq_append_iff.1 h with ⟨m, rfl, hm⟩ | ⟨m, rfl, hm⟩
  · cases m with
    | nil => simpa using hm
    | cons x m =>
      obtain ⟨rfl, rfl⟩ := List.cons.inj hm
      exact absurd (by simp) ha
  · cases m with
    | nil => simpa [eq_comm] using hm
    | cons x m =>
      obtain ⟨rfl, rfl⟩ := List.cons.inj hm
      exact absurd (by simp) ha'

theorem toList_toString (v : ℤ) : (toString v).toList = Json.encodeInt v := by
  have hnat : ∀ n : ℕ, (toString n).toList = Nat.toDigits 10 n := by
    intro n
    show (Nat.repr n).toList = _
    simp [Nat.repr]
  cases v with
  | ofNat n => exact hnat n
  | negSucc n =>
    show ("-" ++ toString (n + 1)).toList = _
    rw [String.toList_append, hnat]
    rfl

theorem encodeInt_injective {v v' : ℤ} (h : Json.encodeInt v = Json.encodeInt v') : v = v' := by
  have hends : Json.NumberEnds [] := by simp [Json.NumberEnds]
  have hv := Json.parseNumber_encodeInt v hends
  have hv' := Json.parseNumber_encodeInt v' hends
  rw [h, hv'] at hv
  simpa [eq_comm] using hv

theorem colon_not_mem (v : ℤ) : ':' ∉ (toString v).toList := by
  rw [toList_toString]
  have hnat : ∀ n : ℕ, ':' ∉ Nat.toDigits 10 n := by
    intro n h
    exact absurd (Nat.isDigit_of_mem_toDigits (by omega) (by omega) h) (by decide)
  cases v with
  | ofNat n => exact hnat n
  | negSucc n =>
    rw [Json.encodeInt, List.mem_cons, not_or]
    exact ⟨by decide, hnat (n + 1)⟩

/-- **A key leads to one version of one template**: the version stands after the last
colon. -/
theorem versionKey_injective {i i' : String} {v v' : ℤ} (h : versionKey i v = versionKey i' v') :
    i = i' ∧ v = v' := by
  have hlist := congrArg String.toList h
  simp only [versionKey, String.toList_append, List.append_assoc] at hlist
  obtain ⟨hi, hv⟩ := split_last hlist (colon_not_mem v) (colon_not_mem v')
  rw [toList_toString, toList_toString] at hv
  exact ⟨String.toList_inj.1 hi, encodeInt_injective hv⟩

/-! ### Writes -/

namespace Records

def setTenant (c : Records) (t : Tenant) : Records :=
  { c with tenants := Function.update c.tenants t.id (some t) }

def setAdmin (c : Records) (tid : String) (a : Administrator) : Records :=
  { c with admins := Function.update c.admins tid ((c.admins tid).insert a.did a) }

def setSigningKey (c : Records) (tid : String) (k : SigningKey) : Records :=
  { c with signingKeys := set₂ c.signingKeys tid k.id k }

def setCredential (c : Records) (tid i : String) (r : CredentialRecord) : Records :=
  { c with credentials := set₂ c.credentials tid i r }

/-- A version of a template is added; an active one leaves no other version active. -/
def addTemplate (c : Records) (tid : String) (t : CredentialTemplate) : Records :=
  { c with
    templates := Function.update c.templates tid fun i v =>
      if i = t.id ∧ v = t.version then some t
      else if i = t.id ∧ t.active then (c.templates tid i v).map ({ · with active := false })
      else c.templates tid i v }

def setRequest (c : Records) (tid i : String) (q : IssuanceRequest) : Records :=
  { c with requests := set₂ c.requests tid i q }

def setDecision (c : Records) (tid rid did decision : String) : Records :=
  { c with
    decisions := Function.update c.decisions tid
      (Function.update (c.decisions tid) rid
        (Function.update (c.decisions tid rid) did (some decision))) }

def setDelegation (c : Records) (tid i : String) (d : Delegation) : Records :=
  { c with delegations := set₂ c.delegations tid i d }

/-- The active delegations of the tenant are superseded. -/
def supersede (c : Records) (tid : String) : Records :=
  { c with
    delegations := Function.update c.delegations tid fun i =>
      (c.delegations tid i).map MemoryStore.superseded }

def setStatus (c : Records) (t : Tenant) (tid status : String) : Records :=
  { c with tenants := Function.update c.tenants tid (some { t with status }) }

def reserve (c : Records) (tid : String) (index : ℤ) : Records :=
  { c with
    statusIndexes := Function.update c.statusIndexes tid (index :: c.statusIndexes tid) }

def append (c : Records) (tid : String) (e : AuditEvent) : Records :=
  { c with auditLog := Function.update c.auditLog tid (c.auditLog tid ++ [e]) }

/-! ### What the writes keep -/

/-- A whole number of microseconds. -/
def Aligned (t : Time) : Prop := t / 1000 * 1000 = t

/-- What the writes keep of the records. -/
structure Kept (c : Records) : Prop where
  count : ∀ tid t, c.tenants tid = some t → 0 < t.administratorCount
  admins : ∀ tid, c.tenants tid = none → c.admins tid = ∅
  templates : ∀ tid i v t, c.templates tid i v = some t → t.id = i ∧ t.version = v
  oneTemplate : ∀ tid i v v' t t', c.templates tid i v = some t → c.templates tid i v' = some t' →
    t.active → t'.active → v = v'
  requests : ∀ tid i q, c.requests tid i = some q →
    q.id = i ∧ q.approvalCount = 0 ∧ Aligned q.expiresAt
  delegations : ∀ tid i d, c.delegations tid i = some d →
    (c.tenants tid).isSome ∧ Aligned d.notBefore ∧ Aligned d.expiresAt
  oneDelegation : ∀ tid i i' d d', c.delegations tid i = some d → c.delegations tid i' = some d' →
    d.state = "active" → d'.state = "active" → i = i'

/-! ### A version that is added -/

/-- The versions after one is added. -/
theorem addTemplate_cases {c : Records} {tid : String} {t : CredentialTemplate} {i : String} {v : ℤ}
    {x : CredentialTemplate} (hx : (c.addTemplate tid t).templates tid i v = some x) :
    (i = t.id ∧ v = t.version ∧ x = t) ∨ ∃ y, c.templates tid i v = some y ∧
      x = { y with active := x.active } ∧
        (x.active → y.active ∧ (i = t.id → t.active = false)) := by
  simp only [Records.addTemplate, Function.update_self] at hx
  split at hx
  · rename_i hiv
    exact .inl ⟨hiv.1, hiv.2, (Option.some.inj hx).symm⟩
  split at hx
  · obtain ⟨y, hy, rfl⟩ := Option.map_eq_some_iff.1 hx
    exact .inr ⟨y, hy, rfl, fun hact => absurd hact (by simp)⟩
  · rename_i hno
    refine .inr ⟨x, hx, rfl, fun hact => ⟨hact, fun hi => ?_⟩⟩
    simpa [hi] using hno

theorem addTemplate_of_ne {c : Records} {tid tid' : String} {t : CredentialTemplate}
    (htid : tid' ≠ tid) : (c.addTemplate tid t).templates tid' = c.templates tid' := by
  simp only [Records.addTemplate, Function.update_of_ne htid]

/-- A version of each template stays active at most once. -/
theorem oneTemplate_addTemplate {c : Records} {tid : String} {t : CredentialTemplate}
    (hone : ∀ tid i v v' x x', c.templates tid i v = some x → c.templates tid i v' = some x' →
      x.active → x'.active → v = v') (tid' i : String) (v v' : ℤ) (x x' : CredentialTemplate)
    (hx : (c.addTemplate tid t).templates tid' i v = some x)
    (hx' : (c.addTemplate tid t).templates tid' i v' = some x') (hact : x.active)
    (hact' : x'.active) : v = v' := by
  by_cases htid : tid' = tid
  · subst htid
    -- the new version is active, or an old one is, not both
    rcases addTemplate_cases hx with ⟨hi, rfl, rfl⟩ | ⟨y, hy, -, hold⟩ <;>
      rcases addTemplate_cases hx' with ⟨hi', rfl, heq⟩ | ⟨y', hy', -, hold'⟩
    · rfl
    · rw [(hold' hact').2 hi] at hact
      cases hact
    · rw [heq, (hold hact).2 hi'] at hact'
      cases hact'
    · exact hone tid' i v v' y y' hy hy' (hold hact).1 (hold' hact').1
  · rw [addTemplate_of_ne htid] at hx hx'
    exact hone tid' i v v' x x' hx hx' hact hact'

namespace Kept

variable {c : Records} (h : c.Kept) {tid : String}
include h

theorem writeTenant {t : Tenant} (ht : 0 < t.administratorCount) :
    Kept { c with tenants := Function.update c.tenants tid (some t) } := by
  have htenants : ∀ tid', Function.update c.tenants tid (some t) tid' =
      if tid' = tid then some t else c.tenants tid' := fun _ => Function.update_apply ..
  refine { h with count := ?_, admins := ?_, delegations := ?_ }
  · intro tid' t' ht'
    simp only [htenants] at ht'
    split at ht'
    · exact Option.some.inj ht' ▸ ht
    · exact h.count tid' t' ht'
  · intro tid' hnone
    simp only [htenants] at hnone
    split at hnone
    · cases hnone
    · exact h.admins tid' hnone
  · intro tid' i d hd
    obtain ⟨hsome, haligned⟩ := h.delegations tid' i d hd
    refine ⟨?_, haligned⟩
    simp only [htenants]
    split
    · rfl
    · exact hsome

theorem setTenant {t : Tenant} (ht : 0 < t.administratorCount) : (c.setTenant t).Kept :=
  h.writeTenant ht

theorem setStatus {t : Tenant} (ht : c.tenants tid = some t) (status : String) :
    (c.setStatus t tid status).Kept := h.writeTenant (h.count tid t ht)

theorem setAdmin (ht : (c.tenants tid).isSome) (a : Administrator) : (c.setAdmin tid a).Kept := by
  refine { h with admins := ?_ }
  intro tid' hnone
  by_cases htid : tid' = tid
  · subst htid
    have : c.tenants tid' = none := hnone
    rw [this] at ht
    cases ht
  · exact (Function.update_of_ne htid ..).trans (h.admins tid' hnone)

theorem setSigningKey (k : SigningKey) : (c.setSigningKey tid k).Kept := { h with }

theorem setCredential (i : String) (r : CredentialRecord) : (c.setCredential tid i r).Kept :=
  { h with }

theorem setDecision (rid did decision : String) : (c.setDecision tid rid did decision).Kept :=
  { h with }

theorem reserve (index : ℤ) : (c.reserve tid index).Kept := { h with }

theorem append (e : AuditEvent) : (c.append tid e).Kept := { h with }

theorem setRequest {i : String} {q : IssuanceRequest} (hid : q.id = i)
    (hcount : q.approvalCount = 0)
    (hexp : Aligned q.expiresAt) : (c.setRequest tid i q).Kept := by
  refine { h with requests := ?_ }
  intro tid' i' q' hq'
  rcases of_set₂ hq' with ⟨rfl, rfl, rfl⟩ | hold
  · exact ⟨hid, hcount, hexp⟩
  · exact h.requests tid' i' q' hold

theorem addTemplate {t : CredentialTemplate}
    (hnew : ∀ v x, c.templates tid t.id v = some x → v < t.version) :
    (c.addTemplate tid t).Kept := by
  refine { h with templates := ?_, oneTemplate := oneTemplate_addTemplate h.oneTemplate }
  intro tid' i v x hx
  by_cases htid : tid' = tid
  · subst htid
    rcases addTemplate_cases hx with ⟨rfl, rfl, rfl⟩ | ⟨y, hy, heq, -⟩
    · exact ⟨rfl, rfl⟩
    · rw [heq]
      exact h.templates tid' i v y hy
  · rw [addTemplate_of_ne htid] at hx
    exact h.templates tid' i v x hx

theorem setDelegation (ht : (c.tenants tid).isSome) {i : String} {d : Delegation}
    (hnot : Aligned d.notBefore) (hexp : Aligned d.expiresAt)
    (hone : d.state = "active" → ∀ i' d', c.delegations tid i' = some d' →
      d'.state = "active" → i' = i) : (c.setDelegation tid i d).Kept := by
  refine { h with delegations := ?_, oneDelegation := ?_ }
  · intro tid' i' d' hd'
    rcases of_set₂ hd' with ⟨rfl, rfl, rfl⟩ | hold
    · exact ⟨ht, hnot, hexp⟩
    · exact h.delegations tid' i' d' hold
  · intro tid' i₁ i₂ d₁ d₂ hd₁ hd₂ hact₁ hact₂
    rcases of_set₂ hd₁ with ⟨rfl, rfl, rfl⟩ | hold₁ <;> rcases of_set₂ hd₂ with
      ⟨htid, rfl, heq⟩ | hold₂
    · rfl
    · exact (hone hact₁ i₂ d₂ hold₂ hact₂).symm
    · subst htid
      exact hone (heq ▸ hact₂) i₁ d₁ hold₁ hact₁
    · exact h.oneDelegation tid' i₁ i₂ d₁ d₂ hold₁ hold₂ hact₁ hact₂

theorem supersede (tid : String) : (c.supersede tid).Kept ∧
    ∀ i d, (c.supersede tid).delegations tid i = some d → d.state ≠ "active" := by
  have hstate : ∀ d, (MemoryStore.superseded d).state ≠ "active" := by
    intro d
    unfold MemoryStore.superseded
    split
    · exact (by decide : "superseded" ≠ "active")
    · assumption
  have htimes : ∀ d, (MemoryStore.superseded d).notBefore = d.notBefore ∧
      (MemoryStore.superseded d).expiresAt = d.expiresAt := by
    intro d
    unfold MemoryStore.superseded
    split <;> exact ⟨rfl, rfl⟩
  have hnone : ∀ i d, (c.supersede tid).delegations tid i = some d → d.state ≠ "active" := by
    intro i d hd
    simp only [Records.supersede, Function.update_self] at hd
    obtain ⟨x, -, rfl⟩ := Option.map_eq_some_iff.1 hd
    exact hstate x
  refine ⟨{ h with delegations := ?_, oneDelegation := ?_ }, hnone⟩
  · intro tid' i d hd
    by_cases htid : tid' = tid
    · subst htid
      simp only [Records.supersede, Function.update_self] at hd
      obtain ⟨x, hx, rfl⟩ := Option.map_eq_some_iff.1 hd
      rw [(htimes x).1, (htimes x).2]
      exact h.delegations tid' i x hx
    · simp only [Records.supersede, Function.update_of_ne htid] at hd
      exact h.delegations tid' i d hd
  · intro tid' i i' d d' hd hd' hact hact'
    by_cases htid : tid' = tid
    · subst htid
      exact absurd hact (hnone i d hd)
    · simp only [Records.supersede, Function.update_of_ne htid] at hd hd'
      exact h.oneDelegation tid' i i' d d' hd hd' hact hact'

end Kept

end Records

end Ansible.Hosted
