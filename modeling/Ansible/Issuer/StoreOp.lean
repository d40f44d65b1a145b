import Ansible.Issuer.StoreRecords

/-!
# Operations on a store, as data

An operation with its arguments is a label of a run, so that one sequence of
operations can be applied to either store.  A list that an operation answers with is
compared as a multiset: most of them come from a walk through a map.

## Main definitions

* `StoreOp`, `Answer`, `StoreOp.run` — the operations and what they answer.
-/

namespace Ansible.Hosted

/-- An operation of a store. -/
inductive StoreOp where
  | bootstrapTenant (t : Tenant) (owner : Administrator)
  | createTenant (t : Tenant)
  | tenant (tid : String)
  | putAdministrator (tid : String) (a : Administrator)
  | administrators (tid : String)
  | putSigningKey (tid : String) (k : SigningKey)
  | signingKey (tid kid : String)
  /-- With the random draws. -/
  | reserveStatusIndex (tid : String) (draws : List ℤ)
  | putCredentialRecord (tid : String) (r : CredentialRecord)
  | setCredentialStatus (tid cid status : String)
  | credentialRecords (tid : String)
  /-- With the order in which a map is walked. -/
  | putCredentialTemplate (tid : String) (t : CredentialTemplate) (order : List String)
  | activeCredentialTemplate (tid id : String)
  | activeCredentialTemplates (tid : String)
  | putIssuanceRequest (tid : String) (q : IssuanceRequest)
  | issuanceRequest (tid id : String)
  | issuanceRequests (tid state : String)
  | decideIssuanceRequest (tid : String) (a : IssuanceApproval) (threshold : ℤ)
  | consumeApprovedIssuanceRequest (tid id : String) (now : Time)
  | proposeDelegation (tid : String) (d : Delegation)
  | approveDelegation (tid id did : String) (signature : Binary)
  | activateDelegation (tid id : String) (now : Time)
  | revokeDelegation (tid id : String) (now : Time)
  | activeDelegation (tid : String) (now : Time)
  | appendAudit (tid : String) (e : AuditEvent)
  | audit (tid : String)

/-- What an operation answers when it succeeds. -/
inductive Answer where
  | done
  | tenant (t : Tenant)
  | administrators (l : Multiset Administrator)
  | signingKey (k : SigningKey)
  | statusIndex (index : ℤ)
  | credentialRecords (l : Multiset CredentialRecord)
  | template (t : CredentialTemplate)
  | templates (l : Multiset CredentialTemplate)
  | request (q : IssuanceRequest)
  | requests (l : Multiset IssuanceRequest)
  | delegation (d : Delegation)
  | audit (l : Multiset AuditEvent)

/-- A success with an answer, or the class of an error. -/
abbrev StoreReply := Except StoreError Answer

section Run

variable {σ : Type} (S : StoreOps σ)

/-- A write, with its answer. -/
def answered {α : Type} (f : α → Answer) (out : Out σ α) : StoreReply × σ := (out.1.map f, out.2)

/-- A write that answers nothing. -/
def written (out : Out σ Unit) : StoreReply × σ := answered (fun _ => .done) out

/-- A read, with its answer. -/
def read {α : Type} (f : α → Answer) (s : σ) (r : Except StoreError α) : StoreReply × σ :=
  (r.map f, s)

/-- What an operation answers, and the store after it. -/
def StoreOp.run (s : σ) : StoreOp → StoreReply × σ
  | .bootstrapTenant t owner => written (S.bootstrapTenant t owner s)
  | .createTenant t => written (S.createTenant t s)
  | .tenant tid => read .tenant s (S.tenant tid s)
  | .putAdministrator tid a => written (S.putAdministrator tid a s)
  | .administrators tid => read (fun l => .administrators l) s (S.administrators tid s)
  | .putSigningKey tid k => written (S.putSigningKey tid k s)
  | .signingKey tid kid => read .signingKey s (S.signingKey tid kid s)
  | .reserveStatusIndex tid draws => answered .statusIndex (S.reserveStatusIndex tid draws s)
  | .putCredentialRecord tid r => written (S.putCredentialRecord tid r s)
  | .setCredentialStatus tid cid status => written (S.setCredentialStatus tid cid status s)
  | .credentialRecords tid => read (fun l => .credentialRecords l) s (S.credentialRecords tid s)
  | .putCredentialTemplate tid t order => written (S.putCredentialTemplate tid t order s)
  | .activeCredentialTemplate tid id => read .template s (S.activeCredentialTemplate tid id s)
  | .activeCredentialTemplates tid =>
      read (fun l => .templates l) s (S.activeCredentialTemplates tid s)
  | .putIssuanceRequest tid q => written (S.putIssuanceRequest tid q s)
  | .issuanceRequest tid id => read .request s (S.issuanceRequest tid id s)
  | .issuanceRequests tid state => read (fun l => .requests l) s (S.issuanceRequests tid state s)
  | .decideIssuanceRequest tid a threshold =>
      answered .request (S.decideIssuanceRequest tid a threshold s)
  | .consumeApprovedIssuanceRequest tid id now =>
      answered .request (S.consumeApprovedIssuanceRequest tid id now s)
  | .proposeDelegation tid d => written (S.proposeDelegation tid d s)
  | .approveDelegation tid id did signature => written (S.approveDelegation tid id did signature s)
  | .activateDelegation tid id now => written (S.activateDelegation tid id now s)
  | .revokeDelegation tid id now => written (S.revokeDelegation tid id now s)
  | .activeDelegation tid now => read .delegation s (S.activeDelegation tid now s)
  | .appendAudit tid e => written (S.appendAudit tid e s)
  | .audit tid => read (fun l => .audit l) s (S.audit tid s)

end Run

/-! ### When both stores answer alike -/

open PostgresStore (areTexts timestamps snapshotText scanIssuanceRequest)

/-- An instant that a column stores as it is. -/
def Precise (t : Time) : Prop := timestamptz t = some t

/-- An instant that is in the range of a column. -/
def Dated (t : Time) : Prop := (timestamptz t).isSome

/-- What both stores refuse a tenant for. -/
def Nameless (t : Tenant) : Prop :=
  t.id = "" ∨ t.organizationDID = "" ∨ t.serviceSlug = "" ∨ t.threshold < 1

/-- What both stores refuse an owner for. -/
def Unfit (owner : Administrator) : Prop :=
  owner.did = "" ∨ owner.custody ≠ "hardware" ∨ owner.signingAlgorithm ≠ "p256-sha256"

namespace Records

variable (c : Records)

/-- The row of a tenant meets the constraints of its table. -/
def TenantFits (t : Tenant) : Prop :=
  areTexts [t.id, t.organizationDID, t.serviceSlug, t.status] ∧ isInt4 t.threshold ∧
    isInt4 t.administratorCount ∧ t.threshold ≤ t.administratorCount ∧
    t.status ∈ ["draft", "active", "paused", "closed"] ∧ Precise t.createdAt ∧
    ∀ tid x, c.tenants tid = some x →
      x.organizationDID ≠ t.organizationDID ∧ x.serviceSlug ≠ t.serviceSlug

/-- The row of a signing key meets the constraints of its table. -/
def SigningKeyFits (tid : String) (k : SigningKey) : Prop :=
  areTexts [k.id, tid, k.kmsKeyVersion, k.algorithm, k.protectionLevel, k.state] ∧
    k.protectionLevel ∈ ["HSM", "HSM_SINGLE_TENANT"] ∧ Precise k.createdAt ∧
    ∀ tid' i x, c.signingKeys tid' i = some x →
      i ≠ k.id ∧ x.kmsKeyVersion ≠ k.kmsKeyVersion ∧ (tid' = tid → x.version ≠ k.version)

/-- The statement that inserts a credential can be run. -/
def CredentialSent (tid : String) (r : CredentialRecord) : Prop :=
  areTexts [r.credentialID, tid, r.credentialHash, r.credentialType, r.subjectPairwiseHash,
    r.status, r.policySnapshotHash] ∧ Dated r.issuedAt ∧ Dated r.expiresAt

/-- The row of a credential meets the constraints of its table. -/
def CredentialFits (tid : String) (r : CredentialRecord) : Prop :=
  Precise r.issuedAt ∧ Precise r.expiresAt ∧ (∀ tid', c.credentials tid' r.credentialID = none) ∧
    ∀ i x, c.credentials tid i = some x →
      x.credentialHash ≠ r.credentialHash ∧ x.statusIndex ≠ r.statusIndex

/-- The row of a template meets the constraints of its table, and what the store in memory
demands of one. -/
def TemplateFits (tid : String) (t : CredentialTemplate) : Prop :=
  areTexts [t.id, tid, t.credentialType] ∧ (t.claimAllowlist.any isTextArray) ∧
    isInt4 t.approvalThreshold ∧ isInt4 t.maxTTLDays ∧ t.id ≠ "" ∧ 1 ≤ t.version ∧
    t.credentialType ≠ "" ∧ 1 ≤ t.approvalThreshold ∧ 1 ≤ t.maxTTLDays

/-- The statement that inserts a request can be run, and the store in memory takes it. -/
def RequestSent (tid : String) (q : IssuanceRequest) : Prop :=
  areTexts [q.id, tid, q.templateID, q.applicantPairwiseDID, q.applicantHash, q.payloadHash] ∧
    (q.policySnapshot.any storableFields) ∧ Dated q.expiresAt ∧ Dated q.createdAt ∧ q.id ≠ "" ∧
    q.templateID ≠ "" ∧ 1 ≤ q.templateVersion ∧ q.applicantPairwiseDID ≠ "" ∧ q.payloadHash ≠ "" ∧
    q.expiresAt ≠ 0

/-- The row of a request meets the constraints of its table, and is read as it was put. -/
def RequestFits (tid : String) (q : IssuanceRequest) : Prop :=
  Precise q.expiresAt ∧ Precise q.createdAt ∧ scanIssuanceRequest q = q ∧
    (c.tenants tid).isSome ∧ (c.templates tid q.templateID q.templateVersion).isSome ∧
    (∀ tid', c.requests tid' q.id = none) ∧
    ∀ i x, c.requests tid i = some x → x.payloadHash ≠ q.payloadHash

/-- The statement that inserts a delegation can be run, and the store in memory takes it. -/
def DelegationSent (S : Server) (tid : String) (d : Delegation) : Prop :=
  areTexts [d.id, tid, d.signingKeyID, d.payloadHash] ∧ (d.credentialTypes.any isTextArray) ∧
    Dated d.notBefore ∧ Dated d.expiresAt ∧ (S.jsonbText d.canonicalJSON).isSome ∧ d.id ≠ "" ∧
    1 ≤ d.sequence ∧ d.payloadHash ≠ "" ∧ d.expiresAt ≠ 0

/-- The row of a delegation meets the constraints of its table, and is read as it was put. -/
def DelegationFits (S : Server) (tid : String) (d : Delegation) : Prop :=
  Precise d.notBefore ∧ Precise d.expiresAt ∧ S.jsonbText d.canonicalJSON = some d.canonicalJSON ∧
    (c.signingKeys tid d.signingKeyID).isSome ∧ (∀ tid', c.delegations tid' d.id = none) ∧
    ∀ i x, c.delegations tid i = some x →
      x.sequence < d.sequence ∧ x.payloadHash ≠ d.payloadHash

/-- A delegation has the id, or one of the tenant has the sequence number or the document. -/
def DelegationTaken (tid : String) (d : Delegation) : Prop :=
  (∃ tid', (c.delegations tid' d.id).isSome) ∨ ∃ i x, c.delegations tid i = some x ∧
    (x.sequence = d.sequence ∨ x.payloadHash = d.payloadHash)

/-- The administrator is one of the tenant's, and active. -/
def ActiveAdmin (tid did : String) : Prop :=
  ∃ admin, (c.admins tid).lookup did = some admin ∧ admin.state = "active"

/-- The store in memory takes the decision, unless there is one already. -/
def DecisionTaken (tid : String) (a : IssuanceApproval) : Prop :=
  (∃ q, c.requests tid a.requestID = some q ∧ q.state = "pending") ∧
    c.ActiveAdmin tid a.approverDID ∧ (a.decision = "approve" ∨ a.decision = "deny") ∧
    a.signedIntentHash ≠ ""

/-- The tenant exists, and its id can be sent to the server. -/
def Known (tid : String) : Prop := isText tid ∧ (c.tenants tid).isSome

end Records

/-- **Both stores answer the operation alike**, over stores with these records. -/
def Conforms (S : Server) (c : Records) : StoreOp → Prop
  | .bootstrapTenant t owner => Nameless (withDefaults t) ∨ Unfit owner ∨
      ((withDefaults t).threshold ≤ (withDefaults t).administratorCount ∧
        ((c.tenants t.id).isSome ∨
          (c.TenantFits (withDefaults t) ∧ areTexts [owner.did, owner.publicKeyHex])))
  | .createTenant t => Nameless (withDefaults t) ∨ (c.tenants t.id).isSome ∨
      c.TenantFits (withDefaults t)
  | .tenant tid => isText tid
  | .putAdministrator tid a => isText tid ∧ match c.tenants tid with
      | none => ¬ outOfScope a.tenantID tid
      | some t => outOfScope a.tenantID tid ∨ (isText a.did ∧
          ((a.did ∉ c.admins tid ∧ t.administratorCount ≤ (c.admins tid).keys.length) ∨
            areTexts [a.role, a.state, a.signingAlgorithm, a.publicKeyHex, a.custody]))
  | .administrators tid => c.Known tid
  | .putSigningKey tid k => (c.tenants tid).isSome ∧
      (outOfScope k.tenantID tid ∨ c.SigningKeyFits tid k)
  | .signingKey tid kid => areTexts [tid, kid]
  | .reserveStatusIndex tid _ => c.Known tid
  | .putCredentialRecord tid r => outOfScope r.tenantID tid ∨ (Records.CredentialSent tid r ∧
      if r.statusIndex ∈ c.statusIndexes tid then
        (c.credentials tid r.credentialID).isSome ∨ c.CredentialFits tid r
      else ∀ x, c.credentials tid r.credentialID = some x → x.credentialHash ≠ r.credentialHash)
  | .setCredentialStatus tid cid status =>
      if status = "active" ∨ status = "revoked" ∨ status = "suspended" then areTexts [tid, cid]
      else (c.credentials tid cid).isSome
  | .credentialRecords tid => c.Known tid
  | .putCredentialTemplate tid t _ => c.Known tid ∧ (outOfScope t.tenantID tid ∨
      (Records.TemplateFits tid t ∧
        ((∀ v x, c.templates tid t.id v = some x → v < t.version) ∨
          ((c.templates tid t.id t.version).isSome ∧ (t.active → ∀ v x,
            c.templates tid t.id v = some x → v < t.version → x.active = false)))))
  | .activeCredentialTemplate tid id => areTexts [tid, id]
  | .activeCredentialTemplates tid => c.Known tid
  | .putIssuanceRequest tid q => outOfScope q.tenantID tid ∨ (Records.RequestSent tid q ∧
      ((c.requests tid q.id).isSome ∨ c.RequestFits tid q))
  | .issuanceRequest tid id => areTexts [tid, id]
  | .issuanceRequests tid state => c.Known tid ∧ isText state
  | .decideIssuanceRequest tid a threshold => c.DecisionTaken tid a →
      1 ≤ threshold ∧ areTexts [tid, a.requestID, a.approverDID, a.signedIntentHash] ∧
        Dated a.createdAt ∧ c.decisions tid a.requestID a.approverDID = none
  | .consumeApprovedIssuanceRequest tid id now => Dated now ∧ areTexts [tid, id] ∧
      ∃ q, c.requests tid id = some q ∧ q.state = "approved" ∧ now < q.expiresAt
  | .proposeDelegation tid d => (c.tenants tid).isSome ∧ (outOfScope d.tenantID tid ∨
      (Records.DelegationSent S tid d ∧ (c.DelegationFits S tid d ∨
        ((∃ i x, c.delegations tid i = some x ∧ d.sequence ≤ x.sequence) ∧
          c.DelegationTaken tid d))))
  | .approveDelegation tid id did signature => areTexts [tid, id, did] ∧
      ∀ d, c.delegations tid id = some d →
        d.state = "proposed" ∧ c.ActiveAdmin tid did ∧ signature ≠ []
  | .activateDelegation tid id now => S.hasObjectLength ∧ Dated now ∧ areTexts [tid, id] ∧
      ∀ d, c.delegations tid id = some d →
        d.state = "proposed" ∧ d.notBefore ≤ now ∧ now < d.expiresAt
  | .revokeDelegation tid id _ => areTexts [tid, id]
  | .activeDelegation tid now => Dated now ∧ isText tid
  | .appendAudit tid e => (c.tenants tid).isSome ∧ (outOfScope e.tenantID tid ∨
      (areTexts [e.id, tid, e.eventType, e.actorDID, e.requestHash] ∧ Precise e.createdAt ∧
        ∀ tid', ∀ x ∈ c.auditLog tid', x.id ≠ e.id))
  | .audit tid => c.Known tid

end Ansible.Hosted
