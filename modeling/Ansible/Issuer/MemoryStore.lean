import Ansible.Issuer.HostedModel

/-!
# The hosted issuer's store in memory

Maps from tenants to maps of records.  A tenant without a map reads as one with
an empty map.  Every operation takes the lock of the store and is one step.

## Main definitions

* `MemoryStore.ops` — the operations of a store, on these maps.
-/

namespace Ansible.Hosted

/-- The maps of the store. -/
structure MemoryStore where
  tenants : String → Option Tenant := fun _ => none
  admins : String → Assoc String Administrator := fun _ => ∅
  delegations : String → Assoc String Delegation := fun _ => ∅
  auditLog : String → List AuditEvent := fun _ => []
  signingKeys : String → Assoc String SigningKey := fun _ => ∅
  credentials : String → Assoc String CredentialRecord := fun _ => ∅
  /-- By id and version. -/
  templates : String → Assoc String CredentialTemplate := fun _ => ∅
  requests : String → Assoc String IssuanceRequest := fun _ => ∅
  /-- By request, then by approver. -/
  approvals : String → String → Assoc String IssuanceApproval := fun _ _ => ∅
  statusIndexes : String → List ℤ := fun _ => []

namespace MemoryStore

/-! ### Writing a map -/

def setTenant (s : MemoryStore) (t : Tenant) : MemoryStore :=
  { s with tenants := Function.update s.tenants t.id (some t) }

def setAdmin (s : MemoryStore) (tenantID : String) (a : Administrator) : MemoryStore :=
  { s with admins := Function.update s.admins tenantID ((s.admins tenantID).insert a.did a) }

def putDelegation (s : MemoryStore) (tenantID delegationID : String) (d : Delegation) :
    MemoryStore :=
  { s with
    delegations := Function.update s.delegations tenantID
      ((s.delegations tenantID).insert delegationID d) }

def setRequest (s : MemoryStore) (tenantID : String) (r : IssuanceRequest) : MemoryStore :=
  { s with requests := Function.update s.requests tenantID ((s.requests tenantID).insert r.id r) }

def setTemplate (s : MemoryStore) (tenantID key : String) (t : CredentialTemplate) :
    MemoryStore :=
  { s with templates := Function.update s.templates tenantID ((s.templates tenantID).insert key t) }

def setSigningKey (s : MemoryStore) (tenantID : String) (k : SigningKey) : MemoryStore :=
  { s with
    signingKeys := Function.update s.signingKeys tenantID ((s.signingKeys tenantID).insert k.id k) }

def setCredential (s : MemoryStore) (tenantID : String) (r : CredentialRecord) : MemoryStore :=
  { s with
    credentials := Function.update s.credentials tenantID
      ((s.credentials tenantID).insert r.credentialID r) }

def setApproval (s : MemoryStore) (tenantID requestID : String) (a : IssuanceApproval) :
    MemoryStore :=
  { s with
    approvals := Function.update s.approvals tenantID
      (Function.update (s.approvals tenantID) requestID
        ((s.approvals tenantID requestID).insert a.approverDID a)) }

def setStatus (s : MemoryStore) (tenant : Tenant) (tenantID status : String) : MemoryStore :=
  { s with tenants := Function.update s.tenants tenantID (some { tenant with status }) }

/-! ### Tenants and administrators -/

def bootstrapTenant (tenant : Tenant) (owner : Administrator) (s : MemoryStore) :
    Out MemoryStore Unit :=
  let tenant := withDefaults tenant
  if tenant.id = "" ∨ tenant.organizationDID = "" ∨ tenant.serviceSlug = "" ∨
      tenant.threshold < 1 ∨ tenant.administratorCount < tenant.threshold ∨ owner.did = "" ∨
      owner.custody ≠ "hardware" ∨ owner.signingAlgorithm ≠ "p256-sha256" then
    (.error .delegationInvalid, s)
  else if (s.tenants tenant.id).isSome then (.error .other, s)
  else
    let owner := { owner with tenantID := tenant.id, role := "owner", state := "active" }
    let s := s.setTenant tenant
    (.ok (), { s with
      admins := Function.update s.admins tenant.id ((∅ : Assoc _ _).insert owner.did owner) })

def createTenant (tenant : Tenant) (s : MemoryStore) : Out MemoryStore Unit :=
  let tenant := withDefaults tenant
  if tenant.id = "" ∨ tenant.organizationDID = "" ∨ tenant.serviceSlug = "" ∨
      tenant.threshold < 1 then
    (.error .delegationInvalid, s)
  else if (s.tenants tenant.id).isSome then (.error .other, s)
  else (.ok (), s.setTenant tenant)

def tenant (tenantID : String) (s : MemoryStore) : Except StoreError Tenant :=
  match s.tenants tenantID with
  | some t => .ok t
  | none => .error .notFound

def putAdministrator (tenantID : String) (administrator : Administrator) (s : MemoryStore) :
    Out MemoryStore Unit :=
  match s.tenants tenantID with
  | none => (.error .notFound, s)
  | some tenant =>
    if outOfScope administrator.tenantID tenantID then (.error .tenantScope, s)
    else if administrator.did ∉ s.admins tenantID ∧ tenant.administratorCount > 0 ∧
        (s.admins tenantID).keys.length ≥ tenant.administratorCount then
      (.error .thresholdNotMet, s)
    else (.ok (), s.setAdmin tenantID { administrator with tenantID := tenantID })

def administrators (tenantID : String) (s : MemoryStore) :
    Except StoreError (List Administrator) :=
  if (s.tenants tenantID).isSome then .ok (s.admins tenantID).values else .error .notFound

/-! ### Signing keys -/

def putSigningKey (tenantID : String) (key : SigningKey) (s : MemoryStore) :
    Out MemoryStore Unit :=
  if (s.tenants tenantID).isNone then (.error .notFound, s)
  else if outOfScope key.tenantID tenantID then (.error .tenantScope, s)
  else if key.id ∈ s.signingKeys tenantID then (.error .delegationInvalid, s)
  else (.ok (), s.setSigningKey tenantID { key with tenantID := tenantID })

def signingKey (tenantID keyID : String) (s : MemoryStore) : Except StoreError SigningKey :=
  match (s.signingKeys tenantID).lookup keyID with
  | some key => .ok key
  | none => .error .notFound

/-! ### Credentials -/

def reserveStatusIndex (tenantID : String) (draws : List ℤ) (s : MemoryStore) :
    Out MemoryStore ℤ :=
  if (s.tenants tenantID).isNone then (.error .notFound, s)
  else match firstFree (s.statusIndexes tenantID) draws with
    | some index => (.ok index, { s with
        statusIndexes :=
          Function.update s.statusIndexes tenantID (index :: s.statusIndexes tenantID) })
    | none => (.error .other, s)

def putCredentialRecord (tenantID : String) (record : CredentialRecord) (s : MemoryStore) :
    Out MemoryStore Unit :=
  if outOfScope record.tenantID tenantID then (.error .tenantScope, s)
  else if record.statusIndex ∉ s.statusIndexes tenantID then (.error .delegationInvalid, s)
  else match (s.credentials tenantID).lookup record.credentialID with
    | some existing =>
        if existing.credentialHash = record.credentialHash then (.ok (), s)
        else (.error .delegationInvalid, s)
    | none => (.ok (), s.setCredential tenantID { record with tenantID := tenantID })

def setCredentialStatus (tenantID credentialID status : String) (s : MemoryStore) :
    Out MemoryStore Unit :=
  match (s.credentials tenantID).lookup credentialID with
  | none => (.error .notFound, s)
  | some record =>
    if status ≠ "active" ∧ status ≠ "revoked" ∧ status ≠ "suspended" then
      (.error .delegationInvalid, s)
    else (.ok (), { s with
      credentials := Function.update s.credentials tenantID
        ((s.credentials tenantID).insert credentialID { record with status }) })

def credentialRecords (tenantID : String) (s : MemoryStore) :
    Except StoreError (List CredentialRecord) :=
  if (s.tenants tenantID).isSome then .ok (s.credentials tenantID).values else .error .notFound

/-! ### Templates -/

def templateKey (t : CredentialTemplate) : String := t.id ++ ":" ++ toString t.version

/-- The keys of a map in the order in which a loop walks them: any order that is asked for. -/
def walk (m : Assoc String CredentialTemplate) (order : List String) : List String :=
  (order.filter (· ∈ m.keys)).dedup ++ m.keys.filter (· ∉ order)

/-- The loop over the templates: it stops at a version that is not older than the new one,
and has by then deactivated the older ones it came across. -/
def supersede (tenantID : String) (template : CredentialTemplate) :
    List String → MemoryStore → Out MemoryStore Unit
  | [], s => (.ok (), s)
  | key :: keys, s =>
    match (s.templates tenantID).lookup key with
    | none => supersede tenantID template keys s
    | some current =>
      if current.id = template.id then
        if template.version ≤ current.version then (.error .delegationReplay, s)
        else if template.active then
          supersede tenantID template keys
            (s.setTemplate tenantID key { current with active := false })
        else supersede tenantID template keys s
      else supersede tenantID template keys s

def putCredentialTemplate (tenantID : String) (template : CredentialTemplate)
    (order : List String) (s : MemoryStore) : Out MemoryStore Unit :=
  if (s.tenants tenantID).isNone then (.error .notFound, s)
  else if outOfScope template.tenantID tenantID then (.error .tenantScope, s)
  else if template.id = "" ∨ template.version < 1 ∨ template.credentialType = "" ∨
      template.approvalThreshold < 1 ∨ template.maxTTLDays < 1 then (.error .delegationInvalid, s)
  else match supersede tenantID template (walk (s.templates tenantID) order) s with
    | (.error e, s') => (.error e, s')
    | (.ok (), s') =>
      (.ok (), s'.setTemplate tenantID (templateKey template)
        { template with tenantID := tenantID })

def activeCredentialTemplate (tenantID templateID : String) (s : MemoryStore) :
    Except StoreError CredentialTemplate :=
  match (s.templates tenantID).values.find? fun t => t.id == templateID && t.active with
  | some t => .ok t
  | none => .error .notFound

def activeCredentialTemplates (tenantID : String) (s : MemoryStore) :
    Except StoreError (List CredentialTemplate) :=
  if (s.tenants tenantID).isSome then
    .ok (((s.templates tenantID).values.filter (·.active)).mergeSort fun a b => a.id ≤ b.id)
  else .error .notFound

/-! ### Issuance requests -/

def putIssuanceRequest (tenantID : String) (request : IssuanceRequest) (s : MemoryStore) :
    Out MemoryStore Unit :=
  if outOfScope request.tenantID tenantID then (.error .tenantScope, s)
  else if request.id = "" ∨ request.templateID = "" ∨ request.templateVersion < 1 ∨
      request.applicantPairwiseDID = "" ∨ request.payloadHash = "" ∨ request.expiresAt = 0 then
    (.error .delegationInvalid, s)
  else if request.id ∈ s.requests tenantID then (.error .delegationReplay, s)
  else (.ok (), s.setRequest tenantID { request with tenantID := tenantID, state := "pending" })

def issuanceRequest (tenantID requestID : String) (s : MemoryStore) :
    Except StoreError IssuanceRequest :=
  match (s.requests tenantID).lookup requestID with
  | some request => .ok request
  | none => .error .notFound

/-- The number of approvals of a request. -/
def approved (s : MemoryStore) (tenantID requestID : String) : ℕ :=
  (s.approvals tenantID requestID).values.countP fun a => a.decision == "approve"

def issuanceRequests (tenantID state : String) (s : MemoryStore) :
    Except StoreError (List IssuanceRequest) :=
  if (s.tenants tenantID).isSome then
    .ok ((((s.requests tenantID).values.filter fun r => state == "" || r.state == state).map
      fun r => { r with approvalCount := r.approvalCount + s.approved tenantID r.id }).mergeSort
        fun a b => b.createdAt ≤ a.createdAt)
  else .error .notFound

def decideIssuanceRequest (tenantID : String) (approval : IssuanceApproval) (threshold : ℤ)
    (s : MemoryStore) : Out MemoryStore IssuanceRequest :=
  match (s.requests tenantID).lookup approval.requestID,
      (s.admins tenantID).lookup approval.approverDID with
  | some request, some admin =>
    if admin.state ≠ "active" ∨ request.state ≠ "pending" ∨
        (approval.decision ≠ "approve" ∧ approval.decision ≠ "deny") ∨
        approval.signedIntentHash = "" then (.error .delegationInvalid, s)
    else match (s.approvals tenantID request.id).lookup approval.approverDID with
      | some existing =>
          if existing.decision = approval.decision ∧
              existing.signedIntentHash = approval.signedIntentHash then (.ok request, s)
          else (.error .delegationReplay, s)
      | none =>
          let s := s.setApproval tenantID request.id { approval with tenantID := tenantID }
          let request := if approval.decision = "deny" then { request with state := "denied" }
            else if threshold ≤ s.approved tenantID request.id then
              { request with state := "approved" }
            else request
          (.ok request, s.setRequest tenantID request)
  | _, _ => (.error .delegationInvalid, s)

def consumeApprovedIssuanceRequest (tenantID requestID : String) (now : Time)
    (s : MemoryStore) : Out MemoryStore IssuanceRequest :=
  match (s.requests tenantID).lookup requestID with
  | none => (.error .delegationInvalid, s)
  | some request =>
    if request.state ≠ "approved" ∨ ¬ now < request.expiresAt then (.error .delegationInvalid, s)
    else
      let request := { request with state := "offered" }
      (.ok request, { s with
        requests := Function.update s.requests tenantID
          ((s.requests tenantID).insert requestID request) })

/-! ### Delegations -/

def proposeDelegation (tenantID : String) (delegation : Delegation) (s : MemoryStore) :
    Out MemoryStore Unit :=
  if (s.tenants tenantID).isNone then (.error .notFound, s)
  else if outOfScope delegation.tenantID tenantID then (.error .tenantScope, s)
  else if delegation.id = "" ∨ delegation.sequence < 1 ∨ delegation.payloadHash = "" ∨
      delegation.expiresAt = 0 then (.error .delegationInvalid, s)
  else if (s.delegations tenantID).values.any fun existing =>
      delegation.sequence ≤ existing.sequence then (.error .delegationReplay, s)
  else (.ok (), s.putDelegation tenantID delegation.id
    { delegation with tenantID := tenantID, state := "proposed", approvals := ∅ })

def approveDelegation (tenantID delegationID adminDID : String) (signature : Binary)
    (s : MemoryStore) : Out MemoryStore Unit :=
  match (s.delegations tenantID).lookup delegationID with
  | none => (.error .notFound, s)
  | some delegation =>
    match (s.admins tenantID).lookup adminDID with
    | none => (.error .delegationInvalid, s)
    | some admin =>
      if admin.state ≠ "active" ∨ signature = [] then (.error .delegationInvalid, s)
      else (.ok (), s.putDelegation tenantID delegationID
        { delegation with approvals := delegation.approvals.insert adminDID signature })

/-- A delegation that is active is superseded. -/
def superseded (d : Delegation) : Delegation :=
  if d.state = "active" then { d with state := "superseded" } else d

def activateDelegation (tenantID delegationID : String) (now : Time) (s : MemoryStore) :
    Out MemoryStore Unit :=
  match s.tenants tenantID with
  | none => (.error .notFound, s)
  | some tenant =>
    match (s.delegations tenantID).lookup delegationID with
    | none => (.error .notFound, s)
    | some delegation =>
      if (delegation.approvals.keys.length : ℤ) < tenant.threshold then
        (.error .thresholdNotMet, s)
      else if now < delegation.notBefore ∨ ¬ now < delegation.expiresAt then
        (.error .delegationInvalid, s)
      else
        let s := { s with
          delegations := Function.update s.delegations tenantID
            ((s.delegations tenantID).mapValues fun _ current => superseded current) }
        let s := s.putDelegation tenantID delegationID { delegation with state := "active" }
        (.ok (), s.setStatus tenant tenantID "active")

def revokeDelegation (tenantID delegationID : String) (_now : Time) (s : MemoryStore) :
    Out MemoryStore Unit :=
  match s.tenants tenantID with
  | none => (.error .notFound, s)
  | some tenant =>
    match (s.delegations tenantID).lookup delegationID with
    | none => (.error .notFound, s)
    | some delegation =>
      if delegation.state = "revoked" then (.ok (), s)
      else
        let s := s.putDelegation tenantID delegationID { delegation with state := "revoked" }
        if delegation.state = "active" then (.ok (), s.setStatus tenant tenantID "paused")
        else (.ok (), s)

/-- The delegation is active at the instant. -/
def inForce (d : Delegation) (now : Time) : Bool :=
  d.state == "active" && !decide (now < d.notBefore) && decide (now < d.expiresAt)

def activeDelegation (tenantID : String) (now : Time) (s : MemoryStore) :
    Except StoreError Delegation :=
  if (s.tenants tenantID).isNone then .error .notFound
  else match (s.delegations tenantID).values.find? (inForce · now) with
    | some d => .ok d
    | none => .error .notFound

/-! ### Audit -/

def appendAudit (tenantID : String) (event : AuditEvent) (s : MemoryStore) :
    Out MemoryStore Unit :=
  if (s.tenants tenantID).isNone then (.error .notFound, s)
  else if outOfScope event.tenantID tenantID then (.error .tenantScope, s)
  else
    let event := { event with tenantID := tenantID }
    (.ok (), { s with
      auditLog := Function.update s.auditLog tenantID (s.auditLog tenantID ++ [event]) })

def audit (tenantID : String) (s : MemoryStore) : Except StoreError (List AuditEvent) :=
  if (s.tenants tenantID).isSome then .ok (s.auditLog tenantID) else .error .notFound

/-- The store in memory, as a store. -/
def ops : StoreOps MemoryStore :=
  { bootstrapTenant, createTenant, tenant, putAdministrator, administrators, putSigningKey,
    signingKey, reserveStatusIndex, putCredentialRecord, setCredentialStatus, credentialRecords,
    putCredentialTemplate, activeCredentialTemplate, activeCredentialTemplates,
    putIssuanceRequest, issuanceRequest, issuanceRequests, decideIssuanceRequest,
    consumeApprovedIssuanceRequest, proposeDelegation, approveDelegation, activateDelegation,
    revokeDelegation, activeDelegation, appendAudit, audit }

end MemoryStore

end Ansible.Hosted
