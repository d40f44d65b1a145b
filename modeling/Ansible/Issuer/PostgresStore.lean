import Ansible.Issuer.HostedModel

/-!
# The hosted issuer's store over PostgreSQL

Tables with their constraints, and each method of the store as its statements run
on them.  A statement that the server or the driver refuses leaves the tables as
they are.  Tables whose primary key starts with the tenant are kept by tenant;
the others have keys that are unique across tenants.

The server is a parameter: how it writes the text of a `jsonb` value, and whether
its catalogue has a function `jsonb_object_length`, which the activation of a
delegation calls.

## Main definitions

* `Server` — what the store relies on.
* `PostgresStore.ops` — the operations of a store, on these tables.

## Main results

* `timestamptz_eq_some` — an instant is stored in microseconds, rounded down.
-/

namespace Ansible.Hosted

/-- What the database server does. -/
structure Server where
  /-- The text in which a `jsonb` value is given back, none when the input is no JSON. -/
  jsonbText : Binary → Option Binary
  /-- Whether the function `jsonb_object_length` exists. -/
  hasObjectLength : Bool

/-! ### What columns hold -/

/-- A `text` cannot hold the character 0. -/
def isText (s : String) : Bool := !(chars s).contains (Char.ofNat 0)

/-- The values of an `int` column. -/
def isInt4 (n : ℤ) : Bool := decide (-2147483648 ≤ n) && decide (n ≤ 2147483647)

/-- The microseconds from the zero time of Go to the epoch of the server. -/
def epochMicros : ℤ := 63082281600000000

/-- The value of a `timestamptz` column, none out of its range. -/
def timestamptz (t : Time) : Option Time :=
  if -211813488000000000 ≤ t / 1000 - epochMicros ∧
      t / 1000 - epochMicros < 9223371331200000000 then some (t / 1000 * 1000)
  else none

/-- An instant is stored in microseconds, rounded down. -/
theorem timestamptz_eq_some {t t' : Time} (h : timestamptz t = some t') : t' = t / 1000 * 1000 := by
  unfold timestamptz at h
  split at h
  · exact (Option.some.inj h).symm
  · cases h

mutual

/-- Every string of a document is a `text`. -/
def storable : Json → Bool
  | .str s => isText s
  | .arr l => storableElems l
  | .obj fields => storableFields fields
  | _ => true

def storableElems : List Json → Bool
  | [] => true
  | j :: l => storable j && storableElems l

def storableFields : List (String × Json) → Bool
  | [] => true
  | (k, j) :: l => isText k && storable j && storableFields l

end

/-- A `text[]` parameter: a nil slice is sent as null. -/
def isTextArray (l : List String) : Bool := l.all isText

/-! ### Tables -/

/-- The tables of the store. -/
structure PostgresStore where
  tenants : Assoc String Tenant := ∅
  admins : String → Assoc String Administrator := fun _ => ∅
  signingKeys : Assoc String SigningKey := ∅
  delegations : Assoc String Delegation := ∅
  templates : String → Assoc (String × ℤ) CredentialTemplate := fun _ => ∅
  requests : Assoc String IssuanceRequest := ∅
  /-- By tenant and request, then by approver. -/
  approvals : String → String → Assoc String IssuanceApproval := fun _ _ => ∅
  credentials : Assoc String CredentialRecord := ∅
  statusIndexes : String → List ℤ := fun _ => []
  /-- In the order of insertion. -/
  auditLog : List AuditEvent := []

namespace PostgresStore

variable (S : Server)

/-- Every parameter of a statement is a `text`. -/
def areTexts (params : List String) : Bool := params.all isText

/-- Two instants in columns, as they are stored. -/
def timestamps (t u : Time) : Option (Time × Time) :=
  match timestamptz t, timestamptz u with
  | some t, some u => some (t, u)
  | _, _ => none

/-! ### Tenants and administrators -/

/-- `INSERT INTO issuer_tenants`. -/
def insertTenant (t : Tenant) (s : PostgresStore) : Option PostgresStore :=
  match timestamptz t.createdAt with
  | none => none
  | some createdAt =>
    if ¬ areTexts [t.id, t.organizationDID, t.serviceSlug, t.status] ∨
        ¬ isInt4 t.threshold ∨ ¬ isInt4 t.administratorCount ∨
        ¬ 0 < t.threshold ∨ ¬ t.threshold ≤ t.administratorCount ∨
        t.status ∉ ["draft", "active", "paused", "closed"] ∨
        t.id ∈ s.tenants ∨
        (s.tenants.values.any fun x =>
          x.organizationDID == t.organizationDID || x.serviceSlug == t.serviceSlug) then none
    else some { s with tenants := s.tenants.insert t.id { t with createdAt } }

/-- The row of an administrator, when its values can be stored. -/
def setAdmin (tenantID : String) (a : Administrator) (s : PostgresStore) : PostgresStore :=
  { s with
    admins := Function.update s.admins tenantID
      ((s.admins tenantID).insert a.did { a with tenantID := tenantID }) }

def bootstrapTenant (tenant : Tenant) (owner : Administrator) (s : PostgresStore) :
    Out PostgresStore Unit :=
  let tenant := withDefaults tenant
  if tenant.id = "" ∨ tenant.organizationDID = "" ∨ tenant.serviceSlug = "" ∨
      tenant.threshold < 1 ∨ owner.did = "" ∨ owner.custody ≠ "hardware" ∨
      owner.signingAlgorithm ≠ "p256-sha256" then
    (.error .delegationInvalid, s)
  else match insertTenant tenant s with
    | none => (.error .other, s)
    | some s' =>
      if ¬ areTexts [owner.did, owner.publicKeyHex] then (.error .other, s)
      else (.ok (), s'.setAdmin tenant.id { owner with role := "owner", state := "active" })

def createTenant (tenant : Tenant) (s : PostgresStore) : Out PostgresStore Unit :=
  let tenant := withDefaults tenant
  if tenant.id = "" ∨ tenant.organizationDID = "" ∨ tenant.serviceSlug = "" ∨
      tenant.threshold < 1 then (.error .delegationInvalid, s)
  else match insertTenant tenant s with
    | none => (.error .other, s)
    | some s' => (.ok (), s')

def tenant (tenantID : String) (s : PostgresStore) : Except StoreError Tenant :=
  if ¬ isText tenantID then .error .other
  else match s.tenants.lookup tenantID with
    | some t => .ok t
    | none => .error .notFound

def putAdministrator (tenantID : String) (admin : Administrator) (s : PostgresStore) :
    Out PostgresStore Unit :=
  if outOfScope admin.tenantID tenantID then (.error .tenantScope, s)
  else if ¬ isText tenantID then (.error .other, s)
  else match s.tenants.lookup tenantID with
    | none => (.error .notFound, s)
    | some t =>
      if ¬ isText admin.did then (.error .other, s)
      else if admin.did ∉ s.admins tenantID ∧
          t.administratorCount ≤ (s.admins tenantID).keys.length then
        (.error .thresholdNotMet, s)
      else if ¬ areTexts [admin.role, admin.state, admin.signingAlgorithm, admin.publicKeyHex,
          admin.custody] then (.error .other, s)
      else (.ok (), s.setAdmin tenantID admin)

def administrators (tenantID : String) (s : PostgresStore) :
    Except StoreError (List Administrator) :=
  if ¬ isText tenantID then .error .other else .ok (s.admins tenantID).values

/-! ### Signing keys -/

def putSigningKey (tenantID : String) (key : SigningKey) (s : PostgresStore) :
    Out PostgresStore Unit :=
  if outOfScope key.tenantID tenantID then (.error .tenantScope, s)
  else match timestamptz key.createdAt with
    | none => (.error .other, s)
    | some createdAt =>
      if ¬ areTexts [key.id, tenantID, key.kmsKeyVersion, key.algorithm, key.protectionLevel,
            key.state] ∨
          key.protectionLevel ∉ ["HSM", "HSM_SINGLE_TENANT"] ∨ key.id ∈ s.signingKeys ∨
          (s.signingKeys.values.any fun x => x.kmsKeyVersion == key.kmsKeyVersion ||
            (x.tenantID == tenantID && x.version == key.version)) ∨
          tenantID ∉ s.tenants then (.error .other, s)
      else (.ok (), { s with
        signingKeys := s.signingKeys.insert key.id { key with tenantID := tenantID, createdAt } })

def signingKey (tenantID keyID : String) (s : PostgresStore) : Except StoreError SigningKey :=
  if ¬ areTexts [tenantID, keyID] then .error .other
  else match s.signingKeys.lookup keyID with
    | some key => if key.tenantID = tenantID then .ok key else .error .notFound
    | none => .error .notFound

/-! ### Credentials -/

def reserveStatusIndex (tenantID : String) (draws : List ℤ) (s : PostgresStore) :
    Out PostgresStore ℤ :=
  if ¬ isText tenantID ∨ tenantID ∉ s.tenants then (.error .other, s)
  else match firstFree (s.statusIndexes tenantID) draws with
    | some index => (.ok index, { s with
        statusIndexes :=
          Function.update s.statusIndexes tenantID (index :: s.statusIndexes tenantID) })
    | none => (.error .other, s)

/-- The record that is there already counts when its hash is the same. -/
def sameCredential (tenantID : String) (record : CredentialRecord) (s : PostgresStore) :
    Out PostgresStore Unit :=
  match s.credentials.lookup record.credentialID with
  | some existing =>
      if existing.tenantID = tenantID ∧ existing.credentialHash = record.credentialHash then
        (.ok (), s)
      else (.error .delegationInvalid, s)
  | none => (.error .delegationInvalid, s)

def putCredentialRecord (tenantID : String) (record : CredentialRecord) (s : PostgresStore) :
    Out PostgresStore Unit :=
  if outOfScope record.tenantID tenantID then (.error .tenantScope, s)
  else match timestamps record.issuedAt record.expiresAt with
    | none => (.error .other, s)
    | some (issuedAt, expiresAt) =>
      if ¬ areTexts [record.credentialID, tenantID, record.credentialHash, record.credentialType,
          record.subjectPairwiseHash, record.status, record.policySnapshotHash] then
        (.error .other, s)
      else if record.statusIndex ∉ s.statusIndexes tenantID then sameCredential tenantID record s
      else if record.credentialID ∈ s.credentials then sameCredential tenantID record s
      else if s.credentials.values.any fun x => x.tenantID == tenantID &&
          (x.credentialHash == record.credentialHash || x.statusIndex == record.statusIndex) then
        (.error .other, s)
      else (.ok (), { s with
        credentials := s.credentials.insert record.credentialID
          { record with tenantID := tenantID, issuedAt, expiresAt } })

def setCredentialStatus (tenantID credentialID status : String) (s : PostgresStore) :
    Out PostgresStore Unit :=
  if status ≠ "active" ∧ status ≠ "revoked" ∧ status ≠ "suspended" then
    (.error .delegationInvalid, s)
  else if ¬ areTexts [tenantID, credentialID] then (.error .other, s)
  else match s.credentials.lookup credentialID with
    | none => (.error .notFound, s)
    | some record =>
      if record.tenantID ≠ tenantID then (.error .notFound, s)
      else (.ok (), { s with
        credentials := s.credentials.insert credentialID { record with status } })

def credentialRecords (tenantID : String) (s : PostgresStore) :
    Except StoreError (List CredentialRecord) :=
  if ¬ isText tenantID then .error .other
  else .ok ((s.credentials.values.filter fun r => r.tenantID == tenantID).mergeSort
    fun a b => a.statusIndex ≤ b.statusIndex)

/-! ### Templates -/

def deactivate (id : String) (t : CredentialTemplate) : CredentialTemplate :=
  if t.id = id then { t with active := false } else t

def putCredentialTemplate (tenantID : String) (template : CredentialTemplate)
    (_order : List String) (s : PostgresStore) : Out PostgresStore Unit :=
  if outOfScope template.tenantID tenantID then (.error .tenantScope, s)
  else match template.claimAllowlist with
    | none => (.error .other, s)
    | some allowlist =>
      if ¬ areTexts [template.id, tenantID, template.credentialType] ∨ ¬ isTextArray allowlist ∨
          ¬ isInt4 template.approvalThreshold ∨ ¬ isInt4 template.maxTTLDays ∨
          ¬ 0 < template.approvalThreshold ∨ ¬ 0 < template.maxTTLDays then (.error .other, s)
      else if (template.id, template.version) ∈ s.templates tenantID then
        (.error .delegationReplay, s)
      else if tenantID ∉ s.tenants then (.error .other, s)
      else
        let rows := if template.active then
            (s.templates tenantID).mapValues fun _ t => deactivate template.id t
          else s.templates tenantID
        (.ok (), { s with
          templates := Function.update s.templates tenantID
            (rows.insert (template.id, template.version)
              { template with tenantID := tenantID }) })

def newest (l : List CredentialTemplate) : Option CredentialTemplate :=
  l.foldl (fun best t => match best with
    | some b => if b.version < t.version then some t else some b
    | none => some t) none

def activeCredentialTemplate (tenantID templateID : String) (s : PostgresStore) :
    Except StoreError CredentialTemplate :=
  if ¬ areTexts [tenantID, templateID] then .error .other
  else match newest ((s.templates tenantID).values.filter fun t => t.id == templateID &&
    t.active) with
    | some t => .ok t
    | none => .error .notFound

def activeCredentialTemplates (tenantID : String) (s : PostgresStore) :
    Except StoreError (List CredentialTemplate) :=
  if ¬ isText tenantID then .error .other
  else .ok (((s.templates tenantID).values.filter (·.active)).mergeSort fun a b => a.id ≤ b.id)

/-! ### Issuance requests -/

/-- A string of the policy snapshot, over a default. -/
def snapshotText (snapshot : List (String × Json)) (key : String) : String :=
  match snapshot.lookup key with
  | some (.str value) => value
  | _ => ""

/-- A row as it is read: what has no column comes from the snapshot. -/
def scanIssuanceRequest (row : IssuanceRequest) : IssuanceRequest :=
  let snapshot := row.policySnapshot.getD []
  { row with
    membershipClass := snapshotText snapshot "membership_class"
    boardID := snapshotText snapshot "board_id"
    forumHostID := snapshotText snapshot "forum_host_id"
    approvalCount := 0 }

def putIssuanceRequest (tenantID : String) (request : IssuanceRequest) (s : PostgresStore) :
    Out PostgresStore Unit :=
  if outOfScope request.tenantID tenantID then (.error .tenantScope, s)
  else match timestamps request.expiresAt request.createdAt, request.policySnapshot with
    | some (expiresAt, createdAt), some snapshot =>
      if ¬ areTexts [request.id, tenantID, request.templateID, request.applicantPairwiseDID,
          request.applicantHash, request.payloadHash] ∨ ¬ storableFields snapshot then
        (.error .other, s)
      else if request.id ∈ s.requests ∨ (s.requests.values.any fun x =>
          x.tenantID == tenantID && x.payloadHash == request.payloadHash) then
        (.error .delegationReplay, s)
      else if tenantID ∉ s.tenants ∨
          (request.templateID, request.templateVersion) ∉ s.templates tenantID then
        (.error .other, s)
      else (.ok (), { s with
        requests := s.requests.insert request.id
          { request with tenantID := tenantID, state := "pending", expiresAt, createdAt } })
    | _, _ => (.error .other, s)

def requestRow (tenantID requestID : String) (s : PostgresStore) : Option IssuanceRequest :=
  (s.requests.lookup requestID).filter fun r => r.tenantID == tenantID

def issuanceRequest (tenantID requestID : String) (s : PostgresStore) :
    Except StoreError IssuanceRequest :=
  if ¬ areTexts [tenantID, requestID] then .error .other
  else match s.requestRow tenantID requestID with
    | some row => .ok (scanIssuanceRequest row)
    | none => .error .notFound

/-- The number of approvals of a request. -/
def approved (s : PostgresStore) (tenantID requestID : String) : ℕ :=
  (s.approvals tenantID requestID).values.countP fun a => a.decision == "approve"

def issuanceRequests (tenantID state : String) (s : PostgresStore) :
    Except StoreError (List IssuanceRequest) :=
  if ¬ areTexts [tenantID, state] then .error .other
  else .ok (((s.requests.values.filter fun r =>
      r.tenantID == tenantID && (state == "" || r.state == state)).map fun r =>
        { scanIssuanceRequest r with approvalCount := s.approved tenantID r.id }).mergeSort
          fun a b => b.createdAt ≤ a.createdAt)

/-- The request with another state. -/
def setRequest (requestID : String) (row : IssuanceRequest) (state : String) (s : PostgresStore) :
    PostgresStore :=
  { s with requests := s.requests.insert requestID { row with state } }

def decideIssuanceRequest (tenantID : String) (approval : IssuanceApproval) (threshold : ℤ)
    (s : PostgresStore) : Out PostgresStore IssuanceRequest :=
  if threshold < 1 ∨ (approval.decision ≠ "approve" ∧ approval.decision ≠ "deny") ∨
      approval.signedIntentHash = "" then (.error .delegationInvalid, s)
  else if ¬ areTexts [tenantID, approval.requestID] then (.error .delegationInvalid, s)
  else match s.requestRow tenantID approval.requestID with
    | none => (.error .delegationInvalid, s)
    | some row =>
      if row.state ≠ "pending" then (.error .delegationInvalid, s)
      else match timestamptz approval.createdAt with
        | none => (.error .delegationInvalid, s)
        | some createdAt =>
          if ¬ areTexts [approval.approverDID, approval.signedIntentHash] ∨
              ¬ (((s.admins tenantID).lookup approval.approverDID).any fun a =>
                a.state == "active") ∨
              approval.approverDID ∈ s.approvals tenantID approval.requestID then
            (.error .delegationInvalid, s)
          else
            let s := { s with
              approvals := Function.update s.approvals tenantID
                (Function.update (s.approvals tenantID) approval.requestID
                  ((s.approvals tenantID approval.requestID).insert approval.approverDID
                    { approval with tenantID := tenantID, createdAt })) }
            let state := if approval.decision = "deny" then "denied"
              else if threshold ≤ s.approved tenantID approval.requestID then "approved"
              else "pending"
            (.ok { scanIssuanceRequest row with state }, s.setRequest approval.requestID row state)

def consumeApprovedIssuanceRequest (tenantID requestID : String) (now : Time)
    (s : PostgresStore) : Out PostgresStore IssuanceRequest :=
  match timestamptz now with
  | none => (.error .other, s)
  | some now =>
    if ¬ areTexts [tenantID, requestID] then (.error .other, s)
    else match s.requestRow tenantID requestID with
      | none => (.error .notFound, s)
      | some row =>
        if row.state = "approved" ∧ now < row.expiresAt then
          (.ok { scanIssuanceRequest row with state := "offered" },
            s.setRequest requestID row "offered")
        else (.error .notFound, s)

/-! ### Delegations -/

def proposeDelegation (tenantID : String) (delegation : Delegation) (s : PostgresStore) :
    Out PostgresStore Unit :=
  if outOfScope delegation.tenantID tenantID then (.error .tenantScope, s)
  else match timestamps delegation.notBefore delegation.expiresAt,
      S.jsonbText delegation.canonicalJSON, delegation.credentialTypes with
    | some (notBefore, expiresAt), some canonicalJSON, some types =>
      if ¬ areTexts [delegation.id, tenantID, delegation.signingKeyID, delegation.payloadHash] ∨
          ¬ isTextArray types then (.error .other, s)
      else if delegation.id ∈ s.delegations ∨ (s.delegations.values.any fun x =>
          x.tenantID == tenantID &&
            (x.sequence == delegation.sequence || x.payloadHash == delegation.payloadHash)) then
        (.error .delegationReplay, s)
      else if tenantID ∉ s.tenants ∨ ¬ ((s.signingKeys.lookup delegation.signingKeyID).any fun k =>
          k.tenantID == tenantID) then (.error .other, s)
      else (.ok (), { s with
        delegations := s.delegations.insert delegation.id
          { delegation with
            tenantID := tenantID, canonicalJSON, notBefore, expiresAt, state := "proposed"
            approvals := ∅ } })
    | _, _, _ => (.error .other, s)

def delegationRow (tenantID delegationID : String) (s : PostgresStore) : Option Delegation :=
  (s.delegations.lookup delegationID).filter fun d => d.tenantID == tenantID

def putDelegation (delegationID : String) (d : Delegation) (s : PostgresStore) : PostgresStore :=
  { s with delegations := s.delegations.insert delegationID d }

def approveDelegation (tenantID delegationID adminDID : String) (signature : Binary)
    (s : PostgresStore) : Out PostgresStore Unit :=
  if ¬ areTexts [tenantID, delegationID, adminDID] then (.error .other, s)
  else match s.delegationRow tenantID delegationID with
    | none => (.error .notFound, s)
    | some d =>
      if d.state ≠ "proposed" ∨ ¬ (((s.admins tenantID).lookup adminDID).any fun a =>
          a.state == "active") then (.error .notFound, s)
      else (.ok (), s.putDelegation delegationID
        { d with approvals := d.approvals.insert adminDID signature })

/-- A delegation of the tenant that is active is superseded. -/
def supersededRow (tenantID : String) (d : Delegation) : Delegation :=
  if d.tenantID = tenantID ∧ d.state = "active" then { d with state := "superseded" } else d

def setStatus (tenantID status : String) (s : PostgresStore) : PostgresStore :=
  match s.tenants.lookup tenantID with
  | some t => { s with tenants := s.tenants.insert tenantID { t with status } }
  | none => s

def activateDelegation (tenantID delegationID : String) (now : Time) (s : PostgresStore) :
    Out PostgresStore Unit :=
  -- the statement is refused as a whole when the function does not exist
  if ¬ S.hasObjectLength then (.error .other, s)
  else match timestamptz now with
    | none => (.error .other, s)
    | some now =>
      if ¬ areTexts [tenantID, delegationID] then (.error .other, s)
      else match s.delegationRow tenantID delegationID, s.tenants.lookup tenantID with
        | some d, some t =>
          if d.state ≠ "proposed" ∨ ¬ d.notBefore ≤ now ∨ ¬ now < d.expiresAt then
            (.error .notFound, s)
          else if (d.approvals.keys.length : ℤ) < t.threshold then (.error .thresholdNotMet, s)
          else
            let s := { s with
              delegations := s.delegations.mapValues fun _ x => supersededRow tenantID x }
            let s := s.putDelegation delegationID { d with state := "active" }
            (.ok (), s.setStatus tenantID "active")
        | _, _ => (.error .notFound, s)

def revokeDelegation (tenantID delegationID : String) (_now : Time) (s : PostgresStore) :
    Out PostgresStore Unit :=
  if ¬ areTexts [tenantID, delegationID] then (.error .other, s)
  else match s.delegationRow tenantID delegationID with
    | none => (.error .notFound, s)
    | some d =>
      let s := s.putDelegation delegationID { d with state := "revoked" }
      if d.state = "active" then (.ok (), s.setStatus tenantID "paused") else (.ok (), s)

def activeDelegation (tenantID : String) (now : Time) (s : PostgresStore) :
    Except StoreError Delegation :=
  match timestamptz now with
  | none => .error .other
  | some now =>
    if ¬ isText tenantID then .error .other
    else match s.delegations.values.find? fun d => d.tenantID == tenantID &&
        d.state == "active" && decide (d.notBefore ≤ now) && decide (now < d.expiresAt) with
      | some d => .ok d
      | none => .error .notFound

/-! ### Audit -/

def appendAudit (tenantID : String) (event : AuditEvent) (s : PostgresStore) :
    Out PostgresStore Unit :=
  if outOfScope event.tenantID tenantID then (.error .tenantScope, s)
  else match timestamptz event.createdAt with
    | none => (.error .other, s)
    | some createdAt =>
      if ¬ areTexts [event.id, tenantID, event.eventType, event.actorDID, event.requestHash] ∨
          (s.auditLog.any fun x => x.id == event.id) ∨ tenantID ∉ s.tenants then (.error .other, s)
      else (.ok (), { s with
        auditLog := s.auditLog ++ [{ event with tenantID := tenantID, createdAt }] })

/-- The order in which the events are listed. -/
def auditOrder (a b : AuditEvent) : Bool :=
  decide (a.createdAt < b.createdAt) || (a.createdAt == b.createdAt && decide (a.id ≤ b.id))

def audit (tenantID : String) (s : PostgresStore) : Except StoreError (List AuditEvent) :=
  if ¬ isText tenantID then .error .other
  else .ok ((s.auditLog.filter fun e => e.tenantID == tenantID).mergeSort auditOrder)

/-- The store over the tables, as a store. -/
def ops : StoreOps PostgresStore :=
  { bootstrapTenant, createTenant, tenant, putAdministrator, administrators, putSigningKey,
    signingKey, reserveStatusIndex, putCredentialRecord, setCredentialStatus, credentialRecords,
    putCredentialTemplate, activeCredentialTemplate, activeCredentialTemplates,
    putIssuanceRequest, issuanceRequest, issuanceRequests, decideIssuanceRequest,
    consumeApprovedIssuanceRequest, proposeDelegation := proposeDelegation S, approveDelegation,
    activateDelegation := activateDelegation S, revokeDelegation, activeDelegation, appendAudit,
    audit }

end PostgresStore

end Ansible.Hosted
