import Ansible.Lib.Json
import Ansible.Lib.Assoc

/-!
# The records of the hosted issuer

Organizations have Elix sign their credentials: a tenant has administrators with
root keys, signing keys in an HSM, delegations by which a threshold of the
administrators empowers a signing key, and the credentials that are issued under
them.  The control plane keeps these in a store, of which there are two: one in
memory and one over PostgreSQL.

## Main definitions

* `Tenant`, `Administrator`, `Delegation`, `SigningKey`, `CredentialTemplate`,
  `IssuanceRequest`, `IssuanceApproval`, `AuditEvent`, `CredentialRecord` — the records.
* `StoreError` — the classes of errors that a caller can tell apart.
* `StoreOps` — the operations that both stores implement.
-/

namespace Ansible.Hosted

/-- An instant, in nanoseconds since the zero time of Go. -/
abbrev Time := ℤ

/-- The errors of a store that callers compare with.  `other` stands for every error that
is none of the named ones, such as those of the database driver. -/
inductive StoreError where
  | notFound
  | tenantScope
  | thresholdNotMet
  | delegationReplay
  | delegationInvalid
  | other
  deriving DecidableEq, Repr

structure Tenant where
  id : String
  organizationDID : String
  serviceSlug : String
  status : String
  threshold : ℤ
  administratorCount : ℤ
  policyVersion : ℤ
  createdAt : Time
  deriving DecidableEq, Repr

structure Administrator where
  tenantID : String := ""
  did : String
  role : String
  state : String
  signingAlgorithm : String
  publicKeyHex : String
  custody : String
  deriving DecidableEq, Repr

structure Delegation where
  id : String
  tenantID : String := ""
  signingKeyID : String
  sequence : ℤ
  canonicalJSON : Binary
  payloadHash : String
  /-- A nil slice is told apart from an empty one. -/
  credentialTypes : Option (List String)
  notBefore : Time
  expiresAt : Time
  state : String := ""
  approvals : Assoc String Binary := ∅
  deriving DecidableEq

structure SigningKey where
  id : String
  tenantID : String := ""
  kmsKeyVersion : String
  publicKeyPEM : String
  algorithm : String
  protectionLevel : String
  state : String
  version : ℤ
  createdAt : Time
  deriving DecidableEq, Repr

structure CredentialTemplate where
  id : String
  tenantID : String := ""
  version : ℤ
  credentialType : String
  claimAllowlist : Option (List String)
  approvalThreshold : ℤ
  maxTTLDays : ℤ
  active : Bool
  deriving DecidableEq, Repr

structure IssuanceRequest where
  id : String
  tenantID : String := ""
  templateID : String
  templateVersion : ℤ
  applicantPairwiseDID : String
  applicantHash : String
  payloadHash : String
  membershipClass : String
  forumHostID : String
  boardID : String
  state : String := ""
  approvalCount : ℤ := 0
  /-- The members of the snapshot; a nil map is told apart from an empty one. -/
  policySnapshot : Option (List (String × Json))
  expiresAt : Time
  createdAt : Time

structure IssuanceApproval where
  tenantID : String := ""
  requestID : String
  approverDID : String
  decision : String
  signedIntentHash : String
  createdAt : Time
  deriving DecidableEq, Repr

structure AuditEvent where
  id : String
  tenantID : String := ""
  eventType : String
  actorDID : String
  requestHash : String
  policyVersion : ℤ
  createdAt : Time
  deriving DecidableEq, Repr

structure CredentialRecord where
  credentialID : String
  tenantID : String := ""
  credentialHash : String
  credentialType : String
  subjectPairwiseHash : String
  issuedAt : Time
  expiresAt : Time
  statusIndex : ℤ
  status : String
  policySnapshotHash : String
  deriving DecidableEq, Repr

/-! ### What both stores compute -/

/-- A record that names another tenant than the one it is put under. -/
def outOfScope (recordTenantID tenantID : String) : Bool :=
  recordTenantID != "" && recordTenantID != tenantID

/-- The number of administrators defaults to the threshold. -/
def withDefaults (t : Tenant) : Tenant :=
  if t.administratorCount = 0 then { t with administratorCount := t.threshold } else t

theorem withDefaults_id (t : Tenant) : (withDefaults t).id = t.id := by
  unfold withDefaults
  split <;> rfl

theorem withDefaults_threshold (t : Tenant) : (withDefaults t).threshold = t.threshold := by
  unfold withDefaults
  split <;> rfl

theorem withDefaults_administratorCount {t : Tenant} (h : t.administratorCount ≠ 0) :
    (withDefaults t).administratorCount = t.administratorCount := by
  rw [withDefaults, if_neg h]

/-- The first of 256 drawn indexes that is not taken; a draw may also fail. -/
def firstFree (taken draws : List ℤ) : Option ℤ :=
  (draws.take 256).find? fun index => !taken.contains index

/-! ### The operations -/

/-- What an operation returns, and the store after it. -/
abbrev Out (σ α : Type) := Except StoreError α × σ

/-- The operations on a store.  What an operation draws from outside (random numbers, the
order in which a map is walked) is among its arguments. -/
structure StoreOps (σ : Type) where
  bootstrapTenant : Tenant → Administrator → σ → Out σ Unit
  createTenant : Tenant → σ → Out σ Unit
  tenant : String → σ → Except StoreError Tenant
  putAdministrator : String → Administrator → σ → Out σ Unit
  administrators : String → σ → Except StoreError (List Administrator)
  putSigningKey : String → SigningKey → σ → Out σ Unit
  signingKey : String → String → σ → Except StoreError SigningKey
  reserveStatusIndex : String → List ℤ → σ → Out σ ℤ
  putCredentialRecord : String → CredentialRecord → σ → Out σ Unit
  setCredentialStatus : String → String → String → σ → Out σ Unit
  credentialRecords : String → σ → Except StoreError (List CredentialRecord)
  putCredentialTemplate : String → CredentialTemplate → List String → σ → Out σ Unit
  activeCredentialTemplate : String → String → σ → Except StoreError CredentialTemplate
  activeCredentialTemplates : String → σ → Except StoreError (List CredentialTemplate)
  putIssuanceRequest : String → IssuanceRequest → σ → Out σ Unit
  issuanceRequest : String → String → σ → Except StoreError IssuanceRequest
  issuanceRequests : String → String → σ → Except StoreError (List IssuanceRequest)
  decideIssuanceRequest : String → IssuanceApproval → ℤ → σ → Out σ IssuanceRequest
  consumeApprovedIssuanceRequest : String → String → Time → σ → Out σ IssuanceRequest
  proposeDelegation : String → Delegation → σ → Out σ Unit
  approveDelegation : String → String → String → Binary → σ → Out σ Unit
  activateDelegation : String → String → Time → σ → Out σ Unit
  revokeDelegation : String → String → Time → σ → Out σ Unit
  activeDelegation : String → Time → σ → Except StoreError Delegation
  appendAudit : String → AuditEvent → σ → Out σ Unit
  audit : String → σ → Except StoreError (List AuditEvent)

end Ansible.Hosted
