import Ansible.Issuer.DelegationPayload

/-!
# The requests to the hosted issuer

Each handler as the routes call it, over any store: what it refuses with which
status and error, and the operations of the store that it calls.  The bearer token
of an administrator stands for the DID of the capability that it authorizes for the
tenant and the scope of the route.

## Main definitions

* `BootstrapRequest`, `AdministratorEnrollmentRequest`, `IssuanceDecision` — signed requests,
  with the text that is signed.
* `Request`, `Env` — a request and its surroundings.
-/

namespace Ansible.Hosted

open GoJson

/-! ### Signed requests -/

structure BootstrapRequest where
  type : String
  version : ℤ
  organizationDID : String
  serviceSlug : String
  approvalThreshold : ℤ
  administratorCount : ℤ
  ownerDID : String
  ownerPublicKeyHex : String
  ownerKeyAlgorithm : String
  ownerCustody : String
  issuedAt : GoTime
  signatureHex : String := ""

structure AdministratorEnrollmentRequest where
  type : String
  version : ℤ
  tenantID : String
  administratorDID : String
  role : String
  signingAlgorithm : String
  publicKeyHex : String
  custody : String
  issuedAt : GoTime
  applicantSignature : String := ""
  inviterSignatureHex : String := ""

structure IssuanceDecision where
  type : String
  version : ℤ
  tenantID : String
  requestID : String
  decision : String
  issuedAt : GoTime
  signatureHex : String := ""

/-- The text that the owner signs. -/
def canonicalBootstrap (r : BootstrapRequest) : Option Binary :=
  (marshalTime r.issuedAt).map fun issuedAt => Text.utf8 <| object
    [member "type" (quote r.type), member "version" (Json.encodeInt r.version),
      member "organization_did" (quote r.organizationDID),
      member "service_slug" (quote r.serviceSlug),
      member "approval_threshold" (Json.encodeInt r.approvalThreshold),
      member "administrator_count" (Json.encodeInt r.administratorCount),
      member "owner_did" (quote r.ownerDID),
      member "owner_public_key_hex" (quote r.ownerPublicKeyHex),
      member "owner_key_algorithm" (quote r.ownerKeyAlgorithm),
      member "owner_custody" (quote r.ownerCustody), member "issued_at" issuedAt]

/-- The text that the applicant and the inviter sign. -/
def canonicalEnrollment (r : AdministratorEnrollmentRequest) : Option Binary :=
  (marshalTime r.issuedAt).map fun issuedAt => Text.utf8 <| object
    [member "type" (quote r.type), member "version" (Json.encodeInt r.version),
      member "tenant_id" (quote r.tenantID),
      member "administrator_did" (quote r.administratorDID), member "role" (quote r.role),
      member "signing_algorithm" (quote r.signingAlgorithm),
      member "public_key_hex" (quote r.publicKeyHex), member "custody" (quote r.custody),
      member "issued_at" issuedAt]

/-- The text that the approver of an issuance request signs. -/
def canonicalDecision (r : IssuanceDecision) : Option Binary :=
  (marshalTime r.issuedAt).map fun issuedAt => Text.utf8 <| object
    [member "type" (quote r.type), member "version" (Json.encodeInt r.version),
      member "tenant_id" (quote r.tenantID), member "request_id" (quote r.requestID),
      member "decision" (quote r.decision), member "issued_at" issuedAt]

/-- The bytes of a signature in hexadecimal. -/
def decodeHex (hex : String) : Option Binary := decode16 (bytes hex)

/-- Issued half a minute ahead at most, and five minutes ago at most. -/
def withinAdministrativeWindow (issuedAt : GoTime) (now : Time) : Bool :=
  issuedAt.instant != 0 && decide (-30000000000 ≤ now - issuedAt.instant) &&
    decide (now - issuedAt.instant ≤ 300000000000)

/-! ### Surroundings -/

/-- What a request finds: the clock, the identifiers that are drawn and the order in which a
map is walked. -/
structure Env where
  now : Time
  newID : String
  auditID : String
  order : List String := []

/-- A request. -/
inductive Request where
  | bootstrap (request : BootstrapRequest)
  | registerKey (tenantID : String) (capability : Option String) (kmsKeyVersion : String)
      (version : ℤ)
  | addAdministrator (tenantID : String) (capability : Option String)
      (request : AdministratorEnrollmentRequest)
  | proposeDelegation (tenantID : String) (capability : Option String) (id signingKeyID : String)
      (canonicalPayload : Binary)
  | approveDelegation (tenantID delegationID : String) (capability : Option String)
      (canonicalPayload : Binary) (signatureHex : String)
  | activateDelegation (tenantID delegationID : String) (capability : Option String)
  | revokeDelegation (tenantID delegationID : String) (capability : Option String)
  | putTemplate (tenantID : String) (capability : Option String) (version maxTTLDays : ℤ)
      (active : Bool)
  /-- `holder` is the DID that the proof of the request shows, none when the proof fails. -/
  | apply (tenantID : String) (holder : Option String)
      (membershipClass forumHostID boardID : String)
  | decide (tenantID requestID : String) (capability : Option String)
      (decision : IssuanceDecision)
  | offer (tenantID requestID : String) (capability : Option String)

/-- What a request answers: a status with an error, or success. -/
abbrev Reply (σ : Type) := Except (ℕ × String) Unit × σ

/-- The key management service: the PEM, the algorithm and the protection of a key version. -/
abbrev KMS := String → Option (String × String × String)

/-! ### What is checked of signed requests -/

variable {σ : Type} (C : Crypto) (S : StoreOps σ) (kms : KMS) (env : Env)

def BootstrapRequest.owner (r : BootstrapRequest) : Administrator :=
  { did := r.ownerDID, role := "", state := "", signingAlgorithm := r.ownerKeyAlgorithm
    publicKeyHex := r.ownerPublicKeyHex, custody := r.ownerCustody }

/-- The owner's signature over the request. -/
def BootstrapRequest.signed (r : BootstrapRequest) : Bool :=
  match decodeHex r.signatureHex, canonicalBootstrap r with
  | some signature, some canonical =>
      verifyAdministratorSignature C r.owner canonical signature == .ok ()
  | _, _ => false

/-- The administrator that an enrolment names. -/
def AdministratorEnrollmentRequest.applicant (r : AdministratorEnrollmentRequest) :
    Administrator :=
  { did := r.administratorDID, role := r.role, state := "active"
    signingAlgorithm := r.signingAlgorithm, publicKeyHex := r.publicKeyHex, custody := r.custody }

/-- An enrolment that is complete and in time. -/
def AdministratorEnrollmentRequest.wellFormed (r : AdministratorEnrollmentRequest)
    (tenantID : String) (now : Time) : Bool :=
  r.type == "IssuerAdministratorEnrollment" && r.version == 1 && r.tenantID == tenantID &&
    r.administratorDID != "" && r.role == "administrator" &&
    r.signingAlgorithm == "p256-sha256" && r.custody == "hardware" &&
    withinAdministrativeWindow r.issuedAt now

/-- The applicant's signature by the key of the request, and the inviter's by the key that is
enrolled. -/
def AdministratorEnrollmentRequest.signed (r : AdministratorEnrollmentRequest)
    (tenantID inviterDID : String) (s : σ) : Bool :=
  match decodeHex r.applicantSignature, decodeHex r.inviterSignatureHex, canonicalEnrollment r with
  | some applicantSignature, some inviterSignature, some canonical =>
      verifyAdministratorSignature C r.applicant canonical applicantSignature == .ok () &&
        Governance.verifyAdministratorIntent C S tenantID inviterDID canonical inviterSignature s ==
          .ok ()
  | _, _, _ => false

/-- A decision that is complete and in time. -/
def IssuanceDecision.wellFormed (d : IssuanceDecision) (tenantID requestID : String) (now : Time) :
    Bool :=
  d.type == "CredentialIssuanceDecision" && d.version == 1 && d.tenantID == tenantID &&
    d.requestID == requestID && (d.decision == "approve" || d.decision == "deny") &&
    withinAdministrativeWindow d.issuedAt now

/-- The signed text of a decision, when the approver's signature verifies. -/
def IssuanceDecision.intent (d : IssuanceDecision) (tenantID approverDID : String) (s : σ) :
    Option Binary :=
  match decodeHex d.signatureHex, canonicalDecision d with
  | some signature, some canonical =>
      if Governance.verifyAdministratorIntent C S tenantID approverDID canonical signature s =
          .ok () then some canonical
      else none
  | _, _ => none

namespace Api

/-! ### The audit log -/

def auditEvent (tenantID eventType actorDID material : String) (policyVersion : ℤ) (s : σ) :
    Out σ Unit :=
  S.appendAudit tenantID
    { id := env.auditID, tenantID, eventType, actorDID, requestHash := hexHash C (bytes material)
      policyVersion, createdAt := env.now } s

/-- Append an event under the policy version of the tenant. -/
def audit (tenantID eventType actorDID material : String) (s : σ) : Out σ Unit :=
  match S.tenant tenantID s with
  | .error e => (.error e, s)
  | .ok tenant => auditEvent C S env tenantID eventType actorDID material tenant.policyVersion s

/-- What is done stays done when the audit log refuses the event. -/
def audited (tenantID eventType actorDID material : String) (s : σ) : Reply σ :=
  match audit C S env tenantID eventType actorDID material s with
  | (.error _, s) => (.error (500, "audit_append_failed"), s)
  | (.ok (), s) => (.ok (), s)

/-- The same with an error of the route, for an event under the given policy version. -/
def logged (tenantID eventType actorDID material : String) (policyVersion : ℤ)
    (error : ℕ × String) (s : σ) : Reply σ :=
  match auditEvent C S env tenantID eventType actorDID material policyVersion s with
  | (.error _, s) => (.error error, s)
  | (.ok (), s) => (.ok (), s)

def capabilityInvalid : ℕ × String := (403, "issuer_admin_capability_invalid")

/-! ### Handlers of the control plane -/

/-- `^[a-z0-9][a-z0-9-]{2,47}$` -/
def isServiceSlug (s : String) : Bool :=
  let alnum := fun c : Char => ('a' ≤ c && c ≤ 'z') || c.isDigit
  match chars s with
  | [] => false
  | c :: r => alnum c && r.all (fun c => alnum c || c == '-') && 2 ≤ r.length && r.length ≤ 47

def bootstrap (r : BootstrapRequest) (s : σ) : Reply σ :=
  if r.type ≠ "HostedIssuerBootstrap" ∨ r.version ≠ 1 ∨ ¬ isServiceSlug r.serviceSlug ∨
      r.organizationDID = "" ∨ r.ownerDID = "" ∨ r.approvalThreshold < 1 ∨
      r.administratorCount < r.approvalThreshold ∨ 15 < r.administratorCount ∨
      r.ownerKeyAlgorithm ≠ "p256-sha256" ∨ r.ownerCustody ≠ "hardware" ∨
      ¬ withinAdministrativeWindow r.issuedAt env.now ∨ ¬ r.signed C then
    (.error (422, "invalid_bootstrap"), s)
  else
    let tenant : Tenant :=
      { id := env.newID, organizationDID := r.organizationDID, serviceSlug := r.serviceSlug
        status := "draft", threshold := r.approvalThreshold
        administratorCount := r.administratorCount, policyVersion := 1, createdAt := env.now }
    match S.bootstrapTenant tenant r.owner s with
    | (.error _, s) => (.error (422, "invalid_bootstrap"), s)
    | (.ok (), s) => audited C S env tenant.id "tenant_bootstrapped" r.ownerDID tenant.id s

/-- The key that a version of the key management service registers. -/
def hsmKey (tenantID kmsKeyVersion : String) (version : ℤ) : Option SigningKey :=
  if tenantID = "" ∨ kmsKeyVersion = "" ∨ version < 1 then none
  else match kms kmsKeyVersion with
    | none => none
    | some (publicKeyPEM, algorithm, protectionLevel) =>
      if algorithm ≠ "EC_SIGN_ED25519" ∨
          (protectionLevel ≠ "HSM" ∧ protectionLevel ≠ "HSM_SINGLE_TENANT") then none
      else some
        { id := env.newID, tenantID, kmsKeyVersion, publicKeyPEM, algorithm, protectionLevel
          state := "proposed", version, createdAt := env.now }

def registerKey (tenantID : String) (capability : Option String) (kmsKeyVersion : String)
    (version : ℤ) (s : σ) : Reply σ :=
  match capability with
  | none => (.error capabilityInvalid, s)
  | some adminDID =>
    match hsmKey kms env tenantID kmsKeyVersion version with
    | none => (.error (422, "kms_key_not_accepted"), s)
    | some key =>
      match S.putSigningKey tenantID key s with
      | (.error _, s) => (.error (422, "kms_key_not_accepted"), s)
      | (.ok (), s) => audited C S env tenantID "signing_key_registered" adminDID key.id s

def addAdministrator (tenantID : String) (capability : Option String)
    (r : AdministratorEnrollmentRequest) (s : σ) : Reply σ :=
  match capability with
  | none => (.error capabilityInvalid, s)
  | some inviterDID =>
    if ¬ r.wellFormed tenantID env.now ∨ ¬ r.signed C S tenantID inviterDID s then
      (.error (422, "administrator_enrollment_invalid"), s)
    else match S.putAdministrator tenantID r.applicant s with
      | (.error _, s) => (.error (409, "administrator_not_added"), s)
      | (.ok (), s) =>
        audited C S env tenantID "administrator_added" inviterDID r.administratorDID s

/-! ### Handlers of delegations -/

def proposeDelegation (tenantID : String) (capability : Option String) (id signingKeyID : String)
    (canonicalPayload : Binary) (s : σ) : Reply σ :=
  match capability with
  | none => (.error capabilityInvalid, s)
  | some adminDID =>
    match S.tenant tenantID s with
    | .error _ => (.error (404, "tenant_not_found"), s)
    | .ok tenant =>
      match Governance.validateDelegation C tenant canonicalPayload with
      | .error _ => (.error (422, "invalid_delegation"), s)
      | .ok delegation =>
        let delegation :=
          { delegation with id := if id = "" then env.newID else id, signingKeyID }
        if signingKeyID = "" then (.error (409, "delegation_not_accepted"), s)
        else match S.proposeDelegation tenantID delegation s with
          | (.error _, s) => (.error (409, "delegation_not_accepted"), s)
          | (.ok (), s) =>
            audited C S env tenantID "delegation_proposed" adminDID delegation.payloadHash s

def approveDelegation (tenantID delegationID : String) (capability : Option String)
    (canonicalPayload : Binary) (signatureHex : String) (s : σ) : Reply σ :=
  match capability with
  | none => (.error capabilityInvalid, s)
  | some adminDID =>
    match decodeHex signatureHex with
    | none => (.error (422, "delegation_approval_invalid"), s)
    | some signature =>
      match Governance.approveDelegation C S tenantID delegationID adminDID canonicalPayload
          signature s with
      | (.error _, s) => (.error (422, "delegation_approval_invalid"), s)
      | (.ok (), s) => audited C S env tenantID "delegation_approved" adminDID delegationID s

def activateDelegation (tenantID delegationID : String) (capability : Option String) (s : σ) :
    Reply σ :=
  match capability with
  | none => (.error capabilityInvalid, s)
  | some adminDID =>
    match S.activateDelegation tenantID delegationID env.now s with
    | (.error _, s) => (.error (409, "delegation_not_activatable"), s)
    | (.ok (), s) => audited C S env tenantID "delegation_activated" adminDID delegationID s

def revokeDelegation (tenantID delegationID : String) (capability : Option String) (s : σ) :
    Reply σ :=
  match capability with
  | none => (.error capabilityInvalid, s)
  | some adminDID =>
    match S.revokeDelegation tenantID delegationID env.now s with
    | (.error _, s) => (.error (409, "delegation_not_revocable"), s)
    | (.ok (), s) => audited C S env tenantID "delegation_revoked" adminDID delegationID s

/-! ### Handlers of issuance -/

/-- The template of memberships, whose threshold is the tenant's. -/
def membershipTemplate (tenant : Tenant) (tenantID : String) (version maxTTLDays : ℤ)
    (active : Bool) : CredentialTemplate :=
  { id := "membership", tenantID, version, credentialType := "PoliticalPartyMembershipCredential"
    claimAllowlist := some ["organization_id", "membership", "membership_class"]
    approvalThreshold := tenant.threshold, maxTTLDays, active }

def putTemplate (tenantID : String) (capability : Option String) (version maxTTLDays : ℤ)
    (active : Bool) (s : σ) : Reply σ :=
  match capability with
  | none => (.error (403, "access_denied"), s)
  | some _ =>
    match S.tenant tenantID s with
    | .error _ => (.error (422, "invalid_credential_template"), s)
    | .ok tenant =>
      if version < 1 ∨ tenant.threshold < 1 ∨ maxTTLDays < 1 ∨ 365 < maxTTLDays then
        (.error (422, "invalid_credential_template"), s)
      else match S.putCredentialTemplate tenantID
          (membershipTemplate tenant tenantID version maxTTLDays active) env.order s with
        | (.error _, s) => (.error (422, "invalid_credential_template"), s)
        | (.ok (), s) =>
          logged C S env tenantID "credential_template_updated" "" "membership" version
            (422, "invalid_credential_template") s

/-- The text whose hash a request for a credential carries; the members are sorted. -/
def applicationText (template : CredentialTemplate) (holder membershipClass forumHostID boardID :
    String) : Binary :=
  Text.utf8 <| object
    [member "board_id" (quote boardID), member "forum_host_id" (quote forumHostID),
      member "holder_pairwise_did" (quote holder),
      member "membership_class" (quote membershipClass), member "template_id" (quote template.id),
      member "template_version" (Json.encodeInt template.version)]

/-- The request that an application makes. -/
def issuanceRequestOf (template : CredentialTemplate) (tenantID holder membershipClass forumHostID
    boardID : String) : IssuanceRequest :=
  { id := env.newID, tenantID, templateID := template.id, templateVersion := template.version
    applicantPairwiseDID := holder, applicantHash := hexHash C (bytes holder)
    payloadHash := hexHash C (applicationText template holder membershipClass forumHostID boardID)
    membershipClass, forumHostID, boardID
    policySnapshot := some
      [("template_id", .str template.id), ("template_version", .int template.version),
        ("credential_type", .str template.credentialType),
        ("membership_class", .str membershipClass), ("forum_host_id", .str forumHostID),
        ("board_id", .str boardID), ("approval_threshold", .int template.approvalThreshold)]
    expiresAt := env.now + 604800000000000, createdAt := env.now }

def apply (tenantID : String) (holder : Option String)
    (membershipClass forumHostID boardID : String)
    (s : σ) : Reply σ :=
  match holder with
  | none => (.error (400, "invalid_proof"), s)
  | some holder =>
    match S.activeCredentialTemplate tenantID "membership" s with
    | .error _ => (.error (422, "issuance_request_not_accepted"), s)
    | .ok template =>
      if ¬ holder.startsWith "did:jwk:" ∨
          (membershipClass ≠ "member" ∧ membershipClass ≠ "moderator") ∨ isBlank forumHostID ∨
          isBlank boardID then (.error (422, "issuance_request_not_accepted"), s)
      else
        let request :=
          issuanceRequestOf C env template tenantID holder membershipClass forumHostID boardID
        match S.putIssuanceRequest tenantID request s with
        | (.error _, s) => (.error (422, "issuance_request_not_accepted"), s)
        | (.ok (), s) =>
          logged C S env tenantID "issuance_requested" "" request.payloadHash template.version
            (422, "issuance_request_not_accepted") s

/-- Put a decision on a request whose template is still the active one. -/
def decideIssuanceRequest (tenantID requestID approverDID decision signedIntentHash : String)
    (s : σ) : Out σ Unit :=
  match S.issuanceRequest tenantID requestID s with
  | .error e => (.error e, s)
  | .ok request =>
    match S.activeCredentialTemplate tenantID request.templateID s with
    | .error _ => (.error .delegationInvalid, s)
    | .ok template =>
      if template.version ≠ request.templateVersion then (.error .delegationInvalid, s)
      else match S.decideIssuanceRequest tenantID
          { tenantID, requestID, approverDID, decision, signedIntentHash, createdAt := env.now }
          template.approvalThreshold s with
        | (.error e, s) => (.error e, s)
        | (.ok _, s) =>
          auditEvent C S env tenantID ("issuance_" ++ decision) approverDID signedIntentHash
            template.version s

def decide (tenantID requestID : String) (capability : Option String) (d : IssuanceDecision)
    (s : σ) : Reply σ :=
  match capability with
  | none => (.error (403, "access_denied"), s)
  | some approverDID =>
    if ¬ d.wellFormed tenantID requestID env.now then (.error (422, "invalid_decision"), s)
    else match d.intent C S tenantID approverDID s with
      | none => (.error (422, "invalid_decision"), s)
      | some canonical =>
        match decideIssuanceRequest C S env tenantID d.requestID approverDID d.decision
            (hexHash C canonical) s with
        | (.error _, s) => (.error (409, "decision_not_accepted"), s)
        | (.ok (), s) => (.ok (), s)

def offer (tenantID requestID : String) (capability : Option String) (s : σ) : Reply σ :=
  match capability with
  | none => (.error (403, "access_denied"), s)
  | some _ =>
    match S.consumeApprovedIssuanceRequest tenantID requestID env.now s with
    | (.error _, s) => (.error (422, "invalid_request"), s)
    | (.ok request, s) =>
      logged C S env tenantID "credential_offer_created" "" request.payloadHash
        request.templateVersion (422, "invalid_request") s

/-- What a request answers, and the store after it. -/
def handle (s : σ) : Request → Reply σ
  | .bootstrap request => bootstrap C S env request s
  | .registerKey tenantID capability kmsKeyVersion version =>
      registerKey C S kms env tenantID capability kmsKeyVersion version s
  | .addAdministrator tenantID capability request =>
      addAdministrator C S env tenantID capability request s
  | .proposeDelegation tenantID capability id signingKeyID canonicalPayload =>
      proposeDelegation C S env tenantID capability id signingKeyID canonicalPayload s
  | .approveDelegation tenantID delegationID capability canonicalPayload signatureHex =>
      approveDelegation C S env tenantID delegationID capability canonicalPayload signatureHex s
  | .activateDelegation tenantID delegationID capability =>
      activateDelegation C S env tenantID delegationID capability s
  | .revokeDelegation tenantID delegationID capability =>
      revokeDelegation C S env tenantID delegationID capability s
  | .putTemplate tenantID capability version maxTTLDays active =>
      putTemplate C S env tenantID capability version maxTTLDays active s
  | .apply tenantID holder membershipClass forumHostID boardID =>
      apply C S env tenantID holder membershipClass forumHostID boardID s
  | .decide tenantID requestID capability decision =>
      decide C S env tenantID requestID capability decision s
  | .offer tenantID requestID capability => offer C S env tenantID requestID capability s

end Api

/-! ### Requests of the worked examples -/

/-- The root key `n`, as requests write it. -/
def toyKeyHex (n : UInt8) : String := String.ofList (encode16 (toyRoot n))

/-- A signature by the root key `n`, whatever the text. -/
def toySignature (n : UInt8) : String := String.ofList (encode16 (toyRoot n ++ [0]))

/-- The owner, with root key 1, opens a tenant with `n` administrators, who all approve. -/
def toyBootstrap (n : ℤ) : BootstrapRequest :=
  { type := "HostedIssuerBootstrap", version := 1, organizationDID := "did:web:o"
    serviceSlug := "org", approvalThreshold := n, administratorCount := n, ownerDID := "a"
    ownerPublicKeyHex := toyKeyHex 1, ownerKeyAlgorithm := "p256-sha256"
    ownerCustody := "hardware", issuedAt := ⟨1, 0⟩, signatureHex := toySignature 1 }

/-- A document for a key and `n` administrators, in the order and spacing in which a server writes
`jsonb`. -/
def toyDocument (n : ℕ) (delegateKey : String) : Binary :=
  Text.utf8 <| chars <| "\x7b\"type\": \"IssuerKeyDelegation\", \"issuer\": \"did:web:o\", " ++
    "\"service\": \"s\", \"version\": 1, \"sequence\": 1, " ++
    "\"expires_at\": \"0001-01-02T00:00:00Z\", \"not_before\": \"0001-01-01T00:00:00Z\", " ++
    "\"delegate_key\": \"" ++ delegateKey ++ "\", " ++
    "\"approval_policy\": \x7b\"threshold\": " ++ toString n ++ ", \"administrators\": " ++
    toString n ++ "\x7d, \"credential_types\": [\"C\"]\x7d"

/-- The key management service has one key. -/
def toyKMS : KMS := fun _ => some ("did:key:z1", "EC_SIGN_ED25519", "HSM")

def toyEnv (newID : String) : Env := { now := 1, newID, auditID := newID }

end Ansible.Hosted
