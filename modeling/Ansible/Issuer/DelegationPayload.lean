import Ansible.Issuer.Governance
import Ansible.Lib.GoJson

/-!
# The document of a delegation

A delegation is proposed as a JSON document that names the organization, the key
it empowers, the kinds of credentials and the time it is for.  Governance reads it
strictly: a member it does not know is refused.

## Main definitions

* `DelegationPayload`, `decodeDelegation` — what the document says.

## Main results

* `Governance.validateDelegation_eq_ok` — **it carries the document and its hash.**
-/

namespace Ansible.Hosted

open GoJson

/-- What the document of a delegation says. -/
structure DelegationPayload where
  type : String := ""
  version : ℤ := 0
  issuer : String := ""
  delegateKey : String := ""
  service : String := ""
  credentialTypes : List String := []
  notBefore : GoTime := ⟨0, 0⟩
  expiresAt : GoTime := ⟨0, 0⟩
  threshold : ℤ := 0
  administrators : ℤ := 0
  sequence : ℤ := 0

namespace DelegationPayload

/-- The members of the approval policy. -/
def setPolicyField (p : DelegationPayload) (key : String) (value : Json) :
    Option DelegationPayload :=
  if isField "threshold" key then (setInt p.threshold value).map fun x => { p with threshold := x }
  else if isField "administrators" key then
    (setInt p.administrators value).map fun x => { p with administrators := x }
  else none

def setPolicy (p : DelegationPayload) : Json → Option DelegationPayload
  | .obj fields => fill setPolicyField p fields
  | .null => some p
  | _ => none

/-- The field that a member sets; one without a field is refused. -/
def setField (p : DelegationPayload) (key : String) (value : Json) : Option DelegationPayload :=
  if isField "type" key then (setString p.type value).map fun x => { p with type := x }
  else if isField "version" key then (setInt p.version value).map fun x => { p with version := x }
  else if isField "issuer" key then (setString p.issuer value).map fun x => { p with issuer := x }
  else if isField "delegate_key" key then
    (setString p.delegateKey value).map fun x => { p with delegateKey := x }
  else if isField "service" key then (setString p.service value).map fun x =>
    { p with service := x }
  else if isField "credential_types" key then
    (setStrings p.credentialTypes value).map fun x => { p with credentialTypes := x }
  else if isField "not_before" key then
    (setTime p.notBefore value).map fun x => { p with notBefore := x }
  else if isField "expires_at" key then
    (setTime p.expiresAt value).map fun x => { p with expiresAt := x }
  else if isField "approval_policy" key then setPolicy p value
  else if isField "sequence" key then (setInt p.sequence value).map fun x =>
    { p with sequence := x }
  else none

end DelegationPayload

/-- The document, read strictly: an object of known members, and nothing after it. -/
def readDelegation (canonical : Binary) : Except StoreError DelegationPayload :=
  match members canonical with
  | none => .error .other
  | some (fields, rest) =>
    match fill DelegationPayload.setField {} fields with
    | none => .error .other
    | some payload => if Json.skipWs rest = [] then .ok payload else .error .delegationInvalid

/-- What an accepted document says. -/
def decodeDelegation (canonical : Binary) : Option DelegationPayload :=
  (readDelegation canonical).toOption

def hexHash (C : Crypto) (b : Binary) : String := String.ofList (encode16 (C.sha256 b))

namespace Governance

/-- The delegation that a document proposes to a tenant; its id and its signing key are not
in the document. -/
def validateDelegation (C : Crypto) (tenant : Tenant) (canonical : Binary) :
    Except StoreError Delegation :=
  match readDelegation canonical with
  | .error e => .error e
  | .ok payload =>
    if payload.type ≠ "IssuerKeyDelegation" ∨ payload.version ≠ 1 ∨
        payload.issuer ≠ tenant.organizationDID ∨ payload.sequence < 1 ∨
        payload.threshold ≠ tenant.threshold ∨ payload.administrators < payload.threshold ∨
        payload.credentialTypes = [] ∨
        ¬ payload.notBefore.instant < payload.expiresAt.instant then .error .delegationInvalid
    else .ok
      { id := "", tenantID := tenant.id, signingKeyID := "", sequence := payload.sequence
        canonicalJSON := canonical, payloadHash := hexHash C canonical
        credentialTypes := some payload.credentialTypes
        notBefore := payload.notBefore.instant, expiresAt := payload.expiresAt.instant }

/-- **A valid delegation carries the document and its hash.** -/
theorem validateDelegation_eq_ok {C : Crypto} {tenant : Tenant} {canonical : Binary}
    {d : Delegation} (h : validateDelegation C tenant canonical = .ok d) :
    ∃ payload, decodeDelegation canonical = some payload ∧ d.canonicalJSON = canonical ∧
      d.payloadHash = hexHash C canonical ∧ d.sequence = payload.sequence := by
  unfold validateDelegation at h
  split at h
  · cases h
  rename_i payload hpayload
  split at h
  · cases h
  · cases h
    exact ⟨payload, by rw [decodeDelegation, hpayload]; rfl, rfl, rfl, rfl⟩

end Governance

end Ansible.Hosted
