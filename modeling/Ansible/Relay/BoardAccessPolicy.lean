import Ansible.Lib.Base
import Ansible.Lib.Checks
import Ansible.Lib.Json

/-!
# Board access policies

A policy says who may discover, read, post to and moderate a board.  It is a small language of
allowed members: what is unknown is refused.  A requirement is built in, or names a rule about
credentials.

## Main definitions

* `Visibility` — who can read the content of a board.
* `BoardAccessPolicy.validate` — the checks of a policy, with the first that fails.
* `BoardAccessPolicy.requirementFor` — what a valid policy requires for an action.

## Main results

* `BoardAccessPolicy.requirementFor_known` — a requirement is built in or names a rule.
-/

namespace Ansible

/-- The values that a check constraint allows in the column `content_visibility`. -/
inductive Visibility
  | isPublic
  | hostVisible
  | endToEndEncrypted
  deriving DecidableEq, Repr

namespace Visibility

def toText : Visibility → String
  | .isPublic => "public"
  | .hostVisible => "host_visible"
  | .endToEndEncrypted => "end_to_end_encrypted"

def ofJson : Json → Option Visibility
  | .str s =>
    if s = "public" then some .isPublic
    else if s = "host_visible" then some .hostVisible
    else if s = "end_to_end_encrypted" then some .endToEndEncrypted
    else none
  | _ => none

end Visibility

namespace BoardAccessPolicy

inductive PolicyError
  | invalidAccessPolicy
  | unknownAccessPolicyField
  | unsupportedAccessPolicyVersion
  | invalidDiscoveryPolicy
  | unknownActionPolicyField
  | invalidAccessRequirement
  | invalidAccessRequirements
  | unknownRequirementField
  | unsupportedCredentialType
  | invalidCredentialConfigurationId
  | invalidTrustedIssuers
  | invalidClaimPolicy
  | holderBindingRequired
  | invalidStatusPolicy
  | unknownAccessRequirement
  | invalidCapabilityTtl
  | encryptedBoardsNotEnabled
  | invalidContentVisibility
  | invalidFederationPolicy
  | protectedBoardFederationEnabled
  | credentialReadRequiresNonpublicVisibility
  deriving DecidableEq, Repr

def default : Json :=
  .obj [("version", .int 1), ("discovery", .str "public"),
    ("read", .obj [("requirement", .str "public")]),
    ("post", .obj [("requirement", .str "posting_policy")]),
    ("moderate", .obj [("requirement", .str "board_moderator")]), ("requirements", .obj []),
    ("capability_ttl_seconds", .int 300), ("content_visibility", .str "public"),
    ("federation", .str "enabled")]

def builtInRequirements : List String := ["public", "posting_policy", "board_moderator"]

def prohibitedClaims : List String :=
  ["nationalid", "legalname", "birthdate", "documentnumber", "passportnumber", "nationalidhash",
    "passportnumberhash", "rawproviderassertion"]

/-! ### Members -/

/-- The members of the object are among the allowed ones. -/
def exactKeys (j : Json) (allowed : List String) (e : PolicyError) : Except PolicyError Unit :=
  ensure (j.keys.all (allowed.contains ·)) e

/-- The member is there and has the property. -/
def require (j : Json) (key : String) (valid : Json → Bool) (e : PolicyError) :
    Except PolicyError Unit :=
  ensure ((j.get? key).any valid) e

/-- `value in texts` -/
def oneOf (texts : List String) (j : Json) : Bool := j.str?.any (texts.contains ·)

def isNonEmptyString (j : Json) : Bool := j.str?.any fun s => !isBlank s

/-- An integer between two bounds. -/
def intBetween (lo hi : ℤ) : Json → Bool
  | .int i => decide (lo ≤ i) && decide (i ≤ hi)
  | _ => false

/-- A binary whose size is between two bounds. -/
def sizeBetween (lo hi : ℕ) (s : String) : Bool :=
  decide (lo ≤ (bytes s).length) && decide ((bytes s).length ≤ hi)

/-! ### Texts -/

/-- `$` matches at the end of the text, and before a newline that ends it. -/
def chomp (b : Binary) : Binary := if b.getLast? = some 10 then b.dropLast else b

def isLetter (b : UInt8) : Bool :=
  (97 ≤ b.toNat && b.toNat ≤ 122) || (65 ≤ b.toNat && b.toNat ≤ 90)

/-- `[A-Za-z0-9._:-]` -/
def isNameByte (b : UInt8) : Bool :=
  isAlphanum b || b == 46 || b == 95 || b == 58 || b == 45

/-- `^[A-Za-z][A-Za-z0-9._:-]*Credential$` -/
def isCredentialType (s : String) : Bool :=
  let suffix := bytes "Credential"
  sizeBetween 3 128 s && suffix.isSuffixOf (bytes s) &&
    decide (suffix.length < (bytes s).length) && (bytes s).head?.any isLetter &&
      (bytes s).all isNameByte

/-- `^[A-Za-z0-9][A-Za-z0-9._:-]*$` -/
def isConfigurationId (s : String) : Bool :=
  sizeBetween 1 128 s && (chomp (bytes s)).head?.any isAlphanum && (chomp (bytes s)).all isNameByte

/-- `String.split(path, ".", trim: true)` -/
def segments (path : String) : List Binary :=
  ((bytes path).splitOn 46).filter fun segment => segment ≠ []

/-- `^[A-Za-z][A-Za-z0-9_]{0,63}$` -/
def isClaimSegment (segment : Binary) : Bool :=
  (chomp segment).head?.any isLetter && decide ((chomp segment).length ≤ 64) &&
    (chomp segment).all fun b => isAlphanum b || b == 95

/-- The segment of a path in lower case. -/
def downcase (segment : Binary) : Binary :=
  segment.map fun b => if 65 ≤ b.toNat ∧ b.toNat ≤ 90 then b + 32 else b

def validClaimPath (path : String) : Bool :=
  decide (1 ≤ (segments path).length) && decide ((segments path).length ≤ 4) &&
    (segments path).all isClaimSegment &&
    (segments path).all fun segment => !(prohibitedClaims.map bytes).contains (downcase segment)

/-! ### Rules about credentials -/

def validClaimValue (path value : Json) : Bool :=
  match path with
  | .str path =>
    validClaimPath path &&
      match value with
      | .bool _ => true
      | .str s => sizeBetween 1 128 s
      | .int i => decide (0 ≤ i) && decide (i ≤ 1000000)
      | _ => false
  | _ => false

def validClaims : Json → Bool
  | .arr claims =>
    decide (1 ≤ claims.length) && decide (claims.length ≤ 4) && claims.all fun claim =>
      claim.isObj && claim.keys.all (["path", "op", "value"].contains ·) &&
        (claim.fetch "op").eqv (.str "equals") &&
          validClaimValue (claim.fetch "path") (claim.fetch "value")
  | _ => false

def validIssuers : Json → Bool
  | .arr issuers =>
    decide (1 ≤ issuers.length) && decide (issuers.length ≤ 10) && issuers.all fun issuer =>
      issuer.str?.any fun s =>
        (bytes "did:").isPrefixOf (bytes s) && decide ((bytes s).length ≤ 256)
  | _ => false

def validStatus (status : Json) : Bool :=
  status.isObj && status.keys.all (["required", "max_age_seconds"].contains ·) &&
    (status.fetch "required").eqv (.bool true) && intBetween 30 900 (status.fetch "max_age_seconds")

def validateConfigurationId : Json → Except PolicyError Unit
  | .null => .ok ()
  | .str s => ensure (isConfigurationId s) .invalidCredentialConfigurationId
  | _ => .error .invalidCredentialConfigurationId

def requirementKeys : List String :=
  ["credential_configuration_id", "credential_type", "trusted_issuers", "claims",
    "holder_binding", "status"]

def validateRequirement (requirement : Json) : Except PolicyError Unit :=
  match requirement with
  | .obj _ => do
    exactKeys requirement requirementKeys .unknownRequirementField
    require requirement "credential_type" (fun j => j.str?.any isCredentialType)
      .unsupportedCredentialType
    validateConfigurationId (requirement.fetch "credential_configuration_id")
    require requirement "trusted_issuers" validIssuers .invalidTrustedIssuers
    require requirement "claims" validClaims .invalidClaimPolicy
    require requirement "holder_binding" (·.eqv (.str "required")) .holderBindingRequired
    require requirement "status" validStatus .invalidStatusPolicy
  | _ => .error .invalidAccessRequirements

/-- The rules in the order of the map. -/
def validateRules : List (String × Json) → Except PolicyError Unit
  | [] => .ok ()
  | (name, requirement) :: rules =>
    if name = "" then .error .invalidAccessRequirements
    else do
      validateRequirement requirement
      validateRules rules

def validateRequirements : Json → Except PolicyError Unit
  | .obj rules => validateRules rules
  | _ => .error .invalidAccessRequirements

/-! ### Policies -/

def validateAction (action : Json) : Except PolicyError Unit :=
  match action with
  | .obj _ => do
    exactKeys action ["requirement"] .unknownActionPolicyField
    require action "requirement" isNonEmptyString .invalidAccessRequirement
  | _ => .error .invalidAccessRequirement

inductive Action
  | discovery
  | read
  | post
  | moderate
  deriving DecidableEq, Repr

/-- The rule for moderation, with its default. -/
def moderation (policy : Json) : Json :=
  (policy.get? "moderate").getD (.obj [("requirement", .str "board_moderator")])

def actionRequirement (policy : Json) : Action → Json
  | .discovery =>
    if (policy.fetch "discovery").eqv (.str "public") then .str "public"
    else (policy.fetch "read").fetch "requirement"
  | .read => (policy.fetch "read").fetch "requirement"
  | .post => (policy.fetch "post").fetch "requirement"
  | .moderate => (moderation policy).fetch "requirement"

/-- A requirement that is built in, or that a rule of the policy defines. -/
def isKnown (policy requirement : Json) : Bool :=
  oneOf builtInRequirements requirement || oneOf (policy.fetch "requirements").keys requirement

def validateReferences (policy : Json) : Except PolicyError Unit :=
  ensure ([Action.discovery, .read, .post, .moderate].all fun action =>
    isKnown policy (actionRequirement policy action)) .unknownAccessRequirement

def validateVisibility (encryptedBoardsEnabled : Bool) (value : Json) : Except PolicyError Unit :=
  match Visibility.ofJson value with
  | some .endToEndEncrypted => ensure encryptedBoardsEnabled .encryptedBoardsNotEnabled
  | some _ => .ok ()
  | none => .error .invalidContentVisibility

def validatePrivacyCombination (policy : Json) : Except PolicyError Unit :=
  let isPublic := (policy.fetch "content_visibility").eqv (.str "public")
  if !isPublic && !(policy.fetch "federation").eqv (.str "disabled") then
    .error .protectedBoardFederationEnabled
  else if isPublic && !(actionRequirement policy .read).eqv (.str "public") then
    .error .credentialReadRequiresNonpublicVisibility
  else .ok ()

def validate (encryptedBoardsEnabled : Bool) (policy : Json) : Except PolicyError Unit :=
  match policy with
  | .obj _ => do
    exactKeys policy default.keys .unknownAccessPolicyField
    require policy "version" (·.eqv (.int 1)) .unsupportedAccessPolicyVersion
    require policy "discovery" (oneOf ["public", "credential_required"]) .invalidDiscoveryPolicy
    validateAction (policy.fetch "read")
    validateAction (policy.fetch "post")
    validateAction (moderation policy)
    validateRequirements (policy.fetch "requirements")
    validateReferences policy
    require policy "capability_ttl_seconds" (intBetween 60 900) .invalidCapabilityTtl
    validateVisibility encryptedBoardsEnabled (policy.fetch "content_visibility")
    require policy "federation" (oneOf ["enabled", "disabled"]) .invalidFederationPolicy
    validatePrivacyCombination policy
  | _ => .error .invalidAccessPolicy

def requirementFor (encryptedBoardsEnabled : Bool) (policy : Json) (action : Action) :
    Except PolicyError Json := do
  validate encryptedBoardsEnabled policy
  return actionRequirement policy action

/-- **What a valid policy requires is built in, or a rule of the policy defines it.** -/
theorem requirementFor_known {encryptedBoardsEnabled : Bool} {policy requirement : Json}
    {action : Action} (h : requirementFor encryptedBoardsEnabled policy action = .ok requirement) :
    isKnown policy requirement = true := by
  obtain ⟨_, hvalid, hrequirement⟩ := bind_eq_ok.1 h
  obtain rfl : actionRequirement policy action = requirement := Except.ok.inj hrequirement
  unfold validate at hvalid
  split at hvalid
  · obtain ⟨_, -, hvalid⟩ := bind_eq_ok.1 hvalid
    obtain ⟨_, -, hvalid⟩ := bind_eq_ok.1 hvalid
    obtain ⟨_, -, hvalid⟩ := bind_eq_ok.1 hvalid
    obtain ⟨_, -, hvalid⟩ := bind_eq_ok.1 hvalid
    obtain ⟨_, -, hvalid⟩ := bind_eq_ok.1 hvalid
    obtain ⟨_, -, hvalid⟩ := bind_eq_ok.1 hvalid
    obtain ⟨_, -, hvalid⟩ := bind_eq_ok.1 hvalid
    obtain ⟨_, hreferences, -⟩ := bind_eq_ok.1 hvalid
    have hall := ensure_eq_ok.1 hreferences
    rw [List.all_eq_true] at hall
    exact hall action (by cases action <;> simp)
  · cases hvalid

end BoardAccessPolicy

end Ansible
