import Ansible.Lib.Base64
import Ansible.Relay.BoardGovernance

/-!
# Ceremonies with passkeys

A DID enrols credentials, which then authenticate for a capability to sync, or sign single
operations for publication.  A ceremony starts with options, which record a challenge, and ends
with an assertion over the challenge.  The challenge is claimed in a transaction of its own, and
the credential is looked up after it.

## Main definitions

* `Wax` — the verification of registrations and of assertions.
* `WebauthnStore` — the tables of credentials and of challenges.
* `WebauthnSync.finishRegistration` — the enrolment of a credential.
* `WebauthnSync.takeChallenge`, `authenticationCredential`, `finishAuthentication` — the three
  parts of an authentication.
* `WebauthnSync.takePublicationChallenge`, `publicationCredential`, `finishPublication` — the
  parts of `verify_publication`.
* `WebauthnSync.revokeCredential` — the revocation.
-/

namespace Ansible

/-! ### Tables -/

structure WaxChallenge where
  bytes : Binary
  issuedAt : Time
  /-- The credentials that the options allow, with their keys. -/
  allowCredentials : List (Binary × Binary)

/-- The library that verifies a registration, and an assertion under the keys of the
credentials; it answers with the credential and with its counter. -/
structure Wax where
  register (now : Time) (attestation clientData : Binary) (challenge : WaxChallenge) :
    Option (Binary × Binary)
  authenticate (now : Time) (credentialId authData signature clientData : Binary)
    (challenge : WaxChallenge) (keys : List (Binary × Binary)) : Option ℤ

structure WebauthnEnv extends Platform where
  wax : Wax
  rpId : String

/-- A row of `webauthn_credentials`. -/
structure WebauthnCredential where
  credentialId : Binary
  did : String
  coseKey : Binary
  signCount : ℤ
  lastUsedAt : Option Time
  delegationId : Option String
  credentialThumbprint : Text
  rpId : Option String
  allowedActions : List String
  delegationExpiresAt : Option Time
  revokedAt : Option Time

inductive ChallengeKind
  | registration
  | authentication
  | webPublication
  deriving DecidableEq, Repr

/-- What a challenge for a publication is bound to. -/
structure PublicationBinding where
  sessionId : String
  operationId : Json
  operationHash : String
  action : Json
  targetForumHost : Json
  boardId : Json

/-- A row of `webauthn_challenges`. -/
structure WebauthnChallenge where
  challengeId : String
  did : String
  kind : ChallengeKind
  waxChallenge : WaxChallenge
  binding : Option PublicationBinding
  expiresAt : Time
  consumedAt : Option Time

structure CredentialIndexes (rows : List WebauthnCredential) : Prop where
  credential_id : UniqueOn (·.credentialId) (fun _ => true) rows
  delegation_id : UniqueOn (·.delegationId) (fun c => c.delegationId.isSome) rows

instance : DecidablePred CredentialIndexes := fun rows =>
  decidable_of_iff (UniqueOn (fun c : WebauthnCredential => c.credentialId) (fun _ => true) rows ∧
    UniqueOn (·.delegationId) (fun c => c.delegationId.isSome) rows)
    ⟨fun h => ⟨h.1, h.2⟩, fun h => ⟨h.1, h.2⟩⟩

abbrev CredentialTable := Table WebauthnCredential CredentialIndexes

abbrev ChallengeTable := Table WebauthnChallenge (UniqueOn (·.challengeId) fun _ => true)

structure WebauthnStore where
  relay : Relay
  credentials : CredentialTable
  challenges : ChallengeTable

inductive SyncError
  | unverifiedDid
  | notEnrolled
  | invalidScope
  | invalidChallenge
  | expiredChallenge
  | consumedChallenge
  | unknownCredential
  | credentialAlreadyBound
  | credentialNotAuthorized
  | credentialRevoked
  | credentialIdMismatch
  | signCountReplay
  | operationHashMismatch
  | invalidRegistration
  | invalidAssertion
  | invalidDidProof
  | webauthnVerificationFailed
  /-- A value of another type than the code expects, or one that its column cannot hold. -/
  | raised
  deriving DecidableEq, Repr

namespace WebauthnSync

abbrev Ceremony (α : Type) := Checked WebauthnStore SyncError α

def challengeTtl : Time := seconds 120

/-- `list_credentials` -/
def listCredentials (did : String) (s : WebauthnStore) : List WebauthnCredential :=
  s.credentials.rows.filter fun c => c.did == did

def getCredential (id : Binary) (s : WebauthnStore) : Option WebauthnCredential :=
  s.credentials.find (·.credentialId == id)

/-- `decode64` of a member of the response -/
def decode64 : Json → Option Binary
  | .str s => decodeUrl64 (bytes s)
  | _ => none

def responseMember (credential : Json) (key : String) : Option Binary :=
  decode64 ((credential.fetch "response").fetch key)

/-- `credential["rawId"] || credential["id"]` -/
def rawId (credential : Json) : Option Binary :=
  decode64 ((credential.fetch "rawId").orElse (credential.fetch "id"))

/-- `IdentityCache.verified?` -/
def anchoredDid (now : Time) (did : String) : Ceremony Unit := fun s =>
  let (entry, relay) := IdentityCache.get now did s.relay
  (ensure (entry.any fun e => decide (now < e.expiresAt)) .unverifiedDid, { s with relay })

/-- `IdentityCache.verify_signature` -/
def verifySignature (P : Platform) (now : Time) (did : String) (message : Text)
    (signature : String) : Ceremony Bool := fun s =>
  let (ok, relay) := IdentityCache.verifySignature P now did message signature s.relay
  (.ok ok, { s with relay })

/-! ### Challenges -/

/-- `persist_challenge` -/
def persistChallenge (c : WebauthnChallenge) : Ceremony WebauthnChallenge := fun s =>
  match s.challenges.insert c with
  | some challenges => (.ok c, { s with challenges })
  | none => (.error .raised, s)

/-- The challenge is claimed, before anything is verified. -/
def consume (now : Time) (c : WebauthnChallenge) : Ceremony Unit := fun s =>
  match s.challenges.update (·.challengeId == c.challengeId)
      (fun row => { row with consumedAt := some now }) with
  | some challenges => (.ok (), { s with challenges })
  | none => (.error .raised, s)

def takeChallenge (now : Time) (id did : String) (kind : ChallengeKind) : Ceremony WaxChallenge :=
  fun s =>
    match s.challenges.find (·.challengeId == id) with
    | some row =>
      if row.did = did ∧ row.kind = kind ∧ row.consumedAt = none then
        if now < row.expiresAt then (do consume now row; return row.waxChallenge) s
        else (.error .expiredChallenge, s)
      else (.error .invalidChallenge, s)
    | none => (.error .invalidChallenge, s)

def takePublicationChallenge (now : Time) (id did sessionId : String) :
    Ceremony WebauthnChallenge := fun s =>
  match s.challenges.find (·.challengeId == id) with
  | some row =>
    if row.consumedAt ≠ none then (.error .consumedChallenge, s)
    else if row.did = did ∧ row.kind = .webPublication ∧
        row.binding.map (·.sessionId) = some sessionId then
      if now < row.expiresAt then (do consume now row; return row) s
      else (.error .expiredChallenge, s)
    else (.error .invalidChallenge, s)
  | none => (.error .invalidChallenge, s)

/-! ### Enrolment -/

/-- What random numbers a request draws. -/
structure Fresh where
  challengeId : String
  bytes : Binary

def registrationOptions (now : Time) (fresh : Fresh) (did : String) :
    Ceremony WebauthnChallenge := do
  anchoredDid now did
  persistChallenge
    { challengeId := fresh.challengeId
      did
      kind := .registration
      waxChallenge := ⟨fresh.bytes, now, []⟩
      binding := none
      expiresAt := now + challengeTtl
      consumedAt := none }

def publicationActions : List String :=
  ["forum.publish", "forum.reply", "forum.edit", "forum.delete", "forum.react",
    "forum.moderate"]

/-- What a delegation says about the credential. -/
structure DelegationAttrs where
  delegationId : Option String
  rpId : Option String
  allowedActions : List String
  expiresAt : Option Time

/-- `DateTime.from_iso8601(value || "")`, which raises on what is no text. -/
def instant (j : Json) : Except SyncError (Option Time) :=
  match j.orElse (.str "") with
  | .str s => .ok ((DateTime.fromIso8601 s).map (·.1))
  | _ => .error .raised

/-- `DateTime.diff` in seconds -/
def diffSeconds (t u : Time) : ℤ := t / 1000000 - u / 1000000

/-- The actions of a delegation, when they are actions of the rail. -/
def delegatedActions : Json → Option (List String)
  | .arr actions =>
    if actions ≠ [] ∧ actions.all (fun a => a.str?.any (publicationActions.contains ·)) = true
    then some (actions.filterMap Json.str?) else none
  | _ => none

/-- `verify_enrollment_did_proof` -/
def verifyEnrollmentDidProof (W : WebauthnEnv) (now : Time) (did challengeId : String)
    (credentialId : Binary) (signature : String) (delegation : Json) :
    Ceremony DelegationAttrs := do
  match delegation with
  | .null =>
    let ok ← verifySignature W.toPlatform now did
      (chars challengeId ++ '.' :: encodeUrl64 credentialId) signature
    .lift (ensure ok .invalidDidProof)
    return ⟨none, none, [], none⟩
  | .obj _ =>
    match ← .lift (instant (delegation.fetch "issued_at")),
        ← .lift (instant (delegation.fetch "expires_at")) with
    | some issuedAt, some expiresAt =>
      match delegation.fetch "delegation_id", delegatedActions (delegation.fetch "allowed_actions")
        with
      | .str delegationId, some allowedActions =>
        .lift (ensure ((delegation.fetch "type").eqv
            (.str "io.trisaura.identity.webCredentialDelegation") &&
          (delegation.fetch "version").eqv (.int 1) &&
          (delegation.fetch "challenge_id").eqv (.str challengeId) &&
          (delegation.fetch "subject_did").eqv (.str did) &&
          (delegation.fetch "credential_id_hash").eqv
            (.str (String.ofList (encode16 (W.sha256 credentialId)))) &&
          (delegation.fetch "rp_id").eqv (.str W.rpId) &&
          decide (issuedAt < expiresAt) && decide (now < expiresAt) &&
          decide (diffSeconds expiresAt issuedAt ≤ 365 * 24 * 60 * 60)) .invalidDidProof)
        let ok ← verifySignature W.toPlatform now did (VpVerifier.canonicalJson delegation)
          signature
        .lift (ensure ok .invalidDidProof)
        return ⟨some delegationId, some W.rpId, allowedActions, some expiresAt⟩
      | _, _ => .lift (.error .invalidDidProof)
    | _, _ => .lift (.error .invalidDidProof)
  | _ => .lift (.error .invalidDidProof)

/-- `save_credential`: one that the DID has already is left as it is. -/
def saveCredential (W : WebauthnEnv) (did : String) (credentialId coseKey : Binary)
    (attrs : DelegationAttrs) : Ceremony WebauthnCredential := fun s =>
  match getCredential credentialId s with
  | none =>
    let row : WebauthnCredential :=
      { credentialId
        did
        coseKey
        signCount := 0
        lastUsedAt := none
        delegationId := attrs.delegationId
        credentialThumbprint := encodeUrl64 (W.sha256 credentialId)
        rpId := attrs.rpId
        allowedActions := attrs.allowedActions
        delegationExpiresAt := attrs.expiresAt
        revokedAt := none }
    match s.credentials.insert row with
    | some credentials => (.ok row, { s with credentials })
    | none => (.error .raised, s)
  | some existing =>
    if existing.did = did then (.ok existing, s) else (.error .credentialAlreadyBound, s)

/-- `finish_registration` -/
def finishRegistration (W : WebauthnEnv) (now : Time) (did challengeId : String)
    (credential : Json) (didSignature : String) (delegation : Json) :
    Ceremony WebauthnCredential := do
  let challenge ← takeChallenge now challengeId did .registration
  match rawId credential with
  | none => .lift (.error .invalidRegistration)
  | some rawId =>
    let attrs ← verifyEnrollmentDidProof W now did challengeId rawId didSignature delegation
    match responseMember credential "clientDataJSON",
        responseMember credential "attestationObject" with
    | some clientData, some attestation =>
      match W.wax.register now attestation clientData challenge with
      | some (credentialId, coseKey) =>
        .lift (ensure (credentialId == rawId) .credentialIdMismatch)
        saveCredential W did credentialId coseKey attrs
      | none => .lift (.error .invalidRegistration)
    | _, _ => .lift (.error .invalidRegistration)

/-! ### Assertions -/

/-- The response verifies under the key of the credential, and the counter goes on. -/
def assertion (W : WebauthnEnv) (now : Time) (stored : WebauthnCredential)
    (challenge : WaxChallenge) (credential : Json) (invalid : SyncError) : Except SyncError ℤ :=
  match responseMember credential "clientDataJSON", responseMember credential "authenticatorData",
      responseMember credential "signature" with
  | some clientData, some authData, some signature =>
    match W.wax.authenticate now stored.credentialId authData signature clientData challenge
        [(stored.credentialId, stored.coseKey)] with
    | some signCount =>
      if 0 < stored.signCount ∧ 0 < signCount ∧ signCount ≤ stored.signCount
      then .error .signCountReplay else .ok signCount
    | none => .error invalid
  | _, _, _ => .error invalid

/-- `update_sign_count`, which answers with the row; a counter that is the one that was read is
not written. -/
def updateSignCount (now : Time) (stored : WebauthnCredential) (count : ℤ) :
    Ceremony WebauthnCredential := fun s =>
  match s.credentials.update (·.credentialId == stored.credentialId) (fun row => { row with
      signCount := if count = stored.signCount then row.signCount else count
      lastUsedAt := some now }) with
  | some credentials =>
    (.ok { stored with signCount := count, lastUsedAt := some now }, { s with credentials })
  | none => (.error .raised, s)

/-! ### Authentication -/

def scope : String := "sync:write"

/-- `authentication_options` -/
def authenticationOptions (now : Time) (fresh : Fresh) (did requested : String) :
    Ceremony WebauthnChallenge := fun s =>
  if requested ≠ scope then (.error .invalidScope, s)
  else
    let credentials := listCredentials did s
    (do
      anchoredDid now did
      .lift (ensure (decide (credentials ≠ [])) .notEnrolled)
      persistChallenge
        { challengeId := fresh.challengeId
          did
          kind := .authentication
          waxChallenge :=
            ⟨fresh.bytes, now, credentials.map fun c => (c.credentialId, c.coseKey)⟩
          binding := none
          expiresAt := now + challengeTtl
          consumedAt := none } : Ceremony WebauthnChallenge) s

/-- The credential of an authentication, as the table has it. -/
def authenticationCredential (did : String) (credential : Json) (s : WebauthnStore) :
    Except SyncError WebauthnCredential :=
  match rawId credential with
  | none => .error .invalidAssertion
  | some id =>
    match getCredential id s with
    | some stored => if stored.did = did then .ok stored else .error .invalidAssertion
    | none => .error .unknownCredential

/-- A capability to sync. -/
structure Capability where
  sub : String
  scp : List String
  exp : Time

/-- The rest of `finish_authentication`, with the credential that was looked up. -/
def finishAuthentication (W : WebauthnEnv) (now : Time) (did : String)
    (stored : WebauthnCredential) (challenge : WaxChallenge) (credential : Json) :
    Ceremony Capability := do
  let count ← .lift (assertion W now stored challenge credential .invalidAssertion)
  let _ ← updateSignCount now stored count
  return ⟨did, [scope], now + seconds 300⟩

/-! ### Publication -/

/-- `active_publication_credentials` -/
def activePublicationCredentials (now : Time) (did : String) (action : Json)
    (s : WebauthnStore) : List WebauthnCredential :=
  s.credentials.rows.filter fun c => c.did == did && c.revokedAt.isNone &&
    c.delegationExpiresAt.all (fun t => decide (now < t)) &&
      action.str?.any (c.allowedActions.contains ·)

/-- `publication_options` -/
def publicationOptions (now : Time) (fresh : Fresh) (did sessionId : String) (operation : Json)
    (operationHash : String) : Ceremony WebauthnChallenge := fun s =>
  let credentials := activePublicationCredentials now did (operation.fetch "action") s
  (do
    anchoredDid now did
    .lift (ensure (decide (credentials ≠ [])) .notEnrolled)
    persistChallenge
      { challengeId := fresh.challengeId
        did
        kind := .webPublication
        waxChallenge := ⟨fresh.bytes, now, credentials.map fun c => (c.credentialId, c.coseKey)⟩
        binding := some
          { sessionId
            operationId := operation.fetch "operation_id"
            operationHash
            action := operation.fetch "action"
            targetForumHost := operation.fetch "target_forum_host"
            boardId := operation.fetch "board_id" }
        expiresAt := now + challengeTtl
        consumedAt := none } : Ceremony WebauthnChallenge) s

/-- The challenge was issued for this operation. -/
def boundTo (b : PublicationBinding) (operation : Json) (operationHash : String) : Bool :=
  b.operationId.eqv (operation.fetch "operation_id") && b.operationHash == operationHash &&
    b.action.eqv (operation.fetch "action") &&
    b.targetForumHost.eqv (operation.fetch "target_forum_host") &&
    b.boardId.eqv (operation.fetch "board_id")

/-- `authorize_publication_credential` -/
def authorizePublicationCredential (W : WebauthnEnv) (now : Time) (stored : WebauthnCredential)
    (action : Json) : Except SyncError Unit :=
  if stored.revokedAt ≠ none then .error .credentialRevoked
  else if stored.delegationId = none then .error .credentialNotAuthorized
  else if stored.rpId ≠ some W.rpId then .error .credentialNotAuthorized
  else if ¬ action.str?.any (stored.allowedActions.contains ·) then .error .credentialNotAuthorized
  else if stored.delegationExpiresAt.any (fun t => decide (t ≤ now)) then .error .credentialRevoked
  else .ok ()

/-- The credential of a publication, with the checks before the assertion. -/
def publicationCredential (W : WebauthnEnv) (now : Time) (did : String) (operation : Json)
    (credential : Json) (s : WebauthnStore) : Except SyncError WebauthnCredential :=
  match rawId credential with
  | none => .error .webauthnVerificationFailed
  | some id =>
    match getCredential id s with
    | some stored =>
      if stored.did = did then
        (authorizePublicationCredential W now stored (operation.fetch "action")).map
          fun _ => stored
      else .error .webauthnVerificationFailed
    | none => .error .credentialNotAuthorized

structure PublicationProof where
  delegationId : Option String
  credentialThumbprint : Text
  operationHash : String
  verifiedAt : Time

/-- What a `with` clause binds of an answer: the value of `{:ok, value}`. -/
inductive Answer (α : Type)
  | ok (a : α)
  | other

/-- The clause `{:ok, _} <- update_sign_count(..)`: the answer is a row and no such pair. -/
def answerOfRow (_row : WebauthnCredential) : Answer WebauthnCredential := .other

/-- The rest of `verify_publication`, with the credential that was looked up. -/
def finishPublication (W : WebauthnEnv) (now : Time) (stored : WebauthnCredential)
    (challenge : WaxChallenge) (operationHash : String) (credential : Json) :
    Ceremony PublicationProof := do
  let count ← .lift (assertion W now stored challenge credential .webauthnVerificationFailed)
  let row ← updateSignCount now stored count
  match answerOfRow row with
  | .ok _ =>
    return ⟨stored.delegationId, stored.credentialThumbprint, operationHash, now⟩
  | .other => .lift (.error .webauthnVerificationFailed)

/-! ### Revocation -/

/-- `Ecto` writes an instant to a column of microseconds only with all six digits. -/
def storableInstant (s : String) : Bool := DateTime.precision s == 6

/-- `revoke_credential` -/
def revokeCredential (W : WebauthnEnv) (now : Time) (did encodedId : String) (revocation : Json)
    (signature : String) : Ceremony WebauthnCredential := do
  match decodeUrl64 (bytes encodedId) with
  | none => .lift (.error .invalidDidProof)
  | some id =>
    let stored ← .look fun s =>
      match getCredential id s with
      | some stored => if stored.did = did then .ok stored else .error .invalidDidProof
      | none => .error .unknownCredential
    .lift (ensure ((revocation.fetch "type").eqv
        (.str "io.trisaura.identity.webCredentialRevocation") &&
      (revocation.fetch "version").eqv (.int 1) &&
      (revocation.fetch "subject_did").eqv (.str did) &&
      (revocation.fetch "credential_id").eqv (.str encodedId) &&
      (revocation.fetch "nonce").str?.any (· ≠ "")) .invalidDidProof)
    match (revocation.fetch "revoked_at").orElse (.str "") with
    | .str text =>
      match DateTime.fromIso8601 text with
      | some (revokedAt, _) =>
        .lift (ensure (decide ((diffSeconds now revokedAt).natAbs ≤ 300)) .invalidDidProof)
        let ok ← verifySignature W.toPlatform now did (VpVerifier.canonicalJson revocation)
          signature
        .lift (ensure ok .invalidDidProof)
        .lift (ensure (storableInstant text) .raised)
        fun s =>
          match s.credentials.update (·.credentialId == id)
              (fun row => { row with revokedAt := some revokedAt }) with
          | some credentials =>
            (.ok { stored with revokedAt := some revokedAt }, { s with credentials })
          | none => (.error .raised, s)
      | none => .lift (.error .invalidDidProof)
    | _ => .lift (.error .raised)

end WebauthnSync

end Ansible
