import Ansible.Issuer.GrantStore
import Ansible.Issuer.MemoryStore
import Ansible.Lib.Base64
import Ansible.Lib.GoJson
import Ansible.Lib.Slots

/-!
# Issuing membership credentials

A credential request reads the record of its access token, checks its proof, uses up the nonce of
the proof, prepares the token with an index of the status list, signs, records the credential, and
marks the token.  Each of these is a step of its own, so that requests run side by side, and any of
them may stop where it is.

## Main definitions

* `IssuerEnv` — digests, random texts, and the check of proofs.
* `Signer`, `issueMembershipJWT` — credentials, as they are signed.
* `OidIssuer`, `OidEvent`, `OidIssuer.step` — the issuer with its requests in flight.
-/

namespace Ansible.Oid4vci

open Hosted

/-! ### Credentials -/

structure HolderJWK where
  kty : String
  crv : String
  x : String
  y : String
  deriving DecidableEq, Repr

structure Signer where
  algorithm : String
  keyID : String
  sign : Binary → Option Binary

structure MembershipIssueRequest where
  issuerDID : String
  issuerURL : String
  holderPairwiseDID : String
  holderJWK : HolderJWK
  membershipClass : String
  forumHostID : String
  boardID : String
  statusListIndex : ℤ
  statusListBaseURL : String
  now : Time

structure IssuedJWTCredential where
  id : String
  jwt : String
  hash : String
  issuedAt : Time
  expiresAt : Time
  deriving DecidableEq, Repr

/-- What the issuer relies on. -/
structure IssuerEnv where
  /-- SHA-256 of a text, in hexadecimal. -/
  hash : String → String
  /-- The text that is drawn at random at a draw. -/
  draw : ℕ → String
  baseURL : String
  /-- The nonce that a proof names. -/
  proofNonce : String → Option String
  /-- The key of a proof that holds for an audience and a nonce. -/
  verifyJWTProof : String → String → String → Time → Option HolderJWK

def membershipCredentialType : String := "PoliticalPartyMembershipCredential"

def membershipConfiguration : String := "PoliticalPartyMembershipCredential-v1"

def eddsaJCS2022 : String := "eddsa-jcs-2022"

/-- Ninety days. -/
def membershipTTL : Time := 90 * 24 * 3600 * 1000000000

def unixSeconds (t : Time) : ℤ := t / 1000000000 - 62135596800

/-- Nanoseconds since 1970, in 64 bits. -/
def unixNanos (t : Time) : ℤ := (t - 62135596800 * 1000000000).bmod 18446744073709551616

open GoJson in
/-- A time to the second, in UTC. -/
def rfc3339 (t : Time) : String :=
  let seconds := t / 1000000000
  let (year, month, day) := DateTime.civilFromDays (seconds / 86400 - epochDays)
  let clock := (seconds % 86400).toNat
  String.ofList (padded 4 year.toNat ++ '-' :: padded 2 month ++ '-' :: padded 2 day ++ 'T' ::
    padded 2 (clock / 3600) ++ ':' :: padded 2 (clock / 60 % 60) ++ ':' :: padded 2 (clock % 60) ++
    ['Z'])

namespace IssuerEnv

variable (E : IssuerEnv)

def credentialIssuerURL (tenantID : String) : String := E.baseURL ++ "/tenants/" ++ tenantID

/-- The id of a credential tells its issuer, its holder, its index and its instant. -/
def credentialID (issuerURL issuerDID holderPairwiseDID : String) (index : ℤ) (now : Time) :
    String :=
  let material := issuerDID ++ "\x00" ++ holderPairwiseDID ++ "\x00" ++ toString index ++ "\x00" ++
    toString (unixNanos now)
  issuerURL ++ "/credentials/" ++ String.ofList ((chars (E.hash material)).take 32)

end IssuerEnv

section

open GoJson

def string (value : String) : Text := quote value

def array (elements : List Text) : Text := '[' :: (Json.commaSep elements ++ [']'])

def integer (n : ℤ) : Text := (toString n).toList

def encodeText (t : Text) : String := String.ofList (encodeUrl64 t.utf8)

/-- The members of a map are written in the order of their keys. -/
def statusListEntry (url purpose : String) (index : ℤ) : Text :=
  object [member "id" (string (url ++ "#" ++ toString index)),
    member "statusListCredential" (string url),
    member "statusListIndex" (string (toString index)),
    member "statusPurpose" (string purpose),
    member "type" (string "BitstringStatusListEntry")]

def HolderJWK.encoded (k : HolderJWK) : Text :=
  object [member "crv" (string k.crv), member "kty" (string k.kty), member "x" (string k.x),
    member "y" (string k.y)]

def pairwiseDID (k : HolderJWK) : String := "did:jwk:" ++ encodeText k.encoded

def membershipSubject (r : MembershipIssueRequest) : Text :=
  object <|
    [member "board_id" (string r.boardID), member "forum_host_id" (string r.forumHostID),
      member "id" (string r.holderPairwiseDID), member "membership" "true".toList] ++
    (if r.membershipClass = "" then []
      else [member "membership_class" (string r.membershipClass)]) ++
    [member "organization_id" (string r.issuerDID)]

def membershipVC (r : MembershipIssueRequest) (credentialID : String) : Text :=
  object [member "@context" (array [string "https://www.w3.org/2018/credentials/v1"]),
    member "credentialStatus" (array
      [statusListEntry (r.statusListBaseURL ++ "/revocation/1") "revocation" r.statusListIndex,
        statusListEntry (r.statusListBaseURL ++ "/suspension/1") "suspension" r.statusListIndex]),
    member "credentialSubject" (membershipSubject r), member "id" (string credentialID),
    member "issuer" (string r.issuerDID),
    member "type" (array [string "VerifiableCredential", string membershipCredentialType]),
    member "validFrom" (string (rfc3339 r.now)),
    member "validUntil" (string (rfc3339 (r.now + membershipTTL)))]

def membershipClaims (r : MembershipIssueRequest) (credentialID : String) : Text :=
  object [member "cnf" (object [member "jwk" r.holderJWK.encoded]),
    member "exp" (integer (unixSeconds (r.now + membershipTTL))),
    member "iat" (integer (unixSeconds r.now)), member "iss" (string r.issuerDID),
    member "jti" (string credentialID), member "nbf" (integer (unixSeconds r.now)),
    member "sub" (string r.holderPairwiseDID), member "vc" (membershipVC r credentialID)]

def membershipHeader (signer : Signer) : Text :=
  object [member "alg" (string "EdDSA"), member "kid" (string signer.keyID),
    member "typ" (string "JWT")]

end

def MembershipIssueRequest.valid (signer : Signer) (r : MembershipIssueRequest) : Bool :=
  signer.algorithm == eddsaJCS2022 && r.issuerDID != "" && r.issuerURL != "" &&
    r.holderPairwiseDID != "" && 0 ≤ r.statusListIndex && r.statusListBaseURL != "" &&
    r.forumHostID != "" && r.boardID != "" && r.holderJWK.kty == "EC" &&
    r.holderJWK.crv == "P-256" && r.holderJWK.x != "" && r.holderJWK.y != ""

/-- `IssueMembershipJWT`; the zero time stands for the time of the clock. -/
def issueMembershipJWT (E : IssuerEnv) (signer : Signer) (clock : Time)
    (r : MembershipIssueRequest) : Option IssuedJWTCredential :=
  if !r.valid signer then none
  else
    let r := if r.now = 0 then { r with now := clock } else r
    let id := E.credentialID r.issuerURL r.issuerDID r.holderPairwiseDID r.statusListIndex r.now
    let signed := encodeText (membershipHeader signer) ++ "." ++ encodeText (membershipClaims r id)
    (signer.sign (bytes signed)).map fun signature =>
      let jwt := signed ++ "." ++ String.ofList (encodeUrl64 signature)
      { id, jwt, hash := E.hash jwt, issuedAt := r.now, expiresAt := r.now + membershipTTL }

/-! ### Requests in flight -/

/-- A reading of the clock, long after the zero time. -/
structure Reading where
  instant : Time
  late : 1000 ≤ instant

/-- What the key manager returns. -/
structure ActiveSigner where
  signer : Signer
  credentialTypes : List String
  canonicalJSON : String

/-- Where a credential request stands. -/
inductive IssueStage
  /-- The token is read and the proof checked. -/
  | admitted (access : Access) (nonce : String) (jwk : HolderJWK)
  /-- The nonce is used up. -/
  | authorized (access : Access) (jwk : HolderJWK)
  | located (access : Access) (jwk : HolderJWK) (tenant : Tenant)
  | chosen (access : Access) (jwk : HolderJWK) (tenant : Tenant) (active : ActiveSigner)
  /-- An index is reserved. -/
  | reserved (access : Access) (jwk : HolderJWK) (tenant : Tenant) (active : ActiveSigner)
    (index : ℤ)
  /-- The token is prepared. -/
  | prepared (access : Access) (jwk : HolderJWK) (tenant : Tenant) (active : ActiveSigner)
  | recorded (issued : IssuedJWTCredential)
  /-- The token is marked. -/
  | marked (issued : IssuedJWTCredential)
  | finished

structure IssueCall where
  tenantID : String
  accessToken : String
  stage : IssueStage

/-- What a step of a request takes from outside. -/
structure IssueInput where
  issuedAt : Reading
  now : Reading
  active : Option ActiveSigner
  /-- The indexes that are drawn. -/
  draws : List ℤ
  auditID : String

/-- A grant that was exchanged. -/
structure Exchange where
  codeHash : String
  tokenHash : String
  expiry : Time
  deriving DecidableEq

structure OidIssuer (σ : Type) where
  state : StateTables
  hosted : σ
  /-- The number of draws. -/
  drawn : ℕ
  calls : List IssueCall
  exchanged : List Exchange
  /-- The hashes of the nonces that were accepted. -/
  accepted : List String
  /-- The credentials that were returned, with their tokens. -/
  issued : List (String × IssuedJWTCredential)

inductive OidEvent
  /-- `CreateBoardPreAuthorizedGrant` -/
  | createGrant (tenantID configurationID subjectPairwiseDID membershipClass forumHostID boardID :
      String) (now : Reading)
  | exchange (code tenantID : String) (start now : Reading)
  | issueNonce (now : Reading)
  /-- Another request that is proved with a nonce. -/
  | consumeNonce (nonce : String) (now : Reading)
  /-- A credential request, up to the check of its proof. -/
  | request (tenantID accessToken proofJWT : String) (now checked : Reading)
  /-- The next step of a request. -/
  | advance (i : ℕ) (x : IssueInput)

def codePrefix : String := "eix_offer_v1_"

def tokenPrefix : String := "eix_credential_v1_"

namespace OidIssuer

variable {σ : Type} (E : IssuerEnv) (S : StateStore) (H : StoreOps σ)

def start (hosted : σ) : OidIssuer σ := ⟨{}, hosted, 0, [], [], [], []⟩

def minutes (n : ℤ) : Time := n * 60 * 1000000000

def createGrant (tenantID configurationID subjectPairwiseDID membershipClass forumHostID boardID :
    String) (now : Time) (s : OidIssuer σ) : OidIssuer σ :=
  if tenantID = "" ∨ configurationID = "" ∨ subjectPairwiseDID = "" then s
  else if membershipClass ≠ "member" ∧ membershipClass ≠ "moderator" then s
  else
    let code := codePrefix ++ E.draw s.drawn
    let grant : Grant :=
      { codeHash := E.hash code, tenantID, credentialConfigurationID := configurationID
        subjectPairwiseHash := E.hash subjectPairwiseDID, subjectPairwiseDID, membershipClass
        forumHostID, boardID, expiresAt := now + minutes 10 }
    { s with drawn := s.drawn + 1, state := (S.putGrant grant s.state).2 }

/-- The exchange for a token. -/
def exchangeFor (code tenantID token : String) (expiry now : Time) (s : OidIssuer σ) :
    OidIssuer σ :=
  match S.exchangeGrant (E.hash code) tenantID (E.hash token) expiry now s.state with
  | (.ok _, state) =>
    { s with state, exchanged := s.exchanged ++ [⟨E.hash code, E.hash token, expiry⟩] }
  | (.error _, state) => { s with state }

def exchange (code tenantID : String) (first now : Time) (s : OidIssuer σ) : OidIssuer σ :=
  if (bytes code).length < (bytes codePrefix).length + 32 then s
  else exchangeFor E S code tenantID (tokenPrefix ++ E.draw s.drawn) (first + minutes 5) now
    { s with drawn := s.drawn + 1 }

def issueNonce (now : Time) (s : OidIssuer σ) : OidIssuer σ :=
  let nonce := E.draw s.drawn
  { s with
    drawn := s.drawn + 1
    state := (S.putNonce ⟨E.hash nonce, now + minutes 2, none⟩ s.state).2 }

/-- Whether the nonce is accepted. -/
def consumeNonce (nonce : String) (now : Time) (s : OidIssuer σ) : Bool × OidIssuer σ :=
  match S.consumeNonce (E.hash nonce) now s.state with
  | (.ok _, state) => (true, { s with state, accepted := s.accepted ++ [E.hash nonce] })
  | (.error _, state) => (false, { s with state })

/-- `Issue`, up to the check of the proof -/
def request (tenantID accessToken proofJWT : String) (now checked : Time) (s : OidIssuer σ) :
    OidIssuer σ :=
  match E.proofNonce proofJWT with
  | none => s
  | some nonce =>
    match S.accessByHash (E.hash accessToken) now s.state with
    | .error _ => s
    | .ok access =>
      if access.tenantID ≠ tenantID ∨
        access.credentialConfigurationID ≠ membershipConfiguration then
        s
      else match E.verifyJWTProof proofJWT (E.credentialIssuerURL tenantID) nonce checked with
        | none => s
        | some jwk =>
          if pairwiseDID jwk ≠ access.subjectPairwiseDID ∨ access.forumHostID = "" ∨
              access.boardID = "" then s
          else { s with
            calls := s.calls ++ [⟨tenantID, accessToken, .admitted access nonce jwk⟩] }

/-- What is signed for a prepared token. -/
def issueRequest (tenantID : String) (access : Access) (jwk : HolderJWK) (tenant : Tenant)
    (index : ℤ) (issuedAt : Time) : MembershipIssueRequest where
  issuerDID := tenant.organizationDID
  issuerURL := E.credentialIssuerURL tenantID
  holderPairwiseDID := access.subjectPairwiseDID
  holderJWK := jwk
  membershipClass := access.membershipClass
  forumHostID := access.forumHostID
  boardID := access.boardID
  statusListIndex := index
  statusListBaseURL := E.credentialIssuerURL tenantID ++ "/status"
  now := issuedAt

def credentialRecord (access : Access) (active : ActiveSigner) (index : ℤ)
    (c : IssuedJWTCredential) : CredentialRecord where
  credentialID := c.id
  credentialHash := c.hash
  credentialType := membershipCredentialType
  subjectPairwiseHash := access.subjectPairwiseHash
  issuedAt := c.issuedAt
  expiresAt := c.expiresAt
  statusIndex := index
  status := "active"
  policySnapshotHash := E.hash active.canonicalJSON

def auditEvent (tenantID auditID : String) (c : IssuedJWTCredential) (now : Time) : AuditEvent where
  id := auditID
  tenantID := tenantID
  eventType := "credential_issued"
  actorDID := ""
  requestHash := E.hash c.hash
  policyVersion := 1
  createdAt := now

/-- The next step of `Issue`. -/
def nextStage (tenantID accessToken : String) (x : IssueInput) (s : OidIssuer σ) :
    IssueStage → IssueStage × OidIssuer σ
  | .admitted access nonce jwk =>
    match consumeNonce E S nonce x.now.instant s with
    | (true, s) => (.authorized access jwk, s)
    | (false, s) => (.finished, s)
  | .authorized access jwk =>
    match H.tenant tenantID s.hosted with
    | .ok tenant => (.located access jwk tenant, s)
    | .error _ => (.finished, s)
  | .located access jwk tenant =>
    match x.active with
    | some active =>
      if membershipCredentialType ∈ active.credentialTypes then
        (.chosen access jwk tenant active, s)
      else (.finished, s)
    | none => (.finished, s)
  | .chosen access jwk tenant active =>
    if access.statusIndex.isSome then (.prepared access jwk tenant active, s)
    else match H.reserveStatusIndex tenantID x.draws s.hosted with
      | (.ok index, hosted) => (.reserved access jwk tenant active index, { s with hosted })
      | (.error _, hosted) => (.finished, { s with hosted })
  | .reserved _ jwk tenant active index =>
    match S.prepareAccess (E.hash accessToken) index x.issuedAt.instant x.now.instant s.state with
    | (.ok access, state) => (.prepared access jwk tenant active, { s with state })
    | (.error _, state) => (.finished, { s with state })
  | .prepared access jwk tenant active =>
    match access.statusIndex, access.issuedAt with
    | some index, some issuedAt =>
      match issueMembershipJWT E active.signer x.now.instant
          (issueRequest E tenantID access jwk tenant index issuedAt) with
      | none => (.finished, s)
      | some c =>
        match H.putCredentialRecord tenantID (credentialRecord E access active index c)
            s.hosted with
        | (.ok _, hosted) => (.recorded c, { s with hosted })
        | (.error _, hosted) => (.finished, { s with hosted })
    | _, _ => (.finished, s)
  | .recorded c =>
    match S.consumeAccess (E.hash accessToken) x.now.instant s.state with
    | (.ok _, state) => (.marked c, { s with state })
    | (.error _, state) => (.finished, { s with state })
  | .marked c =>
    match H.appendAudit tenantID (auditEvent E tenantID x.auditID c x.now.instant) s.hosted with
    | (.ok _, hosted) => (.finished, { s with hosted, issued := s.issued ++ [(accessToken, c)] })
    | (.error _, hosted) => (.finished, { s with hosted })
  | .finished => (.finished, s)

def advance (i : ℕ) (x : IssueInput) (s : OidIssuer σ) : OidIssuer σ :=
  match s.calls[i]? with
  | none => s
  | some call =>
    let (stage, t) := nextStage E S H call.tenantID call.accessToken x s call.stage
    { t with calls := s.calls.set i { call with stage } }

def step (s : OidIssuer σ) : OidEvent → OidIssuer σ
  | .createGrant tenantID configurationID did membershipClass forumHostID boardID now =>
    createGrant E S tenantID configurationID did membershipClass forumHostID boardID now.instant s
  | .exchange code tenantID start now => exchange E S code tenantID start.instant now.instant s
  | .issueNonce now => issueNonce E S now.instant s
  | .consumeNonce nonce now => (consumeNonce E S nonce now.instant s).2
  | .request tenantID accessToken proofJWT now checked =>
    request E S tenantID accessToken proofJWT now.instant checked.instant s
  | .advance i x => advance E S H i x s

end OidIssuer

end Ansible.Oid4vci
