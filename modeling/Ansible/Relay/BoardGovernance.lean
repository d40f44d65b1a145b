import Ansible.Lib.Assoc
import Ansible.Relay.IdentityCache
import Ansible.Relay.PostingGate

/-!
# Changes of the access policy of a board

The creator of a board changes its access policy with a signed intent and with signatures of
other governors over the new policy, as many as the governance of the board asks for.  A
governor who has migrated is known by two DIDs, and an approval may come under either.

## Main definitions

* `BoardGovernance.verifyPolicyApprovals` — the threshold of the governance.
* `BoardGovernance.updateBoardPolicy` — the transaction of a change.
-/

namespace Ansible

/-! ### Requests -/

/-- What a verified intent says; the approvals are a map from DIDs to signatures. -/
structure PolicyIntent where
  intentId : String
  authorDid : String
  boardId : String
  previousPolicyHash : String
  newPolicy : Json
  effectiveAt : String
  approvals : Assoc String Json

/-- The change that is asked for. -/
structure PolicyRequest where
  intentId : String
  authorDid : String
  boardId : String
  previousPolicyHash : String
  accessPolicy : Json
  contentVisibility : Visibility
  federationPolicy : Json
  effectiveAt : Time
  /-- The text of `effectiveAt`. -/
  effectiveText : Text
  approvals : Assoc String Json

def policyJson (access : Json) (visibility : Visibility) (federation : Json) : Json :=
  .obj [("access_policy", access), ("content_visibility", .str visibility.toText),
    ("federation_policy", federation)]

def PolicyRequest.policy (r : PolicyRequest) : Json :=
  policyJson r.accessPolicy r.contentVisibility r.federationPolicy

inductive PolicyChangeError
  | invalidAccessPolicy
  /-- The text is no time. -/
  | invalidEffectiveAt
  | policy (e : BoardAccessPolicy.PolicyError)
  | boardNotFound
  | notBoardCreator
  | policyChangePending
  | policyHashConflict
  | invalidBoardGovernance
  | notBoardGovernor
  | approvalThresholdNotMet
  | sensitivePolicyDelayRequired
  | duplicateIntent
  | invalidBoard
  /-- A value of another type than the code expects, or one that its column cannot hold. -/
  | raised
  deriving DecidableEq, Repr

namespace BoardGovernance

/-- `normalize_board_policy_attrs` -/
def normalizeBoardPolicyAttrs (C : HostConfig) (i : PolicyIntent) :
    Except PolicyChangeError PolicyRequest :=
  match i.newPolicy.fetch "access_policy" with
  | .obj access =>
    match BoardAccessPolicy.validate C.encryptedBoardsEnabled (.obj access) with
    | .error e => .error (.policy e)
    | .ok () =>
      match Visibility.ofJson (i.newPolicy.fetch "content_visibility"),
          i.newPolicy.fetch "federation_policy" with
      | some visibility, .obj federation =>
        if ((Json.obj access).fetch "content_visibility").eqv (.str visibility.toText) &&
            ((Json.obj access).fetch "federation").eqv ((Json.obj federation).fetch "mode") then
          match DateTime.fromIso8601 i.effectiveAt with
          | none => .error .invalidEffectiveAt
          | some (effectiveAt, _) => .ok
            { intentId := i.intentId
              authorDid := i.authorDid
              boardId := i.boardId
              previousPolicyHash := i.previousPolicyHash
              accessPolicy := .obj access
              contentVisibility := visibility
              federationPolicy := .obj federation
              effectiveAt
              effectiveText :=
                DateTime.toIso8601 effectiveAt (DateTime.precision i.effectiveAt)
              approvals := i.approvals }
        else .error .invalidAccessPolicy
      | _, _ => .error .invalidAccessPolicy
  | _ => .error .invalidAccessPolicy

/-! ### Signed and hashed texts -/

mutual

/-- An object becomes the list of its members, in the order of their keys. -/
def canonicalPayload : Json → Json
  | .obj f => .arr (((canonicalFields f).insertionSort fun a b => bytes a.1 ≤ bytes b.1).map
      fun kv => .arr [.str kv.1, kv.2])
  | .arr l => .arr (canonicalElems l)
  | j => j

def canonicalElems : List Json → List Json
  | [] => []
  | v :: l => canonicalPayload v :: canonicalElems l

def canonicalFields : List (String × Json) → List (String × Json)
  | [] => []
  | (k, v) :: l => (k, canonicalPayload v) :: canonicalFields l

end

/-- The SHA-256 of the canonical text, in lower-case digits. -/
def hashOf (P : Platform) (j : Json) : Text := encode16 (P.sha256 (canonicalPayload j).encode.utf8)

def boardPolicyHash (P : Platform) (b : ForumHostBoard) : Text :=
  hashOf P (policyJson b.accessPolicy b.contentVisibility b.federationPolicy)

def approvalsJson (approvals : Assoc String Json) : Json :=
  .obj (approvals.entries.map fun e => (e.1, e.2))

/-- `board_policy_payload_hash` -/
def payloadHash (P : Platform) (r : PolicyRequest) : Text :=
  hashOf P (.obj [("action", .str "update_board_policy"), ("intent_id", .str r.intentId),
    ("author_did", .str r.authorDid), ("board_id", .str r.boardId),
    ("previous_policy_hash", .str r.previousPolicyHash), ("new_policy", r.policy),
    ("effective_at", .str (String.ofList r.effectiveText)),
    ("approvals", approvalsJson r.approvals)])

/-- The text that the other governors sign. -/
def approvalPayload (r : PolicyRequest) : Text :=
  (canonicalPayload (.obj [("type", .str "io.trisaura.forum.boardPolicyApproval"),
    ("version", .int 1), ("board_id", .str r.boardId),
    ("previous_policy_hash", .str r.previousPolicyHash), ("new_policy", r.policy),
    ("effective_at", .str (String.ofList r.effectiveText))])).encode

/-! ### Governors -/

/-- `MigrationStore.equivalent?` -/
def equivalent (s : Relay) (left right : String) : Bool :=
  left == right || s.canonicalDid left == s.canonicalDid right

/-- The DID is that of a member, up to migrations. -/
def equivalentMember (s : Relay) (did : String) : Json → Bool
  | .arr members => members.any fun m => m.str?.any fun member => equivalent s member did
  | _ => false

/-- The author of the accepted intent that created the board. -/
def boardCreator (h : ForumHost) (boardId : String) : Option String :=
  (h.acceptedIntents.find? fun i => i.action == "create_board" &&
    i.resultKind == "forum_host_board" && i.resultId == boardId).map (·.authorDid)

structure Governance where
  administrators : Json
  threshold : Json

/-- The governance of a board; by default its creator alone. -/
def governanceOf (b : ForumHostBoard) (creator : Option String) : Option Governance :=
  match b.moderationPolicy.orElse (.obj []) with
  | .obj moderation =>
    match (moderation.lookup "governance").getD (.obj []) with
    | .obj governance => some
      { administrators := (governance.lookup "administrators").getD
          (.arr [(creator.map Json.str).getD .null])
        threshold := (governance.lookup "threshold").getD (.int 1) }
    | _ => none
  | _ => none

/-- The threshold of a governance that is in order. -/
def validThreshold (s : Relay) (g : Governance) (creator : Option String) : Option ℤ :=
  match g.administrators, g.threshold with
  | .arr admins, .int threshold =>
    if admins ≠ [] ∧ admins.all BoardAccessPolicy.isNonEmptyString = true ∧
        (1 ≤ threshold ∧ threshold ≤ admins.length) ∧
        creator.any (equivalentMember s · g.administrators) = true then some threshold
    else none
  | _, _ => none

/-! ### Approvals -/

/-- Whether an approval counts: it is by a governor other than the author, and verifies. -/
def approvalCounts (P : Platform) (now : Time) (r : PolicyRequest) (admins : Json) (did : String)
    (signature : Json) (s : Relay) : Bool × Relay :=
  if equivalentMember s did admins && !equivalent s did r.authorDid then
    match signature with
    | .str sig => IdentityCache.verifySignature P now did (approvalPayload r) sig s
    | _ => (false, s)
  else (false, s)

/-- The DIDs whose approvals count; a lookup of a key may fill the cache. -/
def countApprovals (P : Platform) (now : Time) (r : PolicyRequest) (admins : Json) :
    List (Sigma fun _ : String => Json) → Relay → List String × Relay
  | [], s => ([], s)
  | e :: l, s =>
    let (counts, s) := approvalCounts P now r admins e.1 e.2 s
    let (dids, s) := countApprovals P now r admins l s
    (if counts then e.1 :: dids else dids, s)

/-- `verify_policy_approvals`: the author counts as one. -/
def verifyPolicyApprovals (P : Platform) (now : Time) (b : ForumHostBoard) (r : PolicyRequest) :
    Checked Deployment PolicyChangeError Unit := fun s =>
  let creator := boardCreator s.host b.hostedBoardId
  match governanceOf b creator with
  | none => (.error .raised, s)
  | some g =>
    let (additional, relay) := countApprovals P now r g.administrators r.approvals.entries s.relay
    let t := { s with relay }
    match validThreshold s.relay g creator with
    | none => (.error .invalidBoardGovernance, t)
    | some threshold =>
      if ¬ equivalentMember s.relay r.authorDid g.administrators then (.error .notBoardGovernor, t)
      else if 1 + (additional.length : ℤ) < threshold then (.error .approvalThresholdNotMet, t)
      else (.ok (), t)

/-! ### The transaction -/

/-- `fetch_board_for_creator` -/
def fetchBoardForCreator (r : PolicyRequest) :
    Checked Deployment PolicyChangeError ForumHostBoard :=
  .look fun s =>
    match s.host.boards.get r.boardId with
    | none => .error .boardNotFound
    | some b =>
      if (boardCreator s.host r.boardId).any (equivalent s.relay · r.authorDid) then .ok b
      else .error .notBoardCreator

def requireNoPendingPolicy (b : ForumHostBoard) : Checked Deployment PolicyChangeError Unit :=
  .look fun s => ensure (!s.host.policyVersions.any fun v =>
    v.hostedBoardId == b.hostedBoardId && decide (b.accessPolicyVersion < v.version) &&
      v.supersededAt.isNone) .policyChangePending

def requirePreviousPolicyHash (P : Platform) (b : ForumHostBoard) (r : PolicyRequest) :
    Checked Deployment PolicyChangeError Unit :=
  .lift (ensure (boardPolicyHash P b == chars r.previousPolicyHash) .policyHashConflict)

/-- The issuers that the requirements of a policy trust. -/
def policyIssuers (policy : Json) : List Json :=
  match policy.get? "requirements" with
  | some (.obj requirements) => requirements.flatMap fun kv =>
    match kv.2.fetch "trusted_issuers" with
    | .arr issuers => issuers
    | _ => []
  | _ => []

def protectedRequirement : Json → Bool
  | .obj action => !((Json.obj action).fetch "requirement").str?.any
      fun s => s == "public" || s == "posting_policy"
  | _ => false

/-- The change opens the board or trusts new issuers. -/
def sensitivePolicyChange (b : ForumHostBoard) (r : PolicyRequest) : Bool :=
  (policyIssuers r.accessPolicy).any (fun i => !(policyIssuers b.accessPolicy).any (i.eqv ·)) ||
    (protectedRequirement (b.accessPolicy.fetch "read") &&
      !protectedRequirement (r.accessPolicy.fetch "read")) ||
    (b.contentVisibility != .isPublic && r.contentVisibility == .isPublic) ||
    ((b.federationPolicy.fetch "mode").eqv (.str "disabled") &&
      (r.federationPolicy.fetch "mode").eqv (.str "enabled"))

def requireSensitiveDelay (now : Time) (b : ForumHostBoard) (r : PolicyRequest) :
    Checked Deployment PolicyChangeError Unit :=
  .lift (ensure (!(sensitivePolicyChange b r && decide (r.effectiveAt < now + seconds 86400)))
    .sensitivePolicyDelayRequired)

/-- The version of the policy that a change asks for. -/
def nextVersion (P : Platform) (b : ForumHostBoard) (r : PolicyRequest) : BoardPolicyVersion where
  hostedBoardId := b.hostedBoardId
  version := b.accessPolicyVersion + 1
  policyHash := hashOf P r.policy
  canonicalPolicy := r.policy
  effectiveAt := r.effectiveAt
  supersededAt := none

/-- The version is recorded, and applied unless it is for later.  Only the first of the two
unique indexes is one that the changeset knows. -/
def persistBoardPolicyUpdate (P : Platform) (C : HostConfig) (now : Time) (b : ForumHostBoard)
    (r : PolicyRequest) : Checked Deployment PolicyChangeError ForumHostBoard := fun s =>
  let version := nextVersion P b r
  if s.host.policyVersions.any fun v =>
      v.hostedBoardId == version.hostedBoardId && v.version == version.version then
    (.error .invalidBoard, s)
  else if s.host.policyVersions.any fun v =>
      v.hostedBoardId == version.hostedBoardId && v.policyHash == version.policyHash then
    (.error .raised, s)
  else
    let host := { s.host with policyVersions := s.host.policyVersions ++ [version] }
    if now < r.effectiveAt then (.ok b, { s with host })
    else if ¬ ForumHost.policyAdmissible C b r.accessPolicy r.contentVisibility
        r.federationPolicy then (.error .invalidBoard, s)
    else
      let (board, host) := ForumHost.activatePolicyVersion C now b version host
      (.ok board, { s with host })

/-- `insert_accepted_intent` -/
def insertAcceptedIntent (P : Platform) (r : PolicyRequest) :
    Checked Deployment PolicyChangeError Unit := fun s =>
  if [r.intentId, r.authorDid, r.boardId].all fitsVarchar then
    (.ok (), { s with host := { s.host with
      acceptedIntents := s.host.acceptedIntents ++
        [⟨r.authorDid, "update_board_policy", "forum_host_board_policy", r.boardId, r.intentId,
          payloadHash P r⟩] } })
  else (.error .raised, s)

/-- An intent that was accepted before: the board as it is, for the same payload. -/
def resolveAcceptedPolicyIntent (P : Platform) (r : PolicyRequest) (i : AcceptedIntent)
    (b : ForumHostBoard) : Except PolicyChangeError ForumHostBoard :=
  if i.payloadHash = payloadHash P r ∧ i.resultKind = "forum_host_board_policy" ∧
    i.resultId = r.boardId then .ok b else .error .duplicateIntent

/-- A failure takes back what was written to the tables of the host. -/
def transaction {α : Type} (x : Checked Deployment PolicyChangeError α) :
    Checked Deployment PolicyChangeError α := fun s =>
  match x s with
  | (.ok a, t) => (.ok a, t)
  | (.error e, t) => (.error e, { t with host := s.host })

/-- The change of a board whose intent is new. -/
def changePolicy (P : Platform) (C : HostConfig) (now : Time) (r : PolicyRequest)
    (b : ForumHostBoard) : Checked Deployment PolicyChangeError ForumHostBoard := do
  insertAcceptedIntent P r
  requireNoPendingPolicy b
  requirePreviousPolicyHash P b r
  verifyPolicyApprovals P now b r
  requireSensitiveDelay now b r
  persistBoardPolicyUpdate P C now b r

def updateBoardPolicy (P : Platform) (C : HostConfig) (now : Time) (i : PolicyIntent) :
    Checked Deployment PolicyChangeError ForumHostBoard := do
  let r ← .lift (normalizeBoardPolicyAttrs C i)
  transaction do
    let b ← fetchBoardForCreator r
    fun s =>
      match s.host.acceptedIntents.find? (·.intentId == r.intentId) with
      | some accepted => (resolveAcceptedPolicyIntent P r accepted b, s)
      | none => changePolicy P C now r b s

end BoardGovernance

end Ansible
