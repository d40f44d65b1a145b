import Ansible.AppView.OpVerification
import Ansible.Client.DidElixResolver
import Ansible.Lib.Base64
import Ansible.Lib.DartJson

/-!
# Activities of remote ops

The app reads an op of the delta twice: as a signed op, whose signature it checks, and as an
activity, whose payload is decoded.  Which activities are applied depends on the boards and the
authors that the user follows, and on how long a board is retained.

## Main definitions

* `Client.SignedOp`, `Client.ActivityLogEntry`, `Client.opToActivityLogEntry` — an op of the delta.
* `Client.Activity`, `Client.Activity.fromJson` — what is applied.
* `Client.SyncSettings` — the subscriptions and the boards of the user.
* `Client.routeHostedActivity` — the local board of an activity.
* `Client.SyncSettings.select`, `Client.SyncSettings.selectHosted` — the activity that is applied,
  if any, for an entry of the public delta and of that of a protected board.
-/

namespace Ansible

namespace Client

/-! ### Ops of the delta -/

/-- The signed half of an entry. -/
structure SignedOp where
  opId : String
  authorDid : String
  entityType : String
  entityId : String
  opType : String
  payload : String
  signature : String
  publicKeyHex : Option String

/-- `OpSignaturePayload.fromFields` -/
def SignedOp.signingPayload (op : SignedOp) : Text :=
  DartJson.canonicalJson (.obj [("author_did", .str op.authorDid), ("entity_id", .str op.entityId),
    ("entity_type", .str op.entityType), ("op_id", .str op.opId), ("op_type", .str op.opType),
    ("payload", .str op.payload)])

/-- The `activity` half of an entry, before it is read. -/
structure RawActivity where
  activityId : String
  type : String
  entityType : String
  entityId : String
  boardId : Json
  threadId : Json
  authorId : String
  createdAt : String
  payload : Json

structure ActivityLogEntry where
  logId : ℤ
  signedOp : SignedOp
  activity : RawActivity

/-- `_activityType` -/
def activityType (opType : String) : String :=
  if opType = "insert" then "create"
  else if opType = "update" ∨ opType = "crdt_merge" then "update"
  else if opType = "delete" then "delete"
  else opType

/-- `utf8.decode`, which drops a byte order mark. -/
def utf8Decode (b : Binary) : Option Text :=
  (AppView.validText b).map fun t => if t.head? = some '\uFEFF' then t.tail else t

/-- `_decodePayload`: JSON in base 64, or JSON, or a text of its own. -/
def decodePayload (payload : String) : Json :=
  if payload = "" then .obj [] else
  match ((decodeDart64 (bytes payload)).bind utf8Decode).bind Json.decode with
  | some (.obj f) => .obj f
  | _ =>
    match Json.decode (chars payload) with
    | some (.obj f) => .obj f
    | _ => .obj [("rawPayload", .str payload)]

/-- `_opToActivityLogEntry`, `none` where a cast throws. -/
def opToActivityLogEntry (now : ℤ) (op : AppView.Op) : Option ActivityLogEntry := do
  let text ← asStringOrNull op.payload
  let payload := decodePayload (text.getD "")
  let createdAt ← asStringOrNull (payload.fetch "createdAt")
  let receivedAt := op.receivedAt.getD (DartDateTime.toIso8601String now)
  return {
    logId := op.logId
    signedOp :=
      { opId := op.opId, authorDid := op.authorDid, entityType := op.entityType
        entityId := op.entityId, opType := op.opType, payload := text.getD ""
        signature := op.signature.getD "", publicKeyHex := op.publicKeyHex }
    activity :=
      { activityId := op.opId, type := activityType op.opType, entityType := op.entityType
        entityId := op.entityId, boardId := payload.fetch "boardId"
        threadId := payload.fetch "threadId", authorId := op.authorDid
        createdAt := createdAt.getD receivedAt, payload } }

/-! ### Activities -/

structure Activity where
  activityId : String
  type : String
  entityType : String
  entityId : String
  boardId : Option String
  threadId : Option String
  authorId : String
  /-- In UTC. -/
  createdAt : ℤ
  payload : Json

/-- `Activity.fromJson`, `none` where it throws; `toUtc` takes local times to UTC. -/
def Activity.fromJson (toUtc : ℤ → ℤ) (raw : RawActivity) : Option Activity := do
  let boardId ← asStringOrNull raw.boardId
  let threadId ← asStringOrNull raw.threadId
  let createdAt ← DartDateTime.parseUtc toUtc raw.createdAt
  return { activityId := raw.activityId, type := raw.type, entityType := raw.entityType
           entityId := raw.entityId, boardId, threadId, authorId := raw.authorId, createdAt
           payload := raw.payload }

/-- The lower-case text, as far as it is compared with lower-case letters. -/
def toLowerCase (s : String) : String := String.ofList ((chars s).map Char.toLower)

/-! ### Settings -/

structure BoardSyncConfig where
  boardId : String
  retentionDays : Option ℤ

structure BoardSubscription where
  subscriptionId : String
  hostedBoardId : String
  readEnabled : Bool
  syncCursor : ℕ
  retentionDays : Option ℤ

structure HostedBoardProjection where
  hostedBoardId : String
  localBoardId : String
  accessPolicy : Json
  accessPolicyVersion : ℤ
  contentVisibility : String
  encryptionEpoch : ℤ
  encryptionState : String

/-- `_requiresBoardCapability` -/
def HostedBoardProjection.requiresCapability (p : HostedBoardProjection) : Bool :=
  p.contentVisibility != "public" || ((p.accessPolicy.fetch "read").isObj &&
    !((p.accessPolicy.fetch "read").fetch "requirement").eqv (.str "public"))

/-- What the user has chosen for a remote node. -/
structure SyncSettings where
  requireBoardSyncConfig : Bool
  /-- The enabled ones. -/
  boardConfigs : List BoardSyncConfig
  boardSubscriptions : List BoardSubscription
  projections : List HostedBoardProjection
  followedAuthorDids : List String
  followerDid : Option String

namespace SyncSettings

variable (S : SyncSettings)

def hostedSubscriptions : List BoardSubscription := S.boardSubscriptions.filter (·.readEnabled)

def isProtected (hostedBoardId : String) : Bool :=
  S.projections.any fun p => p.requiresCapability && p.hostedBoardId == hostedBoardId

/-- The subscriptions that go along with the public delta. -/
def publicHostedSubscriptions : List BoardSubscription :=
  S.hostedSubscriptions.filter fun b => !S.isProtected b.hostedBoardId

/-- Of two projections of a board the later one counts. -/
def projectionOf (hostedBoardId : String) : Option HostedBoardProjection :=
  S.projections.reverse.find? (·.hostedBoardId == hostedBoardId)

/-- The subscriptions of protected boards, each of which has a delta of its own. -/
def protectedHostedSubscriptions : List (BoardSubscription × HostedBoardProjection) :=
  (S.hostedSubscriptions.filter fun b => S.isProtected b.hostedBoardId).filterMap fun b =>
    (S.projectionOf b.hostedBoardId).map fun p => (b, p)

/-- White space at the ends is left out. -/
def localDid : Option String :=
  S.followerDid.map fun did => String.ofList
    (((chars did).dropWhile isTrimmed).reverse.dropWhile isTrimmed).reverse

end SyncSettings

/-! ### Selection -/

/-- `_hostedBoardIdSuffix`: what stands behind the id of the node that created the board. -/
def hostedBoardIdSuffix (boardId : String) : String :=
  match (chars boardId).dropWhile (· != '_') with
  | _ :: suffix => if suffix = [] then boardId else String.ofList suffix
  | [] => boardId

/-- `_hostedBoardIdFor` -/
def hostedBoardIdFor (a : Activity) : Option String :=
  (if toLowerCase a.entityType = "board" then some (a.boardId.getD a.entityId)
    else a.boardId).map hostedBoardIdSuffix

/-- `_routeHostedActivity`: of two subscriptions to a board the later one counts. -/
def routeHostedActivity (S : SyncSettings) (a : Activity) :
    Option (BoardSubscription × Activity) := do
  let hostedBoardId ← hostedBoardIdFor a
  let subscription ← S.hostedSubscriptions.reverse.find? (·.hostedBoardId == hostedBoardId)
  let projection ← S.projectionOf hostedBoardId
  return (subscription, { a with
    boardId := some projection.localBoardId
    entityId := if toLowerCase a.entityType = "board" then projection.localBoardId
      else a.entityId })

/-- `_isWithinRetention` -/
def isWithinRetention (a : Activity) (retentionDays : Option ℤ) (now : ℤ) : Bool :=
  match retentionDays with
  | none => true
  | some days =>
    if toLowerCase a.entityType = "post" ∨ toLowerCase a.entityType = "thread" then
      decide (now - days * 86400000000 ≤ a.createdAt)
    else true

/-- The activity that is applied for an entry of the public delta, if any. -/
def SyncSettings.select (S : SyncSettings) (syncTime : ℤ) (a : Activity) : Option Activity :=
  let hostedRoute := routeHostedActivity S a
  let allowedByLegacy := a.boardId.any fun b => S.boardConfigs.any (·.boardId == b)
  let allowedByFollowedAuthor := S.followedAuthorDids.contains a.authorId
  let allowedBySelf := S.localDid == some a.authorId
  if S.requireBoardSyncConfig && !allowedByLegacy && hostedRoute.isNone &&
      !allowedByFollowedAuthor && !allowedBySelf then none
  else
    let activity := hostedRoute.elim a (·.2)
    let retentionDays := (hostedRoute.bind (·.1.retentionDays)).or
      ((activity.boardId.bind fun b => S.boardConfigs.reverse.find? (·.boardId == b)).bind
        (·.retentionDays))
    if isWithinRetention activity retentionDays syncTime then some activity else none

/-- The activity that is applied for an entry of the delta of a protected board, if any. -/
def SyncSettings.selectHosted (S : SyncSettings) (subscription : BoardSubscription)
    (syncTime : ℤ) (a : Activity) : Option Activity := do
  let route ← routeHostedActivity S a
  if route.1.subscriptionId = subscription.subscriptionId ∧
      isWithinRetention route.2 subscription.retentionDays syncTime = true then
    some route.2
  else none

end Client

end Ansible
