import Ansible.AppView.OpVerification
import Ansible.Lib.DateTime
import Ansible.Lib.Table
import Ansible.Lib.Writes

/-!
# The projection of the relay log

Pages of the relay log are folded into three read models: the feed items, the follow
graph and the actor directory.  Within a page the follows and profiles come first, then
the deletions, and last the content.

## Main definitions

* `FeedItem`, `FeedTable`, `Projection` — the read models.
* `foldFollow`, `foldProfile`, `applyDeletions`, `insertAll` — the passes over a page.
* `applyOps`, `foldPages` — a page, and a sequence of pages.

A page that a column refuses raises: `none` stands for that.
-/

namespace Ansible

namespace AppView

/-! ### The read models -/

/-- A row of `feed_items`, its time stamps of bookkeeping apart. -/
structure FeedItem where
  logId : ℤ
  opId : String
  authorDid : String
  canonicalAuthorDid : String
  entityType : String
  entityId : String
  opType : String
  boardId : Option String
  threadId : Option String
  visibility : Option String
  itemCreatedAt : Option ℤ
  payload : Json
  publicKeyHex : Option String
  authorTier : String
  deleted : Bool
  sigVerified : Bool
  source : String
  signature : Option String

structure FeedIndexes (rows : List FeedItem) : Prop where
  log_id : UniqueOn (·.logId) (fun _ => true) rows
  op_id : UniqueOn (·.opId) (fun _ => true) rows

instance : DecidablePred FeedIndexes := fun rows =>
  decidable_of_iff (UniqueOn (fun r : FeedItem => r.logId) (fun _ => true) rows ∧
    UniqueOn (·.opId) (fun _ => true) rows) ⟨fun h => ⟨h.1, h.2⟩, fun h => ⟨h.1, h.2⟩⟩

abbrev FeedTable := Table FeedItem FeedIndexes

/-- A row of `appview_profiles`, under its DID. -/
structure Profile where
  handle : Option String
  displayName : Option String
  bio : Option String
  avatarUrl : Option String
  authorTier : String
  updatedLogId : ℤ

/-- Follow edges by follower and author, with the id of the op that created them. -/
abbrev Follows := String × String → Option ℤ

abbrev Profiles := String → Option Profile

structure Projection where
  feedItems : FeedTable
  follows : Follows
  profiles : Profiles

def Projection.empty : Projection := ⟨⟨[], by decide⟩, fun _ => none, fun _ => none⟩

/-! ### Columns -/

/-- An optional text column; another value or a text that does not fit raises. -/
def textColumn (fits : String → Bool) : Json → Option (Option String)
  | .null => some none
  | .str s => if fits s then some (some s) else none
  | _ => none

/-- A `jsonb` column; a document that does not fit raises. -/
def jsonColumn (j : Json) : Option Json := if fitsJsonb j then some j else none

/-- The first instant of a `timestamptz` column, in 4714 BC. -/
def minTimestamp : ℤ := -210866803200000000

/-- An optional time column; an instant before its first one raises. -/
def timeColumn : Option ℤ → Option (Option ℤ)
  | none => some none
  | some t => if minTimestamp ≤ t then some (some t) else none

/-! ### Follows and profiles -/

def FollowGraph.upsert (follower author : String) (logId : ℤ) (m : Follows) : Follows :=
  Function.update m (follower, author) (some logId)

def FollowGraph.remove (follower author : String) (m : Follows) : Follows :=
  Function.update m (follower, author) none

def Profiles.upsert (did : String) (p : Profile) (m : Profiles) : Profiles :=
  Function.update m did (some p)

def Profiles.delete (did : String) (m : Profiles) : Profiles := Function.update m did none

/-- Only federated follows are indexed. -/
def foldFollow (op : Op) (payload : Json) (s : Projection) : Option Projection :=
  if (payload.fetch "visibility").str? = some "federated" then
    match payload.fetch "targetDid" with
    | .str author =>
      if author = "" then some s
      else if op.opType = "delete" then
        if fitsText author then
          some { s with follows := FollowGraph.remove op.authorDid author s.follows }
        else none
      else if fitsVarchar author then
        some { s with follows := FollowGraph.upsert op.authorDid author op.logId s.follows }
      else none
    | _ => some s
  else some s

def profileDid (op : Op) : String := op.canonicalAuthorDid.getD op.authorDid

def profileRow (op : Op) (payload : Json) : Option Profile := do
  let handle ← textColumn fitsVarchar (payload.fetch "handle")
  let displayName ← textColumn fitsVarchar (payload.fetch "displayName")
  let bio ← textColumn fitsText (payload.fetch "bio")
  let avatarUrl ← textColumn fitsVarchar (payload.fetch "avatarUrl")
  return ⟨handle, displayName, bio, avatarUrl, op.reputationTier.getD "basic", op.logId⟩

def profilePublic (payload : Json) : Bool :=
  (payload.fetch "visibility").isNull || (payload.fetch "visibility").str? == some "public"

def foldProfile (op : Op) (payload : Json) (s : Projection) : Option Projection :=
  if profileDid op = "" then some s
  else if op.opType = "delete" then
    match s.profiles (profileDid op) with
    | none => some s
    | some _ => some { s with profiles := s.profiles.delete (profileDid op) }
  else if profilePublic payload then
    (profileRow op payload).map fun p =>
      { s with profiles := s.profiles.upsert (profileDid op) p }
  else some s

/-- The first pass over a page, in log order. -/
def foldActor (s : Projection) (e : Prepared) : Option Projection :=
  if e.verified then
    if e.op.entityType = "follow" then foldFollow e.op e.payload s
    else if e.op.entityType = "profile" then foldProfile e.op e.payload s
    else some s
  else some s

/-! ### Deletions -/

/-- An op of the actor directory or the follow graph, which is never a feed item. -/
def actorOp (op : Op) : Bool := op.entityType == "follow" || op.entityType == "profile"

/-- A verified delete by the author, or a removal by the host. -/
def isDeletion (e : Prepared) : Bool :=
  match e.verification with
  | .ok _ => !actorOp e.op && e.op.opType == "delete"
  | .error .moderationRemoved => true
  | .error _ => false

/-- The entities that a page deletes, each with its author. -/
def deletionPairs (page : List Prepared) : List (String × String) :=
  ((page.filter isDeletion).map fun e => (e.op.entityId, e.op.authorDid)).filter
    fun p => p.1 != "" && p.2 != ""

/-- The rows of the deleted entities, hidden. -/
def hide (pairs : List (String × String)) (r : FeedItem) : FeedItem :=
  if pairs.contains (r.entityId, r.authorDid) then { r with deleted := true } else r

/-! ### Content -/

def contentTypes : List String := ["murmur", "note"]

def relayable : List String := ["public", "unlisted"]

def visibilityOk (entityType : String) (payload : Json) : Bool :=
  if contentTypes.contains entityType then
    match payload.fetch "visibility" with
    | .str v => relayable.contains v
    | _ => entityType == "murmur"
  else true

/-- A verified op that becomes a feed item. -/
def isContent (e : Prepared) : Bool :=
  e.verified && !actorOp e.op && e.op.opType != "delete" && visibilityOk e.op.entityType e.payload

def parseDt (j : Json) : Option ℤ := (j.str?.bind DateTime.fromIso8601).map (·.1)

/-- `get_in(payload, ["web_author_proof", "scheme"])`, which raises on a value that is neither
absent nor an object. -/
def webAuthorScheme (payload : Json) : Option Json :=
  match payload.fetch "web_author_proof" with
  | .null => some .null
  | .obj f => some ((Json.obj f).fetch "scheme")
  | _ => none

/-- The time of an item: of its publication, its creation or its receipt. -/
def itemCreatedAt (e : Prepared) : Option ℤ :=
  parseDt (((e.payload.fetch "publishedAt").orElse (e.payload.fetch "createdAt")).orElse
    (e.op.receivedAt.elim .null .str))

/-- The row of an op; `none` when a column refuses a value. -/
def row (e : Prepared) : Option FeedItem := do
  let scheme ← webAuthorScheme e.payload
  let boardId ← textColumn fitsVarchar (e.payload.fetch "boardId")
  let threadId ← textColumn fitsVarchar (e.payload.fetch "threadId")
  let visibility ← textColumn fitsVarchar (e.payload.fetch "visibility")
  let createdAt ← timeColumn (itemCreatedAt e)
  let payload ← jsonColumn e.payload
  return {
    logId := e.op.logId
    opId := e.op.opId
    authorDid := e.op.authorDid
    canonicalAuthorDid := e.op.canonicalAuthorDid.getD e.op.authorDid
    entityType := e.op.entityType
    entityId := e.op.entityId
    opType := e.op.opType
    boardId := boardId
    threadId := threadId
    visibility := visibility
    itemCreatedAt := createdAt
    payload := payload
    publicKeyHex := e.op.publicKeyHex
    authorTier := e.op.reputationTier.getD "basic"
    deleted := e.op.opType == "delete"
    sigVerified := true
    source :=
      if scheme.str? = some "webauthn-p256-sha256" then "forum_host_webauthn_receipt"
      else "relay_firehose"
    signature := e.op.signature }

def uniqByLogId : List FeedItem → List FeedItem
  | [] => []
  | r :: l => r :: (uniqByLogId l).filter fun r' => r'.logId != r.logId

/-- A row replaces the one with its log id. -/
def upsertRow (rows : List FeedItem) (r : FeedItem) : List FeedItem :=
  if rows.any (·.logId == r.logId) then rows.map fun x => if x.logId == r.logId then r else x
  else rows ++ [r]

/-- `insert_all`, row by row: a violated index raises. -/
def insertAll (content : List FeedItem) (t : FeedTable) : Option FeedTable :=
  content.foldlM (fun t r => Table.commit (upsertRow t.rows r)) t

/-! ### Pages -/

/-- Fold a prepared page: the number of rows written, and the read models. -/
def foldPrepared (page : List Prepared) (s : Projection) : Option (ℕ × Projection) := do
  let s ← page.foldlM foldActor s
  let feedItems ← Table.commit (s.feedItems.rows.map (hide (deletionPairs page)))
  let content ← (page.filter isContent).mapM row
  let feedItems ← insertAll (uniqByLogId content) feedItems
  return ((uniqByLogId content).length, { s with feedItems := feedItems })

def maxLogId (ops : List Op) : Option ℤ := (ops.map (·.logId)).max?

/-- Fold a page of ops: the indexed rows and the highest log id, and the read models. -/
def applyOps (P : Platform) (ops : List Op) (s : Projection) :
    Option ((ℕ × Option ℤ) × Projection) :=
  (foldPrepared (ops.map (prepareOp P)) s).map fun r => ((r.1, maxLogId ops), r.2)

/-- Fold one page after the other, as the drain does. -/
def foldPages (P : Platform) (pages : List (List Op)) (s : Projection) : Option Projection :=
  pages.foldlM (fun s ops => (applyOps P ops s).map (·.2)) s

end AppView

end Ansible
