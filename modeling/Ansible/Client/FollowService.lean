import Ansible.Lib.Run
import Ansible.Lib.Table
import Ansible.Lib.Text

/-!
# Follows

The user follows users and boards.  A relation is one edge for each follower and target, which
is used again when the user follows the target again; what remote servers have to know of is
queued as an activity.  No answer of a remote server is compared with the status of its edge,
and the identifiers of the activities are those of the edge.

## Main definitions

* `FollowStore` — the targets, edges, events and queue of the app, in their tables.
* `followUser`, `followBoard`, `acceptFollow`, `rejectFollow`, `blockTarget`, `unfollow`,
  `retryFollow` — the calls of the service, `FollowStore.call` one of them.
* `Permitted` — the calls after which it does.

## Main results

* `follow_law` — **runs of permitted calls satisfy the law.**
-/

namespace Ansible

namespace Client

/-! ### Records -/

inductive FollowTargetType where
  | user
  | board
  deriving DecidableEq

inductive FollowDirection where
  | outbound
  | inbound
  deriving DecidableEq

inductive FollowStatus where
  | pending
  | accepted
  | rejected
  | cancelled
  | blocked
  | failed
  deriving DecidableEq

inductive FollowVisibility where
  | localOnly
  | federated
  deriving DecidableEq

structure FollowTarget where
  targetId : String
  targetType : FollowTargetType
  canonicalUri : Option String
  displayName : String
  did : Option String := none
  actorUri : Option String
  inboxUri : Option String
  remoteNodeId : Option String := none
  boardId : Option String := none
  boardSlug : Option String := none
  createdAt : ℤ
  updatedAt : ℤ
  deriving DecidableEq

structure FollowEdge where
  followId : String
  followerDid : String
  targetId : String
  targetType : FollowTargetType
  direction : FollowDirection
  status : FollowStatus
  visibility : FollowVisibility
  remoteActivityId : Option String := none
  lastError : Option String := none
  createdAt : ℤ
  updatedAt : ℤ
  acceptedAt : Option ℤ := none
  cancelledAt : Option ℤ := none
  deriving DecidableEq

/-- An edge with another status. -/
def FollowEdge.withStatus (edge : FollowEdge) (status : FollowStatus) (now : ℤ) : FollowEdge :=
  { edge with
    status := status
    updatedAt := now
    acceptedAt := if status = .accepted then some now else edge.acceptedAt
    cancelledAt := if status = .cancelled then some now else edge.cancelledAt
    lastError := none }

inductive FollowActivityEventType where
  | followRequested
  | followAccepted
  | followRejected
  | followCancelled
  | followBlocked
  deriving DecidableEq

structure FollowActivityEvent where
  eventId : String
  followId : String
  eventType : FollowActivityEventType
  actorDid : String
  activityId : Option String
  createdAt : ℤ
  deriving DecidableEq

/-- The activity that asks to follow. -/
structure FollowActivity where
  id : String
  actor : String
  object : String
  published : Option ℤ
  isBoardFollow : Bool := false
  boardId : Option String := none
  deriving DecidableEq

/-- What is sent: a request, or the request that is undone. -/
inductive FollowPayload where
  | follow (activity : FollowActivity)
  | undo (id actor : String) (object : FollowActivity) (published : ℤ)
  deriving DecidableEq

inductive OutboundFollowActivityType where
  | follow
  | undo
  deriving DecidableEq

inductive OutboundFollowActivityStatus where
  | queued
  | delivering
  | delivered
  | failed
  deriving DecidableEq

structure OutboundFollowActivity where
  outboxId : String
  activityId : String
  activityType : OutboundFollowActivityType
  targetInboxUri : String
  payload : FollowPayload
  status : OutboundFollowActivityStatus := .queued
  attemptCount : ℕ := 0
  createdAt : ℤ
  updatedAt : ℤ
  deriving DecidableEq

/-- `FollowResult`; a call that throws has none. -/
inductive FollowResult where
  | success (followId : String)
  | duplicate (followId : String)
  | targetNotFound (message : String)
  deriving DecidableEq

/-! ### Tables -/

/-- The app's tables.  `enqueued` is no table but the history of the queue, in which a row may
replace another. -/
structure FollowStore where
  targets : List FollowTarget := []
  edges : List FollowEdge := []
  events : List FollowActivityEvent := []
  outbox : List OutboundFollowActivity := []
  syncEnabled : List ((String × String) × Bool) := []
  enqueued : List OutboundFollowActivity := []

namespace FollowStore

def getTarget (s : FollowStore) (targetId : String) : Option FollowTarget :=
  s.targets.find? (·.targetId == targetId)

def getTargetByCanonicalUri (s : FollowStore) (canonicalUri : String) : Option FollowTarget :=
  s.targets.find? (·.canonicalUri == some canonicalUri)

def getBoardTarget (s : FollowStore) (remoteNodeId boardId : String) : Option FollowTarget :=
  s.targets.find? fun t => t.remoteNodeId == some remoteNodeId && t.boardId == some boardId

/-- The key is unique, and so is a canonical URI. -/
def upsertTarget (s : FollowStore) (target : FollowTarget) : FollowStore :=
  { s with
    targets := insertOrReplace (fun t => t.targetId == target.targetId ||
      (target.canonicalUri.isSome && t.canonicalUri == target.canonicalUri)) target s.targets }

def getEdge (s : FollowStore) (followerDid targetId : String) (direction : FollowDirection) :
    Option FollowEdge :=
  s.edges.find? fun e => e.followerDid == followerDid && e.targetId == targetId &&
    e.direction == direction

def upsertEdge (s : FollowStore) (edge : FollowEdge) : FollowStore :=
  { s with edges := insertOrReplace (·.followId == edge.followId) edge s.edges }

def updateEdgeStatus (s : FollowStore) (followId : String) (status : FollowStatus) (now : ℤ) :
    FollowStore :=
  { s with
    edges := s.edges.map fun e => if e.followId = followId then e.withStatus status now else e }

def recordEvent (s : FollowStore) (event : FollowActivityEvent) : FollowStore :=
  { s with events := insertOrReplace (·.eventId == event.eventId) event s.events }

/-- The key is unique, and so is the identifier of an activity. -/
def enqueue (s : FollowStore) (activity : OutboundFollowActivity) : FollowStore :=
  { s with
    outbox := insertOrReplace (fun r => r.outboxId == activity.outboxId ||
      r.activityId == activity.activityId) activity s.outbox
    enqueued := s.enqueued ++ [activity] }

def toggleSync (s : FollowStore) (remoteNodeId boardId : String) (enabled : Bool) : FollowStore :=
  { s with
    syncEnabled :=
      insertOrReplace (·.1 == (remoteNodeId, boardId)) ((remoteNodeId, boardId), enabled)
      s.syncEnabled }

end FollowStore

/-! ### The service -/

/-- What `next` returns for each prefix during a call: each is asked for at most once. -/
structure FollowIds where
  target : String
  follow : String
  outbox : String
  event : String
  deriving DecidableEq

def followActivityId (followId : String) : String := "local://activities/follow/" ++ followId

def undoActivityId (followId : String) : String := "local://activities/undo/" ++ followId

/-- The target has an inbox to which activities are sent. -/
def FollowTarget.federated (target : FollowTarget) : Bool := target.inboxUri.any (· ≠ "")

/-- What an activity names, if it is not told otherwise. -/
def FollowTarget.object (target : FollowTarget) : String :=
  (target.actorUri.or target.canonicalUri).getD target.targetId

/-- The request to follow; an exception if a board has no identifier. -/
def followRequest (activityId followerDid : String) (target : FollowTarget) (object : String)
    (now : ℤ) : Option FollowActivity :=
  match target.targetType, target.boardId with
  | .board, none => none
  | .board, some boardId =>
    if boardId = "" then none
    else some { id := activityId, actor := followerDid, object := object, published := some now,
                isBoardFollow := true, boardId := some boardId }
  | .user, _ =>
    some { id := activityId, actor := followerDid, object := object, published := some now }

def firstNonEmpty (values : List (Option String)) : Option String :=
  (values.find? fun value => value.any (· ≠ "")).join

namespace FollowStore

def enqueueFollow (s : FollowStore) (ids : FollowIds) (activityId followerDid : String)
    (target : FollowTarget) (object : String) (now : ℤ) : Option FollowStore := do
  let activity ← followRequest activityId followerDid target object now
  return s.enqueue
    { outboxId := ids.outbox
      activityId := activityId
      activityType := .follow
      targetInboxUri := target.inboxUri.getD ""
      payload := .follow activity
      createdAt := now
      updatedAt := now }

/-- The activity that takes back the request of an edge. -/
def undoOf (ids : FollowIds) (edge : FollowEdge) (target : FollowTarget) (actorDid : String)
    (now : ℤ) : OutboundFollowActivity :=
  let follow : FollowActivity :=
    { id := edge.remoteActivityId.getD (followActivityId edge.followId)
      actor := actorDid
      object := target.object
      published := none
      isBoardFollow := target.targetType = .board
      boardId := target.boardId }
  { outboxId := ids.outbox
    activityId := undoActivityId edge.followId
    activityType := .undo
    targetInboxUri := target.inboxUri.getD ""
    payload := .undo (undoActivityId edge.followId) actorDid follow now
    createdAt := now
    updatedAt := now }

def event (ids : FollowIds) (followId : String) (eventType : FollowActivityEventType)
    (actorDid : String) (activityId : Option String) (now : ℤ) : FollowActivityEvent :=
  { eventId := ids.event
    followId := followId
    eventType := eventType
    actorDid := actorDid
    activityId := activityId
    createdAt := now }

/-- The edge that a request writes; it keeps the identifier of an edge that was there. -/
def requestedEdge (existingEdge : Option FollowEdge) (ids : FollowIds) (followerDid : String)
    (target : FollowTarget) (now : ℤ) : FollowEdge :=
  let followId := (existingEdge.map (·.followId)).getD ids.follow
  { followId := followId
    followerDid := followerDid
    targetId := target.targetId
    targetType := target.targetType
    direction := .outbound
    status := if target.federated then .pending else .accepted
    visibility := if target.federated then .federated else .localOnly
    remoteActivityId := if target.federated then some (followActivityId followId) else none
    createdAt := (existingEdge.map (·.createdAt)).getD now
    updatedAt := now
    acceptedAt := if target.federated then none else some now }

/-- `_followTarget`: an edge that was cancelled is used again. -/
def followTarget (s : FollowStore) (ids : FollowIds) (followerDid : String) (target : FollowTarget)
    (object : String) (now : ℤ) : FollowStore × Option FollowResult :=
  let existingEdge := s.getEdge followerDid target.targetId .outbound
  match existingEdge.filter (·.status ≠ .cancelled) with
  | some edge => (s, some (.duplicate edge.followId))
  | none =>
    let edge := requestedEdge existingEdge ids followerDid target now
    let s := s.upsertEdge edge
    let enqueued :=
      if target.federated then
        s.enqueueFollow ids (followActivityId edge.followId) followerDid target object now
      else some s
    match enqueued with
    | none => (s, none)
    | some s =>
      (s.recordEvent
        (event ids edge.followId .followRequested followerDid edge.remoteActivityId now),
        some (.success edge.followId))

/-- The target that a request to follow a user writes. -/
def userTarget (s : FollowStore) (ids : FollowIds) (canonicalUri : String)
    (targetDid actorUri inboxUri : Option String) (displayName : String) (now : ℤ) :
    FollowTarget :=
  let existingTarget := s.getTargetByCanonicalUri canonicalUri
  { targetId := (existingTarget.map (·.targetId)).getD ids.target
    targetType := .user
    canonicalUri := some canonicalUri
    displayName := displayName
    did := targetDid
    actorUri := actorUri
    inboxUri := inboxUri
    createdAt := (existingTarget.map (·.createdAt)).getD now
    updatedAt := now }

def followUser (s : FollowStore) (ids : FollowIds) (followerDid : String)
    (targetDid actorUri inboxUri : Option String) (displayName : String) (now : ℤ) :
    FollowStore × Option FollowResult :=
  match firstNonEmpty [actorUri, targetDid] with
  | none => (s, some (.targetNotFound "target_not_found"))
  | some canonicalUri =>
    let target := s.userTarget ids canonicalUri targetDid actorUri inboxUri displayName now
    (s.upsertTarget target).followTarget ids followerDid target (actorUri.getD canonicalUri) now

def boardUri (remoteNodeId : Option String) (boardId : String) (actorUri : Option String) :
    String :=
  actorUri.getD (match remoteNodeId with
    | none => "local://boards/" ++ boardId
    | some remoteNodeId => "remote://" ++ remoteNodeId ++ "/boards/" ++ boardId)

/-- The target that a request to follow a board writes. -/
def boardTarget (s : FollowStore) (ids : FollowIds) (remoteNodeId : Option String)
    (boardId boardSlug : String) (actorUri inboxUri : Option String) (displayName : String)
    (now : ℤ) : FollowTarget :=
  let canonicalUri := boardUri remoteNodeId boardId actorUri
  let existingTarget := match remoteNodeId with
    | none => s.getTargetByCanonicalUri canonicalUri
    | some remoteNodeId => s.getBoardTarget remoteNodeId boardId
  { targetId := (existingTarget.map (·.targetId)).getD ids.target
    targetType := .board
    canonicalUri := some canonicalUri
    displayName := displayName
    actorUri := actorUri
    inboxUri := inboxUri
    remoteNodeId := remoteNodeId
    boardId := some boardId
    boardSlug := some boardSlug
    createdAt := (existingTarget.map (·.createdAt)).getD now
    updatedAt := now }

def followBoard (s : FollowStore) (ids : FollowIds) (followerDid : String)
    (remoteNodeId : Option String) (boardId boardSlug : String) (actorUri inboxUri : Option String)
    (displayName : String) (now : ℤ) : FollowStore × Option FollowResult :=
  if boardId = "" then (s, some (.targetNotFound "board_not_found"))
  else
    let target := s.boardTarget ids remoteNodeId boardId boardSlug actorUri inboxUri displayName now
    let s := s.upsertTarget target
    let s := match remoteNodeId with
      | none => s
      | some remoteNodeId => s.toggleSync remoteNodeId boardId true
    s.followTarget ids followerDid target
      (actorUri.getD (boardUri remoteNodeId boardId actorUri)) now

/-- `_transitionFollow`: the status that the edge has is not looked at. -/
def transitionFollow (s : FollowStore) (ids : FollowIds) (followerDid targetId actorDid : String)
    (status : FollowStatus) (eventType : FollowActivityEventType) (now : ℤ) :
    FollowStore × Option FollowResult :=
  match s.getEdge followerDid targetId .outbound with
  | none => (s, some (.targetNotFound "follow_not_found"))
  | some edge =>
    ((s.updateEdgeStatus edge.followId status now).recordEvent
      (event ids edge.followId eventType actorDid edge.remoteActivityId now),
      some (.success edge.followId))

def acceptFollow (s : FollowStore) (ids : FollowIds) (followerDid targetId actorDid : String)
    (now : ℤ) : FollowStore × Option FollowResult :=
  s.transitionFollow ids followerDid targetId actorDid .accepted .followAccepted now

def rejectFollow (s : FollowStore) (ids : FollowIds) (followerDid targetId actorDid : String)
    (now : ℤ) : FollowStore × Option FollowResult :=
  s.transitionFollow ids followerDid targetId actorDid .rejected .followRejected now

def blockTarget (s : FollowStore) (ids : FollowIds) (followerDid targetId actorDid : String)
    (now : ℤ) : FollowStore × Option FollowResult :=
  s.transitionFollow ids followerDid targetId actorDid .blocked .followBlocked now

/-- The author's content is purged afterwards, which touches none of these tables. -/
def unfollow (s : FollowStore) (ids : FollowIds) (followerDid targetId : String) (now : ℤ) :
    FollowStore × Option FollowResult :=
  match s.getEdge followerDid targetId .outbound, s.getTarget targetId with
  | none, _ => (s, some (.targetNotFound "follow_not_found"))
  | some _, none => (s, some (.targetNotFound "target_not_found"))
  | some edge, some target =>
    let s := match target.remoteNodeId, target.boardId with
      | some remoteNodeId, some boardId => s.toggleSync remoteNodeId boardId false
      | _, _ => s
    let s :=
      if edge.visibility = .federated ∧ target.federated = true then
        s.enqueue (undoOf ids edge target followerDid now)
      else s
    ((s.updateEdgeStatus edge.followId .cancelled now).recordEvent
      (event ids edge.followId .followCancelled followerDid edge.remoteActivityId now),
      some (.success edge.followId))

def retryFollow (s : FollowStore) (ids : FollowIds) (followerDid targetId : String) (now : ℤ) :
    FollowStore × Option FollowResult :=
  match s.getEdge followerDid targetId .outbound with
  | none => (s, some (.targetNotFound "follow_not_found"))
  | some edge =>
    if edge.status ≠ .failed then (s, some (.duplicate edge.followId))
    else
      match s.getTarget targetId with
      | none => (s, some (.targetNotFound "target_not_found"))
      | some target =>
        let activityId := edge.remoteActivityId.getD (followActivityId edge.followId)
        let enqueued :=
          if target.federated then s.enqueueFollow ids activityId followerDid target
            target.object now
          else some s
        match enqueued with
        | none => (s, none)
        | some s =>
          ((s.updateEdgeStatus edge.followId .pending now).recordEvent
            (event ids edge.followId .followRequested followerDid (some activityId) now),
            some (.success edge.followId))

end FollowStore

/-! ### Calls -/

inductive FollowRequest where
  | followUser (followerDid : String) (targetDid actorUri inboxUri : Option String)
    (displayName : String)
  | followBoard (followerDid : String) (remoteNodeId : Option String) (boardId boardSlug : String)
    (actorUri inboxUri : Option String) (displayName : String)
  | acceptFollow (followerDid targetId actorDid : String)
  | rejectFollow (followerDid targetId actorDid : String)
  | blockTarget (followerDid targetId actorDid : String)
  | unfollow (followerDid targetId : String)
  | retryFollow (followerDid targetId : String)
  deriving DecidableEq

/-- A call, with the identifiers that it draws and its time. -/
structure FollowCall where
  request : FollowRequest
  ids : FollowIds
  now : ℤ
  deriving DecidableEq

/-- The user asks to follow somebody or something. -/
def FollowRequest.isFollow : FollowRequest → Bool
  | .followUser .. => true
  | .followBoard .. => true
  | _ => false

namespace FollowStore

/-- What a call writes and returns. -/
def call (s : FollowStore) (c : FollowCall) : FollowStore × Option FollowResult :=
  match c.request with
  | .followUser followerDid targetDid actorUri inboxUri displayName =>
    s.followUser c.ids followerDid targetDid actorUri inboxUri displayName c.now
  | .followBoard followerDid remoteNodeId boardId boardSlug actorUri inboxUri displayName =>
    s.followBoard c.ids followerDid remoteNodeId boardId boardSlug actorUri inboxUri displayName
      c.now
  | .acceptFollow followerDid targetId actorDid =>
    s.acceptFollow c.ids followerDid targetId actorDid c.now
  | .rejectFollow followerDid targetId actorDid =>
    s.rejectFollow c.ids followerDid targetId actorDid c.now
  | .blockTarget followerDid targetId actorDid =>
    s.blockTarget c.ids followerDid targetId actorDid c.now
  | .unfollow followerDid targetId => s.unfollow c.ids followerDid targetId c.now
  | .retryFollow followerDid targetId => s.retryFollow c.ids followerDid targetId c.now

def next (s : FollowStore) (c : FollowCall) : FollowStore := (s.call c).1

/-- The call is a new request of the user for the edge. -/
def Requests (s : FollowStore) (c : FollowCall) (followId : String) : Prop :=
  c.request.isFollow = true ∧ (s.call c).2 = some (.success followId)

/-- The tables after the calls of a run. -/
abbrev after (run : List FollowCall) : FollowStore := exec next {} run

end FollowStore

/-- The user cancelled the edge, or blocked its target. -/
def FollowStatus.revoked (status : FollowStatus) : Bool := status = .cancelled || status = .blocked

/-- An edge that was revoked and is accepted later was requested in between. -/
def RequestedAgain (run : List FollowCall) : Prop :=
  ∀ before during later, run = before ++ during ++ later →
    ∀ edge ∈ (FollowStore.after before).edges, edge.status.revoked = true →
    ∀ edge' ∈ (FollowStore.after (before ++ during)).edges,
      edge'.followId = edge.followId → edge'.status = .accepted →
    ∃ l c r, during = l ++ c :: r ∧ (FollowStore.after (before ++ l)).Requests c edge.followId

/-- No two activities that were enqueued have one identifier. -/
def DistinctActivities (run : List FollowCall) : Prop :=
  ((FollowStore.after run).enqueued.map (·.activityId)).Nodup

/-- What a run of calls is to satisfy. -/
structure FollowLaw (run : List FollowCall) : Prop where
  requested : RequestedAgain run
  distinct : DistinctActivities run

/-! ### Permitted calls -/

namespace FollowStore

/-- An activity with this identifier is in the queue. -/
def Queued (s : FollowStore) (activityId : String) : Prop :=
  ∃ row ∈ s.outbox, row.activityId = activityId

/-- The drawn identifiers are new. -/
def Drawn (s : FollowStore) (ids : FollowIds) : Prop :=
  (∀ edge ∈ s.edges, edge.followId ≠ ids.follow) ∧ ∀ row ∈ s.outbox, row.outboxId ≠ ids.outbox

/-- A request that is sent uses no edge whose request was sent before. -/
def Sendable (s : FollowStore) (followerDid : String) (target : FollowTarget) : Prop :=
  target.federated = true → ∀ edge ∈ s.getEdge followerDid target.targetId .outbound,
    edge.status = .cancelled → ¬ s.Queued (followActivityId edge.followId)

/-- The identifiers that a call draws are new; a request that is sent uses no edge whose request
was sent before, and no edge is undone twice; an answer comes while its edge is not revoked. -/
def Permitted (s : FollowStore) (c : FollowCall) : Prop :=
  s.Drawn c.ids ∧
  match c.request with
  | .followUser followerDid targetDid actorUri inboxUri displayName =>
    ∀ canonicalUri ∈ firstNonEmpty [actorUri, targetDid],
      s.Sendable followerDid
        (s.userTarget c.ids canonicalUri targetDid actorUri inboxUri displayName c.now)
  | .followBoard followerDid remoteNodeId boardId boardSlug actorUri inboxUri displayName =>
    boardId ≠ "" → s.Sendable followerDid
      (s.boardTarget c.ids remoteNodeId boardId boardSlug actorUri inboxUri displayName c.now)
  | .acceptFollow followerDid targetId _ | .rejectFollow followerDid targetId _ =>
    ∀ edge ∈ s.getEdge followerDid targetId .outbound, edge.status.revoked = false
  | .unfollow followerDid targetId =>
    ∀ edge ∈ s.getEdge followerDid targetId .outbound, ∀ target ∈ s.getTarget targetId,
      edge.visibility = .federated → target.federated = true →
        ¬ s.Queued (undoActivityId edge.followId)
  | .blockTarget .. | .retryFollow .. => True

instance (s : FollowStore) (activityId : String) : Decidable (s.Queued activityId) :=
  inferInstanceAs (Decidable (∃ row ∈ s.outbox, _))

instance (s : FollowStore) (ids : FollowIds) : Decidable (s.Drawn ids) :=
  inferInstanceAs (Decidable (_ ∧ _))

instance (s : FollowStore) (followerDid : String) (target : FollowTarget) :
    Decidable (s.Sendable followerDid target) :=
  inferInstanceAs (Decidable (_ → ∀ edge ∈ s.getEdge followerDid target.targetId .outbound, _))

instance (s : FollowStore) (c : FollowCall) : Decidable (s.Permitted c) :=
  match c with
  | ⟨.followUser _ targetDid actorUri .., _, _⟩ =>
    inferInstanceAs (Decidable (_ ∧ ∀ canonicalUri ∈ firstNonEmpty [actorUri, targetDid], _))
  | ⟨.followBoard .., _, _⟩ => inferInstanceAs (Decidable (_ ∧ _))
  | ⟨.acceptFollow followerDid targetId _, _, _⟩ =>
    inferInstanceAs (Decidable (_ ∧ ∀ edge ∈ s.getEdge followerDid targetId .outbound, _))
  | ⟨.rejectFollow followerDid targetId _, _, _⟩ =>
    inferInstanceAs (Decidable (_ ∧ ∀ edge ∈ s.getEdge followerDid targetId .outbound, _))
  | ⟨.unfollow followerDid targetId, _, _⟩ =>
    inferInstanceAs (Decidable (_ ∧ ∀ edge ∈ s.getEdge followerDid targetId .outbound,
      ∀ target ∈ s.getTarget targetId, _))
  | ⟨.blockTarget .., _, _⟩ => inferInstanceAs (Decidable (_ ∧ True))
  | ⟨.retryFollow .., _, _⟩ => inferInstanceAs (Decidable (_ ∧ True))

/-! ### What the calls write -/

/-- The queue of `s'` is that of `s`, and `activity` if there is one. -/
def Enqueues (s s' : FollowStore) (activity : Option OutboundFollowActivity) : Prop :=
  match activity with
  | none => s'.outbox = s.outbox ∧ s'.enqueued = s.enqueued
  | some activity =>
    s'.outbox = (s.enqueue activity).outbox ∧ s'.enqueued = s.enqueued ++ [activity]

theorem mem_of_getEdge {s : FollowStore} {followerDid targetId : String}
    {direction : FollowDirection} {edge : FollowEdge}
    (h : s.getEdge followerDid targetId direction = some edge) :
    edge ∈ s.edges ∧ edge.followerDid = followerDid ∧ edge.targetId = targetId := by
  have hp := List.find?_some h
  simp only [Bool.and_eq_true, beq_iff_eq] at hp
  exact ⟨List.mem_of_find?_eq_some h, hp.1.1, hp.1.2⟩

/-- A request is a duplicate, or it writes one edge: the one that was cancelled, or a new one. -/
theorem followTarget_cases (s : FollowStore) (ids : FollowIds) (followerDid : String)
    (target : FollowTarget) (object : String) (now : ℤ)
    (hrequest : ∀ activityId, followRequest activityId followerDid target object now ≠ none) :
    (∃ edge ∈ s.getEdge followerDid target.targetId .outbound, edge.status ≠ .cancelled ∧
      s.followTarget ids followerDid target object now = (s, some (.duplicate edge.followId))) ∨
    ∃ edge : FollowEdge,
      edge = requestedEdge (s.getEdge followerDid target.targetId .outbound) ids followerDid target
        now ∧
      (∀ found ∈ s.getEdge followerDid target.targetId .outbound, found.status = .cancelled) ∧
      (s.followTarget ids followerDid target object now).2 = some (.success edge.followId) ∧
      (s.followTarget ids followerDid target object now).1.edges = (s.upsertEdge edge).edges ∧
      ∃ activity : Option OutboundFollowActivity,
        s.Enqueues (s.followTarget ids followerDid target object now).1 activity ∧
        ∀ a ∈ activity, target.federated = true ∧ a.outboxId = ids.outbox ∧
          a.activityId = followActivityId edge.followId := by
  unfold followTarget
  dsimp only
  cases hfilter : (s.getEdge followerDid target.targetId .outbound).filter
      (·.status ≠ .cancelled) with
  | some edge =>
    obtain ⟨hedge, hstatus⟩ := Option.filter_eq_some_iff.1 hfilter
    exact .inl ⟨edge, hedge, of_decide_eq_true hstatus, rfl⟩
  | none =>
    right
    refine ⟨_, rfl, ?_, ?_⟩
    · intro found hfound
      have := Option.filter_eq_none_iff.1 hfilter found hfound
      simpa using this
    generalize requestedEdge (s.getEdge followerDid target.targetId .outbound) ids followerDid
      target now = edge
    cases hfederated : target.federated with
    | false => exact ⟨rfl, rfl, none, ⟨rfl, rfl⟩, fun a ha => nomatch ha⟩
    | true =>
      cases hactivity : followRequest (followActivityId edge.followId) followerDid target object
          now with
      | none => exact absurd hactivity (hrequest _)
      | some activity =>
        rw [if_pos rfl, enqueueFollow, hactivity]
        exact ⟨rfl, rfl, some _, ⟨rfl, rfl⟩, by rintro a ⟨⟩; exact ⟨rfl, rfl, rfl⟩⟩

/-- An answer of the other side, or a block, writes the status of the edge it finds. -/
theorem transitionFollow_cases (s : FollowStore) (ids : FollowIds)
    (followerDid targetId actorDid : String) (status : FollowStatus)
    (eventType : FollowActivityEventType) (now : ℤ) :
    (s.getEdge followerDid targetId .outbound = none ∧
      (s.transitionFollow ids followerDid targetId actorDid status eventType now).1 = s) ∨
    ∃ edge ∈ s.getEdge followerDid targetId .outbound,
      (s.transitionFollow ids followerDid targetId actorDid status eventType now).1.edges
        = (s.updateEdgeStatus edge.followId status now).edges ∧
      s.Enqueues (s.transitionFollow ids followerDid targetId actorDid status eventType now).1
        none := by
  unfold transitionFollow
  cases hedge : s.getEdge followerDid targetId .outbound with
  | none => exact .inl ⟨rfl, rfl⟩
  | some edge => exact .inr ⟨edge, rfl, rfl, rfl, rfl⟩

/-- An edge that is given up is cancelled, and its request is undone if it was sent. -/
theorem unfollow_cases (s : FollowStore) (ids : FollowIds) (followerDid targetId : String)
    (now : ℤ) :
    (s.unfollow ids followerDid targetId now).1 = s ∨
    ∃ edge ∈ s.getEdge followerDid targetId .outbound, ∃ target ∈ s.getTarget targetId,
      (s.unfollow ids followerDid targetId now).1.edges
        = (s.updateEdgeStatus edge.followId .cancelled now).edges ∧
      ∃ activity : Option OutboundFollowActivity,
        s.Enqueues (s.unfollow ids followerDid targetId now).1 activity ∧
        ∀ a ∈ activity, edge.visibility = .federated ∧ target.federated = true ∧
          a.outboxId = ids.outbox ∧ a.activityId = undoActivityId edge.followId := by
  unfold unfollow
  cases s.getEdge followerDid targetId .outbound with
  | none => exact .inl rfl
  | some edge =>
    cases s.getTarget targetId with
    | none => exact .inl rfl
    | some target =>
      refine .inr ⟨edge, rfl, target, rfl, ?_⟩
      dsimp only
      have hsync : ∃ s' : FollowStore, (match target.remoteNodeId, target.boardId with
          | some remoteNodeId, some boardId => s.toggleSync remoteNodeId boardId false
          | _, _ => s) = s' ∧ s'.edges = s.edges ∧ s'.outbox = s.outbox ∧
            s'.enqueued = s.enqueued := by
        refine ⟨_, rfl, ?_⟩
        split <;> exact ⟨rfl, rfl, rfl⟩
      obtain ⟨s', hs', hedges, houtbox, henqueued⟩ := hsync
      rw [hs']
      split_ifs with hsent
      · refine ⟨congrArg (List.map _) hedges, some (undoOf ids edge target followerDid now), ?_, ?_⟩
        · exact ⟨congrArg (insertOrReplace _ _) houtbox, congrArg (· ++ _) henqueued⟩
        · rintro a ⟨⟩
          exact ⟨hsent.1, hsent.2, rfl, rfl⟩
      · exact ⟨congrArg (List.map _) hedges, none, ⟨houtbox, henqueued⟩, fun a ha => nomatch ha⟩

/-- No edge is ever marked as failed, so that there is nothing to retry. -/
theorem retryFollow_eq_self {s : FollowStore} (hlive : ∀ edge ∈ s.edges, edge.status ≠ .failed)
    (ids : FollowIds) (followerDid targetId : String) (now : ℤ) :
    (s.retryFollow ids followerDid targetId now).1 = s := by
  unfold retryFollow
  cases hedge : s.getEdge followerDid targetId .outbound with
  | none => rfl
  | some edge =>
    dsimp only
    rw [if_pos (hlive edge (mem_of_getEdge hedge).1)]

end FollowStore

/-! ### Edges -/

/-- What is true of the edges: each has its identifier, and its follower and target, alone. -/
structure EdgesInv (edges : List FollowEdge) : Prop where
  followIds : (edges.map (·.followId)).Nodup
  pairs : (edges.map fun edge => (edge.followerDid, edge.targetId)).Nodup
  live : ∀ edge ∈ edges, edge.status ≠ .failed
  outbound : ∀ edge ∈ edges, edge.direction = .outbound

theorem EdgesInv.nil : EdgesInv [] where
  followIds := List.nodup_nil
  pairs := List.nodup_nil
  live _ h := nomatch h
  outbound _ h := nomatch h

variable {s : FollowStore} {status : FollowStatus} {followId followerDid : String} {ids : FollowIds}
  {target : FollowTarget} {now : ℤ}

theorem EdgesInv.getEdge (h : EdgesInv s.edges) {edge : FollowEdge} (hedge : edge ∈ s.edges) :
    s.getEdge edge.followerDid edge.targetId .outbound = some edge := by
  cases hfound : s.getEdge edge.followerDid edge.targetId .outbound with
  | none =>
    have := List.find?_eq_none.1 hfound edge hedge
    simp [h.outbound edge hedge] at this
  | some found =>
    obtain ⟨hmem, hdid, htarget⟩ := FollowStore.mem_of_getEdge hfound
    have heq := List.inj_on_of_nodup_map h.pairs hmem hedge (Prod.ext hdid htarget)
    rw [heq]

theorem EdgesInv.updateEdgeStatus (h : EdgesInv s.edges) (followId : String)
    (hstatus : status ≠ .failed) (now : ℤ) :
    EdgesInv (s.updateEdgeStatus followId status now).edges := by
  have hkept : ∀ {β : Type} (k : FollowEdge → β), (∀ e, k (e.withStatus status now) = k e) →
      (s.updateEdgeStatus followId status now).edges.map k = s.edges.map k := by
    intro β k hk
    rw [FollowStore.updateEdgeStatus, List.map_map]
    refine List.map_congr_left fun e _ => ?_
    rw [Function.comp_apply]
    split_ifs
    · exact hk e
    · rfl
  refine ⟨?_, ?_, ?_, ?_⟩
  · rw [hkept _ fun _ => rfl]
    exact h.followIds
  · rw [hkept _ fun _ => rfl]
    exact h.pairs
  · intro edge hedge
    obtain ⟨e, he, rfl⟩ := List.mem_map.1 hedge
    split_ifs
    · exact hstatus
    · exact h.live e he
  · intro edge hedge
    obtain ⟨e, he, rfl⟩ := List.mem_map.1 hedge
    split_ifs
    · exact h.outbound e he
    · exact h.outbound e he

/-- The edge that a request writes stands in for the one that was found, if there is one. -/
theorem EdgesInv.upsertEdge (h : EdgesInv s.edges) (ids : FollowIds) (followerDid : String)
    (target : FollowTarget) (now : ℤ) :
    EdgesInv (s.upsertEdge (FollowStore.requestedEdge
      (s.getEdge followerDid target.targetId .outbound) ids followerDid target now)).edges := by
  refine ⟨?_, ?_, ?_, ?_⟩
  · refine nodup_insertOrReplace h.followIds fun r _ hr => ?_
    exact beq_eq_false_iff_ne.1 hr
  · refine nodup_insertOrReplace h.pairs fun r hr hconflict hpair => ?_
    obtain ⟨hdid, htarget⟩ := Prod.ext_iff.1 hpair
    have hfound := h.getEdge hr
    rw [show r.followerDid = followerDid from hdid, show r.targetId = target.targetId from htarget]
      at hfound
    rw [hfound] at hconflict
    exact beq_eq_false_iff_ne.1 hconflict rfl
  · intro edge hedge
    rcases mem_insertOrReplace.1 hedge with ⟨hedge, -⟩ | rfl
    · exact h.live edge hedge
    · show (if _ then _ else _) ≠ _
      split_ifs <;> decide
  · intro edge hedge
    rcases mem_insertOrReplace.1 hedge with ⟨hedge, -⟩ | rfl
    · exact h.outbound edge hedge
    · rfl

/-! ### The queue -/

theorem followActivityId_injective {f g : String} (h : followActivityId f = followActivityId g) :
    f = g := by
  unfold followActivityId at h
  exact (String.append_right_inj _).1 h

theorem followActivityId_ne_undoActivityId (f g : String) :
    followActivityId f ≠ undoActivityId g := by
  intro h
  unfold followActivityId undoActivityId at h
  have hlist := congrArg (fun t => (chars t)[19]?) h
  simp only [chars_eq_toList, String.toList_append] at hlist
  rw [List.getElem?_append_left (by decide), List.getElem?_append_left (by decide)] at hlist
  exact absurd hlist (by decide)

/-- What is true of the tables: every activity that was enqueued is still in the queue, and is
a request for an edge or takes one back. -/
structure FollowInv (s : FollowStore) : Prop where
  edges : EdgesInv s.edges
  outbox : s.outbox = s.enqueued
  sent : ∀ a ∈ s.enqueued, ∃ edge ∈ s.edges,
    a.activityId = followActivityId edge.followId ∨ a.activityId = undoActivityId edge.followId
  distinct : (s.enqueued.map (·.activityId)).Nodup

theorem FollowInv.empty : FollowInv {} where
  edges := EdgesInv.nil
  outbox := rfl
  sent _ h := nomatch h
  distinct := List.nodup_nil

theorem FollowInv.not_queued_of_drawn (h : FollowInv s)
    (hnew : ∀ edge ∈ s.edges, edge.followId ≠ followId) :
    ¬ s.Queued (followActivityId followId) := by
  rintro ⟨row, hrow, hid⟩
  rw [h.outbox] at hrow
  obtain ⟨edge, hedge, hid' | hid'⟩ := h.sent row hrow
  · exact hnew edge hedge (followActivityId_injective (hid'.symm.trans hid))
  · exact followActivityId_ne_undoActivityId _ _ (hid.symm.trans hid')

/-- A call keeps what is true of the tables if its activity has a new identifier. -/
theorem FollowInv.enqueues {s' : FollowStore} (h : FollowInv s) (hedges : EdgesInv s'.edges)
    (hkept : ∀ edge ∈ s.edges, ∃ edge' ∈ s'.edges, edge'.followId = edge.followId)
    {activity : Option OutboundFollowActivity} (ha : s.Enqueues s' activity)
    (hnew : ∀ a ∈ activity, ¬ s.Queued a.activityId ∧
      (∀ row ∈ s.outbox, row.outboxId ≠ a.outboxId) ∧ ∃ edge ∈ s'.edges,
        a.activityId = followActivityId edge.followId ∨
          a.activityId = undoActivityId edge.followId) : FollowInv s' := by
  have hold : ∀ a ∈ s.enqueued, ∃ edge ∈ s'.edges,
      a.activityId = followActivityId edge.followId ∨
        a.activityId = undoActivityId edge.followId := by
    intro a ha
    obtain ⟨edge, hedge, hid⟩ := h.sent a ha
    obtain ⟨edge', hedge', heq⟩ := hkept edge hedge
    exact ⟨edge', hedge', heq ▸ hid⟩
  cases activity with
  | none =>
    obtain ⟨houtbox, henqueued⟩ := ha
    refine ⟨hedges, ?_, ?_, ?_⟩
    · rw [houtbox, henqueued, h.outbox]
    · rw [henqueued]
      exact hold
    · rw [henqueued]
      exact h.distinct
  | some a =>
    obtain ⟨houtbox, henqueued⟩ := ha
    obtain ⟨hid, hrow, hedge⟩ := hnew a rfl
    -- a new identifier replaces no row of the outbox
    have hfree : ∀ r ∈ s.outbox,
        (r.outboxId == a.outboxId || r.activityId == a.activityId) = false := by
      intro r hr
      rw [Bool.or_eq_false_iff, beq_eq_false_iff_ne, beq_eq_false_iff_ne]
      exact ⟨hrow r hr, fun heq => hid ⟨r, hr, heq⟩⟩
    refine ⟨hedges, ?_, ?_, ?_⟩
    · rw [houtbox, henqueued, ← h.outbox]
      exact insertOrReplace_eq hfree
    · rw [henqueued]
      intro x hx
      rcases List.mem_append.1 hx with hx | hx
      · exact hold x hx
      · rw [List.mem_singleton.1 hx]
        exact hedge
    · rw [henqueued, List.map_append, List.nodup_append]
      refine ⟨h.distinct, List.nodup_singleton _, ?_⟩
      intro x hx y hy
      obtain ⟨r, hr, rfl⟩ := List.mem_map.1 hx
      rw [List.mem_singleton.1 hy]
      exact fun heq => hid ⟨r, h.outbox ▸ hr, heq⟩

theorem exists_updateEdgeStatus (s : FollowStore) (followId : String) (status : FollowStatus)
    (now : ℤ) : ∀ edge ∈ s.edges, ∃ edge' ∈ (s.updateEdgeStatus followId status now).edges,
      edge'.followId = edge.followId := by
  intro edge hedge
  refine ⟨_, List.mem_map_of_mem hedge, ?_⟩
  split_ifs
  · rfl
  · rfl

theorem FollowInv.followTarget (h : FollowInv s) (hdrawn : s.Drawn ids)
    (hsendable : s.Sendable followerDid target) {object : String}
    (hrequest : ∀ activityId, followRequest activityId followerDid target object now ≠ none) :
    FollowInv (s.followTarget ids followerDid target object now).1 := by
  rcases s.followTarget_cases ids followerDid target object now hrequest with
    ⟨edge, -, -, heq⟩ | ⟨edge, hedge, hcancelled, -, hedges, activity, hqueue, hactivity⟩
  · rw [heq]
    exact h
  have hwritten := h.edges.upsertEdge ids followerDid target now
  rw [← hedge, ← hedges] at hwritten
  refine h.enqueues hwritten ?_ hqueue ?_
  · intro e he
    rw [hedges]
    by_cases heq : e.followId = edge.followId
    · exact ⟨edge, mem_insertOrReplace.2 (.inr rfl), heq.symm⟩
    · exact ⟨e, mem_insertOrReplace.2 (.inl ⟨he, beq_eq_false_iff_ne.2 heq⟩), rfl⟩
  · intro a ha
    obtain ⟨hfederated, houtbox, hid⟩ := hactivity a ha
    refine ⟨?_, houtbox ▸ hdrawn.2, edge, hedges ▸ mem_insertOrReplace.2 (.inr rfl), .inl hid⟩
    rw [hid]
    -- the identifier is drawn for a new edge; that of an old edge was not sent
    cases hfound : s.getEdge followerDid target.targetId .outbound with
    | none =>
      refine h.not_queued_of_drawn ?_
      rw [hedge, hfound]
      exact hdrawn.1
    | some found =>
      have hfree := hsendable hfederated found hfound (hcancelled found hfound)
      rw [hedge, hfound]
      exact hfree

theorem FollowInv.transitionFollow (h : FollowInv s) (ids : FollowIds)
    (followerDid targetId actorDid : String) (hstatus : status ≠ .failed)
    (eventType : FollowActivityEventType) (now : ℤ) :
    FollowInv (s.transitionFollow ids followerDid targetId actorDid status eventType now).1 := by
  rcases s.transitionFollow_cases ids followerDid targetId actorDid status eventType now with
    ⟨-, heq⟩ | ⟨edge, -, hedges, hqueue⟩
  · rw [heq]
    exact h
  · refine h.enqueues ?_ ?_ hqueue fun a ha => nomatch ha
    · rw [hedges]
      exact h.edges.updateEdgeStatus _ hstatus now
    · rw [hedges]
      exact exists_updateEdgeStatus s _ status now

theorem FollowInv.unfollow (h : FollowInv s) (hdrawn : s.Drawn ids) {targetId : String}
    (hundo : ∀ edge ∈ s.getEdge followerDid targetId .outbound, ∀ target ∈ s.getTarget targetId,
      edge.visibility = .federated → target.federated = true →
        ¬ s.Queued (undoActivityId edge.followId)) :
    FollowInv (s.unfollow ids followerDid targetId now).1 := by
  rcases s.unfollow_cases ids followerDid targetId now with
    heq | ⟨edge, hedge, target, htarget, hedges, activity, hqueue, hactivity⟩
  · rw [heq]
    exact h
  have hkept := exists_updateEdgeStatus s edge.followId .cancelled now
  rw [← hedges] at hkept
  refine h.enqueues ?_ hkept hqueue ?_
  · rw [hedges]
    exact h.edges.updateEdgeStatus _ (by decide) now
  · intro a ha
    obtain ⟨hvisibility, hfederated, houtbox, hid⟩ := hactivity a ha
    obtain ⟨edge', hedge', heq⟩ := hkept edge (FollowStore.mem_of_getEdge hedge).1
    refine ⟨?_, houtbox ▸ hdrawn.2, edge', hedge', .inr (heq.symm ▸ hid)⟩
    rw [hid]
    exact hundo edge hedge target htarget hvisibility hfederated

theorem followRequest_user (h : target.targetType = .user) (activityId followerDid object : String)
    (now : ℤ) : followRequest activityId followerDid target object now ≠ none := by
  rw [followRequest, h]
  exact Option.some_ne_none _

theorem followRequest_board (target : FollowTarget) (h : target.targetType = .board)
    {boardId : String} (hboard : target.boardId = some boardId) (hne : boardId ≠ "")
    (activityId followerDid object : String) (now : ℤ) :
    followRequest activityId followerDid target object now ≠ none := by
  rw [followRequest, h, hboard]
  dsimp only
  rw [if_neg hne]
  exact Option.some_ne_none _

/-- **A permitted call keeps what is true of the tables.** -/
theorem FollowInv.call {c : FollowCall} (h : FollowInv s) (hpermitted : s.Permitted c) :
    FollowInv (s.next c) := by
  obtain ⟨request, ids, now⟩ := c
  obtain ⟨hdrawn, hrequest⟩ := hpermitted
  cases request with
  | followUser followerDid targetDid actorUri inboxUri displayName =>
    show FollowInv (s.followUser ids followerDid targetDid actorUri inboxUri displayName now).1
    unfold FollowStore.followUser
    cases huri : firstNonEmpty [actorUri, targetDid] with
    | none => exact h
    | some canonicalUri =>
      exact FollowInv.followTarget (s := s.upsertTarget _) ⟨h.edges, h.outbox, h.sent, h.distinct⟩
        hdrawn (hrequest canonicalUri huri) (followRequest_user rfl · _ _ _)
  | followBoard followerDid remoteNodeId boardId boardSlug actorUri inboxUri displayName =>
    show FollowInv (s.followBoard ids followerDid remoteNodeId boardId boardSlug actorUri inboxUri
      displayName now).1
    unfold FollowStore.followBoard
    split_ifs with hboard
    · exact h
    · have hsendable := hrequest hboard
      have hasked := followRequest_board (s.boardTarget ids remoteNodeId boardId boardSlug
        actorUri inboxUri displayName now) rfl rfl hboard
      dsimp only
      generalize s.boardTarget ids remoteNodeId boardId boardSlug actorUri inboxUri displayName
        now = target at hsendable hasked ⊢
      cases remoteNodeId with
      | none =>
        exact FollowInv.followTarget (s := s.upsertTarget target)
          ⟨h.edges, h.outbox, h.sent, h.distinct⟩ hdrawn hsendable (hasked · _ _ _)
      | some remoteNodeId =>
        exact FollowInv.followTarget (s := (s.upsertTarget target).toggleSync remoteNodeId boardId
          true) ⟨h.edges, h.outbox, h.sent, h.distinct⟩ hdrawn hsendable (hasked · _ _ _)
  | acceptFollow followerDid targetId actorDid =>
    exact h.transitionFollow _ _ _ _ (by decide) _ _
  | rejectFollow followerDid targetId actorDid =>
    exact h.transitionFollow _ _ _ _ (by decide) _ _
  | blockTarget followerDid targetId actorDid =>
    exact h.transitionFollow _ _ _ _ (by decide) _ _
  | unfollow followerDid targetId => exact h.unfollow hdrawn hrequest
  | retryFollow followerDid targetId =>
    show FollowInv (s.retryFollow ids followerDid targetId now).1
    rw [FollowStore.retryFollow_eq_self h.edges.live]
    exact h

/-! ### Revoked edges -/

/-- The edge is cancelled or blocked. -/
def Revoked (s : FollowStore) (followId : String) : Prop :=
  ∀ edge ∈ s.edges, edge.followId = followId → edge.status.revoked = true

theorem Revoked.updateEdgeStatus (h : Revoked s followId) {g : String}
    (hg : g = followId → status.revoked = true) :
    Revoked (s.updateEdgeStatus g status now) followId := by
  intro edge hedge hid
  obtain ⟨e, he, rfl⟩ := List.mem_map.1 hedge
  split_ifs at hid ⊢ with heq
  · exact hg (heq.symm.trans hid)
  · exact h e he hid

/-- A request for another edge leaves the edge revoked. -/
theorem Revoked.followTarget (h : Revoked s followId) {object : String}
    (hrequest : ∀ activityId, followRequest activityId followerDid target object now ≠ none)
    (hother : (s.followTarget ids followerDid target object now).2 ≠ some (.success followId)) :
    Revoked (s.followTarget ids followerDid target object now).1 followId := by
  rcases s.followTarget_cases ids followerDid target object now hrequest with
    ⟨edge, -, -, heq⟩ | ⟨edge, -, -, hresult, hedges, -⟩
  · rw [heq]
    exact h
  · intro e he hid
    rw [hedges] at he
    rcases mem_insertOrReplace.1 he with ⟨he, -⟩ | rfl
    · exact h e he hid
    · exact absurd (hid ▸ hresult) hother

/-- An answer comes for another edge. -/
theorem Revoked.answered (h : Revoked s followId) (ids : FollowIds) {targetId : String}
    (actorDid : String) (status : FollowStatus) (eventType : FollowActivityEventType) (now : ℤ)
    (hanswer : ∀ edge ∈ s.getEdge followerDid targetId .outbound, edge.status.revoked = false) :
    Revoked (s.transitionFollow ids followerDid targetId actorDid status eventType now).1
      followId := by
  rcases s.transitionFollow_cases ids followerDid targetId actorDid status eventType now with
    ⟨-, heq⟩ | ⟨edge, hedge, hedges, -⟩
  · rw [heq]
    exact h
  · intro e he
    rw [hedges] at he
    refine h.updateEdgeStatus (fun heq => ?_) e he
    have hrevoked := h edge (FollowStore.mem_of_getEdge hedge).1 heq
    rw [hanswer edge hedge] at hrevoked
    cases hrevoked

/-- **A revoked edge remains revoked until it is requested.** -/
theorem Revoked.call {c : FollowCall} (h : Revoked s followId) (hinv : FollowInv s)
    (hpermitted : s.Permitted c) (hother : ¬ s.Requests c followId) :
    Revoked (s.next c) followId := by
  obtain ⟨request, ids, now⟩ := c
  obtain ⟨-, hrequest⟩ := hpermitted
  cases request with
  | followUser followerDid targetDid actorUri inboxUri displayName =>
    have hother := not_and.1 hother rfl
    change Revoked (s.followUser ids followerDid targetDid actorUri inboxUri displayName now).1 _
    change (s.followUser ids followerDid targetDid actorUri inboxUri displayName now).2 ≠ _
      at hother
    unfold FollowStore.followUser at hother ⊢
    cases huri : firstNonEmpty [actorUri, targetDid] with
    | none => exact h
    | some canonicalUri =>
      rw [huri] at hother
      exact Revoked.followTarget (s := s.upsertTarget _) h (followRequest_user rfl · _ _ _) hother
  | followBoard followerDid remoteNodeId boardId boardSlug actorUri inboxUri displayName =>
    have hother := not_and.1 hother rfl
    change Revoked (s.followBoard ids followerDid remoteNodeId boardId boardSlug actorUri inboxUri
      displayName now).1 _
    change (s.followBoard ids followerDid remoteNodeId boardId boardSlug actorUri inboxUri
      displayName now).2 ≠ _ at hother
    unfold FollowStore.followBoard at hother ⊢
    split_ifs at hother ⊢ with hboard
    · exact h
    · have hasked := followRequest_board (s.boardTarget ids remoteNodeId boardId boardSlug
        actorUri inboxUri displayName now) rfl rfl hboard
      dsimp only at hother ⊢
      generalize s.boardTarget ids remoteNodeId boardId boardSlug actorUri inboxUri displayName
        now = target at hasked hother ⊢
      cases remoteNodeId with
      | none =>
        exact Revoked.followTarget (s := s.upsertTarget target) h (hasked · _ _ _) hother
      | some remoteNodeId =>
        exact Revoked.followTarget (s := (s.upsertTarget target).toggleSync remoteNodeId boardId
          true) h (hasked · _ _ _) hother
  -- an answer is permitted for an edge that is not revoked only
  | acceptFollow followerDid targetId actorDid => exact h.answered _ _ _ _ _ hrequest
  | rejectFollow followerDid targetId actorDid => exact h.answered _ _ _ _ _ hrequest
  | blockTarget followerDid targetId actorDid =>
    -- blocking and unfollowing write statuses that are revoked
    show Revoked (s.transitionFollow ids followerDid targetId actorDid .blocked .followBlocked
      now).1 followId
    rcases s.transitionFollow_cases ids followerDid targetId actorDid .blocked .followBlocked now
      with ⟨-, heq⟩ | ⟨edge, -, hedges, -⟩
    · rw [heq]
      exact h
    · intro e he
      rw [hedges] at he
      exact h.updateEdgeStatus (fun _ => rfl) e he
  | unfollow followerDid targetId =>
    show Revoked (s.unfollow ids followerDid targetId now).1 followId
    rcases s.unfollow_cases ids followerDid targetId now with heq | ⟨edge, -, _, -, hedges, -⟩
    · rw [heq]
      exact h
    · intro e he
      rw [hedges] at he
      exact h.updateEdgeStatus (fun _ => rfl) e he
  | retryFollow followerDid targetId =>
    show Revoked (s.retryFollow ids followerDid targetId now).1 followId
    rw [FollowStore.retryFollow_eq_self hinv.edges.live]
    exact h

/-! ### Runs -/

theorem followInv_after {run : List FollowCall}
    (h : Along FollowStore.next FollowStore.Permitted {} run) : FollowInv (FollowStore.after run) :=
  h.invariant (fun _ _ hinv hpermitted => hinv.call hpermitted) FollowInv.empty

/-- **Runs of permitted calls satisfy the law.**  An edge that is revoked and accepted later has a
step between that takes it out of that state; by the invariant on the queue this step is a new
request. -/
theorem follow_law {run : List FollowCall}
    (h : Along FollowStore.next FollowStore.Permitted {} run) : FollowLaw run where
  requested := by
    rintro before during later rfl edge hedge hrevoked edge' hedge' hid haccepted
    rw [List.append_assoc, along_append, along_append] at h
    have hbefore := followInv_after h.1
    -- at its first state the edge is revoked, at its last it is not
    have hstart : Revoked (FollowStore.after before) edge.followId := by
      intro e he heq
      rw [List.inj_on_of_nodup_map hbefore.edges.followIds he hedge heq]
      exact hrevoked
    have hend : ¬ Revoked (exec FollowStore.next (FollowStore.after before) during)
        edge.followId := by
      intro hend
      rw [FollowStore.after, exec_append] at hedge'
      have := hend edge' hedge' hid
      rw [haccepted] at this
      cases this
    obtain ⟨l, c, r, rfl, hl, hc⟩ :=
      exists_step_of_not (P := fun s => ¬ Revoked s edge.followId) (not_not_intro hstart) hend
    refine ⟨l, c, r, rfl, ?_⟩
    have hduring := along_append.1 h.2.1
    have hinv : FollowInv (exec FollowStore.next (FollowStore.after before) l) :=
      hduring.1.invariant (fun _ _ hinv hpermitted => hinv.call hpermitted) hbefore
    rw [FollowStore.after, exec_append]
    by_contra hother
    exact hc ((not_not.1 hl).call hinv hduring.2.1 hother)
  distinct := (followInv_after h).distinct

/-! ### Runs on one target -/

def toyCall (n : String) (request : FollowRequest) : FollowCall where
  request := request
  ids := { target := "t" ++ n, follow := "f" ++ n, outbox := "o" ++ n, event := "e" ++ n }
  now := 0

def toyFollow (n : String) : FollowCall :=
  toyCall n (.followUser "me" none (some "https://b") (some "https://b/inbox") "b")

/-- A request that is accepted, given up and answered in time. -/
def toyAnswered : List FollowCall :=
  [toyFollow "1", toyCall "2" (.acceptFollow "me" "t1" "b"), toyCall "3" (.unfollow "me" "t1"),
    toyCall "4" (.blockTarget "me" "t1" "me")]

theorem follow_law_toy :
    Along FollowStore.next FollowStore.Permitted {} toyAnswered ∧ FollowLaw toyAnswered := by
  have h : Along FollowStore.next FollowStore.Permitted {} toyAnswered := by decide +kernel
  exact ⟨h, follow_law h⟩

/-- A request that is given up before it is accepted, given up once more, and made again. -/
def toyLate : List FollowCall :=
  [toyFollow "1", toyCall "2" (.unfollow "me" "t1")] ++ [toyCall "3" (.acceptFollow "me" "t1" "b")]
    ++ [toyCall "4" (.unfollow "me" "t1"), toyFollow "5"]

/-- **The late answer makes an edge that the user cancelled an accepted one**, and what is sent
afterwards has the identifiers of what was sent before. -/
theorem late_answer_accepted : ¬ RequestedAgain toyLate ∧ ¬ DistinctActivities toyLate := by
  constructor
  · intro h
    have hedges : ∃ edge ∈ (FollowStore.after [toyFollow "1",
        toyCall "2" (.unfollow "me" "t1")]).edges, edge.status.revoked = true ∧
        ∃ edge' ∈ (FollowStore.after ([toyFollow "1", toyCall "2" (.unfollow "me" "t1")] ++
          [toyCall "3" (.acceptFollow "me" "t1" "b")])).edges,
          edge'.followId = edge.followId ∧ edge'.status = .accepted := by decide +kernel
    obtain ⟨edge, hedge, hrevoked, edge', hedge', hid, haccepted⟩ := hedges
    obtain ⟨l, c, r, hduring, hrequest, -⟩ :=
      h _ _ _ rfl edge hedge hrevoked edge' hedge' hid haccepted
    cases l with
    | nil =>
      rw [← (List.cons.inj hduring).1] at hrequest
      cases hrequest
    | cons x l => simp at hduring
  · unfold DistinctActivities
    decide +kernel

end Client

end Ansible
