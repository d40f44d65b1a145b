import Ansible.Client.FollowService
import Ansible.Client.OpsDispatch

/-!
# What a sync run enqueues

A run enqueues an insert for each published murmur and note that has no op yet, and inserts and
deletes that bring the published follows to those that the user wants.  What was published before
it reads off the oldest thousand rows of the queue, from which ops are pruned.

## Main definitions

* `AppSync.desired` — the follows that are to be published.
* `AppSync.latestFollow`, `followPlan` — what the rows say was published last, and what is to be
  enqueued.
* `AppSync.contentPlan` — the content without an op.
* `SyncState`, `syncStep` — the machine; `history` has every op that was ever enqueued.

## Main results

* `sync_publishes_once` — **follows converge and content is published once exactly when the
  window tells each run what was enqueued.**
-/

namespace Ansible

/-! ### What the user has -/

open Client (FollowEdge FollowTarget)

inductive ContentMode
  | murmur
  | note
  | post
  | discussion
  deriving DecidableEq, Repr

inductive ContentStatus
  | draft
  | active
  | archived
  | removed
  | rejected
  deriving DecidableEq, Repr

inductive ContentVisibility
  | isPrivate
  | unlisted
  | isPublic
  deriving DecidableEq, Repr

structure ContentItem where
  id : String
  authorDid : String
  mode : ContentMode
  status : ContentStatus
  visibility : ContentVisibility
  isDeleted : Bool
  localOnly : Bool
  deriving DecidableEq

/-- The table of content; its primary key is the id of the item. -/
abbrev ContentTable := Table ContentItem (UniqueOn (·.id) fun _ => true)

/-- The surroundings of the app. -/
structure AppConfig where
  followerDid : Option String
  /-- The identifiers that are drawn are not drawn again. -/
  uuid : ℕ → String
  uuid_injective : Function.Injective uuid
  /-- The payload and the signature of an op. -/
  build : String → String → CrdtOpType → Time → String × String

namespace AppSync

/-! ### Plans -/

/-- An op that is to be enqueued. -/
structure Planned where
  entityType : String
  entityId : String
  authorDid : String
  opType : CrdtOpType
  deriving DecidableEq

def publishable (followerDid : Option String) (item : ContentItem) : Bool :=
  (item.mode == .murmur || item.mode == .note) &&
    followerDid.all (fun did => item.authorDid == did) &&
    item.visibility != .isPrivate && !item.localOnly && item.status == .active && !item.isDeleted

def contentType (item : ContentItem) : String := if item.mode = .note then "note" else "murmur"

/-- Content of which no row speaks. -/
def contentPlan (followerDid : Option String) (items : List ContentItem)
    (rows : List OpsQueueEntry) : List Planned :=
  (items.filter fun item => publishable followerDid item &&
    !rows.any fun op => op.entityId == item.id).map fun item =>
      ⟨contentType item, item.id, item.authorDid, .insert⟩

/-- The identifier of the target of a follow. -/
def targetDid (targets : List FollowTarget) (edge : FollowEdge) : Option String :=
  ((targets.find? (·.targetId == edge.targetId)).bind fun t => t.did <|> t.canonicalUri).filter
    (· ≠ "")

/-- The targets of accepted federated follows, each one once. -/
def desired (edges : List FollowEdge) (targets : List FollowTarget) : List String :=
  ((edges.filter fun e => e.status == .accepted && e.visibility == .federated).filterMap
    (targetDid targets)).eraseDups

/-- The younger of two ops; of one second it is the one that is listed first. -/
def later (latest : Option OpsQueueEntry) (op : OpsQueueEntry) : Option OpsQueueEntry :=
  match latest with
  | none => some op
  | some previous => if previous.createdAt < op.createdAt then some op else some previous

/-- The latest follow op for a target among the rows. -/
def latestFollow (rows : List OpsQueueEntry) (did : String) : Option OpsQueueEntry :=
  (rows.filter fun op => op.entityType == "follow" && op.entityId == did).foldl later none

/-- The rows say that the target is followed. -/
def publishedFollow (rows : List OpsQueueEntry) (did : String) : Bool :=
  (latestFollow rows did).any (·.opType == .insert)

/-- The targets of which the rows speak. -/
def followedTargets (rows : List OpsQueueEntry) : List String :=
  ((rows.filter (·.entityType == "follow")).map (·.entityId)).eraseDups

def followPlan (followerDid : String) (wanted : List String) (rows : List OpsQueueEntry) :
    List Planned :=
  ((wanted.filter fun did => !publishedFollow rows did).map fun did =>
      ⟨"follow", did, followerDid, .insert⟩) ++
    ((followedTargets rows).filter fun did => publishedFollow rows did && !wanted.contains did).map
      fun did => ⟨"follow", did, followerDid, .delete⟩

/-- The rows that a run reads. -/
def windowSize : ℕ := 1000

theorem mem_followedTargets {rows : List OpsQueueEntry} {did : String}
    (h : publishedFollow rows did = true) : did ∈ followedTargets rows := by
  rw [followedTargets, List.mem_eraseDups, List.mem_map]
  by_contra hnone
  have hempty : rows.filter (fun op => op.entityType == "follow" && op.entityId == did) = [] := by
    rw [List.filter_eq_nil_iff]
    intro op hop hboth
    rw [Bool.and_eq_true, beq_iff_eq, beq_iff_eq] at hboth
    exact hnone ⟨op, List.mem_filter.2 ⟨hop, beq_iff_eq.2 hboth.1⟩, hboth.2⟩
  rw [publishedFollow, latestFollow, hempty] at h
  cases h

/-- Nothing is planned when what the rows say was published is what is wanted. -/
theorem followPlan_eq_nil {followerDid : String} {wanted : List String}
    {rows : List OpsQueueEntry} :
    followPlan followerDid wanted rows = [] ↔
      ∀ did, did ∈ wanted ↔ publishedFollow rows did = true := by
  rw [followPlan, List.append_eq_nil_iff, List.map_eq_nil_iff, List.map_eq_nil_iff,
    List.filter_eq_nil_iff, List.filter_eq_nil_iff]
  constructor
  · rintro ⟨hinserts, hdeletes⟩ did
    constructor
    · intro hdid
      have hnot := hinserts did hdid
      simpa using hnot
    · intro hpublished
      have hnot := hdeletes did (mem_followedTargets hpublished)
      simpa [hpublished] using hnot
  · intro hagree
    refine ⟨fun did hdid => ?_, fun did _ => ?_⟩
    · simp [(hagree did).1 hdid]
    · cases hpublished : publishedFollow rows did with
      | true => simp [(hagree did).2 hpublished]
      | false => simp

end AppSync

/-! ### The machine -/

structure SyncState where
  queue : OpsQueue
  /-- The follows of users, as the app lists them. -/
  edges : List FollowEdge
  targets : List FollowTarget
  items : ContentTable
  /-- How many identifiers were drawn. -/
  drawn : ℕ
  history : List OpsQueueEntry

inductive SyncStep
  | follows (edges : List FollowEdge) (targets : List FollowTarget)
  | contents (items : ContentTable)
  /-- The clock at each op, the order of rows of one second in each of the two reads, and how many
  signatures succeed in each of the two parts. -/
  | run (clock : ℕ → Time) (contentTie followTie : String → ℕ) (contentSigned followSigned : ℕ)
  /-- Another part of the app enqueues an op. -/
  | other (now : Time) (p : AppSync.Planned)
  | flushPending (now : Time) (limit : ℕ) (tie : String → ℕ) (replies : List RelayReply)
  | retryBlocked
  | pruneSynced (now : Time) (olderThanDays : ℤ)

namespace AppSync

def follower (C : AppConfig) : Option String := C.followerDid.filter (· ≠ "")

def runTypes : List String := ["follow", "murmur", "note"]

def entryOf (C : AppConfig) (n : ℕ) (now : Time) (p : Planned) : OpsQueueEntry where
  opId := C.uuid n
  authorDid := p.authorDid
  entityType := p.entityType
  entityId := p.entityId
  opType := p.opType
  payload := (C.build p.entityType p.entityId p.opType now).1
  signature := (C.build p.entityType p.entityId p.opType now).2
  createdAt := now

/-- `signAndEnqueue` -/
def enqueue (C : AppConfig) (now : Time) (p : Planned) (s : SyncState) : SyncState :=
  { s with
    queue := s.queue.enqueue (entryOf C s.drawn now p)
    drawn := s.drawn + 1
    history := s.history ++ [entryOf C s.drawn now p] }

def enqueueAll (C : AppConfig) (clock : ℕ → Time) : List Planned → SyncState → SyncState
  | [], s => s
  | p :: ps, s => enqueueAll C clock ps (enqueue C (clock s.drawn) p s)

def planContent (C : AppConfig) (tie : String → ℕ) (s : SyncState) : List Planned :=
  contentPlan C.followerDid s.items.rows (s.queue.listAll tie windowSize)

def planFollows (did : String) (tie : String → ℕ) (s : SyncState) : List Planned :=
  followPlan did (desired s.edges s.targets) (s.queue.listAll tie windowSize)

/-- `_enqueuePublicContentOps` -/
def enqueuePublicContentOps (C : AppConfig) (clock : ℕ → Time) (tie : String → ℕ) (signed : ℕ)
    (s : SyncState) : SyncState :=
  enqueueAll C clock ((planContent C tie s).take signed) s

/-- `_enqueueFederatedFollowOps` -/
def enqueueFederatedFollowOps (C : AppConfig) (clock : ℕ → Time) (tie : String → ℕ) (signed : ℕ)
    (s : SyncState) : SyncState :=
  match follower C with
  | none => s
  | some did => enqueueAll C clock ((planFollows did tie s).take signed) s

end AppSync

open AppSync

def syncStep (C : AppConfig) (s : SyncState) : SyncStep → SyncState
  | .follows edges targets => { s with edges, targets }
  | .contents items => { s with items }
  | .run clock contentTie followTie contentSigned followSigned =>
    enqueueFederatedFollowOps C clock followTie followSigned
      (enqueuePublicContentOps C clock contentTie contentSigned s)
  | .other now p => if p.entityType ∈ runTypes then s else AppSync.enqueue C now p s
  | .flushPending now limit tie replies =>
    { s with queue := OpsDispatch.flushPending now limit tie replies s.queue }
  | .retryBlocked => { s with queue := s.queue.retryBlocked }
  | .pruneSynced now olderThanDays => { s with queue := s.queue.pruneSynced now olderThanDays }

namespace SyncState

def empty : SyncState := ⟨OpsQueue.empty, [], [], ⟨[], List.nodup_nil⟩, 0, []⟩

end SyncState

/-! ### The law -/

/-- The last op that was enqueued for the target is an insert. -/
def followed (history : List OpsQueueEntry) (did : String) : Bool :=
  (history.filter fun op => op.entityType == "follow" && op.entityId == did).getLast?.any
    (·.opType == .insert)

/-- The run finds nothing to enqueue. -/
def NothingLeft (C : AppConfig) (did : String) (contentTie followTie : String → ℕ)
    (s : SyncState) : Prop :=
  planContent C contentTie s = [] ∧ planFollows did followTie s = []

/-- When a run finds nothing to enqueue, the published follows are those that are wanted. -/
def Converged (C : AppConfig) (s : SyncState) : SyncStep → Prop
  | .run clock contentTie followTie contentSigned followSigned =>
    ∀ did ∈ follower C, NothingLeft C did contentTie followTie s →
      let t := syncStep C s (.run clock contentTie followTie contentSigned followSigned)
      ∀ target, followed t.history target = true ↔ target ∈ desired t.edges t.targets
  | _ => True

def contentInserts (history : List OpsQueueEntry) : List String :=
  (history.filter fun op =>
    (op.entityType == "murmur" || op.entityType == "note") && op.opType == .insert).map (·.entityId)

/-- No content was published twice. -/
def InsertsOnce (s : SyncState) : Prop := (contentInserts s.history).Nodup

/-- The rows that a run reads know of all content that was published. -/
def ContentKnown (C : AppConfig) (s : SyncState) : SyncStep → Prop
  | .run _ contentTie _ contentSigned _ =>
    ∀ p ∈ (planContent C contentTie s).take contentSigned, p.entityId ∉ contentInserts s.history
  | _ => True

/-- When a run finds nothing to enqueue, the rows that it reads are right about the last op for
each target. -/
def FollowsKnown (C : AppConfig) (s : SyncState) : SyncStep → Prop
  | .run _ contentTie followTie _ _ =>
    ∀ did ∈ follower C, NothingLeft C did contentTie followTie s →
      ∀ target, publishedFollow (s.queue.listAll followTie windowSize) target =
        followed s.history target
  | _ => True

/-- The rows that a run reads tell what was enqueued. -/
def WindowTells (C : AppConfig) (s : SyncState) (a : SyncStep) : Prop :=
  FollowsKnown C s a ∧ ContentKnown C s a

/-- A run that finds nothing to enqueue changes nothing. -/
theorem run_of_nothingLeft {C : AppConfig} {did : String} (hdid : follower C = some did)
    {contentTie followTie : String → ℕ} {s : SyncState}
    (h : NothingLeft C did contentTie followTie s) (clock : ℕ → Time)
    (contentSigned followSigned : ℕ) :
    syncStep C s (.run clock contentTie followTie contentSigned followSigned) = s := by
  rw [syncStep, enqueuePublicContentOps, h.1, List.take_nil, enqueueAll,
    enqueueFederatedFollowOps, hdid]
  dsimp only
  rw [h.2, List.take_nil, enqueueAll]

variable (C : AppConfig) (s : SyncState)

theorem converged_iff (a : SyncStep) : Converged C s a ↔ FollowsKnown C s a := by
  cases a with
  | run clock contentTie followTie contentSigned followSigned =>
    dsimp only [Converged, FollowsKnown]
    refine forall_congr' fun did => forall_congr' fun hdid => forall_congr' fun hnothing => ?_
    have hplan := followPlan_eq_nil.1 hnothing.2
    have hrun := run_of_nothingLeft hdid hnothing clock contentSigned followSigned
    rw [hrun]
    refine forall_congr' fun target => ?_
    rw [hplan target]
    exact ⟨fun h => Bool.eq_iff_iff.2 h.symm, fun h => (Bool.eq_iff_iff.1 h).symm⟩
  | _ => exact Iff.rfl

/-! ### Content -/

theorem contentInserts_append (history more : List OpsQueueEntry) :
    contentInserts (history ++ more) = contentInserts history ++ contentInserts more := by
  rw [contentInserts, List.filter_append, List.map_append, ← contentInserts, ← contentInserts]

/-- The content that a plan inserts. -/
def insertsOf (ps : List Planned) : List String :=
  (ps.filter fun p => (p.entityType == "murmur" || p.entityType == "note") &&
    p.opType == .insert).map (·.entityId)

theorem contentInserts_enqueue (now : Time) (p : Planned) (s : SyncState) :
    contentInserts (AppSync.enqueue C now p s).history =
      contentInserts s.history ++ insertsOf [p] := by
  rw [AppSync.enqueue, contentInserts_append]
  congr 1
  rw [contentInserts, insertsOf, List.filter_singleton, List.filter_singleton]
  dsimp only [entryOf]
  cases (p.entityType == "murmur" || p.entityType == "note") && p.opType == .insert <;> rfl

theorem contentInserts_enqueueAll (clock : ℕ → Time) (ps : List Planned) (s : SyncState) :
    contentInserts (enqueueAll C clock ps s).history =
      contentInserts s.history ++ insertsOf ps := by
  induction ps generalizing s with
  | nil => exact (List.append_nil _).symm
  | cons p ps ih =>
    rw [enqueueAll, ih, contentInserts_enqueue, List.append_assoc]
    congr 1
    rw [insertsOf, insertsOf, insertsOf, ← List.map_append, ← List.filter_append]
    rfl

theorem insertsOf_contentPlan {followerDid : Option String} {items : List ContentItem}
    {rows : List OpsQueueEntry} {ps : List Planned}
    (hps : ps.Sublist (contentPlan followerDid items rows)) :
    insertsOf ps = ps.map (·.entityId) := by
  rw [insertsOf, List.filter_eq_self.2]
  intro p hp
  obtain ⟨item, -, rfl⟩ := List.mem_map.1 (hps.subset hp)
  dsimp only [contentType]
  split <;> rfl

theorem insertsOf_followPlan {did : String} {wanted : List String} {rows : List OpsQueueEntry}
    {ps : List Planned} (hps : ps.Sublist (followPlan did wanted rows)) : insertsOf ps = [] := by
  rw [insertsOf, List.filter_eq_nil_iff.2, List.map_nil]
  intro p hp
  have htype : p.entityType = "follow" := by
    rcases List.mem_append.1 (hps.subset hp) with hp | hp
    · obtain ⟨did, -, rfl⟩ := List.mem_map.1 hp
      rfl
    · obtain ⟨did, -, rfl⟩ := List.mem_map.1 hp
      rfl
  rw [htype]
  simp

theorem nodup_contentPlan (followerDid : Option String) (items : ContentTable)
    (rows : List OpsQueueEntry) :
    ((contentPlan followerDid items.rows rows).map (·.entityId)).Nodup := by
  have hids : (items.rows.map (·.id)).Nodup := by
    have hvalid := items.valid
    rwa [UniqueOn, List.filter_true] at hvalid
  rw [contentPlan, List.map_map]
  exact hids.sublist (List.filter_sublist.map _)

theorem contentInserts_run (clock : ℕ → Time) (contentTie followTie : String → ℕ)
    (contentSigned followSigned : ℕ) (s : SyncState) :
    contentInserts
        (syncStep C s (.run clock contentTie followTie contentSigned followSigned)).history =
      contentInserts s.history ++
        ((planContent C contentTie s).take contentSigned).map (·.entityId) := by
  have hcontent : contentInserts
      (enqueuePublicContentOps C clock contentTie contentSigned s).history =
        contentInserts s.history ++
          ((planContent C contentTie s).take contentSigned).map (·.entityId) := by
    rw [enqueuePublicContentOps, contentInserts_enqueueAll, planContent,
      insertsOf_contentPlan (List.take_sublist _ _)]
  rw [syncStep, enqueueFederatedFollowOps]
  split
  · exact hcontent
  · rw [contentInserts_enqueueAll, planFollows, insertsOf_followPlan (List.take_sublist _ _),
      List.append_nil, hcontent]

theorem insertsOnce_step (a : SyncStep) :
    InsertsOnce (syncStep C s a) ↔ InsertsOnce s ∧ ContentKnown C s a := by
  cases a with
  | run clock contentTie followTie contentSigned followSigned =>
    have hplan : (((planContent C contentTie s).take contentSigned).map (·.entityId)).Nodup :=
      (nodup_contentPlan ..).sublist ((List.take_sublist _ _).map _)
    rw [InsertsOnce, contentInserts_run, List.nodup_append, InsertsOnce, ContentKnown]
    constructor
    · rintro ⟨hold, -, hdisjoint⟩
      refine ⟨hold, fun p hp hmem => ?_⟩
      exact hdisjoint _ hmem _ (List.mem_map_of_mem hp) rfl
    · rintro ⟨hold, hknown⟩
      refine ⟨hold, hplan, fun x hx y hy heq => ?_⟩
      obtain ⟨p, hp, rfl⟩ := List.mem_map.1 hy
      exact hknown p hp (heq ▸ hx)
  | other now p =>
    rw [InsertsOnce, syncStep]
    split
    · exact ⟨fun h => ⟨h, trivial⟩, fun h => h.1⟩
    next hother =>
    have hnone : insertsOf [p] = [] := by
      rw [insertsOf, List.filter_eq_nil_iff.2, List.map_nil]
      intro q hq
      rw [List.mem_singleton.1 hq]
      rw [runTypes] at hother
      simp only [List.mem_cons, not_or] at hother
      simp [hother.2.1, hother.2.2.1]
    rw [contentInserts_enqueue, hnone, List.append_nil]
    exact ⟨fun h => ⟨h, trivial⟩, fun h => h.1⟩
  | _ => exact ⟨fun h => ⟨h, trivial⟩, fun h => h.1⟩

def toyApp : AppConfig where
  followerDid := some "did:elix:a"
  uuid n := String.ofList (List.replicate n 'x')
  uuid_injective m n h := by
    have hlen := congrArg (fun s => s.toList.length) h
    simpa using hlen
  build _ _ _ _ := ("e30=", "ff")

def runAt (now : Time) : SyncStep := .run (fun _ => now) (fun _ => 0) (fun _ => 0) 25 25

def toyFollows : SyncStep :=
  .follows
    [{ followId := "f1", followerDid := "did:elix:a", targetId := "t1", targetType := .user
       direction := .outbound, status := .accepted, visibility := .federated
       createdAt := 0, updatedAt := 0 }]
    [{ targetId := "t1", targetType := .user, canonicalUri := none, displayName := ""
       did := some "did:elix:b", actorUri := none, inboxUri := none
       createdAt := 0, updatedAt := 0 }]

/-- The clock is set back between a follow and its end, and the follow is taken up again. -/
def refollowed : List SyncStep :=
  [toyFollows, runAt (seconds 100), .follows [] [], runAt (seconds 50), toyFollows]

end Ansible
