import Ansible.AppView.OpVerification
import Ansible.Relay.OpsIdentity
import Ansible.Relay.PostingGate

/-!
# The delta of the op log

A page of the log goes out with what the relay knows of each author at that moment: the key, the
canonical DID and the tier are looked up when the page is read and not when the op was accepted.
The moderators' effects are laid over the page in the same way.

## Main definitions

* `OpsController.signingPayload` — the text that the author of an op has signed.
* `OpsController.Attached`, `attachPublicKey` — what is looked up for the author of an op.
* `OpsController.delta` — the page after a cursor.

## Main results

* `OpsController.Served.of_delta` — **the ops of a page are those of rows between its cursors.**
-/

namespace Ansible

/-- The ops with their log ids, which are their places in the log. -/
def Deployment.rows (s : Deployment) : List (OpStore.Op × ℕ) := s.ops.zipIdx 1

/-- `OpStore.list`: the first rows above a cursor. -/
def Deployment.list (cursor limit : ℕ) (s : Deployment) : List (OpStore.Op × ℕ) :=
  (s.rows.filter fun r => decide (cursor < r.2)).take limit

namespace OpsController

/-- `signing_payload` -/
def signingPayload (op : OpStore.Op) : Text :=
  AppView.canonicalJson (.obj [("author_did", .str op.authorDid), ("entity_id", .str op.entityId),
    ("entity_type", .str op.entityType), ("op_id", .str op.opId), ("op_type", .str op.opType),
    ("payload", .str op.payload)])

/-! ### Attachments -/

/-- What the relay knows of an author when an op is read. -/
structure Attached where
  publicKeyHex : Option String
  signingAlgorithm : String
  canonicalAuthorDid : String
  reputationTier : String
  deriving DecidableEq, Repr

def attachPublicKey (now : Time) (did : String) (s : Relay) : Attached × Relay :=
  let (entry, s) := IdentityCache.get now did s
  let (keyed, s) := IdentityCache.get now did s
  let canonical := s.canonicalDid did
  let (tier, s) := PostingGate.reputationTier did s
  (⟨keyed.map (·.publicKeyHex), entry.elim "ed25519" (·.signingAlgorithm), canonical, tier⟩, s)

/-- The attachments of the rows, one after the other. -/
def attachAll (now : Time) :
    List (OpStore.Op × ℕ) → Relay → List ((OpStore.Op × ℕ) × Attached) × Relay
  | [], s => ([], s)
  | r :: rs, s =>
    let (a, s) := attachPublicKey now r.1.authorDid s
    let (rest, s) := attachAll now rs s
    ((r, a) :: rest, s)

/-! ### Visible ops -/

/-- An op of a board that is not readable for all is left out of the public delta. -/
def publicOp (C : HostConfig) (now : Time) (op : OpStore.Op) (h : ForumHost) : Bool × ForumHost :=
  match (decodeText op.payload).filter Json.isObj with
  | none => (true, h)
  | some decoded =>
    match ForumHost.getBoard C now (boardIdOf decoded) h with
    | (none, h) => (true, h)
    | (some board, h) =>
      (board.contentVisibility == .isPublic &&
        ((board.accessPolicy.fetch "read").fetch "requirement").eqv (.str "public"), h)

def publicOps (C : HostConfig) (now : Time) :
    List (OpStore.Op × ℕ) → ForumHost → List (OpStore.Op × ℕ) × ForumHost
  | [], h => ([], h)
  | r :: rs, h =>
    let (visible, h) := publicOp C now r.1 h
    let (rest, h) := publicOps C now rs h
    (if visible then r :: rest else rest, h)

/-! ### The page after a cursor -/

/-- An op as the AppView receives it. -/
def served (h : ForumHost) (r : OpStore.Op × ℕ) (a : Attached) : AppView.Op :=
  let o := Moderation.overlayOp h r.1
  { logId := r.2
    opId := r.1.opId
    authorDid := r.1.authorDid
    entityType := r.1.entityType
    entityId := r.1.entityId
    opType := r.1.opType
    payload := o.payload.elim .null .str
    signature := o.signature
    publicKeyHex := a.publicKeyHex
    signingAlgorithm := some a.signingAlgorithm
    canonicalAuthorDid := some a.canonicalAuthorDid
    reputationTier := some a.reputationTier
    receivedAt := some r.1.receivedAt
    removed := o.removed.isSome }

structure DeltaPage where
  ops : List AppView.Op
  nextCursor : ℕ
  hasMore : Bool

def delta (C : HostConfig) (now : Time) (cursor limit : ℕ) (s : Deployment) :
    DeltaPage × Deployment :=
  let limit := min limit 500
  -- one extra row tells whether there are more
  let listed := s.list cursor (limit + 1)
  let scanned := listed.take limit
  let (visible, host) := publicOps C now scanned s.host
  let (attached, relay) := attachAll now visible s.relay
  ({ ops := attached.map fun r => served host r.1 r.2
     nextCursor := scanned.getLast?.elim cursor (·.2)
     hasMore := decide (limit < listed.length) }, { s with relay, host })

/-! ### What is served -/

/-- What a served op takes over from its row, the text of which is gone when it is removed. -/
structure ServedFrom (r : OpStore.Op × ℕ) (op : AppView.Op) : Prop where
  logId : op.logId = r.2
  opId : op.opId = r.1.opId
  authorDid : op.authorDid = r.1.authorDid
  entityType : op.entityType = r.1.entityType
  entityId : op.entityId = r.1.entityId
  opType : op.opType = r.1.opType
  receivedAt : op.receivedAt = some r.1.receivedAt
  text : op.removed = false → op.payload = .str r.1.payload ∧ op.signature = some r.1.signature

theorem servedFrom_served (h : ForumHost) (r : OpStore.Op × ℕ) (a : Attached) :
    ServedFrom r (served h r a) := by
  refine ⟨rfl, rfl, rfl, rfl, rfl, rfl, rfl, fun hremoved => ?_⟩
  unfold served at hremoved ⊢
  unfold Moderation.overlayOp at hremoved ⊢
  split at hremoved
  · cases hremoved
  · exact ⟨rfl, rfl⟩

variable (C : HostConfig) (now : Time) (cursor : ℕ) (s : Deployment) (limit : ℕ)

theorem attachAll_rows (rs : List (OpStore.Op × ℕ)) (s : Relay) :
    (attachAll now rs s).1.map Prod.fst = rs := by
  induction rs generalizing s with
  | nil => rfl
  | cons r rs ih =>
    rw [attachAll]
    exact congrArg (r :: ·) (ih _)

theorem publicOps_sublist (rs : List (OpStore.Op × ℕ)) (h : ForumHost) :
    ((publicOps C now rs h).1).Sublist rs := by
  induction rs generalizing h with
  | nil => exact .slnil
  | cons r rs ih =>
    rw [publicOps]
    dsimp only
    split
    · exact (ih _).cons_cons r
    · exact (ih _).cons r

/-- A page changes caches and access policies only. -/
@[simp] theorem delta_ops (s : Deployment) :
    (delta C now cursor limit s).2.ops = s.ops := rfl

/-! ### Cursors -/

theorem rows_snd : s.rows.map Prod.snd = List.range' 1 s.ops.length :=
  List.zipIdx_map_snd 1 s.ops

theorem rows_sorted : s.rows.Pairwise fun r r' => r.2 < r'.2 := by
  have h := List.pairwise_lt_range' (s := 1) (n := s.ops.length)
  rw [← rows_snd, List.pairwise_map] at h
  exact h

theorem rows_append (op : OpStore.Op) :
    ({ s with ops := s.ops ++ [op] } : Deployment).rows = s.rows ++ [(op, s.ops.length + 1)] := by
  rw [Deployment.rows, List.zipIdx_append, List.zipIdx_singleton, Nat.add_comm 1]
  rfl

theorem list_sublist (s : Deployment) : (s.list cursor limit).Sublist s.rows :=
  (List.take_sublist _ _).trans List.filter_sublist

theorem lt_of_mem_list {cursor limit : ℕ} {s : Deployment} {r : OpStore.Op × ℕ}
    (h : r ∈ s.list cursor limit) : cursor < r.2 :=
  of_decide_eq_true (List.mem_filter.1 (List.mem_of_mem_take h)).2

theorem le_getLast {l : List (OpStore.Op × ℕ)} (h : l.Pairwise fun r r' => r.2 < r'.2) {d : ℕ}
    {r : OpStore.Op × ℕ} (hr : r ∈ l) : r.2 ≤ l.getLast?.elim d (·.2) := by
  rcases List.eq_nil_or_concat l with rfl | ⟨init, last, rfl⟩
  · cases hr
  rw [List.concat_eq_append] at h hr ⊢
  rw [List.getLast?_append, List.getLast?_singleton]
  rcases List.mem_append.1 hr with hr | hr
  · exact ((List.pairwise_append.1 h).2.2 r hr last (List.mem_singleton.2 rfl)).le
  · rw [List.mem_singleton.1 hr]
    exact le_rfl

/-- The ops of a page: of which rows they are, and between which cursors. -/
structure Served (s : Deployment) (cursor nextCursor : ℕ) (ops : List AppView.Op) : Prop where
  row : ∀ op ∈ ops, ∃ r ∈ s.rows, ServedFrom r op
  above : ∀ op ∈ ops, (cursor : ℤ) < op.logId
  upto : ∀ op ∈ ops, op.logId ≤ nextCursor
  nodup : (ops.map (·.logId)).Nodup

theorem exists_served_of_mem_delta {C : HostConfig} {now : Time} {cursor limit : ℕ}
    {s : Deployment} {op : AppView.Op} (h : op ∈ (delta C now cursor limit s).1.ops) :
    ∃ r ∈ s.rows, ∃ host a, op = served host r a := by
  unfold delta at h
  dsimp only at h
  obtain ⟨x, hx, rfl⟩ := List.mem_map.1 h
  refine ⟨x.1, ?_, _, x.2, rfl⟩
  have hx := List.mem_map_of_mem (f := Prod.fst) hx
  rw [attachAll_rows] at hx
  exact (list_sublist _ _ s).subset
    (List.mem_of_mem_take ((publicOps_sublist C now _ s.host).subset hx))

theorem signature_of_removed {h : ForumHost} {r : OpStore.Op × ℕ} {a : Attached}
    (hremoved : (served h r a).removed = true) : (served h r a).signature = none := by
  unfold served Moderation.overlayOp at hremoved ⊢
  split at hremoved
  · rfl
  · cases hremoved

/-- **The ops of a page are those of rows between its cursors.** -/
theorem Served.of_delta (s : Deployment) :
    Served s cursor (delta C now cursor limit s).1.nextCursor
      (delta C now cursor limit s).1.ops := by
  have hrow : ∀ op ∈ (delta C now cursor limit s).1.ops, ∃ r ∈ s.rows, ServedFrom r op := by
    intro op hop
    obtain ⟨r, hr, host, a, rfl⟩ := exists_served_of_mem_delta hop
    exact ⟨r, hr, servedFrom_served host r a⟩
  revert hrow
  unfold delta
  dsimp only
  generalize hscanned : (s.list cursor (min limit 500 + 1)).take (min limit 500) = scanned
  have hlist : scanned.Sublist (s.list cursor (min limit 500 + 1)) :=
    hscanned ▸ List.take_sublist ..
  have hsorted := (rows_sorted s).sublist (hlist.trans (list_sublist _ _ s))
  have hvisible := publicOps_sublist C now scanned s.host
  generalize publicOps C now scanned s.host = visible at hvisible
  have hrows := attachAll_rows now visible.1 s.relay
  generalize attachAll now visible.1 s.relay = attached at hrows
  have hmem : ∀ r ∈ attached.1, r.1 ∈ scanned := fun r hr =>
    hvisible.subset (hrows ▸ List.mem_map_of_mem hr)
  intro hrow
  refine ⟨hrow, fun op hop => ?_, fun op hop => ?_, ?_⟩
  · obtain ⟨r, hr, rfl⟩ := List.mem_map.1 hop
    exact Int.ofNat_lt.2 (lt_of_mem_list (hlist.subset (hmem r hr)))
  · obtain ⟨r, hr, rfl⟩ := List.mem_map.1 hop
    exact Int.ofNat_le.2 (le_getLast hsorted (hmem r hr))
  · have hids : (attached.1.map fun r => served visible.2 r.1 r.2).map (·.logId)
        = visible.1.map fun r => (r.2 : ℤ) := by
      rw [← hrows, List.map_map, List.map_map]
      rfl
    rw [hids]
    have hnodup : (visible.1.map Prod.snd).Nodup :=
      List.Pairwise.imp ne_of_lt (List.pairwise_map.2 (hsorted.sublist hvisible))
    have hcast := hnodup.map (f := fun i : ℕ => (i : ℤ)) fun i j h => Int.ofNat.inj h
    rwa [List.map_map] at hcast

end OpsController

end Ansible
