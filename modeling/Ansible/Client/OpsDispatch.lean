import Ansible.Client.OpsQueue
import Ansible.Lib.Run
import Mathlib.Data.List.TakeWhile

/-!
# The dispatch of outgoing ops

A flush sends the pending ops one after the other and ends with the first one that neither
reaches the relay nor is refused for good.  That op becomes blocked, which takes it out of the
pending ones until somebody asks for another try.

## Main definitions

* `OpsDispatch.flushPending` — a flush.
* `Outbox`, `outboxStep` — the machine, with the ops in the order in which they were enqueued and
  in the order in which they were settled.

## Main results

* `outbox_in_order` — **ops are delivered in order exactly when every flush has them in turn.**
-/

namespace Ansible

/-! ### Replies -/

/-- What comes of sending an op.  A request that fails may have reached the relay all the same. -/
inductive RelayReply
  | accepted
  | refused (statusCode : ℕ) (error : Option String) (reached : Bool)
  /-- There is no reply that can be read. -/
  | failed (reached : Bool)
  deriving DecidableEq, Repr

namespace RelayOpsException

def isDuplicate (statusCode : ℕ) : Bool := statusCode == 409

def isPermanentRejection (statusCode : ℕ) (error : Option String) : Bool :=
  statusCode == 422 || error == some "invalid_signature" || statusCode == 409

def isPolicyBlock (statusCode : ℕ) : Bool := statusCode == 403

def isRetryable (statusCode : ℕ) : Bool :=
  statusCode == 408 || statusCode == 429 || decide (500 ≤ statusCode)

end RelayOpsException

namespace RelayReply

/-- The status that the op gets and whether the flush goes on; a refusal of no known kind ends it
and leaves the op as it is. -/
def outcome : RelayReply → Option OpsStatus × Bool
  | .accepted => (some .synced, true)
  | .refused statusCode error _ =>
    if RelayOpsException.isDuplicate statusCode then (some .synced, true)
    else if RelayOpsException.isPermanentRejection statusCode error then (some .rejected, true)
    else if RelayOpsException.isPolicyBlock statusCode then (some .blocked, false)
    else if RelayOpsException.isRetryable statusCode then (some .blocked, false)
    else (none, false)
  | .failed _ => (some .blocked, false)

/-- The relay has the op. -/
def delivers : RelayReply → Bool
  | .accepted => true
  | .refused statusCode _ reached => RelayOpsException.isDuplicate statusCode || reached
  | .failed reached => reached

/-- Whether the op is delivered, when it is settled. -/
def settles (r : RelayReply) : Option Bool :=
  if r.delivers then some true
  else if r.outcome.1 = some .rejected then some false
  else none

theorem settles_of_goesOn {r : RelayReply} (h : r.outcome.2 = true) : r.settles.isSome = true := by
  unfold settles
  split
  · rfl
  next hdelivers =>
  rw [if_pos]
  · rfl
  cases r with
  | accepted => exact absurd rfl hdelivers
  | failed reached => cases h
  | refused statusCode error reached =>
    rw [delivers, Bool.not_eq_true, Bool.or_eq_false_iff] at hdelivers
    unfold outcome at h ⊢
    dsimp only at h ⊢
    rw [hdelivers.1] at h ⊢
    rw [if_neg Bool.false_ne_true] at h ⊢
    split at h
    · next hrejected => rw [if_pos hrejected]
    split at h
    · cases h
    split at h <;> cases h

end RelayReply

/-! ### A flush -/

namespace OpsDispatch

/-- What a reply does to the row of its op. -/
def applyReply (now : Time) (opId : String) (r : RelayReply) (q : OpsQueue) : OpsQueue :=
  match r, r.outcome.1 with
  | .accepted, _ => (q.markSent now opId).mark .synced opId
  | _, some status => q.mark status opId
  | _, none => q

/-- The app is closed when the replies end. -/
def sendAll (now : Time) : List OpsQueueEntry → List RelayReply → OpsQueue → OpsQueue
  | e :: es, r :: rs, q =>
    let q := applyReply now e.opId r q
    if r.outcome.2 then sendAll now es rs q else q
  | _, _, q => q

def flushPending (now : Time) (limit : ℕ) (tie : String → ℕ) (replies : List RelayReply)
    (q : OpsQueue) : OpsQueue :=
  sendAll now (q.listPending tie limit) replies q

/-- The ops that the replies settle, with whether they are delivered. -/
def settlements : List OpsQueueEntry → List RelayReply → List (String × Bool)
  | e :: es, r :: rs =>
    (r.settles.map fun delivered => (e.opId, delivered)).toList ++
      if r.outcome.2 then settlements es rs else []
  | _, _ => []

theorem opIds_settlements (es : List OpsQueueEntry) (rs : List RelayReply) :
    (settlements es rs).map Prod.fst <+: es.map (·.opId) := by
  induction es generalizing rs with
  | nil =>
    cases rs <;> exact List.prefix_rfl
  | cons e es ih =>
    cases rs with
    | nil => exact List.nil_prefix
    | cons r rs =>
      rw [settlements]
      cases hgoes : r.outcome.2 with
      | true =>
        obtain ⟨delivered, hsettles⟩ :=
          Option.isSome_iff_exists.1 (RelayReply.settles_of_goesOn hgoes)
        rw [if_pos rfl, hsettles]
        exact List.prefix_cons_inj _ |>.2 (ih rs)
      | false =>
        rw [if_neg Bool.false_ne_true, List.append_nil]
        cases r.settles with
        | none => exact List.nil_prefix
        | some delivered => exact ⟨es.map (·.opId), rfl⟩

theorem opIds_modify (p : OpsQueueEntry → Bool) (f : OpsQueueEntry → OpsQueueEntry)
    (hf : ∀ e, (f e).opId = e.opId) (q : OpsQueue) :
    (q.modify p f hf).rows.map (·.opId) = q.rows.map (·.opId) := by
  rw [OpsQueue.modify, List.map_map]
  refine List.map_congr_left fun e _ => ?_
  rw [Function.comp_apply]
  split
  · exact hf e
  · rfl

theorem opIds_applyReply (now : Time) (opId : String) (r : RelayReply) (q : OpsQueue) :
    (applyReply now opId r q).rows.map (·.opId) = q.rows.map (·.opId) := by
  unfold applyReply
  split
  · rw [OpsQueue.mark, opIds_modify, OpsQueue.markSent, opIds_modify]
  · exact opIds_modify ..
  · rfl

theorem opIds_sendAll (now : Time) (es : List OpsQueueEntry) (rs : List RelayReply)
    (q : OpsQueue) : (sendAll now es rs q).rows.map (·.opId) = q.rows.map (·.opId) := by
  induction es generalizing rs q with
  | nil => cases rs <;> rfl
  | cons e es ih =>
    cases rs with
    | nil => rfl
    | cons r rs =>
      rw [sendAll]
      split
      · rw [ih, opIds_applyReply]
      · exact opIds_applyReply ..

end OpsDispatch

/-! ### The machine -/

/-- An op by its id and what it is about. -/
structure QueuedOp where
  opId : String
  entity : String × String
  deriving DecidableEq

/-- The queue, the ops as they were enqueued, and those that were settled, with whether the relay
got them. -/
structure Outbox where
  queue : OpsQueue
  enqueued : List QueuedOp
  settled : List (String × Bool)

inductive OutboxStep
  | enqueue (e : OpsQueueEntry)
  | flushPending (now : Time) (limit : ℕ) (tie : String → ℕ) (replies : List RelayReply)
  | retryBlocked

namespace Outbox

def empty : Outbox := ⟨OpsQueue.empty, [], []⟩

/-- An op that is enqueued again keeps its place. -/
def noteEnqueued (e : OpsQueueEntry) (enqueued : List QueuedOp) : List QueuedOp :=
  if enqueued.any (·.opId == e.opId) then enqueued else enqueued ++ [⟨e.opId, e.entity⟩]

/-- The ops of the entity that were enqueued before the op. -/
def enqueuedBefore (enqueued : List QueuedOp) (opId : String) : List String :=
  match enqueued.find? (·.opId == opId) with
  | none => []
  | some x => ((enqueued.takeWhile (·.opId != opId)).filter (·.entity == x.entity)).map (·.opId)

end Outbox

open Outbox OpsDispatch

def outboxStep (s : Outbox) : OutboxStep → Outbox
  | .enqueue e =>
    { s with queue := s.queue.enqueue e, enqueued := noteEnqueued e s.enqueued }
  | .flushPending now limit tie replies =>
    { s with
      queue := OpsDispatch.flushPending now limit tie replies s.queue
      settled := s.settled ++ settlements (s.queue.listPending tie limit) replies }
  | .retryBlocked => { s with queue := s.queue.retryBlocked }

/-- No op is delivered before the earlier ops of its entity are settled. -/
def InOrder (s : Outbox) : Prop :=
  ∀ n opId, s.settled[n]? = some (opId, true) →
    ∀ y ∈ enqueuedBefore s.enqueued opId, y ∈ (s.settled.take n).map Prod.fst

/-- Each op that the flush delivers has the earlier ones of its entity before it in the list of
the pending ops, but for those that are settled. -/
def FlushedInTurn (s : Outbox) : OutboxStep → Prop
  | .flushPending _ limit tie replies =>
    ∀ n opId, (settlements (s.queue.listPending tie limit) replies)[n]? = some (opId, true) →
      ∀ y ∈ enqueuedBefore s.enqueued opId, y ∈ s.settled.map Prod.fst ∨
        y ∈ ((s.queue.listPending tie limit).take n).map (·.opId)
  | _ => True

/-- What is settled and what is in the queue was enqueued. -/
structure OutboxSound (s : Outbox) : Prop where
  queue : ∀ e ∈ s.queue.rows, e.opId ∈ s.enqueued.map (·.opId)
  settled : ∀ x ∈ s.settled, x.1 ∈ s.enqueued.map (·.opId)

theorem mem_noteEnqueued (e : OpsQueueEntry) (enqueued : List QueuedOp) :
    e.opId ∈ (noteEnqueued e enqueued).map (·.opId) ∧
      ∀ x ∈ enqueued.map (·.opId), x ∈ (noteEnqueued e enqueued).map (·.opId) := by
  unfold noteEnqueued
  split
  · next h =>
    obtain ⟨x, hx, hid⟩ := List.any_eq_true.1 h
    exact ⟨List.mem_map.2 ⟨x, hx, beq_iff_eq.1 hid⟩, fun _ h => h⟩
  · rw [List.map_append]
    exact ⟨List.mem_append_right _ List.mem_cons_self, fun x hx => List.mem_append_left _ hx⟩

theorem enqueuedBefore_append {enqueued : List QueuedOp} {opId : String}
    (h : opId ∈ enqueued.map (·.opId)) (later : List QueuedOp) :
    enqueuedBefore (enqueued ++ later) opId = enqueuedBefore enqueued opId := by
  obtain ⟨x, hx, hid⟩ := List.mem_map.1 h
  have hfind : (enqueued.find? (·.opId == opId)).isSome = true :=
    List.find?_isSome.2 ⟨x, hx, beq_iff_eq.2 hid⟩
  obtain ⟨y, hy⟩ := Option.isSome_iff_exists.1 hfind
  have htake : (enqueued ++ later).takeWhile (·.opId != opId) =
      enqueued.takeWhile (·.opId != opId) := by
    have hlt : (enqueued.takeWhile (·.opId != opId)).length ≠ enqueued.length := by
      intro heq
      have hall := List.takeWhile_eq_self_iff.1
        ((List.takeWhile_prefix (·.opId != opId)).eq_of_length heq) x hx
      simp [hid] at hall
    rw [List.takeWhile_append, if_neg hlt]
  rw [enqueuedBefore, enqueuedBefore, List.find?_append, hy, htake]
  rfl

theorem enqueuedBefore_note {e : OpsQueueEntry} {enqueued : List QueuedOp} {opId : String}
    (h : opId ∈ enqueued.map (·.opId)) :
    enqueuedBefore (noteEnqueued e enqueued) opId = enqueuedBefore enqueued opId := by
  unfold noteEnqueued
  split
  · rfl
  · exact enqueuedBefore_append h _

theorem mem_enqueue {e x : OpsQueueEntry} {q : OpsQueue} (hx : x ∈ (q.enqueue e).rows) :
    x.opId = e.opId ∨ ∃ y ∈ q.rows, y.opId = x.opId := by
  unfold OpsQueue.enqueue at hx
  split at hx
  · rcases List.mem_append.1 hx with hx | hx
    · exact .inr ⟨x, hx, rfl⟩
    · rw [List.mem_singleton.1 hx]
      exact .inl rfl
  · obtain ⟨y, hy, rfl⟩ := List.mem_map.1 hx
    exact .inr ⟨y, hy, (OpsQueue.opId_overwrite e y).symm⟩

theorem OutboxSound.of_opIds {s : Outbox} (h : OutboxSound s) {q : OpsQueue}
    (hids : q.rows.map (·.opId) = s.queue.rows.map (·.opId)) :
    ∀ e ∈ q.rows, e.opId ∈ s.enqueued.map (·.opId) := by
  intro e he
  have hmem : e.opId ∈ s.queue.rows.map (·.opId) := hids ▸ List.mem_map_of_mem he
  obtain ⟨x, hx, hid⟩ := List.mem_map.1 hmem
  exact hid ▸ h.queue x hx

theorem OutboxSound.step {s : Outbox} (h : OutboxSound s) (a : OutboxStep) :
    OutboxSound (outboxStep s a) := by
  cases a with
  | enqueue e =>
    obtain ⟨hself, hold⟩ := mem_noteEnqueued e s.enqueued
    refine ⟨fun x hx => ?_, fun x hx => hold _ (h.settled x hx)⟩
    rcases mem_enqueue hx with heq | ⟨y, hy, heq⟩
    · exact heq ▸ hself
    · exact hold _ (heq ▸ h.queue y hy)
  | flushPending now limit tie replies =>
    refine ⟨h.of_opIds (opIds_sendAll ..), fun x hx => ?_⟩
    rcases List.mem_append.1 hx with hx | hx
    · exact h.settled x hx
    · have hmem := (opIds_settlements (s.queue.listPending tie limit) replies).subset
        (List.mem_map_of_mem hx)
      obtain ⟨e, he, hid⟩ := List.mem_map.1 hmem
      exact hid ▸ h.queue e (OpsQueue.mem_listWhere he).1
  | retryBlocked =>
    have hids := opIds_modify (·.status == .blocked) (fun e => { e with status := .pending })
      (fun _ => rfl) s.queue
    exact ⟨h.of_opIds hids, h.settled⟩

theorem outboxSound_empty : OutboxSound Outbox.empty :=
  ⟨by rintro e ⟨⟩, by rintro x ⟨⟩⟩

/-! ### The law -/

/-- The ops that a flush settles before one are those at the front of its list. -/
theorem take_settlements {es : List OpsQueueEntry} {rs : List RelayReply} {n : ℕ}
    (hn : n ≤ (settlements es rs).length) :
    ((settlements es rs).take n).map Prod.fst = (es.take n).map (·.opId) := by
  obtain ⟨rest, hrest⟩ := opIds_settlements es rs
  rw [List.map_take, List.map_take, ← hrest, List.take_append_of_le_length]
  rw [List.length_map]
  exact hn

theorem inOrder_flushPending (s : Outbox) (now : Time) (limit : ℕ) (tie : String → ℕ)
    (replies : List RelayReply) :
    InOrder (outboxStep s (.flushPending now limit tie replies)) ↔
      InOrder s ∧ FlushedInTurn s (.flushPending now limit tie replies) := by
  dsimp only [InOrder, FlushedInTurn, outboxStep]
  constructor
  · intro h
    constructor
    · intro n opId hn y hy
      have hlt : n < s.settled.length := (List.getElem?_eq_some_iff.1 hn).1
      have hmem := h n opId (by rw [List.getElem?_append_left hlt, hn]) y hy
      rwa [List.take_append_of_le_length hlt.le] at hmem
    · intro n opId hn y hy
      have hlt := (List.getElem?_eq_some_iff.1 hn).1
      have hmem := h (s.settled.length + n) opId
        (by rw [List.getElem?_append_right (Nat.le_add_right _ _),
          Nat.add_sub_cancel_left, hn]) y hy
      rw [List.take_length_add_append, List.map_append, List.mem_append,
        take_settlements hlt.le] at hmem
      exact hmem
  · rintro ⟨hold, hnew⟩ n opId hn y hy
    rcases Nat.lt_or_ge n s.settled.length with hlt | hge
    · rw [List.getElem?_append_left hlt] at hn
      rw [List.take_append_of_le_length hlt.le]
      exact hold n opId hn y hy
    · obtain ⟨m, rfl⟩ := Nat.exists_eq_add_of_le hge
      rw [List.getElem?_append_right hge, Nat.add_sub_cancel_left] at hn
      have hlt := (List.getElem?_eq_some_iff.1 hn).1
      rw [List.take_length_add_append, List.map_append, List.mem_append, take_settlements hlt.le]
      exact hnew m opId hn y hy

theorem inOrder_step {s : Outbox} (h : OutboxSound s) (a : OutboxStep) :
    InOrder (outboxStep s a) ↔ InOrder s ∧ FlushedInTurn s a := by
  cases a with
  | enqueue e =>
    have hbefore : ∀ n opId, s.settled[n]? = some (opId, true) →
        enqueuedBefore (noteEnqueued e s.enqueued) opId = enqueuedBefore s.enqueued opId :=
      fun n opId hn => enqueuedBefore_note (h.settled _ (List.mem_of_getElem? hn))
    constructor
    · intro hin
      exact ⟨fun n opId hn y hy => hin n opId hn y (hbefore n opId hn ▸ hy), trivial⟩
    · rintro ⟨hin, -⟩ n opId hn y hy
      exact hin n opId hn y (hbefore n opId hn ▸ hy)
  | flushPending now limit tie replies => exact inOrder_flushPending s now limit tie replies
  | retryBlocked => exact ⟨fun hin => ⟨hin, trivial⟩, fun hin => hin.1⟩

/-- An op on a post. -/
def toyEntry (opId : String) (opType : CrdtOpType) (createdAt : Time) : OpsQueueEntry where
  opId
  authorDid := "did:elix:a"
  entityType := "post"
  entityId := "post-1"
  opType
  payload := "e30="
  signature := "ff"
  createdAt

/-- The connection fails when the post is sent, and is there when the deletion is. -/
def overtaking : List OutboxStep :=
  [.enqueue (toyEntry "op-1" .insert (seconds 1)), .enqueue (toyEntry "op-2" .delete (seconds 2)),
    .flushPending (seconds 3) 25 (fun _ => 0) [.failed false],
    .flushPending (seconds 4) 25 (fun _ => 0) [.accepted]]

end Ansible
