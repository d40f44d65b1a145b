import Ansible.Lib.Table
import Ansible.Relay.SigVerifier
import Mathlib.Data.List.Sort

/-!
# The queue of outgoing ops

The app keeps the ops that it has written in a table of its own until the relay has them.  The
table stores instants in whole seconds, and lists its rows by them.

## Main definitions

* `OpsQueueEntry`, `OpsQueue` — the rows and the table.
* `OpsQueue.enqueue` — a row is added, or written over the row with its id.
* `OpsQueue.listPending`, `listAll` — the oldest rows, up to a limit.
* `OpsQueue.mark`, `retryBlocked`, `pruneSynced` — the other writes.
-/

namespace Ansible

inductive OpsStatus
  | pending
  | blocked
  | sent
  | synced
  | rejected
  deriving DecidableEq, Repr

inductive CrdtOpType
  | insert
  | update
  | delete
  | crdtMerge
  deriving DecidableEq, Repr

/-- An op with what became of it. -/
structure OpsQueueEntry where
  opId : String
  authorDid : String
  entityType : String
  entityId : String
  opType : CrdtOpType
  payload : String
  signature : String
  status : OpsStatus := .pending
  createdAt : Time
  sentAt : Option Time := none
  deriving DecidableEq

/-- What the op is about. -/
def OpsQueueEntry.entity (e : OpsQueueEntry) : String × String := (e.entityType, e.entityId)

/-- The table; its primary key is the id of the op. -/
abbrev OpsQueue := Table OpsQueueEntry (UniqueOn (·.opId) fun _ => true)

namespace OpsQueue

def empty : OpsQueue := ⟨[], List.nodup_nil⟩

/-- An instant as the database keeps it. -/
def wholeSeconds (t : Time) : Time := seconds (Int.tdiv t 1000000)

def rowOf (e : OpsQueueEntry) : OpsQueueEntry :=
  { e with createdAt := wholeSeconds e.createdAt, sentAt := e.sentAt.map wholeSeconds }

@[simp] theorem opId_rowOf (e : OpsQueueEntry) : (rowOf e).opId = e.opId := rfl

/-- The row with the id of the entry takes its values. -/
def overwrite (e r : OpsQueueEntry) : OpsQueueEntry := if r.opId = e.opId then rowOf e else r

@[simp] theorem opId_overwrite (e r : OpsQueueEntry) : (overwrite e r).opId = r.opId := by
  unfold overwrite
  split
  · next h => rw [h, opId_rowOf]
  · rfl

/-- `insertOnConflictUpdate` -/
def enqueue (e : OpsQueueEntry) (q : OpsQueue) : OpsQueue :=
  if h : ∀ r ∈ q.rows, r.opId ≠ e.opId then ⟨q.rows ++ [rowOf e], q.valid.append_new h⟩
  else ⟨q.rows.map (overwrite e), q.valid.map (opId_overwrite e) fun _ _ => rfl⟩

/-- The order of the lists; rows of one second come as the database has them. -/
def Before (tie : String → ℕ) (a b : OpsQueueEntry) : Prop :=
  a.createdAt < b.createdAt ∨ a.createdAt = b.createdAt ∧ tie a.opId ≤ tie b.opId

instance (tie : String → ℕ) : DecidableRel (Before tie) := fun _ _ =>
  inferInstanceAs (Decidable (_ ∨ _))

def listWhere (p : OpsQueueEntry → Bool) (tie : String → ℕ) (limit : ℕ) (q : OpsQueue) :
    List OpsQueueEntry :=
  ((q.rows.filter p).insertionSort (Before tie)).take limit

def listPending (tie : String → ℕ) (limit : ℕ) (q : OpsQueue) : List OpsQueueEntry :=
  listWhere (fun e => e.status == .pending) tie limit q

def listAll (tie : String → ℕ) (limit : ℕ) (q : OpsQueue) : List OpsQueueEntry :=
  listWhere (fun _ => true) tie limit q

/-- An update of rows that keeps their ids. -/
def modify (p : OpsQueueEntry → Bool) (f : OpsQueueEntry → OpsQueueEntry)
    (hf : ∀ e, (f e).opId = e.opId) (q : OpsQueue) : OpsQueue where
  rows := q.rows.map fun e => if p e then f e else e
  valid := q.valid.map (fun e => by split; exacts [hf e, rfl]) fun _ _ => rfl

def markSent (now : Time) (opId : String) (q : OpsQueue) : OpsQueue :=
  q.modify (·.opId == opId) (fun e => { e with status := .sent, sentAt := some (wholeSeconds now) })
    fun _ => rfl

/-- `markSynced`, `markRejected` and `markBlocked` -/
def mark (status : OpsStatus) (opId : String) (q : OpsQueue) : OpsQueue :=
  q.modify (·.opId == opId) (fun e => { e with status }) fun _ => rfl

def retryBlocked (q : OpsQueue) : OpsQueue :=
  q.modify (·.status == .blocked) (fun e => { e with status := .pending }) fun _ => rfl

/-- Ops that the relay has are dropped after some days. -/
def pruneSynced (now : Time) (olderThanDays : ℤ) (q : OpsQueue) : OpsQueue :=
  let cutoff := wholeSeconds (now - seconds (olderThanDays * 86400))
  q.remove fun e => e.status == .synced && decide (e.createdAt < cutoff)

/-! ### Lists -/

theorem mem_listWhere {p : OpsQueueEntry → Bool} {tie : String → ℕ} {limit : ℕ} {q : OpsQueue}
    {e : OpsQueueEntry} (h : e ∈ listWhere p tie limit q) : e ∈ q.rows ∧ p e = true := by
  have hsorted := List.mem_of_mem_take h
  rwa [List.mem_insertionSort, List.mem_filter] at hsorted

end OpsQueue

end Ansible
