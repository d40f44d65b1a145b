import Ansible.Lib.Table
import Ansible.Relay.ActivityBuilder
import Mathlib.Data.List.Sort

/-!
# The delivery queue of activities

Every activity for an inbox is a row.  A pass picks rows that are due, posts them one after the
other, and writes down what came of each; rows whose failure may pass are due again after a
delay that doubles.

## Main definitions

* `DeliveryAttempt`, `DeliveryQueue` — the rows.
* `DeliveryQueue.enqueue` — the row of an activity for an inbox.
* `DeliveryQueue.updateOf`, `updateAttempt` — what becomes of a row.
-/

namespace Ansible

inductive DeliveryStatus
  | pending
  | delivered
  | retryable
  | permanentFailure
  | deadLetter
  deriving DecidableEq, Repr

/-- The row is not due again. -/
def DeliveryStatus.isFinal : DeliveryStatus → Bool
  | .pending | .retryable => false
  | .delivered | .permanentFailure | .deadLetter => true

structure DeliveryAttempt where
  id : ℕ
  publicationId : String
  remoteInbox : String
  activityId : String
  activityType : String
  payload : Json
  status : DeliveryStatus
  attemptCount : ℕ
  lastAttemptAt : Option Time
  nextRetryAt : Option Time
  lastError : Option String
  insertedAt : Time

abbrev AttemptTable := Table DeliveryAttempt
  (UniqueOn (fun a => (a.publicationId, a.remoteInbox)) fun _ => true)

structure DeliveryQueue where
  attempts : AttemptTable
  nextId : ℕ

inductive EnqueueError
  | duplicate
  /-- The other errors of the changeset. -/
  | invalid
  /-- A value that its column cannot hold. -/
  | raised
  deriving DecidableEq, Repr

/-- What the remote server answers. -/
inductive ClientReply
  | ok (status : ℕ)
  | error (reason : String)
  deriving DecidableEq, Repr

namespace DeliveryQueue

def empty : DeliveryQueue := ⟨⟨[], by decide⟩, 1⟩

/-! ### Enqueueing -/

def insertAttempt (now : Time) (publicationId remoteInbox : String) (activity : Json)
    (q : DeliveryQueue) : Except EnqueueError DeliveryAttempt × DeliveryQueue :=
  match activity.fetch "id", activity.fetch "type" with
  | .str activityId, .str activityType =>
    let columns := [publicationId, remoteInbox, activityId, activityType]
    if columns.any isBlank then (.error .invalid, q)
    else if !columns.all fitsVarchar then (.error .raised, q)
    else
      let attempt : DeliveryAttempt :=
        { id := q.nextId, publicationId, remoteInbox, activityId, activityType
          payload := activity, status := .pending, attemptCount := 0, lastAttemptAt := none
          nextRetryAt := none, lastError := none, insertedAt := now }
      match q.attempts.insert attempt with
      | none => (.error .duplicate, q)
      | some attempts => (.ok attempt, { attempts, nextId := q.nextId + 1 })
  | _, _ => (.error .invalid, q)

def enqueue (now : Time) (i : PublicationIntent) (remoteInbox baseUrl : String)
    (q : DeliveryQueue) : Except EnqueueError DeliveryAttempt × DeliveryQueue :=
  insertAttempt now i.publicationId remoteInbox (ActivityBuilder.fromIntent i baseUrl) q

/-! ### Passes -/

/-- Rows whose delay is over. -/
def isDue (now : Time) (a : DeliveryAttempt) : Bool :=
  !a.status.isFinal && a.nextRetryAt.all fun t => decide (t ≤ now)

/-- The rows of a pass: the oldest come first, those of one instant as the database has it. -/
def picked (now : Time) (limit : ℕ) (tie : ℕ → ℕ) (q : DeliveryQueue) : List DeliveryAttempt :=
  ((q.attempts.rows.filter (isDue now)).insertionSort fun a b => a.insertedAt < b.insertedAt ∨
    a.insertedAt = b.insertedAt ∧ tie a.id ≤ tie b.id).take limit

def retryDelaySeconds (attemptCount : ℕ) : ℕ := min 3600 (2 ^ attemptCount)

def isAccepted : ClientReply → Bool
  | .ok status => decide (200 ≤ status ∧ status ≤ 299)
  | .error _ => false

/-- The columns that an attempt sets. -/
structure AttemptUpdate where
  status : DeliveryStatus
  attemptCount : ℕ
  lastAttemptAt : Option Time
  nextRetryAt : Option Time
  lastError : Option String

def remoteError (status : ℕ) : String :=
    String.ofList ("remote_http_".toList ++ Nat.toDigits 10 status)

/-- The status of a reply and the error that is noted. -/
def statusOf (reply : ClientReply) : DeliveryStatus × Option String :=
  match reply with
  | .ok status =>
    if isAccepted reply then (.delivered, none)
    else if 500 ≤ status then (.retryable, some (remoteError status))
    else (.permanentFailure, some (remoteError status))
  | .error reason => (.retryable, some reason)

/-- A row that has failed as often as it may is given up. -/
def updateOf (maxAttempts : ℕ) (now : Time) (a : DeliveryAttempt) (reply : ClientReply) :
    AttemptUpdate :=
  let nextCount := a.attemptCount + 1
  let status := (statusOf reply).1
  let status := if status = .retryable ∧ maxAttempts ≤ nextCount then .deadLetter else status
  { status
    attemptCount := nextCount
    lastAttemptAt := some now
    nextRetryAt :=
      if status = .retryable then some (now + seconds (retryDelaySeconds nextCount)) else none
    lastError := (statusOf reply).2 }

/-- A changeset writes what differs from the row as it was read. -/
def changed {α : Type} [DecidableEq α] (read new stored : α) : α :=
    if new = read then stored else new

def applyUpdate (a : DeliveryAttempt) (u : AttemptUpdate) (row : DeliveryAttempt) :
    DeliveryAttempt :=
  { row with
    status := changed a.status u.status row.status
    attemptCount := changed a.attemptCount u.attemptCount row.attemptCount
    lastAttemptAt := changed a.lastAttemptAt u.lastAttemptAt row.lastAttemptAt
    nextRetryAt := changed a.nextRetryAt u.nextRetryAt row.nextRetryAt
    lastError := changed a.lastError u.lastError row.lastError }

/-- The row as it was read is updated by its `id`. -/
def updateAttempt (a : DeliveryAttempt) (u : AttemptUpdate) (q : DeliveryQueue) : DeliveryQueue :=
  { q with
    attempts :=
      { rows := q.attempts.rows.map fun row => if row.id = a.id then applyUpdate a u row else row
        valid := q.attempts.valid.map (fun row => by split <;> rfl) fun _ _ => rfl } }

theorem changed_self {α : Type} [DecidableEq α] (read new : α) : changed read new read = new := by
  unfold changed
  split
  · next h => exact h.symm
  · rfl

theorem applyUpdate_self (a : DeliveryAttempt) (u : AttemptUpdate) :
    (applyUpdate a u a).status = u.status ∧
      (applyUpdate a u a).attemptCount = u.attemptCount :=
  ⟨changed_self _ _, changed_self _ _⟩

/-- What an insertion does: nothing, or a row at the end with the next `id`. -/
theorem insertAttempt_cases (now : Time) (publicationId remoteInbox : String) (activity : Json)
    (q : DeliveryQueue) :
    (∃ e, insertAttempt now publicationId remoteInbox activity q = (.error e, q)) ∨
    ∃ a attempts, insertAttempt now publicationId remoteInbox activity q =
        (.ok a, ⟨attempts, q.nextId + 1⟩) ∧
      attempts.rows = q.attempts.rows ++ [a] ∧ a.id = q.nextId ∧ a.status = .pending ∧
      a.attemptCount = 0 ∧ a.publicationId = publicationId ∧ a.remoteInbox = remoteInbox := by
  unfold insertAttempt
  split
  swap
  · exact .inl ⟨_, rfl⟩
  dsimp only
  split
  · exact .inl ⟨_, rfl⟩
  split
  · exact .inl ⟨_, rfl⟩
  split
  · exact .inl ⟨_, rfl⟩
  · next attempts h =>
    exact .inr ⟨_, attempts, rfl, Table.rows_of_commit h, rfl, rfl, rfl, rfl, rfl⟩

theorem mem_picked {now : Time} {limit : ℕ} {tie : ℕ → ℕ} {q : DeliveryQueue}
    {a : DeliveryAttempt} (h : a ∈ picked now limit tie q) :
    a ∈ q.attempts.rows ∧ a.status.isFinal = false := by
  have hsorted := List.mem_of_mem_take h
  rw [List.mem_insertionSort, List.mem_filter, isDue, Bool.and_eq_true, Bool.not_eq_true']
    at hsorted
  exact ⟨hsorted.1, hsorted.2.1⟩

theorem picked_ids_nodup (now : Time) (limit : ℕ) (tie : ℕ → ℕ) {q : DeliveryQueue}
    (h : (q.attempts.rows.map (·.id)).Nodup) : ((picked now limit tie q).map (·.id)).Nodup := by
  have hfiltered : ((q.attempts.rows.filter (isDue now)).map (·.id)).Nodup :=
    h.sublist (List.filter_sublist.map _)
  have hsorted := ((List.perm_insertionSort (fun a b : DeliveryAttempt =>
    a.insertedAt < b.insertedAt ∨ a.insertedAt = b.insertedAt ∧ tie a.id ≤ tie b.id) _).map
    (·.id)).nodup_iff.2 hfiltered
  exact hsorted.sublist ((List.take_sublist _ _).map _)

end DeliveryQueue

end Ansible
