import Ansible.Relay.OpHistory

/-!
# Appending to the op log

An op goes to the end of the log.  The update or deletion of an entity is appended together with
a check that its signer created the entity; both happen under a lock on the entity.

## Main definitions

* `OpStore.castOp`, `OpStore.doAppend` — the row of an op, and the plain append.
* `OpStore.appendAuthorMutation` — the append of the creator of an entity.

## Main results

* `OpStore.appendAuthorMutation_isOk` — **when the append of an update or deletion succeeds.**
-/

namespace Ansible

/-- The op of a request, with whatever its fields hold. -/
structure OpParams where
  opId : Json
  authorDid : Json
  entityType : Json
  entityId : Json
  opType : Json
  payload : Json
  signature : Json
  schemaVersion : Json

namespace OpStore

inductive AppendError
  | duplicate
  | insertFailed
  | originalContentNotFound
  | notOriginalAuthor
  | revisionConflict
  /-- The request fails with an exception. -/
  | raised
  deriving DecidableEq, Repr

/-! ### The row of an op -/

def requiredText : Json → Option String
  | .str s => if isBlank s then none else some s
  | _ => none

def schemaVersionOf : Json → Option ℤ
  | .null => some 1
  | .int n => if 1 ≤ n then some n else none
  | _ => none

/-- `Op.changeset`; an error of the op id reads as that of a duplicate. -/
def castOp (receivedAt : String) (p : OpParams) : Except AppendError Op :=
  match requiredText p.opId with
  | none => .error .duplicate
  | some opId =>
    (do
      let authorDid ← requiredText p.authorDid
      let entityType ← requiredText p.entityType
      let entityId ← requiredText p.entityId
      let opType ← requiredText p.opType
      let payload ← requiredText p.payload
      let signature ← requiredText p.signature
      let schemaVersion ← schemaVersionOf p.schemaVersion
      return (⟨opId, authorDid, entityType, entityId, opType, payload, signature, schemaVersion,
        receivedAt⟩ : Op)).elim (.error .insertFailed) .ok

/-- The columns can hold the row; the payload has no bound on its length. -/
def Op.storable (o : Op) : Bool :=
  [o.opId, o.authorDid, o.entityType, o.entityId, o.opType, o.signature].all fitsVarchar &&
    !(chars o.payload).contains (Char.ofNat 0)

/-- The id of a row is its place in the log. -/
def doAppend (receivedAt : String) (p : OpParams) (ops : List Op) :
    Except AppendError ℕ × List Op :=
  match castOp receivedAt p with
  | .error e => (.error e, ops)
  | .ok o =>
    if !o.storable then (.error .raised, ops)
    else if ops.any (·.opId == o.opId) then (.error .duplicate, ops)
    else (.ok (ops.length + 1), ops ++ [o])

/-- Nothing about the row keeps the op out of the log. -/
def Appendable (receivedAt : String) (p : OpParams) (ops : List Op) : Prop :=
  ∃ o, castOp receivedAt p = .ok o ∧ o.storable = true ∧ ∀ x ∈ ops, x.opId ≠ o.opId

/-! ### Updates and deletions -/

def verifyOriginalAuthor (authorDid entityType entityId : String) (ops : List Op) :
    Except AppendError Unit :=
  match createOpAuthor ops entityType entityId with
  | some original => if original = authorDid then .ok () else .error .notOriginalAuthor
  | none => .error .originalContentNotFound

/-- Compare and swap, when the signer names the op that it has seen last. -/
def verifyPreviousRevision (expected : Option String) (entityType entityId : String)
    (ops : List Op) : Except AppendError Unit :=
  match expected with
  | none => .ok ()
  | some revision =>
    if (lastOp ops entityType entityId).map (·.opId) = some revision then .ok ()
    else .error .revisionConflict

def appendAuthorMutation (receivedAt : String) (p : OpParams) (expected : Option String)
    (ops : List Op) : Except AppendError ℕ × List Op :=
  match p.authorDid, p.entityType, p.entityId with
  | .str authorDid, .str entityType, .str entityId =>
    match verifyOriginalAuthor authorDid entityType entityId ops with
    | .error e => (.error e, ops)
    | .ok () =>
      match verifyPreviousRevision expected entityType entityId ops with
      | .error e => (.error e, ops)
      | .ok () => doAppend receivedAt p ops
  | _, _, _ => (.error .raised, ops)

/-! ### When an append succeeds -/

variable {receivedAt : String} {p : OpParams} {ops : List Op}

theorem doAppend_of_appendable (h : Appendable receivedAt p ops) :
    ∃ o, doAppend receivedAt p ops = (.ok (ops.length + 1), ops ++ [o]) := by
  obtain ⟨o, ho, hstorable, hnew⟩ := h
  have hany : ops.any (·.opId == o.opId) = false :=
    List.any_eq_false.2 fun x hx => by simp [hnew x hx]
  exact ⟨o, by simp [doAppend, ho, hstorable, hany]⟩

theorem doAppend_of_not_appendable (h : ¬ Appendable receivedAt p ops) :
    ∃ e, doAppend receivedAt p ops = (.error e, ops) := by
  unfold doAppend
  cases hcast : castOp receivedAt p with
  | error e => exact ⟨e, rfl⟩
  | ok o =>
    dsimp only
    split
    · exact ⟨_, rfl⟩
    next hstorable =>
    split
    · exact ⟨_, rfl⟩
    next hnew =>
    refine absurd ⟨o, hcast, by simpa using hstorable, fun x hx heq => hnew ?_⟩ h
    exact List.any_eq_true.2 ⟨x, hx, beq_iff_eq.2 heq⟩

theorem doAppend_isOk :
    (doAppend receivedAt p ops).1.isOk = true ↔ Appendable receivedAt p ops := by
  by_cases h : Appendable receivedAt p ops
  · obtain ⟨o, heq⟩ := doAppend_of_appendable h
    simp [heq, h, Except.isOk, Except.toBool]
  · obtain ⟨e, heq⟩ := doAppend_of_not_appendable h
    simp [heq, h, Except.isOk, Except.toBool]

/-- **The append of an update or deletion succeeds for the author of the create op.** -/
theorem appendAuthorMutation_isOk {did entityType entityId : String} {expected : Option String}
    (hdid : p.authorDid = .str did) (htype : p.entityType = .str entityType)
    (hid : p.entityId = .str entityId) :
    (appendAuthorMutation receivedAt p expected ops).1.isOk = true ↔
      createOpAuthor ops entityType entityId = some did ∧
        verifyPreviousRevision expected entityType entityId ops = .ok () ∧
        Appendable receivedAt p ops := by
  rw [appendAuthorMutation, hdid, htype, hid, ← doAppend_isOk]
  dsimp only
  rw [verifyOriginalAuthor]
  cases createOpAuthor ops entityType entityId with
  | none => simp [Except.isOk, Except.toBool]
  | some original =>
    by_cases hauthor : original = did
    · dsimp only
      rw [if_pos hauthor]
      dsimp only
      cases verifyPreviousRevision expected entityType entityId ops with
      | error e => simp [Except.isOk, Except.toBool]
      | ok u => simp [hauthor]
    · simp [hauthor, Except.isOk, Except.toBool]

end OpStore

end Ansible
