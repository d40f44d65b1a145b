import Ansible.Relay.MigratedFrozen
import Ansible.Relay.BoardGovernance
import Ansible.Relay.OpAppend

/-!
# Who may change an entity

The controller lets the author of an entity change it, and so the DID that the author has
migrated to.  The store checks the author once more, inside the transaction that appends the op.

## Main definitions

* `OpsController.checkOriginalAuthor` — the check of the controller.

## Main results

* `original_author_checks_agree` — **the two agree exactly on ops of the author's own DID that
  the log can take.**
-/

namespace Ansible

namespace OpsController

inductive AuthorRefusal
  | originalContentNotFound
  | notOriginalAuthor
  /-- The request fails with an exception. -/
  | raised
  deriving DecidableEq, Repr

/-- The content whose author is looked up. -/
def authoredTypes : List String := ["thread", "post", "comment", "reaction"]

def checkOriginalAuthor (p : OpParams) (r : Relay) (ops : List OpStore.Op) :
    Except AuthorRefusal Unit :=
  match p.opType, p.entityType with
  | .str opType, .str entityType =>
    if opType ∈ ["update", "delete"] ∧ entityType ∈ authoredTypes then
      match p.entityId, p.authorDid with
      | .str entityId, .str authorDid =>
        match OpStore.createOpAuthor ops entityType entityId with
        | none => .error .originalContentNotFound
        | some original =>
          if original = authorDid then .ok ()
          else if BoardGovernance.equivalent r original authorDid then .ok ()
          else .error .notOriginalAuthor
      | _, _ => .error .raised
    else .ok ()
  | _, _ => .ok ()

end OpsController

/-- An update or deletion by a DID that is equivalent to the author of the first insert. -/
structure Mutation (r : Relay) (ops : List OpStore.Op) (p : OpParams)
    (original did entityType entityId : String) : Prop where
  opType : p.opType = .str "update" ∨ p.opType = .str "delete"
  signer : p.authorDid = .str did
  onType : p.entityType = .str entityType
  onEntity : p.entityId = .str entityId
  author : OpStore.createOpAuthor ops entityType entityId = some original
  equivalent : BoardGovernance.equivalent r original did = true

/-- The controller lets the op pass exactly when the store appends it, to a log that may have
grown in between. -/
def ChecksAgree (r : Relay) (ops later : List OpStore.Op) (receivedAt : String) (p : OpParams) :
    Prop :=
  OpsController.checkOriginalAuthor p r ops = .ok () ↔
    (OpStore.appendAuthorMutation receivedAt p none (ops ++ later)).1.isOk = true

/-- The controller lets equivalent DIDs pass. -/
theorem checkOriginalAuthor_of_mutation {r : Relay} {ops : List OpStore.Op} {p : OpParams}
    {original did entityType entityId : String}
    (h : Mutation r ops p original did entityType entityId) :
    OpsController.checkOriginalAuthor p r ops = .ok () := by
  rw [OpsController.checkOriginalAuthor, h.onType, h.onEntity, h.signer]
  rcases h.opType with hop | hop
  all_goals
    rw [hop]
    dsimp only
    split
    · rw [h.author]
      dsimp only
      rw [h.equivalent, if_pos rfl, ite_self]
    · rfl

/-- The author of the first insert stays the author. -/
theorem createOpAuthor_append {ops : List OpStore.Op} {entityType entityId original : String}
    (h : OpStore.createOpAuthor ops entityType entityId = some original)
    (later : List OpStore.Op) :
    OpStore.createOpAuthor (ops ++ later) entityType entityId = some original := by
  obtain ⟨c, hc, rfl⟩ := OpStore.createOpAuthor_eq_some.1 h
  rw [OpStore.createOpAuthor, OpStore.createOp, List.find?_append, ← OpStore.createOp, hc]
  rfl

/-- **The controller and the store agree exactly on ops of the author's own DID that the log can
take.** -/
theorem original_author_checks_agree {r : Relay} {ops : List OpStore.Op} {p : OpParams}
    {original did entityType entityId : String}
    (h : Mutation r ops p original did entityType entityId) (later : List OpStore.Op)
    (receivedAt : String) :
    ChecksAgree r ops later receivedAt p ↔
      did = original ∧ OpStore.Appendable receivedAt p (ops ++ later) := by
  have happend : (OpStore.appendAuthorMutation receivedAt p none (ops ++ later)).1.isOk = true ↔
      did = original ∧ OpStore.Appendable receivedAt p (ops ++ later) := by
    rw [OpStore.appendAuthorMutation_isOk h.signer h.onType h.onEntity,
      createOpAuthor_append h.author later, Option.some.injEq]
    constructor
    · rintro ⟨hauthor, -, happendable⟩
      exact ⟨hauthor.symm, happendable⟩
    · rintro ⟨hauthor, happendable⟩
      exact ⟨hauthor.symm, rfl, happendable⟩
  rw [ChecksAgree, happend]
  constructor
  · intro hagree
    exact hagree.1 (checkOriginalAuthor_of_mutation h)
  · intro hboth
    exact ⟨fun _ => hboth, fun _ => checkOriginalAuthor_of_mutation h⟩

/-! ### A migrated author -/

open AnchorStore

/-- The relay after the move of Alice from her legacy DID. -/
def movedRelay : Relay :=
  exec (identityStep Reputation.toyVpEnv) Relay.empty (bothAnchored ++ [.migrate toyMigration])

/-- An op on a post. -/
def toyPostOp (opId authorDid opType : String) : OpParams where
  opId := .str opId
  authorDid := .str authorDid
  entityType := .str "post"
  entityId := .str "post-1"
  opType := .str opType
  payload := .str "\x7b\x7d"
  signature := .str "ff"
  schemaVersion := .null

/-- The log with the post of Alice under her legacy DID. -/
def movedLog : List OpStore.Op :=
  (OpStore.doAppend "2026-01-02T00:00:00Z" (toyPostOp "op-1" movedDid "insert") []).2

theorem movedLog_facts :
    OpStore.createOpAuthor movedLog "post" "post-1" = some movedDid ∧
      BoardGovernance.equivalent movedRelay movedDid movedToDid = true ∧ movedToDid ≠ movedDid := by
  decide +kernel

theorem mutation_moved : Mutation movedRelay movedLog (toyPostOp "op-2" movedToDid "update")
    movedDid movedToDid "post" "post-1" :=
  ⟨.inl rfl, rfl, rfl, rfl, movedLog_facts.1, movedLog_facts.2.1⟩

theorem original_author_checks_agree_moved :
    ChecksAgree movedRelay movedLog [] "2026-01-04T00:00:00Z"
        (toyPostOp "op-2" movedToDid "update") ↔
      movedToDid = movedDid ∧ OpStore.Appendable "2026-01-04T00:00:00Z"
        (toyPostOp "op-2" movedToDid "update") (movedLog ++ []) :=
  original_author_checks_agree mutation_moved [] _

/-- The controller lets the edit pass, and the store refuses it. -/
theorem moved_edit_refused :
    Mutation movedRelay movedLog (toyPostOp "op-2" movedToDid "update") movedDid movedToDid
        "post" "post-1" ∧
      ¬ ChecksAgree movedRelay movedLog [] "2026-01-04T00:00:00Z"
        (toyPostOp "op-2" movedToDid "update") := by
  refine ⟨mutation_moved, fun hagree => ?_⟩
  have happend := hagree.1 (checkOriginalAuthor_of_mutation mutation_moved)
  rw [OpStore.appendAuthorMutation_isOk rfl rfl rfl, List.append_nil, movedLog_facts.1] at happend
  exact movedLog_facts.2.2 (Option.some.inj happend.1).symm

end Ansible
