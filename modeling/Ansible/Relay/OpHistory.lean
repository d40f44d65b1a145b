import Ansible.Lib.Base
import Ansible.Lib.JsonParse
import Ansible.Relay.OpStore

/-!
# What the log says about an entity

The rows of `ops`, in the order of their ids, are the history of every entity.  The create op
of an entity is its first insert, and the board of a piece of content is the one that the
payload of its create op names.

## Main definitions

* `decodePayload` — the document of a payload, JSON or base-64 JSON.
* `boardIdOf` — the board that the members of a payload name.
* `OpStore.createOp`, `createOpAuthor` — the first insert of an entity and its author.
* `OpStore.lastOp` — the last op of an entity.

## Main results

* `OpStore.createOp_append` — the create op of an entity stays, once it has one.
-/

namespace Ansible

/-! ### Payloads -/

/-- `decode_payload` of a text: JSON, or else base-64 JSON; `none` stands for `:error`. -/
def decodeText (payload : String) : Option Json :=
  match Json.decode (chars payload) with
  | some decoded => some decoded
  | none => (decode64 (bytes payload)).bind Json.decodeBytes

/-- `decode_payload` of a request: objects are taken as they are. -/
def decodePayload : Json → Option Json
  | .obj f => some (.obj f)
  | .str payload => decodeText payload
  | _ => none

def payloadObject (payload : Json) : Option Json := (decodePayload payload).filter Json.isObj

/-- `decoded["boardId"] || decoded["board_id"]` -/
def boardIdOf (decoded : Json) : Json := (decoded.fetch "boardId").orElse (decoded.fetch "board_id")

namespace OpStore

/-! ### Entities -/

def Op.isOf (entityType entityId : String) (o : Op) : Bool :=
  o.entityType == entityType && o.entityId == entityId

def Op.inserts (entityType entityId : String) (o : Op) : Bool :=
  o.isOf entityType entityId && o.opType == "insert"

def createOp (ops : List Op) (entityType entityId : String) : Option Op :=
  ops.find? (·.inserts entityType entityId)

def createOpAuthor (ops : List Op) (entityType entityId : String) : Option String :=
  (createOp ops entityType entityId).map (·.authorDid)

/-- `order_by: [desc: o.id], limit: 1` -/
def lastOp (ops : List Op) (entityType entityId : String) : Option Op :=
  ops.reverse.find? (·.isOf entityType entityId)

/-- The create op of an entity stays; an entity without one gets the op if it inserts it. -/
theorem createOp_append (ops : List Op) (o : Op) (entityType entityId : String) :
    createOp (ops ++ [o]) entityType entityId =
      (createOp ops entityType entityId).or
        (if o.inserts entityType entityId then some o else none) := by
  rw [createOp, List.find?_append, ← createOp, List.find?_singleton]

theorem createOp_append_of_some {ops : List Op} {c : Op} {entityType entityId : String}
    (h : createOp ops entityType entityId = some c) (o : Op) :
    createOp (ops ++ [o]) entityType entityId = some c := by
  rw [createOp_append, h, Option.some_or]

theorem createOpAuthor_eq_some {ops : List Op} {entityType entityId did : String} :
    createOpAuthor ops entityType entityId = some did ↔
      ∃ c, createOp ops entityType entityId = some c ∧ c.authorDid = did :=
  Option.map_eq_some_iff

end OpStore

end Ansible
