import Ansible.AppView.OpVerification
import Ansible.Lib.Checks
import Ansible.Relay.DidAccountCache
import Ansible.Relay.OpAppend

/-!
# The endpoint of repository records

A client writes a record of its own repository, signed under the key of its account.  The relay
draws a key for the record and appends an op for it to the log.

## Main definitions

* `XrpcController.validatePublicRecord` — the shape of a public record.
* `XrpcController.authorize` — all checks, up to the signature.
* `XrpcController.createRecord` — the endpoint.

## Main results

* `XrpcController.createRecord_of_recordable` — **a request appends one op when it passes the
  checks and the log can take the op**, and leaves the log as it is when not.
-/

namespace Ansible

inductive RecordRefusal
  | missingField (field : String)
  | recordNotAMap
  | invalidRecord (detail : String)
  | unregisteredDid
  | verificationUnavailable
  | rateLimited
  | invalidSig
  | duplicateRecord
  /-- The request fails with an exception. -/
  | raised
  deriving DecidableEq, Repr

/-- A request, with what the abuse detector says of it and the key that is drawn for the record. -/
structure RecordRequest where
  now : Time
  params : Json
  limited : Bool
  tid : String
  receivedAt : String

/-- What the checks pass on. -/
structure RecordFields where
  repo : String
  collection : Json
  record : Json
  commitSig : String

/-- The account cache and the op log. -/
structure RecordStore where
  relay : Relay
  log : List OpStore.Op

namespace XrpcController

/-! ### The shape of a request -/

def requireField (field : String) (params : Json) : Except RecordRefusal Json :=
  let value := params.fetch field
  if value.isNull || value.eqv (.str "") then .error (.missingField field) else .ok value

def requireRecord (params : Json) : Except RecordRefusal Json :=
  match params.fetch "record" with
  | .null => .error (.missingField "record")
  | .obj fields => .ok (.obj fields)
  | _ => .error .recordNotAMap

def validateCollectionType (collection record : Json) : Except RecordRefusal Unit :=
  if (record.fetch "$type").isNull then .error (.missingField "$type")
  else ensure ((record.fetch "$type").eqv collection)
    (.invalidRecord "collection must match record $type")

def privateFields : List String := ["privateTags", "inputSnapshot", "outputSnapshot"]

def rejectPrivateOnlyFields (record : Json) : Except RecordRefusal Unit :=
  match privateFields.find? fun field => (record.get? field).isSome with
  | some field => .error (.invalidRecord (field ++ " is private-only"))
  | none => .ok ()

def requiredFields (collection : Json) : List String :=
  match collection with
  | .str "io.trisaura.post" | .str "io.trisaura.murmur" => ["text", "createdAt"]
  | .str "io.trisaura.note" => ["body", "visibility", "createdAt"]
  | .str "io.trisaura.discussion" => ["title", "body", "discussionShape", "participationPolicy",
      "forkPolicy", "consensusState", "createdAt", "updatedAt"]
  | .str "io.trisaura.contentRelation" => ["from", "to", "relationType", "createdAt"]
  | .str "io.trisaura.transformation" => ["sourceRefs", "targetRef", "targetMode", "providerType",
      "status", "createdAt"]
  | .str "io.trisaura.projection" => ["source", "target", "projectedExcerpt",
      "participationPolicy", "ownershipTransferAcknowledged", "createdAt"]
  | _ => []

def blank (value : Json) : Bool :=
  value.isNull || value.eqv (.str "") || value.eqv (.arr [])

def requireRecordFields (record : Json) (fields : List String) : Except RecordRefusal Unit :=
  match fields.find? fun field => blank (record.fetch field) with
  | some field => .error (.missingField field)
  | none => .ok ()

def validatePublicRecord (collection record : Json) : Except RecordRefusal Unit := do
  validateCollectionType collection record
  rejectPrivateOnlyFields record
  requireRecordFields record (requiredFields collection)

/-! ### Checks that read the relay -/

/-- The account of a DID that has not expired. -/
def activeAccount (now : Time) (repo : Json) :
    Checked Relay RecordRefusal (String × AccountEntry) := fun s =>
  match repo with
  | .str did =>
    match DidAccountCache.get did s with
    | (none, s) => (.error .unregisteredDid, s)
    | (some entry, s) =>
      if now < entry.expiresAt then (.ok (did, entry), s) else (.error .unregisteredDid, s)
  | _ => (.error .verificationUnavailable, s)

/-- A signature that is no text is not valid.  `Jason.encode!` writes the members of a map of up to
32 in the order of their keys; larger maps are taken to be written in this order too. -/
def checkCommitSig (P : Platform) (entry : AccountEntry) (record commitSig : Json) :
    Except RecordRefusal String :=
  match commitSig with
  | .str signature =>
    if SigVerifier.verifyIdentity P entry.signingAlgorithm entry.publicKeyHex
      (AppView.canonicalJson record) signature then .ok signature else .error .invalidSig
  | _ => .error .invalidSig

/-- The checks, in their order. -/
def authorize (P : Platform) (q : RecordRequest) : Checked Relay RecordRefusal RecordFields := do
  let repo ← Checked.lift (requireField "repo" q.params)
  let collection ← Checked.lift (requireField "collection" q.params)
  let record ← Checked.lift (requireRecord q.params)
  Checked.lift (validatePublicRecord collection record)
  let sig ← Checked.lift (requireField "commit_sig" q.params)
  let account ← activeAccount q.now repo
  Checked.lift (ensure (!q.limited) .rateLimited)
  let commitSig ← Checked.lift (checkCommitSig P account.2 record sig)
  return { repo := account.1, collection, record, commitSig }

/-! ### The record -/

/-- The op of a record, once the collection has a text. -/
def recordOp (f : RecordFields) (collection tid : String) : OpParams where
  opId := .str tid
  authorDid := .str f.repo
  entityType := .str "atproto_record"
  entityId := .str ("at://" ++ f.repo ++ "/" ++ collection ++ "/" ++ tid)
  opType := .str "insert"
  payload := .str (String.ofList (AppView.canonicalJson f.record))
  signature := .str f.commitSig
  schemaVersion := .null

/-- The reply names the address of the record.  The parameter `toText` is how values become parts
of a text, where they can. -/
def createRecord (P : Platform) (toText : Json → Option String) (q : RecordRequest)
    (s : RecordStore) : Except RecordRefusal String × RecordStore :=
  match authorize P q s.relay with
  | (.error e, relay) => (.error e, { s with relay })
  | (.ok f, relay) =>
    match toText f.collection with
    | none => (.error .raised, { s with relay })
    | some collection =>
      match OpStore.doAppend q.receivedAt (recordOp f collection q.tid) s.log with
      | (.ok _, log) =>
        (.ok ("at://" ++ f.repo ++ "/" ++ collection ++ "/" ++ q.tid), ⟨relay, log⟩)
      | (.error .duplicate, log) => (.error .duplicateRecord, ⟨relay, log⟩)
      | (.error _, log) => (.error .raised, ⟨relay, log⟩)

/-- The request passes the checks, and the log can take its op. -/
def Recordable (P : Platform) (toText : Json → Option String) (q : RecordRequest)
    (s : RecordStore) : Prop :=
  ∃ f relay collection, authorize P q s.relay = (.ok f, relay) ∧
    toText f.collection = some collection ∧
    OpStore.Appendable q.receivedAt (recordOp f collection q.tid) s.log

/-- **A request appends one op when it passes the checks and the log can take the op.** -/
theorem createRecord_of_recordable {P : Platform} {toText : Json → Option String}
    {q : RecordRequest} {s : RecordStore} (h : Recordable P toText q s) :
    ∃ o, (createRecord P toText q s).2.log = s.log ++ [o] := by
  obtain ⟨f, relay, collection, hchecks, htext, happendable⟩ := h
  obtain ⟨o, heq⟩ := OpStore.doAppend_of_appendable happendable
  refine ⟨o, ?_⟩
  unfold createRecord
  rw [hchecks]
  dsimp only
  rw [htext]
  dsimp only
  rw [heq]

theorem createRecord_of_not_recordable {P : Platform} {toText : Json → Option String}
    {q : RecordRequest} {s : RecordStore} (h : ¬ Recordable P toText q s) :
    (createRecord P toText q s).2.log = s.log := by
  unfold createRecord
  split
  · rfl
  next f relay hchecks =>
  split
  · rfl
  next collection htext =>
  have happendable : ¬ OpStore.Appendable q.receivedAt (recordOp f collection q.tid) s.log :=
    fun h' => h ⟨f, relay, collection, hchecks, htext, h'⟩
  obtain ⟨e, heq⟩ := OpStore.doAppend_of_not_appendable happendable
  rw [heq]
  cases e <;> rfl

end XrpcController

end Ansible
