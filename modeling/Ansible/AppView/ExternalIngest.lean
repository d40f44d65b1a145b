import Ansible.AppView.Folder
import Ansible.Relay.Inbox

/-!
# The external lane of the feed

Content of remote actors is shown beside the feed when an administrator has chosen its author as
a source.  It comes from the outbox of the source, or from the inbox log of the relay.

## Main definitions

* `ExternalSource`, `ExternalRow`, `ExternalTable` — the sources, and the rows of the feed.
* `Note.normalize` — what is taken from an activity.
* `ExternalIngest.ingestSource`, `ExternalIngest.ingestActivity` — the two ways in.
* `ExternalIngest.curated`, `ExternalIngest.Applied` — whose activities count, and what they write.

## Main results

* `ExternalIngest.ingestActivity_content` — **an activity changes the content of its sender.**
-/

namespace Ansible

namespace AppView

/-- A row of `external_sources`: a remote actor whose content is shown. -/
structure ExternalSource where
  actorUri : String
  complianceLevel : String
  enabled : Bool
  boardId : Option String

/-- A row of `feed_items`, with the columns of the external lane. -/
structure ExternalRow where
  opId : String
  authorDid : String
  entityType : String
  entityId : String
  opType : String
  boardId : Option String
  visibility : Option String
  itemCreatedAt : Time
  payload : Json
  authorTier : String
  deleted : Bool
  sigVerified : Bool
  source : String
  externalActorUri : Option String
  externalInstance : Option String
  complianceLevel : Option String

abbrev ExternalTable := Table ExternalRow (UniqueOn (·.opId) fun _ => true)

/-- What is taken from an activity. -/
structure ExternalNote where
  objectId : String
  actorUri : String
  host : String
  content : Json
  name : Json
  publishedAt : Json
  httpSignatureStatus : String

namespace Note

def unwrap (raw : Json) : Json :=
  if (raw.fetch "object").isObj && (raw.get? "type").isSome then raw.fetch "object" else raw

/-- `HttpSignature.status` -/
def httpSignatureStatus (raw : Json) : String :=
  match raw.fetch "_http_signature_valid" with
  | .bool true => "valid"
  | .bool false => "invalid"
  | _ => "absent"

def isPublic (item : Json) : Bool :=
  (InboundStore.recipients item).any (·.eqv (.str ActivityBuilder.publicCollection))

/-- The host of an actor, or else its URI. -/
def instanceOf (actorUri : String) : String :=
  match (Uri.parse actorUri).host with
  | some (c :: host) => String.ofList (c :: host)
  | _ => actorUri

/-- A public note, as content of the source: who it names as its author does not matter. -/
def normalize (raw : Json) (sourceActorUri : String) : Option ExternalNote :=
  let object := unwrap raw
  match object.fetch "id" with
  | .str objectId =>
    if raw.isObj && (object.fetch "type").eqv (.str "Note") && (isPublic object || isPublic raw) &&
        objectId ≠ "" then
      some { objectId, actorUri := sourceActorUri, host := instanceOf sourceActorUri
             content := (object.fetch "content").orElse (.str "")
             name := object.fetch "name"
             publishedAt := (object.fetch "published").orElse (raw.fetch "published")
             httpSignatureStatus := httpSignatureStatus raw }
    else none
  | _ => none

theorem normalize_actorUri {raw : Json} {sourceActorUri : String} {item : ExternalNote}
    (h : normalize raw sourceActorUri = some item) : item.actorUri = sourceActorUri := by
  unfold normalize at h
  dsimp only at h
  split at h
  · split at h
    · cases h
      rfl
    · cases h
  · cases h

end Note

namespace ExternalIngest

def parseDt : Json → Option Time
  | .str value => (DateTime.fromIso8601 value).map (·.1)
  | _ => none

def notePayload (item : ExternalNote) (status : String) : Json :=
  .obj [("type", .str "external_note"), ("content", item.content), ("name", item.name),
    ("http_signature_status", .str status)]

def row (now : Time) (source : ExternalSource) (item : ExternalNote) : ExternalRow where
  opId := item.objectId
  authorDid := item.actorUri
  entityType := "note"
  entityId := item.objectId
  opType := "insert"
  boardId := source.boardId
  visibility := some "public"
  itemCreatedAt := (parseDt item.publishedAt).getD now
  payload := notePayload item item.httpSignatureStatus
  authorTier := "external_unverified"
  deleted := false
  sigVerified := false
  source := "activitypub"
  externalActorUri := some item.actorUri
  externalInstance := some item.host
  complianceLevel := some source.complianceLevel

/-- The content columns can hold the values. -/
def fitsContent (payload : Json) (itemCreatedAt : Time) : Bool :=
  fitsJsonb payload && decide (minTimestamp ≤ itemCreatedAt)

/-- The columns can hold the row. -/
def fits (r : ExternalRow) : Bool :=
  fitsVarchar r.opId && r.externalInstance.all fitsVarchar && fitsContent r.payload r.itemCreatedAt

/-- `on_conflict: :nothing`: a row whose op is known is passed over. -/
def insertNew (t : ExternalTable) (r : ExternalRow) : ExternalTable := (t.insert r).getD t

/-- New notes become rows of the source; one note that cannot be stored stops them all, for which
`none` stands. -/
def foldItems (now : Time) (source : ExternalSource) (rawItems : List Json) (t : ExternalTable) :
    Option ExternalTable :=
  let normalized := (rawItems.filterMap (Note.normalize · source.actorUri)).eraseDupsBy
    fun a b => a.objectId == b.objectId
  let rows := normalized.map (row now source)
  if rows.all fits then some (rows.foldl insertNew t) else none

/-- A row of the external lane about an object of the source. -/
def isRowOf (source : ExternalSource) (objectId : String) (r : ExternalRow) : Bool :=
  r.opId == objectId && r.source == "activitypub" && r.externalActorUri == some source.actorUri

/-- `none` stands for an exception, such as the comparison with an object id that is missing. -/
def applyActivity (now : Time) (source : ExternalSource) (a : InboundActivity)
    (t : ExternalTable) : Option ExternalTable :=
  if a.activityType = "Create" then foldItems now source [a.payload] t
  else if a.activityType = "Update" then
    match Note.normalize a.payload source.actorUri with
    | none => some t
    | some item => do
      let objectId ← a.objectId
      let payload := notePayload item "valid"
      let itemCreatedAt := (parseDt item.publishedAt).getD now
      if !fitsContent payload itemCreatedAt then none
      else if t.rows.any (isRowOf source objectId) then
        t.update (isRowOf source objectId) fun r =>
          { r with payload, itemCreatedAt, deleted := false }
      else foldItems now source [a.payload] t
  else do
    let objectId ← a.objectId
    t.update (isRowOf source objectId) fun r => { r with deleted := true, opType := "delete" }

/-- An activity counts when its sender is an enabled source. -/
def ingestActivity (now : Time) (sources : List ExternalSource) (a : InboundActivity)
    (t : ExternalTable) : Option ExternalTable :=
  if a.activityType ∈ ["Create", "Update", "Delete"] then
    match sources.find? (·.actorUri == a.remoteActor) with
    | some source => if source.enabled then applyActivity now source a t else some t
    | none => some t
  else some t

/-- The activities of a page, up to the first one that raises; whether there is none. -/
def ingestAll (now : Time) (sources : List ExternalSource) :
    List InboundActivity → ExternalTable → ExternalTable × Bool
  | [], t => (t, true)
  | a :: rest, t =>
    match ingestActivity now sources a t with
    | none => (t, false)
    | some t => ingestAll now sources rest t

/-- The items of the outbox of a source. -/
def ingestSource (now : Time) (source : ExternalSource) (rawItems : List Json)
    (t : ExternalTable) : ExternalTable :=
  if source.enabled then (foldItems now source rawItems t).getD t else t

end ExternalIngest

/-! ### Whose content changes -/

/-- The rows attributed to a remote actor. -/
def ExternalTable.contentOf (actorUri : String) (t : ExternalTable) : List ExternalRow :=
  t.rows.filter (·.externalActorUri == some actorUri)

namespace ExternalIngest

variable {now : Time} {source : ExternalSource} {t t' : ExternalTable} {actorUri : String}

/-! The rows of the actors in `lane`, of which the source is not one. -/

variable (lane : Option String → Bool)

theorem lane_insertNew {r : ExternalRow} (h : lane r.externalActorUri = false) :
    ((insertNew t r).rows.filter fun x => lane x.externalActorUri) =
      t.rows.filter fun x => lane x.externalActorUri := by
  unfold insertNew
  cases hinsert : t.insert r with
  | none => rfl
  | some t' =>
    rw [Option.getD_some, Table.rows_of_commit hinsert, List.filter_append,
      List.filter_cons_of_neg (by rw [h]; exact Bool.false_ne_true), List.filter_nil,
      List.append_nil]

theorem lane_insertAll {rows : List ExternalRow}
    (h : ∀ r ∈ rows, lane r.externalActorUri = false) :
    ((rows.foldl insertNew t).rows.filter fun x => lane x.externalActorUri) =
      t.rows.filter fun x => lane x.externalActorUri := by
  induction rows generalizing t with
  | nil => rfl
  | cons r rows ih =>
    rw [List.foldl_cons, ih fun x hx => h x (List.mem_cons_of_mem _ hx)]
    exact lane_insertNew lane (h r List.mem_cons_self)

variable {rawItems : List Json} {a : InboundActivity} {sources : List ExternalSource}

/-- The rows that are added are those of notes of the page. -/
theorem foldItems_eq_some (h : foldItems now source rawItems t = some t') :
    ∃ items : List ExternalNote,
      (∀ item ∈ items, ∃ raw ∈ rawItems, Note.normalize raw source.actorUri = some item) ∧
        t' = (items.map (row now source)).foldl insertNew t := by
  unfold foldItems at h
  dsimp only at h
  split at h
  · refine ⟨_, fun item hitem => ?_, (Option.some.inj h).symm⟩
    exact List.mem_filterMap.1 (mem_of_mem_eraseDupsBy hitem)
  · cases h

/-- New notes are content of the source. -/
theorem lane_foldItems (h : foldItems now source rawItems t = some t')
    (hlane : lane (some source.actorUri) = false) :
    (t'.rows.filter fun x => lane x.externalActorUri) =
      t.rows.filter fun x => lane x.externalActorUri := by
  obtain ⟨items, hitems, rfl⟩ := foldItems_eq_some h
  refine lane_insertAll lane fun r hr => ?_
  obtain ⟨item, hitem, rfl⟩ := List.mem_map.1 hr
  obtain ⟨raw, -, hraw⟩ := hitems item hitem
  rw [row, Note.normalize_actorUri hraw]
  exact hlane

theorem externalActorUri_of_isRowOf {objectId : String} {r : ExternalRow}
    (h : isRowOf source objectId r = true) : r.externalActorUri = some source.actorUri := by
  rw [isRowOf, Bool.and_eq_true, beq_iff_eq] at h
  exact h.2

/-- A change of the rows of the source. -/
theorem lane_update {objectId : String} {f : ExternalRow → ExternalRow}
    (hf : ∀ r, (f r).externalActorUri = r.externalActorUri)
    (h : t.update (isRowOf source objectId) f = some t')
    (hlane : lane (some source.actorUri) = false) :
    (t'.rows.filter fun x => lane x.externalActorUri) =
      t.rows.filter fun x => lane x.externalActorUri := by
  rw [Table.rows_of_commit h]
  refine filter_map_of_outside (fun r hr => ?_) t.rows
  rw [hf, externalActorUri_of_isRowOf hr]
  exact ⟨hlane, hlane⟩

/-- The activity updates a row that the source has. -/
def updates (source : ExternalSource) (a : InboundActivity) (t : ExternalTable) : Bool :=
  a.activityType == "Update" && a.objectId.any fun objectId => t.rows.any (isRowOf source objectId)

/-- What an activity of a source writes. -/
inductive Applied (now : Time) (source : ExternalSource) (a : InboundActivity) (t : ExternalTable) :
    ExternalTable → Prop
  | same (htype : a.activityType = "Update") : Applied now source a t t
  | added {t' : ExternalTable} (htype : a.activityType ∈ ["Create", "Update"])
      (hnone : updates source a t = false) (h : foldItems now source [a.payload] t = some t') :
      Applied now source a t t'
  | changed {objectId : String} {payload : Json} {itemCreatedAt : Time} {t' : ExternalTable}
      (hsome : updates source a t = true) (hid : a.objectId = some objectId)
      (hnote : (Note.normalize a.payload source.actorUri).isSome = true)
      (h : t.update (isRowOf source objectId) (fun r =>
        { r with payload := payload, itemCreatedAt := itemCreatedAt, deleted := false })
          = some t') :
      Applied now source a t t'
  | deleted {objectId : String} {t' : ExternalTable} (htype : a.activityType ∉ ["Create", "Update"])
      (hid : a.objectId = some objectId)
      (h : t.update (isRowOf source objectId) (fun r =>
        { r with deleted := true, opType := "delete" }) = some t') : Applied now source a t t'

theorem applied_of_applyActivity (h : applyActivity now source a t = some t') :
    Applied now source a t t' := by
  unfold applyActivity at h
  split at h
  · next htype =>
    refine .added (by rw [htype]; decide) ?_ h
    rw [updates, htype]
    rfl
  next hcreate =>
  split at h
  · next htype =>
    split at h
    · cases h
      exact .same htype
    next item hitem =>
    obtain ⟨objectId, hid, h⟩ := Option.bind_eq_some_iff.1 h
    have hupdates : updates source a t = t.rows.any (isRowOf source objectId) := by
      rw [updates, htype, hid]
      rfl
    dsimp only at h
    split at h
    · cases h
    split at h
    · next hany => exact .changed (hupdates.trans hany) hid (by rw [hitem]; rfl) h
    · next hany =>
      exact .added (by rw [htype]; decide) (hupdates.trans (Bool.not_eq_true _ ▸ hany)) h
  · next hupdate =>
    obtain ⟨objectId, hid, h⟩ := Option.bind_eq_some_iff.1 h
    exact .deleted (by simp [hcreate, hupdate]) hid h

theorem lane_applyActivity (h : applyActivity now source a t = some t')
    (hlane : lane (some source.actorUri) = false) :
    (t'.rows.filter fun x => lane x.externalActorUri) =
      t.rows.filter fun x => lane x.externalActorUri := by
  cases applied_of_applyActivity h with
  | same => rfl
  | added _ _ h => exact lane_foldItems lane h hlane
  | changed _ _ _ h =>
    refine lane_update lane (fun r => ?_) h hlane
    rfl
  | deleted _ _ h =>
    refine lane_update lane (fun r => ?_) h hlane
    rfl

/-- The source that an activity counts for. -/
def curated (sources : List ExternalSource) (a : InboundActivity) : Option ExternalSource :=
  if a.activityType ∈ ["Create", "Update", "Delete"] then
    (sources.find? (·.actorUri == a.remoteActor)).filter (·.enabled)
  else none

theorem curated_eq_some (h : curated sources a = some source) :
    source.actorUri = a.remoteActor ∧ a.activityType ∈ ["Create", "Update", "Delete"] := by
  unfold curated at h
  split at h
  · next htype =>
    have hfound := List.find?_some (Option.filter_eq_some_iff.1 h).1
    exact ⟨beq_iff_eq.1 hfound, htype⟩
  · cases h

theorem ingestActivity_eq (sources : List ExternalSource) (a : InboundActivity) :
    ingestActivity now sources a t =
      (curated sources a).elim (some t) fun source => applyActivity now source a t := by
  unfold ingestActivity curated
  split
  · cases sources.find? (·.actorUri == a.remoteActor) with
    | none => rfl
    | some source =>
      dsimp only
      rw [Option.filter_some]
      split <;> rfl
  · rfl

theorem lane_ingestActivity (h : ingestActivity now sources a t = some t')
    (hlane : lane (some a.remoteActor) = false) :
    (t'.rows.filter fun x => lane x.externalActorUri) =
      t.rows.filter fun x => lane x.externalActorUri := by
  rw [ingestActivity_eq] at h
  cases hsource : curated sources a with
  | none =>
    rw [hsource] at h
    rw [Option.some.inj h]
  | some source =>
    rw [hsource] at h
    exact lane_applyActivity lane h ((curated_eq_some hsource).1 ▸ hlane)

theorem lane_ingestSource (hlane : lane (some source.actorUri) = false) :
    ((ingestSource now source rawItems t).rows.filter fun x => lane x.externalActorUri) =
      t.rows.filter fun x => lane x.externalActorUri := by
  unfold ingestSource
  split
  · cases hfold : foldItems now source rawItems t with
    | none => rfl
    | some t' => exact lane_foldItems lane hfold hlane
  · rfl

/-! The content of one actor. -/

/-- **An activity changes the content of its sender.** -/
theorem ingestActivity_content (h : ingestActivity now sources a t = some t')
    (hne : a.remoteActor ≠ actorUri) : t'.contentOf actorUri = t.contentOf actorUri :=
  lane_ingestActivity (· == some actorUri) h
    (beq_false_of_ne fun heq => hne (Option.some.inj heq))

theorem ingestAll_content {page : List InboundActivity} (h : ∀ a ∈ page, a.remoteActor ≠ actorUri) :
    (ingestAll now sources page t).1.contentOf actorUri = t.contentOf actorUri := by
  induction page generalizing t with
  | nil => rfl
  | cons a rest ih =>
    rw [ingestAll]
    cases hingest : ingestActivity now sources a t with
    | none => rfl
    | some t' =>
      dsimp only
      rw [ih fun b hb => h b (List.mem_cons_of_mem _ hb)]
      exact ingestActivity_content hingest (h a List.mem_cons_self)

theorem ingestSource_content (hne : source.actorUri ≠ actorUri) :
    (ingestSource now source rawItems t).contentOf actorUri = t.contentOf actorUri :=
  lane_ingestSource (· == some actorUri)
    (beq_false_of_ne fun heq => hne (Option.some.inj heq))

end ExternalIngest

end AppView

end Ansible
