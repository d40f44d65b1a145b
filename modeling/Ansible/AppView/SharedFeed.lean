import Ansible.AppView.ExternalIngest
import Ansible.AppView.FolderSpec
import Ansible.Lib.Run

/-!
# Two lanes in one table

Native items and the notes of remote sources are rows of one table `feed_items`, whose op ids are
unique.  A note is filed under the id of its object, which is whatever its author chose: a page of
the relay log with an op of that id raises.  And an id that was deleted is free again.

## Main definitions

* `SharedFeed.fold`, `SharedFeed.poll`, `SharedFeed.activity` — the ways in.
* `Lanes`, `laneStep` — a run, beside the native folds alone and the deletions so far.
* `Separate` — the steps that keep this.

## Main results

* `isolated_of_separate` — **runs of such steps keep the lanes apart.**
-/

namespace Ansible

namespace AppView

open ExternalIngest

/-! ### The table -/

/-- A native item, by the columns that both lanes have. -/
def FeedItem.columns (r : FeedItem) : ExternalRow where
  opId := r.opId
  authorDid := r.authorDid
  entityType := r.entityType
  entityId := r.entityId
  opType := r.opType
  boardId := r.boardId
  visibility := r.visibility
  -- the external lane does not read the time of a native item, which may be null
  itemCreatedAt := r.itemCreatedAt.getD 0
  payload := r.payload
  authorTier := r.authorTier
  deleted := r.deleted
  sigVerified := r.sigVerified
  source := r.source
  externalActorUri := none
  externalInstance := none
  complianceLevel := none

def ExternalRow.IsExternal (r : ExternalRow) : Prop :=
  r.source = "activitypub" ∧ r.externalActorUri.isSome = true

def ExternalTable.nativeRows (t : ExternalTable) : List ExternalRow :=
  t.rows.filter fun r => r.externalActorUri.isNone

def ExternalTable.externalRows (t : ExternalTable) : List ExternalRow :=
  t.rows.filter fun r => r.externalActorUri.isSome

/-- The read models of the native lane, and the other rows of its table of feed items. -/
structure SharedFeed where
  native : Projection
  external : List ExternalRow
  op_id : UniqueOn (·.opId) (fun _ => true)
    (native.feedItems.rows.map FeedItem.columns ++ external)
  lane : ∀ r ∈ external, r.IsExternal

namespace SharedFeed

def empty : SharedFeed := ⟨.empty, [], by decide, fun _ h => absurd h List.not_mem_nil⟩

/-- All rows of `feed_items`. -/
def table (s : SharedFeed) : ExternalTable :=
  ⟨s.native.feedItems.rows.map FeedItem.columns ++ s.external, s.op_id⟩

theorem nativeRows_table (s : SharedFeed) :
    s.table.nativeRows = s.native.feedItems.rows.map FeedItem.columns := by
  have hnative : (s.native.feedItems.rows.map FeedItem.columns).filter
      (fun r => r.externalActorUri.isNone) = s.native.feedItems.rows.map FeedItem.columns :=
    List.filter_eq_self.2 fun x hx => by
      obtain ⟨r, -, rfl⟩ := List.mem_map.1 hx
      rfl
  have hexternal : s.external.filter (fun r => r.externalActorUri.isNone) = [] :=
    List.filter_eq_nil_iff.2 fun x hx => by
      rw [Option.isNone_iff_eq_none, ← Option.not_isSome_iff_eq_none, not_not]
      exact (s.lane x hx).2
  rw [ExternalTable.nativeRows, table, List.filter_append, hnative, hexternal, List.append_nil]

theorem externalRows_table (s : SharedFeed) : s.table.externalRows = s.external := by
  have hnative : (s.native.feedItems.rows.map FeedItem.columns).filter
      (fun r => r.externalActorUri.isSome) = [] :=
    List.filter_eq_nil_iff.2 fun x hx => by
      obtain ⟨r, -, rfl⟩ := List.mem_map.1 hx
      exact Bool.false_ne_true
  rw [ExternalTable.externalRows, table, List.filter_append, hnative, List.nil_append]
  exact List.filter_eq_self.2 fun x hx => (s.lane x hx).2

theorem mem_external {s : SharedFeed} {r : ExternalRow} (h : r ∈ s.table.rows)
    (hsome : r.externalActorUri.isSome = true) : r ∈ s.external := by
  rw [← externalRows_table]
  exact List.mem_filter.2 ⟨h, hsome⟩

theorem external_opId (s : SharedFeed) : UniqueOn (·.opId) (fun _ => true) s.external :=
  s.op_id.sublist (List.sublist_append_right _ _)

/-- The rows after an ingestion that kept the native ones. -/
def after (s : SharedFeed) (t : ExternalTable) (hnative : t.nativeRows = s.table.nativeRows)
    (hlane : ∀ r ∈ t.externalRows, r.IsExternal) : SharedFeed where
  native := s.native
  external := t.externalRows
  op_id := by
    have hperm : (t.nativeRows ++ t.externalRows).Perm t.rows := by
      have hnot : t.externalRows = t.rows.filter fun r => !r.externalActorUri.isNone :=
        List.filter_congr fun r _ => by cases r.externalActorUri <;> rfl
      rw [hnot]
      exact List.filter_append_perm _ _
    rw [← nativeRows_table, ← hnative, UniqueOn]
    exact ((hperm.filter _).map _).nodup_iff.2 t.valid
  lane := hlane

end SharedFeed

/-! ### Where the rows of an ingestion come from -/

namespace ExternalIngest

variable {now : Time} {source : ExternalSource} {t t' : ExternalTable} {x : ExternalRow}

theorem mem_insertNew {r : ExternalRow} (h : x ∈ (insertNew t r).rows) :
    x ∈ t.rows ∨ x = r ∧ ∀ y ∈ t.rows, y.opId ≠ r.opId := by
  unfold insertNew at h
  cases hinsert : t.insert r with
  | none =>
    rw [hinsert] at h
    exact .inl h
  | some t' =>
    have hrows := Table.rows_of_commit hinsert
    rw [hinsert, Option.getD_some, hrows, List.mem_append, List.mem_singleton] at h
    have hfresh := UniqueOn.ne_of_append (hrows ▸ t'.valid)
    exact h.imp id fun hx => ⟨hx, hfresh⟩

theorem mem_insertAll {rows : List ExternalRow} (h : x ∈ (rows.foldl insertNew t).rows) :
    x ∈ t.rows ∨ x ∈ rows ∧ ∀ y ∈ t.rows, y.opId ≠ x.opId := by
  induction rows generalizing t with
  | nil => exact .inl h
  | cons r rows ih =>
    rcases ih h with hold | ⟨hx, hfresh⟩
    · rcases mem_insertNew hold with hx | ⟨rfl, hfresh⟩
      · exact .inl hx
      · exact .inr ⟨List.mem_cons_self, hfresh⟩
    · refine .inr ⟨List.mem_cons_of_mem _ hx, fun y hy => hfresh y ?_⟩
      unfold insertNew
      cases hinsert : t.insert r with
      | none => exact hy
      | some t' =>
        rw [Option.getD_some, Table.rows_of_commit hinsert]
        exact List.mem_append_left _ hy

/-- A row is an old one, or that of a note under a new id. -/
theorem mem_foldItems {rawItems : List Json} (h : foldItems now source rawItems t = some t')
    (hx : x ∈ t'.rows) : x ∈ t.rows ∨
      ∃ item ∈ rawItems.filterMap (Note.normalize · source.actorUri),
      x = row now source item ∧ item.actorUri = source.actorUri ∧
        ∀ y ∈ t.rows, y.opId ≠ item.objectId := by
  obtain ⟨items, hitems, rfl⟩ := foldItems_eq_some h
  refine (mem_insertAll hx).imp id ?_
  rintro ⟨hrow, hfresh⟩
  obtain ⟨item, hitem, rfl⟩ := List.mem_map.1 hrow
  obtain ⟨raw, hraw, hnote⟩ := hitems item hitem
  exact ⟨item, List.mem_filterMap.2 ⟨raw, hraw, hnote⟩, rfl, Note.normalize_actorUri hnote, hfresh⟩

end ExternalIngest

/-! ### The steps -/

namespace SharedFeed

/-- An external row that is in the lane already, or one that the source wrote. -/
theorem isExternal_of_foldItems {now : Time} {source : ExternalSource} {rawItems : List Json}
    {s : SharedFeed} {t : ExternalTable} (h : foldItems now source rawItems s.table = some t) :
    ∀ r ∈ t.externalRows, r.IsExternal := by
  intro r hr
  obtain ⟨hmem, hsome⟩ := List.mem_filter.1 hr
  rcases mem_foldItems h hmem with hold | ⟨item, -, rfl, -⟩
  · exact s.lane r (mem_external hold hsome)
  · exact ⟨rfl, rfl⟩

theorem isExternal_of_update {p : ExternalRow → Bool} {f : ExternalRow → ExternalRow}
    (hf : ∀ r, (f r).source = r.source ∧ (f r).externalActorUri = r.externalActorUri)
    {s : SharedFeed} {t : ExternalTable} (h : s.table.update p f = some t) :
    ∀ r ∈ t.externalRows, r.IsExternal := by
  intro r hr
  obtain ⟨hmem, hsome⟩ := List.mem_filter.1 hr
  rw [Table.rows_of_commit h] at hmem
  obtain ⟨r₀, hr₀, rfl⟩ := List.mem_map.1 hmem
  split at hsome
  · rw [if_pos (by assumption), ExternalRow.IsExternal, (hf r₀).1, (hf r₀).2]
    rw [(hf r₀).2] at hsome
    exact s.lane r₀ (mem_external hr₀ hsome)
  · rw [if_neg (by assumption)]
    exact s.lane r₀ (mem_external hr₀ hsome)

theorem isExternal_of_activity {now : Time} {sources : List ExternalSource} {a : InboundActivity}
    {s : SharedFeed} {t : ExternalTable} (h : ingestActivity now sources a s.table = some t) :
    ∀ r ∈ t.externalRows, r.IsExternal := by
  rw [ingestActivity_eq] at h
  have hsame : ∀ r ∈ s.table.externalRows, r.IsExternal := by
    rw [externalRows_table]
    exact s.lane
  cases hsource : curated sources a with
  | none =>
    rw [hsource] at h
    cases h
    exact hsame
  | some source =>
    rw [hsource] at h
    cases applied_of_applyActivity h with
    | same => exact hsame
    | added _ _ h => exact isExternal_of_foldItems h
    | changed _ _ _ h =>
      refine isExternal_of_update (fun r => ?_) h
      exact ⟨rfl, rfl⟩
    | deleted _ _ h =>
      refine isExternal_of_update (fun r => ?_) h
      exact ⟨rfl, rfl⟩

theorem isExternal_of_source {now : Time} {source : ExternalSource} {rawItems : List Json}
    (s : SharedFeed) : ∀ r ∈ (ingestSource now source rawItems s.table).externalRows,
      r.IsExternal := by
  unfold ingestSource
  split
  · cases hfold : foldItems now source rawItems s.table with
    | none =>
      rw [Option.getD_none, externalRows_table]
      exact s.lane
    | some t => exact isExternal_of_foldItems hfold
  · rw [externalRows_table]
    exact s.lane

/-- A poll of the outbox of a source. -/
def poll (now : Time) (source : ExternalSource) (rawItems : List Json) (s : SharedFeed) :
    SharedFeed :=
  s.after (ingestSource now source rawItems s.table)
    (lane_ingestSource Option.isNone rfl) (isExternal_of_source s)

/-- An activity of the inbox log; `none` when it raises. -/
def activity (now : Time) (sources : List ExternalSource) (a : InboundActivity) (s : SharedFeed) :
    Option SharedFeed :=
  match h : ingestActivity now sources a s.table with
  | some t =>
    some (s.after t (lane_ingestActivity Option.isNone h rfl)
      (isExternal_of_activity h))
  | none => none

/-- `apply_deletions` goes by entity and author, whatever the lane. -/
def hideExternal (pairs : List (String × String)) (r : ExternalRow) : ExternalRow :=
  if pairs.contains (r.entityId, r.authorDid) then { r with deleted := true } else r

theorem hideExternal_cases (pairs : List (String × String)) (r : ExternalRow) :
    hideExternal pairs r = r ∨ hideExternal pairs r = { r with deleted := true } := by
  unfold hideExternal
  split
  · exact .inr rfl
  · exact .inl rfl

/-- The rows of both lanes; `none` when an op id is not unique. -/
def commit (native : Projection) (external : List ExternalRow)
    (hlane : ∀ r ∈ external, r.IsExternal) : Option SharedFeed :=
  if h : UniqueOn (·.opId) (fun _ => true)
      (native.feedItems.rows.map FeedItem.columns ++ external) then
    some ⟨native, external, h, hlane⟩
  else none

theorem isExternal_hideExternal (pairs : List (String × String)) (s : SharedFeed) :
    ∀ r ∈ s.external.map (hideExternal pairs), r.IsExternal := by
  intro x hx
  obtain ⟨r, hr, rfl⟩ := List.mem_map.1 hx
  rcases hideExternal_cases pairs r with h | h
  · rw [h]
    exact s.lane r hr
  · rw [h]
    exact s.lane r hr

/-- A page of the relay log, folded into the table that has external rows as well: `insert_all`
raises when one of them has the op id of a native row. -/
def fold (P : Platform) (ops : List Op) (s : SharedFeed) :
    Option ((ℕ × Option ℤ) × SharedFeed) := do
  let (result, native) ← applyOps P ops s.native
  let feed ← commit native (s.external.map (hideExternal (deletionPairs (ops.map (prepareOp P)))))
    (isExternal_hideExternal _ s)
  return (result, feed)

end SharedFeed

/-- A run of both lanes, beside what the native folds alone give. -/
structure Lanes where
  feed : SharedFeed
  /-- the read models of the native folds alone -/
  alone : Projection
  /-- every native fold came out as it does alone -/
  agreed : Bool
  /-- the deletions that were ingested, each with its actor -/
  deletes : List (String × String)

def Lanes.empty : Lanes := ⟨.empty, .empty, true, []⟩

inductive LaneStep
  | native (ops : List Op)
  | poll (now : Time) (source : ExternalSource) (rawItems : List Json)
  | activity (now : Time) (sources : List ExternalSource) (a : InboundActivity)

/-- The object that an activity deletes, with its actor. -/
def deletesOf (sources : List ExternalSource) (a : InboundActivity) : List (String × String) :=
  match curated sources a, a.objectId with
  | some source, some objectId =>
    if a.activityType = "Delete" then [(source.actorUri, objectId)] else []
  | _, _ => []

def laneStep (P : Platform) (s : Lanes) : LaneStep → Lanes
  | .native ops =>
    { s with
      feed := (s.feed.fold P ops).elim s.feed (·.2)
      alone := (applyOps P ops s.alone).elim s.alone (·.2)
      agreed := s.agreed &&
        decide ((s.feed.fold P ops).map (·.1) = (applyOps P ops s.alone).map (·.1)) }
  | .poll now source rawItems => { s with feed := s.feed.poll now source rawItems }
  | .activity now sources a =>
    match s.feed.activity now sources a with
    | some feed => { s with feed := feed, deletes := deletesOf sources a ++ s.deletes }
    | none => s

/-- The lanes do not disturb each other: the native lane is as the native folds alone make it, an
object has one row, which belongs to the actor that controls its id, and a row that its actor
deleted is not shown. -/
structure Isolated (controller : String → String) (s : Lanes) : Prop where
  native : s.feed.native = s.alone
  agreed : s.agreed = true
  one : UniqueOn (·.opId) (fun _ => true) s.feed.external
  owned : ∀ r ∈ s.feed.external, r.externalActorUri = some (controller r.opId)
  final : ∀ r ∈ s.feed.external, ∀ actor,
    (actor, r.opId) ∈ s.deletes → r.externalActorUri = some actor → r.deleted = true

/-! ### The steps that keep the lanes apart -/

/-- A note under an id that is taken is passed over.  Another one is of an object that its source
controls, and has not deleted. -/
def Admitted (controller : String → String) (s : Lanes) (source : ExternalSource)
    (rawItems : List Json) : Prop :=
  ∀ item ∈ rawItems.filterMap (Note.normalize · source.actorUri),
    (∃ r ∈ s.feed.table.rows, r.opId = item.objectId) ∨
      controller item.objectId = source.actorUri ∧ (source.actorUri, item.objectId) ∉ s.deletes

/-- No op of the page has the id of an external object, new notes are admitted, and an update does
not revive a row. -/
def Separate (P : Platform) (controller : String → String) (s : Lanes) : LaneStep → Prop
  | .native ops =>
    ∀ e ∈ ops.map (prepareOp P), isContent e = true → ∀ r ∈ s.feed.external, r.opId ≠ e.op.opId
  | .poll _ source rawItems => source.enabled = true → Admitted controller s source rawItems
  | .activity _ sources a => ∀ source ∈ curated sources a,
    if updates source a s.feed.table = true then
      (Note.normalize a.payload source.actorUri).isSome = true →
        ∀ objectId ∈ a.objectId, (source.actorUri, objectId) ∉ s.deletes
    else a.activityType = "Delete" ∨ Admitted controller s source [a.payload]

instance (controller : String → String) (s : Lanes) (source : ExternalSource)
    (rawItems : List Json) : Decidable (Admitted controller s source rawItems) :=
  inferInstanceAs (Decidable (∀ item ∈ rawItems.filterMap (Note.normalize · source.actorUri),
    (∃ r ∈ s.feed.table.rows, r.opId = item.objectId) ∨
      controller item.objectId = source.actorUri ∧ (source.actorUri, item.objectId) ∉ s.deletes))

instance (P : Platform) (controller : String → String) (s : Lanes) :
    ∀ step, Decidable (Separate P controller s step)
  | .native ops => inferInstanceAs (Decidable (∀ e ∈ ops.map (prepareOp P), isContent e = true →
      ∀ r ∈ s.feed.external, r.opId ≠ e.op.opId))
  | .poll _ source rawItems =>
    inferInstanceAs (Decidable (source.enabled = true → Admitted controller s source rawItems))
  | .activity _ sources a => inferInstanceAs (Decidable (∀ source ∈ curated sources a,
      if updates source a s.feed.table = true then
        (Note.normalize a.payload source.actorUri).isSome = true →
          ∀ objectId ∈ a.objectId, (source.actorUri, objectId) ∉ s.deletes
      else a.activityType = "Delete" ∨ Admitted controller s source [a.payload]))

variable {P : Platform} {controller : String → String} {s : Lanes}

/-- A page without an op of an external object folds as it does alone. -/
theorem fold_eq_some {ops : List Op} {feed : SharedFeed} {result : ℕ × Option ℤ}
    {native : Projection}
    (hsep : ∀ e ∈ ops.map (prepareOp P), isContent e = true →
      ∀ r ∈ feed.external, r.opId ≠ e.op.opId)
    (h : applyOps P ops feed.native = some (result, native)) :
    ∃ feed' : SharedFeed, feed.fold P ops = some (result, feed') ∧ feed'.native = native ∧
      feed'.external = feed.external.map
        (SharedFeed.hideExternal (deletionPairs (ops.map (prepareOp P)))) := by
  have hids : ∀ r, (SharedFeed.hideExternal (deletionPairs (ops.map (prepareOp P))) r).opId =
      r.opId := fun r => by
    rcases SharedFeed.hideExternal_cases _ r with heq | heq <;> rw [heq]
  -- the two lanes keep distinct op ids
  have hdisjoint : ∀ x ∈ native.feedItems.rows, ∀ r ∈ feed.external, x.opId ≠ r.opId := by
    obtain ⟨n, hn⟩ := applyOps_eq_some h
    intro x hx r hr
    rcases mem_of_foldPrepared hn hx with ⟨e, he, hrow⟩ | ⟨x₀, hx₀, rfl⟩
    · obtain ⟨hcontent, hrow⟩ := contentRow_eq_some.1 hrow
      rw [(row_eq_some hrow).opId]
      exact (hsep e he hcontent r hr).symm
    · rw [opId_hide]
      have hunique := feed.op_id
      rw [UniqueOn, List.filter_true, List.map_append, List.nodup_append] at hunique
      exact hunique.2.2 x₀.columns.opId (List.mem_map_of_mem (List.mem_map_of_mem hx₀)) r.opId
        (List.mem_map_of_mem hr)
  have hunique : UniqueOn (·.opId) (fun _ => true)
      (native.feedItems.rows.map FeedItem.columns ++
        feed.external.map (SharedFeed.hideExternal (deletionPairs (ops.map (prepareOp P))))) := by
    have hnative : (native.feedItems.rows.map FeedItem.columns).map (·.opId) =
        native.feedItems.rows.map (·.opId) := List.map_map
    have hexternal := feed.external_opId.map hids fun _ _ => rfl
    have hop := native.feedItems.valid.op_id
    rw [UniqueOn, List.filter_true] at hexternal hop ⊢
    rw [List.map_append, List.nodup_append, hnative]
    refine ⟨hop, hexternal, ?_⟩
    intro a ha b hb
    obtain ⟨x, hx, rfl⟩ := List.mem_map.1 ha
    obtain ⟨y, hy, rfl⟩ := List.mem_map.1 hb
    obtain ⟨r, hr, rfl⟩ := List.mem_map.1 hy
    rw [hids]
    exact hdisjoint x hx r hr
  refine ⟨⟨native, _, hunique, SharedFeed.isExternal_hideExternal _ feed⟩, ?_, rfl, rfl⟩
  rw [SharedFeed.fold, h]
  simp only [Option.bind_eq_bind, Option.bind_some, SharedFeed.commit, dif_pos hunique,
    Option.pure_def]

theorem isolated_native {ops : List Op} (h : Isolated controller s)
    (hsep : Separate P controller s (.native ops)) :
    Isolated controller (laneStep P s (.native ops)) := by
  dsimp only [laneStep]
  rw [← h.native, h.agreed]
  cases hfold : applyOps P ops s.feed.native with
  | none =>
    have hshared : s.feed.fold P ops = none := by
      rw [SharedFeed.fold, hfold]
      rfl
    rw [hshared]
    exact ⟨rfl, rfl, h.one, h.owned, h.final⟩
  | some r =>
    obtain ⟨result, native⟩ := r
    obtain ⟨feed, hshared, hnative, hexternal⟩ := fold_eq_some hsep hfold
    rw [hshared]
    refine ⟨hnative, by simp, feed.external_opId, ?_, ?_⟩
    · intro x hx
      rw [Option.elim_some, hexternal] at hx
      obtain ⟨r, hr, rfl⟩ := List.mem_map.1 hx
      rcases SharedFeed.hideExternal_cases _ r with heq | heq <;> rw [heq]
      · exact h.owned r hr
      · exact h.owned r hr
    · intro x hx
      rw [Option.elim_some, hexternal] at hx
      obtain ⟨r, hr, rfl⟩ := List.mem_map.1 hx
      rcases SharedFeed.hideExternal_cases _ r with heq | heq <;> rw [heq]
      · exact h.final r hr
      · exact fun _ _ _ => rfl

/-- A row of an object has its controller as its actor, and is hidden once that actor deleted the
object. -/
structure Placed (controller : String → String) (deletes : List (String × String))
    (r : ExternalRow) : Prop where
  owned : r.externalActorUri = some (controller r.opId)
  final : ∀ actor, (actor, r.opId) ∈ deletes → r.externalActorUri = some actor → r.deleted = true

theorem Isolated.placed (h : Isolated controller s) {r : ExternalRow} (hr : r ∈ s.feed.table.rows)
    (hsome : r.externalActorUri.isSome = true) : Placed controller s.deletes r :=
  have hmem := SharedFeed.mem_external hr hsome
  ⟨h.owned r hmem, h.final r hmem⟩

variable {t : ExternalTable} {source : ExternalSource}

/-- An ingestion keeps the native lane; what matters are the external rows. -/
theorem Isolated.after {deletes : List (String × String)} (h : Isolated controller s)
    (hnative : t.nativeRows = s.feed.table.nativeRows) (hlane : ∀ r ∈ t.externalRows, r.IsExternal)
    (hrows : ∀ r ∈ t.externalRows, Placed controller deletes r) :
    Isolated controller { s with feed := s.feed.after t hnative hlane, deletes := deletes } where
  native := h.native
  agreed := h.agreed
  one := (s.feed.after t hnative hlane).external_opId
  owned := fun r hr => (hrows r hr).owned
  final := fun r hr => (hrows r hr).final

theorem placed_of_foldItems {now : Time} {rawItems : List Json} (h : Isolated controller s)
    (hnotes : Admitted controller s source rawItems)
    (hfold : foldItems now source rawItems s.feed.table = some t) :
    ∀ r ∈ t.externalRows, Placed controller s.deletes r := by
  intro r hr
  obtain ⟨hmem, hsome⟩ := List.mem_filter.1 hr
  rcases mem_foldItems hfold hmem with hold | ⟨item, hitem, rfl, hactor, hfresh⟩
  · exact h.placed hold hsome
  rcases hnotes item hitem with ⟨y, hy, htaken⟩ | ⟨hcontrols, hdeleted⟩
  · exact absurd htaken (hfresh y hy)
  · refine ⟨?_, fun actor hmem hself => ?_⟩
    · exact congrArg some (hactor.trans hcontrols.symm)
    · have hself : item.actorUri = actor := Option.some.inj hself
      rw [← hself, hactor] at hmem
      exact absurd hmem hdeleted

/-- A change of the rows of a source about one object. -/
theorem placed_of_update {objectId : String} {f : ExternalRow → ExternalRow}
    {deletes : List (String × String)} (h : Isolated controller s)
    (hkeys : ∀ r, (f r).opId = r.opId ∧ (f r).externalActorUri = r.externalActorUri)
    (hupdate : s.feed.table.update (isRowOf source objectId) f = some t)
    (hchanged : (source.actorUri, objectId) ∉ deletes ∨ ∀ r, (f r).deleted = true)
    (hdeletes : ∀ p ∈ deletes, p ∈ s.deletes ∨ p = (source.actorUri, objectId)) :
    ∀ r ∈ t.externalRows, Placed controller deletes r := by
  intro x hx
  obtain ⟨hmem, hsome⟩ := List.mem_filter.1 hx
  rw [Table.rows_of_commit hupdate] at hmem
  obtain ⟨r, hr, rfl⟩ := List.mem_map.1 hmem
  by_cases hrow : isRowOf source objectId r = true
  · have hmine := externalActorUri_of_isRowOf hrow
    have hplaced := h.placed hr (by rw [hmine]; rfl)
    rw [if_pos hrow]
    refine ⟨?_, fun actor hdeleted hactor => ?_⟩
    · rw [(hkeys r).1, (hkeys r).2]
      exact hplaced.owned
    · rcases hchanged with hnot | hall
      · have hid : r.opId = objectId := by
          rw [isRowOf, Bool.and_eq_true, Bool.and_eq_true, beq_iff_eq] at hrow
          exact hrow.1.1
        rw [(hkeys r).2, hmine] at hactor
        rw [(hkeys r).1, hid, ← Option.some.inj hactor] at hdeleted
        exact absurd hdeleted hnot
      · exact hall r
  · rw [if_neg hrow] at hsome ⊢
    have hplaced := h.placed hr hsome
    refine ⟨hplaced.owned, fun actor hdeleted hactor => ?_⟩
    rcases hdeletes _ hdeleted with hold | hnew
    · exact hplaced.final actor hold hactor
    · -- a row of the deleted object and of the actor is one that the update changes
      obtain ⟨rfl, hid⟩ := Prod.mk.inj hnew
      have hlane := s.feed.lane r (SharedFeed.mem_external hr hsome)
      refine absurd ?_ hrow
      rw [isRowOf, hid, hlane.1, hactor]
      simp

theorem isolated_poll {now : Time} {rawItems : List Json} (h : Isolated controller s)
    (hsep : Separate P controller s (.poll now source rawItems)) :
    Isolated controller (laneStep P s (.poll now source rawItems)) := by
  refine h.after _ _ ?_
  unfold ingestSource
  have hsame : ∀ r ∈ s.feed.table.externalRows, Placed controller s.deletes r := by
    intro r hr
    obtain ⟨hmem, hsome⟩ := List.mem_filter.1 hr
    exact h.placed hmem hsome
  split
  · next henabled =>
    cases hfold : foldItems now source rawItems s.feed.table with
    | none => exact hsame
    | some t => exact placed_of_foldItems h (hsep henabled) hfold
  · exact hsame

theorem isolated_activity {now : Time} {sources : List ExternalSource} {a : InboundActivity}
    (h : Isolated controller s) (hsep : Separate P controller s (.activity now sources a)) :
    Isolated controller (laneStep P s (.activity now sources a)) := by
  dsimp only [laneStep, SharedFeed.activity]
  have hsame : ∀ r ∈ s.feed.table.externalRows, Placed controller s.deletes r := by
    intro r hr
    obtain ⟨hmem, hsome⟩ := List.mem_filter.1 hr
    exact h.placed hmem hsome
  split
  swap
  · exact h
  next feed hfeed =>
  split at hfeed
  swap
  · cases hfeed
  next t ht =>
  cases hfeed
  refine h.after _ _ ?_
  rw [ingestActivity_eq] at ht
  cases hsource : curated sources a with
  | none =>
    rw [hsource] at ht
    cases ht
    rw [deletesOf, hsource]
    exact hsame
  | some source =>
    rw [hsource] at ht
    have hok := hsep source hsource
    -- only a `Delete` is entered among the deletions
    have hkept : a.activityType ≠ "Delete" → deletesOf sources a ++ s.deletes = s.deletes := by
      intro htype
      rw [deletesOf, hsource]
      cases a.objectId with
      | none => rfl
      | some objectId =>
        dsimp only
        rw [if_neg htype]
        rfl
    cases applied_of_applyActivity ht with
    | same htype =>
      rw [hkept (by rw [htype]; decide)]
      exact hsame
    | added htype hnone hfold =>
      have hne : a.activityType ≠ "Delete" := by
        intro hdelete
        rw [hdelete] at htype
        exact absurd htype (by decide)
      rw [hkept hne]
      rw [hnone, if_neg Bool.false_ne_true] at hok
      exact placed_of_foldItems h (hok.resolve_left hne) hfold
    | changed hsome hid hnote hupdate =>
      have hne : a.activityType ≠ "Delete" := by
        intro hdelete
        rw [updates, hdelete, Bool.and_eq_true] at hsome
        exact absurd hsome.1 (by decide)
      rw [hkept hne]
      rw [hsome, if_pos rfl] at hok
      refine placed_of_update h (fun r => ?_) hupdate (.inl (hok hnote _ hid))
        fun p hp => .inl hp
      exact ⟨rfl, rfl⟩
    | deleted htype hid hupdate =>
      refine placed_of_update h (fun r => ?_) hupdate (.inr fun r => ?_) fun p hp => ?_
      · -- the row is hidden, and the deletion is recorded with its actor
        exact ⟨rfl, rfl⟩
      · rfl
      rcases List.mem_append.1 hp with hp | hp
      · rw [deletesOf, hsource, hid] at hp
        dsimp only at hp
        split at hp
        · exact .inr (List.mem_singleton.1 hp)
        · exact absurd hp List.not_mem_nil
      · exact .inl hp

theorem isolated_step (step : LaneStep) (h : Isolated controller s)
    (hsep : Separate P controller s step) : Isolated controller (laneStep P s step) := by
  cases step with
  | native ops => exact isolated_native h hsep
  | poll now source rawItems => exact isolated_poll h hsep
  | activity now sources a => exact isolated_activity h hsep

theorem isolated_empty : Isolated controller .empty where
  native := rfl
  agreed := rfl
  one := by decide
  owned := fun _ h => absurd h List.not_mem_nil
  final := fun _ h => absurd h List.not_mem_nil

/-- **Runs of such steps keep the lanes apart.** In every state of the run the native lane is as
the native folds alone make it, and an external object has one row, of the actor that controls it,
which is hidden once that actor deleted it.  Both lanes write to one table under one unique
identifier; as long as they do not share one, each upsert meets a row of its own lane only. -/
theorem isolated_of_separate {run : List LaneStep}
    (h : Along (laneStep P) (Separate P controller) .empty run) :
    ∀ bs cs, run = bs ++ cs → Isolated controller (exec (laneStep P) .empty bs) := by
  rintro bs cs rfl
  exact (along_append.1 h).1.invariant (fun _ step hs hsep => isolated_step step hs hsep)
    isolated_empty

/-! ### Notes that disturb -/

def toyLaneSource : ExternalSource where
  actorUri := "https://b.example/bob"
  complianceLevel := "basic"
  enabled := true
  boardId := none

def toyNote (id : String) : Json :=
  .obj [("id", .str id), ("type", .str "Note"), ("to", .str ActivityBuilder.publicCollection)]

def toyNoteActivity (activityType objectId : String) : InboundActivity where
  id := 1
  activityId := "https://b.example/1"
  localActor := "alice"
  remoteActor := "https://b.example/bob"
  activityType
  objectId := some objectId
  payload := toyNote objectId
  receivedAt := 1

/-- A note, a page of the relay log, and the deletion of the note. -/
def toyLanes : List LaneStep :=
  [.poll 1 toyLaneSource [toyNote "n"], .native [toyOp 1 "a" "insert"],
    .activity 2 [toyLaneSource] (toyNoteActivity "Delete" "n")]

theorem isolated_toyLanes :
    Isolated (fun _ => toyLaneSource.actorUri) (exec (laneStep Platform.toy) .empty toyLanes) :=
  isolated_of_separate (by decide +kernel) toyLanes [] (List.append_nil _).symm

/-- A note has the id of an op, which the relay log has later. -/
def toyCollision : List LaneStep :=
  [.poll 1 toyLaneSource [toyNote "a"], .native [toyOp 1 "a" "insert"]]

/-- A note is deleted, and then updated. -/
def toyRevival : List LaneStep :=
  [.poll 1 toyLaneSource [toyNote "n"], .activity 2 [toyLaneSource] (toyNoteActivity "Delete" "n"),
    .activity 3 [toyLaneSource] (toyNoteActivity "Update" "n")]

/-- The page of the relay log raises, and the deleted note is shown again. -/
theorem lanes_collide :
    ¬ Isolated (fun _ => toyLaneSource.actorUri)
      (exec (laneStep Platform.toy) .empty toyCollision) ∧
      ¬ Isolated (fun _ => toyLaneSource.actorUri)
        (exec (laneStep Platform.toy) .empty toyRevival) := by
  constructor
  · intro h
    have hraised : (exec (laneStep Platform.toy) .empty toyCollision).agreed = false := by
      decide +kernel
    exact absurd (h.agreed.symm.trans hraised) (by decide)
  · intro h
    have hshown : (("https://b.example/bob", "n") ∈
          (exec (laneStep Platform.toy) .empty toyRevival).deletes) ∧
        ((exec (laneStep Platform.toy) .empty toyRevival).feed.external.any fun r =>
          r.opId == "n" && r.externalActorUri == some "https://b.example/bob" && !r.deleted) =
            true := by decide +kernel
    obtain ⟨hdeleted, hany⟩ := hshown
    obtain ⟨r, hr, hrow⟩ := List.any_eq_true.1 hany
    rw [Bool.and_eq_true, Bool.and_eq_true, beq_iff_eq, beq_iff_eq] at hrow
    obtain ⟨⟨hid, hactor⟩, hvisible⟩ := hrow
    rw [h.final r hr _ (hid.symm ▸ hdeleted) hactor] at hvisible
    exact absurd hvisible (by decide)

end AppView

end Ansible
