import Ansible.AppView.FolderReplay

/-!
# Ops that a column refuses

The verification of an op is guarded, so that an op which raises there is set aside.  The
writes of a page are not: a value of the payload goes to its column as it is, and one that
the column refuses takes the whole page with it.

## Main definitions

* `followFits`, `profileFits`, `contentFits` — the columns hold what an op writes.
* `SameModels` — the read models of two folds differ in deletion marks at most.

## Main results

* `applyOps_isSome_iff`, `foldPages_isSome_iff` — **pages return exactly when all their ops are
  harmless.**
* `models_of_log` — **it does not matter where the log is cut into pages.**
-/

namespace Ansible

namespace AppView

/-! ### Harmless ops -/

/-- The value is absent or a text that fits its column. -/
def textFits (fits : String → Bool) : Json → Bool
  | .null => true
  | .str s => fits s
  | _ => false

/-- The followed author fits its column, if the follow is indexed. -/
def followFits (op : Op) (payload : Json) : Bool :=
  (payload.fetch "visibility").str? != some "federated" ||
    match payload.fetch "targetDid" with
    | .str author =>
      author == "" || if op.opType == "delete" then fitsText author else fitsVarchar author
    | _ => true

def profileFits (payload : Json) : Bool :=
  textFits fitsVarchar (payload.fetch "handle") &&
  textFits fitsVarchar (payload.fetch "displayName") &&
  textFits fitsText (payload.fetch "bio") &&
  textFits fitsVarchar (payload.fetch "avatarUrl")

/-- The members of a content payload fit their columns, and the payload as a whole its own. -/
def contentFits (e : Prepared) : Bool :=
  ((e.payload.fetch "web_author_proof").isNull || (e.payload.fetch "web_author_proof").isObj) &&
  textFits fitsVarchar (e.payload.fetch "boardId") &&
  textFits fitsVarchar (e.payload.fetch "threadId") &&
  textFits fitsVarchar (e.payload.fetch "visibility") &&
  (itemCreatedAt e).all (fun t => decide (minTimestamp ≤ t)) &&
  fitsJsonb e.payload

/-- The profile op writes an entry. -/
def listsProfile (op : Op) (payload : Json) : Bool :=
  profileDid op != "" && op.opType != "delete" && profilePublic payload

/-- No column refuses what the op writes, if it writes at all. -/
def harmless (e : Prepared) : Bool :=
  !e.verified ||
    if e.op.entityType == "follow" then followFits e.op e.payload
    else if e.op.entityType == "profile" then
      !listsProfile e.op e.payload || profileFits e.payload
    else !isContent e || contentFits e

theorem textColumn_isSome (fits : String → Bool) (j : Json) :
    (textColumn fits j).isSome = textFits fits j := by
  cases j with
  | str s =>
    rw [textColumn, textFits]
    cases fits s <;> rfl
  | _ => rfl

theorem isSome_bind {α β : Type} {o : Option α} {f : α → Option β} {b : Bool}
    (h : ∀ a, (f a).isSome = b) : (o.bind f).isSome = (o.isSome && b) := by
  cases o with
  | none => rfl
  | some a => exact (h a).trans (Bool.true_and b).symm

theorem foldFollow_isSome (op : Op) (payload : Json) (s : Projection) :
    (foldFollow op payload s).isSome = followFits op payload := by
  unfold foldFollow followFits
  by_cases hfederated : (payload.fetch "visibility").str? = some "federated"
  · rw [if_pos hfederated, bne_eq_false_iff_eq.2 hfederated, Bool.false_or]
    cases payload.fetch "targetDid" with
    | str author =>
      dsimp only
      by_cases hempty : author = ""
      · rw [if_pos hempty, beq_iff_eq.2 hempty]
        rfl
      · rw [if_neg hempty, beq_eq_false_iff_ne.2 hempty, Bool.false_or]
        by_cases hdelete : op.opType = "delete"
        · rw [if_pos hdelete, if_pos (beq_iff_eq.2 hdelete)]
          cases fitsText author <;> rfl
        · rw [if_neg hdelete, if_neg (mt beq_iff_eq.1 hdelete)]
          cases fitsVarchar author <;> rfl
    | _ => rfl
  · rw [if_neg hfederated, (bne_iff_ne).2 hfederated]
    rfl

theorem profileRow_isSome (op : Op) (payload : Json) :
    (profileRow op payload).isSome = profileFits payload := by
  have h : ∀ {fits : String → Bool} {j : Json} {f : Option String → Option Profile} {b : Bool},
      (∀ a, (f a).isSome = b) → ((textColumn fits j).bind f).isSome = (textFits fits j && b) :=
    fun hf => (isSome_bind hf).trans (by rw [textColumn_isSome])
  rw [profileFits, Bool.and_assoc, Bool.and_assoc, profileRow]
  refine h fun handle => h fun displayName => h fun bio => ?_
  refine (h (b := true) fun avatarUrl => rfl).trans (Bool.and_true _)

theorem foldProfile_isSome (op : Op) (payload : Json) (s : Projection) :
    (foldProfile op payload s).isSome = (!listsProfile op payload || profileFits payload) := by
  unfold foldProfile listsProfile
  by_cases hdid : profileDid op = ""
  · rw [if_pos hdid, bne_eq_false_iff_eq.2 hdid]
    rfl
  rw [if_neg hdid, bne_iff_ne.2 hdid, Bool.true_and]
  by_cases hdelete : op.opType = "delete"
  · rw [if_pos hdelete, bne_eq_false_iff_eq.2 hdelete]
    cases s.profiles (profileDid op) <;> rfl
  rw [if_neg hdelete, bne_iff_ne.2 hdelete, Bool.true_and]
  cases profilePublic payload with
  | false => rfl
  | true =>
    rw [if_pos rfl, Option.isSome_map, profileRow_isSome]
    rfl

theorem webAuthorScheme_isSome (payload : Json) :
    (webAuthorScheme payload).isSome =
      ((payload.fetch "web_author_proof").isNull || (payload.fetch "web_author_proof").isObj) := by
  unfold webAuthorScheme
  cases payload.fetch "web_author_proof" <;> rfl

theorem timeColumn_isSome (t : Option ℤ) :
    (timeColumn t).isSome = t.all (fun t => decide (minTimestamp ≤ t)) := by
  cases t with
  | none => rfl
  | some t =>
    rw [timeColumn, Option.all_some]
    split
    · next h => exact (decide_eq_true h).symm
    · next h => exact (decide_eq_false h).symm

theorem jsonColumn_isSome (j : Json) : (jsonColumn j).isSome = fitsJsonb j := by
  unfold jsonColumn
  cases fitsJsonb j <;> rfl

theorem row_isSome (e : Prepared) : (row e).isSome = contentFits e := by
  have h : ∀ {fits : String → Bool} {j : Json} {f : Option String → Option FeedItem} {b : Bool},
      (∀ a, (f a).isSome = b) → ((textColumn fits j).bind f).isSome = (textFits fits j && b) :=
    fun hf => (isSome_bind hf).trans (by rw [textColumn_isSome])
  simp only [contentFits, Bool.and_assoc]
  rw [row, ← webAuthorScheme_isSome, ← timeColumn_isSome, ← jsonColumn_isSome]
  refine isSome_bind fun scheme => h fun boardId => h fun threadId => h fun visibility => ?_
  exact isSome_bind fun createdAt => (isSome_bind (b := true) fun payload => rfl).trans
    (Bool.and_true _)

theorem harmless_iff (e : Prepared) :
    harmless e = true ↔ actorOk e = true ∧ (isContent e = true → (row e).isSome = true) := by
  unfold harmless actorOk foldActor
  cases hv : e.verified with
  | false => simp [isContent, hv]
  | true =>
    simp only [Bool.not_true, Bool.false_or, if_true, beq_iff_eq]
    by_cases hfollow : e.op.entityType = "follow"
    · have hnot : isContent e = false := by simp [isContent, actorOp, hfollow]
      rw [if_pos hfollow, if_pos hfollow, foldFollow_isSome, hnot]
      simp
    rw [if_neg hfollow, if_neg hfollow]
    by_cases hprofile : e.op.entityType = "profile"
    · have hnot : isContent e = false := by simp [isContent, actorOp, hprofile]
      rw [if_pos hprofile, if_pos hprofile, foldProfile_isSome, hnot]
      simp
    · rw [if_neg hprofile, if_neg hprofile, row_isSome]
      cases isContent e <;> simp

theorem storable_iff (page : List Prepared) :
    Storable page ↔ ∀ e ∈ page, harmless e = true := by
  constructor
  · exact fun h e he => (harmless_iff e).2 ⟨h.actor e he, h.content e he⟩
  · exact fun h => ⟨fun e he => ((harmless_iff e).1 (h e he)).1,
      fun e he => ((harmless_iff e).1 (h e he)).2⟩

/-! ### The ids of a log -/

/-- The relay gives each op one log id and one op id. -/
def OneId (ops : List Op) : Prop :=
  ∀ a ∈ ops, ∀ b ∈ ops, a.logId = b.logId ↔ a.opId = b.opId

instance : DecidablePred OneId := fun ops =>
  inferInstanceAs (Decidable (∀ a ∈ ops, ∀ b ∈ ops, a.logId = b.logId ↔ a.opId = b.opId))

/-- The ids of a row are those of an op. -/
def HasIds (ops : List Op) (r : FeedItem) : Prop :=
  ∃ op ∈ ops, ids r = (op.logId, op.opId)

variable {ops log : List Op} {P : Platform} {s : Projection}

theorem OneId.rows (h : OneId ops) {r r' : FeedItem} (hr : HasIds ops r) (hr' : HasIds ops r') :
    r.logId = r'.logId ↔ r.opId = r'.opId := by
  obtain ⟨a, ha, hra⟩ := hr
  obtain ⟨b, hb, hrb⟩ := hr'
  obtain ⟨hlog, hop⟩ := Prod.mk.inj hra
  obtain ⟨hlog', hop'⟩ := Prod.mk.inj hrb
  rw [hlog, hop, hlog', hop']
  exact h a ha b hb

theorem feedIndexes_upsertRow {rows : List FeedItem} {r : FeedItem} (hrows : FeedIndexes rows)
    (h : ∀ x ∈ rows, x.logId = r.logId ↔ x.opId = r.opId) : FeedIndexes (upsertRow rows r) := by
  by_cases hany : rows.any (·.logId == r.logId) = true
  · obtain ⟨x, hx, hid⟩ := List.any_eq_true.1 hany
    have hlog : x.logId = r.logId := beq_iff_eq.1 hid
    have hmem : ids r ∈ rows.map ids :=
      List.mem_map.2 ⟨x, hx, Prod.ext hlog ((h x hx).1 hlog)⟩
    exact feedIndexes_congr (map_ids_upsertRow_of_mem hrows hmem).symm hrows
  · have hne : ∀ x ∈ rows, x.logId ≠ r.logId := fun x hx heq =>
      hany (List.any_eq_true.2 ⟨x, hx, beq_iff_eq.2 heq⟩)
    rw [upsertRow, if_neg hany]
    exact ⟨hrows.log_id.append_new hne,
      hrows.op_id.append_new fun x hx heq => hne x hx ((h x hx).2 heq)⟩

theorem insertAll_isSome (hone : OneId ops) {content : List FeedItem} {t : FeedTable}
    (hcontent : ∀ c ∈ content, HasIds ops c) (ht : ∀ r ∈ t.rows, HasIds ops r) :
    (insertAll content t).isSome = true := by
  induction content generalizing t with
  | nil => rfl
  | cons c content ih =>
    obtain ⟨hc, hrest⟩ := List.forall_mem_cons.1 hcontent
    have hvalid := feedIndexes_upsertRow t.valid fun x hx => hone.rows (ht x hx) hc
    obtain ⟨t₁, ht₁⟩ := Option.isSome_iff_exists.1 (Table.commit_isSome.2 hvalid)
    rw [insertAll, List.foldlM_cons, ht₁]
    refine ih hrest fun r hr => ?_
    rw [Table.rows_of_commit ht₁, mem_upsertRow] at hr
    rcases hr with rfl | ⟨hr, -⟩
    · exact hc
    · exact ht r hr

/-! ### The rows of a fold -/

theorem hasIds_of_contentRow {c : FeedItem} (h : c ∈ (ops.map (prepareOp P)).filterMap contentRow) :
    HasIds ops c := by
  obtain ⟨e, he, hc⟩ := List.mem_filterMap.1 h
  obtain ⟨op, hop, rfl⟩ := List.mem_map.1 he
  exact ⟨op, hop, ids_contentRow hc⟩

/-- The rows after a page have the ids of the rows before it or of its ops. -/
theorem hasIds_of_foldPrepared {s' : Projection} {n : ℕ} (hsub : ops ⊆ log)
    (hs : ∀ r ∈ s.feedItems.rows, HasIds log r)
    (h : foldPrepared (ops.map (prepareOp P)) s = some (n, s')) :
    ∀ r ∈ s'.feedItems.rows, HasIds log r := by
  intro r hr
  rcases mem_of_foldPrepared h hr with ⟨e, he, hc⟩ | ⟨x, hx, rfl⟩
  · obtain ⟨op, hop, hids⟩ := hasIds_of_contentRow (List.mem_filterMap.2 ⟨e, he, hc⟩)
    exact ⟨op, hsub hop, hids⟩
  · obtain ⟨op, hop, hids⟩ := hs x hx
    exact ⟨op, hop, (ids_hide _ x).trans hids⟩

theorem hasIds_of_foldPages {pages : List (List Op)} {s' : Projection} (hsub : pages.flatten ⊆ log)
    (hs : ∀ r ∈ s.feedItems.rows, HasIds log r) (h : foldPages P pages s = some s') :
    ∀ r ∈ s'.feedItems.rows, HasIds log r := by
  induction pages generalizing s with
  | nil =>
    obtain rfl : s = s' := Option.some.inj h
    exact hs
  | cons page pages ih =>
    rw [List.flatten_cons, List.append_subset] at hsub
    rw [foldPages_cons] at h
    obtain ⟨⟨n, t⟩, ht, h⟩ := Option.bind_eq_some_iff.1 h
    exact ih hsub.2 (hasIds_of_foldPrepared hsub.1 hs ht) h

/-! ### Pages -/

/-- **A page returns exactly when all its ops are harmless.** -/
theorem applyOps_isSome_iff (hids : (ops.map (·.logId)).Nodup) (hone : OneId log) (hsub : ops ⊆ log)
    (hs : ∀ r ∈ s.feedItems.rows, HasIds log r) :
    (applyOps P ops s).isSome = true ↔ ∀ op ∈ ops, harmless (prepareOp P op) = true := by
  have hpage : (logIds (ops.map (prepareOp P))).Nodup := by
    rw [logIds_prepared]
    exact hids
  have hinsert : (insertAll ((ops.map (prepareOp P)).filterMap contentRow) s.feedItems).isSome
      = true := by
    refine insertAll_isSome hone (fun c hc => ?_) hs
    obtain ⟨op, hop, hc⟩ := hasIds_of_contentRow hc
    exact ⟨op, hsub hop, hc⟩
  rw [applyOps, Option.isSome_map, foldPrepared_isSome hpage, storable_iff, List.forall_mem_map,
    and_iff_left hinsert]

/-- Pages return exactly when all their ops are harmless. -/
theorem foldPages_isSome_iff {pages : List (List Op)} (hids : (pages.flatten.map (·.logId)).Nodup)
    (hone : OneId log) (hsub : pages.flatten ⊆ log) (hs : ∀ r ∈ s.feedItems.rows, HasIds log r) :
    (foldPages P pages s).isSome = true ↔
      ∀ op ∈ pages.flatten, harmless (prepareOp P op) = true := by
  induction pages generalizing s with
  | nil => exact iff_of_true rfl fun op hop => absurd hop List.not_mem_nil
  | cons page pages ih =>
    rw [List.flatten_cons, List.map_append, List.nodup_append] at hids
    rw [List.flatten_cons, List.append_subset] at hsub
    have hpage := applyOps_isSome_iff (P := P) hids.1 hone hsub.1 hs
    rw [applyOps, Option.isSome_map] at hpage
    rw [foldPages_cons, List.flatten_cons, List.forall_mem_append, ← hpage]
    cases ht : foldPrepared (page.map (prepareOp P)) s with
    | none => exact iff_of_false (by simp) fun h => by cases h.1
    | some r =>
      rw [Option.bind_some, ih hids.2.1 hsub.2 (hasIds_of_foldPrepared hsub.1 hs ht)]
      exact (and_iff_right rfl).symm

/-- The ops of a page that return when they are alone in a page. -/
def foldableAlone (P : Platform) (ops : List Op) (s : Projection) : List Op :=
  ops.filter fun op => (applyOps P [op] s).isSome

/-- The page returns, and leaves what a page of the ops leaves that return alone. -/
def PoisonIsolated (P : Platform) (ops : List Op) (s : Projection) : Prop :=
  ∃ r s', applyOps P ops s = some (r, s') ∧
    ∃ r', applyOps P (foldableAlone P ops s) s = some (r', s')

/-- The row without regard to its deletion mark. -/
def FeedItem.unmarked (r : FeedItem) : FeedItem := { r with deleted := false }

/-- Both folds return or neither does, and what they leave differs in deletion marks at most. -/
def SameModels (o o' : Option Projection) : Prop :=
  o.isSome = o'.isSome ∧ ∀ s ∈ o, ∀ s' ∈ o', s.follows = s'.follows ∧ s.profiles = s'.profiles ∧
    ∀ x, x ∈ s.feedItems.rows.map FeedItem.unmarked ↔ x ∈ s'.feedItems.rows.map FeedItem.unmarked

/-- The rows that a fold leaves, up to deletion marks, are those of the content of its ops. -/
theorem Folded.mem_unmarked {pages : List (List Prepared)} (h : Folded pages .empty s)
    {x : FeedItem} : x ∈ s.feedItems.rows.map FeedItem.unmarked ↔
      ∃ e ∈ pages.flatten, ∃ c, contentRow e = some c ∧ c.unmarked = x := by
  have unmarked_hide : ∀ D c, (hide D c).unmarked = c.unmarked := by
    intro D c
    unfold hide
    split <;> rfl
  rw [List.mem_map]
  constructor
  · rintro ⟨r, hr, rfl⟩
    rcases (h.feed r).1 hr with ⟨e, he, c, hc, rfl⟩ | ⟨r₀, hr₀, -⟩
    · exact ⟨e, he, c, hc, (unmarked_hide _ c).symm⟩
    · cases hr₀
  · rintro ⟨e, he, c, hc, rfl⟩
    exact ⟨_, (h.feed _).2 (.inl ⟨e, he, c, hc, rfl⟩), unmarked_hide _ c⟩

/-- **Where the log is cut into pages decides nothing but deletion marks.** -/
theorem models_of_log {pages pages' : List (List Op)} (hflat : pages.flatten = pages'.flatten)
    (hids : (pages.flatten.map (·.logId)).Nodup) (hone : OneId pages.flatten) :
    SameModels (foldPages P pages .empty) (foldPages P pages' .empty) := by
  have hids' : (pages'.flatten.map (·.logId)).Nodup := hflat ▸ hids
  constructor
  · have hempty (l : List Op) : ∀ r ∈ Projection.empty.feedItems.rows, HasIds l r :=
      fun r hr => by cases hr
    rw [Bool.eq_iff_iff, foldPages_isSome_iff hids hone (List.Subset.refl _) (hempty _),
      foldPages_isSome_iff hids' (hflat ▸ hone) (List.Subset.refl _) (hempty _), hflat]
  · intro s hs s' hs'
    have h := folded_of_foldPages hids hs
    have h' := folded_of_foldPages hids' hs'
    have hprepared : (prepared P pages).flatten = (prepared P pages').flatten := by
      rw [flatten_prepared, flatten_prepared, hflat]
    refine ⟨?_, ?_, fun x => ?_⟩
    · rw [h.follows, h'.follows, hprepared]
    · rw [h.profiles, h'.profiles, hprepared]
    · rw [h.mem_unmarked, h'.mem_unmarked, hprepared]

theorem models_of_log_deleted : SameModels (foldPages .toy [[insertOp, deleteOp]] .empty)
    (foldPages .toy [[insertOp], [deleteOp]] .empty) :=
  models_of_log rfl (by decide) (by decide)

/-! ### A number as a board -/

/-- A murmur whose board is a number, without its signature. -/
def unsignedPoison : Op := { toyUnsigned 2 "b" "insert" with payload := .obj [("boardId", .int 5)] }

def poisonOp : Op :=
  { unsignedPoison with signature := some (toySign 1 (signingPayload unsignedPoison)) }

end AppView

end Ansible
