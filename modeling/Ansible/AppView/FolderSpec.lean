import Ansible.AppView.Folder

/-!
# What a fold does to the read models

The follow graph and the directory are written op by op in log order, whatever the pages.
A feed item is written without a deletion mark when its page is folded, and marked by the
deletions of the later pages only.

## Main definitions

* `followWrite`, `profileWrite` — the write of one op to the keyed read models.
* `deletedAfter` — the entities that the pages behind an op delete.
* `Folded` — the read models after a sequence of pages, in terms of the ones before.

## Main results

* `folded_of_foldPages` — **a fold that returns leaves what `Folded` says.**
-/

namespace Ansible

namespace AppView

/-! ### The keyed read models -/

/-- The write of a follow op. -/
def followEdge (op : Op) (payload : Json) : Option ((String × String) × Option ℤ) :=
  if (payload.fetch "visibility").str? = some "federated" then
    match payload.fetch "targetDid" with
    | .str author =>
      if author = "" then none
      else some ((op.authorDid, author), if op.opType = "delete" then none else some op.logId)
    | _ => none
  else none

/-- The write of a profile op. -/
def profileEntry (op : Op) (payload : Json) : Option (String × Option Profile) :=
  if profileDid op = "" then none
  else if op.opType = "delete" then some (profileDid op, none)
  else if profilePublic payload then
    (profileRow op payload).map fun p => (profileDid op, some p)
  else none

def followWrite (e : Prepared) : Option ((String × String) × Option ℤ) :=
  if e.verified && e.op.entityType == "follow" then followEdge e.op e.payload else none

def profileWrite (e : Prepared) : Option (String × Option Profile) :=
  if e.verified && e.op.entityType == "profile" then profileEntry e.op e.payload else none

theorem foldFollow_eq (op : Op) (payload : Json) (s : Projection) :
    foldFollow op payload s = (foldFollow op payload .empty).map fun _ =>
      { s with follows := writes s.follows (followEdge op payload).toList } := by
  unfold foldFollow followEdge
  generalize payload.fetch "targetDid" = target
  split
  · cases target with
    | str author =>
      dsimp only
      split
      · rfl
      split
      · split <;> rfl
      · split <;> rfl
    | _ => rfl
  · rfl

theorem writeTo_none {κ β : Type} [DecidableEq κ] {m : κ → Option β} {k : κ} (h : m k = none) :
    writeTo m (k, none) = m := by
  rw [writeTo, ← h]
  exact Function.update_eq_self k m

theorem foldProfile_eq (op : Op) (payload : Json) (s : Projection) :
    foldProfile op payload s = (foldProfile op payload .empty).map fun _ =>
      { s with profiles := writes s.profiles (profileEntry op payload).toList } := by
  unfold foldProfile profileEntry
  split
  · rfl
  split
  · simp only [Projection.empty, Option.map_some, Option.toList_some, writes_cons, writes_nil]
    split
    · next hnone => rw [writeTo_none hnone]
    · rfl
  split
  · cases profileRow op payload <;> rfl
  · rfl

/-- The read models after the writes of an op. -/
def Projection.write (s : Projection) (e : Prepared) : Projection :=
  { s with
    follows := writes s.follows (followWrite e).toList
    profiles := writes s.profiles (profileWrite e).toList }

/-- No column refuses what the op writes to the keyed read models. -/
def actorOk (e : Prepared) : Bool := (foldActor .empty e).isSome

theorem foldActor_eq (s : Projection) (e : Prepared) :
    foldActor s e = if actorOk e then some (s.write e) else none := by
  have hmap : ∀ {o : Option Projection} {t : Projection},
      o.map (fun _ => t) = if o.isSome then some t else none := by
    intro o t
    cases o <;> rfl
  unfold actorOk foldActor Projection.write followWrite profileWrite
  by_cases hv : e.verified = true
  · simp only [hv, if_true, Bool.true_and, beq_iff_eq]
    by_cases hf : e.op.entityType = "follow"
    · simp only [hf, if_true]
      rw [foldFollow_eq, hmap]
      simp
    · by_cases hp : e.op.entityType = "profile"
      · have hne : ¬ "profile" = "follow" := by decide
        simp only [hp, hne, if_true, if_false]
        rw [foldProfile_eq, hmap]
        simp
      · simp [hf, hp]
  · simp [hv]

/-- The first pass over a page. -/
theorem foldlM_foldActor (page : List Prepared) (s : Projection) :
    page.foldlM foldActor s = if page.all actorOk then
      some { s with
        follows := writes s.follows (page.filterMap followWrite)
        profiles := writes s.profiles (page.filterMap profileWrite) } else none := by
  induction page generalizing s with
  | nil => rfl
  | cons e page ih =>
    rw [List.foldlM_cons, foldActor_eq, List.all_cons]
    cases actorOk e with
    | false => rfl
    | true =>
      simp only [if_true, Bool.true_and]
      rw [show (some (s.write e) >>= fun s => page.foldlM foldActor s)
        = page.foldlM foldActor (s.write e) from rfl, ih]
      have hf : writes (writes s.follows (followWrite e).toList) (page.filterMap followWrite)
          = writes s.follows ((e :: page).filterMap followWrite) := by
        rw [← writes_append, List.filterMap_cons]
        cases followWrite e <;> rfl
      have hp : writes (writes s.profiles (profileWrite e).toList) (page.filterMap profileWrite)
          = writes s.profiles ((e :: page).filterMap profileWrite) := by
        rw [← writes_append, List.filterMap_cons]
        cases profileWrite e <;> rfl
      simp only [Projection.write, hf, hp]

/-! ### The feed items of one page -/

/-- The feed item of an op, if it is content. -/
def contentRow (e : Prepared) : Option FeedItem := if isContent e then row e else none

def Prepared.pair (e : Prepared) : String × String := (e.op.entityId, e.op.authorDid)

/-- What the row of an op takes over from it. -/
structure RowOf (e : Prepared) (r : FeedItem) : Prop where
  logId : r.logId = e.op.logId
  opId : r.opId = e.op.opId
  pair : (r.entityId, r.authorDid) = e.pair
  deleted : r.deleted = (e.op.opType == "delete")

variable {e : Prepared} {r x : FeedItem} {D : List (String × String)} {page : List Prepared}
  {content rows : List FeedItem} {s s' : Projection} {pages : List (List Prepared)}

theorem row_eq_some (h : row e = some r) : RowOf e r := by
  simp only [row, Option.bind_eq_bind, Option.bind_eq_some_iff, Option.pure_def,
    Option.some.injEq] at h
  obtain ⟨_, -, _, -, _, -, _, -, _, -, _, -, rfl⟩ := h
  exact ⟨rfl, rfl, rfl, rfl⟩

theorem contentRow_eq_some : contentRow e = some r ↔ isContent e = true ∧ row e = some r := by
  unfold contentRow
  split
  · next h => simp [h]
  · next h => simp [h]

theorem deleted_of_contentRow (h : contentRow e = some r) : r.deleted = false := by
  obtain ⟨hc, hr⟩ := contentRow_eq_some.1 h
  rw [(row_eq_some hr).deleted]
  simp only [isContent, Bool.and_eq_true] at hc
  simpa using hc.1.2

variable (pairs : List (String × String))

@[simp] theorem logId_hide (r : FeedItem) : (hide pairs r).logId = r.logId := by
  unfold hide
  split <;> rfl

@[simp] theorem opId_hide (r : FeedItem) : (hide pairs r).opId = r.opId := by
  unfold hide
  split <;> rfl

@[simp] theorem hide_nil (r : FeedItem) : hide [] r = r := rfl

theorem deleted_hide (r : FeedItem) :
    (hide pairs r).deleted = true ↔ r.deleted = true ∨ (r.entityId, r.authorDid) ∈ pairs := by
  unfold hide
  split
  · next h => simp [List.contains_iff_mem.1 h]
  · next h => simp [mt List.contains_iff_mem.2 h]

theorem hide_append (D D' : List (String × String)) (r : FeedItem) :
    hide (D ++ D') r = hide D' (hide D r) := by
  have hpair : ((hide D r).entityId, (hide D r).authorDid) = (r.entityId, r.authorDid) := by
    unfold hide
    split <;> rfl
  rw [hide, hide, hpair]
  unfold hide
  by_cases h : (r.entityId, r.authorDid) ∈ D <;> by_cases h' : (r.entityId, r.authorDid) ∈ D' <;>
    simp [h, h']

theorem hide_congr {D' : List (String × String)}
    (h : (r.entityId, r.authorDid) ∈ D ↔ (r.entityId, r.authorDid) ∈ D') :
    hide D r = hide D' r := by
  unfold hide
  by_cases hD : (r.entityId, r.authorDid) ∈ D
  · simp [hD, h.1 hD]
  · simp [hD, mt h.2 hD]

theorem hide_of_not_mem (h : (r.entityId, r.authorDid) ∉ D) : hide D r = r :=
  (hide_congr (iff_of_false h List.not_mem_nil)).trans (hide_nil r)

theorem hide_of_deleted (h : r.deleted = true) : hide D r = r := by
  unfold hide
  split
  · rw [← h]
  · rfl

theorem content_eq_filterMap (h : (page.filter isContent).mapM row = some content) :
    content = page.filterMap contentRow ∧ ∀ e ∈ page, isContent e = true → (row e).isSome := by
  induction page generalizing content with
  | nil =>
    obtain rfl : [] = content := Option.some.inj h
    exact ⟨rfl, fun e he => absurd he List.not_mem_nil⟩
  | cons e page ih =>
    rw [List.filter_cons] at h
    by_cases hc : isContent e = true
    · rw [if_pos hc, List.mapM_cons] at h
      simp only [Option.bind_eq_bind, Option.bind_eq_some_iff, Option.pure_def,
        Option.some.injEq] at h
      obtain ⟨r, hr, rest, hrest, rfl⟩ := h
      obtain ⟨rfl, hrows⟩ := ih hrest
      refine ⟨?_, fun x hx hxc => ?_⟩
      · rw [List.filterMap_cons, contentRow, if_pos hc, hr]
      · rcases List.mem_cons.1 hx with rfl | hx
        · rw [hr]
          rfl
        · exact hrows x hx hxc
    · rw [if_neg hc] at h
      obtain ⟨rfl, hrows⟩ := ih h
      refine ⟨?_, fun x hx hxc => ?_⟩
      · rw [List.filterMap_cons, contentRow, if_neg hc]
      · rcases List.mem_cons.1 hx with rfl | hx
        · exact absurd hxc hc
        · exact hrows x hx hxc

def logIds (l : List Prepared) : List ℤ := l.map (·.op.logId)

theorem nodup_contentIds (h : (logIds page).Nodup) :
    ((page.filterMap contentRow).map (·.logId)).Nodup := by
  refine List.Nodup.sublist ?_ h
  induction page with
  | nil => exact .slnil
  | cons e page ih =>
    have hrest := ih (List.nodup_cons.1 h).2
    rw [List.filterMap_cons, logIds, List.map_cons]
    cases he : contentRow e with
    | none => exact hrest.cons _
    | some r =>
      rw [List.map_cons, (row_eq_some (contentRow_eq_some.1 he).2).logId]
      exact hrest.cons_cons _

theorem uniqByLogId_eq {l : List FeedItem} (h : (l.map (·.logId)).Nodup) : uniqByLogId l = l := by
  induction l with
  | nil => rfl
  | cons r l ih =>
    rw [List.map_cons, List.nodup_cons] at h
    rw [uniqByLogId, ih h.2, List.filter_eq_self.2]
    intro x hx
    rw [bne_iff_ne]
    intro heq
    exact h.1 (heq ▸ List.mem_map_of_mem hx)

theorem uniqByLogId_sublist {l : List FeedItem} : (uniqByLogId l).Sublist l := by
  induction l with
  | nil => exact .slnil
  | cons r l ih => exact (List.filter_sublist.trans ih).cons_cons r

theorem mem_upsertRow : x ∈ upsertRow rows r ↔ x = r ∨ (x ∈ rows ∧ x.logId ≠ r.logId) := by
  unfold upsertRow
  split
  · next h =>
    obtain ⟨r₀, hr₀, hid⟩ := List.any_eq_true.1 h
    rw [List.mem_map]
    constructor
    · rintro ⟨y, hy, rfl⟩
      by_cases hyr : y.logId = r.logId
      · exact .inl (by simp [hyr])
      · exact .inr (by simp [hyr, hy])
    · rintro (rfl | ⟨hx, hne⟩)
      · exact ⟨r₀, hr₀, by rw [if_pos hid]⟩
      · exact ⟨x, hx, by simp [hne]⟩
  · next h =>
    rw [List.mem_append, List.mem_singleton, or_comm]
    refine or_congr_right ⟨fun hx => ⟨hx, fun heq => h ?_⟩, And.left⟩
    exact List.any_eq_true.2 ⟨x, hx, by simpa using heq⟩

theorem mem_foldl_upsertRow (h : (content.map (·.logId)).Nodup) :
    x ∈ content.foldl upsertRow rows ↔
      x ∈ content ∨ (x ∈ rows ∧ ∀ c ∈ content, c.logId ≠ x.logId) := by
  induction content generalizing rows with
  | nil => simp
  | cons c content ih =>
    rw [List.map_cons, List.nodup_cons] at h
    have hc : ∀ y ∈ content, y.logId ≠ c.logId := fun y hy heq =>
      h.1 (heq ▸ List.mem_map_of_mem hy)
    rw [List.foldl_cons, ih h.2, mem_upsertRow, List.mem_cons, List.forall_mem_cons]
    constructor
    · rintro (hx | ⟨rfl | ⟨hx, hne⟩, hrest⟩)
      · exact .inl (.inr hx)
      · exact .inl (.inl rfl)
      · exact .inr ⟨hx, Ne.symm hne, hrest⟩
    · rintro ((rfl | hx) | ⟨hx, hne, hrest⟩)
      · exact .inr ⟨.inl rfl, hc⟩
      · exact .inl hx
      · exact .inr ⟨.inr ⟨hx, Ne.symm hne⟩, hrest⟩

theorem mem_of_mem_foldl_upsertRow (h : x ∈ content.foldl upsertRow rows) :
    x ∈ content ∨ x ∈ rows := by
  induction content generalizing rows with
  | nil => exact .inr h
  | cons c content ih =>
    rcases ih h with hx | hx
    · exact .inl (List.mem_cons_of_mem _ hx)
    · rcases mem_upsertRow.1 hx with rfl | ⟨hx, -⟩
      · exact .inl List.mem_cons_self
      · exact .inr hx

theorem insertAll_rows {t t' : FeedTable} (h : insertAll content t = some t') :
    t'.rows = content.foldl upsertRow t.rows := by
  induction content generalizing t with
  | nil =>
    obtain rfl : t = t' := Option.some.inj h
    rfl
  | cons r content ih =>
    rw [insertAll, List.foldlM_cons] at h
    obtain ⟨t₁, ht₁, h⟩ := Option.bind_eq_some_iff.1 h
    rw [ih h, Table.rows_of_commit ht₁, List.foldl_cons]

/-- What the fold of a page leaves. -/
structure FoldedPage (page : List Prepared) (s s' : Projection) : Prop where
  follows : s'.follows = writes s.follows (page.filterMap followWrite)
  profiles : s'.profiles = writes s.profiles (page.filterMap profileWrite)
  feed : ∀ x, x ∈ s'.feedItems.rows ↔ (∃ e ∈ page, contentRow e = some x) ∨
    ∃ r ∈ s.feedItems.rows, (∀ e ∈ page, isContent e = true → e.op.logId ≠ r.logId) ∧
      x = hide (deletionPairs page) r
  storable : ∀ e ∈ page, isContent e = true → (row e).isSome
  actorOk : page.all actorOk = true

/-- What a page that returns has passed, and the rows that it leaves. -/
theorem foldPrepared_inv {n : ℕ} (h : foldPrepared page s = some (n, s')) :
    page.all actorOk = true ∧ (∀ e ∈ page, isContent e = true → (row e).isSome) ∧
      s'.follows = writes s.follows (page.filterMap followWrite) ∧
      s'.profiles = writes s.profiles (page.filterMap profileWrite) ∧
      s'.feedItems.rows = (uniqByLogId (page.filterMap contentRow)).foldl upsertRow
        (s.feedItems.rows.map (hide (deletionPairs page))) := by
  simp only [foldPrepared, Option.bind_eq_bind, Option.bind_eq_some_iff, Option.pure_def,
    Option.some.injEq, Prod.mk.injEq] at h
  obtain ⟨s₁, hs₁, t₁, ht₁, content, hcontent, t₂, ht₂, -, rfl⟩ := h
  rw [foldlM_foldActor] at hs₁
  split at hs₁
  · next hok =>
    cases hs₁
    obtain ⟨rfl, hrows⟩ := content_eq_filterMap hcontent
    exact ⟨hok, hrows, rfl, rfl, by rw [insertAll_rows ht₂, Table.rows_of_commit ht₁]⟩
  · cases hs₁

theorem foldPrepared_eq_some {n : ℕ} (hids : (logIds page).Nodup)
    (h : foldPrepared page s = some (n, s')) : FoldedPage page s s' := by
  obtain ⟨hok, hrows, hfollows, hprofiles, hfeed⟩ := foldPrepared_inv h
  have hnodup := nodup_contentIds hids
  rw [uniqByLogId_eq hnodup] at hfeed
  refine ⟨hfollows, hprofiles, fun x => ?_, hrows, hok⟩
  rw [hfeed, mem_foldl_upsertRow hnodup]
  refine or_congr List.mem_filterMap ?_
  -- a row that stays has the log id of no content
  have hstay : ∀ i : ℤ, (∀ c ∈ page.filterMap contentRow, c.logId ≠ i) ↔
      ∀ e ∈ page, isContent e = true → e.op.logId ≠ i := by
    intro i
    constructor
    · intro hne e he hc
      obtain ⟨r, hr⟩ := Option.isSome_iff_exists.1 (hrows e he hc)
      rw [← (row_eq_some hr).logId]
      exact hne r (List.mem_filterMap.2 ⟨e, he, contentRow_eq_some.2 ⟨hc, hr⟩⟩)
    · intro hne c hc
      obtain ⟨e, he, hec⟩ := List.mem_filterMap.1 hc
      obtain ⟨hcontent, hr⟩ := contentRow_eq_some.1 hec
      rw [(row_eq_some hr).logId]
      exact hne e he hcontent
  rw [hstay, List.mem_map]
  constructor
  · rintro ⟨⟨r, hr, rfl⟩, hne⟩
    exact ⟨r, hr, by simpa using hne, rfl⟩
  · rintro ⟨r, hr, hne, rfl⟩
    exact ⟨⟨r, hr, rfl⟩, by simpa using hne⟩

/-- Where the rows come from, also when log ids return. -/
theorem mem_of_foldPrepared {n : ℕ} (h : foldPrepared page s = some (n, s'))
    (hx : x ∈ s'.feedItems.rows) :
    (∃ e ∈ page, contentRow e = some x) ∨
      ∃ r ∈ s.feedItems.rows, x = hide (deletionPairs page) r := by
  rw [(foldPrepared_inv h).2.2.2.2] at hx
  rcases mem_of_mem_foldl_upsertRow hx with hnew | hold
  · exact .inl (List.mem_filterMap.1 (uniqByLogId_sublist.subset hnew))
  · obtain ⟨r, hr, rfl⟩ := List.mem_map.1 hold
    exact .inr ⟨r, hr, rfl⟩

/-! ### Sequences of pages -/

/-- The deletions of the pages behind the one of log id `i`. -/
def deletedAfter : List (List Prepared) → ℤ → List (String × String)
  | [], _ => []
  | page :: pages, i =>
    if page.any (·.op.logId == i) then pages.flatMap deletionPairs else deletedAfter pages i

theorem deletedAfter_cons_of_mem (h : e ∈ page) :
    deletedAfter (page :: pages) e.op.logId = pages.flatMap deletionPairs :=
  if_pos (List.any_eq_true.2 ⟨e, h, by simp⟩)

theorem deletedAfter_cons_of_forall_ne {i : ℤ} (h : ∀ e ∈ page, e.op.logId ≠ i) :
    deletedAfter (page :: pages) i = deletedAfter pages i :=
  if_neg (by simpa using h)

/-- What a fold of pages leaves. -/
structure Folded (pages : List (List Prepared)) (s s' : Projection) : Prop where
  follows : s'.follows = writes s.follows (pages.flatten.filterMap followWrite)
  profiles : s'.profiles = writes s.profiles (pages.flatten.filterMap profileWrite)
  feed : ∀ x, x ∈ s'.feedItems.rows ↔
    (∃ e ∈ pages.flatten, ∃ c, contentRow e = some c ∧ x = hide (deletedAfter pages e.op.logId) c) ∨
    ∃ r ∈ s.feedItems.rows, (∀ e ∈ pages.flatten, isContent e = true → e.op.logId ≠ r.logId) ∧
      x = hide (pages.flatMap deletionPairs) r
  storable : ∀ e ∈ pages.flatten, isContent e = true → (row e).isSome
  actorOk : ∀ e ∈ pages.flatten, actorOk e = true

theorem folded_nil (s : Projection) : Folded [] s s :=
  ⟨rfl, rfl, by simp, fun _ he => absurd he List.not_mem_nil,
    fun _ he => absurd he List.not_mem_nil⟩

theorem FoldedPage.cons {s₁ : Projection} (hpage : FoldedPage page s s₁)
    (hrest : Folded pages s₁ s') (hids : (logIds (page :: pages).flatten).Nodup) :
    Folded (page :: pages) s s' := by
  rw [List.flatten_cons, logIds, List.map_append, List.nodup_append] at hids
  -- the pages have different ids, so a later one writes none of its rows
  have hne : ∀ a ∈ page, ∀ b ∈ pages.flatten, a.op.logId ≠ b.op.logId := fun a ha b hb =>
    hids.2.2 _ (List.mem_map_of_mem ha) _ (List.mem_map_of_mem hb)
  refine ⟨?_, ?_, fun x => ?_, ?_, ?_⟩
  · rw [hrest.follows, hpage.follows, ← writes_append, List.flatten_cons, List.filterMap_append]
  · rw [hrest.profiles, hpage.profiles, ← writes_append, List.flatten_cons, List.filterMap_append]
  · rw [hrest.feed, List.flatten_cons]
    constructor
    · rintro (⟨e, he, c, hc, rfl⟩ | ⟨r, hr, hkeep, rfl⟩)
      · refine .inl ⟨e, List.mem_append_right page he, c, hc, ?_⟩
        rw [deletedAfter_cons_of_forall_ne fun a ha => hne a ha e he]
      · rcases (hpage.feed r).1 hr with ⟨e, he, hc⟩ | ⟨r₀, hr₀, hkeep₀, rfl⟩
        · exact .inl ⟨e, List.mem_append_left _ he, r, hc, by rw [deletedAfter_cons_of_mem he]⟩
        · refine .inr ⟨r₀, hr₀, fun e he hc => ?_, ?_⟩
          · rcases List.mem_append.1 he with he | he
            · exact hkeep₀ e he hc
            · simpa using hkeep e he hc
          · rw [List.flatMap_cons, hide_append]
    · rintro (⟨e, he, c, hc, rfl⟩ | ⟨r, hr, hkeep, rfl⟩)
      · rcases List.mem_append.1 he with he | he
        · -- the page wrote the row, the later pages kept it
          refine .inr ⟨c, (hpage.feed c).2 (.inl ⟨e, he, hc⟩), fun b hb _ => ?_, ?_⟩
          · rw [(row_eq_some (contentRow_eq_some.1 hc).2).logId]
            exact (hne e he b hb).symm
          · rw [deletedAfter_cons_of_mem he]
        · refine .inl ⟨e, he, c, hc, ?_⟩
          rw [deletedAfter_cons_of_forall_ne fun a ha => hne a ha e he]
      · refine .inr
          ⟨hide (deletionPairs page) r, (hpage.feed _).2 (.inr ⟨r, hr, ?_, rfl⟩), ?_, ?_⟩
        · exact fun e he => hkeep e (List.mem_append_left _ he)
        · intro e he hc
          simpa using hkeep e (List.mem_append_right page he) hc
        · rw [List.flatMap_cons, hide_append]
  · intro e he hc
    rcases List.mem_append.1 (List.flatten_cons ▸ he) with he | he
    · exact hpage.storable e he hc
    · exact hrest.storable e he hc
  · intro e he
    rcases List.mem_append.1 (List.flatten_cons ▸ he) with he | he
    · exact List.all_eq_true.1 hpage.actorOk e he
    · exact hrest.actorOk e he

/-- The ops of the pages, prepared. -/
def prepared (P : Platform) (pages : List (List Op)) : List (List Prepared) :=
  pages.map fun page => page.map (prepareOp P)

theorem flatten_prepared (P : Platform) (pages : List (List Op)) :
    (prepared P pages).flatten = pages.flatten.map (prepareOp P) := (List.map_flatten).symm

theorem logIds_prepared (P : Platform) (ops : List Op) :
    logIds (ops.map (prepareOp P)) = ops.map (·.logId) := by
  rw [logIds, List.map_map]
  rfl

theorem applyOps_eq_some {P : Platform} {ops : List Op} {r : ℕ × Option ℤ}
    (h : applyOps P ops s = some (r, s')) :
    ∃ n, foldPrepared (ops.map (prepareOp P)) s = some (n, s') := by
  obtain ⟨⟨n, t⟩, ht, heq⟩ := Option.map_eq_some_iff.1 h
  cases heq
  exact ⟨n, ht⟩

/-- **A fold that returns leaves what `Folded` says.** -/
theorem folded_of_foldPages {P : Platform} {pages : List (List Op)}
    (hids : (pages.flatten.map (·.logId)).Nodup) (h : foldPages P pages s = some s') :
    Folded (prepared P pages) s s' := by
  induction pages generalizing s with
  | nil =>
    obtain rfl : s = s' := Option.some.inj h
    exact folded_nil s
  | cons page pages ih =>
    rw [foldPages, List.foldlM_cons] at h
    obtain ⟨s₁, hs₁, h⟩ := Option.bind_eq_some_iff.1 h
    obtain ⟨⟨r, s₁⟩, hr, rfl⟩ := Option.map_eq_some_iff.1 hs₁
    obtain ⟨n, hn⟩ := applyOps_eq_some hr
    have hids' : (logIds (prepared P (page :: pages)).flatten).Nodup := by
      rw [flatten_prepared, logIds_prepared]
      exact hids
    rw [List.flatten_cons, List.map_append, List.nodup_append] at hids
    have hpage := foldPrepared_eq_some (by rw [logIds_prepared]; exact hids.1) hn
    exact hpage.cons (ih hids.2.1 h) hids'

end AppView

end Ansible
