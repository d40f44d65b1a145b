import Ansible.AppView.FolderSpec

/-!
# Folds that return

Whether a page raises is decided by its own ops and by the ids of the rows in the table,
not by what a deletion has marked.  So two tables with the same ids accept the same
pages, and rows that are there already can be written again.

## Main definitions

* `ids` — the two unique ids of a row.

## Main results

* `foldPages_replay` — **pages of ops whose rows are in the table return.**
-/

namespace Ansible

namespace AppView

/-! ### The ids of rows -/

/-- What the unique indexes see of a row. -/
def ids (r : FeedItem) : ℤ × String := (r.logId, r.opId)

theorem feedIndexes_congr {rows rows' : List FeedItem} (h : rows.map ids = rows'.map ids) :
    FeedIndexes rows → FeedIndexes rows' := by
  rintro ⟨hlog, hop⟩
  have hfst := congrArg (List.map Prod.fst) h
  have hsnd := congrArg (List.map Prod.snd) h
  rw [List.map_map, List.map_map] at hfst hsnd
  refine ⟨?_, ?_⟩
  · rw [UniqueOn, List.filter_true] at hlog ⊢
    exact hfst ▸ hlog
  · rw [UniqueOn, List.filter_true] at hop ⊢
    exact hsnd ▸ hop

@[simp] theorem ids_hide (pairs : List (String × String)) (r : FeedItem) :
    ids (hide pairs r) = ids r := by simp [ids]

theorem map_ids_hide (pairs : List (String × String)) (rows : List FeedItem) :
    (rows.map (hide pairs)).map ids = rows.map ids := by
  rw [List.map_map]
  exact List.map_congr_left fun r _ => ids_hide pairs r

/-- The ids after an upsert depend on the ids before it. -/
theorem map_ids_upsertRow (rows : List FeedItem) (r : FeedItem) :
    (upsertRow rows r).map ids =
      if (rows.map ids).any (·.1 == r.logId) then
        (rows.map ids).map fun k => if k.1 == r.logId then ids r else k
      else rows.map ids ++ [ids r] := by
  have hany : (rows.map ids).any (·.1 == r.logId) = rows.any (·.logId == r.logId) := by
    rw [List.any_map]
    rfl
  rw [hany, upsertRow]
  split
  · rw [List.map_map, List.map_map]
    refine List.map_congr_left fun x _ => ?_
    rw [Function.comp_apply, Function.comp_apply, apply_ite ids]
    rfl
  · rw [List.map_append, List.map_cons, List.map_nil]

theorem insertAll_congr {content : List FeedItem} {t t' u : FeedTable}
    (hids : t.rows.map ids = t'.rows.map ids) (h : insertAll content t = some u) :
    ∃ u', insertAll content t' = some u' ∧ u.rows.map ids = u'.rows.map ids := by
  induction content generalizing t t' with
  | nil =>
    obtain rfl : t = u := Option.some.inj h
    exact ⟨t', rfl, hids⟩
  | cons r content ih =>
    rw [insertAll, List.foldlM_cons] at h
    obtain ⟨t₁, ht₁, h⟩ := Option.bind_eq_some_iff.1 h
    have hrows := Table.rows_of_commit ht₁
    have hids' : (upsertRow t.rows r).map ids = (upsertRow t'.rows r).map ids := by
      rw [map_ids_upsertRow, map_ids_upsertRow, hids]
    have hvalid : FeedIndexes (upsertRow t'.rows r) :=
      feedIndexes_congr hids' (hrows ▸ t₁.valid)
    obtain ⟨t₁', ht₁'⟩ := Option.isSome_iff_exists.1 (Table.commit_isSome.2 hvalid)
    rw [← hrows, ← Table.rows_of_commit ht₁'] at hids'
    obtain ⟨u', hu', hids''⟩ := ih hids' h
    refine ⟨u', ?_, hids''⟩
    rw [insertAll, List.foldlM_cons, ht₁']
    exact hu'

theorem map_ids_upsertRow_of_mem {rows : List FeedItem} {r : FeedItem} (hrows : FeedIndexes rows)
    (hr : ids r ∈ rows.map ids) : (upsertRow rows r).map ids = rows.map ids := by
  rw [map_ids_upsertRow, if_pos (List.any_eq_true.2 ⟨ids r, hr, by simp [ids]⟩)]
  conv_rhs => rw [← List.map_id (rows.map ids)]
  refine List.map_congr_left fun k hk => ?_
  obtain ⟨x, hx, rfl⟩ := List.mem_map.1 hk
  obtain ⟨y, hy, hyr⟩ := List.mem_map.1 hr
  split
  · next hid =>
    have hxy : x.logId = y.logId := (beq_iff_eq.1 hid).trans (congrArg Prod.fst hyr).symm
    rw [hrows.log_id.eq hx hy rfl rfl hxy, hyr, id]
  · rfl

theorem insertAll_of_mem {content : List FeedItem} {t : FeedTable}
    (h : ∀ c ∈ content, ids c ∈ t.rows.map ids) :
    ∃ t', insertAll content t = some t' ∧ t'.rows.map ids = t.rows.map ids := by
  induction content generalizing t with
  | nil => exact ⟨t, rfl, rfl⟩
  | cons c content ih =>
    have hids := map_ids_upsertRow_of_mem t.valid (h c (by simp))
    obtain ⟨t₁, ht₁⟩ :=
      Option.isSome_iff_exists.1 (Table.commit_isSome.2 (feedIndexes_congr hids.symm t.valid))
    rw [← Table.rows_of_commit ht₁] at hids
    obtain ⟨t', ht', hids'⟩ := ih (t := t₁) fun c' hc' => hids ▸ h c' (List.mem_cons_of_mem c hc')
    refine ⟨t', ?_, hids'.trans hids⟩
    rw [insertAll, List.foldlM_cons, ht₁]
    exact ht'

/-! ### Pages -/

/-- No column refuses what the ops of the page write. -/
structure Storable (page : List Prepared) : Prop where
  actor : ∀ e ∈ page, actorOk e = true
  content : ∀ e ∈ page, isContent e = true → (row e).isSome = true

variable {page : List Prepared} {s : Projection}

theorem Storable.append {page' : List Prepared} (h : Storable page) (h' : Storable page') :
    Storable (page ++ page') :=
  ⟨fun e he => (List.mem_append.1 he).elim (h.actor e) (h'.actor e),
    fun e he => (List.mem_append.1 he).elim (h.content e) (h'.content e)⟩

theorem FoldedPage.isStorable {s' : Projection} (h : FoldedPage page s s') : Storable page :=
  ⟨List.all_eq_true.1 h.actorOk, h.storable⟩

theorem content_of_storable (h : ∀ e ∈ page, isContent e = true → (row e).isSome = true) :
    (page.filter isContent).mapM row = some (page.filterMap contentRow) := by
  induction page with
  | nil => rfl
  | cons e page ih =>
    have hrest := ih fun x hx => h x (List.mem_cons_of_mem e hx)
    rw [List.filter_cons, List.filterMap_cons]
    by_cases hc : isContent e = true
    · obtain ⟨r, hr⟩ := Option.isSome_iff_exists.1 (h e (by simp) hc)
      rw [if_pos hc, List.mapM_cons, hr, hrest, contentRow, if_pos hc, hr]
      rfl
    · rw [if_neg hc, hrest, contentRow, if_neg hc]

/-- A page of storable ops writes its content into the table with the deletions. -/
theorem foldPrepared_of_storable (s : Projection) (hids : (logIds page).Nodup) (h : Storable page) :
    ∃ t : FeedTable, t.rows.map ids = s.feedItems.rows.map ids ∧
      foldPrepared page s =
        (insertAll (page.filterMap contentRow) t).map fun u =>
          ((page.filterMap contentRow).length,
            { feedItems := u
              follows := writes s.follows (page.filterMap followWrite)
              profiles := writes s.profiles (page.filterMap profileWrite) }) := by
  have hvalid : FeedIndexes (s.feedItems.rows.map (hide (deletionPairs page))) :=
    feedIndexes_congr (map_ids_hide _ _).symm s.feedItems.valid
  obtain ⟨t, ht⟩ := Option.isSome_iff_exists.1 (Table.commit_isSome.2 hvalid)
  refine ⟨t, by rw [Table.rows_of_commit ht, map_ids_hide], ?_⟩
  rw [foldPrepared, foldlM_foldActor, if_pos (List.all_eq_true.2 h.actor)]
  simp only [Option.bind_eq_bind, Option.bind_some, ht, content_of_storable h.content,
    uniqByLogId_eq (nodup_contentIds hids)]
  cases insertAll (page.filterMap contentRow) t <;> rfl

theorem foldPrepared_isSome (hids : (logIds page).Nodup) :
    (foldPrepared page s).isSome = true ↔
      Storable page ∧ (insertAll (page.filterMap contentRow) s.feedItems).isSome = true := by
  constructor
  · intro h
    obtain ⟨⟨n, s'⟩, hs'⟩ := Option.isSome_iff_exists.1 h
    have hstorable := (foldPrepared_eq_some hids hs').isStorable
    refine ⟨hstorable, ?_⟩
    obtain ⟨t, hsame, heq⟩ := foldPrepared_of_storable s hids hstorable
    obtain ⟨u, hu, -⟩ := Option.map_eq_some_iff.1 (heq.symm.trans hs')
    obtain ⟨u', hu', -⟩ := insertAll_congr hsame hu
    rw [hu']
    rfl
  · rintro ⟨hstorable, h⟩
    obtain ⟨u, hu⟩ := Option.isSome_iff_exists.1 h
    obtain ⟨t, hsame, heq⟩ := foldPrepared_of_storable s hids hstorable
    obtain ⟨u', hu', -⟩ := insertAll_congr hsame.symm hu
    rw [heq, hu']
    rfl

/-- The ids after a page are those after its content. -/
theorem foldPrepared_ids {s' : Projection} {n : ℕ} {v : FeedTable} (hids : (logIds page).Nodup)
    (h : foldPrepared page s = some (n, s'))
    (hv : insertAll (page.filterMap contentRow) s.feedItems = some v) :
    s'.feedItems.rows.map ids = v.rows.map ids := by
  obtain ⟨t, hsame, heq⟩ :=
    foldPrepared_of_storable s hids (foldPrepared_eq_some hids h).isStorable
  obtain ⟨u, hu, hu'⟩ := Option.map_eq_some_iff.1 (heq.symm.trans h)
  cases hu'
  obtain ⟨v', hv', hvids⟩ := insertAll_congr hsame hu
  rw [hv] at hv'
  cases hv'
  exact hvids

theorem foldPages_cons (P : Platform) (page : List Op) (pages : List (List Op)) (s : Projection) :
    foldPages P (page :: pages) s =
      (foldPrepared (page.map (prepareOp P)) s).bind fun r => foldPages P pages r.2 := by
  rw [foldPages, List.foldlM_cons, applyOps]
  cases foldPrepared (page.map (prepareOp P)) s <;> rfl

theorem foldPages_append {P : Platform} {a b : List Op} {s₁ : Projection}
    (hids : ((a ++ b).map (·.logId)).Nodup) (h : foldPages P [a, b] s = some s₁) :
    ∃ s₂, foldPages P [a ++ b] s = some s₂ := by
  have hboth : (logIds (a.map (prepareOp P) ++ b.map (prepareOp P))).Nodup := by
    rw [← List.map_append, logIds_prepared]
    exact hids
  have hab := hboth
  rw [logIds, List.map_append, List.nodup_append] at hab
  rw [foldPages_cons] at h
  obtain ⟨⟨n, t⟩, ht, h⟩ := Option.bind_eq_some_iff.1 h
  rw [foldPages_cons] at h
  obtain ⟨⟨m, u⟩, hu, -⟩ := Option.bind_eq_some_iff.1 h
  obtain ⟨ha, hca⟩ := (foldPrepared_isSome hab.1).1 (by rw [ht]; rfl)
  obtain ⟨hb, hcb⟩ := (foldPrepared_isSome hab.2.1).1 (by rw [hu]; rfl)
  obtain ⟨v, hv⟩ := Option.isSome_iff_exists.1 hca
  obtain ⟨w, hw⟩ := Option.isSome_iff_exists.1 hcb
  -- the rows of the first page have the ids they have without a deletion
  have hsame : t.feedItems.rows.map ids = v.rows.map ids := foldPrepared_ids hab.1 ht hv
  obtain ⟨w', hw', -⟩ := insertAll_congr hsame hw
  have hone : (foldPrepared ((a ++ b).map (prepareOp P)) s).isSome = true := by
    rw [List.map_append]
    refine (foldPrepared_isSome hboth).2 ⟨ha.append hb, ?_⟩
    rw [List.filterMap_append, insertAll, List.foldlM_append]
    rw [insertAll] at hv hw'
    rw [hv, Option.bind_eq_bind, Option.bind_some, hw']
    rfl
  obtain ⟨r, hr⟩ := Option.isSome_iff_exists.1 hone
  exact ⟨r.2, by rw [foldPages_cons, hr]; rfl⟩

/-- The ids of the rows that the content of a page has. -/
def Present (page : List Prepared) (rows : List FeedItem) : Prop :=
  ∀ e ∈ page, isContent e = true → (e.op.logId, e.op.opId) ∈ rows.map ids

theorem ids_contentRow {e : Prepared} {c : FeedItem} (h : contentRow e = some c) :
    ids c = (e.op.logId, e.op.opId) := by
  obtain ⟨-, hr⟩ := contentRow_eq_some.1 h
  rw [ids, (row_eq_some hr).logId, (row_eq_some hr).opId]

/-- **Pages of ops whose rows are in the table return**, and leave its ids alone. -/
theorem foldPages_replay {P : Platform} {pages : List (List Op)}
    (hids : (pages.flatten.map (·.logId)).Nodup) (hstorable : Storable (prepared P pages).flatten)
    (hpresent : Present (prepared P pages).flatten s.feedItems.rows) :
    ∃ s', foldPages P pages s = some s' := by
  induction pages generalizing s with
  | nil => exact ⟨s, rfl⟩
  | cons page pages ih =>
    have hsplit : (prepared P (page :: pages)).flatten
        = page.map (prepareOp P) ++ (prepared P pages).flatten := rfl
    rw [hsplit] at hstorable hpresent
    rw [List.flatten_cons, List.map_append, List.nodup_append] at hids
    have hpage : (logIds (page.map (prepareOp P))).Nodup := by
      rw [logIds_prepared]
      exact hids.1
    have hthere : ∀ c ∈ (page.map (prepareOp P)).filterMap contentRow,
        ids c ∈ s.feedItems.rows.map ids := by
      intro c hc
      obtain ⟨e, he, hec⟩ := List.mem_filterMap.1 hc
      rw [ids_contentRow hec]
      exact hpresent e (List.mem_append_left _ he) (contentRow_eq_some.1 hec).1
    obtain ⟨v, hv, hvids⟩ := insertAll_of_mem hthere
    have hret : (foldPrepared (page.map (prepareOp P)) s).isSome = true := by
      refine (foldPrepared_isSome hpage).2 ⟨⟨?_, ?_⟩, by rw [hv]; rfl⟩
      · exact fun e he => hstorable.actor e (List.mem_append_left _ he)
      · exact fun e he => hstorable.content e (List.mem_append_left _ he)
    obtain ⟨⟨n, t⟩, ht⟩ := Option.isSome_iff_exists.1 hret
    have hsame := (foldPrepared_ids hpage ht hv).trans hvids
    obtain ⟨s', hs'⟩ := ih (s := t) hids.2.1
      ⟨fun e he => hstorable.actor e (List.mem_append_right _ he),
        fun e he => hstorable.content e (List.mem_append_right _ he)⟩
      (fun e he hc => hsame ▸ hpresent e (List.mem_append_right _ he) hc)
    exact ⟨s', by rw [foldPages_cons, ht]; exact hs'⟩

end AppView

end Ansible
