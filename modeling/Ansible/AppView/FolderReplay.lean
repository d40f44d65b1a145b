import Ansible.AppView.FolderDeletion

/-!
# Folding a range again

A worker that stops between its write and its cursor folds a range of the log again.
Each read model has its own rule for that: a feed item is replaced as a whole, an edge or
an entry is written or removed without a look at the version.  So a replay is harmless
exactly when what it writes last is what the log wrote last.

## Main results

* `replay_idempotent_iff` — **when a replay changes nothing.**
-/

namespace Ansible

namespace AppView

/-- The read models are as they were. -/
structure SameProjection (s s' : Projection) : Prop where
  feedItems : SameRows s.feedItems s'.feedItems
  follows : s'.follows = s.follows
  profiles : s'.profiles = s.profiles

/-- The replay ends each row, edge and entry as the log does. -/
structure ReplaySafe (log replay : List (List Prepared)) : Prop where
  written : ∀ e ∈ replay.flatten, isContent e = true →
    (e.pair ∈ deletedAfter replay e.op.logId ↔ e.pair ∈ deletedAfter log e.op.logId)
  kept : ∀ e ∈ log.flatten, isContent e = true → e.op.logId ∉ logIds replay.flatten →
    e.pair ∈ replay.flatMap deletionPairs → e.pair ∈ deletedAfter log e.op.logId
  follows : EndsAs (replay.flatten.filterMap followWrite) (log.flatten.filterMap followWrite)
  profiles : EndsAs (replay.flatten.filterMap profileWrite) (log.flatten.filterMap profileWrite)

/-! ### The replay returns -/

theorem Folded.present {pages : List (List Prepared)} {s : Projection}
    (h : Folded pages .empty s) : Present pages.flatten s.feedItems.rows := by
  intro e he hcontent
  obtain ⟨c, hc⟩ := Option.isSome_iff_exists.1 (h.storable e he hcontent)
  have hc := contentRow_eq_some.2 ⟨hcontent, hc⟩
  rw [← ids_contentRow hc, ← ids_hide (deletedAfter pages e.op.logId)]
  exact List.mem_map_of_mem ((h.feed_empty _).2 ⟨e, he, c, hc, rfl⟩)

theorem Folded.returns_again {P : Platform} {ps rs : List (List Op)} {s : Projection}
    (h : Folded (prepared P ps) .empty s) (hlog : LogOrder ps.flatten)
    (hrange : rs.flatten <:+: ps.flatten) : ∃ s', foldPages P rs s = some s' := by
  have hsub : (prepared P rs).flatten ⊆ (prepared P ps).flatten := by
    rw [flatten_prepared, flatten_prepared]
    exact (hrange.map (prepareOp P)).subset
  refine foldPages_replay ((hrange.sublist.map _).nodup hlog.nodup) ⟨?_, ?_⟩ ?_
  · exact fun e he => h.actorOk e (hsub he)
  · exact fun e he => h.storable e (hsub he)
  · exact fun e he => h.present e (hsub he)

/-! ### The feed items -/

theorem eq_of_logId {log : List Prepared} (hids : (logIds log).Nodup) {d e : Prepared}
    (hd : d ∈ log) (he : e ∈ log) (h : d.op.logId = e.op.logId) : d = e :=
  List.inj_on_of_nodup_map hids hd he h

/-- When a replay leaves the feed items alone. -/
theorem sameRows_replay_iff {log replay : List (List Prepared)} {s s' : Projection}
    (hids : (logIds log.flatten).Nodup) (hsub : replay.flatten ⊆ log.flatten)
    (h : Folded log .empty s) (h' : Folded replay s s') :
    SameRows s.feedItems s'.feedItems ↔
      (∀ e ∈ replay.flatten, isContent e = true →
        (e.pair ∈ deletedAfter replay e.op.logId ↔ e.pair ∈ deletedAfter log e.op.logId)) ∧
      ∀ e ∈ log.flatten, isContent e = true → e.op.logId ∉ logIds replay.flatten →
        e.pair ∈ replay.flatMap deletionPairs → e.pair ∈ deletedAfter log e.op.logId := by
  have hrow : ∀ {e c}, contentRow e = some c → RowOf e c := fun hc =>
    row_eq_some (contentRow_eq_some.1 hc).2
  constructor
  · intro hsame
    refine ⟨fun e he hcontent => ?_, fun e he hcontent hnot hpair => ?_⟩
    · obtain ⟨c, hc⟩ := Option.isSome_iff_exists.1 (h'.storable e he hcontent)
      have hc := contentRow_eq_some.2 ⟨hcontent, hc⟩
      have hagain := (hsame _).2 ((h'.feed _).2 (.inl ⟨e, he, c, hc, rfl⟩))
      have hbefore := (h.feed_empty _).2 ⟨e, hsub he, c, hc, rfl⟩
      have heq : hide (deletedAfter replay e.op.logId) c = hide (deletedAfter log e.op.logId) c :=
        s.feedItems.valid.log_id.eq hagain hbefore rfl rfl (by simp)
      rw [← deleted_hide_contentRow hc, ← deleted_hide_contentRow hc, heq]
    · obtain ⟨c, hc⟩ := Option.isSome_iff_exists.1 (h.storable e he hcontent)
      have hc := contentRow_eq_some.2 ⟨hcontent, hc⟩
      have hbefore := (h.feed_empty _).2 ⟨e, he, c, hc, rfl⟩
      have hafter := (hsame _).2 ((h'.feed _).2 (.inr ⟨_, hbefore, ?_, rfl⟩))
      · have heq : hide (replay.flatMap deletionPairs) (hide (deletedAfter log e.op.logId) c)
            = hide (deletedAfter log e.op.logId) c :=
          s.feedItems.valid.log_id.eq hafter hbefore rfl rfl (by simp)
        rw [← deleted_hide_contentRow hc, ← heq, deleted_hide, pair_hide, (hrow hc).pair]
        exact .inr hpair
      · intro d hd _ heq
        rw [logId_hide, (hrow hc).logId] at heq
        exact hnot (heq ▸ List.mem_map_of_mem hd)
  · rintro ⟨hwritten, hkept⟩ x
    rw [h'.feed]
    -- a row that the replay does not write keeps its mark
    have hstay : ∀ e ∈ log.flatten, ∀ c, contentRow e = some c →
        e.op.logId ∉ logIds replay.flatten →
        hide (replay.flatMap deletionPairs) (hide (deletedAfter log e.op.logId) c)
          = hide (deletedAfter log e.op.logId) c := by
      intro e he c hc hnot
      by_cases hpair : e.pair ∈ replay.flatMap deletionPairs
      · exact hide_of_deleted ((deleted_hide_contentRow hc _).2
          (hkept e he (contentRow_eq_some.1 hc).1 hnot hpair))
      · refine hide_of_not_mem ?_
        rwa [pair_hide, (hrow hc).pair]
    have hsame : ∀ e ∈ replay.flatten, ∀ c, contentRow e = some c →
        hide (deletedAfter log e.op.logId) c = hide (deletedAfter replay e.op.logId) c := by
      intro e he c hc
      refine hide_congr ?_
      rw [(hrow hc).pair]
      exact (hwritten e he (contentRow_eq_some.1 hc).1).symm
    constructor
    · intro hx
      obtain ⟨e, he, c, hc, rfl⟩ := (h.feed_empty x).1 hx
      by_cases hmem : e.op.logId ∈ logIds replay.flatten
      · obtain ⟨d, hd, hde⟩ := List.mem_map.1 hmem
        obtain rfl := eq_of_logId hids (hsub hd) he hde
        exact .inl ⟨d, hd, c, hc, hsame d hd c hc⟩
      · refine .inr ⟨_, hx, fun d hd _ heq => hmem ?_, (hstay e he c hc hmem).symm⟩
        rw [logId_hide, (hrow hc).logId] at heq
        exact heq ▸ List.mem_map_of_mem hd
    · rintro (⟨e, he, c, hc, rfl⟩ | ⟨r, hr, hne, rfl⟩)
      · exact (h.feed_empty _).2 ⟨e, hsub he, c, hc, (hsame e he c hc).symm⟩
      · obtain ⟨e, he, c, hc, rfl⟩ := (h.feed_empty r).1 hr
        have hmem : e.op.logId ∉ logIds replay.flatten := by
          intro hmem
          obtain ⟨d, hd, hde⟩ := List.mem_map.1 hmem
          obtain rfl := eq_of_logId hids (hsub hd) he hde
          refine hne d hd (contentRow_eq_some.1 hc).1 ?_
          rw [logId_hide, (hrow hc).logId]
        rw [hstay e he c hc hmem]
        exact hr

/-- **When a replay changes nothing.**  A range of a folded log returns when it is folded again,
and leaves the read models as they were exactly when it is safe. -/
theorem replay_idempotent_iff (P : Platform) {ps rs : List (List Op)} {s : Projection}
    (hlog : LogOrder ps.flatten) (hrange : rs.flatten <:+: ps.flatten)
    (hs : foldPages P ps .empty = some s) :
    ∃ s', foldPages P rs s = some s' ∧
      (SameProjection s s' ↔ ReplaySafe (prepared P ps) (prepared P rs)) := by
  have h := folded_of_foldPages hlog.nodup hs
  obtain ⟨s', hs'⟩ := h.returns_again hlog hrange
  have h' := folded_of_foldPages ((hrange.sublist.map _).nodup hlog.nodup) hs'
  have hsub : (prepared P rs).flatten ⊆ (prepared P ps).flatten := by
    rw [flatten_prepared, flatten_prepared]
    exact (hrange.map (prepareOp P)).subset
  have hids : (logIds (prepared P ps).flatten).Nodup := by
    rw [flatten_prepared, logIds_prepared]
    exact hlog.nodup
  have hfeed := sameRows_replay_iff hids hsub h h'
  have hfollows : s'.follows = s.follows ↔
      EndsAs ((prepared P rs).flatten.filterMap followWrite)
        ((prepared P ps).flatten.filterMap followWrite) := by
    rw [h'.follows, h.follows]
    exact writes_replay_iff fun w hw => List.filterMap_subset followWrite hsub hw
  have hprofiles : s'.profiles = s.profiles ↔
      EndsAs ((prepared P rs).flatten.filterMap profileWrite)
        ((prepared P ps).flatten.filterMap profileWrite) := by
    rw [h'.profiles, h.profiles]
    exact writes_replay_iff fun w hw => List.filterMap_subset profileWrite hsub hw
  refine ⟨s', hs', fun hsame => ?_, fun hsafe => ?_⟩
  · obtain ⟨hwritten, hkept⟩ := hfeed.1 hsame.feedItems
    exact ⟨hwritten, hkept, hfollows.1 hsame.follows, hprofiles.1 hsame.profiles⟩
  · exact ⟨hfeed.2 ⟨hsafe.written, hsafe.kept⟩, hfollows.2 hsafe.follows,
      hprofiles.2 hsafe.profiles⟩

/-! ### A murmur and its deletion again -/

/-- Both pages again. -/
theorem replay_idempotent_separate :
    ∃ s', foldPages .toy [[insertOp], [deleteOp]] separatePages = some s' ∧
      SameProjection separatePages s' := by
  have hlog : LogOrder ([[insertOp], [deleteOp]] : List (List Op)).flatten := by decide
  obtain ⟨s', hs', hiff⟩ := replay_idempotent_iff .toy hlog
    (List.infix_refl ([[insertOp], [deleteOp]] : List (List Op)).flatten)
    (Option.some_get separate_pages_isSome).symm
  exact ⟨s', hs', hiff.2 ⟨fun _ _ _ => Iff.rfl, by decide +kernel, fun _ _ h => h,
    fun _ _ h => h⟩⟩

/-- The page with the murmur again: it is visible although it was deleted. -/
theorem replay_not_idempotent :
    LogOrder [insertOp, deleteOp] ∧ [insertOp] <:+: [insertOp, deleteOp] ∧
      foldPages .toy [[insertOp], [deleteOp]] .empty = some separatePages ∧
      ∃ s' ∈ foldPages .toy [[insertOp]] separatePages, ¬ SameProjection separatePages s' := by
  have hdeleted : ∀ r ∈ separatePages.feedItems.rows, r.deleted = true := by decide +kernel
  have hvisible : ∃ s' ∈ foldPages .toy [[insertOp]] separatePages,
      ∃ r ∈ s'.feedItems.rows, r.deleted = false := by decide +kernel
  obtain ⟨s', hs', r, hr, hvisible⟩ := hvisible
  refine ⟨by decide, ⟨[], [deleteOp], rfl⟩, (Option.some_get separate_pages_isSome).symm, s', hs',
    fun hsame => ?_⟩
  have hr' := hdeleted r ((hsame.feedItems r).2 hr)
  rw [hvisible] at hr'
  cases hr'

end AppView

end Ansible
