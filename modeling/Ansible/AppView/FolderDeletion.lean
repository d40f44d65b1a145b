import Ansible.AppView.FolderReturn

/-!
# Deletions and page boundaries

The deletions of a page come before its content, so they reach the rows of earlier pages
and not the rows of their own page.  An author's delete is final for an op exactly when a
deletion of the entity lies in a page behind the one of the op.

## Main results

* `deletionFinal_iff` — **deletions are final exactly when they lie in later pages.**
-/

namespace Ansible

namespace AppView

def authorDelete (e : Prepared) : Bool := e.verified && isDeletion e

/-- No row is served whose author has deleted the entity in a later op of the log. -/
def DeletionFinal (log : List Prepared) (rows : List FeedItem) : Prop :=
  ∀ r ∈ rows, ∀ d ∈ log, authorDelete d = true → d.pair = (r.entityId, r.authorDid) →
    r.logId < d.op.logId → r.deleted = true

instance (log : List Prepared) (rows : List FeedItem) : Decidable (DeletionFinal log rows) :=
  inferInstanceAs (Decidable (∀ r ∈ rows, ∀ d ∈ log, authorDelete d = true →
    d.pair = (r.entityId, r.authorDid) → r.logId < d.op.logId → r.deleted = true))

/-- Each content op that its author deletes later has a deletion of its entity, the author's
or the host's, in a page behind its own. -/
def DeletedBehind (pages : List (List Prepared)) : Prop :=
  ∀ e ∈ pages.flatten, isContent e = true → ∀ d ∈ pages.flatten, authorDelete d = true →
    d.pair = e.pair → e.op.logId < d.op.logId → e.pair ∈ deletedAfter pages e.op.logId

instance : DecidablePred DeletedBehind := fun pages =>
  inferInstanceAs (Decidable (∀ e ∈ pages.flatten, isContent e = true → ∀ d ∈ pages.flatten,
    authorDelete d = true → d.pair = e.pair → e.op.logId < d.op.logId →
      e.pair ∈ deletedAfter pages e.op.logId))

def SameRows (t t' : FeedTable) : Prop := ∀ x, x ∈ t.rows ↔ x ∈ t'.rows

def LogOrder (ops : List Op) : Prop := (ops.map (·.logId)).Pairwise (· < ·)

instance : DecidablePred LogOrder := fun ops =>
  inferInstanceAs (Decidable ((ops.map (·.logId)).Pairwise fun i j => i < j))

theorem LogOrder.nodup {ops : List Op} (h : LogOrder ops) : (ops.map (·.logId)).Nodup :=
  h.imp ne_of_lt

@[simp] theorem pair_hide (pairs : List (String × String)) (r : FeedItem) :
    ((hide pairs r).entityId, (hide pairs r).authorDid) = (r.entityId, r.authorDid) := by
  unfold hide
  split <;> rfl

/-- The rows of a fold from the empty read models are those of the content ops. -/
theorem Folded.feed_empty {pages : List (List Prepared)} {s : Projection}
    (h : Folded pages .empty s) (x : FeedItem) :
    x ∈ s.feedItems.rows ↔ ∃ e ∈ pages.flatten, ∃ c,
      contentRow e = some c ∧ x = hide (deletedAfter pages e.op.logId) c := by
  rw [h.feed]
  refine or_iff_left ?_
  rintro ⟨r, hr, -⟩
  exact List.not_mem_nil hr

theorem deleted_hide_contentRow {e : Prepared} {c : FeedItem} (hc : contentRow e = some c)
    (D : List (String × String)) : (hide D c).deleted = true ↔ e.pair ∈ D := by
  rw [deleted_hide, deleted_of_contentRow hc, (row_eq_some (contentRow_eq_some.1 hc).2).pair]
  simp

/-- **Deletions are final exactly when they lie in later pages.** -/
theorem deletionFinal_iff {pages : List (List Prepared)} {s : Projection}
    (h : Folded pages .empty s) :
    DeletionFinal pages.flatten s.feedItems.rows ↔ DeletedBehind pages := by
  constructor
  · intro hfinal e he hcontent d hd hdel hpair hlt
    obtain ⟨c, hc⟩ := Option.isSome_iff_exists.1 (h.storable e he hcontent)
    have hc := contentRow_eq_some.2 ⟨hcontent, hc⟩
    have hrow := row_eq_some (contentRow_eq_some.1 hc).2
    refine (deleted_hide_contentRow hc _).1 ?_
    refine hfinal _ ((h.feed_empty _).2 ⟨e, he, c, hc, rfl⟩) d hd hdel ?_ ?_
    · rw [pair_hide, hrow.pair, hpair]
    · rwa [logId_hide, hrow.logId]
  · intro hbehind x hx d hd hdel hpair hlt
    obtain ⟨e, he, c, hc, rfl⟩ := (h.feed_empty x).1 hx
    have hrow := row_eq_some (contentRow_eq_some.1 hc).2
    rw [pair_hide, hrow.pair] at hpair
    rw [logId_hide, hrow.logId] at hlt
    exact (deleted_hide_contentRow hc _).2
      (hbehind e he (contentRow_eq_some.1 hc).1 d hd hdel hpair hlt)

/-! ### Two pages as one -/

theorem deletionPairs_append (a b : List Prepared) :
    deletionPairs (a ++ b) = deletionPairs a ++ deletionPairs b := by
  simp only [deletionPairs, List.filter_append, List.map_append]

/-- The rows of two pages folded one after the other. -/
theorem mem_feedItems_pair {a b : List Prepared} {s s₁ : Projection} (h : Folded [a, b] s s₁)
    (hids : (logIds (a ++ b)).Nodup) (x : FeedItem) :
    x ∈ s₁.feedItems.rows ↔
      ((∃ e ∈ a, ∃ c, contentRow e = some c ∧ x = hide (deletionPairs b) c) ∨
        ∃ e ∈ b, contentRow e = some x) ∨
      ∃ r ∈ s.feedItems.rows, (∀ e ∈ a ++ b, isContent e = true → e.op.logId ≠ r.logId) ∧
        x = hide (deletionPairs (a ++ b)) r := by
  have hab := hids
  rw [logIds, List.map_append, List.nodup_append] at hab
  have hfirst : ∀ e ∈ a, deletedAfter [a, b] e.op.logId = deletionPairs b := by
    intro e he
    rw [deletedAfter_cons_of_mem he, List.flatMap_cons, List.flatMap_nil, List.append_nil]
  have hsecond : ∀ e ∈ b, deletedAfter [a, b] e.op.logId = [] := by
    intro e he
    rw [deletedAfter_cons_of_forall_ne, deletedAfter_cons_of_mem he, List.flatMap_nil]
    exact fun d hd => hab.2.2 _ (List.mem_map_of_mem hd) _ (List.mem_map_of_mem he)
  have hflat : [a, b].flatten = a ++ b := by simp
  have hpairs : [a, b].flatMap deletionPairs = deletionPairs (a ++ b) := by
    simp [deletionPairs_append]
  rw [h.feed, hflat, hpairs]
  refine or_congr_left ?_
  constructor
  · rintro ⟨e, he, c, hc, rfl⟩
    rcases List.mem_append.1 he with he | he
    · exact .inl ⟨e, he, c, hc, by rw [hfirst e he]⟩
    · exact .inr ⟨e, he, by rw [hsecond e he, hide_nil, hc]⟩
  · rintro (⟨e, he, c, hc, rfl⟩ | ⟨e, he, hc⟩)
    · exact ⟨e, List.mem_append_left b he, c, hc, by rw [hfirst e he]⟩
    · exact ⟨e, List.mem_append_right a he, x, hc, by rw [hsecond e he, hide_nil]⟩

/-- The rows of one page. -/
theorem mem_feedItems_single {a : List Prepared} {s s₁ : Projection} (h : Folded [a] s s₁)
    (x : FeedItem) :
    x ∈ s₁.feedItems.rows ↔ (∃ e ∈ a, contentRow e = some x) ∨
      ∃ r ∈ s.feedItems.rows, (∀ e ∈ a, isContent e = true → e.op.logId ≠ r.logId) ∧
        x = hide (deletionPairs a) r := by
  have hflat : [a].flatten = a := by simp
  have hpairs : [a].flatMap deletionPairs = deletionPairs a := by simp
  rw [h.feed, hflat, hpairs]
  refine or_congr_left ⟨?_, ?_⟩
  · rintro ⟨e, he, c, hc, rfl⟩
    exact ⟨e, he, by rw [deletedAfter_cons_of_mem he, List.flatMap_nil, hide_nil, hc]⟩
  · rintro ⟨e, he, hc⟩
    exact ⟨e, he, x, hc, by rw [deletedAfter_cons_of_mem he, List.flatMap_nil, hide_nil]⟩

/-- When two pages leave what they leave as one. -/
theorem sameRows_append_iff {a b : List Prepared} {s s₁ s₂ : Projection}
    (hids : (logIds (a ++ b)).Nodup) (h₁ : Folded [a, b] s s₁) (h₂ : Folded [a ++ b] s s₂) :
    SameRows s₁.feedItems s₂.feedItems ↔
      ∀ e ∈ a, isContent e = true → e.pair ∉ deletionPairs b := by
  constructor
  · intro hsame e he hcontent hpair
    have hflat : e ∈ [a, b].flatten := by simp [he]
    obtain ⟨c, hc⟩ := Option.isSome_iff_exists.1 (h₁.storable e hflat hcontent)
    have hc := contentRow_eq_some.2 ⟨hcontent, hc⟩
    have hhidden := (hsame _).1
      ((mem_feedItems_pair h₁ hids _).2 (.inl (.inl ⟨e, he, c, hc, rfl⟩)))
    have hplain : c ∈ s₂.feedItems.rows :=
      (mem_feedItems_single h₂ _).2 (.inl ⟨e, List.mem_append_left b he, hc⟩)
    -- one row for one log id
    have heq : hide (deletionPairs b) c = c :=
      s₂.feedItems.valid.log_id.eq hhidden hplain rfl rfl (logId_hide _ c)
    have hdel := (deleted_hide_contentRow hc (deletionPairs b)).2 hpair
    rw [heq, deleted_of_contentRow hc] at hdel
    cases hdel
  · intro hnone x
    rw [mem_feedItems_pair h₁ hids, mem_feedItems_single h₂]
    refine or_congr_left ?_
    have hkeep : ∀ e ∈ a, ∀ c, contentRow e = some c → hide (deletionPairs b) c = c := by
      intro e he c hc
      have hpair := (row_eq_some (contentRow_eq_some.1 hc).2).pair
      refine hide_of_not_mem ?_
      rw [hpair]
      exact hnone e he (contentRow_eq_some.1 hc).1
    constructor
    · rintro (⟨e, he, c, hc, rfl⟩ | ⟨e, he, hc⟩)
      · exact ⟨e, List.mem_append_left b he, by rw [hkeep e he c hc, hc]⟩
      · exact ⟨e, List.mem_append_right a he, hc⟩
    · rintro ⟨e, he, hc⟩
      rcases List.mem_append.1 he with he | he
      · exact .inl ⟨e, he, x, hc, (hkeep e he x hc).symm⟩
      · exact .inr ⟨e, he, hc⟩

/-- **Deletions and page boundaries**: over any sequence of pages in log order the deletions are
final exactly when each deleted op has a deletion behind its page, and two pages leave the
rows that they leave as one exactly when the second deletes nothing of the first. -/
theorem deletion_page_boundaries (P : Platform) :
    (∀ (pages : List (List Op)) (s : Projection), LogOrder pages.flatten →
      foldPages P pages .empty = some s →
      (DeletionFinal (pages.flatten.map (prepareOp P)) s.feedItems.rows ↔
        DeletedBehind (prepared P pages))) ∧
    ∀ (a b : List Op) (s s₁ : Projection), LogOrder (a ++ b) →
      foldPages P [a, b] s = some s₁ → ∃ s₂, foldPages P [a ++ b] s = some s₂ ∧
        (SameRows s₁.feedItems s₂.feedItems ↔
          ∀ e ∈ a.map (prepareOp P), isContent e = true →
            e.pair ∉ deletionPairs (b.map (prepareOp P))) := by
  refine ⟨fun pages s horder hs => ?_, fun a b s s₁ horder hs₁ => ?_⟩
  · rw [← flatten_prepared]
    exact deletionFinal_iff (folded_of_foldPages horder.nodup hs)
  · obtain ⟨s₂, hs₂⟩ := foldPages_append horder.nodup hs₁
    have hflat₁ : [a, b].flatten = a ++ b := by simp
    have hflat₂ : [a ++ b].flatten = a ++ b := by simp
    have h₁ := folded_of_foldPages (by rw [hflat₁]; exact horder.nodup) hs₁
    have h₂ := folded_of_foldPages (by rw [hflat₂]; exact horder.nodup) hs₂
    have hids : (logIds (a.map (prepareOp P) ++ b.map (prepareOp P))).Nodup := by
      rw [← List.map_append, logIds_prepared]
      exact horder.nodup
    rw [show prepared P [a ++ b] = [a.map (prepareOp P) ++ b.map (prepareOp P)] by
      simp [prepared]] at h₂
    exact ⟨s₂, hs₂, sameRows_append_iff hids h₁ h₂⟩

/-! ### A murmur and its deletion -/

def insertOp : Op := toyOp 1 "a" "insert"

def deleteOp : Op := toyOp 2 "b" "delete"

theorem separate_pages_isSome :
    (foldPages .toy [[insertOp], [deleteOp]] .empty).isSome = true := by decide +kernel

/-- The read models after a page with the murmur and a page with its deletion. -/
def separatePages : Projection :=
  (foldPages .toy [[insertOp], [deleteOp]] .empty).get separate_pages_isSome

theorem deletion_page_boundaries_separate :
    DeletionFinal ([insertOp, deleteOp].map (prepareOp .toy)) separatePages.feedItems.rows ∧
      ∃ s₂, foldPages .toy [[insertOp, deleteOp]] .empty = some s₂ ∧
        ¬ SameRows separatePages.feedItems s₂.feedItems := by
  have hs : foldPages .toy [[insertOp], [deleteOp]] .empty = some separatePages :=
    (Option.some_get separate_pages_isSome).symm
  obtain ⟨s₂, hs₂, hiff⟩ :=
    (deletion_page_boundaries .toy).2 [insertOp] [deleteOp] .empty separatePages (by decide) hs
  refine ⟨?_, s₂, hs₂, fun hsame => ?_⟩
  · exact ((deletion_page_boundaries .toy).1 [[insertOp], [deleteOp]] separatePages (by decide)
      hs).2 (by decide +kernel)
  · have hnot : ¬ ∀ e ∈ [insertOp].map (prepareOp .toy), isContent e = true →
        e.pair ∉ deletionPairs ([deleteOp].map (prepareOp .toy)) := by decide +kernel
    exact hnot (hiff.1 hsame)

/-- In one page the deletion comes before the murmur, which stays visible. -/
theorem deletion_not_final :
    LogOrder [insertOp, deleteOp] ∧
      ∃ s ∈ foldPages .toy [[insertOp, deleteOp]] .empty,
        ¬ DeletionFinal ([insertOp, deleteOp].map (prepareOp .toy)) s.feedItems.rows := by
  decide +kernel

end AppView

end Ansible
