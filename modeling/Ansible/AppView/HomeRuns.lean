import Ansible.AppView.HomePaging

/-!
# Home timelines over runs

The store of references follows the log as long as nothing takes an item out of it, or keeps one
out of it, behind the reader's back.

## Main definitions

* `FollowOk` — a new edge is backfilled as a whole, and a removed one leaves no references.

## Main results

* `homeComplete_of_run` — **along such runs every readable timeline is complete.**
-/

namespace Ansible

namespace AppView

open FollowGraph HomeTimeline

/-! ### The conditions -/

/-- The reader follows nobody else whose items are fanned out. -/
def NothingMissed (cfg : HomeConfig) (feed : FeedTable) (g : FollowEdges) (reader author : String) :
    Prop := ∀ a ∈ following g reader, a ≠ author → celebrity cfg g a = false →
      itemsOf [a] feed = []

instance (cfg : HomeConfig) (feed : FeedTable) (g : FollowEdges) (reader author : String) :
    Decidable (NothingMissed cfg feed g reader author) :=
  inferInstanceAs (Decidable (∀ a ∈ following g reader, a ≠ author → celebrity cfg g a = false →
    itemsOf [a] feed = []))

/-- A reader drops an author of whom the store has no reference for it, and an author who is no
celebrity any more has no items that the store has missed; a new edge brings no more items than
are backfilled, to a reader who has references or has missed nothing. -/
def FollowOk (cfg : HomeConfig) (feed : FeedTable) (g : HomeGraph) :
    Option ((String × String) × Option ℤ) → Prop
  | none => True
  | some ((reader, author), none) => (reader, author) ∈ g.edges →
      (∀ r ∈ refs reader g.home, ∀ f ∈ feed.rows, f.opId = r.opId → f.authorDid ≠ author) ∧
      (celebrity cfg g.edges author = true →
        celebrity cfg (removeEdge (reader, author) g.edges) author = false →
          itemsOf [author] feed = [])
  | some ((reader, author), some _) =>
      celebrity cfg (insertEdge (reader, author) g.edges) author = false →
      itemsOf [author] feed ≠ [] →
        ((reader, author) ∈ g.edges ∧ hasEntries reader g.home = true ∨
          (itemsOf [author] feed).length ≤ cfg.backfillLimit) ∧
        (hasEntries reader g.home = true ∨
          NothingMissed cfg feed (insertEdge (reader, author) g.edges) reader author)

instance (cfg : HomeConfig) (feed : FeedTable) (g : HomeGraph) :
    (write : Option ((String × String) × Option ℤ)) → Decidable (FollowOk cfg feed g write)
  | none => inferInstanceAs (Decidable True)
  | some (_, none) => inferInstanceAs (Decidable (_ → _ ∧ (_ → _ → _)))
  | some (_, some _) => inferInstanceAs (Decidable (_ → _ → (_ ∨ _) ∧ (_ ∨ NothingMissed ..)))

/-- The log ids of the content are new; what is fanned out is shown in the top-level feeds, and
goes to readers who have references or have missed nothing. -/
def ContentOk (cfg : HomeConfig) (feed : FeedTable) (g : HomeGraph) (rows : List FeedItem) : Prop :=
  ∀ r ∈ rows, (0 < r.logId ∧ ∀ f ∈ feed.rows, f.logId ≠ r.logId) ∧
    (celebrity cfg g.edges r.authorDid = false → ∀ reader ∈ followers g.edges r.authorDid,
      r.visible = true ∧ (hasEntries reader g.home = true ∨
        ∀ a ∈ following g.edges reader, celebrity cfg g.edges a = false → itemsOf [a] feed = []))

instance (cfg : HomeConfig) (feed : FeedTable) (g : HomeGraph) (rows : List FeedItem) :
    Decidable (ContentOk cfg feed g rows) :=
  inferInstanceAs (Decidable (∀ r ∈ rows, _ ∧ (_ → ∀ reader ∈ followers g.edges r.authorDid, _)))

/-- The steps that keep the store complete; only the fold of a page can fail to. -/
def HomeOk (P : Platform) (cfg : HomeConfig) (s : HomeState) : HomeStep → Prop
  | .fold ops =>
    (logIds (ops.map (prepareOp P))).Nodup ∧
      Along (graphStep cfg s.projection.feedItems)
        (fun g e => FollowOk cfg s.projection.feedItems g (followWrite e))
        ⟨s.edges, s.home⟩ (ops.map (prepareOp P)) ∧
      ContentOk cfg s.projection.feedItems
        (exec (graphStep cfg s.projection.feedItems) ⟨s.edges, s.home⟩ (ops.map (prepareOp P)))
        ((ops.map (prepareOp P)).filterMap contentRow)
  | _ => True

instance (P : Platform) (cfg : HomeConfig) (s : HomeState) : (step : HomeStep) →
    Decidable (HomeOk P cfg s step)
  | .fold _ => inferInstanceAs (Decidable (_ ∧ Along _ _ _ _ ∧ ContentOk _ _ _ _))
  | .read .. | .authors .. | .expireItem _ | .expireAuthor _ | .sweep _ =>
    inferInstanceAs (Decidable True)

variable {cfg : HomeConfig} {feed : FeedTable}

/-! ### The first pass over a page -/

/-- The store fits the table and the follow graph. -/
structure GraphInv (cfg : HomeConfig) (feed : FeedTable) (g : HomeGraph) : Prop where
  named : ∀ e ∈ g.home.rows, ∃ f ∈ feed.rows, RefersTo e f ∧ (e.reader, f.authorDid) ∈ g.edges
  covered : ∀ reader, hasEntries reader g.home = true →
    ∀ f ∈ feed.rows, f.visible = true → (reader, f.authorDid) ∈ g.edges →
      celebrity cfg g.edges f.authorDid = false →
        Held HomeEntry.logId cfg.maxEntries (refs reader g.home) f.logId

variable {author reader : String} {f : FeedItem} {g : HomeGraph}

theorem mem_itemsOf_singleton :
    f ∈ itemsOf [author] feed ↔ f ∈ feed.rows ∧ f.authorDid = author ∧ f.visible = true := by
  rw [mem_itemsOf, List.mem_singleton]

variable {entries : List HomeEntry} {e : HomeEntry}

/-- The store after some references were added for readers, and the readers capped. -/
theorem held_added {t t' : HomeTable} {i : ℤ}
    (hrefs : refs reader t' = (refs reader (addMany entries t)).take cfg.maxEntries)
    (h : Held HomeEntry.logId cfg.maxEntries (refs reader t) i ∨
      ∃ e ∈ entries, e.reader = reader ∧ e.logId = i) :
    Held HomeEntry.logId cfg.maxEntries (refs reader t') i := by
  rw [hrefs]
  rcases h with hheld | ⟨e, he, hreader, rfl⟩
  · exact hheld.take (falling_refs _ _) (falling_refs _ _) fun x hx =>
      exists_refs_addMany (.inl hx)
  · obtain ⟨y, hy, hlog⟩ := exists_refs_addMany (t := t) (.inr ⟨he, hreader⟩)
    have hnew : Held HomeEntry.logId cfg.maxEntries (refs reader (addMany entries t)) e.logId :=
      .inl ⟨y, hy, hlog⟩
    exact hnew.take (falling_refs _ _) (falling_refs _ _) fun x hx => ⟨x, hx, rfl⟩

theorem GraphInv.removeEdge (h : GraphInv cfg feed g)
    (hrefs : ∀ r ∈ refs reader g.home, ∀ f ∈ feed.rows, f.opId = r.opId → f.authorDid ≠ author)
    (hceleb : celebrity cfg g.edges author = true →
      celebrity cfg (removeEdge (reader, author) g.edges) author = false →
        itemsOf [author] feed = []) :
    GraphInv cfg feed { g with edges := removeEdge (reader, author) g.edges } where
  named := by
    intro e he
    obtain ⟨f, hf, hrefers, hedge⟩ := h.named e he
    refine ⟨f, hf, hrefers, mem_removeEdge.2 ⟨hedge, fun heq => ?_⟩⟩
    obtain ⟨hreader, hauthor⟩ := Prod.mk.inj heq
    exact hrefs e (mem_refs.2 ⟨he, hreader⟩) f hf hrefers.opId hauthor
  covered := by
    intro u hu f hf hvisible hedge hnot
    obtain ⟨hedge, -⟩ := mem_removeEdge.1 hedge
    refine h.covered u hu f hf hvisible hedge ?_
    by_cases hauthor : f.authorDid = author
    · -- an author who is a celebrity no more has no items
      by_contra hwas
      rw [Bool.not_eq_false, hauthor] at hwas
      rw [hauthor] at hnot
      have hnil := hceleb hwas hnot
      have hmem := mem_itemsOf_singleton.2 ⟨hf, hauthor, hvisible⟩
      rw [hnil] at hmem
      exact absurd hmem List.not_mem_nil
    · rwa [celebrity_removeEdge hauthor] at hnot

/-- A new edge makes no author less of a celebrity. -/
theorem not_celebrity_of_insertEdge {edge : String × String} {a : String}
    (hnot : celebrity cfg (insertEdge edge g.edges) a = false) :
    celebrity cfg g.edges a = false := by
  by_contra hwas
  rw [Bool.not_eq_false] at hwas
  rw [celebrity_insertEdge hwas] at hnot
  cases hnot

/-- A new edge, and the store as it was. -/
theorem GraphInv.insertEdge_only (h : GraphInv cfg feed g)
    (hnew : ∀ u, hasEntries u g.home = true → ∀ f ∈ feed.rows, f.visible = true →
      (u, f.authorDid) = (reader, author) →
      celebrity cfg (insertEdge (reader, author) g.edges) f.authorDid = false →
      Held HomeEntry.logId cfg.maxEntries (refs u g.home) f.logId) :
    GraphInv cfg feed ⟨insertEdge (reader, author) g.edges, g.home⟩ where
  named := by
    intro e he
    obtain ⟨f, hf, hrefers, hedge⟩ := h.named e he
    exact ⟨f, hf, hrefers, mem_insertEdge.2 (.inl hedge)⟩
  covered := by
    intro u hu f hf hvisible hedge hnot
    rcases mem_insertEdge.1 hedge with hold | heq
    · exact h.covered u hu f hf hvisible hold (not_celebrity_of_insertEdge hnot)
    · exact hnew u hu f hf hvisible heq hnot

/-- References to items of an author for one reader. -/
def AuthorRefs (feed : FeedTable) (reader author : String) (entries : List HomeEntry) : Prop :=
  ∀ e ∈ entries, e.reader = reader ∧
    ∃ f ∈ itemsOf [author] feed, f.logId = e.logId ∧ f.opId = e.opId

/-- After a backfill each reference is still to an item of an author whom its reader follows. -/
theorem GraphInv.named_cap (h : GraphInv cfg feed g)
    (hentries : AuthorRefs feed reader author entries)
    (he : e ∈ (cap cfg.maxEntries (addMany entries g.home) reader).rows) :
    ∃ f ∈ feed.rows, RefersTo e f ∧
      (e.reader, f.authorDid) ∈ insertEdge (reader, author) g.edges := by
  have hmem : e ∈ refs e.reader (cap cfg.maxEntries (addMany entries g.home) reader) :=
    mem_refs.2 ⟨he, rfl⟩
  rw [refs_cap] at hmem
  have hadded : e ∈ refs e.reader (addMany entries g.home) := by
    split at hmem
    · exact List.mem_of_mem_take hmem
    · exact hmem
  rcases of_mem_refs_addMany hadded with hold | ⟨hnew, -⟩
  · obtain ⟨f, hf, hrefers, hedge⟩ := h.named e (mem_refs.1 hold).1
    exact ⟨f, hf, hrefers, mem_insertEdge.2 (.inl hedge)⟩
  · obtain ⟨hreader, f, hf, hlog, hop⟩ := hentries e hnew
    obtain ⟨hrow, hauthor, hvisible⟩ := mem_itemsOf_singleton.1 hf
    rw [FeedItem.visible_eq, Bool.and_eq_true] at hvisible
    refine ⟨f, hrow, ⟨hlog, hop, hvisible.2⟩, mem_insertEdge.2 (.inr ?_)⟩
    rw [hreader, hauthor]

/-- A backfill leaves the references of the other readers. -/
theorem refs_backfilled_of_ne (hentries : AuthorRefs feed reader author entries) {u : String}
    (hu : u ≠ reader) {n : ℕ} {t : HomeTable} :
    refs u (cap n (addMany entries t) reader) = refs u t := by
  rw [refs_cap, if_neg hu]
  exact refs_addMany_of_ne fun e he heq => hu (heq.symm.trans (hentries e he).1)

/-- What a new edge brings.  The items of the author were served before, or all of them are
backfilled. -/
theorem GraphInv.insertEdge (h : GraphInv cfg feed g)
    (hok : celebrity cfg (insertEdge (reader, author) g.edges) author = false →
      itemsOf [author] feed ≠ [] →
        ((reader, author) ∈ g.edges ∧ hasEntries reader g.home = true ∨
          (itemsOf [author] feed).length ≤ cfg.backfillLimit) ∧
        (hasEntries reader g.home = true ∨
          NothingMissed cfg feed (insertEdge (reader, author) g.edges) reader author)) :
    GraphInv cfg feed ⟨insertEdge (reader, author) g.edges,
      backfill cfg feed reader author (insertEdge (reader, author) g.edges) g.home⟩ := by
  unfold backfill
  split
  · next hceleb =>
    refine h.insertEdge_only fun u hu f hf hvisible heq hnot => ?_
    rw [(Prod.mk.inj heq).2, hceleb] at hnot
    cases hnot
  next hceleb =>
  rw [Bool.not_eq_true] at hceleb
  -- an item of the author is held already, or is among those that are copied
  have hserved : ∀ {f : FeedItem}, f ∈ itemsOf [author] feed → hasEntries reader g.home = true ∧
      Held HomeEntry.logId cfg.maxEntries (refs reader g.home) f.logId ∨
      f ∈ (itemsOf [author] feed).take cfg.backfillLimit := by
    intro f hf
    obtain ⟨hrow, hauthor, hvisible⟩ := mem_itemsOf_singleton.1 hf
    rcases (hok hceleb (List.ne_nil_of_mem hf)).1 with ⟨hold, hwarm⟩ | hle
    · exact .inl ⟨hwarm, h.covered reader hwarm f hrow hvisible (hauthor ▸ hold)
        (hauthor ▸ not_celebrity_of_insertEdge hceleb)⟩
    · rw [List.take_of_length_le hle]
      exact .inr hf
  split
  · next hnone =>
    refine h.insertEdge_only fun u hu f hf hvisible heq hnot => ?_
    obtain ⟨rfl, hauthor⟩ := Prod.mk.inj heq
    rcases hserved (mem_itemsOf_singleton.2 ⟨hf, hauthor, hvisible⟩) with ⟨-, hheld⟩ | htake
    · exact hheld
    · rw [List.map_eq_nil_iff.1 hnone] at htake
      exact absurd htake List.not_mem_nil
  next hnonempty =>
  obtain ⟨entries, hentries⟩ : ∃ entries, ((itemsOf [author] feed).take cfg.backfillLimit).map
      (fun f => HomeEntry.mk reader f.logId f.opId) = entries := ⟨_, rfl⟩
  rw [hentries] at hnonempty ⊢
  have hreaders : AuthorRefs feed reader author entries := by
    intro e he
    rw [← hentries] at he
    obtain ⟨f, hf, rfl⟩ := List.mem_map.1 he
    exact ⟨rfl, f, List.mem_of_mem_take hf, rfl, rfl⟩
  refine ⟨fun e he => h.named_cap hreaders he, fun u hu f hf hvisible hedge hnot => ?_⟩
  by_cases hreader : u = reader
  · subst hreader
    refine held_added ((refs_cap ..).trans (if_pos rfl)) ?_
    by_cases hauthor : f.authorDid = author
    · rcases hserved (mem_itemsOf_singleton.2 ⟨hf, hauthor, hvisible⟩) with ⟨-, hheld⟩ | htake
      · exact .inl hheld
      · refine .inr ⟨⟨u, f.logId, f.opId⟩, ?_, rfl, rfl⟩
        rw [← hentries]
        exact List.mem_map_of_mem htake
    · -- an item of another author, which was held before or does not exist
      have hold : (u, f.authorDid) ∈ g.edges := (mem_insertEdge.1 hedge).resolve_right
        fun heq => hauthor (Prod.mk.inj heq).2
      have hsome : itemsOf [author] feed ≠ [] := by
        intro hnil
        rw [hnil, List.take_nil, List.map_nil] at hentries
        exact hnonempty hentries.symm
      rcases (hok hceleb hsome).2 with hwarm | hmissed
      · exact .inl (h.covered u hwarm f hf hvisible hold (not_celebrity_of_insertEdge hnot))
      · have hnil := hmissed f.authorDid (mem_following.2 hedge) hauthor hnot
        have hmem := mem_itemsOf_singleton.2 ⟨hf, rfl, hvisible⟩
        rw [hnil] at hmem
        exact absurd hmem List.not_mem_nil
  · -- the other homes stay as they are
    have hrefs := refs_backfilled_of_ne hreaders hreader (n := cfg.maxEntries) (t := g.home)
    have hold : (u, f.authorDid) ∈ g.edges := (mem_insertEdge.1 hedge).resolve_right
      fun heq => hreader (Prod.mk.inj heq).1
    have hwarm : hasEntries u g.home = true := by
      rw [hasEntries_iff] at hu ⊢
      rwa [← hrefs]
    show Held _ _ (refs u (cap cfg.maxEntries (addMany entries g.home) reader)) _
    rw [hrefs]
    exact h.covered u hwarm f hf hvisible hold (not_celebrity_of_insertEdge hnot)

theorem GraphInv.step (h : GraphInv cfg feed g) {e : Prepared}
    (hok : FollowOk cfg feed g (followWrite e)) : GraphInv cfg feed (graphStep cfg feed g e) := by
  unfold graphStep
  cases hwrite : followWrite e with
  | none => exact h
  | some write =>
    obtain ⟨⟨reader, author⟩, value⟩ := write
    rw [hwrite] at hok
    cases value with
    | none =>
      dsimp only [FollowOk] at hok ⊢
      by_cases hedge : (reader, author) ∈ g.edges
      · exact h.removeEdge (hok hedge).1 (hok hedge).2
      · have hsame : FollowGraph.removeEdge (reader, author) g.edges = g.edges :=
          List.filter_eq_self.2 fun x hx => bne_iff_ne.2 fun heq => hedge (heq ▸ hx)
        rw [hsame]
        exact h
    | some logId => exact h.insertEdge hok

/-! ### The fold of a page -/

theorem topLevel_hide (pairs : List (String × String)) (f : FeedItem) :
    (hide pairs f).topLevel = f.topLevel := by
  unfold hide
  split <;> rfl

theorem authorDid_hide (pairs : List (String × String)) (f : FeedItem) :
    (hide pairs f).authorDid = f.authorDid := by
  unfold hide
  split <;> rfl

theorem RefersTo.hide (h : RefersTo e f) (pairs : List (String × String)) :
    RefersTo e (AppView.hide pairs f) where
  logId := (logId_hide pairs f).trans h.logId
  opId := (opId_hide pairs f).trans h.opId
  topLevel := (topLevel_hide pairs f).trans h.topLevel

theorem visible_of_visible_hide {pairs : List (String × String)} (h : (hide pairs f).visible = true)
    : f.visible = true := by
  rw [FeedItem.visible_eq, topLevel_hide, Bool.and_eq_true, Bool.not_eq_true'] at h
  rw [FeedItem.visible_eq, h.2, Bool.and_true, Bool.not_eq_true']
  by_contra hdeleted
  rw [Bool.not_eq_false] at hdeleted
  rw [(deleted_hide pairs f).2 (.inl hdeleted)] at h
  cases h.1

theorem mem_fanOutEntries {rows : List FeedItem} {g : FollowEdges} :
    e ∈ fanOutEntries cfg rows g ↔ ∃ r ∈ rows, r.deleted = false ∧
      celebrity cfg g r.authorDid = false ∧ (e.reader, r.authorDid) ∈ g ∧
        e = ⟨e.reader, r.logId, r.opId⟩ := by
  rw [fanOutEntries, List.mem_flatMap]
  constructor
  · rintro ⟨r, hr, he⟩
    obtain ⟨hr, hcase⟩ := List.mem_filter.1 hr
    rw [Bool.and_eq_true, Bool.not_eq_true', Bool.not_eq_true'] at hcase
    obtain ⟨reader, hreader, rfl⟩ := List.mem_map.1 he
    exact ⟨r, hr, hcase.1, hcase.2, mem_followers.1 hreader, rfl⟩
  · rintro ⟨r, hr, hdeleted, hceleb, hedge, he⟩
    refine ⟨r, List.mem_filter.2 ⟨hr, by rw [hdeleted, hceleb]; rfl⟩, ?_⟩
    exact List.mem_map.2 ⟨e.reader, mem_followers.2 hedge, he.symm⟩

/-- What the object cache holds after the rows of a page were put into it. -/
theorem cached_of_rows (rows : List FeedItem) (value : FeedItem → Option CachedItem)
    (cache : String → Option CachedItem) (opId : String) :
    (∃ r ∈ rows, r.opId = opId ∧
      rows.foldl (fun cache r => Function.update cache r.opId (value r)) cache opId = value r) ∨
    (∀ r ∈ rows, r.opId ≠ opId) ∧
      rows.foldl (fun cache r => Function.update cache r.opId (value r)) cache opId =
        cache opId := by
  induction rows generalizing cache with
  | nil => exact .inr ⟨fun r hr => absurd hr List.not_mem_nil, rfl⟩
  | cons r rows ih =>
    rw [List.foldl_cons]
    rcases ih (Function.update cache r.opId (value r)) with
      ⟨x, hx, hop, heq⟩ | ⟨hnot, heq⟩
    · exact .inl ⟨x, List.mem_cons_of_mem _ hx, hop, heq⟩
    · by_cases hop : r.opId = opId
      · refine .inl ⟨r, List.mem_cons_self, hop, heq.trans ?_⟩
        rw [← hop, Function.update_self]
      · refine .inr ⟨fun x hx => ?_, heq.trans (Function.update_of_ne (Ne.symm hop) _ _)⟩
        rcases List.mem_cons.1 hx with rfl | hx
        · exact hop
        · exact hnot x hx

variable {s : HomeState}

/-- What a page does to the table, when its log ids are new. -/
theorem mem_feed_of_fresh {page : List Prepared} {p p' : Projection} {n : ℕ}
    (hids : (logIds page).Nodup) (hfold : foldPrepared page p = some (n, p'))
    (hfresh : ∀ r ∈ page.filterMap contentRow, ∀ f ∈ p.feedItems.rows, f.logId ≠ r.logId)
    (x : FeedItem) : x ∈ p'.feedItems.rows ↔ x ∈ page.filterMap contentRow ∨
      ∃ f ∈ p.feedItems.rows, x = hide (deletionPairs page) f := by
  have hpage := foldPrepared_eq_some hids hfold
  rw [hpage.feed, List.mem_filterMap]
  refine or_congr_right (exists_congr fun f => and_congr_right fun hf => and_iff_right ?_)
  intro e he hcontent heq
  obtain ⟨r, hr⟩ := Option.isSome_iff_exists.1 (hpage.storable e he hcontent)
  have hrow := contentRow_eq_some.2 ⟨hcontent, hr⟩
  refine hfresh r (List.mem_filterMap.2 ⟨e, he, hrow⟩) f hf ?_
  rw [(row_eq_some hr).logId, heq]

/-- The fan-out of the new rows of a page. -/
theorem GraphInv.fanOut {feed' : FeedTable} {rows : List FeedItem} {pairs : List (String × String)}
    (h : GraphInv cfg feed g)
    (hfeed : ∀ x, x ∈ feed'.rows ↔ x ∈ rows ∨ ∃ f ∈ feed.rows, x = AppView.hide pairs f)
    (hcontent : ContentOk cfg feed g rows) :
    GraphInv cfg feed' ⟨g.edges,
      ((fanOutEntries cfg rows g.edges).map (·.reader)).eraseDups.foldl (cap cfg.maxEntries)
        (addMany (fanOutEntries cfg rows g.edges) g.home)⟩ := by
  have hentries := fun e : HomeEntry => @mem_fanOutEntries cfg e rows g.edges
  generalize fanOutEntries cfg rows g.edges = entries at hentries ⊢
  have hcaps := refs_caps cfg.maxEntries (addMany entries g.home)
    (entries.map (·.reader)).eraseDups
  generalize hhome : (entries.map (·.reader)).eraseDups.foldl (cap cfg.maxEntries)
    (addMany entries g.home) = home at hcaps
  have hreached : ∀ reader, reader ∈ (entries.map (·.reader)).eraseDups ↔
      ∃ e ∈ entries, e.reader = reader := fun reader => by
    rw [List.mem_eraseDups, List.mem_map]
  constructor
  · intro e he
    have hmem : e ∈ refs e.reader home := mem_refs.2 ⟨he, rfl⟩
    rw [hcaps] at hmem
    have hadded : e ∈ refs e.reader (addMany entries g.home) := by
      split at hmem
      · exact List.mem_of_mem_take hmem
      · exact hmem
    rcases of_mem_refs_addMany hadded with hold | ⟨hnew, -⟩
    · obtain ⟨f, hf, hrefers, hedge⟩ := h.named e (mem_refs.1 hold).1
      refine ⟨_, (hfeed _).2 (.inr ⟨f, hf, rfl⟩), hrefers.hide pairs, ?_⟩
      rwa [authorDid_hide]
    · obtain ⟨r, hr, hdeleted, hceleb, hedge, heq⟩ := (hentries e).1 hnew
      have hvisible := ((hcontent r hr).2 hceleb e.reader (mem_followers.2 hedge)).1
      rw [FeedItem.visible_eq, Bool.and_eq_true] at hvisible
      exact ⟨r, (hfeed r).2 (.inl hr),
        ⟨(congrArg HomeEntry.logId heq).symm, (congrArg HomeEntry.opId heq).symm, hvisible.2⟩,
        hedge⟩
  · intro reader hwarm f hf hvisible hedge hceleb
    -- a reader whom nothing was written for
    by_cases hreader : reader ∈ (entries.map (·.reader)).eraseDups
    swap
    · have hsame : refs reader home = refs reader g.home := by
        rw [hcaps, if_neg hreader]
        exact refs_addMany_of_ne fun e he heq => hreader ((hreached reader).2 ⟨e, he, heq⟩)
      have hold : hasEntries reader g.home = true := by
        rw [hasEntries_iff] at hwarm ⊢
        rwa [← hsame]
      show Held _ _ (refs reader home) _
      rw [hsame]
      rcases (hfeed f).1 hf with hnew | ⟨f, hrow, rfl⟩
      · refine absurd ((hreached reader).2 ⟨⟨reader, f.logId, f.opId⟩, ?_, rfl⟩) hreader
        rw [FeedItem.visible_eq, Bool.and_eq_true, Bool.not_eq_true'] at hvisible
        exact (hentries _).2 ⟨f, hnew, hvisible.1, hceleb, hedge, rfl⟩
      · rw [authorDid_hide] at hedge hceleb
        rw [logId_hide]
        exact h.covered reader hold f hrow (visible_of_visible_hide hvisible) hedge hceleb
    refine held_added ((hcaps reader).trans (if_pos hreader)) ?_
    rcases (hfeed f).1 hf with hnew | ⟨f, hrow, rfl⟩
    · rw [FeedItem.visible_eq, Bool.and_eq_true, Bool.not_eq_true'] at hvisible
      exact .inr ⟨⟨reader, f.logId, f.opId⟩,
        (hentries _).2 ⟨f, hnew, hvisible.1, hceleb, hedge, rfl⟩, rfl, rfl⟩
    · rw [authorDid_hide] at hedge hceleb
      rw [logId_hide]
      replace hvisible := visible_of_visible_hide hvisible
      obtain ⟨e, he, rfl⟩ := (hreached reader).1 hreader
      obtain ⟨r, hr, -, hceleb', hedge', -⟩ := (hentries e).1 he
      rcases ((hcontent r hr).2 hceleb' e.reader (mem_followers.2 hedge')).2 with hold | hmissed
      · exact .inl (h.covered e.reader hold f hrow hvisible hedge hceleb)
      · have hmem := mem_itemsOf_singleton.2 ⟨hrow, rfl, hvisible⟩
        rw [hmissed f.authorDid (mem_following.2 hedge) hceleb] at hmem
        exact absurd hmem List.not_mem_nil

/-- **The fold of a page keeps the store complete.** -/
theorem HomeInv.fold (h : HomeInv cfg s) {P : Platform} {ops : List Op} {s' : HomeState}
    (hok : HomeOk P cfg s (.fold ops)) (hfold : foldHome P cfg ops s = some s') :
    HomeInv cfg s' := by
  obtain ⟨hids, hfollows, hcontent⟩ := hok
  simp only [foldHome, Option.bind_eq_bind, Option.bind_eq_some_iff, Option.pure_def,
    Option.some.injEq, Prod.exists] at hfold
  obtain ⟨n, projection, hprojection, rfl⟩ := hfold
  generalize ops.map (prepareOp P) = page at hids hfollows hcontent hprojection ⊢
  -- first the follows of the page, then the items that it fans out
  have hgraph : GraphInv cfg s.projection.feedItems
      (exec (graphStep cfg s.projection.feedItems) ⟨s.edges, s.home⟩ page) :=
    hfollows.invariant (fun _ _ hinv hstep => GraphInv.step hinv hstep) ⟨h.named, h.covered⟩
  rw [uniqByLogId_eq (nodup_contentIds hids)]
  have hfeed := mem_feed_of_fresh hids hprojection fun r hr => (hcontent r hr).1.2
  have hshown : ∀ r ∈ page.filterMap contentRow, r.deleted = false := by
    intro r hr
    obtain ⟨e, -, he⟩ := List.mem_filterMap.1 hr
    exact deleted_of_contentRow he
  generalize hg : page.foldl (graphStep cfg s.projection.feedItems) ⟨s.edges, s.home⟩ = g
  replace hg : exec (graphStep cfg s.projection.feedItems) ⟨s.edges, s.home⟩ page = g := hg
  rw [hg] at hgraph hcontent
  generalize page.filterMap contentRow = rows at hcontent hfeed hshown ⊢
  generalize deletionPairs page = pairs at hfeed ⊢
  have hstored := hgraph.fanOut hfeed hcontent
  have hnew : ∀ {f : FeedItem} {r : FeedItem}, r ∈ rows → f ∈ projection.feedItems.rows →
      f.opId = r.opId → f = r := fun hr hf hop => eq_of_opId hf ((hfeed _).2 (.inl hr)) hop
  have hcached := cached_of_rows rows (fun r => some (if r.deleted then CachedItem.deleted
    else CachedItem.item (readMap projection.profiles r))) (markDeleted pairs s).itemCache
  refine ⟨fun x hx => ?_, hstored.named, hstored.covered, fun opId item hitem => ?_,
    fun opId hdeleted f hf hop => ?_⟩
  · rcases (hfeed x).1 hx with hr | ⟨f, hf, rfl⟩
    · exact (hcontent x hr).1.1
    · rw [logId_hide]
      exact h.pos f hf
  · -- a cached item is one that the page has written, or an older one that it has not hidden
    dsimp only [AppView.fanOut] at hitem
    rcases hcached opId with ⟨r, hr, rfl, heq⟩ | ⟨-, heq⟩
    · have hitem := heq.symm.trans hitem
      rw [hshown r hr, if_neg Bool.false_ne_true] at hitem
      obtain rfl := CachedItem.item.inj (Option.some.inj hitem)
      exact ⟨r, (hfeed r).2 (.inl hr), rfl, hshown r hr, rfl, rfl⟩
    · have hitem := heq.symm.trans hitem
      dsimp only [markDeleted] at hitem
      split at hitem
      · cases hitem
      next hkept =>
      obtain ⟨f, hf, rfl, hdeleted, hids⟩ := h.item opId item hitem
      have hnot : (f.entityId, f.authorDid) ∉ pairs := by
        intro hmem
        refine hkept (List.any_eq_true.2 ⟨f, hf, ?_⟩)
        rw [hdeleted, beq_self_eq_true, List.contains_iff_mem.2 hmem]
        rfl
      refine ⟨f, (hfeed f).2 (.inr ⟨f, hf, (hide_of_not_mem hnot).symm⟩), rfl, hdeleted, hids⟩
  · -- an item that is cached as deleted is deleted in the table
    dsimp only [AppView.fanOut] at hdeleted
    rcases hcached opId with ⟨r, hr, rfl, heq⟩ | ⟨hnot, heq⟩
    · have hdeleted := heq.symm.trans hdeleted
      rw [hshown r hr, if_neg Bool.false_ne_true] at hdeleted
      cases hdeleted
    · have hdeleted := heq.symm.trans hdeleted
      obtain ⟨f, hrow, rfl⟩ := ((hfeed f).1 hf).resolve_left fun hr => hnot f hr hop
      rw [opId_hide] at hop
      rw [deleted_hide]
      dsimp only [markDeleted] at hdeleted
      split at hdeleted
      · next hmarked =>
        obtain ⟨f', hf', hcase⟩ := List.any_eq_true.1 hmarked
        rw [Bool.and_eq_true, Bool.and_eq_true, List.contains_iff_mem, beq_iff_eq] at hcase
        rw [eq_of_opId hrow hf' (hop.trans hcase.1.1.symm)]
        exact .inr hcase.2
      · exact .inl (h.deleted opId hdeleted f hrow hop)

/-! ### The other steps -/

theorem HomeInv.read (h : HomeInv cfg s) (reader : String) (cursor : Option ℤ) (limit : ℤ) :
    HomeInv cfg (Home.home cfg reader cursor limit s).2 := by
  cases hwarm : hasEntries reader s.home with
  | true =>
    rw [home_eq hwarm]
    exact h.afterRead cursor _
  | false =>
    rw [home_of_cold hwarm]
    exact ⟨h.pos, h.named, h.covered, h.item, h.deleted⟩

theorem HomeInv.sweep (h : HomeInv cfg s) (readers : List String) :
    HomeInv cfg { s with home := sweepReaders cfg.readerCap readers s.home } := by
  unfold sweepReaders
  dsimp only
  split
  · exact h
  generalize (readers.insertionSort fun a b => newestOf s.home a ≤ newestOf s.home b).take
    ((s.home.rows.map (·.reader)).eraseDups.length - cfg.readerCap) = evicted
  have hrefs : ∀ reader, hasEntries reader (s.home.remove fun e => evicted.contains e.reader) =
      true → refs reader (s.home.remove fun e => evicted.contains e.reader) =
        refs reader s.home := by
    intro reader hwarm
    have hmem : ∀ e, e ∈ (s.home.remove fun e => evicted.contains e.reader).rows ↔
        e ∈ s.home.rows ∧ e.reader ∉ evicted := fun e => by
      rw [Table.remove, List.mem_filter, Bool.not_eq_true', ← Bool.not_eq_true,
        List.contains_iff_mem]
    obtain ⟨x, hx⟩ := hasEntries_iff.1 hwarm
    obtain ⟨hx, hreader⟩ := mem_refs.1 hx
    have hkept := ((hmem x).1 hx).2
    refine (falling_refs _ _).eq (falling_refs _ _) fun e => ?_
    rw [mem_refs, mem_refs, hmem]
    constructor
    · rintro ⟨⟨he, -⟩, heq⟩
      exact ⟨he, heq⟩
    · rintro ⟨he, heq⟩
      exact ⟨⟨he, by rwa [heq, ← hreader]⟩, heq⟩
  refine ⟨h.pos, fun e he => h.named e (List.mem_filter.1 he).1,
    fun reader hwarm f hf hvisible hedge hceleb => ?_, h.item, h.deleted⟩
  have hold : hasEntries reader s.home = true := by
    rw [hasEntries_iff] at hwarm ⊢
    rwa [← hrefs reader (hasEntries_iff.2 hwarm)]
  show Held _ _ (refs reader (s.home.remove fun e => evicted.contains e.reader)) _
  rw [hrefs reader hwarm]
  exact h.covered reader hold f hf hvisible hedge hceleb

/-- **The permitted steps keep the store and the caches in order.** -/
theorem homeInv_step {P : Platform} (h : HomeInv cfg s) {step : HomeStep}
    (hok : HomeOk P cfg s step) : HomeInv cfg (homeStep P cfg s step) := by
  cases step with
  | fold ops =>
    dsimp only [homeStep]
    cases hfold : foldHome P cfg ops s with
    | none => exact h
    | some s' => exact h.fold hok hfold
  | read reader cursor limit => exact h.read reader cursor limit
  | authors dids cursor limit => exact ⟨h.pos, h.named, h.covered, h.item, h.deleted⟩
  | expireItem opId =>
    have hcache : ∀ id c, Function.update s.itemCache opId none id = some c →
        s.itemCache id = some c := by
      intro id c hc
      by_cases hid : id = opId
      · rw [hid, Function.update_self] at hc
        cases hc
      · rwa [Function.update_of_ne hid] at hc
    exact ⟨h.pos, h.named, h.covered, fun id item hc => h.item id item (hcache id _ hc),
      fun id hc => h.deleted id (hcache id _ hc)⟩
  | expireAuthor did => exact ⟨h.pos, h.named, h.covered, h.item, h.deleted⟩
  | sweep readers => exact h.sweep readers

theorem homeInv_empty : HomeInv cfg .empty where
  pos := fun _ hf => absurd hf List.not_mem_nil
  named := fun _ he => absurd he List.not_mem_nil
  covered := fun _ _ _ hf => absurd hf List.not_mem_nil
  item := fun _ _ h => by cases h
  deleted := fun _ h => by cases h

/-- **Along such runs every readable timeline is complete.**  The invariant is that the store fits
the feed and the follow graph: each reference leads to an item of an author who is followed, and
each such item is held or older than all that a full list keeps. -/
theorem homeComplete_of_run {P : Platform} {run : List HomeStep}
    (h : Along (homeStep P cfg) (HomeOk P cfg) .empty run) :
    ∀ before after, run = before ++ after → ∀ reader limit,
      Readable cfg reader limit (exec (homeStep P cfg) .empty before) →
        HomeComplete cfg reader limit (exec (homeStep P cfg) .empty before) := by
  rintro before after rfl reader limit hread
  refine homeComplete_of_readable ?_ hread
  exact (along_append.1 h).1.invariant (fun _ _ hs hstep => homeInv_step hs hstep) homeInv_empty

/-! ### A deleted item -/

def toyHomeConfig : HomeConfig where
  celebrityThreshold := 10
  maxEntries := 800
  backfillLimit := 50
  authorCacheLimit := 100
  readerCap := 10000

def toyHomeOp (op : Op) : Op :=
  { op with signature := some (toySign 1 (signingPayload op)) }

/-- The reader follows the author. -/
def toyFollowOp : Op :=
  toyHomeOp { toyUnsigned 1 "f" "insert" with
    authorDid := "did:elix:b"
    entityType := "follow"
    entityId := "f"
    payload := .obj [("visibility", .str "federated"), ("targetDid", .str "did:elix:a")] }

def toyItem (logId : ℤ) (opId opType entityId : String) : Op :=
  toyHomeOp { toyUnsigned logId opId opType with
    entityId, receivedAt := some "2024-01-01T00:00:00Z" }

/-- Two items of an author whom the reader follows. -/
def toyHomeRun : List HomeStep :=
  [.fold [toyFollowOp], .fold [toyItem 2 "x" "insert" "m", toyItem 3 "y" "insert" "n"]]

theorem homeComplete_toy : HomeComplete toyHomeConfig "did:elix:b" 1
    (exec (homeStep Platform.toy toyHomeConfig) .empty toyHomeRun) := by
  have hfacts : Along (homeStep Platform.toy toyHomeConfig) (HomeOk Platform.toy toyHomeConfig)
        .empty toyHomeRun ∧
      (following (exec (homeStep Platform.toy toyHomeConfig) .empty toyHomeRun).edges
        "did:elix:b").all (fun did => !celebrity toyHomeConfig
          (exec (homeStep Platform.toy toyHomeConfig) .empty toyHomeRun).edges did &&
            ((exec (homeStep Platform.toy toyHomeConfig) .empty toyHomeRun).authorCache did).isNone)
        = true ∧
      hasEntries "did:elix:b" (exec (homeStep Platform.toy toyHomeConfig) .empty toyHomeRun).home
        = true ∧
      (exec (homeStep Platform.toy toyHomeConfig) .empty toyHomeRun).projection.feedItems.rows.all
        (fun f => !f.deleted) = true ∧
      (refs "did:elix:b" (exec (homeStep Platform.toy toyHomeConfig) .empty toyHomeRun).home).all
        (fun e => (exec (homeStep Platform.toy toyHomeConfig) .empty
          toyHomeRun).projection.feedItems.rows.any fun f => f.opId == e.opId) = true := by
    decide +kernel
  obtain ⟨hrun, hauthors, hwarm, hshown, hnamed⟩ := hfacts
  refine homeComplete_of_run hrun _ [] (List.append_nil _).symm _ _ ?_
  generalize exec (homeStep Platform.toy toyHomeConfig) .empty toyHomeRun = s at *
  rw [List.all_eq_true] at hauthors hshown hnamed
  have hplain : ∀ did ∈ following s.edges "did:elix:b",
      celebrity toyHomeConfig s.edges did = false ∧ s.authorCache did = none := by
    intro did hdid
    have hall := hauthors did hdid
    rwa [Bool.and_eq_true, Bool.not_eq_true', Option.isNone_iff_eq_none] at hall
  constructor
  · intro did hdid _ l hl
    rw [(hplain did hdid).2] at hl
    cases hl
  · intro hcold
    rw [hwarm] at hcold
    cases hcold
  · intro _ f hf hceleb
    rw [(hplain _ (mem_itemsOf.1 hf).2.1).1] at hceleb
    cases hceleb
  · intro e he hdead
    obtain ⟨f, hf, hop⟩ := List.any_eq_true.1 (hnamed e he)
    have hlive := hshown f hf
    rw [hdead f hf (beq_iff_eq.1 hop)] at hlive
    cases hlive

/-- The newer item is deleted: the first page is empty, and the reader stops. -/
theorem home_not_complete : ¬ HomeComplete toyHomeConfig "did:elix:b" 1
    (exec (homeStep Platform.toy toyHomeConfig) .empty
      (toyHomeRun ++ [.fold [toyItem 4 "z" "delete" "n"]])) := by
  rintro ⟨fuel, items, hfollow, hids⟩
  have hfacts : (homeItems toyHomeConfig "did:elix:b"
        (exec (homeStep Platform.toy toyHomeConfig) .empty
          (toyHomeRun ++ [.fold [toyItem 4 "z" "delete" "n"]]))).length = 1 ∧
      (Home.home toyHomeConfig "did:elix:b" none 1
        (exec (homeStep Platform.toy toyHomeConfig) .empty
          (toyHomeRun ++ [.fold [toyItem 4 "z" "delete" "n"]]))).1.hasMore = false ∧
      (Home.home toyHomeConfig "did:elix:b" none 1
        (exec (homeStep Platform.toy toyHomeConfig) .empty
          (toyHomeRun ++ [.fold [toyItem 4 "z" "delete" "n"]]))).1.items.length = 0 := by
    decide +kernel
  generalize exec (homeStep Platform.toy toyHomeConfig) .empty
    (toyHomeRun ++ [.fold [toyItem 4 "z" "delete" "n"]]) = s at *
  obtain ⟨hone, hmore, hnone⟩ := hfacts
  cases fuel with
  | zero => cases hfollow
  | succ fuel =>
    rw [Home.follow] at hfollow
    dsimp only at hfollow
    rw [hmore, if_neg Bool.false_ne_true] at hfollow
    have hlength := congrArg List.length hids
    rw [← Option.some.inj hfollow, List.length_map, List.length_map, hnone, hone] at hlength
    cases hlength

end AppView

end Ansible
