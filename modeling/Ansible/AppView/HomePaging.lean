import Ansible.AppView.HomeTimeline

/-!
# Paging through a home timeline

A page of the home timeline looks at as many references as the page is long.  Those of deleted
items give nothing, so the page comes out short and the reader stops, or the celebrities fill it
up and the cursor passes over what is behind them.

## Main definitions

* `homeItems` — what a reader should meet: the visible items of the authors that the reader
  follows, as far as the store keeps them.

## Main results

* `home_items` — **a page is the start of what is left.**
-/

namespace Ansible

instance {α : Type*} (key : α → ℤ) (max : ℕ) (l : List α) (i : ℤ) :
    Decidable (Behind key max l i) := inferInstanceAs (Decidable (_ ∧ _))

namespace AppView

open FollowGraph HomeTimeline

/-! ### What a reader should meet -/

/-! An item is known by its log id and its op id. -/

def FeedItem.ids (f : FeedItem) : ℤ × String := (f.logId, f.opId)

def TimelineItem.ids (item : TimelineItem) : ℤ × String := (item.logId, item.opId)

def HomeEntry.ids (e : HomeEntry) : ℤ × String := (e.logId, e.opId)

/-- An item that the top-level feeds show unless it is deleted. -/
def FeedItem.topLevel (f : FeedItem) : Bool :=
  f.sigVerified && f.entityType != "comment" && f.visibility.all (relayable.contains ·)

theorem FeedItem.visible_eq (f : FeedItem) : f.visible = (!f.deleted && f.topLevel) := by
  rw [visible, topLevel, Bool.and_assoc, Bool.and_assoc, Bool.and_assoc]

/-- The item is on the list of an author whom the reader follows and who is pulled on read. -/
def pulled (cfg : HomeConfig) (reader : String) (s : HomeState) (f : FeedItem) : Bool :=
  celebrity cfg s.edges f.authorDid &&
    Timeline.kept cfg.authorCacheLimit
      (itemsOf (following s.edges reader) s.projection.feedItems) f

/-- The item is not older than all references of a full store, or it is pulled on read. -/
def retained (cfg : HomeConfig) (reader : String) (s : HomeState) (f : FeedItem) : Bool :=
  !decide (Behind HomeEntry.logId cfg.maxEntries (refs reader s.home) f.logId) ||
    pulled cfg reader s f

def homeItems (cfg : HomeConfig) (reader : String) (s : HomeState) : List FeedItem :=
  if hasEntries reader s.home then
    (itemsOf (following s.edges reader) s.projection.feedItems).filter (retained cfg reader s)
  else itemsOf (following s.edges reader) s.projection.feedItems

/-- The reader meets the items of the timeline, each once and newest first. -/
def HomeComplete (cfg : HomeConfig) (reader : String) (limit : ℤ) (s : HomeState) : Prop :=
  ∃ fuel items, Home.follow cfg reader limit fuel none s = some items ∧
    items.map TimelineItem.ids = (homeItems cfg reader s).map FeedItem.ids

/-! ### The condition -/

/-- The reference is one to the item. -/
structure RefersTo (e : HomeEntry) (f : FeedItem) : Prop where
  logId : f.logId = e.logId
  opId : f.opId = e.opId
  topLevel : f.topLevel = true

/-- The store and the object cache fit the table and the follow graph. -/
structure HomeInv (cfg : HomeConfig) (s : HomeState) : Prop where
  pos : ∀ f ∈ s.projection.feedItems.rows, 0 < f.logId
  named : ∀ e ∈ s.home.rows, ∃ f ∈ s.projection.feedItems.rows, RefersTo e f ∧
    (e.reader, f.authorDid) ∈ s.edges
  covered : ∀ reader, hasEntries reader s.home = true →
    ∀ f ∈ s.projection.feedItems.rows, f.visible = true → (reader, f.authorDid) ∈ s.edges →
      celebrity cfg s.edges f.authorDid = false →
        Held HomeEntry.logId cfg.maxEntries (refs reader s.home) f.logId
  item : ∀ opId item, s.itemCache opId = some (.item item) →
    ∃ f ∈ s.projection.feedItems.rows, f.opId = opId ∧ f.deleted = false ∧
      item.opId = f.opId ∧ item.logId = f.logId
  deleted : ∀ opId, s.itemCache opId = some .deleted →
    ∀ f ∈ s.projection.feedItems.rows, f.opId = opId → f.deleted = true

/-- The cached list of an author is what the query finds. -/
def ListCurrent (cfg : HomeConfig) (s : HomeState) (did : String) : Prop :=
  ∀ l, s.authorCache did = some l → l = Timeline.recent cfg.authorCacheLimit s.projection did

/-- The item of the reference is deleted. -/
def Dead (s : HomeState) (e : HomeEntry) : Prop :=
  ∀ f ∈ s.projection.feedItems.rows, f.opId = e.opId → f.deleted = true

/-- No deleted reference is above one that gives an item; the lists of the authors that are pulled
are current, and hold what the store does not. -/
structure Readable (cfg : HomeConfig) (reader : String) (limit : ℤ) (s : HomeState) : Prop where
  current : ∀ did ∈ following s.edges reader,
    celebrity cfg s.edges did = true ∨ hasEntries reader s.home = false → ListCurrent cfg s did
  spread : hasEntries reader s.home = false → Timeline.Spread cfg.authorCacheLimit
    (Timeline.clampLimit limit) (itemsOf (following s.edges reader) s.projection.feedItems)
  celebrities : hasEntries reader s.home = true →
    ∀ f ∈ itemsOf (following s.edges reader) s.projection.feedItems,
      celebrity cfg s.edges f.authorDid = true → pulled cfg reader s f = true ∨
        Held HomeEntry.logId cfg.maxEntries (refs reader s.home) f.logId
  live : ∀ e ∈ refs reader s.home, Dead s e → ∀ e' ∈ refs reader s.home, e'.logId < e.logId →
    ∀ f ∈ s.projection.feedItems.rows, f.opId = e'.opId → f.deleted = true ∨
      pulled cfg reader s f = true

variable {cfg : HomeConfig} {reader : String} {limit : ℤ} {s : HomeState}

/-! ### References and their items -/

theorem HomeInv.exists_item (h : HomeInv cfg s) {e : HomeEntry} (he : e ∈ refs reader s.home) :
    ∃ f ∈ s.projection.feedItems.rows, RefersTo e f ∧ (reader, f.authorDid) ∈ s.edges := by
  obtain ⟨hmem, rfl⟩ := mem_refs.1 he
  exact h.named e hmem

variable {f : FeedItem} {cursor : Option ℤ}

theorem eq_of_opId {t : FeedTable} {f' : FeedItem} (hf : f ∈ t.rows) (hf' : f' ∈ t.rows)
    (h : f.opId = f'.opId) : f = f' := t.valid.op_id.eq hf hf' rfl rfl h

theorem item_eq_of_logId {t : FeedTable} {f' : FeedItem} (hf : f ∈ t.rows) (hf' : f' ∈ t.rows)
    (h : f.logId = f'.logId) : f = f' := t.valid.log_id.eq hf hf' rfl rfl h

/-- The items that references give. -/
theorem mem_hydrate (h : HomeInv cfg s) {entries : List HomeEntry}
    (hentries : ∀ e ∈ entries, e ∈ refs reader s.home) (p : ℤ × String) :
    p ∈ (Home.hydrate entries s).1.map TimelineItem.ids ↔
      ∃ e ∈ entries, ¬ Dead s e ∧ p = e.ids := by
  rw [Home.hydrate]
  dsimp only
  rw [List.map_append, List.mem_append, List.mem_map, List.mem_map]
  constructor
  · rintro (⟨item, hitem, rfl⟩ | ⟨item, hitem, rfl⟩)
    · obtain ⟨e, he, hcache⟩ := List.mem_filterMap.1 (List.mem_reverse.1 hitem)
      split at hcache
      swap
      · cases hcache
      next it hit =>
      cases hcache
      obtain ⟨f, hf, hop, hdeleted, hitop, hitlog⟩ := h.item _ _ hit
      obtain ⟨f', hf', hrefers, -⟩ := h.exists_item (hentries e he)
      obtain rfl := eq_of_opId hf hf' (hop.trans hrefers.opId.symm)
      refine ⟨e, he, fun hdead => ?_, ?_⟩
      · rw [hdead f hf hop] at hdeleted
        cases hdeleted
      · rw [TimelineItem.ids, hitlog, hitop, hop, hrefers.logId]
        rfl
    · obtain ⟨f, hf, rfl⟩ := List.mem_map.1 hitem
      obtain ⟨hrow, hf⟩ := List.mem_filter.1 hf
      rw [Bool.and_eq_true, List.contains_iff_mem] at hf
      obtain ⟨e, he, hop⟩ := List.mem_map.1 hf.1
      obtain ⟨he, -⟩ := List.mem_filter.1 he
      obtain ⟨f', hf', hrefers, -⟩ := h.exists_item (hentries e he)
      obtain rfl := eq_of_opId hrow hf' (hop.symm.trans hrefers.opId.symm)
      refine ⟨e, he, fun hdead => ?_, ?_⟩
      · have hshown := hf.2
        rw [Home.hydratable, hdead f hrow hop.symm] at hshown
        cases hshown
      · rw [HomeEntry.ids, ← hrefers.logId, ← hrefers.opId]
        rfl
  · rintro ⟨e, he, hlive, rfl⟩
    obtain ⟨f, hf, hrefers, -⟩ := h.exists_item (hentries e he)
    have hshown : f.deleted = false := by
      by_contra hdeleted
      rw [Bool.not_eq_false] at hdeleted
      refine hlive fun f' hf' hop => ?_
      rw [eq_of_opId hf' hf (hop.trans hrefers.opId.symm)]
      exact hdeleted
    -- the cache agrees with the table, which is read for what is not cached
    cases hcache : s.itemCache e.opId with
    | none =>
      refine .inr ⟨_, List.mem_map.2 ⟨f, List.mem_filter.2 ⟨hf, ?_⟩, rfl⟩, ?_⟩
      · rw [Bool.and_eq_true, List.contains_iff_mem]
        constructor
        · exact List.mem_map.2 ⟨e, List.mem_filter.2 ⟨he, by rw [hcache]; rfl⟩, hrefers.opId.symm⟩
        · have htop := hrefers.topLevel
          rw [FeedItem.topLevel, Bool.and_eq_true, Bool.and_eq_true] at htop
          rw [Home.hydratable, hshown, htop.1.1, htop.2]
          rfl
      · rw [HomeEntry.ids, ← hrefers.logId, ← hrefers.opId]
        rfl
    | some cached =>
      cases cached with
      | deleted => exact absurd (h.deleted _ hcache f hf hrefers.opId) (by simp [hshown])
      | item item =>
        obtain ⟨f', hf', hop, -, hitop, hitlog⟩ := h.item _ _ hcache
        obtain rfl := eq_of_opId hf' hf (hop.trans hrefers.opId.symm)
        refine .inl ⟨item, List.mem_reverse.2 (List.mem_filterMap.2 ⟨e, he, ?_⟩), ?_⟩
        · rw [hcache]
        · rw [TimelineItem.ids, hitlog, hitop, hrefers.logId, hrefers.opId]
          rfl

theorem HomeInv.hydrate (h : HomeInv cfg s) (entries : List HomeEntry) :
    HomeInv cfg (Home.hydrate entries s).2 where
  pos := h.pos
  named := h.named
  covered := h.covered
  item := by
    intro opId item hitem
    rw [Home.hydrate] at hitem
    dsimp only at hitem
    split at hitem
    · next f hfound =>
      obtain rfl := CachedItem.item.inj (Option.some.inj hitem)
      have hop := List.find?_some hfound
      have hmem := List.mem_filter.1 (List.mem_of_find?_eq_some hfound)
      have hshown := hmem.2
      rw [Home.hydratable, Bool.and_eq_true, Bool.and_eq_true, Bool.and_eq_true,
        Bool.not_eq_true'] at hshown
      exact ⟨f, hmem.1, beq_iff_eq.1 hop, hshown.2.1.1, rfl, rfl⟩
    · exact h.item opId item hitem
  deleted := by
    intro opId hdeleted
    rw [Home.hydrate] at hdeleted
    dsimp only at hdeleted
    split at hdeleted
    · cases Option.some.inj hdeleted
    · exact h.deleted opId hdeleted

/-! ### The lists of the celebrities -/

/-- What a reader is shown of the celebrities. -/
theorem mem_celebItems (h : ∀ did ∈ following s.edges reader,
      celebrity cfg s.edges did = true → ListCurrent cfg s did) (x : TimelineItem) :
    x ∈ (Home.celebrities cfg reader s).flatMap (Home.authorRecent cfg s) ↔
      ∃ f ∈ itemsOf (following s.edges reader) s.projection.feedItems,
        pulled cfg reader s f = true ∧ toMap s.projection.profiles f = x := by
  have hlist : ∀ did ∈ Home.celebrities cfg reader s, Home.authorRecent cfg s did =
      Timeline.recent cfg.authorCacheLimit s.projection did := by
    intro did hdid
    obtain ⟨hmem, hceleb⟩ := List.mem_filter.1 hdid
    rw [Home.authorRecent]
    cases hcache : s.authorCache did with
    | none => rfl
    | some l => exact h did hmem hceleb l hcache
  rw [List.mem_flatMap]
  constructor
  · rintro ⟨did, hdid, hx⟩
    rw [hlist did hdid] at hx
    obtain ⟨hmem, hceleb⟩ := List.mem_filter.1 hdid
    obtain ⟨f, hf, rfl, rfl⟩ := (Timeline.mem_recent hmem).1 hx
    obtain ⟨hf, hkept⟩ := List.mem_filter.1 hf
    exact ⟨f, hf, by rw [pulled, hceleb, hkept]; rfl, rfl⟩
  · rintro ⟨f, hf, hpulled, rfl⟩
    rw [pulled, Bool.and_eq_true] at hpulled
    have hmem := (mem_itemsOf.1 hf).2.1
    have hceleb : f.authorDid ∈ Home.celebrities cfg reader s :=
      List.mem_filter.2 ⟨hmem, hpulled.1⟩
    refine ⟨f.authorDid, hceleb, ?_⟩
    rw [hlist _ hceleb, Timeline.mem_recent hmem]
    exact ⟨f, List.mem_filter.2 ⟨hf, hpulled.2⟩, rfl, rfl⟩

/-! ### What a page can be made of -/

theorem falling_homeItems (cfg : HomeConfig) (reader : String) (s : HomeState) :
    Falling FeedItem.logId (homeItems cfg reader s) := by
  unfold homeItems
  split
  · exact (falling_itemsOf _ _).filter _
  · exact falling_itemsOf _ _

theorem mem_rows_of_mem_homeItems (hf : f ∈ homeItems cfg reader s) :
    f ∈ s.projection.feedItems.rows := by
  unfold homeItems at hf
  split at hf
  · exact (mem_itemsOf.1 (List.mem_filter.1 hf).1).1
  · exact (mem_itemsOf.1 hf).1

/-- The items of a timeline are those that live references give, and those of the celebrities. -/
theorem mem_homeItems (h : HomeInv cfg s) (hread : Readable cfg reader limit s)
    (hwarm : hasEntries reader s.home = true) (f : FeedItem) :
    f ∈ homeItems cfg reader s ↔
      (f ∈ itemsOf (following s.edges reader) s.projection.feedItems ∧
        pulled cfg reader s f = true) ∨
      (f ∈ s.projection.feedItems.rows ∧ f.deleted = false ∧
        ∃ e ∈ refs reader s.home, RefersTo e f) := by
  rw [homeItems, if_pos hwarm, List.mem_filter]
  constructor
  · rintro ⟨hf, hretained⟩
    by_cases hpulled : pulled cfg reader s f = true
    · exact .inl ⟨hf, hpulled⟩
    obtain ⟨hrow, hfollowed, hvisible⟩ := mem_itemsOf.1 hf
    have hheld : Held HomeEntry.logId cfg.maxEntries (refs reader s.home) f.logId := by
      cases hceleb : celebrity cfg s.edges f.authorDid with
      | true => exact (hread.celebrities hwarm f hf hceleb).resolve_left hpulled
      | false => exact h.covered reader hwarm f hrow hvisible (mem_following.1 hfollowed) hceleb
    rw [retained, Bool.or_eq_true, Bool.not_eq_true', decide_eq_false_iff_not] at hretained
    obtain ⟨e, he, hlog⟩ := hheld.resolve_right (hretained.resolve_right hpulled)
    obtain ⟨f', hf', hrefers, -⟩ := h.exists_item he
    obtain rfl := item_eq_of_logId hrow hf' (hlog.symm.trans hrefers.logId.symm)
    rw [FeedItem.visible_eq, Bool.and_eq_true, Bool.not_eq_true'] at hvisible
    exact .inr ⟨hrow, hvisible.1, e, he, hrefers⟩
  · rintro (⟨hf, hpulled⟩ | ⟨hrow, hshown, e, he, hrefers⟩)
    · exact ⟨hf, by rw [retained, hpulled, Bool.or_true]⟩
    · obtain ⟨f', hf', hrefers', hedge⟩ := h.exists_item he
      obtain rfl := item_eq_of_logId hrow hf' (hrefers.logId.trans hrefers'.logId.symm)
      refine ⟨mem_itemsOf.2 ⟨hrow, mem_following.2 hedge, ?_⟩, ?_⟩
      · rw [FeedItem.visible_eq, hshown, hrefers.topLevel]
        rfl
      · rw [retained, Bool.or_eq_true, Bool.not_eq_true', decide_eq_false_iff_not]
        refine .inl fun hbehind => ?_
        have hlt := hbehind.2 e he
        rw [hrefers.logId] at hlt
        exact lt_irrefl _ hlt

/-! ### A page -/

/-- The items of a page, before the newest of them are taken. -/
def pageItems (cfg : HomeConfig) (reader : String) (cursor : Option ℤ) (n : ℕ) (s : HomeState) :
    List TimelineItem :=
  (Home.hydrate (range reader cursor n s.home) s).1 ++
    ((Home.celebrities cfg reader s).flatMap (Home.authorRecent cfg s)).filter fun item =>
      cursor.all fun c => decide (c ≤ 0) || decide (item.logId < c)

/-- A page is made of items of the timeline. -/
theorem mem_pageItems (h : HomeInv cfg s) (hread : Readable cfg reader limit s)
    (hcursor : ∀ c ∈ cursor, 0 < c) (n : ℕ) (p : ℤ × String) :
    p ∈ (pageItems cfg reader cursor n s).map TimelineItem.ids ↔
      (∃ e ∈ range reader cursor n s.home, ¬ Dead s e ∧ p = e.ids) ∨
      ∃ f ∈ itemsOf (following s.edges reader) s.projection.feedItems,
        pulled cfg reader s f = true ∧ (∀ c ∈ cursor, f.logId < c) ∧ p = f.ids := by
  have hentries : ∀ e ∈ range reader cursor n s.home, e ∈ refs reader s.home := fun e he =>
    (mem_below.1 (List.mem_of_mem_take he)).1
  have hunder : ∀ item : TimelineItem, (cursor.all fun c =>
      decide (c ≤ 0) || decide (item.logId < c)) = true ↔ ∀ c ∈ cursor, item.logId < c := by
    intro item
    cases cursor with
    | none => simp
    | some c =>
      have hc := hcursor c rfl
      simp [hc.not_ge]
  rw [pageItems, List.map_append, List.mem_append, mem_hydrate h hentries]
  refine or_congr_right ?_
  rw [List.mem_map]
  constructor
  · rintro ⟨item, hitem, rfl⟩
    obtain ⟨hitem, hbelow⟩ := List.mem_filter.1 hitem
    obtain ⟨f, hf, hpulled, rfl⟩ := (mem_celebItems
      (fun did hdid hceleb => hread.current did hdid (.inl hceleb)) item).1 hitem
    exact ⟨f, hf, hpulled, (hunder _).1 hbelow, rfl⟩
  · rintro ⟨f, hf, hpulled, hbelow, rfl⟩
    refine ⟨toMap s.projection.profiles f, List.mem_filter.2 ⟨?_, (hunder _).2 hbelow⟩, rfl⟩
    exact (mem_celebItems (fun did hdid hceleb => hread.current did hdid (.inl hceleb)) _).2
      ⟨f, hf, hpulled, rfl⟩

/-- The items of a page are items of the timeline under the cursor. -/
theorem exists_homeItem (h : HomeInv cfg s) (hread : Readable cfg reader limit s)
    (hwarm : hasEntries reader s.home = true) (hcursor : ∀ c ∈ cursor, 0 < c) (n : ℕ)
    {p : ℤ × String} (hp : p ∈ (pageItems cfg reader cursor n s).map TimelineItem.ids) :
    ∃ f ∈ below FeedItem.logId cursor (homeItems cfg reader s), p = f.ids := by
  rcases (mem_pageItems h hread hcursor n p).1 hp with
    ⟨e, he, hlive, rfl⟩ | ⟨f, hf, hpulled, hbelow, rfl⟩
  · obtain ⟨hmem, hbelow⟩ := mem_below.1 (List.mem_of_mem_take he)
    obtain ⟨f, hrow, hrefers, -⟩ := h.exists_item hmem
    have hshown : f.deleted = false := by
      by_contra hdeleted
      rw [Bool.not_eq_false] at hdeleted
      refine hlive fun f' hf' hop => ?_
      rw [eq_of_opId hf' hrow (hop.trans hrefers.opId.symm)]
      exact hdeleted
    refine ⟨f, mem_below.2 ⟨?_, fun c hc => ?_⟩, ?_⟩
    · exact (mem_homeItems h hread hwarm f).2 (.inr ⟨hrow, hshown, e, hmem, hrefers⟩)
    · rw [hrefers.logId]
      exact hbelow c hc
    · rw [HomeEntry.ids, FeedItem.ids, hrefers.logId, hrefers.opId]
  · exact ⟨f, mem_below.2 ⟨(mem_homeItems h hread hwarm f).2 (.inl ⟨hf, hpulled⟩), hbelow⟩, rfl⟩

/-- What is first under the cursor is on the page. -/
theorem mem_page_of_take (h : HomeInv cfg s) (hread : Readable cfg reader limit s)
    (hwarm : hasEntries reader s.home = true) (hcursor : ∀ c ∈ cursor, 0 < c) {n : ℕ}
    (hf : f ∈ (below FeedItem.logId cursor (homeItems cfg reader s)).take n) :
    f.ids ∈ (pageItems cfg reader cursor n s).map TimelineItem.ids := by
  rw [mem_pageItems h hread hcursor]
  obtain ⟨hmem, hbelow⟩ := mem_below.1 (List.mem_of_mem_take hf)
  rcases (mem_homeItems h hread hwarm f).1 hmem with
    ⟨hitem, hpulled⟩ | ⟨hrow, hshown, e, he, hrefers⟩
  · exact .inr ⟨f, hitem, hpulled, hbelow, rfl⟩
  have hids : f.ids = e.ids := by
    rw [HomeEntry.ids, FeedItem.ids, hrefers.logId, hrefers.opId]
  have hlive : ¬ Dead s e := fun hdead => by
    rw [hdead f hrow hrefers.opId] at hshown
    cases hshown
  by_cases hentry : e ∈ range reader cursor n s.home
  · exact .inl ⟨e, hentry, hlive, hids⟩
  -- the page looks at other references, all of them newer
  have hunder : e ∈ below HomeEntry.logId cursor (refs reader s.home) :=
    mem_below.2 ⟨he, fun c hc => hrefers.logId ▸ hbelow c hc⟩
  have hfalling := (falling_refs reader s.home).below cursor
  have hdrop : e ∈ (below HomeEntry.logId cursor (refs reader s.home)).drop n := by
    rw [← List.take_append_drop n (below HomeEntry.logId cursor (refs reader s.home))] at hunder
    exact (List.mem_append.1 hunder).resolve_left hentry
  have hnewer : ∀ e' ∈ range reader cursor n s.home, e.logId < e'.logId := by
    intro e' he'
    rw [← List.take_append_drop n (below HomeEntry.logId cursor (refs reader s.home))] at hfalling
    exact (List.pairwise_append.1 hfalling).2.2 e' he' e hdrop
  have hlength : (range reader cursor n s.home).length = n := by
    rw [range, List.length_take, Nat.min_eq_left]
    by_contra hlt
    rw [List.drop_eq_nil_of_le (not_le.1 hlt).le] at hdrop
    exact absurd hdrop List.not_mem_nil
  by_cases hdead : ∃ e' ∈ range reader cursor n s.home, Dead s e'
  · obtain ⟨e', he', hdead⟩ := hdead
    have hmem' := (mem_below.1 (List.mem_of_mem_take he')).1
    rcases hread.live e' hmem' hdead e he (hnewer e' he') f hrow hrefers.opId with hdel | hpulled
    · rw [hdel] at hshown
      cases hshown
    · refine .inr ⟨f, ?_, hpulled, hbelow, rfl⟩
      have hin := hmem
      rw [homeItems, if_pos hwarm] at hin
      exact (List.mem_filter.1 hin).1
  · -- they all give items, too many for `f` to be among the first
    exfalso
    rw [((falling_homeItems cfg reader s).below cursor).take_eq_filter] at hf
    have hrank := of_decide_eq_true (List.mem_filter.1 hf).2
    have hsub : (range reader cursor n s.home).map HomeEntry.logId ⊆
        ((below FeedItem.logId cursor (homeItems cfg reader s)).filter fun y =>
          decide (f.logId < y.logId)).map FeedItem.logId := by
      intro i hi
      obtain ⟨e', he', rfl⟩ := List.mem_map.1 hi
      have hp := (mem_pageItems h hread hcursor n e'.ids).2
        (.inl ⟨e', he', fun hd => hdead ⟨e', he', hd⟩, rfl⟩)
      obtain ⟨y, hy, hids'⟩ := exists_homeItem h hread hwarm hcursor n hp
      have hlog : e'.logId = y.logId := congrArg Prod.fst hids'
      refine List.mem_map.2 ⟨y, List.mem_filter.2 ⟨hy, decide_eq_true ?_⟩, hlog.symm⟩
      rw [← hlog, hrefers.logId]
      exact hnewer e' he'
    have hcount := (List.subperm_of_subset
      ((hfalling.sublist (List.take_sublist n _)).nodup_keys) hsub).length_le
    rw [List.length_map, List.length_map, ← List.countP_eq_length_filter] at hcount
    unfold rank at hrank
    have hle : n ≤ _ := hlength ▸ hcount
    exact absurd hrank (not_lt.2 hle)

/-- The page that a reader with references gets. -/
def merged (cfg : HomeConfig) (reader : String) (cursor : Option ℤ) (n : ℕ) (s : HomeState) :
    List TimelineItem :=
  (newest TimelineItem.logId
    ((pageItems cfg reader cursor n s).eraseDupsBy fun a b => a.opId == b.opId)).take n

/-- The state that it leaves. -/
def afterRead (cfg : HomeConfig) (reader : String) (cursor : Option ℤ) (n : ℕ) (s : HomeState) :
    HomeState :=
  { (Home.hydrate (range reader cursor n s.home) s).2 with
    authorCache := fun did =>
      if (Home.celebrities cfg reader s).contains did then some (Home.authorRecent cfg s did)
      else s.authorCache did }

theorem home_eq (hwarm : hasEntries reader s.home = true) (cursor : Option ℤ) (limit : ℤ) :
    Home.home cfg reader cursor limit s =
      (⟨merged cfg reader cursor (Timeline.clampLimit limit) s,
        (merged cfg reader cursor (Timeline.clampLimit limit) s).getLast?.map (·.logId),
        decide (Timeline.clampLimit limit ≤
          (merged cfg reader cursor (Timeline.clampLimit limit) s).length)⟩,
        afterRead cfg reader cursor (Timeline.clampLimit limit) s) := by
  rw [Home.home]
  dsimp only
  rw [hwarm, Bool.not_true, Bool.and_false, if_neg Bool.false_ne_true]
  rfl

/-- **A page is the start of what is left.** -/
theorem home_items (h : HomeInv cfg s) (hread : Readable cfg reader limit s)
    (hwarm : hasEntries reader s.home = true) (hcursor : ∀ c ∈ cursor, 0 < c) (n : ℕ) :
    (merged cfg reader cursor n s).map TimelineItem.ids =
      ((below FeedItem.logId cursor (homeItems cfg reader s)).take n).map FeedItem.ids := by
  have hleft := (falling_homeItems cfg reader s).below cursor
  have hitem := fun p => exists_homeItem (p := p) h hread hwarm hcursor n
  have htake := fun f => mem_page_of_take (f := f) (n := n) h hread hwarm hcursor
  have hone : ∀ f ∈ below FeedItem.logId cursor (homeItems cfg reader s),
      ∀ g ∈ below FeedItem.logId cursor (homeItems cfg reader s), f.opId = g.opId → f = g :=
    fun f hf g hg => eq_of_opId (mem_rows_of_mem_homeItems (mem_below.1 hf).1)
      (mem_rows_of_mem_homeItems (mem_below.1 hg).1)
  rw [merged]
  generalize below FeedItem.logId cursor (homeItems cfg reader s) = left
    at hleft hitem htake hone
  generalize pageItems cfg reader cursor n s = items at hitem htake
  obtain ⟨hops, hall⟩ := exists_of_mem_eraseDupsBy (k := TimelineItem.opId) (l := items)
  have hsub : ∀ x ∈ items.eraseDupsBy fun a b => a.opId == b.opId, x ∈ items := fun x hx =>
    mem_of_mem_eraseDupsBy hx
  generalize (items.eraseDupsBy fun a b => a.opId == b.opId) = kept at hops hall hsub
  have hfound : ∀ x ∈ items, ∃ f ∈ left, x.ids = f.ids := fun x hx =>
    hitem _ (List.mem_map_of_mem hx)
  -- an op occurs in the store and in an author's list; one of the two is kept
  have hlogs : (kept.map TimelineItem.logId).Nodup := by
    refine (List.nodup_map_iff_inj_on hops.of_map).2 fun a ha b hb hlog => ?_
    obtain ⟨f, hf, hfa⟩ := hfound a (hsub a ha)
    obtain ⟨g, hg, hgb⟩ := hfound b (hsub b hb)
    have hsame : f = g := by
      refine hleft.eq_of_key hf hg ?_
      exact (congrArg Prod.fst hfa).symm.trans (hlog.trans (congrArg Prod.fst hgb))
    subst hsame
    exact List.inj_on_of_nodup_map hops ha hb (congrArg Prod.snd (hfa.trans hgb.symm))
  have hids : (newest TimelineItem.logId kept).map TimelineItem.ids =
      (left.filter fun f => decide (f.ids ∈ items.map TimelineItem.ids)).map FeedItem.ids := by
    have hfront : Falling Prod.fst ((newest TimelineItem.logId kept).map TimelineItem.ids) :=
      (falling_newest hlogs).map fun _ => rfl
    -- both sides fall by log id, so they are equal when they have the same members
    refine hfront.eq ((hleft.filter _).map fun _ => rfl) fun p => ?_
    constructor
    · intro hp
      obtain ⟨x, hx, rfl⟩ := List.mem_map.1 hp
      have hx := hsub x (mem_newest.1 hx)
      obtain ⟨f, hf, hfx⟩ := hfound x hx
      refine List.mem_map.2 ⟨f, List.mem_filter.2 ⟨hf, decide_eq_true ?_⟩, hfx.symm⟩
      rw [← hfx]
      exact List.mem_map_of_mem hx
    · intro hp
      obtain ⟨f, hf, rfl⟩ := List.mem_map.1 hp
      obtain ⟨hf, hin⟩ := List.mem_filter.1 hf
      obtain ⟨x, hx, hxf⟩ := List.mem_map.1 (of_decide_eq_true hin)
      obtain ⟨y, hy, hyx⟩ := hall x hx
      obtain ⟨g, hg, hgy⟩ := hfound y (hsub y hy)
      refine List.mem_map.2 ⟨y, mem_newest.2 hy, ?_⟩
      rw [hgy, hone g hg f hf]
      exact (congrArg Prod.snd hgy).symm.trans (hyx.trans (congrArg Prod.snd hxf))
  rw [List.map_take, hids, ← List.map_take,
    take_filter_of_take fun f hf => decide_eq_true (htake f hf)]

/-- Reading changes no more than the caches, which stay as they should be. -/
theorem HomeInv.afterRead (h : HomeInv cfg s) (cursor : Option ℤ) (n : ℕ) :
    HomeInv cfg (afterRead cfg reader cursor n s) :=
  have hread := h.hydrate (range reader cursor n s.home)
  ⟨hread.pos, hread.named, hread.covered, hread.item, hread.deleted⟩

theorem Readable.afterRead (h : Readable cfg reader limit s) (cursor : Option ℤ) (n : ℕ) :
    Readable cfg reader limit (afterRead cfg reader cursor n s) where
  current := by
    intro did hdid hcase l hl
    have hcurrent := h.current did hdid hcase
    dsimp only [AppView.afterRead] at hl
    split at hl
    · cases hl
      rw [Home.authorRecent]
      cases hcache : s.authorCache did with
      | none => rfl
      | some l => exact hcurrent l hcache
    · exact hcurrent l hl
  spread := h.spread
  celebrities := h.celebrities
  live := h.live

/-- Below a cursor the reader meets what is left. -/
theorem follow_warm (fuel : ℕ) (h : HomeInv cfg s) (hread : Readable cfg reader limit s)
    (hwarm : hasEntries reader s.home = true) (hcursor : ∀ c ∈ cursor, 0 < c)
    (hfuel : (below FeedItem.logId cursor (homeItems cfg reader s)).length < fuel) :
    ∃ items, Home.follow cfg reader limit fuel cursor s = some items ∧
      items.map TimelineItem.ids =
        (below FeedItem.logId cursor (homeItems cfg reader s)).map FeedItem.ids := by
  induction fuel generalizing s cursor with
  | zero => exact absurd hfuel (Nat.not_lt_zero _)
  | succ fuel ih =>
    have hpage := home_items h hread hwarm hcursor (Timeline.clampLimit limit)
    have hn := Timeline.clampLimit_pos limit
    have hlength : (merged cfg reader cursor (Timeline.clampLimit limit) s).length =
        ((below FeedItem.logId cursor (homeItems cfg reader s)).take
          (Timeline.clampLimit limit)).length := by
      simpa using congrArg List.length hpage
    rw [Home.follow, home_eq hwarm]
    simp only [hlength, List.length_take, decide_eq_true_eq]
    split
    · next hmore =>
      -- the page is full: its last item is the cursor of the next one
      have hfull : Timeline.clampLimit limit ≤
          (below FeedItem.logId cursor (homeItems cfg reader s)).length := by omega
      have hne : (below FeedItem.logId cursor (homeItems cfg reader s)).take
          (Timeline.clampLimit limit) ≠ [] := by
        intro hnil
        have hlen := congrArg List.length hnil
        rw [List.length_take, List.length_nil] at hlen
        omega
      have hlast := List.getLast?_eq_some_getLast hne
      generalize ((below FeedItem.logId cursor (homeItems cfg reader s)).take
        (Timeline.clampLimit limit)).getLast hne = x at hlast
      have hmem : x ∈ below FeedItem.logId cursor (homeItems cfg reader s) :=
        List.mem_of_mem_take (List.mem_of_getLast? hlast)
      have hnext : (merged cfg reader cursor (Timeline.clampLimit limit) s).getLast?.map
          (·.logId) = some x.logId := by
        have heq := congrArg List.getLast? hpage
        rw [List.getLast?_map, List.getLast?_map, hlast] at heq
        obtain ⟨y, hy, hyx⟩ := Option.map_eq_some_iff.1 heq
        rw [hy]
        exact congrArg some (congrArg Prod.fst hyx)
      have hrest : below FeedItem.logId (some x.logId) (homeItems cfg reader s) =
          (below FeedItem.logId cursor (homeItems cfg reader s)).drop
            (Timeline.clampLimit limit) :=
        (below_of_mem hmem).trans (((falling_homeItems cfg reader s).below cursor).below_getLast
          hlast)
      have hpos : ∀ c ∈ some x.logId, 0 < c := by
        intro c hc
        rw [← Option.some.inj hc]
        exact h.pos x (mem_rows_of_mem_homeItems (mem_below.1 hmem).1)
      obtain ⟨items, hitems, hids⟩ := ih (h.afterRead cursor (Timeline.clampLimit limit))
        (hread.afterRead cursor (Timeline.clampLimit limit)) hwarm hpos (by
          show (below FeedItem.logId (some x.logId) (homeItems cfg reader s)).length < fuel
          rw [hrest, List.length_drop]
          omega)
      refine ⟨_, by rw [hnext, hitems, Option.map_some], ?_⟩
      rw [List.map_append, hpage, hids, ← List.map_append]
      refine congrArg _ ?_
      rw [show homeItems cfg reader (AppView.afterRead cfg reader cursor
        (Timeline.clampLimit limit) s) = homeItems cfg reader s from rfl, hrest,
        List.take_append_drop]
    · next hless =>
      refine ⟨_, rfl, ?_⟩
      rw [hpage, List.take_of_length_le (by omega)]

/-! ### A reader without references -/

namespace Timeline

variable {t t' : TimelineState}

theorem authorsRecent_congr (cap : ℕ) {dids : List String} (hp : t.projection = t'.projection)
    (hcache : ∀ did ∈ dids, t.authorCache did = t'.authorCache did) :
    (authorsRecent cap dids t).1 = (authorsRecent cap dids t').1 ∧
      ∀ did ∈ dids, (authorsRecent cap dids t).2.authorCache did =
        (authorsRecent cap dids t').2.authorCache did := by
  have hhits : dids.filter (fun did => (t.authorCache did).isSome) =
      dids.filter fun did => (t'.authorCache did).isSome :=
    List.filter_congr fun did hdid => by rw [hcache did hdid]
  have hmisses : dids.filter (fun did => !(t.authorCache did).isSome) =
      dids.filter fun did => !(t'.authorCache did).isSome :=
    List.filter_congr fun did hdid => by rw [hcache did hdid]
  have hlists : (dids.filter fun did => (t'.authorCache did).isSome).filterMap t.authorCache =
      (dids.filter fun did => (t'.authorCache did).isSome).filterMap t'.authorCache :=
    List.filterMap_congr fun did hdid => hcache did (List.mem_filter.1 hdid).1
  rw [authorsRecent, authorsRecent]
  dsimp only
  rw [hhits, hmisses, hlists, hp]
  exact ⟨rfl, fun did hdid => by rw [hcache did hdid]⟩

/-- A page reads the lists of its authors only. -/
theorem forAuthors_congr (cap : ℕ) {dids : List String} (hp : t.projection = t'.projection)
    (hcache : ∀ did ∈ dids, t.authorCache did = t'.authorCache did) (cursor : Option ℤ)
    (limit : ℤ) : (forAuthors cap dids cursor limit t).1 = (forAuthors cap dids cursor limit t').1 ∧
      ∀ did ∈ dids, (forAuthors cap dids cursor limit t).2.authorCache did =
        (forAuthors cap dids cursor limit t').2.authorCache did := by
  unfold forAuthors
  cases positive cursor with
  | none =>
    obtain ⟨hlist, hrest⟩ := authorsRecent_congr cap hp
      fun did (hdid : did ∈ dids.eraseDups) => hcache did (List.mem_eraseDups.1 hdid)
    dsimp only [cachedFirstPage]
    rw [hlist]
    exact ⟨rfl, fun did hdid => hrest did (List.mem_eraseDups.2 hdid)⟩
  | some c =>
    dsimp only
    rw [hp]
    exact ⟨rfl, hcache⟩

theorem forAuthors_projection (cap : ℕ) (dids : List String) (cursor : Option ℤ) (limit : ℤ)
    (t : TimelineState) : (forAuthors cap dids cursor limit t).2.projection = t.projection := by
  unfold forAuthors
  cases positive cursor <;> rfl

theorem follow_congr (cap : ℕ) {dids : List String} (hp : t.projection = t'.projection)
    (hcache : ∀ did ∈ dids, t.authorCache did = t'.authorCache did) (limit : ℤ) (fuel : ℕ)
    (cursor : Option ℤ) : follow cap dids limit fuel cursor t =
      follow cap dids limit fuel cursor t' := by
  induction fuel generalizing t t' cursor with
  | zero => rfl
  | succ fuel ih =>
    obtain ⟨hpage, hrest⟩ := forAuthors_congr cap hp hcache cursor limit
    have hprojection : (forAuthors cap dids cursor limit t).2.projection =
        (forAuthors cap dids cursor limit t').2.projection := by
      rw [forAuthors_projection, forAuthors_projection, hp]
    rw [follow, follow]
    dsimp only
    rw [hpage, ih hprojection hrest]

theorem clampLimit_clampLimit (limit : ℤ) :
    clampLimit (clampLimit limit : ℤ) = clampLimit limit := by
  unfold clampLimit
  omega

theorem forAuthors_clampLimit (cap : ℕ) (dids : List String) (cursor : Option ℤ) (limit : ℤ) :
    forAuthors cap dids cursor (clampLimit limit : ℤ) t = forAuthors cap dids cursor limit t := by
  unfold forAuthors cachedFirstPage page
  rw [clampLimit_clampLimit]

end Timeline

/-- A reader without references is served from the follow graph. -/
theorem home_of_cold (hcold : hasEntries reader s.home = false) (cursor : Option ℤ) :
    Home.home cfg reader cursor limit s =
      ((Timeline.forAuthors cfg.authorCacheLimit (following s.edges reader) cursor limit
        ⟨s.projection, s.authorCache⟩).1,
      { s with authorCache := (Timeline.forAuthors cfg.authorCacheLimit
          (following s.edges reader) cursor limit
            ⟨s.projection, s.authorCache⟩).2.authorCache }) := by
  have hentries : range reader cursor (Timeline.clampLimit limit) s.home = [] := by
    rw [range, hasEntries_eq_false.1 hcold]
    cases cursor <;> exact List.take_nil
  rw [Home.home]
  dsimp only
  rw [hentries, hcold, List.isEmpty_nil, Bool.not_false, Bool.and_true, if_pos rfl,
    Timeline.forAuthors_clampLimit]

theorem follow_cold (hcold : hasEntries reader s.home = false) (fuel : ℕ) (cursor : Option ℤ) :
    Home.follow cfg reader limit fuel cursor s =
      Timeline.follow cfg.authorCacheLimit (following s.edges reader) limit fuel cursor
        ⟨s.projection, s.authorCache⟩ := by
  induction fuel generalizing s cursor with
  | zero => rfl
  | succ fuel ih =>
    have hstate : ⟨s.projection, (Timeline.forAuthors cfg.authorCacheLimit
        (following s.edges reader) cursor limit ⟨s.projection, s.authorCache⟩).2.authorCache⟩ =
        (Timeline.forAuthors cfg.authorCacheLimit (following s.edges reader) cursor limit
          ⟨s.projection, s.authorCache⟩).2 := by
      have hp := Timeline.forAuthors_projection cfg.authorCacheLimit (following s.edges reader)
        cursor limit ⟨s.projection, s.authorCache⟩
      generalize (Timeline.forAuthors cfg.authorCacheLimit (following s.edges reader) cursor limit
        ⟨s.projection, s.authorCache⟩).2 = t at hp
      cases t
      cases hp
      rfl
    rw [Home.follow, home_of_cold hcold, Timeline.follow]
    dsimp only
    rw [ih (by exact hcold), hstate]

/-- **A readable timeline is complete.** -/
theorem homeComplete_of_readable (h : HomeInv cfg s) (hread : Readable cfg reader limit s) :
    HomeComplete cfg reader limit s := by
  cases hwarm : hasEntries reader s.home with
  | true =>
    have hcursor : ∀ c ∈ (none : Option ℤ), 0 < c := fun c hc => by cases hc
    obtain ⟨items, hitems, hids⟩ := follow_warm _ h hread hwarm hcursor (Nat.lt_succ_self _)
    exact ⟨_, items, hitems, hids⟩
  | false =>
    -- the lists of the other authors are not read
    have hcurrent : Timeline.CacheCurrent cfg.authorCacheLimit ⟨s.projection, fun did =>
        if (following s.edges reader).contains did then s.authorCache did else none⟩ := by
      intro did l hl
      dsimp only at hl
      split at hl
      · next hdid =>
        exact hread.current did (List.contains_iff_mem.1 hdid) (.inr hwarm) l hl
      · cases hl
    have hcomplete := (Timeline.complete_iff hcurrent (following s.edges reader)
      (fun f hf => h.pos f (mem_itemsOf.1 hf).1) limit).2 (hread.spread hwarm)
    obtain ⟨fuel, hfollow⟩ := hcomplete.enumerates
    refine ⟨fuel, (itemsOf (following s.edges reader) s.projection.feedItems).map
      (toMap s.projection.profiles), ?_, ?_⟩
    · rw [follow_cold hwarm, ← hfollow]
      have hagree : ∀ did ∈ following s.edges reader, s.authorCache did =
          if (following s.edges reader).contains did then s.authorCache did else none :=
        fun did hdid => by rw [if_pos (List.contains_iff_mem.2 hdid)]
      exact Timeline.follow_congr _ (by exact rfl) (by exact hagree) limit fuel none
    · rw [List.map_map, homeItems, if_neg (by rw [hwarm]; exact Bool.false_ne_true)]
      rfl

end AppView

end Ansible
