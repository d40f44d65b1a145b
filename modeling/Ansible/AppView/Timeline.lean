import Ansible.AppView.Folder
import Ansible.Lib.Newest
import Ansible.Lib.Run

/-!
# The timeline of a set of authors

Pages of feed items, newest first, under a cursor.  The first page is not read from the table:
it is put together from a list for each author, which is cached and holds no more than a fixed
number of items.

## Main definitions

* `TimelineItem`, `toMap` — a feed item as it is presented.
* `Timeline.page` — the query behind a page.
* `Timeline.authorsRecent`, `cachedFirstPage` — the lists of the authors, and the page made of
  them.
* `Timeline.forAuthors`, `follow` — the endpoint, and a reader who goes on to the last page.

## Main results

* `timeline_complete_iff` — **a timeline is complete exactly when its items are spread.**
-/

namespace Ansible

namespace AppView

/-! ### Items -/

/-- A feed item as it is presented, with the names of its author. -/
structure TimelineItem where
  logId : ℤ
  opId : String
  authorDid : String
  canonicalAuthorDid : String
  authorHandle : Option String
  authorDisplayName : Option String
  entityType : String
  entityId : String
  opType : String
  boardId : Option String
  threadId : Option String
  visibility : Option String
  createdAt : Option ℤ
  payload : Json
  publicKeyHex : Option String
  reputationTier : String

def nonEmpty (name : Option String) : Option String := name.filter (· != "")

def canonicalAuthor (f : FeedItem) : String :=
  if f.canonicalAuthorDid = "" then f.authorDid else f.canonicalAuthorDid

def toMap (profiles : Profiles) (f : FeedItem) : TimelineItem where
  logId := f.logId
  opId := f.opId
  authorDid := f.authorDid
  canonicalAuthorDid := canonicalAuthor f
  authorHandle := (profiles (canonicalAuthor f)).bind fun p => nonEmpty p.handle
  authorDisplayName := (profiles (canonicalAuthor f)).bind fun p => nonEmpty p.displayName
  entityType := f.entityType
  entityId := f.entityId
  opType := f.opType
  boardId := f.boardId
  threadId := f.threadId
  visibility := f.visibility
  createdAt := f.itemCreatedAt
  payload := f.payload
  publicKeyHex := f.publicKeyHex
  reputationTier := f.authorTier

/-- An item that the top-level feeds show. -/
def FeedItem.visible (f : FeedItem) : Bool :=
  !f.deleted && f.sigVerified && f.entityType != "comment" &&
    f.visibility.all (relayable.contains ·)

/-- The visible items of the authors, newest first. -/
def itemsOf (dids : List String) (t : FeedTable) : List FeedItem :=
  newest FeedItem.logId (t.rows.filter fun f => dids.contains f.authorDid && f.visible)

namespace Timeline

/-! ### Pages -/

structure Page where
  items : List TimelineItem
  nextCursor : Option ℤ
  hasMore : Bool

/-- The read models, and the cached list of each author. -/
structure TimelineState where
  projection : Projection
  authorCache : String → Option (List TimelineItem)

/-- `limit |> min(200) |> max(1)` -/
def clampLimit (limit : ℤ) : ℕ := (max (min limit 200) 1).toNat

/-- The first items with the cursor behind them. -/
def pageOf (limit : ℕ) (items : List TimelineItem) : Page where
  items := items.take limit
  nextCursor := (items.take limit).getLast?.map (·.logId)
  hasMore := decide (limit < items.length)

/-- A cursor that is not positive is none. -/
def positive (cursor : Option ℤ) : Option ℤ := cursor.filter fun c => decide (0 < c)

def page (dids : List String) (cursor : Option ℤ) (limit : ℤ) (p : Projection) : Page :=
  pageOf (clampLimit limit)
    (((below FeedItem.logId (positive cursor) (itemsOf dids p.feedItems)).take
      (clampLimit limit + 1)).map (toMap p.profiles))

/-! ### The lists of the authors -/

/-- The newest items of an author. -/
def recent (cap : ℕ) (p : Projection) (did : String) : List TimelineItem :=
  ((itemsOf [did] p.feedItems).take cap).map (toMap p.profiles)

/-- The lists of the authors, of which those that are not cached are queried and cached. -/
def authorsRecent (cap : ℕ) (dids : List String) (s : TimelineState) :
    List TimelineItem × TimelineState :=
  let hits := dids.filter fun did => (s.authorCache did).isSome
  let misses := dids.filter fun did => !(s.authorCache did).isSome
  ((hits.filterMap s.authorCache).reverse.flatten ++
      misses.reverse.flatMap (recent cap s.projection),
    { s with authorCache := fun did =>
        if misses.contains did then some (recent cap s.projection did) else s.authorCache did })

def cachedFirstPage (cap : ℕ) (dids : List String) (limit : ℤ) (s : TimelineState) :
    Page × TimelineState :=
  let (merged, s) := authorsRecent cap dids.eraseDups s
  (pageOf (clampLimit limit) (newest TimelineItem.logId merged), s)

/-- The first page comes from the cache, the others from a query. -/
def forAuthors (cap : ℕ) (dids : List String) (cursor : Option ℤ) (limit : ℤ)
    (s : TimelineState) : Page × TimelineState :=
  match positive cursor with
  | none => cachedFirstPage cap dids limit s
  | some c => (page dids (some c) limit s.projection, s)

/-- A reader who goes on as long as there are more. -/
def follow (cap : ℕ) (dids : List String) (limit : ℤ) :
    ℕ → Option ℤ → TimelineState → Option (List TimelineItem)
  | 0, _, _ => none
  | fuel + 1, cursor, s =>
    let (page, s) := forAuthors cap dids cursor limit s
    if page.hasMore then
      (follow cap dids limit fuel page.nextCursor s).map (page.items ++ ·)
    else some page.items

inductive CacheAction
  /-- A first page, or the list of an author, is read. -/
  | read (dids : List String)
  /-- The list of an author has expired. -/
  | expire (did : String)

def cacheStep (cap : ℕ) (s : TimelineState) : CacheAction → TimelineState
  | .read dids => (authorsRecent cap dids s).2
  | .expire did => { s with authorCache := Function.update s.authorCache did none }

/-- The cache is empty. -/
def fresh (p : Projection) : TimelineState := ⟨p, fun _ => none⟩

/-! ### What a reader should meet -/

/-- The reader meets each visible item once, newest first, and the first page is that of the
query. -/
structure Complete (cap : ℕ) (dids : List String) (limit : ℤ) (s : TimelineState) : Prop where
  enumerates : ∃ fuel, follow cap dids limit fuel none s
    = some ((itemsOf dids s.projection.feedItems).map (toMap s.projection.profiles))
  first : (forAuthors cap dids none limit s).1 = page dids none limit s.projection

/-- The item is among the newest of its author. -/
def kept (cap : ℕ) (items : List FeedItem) (f : FeedItem) : Bool :=
  decide (rank FeedItem.logId (items.filter fun g => g.authorDid == f.authorDid) f < cap)

/-- The items of the first page are among the newest of their authors, and if there are more
items then so is one more. -/
structure Spread (cap limit : ℕ) (items : List FeedItem) : Prop where
  first : ∀ f ∈ items.take limit, kept cap items f = true
  more : limit < items.length → limit < (items.filter (kept cap items)).length

end Timeline

/-! ### Visible items -/

theorem mem_itemsOf {dids : List String} {t : FeedTable} {f : FeedItem} :
    f ∈ itemsOf dids t ↔ f ∈ t.rows ∧ f.authorDid ∈ dids ∧ f.visible = true := by
  rw [itemsOf, mem_newest, List.mem_filter, Bool.and_eq_true, List.contains_iff_mem]

theorem falling_itemsOf (dids : List String) (t : FeedTable) :
    Falling FeedItem.logId (itemsOf dids t) := by
  have h := t.valid.log_id
  rw [UniqueOn, List.filter_true] at h
  exact falling_newest (h.sublist (List.filter_sublist.map _))

@[simp] theorem logId_toMap (profiles : Profiles) (f : FeedItem) :
    (toMap profiles f).logId = f.logId := rfl

theorem itemsOf_singleton {dids : List String} {did : String} (h : did ∈ dids) (t : FeedTable) :
    itemsOf [did] t = (itemsOf dids t).filter fun f => f.authorDid == did := by
  refine (falling_itemsOf _ t).eq ((falling_itemsOf _ t).filter _) fun f => ?_
  rw [List.mem_filter, mem_itemsOf, mem_itemsOf, List.mem_singleton, beq_iff_eq]
  constructor
  · rintro ⟨hf, rfl, hvisible⟩
    exact ⟨⟨hf, h, hvisible⟩, rfl⟩
  · rintro ⟨⟨hf, -, hvisible⟩, hdid⟩
    exact ⟨hf, hdid, hvisible⟩

namespace Timeline

/-! ### The lists of the authors -/

/-- The list of an author holds its items of small rank. -/
theorem recent_eq (cap : ℕ) (p : Projection) {dids : List String} {did : String}
    (h : did ∈ dids) : recent cap p did =
      (((itemsOf dids p.feedItems).filter fun f => f.authorDid == did).filter
        (kept cap (itemsOf dids p.feedItems))).map (toMap p.profiles) := by
  rw [recent, itemsOf_singleton h, ((falling_itemsOf _ _).filter _).take_eq_filter]
  refine congrArg _ (List.filter_congr fun f hf => ?_)
  rw [kept, beq_iff_eq.1 (List.mem_filter.1 hf).2]

/-- Each cached list is what the query finds. -/
def CacheCurrent (cap : ℕ) (s : TimelineState) : Prop :=
  ∀ did l, s.authorCache did = some l → l = recent cap s.projection did

variable {cap : ℕ} {s : TimelineState}

theorem CacheCurrent.read (h : CacheCurrent cap s) (dids : List String) :
    CacheCurrent cap (authorsRecent cap dids s).2 := by
  intro did l hl
  rw [authorsRecent] at hl ⊢
  dsimp only at hl ⊢
  split at hl
  · exact (Option.some.inj hl).symm
  · exact h did l hl

theorem CacheCurrent.step (act : CacheAction) (h : CacheCurrent cap s) :
    CacheCurrent cap (cacheStep cap s act) := by
  cases act with
  | read dids => exact h.read dids
  | expire did =>
    intro did' l hl
    by_cases hdid : did' = did
    · rw [cacheStep, hdid] at hl
      dsimp only at hl
      rw [Function.update_self] at hl
      cases hl
    · rw [cacheStep] at hl
      dsimp only at hl
      rw [Function.update_of_ne hdid] at hl
      exact h did' l hl

/-- The lists of the authors, in some order of the authors. -/
theorem authorsRecent_perm (h : CacheCurrent cap s) (dids : List String) :
    ∃ E : List String, E.Perm dids ∧
      (authorsRecent cap dids s).1 = E.flatMap (recent cap s.projection) := by
  have hhits : ((dids.filter fun did => (s.authorCache did).isSome).filterMap s.authorCache)
      = (dids.filter fun did => (s.authorCache did).isSome).map (recent cap s.projection) := by
    rw [← List.filterMap_eq_map]
    refine List.filterMap_congr fun did hdid => ?_
    obtain ⟨l, hl⟩ := Option.isSome_iff_exists.1 (List.mem_filter.1 hdid).2
    rw [hl, h did l hl]
    rfl
  refine ⟨(dids.filter fun did => (s.authorCache did).isSome).reverse ++
    (dids.filter fun did => !(s.authorCache did).isSome).reverse, ?_, ?_⟩
  · exact ((List.reverse_perm _).append (List.reverse_perm _)).trans (List.filter_append_perm _ _)
  · rw [authorsRecent]
    dsimp only
    rw [hhits, ← List.map_reverse, ← List.flatMap_def, ← List.flatMap_append]

theorem mem_recent {p : Projection} {dids : List String} {did : String} (h : did ∈ dids)
    {x : TimelineItem} : x ∈ recent cap p did ↔
      ∃ f ∈ (itemsOf dids p.feedItems).filter (kept cap (itemsOf dids p.feedItems)),
        f.authorDid = did ∧ toMap p.profiles f = x := by
  rw [recent_eq cap p h, List.mem_map]
  simp only [List.mem_filter, beq_iff_eq]
  constructor
  · rintro ⟨f, ⟨⟨hf, hdid⟩, hkept⟩, rfl⟩
    exact ⟨f, ⟨hf, hkept⟩, hdid, rfl⟩
  · rintro ⟨f, ⟨hf, hkept⟩, hdid, rfl⟩
    exact ⟨f, ⟨⟨hf, hdid⟩, hkept⟩, rfl⟩

/-- What the lists of the authors hold, newest first. -/
theorem merged_eq (h : CacheCurrent cap s) (dids : List String) :
    newest TimelineItem.logId (authorsRecent cap dids.eraseDups s).1 =
      ((itemsOf dids s.projection.feedItems).filter
        (kept cap (itemsOf dids s.projection.feedItems))).map (toMap s.projection.profiles) := by
  obtain ⟨E, hE, heq⟩ := authorsRecent_perm h dids.eraseDups
  have hmem : ∀ did, did ∈ E ↔ did ∈ dids := fun did => hE.mem_iff.trans List.mem_eraseDups
  have hE' : E.Nodup := hE.nodup_iff.2 (nodup_eraseDups dids)
  have hfalling := falling_itemsOf dids s.projection.feedItems
  rw [heq]
  refine newest_eq ?_ ((hfalling.filter _).map (logId_toMap _)) fun x => ?_
  · rw [List.map_flatMap, List.nodup_flatMap]
    constructor
    · intro did hdid
      rw [recent_eq cap _ ((hmem did).1 hdid)]
      exact (((hfalling.filter _).filter _).map (logId_toMap _)).nodup_keys
    · -- two authors share no item
      refine hE'.imp_of_mem fun {a b} ha hb hne => ?_
      intro i hi hi'
      obtain ⟨x, hx, rfl⟩ := List.mem_map.1 hi
      obtain ⟨y, hy, hxy⟩ := List.mem_map.1 hi'
      obtain ⟨f, hf, rfl, rfl⟩ := (mem_recent ((hmem a).1 ha)).1 hx
      obtain ⟨g, hg, rfl, rfl⟩ := (mem_recent ((hmem b).1 hb)).1 hy
      rw [(hfalling.filter _).eq_of_key hf hg hxy.symm] at hne
      exact hne rfl
  · rw [List.mem_flatMap, List.mem_map]
    constructor
    · rintro ⟨did, hdid, hx⟩
      obtain ⟨f, hf, -, rfl⟩ := (mem_recent ((hmem did).1 hdid)).1 hx
      exact ⟨f, hf, rfl⟩
    · rintro ⟨f, hf, rfl⟩
      have hdid := (mem_itemsOf.1 (List.mem_filter.1 hf).1).2.1
      exact ⟨f.authorDid, (hmem _).2 hdid, (mem_recent hdid).2 ⟨f, hf, rfl, rfl⟩⟩

/-! ### Pages -/

theorem clampLimit_pos (limit : ℤ) : 0 < clampLimit limit := by
  unfold clampLimit
  omega

theorem pageOf_take (limit : ℕ) (items : List TimelineItem) :
    pageOf limit (items.take (limit + 1)) = pageOf limit items := by
  have htake : (items.take (limit + 1)).take limit = items.take limit := by
    rw [List.take_take, Nat.min_eq_left (Nat.le_succ limit)]
  have hmore : limit < (items.take (limit + 1)).length ↔ limit < items.length := by
    rw [List.length_take]
    omega
  simp only [pageOf, htake, hmore]

/-- The query behind a page. -/
theorem page_eq (dids : List String) (cursor : Option ℤ) (limit : ℤ) (p : Projection) :
    page dids cursor limit p = pageOf (clampLimit limit)
      ((below FeedItem.logId (positive cursor) (itemsOf dids p.feedItems)).map
        (toMap p.profiles)) := by
  rw [page, List.map_take, pageOf_take]

/-- The first page from the cache. -/
theorem forAuthors_none (h : CacheCurrent cap s) (dids : List String) (limit : ℤ) :
    forAuthors cap dids none limit s = (pageOf (clampLimit limit)
      (((itemsOf dids s.projection.feedItems).filter
        (kept cap (itemsOf dids s.projection.feedItems))).map (toMap s.projection.profiles)),
      (authorsRecent cap dids.eraseDups s).2) := by
  rw [forAuthors, ← merged_eq h dids]
  rfl

/-- Below a cursor the reader meets what is left. -/
theorem follow_below (cap : ℕ) (dids : List String) (limit : ℤ) (s : TimelineState)
    (hpos : ∀ f ∈ itemsOf dids s.projection.feedItems, 0 < f.logId) (fuel : ℕ) {c : ℤ}
    (hc : 0 < c)
    (hfuel : (below FeedItem.logId (some c) (itemsOf dids s.projection.feedItems)).length < fuel) :
    follow cap dids limit fuel (some c) s =
      some ((below FeedItem.logId (some c) (itemsOf dids s.projection.feedItems)).map
        (toMap s.projection.profiles)) := by
  induction fuel generalizing c with
  | zero => exact absurd hfuel (Nat.not_lt_zero _)
  | succ fuel ih =>
    have hcursor : positive (some c) = some c := by
      rw [positive, Option.filter_some, if_pos (decide_eq_true hc)]
    rw [follow, forAuthors, hcursor]
    dsimp only
    rw [page_eq, hcursor]
    have hfalling := falling_itemsOf dids s.projection.feedItems
    have hsub : (below FeedItem.logId (some c) (itemsOf dids s.projection.feedItems)).Sublist
      (itemsOf dids s.projection.feedItems) := List.filter_sublist
    have hleft := hfalling.sublist hsub
    -- what is below the last item of the page is what is left behind it
    have hagain : ∀ {x : FeedItem},
        x ∈ below FeedItem.logId (some c) (itemsOf dids s.projection.feedItems) →
        below FeedItem.logId (some x.logId) (itemsOf dids s.projection.feedItems)
          = below FeedItem.logId (some x.logId)
            (below FeedItem.logId (some c) (itemsOf dids s.projection.feedItems)) := by
      intro x hx
      have hlt : x.logId < c := of_decide_eq_true (List.mem_filter.1 hx).2
      simp only [below, List.filter_filter]
      refine List.filter_congr fun y _ => ?_
      rw [← Bool.decide_and]
      exact decide_eq_decide.2 ⟨fun h => ⟨h, h.trans hlt⟩, And.left⟩
    generalize below FeedItem.logId (some c) (itemsOf dids s.projection.feedItems) = left
      at hfuel hsub hleft hagain
    simp only [pageOf, List.length_map, decide_eq_true_eq, ← List.map_take]
    split
    · next hmore =>
      have hne : left.take (clampLimit limit) ≠ [] := by
        intro hnil
        have hlen := congrArg List.length hnil
        rw [List.length_take, List.length_nil] at hlen
        have := clampLimit_pos limit
        omega
      have hlast := List.getLast?_eq_some_getLast hne
      have hmem := List.mem_of_mem_take (List.getLast_mem hne)
      have hrest := (hagain hmem).trans (hleft.below_getLast hlast)
      rw [List.getLast?_map, hlast, Option.map_some, Option.map_some, logId_toMap,
        ih (hpos _ (hsub.subset hmem)), hrest, Option.map_some, ← List.map_append,
        List.take_append_drop]
      rw [hrest, List.length_drop]
      have := clampLimit_pos limit
      omega
    · next hnot => rw [List.take_of_length_le (not_lt.1 hnot)]

/-! ### Complete timelines -/

theorem first_iff (h : CacheCurrent cap s) (dids : List String) (limit : ℤ) :
    (forAuthors cap dids none limit s).1 = page dids none limit s.projection ↔
      Spread cap (clampLimit limit) (itemsOf dids s.projection.feedItems) := by
  have hfalling := falling_itemsOf dids s.projection.feedItems
  have hbelow : below FeedItem.logId (positive none) (itemsOf dids s.projection.feedItems)
      = itemsOf dids s.projection.feedItems := rfl
  rw [forAuthors_none h, page_eq, hbelow]
  generalize itemsOf dids s.projection.feedItems = items at hfalling
  generalize clampLimit limit = n
  have hsub : (items.filter (kept cap items)).Sublist items := List.filter_sublist
  constructor
  · intro heq
    have hitems := congrArg Page.items heq
    have hmore := congrArg Page.hasMore heq
    simp only [pageOf, ← List.map_take, List.length_map, decide_eq_decide] at hitems hmore
    refine ⟨fun f hf => ?_, hmore.2⟩
    have hf' : toMap s.projection.profiles f
        ∈ ((items.filter (kept cap items)).take n).map (toMap s.projection.profiles) := by
      rw [hitems]
      exact List.mem_map_of_mem hf
    obtain ⟨g, hg, hgf⟩ := List.mem_map.1 hf'
    have hg := List.mem_of_mem_take hg
    rw [← hfalling.eq_of_key (hsub.subset hg) (List.mem_of_mem_take hf)
      (congrArg TimelineItem.logId hgf)]
    exact (List.mem_filter.1 hg).2
  · intro hspread
    have hsplit : items.filter (kept cap items)
        = items.take n ++ (items.drop n).filter (kept cap items) := by
      conv_lhs => rw [← List.take_append_drop n items, List.filter_append]
      rw [List.take_append_drop, List.filter_eq_self.2 hspread.first]
    have hitems : (items.filter (kept cap items)).take n = items.take n := by
      rw [hsplit, List.take_append, List.take_take, Nat.min_self]
      by_cases hn : n ≤ items.length
      · rw [List.length_take, Nat.min_eq_left hn, Nat.sub_self, List.take_zero, List.append_nil]
      · rw [List.drop_eq_nil_of_le (not_le.1 hn).le, List.filter_nil, List.take_nil,
          List.append_nil]
    have hmore : n < (items.filter (kept cap items)).length ↔ n < items.length :=
      ⟨fun hlt => hlt.trans_le hsub.length_le, hspread.more⟩
    simp only [pageOf, ← List.map_take, hitems, List.length_map, hmore]

/-- **When a timeline is complete.** -/
theorem complete_iff (h : CacheCurrent cap s) (dids : List String)
    (hpos : ∀ f ∈ itemsOf dids s.projection.feedItems, 0 < f.logId) (limit : ℤ) :
    Complete cap dids limit s ↔
      Spread cap (clampLimit limit) (itemsOf dids s.projection.feedItems) := by
  rw [← first_iff h dids limit]
  refine ⟨Complete.first, fun hfirst => ⟨?_, hfirst⟩⟩
  refine ⟨(itemsOf dids s.projection.feedItems).length + 2, ?_⟩
  have hprojection : (forAuthors cap dids none limit s).2.projection = s.projection := rfl
  rw [follow]
  generalize forAuthors cap dids none limit s = r at hfirst hprojection
  obtain ⟨first, t⟩ := r
  dsimp only at hfirst hprojection ⊢
  rw [hfirst, page_eq]
  have hbelow : below FeedItem.logId (positive none) (itemsOf dids s.projection.feedItems)
      = itemsOf dids s.projection.feedItems := rfl
  rw [hbelow]
  simp only [pageOf, List.length_map, decide_eq_true_eq, ← List.map_take]
  split
  · next hmore =>
    have hne : (itemsOf dids s.projection.feedItems).take (clampLimit limit) ≠ [] := by
      intro hnil
      have hlen := congrArg List.length hnil
      rw [List.length_take, List.length_nil] at hlen
      have := clampLimit_pos limit
      omega
    have hlast := List.getLast?_eq_some_getLast hne
    have hmem := List.mem_of_mem_take (List.getLast_mem hne)
    have hrest := (falling_itemsOf dids s.projection.feedItems).below_getLast hlast
    rw [List.getLast?_map, hlast, Option.map_some, Option.map_some, logId_toMap,
      follow_below cap dids limit t (by rw [hprojection]; exact hpos) _ (hpos _ hmem),
      hprojection, hrest, Option.map_some, ← List.map_append, List.take_append_drop]
    rw [hprojection, hrest, List.length_drop]
    omega
  · next hnot => rw [List.take_of_length_le (not_lt.1 hnot)]

/-- **A timeline is complete exactly when its items are spread**, whatever has been read into the
cache before.  The cache adds nothing, since each cached list is what the query finds at every
time. -/
theorem timeline_complete_iff (cap : ℕ) (p : Projection) (acts : List CacheAction)
    (dids : List String) (hpos : ∀ f ∈ itemsOf dids p.feedItems, 0 < f.logId) (limit : ℤ) :
    Complete cap dids limit (exec (cacheStep cap) (fresh p) acts) ↔
      Spread cap (clampLimit limit) (itemsOf dids p.feedItems) := by
  have hrun : (exec (cacheStep cap) (fresh p) acts).projection = p ∧
      CacheCurrent cap (exec (cacheStep cap) (fresh p) acts) := by
    refine exec_invariant (I := fun s : TimelineState => s.projection = p ∧ CacheCurrent cap s)
      (fun s act hs => ⟨?_, hs.2.step act⟩) ⟨rfl, fun did l hl => by cases hl⟩ acts
    cases act <;> exact hs.1
  obtain ⟨hprojection, hcurrent⟩ := hrun
  rw [complete_iff hcurrent dids (by rw [hprojection]; exact hpos), hprojection]

/-! ### One author -/

theorem filter_kept_of_author {items : List FeedItem} (h : Falling FeedItem.logId items)
    {did : String} (hdid : ∀ f ∈ items, f.authorDid = did) (cap : ℕ) :
    items.filter (kept cap items) = items.take cap := by
  rw [h.take_eq_filter]
  refine List.filter_congr fun f hf => ?_
  have hall : (items.filter fun g => g.authorDid == f.authorDid) = items :=
    List.filter_eq_self.2 fun g hg => by rw [hdid g hg, hdid f hf, beq_self_eq_true]
  rw [kept, hall]

/-- A single author who has more items than a page needs a list that is longer than the page. -/
theorem Spread.lt_of_author {limit : ℕ} {items : List FeedItem} (h : Falling FeedItem.logId items)
    {did : String} (hdid : ∀ f ∈ items, f.authorDid = did) (hspread : Spread cap limit items)
    (hmore : limit < items.length) : limit < cap := by
  have hlt := hspread.more hmore
  rw [filter_kept_of_author h hdid, List.length_take] at hlt
  omega

/-- A murmur of one author. -/
def authorItem (n : ℕ) : FeedItem where
  logId := n + 1
  opId := String.ofList (List.replicate n 'o')
  authorDid := "did:elix:a"
  canonicalAuthorDid := "did:elix:a"
  entityType := "murmur"
  entityId := "m"
  opType := "insert"
  boardId := none
  threadId := none
  visibility := none
  itemCreatedAt := none
  payload := .obj []
  publicKeyHex := none
  authorTier := "basic"
  deleted := false
  sigVerified := true
  source := "relay_firehose"
  signature := none

/-- The table of the first murmurs of the author. -/
def authorFeed (n : ℕ) : FeedTable where
  rows := (List.range n).map authorItem
  valid := by
    refine ⟨?_, ?_⟩
    · rw [UniqueOn, List.filter_true, List.map_map]
      refine List.nodup_range.map fun i j h => ?_
      exact Int.ofNat.inj (add_right_cancel h)
    · rw [UniqueOn, List.filter_true, List.map_map]
      refine List.nodup_range.map fun i j h => ?_
      have hlen := congrArg List.length (String.ofList_injective h)
      simpa using hlen

def authorProjection (n : ℕ) : Projection := ⟨authorFeed n, fun _ => none, fun _ => none⟩

theorem length_authorFeed (n : ℕ) : (itemsOf ["did:elix:a"] (authorFeed n)).length = n := by
  have hall : ((authorFeed n).rows.filter fun f =>
      ["did:elix:a"].contains f.authorDid && f.visible) = (authorFeed n).rows := by
    refine List.filter_eq_self.2 fun f hf => ?_
    obtain ⟨i, -, rfl⟩ := List.mem_map.1 hf
    rfl
  rw [itemsOf, hall, newest, (List.perm_insertionSort _ _).length_eq, authorFeed, List.length_map,
    List.length_range]

theorem timeline_complete_author :
    Complete 100 ["did:elix:a"] 1
      (exec (cacheStep 100) (fresh (authorProjection 2)) [.read ["did:elix:a"]]) :=
  (timeline_complete_iff 100 (authorProjection 2) _ _ (by decide +kernel) 1).2
    ⟨by decide +kernel, by decide +kernel⟩

/-- The first page of an author with 101 murmurs holds 100 of them and says that it is the last. -/
theorem timeline_not_complete :
    ¬ Complete 100 ["did:elix:a"] 100 (fresh (authorProjection 101)) := by
  have hcurrent : CacheCurrent 100 (fresh (authorProjection 101)) := fun did l hl => by cases hl
  intro h
  have hspread := (first_iff hcurrent _ _).1 h.first
  have hdid : ∀ f ∈ itemsOf ["did:elix:a"] (authorFeed 101), f.authorDid = "did:elix:a" :=
    fun f hf => List.mem_singleton.1 (mem_itemsOf.1 hf).2.1
  have hlt := hspread.lt_of_author (falling_itemsOf _ _) hdid
    (by rw [length_authorFeed]; decide)
  exact absurd hlt (by decide)

end Timeline

end AppView

end Ansible
