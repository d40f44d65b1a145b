import Ansible.AppView.FolderSpec
import Ansible.AppView.Timeline

/-!
# The materialized home timeline

When a page of the log is folded, references to its new items are written into the home timelines
of the followers of their authors.  A reader's timeline is read back from these references.
Authors with very many followers are left out on write, and are merged in on read; a reader without
references is served from the follow graph.

## Main definitions

* `HomeTimeline.refs`, `add`, `range`, `cap`, `sweepReaders` — the store of references.
* `FollowGraph.followers`, `following`, `celebrity` — the follow graph, edge by edge.
* `backfill`, `markDeleted`, `fanOut`, `foldHome` — what the fold of a page does to the store and
  to the caches.
* `Home.hydrate`, `Home.home` — a page of the home timeline.
* `homeStep` — the fold, reads, expiring caches and the sweep of the store.
-/

namespace Ansible

namespace AppView

/-- The settings of the application. -/
structure HomeConfig where
  celebrityThreshold : ℕ
  maxEntries : ℕ
  backfillLimit : ℕ
  authorCacheLimit : ℕ
  readerCap : ℕ

/-! ### The store of references -/

/-- `{{reader, log_id}, op_id}` -/
structure HomeEntry where
  reader : String
  logId : ℤ
  opId : String
  deriving DecidableEq

/-- An ordered set, by reader and log id. -/
abbrev HomeTable := Table HomeEntry (UniqueOn (fun e => (e.reader, e.logId)) fun _ => true)

namespace HomeTimeline

/-- The references of a reader, newest first. -/
def refs (reader : String) (t : HomeTable) : List HomeEntry :=
  newest HomeEntry.logId (t.rows.filter (·.reader == reader))

def add (t : HomeTable) (e : HomeEntry) : HomeTable where
  rows := t.rows.filter (fun x => decide ((x.reader, x.logId) ≠ (e.reader, e.logId))) ++ [e]
  valid := (t.valid.sublist List.filter_sublist).append_new fun _ hx =>
    of_decide_eq_true (List.mem_filter.1 hx).2

def addMany (entries : List HomeEntry) (t : HomeTable) : HomeTable := entries.foldl add t

def range (reader : String) (cursor : Option ℤ) (limit : ℕ) (t : HomeTable) : List HomeEntry :=
  (below HomeEntry.logId cursor (refs reader t)).take limit

/-- Only the newest references stay. -/
def cap (max : ℕ) (t : HomeTable) (reader : String) : HomeTable :=
  t.remove fun e => e.reader == reader && ((refs reader t).drop max).contains e

/-- `exists?` -/
def hasEntries (reader : String) (t : HomeTable) : Bool := t.rows.any (·.reader == reader)

/-- The newest log id of a reader. -/
def newestOf (t : HomeTable) (reader : String) : ℤ := ((refs reader t).head?.map (·.logId)).getD 0

/-- The stalest readers lose their references when there are too many readers.  `readers` are the
readers in the order in which a map lists them. -/
def sweepReaders (readerCap : ℕ) (readers : List String) (t : HomeTable) : HomeTable :=
  let count := (t.rows.map (·.reader)).eraseDups.length
  if count ≤ readerCap then t
  else
    let evicted := (readers.insertionSort fun a b => newestOf t a ≤ newestOf t b).take
      (count - readerCap)
    t.remove fun e => evicted.contains e.reader

variable {reader reader' : String} {t : HomeTable} {e x : HomeEntry} {max : ℕ}

@[simp] theorem mem_refs : e ∈ refs reader t ↔ e ∈ t.rows ∧ e.reader = reader := by
  rw [refs, mem_newest, List.mem_filter, beq_iff_eq]

theorem falling_refs (reader : String) (t : HomeTable) :
    Falling HomeEntry.logId (refs reader t) := by
  refine falling_newest ?_
  rw [List.nodup_map_iff_inj_on]
  · intro a ha b hb heq
    obtain ⟨hmema, hreadera⟩ := List.mem_filter.1 ha
    obtain ⟨hmemb, hreaderb⟩ := List.mem_filter.1 hb
    refine t.valid.eq hmema hmemb rfl rfl ?_
    rw [beq_iff_eq.1 hreadera, beq_iff_eq.1 hreaderb, heq]
  · exact t.valid.nodup.filter _

theorem hasEntries_iff : hasEntries reader t = true ↔ ∃ e, e ∈ refs reader t := by
  rw [hasEntries, List.any_eq_true]
  exact exists_congr fun e => by rw [mem_refs, beq_iff_eq]

theorem hasEntries_eq_false : hasEntries reader t = false ↔ refs reader t = [] := by
  rw [← Bool.not_eq_true, hasEntries_iff, List.eq_nil_iff_forall_not_mem, not_exists]

theorem mem_refs_add : x ∈ refs reader (add t e) ↔
    x = e ∧ e.reader = reader ∨
      x ∈ refs reader t ∧ (x.reader, x.logId) ≠ (e.reader, e.logId) := by
  rw [mem_refs, mem_refs, add, List.mem_append, List.mem_filter, List.mem_singleton,
    decide_eq_true_eq]
  constructor
  · rintro ⟨⟨hx, hne⟩ | rfl, hreader⟩
    · exact .inr ⟨⟨hx, hreader⟩, hne⟩
    · exact .inl ⟨rfl, hreader⟩
  · rintro (⟨rfl, hreader⟩ | ⟨⟨hx, hreader⟩, hne⟩)
    · exact ⟨.inr rfl, hreader⟩
    · exact ⟨.inl ⟨hx, hne⟩, hreader⟩

theorem of_mem_refs_addMany {entries : List HomeEntry} (h : x ∈ refs reader (addMany entries t)) :
    x ∈ refs reader t ∨ x ∈ entries ∧ x.reader = reader := by
  induction entries generalizing t with
  | nil => exact .inl h
  | cons e entries ih =>
    rcases ih h with hadd | ⟨hx, hreader⟩
    · rcases mem_refs_add.1 hadd with ⟨rfl, hreader⟩ | ⟨hx, -⟩
      · exact .inr ⟨List.mem_cons_self, hreader⟩
      · exact .inl hx
    · exact .inr ⟨List.mem_cons_of_mem _ hx, hreader⟩

/-- A log id stays, whichever op it is of. -/
theorem exists_refs_addMany {entries : List HomeEntry}
    (h : x ∈ refs reader t ∨ x ∈ entries ∧ x.reader = reader) :
    ∃ y ∈ refs reader (addMany entries t), y.logId = x.logId := by
  induction entries generalizing t x with
  | nil => exact ⟨x, h.resolve_right fun hx => List.not_mem_nil hx.1, rfl⟩
  | cons e entries ih =>
    have hadd : ∀ y, y ∈ refs reader t ∨ y = e ∧ e.reader = reader →
        ∃ z ∈ refs reader (add t e), z.logId = y.logId := by
      rintro y (hy | ⟨rfl, hreader⟩)
      · by_cases hkey : (y.reader, y.logId) = (e.reader, e.logId)
        · obtain ⟨hreader, hlog⟩ := Prod.mk.inj hkey
          exact ⟨e, mem_refs_add.2 (.inl ⟨rfl, hreader ▸ (mem_refs.1 hy).2⟩), hlog.symm⟩
        · exact ⟨y, mem_refs_add.2 (.inr ⟨hy, hkey⟩), rfl⟩
      · exact ⟨y, mem_refs_add.2 (.inl ⟨rfl, hreader⟩), rfl⟩
    rcases h with hx | ⟨hx, hreader⟩
    · obtain ⟨y, hy, hyx⟩ := hadd x (.inl hx)
      obtain ⟨z, hz, hzy⟩ := ih (t := add t e) (x := y) (.inl hy)
      exact ⟨z, hz, hzy.trans hyx⟩
    · rcases List.mem_cons.1 hx with rfl | hx
      · obtain ⟨y, hy, hyx⟩ := hadd x (.inr ⟨rfl, hreader⟩)
        obtain ⟨z, hz, hzy⟩ := ih (t := add t x) (x := y) (.inl hy)
        exact ⟨z, hz, hzy.trans hyx⟩
      · exact ih (.inr ⟨hx, hreader⟩)

theorem refs_addMany_of_ne {entries : List HomeEntry} (h : ∀ e ∈ entries, e.reader ≠ reader) :
    refs reader (addMany entries t) = refs reader t := by
  have hold : ∀ x, x ∈ refs reader (addMany entries t) → x ∈ refs reader t := fun x hx =>
    (of_mem_refs_addMany hx).resolve_right fun hnew => h x hnew.1 hnew.2
  refine (falling_refs _ _).eq (falling_refs _ _) fun x => ⟨hold x, fun hx => ?_⟩
  obtain ⟨y, hy, hlog⟩ := (exists_refs_addMany (.inl hx) :
    ∃ y ∈ refs reader (addMany entries t), y.logId = x.logId)
  rwa [← (falling_refs reader t).eq_of_key (hold y hy) hx hlog]

theorem refs_cap (max : ℕ) (t : HomeTable) (reader reader' : String) :
    refs reader' (cap max t reader) =
      if reader' = reader then (refs reader' t).take max else refs reader' t := by
  have hmem : ∀ e, e ∈ refs reader' (cap max t reader) ↔
      e ∈ refs reader' t ∧ ¬ (reader' = reader ∧ e ∈ (refs reader t).drop max) := by
    intro e
    rw [mem_refs, mem_refs, cap, Table.remove, List.mem_filter]
    simp only [Bool.not_eq_true', Bool.and_eq_false_iff, beq_eq_false_iff_ne, ne_eq,
      List.contains_eq_mem, decide_eq_false_iff_not]
    constructor
    · rintro ⟨⟨he, hnot⟩, rfl⟩
      exact ⟨⟨he, rfl⟩, fun h => hnot.elim (fun hne => hne h.1) fun hdrop => hdrop h.2⟩
    · rintro ⟨⟨he, rfl⟩, hnot⟩
      exact ⟨⟨he, Decidable.not_and_iff_or_not.1 hnot⟩, rfl⟩
  split
  · next heq =>
    subst heq
    refine (falling_refs _ _).eq ((falling_refs _ _).sublist (List.take_sublist _ _)) fun e => ?_
    rw [hmem]
    have hfalling := falling_refs reader' t
    rw [← List.take_append_drop max (refs reader' t)] at hfalling
    constructor
    · rintro ⟨he, hnot⟩
      rw [← List.take_append_drop max (refs reader' t)] at he
      exact (List.mem_append.1 he).resolve_right fun hdrop => hnot ⟨rfl, hdrop⟩
    · intro he
      refine ⟨List.mem_of_mem_take he, fun h => ?_⟩
      exact lt_irrefl _ ((List.pairwise_append.1 hfalling).2.2 e he e h.2)
  · next hne =>
    refine (falling_refs _ _).eq (falling_refs _ _) fun e => ?_
    rw [hmem]
    exact and_iff_left fun h => hne h.1

theorem refs_caps (max : ℕ) (t : HomeTable) (readers : List String) (reader : String) :
    refs reader (readers.foldl (cap max) t) =
      if reader ∈ readers then (refs reader t).take max else refs reader t := by
  induction readers generalizing t with
  | nil => rfl
  | cons r readers ih =>
    rw [List.foldl_cons, ih, refs_cap]
    by_cases hr : reader = r
    · rw [if_pos hr, if_pos (List.mem_cons.2 (.inl hr)), List.take_take, Nat.min_self]
      exact ite_self _
    · rw [if_neg hr]
      simp only [List.mem_cons, hr, false_or]

end HomeTimeline

/-! ### The follow graph -/

abbrev FollowEdges := List (String × String)

namespace FollowGraph

def insertEdge (edge : String × String) (g : FollowEdges) : FollowEdges :=
  if edge ∈ g then g else g ++ [edge]

def removeEdge (edge : String × String) (g : FollowEdges) : FollowEdges := g.filter (· != edge)

def followers (g : FollowEdges) (author : String) : List String :=
  (g.filter (·.2 == author)).map (·.1)

def following (g : FollowEdges) (reader : String) : List String :=
  (g.filter (·.1 == reader)).map (·.2)

/-- The author has too many followers for a fan-out. -/
def celebrity (cfg : HomeConfig) (g : FollowEdges) (author : String) : Bool :=
  decide (cfg.celebrityThreshold ≤ (followers g author).length)

variable {cfg : HomeConfig} {g : FollowEdges} {reader author author' : String}
  {edge edge' : String × String}

@[simp] theorem mem_followers : reader ∈ followers g author ↔ (reader, author) ∈ g := by
  rw [followers, List.mem_map]
  constructor
  · rintro ⟨⟨u, a⟩, hmem, rfl⟩
    obtain ⟨hmem, ha⟩ := List.mem_filter.1 hmem
    rwa [← beq_iff_eq.1 ha]
  · intro h
    exact ⟨(reader, author), List.mem_filter.2 ⟨h, beq_self_eq_true _⟩, rfl⟩

@[simp] theorem mem_following : author ∈ following g reader ↔ (reader, author) ∈ g := by
  rw [following, List.mem_map]
  constructor
  · rintro ⟨⟨u, a⟩, hmem, rfl⟩
    obtain ⟨hmem, hu⟩ := List.mem_filter.1 hmem
    rwa [← beq_iff_eq.1 hu]
  · intro h
    exact ⟨(reader, author), List.mem_filter.2 ⟨h, beq_self_eq_true _⟩, rfl⟩

@[simp] theorem mem_insertEdge : edge' ∈ insertEdge edge g ↔ edge' ∈ g ∨ edge' = edge := by
  unfold insertEdge
  split
  · next h =>
    constructor
    · exact .inl
    · rintro (hmem | rfl)
      · exact hmem
      · exact h
  · rw [List.mem_append, List.mem_singleton]

@[simp] theorem mem_removeEdge : edge' ∈ removeEdge edge g ↔ edge' ∈ g ∧ edge' ≠ edge := by
  rw [removeEdge, List.mem_filter, bne_iff_ne]

theorem celebrity_removeEdge (h : author' ≠ author) :
    celebrity cfg (removeEdge (reader, author) g) author' = celebrity cfg g author' := by
  have hsame : (removeEdge (reader, author) g).filter (·.2 == author') =
      g.filter (·.2 == author') := by
    rw [removeEdge, List.filter_filter]
    refine List.filter_congr fun e _ => ?_
    by_cases hauthor : e.2 = author'
    · have hne : e ≠ (reader, author) := fun heq => h (by rw [← hauthor, heq])
      simp [hauthor, hne]
    · simp [hauthor]
  rw [celebrity, celebrity, followers, followers, hsame]

theorem celebrity_insertEdge (h : celebrity cfg g author = true) :
    celebrity cfg (insertEdge edge g) author = true := by
  rw [celebrity, decide_eq_true_eq] at h ⊢
  refine h.trans ?_
  rw [followers, followers, List.length_map, List.length_map]
  unfold insertEdge
  split
  · exact Nat.le_refl _
  · rw [List.filter_append, List.length_append]
    exact Nat.le_add_right _ _

end FollowGraph

open FollowGraph HomeTimeline

/-! ### The fold -/

/-- What the object cache holds for an op. -/
inductive CachedItem
  | deleted
  | item (item : TimelineItem)

structure HomeState where
  projection : Projection
  edges : FollowEdges
  home : HomeTable
  itemCache : String → Option CachedItem
  authorCache : String → Option (List TimelineItem)

def HomeState.empty : HomeState := ⟨.empty, [], ⟨[], by decide⟩, fun _ => none, fun _ => none⟩

/-- The newest items of an author, for a new follower. -/
def backfill (cfg : HomeConfig) (feed : FeedTable) (follower author : String) (g : FollowEdges)
    (t : HomeTable) : HomeTable :=
  if celebrity cfg g author then t
  else
    match ((itemsOf [author] feed).take cfg.backfillLimit).map fun f =>
        HomeEntry.mk follower f.logId f.opId with
    | [] => t
    | entries => cap cfg.maxEntries (addMany entries t) follower

/-- The follow graph and the store, while the first pass over a page goes on. -/
structure HomeGraph where
  edges : FollowEdges
  home : HomeTable

/-- `fold_follow`, for the follow graph and the store. -/
def graphStep (cfg : HomeConfig) (feed : FeedTable) (g : HomeGraph) (e : Prepared) : HomeGraph :=
  match followWrite e with
  | none => g
  | some (edge, none) => { g with edges := removeEdge edge g.edges }
  | some (edge, some _) =>
    ⟨insertEdge edge g.edges,
      backfill cfg feed edge.1 edge.2 (insertEdge edge g.edges) g.home⟩

/-- The caches of the deleted items and of their authors. -/
def markDeleted (pairs : List (String × String)) (s : HomeState) : HomeState :=
  { s with
    itemCache := fun opId =>
      if s.projection.feedItems.rows.any fun f =>
          f.opId == opId && !f.deleted && pairs.contains (f.entityId, f.authorDid) then
        some .deleted
      else s.itemCache opId
    authorCache := fun did => if pairs.any (·.2 == did) then none else s.authorCache did }

/-- The item that the fold puts into the object cache: it has no canonical author, for which `""`
stands, and the names are those of its author. -/
def readMap (profiles : Profiles) (f : FeedItem) : TimelineItem :=
  { toMap profiles f with
    canonicalAuthorDid := ""
    authorHandle := (profiles f.authorDid).bind fun p => nonEmpty p.handle
    authorDisplayName := (profiles f.authorDid).bind fun p => nonEmpty p.displayName }

/-- The references that the fold writes for its rows. -/
def fanOutEntries (cfg : HomeConfig) (rows : List FeedItem) (g : FollowEdges) : List HomeEntry :=
  (rows.filter fun r => !r.deleted && !celebrity cfg g r.authorDid).flatMap fun r =>
    (followers g r.authorDid).map fun reader => ⟨reader, r.logId, r.opId⟩

def fanOut (cfg : HomeConfig) (rows : List FeedItem) (s : HomeState) : HomeState :=
  let entries := fanOutEntries cfg rows s.edges
  { s with
    itemCache := rows.foldl (fun cache r => Function.update cache r.opId
      (some (if r.deleted then .deleted else .item (readMap s.projection.profiles r)))) s.itemCache
    home := (entries.map (·.reader)).eraseDups.foldl (cap cfg.maxEntries)
      (addMany entries s.home) }

/-- The fold of a page, with its effects on the store and the caches. -/
def foldHome (P : Platform) (cfg : HomeConfig) (ops : List Op) (s : HomeState) :
    Option HomeState := do
  let page := ops.map (prepareOp P)
  let (_, projection) ← foldPrepared page s.projection
  let g := page.foldl (graphStep cfg s.projection.feedItems) ⟨s.edges, s.home⟩
  let s := markDeleted (deletionPairs page) s
  return fanOut cfg (uniqByLogId (page.filterMap contentRow))
    { s with projection, edges := g.edges, home := g.home }

/-! ### Reading -/

namespace Home

/-- An item that is read back for a reference; comments are not left out. -/
def hydratable (f : FeedItem) : Bool :=
  !f.deleted && f.sigVerified && f.visibility.all (relayable.contains ·)

/-- The items of references, from the object cache and from the table. -/
def hydrate (entries : List HomeEntry) (s : HomeState) : List TimelineItem × HomeState :=
  let hits := (entries.filterMap fun e =>
    match s.itemCache e.opId with
    | some (.item item) => some item
    | _ => none).reverse
  let misses := (entries.filter fun e => (s.itemCache e.opId).isNone).map (·.opId)
  let fetched := s.projection.feedItems.rows.filter fun f =>
    misses.contains f.opId && hydratable f
  (hits ++ fetched.map (toMap s.projection.profiles),
    { s with itemCache := fun opId =>
        match fetched.find? (·.opId == opId) with
        | some f => some (.item (toMap s.projection.profiles f))
        | none => s.itemCache opId })

/-- The list of an author, cached or queried. -/
def authorRecent (cfg : HomeConfig) (s : HomeState) (did : String) : List TimelineItem :=
  (s.authorCache did).getD (Timeline.recent cfg.authorCacheLimit s.projection did)

/-- The celebrities that a reader follows. -/
def celebrities (cfg : HomeConfig) (reader : String) (s : HomeState) : List String :=
  (following s.edges reader).filter (celebrity cfg s.edges)

/-- A page of the home timeline. -/
def home (cfg : HomeConfig) (reader : String) (cursor : Option ℤ) (limit : ℤ) (s : HomeState) :
    Timeline.Page × HomeState :=
  let n := Timeline.clampLimit limit
  let entries := range reader cursor n s.home
  if entries.isEmpty && !hasEntries reader s.home then
    let (page, t) := Timeline.forAuthors cfg.authorCacheLimit (following s.edges reader) cursor n
      ⟨s.projection, s.authorCache⟩
    (page, { s with authorCache := t.authorCache })
  else
    let (fanned, s) := hydrate entries s
    let celebs := celebrities cfg reader s
    let celebItems := (celebs.flatMap (authorRecent cfg s)).filter fun item =>
      cursor.all fun c => decide (c ≤ 0) || decide (item.logId < c)
    let merged := (newest TimelineItem.logId
      ((fanned ++ celebItems).eraseDupsBy fun a b => a.opId == b.opId)).take n
    (⟨merged, merged.getLast?.map (·.logId), decide (n ≤ merged.length)⟩,
      { s with authorCache := fun did =>
          if celebs.contains did then some (authorRecent cfg s did) else s.authorCache did })

/-- A reader who goes on as long as there are more. -/
def follow (cfg : HomeConfig) (reader : String) (limit : ℤ) :
    ℕ → Option ℤ → HomeState → Option (List TimelineItem)
  | 0, _, _ => none
  | fuel + 1, cursor, s =>
    let (page, s) := home cfg reader cursor limit s
    if page.hasMore then
      (follow cfg reader limit fuel page.nextCursor s).map (page.items ++ ·)
    else some page.items

end Home

/-! ### Runs -/

inductive HomeStep
  /-- A page of the log is folded. -/
  | fold (ops : List Op)
  /-- A page of a home timeline is read. -/
  | read (reader : String) (cursor : Option ℤ) (limit : ℤ)
  /-- A page of the timeline of some authors is read. -/
  | authors (dids : List String) (cursor : Option ℤ) (limit : ℤ)
  /-- An entry of the object cache expires. -/
  | expireItem (opId : String)
  /-- The cached list of an author expires. -/
  | expireAuthor (did : String)
  /-- The store is swept. -/
  | sweep (readers : List String)

def homeStep (P : Platform) (cfg : HomeConfig) (s : HomeState) : HomeStep → HomeState
  | .fold ops => (foldHome P cfg ops s).getD s
  | .read reader cursor limit => (Home.home cfg reader cursor limit s).2
  | .authors dids cursor limit =>
    { s with
      authorCache := (Timeline.forAuthors cfg.authorCacheLimit dids cursor limit
        ⟨s.projection, s.authorCache⟩).2.authorCache }
  | .expireItem opId => { s with itemCache := Function.update s.itemCache opId none }
  | .expireAuthor did => { s with authorCache := Function.update s.authorCache did none }
  | .sweep readers => { s with home := sweepReaders cfg.readerCap readers s.home }

end AppView

end Ansible
