import Ansible.AppView.PoisonIsolation
import Ansible.Relay.OpsDelta
import Ansible.Relay.VersionAgreement

/-!
# Rebuilding the projection

The AppView folds the delta page by page while the relay goes on: ops are accepted, keys are
rotated, boards and their moderation change.  A rebuild empties the read models and folds the
whole log again, as the relay serves it by then.  The two agree on an op when it is content for
both, the relay has attached the same to it, and its deletions are behind its page in both.

## Main definitions

* `IngestSystem`, `poll`, `drain`, `rebuild` — the relay and the AppView, and the pull loop.
* `IngestAction`, `ingestStep` — the atomic steps.

## Main results

* `rebuild_reproducible_iff` — **in every run a rebuild returns the feed items that are there
  exactly when all ops are harmless and each content op is republished.**
-/

namespace Ansible

namespace AppView

/-! ### The pull loop -/

/-- The surroundings of both services, and the checks of ingestion that are not about the key of
the author. -/
structure IngestEnv where
  vp : VpEnv
  host : HostConfig
  accepts : Deployment → OpStore.Op → Bool

/-- The relay and the AppView.  A page that raises leaves the read models `none`. -/
structure IngestSystem where
  relay : Deployment
  projection : Option Projection
  cursor : ℕ
  /-- The pages since the read models were empty. -/
  pages : List (List Op)

/-- One page of the drain, and whether there are more. -/
def poll (E : IngestEnv) (now : Time) (s : IngestSystem) : Bool × IngestSystem :=
  match s.projection with
  | none => (false, s)
  | some p =>
    let (page, relay) := OpsController.delta E.host now s.cursor 500 s.relay
    let pages := s.pages ++ [page.ops]
    match applyOps E.vp.toPlatform page.ops p with
    | none => (false, { s with relay, projection := none, pages })
    | some (_, p) =>
      (page.hasMore && decide (s.cursor < page.nextCursor),
        { relay, projection := some p, pages
          cursor := if s.cursor < page.nextCursor then page.nextCursor else s.cursor })

/-- `do_drain` -/
def drain (E : IngestEnv) (now : Time) : ℕ → IngestSystem → IngestSystem
  | 0, s => s
  | pagesLeft + 1, s =>
    match poll E now s with
    | (true, s) => drain E now pagesLeft s
    | (false, s) => s

/-- `TRUNCATE TABLE`, and the cursor is reset. -/
def truncate (s : IngestSystem) : IngestSystem :=
  { s with projection := some .empty, cursor := 0, pages := [] }

/-- `Rebuilder.run` -/
def rebuild (E : IngestEnv) (now : Time) (s : IngestSystem) : IngestSystem :=
  drain E now 100000 (truncate s)

/-! ### The steps -/

inductive IngestAction
  | identity (act : IdentityAction)
  /-- The boards and their moderation change. -/
  | host (h : ForumHost)
  /-- An op that its author has signed. -/
  | submit (now : Time) (op : OpStore.Op)
  /-- An op of the web rail. -/
  | publish (op : OpStore.Op)
  | poll (now : Time)
  | rebuild (now : Time)

/-- The op ids of the log are unique. -/
def append (op : OpStore.Op) (s : Deployment) : Deployment :=
  if s.ops.any (·.opId == op.opId) then s else { s with ops := s.ops ++ [op] }

/-- The ingestion of a signed op. -/
def submit (E : IngestEnv) (now : Time) (op : OpStore.Op) (s : Deployment) : Deployment :=
  match OpsController.checkIdentity E.vp.toEnv now op.authorDid (OpsController.signingPayload op)
      op.signature s.relay with
  | (.error _, relay) => { s with relay }
  | (.ok (), relay) =>
    if E.accepts { s with relay } op then append op { s with relay } else { s with relay }

def ingestStep (E : IngestEnv) (s : IngestSystem) : IngestAction → IngestSystem
  | .identity act => { s with relay.relay := identityStep E.vp s.relay.relay act }
  | .host h => { s with relay.host := h }
  | .submit now op => { s with relay := submit E now op s.relay }
  | .publish op => { s with relay := append op s.relay }
  | .poll now => (poll E now s).2
  | .rebuild now => rebuild E now s

/-- A relay without ops and an AppView that has read nothing. -/
def IngestSystem.empty : IngestSystem := ⟨.empty, some .empty, 0, []⟩

/-- A rebuild returns, with the feed items that are there. -/
def Reproducible (E : IngestEnv) (now : Time) (s : IngestSystem) : Prop :=
  ∃ p p', s.projection = some p ∧ (rebuild E now s).projection = some p' ∧
    SameRows p.feedItems p'.feedItems

/-! ### Feed items of two sequences of pages -/

/-- The relay has attached the same to both ops, as far as a feed item shows it. -/
structure SameAttached (e e' : Prepared) : Prop where
  publicKeyHex : e'.op.publicKeyHex = e.op.publicKeyHex
  canonicalAuthorDid : e'.op.canonicalAuthorDid.getD e'.op.authorDid
    = e.op.canonicalAuthorDid.getD e.op.authorDid
  authorTier : e'.op.reputationTier.getD "basic" = e.op.reputationTier.getD "basic"

/-- The two ops are one op of the log. -/
structure SameStored (e e' : Prepared) : Prop where
  logId : e'.op.logId = e.op.logId
  opId : e'.op.opId = e.op.opId
  authorDid : e'.op.authorDid = e.op.authorDid
  entityType : e'.op.entityType = e.op.entityType
  entityId : e'.op.entityId = e.op.entityId
  opType : e'.op.opType = e.op.opType
  receivedAt : e'.op.receivedAt = e.op.receivedAt
  signature : e'.op.signature = e.op.signature
  payload : e'.payload = e.payload

/-- Each content op is content of the other pages, with the same attached to it, and a later page
deletes its entity in both or in none. -/
def Republished (A B : List (List Prepared)) : Prop :=
  ∀ e ∈ A.flatten, isContent e = true → ∃ e' ∈ B.flatten,
    e'.op.logId = e.op.logId ∧ isContent e' = true ∧ SameAttached e e' ∧
      (e.pair ∈ deletedAfter A e.op.logId ↔ e'.pair ∈ deletedAfter B e'.op.logId)

theorem row_congr {e e' : Prepared} (hstored : SameStored e e') (hattached : SameAttached e e') :
    row e' = row e := by
  have htime : itemCreatedAt e' = itemCreatedAt e := by
    rw [itemCreatedAt, hstored.payload, hstored.receivedAt, ← itemCreatedAt]
  have hcanonical := hattached.canonicalAuthorDid
  rw [hstored.authorDid] at hcanonical
  simp only [row, htime, hcanonical, hstored.payload, hattached.publicKeyHex,
    hattached.authorTier, hstored.logId, hstored.opId, hstored.authorDid, hstored.entityType,
    hstored.entityId, hstored.opType, hstored.signature]

theorem attached_of_row {e : Prepared} {c : FeedItem} (h : row e = some c) :
    c.publicKeyHex = e.op.publicKeyHex ∧
      c.canonicalAuthorDid = e.op.canonicalAuthorDid.getD e.op.authorDid ∧
      c.authorTier = e.op.reputationTier.getD "basic" := by
  simp only [row, Option.bind_eq_bind, Option.bind_eq_some_iff, Option.pure_def,
    Option.some.injEq] at h
  obtain ⟨_, -, _, -, _, -, _, -, _, -, _, -, rfl⟩ := h
  exact ⟨rfl, rfl, rfl⟩

theorem attached_hide (D : List (String × String)) (r : FeedItem) :
    (hide D r).publicKeyHex = r.publicKeyHex ∧
      (hide D r).canonicalAuthorDid = r.canonicalAuthorDid ∧
      (hide D r).authorTier = r.authorTier := by
  unfold hide
  split <;> exact ⟨rfl, rfl, rfl⟩

variable {A B : List (List Prepared)} {s : IngestSystem} {s' : Projection} {P : Platform}
  {E : IngestEnv}

theorem republished_of_sameRows {s : Projection} (hA : Folded A .empty s) (hB : Folded B .empty s')
    (hsame : SameRows s.feedItems s'.feedItems) : Republished A B := by
  intro e he hcontent
  obtain ⟨c, hc⟩ := Option.isSome_iff_exists.1 (hA.storable e he hcontent)
  have hrow := contentRow_eq_some.2 ⟨hcontent, hc⟩
  obtain ⟨e', he', c', hrow', heq⟩ := (hB.feed_empty _).1
    ((hsame _).1 ((hA.feed_empty _).2 ⟨e, he, c, hrow, rfl⟩))
  obtain ⟨hcontent', hc'⟩ := contentRow_eq_some.1 hrow'
  have hid : c.logId = c'.logId := by
    have h := congrArg FeedItem.logId heq
    rwa [logId_hide, logId_hide] at h
  refine ⟨e', he', ?_, hcontent', ⟨?_, ?_, ?_⟩, ?_⟩
  · rw [← (row_eq_some hc).logId, ← (row_eq_some hc').logId, hid]
  · rw [← (attached_of_row hc).1, ← (attached_of_row hc').1,
      ← (attached_hide (deletedAfter A e.op.logId) c).1, heq, (attached_hide _ c').1]
  · rw [← (attached_of_row hc).2.1, ← (attached_of_row hc').2.1,
      ← (attached_hide (deletedAfter A e.op.logId) c).2.1, heq, (attached_hide _ c').2.1]
  · rw [← (attached_of_row hc).2.2, ← (attached_of_row hc').2.2,
      ← (attached_hide (deletedAfter A e.op.logId) c).2.2, heq, (attached_hide _ c').2.2]
  · rw [← deleted_hide_contentRow hrow, ← deleted_hide_contentRow hrow', heq]

/-- Republished content has the same rows. -/
theorem rows_subset_of_republished {s : Projection} (hA : Folded A .empty s)
    (hB : Folded B .empty s')
    (hstored : ∀ e ∈ A.flatten, ∀ e' ∈ B.flatten, isContent e = true → isContent e' = true →
      e'.op.logId = e.op.logId → SameStored e e') (h : Republished A B) :
    s.feedItems.rows ⊆ s'.feedItems.rows := by
  intro x hx
  obtain ⟨e, he, c, hrow, rfl⟩ := (hA.feed_empty x).1 hx
  obtain ⟨hcontent, hc⟩ := contentRow_eq_some.1 hrow
  obtain ⟨e', he', hid, hcontent', hattached, hdeleted⟩ := h e he hcontent
  have hrow' : row e' = some c :=
    (row_congr (hstored e he e' he' hcontent hcontent' hid) hattached).trans hc
  refine (hB.feed_empty _).2 ⟨e', he', c, contentRow_eq_some.2 ⟨hcontent', hrow'⟩, ?_⟩
  refine hide_congr ?_
  rw [(row_eq_some hc).pair, hdeleted, ← (row_eq_some hrow').pair, (row_eq_some hc).pair]

/-- When two sequences of pages leave the same feed items. -/
theorem sameRows_iff_republished {s : Projection} (hA : Folded A .empty s) (hB : Folded B .empty s')
    (hstored : ∀ e ∈ A.flatten, ∀ e' ∈ B.flatten, isContent e = true → isContent e' = true →
      e'.op.logId = e.op.logId → SameStored e e' ∧ SameStored e' e) :
    SameRows s.feedItems s'.feedItems ↔ Republished A B ∧ Republished B A := by
  constructor
  · exact fun h => ⟨republished_of_sameRows hA hB h,
      republished_of_sameRows hB hA fun x => (h x).symm⟩
  · rintro ⟨hAB, hBA⟩ x
    constructor
    · exact fun hx => rows_subset_of_republished hA hB
        (fun e he e' he' hc hc' hid => (hstored e he e' he' hc hc' hid).1) hAB hx
    · exact fun hx => rows_subset_of_republished hB hA
        (fun e he e' he' hc hc' hid => (hstored e' he' e he hc' hc hid.symm).2) hBA hx

/-! ### Pages of the log -/

open OpsController (ServedFrom)

/-- The pages that were folded are pages of the log, one behind the other. -/
structure Tracked (P : Platform) (s : IngestSystem) : Prop where
  opIds : (s.relay.ops.map (·.opId)).Nodup
  folded : s.projection = foldPages P s.pages .empty
  served : ∀ op ∈ s.pages.flatten, ∃ r ∈ s.relay.rows, ServedFrom r op
  nodup : (s.pages.flatten.map (·.logId)).Nodup
  passed : s.projection.isSome = true → ∀ op ∈ s.pages.flatten, op.logId ≤ s.cursor

theorem row_eq_iff {s : Deployment} (h : (s.ops.map (·.opId)).Nodup) {r r' : OpStore.Op × ℕ}
    (hr : r ∈ s.rows) (hr' : r' ∈ s.rows) : r.2 = r'.2 ↔ r.1.opId = r'.1.opId := by
  have hids : (s.rows.map Prod.snd).Nodup := by
    rw [OpsController.rows_snd]
    exact List.nodup_range'
  have hops : (s.rows.map fun r => r.1.opId).Nodup := by
    have hfst : s.rows.map Prod.fst = s.ops := List.zipIdx_map_fst 1 s.ops
    rw [← hfst, List.map_map] at h
    exact h
  constructor
  · intro heq
    rw [List.inj_on_of_nodup_map hids hr hr' heq]
  · intro heq
    rw [List.inj_on_of_nodup_map hops hr hr' heq]

theorem Tracked.oneId (h : Tracked P s) : OneId s.pages.flatten := by
  intro a ha b hb
  obtain ⟨r, hr, hra⟩ := h.served a ha
  obtain ⟨r', hr', hrb⟩ := h.served b hb
  rw [hra.logId, hrb.logId, hra.opId, hrb.opId, Int.ofNat_inj]
  exact row_eq_iff h.opIds hr hr'

theorem tracked_truncate (h : (s.relay.ops.map (·.opId)).Nodup) : Tracked P (truncate s) :=
  ⟨h, rfl, fun _ hop => absurd hop List.not_mem_nil, List.nodup_nil,
    fun _ _ hop => absurd hop List.not_mem_nil⟩

theorem Tracked.relay (h : Tracked P s) {t : Deployment} (hops : (t.ops.map (·.opId)).Nodup)
    (hrows : s.relay.rows ⊆ t.rows) : Tracked P { s with relay := t } := by
  refine ⟨hops, h.folded, fun op hop => ?_, h.nodup, h.passed⟩
  obtain ⟨r, hr, hserved⟩ := h.served op hop
  exact ⟨r, hrows hr, hserved⟩

theorem rows_of_ops {s t : Deployment} (h : t.ops = s.ops) : t.rows = s.rows := by
  rw [Deployment.rows, h, ← Deployment.rows]

/-- An op that is appended has an op id of its own, and the rows stay. -/
theorem append_spec (op : OpStore.Op) {s : Deployment} (h : (s.ops.map (·.opId)).Nodup) :
    ((append op s).ops.map (·.opId)).Nodup ∧ s.rows ⊆ (append op s).rows := by
  unfold append
  split
  · exact ⟨h, List.Subset.refl _⟩
  next hnew =>
  constructor
  · rw [List.map_append, List.nodup_append]
    refine ⟨h, List.nodup_singleton _, fun i hi j hj heq => hnew ?_⟩
    obtain ⟨o, ho, rfl⟩ := List.mem_map.1 hi
    rw [List.mem_singleton.1 hj] at heq
    exact List.any_eq_true.2 ⟨o, ho, beq_iff_eq.2 heq⟩
  · rw [OpsController.rows_append]
    exact List.subset_append_left _ _

theorem submit_spec (E : IngestEnv) (now : Time) (op : OpStore.Op) {s : Deployment}
    (h : (s.ops.map (·.opId)).Nodup) :
    ((submit E now op s).ops.map (·.opId)).Nodup ∧ s.rows ⊆ (submit E now op s).rows := by
  unfold submit
  split
  · exact ⟨h, List.Subset.refl _⟩
  · split
    · next relay _ _ => exact append_spec op (s := { s with relay }) h
    · exact ⟨h, List.Subset.refl _⟩

theorem foldPages_concat (P : Platform) (pages : List (List Op)) (page : List Op)
    (s : Projection) : foldPages P (pages ++ [page]) s =
      (foldPages P pages s).bind fun p => (applyOps P page p).map (·.2) := by
  rw [foldPages, List.foldlM_append, ← foldPages]
  refine congrArg (foldPages P pages s).bind (funext fun p => ?_)
  rw [List.foldlM_cons]
  cases applyOps P page p <;> rfl

theorem Tracked.poll (h : Tracked E.vp.toPlatform s) (now : Time) :
    Tracked E.vp.toPlatform (poll E now s).2 := by
  unfold AppView.poll
  split
  · exact h
  next p hp =>
  have hpage := OpsController.Served.of_delta E.host now s.cursor 500 s.relay
  have hops := OpsController.delta_ops E.host now s.cursor 500 s.relay
  generalize OpsController.delta E.host now s.cursor 500 s.relay = r at hpage hops
  obtain ⟨page, relay⟩ := r
  dsimp only at hpage hops ⊢
  have hrows : relay.rows = s.relay.rows := rows_of_ops hops
  have hpassed := h.passed (by rw [hp]; rfl)
  have hflat : (s.pages ++ [page.ops]).flatten = s.pages.flatten ++ page.ops := by simp
  have hfolded : foldPages E.vp.toPlatform (s.pages ++ [page.ops]) .empty
      = (applyOps E.vp.toPlatform page.ops p).map (·.2) := by
    rw [foldPages_concat, ← h.folded, hp, Option.bind_some]
  have hserved : ∀ op ∈ (s.pages ++ [page.ops]).flatten, ∃ r ∈ relay.rows, ServedFrom r op := by
    rw [hflat, hrows]
    exact List.forall_mem_append.2 ⟨h.served, hpage.row⟩
  -- the new page is above the cursor, the others are not
  have hnodup : ((s.pages ++ [page.ops]).flatten.map (·.logId)).Nodup := by
    rw [hflat, List.map_append, List.nodup_append]
    refine ⟨h.nodup, hpage.nodup, fun i hi j hj => ?_⟩
    obtain ⟨a, ha, rfl⟩ := List.mem_map.1 hi
    obtain ⟨b, hb, rfl⟩ := List.mem_map.1 hj
    exact ne_of_lt ((hpassed a ha).trans_lt (hpage.above b hb))
  split
  · next hraised =>
    rw [hraised] at hfolded
    refine ⟨by rw [hops]; exact h.opIds, hfolded.symm, hserved, hnodup, fun hsome => ?_⟩
    cases hsome
  · next p' hreturned =>
    rw [hreturned] at hfolded
    refine ⟨by rw [hops]; exact h.opIds, hfolded.symm, hserved, hnodup, fun _ op hop => ?_⟩
    dsimp only at hop ⊢
    rw [hflat] at hop
    rcases List.mem_append.1 hop with hop | hop
    · refine (hpassed op hop).trans (Int.ofNat_le.2 ?_)
      split
      · next hlt => exact hlt.le
      · exact le_rfl
    · refine (hpage.upto op hop).trans (Int.ofNat_le.2 ?_)
      split
      · exact le_rfl
      · next hnot => exact not_lt.1 hnot

theorem ops_poll (E : IngestEnv) (now : Time) (s : IngestSystem) :
    (poll E now s).2.relay.ops = s.relay.ops := by
  unfold poll
  split
  · rfl
  · dsimp only
    split <;> rfl

theorem drain_induction {I : IngestSystem → Prop} {now : Time}
    (hpoll : ∀ s, I s → I (poll E now s).2) (n : ℕ) (hs : I s) : I (drain E now n s) := by
  induction n generalizing s with
  | zero => exact hs
  | succ n ih =>
    have hnext := hpoll s hs
    rw [drain]
    split
    · next hr =>
      rw [hr] at hnext
      exact ih hnext
    · next hr =>
      rw [hr] at hnext
      exact hnext

theorem tracked_rebuild (E : IngestEnv) (now : Time) (h : (s.relay.ops.map (·.opId)).Nodup) :
    Tracked E.vp.toPlatform (rebuild E now s) :=
  drain_induction (fun _ h => h.poll now) 100000 (tracked_truncate h)

theorem ops_rebuild (E : IngestEnv) (now : Time) (s : IngestSystem) :
    (rebuild E now s).relay.ops = s.relay.ops :=
  drain_induction (I := fun t => t.relay.ops = s.relay.ops)
    (fun t ht => (ops_poll E now t).trans ht) 100000 rfl

theorem tracked_step (s : IngestSystem) (act : IngestAction) (h : Tracked E.vp.toPlatform s) :
    Tracked E.vp.toPlatform (ingestStep E s act) := by
  cases act with
  | identity act => exact h.relay h.opIds (List.Subset.refl _)
  | host host => exact h.relay h.opIds (List.Subset.refl _)
  | submit now op =>
    obtain ⟨hops, hrows⟩ := submit_spec E now op h.opIds
    exact h.relay hops hrows
  | publish op =>
    obtain ⟨hops, hrows⟩ := append_spec op h.opIds
    exact h.relay hops hrows
  | poll now => exact h.poll now
  | rebuild now => exact tracked_rebuild E now h.opIds

/-! ### Rebuilds -/

/-- Content is served with the text of its row. -/
theorem sameStored_of_served {r : OpStore.Op × ℕ} {op op' : Op} (h : ServedFrom r op)
    (h' : ServedFrom r op') (hcontent : isContent (prepareOp P op) = true)
    (hcontent' : isContent (prepareOp P op') = true) :
    SameStored (prepareOp P op) (prepareOp P op') := by
  have hkept : ∀ {o : Op}, isContent (prepareOp P o) = true → o.removed = false := by
    intro o ho
    simp only [isContent, Bool.and_eq_true] at ho
    by_contra hremoved
    have hverify : verify P o = .error .moderationRemoved := by
      rw [verify, if_pos (Bool.eq_true_of_not_eq_false hremoved)]
    rw [Prepared.verified, prepareOp, hverify] at ho
    cases ho.1.1.1
  obtain ⟨hpayload, hsig⟩ := h.text (hkept hcontent)
  obtain ⟨hpayload', hsig'⟩ := h'.text (hkept hcontent')
  refine ⟨h'.logId.trans h.logId.symm, h'.opId.trans h.opId.symm,
    h'.authorDid.trans h.authorDid.symm,
    h'.entityType.trans h.entityType.symm, h'.entityId.trans h.entityId.symm,
    h'.opType.trans h.opType.symm, h'.receivedAt.trans h.receivedAt.symm,
    hsig'.trans hsig.symm, ?_⟩
  rw [prepareOp, prepareOp, hpayload, hpayload']

/-- All ops are harmless, and each content op is republished. -/
structure Agrees (P : Platform) (pages pages' : List (List Op)) : Prop where
  harmless : ∀ op ∈ pages.flatten, harmless (prepareOp P op) = true
  harmless' : ∀ op ∈ pages'.flatten, AppView.harmless (prepareOp P op) = true
  republished : Republished (prepared P pages) (prepared P pages')
  republished' : Republished (prepared P pages') (prepared P pages)

theorem Tracked.isSome_iff (h : Tracked P s) :
    s.projection.isSome = true ↔ ∀ op ∈ s.pages.flatten,
      AppView.harmless (prepareOp P op) = true := by
  rw [h.folded]
  exact foldPages_isSome_iff h.nodup h.oneId (List.Subset.refl _) fun r hr => by cases hr

theorem reproducible_iff (h : Tracked E.vp.toPlatform s) (now : Time) :
    Reproducible E now s ↔ Agrees E.vp.toPlatform s.pages (rebuild E now s).pages := by
  have h' := tracked_rebuild E now h.opIds
  have hrows : (rebuild E now s).relay.rows = s.relay.rows := rows_of_ops (ops_rebuild E now s)
  unfold Reproducible
  generalize rebuild E now s = t at h' hrows
  have hsame : ∀ {p p'}, s.projection = some p → t.projection = some p' →
      (SameRows p.feedItems p'.feedItems ↔
        Republished (prepared E.vp.toPlatform s.pages) (prepared E.vp.toPlatform t.pages) ∧
          Republished (prepared E.vp.toPlatform t.pages) (prepared E.vp.toPlatform s.pages)) := by
    intro p p' hp hp'
    refine sameRows_iff_republished (folded_of_foldPages h.nodup (h.folded ▸ hp))
      (folded_of_foldPages h'.nodup (h'.folded ▸ hp')) fun e he e' he' hc hc' hid => ?_
    rw [flatten_prepared] at he he'
    obtain ⟨op, hop, rfl⟩ := List.mem_map.1 he
    obtain ⟨op', hop', rfl⟩ := List.mem_map.1 he'
    obtain ⟨r, hr, hserved⟩ := h.served op hop
    obtain ⟨r', hr', hserved'⟩ := h'.served op' hop'
    rw [hrows] at hr'
    have hsnd : r'.2 = r.2 := by
      rw [← Int.ofNat_inj, ← hserved.logId, ← hserved'.logId]
      exact hid
    have hids : (s.relay.rows.map Prod.snd).Nodup := by
      rw [OpsController.rows_snd]
      exact List.nodup_range'
    obtain rfl := List.inj_on_of_nodup_map hids hr' hr hsnd
    exact ⟨sameStored_of_served hserved hserved' hc hc',
      sameStored_of_served hserved' hserved hc' hc⟩
  constructor
  · rintro ⟨p, p', hp, hp', hfeed⟩
    obtain ⟨hAB, hBA⟩ := (hsame hp hp').1 hfeed
    exact ⟨h.isSome_iff.1 (by rw [hp]; rfl), h'.isSome_iff.1 (by rw [hp']; rfl), hAB, hBA⟩
  · intro hagrees
    obtain ⟨p, hp⟩ := Option.isSome_iff_exists.1 (h.isSome_iff.2 hagrees.harmless)
    obtain ⟨p', hp'⟩ := Option.isSome_iff_exists.1 (h'.isSome_iff.2 hagrees.harmless')
    exact ⟨p, p', hp, hp', (hsame hp hp').2 ⟨hagrees.republished, hagrees.republished'⟩⟩

open Reputation (toyVpEnv toyDid)

def toyIngestEnv : IngestEnv := ⟨toyVpEnv, {}, fun _ _ => true⟩

/-- A murmur of Alice, without her signature. -/
def unsignedMurmur : OpStore.Op where
  opId := "a"
  authorDid := toyDid
  entityType := "murmur"
  entityId := "m"
  opType := "insert"
  payload := "\x7b\x7d"
  signature := ""
  schemaVersion := 1
  receivedAt := ""

def signedMurmur : OpStore.Op :=
  { unsignedMurmur with
    signature := toySign 1 (OpsController.signingPayload unsignedMurmur) }

/-- Alice registers and publishes a murmur, which the AppView folds; then she rotates her key. -/
def rotatedSinceRun : List IngestAction :=
  [.identity (.register 0 "nonce" (toyRegister 1 "alice")),
    .identity (.anchor 0 (toyRegistration 1 toyDid "alice.elix.cool" "nonce")),
    .submit 0 signedMurmur, .poll 0,
    .identity (.rotateKey 0 (toyKeyRotation toyDid 1 2 1))]

end AppView

end Ansible
