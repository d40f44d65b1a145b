import Ansible.Relay.AnchorChain

/-!
# The served chain of a DID is linear

A promotion run activates its rows one after the other; when each is a recovery of the
active anchor of its own DID, the chains stay linear.  A sound table with linear chains
passes every check that serving a chain makes again.

## Main results

* `chain_linear` — **in a run of safe steps every chain is linear and served.**
-/

namespace Ansible

namespace AnchorStore

/-! ### A run of promotions -/

/-- A pending recovery of the active anchor of its DID. -/
structure Promotable (s : Relay) (r : IdentityAnchor) : Prop where
  mem : r ∈ s.identityAnchors.rows
  pending : r.state = .pending
  extends_active : ∃ a, s.activeAnchor r.did = some a ∧ r.prevAnchorCid = some a.anchorCid

variable {r a x : IdentityAnchor} {E : Env} {now : Time} {l : List IdentityAnchor}

theorem Promotable.ne_active {s : Relay} (h : Promotable s r) (ha : s.activeAnchor r.did = some a) :
    r ≠ a := by
  rintro rfl
  have := (AnchorTable.activeAnchor_eq_some.1 ha).2.2
  rw [h.pending] at this
  cases this

/-- The rows of a promotion of `r`: refused, or `r` is active and the rest of its DID is not. -/
theorem Promotable.mem_promoteOne {s : Relay} (h : Promotable s r)
    (hx : x ∈ (promoteOne E now r s).identityAnchors.rows) :
    x ∈ s.identityAnchors.rows ∨ x = r.settle .active ∨ (x.did = r.did ∧ x.state ≠ .active) := by
  obtain ⟨a, ha, -⟩ := h.extends_active
  rcases promoteOne_spec E now h.mem (h.ne_active ha) ha with hs | hmem
  · rw [hs] at hx
    exact .inl hx
  · rcases (hmem x).1 hx with rfl | rfl | ⟨hx, -, -⟩
    · exact .inr (.inl rfl)
    · exact .inr (.inr ⟨(AnchorTable.activeAnchor_eq_some.1 ha).2.1, by
        simp [IdentityAnchor.withState]⟩)
    · exact .inl hx

theorem Promotable.mem_promoteOne_other {s : Relay} (h : Promotable s r) (hne : x.did ≠ r.did) :
    x ∈ (promoteOne E now r s).identityAnchors.rows ↔ x ∈ s.identityAnchors.rows := by
  obtain ⟨a, ha, -⟩ := h.extends_active
  have had := (AnchorTable.activeAnchor_eq_some.1 ha).2.1
  rcases promoteOne_spec E now h.mem (h.ne_active ha) ha with hs | hmem
  · rw [hs]
  · rw [hmem x]
    constructor
    · rintro (rfl | rfl | ⟨hx, -, -⟩)
      · exact absurd rfl hne
      · exact absurd had hne
      · exact hx
    · intro hx
      refine .inr (.inr ⟨hx, ?_, ?_⟩)
      · rintro rfl
        exact hne rfl
      · rintro rfl
        exact hne had

theorem Promotable.keep {s : Relay} {r' : IdentityAnchor} (h : Promotable s r)
    (h' : Promotable s r') (hne : r'.did ≠ r.did) : Promotable (promoteOne E now r s) r' := by
  obtain ⟨a, ha, hprev⟩ := h'.extends_active
  refine ⟨(h.mem_promoteOne_other hne).2 h'.mem, h'.pending, a, ?_, hprev⟩
  obtain ⟨haR, had, hast⟩ := AnchorTable.activeAnchor_eq_some.1 ha
  exact AnchorTable.activeAnchor_eq_some.2
    ⟨(h.mem_promoteOne_other (had.trans_ne hne)).2 haR, had, hast⟩

/-- **A run of promotions for different DIDs keeps the chains linear**, and activates only
the rows it is about. -/
theorem foldl_promoteOne {s : Relay} (hinv : ChainInv E.toPlatform s) (hl : ∀ r ∈ l, Promotable s r)
    (hdistinct : l.Pairwise fun r r' => r'.did ≠ r.did) :
    ChainInv E.toPlatform (l.foldl (fun s r => promoteOne E now r s) s) ∧
      ∀ x ∈ (l.foldl (fun s r => promoteOne E now r s) s).identityAnchors.rows,
        x.state = .active → x ∈ s.identityAnchors.rows ∨ ∃ r ∈ l, x = r.settle .active := by
  induction l generalizing s with
  | nil => exact ⟨hinv, fun x hx _ => .inl hx⟩
  | cons r l ih =>
    have hr := hl r (by simp)
    obtain ⟨a, ha, hprev⟩ := hr.extends_active
    obtain ⟨hne, hdistinct⟩ := List.pairwise_cons.1 hdistinct
    have hone : ChainInv E.toPlatform (promoteOne E now r s) :=
      hinv.promoteOne hr.mem hr.pending ha hprev
    obtain ⟨hfold, hnew⟩ :=
      ih hone (fun r' hr' => hr.keep (hl r' (by simp [hr'])) (hne r' hr')) hdistinct
    refine ⟨hfold, fun x hx hact => ?_⟩
    rcases hnew x hx hact with hx | ⟨r', hr', rfl⟩
    · rcases hr.mem_promoteOne hx with hx | rfl | ⟨-, hx⟩
      · exact .inl hx
      · exact .inr ⟨r, by simp, rfl⟩
      · exact absurd hact hx
    · exact .inr ⟨r', by simp [hr'], rfl⟩

/-- The active rows after a promotion run were active, or extend the anchor that was. -/
def PromotionExtends (s s' : Relay) : Prop :=
  ∀ x ∈ s'.identityAnchors.rows, x.state = .active → x ∈ s.identityAnchors.rows ∨
    ∃ a, s.activeAnchor x.did = some a ∧ x.prevAnchorCid = some a.anchorCid

theorem mem_promotable {s : Relay} :
    r ∈ promotable now s ↔ r ∈ s.identityAnchors.rows ∧ r.state = .pending ∧
      r.graceUntil.any (· ≤ now) = true ∧ s.frozen r.did = false := by
  simp only [promotable, dueRows, List.mem_filter, Bool.and_eq_true, beq_iff_eq,
    Bool.not_eq_true', and_assoc]

theorem PromoteSafe.promotable {s : Relay} (h : PromoteSafe now s) (hr : r ∈ promotable now s) :
    Promotable s r :=
  ⟨(mem_promotable.1 hr).1, (mem_promotable.1 hr).2.1, (h r hr).1⟩

theorem PromoteSafe.pairwise {s : Relay} (h : PromoteSafe now s) :
    (AnchorStore.promotable now s).Pairwise fun r r' => r'.did ≠ r.did := by
  have hnodup : (AnchorStore.promotable now s).Nodup :=
    (s.identityAnchors.valid.did_anchor_cid.nodup.filter _).filter _
  refine hnodup.imp_of_mem fun {r r'} hr hr' hne hdid => ?_
  exact hne ((h r hr).2 r' hr' hdid).symm

/-- **A safe promotion run keeps the chains linear.** -/
theorem ChainInv.promoteDue {s : Relay} (h : ChainInv E.toPlatform s) (hsafe : PromoteSafe now s) :
    ChainInv E.toPlatform (AnchorStore.promoteDue E now s) ∧
      PromotionExtends s (AnchorStore.promoteDue E now s) := by
  obtain ⟨hinv, hnew⟩ :
      ChainInv E.toPlatform (AnchorStore.promoteDue E now s) ∧
        ∀ x ∈ (AnchorStore.promoteDue E now s).identityAnchors.rows, x.state = .active →
          x ∈ s.identityAnchors.rows ∨ ∃ r ∈ AnchorStore.promotable now s, x = r.settle .active :=
    foldl_promoteOne h (fun r hr => hsafe.promotable hr) hsafe.pairwise
  refine ⟨hinv, fun x hx hact => (hnew x hx hact).imp_right ?_⟩
  rintro ⟨r, hr, rfl⟩
  exact (hsafe r hr).1

theorem ChainInv.step (s : Relay) (act : AnchorAction) (h : ChainInv E.toPlatform s)
    (hsafe : ChainSafe E s act) : ChainInv E.toPlatform (anchorStep E s act) := by
  cases act with
  | submit now anchor opts => exact h.submit hsafe
  | promoteDue now => exact (h.promoteDue hsafe).1
  | veto did cid sig => exact h.veto

/-! ### Serving a chain -/

/-- The checks of the walk that read one row. -/
structure Walkable (P : Platform) (x : IdentityAnchor) : Prop where
  read : ∃ object, toObject x = some object ∧ canonicalBody object = x.canonicalBody
  cid : cidOfBody P x.canonicalBody = x.anchorCid
  root : x.prevAnchorCid = none → x.reason = .initial

/-- The walk from the first record of a linked list returns the list, last record first. -/
theorem walkChain_linked {P : Platform} {byCid : String → Option IdentityAnchor} {fuel : ℕ}
    {b : IdentityAnchor} {seen : List String} {acc : List IdentityAnchor}
    (hlinked : Linked (·.anchorCid) (·.prevAnchorCid) (b :: l)) (hwalk : ∀ x ∈ b :: l, Walkable P x)
    (hby : ∀ x ∈ l, byCid x.anchorCid = some x) (hnodup : ((b :: l).map (·.anchorCid)).Nodup)
    (hseen : ∀ x ∈ b :: l, x.anchorCid ∉ seen) (hfuel : l.length < fuel) :
    walkChain P byCid fuel (some b) seen acc = .ok ((b :: l).reverse ++ acc) := by
  induction l generalizing b fuel seen acc with
  | nil =>
    obtain ⟨fuel, rfl⟩ : ∃ n, fuel = n + 1 := ⟨fuel - 1, by simp at hfuel; omega⟩
    obtain ⟨⟨object, hread, hbody⟩, hcid, hroot⟩ := hwalk b (by simp)
    have hprev := hlinked.root b (by simp)
    simp [walkChain, hread, hbody, hcid, hprev, hroot hprev, hseen b (by simp)]
  | cons c l ih =>
    obtain ⟨fuel, rfl⟩ : ∃ n, fuel = n + 1 := ⟨fuel - 1, by simp at hfuel; omega⟩
    obtain ⟨⟨object, hread, hbody⟩, hcid, -⟩ := hwalk b (by simp)
    obtain ⟨hprev, hlinked⟩ := linked_cons_cons.1 hlinked
    rw [List.map_cons, List.nodup_cons] at hnodup
    have hrest : walkChain P byCid fuel (some c) (b.anchorCid :: seen) (b :: acc)
        = .ok ((c :: l).reverse ++ b :: acc) := by
      refine ih hlinked (fun x hx => hwalk x (List.mem_cons_of_mem b hx))
        (fun x hx => hby x (List.mem_cons_of_mem c hx)) hnodup.2 (fun x hx => ?_)
        (by simp only [List.length_cons] at hfuel; omega)
      rw [List.mem_cons, not_or]
      refine ⟨fun heq => hnodup.1 ?_, hseen x (List.mem_cons_of_mem b hx)⟩
      rw [← heq]
      exact List.mem_map_of_mem hx
    simp only [walkChain, hread, hbody, hcid, hprev, hseen b (by simp), if_false, ne_eq,
      not_true_eq_false]
    rw [hby c (by simp), hrest, List.reverse_cons (a := b), List.append_assoc]
    rfl

/-- The successors of a chain are verified when each is verified against the one before. -/
theorem verifyServedSuccessors_of_isChain {P : Platform} {b : IdentityAnchor}
    (h : (b :: l).IsChain fun p c => verifyServedSuccessor P p c = true) :
    verifyServedSuccessors P b l = true := by
  induction l generalizing b with
  | nil => rfl
  | cons c l ih =>
    obtain ⟨hbc, h⟩ := List.isChain_cons_cons.1 h
    rw [verifyServedSuccessors, hbc, ih h]
    rfl

section Served

variable {P : Platform} {s : Relay} (hsound : Sound P s.identityAnchors.rows)
include hsound

theorem Sound.walkable (hx : x ∈ s.identityAnchors.rows) : Walkable P x := by
  obtain ⟨a, hg, -, hlink⟩ := hsound x hx
  refine ⟨⟨_, hg.toObject_eq, ?_⟩, hg.cid.symm, fun hprev => ?_⟩
  · rw [canonicalBody, bodyObject_object, ← canonicalBody, hg.body]
  · rcases hlink with hi | ⟨p, -, he⟩
    · exact hi.reason
    · rw [he.link] at hprev
      cases hprev

theorem Sound.mapM_toObject (hl : ∀ x ∈ l, x ∈ s.identityAnchors.rows) :
    ∃ objects, l.mapM toObject = some objects := by
  induction l with
  | nil => exact ⟨[], rfl⟩
  | cons b l ih =>
    obtain ⟨object, hread, -⟩ := (hsound.walkable (hl b (by simp))).read
    obtain ⟨objects, hrest⟩ := ih fun x hx => hl x (List.mem_cons_of_mem b hx)
    exact ⟨object :: objects, by simp [List.mapM_cons, hread, hrest]⟩

theorem Sound.verifyServedAnchor (hx : x ∈ s.identityAnchors.rows) :
    verifyServedAnchor P x = true := by
  obtain ⟨a, hg, ha, -⟩ := hsound x hx
  exact hg.verifyServedAnchor ha

theorem Sound.verifyServedSuccessor {b p : IdentityAnchor} (hb : b ∈ s.identityAnchors.rows)
    (hp : p ∈ s.identityAnchors.rows) (hdid : b.did = p.did)
    (hprev : b.prevAnchorCid = some p.anchorCid) : verifyServedSuccessor P p b = true := by
  obtain ⟨a, hg, ha, hlink⟩ := hsound b hb
  have hext : Extends P p b := by
    rcases hlink with hi | ⟨q, hq, he⟩
    · rw [hi.prev] at hprev
      cases hprev
    · have hcid := Option.some.inj (he.link.symm.trans hprev)
      rwa [s.identityAnchors.eq_of_key hq hp (he.did.symm.trans hdid) hcid] at he
  simp [AnchorStore.verifyServedSuccessor, hext.did, hext.link, hext.reason, hext.commitment,
    hext.authorized, hg.verifyServedAnchor ha]

theorem Sound.genesis (hx : x ∈ s.identityAnchors.rows) (hprev : x.prevAnchorCid = none) :
    (toObject x).any (fun object => genesisDidSelfCertifies P object x.did) = true := by
  obtain ⟨a, hg, ha, hlink⟩ := hsound x hx
  rcases hlink with hi | ⟨p, -, he⟩
  · rw [hg.toObject_eq]
    exact hg.genesis_object ha hi.selfCertifies hi.reason
  · rw [he.link] at hprev
    cases hprev

theorem Sound.verifyServedChain {did : String} (hl : Lineage s.identityAnchors.rows did l)
    (hne : l ≠ []) : verifyServedChain P l.reverse = true := by
  have hchain : l.reverse.IsChain fun p c => AnchorStore.verifyServedSuccessor P p c = true := by
    rw [List.isChain_reverse]
    refine hl.linked.names.imp_of_mem_imp fun b p hb hp hprev => ?_
    obtain ⟨hbR, hbd, -⟩ := (hl.mem b).1 hb
    obtain ⟨hpR, hpd, -⟩ := (hl.mem p).1 hp
    exact hsound.verifyServedSuccessor hbR hpR (hbd.trans hpd.symm) hprev
  cases hrev : l.reverse with
  | nil => exact absurd (List.reverse_eq_nil_iff.1 hrev) hne
  | cons g rest =>
    have hlast : l.getLast? = some g := by rw [← List.head?_reverse, hrev]; rfl
    have hg : g ∈ s.identityAnchors.rows :=
      ((hl.mem g).1 (List.mem_of_getLast? hlast)).1
    rw [hrev] at hchain
    simp only [AnchorStore.verifyServedChain, Bool.and_eq_true]
    exact ⟨⟨hsound.genesis hg (hl.linked.root g hlast), hsound.verifyServedAnchor hg⟩,
      verifyServedSuccessors_of_isChain hchain⟩

end Served

theorem mem_servedRows {did : String} {s : Relay} :
    x ∈ servedRows did s ↔ x ∈ s.identityAnchors.rows ∧ x.did = did ∧ x.isServed = true := by
  simp [servedRows]

theorem Lineage.perm {did : String} {s : Relay} (h : Lineage s.identityAnchors.rows did l) :
    l.Perm (servedRows did s) := by
  refine (List.perm_ext_iff_of_nodup h.nodup ?_).2 fun x => (h.mem x).trans mem_servedRows.symm
  exact s.identityAnchors.valid.did_anchor_cid.nodup.filter _

theorem nodup_servedCids (did : String) (s : Relay) :
    ((servedRows did s).map (·.anchorCid)).Nodup := by
  refine List.Nodup.map_on (fun x hx y hy hcid => ?_)
    (s.identityAnchors.valid.did_anchor_cid.nodup.filter _)
  obtain ⟨hx, hxd, -⟩ := mem_servedRows.1 hx
  obtain ⟨hy, hyd, -⟩ := mem_servedRows.1 hy
  exact s.identityAnchors.eq_of_key hx hy (hxd.trans hyd.symm) hcid

theorem find_servedRows {did : String} {s : Relay} (hx : x ∈ servedRows did s) :
    (servedRows did s).find? (·.anchorCid == x.anchorCid) = some x := by
  obtain ⟨y, hy⟩ : ∃ y, (servedRows did s).find? (·.anchorCid == x.anchorCid) = some y :=
    Option.isSome_iff_exists.1 (List.find?_isSome.2 ⟨x, hx, by simp⟩)
  have hcid : y.anchorCid = x.anchorCid := by simpa using List.find?_some hy
  rw [hy, List.inj_on_of_nodup_map (nodup_servedCids did s) (List.mem_of_find?_eq_some hy) hx hcid]

/-- **A sound table with linear chains serves every chain**: the walk itself, genesis
first. -/
theorem getChain_of_inv {P : Platform} {s : Relay} (h : ChainInv P s) {did : String}
    (hfrozen : s.frozen did = false) (ha : s.activeAnchor did = some a) :
    ∃ objects, getChain P did s = .ok objects := by
  obtain ⟨l, hl⟩ := h.linear did
  obtain ⟨m, rfl, -⟩ := hl.of_active ha
  have hperm := hl.perm
  have hserved : ∀ x ∈ a :: m, x ∈ servedRows did s := fun x hx => hperm.mem_iff.1 hx
  have hmem : ∀ x ∈ a :: m, x ∈ s.identityAnchors.rows := fun x hx => ((hl.mem x).1 hx).1
  have hwalk : walkChain P (fun cid => (servedRows did s).find? (·.anchorCid == cid))
      ((servedRows did s).length + 1) (some a) [] [] = .ok ((a :: m).reverse ++ []) :=
    walkChain_linked hl.linked (fun x hx => h.sound.walkable (hmem x hx))
      (fun x hx => find_servedRows (hserved x (List.mem_cons_of_mem a hx)))
      ((hperm.map _).nodup_iff.2 (nodup_servedCids did s)) (by simp)
      (by rw [← hperm.length_eq, List.length_cons]; omega)
  rw [List.append_nil] at hwalk
  have hlen : (a :: m).reverse.length = ((servedRows did s).map (·.anchorCid)).dedup.length := by
    rw [(nodup_servedCids did s).dedup, List.length_map, List.length_reverse, hperm.length_eq]
  obtain ⟨objects, hobjects⟩ := h.sound.mapM_toObject fun x hx =>
    hmem x (List.mem_reverse.1 hx)
  refine ⟨objects, ?_⟩
  simp only [getChain, hfrozen, Bool.false_eq_true, if_false, ha, hwalk]
  rw [if_pos ⟨hlen, h.sound.verifyServedChain hl (by simp)⟩, hobjects]

/-! ### Linear chains in every run -/

/-- The walk along `prev_anchor_cid` from the active row of the DID ends at a row without a
predecessor and visits the active and superseded rows of the DID, each once. -/
def ChainLinear (s : Relay) (did : String) : Prop :=
  ∀ a, s.activeAnchor did = some a → ∃ m,
    Linked (·.anchorCid) (·.prevAnchorCid) (a :: m) ∧ (a :: m).Nodup ∧
      ∀ x, x ∈ a :: m ↔ x ∈ servedRows did s

theorem ChainInv.chainLinear {P : Platform} {s : Relay} (h : ChainInv P s) (did : String) :
    ChainLinear s did := by
  intro a ha
  obtain ⟨l, hl⟩ := h.linear did
  obtain ⟨m, rfl, -⟩ := hl.of_active ha
  exact ⟨m, hl.linked, hl.nodup, fun x => hl.perm.mem_iff⟩

theorem ChainInv.getChain_ne {P : Platform} {s : Relay} (h : ChainInv P s) (did : String) :
    getChain P did s ≠ .error .invalidChain := by
  cases hfrozen : s.frozen did with
  | true => simp [getChain, hfrozen]
  | false =>
    cases ha : s.activeAnchor did with
    | none => simp [getChain, hfrozen, ha]
    | some a =>
      obtain ⟨objects, hok⟩ := getChain_of_inv h hfrozen ha
      rw [hok]
      simp

/-- What linearity of the identity chains means in one state: every chain is linear and none is
answered as invalid. -/
structure ChainsLinear (E : Env) (s : Relay) : Prop where
  linear : ∀ did, ChainLinear s did
  served : ∀ did, getChain E.toPlatform did s ≠ .error .invalidChain

/-- In a linear chain every served row but the active one is named by a served row. -/
theorem ChainLinear.named {s : Relay} {did : String} (h : ChainLinear s did)
    (ha : s.activeAnchor did = some a) (hx : x ∈ servedRows did s) (hne : x ≠ a) :
    ∃ y ∈ servedRows did s, y.prevAnchorCid = some x.anchorCid := by
  obtain ⟨m, hlinked, -, hmem⟩ := h a ha
  obtain ⟨y, hy, hprev⟩ :=
    hlinked.named ((List.mem_cons.1 ((hmem x).2 hx)).resolve_left hne)
  exact ⟨y, (hmem y).1 hy, hprev⟩

/-- **In a run of safe steps from an empty anchor table every chain is linear and served**, and
every promotion extends the anchors that were active before it.  The invariant `ChainInv` holds
the rows sound and each DID's rows in one line, which a safe step extends at its end or leaves. -/
theorem chain_linear (E : Env) {s₀ : Relay} (h₀ : s₀.identityAnchors.rows = [])
    {acts : List AnchorAction} (h : Along (anchorStep E) (ChainSafe E) s₀ acts) :
    ChainsLinear E (exec (anchorStep E) s₀ acts) ∧
      ∀ pre now post, acts = pre ++ .promoteDue now :: post →
        PromotionExtends (exec (anchorStep E) s₀ pre)
          (promoteDue E now (exec (anchorStep E) s₀ pre)) := by
  have hinv : ∀ {acts : List AnchorAction}, Along (anchorStep E) (ChainSafe E) s₀ acts →
      ChainInv E.toPlatform (exec (anchorStep E) s₀ acts) := fun h =>
    h.invariant (fun s act hs hsafe => hs.step s act hsafe) (chainInv_of_empty h₀)
  refine ⟨⟨fun did => (hinv h).chainLinear did, fun did => (hinv h).getChain_ne did⟩, ?_⟩
  rintro pre now post rfl
  obtain ⟨hpre, hsafe, -⟩ := along_append.1 h
  exact ((hinv hpre).promoteDue hsafe).2

/-- A recovery of the active anchor is promoted after its grace window. -/
def recoveredRun : List AnchorAction :=
  [.submit 0 toyGenesis {}, .submit 0 toyRecovery {}, .promoteDue (seconds 259200)]

theorem chain_linear_recovered :
    ChainsLinear .toy (exec (anchorStep .toy) Relay.empty recoveredRun) := by
  have hsafe : Along (anchorStep .toy) (ChainSafe .toy) Relay.empty recoveredRun :=
    ⟨⟨.inl (by decide), nofun⟩, ⟨.inl (by decide), nofun⟩,
      (by show PromoteSafe _ _; decide +kernel), trivial⟩
  exact (chain_linear .toy rfl hsafe).1

/-- The anchor is rotated while a recovery of it is pending, which is promoted all the same. -/
def forkedRun : List AnchorAction :=
  [.submit 0 toyGenesis {}, .submit 0 toyRecovery {}, .submit 0 toyRotation {},
    .promoteDue (seconds 259200)]

/-- The served rows that no served row names, apart from the active one. -/
def unnamed (did : String) (s : Relay) : List IdentityAnchor :=
  (servedRows did s).filter fun x => !x.isActive &&
    (servedRows did s).all fun y => y.prevAnchorCid != some x.anchorCid

def chainError {α : Type} : Except ChainError α → Option ChainError
  | .error e => some e
  | .ok _ => none

theorem eq_error_of_chainError {α : Type} {r : Except ChainError α} {e : ChainError}
    (h : chainError r = some e) : r = .error e := by
  cases r with
  | error e' => rw [Option.some.inj h]
  | ok x => cases h

theorem not_chainLinear_of_unnamed {s : Relay} {did : String}
    (hactive : (s.activeAnchor did).isSome = true) (h : unnamed did s ≠ []) :
    ¬ ChainLinear s did := by
  intro hlin
  obtain ⟨a, ha⟩ := Option.isSome_iff_exists.1 hactive
  obtain ⟨x, hx⟩ := List.exists_mem_of_ne_nil _ h
  simp only [unnamed, List.mem_filter, Bool.and_eq_true, Bool.not_eq_true', List.all_eq_true,
    bne_iff_ne, ne_eq] at hx
  obtain ⟨hx, hinactive, hnone⟩ := hx
  obtain ⟨y, hy, hprev⟩ := hlin.named ha hx (by
    rintro rfl
    simp [IdentityAnchor.isActive, (AnchorTable.activeAnchor_eq_some.1 ha).2.2] at hinactive)
  exact hnone y hy hprev

theorem forkedRun_broken :
    ((exec (anchorStep .toy) Relay.empty forkedRun).activeAnchor "did:plc:alicealice").isSome
      = true ∧
      ((unnamed "did:plc:alicealice"
        (exec (anchorStep .toy) Relay.empty forkedRun)).isEmpty = false ∧
      chainError (getChain .toy "did:plc:alicealice" (exec (anchorStep .toy) Relay.empty forkedRun))
        = some .invalidChain) := by
  decide +kernel

/-- The promotion of a recovery that no longer names the active anchor breaks the chain. -/
theorem chain_not_linear :
    ¬ ChainLinear (exec (anchorStep .toy) Relay.empty forkedRun) "did:plc:alicealice" ∧
      getChain .toy "did:plc:alicealice" (exec (anchorStep .toy) Relay.empty forkedRun)
        = .error .invalidChain := by
  obtain ⟨hactive, hunnamed, herror⟩ := forkedRun_broken
  exact ⟨not_chainLinear_of_unnamed hactive (by
    intro h
    rw [h] at hunnamed
    cases hunnamed), eq_error_of_chainError herror⟩

end AnchorStore

end Ansible
