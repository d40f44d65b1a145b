import Ansible.Lib.Chain
import Ansible.Lib.Run
import Ansible.Relay.AnchorObject
import Ansible.Relay.AnchorRows

/-!
# The identity chain of a DID

Every accepted anchor extends the anchor that was active when it was submitted.  The
chain stays linear as long as a promotion activates a recovery of the anchor that is
active at that moment.

## Main definitions

* `AnchorAction`, `anchorStep` — the calls on the anchor store.
* `ChainInv` — sound rows in linear chains; `ChainSafe` — the steps that keep them.

## Main results

* `Accepted.extends_prev` — an accepted successor extends the anchor that was active.
* `ChainInv.submit`, `ChainInv.promoteOne`, `ChainInv.veto` — what each call preserves.
-/

namespace Ansible

namespace AnchorStore

/-! ### Calls on the store -/

inductive AnchorAction
  | submit (now : Time) (anchor : Json) (opts : SubmitOpts)
  | promoteDue (now : Time)
  | veto (did pendingAnchorCid vetoSig : String)

def anchorStep (E : Env) (s : Relay) : AnchorAction → Relay
  | .submit now anchor opts => (submit E now anchor opts s).2
  | .promoteDue now => promoteDue E now s
  | .veto did cid sig => (veto E.toPlatform did cid sig s).2

/-! ### Rows extend their predecessors -/

/-- A row passes the checks of the served chain against its predecessor. -/
structure Extends (P : Platform) (p c : IdentityAnchor) : Prop where
  did : c.did = p.did
  link : c.prevAnchorCid = some p.anchorCid
  reason : servedReasonMatchesTransition p c = true
  commitment : v1CommitmentContinues P p c = true
  authorized : servedTransitionAuthorized P p c = true

variable {P : Platform} {c x n : IdentityAnchor} {a sig : Json} {rows rows' l : List IdentityAnchor}
  {did : String} {t : AnchorTable} {body : Text}

theorem extends_content {p : IdentityAnchor} : Extends P p.content c.content ↔ Extends P p c :=
  ⟨fun h => ⟨h.did, h.link, h.reason, h.commitment, h.authorized⟩,
    fun h => ⟨h.did, h.link, h.reason, h.commitment, h.authorized⟩⟩

theorem isRowOf_content : IsRowOf a c.content ↔ IsRowOf a c :=
  ⟨fun h => ⟨h.did_not_blank, h.prev, h.identityKey, h.algorithm, h.commitment, h.handle, h.custody,
      h.version, h.devices, h.sig, h.deviceSig⟩,
    fun h => ⟨h.did_not_blank, h.prev, h.identityKey, h.algorithm, h.commitment,
      h.handle, h.custody,
      h.version, h.devices, h.sig, h.deviceSig⟩⟩

theorem genuine_content : Genuine P a c.content ↔ Genuine P a c :=
  ⟨fun h => ⟨isRowOf_content.1 h.toIsRowOf, h.did, h.reason, h.body, h.determined, h.cid,
      h.attested, h.selfSigned, h.valid, h.matchesDid⟩,
    fun h => ⟨isRowOf_content.2 h.toIsRowOf, h.did, h.reason, h.body, h.determined, h.cid,
      h.attested, h.selfSigned, h.valid, h.matchesDid⟩⟩

/-- A genesis row of the anchor `a`. -/
structure IsGenesis (P : Platform) (a : Json) (c : IdentityAnchor) : Prop where
  prev : c.prevAnchorCid = none
  reason : c.reason = .initial
  selfCertifies : genesisDidSelfCertifies P a c.did = true

theorem isGenesis_content : IsGenesis P a c.content ↔ IsGenesis P a c :=
  ⟨fun h => ⟨h.prev, h.reason, h.selfCertifies⟩, fun h => ⟨h.prev, h.reason, h.selfCertifies⟩⟩

/-- Every row holds an anchor that can be read back, and is a genesis or extends a row. -/
def Sound (P : Platform) (rows : List IdentityAnchor) : Prop :=
  ∀ c ∈ rows, ∃ a, Genuine P a c ∧ AlgorithmServed a ∧
    (IsGenesis P a c ∨ ∃ p ∈ rows, Extends P p c)

theorem Sound.evolved (h : Sound P rows) (he : Evolved rows rows') : Sound P rows' := by
  intro c' hc'
  obtain ⟨c, hc, hcc⟩ := he.old c' hc'
  obtain ⟨a, hg, ha, hlink⟩ := h c hc
  refine ⟨a, genuine_content.1 (hcc ▸ genuine_content.2 hg), ha, ?_⟩
  rcases hlink with hi | ⟨p, hp, hext⟩
  · exact .inl (isGenesis_content.1 (hcc ▸ isGenesis_content.2 hi))
  · obtain ⟨p', hp', hpp⟩ := he.kept p hp
    exact .inr ⟨p', hp', extends_content.1 (hpp ▸ hcc ▸ extends_content.2 hext)⟩

theorem Sound.append (h : Sound P rows) (hg : Genuine P a c) (ha : AlgorithmServed a)
    (hlink : IsGenesis P a c ∨ ∃ p ∈ rows, Extends P p c) : Sound P (rows ++ [c]) := by
  intro x hx
  rcases List.mem_append.1 hx with hx | hx
  · obtain ⟨b, hgb, hb, hl⟩ := h x hx
    exact ⟨b, hgb, hb, hl.imp_right fun ⟨p, hp, he⟩ => ⟨p, List.mem_append_left _ hp, he⟩⟩
  · obtain rfl := List.mem_singleton.1 hx
    exact ⟨a, hg, ha, hlink.imp_right fun ⟨p, hp, he⟩ => ⟨p, List.mem_append_left _ hp, he⟩⟩

/-! ### The walk over the served rows of a DID -/

/-- `l` is the walk from the active row of the DID, and covers its served rows. -/
structure Lineage (rows : List IdentityAnchor) (did : String) (l : List IdentityAnchor) : Prop where
  linked : Linked (·.anchorCid) (·.prevAnchorCid) l
  mem : ∀ x, x ∈ l ↔ x ∈ rows ∧ x.did = did ∧ x.isServed = true
  head : ∀ x ∈ l, x.state = .active ↔ l.head? = some x

theorem isServed_of_active (h : x.state = .active) : x.isServed = true := by
  simp [IdentityAnchor.isServed, h]

theorem Lineage.congr (h : Lineage rows did l)
    (hmem : ∀ x, x ∈ rows' ∧ x.did = did ∧ x.isServed = true ↔
      x ∈ rows ∧ x.did = did ∧ x.isServed = true) : Lineage rows' did l :=
  ⟨h.linked, fun x => (h.mem x).trans (hmem x).symm, h.head⟩

theorem Lineage.nodup (h : Lineage t.rows did l) : l.Nodup := by
  refine h.linked.nodup fun b hb c hc hkey => ?_
  obtain ⟨hb, hbd, -⟩ := (h.mem b).1 hb
  obtain ⟨hc, hcd, -⟩ := (h.mem c).1 hc
  exact t.eq_of_key hb hc (hbd.trans hcd.symm) hkey

theorem Lineage.of_active {a : IdentityAnchor} (h : Lineage t.rows did l)
    (ha : t.activeAnchor did = some a) : ∃ m, l = a :: m ∧ a ∉ m := by
  obtain ⟨haR, had, hast⟩ := AnchorTable.activeAnchor_eq_some.1 ha
  have hal : a ∈ l := (h.mem a).2 ⟨haR, had, isServed_of_active hast⟩
  have hhead := (h.head a hal).1 hast
  have hnodup := h.nodup
  cases l with
  | nil => cases hhead
  | cons b m =>
    cases hhead
    exact ⟨m, rfl, (List.nodup_cons.1 hnodup).1⟩

theorem Lineage.of_none (h : Lineage t.rows did l) (hnone : t.activeAnchor did = none) :
    l = [] := by
  cases l with
  | nil => rfl
  | cons b m =>
    have hb := (h.mem b).1 (by simp)
    have := (h.head b (by simp)).2 rfl
    exact absurd this (AnchorTable.activeAnchor_eq_none.1 hnone b hb.1 hb.2.1)

theorem lineage_root (hprev : n.prevAnchorCid = none) (hstate : n.state = .active)
    (hmem : ∀ x, x ∈ rows ∧ x.did = did ∧ x.isServed = true ↔ x = n) : Lineage rows did [n] where
  linked := linked_singleton hprev
  mem x := by rw [hmem x, List.mem_singleton]
  head x hx := by
    obtain rfl := List.mem_singleton.1 hx
    simp [hstate]

/-- A new active row on top of the one it supersedes. -/
theorem Lineage.push {a : IdentityAnchor} {m : List IdentityAnchor} (h : Lineage rows did (a :: m))
    (ham : a ∉ m) (hprev : n.prevAnchorCid = some a.anchorCid) (hstate : n.state = .active)
    (hmem : ∀ x, x ∈ rows' ∧ x.did = did ∧ x.isServed = true ↔
      x = n ∨ x = a.withState .superseded ∨ x ∈ m) :
    Lineage rows' did (n :: a.withState .superseded :: m) where
  linked := by
    refine linked_cons_cons.2 ⟨hprev, ?_⟩
    cases m with
    | nil => exact linked_singleton (h.linked.root a (by simp))
    | cons b m =>
      obtain ⟨hb, hm⟩ := linked_cons_cons.1 h.linked
      exact linked_cons_cons.2 ⟨hb, hm⟩
  mem x := by rw [hmem x, List.mem_cons, List.mem_cons]
  head x hx := by
    have hold : ∀ y, y = a.withState .superseded ∨ y ∈ m → y.state ≠ .active := by
      rintro y (rfl | hy) hact
      · cases hact
      · have := (h.head y (by simp [hy])).1 hact
        obtain rfl := Option.some.inj this
        exact ham hy
    rw [List.head?_cons, Option.some.injEq]
    rw [List.mem_cons, List.mem_cons] at hx
    rcases hx with rfl | hx
    · simp [hstate]
    · constructor
      · intro hact
        exact absurd hact (hold x hx)
      · rintro rfl
        exact hstate

/-! ### What an accepted anchor extends -/

/-- The recovery proof that a submission stores is verified again when the chain is served:
one that a recovery code let through unverified breaks the chain. -/
def ProofServed (E : Env) (s : Relay) (anchor : Json) (opts : SubmitOpts) : Prop :=
  opts.recoveryAuthorized = true →
    castText (proofOf anchor opts) = .ok none ∨ ∀ did prev, anchor.fetch "did" = .str did →
      s.activeAnchor did = some prev →
      activeAuthoritySigned E.toPlatform prev (canonicalBody anchor) (proofOf anchor opts) = true

theorem not_blank_of_verify {alg key : Json} {message : Text}
    (h : verify P alg key message sig = true) : ∃ t, sig = .str t ∧ isBlank t = false := by
  unfold verify at h
  split at h
  · next a k t => exact ⟨t, rfl, SigVerifier.isBlank_of_verifyIdentity h⟩
  · cases h

theorem not_blank_of_activeAuthoritySigned {prev : IdentityAnchor}
    (h : activeAuthoritySigned P prev body sig = true) : ∃ t, sig = .str t ∧ isBlank t = false := by
  unfold activeAuthoritySigned at h
  split at h
  · cases h
  · cases h
  · rcases Bool.or_eq_true _ _ ▸ h with h | h
    · exact not_blank_of_verify h
    · obtain ⟨key, -, hk⟩ := List.any_eq_true.1 h
      exact not_blank_of_verify hk

theorem castText_of_authority {prev : IdentityAnchor} {stored : Option String}
    (h : activeAuthoritySigned P prev body sig = true) (hc : castText sig = .ok stored) :
    textOrNull stored = sig ∧ stored ≠ none := by
  obtain ⟨t, rfl, ht⟩ := not_blank_of_activeAuthoritySigned h
  rw [castText_of_not_blank ht] at hc
  cases hc
  exact ⟨rfl, by simp⟩

theorem activeAuthoritySigned_of_verify {prev : IdentityAnchor}
    (h : verify P (.str prev.identityKeyAlgorithm) (.str prev.identityKey) body sig = true) :
    activeAuthoritySigned P prev body sig = true := by
  obtain ⟨t, rfl, ht⟩ := not_blank_of_verify h
  unfold activeAuthoritySigned
  split
  · next heq => cases heq
  · next heq =>
    cases heq
    exact absurd ht (by decide)
  · rw [h, Bool.true_or]

theorem sameKey_eq {anchor : Json} {row prev : IdentityAnchor} (h : IsRowOf anchor row) :
    sameKey anchor prev = (prev.identityKeyAlgorithm == row.identityKeyAlgorithm &&
      prev.identityKey == row.identityKey) := by
  rw [sameKey, h.algorithm, h.identityKey, Json.eqv, Json.eqv, Bool.beq_comm,
    Bool.beq_comm (a := row.identityKey)]

theorem isBlank_cidOfBody (P : Platform) (body : Text) : isBlank (cidOfBody P body) = false := by
  rw [isBlank, cidOfBody, chars_ofList]
  rfl

theorem Genuine.cid_not_blank {row : IdentityAnchor} (h : Genuine P a row) :
    isBlank row.anchorCid = false := by
  rw [h.cid]
  exact isBlank_cidOfBody P _

section Extending

variable {E : Env} {anchor : Json} {opts : SubmitOpts} {s : Relay} {row prev : IdentityAnchor}
  (h : Accepted E anchor opts s row)
include h

theorem Accepted.genesis (hprev : anchor.fetch "prev_anchor_cid" = .null)
    (hreason : row.reason = .initial)
    (hself : genesisDidSelfCertifies E.toPlatform anchor row.did = true) :
    IsGenesis E.toPlatform anchor row := by
  refine ⟨?_, hreason, hself⟩
  have hp := h.prev
  rw [hprev] at hp
  exact (Except.ok.inj hp).symm

theorem Accepted.link (hlink : anchor.fetch "prev_anchor_cid" = .str prev.anchorCid)
    (hcid : isBlank prev.anchorCid = false) : row.prevAnchorCid = some prev.anchorCid := by
  have hp := h.prev
  rw [hlink, castText_of_not_blank hcid] at hp
  exact (Except.ok.inj hp).symm

theorem Accepted.commitment_eq (h4 : 4 ≤ schemaVersion anchor) :
    row.genesisCommitment.getD .null = anchor.fetch "genesis_commitment" := by
  have hc := h.commitment
  have hobj := DidElix.isObj_of_validate ((validateProtocol_eq_ok h.protocol).valid h4)
  cases hj : anchor.fetch "genesis_commitment" with
  | obj f =>
    rw [hj] at hc
    rw [← Except.ok.inj hc]
    rfl
  | _ => simp [hj, Json.isObj] at hobj

/-- The commitment of an accepted successor continues that of the anchor it follows. -/
theorem Accepted.commitmentContinues (hreason : row.reason ≠ .initial)
    (hactive : s.activeAnchor row.did = some prev) :
    v1CommitmentContinues E.toPlatform prev row = true := by
  have hp := validateProtocol_eq_ok h.protocol
  have hversion := h.version
  unfold v1CommitmentContinues
  by_cases h4 : 4 ≤ schemaVersion anchor
  · have ht := hp.transition h4
    have hvalid := hp.valid h4
    have hm := hp.matchesDid h4
    have hgc := h.commitment_eq h4
    rw [if_neg hreason, hactive, v1TransitionOk_some hreason] at ht
    simp only [Bool.and_eq_true, beq_iff_eq] at ht
    have hrow : row.schemaVersion = 4 := by
      have := hp.upper
      omega
    rw [if_pos (by omega), hgc]
    simp only [Bool.and_eq_true, beq_iff_eq]
    exact ⟨⟨hrow, ht.2⟩, hm⟩
  · have := hp.noDrop (by omega) hreason prev hactive
    rw [if_neg (by omega)]
    simpa [hversion] using h4

/-- An accepted successor extends the anchor that was active. -/
theorem Accepted.extends_prev (hentered : Entered E.toPlatform anchor opts s row rows)
    (hactive : s.activeAnchor row.did = some prev) (hcid : isBlank prev.anchorCid = false)
    (hproof : ProofServed E s anchor opts) : Extends E.toPlatform prev row := by
  have hdid : row.did = prev.did := (AnchorTable.activeAnchor_eq_some.1 hactive).2.1.symm
  cases hentered with
  | initial _ _ _ hnone => rw [hactive] at hnone; cases hnone
  | @rotation p hreason hp hlink hkey hsig hstate =>
    obtain rfl : prev = p := Option.some.inj (hactive.symm.trans hp)
    refine ⟨hdid, h.link hlink hcid, ?_, h.commitmentContinues (by simp [hreason]) hactive, ?_⟩
    · rw [sameKey_eq h.toIsRowOf] at hkey
      simp [servedReasonMatchesTransition, hreason, hkey]
    · have hauth := activeAuthoritySigned_of_verify hsig
      obtain ⟨hstored, hne⟩ := castText_of_authority hauth h.deviceSig
      simp [servedTransitionAuthorized, hreason, hstored, hauth]
  | @deviceChange p hreason hp hlink hkey hcustody hsig hstate =>
    obtain rfl : prev = p := Option.some.inj (hactive.symm.trans hp)
    refine ⟨hdid, h.link hlink hcid, ?_, h.commitmentContinues (by simp [hreason]) hactive, ?_⟩
    · rw [sameKey_eq h.toIsRowOf] at hkey
      rw [h.custody, Json.eqv, beq_iff_eq] at hcustody
      simp only [servedReasonMatchesTransition, hreason, hcustody]
      simpa using hkey
    · obtain ⟨hstored, hne⟩ := castText_of_authority hsig h.deviceSig
      simp [servedTransitionAuthorized, hreason, hstored, hsig]
  | @recovery p hreason hp hlink hkey hauth hstate =>
    obtain rfl : prev = p := Option.some.inj (hactive.symm.trans hp)
    refine ⟨hdid, h.link hlink hcid, ?_, h.commitmentContinues (by simp [hreason]) hactive, ?_⟩
    · simp only [servedReasonMatchesTransition, hreason, h.version]
      by_cases h4 : 4 ≤ schemaVersion anchor
      · have := hkey h4
        rw [sameKey_eq h.toIsRowOf] at this
        simp [this]
      · simp [show schemaVersion anchor < 4 by omega]
    · have hc := h.authorizationSig
      rw [if_pos hreason] at hc
      unfold servedTransitionAuthorized
      rw [if_pos hreason]
      -- a recovery without a stored signature is served below version 4 alone
      have hstoredCase : (row.authorizationSig = none ∧ row.schemaVersion < 4) ∨
          activeAuthoritySigned E.toPlatform prev row.canonicalBody
            (proofOf anchor opts) = true := by
        rcases hauth with ⟨hlt, hcode⟩ | hauth
        · rcases hproof hcode with hnone | hsigned
          · rw [hnone] at hc
            exact .inl ⟨(Except.ok.inj hc).symm, by rw [h.version]; exact hlt⟩
          · rw [h.body]
            exact .inr (hsigned row.did prev h.did hactive)
        · exact .inr hauth
      rcases hstoredCase with ⟨hnone, hlt⟩ | hauth
      · simp [hnone, hlt, hreason]
      · obtain ⟨hstored, hne⟩ := castText_of_authority hauth hc
        simp [hne, hstored, hauth]

end Extending

/-! ### The invariant and its steps -/

/-- Sound rows in linear chains. -/
structure ChainInv (P : Platform) (s : Relay) : Prop where
  sound : Sound P s.identityAnchors.rows
  linear : ∀ did, ∃ l, Lineage s.identityAnchors.rows did l

theorem chainInv_of_empty {s : Relay} (h : s.identityAnchors.rows = []) :
    ChainInv P s where
  sound := by rw [h]; simp [Sound]
  linear did := ⟨[], linked_nil, by simp [h], by simp⟩

/-- A submission whose anchor can be served again. -/
structure SubmitSafe (E : Env) (s : Relay) (anchor : Json) (opts : SubmitOpts) : Prop where
  algorithm : AlgorithmServed anchor
  proof : ProofServed E s anchor opts

/-- Each recovery that is promoted names the active anchor of its DID and is the only one
of that DID. -/
def PromoteSafe (now : Time) (s : Relay) : Prop :=
  ∀ r ∈ promotable now s,
    (∃ a, s.activeAnchor r.did = some a ∧ r.prevAnchorCid = some a.anchorCid) ∧
      ∀ r' ∈ promotable now s, r'.did = r.did → r' = r

instance (now : Time) (s : Relay) : Decidable (PromoteSafe now s) :=
  decidable_of_iff (∀ r ∈ promotable now s,
    ((s.activeAnchor r.did).any fun a => r.prevAnchorCid == some a.anchorCid) = true ∧
      ∀ r' ∈ promotable now s, r'.did = r.did → r'.anchorCid = r.anchorCid) <| by
  have hmem : ∀ {r}, r ∈ promotable now s → r ∈ s.identityAnchors.rows := fun hr =>
    List.mem_of_mem_filter (List.mem_of_mem_filter hr)
  refine forall₂_congr fun r hr => and_congr ?_ (forall₂_congr fun r' hr' => ?_)
  · simp only [Option.any_eq_true, beq_iff_eq]
  · refine forall_congr' fun hdid => ⟨fun hcid => ?_, fun h => by rw [h]⟩
    exact s.identityAnchors.eq_of_key (hmem hr') (hmem hr) hdid hcid

/-- The condition on one call, in the state before it. -/
def ChainSafe (E : Env) (s : Relay) : AnchorAction → Prop
  | .submit _ anchor opts => SubmitSafe E s anchor opts
  | .promoteDue now => PromoteSafe now s
  | .veto .. => True

theorem not_served_of_pending (h : x.state = .pending) : x.isServed = false := by
  simp [IdentityAnchor.isServed, h]

theorem lineage_append_pending {row : IdentityAnchor} (h : Lineage rows did l)
    (hstate : row.state = .pending) : Lineage (rows ++ [row]) did l := by
  refine h.congr fun x => ?_
  rw [List.mem_append, List.mem_singleton]
  constructor
  · rintro ⟨hx | rfl, hd, hs⟩
    · exact ⟨hx, hd, hs⟩
    · rw [not_served_of_pending hstate] at hs
      cases hs
  · rintro ⟨hx, hd, hs⟩
    exact ⟨.inl hx, hd, hs⟩

theorem lineage_genesis {row : IdentityAnchor} (hlin : ∀ did, ∃ l, Lineage t.rows did l)
    (hnone : t.activeAnchor row.did = none) (hprev : row.prevAnchorCid = none)
    (hstate : row.state = .active) (did : String) : ∃ l, Lineage (t.rows ++ [row]) did l := by
  obtain ⟨l, hl⟩ := hlin did
  by_cases hd : did = row.did
  · subst hd
    refine ⟨[row], lineage_root hprev hstate fun x => ?_⟩
    have hempty := hl.of_none hnone
    rw [List.mem_append, List.mem_singleton]
    constructor
    · rintro ⟨hx | rfl, hxd, hxs⟩
      · have := (hl.mem x).2 ⟨hx, hxd, hxs⟩
        simp [hempty] at this
      · rfl
    · rintro rfl
      exact ⟨.inr rfl, rfl, isServed_of_active hstate⟩
  · refine ⟨l, hl.congr fun x => ?_⟩
    rw [List.mem_append, List.mem_singleton]
    constructor
    · rintro ⟨hx | rfl, hxd, hxs⟩
      · exact ⟨hx, hxd, hxs⟩
      · exact absurd hxd.symm hd
    · rintro ⟨hx, hxd, hxs⟩
      exact ⟨.inl hx, hxd, hxs⟩

/-- A new active row on top of the active one: the rows of other DIDs stay, those of its own
DID are the new row, the superseded one and the rest.  `gone` is a row that is not served
and may be replaced. -/
theorem lineage_extend {a : IdentityAnchor} (hlin : ∀ did, ∃ l, Lineage t.rows did l)
    (ha : t.activeAnchor n.did = some a) (hprev : n.prevAnchorCid = some a.anchorCid)
    (hstate : n.state = .active) (gone : IdentityAnchor → Prop)
    (hgone : ∀ x, gone x → x.isServed = false)
    (hmem : ∀ x, x ∈ rows' ↔ x = n ∨ x = a.withState .superseded ∨ (x ∈ t.rows ∧ ¬ gone x ∧ x ≠ a))
    (did : String) : ∃ l, Lineage rows' did l := by
  obtain ⟨l, hl⟩ := hlin did
  have hserved : ∀ {x : IdentityAnchor}, x.isServed = true → ¬ gone x := by
    intro x hx hg
    rw [hgone x hg] at hx
    cases hx
  obtain ⟨haR, had, hast⟩ := AnchorTable.activeAnchor_eq_some.1 ha
  by_cases hd : did = n.did
  · subst hd
    obtain ⟨m, rfl, ham⟩ := hl.of_active ha
    refine ⟨_, hl.push ham hprev hstate fun x => ?_⟩
    rw [hmem x]
    constructor
    · rintro ⟨rfl | rfl | ⟨hx, -, hxa⟩, hxd, hxs⟩
      · exact .inl rfl
      · exact .inr (.inl rfl)
      · have := (hl.mem x).2 ⟨hx, hxd, hxs⟩
        exact .inr (.inr ((List.mem_cons.1 this).resolve_left hxa))
    · rintro (rfl | rfl | hx)
      · exact ⟨.inl rfl, rfl, isServed_of_active hstate⟩
      · exact ⟨.inr (.inl rfl), had, rfl⟩
      · obtain ⟨hxR, hxd, hxs⟩ := (hl.mem x).1 (List.mem_cons_of_mem a hx)
        refine ⟨.inr (.inr ⟨hxR, hserved hxs, ?_⟩), hxd, hxs⟩
        rintro rfl
        exact ham hx
  · -- the chains of the other DIDs keep their rows
    refine ⟨l, hl.congr fun x => ?_⟩
    rw [hmem x]
    constructor
    · rintro ⟨rfl | rfl | ⟨hx, -, -⟩, hxd, hxs⟩
      · exact absurd hxd.symm hd
      · exact absurd (hxd.symm.trans had) hd
      · exact ⟨hx, hxd, hxs⟩
    · rintro ⟨hx, hxd, hxs⟩
      refine ⟨.inr (.inr ⟨hx, hserved hxs, ?_⟩), hxd, hxs⟩
      rintro rfl
      exact hd (hxd.symm.trans had)

/-- The active row of a DID, as a submission that follows it leaves it. -/
theorem mem_superseding_append {row prev : IdentityAnchor}
    (hactive : t.activeAnchor row.did = some prev) :
    x ∈ superseding row.did prev.anchorCid t.rows ++ [row] ↔
      x = row ∨ x = prev.withState .superseded ∨ (x ∈ t.rows ∧ ¬ False ∧ x ≠ prev) := by
  obtain ⟨hR, hd, -⟩ := AnchorTable.activeAnchor_eq_some.1 hactive
  rw [List.mem_append, List.mem_singleton, ← hd, mem_superseding hR, or_comm]
  simp only [not_false_eq_true, true_and]

theorem ChainInv.cid_not_blank {s : Relay} (h : ChainInv P s) {a : IdentityAnchor}
    (ha : s.activeAnchor did = some a) : isBlank a.anchorCid = false := by
  obtain ⟨_, hg, -⟩ := h.sound a (AnchorTable.activeAnchor_eq_some.1 ha).1
  exact hg.cid_not_blank

/-- **A safe submission keeps the chains linear.** -/
theorem ChainInv.submit {E : Env} {now : Time} {anchor : Json} {opts : SubmitOpts} {s : Relay}
    (h : ChainInv E.toPlatform s) (hsafe : SubmitSafe E s anchor opts) :
    ChainInv E.toPlatform (AnchorStore.submit E now anchor opts s).2 := by
  rcases submit_cases E now anchor opts s with ⟨_, -, hs⟩ | ⟨row, -, -, -, hacc, hent⟩
  · rw [hs]
    exact h
  generalize (AnchorStore.submit E now anchor opts s).2 = s' at hent ⊢
  generalize hrows : s'.identityAnchors.rows = rows' at hent
  have hext : ∀ {prev}, s.activeAnchor row.did = some prev → Extends E.toPlatform prev row :=
    fun hp => hacc.extends_prev hent hp (h.cid_not_blank hp) hsafe.proof
  -- a rotation and a device change replace the active anchor
  have hswap : ∀ {prev}, s.activeAnchor row.did = some prev → row.state = .active →
      rows' = superseding row.did prev.anchorCid s.identityAnchors.rows ++ [row] →
      ChainInv E.toPlatform s' := by
    intro prev hp hstate heq
    have hext' : Extends E.toPlatform (prev.withState .superseded) row := by
      have := extends_content.2 (hext hp)
      exact extends_content.1 this
    refine ⟨?_, ?_⟩
    · rw [hrows, heq]
      obtain ⟨hR, hd, -⟩ := AnchorTable.activeAnchor_eq_some.1 hp
      exact (h.sound.evolved (evolved_superseding ..)).append hacc.genuine hsafe.algorithm
        (.inr ⟨prev.withState .superseded, hd ▸ (mem_superseding hR).2 (.inl rfl), hext'⟩)
    · rw [hrows, heq]
      exact lineage_extend h.linear hp (hext hp).link hstate (fun _ => False) (by simp)
        fun x => mem_superseding_append hp
  cases hent with
  | initial hreason hprev hself hnone hstate =>
    have hgen := hacc.genesis hprev hreason hself
    refine ⟨?_, ?_⟩
    · rw [hrows]
      exact h.sound.append hacc.genuine hsafe.algorithm (.inl hgen)
    · rw [hrows]
      exact lineage_genesis h.linear hnone hgen.prev hstate
  | rotation hreason hp hlink hkey hsig hstate => exact hswap hp hstate rfl
  | deviceChange hreason hp hlink hkey hcustody hsig hstate => exact hswap hp hstate rfl
  | recovery hreason hp hlink hkey hauth hstate =>
    refine ⟨?_, fun did => ?_⟩
    · rw [hrows]
      exact h.sound.append hacc.genuine hsafe.algorithm
        (.inr ⟨_, (AnchorTable.activeAnchor_eq_some.1 hp).1, hext hp⟩)
    · rw [hrows]
      obtain ⟨l, hl⟩ := h.linear did
      exact ⟨l, lineage_append_pending hl hstate⟩

/-- **The promotion of a recovery of the active anchor keeps the chains linear.** -/
theorem ChainInv.promoteOne {E : Env} {now : Time} {r a : IdentityAnchor} {s : Relay}
    (h : ChainInv E.toPlatform s) (hr : r ∈ s.identityAnchors.rows) (hpend : r.state = .pending)
    (ha : s.activeAnchor r.did = some a) (hprev : r.prevAnchorCid = some a.anchorCid) :
    ChainInv E.toPlatform (AnchorStore.promoteOne E now r s) := by
  have hra : r ≠ a := by
    rintro rfl
    have := (AnchorTable.activeAnchor_eq_some.1 ha).2.2
    rw [hpend] at this
    cases this
  rcases promoteOne_spec E now hr hra ha with hs | hmem
  · rw [hs]
    exact h
  refine ⟨h.sound.evolved (promoteOne_evolved E now r s).2, ?_⟩
  refine lineage_extend (n := r.settle .active) h.linear ha hprev rfl (fun x => x = r) ?_ hmem
  rintro x rfl
  exact not_served_of_pending hpend

/-- A veto of a pending row leaves the served rows as they are. -/
theorem ChainInv.veto {cid sig : String} {s : Relay} (h : ChainInv P s) :
    ChainInv P (AnchorStore.veto P did cid sig s).2 := by
  unfold AnchorStore.veto
  split
  · exact h
  next r hr =>
  have hread := readVeto_eq_ok hr
  rcases doVeto_spec hread.mem with hs | ⟨-, hmem⟩
  · dsimp only
    rw [hs]
    exact h
  refine ⟨h.sound.evolved (doVeto_evolved r s), fun d => ?_⟩
  obtain ⟨l, hl⟩ := h.linear d
  refine ⟨l, hl.congr fun x => ?_⟩
  rw [hmem x]
  constructor
  · rintro ⟨rfl | ⟨hx, -⟩, hxd, hxs⟩
    · cases hxs
    · exact ⟨hx, hxd, hxs⟩
  · rintro ⟨hx, hxd, hxs⟩
    refine ⟨.inr ⟨hx, ?_⟩, hxd, hxs⟩
    rintro rfl
    rw [not_served_of_pending hread.pending] at hxs
    cases hxs

end AnchorStore

end Ansible
