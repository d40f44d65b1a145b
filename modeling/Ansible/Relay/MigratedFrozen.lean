import Ansible.Relay.AnchorAuthority
import Ansible.Relay.AnchorLinear
import Ansible.Relay.AnchorVeto
import Ansible.Relay.MigratedPairs

/-!
# The anchors of a migrated identity

Once a legacy DID has moved to a v1 DID the store takes no submission for it.  Promotion does
not look at the migrations: a recovery that was pending when the identity moved is promoted
after it like any other, unless a veto has frozen the DID.

## Main results

* `activeStays_iff` — **the active anchor of a migrated DID stays exactly when it is settled.**
-/

namespace Ansible

namespace AnchorStore

/-- Which anchor of a DID is active. -/
def activeCid (s : Relay) (did : String) : Option String :=
  (s.activeAnchor did).map (·.anchorCid)

/-- No later calls of the store change which anchor of the DID is active. -/
def ActiveStays (E : Env) (s : Relay) (did : String) : Prop :=
  ∀ later : List AnchorAction, activeCid (exec (anchorStep E) s later) did = activeCid s did

/-- The DID is frozen, or no recovery of it waits for its grace window to pass. -/
def Settled (s : Relay) (did : String) : Prop :=
  s.frozen did = true ∨
    ∀ a ∈ s.identityAnchors.rows, a.did = did → a.state = .pending → a.graceUntil = none

/-! ### What leaves a DID alone -/

/-- The migrations, the freeze of a DID and its rows are those of another state. -/
structure SameOf (did : String) (s t : Relay) : Prop where
  migrations : t.didElixMigrations = s.didElixMigrations
  frozen : t.frozen did = s.frozen did
  rows : ∀ x : IdentityAnchor, x.did = did →
    (x ∈ t.identityAnchors.rows ↔ x ∈ s.identityAnchors.rows)

namespace SameOf

variable {did : String} {s t u : Relay}

theorem refl (did : String) (s : Relay) : SameOf did s s := ⟨rfl, rfl, fun _ _ => Iff.rfl⟩

theorem trans (h : SameOf did s t) (h' : SameOf did t u) : SameOf did s u where
  migrations := h'.migrations.trans h.migrations
  frozen := h'.frozen.trans h.frozen
  rows x hx := (h'.rows x hx).trans (h.rows x hx)

theorem activeAnchor (h : SameOf did s t) : t.activeAnchor did = s.activeAnchor did :=
  activeAnchor_congr fun x hx _ => h.rows x hx

theorem settled (h : SameOf did s t) (hs : Settled s did) : Settled t did := by
  refine hs.imp (fun hfrozen => h.frozen.trans hfrozen) fun hrows a ha hdid => ?_
  exact hrows a ((h.rows a hdid).1 ha) hdid

end SameOf

variable {E : Env} {now : Time} {r : IdentityAnchor}

/-- A submission for another DID leaves this one alone, and one for a migrated DID is
refused. -/
theorem submit_sameOf {anchor : Json} {opts : SubmitOpts} {s : Relay} {did : String}
    (hmigrated : s.canonicalDid did ≠ did) : SameOf did s (submit E now anchor opts s).2 := by
  rcases submit_cases E now anchor opts s with ⟨_, -, hs⟩ | ⟨row, -, -, hguards, hacc, hent⟩
  · rw [hs]
    exact .refl did s
  · have hne : did ≠ row.did := by
      rintro rfl
      have hunguarded := hacc.unguarded
      unfold ensureNotFrozen at hunguarded
      split at hunguarded
      · cases hunguarded
      · cases hunguarded
    refine ⟨hguards.migrations, hguards.frozen did, fun x hx => hent.mem_other ?_⟩
    rw [hx]
    exact hne

theorem promoteOne_sameOf {s : Relay} {did : String} (hne : did ≠ r.did) :
    SameOf did s (promoteOne E now r s) := by
  have hguards := (promoteOne_evolved E now r s).1
  refine ⟨hguards.migrations, hguards.frozen did, fun x hx => ?_⟩
  rcases promoteOne_written E now r s with h | ⟨t, row, ht, h⟩
  · rw [h]
  · rw [h, (syncCache_core E now row { s with identityAnchors := t }).anchors]
    refine mem_promoteRow_other ht ?_
    rw [hx]
    exact hne

theorem foldl_promoteOne_sameOf {l : List IdentityAnchor} {s : Relay} {did : String}
    (hl : ∀ r ∈ l, did ≠ r.did) : SameOf did s (l.foldl (fun s r => promoteOne E now r s) s) := by
  induction l generalizing s with
  | nil => exact .refl did s
  | cons r l ih =>
    obtain ⟨hr, hl⟩ := List.forall_mem_cons.1 hl
    exact (promoteOne_sameOf hr).trans (ih hl)

theorem Settled.promotable {s : Relay} {did : String} (h : Settled s did)
    (hr : r ∈ promotable now s) : did ≠ r.did := by
  obtain ⟨hmem, hpending, hdue, hfrozen⟩ := mem_promotable.1 hr
  rintro rfl
  rcases h with h | h
  · rw [hfrozen] at h
    cases h
  · rw [h r hmem rfl hpending] at hdue
    cases hdue

theorem Settled.veto {s : Relay} {did : String} (h : Settled s did) (P : Platform)
    (target cid sig : String) : Settled (veto P target cid sig s).2 did := by
  unfold AnchorStore.veto
  split
  · exact h
  next pending _ =>
  rcases h with h | h
  · exact .inl (doVeto_frozen h)
  · refine .inr fun x hx hdid hpending => ?_
    obtain ⟨y, hy, -, hcase⟩ := mem_doVeto hx
    split at hcase
    · rw [hcase] at hpending
      cases hpending
    · rw [hcase] at hdid hpending ⊢
      exact h y hy hdid hpending

/-! ### Runs over a settled DID -/

/-- What the calls of the store keep: the DID is migrated and settled, and its active anchor is
that of the state `s₀`. -/
structure Held (s₀ : Relay) (did : String) (s : Relay) : Prop where
  migrated : s.canonicalDid did ≠ did
  settled : Settled s did
  active : s.activeAnchor did = s₀.activeAnchor did

theorem canonicalDid_congr {s t : Relay} (h : t.didElixMigrations = s.didElixMigrations)
    (did : String) : t.canonicalDid did = s.canonicalDid did := by
  unfold Relay.canonicalDid
  rw [h]

theorem Held.sameOf {s₀ s t : Relay} {did : String} (h : Held s₀ did s) (hsame : SameOf did s t) :
    Held s₀ did t where
  migrated := by
    rw [canonicalDid_congr hsame.migrations]
    exact h.migrated
  settled := hsame.settled h.settled
  active := hsame.activeAnchor.trans h.active

theorem Held.step {s₀ s : Relay} {did : String} (h : Held s₀ did s) (act : AnchorAction) :
    Held s₀ did (anchorStep E s act) := by
  cases act with
  | submit now anchor opts => exact h.sameOf (submit_sameOf h.migrated)
  | promoteDue now =>
    exact h.sameOf (foldl_promoteOne_sameOf fun r hr => h.settled.promotable hr)
  | veto target cid sig =>
    refine ⟨?_, h.settled.veto E.toPlatform target cid sig, ?_⟩
    · rw [anchorStep, canonicalDid_congr (veto_migrations ..)]
      exact h.migrated
    · exact (veto_activeAnchor E.toPlatform target cid sig s did).trans h.active

theorem activeStays_of_settled {s : Relay} {did : String} (hmigrated : s.canonicalDid did ≠ did)
    (h : Settled s did) : ActiveStays E s did := by
  intro later
  have hheld : Held s did (exec (anchorStep E) s later) :=
    exec_invariant (I := Held s did) (fun _ act ht => ht.step act) ⟨hmigrated, h, rfl⟩ later
  exact congrArg _ hheld.active

/-! ### Promotions that are carried out -/

/-- **The promotion of a row that is there is carried out**: no index refuses it. -/
theorem promoteRow_isSome {t : AnchorTable} {x : IdentityAnchor} (hx : x ∈ t.rows)
    (hxr : x.hasKey r.did r.anchorCid = true) : (promoteRow r t).isSome = true := by
  -- the active row of the DID is superseded, so no row of it is active
  obtain ⟨t₁, ht₁⟩ : ∃ t₁, t.update (fun a => a.did == r.did && a.isActive)
      (IdentityAnchor.withState .superseded) = some t₁ := by
    refine Option.isSome_iff_exists.1 (Table.commit_isSome.2 ⟨?_, ?_⟩)
    · exact t.valid.did_anchor_cid.map (fun x => by split <;> rfl) fun _ _ => rfl
    · refine t.valid.one_active_per_did.map (fun x => by split <;> rfl) fun x hx => ?_
      split at hx
      · cases hx
      · exact hx
  have hnone : ∀ x ∈ t₁.rows, x.isActive = true → x.did ≠ r.did := by
    intro x hx hactive hdid
    obtain ⟨y, -, rfl⟩ := (Table.mem_update ht₁).1 hx
    split at hactive
    · cases hactive
    · next hy =>
      rw [if_neg hy] at hdid
      exact hy (by rw [hactive, hdid, beq_self_eq_true]; rfl)
  obtain ⟨r₁, hr₁, hkey⟩ : ∃ r₁ ∈ t₁.rows, r₁.hasKey r.did r.anchorCid = true := by
    refine ⟨_, (Table.mem_update ht₁).2 ⟨x, hx, rfl⟩, ?_⟩
    split <;> exact hxr
  have hid : r₁.did = r.did ∧ r₁.anchorCid = r.anchorCid := by
    simpa [IdentityAnchor.hasKey] using hkey
  -- so the row becomes the only active one
  obtain ⟨t₂, ht₂⟩ : ∃ t₂, t₁.update (IdentityAnchor.hasKey r.did r.anchorCid)
      (IdentityAnchor.settle .active) = some t₂ := by
    refine Option.isSome_iff_exists.1 (Table.commit_isSome.2 ⟨?_, ?_⟩)
    · exact t₁.valid.did_anchor_cid.map (fun x => by split <;> rfl) fun _ _ => rfl
    · refine t₁.valid.one_active_per_did.map_insert (a := r₁) t₁.valid.did_anchor_cid.nodup
        (fun x => by split <;> rfl) (fun x hx hactive => ?_) fun x hx _ hactive => ?_
      · split at hactive
        · next hxr =>
          rw [← hid.1, ← hid.2] at hxr
          exact .inl ((hasKey_iff hr₁ hx).1 hxr)
        · exact .inr hactive
      · rw [hid.1]
        exact hnone x hx hactive
  have hfound : (t₂.find (IdentityAnchor.hasKey r.did r.anchorCid)).isSome = true := by
    refine List.find?_isSome.2 ⟨r₁.settle .active, (Table.mem_update ht₂).2 ⟨r₁, hr₁, ?_⟩, ?_⟩
    · rw [if_pos hkey]
    · simpa [IdentityAnchor.hasKey, IdentityAnchor.settle] using hid
  obtain ⟨row, hrow⟩ := Option.isSome_iff_exists.1 hfound
  simp only [promoteRow, ht₁, ht₂, hrow, Option.bind_eq_bind, Option.bind_some, Option.pure_def,
    Option.isSome_some]

theorem activeCid_promoteOne {x : IdentityAnchor} {s : Relay} (hx : x ∈ s.identityAnchors.rows)
    (hxr : x.hasKey r.did r.anchorCid = true) :
    activeCid (promoteOne E now r s) r.did = some r.anchorCid := by
  obtain ⟨⟨t, row⟩, ht⟩ := Option.isSome_iff_exists.1 (promoteRow_isSome hx hxr)
  obtain ⟨hdid, hcid, -, hactivates⟩ := activates_of_promoteRow ht
  have hactive : (promoteOne E now r s).activeAnchor r.did = some row := by
    unfold promoteOne
    rw [ht]
    dsimp only
    rw [Relay.activeAnchor, (syncCache_core E now row { s with identityAnchors := t }).anchors,
      ← hdid]
    exact hactivates.self
  rw [activeCid, hactive, Option.map_some, hcid]

/-- A run of promotions of rows that are there activates one of each DID it has rows of. -/
theorem activeCid_foldl {l : List IdentityAnchor} {s : Relay} {did : String}
    (hl : ∀ r ∈ l, ∃ x ∈ s.identityAnchors.rows, x.content = r.content)
    (hdid : ∃ r ∈ l, r.did = did) :
    ∃ r ∈ l, r.did = did ∧
      activeCid (l.foldl (fun s r => promoteOne E now r s) s) did = some r.anchorCid := by
  induction l generalizing s with
  | nil =>
    obtain ⟨r, hr, -⟩ := hdid
    cases hr
  | cons r l ih =>
    rw [List.foldl_cons]
    by_cases hlater : ∃ r' ∈ l, r'.did = did
    · have hkept : ∀ r' ∈ l, ∃ x ∈ (promoteOne E now r s).identityAnchors.rows,
          x.content = r'.content := by
        intro r' hr'
        obtain ⟨x, hx, hxr⟩ := hl r' (List.mem_cons_of_mem r hr')
        obtain ⟨y, hy, hyx⟩ := (promoteOne_evolved E now r s).2.kept x hx
        exact ⟨y, hy, hyx.trans hxr⟩
      obtain ⟨r', hr', hd, hactive⟩ := ih hkept hlater
      exact ⟨r', List.mem_cons_of_mem r hr', hd, hactive⟩
    · -- the rows after the first are of other DIDs
      obtain ⟨r', hr', rfl⟩ := hdid
      rcases List.mem_cons.1 hr' with rfl | hr'
      · obtain ⟨x, hx, hxr⟩ := hl r' List.mem_cons_self
        have hkey : x.hasKey r'.did r'.anchorCid = true := by
          rw [hasKey_of_content hxr]
          simp [IdentityAnchor.hasKey]
        have hrest : SameOf r'.did (promoteOne E now r' s)
            (l.foldl (fun s r => promoteOne E now r s) (promoteOne E now r' s)) :=
          foldl_promoteOne_sameOf fun r'' hr'' heq => hlater ⟨r'', hr'', heq.symm⟩
        refine ⟨r', List.mem_cons_self, rfl, ?_⟩
        rw [activeCid, hrest.activeAnchor]
        exact activeCid_promoteOne hx hkey
      · exact absurd ⟨r', hr', rfl⟩ hlater

theorem activeCid_promoteDue {s : Relay} {p : IdentityAnchor} (hp : p ∈ promotable now s) :
    ∃ r ∈ promotable now s, r.did = p.did ∧
      activeCid (promoteDue E now s) p.did = some r.anchorCid :=
  activeCid_foldl (fun r hr => ⟨r, (mem_promotable.1 hr).1, rfl⟩) ⟨p, hp, rfl⟩

theorem activeCid_ne_of_promotable {s : Relay} (hr : r ∈ promotable now s) :
    activeCid s r.did ≠ some r.anchorCid := by
  obtain ⟨hmem, hpending, -, -⟩ := mem_promotable.1 hr
  intro h
  obtain ⟨a, ha, hcid⟩ := Option.map_eq_some_iff.1 h
  obtain ⟨haR, had, hactive⟩ := AnchorTable.activeAnchor_eq_some.1 ha
  obtain rfl := s.identityAnchors.eq_of_key haR hmem had hcid
  rw [hpending] at hactive
  cases hactive

theorem settled_of_activeStays {s : Relay} {did : String} (h : ActiveStays E s did) :
    Settled s did := by
  by_contra hnot
  obtain ⟨hfrozen, hrows⟩ := not_or.1 hnot
  push Not at hrows
  obtain ⟨p, hp, rfl, hpending, hgrace⟩ := hrows
  obtain ⟨grace, hgrace⟩ := Option.ne_none_iff_exists'.1 hgrace
  have hdue : p ∈ promotable grace s := by
    refine mem_promotable.2 ⟨hp, hpending, ?_, Bool.eq_false_iff.2 hfrozen⟩
    rw [hgrace, Option.any_some]
    exact decide_eq_true le_rfl
  obtain ⟨r, hr, hdid, hactive⟩ := activeCid_promoteDue (E := E) hdue
  have hstays : activeCid (promoteDue E grace s) p.did = activeCid s p.did :=
    h [.promoteDue grace]
  rw [← hdid] at hactive hstays
  exact activeCid_ne_of_promotable hr (hstays.symm.trans hactive)

/-! ### Migrated DIDs -/

/-- **In every state of a run in which a migration names the legacy DID, its active anchor
stays exactly when the DID is settled.** -/
theorem activeStays_iff (V : VpEnv) (acts : List IdentityAction) {m : DidElixMigration}
    (hm : m ∈ (exec (identityStep V) Relay.empty acts).didElixMigrations.rows) :
    ActiveStays V.toEnv (exec (identityStep V) Relay.empty acts) m.legacyDid ↔
      Settled (exec (identityStep V) Relay.empty acts) m.legacyDid := by
  refine ⟨settled_of_activeStays, activeStays_of_settled fun hcanonical => ?_⟩
  have happart := pairsApart_run V acts
  rcases happart.canonicalDid_cases m.legacyDid with ⟨n, hn, -, hv1⟩ | ⟨-, hnone⟩
  · exact happart m hm n hn (hcanonical.symm.trans hv1)
  · exact hnone m hm rfl

/-! ### Moves on the toy platform -/

open Reputation (toyVpEnv)

/-- The legacy DID of Alice. -/
def movedDid : String :=
  DidElix.derive .toy (toyKeyHex 1) "alice.elix.cool" "software" "p256-sha256"

/-- The DID that her commitment derives. -/
def movedToDid : String := (DidElix.deriveV1 .toy toyCommitment).getD ""

def movedGenesis : Json :=
  toySigned 1 1 ((toyAnchor 1 .null "initial" "2026-01-01T00:00:00Z").merge
    [("did", .str movedDid)])

def movedToGenesis : Json :=
  toySigned 1 1 ((toyAnchorV1 1 .null "initial" "2026-01-01T00:00:00.000Z").merge
    [("handle", .str "alice.elix.cool")])

/-- A recovery of the legacy DID by another key. -/
def movedRecovery : Json :=
  toySigned 2 1 ((toyAnchor 2 (toyCid movedGenesis) "recovery" "2026-01-02T00:00:00Z").merge
    [("did", .str movedDid)])

/-- The move from the one DID to the other, signed by the keys of both. -/
def toyMigration : Json :=
  let unsigned : Json := .obj [("type", .str MigrationStore.migrationType), ("version", .int 1),
    ("legacy_did", .str movedDid), ("v1_did", .str movedToDid),
    ("created_at", .str "2026-01-03T00:00:00.000Z")]
  let sig := Json.str (toySign 1 (MigrationStore.canonicalBody unsigned))
  unsigned.merge [("legacy_sig", sig), ("v1_sig", sig)]

/-- Alice has an account under the legacy DID and anchors of both. -/
def bothAnchored : List IdentityAction :=
  [.register 0 "nonce" (toyRegister 1 "alice"),
    .anchor 0 (toyRegistration 1 movedDid "alice.elix.cool" "nonce"),
    .store (.submit 0 movedGenesis {}), .store (.submit 0 movedToGenesis {})]

/-- A recovery of the legacy DID is pending when it moves. -/
def movedPending : List IdentityAction :=
  bothAnchored ++ [.store (.submit 0 movedRecovery {}), .migrate toyMigration]

theorem movedPending_facts :
    (∃ m ∈ (exec (identityStep toyVpEnv) Relay.empty movedPending).didElixMigrations.rows,
        m.legacyDid = movedDid) ∧
      (exec (identityStep toyVpEnv) Relay.empty movedPending).frozen movedDid = false ∧
      ∃ a ∈ (exec (identityStep toyVpEnv) Relay.empty movedPending).identityAnchors.rows,
        a.did = movedDid ∧ a.state = .pending ∧ a.graceUntil ≠ none := by
  decide +kernel

theorem activeStays_iff_moved :
    ActiveStays toyVpEnv.toEnv (exec (identityStep toyVpEnv) Relay.empty movedPending) movedDid ↔
      Settled (exec (identityStep toyVpEnv) Relay.empty movedPending) movedDid := by
  obtain ⟨⟨m, hm, hdid⟩, -⟩ := movedPending_facts
  rw [← hdid]
  exact activeStays_iff toyVpEnv movedPending hm

/-- The recovery is promoted after the move. -/
theorem moved_active_changes :
    (∃ m ∈ (exec (identityStep toyVpEnv) Relay.empty movedPending).didElixMigrations.rows,
      m.legacyDid = movedDid) ∧
    ¬ ActiveStays toyVpEnv.toEnv (exec (identityStep toyVpEnv) Relay.empty movedPending)
      movedDid := by
  obtain ⟨hmoved, hfrozen, a, ha, hdid, hpending, hgrace⟩ := movedPending_facts
  refine ⟨hmoved, fun h => ?_⟩
  rcases settled_of_activeStays h with hsettled | hsettled
  · rw [hfrozen] at hsettled
    cases hsettled
  · exact hgrace (hsettled a ha hdid hpending)

end AnchorStore

end Ansible
