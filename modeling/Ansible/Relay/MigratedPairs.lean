import Ansible.Relay.HandleIndex

/-!
# Pairs of migrated identities

A migration is a pair of a legacy DID and a v1 DID.  The two kinds of DIDs are told apart by
their form, so no DID is the one in one pair and the other in another.

## Main results

* `pairsApart_run` — the pairs are apart in every state of a run.
* `Relay.PairsApart.canonicalDid_cases`, `canonicalDid_v1` — the canonical DID of a DID.
-/

namespace Ansible

/-- No legacy DID of a pair is the v1 DID of a pair. -/
def Relay.PairsApart (s : Relay) : Prop :=
  ∀ m ∈ s.didElixMigrations.rows, ∀ n ∈ s.didElixMigrations.rows, m.legacyDid ≠ n.v1Did

namespace Relay.PairsApart

variable {s : Relay} (h : s.PairsApart)
include h

/-- The canonical DID is that of the pair of a legacy DID, and else the DID itself. -/
theorem canonicalDid_cases (did : String) :
    (∃ m ∈ s.didElixMigrations.rows, m.legacyDid = did ∧ s.canonicalDid did = m.v1Did) ∨
      s.canonicalDid did = did ∧ ∀ m ∈ s.didElixMigrations.rows, m.legacyDid ≠ did := by
  unfold Relay.canonicalDid
  split
  · next m hfind =>
    have hm := Table.mem_of_find hfind
    have hside := Table.prop_of_find hfind
    rw [Bool.or_eq_true, beq_iff_eq, beq_iff_eq] at hside
    rcases hside with hlegacy | hv1
    · exact .inl ⟨m, hm, hlegacy, rfl⟩
    · exact .inr ⟨hv1, fun n hn hnd => h n hn m hm (hnd.trans hv1.symm)⟩
  · next hnone =>
    refine .inr ⟨rfl, fun m hm hd => ?_⟩
    have hno := Table.find_eq_none.1 hnone m hm
    rw [hd, beq_self_eq_true, Bool.true_or] at hno
    cases hno

/-- A v1 DID is its own canonical DID. -/
theorem canonicalDid_v1 {m : DidElixMigration} (hm : m ∈ s.didElixMigrations.rows) :
    s.canonicalDid m.v1Did = m.v1Did := by
  rcases h.canonicalDid_cases m.v1Did with ⟨n, hn, hnd, -⟩ | ⟨heq, -⟩
  · exact absurd hnd (h n hn m hm)
  · exact heq

theorem canonicalDid_legacy {m : DidElixMigration} (hm : m ∈ s.didElixMigrations.rows) :
    s.canonicalDid m.legacyDid = m.v1Did := by
  rcases h.canonicalDid_cases m.legacyDid with ⟨n, hn, hnd, hc⟩ | ⟨-, hno⟩
  · obtain rfl := s.didElixMigrations.valid.legacy_did.eq hn hm rfl rfl hnd
    exact hc
  · exact absurd rfl (hno m hm)

/-- Two DIDs with one canonical DID are the same, or the two sides of a pair. -/
theorem sides_of_canonicalDid_eq {did did' : String}
    (heq : s.canonicalDid did = s.canonicalDid did') :
    did = did' ∨ ∃ m ∈ s.didElixMigrations.rows,
      did = m.legacyDid ∧ did' = m.v1Did ∨ did = m.v1Did ∧ did' = m.legacyDid := by
  rcases h.canonicalDid_cases did with ⟨m, hm, rfl, hmc⟩ | ⟨hc, -⟩
  · rcases h.canonicalDid_cases did' with ⟨n, hn, rfl, hnc⟩ | ⟨hc', -⟩
    · have hmn := s.didElixMigrations.valid.v1_did.eq hm hn rfl rfl
        (hmc.symm.trans (heq.trans hnc))
      exact .inl (congrArg _ hmn)
    · exact .inr ⟨m, hm, .inl ⟨rfl, hc'.symm.trans (heq.symm.trans hmc)⟩⟩
  · rcases h.canonicalDid_cases did' with ⟨n, hn, rfl, hnc⟩ | ⟨hc', -⟩
    · exact .inr ⟨n, hn, .inr ⟨hc.symm.trans (heq.trans hnc), rfl⟩⟩
    · exact .inl (hc.symm.trans (heq.trans hc'))

end Relay.PairsApart

/-! ### Runs -/

theorem anchorStep_migrations (E : Env) (s : Relay) (act : AnchorStore.AnchorAction) :
    (AnchorStore.anchorStep E s act).didElixMigrations = s.didElixMigrations := by
  cases act with
  | submit now anchor opts =>
    rcases AnchorStore.submit_cases E now anchor opts s with ⟨_, -, hs⟩ | ⟨_, -, -, hguards, -⟩
    · rw [AnchorStore.anchorStep, hs]
    · exact hguards.migrations
  | promoteDue now =>
    rw [AnchorStore.anchorStep, AnchorStore.promoteDue]
    generalize AnchorStore.promotable now s = l
    induction l generalizing s with
    | nil => rfl
    | cons r l ih =>
      exact (ih _).trans (AnchorStore.promoteOne_evolved E now r s).1.migrations
  | veto did cid sig => exact AnchorStore.veto_migrations E.toPlatform did cid sig s

theorem pairs_stable (s : Relay) : Stable fun t => t.didElixMigrations = s.didElixMigrations where
  nonces h hsame := hsame.core.migrations.trans h
  account did h := (DidAccountCache.get_core did _).migrations.trans h
  accountByHandle handle h := (DidAccountCache.getByHandle_core handle _).migrations.trans h
  identity now did h := (IdentityCache.get_core now did _).1.migrations.trans h

theorem identityStep_migrations {V : VpEnv} {s : Relay} {act : IdentityAction}
    (hact : ∀ params, act ≠ .migrate params) :
    (identityStep V s act).didElixMigrations = s.didElixMigrations := by
  have hput : ∀ {reg : IdentityV2.Admitted} {now : Time} {t : Relay},
      t.didElixMigrations = s.didElixMigrations →
      (IdentityV2.putIdentity V.toEnv now reg t).2.didElixMigrations = s.didElixMigrations := by
    intro reg now t ht
    exact (IdentityCache.put_core ..).1.migrations.trans ht
  cases act with
  | register now fresh params => exact (pairs_stable s).register rfl
  | anchor now params =>
    refine (pairs_stable s).anchor rfl (fun _ _ _ _ ht => hput ht)
      (fun _ t _ ht => ?_) fun _ _ _ _ _ hu => hput hu
    exact (DidAccountCache.put_core ..).migrations.trans ht
  | rotateKey now params =>
    refine (pairs_stable s).rotateKey rfl fun rot _ t _ ht => ?_
    exact (DidAccountCache.rotateKey_core ..).migrations.trans ht
  | store act => exact anchorStep_migrations V.toEnv s act
  | present now limited params =>
    refine (pairs_stable s).present rfl fun _ _ t _ _ ht => ?_
    exact (DidAccountCache.put_core ..).migrations.trans ht
  | migrate params => exact absurd rfl (hact params)
  | account did => exact (pairs_stable s).account did rfl
  | accountByHandle handle => exact (pairs_stable s).accountByHandle handle rfl
  | identity now did => exact (pairs_stable s).identity now did rfl
  | sweepExpired now => rfl
  | restart => rfl

/-- The pair that a call answers: the one that a migration records, or has recorded. -/
def pairOf (V : VpEnv) (s : Relay) : IdentityAction → Option DidElixMigration
  | .migrate params => (MigrationStore.submit V.toPlatform params s).1.toOption
  | _ => none

/-- A step leaves the pairs as they are, of which an answered one is one, or records the pair
that is answered. -/
theorem identityStep_pairs (V : VpEnv) (s : Relay) (act : IdentityAction) :
    ((identityStep V s act).didElixMigrations = s.didElixMigrations ∧
      ∀ row, pairOf V s act = some row → row ∈ s.didElixMigrations.rows) ∨
    ∃ row t, MigrationStore.Recorded s row ∧ s.didElixMigrations.insert row = some t ∧
      pairOf V s act = some row ∧ (identityStep V s act).didElixMigrations = t := by
  cases act with
  | migrate params =>
    rcases MigrationStore.submit_leaves V.toPlatform params s with
      ⟨hs, hanswer⟩ | ⟨row, t, hrow, ht, hanswer, hs⟩
    · refine .inl ⟨by rw [identityStep, hs], fun row h => hanswer row ?_⟩
      exact ok_of_toOption h
    · exact .inr ⟨row, t, hrow, ht, by rw [pairOf, hanswer]; rfl, by rw [identityStep, hs]; rfl⟩
  | _ =>
    exact .inl ⟨identityStep_migrations fun _ h => (by cases h), fun _ h => by cases h⟩

/-- **The pairs after a step** are those before it, and the one that is answered. -/
theorem mem_identityStep_pairs {V : VpEnv} {s : Relay} {act : IdentityAction}
    {m : DidElixMigration} : m ∈ (identityStep V s act).didElixMigrations.rows ↔
      m ∈ s.didElixMigrations.rows ∨ pairOf V s act = some m := by
  rcases identityStep_pairs V s act with ⟨h, hanswer⟩ | ⟨row, t, -, ht, hanswer, h⟩
  · rw [h]
    exact ⟨.inl, fun hm => hm.elim id (hanswer m)⟩
  · rw [h, hanswer, Option.some.injEq, eq_comm (a := row)]
    exact Table.mem_insert ht

/-- The DIDs of a pair have the forms of their kinds. -/
structure PairFormed (m : DidElixMigration) : Prop where
  notV1 : IdentityV2.isV1Did m.legacyDid = false
  v1 : IdentityV2.isV1Did m.v1Did = true

/-- All pairs are of DIDs of the two kinds. -/
def Relay.PairsFormed (s : Relay) : Prop := ∀ m ∈ s.didElixMigrations.rows, PairFormed m

theorem Relay.PairsFormed.apart {s : Relay} (h : s.PairsFormed) : s.PairsApart := by
  intro m hm n hn heq
  have hnot := (h m hm).notV1
  rw [heq, (h n hn).v1] at hnot
  cases hnot

theorem Relay.PairsFormed.step {s : Relay} (h : s.PairsFormed) (V : VpEnv)
    (act : IdentityAction) : (identityStep V s act).PairsFormed := by
  intro m hm
  rcases identityStep_pairs V s act with ⟨heq, -⟩ | ⟨row, t, hrow, ht, -, heq⟩
  · exact h m (heq ▸ hm)
  · rw [heq] at hm
    rcases (Table.mem_insert ht).1 hm with hm | rfl
    · exact h m hm
    · exact ⟨hrow.notV1, hrow.v1⟩

/-- **In every state of a run no legacy DID of a pair is the v1 DID of a pair.** -/
theorem pairsApart_run (V : VpEnv) (acts : List IdentityAction) :
    (exec (identityStep V) Relay.empty acts).PairsApart :=
  (exec_invariant (I := Relay.PairsFormed) (fun _ act h => h.step V act)
    (fun _ hm => by cases hm) acts).apart

end Ansible
