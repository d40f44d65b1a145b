import Ansible.Relay.MigrationAuthenticity
import Ansible.Relay.PolicyApprovals

/-!
# Identities up to migration

Two DIDs are one identity when their canonical DIDs are the same.  That this is an equivalence
with the right classes rests on the table of the migrations: its pairs are of two kinds of DIDs,
and no DID is in two of them.

## Main definitions

* `MigrationStore.aliasesFor` — the other DIDs of an identity.

## Main results

* `MigrationStore.identities_well_formed` — **in every state of every run they do.**
-/

namespace Ansible

namespace MigrationStore

open BoardGovernance

/-- The other side of each pair that the DID is in. -/
def aliasesFor (s : Relay) (did : String) : List String :=
  (s.didElixMigrations.rows.filter fun m => m.legacyDid == did || m.v1Did == did).map fun m =>
    if m.legacyDid = did then m.v1Did else m.legacyDid

theorem mem_aliasesFor {s : Relay} {did did' : String} :
    did' ∈ aliasesFor s did ↔ ∃ m ∈ s.didElixMigrations.rows,
      m.legacyDid = did ∧ m.v1Did = did' ∨
        m.legacyDid ≠ did ∧ m.v1Did = did ∧ m.legacyDid = did' := by
  simp only [aliasesFor, List.mem_map, List.mem_filter, Bool.or_eq_true, beq_iff_eq]
  refine exists_congr fun m => ?_
  rw [and_assoc]
  refine and_congr_right fun _ => ?_
  by_cases hlegacy : m.legacyDid = did
  · simp [hlegacy]
  · simp [hlegacy]

/-- Canonical DIDs, the equivalence of DIDs and the aliases of a DID fit together. -/
structure WellFormed (s : Relay) : Prop where
  idempotent : ∀ did, s.canonicalDid (s.canonicalDid did) = s.canonicalDid did
  refl : ∀ did, equivalent s did did = true
  symm : ∀ left right, equivalent s left right = true → equivalent s right left = true
  trans : ∀ left middle right, equivalent s left middle = true →
    equivalent s middle right = true → equivalent s left right = true
  canonical : ∀ left right,
    equivalent s left right = true ↔ s.canonicalDid left = s.canonicalDid right
  apart : s.PairsApart
  aliases : ∀ did did', did' ∈ did :: aliasesFor s did ↔ equivalent s did did' = true
  others : ∀ did, did ∉ aliasesFor s did

end MigrationStore

namespace Relay.PairsApart

open MigrationStore BoardGovernance

variable {s : Relay} (h : s.PairsApart)
include h

theorem canonicalDid_idempotent (did : String) :
    s.canonicalDid (s.canonicalDid did) = s.canonicalDid did := by
  rcases h.canonicalDid_cases did with ⟨m, hm, -, heq⟩ | ⟨heq, -⟩
  · rw [heq, h.canonicalDid_v1 hm]
  · rw [heq, heq]

theorem mem_aliasesFor_iff {did did' : String} :
    did' ∈ aliasesFor s did ↔ did' ≠ did ∧ s.canonicalDid did = s.canonicalDid did' := by
  rw [mem_aliasesFor]
  constructor
  · rintro ⟨m, hm, ⟨rfl, rfl⟩ | ⟨hne, rfl, rfl⟩⟩
    · exact ⟨(h m hm m hm).symm, by rw [h.canonicalDid_legacy hm, h.canonicalDid_v1 hm]⟩
    · exact ⟨hne, by rw [h.canonicalDid_legacy hm, h.canonicalDid_v1 hm]⟩
  · rintro ⟨hne, heq⟩
    rcases h.sides_of_canonicalDid_eq heq with rfl | ⟨m, hm, ⟨rfl, rfl⟩ | ⟨rfl, rfl⟩⟩
    · exact absurd rfl hne
    · exact ⟨m, hm, .inl ⟨rfl, rfl⟩⟩
    · exact ⟨m, hm, .inr ⟨hne, rfl, rfl⟩⟩

/-- **Identities are well formed when the pairs are apart.** -/
theorem wellFormed : WellFormed s where
  idempotent := h.canonicalDid_idempotent
  refl did := equivalent_eq_true.2 rfl
  symm left right heq := equivalent_eq_true.2 (equivalent_eq_true.1 heq).symm
  trans left middle right hleft hright :=
    equivalent_eq_true.2 ((equivalent_eq_true.1 hleft).trans (equivalent_eq_true.1 hright))
  canonical left right := equivalent_eq_true
  apart := h
  aliases did did' := by
    rw [List.mem_cons, h.mem_aliasesFor_iff, equivalent_eq_true]
    by_cases hdid : did' = did
    · rw [hdid]
      exact iff_of_true (.inl rfl) rfl
    · rw [or_iff_right hdid, and_iff_right hdid]
  others did hmem := (h.mem_aliasesFor_iff.1 hmem).1 rfl

end Relay.PairsApart

namespace MigrationStore

/-! ### Submissions that race -/

/-- The DIDs of the pairs, recorded or in flight, have the forms of their kinds. -/
structure AllFormed (s : MigrationSystem) : Prop where
  recorded : s.relay.PairsFormed
  pending : ∀ p ∈ s.pending, PairFormed p.row

theorem pairFormed_of_beginSubmit {P : Platform} {params : Json} {s : Relay}
    {p : PendingMigration} (h : beginSubmit P params s = some p) : PairFormed p.row := by
  unfold beginSubmit at h
  split at h
  · cases h
  next r hshape =>
  split at h
  · cases h
  split at h
  · cases h
  · cases h
    obtain ⟨-, hlegacy, hv1⟩ := validateShape_eq_ok hshape
    exact ⟨hlegacy, hv1⟩

/-- **Submissions that race record only pairs of the two kinds.** -/
theorem pairFormed_step (V : VpEnv) (s : MigrationSystem) (act : MigrationAction)
    (h : AllFormed s) : AllFormed (migrationStep V s act) := by
  cases act with
  | lookup params =>
    rw [migrationStep]
    split
    · next p hbegin =>
      refine ⟨h.recorded, fun q hq => ?_⟩
      rcases List.mem_append.1 hq with hq | hq
      · exact h.pending q hq
      · rw [List.mem_singleton.1 hq]
        exact pairFormed_of_beginSubmit hbegin
    · exact h
  | complete i =>
    rw [migrationStep]
    split
    · next p hp =>
      refine ⟨fun m hm => ?_, fun q hq => h.pending q (List.mem_of_mem_eraseIdx hq)⟩
      rcases complete_spec hm with hm | ⟨rfl, -⟩
      · exact h.recorded m hm
      · exact h.pending p (List.mem_of_getElem? hp)
    · exact h
  | call act => exact ⟨h.recorded.step V act, h.pending⟩

/-- **In every state of every run canonical DIDs, the equivalence of DIDs and the aliases of a DID
fit together.**  What is carried are the forms of the DIDs in a pair, recorded or in flight: the
legacy DID of one is then never the v1 DID of another. -/
theorem identities_well_formed (V : VpEnv) (acts : List MigrationAction) :
    WellFormed (exec (migrationStep V) ⟨Relay.empty, []⟩ acts).relay := by
  have hformed : AllFormed (exec (migrationStep V) ⟨Relay.empty, []⟩ acts) :=
    exec_invariant (pairFormed_step V)
      ⟨fun m hm => absurd hm List.not_mem_nil, fun p hp => absurd hp List.not_mem_nil⟩ acts
  exact hformed.recorded.apart.wellFormed

end MigrationStore

end Ansible
