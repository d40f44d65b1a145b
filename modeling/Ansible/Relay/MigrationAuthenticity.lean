import Ansible.Relay.MigratedFrozen

/-!
# The proofs of a migration and the keys at its commit

A submission looks up the active anchors of both DIDs and verifies the two signatures under
their keys; the transaction that records the pair comes later.  It locks the rows that are
active by then, and compares the key that was looked up with the legacy account only.

## Main definitions

* `PendingMigration`, `MigrationSystem`, `migrationStep` — the submissions in flight, and the
  atomic steps.
* `MigrationSafe` — a transaction finds the keys of the lookup.

## Main results

* `migrations_authentic` — **in every run of safe steps every migration is authentic when it
  is recorded.**
-/

namespace Ansible

namespace MigrationStore

open AnchorStore

/-! ### The atomic steps -/

/-- A submission whose checks have passed: the anchors it has found, and the text their keys have
signed. -/
structure PendingMigration where
  request : Request
  legacy : IdentityAnchor
  v1 : IdentityAnchor
  body : Text

/-- The relay, and the submissions before their transactions. -/
structure MigrationSystem where
  relay : Relay
  pending : List PendingMigration

inductive MigrationAction
  /-- A submission is checked, and looks up the anchors. -/
  | lookup (params : Json)
  /-- The transaction of a submission, which is answered. -/
  | complete (i : ℕ)
  /-- Any other call of the relay. -/
  | call (act : IdentityAction)

/-- The checks of a submission; one for a pair that is recorded is answered at once. -/
def beginSubmit (P : Platform) (params : Json) (s : Relay) : Option PendingMigration :=
  match validateShape params with
  | .error _ => none
  | .ok r =>
    match s.didElixMigrations.find (·.legacyDid == r.legacyDid) with
    | some _ => none
    | none =>
      match lookupPair P params r s with
      | .error _ => none
      | .ok (legacy, v1) => some ⟨r, legacy, v1, canonicalBody params⟩

/-- The transaction of a submission. -/
def PendingMigration.complete (p : PendingMigration) (s : Relay) : Relay :=
  (AccountMigration.complete p.request p.legacy p.v1 p.body s).2

/-- A step that is not enabled changes nothing. -/
def migrationStep (V : VpEnv) (s : MigrationSystem) : MigrationAction → MigrationSystem
  | .lookup params =>
    match beginSubmit V.toPlatform params s.relay with
    | some p => { s with pending := s.pending ++ [p] }
    | none => s
  | .complete i =>
    match s.pending[i]? with
    | some p => { relay := p.complete s.relay, pending := s.pending.eraseIdx i }
    | none => s
  | .call act => { s with relay := identityStep V s.relay act }

/-- The call of the store is the checks and the transaction. -/
theorem submit_state (P : Platform) (params : Json) (s : Relay) :
    (submit P params s).2 =
      match beginSubmit P params s with
      | some p => p.complete s
      | none => s := by
  unfold submit beginSubmit
  cases validateShape params with
  | error e => rfl
  | ok r =>
    dsimp only
    cases s.didElixMigrations.find (·.legacyDid == r.legacyDid) with
    | some existing =>
      dsimp only
      split <;> rfl
    | none =>
      dsimp only
      unfold submitNew
      cases lookupPair P params r s with
      | error e => rfl
      | ok pair => rfl

theorem migrate_eq_exec (V : VpEnv) (params : Json) (s : Relay) :
    (exec (migrationStep V) ⟨s, []⟩ [.lookup params, .complete 0]).relay
      = identityStep V s (.migrate params) := by
  have hlookup : migrationStep V ⟨s, []⟩ (.lookup params)
      = ⟨s, (beginSubmit V.toPlatform params s).toList⟩ := by
    rw [migrationStep]
    cases beginSubmit V.toPlatform params s <;> rfl
  rw [exec_cons, exec_cons, exec_nil, hlookup, identityStep, submit_state]
  cases beginSubmit V.toPlatform params s <;> rfl

/-! ### What is recorded -/

/-- The proofs of a row verify under the keys of the active anchors of both DIDs. -/
structure Authentic (P : Platform) (s : Relay) (m : DidElixMigration) : Prop where
  legacy : ∃ a, s.activeAnchor m.legacyDid = some a ∧
    SigVerifier.verifyIdentity P a.identityKeyAlgorithm a.identityKey m.canonicalBody m.legacySig
      = true
  v1 : ∃ a, s.activeAnchor m.v1Did = some a ∧
    SigVerifier.verifyIdentity P a.identityKeyAlgorithm a.identityKey m.canonicalBody m.v1Sig
      = true

/-- Both signatures verify under the keys that were looked up. -/
structure PendingMigration.Verified (P : Platform) (p : PendingMigration) : Prop where
  legacy : SigVerifier.verifyIdentity P p.legacy.identityKeyAlgorithm p.legacy.identityKey p.body
    p.request.legacySig = true
  v1 : SigVerifier.verifyIdentity P p.v1.identityKeyAlgorithm p.v1.identityKey p.body
    p.request.v1Sig = true

/-- What a lookup establishes: the active anchors, and the signatures under their keys. -/
structure LooksUp (P : Platform) (params : Json) (r : Request) (s : Relay)
    (legacy v1 : IdentityAnchor) : Prop where
  legacy_active : s.activeAnchor r.legacyDid = some legacy
  v1_active : s.activeAnchor r.v1Did = some v1
  verified : PendingMigration.Verified P ⟨r, legacy, v1, canonicalBody params⟩

variable {P : Platform} {params : Json} {s : Relay} {m : DidElixMigration} {V : VpEnv}

theorem lookupPair_eq_ok {r : Request} {legacy v1 : IdentityAnchor}
    (h : lookupPair P params r s = .ok (legacy, v1)) : LooksUp P params r s legacy v1 := by
  unfold lookupPair at h
  split at h
  · cases h
  · cases h
  split at h
  · cases h
  split at h
  · next a b ha hb =>
    dsimp only at h
    split at h
    · cases h
    next hlegacy =>
    split at h
    · cases h
    next hv1 =>
    split at h
    · cases h
    cases h
    exact ⟨ha, hb, not_not.1 hlegacy, not_not.1 hv1⟩
  · cases h

/-- The row of a submission. -/
def PendingMigration.row (p : PendingMigration) : DidElixMigration where
  legacyDid := p.request.legacyDid
  v1Did := p.request.v1Did
  handle := p.legacy.handle
  canonicalBody := p.body
  legacySig := p.request.legacySig
  v1Sig := p.request.v1Sig

/-- What the transaction has checked when it records its row: both DIDs have active anchors, and
the legacy account is under the key that was looked up. -/
structure Completed (s : Relay) (p : PendingMigration) : Prop where
  legacy : ∃ a, s.activeAnchor p.request.legacyDid = some a
  v1 : ∃ a, s.activeAnchor p.request.v1Did = some a
  account : ∃ b ∈ s.didAccounts.rows, b.did = p.request.legacyDid ∧
    (b.signingAlgorithm, b.publicKeyHex) = (p.legacy.identityKeyAlgorithm, p.legacy.identityKey)

theorem account_of_validate {legacy v1Account : Option DidAccount}
    {legacyAnchor v1Anchor : IdentityAnchor}
    (h : AccountMigration.validateAccountProjection legacy v1Account legacyAnchor v1Anchor
      = .ok ()) :
    ∃ b, legacy = some b ∧ (b.signingAlgorithm, b.publicKeyHex)
      = (legacyAnchor.identityKeyAlgorithm, legacyAnchor.identityKey) := by
  unfold AccountMigration.validateAccountProjection at h
  split at h
  · cases h
  next b =>
  split at h
  · cases h
  split at h
  · cases h
  next hkey =>
  rw [not_or, not_not, not_not] at hkey
  exact ⟨b, rfl, Prod.ext hkey.2 hkey.1⟩

/-- **What the transaction records, and what it has checked.** -/
theorem complete_spec {p : PendingMigration} (hm : m ∈ (p.complete s).didElixMigrations.rows) :
    m ∈ s.didElixMigrations.rows ∨ m = p.row ∧ Completed s p := by
  unfold PendingMigration.complete AccountMigration.complete at hm
  split at hm
  · exact .inl hm
  next hactive =>
  rw [Bool.or_eq_true, not_or, Option.isNone_iff_eq_none, Option.isNone_iff_eq_none] at hactive
  split at hm
  · split at hm <;> exact .inl hm
  unfold AccountMigration.recordPair at hm
  split at hm
  · exact .inl hm
  next hprojection =>
  dsimp only at hm
  split at hm
  · exact .inl hm
  next t ht =>
  rcases (Table.mem_insert ht).1 hm with hm | rfl
  · exact .inl hm
  · obtain ⟨b, hb, hkey⟩ := account_of_validate hprojection
    obtain ⟨hmem, hdid⟩ := find_account.1 hb
    exact .inr ⟨rfl, Option.ne_none_iff_exists'.1 hactive.1,
      Option.ne_none_iff_exists'.1 hactive.2, b, hmem, hdid, hkey⟩

/-! ### Safe steps -/

/-- The transaction of a submission finds the keys of its lookup: the active v1 anchor names the
key that was looked up, and the legacy account is under the key of its active anchor. -/
structure KeysHeld (s : Relay) (p : PendingMigration) : Prop where
  v1 : ∀ a, s.activeAnchor p.request.v1Did = some a →
    (a.identityKeyAlgorithm, a.identityKey) = (p.v1.identityKeyAlgorithm, p.v1.identityKey)
  legacy : ∀ b ∈ s.didAccounts.rows, b.did = p.request.legacyDid →
    ∀ a, s.activeAnchor p.request.legacyDid = some a →
      (b.signingAlgorithm, b.publicKeyHex) = (a.identityKeyAlgorithm, a.identityKey)

/-- The condition on one step, in the state before it. -/
def MigrationSafe (s : MigrationSystem) : MigrationAction → Prop
  | .complete i => ∀ p ∈ s.pending[i]?, KeysHeld s.relay p
  | _ => True

theorem authentic_row {p : PendingMigration} (hp : p.Verified P) (hcompleted : Completed s p)
    (hkeys : KeysHeld s p) : Authentic P s p.row := by
  obtain ⟨a, ha⟩ := hcompleted.legacy
  obtain ⟨c, hc⟩ := hcompleted.v1
  obtain ⟨b, hb, hbd, hbk⟩ := hcompleted.account
  obtain ⟨halg, hkey⟩ := Prod.mk.inj ((hkeys.legacy b hb hbd a ha).symm.trans hbk)
  obtain ⟨hcalg, hckey⟩ := Prod.mk.inj (hkeys.v1 c hc)
  refine ⟨⟨a, ha, ?_⟩, ⟨c, hc, ?_⟩⟩
  · rw [halg, hkey]
    exact hp.legacy
  · rw [hcalg, hckey]
    exact hp.v1

theorem verified_of_beginSubmit {p : PendingMigration} (h : beginSubmit P params s = some p) :
    p.Verified P ∧ s.activeAnchor p.request.legacyDid = some p.legacy ∧
      s.activeAnchor p.request.v1Did = some p.v1 := by
  unfold beginSubmit at h
  split at h
  · cases h
  split at h
  · cases h
  split at h
  · cases h
  · next hlookup =>
    cases h
    have hlook := lookupPair_eq_ok hlookup
    exact ⟨hlook.verified, hlook.legacy_active, hlook.v1_active⟩

theorem authentic_submit (hm : m ∈ (submit P params s).2.didElixMigrations.rows) :
    m ∈ s.didElixMigrations.rows ∨ Authentic P s m := by
  rw [submit_state] at hm
  split at hm
  · next p hbegin =>
    obtain ⟨hverified, hlegacy, hv1⟩ := verified_of_beginSubmit hbegin
    rcases complete_spec hm with hm | ⟨rfl, -⟩
    · exact .inl hm
    · exact .inr ⟨⟨p.legacy, hlegacy, hverified.legacy⟩, ⟨p.v1, hv1, hverified.v1⟩⟩
  · exact .inl hm

/-! ### Runs -/

/-- All submissions in flight are verified under the keys that they have looked up. -/
def AllVerified (P : Platform) (s : MigrationSystem) : Prop := ∀ p ∈ s.pending, p.Verified P

theorem AllVerified.step (s : MigrationSystem) (act : MigrationAction)
    (h : AllVerified V.toPlatform s) : AllVerified V.toPlatform (migrationStep V s act) := by
  cases act with
  | lookup params =>
    rw [migrationStep]
    split
    · next p hbegin =>
      intro q hq
      rcases List.mem_append.1 hq with hq | hq
      · exact h q hq
      · rw [List.mem_singleton.1 hq]
        exact (verified_of_beginSubmit hbegin).1
    · exact h
  | complete i =>
    rw [migrationStep]
    split
    · exact fun q hq => h q (List.mem_of_mem_eraseIdx hq)
    · exact h
  | call act => exact h

/-- A safe step records authentic rows only. -/
theorem authentic_step {s : MigrationSystem} {act : MigrationAction}
    (h : AllVerified V.toPlatform s) (hsafe : MigrationSafe s act)
    (hm : m ∈ (migrationStep V s act).relay.didElixMigrations.rows) :
    m ∈ s.relay.didElixMigrations.rows ∨ Authentic V.toPlatform s.relay m := by
  cases act with
  | lookup params =>
    rw [migrationStep] at hm
    split at hm <;> exact .inl hm
  | complete i =>
    rw [migrationStep] at hm
    split at hm
    · next p hp =>
      rcases complete_spec hm with hm | ⟨rfl, hcompleted⟩
      · exact .inl hm
      · exact .inr (authentic_row (h p (List.mem_of_getElem? hp)) hcompleted (hsafe p hp))
    · exact .inl hm
  | call act =>
    by_cases hmigrate : ∃ params, act = .migrate params
    · obtain ⟨params, rfl⟩ := hmigrate
      exact authentic_submit hm
    · rw [migrationStep, identityStep_migrations fun params heq => hmigrate ⟨params, heq⟩] at hm
      exact .inl hm

/-- Every row was recorded by a step, in whose state before it was authentic. -/
def MigrationsAuthentic (V : VpEnv) (s₀ : MigrationSystem) (acts : List MigrationAction) : Prop :=
  ∀ m ∈ (exec (migrationStep V) s₀ acts).relay.didElixMigrations.rows, ∃ pre act post,
    acts = pre ++ act :: post ∧
      m ∉ (exec (migrationStep V) s₀ pre).relay.didElixMigrations.rows ∧
      m ∈ (exec (migrationStep V) s₀ (pre ++ [act])).relay.didElixMigrations.rows ∧
      Authentic V.toPlatform (exec (migrationStep V) s₀ pre).relay m

/-- **In every run of safe steps every migration is authentic when it is recorded.**  Lookup and
transaction are separate steps, and what the induction carries is the submission in between: it
stays verified under the key that it has looked up. -/
theorem migrations_authentic (V : VpEnv) (acts : List MigrationAction)
    (hsafe : Along (migrationStep V) MigrationSafe ⟨Relay.empty, []⟩ acts) :
    MigrationsAuthentic V ⟨Relay.empty, []⟩ acts := by
  intro m hm
  obtain ⟨pre, act, post, rfl, hbefore, hafter⟩ := exists_step_of_not
    (P := fun s : MigrationSystem => m ∈ s.relay.didElixMigrations.rows) (fun h => by cases h) hm
  obtain ⟨-, hact, -⟩ := along_append.1 hsafe
  have hverified : AllVerified V.toPlatform (exec (migrationStep V) ⟨Relay.empty, []⟩ pre) :=
    exec_invariant (I := AllVerified V.toPlatform) (fun s act h => h.step s act)
      (fun p hp => by cases hp) pre
  refine ⟨pre, act, post, rfl, hbefore, ?_, (authentic_step hverified hact hafter).resolve_left
    hbefore⟩
  rw [exec_append]
  exact hafter

/-! ### A rotation between lookup and transaction -/

open Reputation (toyVpEnv)

/-- A step that records nothing. -/
def quiet : MigrationAction → Bool
  | .lookup _ => true
  | .complete _ => false
  | .call (.migrate _) => false
  | .call _ => true

theorem migrationStep_quiet {s : MigrationSystem} {act : MigrationAction} (h : quiet act = true) :
    (migrationStep V s act).relay.didElixMigrations = s.relay.didElixMigrations := by
  cases act with
  | lookup params =>
    rw [migrationStep]
    split <;> rfl
  | complete i => cases h
  | call act =>
    refine identityStep_migrations fun params heq => ?_
    rw [heq] at h
    cases h

theorem exec_quiet {s : MigrationSystem} {acts : List MigrationAction}
    (h : ∀ act ∈ acts, quiet act = true) :
    (exec (migrationStep V) s acts).relay.didElixMigrations = s.relay.didElixMigrations := by
  induction acts generalizing s with
  | nil => rfl
  | cons act acts ih =>
    obtain ⟨hact, hacts⟩ := List.forall_mem_cons.1 h
    exact (ih hacts).trans (migrationStep_quiet hact)

/-- A rotation of the v1 DID by another key. -/
def movedToRotation : Json :=
  toySigned 3 1 ((toyAnchorV1 3 (toyCid movedToGenesis) "rotation"
    "2026-01-03T00:00:00.000Z").merge [("handle", .str "alice.elix.cool")])

/-- Alice has anchored both DIDs and submits the move. -/
def lookedUp : List MigrationAction := bothAnchored.map .call ++ [.lookup toyMigration]

/-- The v1 DID rotates its key while the submission is in flight. -/
def rotatedMeanwhile : List MigrationAction :=
  lookedUp ++ [.call (.store (.submit 0 movedToRotation {}))]

/-- A submission whose transaction follows its lookup is safe, when all keys are one. -/
theorem safe_lookup_complete {key : String × String}
    (haccounts : ∀ b ∈ s.didAccounts.rows, (b.signingAlgorithm, b.publicKeyHex) = key)
    (hanchors : ∀ a ∈ s.identityAnchors.rows, (a.identityKeyAlgorithm, a.identityKey) = key) :
    Along (migrationStep V) MigrationSafe ⟨s, []⟩ [.lookup params, .complete 0] := by
  refine ⟨trivial, fun p hp => ?_, trivial⟩
  rw [migrationStep] at hp ⊢
  cases hbegin : beginSubmit V.toPlatform params s with
  | none =>
    rw [hbegin] at hp
    cases hp
  | some q =>
    rw [hbegin] at hp
    cases hp
    obtain ⟨-, -, hv1⟩ := verified_of_beginSubmit hbegin
    refine ⟨fun a ha => ?_, fun b hb _ a ha => ?_⟩
    · rw [Option.some.inj (ha.symm.trans hv1)]
    · rw [haccounts b hb, hanchors a (AnchorTable.activeAnchor_eq_some.1 ha).1]

theorem bothAnchored_keys :
    (∀ b ∈ (exec (identityStep toyVpEnv) Relay.empty bothAnchored).didAccounts.rows,
      (b.signingAlgorithm, b.publicKeyHex) = ("p256-sha256", toyKeyHex 1)) ∧
    ∀ a ∈ (exec (identityStep toyVpEnv) Relay.empty bothAnchored).identityAnchors.rows,
      (a.identityKeyAlgorithm, a.identityKey) = ("p256-sha256", toyKeyHex 1) := by
  decide +kernel

theorem exec_calls (V : VpEnv) (s : MigrationSystem) (acts : List IdentityAction) :
    exec (migrationStep V) s (acts.map .call)
      = { s with relay := exec (identityStep V) s.relay acts } := by
  induction acts generalizing s with
  | nil => rfl
  | cons act acts ih => exact ih _

theorem safe_calls (V : VpEnv) (s : MigrationSystem) (acts : List IdentityAction) :
    Along (migrationStep V) MigrationSafe s (acts.map .call) := by
  induction acts generalizing s with
  | nil => trivial
  | cons act acts ih => exact ⟨trivial, ih _⟩

theorem lookedUp_safe :
    Along (migrationStep toyVpEnv) MigrationSafe ⟨Relay.empty, []⟩ (lookedUp ++ [.complete 0]) := by
  rw [lookedUp, List.append_assoc]
  refine along_append.2 ⟨safe_calls _ _ _, ?_⟩
  rw [exec_calls]
  obtain ⟨haccounts, hanchors⟩ := bothAnchored_keys
  generalize exec (identityStep toyVpEnv) Relay.empty bothAnchored = s at haccounts hanchors
  exact safe_lookup_complete haccounts hanchors

theorem migrations_authentic_lookedUp :
    MigrationsAuthentic toyVpEnv ⟨Relay.empty, []⟩ (lookedUp ++ [.complete 0]) :=
  migrations_authentic toyVpEnv _ lookedUp_safe

theorem rotatedMeanwhile_recorded :
    (∀ act ∈ rotatedMeanwhile, quiet act = true) ∧
    ∃ m ∈ (exec (migrationStep toyVpEnv) ⟨Relay.empty, []⟩
        (rotatedMeanwhile ++ [.complete 0])).relay.didElixMigrations.rows,
      ∀ a ∈ (exec (migrationStep toyVpEnv) ⟨Relay.empty, []⟩ rotatedMeanwhile).relay.activeAnchor
        m.v1Did, SigVerifier.verifyIdentity toyVpEnv.toPlatform a.identityKeyAlgorithm a.identityKey
          m.canonicalBody m.v1Sig = false := by
  decide +kernel

/-- The move is recorded with a proof of the key that the v1 DID had before. -/
theorem migration_not_authentic : ¬ MigrationsAuthentic toyVpEnv ⟨Relay.empty, []⟩
    (rotatedMeanwhile ++ [.complete 0]) := by
  obtain ⟨hquiet, m, hm, hforged⟩ := rotatedMeanwhile_recorded
  intro h
  obtain ⟨pre, act, post, hacts, -, hafter, hauthentic⟩ := h m hm
  rcases List.eq_nil_or_concat post with rfl | ⟨post, last, rfl⟩
  · obtain ⟨rfl, -⟩ := List.append_inj' hacts rfl
    obtain ⟨a, ha, hverified⟩ := hauthentic.v1
    rw [hforged a ha] at hverified
    cases hverified
  · -- nothing is recorded before the transaction
    rw [List.concat_eq_append, ← List.cons_append, ← List.append_assoc] at hacts
    obtain ⟨hpre, -⟩ := List.append_inj' hacts rfl
    rw [exec_quiet fun act' hact' => hquiet act' ?_] at hafter
    · cases hafter
    · rw [hpre, List.append_cons]
      exact List.mem_append_left post hact'

end MigrationStore

end Ansible
