import Ansible.Relay.KeyVersions

/-!
# Accounts and verified identities along a run

A registration that is repeated writes only the verified identity, at version one; the anchor
store writes only the account.  Rotations compare the versions of both.

## Main definitions

* `VersionAgreement` — what agreement means: equal records, and rotations that succeed.

## Main results

* `versions_agree` — **in every run of safe calls the records agree and rotations succeed.**
-/

namespace Ansible

open AnchorStore

/-! ### Safe calls -/

/-- The version that the account of a DID has; one for a DID without an account. -/
def accountVersion (s : Relay) (did : String) : ℤ :=
  match (DidAccountCache.get did s).1 with
  | some entry => entry.keyVersion
  | none => 1

/-- The verified identities hold the key that an anchor brings, under the version of the account
of its DID. -/
def Confirms (s : Relay) (row : IdentityAnchor) : Prop :=
  HoldsKey s row.did (row.identityKeyAlgorithm, row.identityKey) (accountVersion s row.did)

/-- Each row of a promotion run brings a key that is held already when it is promoted. -/
def PromotionsConfirmed (E : Env) (now : Time) : List IdentityAnchor → Relay → Prop
  | [], _ => True
  | r :: l, s =>
    (∀ t row, promoteRow r s.identityAnchors = some (t, row) →
      Confirms { s with identityAnchors := t } row) ∧
    PromotionsConfirmed E now l (promoteOne E now r s)

/-- A repeated registration finds the account at version one; a new one is for a DID that fits
the column of nullifiers. -/
def SlotSafe (s : Relay) (reg : IdentityV2.Admitted) : IdentityV2.Slot → Prop
  | .refresh _ => ∀ a ∈ s.didAccounts.rows, a.did = reg.did → a.keyVersion = 1
  | .fresh => fitsVarchar (IdentityV2.v2Nullifier reg.did) = true
  | _ => True

/-- A call that writes no key and no version to one of the two records alone: what the store
activates names the key that is held, a repeated registration is one at version one, and the
account that a presentation raises is a stored one. -/
def VersionSafe (V : VpEnv) (s : Relay) : IdentityAction → Prop
  | .anchor now params => ∀ reg slot t, Registers V.toEnv now params s reg slot t →
      SlotSafe s reg slot
  | .store (.submit now anchor opts) => ∀ row, (submit V.toEnv now anchor opts s).1 = .ok row →
      row.state = .active → Confirms { s with
        identityAnchors := (submit V.toEnv now anchor opts s).2.identityAnchors } row
  | .store (.promoteDue now) => PromotionsConfirmed V.toEnv now (promotable now s) s
  | .present _ _ params => ∀ did e t, Presents params s did e t →
      ∃ a ∈ s.didAccounts.rows, a.did = did
  | _ => True

variable {s t : Relay} {E : Env} {now : Time} {V : VpEnv} {reg : IdentityV2.Admitted}

theorem VersionsAgree.anchors (h : VersionsAgree s) (t : AnchorTable) :
    VersionsAgree { s with identityAnchors := t } :=
  h.of_same rfl rfl fun _ _ _ he => .inl he

theorem VersionsAgree.syncCache {row : IdentityAnchor} (h : VersionsAgree s)
    (hconfirms : Confirms s row) : VersionsAgree (AnchorStore.syncCache E now row s) := by
  rw [syncCache_eq]
  refine (h.get row.did).put ?_
  obtain ⟨v, hv, hvd, hvk, hvv⟩ := hconfirms
  refine ⟨v, ?_, hvd, hvk, hvv⟩
  rw [(DidAccountCache.get_verified row.did s).verifiedDids]
  exact hv

theorem VersionsAgree.submit {anchor : Json} {opts : SubmitOpts} (h : VersionsAgree s)
    (hsafe : VersionSafe V s (.store (.submit now anchor opts))) :
    VersionsAgree (AnchorStore.submit V.toEnv now anchor opts s).2 := by
  have hwritten := submit_written V.toEnv now anchor opts s
  dsimp only [VersionSafe] at hsafe
  generalize AnchorStore.submit V.toEnv now anchor opts s = r at hwritten hsafe ⊢
  cases hwritten with
  | refused e => exact h
  | pending row t hstate => exact h.anchors t
  | active row t hstate =>
    have hconfirms := hsafe row rfl hstate
    rw [(syncCache_core V.toEnv now row { s with identityAnchors := t }).anchors] at hconfirms
    exact (h.anchors t).syncCache hconfirms

theorem VersionsAgree.promotions {l : List IdentityAnchor} (h : VersionsAgree s)
    (hsafe : PromotionsConfirmed E now l s) :
    VersionsAgree (l.foldl (fun s r => promoteOne E now r s) s) := by
  induction l generalizing s with
  | nil => exact h
  | cons r l ih =>
    obtain ⟨hr, hl⟩ := hsafe
    refine ih ?_ hl
    dsimp only
    rcases promoteOne_written E now r s with hs | ⟨t, row, ht, hs⟩
    · rw [hs]
      exact h
    · rw [hs]
      exact (h.anchors t).syncCache (hr t row ht)

/-! ### Registrations -/

theorem slotOf_refresh {e : AccountEntry} (h : IdentityV2.slotOf reg s = (.refresh e, t)) :
    (DidAccountCache.get reg.did s).1 = some e ∧
      (e.signingAlgorithm, e.publicKeyHex) = (reg.algorithm, reg.publicKeyHex) := by
  unfold IdentityV2.slotOf at h
  generalize DidAccountCache.get reg.did s = r at h
  obtain ⟨account, u⟩ := r
  dsimp only at h
  generalize DidAccountCache.getByHandle reg.handle u = r at h
  obtain ⟨owner, w⟩ := r
  have hslot := (Prod.mk.inj h).1
  split at hslot
  · split at hslot
    · next hsame =>
      obtain rfl := IdentityV2.Slot.refresh.inj hslot
      exact ⟨rfl, Prod.ext hsame.2.2 hsame.2.1⟩
    · cases hslot
  · cases hslot
  · split at hslot <;> cases hslot
  · cases hslot

theorem slotOf_fresh (h : IdentityV2.slotOf reg s = (.fresh, t)) :
    (DidAccountCache.get reg.did s).1 = none := by
  unfold IdentityV2.slotOf at h
  generalize DidAccountCache.get reg.did s = r at h
  obtain ⟨account, u⟩ := r
  dsimp only at h
  generalize DidAccountCache.getByHandle reg.handle u = r at h
  obtain ⟨owner, w⟩ := r
  have hslot := (Prod.mk.inj h).1
  split at hslot
  · split at hslot <;> cases hslot
  · cases hslot
  · rfl
  · rfl

theorem getByHandle_rows (handle : String) (s : Relay) :
    (DidAccountCache.getByHandle handle s).2.didAccounts = s.didAccounts := by
  unfold DidAccountCache.getByHandle
  split
  · rfl
  split
  · rfl
  next account _ =>
  dsimp only
  have hrows := getFromDb_rows (DidAccountCache.canonicalDidForAccount s account.did) s
  generalize DidAccountCache.getFromDb (DidAccountCache.canonicalDidForAccount s account.did) s = r
    at hrows
  obtain ⟨_ | _, t⟩ := r <;> exact hrows

theorem Registers.rows {params : Json} {slot : IdentityV2.Slot}
    (h : Registers E now params s reg slot t) : t.didAccounts = s.didAccounts := by
  have ht : t = (IdentityV2.slotOf reg (IdentityV2.admission E now params s).2).2 := by
    rw [h.slot_eq]
  rw [ht, IdentityV2.slotOf_eq, getByHandle_rows, get_rows]
  exact (IdentityV2.admission_same E now params s).accounts.didAccounts

theorem VersionsAgree.anchor {params : Json} (h : VersionsAgree s)
    (hsafe : VersionSafe V s (.anchor now params)) :
    VersionsAgree (IdentityV2.anchor V.toEnv now params s).2 := by
  have hadmitted := IdentityV2.admission_same V.toEnv now params s
  have hs := versionsAgree_stable.nonces h hadmitted
  have hmem : ∀ {reg slot t a}, Registers V.toEnv now params s reg slot t →
      a ∈ t.didAccounts.rows →
      a ∈ s.didAccounts.rows ∧
        a ∈ (IdentityV2.admission V.toEnv now params s).2.didAccounts.rows := by
    intro reg slot t a hreg ha
    rw [hreg.rows] at ha
    exact ⟨ha, hadmitted.accounts.didAccounts.symm ▸ ha⟩
  -- a free slot is that of a DID without an account
  have hfree : ∀ {reg t}, Registers V.toEnv now params s reg .fresh t →
      ∀ a ∈ t.didAccounts.rows, a.did ≠ reg.did := by
    intro reg t hreg a ha had
    obtain ⟨e, he, -⟩ := hs.get_of_mem (hmem hreg ha).2
    rw [had, slotOf_fresh hreg.slot_eq] at he
    cases he
  refine versionsAgree_stable.anchor_writes h (fun reg e t hreg ht => ?_)
    (fun reg t u hreg ht hu => ?_) fun reg t u hreg ht hu => ?_
  · obtain ⟨hget, hkey⟩ := slotOf_refresh hreg.slot_eq
    refine ht.putIdentity fun a ha had => ?_
    obtain ⟨e', he', hsame⟩ := hs.get_of_mem (hmem hreg ha).2
    rw [had, hget] at he'
    cases he'
    exact ⟨hsafe reg _ t hreg a (hmem hreg ha).1 had, hsame.key.symm.trans hkey⟩
  · exact ht.put_raised (hfree hreg) hu
  · exact ht.fresh (hfree hreg) hu (hsafe reg _ t hreg)

/-- **Every safe call keeps the agreement.** -/
theorem VersionsAgree.step (s : Relay) (act : IdentityAction) (h : VersionsAgree s)
    (hsafe : VersionSafe V s act) : VersionsAgree (identityStep V s act) := by
  cases act with
  | register now fresh params => exact versionsAgree_stable.register h
  | anchor now params => exact h.anchor hsafe
  | rotateKey now params =>
    exact versionsAgree_stable.rotateKey h fun rot _ t _ ht => ht.rotated ..
  | store act =>
    cases act with
    | submit now anchor opts => exact h.submit hsafe
    | promoteDue now => exact h.promotions hsafe
    | veto did cid sig =>
      exact h.of_accounts (veto_accounts V.toPlatform did cid sig s)
        (veto_verified V.toPlatform did cid sig s).verifiedDids
  | present now limited params =>
    refine versionsAgree_stable.present h fun did e t tier hpresents ht =>
      ht.present hpresents ?_
    obtain ⟨a, ha, had⟩ := hsafe did e t hpresents
    have ht : t = (DidAccountCache.get did s).2 := by rw [hpresents.account_eq]
    refine ⟨a, ?_, had⟩
    rw [ht, get_rows]
    exact ha
  | migrate params =>
    rcases MigrationStore.submit_leaves V.toPlatform params s with
      ⟨hs, -⟩ | ⟨row, t, -, -, -, hs⟩
    · rw [identityStep, hs]
      exact h
    · rw [identityStep, hs]
      exact h.of_same rfl rfl fun a _ e he => .inl (Ets.of_delete (Ets.of_delete he).2).2
  | account did => exact h.get did
  | accountByHandle handle => exact h.getByHandle handle
  | identity now did => exact versionsAgree_stable.identity now did h
  | sweepExpired now => exact h.of_accounts ⟨rfl, rfl, rfl⟩ rfl
  | restart => exact h.of_same rfl rfl fun _ _ _ he => by cases he

/-! ### Runs -/

/-- What agreement means: an account and its verified identity hold one key under one version,
and a rotation of the current key that both keys have signed succeeds. -/
structure VersionAgreement (E : Env) (s : Relay) : Prop where
  recorded : ∀ a ∈ s.didAccounts.rows, ∃ v ∈ s.verifiedDids.rows, OneKey a v
  rotates : RotationsSucceed E s

/-- **In every run of safe calls the records agree and rotations succeed.**  The invariant ties
each account to a verified identity with its key and version, and what is cached to both. -/
theorem versions_agree (V : VpEnv) (acts : List IdentityAction)
    (hsafe : Along (identityStep V) (VersionSafe V) Relay.empty acts) :
    VersionAgreement V.toEnv (exec (identityStep V) Relay.empty acts) := by
  have h := hsafe.invariant (fun s act h hact => VersionsAgree.step s act h hact)
    versionsAgree_empty
  exact ⟨h.recorded, h.rotate_succeeds⟩

/-! ### Rotations on the toy platform -/

open Reputation (toyVpEnv toyDid)

/-- The rotation of a DID from the key `m` at a version to the key `n`. -/
def toyKeyRotation (did : String) (m n : UInt8) (version : ℤ) : Json :=
  let unsigned : Json := .obj [("did", .str did), ("expected_key_version", .int version),
    ("issued_at", .str "1970-01-01T00:00:00Z"), ("new_custody", .str "hardware"),
    ("new_public_key_hex", .str (toyKeyHex n)), ("new_signing_algorithm", .str "p256-sha256")]
  unsigned.merge [("old_signature", .str (toySign m (IdentityV2.rotationPayload unsigned))),
    ("new_signature", .str (toySign n (IdentityV2.rotationPayload unsigned)))]

/-- Alice registers and rotates her key. -/
def rotatedKeyRun : List IdentityAction :=
  [.register 0 "nonce" (toyRegister 1 "alice"),
    .anchor 0 (toyRegistration 1 toyDid "alice.elix.cool" "nonce"),
    .rotateKey 0 (toyKeyRotation toyDid 1 2 1)]

/-- She registers again under the new key. -/
def registeredAgain : List IdentityAction :=
  rotatedKeyRun ++ [.register 0 "again" (toyRegister 2 "alice"),
    .anchor 0 (toyRegistration 2 toyDid "alice.elix.cool" "again")]

theorem rotatedKey_safe :
    Along (identityStep toyVpEnv) (VersionSafe toyVpEnv) Relay.empty rotatedKeyRun := by
  refine ⟨trivial, fun reg slot t hreg => ?_, trivial, trivial⟩
  have hdid : reg.did = toyDid := by
    have hadmitted : ((IdentityV2.admission toyVpEnv.toEnv 0
        (toyRegistration 1 toyDid "alice.elix.cool" "nonce")
        (identityStep toyVpEnv Relay.empty
          (.register 0 "nonce" (toyRegister 1 "alice")))).1.toOption.map (·.did))
            = some toyDid := by
      decide +kernel
    rw [hreg.admitted] at hadmitted
    exact Option.some.inj hadmitted
  cases slot with
  | refresh e =>
    have hnone : (identityStep toyVpEnv Relay.empty
        (.register 0 "nonce" (toyRegister 1 "alice"))).didAccounts.rows.length = 0 := by
      decide +kernel
    intro a ha
    rw [List.eq_nil_of_length_eq_zero hnone] at ha
    cases ha
  | fresh =>
    dsimp only [SlotSafe]
    rw [hdid]
    decide +kernel
  | duplicateDid => trivial
  | handleTaken => trivial

theorem versions_agree_rotatedKey :
    VersionAgreement toyVpEnv.toEnv (exec (identityStep toyVpEnv) Relay.empty rotatedKeyRun) :=
  versions_agree toyVpEnv rotatedKeyRun rotatedKey_safe

/-- The account stays at version two, the verified identity is back at version one. -/
theorem versions_differ : ¬ VersionAgreement toyVpEnv.toEnv
    (exec (identityStep toyVpEnv) Relay.empty registeredAgain) := by
  have hversions : (∃ a ∈ (exec (identityStep toyVpEnv) Relay.empty
        registeredAgain).didAccounts.rows, a.keyVersion = 2) ∧
      ∀ v ∈ (exec (identityStep toyVpEnv) Relay.empty registeredAgain).verifiedDids.rows,
        v.keyVersion = 1 := by decide +kernel
  intro h
  obtain ⟨⟨a, ha, htwo⟩, hone⟩ := hversions
  obtain ⟨v, hv, hav⟩ := h.recorded a ha
  have hcontra := hav.version
  rw [hone v hv, htwo] at hcontra
  cases hcontra

end Ansible
