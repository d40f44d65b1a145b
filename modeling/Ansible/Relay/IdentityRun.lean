import Ansible.Relay.AnchorChain
import Ansible.Relay.AnchorSync
import Ansible.Relay.Migration
import Ansible.Relay.Reputation

/-!
# Runs of a relay

Everything that writes accounts, verified identities or anchors: registration with passkeys,
the anchor store, rotations, presentations, migrations, the lookups of every other endpoint,
the sweep and a restart.  For each endpoint a rule says what a property of the state must
survive for the endpoint to preserve it.

## Main definitions

* `IdentityAction`, `identityStep` — the machine.
* `Registers`, `Rotates`, `Presents` — a request that has passed its checks, in the state it then
  writes.

## Main results

* `Stable.register`, `Stable.anchor`, `Stable.rotateKey`, `Stable.present` — the rules of the
  endpoints.
-/

namespace Ansible

/-! ### The machine -/

inductive IdentityAction
  | register (now : Time) (fresh : String) (params : Json)
  | anchor (now : Time) (params : Json)
  | rotateKey (now : Time) (params : Json)
  | store (act : AnchorStore.AnchorAction)
  | present (now : Time) (limited : Option Json) (params : Json)
  | migrate (params : Json)
  /-- The lookups of the other endpoints. -/
  | account (did : String)
  | accountByHandle (handle : String)
  | identity (now : Time) (did : String)
  | sweepExpired (now : Time)
  | restart

/-- The attestations, which `present` also writes, affect nothing here. -/
def identityStep (V : VpEnv) (s : Relay) : IdentityAction → Relay
  | .register now fresh params => (IdentityV2.register V.toEnv now fresh params s).2
  | .anchor now params => (IdentityV2.anchor V.toEnv now params s).2
  | .rotateKey now params => (IdentityV2.rotateKey V.toEnv now params s).2
  | .store act => AnchorStore.anchorStep V.toEnv s act
  | .present now limited params => (Reputation.present V now limited params s fun _ => none).2.1
  | .migrate params => (MigrationStore.submit V.toPlatform params s).2
  | .account did => (DidAccountCache.get did s).2
  | .accountByHandle handle => (DidAccountCache.getByHandle handle s).2
  | .identity now did => (IdentityCache.get now did s).2
  | .sweepExpired now => IdentityCache.sweepExpired now s
  | .restart => s.restart

/-! ### Rules -/

/-- A property that lookups and nonces preserve. -/
structure Stable (I : Relay → Prop) : Prop where
  nonces : ∀ {s s'}, I s → s.SameButNonces s' → I s'
  account : ∀ {s} did, I s → I (DidAccountCache.get did s).2
  accountByHandle : ∀ {s} handle, I s → I (DidAccountCache.getByHandle handle s).2
  identity : ∀ {s} now did, I s → I (IdentityCache.get now did s).2

/-- The registration is admitted, and its slot is read in the state `t`. -/
structure Registers (E : Env) (now : Time) (params : Json) (s : Relay)
    (reg : IdentityV2.Admitted) (slot : IdentityV2.Slot) (t : Relay) : Prop where
  admitted : (IdentityV2.admission E now params s).1 = .ok reg
  slot_eq : IdentityV2.slotOf reg (IdentityV2.admission E now params s).2 = (slot, t)

/-- The rotation of the current key is signed by that key and by the new one. -/
structure Rotates (E : Env) (now : Time) (params : Json) (s : Relay) (rot : IdentityV2.Rotation)
    (current : AccountEntry) (t : Relay) : Prop where
  fields : IdentityV2.rotationFields E now params = .ok rot
  current_eq : DidAccountCache.get rot.did s = (some current, t)
  version : current.keyVersion = rot.expectedVersion
  oldSigned : IdentityV2.rotationSigned E.toPlatform current.signingAlgorithm
    current.publicKeyHex params rot.oldSignature = true
  newSigned : IdentityV2.rotationSigned E.toPlatform rot.algorithm rot.publicKeyHex params
    rot.newSignature = true

/-- The holder of a presentation has an account, which is read in the state `t`. -/
structure Presents (params : Json) (s : Relay) (did : String) (e : AccountEntry) (t : Relay) :
    Prop where
  fields : ∃ vp, Reputation.requestFields params = .ok (did, vp)
  account_eq : DidAccountCache.get did s = (some e, t)

theorem Presents.cached {params : Json} {s t : Relay} {did : String} {e : AccountEntry}
    (h : Presents params s did e t) : DidAccountCache.get did t = (some e, t) := by
  have hget := DidAccountCache.get_get (congrArg Prod.fst h.account_eq)
  rwa [h.account_eq] at hget

/-- The account that an admitted registration stores. -/
def putAccount (E : Env) (now : Time) (reg : IdentityV2.Admitted) (s : Relay) :
    WriteResult × Relay :=
  DidAccountCache.put E now reg.did reg.publicKeyHex reg.handle
    { signingAlgorithm := reg.algorithm } s

namespace Stable

variable {I : Relay → Prop} (hI : Stable I) {E : Env} {now : Time} {params : Json} {s : Relay}

include hI

theorem issueNonce {fresh key handle : String} (hs : I s) :
    I (IdentityV2.issueRegistrationNonce now fresh key handle s).2 := by
  have hsame := DidAccountCache.issueNonce_same now fresh key handle s
  unfold IdentityV2.issueRegistrationNonce
  generalize DidAccountCache.issueNonce now fresh key handle s = r at hsame
  obtain ⟨_ | e, t⟩ := r
  · exact hI.nonces hs hsame
  · exact hI.nonces hs hsame

/-- `register` only reads. -/
theorem register {fresh : String} (hs : I s) : I (IdentityV2.register E now fresh params s).2 := by
  unfold IdentityV2.register
  split
  · exact hs
  next algorithm key suffix _ =>
  dsimp only
  have hhandle := hI.accountByHandle (IdentityV2.handleOf E suffix) hs
  generalize DidAccountCache.getByHandle (IdentityV2.handleOf E suffix) s = r at hhandle
  obtain ⟨_ | did, t⟩ := r
  · exact hI.issueNonce hhandle
  dsimp only at hhandle ⊢
  have haccount := hI.account did hhandle
  generalize DidAccountCache.get did t = r at haccount
  obtain ⟨_ | entry, u⟩ := r
  · exact haccount
  dsimp only at haccount ⊢
  split
  · exact hI.issueNonce haccount
  · exact haccount

theorem registers {reg : IdentityV2.Admitted} {slot : IdentityV2.Slot} {t : Relay} (hs : I s)
    (h : Registers E now params s reg slot t) : I t := by
  have hadmitted := hI.nonces hs (IdentityV2.admission_same E now params s)
  have ht : t = (IdentityV2.slotOf reg (IdentityV2.admission E now params s).2).2 := by
    rw [h.slot_eq]
  rw [ht, IdentityV2.slotOf_eq]
  exact hI.accountByHandle _ (hI.account _ hadmitted)

/-- `anchor` writes the identity when the slot is the registration's own, and the account and
the identity when it is free; an account that the database refuses is the end of it. -/
theorem anchor_writes (hs : I s)
    (hrefresh : ∀ reg e t, Registers E now params s reg (.refresh e) t → I t →
      I (IdentityV2.putIdentity E now reg t).2)
    (hraised : ∀ reg t u, Registers E now params s reg .fresh t → I t →
      putAccount E now reg t = (.raised, u) → I u)
    (hfresh : ∀ reg t u, Registers E now params s reg .fresh t → I t →
      putAccount E now reg t = (.ok, u) → I (IdentityV2.putIdentity E now reg u).2) :
    I (IdentityV2.anchor E now params s).2 := by
  unfold IdentityV2.anchor
  have hadmitted := hI.nonces hs (IdentityV2.admission_same E now params s)
  cases hreg : IdentityV2.admission E now params s with
  | mk r s₁ =>
  rw [hreg] at hadmitted
  cases r with
  | error e => exact hadmitted
  | ok reg =>
  dsimp only at hadmitted ⊢
  unfold IdentityV2.anchorVerifiedDid
  cases hslot : IdentityV2.slotOf reg s₁ with
  | mk slot t =>
  have hregisters : Registers E now params s reg slot t := ⟨by rw [hreg], by rw [hreg]; exact hslot⟩
  have ht : I t := hI.registers hs hregisters
  cases slot with
  | duplicateDid => exact ht
  | handleTaken => exact ht
  | refresh e =>
    have hidentity := hrefresh reg e t hregisters ht
    dsimp only
    generalize IdentityV2.putIdentity E now reg t = w at hidentity
    obtain ⟨_ | _, u⟩ := w
    · exact hidentity
    · exact hidentity
  | fresh =>
    dsimp only
    cases hw : putAccount E now reg t with
    | mk result u =>
    have hput := hw
    rw [putAccount] at hw
    rw [hw]
    -- the endpoint stops at an account that the database refuses
    cases result with
    | raised => exact hraised reg t u hregisters ht hput
    | ok =>
      have hidentity := hfresh reg t u hregisters ht hput
      dsimp only
      generalize IdentityV2.putIdentity E now reg u = w at hidentity
      obtain ⟨_ | _, v⟩ := w
      · have hget := hI.account reg.did hidentity
        dsimp only at hget ⊢
        generalize DidAccountCache.get reg.did v = g at hget
        obtain ⟨_ | entry, x⟩ := g
        · exact hget
        · exact hget
      · exact hidentity

/-- The rule for a property that the write of an account keeps by itself. -/
theorem anchor (hs : I s)
    (hrefresh : ∀ reg e t, Registers E now params s reg (.refresh e) t → I t →
      I (IdentityV2.putIdentity E now reg t).2)
    (hput : ∀ reg t, Registers E now params s reg .fresh t → I t → I (putAccount E now reg t).2)
    (hfresh : ∀ reg t u, Registers E now params s reg .fresh t → putAccount E now reg t = (.ok, u) →
      I u → I (IdentityV2.putIdentity E now reg u).2) :
    I (IdentityV2.anchor E now params s).2 := by
  have haccount : ∀ {reg t result u}, Registers E now params s reg .fresh t → I t →
      putAccount E now reg t = (result, u) → I u := by
    intro reg t result u hreg ht hu
    have h := hput reg t hreg ht
    rwa [hu] at h
  refine hI.anchor_writes hs hrefresh (fun reg t u hreg ht hu => haccount hreg ht hu) ?_
  intro reg t u hreg ht hu
  exact hfresh reg t u hreg hu (haccount hreg ht hu)

/-- `rotate_key` writes when both keys have signed. -/
theorem rotateKey (hs : I s)
    (hrotate : ∀ rot current t, Rotates E now params s rot current t → I t →
      I (DidAccountCache.rotateKey rot.did rot.expectedVersion rot.publicKeyHex
        rot.algorithm t).2) :
    I (IdentityV2.rotateKey E now params s).2 := by
  unfold IdentityV2.rotateKey
  split
  · exact hs
  next rot hfields =>
  have hget := hI.account rot.did hs
  cases hcurrent : DidAccountCache.get rot.did s with
  | mk r t =>
  rw [hcurrent] at hget
  cases r with
  | none => exact hget
  | some current =>
  dsimp only at hget ⊢
  split
  · next hsigned =>
    obtain ⟨hversion, hold, hnew⟩ := hsigned
    have hwrite := hrotate rot current t ⟨hfields, hcurrent, hversion, hold, hnew⟩ hget
    generalize DidAccountCache.rotateKey rot.did rot.expectedVersion rot.publicKeyHex
      rot.algorithm t = w at hwrite
    obtain ⟨_ | _, u⟩ := w
    · exact hwrite
    · exact hwrite
  · exact hget

omit hI in
/-- A tier is raised in a state in which the account is cached. -/
theorem upgradeTier {did tier : String} {assurance : HumanAssurance} {key : Option String}
    {t : Relay} {e : AccountEntry} (ht : I t) (hcached : DidAccountCache.get did t = (some e, t))
    (hraise : ∀ tier, I (DidAccountCache.put E now did e.publicKeyHex e.handle
      { reputationTier := tier, signingAlgorithm := e.signingAlgorithm,
        keyVersion := e.keyVersion } t).2) :
    I (Reputation.upgradeTier E now did tier assurance key t).2 := by
  unfold Reputation.upgradeTier
  rw [hcached]
  dsimp only
  split
  · have h := hraise tier
    generalize DidAccountCache.put E now did e.publicKeyHex e.handle _ t = w at h
    obtain ⟨_ | _, u⟩ := w
    · exact h
    · exact h
  · exact ht

/-- `present` writes the account of the holder back, under a higher tier. -/
theorem present {V : VpEnv} {limited : Option Json} {attestations : AttestationTable} (hs : I s)
    (hraise : ∀ did e t tier, Presents params s did e t → I t →
      I (DidAccountCache.put V.toEnv now did e.publicKeyHex e.handle
        { reputationTier := tier, signingAlgorithm := e.signingAlgorithm,
          keyVersion := e.keyVersion } t).2) :
    I (Reputation.present V now limited params s attestations).2.1 := by
  unfold Reputation.present
  split
  · exact hs
  split
  · exact hs
  next did vp hfields =>
  have hread : I
    (Reputation.verifyPresentation V now did vp (params.fetch "nostr_binding") s).2 := by
    unfold Reputation.verifyPresentation
    split
    · exact Reputation.verify_state ▸ hI.account did hs
    · exact Reputation.verify_state ▸ hI.account did hs
    · exact hs
  generalize hr : Reputation.verifyPresentation V now did vp (params.fetch "nostr_binding") s = r
    at hread
  obtain ⟨_ | ⟨credentialType, key⟩, t⟩ := r
  · exact hread
  dsimp only at hread ⊢
  obtain ⟨e, he⟩ : ∃ e, (DidAccountCache.get did s).1 = some e :=
    Reputation.account_of_verified (by rw [hr])
  have ht : t = (DidAccountCache.get did s).2 := by
    have hstate := Reputation.verifyPresentation_state (congrArg Prod.fst hr)
    rwa [hr] at hstate
  have hpresents : Presents params s did e t := ⟨⟨vp, hfields⟩, by rw [ht, ← he]⟩
  have hcached := hpresents.cached
  unfold Reputation.grant
  dsimp only
  split
  · exact hread
  next assurance _ =>
  -- storing the attestation does not touch the accounts
  have hpersist : (Reputation.persistAttestationIfNotDowngrade now did credentialType
      assurance.compatibilityTier vp t attestations).1 = t := by
    unfold Reputation.persistAttestationIfNotDowngrade
    rw [hcached]
    dsimp only
    repeat' split
    all_goals rfl
  rw [hpersist]
  exact upgradeTier hread hcached fun tier => hraise did e t tier hpresents hread

end Stable

/-! ### Requests of the toy platform -/

/-- The request of a nonce for the key `n`. -/
def toyRegister (n : UInt8) (suffix : String) : Json :=
  .obj [("public_key_hex", .str (toyKeyHex n)), ("handle_suffix", .str suffix),
    ("signing_algorithm", .str "p256-sha256")]

/-- The registration of a DID under a handle, which the key `n` signs. -/
def toyRegistration (n : UInt8) (did handle nonce : String) : Json :=
  .obj [("did", .str did), ("public_key_hex", .str (toyKeyHex n)), ("handle", .str handle),
    ("registration_sig", .str (toySign n (chars nonce))), ("nonce", .str nonce),
    ("signing_algorithm", .str "p256-sha256")]

end Ansible
