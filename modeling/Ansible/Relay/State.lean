import Ansible.Lib.Table
import Ansible.Relay.SigVerifier

/-!
# The durable and the in-memory state of a relay

The tables of the database, each with its unique indexes, and the ETS tables of the
two identity caches, which a restart empties.  The index of nullifiers is left out: no
operation of these modules reads it.

## Main definitions

* `IdentityAnchor`, `AnchorTable` — the nodes of the anchor chains.
* `DidAccount`, `VerifiedDid`, `DidElixMigration` and their tables.
* `AccountEntry`, `IdentityEntry` — what the caches hold.
* `Relay` — the whole state; `Relay.empty` — that of a new deployment.
* `Relay.SameCore`, `SameVerified`, `SameAccounts` — two states agree on a part;
  `SameButNonces` — they differ at most in the nonces of registrations.
* `IdentityBinding`, `AccountBinding` — the keys that the caches hold for a DID.
-/

namespace Ansible

/-! ### `identity_anchors` -/

inductive AnchorState
  | active
  | pending
  | vetoed
  | superseded
  deriving DecidableEq, Repr

inductive Reason
  | initial
  | rotation
  | recovery
  | deviceChange
  deriving DecidableEq, Repr

/-- A row of `identity_anchors`.  `devices` are the records of the enrolled devices. -/
structure IdentityAnchor where
  did : String
  anchorCid : String
  prevAnchorCid : Option String
  reason : Reason
  identityKey : String
  identityKeyAlgorithm : String
  genesisCommitment : Option Json
  handle : String
  custodyClass : String
  schemaVersion : ℤ
  devices : List Json
  sig : String
  deviceSig : Option String
  authorizationSig : Option String
  canonicalBody : Text
  state : AnchorState
  graceUntil : Option Time

namespace IdentityAnchor

def isActive (a : IdentityAnchor) : Bool := a.state == .active

/-- The row belongs to the chain that is served: it is or was active. -/
def isServed (a : IdentityAnchor) : Bool := a.state == .active || a.state == .superseded

def hasKey (did cid : String) (a : IdentityAnchor) : Bool := a.did == did && a.anchorCid == cid

/-- The row after `set: [state: ..]`. -/
def withState (st : AnchorState) (a : IdentityAnchor) : IdentityAnchor := { a with state := st }

/-- The row after `set: [state: .., grace_until: nil]`. -/
def settle (st : AnchorState) (a : IdentityAnchor) : IdentityAnchor :=
  { a with state := st, graceUntil := none }

end IdentityAnchor

/-- The unique indexes of `identity_anchors`. -/
structure AnchorIndexes (rows : List IdentityAnchor) : Prop where
  did_anchor_cid : UniqueOn (fun a => (a.did, a.anchorCid)) (fun _ => true) rows
  one_active_per_did : UniqueOn (·.did) IdentityAnchor.isActive rows

instance : DecidablePred AnchorIndexes := fun rows =>
  decidable_of_iff (UniqueOn (fun a : IdentityAnchor => (a.did, a.anchorCid)) (fun _ => true) rows ∧
    UniqueOn (·.did) IdentityAnchor.isActive rows) ⟨fun h => ⟨h.1, h.2⟩, fun h => ⟨h.1, h.2⟩⟩

abbrev AnchorTable := Table IdentityAnchor AnchorIndexes

namespace AnchorTable

/-- `Repo.get_by(IdentityAnchor, did: did, state: "active")` -/
def activeAnchor (t : AnchorTable) (did : String) : Option IdentityAnchor :=
  t.find fun a => a.did == did && a.isActive

theorem activeAnchor_eq_some {t : AnchorTable} {did : String} {a : IdentityAnchor} :
    t.activeAnchor did = some a ↔ a ∈ t.rows ∧ a.did = did ∧ a.state = .active := by
  rw [activeAnchor, Table.find_eq_some_iff]
  · simp [IdentityAnchor.isActive]
  · intro a ha b hb hpa hpb
    rw [Bool.and_eq_true, beq_iff_eq] at hpa hpb
    exact t.valid.one_active_per_did.eq ha hb hpa.2 hpb.2 (hpa.1.trans hpb.1.symm)

theorem activeAnchor_eq_none {t : AnchorTable} {did : String} :
    t.activeAnchor did = none ↔ ∀ a ∈ t.rows, a.did = did → a.state ≠ .active := by
  simp [activeAnchor, Table.find_eq_none, IdentityAnchor.isActive]

theorem eq_of_key {t : AnchorTable} {a b : IdentityAnchor} (ha : a ∈ t.rows) (hb : b ∈ t.rows)
    (hdid : a.did = b.did) (hcid : a.anchorCid = b.anchorCid) : a = b :=
  t.valid.did_anchor_cid.eq ha hb rfl rfl (Prod.ext hdid hcid)

end AnchorTable

/-- A row of `identity_account_freezes`. -/
structure IdentityAccountFreeze where
  did : String
  vetoedAnchorCid : String

/-! ### Accounts, verified identities and migrations -/

/-- A row of `did_accounts`. -/
structure DidAccount where
  did : String
  publicKeyHex : String
  signingAlgorithm : String
  keyVersion : ℤ
  handle : String
  reputationTier : String
  expiresAt : Time
  pdsEndpoint : String := "https://elix.cool"

structure AccountIndexes (rows : List DidAccount) : Prop where
  did : UniqueOn (·.did) (fun _ => true) rows
  handle : UniqueOn (·.handle) (fun _ => true) rows

instance : DecidablePred AccountIndexes := fun rows =>
  decidable_of_iff (UniqueOn (fun a : DidAccount => a.did) (fun _ => true) rows ∧
    UniqueOn (·.handle) (fun _ => true) rows) ⟨fun h => ⟨h.1, h.2⟩, fun h => ⟨h.1, h.2⟩⟩

abbrev AccountTable := Table DidAccount AccountIndexes

/-- A row of `verified_dids`. -/
structure VerifiedDid where
  did : String
  publicKeyHex : String
  signingAlgorithm : String
  keyVersion : ℤ
  nullifier : String
  expiresAt : Time

structure VerifiedIndexes (rows : List VerifiedDid) : Prop where
  did : UniqueOn (·.did) (fun _ => true) rows
  nullifier : UniqueOn (·.nullifier) (fun _ => true) rows

instance : DecidablePred VerifiedIndexes := fun rows =>
  decidable_of_iff (UniqueOn (fun a : VerifiedDid => a.did) (fun _ => true) rows ∧
    UniqueOn (·.nullifier) (fun _ => true) rows) ⟨fun h => ⟨h.1, h.2⟩, fun h => ⟨h.1, h.2⟩⟩

abbrev VerifiedTable := Table VerifiedDid VerifiedIndexes

/-- A row of `did_elix_migrations`; its state is always `completed`. -/
structure DidElixMigration where
  legacyDid : String
  v1Did : String
  handle : String
  canonicalBody : Text
  legacySig : String
  v1Sig : String

structure MigrationIndexes (rows : List DidElixMigration) : Prop where
  legacy_did : UniqueOn (·.legacyDid) (fun _ => true) rows
  v1_did : UniqueOn (·.v1Did) (fun _ => true) rows

instance : DecidablePred MigrationIndexes := fun rows =>
  decidable_of_iff (UniqueOn (fun m : DidElixMigration => m.legacyDid) (fun _ => true) rows ∧
    UniqueOn (·.v1Did) (fun _ => true) rows) ⟨fun h => ⟨h.1, h.2⟩, fun h => ⟨h.1, h.2⟩⟩

abbrev MigrationTable := Table DidElixMigration MigrationIndexes

/-! ### The caches -/

/-- An entry of `:did_account_cache`. -/
structure AccountEntry where
  publicKeyHex : String
  signingAlgorithm : String
  keyVersion : ℤ
  handle : String
  reputationTier : String
  expiresAt : Time
  pdsEndpoint : String := "https://elix.cool"

/-- An entry of `:verified_did_cache`. -/
structure IdentityEntry where
  publicKeyHex : String
  signingAlgorithm : String
  keyVersion : ℤ
  nullifier : Option String
  expiresAt : Time

/-- An entry of `:registration_nonces`. -/
structure NonceEntry where
  nonce : String
  expiresAt : Time
  handle : String

/-- An entry of `:pending_handles`. -/
structure PendingHandle where
  publicKeyHex : String
  expiresAt : Time

/-- An ETS table of type `:set`. -/
abbrev Ets (β : Type) := String → Option β

namespace Ets

variable {β : Type}

def insert (t : Ets β) (k : String) (v : β) : Ets β := fun x => if x = k then some v else t x

def delete (t : Ets β) (k : String) : Ets β := fun x => if x = k then none else t x

@[simp] theorem insert_self (t : Ets β) (k : String) (v : β) : t.insert k v k = some v := by
  simp [insert]

theorem insert_of_ne {t : Ets β} {k x : String} {v : β} (h : x ≠ k) : t.insert k v x = t x := by
  simp [insert, h]

theorem of_insert {t : Ets β} {k x : String} {v w : β} (h : t.insert k v x = some w) :
    t x = some w ∨ (x = k ∧ v = w) := by
  by_cases hx : x = k
  · subst hx
    exact .inr ⟨rfl, by simpa using h⟩
  · exact .inl (by rwa [insert_of_ne hx] at h)

theorem of_delete {t : Ets β} {k x : String} {w : β} (h : t.delete k x = some w) :
    x ≠ k ∧ t x = some w := by
  unfold delete at h
  split at h
  · cases h
  · next hx => exact ⟨hx, h⟩

@[simp] theorem delete_self (t : Ets β) (k : String) : t.delete k k = none := by simp [delete]

end Ets

/-! ### The whole state -/

/-- The state of a relay: the database and, below, the ETS tables. -/
structure Relay where
  identityAnchors : AnchorTable
  accountFreezes : List IdentityAccountFreeze
  didElixMigrations : MigrationTable
  didAccounts : AccountTable
  verifiedDids : VerifiedTable
  didAccountCache : Ets AccountEntry
  handleIndex : Ets String
  registrationNonces : Ets NonceEntry
  pendingHandles : Ets PendingHandle
  verifiedDidCache : Ets IdentityEntry

namespace Relay

/-- A new deployment: nothing stored and nothing cached. -/
def empty : Relay where
  identityAnchors := ⟨[], by decide⟩
  accountFreezes := []
  didElixMigrations := ⟨[], by decide⟩
  didAccounts := ⟨[], by decide⟩
  verifiedDids := ⟨[], by decide⟩
  didAccountCache := fun _ => none
  handleIndex := fun _ => none
  registrationNonces := fun _ => none
  pendingHandles := fun _ => none
  verifiedDidCache := fun _ => none

/-- A restart keeps the database and empties the ETS tables. -/
def restart (s : Relay) : Relay :=
  { s with
    didAccountCache := fun _ => none
    handleIndex := fun _ => none
    registrationNonces := fun _ => none
    pendingHandles := fun _ => none
    verifiedDidCache := fun _ => none }

/-- `AnchorStore.frozen?` -/
def frozen (s : Relay) (did : String) : Bool := s.accountFreezes.any (·.did == did)

def activeAnchor (s : Relay) (did : String) : Option IdentityAnchor :=
  s.identityAnchors.activeAnchor did

/-- `MigrationStore.canonical_did_result`: the v1 DID for either side of a pair. -/
def canonicalDid (s : Relay) (did : String) : String :=
  match s.didElixMigrations.find fun m => m.legacyDid == did || m.v1Did == did with
  | some m => m.v1Did
  | none => did

end Relay

/-! ### Frames -/

/-- The two states agree on anchors, freezes and migrations. -/
structure Relay.SameCore (s s' : Relay) : Prop where
  anchors : s'.identityAnchors = s.identityAnchors
  freezes : s'.accountFreezes = s.accountFreezes
  migrations : s'.didElixMigrations = s.didElixMigrations

theorem Relay.SameCore.refl (s : Relay) : s.SameCore s := ⟨rfl, rfl, rfl⟩

variable {s₁ s₂ s₃ s s' : Relay}

theorem Relay.SameCore.trans (h : s₁.SameCore s₂) (h' : s₂.SameCore s₃) : s₁.SameCore s₃ :=
  ⟨h'.anchors.trans h.anchors, h'.freezes.trans h.freezes, h'.migrations.trans h.migrations⟩

/-- The two states agree on the verified identities. -/
structure Relay.SameVerified (s s' : Relay) : Prop where
  verifiedDids : s'.verifiedDids = s.verifiedDids
  verifiedDidCache : s'.verifiedDidCache = s.verifiedDidCache

/-- The two states agree on the accounts. -/
structure Relay.SameAccounts (s s' : Relay) : Prop where
  didAccounts : s'.didAccounts = s.didAccounts
  didAccountCache : s'.didAccountCache = s.didAccountCache
  handleIndex : s'.handleIndex = s.handleIndex

theorem Relay.SameVerified.refl (s : Relay) : s.SameVerified s := ⟨rfl, rfl⟩

theorem Relay.SameVerified.trans (h : s₁.SameVerified s₂) (h' : s₂.SameVerified s₃) :
    s₁.SameVerified s₃ :=
  ⟨h'.verifiedDids.trans h.verifiedDids, h'.verifiedDidCache.trans h.verifiedDidCache⟩

theorem Relay.SameAccounts.refl (s : Relay) : s.SameAccounts s := ⟨rfl, rfl, rfl⟩

/-- The two states differ at most in the nonces of registrations. -/
def Relay.SameButNonces (s s' : Relay) : Prop :=
  s' = { s with
    registrationNonces := s'.registrationNonces
    pendingHandles := s'.pendingHandles }

theorem Relay.SameButNonces.refl (s : Relay) : s.SameButNonces s := rfl

theorem Relay.SameButNonces.trans (h : s₁.SameButNonces s₂) (h' : s₂.SameButNonces s₃) :
    s₁.SameButNonces s₃ := by
  unfold SameButNonces at *
  rw [h'.trans (by rw [h])]

theorem Relay.SameButNonces.core (h : s.SameButNonces s') : s.SameCore s' := by
  rw [h]
  exact ⟨rfl, rfl, rfl⟩

theorem Relay.SameButNonces.verified (h : s.SameButNonces s') : s.SameVerified s' := by
  rw [h]
  exact ⟨rfl, rfl⟩

theorem Relay.SameButNonces.accounts (h : s.SameButNonces s') : s.SameAccounts s' := by
  rw [h]
  exact ⟨rfl, rfl, rfl⟩

/-! ### Bindings -/

/-- A key by which the ingest path may verify operations of a DID: a cached entry or a row. -/
inductive IdentityBinding (s : Relay) (did : String) : String × String → Prop
  | cached {e : IdentityEntry} : s.verifiedDidCache did = some e →
    IdentityBinding s did (e.signingAlgorithm, e.publicKeyHex)
  | stored {v : VerifiedDid} : v ∈ s.verifiedDids.rows → v.did = did →
    IdentityBinding s did (v.signingAlgorithm, v.publicKeyHex)

/-- A key that the account of a DID is held under: a cached entry or a row. -/
inductive AccountBinding (s : Relay) (did : String) : String × String → Prop
  | cached {e : AccountEntry} : s.didAccountCache did = some e →
    AccountBinding s did (e.signingAlgorithm, e.publicKeyHex)
  | stored {a : DidAccount} : a ∈ s.didAccounts.rows → a.did = did →
    AccountBinding s did (a.signingAlgorithm, a.publicKeyHex)

theorem Relay.SameVerified.binding (h : s.SameVerified s') {did : String} {k : String × String}
    (hk : IdentityBinding s' did k) : IdentityBinding s did k := by
  cases hk with
  | cached he => exact .cached (h.verifiedDidCache ▸ he)
  | stored hv hd => exact .stored (h.verifiedDids ▸ hv) hd

theorem Relay.SameAccounts.binding (h : s.SameAccounts s') {did : String} {k : String × String}
    (hk : AccountBinding s' did k) : AccountBinding s did k := by
  cases hk with
  | cached he => exact .cached (h.didAccountCache ▸ he)
  | stored ha hd => exact .stored (h.didAccounts ▸ ha) hd

end Ansible
