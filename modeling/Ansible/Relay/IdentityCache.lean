import Ansible.Relay.DidAccountCache

/-!
# The identity cache

`IdentityCache` keeps the keys by which the ingest path verifies operations, in ETS and,
written through, in `verified_dids`.  A miss reads the row or, for a migrated identity,
the legacy row under the key of the active v1 anchor.

## Main definitions

* `IdentityCache.put`, `get`, `invalidate`, `sweepExpired` — the operations.
* `IdentityCache.verifySignature` — verification under the recorded algorithm.

## Main results

* `IdentityCache.put_core`, `get_core` — what no operation touches.
* `IdentityCache.get_after_get` — lookups do not affect each other.
* `IdentityCache.binding_of_put`, `binding_of_get` — where a binding comes from.
-/

namespace Ansible

namespace IdentityCache

/-- The values of the row fit their columns and pass the check constraints. -/
def storable (v : VerifiedDid) : Bool :=
  DidAccountCache.checked v.signingAlgorithm v.keyVersion &&
    fitsVarchar v.did && fitsVarchar v.publicKeyHex && fitsVarchar v.nullifier

/-- `Repo.insert` with `on_conflict: {:replace, ..}, conflict_target: :did`. -/
def writeThrough (t : VerifiedTable) (v : VerifiedDid) : Option VerifiedTable :=
  if storable v then
    t.upsert (·.did == v.did) v fun old =>
      { old with
        publicKeyHex := v.publicKeyHex
        signingAlgorithm := v.signingAlgorithm
        keyVersion := v.keyVersion
        expiresAt := v.expiresAt }
  else none

/-- ETS is written first, the database after; a constraint violation raises. -/
def put (E : Env) (now : Time) (did publicKeyHex : String) (nullifier : Option String)
    (expiresAt : Option Time) (signingAlgorithm : String) (s : Relay) : WriteResult × Relay :=
  let expiry := expiresAt.getD (now + seconds E.didCacheTtlSeconds)
  let entry : IdentityEntry :=
    { publicKeyHex, signingAlgorithm, keyVersion := 1, nullifier, expiresAt := expiry }
  let s := { s with verifiedDidCache := s.verifiedDidCache.insert did entry }
  match writeThrough s.verifiedDids
    { did, publicKeyHex, signingAlgorithm, keyVersion := 1, nullifier := nullifier.getD "",
      expiresAt := expiry } with
  | some t => (.ok, { s with verifiedDids := t })
  | none => (.raised, s)

/-- A blank nullifier stands for none. -/
def blankToNil (nullifier : String) : Option String :=
  if nullifier = "" then none else some nullifier

/-- A migrated identity: the legacy row under the key of the active v1 anchor. -/
def readThroughMigration (now : Time) (v1Did : String) (s : Relay) :
    Option IdentityEntry × Relay :=
  match s.didElixMigrations.find (·.v1Did == v1Did) with
  | none => (none, s)
  | some m =>
    match s.verifiedDids.find (·.did == m.legacyDid), s.activeAnchor v1Did with
    | some legacy, some anchor =>
      if now < legacy.expiresAt then
        let entry : IdentityEntry :=
          { publicKeyHex := anchor.identityKey
            signingAlgorithm := anchor.identityKeyAlgorithm
            keyVersion := legacy.keyVersion
            nullifier := blankToNil legacy.nullifier
            expiresAt := legacy.expiresAt }
        (some entry, { s with verifiedDidCache := s.verifiedDidCache.insert v1Did entry })
      else (none, s)
    | _, _ => (none, s)

def readThrough (now : Time) (did : String) (s : Relay) : Option IdentityEntry × Relay :=
  match s.verifiedDids.find (·.did == did) with
  | none => readThroughMigration now did s
  | some row =>
    if now < row.expiresAt then
      let entry : IdentityEntry :=
        { publicKeyHex := row.publicKeyHex
          signingAlgorithm := row.signingAlgorithm
          keyVersion := row.keyVersion
          nullifier := blankToNil row.nullifier
          expiresAt := row.expiresAt }
      (some entry, { s with verifiedDidCache := s.verifiedDidCache.insert did entry })
    else (none, s)

/-- `none` stands for `:not_found`. -/
def get (now : Time) (did : String) (s : Relay) : Option IdentityEntry × Relay :=
  match s.verifiedDidCache did with
  | some entry => (some entry, s)
  | none => readThrough now did s

def invalidate (did : String) (s : Relay) : Relay :=
  { s with verifiedDidCache := s.verifiedDidCache.delete did }

/-- Evict the entries that have expired. -/
def sweepExpired (now : Time) (s : Relay) : Relay :=
  { s with verifiedDidCache := fun did =>
      (s.verifiedDidCache did).filter fun entry => now < entry.expiresAt }

/-- Verify a signature with the algorithm recorded for the DID. -/
def verifySignature (P : Platform) (now : Time) (did : String) (message : Text)
    (signatureHex : String) (s : Relay) : Bool × Relay :=
  match get now did s with
  | (some entry, s) =>
    (SigVerifier.verifyIdentity P entry.signingAlgorithm entry.publicKeyHex message signatureHex, s)
  | (none, s) => (false, s)

/-! ### What no operation touches -/

theorem put_core (E : Env) (now : Time) (did key : String) (nullifier : Option String)
    (expiresAt : Option Time) (algorithm : String) (s : Relay) :
    s.SameCore (put E now did key nullifier expiresAt algorithm s).2 ∧
      s.SameAccounts (put E now did key nullifier expiresAt algorithm s).2 := by
  unfold put
  dsimp only
  split <;> exact ⟨⟨rfl, rfl, rfl⟩, ⟨rfl, rfl, rfl⟩⟩

theorem get_core (now : Time) (did : String) (s : Relay) :
    s.SameCore (get now did s).2 ∧ s.SameAccounts (get now did s).2 := by
  unfold get readThrough readThroughMigration
  split
  · exact ⟨.refl s, ⟨rfl, rfl, rfl⟩⟩
  split
  · split
    · exact ⟨.refl s, ⟨rfl, rfl, rfl⟩⟩
    split
    · split <;> exact ⟨⟨rfl, rfl, rfl⟩, ⟨rfl, rfl, rfl⟩⟩
    · exact ⟨.refl s, ⟨rfl, rfl, rfl⟩⟩
  · split <;> exact ⟨⟨rfl, rfl, rfl⟩, ⟨rfl, rfl, rfl⟩⟩

/-! ### Where bindings come from -/

theorem mem_of_writeThrough {t t' : VerifiedTable} {v x : VerifiedDid}
    (h : writeThrough t v = some t') (hx : x ∈ t'.rows) :
    x ∈ t.rows ∨ (x.did = v.did ∧ x.signingAlgorithm = v.signingAlgorithm ∧
      x.publicKeyHex = v.publicKeyHex) := by
  unfold writeThrough at h
  split at h
  · unfold Table.upsert at h
    split at h
    · obtain ⟨r, hr, rfl⟩ := (Table.mem_update h).1 hx
      split
      · next hd => exact .inr ⟨beq_iff_eq.1 hd, rfl, rfl⟩
      · exact .inl hr
    · rcases (Table.mem_insert h).1 hx with hx | rfl
      · exact .inl hx
      · exact .inr ⟨rfl, rfl, rfl⟩
  · cases h

variable {now : Time} {did : String} {s : Relay}

/-- A binding after a put was there before or is the one that was put. -/
theorem binding_of_put {E : Env} {key algorithm : String} {nullifier : Option String}
    {expiresAt : Option Time} {did' : String} {k : String × String}
    (h : IdentityBinding (put E now did key nullifier expiresAt algorithm s).2 did' k) :
    IdentityBinding s did' k ∨ (did' = did ∧ k = (algorithm, key)) := by
  unfold put at h
  dsimp only at h
  split at h
  · next t ht =>
    cases h with
    | cached he =>
      rcases Ets.of_insert he with he | ⟨hd, rfl⟩
      · exact .inl (.cached he)
      · exact .inr ⟨hd, rfl⟩
    | stored hv hd =>
      rcases mem_of_writeThrough ht hv with hv | ⟨hvd, halg, hkey⟩
      · exact .inl (.stored hv hd)
      · exact .inr ⟨hd.symm.trans hvd, by rw [halg, hkey]⟩
  · cases h with
    | cached he =>
      rcases Ets.of_insert he with he | ⟨hd, rfl⟩
      · exact .inl (.cached he)
      · exact .inr ⟨hd, rfl⟩
    | stored hv hd => exact .inl (.stored hv hd)

/-- What a lookup answers is a binding, or the key of the active anchor. -/
theorem binding_of_get_eq_some {e : IdentityEntry} (h : (get now did s).1 = some e) :
    IdentityBinding s did (e.signingAlgorithm, e.publicKeyHex) ∨
      ∃ a, s.activeAnchor did = some a ∧
        (e.signingAlgorithm, e.publicKeyHex) = (a.identityKeyAlgorithm, a.identityKey) := by
  unfold get at h
  split at h
  · next e' he =>
    cases h
    exact .inl (.cached he)
  · unfold readThrough at h
    split at h
    · unfold readThroughMigration at h
      split at h
      · cases h
      split at h
      · next legacy anchor _ hanchor =>
        split at h
        · cases h
          exact .inr ⟨anchor, hanchor, rfl⟩
        · cases h
      · cases h
    · next row hrow =>
      split at h
      · cases h
        have hdid := Table.prop_of_find hrow
        exact .inl (.stored (Table.mem_of_find hrow) (beq_iff_eq.1 hdid))
      · cases h

/-- A lookup stores at most what it answers. -/
theorem get_eq (now : Time) (did : String) (s : Relay) :
    ((get now did s).2 = s ∧ (get now did s).1 = s.verifiedDidCache did) ∨
      ∃ e, (get now did s).1 = some e ∧
        (get now did s).2 = { s with verifiedDidCache := s.verifiedDidCache.insert did e } := by
  unfold get
  split
  · next e he => exact .inl ⟨rfl, he.symm⟩
  next hnone =>
  unfold readThrough
  split
  · unfold readThroughMigration
    split
    · exact .inl ⟨rfl, hnone.symm⟩
    split
    · split
      · exact .inr ⟨_, rfl, rfl⟩
      · exact .inl ⟨rfl, hnone.symm⟩
    · exact .inl ⟨rfl, hnone.symm⟩
  · split
    · exact .inr ⟨_, rfl, rfl⟩
    · exact .inl ⟨rfl, hnone.symm⟩

theorem get_get {e : IdentityEntry} (h : (get now did s).1 = some e) :
    ∀ now', get now' did (get now did s).2 = (some e, (get now did s).2) := by
  have hcached : (get now did s).2.verifiedDidCache did = some e := by
    rcases get_eq now did s with ⟨hs, hc⟩ | ⟨e', he', hs⟩
    · rw [hs, ← hc, h]
    · rw [hs, ← h, he']
      exact Ets.insert_self ..
  intro now'
  generalize (get now did s).2 = t at hcached
  unfold get
  rw [hcached]

theorem readThrough_congr {t : Relay} (hcore : s.SameCore t)
    (hverified : t.verifiedDids = s.verifiedDids) (now : Time) (did : String) :
    (readThrough now did t).1 = (readThrough now did s).1 := by
  have hactive : t.activeAnchor did = s.activeAnchor did := by
    rw [Relay.activeAnchor, hcore.anchors, ← Relay.activeAnchor]
  unfold readThrough
  rw [hverified]
  split
  · unfold readThroughMigration
    rw [hcore.migrations, hverified, hactive]
    split
    · rfl
    split
    · split <;> rfl
    · rfl
  · split <;> rfl

/-- A lookup answers the same after another one. -/
theorem get_after_get (now : Time) (did did' : String) (s : Relay) :
    (get now did' (get now did s).2).1 = (get now did' s).1 := by
  rcases get_eq now did s with ⟨heq, -⟩ | ⟨e, he, heq⟩
  · rw [heq]
  by_cases hd : did' = did
  · subst hd
    rw [get_get he, he]
  · rw [heq, get, get]
    dsimp only
    rw [Ets.insert_of_ne hd]
    split
    · rfl
    · have hcore : s.SameCore { s with verifiedDidCache := s.verifiedDidCache.insert did e } :=
        ⟨rfl, rfl, rfl⟩
      exact readThrough_congr hcore rfl now did'

/-- A binding after a lookup was there before or is the key of the active anchor. -/
theorem binding_of_get {did' : String} {k : String × String}
    (h : IdentityBinding (get now did s).2 did' k) :
    IdentityBinding s did' k ∨
      ∃ a, s.activeAnchor did' = some a ∧ k = (a.identityKeyAlgorithm, a.identityKey) := by
  rcases get_eq now did s with ⟨heq, -⟩ | ⟨e, he, heq⟩
  · exact .inl (heq ▸ h)
  · rw [heq] at h
    cases h with
    | stored hv hd => exact .inl (.stored hv hd)
    | cached hc =>
      rcases Ets.of_insert hc with hc | ⟨rfl, rfl⟩
      · exact .inl (.cached hc)
      · exact binding_of_get_eq_some he

end IdentityCache

end Ansible
