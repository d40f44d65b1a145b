import Ansible.Relay.State

/-!
# The account cache

`DidAccountCache` keeps accounts in ETS, indexed by DID and by handle, and writes
them through to `did_accounts`.  The ETS writes come first and stay when the
database refuses the row.

## Main definitions

* `DidAccountCache.put`, `get`, `getByHandle`, `rotateKey`, `invalidate` — the
  public operations; `get` and `getByHandle` repopulate ETS from the database.
* `DidAccountCache.issueNonce`, `consumeNonce` — the nonces of registrations.

## Main results

* `DidAccountCache.put_core`, `get_core`, … — no operation touches the anchors, the
  freezes or the migrations.
* `DidAccountCache.binding_of_put`, `binding_of_get`, … — where a binding comes from.
-/

namespace Ansible

/-- A write that may raise an exception, which rolls its transaction back. -/
inductive WriteResult
  | ok
  | raised
  deriving DecidableEq, Repr

namespace DidAccountCache

/-- The options of `put/4`. -/
structure PutOpts where
  expiresAt : Option Time := none
  pdsEndpoint : String := "https://elix.cool"
  reputationTier : String := "basic"
  signingAlgorithm : String := "ed25519"
  keyVersion : ℤ := 1

/-- The algorithms and versions that the check constraints of an account row allow. -/
def checked (algorithm : String) (keyVersion : ℤ) : Bool :=
  (algorithm == "ed25519" || algorithm == "p256-sha256") && decide (0 < keyVersion)

/-- The values of the row fit their columns and pass the check constraints. -/
def storable (a : DidAccount) : Bool :=
  checked a.signingAlgorithm a.keyVersion &&
    fitsVarchar a.did && fitsVarchar a.publicKeyHex && fitsVarchar a.handle &&
    fitsVarchar a.pdsEndpoint

/-- `Repo.insert` with `on_conflict: {:replace, ..}, conflict_target: :did`. -/
def writeThrough (t : AccountTable) (a : DidAccount) : Option AccountTable :=
  if storable a then t.upsert (·.did == a.did) a fun _ => a else none

/-- ETS is written first, the database after; a constraint violation raises. -/
def put (E : Env) (now : Time) (did publicKeyHex handle : String) (opts : PutOpts) (s : Relay) :
    WriteResult × Relay :=
  let expiry := opts.expiresAt.getD (now + seconds E.didAccountCacheTtlSeconds)
  let entry : AccountEntry :=
    { publicKeyHex, signingAlgorithm := opts.signingAlgorithm, keyVersion := opts.keyVersion,
      handle, reputationTier := opts.reputationTier, expiresAt := expiry,
      pdsEndpoint := opts.pdsEndpoint }
  let s := { s with
    didAccountCache := s.didAccountCache.insert did entry
    handleIndex := s.handleIndex.insert handle did }
  if E.persistDidAccounts then
    match writeThrough s.didAccounts
      { did, publicKeyHex, signingAlgorithm := opts.signingAlgorithm,
        keyVersion := opts.keyVersion, handle, reputationTier := opts.reputationTier,
        expiresAt := expiry, pdsEndpoint := opts.pdsEndpoint } with
    | some t => (.ok, { s with didAccounts := t })
    | none => (.raised, s)
  else (.ok, s)

/-- The durable row as a cache entry. -/
def entryOf (a : DidAccount) : AccountEntry where
  publicKeyHex := a.publicKeyHex
  signingAlgorithm := a.signingAlgorithm
  keyVersion := a.keyVersion
  handle := a.handle
  reputationTier := a.reputationTier
  expiresAt := a.expiresAt
  pdsEndpoint := a.pdsEndpoint

/-- The account of a migrated identity: the legacy row under the key of the v1 anchor. -/
def getFromMigration (v1Did : String) (s : Relay) : Option AccountEntry × Relay :=
  match s.didElixMigrations.find (·.v1Did == v1Did) with
  | none => (none, s)
  | some m =>
    match s.didAccounts.find (·.did == m.legacyDid), s.activeAnchor v1Did with
    | some legacy, some anchor =>
      let entry := { entryOf legacy with
        publicKeyHex := anchor.identityKey, signingAlgorithm := anchor.identityKeyAlgorithm }
      (some entry, { s with
        didAccountCache := s.didAccountCache.insert v1Did entry
        handleIndex := s.handleIndex.insert legacy.handle v1Did })
    | _, _ => (none, s)

def getFromDb (did : String) (s : Relay) : Option AccountEntry × Relay :=
  match s.didAccounts.find (·.did == did) with
  | none => getFromMigration did s
  | some account =>
    (some (entryOf account), { s with
      didAccountCache := s.didAccountCache.insert did (entryOf account)
      handleIndex := s.handleIndex.insert account.handle did })

/-- `none` stands for `:not_found`. -/
def get (did : String) (s : Relay) : Option AccountEntry × Relay :=
  match s.didAccountCache did with
  | some entry => (some entry, s)
  | none => getFromDb did s

/-- The canonical DID of an account row: its v1 DID once it has migrated. -/
def canonicalDidForAccount (s : Relay) (did : String) : String :=
  match s.didElixMigrations.find (·.legacyDid == did) with
  | some m => m.v1Did
  | none => did

def getByHandle (handle : String) (s : Relay) : Option String × Relay :=
  match s.handleIndex handle with
  | some did => (some did, s)
  | none =>
    match s.didAccounts.find (·.handle == handle) with
    | none => (none, s)
    | some account =>
      let canonical := canonicalDidForAccount s account.did
      match getFromDb canonical s with
      | (some _, s) => (some canonical, s)
      | (none, s) => (none, s)

inductive RotateError
  | staleKeyVersion
  | identityCacheMissing
  | notFound
  | unavailable
  deriving DecidableEq, Repr

/-- The transaction of a rotation: both rows change, or neither. -/
def rotateRows (did : String) (expectedVersion : ℤ) (publicKeyHex signingAlgorithm : String)
    (s : Relay) : Except RotateError (AccountTable × VerifiedTable) :=
  if ¬ s.didAccounts.rows.any fun a => a.did == did && a.keyVersion == expectedVersion then
    .error .staleKeyVersion
  else if ¬ s.verifiedDids.rows.any fun v => v.did == did && v.keyVersion == expectedVersion then
    .error .identityCacheMissing
  else if ¬ checked signingAlgorithm (expectedVersion + 1) then .error .unavailable
  else
    match
      s.didAccounts.update (fun a => a.did == did && a.keyVersion == expectedVersion)
        (fun a => { a with
          publicKeyHex, signingAlgorithm, keyVersion := expectedVersion + 1 }),
      s.verifiedDids.update (fun v => v.did == did && v.keyVersion == expectedVersion)
        (fun v => { v with
          publicKeyHex, signingAlgorithm, keyVersion := expectedVersion + 1 }) with
    | some accounts, some verified => .ok (accounts, verified)
    | _, _ => .error .unavailable

/-- The caches are evicted after the transaction. -/
def rotateKey (did : String) (expectedVersion : ℤ) (publicKeyHex signingAlgorithm : String)
    (s : Relay) : Except RotateError AccountEntry × Relay :=
  match rotateRows did expectedVersion publicKeyHex signingAlgorithm s with
  | .error e => (.error e, s)
  | .ok (accounts, verified) =>
    let s := { s with
      didAccounts := accounts
      verifiedDids := verified
      didAccountCache := s.didAccountCache.delete did
      verifiedDidCache := s.verifiedDidCache.delete did }
    match get did s with
    | (some entry, s) => (.ok entry, s)
    | (none, s) => (.error .notFound, s)

/-- Evict a DID, and a handle when one is given. -/
def invalidate (did : String) (handle : Option String) (s : Relay) : Relay :=
  { s with
    didAccountCache := s.didAccountCache.delete did
    handleIndex := match handle with
      | some h => s.handleIndex.delete h
      | none => s.handleIndex }

/-! ### Registration nonces -/

def nonceTtlSeconds : ℤ := 300

/-- The nonce already pending for this key and handle, `none` when the handle is free. -/
def pendingNonce (publicKeyHex handle : String) (now : Time) (s : Relay) :
    Except Unit (Option NonceEntry) × Relay :=
  match s.pendingHandles handle with
  | none => (.ok none, s)
  | some p =>
    if p.expiresAt ≤ now then
      (.ok none, { s with pendingHandles := s.pendingHandles.delete handle })
    else if p.publicKeyHex = publicKeyHex then
      match s.registrationNonces publicKeyHex with
      | some e =>
        if e.expiresAt = p.expiresAt ∧ e.handle = handle then (.ok (some e), s) else (.error (), s)
      | none => (.error (), s)
    else (.error (), s)

/-- Issue `fresh`, or repeat the pending nonce; `none` when the handle is pending for
another key. -/
def issueNonce (now : Time) (fresh publicKeyHex handle : String) (s : Relay) :
    Option NonceEntry × Relay :=
  match pendingNonce publicKeyHex handle now s with
  | (.error (), s) => (none, s)
  | (.ok (some e), s) => (some e, s)
  | (.ok none, s) =>
    let expiresAt := now + seconds nonceTtlSeconds
    let entry : NonceEntry := { nonce := fresh, expiresAt, handle }
    (some entry, { s with
      registrationNonces := s.registrationNonces.insert publicKeyHex entry
      pendingHandles := s.pendingHandles.insert handle { publicKeyHex, expiresAt } })

inductive NonceResult
  | ok
  | expiredNonce
  | handleMismatch
  | invalidNonce
  deriving DecidableEq, Repr

def consumeNonce (now : Time) (publicKeyHex nonce handle : String) (s : Relay) :
    NonceResult × Relay :=
  match s.registrationNonces publicKeyHex with
  | none => (.invalidNonce, s)
  | some e =>
    if e.nonce ≠ nonce then (.invalidNonce, s)
    else if e.handle ≠ handle then (.handleMismatch, s)
    else
      (if now < e.expiresAt then .ok else .expiredNonce, { s with
        registrationNonces := s.registrationNonces.delete publicKeyHex
        pendingHandles := s.pendingHandles.delete handle })

/-! ### The nonces are apart from the rest -/

theorem pendingNonce_same (key handle : String) (now : Time) (s : Relay) :
    s.SameButNonces (pendingNonce key handle now s).2 := by
  unfold pendingNonce
  repeat' split
  all_goals rfl

theorem issueNonce_same (now : Time) (fresh key handle : String) (s : Relay) :
    s.SameButNonces (issueNonce now fresh key handle s).2 := by
  have hpending := pendingNonce_same key handle now s
  unfold issueNonce
  generalize pendingNonce key handle now s = r at hpending
  obtain ⟨_ | _ | e, t⟩ := r
  · exact hpending
  · exact hpending.trans rfl
  · exact hpending

theorem consumeNonce_same (now : Time) (key nonce handle : String) (s : Relay) :
    s.SameButNonces (consumeNonce now key nonce handle s).2 := by
  unfold consumeNonce
  repeat' split
  all_goals rfl

/-! ### No operation touches the anchors -/

theorem put_core (E : Env) (now : Time) (did key handle : String) (opts : PutOpts) (s : Relay) :
    s.SameCore (put E now did key handle opts s).2 := by
  unfold put
  dsimp only
  split
  · split <;> exact ⟨rfl, rfl, rfl⟩
  · exact ⟨rfl, rfl, rfl⟩

theorem getFromMigration_core (did : String) (s : Relay) :
    s.SameCore (getFromMigration did s).2 := by
  unfold getFromMigration
  split
  · exact .refl s
  · split <;> exact ⟨rfl, rfl, rfl⟩

theorem getFromDb_core (did : String) (s : Relay) : s.SameCore (getFromDb did s).2 := by
  unfold getFromDb
  split
  · exact getFromMigration_core did s
  · exact ⟨rfl, rfl, rfl⟩

theorem get_core (did : String) (s : Relay) : s.SameCore (get did s).2 := by
  unfold get
  split
  · exact .refl s
  · exact getFromDb_core did s

theorem getByHandle_core (handle : String) (s : Relay) :
    s.SameCore (getByHandle handle s).2 := by
  unfold getByHandle
  split
  · exact .refl s
  split
  · exact .refl s
  next account _ =>
  dsimp only
  generalize hget : getFromDb (canonicalDidForAccount s account.did) s = r
  have hcore := getFromDb_core (canonicalDidForAccount s account.did) s
  rw [hget] at hcore
  obtain ⟨_ | _, t⟩ := r <;> exact hcore

/-- A rotation is its transaction, an eviction and a lookup. -/
theorem rotateKey_eq (did : String) (version : ℤ) (key algorithm : String) (s : Relay) :
    (rotateKey did version key algorithm s).2 = s ∨ ∃ accounts verified,
      rotateRows did version key algorithm s = .ok (accounts, verified) ∧
      (rotateKey did version key algorithm s).2 = (get did { s with
        didAccounts := accounts
        verifiedDids := verified
        didAccountCache := s.didAccountCache.delete did
        verifiedDidCache := s.verifiedDidCache.delete did }).2 := by
  unfold rotateKey
  split
  · exact .inl rfl
  · next accounts verified hrows =>
    refine .inr ⟨accounts, verified, hrows, ?_⟩
    dsimp only
    split <;> next h => rw [h]

theorem rotateKey_core (did : String) (version : ℤ) (key algorithm : String) (s : Relay) :
    s.SameCore (rotateKey did version key algorithm s).2 := by
  rcases rotateKey_eq did version key algorithm s with h | ⟨accounts, verified, -, h⟩
  · rw [h]
    exact .refl s
  · have hget := get_core did { s with
      didAccounts := accounts
      verifiedDids := verified
      didAccountCache := s.didAccountCache.delete did
      verifiedDidCache := s.verifiedDidCache.delete did }
    rw [h]
    exact ⟨hget.anchors, hget.freezes, hget.migrations⟩

/-! ### No operation but a rotation touches the verified identities -/

theorem put_verified (E : Env) (now : Time) (did key handle : String) (opts : PutOpts)
    (s : Relay) : s.SameVerified (put E now did key handle opts s).2 := by
  unfold put
  dsimp only
  split
  · split <;> exact ⟨rfl, rfl⟩
  · exact ⟨rfl, rfl⟩

theorem getFromDb_verified (did : String) (s : Relay) :
    s.SameVerified (getFromDb did s).2 := by
  unfold getFromDb getFromMigration
  split
  · split
    · exact .refl s
    · split <;> exact ⟨rfl, rfl⟩
  · exact ⟨rfl, rfl⟩

theorem get_verified (did : String) (s : Relay) : s.SameVerified (get did s).2 := by
  unfold get
  split
  · exact .refl s
  · exact getFromDb_verified did s

theorem getByHandle_verified (handle : String) (s : Relay) :
    s.SameVerified (getByHandle handle s).2 := by
  unfold getByHandle
  split
  · exact .refl s
  split
  · exact .refl s
  next account _ =>
  dsimp only
  have hget := getFromDb_verified (canonicalDidForAccount s account.did) s
  generalize getFromDb (canonicalDidForAccount s account.did) s = r at hget
  obtain ⟨_ | _, t⟩ := r <;> exact hget

/-! ### Where bindings come from -/

theorem mem_of_writeThrough {t t' : AccountTable} {a x : DidAccount}
    (h : writeThrough t a = some t') (hx : x ∈ t'.rows) : x ∈ t.rows ∨ x = a := by
  unfold writeThrough at h
  split at h
  · unfold Table.upsert at h
    split at h
    · obtain ⟨r, hr, rfl⟩ := (Table.mem_update h).1 hx
      split
      · exact .inr rfl
      · exact .inl hr
    · exact (Table.mem_insert h).1 hx
  · cases h

variable {did key did' algorithm : String} {s : Relay} {k : String × String} {e : AccountEntry}
  {version : ℤ}

/-- A binding after a put was there before or is the one that was put. -/
theorem binding_of_put {E : Env} {now : Time} {handle : String} {opts : PutOpts}
    (h : AccountBinding (put E now did key handle opts s).2 did' k) :
    AccountBinding s did' k ∨ (did' = did ∧ k = (opts.signingAlgorithm, key)) := by
  unfold put at h
  dsimp only at h
  have hcached : ∀ {e x : AccountEntry}, s.didAccountCache.insert did e did' = some x →
      AccountBinding s did' (x.signingAlgorithm, x.publicKeyHex) ∨ (did' = did ∧
        (x.signingAlgorithm, x.publicKeyHex) = (e.signingAlgorithm, e.publicKeyHex)) := by
    intro e x hx
    rcases Ets.of_insert hx with hx | ⟨hd, rfl⟩
    · exact .inl (.cached hx)
    · exact .inr ⟨hd, rfl⟩
  split at h
  · split at h
    · next t ht =>
      cases h with
      | cached he => exact hcached he
      | stored ha hd =>
        rcases mem_of_writeThrough ht ha with ha | rfl
        · exact .inl (.stored ha hd)
        · exact .inr ⟨hd.symm, rfl⟩
    · cases h with
      | cached he => exact hcached he
      | stored ha hd => exact .inl (.stored ha hd)
  · cases h with
    | cached he => exact hcached he
    | stored ha hd => exact .inl (.stored ha hd)

/-- What a lookup answers is a binding, or the key of the active anchor. -/
theorem binding_of_getFromDb_eq_some (h : (getFromDb did s).1 = some e) :
    AccountBinding s did (e.signingAlgorithm, e.publicKeyHex) ∨
      ∃ a, s.activeAnchor did = some a ∧
        (e.signingAlgorithm, e.publicKeyHex) = (a.identityKeyAlgorithm, a.identityKey) := by
  unfold getFromDb at h
  split at h
  · unfold getFromMigration at h
    split at h
    · cases h
    split at h
    · next legacy anchor _ hanchor =>
      cases h
      exact .inr ⟨anchor, hanchor, rfl⟩
    · cases h
  · next account haccount =>
    cases h
    have hdid := Table.prop_of_find haccount
    exact .inl (.stored (Table.mem_of_find haccount) (beq_iff_eq.1 hdid))

/-- A lookup in the database stores what it answers, and nothing when it finds nothing. -/
theorem getFromDb_eq (did : String) (s : Relay) :
    getFromDb did s = (none, s) ∨ ∃ e, getFromDb did s = (some e, { s with
      didAccountCache := s.didAccountCache.insert did e
      handleIndex := s.handleIndex.insert e.handle did }) := by
  unfold getFromDb
  split
  · unfold getFromMigration
    split
    · exact .inl rfl
    split
    · exact .inr ⟨_, rfl⟩
    · exact .inl rfl
  · exact .inr ⟨_, rfl⟩

theorem get_get (h : (get did s).1 = some e) : get did (get did s).2 = (some e, (get did s).2) := by
  have hcached : (get did s).2.didAccountCache did = some e := by
    unfold get at h ⊢
    split
    · next e' he =>
      rw [he] at h
      exact he.trans h
    · next hnone =>
      rw [hnone] at h
      dsimp only at h ⊢
      rcases getFromDb_eq did s with heq | ⟨e', heq⟩
      · rw [heq] at h
        cases h
      · rw [heq] at h ⊢
        exact (Ets.insert_self ..).trans h
  generalize (get did s).2 = t at hcached
  unfold get
  rw [hcached]

theorem binding_of_getFromDb (h : AccountBinding (getFromDb did s).2 did' k) :
    AccountBinding s did' k ∨
      ∃ a, s.activeAnchor did' = some a ∧ k = (a.identityKeyAlgorithm, a.identityKey) := by
  rcases getFromDb_eq did s with heq | ⟨e, heq⟩
  · rw [heq] at h
    exact .inl h
  · have he : (getFromDb did s).1 = some e := by rw [heq]
    rw [heq] at h
    cases h with
    | stored ha hd => exact .inl (.stored ha hd)
    | cached hc =>
      rcases Ets.of_insert hc with hc | ⟨rfl, rfl⟩
      · exact .inl (.cached hc)
      · exact binding_of_getFromDb_eq_some he

/-- What a lookup answers is a binding, or the key of the active anchor. -/
theorem binding_of_get_eq_some (h : (get did s).1 = some e) :
    AccountBinding s did (e.signingAlgorithm, e.publicKeyHex) ∨
      ∃ a, s.activeAnchor did = some a ∧
        (e.signingAlgorithm, e.publicKeyHex) = (a.identityKeyAlgorithm, a.identityKey) := by
  unfold get at h
  split at h
  · next e' he =>
    cases h
    exact .inl (.cached he)
  · exact binding_of_getFromDb_eq_some h

/-- A binding after a lookup was there before or is the key of the active anchor. -/
theorem binding_of_get (h : AccountBinding (get did s).2 did' k) :
    AccountBinding s did' k ∨
      ∃ a, s.activeAnchor did' = some a ∧ k = (a.identityKeyAlgorithm, a.identityKey) := by
  unfold get at h
  split at h
  · exact .inl h
  · exact binding_of_getFromDb h

theorem binding_of_getByHandle {handle : String}
    (h : AccountBinding (getByHandle handle s).2 did' k) :
    AccountBinding s did' k ∨
      ∃ a, s.activeAnchor did' = some a ∧ k = (a.identityKeyAlgorithm, a.identityKey) := by
  unfold getByHandle at h
  split at h
  · exact .inl h
  split at h
  · exact .inl h
  next account _ =>
  dsimp only at h
  have hget : ∀ {k}, AccountBinding
      (getFromDb (canonicalDidForAccount s account.did) s).2 did' k → _ := binding_of_getFromDb
  generalize getFromDb (canonicalDidForAccount s account.did) s = r at h hget
  obtain ⟨_ | _, t⟩ := r <;> exact hget h

/-- The rows that a rotation writes. -/
theorem mem_of_rotateRows {accounts : AccountTable} {verified : VerifiedTable}
    (h : rotateRows did version key algorithm s = .ok (accounts, verified)) :
    (∀ x ∈ accounts.rows, x ∈ s.didAccounts.rows ∨
      (x.did = did ∧ x.signingAlgorithm = algorithm ∧ x.publicKeyHex = key)) ∧
    ∀ x ∈ verified.rows, x ∈ s.verifiedDids.rows ∨
      (x.did = did ∧ x.signingAlgorithm = algorithm ∧ x.publicKeyHex = key) := by
  unfold rotateRows at h
  split at h
  · cases h
  split at h
  · cases h
  split at h
  · cases h
  split at h
  · next t t' ht ht' =>
    cases h
    refine ⟨fun x hx => ?_, fun x hx => ?_⟩
    · obtain ⟨r, hr, rfl⟩ := (Table.mem_update ht).1 hx
      split
      · next hk => exact .inr ⟨beq_iff_eq.1 (Bool.and_eq_true_iff.1 hk).1, rfl, rfl⟩
      · exact .inl hr
    · obtain ⟨r, hr, rfl⟩ := (Table.mem_update ht').1 hx
      split
      · next hk => exact .inr ⟨beq_iff_eq.1 (Bool.and_eq_true_iff.1 hk).1, rfl, rfl⟩
      · exact .inl hr
  · cases h

/-- A binding after a rotation was there before, is the new key, or the key of the active
anchor. -/
theorem binding_of_rotateKey (h : AccountBinding (rotateKey did version key algorithm s).2 did' k) :
    AccountBinding s did' k ∨
      ((∃ r, rotateRows did version key algorithm s = .ok r) ∧
        did' = did ∧ k = (algorithm, key)) ∨
      ∃ a, s.activeAnchor did' = some a ∧ k = (a.identityKeyAlgorithm, a.identityKey) := by
  rcases rotateKey_eq did version key algorithm s with heq | ⟨accounts, verified, hrows, heq⟩
  · exact .inl (heq ▸ h)
  · rw [heq] at h
    rcases binding_of_get h with h | h
    · cases h with
      | cached he => exact .inl (.cached (Ets.of_delete he).2)
      | stored ha hd =>
        rcases (mem_of_rotateRows hrows).1 _ ha with ha | ⟨hxd, halg, hkey⟩
        · exact .inl (.stored ha hd)
        · exact .inr (.inl ⟨⟨_, hrows⟩, hd.symm.trans hxd, by rw [halg, hkey]⟩)
    · exact .inr (.inr h)

theorem identityBinding_of_rotateKey
    (h : IdentityBinding (rotateKey did version key algorithm s).2 did' k) :
    IdentityBinding s did' k ∨
      ((∃ r, rotateRows did version key algorithm s = .ok r) ∧
        did' = did ∧ k = (algorithm, key)) := by
  rcases rotateKey_eq did version key algorithm s with heq | ⟨accounts, verified, hrows, heq⟩
  · exact .inl (heq ▸ h)
  · rw [heq] at h
    cases (get_verified did _).binding h with
    | cached he => exact .inl (.cached (Ets.of_delete he).2)
    | stored hv hd =>
      rcases (mem_of_rotateRows hrows).2 _ hv with hv | ⟨hxd, halg, hkey⟩
      · exact .inl (.stored hv hd)
      · exact .inr ⟨⟨_, hrows⟩, hd.symm.trans hxd, by rw [halg, hkey]⟩

end DidAccountCache

end Ansible
