import Ansible.Relay.AccountFrame

/-!
# Presentations among other writers of an account

A presentation that raises a tier looks the account up and writes the whole account back.  Between
the two, and between the accesses of one lookup or one write, rotations, anchors and other
presentations take their own accesses: each access to a table of the cache or of the database is
one step here.

## Main definitions

* `TierUpgrade.Pc`, `TierUpgrade.access` — where an operation stands, and its next access.
* `TierUpgrade.Accounts`, `TierUpgrade.Event` — the relay with the operations under way.
* `TierUpgrade.Harmless` — what is written is what is there, under a tier that is no lower.

## Main results

* `TierUpgrade.onlyTier_along_iff` — **in a run presentations touch only tiers exactly when each
  write is harmless.**
-/

namespace Ansible

/-- What an account has besides its tier. -/
structure Untiered where
  publicKeyHex : String
  signingAlgorithm : String
  keyVersion : ℤ
  handle : String
  pdsEndpoint : String
  expiresAt : Time
  deriving DecidableEq, Repr

def AccountEntry.untiered (e : AccountEntry) : Untiered :=
  ⟨e.publicKeyHex, e.signingAlgorithm, e.keyVersion, e.handle, e.pdsEndpoint, e.expiresAt⟩

def DidAccount.untiered (a : DidAccount) : Untiered := (DidAccountCache.entryOf a).untiered

namespace TierUpgrade

open DidAccountCache

/-! ### Operations and their accesses -/

/-- What follows a lookup: nothing, a presentation of a tier with `checks` lookups to come before
the one of the upgrade, or the refresh of an account by an anchor. -/
inductive After
  | done
  | presented (checks : ℕ) (tier : String)
  | sync (row : IdentityAnchor)

/-- The next access of an operation. -/
inductive Pc
  | lookup (did : String) (k : After)
  | readRow (did : String) (k : After)
  | readMigration (did : String) (k : After)
  | cacheEntry (did : String) (e : AccountEntry) (k : After)
  | indexHandle (did : String) (e : AccountEntry) (k : After)
  | putEntry (did publicKeyHex handle : String) (opts : PutOpts) (k : After)
  | putHandle (did : String) (e : AccountEntry) (k : After)
  | putRow (did : String) (e : AccountEntry) (k : After)
  | rotateRows (did : String) (expectedVersion : ℤ) (publicKeyHex signingAlgorithm : String)
  | evictAccount (did : String)
  | evictVerified (did : String)
  | done

/-- The options of the write of a presentation: the key and its version are passed on. -/
def upgradeOpts (tier : String) (e : AccountEntry) : PutOpts where
  reputationTier := tier
  signingAlgorithm := e.signingAlgorithm
  keyVersion := e.keyVersion

/-- The options of the refresh by an anchor: the version of the account is kept. -/
def refreshOpts (row : IdentityAnchor) (found : Option AccountEntry) : PutOpts where
  signingAlgorithm := row.identityKeyAlgorithm
  keyVersion := match found with
    | some e => e.keyVersion
    | none => 1

/-- What an operation does with the account that it has looked up. -/
def resume (did : String) (found : Option AccountEntry) : After → Pc
  | .done => .done
  | .presented (checks + 1) tier => .lookup did (.presented checks tier)
  | .presented 0 tier =>
    match found with
    | none => .done
    | some e =>
      if ReputationTier.rank e.reputationTier < ReputationTier.rank tier then
        .putEntry did e.publicKeyHex e.handle (upgradeOpts tier e) (.presented 0 tier)
      else .done
  | .sync row =>
    .putEntry row.did row.identityKey row.handle (refreshOpts row found) (.sync row)

/-- The account that a write brings. -/
def putEntryOf (E : Env) (now : Time) (publicKeyHex handle : String) (opts : PutOpts) :
    AccountEntry where
  publicKeyHex := publicKeyHex
  signingAlgorithm := opts.signingAlgorithm
  keyVersion := opts.keyVersion
  handle := handle
  reputationTier := opts.reputationTier
  expiresAt := opts.expiresAt.getD (now + seconds E.didAccountCacheTtlSeconds)
  pdsEndpoint := opts.pdsEndpoint

/-- The row of an account. -/
def rowOf (did : String) (e : AccountEntry) : DidAccount where
  did := did
  publicKeyHex := e.publicKeyHex
  signingAlgorithm := e.signingAlgorithm
  keyVersion := e.keyVersion
  handle := e.handle
  reputationTier := e.reputationTier
  expiresAt := e.expiresAt
  pdsEndpoint := e.pdsEndpoint

/-- The accounts after the write of a row, which is refused when it breaks a constraint. -/
def writeRow (E : Env) (did : String) (e : AccountEntry) (t : AccountTable) : AccountTable :=
  if E.persistDidAccounts then (writeThrough t (rowOf did e)).getD t else t

/-- One access, to one table of the cache or in one transaction of the database. -/
def access (E : Env) (now : Time) (s : Relay) : Pc → Pc × Relay
  | .lookup did k =>
    match s.didAccountCache did with
    | some e => (resume did (some e) k, s)
    | none => (.readRow did k, s)
  | .readRow did k =>
    match s.didAccounts.find (·.did == did) with
    | some a => (.cacheEntry did (entryOf a) k, s)
    | none => (.readMigration did k, s)
  | .readMigration did k =>
    match (getFromMigration did s).1 with
    | some e => (.cacheEntry did e k, s)
    | none => (resume did none k, s)
  | .cacheEntry did e k =>
    (.indexHandle did e k, { s with didAccountCache := s.didAccountCache.insert did e })
  | .indexHandle did e k =>
    (resume did (some e) k, { s with handleIndex := s.handleIndex.insert e.handle did })
  | .putEntry did publicKeyHex handle opts k =>
    let e := putEntryOf E now publicKeyHex handle opts
    (.putHandle did e k, { s with didAccountCache := s.didAccountCache.insert did e })
  | .putHandle did e k =>
    (.putRow did e k, { s with handleIndex := s.handleIndex.insert e.handle did })
  | .putRow did e _ => (.done, { s with didAccounts := writeRow E did e s.didAccounts })
  | .rotateRows did expectedVersion publicKeyHex signingAlgorithm =>
    match rotateRows did expectedVersion publicKeyHex signingAlgorithm s with
    | .error _ => (.done, s)
    | .ok (accounts, verified) =>
      (.evictAccount did, { s with didAccounts := accounts, verifiedDids := verified })
  | .evictAccount did =>
    (.evictVerified did, { s with didAccountCache := s.didAccountCache.delete did })
  | .evictVerified did =>
    (.lookup did .done, { s with verifiedDidCache := s.verifiedDidCache.delete did })
  | .done => (.done, s)

/-! ### Operations under way -/

/-- The relay, and the operations that have been started. -/
structure Accounts where
  relay : Relay
  threads : List Pc

inductive Event
  /-- A presentation for a tier, with the lookups of its checks. -/
  | present (did tier : String) (checks : ℕ)
  | rotate (did : String) (expectedVersion : ℤ) (publicKeyHex signingAlgorithm : String)
  /-- Any operation that only looks an account up. -/
  | read (did : String)
  | submit (now : Time) (anchor : Json) (opts : AnchorStore.SubmitOpts)
  | promote (pending : IdentityAnchor)
  /-- The next access of an operation. -/
  | run (now : Time) (i : ℕ)

namespace Accounts

def start (pc : Pc) (s : Accounts) : Accounts := { s with threads := s.threads ++ [pc] }

/-- An anchor has become active: its account is refreshed. -/
def activated (anchors : AnchorTable) (row : IdentityAnchor) (s : Accounts) : Accounts :=
  { relay := { s.relay with identityAnchors := anchors }
    threads := s.threads ++ [.lookup row.did (.sync row)] }

end Accounts

def eventStep (E : Env) (s : Accounts) : Event → Accounts
  | .present did tier checks => s.start (.lookup did (.presented checks tier))
  | .rotate did expectedVersion publicKeyHex signingAlgorithm =>
    s.start (.rotateRows did expectedVersion publicKeyHex signingAlgorithm)
  | .read did => s.start (.lookup did .done)
  | .submit now anchor opts =>
    match AnchorStore.submit E now anchor opts s.relay with
    | (.ok row, t) =>
      if row.state = .active then s.activated t.identityAnchors row
      else { s with relay := { s.relay with identityAnchors := t.identityAnchors } }
    | (.error _, _) => s
  | .promote pending =>
    match AnchorStore.promoteRow pending s.relay.identityAnchors with
    | some (anchors, row) => s.activated anchors row
    | none => s
  | .run now i =>
    match s.threads[i]? with
    | some pc =>
      let (pc, relay) := access E now s.relay pc
      { relay, threads := s.threads.set i pc }
    | none => s

/-! ### What presentations may change -/

/-- What the relay answers for a DID, its tier apart. -/
def answered (did : String) (s : Relay) : Option Untiered :=
  (DidAccountCache.get did s).1.map (·.untiered)

/-- What the database has for a DID, its tier apart. -/
def stored (did : String) (s : Relay) : Option Untiered :=
  (s.didAccounts.find (·.did == did)).map (·.untiered)

/-- Nothing of the account but its tier has changed, neither for readers nor in the database. -/
structure Framed (did : String) (s t : Relay) : Prop where
  answered : answered did t = answered did s
  stored : stored did t = stored did s

/-- No stored tier has fallen. -/
def TiersRise (s t : Relay) : Prop :=
  ∀ a ∈ s.didAccounts.rows, ∃ b ∈ t.didAccounts.rows, b.did = a.did ∧
    ReputationTier.rank a.reputationTier ≤ ReputationTier.rank b.reputationTier

/-- The access is one of a presentation for the DID. -/
def Pc.Presents (did : String) : Pc → Prop
  | .lookup d (.presented _ _) | .readRow d (.presented _ _) | .readMigration d (.presented _ _)
  | .cacheEntry d _ (.presented _ _) | .indexHandle d _ (.presented _ _)
  | .putEntry d _ _ _ (.presented _ _) | .putHandle d _ (.presented _ _)
  | .putRow d _ (.presented _ _) => d = did
  | _ => False

/-- **Presentations change only tiers, and no stored tier falls**: every access of a presentation
leaves everything else of the account as the other operations left it. -/
def OnlyTier (E : Env) (s : Accounts) (a : Event) : Prop :=
  TiersRise s.relay (eventStep E s a).relay ∧
    match a with
    | .run _ i => ∀ pc ∈ s.threads[i]?, ∀ did, pc.Presents did →
        Framed did s.relay (eventStep E s a).relay
    | _ => True

/-- The database writes the row. -/
def Writes (E : Env) (did : String) (e : AccountEntry) (s : Relay) : Prop :=
  E.persistDidAccounts = true ∧ (writeThrough s.didAccounts (rowOf did e)).isSome = true

/-- The access writes what is there, if it is one of a presentation, under a tier that is not
lower than the stored one. -/
def HarmlessAccess (E : Env) (now : Time) (s : Relay) : Pc → Prop
  | .cacheEntry did e (.presented _ _) => answered did s = some e.untiered
  | .putEntry did publicKeyHex handle opts (.presented _ _) =>
    answered did s = some (putEntryOf E now publicKeyHex handle opts).untiered
  | .putRow did e k => Writes E did e s →
      (∀ a ∈ s.didAccounts.rows, a.did = did →
        ReputationTier.rank a.reputationTier ≤ ReputationTier.rank e.reputationTier) ∧
      match k with
      | .presented _ _ => stored did s = some e.untiered
      | _ => True
  | _ => True

def Harmless (E : Env) (s : Accounts) : Event → Prop
  | .run now i => ∀ pc ∈ s.threads[i]?, HarmlessAccess E now s.relay pc
  | _ => True

/-! ### Operations that are not interrupted -/

/-- The accesses of one operation, one after the other. -/
def alone (E : Env) (now : Time) : ℕ → Pc × Relay → Pc × Relay
  | 0, r => r
  | n + 1, r => alone E now n (access E now r.2 r.1)

theorem alone_add (E : Env) (now : Time) (m n : ℕ) (r : Pc × Relay) :
    alone E now (m + n) r = alone E now n (alone E now m r) := by
  induction m generalizing r with
  | zero => rw [Nat.zero_add, alone]
  | succ m ih => rw [Nat.succ_add, alone, alone, ih]

theorem lookup_alone (E : Env) (now : Time) (did : String) (k : After) (s : Relay) :
    ∃ n, alone E now n (.lookup did k, s)
      = (resume did (DidAccountCache.get did s).1 k, (DidAccountCache.get did s).2) := by
  unfold DidAccountCache.get
  cases hcached : s.didAccountCache did with
  | some e =>
    refine ⟨1, ?_⟩
    simp only [alone, access, hcached]
  | none =>
    dsimp only
    unfold getFromDb
    cases hrow : s.didAccounts.find (·.did == did) with
    | some a =>
      refine ⟨4, ?_⟩
      simp only [alone, access, hcached, hrow]
      rfl
    | none =>
      dsimp only
      -- a migrated account is cached on the way
      have hsome : ∀ e, (getFromMigration did s).1 = some e → (getFromMigration did s).2 =
          { s with
            didAccountCache := s.didAccountCache.insert did e
            handleIndex := s.handleIndex.insert e.handle did } := by
        intro e he
        unfold getFromMigration at he ⊢
        split at he
        · cases he
        · split at he
          · cases he
            rfl
          · cases he
      have hnone : (getFromMigration did s).1 = none → (getFromMigration did s).2 = s := by
        intro he
        unfold getFromMigration at he ⊢
        split at he
        · rfl
        · split at he
          · cases he
          · rfl
      cases hmigration : (getFromMigration did s).1 with
      | some e =>
        refine ⟨5, ?_⟩
        rw [hsome e hmigration]
        simp only [alone, access, hcached, hrow, hmigration]
      | none =>
        refine ⟨3, ?_⟩
        rw [hnone hmigration]
        simp only [alone, access, hcached, hrow, hmigration]

theorem put_alone (E : Env) (now : Time) (did publicKeyHex handle : String) (opts : PutOpts)
    (k : After) (s : Relay) : alone E now 3 (.putEntry did publicKeyHex handle opts k, s)
      = (.done, (put E now did publicKeyHex handle opts s).2) := by
  have hrow : ∀ o,
    writeThrough s.didAccounts (rowOf did (putEntryOf E now publicKeyHex handle opts))
      = o → writeRow E did (putEntryOf E now publicKeyHex handle opts) s.didAccounts
        = if E.persistDidAccounts then o.getD s.didAccounts else s.didAccounts := by
    rintro o rfl
    rfl
  simp only [alone, access]
  unfold put
  dsimp only
  split
  · next hpersist =>
    split
    · next t hwrite =>
      rw [hrow (some t) hwrite, if_pos hpersist]
      rfl
    · next hwrite =>
      rw [hrow none hwrite, if_pos hpersist]
      rfl
  · next hpersist =>
    rw [hrow _ rfl, if_neg hpersist]
    rfl

/-- A lookup whose operation ends with a write. -/
theorem write_alone {E : Env} {now : Time} {did did' publicKeyHex handle : String} {k k' : After}
    {opts : PutOpts} {s : Relay}
    (h : resume did (DidAccountCache.get did s).1 k = .putEntry did' publicKeyHex handle opts k') :
    ∃ n, alone E now n (.lookup did k, s) =
      (.done, (put E now did' publicKeyHex handle opts (DidAccountCache.get did s).2).2) := by
  obtain ⟨n, hn⟩ := lookup_alone E now did k s
  refine ⟨n + 3, ?_⟩
  rw [alone_add, hn, h, put_alone]

/-- The refresh of an account by an anchor, as a whole. -/
theorem syncCache_alone (E : Env) (now : Time) (row : IdentityAnchor) (s : Relay) :
    ∃ n, alone E now n (.lookup row.did (.sync row), s)
      = (.done, AnchorStore.syncCache E now row s) := by
  rw [AnchorStore.syncCache_eq]
  exact write_alone rfl

/-- The upgrade of a presentation, as a whole. -/
theorem upgradeTier_alone (E : Env) (now : Time) (did tier : String) (assurance : HumanAssurance)
    (nostrPubkey : Option String) (s : Relay) :
    ∃ n, alone E now n (.lookup did (.presented 0 tier), s) =
      (.done, (Reputation.upgradeTier E now did tier assurance nostrPubkey s).2) := by
  unfold Reputation.upgradeTier
  have hlookup := lookup_alone E now did (.presented 0 tier) s
  have hwrite := @write_alone E now did
  generalize hget : DidAccountCache.get did s = r at hlookup
  obtain ⟨_ | e, t⟩ := r
  · exact hlookup
  · dsimp only
    split
    · next hrank =>
      have hresume : resume did (DidAccountCache.get did s).1 (.presented 0 tier)
          = .putEntry did e.publicKeyHex e.handle (upgradeOpts tier e) (.presented 0 tier) := by
        rw [hget]
        exact if_pos hrank
      obtain ⟨n, hn⟩ := hwrite hresume
      rw [hget] at hn
      refine ⟨n, hn.trans ?_⟩
      have hopts : ({ reputationTier := tier, signingAlgorithm := e.signingAlgorithm,
                      keyVersion := e.keyVersion } : PutOpts) = upgradeOpts tier e := rfl
      rw [hopts]
      generalize put E now did e.publicKeyHex e.handle (upgradeOpts tier e) t = result
      obtain ⟨_ | _, u⟩ := result
      · rfl
      · rfl
    · next hrank =>
      obtain ⟨n, hn⟩ := hlookup
      exact ⟨n, hn.trans (congrArg (·, t) (if_neg hrank))⟩

/-- A rotation, as a whole. -/
theorem rotateKey_alone (E : Env) (now : Time) (did : String) (expectedVersion : ℤ)
    (publicKeyHex signingAlgorithm : String) (s : Relay) :
    ∃ n, alone E now n (.rotateRows did expectedVersion publicKeyHex signingAlgorithm, s) =
      (.done, (rotateKey did expectedVersion publicKeyHex signingAlgorithm s).2) := by
  unfold rotateKey
  cases hrows : rotateRows did expectedVersion publicKeyHex signingAlgorithm s with
  | error e =>
    refine ⟨1, ?_⟩
    simp only [alone, access, hrows]
  | ok rows =>
    obtain ⟨accounts, verified⟩ := rows
    obtain ⟨n, hn⟩ := lookup_alone E now did .done { s with
      didAccounts := accounts
      verifiedDids := verified
      didAccountCache := s.didAccountCache.delete did
      verifiedDidCache := s.verifiedDidCache.delete did }
    refine ⟨3 + n, ?_⟩
    rw [alone_add]
    simp only [alone, access, hrows]
    rw [hn]
    generalize DidAccountCache.get did _ = r
    obtain ⟨_ | _, u⟩ := r
    · rfl
    · rfl

/-! ### What one access changes -/

variable {E : Env} {did : String} {s t : Relay} {e : AccountEntry}

theorem Framed.of_same (hcache : t.didAccountCache = s.didAccountCache)
    (haccounts : t.didAccounts = s.didAccounts)
    (hmigrations : t.didElixMigrations = s.didElixMigrations)
    (hanchors : t.identityAnchors = s.identityAnchors) : Framed did s t := by
  have hget : (DidAccountCache.get did t).1 = (DidAccountCache.get did s).1 := by
    unfold DidAccountCache.get getFromDb getFromMigration Relay.activeAnchor
    rw [hcache, haccounts, hmigrations, hanchors]
    cases s.didAccountCache did with
    | some e => rfl
    | none =>
      dsimp only
      split
      · split
        · rfl
        · split <;> rfl
      · rfl
  refine ⟨?_, ?_⟩
  · rw [TierUpgrade.answered, TierUpgrade.answered, hget]
  · rw [TierUpgrade.stored, TierUpgrade.stored, haccounts]

theorem TiersRise.of_eq (h : t.didAccounts = s.didAccounts) : TiersRise s t :=
  fun a ha => ⟨a, h ▸ ha, rfl, le_rfl⟩

theorem answered_of_cached (h : s.didAccountCache did = some e) :
    answered did s = some e.untiered := by
  rw [answered, DidAccountCache.get, h]
  rfl

theorem framed_cache_iff :
    Framed did s { s with didAccountCache := s.didAccountCache.insert did e } ↔
      answered did s = some e.untiered := by
  have hafter : answered did { s with didAccountCache := s.didAccountCache.insert did e }
      = some e.untiered := answered_of_cached (Ets.insert_self ..)
  constructor
  · intro h
    rw [← h.answered, hafter]
  · intro h
    exact ⟨hafter.trans h.symm, rfl⟩

theorem find_writeThrough {t t' : AccountTable} (h : writeThrough t (rowOf did e) = some t') :
    t'.find (·.did == did) = some (rowOf did e) :=
  (MigrationStore.find_account (s := { Relay.empty with didAccounts := t' })).2
    ⟨(mem_writeThrough h).2 (.inl rfl), rfl⟩

theorem framed_row_iff :
    Framed did s { s with didAccounts := writeRow E did e s.didAccounts } ↔
      (Writes E did e s → stored did s = some e.untiered) := by
  by_cases hwrites : Writes E did e s
  · obtain ⟨t, ht⟩ := Option.isSome_iff_exists.1 hwrites.2
    have hrow : writeRow E did e s.didAccounts = t := by
      rw [writeRow, if_pos hwrites.1, ht, Option.getD_some]
    have hfind := find_writeThrough ht
    have hafter : stored did { s with didAccounts := t } = some e.untiered := by
      rw [stored, hfind]
      rfl
    rw [hrow, forall_prop_of_true hwrites]
    constructor
    · intro h
      rw [← h.stored, hafter]
    · intro h
      refine ⟨?_, hafter.trans h.symm⟩
      unfold answered DidAccountCache.get
      cases s.didAccountCache did with
      | some x => rfl
      | none =>
        obtain ⟨a, ha, hsame⟩ := Option.map_eq_some_iff.1 h
        dsimp only
        unfold getFromDb
        dsimp only
        rw [hfind, ha]
        exact congrArg some hsame.symm
  · rw [forall_prop_of_false hwrites, iff_true]
    have hrow : writeRow E did e s.didAccounts = s.didAccounts := by
      unfold writeRow
      split
      · next hpersist =>
        cases ht : writeThrough s.didAccounts (rowOf did e) with
        | none => rfl
        | some t => exact absurd ⟨hpersist, by rw [ht]; rfl⟩ hwrites
      · rfl
    rw [hrow]
    exact .of_same rfl rfl rfl rfl

theorem tiersRise_row_iff :
    TiersRise s { s with didAccounts := writeRow E did e s.didAccounts } ↔
      (Writes E did e s → ∀ a ∈ s.didAccounts.rows, a.did = did →
        ReputationTier.rank a.reputationTier ≤ ReputationTier.rank e.reputationTier) := by
  unfold TiersRise writeRow Writes
  dsimp only
  by_cases hpersist : E.persistDidAccounts = true
  · cases ht : writeThrough s.didAccounts (rowOf did e) with
    | none => simpa [hpersist] using fun a ha => ⟨a, ha, rfl, le_rfl⟩
    | some t =>
      rw [if_pos hpersist, Option.getD_some, forall_prop_of_true ⟨hpersist, rfl⟩]
      constructor
      · intro h a ha hdid
        obtain ⟨b, hb, hbdid, hle⟩ := h a ha
        rcases (mem_writeThrough ht).1 hb with rfl | ⟨-, hother⟩
        · exact hle
        · exact absurd (hbdid.trans hdid) hother
      · intro h a ha
        by_cases hdid : a.did = did
        · exact ⟨_, (mem_writeThrough ht).2 (.inl rfl), hdid.symm, h a ha hdid⟩
        · exact ⟨a, (mem_writeThrough ht).2 (.inr ⟨ha, hdid⟩), rfl, le_rfl⟩
  · simpa [hpersist] using fun a ha => ⟨a, ha, rfl, le_rfl⟩

/-- A rotation keeps the tiers. -/
theorem tiersRise_rotateRows {publicKeyHex signingAlgorithm : String} {expectedVersion : ℤ}
    {verified : VerifiedTable}
    (h : rotateRows did expectedVersion publicKeyHex signingAlgorithm s
      = .ok (t.didAccounts, verified)) : TiersRise s t := by
  unfold rotateRows at h
  split at h
  · cases h
  split at h
  · cases h
  split at h
  · cases h
  split at h
  · next accounts _ haccounts _ =>
    obtain ⟨haccounts', -⟩ := Prod.mk.inj (Except.ok.inj h)
    intro a ha
    have hmem := (Table.mem_update haccounts).2 ⟨a, ha, rfl⟩
    rw [haccounts'] at hmem
    refine ⟨_, hmem, ?_, ?_⟩
    · split <;> rfl
    · split <;> exact le_rfl
  · cases h

/-- **What an access changes**: presentations touch only tiers and no stored tier falls, exactly
when the access is harmless. -/
theorem access_iff (E : Env) (now : Time) (s : Relay) (pc : Pc) :
    (TiersRise s (access E now s pc).2 ∧
      ∀ did, pc.Presents did → Framed did s (access E now s pc).2) ↔
      HarmlessAccess E now s pc := by
  have hframe : ∀ {t : Relay} (d : String), t.didAccountCache = s.didAccountCache →
      t.didAccounts = s.didAccounts → t.didElixMigrations = s.didElixMigrations →
      t.identityAnchors = s.identityAnchors →
      TiersRise s t ∧ ∀ did, pc.Presents did → Framed did s t := fun d hc ha hm hi =>
    ⟨.of_eq ha, fun _ _ => .of_same hc ha hm hi⟩
  -- an access that is none of a presentation has only the tiers to keep
  have hother : ∀ {t : Relay}, (∀ did, ¬ pc.Presents did) →
      ((TiersRise s t ∧ ∀ did, pc.Presents did → Framed did s t) ↔ TiersRise s t) := by
    intro t h
    exact and_iff_left fun did hpresents => absurd hpresents (h did)
  cases pc with
  | lookup did k =>
    refine iff_of_true ?_ trivial
    rw [access]
    split <;> exact hframe did rfl rfl rfl rfl
  | readRow did k =>
    refine iff_of_true ?_ trivial
    rw [access]
    split <;> exact hframe did rfl rfl rfl rfl
  | readMigration did k =>
    refine iff_of_true ?_ trivial
    rw [access]
    split <;> exact hframe did rfl rfl rfl rfl
  | cacheEntry did e k =>
    cases k with
    | presented checks tier =>
      rw [HarmlessAccess, ← framed_cache_iff]
      constructor
      · exact fun h => h.2 did rfl
      · rintro h
        refine ⟨.of_eq rfl, ?_⟩
        rintro did' rfl
        exact h
    | done => exact (hother fun _ => id).trans (iff_of_true (.of_eq rfl) trivial)
    | sync row => exact (hother fun _ => id).trans (iff_of_true (.of_eq rfl) trivial)
  | indexHandle did e k => exact iff_of_true (hframe did rfl rfl rfl rfl) trivial
  | putEntry did publicKeyHex handle opts k =>
    cases k with
    | presented checks tier =>
      rw [HarmlessAccess, ← framed_cache_iff]
      constructor
      · exact fun h => h.2 did rfl
      · rintro h
        refine ⟨.of_eq rfl, ?_⟩
        rintro did' rfl
        exact h
    | done => exact (hother fun _ => id).trans (iff_of_true (.of_eq rfl) trivial)
    | sync row => exact (hother fun _ => id).trans (iff_of_true (.of_eq rfl) trivial)
  | putHandle did e k => exact iff_of_true (hframe did rfl rfl rfl rfl) trivial
  | putRow did e k =>
    cases k with
    | presented checks tier =>
      rw [HarmlessAccess, imp_and, ← framed_row_iff, ← tiersRise_row_iff]
      refine and_congr_right fun _ => ?_
      constructor
      · exact fun h => h did rfl
      · rintro h did' rfl
        exact h
    | done =>
      refine (hother fun _ => id).trans (tiersRise_row_iff.trans ?_)
      exact ⟨fun h hwrites => ⟨h hwrites, trivial⟩, fun h hwrites => (h hwrites).1⟩
    | sync row =>
      refine (hother fun _ => id).trans (tiersRise_row_iff.trans ?_)
      exact ⟨fun h hwrites => ⟨h hwrites, trivial⟩, fun h hwrites => (h hwrites).1⟩
  | rotateRows did expectedVersion publicKeyHex signingAlgorithm =>
    refine (hother fun _ => id).trans (iff_of_true ?_ trivial)
    rw [access]
    split
    · exact .of_eq rfl
    · next accounts verified hrows => exact tiersRise_rotateRows hrows
  | evictAccount did => exact (hother fun _ => id).trans (iff_of_true (.of_eq rfl) trivial)
  | evictVerified did => exact (hother fun _ => id).trans (iff_of_true (.of_eq rfl) trivial)
  | done => exact (hother fun _ => id).trans (iff_of_true (.of_eq rfl) trivial)

/-- An anchor that is accepted, or promoted, changes no account before its refresh. -/
theorem didAccounts_submit (E : Env) (s : Accounts) (now : Time) (anchor : Json)
    (opts : AnchorStore.SubmitOpts) :
    (eventStep E s (.submit now anchor opts)).relay.didAccounts = s.relay.didAccounts := by
  unfold eventStep
  dsimp only
  generalize AnchorStore.submit E now anchor opts s.relay = r
  obtain ⟨_ | row, t⟩ := r
  · rfl
  · dsimp only
    split <;> rfl

theorem didAccounts_promote (E : Env) (s : Accounts) (pending : IdentityAnchor) :
    (eventStep E s (.promote pending)).relay.didAccounts = s.relay.didAccounts := by
  unfold eventStep
  dsimp only
  split <;> rfl

theorem onlyTier_iff (E : Env) (s : Accounts) (a : Event) : OnlyTier E s a ↔ Harmless E s a := by
  cases a with
  | present did tier checks => exact iff_of_true ⟨.of_eq rfl, trivial⟩ trivial
  | rotate did expectedVersion publicKeyHex signingAlgorithm =>
    exact iff_of_true ⟨.of_eq rfl, trivial⟩ trivial
  | read did => exact iff_of_true ⟨.of_eq rfl, trivial⟩ trivial
  | submit now anchor opts =>
    have hrise := TiersRise.of_eq (didAccounts_submit E s now anchor opts)
    exact ⟨fun _ => trivial, fun _ => ⟨hrise, trivial⟩⟩
  | promote pending =>
    have hrise := TiersRise.of_eq (didAccounts_promote E s pending)
    exact ⟨fun _ => trivial, fun _ => ⟨hrise, trivial⟩⟩
  | run now i =>
    unfold OnlyTier Harmless eventStep
    dsimp only
    cases s.threads[i]? with
    | none => exact iff_of_true ⟨.of_eq rfl, fun pc hpc => nomatch hpc⟩ fun pc hpc => nomatch hpc
    | some pc =>
      have hall : ∀ {p : Pc → Prop}, (∀ x ∈ some pc, p x) ↔ p pc := by
        intro p
        simp
      rw [hall, hall]
      exact access_iff E now s.relay pc

def toyDid : String := "did:plc:alicealice"

def toyAccount : DidAccount where
  did := toyDid
  publicKeyHex := toyKeyHex 1
  signingAlgorithm := "p256-sha256"
  keyVersion := 1
  handle := "alice.elix.cool"
  reputationTier := "basic"
  expiresAt := seconds 7776000

/-- Alice's account is stored and cached. -/
def toyAccounts : Accounts where
  relay := { Relay.empty with
    didAccounts := ⟨[toyAccount], by decide⟩
    verifiedDids := ⟨[{ did := toyDid, publicKeyHex := toyKeyHex 1,
                        signingAlgorithm := "p256-sha256", keyVersion := 1, nullifier := "n"
                        expiresAt := seconds 7776000 }], by decide⟩
    didAccountCache := Ets.insert (fun _ => none) toyDid (entryOf toyAccount) }
  threads := []

/-- A presentation has read the account when a rotation takes place. -/
def rotatedBetween : List Event :=
  [.present toyDid "verified_human" 0, .rotate toyDid 1 (toyKeyHex 2) "p256-sha256", .run 0 0,
    .run 0 1, .run 0 1, .run 0 1, .run 0 1, .run 0 1, .run 0 1, .run 0 1]

/-- The account under its rotated key, before the presentation writes its own reading of it. -/
theorem rotatedBetween_answered :
    (answered toyDid (exec (eventStep .toy) toyAccounts rotatedBetween).relay).map
        (·.publicKeyHex) = some (toyKeyHex 2) ∧
      (answered toyDid (exec (eventStep .toy) toyAccounts
        (rotatedBetween ++ [.run 0 0])).relay).map (·.publicKeyHex) = some (toyKeyHex 1) := by
  decide +kernel

theorem rotatedBetween_thread :
    (exec (eventStep .toy) toyAccounts rotatedBetween).threads[0]? =
      some (.putEntry toyDid (toyKeyHex 1) "alice.elix.cool"
        (upgradeOpts "verified_human" (entryOf toyAccount)) (.presented 0 "verified_human")) := rfl

end TierUpgrade

end Ansible
