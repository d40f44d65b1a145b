import Ansible.Relay.IdentityRun

/-!
# The index of handles

A lookup by handle answers from an index in memory and, when that has no entry, from the
accounts.  Every write of an account and every lookup of a DID adds to the index; only an
explicit eviction removes from it.

## Main definitions

* `HandleAgreement`, `HandleRun` — lookups by handle answer what the accounts hold.
* `HandleAction`, `handleStep` — the machine.
* `PutAgrees`, `LookupAgrees`, `HandleSafe` — the calls that keep the agreement.

## Main results

* `handle_index_agrees` — **in every run of safe calls lookups by handle agree with the
  accounts**, and a handle that was given up is free.
-/

namespace Ansible

namespace DidAccountCache

/-! ### Canonical DIDs -/

/-- An account has the handle, and its canonical DID is `did`. -/
def Holds (s : Relay) (handle did : String) : Prop :=
  ∃ a ∈ s.didAccounts.rows, a.handle = handle ∧ canonicalDidForAccount s a.did = did

/-- The legacy account of a recorded pair has its handle, and the v1 DID an active anchor. -/
structure Backed (s : Relay) (m : DidElixMigration) : Prop where
  notV1 : IdentityV2.isV1Did m.legacyDid = false
  v1 : IdentityV2.isV1Did m.v1Did = true
  account : ∃ a ∈ s.didAccounts.rows, a.did = m.legacyDid ∧ a.handle = m.handle
  anchor : (s.activeAnchor m.v1Did).isSome = true

/-- The index is sound, handles that are equal up to case are one account's, and the recorded
pairs are backed.  The case of a handle is folded by `fold`. -/
structure HandleInv (fold : String → String) (s : Relay) : Prop where
  sound : ∀ handle did, s.handleIndex handle = some did → Holds s handle did
  apart : ∀ a ∈ s.didAccounts.rows, ∀ b ∈ s.didAccounts.rows, fold a.handle = fold b.handle → a = b
  backed : ∀ m ∈ s.didElixMigrations.rows, Backed s m

theorem account_eq_of_did {s : Relay} {a b : DidAccount} (ha : a ∈ s.didAccounts.rows)
    (hb : b ∈ s.didAccounts.rows) (h : a.did = b.did) : a = b :=
  s.didAccounts.valid.did.eq ha hb rfl rfl h

theorem account_eq_of_handle {s : Relay} {a b : DidAccount} (ha : a ∈ s.didAccounts.rows)
    (hb : b ∈ s.didAccounts.rows) (h : a.handle = b.handle) : a = b :=
  s.didAccounts.valid.handle.eq ha hb rfl rfl h

theorem canonical_of_mem {s : Relay} {m : DidElixMigration} (hm : m ∈ s.didElixMigrations.rows) :
    canonicalDidForAccount s m.legacyDid = m.v1Did := by
  have hfind : s.didElixMigrations.find (·.legacyDid == m.legacyDid) = some m := by
    rw [Table.find_eq_some_iff]
    · exact ⟨hm, beq_self_eq_true _⟩
    · intro x hx y hy hxd hyd
      rw [beq_iff_eq] at hxd hyd
      exact s.didElixMigrations.valid.legacy_did.eq hx hy rfl rfl (hxd.trans hyd.symm)
  rw [canonicalDidForAccount, hfind]

variable (E : Env) (did : String) (now : Time) (s : Relay)

theorem canonical_cases (did : String) :
    canonicalDidForAccount s did = did ∨ ∃ m ∈ s.didElixMigrations.rows, m.legacyDid = did ∧
      canonicalDidForAccount s did = m.v1Did := by
  unfold canonicalDidForAccount
  split
  · next m hm => exact .inr ⟨m, Table.mem_of_find hm, Table.key_of_find hm, rfl⟩
  · exact .inl rfl

theorem canonical_congr {s s' : Relay} (h : s'.didElixMigrations = s.didElixMigrations)
    (did : String) : canonicalDidForAccount s' did = canonicalDidForAccount s did := by
  rw [canonicalDidForAccount, h, ← canonicalDidForAccount]

section Invariant

variable {fold : String → String} {s s' : Relay}

theorem HandleInv.canonical_canonical (h : HandleInv fold s) (did : String) :
    canonicalDidForAccount s (canonicalDidForAccount s did)
      = canonicalDidForAccount s did := by
  rcases canonical_cases s did with hd | ⟨m, hm, -, hd⟩
  · rw [hd, hd]
  · rw [hd]
    rcases canonical_cases s m.v1Did with hv | ⟨n, hn, hnd, -⟩
    · exact hv
    · have hv1 := (h.backed m hm).v1
      rw [← hnd, (h.backed n hn).notV1] at hv1
      cases hv1

theorem Holds.unique {handle did did' : String} (h : Holds s handle did)
    (h' : Holds s handle did') : did = did' := by
  obtain ⟨a, ha, hah, rfl⟩ := h
  obtain ⟨b, hb, hbh, rfl⟩ := h'
  rw [account_eq_of_handle ha hb (hah.trans hbh.symm)]

/-- Accounts and pairs are as before, active anchors stay, and what the index has gained is
sound. -/
theorem HandleInv.of_same (h : HandleInv fold s) (haccounts : s'.didAccounts = s.didAccounts)
    (hmigrations : s'.didElixMigrations = s.didElixMigrations)
    (hanchor : ∀ did, (s.activeAnchor did).isSome = true → (s'.activeAnchor did).isSome = true)
    (hindex : ∀ handle did, s'.handleIndex handle = some did →
      s.handleIndex handle = some did ∨ Holds s handle did) : HandleInv fold s' where
  sound handle did hd := by
    have hholds : Holds s handle did := (hindex handle did hd).elim (h.sound handle did) id
    obtain ⟨a, ha, hah, had⟩ := hholds
    exact ⟨a, haccounts ▸ ha, hah, (canonical_congr hmigrations a.did).trans had⟩
  apart a ha b hb := h.apart a (haccounts ▸ ha) b (haccounts ▸ hb)
  backed m hm := by
    have hb := h.backed m (hmigrations ▸ hm)
    obtain ⟨a, ha, hah⟩ := hb.account
    exact ⟨hb.notV1, hb.v1, ⟨a, haccounts ▸ ha, hah⟩, hanchor _ hb.anchor⟩

theorem HandleInv.of_nonces (h : HandleInv fold s) (hsame : s.SameButNonces s') :
    HandleInv fold s' :=
  h.of_same hsame.accounts.didAccounts hsame.core.migrations
    (fun did ha => by rwa [Relay.activeAnchor, hsame.core.anchors, ← Relay.activeAnchor])
    fun handle did hd => .inl (hsame.accounts.handleIndex ▸ hd)

/-! ### Lookups -/

/-- A lookup of a DID that has not migrated finds an account only for its own handle. -/
theorem holds_of_getFromDb {did : String}
    (hcanonical : canonicalDidForAccount s did = did) {e : AccountEntry}
    (he : (DidAccountCache.getFromDb did s).1 = some e) : Holds s e.handle did := by
  unfold DidAccountCache.getFromDb at he
  split at he
  · unfold getFromMigration at he
    split at he
    · cases he
    next m hm =>
    split at he
    · next legacy anchor hlegacy _ =>
      cases he
      have hd := Table.key_of_find hlegacy
      refine ⟨legacy, Table.mem_of_find hlegacy, rfl, ?_⟩
      rw [hd, canonical_of_mem (Table.mem_of_find hm)]
      exact Table.key_of_find hm
    · cases he
  · next account haccount =>
    cases he
    refine ⟨account, Table.mem_of_find haccount, rfl, ?_⟩
    rw [Table.key_of_find haccount]
    exact hcanonical

theorem HandleInv.getFromDb (h : HandleInv fold s) {did : String}
    (hcanonical : canonicalDidForAccount s did = did) :
    HandleInv fold (DidAccountCache.getFromDb did s).2 := by
  have hholds := fun e => holds_of_getFromDb (s := s) (e := e) hcanonical
  rcases getFromDb_eq did s with heq | ⟨e, heq⟩
  · rw [heq]
    exact h
  · rw [heq] at hholds ⊢
    refine h.of_same rfl rfl (fun _ ha => ha) fun handle did' hd => ?_
    rcases Ets.of_insert hd with hd | ⟨rfl, rfl⟩
    · exact .inl hd
    · exact .inr (hholds _ rfl)

/-- A lookup that keeps the agreement: the DID is cached or has not migrated. -/
def LookupAgrees (s : Relay) (did : String) : Prop :=
  (s.didAccountCache did).isSome = true ∨ canonicalDidForAccount s did = did

theorem HandleInv.get (h : HandleInv fold s) {did : String} (hlookup : LookupAgrees s did) :
    HandleInv fold (DidAccountCache.get did s).2 := by
  unfold DidAccountCache.get
  split
  · exact h
  · next hnone =>
    rcases hlookup with hcached | hcanonical
    · rw [hnone] at hcached
      cases hcached
    · exact h.getFromDb hcanonical

theorem HandleInv.getByHandle (h : HandleInv fold s) (handle : String) :
    HandleInv fold (DidAccountCache.getByHandle handle s).2 := by
  unfold DidAccountCache.getByHandle
  split
  · exact h
  split
  · exact h
  next account _ =>
  dsimp only
  have hget := h.getFromDb (h.canonical_canonical account.did)
  generalize DidAccountCache.getFromDb (canonicalDidForAccount s account.did) s = r at hget
  obtain ⟨_ | _, t⟩ := r <;> exact hget

variable {a : DidAccount} {t : AccountTable} {E : Env} {now : Time} {params : Json}

theorem HandleInv.getFromDb_isSome (h : HandleInv fold s) (ha : a ∈ s.didAccounts.rows) :
    (DidAccountCache.getFromDb (canonicalDidForAccount s a.did) s).1.isSome = true := by
  unfold DidAccountCache.getFromDb
  split
  · next hnone =>
    have hno := Table.find_eq_none.1 hnone
    rcases canonical_cases s a.did with hd | ⟨m, hm, hmd, hd⟩
    · have hself := hno a ha
      rw [hd, beq_self_eq_true] at hself
      cases hself
    · -- the account of the pair is projected through the active anchor
      rw [hd]
      have hfind : s.didElixMigrations.find (·.v1Did == m.v1Did) = some m := by
        rw [Table.find_eq_some_iff]
        · exact ⟨hm, beq_self_eq_true _⟩
        · intro x hx y hy hxd hyd
          rw [beq_iff_eq] at hxd hyd
          exact s.didElixMigrations.valid.v1_did.eq hx hy rfl rfl (hxd.trans hyd.symm)
      have hlegacy : s.didAccounts.find (·.did == m.legacyDid) = some a :=
        MigrationStore.find_account.2 ⟨ha, hmd.symm⟩
      obtain ⟨anchor, hanchor⟩ := Option.isSome_iff_exists.1 (h.backed m hm).anchor
      rw [getFromMigration, hfind]
      dsimp only
      rw [hlegacy, hanchor]
      rfl
  · rfl

/-- **With a sound index, a lookup answers what the accounts hold.** -/
theorem HandleInv.getByHandle_eq_some_iff (h : HandleInv fold s) {handle did : String} :
    (DidAccountCache.getByHandle handle s).1 = some did ↔ Holds s handle did := by
  unfold DidAccountCache.getByHandle
  cases hindex : s.handleIndex handle with
  | some d =>
    have hd := h.sound handle d hindex
    constructor
    · intro heq
      cases heq
      exact hd
    · intro hholds
      rw [hd.unique hholds]
  | none =>
    dsimp only
    cases hfind : s.didAccounts.find (·.handle == handle) with
    | none =>
      constructor
      · intro heq
        cases heq
      · rintro ⟨a, ha, rfl, -⟩
        have hself := Table.find_eq_none.1 hfind a ha
        rw [beq_self_eq_true] at hself
        cases hself
    | some a =>
      have ha := Table.mem_of_find hfind
      have hah := Table.key_of_find hfind
      have hsome := h.getFromDb_isSome ha
      dsimp only
      generalize DidAccountCache.getFromDb (canonicalDidForAccount s a.did) s = r at hsome
      obtain ⟨_ | e, t⟩ := r
      · cases hsome
      · have hholds : Holds s handle (canonicalDidForAccount s a.did) := ⟨a, ha, hah, rfl⟩
        constructor
        · intro heq
          cases heq
          exact hholds
        · intro h'
          rw [hholds.unique h']

/-! ### Writes of an account -/

/-- The row that a put writes. -/
def accountOf (E : Env) (now : Time) (did publicKeyHex handle : String) (opts : PutOpts) :
    DidAccount where
  did := did
  publicKeyHex := publicKeyHex
  signingAlgorithm := opts.signingAlgorithm
  keyVersion := opts.keyVersion
  handle := handle
  reputationTier := opts.reputationTier
  expiresAt := opts.expiresAt.getD (now + seconds E.didAccountCacheTtlSeconds)
  pdsEndpoint := opts.pdsEndpoint

/-- A put that keeps the agreement: the handle is that of the DID already, or the row can be
stored, its DID has not migrated, nobody else has the handle in any case, and the handle that
the DID gives up is not in the index. -/
def PutAgrees (fold : String → String) (E : Env) (s : Relay) (a : DidAccount) : Prop :=
  Holds s a.handle a.did ∨
    (E.persistDidAccounts = true ∧ storable a = true ∧ canonicalDidForAccount s a.did = a.did ∧
      (∀ b ∈ s.didAccounts.rows, fold b.handle = fold a.handle → b.did = a.did) ∧
      ∀ b ∈ s.didAccounts.rows, b.did = a.did → b.handle ≠ a.handle →
        s.handleIndex b.handle = none)

/-- What a put leaves: the caches are written, and the row unless it is refused. -/
theorem put_eq (E : Env) (now : Time) (did key handle : String) (opts : PutOpts) (s : Relay) :
    ∃ entry, (put E now did key handle opts s).2 = { s with
      didAccountCache := s.didAccountCache.insert did entry
      handleIndex := s.handleIndex.insert handle did
      didAccounts := if E.persistDidAccounts then
          (writeThrough s.didAccounts (accountOf E now did key handle opts)).getD s.didAccounts
        else s.didAccounts } := by
  unfold put
  dsimp only
  split
  · split
    · next t ht => exact ⟨_, by rw [accountOf, ht]; rfl⟩
    · next ht => exact ⟨_, by rw [accountOf, ht]; rfl⟩
  · exact ⟨_, rfl⟩

/-- The rows after a write: the one of the DID is replaced. -/
theorem mem_writeThrough {t' : AccountTable} {x : DidAccount} (h : writeThrough t a = some t') :
    x ∈ t'.rows ↔ x = a ∨ (x ∈ t.rows ∧ x.did ≠ a.did) := by
  unfold writeThrough Table.upsert at h
  split at h
  · split at h
    · next hany =>
      obtain ⟨r, hr, hrd⟩ := List.any_eq_true.1 hany
      rw [Table.mem_update h]
      constructor
      · rintro ⟨y, hy, rfl⟩
        split
        · exact .inl rfl
        · next hne => exact .inr ⟨hy, by simpa using hne⟩
      · rintro (rfl | ⟨hx, hne⟩)
        · exact ⟨r, hr, if_pos hrd⟩
        · exact ⟨x, hx, by simp [hne]⟩
    · next hnone =>
      rw [Table.mem_insert h, or_comm]
      refine or_congr_right ⟨fun hx => ⟨hx, fun hd => hnone ?_⟩, And.left⟩
      exact List.any_eq_true.2 ⟨x, hx, by simp [hd]⟩
  · cases h

theorem writeThrough_isSome (hstorable : storable a = true)
    (hhandle : ∀ b ∈ t.rows, b.handle = a.handle → b.did = a.did) :
    ∃ t', writeThrough t a = some t' := by
  have hvalid := t.valid
  have hnodup := hvalid.did.nodup
  have hdid : ∀ {x y}, x ∈ t.rows → y ∈ t.rows → x.did = y.did → x = y := fun hx hy hxy =>
    hvalid.did.eq hx hy rfl rfl hxy
  have hhandle' : ∀ {x y}, x ∈ t.rows → y ∈ t.rows → x.handle = y.handle → x = y := fun hx hy hxy =>
    hvalid.handle.eq hx hy rfl rfl hxy
  rw [writeThrough, if_pos hstorable, Table.upsert]
  split
  · refine Option.isSome_iff_exists.1 (Table.commit_isSome.2 ⟨?_, ?_⟩)
    · refine hvalid.did.map (fun x => ?_) fun _ _ => rfl
      split
      · next hx => exact (beq_iff_eq.1 hx).symm
      · rfl
    · rw [UniqueOn, List.filter_true, List.map_map]
      refine List.Nodup.map_on (fun x hx y hy hxy => ?_) hnodup
      by_cases hxa : x.did = a.did <;> by_cases hya : y.did = a.did <;>
        simp only [Function.comp_apply, hxa, hya, if_true, beq_iff_eq, if_false] at hxy
      · exact hdid hx hy (hxa.trans hya.symm)
      · exact absurd (hhandle y hy hxy.symm) hya
      · exact absurd (hhandle x hx hxy) hxa
      · exact hhandle' hx hy hxy
  · next hnone =>
    have hfree : ∀ x ∈ t.rows, x.did ≠ a.did := by simpa using hnone
    refine Option.isSome_iff_exists.1 (Table.commit_isSome.2 ⟨?_, ?_⟩)
    · have h := hvalid.did
      rw [UniqueOn, List.filter_true] at h ⊢
      rw [List.map_append, List.nodup_append]
      refine ⟨h, by simp, fun d hd d' hd' => ?_⟩
      obtain ⟨x, hx, rfl⟩ := List.mem_map.1 hd
      rw [List.map_singleton, List.mem_singleton] at hd'
      rw [hd']
      exact hfree x hx
    · have h := hvalid.handle
      rw [UniqueOn, List.filter_true] at h ⊢
      rw [List.map_append, List.nodup_append]
      refine ⟨h, by simp, fun d hd d' hd' => ?_⟩
      obtain ⟨x, hx, rfl⟩ := List.mem_map.1 hd
      rw [List.map_singleton, List.mem_singleton] at hd'
      rw [hd']
      exact fun hxa => hfree x hx (hhandle x hx hxa)

/-- The row is written under its DID's own handle. -/
theorem HandleInv.written (h : HandleInv fold s) {cache : Ets AccountEntry}
    (ht : writeThrough s.didAccounts a = some t)
    (hcanonical : canonicalDidForAccount s a.did = a.did)
    (hfree : ∀ b ∈ s.didAccounts.rows, fold b.handle = fold a.handle → b.did = a.did)
    (hindex : ∀ b ∈ s.didAccounts.rows, b.did = a.did → b.handle ≠ a.handle →
      s.handleIndex b.handle = none) :
    HandleInv fold { s with
      didAccountCache := cache
      handleIndex := s.handleIndex.insert a.handle a.did
      didAccounts := t } where
  sound handle did hd := by
    rcases Ets.of_insert hd with hd | ⟨rfl, rfl⟩
    · obtain ⟨y, hy, rfl, rfl⟩ := h.sound handle did hd
      by_cases hya : y.did = a.did
      · by_cases hyh : y.handle = a.handle
        · exact ⟨a, (mem_writeThrough ht).2 (.inl rfl), hyh.symm,
            congrArg (canonicalDidForAccount s) hya.symm⟩
        · rw [hindex y hy hya hyh] at hd
          cases hd
      · exact ⟨y, (mem_writeThrough ht).2 (.inr ⟨hy, hya⟩), rfl, rfl⟩
    · exact ⟨a, (mem_writeThrough ht).2 (.inl rfl), rfl, hcanonical⟩
  apart x hx y hy hxy := by
    rcases (mem_writeThrough ht).1 hx with rfl | ⟨hxs, hxa⟩ <;>
      rcases (mem_writeThrough ht).1 hy with rfl | ⟨hys, hya⟩
    · rfl
    · exact absurd (hfree y hys hxy.symm) hya
    · exact absurd (hfree x hxs hxy) hxa
    · exact h.apart x hxs y hys hxy
  backed m hm := by
    have hb := h.backed m hm
    obtain ⟨y, hy, hyd, hyh⟩ := hb.account
    refine ⟨hb.notV1, hb.v1, ⟨y, (mem_writeThrough ht).2 (.inr ⟨hy, fun hya => ?_⟩), hyd, hyh⟩,
      hb.anchor⟩
    -- a legacy DID that has migrated is not canonical
    have hlegacy : canonicalDidForAccount s m.legacyDid = m.v1Did := canonical_of_mem hm
    have hv1 := hb.v1
    rw [← hlegacy, ← hyd, hya, hcanonical, ← hya, hyd, hb.notV1] at hv1
    cases hv1

/-- **A put that agrees keeps the index sound.** -/
theorem HandleInv.put (h : HandleInv fold s) {did key handle : String} {opts : PutOpts}
    (hput : PutAgrees fold E s (accountOf E now did key handle opts)) :
    HandleInv fold (DidAccountCache.put E now did key handle opts s).2 := by
  obtain ⟨entry, heq⟩ := put_eq E now did key handle opts s
  rw [heq]
  rcases hput with hholds | ⟨hpersist, hstorable, hcanonical, hfree, hindex⟩
  · -- the handle is that of the DID already: a row that is written keeps it
    have hsame : HandleInv fold { s with
        didAccountCache := s.didAccountCache.insert did entry
        handleIndex := s.handleIndex.insert handle did } := by
      refine h.of_same rfl rfl (fun _ ha => ha) fun handle' did' hd => ?_
      rcases Ets.of_insert hd with hd | ⟨rfl, rfl⟩
      · exact .inl hd
      · exact .inr hholds
    split
    · cases ht : writeThrough s.didAccounts (accountOf E now did key handle opts) with
      | none => exact hsame
      | some t =>
        obtain ⟨x, hx, hxh, hxd⟩ := hholds
        have hown : x.did = did := by
          by_contra hne
          have hxt := (mem_writeThrough ht).2 (.inr ⟨hx, hne⟩)
          have hat := (mem_writeThrough ht).2 (.inl rfl)
          have hxa := t.valid.handle.eq hxt hat rfl rfl hxh
          exact hne (congrArg DidAccount.did hxa)
        refine h.written ht ?_ (fun b hb hbf => ?_) fun b hb hbd hbh => ?_
        · rw [hown] at hxd
          exact hxd
        · rw [h.apart b hb x hx (hbf.trans (congrArg fold hxh).symm)]
          exact hown
        · rw [account_eq_of_did hb hx (hbd.trans hown.symm)] at hbh
          exact absurd hxh hbh
    · exact hsame
  · obtain ⟨t, ht⟩ := writeThrough_isSome hstorable fun b hb hbh => hfree b hb (congrArg fold hbh)
    rw [if_pos hpersist, ht]
    exact h.written ht hcanonical hfree hindex

/-! ### The endpoints -/

theorem HandleInv.of_core (h : HandleInv fold s) (hcore : s.SameCore s')
    (haccounts : s.SameAccounts s') : HandleInv fold s' :=
  h.of_same haccounts.didAccounts hcore.migrations
    (fun did ha => by rwa [Relay.activeAnchor, hcore.anchors, ← Relay.activeAnchor])
    fun handle did hd => .inl (haccounts.handleIndex ▸ hd)

theorem HandleInv.putIdentity (h : HandleInv fold s) (E : Env) (now : Time)
    (reg : IdentityV2.Admitted) : HandleInv fold (IdentityV2.putIdentity E now reg s).2 := by
  unfold IdentityV2.putIdentity
  exact h.of_core (IdentityCache.put_core ..).1 (IdentityCache.put_core ..).2

theorem HandleInv.issueNonce (h : HandleInv fold s) {fresh key handle : String} :
    HandleInv fold (IdentityV2.issueRegistrationNonce now fresh key handle s).2 := by
  have hsame := h.of_nonces (issueNonce_same now fresh key handle s)
  unfold IdentityV2.issueRegistrationNonce
  generalize DidAccountCache.issueNonce now fresh key handle s = r at hsame
  obtain ⟨_ | _, t⟩ := r <;> exact hsame

theorem HandleInv.canonical_of_getByHandle (h : HandleInv fold s) (handle did : String)
    (heq : (DidAccountCache.getByHandle handle s).1 = some did) :
    canonicalDidForAccount s did = did := by
  obtain ⟨a, -, -, rfl⟩ := h.getByHandle_eq_some_iff.1 heq
  exact h.canonical_canonical a.did

/-- `register` looks up an owner, whose DID is canonical. -/
theorem HandleInv.register (h : HandleInv fold s) {fresh : String} :
    HandleInv fold (IdentityV2.register E now fresh params s).2 := by
  unfold IdentityV2.register
  split
  · exact h
  next algorithm key suffix _ =>
  dsimp only
  have hhandle := h.getByHandle (IdentityV2.handleOf E suffix)
  have howner := h.canonical_of_getByHandle (IdentityV2.handleOf E suffix)
  have hcore := getByHandle_core (IdentityV2.handleOf E suffix) s
  generalize DidAccountCache.getByHandle (IdentityV2.handleOf E suffix) s = r
    at hhandle howner hcore
  obtain ⟨_ | did, t⟩ := r
  · exact hhandle.issueNonce
  dsimp only at hhandle howner hcore ⊢
  have hget := hhandle.get (.inr ((canonical_congr hcore.migrations did).trans (howner did rfl)))
  generalize DidAccountCache.get did t = r at hget
  obtain ⟨_ | entry, u⟩ := r
  · exact hget
  dsimp only at hget ⊢
  split
  · exact hget.issueNonce
  · exact hget

/-- A registration that keeps the agreement, in the state that admits it and in the one that it
then writes. -/
structure AnchorAgrees (fold : String → String) (E : Env) (now : Time) (params : Json) (s : Relay) :
    Prop where
  lookup : ∀ reg, (IdentityV2.admission E now params s).1 = .ok reg → LookupAgrees s reg.did
  put : ∀ reg t, Registers E now params s reg .fresh t → PutAgrees fold E t
    (accountOf E now reg.did reg.publicKeyHex reg.handle { signingAlgorithm := reg.algorithm })

theorem lookupAgrees_of_put (E : Env) (now : Time) (did key handle : String) (opts : PutOpts)
    (s : Relay) : LookupAgrees (DidAccountCache.put E now did key handle opts s).2 did := by
  obtain ⟨entry, heq⟩ := put_eq E now did key handle opts s
  rw [heq]
  exact .inl (congrArg Option.isSome (Ets.insert_self ..))

theorem HandleInv.anchor (h : HandleInv fold s) (hagrees : AnchorAgrees fold E now params s) :
    HandleInv fold (IdentityV2.anchor E now params s).2 := by
  have hsame := IdentityV2.admission_same E now params s
  obtain ⟨hlookup, hput⟩ := hagrees
  unfold IdentityV2.anchor
  cases hreg : IdentityV2.admission E now params s with
  | mk r s₁ =>
  rw [hreg] at hsame hlookup
  have hadmitted := h.of_nonces hsame
  cases r with
  | error e => exact hadmitted
  | ok reg =>
  dsimp only at hadmitted hsame ⊢
  unfold IdentityV2.anchorVerifiedDid
  cases hslot : IdentityV2.slotOf reg s₁ with
  | mk slot t =>
  have ht : HandleInv fold t := by
    have hstate := IdentityV2.slotOf_eq reg s₁
    rw [hslot] at hstate
    dsimp only at hstate
    rw [hstate]
    refine (hadmitted.get ?_).getByHandle reg.handle
    exact (hlookup reg rfl).imp (fun hc => hsame.accounts.didAccountCache ▸ hc)
      (canonical_congr hsame.core.migrations reg.did).trans
  cases slot with
  | duplicateDid => exact ht
  | handleTaken => exact ht
  | refresh e =>
    have hidentity := ht.putIdentity E now reg
    dsimp only
    generalize IdentityV2.putIdentity E now reg t = w at hidentity
    obtain ⟨_ | _, u⟩ := w <;> exact hidentity
  | fresh =>
    have haccount := ht.put (hput reg t ⟨by rw [hreg], by rw [hreg]; exact hslot⟩)
    have hcached := lookupAgrees_of_put E now reg.did reg.publicKeyHex reg.handle
      { signingAlgorithm := reg.algorithm } t
    dsimp only
    generalize DidAccountCache.put E now reg.did reg.publicKeyHex reg.handle
      { signingAlgorithm := reg.algorithm } t = w at haccount hcached
    -- the account was refused, or the identity is written and the account read back
    obtain ⟨_ | _, u⟩ := w
    · have hidentity := haccount.putIdentity E now reg
      have hkept : LookupAgrees (IdentityV2.putIdentity E now reg u).2 reg.did := by
        unfold IdentityV2.putIdentity
        obtain ⟨hcore, haccounts⟩ := IdentityCache.put_core E now reg.did reg.publicKeyHex
          (some (IdentityV2.v2Nullifier reg.did)) none reg.algorithm u
        exact hcached.imp (fun hc => haccounts.didAccountCache ▸ hc)
          (canonical_congr hcore.migrations reg.did).trans
      dsimp only
      generalize IdentityV2.putIdentity E now reg u = w at hidentity hkept
      obtain ⟨_ | _, v⟩ := w
      · have hget := hidentity.get hkept
        dsimp only at hget ⊢
        generalize DidAccountCache.get reg.did v = g at hget
        obtain ⟨_ | _, x⟩ := g <;> exact hget
      · exact hidentity
    · exact haccount

theorem HandleInv.migrate (h : HandleInv fold s) {P : Platform} :
    HandleInv fold (MigrationStore.submit P params s).2 := by
  rcases MigrationStore.submit_leaves P params s with
      ⟨hs, -⟩ | ⟨row, t, hrow, ht, -, hs⟩
  · rw [hs]
    exact h
  rw [hs]
  obtain ⟨legacy, hlegacy, hdid, hhandle⟩ := hrow.account
  -- the canonical DIDs of other accounts stay
  have hother : ∀ did, did ≠ row.legacyDid → ∀ s' : Relay, s'.didElixMigrations = t →
      canonicalDidForAccount s' did = canonicalDidForAccount s did := by
    intro did hne s' hs'
    have hfind : t.find (·.legacyDid == did) = s.didElixMigrations.find (·.legacyDid == did) := by
      rw [Table.find, Table.rows_of_commit ht, List.find?_append, Table.find]
      simp [Ne.symm hne]
    rw [canonicalDidForAccount, hs', hfind, ← canonicalDidForAccount]
  refine ⟨fun handle did hd => ?_, h.apart, fun m hm => ?_⟩
  · obtain ⟨hne, hd⟩ := Ets.of_delete (Ets.of_delete hd).2
    obtain ⟨y, hy, hyh, hyd⟩ := h.sound handle did hd
    have hyl : y.did ≠ row.legacyDid := by
      intro hyl
      rw [account_eq_of_did hy hlegacy (hyl.trans hdid.symm), hhandle] at hyh
      exact hne hyh.symm
    exact ⟨y, hy, hyh, (hother y.did hyl _ rfl).trans hyd⟩
  · rcases (Table.mem_insert ht).1 hm with hm | rfl
    · have hb := h.backed m hm
      exact ⟨hb.notV1, hb.v1, hb.account, hb.anchor⟩
    · exact ⟨hrow.notV1, hrow.v1, hrow.account, hrow.v1Anchor⟩

/-! ### The anchor store -/

/-- A refresh of the account cache by a row that keeps the agreement. -/
structure SyncAgrees (fold : String → String) (E : Env) (now : Time) (row : IdentityAnchor)
    (s : Relay) : Prop where
  lookup : LookupAgrees s row.did
  put : PutAgrees fold E (AnchorStore.synced row s)
    (accountOf E now row.did row.identityKey row.handle (AnchorStore.syncOpts row s))

theorem HandleInv.syncCache (h : HandleInv fold s) {row : IdentityAnchor}
    (hagrees : SyncAgrees fold E now row s) :
    HandleInv fold (AnchorStore.syncCache E now row s) := by
  rw [AnchorStore.syncCache_eq]
  exact (h.get hagrees.lookup).put hagrees.put

/-- Only the anchors change, and active ones stay. -/
theorem HandleInv.of_anchors (h : HandleInv fold s) {t : AnchorTable}
    (hanchor : ∀ did, (s.activeAnchor did).isSome = true → (t.activeAnchor did).isSome = true) :
    HandleInv fold { s with identityAnchors := t } :=
  h.of_same rfl rfl hanchor fun _ _ hd => .inl hd

end Invariant

/-! ### The machine -/

/-- What a handle depends on: registrations, puts of accounts, the anchor store, migrations,
lookups, evictions and restarts. -/
inductive HandleAction
  | register (now : Time) (fresh : String) (params : Json)
  | anchor (now : Time) (params : Json)
  | put (now : Time) (did publicKeyHex handle : String) (opts : PutOpts)
  | store (act : AnchorStore.AnchorAction)
  | migrate (params : Json)
  | account (did : String)
  | accountByHandle (handle : String)
  | invalidate (did : String) (handle : Option String)
  | restart

def handleStep (E : Env) (s : Relay) : HandleAction → Relay
  | .register now fresh params => (IdentityV2.register E now fresh params s).2
  | .anchor now params => (IdentityV2.anchor E now params s).2
  | .put now did key handle opts => (put E now did key handle opts s).2
  | .store act => AnchorStore.anchorStep E s act
  | .migrate params => (MigrationStore.submit E.toPlatform params s).2
  | .account did => (get did s).2
  | .accountByHandle handle => (getByHandle handle s).2
  | .invalidate did handle => invalidate did handle s
  | .restart => s.restart

/-- The anchors of the state are those of the table. -/
def withAnchors (s : Relay) (t : AnchorTable) : Relay := { s with identityAnchors := t }

/-- A call that keeps the agreement: whatever it puts and looks up does. -/
def HandleSafe (fold : String → String) (E : Env) (s : Relay) : HandleAction → Prop
  | .anchor now params => AnchorAgrees fold E now params s
  | .put now did key handle opts => PutAgrees fold E s (accountOf E now did key handle opts)
  | .store (.submit now anchor opts) => ∀ row,
      (AnchorStore.submit E now anchor opts s).1 = .ok row → row.state = .active →
        SyncAgrees fold E now row
          (withAnchors s (AnchorStore.submit E now anchor opts s).2.identityAnchors)
  | .store (.promoteDue now) =>
      Along (fun s r => AnchorStore.promoteOne E now r s) (fun s r => ∀ t row,
        AnchorStore.promoteRow r s.identityAnchors = some (t, row) →
          SyncAgrees fold E now row (withAnchors s t)) s (AnchorStore.promotable now s)
  | .account did => LookupAgrees s did
  | _ => True

section Step

variable {fold : String → String} {E : Env} {s : Relay}

theorem active_of_activates {t t' : AnchorTable} {row : IdentityAnchor}
    (h : AnchorStore.Activates t t' row) (did : String)
    (ha : (t.activeAnchor did).isSome = true) : (t'.activeAnchor did).isSome = true := by
  by_cases hd : did = row.did
  · rw [hd, h.self]
    rfl
  · rwa [h.other did hd]

theorem HandleInv.submit (h : HandleInv fold s) {now : Time} {anchor : Json}
    {opts : AnchorStore.SubmitOpts}
    (hsafe : HandleSafe fold E s (.store (.submit now anchor opts))) :
    HandleInv fold (AnchorStore.submit E now anchor opts s).2 := by
  have hactive : ∀ did, (s.activeAnchor did).isSome = true →
      ((AnchorStore.submit E now anchor opts s).2.activeAnchor did).isSome = true := by
    intro did ha
    rcases AnchorStore.submit_activeAnchor E now anchor opts s with hsame | ⟨row, -, -, hact⟩
    · rwa [hsame]
    · exact active_of_activates hact did ha
  have hwritten := AnchorStore.submit_written E now anchor opts s
  rw [HandleSafe] at hsafe
  generalize AnchorStore.submit E now anchor opts s = r at hwritten hactive hsafe
  cases hwritten with
  | refused e => exact h
  | pending row t _ => exact h.of_anchors hactive
  | active row t hstate =>
    have hcore := (AnchorStore.syncCache_core E now row { s with identityAnchors := t }).anchors
    have hsync := hsafe row rfl hstate
    dsimp only at hsync hactive
    rw [hcore] at hsync
    refine (h.of_anchors fun did ha => ?_).syncCache hsync
    have hsome := hactive did ha
    rwa [Relay.activeAnchor, hcore] at hsome

theorem HandleInv.promotions {now : Time} {l : List IdentityAnchor} (h : HandleInv fold s)
    (hsafe : Along (fun s r => AnchorStore.promoteOne E now r s) (fun s r => ∀ t row,
      AnchorStore.promoteRow r s.identityAnchors = some (t, row) →
        SyncAgrees fold E now row (withAnchors s t)) s l) :
    HandleInv fold (l.foldl (fun s r => AnchorStore.promoteOne E now r s) s) := by
  refine hsafe.invariant (fun s r h hok => ?_) h
  rcases AnchorStore.promoteOne_written E now r s with hs | ⟨t, row, ht, hs⟩
  · rw [hs]
    exact h
  · rw [hs]
    obtain ⟨-, -, -, hact⟩ := AnchorStore.activates_of_promoteRow ht
    exact (h.of_anchors (active_of_activates hact)).syncCache (hok t row ht)

/-- **Every safe call keeps the index sound.** -/
theorem HandleInv.step (h : HandleInv fold s) (act : HandleAction)
    (hsafe : HandleSafe fold E s act) : HandleInv fold (handleStep E s act) := by
  cases act with
  | register now fresh params => exact h.register
  | anchor now params => exact h.anchor hsafe
  | put now did key handle opts => exact h.put hsafe
  | store act =>
    cases act with
    | submit now anchor opts => exact h.submit hsafe
    | promoteDue now => exact h.promotions hsafe
    | veto did cid sig =>
      have haccounts := AnchorStore.veto_accounts E.toPlatform did cid sig s
      refine h.of_same haccounts.didAccounts ?_ (fun d ha => ?_) fun handle d hd =>
        .inl (haccounts.handleIndex ▸ hd)
      · exact AnchorStore.veto_migrations E.toPlatform did cid sig s
      · rwa [handleStep, AnchorStore.anchorStep, AnchorStore.veto_activeAnchor]
  | migrate params => exact h.migrate
  | account did => exact h.get hsafe
  | accountByHandle handle => exact h.getByHandle handle
  | invalidate did handle =>
    refine h.of_same rfl rfl (fun _ ha => ha) fun handle' did' hd => .inl ?_
    cases handle with
    | none => exact hd
    | some x => exact (Ets.of_delete hd).2
  | restart => exact h.of_same rfl rfl (fun _ ha => ha) fun _ _ hd => nomatch hd

end Step

/-! ### Handles that are given up -/

/-- Accounts stay, and no pair is recorded. -/
structure Kept (s s' : Relay) : Prop where
  accounts : ∀ a ∈ s.didAccounts.rows, ∃ b ∈ s'.didAccounts.rows, b.did = a.did
  migrations : s'.didElixMigrations = s.didElixMigrations

theorem Kept.of_eq {s s' : Relay} (haccounts : s'.didAccounts = s.didAccounts)
    (hmigrations : s'.didElixMigrations = s.didElixMigrations) : Kept s s' :=
  ⟨fun a ha => ⟨a, haccounts ▸ ha, rfl⟩, hmigrations⟩

theorem Kept.refl : Kept s s := .of_eq rfl rfl

theorem Kept.trans {s₁ s₂ s₃ : Relay} (h : Kept s₁ s₂) (h' : Kept s₂ s₃) : Kept s₁ s₃ where
  accounts a ha := by
    obtain ⟨b, hb, hba⟩ := h.accounts a ha
    obtain ⟨c, hc, hcb⟩ := h'.accounts b hb
    exact ⟨c, hc, hcb.trans hba⟩
  migrations := h'.migrations.trans h.migrations

theorem getFromDb_kept : Kept s (DidAccountCache.getFromDb did s).2 := by
  rcases getFromDb_eq did s with heq | ⟨e, heq⟩
  · rw [heq]
    exact .refl s
  · rw [heq]
    exact .of_eq rfl rfl

theorem get_kept : Kept s (DidAccountCache.get did s).2 := by
  unfold DidAccountCache.get
  split
  · exact .refl s
  · exact getFromDb_kept did s

theorem getByHandle_kept (handle : String) (s : Relay) :
    Kept s (DidAccountCache.getByHandle handle s).2 := by
  unfold DidAccountCache.getByHandle
  split
  · exact .refl s
  split
  · exact .refl s
  next account _ =>
  dsimp only
  have hget := getFromDb_kept (canonicalDidForAccount s account.did) s
  generalize DidAccountCache.getFromDb (canonicalDidForAccount s account.did) s = r at hget
  obtain ⟨_ | _, t⟩ := r <;> exact hget

theorem put_kept (did key handle : String) (opts : PutOpts) (s : Relay) :
    Kept s (DidAccountCache.put E now did key handle opts s).2 := by
  obtain ⟨entry, heq⟩ := put_eq E now did key handle opts s
  rw [heq]
  split
  · cases ht : writeThrough s.didAccounts (accountOf E now did key handle opts) with
    | none => exact .of_eq rfl rfl
    | some t =>
      refine ⟨fun a ha => ?_, rfl⟩
      by_cases had : a.did = did
      · exact ⟨_, (mem_writeThrough ht).2 (.inl rfl), had.symm⟩
      · exact ⟨a, (mem_writeThrough ht).2 (.inr ⟨ha, had⟩), rfl⟩
  · exact .of_eq rfl rfl

theorem kept_stable : Stable (Kept s) where
  nonces h hsame := h.trans (.of_eq hsame.accounts.didAccounts hsame.core.migrations)
  account did h := h.trans (get_kept did _)
  accountByHandle handle h := h.trans (getByHandle_kept handle _)
  identity now did h := h.trans
    (.of_eq (IdentityCache.get_core now did _).2.didAccounts
      (IdentityCache.get_core now did _).1.migrations)

theorem Kept.putIdentity {s t : Relay} (h : Kept s t) (E : Env) (now : Time)
    (reg : IdentityV2.Admitted) : Kept s (IdentityV2.putIdentity E now reg t).2 := by
  unfold IdentityV2.putIdentity
  exact h.trans (.of_eq (IdentityCache.put_core ..).2.didAccounts
    (IdentityCache.put_core ..).1.migrations)

theorem syncCache_kept (row : IdentityAnchor) (s : Relay) (t : AnchorTable) :
    Kept s (AnchorStore.syncCache E now row { s with identityAnchors := t }) := by
  have hanchors : Kept s { s with identityAnchors := t } := .of_eq rfl rfl
  rw [AnchorStore.syncCache_eq]
  exact hanchors.trans ((get_kept row.did _).trans (put_kept ..))

theorem promoteDue_kept : Kept s (AnchorStore.promoteDue E now s) := by
  unfold AnchorStore.promoteDue
  induction AnchorStore.promotable now s generalizing s with
  | nil => exact .refl s
  | cons r l ih =>
    refine Kept.trans ?_ (ih (AnchorStore.promoteOne E now r s))
    rcases AnchorStore.promoteOne_written E now r s with hs | ⟨t, row, -, hs⟩
    · rw [hs]
      exact .refl s
    · rw [hs]
      exact syncCache_kept E now row s t

/-- Every call keeps the accounts, and records a pair only over its accounts. -/
theorem handleStep_kept (act : HandleAction) :
    Kept s (handleStep E s act) ∨ ∃ row t, MigrationStore.Recorded s row ∧
      s.didElixMigrations.insert row = some t ∧
      (handleStep E s act).didElixMigrations = t ∧ (handleStep E s act).didAccounts
        = s.didAccounts := by
  cases act with
  | register now fresh params => exact .inl ((kept_stable s).register (.refl s))
  | anchor now params =>
    refine .inl ((kept_stable s).anchor (.refl s) (fun reg _ _ _ ht => ht.putIdentity E now reg)
      (fun reg t _ ht => ht.trans (put_kept ..)) fun reg _ _ _ _ hu => hu.putIdentity E now reg)
  | put now did key handle opts => exact .inl (put_kept ..)
  | store act =>
    refine .inl ?_
    cases act with
    | submit now anchor opts =>
      have hwritten := AnchorStore.submit_written E now anchor opts s
      rw [handleStep, AnchorStore.anchorStep]
      generalize AnchorStore.submit E now anchor opts s = r at hwritten
      cases hwritten with
      | refused e => exact .refl s
      | pending row t _ => exact .of_eq rfl rfl
      | active row t _ =>
        exact syncCache_kept E now row s t
    | promoteDue now => exact promoteDue_kept E now s
    | veto did cid sig =>
      exact .of_eq (AnchorStore.veto_accounts E.toPlatform did cid sig s).didAccounts
        (AnchorStore.veto_migrations E.toPlatform did cid sig s)
  | migrate params =>
    rcases MigrationStore.submit_leaves E.toPlatform params s with
      ⟨hs, -⟩ | ⟨row, t, hrow, ht, -, hs⟩
    · rw [handleStep, hs]
      exact .inl (.refl s)
    · refine .inr ⟨row, t, hrow, ht, ?_⟩
      rw [handleStep, hs]
      exact ⟨rfl, rfl⟩
  | account did => exact .inl (get_kept did s)
  | accountByHandle handle => exact .inl (getByHandle_kept handle s)
  | invalidate did handle => exact .inl (.of_eq rfl rfl)
  | restart => exact .inl (.of_eq rfl rfl)

theorem exec_account {s : Relay} (acts : List HandleAction) {a : DidAccount}
    (ha : a ∈ s.didAccounts.rows) :
    ∃ b ∈ (exec (handleStep E) s acts).didAccounts.rows, b.did = a.did := by
  refine exec_invariant (I := fun t : Relay => ∃ b ∈ t.didAccounts.rows, b.did = a.did)
    (fun t act ⟨b, hb, hba⟩ => ?_) ⟨a, ha, rfl⟩ acts
  rcases handleStep_kept E t act with h | ⟨_, _, _, _, _, hsame⟩
  · obtain ⟨c, hc, hcb⟩ := h.accounts b hb
    exact ⟨c, hc, hcb.trans hba⟩
  · exact ⟨b, hsame ▸ hb, hba⟩

/-! ### Agreement along a run -/

/-- A lookup by handle answers the canonical DID of the account that has the handle, and no two
accounts have one handle in different cases. -/
structure HandleAgreement (fold : String → String) (s : Relay) : Prop where
  answers : ∀ handle did, (getByHandle handle s).1 = some did ↔ Holds s handle did
  apart : ∀ a ∈ s.didAccounts.rows, ∀ b ∈ s.didAccounts.rows,
    fold a.handle = fold b.handle → a.did = b.did

theorem HandleInv.agreement {fold : String → String} {s : Relay} (h : HandleInv fold s) :
    HandleAgreement fold s :=
  ⟨fun _ _ => h.getByHandle_eq_some_iff, fun a ha b hb hab => by rw [h.apart a ha b hb hab]⟩

/-- The agreement after the run `acts` from `s₀`; a handle that an account has had and no longer
has does not resolve to its DID. -/
structure HandleRun (fold : String → String) (E : Env) (s₀ : Relay) (acts : List HandleAction) :
    Prop extends HandleAgreement fold (exec (handleStep E) s₀ acts) where
  givenUp : ∀ pre post, acts = pre ++ post →
    ∀ a ∈ (exec (handleStep E) s₀ pre).didAccounts.rows,
    ∀ b ∈ (exec (handleStep E) s₀ acts).didAccounts.rows, b.did = a.did → b.handle ≠ a.handle →
      (getByHandle a.handle (exec (handleStep E) s₀ acts)).1 ≠ some a.did

theorem not_recorded_of_account {s : Relay} {m : DidElixMigration} {a : DidAccount}
    (ha : a ∈ s.didAccounts.rows) (had : a.did = m.v1Did) : ¬ MigrationStore.Recorded s m := by
  intro h
  obtain ⟨b, hb, hbd, hbh⟩ := h.account
  have hab := account_eq_of_handle ha hb ((h.v1Account a ha had).trans hbh.symm)
  have hv1 := h.v1
  rw [← had, hab, hbd, h.notV1] at hv1
  cases hv1

/-- No pair of the v1 DID is recorded while the DID has an account of its own. -/
theorem exec_pairs {s : Relay} (acts : List HandleAction) {a : DidAccount}
    (ha : a ∈ s.didAccounts.rows) {m : DidElixMigration} (had : a.did = m.v1Did)
    (hm : m ∈ (exec (handleStep E) s acts).didElixMigrations.rows) :
    m ∈ s.didElixMigrations.rows := by
  by_contra hnot
  obtain ⟨pre, act, post, rfl, hbefore, hafter⟩ := exists_step_of_not
    (P := fun t : Relay => m ∈ t.didElixMigrations.rows) hnot hm
  obtain ⟨b, hb, hba⟩ := exec_account E pre ha
  rcases handleStep_kept E (exec (handleStep E) s pre) act with h | ⟨row, t, hrow, ht, hsame, -⟩
  · exact hbefore (h.migrations ▸ hafter)
  · rw [hsame] at hafter
    rcases (Table.mem_insert ht).1 hafter with hm' | rfl
    · exact hbefore hm'
    · exact not_recorded_of_account hb (hba.trans had) hrow

/-- **In every run of safe calls lookups by handle agree with the accounts.**  The invariant has
three parts: the index is sound, handles that are equal up to case are one account's, and each
recorded pair has the account and the anchor that it was made from.  The last part tells who
answers for a handle that an account gave up. -/
theorem handle_index_agrees (fold : String → String) (E : Env) {s₀ : Relay}
    (h₀ : HandleInv fold s₀) (acts : List HandleAction)
    (hsafe : Along (handleStep E) (HandleSafe fold E) s₀ acts) : HandleRun fold E s₀ acts := by
  have hstep : ∀ s act, HandleInv fold s → HandleSafe fold E s act →
      HandleInv fold (handleStep E s act) := fun s act h hact => h.step act hact
  have hinv := hsafe.invariant hstep h₀
  refine ⟨hinv.agreement, ?_⟩
  rintro pre post rfl a ha b hb hba hne heq
  have hpre := (along_append.1 hsafe).1.invariant hstep h₀
  obtain ⟨c, hc, hch, hcd⟩ := hinv.getByHandle_eq_some_iff.1 heq
  rcases canonical_cases (exec (handleStep E) s₀ (pre ++ post)) c.did with hd | ⟨m, hm, hmd, hv1⟩
  · -- the account that has the handle is the one that gave it up
    rw [hd] at hcd
    rw [account_eq_of_did hb hc (hba.trans hcd.symm)] at hne
    exact hne hch
  · -- the handle is that of a legacy account, which had it when its pair was recorded
    have had : a.did = m.v1Did := hcd.symm.trans hv1
    obtain ⟨x, hx, hxd, hxh⟩ := (hinv.backed m hm).account
    rw [account_eq_of_did hx hc (hxd.trans hmd)] at hxh
    rw [exec_append] at hm
    have hbacked := hpre.backed m (exec_pairs E post ha had hm)
    obtain ⟨y, hy, hyd, hyh⟩ := hbacked.account
    have hay := account_eq_of_handle ha hy (hch.symm.trans (hxh.trans hyh.symm))
    have hv := hbacked.v1
    rw [← had, hay, hyd, hbacked.notV1] at hv
    cases hv

def lowerHandle (handle : String) : String := String.ofList ((chars handle).map Char.toLower)

/-- The first key of the toy platform under a handle. -/
def toyPut (handle : String) : HandleAction :=
  .put 0 Reputation.toyDid (toyKeyHex 1) handle { signingAlgorithm := "p256-sha256" }

/-- A handle is given up after a restart, before the old one is looked up. -/
def renamedRun : List HandleAction :=
  [toyPut "alice.elix.cool", .restart, toyPut "ann.elix.cool"]

theorem handleInv_empty (fold : String → String) : HandleInv fold Relay.empty where
  sound _ _ hd := nomatch hd
  apart _ ha := absurd ha List.not_mem_nil
  backed _ hm := absurd hm List.not_mem_nil

theorem renamed_safe :
    Along (handleStep .toy) (HandleSafe lowerHandle .toy) Relay.empty renamedRun :=
  ⟨.inr (by decide +kernel), trivial, .inr (by decide +kernel), trivial⟩

theorem handle_index_agrees_renamed :
    HandleRun lowerHandle .toy Relay.empty renamedRun ∧
      (getByHandle "ann.elix.cool" (exec (handleStep .toy) Relay.empty renamedRun)).1
        = some Reputation.toyDid ∧
      (getByHandle "alice.elix.cool" (exec (handleStep .toy) Relay.empty renamedRun)).1 = none :=
  ⟨handle_index_agrees lowerHandle .toy (handleInv_empty _) renamedRun renamed_safe,
    by decide +kernel⟩

/-- Without the restart the index still has the old handle. -/
def staleRun : List HandleAction := [toyPut "alice.elix.cool", toyPut "ann.elix.cool"]

theorem stale_handle :
    (getByHandle "alice.elix.cool" (exec (handleStep .toy) Relay.empty staleRun)).1
        = some Reputation.toyDid ∧
      (exec (handleStep .toy) Relay.empty staleRun).didAccounts.rows.map (·.handle)
        = ["ann.elix.cool"] := by
  decide +kernel

/-- A new handle for a DID leaves the old one in the index. -/
theorem handle_index_not_agrees : ¬ HandleRun lowerHandle .toy Relay.empty staleRun := by
  intro h
  obtain ⟨hanswer, hrows⟩ := stale_handle
  obtain ⟨a, ha, hah, -⟩ := (h.answers _ _).1 hanswer
  have hmem := List.mem_map_of_mem (f := DidAccount.handle) ha
  rw [hrows, hah] at hmem
  exact absurd hmem (by simp)

end DidAccountCache

end Ansible
