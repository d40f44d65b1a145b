import Ansible.Relay.HandleIndex

/-!
# The versions of keys

An account and a verified identity hold the key of a DID, each under a version, and a
rotation is a compare-and-swap on both.

## Main results

* `VersionsAgree.rotate_succeeds` — **a rotation that both keys have signed is carried out.**
-/

namespace Ansible

open AnchorStore

/-! ### Agreement -/

/-- An account and a verified identity hold one key under one version. -/
structure OneKey (a : DidAccount) (v : VerifiedDid) : Prop where
  did : v.did = a.did
  version : v.keyVersion = a.keyVersion
  key : (v.signingAlgorithm, v.publicKeyHex) = (a.signingAlgorithm, a.publicKeyHex)

/-- A cached account is under the key and the version of the stored one. -/
structure SameEntry (a : DidAccount) (e : AccountEntry) : Prop where
  version : e.keyVersion = a.keyVersion
  key : (e.signingAlgorithm, e.publicKeyHex) = (a.signingAlgorithm, a.publicKeyHex)

/-- Every account has a verified identity with its key and version, and what is cached of it is
what is stored. -/
structure VersionsAgree (s : Relay) : Prop where
  recorded : ∀ a ∈ s.didAccounts.rows, ∃ v ∈ s.verifiedDids.rows, OneKey a v
  cached : ∀ a ∈ s.didAccounts.rows, ∀ e, s.didAccountCache a.did = some e → SameEntry a e
  positive : ∀ a ∈ s.didAccounts.rows, 0 < a.keyVersion
  nullifier : ∀ v ∈ s.verifiedDids.rows, v.nullifier = IdentityV2.v2Nullifier v.did

theorem versionsAgree_empty : VersionsAgree Relay.empty := by
  constructor <;> exact fun _ h => absurd h List.not_mem_nil

variable {s t : Relay} {v : VerifiedDid} {a : DidAccount} {E : Env} {now : Time} {did key : String}
  {reg : IdentityV2.Admitted}

theorem verified_eq_of_did {w : VerifiedDid} (hv : v ∈ s.verifiedDids.rows)
    (hw : w ∈ s.verifiedDids.rows) (h : v.did = w.did) : v = w :=
  s.verifiedDids.valid.did.eq hv hw rfl rfl h

/-- The rows are as before, and nothing is cached that was not, but for the stored accounts. -/
theorem VersionsAgree.of_same (h : VersionsAgree s) (haccounts : t.didAccounts = s.didAccounts)
    (hverified : t.verifiedDids = s.verifiedDids)
    (hcached : ∀ a ∈ s.didAccounts.rows, ∀ e, t.didAccountCache a.did = some e →
      s.didAccountCache a.did = some e ∨ SameEntry a e) : VersionsAgree t where
  recorded a ha := by
    rw [haccounts] at ha
    rw [hverified]
    exact h.recorded a ha
  cached a ha e he := by
    rw [haccounts] at ha
    rcases hcached a ha e he with he | he
    · exact h.cached a ha e he
    · exact he
  positive a ha := h.positive a (haccounts ▸ ha)
  nullifier v hv := h.nullifier v (hverified ▸ hv)

theorem VersionsAgree.of_accounts (h : VersionsAgree s) (hsame : s.SameAccounts t)
    (hverified : t.verifiedDids = s.verifiedDids) : VersionsAgree t :=
  h.of_same hsame.didAccounts hverified fun _ _ _ he => .inl (hsame.didAccountCache ▸ he)

/-! ### Lookups -/

theorem sameEntry_entryOf (a : DidAccount) : SameEntry a (DidAccountCache.entryOf a) := ⟨rfl, rfl⟩

theorem getFromDb_of_mem (ha : a ∈ s.didAccounts.rows) :
    (DidAccountCache.getFromDb a.did s).1 = some (DidAccountCache.entryOf a) := by
  have hfind : s.didAccounts.find (·.did == a.did) = some a :=
    MigrationStore.find_account.2 ⟨ha, rfl⟩
  rw [DidAccountCache.getFromDb, hfind]

theorem get_of_row (ha : a ∈ s.didAccounts.rows) :
    ∃ e t, DidAccountCache.get a.did s = (some e, t) := by
  unfold DidAccountCache.get
  split
  · exact ⟨_, _, rfl⟩
  · exact ⟨_, _, Prod.ext (getFromDb_of_mem ha) rfl⟩

theorem getFromDb_rows (did : String) (s : Relay) :
    (DidAccountCache.getFromDb did s).2.didAccounts = s.didAccounts := by
  rcases DidAccountCache.getFromDb_eq did s with h | ⟨e, h⟩ <;> rw [h]

theorem get_rows (did : String) (s : Relay) :
    (DidAccountCache.get did s).2.didAccounts = s.didAccounts := by
  unfold DidAccountCache.get
  split
  · rfl
  · exact getFromDb_rows did s

theorem VersionsAgree.getFromDb (h : VersionsAgree s) (did : String) :
    VersionsAgree (DidAccountCache.getFromDb did s).2 := by
  refine h.of_same (getFromDb_rows did s) (DidAccountCache.getFromDb_verified did s).verifiedDids
    fun a ha e he => ?_
  have hfound := fun hd : a.did = did => hd ▸ getFromDb_of_mem ha
  rcases DidAccountCache.getFromDb_eq did s with heq | ⟨e', heq⟩
  · rw [heq] at he
    exact .inl he
  · rw [heq] at he hfound
    rcases Ets.of_insert he with he | ⟨hd, rfl⟩
    · exact .inl he
    · obtain rfl := Option.some.inj (hfound hd)
      exact .inr (sameEntry_entryOf a)

theorem VersionsAgree.get (h : VersionsAgree s) (did : String) :
    VersionsAgree (DidAccountCache.get did s).2 := by
  unfold DidAccountCache.get
  split
  · exact h
  · exact h.getFromDb did

theorem VersionsAgree.get_of_mem (h : VersionsAgree s) (ha : a ∈ s.didAccounts.rows) :
    ∃ e, (DidAccountCache.get a.did s).1 = some e ∧ SameEntry a e := by
  unfold DidAccountCache.get
  split
  · next e he => exact ⟨e, rfl, h.cached a ha e he⟩
  · exact ⟨_, getFromDb_of_mem ha, sameEntry_entryOf a⟩

theorem VersionsAgree.getByHandle (h : VersionsAgree s) (handle : String) :
    VersionsAgree (DidAccountCache.getByHandle handle s).2 := by
  unfold DidAccountCache.getByHandle
  split
  · exact h
  split
  · exact h
  next account _ =>
  dsimp only
  have hget := h.getFromDb (DidAccountCache.canonicalDidForAccount s account.did)
  generalize DidAccountCache.getFromDb (DidAccountCache.canonicalDidForAccount s account.did) s = r
    at hget
  obtain ⟨_ | _, t⟩ := r <;> exact hget

theorem IdentityCache.get_verifiedDids (now : Time) (did : String) (s : Relay) :
    (IdentityCache.get now did s).2.verifiedDids = s.verifiedDids := by
  rcases IdentityCache.get_eq now did s with ⟨h, -⟩ | ⟨e, -, h⟩ <;> rw [h]

theorem versionsAgree_stable : Stable VersionsAgree where
  nonces h hsame := h.of_accounts hsame.accounts hsame.verified.verifiedDids
  account did h := h.get did
  accountByHandle handle h := h.getByHandle handle
  identity now did h :=
    h.of_accounts (IdentityCache.get_core now did _).2 (IdentityCache.get_verifiedDids now did _)

/-! ### Writes of an account -/

/-- What a write of an account leaves of the rows: those before it, or its row among them. -/
theorem put_rows (E : Env) (now : Time) (did key handle : String)
    (opts : DidAccountCache.PutOpts) (s : Relay) :
    (DidAccountCache.put E now did key handle opts s).2.didAccounts = s.didAccounts ∨
      0 < opts.keyVersion ∧
        ∀ a ∈ (DidAccountCache.put E now did key handle opts s).2.didAccounts.rows,
          a ∈ s.didAccounts.rows ∨ a.did = did ∧ a.keyVersion = opts.keyVersion ∧
            (a.signingAlgorithm, a.publicKeyHex) = (opts.signingAlgorithm, key) := by
  unfold DidAccountCache.put
  dsimp only
  split
  · split
    · next t ht =>
      refine .inr ⟨?_, fun a ha => ?_⟩
      · unfold DidAccountCache.writeThrough at ht
        split at ht
        · next hstorable =>
          simp only [DidAccountCache.storable, DidAccountCache.checked, Bool.and_eq_true,
            decide_eq_true_eq] at hstorable
          exact hstorable.1.1.1.1.2
        · cases ht
      · rcases DidAccountCache.mem_of_writeThrough ht ha with ha | rfl
        · exact .inl ha
        · exact .inr ⟨rfl, rfl, rfl⟩
    · exact .inl rfl
  · exact .inl rfl

theorem put_cache (E : Env) (now : Time) (did key handle : String)
    (opts : DidAccountCache.PutOpts) (s : Relay) :
    ∃ e : AccountEntry, e.keyVersion = opts.keyVersion ∧
      (e.signingAlgorithm, e.publicKeyHex) = (opts.signingAlgorithm, key) ∧
      (DidAccountCache.put E now did key handle opts s).2.didAccountCache
        = s.didAccountCache.insert did e := by
  unfold DidAccountCache.put
  dsimp only
  split
  · split <;> exact ⟨_, rfl, rfl, rfl⟩
  · exact ⟨_, rfl, rfl, rfl⟩

/-- The verified identities hold the key of the DID, under the version. -/
def HoldsKey (s : Relay) (did : String) (key : String × String) (version : ℤ) : Prop :=
  ∃ v ∈ s.verifiedDids.rows, v.did = did ∧ (v.signingAlgorithm, v.publicKeyHex) = key ∧
    v.keyVersion = version

/-- **A write of an account keeps the agreement when the verified identities hold its key.** -/
theorem VersionsAgree.put (h : VersionsAgree s) {handle : String} {opts : DidAccountCache.PutOpts}
    (hkey : HoldsKey s did (opts.signingAlgorithm, key) opts.keyVersion) :
    VersionsAgree (DidAccountCache.put E now did key handle opts s).2 := by
  have hverified := (DidAccountCache.put_verified E now did key handle opts s).verifiedDids
  obtain ⟨e, hversion, hentry, hcache⟩ := put_cache E now did key handle opts s
  obtain ⟨v, hv, hvd, hvk, hvv⟩ := hkey
  have hrows : ∀ a ∈ (DidAccountCache.put E now did key handle opts s).2.didAccounts.rows,
      a ∈ s.didAccounts.rows ∨ OneKey a v ∧ 0 < a.keyVersion := by
    intro a ha
    rcases put_rows E now did key handle opts s with hsame | ⟨hpos, hrows⟩
    · exact .inl (hsame ▸ ha)
    · rcases hrows a ha with ha | ⟨had, hav, hak⟩
      · exact .inl ha
      · exact .inr ⟨⟨hvd.trans had.symm, hvv.trans hav.symm, hvk.trans hak.symm⟩, hav ▸ hpos⟩
  -- the row of the DID is the one that is written, or has its key already
  have hone : ∀ a ∈ (DidAccountCache.put E now did key handle opts s).2.didAccounts.rows,
      a.did = did → OneKey a v := by
    intro a ha had
    rcases hrows a ha with ha | ⟨hone, -⟩
    · obtain ⟨w, hw, hwone⟩ := h.recorded a ha
      rwa [verified_eq_of_did hw hv (hwone.did.trans (had.trans hvd.symm))] at hwone
    · exact hone
  refine ⟨fun a ha => ?_, fun a ha x hx => ?_, fun a ha => ?_, fun w hw => ?_⟩
  · rw [hverified]
    rcases hrows a ha with ha | ⟨hone, -⟩
    · exact h.recorded a ha
    · exact ⟨v, hv, hone⟩
  · rw [hcache] at hx
    by_cases had : a.did = did
    · rw [had, Ets.insert_self] at hx
      cases hx
      have ho := hone a ha had
      exact ⟨hversion.trans (hvv.symm.trans ho.version), hentry.trans (hvk.symm.trans ho.key)⟩
    · rw [Ets.insert_of_ne had] at hx
      rcases hrows a ha with hmem | ⟨ho, -⟩
      · exact h.cached a hmem x hx
      · exact absurd (ho.did.symm.trans hvd) had
  · rcases hrows a ha with ha | ⟨-, hpos⟩
    · exact h.positive a ha
    · exact hpos
  · exact h.nullifier w (hverified ▸ hw)

/-- A write that the database refuses keeps the agreement when the DID has no account. -/
theorem VersionsAgree.put_raised {u : Relay} (h : VersionsAgree s) {handle : String}
    {opts : DidAccountCache.PutOpts} (hnone : ∀ a ∈ s.didAccounts.rows, a.did ≠ did)
    (hput : DidAccountCache.put E now did key handle opts s = (.raised, u)) : VersionsAgree u := by
  obtain ⟨e, -, -, hcache⟩ := put_cache E now did key handle opts s
  have hverified := (DidAccountCache.put_verified E now did key handle opts s).verifiedDids
  have haccounts : u.didAccounts = s.didAccounts := by
    unfold DidAccountCache.put at hput
    dsimp only at hput
    split at hput
    · split at hput
      · cases hput
      · rw [← (Prod.mk.inj hput).2]
    · cases hput
  rw [hput] at hcache hverified
  refine h.of_same haccounts hverified fun a ha x hx => .inl ?_
  rwa [hcache, Ets.insert_of_ne (hnone a ha)] at hx

/-- An account that is written back under another tier. -/
theorem VersionsAgree.present {V : VpEnv} {params : Json} {e : AccountEntry} {tier : String}
    (h : VersionsAgree t) (hpresents : Presents params s did e t)
    (hmem : ∃ a ∈ t.didAccounts.rows, a.did = did) :
    VersionsAgree (DidAccountCache.put V.toEnv now did e.publicKeyHex e.handle
      { reputationTier := tier, signingAlgorithm := e.signingAlgorithm,
        keyVersion := e.keyVersion } t).2 := by
  obtain ⟨a, ha, rfl⟩ := hmem
  obtain ⟨e', he', hsame⟩ := h.get_of_mem ha
  rw [hpresents.cached] at he'
  cases he'
  obtain ⟨v, hv, hone⟩ := h.recorded a ha
  exact h.put ⟨v, hv, hone.did, hone.key.trans hsame.key.symm,
    hone.version.trans hsame.version.symm⟩

/-! ### Writes of a verified identity -/

/-- What a write of a verified identity leaves of the rows. -/
structure Identified (t t' : VerifiedTable) (v : VerifiedDid) : Prop where
  self : ∃ x ∈ t'.rows, x.did = v.did ∧ x.keyVersion = v.keyVersion ∧
    (x.signingAlgorithm, x.publicKeyHex) = (v.signingAlgorithm, v.publicKeyHex)
  other : ∀ x ∈ t.rows, x.did ≠ v.did → x ∈ t'.rows
  nullifier : ∀ x ∈ t'.rows, x ∈ t.rows ∨ x = v ∨
    ∃ y ∈ t.rows, x.did = y.did ∧ x.nullifier = y.nullifier

theorem identified_of_writeThrough {t t' : VerifiedTable}
    (h : IdentityCache.writeThrough t v = some t') : Identified t t' v := by
  unfold IdentityCache.writeThrough at h
  split at h
  · unfold Table.upsert at h
    split at h
    · next hany =>
      obtain ⟨y, hy, hyd⟩ := List.any_eq_true.1 hany
      refine ⟨⟨_, (Table.mem_update h).2 ⟨y, hy, rfl⟩, ?_⟩, fun x hx hne => ?_, fun x hx => ?_⟩
      · rw [if_pos hyd]
        exact ⟨beq_iff_eq.1 hyd, rfl, rfl⟩
      · refine (Table.mem_update h).2 ⟨x, hx, if_neg fun hd => hne (beq_iff_eq.1 hd)⟩
      · obtain ⟨y, hy, rfl⟩ := (Table.mem_update h).1 hx
        refine .inr (.inr ⟨y, hy, ?_⟩)
        split <;> exact ⟨rfl, rfl⟩
    · refine ⟨⟨v, (Table.mem_insert h).2 (.inr rfl), rfl, rfl, rfl⟩,
        fun x hx _ => (Table.mem_insert h).2 (.inl hx), fun x hx => ?_⟩
      rcases (Table.mem_insert h).1 hx with hx | rfl
      · exact .inl hx
      · exact .inr (.inl rfl)
  · cases h

/-- A row is written when it fits its columns and no other identity has its nullifier. -/
theorem writeThrough_isSome {t : VerifiedTable} (hstorable : IdentityCache.storable v = true)
    (hfree : ∀ x ∈ t.rows, x.nullifier = v.nullifier → x.did = v.did) :
    (IdentityCache.writeThrough t v).isSome = true := by
  unfold IdentityCache.writeThrough Table.upsert
  rw [if_pos hstorable]
  split
  · refine Table.commit_isSome.2 ⟨?_, ?_⟩
    · exact t.valid.did.map (fun x => by split <;> rfl) fun _ _ => rfl
    · exact t.valid.nullifier.map (fun x => by split <;> rfl) fun _ _ => rfl
  · next hany =>
    rw [List.any_eq_true, not_exists] at hany
    have hnone : ∀ x ∈ t.rows, x.did ≠ v.did := fun x hx hd =>
      hany x ⟨hx, beq_iff_eq.2 hd⟩
    refine Table.commit_isSome.2 ⟨?_, ?_⟩
    · exact t.valid.did.append_new fun x hx => hnone x hx
    · exact t.valid.nullifier.append_new fun x hx hn => hnone x hx (hfree x hx hn)

theorem v2Nullifier_inj {did' : String}
    (h : IdentityV2.v2Nullifier did = IdentityV2.v2Nullifier did') : did = did' := by
  unfold IdentityV2.v2Nullifier at h
  have hchars := List.append_cancel_left (String.ofList_inj.1 h)
  rw [chars_eq_toList, chars_eq_toList] at hchars
  exact String.toList_inj.1 hchars

theorem IdentityCache.put_rows (E : Env) (now : Time) (did key : String)
    (nullifier : Option String) (expiresAt : Option Time) (algorithm : String) (s : Relay) :
    (IdentityCache.put E now did key nullifier expiresAt algorithm s).2.verifiedDids
        = (IdentityCache.writeThrough s.verifiedDids
          { did, publicKeyHex := key, signingAlgorithm := algorithm, keyVersion := 1,
            nullifier := nullifier.getD "",
            expiresAt := expiresAt.getD (now + seconds E.didCacheTtlSeconds) }).getD
          s.verifiedDids := by
  unfold IdentityCache.put
  dsimp only
  split <;> next h => rw [h]; rfl

/-- The row that a registration writes to the verified identities. -/
def identityRow (E : Env) (now : Time) (reg : IdentityV2.Admitted) : VerifiedDid where
  did := reg.did
  publicKeyHex := reg.publicKeyHex
  signingAlgorithm := reg.algorithm
  keyVersion := 1
  nullifier := IdentityV2.v2Nullifier reg.did
  expiresAt := now + seconds E.didCacheTtlSeconds

theorem putIdentity_rows (E : Env) (now : Time) (reg : IdentityV2.Admitted) (s : Relay) :
    (IdentityV2.putIdentity E now reg s).2.verifiedDids
      = (IdentityCache.writeThrough s.verifiedDids (identityRow E now reg)).getD s.verifiedDids :=
  IdentityCache.put_rows ..

theorem putIdentity_accounts (E : Env) (now : Time) (reg : IdentityV2.Admitted) (s : Relay) :
    s.SameAccounts (IdentityV2.putIdentity E now reg s).2 := (IdentityCache.put_core ..).2

theorem nullifier_putIdentity
    (h : ∀ v ∈ s.verifiedDids.rows, v.nullifier = IdentityV2.v2Nullifier v.did) :
    ∀ v ∈ (IdentityV2.putIdentity E now reg s).2.verifiedDids.rows,
      v.nullifier = IdentityV2.v2Nullifier v.did := by
  intro v hv
  rw [putIdentity_rows] at hv
  cases ht : IdentityCache.writeThrough s.verifiedDids (identityRow E now reg) with
  | none =>
    rw [ht] at hv
    exact h v hv
  | some t =>
    rw [ht] at hv
    rcases (identified_of_writeThrough ht).nullifier v hv with hv | rfl | ⟨y, hy, hd, hn⟩
    · exact h v hv
    · rfl
    · rw [hn, hd]
      exact h y hy

/-- A write of a verified identity keeps the agreement when the account of the DID is under its
key at version one. -/
theorem VersionsAgree.putIdentity (h : VersionsAgree t)
    (hone : ∀ a ∈ t.didAccounts.rows, a.did = reg.did → a.keyVersion = 1 ∧
      (a.signingAlgorithm, a.publicKeyHex) = (reg.algorithm, reg.publicKeyHex)) :
    VersionsAgree (IdentityV2.putIdentity E now reg t).2 := by
  have haccounts := putIdentity_accounts E now reg t
  refine ⟨fun a ha => ?_, fun a ha e he => ?_, fun a ha => ?_, nullifier_putIdentity h.nullifier⟩
  · rw [haccounts.didAccounts] at ha
    obtain ⟨v, hv, hav⟩ := h.recorded a ha
    rw [putIdentity_rows]
    cases ht : IdentityCache.writeThrough t.verifiedDids (identityRow E now reg) with
    | none => exact ⟨v, hv, hav⟩
    | some u =>
      have hid := identified_of_writeThrough ht
      by_cases had : a.did = reg.did
      · obtain ⟨x, hx, hxd, hxv, hxk⟩ := hid.self
        obtain ⟨hversion, hkey⟩ := hone a ha had
        exact ⟨x, hx, hxd.trans had.symm, hxv.trans hversion.symm, hxk.trans hkey.symm⟩
      · exact ⟨v, hid.other v hv (hav.did.trans_ne had), hav⟩
  · rw [haccounts.didAccounts] at ha
    rw [haccounts.didAccountCache] at he
    exact h.cached a ha e he
  · rw [haccounts.didAccounts] at ha
    exact h.positive a ha

/-! ### A new registration -/

/-- The database has taken the account, so the identity is taken too, when the DID is not too
long for the column of nullifiers. -/
theorem VersionsAgree.fresh {u : Relay} (h : VersionsAgree t)
    (hnone : ∀ a ∈ t.didAccounts.rows, a.did ≠ reg.did) (hput : putAccount E now reg t = (.ok, u))
    (hfits : fitsVarchar (IdentityV2.v2Nullifier reg.did) = true) :
    VersionsAgree (IdentityV2.putIdentity E now reg u).2 := by
  have hu : u = (putAccount E now reg t).2 := by rw [hput]
  have hverified : u.verifiedDids = t.verifiedDids := by
    rw [hu]
    exact (DidAccountCache.put_verified ..).verifiedDids
  have haccounts := putIdentity_accounts E now reg u
  obtain ⟨e, hev, hek, hcache⟩ := put_cache E now reg.did reg.publicKeyHex reg.handle
    { signingAlgorithm := reg.algorithm } t
  -- an account of the DID was written just now, and its fields fit the identity as well
  have hrows : ∀ a ∈ u.didAccounts.rows, a ∈ t.didAccounts.rows ∧ a.did ≠ reg.did ∨
      a.did = reg.did ∧ a.keyVersion = 1 ∧
        (a.signingAlgorithm, a.publicKeyHex) = (reg.algorithm, reg.publicKeyHex) ∧
        IdentityCache.storable (identityRow E now reg) = true := by
    intro a ha
    rw [hu, putAccount] at ha
    unfold putAccount DidAccountCache.put at hput
    unfold DidAccountCache.put at ha
    dsimp only at ha hput
    split at ha
    · next hpersist =>
      rw [if_pos hpersist] at hput
      split at ha
      · next accounts ht =>
        rcases DidAccountCache.mem_of_writeThrough ht ha with ha | rfl
        · exact .inl ⟨ha, hnone a ha⟩
        · refine .inr ⟨rfl, rfl, rfl, ?_⟩
          unfold DidAccountCache.writeThrough at ht
          split at ht
          · next hstorable =>
            simp only [DidAccountCache.storable, Bool.and_eq_true] at hstorable
            simp only [IdentityCache.storable, identityRow, Bool.and_eq_true]
            exact ⟨⟨⟨hstorable.1.1.1.1, hstorable.1.1.1.2⟩, hstorable.1.1.2⟩, hfits⟩
          · cases ht
      · next hrefused =>
        rw [hrefused] at hput
        cases hput
    · exact .inl ⟨ha, hnone a ha⟩
  refine ⟨fun a ha => ?_, fun a ha x hx => ?_, fun a ha => ?_,
    nullifier_putIdentity (hverified ▸ h.nullifier)⟩
  · rw [haccounts.didAccounts] at ha
    rw [putIdentity_rows, hverified]
    rcases hrows a ha with ⟨ha, had⟩ | ⟨had, hav, hak, hstorable⟩
    · obtain ⟨v, hv, hone⟩ := h.recorded a ha
      cases ht : IdentityCache.writeThrough t.verifiedDids (identityRow E now reg) with
      | none => exact ⟨v, hv, hone⟩
      | some w =>
        exact ⟨v, (identified_of_writeThrough ht).other v hv (hone.did.trans_ne had), hone⟩
    · obtain ⟨w, ht⟩ := Option.isSome_iff_exists.1 (writeThrough_isSome (t := t.verifiedDids)
        hstorable fun x hx hn => v2Nullifier_inj ((h.nullifier x hx).symm.trans hn))
      rw [ht]
      obtain ⟨x, hx, hxd, hxv, hxk⟩ := (identified_of_writeThrough ht).self
      exact ⟨x, hx, hxd.trans had.symm, hxv.trans hav.symm, hxk.trans hak.symm⟩
  · rw [haccounts.didAccounts] at ha
    rw [haccounts.didAccountCache, hu, putAccount, hcache] at hx
    rcases hrows a ha with ⟨ha, had⟩ | ⟨had, hav, hak, -⟩
    · rw [Ets.insert_of_ne had] at hx
      exact h.cached a ha x hx
    · rw [had, Ets.insert_self] at hx
      cases hx
      exact ⟨hev.trans hav.symm, hek.trans hak.symm⟩
  · rw [haccounts.didAccounts] at ha
    rcases hrows a ha with ⟨ha, -⟩ | ⟨-, hav, -⟩
    · exact h.positive a ha
    · rw [hav]
      exact one_pos

/-! ### Rotations -/

/-- The rows of a rotation: those of the DID are under the new key and the next version. -/
structure RotatedRows (did : String) (version : ℤ) (key : String × String) (s : Relay)
    (accounts : AccountTable) (verified : VerifiedTable) : Prop where
  account : ∀ x ∈ accounts.rows, x ∈ s.didAccounts.rows ∧ (x.did ≠ did ∨ x.keyVersion ≠ version) ∨
    (∃ y ∈ s.didAccounts.rows, y.did = did ∧ y.keyVersion = version) ∧ x.did = did ∧
      x.keyVersion = version + 1 ∧ (x.signingAlgorithm, x.publicKeyHex) = key
  kept : ∀ x ∈ s.verifiedDids.rows, x.did ≠ did ∨ x.keyVersion ≠ version → x ∈ verified.rows
  moved : ∃ x ∈ verified.rows, x.did = did ∧ x.keyVersion = version + 1 ∧
    (x.signingAlgorithm, x.publicKeyHex) = key
  nullifier : ∀ x ∈ verified.rows, ∃ y ∈ s.verifiedDids.rows, x.did = y.did ∧
    x.nullifier = y.nullifier

theorem rotatedRows_of_rotateRows {version : ℤ} {algorithm : String} {accounts : AccountTable}
    {verified : VerifiedTable}
    (h : DidAccountCache.rotateRows did version key algorithm s = .ok (accounts, verified)) :
    RotatedRows did version (algorithm, key) s accounts verified := by
  unfold DidAccountCache.rotateRows at h
  split at h
  · cases h
  split at h
  · cases h
  next hany =>
  split at h
  · cases h
  split at h
  · next t t' ht ht' =>
    cases h
    obtain ⟨y, hy, hyd⟩ := List.any_eq_true.1 (not_not.1 hany)
    refine ⟨fun x hx => ?_, fun x hx hne => ?_, ⟨_, (Table.mem_update ht').2 ⟨y, hy, rfl⟩, ?_⟩,
      fun x hx => ?_⟩
    · obtain ⟨r, hr, rfl⟩ := (Table.mem_update ht).1 hx
      split
      · next hk =>
        rw [Bool.and_eq_true, beq_iff_eq, beq_iff_eq] at hk
        exact .inr ⟨⟨r, hr, hk⟩, hk.1, rfl, rfl⟩
      · next hk =>
        rw [Bool.and_eq_true, beq_iff_eq, beq_iff_eq, not_and_or] at hk
        exact .inl ⟨hr, hk⟩
    · refine (Table.mem_update ht').2 ⟨x, hx, if_neg ?_⟩
      rw [Bool.and_eq_true, beq_iff_eq, beq_iff_eq]
      rintro ⟨hd, hv⟩
      rcases hne with hne | hne
      · exact hne hd
      · exact hne hv
    · rw [if_pos hyd]
      rw [Bool.and_eq_true, beq_iff_eq] at hyd
      exact ⟨hyd.1, rfl, rfl⟩
    · obtain ⟨r, hr, rfl⟩ := (Table.mem_update ht').1 hx
      refine ⟨r, hr, ?_⟩
      split <;> exact ⟨rfl, rfl⟩
  · cases h

/-- **A rotation keeps the agreement**: both rows move on, and the caches are evicted. -/
theorem VersionsAgree.rotated (h : VersionsAgree s) (did : String) (version : ℤ)
    (key algorithm : String) :
    VersionsAgree (DidAccountCache.rotateKey did version key algorithm s).2 := by
  rcases DidAccountCache.rotateKey_eq did version key algorithm s with heq |
    ⟨accounts, verified, hrows, heq⟩
  · rw [heq]
    exact h
  have hrot := rotatedRows_of_rotateRows hrows
  rw [heq]
  refine VersionsAgree.get ⟨fun a ha => ?_, fun a ha e he => ?_, fun a ha => ?_, fun v hv => ?_⟩ did
  · rcases hrot.account a ha with ⟨ha, hne⟩ | ⟨-, had, hav, hak⟩
    · obtain ⟨v, hv, hone⟩ := h.recorded a ha
      refine ⟨v, hrot.kept v hv ?_, hone⟩
      rw [hone.did, hone.version]
      exact hne
    · obtain ⟨x, hx, hxd, hxv, hxk⟩ := hrot.moved
      exact ⟨x, hx, hxd.trans had.symm, hxv.trans hav.symm, hxk.trans hak.symm⟩
  · obtain ⟨hne, he⟩ := Ets.of_delete he
    rcases hrot.account a ha with ⟨ha, -⟩ | ⟨-, had, -⟩
    · exact h.cached a ha e he
    · exact absurd had hne
  · rcases hrot.account a ha with ⟨ha, -⟩ | ⟨⟨y, hy, -, hyv⟩, -, hav, -⟩
    · exact h.positive a ha
    · have hpos := h.positive y hy
      omega
  · obtain ⟨y, hy, hd, hn⟩ := hrot.nullifier v hv
    rw [hn, hd]
    exact h.nullifier y hy

/-- The rows of an account and its identity under one version can be rotated. -/
theorem rotateRows_eq_ok (key : String) (ha : a ∈ s.didAccounts.rows)
    (hv : v ∈ s.verifiedDids.rows) (hone : OneKey a v) {algorithm : String}
    (hchecked : DidAccountCache.checked algorithm (a.keyVersion + 1) = true) :
    ∃ accounts verified, DidAccountCache.rotateRows a.did a.keyVersion key algorithm s
      = .ok (accounts, verified) ∧ ∃ x ∈ accounts.rows, x.did = a.did := by
  have hanya : (s.didAccounts.rows.any fun x => x.did == a.did && x.keyVersion == a.keyVersion)
      = true := List.any_eq_true.2 ⟨a, ha, by simp⟩
  have hanyv : (s.verifiedDids.rows.any fun x => x.did == a.did && x.keyVersion == a.keyVersion)
      = true := List.any_eq_true.2 ⟨v, hv, by simp [hone.did, hone.version]⟩
  obtain ⟨accounts, haccounts⟩ : ∃ t, s.didAccounts.update
      (fun x => x.did == a.did && x.keyVersion == a.keyVersion)
      (fun x => { x with publicKeyHex := key, signingAlgorithm := algorithm,
                         keyVersion := a.keyVersion + 1 }) = some t := by
    refine Option.isSome_iff_exists.1 (Table.commit_isSome.2 ⟨?_, ?_⟩)
    · exact s.didAccounts.valid.did.map (fun x => by split <;> rfl) fun _ _ => rfl
    · exact s.didAccounts.valid.handle.map (fun x => by split <;> rfl) fun _ _ => rfl
  obtain ⟨verified, hverified⟩ : ∃ t, s.verifiedDids.update
      (fun x => x.did == a.did && x.keyVersion == a.keyVersion)
      (fun x => { x with publicKeyHex := key, signingAlgorithm := algorithm,
                         keyVersion := a.keyVersion + 1 }) = some t := by
    refine Option.isSome_iff_exists.1 (Table.commit_isSome.2 ⟨?_, ?_⟩)
    · exact s.verifiedDids.valid.did.map (fun x => by split <;> rfl) fun _ _ => rfl
    · exact s.verifiedDids.valid.nullifier.map (fun x => by split <;> rfl) fun _ _ => rfl
  refine ⟨accounts, verified, ?_, _, (Table.mem_update haccounts).2 ⟨a, ha, rfl⟩, ?_⟩
  · unfold DidAccountCache.rotateRows
    rw [if_neg (not_not.2 hanya), if_neg (not_not.2 hanyv), if_neg (not_not.2 hchecked), haccounts,
      hverified]
  · split <;> rfl

theorem checked_of_rotationFields {params : Json} {rot : IdentityV2.Rotation}
    (h : IdentityV2.rotationFields E now params = .ok rot) {version : ℤ} (hpos : 0 < version) :
    DidAccountCache.checked rot.algorithm version = true := by
  simp only [IdentityV2.rotationFields, bind_eq_ok] at h
  obtain ⟨_, -, _, -, _, -, _, -, _, -, _, -, h⟩ := h
  split at h <;> simp only [bind_eq_ok] at h
  swap
  · obtain ⟨_, hnot, -⟩ := h
    cases hnot
  obtain ⟨_, -, _, -, _, -, ⟨algorithm, key⟩, hkey, _, -, h⟩ := h
  have hvalid := IdentityV2.validatePublicKey_eq_ok hkey
  have hrot : rot.algorithm = algorithm := by
    split at h
    · rw [← Except.ok.inj h]
    · cases h
  unfold IdentityV2.validPublicKey at hvalid
  dsimp only at hvalid
  rw [hrot, DidAccountCache.checked, Bool.and_eq_true, Bool.or_eq_true, beq_iff_eq, beq_iff_eq,
    decide_eq_true_eq]
  refine ⟨?_, hpos⟩
  split at hvalid
  · next hed => exact .inl hed
  · split at hvalid
    · next hp => exact .inr hp
    · cases hvalid

/-- Rotations of an account under its version, signed by its key and by the new one, succeed. -/
def RotationsSucceed (E : Env) (s : Relay) : Prop :=
  ∀ a ∈ s.didAccounts.rows, ∀ now params rot, IdentityV2.rotationFields E now params = .ok rot →
    rot.did = a.did → rot.expectedVersion = a.keyVersion →
    IdentityV2.rotationSigned E.toPlatform a.signingAlgorithm a.publicKeyHex params
      rot.oldSignature = true →
    IdentityV2.rotationSigned E.toPlatform rot.algorithm rot.publicKeyHex params
      rot.newSignature = true →
    ∃ entry, (IdentityV2.rotateKey E now params s).1 = .rotated a.did entry

/-- **A rotation that both keys have signed is carried out.** -/
theorem VersionsAgree.rotate_succeeds (h : VersionsAgree s) : RotationsSucceed E s := by
  intro a ha now params rot hfields hdid hversion hold hnew
  obtain ⟨e, hget, hsame⟩ := h.get_of_mem ha
  obtain ⟨halg, hkey⟩ := Prod.mk.inj hsame.key
  -- the transaction succeeds in the state that the lookup leaves
  have haccounts := get_rows a.did s
  have hverified := (DidAccountCache.get_verified a.did s).verifiedDids
  obtain ⟨v, hv, hone⟩ := h.recorded a ha
  have hpos := h.positive a ha
  generalize ht : (DidAccountCache.get a.did s).2 = t at haccounts hverified
  have hlookup : DidAccountCache.get rot.did s = (some e, t) := by
    rw [hdid, ← ht, ← hget]
  obtain ⟨accounts, verified, hrows, x, hx, hxd⟩ := rotateRows_eq_ok rot.publicKeyHex
    (s := t) (a := a) (v := v) (haccounts.symm ▸ ha) (hverified.symm ▸ hv) hone
    (checked_of_rotationFields hfields (show 0 < a.keyVersion + 1 by omega))
  unfold IdentityV2.rotateKey
  rw [hfields]
  dsimp only
  rw [hlookup]
  dsimp only
  rw [if_pos ⟨hsame.version.trans hversion.symm, by rw [halg, hkey]; exact hold, hnew⟩]
  unfold DidAccountCache.rotateKey
  rw [hdid, hversion, hrows]
  dsimp only
  -- the account is read back from its row
  generalize hu : ({ t with
    didAccounts := accounts
    verifiedDids := verified
    didAccountCache := t.didAccountCache.delete a.did
    verifiedDidCache := t.verifiedDidCache.delete a.did } : Relay) = u
  have hxu : x ∈ u.didAccounts.rows := by
    rw [← hu]
    exact hx
  obtain ⟨entry, w, hfound⟩ := get_of_row hxu
  rw [hxd] at hfound
  rw [hfound]
  exact ⟨entry, rfl⟩

end Ansible
